/-! Cutting a list of characters at separators.  The pieces joined by their separators give the
text back, and no piece holds a separator. -/

namespace Promptline.Text

/-- The pieces of `s` between the characters that satisfy `sep`, empty pieces included. -/
def splitAtEach (sep : Char → Bool) : List Char → List (List Char)
  | [] => [[]]
  | c :: r =>
    if sep c then [] :: splitAtEach sep r
    else
      match splitAtEach sep r with
      | [] => [[c]]
      | p :: ps => (c :: p) :: ps

theorem splitAtEach_ne_nil (sep : Char → Bool) (s : List Char) : splitAtEach sep s ≠ [] := by
  cases s with
  | nil => simp [splitAtEach]
  | cons c r =>
    unfold splitAtEach
    split
    · simp
    · split <;> simp

/-- No piece holds a separator. -/
theorem not_sep_of_mem_splitAtEach {sep : Char → Bool} {s p : List Char} {c : Char}
    (hp : p ∈ splitAtEach sep s) (hc : c ∈ p) : sep c = false := by
  induction s generalizing p with
  | nil => simp [splitAtEach] at hp; simp [hp] at hc
  | cons a r ih =>
    unfold splitAtEach at hp
    split at hp
    · rcases List.mem_cons.mp hp with rfl | hp
      · simp at hc
      · exact ih hp hc
    · rename_i ha
      split at hp
      · simp at hp
        subst hp
        simp at hc
        simpa [hc] using ha
      · rename_i q qs hq
        rcases List.mem_cons.mp hp with rfl | hp
        · rcases List.mem_cons.mp hc with rfl | hc
          · simpa using ha
          · exact ih (hq ▸ List.mem_cons_self) hc
        · exact ih (hq ▸ List.mem_cons_of_mem _ hp) hc

/-- Ends a line, on a terminal or in a text. -/
def endsLine (c : Char) : Bool :=
  ['\n', '\r', '\x0B', '\x0C', '\x1C', '\x1D', '\x1E', '\u0085', '\u2028', '\u2029'].contains c

/-- The lines of `s`, which ends of lines of every kind keep apart; a return and a newline together
are one. -/
def splitLines : List Char → List (List Char)
  | [] => [[]]
  | '\r' :: '\n' :: r => [] :: splitLines r
  | c :: r =>
    if endsLine c then [] :: splitLines r
    else
      match splitLines r with
      | [] => [[c]]
      | l :: ls => (c :: l) :: ls

/-- The lines of `s`, which newlines keep apart. -/
def lines (s : List Char) : List (List Char) := splitAtEach (· == '\n') s

end Promptline.Text
