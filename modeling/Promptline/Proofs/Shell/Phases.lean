import Promptline.Shell.Loop

/-! The loop of a shell with its workers in between.  A line is carried out first, and then both
prompts are triggered for the next read; a worker or a timer may move before, between and after the
two. -/

namespace Promptline.Shell

/-- What happens to a shell: a worker or a timer moves, something happens while the shell waits for
input, or the loop goes on to the next read. -/
inductive Happening where
  | moved (side : Side) (m : Move)
  | event (e : Event)
  | turned

/-- A shell, and whether its loop is at a read or has just carried out a line. -/
structure Phased where
  shell : Shell
  isReading : Bool := true

namespace Phased

/-- The shell waits for input. -/
def waits (p : Phased) : Bool := p.isReading && p.shell.ending.isNone

/-- The shell after a happening.  A line is carried out only when one is read, and the loop goes on
only after that. -/
def step (p : Phased) : Happening → Phased
  | .moved side m => { p with shell := p.shell.move side m }
  | .event (.ended r) => if p.waits then ⟨p.shell.answer r, false⟩ else p
  | .event e => { p with shell := p.shell.step e }
  | .turned => if p.isReading then p else ⟨p.shell.turn, true⟩

/-- The shell after happenings in order. -/
def run (p : Phased) (happenings : List Happening) : Phased := happenings.foldl step p

theorem run_append (p : Phased) (first second : List Happening) :
    p.run (first ++ second) = (p.run first).run second :=
  List.foldl_append

theorem ending_of_waits {p : Phased} (h : p.waits = true) : p.shell.ending = none :=
  Option.isNone_iff_eq_none.mp (Bool.and_eq_true_iff.mp h).2

end Phased

/-- An event of a shell whose workers do not move meanwhile. -/
def Event.happenings : Event → List Happening
  | .ended r => [.event (.ended r), .turned]
  | e => [.event e]

theorem Phased.run_happenings (s : Shell) (e : Event) :
    (⟨s, true⟩ : Phased).run e.happenings = ⟨s.step e, true⟩ := by
  cases e with
  | ended r =>
    cases h : s.ending with
    | none => simp [run, Event.happenings, step, waits, Shell.step, andThen, h]
    | some ending => simp [run, Event.happenings, step, waits, Shell.step, andThen, h]
  | _ => rfl

/-- The events of a shell are happenings of its phases. -/
theorem Phased.run_flatMap_happenings (s : Shell) (events : List Event) :
    (⟨s, true⟩ : Phased).run (events.flatMap Event.happenings) =
      ⟨events.foldl Shell.step s, true⟩ := by
  induction events generalizing s with
  | nil => rfl
  | cons e rest ih => rw [List.flatMap_cons, run_append, run_happenings, ih, List.foldl_cons]

/-! ### Carrying out a line leaves the prompts alone -/

/-- Both prompts are what they were. -/
structure LeavesPrompts (s s' : Shell) : Prop where
  left : s'.left = s.left
  right : s'.right = s.right

namespace LeavesPrompts

variable {s s' s'' : Shell}

theorem refl (s : Shell) : LeavesPrompts s s := ⟨rfl, rfl⟩

theorem trans (h : LeavesPrompts s s') (h' : LeavesPrompts s' s'') : LeavesPrompts s s'' :=
  ⟨h'.left.trans h.left, h'.right.trans h.right⟩

theorem after (h : LeavesPrompts s' s'') (left : s'.left = s.left) (right : s'.right = s.right) :
    LeavesPrompts s s'' :=
  ⟨h.left.trans left, h.right.trans right⟩

variable (s)

theorem perform (d : Deed) : LeavesPrompts s (s.perform d) := by
  unfold Shell.perform
  split <;> exact ⟨rfl, rfl⟩

theorem stop : LeavesPrompts s s.stop := by
  have said := perform s (.say "Goodbye")
  unfold Shell.stop
  generalize s.perform (.say "Goodbye") = t at said ⊢
  exact ⟨said.left, said.right⟩

theorem andThen {f : Shell → Shell} (h : ∀ s, LeavesPrompts s (f s)) :
    LeavesPrompts s (s.andThen f) := by
  unfold Shell.andThen
  split
  · exact refl s
  · exact h s

theorem append (text : String) : LeavesPrompts s (s.append text) := by
  unfold Shell.append
  dsimp only
  split <;> exact ⟨rfl, rfl⟩

theorem remember (text : String) : LeavesPrompts s (s.remember text) := by
  unfold Shell.remember
  split
  · exact refl s
  · exact append s text

theorem reportWrite : LeavesPrompts s s.reportWrite := by
  unfold Shell.reportWrite
  dsimp only
  split
  · exact (perform _ _).after rfl rfl
  · exact ⟨rfl, rfl⟩

theorem conclude (out : Console.Outcome) : LeavesPrompts s (s.conclude out) := by
  have printed : LeavesPrompts s (if out.printed = "" then s else s.perform (.page out.printed)) := by
    split
    · exact refl s
    · exact perform s _
  unfold Shell.conclude
  generalize (if out.printed = "" then s else s.perform (.page out.printed)) = t at printed ⊢
  dsimp only
  split
  · exact printed.trans (perform t _)
  · exact printed
  · exact printed.trans (stop t)
  · exact printed.trans ⟨rfl, rfl⟩

theorem dotCommand (line : String) : LeavesPrompts s (s.dotCommand line) := by
  unfold Shell.dotCommand
  generalize Console.answer line ⟨s.view, s.settings, s.shared⟩ = out
  dsimp only
  split <;> exact (conclude _ out).after rfl rfl

theorem changeDirectory (arguments : String) : LeavesPrompts s (s.changeDirectory arguments) := by
  unfold Shell.changeDirectory
  dsimp only
  split
  · exact (perform _ _).after rfl rfl
  · exact ⟨rfl, rfl⟩

theorem runProgram (line : String) : LeavesPrompts s (s.runProgram line) := by
  have ran := perform s (.run line)
  unfold Shell.runProgram
  generalize s.perform (.run line) = t at ran ⊢
  dsimp only
  split
  · exact ran
  · exact ran.trans ⟨rfl, rfl⟩
  · exact ran.trans (perform t _)
  · exact ran.trans ⟨rfl, rfl⟩

theorem carryOut (line : Line) : LeavesPrompts s (s.carryOut line) := by
  cases line with
  | blank => exact refl s
  | dotCommand line => exact dotCommand s line
  | changeDirectory arguments => exact changeDirectory s arguments
  | program line => exact runProgram s line

theorem answer (r : Read) : LeavesPrompts s (s.answer r) := by
  have heard := perform s (.read r)
  unfold Shell.answer
  generalize s.perform (.read r) = t at heard ⊢
  cases r with
  | endOfInput => exact heard.trans (stop t)
  | interrupt => exact heard
  | line text =>
    have reported := (heard.trans (remember t text)).trans (andThen _ reportWrite)
    exact reported.trans (andThen _ fun s => carryOut s _)

end LeavesPrompts

theorem left_answer (s : Shell) (r : Read) : (s.answer r).left = s.left :=
  (LeavesPrompts.answer s r).left

end Promptline.Shell
