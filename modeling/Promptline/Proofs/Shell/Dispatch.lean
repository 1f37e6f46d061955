import Promptline.Proofs.Shell.Reports
import Promptline.Proofs.Text.Words

/-! What an accepted line leads to, told by its first word.  The shell looks at the first characters of
the line and not at the word, so it misreads two kinds of lines: `cd` before a blank other than a space,
and a program that is named by a path from a dot. -/

namespace Promptline.Shell

open Promptline.Console Promptline.History Promptline.Store Promptline.Text

/-- What a line asks for, by its first word: `cd` changes the directory, a word that starts with a dot
and is no path is a dot-command, and any other word names a program. -/
def Line.byWord (text : String) : Line :=
  let stripped := trim text.toList
  match (words text.toList).head? with
  | none => .blank
  | some word =>
    if word = ['c', 'd'] then .changeDirectory (String.ofList (stripped.drop 2))
    else if word.head? = some '.' && !word.contains '/' then .dotCommand (String.ofList stripped)
    else .program (String.ofList stripped)

/-- The first word of `text` is `cd` with a blank other than a space after it, or a path from a dot. -/
def isMisread (text : String) : Bool :=
  match (words text.toList).head? with
  | none => false
  | some word =>
    if word = ['c', 'd'] then (trim text.toList)[2]?.any (· ≠ ' ')
    else word.head? = some '.' && word.contains '/'

/-- The programs that a line asks for. -/
def Line.programs : Line → List String
  | .program line => [line]
  | .blank | .dotCommand _ | .changeDirectory _ => []

/-- The shell reads a line by its first word unless it misreads it. -/
theorem read_eq_byWord_iff (text : String) :
    Line.read text = Line.byWord text ↔ isMisread text = false := by
  unfold Line.read Line.byWord isMisread
  rw [head?_words_eq_trim]
  split
  · next h => simp [h]
  · next r h =>
    have word : ('.' :: r).takeWhile (!isBlank ·) = '.' :: r.takeWhile (!isBlank ·) := rfl
    rw [h, if_neg (by simp), word]
    cases ('.' :: r.takeWhile (!isBlank ·)).contains '/' <;> simp
  · next h =>
    rw [h]
    decide
  · next r h =>
    have word : ('c' :: 'd' :: ' ' :: r).takeWhile (!isBlank ·) = ['c', 'd'] := rfl
    rw [h, if_neg (by simp), word]
    simp
  · next hnil hdot hcd hspace =>
    generalize trim text.toList = t at *
    rw [if_neg hnil]
    by_cases hword : t.takeWhile (!isBlank ·) = ['c', 'd']
    · -- A word `cd` that the patterns have left over has something after it, and this is no space.
      obtain ⟨e, r, rfl, he⟩ : ∃ e r, t = 'c' :: 'd' :: e :: r ∧ e ≠ ' ' := by
        obtain ⟨r, rfl⟩ : ∃ r, t = 'c' :: 'd' :: r :=
          (hword ▸ List.takeWhile_prefix _ : ['c', 'd'] <+: t).imp fun _ => Eq.symm
        cases r with
        | nil => exact absurd rfl hcd
        | cons e r =>
          refine ⟨e, r, rfl, ?_⟩
          rintro rfl
          exact hspace r rfl
      simp [hword, he]
    · have head : (t.takeWhile (!isBlank ·)).head? ≠ some '.' := by
        intro head
        obtain ⟨w, hw⟩ := List.head?_eq_some_iff.mp head
        obtain ⟨r, hr⟩ := List.takeWhile_prefix (l := t) (!isBlank ·)
        rw [hw] at hr
        exact hdot _ hr.symm
      simp [hword, head]

/-! ### The programs that are run -/

theorem programsOf_append (ds ds' : List Deed) :
    programsOf (ds ++ ds') = programsOf ds ++ programsOf ds' :=
  List.filterMap_append

/-- Neither a read nor a report runs a program. -/
theorem programsOf_heard (r : Read) (es : List StoreError) :
    programsOf (.read r :: es.map .report) = [] := by
  induction es with
  | nil => rfl
  | cons e es ih => exact ih

variable {s : Shell}

theorem programsOf_perform {d : Deed} (other : ∀ line, d ≠ .run line) :
    programsOf (s.perform d).deeds = programsOf s.deeds := by
  have none : programsOf [d] = [] := by
    cases d with
    | run line => exact absurd rfl (other line)
    | _ => rfl
  unfold perform
  split
  · rw [programsOf_append, none, List.append_nil]
  · rfl

theorem programsOf_conclude (out : Console.Outcome) :
    programsOf (s.conclude out).deeds = programsOf s.deeds := by
  unfold conclude
  dsimp only
  split <;> split <;> simp [stop, breakOff, programsOf_perform]

/-- What a line does runs the programs that it asks for, and no others. -/
theorem programsOf_carryOut (s : Shell) (line : Line) :
    programsOf (s.carryOut line).deeds = programsOf s.deeds ++ line.programs := by
  cases line with
  | blank => exact (List.append_nil _).symm
  | dotCommand line =>
    rw [Line.programs, List.append_nil]
    unfold carryOut dotCommand
    dsimp only
    generalize Console.answer line ⟨s.view, s.settings, s.shared⟩ = out
    rw [programsOf_conclude]
    split <;> rfl
  | changeDirectory arguments =>
    rw [Line.programs, List.append_nil]
    unfold carryOut changeDirectory
    dsimp only
    split
    · exact programsOf_perform (by simp)
    · rfl
  | program line =>
    have ran : programsOf (s.perform (.run line)).deeds = programsOf s.deeds ++ [line] :=
      programsOf_append _ _
    unfold carryOut runProgram
    dsimp only
    split
    · exact ran
    · exact ran
    · exact (programsOf_perform (by simp)).trans ran
    · exact ran

/-- However long a session has been open and whatever has happened in it: an accepted line that is not
misread is carried out as its first word says, once it is in the history and the report of a failed
write has been printed.  If the word names a program, the line runs it once, without the blanks around
it; no other line runs a program.  The lines that are misread are those that the shell reads in
another way. -/
theorem dispatched_meetAll {new : Backend} (isNew : new.IsNew) {shared rest : Shared}
    (reaches : new.Comes shared.backend) {settings : Settings} {surroundings : Surroundings}
    (hopen : openOn shared settings surroundings = (.ok s, rest)) (incidents : List Incident) :
    let p := (⟨s, true⟩ : Phased).meetAll incidents
    (∀ i text, p.accepted? i = some text → isMisread text = false →
      (p.heard i text).ending = none ∧
        (p.heard i text).deeds =
          p.shell.deeds ++ .read (.line text) :: (p.failed i).map .report ∧
        (p.meet i).shell = (p.heard i text).carryOut (Line.byWord text) ∧
        programsOf (p.meet i).shell.deeds =
          programsOf p.shell.deeds ++ (Line.byWord text).programs) ∧
      ∀ text, Line.read text = Line.byWord text ↔ isMisread text = false := by
  intro p
  have attentive : p.shell.Attentive :=
    Phased.attentive_meetAll (attentive_openOn isNew reaches hopen) incidents
  refine ⟨fun i text accepted known => ?_, read_eq_byWord_iff⟩
  obtain ⟨-, goesOn, hdeeds⟩ := Phased.heard_spec attentive accepted
  have carried := Phased.meet_heard attentive accepted
  rw [(read_eq_byWord_iff text).mpr known] at carried
  refine ⟨goesOn, hdeeds, carried, ?_⟩
  rw [carried, programsOf_carryOut, hdeeds, programsOf_append, programsOf_heard, List.append_nil]

/-- A program after the swap of a history, with blanks around it. -/
theorem dispatched_program :
    let p := (⟨unread, true⟩ : Phased).meetAll swapped
    let typed : Incident := .happening (.event (.ended (.line "\tmake -j4 ")))
    (∃ rest, openOn emptyStore {} atWork = (.ok unread, rest)) ∧
      p.accepted? typed = some "\tmake -j4 " ∧ isMisread "\tmake -j4 " = false ∧
      programsOf (p.meet typed).shell.deeds = programsOf p.shell.deeds ++ ["make -j4"] := by
  intro p typed
  have isNew : emptyStore.backend.IsNew := .memory []
  have hopen : openOn emptyStore {} atWork = (.ok unread, (View.openOn emptyStore).2) := by rfl
  have accepted : p.accepted? typed = some "\tmake -j4 " := by decide +kernel
  have known : isMisread "\tmake -j4 " = false := by decide +kernel
  have asked : (Line.byWord "\tmake -j4 ").programs = ["make -j4"] := by decide +kernel
  obtain ⟨dispatched, -⟩ := dispatched_meetAll isNew (.refl _) hopen swapped
  obtain ⟨-, -, -, ran⟩ := dispatched typed _ accepted known
  rw [asked] at ran
  exact ⟨⟨_, hopen⟩, accepted, known, ran⟩

/-- A tab after `cd`: the word is `cd`, and yet the line is run as a program and the directory stays
what it was.  A path from a dot is taken for a dot-command, and no program runs. -/
theorem dispatched_tab :
    let tabbed := (⟨unread, true⟩ : Phased).meet (.happening (.event (.ended (.line "cd\t/srv"))))
    let path := (⟨unread, true⟩ : Phased).meet (.happening (.event (.ended (.line "./x"))))
    Line.byWord "cd\t/srv" = .changeDirectory "\t/srv" ∧
      programsOf tabbed.shell.deeds = ["cd\t/srv"] ∧
      tabbed.shell.surroundings.directory = some "/work" ∧
      Line.byWord "./x" = .program "./x" ∧ programsOf path.shell.deeds = [] := by
  decide +kernel

end Promptline.Shell
