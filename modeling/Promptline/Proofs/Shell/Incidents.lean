import Promptline.Proofs.History.Opening
import Promptline.Proofs.Shell.Phases
import Promptline.Proofs.Store.Numbering

/-! What happens to a shell and to its store while lines come in, and what this does to the histories
of the line editor.  Most of what a shell does keeps its view, its line histories and its records.
Only a `.sync` that succeeds replaces the view, and then the line editor goes on with a new history. -/

namespace Promptline.Store

/-- Whatever happens to a shared store happens to it event by event. -/
theorem Shared.comes_after (s : Shared) (o : Occurrence) : s.backend.Comes (s.after o).backend := by
  cases o with
  | attach => exact s.comes_attach
  | next => exact s.comes_next
  | add d => exact s.comes_add d
  | fail | arrive | note => exact .refl _
  | interfere x => exact ⟨[.interfere x], rfl⟩

end Promptline.Store

namespace Promptline.Console

open Promptline.History Promptline.Store

/-- A dot-command that does not ask the line editor to read the view anew leaves it alone. -/
theorem DotCommand.run_view (c : DotCommand) (b : Bench) (stays : (c.run b).reloads = false) :
    (c.run b).bench.view = b.view := by
  by_cases hc : c = .sync
  · subst hc
    have hrun : DotCommand.sync.run b = Console.sync b := rfl
    rw [hrun] at stays ⊢
    unfold Console.sync at stays ⊢
    split at stays
    · rfl
    · rfl
    · cases stays
  · exact (run_bench b hc).1

theorem DotCommand.run_comes (c : DotCommand) (b : Bench) :
    b.shared.backend.Comes (c.run b).bench.shared.backend := by
  by_cases hc : c = .sync
  · subst hc
    have renewed := View.comes_renew b.view b.shared
    have synced : (Console.sync b).bench.shared = (b.view.renew b.shared).2 := by
      have hsync := sync_bench b
      cases hrenew : b.view.renew b.shared with
      | mk result shared =>
        rw [hrenew] at hsync
        cases result <;> exact (Prod.mk.inj hsync).2
    rwa [← synced] at renewed
  · rw [(run_bench b hc).2]
    exact .refl _

end Promptline.Console

namespace Promptline.Shell

open Promptline.Console Promptline.History Promptline.Store

/-- The deed is neither a read nor the report of a failed write. -/
def Deed.isOwn : Deed → Bool
  | .read _ | .report _ => false
  | _ => true

/-- On the way from `s` to `s'` the shell has read nothing and has reported no failed write. -/
def Minds (s s' : Shell) : Prop := ∃ own, s'.deeds = s.deeds ++ own ∧ ∀ d ∈ own, d.isOwn = true

/-- The shell goes on with its view and its line histories. -/
structure Keeps (s s' : Shell) : Prop where
  view : s'.view = s.view
  histories : s'.histories = s.histories
  edited : s'.edited = s.edited
  polled : s'.polled = s.polled
  backend : s.shared.backend.Comes s'.shared.backend
  minds : Minds s s'

/-- The line editor goes on with a new history, which is asked for failed writes from then on. -/
structure Swaps (s s' : Shell) : Prop where
  histories : s'.histories = s.histories ++ [⟨false, [], none⟩]
  edited : s'.edited = s.histories.length
  polled : s'.polled = s.histories.length
  backend : s.shared.backend.Comes s'.shared.backend
  minds : Minds s s'

variable {s s' s'' : Shell}

theorem Minds.of_same (h : s'.deeds = s.deeds) : Minds s s' :=
  ⟨[], h.trans (List.append_nil _).symm, fun _ hd => (List.not_mem_nil hd).elim⟩

theorem Minds.trans (h : Minds s s') (h' : Minds s' s'') : Minds s s'' := by
  obtain ⟨own, heq, hown⟩ := h
  obtain ⟨own', heq', hown'⟩ := h'
  refine ⟨own ++ own', ?_, List.forall_mem_append.mpr ⟨hown, hown'⟩⟩
  rw [heq', heq, List.append_assoc]

namespace Keeps

theorem refl (s : Shell) : Keeps s s := ⟨rfl, rfl, rfl, rfl, .refl _, .of_same rfl⟩

theorem trans (h : Keeps s s') (h' : Keeps s' s'') : Keeps s s'' where
  view := h'.view.trans h.view
  histories := h'.histories.trans h.histories
  edited := h'.edited.trans h.edited
  polled := h'.polled.trans h.polled
  backend := h.backend.trans h'.backend
  minds := h.minds.trans h'.minds

/-- What ends a shell, or happens around it, is none of its histories' business. -/
theorem around (s : Shell) (settings : Settings) (surroundings : Surroundings)
    (left right : Display) (ending : Option Ending) :
    Keeps s { s with settings, surroundings, left, right, ending } :=
  ⟨rfl, rfl, rfl, rfl, .refl _, .of_same rfl⟩

theorem onShared (s : Shell) {shared : Shared} (h : s.shared.backend.Comes shared.backend) :
    Keeps s { s with shared } :=
  ⟨rfl, rfl, rfl, rfl, h, .of_same rfl⟩

theorem perform (s : Shell) {d : Deed} (own : d.isOwn = true) : Keeps s (s.perform d) := by
  unfold Shell.perform
  split
  · exact ⟨rfl, rfl, rfl, rfl, .refl _, [d], rfl, by simpa using own⟩
  · exact around s ..

theorem stop (s : Shell) : Keeps s s.stop := by
  have said := perform s (d := .say "Goodbye") rfl
  unfold Shell.stop
  generalize s.perform (.say "Goodbye") = t at said ⊢
  exact said.trans (around t ..)

theorem changeDirectory (s : Shell) (arguments : String) :
    Keeps s (s.changeDirectory arguments) := by
  unfold Shell.changeDirectory
  dsimp only
  split
  · exact (around s ..).trans (perform _ rfl)
  · exact around s ..

theorem runProgram (s : Shell) (line : String) : Keeps s (s.runProgram line) := by
  have ran := perform s (d := .run line) rfl
  unfold Shell.runProgram
  generalize s.perform (.run line) = t at ran ⊢
  dsimp only
  split
  · exact ran
  · exact ran.trans (onShared t (.refl _))
  · exact ran.trans (perform t rfl)
  · exact ran.trans (around t ..)

theorem turn (s : Shell) : Keeps s s.turn := by
  unfold Shell.turn
  split <;> exact around s ..

theorem otherAdded (s : Shell) (d : Draft) : Keeps s (s.otherAdded d) := by
  have added := s.shared.comes_add d
  unfold Shell.otherAdded
  split
  · next hadd =>
    rw [hadd] at added
    exact onShared s added
  · next hadd =>
    rw [hadd] at added
    exact (onShared s added).trans ((around _ ..).trans (turn _))

theorem move (s : Shell) (side : Side) (m : Move) : Keeps s (s.move side m) := by
  cases side <;> exact around s ..

end Keeps

theorem Swaps.trans_keeps (h : Swaps s s') (h' : Keeps s' s'') : Swaps s s'' where
  histories := h'.histories.trans h.histories
  edited := h'.edited.trans h.edited
  polled := h'.polled.trans h.polled
  backend := h.backend.trans h'.backend
  minds := h.minds.trans h'.minds

theorem Keeps.conclude (s : Shell) (out : Console.Outcome) : Keeps s (s.conclude out) := by
  have printed : Keeps s (if out.printed = "" then s else s.perform (.page out.printed)) := by
    split
    · exact refl s
    · exact perform s rfl
  unfold Shell.conclude
  generalize (if out.printed = "" then s else s.perform (.page out.printed)) = t at printed ⊢
  dsimp only
  split
  · exact printed.trans (perform t rfl)
  · exact printed
  · exact printed.trans (stop t)
  · exact printed.trans (around t ..)

/-- A dot-command keeps the histories, or swaps them. -/
theorem dotCommand_cases (s : Shell) (line : String) :
    Keeps s (s.dotCommand line) ∨ Swaps s (s.dotCommand line) := by
  have view := (DotCommand.read line).run_view ⟨s.view, s.settings, s.shared⟩
  have comes := (DotCommand.read line).run_comes ⟨s.view, s.settings, s.shared⟩
  unfold Shell.dotCommand Console.answer
  generalize (DotCommand.read line).run ⟨s.view, s.settings, s.shared⟩ = out at view comes ⊢
  dsimp only
  split
  · refine .inr (Swaps.trans_keeps ?_ (.conclude _ out))
    exact ⟨rfl, rfl, rfl, comes, .of_same rfl⟩
  · next stays =>
    refine .inl (Keeps.trans ?_ (.conclude _ out))
    exact ⟨view (eq_false_of_ne_true stays), rfl, rfl, rfl, comes, .of_same rfl⟩

/-- So does whatever a line asks for. -/
theorem carryOut_cases (s : Shell) (line : Line) :
    Keeps s (s.carryOut line) ∨ Swaps s (s.carryOut line) := by
  cases line with
  | blank => exact .inl (.refl s)
  | dotCommand line => exact dotCommand_cases s line
  | changeDirectory arguments => exact .inl (.changeDirectory s arguments)
  | program line => exact .inl (.runProgram s line)

/-! ### Incidents -/

/-- What happens to a shell and around it. -/
inductive Incident where
  | happening (h : Happening)
  /-- A line is accepted that the line editor leaves out of its history. -/
  | unsaved (text : String)
  /-- Something happens to the store. -/
  | occurs (o : Occurrence)

/-- The line that comes in, if the shell waits for one. -/
def Incident.line? : Incident → Option String
  | .happening (.event (.ended (.line text))) | .unsaved text => some text
  | _ => none

/-- The line that is to be put into the history.  An empty one is not. -/
def Incident.stored? : Incident → Option String
  | .happening (.event (.ended (.line text))) => if text = "" then none else some text
  | _ => none

/-- Answers a line that is not put into the history. -/
def answerUnsaved (s : Shell) (text : String) : Shell :=
  ((s.perform (.read (.line text))).andThen reportWrite).andThen (·.carryOut (Line.read text))

namespace Phased

/-- The shell after an incident. -/
def meet (p : Phased) : Incident → Phased
  | .happening h => p.step h
  | .unsaved text => if p.waits then ⟨p.shell.answerUnsaved text, false⟩ else p
  | .occurs o => { p with shell := { p.shell with shared := p.shell.shared.after o } }

/-- The shell after incidents in order. -/
def meetAll (p : Phased) (incidents : List Incident) : Phased := incidents.foldl meet p

/-- The line that is accepted in an incident. -/
def accepted? (p : Phased) (i : Incident) : Option String := if p.waits then i.line? else none

/-- The line that is put into the history in an incident. -/
def stored? (p : Phased) (i : Incident) : Option String := if p.waits then i.stored? else none

end Phased

theorem perform_read (s : Shell) (r : Read) :
    s.perform (.read r) = { s with deeds := s.deeds ++ [.read r] } := rfl

/-- Most of what happens during a read keeps the histories; the user may walk up the one that is
edited. -/
theorem step_cases (s : Shell) {e : Event} (hne : ∀ r, e ≠ .ended r) :
    Keeps s (s.step e) ∨ s.step e = s.loadHistory := by
  unfold Shell.step andThen
  split
  · exact .inl (.refl s)
  cases e with
  | ended r => exact absurd rfl (hne r)
  | typed => exact .inl (.around s ..)
  | recalled => exact .inr rfl
  | otherAdded d => exact .inl (.otherAdded s d)
  | storeFails calls => exact .inl (.onShared s (.refl _))
  | changed f => exact .inl (.around s ..)

/-- What an incident can do to a shell. -/
inductive Meets (p : Phased) : Incident → Shell → Prop where
  | kept {i : Incident} {s : Shell} (other : p.accepted? i = none) (keeps : Keeps p.shell s) :
      Meets p i s
  | recalled {i : Incident} (other : p.accepted? i = none) : Meets p i p.shell.loadHistory
  | ended {r : Read} (waits : p.waits = true) (other : ∀ text, r ≠ .line text) :
      Meets p (.happening (.event (.ended r))) (p.shell.answer r)
  | accepted (text : String) (waits : p.waits = true) :
      Meets p (.happening (.event (.ended (.line text)))) (p.shell.answer (.line text))
  | unsaved (text : String) (waits : p.waits = true) :
      Meets p (.unsaved text) (p.shell.answerUnsaved text)

namespace Phased

variable {p : Phased} {i : Incident}

theorem accepted?_eq_none (h : p.waits = false ∨ i.line? = none) : p.accepted? i = none := by
  unfold accepted?
  obtain h | h := h <;> rw [h]
  · rfl
  · split <;> rfl

theorem line?_ended {r : Read} (h : ∀ text, r ≠ .line text) :
    Incident.line? (.happening (.event (.ended r))) = none := by
  cases r with
  | line text => exact absurd rfl (h text)
  | endOfInput | interrupt => rfl

theorem accepted?_of_stored? {text : String} (stored : p.stored? i = some text) :
    p.accepted? i = some text := by
  unfold stored? at stored
  unfold accepted?
  split at stored
  · next waits =>
    rw [if_pos waits]
    unfold Incident.stored? at stored
    split at stored
    · split at stored <;> cases stored
      rfl
    · cases stored
  · cases stored

theorem meets_event (p : Phased) (e : Event) :
    Meets p (.happening (.event e)) (p.step (.event e)).shell := by
  -- A read ends only while the shell waits.  All other events are steps of the shell.
  by_cases hread : ∃ r, e = .ended r
  · obtain ⟨r, rfl⟩ := hread
    simp only [step]
    split
    · next waits =>
      cases r with
      | line text => exact .accepted text waits
      | endOfInput | interrupt => exact .ended waits fun _ => Read.noConfusion
    · next idle => exact .kept (accepted?_eq_none (.inl (eq_false_of_ne_true idle))) (.refl _)
  · have hne : ∀ r, e ≠ .ended r := fun r he => hread ⟨r, he⟩
    have other : Incident.line? (.happening (.event e)) = none := by
      cases e with
      | ended r => exact absurd rfl (hne r)
      | _ => rfl
    have hstep : (p.step (.event e)).shell = p.shell.step e := by
      cases e with
      | ended r => exact absurd rfl (hne r)
      | _ => rfl
    rw [hstep]
    obtain kept | recalled := step_cases p.shell hne
    · exact .kept (accepted?_eq_none (.inr other)) kept
    · rw [recalled]
      exact .recalled (accepted?_eq_none (.inr other))

/-- Every incident. -/
theorem meets (p : Phased) (i : Incident) : Meets p i (p.meet i).shell := by
  cases i with
  | unsaved text =>
    rw [meet]
    split
    · next waits => exact .unsaved text waits
    · next idle => exact .kept (accepted?_eq_none (.inl (eq_false_of_ne_true idle))) (.refl _)
  | occurs o =>
    exact .kept (accepted?_eq_none (.inr rfl)) (.onShared p.shell (p.shell.shared.comes_after o))
  | happening happening =>
    cases happening with
    | moved side m => exact .kept (accepted?_eq_none (.inr rfl)) (.move p.shell side m)
    | turned =>
      refine .kept (accepted?_eq_none (.inr rfl)) ?_
      rw [meet, step]
      split
      · exact .refl _
      · exact .turn p.shell
    | event e => exact p.meets_event e

end Phased

/-! ### Writing a line to the history -/

/-- Adds `text` to the store, as a line that is entered now. -/
def writing (s : Shell) (text : String) : Except Failure (Int × View) × Shared :=
  s.view.add ⟨text, s.shared.clock.now, s.surroundings.directory.getD ""⟩
    { s.shared with clock := s.shared.clock.tick }

/-- The history that is edited, with `text` in front and what comes of writing it. -/
def written (s : Shell) (text : String) (unreported : Option StoreError) : List LineHistory :=
  s.histories.set s.edited ⟨s.lines.isLoaded, text :: s.lines.lines, unreported⟩

/-- A line that is put into the history comes into view once it is stored.  An error of the store is
kept for later, and any other failure breaks the loop off. -/
theorem append_cases (s : Shell) (text : String) :
    (∃ n view shared, s.writing text = (.ok (n, view), shared) ∧
      s.append text = { s with
        histories := s.written text s.lines.unreported, view := view, shared := shared }) ∨
    (∃ e shared message, s.writing text = (.error (.store e), shared) ∧
      s.append text = { s with
        histories := s.written text (some e), shared := shared.log .lines .warning message }) ∨
    ∃ f, (s.writing text).1 = .error f ∧ ¬f.IsStoreError := by
  cases hwriting : s.writing text with
  | mk result shared =>
    have hadd := hwriting
    unfold writing at hadd
    unfold append LineHistory.append LineHistory.store
    simp only [hadd]
    match result with
    | .ok (n, view) => exact .inl ⟨n, view, shared, rfl, rfl⟩
    | .error (.store e) => exact .inr (.inl ⟨e, shared, _, rfl, rfl⟩)
    | .error .boundTooLarge | .error .zeroInPath | .error (.unwritten _ _) =>
      refine .inr (.inr ⟨_, rfl, ?_⟩)
      rintro ⟨e, he⟩
      cases he

theorem comes_writing (s : Shell) (text : String) :
    s.shared.backend.Comes (s.writing text).2.backend := by
  have added := Shared.comes_add { s.shared with clock := s.shared.clock.tick }
    ⟨text, s.shared.clock.now, s.surroundings.directory.getD ""⟩
  unfold writing View.add
  split <;> next hadd => rwa [hadd] at added

/-- What has been opened fails with errors of the store only. -/
theorem isStoreError_of_writing {text : String} {f : Failure} (h : s.shared.backend.Reports)
    (hwriting : (s.writing text).1 = .error f) : f.IsStoreError := by
  have ticked : ({ s.shared with clock := s.shared.clock.tick } : Shared).backend.Reports := h
  unfold writing View.add at hwriting
  split at hwriting <;> cases hwriting
  next hadd => exact Shared.isStoreError_of_add ticked hadd

end Promptline.Shell
