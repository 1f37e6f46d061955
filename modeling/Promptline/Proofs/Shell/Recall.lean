import Promptline.Proofs.Shell.Incidents
import Promptline.Proofs.Shell.Whereabouts

/-! The line history holds what is in view.  The two are kept by different hands and in opposite
order: a line goes in front of the history and at the end of the view, the history is read once from
the view, and a `.sync` replaces both.  Whenever the history has been read, its lines are the texts in
view. -/

namespace Promptline.Shell

open Promptline.Console Promptline.History Promptline.Store

/-- The line history that is edited, once it has been read, holds the texts in view. -/
def Recalls (s : Shell) : Prop :=
  s.lines.isLoaded = true → s.lines.oldestFirst = s.view.all.map Record.text

variable {s s' : Shell}

/-- Only what is edited counts, and of this only what has been read. -/
theorem Recalls.of_lines (h : s.Recalls) (view : s'.view = s.view)
    (isLoaded : s'.lines.isLoaded = s.lines.isLoaded) (lines : s'.lines.lines = s.lines.lines) :
    s'.Recalls := by
  intro loaded
  rw [view, LineHistory.oldestFirst, lines]
  exact h (isLoaded ▸ loaded)

theorem Recalls.keeps (h : s.Recalls) (k : Keeps s s') : s'.Recalls := by
  have same : s'.lines = s.lines := by rw [lines, lines, k.edited, k.histories]
  exact h.of_lines k.view (by rw [same]) (by rw [same])

/-- A new history has not been read. -/
theorem Recalls.swaps (w : Swaps s s') : s'.Recalls := by
  intro loaded
  have new : s'.lines = ⟨false, [], none⟩ := by
    rw [lines, w.edited, w.histories, List.getD_eq_getElem?_getD, List.getElem?_concat_length]
    rfl
  rw [new] at loaded
  cases loaded

/-- The history that is edited is the one that was written to, if there is one at all. -/
theorem lines_set (ls : List LineHistory) (i : Nat) (l : LineHistory) :
    (ls.set i l).getD i {} = l ∨ (ls.set i l).getD i {} = {} := by
  rw [List.getD_eq_getElem?_getD]
  by_cases hlt : i < ls.length
  · exact .inl (by rw [List.getElem?_set_self hlt]; rfl)
  · have hlt : (ls.set i l).length ≤ i := by simpa using hlt
    exact .inr (by rw [List.getElem?_eq_none hlt]; rfl)

theorem Recalls.of_set {l : LineHistory} (edited : s'.edited = s.edited)
    (histories : s'.histories = s.histories.set s.edited l)
    (h : l.isLoaded = true → l.oldestFirst = s'.view.all.map Record.text) : s'.Recalls := by
  have hlines : s'.lines = l ∨ s'.lines = {} := by
    rw [lines, edited, histories]
    exact lines_set s.histories s.edited l
  intro loaded
  obtain hl | hl := hlines <;> rw [hl] at loaded ⊢
  · exact h loaded
  · cases loaded

/-- The history is read from the view, once. -/
theorem Recalls.loadHistory (h : s.Recalls) : s.loadHistory.Recalls := by
  refine .of_set (s := s) rfl rfl fun _ => ?_
  show (s.lines.load s.view).oldestFirst = _
  unfold LineHistory.load
  split
  · next loaded => exact h loaded
  · exact List.reverse_reverse _

/-- A line that is stored comes into the history and into view. -/
theorem Recalls.append (h : s.Recalls) {text : String} {stored : Int × View}
    (stores : (s.writing text).1 = .ok stored) : (s.append text).Recalls := by
  obtain ⟨n, view, shared, hwriting, happend⟩ | ⟨e, shared, message, hwriting, -⟩ |
    ⟨f, hwriting, -⟩ := s.append_cases text
  · have hview : view.all.map Record.text = s.view.all.map Record.text ++ [text] := by
      unfold writing View.add at hwriting
      split at hwriting <;> cases hwriting
      simp [View.all, Draft.numbered]
    rw [happend]
    refine .of_set (s := s) rfl rfl fun loaded => ?_
    show (text :: s.lines.lines).reverse = view.all.map Record.text
    rw [hview, List.reverse_cons, ← h loaded, LineHistory.oldestFirst]
  · rw [hwriting] at stores
    cases stores
  · cases stores.symm.trans hwriting

theorem Recalls.perform (h : s.Recalls) (d : Deed) : (s.perform d).Recalls := by
  unfold Shell.perform
  split <;> exact h

/-- To ask a history for failed writes leaves its lines alone. -/
theorem Recalls.reportWrite (h : s.Recalls) : s.reportWrite.Recalls := by
  let taken := (s.histories.getD s.polled {}).takeError.2
  have asked : Recalls { s with histories := s.histories.set s.polled taken } := by
    -- The history that is asked may be another one than the one that is edited.
    by_cases hpolled : s.polled = s.edited
    · have hlines : taken = s.lines.takeError.2 := by rw [lines, ← hpolled]
      rw [hlines, hpolled]
      exact .of_set (s := s) rfl rfl h
    · have same : (s.histories.set s.polled taken).getD s.edited {} = s.lines := by
        rw [List.getD_eq_getElem?_getD, List.getElem?_set_ne hpolled,
          ← List.getD_eq_getElem?_getD, lines]
      exact h.of_lines rfl (congrArg _ same) (congrArg _ same)
  unfold Shell.reportWrite
  dsimp only
  split
  · exact asked.perform _
  · exact asked

theorem Recalls.andThen (h : s.Recalls) {f : Shell → Shell} (hf : ∀ s, s.Recalls → (f s).Recalls) :
    (s.andThen f).Recalls := by
  unfold Shell.andThen
  split
  · exact h
  · exact hf s h

theorem Recalls.carryOut (h : s.Recalls) (line : Line) : (s.carryOut line).Recalls := by
  obtain kept | swapped := carryOut_cases s line
  · exact h.keeps kept
  · exact .swaps swapped

/-- Once a line is in its place, the failed write is reported and the line carried out. -/
theorem Recalls.follow (h : s.Recalls) (line : Line) :
    ((s.andThen Shell.reportWrite).andThen (·.carryOut line)).Recalls :=
  (h.andThen fun _ h => h.reportWrite).andThen fun _ h => h.carryOut line

/-- A line that is accepted is stored, unless it is empty. -/
theorem Recalls.answer (h : s.Recalls) {text : String}
    (stores : text ≠ "" → ∃ stored, (s.writing text).1 = .ok stored) :
    (s.answer (.line text)).Recalls := by
  have heard := h.perform (.read (.line text))
  suffices remembered : ((s.perform (.read (.line text))).remember text).Recalls from
    remembered.follow (Line.read text)
  unfold remember
  split
  · exact heard
  · next htext =>
    obtain ⟨stored, hstored⟩ := stores htext
    exact heard.append hstored

/-- A read that ends without a line. -/
theorem Recalls.ended (h : s.Recalls) {r : Read} (hr : ∀ text, r ≠ .line text) :
    (s.answer r).Recalls := by
  cases r with
  | line text => exact absurd rfl (hr text)
  | interrupt => exact h.perform (.read .interrupt)
  | endOfInput =>
    have heard := h.perform (.read .endOfInput)
    exact heard.keeps (.stop (s.perform (.read .endOfInput)))

/-- What is done to the histories of a shell. -/
inductive Step where
  | incident (i : Incident)
  /-- The line editor reads its history, if it has not done so yet. -/
  | load
  /-- The line editor puts any text into its history. -/
  | append (text : String)
  /-- The loop carries out a dot-command that nobody has accepted. -/
  | command (line : String)

namespace Phased

variable {p : Phased}

/-- The shell after a step. -/
def take (p : Phased) : Step → Phased
  | .incident i => p.meet i
  | .load => { p with shell := p.shell.loadHistory }
  | .append text => { p with shell := p.shell.append text }
  | .command line => { p with shell := p.shell.dotCommand line }

/-- The shell after steps in order. -/
def takeAll (p : Phased) (steps : List Step) : Phased := steps.foldl take p

/-- The text that a step is to write to the history. -/
def writes? (p : Phased) : Step → Option String
  | .incident i => p.stored? i
  | .append text => some text
  | .load | .command _ => none

/-- What a step is to write to the history is stored. -/
def stores (p : Phased) (step : Step) : Bool :=
  (p.writes? step).all fun text => (p.shell.writing text).1.isOk

/-- Whatever steps in order are to write to the history is stored. -/
def storesAll (p : Phased) : List Step → Bool
  | [] => true
  | step :: steps => p.stores step && (p.take step).storesAll steps

theorem stored_of_stores {step : Step} {text : String} (stores : p.stores step = true)
    (writes : p.writes? step = some text) : ∃ stored, (p.shell.writing text).1 = .ok stored := by
  rw [Phased.stores, writes, Option.all_some] at stores
  cases hwriting : (p.shell.writing text).1 with
  | ok stored => exact ⟨stored, rfl⟩
  | error f =>
    rw [hwriting] at stores
    cases stores

theorem recalls_meet (h : p.shell.Recalls) {i : Incident} (stores : p.stores (.incident i) = true) :
    (p.meet i).shell.Recalls := by
  have meets := p.meets i
  generalize (p.meet i).shell = s' at meets ⊢
  cases meets with
  | kept _ keeps => exact h.keeps keeps
  | recalled => exact h.loadHistory
  | ended _ other => exact h.ended other
  | accepted text waits =>
    refine h.answer fun htext => stored_of_stores stores ?_
    simp [writes?, stored?, Incident.stored?, waits, htext]
  | unsaved text => exact (h.perform (.read (.line text))).follow (Line.read text)

theorem recalls_take (h : p.shell.Recalls) {step : Step} (stores : p.stores step = true) :
    (p.take step).shell.Recalls := by
  cases step with
  | incident i => exact recalls_meet h stores
  | load => exact h.loadHistory
  | append text =>
    obtain ⟨stored, hstored⟩ := stored_of_stores stores rfl
    exact h.append hstored
  | command line =>
    have done := dotCommand_cases p.shell line
    rw [take]
    generalize p.shell.dotCommand line = s' at done ⊢
    obtain kept | swapped := done
    · exact h.keeps kept
    · exact .swaps swapped

theorem recalls_takeAll (h : p.shell.Recalls) {steps : List Step}
    (stores : p.storesAll steps = true) : (p.takeAll steps).shell.Recalls := by
  induction steps generalizing p with
  | nil => exact h
  | cons step steps ih =>
    obtain ⟨first, rest⟩ := Bool.and_eq_true_iff.mp stores
    exact ih (recalls_take h first) rest

end Phased

/-- The line history holds what is in view.  Whatever a session reads, writes, recalls and syncs, and
whatever others do to the store, if no write of the session to its history fails: whenever the line
editor has read its history, the lines in it are the texts in view, in their order. -/
theorem recall_takeAll (view : View) (shared : Shared) (settings : Settings)
    (surroundings : Surroundings) {steps : List Step}
    (stores : (⟨start view shared settings surroundings, true⟩ : Phased).storesAll steps = true) :
    let s := ((⟨start view shared settings surroundings, true⟩ : Phased).takeAll steps).shell
    s.lines.isLoaded = true → s.lines.oldestFirst = s.view.all.map Record.text := by
  have begun : (start view shared settings surroundings).Recalls := by
    intro loaded
    cases loaded
  exact Phased.recalls_takeAll begun stores

/-- A line is put into the history before it is read and two after that, and another writer adds a
record.  A `.sync` brings it into view, and the new history is read when the next line is in it. -/
def syncedLater : List Step :=
  [.append "make", .load, .incident (.happening (.event (.ended (.line "ls")))),
    .incident (.happening .turned), .incident (.occurs (.add ⟨"top", .zero, "/"⟩)), .append "pwd",
    .command ".sync", .append "id", .load]

theorem recall_syncedLater :
    let begun : Phased := ⟨start ⟨[], []⟩ emptyStore {} atWork, true⟩
    let s := (begun.takeAll syncedLater).shell
    begun.storesAll syncedLater = true ∧ s.lines.isLoaded = true ∧
      s.lines.oldestFirst = ["make", "ls", "top", "pwd", "id"] := by
  intro begun s
  have stores : begun.storesAll syncedLater = true := by decide +kernel
  have loaded : s.lines.isLoaded = true := by decide +kernel
  refine ⟨stores, loaded, (recall_takeAll ⟨[], []⟩ emptyStore {} atWork stores loaded).trans ?_⟩
  decide +kernel

end Promptline.Shell
