import Promptline.Proofs.Console.Printing
import Promptline.Proofs.Shell.Incidents
import Promptline.Proofs.Shell.Whereabouts

/-! Every write to the history that fails is reported once, right after the line was read.  The line
editor writes to the history that is asked for failed writes, and between two reads none is left
unreported there.  So no error is lost when `.sync` swaps the history, and none is reported late. -/

namespace Promptline.Shell

open Promptline.Console Promptline.History Promptline.Markup Promptline.Store

/-- The report of a failed write can be printed, whatever the store says. -/
theorem output_report (width : Nat) (e : StoreError) :
    ∃ out, (Deed.report e).output width = .ok out := by
  have balanced : Balanced [] (tags "[red]History error:[/red] ".toList) :=
    .pair isStyle_red (.nil _)
  exact (print_labelled width e.message (by decide) balanced).1

/-- The errors that deeds report. -/
def reportsIn (deeds : List Deed) : List StoreError :=
  deeds.filterMap fun
    | .report e => some e
    | _ => none

theorem reportsIn_append (ds ds' : List Deed) :
    reportsIn (ds ++ ds') = reportsIn ds ++ reportsIn ds' :=
  List.filterMap_append

theorem reportsIn_own {own : List Deed} (h : ∀ d ∈ own, d.isOwn = true) : reportsIn own = [] := by
  refine List.filterMap_eq_nil_iff.mpr fun d hd => ?_
  have := h d hd
  cases d <;> first | rfl | cases this

theorem reportsIn_map_report (es : List StoreError) : reportsIn (es.map .report) = es := by
  induction es with
  | nil => rfl
  | cons e es ih => exact congrArg (e :: ·) ih

/-- The error with which `text` cannot be written to the history now, if so. -/
def refusal (s : Shell) (text : String) : List StoreError :=
  match (s.writing text).1 with
  | .error (.store e) => [e]
  | _ => []

namespace Phased

/-- The write to the history that fails in an incident, if one does. -/
def failed (p : Phased) (i : Incident) : List StoreError :=
  match p.stored? i with
  | some text => p.shell.refusal text
  | none => []

/-- The writes to the history that fail in incidents in order. -/
def failedIn (p : Phased) : List Incident → List StoreError
  | [] => []
  | i :: incidents => p.failed i ++ (p.meet i).failedIn incidents

end Phased

/-- The history that is edited is asked for failed writes, and no history has one that is
unreported. -/
structure Attentive (s : Shell) : Prop where
  polled : s.polled = s.edited
  inRange : s.edited < s.histories.length
  quiet : ∀ h ∈ s.histories, h.unreported = none
  reports : s.shared.backend.Reports

variable {s s' : Shell} {text : String}

/-- The history that is edited has been asked. -/
def asked (s : Shell) : Shell :=
  { s with histories := s.histories.set s.polled { s.lines with unreported := none } }

/-- What the edited history has not reported is taken out of it. -/
theorem reportWrite_eq (hpolled : s.polled = s.edited) :
    s.reportWrite = match s.lines.unreported with
      | some e => (asked s).perform (.report e)
      | none => asked s := by
  have hlines : s.histories.getD s.polled {} = s.lines := by rw [hpolled, lines]
  unfold reportWrite asked
  rw [hlines]
  rfl

theorem reportWrite_of_unreported {e : StoreError} (hpolled : s.polled = s.edited)
    (hlines : s.lines.unreported = some e) :
    s.reportWrite = { asked s with deeds := s.deeds ++ [.report e] } := by
  obtain ⟨out, hout⟩ := output_report s.surroundings.width e
  have printed : (Deed.report e).output (asked s).surroundings.width = .ok out := hout
  rw [reportWrite_eq hpolled, hlines]
  simp only [perform, printed]
  rfl

theorem andThen_running {f : Shell → Shell} (running : s.ending = none) : s.andThen f = f s := by
  rw [andThen, running]
  rfl

namespace Attentive

theorem keeps (h : s.Attentive) (k : Keeps s s') : s'.Attentive where
  polled := by rw [k.polled, k.edited, h.polled]
  inRange := by rw [k.edited, k.histories]; exact h.inRange
  quiet := by rw [k.histories]; exact h.quiet
  reports := h.reports.comes k.backend

theorem swaps (h : s.Attentive) (w : Swaps s s') : s'.Attentive where
  polled := by rw [w.polled, w.edited]
  inRange := by rw [w.edited, w.histories, List.length_append]; exact Nat.lt_add_one _
  quiet := by
    rw [w.histories]
    exact List.forall_mem_append.mpr ⟨h.quiet, fun l hl => by rw [List.mem_singleton.mp hl]⟩
  reports := h.reports.comes w.backend

theorem lines_eq (h : s.Attentive) : s.lines = s.histories.get ⟨s.edited, h.inRange⟩ := by
  rw [lines, List.getD_eq_getElem?_getD, List.getElem?_eq_getElem h.inRange, Option.getD_some]
  rfl

theorem unreported_lines (h : s.Attentive) : s.lines.unreported = none := by
  rw [h.lines_eq]
  exact h.quiet _ (List.getElem_mem h.inRange)

/-- While nothing is unreported, there is nothing to do. -/
theorem reportWrite_eq_self (h : s.Attentive) : s.reportWrite = s := by
  have unchanged : { s.lines with unreported := none } = s.lines := by
    rw [← h.unreported_lines]
  have same : s.histories.set s.polled s.lines = s.histories := by
    rw [h.lines_eq, h.polled]
    exact List.set_getElem_self h.inRange
  rw [reportWrite_eq h.polled, h.unreported_lines]
  simp only [asked, unchanged, same]

/-- The line editor may put another history in the place of the one that it edits, if that one has
nothing to report. -/
theorem set (h : s.Attentive) {l : LineHistory} (quiet : l.unreported = none) {view : View}
    {shared : Shared} (comes : s.shared.backend.Comes shared.backend) :
    { s with histories := s.histories.set s.edited l, view, shared }.Attentive where
  polled := h.polled
  inRange := by simpa using h.inRange
  quiet l' hl' := by
    obtain hl' | rfl := List.mem_or_eq_of_mem_set hl'
    · exact h.quiet l' hl'
    · exact quiet
  reports := h.reports.comes comes

/-- A write that fails is reported at once. -/
theorem reportWrite_append (h : s.Attentive) (running : s.ending = none) (text : String) :
    ∃ t, (s.append text).andThen reportWrite = t ∧ t.Attentive ∧ t.ending = none ∧
      t.deeds = s.deeds ++ (s.refusal text).map .report := by
  have comes := s.comes_writing text
  obtain ⟨n, view, shared, hwriting, happend⟩ | ⟨e, shared, message, hwriting, happend⟩ |
    ⟨f, hwriting, hf⟩ := s.append_cases text
  -- The line is stored, and there is nothing to report.
  · rw [hwriting] at comes
    rw [h.unreported_lines] at happend
    let stored : Shell := { s with
      histories := s.written text none, view := view, shared := shared }
    have attentive : stored.Attentive := h.set rfl comes
    have taken : s.refusal text = [] := by rw [refusal, hwriting]
    have andThen : stored.andThen reportWrite = stored := by
      rw [andThen_running (s := stored) running, attentive.reportWrite_eq_self]
    rw [happend, taken]
    exact ⟨stored, andThen, attentive, running, (List.append_nil _).symm⟩
  -- The store refuses it.  The error waits in the edited history, and this is the one that is asked.
  · rw [hwriting] at comes
    let kept : Shell := { s with
      histories := s.written text (some e), shared := shared.log .lines .warning message }
    have refused : s.refusal text = [e] := by rw [refusal, hwriting]
    have hlines : kept.lines = ⟨s.lines.isLoaded, text :: s.lines.lines, some e⟩ := by
      show (s.histories.set s.edited _).getD s.edited {} = _
      rw [List.getD_eq_getElem?_getD, List.getElem?_set_self h.inRange, Option.getD_some]
    have hasked : asked kept = { s with
        histories := s.written text none, shared := shared.log .lines .warning message } := by
      unfold asked
      rw [hlines]
      simp only [kept, Shell.written, h.polled, List.set_set]
    have attentive : (asked kept).Attentive := by
      rw [hasked]
      exact h.set rfl comes
    have andThen : kept.andThen reportWrite =
        { asked kept with deeds := s.deeds ++ [.report e] } := by
      rw [andThen_running (s := kept) running,
        reportWrite_of_unreported (s := kept) h.polled (by rw [hlines])]
    rw [happend, refused]
    exact ⟨_, andThen, ⟨attentive.polled, attentive.inRange, attentive.quiet, attentive.reports⟩,
      running, rfl⟩
  -- Nothing else can go wrong with a store that has been opened.
  · exact absurd (isStoreError_of_writing h.reports hwriting) hf

end Attentive

/-! ### Incidents -/

/-- The shell once a line is read.  The line has been put into the history if it `isStored`, and the
history has been asked for a failed write. -/
def heard (s : Shell) (text : String) (isStored : Bool) : Shell :=
  let s := s.perform (.read (.line text))
  (if isStored then s.append text else s).andThen reportWrite

theorem minds_carryOut (s : Shell) (line : Line) : Minds s (s.carryOut line) := by
  obtain kept | swapped := carryOut_cases s line
  · exact kept.minds
  · exact swapped.minds

namespace Attentive

theorem carryOut (h : s.Attentive) (line : Line) : (s.carryOut line).Attentive := by
  obtain kept | swapped := carryOut_cases s line
  · exact h.keeps kept
  · exact h.swaps swapped

theorem loadHistory (h : s.Attentive) : s.loadHistory.Attentive := by
  have quiet : (s.lines.load s.view).unreported = none := by
    unfold LineHistory.load
    split <;> exact h.unreported_lines
  exact h.set quiet (.refl _)

theorem read (h : s.Attentive) (r : Read) : (s.perform (.read r)).Attentive :=
  ⟨h.polled, h.inRange, h.quiet, h.reports⟩

/-- A line has been read, and the report has followed, if one was due.  The loop goes on. -/
theorem heard (h : s.Attentive) (running : s.ending = none) (text : String) (isStored : Bool) :
    (s.heard text isStored).Attentive ∧ (s.heard text isStored).ending = none ∧
      (s.heard text isStored).deeds = s.deeds ++ .read (.line text) ::
        (if isStored then s.refusal text else []).map .report := by
  have attentive : (s.perform (.read (.line text))).Attentive := h.read _
  have goesOn : (s.perform (.read (.line text))).ending = none := running
  cases isStored with
  | false =>
    have unchanged : s.heard text false = s.perform (.read (.line text)) := by
      show (s.perform (.read (.line text))).andThen reportWrite = _
      rw [andThen_running goesOn, attentive.reportWrite_eq_self]
    rw [unchanged]
    exact ⟨attentive, goesOn, rfl⟩
  | true =>
    obtain ⟨t, ht, hattentive, hrunning, hdeeds⟩ := attentive.reportWrite_append goesOn text
    have same : s.heard text true = t := ht
    rw [same]
    refine ⟨hattentive, hrunning, ?_⟩
    rw [hdeeds, perform_read, List.append_assoc]
    rfl

end Attentive

namespace Phased

variable {p : Phased} {i : Incident}

/-- The shell once the line of an incident is read. -/
def heard (p : Phased) (i : Incident) (text : String) : Shell :=
  p.shell.heard text (p.stored? i).isSome

theorem waits_of_accepted? {text : String} (accepted : p.accepted? i = some text) :
    p.waits = true := by
  unfold accepted? at accepted
  split at accepted
  · assumption
  · cases accepted

/-- What is left of the loop once the line is read. -/
theorem heard_spec (h : p.shell.Attentive) {text : String} (accepted : p.accepted? i = some text) :
    (p.heard i text).Attentive ∧ (p.heard i text).ending = none ∧
      (p.heard i text).deeds =
        p.shell.deeds ++ .read (.line text) :: (p.failed i).map .report := by
  have running := ending_of_waits (waits_of_accepted? accepted)
  have spec := h.heard running text (p.stored? i).isSome
  have failed : p.failed i = if (p.stored? i).isSome then p.shell.refusal text else [] := by
    unfold Phased.failed
    split
    · next stored =>
      cases accepted.symm.trans (accepted?_of_stored? stored)
      rw [stored]
      rfl
    · next unstored => rw [unstored]; rfl
  rwa [← failed] at spec

/-- An accepted line is carried out after that, in a loop that goes on. -/
theorem meet_heard (h : p.shell.Attentive) {text : String} (accepted : p.accepted? i = some text) :
    (p.meet i).shell = (p.heard i text).carryOut (Line.read text) := by
  have carried : (p.heard i text).andThen (·.carryOut (Line.read text)) =
      (p.heard i text).carryOut (Line.read text) := andThen_running (heard_spec h accepted).2.1
  have meets := p.meets i
  rw [← carried]
  generalize (p.meet i).shell = s' at meets ⊢
  cases meets with
  | kept other | recalled other => cases accepted.symm.trans other
  | ended waits other =>
    cases accepted.symm.trans (accepted?_eq_none (.inr (line?_ended other)))
  | accepted line waits =>
    obtain rfl : line = text := by simpa [accepted?, Incident.line?, waits] using accepted
    by_cases hline : line = "" <;>
      simp [heard, Shell.heard, stored?, Incident.stored?, Shell.answer, remember, waits, hline]
  | unsaved line waits =>
    obtain rfl : line = text := by simpa [accepted?, Incident.line?, waits] using accepted
    simp [heard, Shell.heard, stored?, Incident.stored?, Shell.answerUnsaved, waits]

/-- What an incident does in which a line is accepted. -/
theorem meet_accepted (h : p.shell.Attentive) {text : String}
    (accepted : p.accepted? i = some text) :
    ∃ t : Shell, (p.meet i).shell = t.carryOut (Line.read text) ∧ t.Attentive ∧ t.ending = none ∧
      t.deeds = p.shell.deeds ++ .read (.line text) :: (p.failed i).map .report :=
  ⟨_, meet_heard h accepted, heard_spec h accepted⟩

theorem failed_of_not_accepted (other : p.accepted? i = none) : p.failed i = [] := by
  unfold Phased.failed
  split
  · next stored => cases other.symm.trans (accepted?_of_stored? stored)
  · rfl

/-- A shell that reports nothing on the way from `s` to `s'` and stays attentive. -/
structure Quietly (s s' : Shell) : Prop where
  attentive : s'.Attentive
  deeds : ∃ own, s'.deeds = s.deeds ++ own ∧ reportsIn own = []

theorem Quietly.of_keeps {s s' : Shell} (h : s.Attentive) (k : Keeps s s') : Quietly s s' := by
  obtain ⟨own, hdeeds, hown⟩ := k.minds
  exact ⟨h.keeps k, own, hdeeds, reportsIn_own hown⟩

/-- A read that ends without a line. -/
theorem Quietly.answer {s : Shell} (h : s.Attentive) {r : Read} (hr : ∀ text, r ≠ .line text) :
    Quietly s (s.answer r) := by
  have heard := h.read r
  cases r with
  | line text => exact absurd rfl (hr text)
  | interrupt => exact ⟨heard, [.read .interrupt], rfl, rfl⟩
  | endOfInput =>
    have stopped := Keeps.stop (s.perform (.read .endOfInput))
    obtain ⟨own, hdeeds, hown⟩ := stopped.minds
    have unreported : reportsIn own = [] := reportsIn_own hown
    refine ⟨heard.keeps stopped, .read .endOfInput :: own, ?_, unreported⟩
    show (s.perform (.read .endOfInput)).stop.deeds = _
    rw [hdeeds, perform_read, List.append_assoc]
    rfl

/-- Any other incident. -/
theorem meet_other (h : p.shell.Attentive) (other : p.accepted? i = none) :
    Quietly p.shell (p.meet i).shell := by
  have meets := p.meets i
  generalize (p.meet i).shell = s' at meets ⊢
  cases meets with
  | kept _ keeps => exact .of_keeps h keeps
  | recalled => exact ⟨h.loadHistory, [], (List.append_nil _).symm, rfl⟩
  | ended _ notLine => exact .answer h notLine
  | accepted line waits | unsaved line waits =>
    simp [accepted?, Incident.line?, waits] at other

/-- What every incident keeps. -/
theorem attentive_meet (h : p.shell.Attentive) (i : Incident) : (p.meet i).shell.Attentive := by
  cases accepted : p.accepted? i with
  | none => exact (meet_other h accepted).attentive
  | some text =>
    obtain ⟨t, hmeet, attentive, -⟩ := meet_accepted h accepted
    rw [hmeet]
    exact attentive.carryOut _

theorem attentive_meetAll (h : p.shell.Attentive) (incidents : List Incident) :
    (p.meetAll incidents).shell.Attentive := by
  induction incidents generalizing p with
  | nil => exact h
  | cons i incidents ih => exact ih (attentive_meet h i)

/-- An incident adds the reports of what fails in it. -/
theorem reportsIn_meet (h : p.shell.Attentive) (i : Incident) :
    reportsIn (p.meet i).shell.deeds = reportsIn p.shell.deeds ++ p.failed i := by
  cases accepted : p.accepted? i with
  | none =>
    obtain ⟨own, hdeeds, hown⟩ := (meet_other h accepted).deeds
    rw [hdeeds, reportsIn_append, hown, failed_of_not_accepted accepted]
  | some text =>
    obtain ⟨t, hmeet, -, -, hdeeds⟩ := meet_accepted h accepted
    obtain ⟨own, hown, minds⟩ := minds_carryOut t (Line.read text)
    have read : reportsIn (.read (.line text) :: (p.failed i).map .report) = p.failed i :=
      reportsIn_map_report (p.failed i)
    rw [hmeet, hown, hdeeds, reportsIn_append, reportsIn_append, read, reportsIn_own minds,
      List.append_nil]

theorem reportsIn_meetAll (h : p.shell.Attentive) (incidents : List Incident) :
    reportsIn (p.meetAll incidents).shell.deeds =
      reportsIn p.shell.deeds ++ p.failedIn incidents := by
  induction incidents generalizing p with
  | nil => exact (List.append_nil _).symm
  | cons i incidents ih =>
    have rest := ih (attentive_meet h i)
    rw [reportsIn_meet h, List.append_assoc] at rest
    exact rest

end Phased

/-- A shell that has been opened. -/
theorem attentive_openOn {new : Backend} (isNew : new.IsNew) {shared rest : Shared}
    (reaches : new.Comes shared.backend) {settings : Settings} {surroundings : Surroundings}
    (hopen : openOn shared settings surroundings = (.ok s, rest)) : s.Attentive := by
  unfold openOn at hopen
  split at hopen
  · cases hopen
  · next view opened hview =>
    cases hopen
    have first : Attentive { view, shared := rest, settings, surroundings } :=
      ⟨rfl, Nat.zero_lt_one, fun l hl => by rw [List.mem_singleton.mp hl],
        View.reports_openOn isNew reaches hview⟩
    exact first.keeps (.turn _)

theorem deeds_openOn {shared rest : Shared} {settings : Settings} {surroundings : Surroundings}
    (hopen : openOn shared settings surroundings = (.ok s, rest)) : s.deeds = [] := by
  unfold openOn at hopen
  split at hopen <;> cases hopen
  rfl

/-- Whatever is read, typed and recalled, and whatever happens to the store: the loop asks the history
that the line editor writes to, and what it reports are the writes that have failed, in their order.
When a line is accepted, the report of its failed write follows at once, the loop goes on, and nothing
that the line itself does is a report.  Nothing else that happens leads to a report. -/
theorem reports_meetAll {new : Backend} (isNew : new.IsNew) {shared rest : Shared}
    (reaches : new.Comes shared.backend) {settings : Settings} {surroundings : Surroundings}
    (hopen : openOn shared settings surroundings = (.ok s, rest)) (incidents : List Incident) :
    let p := (⟨s, true⟩ : Phased).meetAll incidents
    p.shell.polled = p.shell.edited ∧ (∀ h ∈ p.shell.histories, h.unreported = none) ∧
      reportsIn p.shell.deeds = (⟨s, true⟩ : Phased).failedIn incidents ∧
      (∀ i text, p.accepted? i = some text →
        ∃ t : Shell, ∃ own, t.ending = none ∧
          t.deeds = p.shell.deeds ++ .read (.line text) :: (p.failed i).map .report ∧
          (p.meet i).shell = t.carryOut (Line.read text) ∧
          (p.meet i).shell.deeds = t.deeds ++ own ∧ ∀ d ∈ own, d.isOwn = true) ∧
      ∀ i, p.accepted? i = none →
        ∃ own, (p.meet i).shell.deeds = p.shell.deeds ++ own ∧ reportsIn own = [] := by
  intro p
  have start := attentive_openOn isNew reaches hopen
  have attentive : p.shell.Attentive := Phased.attentive_meetAll start incidents
  refine ⟨attentive.polled, attentive.quiet, ?_, fun i text accepted => ?_, fun i other => ?_⟩
  · have unread : s.deeds = [] := deeds_openOn hopen
    rw [Phased.reportsIn_meetAll start, unread]
    rfl
  · obtain ⟨t, hmeet, -, goesOn, hdeeds⟩ := Phased.meet_accepted attentive accepted
    obtain ⟨own, hown, minds⟩ := minds_carryOut t (Line.read text)
    exact ⟨t, own, goesOn, hdeeds, hmeet, by rw [hmeet, hown], minds⟩
  · exact (Phased.meet_other attentive other).deeds

/-- A shell over an empty store, before its first read. -/
def unread : Shell := start ⟨[], []⟩ (View.openOn emptyStore).2 {} atWork

/-- A `.sync` swaps the history, and then the store takes nothing any more. -/
def swapped : List Incident :=
  [.happening (.event (.ended (.line ".sync"))), .happening .turned,
    .occurs (.fail [(.add, "disk full")])]

theorem reports_swapped :
    let p := (⟨unread, true⟩ : Phased).meetAll swapped
    let typed : Incident := .happening (.event (.ended (.line "ls")))
    (∃ rest, openOn emptyStore {} atWork = (.ok unread, rest)) ∧
      p.shell.edited = 1 ∧ p.shell.polled = 1 ∧ p.accepted? typed = some "ls" ∧
      ∃ t : Shell, ∃ own, t.ending = none ∧
        t.deeds = p.shell.deeds ++ [.read (.line "ls"), .report (.reported "disk full")] ∧
        (p.meet typed).shell = t.carryOut (Line.read "ls") ∧
        (p.meet typed).shell.deeds = t.deeds ++ own ∧ ∀ d ∈ own, d.isOwn = true := by
  intro p typed
  have isNew : emptyStore.backend.IsNew := .memory []
  have hopen : openOn emptyStore {} atWork = (.ok unread, (View.openOn emptyStore).2) := by rfl
  have edited : p.shell.edited = 1 := by decide +kernel
  have accepted : p.accepted? typed = some "ls" := by decide +kernel
  have failed : p.failed typed = [.reported "disk full"] := by decide +kernel
  obtain ⟨polled, -, -, reported, -⟩ := reports_meetAll isNew (.refl _) hopen swapped
  obtain ⟨t, own, goesOn, hdeeds, rest⟩ := reported typed "ls" accepted
  rw [failed] at hdeeds
  exact ⟨⟨_, hopen⟩, edited, polled.trans edited, accepted, t, own, goesOn, hdeeds, rest⟩

end Promptline.Shell
