import Promptline.Proofs.Console.Assignment
import Promptline.Proofs.Number.Duration

/-! The threshold of a session, line after line.  It never gets negative.  It stays a time that can be
waited for unless a line sets it to infinity or to NaN: neither compares less than zero, so both are
taken. -/

namespace Promptline.Console

open Promptline.History Promptline.Number Promptline.Store Promptline.Text

variable {line : String} {value : List Char} {x : Binary64} {s : Settings} {b : Bench}

/-- A line that is answered, with the view and the store as it finds them. -/
structure Visit where
  line : String
  view : View
  shared : Shared

/-- The settings after lines that are answered in order, whatever becomes of the view and the store in
between. -/
def settingsAfter (s : Settings) (visits : List Visit) : Settings :=
  visits.foldl (fun s t => (answer t.line ⟨t.view, s, t.shared⟩).bench.settings) s

theorem settingsAfter_cons (s : Settings) (t : Visit) (visits : List Visit) :
    settingsAfter s (t :: visits) =
      settingsAfter (answer t.line ⟨t.view, s, t.shared⟩).bench.settings visits := by
  rw [settingsAfter, List.foldl_cons]
  rfl

/-- The line sets the threshold to infinity or to NaN. -/
def IsOverlooked (line : String) : Prop :=
  ∃ value, IsAssignment line "stale" value ∧
    (readBinary64? value = some .infinity ∨ readBinary64? value = some .nan)

theorem answer_of_negative (typed : IsAssignment line "stale" value)
    (read : readBinary64? value = some x) (negative : x.isNegative = true) :
    answer line b = { reply := .ok (.text (rejection "stale" value)), bench := b } := by
  have refused : assign? b.settings "stale" (String.ofList value) = none := by
    cases h : assign? b.settings "stale" (String.ofList value) with
    | none => rfl
    | some s =>
      obtain ⟨hkey, -⟩ | ⟨-, y, hy, sign, -⟩ := assign?_eq_some_iff.mp h
      · exact absurd hkey (by decide)
      · rw [read] at hy
        cases hy
        cases negative.symm.trans sign
  exact (answer_of_isAssignment typed (.inr rfl)).2 refused

/-- What one line does to the threshold. -/
theorem threshold_answer (line : String) (b : Bench) :
    (answer line b).bench.settings.threshold = b.settings.threshold ∨
      ∃ value x, IsAssignment line "stale" value ∧ readBinary64? value = some x ∧
        x.isNegative = false ∧ (answer line b).bench.settings.threshold = x := by
  by_cases assigns : ∃ s text, Assigns line b.settings s text
  · obtain ⟨s, text, h⟩ := assigns
    rw [answer_of_assigns h]
    cases h with
    | eagerness => exact .inl rfl
    | threshold typed read notNegative => exact .inr ⟨_, _, typed, read, notNegative, rfl⟩
  · rw [settings_answer (by simpa using assigns)]
    exact .inl rfl

theorem isNegative_answer (h : b.settings.threshold.isNegative = false) :
    (answer line b).bench.settings.threshold.isNegative = false := by
  obtain kept | ⟨_, x, -, -, notNegative, hx⟩ := threshold_answer line b
  · rw [kept, h]
  · rw [hx, notNegative]

theorem isDuration_answer (h : b.settings.threshold.isDuration = true)
    (heeded : ¬IsOverlooked line) :
    (answer line b).bench.settings.threshold.isDuration = true := by
  obtain kept | ⟨value, x, typed, read, notNegative, hx⟩ := threshold_answer line b
  · rw [kept, h]
  · rw [hx]
    obtain duration | negative | rfl | rfl := isDuration_of_readBinary64? read
    · exact duration
    · cases negative.symm.trans notNegative
    · exact absurd ⟨value, typed, .inl read⟩ heeded
    · exact absurd ⟨value, typed, .inr read⟩ heeded

theorem isDuration_answer_of_isOverlooked (h : IsOverlooked line) :
    (answer line b).bench.settings.threshold.isDuration = false := by
  obtain ⟨value, typed, read | read⟩ := h
  · rw [answer_of_assigns (.threshold typed read (by decide))]
    exact Binary64.isDuration_infinity
  · rw [answer_of_assigns (.threshold typed read (by decide))]
    exact Binary64.isDuration_nan

theorem isNegative_settingsAfter (h : s.threshold.isNegative = false) (visits : List Visit) :
    (settingsAfter s visits).threshold.isNegative = false := by
  induction visits generalizing s with
  | nil => exact h
  | cons t visits ih =>
    rw [settingsAfter_cons]
    exact ih (isNegative_answer (b := ⟨t.view, s, t.shared⟩) h)

theorem isDuration_settingsAfter_iff (h : s.threshold.isDuration = true) (visits : List Visit) :
    (∀ earlier, earlier <+: visits → (settingsAfter s earlier).threshold.isDuration = true) ↔
      ∀ t ∈ visits, ¬IsOverlooked t.line := by
  induction visits generalizing s with
  | nil => simpa [settingsAfter] using h
  | cons t visits ih =>
    constructor
    · intro durations
      have later (earlier : List Visit) (he : earlier <+: visits) :
          (settingsAfter (answer t.line ⟨t.view, s, t.shared⟩).bench.settings
            earlier).threshold.isDuration = true := by
        rw [← settingsAfter_cons]
        exact durations (t :: earlier) ((List.prefix_cons_inj t).mpr he)
      have first := later [] List.nil_prefix
      rw [settingsAfter, List.foldl_nil] at first
      refine List.forall_mem_cons.mpr ⟨fun overlooked => ?_, (ih first).mp later⟩
      rw [isDuration_answer_of_isOverlooked overlooked] at first
      cases first
    · intro heeded earlier he
      obtain ⟨hline, hlines⟩ := List.forall_mem_cons.mp heeded
      cases earlier with
      | nil => exact h
      | cons t' earlier =>
        obtain ⟨rfl, inner⟩ := List.cons_prefix_cons.mp he
        have first := isDuration_answer (b := ⟨t'.view, s, t'.shared⟩) h hline
        rw [settingsAfter_cons]
        exact (ih first).mpr hlines earlier inner

/-- A session starts with a threshold that can be waited for.  Whatever lines are answered in it, the
threshold is never negative: a line that would set it below zero is told that the value is invalid, and
changes nothing.  The threshold can be waited for after every line if and only if no line sets it to
infinity or to NaN. -/
theorem threshold_settingsAfter (start : s.threshold.isDuration = true) (visits : List Visit) :
    ((∀ earlier, earlier <+: visits → (settingsAfter s earlier).threshold.isDuration = true) ↔
      ∀ t ∈ visits, ¬IsOverlooked t.line) ∧
    (settingsAfter s visits).threshold.isNegative = false ∧
    ∀ line value x b, IsAssignment line "stale" value → readBinary64? value = some x →
      x.isNegative = true →
      answer line b = { reply := .ok (.text (rejection "stale" value)), bench := b } := by
  have notNegative : s.threshold.isNegative = false := by
    simp only [Binary64.isDuration, Bool.and_eq_true, Bool.not_eq_true'] at start
    exact start.2
  exact ⟨isDuration_settingsAfter_iff start visits, isNegative_settingsAfter notNegative visits,
    fun _ _ _ _ typed read negative => answer_of_negative typed read negative⟩

/-- Lines in a session that has nothing in view. -/
def visitsOf (lines : List String) : List Visit :=
  lines.map (⟨·, ⟨[], []⟩, { backend := .memory {}, clock := ⟨0⟩ }⟩)

theorem threshold_refused :
    let lines := [".PROMPT Stale ١_0.5", ".prompt stale -Infinity", ".prompt stale 1e400 s"]
    ({} : Settings).threshold.isDuration = true ∧
      (∀ earlier, earlier <+: visitsOf lines →
        (settingsAfter {} earlier).threshold.isDuration = true) ∧
      ∀ b, answer ".prompt stale -Infinity" b =
        { reply := .ok (.text "[red]Invalid value for stale: -Infinity[/red]"), bench := b } := by
  intro lines
  have start : ({} : Settings).threshold.isDuration = true := by decide
  obtain ⟨durations, -, refused⟩ := threshold_settingsAfter start (visitsOf lines)
  refine ⟨start, durations.mpr ?_, fun b => ?_⟩
  · have heeded {line : String} (h : ∀ value ∈ (words line.toList).getLast?,
        readBinary64? value ≠ some .infinity ∧ readBinary64? value ≠ some .nan) :
        ¬IsOverlooked line := by
      rintro ⟨value, ⟨first, typed, hwords, -, -⟩, read⟩
      rw [hwords] at h
      obtain ⟨notInfinity, notNaN⟩ := h value rfl
      exact read.elim notInfinity notNaN
    simp only [lines, visitsOf, List.map_cons, List.map_nil, List.forall_mem_cons]
    exact ⟨heeded (by decide +kernel), heeded (by decide +kernel), heeded (by decide +kernel),
      List.forall_mem_nil _⟩
  · have typed : IsAssignment ".prompt stale -Infinity" "stale" "-Infinity".toList := by
      decide +kernel
    have read : readBinary64? "-Infinity".toList = some ⟨0xFFF0000000000000⟩ := by decide +kernel
    have message : rejection "stale" "-Infinity".toList =
        "[red]Invalid value for stale: -Infinity[/red]" := by decide +kernel
    rw [refused _ _ _ b typed read (by decide), message]

/-- The words for infinity and NaN are taken for a time. -/
theorem threshold_overlooked :
    ({} : Settings).threshold.isDuration = true ∧
      (settingsAfter {} (visitsOf [".prompt stale inf"])).threshold.isDuration = false ∧
      (settingsAfter {} (visitsOf [".prompt stale nan"])).threshold.isDuration = false := by
  have taken {line : String} (h : IsOverlooked line) :
      (settingsAfter {} (visitsOf [line])).threshold.isDuration = false := by
    rw [visitsOf, List.map_cons, settingsAfter_cons, List.map_nil, settingsAfter, List.foldl_nil]
    exact isDuration_answer_of_isOverlooked h
  exact ⟨by decide, taken ⟨"inf".toList, by decide +kernel, .inl (by decide +kernel)⟩,
    taken ⟨"nan".toList, by decide +kernel, .inr (by decide +kernel)⟩⟩

end Promptline.Console
