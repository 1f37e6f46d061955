import Promptline.Proofs.History.Durability
import Promptline.Proofs.History.Opening
import Promptline.Proofs.Store.Numbering

/-! What stands behind the views of sessions while nobody removes a record: every record in view is in
the store, the numbers of the store have no gap, and a store that a session has been able to read
reports its failures. -/

namespace Promptline.Store

/-- The draft of a record. -/
def Record.draft (r : Record) : Draft := ⟨r.text, r.time, r.directory⟩

namespace Backend

/-- An exact store that has given the numbers from `low` on, each to one of its records. -/
structure Gapless (low : Int) (b : Backend) : Prop where
  exact : b.Exact
  bound : b.bound = low + b.records.length

variable {b b' : Backend} {low : Int} {d : Draft}

theorem IsNew.gapless (isNew : b.IsNew) (lasting : b.IsLasting) : b.Gapless b.first := by
  refine ⟨isNew.exact lasting, ?_⟩
  cases isNew with
  | memory texts => exact (Int.zero_add _).symm
  | listing l => exact lasting.elim
  | database t garbled path =>
    have unwritten := Database.unwritten_at t garbled path
    have hcounter : (Database.at t garbled path).counter = none :=
      Decidable.not_not.mp fun hcounter => unwritten (.inr hcounter)
    rw [records_at, bound, hcounter]
    rfl

theorem IsNew.counted (isNew : b.IsNew) (lasting : b.IsLasting) : b.Counted := by
  cases isNew with
  | memory texts => exact counted_ofTexts texts
  | listing l => exact lasting.elim
  | database t garbled path => exact counted_at t garbled path

theorem first_le_one (b : Backend) : 0 ≤ b.first ∧ b.first ≤ 1 := by
  cases b <;> simp [first]

namespace Gapless

/-- A store that has given no number has no record more. -/
theorem same (h : b.Gapless low) (grows : b.Grows b') (exact : b'.Exact ∧ b'.bound = b.bound) :
    b'.Gapless low := by
  obtain ⟨later, hrecords, hlater⟩ := grows.records
  have none : later = [] := by
    refine List.eq_nil_iff_forall_not_mem.mpr fun r hr => ?_
    have above := (hlater r hr).1
    have below := grows.orderly.below r (by rw [hrecords]; exact List.mem_append_right _ hr)
    omega
  refine ⟨exact.1, ?_⟩
  rw [exact.2, h.bound, hrecords, none, List.append_nil]

theorem add {seq : Int} (h : b.Gapless low) (hadd : b.add d = .ok (seq, b')) : b'.Gapless low := by
  have adds := h.exact.orderly.add hadd
  have given := h.exact.eq_bound_of_add hadd
  refine ⟨(h.exact.add hadd).1, ?_⟩
  rw [adds.bound, given, h.bound, adds.records, List.length_append, List.length_singleton]
  omega

theorem foldl_receive (h : b.Gapless low) (ds : List Draft) :
    (ds.foldl Shared.receive b).Gapless low := by
  induction ds generalizing b with
  | nil => exact h
  | cons d ds ih =>
    refine ih ?_
    unfold Shared.receive
    split
    · exact h
    · next hadd => exact h.add hadd

theorem attach (h : b.Gapless low) (hattach : b.attach = .ok b') : b'.Gapless low :=
  h.same (h.exact.orderly.attach hattach) (h.exact.attach hattach)

end Gapless

end Backend

namespace Shared

variable {s : Shared} {low : Int}

theorem gapless_attach (h : s.backend.Gapless low) : s.attach.2.backend.Gapless low := by
  unfold attach
  split
  · exact h
  · next hb => exact h.attach hb

theorem gapless_next (h : s.backend.Gapless low) : s.next.2.backend.Gapless low := by
  unfold next
  split
  · exact h
  · exact h
  · exact h.foldl_receive s.arriving

theorem gapless_add (h : s.backend.Gapless low) (d : Draft) :
    (s.add d).2.backend.Gapless low := by
  unfold add
  dsimp only
  split
  · exact h
  · exact h
  · next hadd =>
    rw [backend_noteStored]
    exact h.add hadd

/-- A gapless store announces a number that is too large for a bound only if it has nearly as many
records. -/
theorem IsSpent.length_le (spent : s.IsSpent) (h : s.backend.Gapless low)
    (hlow : 0 ≤ low ∧ low ≤ 1) : 0x8000000000000000 ≤ s.backend.records.length + 1 := by
  obtain ⟨n, s', hnext, -, -, unheld⟩ := spent
  obtain ⟨rfl, -⟩ := next_eq_ok h.exact.orderly hnext
  rw [h.bound, Database.holds, Bool.and_eq_false_iff, decide_eq_false_iff_not,
    decide_eq_false_iff_not, Database.maxSeq] at unheld
  omega

end Shared

end Promptline.Store

namespace Promptline.History

open Promptline.Store

namespace Sharing

variable {w w' : Sharing} {act : Act} {acts : List Act} {low : Int} {i : Nat} {v : View}

/-! ### Numbers without a gap -/

theorem gapless_change (h : w.shared.backend.Gapless low) {x : Interference}
    (spared : x.SparesCounter)
    (grows : ∀ b, w.shared.backend.onDatabase x.change = .ok b → w.shared.backend.Grows b) :
    (w.change x.change).shared.backend.Gapless low := by
  unfold change
  split
  · exact h
  · next b hb => exact h.same (grows b hb) (h.exact.interfere spared hb)

theorem gapless_step (h : w.shared.backend.Gapless low) (kept : act.removed? = none) :
    (w.step act).shared.backend.Gapless low := by
  have orderly := h.exact.orderly
  cases act with
  | attach => exact Shared.gapless_attach h
  | begin i =>
    obtain same | next := begin_shared w i
    · rw [step, same]
      exact h
    · rw [step, next]
      exact Shared.gapless_next h
  | finish i =>
    rw [step, finish_backend]
    exact h
  | add i d =>
    obtain same | added := add_shared w i d
    · rw [step, same]
      exact h
    · rw [step, added]
      exact Shared.gapless_add h d
  | receive d => exact Shared.gapless_add h d
  | peek => exact Shared.gapless_next h
  | fail | arrive | note => exact h
  | lock lock => exact gapless_change (x := .lock lock) h trivial fun b hb => orderly.takeLock hb
  | unlock => exact gapless_change (x := .unlock) h trivial fun b hb => orderly.releaseLock hb
  | delete seq => cases kept

/-! ### Records in view -/

/-- Every record that a session has in view is in the store. -/
def Backs (w : Sharing) (s : Session) : Prop :=
  ∀ v, s.view = some v → ∀ r ∈ v.all, w.Stores r.seq r.draft

theorem Backs.mono {s : Session} (h : w.Backs s)
    (stores : ∀ seq d, w.Stores seq d → w'.Stores seq d) : w'.Backs s :=
  fun v hv r hr => stores r.seq r.draft (h v hv r hr)

theorem stores_of_mem (counted : w.shared.backend.Counted) {r : Record}
    (hr : r ∈ w.shared.backend.records) : w.Stores r.seq r.draft :=
  ⟨⟨r, hr, rfl, rfl, rfl⟩, counted r hr⟩

theorem Change.backs (change : Change w act w') (h : w.Ordered)
    (counted : w.shared.backend.Counted) (kept : act.removed? = none)
    (backs : ∀ j, w.Backs (w.sessions j)) (j : Nat) : w'.Backs (w'.sessions j) := by
  have stores (seq : Int) (d : Draft) : w.Stores seq d → w'.Stores seq d := by
    intro stored
    refine change.stores h stored ?_
    rintro rfl
    cases kept
  have old (j : Nat) : w'.Backs (w.sessions j) := (backs j).mono stores
  cases change with
  | stored shared leads => exact old j
  | @began i | @abandoned i =>
    refine forall_put (P := Backs _) (fun _ => ?_) (old j)
    exact old i
  | renewed upto shared building same =>
    refine forall_put (P := Backs _) (fun _ => ?_) (old j)
    rintro v ⟨⟩ r hr
    rw [View.all, List.append_nil] at hr
    exact stores r.seq r.draft (stores_of_mem counted (mem_between.mp hr).1)
  | @added i d v seq time shared open' adds =>
    refine forall_put (P := Backs _) (fun _ => ?_) (old j)
    rintro v' ⟨⟩ r hr
    rw [View.all, ← List.append_assoc] at hr
    obtain hr | hr := List.mem_append.mp hr
    · exact old i v (by rw [open']) r hr
    · obtain rfl := List.mem_singleton.mp hr
      refine ⟨⟨{ d with time := time }.numbered seq, ?_, rfl, rfl, rfl⟩, adds.counted⟩
      show _ ∈ shared.backend.records
      rw [adds.records]
      exact List.mem_append_right _ List.mem_cons_self

/-! ### Sessions over a new store -/

/-- Sessions over a lasting store from which nobody has removed a record. -/
structure Whole (low : Int) (w : Sharing) : Prop where
  ordered : w.Ordered
  counted : w.shared.backend.Counted
  gapless : w.shared.backend.Gapless low
  backs : ∀ j, w.Backs (w.sessions j)

theorem whole_start {start : Shared} (isNew : start.backend.IsNew)
    (lasting : start.backend.IsLasting) :
    Whole start.backend.first { shared := start } where
  ordered := ordered_start (isNew.exact lasting).orderly
  counted := isNew.counted lasting
  gapless := isNew.gapless lasting
  backs j := fun v hv => by cases hv

theorem Whole.run (h : Whole low w) (kept : ∀ act ∈ acts, act.removed? = none) :
    Whole low (w.run acts) := by
  induction acts generalizing w with
  | nil => exact h
  | cons act acts ih =>
    obtain ⟨hact, hacts⟩ := List.forall_mem_cons.mp kept
    have change := change_step h.ordered.orderly act
    refine ih ⟨change.ordered h.ordered, ?_, gapless_step h.gapless hact, ?_⟩ hacts
    · exact counted_step h.ordered.orderly h.counted act
    · exact change.backs h.ordered h.counted hact h.backs

/-! ### Failures that are reported -/

/-- No session can be opened on a path that cannot be one. -/
theorem unopened_step {db : Database} (hdb : w.shared.backend = .database db)
    (pathless : db.IsPathless) (unopened : ∀ j, w.sessions j = {}) (act : Act) (j : Nat) :
    (w.step act).sessions j = {} := by
  have hnext : ∃ f, w.shared.next = (.error f, w.shared) := by
    have hb : w.shared.backend.next = .error .zeroInPath := by
      rw [hdb]
      exact pathless.next
    unfold Shared.next
    rw [hb]
    cases w.shared.failure? .next with
    | none => exact ⟨_, rfl⟩
    | some f => exact ⟨_, rfl⟩
  obtain ⟨f, hnext⟩ := hnext
  cases act with
  | attach | receive | peek | fail | arrive | note => exact unopened j
  | begin i =>
    have same : w.begin i = w := by
      simp only [begin, unopened i, hnext, Option.isSome_none, Bool.false_eq_true, if_false]
    rw [step, same]
    exact unopened j
  | finish i =>
    simp only [step, finish, unopened i]
    exact unopened j
  | add i d =>
    simp only [step, add, unopened i]
    exact unopened j
  | lock | unlock | delete => exact (congrFun (sessions_change w _) j).trans (unopened j)

theorem unopened_run {db : Database} (hdb : w.shared.backend = .database db)
    (pathless : db.IsPathless) (unopened : ∀ j, w.sessions j = {}) (j : Nat) :
    (w.run acts).sessions j = {} := by
  induction acts generalizing w db with
  | nil => exact unopened j
  | cons act acts ih =>
    obtain ⟨db', hdb', pathless'⟩ := pathless.comes (hdb ▸ w.comes_step act)
    exact ih hdb' pathless' (unopened_step hdb pathless unopened act)

/-- A store of which a session has a view reports its failures. -/
theorem reports_run {start : Shared} (isNew : start.backend.IsNew)
    (hv : ((({ shared := start } : Sharing).run acts).sessions i).view = some v) :
    (({ shared := start } : Sharing).run acts).shared.backend.Reports := by
  let w : Sharing := { shared := start }
  have becomes : w.Becomes (w.run acts) := ⟨acts, rfl⟩
  obtain reports | ⟨db, hdb, pathless⟩ := isNew.reports_or_pathless
  · exact reports _ becomes.comes
  · have unopened : (w.run acts).sessions i = {} := unopened_run hdb pathless (fun _ => rfl) i
    rw [unopened] at hv
    cases hv

end Sharing

end Promptline.History
