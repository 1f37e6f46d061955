import Promptline.Proofs.Store.Order

/-! The calls of a shared store, some of which may fail, and what other writers add between them.  A
call that fails leaves the records alone. -/

namespace Promptline.Store.Shared

open Backend

variable {s s' : Shared} {d : Draft} {seq first upto : Int} {f : Failure}
  {rs : List Record}

theorem backend_noteStored (s : Shared) (seq : Int) :
    (s.noteStored seq).backend = s.backend := by
  unfold noteStored
  split <;> rfl

/-- A stamp changes nothing but the time of a draft. -/
theorem stamp_eq (s : Shared) (d : Draft) : ∃ time, (s.stamp d).1 = { d with time } := by
  unfold stamp
  split
  · exact ⟨_, rfl⟩
  · exact ⟨d.time, rfl⟩

theorem stamp_eq_self (unstamped : s.backend.stamps d = false) : (s.stamp d).1 = d := by
  simp [stamp, unstamped]

theorem add_eq_ok (h : s.backend.Orderly) (hadd : s.add d = (.ok seq, s')) :
    Adds s.backend (s.stamp d).1 seq s'.backend := by
  unfold add at hadd
  simp only at hadd
  split at hadd
  · cases hadd
  · cases hadd
  · next n b _ hb =>
    cases hadd
    rw [backend_noteStored]
    exact h.add hb

theorem add_eq_error (hadd : s.add d = (.error f, s')) : s'.backend = s.backend := by
  unfold add at hadd
  simp only at hadd
  split at hadd <;> cases hadd <;> rfl

theorem receive_grows {b : Backend} (h : b.Orderly) (d : Draft) : Grows b (receive b d) := by
  unfold receive
  split
  · exact .refl h
  · next hadd => exact h.add_grows hadd

theorem foldl_receive_grows {b : Backend} (h : b.Orderly) (ds : List Draft) :
    Grows b (ds.foldl receive b) := by
  induction ds generalizing b with
  | nil => exact .refl h
  | cons d ds ih =>
    have first : Grows b (receive b d) := receive_grows h d
    exact first.trans (ih first.orderly)

/-- What arrives right after the number has been read does not count in it. -/
theorem next_eq_ok (h : s.backend.Orderly) (hnext : s.next = (.ok upto, s')) :
    upto = s.backend.bound ∧ Grows s.backend s'.backend := by
  unfold next at hnext
  split at hnext
  · cases hnext
  · cases hnext
  · next n _ hn =>
    cases hnext
    exact ⟨h.next hn, foldl_receive_grows h s.arriving⟩

theorem next_eq_error (hnext : s.next = (.error f, s')) : s' = s := by
  unfold next at hnext
  split at hnext <;> cases hnext <;> rfl

theorem backend_of_next (hnext : s.next = (.ok upto, s')) :
    s'.backend = s.arriving.foldl receive s.backend := by
  unfold next at hnext
  split at hnext <;> cases hnext
  rfl

theorem attach_eq_ok (hattach : s.attach = (.ok (), s')) :
    s.backend.attach = .ok s'.backend ∧ s'.arriving = s.arriving := by
  unfold attach at hattach
  split at hattach
  · cases hattach
  · next hb =>
    cases hattach
    exact ⟨hb, rfl⟩

theorem attach_eq_error (hattach : s.attach = (.error f, s')) : s' = s := by
  unfold attach at hattach
  split at hattach <;> cases hattach
  rfl

theorem range_eq_ok (h : s.backend.Orderly) (hrange : s.range first upto = .ok rs) :
    rs = between s.backend.records first upto := by
  unfold range at hrange
  split at hrange
  · cases hrange
  · exact h.range hrange

theorem attach_grows (h : s.backend.Orderly) : Grows s.backend s.attach.2.backend := by
  unfold attach
  split
  · exact .refl h
  · next b hb => exact h.attach hb

theorem add_grows (h : s.backend.Orderly) (d : Draft) : Grows s.backend (s.add d).2.backend := by
  unfold add
  simp only
  split
  · exact .refl h
  · exact .refl h
  · next hadd =>
    rw [backend_noteStored]
    exact h.add_grows hadd

theorem next_grows (h : s.backend.Orderly) : Grows s.backend s.next.2.backend := by
  cases hnext : s.next with
  | mk result s' =>
    cases result with
    | ok upto => exact (next_eq_ok h hnext).2
    | error f =>
      show Grows s.backend s'.backend
      rw [next_eq_error hnext]
      exact .refl h

end Promptline.Store.Shared
