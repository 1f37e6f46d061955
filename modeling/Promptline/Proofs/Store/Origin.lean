import Promptline.Proofs.Store.Event
import Promptline.Store.Location

/-! The stores that sessions start from.  A store in memory, with or without texts, and a new database
that has a file are orderly.  Nothing has been written to a new database. -/

namespace Promptline.Store

open Promptline.Directory

namespace Backend

/-- A store that no session has used yet: one in memory with the texts that it was made with, one
over given records, or a database at any address. -/
inductive IsNew : Backend → Prop where
  | memory (texts : List String) : IsNew (.memory (.ofTexts texts))
  | listing (l : Listing) : IsNew (.listing l)
  | database (t : Tree) (garbled : List String) (path : String) :
      IsNew (.database (.at t garbled path))

theorem orderly_empty : (memory {}).Orderly :=
  ⟨trivial, List.Pairwise.nil, fun _ hr => (List.not_mem_nil hr).elim⟩

theorem counted_empty : (memory {}).Counted := fun _ hr => (List.not_mem_nil hr).elim

theorem Orderly.grows_foldl {m : Memory} (h : (memory m).Orderly) (texts : List String) :
    (memory m).Grows (memory (texts.foldl (fun m t => m.add ⟨t, .zero, ""⟩) m)) := by
  induction texts generalizing m with
  | nil => exact .refl h
  | cons text texts ih =>
    have hadd : (memory m).add ⟨text, .zero, ""⟩ =
        .ok (m.next, .memory (m.add ⟨text, .zero, ""⟩)) := rfl
    have first := h.add_grows hadd
    exact first.trans (ih first.orderly)

theorem orderly_ofTexts (texts : List String) : (memory (.ofTexts texts)).Orderly :=
  (orderly_empty.grows_foldl texts).orderly

theorem counted_ofTexts (texts : List String) : (memory (.ofTexts texts)).Counted :=
  (orderly_empty.grows_foldl texts).counted counted_empty

end Backend

theorem Address.place_ne_transient {a : Address} (h : a.isTransient = false) (t : Tree)
    (path : String) : a.place t path ≠ .transient := by
  unfold place
  rw [h, if_neg Bool.false_ne_true]
  intro hplace
  split at hplace
  · cases hplace
  · split at hplace
    · cases hplace
    · split at hplace <;> cases hplace

/-- A database at the address of a file is lasting, whether the file can be opened or not. -/
theorem Database.isLasting_at (t : Tree) (garbled : List String) (path : String)
    (h : ∀ a, Address.read path = .ok a → a.isTransient = false) :
    (Database.at t garbled path).IsLasting := by
  unfold Database.at
  split
  · exact ⟨Place.noConfusion, by intro hthen; cases hthen⟩
  · cases ha : Address.read path with
    | error f => exact ⟨Place.noConfusion, by intro hthen; cases hthen⟩
    | ok a =>
      have ha := h a ha
      refine ⟨a.place_ne_transient ha t path, ?_⟩
      intro hthen
      simp only at hthen
      split at hthen
      · exact a.place_ne_transient ha _ path (Option.some.inj hthen)
      · cases hthen

theorem Database.unwritten_at (t : Tree) (garbled : List String) (path : String) :
    ¬(Database.at t garbled path).IsWritten := by
  unfold Database.at
  split
  · simp [IsWritten]
  · cases Address.read path <;> simp [IsWritten]

theorem Backend.settled_at (t : Tree) (garbled : List String) (path : String) :
    (database (.at t garbled path)).IsSettled :=
  fun written => absurd written (Database.unwritten_at t garbled path)

theorem Backend.records_at (t : Tree) (garbled : List String) (path : String) :
    (database (.at t garbled path)).records = [] := by
  have unwritten := Database.unwritten_at t garbled path
  have htable : (Database.at t garbled path).table = none :=
    Decidable.not_not.mp fun htable => unwritten (.inl htable)
  rw [records, htable]
  rfl

theorem Backend.orderly_at (t : Tree) (garbled : List String) (path : String)
    (lasting : (Database.at t garbled path).IsLasting) :
    (database (.at t garbled path)).Orderly := by
  refine ⟨lasting, ?_, fun r hr => ?_⟩
  · rw [records_at]
    exact List.Pairwise.nil
  · rw [records_at] at hr
    cases hr

theorem Backend.counted_at (t : Tree) (garbled : List String) (path : String) :
    (database (.at t garbled path)).Counted := by
  intro r hr
  rw [records_at] at hr
  cases hr

end Promptline.Store
