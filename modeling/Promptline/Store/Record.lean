import Promptline.Number.Binary64

/-! The records of the command history, and the clock that stamps them. -/

namespace Promptline

/-- The whole seconds that the next reading shows; each reading advances the clock by one. -/
structure Clock where
  seconds : Nat
deriving DecidableEq, Repr

/-- The time that the clock shows. -/
def Clock.now (c : Clock) : Number.Binary64 := .ofNat c.seconds

/-- The clock after a reading. -/
def Clock.tick (c : Clock) : Clock := ⟨c.seconds + 1⟩

end Promptline

namespace Promptline.Store

open Promptline.Number

/-- A command as it is handed to a store. -/
structure Draft where
  text : String
  time : Binary64 := .zero
  directory : String := ""
deriving DecidableEq, Repr

/-- A stored command with the number that its store gave it. -/
structure Record where
  seq : Int
  text : String
  time : Binary64
  directory : String
deriving DecidableEq, Repr

/-- The record of a draft under the number `seq`. -/
def Draft.numbered (d : Draft) (seq : Int) : Record := ⟨seq, d.text, d.time, d.directory⟩

/-- The records with numbers from `first` up to but not including `upto`. -/
def between (records : List Record) (first upto : Int) : List Record :=
  records.filter fun r => first ≤ r.seq && r.seq < upto

theorem mem_between {records : List Record} {first upto : Int} {r : Record} :
    r ∈ between records first upto ↔ r ∈ records ∧ first ≤ r.seq ∧ r.seq < upto := by
  simp [between]

end Promptline.Store
