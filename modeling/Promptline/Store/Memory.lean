import Promptline.Store.Record

/-! Stores that live in memory. -/

namespace Promptline.Store

/-- A store that numbers its records from zero on. -/
structure Memory where
  records : List Record := []
deriving DecidableEq, Repr

namespace Memory

/-- The number that the next record gets. -/
def next (m : Memory) : Int := m.records.length

def add (m : Memory) (d : Draft) : Memory := ⟨m.records ++ [d.numbered m.next]⟩

/-- A store that holds `texts`, without times and directories. -/
def ofTexts (texts : List String) : Memory := texts.foldl (fun m t => m.add ⟨t, .zero, ""⟩) {}

end Memory

/-- A store over given records, with numbers of any kind in any order. -/
structure Listing where
  records : List Record
deriving DecidableEq, Repr

namespace Listing

/-- The number that the next record gets: one more than the largest. -/
def next (l : Listing) : Int :=
  match l.records.map Record.seq with
  | [] => 0
  | s :: ss => ss.foldl max s + 1

def add (l : Listing) (d : Draft) : Listing := ⟨l.records ++ [d.numbered l.next]⟩

end Listing

end Promptline.Store
