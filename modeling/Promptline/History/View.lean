import Promptline.History.Cursor
import Promptline.Store.Backend

/-! The history as a session sees it: the records that its store held when the view was built, and
those that the session has added since.  What other sessions write shows when the view is built
anew. -/

namespace Promptline.History

open Promptline.Store

/-- A view of a store. -/
structure View where
  snapshot : List Record
  own : List Record := []
deriving DecidableEq, Repr

namespace View

/-- Every record in view, oldest first. -/
def all (v : View) : List Record := v.snapshot ++ v.own

/-- Builds a view of the records below `upto`. -/
def collect (s : Shared) (upto : Int) : Except Failure View × Shared :=
  match s.range 0 upto with
  | .error e => (.error e, s)
  | .ok records =>
    (.ok ⟨records, []⟩,
      s.log .view .debug s!"Loaded {records.length} history records (upto seq {upto})")

/-- Reads the next number and then the records below it. -/
def load (s : Shared) : Except Failure View × Shared :=
  match s.next with
  | (.error e, s) => (.error e, s)
  | (.ok upto, s) => collect s upto

/-- Opens a store and builds a view of it. -/
def openOn (s : Shared) : Except Failure View × Shared :=
  match s.attach with
  | (.error e, s) => (.error e, s)
  | (.ok (), s) => load s

/-- Adds a command to the store, and then to the view under the number that the store gave it. -/
def add (v : View) (d : Draft) (s : Shared) : Except Failure (Int × View) × Shared :=
  match s.add d with
  | (.error e, s) => (.error e, s)
  | (.ok seq, s) => (.ok (seq, { v with own := v.own ++ [d.numbered seq] }), s)

/-- A new view of the store, in place of this one if it can be built. -/
def renew (_ : View) (s : Shared) : Except Failure View × Shared :=
  match load s with
  | (.error e, s) => (.error e, s)
  | (.ok v, s) =>
    (.ok v, s.log .session .debug s!"History fast-forwarded to {v.all.length} commands")

/-- A cursor over the commands that start with `lead`. -/
def cursor (v : View) (lead : String) : Cursor := .ofRecords lead v.all

end View

end Promptline.History
