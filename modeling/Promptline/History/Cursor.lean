import Promptline.Store.Record

/-! Cursors over the commands that start with a given text.  A new cursor stands past the newest
match; a move past either end fails and leaves the cursor where it is. -/

namespace Promptline.History

open Promptline.Store

/-- Why a cursor gives no record. -/
inductive CursorFault where
  | offRecord | noOlder | noNewer
deriving DecidableEq, Repr

def CursorFault.message : CursorFault → String
  | .offRecord => "Cursor is not on a record"
  | .noOlder => "No older matching command"
  | .noNewer => "No newer matching command"

/-- `text` starts with `lead`. -/
def startsWith (lead text : String) : Bool := lead.toList.isPrefixOf text.toList

/-- The records whose texts start with `lead`. -/
def matching (lead : String) (records : List Record) : List Record :=
  records.filter fun r => startsWith lead r.text

/-- A place among matching records, which is past the newest one if `position` is their number. -/
structure Cursor where
  lead : String
  records : List Record
  position : Nat
deriving DecidableEq, Repr

namespace Cursor

/-- A cursor past the newest of the records that start with `lead`. -/
def ofRecords (lead : String) (records : List Record) : Cursor :=
  ⟨lead, matching lead records, (matching lead records).length⟩

def length (c : Cursor) : Nat := c.records.length

/-- The record under the cursor. -/
def get (c : Cursor) : Except CursorFault Record :=
  match c.records[c.position]? with
  | some r => .ok r
  | none => .error .offRecord

/-- Moves to the next older record and gives it. -/
def older (c : Cursor) : Except CursorFault Record × Cursor :=
  match c.position with
  | 0 => (.error .noOlder, c)
  | p + 1 =>
    match c.records[p]? with
    | some r => (.ok r, { c with position := p })
    | none => (.error .noOlder, c)

/-- Moves to the next newer record and gives it. -/
def newer (c : Cursor) : Except CursorFault Record × Cursor :=
  match c.records[c.position + 1]? with
  | some r => (.ok r, { c with position := c.position + 1 })
  | none => (.error .noNewer, c)

/-- The records that moves to older ones give, from `position` on until one fails. -/
def walk (records : List Record) : (position : Nat) → List Record
  | 0 => []
  | p + 1 =>
    match records[p]? with
    | some r => r :: walk records p
    | none => []

/-- The records that moves to older ones give, newest first. -/
def olderAll (c : Cursor) : List Record := walk c.records c.position

end Cursor

end Promptline.History
