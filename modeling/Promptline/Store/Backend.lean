import Promptline.Journal
import Promptline.Store.Database
import Promptline.Store.Memory

/-! The store that sessions share, of whichever kind, with what other writers do to it between two
calls and the failures of its calls. -/

namespace Promptline.Store

open Promptline.Number

/-- A store of one of the kinds. -/
inductive Backend where
  | memory (m : Memory)
  | listing (l : Listing)
  | database (db : Database)
deriving DecidableEq, Repr

namespace Backend

/-- Prepares the store for a session or another writer. -/
def attach : Backend → Except Failure Backend
  | .database db => db.attach.map .database
  | b => .ok b

/-- The number that the store announces for the next record. -/
def next : Backend → Except Failure Int
  | .memory m => .ok m.next
  | .listing l => .ok l.next
  | .database db => db.next

/-- Adds a record and gives its number. -/
def add : Backend → Draft → Except Failure (Int × Backend)
  | .memory m, d => .ok (m.next, .memory (m.add d))
  | .listing l, d => .ok (l.next, .listing (l.add d))
  | .database db, d => (db.add d).map fun p => (p.1, .database p.2)

/-- The records with numbers from `first` up to but not including `upto`. -/
def range : Backend → Int → Int → Except Failure (List Record)
  | .memory m, first, upto => .ok (between m.records first upto)
  | .listing l, first, upto => .ok (between l.records first upto)
  | .database db, first, upto => db.range first upto

/-- The store stamps a record that comes without a time. -/
def stamps : Backend → Draft → Bool
  | .database _, d => d.time.isZero
  | _, _ => false

/-- The file of the store. -/
def path? : Backend → Option String
  | .database db => some db.path
  | _ => none

/-- Changes the database, if there is one. -/
def onDatabase (f : Database → Except Failure Database) : Backend → Except Failure Backend
  | .database db => (f db).map .database
  | b => .ok b

end Backend

/-- The calls that a store answers. -/
inductive Call where
  | next | add | range
deriving DecidableEq, Repr

/-- A store as its sessions meet it. -/
structure Shared where
  backend : Backend
  /-- The calls that fail now, with the message of each. -/
  failing : List (Call × String) := []
  /-- What another writer adds right after the next number has been read. -/
  arriving : List Draft := []
  clock : Clock
  journal : Journal := []
deriving DecidableEq, Repr

namespace Shared

/-- The error with which a call fails now. -/
def failure? (s : Shared) (c : Call) : Option Failure :=
  (s.failing.lookup c).map fun message => .store (.reported message)

def log (s : Shared) (channel : Channel) (level : Level) (message : String) : Shared :=
  { s with journal := s.journal ++ [⟨channel, level, message⟩] }

/-- Prepares the store for a session or another writer. -/
def attach (s : Shared) : Except Failure Unit × Shared :=
  match s.backend.attach with
  | .error f => (.error f, s)
  | .ok b => (.ok (), { s with backend := b })

/-- The store after another writer has added a record, if that succeeds. -/
def receive (b : Backend) (d : Draft) : Backend :=
  match b.add d with
  | .error _ => b
  | .ok (_, b) => b

/-- The number announced for the next record.  What arrives right after is in the store from then
on. -/
def next (s : Shared) : Except Failure Int × Shared :=
  match s.failure? .next, s.backend.next with
  | some f, _ | none, .error f => (.error f, s)
  | none, .ok n => (.ok n, { s with backend := s.arriving.foldl receive s.backend, arriving := [] })

/-- The draft as the store writes it, and the clock after it has been stamped. -/
def stamp (s : Shared) (d : Draft) : Draft × Clock :=
  if s.backend.stamps d then ({ d with time := s.clock.now }, s.clock.tick) else (d, s.clock)

/-- Notes in the journal that a record has been written to a file. -/
def noteStored (s : Shared) (seq : Int) : Shared :=
  match s.backend.path? with
  | some path => s.log .store .debug s!"Stored command {seq} in {path}"
  | none => s

/-- Adds a record and gives its number.  A record without a time is stamped before the store is
touched, so a failed call has read the clock too. -/
def add (s : Shared) (d : Draft) : Except Failure Int × Shared :=
  let (d, clock) := s.stamp d
  let s := { s with clock := clock }
  match s.failure? .add, s.backend.add d with
  | some f, _ | none, .error f => (.error f, s)
  | none, .ok (seq, b) => (.ok seq, { s with backend := b }.noteStored seq)

/-- The records with numbers from `first` up to but not including `upto`. -/
def range (s : Shared) (first upto : Int) : Except Failure (List Record) :=
  match s.failure? .range with
  | some f => .error f
  | none => s.backend.range first upto

end Shared

end Promptline.Store
