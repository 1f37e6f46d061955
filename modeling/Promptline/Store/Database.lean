import Promptline.Store.Failure
import Promptline.Store.Record

/-! A store in a database file that several programs share.  The file has one table of records.  It
numbers them with a counter that only grows, so that the number of a deleted record is not given
again. -/

namespace Promptline.Store

open Promptline.Directory Promptline.Number

/-- The locks that another program may hold. -/
inductive Lock where
  | deferred | immediate | shared | exclusive
deriving DecidableEq, Repr

namespace Lock

/-- What a lock keeps others from; more keeps them from everything that less does. -/
def strength : Lock → Nat
  | deferred => 0
  | shared => 1
  | immediate => 2
  | exclusive => 3

/-- Two locks held together do what the stronger one does. -/
def stronger (a b : Lock) : Lock := if a.strength < b.strength then b else a

end Lock

namespace Locking

/-- What keeps everybody else from reading while somebody holds a lock. -/
def readingFault? : Locking → Lock → Option DatabaseFault
  | .absent, _ | _, .deferred => none
  | .whole, _ | .graded, .exclusive => some .locked
  | .tabular, .exclusive => some .schemaLocked
  | .graded, _ | .tabular, _ => none

/-- What keeps everybody else from starting to write to `table`, although they may read. -/
def writingFault? (table : String) : Locking → Lock → Option DatabaseFault
  | .graded, .immediate => some .locked
  | .tabular, .immediate => some (.tableLocked none)
  | .tabular, .shared =>
    if table = "sqlite_sequence" then none else some (.tableLocked (some table))
  | _, _ => none

/-- What keeps everybody else from finishing to write, although they may start. -/
def finishingFault? : Locking → Lock → Option DatabaseFault
  | .graded, .shared => some .locked
  | _, _ => none

end Locking

/-- Where the records of a database are. -/
inductive Place where
  | file
  /-- Nowhere after a call. -/
  | transient
  /-- In a file that can be read, but in which nothing can be made. -/
  | unwritable (fault : DatabaseFault)
  /-- Every call fails before it comes to them. -/
  | nowhere (f : Failure)
deriving DecidableEq, Repr

/-- A database. -/
structure Database where
  /-- The path of the database, as it was asked for. -/
  path : String
  /-- Where the records are. -/
  place : Place := .file
  /-- Where they are once the file exists, if that makes a difference. -/
  placeThen : Option Place := none
  /-- The file that exists once the database has been opened. -/
  file : Option String := none
  /-- Why nothing else can be written to a file at the path, if so. -/
  barrier : Option PathFault := none
  /-- What is written to a file at the path is written to the database. -/
  isFile : Bool := true
  /-- The file holds something that is no database. -/
  garbled : Bool := false
  /-- Records in memory stay there while another program uses them too. -/
  isNamed : Bool := false
  /-- What locks keep others from. -/
  locking : Locking := .graded
  lock : Option Lock := none
  /-- The records in the order of their numbers, once the table exists. -/
  table : Option (List Record) := none
  /-- The last number given, if any, once a table has ever existed. -/
  counter : Option (Option Int) := none
deriving DecidableEq, Repr

namespace Database

/-- The largest number of a record. -/
def maxSeq : Int := 0x7FFFFFFFFFFFFFFF

/-- `n` fits a column of the database. -/
def holds (n : Int) : Bool := -0x8000000000000000 ≤ n && n ≤ maxSeq

/-- Where a call finds the records. -/
def placeNow (db : Database) : Place :=
  if db.place = .transient ∧ db.isNamed ∧ db.lock.isSome then .file else db.place

/-- What keeps every call from reading the file. -/
def obstacle? (db : Database) : Option Failure :=
  match db.placeNow with
  | .nowhere f => some f
  | .transient => none
  | .file | .unwritable _ =>
    match db.lock.bind db.locking.readingFault? with
    | some fault => some (.store (.database fault))
    | none => if db.garbled then some (.store (.database .notADatabase)) else none

/-- What keeps a call that may read from starting to write to `table`. -/
def writingFault? (db : Database) (table : String) : Option DatabaseFault :=
  db.lock.bind (db.locking.writingFault? table)

/-- What keeps a call from finishing to write. -/
def finishingFault? (db : Database) : Option DatabaseFault :=
  db.lock.bind db.locking.finishingFault?

/-- The table as a call finds it. -/
def tableNow (db : Database) : Option (List Record) :=
  if db.placeNow = .file then db.table else none

/-- The counter as a call finds it. -/
def counterNow (db : Database) : Option (Option Int) :=
  if db.placeNow = .file then db.counter else none

/-- The database after a call that has made its file. -/
def opened (db : Database) : Database := { db with place := db.placeThen.getD db.place }

/-- Makes the table if it is missing. -/
def attach (db : Database) : Except Failure Database :=
  match db.obstacle?, db.placeNow with
  | some f, _ => .error f
  | none, .unwritable fault => .error (.store (.database fault))
  | none, place =>
    if place ≠ .file ∨ db.table.isSome then .ok db.opened
    else
      match (db.writingFault? "sqlite_master").or db.finishingFault? with
      | some fault => .error (.store (.database fault))
      | none => .ok { db.opened with table := some [], counter := some (db.counter.getD none) }

/-- The number that the counter announces. -/
def next (db : Database) : Except Failure Int :=
  match db.obstacle?, db.counterNow with
  | some f, _ => .error f
  | none, none => .error (.store (.database (.missingTable "sqlite_sequence")))
  | none, some last => .ok (last.getD 0 + 1)

/-- The largest number that has been given, zero before the first. -/
def largest (last : Option Int) (records : List Record) : Int :=
  (records.map Record.seq).foldl max (max 0 (last.getD 0))

/-- Adds a record and gives its number.  Nothing changes unless the writing can be finished. -/
def add (db : Database) (d : Draft) : Except Failure (Int × Database) :=
  match db.obstacle?, db.tableNow with
  | some f, _ => .error f
  | none, none => .error (.store (.database (.missingTable "cmd")))
  | none, some records =>
    let last := largest (db.counterNow.getD none) records
    let fault := (db.writingFault? "cmd")
      |>.or (if maxSeq ≤ last then some .full else none)
      |>.or (if d.time.isNaN then some .missingTime else none)
      |>.or db.finishingFault?
    match fault with
    | some fault => .error (.store (.database fault))
    | none => .ok (last + 1, { db with
        table := some (records ++ [d.numbered (last + 1)]), counter := some (some (last + 1)) })

/-- The records with numbers from `first` up to but not including `upto`. -/
def range (db : Database) (first upto : Int) : Except Failure (List Record) :=
  match db.obstacle?, db.tableNow with
  | some f, _ => .error f
  | none, none => .error (.store (.database (.missingTable "cmd")))
  | none, some records =>
    if holds first && holds upto then .ok (between records first upto) else .error .boundTooLarge

/-- Changes `table` from outside, if the table called `name`, which holds `content`, exists and
`seq` is a number for it. -/
def change {α : Type} (db : Database) (name table : String) (content : Option α) (seq : Int)
    (f : α → Database) : Except Failure Database :=
  match db.obstacle?, content with
  | some f, _ => .error f
  | none, none => .error (.store (.database (.missingTable name)))
  | none, some content =>
    if !holds seq then .error .boundTooLarge
    else
      match (db.writingFault? table).or db.finishingFault? with
      | some fault => .error (.store (.database fault))
      | none => .ok (f content)

/-- Deletes the record `seq`, if there is one. -/
def delete (db : Database) (seq : Int) : Except Failure Database :=
  db.change "cmd" "cmd" db.tableNow seq fun records =>
    { db with table := some (records.filter (·.seq ≠ seq)) }

/-- Sets the counter. -/
def setCounter (db : Database) (seq : Int) : Except Failure Database :=
  db.change "sqlite_sequence" "sqlite_sequence" db.counterNow seq fun _ =>
    { db with counter := some (some seq) }

/-- Drops the table and what the counter knows of it. -/
def drop (db : Database) : Except Failure Database :=
  db.change "cmd" "sqlite_master" db.tableNow 0 fun _ =>
    { db with table := none, counter := db.counter.map fun _ => none }

/-- Another program takes a lock: a deferred one without a look at the file, a shared one by reading
the table, and the others by starting to write. -/
def takeLock (db : Database) (lock : Lock) : Except Failure Database :=
  let taken : Database := { db.opened with lock := (db.lock.getD lock).stronger lock }
  let toWrite (fault? : Option DatabaseFault) : Except Failure Database :=
    match fault? with
    | some fault => .error (.store (.database fault))
    | none => .ok taken
  match lock, db.placeNow, db.obstacle? with
  | _, .nowhere f, _ => .error f
  | .deferred, _, _ => .ok taken
  | _, _, some f => .error f
  | .shared, _, none =>
    if db.tableNow.isSome then .ok taken else .error (.store (.database (.missingTable "cmd")))
  | .immediate, _, none => toWrite (db.writingFault? "sqlite_sequence")
  | .exclusive, _, none =>
    toWrite ((db.writingFault? "sqlite_master").or db.finishingFault?)

/-- The other program gives its lock back. -/
def releaseLock (db : Database) : Database :=
  if db.place = .transient then { db with lock := none, table := none, counter := none }
  else { db with lock := none }

/-- Another program writes something that is no database to a file at the path. -/
def overwrite (db : Database) : Except Failure Database :=
  match db.place, db.barrier with
  | .nowhere .zeroInPath, _ => .error .zeroInPath
  | _, some fault => .error (.unwritten db.path fault)
  | _, none => .ok { db with garbled := db.garbled || db.isFile }

end Database

end Promptline.Store
