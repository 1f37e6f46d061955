import Promptline.Directory.Tree
import Promptline.Store.Address

/-! The ways in which a call of a store fails. -/

namespace Promptline.Store

open Promptline.Directory

/-- What is wrong with a database file. -/
inductive DatabaseFault where
  | locked
  /-- A table is locked, which is not always named. -/
  | tableLocked (name : Option String)
  | schemaLocked
  | notADatabase
  | missingTable (name : String)
  | missingTime
  | full
  | readOnly
  /-- A file that is needed beside the database cannot be made. -/
  | cannotOpen
deriving DecidableEq, Repr

/-- What is said of a file that cannot be opened. -/
def cannotOpenMessage : String := "unable to open database file"

def DatabaseFault.message : DatabaseFault → String
  | .locked => "database is locked"
  | .tableLocked none => "database table is locked"
  | .tableLocked (some name) => "database table is locked: " ++ name
  | .schemaLocked => "database schema is locked: main"
  | .notADatabase => "file is not a database"
  | .missingTable name => "no such table: " ++ name
  | .missingTime => "NOT NULL constraint failed: cmd.time"
  | .full => "database or disk is full"
  | .readOnly => "attempt to write a readonly database"
  | .cannotOpen => cannotOpenMessage

/-- Why a database cannot be opened. -/
inductive OpeningFault where
  | unreachable
  /-- A directory, but not the root, is to be read as a file, or the file whose permissions the
  database is to have is missing. -/
  | unreadable
  | address (f : AddressFault)
deriving DecidableEq, Repr

def OpeningFault.message : OpeningFault → String
  | .unreachable => cannotOpenMessage
  | .unreadable => "disk I/O error"
  | .address f => f.message

/-- An error of a store: one that it reports in its own words, a fault of its database, or a
database that cannot be opened. -/
inductive StoreError where
  | reported (message : String)
  | database (fault : DatabaseFault)
  | unopenable (path : String) (fault : OpeningFault)
deriving DecidableEq, Repr

def StoreError.message : StoreError → String
  | .reported message => message
  | .database fault => "History database error: " ++ fault.message
  | .unopenable path fault => "Cannot open history database " ++ path ++ ": " ++ fault.message

/-- How a call fails: with an error of the store, because a bound of a range is no number that the
database can hold, because a path holds a zero character, or because a file cannot be written. -/
inductive Failure where
  | store (e : StoreError)
  | boundTooLarge
  | zeroInPath
  | unwritten (path : String) (fault : PathFault)
deriving DecidableEq, Repr

def Failure.message : Failure → String
  | .store e => e.message
  | .boundTooLarge => "Python int too large to convert to SQLite INTEGER"
  | .zeroInPath => "embedded null byte"
  | .unwritten path fault => fault.report path

end Promptline.Store
