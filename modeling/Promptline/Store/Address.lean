import Promptline.Text.Character
import Promptline.Text.Split

/-! Addresses of databases.  An address is the path of a file, or `file:` with a path and parameters
that say how the file is to be opened. -/

namespace Promptline.Store

open Promptline.Text

/-- How the file of a database is opened. -/
inductive Access where
  | readOnly
  | readWrite
  /-- The file is made if it is missing. -/
  | create
  /-- The database is kept in memory and the file is left alone. -/
  | memory
deriving DecidableEq, Repr

namespace Access

def all : List Access := [readOnly, readWrite, create, memory]

/-- The word for a way of opening. -/
def word : Access → String
  | readOnly => "ro"
  | readWrite => "rw"
  | create => "rwc"
  | memory => "memory"

def ofWord? (word : String) : Option Access := all.find? (·.word = word)

/-- What a way of opening permits; more permits everything that less does. -/
def extent : Access → Nat
  | readOnly => 1
  | readWrite => 2
  | create => 3
  | memory => 4

/-- A parameter may change `current` to `a`: never to more, but to memory always. -/
def mayFollow (a current : Access) : Bool := a = .memory || a.extent ≤ current.extent

end Access

/-- What is wrong with an address. -/
inductive AddressFault where
  /-- The file is said to be on another machine. -/
  | foreign (machine : String)
  | noCacheMode (word : String)
  | noAccessMode (word : String)
  | forbiddenAccess (word : String)
  | noFileSystem (name : String)
deriving DecidableEq, Repr

def AddressFault.message : AddressFault → String
  | .foreign machine => "invalid uri authority: " ++ machine
  | .noCacheMode word => "no such cache mode: " ++ word
  | .noAccessMode word => "no such access mode: " ++ word
  | .forbiddenAccess word => "access mode not allowed: " ++ word
  | .noFileSystem name => "no such vfs: " ++ name

/-- The address of a database. -/
structure Address where
  /-- The path of the file. -/
  file : String
  access : Access := .create
  /-- The last file system that was asked for. -/
  fileSystem : Option String := none
  /-- Nobody changes the file. -/
  isImmutable : Bool := false
  /-- No locks are taken. -/
  isUnlocked : Bool := false
  /-- All connections of a program use the same cache. -/
  isShared : Bool := false
  /-- The file whose permissions the file of the database gets. -/
  model : Option String := none
deriving DecidableEq, Repr

/-- What the locks on a database keep others from. -/
inductive Locking where
  /-- A writer keeps other writers off, and nobody reads or locks while it writes to the file. -/
  | graded
  /-- Locks keep nobody from anything. -/
  | absent
  /-- Every lock keeps everybody off. -/
  | whole
  /-- Locks are on the tables of a cache that all connections use. -/
  | tabular
deriving DecidableEq, Repr

/-- The bytes that a part of an address stands for: two hexadecimal digits after a percent sign are
one byte, and a zero byte ends the part. -/
def decodedBytes : List Char → List UInt8
  | [] => []
  | '%' :: a :: b :: r =>
    match hexValue? a, hexValue? b with
    | some m, some n => if m = 0 ∧ n = 0 then [] else (16 * m + n).toUInt8 :: decodedBytes r
    | _, _ => String.utf8EncodeChar '%' ++ decodedBytes (a :: b :: r)
  | c :: r => String.utf8EncodeChar c ++ decodedBytes r

/-- The text that a part of an address stands for.  Bytes that are no text stand for themselves. -/
def decoded (part : List Char) : String :=
  let bytes := decodedBytes part
  (String.fromUTF8? ⟨bytes.toArray⟩).getD
    (String.ofList (bytes.map fun b => Char.ofNat b.toNat))

/-- A parameter: its name, and its value after an equals sign. -/
def readParameter (text : List Char) : String × String :=
  (decoded (text.takeWhile (· ≠ '=')), decoded ((text.dropWhile (· ≠ '=')).drop 1))

/-- A word that says yes: a number other than zero, or one of three words in any case. -/
def saysYes (word : String) : Bool :=
  let digits := word.toList.takeWhile Char.isDigit
  if digits.isEmpty then
    ["on", "yes", "true"].contains (String.ofList (word.toList.map Char.toLower))
  else digits.any (· ≠ '0')

namespace Address

/-- The file systems that there are. -/
def fileSystems : List String := ["unix", "unix-none", "unix-dotfile", "unix-excl", "memdb"]

/-- Sets what a parameter says.  Parameters of unknown names say nothing. -/
def set (a : Address) (parameter : String × String) : Except AddressFault Address :=
  let (name, value) := parameter
  match name with
  | "vfs" => .ok { a with fileSystem := some value }
  | "cache" =>
    if ["shared", "private"].contains value then .ok { a with isShared := value = "shared" }
    else .error (.noCacheMode value)
  | "mode" =>
    match Access.ofWord? value with
    | none => .error (.noAccessMode value)
    | some access =>
      if access.mayFollow a.access then .ok { a with access := access }
      else .error (.forbiddenAccess value)
  | _ => .ok a

/-- Reads a path with parameters after a question mark.  What follows a number sign is left out. -/
def readPath (text : List Char) : Except AddressFault Address := do
  let text := text.takeWhile (· ≠ '#')
  let parameters := ((splitAtEach (· == '&') ((text.dropWhile (· ≠ '?')).drop 1)).map
    readParameter).filter (·.1 ≠ "")
  let a ← parameters.foldlM set { file := decoded (text.takeWhile (· ≠ '?')) }
  match a.fileSystem.filter (!fileSystems.contains ·) with
  | some name => throw (.noFileSystem name)
  | none =>
    return { a with
      isImmutable := (parameters.lookup "immutable").any saysYes
      isUnlocked := (parameters.lookup "nolock").any saysYes
      model := parameters.lookup "modeof" }

/-- Reads an address.  Two slashes after `file:` lead to the name of a machine, which can only be
this one. -/
def read (address : String) : Except AddressFault Address :=
  match address.toList with
  | 'f' :: 'i' :: 'l' :: 'e' :: ':' :: text =>
    match text with
    | '/' :: '/' :: text =>
      let machine := String.ofList (text.takeWhile (· ≠ '/'))
      if machine = "" ∨ machine = "localhost" then readPath (text.dropWhile (· ≠ '/'))
      else .error (.foreign machine)
    | text => readPath text
  | _ => .ok { file := address }

/-- The database has no file. -/
def hasNoFile (a : Address) : Bool := a.file = "" || a.file = ":memory:" || a.access = .memory

/-- The database is kept in memory for as long as it is open. -/
def isTransient (a : Address) : Bool := a.hasNoFile || a.fileSystem = some "memdb"

/-- The database has a name by which all connections of a program find it, though it has no file. -/
def isNamed (a : Address) : Bool :=
  a.isTransient && a.file ≠ "" &&
    (a.isShared || (!a.hasNoFile && a.file ≠ "/" && a.file.toList.take 1 = ['/']))

/-- What locks on the database keep others from. -/
def locking (a : Address) : Locking :=
  if a.isShared && a.file ≠ "" then .tabular
  else if a.isUnlocked || a.isImmutable || a.fileSystem = some "unix-none" then .absent
  else if a.fileSystem = some "unix-dotfile" || a.fileSystem = some "memdb" then .whole
  else .graded

/-- Nothing can be written to the database. -/
def isReadOnly (a : Address) : Bool := a.access = .readOnly || (a.isImmutable && !a.hasNoFile)

end Address

end Promptline.Store
