import Promptline.Directory.Tree
import Promptline.Store.Database

/-! Where a database lies, given the directories and files that exist. -/

namespace Promptline.Store

open Promptline.Directory Promptline.Text

/-- What the name of a file gets while something is being written. -/
def journalSuffix : String := "-journal"

/-- `path` in normal form. -/
def normal (path : String) : String := String.ofList (normalPath path.toList)

/-- The path of a database has fewer bytes than this. -/
def maxDatabasePath : Nat := 512

/-- Goes along `parts` after a route.  `..` takes a part away even from what is missing; only what
cannot exist at all, such as a part of a file, stops the way. -/
def reachable (t : Tree) : Route → List (List Char) → Bool
  | _, [] => true
  | r, part :: parts =>
    let r := r.push part
    match t.look r.isRooted r.parts with
    | .ok _ | .error .missing => r.size < maxDatabasePath && reachable t r parts
    | .error _ => false

/-- Why the file at an address cannot be opened, if so. -/
def Address.openingFault? (a : Address) (t : Tree) : Option OpeningFault :=
  let r := Route.ofPath a.file
  if !reachable t { isRooted := r.isRooted } (splitAtEach (· == '/') a.file.toList) then
    some .unreachable
  else if a.model.any fun model => !t.hasPath model then some .unreadable
  else
    match t.openFile r with
    | .error .isDirectory =>
      some (if a.access = .readOnly && r ≠ ⟨true, []⟩ then .unreadable else .unreachable)
    | .error _ => some .unreachable
    | .ok () =>
      if a.access = .create || t.entry? r = some .file then none else some .unreachable

/-- A name of a file leaves room for a suffix. -/
def leavesRoomFor (suffix path : String) : Bool :=
  byteCount ((Route.ofPath path).parts.headD []) + suffix.utf8ByteSize ≤ maxPart

/-- Where the records of the database at an address are. -/
def Address.place (a : Address) (t : Tree) (path : String) : Place :=
  if a.isTransient then if a.isReadOnly then .unwritable .readOnly else .transient
  else
    match a.openingFault? t with
    | some f => .nowhere (.store (.unopenable path f))
    | none =>
      if a.isReadOnly then .unwritable .readOnly
      else if !leavesRoomFor journalSuffix a.file then .unwritable .cannotOpen
      else .file

/-- A database that has not been used yet.  The files `garbled` hold something that is no database.
-/
def Database.at (t : Tree) (garbled : List String) (path : String) : Database :=
  if path.toList.contains '\x00' then { path := path, place := .nowhere .zeroInPath }
  else
    let barrier := match t.openPath path with
      | .ok () => none
      | .error f => some f
    match Address.read path with
    | .error f =>
      { path := path
        place := .nowhere (.store (.unopenable path (.address f)))
        barrier := barrier }
    | .ok a =>
      let isMade := !a.isTransient && (a.openingFault? t).isNone
      { path := path
        place := a.place t path
        placeThen :=
          if isMade then some (a.place { t with files := a.file :: t.files } path) else none
        file := if isMade then some (normal a.file) else none
        barrier := barrier
        isFile := !a.isTransient && a.file = path
        garbled := isMade && garbled.any fun g => Route.ofPath g = Route.ofPath a.file
        isNamed := a.isNamed
        locking := a.locking }

end Promptline.Store
