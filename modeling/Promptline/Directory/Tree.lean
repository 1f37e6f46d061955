import Promptline.Directory.Path
import Promptline.Text.Quoted

/-! The directories and files that exist around the working directory.  The working directory, all
directories above it and the root exist always. -/

namespace Promptline.Directory

open Promptline.Text

/-- The bytes that `s` takes in a file name. -/
def byteCount (s : List Char) : Nat := s.foldr (fun c n => c.utf8Size + n) 0

/-- The way from the root or from the working directory to a place: the parts of its normal path,
the last one first. -/
structure Route where
  isRooted : Bool
  parts : List (List Char) := []
deriving DecidableEq, Repr

namespace Route

/-- The route one part further on. -/
def push (r : Route) (part : List Char) : Route :=
  { r with parts := pushPart r.isRooted r.parts part }

/-- The route along `path`. -/
def ofPath (path : String) : Route :=
  (splitAtEach (· == '/') path.toList).foldl push { isRooted := path.toList.take 1 = ['/'] }

/-- The bytes of the parts, each with a slash before it. -/
def size (r : Route) : Nat := r.parts.foldr (fun part n => byteCount part + 1 + n) 0

/-- The route leads nowhere but upwards. -/
def isUpward (r : Route) : Bool := r.parts.all (· = ['.', '.'])

end Route

/-- Directories and files, by their paths. -/
structure Tree where
  directories : List String := []
  files : List String := []
deriving DecidableEq, Repr

/-- What exists at a place. -/
inductive Entry where
  | directory | file
deriving DecidableEq, Repr

/-- Why no file can be opened at a place. -/
inductive PathFault where
  | missing | notDirectory | isDirectory | tooLong
deriving DecidableEq, Repr

namespace PathFault

/-- The number of the fault in the system's list. -/
def number : PathFault → Nat
  | missing => 2
  | notDirectory => 20
  | isDirectory => 21
  | tooLong => 36

def message : PathFault → String
  | missing => "No such file or directory"
  | notDirectory => "Not a directory"
  | isDirectory => "Is a directory"
  | tooLong => "File name too long"

/-- What the system says of the fault at `path`. -/
def report (f : PathFault) (path : String) : String :=
  s!"[Errno {f.number}] {f.message}: " ++ quoted path

end PathFault

/-- The most bytes that a part of a path may have. -/
def maxPart : Nat := 255

/-- A path has fewer bytes than this. -/
def maxPath : Nat := 4096

namespace Tree

/-- What exists at the end of a route: a directory of the tree, one above it or above a start, or a
file. -/
def entry? (t : Tree) (r : Route) : Option Entry :=
  let leadsTo (path : String) : Bool :=
    let further := Route.ofPath path
    further.isRooted = r.isRooted && r.parts.isSuffixOf further.parts
  if r.isUpward || t.directories.any leadsTo then some .directory
  else if t.files.any (Route.ofPath · = r) then some .file
  else none

/-- Looks for what is at the end of a route.  Everything before it must be a directory. -/
def look (t : Tree) (isRooted : Bool) : List (List Char) → Except PathFault Entry
  | [] => .ok .directory
  | part :: before =>
    match t.look isRooted before with
    | .error f => .error f
    | .ok .file => .error .notDirectory
    | .ok .directory =>
      if maxPart < byteCount part then .error .tooLong
      else
        match t.entry? ⟨isRooted, part :: before⟩ with
        | some e => .ok e
        | none => .error .missing

/-- Opens the file at the end of a route, which is made if it is missing. -/
def openFile (t : Tree) (r : Route) : Except PathFault Unit :=
  match t.look r.isRooted r.parts, t.look r.isRooted (r.parts.drop 1) with
  | .ok .file, _ => .ok ()
  | .ok .directory, _ => .error .isDirectory
  | .error .missing, .ok .directory => .ok ()
  | .error f, _ => .error f

/-- Opens the file at `path`, which is made if it is missing. -/
def openPath (t : Tree) (path : String) : Except PathFault Unit :=
  if path.isEmpty then .error .missing
  else if maxPath ≤ path.utf8ByteSize then .error .tooLong
  else t.openFile (.ofPath path)

/-- Each step along `parts`, starting after `r`, comes to a directory. -/
def isDirectoryAlong (t : Tree) : Route → List (List Char) → Bool
  | _, [] => true
  | r, part :: parts =>
    t.entry? (r.push part) = some .directory && t.isDirectoryAlong (r.push part) parts

/-- `path` leads to a directory, through directories alone. -/
def isDirectory (t : Tree) (path : String) : Bool :=
  !path.isEmpty && path.utf8ByteSize < maxPath &&
    t.isDirectoryAlong { isRooted := path.toList.take 1 = ['/'] }
      (splitAtEach (· == '/') path.toList)

/-- Something exists at the end of `path`, which goes through directories alone. -/
def hasPath (t : Tree) (path : String) : Bool :=
  let r := Route.ofPath path
  let before := ((splitAtEach (· == '/') path.toList).reverse.drop 1).reverse
  t.isDirectory path || (path.utf8ByteSize < maxPath && t.entry? r = some .file &&
    path.toList.getLast? ≠ some '/' && t.isDirectoryAlong { isRooted := r.isRooted } before)

end Tree

end Promptline.Directory
