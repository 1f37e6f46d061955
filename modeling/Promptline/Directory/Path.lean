import Promptline.Text.Split

/-! Paths with `/` between their parts: joining, and removing the parts that mean nothing. -/

namespace Promptline.Directory

open Promptline.Text

/-- `path` as seen from `base`. -/
def joinPath (base path : List Char) : List Char :=
  if path.take 1 = ['/'] then path
  else if base = [] || base.getLast? = some '/' then base ++ path
  else base ++ '/' :: path

/-- The slashes that a normal path keeps at its start: two if there are two, one if there is one or
more than two. -/
def rootOf : List Char → List Char
  | '/' :: '/' :: '/' :: _ => ['/']
  | '/' :: '/' :: _ => ['/', '/']
  | '/' :: _ => ['/']
  | _ => []

/-- The parts of a path, newest first, with one more part.  An empty part and `.` change nothing;
`..` takes a part away, or stays if there is none to take and the path has no root. -/
def pushPart (rooted : Bool) (parts : List (List Char)) (part : List Char) : List (List Char) :=
  if part = [] || part = ['.'] then parts
  else if part = ['.', '.'] then
    match parts with
    | [] => if rooted then [] else [part]
    | p :: ps => if p = ['.', '.'] then part :: p :: ps else ps
  else part :: parts

/-- `path` without empty parts, `.`, and the `..` that can be carried out. -/
def normalPath (path : List Char) : List Char :=
  let root := rootOf path
  let parts := (splitAtEach (· == '/') path).foldl (pushPart !root.isEmpty) []
  let normal := root ++ ['/'].intercalate parts.reverse
  if normal = [] then ['.'] else normal

/-- `path` as seen from `base`, in normal form. -/
def resolve (base path : String) : String :=
  String.ofList (normalPath (joinPath (if base = "" then ['/'] else base.toList) path.toList))

end Promptline.Directory
