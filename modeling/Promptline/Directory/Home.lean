import Promptline.Style.StyledText
import Promptline.Text.Blank

/-! The home directory: `~` at the start of a path stands for it, and the prompt writes it so. -/

namespace Promptline.Directory

open Promptline.Style

/-- The home directory as it replaces `~`: without slashes at its end. -/
def homeStem (home : List Char) : List Char := Text.dropEnd (· == '/') home

/-- Replaces `~`, alone or before a slash at the start of `path`, by the home directory.  The path
of another user's home stays as it is. -/
def expandHome (home path : List Char) : List Char :=
  match path with
  | '~' :: r =>
    if r = [] || r.take 1 = ['/'] then
      let expanded := homeStem home ++ r
      if expanded = [] then ['/'] else expanded
    else path
  | _ => path

/-- The home directory itself. -/
def homeDirectory (home : String) : String := String.ofList (expandHome home.toList ['~'])

/-- Writes `~` for `home` at the start of `path`. -/
def shorten (home path : List Char) : List Char :=
  if home ≠ [] ∧ (path = home ∨ (home ++ ['/']).isPrefixOf path) then '~' :: path.drop home.length
  else path

/-- Writes `~` for `home` at the start of `path`. -/
def shortPath (home path : String) : String :=
  String.ofList (shorten home.toList path.toList)

/-- The prompt of a directory: its abbreviated path in bold blue, or a question mark if it is gone.
`home` is the value of the variable that names the home directory. -/
def prompt (home : String) (cwd : Option String) : StyledText :=
  match cwd with
  | none | some "" => .plain "?> "
  | some path => .styled (shortPath (homeDirectory home) path) ["bold", "blue"] ++ .plain "> "

end Promptline.Directory
