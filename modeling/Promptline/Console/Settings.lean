import Promptline.Markup.Tag
import Promptline.Number.Reading
import Promptline.Number.Writing
import Promptline.Text.LowerCase

/-! The refresh settings of a session's prompts, as `.prompt` shows and changes them. -/

namespace Promptline.Console

open Promptline.Number

/-- How readily the prompts are recomputed, and the seconds after which a computation is overdue. -/
structure Settings where
  eagerness : Int := 5
  threshold : Binary64 := ⟨0x3FC999999999999A⟩
deriving DecidableEq, Repr

/-- The settings as `.prompt` shows them. -/
def Settings.summary (s : Settings) : String :=
  s!"eagerness={s.eagerness} stale={s.threshold.sixDigits}s"

/-- The settings after `.prompt key value`, where `key` is in lower case; none if the value is
invalid or the setting unknown. -/
def assign? (s : Settings) (key : String) (value : String) : Option Settings :=
  if key = "eagerness" then
    (readInteger? value.toList).map fun n => { s with eagerness := n }
  else if key = "stale" then
    match readBinary64? value.toList with
    | some x => if x.isNegative then none else some { s with threshold := x }
    | none => none
  else none

/-- Shows the settings, or changes one of them. -/
def promptCommand (s : Settings) (arguments : String) : String × Settings :=
  if arguments = "" then (s.summary, s)
  else
    match Text.words arguments.toList with
    | [key, value] =>
      let key := String.ofList (Text.lower key)
      let value := String.ofList value
      if key = "eagerness" ∨ key = "stale" then
        match assign? s key value with
        | some s => (s!"Prompt {key} set to {value}", s)
        | none => (s!"[red]Invalid value for {key}: {Markup.escaped value}[/red]", s)
      else (s!"[red]Unknown prompt setting: {Markup.escaped key}[/red]", s)
    | _ => ("[red]Usage: .prompt eagerness <n> | .prompt stale <seconds>[/red]", s)

end Promptline.Console
