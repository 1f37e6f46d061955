/-! The entries that the program logs. -/

namespace Promptline

/-- How much an entry matters. -/
inductive Level where
  | debug | warning | error
deriving DecidableEq, Repr

def Level.name : Level → String
  | .debug => "DEBUG"
  | .warning => "WARNING"
  | .error => "ERROR"

/-- The part of the program that an entry comes from. -/
inductive Channel where
  | prompt | store | view | session | lines | branch | loop
deriving DecidableEq, Repr

/-- The name under which a part of the program logs. -/
def Channel.name : Channel → String
  | .prompt => "shellstatus.prompt"
  | .store => "shellstatus.store"
  | .view => "shellstatus.histutil"
  | .session => "shellstatus.hist_store"
  | .lines => "shellstatus.history"
  | .branch => "shellstatus.segments"
  | .loop => "shellstatus.repl"

/-- A logged message. -/
structure Entry where
  channel : Channel
  level : Level
  message : String
deriving DecidableEq, Repr

/-- An entry as a line of the log. -/
def Entry.line (e : Entry) : String :=
  "MainThread " ++ e.channel.name ++ " " ++ e.level.name ++ ": " ++ e.message

/-- Entries, the oldest first. -/
abbrev Journal := List Entry

end Promptline
