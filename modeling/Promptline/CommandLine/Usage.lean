import Promptline.CommandLine.Arguments

/-! What the command line prints about itself. -/

namespace Promptline.CommandLine

/-- Lines, each with its end. -/
def lines (ls : List String) : String := String.join (ls.map (· ++ "\n"))

/-- The first line of the help page and of most errors. -/
def usageLine : String := "Usage: shellstatus [OPTIONS]"

/-- The help page. -/
def helpPage (defaultDatabase : String) : String := lines [
  usageLine,
  "",
  "  Interactive shell with an asynchronous status prompt.",
  "",
  "  The prompt and right prompt are recomputed in the background, and command",
  "  history is shared with other running sessions through a SQLite database.",
  "",
  "Options:",
  "  --db FILE                      History database shared by all sessions.",
  "                                 [default: " ++ defaultDatabase ++ "]",
  "  --no-db                        Keep history in memory only, for this session.",
  "  --log FILE                     Write a debug log to this file.",
  "  --stale-threshold FLOAT RANGE  Seconds before a slow prompt is shown as stale",
  "                                 (0 disables).  [default: 0.2; x>=0.0]",
  "  --eagerness INTEGER            Prompt refresh eagerness: 0 manual, 5 on",
  "                                 directory change, 10 always.  [default: 5]",
  "  --version                      Show the version and exit.",
  "  --help                         Show this message and exit."]

def versionLine : String := "shellstatus, version 0.3.0\n"

/-- An error, after a reminder of the usage unless it stands alone. -/
def UsageError.page (e : UsageError) : String :=
  lines ((if e.standsAlone then [] else [usageLine, "Try 'shellstatus --help' for help.", ""]) ++
    ["Error: " ++ e.message])

end Promptline.CommandLine
