import Promptline.History.View

/-! The history that the line editor walks through.  It reads the texts in view once, and keeps the
lines that are accepted afterwards in front of them. -/

namespace Promptline.History

open Promptline.Store

/-- The history of a line editor. -/
structure LineHistory where
  isLoaded : Bool := false
  /-- The lines, newest first. -/
  lines : List String := []
  /-- The last write that failed and has not been reported. -/
  unreported : Option StoreError := none
deriving DecidableEq, Repr

namespace LineHistory

/-- The texts in view, newest first. -/
def newestFirst (v : View) : List String := (v.all.map Record.text).reverse

/-- Reads the texts in view, the first time. -/
def load (h : LineHistory) (v : View) : LineHistory :=
  if h.isLoaded then h else { h with isLoaded := true, lines := newestFirst v }

/-- The lines, oldest first. -/
def oldestFirst (h : LineHistory) : List String := h.lines.reverse

/-- Takes the last failed write. -/
def takeError (h : LineHistory) : Option StoreError × LineHistory :=
  (h.unreported, { h with unreported := none })

/-- A line history with the view and the store that it writes to. -/
structure Desk where
  lines : LineHistory
  view : View
  shared : Shared
deriving DecidableEq, Repr

/-- Stores a line that was entered in `directory` now.  An error of the store is kept and logged. -/
def store (d : Desk) (text directory : String) : Except Failure Unit × Desk :=
  let draft : Draft := ⟨text, d.shared.clock.now, directory⟩
  match d.view.add draft { d.shared with clock := d.shared.clock.tick } with
  | (.ok (_, view), shared) => (.ok (), { d with view := view, shared := shared })
  | (.error (.store e), shared) =>
    (.ok (), { d with
      lines := { d.lines with unreported := some e },
      shared := shared.log .lines .warning s!"Failed to save command to history: {e.message}" })
  | (.error f, shared) => (.error f, { d with shared := shared })

/-- Puts a line in front and stores it. -/
def append (d : Desk) (text directory : String) : Except Failure Unit × Desk :=
  store { d with lines := { d.lines with lines := text :: d.lines.lines } } text directory

end LineHistory

end Promptline.History
