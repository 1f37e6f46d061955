import Promptline.Console.Command
import Promptline.History.LineHistory

/-! Several sessions over one store: each has a view of its own, cursors and line histories work on
the views, and other writers and faults act on the store in between. -/

namespace Promptline

open Promptline.Store Promptline.History Promptline.Console

/-- Values by name.  The newest binding of a name counts. -/
abbrev Named (α : Type) := List (String × α)

/-- A line history and the session whose view it reads. -/
structure Attached where
  session : Nat
  lines : LineHistory
deriving DecidableEq, Repr

/-- Sessions over one store. -/
structure Workspace where
  shared : Shared
  settings : Settings := {}
  /-- The working directory, unless it is gone. -/
  directory : Option String := none
  /-- The views of all sessions that were ever opened. -/
  views : List View := []
  sessions : Named Nat := []
  cursors : Named Cursor := []
  lineHistories : Named Attached := []
  /-- How often a line editor had to read its view anew. -/
  reloads : Nat := 0
  /-- The other writer has prepared the store. -/
  writerReady : Bool := false
deriving DecidableEq, Repr

namespace Workspace

/-- What a name that an operation needs does not stand for. -/
inductive Missing where
  | session | cursor | lineHistory
deriving DecidableEq, Repr

/-- What an operation gives. -/
inductive Result where
  | done
  | nothing
  | number (n : Int)
  | record (r : Record)
  | records (rs : List Record)
  | texts (ts : List String)
  | matching (length : Nat) (lead : String)
  | command (reply : Except CommandFault Reply) (printed : String) (settings : Settings)
      (reloads : Nat)
  | pending (e : StoreError)
  | failed (f : Failure)
  /-- A change of the database from outside fails. -/
  | refused (f : Failure)
  | stuck (f : CursorFault)
  | missing (m : Missing)

/-- One step of a session, of another writer, or of the surroundings. -/
inductive Operation where
  | openSession (s : String)
  | add (s : String) (d : Draft)
  | all (s : String)
  | makeCursor (s c : String) (lead : String)
  | older (c : String)
  | newer (c : String)
  | get (c : String)
  | length (c : String)
  | renew (s : String)
  | command (s : String) (line : String)
  | attachLines (s h : String)
  | newestFirst (h : String)
  | loadLines (h : String)
  | appendLine (h : String) (text : String)
  | storeLine (h : String) (text : String)
  | oldestFirst (h : String)
  | takeError (h : String)
  | enter (directory : Option String)
  | otherAdd (d : Draft)
  | otherRange (first upto : Int)
  | otherNext
  | fail (calls : List (Call × String))
  | arrive (ds : List Draft)
  | database (change : Database → Except Failure Database)

/-- Gives a result and changes nothing. -/
def answer (w : Workspace) (r : Result) : Result × Workspace := (r, w)

/-- Runs `f` on the view of session `s`. -/
def onSession (w : Workspace) (s : String) (f : Nat → View → Result × Workspace) :
    Result × Workspace :=
  match w.sessions.lookup s with
  | none => w.answer (.missing .session)
  | some i =>
    match w.views[i]? with
    | none => w.answer (.missing .session)
    | some v => f i v

/-- Runs `f` on cursor `c`, and keeps the cursor that it gives. -/
def onCursor (w : Workspace) (c : String) (f : Cursor → Except CursorFault Record × Cursor) :
    Result × Workspace :=
  match w.cursors.lookup c with
  | none => w.answer (.missing .cursor)
  | some cursor =>
    match f cursor with
    | (.ok r, cursor) => (.record r, { w with cursors := (c, cursor) :: w.cursors })
    | (.error e, cursor) => (.stuck e, { w with cursors := (c, cursor) :: w.cursors })

/-- Runs `f` on line history `h` and its view. -/
def onLines (w : Workspace) (h : String) (f : Attached → View → Result × Workspace) :
    Result × Workspace :=
  match w.lineHistories.lookup h with
  | none => w.answer (.missing .lineHistory)
  | some a =>
    match w.views[a.session]? with
    | none => w.answer (.missing .lineHistory)
    | some v => f a v

/-- Opens a session under the name `s`.  If that fails the name keeps its meaning. -/
def openSession (w : Workspace) (s : String) : Result × Workspace :=
  match View.openOn w.shared with
  | (.error e, shared) => (.failed e, { w with shared := shared })
  | (.ok v, shared) =>
    (.done, { w with
      shared := shared, views := w.views ++ [v], sessions := (s, w.views.length) :: w.sessions })

/-- Adds a command through session `i` with view `v`. -/
def addTo (w : Workspace) (d : Draft) (i : Nat) (v : View) : Result × Workspace :=
  match v.add d w.shared with
  | (.error e, shared) => (.failed e, { w with shared := shared })
  | (.ok (seq, v), shared) => (.number seq, { w with shared := shared, views := w.views.set i v })

/-- Builds the view `v` of session `i` anew. -/
def forward (w : Workspace) (i : Nat) (v : View) : Result × Workspace :=
  match v.renew w.shared with
  | (.error e, shared) => (.failed e, { w with shared := shared })
  | (.ok v, shared) => (.done, { w with shared := shared, views := w.views.set i v })

/-- Answers a dot-command in session `i` with view `v`. -/
def command (w : Workspace) (line : String) (i : Nat) (v : View) : Result × Workspace :=
  let out := Console.answer line ⟨v, w.settings, w.shared⟩
  let reloads := if out.reloads then w.reloads + 1 else w.reloads
  (.command out.reply out.printed out.bench.settings reloads,
    { w with
      shared := out.bench.shared, settings := out.bench.settings
      views := w.views.set i out.bench.view, reloads := reloads })

/-- Writes a line through the line history `a` of view `v`. -/
def write (w : Workspace) (h : String)
    (f : LineHistory.Desk → String → String → Except Failure Unit × LineHistory.Desk)
    (text : String) (a : Attached) (v : View) : Result × Workspace :=
  let (result, desk) := f ⟨a.lines, v, w.shared⟩ text (w.directory.getD "")
  let w := { w with
    shared := desk.shared, views := w.views.set a.session desk.view
    lineHistories := (h, { a with lines := desk.lines }) :: w.lineHistories }
  match result with
  | .ok () => (.nothing, w)
  | .error e => (.failed e, w)

/-- Runs `f` for the other writer, which prepares the store before its first call. -/
def asOther (w : Workspace) (f : Shared → Result × Shared) : Result × Workspace :=
  let (prepared, shared) := if w.writerReady then (.ok (), w.shared) else w.shared.attach
  match prepared with
  | .error e => (.failed e, { w with shared := shared })
  | .ok () =>
    let (result, shared) := f shared
    (result, { w with shared := shared, writerReady := true })

/-- The result of a call that gives a number. -/
def ofCall : Except Failure Int × Shared → Result × Shared
  | (.ok n, s) => (.number n, s)
  | (.error e, s) => (.failed e, s)

/-- Carries out one operation. -/
def perform (w : Workspace) : Operation → Result × Workspace
  | .openSession s => w.openSession s
  | .add s d => w.onSession s (w.addTo d)
  | .all s => w.onSession s fun _ v => w.answer (.records v.all)
  | .makeCursor s c lead => w.onSession s fun _ v =>
    let cursor := v.cursor lead
    (.number cursor.length, { w with cursors := (c, cursor) :: w.cursors })
  | .older c => w.onCursor c Cursor.older
  | .newer c => w.onCursor c Cursor.newer
  | .get c => w.onCursor c fun cursor => (cursor.get, cursor)
  | .length c =>
    match w.cursors.lookup c with
    | none => w.answer (.missing .cursor)
    | some cursor => w.answer (.matching cursor.length cursor.lead)
  | .renew s => w.onSession s w.forward
  | .command s line => w.onSession s (w.command line)
  | .attachLines s h => w.onSession s fun i _ =>
    (.done, { w with lineHistories := (h, ⟨i, {}⟩) :: w.lineHistories })
  | .newestFirst h => w.onLines h fun _ v => w.answer (.texts (LineHistory.newestFirst v))
  | .loadLines h => w.onLines h fun a v =>
    let lines := a.lines.load v
    let a := { a with lines := lines }
    (.texts lines.lines, { w with lineHistories := (h, a) :: w.lineHistories })
  | .appendLine h text => w.onLines h (w.write h LineHistory.append text)
  | .storeLine h text => w.onLines h (w.write h LineHistory.store text)
  | .oldestFirst h => w.onLines h fun a _ => w.answer (.texts a.lines.oldestFirst)
  | .takeError h => w.onLines h fun a _ =>
    let (e, lines) := a.lines.takeError
    (match e with | none => .nothing | some e => .pending e,
      { w with lineHistories := (h, { a with lines := lines }) :: w.lineHistories })
  | .enter directory => (.done, { w with directory := directory })
  | .otherAdd d => w.asOther fun s => ofCall (s.add d)
  | .otherRange first upto => w.asOther fun s =>
    match s.range first upto with
    | .ok rs => (.records rs, s)
    | .error e => (.failed e, s)
  | .otherNext => w.asOther fun s => ofCall s.next
  | .fail calls => (.done, { w with shared := { w.shared with failing := calls } })
  | .arrive ds => (.done, { w with shared := { w.shared with arriving := ds } })
  | .database change =>
    match w.shared.backend.onDatabase change with
    | .error f => w.answer (.refused f)
    | .ok b => (.done, { w with shared := { w.shared with backend := b } })

end Workspace

end Promptline
