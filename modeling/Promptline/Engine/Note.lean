import Promptline.Engine.Step
import Promptline.Journal

/-! What an engine logs about the events that it handles. -/

namespace Promptline.Engine

/-- An entry of an engine. -/
def entry (level : Level) (message : String) : Entry := ⟨.prompt, level, message⟩

/-- The entry that announces the computation of generation `g`. -/
def announcement (g : Nat) : Entry := entry .debug s!"Computing prompt (generation {g})"

/-- What an engine logs when an event comes. -/
def note? (e : Engine) : Event → Option Entry
  | .trigger forced r =>
    if !e.closed && (e.gate forced r).1 = .accepted && e.running && !e.pending then
      some (entry .debug "Computation in flight, queueing one more")
    else none
  | .returned _ =>
    match e.worker with
    | .computing g =>
      if g = e.generation then none
      else some (entry .debug s!"Discarding superseded prompt (generation {g})")
    | _ => none
  | .raised =>
    match e.worker with
    | .computing g => some (entry .error s!"Prompt compute failed (generation {g})")
    | _ => none
  | .expired g =>
    if e.awaited = some g && !e.content.isStale then
      some (entry .debug s!"Prompt computation {g} overran, marking stale")
    else none
  | .close | .take | .brokeDown => none

end Promptline.Engine
