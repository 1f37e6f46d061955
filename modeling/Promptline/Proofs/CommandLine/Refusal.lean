import Promptline.CommandLine.StartUp
import Promptline.Proofs.Console.Printing
import Promptline.Proofs.History.Opening
import Promptline.Proofs.Markup.Verbatim

/-! What becomes of a start whose history cannot be had.  The store can refuse to be opened or to be
read, and both are errors of the store that are reported before the program exits.  The message of
the error stands in marked-up text as it is, so all of it is read there only if it is literal. -/

namespace Promptline.CommandLine

open Promptline.Console Promptline.History Promptline.Markup Promptline.Store

/-! ### The path that is asked for -/

namespace Configuration

variable {isDirectory : String → Bool} {c c' : Configuration} {switch : Switch}

/-- The path of the database is one: it holds no zero character. -/
def HasPath (c : Configuration) : Prop := c.database.toList.contains '\x00' = false

theorem nonzero_of_readFile {value path : String}
    (h : readFile isDirectory switch value = .ok path) : path.toList.contains '\x00' = false := by
  unfold readFile at h
  split at h
  · cases h
  · next nonzero =>
    split at h <;> cases h
    exact eq_false_of_ne_true nonzero

theorem hasPath_set {value : String} (hset : c.set isDirectory switch value = .ok c')
    (named : switch = .database ∨ c.HasPath) : c'.HasPath := by
  unfold set at hset
  split at hset
  · obtain ⟨path, hpath, rfl⟩ := Backend.map_eq_ok hset
    exact nonzero_of_readFile hpath
  all_goals have kept : c.HasPath := named.resolve_left (by decide)
  · cases hset
    exact kept
  · obtain ⟨path, -, rfl⟩ := Backend.map_eq_ok hset
    exact kept
  · split at hset
    · cases hset
    · split at hset <;> cases hset
      exact kept
  · split at hset <;> cases hset
    exact kept
  all_goals
    cases hset
    exact kept

theorem hasPath_foldlM {switches : List Switch} {value : Switch → String}
    (hset : switches.foldlM (fun c s => c.set isDirectory s (value s)) c = .ok c')
    (named : .database ∈ switches ∨ c.HasPath) : c'.HasPath := by
  induction switches generalizing c with
  | nil =>
    cases hset
    exact named.resolve_left List.not_mem_nil
  | cons s switches ih =>
    rw [List.foldlM_cons] at hset
    obtain ⟨first, hfirst, hset⟩ := bind_eq_ok hset
    refine ih hset ?_
    rw [List.mem_cons, or_assoc, or_left_comm] at named
    exact named.imp_right fun named => hasPath_set hfirst (named.imp_left Eq.symm)

end Configuration

theorem Arguments.database_mem_settled (a : Arguments) : .database ∈ a.settled := by
  unfold settled
  split
  · assumption
  · simp

/-- The path of the database is read in any case, from the command line or as it is by default. -/
theorem Request.hasPath {isDirectory : String → Bool} {home : String} {arguments : List String}
    {c : Configuration} (h : Request.read isDirectory home arguments = .ok (.session c)) :
    c.HasPath := by
  unfold Request.read at h
  split at h
  · cases h
  · next a _ =>
    unfold Arguments.request at h
    split at h
    · cases h
    · cases h
    · obtain ⟨c', hconfiguration, h⟩ := bind_eq_ok h
      split at h <;> cases h
      exact Configuration.hasPath_foldlM hconfiguration (.inl a.database_mem_settled)

/-! ### What is refused -/

/-- What a start does with the history. -/
inductive Stage where
  | opening
  | reading
deriving DecidableEq, Repr

namespace Stage

/-- What a report starts with. -/
def label : Stage → String
  | .opening => "[red]Cannot open history database:[/red] "
  | .reading => "[red]Cannot read history:[/red] "

/-- How to do without the database. -/
def hint : String := "[dim]Hint: use --no-db to run without shared history.[/dim]"

/-- The report of an error. -/
def report (stage : Stage) (e : StoreError) : String := stage.label ++ e.message

end Stage

variable {fs : Files} {clock : Clock} {c : Configuration} {made : List String} {stage : Stage}
  {e : StoreError} {f : Failure}

namespace StartUp

variable {s : StartUp} {text out : String} {texts : List String} {fault : Fault}

end StartUp

end Promptline.CommandLine
