import Promptline.Proofs.Shell.Display
import Promptline.Proofs.Shell.Phases

/-! The prompt shows the directory the user is in.  A computation that has looked around before the
directory changed may return after that, but then the forced trigger of the next read has made
another one pending. -/

namespace Promptline.Shell

open Promptline.Engine

/-- The left display is sound, its engine is open for as long as the loop runs, and while the shell
waits for input the display is tuned to the directory. -/
structure Located (p : Phased) : Prop where
  sound : p.shell.left.Sound
  isOpen : p.shell.ending = none → p.shell.left.prompt.engine.closed = false
  tuned : p.waits = true → p.shell.left.Tuned p.shell.surroundings.prompt

namespace Located

variable {p : Phased} {s : Shell}

/-- Going on to the next read locates a shell, wherever it is. -/
theorem turn (sound : s.left.Sound)
    (isOpen : s.ending = none → s.left.prompt.engine.closed = false) (isReading : Bool) :
    Located ⟨s.turn, isReading⟩ := by
  unfold Shell.turn
  split
  · next ended =>
    have hne : s.ending ≠ none := fun h => by simp [h] at ended
    refine ⟨sound.close, fun h => absurd h hne, fun h => ?_⟩
    exact absurd (Phased.ending_of_waits h) hne
  · next running =>
    have hopen := isOpen (by simpa using running)
    exact ⟨sound.trigger true _, fun _ => (sound.closed_trigger true _).trans hopen,
      fun _ => sound.tuned_trigger hopen _⟩

/-- Moves of a worker or a timer keep a shell located. -/
theorem moved (h : Located p) (side : Side) (m : Move) : Located (p.step (.moved side m)) := by
  cases side with
  | left =>
    obtain ⟨sound, tuned⟩ := h.sound.move p.shell.settings.threshold p.shell.surroundings.prompt m
    exact ⟨sound, fun running => (h.sound.closed_move _ _ m).trans (h.isOpen running),
      fun waits => tuned (h.tuned waits)⟩
  | right => exact ⟨h.sound, h.isOpen, h.tuned⟩

/-- Carrying out a line keeps a shell located: it is not at a read afterwards. -/
theorem ended (h : Located p) (r : Read) : Located (p.step (.event (.ended r))) := by
  simp only [Phased.step]
  split
  · next waits =>
    refine ⟨?_, fun _ => ?_, fun waits => by cases waits⟩
    · rw [left_answer]
      exact h.sound
    · rw [left_answer]
      exact h.isOpen (Phased.ending_of_waits waits)
  · exact h

/-- Whatever else happens during a read keeps a shell located, if the prompt of its surroundings
stays the same. -/
theorem event (h : Located p) {e : Event} (hne : ∀ r, e ≠ .ended r)
    (fixed : ∀ f, e = .changed f →
      (f p.shell.surroundings).prompt = p.shell.surroundings.prompt) :
    Located { p with shell := p.shell.step e } := by
  unfold Shell.step andThen
  split
  · exact h
  cases e with
  | ended r => exact absurd rfl (hne r)
  | typed =>
    exact ⟨h.sound.trigger false _,
      fun running => (h.sound.closed_trigger false _).trans (h.isOpen running),
      fun waits => (h.tuned waits).trigger h.sound false _⟩
  | recalled | storeFails => exact ⟨h.sound, h.isOpen, h.tuned⟩
  | otherAdded d =>
    simp only [otherAdded]
    split
    · exact ⟨h.sound, h.isOpen, h.tuned⟩
    · refine turn ?_ ?_ p.isReading
      · exact h.sound
      · intro running
        cases running
  | changed f =>
    refine ⟨h.sound, h.isOpen, fun waits => ?_⟩
    rw [fixed f rfl]
    exact h.tuned waits

/-- Every happening keeps a shell located, if only the loop changes the directory. -/
theorem step (h : Located p) (happening : Happening)
    (fixed : ∀ f, happening = .event (.changed f) →
      (f p.shell.surroundings).prompt = p.shell.surroundings.prompt) :
    Located (p.step happening) := by
  cases happening with
  | moved side m => exact h.moved side m
  | event e =>
    by_cases hread : ∃ r, e = .ended r
    · obtain ⟨r, rfl⟩ := hread
      exact h.ended r
    · have hne : ∀ r, e ≠ .ended r := fun r he => hread ⟨r, he⟩
      have hstep : p.step (.event e) = { p with shell := p.shell.step e } := by
        cases e with
        | ended r => exact absurd rfl (hne r)
        | _ => rfl
      rw [hstep]
      exact h.event hne fun f he => fixed f (congrArg _ he)
  | turned =>
    simp only [Phased.step]
    split
    · exact h
    · exact turn h.sound h.isOpen true

theorem run (h : Located p) (happenings : List Happening)
    (fixed : ∀ f, .event (.changed f) ∈ happenings → ∀ a, (f a).prompt = a.prompt) :
    Located (p.run happenings) := by
  induction happenings generalizing p with
  | nil => exact h
  | cons happening rest ih =>
    refine ih (h.step happening ?_) fun f hf => fixed f (List.mem_cons_of_mem _ hf)
    rintro f rfl
    exact fixed f (.head _) _

end Located

/-- A shell before its first read. -/
theorem located_start (view : History.View) (shared : Store.Shared) (settings : Console.Settings)
    (surroundings : Surroundings) : Located ⟨start view shared settings surroundings, true⟩ :=
  Located.turn Display.Sound.init (fun _ => rfl) true

/-- The prompt shows where the user is.  Whatever is typed, and however the workers and the timers
move in between, if only the loop changes the directory: while the shell waits for input and the
engine of the prompt is idle, it shows the prompt of the working directory and does not mark it.
And once the workers have to wait, the engine is idle. -/
theorem whereabouts_run (view : History.View) (shared : Store.Shared) (settings : Console.Settings)
    (surroundings : Surroundings) (happenings : List Happening)
    (fixed : ∀ f, .event (.changed f) ∈ happenings →
      ∀ a, (f a).directory = a.directory ∧ (f a).home = a.home) :
    let p := (⟨start view shared settings surroundings, true⟩ : Phased).run happenings
    let shown := Directory.prompt p.shell.surroundings.home p.shell.surroundings.directory
    p.waits = true →
      (p.shell.left.prompt.engine.running = false →
        p.shell.left.prompt.content = ⟨shown, false⟩) ∧
      p.shell.settle.left.prompt.engine.running = false ∧
      p.shell.settle.left.prompt.content = ⟨shown, false⟩ := by
  intro p shown waits
  have hprompt : ∀ f, .event (.changed f) ∈ happenings → ∀ a, (f a).prompt = a.prompt := by
    intro f hf a
    obtain ⟨hdirectory, hhome⟩ := fixed f hf a
    rw [Surroundings.prompt, hdirectory, hhome]
    rfl
  have located : Located p := (located_start view shared settings surroundings).run _ hprompt
  have tuned := located.tuned waits
  exact ⟨tuned.idle, tuned.settle located.sound _⟩

/-- A store without records. -/
def emptyStore : Store.Shared := { backend := .memory {}, clock := ⟨1000⟩ }

/-- The directory `/work`, without `git`. -/
def atWork : Surroundings :=
  { home := "/home/ada", directory := some "/work", tool := ⟨false, .exited 0 ""⟩ }

/-- The prompt is being computed for `/work` when the user changes the directory, and returns at the
next read; the one that follows overruns while the user types, so a third one follows.  Meanwhile
`git` appears. -/
def changeBehind : List Happening :=
  [.moved .left .take, .moved .left .look, .event (.ended (.line "cd /home/ada/src")),
    .event (.changed fun a => { a with tool := ⟨true, .exited 0 "main"⟩ }), .turned,
    .moved .left .finish, .event .typed, .moved .left (.expire 1), .moved .left .look,
    .moved .left .finish, .moved .left .look, .moved .left .finish]

theorem whereabouts_changeBehind :
    let p := (⟨start ⟨[], []⟩ emptyStore {} atWork, true⟩ : Phased).run changeBehind
    (∀ f, .event (.changed f) ∈ changeBehind →
      ∀ a, (f a).directory = a.directory ∧ (f a).home = a.home) ∧
    p.shell.surroundings.directory = some "/home/ada/src" ∧
    p.shell.left.prompt.content = ⟨.styled "~/src" ["bold", "blue"] ++ .plain "> ", false⟩ := by
  intro p
  have fixed : ∀ f, .event (.changed f) ∈ changeBehind →
      ∀ a, (f a).directory = a.directory ∧ (f a).home = a.home := by
    intro f hf a
    simp only [changeBehind, List.mem_cons, Happening.event.injEq, Event.changed.injEq,
      reduceCtorEq, List.not_mem_nil, or_false, false_or] at hf
    rw [hf]
    exact ⟨rfl, rfl⟩
  have waits : p.waits = true := by decide +kernel
  have idle : p.shell.left.prompt.engine.running = false := by decide +kernel
  refine ⟨fixed, by decide +kernel, ?_⟩
  have shown := (whereabouts_run ⟨[], []⟩ emptyStore {} atWork changeBehind fixed waits).1 idle
  exact shown.trans (by decide +kernel)

end Promptline.Shell
