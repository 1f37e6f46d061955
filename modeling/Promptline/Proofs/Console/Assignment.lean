import Promptline.Proofs.History.Operations
import Promptline.Proofs.Text.Words

/-! What dot-commands change.  A line of three words may give a setting a new value: it is `.prompt`,
then the name of the setting, then a text that is read as a value for it.  Such a line changes nothing
else, and no other line changes a setting.  The view is changed by `.sync` only, and a cursor by no
line. -/

namespace Promptline.Console

open Promptline.History Promptline.Number Promptline.Store Promptline.Text

variable {line key text arguments : String} {typed value : List Char} {rest : List (List Char)}
  {s s' : Settings} {b : Bench}

/-! ### Commands by their words -/

/-- The line is `.sync`, in any letter case and with any blanks around it. -/
def IsSync (line : String) : Prop := lower (trim line.toList) = ".sync".toList

theorem DotCommand.read_prompt_iff : DotCommand.read line = .prompt arguments ↔
    lower (firstWord (trim line.toList)).1 = ".prompt".toList ∧
      arguments = String.ofList (firstWord (trim line.toList)).2 := by
  unfold DotCommand.read
  generalize trim line.toList = stripped
  by_cases hword : lower (firstWord stripped).1 = ".prompt".toList
  · -- A text that is lowered to another command has no blank in it, so that command is the word.
    have whole {t : String} (solid : t.toList.any isBlank = false) (other : t ≠ ".prompt") :
        String.ofList (lower stripped) ≠ t := by
      rintro rfl
      have same := lower_firstWord solid (String.toList_ofList).symm
      rw [hword] at same
      exact other (String.toList_inj.mp same.symm)
    have known : String.ofList (lower (firstWord stripped).1) = ".prompt" := by
      rw [hword, String.ofList_toList]
    simp only [known]
    rw [if_neg (whole (by decide) (by decide)), if_neg (by decide),
      if_neg (whole (by decide) (by decide)), if_neg (by decide),
      if_neg (whole (by decide) (by decide)), if_pos trivial]
    simp [hword, eq_comm]
  · have other : String.ofList (lower (firstWord stripped).1) ≠ ".prompt" := fun h =>
      hword (by rw [← h, String.toList_ofList])
    simp only [if_neg other, hword, false_and, iff_false]
    repeat' split
    all_goals simp

theorem DotCommand.read_sync_iff : DotCommand.read line = .sync ↔ IsSync line := by
  unfold DotCommand.read IsSync
  generalize trim line.toList = stripped
  by_cases hwhole : lower stripped = ".sync".toList
  · have word : String.ofList (lower (firstWord stripped).1) = ".sync" := by
      rw [lower_firstWord (by decide) hwhole, String.ofList_toList]
    have whole : String.ofList (lower stripped) = ".sync" := by rw [hwhole, String.ofList_toList]
    simp only [word, whole]
    rw [if_neg (by decide), if_neg (by decide), if_neg (by decide), if_neg (by decide),
      if_pos trivial]
    exact iff_of_true rfl hwhole
  · have other : String.ofList (lower stripped) ≠ ".sync" := fun h =>
      hwhole (by rw [← h, String.toList_ofList])
    simp only [if_neg other, hwhole, iff_false]
    repeat' split
    all_goals simp

/-- What `.prompt` is given are the words behind it. -/
theorem DotCommand.exists_read_prompt_iff :
    (∃ arguments, DotCommand.read line = .prompt arguments ∧ words arguments.toList = rest) ↔
      ∃ first, words line.toList = first :: rest ∧ lower first = ".prompt".toList := by
  have split := words_eq_firstWord (trim line.toList)
  rw [words_trim] at split
  simp only [read_prompt_iff]
  constructor
  · rintro ⟨_, ⟨hword, rfl⟩, rfl⟩
    have hne : (firstWord (trim line.toList)).1 ≠ [] := by
      intro h
      rw [h] at hword
      cases hword
    rw [if_neg hne] at split
    exact ⟨_, by rw [split, String.toList_ofList], hword⟩
  · rintro ⟨first, hwords, hfirst⟩
    rw [hwords] at split
    split_ifs at split
    obtain ⟨rfl, rfl⟩ := List.cons.inj split
    exact ⟨_, ⟨hfirst, rfl⟩, by rw [String.toList_ofList]⟩

/-! ### Assignments -/

/-- The line has three words: `.prompt` and `key`, both in any letter case, and `value`. -/
def IsAssignment (line key : String) (value : List Char) : Prop :=
  ∃ first typed, words line.toList = [first, typed, value] ∧ lower first = ".prompt".toList ∧
    lower typed = key.toList

theorem isAssignment_iff_drop : IsAssignment line key value ↔
    (words line.toList).drop 2 = [value] ∧
      ((words line.toList).take 2).map lower = [".prompt".toList, key.toList] := by
  unfold IsAssignment
  generalize words line.toList = ws
  constructor
  · rintro ⟨first, typed, rfl, hfirst, hkey⟩
    exact ⟨rfl, congrArg₂ (fun a b => [a, b]) hfirst hkey⟩
  · rintro ⟨last, front⟩
    match ws with
    | [] | [_] => cases last
    | first :: typed :: rest =>
      obtain ⟨hfirst, hkey⟩ : lower first = ".prompt".toList ∧ lower typed = key.toList := by
        simpa using front
      exact ⟨first, typed, congrArg (first :: typed :: ·) last, hfirst, hkey⟩

instance : Decidable (IsAssignment line key value) := decidable_of_iff' _ isAssignment_iff_drop

/-- The answer to a line that sets `key`, with the value as it was typed. -/
def confirmation (key : String) (value : List Char) : String :=
  "Prompt " ++ key ++ " set to " ++ String.ofList value

/-- The answer to a line whose value is none for `key`. -/
def rejection (key : String) (value : List Char) : String :=
  "[red]Invalid value for " ++ key ++ ": " ++ Markup.escaped (String.ofList value) ++ "[/red]"

/-- The line gives a setting a value that can be read, which leads to the settings and the answer. -/
inductive Assigns (line : String) (s : Settings) : Settings → String → Prop where
  | eagerness {value : List Char} {n : Int} (typed : IsAssignment line "eagerness" value)
      (read : readInteger? value = some n) :
      Assigns line s { s with eagerness := n } (confirmation "eagerness" value)
  | threshold {value : List Char} {x : Binary64} (typed : IsAssignment line "stale" value)
      (read : readBinary64? value = some x) (notNegative : x.isNegative = false) :
      Assigns line s { s with threshold := x } (confirmation "stale" value)

theorem isAssignment_iff : IsAssignment line key value ↔
    ∃ arguments typed, DotCommand.read line = .prompt arguments ∧
      words arguments.toList = [typed, value] ∧ lower typed = key.toList := by
  constructor
  · rintro ⟨first, typed, hwords, hfirst, hkey⟩
    obtain ⟨arguments, hread, hrest⟩ :=
      DotCommand.exists_read_prompt_iff.mpr ⟨first, hwords, hfirst⟩
    exact ⟨arguments, typed, hread, hrest, hkey⟩
  · rintro ⟨arguments, typed, hread, hrest, hkey⟩
    obtain ⟨first, hwords, hfirst⟩ :=
      DotCommand.exists_read_prompt_iff.mp ⟨arguments, hread, hrest⟩
    exact ⟨first, typed, hwords, hfirst, hkey⟩

theorem assign?_eq_some_iff : assign? s key (String.ofList value) = some s' ↔
    (key = "eagerness" ∧ ∃ n, readInteger? value = some n ∧ s' = { s with eagerness := n }) ∨
    (key = "stale" ∧ ∃ x, readBinary64? value = some x ∧ x.isNegative = false ∧
      s' = { s with threshold := x }) := by
  unfold assign?
  rw [String.toList_ofList]
  constructor
  · intro h
    split at h
    · next eagerness =>
      obtain ⟨n, hn, rfl⟩ := Option.map_eq_some_iff.mp h
      exact .inl ⟨eagerness, n, hn, rfl⟩
    · split at h
      · next stale =>
        cases hread : readBinary64? value with
        | none => simp [hread] at h
        | some x =>
          cases sign : x.isNegative with
          | true => simp [hread, sign] at h
          | false =>
            simp only [hread, sign, Bool.false_eq_true, if_false, Option.some.injEq] at h
            exact .inr ⟨stale, x, rfl, sign, h.symm⟩
      · cases h
  · rintro (⟨rfl, n, hn, rfl⟩ | ⟨rfl, x, hx, sign, rfl⟩)
    · rw [if_pos rfl, hn]
      rfl
    · rw [if_neg (by decide), if_pos rfl, hx]
      simp [sign]

theorem answer_of_isAssignment (assignment : IsAssignment line key value)
    (known : key = "eagerness" ∨ key = "stale") :
    (∀ s, assign? b.settings key (String.ofList value) = some s → answer line b =
      { reply := .ok (.text (confirmation key value)), bench := { b with settings := s } }) ∧
    (assign? b.settings key (String.ofList value) = none → answer line b =
      { reply := .ok (.text (rejection key value)), bench := b }) := by
  obtain ⟨arguments, typed, hread, hwords, hkey⟩ := isAssignment_iff.mp assignment
  have given : arguments ≠ "" := by
    rintro rfl
    cases hwords
  have name : String.ofList (lower typed) = key := by rw [hkey, String.ofList_toList]
  have hrun : answer line b = (DotCommand.prompt arguments).run b := by rw [answer, hread]
  rw [hrun, DotCommand.run]
  constructor
  · intro s h
    have hprompt : promptCommand b.settings arguments = (confirmation key value, s) := by
      unfold promptCommand
      rw [if_neg given, hwords]
      simp only [name, if_pos known, h]
      rfl
    rw [hprompt]
  · intro h
    have hprompt : promptCommand b.settings arguments = (rejection key value, b.settings) := by
      unfold promptCommand
      rw [if_neg given, hwords]
      simp only [name, if_pos known, h]
      rfl
    rw [hprompt]

/-- An assignment does what it says and nothing else. -/
theorem answer_of_assigns (h : Assigns line b.settings s text) :
    answer line b = { reply := .ok (.text text), bench := { b with settings := s } } := by
  cases h with
  | eagerness typed read =>
    exact (answer_of_isAssignment typed (.inl rfl)).1 _
      (assign?_eq_some_iff.mpr (.inl ⟨rfl, _, read, rfl⟩))
  | threshold typed read notNegative =>
    exact (answer_of_isAssignment typed (.inr rfl)).1 _
      (assign?_eq_some_iff.mpr (.inr ⟨rfl, _, read, notNegative, rfl⟩))

theorem promptCommand_snd (s : Settings) (arguments : String) :
    (promptCommand s arguments).2 = s ∨ ∃ typed value s',
      words arguments.toList = [typed, value] ∧
        assign? s (String.ofList (lower typed)) (String.ofList value) = some s' := by
  unfold promptCommand
  split
  · exact .inl rfl
  · split
    · next typed value hwords =>
      dsimp only
      split
      · cases h : assign? s (String.ofList (lower typed)) (String.ofList value) with
        | none => exact .inl rfl
        | some s' => exact .inr ⟨typed, value, s', hwords, h⟩
      · exact .inl rfl
    · exact .inl rfl

/-- A line that is no assignment leaves the settings as they are. -/
theorem settings_answer (h : ∀ s text, ¬Assigns line b.settings s text) :
    (answer line b).bench.settings = b.settings := by
  unfold answer
  cases hread : DotCommand.read line with
  | prompt arguments =>
    obtain kept | ⟨typed, value, s', hwords, assigned⟩ := promptCommand_snd b.settings arguments
    · exact kept
    · have assignment {key : String} (hkey : String.ofList (lower typed) = key) :
          IsAssignment line key value :=
        isAssignment_iff.mpr ⟨arguments, typed, hread, hwords, by rw [← hkey, String.toList_ofList]⟩
      rw [assign?_eq_some_iff] at assigned
      obtain ⟨hkey, n, hn, -⟩ | ⟨hkey, x, hx, sign, -⟩ := assigned
      · exact absurd (.eagerness (assignment hkey) hn) (h _ _)
      · exact absurd (.threshold (assignment hkey) hx sign) (h _ _)
  | help topic => cases hhelp : topicHelp topic <;> simp only [DotCommand.run, hhelp]
  | sync =>
    show (sync b).bench.settings = b.settings
    unfold sync
    split <;> rfl
  | overview | quit | history | unknown => rfl

theorem DotCommand.run_kept {c : DotCommand} (hc : c ≠ .sync)
    (kept : (c.run b).bench.settings = b.settings) :
    (c.run b).reloads = false ∧ (c.run b).bench = b := by
  cases c with
  | sync => exact absurd rfl hc
  | help topic => cases hhelp : topicHelp topic <;> simp only [run, hhelp, and_self]
  | prompt arguments => exact ⟨rfl, congrArg (fun s => { b with settings := s }) kept⟩
  | overview | quit | history | unknown => exact ⟨rfl, rfl⟩

theorem answer_of_neither (notAssigned : ∀ s text, ¬Assigns line b.settings s text)
    (notSync : ¬IsSync line) :
    (answer line b).reloads = false ∧ (answer line b).bench = b := by
  have kept := settings_answer notAssigned
  unfold answer at kept ⊢
  exact DotCommand.run_kept (mt DotCommand.read_sync_iff.mp notSync) kept

/-- The answer to an assignment is no message in red. -/
theorem Assigns.not_red (h : Assigns line s s' text) : ¬"[red]".toList <+: text.toList := by
  intro red
  have head : text.toList.head? = some 'P' := by
    cases h <;> simp [confirmation]
  obtain ⟨rest, hrest⟩ := red
  rw [← hrest] at head
  cases head

end Promptline.Console

namespace Promptline.Workspace

open Promptline.Console Promptline.History Promptline.Number Promptline.Store

variable {w : Workspace} {s : String} {i : Nat} {v : View}

theorem perform_command (hsession : w.sessions.lookup s = some i) (hview : w.views[i]? = some v)
    (line : String) : w.perform (.command s line) = w.command line i v := by
  simp only [perform, onSession, hsession, hview]

theorem command_of_assigns {line text : String} {settings : Settings} (hview : w.views[i]? = some v)
    (h : Assigns line w.settings settings text) :
    w.command line i v =
      (.command (.ok (.text text)) "" settings w.reloads, { w with settings := settings }) := by
  have answered := answer_of_assigns (b := ⟨v, w.settings, w.shared⟩) h
  have unchanged : w.views.set i v = w.views := Sharing.set_view_self hview
  simp only [command, answered, unchanged]
  rfl

theorem command_of_neither {line : String} (hview : w.views[i]? = some v)
    (notAssigned : ∀ settings text, ¬Assigns line w.settings settings text)
    (notSync : ¬IsSync line) : (w.command line i v).2 = w := by
  obtain ⟨hreloads, hbench⟩ :=
    answer_of_neither (b := ⟨v, w.settings, w.shared⟩) notAssigned notSync
  have unchanged : w.views.set i v = w.views := Sharing.set_view_self hview
  simp only [command, hreloads, hbench, unchanged]
  rfl

theorem command_of_sync {line : String} (hview : w.views[i]? = some v) (h : IsSync line) :
    (∃ seen shared, v.renew w.shared = (.ok seen, shared) ∧ (w.command line i v).2 =
      { w with shared, views := w.views.set i seen, reloads := w.reloads + 1 }) ∨
    ∃ f shared, v.renew w.shared = (.error f, shared) ∧
      (w.command line i v).2 = { w with shared } := by
  have synced : Console.answer line ⟨v, w.settings, w.shared⟩ =
      Console.sync ⟨v, w.settings, w.shared⟩ := by
    rw [Console.answer, DotCommand.read_sync_iff.mpr h]
    rfl
  have unchanged : w.views.set i v = w.views := Sharing.set_view_self hview
  cases hrenew : v.renew w.shared with
  | mk result shared =>
    cases result with
    | ok seen =>
      refine .inl ⟨seen, shared, rfl, ?_⟩
      simp only [command, synced, Console.sync, hrenew]
      rfl
    | error f =>
      refine .inr ⟨f, shared, rfl, ?_⟩
      cases f <;> simp only [command, synced, Console.sync, hrenew, unchanged] <;> rfl

/-- Whatever a workspace has come to, a line is one of three things.  An assignment gives one setting
the value that has been read, says so with the value as it was typed, and changes nothing else.
`.sync` puts a new view in the place of the old one if it can build one.  Any other line changes
nothing, and so no setting changes where a usage, an unknown setting or an invalid value is
reported. -/
theorem assigned_perform (hsession : w.sessions.lookup s = some i) (hview : w.views[i]? = some v)
    (line : String) :
    let done := w.perform (.command s line)
    (∀ settings text, Assigns line w.settings settings text →
      done = (.command (.ok (.text text)) "" settings w.reloads, { w with settings := settings })) ∧
    (IsSync line →
      (∃ seen shared, v.renew w.shared = (.ok seen, shared) ∧ done.2 =
        { w with shared, views := w.views.set i seen, reloads := w.reloads + 1 }) ∨
      ∃ f shared, v.renew w.shared = (.error f, shared) ∧ done.2 = { w with shared }) ∧
    ((∀ settings text, ¬Assigns line w.settings settings text) → ¬IsSync line → done.2 = w) ∧
    (∀ markup printed settings reloads,
      done.1 = .command (.ok (.text markup)) printed settings reloads →
      "[red]".toList <+: markup.toList → done.2.settings = w.settings) ∧
    done.2.cursors = w.cursors := by
  intro done
  have hdone : done = w.command line i v := perform_command hsession hview line
  have assigned (settings : Settings) (text : String) (h : Assigns line w.settings settings text) :
      done = (.command (.ok (.text text)) "" settings w.reloads, { w with settings := settings }) := by
    rw [hdone]
    exact command_of_assigns hview h
  refine ⟨assigned, fun h => ?_, fun notAssigned notSync => ?_,
    fun markup printed settings reloads hreply red => ?_, ?_⟩
  · rw [hdone]
    exact command_of_sync hview h
  · rw [hdone]
    exact command_of_neither hview notAssigned notSync
  · by_cases assigns : ∃ settings text, Assigns line w.settings settings text
    · obtain ⟨settings, text, h⟩ := assigns
      rw [assigned settings text h] at hreply
      cases hreply
      exact absurd red h.not_red
    · have notAssigned : ∀ settings text, ¬Assigns line w.settings settings text := by
        simpa using assigns
      have kept := settings_answer (b := ⟨v, w.settings, w.shared⟩) notAssigned
      rw [hdone, command, kept]
  · rw [hdone, command]

/-- A session with a command in view and a cursor on it. -/
def tuned : Workspace :=
  ({ shared := { backend := .memory {}, clock := ⟨1000⟩ } } : Workspace).performAll
    [.openSession "s", .add "s" ⟨"ls", .zero, ""⟩, .makeCursor "s" "c" "l", .older "c"]

theorem assigned_wideBlank :
    tuned.perform (.command "s" "\t.PROMPT\u2003Eagerness  -١_0 ") =
        (.command (.ok (.text "Prompt eagerness set to -١_0")) "" ⟨-10, tuned.settings.threshold⟩ 0,
          { tuned with settings := ⟨-10, tuned.settings.threshold⟩ }) ∧
      (tuned.perform (.command "s" ".prompt stale -1e400")).2.settings = tuned.settings := by
  have hsession : tuned.sessions.lookup "s" = some 0 := by rfl
  have hview : tuned.views[0]? = some ⟨[], [⟨0, "ls", .zero, ""⟩]⟩ := by rfl
  have eagerness : IsAssignment "\t.PROMPT\u2003Eagerness  -١_0 " "eagerness" "-١_0".toList := by
    decide +kernel
  have stale : IsAssignment ".prompt stale -1e400" "stale" "-1e400".toList := by
    decide +kernel
  constructor
  · obtain ⟨assigned, -⟩ := assigned_perform hsession hview "\t.PROMPT\u2003Eagerness  -١_0 "
    have read : readInteger? "-١_0".toList = some (-10) := by decide +kernel
    have answered : confirmation "eagerness" "-١_0".toList = "Prompt eagerness set to -١_0" := by
      decide +kernel
    rw [assigned _ _ (.eagerness eagerness read), answered]
    rfl
  · obtain ⟨-, -, -, red, -⟩ := assigned_perform hsession hview ".prompt stale -1e400"
    have refused : assign? tuned.settings "stale" (String.ofList "-1e400".toList) = none := by
      decide +kernel
    let bench : Bench := ⟨⟨[], [⟨0, "ls", .zero, ""⟩]⟩, tuned.settings, tuned.shared⟩
    have rejected := (answer_of_isAssignment (b := bench) stale (.inr rfl)).2 refused
    refine red (rejection "stale" "-1e400".toList) "" tuned.settings tuned.reloads ?_ ?_
    · rw [perform_command hsession hview, command, rejected]
      rfl
    · decide +kernel

end Promptline.Workspace
