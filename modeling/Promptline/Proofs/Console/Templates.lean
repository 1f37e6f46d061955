import Promptline.Console.Command
import Promptline.Proofs.Console.Printing
import Promptline.Proofs.History.Cursor
import Promptline.Proofs.Number.Unbracketed

/-! The answers to dot-commands, in their fragments.  What comes from a line, a record or an error is
escaped, or is a number, and fits between the templates around it.  So every answer is rendered, and
the only tags in it are those of the templates. -/

namespace Promptline.Console

open Promptline.History Promptline.Markup Promptline.Number Promptline.Store

/-- The texts in answers that are the shell's own. -/
def templates : List String := [
  "[red]Unknown command: ", "[/red]",
  "[dim]No matching commands[/dim]", "[dim]", "[/dim]  ", "\n",
  "[red]Error:[/red] ", "History synced (", " new command)", " new commands)",
  "eagerness=", " stale=", "s", "Prompt ", " set to ", "[red]Invalid value for ", ": ",
  "[red]Unknown prompt setting: ",
  "[red]Usage: .prompt eagerness <n> | .prompt stale <seconds>[/red]"]

/-- The tags in the templates. -/
def templateTags : List (List Char) :=
  ["red", "/red", "dim", "/dim"].map String.toList

/-- A line of the history list. -/
def lineFragments (r : Record) : List Fragment :=
  [.own "[dim]", .foreign (column r.seq).toList, .own "[/dim]  ",
    .foreign (escape r.text.toList)]

/-- More lines of the history list. -/
def furtherFragments (rs : List Record) : List Fragment :=
  rs.flatMap fun r => .own "\n" :: lineFragments r

/-- The history list. -/
def listFragments : List Record → List Fragment
  | [] => [.own "[dim]No matching commands[/dim]"]
  | r :: rs => lineFragments r ++ furtherFragments rs

/-- The answer to `.sync`, if there is one. -/
def syncFragments (b : Bench) : List Fragment :=
  match (b.view.renew b.shared).1 with
  | .error (.store e) => [.own "[red]Error:[/red] ", .foreign (escape e.message.toList)]
  | .error _ => []
  | .ok view =>
    let added : Int := view.all.length - b.view.all.length
    [.own "History synced (", .foreign (toString added).toList,
      .own (if added = 1 then " new command)" else " new commands)")]

/-- The answer to `.prompt`. -/
def promptFragments (s : Settings) (arguments : String) : List Fragment :=
  if arguments = "" then
    [.own "eagerness=", .foreign (toString s.eagerness).toList, .own " stale=",
      .foreign s.threshold.sixDigits.toList, .own "s"]
  else
    match Text.words arguments.toList with
    | [key, value] =>
      let key := String.ofList (Text.lower key)
      if key = "eagerness" ∨ key = "stale" then
        if (assign? s key (String.ofList value)).isSome then
          [.own "Prompt ", .foreign key.toList, .own " set to ", .foreign value]
        else
          [.own "[red]Invalid value for ", .foreign key.toList, .own ": ",
            .foreign (escape value), .own "[/red]"]
      else
        [.own "[red]Unknown prompt setting: ", .foreign (escape key.toList),
          .own "[/red]"]
    | _ => [.own "[red]Usage: .prompt eagerness <n> | .prompt stale <seconds>[/red]"]

/-- The answer to a dot-command, if it is marked-up text. -/
def DotCommand.fragments (c : DotCommand) (b : Bench) : List Fragment :=
  match c with
  | .overview | .help _ | .quit => []
  | .history lead => listFragments (matching lead b.view.all)
  | .sync => syncFragments b
  | .prompt arguments => promptFragments b.settings arguments
  | .unknown line =>
    [.own "[red]Unknown command: ", .foreign (escape line.toList), .own "[/red]"]

/-! ### Fragments that fit -/

/-- The fragments fit, and those that are the shell's own are templates. -/
structure IsTemplated (fs : List Fragment) : Prop where
  fit : Fragment.Fit fs
  templates : ∀ s, .own s ∈ fs → s ∈ templates

namespace IsTemplated

variable {fs : List Fragment} {s : List Char} {template : String}

theorem nil : IsTemplated [] := ⟨trivial, by simp⟩

theorem own (h : template ∈ Console.templates) (rest : IsTemplated fs) :
    IsTemplated (.own template :: fs) := by
  have closed : ∀ t ∈ Console.templates,
      opensLast t.toList = false ∧ t.toList.getLast? ≠ some '\\' := by decide
  refine ⟨⟨closed template h, rest.fit⟩, fun s hs => ?_⟩
  rcases List.mem_cons.mp hs with hs | hs
  · cases hs
    exact h
  · exact rest.templates s hs

theorem foreign (untagged : tags s = [])
    (closed : opensLast s = true → closes (Fragment.textOf fs) = false)
    (follows : Fragment.canFollow (Fragment.textOf fs) = true) (rest : IsTemplated fs) :
    IsTemplated (.foreign s :: fs) :=
  ⟨⟨⟨untagged, closed, follows⟩, rest.fit⟩, fun t ht => rest.templates t (by simpa using ht)⟩

theorem escaped (closed : closes (Fragment.textOf fs) = false)
    (follows : Fragment.canFollow (Fragment.textOf fs) = true) (rest : IsTemplated fs) :
    IsTemplated (.foreign (escape s) :: fs) :=
  foreign (tags_escape s) (fun _ => closed) follows rest

theorem unbracketed (h : '[' ∉ s)
    (follows : Fragment.canFollow (Fragment.textOf fs) = true) (rest : IsTemplated fs) :
    IsTemplated (.foreign s :: fs) :=
  foreign (tags_eq_nil h) (by simp [opensLast_eq_false h]) follows rest

end IsTemplated

/-! ### The history list -/

theorem not_mem_column {c : Char} (digit : c.isDigit = false) (sign : c ≠ '-') (blank : c ≠ ' ')
    (n : Int) : c ∉ (column n).toList := by
  simp only [column, String.toList_append, String.toList_ofList, List.mem_append,
    List.mem_replicate, not_or]
  exact ⟨fun h => blank h.2, not_mem_toString digit sign n⟩

theorem bracket_not_mem_column (n : Int) : '[' ∉ (column n).toList :=
  not_mem_column rfl (by decide) (by decide) n

/-- A line of the history list, and what follows it. -/
theorem isTemplated_line (r : Record) {fs : List Fragment}
    (closed : closes (Fragment.textOf fs) = false)
    (follows : Fragment.canFollow (Fragment.textOf fs) = true) (rest : IsTemplated fs) :
    IsTemplated (lineFragments r ++ fs) :=
  .own (by decide) (.unbracketed (bracket_not_mem_column r.seq) rfl
    (.own (by decide) (.escaped closed follows rest)))

/-- The next bracket after a line of the history list opens the next line. -/
theorem further_follows (rs : List Record) :
    closes (Fragment.textOf (furtherFragments rs)) = false ∧
      Fragment.canFollow (Fragment.textOf (furtherFragments rs)) = true := by
  cases rs <;> exact ⟨rfl, rfl⟩

theorem isTemplated_further (rs : List Record) : IsTemplated (furtherFragments rs) := by
  induction rs with
  | nil => exact .nil
  | cons r rs ih =>
    obtain ⟨closed, follows⟩ := further_follows rs
    exact .own (by decide) (isTemplated_line r closed follows ih)

theorem isTemplated_list (rs : List Record) : IsTemplated (listFragments rs) := by
  cases rs with
  | nil => exact .own (by decide) .nil
  | cons r rs =>
    obtain ⟨closed, follows⟩ := further_follows rs
    exact isTemplated_line r closed follows (isTemplated_further rs)

theorem balanced_list (rs : List Record) : Balanced [] (Fragment.tagsOf (listFragments rs)) := by
  have further (rs : List Record) : Balanced [] (Fragment.tagsOf (furtherFragments rs)) := by
    induction rs with
    | nil => exact .nil _
    | cons r rs ih => exact .pair isStyle_dim ih
  cases rs with
  | nil => exact .pair isStyle_dim (.nil _)
  | cons r rs => exact .pair isStyle_dim (further rs)

theorem textOf_line (r : Record) :
    Fragment.textOf (lineFragments r) = (historyLine r).toList := by
  simp [historyLine, lineFragments, Fragment.textOf, Fragment.text, Markup.escaped]

theorem textOf_further (rs : List Record) :
    Fragment.textOf (furtherFragments rs) = rs.flatMap fun r => '\n' :: (historyLine r).toList := by
  induction rs with
  | nil => rfl
  | cons r rs ih =>
    rw [List.flatMap_cons, ← ih, ← textOf_line]
    simp [furtherFragments, Fragment.textOf, Fragment.text]

theorem toList_intercalate (line : Record → String) (r : Record) (rs : List Record) :
    ("\n".intercalate ((r :: rs).map line)).toList =
      (line r).toList ++ rs.flatMap fun r => '\n' :: (line r).toList := by
  induction rs generalizing r with
  | nil => simp
  | cons r' rs ih =>
    rw [List.flatMap_cons, List.cons_append, ← ih]
    simp [String.intercalate_cons_cons]

theorem textOf_list (v : View) (lead : String) :
    Fragment.textOf (listFragments (matching lead v.all)) = (listHistory v lead).toList := by
  rw [listHistory, View.cursor, Cursor.olderAll_ofRecords]
  cases matching lead v.all with
  | nil => rfl
  | cons r rs =>
    rw [toList_intercalate, ← textOf_further, ← textOf_line]
    exact List.flatMap_append

/-! ### Every answer -/

variable {c : DotCommand} {b : Bench} {markup : String}

theorem bracket_not_mem_of_assign? {s s' : Settings} {key value : String}
    (h : assign? s key value = some s') : '[' ∉ value.toList := by
  unfold assign? at h
  split at h
  · obtain ⟨n, hn, -⟩ := Option.map_eq_some_iff.mp h
    exact bracket_not_mem_of_readInteger? hn
  · split at h
    · split at h
      · next hx => exact bracket_not_mem_of_readBinary64? hx
      · cases h
    · cases h

theorem isTemplated_prompt (s : Settings) (arguments : String) :
    IsTemplated (promptFragments s arguments) ∧
      Balanced [] (Fragment.tagsOf (promptFragments s arguments)) := by
  unfold promptFragments
  split
  · have digits := not_mem_toString (c := '[') rfl (by decide) s.eagerness
    have seconds := Binary64.bracket_not_mem_sixDigits s.threshold
    exact ⟨.own (by decide) (.unbracketed digits rfl (.own (by decide)
      (.unbracketed seconds rfl (.own (by decide) .nil)))), .nil _⟩
  · split
    · next key value _ =>
      dsimp only
      split
      · next hkey =>
        have bare : '[' ∉ (String.ofList (Text.lower key)).toList := by
          rcases hkey with hkey | hkey <;> rw [hkey] <;> decide
        split
        · next hset =>
          obtain ⟨s', hs'⟩ := Option.isSome_iff_exists.mp hset
          have number := bracket_not_mem_of_assign? hs'
          rw [String.toList_ofList] at number
          exact ⟨.own (by decide) (.unbracketed bare rfl (.own (by decide)
            (.unbracketed number rfl .nil))), .nil _⟩
        · exact ⟨.own (by decide) (.unbracketed bare rfl (.own (by decide)
            (.escaped rfl rfl (.own (by decide) .nil)))), .pair isStyle_red (.nil _)⟩
      · exact ⟨.own (by decide) (.escaped rfl rfl (.own (by decide) .nil)),
          .pair isStyle_red (.nil _)⟩
    · exact ⟨.own (by decide) .nil, .pair isStyle_red (.nil _)⟩

theorem isTemplated_sync (b : Bench) :
    IsTemplated (syncFragments b) ∧ Balanced [] (Fragment.tagsOf (syncFragments b)) := by
  unfold syncFragments
  split
  · exact ⟨.own (by decide) (.escaped rfl rfl .nil), .pair isStyle_red (.nil _)⟩
  · exact ⟨.nil, .nil _⟩
  · have digits := not_mem_toString (c := '[') rfl (by decide)
    dsimp only
    split
    · exact ⟨.own (by decide) (.unbracketed (digits _) rfl (.own (by decide) .nil)), .nil _⟩
    · exact ⟨.own (by decide) (.unbracketed (digits _) rfl (.own (by decide) .nil)), .nil _⟩

theorem DotCommand.isTemplated (c : DotCommand) (b : Bench) :
    IsTemplated (c.fragments b) ∧ Balanced [] (Fragment.tagsOf (c.fragments b)) := by
  cases c with
  | overview | help | quit => exact ⟨.nil, .nil _⟩
  | history lead => exact ⟨isTemplated_list _, balanced_list _⟩
  | sync => exact isTemplated_sync b
  | prompt arguments => exact isTemplated_prompt b.settings arguments
  | unknown line =>
    exact ⟨.own (by decide) (.escaped rfl rfl (.own (by decide) .nil)),
      .pair isStyle_red (.nil _)⟩

theorem textOf_prompt (s : Settings) (arguments : String) :
    Fragment.textOf (promptFragments s arguments) = (promptCommand s arguments).1.toList := by
  unfold promptFragments promptCommand
  split
  · simp [Settings.summary, toString, Fragment.textOf, Fragment.text]
  · generalize Text.words arguments.toList = words
    rcases words with - | ⟨key, - | ⟨value, - | ⟨more, rest⟩⟩⟩
    case cons.cons.nil =>
      dsimp only
      split
      · cases assign? s (String.ofList (Text.lower key)) (String.ofList value) <;>
          simp [toString, Fragment.textOf, Fragment.text, escaped]
      · simp [toString, Fragment.textOf, Fragment.text, escaped]
    all_goals simp [Fragment.textOf, Fragment.text]

theorem textOf_sync (h : (sync b).reply = .ok (.text markup)) :
    Fragment.textOf (syncFragments b) = markup.toList := by
  unfold sync at h
  unfold syncFragments
  cases hrenew : b.view.renew b.shared with
  | mk result shared =>
    rw [hrenew] at h
    cases result with
    | error f =>
      cases f with
      | store e =>
        cases h
        simp [Fragment.textOf, Fragment.text, escaped]
      | boundTooLarge | zeroInPath | unwritten => cases h
    | ok view =>
      cases h
      dsimp only
      split <;> simp [toString, Fragment.textOf, Fragment.text]

/-- The fragments of an answer are all of it. -/
theorem DotCommand.textOf_fragments (h : (c.run b).reply = .ok (.text markup)) :
    Fragment.textOf (c.fragments b) = markup.toList := by
  cases c with
  | overview | quit => cases h
  | help topic =>
    rw [run] at h
    cases hhelp : topicHelp topic <;> rw [hhelp] at h <;> cases h
  | history lead =>
    cases h
    exact textOf_list b.view lead
  | sync => exact textOf_sync h
  | prompt arguments =>
    cases h
    exact textOf_prompt b.settings arguments
  | unknown line =>
    cases h
    simp [fragments, toString, Fragment.textOf, Fragment.text, escaped]

/-- The tags that stand in a template. -/
theorem mem_templateTags {template : String} {body : List Char} (h : template ∈ templates)
    (hbody : body ∈ tags template.toList) : body ∈ templateTags := by
  have tagged : ∀ t ∈ templates, ∀ body ∈ tags t.toList, body ∈ templateTags := by decide
  exact tagged template h body hbody

/-- Text that is put together from templates is rendered and printed, and its tags are the templates'. -/
theorem IsTemplated.rendered {fs : List Fragment} (h : IsTemplated fs)
    (balanced : Balanced [] (Fragment.tagsOf fs)) (whole : Fragment.textOf fs = markup.toList) :
    (∃ t, render markup.toList = .ok t) ∧ (∀ width, ∃ out, printPlain width markup = .ok out) ∧
      ∀ k body, .tag k body ∈ pieces markup.toList →
        Fragment.IsOwn fs 0 k body ∧ body ∈ templateTags := by
  obtain ⟨t, hrender, -, -⟩ := render_fit h.fit balanced
  rw [whole] at hrender
  refine ⟨⟨t, hrender⟩, fun width => (print_fit width whole.symm h.fit balanced).2,
    fun k body hp => ?_⟩
  rw [pieces, ← whole] at hp
  have isOwn := Fragment.isOwn_of_mem h.fit hp
  obtain ⟨before, s, after, hfs, hbody, -⟩ := id isOwn
  have template := h.templates s (by rw [hfs]; simp)
  exact ⟨isOwn, mem_templateTags template hbody⟩

/-- Whatever a line holds, and whatever the view, the settings and the errors of the store: a text in
which a dot-command answers can be rendered, and is printed at every width.  It is put together from
templates and from text of other origin, and each tag that is found in it stands inside one of the
templates, so text of other origin neither is a tag nor starts, ends or takes in one. -/
theorem templated_answer {line markup : String} {b : Bench}
    (h : (answer line b).reply = .ok (.text markup)) :
    (∃ t, render markup.toList = .ok t) ∧ (∀ width, ∃ out, printPlain width markup = .ok out) ∧
      Fragment.textOf ((DotCommand.read line).fragments b) = markup.toList ∧
      (∀ s, .own s ∈ (DotCommand.read line).fragments b → s ∈ templates) ∧
      ∀ k body, .tag k body ∈ pieces markup.toList →
        Fragment.IsOwn ((DotCommand.read line).fragments b) 0 k body ∧ body ∈ templateTags := by
  have whole := DotCommand.textOf_fragments h
  obtain ⟨templated, balanced⟩ := (DotCommand.read line).isTemplated b
  obtain ⟨rendered, printed, tagged⟩ := templated.rendered balanced whole
  exact ⟨rendered, printed, whole, templated.templates, tagged⟩

/-- A view of two commands that would make a tag if they were not escaped. -/
def bracketedBench : Bench where
  view := ⟨[], [⟨0, "ls [dim", .zero, ""⟩, ⟨1, "]\\", .zero, ""⟩]⟩
  settings := {}
  shared := { backend := .memory {}, clock := ⟨0⟩ }

theorem templated_bracketed :
    ∃ markup, (answer ".HISTORY" bracketedBench).reply = .ok (.text markup) ∧
      (∃ t, render markup.toList = .ok t) ∧
      ∀ k body, .tag k body ∈ pieces markup.toList → body ∈ templateTags := by
  have hread : DotCommand.read ".HISTORY" = .history "" := by decide +kernel
  have hreply : (answer ".HISTORY" bracketedBench).reply =
      .ok (.text (listHistory bracketedBench.view "")) := by
    rw [answer, hread]
    rfl
  obtain ⟨rendered, -, -, -, tagged⟩ := templated_answer hreply
  exact ⟨_, hreply, rendered, fun k body hp => (tagged k body hp).2⟩

end Promptline.Console
