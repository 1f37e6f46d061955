import Promptline.Proofs.Console.Templates
import Promptline.Proofs.History.Operations
import Promptline.Proofs.History.Position
import Promptline.Proofs.Text.Lowering
import Promptline.Proofs.Text.Words

/-! What `.history` answers.  A cursor is moved back over the view until a move fails, and what it has
given, the other way round, are the records in view whose texts start with the rest of the line. -/

namespace Promptline.Console

open Promptline.History Promptline.Store Promptline.Text

variable {line : String} {before word rest : List Char}

/-- A line is known for `.history` by its first word, in any letter case. -/
theorem DotCommand.read_history (hline : line.toList = before ++ word ++ rest)
    (hbefore : ∀ c ∈ before, isBlank c = true) (hrest : ∀ c ∈ rest.head?, isBlank c = true)
    (hword : lower word = ".history".toList) :
    DotCommand.read line = .history (String.ofList (trim rest)) := by
  have unbroken {t : List Char} (ht : t.any isBlank = false) : ∀ c ∈ t, isBlank c = false := by
    simpa using ht
  have solid : ∀ c ∈ word, isBlank c = false := solid_of_lower (unbroken (by rw [hword]; decide))
  have hne : word ≠ [] := by
    rintro rfl
    cases hword
  obtain ⟨htrim, hfirst⟩ := firstWord_trim hbefore hne solid hrest
  -- A line that is lowered to another command has no blank in it, so that command is the word.
  have whole {s : String} (hs : s.toList.any isBlank = false) (other : s ≠ ".history") :
      String.ofList (lower (word ++ dropEnd isBlank rest)) ≠ s := by
    intro h
    have lowered : lower (word ++ dropEnd isBlank rest) = s.toList := by
      rw [← h, String.toList_ofList]
    have alone := fst_firstWord_of_solid (solid_of_lower (lowered ▸ unbroken hs))
    rw [hfirst] at alone
    rw [← alone, hword] at lowered
    exact other (String.toList_inj.mp lowered.symm)
  have known : String.ofList (lower word) = ".history" := by rw [hword, String.ofList_toList]
  unfold DotCommand.read
  simp only [hline, htrim, hfirst, known]
  rw [if_neg (whole (by decide) (by decide)), if_neg (by decide),
    if_neg (whole (by decide) (by decide)), if_pos trivial]

theorem column_eq_leftpad (n : Int) :
    column n = String.ofList ((toString n).toList.leftpad 5 ' ') := by
  rw [column, List.leftpad, String.ofList_append, String.ofList_toList, String.length_toList]

/-- No list starts like the answer that there is no match. -/
theorem historyLine_append_ne (r : Record) (rest : List Char) :
    (historyLine r).toList ++ rest ≠ "[dim]No matching commands[/dim]".toList := by
  intro h
  have bare : 'N' ∉ (column r.seq).toList :=
    not_mem_column (by decide) (by decide) (by decide) r.seq
  have behind : (column r.seq).toList ++ ("[/dim]  ".toList ++
      (Markup.escape r.text.toList ++ rest)) = "No matching commands[/dim]".toList := by
    have whole : "[dim]".toList ++ ((column r.seq).toList ++ ("[/dim]  ".toList ++
        (Markup.escape r.text.toList ++ rest))) =
        "[dim]".toList ++ "No matching commands[/dim]".toList := by
      simpa [historyLine, Markup.escaped] using h
    exact List.append_cancel_left whole
  cases hcolumn : (column r.seq).toList with
  | nil =>
    rw [hcolumn] at behind
    cases behind
  | cons c cs =>
    rw [hcolumn] at behind bare
    have head : c = 'N' := (List.cons.inj behind).1
    exact bare (head ▸ List.mem_cons_self)

variable {v : View} {lead : String}

theorem listHistory_of_matching (h : matching lead v.all ≠ []) :
    listHistory v lead = "\n".intercalate ((matching lead v.all).map historyLine) := by
  obtain ⟨r, rs, hrs⟩ := List.exists_cons_of_ne_nil h
  rw [listHistory, View.cursor, Cursor.olderAll_ofRecords, hrs]

theorem listHistory_eq_unmatched_iff :
    listHistory v lead = "[dim]No matching commands[/dim]" ↔ matching lead v.all = [] := by
  constructor
  · intro h
    by_contra hne
    obtain ⟨r, rs, hrs⟩ := List.exists_cons_of_ne_nil hne
    have shown := congrArg String.toList h
    rw [listHistory_of_matching hne, hrs, toList_intercalate] at shown
    exact historyLine_append_ne r _ shown
  · intro h
    rw [listHistory, View.cursor, Cursor.olderAll_ofRecords, h]

end Promptline.Console

namespace Promptline.Workspace

open Promptline.Console Promptline.History Promptline.Store Promptline.Text

variable {w : Workspace} {s line : String} {i : Nat} {v : View} {before word rest : List Char}

/-- `.history` changes nothing in a workspace. -/
theorem perform_history {lead : String} (hsession : w.sessions.lookup s = some i)
    (hview : w.views[i]? = some v) (hread : DotCommand.read line = .history lead) :
    w.perform (.command s line) =
      (.command (.ok (.text (listHistory v lead))) "" w.settings w.reloads, w) := by
  have unchanged : w.views.set i v = w.views := Sharing.set_view_self hview
  simp only [perform, onSession, hsession, hview, command, Console.answer, hread, DotCommand.run,
    unchanged]
  rfl

/-- Whatever a workspace has come to, and whatever is in view: a line whose first word is `.history` is
answered with a line for each record that starts with the rest, in the order of the view, or with the
word that there is none.  The moves of the cursor that finds the records come to an end, and nothing in
the workspace changes. -/
theorem listed_perform (hsession : w.sessions.lookup s = some i) (hview : w.views[i]? = some v)
    (hline : line.toList = before ++ word ++ rest)
    (hbefore : ∀ c ∈ before, isBlank c = true) (hrest : ∀ c ∈ rest.head?, isBlank c = true)
    (hword : lower word = ".history".toList) :
    let lead := trim rest
    let found := v.all.filter fun r => decide (lead <+: r.text.toList)
    let listed := fun r : Record =>
      "[dim]" ++ String.ofList ((toString r.seq).toList.leftpad 5 ' ') ++ "[/dim]  " ++
        Markup.escaped r.text
    ∃ markup,
      w.perform (.command s line) = (.command (.ok (.text markup)) "" w.settings w.reloads, w) ∧
      (∀ rs, (v.cursor (String.ofList lead)).Yields rs ↔ rs = found.reverse) ∧
      (found ≠ [] → markup = "\n".intercalate (found.map listed)) ∧
      (markup = "[dim]No matching commands[/dim]" ↔ found = []) := by
  intro lead found listed
  have hfound : matching (String.ofList lead) v.all = found := by
    rw [matching_eq_filter, String.toList_ofList]
  have hlisted : historyLine = listed := by
    funext r
    rw [historyLine, column_eq_leftpad]
  refine ⟨_, perform_history hsession hview (DotCommand.read_history hline hbefore hrest hword),
    fun rs => ?_, fun hne => ?_, ?_⟩
  · rw [View.cursor, Cursor.yields_ofRecords, hfound]
  · rw [listHistory_of_matching (hfound ▸ hne), hfound, hlisted]
  · rw [listHistory_eq_unmatched_iff, hfound]

/-- A session with three records in view, a cursor on one of them, and a record of another writer that is
not in view. -/
def searched : Workspace :=
  ({ shared := { backend := .memory {}, clock := ⟨1000⟩ } } : Workspace).performAll
    [.openSession "s", .add "s" ⟨"git log", .zero, ""⟩, .add "s" ⟨"ls", .zero, ""⟩,
      .otherAdd ⟨"git push", .zero, ""⟩, .add "s" ⟨"git [x]", .zero, ""⟩,
      .makeCursor "s" "c" "git", .older "c"]

theorem listed_mixedCase :
    searched.perform (.command "s" " .HiStory\t git \n") =
      (.command (.ok (.text "[dim]    0[/dim]  git log\n[dim]    3[/dim]  git \\[x]")) ""
        searched.settings searched.reloads, searched) := by
  let old : Record := ⟨0, "git log", .zero, ""⟩
  let new : Record := ⟨3, "git [x]", .zero, ""⟩
  have hsession : searched.sessions.lookup "s" = some 0 := by rfl
  have hview : searched.views[0]? = some ⟨[], [old, ⟨1, "ls", .zero, ""⟩, new]⟩ := by rfl
  have hline : " .HiStory\t git \n".toList = [' '] ++ ".HiStory".toList ++ "\t git \n".toList := by
    decide +kernel
  have hfound : [old, ⟨1, "ls", .zero, ""⟩, new].filter
      (fun r => decide (trim "\t git \n".toList <+: r.text.toList)) = [old, new] := by
    decide +kernel
  have hbefore : ∀ c ∈ [' '], isBlank c = true := List.forall_mem_singleton.mpr rfl
  have hrest : ∀ c ∈ "\t git \n".toList.head?, isBlank c = true := by
    rintro c ⟨⟩
    rfl
  obtain ⟨markup, hperform, -, hlist, -⟩ :=
    listed_perform hsession hview hline hbefore hrest (by decide +kernel)
  have hmarkup := hlist (hfound ▸ List.cons_ne_nil old [new])
  simp only [View.all, List.nil_append, hfound] at hmarkup
  have shown : markup = "[dim]    0[/dim]  git log\n[dim]    3[/dim]  git \\[x]" := by
    rw [hmarkup]
    decide +kernel
  rw [hperform, shown]

end Promptline.Workspace
