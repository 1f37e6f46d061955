import Promptline.Proofs.Console.Templates
import Promptline.Proofs.Markup.Legible

/-! What `.history` shows.  Its lines come in their order, each with its number, and a command is shown
as it is if and only if it is legible: the markup has two ways to change it. -/

namespace Promptline.Console

open Promptline.History Promptline.Markup Promptline.Number Promptline.Store

/-- A line of the history list in which `text` is shown for the command. -/
def plainLine (text : String → String) (r : Record) : String :=
  column r.seq ++ "  " ++ text r.text

/-- The history list in which `text` is shown for each command. -/
def plainList (text : String → String) (rs : List Record) : String :=
  "\n".intercalate (rs.map (plainLine text))

/-- What is shown for a command. -/
def shownText (s : String) : String := String.ofList (shown s.toList)

/-- What a line of the history list shows.  In what follows it no bracket closes first, and no bracket
and no backslash before a tag comes first. -/
theorem shows_line (r : Record) {rest x : List Char} (h : Shows rest x)
    (j : Joins (escape r.text.toList) rest) :
    Shows (Fragment.textOf (lineFragments r) ++ rest) ((plainLine shownText r).toList ++ x) := by
  have dim : Shows "[dim]".toList [] := fun _ => rfl
  have undim : Shows "[/dim]  ".toList "  ".toList := fun _ => rfl
  have bare := bracket_not_mem_column r.seq
  have last : (column r.seq).toList.getLast? ≠ some '\\' := fun last =>
    not_mem_column (c := '\\') rfl (by decide) (by decide) r.seq (List.mem_of_getLast? last)
  have whole := dim.append ((shows_unbracketed bare).append (undim.append
    ((shows_escape r.text.toList).append h j) (joins_of_settled (by decide) (by decide)))
      (joins_of_settled (opensLast_eq_false bare) last)) (joins_of_settled (by decide) (by decide))
  simpa [Fragment.textOf, Fragment.text, lineFragments, plainLine, shownText] using whole

theorem joins_further (s : List Char) (rs : List Record) :
    Joins s (Fragment.textOf (furtherFragments rs)) := by
  refine ⟨fun _ => (further_follows rs).1, fun _ => ?_⟩
  cases rs with
  | nil => exact ⟨rfl, by decide⟩
  | cons r rs => exact ⟨rfl, (by decide : some '\n' ≠ some '[')⟩

theorem shows_further (rs : List Record) :
    Shows (Fragment.textOf (furtherFragments rs))
      (rs.flatMap fun r => '\n' :: (plainLine shownText r).toList) := by
  induction rs with
  | nil => exact fun _ => rfl
  | cons r rs ih =>
    have newline : Shows ['\n'] ['\n'] := fun _ => rfl
    have whole := newline.append (shows_line r ih (joins_further _ rs))
      (joins_of_settled (by decide) (by decide))
    simpa [furtherFragments, Fragment.textOf, Fragment.text] using whole

theorem shows_list (r : Record) (rs : List Record) :
    Shows (Fragment.textOf (listFragments (r :: rs))) (plainList shownText (r :: rs)).toList := by
  rw [plainList, toList_intercalate, listFragments, Fragment.textOf, List.flatMap_append]
  exact shows_line r (shows_further rs) (joins_further _ rs)

/-- The history list is rendered, and shows its lines in their order. -/
theorem render_list (v : View) (lead : String) (found : matching lead v.all ≠ []) :
    ∃ t, render (listHistory v lead).toList = .ok t ∧
      t.chars = stripControls (plainList shownText (matching lead v.all)).toList := by
  obtain ⟨t, hrender, hchars, -⟩ := render_fit (isTemplated_list _).fit
    (balanced_list (matching lead v.all))
  obtain ⟨r, rs, hrecords⟩ := List.exists_cons_of_ne_nil found
  have shows := shows_list r rs 0
  rw [← hrecords] at shows
  rw [pieces, shows] at hchars
  rw [textOf_list] at hrender
  exact ⟨t, hrender, hchars⟩

theorem reply_history {line lead : String} (b : Bench) (h : DotCommand.read line = .history lead) :
    (answer line b).reply = .ok (.text (listHistory b.view lead)) := by
  rw [answer, h]
  rfl

/-- Whatever the texts of the records: `.history` with a match shows the matching records, oldest
first, each with its number in five columns and two spaces before the command, but for characters
that move the cursor.  A legible command is shown as it is, and no other one is. -/
theorem listed_commands {line lead : String} {b : Bench}
    (hread : DotCommand.read line = .history lead) (found : matching lead b.view.all ≠ []) :
    ∃ markup t, (answer line b).reply = .ok (.text markup) ∧ render markup.toList = .ok t ∧
      t.chars = stripControls (plainList shownText (matching lead b.view.all)).toList ∧
      (∀ s, shownText s = s ↔ isLegible s.toList = true) ∧
      ((∀ r ∈ matching lead b.view.all, isLegible r.text.toList = true) →
        t.chars = stripControls (plainList id (matching lead b.view.all)).toList) := by
  have verbatim (s : String) : shownText s = s ↔ isLegible s.toList = true := by
    rw [← shown_eq_self_iff, ← String.toList_inj, shownText, String.toList_ofList]
  obtain ⟨t, hrender, hchars⟩ := render_list b.view lead found
  refine ⟨_, t, reply_history b hread, hrender, hchars, verbatim, fun legible => ?_⟩
  have same : (matching lead b.view.all).map (plainLine shownText) =
      (matching lead b.view.all).map (plainLine id) :=
    List.map_congr_left fun r hr => by
      rw [plainLine, plainLine, (verbatim r.text).mpr (legible r hr)]
      rfl
  rw [hchars, plainList, same, plainList]

/-- A view of one command. -/
def benchOf (text : String) : Bench where
  view := ⟨[⟨0, text, .zero, ""⟩], []⟩
  settings := {}
  shared := { backend := .memory {}, clock := ⟨0⟩ }

/-- A command with a tag behind two backslashes is legible. -/
theorem listed_tag :
    ∃ markup t, (answer ".history ec" (benchOf "echo \\\\[red] [x")).reply = .ok (.text markup) ∧
      render markup.toList = .ok t ∧ t.chars = "    0  echo \\\\[red] [x".toList := by
  have hread : DotCommand.read ".history ec" = .history "ec" := by decide +kernel
  have hmatching : matching "ec" (benchOf "echo \\\\[red] [x").view.all =
      [⟨0, "echo \\\\[red] [x", .zero, ""⟩] := by rfl
  obtain ⟨markup, t, hreply, hrender, -, -, verbatim⟩ :=
    listed_commands hread (b := benchOf "echo \\\\[red] [x") (by rw [hmatching]; simp)
  refine ⟨markup, t, hreply, hrender, ?_⟩
  rw [verbatim (by rw [hmatching]; decide), hmatching]
  rfl

/-- A search for digits: the backslash before the bracket is lost. -/
theorem listed_lostBackslash :
    ∃ markup t, (answer ".history" (benchOf "grep '\\[0-9]' log")).reply = .ok (.text markup) ∧
      render markup.toList = .ok t ∧ t.chars = "    0  grep '[0-9]' log".toList ∧
      t.chars ≠ "    0  grep '\\[0-9]' log".toList := by
  have hread : DotCommand.read ".history" = .history "" := by decide +kernel
  have hmatching : matching "" (benchOf "grep '\\[0-9]' log").view.all =
      [⟨0, "grep '\\[0-9]' log", .zero, ""⟩] := by rfl
  obtain ⟨t, hrender, hchars⟩ :=
    render_list (benchOf "grep '\\[0-9]' log").view "" (by rw [hmatching]; simp)
  have hchars : t.chars = "    0  grep '[0-9]' log".toList := by
    rw [hchars, hmatching]
    rfl
  exact ⟨_, t, reply_history _ hread, hrender, hchars, by rw [hchars]; decide⟩

end Promptline.Console
