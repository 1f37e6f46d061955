import Promptline.Console.Help
import Promptline.Text.LowerCase

/-! Completion of the first word of a line.  A word takes the place of all that has been typed, however
much longer than this its lowered form is. -/

namespace Promptline.Console

open Promptline.Text

/-- The commands that can be completed. -/
def completableWords : List String := dotTopics.map ("." ++ ·.name) ++ builtinTopics.map Topic.name

/-- A word to put in place of the `replaced` characters before the cursor. -/
structure Completion where
  word : String
  replaced : Nat
deriving DecidableEq, Repr

/-- The words that start with what has been typed, letter case aside.  Once there is a space the
first word is over, and nothing is offered. -/
def complete (words : List String) (typed : List Char) : List Completion :=
  if ' ' ∈ typed then []
  else
    ((words.map Text.lowered).filter fun w => (Text.lower typed).isPrefixOf w.toList).map
      fun w => ⟨w, typed.length⟩

/-- The words that are offered, in their order. -/
def offered (words : List String) (typed : List Char) : List String :=
  (complete words typed).map Completion.word

/-- What stands before the cursor when the completion has been put there. -/
def Completion.applied (c : Completion) (before : List Char) : List Char :=
  before.take (before.length - c.replaced) ++ c.word.toList

variable {words : List String} {typed : List Char} {c : Completion}

theorem complete_of_space (h : ' ' ∈ typed) : complete words typed = [] := if_pos h

theorem offered_eq_filter (h : ' ' ∉ typed) :
    offered words typed =
      (words.map lowered).filter fun w => decide (lower typed <+: w.toList) := by
  have isPrefix : (fun w : String => (lower typed).isPrefixOf w.toList) =
      fun w => decide (lower typed <+: w.toList) := by
    funext w
    rw [Bool.eq_iff_iff, List.isPrefixOf_iff_prefix, decide_eq_true_iff]
  rw [offered, complete, if_neg h, List.map_map, ← isPrefix]
  exact List.map_id _

theorem offered_sublist (words : List String) (typed : List Char) :
    (offered words typed).Sublist (words.map lowered) := by
  by_cases h : ' ' ∈ typed
  · rw [offered, complete_of_space h]
    exact List.nil_sublist _
  · rw [offered_eq_filter h]
    exact List.filter_sublist

theorem count_offered (h : ' ' ∉ typed) (w : String) :
    (offered words typed).count w =
      if lower typed <+: w.toList then (words.map lowered).count w else 0 := by
  rw [offered_eq_filter h]
  split
  · next hw => exact List.count_filter (decide_eq_true hw)
  · next hw =>
    refine List.count_eq_zero.mpr fun hmem => hw ?_
    exact of_decide_eq_true (List.mem_filter.mp hmem).2

theorem applied_of_mem (h : c ∈ complete words typed) : c.applied typed = c.word.toList := by
  unfold complete at h
  split at h
  · cases h
  · obtain ⟨w, -, rfl⟩ := List.mem_map.mp h
    rw [Completion.applied, Nat.sub_self, List.take_zero, List.nil_append]

end Promptline.Console
