import Mathlib.Data.List.Basic
import Promptline.Console.Completion
import Promptline.Proofs.Text.Lowering

/-! Completion narrows as the first word is typed: what is offered for a longer text has been offered
for the shorter one, unless a capital sigma is in it. -/

namespace Promptline.Console

open Promptline.Text

variable {words : List String} {typed more : List Char}

/-- To type on rules words out and offers no new ones. -/
theorem offered_append_sublist (h : 'Σ' ∉ typed ++ more) :
    (offered words (typed ++ more)).Sublist (offered words typed) := by
  by_cases space : ' ' ∈ typed ++ more
  · rw [offered, complete_of_space space]
    exact List.nil_sublist _
  · have started : ' ' ∉ typed := fun hs => space (List.mem_append_left _ hs)
    rw [offered_eq_filter space, offered_eq_filter started, lower_append h]
    refine List.monotone_filter_right _ fun w hw => ?_
    have whole : lower typed ++ lower more <+: w.toList := of_decide_eq_true hw
    exact decide_eq_true ((List.prefix_append _ _).trans whole)

/-- Whatever the words and whatever is typed, without a capital sigma: the words that are offered for a
longer text are among those for the shorter one, in the order of the list.  Before the first space they
are the lowered words that start with the lowered text, each as often as it is in the list, and each of
them takes the place of all that has been typed.  From the first space on nothing is offered. -/
theorem narrowed_complete (words : List String) (h : 'Σ' ∉ typed ++ more) :
    (offered words (typed ++ more)).Sublist (offered words typed) ∧
    (offered words typed).Sublist (words.map lowered) ∧
    (' ' ∉ typed →
      (∀ w, (offered words typed).count w =
        if lower typed <+: w.toList then (words.map lowered).count w else 0) ∧
      ∀ c ∈ complete words typed, c.applied typed = c.word.toList) ∧
    (' ' ∈ typed → complete words typed = [] ∧ complete words (typed ++ more) = []) :=
  ⟨offered_append_sublist h, offered_sublist words typed,
    fun unspaced => ⟨count_offered unspaced, fun _ => applied_of_mem⟩,
    fun spaced => ⟨complete_of_space spaced, complete_of_space (List.mem_append_left _ spaced)⟩⟩

/-- A sigma at the end of what is typed is a final one, so more is offered when a letter follows. -/
example : offered ["ασα"] "ΑΣ".toList = [] ∧ offered ["ασα"] "ΑΣΑ".toList = ["ασα"] := by
  decide +kernel

/-- Words that start with a dotted capital I, which is lowered to two characters. -/
def dottedWords : List String := ["İx", "cd", "i\u0307X", "İ"]

theorem narrowed_dotted :
    'Σ' ∉ ['İ'] ++ ['X'] ∧ offered dottedWords ['İ', 'X'] = ["i\u0307x", "i\u0307x"] ∧
      (offered dottedWords ['İ', 'X']).Sublist (offered dottedWords ['İ']) ∧
      (offered dottedWords ['İ']).count "i\u0307x" = 2 ∧
      (⟨"i\u0307x", 1⟩ : Completion).applied ['İ'] = "i\u0307x".toList ∧
      complete dottedWords ['c', 'd', ' ', '/'] = [] := by
  have one : 'Σ' ∉ ['İ'] ++ ['X'] := by decide
  have other : 'Σ' ∉ ['c', 'd', ' '] ++ ['/'] := by decide
  obtain ⟨narrows, -, unspaced, -⟩ := narrowed_complete dottedWords one
  obtain ⟨counts, applied⟩ := unspaced (by decide)
  obtain ⟨-, -, -, spaced⟩ := narrowed_complete dottedWords other
  refine ⟨one, by decide +kernel, narrows, ?_, applied _ (by decide +kernel),
    (spaced (by decide)).2⟩
  rw [counts]
  decide +kernel

end Promptline.Console
