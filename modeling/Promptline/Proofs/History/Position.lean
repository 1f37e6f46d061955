import Promptline.Proofs.History.Cursor

/-! A cursor as a place among the records that match: where each request leads from a place, and
what a cursor answers after any requests. -/

namespace Promptline.History

open Promptline.Store

/-- What can be asked of a cursor. -/
inductive Request where
  | older | newer | get
deriving DecidableEq, Repr

namespace Request

/-- The place among `n` records that a request at place `p` leads to, if it succeeds.  Place `n` is
past the newest record. -/
def goal (n p : Nat) : Request → Option Nat
  | .older => if 0 < p then some (p - 1) else none
  | .newer => if p + 1 < n then some (p + 1) else none
  | .get => if p < n then some p else none

/-- How a request fails. -/
def fault : Request → CursorFault
  | .older => .noOlder
  | .newer => .noNewer
  | .get => .offRecord

/-- The place after requests in order, of which one that fails leads nowhere. -/
def place (n : Nat) (requests : List Request) (p : Nat) : Nat :=
  requests.foldl (fun p r => (r.goal n p).getD p) p

variable {n p q : Nat} {r : Request}

/-- A request that succeeds leads to a record. -/
theorem goal_lt (hle : p ≤ n) (hgoal : r.goal n p = some q) : q < n := by
  cases r with
  | older =>
    obtain ⟨hpos, ⟨⟩⟩ := Option.ite_none_right_eq_some.mp hgoal
    omega
  | newer =>
    obtain ⟨hlt, ⟨⟩⟩ := Option.ite_none_right_eq_some.mp hgoal
    exact hlt
  | get =>
    obtain ⟨hlt, ⟨⟩⟩ := Option.ite_none_right_eq_some.mp hgoal
    exact hlt

theorem place_cons (r : Request) (requests : List Request) (p : Nat) :
    place n (r :: requests) p = place n requests ((r.goal n p).getD p) := rfl

theorem place_le (requests : List Request) (hle : p ≤ n) : place n requests p ≤ n := by
  induction requests generalizing p with
  | nil => exact hle
  | cons r requests ih =>
    rw [place_cons]
    refine ih ?_
    cases hgoal : r.goal n p with
    | none => exact hle
    | some q => exact Nat.le_of_lt (goal_lt hle hgoal)

/-- No requests lead off the records. -/
theorem place_lt (requests : List Request) (hlt : p < n) : place n requests p < n := by
  induction requests generalizing p with
  | nil => exact hlt
  | cons r requests ih =>
    rw [place_cons]
    refine ih ?_
    cases hgoal : r.goal n p with
    | none => exact hlt
    | some q => exact goal_lt (Nat.le_of_lt hlt) hgoal

end Request

/-- The records that match are those whose texts start with `lead`, in their order. -/
theorem matching_eq_filter (lead : String) (records : List Record) :
    matching lead records = records.filter fun r => decide (lead.toList <+: r.text.toList) := by
  refine List.filter_congr fun r _ => ?_
  rw [startsWith, Bool.eq_iff_iff, List.isPrefixOf_iff_prefix, decide_eq_true_iff]

namespace Cursor

open Request

/-- What a cursor answers to a request, and the cursor then. -/
def ask (c : Cursor) : Request → Except CursorFault Record × Cursor
  | .older => c.older
  | .newer => c.newer
  | .get => (c.get, c)

/-- The cursor after requests in order. -/
def asked (c : Cursor) (requests : List Request) : Cursor :=
  requests.foldl (fun c r => (c.ask r).2) c

/-- What a cursor answers to requests in order. -/
def answers : (c : Cursor) → List Request → List (Except CursorFault Record)
  | _, [] => []
  | c, r :: requests => (c.ask r).1 :: (c.ask r).2.answers requests

variable {c : Cursor} {r : Request} {q : Nat}

/-! ### One request -/

theorem get_of_lt (hlt : c.position < c.records.length) : c.get = .ok c.records[c.position] := by
  simp only [get, List.getElem?_eq_getElem hlt]

/-- Back to an older record and forth again. -/
theorem newer_older (hpos : 0 < c.position) (hlt : c.position < c.records.length) :
    c.older.2.newer = (.ok c.records[c.position], c) := by
  obtain ⟨p, hp⟩ : ∃ p, c.position = p + 1 := ⟨c.position - 1, by omega⟩
  have forth : p + 1 < c.records.length := by omega
  rw [older_of_succ hp (Nat.lt_of_succ_lt forth), @newer_of_lt { c with position := p } forth]
  simp only [← hp]

theorem ask_of_goal (hle : c.position ≤ c.records.length)
    (hgoal : r.goal c.records.length c.position = some q) :
    ∃ hlt : q < c.records.length, c.ask r = (.ok c.records[q], { c with position := q }) := by
  refine ⟨goal_lt hle hgoal, ?_⟩
  cases r with
  | older =>
    simp only [goal, Option.ite_none_right_eq_some, Option.some.injEq] at hgoal
    obtain ⟨hpos, rfl⟩ := hgoal
    exact older_of_succ (by omega) _
  | newer =>
    simp only [goal, Option.ite_none_right_eq_some, Option.some.injEq] at hgoal
    obtain ⟨hlt, rfl⟩ := hgoal
    exact newer_of_lt hlt
  | get =>
    simp only [goal, Option.ite_none_right_eq_some, Option.some.injEq] at hgoal
    obtain ⟨hlt, rfl⟩ := hgoal
    rw [ask, get_of_lt hlt]

theorem ask_of_none (hgoal : r.goal c.records.length c.position = none) :
    c.ask r = (.error r.fault, c) := by
  cases r with
  | older =>
    have hp : c.position = 0 := by simpa [goal] using hgoal
    simp only [ask, older, hp, fault]
  | newer =>
    have hge : c.records.length ≤ c.position + 1 := by simpa [goal] using hgoal
    exact newer_of_ge hge
  | get =>
    have hge : c.records.length ≤ c.position := by simpa [goal] using hgoal
    simp only [ask, get, List.getElem?_eq_none hge, fault]

/-- A request moves the position to its goal and changes nothing else. -/
theorem ask_snd (hle : c.position ≤ c.records.length) (r : Request) :
    (c.ask r).2 =
      { c with position := (r.goal c.records.length c.position).getD c.position } := by
  cases hgoal : r.goal c.records.length c.position with
  | none => rw [ask_of_none hgoal, Option.getD_none]
  | some q =>
    obtain ⟨_, heq⟩ := ask_of_goal hle hgoal
    rw [heq, Option.getD_some]

/-! ### Many requests -/

/-- Requests move the position as they lead from place to place. -/
theorem asked_eq (hle : c.position ≤ c.records.length) (requests : List Request) :
    c.asked requests = { c with position := place c.records.length requests c.position } := by
  induction requests generalizing c with
  | nil => rfl
  | cons r requests ih =>
    have hnext : (r.goal c.records.length c.position).getD c.position ≤ c.records.length :=
      place_le [r] hle
    calc c.asked (r :: requests)
        = (c.ask r).2.asked requests := rfl
      _ = _ := by
        rw [ask_snd hle]
        exact @ih { c with position := _ } hnext

/-- A request that fails fails the same way however often it is made again. -/
theorem answers_replicate_none (hgoal : r.goal c.records.length c.position = none) (k : Nat) :
    c.answers (.replicate k r) = .replicate k (.error r.fault) := by
  induction k with
  | zero => rfl
  | succ k ih => rw [List.replicate_succ, answers, ask_of_none hgoal, ih, List.replicate_succ]

/-- Requests for older records are answered by the records before the position, newest first, and
fail from then on. -/
theorem answers_older (hle : c.position ≤ c.records.length) (k : Nat) :
    c.answers (.replicate k .older) =
      ((c.records.take c.position).reverse.take k).map .ok ++
        .replicate (k - c.position) (.error .noOlder) := by
  induction k generalizing c with
  | zero => simp [answers]
  | succ k ih =>
    cases hp : c.position with
    | zero =>
      have fails : c.answers (.replicate (k + 1) .older) =
          .replicate (k + 1) (.error Request.older.fault) :=
        answers_replicate_none (by simp [goal, hp]) _
      simpa [fault] using fails
    | succ p =>
      have hlt : p < c.records.length := by omega
      rw [List.replicate_succ, answers, ask, older_of_succ hp hlt,
        List.take_succ_eq_append_getElem hlt, List.reverse_append, List.reverse_singleton,
        List.singleton_append, List.take_succ_cons, List.map_cons, List.cons_append,
        Nat.add_sub_add_right]
      exact congrArg _ (@ih { c with position := p } (Nat.le_of_lt hlt))

/-- A cursor is a place among the records whose texts start with `lead`, from past the newest one
on.  Each request leads to its goal and gives the record there, or fails and leaves the cursor as
it is, also when it is made again.  From the start, requests for older records give each match once,
newest first, and then fail.  Back from an older record, a cursor gives the record it left, and a
cursor on a record stays on the records. -/
theorem ofRecords_asked (lead : String) (records : List Record) (before : List Request) :
    let found := records.filter fun r => decide (lead.toList <+: r.text.toList)
    let n := found.length
    let p := place n before n
    let c := (ofRecords lead records).asked before
    c = ⟨lead, found, p⟩ ∧ p ≤ n ∧
      (∀ r : Request, match r.goal n p with
        | some q => ∃ hlt : q < n, c.ask r = (.ok found[q], ⟨lead, found, q⟩)
        | none => c.ask r = (.error r.fault, c) ∧
            ∀ k, c.answers (.replicate k r) = .replicate k (.error r.fault)) ∧
      (∀ k, (ofRecords lead records).answers (.replicate k .older) =
        (found.reverse.take k).map .ok ++ .replicate (k - n) (.error .noOlder)) ∧
      (∀ hlt : p < n, c.get = .ok found[p] ∧
        (0 < p → c.older.2.newer = (.ok found[p], c)) ∧
        ∀ behind, ∃ hlt : place n behind p < n,
          (c.asked behind).get = .ok found[place n behind p]) := by
  intro found n p c
  have start : ofRecords lead records = ⟨lead, found, n⟩ := by
    rw [ofRecords, matching_eq_filter]
  have here : c = ⟨lead, found, p⟩ := by
    rw [show c = (ofRecords lead records).asked before from rfl, start]
    exact asked_eq (Nat.le_refl _) before
  have hle : p ≤ n := place_le before (Nat.le_refl _)
  refine ⟨here, hle, fun r => ?_, fun k => ?_, fun hlt => ⟨?_, fun hpos => ?_, fun behind => ?_⟩⟩
  · rw [here]
    cases hgoal : r.goal n p with
    | none =>
      exact ⟨ask_of_none (c := ⟨lead, found, p⟩) hgoal,
        answers_replicate_none (c := ⟨lead, found, p⟩) hgoal⟩
    | some q => exact ask_of_goal (c := ⟨lead, found, p⟩) hle hgoal
  · have all := @answers_older (ofRecords lead records) (ofRecords_bounded lead records) k
    rw [start] at all ⊢
    simpa only [n, List.take_length] using all
  · rw [here]
    exact get_of_lt (c := ⟨lead, found, p⟩) hlt
  · rw [here]
    exact newer_older (c := ⟨lead, found, p⟩) hpos hlt
  · have stays : place n behind p < n := place_lt behind hlt
    refine ⟨stays, ?_⟩
    rw [here, asked_eq (c := ⟨lead, found, p⟩) hle]
    exact get_of_lt (c := ⟨lead, found, place n behind p⟩) stays

/-- Back over the two matches among three records, and forth to the one that was left. -/
theorem asked_make :
    let old : Record := ⟨1, "make", .zero, "/"⟩
    let new : Record := ⟨3, "make test", .zero, "/"⟩
    let c := (ofRecords "make" [old, ⟨2, "ls", .zero, "/"⟩, new]).asked [.get, .newer, .older]
    c.position = 1 ∧ c.get = .ok new ∧ c.older = (.ok old, ⟨"make", [old, new], 0⟩) ∧
      c.older.2.newer = (.ok new, c) ∧ c.newer = (.error .noNewer, c) := by
  intro old new c
  have found : [old, ⟨2, "ls", .zero, "/"⟩, new].filter
      (fun r => decide ("make".toList <+: r.text.toList)) = [old, new] := by
    decide +kernel
  have whole := ofRecords_asked "make" [old, ⟨2, "ls", .zero, "/"⟩, new] [.get, .newer, .older]
  rw [found] at whole
  obtain ⟨here, -, each, -, on⟩ := whole
  obtain ⟨hget, hback, -⟩ := on (by decide)
  obtain ⟨_, hold⟩ := each .older
  obtain ⟨hnew, -⟩ := each .newer
  exact ⟨congrArg position here, hget, hold, hback (by decide), hnew⟩

end Cursor

end Promptline.History
