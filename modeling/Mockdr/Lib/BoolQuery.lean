import Mathlib.Data.List.Forall2
import Mathlib.Tactic.Lemma

/-!
# Boolean queries

The syntax and the meaning of the boolean queries of a search engine, over any type `L` of leaves: a
query is read in an assignment `L → Bool` of truth values to its leaves (`eval`). A `bool` query
wants every clause of its `must` and `filter` arms, none of `mustNot`, and `required` many of
`should`.

* `height`, `size` and `leaves` are what a limit on nesting, a limit on the number of clauses and
  the set of leaves are about.
* `eval_congr`: a query depends on its own leaves only.
-/

namespace Mockdr

/-- A boolean query over leaves of type `L`. -/
inductive BoolQuery (L : Type*) where
  | all
  | leaf (l : L)
  | bool (must filter should mustNot : List (BoolQuery L)) (minimum : Option Int)
  | constantScore (filter : BoolQuery L)
  | disMax (queries : List (BoolQuery L))
  | boosting (positive : BoolQuery L)

namespace BoolQuery

variable {L : Type*}

/-- How many `should` clauses have to hold when nothing says how many: one, if there is nothing else
    to require. -/
def floor (must filter : List (BoolQuery L)) : Int :=
  if must.isEmpty && filter.isEmpty then 1 else 0

/-- How many `should` clauses have to hold: a minimum can raise the number, and never lowers it. -/
def required (must filter should : List (BoolQuery L)) (minimum : Option Int) : Int :=
  if should.isEmpty then 0 else max (floor must filter) (minimum.getD 0)

mutual

/-- Whether a query holds, given which leaves do. -/
def eval (holds : L → Bool) : BoolQuery L → Bool
  | .all => true
  | .leaf l => holds l
  | .bool must filter should mustNot minimum =>
    (evals holds must).all id && (evals holds filter).all id && !(evals holds mustNot).any id
      && decide (required must filter should minimum ≤ (evals holds should).count true)
  | .constantScore q => eval holds q
  | .disMax qs => (evals holds qs).any id
  | .boosting q => eval holds q

/-- `eval`, query by query. -/
def evals (holds : L → Bool) : List (BoolQuery L) → List Bool
  | [] => []
  | q :: qs => eval holds q :: evals holds qs

end

mutual

/-- How deep queries are nested under a query. -/
def height : BoolQuery L → Nat
  | .all => 0
  | .leaf _ => 0
  | .bool must filter should mustNot _ =>
    max (max (heights must) (heights filter)) (max (heights should) (heights mustNot))
  | .constantScore q => height q + 1
  | .disMax qs => heights qs
  | .boosting q => height q + 1

/-- How deep a list of queries is, counting the list as one level. -/
def heights : List (BoolQuery L) → Nat
  | [] => 0
  | q :: qs => max (height q + 1) (heights qs)

end

mutual

/-- How many clauses a query has, where a leaf counts for `extra` more than one. -/
def size (extra : L → Nat) : BoolQuery L → Nat
  | .all => 1
  | .leaf l => 1 + extra l
  | .bool must filter should mustNot _ =>
    1 + sizes extra must + sizes extra filter + sizes extra should + sizes extra mustNot
  | .constantScore q => 1 + size extra q
  | .disMax qs => 1 + sizes extra qs
  | .boosting q => 1 + size extra q

/-- How many clauses a list of queries has. -/
def sizes (extra : L → Nat) : List (BoolQuery L) → Nat
  | [] => 0
  | q :: qs => size extra q + sizes extra qs

end

mutual

/-- The leaves of a query. -/
def leaves : BoolQuery L → List L
  | .all => []
  | .leaf l => [l]
  | .bool must filter should mustNot _ =>
    leavesAll must ++ leavesAll filter ++ leavesAll should ++ leavesAll mustNot
  | .constantScore q => leaves q
  | .disMax qs => leavesAll qs
  | .boosting q => leaves q

/-- The leaves of a list of queries. -/
def leavesAll : List (BoolQuery L) → List L
  | [] => []
  | q :: qs => leaves q ++ leavesAll qs

end

lemma evals_eq_map (holds : L → Bool) (qs : List (BoolQuery L)) :
    evals holds qs = qs.map (eval holds) := by
  induction qs with
  | nil => rfl
  | cons q qs ih => rw [evals, ih, List.map_cons]

lemma heights_le_iff {n : Nat} {qs : List (BoolQuery L)} :
    heights qs ≤ n ↔ ∀ q ∈ qs, q.height < n := by
  induction qs with
  | nil => simp [heights]
  | cons q qs ih => rw [heights, Nat.max_le, ih, List.forall_mem_cons, Nat.succ_le_iff]

lemma size_pos (extra : L → Nat) (q : BoolQuery L) : 1 ≤ q.size extra := by
  cases q <;> simp only [size] <;> omega

/-- The meaning of a `bool` query: every `must` and `filter` clause, no `mustNot` clause, and at
    least the required number of `should` clauses. -/
lemma eval_bool_iff {holds : L → Bool} {must filter should mustNot : List (BoolQuery L)}
    {minimum : Option Int} :
    eval holds (.bool must filter should mustNot minimum) = true
      ↔ (∀ q ∈ must, q.eval holds = true) ∧ (∀ q ∈ filter, q.eval holds = true)
        ∧ (∀ q ∈ mustNot, q.eval holds = false)
        ∧ required must filter should minimum ≤ should.countP (fun q => q.eval holds) := by
  simp only [eval, evals_eq_map, Bool.and_eq_true, decide_eq_true_eq, List.all_map, List.any_map,
    List.all_eq_true, Bool.not_eq_true', Function.comp_apply, id, List.any_eq_false, and_assoc,
    Bool.not_eq_true, List.count, List.countP_map]
  have hc : should.countP ((fun x => x == true) ∘ eval holds)
      = should.countP fun q => q.eval holds := by
    apply List.countP_congr
    intro q _
    simp
  rw [hc]

mutual

/-- A query depends on its own leaves only. -/
lemma eval_congr {holds holds' : L → Bool} : ∀ (q : BoolQuery L),
    (∀ l ∈ q.leaves, holds l = holds' l) → q.eval holds = q.eval holds'
  | .all, _ => rfl
  | .leaf l, h => h l (List.mem_singleton_self l)
  | .bool must filter should mustNot minimum, h => by
    simp only [leaves, List.mem_append] at h
    rw [eval, eval, evals_congr must (fun l hl => h l (.inl (.inl (.inl hl)))),
      evals_congr filter (fun l hl => h l (.inl (.inl (.inr hl)))),
      evals_congr should (fun l hl => h l (.inl (.inr hl))),
      evals_congr mustNot (fun l hl => h l (.inr hl))]
  | .constantScore q, h => eval_congr q h
  | .disMax qs, h => by rw [eval, eval, evals_congr qs h]
  | .boosting q, h => eval_congr q h

lemma evals_congr {holds holds' : L → Bool} : ∀ (qs : List (BoolQuery L)),
    (∀ l ∈ leavesAll qs, holds l = holds' l) → evals holds qs = evals holds' qs
  | [], _ => rfl
  | q :: qs, h => by
    rw [evals, evals, eval_congr q (fun l hl => h l (List.mem_append_left _ hl)),
      evals_congr qs (fun l hl => h l (List.mem_append_right _ hl))]

end

mutual

lemma size_congr {extra extra' : L → Nat} : ∀ (q : BoolQuery L),
    (∀ l ∈ q.leaves, extra l = extra' l) → q.size extra = q.size extra'
  | .all, _ => rfl
  | .leaf l, h => by rw [size, size, h l (List.mem_singleton_self l)]
  | .bool must filter should mustNot minimum, h => by
    simp only [leaves, List.mem_append] at h
    rw [size, size, sizes_congr must (fun l hl => h l (.inl (.inl (.inl hl)))),
      sizes_congr filter (fun l hl => h l (.inl (.inl (.inr hl)))),
      sizes_congr should (fun l hl => h l (.inl (.inr hl))),
      sizes_congr mustNot (fun l hl => h l (.inr hl))]
  | .constantScore q, h => by rw [size, size, size_congr q h]
  | .disMax qs, h => by rw [size, size, sizes_congr qs h]
  | .boosting q, h => by rw [size, size, size_congr q h]

lemma sizes_congr {extra extra' : L → Nat} : ∀ (qs : List (BoolQuery L)),
    (∀ l ∈ leavesAll qs, extra l = extra' l) → sizes extra qs = sizes extra' qs
  | [], _ => rfl
  | q :: qs, h => by
    rw [sizes, sizes, size_congr q (fun l hl => h l (List.mem_append_left _ hl)),
      sizes_congr qs (fun l hl => h l (List.mem_append_right _ hl))]

end

end BoolQuery

end Mockdr
