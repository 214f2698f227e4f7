import Mathlib.Data.List.MinMax
import Mockdr.Lib.EditDistance

/-!
# Edit distance under a cap

`_edit_distance` (`utils/es_query.py`), which a `fuzzy` clause compares terms by. The distances of
the prefixes of one text from those of the other are computed row by row, and no further once a
whole row is past the cap.

* `nextRow` is the inner loop and `editRows` the outer one.
* `costs` are the distances that a row stands for: the row of a prefix is computed from that of the
  one before (`nextRow_eq`), and all the rows from the first (`editRows_le_iff`).
* `editDistance_le_iff`: whether the result is past the cap is whether the distance is.
-/

namespace Mockdr.Elastic

open EditDistance

/-! ## The loops -/

/-- The inner loop of `_edit_distance`: what is appended to `current`, whose last element is `last`,
    for the rest of `right`; `previous` is the row above from the cell above `last`. -/
def nextRow (lc : Char) (last : Nat) : List Char → List Nat → List Nat
  | rc :: right, diagonal :: above :: previous =>
    let cell := min (min (above + 1) (last + 1)) (diagonal + if lc ≠ rc then 1 else 0)
    cell :: nextRow lc cell right (above :: previous)
  | _, _ => []

/-- The outer loop of `_edit_distance`, from the `i`th character of `left`. -/
def editRows (cap : Nat) (right : List Char) : Nat → List Nat → List Char → Nat
  | _, previous, [] => previous.getLastD 0
  | i, previous, lc :: left =>
    let current := i :: nextRow lc i right previous
    if current.min?.any (cap < ·) then cap + 1 else editRows cap right (i + 1) current left

/-- `_edit_distance` -/
def editDistance (left right : String) (cap : Nat) : Nat :=
  if cap < left.length - right.length ∨ cap < right.length - left.length then cap + 1
  else editRows cap right.toList 1 (List.range (right.length + 1)) left.toList

/-! ## The rows -/

/-- The distances of `l` from the prefixes of a text, of which `q` has been read and `right` is to
    come. The last character read is the first of `l` and of `q`. -/
noncomputable def costs (l q : List Char) : List Char → List Nat
  | [] => [distance l q]
  | rc :: right => distance l q :: costs l (rc :: q) right

lemma head_costs (l q right : List Char) :
    ∃ rest, costs l q right = distance l q :: rest := by
  cases right with
  | nil => exact ⟨_, rfl⟩
  | cons rc right => exact ⟨_, rfl⟩

lemma costs_nil (q right : List Char) :
    costs [] q right = List.range' q.length (right.length + 1) := by
  induction right generalizing q with
  | nil =>
    rw [costs, distance_nil_left]
    rfl
  | cons rc right ih =>
    rw [costs, distance_nil_left, ih]
    rfl

/-- A row is computed from the one above. -/
lemma nextRow_eq (lc : Char) (l q right : List Char) :
    distance (lc :: l) q :: nextRow lc (distance (lc :: l) q) right (costs l q right)
      = costs (lc :: l) q right := by
  induction right generalizing q with
  | nil => rfl
  | cons rc right ih =>
    obtain ⟨rest, hrest⟩ := head_costs l (rc :: q) right
    have hcell := distance_cons_cons lc rc l q
    rw [costs, costs, hrest, nextRow, ← hcell, ← hrest, ih]

/-- The distances in a row are those from the prefixes. -/
lemma mem_costs {l q right : List Char} {n : Nat} :
    n ∈ costs l q right ↔ ∃ p s, right = p ++ s ∧ n = distance l (p.reverse ++ q) := by
  induction right generalizing q with
  | nil =>
    rw [costs, List.mem_singleton]
    constructor
    · intro h
      exact ⟨[], [], rfl, h⟩
    · rintro ⟨p, s, hnil, h⟩
      obtain ⟨rfl, rfl⟩ := List.append_eq_nil_iff.1 hnil.symm
      exact h
  | cons rc right ih =>
    rw [costs, List.mem_cons, ih]
    constructor
    · rintro (h | ⟨p, s, rfl, h⟩)
      · exact ⟨[], rc :: right, rfl, h⟩
      · refine ⟨rc :: p, s, rfl, ?_⟩
        rw [List.reverse_cons, List.append_assoc]
        exact h
    · rintro ⟨p, s, hright, h⟩
      cases p with
      | nil => exact .inl h
      | cons c p =>
        obtain ⟨rfl, htail⟩ := List.cons.inj hright
        rw [List.reverse_cons, List.append_assoc] at h
        exact .inr ⟨p, s, htail, h⟩

lemma getLastD_costs (l q right : List Char) :
    (costs l q right).getLastD 0 = distance l (right.reverse ++ q) := by
  induction right generalizing q with
  | nil => rfl
  | cons rc right ih =>
    obtain ⟨rest, hrest⟩ := head_costs l (rc :: q) right
    have hlast := ih (rc :: q)
    rw [hrest] at hlast
    rw [costs, hrest, List.reverse_cons, List.append_assoc]
    exact hlast

lemma min_costs_gt_iff {cap : Nat} {l right : List Char} :
    (costs l [] right).min?.any (cap < ·) = true
      ↔ ∀ p s, right = p ++ s → cap < distance l p.reverse := by
  obtain ⟨rest, hrest⟩ := head_costs l [] right
  have hsome : ∃ n, (costs l [] right).min? = some n := by
    rw [hrest]
    exact ⟨_, rfl⟩
  obtain ⟨n, hn⟩ := hsome
  have hleast : cap + 1 ≤ n ↔ ∀ b ∈ costs l [] right, cap + 1 ≤ b :=
    List.le_min?_iff hn
  rw [hn, Option.any_some, decide_eq_true_eq, Nat.lt_iff_add_one_le, hleast]
  constructor
  · intro h p s hright
    refine h _ (mem_costs.2 ⟨p, s, hright, ?_⟩)
    rw [List.append_nil]
  · intro h b hb
    obtain ⟨p, s, hright, rfl⟩ := mem_costs.1 hb
    rw [List.append_nil]
    exact h p s hright

/-- From the row of a prefix on, the result is past the cap exactly when the distance is. -/
lemma editRows_le_iff (cap : Nat) (right read left : List Char) :
    editRows cap right (read.length + 1) (costs read.reverse [] right) left ≤ cap
      ↔ distance (read ++ left) right ≤ cap := by
  induction left generalizing read with
  | nil =>
    rw [editRows, getLastD_costs, List.append_nil, List.append_nil, distance_reverse]
  | cons lc left ih =>
    have hfirst : distance (lc :: read.reverse) [] = read.length + 1 := by
      rw [distance_nil_right, List.length_cons, List.length_reverse]
    have hrow := nextRow_eq lc read.reverse [] right
    rw [hfirst] at hrow
    have hread : (read ++ [lc]).reverse = lc :: read.reverse := List.reverse_concat ..
    have hwhole : read ++ lc :: left = (read ++ [lc]) ++ left := List.append_cons ..
    have hnext := ih (read ++ [lc])
    rw [hread, List.length_append, List.length_singleton] at hnext
    rw [editRows, hrow, hwhole]
    by_cases hpast : (costs (lc :: read.reverse) [] right).min?.any (cap < ·) = true
    · -- no prefix of `right` is near to what has been read, and so `right` is not near to `left`
      have hfar : ¬ distance (read ++ [lc] ++ left) right ≤ cap := by
        intro hle
        obtain ⟨q, q', hright, hq⟩ := exists_prefix_of_distance_le hle
        have h := min_costs_gt_iff.1 hpast q q' hright
        rw [← hread, distance_reverse] at h
        omega
      simp only [hpast, if_true]
      exact iff_of_false (Nat.not_succ_le_self cap) hfar
    · simp only [hpast, if_neg Bool.false_ne_true]
      exact hnext

/-- The result is within the cap exactly when the Levenshtein distance is. -/
theorem editDistance_le_iff (left right : String) (cap : Nat) :
    editDistance left right cap ≤ cap ↔ distance left.toList right.toList ≤ cap := by
  rw [editDistance]
  split_ifs with hlength
  · refine iff_of_false (Nat.not_succ_le_self cap) ?_
    intro hle
    have hlen := length_le_of_distance_le hle
    rw [String.length_toList, String.length_toList] at hlen
    omega
  · have hrow : List.range (right.length + 1) = costs [] [] right.toList := by
      rw [costs_nil, String.length_toList]
      exact List.range_eq_range'
    rw [hrow]
    exact editRows_le_iff cap right.toList [] left.toList

end Mockdr.Elastic
