import Mathlib.Order.Lattice.Nat
import Mathlib.Tactic.Lemma

/-!
# Edit distance

How many elements have to be inserted, deleted and replaced to make one list of another.

* `Edit` is one change and `Edits` are several; `distance` is the fewest that are needed.
* `Aligned` lists have their elements against each other from the front, at a cost. What edits can
  do, an alignment can do at no higher cost, and the other way round (`distance_le_iff`); its
  constructors are the recurrence of the distance (`distance_cons_cons`).
* `Aligned.append` and `Aligned.split` put alignments together and cut them, and so a list that is
  near has each of its prefixes near to some prefix (`exists_prefix_of_distance_le`).
-/

namespace Mockdr.EditDistance

variable {α : Type*} {l r s : List α} {a b : α} {k m n : ℕ}

/-- One element is inserted, deleted or replaced. -/
inductive Edit : List α → List α → Prop
  | insert (l r : List α) (a : α) : Edit (l ++ r) (l ++ a :: r)
  | delete (l r : List α) (a : α) : Edit (l ++ a :: r) (l ++ r)
  | replace (l r : List α) (a b : α) : Edit (l ++ a :: r) (l ++ b :: r)

/-- Edits one after another, and their number. -/
inductive Edits : ℕ → List α → List α → Prop
  | refl (l : List α) : Edits 0 l l
  | step {n : ℕ} {l s r : List α} : Edit l s → Edits n s r → Edits (n + 1) l r

/-- The fewest edits that make one list of another. -/
noncomputable def distance (l r : List α) : ℕ := sInf {n | Edits n l r}

/-- Lists with their elements against each other, where each pair of different elements and each
    element with none against it costs 1. -/
inductive Aligned : List α → List α → ℕ → Prop
  | nil : Aligned [] [] 0
  | keep (a : α) {l r : List α} {n : ℕ} : Aligned l r n → Aligned (a :: l) (a :: r) n
  | replace (a b : α) {l r : List α} {n : ℕ} : Aligned l r n → Aligned (a :: l) (b :: r) (n + 1)
  | delete (a : α) {l r : List α} {n : ℕ} : Aligned l r n → Aligned (a :: l) r (n + 1)
  | insert (b : α) {l r : List α} {n : ℕ} : Aligned l r n → Aligned l (b :: r) (n + 1)

/-! ## Alignments -/

lemma Aligned.refl : ∀ l : List α, Aligned l l 0
  | [] => .nil
  | a :: l => .keep a (Aligned.refl l)

lemma aligned_nil_right : ∀ l : List α, Aligned l [] l.length
  | [] => .nil
  | a :: l => .delete a (aligned_nil_right l)

lemma aligned_nil_left : ∀ r : List α, Aligned [] r r.length
  | [] => .nil
  | b :: r => .insert b (aligned_nil_left r)

lemma Aligned.append {l' r' : List α} (h : Aligned l r m) (h' : Aligned l' r' n) :
    Aligned (l ++ l') (r ++ r') (m + n) := by
  induction h with
  | nil =>
    rw [Nat.zero_add]
    exact h'
  | keep a _ ih => exact .keep a ih
  | replace a b _ ih =>
    rw [Nat.add_right_comm]
    exact .replace a b ih
  | delete a _ ih =>
    rw [Nat.add_right_comm]
    exact .delete a ih
  | insert b _ ih =>
    rw [Nat.add_right_comm]
    exact .insert b ih

lemma exists_aligned (l r : List α) : ∃ n, Aligned l r n := by
  have h := (aligned_nil_right l).append (aligned_nil_left r)
  rw [List.append_nil, List.nil_append] at h
  exact ⟨_, h⟩

lemma Aligned.reverse (h : Aligned l r n) : Aligned l.reverse r.reverse n := by
  induction h with
  | nil => exact .nil
  | keep a _ ih =>
    rw [List.reverse_cons, List.reverse_cons]
    exact ih.append (.keep a .nil)
  | replace a b _ ih =>
    rw [List.reverse_cons, List.reverse_cons]
    exact ih.append (.replace a b .nil)
  | delete a _ ih =>
    rw [List.reverse_cons]
    have h := ih.append (.delete a .nil)
    rw [List.append_nil] at h
    exact h
  | insert b _ ih =>
    rw [List.reverse_cons]
    have h := ih.append (.insert b .nil)
    rw [List.append_nil] at h
    exact h

/-- An alignment is cut where the first list is. -/
lemma Aligned.split {l' : List α} (h : Aligned (l ++ l') r n) :
    ∃ q q' k k', r = q ++ q' ∧ n = k + k' ∧ Aligned l q k ∧ Aligned l' q' k' := by
  generalize hwhole : l ++ l' = whole at h
  induction h generalizing l with
  | nil =>
    obtain ⟨rfl, rfl⟩ := List.append_eq_nil_iff.1 hwhole
    exact ⟨[], [], 0, 0, rfl, rfl, .nil, .nil⟩
  | @keep a m r n h ih =>
    cases l with
    | nil =>
      rw [List.nil_append] at hwhole
      subst hwhole
      exact ⟨[], a :: r, 0, n, rfl, (Nat.zero_add n).symm, .nil, .keep a h⟩
    | cons c l =>
      obtain ⟨rfl, htail⟩ := List.cons.inj hwhole
      obtain ⟨q, q', k, k', rfl, rfl, hq, hq'⟩ := ih htail
      exact ⟨c :: q, q', k, k', rfl, rfl, .keep c hq, hq'⟩
  | @replace a b m r n h ih =>
    cases l with
    | nil =>
      rw [List.nil_append] at hwhole
      subst hwhole
      exact ⟨[], b :: r, 0, n + 1, rfl, (Nat.zero_add _).symm, .nil, .replace a b h⟩
    | cons c l =>
      obtain ⟨rfl, htail⟩ := List.cons.inj hwhole
      obtain ⟨q, q', k, k', rfl, rfl, hq, hq'⟩ := ih htail
      exact ⟨b :: q, q', k + 1, k', rfl, Nat.add_right_comm k k' 1, .replace c b hq, hq'⟩
  | @delete a m r n h ih =>
    cases l with
    | nil =>
      rw [List.nil_append] at hwhole
      subst hwhole
      exact ⟨[], r, 0, n + 1, rfl, (Nat.zero_add _).symm, .nil, .delete a h⟩
    | cons c l =>
      obtain ⟨rfl, htail⟩ := List.cons.inj hwhole
      obtain ⟨q, q', k, k', rfl, rfl, hq, hq'⟩ := ih htail
      exact ⟨q, q', k + 1, k', rfl, Nat.add_right_comm k k' 1, .delete c hq, hq'⟩
  | @insert b m r n h ih =>
    obtain ⟨q, q', k, k', rfl, rfl, hq, hq'⟩ := ih hwhole
    exact ⟨b :: q, q', k + 1, k', rfl, Nat.add_right_comm k k' 1, .insert b hq, hq'⟩

lemma Aligned.length_le (h : Aligned l r n) :
    l.length ≤ r.length + n ∧ r.length ≤ l.length + n := by
  induction h with
  | nil => exact ⟨Nat.le_refl 0, Nat.le_refl 0⟩
  | keep _ _ ih | replace _ _ _ ih | delete _ _ ih | insert _ _ ih =>
    simp only [List.length_cons]
    omega

/-! ## Alignments and edits -/

/-- What is aligned with a first element is aligned without it, at a cost that is higher by one at
    most. -/
lemma Aligned.tail (h : Aligned (a :: l) r n) : ∃ k ≤ n + 1, Aligned l r k := by
  generalize hwhole : a :: l = whole at h
  induction h with
  | nil => exact nomatch hwhole
  | @keep c m r n h ih =>
    obtain ⟨rfl, rfl⟩ := List.cons.inj hwhole
    exact ⟨n + 1, Nat.le_refl _, .insert a h⟩
  | @replace c b m r n h ih =>
    obtain ⟨rfl, rfl⟩ := List.cons.inj hwhole
    exact ⟨n + 1, Nat.le_succ _, .insert b h⟩
  | @delete c m r n h ih =>
    obtain ⟨rfl, rfl⟩ := List.cons.inj hwhole
    exact ⟨n, by omega, h⟩
  | @insert b m r n h ih =>
    obtain ⟨k, hk, haligned⟩ := ih hwhole
    exact ⟨k + 1, Nat.succ_le_succ hk, .insert b haligned⟩

/-- What is aligned with a first element is aligned with another in its place, at a cost that is
    higher by one at most. -/
lemma Aligned.replaceHead (h : Aligned (a :: l) r n) (b : α) : ∃ k ≤ n + 1,
    Aligned (b :: l) r k := by
  generalize hwhole : a :: l = whole at h
  induction h with
  | nil => exact nomatch hwhole
  | @keep c m r n h ih =>
    obtain ⟨rfl, rfl⟩ := List.cons.inj hwhole
    exact ⟨n + 1, Nat.le_refl _, .replace b a h⟩
  | @replace c d m r n h ih =>
    obtain ⟨rfl, rfl⟩ := List.cons.inj hwhole
    exact ⟨n + 1, Nat.le_succ _, .replace b d h⟩
  | @delete c m r n h ih =>
    obtain ⟨rfl, rfl⟩ := List.cons.inj hwhole
    exact ⟨n + 1, Nat.le_succ _, .delete b h⟩
  | @insert d m r n h ih =>
    obtain ⟨k, hk, haligned⟩ := ih hwhole
    exact ⟨k + 1, Nat.succ_le_succ hk, .insert d haligned⟩

lemma Edit.aligned (h : Edit l s) (hs : Aligned s r n) : ∃ k ≤ n + 1, Aligned l r k := by
  cases h with
  | insert x y a =>
    obtain ⟨q, q', k, k', rfl, rfl, hq, hq'⟩ := hs.split
    obtain ⟨k'', hk'', haligned⟩ := hq'.tail
    exact ⟨k + k'', by omega, hq.append haligned⟩
  | delete x y a =>
    obtain ⟨q, q', k, k', rfl, rfl, hq, hq'⟩ := hs.split
    exact ⟨k + (k' + 1), Nat.le_refl _, hq.append (.delete a hq')⟩
  | replace x y a b =>
    obtain ⟨q, q', k, k', rfl, rfl, hq, hq'⟩ := hs.split
    obtain ⟨k'', hk'', haligned⟩ := hq'.replaceHead a
    exact ⟨k + k'', by omega, hq.append haligned⟩

lemma Edits.aligned (h : Edits n l r) : ∃ k ≤ n, Aligned l r k := by
  induction h with
  | refl l => exact ⟨0, Nat.le_refl 0, .refl l⟩
  | step hedit _ ih =>
    obtain ⟨k, hk, haligned⟩ := ih
    obtain ⟨k', hk', haligned'⟩ := hedit.aligned haligned
    exact ⟨k', by omega, haligned'⟩

/-- Behind a further element the same edits can be made. -/
lemma Edits.cons (a : α) (h : Edits n l r) : Edits n (a :: l) (a :: r) := by
  induction h with
  | refl l => exact .refl (a :: l)
  | step hedit _ ih =>
    refine .step ?_ ih
    cases hedit with
    | insert x y c => exact .insert (a :: x) y c
    | delete x y c => exact .delete (a :: x) y c
    | replace x y c d => exact .replace (a :: x) y c d

/-- An alignment is made by as many edits as it costs. -/
lemma Aligned.edits (h : Aligned l r n) : Edits n l r := by
  induction h with
  | nil => exact .refl []
  | keep a _ ih => exact ih.cons a
  | replace a b _ ih => exact .step (.replace [] _ a b) (ih.cons b)
  | delete a _ ih => exact .step (.delete [] _ a) ih
  | insert b _ ih => exact .step (.insert [] _ b) (ih.cons b)

/-! ## The distance -/

/-- The distance is the lowest cost of an alignment. -/
lemma distance_le_iff : distance l r ≤ n ↔ ∃ k ≤ n, Aligned l r k := by
  constructor
  · intro h
    obtain ⟨m, hm⟩ := exists_aligned l r
    have hleast : distance l r ∈ {n | Edits n l r} := Nat.sInf_mem ⟨m, hm.edits⟩
    obtain ⟨k, hk, haligned⟩ := Edits.aligned hleast
    exact ⟨k, hk.trans h, haligned⟩
  · rintro ⟨k, hk, haligned⟩
    exact (Nat.sInf_le haligned.edits).trans hk

lemma Aligned.distance_le (h : Aligned l r n) : distance l r ≤ n :=
  distance_le_iff.2 ⟨n, Nat.le_refl n, h⟩

lemma aligned_distance (l r : List α) : Aligned l r (distance l r) := by
  obtain ⟨k, hk, h⟩ := distance_le_iff.1 (Nat.le_refl (distance l r))
  obtain rfl := Nat.le_antisymm hk h.distance_le
  exact h

lemma distance_reverse (l r : List α) : distance l.reverse r.reverse = distance l r := by
  refine Nat.le_antisymm (aligned_distance l r).reverse.distance_le ?_
  have h := (aligned_distance l.reverse r.reverse).reverse
  rw [List.reverse_reverse, List.reverse_reverse] at h
  exact h.distance_le

lemma distance_nil_left (r : List α) : distance [] r = r.length := by
  refine Nat.le_antisymm (aligned_nil_left r).distance_le ?_
  have h := (aligned_distance [] r).length_le.2
  rw [List.length_nil, Nat.zero_add] at h
  exact h

lemma distance_nil_right (l : List α) : distance l [] = l.length := by
  refine Nat.le_antisymm (aligned_nil_right l).distance_le ?_
  have h := (aligned_distance l []).length_le.1
  rw [List.length_nil, Nat.zero_add] at h
  exact h

/-- The recurrence of the distance. -/
lemma distance_cons_cons [DecidableEq α] (a b : α) (l r : List α) :
    distance (a :: l) (b :: r)
      = min (min (distance l (b :: r) + 1) (distance (a :: l) r + 1))
        (distance l r + if a ≠ b then 1 else 0) := by
  apply Nat.le_antisymm
  · refine Nat.le_min.2 ⟨Nat.le_min.2 ⟨?_, ?_⟩, ?_⟩
    · exact (Aligned.delete a (aligned_distance l (b :: r))).distance_le
    · exact (Aligned.insert b (aligned_distance (a :: l) r)).distance_le
    · by_cases hab : a = b
      · subst hab
        rw [if_neg (not_not.2 rfl)]
        exact (Aligned.keep a (aligned_distance l r)).distance_le
      · rw [if_pos hab]
        exact (Aligned.replace a b (aligned_distance l r)).distance_le
  · generalize hn : distance (a :: l) (b :: r) = n
    have h := aligned_distance (a :: l) (b :: r)
    rw [hn] at h
    cases h with
    | keep _ h =>
      rw [if_neg (not_not.2 rfl)]
      exact (Nat.min_le_right _ _).trans h.distance_le
    | @replace _ _ _ _ m h =>
      refine (Nat.min_le_right _ _).trans (Nat.add_le_add h.distance_le ?_)
      split_ifs
      · exact Nat.le_refl 1
      · exact Nat.zero_le 1
    | @delete _ _ _ m h =>
      exact ((Nat.min_le_left _ _).trans (Nat.min_le_left _ _)).trans
        (Nat.succ_le_succ h.distance_le)
    | @insert _ _ _ m h =>
      exact ((Nat.min_le_left _ _).trans (Nat.min_le_right _ _)).trans
        (Nat.succ_le_succ h.distance_le)

/-- Where two lists are near, each prefix of the first is near to some prefix of the second. -/
lemma exists_prefix_of_distance_le (h : distance (l ++ s) r ≤ n) :
    ∃ q q', r = q ++ q' ∧ distance l q ≤ n := by
  obtain ⟨k, hk, haligned⟩ := distance_le_iff.1 h
  obtain ⟨q, q', m, m', rfl, rfl, hq, -⟩ := haligned.split
  exact ⟨q, q', rfl, hq.distance_le.trans (by omega)⟩

lemma length_le_of_distance_le (h : distance l r ≤ n) :
    l.length ≤ r.length + n ∧ r.length ≤ l.length + n := by
  obtain ⟨k, hk, haligned⟩ := distance_le_iff.1 h
  have hlen := haligned.length_le
  omega

end Mockdr.EditDistance
