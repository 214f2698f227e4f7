import Mathlib.Data.List.Pairwise
import Mathlib.Data.List.Sort
import Mathlib.Tactic.Lemma

/-!
# Sorting by one key after another

Sorting a list stably by its last key, then by the one before, and so on to the first, sorts it by
all of them in their order (`sortBy`, `pairwise_sortBy`). A key is an order of the elements that is
total and transitive, but need not tell two elements apart (`KeyOrder`).

* `lexThen` is the order by a list of keys, and by a last order where all of them tie.
-/

namespace Mockdr

variable {α : Type*}

lemma rel_or_of_pairwise {S : α → α → Prop} {l : List α} (h : l.Pairwise S) {a b : α} (ha : a ∈ l)
    (hb : b ∈ l) (hne : a ≠ b) : S a b ∨ S b a := by
  have : Std.Symm fun a b => S a b ∨ S b a := ⟨fun _ _ => Or.symm⟩
  exact (h.imp Or.inl : l.Pairwise fun a b => S a b ∨ S b a).forall ha hb hne

lemma mem_take_iff_countP {S : α → α → Prop} [DecidableRel S] (hS : ∀ a b, S a b → ¬ S b a)
    {l : List α} (hl : l.Pairwise S) {a : α} (ha : a ∈ l) (n : ℕ) :
    a ∈ l.take n ↔ l.countP (S · a) < n := by
  induction l generalizing n with
  | nil => cases ha
  | cons b l ih =>
    obtain ⟨hb, hl⟩ := List.pairwise_cons.1 hl
    cases n with
    | zero => exact iff_of_false List.not_mem_nil (Nat.not_lt_zero _)
    | succ n =>
      rw [List.take_succ_cons, List.mem_cons, List.countP_cons]
      rcases List.mem_cons.1 ha with rfl | ha
      · have hnone : l.countP (S · a) = 0 :=
          List.countP_eq_zero.2 fun c hc h => hS a c (hb c hc) (of_decide_eq_true h)
        have hself : ¬ S a a := fun h => hS a a h h
        rw [hnone, if_neg (by rwa [decide_eq_true_eq])]
        exact iff_of_true (.inl rfl) (Nat.succ_pos n)
      · have hne : a ≠ b := fun h => hS a a (h ▸ hb a ha) (h ▸ hb a ha)
        rw [or_iff_right hne, if_pos (decide_eq_true (hb a ha)), ih hl ha, Nat.succ_lt_succ_iff]

/-- An order of the elements by one key. -/
structure KeyOrder (α : Type*) where
  le : α → α → Prop
  dec : DecidableRel le
  total : ∀ a b, le a b ∨ le b a
  trans : ∀ a b c, le a b → le b c → le a c

namespace KeyOrder

instance (o : KeyOrder α) : DecidableRel o.le := o.dec

/-- Sort by one key. Elements with the same key keep the order they had. -/
def sort (o : KeyOrder α) (l : List α) : List α := l.insertionSort o.le

lemma perm_sort (o : KeyOrder α) (l : List α) : (o.sort l).Perm l := List.perm_insertionSort o.le l

lemma sort_map {β : Type*} (o : KeyOrder α) (o' : KeyOrder β) (f : β → α)
    (h : ∀ a b, o'.le a b ↔ o.le (f a) (f b)) (l : List β) :
    o.sort (l.map f) = (o'.sort l).map f :=
  (List.map_insertionSort (r := o'.le) (s := o.le) f l fun a _ b _ => h a b).symm

/-- The order of the images. -/
def comap {β : Type*} (o : KeyOrder β) (f : α → β) : KeyOrder α where
  le a b := o.le (f a) (f b)
  dec a b := o.dec (f a) (f b)
  total a b := o.total (f a) (f b)
  trans a b c := o.trans (f a) (f b) (f c)

lemma insertionSort_eq_sort (o : KeyOrder α) {r : α → α → Prop} [DecidableRel r] {l : List α}
    (h : ∀ a ∈ l, ∀ b ∈ l, r a b ↔ o.le a b) : l.insertionSort r = o.sort l := by
  have hmap := List.map_insertionSort (r := r) (s := o.le) id l h
  rwa [List.map_id, List.map_id] at hmap

/-- The order by one key, and by `R` where it ties. -/
def andThen (o : KeyOrder α) (R : α → α → Prop) (a b : α) : Prop := o.le a b ∧ (o.le b a → R a b)

instance (o : KeyOrder α) (R : α → α → Prop) [DecidableRel R] : DecidableRel (o.andThen R) :=
  fun _ _ => inferInstanceAs (Decidable (_ ∧ (_ → _)))

/-- Of two elements that `R` orders, the one does not come before the other and behind it. -/
lemma andThen_asymm (o : KeyOrder α) {R : α → α → Prop} (hR : ∀ a b, R a b → ¬ R b a) (a b : α)
    (hab : o.andThen R a b) : ¬ o.andThen R b a :=
  fun hba => hR a b (hab.2 hba.1) (hba.2 hab.1)

lemma pairwise_orderedInsert (o : KeyOrder α) {R : α → α → Prop} {a : α} {l : List α}
    (ha : ∀ b ∈ l, R a b) (hl : l.Pairwise (o.andThen R)) :
    (l.orderedInsert o.le a).Pairwise (o.andThen R) := by
  induction l with
  | nil => exact List.pairwise_singleton _ a
  | cons b l ih =>
    obtain ⟨hb, hl'⟩ := List.pairwise_cons.1 hl
    rw [List.orderedInsert_cons]
    split_ifs with hab
    · refine List.pairwise_cons.2 ⟨?_, hl⟩
      intro c hc
      rcases List.mem_cons.1 hc with rfl | hc'
      · exact ⟨hab, fun _ => ha _ hc⟩
      · exact ⟨o.trans a b c hab (hb c hc').1, fun _ => ha c hc⟩
    · refine List.pairwise_cons.2 ⟨?_, ih (fun c hc => ha c (List.mem_cons_of_mem b hc)) hl'⟩
      intro c hc
      rcases (List.mem_orderedInsert _).1 hc with rfl | hc'
      · exact ⟨(o.total b c).resolve_right hab, fun h => absurd h hab⟩
      · exact hb c hc'

/-- Sorting a list by a key orders it by that key, and as it was where the key ties. -/
lemma pairwise_sort (o : KeyOrder α) {R : α → α → Prop} {l : List α} (h : l.Pairwise R) :
    (o.sort l).Pairwise (o.andThen R) := by
  induction l with
  | nil => exact List.Pairwise.nil
  | cons a l ih =>
    obtain ⟨ha, hl⟩ := List.pairwise_cons.1 h
    rw [sort, List.insertionSort_cons]
    refine o.pairwise_orderedInsert ?_ (ih hl)
    intro b hb
    exact ha b ((List.mem_insertionSort _).1 hb)

end KeyOrder

/-- Sort by the last key, then by the one before, and so on to the first. -/
def sortBy (keys : List (KeyOrder α)) (l : List α) : List α := keys.foldr KeyOrder.sort l

/-- The order by a list of keys, and by `R` where all of them tie. -/
def lexThen (keys : List (KeyOrder α)) (R : α → α → Prop) : α → α → Prop :=
  keys.foldr KeyOrder.andThen R

lemma perm_sortBy (keys : List (KeyOrder α)) (l : List α) : (sortBy keys l).Perm l := by
  induction keys with
  | nil => exact List.Perm.refl l
  | cons o keys ih => exact (o.perm_sort (sortBy keys l)).trans ih

/-- A list sorted by the keys, from the last to the first, is in their lexicographic order. -/
theorem pairwise_sortBy (keys : List (KeyOrder α)) {R : α → α → Prop} {l : List α}
    (h : l.Pairwise R) : (sortBy keys l).Pairwise (lexThen keys R) := by
  induction keys with
  | nil => exact h
  | cons o keys ih => exact o.pairwise_sort ih

end Mockdr
