import Mathlib.Data.List.Perm.Subperm
import Mockdr.Python

/-!
# JSON values: equality, hashes and members

`Json.eq` goes through the members of its first argument. Where no object names a member twice, as
what `json.loads` makes, it is symmetric (`Json.eq_comm_of_proper`).

* `eqFields_iff`: two objects are equal exactly when each member of the one is there in the other.
* `hashed` is what a value is found by in a set or a dictionary, `arg` a member of a body or what
  stands for it.
-/

namespace Mockdr

namespace Json

mutual

/-- No object in a value names a member twice. -/
def Proper : Json → Prop
  | .list xs => ProperList xs
  | .dict o => (o.map Prod.fst).Nodup ∧ ProperFields o
  | _ => True

/-- `Proper`, of every element. -/
def ProperList : List Json → Prop
  | [] => True
  | x :: xs => Proper x ∧ ProperList xs

/-- `Proper`, of every member. -/
def ProperFields : List (String × Json) → Prop
  | [] => True
  | (_, x) :: rest => Proper x ∧ ProperFields rest

end

lemma ProperFields.get {o : Object} (h : ProperFields o) {k : String} {v : Json}
    (hget : Assoc.get k o = some v) : v.Proper := by
  induction o with
  | nil => cases hget
  | cons p o ih =>
    rw [Assoc.get_cons] at hget
    split_ifs at hget
    · obtain rfl := Option.some.inj hget
      exact h.1
    · exact ih h.2 hget

/-- Each member of the first object is there in the second. -/
lemma eqFields_iff {a b : Object} :
    eqFields a b = true ↔ ∀ p ∈ a, ∃ y, Assoc.get p.1 b = some y ∧ eq p.2 y = true := by
  induction a with
  | nil => simp [eqFields]
  | cons p a ih =>
    rw [eqFields, Bool.and_eq_true, ih, List.forall_mem_cons]
    refine and_congr_left fun _ => ?_
    cases Assoc.get p.1 b with
    | none => simp
    | some y => simp

lemma eqFields_symm {a b : Object} (ha : (a.map Prod.fst).Nodup) (hb : (b.map Prod.fst).Nodup)
    (hlength : a.length = b.length)
    (h : ∀ p ∈ a, ∃ y, Assoc.get p.1 b = some y ∧ eq y p.2 = true) : eqFields b a = true := by
  have hsubset : a.map Prod.fst ⊆ b.map Prod.fst := by
    intro k hk
    obtain ⟨p, hp, rfl⟩ := List.mem_map.1 hk
    obtain ⟨y, hget, _⟩ := h p hp
    exact List.mem_map.2 ⟨(p.1, y), Assoc.mem_of_get hget, rfl⟩
  have hperm : (a.map Prod.fst).Perm (b.map Prod.fst) :=
    (ha.subperm hsubset).perm_of_length_le (by simp [hlength])
  rw [eqFields_iff]
  rintro ⟨k, y⟩ hy
  obtain ⟨⟨k', x⟩, hx, rfl⟩ := List.mem_map.1 (hperm.mem_iff.2 (List.mem_map_of_mem hy))
  obtain ⟨y', hget, heq⟩ := h _ hx
  rw [Assoc.get_of_mem hb hy] at hget
  obtain rfl := Option.some.inj hget
  exact ⟨x, Assoc.get_of_mem ha hx, heq⟩

mutual

lemma eq_symm : ∀ {v w : Json}, v.Proper → w.Proper → eq v w = true → eq w v = true
  | .null, w, _, _, h => by cases w <;> simp_all [eq]
  | .str s, w, _, _, h => by
    rw [str_eq_iff.1 h]
    simp [eq]
  | .list xs, .list ys, hx, hy, h => eqList_symm hx hy h
  | .dict a, .dict b, ha, hb, h => by
    rw [eq, Bool.and_eq_true, decide_eq_true_eq] at h ⊢
    exact ⟨h.1.symm, eqFields_symm ha.1 hb.1 h.1 (eq_members ha.2 hb.2 h.2)⟩
  | .bool a, w, _, _, h => by cases w <;> simp_all [eq, number]
  | .int a, w, _, _, h => by cases w <;> simp_all [eq, number]
  | .float a, w, _, _, h => by cases w <;> simp_all [eq, number]

lemma eqList_symm : ∀ {xs ys : List Json}, ProperList xs → ProperList ys → eqList xs ys = true →
    eqList ys xs = true
  | [], [], _, _, _ => rfl
  | x :: xs, y :: ys, hx, hy, h => by
    rw [eqList, Bool.and_eq_true] at h ⊢
    exact ⟨eq_symm hx.1 hy.1 h.1, eqList_symm hx.2 hy.2 h.2⟩

lemma eq_members : ∀ {a b : Object}, ProperFields a → ProperFields b → eqFields a b = true →
    ∀ p ∈ a, ∃ y, Assoc.get p.1 b = some y ∧ eq y p.2 = true
  | [], _, _, _, _ => by simp
  | (k, x) :: a, b, ha, hb, h => by
    have hall := eqFields_iff.1 h
    rintro p hp
    rcases List.mem_cons.1 hp with rfl | hp
    · obtain ⟨y, hget, heq⟩ := hall _ List.mem_cons_self
      exact ⟨y, hget, eq_symm ha.1 (hb.get hget) heq⟩
    · exact eq_members ha.2 hb
        (eqFields_iff.2 fun q hq => hall q (List.mem_cons_of_mem _ hq)) p hp

end

/-- Equality does not depend on the side. -/
lemma eq_comm_of_proper {v w : Json} (hv : v.Proper) (hw : w.Proper) : eq v w = eq w v := by
  rw [Bool.eq_iff_iff]
  exact ⟨eq_symm hv hw, eq_symm hw hv⟩

end Json

/-- What Python finds a value by; `1`, `1.0` and `True` are found by the same. -/
inductive Hash where
  | null
  | number (q : ℚ)
  | text (s : String)
  deriving DecidableEq

/-- The hash of a value, nothing where it has none. -/
def hashed : Json → Option Hash
  | .null => some .null
  | .bool b => some (.number (if b then 1 else 0))
  | .int n => some (.number n)
  | .float q => some (.number q)
  | .str s => some (.text s)
  | .list _ | .dict _ => none

/-- `data.get(name, default)` -/
def arg (data : Object) (name : String) (default : Json) : Json :=
  (Assoc.get name data).getD default

end Mockdr
