import Mathlib.Data.Prod.Lex
import Mathlib.Data.String.Basic
import Mockdr.Builtins
import Mockdr.Lib.StableSort

/-!
# Sorting by tuples

`sorted(records, key=key, reverse=descending)` for keys that are tuples of a class, a number and a
text, which is how the lists of several products are sorted.

* `TupleKey` is such a key, and `pySorted` the sort. What it makes of a key with a NaN in it, which
  compares to nothing, is a parameter.
* `SortedLast` is a list in the order of its values, those that have none at the end, and ties as
  they were.
* `sortedLast_pySorted_iff`: `reverse` reverses the order of the classes, too.
-/

namespace Mockdr

/-- Where a float stands among the others. -/
def PyFloat.rank : PyFloat → ℤ ×ₗ ℚ
  | .negInf => toLex (-1, 0)
  | .finite q => toLex (0, q)
  | .posInf => toLex (1, 0)
  | .nan => toLex (2, 0)

/-- A key of a sort: a tuple of a class, a number and a text. -/
structure TupleKey where
  kind : ℕ
  number : PyFloat
  text : String
  deriving DecidableEq

/-- Where a key stands among the others. -/
def TupleKey.rank (k : TupleKey) : ℕ ×ₗ (ℤ ×ₗ ℚ) ×ₗ String :=
  toLex (k.kind, toLex (k.number.rank, k.text))

variable {α : Type}

/-- The order by a key, upwards or downwards. -/
def tupleOrder (key : α → TupleKey) (reverse : Bool) : KeyOrder α where
  le a b := if reverse then (key b).rank ≤ (key a).rank else (key a).rank ≤ (key b).rank
  dec _ _ := inferInstance
  total a b := by
    split_ifs
    · exact le_total _ _
    · exact le_total _ _
  trans a b c := by
    split_ifs
    · exact fun h h' => le_trans h' h
    · exact le_trans

/-- The positions in which `sorted` leaves records by their keys if one of these has a NaN. -/
abbrev NanOrder := List TupleKey → Bool → List ℕ

/-- `sorted(records, key=key, reverse=reverse)` -/
def pySorted (nanOrder : NanOrder) (key : α → TupleKey) (reverse : Bool) (records : List α) :
    List α :=
  if records.any fun r => (key r).number = .nan then
    (nanOrder (records.map key) reverse).filterMap fun i => records[i]?
  else (tupleOrder key reverse).sort records

/-! ## What a sort is for -/

/-- What may stand in front of what: values in their order, and then what has none. -/
def missingLast {ρ : Type} [LE ρ] (descending : Bool) : Option ρ → Option ρ → Prop
  | some a, some b => if descending then b ≤ a else a ≤ b
  | _, none => True
  | none, some _ => False

/-- Some records sorted by the places of their values, those without a value at the end; those that
    tie are in the order, any order, that they were in. -/
structure SortedLast {ρ : Type} [LE ρ] (place : α → Option ρ) (descending : Bool)
    (records sorted : List α) : Prop where
  perm : sorted.Perm records
  ordered : ∀ R : α → α → Prop, records.Pairwise R → sorted.Pairwise fun a b =>
    missingLast descending (place a) (place b)
        ∧ (missingLast descending (place b) (place a) → R a b)

/-- The place of a key, none for one of the last class. -/
def TupleKey.place (last : ℕ) (k : TupleKey) : Option (ℕ ×ₗ (ℤ ×ₗ ℚ) ×ₗ String) :=
  if k.kind = last then none else some k.rank

/-- Keys of which those of the last class are the same. -/
def LastClass (last : ℕ) (key : α → TupleKey) (records : List α) : Prop :=
  ∀ r ∈ records, (key r).kind ≤ last
    ∧ ((key r).kind = last → key r = ⟨last, .finite 0, ""⟩)

variable {last : ℕ} {key : α → TupleKey} {reverse : Bool} {records : List α} {nanOrder : NanOrder}

lemma rank_lt_of_kind_lt {k k' : TupleKey} (h : k.kind < k'.kind) : k.rank < k'.rank :=
  Prod.Lex.toLex_lt_toLex.2 (.inl h)

lemma PyFloat.rank_injective : Function.Injective PyFloat.rank := by
  intro x y h
  have h := congrArg ofLex h
  cases x <;> cases y <;> simp_all [PyFloat.rank]

/-- `<` of numbers other than NaN. -/
lemma PyFloat.lt_iff_rank {x y : PyFloat} (hx : x ≠ .nan) (hy : y ≠ .nan) :
    x.lt y = true ↔ x.rank < y.rank := by
  cases x <;> cases y <;> simp_all [PyFloat.lt, PyFloat.rank, Prod.Lex.toLex_lt_toLex]

lemma RangeOp.holds_eq_between {x y : PyFloat} (hx : x ≠ .nan) (hy : y ≠ .nan) (op : RangeOp) :
    op.holds x y = op.between x.rank y.rank := by
  have hlt : ∀ {u v : PyFloat}, u ≠ .nan → v ≠ .nan → u.lt v = decide (u.rank < v.rank) :=
    fun hu hv => Bool.eq_iff_iff.2 ((PyFloat.lt_iff_rank hu hv).trans decide_eq_true_iff.symm)
  have heq : x.eq y = decide (x.rank = y.rank) := by
    rw [PyFloat.eq, decide_eq_true hx, Bool.true_and, decide_eq_decide]
    exact PyFloat.rank_injective.eq_iff.symm
  have hle : ∀ a b : ℤ ×ₗ ℚ, (decide (a < b) || decide (a = b)) = !decide (b < a) := by
    intro a b
    rw [← Bool.decide_or, ← decide_not, decide_eq_decide, ← le_iff_lt_or_eq, not_lt]
  cases op with
  | gte =>
    rw [RangeOp.holds, RangeOp.between, hlt hy hx, heq, ← hle, decide_eq_decide.2 eq_comm]
  | lte => rw [RangeOp.holds, RangeOp.between, hlt hx hy, heq, hle]
  | gt => exact hlt hy hx
  | lt => exact hlt hx hy

lemma TupleKey.rank_injective : Function.Injective TupleKey.rank := by
  rintro ⟨kind, number, text⟩ ⟨kind', number', text'⟩ h
  obtain ⟨hkind, hrest⟩ := Prod.ext_iff.1 (congrArg ofLex h)
  obtain ⟨hnumber, htext⟩ := Prod.ext_iff.1 (congrArg ofLex hrest)
  rw [TupleKey.mk.injEq]
  exact ⟨hkind, PyFloat.rank_injective hnumber, htext⟩

/-- The order of the keys is the order of their places, unless one of the last class is sorted
    downwards among others. -/
lemma tupleOrder_le_iff {a b : α}
    (ha : (key a).kind ≤ last ∧ ((key a).kind = last → key a = ⟨last, .finite 0, ""⟩))
    (hb : (key b).kind ≤ last ∧ ((key b).kind = last → key b = ⟨last, .finite 0, ""⟩))
    (h : reverse = false ∨ ((key a).kind = last ↔ (key b).kind = last)) :
    (tupleOrder key reverse).le a b
      ↔ missingLast reverse ((key a).place last) ((key b).place last) := by
  simp only [tupleOrder, TupleKey.place]
  by_cases hla : (key a).kind = last
  · by_cases hlb : (key b).kind = last
    · rw [if_pos hla, if_pos hlb, ha.2 hla, hb.2 hlb]
      exact iff_of_true (by split_ifs <;> exact le_refl _) trivial
    · obtain rfl := h.resolve_right fun h => hlb (h.1 hla)
      rw [if_pos hla, if_neg hlb]
      refine iff_of_false ?_ id
      have hlt : (key b).rank < (key a).rank :=
        rank_lt_of_kind_lt (by rw [hla]; exact lt_of_le_of_ne hb.1 hlb)
      exact not_le.2 hlt
  · by_cases hlb : (key b).kind = last
    · obtain rfl := h.resolve_right fun h => hla (h.2 hlb)
      rw [if_neg hla, if_pos hlb]
      refine iff_of_true ?_ trivial
      have hlt : (key a).rank < (key b).rank :=
        rank_lt_of_kind_lt (by rw [hlb]; exact lt_of_le_of_ne ha.1 hla)
      exact hlt.le
    · rw [if_neg hla, if_neg hlb]
      exact Iff.rfl

/-- The sort puts what has no value at the end exactly if it sorts upwards, or if all records have a
    value, or none. -/
lemma sortedLast_pySorted_iff (hlast : LastClass last key records)
    (hnan : ∀ r ∈ records, (key r).number ≠ .nan) :
    SortedLast (fun r => (key r).place last) reverse records (pySorted nanOrder key reverse records)
      ↔ reverse = false ∨ (∀ r ∈ records, (key r).kind ≠ last)
        ∨ ∀ r ∈ records, (key r).kind = last := by
  have hsort : pySorted nanOrder key reverse records = (tupleOrder key reverse).sort records := by
    refine if_neg ?_
    simpa using hnan
  have hmem : ∀ {r}, r ∈ (tupleOrder key reverse).sort records ↔ r ∈ records :=
    (KeyOrder.perm_sort _ _).mem_iff
  rw [hsort]
  constructor
  · rintro ⟨-, hordered⟩
    by_contra hnot
    obtain ⟨hreverse, hnot⟩ := not_or.1 hnot
    obtain ⟨hsome, hnone⟩ := not_or.1 hnot
    simp only [not_forall, not_not] at hsome hnone
    obtain ⟨m, hm, hmissing⟩ := hsome
    obtain ⟨p, hp, hpresent⟩ := hnone
    have hdown : reverse = true := Bool.eq_true_of_not_eq_false hreverse
    have hlt : (key p).rank < (key m).rank := by
      refine rank_lt_of_kind_lt ?_
      rw [hmissing]
      exact lt_of_le_of_ne (hlast p hp).1 hpresent
    have htrivial : records.Pairwise fun _ _ => True := List.pairwise_of_forall fun _ _ => trivial
    have hpairs := ((tupleOrder key reverse).pairwise_sort htrivial).and (hordered _ htrivial)
    have hne : m ≠ p := by
      rintro rfl
      exact hpresent hmissing
    -- in front of the record that has a value stands the one that has none
    rcases rel_or_of_pairwise hpairs (hmem.2 hm) (hmem.2 hp) hne with h | h
    · have hfalse := h.2.1
      simp only [TupleKey.place, if_pos hmissing, if_neg hpresent, missingLast] at hfalse
    · have hle := h.1.1
      simp only [tupleOrder, hdown, if_true] at hle
      exact absurd hle (not_le.2 hlt)
  · intro h
    refine ⟨KeyOrder.perm_sort _ _, fun R hR => ?_⟩
    refine ((tupleOrder key reverse).pairwise_sort hR).imp_of_mem fun {a b} ha hb hab => ?_
    have hsame : reverse = false ∨ ((key a).kind = last ↔ (key b).kind = last) := by
      rcases h with h | h | h
      · exact .inl h
      · exact .inr (iff_of_false (h a (hmem.1 ha)) (h b (hmem.1 hb)))
      · exact .inr (iff_of_true (h a (hmem.1 ha)) (h b (hmem.1 hb)))
    have hla := hlast a (hmem.1 ha)
    have hlb := hlast b (hmem.1 hb)
    rw [← tupleOrder_le_iff hla hlb hsame, ← tupleOrder_le_iff hlb hla (hsame.imp_right Iff.symm)]
    exact hab

/-! ## Values as keys -/

section

variable (py : NumberPython)

/-- The key that the lists of S1 and of Cortex are sorted by: numbers, anything else by its text,
    and then what is missing. Nothing where `float` raises an `OverflowError`. -/
def floatKey : Json → Option TupleKey
  | .null => some ⟨2, .finite 0, ""⟩
  | .bool b => some ⟨0, .finite (if b then 1 else 0), ""⟩
  | .int n => (py.ofInt n).map fun x => ⟨0, x, ""⟩
  | .float q => some ⟨0, .finite q, ""⟩
  | .str s => match py.float s with
    | some x => some ⟨0, x, ""⟩
    | none => some ⟨1, .finite 0, s⟩
  | v => some ⟨1, .finite 0, py.toStr v⟩

/-- The key of a record, by a field. -/
def recordKey (field : String) (r : Json) : TupleKey :=
  (floatKey py (getNested py.toPython r field)).getD ⟨2, .finite 0, ""⟩

/-- Sort records by a field; nothing where the key of one raises. -/
def sortByField (nanOrder : NanOrder) (field : String) (descending : Bool) (records : List Json) :
    Option (List Json) :=
  if records.any fun r => (floatKey py (getNested py.toPython r field)).isNone then none
  else some (pySorted nanOrder (recordKey py field) descending records)

/-- No value of a field is a NaN, which has no place in an order. -/
def NoNan (field : String) (records : List Json) : Prop :=
  ∀ r ∈ records, (recordKey py field r).number ≠ .nan

/-- Records sorted by the values of a field: numbers, anything else by its text, and at the end the
    records that lack the field. -/
abbrev SortedBy (field : String) (descending : Bool) (records sorted : List Json) : Prop :=
  SortedLast (fun r => (recordKey py field r).place 2) descending records sorted

/-- What a sort by a field needs: every integer fits into a float, and nothing is missing that would
    come first. -/
structure Sortable (field : String) (descending : Bool) (records : List Json) : Prop where
  fits : ∀ r ∈ records, floatKey py (getNested py.toPython r field) ≠ none
  missing : descending = false ∨ (∀ r ∈ records, getNested py.toPython r field ≠ .null)
    ∨ ∀ r ∈ records, getNested py.toPython r field = .null

end

variable {py : NumberPython} {field : String} {descending : Bool} {records : List Json}

lemma floatKey_kind {v : Json} {k : TupleKey} (h : floatKey py v = some k) :
    k.kind ≤ 2 ∧ (k.kind = 2 → k = ⟨2, .finite 0, ""⟩) ∧ (k.kind = 2 ↔ v = .null) := by
  cases v with
  | null =>
    obtain rfl := Option.some.inj h
    exact ⟨le_refl 2, fun _ => rfl, iff_of_true rfl rfl⟩
  | int n =>
    obtain ⟨x, -, rfl⟩ := Option.map_eq_some_iff.1 h
    exact ⟨Nat.zero_le 2, nofun, iff_of_false nofun nofun⟩
  | str s =>
    rw [floatKey] at h
    split at h
    · obtain rfl := Option.some.inj h
      exact ⟨Nat.zero_le 2, nofun, iff_of_false nofun nofun⟩
    · obtain rfl := Option.some.inj h
      exact ⟨Nat.le_succ 1, nofun, iff_of_false nofun nofun⟩
  | bool b =>
    obtain rfl := Option.some.inj h
    exact ⟨Nat.zero_le 2, nofun, iff_of_false nofun nofun⟩
  | float q =>
    obtain rfl := Option.some.inj h
    exact ⟨Nat.zero_le 2, nofun, iff_of_false nofun nofun⟩
  | list xs =>
    obtain rfl := Option.some.inj h
    exact ⟨Nat.le_succ 1, nofun, iff_of_false nofun nofun⟩
  | dict o =>
    obtain rfl := Option.some.inj h
    exact ⟨Nat.le_succ 1, nofun, iff_of_false nofun nofun⟩

/-- A sort by a field goes through and sorts exactly if the field is sortable. -/
lemma sortByField_iff (hnan : NoNan py field records) :
    (∃ sorted, sortByField py nanOrder field descending records = some sorted
        ∧ SortedBy py field descending records sorted)
      ↔ Sortable py field descending records := by
  have hraise : (records.any fun r => (floatKey py (getNested py.toPython r field)).isNone) = true
      ↔ ¬ ∀ r ∈ records, floatKey py (getNested py.toPython r field) ≠ none := by
    simp only [List.any_eq_true, Option.isNone_iff_eq_none, not_forall, not_not, exists_prop]
  by_cases hfits : ∀ r ∈ records, floatKey py (getNested py.toPython r field) ≠ none
  · have hkind : ∀ r ∈ records, (recordKey py field r).kind ≤ 2
        ∧ ((recordKey py field r).kind = 2 → recordKey py field r = ⟨2, .finite 0, ""⟩)
        ∧ ((recordKey py field r).kind = 2 ↔ getNested py.toPython r field = .null) := by
      intro r hr
      obtain ⟨k, hk⟩ := Option.ne_none_iff_exists'.1 (hfits r hr)
      rw [recordKey, hk]
      exact floatKey_kind hk
    have hlast : LastClass 2 (recordKey py field) records :=
      fun r hr => ⟨(hkind r hr).1, (hkind r hr).2.1⟩
    have hnull := fun r hr => (hkind r hr).2.2
    have hok : sortByField py nanOrder field descending records
        = some (pySorted nanOrder (recordKey py field) descending records) :=
      if_neg fun h => hraise.1 h hfits
    have hiff := @sortedLast_pySorted_iff _ _ _ descending _ nanOrder hlast hnan
    have hclass : (descending = false ∨ (∀ r ∈ records, (recordKey py field r).kind ≠ 2)
          ∨ ∀ r ∈ records, (recordKey py field r).kind = 2)
        ↔ (descending = false ∨ (∀ r ∈ records, getNested py.toPython r field ≠ .null)
          ∨ ∀ r ∈ records, getNested py.toPython r field = .null) := by
      refine or_congr_right (or_congr ?_ ?_)
      · exact forall₂_congr fun r hr => not_congr (hnull r hr)
      · exact forall₂_congr fun r hr => hnull r hr
    rw [hclass] at hiff
    constructor
    · rintro ⟨sorted, hsorted, hordered⟩
      obtain rfl := Option.some.inj (hok.symm.trans hsorted)
      exact ⟨hfits, hiff.1 hordered⟩
    · intro h
      exact ⟨_, hok, hiff.2 h.missing⟩
  · have hnone : sortByField py nanOrder field descending records = none := if_pos (hraise.2 hfits)
    refine iff_of_false ?_ fun h => hfits h.fits
    rintro ⟨sorted, hsorted, -⟩
    rw [hnone] at hsorted
    cases hsorted

end Mockdr
