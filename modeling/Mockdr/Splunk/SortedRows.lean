import Mathlib
import Mockdr.Splunk.SortCommand

/-!
# Rows in the order of their keys

What the `sort` command makes of a specification and of some rows, beside what is written.

* `SortsAs`: the rows are in the lexicographic order of the keys as they are written, those that
  lack a key at one end, and cut to the number that is asked for.
* `Settled`: a key that does not tell the rows that it sorts apart where it is misread, and that has
  nothing missing between numbers and texts.
* `sortsAs_iff`: the rows are sorted as it is written exactly if every key is settled among the rows
  that the keys before it leave together.
-/

namespace Mockdr

namespace Splunk

variable (py : SortPython)

/-! ## What a sort is for -/

/-- The key of a row that lacks its field, or has an empty text there. -/
def lackingKey : TupleKey := ⟨1, .finite 0, ""⟩

/-- A key with the rows that lack the field below all others, or above. -/
def endedKey (above : Bool) (k : TupleKey) : TupleKey :=
  if k = lackingKey then ⟨if above then 3 else 0, .finite 0, ""⟩ else { k with kind := k.kind + 1 }

/-- The order of the rows by a key as it is written. -/
def writtenOrder (key : WrittenKey py) (above : Bool) : KeyOrder Row :=
  tupleOrder (fun row => endedKey above (rowKey py key.field row)) key.descending

/-- The rows of a specification, sorted as it is written: a permutation of the rows in the
    lexicographic order of the keys, those that tie in the order, any order, that they were in, and
    cut to the number in front of the keys. -/
def SortsAs (spec : SortSpec py) (rows : List Row) : Prop :=
  ∃ orders sorted,
    List.Forall₂ (fun key order => ∃ above, order = writtenOrder py key above) spec.keys orders
    ∧ sorted.Perm rows
    ∧ (∀ R : Row → Row → Prop, rows.Pairwise R → sorted.Pairwise (lexThen orders R))
    ∧ ∀ limit, cmdSort py rows (spec.render limit) = some (cut (countOfLimit limit) sorted)

/-- Every value of a field can be read as a key. -/
def Fits (field : String) (rows : List Row) : Prop :=
  ∀ row ∈ rows, sortKey py ((row.get field).getD .null) ≠ none

/-- No value of a field is a NaN, which has no place in an order. -/
def NumbersOrdered (field : String) (rows : List Row) : Prop :=
  ∀ row ∈ rows, (rowKey py field row).number ≠ .nan

/-- A key among rows that are tied by the keys before it: one whose minus stands apart tells none of
    those that have the field from another, and there are not both numbers and texts beside rows
    that lack the field. -/
structure Settled (rows : List Row) (tied : Row → Row → Prop) (key : WrittenKey py) : Prop where
  apart : key.Apart → ∀ a ∈ rows, ∀ b ∈ rows, tied a b → rowKey py key.field a ≠ lackingKey →
    rowKey py key.field b ≠ lackingKey → rowKey py key.field a = rowKey py key.field b
  ends : (∀ a ∈ rows, ∀ b ∈ rows, tied a b → rowKey py key.field a = lackingKey →
      (rowKey py key.field b).kind ≠ 0)
    ∨ ∀ a ∈ rows, ∀ b ∈ rows, tied a b → rowKey py key.field a = lackingKey →
      rowKey py key.field b ≠ lackingKey → (rowKey py key.field b).kind = 0

/-- Every key is settled among the rows that those before it leave together. -/
def AllSettled (rows : List Row) : (Row → Row → Prop) → List (WrittenKey py) → Prop
  | _, [] => True
  | tied, key :: keys => Settled py rows tied key
    ∧ AllSettled rows (fun a b => tied a b ∧ rowKey py key.field a = rowKey py key.field b) keys

section

variable {py : SortPython}

/-! ## Keys -/

lemma empty_lt {text : String} (h : text ≠ "") : "" < text := by
  rw [String.lt_iff_toList_lt]
  obtain ⟨c, cs, hc⟩ := List.exists_cons_of_ne_nil fun hnil => h (String.toList_eq_nil_iff.1 hnil)
  rw [hc]
  exact List.nil_lt_cons c cs

lemma rowKey_cases (field : String) (row : Row) :
    (rowKey py field row).kind = 0 ∨ rowKey py field row = lackingKey
      ∨ (rowKey py field row).kind = 1 ∧ lackingKey.rank < (rowKey py field row).rank := by
  rw [rowKey, sortKey]
  rcases asFloat py.toStatsPython ((row.get field).getD .null) with _ | _ | number
  · exact .inr (.inl rfl)
  · by_cases htext : keyText py ((row.get field).getD .null) = ""
    · refine .inr (.inl ?_)
      rw [Option.map_some, Option.getD_some, htext, lackingKey]
    · refine .inr (.inr ⟨rfl, Prod.Lex.toLex_lt_toLex.2 (.inr ⟨rfl, ?_⟩)⟩)
      exact Prod.Lex.toLex_lt_toLex.2 (.inr ⟨rfl, empty_lt htext⟩)
  · exact .inl rfl

lemma endedKey_le_iff {above : Bool} {k k' : TupleKey} (hk : k ≠ lackingKey)
    (hk' : k' ≠ lackingKey) :
    (endedKey above k).rank ≤ (endedKey above k').rank ↔ k.rank ≤ k'.rank := by
  rw [endedKey, endedKey, if_neg hk, if_neg hk']
  simp only [TupleKey.rank, Prod.Lex.toLex_le_toLex, Nat.add_lt_add_iff_right,
    Nat.add_right_cancel_iff]

/-- The order that the rows are sorted in by a key as it is read. -/
def readOrder (py : SortPython) (key : String × Bool) : KeyOrder Row :=
  tupleOrder (rowKey py key.1) key.2

/-- The order by a key, the rows that lack its field below all others or above, in some
    direction. -/
def endedOrder (py : SortPython) (field : String) (above descending : Bool) : KeyOrder Row :=
  tupleOrder (fun row => endedKey above (rowKey py field row)) descending

variable {rows : List Row} {tied : Row → Row → Prop} {key : WrittenKey py}
    {field : String} {a b : Row}

lemma endedKey_lt_iff {above : Bool} {k k' : TupleKey} (hk : k = lackingKey) (hk' : k' ≠ lackingKey)
    (hkind : k'.kind ≤ 1) :
    ((endedKey above k).rank < (endedKey above k').rank ↔ above = false)
      ∧ ((endedKey above k').rank < (endedKey above k).rank ↔ above = true) := by
  have hended : (endedKey above k).kind = if above then 3 else 0 := by rw [endedKey, if_pos hk]
  have hended' : (endedKey above k').kind = k'.kind + 1 := by rw [endedKey, if_neg hk']
  cases above with
  | false =>
    have hlt : (endedKey false k).rank < (endedKey false k').rank :=
      rank_lt_of_kind_lt (by rw [hended, hended']; exact Nat.succ_pos _)
    exact ⟨iff_of_true hlt rfl, iff_of_false hlt.not_gt nofun⟩
  | true =>
    have hlt : (endedKey true k').rank < (endedKey true k).rank :=
      rank_lt_of_kind_lt (by rw [hended, hended', if_pos rfl]; omega)
    exact ⟨iff_of_false hlt.not_gt nofun, iff_of_true hlt rfl⟩

lemma rowKey_kind_le (field : String) (row : Row) : (rowKey py field row).kind ≤ 1 := by
  rcases @rowKey_cases py field row with h | h | ⟨h, -⟩
  · rw [h]
    exact Nat.zero_le 1
  · rw [h]
    exact Nat.le_refl 1
  · rw [h]

/-- The place of a row that lacks a field beside one that has it: behind the numbers and before the
    texts. -/
lemma lacking_lt_iff (ha : rowKey py field a = lackingKey) (hb : rowKey py field b ≠ lackingKey) :
    ((rowKey py field b).rank < (rowKey py field a).rank ↔ (rowKey py field b).kind = 0)
      ∧ ((rowKey py field a).rank < (rowKey py field b).rank ↔ (rowKey py field b).kind ≠ 0) := by
  rw [ha]
  rcases @rowKey_cases py field b with h | h | ⟨hkind, hlt⟩
  · have hlt : (rowKey py field b).rank < lackingKey.rank :=
      rank_lt_of_kind_lt (by rw [h]; exact Nat.one_pos)
    exact ⟨iff_of_true hlt h, iff_of_false hlt.not_gt fun hne => hne h⟩
  · exact absurd h hb
  · have hne : (rowKey py field b).kind ≠ 0 := by
      rw [hkind]
      exact Nat.one_ne_zero
    exact ⟨iff_of_false hlt.not_gt hne, iff_of_true hlt hne⟩

/-- One of two rows lacks a field and the other has a number there exactly if the rows that lack the
    field are to stand above all others. -/
def Stands (py : SortPython) (field : String) (above : Bool) (a b : Row) : Prop :=
  rowKey py field a = lackingKey → rowKey py field b ≠ lackingKey →
    ((rowKey py field b).kind = 0 ↔ above = true)

lemma rank_le_iff {above : Bool} (hab : Stands py field above a b)
    (hba : Stands py field above b a) :
    (rowKey py field a).rank ≤ (rowKey py field b).rank
      ↔ (endedKey above (rowKey py field a)).rank ≤ (endedKey above (rowKey py field b)).rank := by
  by_cases ha : rowKey py field a = lackingKey
  · by_cases hb : rowKey py field b = lackingKey
    · rw [ha, hb]
      exact iff_of_true le_rfl le_rfl
    · have hended := @endedKey_lt_iff above _ _ ha hb (rowKey_kind_le field b)
      rw [← not_lt, ← not_lt, (lacking_lt_iff ha hb).1, hended.2, hab ha hb]
  · by_cases hb : rowKey py field b = lackingKey
    · have hended := @endedKey_lt_iff above _ _ hb ha (rowKey_kind_le field a)
      rw [← not_lt, ← not_lt, (lacking_lt_iff hb ha).2, hended.1, ne_eq, not_not, hba hb ha,
        Bool.not_eq_false]
    · exact (endedKey_le_iff ha hb).symm

lemma readOrder_le_iff {above descending : Bool} (hab : Stands py field above a b)
    (hba : Stands py field above b a) :
    (readOrder py (field, descending)).le a b ↔ (endedOrder py field above descending).le a b := by
  cases descending
  · exact rank_le_iff hab hba
  · exact rank_le_iff hba hab

/-- Upwards is downwards for rows that are all the same, but for those that lack the field. -/
lemma endedOrder_le_iff {above : Bool}
    (h : rowKey py field a ≠ lackingKey → rowKey py field b ≠ lackingKey →
      rowKey py field a = rowKey py field b) :
    (endedOrder py field above false).le a b ↔ (endedOrder py field (!above) true).le a b := by
  have hle : (endedOrder py field above false).le a b
      ↔ (endedKey above (rowKey py field a)).rank ≤ (endedKey above (rowKey py field b)).rank :=
    Iff.rfl
  have hle' : (endedOrder py field (!above) true).le a b
      ↔ (endedKey (!above) (rowKey py field b)).rank ≤
          (endedKey (!above) (rowKey py field a)).rank :=
    Iff.rfl
  rw [hle, hle']
  by_cases ha : rowKey py field a = lackingKey
  · by_cases hb : rowKey py field b = lackingKey
    · rw [ha, hb]
      exact iff_of_true le_rfl le_rfl
    · have hkind := @rowKey_kind_le py field b
      rw [← not_lt, ← not_lt, (endedKey_lt_iff ha hb hkind).2, (endedKey_lt_iff ha hb hkind).1,
        Bool.not_eq_false']
  · by_cases hb : rowKey py field b = lackingKey
    · have hkind := @rowKey_kind_le py field a
      rw [← not_lt, ← not_lt, (endedKey_lt_iff hb ha hkind).1, (endedKey_lt_iff hb ha hkind).2,
        Bool.not_eq_true']
    · rw [h ha hb]
      exact iff_of_true le_rfl le_rfl

/-- The direction that a key is read with is the one that is written, unless its minus stands
    apart. -/
lemma read_of_not_apart (h : ¬ key.Apart) : key.read = (key.field, key.descending) := by
  obtain ⟨mark, name, hne, hname, hmark⟩ := key
  cases mark with
  | plain => rfl
  | called descending word => rfl
  | signed descending gap =>
    cases descending with
    | false => rfl
    | true =>
      cases gap with
      | nil => rfl
      | cons g gap => exact absurd ⟨g :: gap, List.cons_ne_nil g gap, rfl⟩ h

lemma read_of_apart (h : key.Apart) : key.read = (key.field, false) ∧ key.descending = true := by
  obtain ⟨gap, hgap, hmark⟩ := h
  obtain ⟨g, gap, rfl⟩ := List.exists_cons_of_ne_nil hgap
  rw [WrittenKey.read, WrittenKey.descending, hmark]
  exact ⟨rfl, rfl⟩

lemma exists_writtenOrder (hsymm : ∀ a b, tied a b → tied b a) (h : Settled py rows tied key) :
    ∃ above, ∀ a ∈ rows, ∀ b ∈ rows, tied a b →
      ((readOrder py key.read).le a b ↔ (writtenOrder py key above).le a b) := by
  obtain ⟨above, habove⟩ : ∃ above, ∀ a ∈ rows, ∀ b ∈ rows, tied a b →
      Stands py key.field above a b := by
    rcases h.ends with hends | hends
    · exact ⟨false, fun a ha b hb hab hla hlb => iff_of_false (hends a ha b hb hab hla) nofun⟩
    · exact ⟨true, fun a ha b hb hab hla hlb => iff_of_true (hends a ha b hb hab hla hlb) rfl⟩
  by_cases hapart : key.Apart
  · obtain ⟨hread, hdown⟩ := read_of_apart hapart
    refine ⟨!above, fun a ha b hb hab => ?_⟩
    rw [hread, readOrder_le_iff (habove a ha b hb hab) (habove b hb a ha (hsymm a b hab)),
      endedOrder_le_iff (h.apart hapart a ha b hb hab), writtenOrder, hdown, endedOrder]
  · refine ⟨above, fun a ha b hb hab => ?_⟩
    rw [read_of_not_apart hapart,
      readOrder_le_iff (habove a ha b hb hab) (habove b hb a ha (hsymm a b hab))]
    rfl

/-- Settled keys are sorted by as they are written. -/
lemma exists_writtenOrders {keys : List (WrittenKey py)} (hsymm : ∀ a b, tied a b → tied b a)
    (h : AllSettled py rows tied keys) :
    ∃ orders, List.Forall₂ (fun key order => ∃ above, order = writtenOrder py key above) keys orders
      ∧ ∀ (R : Row → Row → Prop), ∀ a ∈ rows, ∀ b ∈ rows, tied a b →
        lexThen (keys.map fun key => readOrder py key.read) R a b → lexThen orders R a b := by
  induction keys generalizing tied with
  | nil => exact ⟨[], List.Forall₂.nil, fun _ _ _ _ _ _ h => h⟩
  | cons key keys ih =>
    obtain ⟨hkey, hkeys⟩ := h
    obtain ⟨above, habove⟩ := exists_writtenOrder hsymm hkey
    obtain ⟨orders, horders, hlex⟩ := ih (fun a b h => ⟨hsymm a b h.1, h.2.symm⟩) hkeys
    refine ⟨writtenOrder py key above :: orders, List.Forall₂.cons ⟨above, rfl⟩ horders, ?_⟩
    rintro R a ha b hb hab ⟨hle, hrest⟩
    refine ⟨(habove a ha b hb hab).1 hle, fun hback => ?_⟩
    have hback : (readOrder py key.read).le b a := (habove b hb a ha (hsymm a b hab)).2 hback
    -- rows that tie by the key have the same key
    have hrank : (rowKey py key.read.1 a).rank = (rowKey py key.read.1 b).rank := by
      simp only [readOrder, tupleOrder] at hle hback
      split_ifs at hle hback
      · exact le_antisymm hback hle
      · exact le_antisymm hle hback
    exact hlex R a ha b hb ⟨hab, TupleKey.rank_injective hrank⟩ (hrest hback)

/-- A key that is sorted by as it is written is settled. -/
lemma settled_of_order (above : Bool) (hsymm : ∀ a b, tied a b → tied b a)
    (h : ∀ a ∈ rows, ∀ b ∈ rows, tied a b → ¬ (readOrder py key.read).le b a →
      (writtenOrder py key above).le a b) : Settled py rows tied key := by
  refine ⟨fun hapart a ha b hb hab hla hlb => ?_, ?_⟩
  · obtain ⟨hread, hdown⟩ := read_of_apart hapart
    have hno : ∀ a ∈ rows, ∀ b ∈ rows, tied a b → rowKey py key.field a ≠ lackingKey →
        rowKey py key.field b ≠ lackingKey →
        (rowKey py key.field b).rank ≤ (rowKey py key.field a).rank := by
      intro a ha b hb hab hla hlb
      by_contra hlt
      have hwritten := h a ha b hb hab (by rw [hread]; exact hlt)
      rw [writtenOrder, hdown] at hwritten
      exact hlt ((endedKey_le_iff hlb hla).1 hwritten)
    refine TupleKey.rank_injective (le_antisymm ?_ ?_)
    · exact hno b hb a ha (hsymm a b hab) hlb hla
    · exact hno a ha b hb hab hla hlb
  · by_contra hends
    simp only [not_or, not_forall, not_not] at hends
    obtain ⟨⟨a, ha, b, hb, hab, hla, hnumber⟩, a', ha', b', hb', hab', hla', hlb', htext⟩ := hends
    have hlb : rowKey py key.field b ≠ lackingKey := by
      intro hlb
      rw [hlb] at hnumber
      exact Nat.one_ne_zero hnumber
    have hlt := (lacking_lt_iff hla hlb).1.2 hnumber
    have hlt' := (lacking_lt_iff hla' hlb').2.2 htext
    have hended := @endedKey_lt_iff above _ _ hla hlb (rowKey_kind_le key.field b)
    have hended' := @endedKey_lt_iff above _ _ hla' hlb' (rowKey_kind_le key.field b')
    have hback := hsymm a b hab
    have hback' := hsymm a' b' hab'
    -- the numbers call for one end and the texts for the other
    have hno : ¬ ((endedKey above (rowKey py key.field b)).rank
          ≤ (endedKey above (rowKey py key.field a)).rank
        ∧ (endedKey above (rowKey py key.field a')).rank
          ≤ (endedKey above (rowKey py key.field b')).rank) := by
      rintro ⟨hle, hle'⟩
      cases above
      · exact hle.not_gt (hended.1.2 rfl)
      · exact hle'.not_gt (hended'.2.2 rfl)
    have hno' : ¬ ((endedKey above (rowKey py key.field a)).rank
          ≤ (endedKey above (rowKey py key.field b)).rank
        ∧ (endedKey above (rowKey py key.field b')).rank
          ≤ (endedKey above (rowKey py key.field a')).rank) := by
      rintro ⟨hle, hle'⟩
      cases above
      · exact hle'.not_gt (hended'.1.2 rfl)
      · exact hle.not_gt (hended.2.2 rfl)
    have hwritten : (writtenOrder py key above).le a b ∧ (writtenOrder py key above).le b' a'
        ∨ (writtenOrder py key above).le b a ∧ (writtenOrder py key above).le a' b' := by
      cases hread : key.read.2 with
      | true =>
        refine .inl ⟨h a ha b hb hab ?_, h b' hb' a' ha' hback' ?_⟩
        · simp only [readOrder, tupleOrder, hread, if_true, not_le]
          exact hlt
        · simp only [readOrder, tupleOrder, hread, if_true, not_le]
          exact hlt'
      | false =>
        refine .inr ⟨h b hb a ha hback ?_, h a' ha' b' hb' hab' ?_⟩
        · simp only [readOrder, tupleOrder, hread, if_neg Bool.false_ne_true, not_le]
          exact hlt
        · simp only [readOrder, tupleOrder, hread, if_neg Bool.false_ne_true, not_le]
          exact hlt'
    simp only [writtenOrder, tupleOrder] at hwritten
    rcases hwritten with hwritten | hwritten
    · split_ifs at hwritten
      · exact hno hwritten
      · exact hno' hwritten
    · split_ifs at hwritten
      · exact hno' hwritten
      · exact hno hwritten

/-- Keys that are sorted by as they are written are settled. -/
lemma allSettled_of_lexThen {keys : List (WrittenKey py)} {orders : List (KeyOrder Row)}
    {R : Row → Row → Prop} (hsymm : ∀ a b, tied a b → tied b a)
    (horders : List.Forall₂ (fun key order => ∃ above,
        order = writtenOrder py key above) keys orders)
    (h : ∀ a ∈ rows, ∀ b ∈ rows, tied a b → a ≠ b →
      (lexThen (keys.map fun key => readOrder py key.read) R a b ∧ lexThen orders R a b)
      ∨ lexThen (keys.map fun key => readOrder py key.read) R b a ∧ lexThen orders R b a) :
    AllSettled py rows tied keys := by
  induction horders generalizing tied with
  | nil => trivial
  | @cons key order keys orders horder _ ih =>
    obtain ⟨above, rfl⟩ := horder
    refine ⟨settled_of_order above hsymm fun a ha b hb hab hno => ?_,
      ih (fun a b h => ⟨hsymm a b h.1, h.2.symm⟩) fun a ha b hb hab hne => ?_⟩
    · have hne : a ≠ b := by
        rintro rfl
        exact hno (((readOrder py key.read).total a a).elim id id)
      rcases h a ha b hb hab hne with h | h
      · exact h.2.1
      · exact absurd h.1.1 hno
    · have hle : ∀ {a b}, rowKey py key.field a = rowKey py key.field b →
          (readOrder py key.read).le a b ∧ (writtenOrder py key above).le a b := by
        intro a b hkey
        have hrank : (rowKey py key.read.1 a).rank = (rowKey py key.read.1 b).rank :=
          congrArg TupleKey.rank hkey
        have hended : (endedKey above (rowKey py key.field a)).rank
            = (endedKey above (rowKey py key.field b)).rank := by rw [hkey]
        simp only [readOrder, writtenOrder, tupleOrder, hrank, hended, le_refl, ite_self, and_self]
      rcases h a ha b hb hab.1 hne with h | h
      · exact .inl ⟨h.1.2 (hle hab.2.symm).1, h.2.2 (hle hab.2.symm).2⟩
      · exact .inr ⟨h.1.2 (hle hab.2).1, h.2.2 (hle hab.2).2⟩

/-! ## The command -/

lemma sortOn_eq_some_iff {key : String × Bool} {sorted : List Row}
    (hordered : NumbersOrdered py key.1 rows) :
    sortOn py key rows = some sorted
      ↔ Fits py key.1 rows ∧ sorted = (readOrder py key).sort rows := by
  have hfits : Fits py key.1 rows
      ↔ ¬ (rows.any fun row => (sortKey py ((row.get key.1).getD .null)).isNone) = true := by
    simp only [Fits, List.any_eq_true, Option.isNone_iff_eq_none, not_exists, not_and, ne_eq]
  have hsort : pySorted py.nanOrder (rowKey py key.1) key.2 rows
      = (readOrder py key).sort rows := by
    refine if_neg fun h => ?_
    obtain ⟨row, hrow, hnan⟩ := List.any_eq_true.1 h
    exact hordered row hrow (of_decide_eq_true hnan)
  rw [sortOn, hfits, hsort]
  split_ifs with h
  · exact iff_of_false not_false fun hno => hno.1 h
  · rw [Option.some_inj, eq_comm, and_iff_right h]

/-- The rows are sorted by one key after the other, from the last to the first. -/
lemma foldrM_sortOn_eq_some_iff {keys : List (String × Bool)} {sorted : List Row}
    (hordered : ∀ key ∈ keys, NumbersOrdered py key.1 rows) :
    keys.foldrM (sortOn py) rows = some sorted
      ↔ (∀ key ∈ keys, Fits py key.1 rows) ∧ sorted = sortBy (keys.map (readOrder py)) rows := by
  induction keys generalizing sorted with
  | nil =>
    rw [List.foldrM_nil, and_iff_right (List.forall_mem_nil _), Option.pure_def, Option.some_inj,
      eq_comm]
    rfl
  | cons key keys ih =>
    obtain ⟨hkey, hkeys⟩ := List.forall_mem_cons.1 hordered
    have hperm := perm_sortBy (keys.map (readOrder py)) rows
    have hordered' : NumbersOrdered py key.1 (sortBy (keys.map (readOrder py)) rows) :=
      fun row hrow => hkey row (hperm.mem_iff.1 hrow)
    have hfits : Fits py key.1 (sortBy (keys.map (readOrder py)) rows) ↔ Fits py key.1 rows :=
      ⟨fun h row hrow => h row (hperm.mem_iff.2 hrow),
          fun h row hrow => h row (hperm.mem_iff.1 hrow)⟩
    rw [List.foldrM_cons, Option.bind_eq_bind, Option.bind_eq_some_iff, List.forall_mem_cons]
    constructor
    · rintro ⟨inner, hinner, hout⟩
      obtain ⟨hrest, rfl⟩ := (ih hkeys).1 hinner
      obtain ⟨hfit, rfl⟩ := (sortOn_eq_some_iff hordered').1 hout
      exact ⟨⟨hfits.1 hfit, hrest⟩, rfl⟩
    · rintro ⟨⟨hfit, hrest⟩, rfl⟩
      exact ⟨_, (ih hkeys).2 ⟨hrest, rfl⟩, (sortOn_eq_some_iff hordered').2 ⟨hfits.2 hfit, rfl⟩⟩

lemma cmdSort_render {spec : SortSpec py} {limit : Option (WrittenLimit py)} {out : List Row}
    (hordered : ∀ key ∈ spec.keys, NumbersOrdered py key.field rows) :
    cmdSort py rows (spec.render limit) = some out
      ↔ (∀ key ∈ spec.keys, Fits py key.field rows)
        ∧ out = cut (countOfLimit limit)
          (sortBy (spec.keys.map fun key => readOrder py key.read) rows) := by
  have hread : ∀ key ∈ spec.keys.map WrittenKey.read, NumbersOrdered py key.1 rows :=
    List.forall_mem_map.2 hordered
  have hne : spec.keys.map WrittenKey.read ≠ [] := List.cons_ne_nil _ _
  rw [cmdSort, parseSortKeys_render, leadingCount_render]
  simp only [if_neg hne, Option.bind_eq_bind, Option.bind_some, Option.pure_def,
    Option.bind_eq_some_iff, foldrM_sortOn_eq_some_iff hread, List.forall_mem_map, List.map_map,
    Option.some_inj]
  constructor
  · rintro ⟨sorted, ⟨hfits, rfl⟩, rfl⟩
    exact ⟨hfits, rfl⟩
  · rintro ⟨hfits, rfl⟩
    exact ⟨_, ⟨hfits, rfl⟩, rfl⟩

lemma settled_of_sortsAs {spec : SortSpec py}
    (hordered : ∀ key ∈ spec.keys, NumbersOrdered py key.field rows) (h : SortsAs py spec rows) :
    (∀ key ∈ spec.keys, Fits py key.field rows)
      ∧ AllSettled py rows (fun _ _ => True) spec.keys := by
  obtain ⟨orders, sorted, horders, hperm, hlex, hcommand⟩ := h
  obtain ⟨hfits, hsorted⟩ := (cmdSort_render hordered).1 (hcommand none)
  have hsorted : sorted = sortBy (spec.keys.map fun key => readOrder py key.read) rows := hsorted
  have htrivial : rows.Pairwise fun _ _ => True := List.pairwise_of_forall fun _ _ => trivial
  have hread := pairwise_sortBy (spec.keys.map fun key => readOrder py key.read) htrivial
  rw [← hsorted] at hread
  refine ⟨hfits, allSettled_of_lexThen (R := fun _ _ => True) (fun _ _ _ => trivial) horders
    fun a ha b hb _ hne => ?_⟩
  exact rel_or_of_pairwise (hread.and (hlex _ htrivial)) (hperm.mem_iff.2 ha)
      (hperm.mem_iff.2 hb) hne

/-- The rows are sorted as it is written exactly if every value of the keys is one that `float`
    takes and every key is settled among the rows that those before it leave together. -/
theorem sortsAs_iff (spec : SortSpec py) (rows : List Row)
    (hordered : ∀ key ∈ spec.keys, NumbersOrdered py key.field rows) :
    SortsAs py spec rows
      ↔ (∀ key ∈ spec.keys, Fits py key.field rows)
        ∧ AllSettled py rows (fun _ _ => True) spec.keys := by
  refine ⟨settled_of_sortsAs hordered, ?_⟩
  rintro ⟨hfits, hsettled⟩
  obtain ⟨orders, horders, hlex⟩ := exists_writtenOrders (fun _ _ _ => trivial) hsettled
  refine ⟨orders, _, horders, perm_sortBy _ rows, fun R hR => ?_,
    fun limit => (cmdSort_render hordered).2 ⟨hfits, rfl⟩⟩
  have hperm := perm_sortBy (spec.keys.map fun key => readOrder py key.read) rows
  refine (pairwise_sortBy _ hR).imp_of_mem fun {a b} ha hb hab => ?_
  exact hlex R a (hperm.mem_iff.1 ha) b (hperm.mem_iff.1 hb) trivial hab

end

/-- A row with one field. -/
def rowOf (field : String) (v : Value) : Row := Dict.empty.set field v

/-- `-` and a field, with a gap between them. -/
def minusKey (gap : List Char) (hgap : ∀ c ∈ gap, isSpace c = true) :
    WrittenKey asciiSortPython where
  mark := .signed true gap
  name := "risk".toList
  name_ne_nil := by decide
  name_separator c hc := by
    have hall : "risk".toList.all fun c => !isSeparator c := by decide
    exact Bool.not_eq_true' _ ▸ List.all_eq_true.1 hall c hc
  mark_spec := ⟨by decide, by decide, .inr (by decide), hgap⟩

/-- One key alone. -/
def onlyKey (key : WrittenKey asciiSortPython) : SortSpec asciiSortPython := ⟨key, [], nofun⟩

/-- `sort -risk` -/
theorem attached_minus_sorts :
    SortsAs asciiSortPython (onlyKey (minusKey [] nofun))
      [rowOf "risk" (.int 1), rowOf "risk" (.int 2)] := by
  have hpresent : ∀ row ∈ [rowOf "risk" (.int 1), rowOf "risk" (.int 2)],
      rowKey asciiSortPython "risk" row ≠ lackingKey :=
    List.forall_mem_cons.2 ⟨by decide, List.forall_mem_singleton.2 (by decide)⟩
  refine (sortsAs_iff (onlyKey (minusKey [] nofun)) _ ?_).2 ⟨?_, ⟨?_, .inl ?_⟩, trivial⟩
  · refine List.forall_mem_singleton.2 (List.forall_mem_cons.2 ⟨?_, List.forall_mem_singleton.2 ?_⟩)
    · decide
    · decide
  · refine List.forall_mem_singleton.2 (List.forall_mem_cons.2 ⟨?_, List.forall_mem_singleton.2 ?_⟩)
    · decide
    · decide
  · rintro ⟨gap, hgap, hmark⟩
    cases hmark
    exact absurd rfl hgap
  · intro a ha b hb _ hlacking
    exact absurd hlacking (hpresent a ha)

/-- `sort - risk` sorts upwards. -/
theorem detached_minus_unsorted :
    ¬ SortsAs asciiSortPython (onlyKey (minusKey [' '] (List.forall_mem_singleton.2 (by decide))))
      [rowOf "risk" (.int 1), rowOf "risk" (.int 2)] := by
  intro h
  have hordered : ∀ key ∈ (onlyKey (minusKey [' '] (List.forall_mem_singleton.2 (by decide)))).keys,
      NumbersOrdered asciiSortPython key.field
        [rowOf "risk" (.int 1), rowOf "risk" (.int 2)] := by
    refine List.forall_mem_singleton.2 (List.forall_mem_cons.2 ⟨?_, List.forall_mem_singleton.2 ?_⟩)
    · decide
    · decide
  obtain ⟨-, hsettled, -⟩ := settled_of_sortsAs hordered h
  have hsame := hsettled.apart ⟨[' '], List.cons_ne_nil _ _, rfl⟩ _ List.mem_cons_self _
    (List.mem_cons_of_mem _ List.mem_cons_self) trivial (by decide) (by decide)
  exact absurd hsame (by decide)

end Splunk

end Mockdr
