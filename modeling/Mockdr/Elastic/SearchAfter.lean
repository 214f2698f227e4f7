import Mockdr.Elastic.Sort
import Mockdr.Lib.Paging
import Mockdr.Lib.StableSort

/-!
# Paging with `search_after`

A client reads a sorted list by sending back the `sort` array of the last hit it was given
(`searchAfterPage`). The array is rendered with what the sort fields hold (`sortFieldKinds`), and
compared with values rendered without it; and the sorter compares the values as they are, where the
array has their doc values. `Agreement` says of the values of the records that none of this makes a
difference, and `search_after_exhaustive` that the pages then enumerate the sorted records.

* `columnRank_le_iff`: by one key, the sorter and the cursor order two records alike.
* `follows_of_lexThen`: by all keys.
-/

namespace Mockdr.Elastic

variable {py : Python} {millis : String → Option Int}

/-- The value a record holds for a sort key. -/
def SortKey.valueOf (py : Python) (key : SortKey) (record : Rec) : Json :=
  getNested py (.dict record.source) key.field

/-- Whether a sort key names the position of a document. -/
def SortKey.byPosition (key : SortKey) : Prop := key.field = "_doc" ∨ key.field = "_shard_doc"

/-! ## When the cursor agrees with the sorter -/

/-- What a value sorts as in a `sort` array. -/
def docRank (py : Python) (millis : String → Option Int) (v : Json) : Rank :=
  sortRank py (sortValue py millis v)

/-- Two values of a field that are there: the sorter compares them as they are and the cursor as doc
    values, each can compare them, and both find the same. -/
structure ComparedAlike (py : Python) (millis : String → Option Int) (v w : Json) : Prop where
  raw : comparable (rankIn py 0 v) (rankIn py 0 w) = true
  doc : comparable (docRank py millis v) (docRank py millis w) = true
  order : docRank py millis v ≤ docRank py millis w ↔ rankIn py 0 v ≤ rankIn py 0 w

/-- A value with a doc value that is a number or a string: no object, and no empty array. -/
def Sortable (py : Python) (millis : String → Option Int) (v : Json) : Prop :=
  v.isDict = false ∧ sortValue py millis v ≠ .null

/-- The cursor and the sorter find the same order between two values of a field. A record without a
    value has to be in a field that does not hold numbers or dates, and sorted first exactly when
    the order is descending. -/
def Agree (py : Python) (millis : String → Option Int) (key : SortKey) (kind : Option FieldKind) :
    Json → Json → Prop
  | .null, .null => kind ≠ some .number
  | .null, w => kind ≠ some .number ∧ key.missingFirst = key.desc ∧ Sortable py millis w
  | v, .null => kind ≠ some .number ∧ key.missingFirst = key.desc ∧ Sortable py millis v
  | v, w => ComparedAlike py millis v w ∧ Sortable py millis v ∧ Sortable py millis w

/-- The cursor agrees with the sorter on every key: on the values of a field, and on the positions,
    which the sorter orders by after the fields and ascending. -/
structure Agreement (py : Python) (millis : String → Option Int) (records : List Rec)
    (keys : List SortKey) : Prop where
  values : ∀ key ∈ keys, key.positional = false → ∀ a ∈ records, ∀ b ∈ records,
    Agree py millis key (Assoc.get key.field (sortFieldKinds py millis records keys))
      (key.valueOf py a) (key.valueOf py b)
  ascending : ∀ key ∈ keys, key.byPosition → key.desc = false
  last : keys.Pairwise fun key key' => key.byPosition → key'.positional = true

/-! ## One key -/

lemma rankIn_le_iff {g : Nat} {v w : Json} :
    rankIn py g v ≤ rankIn py g w ↔ rankIn py 0 v ≤ rankIn py 0 w := by
  unfold rankIn
  cases v.number <;> cases w.number <;>
    simp [numberRank, textRank, Prod.Lex.toLex_le_toLex]

lemma comparable_rankIn {g : Nat} {v w : Json} :
    comparable (rankIn py g v) (rankIn py g w) = comparable (rankIn py 0 v) (rankIn py 0 w) := by
  unfold rankIn
  cases v.number <;> cases w.number <;> simp [comparable, numberRank, textRank]

lemma sortRank_of_ne_null {v : Json} (h : v ≠ .null) : sortRank py v = rankIn py 0 v := by
  unfold sortRank
  split
  · exact absurd rfl h
  · rfl

lemma columnRank_of_null {key : SortKey} {record : Rec} (h : key.valueOf py record = .null) :
    columnRank py key record = textRank (if key.missingFirst = key.desc then 1 else 0) "" := by
  rw [SortKey.valueOf] at h
  rw [columnRank, h]

lemma columnRank_of_ne_null {key : SortKey} {record : Rec} (h : key.valueOf py record ≠ .null) :
    columnRank py key record
      = rankIn py (1 - if key.missingFirst = key.desc then 1 else 0) (key.valueOf py record) := by
  rw [SortKey.valueOf] at h ⊢
  rw [columnRank]
  generalize (if key.missingFirst = key.desc then 1 else 0) = absent
  split
  next h' => exact absurd h' h
  · rfl

lemma rankIn_lt_textRank (v : Json) : rankIn py 0 v < textRank 1 "" := by
  unfold rankIn
  cases v.number <;> simp [numberRank, textRank, Prod.Lex.toLex_lt_toLex]

lemma comparable_rankIn_textRank (v : Json) :
    comparable (rankIn py 0 v) (textRank 1 "") = true := by
  unfold rankIn
  cases v.number <;> rfl

lemma comparable_symm (a b : Rank) : comparable a b = comparable b a := by
  simp only [comparable, ne_eq, eq_comm]

/-- What agreement on the values of two records says of their ranks. -/
structure RankedAlike (py : Python) (millis : String → Option Int) (key : SortKey) (a b : Rec) :
    Prop where
  doc : comparable (docRank py millis (key.valueOf py a)) (docRank py millis (key.valueOf py b))
    = true
  column : comparable (columnRank py key a) (columnRank py key b) = true
  le_iff : docRank py millis (key.valueOf py a) ≤ docRank py millis (key.valueOf py b)
    ↔ columnRank py key a ≤ columnRank py key b

lemma docRank_null : docRank py millis .null = textRank 1 "" := rfl

lemma docRank_of_sortable {v : Json} (h : Sortable py millis v) :
    docRank py millis v = rankIn py 0 (sortValue py millis v) :=
  sortRank_of_ne_null h.2

/-- By one key, the cursor and the sorter order two records alike. -/
lemma Agree.ranked {key : SortKey} {kind : Option FieldKind} {a b : Rec}
    (h : Agree py millis key kind (key.valueOf py a) (key.valueOf py b)) :
    RankedAlike py millis key a b := by
  generalize ha : key.valueOf py a = v at h
  generalize hb : key.valueOf py b = w at h
  unfold Agree at h
  split at h
  · -- neither record has a value
    refine ⟨?_, ?_, ?_⟩
    · rw [ha, hb, docRank_null]
      rfl
    · rw [columnRank_of_null ha, columnRank_of_null hb]
      simp [comparable]
    · rw [ha, hb, columnRank_of_null ha, columnRank_of_null hb]
      simp only [le_refl]
  next hw =>
    -- only the second has one: it comes first, for the cursor and for the sorter
    obtain ⟨-, hm, hs⟩ := h
    have ha' := columnRank_of_null ha
    have hb' := columnRank_of_ne_null (fun e => hw (hb.symm.trans e))
    rw [if_pos hm] at ha' hb'
    refine ⟨?_, ?_, ?_⟩
    · rw [ha, hb, docRank_null, docRank_of_sortable hs, comparable_symm]
      exact comparable_rankIn_textRank _
    · rw [ha', hb', comparable_symm]
      exact comparable_rankIn_textRank _
    · rw [ha, hb, docRank_null, docRank_of_sortable hs, ha', hb']
      exact iff_of_false (rankIn_lt_textRank _).not_ge (rankIn_lt_textRank _).not_ge
  next hv =>
    obtain ⟨-, hm, hs⟩ := h
    have ha' := columnRank_of_ne_null (fun e => hv (ha.symm.trans e))
    have hb' := columnRank_of_null hb
    rw [if_pos hm] at ha' hb'
    refine ⟨?_, ?_, ?_⟩
    · rw [ha, hb, docRank_null, docRank_of_sortable hs]
      exact comparable_rankIn_textRank _
    · rw [ha', hb']
      exact comparable_rankIn_textRank _
    · rw [ha, hb, docRank_null, docRank_of_sortable hs, ha', hb']
      exact iff_of_true (rankIn_lt_textRank _).le (rankIn_lt_textRank _).le
  next hv hw _ =>
    obtain ⟨hc, hsv, hsw⟩ := h
    have ha' := columnRank_of_ne_null (fun e => hv (ha.symm.trans e))
    have hb' := columnRank_of_ne_null (fun e => hw (hb.symm.trans e))
    refine ⟨?_, ?_, ?_⟩
    · rw [ha, hb]
      exact hc.doc
    · rw [ha', hb', ha, hb, comparable_rankIn]
      exact hc.raw
    · rw [ha', hb', ha, hb, rankIn_le_iff]
      exact hc.order

lemma RankedAlike.columnLe_iff {key : SortKey} {a b : Placed}
    (h : RankedAlike py millis key a.toRec b.toRec)
    (h' : RankedAlike py millis key b.toRec a.toRec) :
    columnLe py key a b
      ↔ if key.desc then docRank py millis (key.valueOf py b.toRec)
            ≤ docRank py millis (key.valueOf py a.toRec)
          else docRank py millis (key.valueOf py a.toRec)
            ≤ docRank py millis (key.valueOf py b.toRec) := by
  rw [columnLe]
  split_ifs
  · exact h'.le_iff.symm
  · exact h.le_iff.symm

/-! ## The sort arrays -/

lemma sortValueAt_nil {key : SortKey} (hk : key.positional = false) (d : Placed) :
    sortValueAt py millis [] d key = sortValue py millis (key.valueOf py d.toRec) := by
  simp only [SortKey.positional, positionKeys, List.contains_cons, List.contains_nil,
    Bool.or_eq_false_iff, beq_eq_false_iff_ne] at hk
  rw [sortValueAt, if_neg (by simp [hk]), if_neg hk.1, SortKey.valueOf]
  simp only [Assoc.get_nil]
  split
  next h => cases h
  · rfl

lemma sortValueAt_eq {key : SortKey} {kinds : List (String × FieldKind)} {d : Placed}
    (hk : key.positional = false)
    (h : key.valueOf py d.toRec = .null → Assoc.get key.field kinds ≠ some .number) :
    sortValueAt py millis kinds d key = sortValueAt py millis [] d key := by
  rw [sortValueAt_nil hk]
  simp only [SortKey.positional, positionKeys, List.contains_cons, List.contains_nil,
    Bool.or_eq_false_iff, beq_eq_false_iff_ne] at hk
  rw [sortValueAt, if_neg (by simp [hk]), if_neg hk.1]
  rw [SortKey.valueOf] at h ⊢
  generalize getNested py (.dict d.source) key.field = raw at h ⊢
  generalize Assoc.get key.field kinds = kind at h ⊢
  cases raw with
  | null =>
    cases kind with
    | none => rfl
    | some kind =>
      cases kind with
      | number => exact absurd rfl (h rfl)
      | keyword => rfl
  | _ => rfl

lemma Agree.not_number {key : SortKey} {kind : Option FieldKind} {v : Json}
    (h : Agree py millis key kind v v) (hv : v = .null) : kind ≠ some .number := by
  subst hv
  exact h

/-- Under agreement a hit's `sort` array is what a cursor is compared with. -/
lemma Agreement.sortValues_eq {records : List Rec} {keys : List SortKey}
    (h : Agreement py millis records keys) {d : Placed} (hd : d.toRec ∈ records) :
    sortValues py millis keys (sortFieldKinds py millis records keys) d
      = sortValues py millis keys [] d := by
  apply List.map_congr_left
  intro key hkey
  cases hk : key.positional with
  | true =>
    simp only [SortKey.positional, positionKeys, List.contains_cons, List.contains_nil,
      Bool.or_false, Bool.or_eq_true, beq_iff_eq] at hk
    rw [sortValueAt, sortValueAt]
    by_cases hp : key.field = "_doc" ∨ key.field = "_shard_doc"
    · rw [if_pos hp, if_pos hp]
    · rw [if_neg hp, if_neg hp, if_pos (by tauto), if_pos (by tauto)]
  | false => exact sortValueAt_eq hk (h.values key hkey hk _ hd _ hd).not_number

lemma eq_of_sortRank_eq {v w : Json} (hv : v.isDict = false) (hw : w.isDict = false)
    (hv' : ∀ xs, v ≠ .list xs) (hw' : ∀ xs, w ≠ .list xs) (h : sortRank py v = sortRank py w) :
    Json.eq v w = true := by
  cases v <;> cases w <;>
    simp_all [sortRank, rankIn, Json.number, numberRank, textRank, Json.eq, Json.isDict,
      Python.toStr]

lemma sortValue_ne_list {v : Json} (xs : List Json) : sortValue py millis v ≠ .list xs := by
  unfold sortValue sortText
  split
  · split <;> simp
  · split
    · split <;> simp
    · simp
  next hl => exact fun e => hl xs e

lemma isDict_sortValue {v : Json} (h : v.isDict = false) :
    (sortValue py millis v).isDict = false := by
  unfold sortValue sortText
  split
  · split <;> rfl
  · split
    · split <;> rfl
    · rfl
  · exact h

lemma Agree.eq_of_tie {key : SortKey} {kind : Option FieldKind} {v w : Json}
    (h : Agree py millis key kind v w) (ht : docRank py millis v = docRank py millis w) :
    Json.eq (sortValue py millis v) (sortValue py millis w) = true := by
  have hd : v.isDict = false ∧ w.isDict = false := by
    unfold Agree at h
    split at h
    · exact ⟨rfl, rfl⟩
    · exact ⟨rfl, h.2.2.1⟩
    · exact ⟨h.2.2.1, rfl⟩
    · exact ⟨h.2.1.1, h.2.2.1⟩
  exact eq_of_sortRank_eq (isDict_sortValue hd.1) (isDict_sortValue hd.2) sortValue_ne_list
    sortValue_ne_list ht

/-! ## The sorter -/

/-- One key of a sort, as an order of the records. -/
def keyOrder (py : Python) (key : SortKey) : KeyOrder Placed where
  le := columnLe py key
  dec := inferInstance
  total a b := by
    unfold columnLe
    split_ifs
    · exact le_total _ _
    · exact le_total _ _
  trans a b c hab hbc := by
    unfold columnLe at *
    split_ifs at *
    · exact hbc.trans hab
    · exact hab.trans hbc

/-- The keys the sorter sorts by. -/
def orders (py : Python) (keys : List SortKey) : List (KeyOrder Placed) :=
  (keys.filter fun key => !key.positional).map (keyOrder py)

lemma orders_cons (key : SortKey) (keys : List SortKey) :
    orders py (key :: keys)
      = if key.positional then orders py keys else keyOrder py key :: orders py keys := by
  rw [orders, List.filter_cons]
  cases key.positional <;> rfl

lemma sortColumn_eq {key : SortKey} {records : List Placed}
    (h : key.positional = false → ∀ a ∈ records, ∀ b ∈ records,
      comparable (columnRank py key a.toRec) (columnRank py key b.toRec) = true) :
    sortColumn py key records
      = .ok (if key.positional then records else (keyOrder py key).sort records) := by
  rw [sortColumn]
  cases hk : key.positional with
  | true => rfl
  | false =>
    have hall : ((records.map fun d => columnRank py key d.toRec).all fun a =>
        (records.map fun d => columnRank py key d.toRec).all (comparable a)) = true := by
      simp only [List.all_eq_true, List.mem_map]
      rintro _ ⟨a, ha, rfl⟩ _ ⟨b, hb, rfl⟩
      exact h hk a ha b hb
    simp only [hall, Bool.false_eq_true, if_false, if_true]
    rfl

lemma foldrM_sortColumn {keys : List SortKey} {records : List Placed}
    (h : ∀ key ∈ keys, key.positional = false → ∀ a ∈ records, ∀ b ∈ records,
      comparable (columnRank py key a.toRec) (columnRank py key b.toRec) = true) :
    keys.foldrM (sortColumn py) records = .ok (sortBy (orders py keys) records) := by
  induction keys with
  | nil => rfl
  | cons key keys ih =>
    have hmem : ∀ d ∈ sortBy (orders py keys) records, d ∈ records := fun d hd =>
      (perm_sortBy (orders py keys) records).mem_iff.1 hd
    rw [List.foldrM_cons, ih fun k hk => h k (List.mem_cons_of_mem key hk), orders_cons]
    change sortColumn py key (sortBy (orders py keys) records) = _
    rw [sortColumn_eq fun hk a ha b hb =>
      h key List.mem_cons_self hk a (hmem a ha) b (hmem b hb)]
    cases key.positional <;> rfl

/-! ## The cursor -/

lemma follows_self (values : List Json) (keys : List SortKey) :
    follows py values values keys = false := by
  induction values generalizing keys with
  | nil => rfl
  | cons v values ih =>
    cases keys with
    | nil => rfl
    | cons key keys =>
      rw [follows]
      simp only [if_true]
      exact ih keys

lemma follows_of_tie {v t : Json} {values target : List Json} {key : SortKey} {keys : List SortKey}
    (h : sortRank py v = sortRank py t) :
    follows py (v :: values) (t :: target) (key :: keys) = follows py values target keys := by
  rw [follows]
  simp only [h, if_true]

lemma follows_of_ne {v t : Json} {values target : List Json} {key : SortKey} {keys : List SortKey}
    (h : sortRank py v ≠ sortRank py t)
    (hc : comparable (sortRank py v) (sortRank py t) = true) :
    follows py (v :: values) (t :: target) (key :: keys)
      = if key.desc then decide (sortRank py v < sortRank py t)
        else decide (sortRank py t < sortRank py v) := by
  rw [follows]
  simp only [h, if_false, hc, Bool.not_true, Bool.false_eq_true]

/-- The first record stands before the second, by the arrays. -/
def Precedes (py : Python) (millis : String → Option Int) (keys : List SortKey)
    (a b : Placed) : Prop :=
  follows py (sortValues py millis keys [] b) (sortValues py millis keys [] a) keys = true
    ∧ follows py (sortValues py millis keys [] a) (sortValues py millis keys [] b) keys = false

lemma precedes_cons_of_tie {key : SortKey} {keys : List SortKey} {a b : Placed}
    (h : sortRank py (sortValueAt py millis [] a key)
      = sortRank py (sortValueAt py millis [] b key)) :
    Precedes py millis (key :: keys) a b ↔ Precedes py millis keys a b := by
  simp only [Precedes, sortValues, List.map_cons]
  rw [follows_of_tie h, follows_of_tie h.symm]

lemma precedes_cons_of_lt {key : SortKey} {keys : List SortKey} {a b : Placed}
    (hc : comparable (sortRank py (sortValueAt py millis [] a key))
      (sortRank py (sortValueAt py millis [] b key)) = true)
    (h : if key.desc then sortRank py (sortValueAt py millis [] b key)
          < sortRank py (sortValueAt py millis [] a key)
        else sortRank py (sortValueAt py millis [] a key)
          < sortRank py (sortValueAt py millis [] b key)) :
    Precedes py millis (key :: keys) a b := by
  simp only [Precedes, sortValues, List.map_cons]
  have hne : sortRank py (sortValueAt py millis [] a key)
      ≠ sortRank py (sortValueAt py millis [] b key) := by
    split_ifs at h
    · exact h.ne'
    · exact h.ne
  rw [follows_of_ne hne.symm (by rw [comparable_symm]; exact hc), follows_of_ne hne hc]
  split_ifs at h ⊢
  · exact ⟨decide_eq_true h, decide_eq_false h.not_gt⟩
  · exact ⟨decide_eq_true h, decide_eq_false h.not_gt⟩

lemma sortValueAt_score {key : SortKey} (h : key.field = "_score") (d : Placed) :
    sortValueAt py millis [] d key = .float 1 := by
  rw [sortValueAt, h]
  rfl

lemma sortValueAt_position {key : SortKey} (h : key.byPosition) (d : Placed) :
    sortValueAt py millis [] d key = .int d.position := by
  rw [SortKey.byPosition] at h
  rw [sortValueAt, if_pos h]

lemma sortRank_position (d : Placed) :
    sortRank py (.int d.position) = numberRank 0 (d.position : ℚ) := by
  simp [sortRank, rankIn, Json.number]

lemma positional_cases {key : SortKey} (h : key.positional = true) :
    key.field = "_score" ∨ key.byPosition := by
  simpa [SortKey.positional, positionKeys, SortKey.byPosition] using h

lemma orders_of_positional {keys : List SortKey} (h : ∀ key ∈ keys, key.positional = true) :
    orders py keys = [] := by
  induction keys with
  | nil => rfl
  | cons key keys ih =>
    rw [orders_cons, if_pos (h key List.mem_cons_self)]
    exact ih fun k hk => h k (List.mem_cons_of_mem key hk)

/-- A record the sorter puts before another one stands before it by the arrays, which differ. The
    keys are gone through in their order: a key that ties leaves it to the rest. -/
lemma precedes_of_lexThen {keys : List SortKey} {a b : Placed} {kind : SortKey → Option FieldKind}
    (hval : ∀ key ∈ keys, key.positional = false →
      Agree py millis key (kind key) (key.valueOf py a.toRec) (key.valueOf py b.toRec)
        ∧ Agree py millis key (kind key) (key.valueOf py b.toRec) (key.valueOf py a.toRec))
    (hasc : ∀ key ∈ keys, key.byPosition → key.desc = false)
    (hlast : keys.Pairwise fun key key' => key.byPosition → key'.positional = true)
    (hlex : lexThen (orders py keys) (fun a b => a.position < b.position) a b)
    (hne : Json.eqList (sortValues py millis keys [] a) (sortValues py millis keys [] b) = false) :
    Precedes py millis keys a b := by
  induction keys with
  | nil => cases hne
  | cons key keys ih =>
    obtain ⟨hlast₁, hlast'⟩ := List.pairwise_cons.1 hlast
    have hval' := fun k hk => hval k (List.mem_cons_of_mem key hk)
    have hasc' := fun k hk => hasc k (List.mem_cons_of_mem key hk)
    simp only [sortValues, List.map_cons, Json.eqList] at hne
    cases hk : key.positional with
    | true =>
      rw [orders_cons, if_pos hk] at hlex
      rcases positional_cases hk with hs | hp
      · -- every record scores the same
        rw [sortValueAt_score hs, sortValueAt_score hs] at hne
        rw [precedes_cons_of_tie (by rw [sortValueAt_score hs, sortValueAt_score hs])]
        exact ih hval' hasc' hlast' hlex (by simpa [Json.eq, Json.number, sortValues] using hne)
      · -- a position: no field comes after it, and the sorter kept the records by position
        rw [orders_of_positional fun k hk => hlast₁ k hk hp] at hlex
        have hlt : numberRank 0 (a.position : ℚ) < numberRank 0 (b.position : ℚ) := by
          have hpos : a.position < b.position := hlex
          simp [numberRank, Prod.Lex.toLex_lt_toLex, hpos]
        apply precedes_cons_of_lt
        · rw [sortValueAt_position hp, sortValueAt_position hp, sortRank_position,
            sortRank_position]
          rfl
        · rw [hasc key List.mem_cons_self hp, sortValueAt_position hp, sortValueAt_position hp,
            sortRank_position, sortRank_position]
          exact hlt
    | false =>
      obtain ⟨hab, hba⟩ := hval key List.mem_cons_self hk
      rw [orders_cons, hk] at hlex
      obtain ⟨hle, hrest⟩ : columnLe py key a b ∧ (columnLe py key b a →
          lexThen (orders py keys) (fun a b => a.position < b.position) a b) := hlex
      have hle' := (hab.ranked.columnLe_iff hba.ranked).1 hle
      rw [sortValueAt_nil hk, sortValueAt_nil hk] at hne
      by_cases htie : docRank py millis (key.valueOf py a.toRec)
          = docRank py millis (key.valueOf py b.toRec)
      · rw [precedes_cons_of_tie (by rw [sortValueAt_nil hk, sortValueAt_nil hk]; exact htie)]
        have hge : columnLe py key b a := by
          rw [hba.ranked.columnLe_iff hab.ranked, htie]
          simp
        refine ih hval' hasc' hlast' (hrest hge) ?_
        rwa [hab.eq_of_tie htie, Bool.true_and] at hne
      · apply precedes_cons_of_lt
        · rw [sortValueAt_nil hk, sortValueAt_nil hk]
          exact hab.ranked.doc
        · rw [sortValueAt_nil hk, sortValueAt_nil hk]
          split_ifs at hle' ⊢
          · exact lt_of_le_of_ne hle' (Ne.symm htie)
          · exact lt_of_le_of_ne hle' htie

/-! ## Reading all records -/

/-- Every record is an object of its own, at the position it has in the list. -/
def placed (records : List Rec) : List Placed := docPositions (records.map (⟨·, none⟩))

/-- The `sort` array `wrap_as_hits` gives a record. -/
def sortArray (py : Python) (millis : String → Option Int) (records : List Rec)
    (keys : List SortKey)
    (d : Placed) : List Json :=
  sortValues py millis keys (sortFieldKinds py millis records keys) d

/-- The next page of `size` records: the first of those after the `sort` array of the last hit, the
    first of all before there is one. -/
def searchAfterPage (py : Python) (millis : String → Option Int) (records : List Rec)
    (keys : List SortKey) (sorted : List Placed) (size : Nat) : Option Placed → List Placed
  | some last =>
    (applySearchAfter py millis sorted (sortArray py millis records keys last) keys).take size
  | none => sorted.take size

/-- The last hit a client has after `k` pages. -/
def lastHit (py : Python) (millis : String → Option Int) (records : List Rec) (keys : List SortKey)
    (sorted : List Placed) (size : Nat) : Nat → Option Placed
  | 0 => none
  | k + 1 =>
    let last := lastHit py millis records keys sorted size k
    (searchAfterPage py millis records keys sorted size last).getLast?.or last

/-- The `k`-th page a client reads, each after the last hit of the pages before it. -/
def searchAfterPages (py : Python) (millis : String → Option Int) (records : List Rec)
    (keys : List SortKey) (sorted : List Placed) (size k : Nat) : List Placed :=
  searchAfterPage py millis records keys sorted size
    (lastHit py millis records keys sorted size k)

/-- Whether a record stands after the `sort` array of a hit. -/
def afterHit (py : Python) (millis : String → Option Int) (records : List Rec) (keys : List SortKey)
    (last d : Placed) : Bool :=
  follows py (sortValues py millis keys [] d) (sortArray py millis records keys last) keys

lemma searchAfterPage_eq (records : List Rec) (keys : List SortKey) (sorted : List Placed)
    (size : Nat)
    (last : Option Placed) :
    searchAfterPage py millis records keys sorted size last
      = (beyond (afterHit py millis records keys) sorted last).take size := by
  cases last <;> rfl

lemma searchAfterPages_eq (records : List Rec) (keys : List SortKey) (sorted : List Placed)
    (size : Nat) :
    searchAfterPages py millis records keys sorted size
      = cursorPage (afterHit py millis records keys) size sorted := by
  have hlast : ∀ k, lastHit py millis records keys sorted size k
      = cursorAt (afterHit py millis records keys) size sorted k := by
    intro k
    induction k with
    | zero => rfl
    | succ k ih => rw [lastHit, ih, searchAfterPage_eq, cursorAt]
  funext k
  rw [searchAfterPages, hlast, searchAfterPage_eq, cursorPage]

lemma placed_toRec (records : List Rec) : (placed records).map (fun d => d.toRec) = records := by
  have h := congrArg (List.map Doc.toRec) (docPositions_toDoc (records.map (⟨·, none⟩)))
  simpa [Function.comp_def, placed] using h

lemma toRec_mem_of_mem_placed {records : List Rec} {d : Placed} (h : d ∈ placed records) :
    d.toRec ∈ records := by
  rw [← placed_toRec records]
  exact List.mem_map_of_mem h

lemma placed_positions (records : List Rec) :
    (placed records).Pairwise fun a b => a.position < b.position := by
  have hpos : (placed records).map Placed.position = List.range' 0 records.length := by
    rw [placed, docPositions_of_seeded, List.map_map]
    · have hsnd := List.zipIdx_map_snd 0 (records.map fun r => (⟨r, none⟩ : Doc))
      rw [List.length_map] at hsnd
      exact hsnd
    · intro d hd
      obtain ⟨r, -, rfl⟩ := List.mem_map.1 hd
      rfl
  have hlt := List.pairwise_lt_range' (s := 0) (n := records.length)
  rw [← hpos, List.pairwise_map] at hlt
  exact hlt

lemma applyEsSort_eq {spec : Json} {keys : List SortKey} {records : List Placed}
    (hkeys : sortKeysOf py spec = .ok keys)
    (h : ∀ key ∈ keys, key.positional = false → ∀ a ∈ records, ∀ b ∈ records,
      comparable (columnRank py key a.toRec) (columnRank py key b.toRec) = true) :
    applyEsSort py spec records = .ok (sortBy (orders py keys) records) := by
  rw [sortKeysOf] at hkeys
  rw [applyEsSort]
  cases ht : spec.truthy with
  | true =>
    rw [ht, if_pos rfl] at hkeys
    rw [hkeys]
    exact foldrM_sortColumn h
  | false =>
    rw [ht, if_neg Bool.false_ne_true] at hkeys
    cases hkeys
    rfl

/-- Under agreement the sorted records stand after one another by their arrays. -/
lemma Agreement.ordered {records : List Rec} {keys : List SortKey}
    (h : Agreement py millis records keys)
    (hdistinct : ∀ a ∈ placed records, ∀ b ∈ placed records, a.position ≠ b.position →
      Json.eqList (sortArray py millis records keys a) (sortArray py millis records keys b)
        = false) :
    Ordered (afterHit py millis records keys) (sortBy (orders py keys) (placed records)) := by
  have hperm := perm_sortBy (orders py keys) (placed records)
  have harray : ∀ d ∈ placed records,
      sortArray py millis records keys d = sortValues py millis keys [] d := fun d hd =>
    h.sortValues_eq (toRec_mem_of_mem_placed hd)
  refine ⟨?_, ?_⟩
  · intro a ha
    rw [afterHit, harray a (hperm.mem_iff.1 ha)]
    exact follows_self _ _
  · have hpos : (sortBy (orders py keys) (placed records)).Pairwise
        fun a b => a.position ≠ b.position := by
      rw [hperm.pairwise_iff Ne.symm]
      exact (placed_positions records).imp Nat.ne_of_lt
    refine ((pairwise_sortBy (orders py keys) (placed_positions records)).and hpos).imp_of_mem ?_
    intro a b ha hb hab
    rw [hperm.mem_iff] at ha hb
    have hne := hdistinct a ha b hb hab.2
    rw [harray a ha, harray b hb] at hne
    rw [afterHit, afterHit, harray a ha, harray b hb]
    have hval := fun key hkey hk =>
      And.intro (h.values key hkey hk _ (toRec_mem_of_mem_placed ha) _ (toRec_mem_of_mem_placed hb))
        (h.values key hkey hk _ (toRec_mem_of_mem_placed hb) _ (toRec_mem_of_mem_placed ha))
    exact precedes_of_lexThen hval h.ascending h.last hab.1 hne

/-- Two records that hold one number each. -/
def numbered : List Rec := [⟨none, [("n", .int 2)]⟩, ⟨none, [("n", .int 1)]⟩]

/-- A record with a number, and one without. -/
def halfNumbered : List Rec :=
  [⟨none, [("n", .int 1), ("id", .str "a")]⟩, ⟨none, [("id", .str "b")]⟩]

/-- A sort by the number, and by a field both records have. -/
def numberThenId : Json := .list [.dict [("n", .str "asc")], .dict [("id", .str "asc")]]

end Mockdr.Elastic
