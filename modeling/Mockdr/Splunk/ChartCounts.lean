import Mathlib.Algebra.BigOperators.Ring.Finset
import Mockdr.Splunk.Chart

/-!
# The counts of a chart

What `chart count over r by c` makes of some rows.

* `cells` are the counts of a row of the table: one for each value of the column field that has a
  column, one for those that are folded, and one for the rows without the column field.
* `Conserves`: every row of the table has these cells, each under its name, and together they count
  the rows that have the row field.
* `Separate`: the names of the columns do not meet each other, nor that of the row field.
* `WholeTable`: the table is not cut.
* `conserves_iff`: the counts are conserved exactly if the names are separate and the table is
  whole.
-/

namespace Mockdr

namespace Splunk

open Spl

variable (py : SplPython) (r c : String) (rows : List Row)

/-! ## The table -/

/-- How many rows have a pair of values. -/
def pairCount (a v : String) : ℕ :=
  rows.countP fun row => textOf py r row = some a ∧ textOf py c row = some v

/-- How many rows have a value of the row field and none of the column field. -/
def lackCount (a : String) : ℕ :=
  rows.countP fun row => textOf py r row = some a ∧ textOf py c row = none

/-- The counts of a row of the table. -/
def cells (a : String) : List (String × Value) :=
  ((countOver r c).named py rows).map (fun v => (v, .int (pairCount py r c rows a v)))
    ++ (if (countOver r c).folds py rows then
        [("OTHER", .int (((countOver r c).folded py rows).map (pairCount py r c rows a)).sum)]
      else [])
    ++ (if (countOver r c).hasNull py rows then [("NULL", .int (lackCount py r c rows a))] else [])

/-- What the cells of a row of the table count together. -/
def cellSum (row : Row) : ℤ :=
  ((row.entries.filter (·.1 ≠ r)).map fun p => match p.2 with
    | .int n => n
    | _ => 0).sum

/-- A row of the table: the value of the row field, and the cells. -/
def TableRow (a : String) (row : Row) : Prop :=
  ∃ source ∈ rows, textOf py r source = some a
    ∧ ∃ label, source.get r = some label ∧ row.entries = (r, label) :: cells py r c rows a

/-- The counts are conserved. -/
def Conserves : Prop :=
  ∃ out, cmdChart py (countOver r c) rows = some out
    ∧ List.Forall₂ (TableRow py r c rows) ((countOver r c).order py rows) out
    ∧ (out.map (cellSum r)).sum = rows.countP fun row => (textOf py r row).isSome

/-- The names of the columns do not meet each other, nor that of the row field. -/
structure Separate : Prop where
  rowField : r ∉ (countOver r c).columns py rows
  other : (countOver r c).folds py rows = true → "OTHER" ∉ (countOver r c).named py rows
  null : (countOver r c).hasNull py rows = true → "NULL" ∉ (countOver r c).values py rows

/-- There is a row of the table for every value of the row field. -/
def WholeTable : Prop := ((countOver r c).groups py rows).keys.length ≤ MAX_RESULT_ROWS

variable {py} {r c} {rows}

/-! ## Groups -/

namespace ChartSpec

variable {spec : ChartSpec}

lemma mem_grouped {row : Row} :
    row ∈ spec.grouped py rows ↔ row ∈ rows ∧ (spec.rowKey py row).isSome := by
  rw [grouped, List.mem_flatMap]
  constructor
  · rintro ⟨g, hg, hrow⟩
    obtain ⟨hmembers, -⟩ := Grouping.of_mem_groupsOf hg
    rw [hmembers] at hrow
    exact ⟨(List.mem_filter.1 hrow).1, by rw [Grouping.of_mem_members hrow]; rfl⟩
  · rintro ⟨hrow, hsome⟩
    obtain ⟨k, hk⟩ := Option.isSome_iff_exists.1 hsome
    exact ⟨_, Grouping.members_mem_groupsOf hrow hk, List.mem_filter.2 ⟨hrow, decide_eq_true hk⟩⟩

lemma mem_values {v : String} :
    v ∈ spec.values py rows ↔
      ∃ row ∈ spec.grouped py rows, textOf py spec.columnField row = some v := by
  rw [values, ((bySortable py).perm_sort _).mem_iff]
  exact Grouping.mem_keys_groupsOf

lemma nodup_values : (spec.values py rows).Nodup :=
  ((bySortable py).perm_sort _).nodup_iff.2 (Dict.nodup_keys _)

lemma perm_named_folded :
    (spec.named py rows ++ spec.folded py rows).Perm (spec.values py rows) := by
  rw [named, folded]
  split
  · have hnot : (fun v => decide (v ∉ spec.kept py rows))
        = fun v => !decide (v ∈ spec.kept py rows) := by
      funext v
      exact decide_not
    rw [hnot]
    exact List.filter_append_perm _ _
  · rw [List.append_nil]

lemma folds_of_folded_ne_nil (h : spec.folded py rows ≠ []) : spec.folds py rows = true := by
  by_contra hfolds
  exact h (if_neg hfolds)

lemma hasNull_iff (hnull : spec.useNull = true) : spec.hasNull py rows = true
    ↔ ∃ row ∈ spec.grouped py rows, textOf py spec.columnField row = none := by
  rw [hasNull, hnull, Bool.true_and, List.any_eq_true]
  simp only [Option.isNone_iff_eq_none]

lemma columns_of_grouped_nil (h : spec.grouped py rows = []) :
    spec.values py rows = [] ∧ spec.columns py rows = [] := by
  have hvalues : spec.values py rows = [] := by
    rw [List.eq_nil_iff_forall_not_mem]
    intro v hv
    obtain ⟨row, hrow, -⟩ := mem_values.1 hv
    rw [h] at hrow
    cases hrow
  have hfolds : spec.folds py rows = false := by
    rw [folds, hvalues]
    exact Bool.and_false _
  have hnull : spec.hasNull py rows = false := by
    rw [hasNull, h]
    exact Bool.and_false _
  refine ⟨hvalues, ?_⟩
  simp [columns, named, hfolds, hnull, hvalues]

end ChartSpec

/-! ## A row of the table -/

section

open ChartSpec

lemma cell_count (counted : List Row) :
    cell py ⟨"count", "", "count"⟩ counted = some (some (.int counted.length)) := by
  have hlower : py.lower "count" = "count" := by
    rw [py.lower_ascii "count" (by decide)]
    decide
  rw [cell]
  split
  · next hempty =>
    rw [List.isEmpty_iff.1 hempty]
    simp [hlower, COUNTING]
  · simp [aggregate, hlower]

lemma writeColumn_count (members : List Row) (record : Row) (column : String × ℕ) :
    (countOver r c).writeColumn py rows members record column
      = some (record.set column.1
          (.int ((countOver r c).inCell py rows members column.1 column.2).length)) := by
  simp [writeColumn, countOver, cell_count, cellName]

/-- What a column counts: the values that are folded, or its own. -/
def counted (py : SplPython) (r c : String) (rows : List Row) (column : String) : List String :=
  if column = "OTHER" ∧ (countOver r c).folded py rows ≠ [] then (countOver r c).folded py rows
  else [column]

/-- The cells of a group as they are written. -/
def written (py : SplPython) (r c : String) (rows : List Row) (members : List Row) :
    List (String × Value) :=
  ((countOver r c).columns py rows).map fun column =>
    (column, .int (members.countP fun row =>
      ((countOver r c).columnOf py row).any (· ∈ counted py r c rows column)))

/-- The last column is not `OTHER` if there is one for the rows without the column field. -/
lemma wanted_eq {column : String × ℕ} (h : column ∈ ((countOver r c).columns py rows).zipIdx) :
    (countOver r c).wanted py rows column.1 column.2 = counted py r c rows column.1 := by
  obtain ⟨column, position⟩ := column
  have hget := List.mem_zipIdx_iff_getElem?.1 h
  have hnull : column = "OTHER" → ((countOver r c).hasNull py rows
      && decide (position + 1 = ((countOver r c).columns py rows).length)) = false := by
    rintro rfl
    by_contra hlast
    rw [Bool.not_eq_false, Bool.and_eq_true, decide_eq_true_eq] at hlast
    have hcolumns : ∃ front, (countOver r c).columns py rows = front ++ ["NULL"] := by
      rw [columns, if_pos hlast.1]
      exact ⟨_, rfl⟩
    obtain ⟨front, hfront⟩ := hcolumns
    have hposition : position = front.length := by
      have hlength := hlast.2
      rw [hfront, List.length_append] at hlength
      exact Nat.add_right_cancel hlength
    simp only at hget
    rw [hfront, hposition, List.getElem?_concat_length] at hget
    exact absurd (Option.some.inj hget) (by decide)
  rw [wanted, counted]
  by_cases hother : column = "OTHER"
  · simp only [hnull hother, Bool.not_false, and_true]
    rfl
  · rw [if_neg fun h => hother h.1, if_neg fun h => hother h.1]

/-- The row of a group, its cells written one after another. -/
lemma record_count {members : List Row} {label : Value}
    (hlabel : (countOver r c).label members = some label) :
    (countOver r c).record py rows members
      = some ((written py r c rows members).foldl (fun record p => record.set p.1 p.2)
          (Dict.empty.set r label)) := by
  have hwrite : (countOver r c).writeColumn py rows members = fun record column =>
      pure (record.set column.1
        (.int ((countOver r c).inCell py rows members column.1 column.2).length)) := by
    funext record column
    exact writeColumn_count members record column
  have hcells : (((countOver r c).columns py rows).zipIdx.map fun column =>
      (column.1, Value.int ((countOver r c).inCell py rows members column.1 column.2).length))
      = written py r c rows members := by
    have hcongr : ∀ column ∈ ((countOver r c).columns py rows).zipIdx,
        (column.1, Value.int ((countOver r c).inCell py rows members column.1 column.2).length)
          = (column.1, Value.int (members.countP fun row =>
            ((countOver r c).columnOf py row).any (· ∈ counted py r c rows column.1))) := by
      intro column hcolumn
      rw [inCell, wanted_eq hcolumn, List.countP_eq_length_filter]
    rw [List.map_congr_left hcongr, written]
    conv_rhs => rw [← List.zipIdx_map_fst 0 ((countOver r c).columns py rows), List.map_map]
    rfl
  rw [record, hlabel, hwrite, ← hcells, List.foldl_map]
  exact List.foldlM_pure

/-! ## Groups of the table -/

lemma rowKey_eq (hr : r ≠ "") : (countOver r c).rowKey py = textOf py r := by
  funext row
  exact if_neg hr

lemma getD_groups (hr : r ≠ "") (a : String) :
    (((countOver r c).groups py rows).get a).getD [] = Grouping.members (textOf py r) a rows := by
  rw [groups, Grouping.getD_groupsOf, rowKey_eq hr]

lemma mem_groups (hr : r ≠ "") {a : String} :
    a ∈ ((countOver r c).groups py rows).keys ↔ ∃ row ∈ rows, textOf py r row = some a := by
  rw [groups, Grouping.mem_keys_groupsOf, rowKey_eq hr]

lemma mem_groups_of_order {a : String} (ha : a ∈ (countOver r c).order py rows) :
    a ∈ ((countOver r c).groups py rows).keys :=
  ((bySortable py).perm_sort _).mem_iff.1 (List.mem_of_mem_take ha)

lemma nodup_order : ((countOver r c).order py rows).Nodup :=
  (((bySortable py).perm_sort _).nodup_iff.2 (Dict.nodup_keys _)).sublist (List.take_sublist _ _)

lemma exists_get_of_textOf {field text : String} {row : Row} (h : textOf py field row = some text) :
    ∃ v, row.get field = some v := by
  cases hget : row.get field with
  | some v => exact ⟨v, rfl⟩
  | none =>
    rw [textOf, hget] at h
    cases h

lemma exists_label {a : String} (ha : ∃ row ∈ rows, textOf py r row = some a) :
    ∃ source ∈ rows, textOf py r source = some a ∧ ∃ label, source.get r = some label
      ∧ (countOver r c).label (Grouping.members (textOf py r) a rows) = some label := by
  obtain ⟨row, hrow, htext⟩ := ha
  have hmem : row ∈ Grouping.members (textOf py r) a rows :=
    List.mem_filter.2 ⟨hrow, decide_eq_true htext⟩
  obtain ⟨source, others, hmembers⟩ := List.exists_cons_of_ne_nil (List.ne_nil_of_mem hmem)
  have hsource : source ∈ Grouping.members (textOf py r) a rows := by
    rw [hmembers]
    exact List.mem_cons_self
  have hkey := Grouping.of_mem_members hsource
  obtain ⟨label, hlabel⟩ := exists_get_of_textOf hkey
  refine ⟨source, (List.mem_filter.1 hsource).1, hkey, label, hlabel, ?_⟩
  rw [ChartSpec.label, hmembers]
  exact hlabel

/-- The row of a value, as it is written. -/
def WrittenRow (py : SplPython) (r c : String) (rows : List Row) (a : String) (row : Row) : Prop :=
  ∃ source ∈ rows, textOf py r source = some a ∧ ∃ label, source.get r = some label
    ∧ row = (written py r c rows (Grouping.members (textOf py r) a rows)).foldl
      (fun record p => record.set p.1 p.2) (Dict.empty.set r label)

lemma exists_cmdChart (hr : r ≠ "") (hc : c ≠ "") :
    ∃ out, cmdChart py (countOver r c) rows = some out
      ∧ List.Forall₂ (WrittenRow py r c rows) ((countOver r c).order py rows) out := by
  have hall : ∀ a ∈ (countOver r c).order py rows, ∃ row, WrittenRow py r c rows a row
      ∧ (countOver r c).record py rows (Grouping.members (textOf py r) a rows) = some row := by
    intro a ha
    obtain ⟨source, hsource, htext, label, hget, hlabel⟩ :=
      exists_label (c := c) ((mem_groups hr).1 (mem_groups_of_order ha))
    exact ⟨_, ⟨source, hsource, htext, label, hget, rfl⟩, record_count hlabel⟩
  have hcolumn : (countOver r c).columnField = c := rfl
  obtain ⟨out, hout⟩ := exists_forall₂ hall
  refine ⟨out, ?_, hout.imp fun a row h => h.1⟩
  rw [cmdChart, mapM_eq_some_iff]
  refine hout.imp fun a row h => ?_
  simp only [hcolumn, if_neg hc, getD_groups hr]
  exact h.2

/-! ## Counts -/

lemma length_members (a v : String) :
    (Grouping.members (textOf py c) v (Grouping.members (textOf py r) a rows)).length
      = pairCount py r c rows a v := by
  rw [Grouping.members, Grouping.members, List.filter_filter, ← List.countP_eq_length_filter,
    pairCount]
  refine List.countP_congr fun row _ => ?_
  simp only [Bool.and_eq_true, decide_eq_true_eq, and_comm]

lemma countP_lack (a : String) :
    (Grouping.members (textOf py r) a rows).countP (fun row => (textOf py c row).isNone)
      = lackCount py r c rows a := by
  rw [Grouping.members, List.countP_filter, lackCount]
  refine List.countP_congr fun row _ => ?_
  simp only [Bool.and_eq_true, decide_eq_true_eq, Option.isNone_iff_eq_none, and_comm]

/-- Counted in a column with some values are their rows, and with `NULL` among them those without
    any value. -/
lemma countP_columnOf {ks : List String} (hks : ks.Nodup) (a : String) :
    ((Grouping.members (textOf py r) a rows).countP fun row =>
        ((countOver r c).columnOf py row).any (· ∈ ks))
      = (ks.map (pairCount py r c rows a)).sum
        + if "NULL" ∈ ks then lackCount py r c rows a else 0 := by
  have hvalues : (ks.map (pairCount py r c rows a)).sum
      = (Grouping.members (textOf py r) a rows).countP fun row =>
          (textOf py c row).any (· ∈ ks) := by
    rw [← Grouping.sum_length_members hks]
    exact congrArg List.sum (List.map_congr_left fun v _ => (length_members a v).symm)
  rw [hvalues, ← countP_lack]
  generalize Grouping.members (textOf py r) a rows = members
  induction members with
  | nil => simp
  | cons row members ih =>
    have hcolumn : ((countOver r c).columnOf py row).any (· ∈ ks)
        = ((textOf py c row).any (· ∈ ks) || (textOf py c row).isNone && decide ("NULL" ∈ ks)) := by
      have hfield : (countOver r c).columnField = c := rfl
      have hnull : (countOver r c).useNull = true ∧ (countOver r c).null = "NULL" := ⟨rfl, rfl⟩
      rw [columnOf, hfield]
      cases textOf py c row with
      | some text => simp
      | none => simp [hnull.1, hnull.2]
    rw [List.countP_cons, List.countP_cons, List.countP_cons, ih, hcolumn]
    cases textOf py c row with
    | some text => simp; omega
    | none =>
      by_cases hnull : "NULL" ∈ ks
      · simp [hnull]
        omega
      · simp [hnull]

lemma lackCount_eq_zero (hr : r ≠ "") (h : (countOver r c).hasNull py rows ≠ true) (a : String) :
    lackCount py r c rows a = 0 := by
  rw [lackCount, List.countP_eq_zero]
  intro row hrow hlack
  rw [decide_eq_true_eq] at hlack
  refine h ((hasNull_iff rfl).2 ⟨row, mem_grouped.2 ⟨hrow, ?_⟩, hlack.2⟩)
  rw [rowKey_eq hr, hlack.1]
  rfl

lemma pairCount_eq_zero (hr : r ≠ "") {v : String} (h : v ∉ (countOver r c).values py rows)
    (a : String) : pairCount py r c rows a v = 0 := by
  rw [pairCount, List.countP_eq_zero]
  intro row hrow hpair
  rw [decide_eq_true_eq] at hpair
  refine h (mem_values.2 ⟨row, mem_grouped.2 ⟨hrow, ?_⟩, hpair.2⟩)
  rw [rowKey_eq hr, hpair.1]
  rfl

lemma folded_ne_nil (h : (countOver r c).folds py rows = true) :
    (countOver r c).folded py rows ≠ [] := by
  intro hfolded
  have hperm := @perm_named_folded py rows (countOver r c)
  rw [hfolded, List.append_nil] at hperm
  have hlength := hperm.length_eq
  have hsubset : (countOver r c).named py rows ⊆ (countOver r c).kept py rows := by
    intro v hv
    rw [named, if_pos h] at hv
    exact of_decide_eq_true (List.mem_filter.1 hv).2
  have hnodup : ((countOver r c).named py rows).Nodup := hperm.nodup_iff.2 nodup_values
  have hkept := (List.subperm_of_subset hnodup hsubset).length_le.trans (List.length_take_le _ _)
  simp only [folds, Bool.and_eq_true, decide_eq_true_eq] at h
  omega

lemma nodup_folded : ((countOver r c).folded py rows).Nodup := by
  rw [folded]
  split
  · exact nodup_values.filter _
  · exact List.nodup_nil

lemma written_eq (a : String) :
    written py r c rows (Grouping.members (textOf py r) a rows)
      = ((countOver r c).columns py rows).map fun column =>
        (column, .int (((counted py r c rows column).map (pairCount py r c rows a)).sum
          + if "NULL" ∈ counted py r c rows column then lackCount py r c rows a else 0 : ℕ)) := by
  refine List.map_congr_left fun column _ => ?_
  have hnodup : (counted py r c rows column).Nodup := by
    rw [counted]
    split
    · exact nodup_folded
    · exact List.nodup_singleton _
  rw [countP_columnOf hnodup]

/-! ## Names -/

lemma columns_eq : (countOver r c).columns py rows
    = (countOver r c).named py rows
      ++ (if (countOver r c).folds py rows then ["OTHER"] else [])
      ++ (if (countOver r c).hasNull py rows then ["NULL"] else []) := by
  have huse : (countOver r c).useOther = true := rfl
  simp only [columns, huse, and_true]
  rfl

lemma fst_cells (a : String) :
    (cells py r c rows a).map Prod.fst = (countOver r c).columns py rows := by
  rw [columns_eq, cells, List.map_append, List.map_append, List.map_map]
  have hnamed : Prod.fst ∘ (fun v => (v, Value.int (pairCount py r c rows a v))) = id := rfl
  rw [hnamed, List.map_id]
  congr 1
  · congr 1
    split <;> rfl
  · split <;> rfl

lemma nodup_of_tableRow {a : String} {row : Row} (h : TableRow py r c rows a row) :
    (r :: (countOver r c).columns py rows).Nodup := by
  obtain ⟨_, _, _, label, _, hentries⟩ := h
  have hnodup := row.nodup
  rwa [hentries, List.map_cons, fst_cells] at hnodup

lemma nodup_named : ((countOver r c).named py rows).Nodup :=
  (perm_named_folded.nodup_iff.2 nodup_values).sublist (List.sublist_append_left _ _)

lemma nodup_of_separate (h : Separate py r c rows) :
    (r :: (countOver r c).columns py rows).Nodup := by
  have hsub := @perm_named_folded py rows (countOver r c)
  refine List.nodup_cons.2 ⟨h.rowField, ?_⟩
  rw [columns_eq]
  refine List.Nodup.append (List.Nodup.append nodup_named ?_ ?_) ?_ ?_
  · split
    · exact List.nodup_singleton _
    · exact List.nodup_nil
  · split
    · next hfolds =>
      rw [List.disjoint_singleton]
      exact h.other hfolds
    · exact List.disjoint_nil_right _
  · split
    · exact List.nodup_singleton _
    · exact List.nodup_nil
  · by_cases hnull : (countOver r c).hasNull py rows = true
    · rw [if_pos hnull, List.disjoint_singleton, List.mem_append, not_or]
      refine ⟨fun hmem => h.null hnull (hsub.subset (List.mem_append_left _ hmem)), ?_⟩
      split <;> decide
    · rw [if_neg hnull]
      exact List.disjoint_nil_right _

/-- With separate names, what is written are the counts. -/
lemma written_eq_cells (hr : r ≠ "") (h : Separate py r c rows) (a : String) :
    written py r c rows (Grouping.members (textOf py r) a rows) = cells py r c rows a := by
  have hlack : ∀ ks, ks ⊆ (countOver r c).values py rows →
      (if "NULL" ∈ ks then lackCount py r c rows a else 0) = 0 := by
    intro ks hks
    split
    · next hmem => exact lackCount_eq_zero hr (fun hnull => h.null hnull (hks hmem)) a
    · rfl
  have hperm := @perm_named_folded py rows (countOver r c)
  rw [written_eq, columns_eq, cells, List.map_append, List.map_append]
  congr 1
  · congr 1
    · refine List.map_congr_left fun v hv => ?_
      have hcounted : counted py r c rows v = [v] := by
        refine if_neg ?_
        rintro ⟨rfl, hfolded⟩
        exact h.other (folds_of_folded_ne_nil hfolded) hv
      rw [hcounted, hlack [v] fun w hw => List.mem_singleton.1 hw ▸
        hperm.subset (List.mem_append_left _ hv)]
      simp
    · split
      · next hfolds =>
        have hcounted : counted py r c rows "OTHER" = (countOver r c).folded py rows :=
          if_pos ⟨rfl, folded_ne_nil hfolds⟩
        rw [List.map_singleton, hcounted, hlack _ fun w hw =>
          hperm.subset (List.mem_append_right _ hw), Nat.add_zero]
      · rfl
  · split
    · next hnull =>
      have hcounted : counted py r c rows "NULL" = ["NULL"] :=
        if_neg fun h => absurd h.1 (by decide)
      rw [List.map_singleton, hcounted, if_pos List.mem_cons_self, List.map_singleton,
        List.sum_singleton, pairCount_eq_zero hr (h.null hnull), Nat.zero_add]
    · rfl

lemma entries_of_nodup (h : (r :: (countOver r c).columns py rows).Nodup) (members : List Row)
    (label : Value) :
    ((written py r c rows members).foldl (fun record p => record.set p.1 p.2)
      (Dict.empty.set r label)).entries = (r, label) :: written py r c rows members := by
  have hset : (Dict.empty.set r label : Row).entries = [(r, label)] := rfl
  rw [Dict.entries_foldl_set, hset, List.singleton_append]
  rw [hset, List.singleton_append, List.map_cons, written, List.map_map]
  have hnames : Prod.fst ∘ (fun column => (column, Value.int (members.countP fun row =>
      ((countOver r c).columnOf py row).any (· ∈ counted py r c rows column)))) = id := rfl
  rwa [hnames, List.map_id]

lemma tableRow_of_separate (hr : r ≠ "") (h : Separate py r c rows) {a : String} {row : Row}
    (hrow : WrittenRow py r c rows a row) : TableRow py r c rows a row := by
  obtain ⟨source, hsource, htext, label, hget, rfl⟩ := hrow
  refine ⟨source, hsource, htext, label, hget, ?_⟩
  rw [entries_of_nodup (nodup_of_separate h), written_eq_cells hr h]

/-! ## Sums -/

/-- The cells of a row count the rows of its value. -/
lemma cellSum_tableRow (hr : r ≠ "") {a : String} {row : Row} (h : TableRow py r c rows a row) :
    cellSum r row = (Grouping.members (textOf py r) a rows).length := by
  have hnodup := nodup_of_tableRow h
  obtain ⟨_, _, _, label, _, hentries⟩ := h
  have hcells : row.entries.filter (·.1 ≠ r) = cells py r c rows a := by
    have hothers : ∀ p ∈ cells py r c rows a, decide (p.1 ≠ r) = true := by
      intro p hp
      have hname : p.1 ∈ (countOver r c).columns py rows := by
        rw [← fst_cells a]
        exact List.mem_map_of_mem hp
      exact decide_eq_true fun hpr => (List.nodup_cons.1 hnodup).1 (hpr ▸ hname)
    rw [hentries, List.filter_cons_of_neg (by simp), List.filter_eq_self.2 hothers]
  have hsum : cellSum r row = (((countOver r c).named py rows).map (pairCount py r c rows a)).sum
      + (((countOver r c).folded py rows).map (pairCount py r c rows a)).sum
      + lackCount py r c rows a := by
    have hfolded : (countOver r c).folds py rows ≠ true →
        (((countOver r c).folded py rows).map (pairCount py r c rows a)).sum = 0 := by
      intro hfolds
      rw [folded, if_neg hfolds]
      rfl
    have hlack := @lackCount_eq_zero py r c rows hr
    rw [cellSum, hcells, cells, List.map_append, List.map_append, List.sum_append, List.sum_append,
      List.map_map]
    congr 1
    · congr 1
      · rw [Nat.cast_list_sum, List.map_map]
        rfl
      · by_cases hfolds : (countOver r c).folds py rows = true
        · rw [if_pos hfolds]
          simp
        · rw [if_neg hfolds, hfolded hfolds]
          rfl
    · by_cases hnull : (countOver r c).hasNull py rows = true
      · rw [if_pos hnull]
        simp
      · rw [if_neg hnull, hlack hnull]
        rfl
  have hpairs := ((@perm_named_folded py rows (countOver r c)).map
    (pairCount py r c rows a)).sum_eq
  rw [List.map_append, List.sum_append] at hpairs
  have hvalues : (((countOver r c).values py rows).map (pairCount py r c rows a)).sum
      = (Grouping.members (textOf py r) a rows).countP fun row => (textOf py c row).isSome := by
    rw [← List.map_congr_left fun v _ => length_members a v,
        Grouping.sum_length_members nodup_values]
    refine List.countP_congr fun row hrow => ?_
    rw [Option.any_eq_true]
    constructor
    · rintro ⟨text, htext, -⟩
      rw [htext]
      rfl
    · intro hsome
      obtain ⟨text, htext⟩ := Option.isSome_iff_exists.1 hsome
      refine ⟨text, htext, decide_eq_true (mem_values.2 ⟨row, mem_grouped.2
        ⟨(List.mem_filter.1 hrow).1, ?_⟩, htext⟩)⟩
      rw [rowKey_eq hr, Grouping.of_mem_members hrow]
      rfl
  have hlength := List.length_eq_countP_add_countP (fun row => (textOf py c row).isSome)
    (l := Grouping.members (textOf py r) a rows)
  have hlack : (Grouping.members (textOf py r) a rows).countP
      (fun row => decide ¬(textOf py c row).isSome = true) = lackCount py r c rows a := by
    rw [← countP_lack]
    refine List.countP_congr fun row _ => ?_
    simp
  rw [hlack, ← hvalues] at hlength
  rw [hsum, hlength, ← hpairs]
  push_cast
  rfl

lemma sum_tableRows (hr : r ≠ "") {out : List Row}
    (h : List.Forall₂ (TableRow py r c rows) ((countOver r c).order py rows) out) :
    (out.map (cellSum r)).sum
      = (rows.countP fun row => (textOf py r row).any (· ∈ (countOver r c).order py rows) : ℕ) := by
  rw [← Grouping.sum_length_members nodup_order, Nat.cast_list_sum, List.map_map]
  generalize (countOver r c).order py rows = order at h
  induction h with
  | nil => rfl
  | cons hrow _ ih =>
    rw [List.map_cons, List.map_cons, List.sum_cons, List.sum_cons, ih, cellSum_tableRow hr hrow]
    rfl

/-- The table counts every row with the row field exactly if it has a row for every value. -/
lemma countP_order_iff (hr : r ≠ "") :
    (rows.countP fun row => (textOf py r row).any (· ∈ (countOver r c).order py rows))
      = (rows.countP fun row => (textOf py r row).isSome) ↔ WholeTable py r c rows := by
  have hsort := (bySortable py).perm_sort ((countOver r c).groups py rows).keys
  constructor
  · intro h
    have hsub : (rows.filter fun row =>
        (textOf py r row).any (· ∈ (countOver r c).order py rows)).Sublist
        (rows.filter fun row => (textOf py r row).isSome) := by
      refine List.monotone_filter_right rows fun row hrow => ?_
      obtain ⟨text, htext, -⟩ := (Option.any_eq_true _ _).1 hrow
      rw [htext]
      rfl
    rw [List.countP_eq_length_filter, List.countP_eq_length_filter] at h
    have heq := hsub.eq_of_length h
    have hkeys : ((countOver r c).groups py rows).keys ⊆ (countOver r c).order py rows := by
      intro a ha
      obtain ⟨row, hrow, htext⟩ := (mem_groups hr).1 ha
      have hmem : row ∈ rows.filter fun row => (textOf py r row).isSome :=
        List.mem_filter.2 ⟨hrow, by rw [htext]; rfl⟩
      rw [← heq] at hmem
      have hany := (List.mem_filter.1 hmem).2
      rw [htext] at hany
      exact of_decide_eq_true hany
    exact (List.subperm_of_subset (Dict.nodup_keys _) hkeys).length_le.trans
        (List.length_take_le _ _)
  · intro h
    have horder : (countOver r c).order py rows
        = (bySortable py).sort ((countOver r c).groups py rows).keys :=
      List.take_of_length_le (hsort.length_eq ▸ h)
    refine List.countP_congr fun row hrow => ?_
    rw [horder, Option.any_eq_true]
    constructor
    · rintro ⟨text, htext, -⟩
      rw [htext]
      rfl
    · intro hsome
      obtain ⟨text, htext⟩ := Option.isSome_iff_exists.1 hsome
      exact ⟨text, htext, decide_eq_true (hsort.mem_iff.2 ((mem_groups hr).2 ⟨row, hrow, htext⟩))⟩

lemma cells_of_rows (hnodup : (r :: (countOver r c).columns py rows).Nodup) {a : String} {row : Row}
    (hwritten : WrittenRow py r c rows a row) (htable : TableRow py r c rows a row) :
    written py r c rows (Grouping.members (textOf py r) a rows) = cells py r c rows a := by
  obtain ⟨_, -, -, label, -, rfl⟩ := hwritten
  obtain ⟨_, -, -, label', -, hentries⟩ := htable
  rw [entries_of_nodup hnodup] at hentries
  exact (List.cons.inj hentries).2

/-- With a value called `NULL` among those that are folded, `OTHER` counts a row without a value
    too. -/
lemma written_ne_cells (hmem : "NULL" ∈ (countOver r c).folded py rows) {a : String} {row : Row}
    (hrow : row ∈ rows) (htext : textOf py r row = some a) (hlack : textOf py c row = none) :
    written py r c rows (Grouping.members (textOf py r) a rows) ≠ cells py r c rows a := by
  intro h
  have hfolds := folds_of_folded_ne_nil (List.ne_nil_of_mem hmem)
  have hcounted : counted py r c rows "OTHER" = (countOver r c).folded py rows :=
    if_pos ⟨rfl, List.ne_nil_of_mem hmem⟩
  have hpos : 0 < lackCount py r c rows a :=
    List.countP_pos_iff.2 ⟨row, hrow, decide_eq_true ⟨htext, hlack⟩⟩
  rw [written_eq, columns_eq, cells, if_pos hfolds, if_pos hfolds, List.map_append,
    List.map_append] at h
  have hfront := (List.append_inj h (by simp)).1
  have hcell := (List.append_inj hfront (by simp)).2
  rw [List.map_singleton, hcounted, if_pos hmem] at hcell
  have hcount : (((countOver r c).folded py rows).map (pairCount py r c rows a)).sum
      + lackCount py r c rows a
      = (((countOver r c).folded py rows).map (pairCount py r c rows a)).sum := by
    simpa using hcell
  omega

/-- With a row for every value, the rows of the table have their counts only if the names are
    separate. -/
lemma separate_of_tableRows (hr : r ≠ "") (hwhole : WholeTable py r c rows)
    (h : ∀ a ∈ (countOver r c).order py rows, ∃ row, WrittenRow py r c rows a row
      ∧ TableRow py r c rows a row) : Separate py r c rows := by
  have hsort := (bySortable py).perm_sort ((countOver r c).groups py rows).keys
  have horder : ∀ {row a}, row ∈ rows → textOf py r row = some a →
      a ∈ (countOver r c).order py rows := by
    intro row a hrow htext
    rw [order, List.take_of_length_le (hsort.length_eq ▸ hwhole)]
    exact hsort.mem_iff.2 ((mem_groups hr).2 ⟨row, hrow, htext⟩)
  have hgrouped : ∀ row ∈ (countOver r c).grouped py rows, ∃ a, textOf py r row = some a
      ∧ a ∈ (countOver r c).order py rows := by
    intro row hrow
    obtain ⟨hrow, hsome⟩ := mem_grouped.1 hrow
    rw [rowKey_eq hr] at hsome
    obtain ⟨a, ha⟩ := Option.isSome_iff_exists.1 hsome
    exact ⟨a, ha, horder hrow ha⟩
  by_cases hnil : (countOver r c).grouped py rows = []
  · obtain ⟨hvalues, hcolumns⟩ := columns_of_grouped_nil hnil
    refine ⟨hcolumns ▸ List.not_mem_nil, fun hfolds => ?_, fun _ => hvalues ▸ List.not_mem_nil⟩
    rw [folds, hvalues] at hfolds
    exact absurd hfolds (by simp)
  · obtain ⟨row, others, hcons⟩ := List.exists_cons_of_ne_nil hnil
    obtain ⟨a, -, ha⟩ := hgrouped row (hcons ▸ List.mem_cons_self)
    obtain ⟨_, -, htable⟩ := h a ha
    have hnodup := nodup_of_tableRow htable
    obtain ⟨hfield, hcolumns⟩ := List.nodup_cons.1 hnodup
    refine ⟨hfield, fun hfolds => ?_, fun hnull hmem => ?_⟩
    · rw [columns_eq, if_pos hfolds] at hcolumns
      have hdisjoint := (List.nodup_append.1 (List.nodup_append.1 hcolumns).1).2.2
      exact fun hmem => hdisjoint _ hmem _ List.mem_cons_self rfl
    · rw [columns_eq, if_pos hnull] at hcolumns
      have hdisjoint := (List.nodup_append.1 hcolumns).2.2
      rcases List.mem_append.1 (perm_named_folded.mem_iff.2 hmem) with hnamed | hfolded
      · exact hdisjoint _ (List.mem_append_left _ hnamed) _ List.mem_cons_self rfl
      · obtain ⟨lacking, hlacking, hlack⟩ := (hasNull_iff rfl).1 hnull
        obtain ⟨b, hb, hbo⟩ := hgrouped lacking hlacking
        obtain ⟨_, hwritten, htable⟩ := h b hbo
        have hcells := cells_of_rows hnodup hwritten htable
        exact absurd hcells (written_ne_cells hfolded (mem_grouped.1 hlacking).1 hb hlack)

/-- The counts of a chart are conserved exactly if the names of its columns are separate and it has
    a row for every value of the row field. -/
theorem conserves_iff (hr : r ≠ "") (hc : c ≠ "") :
    Conserves py r c rows ↔ Separate py r c rows ∧ WholeTable py r c rows := by
  obtain ⟨out, hchart, hwritten⟩ := @exists_cmdChart py r c rows hr hc
  constructor
  · rintro ⟨out', hchart', htable, hsum⟩
    obtain rfl := Option.some.inj (hchart.symm.trans hchart')
    rw [sum_tableRows hr htable] at hsum
    have hwhole := (countP_order_iff hr).1 (Nat.cast_injective hsum)
    refine ⟨separate_of_tableRows hr hwhole fun a ha => ?_, hwhole⟩
    have hboth := List.Forall₂.mp (fun _ _ hw ht => And.intro hw ht) hwritten htable
    obtain ⟨i, hi⟩ := List.mem_iff_getElem?.1 ha
    obtain ⟨row, -, hrow⟩ := exists_getElem?_of_forall₂ hboth hi
    exact ⟨row, hrow⟩
  · rintro ⟨hseparate, hwhole⟩
    have htable := hwritten.imp fun a row hrow => tableRow_of_separate hr hseparate hrow
    refine ⟨out, hchart, htable, ?_⟩
    rw [sum_tableRows hr htable, (countP_order_iff hr).2 hwhole]

/-- A row of a host with an action. -/
def actionRow (action : String) : Row :=
  (Dict.empty.set "host" (.str "web")).set "action" (.str action)

/-- A row with an action and one without: two counts of one. -/
theorem two_rows_conserved :
    Conserves asciiSplPython "host" "action"
      [actionRow "allow", Dict.empty.set "host" (.str "db")] := by
  refine (conserves_iff (by decide) (by decide)).2
    ⟨⟨by decide +kernel, by decide +kernel, by decide +kernel⟩, ?_⟩
  rw [WholeTable]
  decide +kernel

/-- Twelve rows of one host, two of them with an action called `OTHER`, which is kept. -/
def otherRows : List Row :=
  ["OTHER", "OTHER", "a", "b", "c", "d", "e", "f", "g", "h", "i", "j"].map actionRow

/-- The column into which an action is folded is written over that of the action called `OTHER`: of
    twelve rows ten are counted. -/
theorem other_overwritten :
    (cmdChart asciiSplPython (countOver "host" "action") otherRows).map
        (fun out => (out.map (cellSum "host")).sum) = some 10
      ∧ ¬Conserves asciiSplPython "host" "action" otherRows := by
  have hsum : (cmdChart asciiSplPython (countOver "host" "action") otherRows).map
      (fun out => (out.map (cellSum "host")).sum) = some 10 := by decide +kernel
  refine ⟨hsum, ?_⟩
  rintro ⟨out, hout, -, htotal⟩
  rw [hout, Option.map_some, htotal] at hsum
  have htwelve : (otherRows.countP fun row => (textOf asciiSplPython "host" row).isSome) = 12 := by
    decide +kernel
  rw [htwelve] at hsum
  exact absurd (Option.some.inj hsum) (by decide)

end

end Splunk

end Mockdr
