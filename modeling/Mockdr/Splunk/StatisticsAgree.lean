import Mockdr.Lib.Except
import Mockdr.Splunk.Statistics

/-!
# Running, group and whole statistics

`streamstats`, `eventstats` and `stats` compute the same aggregations, over the rows of a group up
to a row, over all of them on each row, and over all of them in a row of their own.

* `Computes` ties what `stats` answers for the rows of one group to the values of the aggregations;
  `Given` says that a row is given such values, unless it is in no group.
* `streamFrom_given` goes along the loop of `streamstats`: what was seen of a group are its members
  among the rows before.
* `statistics_agree`: each row of `streamstats` is given what `stats` computes of its group up to
  there, the last one of a group and each of `eventstats` what is in the row of the group.
-/

namespace Mockdr

namespace Splunk

open Grouping (members getD_groupsOf members_append members_singleton_self members_singleton_of_ne
  of_mem_members mem_keys_groupsOf keys_groupsOf_of_forall)

variable (py : StatsPython) (aggs : List Aggregation) (byFields : List String)

/-- The rows of a group among some rows. -/
def groupRows (key : List String) (rows : List Row) : List Row :=
  members (groupKey py byFields) key rows

/-- The row that `stats` writes for a group with some values; without by-fields none at all if there
    are no values. -/
def statsRow (key : List String) (values : Row) : List Row :=
  if byFields.isEmpty then (if values.entries.isEmpty then [] else [values])
  else [updated (keyRow byFields key) values]

/-- What `stats` answers for the rows of a group are the values of the aggregations. -/
def Computes (key : List String) (rows : List Row) (values : Row) : Prop :=
  cmdStats py aggs byFields (groupRows py byFields key rows) = some (statsRow byFields key values)
    ∧ aggregated py (orCount aggs) (groupRows py byFields key rows) = some values

/-- A row is given values of its group, and otherwise left as it is; a row without a group is
    left. -/
def Given (values : List String → Row → Prop) (row : Row) (out : Option Row) : Prop :=
  match groupKey py byFields row with
  | some key => ∃ record, values key record ∧ out = some (updated row record)
  | none => out = some row

variable {py aggs byFields}

/-! ## `stats` of a group -/

lemma groupKey_nil (row : Row) : groupKey py [] row = some [] := rfl

/-- `stats` of rows that have one key. -/
lemma cmdStats_of_forall (aggs : List Aggregation) {key : List String} {rows : List Row}
    (hne : rows ≠ []) (h : ∀ row ∈ rows, groupKey py byFields row = some key) :
    cmdStats py aggs byFields rows
      = (aggregated py (orCount aggs) rows).map (statsRow byFields key) := by
  unfold cmdStats statsRow
  by_cases hby : byFields.isEmpty = true
  · simp only [hby, if_true]
    cases aggregated py (orCount aggs) rows <;> rfl
  · have hkeys : (groupsOf py byFields rows).keys = [key] := keys_groupsOf_of_forall hne h
    have hrows : ((groupsOf py byFields rows).get key).getD [] = rows := by
      rw [groupsOf, getD_groupsOf, members, List.filter_eq_self]
      exact fun row hrow => decide_eq_true (h row hrow)
    have hsort : (byKey py).sort [key] = [key] := rfl
    simp only [hby, Bool.false_eq_true, if_false, hkeys, hsort]
    rw [List.mapM_cons, List.mapM_nil, hrows]
    cases aggregated py (orCount aggs) rows <;> rfl

lemma computes_iff {key : List String} {rows : List Row} {row : Row} (hrow : row ∈ rows)
    (hkey : groupKey py byFields row = some key) {values : Row} :
    Computes py aggs byFields key rows values
      ↔ aggregated py (orCount aggs) (groupRows py byFields key rows) = some values := by
  have hmem : row ∈ groupRows py byFields key rows :=
    List.mem_filter.2 ⟨hrow, decide_eq_true hkey⟩
  have hstats := cmdStats_of_forall aggs (List.ne_nil_of_mem hmem)
    fun row h => of_mem_members h
  constructor
  · exact fun h => h.2
  · intro h
    refine ⟨?_, h⟩
    rw [hstats, h]
    rfl

/-! ## The loop of `streamstats` -/

lemma streamFrom_cons_none {seen : Dict (List String) (List Row)} {previous : Option (List String)}
    {row : Row} {rest : List Row} (h : groupKey py byFields row = none) :
    streamFrom py aggs byFields .default seen previous (row :: rest)
      = (streamFrom py aggs byFields .default seen previous rest).map (row :: ·) := by
  rw [streamFrom, h]

lemma streamFrom_cons_some {seen : Dict (List String) (List Row)} {previous : Option (List String)}
    {row : Row} {rest : List Row} {key : List String} (h : groupKey py byFields row = some key) :
    streamFrom py aggs byFields .default seen previous (row :: rest)
      = (aggregated py aggs ((seen.get key).getD [] ++ [row])).bind fun record =>
        (streamFrom py aggs byFields .default
          (seen.set key ((seen.get key).getD [] ++ [row])) (some key) rest).map
            (updated row record :: ·) := by
  rw [streamFrom, h]
  simp only [StreamOptions.default, resets, withinSpan, Bool.false_and, Bool.or_self,
    Bool.false_eq_true, if_false, if_true, Option.bind_eq_bind, Option.bind_some, Option.pure_def]
  cases aggregated py aggs ((seen.get key).getD [] ++ [row]) with
  | none => rfl
  | some record =>
    simp only [Option.bind_some]
    rw [Option.map_eq_bind]
    rfl

/-- What was seen of the groups are their members among the rows before. -/
def Seen (py : StatsPython) (byFields : List String) (done : List Row)
    (seen : Dict (List String) (List Row)) : Prop :=
  ∀ key, (seen.get key).getD [] = groupRows py byFields key done

lemma Seen.concat_none {done : List Row} {seen : Dict (List String) (List Row)} {row : Row}
    (hseen : Seen py byFields done seen) (h : groupKey py byFields row = none) :
    Seen py byFields (done ++ [row]) seen := by
  intro key
  rw [hseen key, groupRows, groupRows, members_append,
    members_singleton_of_ne (by rw [h]; exact Option.some_ne_none key ∘ Eq.symm), List.append_nil]

lemma Seen.concat_some {done : List Row} {seen : Dict (List String) (List Row)} {row : Row}
    {key : List String} (hseen : Seen py byFields done seen)
    (h : groupKey py byFields row = some key) :
    Seen py byFields (done ++ [row]) (seen.set key ((seen.get key).getD [] ++ [row])) := by
  intro key'
  rw [Dict.get_set, groupRows, members_append]
  split_ifs with hkey
  · rw [hkey, members_singleton_self h, Option.getD_some, hseen key, groupRows]
  · rw [members_singleton_of_ne (by rw [h]; exact fun hsame => hkey (Option.some.inj hsame).symm),
      List.append_nil, hseen key', groupRows]

lemma Seen.append_row {done : List Row} {seen : Dict (List String) (List Row)} {row : Row}
    {key : List String} (hseen : Seen py byFields done seen)
    (h : groupKey py byFields row = some key) :
    (seen.get key).getD [] ++ [row] = groupRows py byFields key (done ++ [row]) := by
  rw [hseen key, groupRows, groupRows, members_append, members_singleton_self h]

/-- Each row that the loop goes through is given what `stats` computes of its group up to there. -/
lemma streamFrom_given {done rest out : List Row} {seen : Dict (List String) (List Row)}
    {previous : Option (List String)} (hseen : Seen py byFields done seen)
    (h : streamFrom py (orCount aggs) byFields .default seen previous rest = some out) :
    out.length = rest.length ∧ ∀ i row, rest[i]? = some row →
      Given py byFields (fun key => Computes py aggs byFields key (done ++ rest.take (i + 1))) row
        out[i]? := by
  induction rest generalizing done seen previous out with
  | nil =>
    obtain rfl := Option.some.inj h
    exact ⟨rfl, fun i row hrow => by simp at hrow⟩
  | cons row rest ih =>
    -- the rows behind `row` have one more row before them
    have hbehind : ∀ {seen' : Dict (List String) (List Row)} {previous' : Option (List String)}
        {out' : List Row} (row' : Row), Seen py byFields (done ++ [row]) seen' →
        streamFrom py (orCount aggs) byFields .default seen' previous' rest = some out' →
        (row' :: out').length = (row :: rest).length
          ∧ ∀ i later, (row :: rest)[i + 1]? = some later → Given py byFields
            (fun key => Computes py aggs byFields key (done ++ (row :: rest).take (i + 1 + 1)))
            later (row' :: out')[i + 1]? := by
      intro seen' previous' out' row' hseen' hout
      obtain ⟨hlength, hgiven⟩ := ih hseen' hout
      refine ⟨congrArg (· + 1) hlength, fun i later hlater => ?_⟩
      rw [List.getElem?_cons_succ] at hlater ⊢
      have hlater' := hgiven i later hlater
      rw [List.append_assoc, List.singleton_append] at hlater'
      exact hlater'
    cases hkey : groupKey py byFields row with
    | none =>
      rw [streamFrom_cons_none hkey, Option.map_eq_some_iff] at h
      obtain ⟨out', hout, rfl⟩ := h
      obtain ⟨hlength, hgiven⟩ := hbehind row (hseen.concat_none hkey) hout
      refine ⟨hlength, fun i later hlater => ?_⟩
      cases i with
      | zero =>
        obtain rfl := Option.some.inj hlater
        simp only [Given, hkey]
        rfl
      | succ i => exact hgiven i later hlater
    | some key =>
      rw [streamFrom_cons_some hkey, Option.bind_eq_some_iff] at h
      obtain ⟨record, hrecord, h⟩ := h
      obtain ⟨out', hout, rfl⟩ := Option.map_eq_some_iff.1 h
      obtain ⟨hlength, hgiven⟩ := hbehind (updated row record) (hseen.concat_some hkey) hout
      refine ⟨hlength, fun i later hlater => ?_⟩
      cases i with
      | zero =>
        obtain rfl := Option.some.inj hlater
        rw [hseen.append_row hkey] at hrecord
        simp only [Given, hkey]
        refine ⟨record, ?_, rfl⟩
        exact (computes_iff (List.mem_append_right _ List.mem_cons_self) hkey).2 hrecord
      | succ i => exact hgiven i later hlater

/-- `stats` raises for the rows of a group where their aggregations do. -/
lemma cmdStats_groupRows_eq_none_iff (aggs : List Aggregation) {key : List String}
    {rows : List Row} {row : Row} (hrow : row ∈ rows) (hkey : groupKey py byFields row = some key) :
    cmdStats py aggs byFields (groupRows py byFields key rows) = none
      ↔ aggregated py (orCount aggs) (groupRows py byFields key rows) = none := by
  have hmem : row ∈ groupRows py byFields key rows :=
    List.mem_filter.2 ⟨hrow, decide_eq_true hkey⟩
  rw [cmdStats_of_forall aggs (List.ne_nil_of_mem hmem) fun row h => of_mem_members h,
    Option.map_eq_none_iff]

/-- `stats` raises for the rows of the group of a row up to there. -/
def Raises (py : StatsPython) (aggs : List Aggregation) (byFields : List String)
    (done rest : List Row) : Prop :=
  ∃ i row key, rest[i]? = some row ∧ groupKey py byFields row = some key
    ∧ cmdStats py aggs byFields (groupRows py byFields key (done ++ rest.take (i + 1))) = none

lemma raises_cons_iff {done rest : List Row} {row : Row} :
    Raises py aggs byFields done (row :: rest)
      ↔ (∃ key, groupKey py byFields row = some key
          ∧ cmdStats py aggs byFields (groupRows py byFields key (done ++ [row])) = none)
        ∨ Raises py aggs byFields (done ++ [row]) rest := by
  constructor
  · rintro ⟨i, later, key, hlater, hkey, hnone⟩
    cases i with
    | zero =>
      obtain rfl := Option.some.inj hlater
      exact .inl ⟨key, hkey, hnone⟩
    | succ i =>
      refine .inr ⟨i, later, key, hlater, hkey, ?_⟩
      rw [List.append_assoc]
      exact hnone
  · rintro (⟨key, hkey, hnone⟩ | ⟨i, later, key, hlater, hkey, hnone⟩)
    · exact ⟨0, row, key, rfl, hkey, hnone⟩
    · refine ⟨i + 1, later, key, hlater, hkey, ?_⟩
      rw [List.append_assoc] at hnone
      exact hnone

/-- The loop raises where `stats` does for the rows of a group up to one of them. -/
lemma streamFrom_eq_none_iff {done rest : List Row} {seen : Dict (List String) (List Row)}
    {previous : Option (List String)} (hseen : Seen py byFields done seen) :
    streamFrom py (orCount aggs) byFields .default seen previous rest = none
      ↔ Raises py aggs byFields done rest := by
  induction rest generalizing done seen previous with
  | nil =>
    constructor
    · rintro ⟨⟩
    · rintro ⟨i, row, key, hrow, -⟩
      simp at hrow
  | cons row rest ih =>
    rw [raises_cons_iff]
    cases hkey : groupKey py byFields row with
    | none =>
      rw [streamFrom_cons_none hkey, Option.map_eq_none_iff, ih (hseen.concat_none hkey)]
      simp only [reduceCtorEq, false_and, exists_false, false_or]
    | some key =>
      have hstats := cmdStats_groupRows_eq_none_iff aggs
        (List.mem_append_right done (List.mem_singleton_self row)) hkey
      rw [streamFrom_cons_some hkey, hseen.append_row hkey]
      cases hrecord : aggregated py (orCount aggs) (groupRows py byFields key (done ++ [row])) with
      | none =>
        simp only [Option.bind_none, true_iff]
        exact .inl ⟨key, rfl, hstats.2 hrecord⟩
      | some record =>
        have hanswers : ¬∃ key', some key = some key'
            ∧ cmdStats py aggs byFields (groupRows py byFields key' (done ++ [row])) = none := by
          rintro ⟨key', hsame, hnone⟩
          obtain rfl := Option.some.inj hsame
          rw [hstats.1 hnone] at hrecord
          cases hrecord
        simp only [Option.bind_some, Option.map_eq_none_iff, Option.some.injEq] at hanswers ⊢
        rw [or_iff_right hanswers, ← hseen.append_row hkey]
        exact ih (hseen.concat_some hkey)

/-! ## All rows of a group -/

/-- `stats` writes a row for each group, unless it raises. -/
lemma stats_row {rows stats : List Row} (h : cmdStats py aggs byFields rows = some stats)
    {row : Row} (hrow : row ∈ rows) {key : List String}
    (hkey : groupKey py byFields row = some key) :
    ∃ values, Computes py aggs byFields key rows values ∧ statsRow byFields key values ⊆ stats := by
  unfold cmdStats at h
  by_cases hby : byFields.isEmpty = true
  · -- without by-fields every row is in the one group
    obtain rfl := List.isEmpty_iff.1 hby
    have hall : ∀ row ∈ rows, groupKey py [] row = some key := by
      intro row' _
      rw [groupKey_nil, ← hkey, groupKey_nil]
    have hrows : groupRows py [] key rows = rows :=
      List.filter_eq_self.2 fun row' hrow' => decide_eq_true (hall row' hrow')
    simp only [List.isEmpty_nil, if_true] at h
    obtain ⟨whole, hwhole, h⟩ := Option.bind_eq_some_iff.1 h
    refine ⟨whole, (computes_iff hrow hkey).2 (by rw [hrows]; exact hwhole), ?_⟩
    have hsome := Option.some.inj h
    rw [statsRow, List.isEmpty_nil, if_pos rfl, hsome]
    exact List.Subset.refl _
  · simp only [hby, Bool.false_eq_true, if_false] at h
    have hmem : key ∈ (byKey py).sort (groupsOf py byFields rows).keys :=
      ((byKey py).perm_sort _).mem_iff.2 (mem_keys_groupsOf.2 ⟨row, hrow, hkey⟩)
    obtain ⟨i, hi⟩ := List.mem_iff_getElem?.1 hmem
    obtain ⟨out, hout, hwritten⟩ := exists_getElem?_of_forall₂ (mapM_eq_some_iff.1 h) hi
    obtain ⟨values, hvalues, rfl⟩ := Option.map_eq_some_iff.1 hwritten
    rw [groupsOf, getD_groupsOf] at hvalues
    refine ⟨values, (computes_iff hrow hkey).2 hvalues, ?_⟩
    rw [statsRow, if_neg hby, List.cons_subset]
    exact ⟨List.mem_of_getElem? hout, List.nil_subset _⟩

/-- Each row of `eventstats` is given what `stats` computes of its group. -/
lemma eventstats_given {rows out : List Row}
    (h : cmdEventstats py aggs byFields rows = some out) :
    out.length = rows.length ∧ ∀ (i : Nat) row, rows[i]? = some row →
      Given py byFields (fun key => Computes py aggs byFields key rows) row out[i]? := by
  have hrows := mapM_eq_some_iff.1 h
  refine ⟨hrows.length_eq.symm, fun i row hrow => ?_⟩
  obtain ⟨out', hout, hgiven⟩ := exists_getElem?_of_forall₂ hrows hrow
  unfold Given
  cases hkey : groupKey py byFields row with
  | none =>
    simp only [hkey] at hgiven ⊢
    rw [hout, hgiven]
  | some key =>
    simp only [hkey] at hgiven ⊢
    obtain ⟨values, hvalues, rfl⟩ := Option.map_eq_some_iff.1 hgiven
    rw [groupsOf, getD_groupsOf] at hvalues
    exact ⟨values, (computes_iff (List.mem_of_getElem? hrow) hkey).2 hvalues, hout⟩

lemma exists_ite_some {α : Type} {p : Prop} [Decidable p] {x y : Option α} (hx : ∃ a, x = some a)
    (hy : ∃ a, y = some a) : ∃ a, (if p then x else y) = some a := by
  split_ifs
  · exact hx
  · exact hy

lemma exists_aggregate_nil (py : StatsPython) (func field : String) :
    ∃ value, aggregate py func field [] = some value := by
  unfold aggregate
  repeat' refine exists_ite_some ?_ ?_
  all_goals exact ⟨_, rfl⟩

lemma exists_aggregated_nil (py : StatsPython) (aggs : List Aggregation) :
    ∃ values, aggregated py aggs [] = some values := by
  unfold aggregated
  generalize (Dict.empty : Row) = record
  induction aggs generalizing record with
  | nil => exact ⟨record, rfl⟩
  | cons agg aggs ih =>
    obtain ⟨value, hvalue⟩ := exists_aggregate_nil py agg.func agg.field
    rw [List.foldlM_cons, hvalue]
    exact ih _

/-- `eventstats` raises where `stats` does. -/
lemma eventstats_eq_none_iff {rows : List Row} :
    cmdEventstats py aggs byFields rows = none ↔ cmdStats py aggs byFields rows = none := by
  have hevent : cmdEventstats py aggs byFields rows = none ↔ ∃ row ∈ rows, ∃ key,
      groupKey py byFields row = some key
        ∧ aggregated py (orCount aggs) (groupRows py byFields key rows) = none := by
    rw [cmdEventstats, mapM_eq_none_iff]
    refine exists_congr fun row => and_congr_right fun _ => ?_
    cases hkey : groupKey py byFields row with
    | none => simp only [reduceCtorEq, false_and, exists_false]
    | some key =>
      simp only [Option.map_eq_none_iff, groupsOf, getD_groupsOf, Option.some.injEq,
        exists_eq_left', groupRows]
  rw [hevent]
  unfold cmdStats
  by_cases hby : byFields.isEmpty = true
  · obtain rfl := List.isEmpty_iff.1 hby
    have hrows : groupRows py [] [] rows = rows :=
      List.filter_eq_self.2 fun row _ => decide_eq_true (groupKey_nil row)
    simp only [List.isEmpty_nil, if_true, groupKey_nil, Option.some.injEq, exists_eq_left', hrows]
    constructor
    · rintro ⟨row, -, hnone⟩
      rw [hnone]
      rfl
    · intro hnone
      cases rows with
      | nil =>
        obtain ⟨values, hvalues⟩ := exists_aggregated_nil py (orCount aggs)
        rw [hvalues] at hnone
        cases hnone
      | cons row rows =>
        refine ⟨row, List.mem_cons_self, ?_⟩
        cases haggregated : aggregated py (orCount aggs) (row :: rows) with
        | none => rfl
        | some whole =>
          rw [haggregated] at hnone
          cases hnone
  · simp only [hby, Bool.false_eq_true, if_false]
    rw [mapM_eq_none_iff]
    constructor
    · rintro ⟨row, hrow, key, hkey, hnone⟩
      refine ⟨key, ((byKey py).perm_sort _).mem_iff.2 (mem_keys_groupsOf.2 ⟨row, hrow, hkey⟩), ?_⟩
      rw [groupsOf, getD_groupsOf, Option.map_eq_none_iff]
      exact hnone
    · rintro ⟨key, hmem, hnone⟩
      obtain ⟨row, hrow, hkey⟩ := mem_keys_groupsOf.1 (((byKey py).perm_sort _).mem_iff.1 hmem)
      rw [groupsOf, getD_groupsOf, Option.map_eq_none_iff] at hnone
      exact ⟨row, hrow, key, hkey, hnone⟩

/-! ## The three commands -/

/-- What is claimed of the three commands on some rows. -/
structure Agree (py : StatsPython) (aggs : List Aggregation) (byFields : List String)
    (rows : List Row) : Prop where
  /-- a row of `streamstats` is given what `stats` computes of its group up to the row -/
  running : ∀ out, cmdStreamstats py aggs byFields .default rows = some out →
    out.length = rows.length ∧ ∀ (i : Nat) row, rows[i]? = some row →
      Given py byFields (fun key => Computes py aggs byFields key (rows.take (i + 1))) row out[i]?
  /-- the last row of a group is given what is in its row of `stats` -/
  last : ∀ out stats, cmdStreamstats py aggs byFields .default rows = some out →
    cmdStats py aggs byFields rows = some stats → ∀ (i : Nat) row key, rows[i]? = some row →
      groupKey py byFields row = some key →
      (∀ later ∈ rows.drop (i + 1), groupKey py byFields later ≠ some key) →
      ∃ values, Computes py aggs byFields key rows values
        ∧ statsRow byFields key values ⊆ stats ∧ out[i]? = some (updated row values)
  /-- and so is each row of `eventstats` -/
  whole : ∀ out, cmdEventstats py aggs byFields rows = some out →
    out.length = rows.length ∧ ∀ (i : Nat) row, rows[i]? = some row →
      Given py byFields (fun key values => Computes py aggs byFields key rows values
        ∧ ∃ stats, cmdStats py aggs byFields rows = some stats
          ∧ statsRow byFields key values ⊆ stats) row out[i]?
  /-- `streamstats` raises where `stats` does for the rows of a group up to one of them -/
  running_raises : cmdStreamstats py aggs byFields .default rows = none
    ↔ Raises py aggs byFields [] rows
  /-- `eventstats` raises where `stats` does -/
  whole_raises : cmdEventstats py aggs byFields rows = none
    ↔ cmdStats py aggs byFields rows = none

/-- Without options, `streamstats` is its loop. -/
lemma cmdStreamstats_default (rows : List Row) :
    cmdStreamstats py aggs byFields .default rows
      = streamFrom py (orCount aggs) byFields .default Dict.empty none rows := by
  rw [cmdStreamstats]
  simp [StreamOptions.default]

lemma seen_nil : Seen py byFields [] Dict.empty := fun _ => rfl

lemma groupRows_take {rows : List Row} {i : Nat} {key : List String}
    (h : ∀ later ∈ rows.drop (i + 1), groupKey py byFields later ≠ some key) :
    groupRows py byFields key (rows.take (i + 1)) = groupRows py byFields key rows := by
  have hnone : groupRows py byFields key (rows.drop (i + 1)) = [] :=
    List.filter_eq_nil_iff.2 fun later hlater => by simpa using h later hlater
  conv_rhs => rw [← List.take_append_drop (i + 1) rows]
  rw [groupRows, groupRows, members_append, ← groupRows, ← groupRows, hnone, List.append_nil]

/-- For every list of rows, every list of aggregations and all by-fields, running, group and whole
    statistics agree. -/
theorem statistics_agree (py : StatsPython) (aggs : List Aggregation) (byFields : List String)
    (rows : List Row) : Agree py aggs byFields rows where
  running out h := by
    rw [cmdStreamstats_default] at h
    obtain ⟨hlength, hgiven⟩ := streamFrom_given seen_nil h
    simp only [List.nil_append] at hgiven
    exact ⟨hlength, hgiven⟩
  last out stats hout hstats i row key hrow hkey hlast := by
    rw [cmdStreamstats_default] at hout
    have hgiven := (streamFrom_given seen_nil hout).2 i row hrow
    simp only [Given, hkey, List.nil_append] at hgiven
    obtain ⟨record, ⟨-, hrecord⟩, hput⟩ := hgiven
    obtain ⟨values, hvalues, hsub⟩ := stats_row hstats (List.mem_of_getElem? hrow) hkey
    rw [groupRows_take hlast, hvalues.2] at hrecord
    obtain rfl := Option.some.inj hrecord
    exact ⟨values, hvalues, hsub, hput⟩
  whole out h := by
    obtain ⟨hlength, hgiven⟩ := eventstats_given h
    refine ⟨hlength, fun i row hrow => ?_⟩
    have hrow' := hgiven i row hrow
    cases hkey : groupKey py byFields row with
    | none =>
      simp only [Given, hkey] at hrow' ⊢
      exact hrow'
    | some key =>
      simp only [Given, hkey] at hrow' ⊢
      obtain ⟨record, hrecord, hput⟩ := hrow'
      obtain ⟨stats, hstats⟩ : ∃ stats, cmdStats py aggs byFields rows = some stats := by
        refine Option.ne_none_iff_exists'.1 fun hnone => ?_
        rw [eventstats_eq_none_iff.2 hnone] at h
        cases h
      obtain ⟨values, hvalues, hsub⟩ := stats_row hstats (List.mem_of_getElem? hrow) hkey
      have hsame := hvalues.2
      rw [hrecord.2] at hsame
      obtain rfl := Option.some.inj hsame
      exact ⟨record, ⟨hrecord, stats, hstats, hsub⟩, hput⟩
  running_raises := by
    rw [cmdStreamstats_default]
    exact streamFrom_eq_none_iff seen_nil
  whole_raises := eventstats_eq_none_iff

end Splunk

end Mockdr
