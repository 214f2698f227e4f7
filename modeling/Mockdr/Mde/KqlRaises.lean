import Mockdr.Mde.KqlStage

/-!
# What the parts of a hunting query raise

The functions that read values (`as_float`, `str`, the comparisons, the aggregations, the keys of
sorting and of grouping) raise what reading the values raises, and nothing else; only the parser, a
pattern, the depth of a predicate and an unknown aggregation raise something of their own.

* `Fault.Foreign`: an exception that is neither a `KqlError` nor a `RecursionError`; reading a value
  raises no other.
* `CompareOp.readsNumbers`, `readsTexts`, `readsNumbers`: what a comparison and an aggregation read
  their values as.
-/

namespace Mockdr

namespace Kql

variable {py : KqlPython}

/-- An exception that is neither a `KqlError` nor a `RecursionError`. -/
def Fault.Foreign (fault : Fault) : Prop := ∃ exc, fault = .raised exc

lemma raises_toStr (v : Cell) : Raises Fault.Foreign (toStr py v) := by
  unfold toStr
  split
  · exact .ok _
  · split
    · exact .ok _
    · exact .error ⟨_, rfl⟩

lemma raises_asFloat (v : Cell) : Raises Fault.Foreign (asFloat py v) := by
  cases v with
  | int n =>
    rw [asFloat]
    split
    · exact .ok _
    · exact .error ⟨_, rfl⟩
  | _ => exact .ok _

lemma raises_readInt (s : String) : Raises Fault.Foreign (readInt py s) := by
  unfold readInt
  split
  · exact .ok _
  · exact .error ⟨_, rfl⟩

variable {P : Fault → Prop}

/-! ## Predicates -/

/-- Whether a comparison reads its values as numbers. -/
def CompareOp.readsNumbers : CompareOp → Bool
  | .sameText | .otherText => false
  | .eq | .ne | .range _ => true

lemma raises_equal {a b : Cell} (hta : Raises P (toStr py a)) (htb : Raises P (toStr py b))
    (hna : Raises P (asFloat py a)) (hnb : Raises P (asFloat py b)) : Raises P (equal py a b) := by
  unfold equal
  split
  · exact .ok _
  · split
    · exact .ok _
    · exact .ok _
    · refine hna.bind fun x _ => hnb.bind fun y _ => ?_
      split
      · exact .ok _
      · exact hta.bind fun s _ => htb.bind fun t _ => .ok _

/-- A comparison raises what reading its values does. -/
lemma raises_comparison {op : CompareOp} {a b : Cell} (hta : Raises P (toStr py a))
    (htb : Raises P (toStr py b)) (hna : op.readsNumbers = true → Raises P (asFloat py a))
    (hnb : op.readsNumbers = true → Raises P (asFloat py b)) :
    Raises P (comparison py op a b) := by
  unfold comparison
  cases op with
  | eq => exact raises_equal hta htb (hna rfl) (hnb rfl)
  | ne => exact (raises_equal hta htb (hna rfl) (hnb rfl)).map
  | sameText => exact hta.bind fun s _ => htb.bind fun t _ => .ok _
  | otherText => exact hta.bind fun s _ => htb.bind fun t _ => .ok _
  | range op =>
    dsimp only
    split
    · exact .ok _
    · split
      · split
        · exact .ok _
        · exact .ok _
      · split
        · exact .ok _
        · exact .ok _
      · refine (hna rfl).bind fun x _ => (hnb rfl).bind fun y _ => ?_
        split
        · exact .ok _
        · exact hta.bind fun s _ => htb.bind fun t _ => .ok _

/-- The values that a string operator looks for. -/
def targets (op : StringOp) (target : Cell) : List Cell :=
  if op = .isIn then candidates target else [target]

/-- A pattern raises only certain things: when it is checked, and when it is run. -/
def PatternRaises (py : KqlPython) (P : Fault → Prop) (pattern : String) : Prop :=
  Raises P (checkRegex py pattern) ∧ (checkRegex py pattern = .ok () →
    ∀ subject, Raises P ((py.search pattern subject).mapError RegexFault.raise))

/-- A string operator raises what reading its values does, and its pattern, if it has one. -/
lemma raises_stringOp {op : StringOp} {value target : Cell} (hvalue : Raises P (toStr py value))
    (htarget : ∀ v ∈ targets op target, Raises P (toStr py v))
    (hpattern : op = .matches → ∀ pattern, toStr py target = .ok pattern →
      PatternRaises py P pattern) :
    Raises P (stringOp py op value target) := by
  unfold stringOp
  refine Raises.bind ?_ fun text _ => ?_
  · rw [loweredText]
    split
    · exact .ok _
    · exact hvalue.map
  · cases op with
    | isIn => exact .anyM fun c hc => (htarget c hc).map.map
    | contains => exact (htarget target (List.mem_singleton_self _)).map.map
    | startswith => exact (htarget target (List.mem_singleton_self _)).map.map
    | endswith => exact (htarget target (List.mem_singleton_self _)).map.map
    | has => exact (htarget target (List.mem_singleton_self _)).map.map
    | «matches» =>
      refine (htarget target (List.mem_singleton_self _)).bind fun pattern hread => ?_
      obtain ⟨hcheck, hsearch⟩ := hpattern rfl pattern hread
      refine hcheck.bind fun _ hchecked => Raises.bind ?_ fun subject _ => hsearch hchecked subject
      rw [subjectText]
      split
      · exact hvalue
      · exact .ok _

/-! ## Aggregations -/

/-- Whether an aggregation reads its values as texts. -/
def readsTexts (function : String) : Bool := function ∈ ["dcount", "make_set"]

/-- Whether an aggregation reads its values as numbers; every one that is not known does. -/
def readsNumbers (function : String) : Bool :=
  function ∉ ["count", "dcount", "make_set", "make_list", "any", "take_any", "arg_max", "arg_min"]

/-- The aggregations. -/
def aggregationNames : List String :=
  ["count", "dcount", "make_set", "make_list", "any", "take_any", "arg_max", "arg_min", "sum",
      "avg",
    "min", "max"]

lemma raises_textSet {values : List Cell} (h : ∀ v ∈ values, Raises P (toStr py v)) :
    Raises P (textSet py values) :=
  (Raises.mapM h).bind fun _ _ => .ok _

lemma raises_numbersOf {column : String} {rows : List Row}
    (h : ∀ row ∈ rows, Raises P (asFloat py (cellOf row column))) :
    Raises P (numbersOf py column rows) :=
  (Raises.mapM h).bind fun _ _ => .ok _

lemma mem_present {column : String} {rows : List Row} {v : Cell} (h : v ∈ present column rows) :
    ∃ row ∈ rows, cellOf row column = v :=
  List.mem_map.1 (List.mem_of_mem_filter h)

/-- An aggregation raises what reading its values does, and that it is not known. -/
lemma raises_aggregate {function column : String} {rows : List Row}
    (hunknown : function ∉ aggregationNames → ∀ message, P (.kql message))
    (htext : readsTexts function = true → ∀ row ∈ rows, Raises P (toStr py (cellOf row column)))
    (hnumber : readsNumbers function = true →
      ∀ row ∈ rows, Raises P (asFloat py (cellOf row column))) :
    Raises P (aggregate py function column rows) := by
  have hset : readsTexts function = true → Raises P (textSet py (present column rows)) := by
    intro hreads
    refine raises_textSet fun v hv => ?_
    obtain ⟨row, hrow, rfl⟩ := mem_present hv
    exact htext hreads row hrow
  unfold aggregate
  split
  · exact .ok _
  next hcount =>
  split
  next hdcount => exact (hset (by rw [hdcount]; rfl)).map
  next hdcount =>
  split
  next hmake_set => exact (hset (by rw [hmake_set]; rfl)).map
  next hmake_set =>
  split
  · exact .ok _
  next hmake_list =>
  split
  · exact .ok _
  next hany =>
  have hreads : readsNumbers function = true := by
    simp only [List.mem_cons, List.not_mem_nil, or_false, not_or] at hany
    simp only [readsNumbers, List.mem_cons, List.not_mem_nil, or_false, not_or, decide_eq_true_eq]
    exact ⟨hcount, hdcount, hmake_set, hmake_list, hany.1, hany.2.1, hany.2.2.1, hany.2.2.2⟩
  refine (raises_numbersOf (hnumber hreads)).bind fun numbers _ => ?_
  split
  · exact .ok _
  · unfold aggregateNumbers
    split
    · exact .ok _
    next hsum =>
    split
    · exact .ok _
    next havg =>
    split
    · exact .ok _
    next hmin =>
    split
    · exact .ok _
    next hmax =>
    refine .error (hunknown ?_ _)
    simp only [aggregationNames, List.mem_cons, List.not_mem_nil, or_false, not_or]
    simp only [List.mem_cons, List.not_mem_nil, or_false, not_or] at hany
    exact ⟨hcount, hdcount, hmake_set, hmake_list, hany.1, hany.2.1, hany.2.2.1, hany.2.2.2, hsum,
      havg, hmin, hmax⟩

lemma raises_groupKey {names : List String} {row : Row}
    (h : ∀ name ∈ names, Raises P (toStr py (cellOf row name))) :
    Raises P (groupKey py names row) := by
  refine .mapM fun name hname => ?_
  cases hget : row.get name with
  | none => exact .ok _
  | some v =>
    have hcell : cellOf row name = v := by rw [cellOf, hget, Option.getD_some]
    rw [← hcell]
    exact h name hname

lemma mem_bucketsOf {keyed : List (List String × Row)} {bucket : List String × List Row} {row : Row}
    (hbucket : bucket ∈ bucketsOf keyed) (hrow : row ∈ bucket.2) : row ∈ keyed.map Prod.snd := by
  induction keyed with
  | nil => cases hbucket
  | cons entry rest ih =>
    obtain ⟨key, first⟩ := entry
    rw [List.map_cons]
    rw [bucketsOf] at hbucket
    rcases List.mem_cons.1 hbucket with rfl | hbucket
    · rcases List.mem_cons.1 hrow with rfl | hrow
      · exact List.mem_cons_self
      · obtain ⟨p, hp, rfl⟩ := List.mem_map.1 hrow
        exact List.mem_cons_of_mem _ (List.mem_map_of_mem (List.mem_of_mem_filter hp))
    · exact List.mem_cons_of_mem _ (ih (List.mem_of_mem_filter hbucket))

/-- A `summarize` stage raises what its keys and its aggregations do. -/
lemma raises_opSummarize {rows : List Row} {argument : String}
    (hkeys : ∀ name ∈ ((splitBy argument.toList).2.map columns).getD [],
      ∀ row ∈ rows, Raises P (toStr py (cellOf row name)))
    (haggregations : ∀ a ∈ parseAggregations py (splitBy argument.toList).1,
      ∀ members : List Row, members ⊆ rows → Raises P (aggregate py a.function a.column members)) :
    Raises P (opSummarize py rows argument) := by
  unfold opSummarize
  refine (Raises.mapM fun row hrow => raises_groupKey fun name hname =>
    hkeys name hname row hrow).bind fun keys _ => .mapM fun bucket hbucket => ?_
  have hmembers : bucket.2 ⊆ rows := by
    intro row hrow
    obtain ⟨p, hp, rfl⟩ := List.mem_map.1 (mem_bucketsOf hbucket hrow)
    exact (List.of_mem_zip hp).2
  refine (Raises.foldlM (I := fun _ => True) trivial fun record a ha _ => ⟨?_,
      fun _ _ => trivial⟩).1
  exact (haggregations a ha bucket.2 hmembers).bind fun _ _ => .ok _

/-! ## Order and number -/

lemma raises_sorter {column : String} {row : Row} (htext : Raises P (toStr py (cellOf row column)))
    (hnumber : Raises P (asFloat py (cellOf row column))) : Raises P (sorter py column row) := by
  unfold sorter
  dsimp only
  split
  · exact .ok _
  · refine hnumber.bind fun x _ => ?_
    split
    · exact .ok _
    · exact htext.bind fun s _ => .ok _

/-- The column that a clause sorts by. -/
def clauseColumn (clause : List Char) : Option String := (words clause).head?.map String.ofList

lemma raises_orderBy {rows : List Row} {clause : List Char}
    (h : ∀ column ∈ clauseColumn clause, ∀ row ∈ rows,
      Raises P (toStr py (cellOf row column)) ∧ Raises P (asFloat py (cellOf row column))) :
    Raises P (orderBy py rows clause) := by
  unfold orderBy
  cases hwords : words clause with
  | nil => exact .ok _
  | cons column rest =>
    have hcolumn : String.ofList column ∈ clauseColumn clause := by
      rw [clauseColumn, hwords]
      rfl
    refine Raises.bind (.mapM fun row hrow => ?_) fun _ _ => .ok _
    exact raises_sorter (h _ hcolumn row hrow).1 (h _ hcolumn row hrow).2

lemma orderBy_subset {rows out : List Row} {clause : List Char}
    (h : orderBy py rows clause = .ok out) : out ⊆ rows := by
  unfold orderBy at h
  cases hwords : words clause with
  | nil =>
    rw [hwords] at h
    cases h
    exact fun _ hrow => hrow
  | cons column rest =>
    rw [hwords] at h
    obtain ⟨keys, -, h⟩ := bind_eq_ok_iff.1 h
    cases h
    intro row hrow
    obtain ⟨p, hp, rfl⟩ := List.mem_map.1 hrow
    exact (List.of_mem_zip ((List.mem_insertionSort _).1 hp)).2

/-- An `order` stage raises what reading the columns of its clauses does. -/
lemma raises_opOrder {rows : List Row} {argument : String}
    (h : ∀ clause ∈ splitCommas argument.toList, ∀ column ∈ clauseColumn clause, ∀ row ∈ rows,
      Raises P (toStr py (cellOf row column)) ∧ Raises P (asFloat py (cellOf row column))) :
    Raises P (opOrder py rows argument) := by
  unfold opOrder
  have hsorts := Raises.foldlM (P := P) (I := fun sorted : List Row => sorted ⊆ rows)
    (f := orderBy py) (l := (splitCommas argument.toList).reverse) (List.Subset.refl rows) ?_
  · exact hsorts.1
  · intro sorted clause hclause hsorted
    refine ⟨raises_orderBy fun column hcolumn row hrow => ?_, fun out hout => ?_⟩
    · exact h clause (List.mem_reverse.1 hclause) column hcolumn row (hsorted hrow)
    · exact List.Subset.trans (orderBy_subset hout) hsorted

lemma raises_topOrder {rows : List Row} {clauses : Option (List Char)}
    (h : ∀ text : List Char, Raises P (opOrder py rows (String.ofList text))) :
    Raises P (topOrder py rows clauses) := by
  unfold topOrder
  split
  · exact .ok _
  · exact .ok _
  · exact h _

/-- A `take` stage raises what reading its number does. -/
lemma raises_opTake {rows : List Row} {argument : String}
    (h : ∀ digits, Raises P (readInt py digits)) : Raises P (opTake py rows argument) := by
  unfold opTake
  split
  · exact .ok _
  · exact (h _).map

/-- A `distinct` stage raises what reading its columns does. -/
lemma raises_opDistinct {rows : List Row} {argument : String}
    (h : ∀ row ∈ (if columns argument.toList = [] then rows
      else rows.map (projectRow (columns argument.toList))),
      ∀ entry ∈ row.entries, Raises P (toStr py entry.2)) :
    Raises P (opDistinct py rows argument) := by
  unfold opDistinct
  exact (Raises.mapM fun row hrow => .mapM fun entry hentry =>
    h row hrow entry hentry).bind fun _ _ => .ok _

end Kql

end Mockdr
