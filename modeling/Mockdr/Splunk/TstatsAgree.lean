import Mathlib.Data.List.Find
import Mockdr.Splunk.SplText
import Mockdr.Splunk.StatisticsAgree
import Mockdr.Splunk.Tstats

/-!
# `tstats` and `stats`

* `restrict` keeps what expressions over the selectors read (`passes_restrict`), the groups
  (`groupKey_restrict`) and the statistics over the fields of the index (`computed_restrict`); what
  the two commands compute of the rows that they are handed is the same (`tstatsGroups_restrict`).
* `clauses_tstatsText`: the argument is cut where its keywords stand, for a clause that is held
  `Whole`.
* `searchRows_eq`: where a clause is `Unnotable` a search hands the events to `stats` that `tstats`
  reads; `searchRows_oneNotable` is a search where it is not.
* `tstats_agrees_iff`: that is when the two searches agree.
-/

namespace Mockdr

namespace Splunk

open Spl

namespace Spl

mutual

/-- An expression that reads no other fields than some, and no text of a whole row. -/
def Node.readsOnly (fields : List String) : Node → Bool
  | .literal _ => true
  | .fieldRef name => name ∈ fields
  | .rawTerm _ => false
  | .compare _ left right => left.readsOnly fields && right.readsOnly fields
  | .binOp _ left right => left.readsOnly fields && right.readsOnly fields
  | .boolOp _ children => eachReadsOnly fields children
  | .notOp child => child.readsOnly fields
  | .funcCall name args => name ∉ ["mvfilter", "mvmap"] && eachReadsOnly fields args

/-- Each of some expressions reads no other fields than some. -/
def eachReadsOnly (fields : List String) : List Node → Bool
  | [] => true
  | node :: nodes => node.readsOnly fields && eachReadsOnly fields nodes

end

variable {py : SplPython} {fields : List String} {row row' : Row}

mutual

/-- Rows that have the same in the fields that an expression reads give it the same value. -/
lemma evaluate_congr (h : ∀ f ∈ fields, row.get f = row'.get f) :
    ∀ (mode : Mode) (node : Node), node.readsOnly fields = true →
      evaluate py row mode node = evaluate py row' mode node
  | _, .literal _, _ => by rw [evaluate, evaluate]
  | _, .fieldRef name, hnode => by
    rw [evaluate, evaluate, h name (of_decide_eq_true hnode)]
  | _, .rawTerm _, hnode => nomatch hnode
  | mode, .notOp child, hnode => by
    rw [evaluate, evaluate, evaluate_congr h mode child hnode]
  | mode, .boolOp op children, hnode => by
    rw [evaluate_boolOp, evaluate_boolOp, evaluateEach_congr h mode children hnode]
  | mode, .compare op left right, hnode => by
    rw [Node.readsOnly, Bool.and_eq_true] at hnode
    have hdirective : directive py row mode right = directive py row' mode right := by
      cases right with
      | funcCall name args =>
        have hargs := hnode.2
        rw [Node.readsOnly, Bool.and_eq_true] at hargs
        rw [directive, directive, evaluateEach_congr h .eval args hargs.2]
      | _ => rfl
    rw [evaluate_compare, evaluate_compare, hdirective, evaluate_congr h .eval left hnode.1,
      evaluate_congr h .eval right hnode.2]
  | _, .binOp op left right, hnode => by
    rw [Node.readsOnly, Bool.and_eq_true] at hnode
    rw [evaluate, evaluate, evaluate_congr h .eval left hnode.1,
        evaluate_congr h .eval right hnode.2]
  | _, .funcCall name args, hnode => by
    rw [Node.readsOnly, Bool.and_eq_true] at hnode
    rw [evaluate, evaluate, if_neg (of_decide_eq_true hnode.1), if_neg (of_decide_eq_true hnode.1),
      evaluateEach_congr h .eval args hnode.2]

lemma evaluateEach_congr (h : ∀ f ∈ fields, row.get f = row'.get f) :
    ∀ (mode : Mode) (nodes : List Node), eachReadsOnly fields nodes = true →
      evaluateEach py row mode nodes = evaluateEach py row' mode nodes
  | _, [], _ => by rw [evaluateEach, evaluateEach]
  | mode, node :: nodes, hnodes => by
    rw [eachReadsOnly, Bool.and_eq_true] at hnodes
    rw [evaluateEach, evaluateEach, evaluate_congr h mode node hnodes.1,
      evaluateEach_congr h mode nodes hnodes.2]

end

end Spl

variable {py : TstatsPython} {aggs : List Aggregation} {byFields : List String}

/-! ## The fields of the index -/

lemma get_foldl_copy (row : Row) (ks : List String) (d : Row) (k : String) :
    (ks.foldl (fun d k => (row.get k).elim d (d.set k)) d).get k
      = if k ∈ ks then (row.get k).or (d.get k) else d.get k := by
  induction ks generalizing d with
  | nil => rfl
  | cons j ks ih =>
    have hset : ((row.get j).elim d (d.set j)).get k
        = if k = j then (row.get j).or (d.get k) else d.get k := by
      cases row.get j with
      | none => simp
      | some v => simp [Dict.get_set]
    rw [List.foldl_cons, ih, hset]
    by_cases hkj : k = j
    · subst hkj
      simp only [if_true, List.mem_cons_self]
      cases row.get k <;> simp
    · simp only [List.mem_cons, hkj, false_or, if_false]

lemma get_restrict {k : String} (row : Row) (h : k ∈ INDEXED_FIELDS) :
    (restrict row).get k = row.get k := by
  rw [restrict, get_foldl_copy, if_pos h]
  cases row.get k <;> rfl

lemma mem_indexed_of_selector {f : String} (h : f ∈ SELECTORS) : f ∈ INDEXED_FIELDS :=
  List.mem_cons_of_mem _ h

/-- An expression over the selectors says the same of a row and of its fields of the index. -/
lemma passes_restrict {node : Option Node}
    (h : ∀ expression, node = some expression → expression.readsOnly SELECTORS = true) (row : Row) :
    passes py.toSplPython .search node (restrict row) = passes py.toSplPython .search node row := by
  cases node with
  | none => rfl
  | some expression =>
    have hget : ∀ f ∈ SELECTORS, (restrict row).get f = row.get f :=
      fun f hf => get_restrict row (mem_indexed_of_selector hf)
    rw [passes, passes, evaluate_congr hget .search expression (h _ rfl)]

lemma groupKey_restrict (h : ∀ f ∈ byFields, f ∈ INDEXED_FIELDS) (row : Row) :
    groupKey py.toStatsPython byFields (restrict row) = groupKey py.toStatsPython byFields row := by
  induction byFields with
  | nil => rfl
  | cons f fs ih =>
    obtain ⟨hf, hfs⟩ := List.forall_mem_cons.1 h
    have hrest := ih hfs
    rw [groupKey, groupKey] at hrest ⊢
    rw [List.mapM_cons, List.mapM_cons, hrest, get_restrict row hf]

/-! ## The aggregations -/

lemma present_restrict {field : String} (h : field ∈ INDEXED_FIELDS) (rows : List Row) :
    present field (rows.map restrict) = present field rows := by
  rw [present, present, List.filterMap_map]
  refine List.filterMap_congr ?_
  intro row _
  rw [Function.comp_apply, get_restrict row h]

lemma timeOf_restrict (row : Row) :
    timeOf py.toStatsPython (restrict row) = timeOf py.toStatsPython row := by
  rw [timeOf, timeOf, get_restrict row List.mem_cons_self]

/-- The rows that carry a field, in the order of their times. -/
lemma byTime_restrict {field : String} (h : field ∈ INDEXED_FIELDS) (rows : List Row) :
    byTime py.toStatsPython field (rows.map restrict)
      = (byTime py.toStatsPython field rows).map (List.map restrict) := by
  have htimed : (rows.map restrict).filter (fun row => !(present field [row]).isEmpty)
      = (rows.filter fun row => !(present field [row]).isEmpty).map restrict := by
    rw [List.filter_map]
    refine congrArg (List.map restrict) (List.filter_congr ?_)
    intro row _
    have hrow := present_restrict h [row]
    rw [List.map_singleton] at hrow
    rw [Function.comp_apply, hrow]
  have hkeyed : ∀ l : List Row,
      ((l.map restrict).mapM fun row => (timeOf py.toStatsPython row).map (·, row))
        = (l.mapM fun row => (timeOf py.toStatsPython row).map (·, row)).map
          (List.map (Prod.map id restrict)) := by
    intro l
    rw [List.mapM_map, ← mapM_option_map]
    refine congrArg (fun f => l.mapM f) (funext fun row => ?_)
    rw [Function.comp_apply, timeOf_restrict]
    cases timeOf py.toStatsPython row <;> rfl
  rw [byTime, byTime, htimed, hkeyed]
  cases (rows.filter fun row => !(present field [row]).isEmpty).mapM
      fun row => (timeOf py.toStatsPython row).map (·, row) with
  | none => rfl
  | some keyed =>
    have hsort := KeyOrder.sort_map (ascending Prod.fst) (ascending Prod.fst)
      (Prod.map (id : PyFloat → PyFloat) restrict) (fun _ _ => Iff.rfl) keyed
    simp only [Option.map_some, Option.bind_eq_bind, Option.bind_some, hsort, Option.pure_def,
      List.map_map]
    rfl

variable (py) in
/-- An aggregation over a field of the index, or over none where it counts. -/
def OfIndex (agg : Aggregation) : Prop :=
  agg.field ∈ INDEXED_FIELDS ∨ agg.field = "" ∧ py.lower agg.func ∈ ["count", "c"]

/-- An aggregation over the fields of the index is the same over rows that have no others. -/
lemma aggregate_restrict {agg : Aggregation} (h : OfIndex py agg) (rows : List Row) :
    aggregate py.toStatsPython agg.func agg.field (rows.map restrict)
      = aggregate py.toStatsPython agg.func agg.field rows := by
  rcases h with h | ⟨hfield, hcount⟩
  · have hget : ∀ found : Option Row,
        (found.map restrict).bind (·.get agg.field) = found.bind (·.get agg.field) := by
      rintro (_ | row)
      · rfl
      · exact get_restrict row h
    have hrow : ∀ rows : List Row, ∀ first : Bool,
        (if first then (rows.map restrict).head? else (rows.map restrict).getLast?).bind
            (·.get agg.field)
          = (if first then rows.head? else rows.getLast?).bind (·.get agg.field) := by
      intro rows first
      cases first with
      | true => rw [if_pos rfl, if_pos rfl, List.head?_map, hget]
      | false =>
        rw [if_neg Bool.false_ne_true, if_neg Bool.false_ne_true, List.getLast?_map, hget]
    simp only [aggregate, present_restrict h, List.length_map, byTime_restrict h]
    cases byTime py.toStatsPython agg.field rows with
    | none => rfl
    | some timed =>
      have htimed := hrow timed (py.lower agg.func = "earliest")
      simp only [decide_eq_true_eq] at htimed
      simp only [Option.map_some, Option.bind_eq_bind, Option.bind_some, htimed]
  · simp only [aggregate, hcount, if_true, hfield, List.length_map]

variable (py) in
/-- An aggregation that both commands support, over the fields of the index. -/
structure Supported (agg : Aggregation) : Prop where
  offered : offered py agg.func = true
  known : knownAggregation py agg.func = true
  ofIndex : OfIndex py agg

/-- The functions that only `tstats` has are not among those of `stats`. -/
lemma not_extra_of_known {func : String} (h : knownAggregation py func = true) :
    func ∉ TSTATS_EXTRA := by
  intro hextra
  have hunknown : ∀ extra ∈ TSTATS_EXTRA, knownAggregation py extra = false := by
    intro extra hmem
    simp only [TSTATS_EXTRA, List.mem_cons, List.not_mem_nil, or_false] at hmem
    rcases hmem with rfl | rfl | rfl
    all_goals
      rw [knownAggregation, py.lower_ascii _ (by decide)]
      rfl
  rw [hunknown func hextra] at h
  cases h

lemma tstatsAggregate_of_known {func : String} (h : knownAggregation py func = true)
    (field : String) (rows : List Row) :
    tstatsAggregate py func field rows = aggregate py.toStatsPython func field rows := by
  have hextra := not_extra_of_known h
  rw [tstatsAggregate, if_neg, if_neg]
  · rintro rfl
    exact hextra (by decide)
  · intro hmem
    exact hextra (List.mem_cons_of_mem _ hmem)

/-- The statistics of a group are those that `stats` computes. -/
lemma computed_restrict (h : ∀ agg ∈ aggs, Supported py agg) (rows : List Row) :
    computed py aggs (rows.map restrict) = aggregated py.toStatsPython aggs rows := by
  have hfold : ∀ record : Row,
      (aggs.foldlM (fun record agg =>
          (tstatsAggregate py agg.func agg.field (rows.map restrict)).map fun value =>
            value.elim record (record.set agg.aliasName)) record)
        = aggs.foldlM (fun record agg =>
          (aggregate py.toStatsPython agg.func agg.field rows).map fun value =>
            value.elim record (record.set agg.aliasName)) record := by
    induction aggs with
    | nil => exact fun _ => rfl
    | cons agg aggs ih =>
      obtain ⟨hagg, haggs⟩ := List.forall_mem_cons.1 h
      intro record
      rw [List.foldlM_cons, List.foldlM_cons, tstatsAggregate_of_known hagg.known,
        aggregate_restrict hagg.ofIndex]
      refine congrArg _ (funext fun record => ?_)
      exact ih haggs record
  exact hfold Dict.empty

/-! ## The groups -/

/-- By-fields other than `_time` read as text in both commands. -/
lemma tstatsKeyRow_eq (h : ∀ f ∈ byFields, f ∈ SELECTORS) (key : List String) (rows : List Row) :
    tstatsKeyRow byFields key rows = keyRow byFields key := by
  have hfold : ∀ l : List (String × String), (∀ p ∈ l, p.1 ∈ SELECTORS) → ∀ row : Row,
      l.foldl (fun row p => row.set p.1 (if p.1 = "_time" then
          ((rows.head?.bind (·.get p.1)).getD .null) else .str p.2)) row
        = l.foldl (fun row p => row.set p.1 (.str p.2)) row := by
    intro l
    induction l with
    | nil => exact fun _ _ => rfl
    | cons p l ih =>
      intro hl row
      obtain ⟨hp, hl⟩ := List.forall_mem_cons.1 hl
      have hne : p.1 ≠ "_time" := by
        intro heq
        rw [heq] at hp
        exact absurd hp (by decide)
      rw [List.foldl_cons, List.foldl_cons, if_neg hne]
      exact ih hl _
  exact hfold _ (fun p hp => h p.1 (List.of_mem_zip hp).1) Dict.empty

/-- The groups of rows with the fields of the index have the statistics that `stats` computes. -/
lemma tstatsGroups_restrict (haggs : ∀ agg ∈ aggs, Supported py agg) (hne : aggs ≠ [])
    (hby : ∀ f ∈ byFields, f ∈ SELECTORS) {rows : List Row}
    (hlimit : (groupsOf py.toStatsPython byFields rows).keys.length ≤ MAX_RESULT_ROWS) :
    tstatsGroups py aggs byFields (rows.map restrict)
        = cmdStats py.toStatsPython aggs byFields rows := by
  have hcount : orCount aggs = aggs := if_neg fun h => hne (List.isEmpty_iff.1 h)
  have hkey : groupKey py.toStatsPython byFields ∘ restrict = groupKey py.toStatsPython byFields :=
    funext fun row => groupKey_restrict (fun f hf => mem_indexed_of_selector (hby f hf)) row
  have hgroups : groupsOf py.toStatsPython byFields (rows.map restrict)
      = (groupsOf py.toStatsPython byFields rows).mapValues (List.map restrict) := by
    rw [groupsOf, Grouping.groupsOf_map, hkey, ← groupsOf]
  unfold tstatsGroups cmdStats
  rw [hcount]
  by_cases hempty : byFields.isEmpty = true
  · simp only [hempty, if_true, computed_restrict haggs]
  · have hkeys : ((groupsOf py.toStatsPython byFields rows).mapValues (List.map restrict)).keys
        = (groupsOf py.toStatsPython byFields rows).keys := by
      rw [Dict.keys, Dict.keys, Dict.mapValues, List.map_map]
      rfl
    have hall : ((byKey py.toStatsPython).sort
          (groupsOf py.toStatsPython byFields rows).keys).take MAX_RESULT_ROWS
        = (byKey py.toStatsPython).sort (groupsOf py.toStatsPython byFields rows).keys := by
      refine List.take_of_length_le ?_
      rw [((byKey py.toStatsPython).perm_sort _).length_eq]
      exact hlimit
    simp only [hempty, Bool.false_eq_true, if_false, hgroups, hkeys, hall]
    refine congrArg (fun f => List.mapM f _) (funext fun key => ?_)
    have hmembers :
        (((groupsOf py.toStatsPython byFields rows).mapValues (List.map restrict)).get
            key).getD []
          = (((groupsOf py.toStatsPython byFields rows).get key).getD []).map restrict := by
      rw [Dict.get_mapValues]
      cases (groupsOf py.toStatsPython byFields rows).get key <;> rfl
    rw [hmembers, computed_restrict haggs, tstatsKeyRow_eq hby]

/-! ## The text of the argument -/

variable (py) in
/-- Read from `s`, a text in which no keyword stands outside of quotes and brackets. -/
def keywordFree : Bool → Nesting → List Char → Bool
  | _, _, [] => true
  | behindSpace, s, c :: cs =>
    (if s = .closed ∧ behindSpace then keywordAt py (c :: cs) else none).isNone
      && keywordFree (isSpace c) (argNesting s c) cs

variable (py) in
/-- A clause that the argument of `tstats` holds as a whole: no keyword stands in it outside of
    quotes and brackets, and what is opened in it is closed. -/
structure Whole (clause : List Char) : Prop where
  free : keywordFree py true .closed clause = true
  closed : runFrom argNesting .closed clause = .closed
  terms : runFrom (Nesting.next false ['('] [')']) .closed clause = .closed

/-- A text that is followed by a blank, or by nothing. -/
def Ends (m : List Char) : Prop := m = [] ∨ ∃ m', m = ' ' :: m'

/-- Whether a text begins with a keyword does not depend on what follows its end. -/
lemma keywordAt_append {l m : List Char} (hm : Ends m) :
    keywordAt py (l ++ m) = keywordAt py l := by
  rcases hm with rfl | ⟨m, rfl⟩
  · rw [List.append_nil]
  · refine List.find?_congr fun word hword => ?_
    by_cases hlen : word.length ≤ l.length
    · have hlonger : word.length ≤ (l ++ ' ' :: m).length := by
        rw [List.length_append]
        omega
      have hbehind : ((l ++ ' ' :: m).drop word.length).head?.all isSpace
          = (l.drop word.length).head?.all isSpace := by
        rw [List.drop_append_of_le_length hlen]
        cases l.drop word.length <;> rfl
      rw [List.take_append_of_le_length hlen, hbehind, decide_eq_true hlen, decide_eq_true hlonger]
    · -- a blank would be in the keyword
      have hblank : ' ' ∈ ((l ++ ' ' :: m).take word.length) := by
        rw [List.take_append, List.mem_append]
        obtain ⟨n, hn⟩ : ∃ n, word.length - l.length = n + 1 :=
          ⟨word.length - l.length - 1, by omega⟩
        rw [hn, List.take_succ_cons]
        exact .inr List.mem_cons_self
      have hlower := py.lower_blank (String.ofList ((l ++ ' ' :: m).take word.length))
        (by rwa [String.toList_ofList])
      have hother : py.lower (String.ofList ((l ++ ' ' :: m).take word.length)) ≠ word := by
        intro heq
        rw [heq] at hlower
        simp only [CLAUSE_KEYWORDS, List.mem_cons, List.not_mem_nil, or_false] at hword
        rcases hword with rfl | rfl | rfl
        all_goals exact absurd hlower (by decide)
      rw [decide_eq_false hother, decide_eq_false hlen, Bool.and_false, Bool.false_and,
          Bool.false_and,
        Bool.false_and]

lemma partsFrom_append {behindSpace : Bool} {s : Nesting} (keyword : Option String)
    (current : List Char) {l m : List Char} (hl : keywordFree py behindSpace s l = true)
    (hm : Ends m) :
    ∃ behindSpace', partsFrom py 0 behindSpace s keyword current (l ++ m)
      = partsFrom py 0 behindSpace' (runFrom argNesting s l) keyword (current ++ l) m := by
  induction l generalizing behindSpace s current with
  | nil => exact ⟨behindSpace, by rw [List.append_nil]; rfl⟩
  | cons c l ih =>
    rw [keywordFree, Bool.and_eq_true, Option.isNone_iff_eq_none] at hl
    obtain ⟨behindSpace', h⟩ := ih (current ++ [c]) hl.2
    refine ⟨behindSpace', ?_⟩
    have hnone : (if s = .closed ∧ behindSpace then keywordAt py (c :: (l ++ m)) else none)
        = none := by
      have happend := @keywordAt_append py (c :: l) m hm
      rw [List.cons_append] at happend
      rw [happend]
      exact hl.1
    rw [List.cons_append, partsFrom, hnone, runFrom_cons]
    simp only
    rw [h, List.append_assoc, List.singleton_append]

/-- The characters of the selectors, and the blank between two of them. -/
def selectorChars : List Char := "index sourcetype host".toList

/-- No keyword begins with a letter of the selectors. -/
lemma keywordAt_selectorChars {l : List Char} (h : ∀ c ∈ l, c ∈ selectorChars) :
    keywordAt py l = none := by
  rw [keywordAt, List.find?_eq_none]
  intro word hword hfound
  simp only [Bool.and_eq_true, decide_eq_true_eq] at hfound
  obtain ⟨⟨hlen, hlower⟩, -⟩ := hfound
  have hword' : word ∈ CLAUSE_KEYWORDS := hword
  simp only [CLAUSE_KEYWORDS, List.mem_cons, List.not_mem_nil, or_false] at hword'
  have hascii :
      ((String.ofList (l.take word.length)).toList.all fun c => c.toNat < 128) = true := by
    rw [String.toList_ofList, List.all_eq_true]
    intro c hc
    have hplain : selectorChars.all (fun c => decide (c.toNat < 128)) = true := by decide
    exact List.all_eq_true.1 hplain c (h c (List.mem_of_mem_take hc))
  rw [py.lower_ascii _ hascii, String.toList_ofList] at hlower
  have hfirst :
      selectorChars.all (fun c => decide (c.toLower ∉ ['f', 'w', 'b'])) = true := by decide
  cases l with
  | nil => rcases hword' with rfl | rfl | rfl <;> exact absurd hlen (by decide)
  | cons c l =>
    have hc := of_decide_eq_true (List.all_eq_true.1 hfirst c (h c List.mem_cons_self))
    have hhead := congrArg (fun w : String => w.toList.head?) hlower
    simp only [String.toList_ofList] at hhead
    rcases hword' with rfl | rfl | rfl
    all_goals
      refine hc ?_
      have heq : c.toLower = _ := Option.some.inj hhead
      rw [heq]
      decide

lemma keywordFree_selectorChars {l : List Char} (h : ∀ c ∈ l, c ∈ selectorChars)
    (behindSpace : Bool) :
    keywordFree py behindSpace .closed l = true ∧ runFrom argNesting .closed l = .closed := by
  induction l generalizing behindSpace with
  | nil => exact ⟨rfl, rfl⟩
  | cons c l ih =>
    have hc := h c List.mem_cons_self
    have hplain : selectorChars.all (fun c => decide (argNesting .closed c = .closed)) = true := by
      decide
    have hstay : argNesting .closed c = .closed :=
      of_decide_eq_true (List.all_eq_true.1 hplain c hc)
    have hrest := ih (fun d hd => h d (List.mem_cons_of_mem c hd)) (isSpace c)
    rw [keywordFree, runFrom_cons, hstay, keywordAt_selectorChars h, hrest.1]
    refine ⟨?_, hrest.2⟩
    cases behindSpace <;> rfl

lemma listed_cons_cons (f g : String) (fs : List String) :
    listed (f :: g :: fs) = f.toList ++ ' ' :: listed (g :: fs) := rfl

lemma listed_singleton (f : String) : listed [f] = f.toList := List.append_nil _

lemma listed_chars (hby : ∀ f ∈ byFields, f ∈ SELECTORS) :
    ∀ c ∈ listed byFields, c ∈ selectorChars := by
  have hall : (SELECTORS.all fun f => f.toList.all (selectorChars.contains ·)) = true := by decide
  have hname : ∀ f ∈ SELECTORS, ∀ c ∈ f.toList, c ∈ selectorChars := fun f hf c hc =>
    List.contains_iff_mem.1 (List.all_eq_true.1 (List.all_eq_true.1 hall f hf) c hc)
  induction byFields with
  | nil => exact fun c hc => nomatch hc
  | cons f fs ih =>
    obtain ⟨hf, hfs⟩ := List.forall_mem_cons.1 hby
    cases fs with
    | nil =>
      rw [listed_singleton]
      exact hname f hf
    | cons g fs =>
      rw [listed_cons_cons]
      intro c hc
      rcases List.mem_append.1 hc with hc | hc
      · exact hname f hf c hc
      · rcases List.mem_cons.1 hc with rfl | hc
        · decide
        · exact ih hfs c hc

/-- By-fields that are written are read back. -/
lemma fieldsOf_listed (hne : byFields ≠ []) (hby : ∀ f ∈ byFields, f ∈ SELECTORS) :
    fieldsOf py (' ' :: listed byFields) = byFields := by
  have hall : (SELECTORS.all fun f => f.toList.all fun c => !(isSpace c || c = ',')) = true := by
    decide
  have hwhole : ∀ f ∈ SELECTORS, ∀ c ∈ f.toList, (isSpace c || c = ',') = false := fun f hf c hc =>
    Bool.not_eq_eq_eq_not.1 (List.all_eq_true.1 (List.all_eq_true.1 hall f hf) c hc)
  have hsplit : (listed byFields).splitOnP (fun c => isSpace c || c = ',')
      = byFields.map String.toList := by
    induction byFields with
    | nil => exact absurd rfl hne
    | cons f fs ih =>
      obtain ⟨hf, hfs⟩ := List.forall_mem_cons.1 hby
      cases fs with
      | nil =>
        rw [listed_singleton]
        exact List.splitOnP_eq_singleton (hwhole f hf)
      | cons g fs =>
        rw [listed_cons_cons, List.splitOnP_append_cons_of_forall_mem (hwhole f hf) ' ' (by decide),
          ih (List.cons_ne_nil g fs) hfs]
        rfl
  have hblank : (' ' :: listed byFields).splitOnP (fun c => isSpace c || c = ',')
      = [] :: byFields.map String.toList := by
    rw [← hsplit]
    have hnil : ∀ c ∈ ([] : List Char), (isSpace c || c = ',') = false := fun c hc => nomatch hc
    exact List.splitOnP_append_cons_of_forall_mem hnil ' ' (by decide) (listed byFields)
  have hkept : ∀ f ∈ SELECTORS, (decide (f.toList ≠ [] ∧ py.lower (String.ofList f.toList) ≠ "by"))
      = true := by
    intro f hf
    have hascii : ∀ f ∈ SELECTORS, (f.toList.all fun c => c.toNat < 128) = true := by decide
    have hother : ∀ f ∈ SELECTORS, f.toList ≠ []
        ∧ String.ofList (f.toList.map Char.toLower) ≠ "by" := by
      decide
    rw [String.ofList_toList, py.lower_ascii f (hascii f hf)]
    exact decide_eq_true (hother f hf)
  have hstripped : ∀ f ∈ SELECTORS,
      String.ofList (((f.toList.dropWhile (· = '"')).reverse.dropWhile (· = '"')).reverse) = f := by
    decide
  have hfilter : (byFields.map String.toList).filter (fun piece =>
        piece ≠ [] ∧ py.lower (String.ofList piece) ≠ "by") = byFields.map String.toList := by
    rw [List.filter_eq_self]
    intro piece hpiece
    obtain ⟨f, hf, rfl⟩ := List.mem_map.1 hpiece
    exact hkept f (hby f hf)
  rw [fieldsOf, hblank, List.filter_cons, if_neg (by simp), hfilter, List.map_map]
  refine (List.map_congr_left fun f hf => ?_).trans (List.map_id byFields)
  exact hstripped f (hby f hf)

lemma lower_ne_keyword {l : List Char} {word : String} (hword : word ∈ CLAUSE_KEYWORDS)
    (hl : ' ' ∈ l) : py.lower (String.ofList l) ≠ word := by
  intro heq
  have hlower := py.lower_blank (String.ofList l) (by rwa [String.toList_ofList])
  rw [heq] at hlower
  have hplain : ∀ word ∈ CLAUSE_KEYWORDS, ' ' ∉ word.toList := by decide
  exact hplain word hword hlower

lemma toList_where : "where".toList = ['w', 'h', 'e', 'r', 'e'] := by decide

lemma toList_by : "by".toList = ['b', 'y'] := by decide

lemma keywordAt_where (m : List Char) :
    keywordAt py ("where".toList ++ ' ' :: m) = some "where" := by
  have hfrom : py.lower (String.ofList "wher".toList) = "wher" := by
    rw [py.lower_ascii _ (by decide)]
    decide
  have hwhere : py.lower (String.ofList "where".toList) = "where" := by
    rw [py.lower_ascii _ (by decide)]
    decide
  rw [keywordAt, CLAUSE_KEYWORDS, List.find?_cons_of_neg, List.find?_cons_of_pos]
  · simp only [Bool.and_eq_true, decide_eq_true_eq]
    refine ⟨⟨?_, hwhere⟩, isSpace_blank⟩
    exact Nat.le_add_left 5 (m.length + 1)
  · simp only [Bool.and_eq_true, decide_eq_true_eq]
    rintro ⟨⟨-, h⟩, -⟩
    have h' : py.lower (String.ofList "wher".toList) = "from" := h
    rw [hfrom] at h'
    exact absurd h' (by decide)

lemma keywordAt_by (m : List Char) : keywordAt py ("by".toList ++ ' ' :: m) = some "by" := by
  have hby : py.lower (String.ofList "by".toList) = "by" := by
    rw [py.lower_ascii _ (by decide)]
    decide
  have hblank : ∀ n, ' ' ∈ ("by".toList ++ ' ' :: m).take (n + 3) := by
    intro n
    change ' ' ∈ 'b' :: 'y' :: ' ' :: m.take n
    simp
  rw [keywordAt, CLAUSE_KEYWORDS, List.find?_cons_of_neg, List.find?_cons_of_neg,
    List.find?_cons_of_pos]
  · simp only [Bool.and_eq_true, decide_eq_true_eq]
    refine ⟨⟨?_, hby⟩, isSpace_blank⟩
    exact Nat.le_add_left 2 (m.length + 1)
  · simp only [Bool.and_eq_true, decide_eq_true_eq]
    rintro ⟨⟨-, h⟩, -⟩
    exact lower_ne_keyword (by decide) (hblank 2) h
  · simp only [Bool.and_eq_true, decide_eq_true_eq]
    rintro ⟨⟨-, h⟩, -⟩
    exact lower_ne_keyword (by decide) (hblank 1) h

/-- A part ends at a keyword behind a blank. -/
lemma partsFrom_keyword (keyword : Option String) (current : List Char) {word : String}
    {m : List Char} (h : keywordAt py (word.toList ++ ' ' :: m) = some word) (hne : word ≠ "") :
    partsFrom py 0 true .closed keyword current (word.toList ++ ' ' :: m)
      = (keyword, current) :: partsFrom py 0 false .closed (some word) [] (' ' :: m) := by
  -- what is left of the keyword is skipped
  have hskip : ∀ l : List Char, partsFrom py l.length false .closed (some word) [] (l ++ ' ' :: m)
      = partsFrom py 0 false .closed (some word) [] (' ' :: m) := by
    intro l
    induction l with
    | nil => rfl
    | cons c l ih =>
      rw [List.cons_append, List.length_cons, partsFrom]
      exact ih
  cases hword : word.toList with
  | nil => exact absurd (String.toList_eq_nil_iff.1 hword) hne
  | cons c cs =>
    have hlen : word.length - 1 = cs.length := by
      rw [← String.length_toList, hword]
      rfl
    rw [hword] at h
    rw [List.cons_append] at h ⊢
    rw [partsFrom, if_pos ⟨rfl, rfl⟩, h]
    simp only [hlen, hskip cs]

lemma keywordAt_blank (m : List Char) : keywordAt py (' ' :: m) = none := by
  rw [keywordAt, List.find?_eq_none]
  intro word hword hfound
  simp only [Bool.and_eq_true, decide_eq_true_eq] at hfound
  have hpos : ∀ word ∈ CLAUSE_KEYWORDS, 0 < word.length := by decide
  obtain ⟨n, hn⟩ : ∃ n, word.length = n + 1 := ⟨word.length - 1, by have := hpos word hword; omega⟩
  refine lower_ne_keyword hword ?_ hfound.1.2
  rw [hn, List.take_succ_cons]
  exact List.mem_cons_self

/-- The parts of the argument. -/
lemma clauses_tstatsText {clause : List Char} (hwhole : Whole py clause)
    (hby : ∀ f ∈ byFields, f ∈ SELECTORS) :
    clauses py (tstatsText clause byFields)
      = some (if byFields.isEmpty then [(none, []), (some "where", ' ' :: clause)]
        else [(none, []), (some "where", ' ' :: (clause ++ [' '])),
          (some "by", ' ' :: listed byFields)]) := by
  -- the blank behind a keyword belongs to the part
  have hblank : ∀ keyword (m : List Char), partsFrom py 0 false .closed (some keyword) [] (' ' :: m)
      = partsFrom py 0 true .closed (some keyword) [' '] m := by
    intro keyword m
    rw [partsFrom]
    rfl
  have hclause : ∀ m, Ends m → ∃ behindSpace,
      partsFrom py 0 true .closed none [] (['w', 'h', 'e', 'r', 'e', ' '] ++ clause ++ m)
        = (none, []) :: partsFrom py 0 behindSpace .closed (some "where") (' ' :: clause) m := by
    intro m hm
    obtain ⟨behindSpace, hparts⟩ := partsFrom_append (some "where") [' ']
      hwhole.free hm
    rw [hwhole.closed] at hparts
    refine ⟨behindSpace, ?_⟩
    have hwhere := partsFrom_keyword none [] (@keywordAt_where py (clause ++ m)) (by decide)
    rw [hblank, hparts, toList_where] at hwhere
    rw [List.append_assoc]
    exact hwhere
  rw [clauses, tstatsText]
  by_cases hempty : byFields.isEmpty = true
  · obtain ⟨behindSpace, h⟩ := hclause [] (.inl rfl)
    simp only [if_pos hempty, h, partsFrom]
    rfl
  · obtain ⟨behindSpace, h⟩ := hclause ([' ', 'b', 'y', ' '] ++ listed byFields) (.inr ⟨_, rfl⟩)
    have hbyPart : partsFrom py 0 behindSpace .closed (some "where") (' ' :: clause)
          ([' ', 'b', 'y', ' '] ++ listed byFields)
        = [(some "where", ' ' :: (clause ++ [' '])), (some "by", ' ' :: listed byFields)] := by
      have hfirst : partsFrom py 0 behindSpace .closed (some "where") (' ' :: clause)
            ([' ', 'b', 'y', ' '] ++ listed byFields)
          = partsFrom py 0 true .closed (some "where") (' ' :: clause ++ [' '])
            ("by".toList ++ ' ' :: listed byFields) := by
        rw [toList_by, List.cons_append, partsFrom, keywordAt_blank]
        simp only [ite_self]
        rfl
      have hfree := (@keywordFree_selectorChars py _ (listed_chars hby) true).1
      obtain ⟨behindSpace', hlast⟩ := partsFrom_append (some "by") [' '] hfree (.inl rfl)
      rw [hfirst, partsFrom_keyword _ _ (keywordAt_by (listed byFields)) (by decide), hblank]
      rw [List.append_nil] at hlast
      rw [hlast, partsFrom]
      rfl
    simp only [if_neg hempty, h, hbyPart]
    rfl

/-! ## The searches -/

variable (py) in
/-- What is read of a clause. -/
def clauseQuery (clause : List Char) : SPLQuery :=
  parseSearchClause py.toSplPython clause (.empty "")

variable (py) in
/-- A clause of index, sourcetype, source and host terms. -/
structure OfTerms (clause : List Char) : Prop where
  parsed : (clauseQuery py clause).errors = []
  timeless : (clauseQuery py clause).earliestTime = "" ∧ (clauseQuery py clause).latestTime = ""
  terms : (clauseQuery py clause).searchExpr.all (Node.readsOnly SELECTORS) = true

/-- What every notable event has in the fields of the selectors. -/
def stash : Row := (Dict.empty.set "sourcetype" (.str "stash")).set "index" (.str "notable")

variable (py) in
/-- The rows that a search hands to `stats`. -/
def searchRows (stores : Stores py) (dispatch : Dispatch) (clause : List Char) :
    Option (List Row) := do
  let q := dispatched dispatch (clauseQuery py clause)
  let window ← windowOf py q
  let rows ← readEvents py stores q window
  rows.filterM (passes py.toSplPython .search q.searchExpr)

variable (py) in
/-- `tstats` answers as `stats` does, unless there are more groups than it answers with. -/
def Agrees (stores : Stores py) (dispatch : Dispatch) (clause : List Char) (aggs : List Aggregation)
    (byFields : List String) : Prop :=
  (∀ rows, searchRows py stores dispatch clause = some rows →
      (groupsOf py.toStatsPython byFields rows).keys.length ≤ MAX_RESULT_ROWS) →
    searchTstats py stores dispatch clause aggs byFields
      = searchStats py stores dispatch clause aggs byFields

lemma searchStats_eq (stores : Stores py) (dispatch : Dispatch) (clause : List Char)
    (aggs : List Aggregation) (byFields : List String) :
    searchStats py stores dispatch clause aggs byFields
      = (searchRows py stores dispatch clause).bind (cmdStats py.toStatsPython aggs byFields) := by
  rw [searchStats, searchRows]
  simp only [Option.bind_eq_bind, Option.bind_assoc, clauseQuery]

/-- `tstats` of a clause of such terms computes its statistics over the events that the selectors
    choose. -/
lemma searchTstats_eq {clause : List Char} (hterms : OfTerms py clause) (hwhole : Whole py clause)
    (haggs : ∀ agg ∈ aggs, Supported py agg) (hne : aggs ≠ [])
    (hby : ∀ f ∈ byFields, f ∈ SELECTORS) (stores : Stores py) (dispatch : Dispatch) :
    searchTstats py stores dispatch clause aggs byFields
      = (windowOf py (dispatched dispatch (.empty ""))).bind fun window =>
        (selectEvents py.toSplunkPython stores.events
          (selectorOf (clauseQuery py clause) window)).bind fun rows =>
          ((rows.map restrict).filterM
            (passes py.toSplPython .search (clauseQuery py clause).searchExpr)).bind
              (tstatsGroups py aggs byFields) := by
  have hoffered : (!aggs.all fun agg => offered py agg.func) = false := by
    rw [Bool.not_eq_false', List.all_eq_true]
    exact fun agg hagg => (haggs agg hagg).offered
  have hsome : aggs.isEmpty = false := by
    cases aggs with
    | nil => exact absurd rfl hne
    | cons agg aggs => rfl
  have htime : ("_time" ∈ byFields) = False := eq_false fun h => absurd (hby _ h) (by decide)
  have hwindow : ∀ window, tstatsWindow py window (clauseQuery py clause) = some window := by
    intro window
    rw [tstatsWindow, hterms.timeless.1, hterms.timeless.2]
    rfl
  have hrest : ∀ window, cmdTstats py stores.events window aggs (tstatsText clause byFields)
      = (selectEvents py.toSplunkPython stores.events
          (selectorOf (clauseQuery py clause) window)).bind fun rows =>
          ((rows.map restrict).filterM
            (passes py.toSplPython .search (clauseQuery py clause).searchExpr)).bind
              (tstatsGroups py aggs byFields) := by
    intro window
    rw [cmdTstats, clauses_tstatsText hwhole hby]
    by_cases hempty : byFields.isEmpty = true
    · have hquery : parseSearchClause py.toSplPython (' ' :: clause) (.empty "")
          = clauseQuery py clause := parseSearchClause_blank_left clause (.empty "")
      have hspan : py.span [] = some (id, []) := py.span_plain [] List.not_mem_nil
      have hfields : fieldsOf py [] = [] := rfl
      obtain rfl := List.isEmpty_iff.1 hempty
      simp [hempty, Assoc.get, hoffered, hsome, hspan, hfields, hquery, hterms.parsed, hwindow]
    · have hquery : parseSearchClause py.toSplPython (' ' :: (clause ++ [' '])) (.empty "")
          = clauseQuery py clause :=
        (parseSearchClause_blank_left _ _).trans (parseSearchClause_blank_right _ hwhole.terms)
      have hspan : py.span (' ' :: listed byFields) = some (id, ' ' :: listed byFields) := by
        refine py.span_plain _ ?_
        intro hmem
        rcases List.mem_cons.1 hmem with h | h
        · exact absurd h (by decide)
        · exact absurd (listed_chars hby _ h) (by decide)
      have hfields := @fieldsOf_listed py _ (fun h => hempty (List.isEmpty_iff.2 h)) hby
      simp [hempty, Assoc.get, hoffered, hsome, hspan, hfields, hquery, hterms.parsed, hwindow,
          htime]
      exact fun h => absurd (List.isEmpty_iff.2 h) hempty
  rw [searchTstats]
  exact congrArg _ (funext hrest)

lemma get_notableRow (n : NotableEvent) {f : String} (hf : f ∈ SELECTORS) :
    (notableRow py n).get f = stash.get f := by
  simp only [SELECTORS, List.mem_cons, List.not_mem_nil, or_false] at hf
  rcases hf with rfl | rfl | rfl | rfl
  all_goals rfl

lemma passes_notableRow {node : Option Node} (h : node.all (Node.readsOnly SELECTORS) = true)
    (n : NotableEvent) :
    passes py.toSplPython .search node (notableRow py n)
        = passes py.toSplPython .search node stash := by
  cases node with
  | none => rfl
  | some node =>
    rw [passes, passes, evaluate_congr (fun f hf => get_notableRow n hf) .search node h]

lemma queryNotables_eq (stores : Stores py) :
    ∃ rows, queryNotables py stores.notables = some rows
      ∧ rows.Perm (stores.notables.map (notableRow py)) := by
  have hreadable : ((stores.notables.map (notableRow py)).all fun row =>
      (timeKey py.toSplunkPython row).isSome) = true := by
    rw [List.all_map, List.all_eq_true]
    intro n hn
    have htime : (notableRow py n).get "_time" = some (.str n.timeAlias) := rfl
    rw [Function.comp_apply, timeKey, htime]
    exact stores.readable n hn
  refine ⟨_, if_pos hreadable, ?_⟩
  exact KeyOrder.perm_sort _ _

variable (py) in
/-- A clause that reads no notable event: it does not select their index, or no notable event passes
    it. -/
def Unnotable (clause : List Char) : Prop :=
  (clauseQuery py clause).index = "notable" →
    passes py.toSplPython .search (clauseQuery py clause).searchExpr stash = some false

/-- The rows that a search hands to `stats`, where no notable event is among them. -/
lemma searchRows_eq {clause : List Char} (hterms : OfTerms py clause) (hplain : Unnotable py clause)
    (stores : Stores py) (dispatch : Dispatch) :
    searchRows py stores dispatch clause
      = (windowOf py (dispatched dispatch (.empty ""))).bind fun window =>
        (selectEvents py.toSplunkPython stores.events
          (selectorOf (clauseQuery py clause) window)).bind
          (List.filterM (passes py.toSplPython .search (clauseQuery py clause).searchExpr)) := by
  have hwindow : windowOf py (dispatched dispatch (clauseQuery py clause))
      = windowOf py (dispatched dispatch (.empty "")) := by
    simp only [windowOf, dispatched, hterms.timeless.1, hterms.timeless.2, SPLQuery.empty]
    rfl
  have hexpanded : (clauseQuery py clause).isNotable = false := isNotable_parseSearchClause clause _
  rw [searchRows, hwindow]
  refine congrArg _ (funext fun window => ?_)
  by_cases hindex : (clauseQuery py clause).index = "notable"
  · obtain ⟨notables, hnotables, hperm⟩ := queryNotables_eq stores
    have hfail : ∀ row ∈ notables,
        passes py.toSplPython .search (clauseQuery py clause).searchExpr row = some false := by
      intro row hrow
      obtain ⟨n, -, rfl⟩ := List.mem_map.1 (hperm.subset hrow)
      rw [passes_notableRow hterms.terms]
      exact hplain hindex
    have hread : (dispatched dispatch (clauseQuery py clause)).isNotable = true
        ∨ (dispatched dispatch (clauseQuery py clause)).index = "notable" := .inr hindex
    rw [readEvents, if_pos hread, hnotables]
    simp only [Option.bind_eq_bind, Option.bind_some, Option.bind_assoc, Option.pure_def]
    refine congrArg _ (funext fun rows => ?_)
    exact filterM_append_of_false hfail rows
  · have hread : ¬ ((dispatched dispatch (clauseQuery py clause)).isNotable = true
        ∨ (dispatched dispatch (clauseQuery py clause)).index = "notable") := by
      rintro (h | h)
      · exact absurd (hexpanded.symm.trans h) Bool.false_ne_true
      · exact hindex h
    rw [readEvents, if_neg hread]
    rfl

/-- One statistic that both commands support: the number of rows. -/
def countRows : Aggregation := ⟨"count", "", "count"⟩

lemma supported_countRows : Supported py countRows := by
  have hlower : py.lower "count" = "count" := by
    rw [py.lower_ascii _ (by decide)]
    decide
  have hknown : knownAggregation py "count" = true := by
    rw [knownAggregation, hlower]
    rfl
  refine ⟨?_, hknown, .inr ⟨rfl, ?_⟩⟩
  · change (decide _ && (knownAggregation py "count" || _)) = true
    rw [hknown]
    rfl
  · change py.lower "count" ∈ _
    rw [hlower]
    exact List.mem_cons_self

lemma cmdStats_countRows (rows : List Row) :
    cmdStats py.toStatsPython [countRows] [] rows
      = some [Dict.empty.set "count" (.int rows.length)] := by
  have hlower : py.lower "count" = "count" := by
    rw [py.lower_ascii _ (by decide)]
    decide
  have hcount : aggregated py.toStatsPython [countRows] rows
      = some (Dict.empty.set "count" (.int rows.length)) := by
    simp only [aggregated, countRows, List.foldlM_cons, List.foldlM_nil, aggregate, hlower]
    rfl
  change (aggregated py.toStatsPython [countRows] rows).bind _ = _
  rw [hcount]
  rfl

/-- One notable event, and no event, of which all that is text is empty. -/
def oneNotable : Stores py where
  events := []
  notables := [⟨"", "", "", "", "", "", "", "", "", "", "", "", "", "", "", "", "", "", "", ""⟩]
  readable n hn := by
    obtain rfl := List.mem_singleton.1 hn
    exact py.float_zero

/-- The rows of a search over one notable event. -/
lemma searchRows_oneNotable {clause : List Char} (hterms : OfTerms py clause)
    (hindex : (clauseQuery py clause).index = "notable") :
    ∃ row, searchRows py oneNotable ⟨"", ""⟩ clause
      = (passes py.toSplPython .search (clauseQuery py clause).searchExpr stash).map fun b =>
        if b then [row] else [] := by
  obtain ⟨rows, hrows, hperm⟩ := queryNotables_eq (oneNotable : Stores py)
  obtain ⟨row, hrow⟩ : ∃ row, (oneNotable : Stores py).notables.map (notableRow py) = [row] :=
    ⟨_, rfl⟩
  have hpasses : passes py.toSplPython .search (clauseQuery py clause).searchExpr row
      = passes py.toSplPython .search (clauseQuery py clause).searchExpr stash := by
    have hmem : row ∈ (oneNotable : Stores py).notables.map (notableRow py) := by
      rw [hrow]
      exact List.mem_cons_self
    obtain ⟨n, -, rfl⟩ := List.mem_map.1 hmem
    exact passes_notableRow hterms.terms n
  rw [hrow] at hperm
  obtain rfl := List.perm_singleton.1 hperm
  have hwindow : windowOf py (dispatched ⟨"", ""⟩ (clauseQuery py clause))
      = some (.finite 0, .finite 0) := by
    simp only [windowOf, dispatched, hterms.timeless.1, hterms.timeless.2]
    rfl
  have hread : (dispatched ⟨"", ""⟩ (clauseQuery py clause)).isNotable = true
      ∨ (dispatched ⟨"", ""⟩ (clauseQuery py clause)).index = "notable" := .inr hindex
  have hevents : selectEvents py.toSplunkPython (oneNotable : Stores py).events
      (selectorOf (dispatched ⟨"", ""⟩ (clauseQuery py clause)) (.finite 0, .finite 0)) = some [] :=
        rfl
  have hexpr : (dispatched ⟨"", ""⟩ (clauseQuery py clause)).searchExpr
      = (clauseQuery py clause).searchExpr := rfl
  refine ⟨row, ?_⟩
  rw [searchRows, hwindow]
  simp only [Option.bind_eq_bind, Option.bind_some, readEvents, if_pos hread, hrows, hevents,
    Option.pure_def, List.append_nil, hexpr]
  rw [filterM_cons_option, hpasses]
  cases passes py.toSplPython .search (clauseQuery py clause).searchExpr stash with
  | none => rfl
  | some b => rfl

/-- `tstats` counts no notable event. -/
lemma searchTstats_oneNotable {clause : List Char} (hterms : OfTerms py clause)
    (hwhole : Whole py clause) :
    searchTstats py oneNotable ⟨"", ""⟩ clause [countRows] []
      = some [Dict.empty.set "count" (.int 0)] := by
  have haggs : ∀ agg ∈ [countRows], Supported py agg :=
    List.forall_mem_singleton.2 supported_countRows
  have hrows : selectEvents py.toSplunkPython (oneNotable : Stores py).events
      (selectorOf (clauseQuery py clause) (.finite 0, .finite 0)) = some [] := rfl
  have hwindow : windowOf py (dispatched ⟨"", ""⟩ (.empty "")) = some (.finite 0, .finite 0) := rfl
  have hcount : tstatsAggregate py "count" "" [] = some (some (.int 0)) := by
    have hknown : knownAggregation py "count" = true := supported_countRows.known
    rw [tstatsAggregate_of_known hknown, aggregate, py.lower_ascii _ (by decide)]
    rfl
  rw [searchTstats_eq hterms hwhole haggs (List.cons_ne_nil _ _)
      (fun f hf => absurd hf List.not_mem_nil), hwindow,
    Option.bind_some, hrows]
  change tstatsGroups py [countRows] [] [] = _
  simp only [tstatsGroups, List.isEmpty_nil, if_true, computed, countRows, List.foldlM_cons,
    List.foldlM_nil, hcount]
  rfl

lemma groups_nil_le (rows : List Row) :
    (groupsOf py.toStatsPython [] rows).keys.length ≤ MAX_RESULT_ROWS := by
  cases rows with
  | nil => exact Nat.zero_le _
  | cons row rows =>
    have hkeys : (groupsOf py.toStatsPython [] (row :: rows)).keys = [[]] :=
      Grouping.keys_groupsOf_of_forall (List.cons_ne_nil _ _) fun _ _ => rfl
    rw [hkeys]
    decide

/-- `tstats` answers as `stats` does exactly where no notable event is read. -/
theorem tstats_agrees_iff {clause : List Char} (hterms : OfTerms py clause)
    (hwhole : Whole py clause) :
    (∀ (stores : Stores py) (dispatch : Dispatch) (aggs : List Aggregation)
        (byFields : List String),
        aggs ≠ [] → (∀ agg ∈ aggs, Supported py agg) → (∀ f ∈ byFields, f ∈ SELECTORS) →
        Agrees py stores dispatch clause aggs byFields)
      ↔ Unnotable py clause := by
  have hpasses : ∀ node, (clauseQuery py clause).searchExpr = some node →
      node.readsOnly SELECTORS = true := by
    intro node hnode
    have hall := hterms.terms
    rw [hnode] at hall
    exact hall
  constructor
  · intro h hindex
    have haggs : ∀ agg ∈ [countRows], Supported py agg :=
      List.forall_mem_singleton.2 supported_countRows
    have hagree := h oneNotable ⟨"", ""⟩ [countRows] [] (List.cons_ne_nil _ _) haggs
      (fun f hf => absurd hf List.not_mem_nil)
    obtain ⟨row, hrows⟩ := searchRows_oneNotable hterms hindex
    have hequal := hagree fun rows _ => ?_
    · rw [searchTstats_oneNotable hterms hwhole, searchStats_eq, hrows] at hequal
      cases hpass : passes py.toSplPython .search (clauseQuery py clause).searchExpr stash with
      | none => 
        rw [hpass] at hequal
        exact absurd hequal (Option.some_ne_none _)
      | some b =>
        cases b with
        | false => rfl
        | true =>
          rw [hpass, Option.map_some, if_pos rfl, Option.bind_some, cmdStats_countRows] at hequal
          have hcount := congrArg (Option.map (List.map fun row : Row => row.get "count")) hequal
          simp [Dict.get_set_self] at hcount
    · exact groups_nil_le rows
  · intro hplain stores dispatch aggs byFields hne haggs hby hlimit
    have hrows := searchRows_eq hterms hplain stores dispatch
    rw [searchStats_eq, searchTstats_eq hterms hwhole haggs hne hby, hrows]
    rw [hrows] at hlimit
    cases hwindow : windowOf py (dispatched dispatch (.empty "")) with
    | none => rfl
    | some window =>
      rw [hwindow] at hlimit
      simp only [Option.bind_some] at hlimit ⊢
      cases hevents : selectEvents py.toSplunkPython stores.events
          (selectorOf (clauseQuery py clause) window) with
      | none => rfl
      | some rows =>
        rw [hevents] at hlimit
        simp only [Option.bind_some] at hlimit ⊢
        have hpass : passes py.toSplPython .search (clauseQuery py clause).searchExpr ∘ restrict
            = passes py.toSplPython .search (clauseQuery py clause).searchExpr :=
          funext (passes_restrict hpasses)
        rw [filterM_map, hpass]
        cases hkept :
            rows.filterM (passes py.toSplPython .search (clauseQuery py clause).searchExpr) with
        | none => rfl
        | some kept => exact tstatsGroups_restrict haggs hne hby (hlimit kept hkept)

/-- A clause of the index and of a host. -/
theorem tstats_agrees_main :
    OfTerms asciiTstatsPython "index=main host=web".toList
      ∧ Whole asciiTstatsPython "index=main host=web".toList
      ∧ ∀ (stores : Stores asciiTstatsPython) (dispatch : Dispatch) (aggs : List Aggregation)
          (byFields : List String), aggs ≠ [] → (∀ agg ∈ aggs, Supported asciiTstatsPython agg) →
          (∀ f ∈ byFields, f ∈ SELECTORS) →
          Agrees asciiTstatsPython stores dispatch "index=main host=web".toList aggs byFields := by
  have hterms : OfTerms asciiTstatsPython "index=main host=web".toList :=
    ⟨by decide +kernel, by decide +kernel, by decide +kernel⟩
  have hwhole : Whole asciiTstatsPython "index=main host=web".toList :=
    ⟨by decide +kernel, by decide +kernel, by decide +kernel⟩
  refine ⟨hterms, hwhole, (tstats_agrees_iff hterms hwhole).2 fun hindex => ?_⟩
  exact absurd hindex (by decide +kernel)

/-- Of one notable event, and no event, `stats` counts one and `tstats` none. -/
theorem tstats_counts_no_notable :
    searchStats asciiTstatsPython oneNotable ⟨"", ""⟩ "index=notable".toList [countRows] []
        = some [Dict.empty.set "count" (.int 1)]
      ∧ searchTstats asciiTstatsPython oneNotable ⟨"", ""⟩ "index=notable".toList [countRows] []
        = some [Dict.empty.set "count" (.int 0)]
      ∧ ¬ Agrees asciiTstatsPython oneNotable ⟨"", ""⟩ "index=notable".toList [countRows] [] := by
  have hterms : OfTerms asciiTstatsPython "index=notable".toList :=
    ⟨by decide +kernel, by decide +kernel, by decide +kernel⟩
  have hwhole : Whole asciiTstatsPython "index=notable".toList :=
    ⟨by decide +kernel, by decide +kernel, by decide +kernel⟩
  have hpass : passes asciiSplPython .search
      (clauseQuery asciiTstatsPython "index=notable".toList).searchExpr stash = some true := by
    decide +kernel
  obtain ⟨row, hrows⟩ := searchRows_oneNotable hterms (by decide +kernel)
  have hstats :
      searchStats asciiTstatsPython oneNotable ⟨"", ""⟩ "index=notable".toList [countRows] []
      = some [Dict.empty.set "count" (.int 1)] := by
    rw [searchStats_eq, hrows]
    change ((passes asciiSplPython .search _ stash).map _).bind _ = _
    rw [hpass, Option.map_some, if_pos rfl, Option.bind_some]
    exact cmdStats_countRows [row]
  have htstats := searchTstats_oneNotable hterms hwhole
  refine ⟨hstats, htstats, fun hagree => ?_⟩
  have hequal := hagree fun rows _ => groups_nil_le rows
  rw [hstats, htstats] at hequal
  have hcount := congrArg (Option.map (List.map fun row : Row => row.get "count")) hequal
  simp [Dict.get_set_self] at hcount

end Splunk

end Mockdr
