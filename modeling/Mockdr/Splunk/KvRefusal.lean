import Mathlib
import Mockdr.Splunk.KvStore

/-!
# Operators that the KV store does not implement

The query engine takes an operator that it does not implement for a test that fails
(`_match_condition` of `utils/splunk/kvstore_query.py`), so that it "must not silently match". Under
a `$not` the test that fails makes a query match, and so does another alternative of an `$or`.

* `mentionsIn`: such an operator occurs in a query, as a key of it or in the condition of a field.
* `demands` is what a query asks of a record, its negations moved inwards: an operator that is not
  implemented counts as a test that fails, and under an odd number of negations as one that holds.
* `refused_iff`: a query with such an operator selects no record exactly if what it demands turns
  every record away, or one of them raises. `$not`, `$ne` and `$nin` select the complements of what
  their counterparts select.
-/

namespace Mockdr

namespace KvStore

/-! ## Operators -/

/-- The operators of a condition that are implemented. -/
def conditionOps : List String :=
  ["$gt", "$gte", "$lt", "$lte", "$ne", "$in", "$nin", "$exists", "$regex"]

/-- A key of a query that joins other queries. -/
def isJoin (key : String) : Bool := key ∈ ["$and", "$or", "$not"]

/-- A condition has an operator that is not implemented. -/
def hasUnknownOp : Json → Bool
  | .dict ops => ops.any fun entry => entry.1 ∉ conditionOps
  | _ => false

mutual

/-- An operator that is not implemented occurs in a query. -/
def mentions : Json → Bool
  | .dict fields => mentionsIn fields
  | _ => false

/-- It occurs in a member of a query: as the key, in the condition of a field, or in the queries
    that are joined. -/
def mentionsIn : List (String × Json) → Bool
  | [] => false
  | (key, condition) :: rest =>
    (if key = "$and" ∨ key = "$or" then mentionsAny condition
      else if key = "$not" then mentions condition
      else startsWith key "$" || hasUnknownOp condition)
      || mentionsIn rest

/-- It occurs in one of the queries that are joined. -/
def mentionsAny : Json → Bool
  | .list subs => mentionsSome subs
  | _ => false

/-- It occurs in one of some queries. -/
def mentionsSome : List Json → Bool
  | [] => false
  | sub :: subs => mentions sub || mentionsSome subs

end

/-! ## What a query demands -/

/-- What is asked of a record. -/
inductive Demand where
  /-- an operator that is implemented holds of a field, or does not -/
  | operator (wanted : Bool) (field op : String) (operand : Json)
  /-- a field is the same as a literal, or is not -/
  | literal (wanted : Bool) (field : String) (value : Json)
  /-- nothing is asked, or too much -/
  | fixed (holds : Bool)
  /-- what is no query where one is expected -/
  | malformed
  /-- all of some demands, or any -/
  | joined (all : Bool) (demands : List Demand)

/-- One operator of the condition of a field, or its negation. -/
def demandOp (wanted : Bool) (field : String) (entry : String × Json) : Demand :=
  if entry.1 ∈ conditionOps then .operator wanted field entry.1 entry.2 else .fixed (!wanted)

/-- The condition of a field, or its negation. -/
def demandField (wanted : Bool) (field : String) : Json → Demand
  | .dict ops => .joined wanted (ops.map (demandOp wanted field))
  | literal => .literal wanted field literal

mutual

/-- A query, or its negation. -/
def demands (wanted : Bool) : Json → Demand
  | .dict fields => .joined wanted (demandMembers wanted fields)
  | _ => .malformed

/-- The members of a query, or their negations. -/
def demandMembers (wanted : Bool) : List (String × Json) → List Demand
  | [] => []
  | (key, condition) :: rest =>
    (if key = "$and" then demandSubs wanted wanted condition
      else if key = "$or" then demandSubs wanted (!wanted) condition
      else if key = "$not" then demands (!wanted) condition
      else demandField wanted key condition)
      :: demandMembers wanted rest

/-- The queries that are joined, or their negations: all of them, or any. -/
def demandSubs (wanted all : Bool) : Json → Demand
  | .list subs => .joined all (demandEach wanted subs)
  | .dict [] | .str "" => .joined all []
  | _ => .malformed

/-- Each of some queries, or its negation. -/
def demandEach (wanted : Bool) : List Json → List Demand
  | [] => []
  | sub :: subs => demands wanted sub :: demandEach wanted subs

end

section

variable (py : KvPython) (record : Record)

mutual

/-- A record meets a demand, nothing where that raises. -/
def Demand.meets : Demand → Option Bool
  | .operator wanted field op operand =>
    (checkOp py (Object.get record field) op operand).map (· == wanted)
  | .literal wanted field value => some (same py (Object.get record field) value == wanted)
  | .fixed holds => some holds
  | .malformed => none
  | .joined all ds => meetsJoined all ds

/-- A record meets all of some demands up to the first that it does not meet, or any up to the first
    that it meets. -/
def meetsJoined (all : Bool) : List Demand → Option Bool
  | [] => some all
  | d :: ds =>
    match d.meets with
    | some found => if found = all then meetsJoined all ds else some found
    | none => none

end

end

mutual

/-- A demand that no record meets, whatever the tests of its fields say. -/
def Demand.refuses : Demand → Bool
  | .operator .. | .literal .. => false
  | .fixed holds => !holds
  | .malformed => true
  | .joined true ds => someRefuses ds
  | .joined false ds => eachRefuses ds

/-- One of some demands is met by no record. -/
def someRefuses : List Demand → Bool
  | [] => false
  | d :: ds => d.refuses || someRefuses ds

/-- Each of some demands is met by no record. -/
def eachRefuses : List Demand → Bool
  | [] => true
  | d :: ds => d.refuses && eachRefuses ds

end

/-! ## Queries demand what they match -/

variable {py : KvPython} {record : Record}

lemma meetsJoined_cons (joins : Bool) {all : Bool} {d : Demand} {ds : List Demand}
    {held rest : Option Bool} {wanted : Bool} (hd : d.meets py record = held.map (· == wanted))
    (hds : meetsJoined py record all ds = rest.map (· == wanted)) (hall : all = (joins == wanted)) :
    meetsJoined py record all (d :: ds)
      = (match held with
        | some found => if found = joins then rest else some found
        | none => none).map (· == wanted) := by
  subst hall
  rw [meetsJoined, hd, hds]
  cases held with
  | none => rfl
  | some found => cases found <;> cases joins <;> cases wanted <;> rfl

lemma checkOp_unknown {op : String} (h : op ∉ conditionOps) (value operand : Json) :
    checkOp py value op operand = some false := by
  simp only [conditionOps, List.mem_cons, List.not_mem_nil, or_false, not_or] at h
  obtain ⟨hgt, hgte, hlt, hlte, hne, hin, hnin, hexists, hregex⟩ := h
  have hrange : rangeOp op = none := by
    unfold rangeOp
    split <;> first | contradiction | rfl
  unfold checkOp
  rw [hrange]
  exact (if_neg hne).trans ((if_neg hin).trans ((if_neg hnin).trans ((if_neg hexists).trans
    (if_neg hregex))))

lemma meets_demandOps (wanted : Bool) (field : String) (ops : List (String × Json)) :
    meetsJoined py record wanted (ops.map (demandOp wanted field))
      = (checkOps py (Object.get record field) ops).map (· == wanted) := by
  induction ops with
  | nil => cases wanted <;> rfl
  | cons entry ops ih =>
    obtain ⟨op, operand⟩ := entry
    have hop : (demandOp wanted field (op, operand)).meets py record
        = (checkOp py (Object.get record field) op operand).map (· == wanted) := by
      rw [demandOp]
      split
      · rfl
      · next h =>
        rw [checkOp_unknown h, Demand.meets]
        cases wanted <;> rfl
    rw [List.map_cons, meetsJoined_cons true hop ih (by cases wanted <;> rfl), checkOps]
    cases checkOp py (Object.get record field) op operand with
    | none => rfl
    | some found => cases found <;> rfl

lemma meets_demandField (wanted : Bool) (field : String) (condition : Json) :
    (demandField wanted field condition).meets py record
      = (matchCondition py (Object.get record field) condition).map (· == wanted) := by
  cases condition with
  | dict ops => exact meets_demandOps wanted field ops
  | _ => rfl

mutual

lemma meets_demands (wanted : Bool) : ∀ query : Json,
    (demands wanted query).meets py record = (matchesQuery py record query).map (· == wanted)
  | .dict fields => by
    rw [demands, Demand.meets, matchesQuery]
    exact meets_demandMembers wanted fields
  | .null | .bool _ | .int _ | .float _ | .str _ | .list _ => rfl

lemma meets_demandMembers (wanted : Bool) : ∀ fields : List (String × Json),
    meetsJoined py record wanted (demandMembers wanted fields)
      = (matchesFields py record fields).map (· == wanted)
  | [] => by cases wanted <;> rfl
  | (key, condition) :: rest => by
    have hmember :
        (if key = "$and" then demandSubs wanted wanted condition
          else if key = "$or" then demandSubs wanted (!wanted) condition
          else if key = "$not" then demands (!wanted) condition
          else demandField wanted key condition).meets py record
        = (if key = "$and" then allMatch py record condition
          else if key = "$or" then anyMatch py record condition
          else if key = "$not" then (matchesQuery py record condition).map not
          else matchCondition py (Object.get record key) condition).map (· == wanted) := by
      split_ifs
      · exact meets_demandAll wanted condition
      · exact meets_demandAny wanted condition
      · rw [meets_demands (!wanted) condition, Option.map_map]
        congr 1
        funext found
        cases found <;> cases wanted <;> rfl
      · exact meets_demandField wanted key condition
    rw [demandMembers, meetsJoined_cons true hmember (meets_demandMembers wanted rest)
      (by cases wanted <;> rfl), matchesFields]
    generalize (if key = "$and" then allMatch py record condition
      else if key = "$or" then anyMatch py record condition
      else if key = "$not" then (matchesQuery py record condition).map not
      else matchCondition py (Object.get record key) condition) = held
    cases held with
    | none => rfl
    | some found => cases found <;> rfl

lemma meets_demandAll (wanted : Bool) : ∀ condition : Json,
    (demandSubs wanted wanted condition).meets py record
      = (allMatch py record condition).map (· == wanted)
  | .list subs => by
    rw [demandSubs, Demand.meets, allMatch]
    exact meets_demandEach_all wanted subs
  | .dict [] => by cases wanted <;> rfl
  | .str s => by
    rw [demandSubs.eq_def, allMatch.eq_def]
    split <;> first
      | contradiction
      | (cases wanted <;> rfl)
      | (split <;> first | contradiction | (cases wanted <;> rfl))
  | .dict (_ :: _) => rfl
  | .null | .bool _ | .int _ | .float _ => rfl

lemma meets_demandAny (wanted : Bool) : ∀ condition : Json,
    (demandSubs wanted (!wanted) condition).meets py record
      = (anyMatch py record condition).map (· == wanted)
  | .list subs => by
    rw [demandSubs, Demand.meets, anyMatch]
    exact meets_demandEach_any wanted subs
  | .dict [] => by cases wanted <;> rfl
  | .str s => by
    rw [demandSubs.eq_def, anyMatch.eq_def]
    split <;> first
      | contradiction
      | (cases wanted <;> rfl)
      | (split <;> first | contradiction | (cases wanted <;> rfl))
  | .dict (_ :: _) => rfl
  | .null | .bool _ | .int _ | .float _ => rfl

lemma meets_demandEach_all (wanted : Bool) : ∀ subs : List Json,
    meetsJoined py record wanted (demandEach wanted subs)
      = (allOf py record subs).map (· == wanted)
  | [] => by cases wanted <;> rfl
  | sub :: subs => by
    rw [demandEach, meetsJoined_cons true (meets_demands wanted sub)
      (meets_demandEach_all wanted subs) (by cases wanted <;> rfl), allOf]
    cases matchesQuery py record sub with
    | none => rfl
    | some found => cases found <;> rfl

lemma meets_demandEach_any (wanted : Bool) : ∀ subs : List Json,
    meetsJoined py record (!wanted) (demandEach wanted subs)
      = (anyOf py record subs).map (· == wanted)
  | [] => by cases wanted <;> rfl
  | sub :: subs => by
    rw [demandEach, meetsJoined_cons false (meets_demands wanted sub)
      (meets_demandEach_any wanted subs) (by cases wanted <;> rfl), anyOf]
    cases matchesQuery py record sub with
    | none => rfl
    | some found => cases found <;> rfl

end

mutual

lemma not_meets_of_refuses : ∀ {d : Demand}, d.refuses = true → d.meets py record ≠ some true
  | .operator .., h | .literal .., h => by cases h
  | .fixed true, h => by cases h
  | .fixed false, _ => nofun
  | .malformed, _ => nofun
  | .joined true _, h => not_meets_of_someRefuses h
  | .joined false _, h => not_meets_of_eachRefuses h

lemma not_meets_of_someRefuses : ∀ {ds : List Demand}, someRefuses ds = true →
    meetsJoined py record true ds ≠ some true
  | d :: ds, h => by
    rw [someRefuses, Bool.or_eq_true] at h
    rw [meetsJoined]
    rcases h with hfirst | hrest
    · have hd : d.meets py record ≠ some true := not_meets_of_refuses hfirst
      split
      · next found hfound =>
        rw [hfound] at hd
        rw [if_neg fun hall => hd (congrArg some hall)]
        exact hd
      · exact nofun
    · have hds : meetsJoined py record true ds ≠ some true := not_meets_of_someRefuses hrest
      split
      · split_ifs with hall
        · exact hds
        · exact fun hfound => hall (Option.some.inj hfound)
      · exact nofun

lemma not_meets_of_eachRefuses : ∀ {ds : List Demand}, eachRefuses ds = true →
    meetsJoined py record false ds ≠ some true
  | [], _ => nofun
  | d :: ds, h => by
    rw [eachRefuses, Bool.and_eq_true] at h
    have hd : d.meets py record ≠ some true := not_meets_of_refuses h.1
    have hds : meetsJoined py record false ds ≠ some true := not_meets_of_eachRefuses h.2
    rw [meetsJoined]
    split
    · next found hfound =>
      split_ifs
      · exact hds
      · rw [← hfound]
        exact hd
    · exact nofun

end

/-! ## What a query selects -/

/-- `[r for r in records if matches(r, parsed)]`, nothing where it raises. -/
def select (py : KvPython) (query : Object) (records : List Record) : Option (List Record) :=
  if records.all fun r => (matchesFields py r query).isSome then
    some (records.filter fun r => matchesFields py r query = some true)
  else none

lemma applyQuery_eq_select {query : Object} {text : String}
    (hload : py.jsonLoad text = some (.dict query)) (htext : text ≠ "") (records : List Record) :
    applyQuery py records text = select py query records := by
  have hselects : ∀ r, selects py text r = matchesFields py r query := by
    intro r
    rw [selects, if_neg htext, hload]
    cases query <;> rfl
  simp only [applyQuery, select, hselects]

/-- No record is selected. -/
def SelectsNone (py : KvPython) (query : Object) (records : List Record) : Prop :=
  ∀ found, select py query records = some found → found = []

/-- A query selects what the other does not, and raises where it does. -/
def Complementary (py : KvPython) (query other : Object) : Prop :=
  ∀ records, select py other records = (select py query records).map fun _ =>
    records.filter fun r => matchesFields py r query ≠ some true

/-- The tests that a query makes turn every record away, or one of the records raises. -/
def TurnsAway (py : KvPython) (query : Object) (records : List Record) : Prop :=
  (∃ r ∈ records, (demands true (.dict query)).meets py r = none)
    ∨ ∀ r ∈ records, (demands true (.dict query)).meets py r = some false

lemma meets_demands_true (py : KvPython) (r : Record) (query : Object) :
    (demands true (.dict query)).meets py r = matchesFields py r query := by
  rw [meets_demands, matchesQuery]
  cases matchesFields py r query with
  | none => rfl
  | some found => cases found <;> rfl

lemma selectsNone_iff {query : Object} {records : List Record} :
    SelectsNone py query records ↔ TurnsAway py query records := by
  simp only [SelectsNone, TurnsAway, meets_demands_true, select]
  by_cases hall : records.all fun r => (matchesFields py r query).isSome
  · rw [if_pos hall]
    rw [List.all_eq_true] at hall
    constructor
    · intro h
      refine .inr fun r hr => ?_
      obtain ⟨found, hfound⟩ := Option.isSome_iff_exists.1 (hall r hr)
      cases found with
      | false => exact hfound
      | true =>
        have hkept := List.filter_eq_nil_iff.1 (h _ rfl) r hr
        exact absurd (decide_eq_true hfound) hkept
    · rintro (⟨r, hr, hnone⟩ | hfalse) found hfound
      · have hsome := hall r hr
        rw [hnone] at hsome
        cases hsome
      · rw [← Option.some.inj hfound, List.filter_eq_nil_iff]
        intro r hr
        rw [hfalse r hr]
        decide
  · rw [if_neg hall]
    refine iff_of_true nofun (.inl ?_)
    rw [Bool.not_eq_true, List.all_eq_false] at hall
    obtain ⟨r, hr, hnone⟩ := hall
    exact ⟨r, hr, Option.not_isSome_iff_eq_none.1 hnone⟩

lemma complementary_of_not {query other : Object}
    (h : ∀ r, matchesFields py r other = (matchesFields py r query).map not) :
    Complementary py query other := by
  intro records
  simp only [select, h, Option.isSome_map]
  split
  · next hall =>
    rw [Option.map_some, Option.some_inj]
    refine List.filter_congr fun r hr => ?_
    obtain ⟨found, hfound⟩ := Option.isSome_iff_exists.1 (List.all_eq_true.1 hall r hr)
    rw [hfound]
    cases found <;> rfl
  · rfl

lemma matchesFields_single {field : String} (h : isJoin field = false) (condition : Json)
    (r : Record) :
    matchesFields py r [(field, condition)]
      = matchCondition py (Object.get r field) condition := by
  simp only [isJoin, List.mem_cons, List.not_mem_nil, or_false, decide_eq_false_iff_not,
    not_or] at h
  obtain ⟨hand, hor, hnot⟩ := h
  rw [matchesFields, if_neg hand, if_neg hor, if_neg hnot]
  cases matchCondition py (Object.get r field) condition with
  | none => rfl
  | some found => cases found <;> rfl

lemma checkOps_single (value : Json) (op : String) (operand : Json) :
    checkOps py value [(op, operand)] = checkOp py value op operand := by
  rw [checkOps]
  cases checkOp py value op operand with
  | none => rfl
  | some found => cases found <;> rfl

/-- A query with an operator that is not implemented selects no record exactly if such an operator
    stands where it cannot be got round, or the tests of the query turn every record away; one that
    is negated counts as a test that holds. `$not`, `$ne` and `$nin` select the complement of what
    the query, the literal and `$in` select. -/
theorem refused_iff (py : KvPython) :
    (∀ query records, (mentionsIn query = true → SelectsNone py query records)
        ↔ (mentionsIn query = true →
          (demands true (.dict query)).refuses = true ∨ TurnsAway py query records))
      ∧ (∀ query, Complementary py query [("$not", .dict query)])
      ∧ (∀ field literal, isJoin field = false → literal.isDict = false →
        Complementary py [(field, literal)] [(field, .dict [("$ne", literal)])])
      ∧ ∀ field operand, isJoin field = false →
        Complementary py [(field, .dict [("$in", operand)])]
          [(field, .dict [("$nin", operand)])] := by
  refine ⟨fun query records => ?_, fun query => ?_, fun field literal hfield hliteral => ?_,
    fun field operand hfield => ?_⟩
  · refine imp_congr_right fun _ => ?_
    rw [selectsNone_iff]
    refine ⟨.inr, fun h => h.elim (fun hrefuses => ?_) id⟩
    by_cases hraises : ∃ r ∈ records, (demands true (.dict query)).meets py r = none
    · exact .inl hraises
    · refine .inr fun r hr => ?_
      cases hmeets : (demands true (.dict query)).meets py r with
      | none => exact absurd ⟨r, hr, hmeets⟩ hraises
      | some found =>
        cases found with
        | false => rfl
        | true => exact absurd hmeets (not_meets_of_refuses hrefuses)
  · refine complementary_of_not fun r => ?_
    rw [matchesFields, matchesQuery]
    cases matchesFields py r query with
    | none => rfl
    | some found => cases found <;> rfl
  · refine complementary_of_not fun r => ?_
    rw [matchesFields_single hfield, matchesFields_single hfield]
    change checkOps py _ [("$ne", literal)] = _
    rw [checkOps_single]
    cases literal with
    | dict ops => cases hliteral
    | _ => rfl
  · refine complementary_of_not fun r => ?_
    rw [matchesFields_single hfield, matchesFields_single hfield]
    change checkOps py _ [("$nin", operand)] = (checkOps py _ [("$in", operand)]).map not
    rw [checkOps_single, checkOps_single]
    rfl

/-- A record is selected by the negation of a query with an operator that is not implemented. -/
theorem unknown_selects_under_not :
    mentionsIn [("$not", .dict [("a", .dict [("$size", .int 1)])])] = true
      ∧ select asciiKvPython [("$not", .dict [("a", .dict [("$size", .int 1)])])]
          [[("a", .int 1)]] = some [[("a", .int 1)]] :=
  ⟨by decide, rfl⟩

end KvStore

end Mockdr
