import Mockdr.Xdr.Filters

/-!
# The filter trees of Cortex alerts

`apply_filter_data` of `utils/xdr_filter_data.py`: a tree of `AND` and `OR` over leaves that test
one field each.

* `Node` is a tree as it is gone through, `readNode` makes one of a request.
* `matchNode` evaluates a tree, from left to right and no further than it has to.
* `Unsupported` says that a tree has a node that is no object or a leaf of no type there is, and
  `holds` what a tree means otherwise.
* `refused_by_request_iff`: the filters of both kinds are refused for what they name and nothing
  else exactly where an operator or a type that there is not does not wait for a record to be
  noticed.
-/

namespace Mockdr

namespace Xdr

/-- The built-ins of filter trees. -/
structure FilterPython extends NumberPython where
  /-- `str.upper` -/
  upper : String → String
  /-- `time.time()` -/
  clock : ℚ

/-- The built-ins on ASCII text, at the epoch. -/
def asciiFilterPython : FilterPython where
  toNumberPython := asciiNumberPython
  upper s := String.ofList (s.toList.map Char.toUpper)
  clock := 0

/-- A node of a filter tree. -/
inductive Node where
  | invalid
  | leaf (o : Object)
  | all (children : List Node)
  | any (children : List Node)

mutual

/-- The node a value stands for. -/
def readNode : Json → Node
  | .dict o =>
    match readChildren "AND" o with
    | some children => .all children
    | none =>
      match readChildren "OR" o with
      | some children => .any children
      | none => .leaf o
  | _ => .invalid

/-- The nodes of a list. -/
def readNodes : List Json → List Node
  | [] => []
  | v :: vs => readNode v :: readNodes vs

/-- The children under a name, if there is such a member: those of a list, or the one there is. -/
def readChildren (name : String) : List (String × Json) → Option (List Node)
  | [] => none
  | (k, v) :: rest =>
    if k = name then
      match v with
      | .list vs => some (readNodes vs)
      | v => some [readNode v]
    else readChildren name rest

end

section

variable (py : FilterPython)

/-- `_empty` -/
def isEmpty : Json → Bool
  | .null => true
  | .str s => s = ""
  | .list xs => xs.isEmpty
  | .dict o => o.isEmpty
  | _ => false

/-- `_text(node.get("SEARCH_FIELD"))` -/
def searchField (node : Object) : String := text py.toNumberPython (Object.get node "SEARCH_FIELD")

/-- `_text(node.get("SEARCH_TYPE")).upper()` -/
def searchType (node : Object) : String :=
  py.upper (text py.toNumberPython (Object.get node "SEARCH_TYPE"))

/-- The types of leaves. -/
def searchTypes : List String :=
  ["EQ", "NEQ", "CONTAINS", "IP_MATCH", "IPLIST_MATCH", "IS_EMPTY", "NIS_EMPTY", "RANGE",
    "RELATIVE_TIMESTAMP"]

/-- `time.time() * 1000 - back` -/
def before : PyFloat → PyFloat
  | .finite back => .finite (py.clock * 1000 - back)
  | .posInf => .negInf
  | .negInf => .posInf
  | .nan => .nan

/-- The `RANGE` arm of `_leaf`. -/
def inRange (held wanted : Json) : Except FilterError Bool :=
  let bounds := wanted.fields
  match py.asFloat held, py.asFloat (Object.get bounds "from"),
    py.asFloat (Object.get bounds "to") with
  | some number, some low, some high =>
    .ok (number.any fun number => (low.all fun low => RangeOp.gte.holds number low)
      && high.all fun high => RangeOp.lte.holds number high)
  | _, _, _ => .error .crash

/-- The `RELATIVE_TIMESTAMP` arm of `_leaf`. -/
def isSince (held wanted : Json) : Except FilterError Bool :=
  match py.asFloat wanted, py.asFloat held with
  | some back, some number =>
    .ok (back.any fun back => number.any fun number => RangeOp.gte.holds number (before py back))
  | _, _ => .error .crash

/-- `_leaf` -/
def leafMatches (record node : Object) : Except FilterError Bool :=
  let kind := searchType py node
  let wanted := Object.get node "SEARCH_VALUE"
  let held := Object.get record (searchField py node)
  let asText := text py.toNumberPython
  let isEq := (asList held).any fun v => asText v = asText wanted || v.eq wanted
  if kind = "EQ" then .ok isEq
  else if kind = "NEQ" then .ok (!isEq)
  else if kind = "CONTAINS" then
    .ok ((asList held).any fun v => hasSub (py.lower (asText wanted)) (py.lower (asText v)))
  else if kind = "IP_MATCH" ∨ kind = "IPLIST_MATCH" then
    .ok ((asList held).any fun v => strip (asText v) = asText wanted)
  else if kind = "IS_EMPTY" then .ok (isEmpty held)
  else if kind = "NIS_EMPTY" then .ok (!isEmpty held)
  else if kind = "RANGE" then inRange py held wanted
  else if kind = "RELATIVE_TIMESTAMP" then isSince py held wanted
  else .error (.unsupported ("Unsupported SEARCH_TYPE '" ++ kind ++ "'"))

mutual

/-- `_matches` -/
def matchNode (record : Object) : Node → Except FilterError Bool
  | .invalid => .error (.unsupported "A filter node must be an object")
  | .leaf o => leafMatches py record o
  | .all children => matchAll record children
  | .any children => if children matches [] then .ok true else matchAny record children

/-- `all(_matches(record, child) for child in children)` -/
def matchAll (record : Object) : List Node → Except FilterError Bool
  | [] => .ok true
  | child :: children => do if ← matchNode record child then matchAll record children else .ok false

/-- `any(_matches(record, child) for child in children)` -/
def matchAny (record : Object) : List Node → Except FilterError Bool
  | [] => .ok false
  | child :: children => do if ← matchNode record child then .ok true else matchAny record children

end

/-- `apply_filter_data` -/
def applyFilterData (records : List Object) (filterData : Object) :
    Except FilterError (List Object) :=
  let tree := Object.get filterData "filter"
  if tree.truthy then records.filterM fun record => matchNode py record (readNode tree)
  else .ok records

/-! ## What a tree asks for -/

mutual

/-- A tree that has a node that is no object, or a leaf of no type there is. -/
def Unsupported : Node → Prop
  | .invalid => True
  | .leaf o => searchType py o ∉ searchTypes
  | .all children => SomeUnsupported children
  | .any children => SomeUnsupported children

/-- `Unsupported`, of some node. -/
def SomeUnsupported : List Node → Prop
  | [] => False
  | child :: children => Unsupported child ∨ SomeUnsupported children

end

/-- A record passes a leaf, if this can be told. -/
def passesLeaf (record o : Object) : Bool :=
  match leafMatches py record o with
  | .ok passes => passes
  | .error _ => false

mutual

/-- What a tree says of a record. -/
def holds (record : Object) : Node → Bool
  | .invalid => false
  | .leaf o => passesLeaf py record o
  | .all children => allHold record children
  | .any children => children matches [] || someHolds record children

/-- Every one of some nodes holds. -/
def allHold (record : Object) : List Node → Bool
  | [] => true
  | child :: children => holds record child && allHold record children

/-- One of some nodes holds. -/
def someHolds (record : Object) : List Node → Bool
  | [] => false
  | child :: children => holds record child || someHolds record children

end

/-- The numbers that a leaf compares fit into floats. -/
def LeafFits (record o : Object) : Prop :=
  let held := Object.get record (searchField py o)
  let wanted := Object.get o "SEARCH_VALUE"
  (searchType py o = "RANGE" → (py.asFloat held).isSome
      ∧ (py.asFloat (Object.get wanted.fields "from")).isSome
      ∧ (py.asFloat (Object.get wanted.fields "to")).isSome)
    ∧ (searchType py o = "RELATIVE_TIMESTAMP" → (py.asFloat wanted).isSome
        ∧ (py.asFloat held).isSome)

mutual

/-- The numbers that the leaves of a tree compare fit into floats. -/
def NodeFits (record : Object) : Node → Prop
  | .invalid => True
  | .leaf o => LeafFits py record o
  | .all children => NodesFit record children
  | .any children => NodesFit record children

/-- `NodeFits`, of every node. -/
def NodesFit (record : Object) : List Node → Prop
  | [] => True
  | child :: children => NodeFits record child ∧ NodesFit record children

end

/-- A tree is refused for what it names: on all records, or on none, and then it leaves the
    records it says. -/
def TreeRefusedByRequest (filterData : Object) : Prop :=
  let tree := Object.get filterData "filter"
  ∀ records, (∀ record ∈ records, NodeFits py record (readNode tree)) →
    (Refused (applyFilterData py records filterData)
        ↔ tree.truthy = true ∧ Unsupported py (readNode tree))
      ∧ (¬ (tree.truthy = true ∧ Unsupported py (readNode tree)) →
        applyFilterData py records filterData
          = .ok (records.filter fun record => !tree.truthy || holds py record (readNode tree)))

end

variable {py : FilterPython} {record : Object}

/-- A leaf of a type that there is tells whether a record passes. -/
lemma leafMatches_eq {o : Object} (htype : searchType py o ∈ searchTypes)
    (hfits : LeafFits py record o) : leafMatches py record o = .ok (passesLeaf py record o) := by
  obtain ⟨passes, hpasses⟩ : ∃ passes, leafMatches py record o = .ok passes := by
    rw [leafMatches]
    simp only [searchTypes, List.mem_cons, List.not_mem_nil, or_false] at htype
    rcases htype with h | h | h | h | h | h | h | h | h
    · exact ⟨_, by rw [h]; rfl⟩
    · exact ⟨_, by rw [h]; rfl⟩
    · exact ⟨_, by rw [h]; rfl⟩
    · exact ⟨_, by rw [h]; rfl⟩
    · exact ⟨_, by rw [h]; rfl⟩
    · exact ⟨_, by rw [h]; rfl⟩
    · exact ⟨_, by rw [h]; rfl⟩
    · obtain ⟨hheld, hlow, hhigh⟩ := hfits.1 h
      obtain ⟨number, hnumber⟩ := Option.isSome_iff_exists.1 hheld
      obtain ⟨low, hlow⟩ := Option.isSome_iff_exists.1 hlow
      obtain ⟨high, hhigh⟩ := Option.isSome_iff_exists.1 hhigh
      obtain ⟨passes, hrange⟩ : ∃ passes, inRange py (Object.get record (searchField py o))
          (Object.get o "SEARCH_VALUE") = .ok passes := by
        simp only [inRange, hnumber, hlow, hhigh]
        exact ⟨_, rfl⟩
      exact ⟨passes, by rw [h]; exact hrange⟩
    · obtain ⟨hwanted, hheld⟩ := hfits.2 h
      obtain ⟨back, hback⟩ := Option.isSome_iff_exists.1 hwanted
      obtain ⟨number, hnumber⟩ := Option.isSome_iff_exists.1 hheld
      obtain ⟨passes, hsince⟩ : ∃ passes, isSince py (Object.get record (searchField py o))
          (Object.get o "SEARCH_VALUE") = .ok passes := by
        simp only [isSince, hback, hnumber]
        exact ⟨_, rfl⟩
      exact ⟨passes, by rw [h]; exact hsince⟩
  rw [passesLeaf, hpasses]

mutual

lemma matchNode_eq : ∀ {node : Node}, ¬ Unsupported py node → NodeFits py record node →
    matchNode py record node = .ok (holds py record node)
  | .invalid, h, _ => absurd trivial h
  | .leaf _, h, hfits => leafMatches_eq (not_not.1 h) hfits
  | .all _, h, hfits => matchAll_eq h hfits
  | .any [], _, _ => rfl
  | .any (_ :: _), h, hfits => matchAny_eq h hfits

lemma matchAll_eq : ∀ {children : List Node}, ¬ SomeUnsupported py children →
    NodesFit py record children → matchAll py record children = .ok (allHold py record children)
  | [], _, _ => rfl
  | child :: children, h, hfits => by
    obtain ⟨hchild, hchildren⟩ := not_or.1 h
    rw [matchAll, matchNode_eq hchild hfits.1, allHold]
    cases holds py record child with
    | true => exact matchAll_eq hchildren hfits.2
    | false => rfl

lemma matchAny_eq : ∀ {children : List Node}, ¬ SomeUnsupported py children →
    NodesFit py record children → matchAny py record children = .ok (someHolds py record children)
  | [], _, _ => rfl
  | child :: children, h, hfits => by
    obtain ⟨hchild, hchildren⟩ := not_or.1 h
    rw [matchAny, matchNode_eq hchild hfits.1, someHolds]
    cases holds py record child with
    | true => rfl
    | false => exact matchAny_eq hchildren hfits.2

end

/-- A tree is refused for what it names and nothing else exactly if it names nothing that there is
    not. -/
lemma treeRefusedByRequest_iff {filterData : Object} :
    TreeRefusedByRequest py filterData
      ↔ ((Object.get filterData "filter").truthy = true →
        ¬ Unsupported py (readNode (Object.get filterData "filter"))) := by
  constructor
  · intro h htruthy hunsupported
    obtain ⟨message, hrefused⟩ := (h [] (List.forall_mem_nil _)).1.2 ⟨htruthy, hunsupported⟩
    rw [applyFilterData, if_pos htruthy] at hrefused
    cases hrefused
  · intro h records hfits
    have hnot := not_and.2 h
    have hok : applyFilterData py records filterData
        = .ok (records.filter fun record => !(Object.get filterData "filter").truthy
          || holds py record (readNode (Object.get filterData "filter"))) := by
      rw [applyFilterData]
      cases htruthy : (Object.get filterData "filter").truthy with
      | true =>
        rw [if_pos rfl]
        exact filterM_eq_filter fun record hrecord => matchNode_eq (h htruthy)
            (hfits record hrecord)
      | false => simp only [Bool.false_eq_true, if_false, Bool.not_false, Bool.true_or,
          List.filter_true]
    refine ⟨iff_of_false ?_ hnot, fun _ => hok⟩
    rintro ⟨message, hrefused⟩
    rw [hok] at hrefused
    cases hrefused

/-- Both kinds of filters are refused for what they name, whatever the records: a list of filters if
    none of its operators is unknown or some field is, a tree if each of its nodes is an object and
    each of its leaves has a type there is. -/
theorem refused_by_request_iff (py : FilterPython) (fieldMap : List (String × String)) :
    (∀ filters, RefusedByRequest py.toNumberPython fieldMap filters
        ↔ (UnsupportedOperator py.toNumberPython filters →
          UnsupportedField py.toNumberPython fieldMap filters))
      ∧ ∀ filterData, TreeRefusedByRequest py filterData
        ↔ ((Object.get filterData "filter").truthy = true →
          ¬ Unsupported py (readNode (Object.get filterData "filter"))) :=
  ⟨fun _ => refusedByRequest_iff, fun _ => treeRefusedByRequest_iff⟩

/-- An operator that there is not is noticed on a record with a number and not on an empty list, and
    neither is a type of a leaf. -/
theorem unknown_operator_unnoticed :
    applyFilters asciiNumberPython [("severity", "severity")] []
        (some [[("field", .str "severity"), ("operator", .str "like"), ("value", .int 1)]]) = .ok []
      ∧ Refused (applyFilters asciiNumberPython [("severity", "severity")]
        [.dict [("severity", .int 2)]]
        (some [[("field", .str "severity"), ("operator", .str "like"), ("value", .int 1)]]))
      ∧ applyFilterData asciiFilterPython [] [("filter", .dict [("SEARCH_TYPE", .str "LIKE")])]
        = .ok []
      ∧ Refused (applyFilterData asciiFilterPython [[]]
        [("filter", .dict [("SEARCH_TYPE", .str "LIKE")])]) := by
  refine ⟨?_, ⟨"Unsupported filter operator 'like'", ?_⟩, ?_,
    ⟨"Unsupported SEARCH_TYPE 'LIKE'", ?_⟩⟩
  · rfl
  · rfl
  · rfl
  · rfl

end Xdr

end Mockdr
