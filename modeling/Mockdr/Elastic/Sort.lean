import Mathlib.Data.Prod.Lex
import Mathlib.Data.Sum.Order
import Mathlib.Data.String.Basic
import Mockdr.Elastic.Collection
import Mockdr.Elastic.Query

/-!
# Sorting, and paging by the last hit

The part of `utils/es_query.py` that has to agree on one order: the sorter (`applyEsSort`), the
values of a hit's `sort` array (`sortValues`), and the test of whether a record stands after such an
array (`follows`, `applySearchAfter`).

What `_sort_key` answers is a `Rank`: two tuples of Python compare as `Rank`s do, as long as no
number meets a string. `millis` is the part of `_sort_value` that reads a date: the epoch
milliseconds of a string that looks like one and parses, nothing for any other.
-/

namespace Mockdr.Elastic

/-! ## Sort keys -/

/-- `SortKey` -/
structure SortKey where
  field : String
  desc : Bool := false
  missingFirst : Bool := false
  unmappedType : String := ""

/-- The options of a field: an object of them, or the order alone. -/
def sortKeyOf (py : Python) (field : String) : Json → SortKey
  | .dict opts =>
    { field
      desc := Json.eq ((Assoc.get "order" opts).getD (.str "asc")) (.str "desc")
      missingFirst := Json.eq (Object.get opts "missing") (.str "_first")
      unmappedType := py.toStr ((Assoc.get "unmapped_type" opts).getD (.str "")) }
  | opts => { field, desc := py.lower (py.toStr opts) = "desc" }

/-- The sort keys of one member of a sort. -/
def sortEntry (py : Python) (inArray : Bool) : Json → Except SearchError (List SortKey)
  | .str field => .ok [{ field }]
  | .dict fields => .ok (fields.map fun p => sortKeyOf py p.1 p.2)
  | entry =>
    if inArray then
      .error (.query {
        message := "malformed sort format, within the sort array, an object, " ++
          "or an actual string are allowed"
        esType := "illegal_argument_exception" })
    else .ok [{ field := py.toStr entry }]

/-- `parse_sort_keys` -/
def parseSortKeys (py : Python) (spec : Json) : Except SearchError (List SortKey) :=
  match spec with
  | .list entries => (entries.mapM (sortEntry py true)).map List.flatten
  | entry => sortEntry py false entry

/-- The keys of a search that gives a sort: `parse_sort_keys(sort or [])`. -/
def sortKeysOf (py : Python) (spec : Json) : Except SearchError (List SortKey) :=
  parseSortKeys py (if spec.truthy then spec else .list [])

/-- `emits_sort_values` -/
def emitsSortValues (keys : List SortKey) : Bool := keys.any fun key => key.field ≠ "_score"

/-- `_POSITION_KEYS` -/
def positionKeys : List String := ["_score", "_doc", "_shard_doc"]

/-- Whether a sort key names a position or a score rather than a field. -/
def SortKey.positional (key : SortKey) : Bool := positionKeys.contains key.field

/-- `_KEYWORD_TYPES` -/
def keywordTypes : List String := ["keyword", "text", "ip", "version", "boolean"]

/-! ## What values sort as -/

/-- What `_sort_key` answers: whether there is no value, and the number or the string it compares
    as. -/
abbrev Rank := Nat ×ₗ (ℚ ⊕ₗ String)

/-- The rank of a number. -/
def numberRank (group : Nat) (q : ℚ) : Rank := toLex (group, Sum.inlₗ q)

/-- The rank of a string. -/
def textRank (group : Nat) (s : String) : Rank := toLex (group, Sum.inrₗ s)

/-- The rank of a value that is there, in a group. -/
def rankIn (py : Python) (group : Nat) (v : Json) : Rank :=
  match v.number with
  | some q => numberRank group q
  | none => textRank group (py.toStr v)

/-- `_sort_key` -/
def sortRank (py : Python) : Json → Rank
  | .null => textRank 1 ""
  | v => rankIn py 0 v

/-- Whether Python can compare two ranks: not a number and a string of one group. -/
def comparable (a b : Rank) : Bool :=
  (ofLex a).1 ≠ (ofLex b).1 || (ofLex (ofLex a).2).isLeft = (ofLex (ofLex b).2).isLeft

/-- The doc value of a string: a date comes back as its milliseconds. -/
def sortText (millis : String → Option Int) (s : String) : Json :=
  match millis s with
  | some n => .int n
  | none => .str s

/-- `_sort_value` -/
def sortValue (py : Python) (millis : String → Option Int) : Json → Json
  | .str s => sortText millis s
  | .list xs =>
    match (xs.map py.toStr).min? with
    | some s => sortText millis s
    | none => .null
  | v => v

/-! ## Sorting -/

/-- `_make_key`: the rank of a record by one key, with the records that lack the field in a group of
    their own. -/
def columnRank (py : Python) (key : SortKey) (record : Rec) : Rank :=
  let absent := if key.missingFirst = key.desc then 1 else 0
  match getNested py (.dict record.source) key.field with
  | .null => textRank absent ""
  | v => rankIn py (1 - absent) v

/-- The order of the records by one key. -/
def columnLe (py : Python) (key : SortKey) (a b : Placed) : Prop :=
  if key.desc then columnRank py key b.toRec ≤ columnRank py key a.toRec
  else columnRank py key a.toRec ≤ columnRank py key b.toRec

instance (py : Python) (key : SortKey) : DecidableRel (columnLe py key) := fun a b =>
  inferInstanceAs (Decidable (if key.desc then columnRank py key b.toRec ≤ columnRank py key a.toRec
    else columnRank py key a.toRec ≤ columnRank py key b.toRec))

/-- One stable sort of `apply_es_sort`. Comparing a number with a string raises. -/
def sortColumn (py : Python) (key : SortKey) (records : List Placed) :
    Except SearchError (List Placed) :=
  if key.positional then .ok records
  else
    let ranks := records.map fun d => columnRank py key d.toRec
    if ranks.all fun a => ranks.all (comparable a) then
      .ok (records.insertionSort (columnLe py key))
    else .error .crash

/-- `apply_es_sort`: by the last key first, and by the first one last. -/
def applyEsSort (py : Python) (spec : Json) (records : List Placed) :
    Except SearchError (List Placed) :=
  if !spec.truthy then .ok records
  else do
    let keys ← parseSortKeys py spec
    keys.foldrM (sortColumn py) records

/-! ## The `sort` array of a hit -/

/-- What a sort field holds. -/
inductive FieldKind where
  | number
  | keyword
  deriving DecidableEq

/-- What a field holds, judged by the type the client named or by the first value there is. -/
def fieldKind (py : Python) (millis : String → Option Int) (records : List Rec) (key : SortKey) :
    Option FieldKind :=
  if key.unmappedType ≠ "" then
    some (if keywordTypes.contains key.unmappedType then .keyword else .number)
  else
    records.findSome? fun record =>
      match getNested py (.dict record.source) key.field with
      | .null => none
      | v => some (if (sortValue py millis v).number.isSome then .number else .keyword)

/-- `sort_field_kinds` -/
def sortFieldKinds (py : Python) (millis : String → Option Int) (records : List Rec)
    (keys : List SortKey) : List (String × FieldKind) :=
  keys.foldl (fun kinds key =>
    if key.positional then kinds
    else
      match fieldKind py millis records key with
      | some kind => Assoc.set key.field kind kinds
      | none => kinds) []

/-- `_LONG_MAX` -/
def longMax : Int := 2 ^ 63 - 1

/-- `_LONG_MIN` -/
def longMin : Int := -(2 ^ 63)

/-- One value of a hit's `sort` array. -/
def sortValueAt (py : Python) (millis : String → Option Int) (kinds : List (String × FieldKind))
    (d : Placed) (key : SortKey) : Json :=
  if key.field = "_doc" ∨ key.field = "_shard_doc" then .int d.position
  else if key.field = "_score" then .float 1
  else
    let raw := getNested py (.dict d.source) key.field
    match raw, Assoc.get key.field kinds with
    | .null, some .number => .int (if key.desc ≠ key.missingFirst then longMin else longMax)
    | raw, _ => sortValue py millis raw

/-- `sort_values` -/
def sortValues (py : Python) (millis : String → Option Int) (keys : List SortKey)
    (kinds : List (String × FieldKind)) (d : Placed) : List Json :=
  keys.map (sortValueAt py millis kinds d)

/-! ## Paging -/

/-- `_follows`: whether an array of values stands strictly after another one. -/
def follows (py : Python) : List Json → List Json → List SortKey → Bool
  | v :: values, t :: target, key :: keys =>
    let left := sortRank py v
    let right := sortRank py t
    if left = right then follows py values target keys
    else if !comparable left right then false
    else if key.desc then left < right else right < left
  | _, _, _ => false

/-- `apply_search_after`. The values of the records are taken without the kinds of the fields. -/
def applySearchAfter (py : Python) (millis : String → Option Int) (records : List Placed)
    (searchAfter : List Json) (keys : List SortKey) : List Placed :=
  records.filter fun d => follows py (sortValues py millis keys [] d) searchAfter keys

end Mockdr.Elastic
