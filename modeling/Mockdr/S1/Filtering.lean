import Mockdr.Builtins

/-!
# Filters of a list endpoint

`utils/filtering.py`: what the parameters of a SentinelOne list select.

* `FilterSpec` says which field a parameter is about and how the two are compared, `keepsRecord`
  whether a record passes, `applyFilters` narrows records by every parameter that there is.
* `applyQueryOptions` sorts by `sortBy` and leaves out the first `skip` records.

A value of a parameter is a text of a query string or a value of a request body.
-/

namespace Mockdr.S1

/-- `FilterSpec.type` -/
inductive FilterType where
  | eq
  | isIn
  | nin
  | contains
  | bool
  /-- `gt`, `gte`, `lt`, `lte` -/
  | range (op : RangeOp)
  | between
  /-- `gte_dt`, `lte_dt` -/
  | dt (op : RangeOp)
  | fullText
  deriving DecidableEq

/-- `FilterSpec` -/
structure FilterSpec where
  param : String
  field : String
  type : FilterType
  enum : Bool := false
  kind : String := "string"

/-- The built-ins of the filters. -/
structure FilterPython extends QueryPython where
  /-- `str.isdigit` -/
  isdigit : String → Bool
  /-- `datetime.strptime(s, fmt)`, in UTC; nothing where it raises -/
  strptime : String → String → Option Int
  /-- `datetime.fromtimestamp(n / 1000, UTC)`, nothing where it raises -/
  fromtimestamp : Int → Option Int
  /-- `TypeAdapter(_DECLARED_TYPES[kind]).validate_python(s)`, whether it goes through -/
  validates : String → String → Bool
  /-- `sorted(records, key=key, reverse=descending)`, for keys that are tuples -/
  sorted : (Json → Nat × Option PyFloat × String) → Bool → List Json → List Json

/-- What is raised. -/
inductive FilterError where
  /-- `UnselectableFilterError` -/
  | unselectable (message : String)
  /-- `RequestValidationError` of a parameter -/
  | invalid (param kind input : String)
  /-- `TypeError` and `AttributeError` -/
  | typeError
  deriving DecidableEq

variable (py : FilterPython)

/-! ## Dates -/

/-- `_parse_dt` -/
def parseDt (value : String) : Option Int :=
  (["%Y-%m-%dT%H:%M:%S.%fZ", "%Y-%m-%dT%H:%M:%SZ", "%Y-%m-%d"].findSome? (py.strptime value)).or
    (py.fromisoformat value)

/-- `_epoch_ms` -/
def epochMs (value : String) : Option Int :=
  if py.isdigit (String.ofList (value.toList.dropWhile (· = '-'))) then
    (py.parseInt value).bind py.fromtimestamp
  else none

/-- `_range_halves` -/
def rangeHalves (raw : String) : List String :=
  let (low, high) := partition '-' raw
  if py.isdigit low && py.isdigit high then [low, high] else [raw]

/-- `reject_wrong_type` -/
def rejectWrongType (param kind : String) (raw : Json) : Except FilterError Unit :=
  match raw with
  | .str raw =>
    let holds :=
      if kind = "date-time" then
        (rangeHalves py raw).all fun half => (parseDt py half).isSome || (epochMs py half).isSome
      else py.validates kind raw
    if holds then .ok () else .error (.invalid param kind raw)
  | _ => .ok ()

/-! ## Comparisons -/

/-- `_ordered` -/
def ordered (fieldValue target : Json) (op : RangeOp) : Bool :=
  if fieldValue matches .null || target matches .null || target.eq (.str "") then false
  else
    let left := py.toStr fieldValue
    let right := py.toStr target
    match py.float left, py.float right with
    | some l, some r => op.holds l r
    | _, _ =>
      let leftDt := parseDt py left
      -- a timestamp against a bare number is against an epoch
      let rightDt := (parseDt py right).or (if leftDt.isSome then epochMs py right else none)
      match leftDt, rightDt with
      | some l, some r => op.between l r
      | _, _ => op.between left right

/-- `_as_text` -/
def asText : Json → String
  | .null => ""
  | .bool b => if b then "true" else "false"
  | v => py.toStr v

mutual

/-- `_matches`, with the text of what is wanted -/
def isMatch (wanted : String) : Json → Bool
  | .bool b =>
    (if b then ["true", "1", "yes"] else ["false", "0", "no"]).contains (py.lower (strip wanted))
  | .list members => anyMatch wanted members
  | .dict o => o.any fun p => p.1 = wanted
  | .null => asText py .null = wanted
  | .int n => asText py (.int n) = wanted
  | .float q => asText py (.float q) = wanted
  | .str s => asText py (.str s) = wanted

/-- `any(_matches(member, wanted) for member in members)` -/
def anyMatch (wanted : String) : List Json → Bool
  | [] => false
  | member :: members => isMatch wanted member || anyMatch wanted members

end

/-- `_enum_key`, of a text -/
def enumKey (value : String) : String := replace "_" " " (py.lower (strip value))

/-- `_enum_keys` -/
def enumKeys : Json → List String
  | .list members => members.map fun member => enumKey py (py.toStr member)
  | .dict o => o.map fun p => enumKey py p.1
  | v => [enumKey py (asText py v)]

/-- `_compare_dt` -/
def compareDt (fieldVal : Json) (target : Int) (op : RangeOp) : Bool :=
  fieldVal.truthy && match parseDt py (py.toStr fieldVal) with
    | some parsed => op.between parsed target
    | none => false

/-- The values that a membership filter names. -/
def wantedValues : Json → List String
  | .list vs => vs.map fun v => strip (py.toStr v)
  | raw => (split ',' (py.toStr raw)).map strip

/-- A value is one of those that a membership filter names. -/
def isWanted (spec : FilterSpec) (raw fieldValue : Json) : Bool :=
  let values := wantedValues py raw
  if spec.enum then
    (enumKeys py fieldValue).any fun key => (values.map (enumKey py)).contains key
  else values.any fun v => isMatch py v fieldValue

/-- The instant that a `gte_dt` or `lte_dt` filter names. -/
def targetDt (raw : Json) : Option Int :=
  (parseDt py (py.toStr raw)).or (epochMs py (py.toStr raw))

/-- A record passes a filter. -/
def keepsRecord (spec : FilterSpec) (raw record : Json) : Bool :=
  let fieldValue := getNested py.toPython record spec.field
  match spec.type with
  | .eq => isMatch py (py.toStr raw) fieldValue
  | .isIn => isWanted py spec raw fieldValue
  | .nin => !isWanted py spec raw fieldValue
  | .contains => hasSub (py.lower (py.toStr raw)) (py.lower (asText py fieldValue))
  | .bool => fieldValue.truthy = ["true", "1", "yes"].contains (py.lower (py.toStr raw))
  | .range op => ordered py fieldValue raw op
  | .between =>
    let (low, high) := partition '-' (py.toStr raw)
    ordered py fieldValue (.str (strip low)) .gte && ordered py fieldValue (.str (strip high)) .lte
  | .dt op =>
    match targetDt py raw with
    | some target => compareDt py fieldValue target op
    | none => true
  | .fullText =>
    (split '|' spec.field).any fun f =>
      let v := getNested py.toPython record f
      hasSub (py.lower (py.toStr raw)) (py.lower (if v.truthy then py.toStr v else ""))

/-! ## Applying filters -/

/-- A filter checks the value it is given. -/
def checkValue (spec : FilterSpec) (raw : Json) : Except FilterError Unit := do
  if spec.kind ≠ "string" then rejectWrongType py spec.param spec.kind raw
  match spec.type with
  | .dt _ => rejectWrongType py spec.param "date-time" raw
  | _ => pure ()

/-- A parameter that is not there, or is the empty text. -/
def isSkipped (raw : Json) : Bool := raw matches .null || raw.eq (.str "")

/-- One round of the loop of `apply_filters`. -/
def applySpec (params : Object) (records : List Json) (spec : FilterSpec) :
    Except FilterError (List Json) :=
  let raw := Object.get params spec.param
  if isSkipped raw then .ok records
  else (checkValue py spec raw).map fun _ => records.filter (keepsRecord py spec raw)

/-- `apply_filters` -/
def applyFilters (records : List Json) (params : Object) (specs : List FilterSpec) :
    Except FilterError (List Json) :=
  specs.foldlM (applySpec py params) records

/-! ## Query options -/

/-- `_nested_holder` -/
def nestedHolder (records : List Json) (name : String) : Option String :=
  let value (holder : String) (r : Json) := getNested py.toPython r (holder ++ "." ++ name)
  let holders := ((records.head?.getD .null).fields.filter fun p =>
    Object.has p.2.fields name).map Prod.fst
  let holders := holders.filter fun h => records.any fun r => !(value h r matches .null)
  match holders with
  | [] => none
  | reference :: others =>
    let differs (other : String) := records.any fun r => !(value reference r).eq (value other r)
    if others.any differs then none
    else some reference

/-- `_sort_path`, for no specs -/
def sortPath (records : List Json) (name : String) : String :=
  match records with
  | [] => name
  | first :: _ =>
    if !(getNested py.toPython first name matches .null) then name
    else match nestedHolder py records name with
      | some holder => holder ++ "." ++ name
      | none => name

/-- `_sort_key` -/
def sortKey (field : String) (record : Json) : Nat × Option PyFloat × String :=
  match getNested py.toPython record field with
  | .null => (2, some (.finite 0), "")
  | .bool b => (0, some (.finite (if b then 1 else 0)), "")
  | .int n => (0, some (.finite n), "")
  | .float q => (0, some (.finite q), "")
  | .str s =>
    match py.float s with
    | some f => (0, some f, "")
    | none => (1, some (.finite 0), s)
  | v => (1, some (.finite 0), py.toStr v)

/-- `apply_query_options`, without specs: the records, and how many matched. -/
def applyQueryOptions (records : List Json) (params : Object) : List Json × Int :=
  let text (name : String) :=
    let v := Object.get params name
    if v.truthy then py.toStr v else ""
  let sortBy := strip (text "sortBy")
  let order := text "sortOrder"
  let descending := py.lower (if order = "" then "asc" else order) = "desc"
  let records :=
    if sortBy ≠ "" then py.sorted (sortKey py (sortPath py records sortBy)) descending records
    else records
  let skip := match Object.get params "skip" with
    -- `int("None")` raises
    | .null => 0
    | v => (py.parseInt (py.toStr v)).getD 0
  (records.drop skip.toNat, records.length)

end Mockdr.S1
