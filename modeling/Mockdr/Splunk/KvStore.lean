import Mockdr.Builtins

/-!
# The Splunk KV store

The records of a collection: `application/splunk/commands/kvstore.py`, the reads of
`application/splunk/queries/kvstore.py`, and the query engine of `utils/splunk/kvstore_query.py`.

* `matchesFields` is `matches`, `applyQuery` filters with it; nothing where either raises.
* `Action` is a request for a collection that exists, `handle` what it answers and leaves in it.

Keys that are drawn are part of the request.
-/

namespace Mockdr

namespace KvStore

/-- The built-ins of the KV store. -/
structure KvPython extends NumberPython where
  /-- `json.loads`, nothing where it raises -/
  jsonLoad : String → Option Json
  /-- `_regex(pattern)`, and whether it is found in a text -/
  regex : String → Option (String → Bool)

/-- The built-ins on ASCII text, with no query readable: what the concrete runs of this development
    compute with. -/
def asciiKvPython : KvPython where
  toNumberPython := asciiNumberPython
  jsonLoad _ := none
  regex _ := none

/-- A record of a collection. -/
abbrev Record := Object

variable (py : KvPython)

/-! ## Queries -/

/-- `_compare` -/
def compare (left right : Json) (op : RangeOp) : Option Bool := do
  match ← py.asFloat left, ← py.asFloat right with
  | some a, some b => some (op.holds a b)
  | _, _ => some (op.between (py.toStr left) (py.toStr right))

/-- The comparison of an operator. -/
def rangeOp : String → Option RangeOp
  | "$gt" => some .gt
  | "$gte" => some .gte
  | "$lt" => some .lt
  | "$lte" => some .lte
  | _ => none

/-- `str(value) == str(operand) or value == operand` -/
def same (value operand : Json) : Bool := py.toStr value = py.toStr operand || value.eq operand

/-- `any(str(value) == str(o) for o in operand)` -/
def isAmong (value operand : Json) : Option Bool :=
  operand.iterate.map fun options => options.any fun o => py.toStr value = py.toStr o

/-- One operator of a condition. -/
def checkOp (value : Json) (op : String) (operand : Json) : Option Bool :=
  match rangeOp op with
  | some range => compare py value operand range
  | none =>
    if op = "$ne" then some (!same py value operand)
    else if op = "$in" then isAmong py value operand
    else if op = "$nin" then (isAmong py value operand).map not
    else if op = "$exists" then some (operand.truthy = !(value matches .null))
    else if op = "$regex" then
      some (((py.regex (py.toStr operand)).map fun found => found (py.toStr value)).getD false)
    else some false

/-- The operators of a condition, up to the first that does not hold. -/
def checkOps (value : Json) : List (String × Json) → Option Bool
  | [] => some true
  | (op, operand) :: rest =>
    match checkOp py value op operand with
    | some true => checkOps value rest
    | found => found

/-- `_match_condition` -/
def matchCondition (value : Json) : Json → Option Bool
  | .dict ops => checkOps py value ops
  | literal => some (same py value literal)

mutual

/-- `matches`, of a query of any type. -/
def matchesQuery (record : Record) : Json → Option Bool
  | .dict fields => matchesFields record fields
  | _ => none

/-- `matches` -/
def matchesFields (record : Record) : List (String × Json) → Option Bool
  | [] => some true
  | (key, condition) :: rest =>
    let held :=
      if key = "$and" then allMatch record condition
      else if key = "$or" then anyMatch record condition
      else if key = "$not" then (matchesQuery record condition).map not
      else matchCondition py (Object.get record key) condition
    match held with
    | some true => matchesFields record rest
    | found => found

/-- `all(matches(record, sub) for sub in condition)` -/
def allMatch (record : Record) : Json → Option Bool
  | .list subs => allOf record subs
  | .dict [] | .str "" => some true
  | _ => none

/-- `any(matches(record, sub) for sub in condition)` -/
def anyMatch (record : Record) : Json → Option Bool
  | .list subs => anyOf record subs
  | .dict [] | .str "" => some false
  | _ => none

/-- Every one of some queries, up to the first that does not match. -/
def allOf (record : Record) : List Json → Option Bool
  | [] => some true
  | sub :: subs =>
    match matchesQuery record sub with
    | some true => allOf record subs
    | found => found

/-- One of some queries, up to the first that matches. -/
def anyOf (record : Record) : List Json → Option Bool
  | [] => some false
  | sub :: subs =>
    match matchesQuery record sub with
    | some false => anyOf record subs
    | found => found

end

/-- What a query text selects: every record, none, or those that match. -/
def selects (query : String) (record : Record) : Option Bool :=
  if query = "" then some true
  else
    match py.jsonLoad query with
    | none => some false
    | some (.dict (field :: fields)) => matchesFields py record (field :: fields)
    | some _ => some true

/-- `apply_query`, nothing where it raises. -/
def applyQuery (records : List Record) (query : String) : Option (List Record) :=
  if records.all fun r => (selects py query r).isSome then
    some (records.filter fun r => selects py query r = some true)
  else none

/-! ## Records -/

/-- `record.get("_key")` -/
def keyOf (record : Record) : Json := Object.get record "_key"

/-- `record["_key"] = key` -/
def withKey (key : Json) (record : Record) : Record := Assoc.set "_key" key record

/-- Put a record in the place of the first one under its key, if there is one. -/
def replaceFirst (key : Json) (made : Record) : List Record → Option (List Record)
  | [] => none
  | r :: records =>
    if (keyOf r).eq key then some (made :: records)
    else (replaceFirst key made records).map (r :: ·)

/-- One record of `batch_save`. -/
def upsert (records : List Record) (drawn : String) (record : Record) : List Record :=
  let key := (Assoc.get "_key" record).getD (.str drawn)
  let record := withKey key record
  (replaceFirst key record records).getD (records ++ [record])

/-- `get_record` -/
def getRecord (key : String) (records : List Record) : Option Record :=
  records.find? fun r => (keyOf r).eq (.str key)

/-- `update_record` -/
def updateRecord (key : String) (record : Record) (records : List Record) :
    Option (List Record) :=
  replaceFirst (.str key) (withKey (.str key) record) records

/-- `delete_record` -/
def deleteRecord (key : String) (records : List Record) : List Record :=
  records.filter fun r => !(keyOf r).eq (.str key)

/-- `delete_all_records`, nothing where it raises. -/
def deleteAllRecords (query : String) (records : List Record) : Option (List Record) :=
  if query = "" then some []
  else
    (applyQuery py records query).map fun found =>
      let doomed := found.map fun r => py.toStr (keyOf r)
      records.filter fun r => py.toStr (keyOf r) ∉ doomed

/-! ## Requests -/

/-- What a request answers. -/
inductive Response where
  | created (key : Json)
  | record (r : Record)
  | records (rs : List Record)
  | keys (keys : List Json)
  | deleted
  | duplicate
  | notFound
  | badRequest
  | raised

/-- A request. -/
inductive Action where
  | insert (drawn : String) (body : Json)
  | update (key : String) (body : Json)
  | delete (key : String)
  | deleteAll (query : String)
  | batchSave (drawn : Nat → String) (body : Json)
  | get (key : String)
  | read (query : String)

/-- The records of a batch, if the body is a list of records. -/
def batchRecords : Json → Option (List Record)
  | .list values => values.mapM fun v =>
    match v with
    | .dict record => some record
    | _ => none
  | _ => none

/-- `batch_save` -/
def batchSave (drawn : Nat → String) (batch : List Record) (records : List Record) : List Record :=
  batch.zipIdx.foldl (fun records (record, i) => upsert records (drawn i) record) records

/-- `insert_record` -/
def insertRecord (drawn : String) (record : Record) (records : List Record) :
    List Record × Response :=
  match Assoc.get "_key" record with
  | none =>
    let record := withKey (.str drawn) record
    (records ++ [record], .created (.str drawn))
  | some key =>
    if records.any fun r => (keyOf r).eq key then (records, .duplicate)
    else (records ++ [record], .created key)

/-- Answer a request. -/
def handle (records : List Record) : Action → List Record × Response
  | .insert drawn body =>
    match body with
    | .dict record => insertRecord drawn record records
    | _ => (records, .raised)
  | .update key body =>
    match getRecord key records, body with
    | none, _ => (records, .notFound)
    | some _, .dict record =>
      ((updateRecord key record records).getD records, .record (withKey (.str key) record))
    | some _, _ => (records, .raised)
  | .delete key =>
    if records.any fun r => (keyOf r).eq (.str key) then (deleteRecord key records, .deleted)
    else (records, .notFound)
  | .deleteAll query =>
    match deleteAllRecords py query records with
    | some records => (records, .deleted)
    | none => (records, .raised)
  | .batchSave drawn body =>
    match batchRecords body with
    | some batch =>
      (batchSave drawn batch records,
        .keys (batch.zipIdx.map fun (record, i) =>
          (Assoc.get "_key" record).getD (.str (drawn i))))
    | none => (records, .badRequest)
  | .get key =>
    match getRecord key records with
    | some record => (records, .record record)
    | none => (records, .notFound)
  | .read query =>
    match applyQuery py records query with
    | some found => (records, .records found)
    | none => (records, .raised)

/-- What a request leaves of the records. -/
def step (records : List Record) (a : Action) : List Record := (handle py records a).1

end KvStore

end Mockdr
