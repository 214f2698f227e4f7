import Mockdr.Builtins
import Mockdr.Settling.Hosts

/-!
# Cortex XDR endpoints

The writes of `application/xdr_endpoints/commands.py` with the selection of
`application/xdr_endpoints/queries.py`, over the filters of `utils/xdr_filters.py` and behind the
routes of `xdr_endpoints.py` and `xdr_system.py`.

* `applyXdrFilters` narrows endpoints by a `filters` block, `selectEndpoints` by that and by an
  `endpoint_id_list`, and settles every endpoint on the way.
* `endpointsNamedBy` reads the endpoints that a write names.
* `write` answers a request: `Write` names it, `Store` is what it leaves.

Endpoints are stored under their ids. Nothing, where Python raises.
-/

namespace Mockdr

namespace Xdr

/-- `AGENT_ISOLATED` -/
def AGENT_ISOLATED : String := "AGENT_ISOLATED"

/-- `AGENT_UNISOLATED` -/
def AGENT_UNISOLATED : String := "AGENT_UNISOLATED"

/-- `AGENT_PENDING_ISOLATION` -/
def AGENT_PENDING_ISOLATION : String := "AGENT_PENDING_ISOLATION"

/-- `AGENT_PENDING_ISOLATION_CANCELLATION` -/
def AGENT_PENDING_ISOLATION_CANCELLATION : String := "AGENT_PENDING_ISOLATION_CANCELLATION"

/-- `XdrEndpoint`; `rest` is what no write and no filter looks at. -/
structure Endpoint (δ : Type) where
  endpointName : String
  endpointStatus : String
  osType : String
  ip : List String
  alias_ : Json
  firstSeen : Int
  lastSeen : Int
  isIsolated : String
  isolatedDate : Option Int
  isolationRequestedAt : Option Int
  groupName : List String
  scanStatus : String
  users : List String
  installationPackage : String
  publicIp : List String
  endpointTags : List String
  rest : δ

/-- `XdrAction`, with what a command adds to it. -/
structure Action where
  actionType : String
  endpointIds : List String
  creationTime : Int
  result : Object

/-- The endpoints by their ids, and the actions. -/
structure Store (δ : Type) where
  endpoints : Dict String (Endpoint δ)
  actions : List Action

variable {δ : Type} (py : NumberPython)

/-! ## Isolation -/

/-- `_SETTLES_INTO` -/
def settlesInto (isIsolated : String) : Option String :=
  if isIsolated = AGENT_PENDING_ISOLATION then some AGENT_ISOLATED
  else if isIsolated = AGENT_PENDING_ISOLATION_CANCELLATION then some AGENT_UNISOLATED
  else none

/-- `settle_isolation` -/
def settleIsolation (now : ℚ) (e : Endpoint δ) : Endpoint δ :=
  match settlesInto e.isIsolated with
  | none => e
  | some settled =>
    let requested : ℚ := e.isolationRequestedAt.getD 0
    if Settling.hasAnswered (some (now - requested / 1000)) then
      { e with
        isIsolated := settled
        isolationRequestedAt := none
        isolatedDate := if settled = AGENT_UNISOLATED then none else e.isolatedDate }
    else e

/-- `_epoch_ms` -/
def epochMs (now : ℚ) : Int := (now * 1000).floor

/-! ## Filters -/

/-- `_as_list` -/
def asList : Json → List Json
  | .list values => values
  | v => [v]

/-- `_text` -/
def text : Json → String
  | .null => ""
  | v => py.toStr v

/-- `_compare`, nothing where it raises. -/
def compare (recordValue operand : Json) (operator : String) : Option Bool :=
  let lower v := py.lower (text py v)
  let isIn := (asList recordValue).any fun v => ((asList operand).map lower).contains (lower v)
  let isEq := (asList recordValue).any fun v => text py v = text py operand
  let contains := (asList recordValue).any fun v => hasSub (lower operand) (lower v)
  if operator = "in" ∨ operator = "in_list" then some isIn
  else if operator = "nin" ∨ operator = "not_in" then some (!isIn)
  else if operator = "eq" ∨ operator = "=" then some isEq
  else if operator = "neq" ∨ operator = "!=" then some (!isEq)
  else if operator = "contains" then some contains
  else if operator = "not_contains" then some (!contains)
  else do
    match ← py.asFloat recordValue, ← py.asFloat operand with
    | some left, some right =>
      match operator with
      | "gte" => some (RangeOp.gte.holds left right)
      | "lte" => some (RangeOp.lte.holds left right)
      | "gt" => some (RangeOp.gt.holds left right)
      | "lt" => some (RangeOp.lt.holds left right)
      | _ => none
    | _, _ => some false

/-- `_ENDPOINT_FILTER_FIELDS`, each with the field it reads. -/
def endpointFilterField : String → Option (String → Endpoint δ → Json)
  | "endpoint_id_list" => some fun id _ => .str id
  | "endpoint_status" => some fun _ e => .str e.endpointStatus
  | "dist_name" => some fun _ e => .str e.installationPackage
  | "ip_list" => some fun _ e => .list (e.ip.map .str)
  | "public_ip_list" => some fun _ e => .list (e.publicIp.map .str)
  | "group_name" => some fun _ e => .list (e.groupName.map .str)
  | "platform" => some fun _ e => .str e.osType
  | "alias" => some fun _ e => e.alias_
  | "isolate" => some fun _ e => .str e.isIsolated
  | "hostname" => some fun _ e => .str e.endpointName
  | "username" => some fun _ e => .list (e.users.map .str)
  | "first_seen" => some fun _ e => .int e.firstSeen
  | "last_seen" => some fun _ e => .int e.lastSeen
  | "scan_status" => some fun _ e => .str e.scanStatus
  | _ => none

/-- `[x for x in xs if p(x)]`, nothing where a test raises. -/
def keep {α : Type} (p : α → Option Bool) : List α → Option (List α)
  | [] => some []
  | x :: xs => do
    let holds ← p x
    let rest ← keep p xs
    some (if holds then x :: rest else rest)

/-- The comparisons that an entry of a `filters` block makes, each an operand and an operator. -/
def comparisons (entry : Object) : List (Json × String) :=
  let operator :=
    let v := Object.get entry "operator"
    if v.truthy then py.lower (py.toStr v) else ""
  if operator ≠ "" then [(Object.get entry "value", operator)]
  else
    let bounds := (["gte", "lte"].map fun op => (Object.get entry op, op)).filter fun p =>
      !(p.1 matches .null)
    if bounds ≠ [] then bounds else [(Object.get entry "value", "in")]

/-- The endpoints that one comparison leaves. -/
def narrow (field : String → Endpoint δ → Json) (records : List (String × Endpoint δ))
    (comparison : Json × String) : Option (List (String × Endpoint δ)) :=
  keep (fun r => compare py (field r.1 r.2) comparison.1 comparison.2) records

/-- One entry of a `filters` block. -/
def applyEntry (records : List (String × Endpoint δ)) (entry : Json) :
    Option (List (String × Endpoint δ)) :=
  match entry with
  | .dict entry => do
    let field ← endpointFilterField (py.toStr ((Assoc.get "field" entry).getD (.str "")))
    (comparisons py entry).foldlM (narrow py field) records
  | _ => none

/-- `apply_xdr_filters`, over the fields of endpoints. -/
def applyXdrFilters (records : List (String × Endpoint δ)) (filters : Json) :
    Option (List (String × Endpoint δ)) :=
  if filters.truthy then do
    let entries ← filters.iterate
    entries.foldlM (applyEntry py) records
  else some records

/-- `_ISOLATE_FILTER_VALUES` -/
def isolateFilterValue (v : Json) : Json :=
  match py.lower (py.toStr v) with
  | "isolated" => .str AGENT_ISOLATED
  | "unisolated" => .str AGENT_UNISOLATED
  | _ => v

/-- `_translated_filters`, of one entry. -/
def translatedEntry : Json → Json
  | .dict entry =>
    if (Object.get entry "field").eq (.str "isolate") then
      let value := match Object.get entry "value" with
        | .list values => .list (values.map (isolateFilterValue py))
        | v => isolateFilterValue py v
      .dict (Assoc.set "value" value entry)
    else .dict entry
  | entry => entry

/-- `_translated_filters` -/
def translatedFilters : Json → Json
  | .list entries => .list (entries.map (translatedEntry py))
  | filters => filters

/-! ## Selection -/

/-- `id in ids`, nothing where it raises. -/
def isIn (id : String) : Json → Option Bool
  | .list ids => some (ids.any fun v => v.eq (.str id))
  | .str ids => some (hasSub id ids)
  | .dict ids => some (Object.has ids id)
  | _ => none

/-- Every endpoint as `settle_isolation` leaves it. -/
def settleAll (now : ℚ) (s : Store δ) : Store δ :=
  { s with endpoints := s.endpoints.mapValues (settleIsolation now) }

/-- What `select_endpoints` selects of settled endpoints. -/
def selected (requestData : Object) (s : Store δ) : Option (List String) :=
  let filters := translatedFilters py (Object.get requestData "filters")
  let idList := Object.get requestData "endpoint_id_list"
  (applyXdrFilters py s.endpoints.entries filters).bind fun matched =>
    (if idList.truthy then keep (fun r => isIn r.1 idList) matched else some matched).map
      (·.map Prod.fst)

/-- `select_endpoints` -/
def selectEndpoints (now : ℚ) (requestData : Object) (s : Store δ) :
    Store δ × Option (List String) :=
  let s := settleAll now s
  (s, selected py requestData s)

/-- `request_data.get("endpoint_id") or request_data.get("agent_id") or ""` -/
def singleOf (requestData : Object) : Json :=
  let endpointId := Object.get requestData "endpoint_id"
  let agentId := Object.get requestData "agent_id"
  if endpointId.truthy then endpointId else if agentId.truthy then agentId else .str ""

/-- `_names_a_target` -/
def namesATarget (requestData : Object) : Bool :=
  ["filters", "endpoint_id_list", "endpoint_id", "agent_id"].any fun name =>
    (Object.get requestData name).truthy

/-- `endpoints_named_by` -/
def endpointsNamedBy (now : ℚ) (requestData : Object) (s : Store δ) :
    Store δ × Option (List String) :=
  let single := py.toStr (singleOf requestData)
  if single ≠ "" then (s, some [single])
  else if (Object.get requestData "filters").truthy
      || (Object.get requestData "endpoint_id_list").truthy then
    selectEndpoints py now requestData s
  else (s, some [])

/-! ## Commands -/

/-- Edit the endpoint of an id, if there is one. -/
def editAt (edit : Endpoint δ → Endpoint δ) (endpoints : Dict String (Endpoint δ)) (id : String) :
    Dict String (Endpoint δ) :=
  match endpoints.get id with
  | some e => endpoints.set id (edit e)
  | none => endpoints

/-- Edit the endpoints of some ids, one after the other. -/
def editEach (edit : Endpoint δ → Endpoint δ) (ids : List String) (s : Store δ) : Store δ :=
  { s with endpoints := ids.foldl (editAt edit) s.endpoints }

/-- The endpoints that a command covers. -/
def covered (ids : List String) (s : Store δ) : List String := ids.filter s.endpoints.contains

/-- `_create_action`, for the endpoints that a command covers, if there is one. -/
def createAction (actionType : String) (now : ℚ) (result : Object) (ids : List String)
    (s : Store δ) : Store δ :=
  if covered ids s = [] then s
  else { s with actions := s.actions ++ [⟨actionType, covered ids s, epochMs now, result⟩] }

/-- What `isolate_endpoint` does to an endpoint. -/
def isolated (now : ℚ) (e : Endpoint δ) : Endpoint δ :=
  if e.isIsolated = AGENT_ISOLATED ∨ e.isIsolated = AGENT_PENDING_ISOLATION then e
  else { e with
    isIsolated := AGENT_PENDING_ISOLATION
    isolationRequestedAt := some (epochMs now)
    isolatedDate := some (epochMs now) }

/-- What `unisolate_endpoint` does to an endpoint. -/
def unisolated (now : ℚ) (e : Endpoint δ) : Endpoint δ :=
  if e.isIsolated = AGENT_UNISOLATED ∨ e.isIsolated = AGENT_PENDING_ISOLATION_CANCELLATION then e
  else { e with
    isIsolated := AGENT_PENDING_ISOLATION_CANCELLATION
    isolationRequestedAt := some (epochMs now) }

/-- What `scan_endpoint` does to an endpoint. -/
def scanned (e : Endpoint δ) : Endpoint δ := { e with scanStatus := "in_progress" }

/-- What `tag_endpoints` does to an endpoint. -/
def tagged (tag : String) (assign : Bool) (e : Endpoint δ) : Endpoint δ :=
  { e with endpointTags :=
      if assign then
        if tag ≠ "" ∧ tag ∉ e.endpointTags then e.endpointTags ++ [tag] else e.endpointTags
      else e.endpointTags.erase tag }

/-- `isolate_endpoint` -/
def isolateEndpoint (now : ℚ) (ids : List String) (s : Store δ) : Store δ :=
  createAction "isolate" now [] ids (editEach (isolated now) ids s)

/-- `unisolate_endpoint` -/
def unisolateEndpoint (now : ℚ) (ids : List String) (s : Store δ) : Store δ :=
  createAction "unisolate" now [] ids (editEach (unisolated now) ids s)

/-- `scan_endpoint` -/
def scanEndpoint (now : ℚ) (ids : List String) (s : Store δ) : Store δ :=
  createAction "scan" now [] ids (editEach scanned ids s)

/-- `terminate_process` -/
def terminateProcess (now : ℚ) (params : Object) (ids : List String) (s : Store δ) : Store δ :=
  createAction "terminate_process" now
    [("pid", Object.get params "pid"), ("process_name", Object.get params "process_name")] ids s

/-- `quarantine_file` -/
def quarantineFile (now : ℚ) (params : Object) (ids : List String) (s : Store δ) : Store δ :=
  createAction "quarantine" now
    [("file_path", Object.get params "file_path"), ("file_hash", Object.get params "file_hash")]
    ids s

/-- `restore_file` -/
def restoreFile (now : ℚ) (params : Object) (ids : List String) (s : Store δ) : Store δ :=
  createAction "restore" now [("file_hash", Object.get params "file_hash")] ids s

/-- `file_retrieval` -/
def fileRetrieval (now : ℚ) (params : Object) (ids : List String) (s : Store δ) : Store δ :=
  let files := Object.get params "files"
  createAction "file_retrieval" now [("files", if files.truthy then files else .dict [])] ids s

/-- `update_agent_name` -/
def updateAgentName (now : ℚ) (requestData : Object) (s : Store δ) : Store δ :=
  if namesATarget requestData then
    match selectEndpoints py now requestData s with
    | (s, some matched) =>
      let newAlias := (Assoc.get "alias" requestData).getD (.str "")
      editEach (fun e => { e with alias_ := newAlias }) matched s
    | (s, none) => s
  else s

/-- `v or {}`, nothing where it has no `get`. -/
def objectOr (v : Json) : Option Object :=
  match v with
  | .dict o => some o
  | v => if v.truthy then none else some []

/-- `tag_endpoints`, of the members it reads. -/
def tagSelected (now : ℚ) (requestData : Object) (lcaas : Json) (assign : Bool) (s : Store δ) :
    Store δ :=
  if namesATarget requestData || lcaas.truthy then
    match selectEndpoints py now requestData s with
    | (s, some matched) =>
      match if lcaas.truthy then keep (fun id => isIn id lcaas) matched else some matched with
      | some matched =>
        let tag := Object.get requestData "tag"
        editEach (tagged (if tag.truthy then py.toStr tag else "") assign) matched s
      | none => s
    | (s, none) => s
  else s

/-- `tag_endpoints` -/
def tagEndpoints (now : ℚ) (body : Object) (assign : Bool) (s : Store δ) : Store δ :=
  match objectOr (Object.get body "request_data"), objectOr (Object.get body "context") with
  | some requestData, some context =>
    tagSelected py now requestData (Object.get context "lcaas_id") assign s
  | _, _ => s

/-! ## Requests -/

/-- The writes. -/
inductive Write where
  | isolate
  | unisolate
  | scan
  | terminateProcess
  | quarantine
  | restore
  | fileRetrieval
  | updateAgentName
  | assignTag
  | removeTag

/-- Hand the endpoints that a request names to a command. -/
def onNamed (now : ℚ) (requestData : Object) (command : List String → Store δ → Store δ)
    (s : Store δ) : Store δ :=
  match endpointsNamedBy py now requestData s with
  | (s, some ids) => command ids s
  | (s, none) => s

/-- What a write leaves of the store. -/
def write (w : Write) (now : ℚ) (body : Object) (s : Store δ) : Store δ :=
  match w with
  | .assignTag => tagEndpoints py now body true s
  | .removeTag => tagEndpoints py now body false s
  | w =>
    -- `require_request_data`
    match Object.get body "request_data" with
    | .dict requestData =>
      match w with
      | .isolate => onNamed py now requestData (isolateEndpoint now) s
      | .unisolate => onNamed py now requestData (unisolateEndpoint now) s
      | .scan => onNamed py now requestData (scanEndpoint now) s
      | .terminateProcess => onNamed py now requestData (terminateProcess now requestData) s
      | .quarantine => onNamed py now requestData (quarantineFile now requestData) s
      | .restore => onNamed py now requestData (restoreFile now requestData) s
      | .fileRetrieval => onNamed py now requestData (fileRetrieval now requestData) s
      | .updateAgentName => updateAgentName py now requestData s
      | .assignTag | .removeTag => s
    | _ => s

end Xdr

end Mockdr
