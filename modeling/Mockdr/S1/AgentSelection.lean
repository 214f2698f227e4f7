import Mockdr.S1.Filtering
import Mockdr.S1.Pagination
import Mockdr.Settling.Network

/-!
# The agents that a filter selects

What the `filter` of an agent action selects, and what a list of agents shows.

* `selectIds` is `select_ids` of `utils/filter_selection.py`, `resolveAgentFilter` the one of
  `application/agents/commands.py`, over the agents as they are stored.
* `listAgents` is `list_agents` of `application/agents/queries.py`, which settles the agents first.

An agent is one of `Settling.Network`, with its other fields; `agentRecord` is it as a record.
-/

namespace Mockdr.S1

open Settling (Network NetworkStatus Timestamp)

/-- The built-ins of the lists of agents. -/
structure AgentPython extends FilterPython where
  /-- the text of a moment -/
  isoformat : ℚ → String
  /-- `json.loads(s)`, nothing where it raises -/
  jsonLoads : String → Option Json

/-- The fields of an agent that its connection has nothing to do with. -/
structure AgentFields where
  lastActiveDate : String
  rest : Object

variable (py : AgentPython)

/-- The text of a network status. -/
def networkStatusText : NetworkStatus → String
  | .connected => "connected"
  | .disconnected => "disconnected"
  | .connecting => "connecting"
  | .disconnecting => "disconnecting"

/-- The text of a timestamp. -/
def timestampText : Timestamp → String
  | .iso moment => py.isoformat moment
  | .unreadable text => text

/-- An agent as a record. -/
def agentRecord (id : String) (agent : Settling.Agent NetworkStatus AgentFields) : Json :=
  .dict ([("id", .str id), ("networkStatus", .str (networkStatusText agent.networkStatus)),
    ("updatedAt", .str (timestampText py agent.updatedAt)),
    ("lastActiveDate", .str agent.other.lastActiveDate)] ++ agent.other.rest)

/-- `agent_repo.list_all()` -/
def agentRecords (n : Network AgentFields) : List Json :=
  n.agents.entries.map fun p => agentRecord py p.1 p.2

/-! ## Specs -/

/-- `FILTER_SPECS` (`application/agents/queries.py`) -/
def agentFilterSpecs : List FilterSpec :=
  [⟨"ids", "id", .isIn, false, "string"⟩, ⟨"accountIds", "accountId", .isIn, false, "string"⟩,
    ⟨"siteIds", "siteId", .isIn, false, "string"⟩, ⟨"groupIds", "groupId", .isIn, false, "string"⟩,
    ⟨"osTypes", "osType", .isIn, false, "string"⟩,
    ⟨"networkStatuses", "networkStatus", .isIn, false, "string"⟩,
    ⟨"isActive", "isActive", .bool, false, "string"⟩,
    ⟨"isDecommissioned", "isDecommissioned", .bool, false, "string"⟩,
    ⟨"infected", "infected", .bool, false, "boolean"⟩,
    ⟨"isPendingUninstall", "isPendingUninstall", .bool, false, "string"⟩,
    ⟨"isUpToDate", "isUpToDate", .bool, false, "string"⟩,
    ⟨"computerName", "computerName", .contains, false, "string"⟩,
    ⟨"query", "computerName|localIp|externalIp|osName|domain", .fullText, false, "string"⟩,
    ⟨"registeredAt__gte", "registeredAt", (.dt .gte), false, "string"⟩,
    ⟨"registeredAt__lte", "registeredAt", (.dt .lte), false, "string"⟩,
    ⟨"updatedAt__gte", "updatedAt", (.dt .gte), false, "string"⟩,
    ⟨"decommissionedAt__gte", "decommissionedAt", (.dt .gte), false, "string"⟩]

/-- `DOCUMENTED_FILTERS["/agents"]` -/
def agentDocumentedFilters : List FilterSpec :=
  [⟨"activeProtection", "activeProtection", .isIn, true, "string"⟩,
    ⟨"activeThreats", "activeThreats", .eq, false, "integer"⟩,
    ⟨"activeThreats__gt", "activeThreats", (.range .gt), false, "integer"⟩,
    ⟨"agentVersion__between", "agentVersion", .between, false, "string"⟩,
    ⟨"agentVersion__gt", "agentVersion", (.range .gt), false, "string"⟩,
    ⟨"agentVersion__gte", "agentVersion", (.range .gte), false, "string"⟩,
    ⟨"agentVersion__lt", "agentVersion", (.range .lt), false, "string"⟩,
    ⟨"agentVersion__lte", "agentVersion", (.range .lte), false, "string"⟩,
    ⟨"agentVersions", "agentVersion", .isIn, false, "string"⟩,
    ⟨"agentVersionsNin", "agentVersion", .nin, false, "string"⟩,
    ⟨"cloudProvider", "cloudProviders", .isIn, false, "string"⟩,
    ⟨"cloudProviderNin", "cloudProviders", .nin, false, "string"⟩,
    ⟨"computerName__contains", "computerName", .contains, false, "string"⟩,
    ⟨"console", "proxyStates.console", .isIn, false, "string"⟩,
    ⟨"containerizedWorkloadCounts", "containerizedWorkloadCounts", .eq, false, "string"⟩,
    ⟨"coreCount__between", "coreCount", .between, false, "string"⟩,
    ⟨"coreCount__gt", "coreCount", (.range .gt), false, "integer"⟩,
    ⟨"coreCount__gte", "coreCount", (.range .gte), false, "integer"⟩,
    ⟨"coreCount__lt", "coreCount", (.range .lt), false, "integer"⟩,
    ⟨"coreCount__lte", "coreCount", (.range .lte), false, "integer"⟩,
    ⟨"cpuCount__between", "cpuCount", .between, false, "string"⟩,
    ⟨"cpuCount__gt", "cpuCount", (.range .gt), false, "integer"⟩,
    ⟨"cpuCount__gte", "cpuCount", (.range .gte), false, "integer"⟩,
    ⟨"cpuCount__lt", "cpuCount", (.range .lt), false, "integer"⟩,
    ⟨"cpuCount__lte", "cpuCount", (.range .lte), false, "integer"⟩,
    ⟨"cpuId__contains", "cpuId", .contains, false, "string"⟩,
    ⟨"createdAt__between", "createdAt", .between, false, "date-time"⟩,
    ⟨"createdAt__gt", "createdAt", (.range .gt), false, "date-time"⟩,
    ⟨"createdAt__gte", "createdAt", (.range .gte), false, "date-time"⟩,
    ⟨"createdAt__lt", "createdAt", (.range .lt), false, "date-time"⟩,
    ⟨"createdAt__lte", "createdAt", (.range .lte), false, "date-time"⟩,
    ⟨"deepVisibility", "proxyStates.deepVisibility", .isIn, false, "string"⟩,
    ⟨"domains", "domain", .isIn, false, "string"⟩, ⟨"domainsNin", "domain", .nin, false, "string"⟩,
    ⟨"encryptedApplications", "encryptedApplications", .isIn, false, "string"⟩,
    ⟨"externalId__contains", "externalId", .contains, false, "string"⟩,
    ⟨"externalIp__contains", "externalIp", .contains, false, "string"⟩,
    ⟨"firewallEnabled", "firewallEnabled", .isIn, false, "string"⟩,
    ⟨"gatewayIp", "networkInterfaces.gatewayIp", .eq, false, "string"⟩,
    ⟨"hasContainerizedWorkload", "hasContainerizedWorkload", .isIn, false, "string"⟩,
    ⟨"idsNin", "id", .nin, false, "string"⟩,
    ⟨"installerTypes", "installerType", .isIn, true, "string"⟩,
    ⟨"installerTypesNin", "installerType", .nin, true, "string"⟩,
    ⟨"isAdConnector", "isAdConnector", .isIn, false, "string"⟩,
    ⟨"isHyperAutomate", "isHyperAutomate", .isIn, false, "string"⟩,
    ⟨"isUninstalled", "isUninstalled", .isIn, false, "string"⟩,
    ⟨"lastActiveDate__between", "lastActiveDate", .between, false, "date-time"⟩,
    ⟨"lastActiveDate__gt", "lastActiveDate", (.range .gt), false, "date-time"⟩,
    ⟨"lastActiveDate__gte", "lastActiveDate", (.range .gte), false, "date-time"⟩,
    ⟨"lastActiveDate__lt", "lastActiveDate", (.range .lt), false, "date-time"⟩,
    ⟨"lastActiveDate__lte", "lastActiveDate", (.range .lte), false, "date-time"⟩,
    ⟨"lastLoggedInUserName__contains", "lastLoggedInUserName", .contains, false, "string"⟩,
    ⟨"lastSuccessfulScanDate__between", "lastSuccessfulScanDate", .between, false, "date-time"⟩,
    ⟨"lastSuccessfulScanDate__gt", "lastSuccessfulScanDate", (.range .gt), false, "date-time"⟩,
    ⟨"lastSuccessfulScanDate__gte", "lastSuccessfulScanDate", (.range .gte), false, "date-time"⟩,
    ⟨"lastSuccessfulScanDate__lt", "lastSuccessfulScanDate", (.range .lt), false, "date-time"⟩,
    ⟨"lastSuccessfulScanDate__lte", "lastSuccessfulScanDate", (.range .lte), false, "date-time"⟩,
    ⟨"locationEnabled", "locationEnabled", .isIn, false, "string"⟩,
    ⟨"machineTypes", "machineType", .isIn, true, "string"⟩,
    ⟨"machineTypesNin", "machineType", .nin, true, "string"⟩,
    ⟨"missingPermissions", "missingPermissions", .isIn, true, "string"⟩,
    ⟨"missingPermissionsNin", "missingPermissions", .nin, true, "string"⟩,
    ⟨"mitigationMode", "mitigationMode", .eq, true, "string"⟩,
    ⟨"mitigationModeSuspicious", "mitigationModeSuspicious", .eq, true, "string"⟩,
    ⟨"networkQuarantineEnabled", "networkQuarantineEnabled", .isIn, false, "string"⟩,
    ⟨"operationalStates", "operationalState", .isIn, false, "string"⟩,
    ⟨"operationalStatesNin", "operationalState", .nin, false, "string"⟩,
    ⟨"osArch", "osArch", .eq, true, "string"⟩, ⟨"osTypesNin", "osType", .nin, true, "string"⟩,
    ⟨"pacFileUsage", "proxyStates.pacFileUsage", .isIn, false, "string"⟩,
    ⟨"proxyMethod", "proxyStates.proxyMethod", .isIn, false, "string"⟩,
    ⟨"proxyMethodNin", "proxyStates.proxyMethod", .nin, false, "string"⟩,
    ⟨"rangerStatus", "rangerStatus", .eq, true, "string"⟩,
    ⟨"rangerVersions", "rangerVersion", .isIn, false, "string"⟩,
    ⟨"rangerVersionsNin", "rangerVersion", .nin, false, "string"⟩,
    ⟨"registeredAt__between", "registeredAt", .between, false, "date-time"⟩,
    ⟨"registeredAt__gt", "registeredAt", (.range .gt), false, "date-time"⟩,
    ⟨"registeredAt__lt", "registeredAt", (.range .lt), false, "date-time"⟩,
    ⟨"remoteProfilingStates", "remoteProfilingState", .isIn, false, "string"⟩,
    ⟨"remoteProfilingStatesNin", "remoteProfilingState", .nin, false, "string"⟩,
    ⟨"scanStatus", "scanStatus", .eq, true, "string"⟩,
    ⟨"serialNumber__contains", "serialNumber", .contains, false, "string"⟩,
    ⟨"storageTypes", "storageType", .isIn, false, "string"⟩,
    ⟨"storageTypesNin", "storageType", .nin, false, "string"⟩,
    ⟨"threatRebootRequired", "threatRebootRequired", .isIn, false, "string"⟩,
    ⟨"totalMemory__between", "totalMemory", .between, false, "string"⟩,
    ⟨"totalMemory__gt", "totalMemory", (.range .gt), false, "integer"⟩,
    ⟨"totalMemory__gte", "totalMemory", (.range .gte), false, "integer"⟩,
    ⟨"totalMemory__lt", "totalMemory", (.range .lt), false, "integer"⟩,
    ⟨"totalMemory__lte", "totalMemory", (.range .lte), false, "integer"⟩,
    ⟨"updatedAt__between", "updatedAt", .between, false, "date-time"⟩,
    ⟨"updatedAt__gt", "updatedAt", (.range .gt), false, "date-time"⟩,
    ⟨"updatedAt__lt", "updatedAt", (.range .lt), false, "date-time"⟩,
    ⟨"updatedAt__lte", "updatedAt", (.range .lte), false, "date-time"⟩,
    ⟨"userActionsNeeded", "userActionsNeeded", .isIn, true, "string"⟩,
    ⟨"userActionsNeededNin", "userActionsNeeded", .nin, true, "string"⟩,
    ⟨"uuid", "uuid", .eq, false, "string"⟩, ⟨"uuid__contains", "uuid", .contains, false, "string"⟩,
    ⟨"uuids", "uuid", .isIn, false, "string"⟩]

/-- The specs of the actions and of the list. -/
def agentSpecs : List FilterSpec := agentFilterSpecs ++ agentDocumentedFilters

/-! ## Selection -/

/-- `refuse_unknown_members` -/
def refuseUnknownMembers (params : Object) (known : List String) : Except FilterError Unit :=
  let unknown := ((params.map Prod.fst).filter (· ∉ known)).dedup.mergeSort
  if unknown ≠ [] then
    .error (.unselectable ("The filter names "
      ++ (if 1 < unknown.length then "members" else "a member")
      ++ " this endpoint cannot select on: " ++ ", ".intercalate unknown ++ "."))
  else .ok ()

/-- `{k: v for k, v in raw_filter.items() if v is not None}` -/
def members (rawFilter : Object) : Object := rawFilter.filter fun p => !(p.2 matches .null)

/-- `select_ids` -/
def selectIds (records : List Json) (rawFilter : Object) (specs : List FilterSpec)
    (idField : String) (idsMembers noOpMembers : List String) : Except FilterError (List Json) :=
  match idsMembers.find? fun member => (Object.get rawFilter member).truthy with
  | some member =>
    match (Object.get rawFilter member).iterate with
    | some ids => .ok ids
    | none => .error .typeError
  | none =>
    let params := members rawFilter
    if params.isEmpty then
      .error (.unselectable "The filter names no member with a value to select on.")
    else
      let params := params.filter fun p => p.1 ∉ noOpMembers
      if params.isEmpty then .ok []
      else do
        refuseUnknownMembers params (specs.map (·.param) ++ idsMembers)
        let rows ← applyFilters py.toFilterPython records params specs
        .ok (rows.map fun r => .str (py.toStr (getNested py.toPython r idField)))

/-- `resolve_agent_filter` -/
def resolveAgentFilter (n : Network AgentFields) (rawFilter : Object) :
    Except FilterError (List Json) :=
  selectIds py (agentRecords py n) rawFilter agentSpecs "id" ["ids"] []

/-! ## The list -/

/-- `(get_nested(r, "tags") or {}).get("sentinelone", [])`, nothing where it raises. -/
def sentineloneTags (r : Json) : Option Json :=
  match getNested py.toPython r "tags" with
  | .dict tags => some ((Assoc.get "sentinelone" tags).getD (.list []))
  | v => if v.truthy then none else some (.list [])

/-- `{t["value"] for t in tags if t.get("key") == key}`, nothing where it raises. -/
def tagValues (key : String) (tags : List Json) : Option (List Json) :=
  (tags.filterMapM fun
    | .dict t =>
      if (Object.get t "key").eq (.str key) then (Assoc.get "value" t).map some else some none
    | _ => none)

/-- One round of the loop over `tagsData`. -/
def narrowByTag (records : List Json) (member : String × Json) : Option (List Json) :=
  let values := match member.2 with
    | .list values => values
    | v => [v]
  let (negate, key) := match cutPrefix "nin__" (String.ofList member.1.toList.reverse) with
    | some rest => (true, String.ofList rest.toList.reverse)
    | none => (false, member.1)
  records.filterM fun r => do
    let tags ← sentineloneTags py r
    let agentVals ← tagValues key (← tags.iterate)
    -- the values of a set are hashed
    if (agentVals ++ values).any fun v => v matches .list _ || v matches .dict _ then none
    else some ((agentVals.any fun v => values.any v.eq) != negate)

/-- `_apply_tag_filters`, nothing where it raises. -/
def applyTagFilters (records : List Json) (params : Object) : Option (List Json) := do
  let records ← match Object.get params "hasTags" with
    | .null => some records
    | hasTags =>
      let want := ["true", "1", "yes"].contains (py.lower (py.toStr hasTags))
      records.filterM fun r => (sentineloneTags py r).map (·.truthy == want)
  let raw := Object.get params "tagsData"
  if raw.truthy then
    let tagFilter := match raw with
      | .str text => (py.jsonLoads text).getD (.dict [])
      | v => v
    match tagFilter with
    | .dict members => members.foldlM (narrowByTag py) records
    | _ => none
  else some records

/-- The parameters that `_apply_tag_filters` leaves: it pops the ones it reads. -/
def withoutTags (params : Object) : Object :=
  params.filter fun p => p.1 ∉ ["hasTags", "tagsData"]

/-- What a list of agents shows, before it is cut into pages. -/
def listed (params : Object) (n : Network AgentFields) : Except FilterError Listing := do
  let records ← match applyTagFilters py (agentRecords py n) params with
    | some records => .ok records
    | none => .error .typeError
  let params := withoutTags params
  let filtered ← applyFilters py.toFilterPython records params agentSpecs
  let key (r : Json) := strOrEmpty py.toPython (getNested py.toPython r "lastActiveDate")
  let sorted := filtered.mergeSort fun a b => decide (key b ≤ key a)
  let (items, matched) := applyQueryOptions py.toFilterPython sorted params
  .ok ⟨items, some matched⟩

/-- `list_agents`, with the agents that it settles. -/
def listAgents (text : CursorText) (now : ℚ) (params : Object) (cursor : Option String)
    (limit : Nat) (n : Network AgentFields) : Network AgentFields × Except FilterError Page :=
  let n := Settling.settleAll now n
  (n, (listed py params n).map fun listing =>
    paginate py.toPython text agentCursor listing cursor limit)

end Mockdr.S1
