import Mockdr.Dev.Proxy
import Mockdr.InMemoryStore
import Mockdr.Lib.Base64

/-!
# Snapshots of the whole store

What `export_state` writes and `import_state` reads (`application/dev/commands.py`), and the
rewriting of older snapshots (`application/dev/migrations.py`).

* Every collection is registered as one of four kinds: typed (objects of a class), raw (plain
  dictionaries), binary (bytes) or mapping.
* `Store` is the store with the settings of the proxy beside it. Its keys are hashable values, since
  an import can file a record under a number, and its activity order is what a snapshot says.
* `Snapshot` is what an import reads: any JSON value in any place, or what an export puts there.
* `migrateRecord` rewrites a record of an older release.

The classes of the typed collections are a parameter (`Classes`): the names of their fields and the
defaults of those that have one.
-/

namespace Mockdr

namespace Dev

/-! ## The collections -/

/-- What the key of a record is made of. -/
inductive KeyRule where
  /-- `str(o.name)` -/
  | attr (name : String)
  /-- the attributes with a separator between them -/
  | joined (sep : String) (names : List String)
  /-- `str(o.name[key])` -/
  | member (name key : String)

/-- The attributes a key is made of. -/
def KeyRule.names : KeyRule → List String
  | .attr name => [name]
  | .joined _ names => names
  | .member name _ => [name]

/-- `_TYPED_COLLECTIONS`, with the `id` of the class of each. -/
def TYPED_COLLECTIONS : List (String × KeyRule) :=
  [("accounts", .attr "id"), ("splunk_search_jobs", .attr "sid"), ("sites", .attr "id"),
    ("groups", .attr "id"), ("agents", .attr "id"), ("threats", .attr "id"),
    ("alerts", .member "alertInfo" "alertId"), ("activities", .attr "id"),
    ("exclusions", .attr "id"), ("policies", .attr "id"), ("firewall_rules", .attr "id"),
    ("iocs", .attr "uuid"), ("users", .attr "id"), ("device_control_rules", .attr "id"),
    ("dv_queries", .attr "id"), ("webhook_subscriptions", .attr "id"), ("tags", .attr "id"),
    ("cs_hosts", .attr "device_id"), ("cs_detections", .attr "composite_id"),
    ("cs_incidents", .attr "incident_id"), ("cs_iocs", .attr "id"),
    ("cs_host_groups", .attr "id"), ("cs_oauth_clients", .attr "client_id"),
    ("cs_users", .attr "uuid"), ("cs_quarantined_files", .attr "id"), ("cs_cases", .attr "id"),
    ("es_endpoints", .attr "agent_id"), ("es_rules", .attr "id"), ("es_alerts", .attr "id"),
    ("es_cases", .attr "id"), ("es_case_comments", .attr "id"),
    ("es_exception_lists", .attr "id"), ("es_exception_items", .attr "id"),
    ("es_action_responses", .attr "id"), ("mde_oauth_clients", .attr "client_id"),
    ("mde_machines", .attr "machineId"), ("mde_alerts", .attr "alertId"),
    ("mde_indicators", .attr "indicatorId"), ("mde_machine_actions", .attr "actionId"),
    ("mde_investigations", .attr "investigationId"), ("mde_software", .attr "softwareId"),
    ("mde_vulnerabilities", .attr "vulnerabilityId"), ("mde_network_events", .attr "eventId"),
    ("xdr_incidents", .attr "incident_id"), ("xdr_alerts", .attr "alert_id"),
    ("xdr_endpoints", .attr "endpoint_id"), ("xdr_scripts", .attr "script_id"),
    ("xdr_iocs", .attr "ioc_id"), ("xdr_actions", .attr "action_id"),
    ("xdr_audit_logs", .attr "audit_id"), ("xdr_distributions", .attr "distribution_id"),
    ("xdr_api_keys", .attr "key_id"), ("xdr_xql_queries", .attr "query_id"),
    ("graph_administrative_units", .attr "id"), ("graph_app_protection_policies", .attr "id"),
    ("graph_applications", .attr "id"), ("graph_attack_simulations", .attr "id"),
    ("graph_audit_logs", .attr "id"), ("graph_autopilot_devices", .attr "id"),
    ("graph_autopilot_profiles", .attr "id"), ("graph_channel_messages", .attr "id"),
    ("graph_channels", .attr "id"), ("graph_compliance_policies", .attr "id"),
    ("graph_conditional_access_policies", .attr "id"), ("graph_detected_apps", .attr "id"),
    ("graph_device_categories", .attr "id"), ("graph_device_configurations", .attr "id"),
    ("graph_directory_roles", .attr "id"), ("graph_drive_items", .attr "id"),
    ("graph_drives", .attr "id"), ("graph_enrollment_restrictions", .attr "id"),
    ("graph_groups", .attr "id"), ("graph_mail_folders", .attr "id"),
    ("graph_mail_messages", .attr "id"), ("graph_mail_rules", .attr "id"),
    ("graph_managed_devices", .attr "id"), ("graph_mobile_apps", .attr "id"),
    ("graph_named_locations", .attr "id"), ("graph_oauth_clients", .attr "client_id"),
    ("graph_organization", .attr "id"), ("graph_risk_detections", .attr "id"),
    ("graph_risky_users", .attr "id"), ("graph_secure_scores", .attr "id"),
    ("graph_security_alerts", .attr "id"), ("graph_security_incidents", .attr "id"),
    ("graph_service_health", .attr "id"), ("graph_service_principals", .attr "id"),
    ("graph_sharepoint_sites", .attr "id"), ("graph_sign_in_logs", .attr "id"),
    ("graph_subscribed_skus", .attr "id"), ("graph_teams", .attr "id"),
    ("graph_threat_assessments", .attr "id"), ("graph_update_rings", .attr "id"),
    ("graph_user_registration_details", .attr "id"), ("graph_users", .attr "id"),
    ("sentinel_alert_rules", .attr "rule_id"), ("sentinel_alerts", .attr "alert_id"),
    ("sentinel_bookmarks", .attr "bookmark_id"),
    ("sentinel_data_connectors", .attr "connector_id"), ("sentinel_entities", .attr "entity_id"),
    ("sentinel_incident_comments", .joined "/" ["incident_id", "comment_id"]),
    ("sentinel_incidents", .attr "incident_id"), ("sentinel_threat_indicators", .attr "name"),
    ("sentinel_watchlists", .attr "watchlist_alias"), ("splunk_events", .attr "id"),
    ("splunk_hec_tokens", .attr "token"), ("splunk_indexes", .attr "name"),
    ("splunk_kv_collections", .joined "/" ["app", "name"]),
    ("splunk_lookup_definitions", .joined "/" ["app", "name"]),
    ("splunk_lookup_files", .joined "/" ["app", "name"]), ("splunk_notables", .attr "event_id"),
    ("splunk_saved_searches", .attr "name"), ("splunk_users", .attr "username"),
    ("xdr_hash_exceptions", .attr "exception_id")]

/-- `_COMPOSITE_KEYS` -/
def COMPOSITE_KEYS : List (String × KeyRule) :=
  [("policies", .joined ":" ["scopeType", "scopeId"]),
    ("alerts", .member "alertInfo" "alertId"),
    ("iocs", .attr "uuid"),
    ("graph_mail_messages", .joined ":" ["_user_id", "id"]),
    ("graph_mail_folders", .joined ":" ["_user_id", "id"]),
    ("graph_mail_rules", .joined ":" ["_user_id", "id"]),
    ("graph_channels", .joined ":" ["_team_id", "id"]),
    ("graph_channel_messages", .joined ":" ["_team_id", "_channel_id", "id"]),
    ("graph_drive_items", .joined ":" ["_drive_id", "id"])]

/-- The names of the typed collections. -/
def typedNames : List String := TYPED_COLLECTIONS.map Prod.fst

/-- The key rule of a typed collection. -/
def keyRule (collection : String) : KeyRule :=
  ((Assoc.get collection COMPOSITE_KEYS).or (Assoc.get collection TYPED_COLLECTIONS)).getD
    (.attr "id")

/-- `_MAPPING_COLLECTIONS` -/
def MAPPING_COLLECTIONS : List String :=
  ["edr_id_map", "graph_user_auth_methods", "graph_detected_app_devices",
    "graph_directory_role_members", "graph_group_members", "sentinel_oauth_clients"]

/-- `_RAW_COLLECTIONS` -/
def RAW_COLLECTIONS : List String :=
  ["installed_apps", "blocklist", "api_tokens", "star_rules", "remote_script_runs",
    "agent_network_requests", "cs_oauth_tokens", "es_api_keys", "es_tokens", "es_refresh_tokens",
    "system_config", "xdr_users", "mde_oauth_tokens", "graph_oauth_tokens",
    "sentinel_oauth_tokens", "splunk_sessions", "splunk_fired_alerts",
    "graph_safe_links_policies", "graph_safe_attachments_policies", "es_indices", "es_documents"]

/-- `_BINARY_COLLECTIONS` -/
def BINARY_COLLECTIONS : List String := ["agent_uploads"]

/-- `_PRESERVED_ACROSS_IMPORT` -/
def PRESERVED_ACROSS_IMPORT : List String :=
  ["api_tokens", "cs_oauth_tokens", "mde_oauth_tokens", "graph_oauth_tokens",
    "sentinel_oauth_tokens", "splunk_sessions", "es_tokens", "es_refresh_tokens"]

/-- Every registered collection, in the order in which an import loads them. -/
def registered : List String :=
  typedNames ++ RAW_COLLECTIONS ++ BINARY_COLLECTIONS ++ MAPPING_COLLECTIONS

/-! ## Records and snapshots -/

/-- The value of a field: any JSON value, or bytes, which one private field holds. -/
inductive Value where
  | json (v : Json)
  | bytes (b : List UInt8)

/-- Fields by name: an object of a class, or its `record_dict`. -/
abbrev Fields := List (String × Value)

/-- What a collection holds. -/
inductive Stored where
  | value (v : Value)
  | object (fields : Fields)

/-- A dictionary key: a string, or a number or boolean by its value. -/
inductive Key where
  | str (s : String)
  | num (q : ℚ)
  deriving DecidableEq

/-- The key that a value makes; nothing where it cannot be hashed. -/
def hashKey : Json → Option Key
  | .str s => some (.str s)
  | v => v.number.map .num

/-- The store, and the settings of the proxy. -/
structure Store where
  collections : String → Dict Key Stored
  activityOrder : List Json
  proxy : ProxyConfig

/-- A typed collection in a snapshot: any JSON value, or the records of an export. -/
inductive TypedMember where
  | json (v : Json)
  | records (rs : List Fields)

/-- Any other collection in a snapshot: any JSON value, or the entries of an export. -/
inductive EntryMember where
  | json (v : Json)
  | entries (es : List (Key × Stored))

/-- A snapshot, by what is read of it. -/
structure Snapshot where
  typed : String → Option TypedMember
  others : String → Option EntryMember
  activityOrder : Option Json
  proxyConfig : Option Json

/-- The snapshot a JSON object is. -/
def Snapshot.ofJson (o : Object) : Snapshot where
  typed c := (Assoc.get c o).map .json
  others c := (Assoc.get c o).map .json
  activityOrder := Assoc.get "_activity_order" o
  proxyConfig := Assoc.get "_proxy_config" o

/-- A JSON object as the fields of a record. -/
def jsonFields (o : Object) : Fields := o.map fun p => (p.1, .json p.2)

/-- The elements of a list in a snapshot, each with its fields if it is an object. -/
def TypedMember.asList : TypedMember → Option (List (Option Fields))
  | .json (.list xs) => some (xs.map fun
    | .dict o => some (jsonFields o)
    | _ => none)
  | .json _ => none
  | .records rs => some (rs.map some)

/-- The entries of a dictionary in a snapshot. -/
def EntryMember.asDict : EntryMember → Option (List (Key × Stored))
  | .json (.dict o) => some (o.map fun p => (.str p.1, .value (.json p.2)))
  | .json _ => none
  | .entries es => some es

/-- The records of a typed collection in a snapshot: `snapshot.get(collection, [])`, if it
    is a list. -/
def Snapshot.recordsOf (snapshot : Snapshot) (collection : String) :
    Option (List (Option Fields)) :=
  match snapshot.typed collection with
  | none => some []
  | some m => m.asList

/-- The classes of the typed collections: the names of their fields, in their order, and the
    defaults of those that have one. A class has the attributes that its key is made of. -/
structure Classes where
  fields : String → List (String × Option Value)
  nodup : ∀ collection, ((fields collection).map Prod.fst).Nodup
  keyed : ∀ collection ∈ typedNames, ∀ name ∈ (keyRule collection).names,
    name ∈ (fields collection).map Prod.fst

/-- The classes that have the attributes their keys are made of and no others: what the concrete
    runs of this development compute with. -/
def keyClasses : Classes where
  fields collection := (keyRule collection).names.map (·, none)
  nodup collection := by
    have hall : ∀ p ∈ COMPOSITE_KEYS ++ TYPED_COLLECTIONS, p.2.names.Nodup := by decide +kernel
    rw [List.map_map]
    change ((keyRule collection).names.map id).Nodup
    rw [List.map_id, keyRule]
    cases hcomposite : Assoc.get collection COMPOSITE_KEYS with
    | some rule => exact hall _ (List.mem_append_left _ (Assoc.mem_of_get hcomposite))
    | none =>
      cases htyped : Assoc.get collection TYPED_COLLECTIONS with
      | some rule => exact hall _ (List.mem_append_right _ (Assoc.mem_of_get htyped))
      | none => exact List.nodup_singleton "id"
  keyed collection _ name hname := by
    rw [List.map_map]
    exact List.mem_map.2 ⟨name, hname, rfl⟩

/-- The built-ins that an import reads values with. -/
structure DevPython extends Python where
  /-- `str(b)` of bytes -/
  strBytes : List UInt8 → String
  /-- `str(o)` of an object of a class -/
  strObject : Fields → String
  /-- `int(s, 16)`, nothing where it raises -/
  intHex : String → Option Int

/-- The built-ins on ASCII text, for concrete runs. -/
def asciiDevPython : DevPython where
  toPython := asciiPython
  strBytes _ := ""
  strObject _ := ""
  intHex _ := none

section

variable (py : DevPython)

/-- `str(v)` -/
def Value.toStr : Value → String
  | .json v => py.toPython.toStr v
  | .bytes b => py.strBytes b

/-- `str(v)` -/
def Stored.toStr : Stored → String
  | .value v => v.toStr py
  | .object fields => py.strObject fields

/-! ## Older snapshots -/

/-- `_XDR_ISOLATION` -/
def XDR_ISOLATION : List (String × String) :=
  [("isolated", "AGENT_ISOLATED"), ("unisolated", "AGENT_UNISOLATED")]

/-- `_S1_MITIGATION` -/
def S1_MITIGATION : List (String × String) :=
  [("killed", "mitigated"), ("quarantined", "mitigated"), ("remediated", "mitigated"),
    ("rollback", "mitigated"), ("active", "not_mitigated")]

/-- `_XQL_STATUS` -/
def XQL_STATUS : List (String × String) :=
  [("pending", "PENDING"), ("running", "PENDING"), ("completed", "SUCCESS"), ("failed", "FAIL")]

/-- `str.title`: a letter is large at the start of a word, small inside. -/
def titleFrom : Bool → List Char → List Char
  | _, [] => []
  | inWord, c :: cs =>
    (if inWord then c.toLower else c.toUpper) :: titleFrom c.isAlpha cs

/-- `new.replace("_", " ").title()` -/
def describeStatus (status : String) : String :=
  String.ofList (titleFrom false (replace "_" " " status).toList)

/-- `_xdr_endpoint` -/
def xdrEndpoint (record : Fields) : Fields × Bool :=
  match Assoc.get "is_isolated" record with
  | some (.json (.str old)) =>
    match Assoc.get (py.lower old) XDR_ISOLATION with
    | some new => (Assoc.set "is_isolated" (.json (.str new)) record, true)
    | none => (record, false)
  | _ => (record, false)

/-- `_threat` -/
def threat (record : Fields) : Fields × Bool :=
  match Assoc.get "threatInfo" record with
  | some (.json (.dict info)) =>
    match Assoc.get (textAt py.toPython info "mitigationStatus" "") S1_MITIGATION with
    | some new =>
      let info := Assoc.set "mitigationStatus" (.str new) info
      let info := Assoc.set "mitigationStatusDescription" (.str (describeStatus new)) info
      (Assoc.set "threatInfo" (.json (.dict info)) record, true)
    | none => (record, false)
  | _ => (record, false)

/-- `_xdr_alert` -/
def xdrAlert (record : Fields) : Fields × Bool :=
  match Assoc.get "internal_id" record with
  | some (.json (.str old)) =>
    let hexPart := if startsWith old "INT_" then
        String.ofList ((old.toList.drop 4).take 7)
      else ""
    let number := if hexPart ≠ "" then py.intHex hexPart
      else if old = "" then some 0 else py.parseInt old
    (Assoc.set "internal_id" (.json (.int (number.getD 0))) record, true)
  | _ => (record, false)

/-- `_xql_query` -/
def xqlQuery (record : Fields) : Fields × Bool :=
  match Assoc.get "status" record with
  | some status =>
    match Assoc.get (status.toStr py) XQL_STATUS with
    | some new => (Assoc.set "status" (.json (.str new)) record, true)
    | none => (record, false)
  | none => (record, false)

/-- `migrate_record`, for a record that is a dictionary: the record as it is rewritten, and whether
    anything changed. -/
def migrateRecord (collection : String) (record : Fields) : Fields × Bool :=
  if collection = "xdr_endpoints" then xdrEndpoint py record
  else if collection = "threats" then threat py record
  else if collection = "xdr_xql_queries" then xqlQuery py record
  else if collection = "xdr_alerts" then xdrAlert py record
  else (record, false)

end

end Dev

end Mockdr
