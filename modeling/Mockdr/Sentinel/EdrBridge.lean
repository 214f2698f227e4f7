import Mathlib.Algebra.Order.Floor.Ring
import Mathlib.Data.Rat.Floor
import Mockdr.Python

/-!
# The bridge from the vendors' events to Sentinel

`application/sentinel/commands/edr_bridge.py`: what an event of a vendor makes of the alerts, the
incidents and the entities of Sentinel.

* `createEntity` finds or makes an entity, `extractEntities` those of a payload.
* `bridge` is what the handlers of alerts, threats, detections and incidents have in common; each
  handler is `bridge` at its own vendor, alert and names.
* `publish` hands an event to its handler. Where a handler raises, what it has written stays.

The ids, etags and times that are drawn are part of the event.
-/

namespace Mockdr

namespace Sentinel

namespace Bridge

/-- `SentinelEntity`, under its id. -/
structure Entity where
  kind : String
  properties : Object

/-- `SentinelAlert`, under its id; an empty incident id is none. -/
structure Alert where
  alertDisplayName : String
  description : String
  severity : String
  productName : String
  vendorName : String
  tactics : List String
  techniques : List String
  timeGenerated : String
  entityIds : List String
  incidentId : String

/-- `SentinelIncident`, under its id. -/
structure Incident where
  title : String
  description : String
  severity : String
  status : String
  incidentNumber : Nat
  createdTimeUtc : String
  lastModifiedTimeUtc : String
  firstActivityTimeUtc : String
  lastActivityTimeUtc : String
  providerName : String
  providerIncidentId : String
  alertIds : List String
  entityIds : List String
  alertProductNames : List String
  tactics : List String
  techniques : List String
  etag : String

/-- The three collections. -/
structure Store where
  alerts : Dict String Alert
  incidents : Dict String Incident
  entities : Dict String Entity

/-- What an event draws: the hex digits of the ids that are new. -/
structure Drawn where
  alert : String
  incident : String
  etag : String
  host : String
  account : String
  ip : String

variable (py : Python)

/-! ## Entities -/

/-- `_ENTITY_KEY` -/
def entityKey : String → Option String
  | "Host" => some "hostName"
  | "Account" => some "accountName"
  | "Ip" => some "address"
  | _ => none

/-- `str(properties.get(naming, ""))` -/
def nameIn (naming : String) (properties : Object) : String :=
  ((Assoc.get naming properties).map py.toStr).getD ""

/-- `{**properties, **later}` -/
def merged (properties later : Object) : Object :=
  later.foldl (fun o p => Assoc.set p.1 p.2 o) properties

/-- The entity of a kind that has the name of some properties. -/
def findEntity (kind naming : String) (properties : Object) (s : Store) :
    Option (String × Entity) :=
  s.entities.entries.find? fun p =>
    p.2.kind = kind && nameIn py naming p.2.properties = nameIn py naming properties

/-- `_create_entity` -/
def createEntity (kind : String) (properties : Object) (drawn : String) (s : Store) :
    Store × String :=
  let found := (entityKey kind).bind fun naming => findEntity py kind naming properties s
  match found with
  | some (id, existing) =>
    ({ s with entities :=
        s.entities.set id { existing with properties := merged existing.properties properties } },
      id)
  | none =>
    let id := "ent-" ++ drawn
    ({ s with entities := s.entities.set id ⟨kind, properties⟩ }, id)

/-- The vendors. -/
inductive Vendor where
  | mde
  | s1
  | cs
  | es
  | xdr
  deriving DecidableEq

/-- `o.get(name, default)`, nothing where `o` has no `get`. -/
def getOf (o : Json) (name : String) (default : Json) : Option Json :=
  match o with
  | .dict fields => some ((Assoc.get name fields).getD default)
  | _ => none

/-- `payload.get(name, default)` -/
def getOr (payload : Object) (name : String) (default : Json) : Json :=
  (Assoc.get name payload).getD default

/-- `values[0] if values else str(default)`, nothing where it raises. -/
def firstOr (values default : Json) : Option Json :=
  if values.truthy then
    match values with
    | .list (v :: _) => some v
    | .str s => s.toList.head?.map fun c => .str (String.singleton c)
    | _ => none
  else some (.str (py.toStr default))

/-- The host of a payload, nothing where reading it raises. -/
def hostname (vendor : Vendor) (payload : Object) : Option Json :=
  match vendor with
  | .mde =>
    some (.str (py.toStr (getOr payload "computerDnsName" (getOr payload "machineName" (.str "")))))
  | .s1 =>
    let agentInfo :=
      getOr payload "agentDetectionInfo" (getOr payload "agentRealtimeInfo" (.dict []))
    (getOf agentInfo "computerName" (.str "")).bind fun computerName =>
      (getOf agentInfo "agentComputerName" computerName).map fun v => .str (py.toStr v)
  | .cs =>
    (getOf (getOr payload "device" (.dict [])) "hostname" (.str "")).map fun device =>
      .str (py.toStr (getOr payload "hostname" device))
  | .es => some (.str (py.toStr (getOr payload "host_name" (.str ""))))
  | .xdr => firstOr py (getOr payload "hosts" (.list [])) (getOr payload "host_name" (.str ""))

/-- The account of a payload, nothing where reading it raises. -/
def username (vendor : Vendor) (payload : Object) : Option Json :=
  match vendor with
  | .mde =>
    some (match getOr payload "relatedUser" (.dict []) with
      | .dict user => .str (py.toStr (getOr user "userName" (.str "")))
      | _ => .str "")
  | .s1 =>
    (getOf (getOr payload "threatInfo" (.dict [])) "processUser" (.str "")).map fun v =>
      .str (py.toStr v)
  | .cs => some (.str (py.toStr (getOr payload "user_name" (.str ""))))
  | .es => some (.str "")
  | .xdr => firstOr py (getOr payload "users" (.list [])) (getOr payload "user_name" (.str ""))

/-- The address of a payload. -/
def ipAddr (vendor : Vendor) (payload : Object) : Json :=
  match vendor with
  | .mde => .str (py.toStr (getOr payload "machineIp" (.str "")))
  | .cs => .str (py.toStr (getOr payload "local_ip" (.str "")))
  | _ => .str ""

/-- Create an entity, if it has a name. -/
def createNamed (kind naming : String) (name : Json) (drawn : String) (s : Store) :
    Store × List String :=
  if name.truthy then
    let created := createEntity py kind [(naming, name)] drawn s
    (created.1, [created.2])
  else (s, [])

/-- `_extract_entities_from_payload`, with no ids where it raises. -/
def extractEntities (vendor : Vendor) (payload : Object) (drawn : Drawn) (s : Store) :
    Store × Option (List String) :=
  match hostname py vendor payload with
  | none => (s, none)
  | some host =>
    let hosts := createNamed py "Host" "hostName" host drawn.host s
    match username py vendor payload with
    | none => (hosts.1, none)
    | some user =>
      let accounts := createNamed py "Account" "accountName" user drawn.account hosts.1
      let ips := createNamed py "Ip" "address" (ipAddr py vendor payload) drawn.ip accounts.1
      (ips.1, some (hosts.2 ++ accounts.2 ++ ips.2))

/-! ## Incidents -/

/-- `next_incident_number` -/
def nextIncidentNumber (s : Store) : Nat :=
  (s.incidents.entries.map fun p => p.2.incidentNumber).foldl max 0 + 1

/-- `_find_or_create_incident`, which never finds one. -/
def findOrCreateIncident (alertId : String) (alert : Alert) (providerName : String)
    (alertProductNames : List String) (entityIds : List String) (drawn : Drawn) (now : String)
    (s : Store) : Store × String :=
  let incidentId := "inc-" ++ drawn.incident
  let incident : Incident := {
    title := alert.alertDisplayName
    description := alert.description
    severity := alert.severity
    status := "New"
    incidentNumber := nextIncidentNumber s
    createdTimeUtc := now
    lastModifiedTimeUtc := now
    firstActivityTimeUtc := now
    lastActivityTimeUtc := now
    providerName := providerName
    providerIncidentId := alertId
    alertIds := [alertId]
    entityIds := entityIds
    alertProductNames := alertProductNames
    tactics := alert.tactics
    techniques := alert.techniques
    etag := drawn.etag }
  ({ s with incidents := s.incidents.set incidentId incident }, incidentId)

/-! ## Severities and tactics -/

/-- `_map_mde_severity` -/
def mapMdeSeverity (severity : String) : String :=
  match py.lower severity with
  | "informational" => "Informational"
  | "low" => "Low"
  | "medium" => "Medium"
  | "high" => "High"
  | "critical" => "High"
  | _ => "Medium"

/-- `_map_s1_severity` -/
def mapS1Severity (confidence : String) : String :=
  match py.lower confidence with
  | "malicious" => "High"
  | "suspicious" => "Medium"
  | _ => "Medium"

/-- `_map_cs_severity` -/
def mapCsSeverity (severity : Json) : String :=
  let sev : ℤ := match severity.number with
    | some q => if 0 ≤ q then ⌊q⌋ else ⌈q⌉
    | none => 3
  if 5 ≤ sev then "High" else if 3 ≤ sev then "Medium" else "Low"

/-- `_map_generic_severity` -/
def mapGenericSeverity (severity : String) : String :=
  match py.lower severity with
  | "critical" => "High"
  | "high" => "High"
  | "medium" => "Medium"
  | "low" => "Low"
  | "informational" => "Informational"
  | _ => "Medium"

/-- `_MITRE_TACTIC_MAP` -/
def mitreTactic : String → Option String
  | "TA0001" => some "InitialAccess"
  | "TA0002" => some "Execution"
  | "TA0003" => some "Persistence"
  | "TA0004" => some "PrivilegeEscalation"
  | "TA0005" => some "DefenseEvasion"
  | "TA0006" => some "CredentialAccess"
  | "TA0007" => some "Discovery"
  | "TA0008" => some "LateralMovement"
  | "TA0009" => some "Collection"
  | "TA0010" => some "Exfiltration"
  | "TA0011" => some "CommandAndControl"
  | "TA0040" => some "Impact"
  | _ => none

/-- `_extract_tactics`, nothing where it raises. -/
def extractTactics (payload : Object) : Option (List String) :=
  (getOf (getOr payload "threatInfo" (.dict [])) "mitreTechniques" (.list [])).map fun threat =>
    let tactics := match getOr payload "mitreTechniques" threat with
      | .list techniques => techniques.foldl (fun tactics tech =>
          let text := py.toStr tech
          let tacticId := if hasChar '.' text then (partition '.' text).1 else ""
          match mitreTactic tacticId with
          | some tactic => if tactic ∈ tactics then tactics else tactics ++ [tactic]
          | none => tactics) []
      | _ => []
    if tactics = [] then ["Execution"] else tactics

/-- `_extract_techniques` -/
def extractTechniques (payload : Object) : List String :=
  match getOr payload "mitreTechniques" (.list []) with
  | .list techniques => (techniques.take 5).map py.toStr
  | _ => []

/-! ## Handlers -/

/-- What the handlers have in common: the entities, then the alert, the incident that lists it, and
    its id on the alert. -/
def bridge (vendor : Vendor) (providerName productName alertId : String) (alert : Option Alert)
    (payload : Object) (drawn : Drawn) (now : String) (s : Store) : Store :=
  match extractEntities py vendor payload drawn s with
  | (s, none) => s
  | (s, some entityIds) =>
    match alert with
    | none => s
    | some alert =>
      let alert := { alert with entityIds := entityIds }
      let created :=
        findOrCreateIncident alertId alert providerName [productName] entityIds drawn now s
      { created.1 with
        alerts := created.1.alerts.set alertId { alert with incidentId := created.2 } }

/-- `_handle_mde_alert`: the id of the alert, and the alert. -/
def mdeAlert (payload : Object) (drawn : Drawn) (now : String) : String × Option Alert :=
  (py.toStr (getOr payload "alertId" (getOr payload "id" (.str drawn.alert))),
    (extractTactics py payload).map fun tactics => {
      alertDisplayName :=
        py.toStr (getOr payload "title" (getOr payload "alert_name" (.str "MDE Alert")))
      description := py.toStr (getOr payload "description" (.str ""))
      severity := mapMdeSeverity py (py.toStr (getOr payload "severity" (.str "Medium")))
      productName := "Microsoft Defender for Endpoint"
      vendorName := "Microsoft"
      tactics := tactics
      techniques := extractTechniques py payload
      timeGenerated := now
      entityIds := []
      incidentId := "" })

/-- `_handle_s1_threat` -/
def s1Alert (payload : Object) (drawn : Drawn) (now : String) : String × Option Alert :=
  let threatInfo := getOr payload "threatInfo" (.dict [])
  ("s1-" ++ py.toStr (getOr payload "id" (.str drawn.alert)),
    do
      let threatName ← getOf threatInfo "threatName" (.str "Threat Detected")
      let classification ← getOf threatInfo "classification" (.str "")
      let confidence ← getOf threatInfo "confidenceLevel" (.str "suspicious")
      some {
        alertDisplayName := "SentinelOne: " ++ py.toStr threatName
        description := py.toStr classification
        severity := mapS1Severity py (py.toStr confidence)
        productName := "SentinelOne"
        vendorName := "SentinelOne"
        tactics := []
        techniques := []
        timeGenerated := now
        entityIds := []
        incidentId := "" })

/-- `_handle_cs_detection` -/
def csAlert (payload : Object) (drawn : Drawn) (now : String) : String × Option Alert :=
  ("cs-" ++ py.toStr (getOr payload "detection_id" (.str drawn.alert)),
    some {
      alertDisplayName :=
        "CrowdStrike: " ++ py.toStr (getOr payload "detect_name" (.str "Detection"))
      description := py.toStr (getOr payload "detect_description" (.str ""))
      severity := mapCsSeverity (getOr payload "max_severity" (.int 3))
      productName := "CrowdStrike Falcon"
      vendorName := "CrowdStrike"
      tactics := []
      techniques := []
      timeGenerated := now
      entityIds := []
      incidentId := "" })

/-- `_handle_es_alert` -/
def esAlert (payload : Object) (drawn : Drawn) (now : String) : String × Option Alert :=
  ("es-" ++ py.toStr (getOr payload "id" (.str drawn.alert)),
    do
      let rule ← getOf (getOr payload "signal" (.dict [])) "rule" (.dict [])
      let ruleName ← getOf rule "name" (.str "Alert")
      some {
        alertDisplayName := "Elastic: " ++ py.toStr (getOr payload "rule_name" ruleName)
        description := py.toStr (getOr payload "description" (.str ""))
        severity := mapGenericSeverity py (py.toStr (getOr payload "severity" (.str "medium")))
        productName := "Elastic Security"
        vendorName := "Elastic"
        tactics := []
        techniques := []
        timeGenerated := now
        entityIds := []
        incidentId := "" })

/-- `_handle_xdr_incident` -/
def xdrIncidentAlert (payload : Object) (drawn : Drawn) (now : String) : String × Option Alert :=
  ("xdr-inc-" ++ py.toStr (getOr payload "incident_id" (.str drawn.alert)),
    some {
      alertDisplayName :=
        "Cortex XDR: " ++ py.toStr (getOr payload "description" (.str "Incident"))
      description := py.toStr (getOr payload "description" (.str ""))
      severity := mapGenericSeverity py (py.toStr (getOr payload "severity" (.str "medium")))
      productName := "Palo Alto Cortex XDR"
      vendorName := "Palo Alto Networks"
      tactics := []
      techniques := []
      timeGenerated := now
      entityIds := []
      incidentId := "" })

/-- `_handle_xdr_alert` -/
def xdrAlert (payload : Object) (drawn : Drawn) (now : String) : String × Alert :=
  ("xdr-" ++ py.toStr (getOr payload "alert_id" (.str drawn.alert)),
    { alertDisplayName := py.toStr (getOr payload "name" (.str "XDR Alert"))
      description := py.toStr (getOr payload "description" (.str ""))
      severity := mapGenericSeverity py (py.toStr (getOr payload "severity" (.str "medium")))
      productName := "Palo Alto Cortex XDR"
      vendorName := "Palo Alto Networks"
      tactics := []
      techniques := []
      timeGenerated := now
      entityIds := []
      incidentId := "" })

/-- `_handle_mde_machine` -/
def handleMdeMachine (payload : Object) (drawn : Drawn) (s : Store) : Store :=
  let hostname := py.toStr (getOr payload "computerDnsName" (getOr payload "machineName" (.str "")))
  if hostname ≠ "" then
    let platform := py.toStr (getOr payload "osPlatform" (.str ""))
    (createEntity py "Host" [("hostName", .str hostname), ("osMajorVersion", .str platform),
      ("osFamily", .str platform)] drawn.host s).1
  else s

/-- The events that are subscribed to. -/
inductive Kind where
  | mdeAlertCreated
  | threatCreated
  | csDetectionCreated
  | esAlertCreated
  | xdrIncidentCreated
  | xdrAlertCreated
  | mdeMachineUpdated

/-- An event, with what its handler draws and the time it reads. -/
structure Event where
  kind : Kind
  payload : Object
  drawn : Drawn
  now : String

/-- `publish`, to the handlers of the bridge. -/
def publish (s : Store) (e : Event) : Store :=
  match e.kind with
  | .mdeAlertCreated =>
    let alert := mdeAlert py e.payload e.drawn e.now
    bridge py .mde "Microsoft 365 Defender" "Microsoft Defender for Endpoint" alert.1 alert.2
      e.payload e.drawn e.now s
  | .threatCreated =>
    let alert := s1Alert py e.payload e.drawn e.now
    bridge py .s1 "Azure Sentinel" "SentinelOne" alert.1 alert.2 e.payload e.drawn e.now s
  | .csDetectionCreated =>
    let alert := csAlert py e.payload e.drawn e.now
    bridge py .cs "Azure Sentinel" "CrowdStrike Falcon" alert.1 alert.2 e.payload e.drawn e.now s
  | .esAlertCreated =>
    let alert := esAlert py e.payload e.drawn e.now
    bridge py .es "Azure Sentinel" "Elastic Security" alert.1 alert.2 e.payload e.drawn e.now s
  | .xdrIncidentCreated =>
    let alert := xdrIncidentAlert py e.payload e.drawn e.now
    bridge py .xdr "Azure Sentinel" "Palo Alto Cortex XDR" alert.1 alert.2 e.payload e.drawn e.now s
  | .xdrAlertCreated =>
    let alert := xdrAlert py e.payload e.drawn e.now
    { s with alerts := s.alerts.set alert.1 alert.2 }
  | .mdeMachineUpdated => handleMdeMachine py e.payload e.drawn s

end Bridge

end Sentinel

end Mockdr
