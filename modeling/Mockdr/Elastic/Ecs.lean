import Mockdr.Python

/-!
# The mock's own alerts as documents

`utils/es_ecs.py`: a stored alert is a flat record; a search reads the ECS document made of it,
whose rule and workflow fields depend on the index family it is read through.
-/

namespace Mockdr.Elastic

/-- `_put`: set a dotted path, unless there is nothing to set. -/
def put (document : Object) (path : String) (value : Json) : Object :=
  match value with
  | .null => document
  | .str "" => document
  | value => putPath (split '.' path) value document

/-- `_COMMON` -/
def ecsCommon : List (String × String) :=
  [("timestamp", "@timestamp"), ("agent_id", "agent.id"), ("hostname", "host.name"),
    ("host_ip", "host.ip"), ("host_os", "host.os.name"), ("process_name", "process.name"),
    ("process_executable", "process.executable"), ("process_args", "process.args"),
    ("process_pid", "process.pid"), ("user_name", "user.name"), ("file_name", "file.name"),
    ("file_path", "file.path"), ("file_hash_sha256", "file.hash.sha256"),
    ("threat_tactic_name", "threat.tactic.name"), ("threat_tactic_id", "threat.tactic.id"),
    ("threat_technique_name", "threat.technique.name"),
    ("threat_technique_id", "threat.technique.id"), ("tags", "tags")]

/-- `_ALERTS_SCHEMA` -/
def alertsSchema : List (String × String) :=
  [("id", "kibana.alert.uuid"), ("signal_rule_id", "kibana.alert.rule.uuid"),
    ("signal_rule_name", "kibana.alert.rule.name"),
    ("signal_rule_severity", "kibana.alert.severity"),
    ("signal_rule_risk_score", "kibana.alert.risk_score"),
    ("signal_status", "kibana.alert.status"),
    ("workflow_status", "kibana.alert.workflow_status"),
    ("assignees", "kibana.alert.workflow_assignee_ids")]

/-- `_SIGNALS_SCHEMA` -/
def signalsSchema : List (String × String) :=
  [("id", "signal.rule.id"), ("signal_rule_id", "signal.rule.rule_id"),
    ("signal_rule_name", "signal.rule.name"), ("signal_rule_severity", "signal.rule.severity"),
    ("signal_rule_risk_score", "signal.rule.risk_score"), ("signal_status", "signal.status"),
    ("workflow_status", "signal.status"), ("assignees", "signal.assignees")]

/-- Whether an index belongs to the current family (`_ALERTS_PREFIX in index.lower()`). -/
def alertsFamily (py : Python) (index : String) : Bool := hasSub ".alerts-security" (py.lower index)

/-- `_schema_for` -/
def schemaFor (py : Python) (index : String) : List (String × String) :=
  if alertsFamily py index then alertsSchema else signalsSchema

/-- One field of the stored record, put where the document has it. -/
def putField (schema : List (String × String)) (document : Object) (p : String × Json) : Object :=
  match (Assoc.get p.1 schema).or (Assoc.get p.1 ecsCommon) with
  | some path => put document path p.2
  | none => if Object.has document p.1 then document else Assoc.set p.1 p.2 document

/-- `to_ecs_document` -/
def toEcsDocument (py : Python) (record : Object) (index : String) : Object :=
  let document := record.foldl (putField (schemaFor py index)) []
  let document := put document "event.kind" (.str "signal")
  let document := put document "event.category" (.list [.str "intrusion_detection"])
  let document := put document "ecs.version" (.str "8.11.0")
  if alertsFamily py index then
    let document := put document "kibana.alert.rule.parameters" (.dict [])
    put document "kibana.space_ids" (.list [.str "default"])
  else document

end Mockdr.Elastic
