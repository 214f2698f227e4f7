import Mockdr.Equality

/-!
# Elastic detection rules

The commands of `application/es_rules/commands.py` and the routes that write rules:
`api/routers/es_rules.py`, and `_bulk_create` of `api/routers/es_security_extras.py`.

* `parameters` are the members of a rule that its revision counts, `countRevision` counts them.
* `addressedRule` is the rule that the body of a `PUT` or a `PATCH` addresses.
* `Action` is a request, of `_bulk_create` one of its entries; `step` is what it leaves.

Rules are stored under their ids. Ids that are drawn, who asks and the time are part of the request.
-/

namespace Mockdr

namespace EsRules

/-- The attributes of a rule that a body can write, and what they are without it. -/
def memberDefaults : List (String × Json) :=
  [("name", .str "Untitled Rule"), ("description", .str ""), ("type", .str "query"),
    ("query", .str ""), ("language", .str "kuery"),
    ("index", .list [.str "logs-*", .str "filebeat-*"]), ("severity", .str "medium"),
    ("risk_score", .int 50), ("tags", .list []), ("threat", .list []),
    ("author", .list [.str "Elastic"]), ("interval", .str "5m"), ("max_signals", .int 100),
    ("false_positives", .list []), ("references", .list []), ("actions", .list []),
    ("exceptions_list", .list [])]

/-- The attributes of a rule that a body can write, by their names. -/
structure Members where
  fields : Object
  names : fields.map Prod.fst = memberDefaults.map Prod.fst

/-- The attributes with what a body has for them. -/
def Members.overlay (data : Object) (members : Members) : Members where
  fields := members.fields.map fun p => (p.1, arg data p.1 p.2)
  names := by
    rw [← members.names, List.map_map]
    rfl

/-- The attributes of a rule that nothing is said about. -/
def Members.default : Members := ⟨memberDefaults, rfl⟩

/-- `EsRule` -/
structure Rule where
  id : String
  ruleId : Json
  members : Members
  enabled : Json
  version : Json
  revision : Nat
  fromField : Json
  createdAt : String
  createdBy : String
  updatedAt : String
  updatedBy : String
  immutable : Bool
  lastExecution : Json
  optionalMembers : Object

/-- The rules by their ids. -/
abbrev Store := Dict String Rule

variable (py : Python)

/-! ## Bodies -/

/-- Who asks, and when. -/
structure Caller where
  user : String
  now : String

/-- `_OPTIONAL_MEMBERS` -/
def optionalNames : List String :=
  ["building_block_type", "filters", "investigation_fields", "license", "meta", "note", "throttle",
    "timeline_id", "timeline_title"]

/-- `optional_members_from` -/
def optionalMembersFrom (data : Object) : Object :=
  optionalNames.filterMap fun key => (Assoc.get key data).map (Prod.mk key)

/-- `_from_body` -/
def fromBody (data : Object) (id : String) (publicRuleId : Json) : Rule where
  id := id
  ruleId := arg data "rule_id" publicRuleId
  members := Members.default.overlay data
  enabled := arg data "enabled" (.bool true)
  version := arg data "version" (.int 1)
  revision := 0
  fromField := arg data "from" (.str "now-6m")
  createdAt := ""
  createdBy := ""
  updatedAt := ""
  updatedBy := ""
  immutable := false
  lastExecution := .null
  optionalMembers := optionalMembersFrom data

/-! ## Revisions -/

/-- `_parameters`: the members of a rule but `enabled`, `revision`, `updated_at`, `updated_by` and
    `last_execution` -/
def parameters (rule : Rule) : Object :=
  [("id", .str rule.id), ("rule_id", rule.ruleId)] ++ rule.members.fields
    ++ [("version", rule.version), ("from_field", rule.fromField),
      ("created_at", .str rule.createdAt), ("created_by", .str rule.createdBy),
      ("immutable", .bool rule.immutable), ("optional_members", .dict rule.optionalMembers)]

/-- `_count_revision` -/
def countRevision (rule : Rule) (before : Object) : Rule :=
  if (Json.dict (parameters rule)).eq (.dict before) then rule
  else { rule with revision := rule.revision + 1 }

/-! ## Commands -/

/-- `es_rule_repo.save` -/
def save (rule : Rule) (s : Store) : Store := s.set rule.id rule

/-- `es_rule_repo.get_by_rule_id` -/
def getByRuleId (ruleId : Json) (s : Store) : Option Rule :=
  (s.entries.map Prod.snd).find? fun rule => rule.ruleId.eq ruleId

/-- `create_rule`, with the two ids that are drawn -/
def createRule (id publicId : String) (caller : Caller) (data : Object) (s : Store) : Store :=
  save { fromBody data id (.str publicId) with
    createdAt := caller.now
    createdBy := caller.user
    updatedAt := caller.now
    updatedBy := caller.user } s

/-- `update_rule` -/
def updateRule (rule : Rule) (caller : Caller) (data : Object) (s : Store) : Store :=
  let before := parameters rule
  let replaced := { fromBody data rule.id rule.ruleId with
    createdAt := rule.createdAt
    createdBy := rule.createdBy
    enabled := arg data "enabled" rule.enabled
    version := arg data "version" rule.version
    revision := rule.revision
    lastExecution := rule.lastExecution
    updatedAt := caller.now
    updatedBy := caller.user }
  save (countRevision replaced before) s

/-- A rule with the members that a body names. -/
def patched (rule : Rule) (data : Object) : Rule :=
  { rule with
    members := rule.members.overlay data
    enabled := arg data "enabled" rule.enabled
    fromField := arg data "from" rule.fromField
    version := arg data "version" rule.version
    optionalMembers := (optionalMembersFrom data).foldl (fun o p => Assoc.set p.1 p.2 o)
      rule.optionalMembers }

/-- `patch_rule` -/
def patchRule (rule : Rule) (caller : Caller) (data : Object) (s : Store) : Store :=
  let counted := countRevision (patched rule data) (parameters rule)
  save { counted with updatedAt := caller.now, updatedBy := caller.user } s

/-! ## Bulk actions -/

/-- The rules that a query finds by their names and tags, nothing where it raises. -/
def matching (lower : String) : List Rule → Option (List Rule)
  | [] => some []
  | rule :: rules =>
    match Object.get rule.members.fields "name" with
    | .str name =>
      if hasSub lower (py.lower name) then (matching lower rules).map (rule :: ·)
      else do
        let tags ← (Object.get rule.members.fields "tags").iterate
        let found ← anyTag lower tags
        let rest ← matching lower rules
        some (if found then rule :: rest else rest)
    | _ => none
where
  /-- `any(lower in t.lower() for t in r.tags)` -/
  anyTag (lower : String) : List Json → Option Bool
    | [] => some false
    | .str tag :: tags => if hasSub lower (py.lower tag) then some true else anyTag lower tags
    | _ :: _ => none

/-- `_resolve_rules`, nothing where it raises -/
def resolveRules (ruleIds query : Json) (s : Store) : Option (List Rule) :=
  let rules := s.entries.map Prod.snd
  match ruleIds with
  | .list (id :: ids) =>
    if rules.isEmpty || (id :: ids).all fun v => (hashed v).isSome then
      some (rules.filter fun rule => some (Hash.text rule.id) ∈ (id :: ids).map hashed)
    else none
  | _ =>
    if query.truthy then
      match query with
      | .str query => matching py (py.lower query) rules
      | _ => none
    else some rules

/-- The ids and the name of a copy. -/
def duplicate (id publicId : String) (caller : Caller) (rule : Rule) : Rule :=
  { rule with
    id := id
    ruleId := .str publicId
    members := rule.members.overlay
      [("name", .str (py.toStr (Object.get rule.members.fields "name") ++ " [Duplicate]"))]
    createdAt := caller.now
    createdBy := caller.user
    updatedAt := caller.now
    updatedBy := caller.user }

/-- `bulk_action`, of the rules that it resolves to; `drawn` are the ids of the copies. -/
def bulkAction (action : String) (rules : List Rule) (drawn : Nat → String × String)
    (caller : Caller) (s : Store) : Store :=
  let enable (enabled : Bool) (s : Store) (rule : Rule) : Store :=
    save { rule with
      enabled := .bool enabled
      updatedAt := caller.now
      updatedBy := caller.user } s
  match action with
  | "enable" => rules.foldl (enable true) s
  | "disable" => rules.foldl (enable false) s
  | "delete" => rules.foldl (fun s rule => s.erase rule.id) s
  | "duplicate" =>
    rules.zipIdx.foldl (fun s p =>
      save (duplicate py (drawn p.2).1 (drawn p.2).2 caller p.1) s) s
  -- `export` writes nothing, the others raise
  | _ => s

/-! ## Routes -/

/-- `_RULE_TYPES` -/
def ruleTypes : List String :=
  ["eql", "query", "saved_query", "threshold", "threat_match", "machine_learning", "new_terms",
    "esql"]

/-- `_REQUIRED_RULE_FIELDS` -/
def requiredRuleFields : List String := ["name", "description", "type", "severity", "risk_score"]

/-- `_REQUIRED_BY_TYPE` -/
def requiredByType : String → List String
  | "eql" => ["query"]
  | "esql" => ["query"]
  | "threshold" => ["query", "threshold"]
  | "saved_query" => ["saved_id"]
  | "new_terms" => ["query", "new_terms_fields", "history_window_start"]
  | _ => []

/-- A body that `create_rule` reports no missing member of. -/
def complete (body : Object) : Bool :=
  match Object.get body "type" with
  | .str type =>
    type ∈ ruleTypes && (requiredRuleFields ++ requiredByType type).all fun name =>
      (Object.get body name).truthy
  | _ => false

/-- The rule that a new one with the body would clash with. -/
def clash (body : Object) (s : Store) : Bool :=
  let ruleId := Object.get body "rule_id"
  ruleId.truthy && (getByRuleId ruleId s).isSome

/-- `POST /api/detection_engine/rules` -/
def create (id publicId : String) (caller : Caller) (body : Object) (s : Store) : Store :=
  if complete body && !clash body s then createRule id publicId caller body s else s

/-- The rule that an entry of `_bulk_create` would clash with. -/
def entryClash (entry : Object) (s : Store) : Bool :=
  let ruleId := Object.get entry "rule_id"
  ruleId.truthy && (getByRuleId (.str (py.toStr ruleId)) s).isSome

/-- An entry of `_bulk_create` that has the members it needs. -/
def present (entry : Object) : Bool :=
  requiredRuleFields.all fun name => !(Object.get entry name).eq .null

/-- An entry of `POST /api/detection_engine/rules/_bulk_create` -/
def createEntry (id publicId now : String) (entry : Json) (s : Store) : Store :=
  match entry with
  | .dict entry =>
    if present entry && !entryClash py entry s then
      createRule id publicId ⟨"elastic", now⟩ entry s
    else s
  | _ => s

/-- `_addressed_rule`, nothing where it refuses -/
def addressedRule (body : Object) (s : Store) : Option Rule :=
  let ruleId := Object.get body "id"
  let publicId := Object.get body "rule_id"
  if ruleId.truthy then s.get (py.toStr ruleId)
  else if publicId.truthy then getByRuleId (.str (py.toStr publicId)) s
  else none

/-- `PUT /api/detection_engine/rules` -/
def put (caller : Caller) (body : Object) (s : Store) : Store :=
  match addressedRule py body s with
  | some rule => updateRule rule caller body s
  | none => s

/-- `PATCH /api/detection_engine/rules` -/
def patch (caller : Caller) (body : Object) (s : Store) : Store :=
  match addressedRule py body s with
  | some rule => patchRule rule caller body s
  | none => s

/-- `GET /api/detection_engine/rules`, with the two members of its query -/
def read (id ruleId : Option String) (s : Store) : Option Rule :=
  match id.filter (· ≠ ""), ruleId.filter (· ≠ "") with
  | some id, _ => s.get id
  | none, some ruleId => getByRuleId (.str ruleId) s
  | none, none => none

/-- `DELETE /api/detection_engine/rules`, with the two members of its query -/
def delete (id ruleId : Option String) (s : Store) : Store :=
  match read id ruleId s with
  | some rule => s.erase rule.id
  | none => s

/-- `_BULK_ACTIONS` -/
def bulkActions : List String :=
  ["delete", "disable", "enable", "export", "duplicate", "edit", "run"]

/-- A list that is not empty, or nothing. -/
def acceptedIds : Json → Bool
  | .null => true
  | .list ids => !ids.isEmpty
  | _ => false

/-- `POST /api/detection_engine/rules/_bulk_action` -/
def bulk (drawn : Nat → String × String) (caller : Caller) (body : Object) (s : Store) : Store :=
  match Object.get body "action" with
  | .str action =>
    if acceptedIds (Object.get body "ids") && action ∈ bulkActions then
      match resolveRules py (Object.get body "ids") (Object.get body "query") s with
      | some rules => bulkAction py action rules drawn caller s
      | none => s
    else s
  | _ => s

/-! ## Requests -/

/-- A request that writes. -/
inductive Action where
  | create (id publicId : String) (caller : Caller) (body : Object)
  | createEntry (id publicId now : String) (entry : Json)
  | put (caller : Caller) (body : Object)
  | patch (caller : Caller) (body : Object)
  | delete (id ruleId : Option String)
  | bulk (drawn : Nat → String × String) (caller : Caller) (body : Object)

/-- What a request leaves. -/
def step (s : Store) : Action → Store
  | .create id publicId caller body => create id publicId caller body s
  | .createEntry id publicId now entry => createEntry py id publicId now entry s
  | .put caller body => put py caller body s
  | .patch caller body => patch py caller body s
  | .delete id ruleId => delete id ruleId s
  | .bulk drawn caller body => bulk py drawn caller body s

end EsRules

end Mockdr
