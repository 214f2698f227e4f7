import Mockdr.CrowdStrike.Fql

/-!
# Falcon host groups

The commands of `application/cs_host_groups/commands.py` on groups and their members, and the routes
of `api/routers/cs_host_groups.py` that call them. A host keeps the ids of its groups.

* `Action` is a request, `handle` what it answers and leaves in the store.
* What else a host carries is a type of its own. Ids that are drawn and the time are part of the
  request.
-/

namespace Mockdr

namespace HostGroups

open Fql (parseFql FqlClause)

/-- `CsHost`: its groups, the time of its last change, and the details nothing here reads. -/
structure CsHost (δ : Type) where
  groups : List Json
  modified_timestamp : String
  details : δ

/-- The groups, by the names of their attributes, and the hosts. -/
structure Store (δ : Type) where
  groups : Dict String Object
  hosts : Dict String (CsHost δ)

variable {δ : Type} (py : Python)

/-! ## Commands -/

/-- `data.get(name, default)` -/
def arg (data : Object) (name : String) (default : Json) : Json :=
  (Assoc.get name data).getD default

/-- `create_host_groups`, the ids drawn for the groups. -/
def createHostGroups (now : String) (resources : List (String × Object)) (s : Store δ) : Store δ :=
  let made (body : Object) : Object :=
    [("name", arg body "name" (.str "")), ("description", arg body "description" (.str "")),
      ("group_type", arg body "group_type" (.str "static")),
      ("assignment_rule", arg body "assignment_rule" (.str "")),
      ("created_by", arg body "created_by" (.str "api-client")), ("created_timestamp", .str now),
      ("modified_by", arg body "modified_by" (.str "api-client")), ("modified_timestamp", .str now)]
  { s with
    groups := resources.foldl (fun groups (id, body) => groups.set id (made body)) s.groups }

/-- `group_id in host.groups` -/
def CsHost.isIn (host : CsHost δ) (group : Json) : Bool := host.groups.any fun g => g.eq group

/-- `[g for g in host.groups if g != group_id]` -/
def CsHost.leave (host : CsHost δ) (group : Json) : CsHost δ :=
  { host with groups := host.groups.filter fun g => !g.eq group }

/-- `host.groups.append(group_id)`, unless it is there. -/
def CsHost.join (host : CsHost δ) (group : Json) : CsHost δ :=
  if host.isIn group then host else { host with groups := host.groups ++ [group] }

/-- One id of `delete_host_groups`. -/
def deleteHostGroup (s : Store δ) (id : String) : Store δ :=
  if s.groups.contains id then
    { groups := s.groups.erase id
      hosts := s.hosts.mapValues fun host =>
        if host.isIn (.str id) then host.leave (.str id) else host }
  else s

/-- `delete_host_groups` -/
def deleteHostGroups (ids : List String) (s : Store δ) : Store δ := ids.foldl deleteHostGroup s

/-- What the action does to a host. -/
def CsHost.act (adds : Bool) (now : String) (group : Json) (host : CsHost δ) : CsHost δ :=
  { (if adds then host.join group else host.leave group) with modified_timestamp := now }

/-- `manage_group_members`, with `add-hosts` or `remove-hosts`. -/
def manageGroupMembers (adds : Bool) (now : String) (hostIds : List String) (s : Store δ)
    (group : Json) : Store δ :=
  { s with
    hosts := hostIds.foldl
      (fun hosts id =>
        match hosts.get id with
        | some host => hosts.set id (host.act adds now group)
        | none => hosts)
      s.hosts }

/-! ## Requests -/

/-- What a request answers. -/
inductive Response where
  | ok
  | badRequest
  | raised
  deriving DecidableEq

/-- `require_list` -/
def requireList (body : Object) (key : String) : Except Response (List Json) :=
  match Assoc.get key body with
  | none => .ok []
  | some (.list values) => .ok values
  | some _ => .error .badRequest

/-- The members of a resource that a group is created from. -/
def readResource (resource : Json) : Except Response Object :=
  let body : Except Response Object :=
    if !resource.truthy then .ok []
    else
      match resource with
      | .dict body => .ok body
      | _ => .error .raised
  match body with
  | .ok body =>
    if ["name", "group_type"].all fun f => (Object.get body f).truthy then .ok body
    else .error .badRequest
  | .error e => .error e

/-- The resources of a body. -/
def readResources (body : Object) : Except Response (List Object) :=
  match requireList body "resources" with
  | .ok [] => .error .badRequest
  | .ok resources => resources.mapM readResource
  | .error e => .error e

/-- The ids of the hosts that a filter parameter names. -/
def filterIds (value : Json) : Except Response (List String) :=
  match parseFql (py.toStr value).toList with
  | .ok clauses =>
    .ok ((clauses.filter fun clause => clause.field = "device_id").flatMap FqlClause.values)
  | .error (.fqlError _) => .ok []
  | .error .uncaught => .error .raised

/-- The ids of the hosts that a parameter of an action names. -/
def paramIds : Json → Except Response (List String)
  | .dict param =>
    match Object.get param "name" with
    | .str "filter" => filterIds py (arg param "value" (.str ""))
    | _ => .ok []
  | _ => .error .raised

/-- The ids of the hosts that the parameters of an action name. -/
def readHostIds (params : List Json) : Except Response (List String) :=
  (params.mapM (paramIds py)).map List.flatten

/-- The groups and the hosts of an action, and whether it adds. -/
def readAction (name : String) (body : Object) :
    Except Response (Bool × List Json × List String) := do
  if name ≠ "add-hosts" ∧ name ≠ "remove-hosts" then .error .badRequest
  let groups ← requireList body "ids"
  if groups.isEmpty then .error .badRequest
  let params ← requireList body "action_parameters"
  let hosts ← readHostIds py params
  .ok (name = "add-hosts", groups, hosts)

/-- A request. -/
inductive Action where
  | create (drawn : Nat → String) (now : String) (body : Object)
  | delete (ids : List String)
  | act (name now : String) (body : Object)

/-- Answer a request. -/
def handle (s : Store δ) : Action → Store δ × Response
  | .create drawn now body =>
    match readResources body with
    | .ok resources =>
      let named := resources.zipIdx.map fun (body, i) => (drawn i, body)
      (createHostGroups now named s, .ok)
    | .error e => (s, e)
  | .delete ids => (deleteHostGroups ids s, .ok)
  | .act name now body =>
    match readAction py name body with
    | .ok (adds, groups, hosts) => (groups.foldl (manageGroupMembers adds now hosts) s, .ok)
    | .error e => (s, e)

/-- What a request leaves in the store. -/
def step (s : Store δ) (a : Action) : Store δ := (handle py s a).1

end HostGroups

end Mockdr
