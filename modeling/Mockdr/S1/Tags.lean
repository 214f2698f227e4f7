import Mathlib
import Mockdr.Equality

/-!
# SentinelOne tags

The definitions of tags and the copies of them that agents carry.

* `createTag`, `updateTag`, `deleteTag` and `deleteTags` are the commands of
  `application/tags/commands.py`, `manageTags` the action `manage-tags` of
  `application/agents/commands.py`, for the agents that it was resolved to.
* `Action` is a request, `step` what it leaves.

Definitions and agents are stored under their ids. The ids that are drawn are part of the requests.
-/

namespace Mockdr

namespace Tags

/-- `Tag` -/
structure Tag where
  key : Json
  value : Json
  type : Json
  description : Json
  scopeId : String
  scopeLevel : String
  scopePath : String
  createdAt : String
  updatedAt : String
  createdBy : String
  updatedBy : String
  createdById : String
  updatedById : String

/-- An entry of `agent.tags["sentinelone"]`. -/
structure Entry where
  id : String
  key : Json
  value : Json
  assignedAt : String
  assignedBy : String
  assignedById : String

/-- An agent, with its tags. -/
structure Agent (δ : Type) where
  sentinelone : List Entry
  rest : δ

/-- The definitions and the agents. -/
structure Store (δ : Type) where
  tags : Dict String Tag
  agents : Dict String (Agent δ)

/-- The built-ins, and the scope that a filter names: its level, its id and its path
    (`resolve_scope` of `application/scopes.py`). -/
structure TagPython extends Python where
  resolveScope : Object → String × String × String

variable {δ : Type} (py : TagPython)

/-! ## Definitions -/

/-- Who does something, and when. -/
structure Actor where
  userName : String
  userId : String
  now : String

/-- `create_tag`, with the id that is drawn -/
def createTag (id : String) (by_ : Actor) (data filter : Object) (s : Store δ) : Store δ :=
  let text (name : String) :=
    let v := Object.get data name
    strip (if v.truthy then py.toStr v else "")
  if ["key", "value", "type"].any fun name => text name = "" then s
  else
    let (scopeLevel, scopeId, scopePath) := py.resolveScope filter
    let member (name default : String) := (Assoc.get name data).getD (.str default)
    ⟨s.tags.set id
      { key := member "key" ""
        value := member "value" ""
        type := member "type" "agents"
        description := member "description" ""
        scopeId, scopeLevel, scopePath
        createdAt := by_.now
        updatedAt := by_.now
        createdBy := by_.userName
        updatedBy := by_.userName
        createdById := by_.userId
        updatedById := by_.userId },
      s.agents⟩

/-- Copy a definition to the entries that name it. -/
def retag (id : String) (tag : Tag) (agent : Agent δ) : Agent δ :=
  { agent with sentinelone := agent.sentinelone.map fun entry =>
      if entry.id = id then { entry with key := tag.key, value := tag.value } else entry }

/-- A definition with the members of a body. -/
def Tag.updated (by_ : Actor) (data : Object) (tag : Tag) : Tag :=
  { tag with
    key := (Assoc.get "key" data).getD tag.key
    value := (Assoc.get "value" data).getD tag.value
    description := (Assoc.get "description" data).getD tag.description
    updatedAt := by_.now
    updatedBy := by_.userName
    updatedById := by_.userId }

/-- `update_tag` -/
def updateTag (id : String) (by_ : Actor) (data : Object) (s : Store δ) : Store δ :=
  match s.tags.get id with
  | none => s
  | some tag =>
    let tag := tag.updated by_ data
    ⟨s.tags.set id tag, s.agents.mapValues (retag id tag)⟩

/-- Drop the entries that name a definition. -/
def untag (id : String) (agent : Agent δ) : Agent δ :=
  { agent with sentinelone := agent.sentinelone.filter fun entry => entry.id ≠ id }

/-- `delete_tag` -/
def deleteTag (id : String) (s : Store δ) : Store δ :=
  ⟨s.tags.erase id, s.agents.mapValues (untag id)⟩

/-- The ids of `tagIds`, nothing for a value that ids cannot be looked for in. -/
def tagIdsOf (v : Json) : Option (List Json) :=
  if v.truthy then
    match v with
    | .str text => some (((split ',' text).filter (· ≠ "")).map .str)
    | .list ids => some ids
    | .dict members => some (members.map fun p => .str p.1)
    | _ => none
  else some []

/-- The definitions that `delete_tags` selects, nothing where it raises. -/
def selectedTags (filter : Object) (tags : Dict String Tag) : Option (List String) := do
  let tagIds ← tagIdsOf (Object.get filter "tagIds")
  let excluded := Object.get filter "tagIdsExcluded"
  let excluded ← (← if excluded.truthy then excluded.iterate else some []).mapM hashed
  let query := Object.get filter "query"
  let query := py.lower (if query.truthy then py.toStr query else "")
  let (scopeLevel, scopeId, _) := py.resolveScope filter
  let hasScope := ["tenant", "groupIds", "siteIds", "accountIds"].any fun name =>
    (Object.get filter name).truthy
  if filter.isEmpty || tagIds.isEmpty && query = "" && !hasScope then none
  else
    let lower (v : Json) := py.lower (if v.truthy then py.toStr v else "")
    some ((tags.entries.filter fun p =>
      .text p.1 ∉ excluded
        && (tagIds.isEmpty || tagIds.any fun v => v.eq (.str p.1))
        && (query = "" || hasSub query
          (lower p.2.key ++ " " ++ lower p.2.value ++ " " ++ lower p.2.description))
        && (!hasScope || !tagIds.isEmpty || (p.2.scopeLevel, p.2.scopeId) = (scopeLevel, scopeId)))
      |>.map Prod.fst)

/-- `delete_tags` -/
def deleteTags (filter : Object) (s : Store δ) : Store δ :=
  match selectedTags py filter s.tags with
  | some ids => ids.foldl (fun s id => deleteTag id s) s
  | none => s

/-! ## Assignments -/

/-- The entry that is made of a definition. -/
def assignment (id : String) (key value : Json) (by_ : Actor) : Entry where
  id := id
  key := key
  value := value
  assignedAt := by_.now
  assignedBy := "user"
  assignedById := by_.userId

/-- `tag_repo.get(tag_id)`, nothing where it raises. -/
def tagById (tags : Dict String Tag) (tagId : Json) : Option (Option (String × Tag)) :=
  match tagId with
  | .str id => some ((tags.get id).map (Prod.mk id))
  | v => (hashed v).map fun _ => none

/-- `{"tagId": ..., "operation": "add|remove|override"}`, nothing where it raises. -/
def applyOperation (tags : Dict String Tag) (by_ : Actor) (current : List Entry) (op : Json) :
    Option (List Entry) :=
  match op with
  | .dict op => do
    let tagId := (Assoc.get "tagId" op).getD (.str "")
    let operation := (Assoc.get "operation" op).getD (.str "")
    let tagDef ← tagById tags tagId
    if operation.eq (.str "remove") then
      some (current.filter fun entry => !(Json.str entry.id).eq tagId)
    else
      match tagDef with
      | none => some current
      | some (id, tag) =>
        if operation.eq (.str "override") then some [assignment id tag.key tag.value by_]
        else if operation.eq (.str "add") && id ∉ current.map Entry.id then
          some (current ++ [assignment id tag.key tag.value by_])
        else some current
  | _ => none

/-- `_tag_by_key().get(key)`, nothing where it raises: of definitions with one key the last. -/
def tagByKey (tags : Dict String Tag) (key : Hash) : Option (Option (String × Tag)) :=
  if tags.entries.all fun p => (hashed p.2.key).isSome then
    some (tags.entries.filter fun p => hashed p.2.key = some key).getLast?
  else none

/-- One round of the loop over `tagsToAdd`, nothing where it raises. -/
def addKey (tags : Dict String Tag) (by_ : Actor) (drawn : Nat → String) (existing : List Hash)
    (current : List Entry) (p : Json × Nat) : Option (List Entry) := do
  let key ← hashed p.1
  if key ∈ existing then some current
  else
    match ← tagByKey tags key with
    | some (id, tag) => some (current ++ [assignment id p.1 tag.value by_])
    | none => some (current ++ [assignment (drawn p.2) p.1 p.1 by_])

-- the membership test below carries this proof by its name
local instance lawfulKey : LawfulBEq (Option Hash) := inferInstance

/-- `{"tagsToAdd": [...], "tagsToRemove": [...]}`, nothing where it raises. -/
def applyKeys (tags : Dict String Tag) (by_ : Actor) (drawn : Nat → String) (data : Object)
    (current : List Entry) : Option (List Entry) := do
  let keys ← ((Assoc.get "tagsToAdd" data).getD (.list [])).iterate
  let removed ← (← ((Assoc.get "tagsToRemove" data).getD (.list [])).iterate).mapM hashed
  -- a set raises when it is asked for a key that has no hash, also when it is empty
  if current.all fun entry => (hashed entry.key).isSome then
    let current := current.filter fun entry => hashed entry.key ∉ removed.map some
    let existing := current.filterMap fun entry => hashed entry.key
    keys.zipIdx.foldlM (addKey tags by_ drawn existing) current
  else none

/-- What `manage-tags` makes of the tags of an agent, nothing where it raises. -/
def managed (tags : Dict String Tag) (by_ : Actor) (drawn : Nat → String) (data : Json)
    (current : List Entry) : Option (List Entry) :=
  match data with
  | .list ops => ops.foldlM (applyOperation tags by_) current
  | .dict data => applyKeys tags by_ drawn data current
  | _ => none

/-- The loop of `execute_action` over the agents, each with its place; it ends where it raises. -/
def manageEach (by_ : Actor) (drawn : Nat → Nat → String) (data : Json) :
    List (String × Nat) → Store δ → Store δ
  | [], s => s
  | (id, i) :: ids, s =>
    match s.agents.get id with
    | none => manageEach by_ drawn data ids s
    | some agent =>
      match managed s.tags by_ (drawn i) data agent.sentinelone with
      | none => s
      | some current =>
        manageEach by_ drawn data ids
          ⟨s.tags, s.agents.set id { agent with sentinelone := current }⟩

/-- `manage-tags`, of the agents that it was resolved to -/
def manageTags (ids : List String) (by_ : Actor) (drawn : Nat → Nat → String) (data : Json)
    (s : Store δ) : Store δ :=
  manageEach by_ drawn (if data.truthy then data else .dict []) ids.zipIdx s

/-! ## Requests -/

/-- A request; `drawn` are the ids that `manage-tags` draws, by the places of the agent and of the
    key. -/
inductive Action where
  | createTag (id : String) (by_ : Actor) (data filter : Object)
  | updateTag (id : String) (by_ : Actor) (data : Object)
  | deleteTag (id : String)
  | deleteTags (filter : Object)
  | manageTags (ids : List String) (by_ : Actor) (drawn : Nat → Nat → String) (data : Json)

/-- What a request leaves. -/
def step (s : Store δ) : Action → Store δ
  | .createTag id by_ data filter => createTag py id by_ data filter s
  | .updateTag id by_ data => updateTag id by_ data s
  | .deleteTag id => deleteTag id s
  | .deleteTags filter => deleteTags py filter s
  | .manageTags ids by_ drawn data => manageTags ids by_ drawn data s

end Tags

end Mockdr
