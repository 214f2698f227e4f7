import Mockdr.Equality

/-!
# Elastic exception lists

The commands of `application/es_exception_lists/commands.py` with the routes of
`api/routers/es_exception_lists.py` that write lists and items, and the queries that find them.

* `getList`, `updateTarget` and `deleteTarget` are how an identifier is resolved.
* `validList`, `validItem` are the checks of `utils/kibana_validation.py`.
* `Action` is a request, `step` what it leaves.

Lists and items are stored under their ids. Ids that are drawn and the time are part of the request.
-/

namespace Mockdr

namespace EsExceptionLists

/-- `EsExceptionList`, its other attributes by their names. -/
structure ExceptionList where
  id : String
  listId : Json
  version : Nat
  attributes : Object

/-- `EsExceptionItem`, its other attributes by their names. -/
structure Item where
  id : String
  itemId : Json
  listId : Json
  attributes : Object

/-- The lists and the items. -/
structure Store where
  lists : Dict String ExceptionList
  items : Dict String Item

variable (py : Python)

/-! ## Queries -/

/-- `es_exception_list_repo.get_by_list_id` -/
def getByListId (listId : Json) (s : Store) : Option ExceptionList :=
  (s.lists.entries.map Prod.snd).find? fun one => one.listId.eq listId

/-- `get_list` -/
def getList (listIdOrId : String) (s : Store) : Option ExceptionList :=
  match s.lists.get listIdOrId with
  | some one => some one
  | none => getByListId (.str listIdOrId) s

/-- `es_exception_item_repo`, by the `item_id` -/
def getByItemId (itemId : Json) (s : Store) : Option Item :=
  (s.items.entries.map Prod.snd).find? fun item => item.itemId.eq itemId

/-- `get_item` -/
def getItem (itemIdOrId : String) (s : Store) : Option Item :=
  match s.items.get itemIdOrId with
  | some item => some item
  | none => getByItemId (.str itemIdOrId) s

/-- `find_items`, of a list and nothing else; nothing where the list is not there -/
def findItems (listId : Json) (s : Store) : Option (List Item) :=
  let items := s.items.entries.map Prod.snd
  if listId.truthy then
    if (s.lists.entries.map Prod.snd).any fun one => one.listId.eq listId then
      some (items.filter fun item => item.listId.eq listId)
    else none
  else some items

/-! ## Bodies -/

/-- A member is left out, or one of some texts. -/
def oneOf (allowed : List String) (v : Json) : Bool :=
  match v with
  | .null => true
  | .str text => text ∈ allowed
  | _ => false

/-- A member is left out, or a text. -/
def textOrNothing (v : Json) : Bool :=
  match v with
  | .null | .str _ => true
  | _ => false

/-- `EXCEPTION_TYPES` -/
def EXCEPTION_TYPES : List String :=
  ["detection", "rule_default", "endpoint", "endpoint_trusted_apps", "endpoint_events",
    "endpoint_host_isolation_exceptions", "endpoint_blocklists"]

/-- `EXCEPTION_NAMESPACES` -/
def EXCEPTION_NAMESPACES : List String := ["single", "agnostic"]

/-- A body that `validate_exception_list_body` has nothing against. -/
def validList (body : Object) : Bool :=
  ["description", "name", "type"].all body.has
    && oneOf EXCEPTION_TYPES (Object.get body "type")
    && oneOf EXCEPTION_NAMESPACES (Object.get body "namespace_type")
    && ["name", "description", "list_id"].all (fun name => textOrNothing (Object.get body name))
    && body.all fun p => p.1 ∈ ["name", "description", "list_id", "type", "namespace_type", "tags",
      "meta", "version", "os_types"]

/-- `_entry_member_ok` -/
def entryMemberOk (entry : Object) (branch member : String) : Bool :=
  match Assoc.get member entry, member with
  | none, _ => false
  | some (.str _), "field" => true
  | some (.str operator), "operator" => operator ∈ ["included", "excluded"]
  | some (.str type), "type" => type = branch
  | some (.dict _), "list" => true
  | some (.list _), "entries" => true
  | some (.list _), "value" => branch = "match_any"
  | some (.str _), "value" => branch ≠ "match_any"
  | some _, _ => false

/-- `_ENTRY_BRANCHES` -/
def entryBranches : List (String × List String) :=
  [("match", ["field", "operator", "type", "value"]),
    ("match_any", ["field", "operator", "type", "value"]),
    ("list", ["field", "operator", "type", "list"]), ("nested", ["field", "type", "entries"])]

/-- An entry that `_entry_problems` has nothing against; it raises for an operator that a set cannot
    be asked for. -/
def entryOk : Json → Bool
  | .dict entry =>
    (hashed (Object.get entry "operator")).isSome
      && entryBranches.any fun p => p.2.all (entryMemberOk entry p.1)
  | _ => false

/-- A body that `validate_exception_item_body` has nothing against. -/
def validItem (required : List String) (body : Object) : Bool :=
  required.all body.has
    && (match Object.get body "entries" with
      | .null => true
      | .list entries => entries.all entryOk
      | _ => false)
    && oneOf ["simple"] (Object.get body "type")
    && oneOf EXCEPTION_NAMESPACES (Object.get body "namespace_type")
    && body.all fun p => p.1 ∈ ["list_id", "item_id", "id", "name", "description", "type",
      "entries", "namespace_type", "tags", "meta", "comments", "os_types", "expire_time",
      "_version"]

/-! ## Lists -/

/-- `create_list`, with the ids that are drawn -/
def createList (id listId now : String) (data : Object) (s : Store) : Store :=
  let createdBy := arg data "created_by" (.str "elastic")
  let one : ExceptionList :=
    { id := id
      listId := arg data "list_id" (.str listId)
      version := 1
      attributes :=
        [("name", arg data "name" (.str "")), ("description", arg data "description" (.str "")),
          ("type", arg data "type" (.str "detection")),
          ("namespace_type", arg data "namespace_type" (.str "single")),
          ("tags", arg data "tags" (.list [])), ("os_types", arg data "os_types" (.list [])),
          ("created_at", .str now), ("created_by", createdBy), ("updated_at", .str now),
          ("updated_by", createdBy)] }
  { s with lists := s.lists.set id one }

/-- The attributes with what a body has for those that an update writes. -/
def updated (names : List String) (now : String) (data attributes : Object) : Object :=
  let written := names.foldl (fun attributes name =>
    match Assoc.get name data with
    | some v => Assoc.set name v attributes
    | none => attributes) attributes
  Assoc.set "updated_by" (arg data "updated_by" (.str "elastic"))
    (Assoc.set "updated_at" (.str now) written)

/-- The list that `update_list` resolves a body to, nothing where it raises. -/
def updateTarget (data : Object) (s : Store) : Option ExceptionList :=
  let byListId := (Assoc.get "list_id" data).bind fun listId => getByListId listId s
  match Assoc.get "id" data with
  | none => byListId
  | some (.str id) =>
    match s.lists.get id with
    | some one => some one
    | none => byListId
  | some v => if (hashed v).isSome then byListId else none

/-- `update_list` -/
def updateList (now : String) (data : Object) (s : Store) : Store :=
  match updateTarget data s with
  | none => s
  | some one =>
    let one := { one with
      version := one.version + 1
      attributes := updated ["name", "description", "tags", "os_types", "type"] now data
        one.attributes }
    { s with lists := s.lists.set one.id one }

/-- The list that `delete_list` resolves an identifier to. -/
def deleteTarget (listId : String) (s : Store) : Option ExceptionList :=
  match getByListId (.str listId) s with
  | some one => some one
  | none => s.lists.get listId

/-- `delete_list` -/
def deleteList (listId : String) (s : Store) : Store :=
  match deleteTarget listId s with
  | none => s
  | some one =>
    let items := (s.items.entries.map Prod.snd).filter fun item => item.listId.eq one.listId
    ⟨s.lists.erase one.id, items.foldl (fun items item => items.erase item.id) s.items⟩

/-! ## Items -/

/-- `create_item`, with the ids that are drawn -/
def createItem (id itemId now : String) (data : Object) (s : Store) : Store :=
  let createdBy := arg data "created_by" (.str "elastic")
  let item : Item :=
    { id := id
      itemId := arg data "item_id" (.str itemId)
      listId := arg data "list_id" (.str "")
      attributes :=
        [("name", arg data "name" (.str "")), ("description", arg data "description" (.str "")),
          ("type", arg data "type" (.str "simple")),
          ("namespace_type", arg data "namespace_type" (.str "single")),
          ("entries", arg data "entries" (.list [])), ("os_types", arg data "os_types" (.list [])),
          ("tags", arg data "tags" (.list [])), ("created_at", .str now), ("created_by", createdBy),
          ("updated_at", .str now), ("updated_by", createdBy)] }
  { s with items := s.items.set id item }

/-- The item that `update_item` resolves a body to, nothing where it raises. -/
def itemTarget (data : Object) (s : Store) : Option Item :=
  let byItemId := (Assoc.get "item_id" data).bind fun itemId => getByItemId itemId s
  match Assoc.get "id" data with
  | none => byItemId
  | some (.str id) =>
    match s.items.get id with
    | some item => some item
    | none => byItemId
  | some v => if (hashed v).isSome then byItemId else none

/-- `update_item` -/
def updateItem (now : String) (data : Object) (s : Store) : Store :=
  match itemTarget data s with
  | none => s
  | some item =>
    let item := { item with
      attributes := updated ["name", "description", "entries", "os_types", "tags", "type"] now data
        item.attributes }
    { s with items := s.items.set item.id item }

/-- `delete_item` -/
def deleteItem (itemId : String) (s : Store) : Store :=
  match s.items.get itemId with
  | some _ => { s with items := s.items.erase itemId }
  | none =>
    match getByItemId (.str itemId) s with
    | some item => { s with items := s.items.erase item.id }
    | none => s

/-! ## Routes -/

/-- `list_id or id`, of a query -/
def lookup (listId id : Option String) : Option String :=
  (listId.filter (· ≠ "")).orElse fun _ => id.filter (· ≠ "")

/-- The list that the route of `create_item` finds for a body. -/
def itemList (body : Object) (s : Store) : Option ExceptionList :=
  getList (py.toStr (arg body "list_id" (.str ""))) s

/-- An item that is there has the `item_id` of a body. -/
def itemClash (body : Object) (s : Store) : Bool :=
  let itemId := Object.get body "item_id"
  itemId.truthy && (getItem (py.toStr itemId) s).isSome

/-- A body that the route of `create_item` makes an item of. -/
def acceptsItem (body : Object) (s : Store) : Bool :=
  validItem ["description", "entries", "list_id", "name", "type"] body
    && (itemList py body s).isSome && !itemClash py body s

/-- A request that writes. -/
inductive Action where
  | createList (id listId now : String) (body : Object)
  | updateList (now : String) (body : Object)
  | deleteList (listId id : Option String)
  | createItem (id itemId now : String) (body : Object)
  | updateItem (now : String) (body : Object)
  | deleteItem (itemId id : Option String)

/-- What a request leaves. -/
def step (s : Store) : Action → Store
  | .createList id listId now body => if validList body then createList id listId now body s else s
  | .updateList now body => updateList now body s
  | .deleteList listId id =>
    match lookup listId id with
    | some listId => deleteList listId s
    | none => s
  | .createItem id itemId now body =>
    if acceptsItem py body s then createItem id itemId now body s else s
  | .updateItem now body =>
    if validItem ["description", "entries", "name", "type"] body
      && ((Object.get body "id").truthy || (Object.get body "item_id").truthy)
    then updateItem now body s
    else s
  | .deleteItem itemId id =>
    match lookup itemId id with
    | some itemId => deleteItem itemId s
    | none => s

end EsExceptionLists

end Mockdr
