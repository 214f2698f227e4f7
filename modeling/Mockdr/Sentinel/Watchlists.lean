import Mockdr.Python

/-!
# Sentinel watchlists

The commands and queries of `application/sentinel/commands/watchlists.py` and
`application/sentinel/queries/watchlists.py`, behind the routes of `sentinel_watchlists.py`.

* `Addressing` is how a name finds a watchlist and an item. `sourceAddressing` is that of the
  source: `_stored_key` of `repository/sentinel/arm_names.py` for watchlists, the same name for
  items.
* `Action` is a request, `handle` what it answers and leaves in the store.

Times and etags that are drawn are part of the request.
-/

namespace Mockdr

namespace Watchlists

/-- An item: the `_key` it is found by, and its columns. -/
structure Item where
  key : String
  columns : Object

/-- `SentinelWatchlist`; its alias is the key it is stored under. -/
structure Watchlist where
  display_name : Json
  description : Json
  items_search_key : Json
  provider : Json
  source : Json
  created : String
  updated : String
  etag : String
  items : List Item

/-- The watchlists by their aliases. -/
abbrev Store := Dict String Watchlist

/-- How a name finds the key of a watchlist, and an item. -/
structure Addressing where
  watchlist : Store → String → Option String
  item : String → Item → Bool

/-- `_stored_key` -/
def storedKey (casefold : String → String) (s : Store) (id : String) : Option String :=
  if s.contains id then some id else s.keys.find? fun key => casefold key = casefold id

/-- How the source finds watchlists and items. -/
def sourceAddressing (casefold : String → String) : Addressing where
  watchlist := storedKey casefold
  item name it := it.key = name

variable (addressing : Addressing)

/-- The watchlist that a name finds, with its key. -/
def find (s : Store) (watchlistAlias : String) : Option (String × Watchlist) :=
  (addressing.watchlist s watchlistAlias).bind fun key => (s.get key).map (key, ·)

/-! ## Commands -/

/-- `name in properties` and, if so, `properties[name]`, for properties of any type; an error where
    either raises. -/
def member (name : String) : Json → Except Unit (Option Json)
  | .dict properties => .ok (Assoc.get name properties)
  | .list values => if values.any fun v => v.eq (.str name) then .error () else .ok none
  | .str text => if hasSub name text then .error () else .ok none
  | _ => .error ()

/-- `properties.get(name, default)`, an error where it raises. -/
def getOr (name : String) (default : Json) : Json → Except Unit Json
  | .dict properties => .ok ((Assoc.get name properties).getD default)
  | _ => .error ()

/-- The first part of `create_or_update_watchlist`, for a watchlist that is there. -/
def updated (properties : Json) (now etag : String) (w : Watchlist) : Except Unit Watchlist := do
  let display_name ← member "displayName" properties
  let description ← member "description" properties
  let items_search_key ← member "itemsSearchKey" properties
  .ok { w with
    display_name := display_name.getD w.display_name
    description := description.getD w.description
    items_search_key := items_search_key.getD w.items_search_key
    updated := now
    etag }

/-- The second part, for a new one. -/
def made (watchlistAlias : String) (properties : Json) (now etag : String) :
    Except Unit Watchlist := do
  let display_name ← getOr "displayName" (.str watchlistAlias) properties
  let description ← getOr "description" (.str "") properties
  let items_search_key ← getOr "itemsSearchKey" (.str "") properties
  let provider ← getOr "provider" (.str "Microsoft") properties
  let source ← getOr "source" (.str "Local file") properties
  .ok ⟨display_name, description, items_search_key, provider, source, now, now, etag, []⟩

/-- `create_or_update_watchlist`, and whether there was one. -/
def putWatchlist (watchlistAlias : String) (properties : Json) (now etag : String) (s : Store) :
    Except Unit (Store × Bool) :=
  match find addressing s watchlistAlias with
  | some (key, w) => (updated properties now etag w).map fun w => (s.set key w, true)
  | none => (made watchlistAlias properties now etag).map fun w => (s.set watchlistAlias w, false)

/-- The columns that `create_or_update_watchlist_item` stores. -/
def readColumns (properties : Json) : Except Unit Object :=
  match getOr "itemsKeyValue" properties properties with
  | .ok (.str value) => .ok [("value", .str value)]
  | .ok (.dict columns) => .ok (columns.filter fun p => p.1 ≠ "_key")
  | _ => .error ()

/-- Replace the columns of the item that is found, or append one. -/
def upsert (found : Item → Bool) (made : Item) : List Item → List Item
  | [] => [made]
  | it :: items =>
    if found it then { it with columns := made.columns } :: items
    else it :: upsert found made items

/-! ## Requests -/

/-- A resource of an answer: its name, its properties and its etag. -/
structure Resource where
  name : String
  properties : Object
  etag : String

/-- What a request answers. -/
inductive Response where
  | resource (r : Resource)
  | resources (rs : List Resource)
  | written (created : Bool) (r : Resource)
  | deleted (existed : Bool)
  | badRequest
  | notFound
  | raised

/-- The properties of a watchlist that a client reads. -/
def shownProperties (w : Watchlist) : Object :=
  [("displayName", w.display_name), ("description", w.description), ("provider", w.provider),
    ("source", w.source), ("itemsSearchKey", w.items_search_key), ("contentType", .str "text/csv"),
    ("created", .str w.created), ("updated", .str w.updated)]

/-- A watchlist in an answer. -/
def shown (p : String × Watchlist) : Resource := ⟨p.1, shownProperties p.2, p.2.etag⟩

/-- A watchlist in the answer to a list. -/
def listed (p : String × Watchlist) : Resource :=
  ⟨p.1, shownProperties p.2 ++ [("numberOfLinesToSkip", .int 0)], p.2.etag⟩

/-- An item in an answer. -/
def shownItem (etag name : String) (columns : Object) : Resource :=
  ⟨name, [("itemsKeyValue", .dict columns)], etag⟩

/-- A request. -/
inductive Action where
  | listWatchlists
  | getWatchlist (watchlistAlias : String)
  | putWatchlist (watchlistAlias : String) (body : Json) (now etag : String)
  | deleteWatchlist (watchlistAlias : String)
  | listItems (watchlistAlias : String)
  | getItem (watchlistAlias name : String)
  | putItem (watchlistAlias name : String) (body : Json)
  | deleteItem (watchlistAlias name : String)

/-- The properties of a body. -/
def properties (body : Object) : Json := (Assoc.get "properties" body).getD (.dict [])

/-- Answer a request. -/
def handle (s : Store) : Action → Store × Response
  | .listWatchlists => (s, .resources (s.entries.map listed))
  | .getWatchlist watchlistAlias =>
    match find addressing s watchlistAlias with
    | some found => (s, .resource (shown found))
    | none => (s, .notFound)
  | .putWatchlist watchlistAlias body now etag =>
    match body with
    | .dict body =>
      match putWatchlist addressing watchlistAlias (properties body) now etag s with
      | .ok (s, existed) =>
        match find addressing s watchlistAlias with
        | some found => (s, .written (!existed) (shown found))
        | none => (s, .notFound)
      | .error () => (s, .raised)
    | _ => (s, .badRequest)
  | .deleteWatchlist watchlistAlias =>
    match find addressing s watchlistAlias with
    | some (key, _) => (s.erase key, .deleted true)
    | none => (s, .deleted false)
  | .listItems watchlistAlias =>
    match find addressing s watchlistAlias with
    | some (_, w) => (s, .resources (w.items.map fun it => shownItem w.etag it.key it.columns))
    | none => (s, .notFound)
  | .getItem watchlistAlias name =>
    match find addressing s watchlistAlias with
    | some (_, w) =>
      match w.items.find? (addressing.item name) with
      | some it => (s, .resource (shownItem w.etag name it.columns))
      | none => (s, .notFound)
    | none => (s, .notFound)
  | .putItem watchlistAlias name body =>
    match body with
    | .dict body =>
      match find addressing s watchlistAlias with
      | some (key, w) =>
        match readColumns (properties body) with
        | .ok columns =>
          let existed := w.items.any (addressing.item name)
          let items := upsert (addressing.item name) ⟨name, columns⟩ w.items
          -- an answer without columns is taken for one without a watchlist
          (s.set key { w with items },
            if columns.isEmpty then .notFound
            else .written (!existed) (shownItem "" name columns))
        | .error () => (s, .raised)
      | none => (s, .notFound)
    | _ => (s, .badRequest)
  | .deleteItem watchlistAlias name =>
    match find addressing s watchlistAlias with
    | some (key, w) =>
      if w.items.any (addressing.item name) then
        let items := w.items.filter fun it => !addressing.item name it
        (s.set key { w with items }, .deleted true)
      else (s, .deleted false)
    | none => (s, .notFound)

/-- What a request leaves in the store. -/
def step (s : Store) (a : Action) : Store := (handle addressing s a).1

end Watchlists

end Mockdr
