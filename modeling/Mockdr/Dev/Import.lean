import Mockdr.Dev.Snapshot

/-!
# Export and import of the whole store

`export_state` and `import_state` (`application/dev/commands.py`).

* `exportState` writes a snapshot, `importState` reads one. An import that raises leaves the store
  as it is then.
* The collections of one kind are sets in the source, which does not say in what order they are gone
  through; here it is the order in which they are written.
-/

namespace Mockdr

namespace Dev

/-! ## Writing and reading single records -/

/-- `store.save` on a collection. -/
def saveRecord (collection : String) (key : Key) (record : Stored) (records : Dict Key Stored) :
    Dict Key Stored :=
  match Assoc.get collection CAPS with
  | some cap =>
    if !records.contains key && cap ≤ records.size then records.dropOldest.set key record
    else records.set key record
  | none => records.set key record

/-- `store.save` -/
def Store.save (s : Store) (collection : String) (key : Key) (record : Stored) : Store :=
  { s with
    collections := fun name =>
      if name = collection then saveRecord collection key record (s.collections collection)
      else s.collections name }

/-- `store.clear_all` -/
def Store.clearAll (s : Store) : Store :=
  { s with collections := fun _ => .empty, activityOrder := [] }

/-- What a record of a typed collection can make raise: a `TypeError` or `KeyError`, which an import
    skips the record for, or something else. -/
inductive Raised where
  | skipped
  | uncaught

/-- `getattr(o, name)` -/
def getAttribute (obj : Fields) (name : String) : Except Raised Value :=
  match Assoc.get name obj with
  | some v => .ok v
  | none => .error .uncaught

variable (py : DevPython)

/-- The key of an object by its rule. -/
def KeyRule.keyOf (obj : Fields) : KeyRule → Except Raised String
  | .attr name => do
    let v ← getAttribute obj name
    .ok (v.toStr py)
  | .joined sep names => do
    let vs ← names.mapM (getAttribute obj)
    .ok (sep.intercalate (vs.map fun v => v.toStr py))
  | .member name key => do
    match ← getAttribute obj name with
    | .json (.dict members) =>
      match Assoc.get key members with
      | some v => .ok (py.toPython.toStr v)
      | none => .error .skipped
    | _ => .error .skipped

/-- `_store_key` -/
def storeKey (collection : String) (obj : Fields) : Except Raised String :=
  (keyRule collection).keyOf py obj

/-- `cls(**record)`: every argument is a field, and a field without one has a default. -/
def construct (fields : List (String × Option Value)) (record : Fields) : Option Fields :=
  if record.all fun p => (fields.map Prod.fst).contains p.1 then
    fields.mapM fun (name, default) => ((Assoc.get name record).or default).map (name, ·)
  else none

/-- `base64.b64decode(s)`, nothing where it raises. -/
def b64decode (s : String) : Option (List UInt8) :=
  if s.toList.all fun c => c.toNat < 128 then Base64.decode s.toList else none

lemma b64decode_encode (b : List UInt8) :
    b64decode (String.ofList (Base64.encode b)) = some b := by
  rw [b64decode, String.toList_ofList, if_pos, Base64.decode_encode]
  rw [List.all_eq_true]
  exact fun c hc => decide_eq_true (Base64.toNat_lt_of_mem_encode hc)

/-! ## Loading a snapshot -/

/-- The store while it is loaded, and the counts of the answer. -/
structure Loading where
  store : Store
  total : Nat
  skipped : Nat
  migrated : Nat

/-- A record that was loaded. -/
def Loading.saved (l : Loading) (collection : String) (key : Key) (record : Stored) : Loading :=
  { l with store := l.store.save collection key record, total := l.total + 1 }

/-- A record that was skipped. -/
def Loading.skip (l : Loading) : Loading := { l with skipped := l.skipped + 1 }

variable (classes : Classes)

/-- The object a record makes, and the key it is filed under. -/
def readRecord (collection : String) (record : Fields) : Except Raised (String × Fields) :=
  match construct (classes.fields collection) record with
  | none => .error .skipped
  | some obj => (storeKey py collection obj).map fun key => (key, obj)

/-- One turn of the loop over the records of a typed collection. What is raised and not caught
    leaves the store as it is then. -/
def loadRecord (collection : String) (l : Loading) : Option Fields → Except Store Loading
  | none => .ok l.skip
  | some record =>
    let rewritten := migrateRecord py collection record
    let l := { l with migrated := l.migrated + rewritten.2.toNat }
    match readRecord py classes collection rewritten.1 with
    | .ok read => .ok (l.saved collection (.str read.1) (.object read.2))
    | .error .skipped => .ok l.skip
    | .error .uncaught => .error l.store

/-- The loop over the records of a typed collection. -/
def loadTyped (snapshot : Snapshot) (l : Loading) (collection : String) : Except Store Loading :=
  ((snapshot.recordsOf collection).getD []).foldlM (loadRecord py classes collection) l

/-- Save entries as they are. -/
def loadEntries (collection : String) (l : Loading) (entries : List (Key × Stored)) : Loading :=
  entries.foldl (fun l p => l.saved collection p.1 p.2) l

/-- The key of a record in a list of an older snapshot. -/
def rawId (collection : String) (record : Object) : Json :=
  (Assoc.get (if collection = "api_tokens" then "token" else "id") record).getD (.str "")

/-- One turn of the loop over a list of an older snapshot. -/
def loadRawRecord (collection : String) (l : Loading) : Json → Except Store Loading
  | .dict record =>
    let recordId := rawId collection record
    if !recordId.truthy then .ok l
    else
      match hashKey recordId with
      | some key => .ok (l.saved collection key (.value (.json (.dict record))))
      | none => .error l.store
  | _ => .ok l

/-- `_import_raw` -/
def importRaw (snapshot : Snapshot) (l : Loading) (collection : String) : Except Store Loading :=
  match snapshot.others collection with
  | some (.json (.list records)) => records.foldlM (loadRawRecord collection) l
  | some m => .ok (loadEntries collection l (m.asDict.getD []))
  | none => .ok l

/-- The loop over the entries of a binary collection: what cannot be decoded is left out. -/
def loadBinary (snapshot : Snapshot) (l : Loading) (collection : String) : Loading :=
  let entries := ((snapshot.others collection).bind EntryMember.asDict).getD []
  loadEntries collection l (entries.filterMap fun (key, encoded) =>
    (b64decode (encoded.toStr py)).map fun b => (key, .value (.bytes b)))

/-- The loop over the entries of a mapping collection. -/
def loadMapping (snapshot : Snapshot) (l : Loading) (collection : String) : Loading :=
  loadEntries collection l (((snapshot.others collection).bind EntryMember.asDict).getD [])

/-! ## The order of the activities -/

mutual

/-- `a < b`, nothing where Python cannot compare the two. -/
def ltJson : Json → Json → Option Bool
  | .str a, .str b => some (a < b)
  | .list as, .list bs => ltList as bs
  | a, b =>
    match a.number, b.number with
    | some p, some q => some (p < q)
    | _, _ => none

/-- Lists compare by the first elements that differ. -/
def ltList : List Json → List Json → Option Bool
  | [], bs => some !bs.isEmpty
  | _ :: _, [] => some false
  | a :: as, b :: bs => if Json.eq a b then ltList as bs else ltJson a b

end

/-- `a < b` on the values of fields. -/
def ltValue : Value → Value → Option Bool
  | .json a, .json b => ltJson a b
  | .bytes a, .bytes b => some (a < b)
  | _, _ => none

/-- Put a record into records sorted by a key, the largest first, behind those of the same key. -/
def insertDescending (key : Fields → Value) (record : Fields) :
    List Fields → Option (List Fields)
  | [] => some [record]
  | other :: rest => do
    if ← ltValue (key other) (key record) then some (record :: other :: rest)
    else
      let rest ← insertDescending key record rest
      some (other :: rest)

/-- `sorted(records, key=key, reverse=True)`, nothing where two keys cannot be compared. The sort is
    stable; which keys a sort compares is not documented, here it is what an insertion compares. -/
def sortedDescending (key : Fields → Value) (records : List Fields) : Option (List Fields) :=
  records.foldlM (fun sorted record => insertDescending key record sorted) []

/-- `a.get("createdAt", "")` -/
def createdAt (activity : Fields) : Value :=
  (Assoc.get "createdAt" activity).getD (.json (.str ""))

/-- `a["id"]`, nothing where there is none; an id is no bytes. -/
def activityId (activity : Fields) : Option Json :=
  match Assoc.get "id" activity with
  | some (.json v) => some v
  | _ => none

/-- The activities of a snapshot. -/
def Snapshot.activities (snapshot : Snapshot) : List Fields :=
  ((snapshot.recordsOf "activities").getD []).filterMap id

/-- The order that is rebuilt for a snapshot from before there was one. -/
def rebuiltOrder (activities : List Fields) : Option (List Json) := do
  let sorted ← sortedDescending createdAt activities
  sorted.mapM activityId

/-- The order of the activities that a snapshot asks for; the checks before have seen to it that one
    that is not empty is a list. -/
def restoreOrder (snapshot : Snapshot) (l : Loading) : Except Store Loading :=
  match snapshot.activityOrder with
  | some (.list (first :: rest)) =>
    .ok { l with store := { l.store with
            activityOrder := InMemoryStore.bounded (first :: rest) } }
  | _ =>
    match snapshot.activities with
    | [] => .ok l
    | activities =>
      match rebuiltOrder activities with
      | some order =>
        .ok { l with store := { l.store with activityOrder := InMemoryStore.bounded order } }
      | none => .error l.store

/-! ## Import and export -/

variable (egress : Egress)

/-- The settings of the proxy, if the snapshot has any. -/
def restoreSettings (snapshot : Snapshot) (l : Loading) : Loading :=
  match snapshot.proxyConfig with
  | some settings =>
    { l with store := { l.store with
        proxy := restoreProxy py.toPython egress l.store.proxy settings } }
  | none => l

/-- `_load_snapshot` -/
def loadSnapshot (s : Store) (snapshot : Snapshot) : Except Store Loading := do
  let l ← typedNames.foldlM (loadTyped py classes snapshot) ⟨s.clearAll, 0, 0, 0⟩
  let l ← RAW_COLLECTIONS.foldlM (importRaw snapshot) l
  let l := BINARY_COLLECTIONS.foldl (loadBinary py snapshot) l
  let l := MAPPING_COLLECTIONS.foldl (loadMapping snapshot) l
  let l ← restoreOrder snapshot l
  .ok (restoreSettings py egress snapshot l)

/-- `store.get(name, key) is None` -/
def missing (s : Store) (name : String) (key : Key) : Bool :=
  match (s.collections name).get key with
  | none => true
  | some (.value (.json .null)) => true
  | _ => false

/-- Put back the credentials that were issued and that the snapshot does not carry. -/
def putBack (issued : Store) (s : Store) : Store :=
  PRESERVED_ACROSS_IMPORT.foldl (fun s name =>
    (issued.collections name).entries.foldl (fun s p =>
      if missing s name p.1 then s.save name p.1 p.2 else s) s) s

/-- What an import is refused with, or that something on the way was not caught. -/
inductive Failure where
  | refused (message : String)
  | uncaught

/-- The checks before anything is cleared. -/
def refusal (snapshot : Snapshot) : Option String :=
  match typedNames.find? fun c => (snapshot.recordsOf c).isNone with
  | some collection => some ("'" ++ collection ++ "' must be a list of records")
  | none =>
    let isList := match snapshot.activityOrder with
      | some (.list _) => true
      | some v => !v.truthy
      | none => true
    if !isList || ((snapshot.recordsOf "activities").getD []).any Option.isNone then
      some "'activities' and '_activity_order' must be lists"
    else none

/-- `import_state`: the store afterwards, and the counts of imported, skipped and
    migrated records. -/
def importState (s : Store) (snapshot : Snapshot) :
    Store × Except Failure (Nat × Nat × Nat) :=
  match refusal snapshot with
  | some message => (s, .error (.refused message))
  | none =>
    match loadSnapshot py classes egress s snapshot with
    | .ok l => (putBack s l.store, .ok (l.total, l.skipped, l.migrated))
    | .error left => (left, .error .uncaught)

/-- `record_dict`, which only takes an object of a class. -/
def recordDict : Stored → Option Fields
  | .object fields => some fields
  | .value _ => none

/-- An entry of a binary collection as an export writes it, if it is one of bytes. -/
def encodedEntry : Key × Stored → Option (Key × Stored)
  | (key, .value (.bytes b)) =>
    some (key, .value (.json (.str (String.ofList (Base64.encode b)))))
  | _ => none

/-- What an export writes of a typed collection. -/
def exportTyped (s : Store) (collection : String) : Option (List Fields) :=
  (s.collections collection).entries.mapM fun p => recordDict p.2

/-- `export_state`, nothing where it raises. -/
def exportState (s : Store) : Option Snapshot :=
  if typedNames.all fun c => (exportTyped s c).isSome then
    some {
      typed := fun c => if c ∈ typedNames then (exportTyped s c).map .records else none
      others := fun c =>
        if c ∈ BINARY_COLLECTIONS then
          some (.entries ((s.collections c).entries.filterMap encodedEntry))
        else if c ∈ RAW_COLLECTIONS ∨ c ∈ MAPPING_COLLECTIONS then
          some (.entries (s.collections c).entries)
        else none
      activityOrder := some (.list s.activityOrder)
      proxyConfig := some (.dict s.proxy.recordDict) }
  else none

end Dev

end Mockdr
