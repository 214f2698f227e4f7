import Mockdr.Lib.Run
import Mockdr.Store

/-!
# Collections with a cap

The generic operations of `repository/store.py` on all of its collections, and the three collections
that keep a list of their keys beside them, newest first: activities, request logs and webhook-sink
deliveries.

* `Op` is an operation of the store, `apply` what it does; `StoreRun` a run from the store as it is
  made.
* `inserted` runs beside the store: the keys of each collection in the order of their last
  insertion, those since dropped for the cap among them.
* `Consistent`: every collection is within its cap and holds the keys last inserted, the activities
  are listed once each and newest first, and the key lists name what is stored.
* `consistent_iff_keepsStep`: a run is consistent at every moment exactly when no step of it goes
  around the key lists (`KeepsStep`).
-/

namespace Mockdr

/-- The three ordered collections and how many records each keeps. -/
def orderedCaps : List (String × Nat) :=
  [("activities", 10000), ("request_logs", 500), ("webhook_sink", 500)]

/-- The cap of a collection. -/
def capOf (collection : String) : Option Nat := Assoc.get collection (CAPS ++ orderedCaps)

/-- `InMemoryStore`. The collections are a function of their names: a name that the store does not
    have, which Python refuses, stands for one that is empty. -/
structure InMemoryStore (ν : Type) where
  collections : String → Dict String ν
  /-- `_activity_order`, newest first -/
  activityOrder : List String
  /-- `_request_log_order`, newest first -/
  requestLogOrder : List String
  /-- `_webhook_sink_order`, newest first -/
  webhookSinkOrder : List String

namespace InMemoryStore

variable {ν : Type}

/-- `InMemoryStore()` -/
def new : InMemoryStore ν := ⟨fun _ => .empty, [], [], []⟩

/-- Put another dictionary in the place of a collection. -/
def withCollection (s : InMemoryStore ν) (collection : String) (records : Dict String ν) :
    InMemoryStore ν :=
  { s with collections := fun name => if name = collection then records else s.collections name }

/-! ## Generic operations -/

/-- `get` -/
def get (s : InMemoryStore ν) (collection id : String) : Option ν :=
  (s.collections collection).get id

/-- `count` -/
def count (s : InMemoryStore ν) (collection : String) : Nat := (s.collections collection).size

/-- `save` -/
def save (s : InMemoryStore ν) (collection id : String) (record : ν) : InMemoryStore ν :=
  s.withCollection collection (Mockdr.save collection id record (s.collections collection))

/-- `delete`: whether the record was there, and the store without it. -/
def delete (s : InMemoryStore ν) (collection id : String) : Bool × InMemoryStore ν :=
  let records := s.collections collection
  if records.contains id then (true, s.withCollection collection (records.erase id)) else (false, s)

/-- `clear` -/
def clear (s : InMemoryStore ν) (collection : String) : InMemoryStore ν :=
  let s := s.withCollection collection .empty
  if collection = "activities" then { s with activityOrder := [] } else s

/-- `clear_all` -/
def clearAll (_ : InMemoryStore ν) : InMemoryStore ν := new

/-! ## Activities -/

/-- `collections.deque(order, maxlen=10000)`: the last 10000. -/
def bounded {α : Type} (order : List α) : List α := (order.reverse.take 10000).reverse

/-- `append_activity` -/
def appendActivity (s : InMemoryStore ν) (id : String) (record : ν) : InMemoryStore ν :=
  let records := (s.collections "activities").set id record
  let full := s.activityOrder.length = 10000
  let evicted := if full then s.activityOrder.getLast? else none
  let order := id :: if full then s.activityOrder.dropLast else s.activityOrder
  let records := match evicted with
    | some key => if key = id then records else records.erase key
    | none => records
  { s.withCollection "activities" records with activityOrder := order }

/-- `list_activities` -/
def listActivities (s : InMemoryStore ν) : List ν :=
  s.activityOrder.filterMap (s.collections "activities").get

/-- `get_activity_order` -/
def getActivityOrder (s : InMemoryStore ν) : List String := s.activityOrder

/-- `set_activity_order` -/
def setActivityOrder (s : InMemoryStore ν) (order : List String) : InMemoryStore ν :=
  { s with activityOrder := bounded order }

/-! ## Request logs and the webhook sink -/

/-- Put a record in, its key in front of the list of keys, and trim both to `cap`. -/
def insertNewest (cap : Nat) (id : String) (record : ν) (records : Dict String ν)
    (order : List String) : Dict String ν × List String :=
  let records := records.set id record
  let order := id :: order
  if cap < order.length then ((order.drop cap).foldl Dict.erase records, order.take cap)
  else (records, order)

/-- `append_request_log` -/
def appendRequestLog (s : InMemoryStore ν) (id : String) (record : ν) : InMemoryStore ν :=
  let inserted := insertNewest 500 id record (s.collections "request_logs") s.requestLogOrder
  { s.withCollection "request_logs" inserted.1 with requestLogOrder := inserted.2 }

/-- `clear_request_logs` -/
def clearRequestLogs (s : InMemoryStore ν) : InMemoryStore ν :=
  { s.withCollection "request_logs" .empty with requestLogOrder := [] }

/-- `append_webhook_sink` -/
def appendWebhookSink (s : InMemoryStore ν) (id : String) (record : ν) : InMemoryStore ν :=
  let inserted := insertNewest 500 id record (s.collections "webhook_sink") s.webhookSinkOrder
  { s.withCollection "webhook_sink" inserted.1 with webhookSinkOrder := inserted.2 }

/-- `clear_webhook_sink` -/
def clearWebhookSink (s : InMemoryStore ν) : InMemoryStore ν :=
  { s.withCollection "webhook_sink" .empty with webhookSinkOrder := [] }

/-! ## Runs -/

/-- An operation that changes the store. -/
inductive Op (ν : Type) where
  | save (collection id : String) (record : ν)
  | delete (collection id : String)
  | clear (collection : String)
  | clearAll
  | appendActivity (id : String) (record : ν)
  | setActivityOrder (order : List String)
  | appendRequestLog (id : String) (record : ν)
  | clearRequestLogs
  | appendWebhookSink (id : String) (record : ν)
  | clearWebhookSink

/-- What an operation does. -/
def apply (s : InMemoryStore ν) : Op ν → InMemoryStore ν
  | .save collection id record => s.save collection id record
  | .delete collection id => (s.delete collection id).2
  | .clear collection => s.clear collection
  | .clearAll => s.clearAll
  | .appendActivity id record => s.appendActivity id record
  | .setActivityOrder order => s.setActivityOrder order
  | .appendRequestLog id record => s.appendRequestLog id record
  | .clearRequestLogs => s.clearRequestLogs
  | .appendWebhookSink id record => s.appendWebhookSink id record
  | .clearWebhookSink => s.clearWebhookSink

/-- The keys of a collection in the order of their last insertion, once a record is put there: a key
    that is not stored becomes the last. -/
def lastPut (s : InMemoryStore ν) (last : String → List String) (collection id name : String) :
    List String :=
  if name = collection ∧ s.get collection id = none then (last name).filter (· ≠ id) ++ [id]
  else last name

/-- The keys of each collection in the order of their last insertion, those since dropped for the
    cap among them: how an operation changes them. -/
def inserted (s : InMemoryStore ν) (last : String → List String) : Op ν → String → List String
  | .save collection id _, name => lastPut s last collection id name
  | .delete collection id, name =>
    if name = collection then (last name).filter (· ≠ id) else last name
  | .clear collection, name => if name = collection then [] else last name
  | .clearAll, _ => []
  | .appendActivity id _, name => lastPut s last "activities" id name
  | .setActivityOrder _, name => last name
  | .appendRequestLog id _, name => lastPut s last "request_logs" id name
  | .clearRequestLogs, name => if name = "request_logs" then [] else last name
  | .appendWebhookSink id _, name => lastPut s last "webhook_sink" id name
  | .clearWebhookSink, name => if name = "webhook_sink" then [] else last name

/-- The key list of a collection, if it has one. -/
def orderOf (s : InMemoryStore ν) (collection : String) : Option (List String) :=
  if collection = "activities" then some s.activityOrder
  else if collection = "request_logs" then some s.requestLogOrder
  else if collection = "webhook_sink" then some s.webhookSinkOrder
  else none

/-- What is to hold of the store: every collection is within its cap, and holds the keys that were
    last inserted; the activities are listed once each, newest first; every key list names what is
    stored and nothing else. -/
structure Consistent (s : InMemoryStore ν) (last : String → List String) : Prop where
  capped : ∀ collection cap, capOf collection = some cap →
    s.count collection ≤ cap ∧ (s.collections collection).keys <:+ last collection
  listed : s.activityOrder.filter (s.collections "activities").contains
    = (s.collections "activities").keys.reverse
  listing : s.listActivities = ((s.collections "activities").entries.map Prod.snd).reverse
  counted : s.listActivities.length = s.count "activities"
  named : ∀ collection order, s.orderOf collection = some order →
    ∀ id, id ∈ order ↔ (s.get collection id).isSome

/-- An appended record has an id that is not in use. -/
def Fresh (s : InMemoryStore ν) : Op ν → Prop
  | .appendActivity id _ => s.get "activities" id = none
  | .appendRequestLog id _ => s.get "request_logs" id = none
  | .appendWebhookSink id _ => s.get "webhook_sink" id = none
  | _ => True

/-- A step that keeps the key lists in step: no generic operation puts a record into an ordered
    collection, takes one out of it, or empties the request logs or the sink, and the activity order
    is only set to what it is. -/
def KeepsStep (s : InMemoryStore ν) : Op ν → Prop
  | .save collection id _ => (s.orderOf collection).isSome → (s.get collection id).isSome
  | .delete collection id => (s.orderOf collection).isSome → s.get collection id = none
  | .clear collection =>
    collection = "request_logs" ∨ collection = "webhook_sink" → s.count collection = 0
  | .setActivityOrder order => bounded order = (s.collections "activities").keys.reverse
  | _ => True

/-! ## The invariant -/

/-- What holds of one collection: its keys are the last inserted, within its cap, and its key list
    is its keys, newest first. -/
structure KeptAt (s : InMemoryStore ν) (last : String → List String) (collection : String) :
    Prop where
  suffix : (s.collections collection).keys <:+ last collection
  capped : ∀ cap, capOf collection = some cap → s.count collection ≤ cap
  ordered : ∀ order, s.orderOf collection = some order →
    order = (s.collections collection).keys.reverse

/-- The invariant of the store. -/
def Kept (s : InMemoryStore ν) (last : String → List String) : Prop :=
  ∀ collection, KeptAt s last collection

variable {s s' : InMemoryStore ν} {last last' : String → List String}

lemma kept_new : Kept (new : InMemoryStore ν) fun _ => [] := by
  intro collection
  refine ⟨List.suffix_refl _, fun cap _ => Nat.zero_le cap, ?_⟩
  intro order horder
  rw [orderOf] at horder
  split_ifs at horder <;> exact (Option.some.inj horder).symm

/-- A store that is kept is consistent. -/
lemma Kept.consistent (h : Kept s last) : Consistent s last := by
  have hactivities : s.activityOrder = (s.collections "activities").keys.reverse :=
    (h "activities").ordered s.activityOrder rfl
  have hlisting : s.listActivities
      = ((s.collections "activities").entries.map Prod.snd).reverse := by
    rw [listActivities, hactivities, Dict.keys, ← List.map_reverse, ← List.map_reverse]
    exact Dict.filterMap_get fun p hp => List.mem_reverse.1 hp
  refine ⟨?_, ?_, hlisting, ?_, ?_⟩
  · intro collection cap hcap
    exact ⟨(h collection).capped cap hcap, (h collection).suffix⟩
  · rw [hactivities, List.filter_eq_self]
    intro id hid
    exact Dict.mem_keys_iff.1 (List.mem_reverse.1 hid)
  · rw [hlisting, List.length_reverse, List.length_map]
    rfl
  · intro collection order horder id
    rw [(h collection).ordered order horder, List.mem_reverse]
    exact Dict.mem_keys_iff

lemma Kept.of_frame (collection : String) (h : Kept s last)
    (hframe : ∀ name, name ≠ collection → s'.collections name = s.collections name
      ∧ s'.orderOf name = s.orderOf name ∧ last' name = last name)
    (hat : KeptAt s' last' collection) : Kept s' last' := by
  intro name
  by_cases hname : name = collection
  · rw [hname]
    exact hat
  · obtain ⟨hrecords, horder, hlast⟩ := hframe name hname
    obtain ⟨hsuffix, hcapped, hordered⟩ := h name
    rw [← hrecords] at hsuffix hordered
    refine ⟨hlast ▸ hsuffix, ?_, horder ▸ hordered⟩
    intro cap hcap
    rw [count, hrecords]
    exact hcapped cap hcap

@[simp] lemma collections_withCollection_self (s : InMemoryStore ν) (collection : String)
    (records : Dict String ν) : (s.withCollection collection records).collections collection
      = records := if_pos rfl

lemma collections_withCollection_ne (s : InMemoryStore ν) {collection name : String}
    (records : Dict String ν) (h : name ≠ collection) :
    (s.withCollection collection records).collections name = s.collections name := if_neg h

@[simp] lemma orderOf_withCollection (s : InMemoryStore ν) (collection : String)
    (records : Dict String ν) : (s.withCollection collection records).orderOf = s.orderOf := rfl

lemma lastPut_of_some {collection id : String} {old : ν} (h : s.get collection id = some old) :
    lastPut s last collection id = last := by
  funext name
  rw [lastPut, if_neg]
  rw [h]
  simp

lemma lastPut_of_none {collection id : String} (h : s.get collection id = none) :
    lastPut s last collection id collection = (last collection).filter (· ≠ id) ++ [id] :=
  if_pos ⟨rfl, h⟩

lemma lastPut_ne {collection id name : String} (h : name ≠ collection) :
    lastPut s last collection id name = last name := if_neg fun h' => h h'.1

lemma suffix_lastPut {collection id : String} (h : s.get collection id = none)
    (hsuffix : (s.collections collection).keys <:+ last collection) :
    (s.collections collection).keys ++ [id] <:+ lastPut s last collection id collection := by
  have hid : (s.collections collection).keys.filter (· ≠ id) = (s.collections collection).keys := by
    rw [List.filter_eq_self]
    rintro key hkey
    refine decide_eq_true ?_
    rintro rfl
    exact Dict.get_eq_none_iff.1 h hkey
  rw [lastPut_of_none h]
  have hfiltered := hsuffix.filter (· ≠ id)
  rw [hid] at hfiltered
  obtain ⟨before, hbefore⟩ := hfiltered
  exact ⟨before, by rw [← List.append_assoc, hbefore]⟩

/-- A collection without a key list is capped by `CAPS`, if at all, and not at 0. -/
lemma capOf_of_unordered {collection : String} (h : s.orderOf collection = none) {cap : Nat}
    (hcap : capOf collection = some cap) : Assoc.get collection CAPS = some cap ∧ 0 < cap := by
  have hmem := Assoc.mem_of_get hcap
  have hpos : ∀ p ∈ CAPS, 0 < p.2 ∧ Assoc.get p.1 CAPS = some p.2 := by decide
  rcases List.mem_append.1 hmem with hm | hm
  · exact ⟨(hpos _ hm).2, (hpos _ hm).1⟩
  · exfalso
    rw [orderOf] at h
    split_ifs at h with h1 h2 h3
    simp only [orderedCaps, List.mem_cons, List.not_mem_nil, or_false, Prod.mk.injEq] at hm
    rcases hm with ⟨rfl, -⟩ | ⟨rfl, -⟩ | ⟨rfl, -⟩
    · exact h1 rfl
    · exact h2 rfl
    · exact h3 rfl

lemma count_eq_length (s : InMemoryStore ν) (collection : String) :
    s.count collection = (s.collections collection).keys.length := by
  rw [count, Dict.size, Dict.keys, List.length_map]

/-- Saving a record keeps its collection. -/
lemma keptAt_save {collection id : String} {record : ν} (h : KeptAt s last collection)
    (hkeeps : KeepsStep s (.save collection id record)) :
    KeptAt (s.save collection id record) (lastPut s last collection id) collection := by
  obtain ⟨hsuffix, hcapped, hordered⟩ := h
  rw [KeepsStep] at hkeeps
  simp only [count_eq_length] at hcapped
  cases hget : s.get collection id with
  | some old =>
    have hkeys : ((s.save collection id record).collections collection).keys
        = (s.collections collection).keys := by
      rw [save, collections_withCollection_self]
      exact keys_save_of_some record hget
    rw [lastPut_of_some hget]
    refine ⟨hkeys ▸ hsuffix, ?_, hkeys ▸ hordered⟩
    intro cap hcap
    rw [count_eq_length, hkeys]
    exact hcapped cap hcap
  | none =>
    have hunordered : s.orderOf collection = none := by
      rw [← Option.not_isSome_iff_eq_none]
      intro hsome
      have hstored := hkeeps hsome
      rw [hget] at hstored
      cases hstored
    have hput := suffix_lastPut hget hsuffix
    rcases keys_save_of_none record hget with ⟨hroom, hkeys⟩ | ⟨⟨cap, hcaps, hfull⟩, hkeys⟩
    · refine ⟨?_, ?_, ?_⟩
      · rw [save, collections_withCollection_self, hkeys]
        exact hput
      · intro cap hcap
        rw [count_eq_length, save, collections_withCollection_self, hkeys, List.length_append]
        have hlt := hroom cap (capOf_of_unordered hunordered hcap).1
        rw [← count, count_eq_length] at hlt
        exact hlt
      · intro order horder
        rw [save, orderOf_withCollection, hunordered] at horder
        cases horder
    · refine ⟨?_, ?_, ?_⟩
      · rw [save, collections_withCollection_self, hkeys]
        refine List.IsSuffix.trans ?_ hput
        obtain ⟨before, hbefore⟩ := List.tail_suffix (s.collections collection).keys
        exact ⟨before, by rw [← List.append_assoc, hbefore]⟩
      · intro cap' hcap'
        rw [count_eq_length, save, collections_withCollection_self, hkeys, List.length_append,
          List.length_tail]
        have hle := hcapped cap' hcap'
        have hpos := (capOf_of_unordered hunordered hcap').2
        rw [List.length_singleton]
        omega
      · intro order horder
        rw [save, orderOf_withCollection, hunordered] at horder
        cases horder

lemma filter_notMem_drop {α : Type} [DecidableEq α] {l : List α} (h : l.Nodup) (n : Nat) :
    l.filter (· ∉ l.drop n) = l.take n := by
  have hsplit := List.take_append_drop n l
  have hfront : (l.take n).filter (· ∉ l.drop n) = l.take n := by
    rw [List.filter_eq_self]
    intro a ha
    exact decide_eq_true (List.disjoint_take_drop h (Nat.le_refl n) ha)
  have hback : (l.drop n).filter (· ∉ l.drop n) = [] := by
    rw [List.filter_eq_nil_iff]
    intro a ha hnot
    exact of_decide_eq_true hnot ha
  calc l.filter (· ∉ l.drop n) = (l.take n ++ l.drop n).filter (· ∉ l.drop n) := by rw [hsplit]
    _ = l.take n := by rw [List.filter_append, hfront, hback, List.append_nil]

/-- A new record put in front of the key list is the last of the keys, and the cap is kept. -/
lemma insertNewest_keys (cap : Nat) {id : String} (record : ν) {records : Dict String ν}
    (hfresh : records.get id = none) :
    let into := insertNewest cap id record records records.keys.reverse
    into.2 = into.1.keys.reverse ∧ into.1.keys <:+ records.keys ++ [id]
      ∧ into.1.keys.length ≤ cap := by
  have horder : id :: records.keys.reverse = (records.keys ++ [id]).reverse := by
    rw [List.reverse_append]
    rfl
  have hkeys := Dict.keys_set_of_none record hfresh
  have hnodup : (records.keys ++ [id]).Nodup := hkeys ▸ Dict.nodup_keys _
  dsimp only [insertNewest]
  rw [horder]
  split_ifs with hlong
  · have hkept : (((records.keys ++ [id]).reverse.drop cap).foldl Dict.erase
        (records.set id record)).keys.reverse = (records.keys ++ [id]).reverse.take cap := by
      rw [Dict.keys_foldl_erase, hkeys, ← List.filter_reverse]
      exact filter_notMem_drop (List.nodup_reverse.2 hnodup) cap
    refine ⟨hkept.symm, ?_, ?_⟩
    · rw [← List.reverse_prefix, hkept]
      exact List.take_prefix _ _
    · rw [← List.length_reverse, hkept, List.length_take]
      exact Nat.min_le_left _ _
  · rw [hkeys]
    refine ⟨rfl, List.suffix_refl _, ?_⟩
    rw [← List.length_reverse]
    exact Nat.not_lt.1 hlong

/-- Appending an activity to a list of at most 10000 is what appending a request log is to one of at
    most 500. -/
lemma appendActivity_eq {id : String} {record : ν} (hlen : s.activityOrder.length ≤ 10000)
    (hid : id ∉ s.activityOrder) :
    s.appendActivity id record
      = let into := insertNewest 10000 id record (s.collections "activities") s.activityOrder
        { s.withCollection "activities" into.1 with activityOrder := into.2 } := by
  rw [appendActivity, insertNewest]
  by_cases hfull : s.activityOrder.length = 10000
  · obtain ⟨init, key, hinit⟩ : ∃ init key, s.activityOrder = init ++ [key] := by
      have hne : s.activityOrder ≠ [] := by
        intro h
        rw [h] at hfull
        cases hfull
      exact ⟨_, _, (List.dropLast_append_getLast hne).symm⟩
    have hinitlen : init.length = 9999 := by
      rw [hinit, List.length_append, List.length_singleton] at hfull
      omega
    have hne : key ≠ id := by
      rintro rfl
      rw [hinit] at hid
      exact hid (List.mem_append_right _ List.mem_cons_self)
    have hdrop : (id :: s.activityOrder).drop 10000 = [key] := by
      rw [hinit, ← List.cons_append, List.drop_left' (by rw [List.length_cons, hinitlen])]
    have htake : (id :: s.activityOrder).take 10000 = id :: init := by
      rw [hinit, ← List.cons_append, List.take_left' (by rw [List.length_cons, hinitlen])]
    have hlong : 10000 < (id :: s.activityOrder).length := by
      rw [List.length_cons, hfull]
      omega
    have hlast : s.activityOrder.getLast? = some key := by rw [hinit, List.getLast?_concat]
    have hfront : s.activityOrder.dropLast = init := by rw [hinit, List.dropLast_concat]
    rw [if_pos hlong, hdrop, htake]
    simp only [hfull, if_true, hlast, hfront, if_neg hne, List.foldl_cons, List.foldl_nil]
  · have hshort : ¬ 10000 < (id :: s.activityOrder).length := by
      rw [List.length_cons]
      omega
    rw [if_neg hshort]
    simp only [hfull, if_false]

/-- A new record put in front of the key list keeps an ordered collection. -/
lemma keptAt_insert {collection id : String} (record : ν) {cap : Nat} {order : List String}
    (h : KeptAt s last collection) (hcap : capOf collection = some cap)
    (horder : s.orderOf collection = some order) (hfresh : s.get collection id = none)
    (hrecords : s'.collections collection
      = (insertNewest cap id record (s.collections collection) order).1)
    (horder' : s'.orderOf collection
      = some (insertNewest cap id record (s.collections collection) order).2) :
    KeptAt s' (lastPut s last collection id) collection := by
  obtain rfl := h.ordered order horder
  obtain ⟨hreverse, hsuffix, hlen⟩ := insertNewest_keys cap record hfresh
  refine ⟨?_, ?_, ?_⟩
  · rw [hrecords]
    exact hsuffix.trans (suffix_lastPut hfresh h.suffix)
  · intro cap' hcap'
    rw [hcap] at hcap'
    obtain rfl := Option.some.inj hcap'
    rw [count_eq_length, hrecords]
    exact hlen
  · intro order' h'
    rw [horder'] at h'
    rw [← Option.some.inj h', hreverse, hrecords]

lemma keptAt_empty {collection : String} (hrecords : s'.collections collection = .empty)
    (horder : ∀ order, s'.orderOf collection = some order → order = []) :
    KeptAt s' last collection := by
  refine ⟨?_, ?_, ?_⟩
  · rw [hrecords]
    exact List.nil_suffix
  · intro cap _
    rw [count, hrecords]
    exact Nat.zero_le cap
  · intro order h
    rw [hrecords, horder order h]
    rfl

/-- Deleting a record that no key list names keeps its collection. -/
lemma keptAt_delete {collection id : String} (h : KeptAt s last collection)
    (hkeeps : KeepsStep s (.delete collection id)) :
    KeptAt (s.delete collection id).2 (inserted s last (.delete collection id)) collection := by
  have hlast : inserted s last (.delete collection id) collection
      = (last collection).filter (· ≠ id) := if_pos rfl
  obtain ⟨hsuffix, hcapped, hordered⟩ := h
  rw [KeepsStep] at hkeeps
  have hfiltered := hsuffix.filter (· ≠ id)
  rw [← Dict.keys_erase] at hfiltered
  have herase : ((s.delete collection id).2.collections collection).keys
      = ((s.collections collection).erase id).keys := by
    rw [delete]
    split
    · rw [collections_withCollection_self]
    · next hnot =>
      rw [Dict.keys_erase, eq_comm, List.filter_eq_self]
      rintro key hkey
      refine decide_eq_true ?_
      rintro rfl
      exact hnot (Dict.mem_keys_iff.1 hkey)
  have horder : (s.delete collection id).2.orderOf = s.orderOf := by
    rw [delete]
    split
    · rfl
    · rfl
  refine ⟨?_, ?_, ?_⟩
  · rw [herase, hlast]
    exact hfiltered
  · intro cap hcap
    have hle := hcapped cap hcap
    rw [count_eq_length] at hle ⊢
    rw [herase, Dict.keys_erase]
    exact Nat.le_trans (List.length_filter_le _ _) hle
  · intro order ho
    rw [horder] at ho
    have hnone : s.get collection id = none := hkeeps (Option.isSome_of_mem ho)
    rw [herase, Dict.keys_erase, hordered order ho, eq_comm, List.filter_eq_self.2]
    rintro key hkey
    refine decide_eq_true ?_
    rintro rfl
    exact Dict.get_eq_none_iff.1 hnone hkey

lemma orderOf_activities (s : InMemoryStore ν) : s.orderOf "activities" = some s.activityOrder :=
  if_pos rfl

lemma orderOf_eq_none {s : InMemoryStore ν} {collection : String} (h1 : collection ≠ "activities")
    (h2 : collection ≠ "request_logs") (h3 : collection ≠ "webhook_sink") :
    s.orderOf collection = none := by
  rw [orderOf, if_neg h1, if_neg h2, if_neg h3]

lemma orderOf_activityOrder {order : List String} {name : String} (h : name ≠ "activities") :
    { s with activityOrder := order }.orderOf name = s.orderOf name := by
  rw [orderOf, orderOf, if_neg h, if_neg h]

lemma orderOf_requestLogOrder {order : List String} {name : String} (h : name ≠ "request_logs") :
    { s with requestLogOrder := order }.orderOf name = s.orderOf name := by
  rw [orderOf, orderOf, if_neg h, if_neg h]

lemma orderOf_webhookSinkOrder {order : List String} {name : String} (h : name ≠ "webhook_sink") :
    { s with webhookSinkOrder := order }.orderOf name = s.orderOf name := by
  rw [orderOf, orderOf, if_neg h, if_neg h]

/-- A step that keeps the key lists in step keeps the store. -/
lemma Kept.step {op : Op ν} (h : Kept s last) (hfresh : Fresh s op) (hkeeps : KeepsStep s op) :
    Kept (s.apply op) (inserted s last op) := by
  cases op with
  | save collection id record =>
    refine h.of_frame collection ?_ (keptAt_save (h collection) hkeeps)
    intro name hname
    exact ⟨collections_withCollection_ne s _ hname, rfl, lastPut_ne hname⟩
  | delete collection id =>
    refine h.of_frame collection ?_ (keptAt_delete (h collection) hkeeps)
    intro name hname
    refine ⟨?_, ?_, if_neg hname⟩
    · rw [apply, delete]
      split
      · exact collections_withCollection_ne s _ hname
      · rfl
    · rw [apply, delete]
      split
      · rfl
      · rfl
  | clear collection =>
    have hrecords : ∀ name, (s.clear collection).collections name
        = if name = collection then .empty else s.collections name := by
      intro name
      rw [clear]
      split
      · rfl
      · rfl
    refine h.of_frame collection ?_ (keptAt_empty ?_ ?_)
    · intro name hname
      refine ⟨?_, ?_, if_neg hname⟩
      · exact (hrecords name).trans (if_neg hname)
      · rw [apply, clear]
        split
        · next he =>
          subst he
          exact orderOf_activityOrder hname
        · rfl
    · exact (hrecords collection).trans (if_pos rfl)
    · intro order horder
      by_cases hactivities : collection = "activities"
      · subst hactivities
        exact (Option.some.inj horder).symm
      · have horders : (s.apply (.clear collection)).orderOf collection = s.orderOf collection := by
          rw [apply, clear, if_neg hactivities]
          rfl
        rw [horders] at horder
        have hnamed : collection = "request_logs" ∨ collection = "webhook_sink" := by
          by_contra hnot
          rw [orderOf_eq_none hactivities (fun e => hnot (.inl e)) fun e => hnot (.inr e)] at horder
          cases horder
        have hnone := hkeeps hnamed
        rw [count_eq_length, List.length_eq_zero_iff] at hnone
        rw [(h collection).ordered order horder, hnone]
        rfl
  | clearAll =>
    intro collection
    exact ⟨List.suffix_refl _, fun cap _ => Nat.zero_le cap, (kept_new collection).ordered⟩
  | appendActivity id record =>
    have horder : s.activityOrder = (s.collections "activities").keys.reverse :=
      (h "activities").ordered _ rfl
    have hlen : s.activityOrder.length ≤ 10000 := by
      rw [horder, List.length_reverse, ← count_eq_length]
      exact (h "activities").capped 10000 rfl
    have hid : id ∉ s.activityOrder := by
      rw [horder, List.mem_reverse]
      exact Dict.get_eq_none_iff.1 hfresh
    rw [apply, appendActivity_eq hlen hid]
    refine h.of_frame "activities" ?_
      (keptAt_insert record (h "activities") rfl rfl hfresh rfl rfl)
    intro name hname
    exact ⟨collections_withCollection_ne s _ hname, orderOf_activityOrder hname, lastPut_ne hname⟩
  | setActivityOrder order =>
    refine h.of_frame "activities" ?_ ?_
    · intro name hname
      exact ⟨rfl, orderOf_activityOrder hname, rfl⟩
    · have hrecords : (s.apply (.setActivityOrder order)).collections = s.collections := by
        simp only [apply, setActivityOrder]
      refine ⟨(h "activities").suffix, ?_, ?_⟩
      · intro cap hcap
        rw [count, hrecords]
        exact (h "activities").capped cap hcap
      · intro order' horder'
        rw [orderOf_activities] at horder'
        rw [← Option.some.inj horder', hrecords]
        exact hkeeps
  | appendRequestLog id record =>
    refine h.of_frame "request_logs" ?_
      (keptAt_insert record (h "request_logs") rfl rfl hfresh rfl rfl)
    intro name hname
    exact ⟨collections_withCollection_ne s _ hname, orderOf_requestLogOrder hname,
      lastPut_ne hname⟩
  | clearRequestLogs =>
    refine h.of_frame "request_logs" ?_
      (keptAt_empty rfl fun _ ho => (Option.some.inj ho).symm)
    intro name hname
    exact ⟨collections_withCollection_ne s _ hname, orderOf_requestLogOrder hname, if_neg hname⟩
  | appendWebhookSink id record =>
    refine h.of_frame "webhook_sink" ?_
      (keptAt_insert record (h "webhook_sink") rfl rfl hfresh rfl rfl)
    intro name hname
    exact ⟨collections_withCollection_ne s _ hname, orderOf_webhookSinkOrder hname,
      lastPut_ne hname⟩
  | clearWebhookSink =>
    refine h.of_frame "webhook_sink" ?_
      (keptAt_empty rfl fun _ ho => (Option.some.inj ho).symm)
    intro name hname
    exact ⟨collections_withCollection_ne s _ hname, orderOf_webhookSinkOrder hname, if_neg hname⟩

/-- After a step that does not keep the key lists in step, they are not. -/
lemma keepsStep_of_consistent {op : Op ν} (h : Kept s last)
    (hnext : Consistent (s.apply op) (inserted s last op)) : KeepsStep s op := by
  cases op with
  | save collection id record =>
    intro hordered
    obtain ⟨order, horder⟩ := Option.isSome_iff_exists.1 hordered
    have hmem : id ∈ order := by
      rw [hnext.named collection order horder]
      have hget : (s.apply (.save collection id record)).get collection id = some record := by
        rw [apply, get, save, collections_withCollection_self]
        exact get_save_self collection id record _
      rw [hget]
      rfl
    rw [(h collection).ordered order horder, List.mem_reverse, Dict.mem_keys_iff] at hmem
    exact hmem
  | delete collection id =>
    intro hordered
    obtain ⟨order, horder⟩ := Option.isSome_iff_exists.1 hordered
    by_contra hstored
    have hcontains : (s.collections collection).contains id = true := by
      rw [Dict.contains, ← Option.not_isNone, Bool.not_eq_true', ← Bool.not_eq_true,
        Option.isNone_iff_eq_none]
      exact hstored
    have hdelete : s.apply (.delete collection id)
        = s.withCollection collection ((s.collections collection).erase id) := by
      rw [apply, delete, if_pos hcontains]
    have hmem : id ∈ order := by
      rw [(h collection).ordered order horder, List.mem_reverse, Dict.mem_keys_iff]
      exact hcontains
    rw [hdelete] at hnext
    rw [hnext.named collection order horder, get, collections_withCollection_self,
      Dict.get_erase_self] at hmem
    cases hmem
  | clear collection =>
    intro hnamed
    have hother : collection ≠ "activities" := by
      rintro rfl
      rcases hnamed with hne | hne <;> exact absurd hne (by decide)
    obtain ⟨order, horder⟩ : ∃ order, s.orderOf collection = some order := by
      rcases hnamed with rfl | rfl
      · exact ⟨_, rfl⟩
      · exact ⟨_, rfl⟩
    have hclear : s.apply (.clear collection) = s.withCollection collection .empty := by
      rw [apply, clear, if_neg hother]
    rw [hclear] at hnext
    -- A key that is left in the list names a record that is gone.
    have hnil : order = [] := by
      rw [List.eq_nil_iff_forall_not_mem]
      intro id hid
      rw [hnext.named collection order horder, get, collections_withCollection_self,
        Dict.get_empty] at hid
      cases hid
    rw [(h collection).ordered order horder, List.reverse_eq_nil_iff] at hnil
    rw [count_eq_length, hnil]
    rfl
  | setActivityOrder order =>
    have hset : (s.apply (.setActivityOrder order)).activityOrder = bounded order := by
      simp only [apply, setActivityOrder]
    have hrecords : (s.apply (.setActivityOrder order)).collections = s.collections := by
      simp only [apply, setActivityOrder]
    have hlisted := hnext.listed
    have hnamed := hnext.named "activities" _ (orderOf_activities _)
    rw [hset] at hlisted hnamed
    rw [hrecords, List.filter_eq_self.2] at hlisted
    · exact hlisted
    · intro id hid
      exact (hnamed id).1 hid
  | _ => trivial

/-! ## Runs from the store as it is made -/

/-- In a run whose appends take fresh ids, the store is consistent at every moment exactly when
    every step keeps the key lists in step. -/
theorem consistent_iff_keepsStep {ops : List (Op ν)} (hfresh : Along apply Fresh new ops) :
    (∀ pre, pre <+: ops →
        let p := runFrom (specify apply inserted) (new, fun _ => []) pre
        Consistent p.1 p.2)
      ↔ Along apply KeepsStep new ops := by
  let start : InMemoryStore ν × (String → List String) := (new, fun _ => [])
  have hadmitted : Along (specify apply inserted) (fun p op => Fresh p.1 op) start ops :=
    Along.specify_iff.2 hfresh
  have hguarded : Along (specify apply inserted) (fun p op => KeepsStep p.1 op) start ops
      ↔ Along apply KeepsStep new ops := Along.specify_iff
  have hconsistent : ∀ p : InMemoryStore ν × (String → List String),
      Kept p.1 p.2 → Consistent p.1 p.2 := fun _ h => h.consistent
  rw [← hguarded]
  refine Along.always_iff hconsistent ?_ ?_ kept_new hadmitted
  · intro p op ha h hkeeps
    exact h.step ha hkeeps
  · intro p op _ h hnext
    exact keepsStep_of_consistent h hnext

/-- Two activities, a request log, a delivery and a threat, with a record of no key list deleted and
    the sink emptied by its own operation. -/
theorem consistent_iff_keepsStep_eight :
    let p := runFrom (specify apply inserted) (new, fun _ => [])
      [.appendActivity "a1" 1, .save "threats" "t1" 2, .appendRequestLog "r1" 3,
        .appendActivity "a2" 4, .appendWebhookSink "w1" 5, .delete "threats" "t1",
        .clearWebhookSink, (.save "activities" "a1" 6 : Op Nat)]
    Consistent p.1 p.2 := by
  refine (consistent_iff_keepsStep ?_).2 ?_ _ (List.prefix_refl _)
  · exact ⟨rfl, trivial, rfl, rfl, rfl, trivial, trivial, trivial, trivial⟩
  · refine ⟨trivial, ?_, trivial, trivial, trivial, ?_, trivial, ?_, trivial⟩
    · intro h
      cases h
    · intro h
      cases h
    · intro _
      rfl

/-- Emptying the request logs with `clear` leaves the key of a log that is gone in the key list. -/
theorem clear_keeps_request_log_order :
    ¬ ∀ ops : List (Op Nat), Along apply Fresh new ops →
        let p := runFrom (specify apply inserted) (new, fun _ => []) ops
        Consistent p.1 p.2 := by
  intro h
  have hrun := h [.appendRequestLog "r1" 1, .clear "request_logs"] ⟨rfl, trivial, trivial⟩
  have hnamed := hrun.named "request_logs" ["r1"] rfl "r1"
  exact absurd (hnamed.1 List.mem_cons_self) (by decide)

end InMemoryStore

end Mockdr
