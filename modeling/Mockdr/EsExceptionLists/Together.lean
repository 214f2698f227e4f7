import Mathlib
import Mockdr.EsExceptionLists.Lists
import Mockdr.Lib.Run

/-!
# Lists and their items

* `Together`: the lists have a `list_id` each, every item has one of them and is found by it, and an
  identifier is resolved to one list. `Removed`: a deletion takes the items of the list, and nothing
  else.
* `Sound` is what carries it: no `list_id` is another list's id.
* `step_sound`, `keeps_of_together`: a request keeps it exactly when a new list has a `list_id` that
  identifies no other list, and a new item the `list_id` of a list. `together_iff` says so of a run.
-/

namespace Mockdr

namespace EsExceptionLists

variable (py : Python)

/-! ## What holds of the lists and the items -/

/-- A body names a list by nothing but an identifier. -/
def Names (identifier : String) (data : Object) : Prop :=
  (∀ v, Assoc.get "id" data = some v → v = .str identifier)
    ∧ ∀ v, Assoc.get "list_id" data = some v → v = .str identifier

/-- No two lists share a `list_id`, every item has the `list_id` of a list and is found by it, and
    an identifier is resolved to one list. -/
structure Together (s : Store) : Prop where
  distinct : ∀ i j e f, s.lists.get i = some e → s.lists.get j = some f →
    e.listId.eq f.listId = true → i = j
  attached : ∀ i item, s.items.get i = some item → ∃ j e, s.lists.get j = some e
    ∧ item.listId.eq e.listId = true ∧ ∃ found, findItems e.listId s = some found ∧ item ∈ found
  deletes : ∀ identifier, deleteTarget identifier s = getList identifier s
  updates : ∀ identifier data e, Names identifier data → updateTarget data s = some e →
    getList identifier s = some e

/-- What `Removed` says of the list that a deletion names. -/
structure RemovedWith (s s' : Store) (e : ExceptionList) : Prop where
  list : s'.lists.get e.id = none
  items : ∀ i item, s.items.get i = some item → item.listId.eq e.listId = true →
    s'.items.get i = none
  otherLists : ∀ j, j ≠ e.id → s'.lists.get j = s.lists.get j
  otherItems : ∀ j f i item, s.lists.get j = some f → j ≠ e.id → s.items.get i = some item →
    item.listId.eq f.listId = true → s'.items.get i = some item

/-- The deletion of a list takes the list and its items, and nothing of another list. -/
def Removed (s s' : Store) : Action → Prop
  | .deleteList listId id => ∀ identifier e, lookup listId id = some identifier →
    getList identifier s = some e → RemovedWith s s' e
  | _ => True

/-! ## What is asked of the requests -/

/-- An identifier is no list's. -/
def New (s : Store) (identifier : Json) : Prop :=
  ∀ j e, s.lists.get j = some e → e.listId.eq identifier = false ∧ identifier ≠ .str j

/-- The ids that are drawn are new. -/
def Fresh (s : Store) : Action → Prop
  | .createList id listId _ _ => New s (.str id) ∧ New s (.str listId)
  | _ => True

/-- A new list has a `list_id` that identifies no other list, and a new item that of a list. -/
def Keeps (s : Store) : Action → Prop
  | .createList _ _ _ body =>
    validList body = true → ∀ listId, Assoc.get "list_id" body = some listId → New s listId
  | .createItem _ _ _ body =>
    acceptsItem py body s = true → ∃ j e, s.lists.get j = some e
      ∧ (arg body "list_id" (.str "")).eq e.listId = true
  | _ => True

/-- Every list and item is stored under its id, a `list_id` is a text or nothing, no two lists share
    one, none is another list's id, and every item has one. -/
structure Sound (s : Store) : Prop where
  keyed : ∀ i e, s.lists.get i = some e → e.id = i
  keyedItems : ∀ i item, s.items.get i = some item → item.id = i
  typed : ∀ i e, s.lists.get i = some e → textOrNothing e.listId = true
  distinct : ∀ i j e f, s.lists.get i = some e → s.lists.get j = some f →
    e.listId = f.listId → i = j
  apart : ∀ i j e f, s.lists.get i = some e → s.lists.get j = some f → e.listId = .str j → i = j
  attached : ∀ i item, s.items.get i = some item → ∃ j e, s.lists.get j = some e
    ∧ item.listId = e.listId

variable {s s' : Store}

lemma eq_iff_of_typed {v w : Json} (hw : textOrNothing w = true) : v.eq w = true ↔ v = w := by
  cases w with
  | null => cases v <;> simp [Json.eq, Json.number]
  | str t => exact Json.eq_str_iff
  | _ => cases hw

/-! ## Finding a list -/

/-- What is found by a `list_id` is stored and has it. -/
lemma Sound.get_of_getByListId (hs : Sound s) {listId : Json} {e : ExceptionList}
    (h : getByListId listId s = some e) :
    s.lists.get e.id = some e ∧ e.listId.eq listId = true := by
  obtain ⟨⟨i, e'⟩, hmem, rfl⟩ := List.mem_map.1 (List.mem_of_find?_eq_some h)
  have hget := Dict.mem_entries_iff.1 hmem
  have heq := List.find?_some h
  rw [hs.keyed i e' hget]
  exact ⟨hget, heq⟩

lemma Sound.get_of_getList (hs : Sound s) {identifier : String} {e : ExceptionList}
    (h : getList identifier s = some e) : s.lists.get e.id = some e := by
  unfold getList at h
  split at h
  · rename_i hget
    obtain rfl := Option.some.inj h
    rwa [hs.keyed _ _ hget]
  · exact (hs.get_of_getByListId h).1

/-- An identifier that finds a list by its `list_id` finds it also where the ids come first. -/
lemma Sound.getList_of_getByListId (hs : Sound s) {identifier : String} {e : ExceptionList}
    (h : EsExceptionLists.getByListId (.str identifier) s = some e) :
    getList identifier s = some e := by
  obtain ⟨hget, heq⟩ := hs.get_of_getByListId h
  unfold getList
  split
  · rename_i f hf
    have hid := hs.apart e.id identifier e f hget hf (Json.eq_str_iff.1 heq)
    rw [← hid, hget] at hf
    exact hf.symm
  · exact h

lemma Sound.deleteTarget_eq (hs : Sound s) (identifier : String) :
    deleteTarget identifier s = getList identifier s := by
  unfold deleteTarget
  split
  · rename_i h
    exact (hs.getList_of_getByListId h).symm
  · rename_i h
    unfold getList
    rw [h]
    cases s.lists.get identifier <;> rfl

/-- A body that names a list by one identifier is resolved to the list that a query finds by it. -/
lemma Sound.getList_of_updateTarget (hs : Sound s) {identifier : String} {data : Object}
    {e : ExceptionList} (hnames : Names identifier data) (h : updateTarget data s = some e) :
    getList identifier s = some e := by
  have hby : ∀ {e}, ((Assoc.get "list_id" data).bind fun listId =>
      EsExceptionLists.getByListId listId s) = some e → getList identifier s = some e := by
    intro e h
    obtain ⟨v, hget, h⟩ := Option.bind_eq_some_iff.1 h
    rw [hnames.2 v hget] at h
    exact hs.getList_of_getByListId h
  unfold updateTarget at h
  dsimp only at h
  split at h
  · exact hby h
  · rename_i id hget
    obtain rfl := Json.str.inj (hnames.1 _ hget)
    split at h
    · rename_i hfound
      rw [getList, hfound]
      exact h
    · exact hby h
  · split at h
    · exact hby h
    · cases h

/-- Where it is sound, lists and items are together. -/
lemma Sound.together (hs : Sound s) : Together s where
  distinct i j e f he hf heq :=
    hs.distinct i j e f he hf ((eq_iff_of_typed (hs.typed j f hf)).1 heq)
  attached i item hitem := by
    obtain ⟨j, e, he, heq⟩ := hs.attached i item hitem
    have hself : ∀ {v}, v = e.listId → v.eq e.listId = true :=
      (eq_iff_of_typed (hs.typed j e he)).2
    have hmem : item ∈ s.items.entries.map Prod.snd :=
      List.mem_map.2 ⟨(i, item), Dict.mem_entries_iff.2 hitem, rfl⟩
    have hlists : (s.lists.entries.map Prod.snd).any (fun one => one.listId.eq e.listId) = true :=
      List.any_eq_true.2 ⟨e, List.mem_map.2 ⟨(j, e), Dict.mem_entries_iff.2 he, rfl⟩, hself rfl⟩
    refine ⟨j, e, he, hself heq, ?_⟩
    unfold findItems
    dsimp only
    rw [if_pos hlists]
    split
    · exact ⟨_, rfl, List.mem_filter.2 ⟨hmem, hself heq⟩⟩
    · exact ⟨_, rfl, hmem⟩
  deletes := hs.deleteTarget_eq
  updates _ _ _ := hs.getList_of_updateTarget

/-! ## The requests -/

/-- A value that is new is no list's `list_id` and no list's id. -/
lemma New.ne {v : Json} (h : New s v) {j : String} {e : ExceptionList}
    (he : s.lists.get j = some e) (hv : textOrNothing v = true) :
    e.listId ≠ v ∧ v ≠ .str j := by
  refine ⟨?_, (h j e he).2⟩
  rintro rfl
  have := (h j e he).1
  rw [(eq_iff_of_typed hv).2 rfl] at this
  cases this

/-- A list whose identifiers are new. -/
lemma createList_sound {id listId now : String} {body : Object} (hs : Sound s)
    (hid : New s (.str id)) (hlistId : New s (.str listId)) (hvalid : validList body = true)
    (h : ∀ v, Assoc.get "list_id" body = some v → New s v) :
    Sound (createList id listId now body s) := by
  have htyped : textOrNothing (arg body "list_id" (.str listId)) = true := by
    have hbody : textOrNothing (Object.get body "list_id") = true := by
      simp only [validList, Bool.and_eq_true, List.all_cons] at hvalid
      exact hvalid.1.2.2.2.1
    rw [arg]
    rw [Object.get] at hbody
    cases hget : Assoc.get "list_id" body with
    | none => rfl
    | some v => rwa [hget] at hbody
  have hnew : New s (arg body "list_id" (.str listId)) := by
    rw [arg]
    cases hget : Assoc.get "list_id" body with
    | none => exact hlistId
    | some v => exact h v hget
  have hne : ∀ j e, s.lists.get j = some e → j ≠ id := by
    rintro j e he rfl
    exact (hid j e he).2 rfl
  constructor
  · intro i e he
    simp only [createList, Dict.get_set] at he
    split_ifs at he with hi
    · obtain rfl := Option.some.inj he
      exact hi.symm
    · exact hs.keyed i e he
  · exact hs.keyedItems
  · intro i e he
    simp only [createList, Dict.get_set] at he
    split_ifs at he
    · obtain rfl := Option.some.inj he
      exact htyped
    · exact hs.typed i e he
  · intro i j e f he hf heq
    simp only [createList, Dict.get_set] at he hf
    split_ifs at he with hi <;> split_ifs at hf with hj
    · rw [hi, hj]
    · obtain rfl := Option.some.inj he
      exact absurd heq.symm (hnew.ne hf htyped).1
    · obtain rfl := Option.some.inj hf
      exact absurd heq (hnew.ne he htyped).1
    · exact hs.distinct i j e f he hf heq
  · intro i j e f he hf heq
    simp only [createList, Dict.get_set] at he hf
    split_ifs at he with hi <;> split_ifs at hf with hj
    · rw [hi, hj]
    · obtain rfl := Option.some.inj he
      exact absurd heq (hnew.ne hf htyped).2
    · rw [hj] at heq
      exact absurd heq (hid.ne he rfl).1
    · exact hs.apart i j e f he hf heq
  · intro i item hitem
    obtain ⟨j, e, he, heq⟩ := hs.attached i item hitem
    exact ⟨j, e, (Dict.get_set_ne _ _ (hne j e he)).trans he, heq⟩

/-- Where a list that is added keeps lists and items together, its `list_id` is new. -/
lemma new_of_createList {id listId now : String} {body : Object} (hid : New s (.str id))
    (h : Together (createList id listId now body s)) {v : Json}
    (hget : Assoc.get "list_id" body = some v) : New s v := by
  obtain ⟨one, hself, rfl⟩ : ∃ one, (createList id listId now body s).lists.get id = some one
      ∧ one.listId = v := by
    refine ⟨_, Dict.get_set_self _ _ _, ?_⟩
    rw [arg, hget, Option.getD_some]
  intro j e he
  have hne : j ≠ id := by
    rintro rfl
    exact (hid j e he).2 rfl
  have hkept : (createList id listId now body s).lists.get j = some e :=
    (Dict.get_set_ne _ _ hne).trans he
  constructor
  · by_contra heq
    rw [Bool.not_eq_false] at heq
    exact hne (h.distinct j id e one hkept hself heq)
  · intro htext
    have hsame := h.deletes j
    rw [getList, hkept] at hsame
    unfold deleteTarget at hsame
    split at hsame
    · rename_i f hfound
      obtain rfl := Option.some.inj hsame
      have heq := List.find?_some hfound
      rw [← htext] at heq
      exact hne (h.distinct j id _ one hkept hself heq)
    · rename_i hnone
      rw [getByListId, List.find?_eq_none] at hnone
      exact hnone one (List.mem_map.2 ⟨(id, one), Dict.mem_entries_iff.2 hself, rfl⟩)
        (Json.eq_str_iff.2 htext)

lemma Sound.get_of_updateTarget (hs : Sound s) {data : Object} {e : ExceptionList}
    (h : updateTarget data s = some e) : s.lists.get e.id = some e := by
  have hby : ∀ {e}, ((Assoc.get "list_id" data).bind fun listId =>
      EsExceptionLists.getByListId listId s) = some e → s.lists.get e.id = some e := by
    intro e h
    obtain ⟨v, _, h⟩ := Option.bind_eq_some_iff.1 h
    exact (hs.get_of_getByListId h).1
  unfold updateTarget at h
  dsimp only at h
  split at h
  · exact hby h
  · split at h
    · rename_i hget
      obtain rfl := Option.some.inj h
      rwa [hs.keyed _ _ hget]
    · exact hby h
  · split at h
    · exact hby h
    · cases h

/-- A list that is written under its id and its `list_id`. -/
lemma updateList_sound {now : String} {body : Object} (hs : Sound s) :
    Sound (updateList now body s) := by
  unfold updateList
  split
  · exact hs
  · rename_i one htarget
    have hone := hs.get_of_updateTarget htarget
    have hback : ∀ i (e : ExceptionList),
        (s.lists.set one.id { one with
          version := one.version + 1
          attributes := updated ["name", "description", "tags", "os_types", "type"] now body
            one.attributes }).get i = some e →
        ∃ e', s.lists.get i = some e' ∧ e.id = e'.id ∧ e.listId = e'.listId := by
      intro i e he
      rw [Dict.get_set] at he
      split_ifs at he with hi
      · obtain rfl := Option.some.inj he
        exact ⟨one, hi ▸ hone, rfl, rfl⟩
      · exact ⟨e, he, rfl, rfl⟩
    constructor
    · intro i e he
      obtain ⟨e', he', hid, -⟩ := hback i e he
      rw [hid, hs.keyed i e' he']
    · exact hs.keyedItems
    · intro i e he
      obtain ⟨e', he', -, hlistId⟩ := hback i e he
      rw [hlistId]
      exact hs.typed i e' he'
    · intro i j e f he hf heq
      obtain ⟨e', he', -, hlistId⟩ := hback i e he
      obtain ⟨f', hf', -, hlistId'⟩ := hback j f hf
      exact hs.distinct i j e' f' he' hf' (by rw [← hlistId, ← hlistId', heq])
    · intro i j e f he hf heq
      obtain ⟨e', he', -, hlistId⟩ := hback i e he
      obtain ⟨f', hf', -, -⟩ := hback j f hf
      exact hs.apart i j e' f' he' hf' (by rw [← hlistId, heq])
    · intro i item hitem
      obtain ⟨j, e, he, heq⟩ := hs.attached i item hitem
      simp only [Dict.get_set]
      by_cases hj : j = one.id
      · rw [hj, hone] at he
        obtain rfl := Option.some.inj he
        exact ⟨j, _, if_pos hj, heq⟩
      · exact ⟨j, e, (if_neg hj).trans he, heq⟩

lemma Sound.withItems (hs : Sound s) {items : Dict String Item}
    (h : ∀ i item, items.get i = some item → item.id = i
      ∧ ∃ j e, s.lists.get j = some e ∧ item.listId = e.listId) :
    Sound { s with items := items } where
  keyed := hs.keyed
  keyedItems i item hitem := (h i item hitem).1
  typed := hs.typed
  distinct := hs.distinct
  apart := hs.apart
  attached i item hitem := (h i item hitem).2

/-- The items that are left by the deletion of a list. -/
lemma get_items_deleteList (hs : Sound s) {e : ExceptionList} (i : String) :
    (((s.items.entries.map Prod.snd).filter fun item => item.listId.eq e.listId).foldl
        (fun items item => items.erase item.id) s.items).get i
      = (s.items.get i).filter fun item => !item.listId.eq e.listId := by
  rw [Dict.get_foldl_erase]
  cases hitem : s.items.get i with
  | none => simp
  | some item =>
    have hmem : i ∈ ((s.items.entries.map Prod.snd).filter fun item =>
        item.listId.eq e.listId).map Item.id ↔ item.listId.eq e.listId = true := by
      constructor
      · intro h
        obtain ⟨item', hitem', rfl⟩ := List.mem_map.1 h
        obtain ⟨hentry, heq⟩ := List.mem_filter.1 hitem'
        obtain ⟨⟨j, item''⟩, hentry', rfl⟩ := List.mem_map.1 hentry
        have hget := Dict.mem_entries_iff.1 hentry'
        rw [hs.keyedItems j item'' hget, hget] at hitem
        obtain rfl := Option.some.inj hitem
        exact heq
      · intro heq
        exact List.mem_map.2 ⟨item, List.mem_filter.2 ⟨List.mem_map.2
          ⟨(i, item), Dict.mem_entries_iff.2 hitem, rfl⟩, heq⟩, hs.keyedItems i item hitem⟩
    by_cases heq : item.listId.eq e.listId = true
    · rw [if_pos (hmem.2 heq), Option.filter_some_neg (by simp [heq])]
    · rw [if_neg (fun h => heq (hmem.1 h)), Option.filter_some_pos (by simp [heq])]

/-- A list that goes takes its items, and nothing of another list. -/
lemma deleteList_removes (hs : Sound s) {identifier : String} {e : ExceptionList}
    (htarget : getList identifier s = some e) :
    RemovedWith s (deleteList identifier s) e := by
  have hget := hs.get_of_getList htarget
  have htyped := hs.typed e.id e hget
  have hdeleted : deleteTarget identifier s = some e :=
    (hs.deleteTarget_eq identifier).trans htarget
  simp only [deleteList, hdeleted]
  constructor
  · exact Dict.get_erase_self _ _
  · intro i item hitem heq
    rw [get_items_deleteList hs, hitem, Option.filter_some_neg (by simp [heq])]
  · exact fun j hj => Dict.get_erase_ne _ hj
  · intro j f i item hf hj hitem heq
    have hne : item.listId.eq e.listId = false := by
      rw [Bool.eq_false_iff]
      intro hsame
      rw [eq_iff_of_typed htyped] at hsame
      rw [eq_iff_of_typed (hs.typed j f hf)] at heq
      exact hj (hs.distinct j e.id f e hf hget (heq.symm.trans hsame))
    rw [get_items_deleteList hs, hitem, Option.filter_some_pos (by simp [hne])]

/-- A list that goes leaves the others and their items. -/
lemma deleteList_sound (hs : Sound s) (identifier : String) : Sound (deleteList identifier s) := by
  cases htarget : getList identifier s with
  | none =>
    rw [deleteList, hs.deleteTarget_eq, htarget]
    exact hs
  | some e =>
    have hget := hs.get_of_getList htarget
    have hdeleted : deleteTarget identifier s = some e :=
      (hs.deleteTarget_eq identifier).trans htarget
    simp only [deleteList, hdeleted]
    have hback : ∀ {i f}, (s.lists.erase e.id).get i = some f → s.lists.get i = some f := by
      intro i f hf
      rw [Dict.get_erase] at hf
      split_ifs at hf
      exact hf
    constructor
    · exact fun i f hf => hs.keyed i f (hback hf)
    · intro i item hitem
      rw [get_items_deleteList hs, Option.filter_eq_some_iff] at hitem
      exact hs.keyedItems i item hitem.1
    · exact fun i f hf => hs.typed i f (hback hf)
    · exact fun i j f g hf hg => hs.distinct i j f g (hback hf) (hback hg)
    · exact fun i j f g hf hg => hs.apart i j f g (hback hf) (hback hg)
    · intro i item hitem
      rw [get_items_deleteList hs, Option.filter_eq_some_iff] at hitem
      obtain ⟨j, f, hf, heq⟩ := hs.attached i item hitem.1
      refine ⟨j, f, ?_, heq⟩
      rw [Dict.get_erase_ne, hf]
      rintro rfl
      rw [hget] at hf
      obtain rfl := Option.some.inj hf
      have hsame := (eq_iff_of_typed (hs.typed _ _ hget)).2 heq
      simp [hsame] at hitem

/-- The item that an update resolves a body to is stored under its id. -/
lemma Sound.get_of_itemTarget (hs : Sound s) {data : Object} {item : Item}
    (h : itemTarget data s = some item) : s.items.get item.id = some item := by
  have hstored : ∀ {v item}, getByItemId v s = some item → s.items.get item.id = some item := by
    intro v item h
    obtain ⟨⟨i, item'⟩, hmem, rfl⟩ := List.mem_map.1 (List.mem_of_find?_eq_some h)
    have hget := Dict.mem_entries_iff.1 hmem
    rwa [hs.keyedItems i item' hget]
  have hby : ∀ {item}, ((Assoc.get "item_id" data).bind fun itemId => getByItemId itemId s)
      = some item → s.items.get item.id = some item := by
    intro item h
    obtain ⟨v, _, h⟩ := Option.bind_eq_some_iff.1 h
    exact hstored h
  unfold itemTarget at h
  dsimp only at h
  split at h
  · exact hby h
  · split at h
    · rename_i hget
      obtain rfl := Option.some.inj h
      rwa [hs.keyedItems _ _ hget]
    · exact hby h
  · split at h
    · exact hby h
    · cases h

/-- An item that is written under its id and its `list_id`. -/
lemma updateItem_sound {now : String} {body : Object} (hs : Sound s) :
    Sound (updateItem now body s) := by
  unfold updateItem
  split
  · exact hs
  · rename_i item htarget
    have hitem := hs.get_of_itemTarget htarget
    refine hs.withItems fun i item' hget => ?_
    rw [Dict.get_set] at hget
    split_ifs at hget with hi
    · obtain rfl := Option.some.inj hget
      exact ⟨hi.symm, hs.attached item.id item hitem⟩
    · exact ⟨hs.keyedItems i item' hget, hs.attached i item' hget⟩

lemma deleteItem_sound (hs : Sound s) (identifier : String) : Sound (deleteItem identifier s) := by
  have herase : ∀ id, Sound { s with items := s.items.erase id } := by
    intro id
    refine hs.withItems fun i item hget => ?_
    rw [Dict.get_erase] at hget
    split_ifs at hget
    exact ⟨hs.keyedItems i item hget, hs.attached i item hget⟩
  unfold deleteItem
  split
  · exact herase _
  · split
    · exact herase _
    · exact hs

/-- A request that keeps the identifiers of the lists apart, and the items with them. -/
lemma step_sound {a : Action} (hfresh : Fresh s a) (hs : Sound s) (h : Keeps py s a) :
    Sound (step py s a) := by
  cases a with
  | createList id listId now body =>
    simp only [step]
    split
    · rename_i hvalid
      exact createList_sound hs hfresh.1 hfresh.2 hvalid (h hvalid)
    · exact hs
  | updateList now body => exact updateList_sound hs
  | deleteList listId id =>
    simp only [step]
    split
    · exact deleteList_sound hs _
    · exact hs
  | createItem id itemId now body =>
    simp only [step]
    split
    · rename_i haccepts
      obtain ⟨j, e, he, heq⟩ := h haccepts
      rw [eq_iff_of_typed (hs.typed j e he)] at heq
      refine hs.withItems fun i item hget => ?_
      rw [Dict.get_set] at hget
      split_ifs at hget with hi
      · obtain rfl := Option.some.inj hget
        exact ⟨hi.symm, j, e, he, heq⟩
      · exact ⟨hs.keyedItems i item hget, hs.attached i item hget⟩
    · exact hs
  | updateItem now body =>
    simp only [step]
    split
    · exact updateItem_sound hs
    · exact hs
  | deleteItem itemId id =>
    simp only [step]
    split
    · exact deleteItem_sound hs _
    · exact hs

/-- A request that keeps lists and items together. -/
lemma keeps_of_together {a : Action} (hfresh : Fresh s a) (h : Together (step py s a)) :
    Keeps py s a := by
  cases a with
  | createList id listId now body =>
    intro hvalid v hget
    simp only [step, hvalid, if_true] at h
    exact new_of_createList hfresh.1 h hget
  | createItem id itemId now body =>
    intro haccepts
    simp only [step, haccepts, if_true] at h
    obtain ⟨j, e, he, heq, -⟩ := h.attached id _ (Dict.get_set_self _ _ _)
    exact ⟨j, e, he, heq⟩
  | _ => trivial

lemma step_removed (hs : Sound s) (a : Action) : Removed s (step py s a) a := by
  cases a with
  | deleteList listId id =>
    intro identifier e hlookup htarget
    simp only [step, hlookup]
    exact deleteList_removes hs htarget
  | _ => trivial

/-! ## Along a run -/

/-- Along a run from lists and items that are sound, with ids that are new, lists and items stay
    together and every deletion takes the items of its list and nothing else exactly when every new
    list has a `list_id` that identifies no other list and every new item has the `list_id` of a
    list. -/
theorem together_iff {as : List Action} (hs : Sound s) (hrun : Along (step py) Fresh s as) :
    ((∀ pre, pre <+: as → Together (runFrom (step py) s pre))
        ∧ ∀ pre a, pre ++ [a] <+: as → Removed (runFrom (step py) s pre)
          (runFrom (step py) s (pre ++ [a])) a)
      ↔ Along (step py) (Keeps py) s as := by
  have hiff : (∀ pre, pre <+: as → Together (runFrom (step py) s pre))
      ↔ Along (step py) (Keeps py) s as :=
    Along.always_iff (I := Sound) (P := Together) (fun s h => h.together)
      (fun s a ha hs h => step_sound py ha hs h) (fun s a ha _ h => keeps_of_together py ha h) hs
      hrun
  rw [← hiff]
  refine and_iff_left_of_imp fun htogether pre a hpre => ?_
  obtain ⟨rest, rfl⟩ := hpre
  have hkeeps := (Along.append_iff.1 (hiff.1 htogether)).1
  have hfresh := (Along.append_iff.1 (Along.append_iff.1 hrun).1).1
  have hsound : Sound (runFrom (step py) s pre) :=
    Along.invariant (fun s a h hs => step_sound py h.1 hs h.2)
      (Along.and_iff.2 ⟨hfresh, (Along.append_iff.1 hkeeps).1⟩) hs
  rw [runFrom_append, runFrom_cons, runFrom_nil]
  exact step_removed py hsound a

/-- A list without items. -/
def oneList : Store :=
  ⟨Dict.empty.set "a" ⟨"a", .str "x", 1, []⟩, Dict.empty⟩

lemma sound_oneList : Sound oneList := by
  have hget : ∀ {i e}, oneList.lists.get i = some e → i = "a" ∧ e = ⟨"a", .str "x", 1, []⟩ := by
    intro i e h
    rw [oneList, Dict.get_set] at h
    split_ifs at h with hi
    · exact ⟨hi, (Option.some.inj h).symm⟩
    · cases h
  constructor
  · intro i e he
    obtain ⟨rfl, rfl⟩ := hget he
    rfl
  · intro i item hitem
    cases hitem
  · intro i e he
    obtain ⟨rfl, rfl⟩ := hget he
    rfl
  · intro i j e f he hf _
    rw [(hget he).1, (hget hf).1]
  · intro i j e f he hf _
    rw [(hget he).1, (hget hf).1]
  · intro i item hitem
    cases hitem

/-- A list is renamed and deleted. -/
theorem together_iff_deleted :
    ((∀ pre, pre <+: [.updateList "" [("list_id", .str "x"), ("name", .str "n")],
          .deleteList (some "x") none] →
        Together (runFrom (step asciiPython) oneList pre))
      ∧ ∀ pre a, pre ++ [a] <+: [.updateList "" [("list_id", .str "x"), ("name", .str "n")],
          .deleteList (some "x") none] →
        Removed (runFrom (step asciiPython) oneList pre)
          (runFrom (step asciiPython) oneList (pre ++ [a])) a)
      ↔ Along (step asciiPython) (Keeps asciiPython) oneList
        [.updateList "" [("list_id", .str "x"), ("name", .str "n")],
          .deleteList (some "x") none] :=
  together_iff asciiPython sound_oneList ⟨trivial, trivial, trivial⟩

/-- An item is made under the id of a list in place of its `list_id`. -/
theorem together_iff_byId :
    Sound oneList
      ∧ ¬Together (step asciiPython oneList (.createItem "i" "j" "" [("list_id", .str "a"),
        ("name", .str "n"), ("description", .str "d"), ("type", .str "simple"),
        ("entries", .list [])])) := by
  refine ⟨sound_oneList, fun h => ?_⟩
  obtain ⟨j, e, he, heq⟩ := keeps_of_together asciiPython (s := oneList)
    (a := .createItem "i" "j" "" _) trivial h (by decide +kernel)
  rw [oneList, Dict.get_set] at he
  split_ifs at he
  · obtain rfl := Option.some.inj he
    exact absurd heq (by decide +kernel)
  · cases he

end EsExceptionLists

end Mockdr
