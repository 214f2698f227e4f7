import Mathlib
import Mockdr.Lib.Run
import Mockdr.Sentinel.EdrBridge

/-!
# The integrity of the bridge

* `Integrity`: alerts and incidents name each other, the entities that they name are there, and no
  two entities of a kind have one name.
* `integrity_iff_new`: a run keeps this exactly when no event brings an alert whose id is that of an
  alert with an incident (`NewAlert`); each publication makes an incident of its own.
-/

namespace Mockdr

namespace Sentinel

namespace Bridge

variable {py : Python} {s : Store}

/-- Alerts, incidents and entities that refer to each other. -/
structure Integrity (py : Python) (s : Store) : Prop where
  /-- an alert with an incident is listed by that incident and by no other -/
  carried : ∀ id alert, s.alerts.get id = some alert → alert.incidentId ≠ "" →
    ∀ incidentId, (∃ incident, s.incidents.get incidentId = some incident ∧ id ∈ incident.alertIds)
      ↔ incidentId = alert.incidentId
  /-- an alert that is listed carries the id of the incident -/
  listed : ∀ incidentId incident, s.incidents.get incidentId = some incident →
    ∀ id ∈ incident.alertIds, ∃ alert, s.alerts.get id = some alert ∧ alert.incidentId = incidentId
  /-- the empty id is that of no incident -/
  proper : s.incidents.get "" = none
  /-- the entities of an alert are there -/
  alertEntities : ∀ id alert, s.alerts.get id = some alert →
    ∀ entity ∈ alert.entityIds, s.entities.contains entity = true
  /-- and those of an incident -/
  incidentEntities : ∀ id incident, s.incidents.get id = some incident →
    ∀ entity ∈ incident.entityIds, s.entities.contains entity = true
  /-- no two entities of a kind have one name -/
  named : ∀ kind naming, entityKey kind = some naming → ∀ id id' entity entity',
    s.entities.get id = some entity → s.entities.get id' = some entity' →
    entity.kind = kind → entity'.kind = kind →
    nameIn py naming entity.properties = nameIn py naming entity'.properties → id = id'

/-! ## Entities -/

lemma get_merged {properties later : Object} {k : String} (hnodup : (later.map Prod.fst).Nodup) :
    Assoc.get k (merged properties later) = (Assoc.get k later).or (Assoc.get k properties) := by
  induction later generalizing properties with
  | nil => rfl
  | cons p later ih =>
    obtain ⟨j, v⟩ := p
    rw [List.map_cons, List.nodup_cons] at hnodup
    have hstep : merged properties ((j, v) :: later)
        = merged (Assoc.set j v properties) later := rfl
    rw [hstep, ih hnodup.2, Assoc.get_cons]
    by_cases hk : j = k
    · subst hk
      rw [if_pos rfl, Assoc.get_eq_none_iff.2 hnodup.1, Option.none_or, Assoc.get_set_self,
        Option.some_or]
    · rw [if_neg hk, Assoc.get_set_ne _ _ (Ne.symm hk)]

lemma nameIn_merged {naming : String} {properties later : Object}
    (hnodup : (later.map Prod.fst).Nodup) (hnamed : (Assoc.get naming later).isSome = true) :
    nameIn py naming (merged properties later) = nameIn py naming later := by
  obtain ⟨v, hv⟩ := Option.isSome_iff_exists.1 hnamed
  rw [nameIn, get_merged hnodup, hv, Option.some_or, nameIn, hv]

/-- An entity is found, or made under an id of its own. -/
lemma createEntity_cases {kind naming : String} (drawn : String) (properties : Object)
    (hkey : entityKey kind = some naming) :
    (∃ id existing, s.entities.get id = some existing ∧ existing.kind = kind
        ∧ nameIn py naming existing.properties = nameIn py naming properties
        ∧ createEntity py kind properties drawn s
          = (⟨s.alerts, s.incidents, s.entities.set id
              { existing with properties := merged existing.properties properties }⟩, id))
      ∨ (∀ id existing, s.entities.get id = some existing → existing.kind = kind →
          nameIn py naming existing.properties ≠ nameIn py naming properties)
        ∧ createEntity py kind properties drawn s
          = (⟨s.alerts, s.incidents, s.entities.set ("ent-" ++ drawn) ⟨kind, properties⟩⟩,
            "ent-" ++ drawn) := by
  rw [createEntity, hkey, Option.bind_some, findEntity]
  split
  · next id existing hfound =>
    have hmem := Dict.mem_entries_iff.1 (List.mem_of_find?_eq_some hfound)
    have hsame := List.find?_some hfound
    rw [Bool.and_eq_true, decide_eq_true_eq, decide_eq_true_eq] at hsame
    exact .inl ⟨id, existing, hmem, hsame.1, hsame.2, rfl⟩
  · next hnone =>
    refine .inr ⟨fun id existing hget hkind hname => ?_, rfl⟩
    have hno := List.find?_eq_none.1 hnone (id, existing) (Dict.mem_entries_iff.2 hget)
    exact hno (by rw [Bool.and_eq_true, decide_eq_true_eq, decide_eq_true_eq]; exact ⟨hkind, hname⟩)

/-- Nothing has changed but the entities, and none of them is gone. -/
structure Grown (s s' : Store) : Prop where
  alerts : s'.alerts = s.alerts
  incidents : s'.incidents = s.incidents
  kept : ∀ id, s.entities.contains id = true → s'.entities.contains id = true

lemma Grown.refl (s : Store) : Grown s s := ⟨rfl, rfl, fun _ h => h⟩

lemma Grown.trans {s' s'' : Store} (h : Grown s s') (h' : Grown s' s'') : Grown s s'' :=
  ⟨h'.alerts.trans h.alerts, h'.incidents.trans h.incidents,
    fun id hid => h'.kept id (h.kept id hid)⟩

lemma createEntity_grown {kind drawn naming : String} {properties : Object}
    (hkey : entityKey kind = some naming) :
    Grown s (createEntity py kind properties drawn s).1
      ∧ (createEntity py kind properties drawn s).1.entities.contains
        (createEntity py kind properties drawn s).2 = true := by
  have hset : ∀ (id : String) (entity : Entity),
      Grown s ⟨s.alerts, s.incidents, s.entities.set id entity⟩
        ∧ (s.entities.set id entity).contains id = true := by
    intro id entity
    refine ⟨⟨rfl, rfl, fun id' hid' => ?_⟩, by rw [Dict.contains, Dict.get_set_self]; rfl⟩
    rw [Dict.contains, Dict.get_set]
    split_ifs
    · rfl
    · exact hid'
  rcases createEntity_cases drawn properties (s := s) hkey with
    ⟨id, existing, -, -, -, heq⟩ | ⟨-, heq⟩
  · rw [heq]
    exact hset id _
  · rw [heq]
    exact hset _ _

/-- Creating an entity keeps integrity. -/
lemma Integrity.createEntity {kind drawn naming : String} {properties : Object}
    (hkey : entityKey kind = some naming) (hnodup : (properties.map Prod.fst).Nodup)
    (hnamed : (Assoc.get naming properties).isSome = true) (hs : Integrity py s) :
    Integrity py (createEntity py kind properties drawn s).1 := by
  obtain ⟨hgrown, -⟩ := createEntity_grown (s := s) hkey
  refine ⟨?_, ?_, ?_, ?_, ?_, ?_⟩
  · rw [hgrown.alerts, hgrown.incidents]
    exact hs.carried
  · rw [hgrown.alerts, hgrown.incidents]
    exact hs.listed
  · rw [hgrown.incidents]
    exact hs.proper
  · rw [hgrown.alerts]
    exact fun id alert hget entity hmem =>
      hgrown.kept _ (hs.alertEntities id alert hget entity hmem)
  · rw [hgrown.incidents]
    exact fun id incident hget entity hmem =>
      hgrown.kept _ (hs.incidentEntities id incident hget entity hmem)
  · intro kind' naming' hkey' id₁ id₂ entity₁ entity₂ hget₁ hget₂ hkind₁ hkind₂ hname
    rcases createEntity_cases drawn properties (s := s) hkey
      with ⟨id, existing, hget, hkind, hsame, heq⟩ | ⟨hnew, heq⟩
    · -- the entity that was found keeps its kind and its name
      have hbefore : ∀ id' entity', (s.entities.set id
            { existing with properties := merged existing.properties properties }).get id'
            = some entity' → entity'.kind = kind' →
          ∃ entity, s.entities.get id' = some entity ∧ entity.kind = kind'
            ∧ nameIn py naming' entity.properties = nameIn py naming' entity'.properties := by
        intro id' entity' hget' hkind'
        rw [Dict.get_set] at hget'
        split_ifs at hget' with hid
        · cases hget'
          change existing.kind = kind' at hkind'
          have hsameKey : naming' = naming := by
            rw [← hkind', hkind, hkey] at hkey'
            exact (Option.some.inj hkey').symm
          refine ⟨existing, hid ▸ hget, hkind', ?_⟩
          rw [hsameKey, hsame, nameIn_merged hnodup hnamed]
        · exact ⟨entity', hget', hkind', rfl⟩
      rw [heq] at hget₁ hget₂
      obtain ⟨before₁, hb₁, hk₁, hn₁⟩ := hbefore id₁ entity₁ hget₁ hkind₁
      obtain ⟨before₂, hb₂, hk₂, hn₂⟩ := hbefore id₂ entity₂ hget₂ hkind₂
      exact hs.named kind' naming' hkey' id₁ id₂ before₁ before₂ hb₁ hb₂ hk₁ hk₂
        (by rw [hn₁, hn₂, hname])
    · -- the entity that was made has a name that no other of its kind has
      have hone : ∀ id' entity', s.entities.get id' = some entity' → entity'.kind = kind' →
          kind = kind' → nameIn py naming' entity'.properties ≠ nameIn py naming' properties := by
        rintro id' entity' hget' hkind' rfl
        rw [hkey] at hkey'
        cases hkey'
        exact hnew id' entity' hget' hkind'
      rw [heq] at hget₁ hget₂
      dsimp only at hget₁ hget₂
      rw [Dict.get_set] at hget₁ hget₂
      split_ifs at hget₁ hget₂ with h₁ h₂ h₂
      · rw [h₁, h₂]
      · cases hget₁
        exact absurd hname.symm (hone id₂ entity₂ hget₂ hkind₂ hkind₁)
      · cases hget₂
        exact absurd hname (hone id₁ entity₁ hget₁ hkind₁ hkind₂)
      · exact hs.named kind' naming' hkey' id₁ id₂ entity₁ entity₂ hget₁ hget₂ hkind₁ hkind₂ hname

lemma createNamed_spec {kind naming drawn : String} (name : Json)
    (hkey : entityKey kind = some naming) (hs : Integrity py s) :
    Grown s (createNamed py kind naming name drawn s).1
      ∧ Integrity py (createNamed py kind naming name drawn s).1
      ∧ ∀ id ∈ (createNamed py kind naming name drawn s).2,
        (createNamed py kind naming name drawn s).1.entities.contains id = true := by
  rw [createNamed]
  split_ifs
  · obtain ⟨hgrown, hthere⟩ := createEntity_grown (s := s) hkey
    refine ⟨hgrown, hs.createEntity hkey (by simp) (by simp [Assoc.get_cons]), fun id hid => ?_⟩
    rw [List.mem_singleton.1 hid]
    exact hthere
  · exact ⟨.refl s, hs, nofun⟩

/-- Whether the entities of a payload can be read. -/
def EntitiesReadable (py : Python) (vendor : Vendor) (payload : Object) : Prop :=
  (hostname py vendor payload).isSome = true ∧ (username py vendor payload).isSome = true

/-- The entities of a payload. -/
lemma extractEntities_spec (vendor : Vendor) (payload : Object) (drawn : Drawn)
    (hs : Integrity py s) :
    Grown s (extractEntities py vendor payload drawn s).1
      ∧ Integrity py (extractEntities py vendor payload drawn s).1
      ∧ ((extractEntities py vendor payload drawn s).2.isSome = true
        ↔ EntitiesReadable py vendor payload)
      ∧ ∀ ids, (extractEntities py vendor payload drawn s).2 = some ids → ∀ id ∈ ids,
        (extractEntities py vendor payload drawn s).1.entities.contains id = true := by
  rw [extractEntities, EntitiesReadable]
  cases hostname py vendor payload with
  | none => exact ⟨.refl s, hs, by simp, nofun⟩
  | some host =>
    obtain ⟨hg₁, hs₁, hin₁⟩ := createNamed_spec host
      (show entityKey "Host" = some "hostName" from rfl) hs
    dsimp only
    generalize createNamed py "Host" "hostName" host drawn.host s = hosts at *
    cases username py vendor payload with
    | none => exact ⟨hg₁, hs₁, by simp, nofun⟩
    | some user =>
      obtain ⟨hg₂, hs₂, hin₂⟩ := createNamed_spec user
        (show entityKey "Account" = some "accountName" from rfl) hs₁
      dsimp only
      generalize createNamed py "Account" "accountName" user drawn.account hosts.1 = accounts at *
      obtain ⟨hg₃, hs₃, hin₃⟩ := createNamed_spec (ipAddr py vendor payload)
        (show entityKey "Ip" = some "address" from rfl) hs₂
      refine ⟨(hg₁.trans hg₂).trans hg₃, hs₃, by simp, ?_⟩
      rintro ids ⟨⟩ id hid
      rcases List.mem_append.1 hid with hid | hid
      · rcases List.mem_append.1 hid with hid | hid
        · exact (hg₂.trans hg₃).kept id (hin₁ id hid)
        · exact hg₃.kept id (hin₂ id hid)
      · exact hin₃ id hid

/-! ## Alerts and incidents -/

lemma Integrity.unlisted {alertId : String} (hs : Integrity py s)
    (hnew : ∀ old, s.alerts.get alertId = some old → old.incidentId = "") :
    ∀ id incident, s.incidents.get id = some incident → alertId ∉ incident.alertIds := by
  intro id incident hget hmem
  obtain ⟨listed, hlisted, hcarried⟩ := hs.listed id incident hget alertId hmem
  rw [hnew listed hlisted] at hcarried
  rw [← hcarried, hs.proper] at hget
  cases hget

/-- An alert that is stored with a new incident that lists it keeps integrity, if no alert with an
    incident is stored under its id. -/
lemma Integrity.attach {alertId incidentId : String} {alert : Alert} {incident : Incident}
    (hnew : ∀ old, s.alerts.get alertId = some old → old.incidentId = "")
    (hfresh : s.incidents.get incidentId = none) (hne : incidentId ≠ "")
    (hcarries : alert.incidentId = incidentId) (hlists : incident.alertIds = [alertId])
    (halert : ∀ id ∈ alert.entityIds, s.entities.contains id = true)
    (hincident : ∀ id ∈ incident.entityIds, s.entities.contains id = true)
    (hs : Integrity py s) :
    Integrity py ⟨s.alerts.set alertId alert, s.incidents.set incidentId incident, s.entities⟩ := by
  have hunlisted := hs.unlisted hnew
  refine ⟨?_, ?_, ?_, ?_, ?_, hs.named⟩
  · intro id stored hget hcarried iid
    dsimp only at hget ⊢
    rw [Dict.get_set] at hget
    split_ifs at hget with hid
    · subst hid
      cases hget
      rw [hcarries]
      constructor
      · rintro ⟨old, hold, hmem⟩
        rw [Dict.get_set] at hold
        split_ifs at hold with hiid
        · exact hiid
        · exact absurd hmem (hunlisted iid old hold)
      · rintro rfl
        exact ⟨incident, Dict.get_set_self _ _ _, by rw [hlists]; exact List.mem_singleton_self _⟩
    · rw [← hs.carried id stored hget hcarried iid]
      apply exists_congr
      intro old
      rw [Dict.get_set]
      split_ifs with hiid
      · rw [hiid, hfresh]
        constructor
        · rintro ⟨⟨⟩, hmem⟩
          rw [hlists] at hmem
          exact absurd (List.mem_singleton.1 hmem) hid
        · rintro ⟨⟨⟩, -⟩
      · rfl
  · intro iid stored hget id hmem
    dsimp only at hget ⊢
    rw [Dict.get_set] at hget
    split_ifs at hget with hiid
    · cases hget
      rw [hlists] at hmem
      rw [List.mem_singleton.1 hmem]
      exact ⟨alert, Dict.get_set_self _ _ _, hcarries.trans hiid.symm⟩
    · obtain ⟨old, hold, hcarried⟩ := hs.listed iid stored hget id hmem
      refine ⟨old, ?_, hcarried⟩
      rw [Dict.get_set_ne]
      · exact hold
      · rintro rfl
        exact hunlisted iid stored hget hmem
  · rw [Dict.get_set_ne _ _ (Ne.symm hne)]
    exact hs.proper
  · intro id stored hget
    dsimp only at hget ⊢
    rw [Dict.get_set] at hget
    split_ifs at hget
    · cases hget
      exact halert
    · exact hs.alertEntities id stored hget
  · intro id stored hget
    dsimp only at hget ⊢
    rw [Dict.get_set] at hget
    split_ifs at hget
    · cases hget
      exact hincident
    · exact hs.incidentEntities id stored hget

/-- An alert that is stored without an incident keeps integrity, if no alert with an incident is
    stored under its id. -/
lemma Integrity.detached {alertId : String} {alert : Alert}
    (hnew : ∀ old, s.alerts.get alertId = some old → old.incidentId = "")
    (hcarries : alert.incidentId = "") (hnone : alert.entityIds = []) (hs : Integrity py s) :
    Integrity py { s with alerts := s.alerts.set alertId alert } := by
  refine ⟨?_, ?_, hs.proper, ?_, hs.incidentEntities, hs.named⟩
  · intro id stored hget hcarried
    dsimp only at hget ⊢
    rw [Dict.get_set] at hget
    split_ifs at hget
    · cases hget
      exact absurd hcarries hcarried
    · exact hs.carried id stored hget hcarried
  · intro iid stored hget id hmem
    obtain ⟨old, hold, hcarried⟩ := hs.listed iid stored hget id hmem
    refine ⟨old, ?_, hcarried⟩
    dsimp only
    rw [Dict.get_set_ne]
    · exact hold
    · rintro rfl
      exact hs.unlisted hnew iid stored hget hmem
  · intro id stored hget
    dsimp only at hget ⊢
    rw [Dict.get_set] at hget
    split_ifs at hget
    · cases hget
      rw [hnone]
      exact fun _ hid => absurd hid List.not_mem_nil
    · exact hs.alertEntities id stored hget

lemma Integrity.incidentId_eq {alertId : String} {old alert : Alert} {s' : Store}
    (hold : s.alerts.get alertId = some old) (hcarried : old.incidentId ≠ "")
    (hs : Integrity py s) (hs' : Integrity py s')
    (hkept : ∀ id incident, s.incidents.get id = some incident →
      s'.incidents.get id = some incident)
    (hget : s'.alerts.get alertId = some alert) : alert.incidentId = old.incidentId := by
  obtain ⟨incident, hincident, hmem⟩ := (hs.carried alertId old hold hcarried _).2 rfl
  obtain ⟨listed, hlisted, heq⟩ := hs'.listed _ incident (hkept _ _ hincident) alertId hmem
  rw [hget] at hlisted
  cases hlisted
  exact heq

/-! ## Events -/

/-- The alert that a handler of an event stores, under its id, if the payload can be read. -/
def Event.alert (py : Python) (e : Event) : Option (Vendor × String × Option Alert) :=
  match e.kind with
  | .mdeAlertCreated => some (.mde, mdeAlert py e.payload e.drawn e.now)
  | .threatCreated => some (.s1, s1Alert py e.payload e.drawn e.now)
  | .csDetectionCreated => some (.cs, csAlert py e.payload e.drawn e.now)
  | .esAlertCreated => some (.es, esAlert py e.payload e.drawn e.now)
  | .xdrIncidentCreated => some (.xdr, xdrIncidentAlert py e.payload e.drawn e.now)
  | .xdrAlertCreated | .mdeMachineUpdated => none

/-- The id of the alert that an event stores, if it stores one: that of an alert of Cortex XDR, or
    any other whose payload can be read. -/
def Stores (py : Python) (e : Event) (alertId : String) : Prop :=
  (e.kind = .xdrAlertCreated ∧ alertId = (xdrAlert py e.payload e.drawn e.now).1)
    ∨ ∃ vendor alert, e.alert py = some (vendor, alertId, some alert)
      ∧ EntitiesReadable py vendor e.payload

/-- No alert with an incident is stored under the id of the alert that an event stores. -/
def NewAlert (py : Python) (s : Store) (e : Event) : Prop :=
  ∀ alertId, Stores py e alertId → ∀ old, s.alerts.get alertId = some old → old.incidentId = ""

/-- The id that is drawn for an incident is that of no other. -/
def FreshIncident (s : Store) (e : Event) : Prop :=
  s.incidents.get ("inc-" ++ e.drawn.incident) = none

lemma incidentId_ne (hex : String) : "inc-" ++ hex ≠ "" := by
  intro h
  have hlist := congrArg String.toList h
  rw [String.toList_append] at hlist
  cases hlist

/-- An event that is bridged: either nothing but entities comes of it, or the alert is stored with
    an incident that lists it. -/
lemma bridge_cases {vendor : Vendor} {provider product alertId now : String}
    (alert : Option Alert) {payload : Object} {drawn : Drawn} (hs : Integrity py s) :
    (¬ (EntitiesReadable py vendor payload ∧ alert.isSome = true)
        ∧ Integrity py (bridge py vendor provider product alertId alert payload drawn now s))
      ∨ EntitiesReadable py vendor payload ∧ alert.isSome = true
        ∧ ∃ (s' : Store) (stored : Alert) (incident : Incident), Grown s s' ∧ Integrity py s'
          ∧ stored.incidentId = "inc-" ++ drawn.incident ∧ incident.alertIds = [alertId]
          ∧ (∀ id ∈ stored.entityIds, s'.entities.contains id = true)
          ∧ (∀ id ∈ incident.entityIds, s'.entities.contains id = true)
          ∧ bridge py vendor provider product alertId alert payload drawn now s
            = ⟨s'.alerts.set alertId stored,
                s'.incidents.set ("inc-" ++ drawn.incident) incident, s'.entities⟩ := by
  obtain ⟨hgrown, hs', hread, hin⟩ := extractEntities_spec vendor payload drawn hs
  rw [bridge]
  generalize extractEntities py vendor payload drawn s = extracted at *
  obtain ⟨s', ids⟩ := extracted
  cases ids with
  | none =>
    refine .inl ⟨fun h => ?_, hs'⟩
    have hsome := hread.2 h.1
    cases hsome
  | some ids =>
    cases alert with
    | none => exact .inl ⟨nofun, hs'⟩
    | some alert =>
      exact .inr ⟨hread.1 rfl, rfl, s', _, _, hgrown, hs', rfl, rfl, hin ids rfl, hin ids rfl, rfl⟩

lemma publish_cases (py : Python) (s : Store) (e : Event) :
    (∃ vendor provider product alertId alert, e.alert py = some (vendor, alertId, alert)
        ∧ publish py s e
          = bridge py vendor provider product alertId alert e.payload e.drawn e.now s)
      ∨ e.alert py = none
        ∧ ((e.kind = .xdrAlertCreated ∧ publish py s e
              = ⟨s.alerts.set (xdrAlert py e.payload e.drawn e.now).1
                  (xdrAlert py e.payload e.drawn e.now).2, s.incidents, s.entities⟩)
          ∨ e.kind = .mdeMachineUpdated
            ∧ publish py s e = handleMdeMachine py e.payload e.drawn s) := by
  obtain ⟨kind, payload, drawn, now⟩ := e
  cases kind with
  | mdeAlertCreated => exact .inl ⟨_, _, _, _, _, rfl, rfl⟩
  | threatCreated => exact .inl ⟨_, _, _, _, _, rfl, rfl⟩
  | csDetectionCreated => exact .inl ⟨_, _, _, _, _, rfl, rfl⟩
  | esAlertCreated => exact .inl ⟨_, _, _, _, _, rfl, rfl⟩
  | xdrIncidentCreated => exact .inl ⟨_, _, _, _, _, rfl, rfl⟩
  | xdrAlertCreated => exact .inr ⟨rfl, .inl ⟨rfl, rfl⟩⟩
  | mdeMachineUpdated => exact .inr ⟨rfl, .inr ⟨rfl, rfl⟩⟩

lemma Integrity.handleMdeMachine {payload : Object} {drawn : Drawn} (hs : Integrity py s) :
    Integrity py (handleMdeMachine py payload drawn s) := by
  rw [Bridge.handleMdeMachine]
  dsimp only
  split
  · exact hs.createEntity rfl (by simp) (by simp [Assoc.get_cons])
  · exact hs

lemma Integrity.publish {e : Event} (hfresh : FreshIncident s e) (hnew : NewAlert py s e)
    (hs : Integrity py s) : Integrity py (publish py s e) := by
  rcases publish_cases py s e with
    ⟨vendor, provider, product, alertId, alert, halert, heq⟩ | ⟨-, ⟨hkind, heq⟩ | ⟨-, heq⟩⟩
  · rw [heq]
    rcases bridge_cases alert hs
      with ⟨-, h⟩
        | ⟨hread, hsome, s', stored, incident, hgrown, hs', hcarries, hlists, hin, hin', heq⟩
    · exact h
    · rw [heq]
      obtain ⟨made, rfl⟩ := Option.isSome_iff_exists.1 hsome
      refine hs'.attach ?_ ?_ (incidentId_ne _) hcarries hlists hin hin'
      · rw [hgrown.alerts]
        exact hnew alertId (.inr ⟨vendor, made, halert, hread⟩)
      · rw [hgrown.incidents]
        exact hfresh
  · rw [heq]
    exact hs.detached (hnew _ (.inl ⟨hkind, rfl⟩)) rfl rfl
  · rw [heq]
    exact hs.handleMdeMachine

/-- What an event leaves in order, it has brought a new alert to. -/
lemma newAlert_of_integrity {e : Event} (hfresh : FreshIncident s e) (hs : Integrity py s)
    (hs' : Integrity py (publish py s e)) : NewAlert py s e := by
  intro alertId hstores old hold
  by_contra hcarried
  rcases hstores with ⟨hkind, rfl⟩ | ⟨vendor, alert, halert, hread⟩
  · -- an alert of Cortex XDR names no incident
    have hpublish : Bridge.publish py s e
        = ⟨s.alerts.set (xdrAlert py e.payload e.drawn e.now).1
            (xdrAlert py e.payload e.drawn e.now).2, s.incidents, s.entities⟩ := by
      rw [Bridge.publish, hkind]
    rw [hpublish] at hs'
    have heq := Integrity.incidentId_eq hold hcarried hs hs' (fun _ _ h => h)
      (Dict.get_set_self _ _ _)
    exact hcarried heq.symm
  · -- any other names an incident of its own
    obtain ⟨incident, hincident, -⟩ := (hs.carried alertId old hold hcarried _).2 rfl
    rcases publish_cases py s e with
      ⟨vendor', provider, product, alertId', alert', halert', heq⟩ | ⟨hnone, -⟩
    · rw [halert] at halert'
      cases halert'
      rw [heq] at hs'
      rcases bridge_cases (some alert) hs
        with ⟨hno, -⟩ | ⟨-, -, s', stored, made, hgrown, -, hcarries, -, -, -, heq⟩
      · exact hno ⟨hread, rfl⟩
      · rw [heq] at hs'
        have hsame := Integrity.incidentId_eq hold hcarried hs hs' (fun id old h => ?_)
          (Dict.get_set_self _ _ _)
        · rw [hcarries] at hsame
          rw [← hsame, hfresh] at hincident
          cases hincident
        · dsimp only
          rw [hgrown.incidents, Dict.get_set_ne]
          · exact h
          · rintro rfl
            rw [FreshIncident, h] at hfresh
            cases hfresh
    · rw [halert] at hnone
      cases hnone

/-- Throughout a run of events, whatever was published before, alerts, incidents and entities refer
    to each other as they should exactly when no event brings an alert whose id is that of an alert
    with an incident. -/
theorem integrity_iff_new (py : Python) {s : Store} (hs : Integrity py s) {es : List Event}
    (hfresh : Along (publish py) FreshIncident s es) :
    (∀ pre, pre <+: es → Integrity py (runFrom (publish py) s pre))
      ↔ Along (publish py) (NewAlert py) s es :=
  Along.always_iff (I := Integrity py) (P := Integrity py) (fun _ h => h)
    (fun _ _ hfresh h hnew => h.publish hfresh hnew)
    (fun _ _ hfresh h h' => newAlert_of_integrity hfresh h h') hs hfresh

/-- Nothing has been bridged. -/
def Store.init : Store := ⟨.empty, .empty, .empty⟩

lemma integrity_init : Integrity py .init :=
  ⟨nofun, nofun, rfl, nofun, nofun, nofun⟩

/-- A threat with an id. -/
def threat (id incident : String) : Event where
  kind := .threatCreated
  payload := [("id", .str id)]
  drawn := ⟨"0", incident, "0", "0", "0", "0"⟩
  now := "2025-01-01T00:00:00Z"

/-- Two threats with ids of their own. -/
theorem integrity_iff_new_two :
    Integrity asciiPython
      (runFrom (publish asciiPython) .init [threat "1" "a", threat "2" "b"]) := by
  have hfresh : Along (publish asciiPython) FreshIncident .init
      [threat "1" "a", threat "2" "b"] := ⟨rfl, rfl, trivial⟩
  refine (integrity_iff_new asciiPython integrity_init hfresh).2 ⟨nofun, ?_, trivial⟩ _
    List.prefix_rfl
  rintro alertId (⟨⟨⟩, -⟩ | ⟨vendor, alert, halert, -⟩) old hold
  have hid : alertId = "s1-2" := (Prod.mk.inj (Prod.mk.inj (Option.some.inj halert)).2).1.symm
  subst hid
  cases hold

/-- One threat that is published twice is in two incidents. -/
theorem published_twice :
    ((runFrom (publish asciiPython) .init [threat "1" "a", threat "1" "b"]).incidents.entries.map
      fun p => p.2.alertIds) = [["s1-1"], ["s1-1"]] := by
  rfl

end Bridge

end Sentinel

end Mockdr
