import Mathlib
import Mockdr.Lib.Except
import Mockdr.Sentinel.BridgeIntegrity
import Mockdr.Sentinel.Preconditions

/-!
# The numbers of the incidents

`application/sentinel/commands/incidents.py` behind the routes of `sentinel_incidents.py`, beside
the bridge from the vendors' events: who makes an incident numbers it by what is stored.

* `Ledger` keeps of an incident what numbering and conditional writes read. `ledger` is that of the
  bridge's store; `ledger_publish`: an event does to it what `published` says.
* `numbers` are those of the incidents that a run makes, in the order of their creation.
* `neverReused_iff_lastKept`: they increase exactly along the runs that make no incident while the
  one that was made last is gone.
-/

namespace Mockdr.Sentinel.Incidents

/-- What is kept of a `SentinelIncident`. -/
structure Record where
  incidentNumber : Nat
  etag : String

/-- The incidents by their names. -/
abbrev Ledger := Dict String Record

variable (casefold : String → String) (py : Python)

/-! ## Commands -/

/-- `next_incident_number` -/
def nextIncidentNumber (l : Ledger) : Nat :=
  (l.entries.map fun p => p.2.incidentNumber).foldl max 0 + 1

/-- `_stored_key` -/
def storedKey (l : Ledger) (id : String) : Option String :=
  if l.contains id then some id else l.keys.find? fun key => casefold key = casefold id

/-- The incident that a name finds, with its key. -/
def find (l : Ledger) (id : String) : Option (String × Record) :=
  (storedKey casefold l id).bind fun key => (l.get key).map (key, ·)

/-- `REQUIRED_PROPERTIES` -/
def requiredProperties : List String := ["title", "severity", "status"]

/-- `missing_required` -/
def missingRequired : Json → List String
  | .dict properties => requiredProperties.filter fun name =>
    match Assoc.get name properties with
    | some (.str _) => false
    | _ => true
  | _ => requiredProperties

/-- `create_or_update_incident`, and whether it has created one. -/
def createOrUpdateIncident (id etag : String) (l : Ledger) : Ledger × Bool :=
  match find casefold l id with
  | some (key, existing) => (l.set key { existing with etag := etag }, false)
  | none => (l.set id ⟨nextIncidentNumber l, etag⟩, true)

/-- `delete_incident` -/
def deleteIncident (id : String) (l : Ledger) : Ledger × Bool :=
  match storedKey casefold l id with
  | some key => (l.erase key, true)
  | none => (l, false)

/-! ## Routes -/

/-- What a body is refused with that is no object. -/
def notAnObject : ArmError := ⟨400, "BadRequest", "Request body must be a JSON object"⟩

/-- What a body is refused with that leaves something out. -/
def requiredMissing (missing : List String) : ArmError where
  statusCode := 400
  code := "BadRequest"
  message := "Required properties are missing: "
    ++ ", ".intercalate (missing.map fun name => "'properties." ++ name ++ "'")

/-- The condition of a request is for the incident that is there. -/
def checkExisting (id : String) (ifMatch : Option String) (l : Ledger) : Except ArmError Unit :=
  match find casefold l id with
  | some (_, existing) => checkIfMatch ifMatch existing.etag
  | none => .ok ()

/-- The `PUT` of an incident. -/
def putIncident (id : String) (ifMatch : Option String) (body : Json) (etag : String)
    (l : Ledger) : Except ArmError (Ledger × Bool) :=
  match body with
  | .dict body => do
    checkExisting casefold id ifMatch l
    let missing := missingRequired ((Assoc.get "properties" body).getD .null)
    if missing = [] then .ok (createOrUpdateIncident casefold id etag l)
    else .error (requiredMissing missing)
  | _ => .error notAnObject

/-! ## The bridge -/

/-- The incident that an event makes, by the name it is given. -/
def incidentOf (e : Bridge.Event) : Option String :=
  match e.alert py with
  | some (vendor, _, some _) =>
    if (Bridge.hostname py vendor e.payload).isSome && (Bridge.username py vendor e.payload).isSome
    then some ("inc-" ++ e.drawn.incident) else none
  | _ => none

/-- What an event does to the incidents. -/
def published (e : Bridge.Event) (l : Ledger) : Ledger :=
  match incidentOf py e with
  | some key => l.set key ⟨nextIncidentNumber l, e.drawn.etag⟩
  | none => l

/-- The incidents of the bridge's store. -/
def ledger (s : Bridge.Store) : Ledger :=
  s.incidents.mapValues fun incident => ⟨incident.incidentNumber, incident.etag⟩

/-! ## Runs -/

/-- A request, or an event that is bridged. -/
inductive Action where
  | put (id : String) (ifMatch : Option String) (body : Json) (etag : String)
  | delete (id : String)
  | publish (e : Bridge.Event)

/-- What an action leaves. A request that is refused changes nothing. -/
def step (l : Ledger) : Action → Ledger
  | .put id ifMatch body etag =>
    match putIncident casefold id ifMatch body etag l with
    | .ok (l', _) => l'
    | .error _ => l
  | .delete id => (deleteIncident casefold id l).1
  | .publish e => published py e l

/-- The incident that an action creates, by its name. -/
def created (l : Ledger) : Action → Option String
  | .put id ifMatch body etag =>
    match putIncident casefold id ifMatch body etag l with
    | .ok (_, true) => some id
    | _ => none
  | .delete _ => none
  | .publish e => incidentOf py e

/-- The numbers of the incidents that a run creates, as they are stored. -/
def numbers : Ledger → List Action → List Nat
  | _, [] => []
  | l, a :: as =>
    let l' := step casefold py l a
    match (created casefold py l a).bind l'.get with
    | some record => record.incidentNumber :: numbers l' as
    | none => numbers l' as

/-- No number is given twice, and each is above those before it. -/
structure NeverReused (given : List Nat) : Prop where
  nodup : given.Nodup
  increasing : given.Pairwise (· < ·)

/-- A step, and which incident was created last. -/
def follow (p : Ledger × Option String) (a : Action) : Ledger × Option String :=
  (step casefold py p.1 a, (created casefold py p.1 a).or p.2)

/-- An action creates no incident while the one that was created last is gone. -/
def LastKept (p : Ledger × Option String) (a : Action) : Prop :=
  (created casefold py p.1 a).isSome = true → ∀ key, p.2 = some key → p.1.contains key = true

variable {casefold py}

/-! ## The bridge makes what is published -/

lemma nextIncidentNumber_ledger (s : Bridge.Store) :
    nextIncidentNumber (ledger s) = Bridge.nextIncidentNumber s := by
  rw [nextIncidentNumber, Bridge.nextIncidentNumber, ledger, Dict.mapValues, List.map_map]
  rfl

/-- Reading the entities of a payload leaves the incidents alone, and raises where the host or the
    account cannot be read. -/
lemma extractEntities_incidents (vendor : Bridge.Vendor) (payload : Object)
    (drawn : Bridge.Drawn) (s : Bridge.Store) :
    (Bridge.extractEntities py vendor payload drawn s).1.incidents = s.incidents
      ∧ (Bridge.extractEntities py vendor payload drawn s).2.isSome
        = ((Bridge.hostname py vendor payload).isSome
          && (Bridge.username py vendor payload).isSome) := by
  have hnamed : ∀ (kind naming : String) (name : Json) (hex : String) (s : Bridge.Store),
      (Bridge.createNamed py kind naming name hex s).1.incidents = s.incidents := by
    intro kind naming name hex s
    rw [Bridge.createNamed]
    split
    · rw [Bridge.createEntity]
      dsimp only
      split <;> rfl
    · rfl
  rw [Bridge.extractEntities]
  cases Bridge.hostname py vendor payload with
  | none => exact ⟨rfl, rfl⟩
  | some host =>
    cases Bridge.username py vendor payload with
    | none => exact ⟨hnamed _ _ _ _ s, rfl⟩
    | some user =>
      refine ⟨?_, rfl⟩
      dsimp only
      rw [hnamed, hnamed, hnamed]

/-- An event does to the incidents of the bridge's store what `published` says. -/
lemma ledger_publish (s : Bridge.Store) (e : Bridge.Event) :
    ledger (Bridge.publish py s e) = published py e (ledger s) := by
  rw [published, incidentOf]
  rcases Bridge.publish_cases py s e with
    ⟨vendor, provider, product, alertId, alert, halert, heq⟩ | ⟨halert, hrest⟩
  · rw [heq, halert, Bridge.bridge]
    obtain ⟨hincidents, hread⟩ :
        (Bridge.extractEntities py vendor e.payload e.drawn s).1.incidents = s.incidents
          ∧ (Bridge.extractEntities py vendor e.payload e.drawn s).2.isSome
            = ((Bridge.hostname py vendor e.payload).isSome
              && (Bridge.username py vendor e.payload).isSome) :=
      extractEntities_incidents vendor e.payload e.drawn s
    have hledger : ledger (Bridge.extractEntities py vendor e.payload e.drawn s).1 = ledger s :=
      congrArg (Dict.mapValues _) hincidents
    generalize Bridge.extractEntities py vendor e.payload e.drawn s = extracted at *
    obtain ⟨s', ids⟩ := extracted
    dsimp only at hread hledger ⊢
    cases alert with
    | none => cases ids <;> exact hledger
    | some alert =>
      dsimp only
      rw [← hread]
      cases ids with
      | none => exact hledger
      | some ids =>
        dsimp only [Bridge.findOrCreateIncident, Option.isSome_some]
        rw [if_pos rfl, ← hledger, nextIncidentNumber_ledger]
        exact Dict.mapValues_set _ _ _ _
  · rw [halert]
    rcases hrest with ⟨-, heq⟩ | ⟨-, heq⟩
    · rw [heq]
      rfl
    · rw [heq, Bridge.handleMdeMachine]
      dsimp only
      split
      · rw [Bridge.createEntity]
        dsimp only
        split <;> rfl
      · rfl

/-! ## What an action does -/

lemma lt_nextIncidentNumber_iff {l : Ledger} {n : Nat} :
    n < nextIncidentNumber l
      ↔ n = 0 ∨ ∃ key record, l.get key = some record ∧ n ≤ record.incidentNumber := by
  have hfold : ∀ (numbers : List Nat) (m : Nat),
      n ≤ numbers.foldl max m ↔ n ≤ m ∨ ∃ k ∈ numbers, n ≤ k := by
    intro numbers
    induction numbers with
    | nil => simp
    | cons k numbers ih =>
      intro m
      simp only [List.foldl_cons, ih, le_max_iff, List.mem_cons, exists_eq_or_imp, or_assoc]
  rw [nextIncidentNumber, Nat.lt_succ_iff, hfold, Nat.le_zero]
  apply or_congr Iff.rfl
  constructor
  · rintro ⟨k, hk, hle⟩
    obtain ⟨p, hp, rfl⟩ := List.mem_map.1 hk
    exact ⟨p.1, p.2, Dict.mem_entries_iff.1 hp, hle⟩
  · rintro ⟨key, record, hget, hle⟩
    exact ⟨_, List.mem_map.2 ⟨(key, record), Dict.mem_entries_iff.2 hget, rfl⟩, hle⟩

lemma find_spec {l : Ledger} {id key : String} {record : Record}
    (h : find casefold l id = some (key, record)) : l.get key = some record := by
  obtain ⟨key', -, hmap⟩ := Option.bind_eq_some_iff.1 h
  obtain ⟨record', hget, heq⟩ := Option.map_eq_some_iff.1 hmap
  cases heq
  exact hget

lemma putIncident_eq_ok {l : Ledger} {id etag : String} {ifMatch : Option String} {body : Json}
    {written : Ledger × Bool} (h : putIncident casefold id ifMatch body etag l = .ok written) :
    written = createOrUpdateIncident casefold id etag l := by
  cases body with
  | dict body =>
    obtain ⟨_, -, h⟩ := bind_eq_ok_iff.1 h
    dsimp only at h
    split_ifs at h
    cases h
    rfl
  | _ => cases h

/-- What an action that creates no incident may do: nothing, give one a new tag, or drop one. -/
inductive Kept (l : Ledger) : Ledger → Prop
  | same : Kept l l
  | retag {key : String} {record : Record} (etag : String) (h : l.get key = some record) :
    Kept l (l.set key { record with etag := etag })
  | erase (key : String) : Kept l (l.erase key)

/-- An action creates an incident with the next number, or none. -/
lemma step_cases (casefold : String → String) (py : Python) (l : Ledger) (a : Action) :
    (created casefold py l a = none ∧ Kept l (step casefold py l a))
      ∨ ∃ key etag, created casefold py l a = some key
        ∧ step casefold py l a = l.set key ⟨nextIncidentNumber l, etag⟩ := by
  cases a with
  | put id ifMatch body etag =>
    rw [created, step]
    cases hput : putIncident casefold id ifMatch body etag l with
    | error e => exact .inl ⟨rfl, .same⟩
    | ok written =>
      rw [putIncident_eq_ok hput, createOrUpdateIncident]
      cases hfind : find casefold l id with
      | none => exact .inr ⟨id, etag, rfl, rfl⟩
      | some found => exact .inl ⟨rfl, .retag etag (find_spec hfind)⟩
  | delete id =>
    refine .inl ⟨rfl, ?_⟩
    rw [step, deleteIncident]
    cases storedKey casefold l id with
    | none => exact .same
    | some key => exact .erase key
  | publish e =>
    rw [created, step, published]
    cases incidentOf py e with
    | none => exact .inl ⟨rfl, .same⟩
    | some key => exact .inr ⟨key, e.drawn.etag, rfl, rfl⟩

/-! ## The number that was given last -/

/-- No stored number is above the one that was given last, which is that of one name only. -/
structure Tracks (l : Ledger) (key : String) (top : Nat) : Prop where
  le : ∀ id record, l.get id = some record → record.incidentNumber ≤ top
  only : ∀ id record, l.get id = some record → (record.incidentNumber = top ↔ id = key)

lemma tracks_set (l : Ledger) (key etag : String) :
    Tracks (l.set key ⟨nextIncidentNumber l, etag⟩) key (nextIncidentNumber l) := by
  have hlt : ∀ id record, l.get id = some record →
      record.incidentNumber < nextIncidentNumber l := by
    intro id record hget
    exact lt_nextIncidentNumber_iff.2 (.inr ⟨id, record, hget, le_rfl⟩)
  constructor
  · intro id record hget
    rw [Dict.get_set] at hget
    split_ifs at hget
    · cases hget
      exact le_rfl
    · exact (hlt id record hget).le
  · intro id record hget
    rw [Dict.get_set] at hget
    split_ifs at hget with hid
    · cases hget
      exact iff_of_true rfl hid
    · exact iff_of_false (hlt id record hget).ne hid

/-- An action that creates no incident gives no number. -/
lemma Tracks.kept {l l' : Ledger} {key : String} {top : Nat} (h : Tracks l key top)
    (hkept : Kept l l') : Tracks l' key top := by
  have hold : ∀ id record', l'.get id = some record' →
      ∃ record, l.get id = some record ∧ record.incidentNumber = record'.incidentNumber := by
    intro id record' hget
    cases hkept with
    | same => exact ⟨record', hget, rfl⟩
    | retag etag hrecord =>
      rw [Dict.get_set] at hget
      split_ifs at hget with hid
      · cases hget
        subst hid
        exact ⟨_, hrecord, rfl⟩
      · exact ⟨record', hget, rfl⟩
    | erase key' =>
      rw [Dict.get_erase] at hget
      split_ifs at hget
      exact ⟨record', hget, rfl⟩
  constructor
  · intro id record' hget
    obtain ⟨record, hrecord, heq⟩ := hold id record' hget
    exact heq ▸ h.le id record hrecord
  · intro id record' hget
    obtain ⟨record, hrecord, heq⟩ := hold id record' hget
    exact heq ▸ h.only id record hrecord

lemma Tracks.lt_next_iff {l : Ledger} {key : String} {top : Nat} (h : Tracks l key top)
    (htop : top ≠ 0) : top < nextIncidentNumber l ↔ l.contains key = true := by
  rw [lt_nextIncidentNumber_iff, or_iff_right htop, Dict.contains, Option.isSome_iff_exists]
  constructor
  · rintro ⟨id, record, hget, hle⟩
    have hid := (h.only id record hget).1 (le_antisymm (h.le id record hget) hle)
    exact ⟨record, hid ▸ hget⟩
  · rintro ⟨record, hget⟩
    exact ⟨key, record, hget, ((h.only key record hget).2 rfl).ge⟩

/-! ## Runs -/

lemma numbers_cons_none {l : Ledger} {a : Action} (h : created casefold py l a = none)
    (as : List Action) :
    numbers casefold py l (a :: as) = numbers casefold py (step casefold py l a) as := by
  rw [numbers, h]
  rfl

lemma numbers_cons_some {l : Ledger} {a : Action} {key etag : String}
    (h : created casefold py l a = some key)
    (hstep : step casefold py l a = l.set key ⟨nextIncidentNumber l, etag⟩) (as : List Action) :
    numbers casefold py l (a :: as)
      = nextIncidentNumber l :: numbers casefold py (step casefold py l a) as := by
  rw [numbers, h, hstep, Option.bind_some, Dict.get_set_self]

/-- After an incident has been made, the numbers that follow increase from its own exactly along
    the runs that keep the last one. -/
lemma chain_iff {l : Ledger} {key : String} {top : Nat} (h : Tracks l key top) (htop : top ≠ 0)
    (as : List Action) :
    (top :: numbers casefold py l as).IsChain (· < ·)
      ↔ Along (follow casefold py) (LastKept casefold py) (l, some key) as := by
  induction as generalizing l key top with
  | nil => exact iff_of_true (List.isChain_singleton _) trivial
  | cons a as ih =>
    rw [Along, follow, LastKept]
    rcases step_cases casefold py l a with ⟨hnone, hkept⟩ | ⟨name, etag, hsome, hstep⟩
    · rw [numbers_cons_none hnone, ih (h.kept hkept) htop, hnone]
      exact (and_iff_right fun hmade => absurd hmade Bool.false_ne_true).symm
    · rw [numbers_cons_some hsome hstep, List.isChain_cons_cons, hstep, hsome,
        h.lt_next_iff htop, ih (tracks_set l name etag) (Nat.succ_ne_zero _)]
      apply and_congr _ Iff.rfl
      exact ⟨fun hkept _ key' hkey => Option.some.inj hkey ▸ hkept, fun hkept => hkept rfl key rfl⟩

/-- No two incidents that a run creates have one number, and the numbers increase in the order of
    creation, exactly when no incident is created while the one that was created last is gone. -/
theorem neverReused_iff_lastKept (casefold : String → String) (py : Python) (l : Ledger)
    (as : List Action) :
    NeverReused (numbers casefold py l as)
      ↔ Along (follow casefold py) (LastKept casefold py) (l, none) as := by
  have hchain : ∀ given : List Nat, NeverReused given ↔ given.IsChain (· < ·) := by
    intro given
    rw [List.isChain_iff_pairwise]
    exact ⟨fun h => h.increasing, fun h => ⟨h.imp Nat.ne_of_lt, h⟩⟩
  rw [hchain]
  induction as generalizing l with
  | nil => exact iff_of_true List.isChain_nil trivial
  | cons a as ih =>
    rw [Along, follow, LastKept]
    have hfirst : (created casefold py l a).isSome = true → ∀ key,
        (none : Option String) = some key → l.contains key = true :=
      fun _ key hkey => absurd hkey.symm (Option.some_ne_none key)
    rw [and_iff_right hfirst]
    rcases step_cases casefold py l a with ⟨hnone, hkept⟩ | ⟨name, etag, hsome, hstep⟩
    · rw [numbers_cons_none hnone, hnone]
      exact ih _
    · rw [numbers_cons_some hsome hstep, hstep, hsome]
      exact chain_iff (tracks_set l name etag) (Nat.succ_ne_zero _) as

/-- A body that names what is required. -/
def described : Json :=
  .dict [("properties", .dict [("title", .str "t"), ("severity", .str "s"), ("status", .str "n")])]

/-- The number of an incident that was deleted is given again. -/
theorem number_reused :
    numbers asciiPython.lower asciiPython .empty
        [.put "a" none described "1", .delete "a", .put "b" none described "2"] = [1, 1]
      ∧ ¬ NeverReused (numbers asciiPython.lower asciiPython .empty
        [.put "a" none described "1", .delete "a", .put "b" none described "2"]) := by
  have hnumbers : numbers asciiPython.lower asciiPython .empty
      [.put "a" none described "1", .delete "a", .put "b" none described "2"] = [1, 1] := by
    rfl
  refine ⟨hnumbers, fun h => ?_⟩
  have hnodup := h.nodup
  rw [hnumbers] at hnodup
  exact absurd hnodup (by decide)

end Mockdr.Sentinel.Incidents
