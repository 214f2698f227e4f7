import Mathlib
import Mockdr.Xdr.Endpoints

/-!
# What a Cortex XDR write touches

* `Satisfies` is what the target members of a body ask of an endpoint, `Changed` that a write leaves
  an endpoint in a state it would not have come to by itself.
* `picked` are the endpoints that the members which a write reads pick, `Unread` what the members it
  does not read ask of them.
* `touches_named_iff`: a write changes only endpoints that satisfy every member exactly when the
  endpoints it picks and alters satisfy the members it does not read.
-/

namespace Mockdr

namespace Xdr

variable {δ : Type} (py : NumberPython)

/-! ## What a body names -/

/-- `request_data` -/
def requestData (body : Object) : Object := (Object.get body "request_data").fields

/-- `context.lcaas_id` -/
def lcaasId (body : Object) : Json := Object.get (Object.get body "context").fields "lcaas_id"

/-- A member that names an endpoint, if it is there: a text by itself, a list by an element. -/
def Names (v : Json) (id : String) : Prop :=
  v.truthy = true → match v with
    | .str name => name = id
    | .list names => .str id ∈ names
    | _ => False

/-- The filters of a body hold of an endpoint, if there are any. -/
def FiltersHold (requestData : Object) (id : String) (e : Endpoint δ) : Prop :=
  (Object.get requestData "filters").truthy = true →
    applyXdrFilters py [(id, e)] (translatedFilters py (Object.get requestData "filters"))
      = some [(id, e)]

/-- An endpoint satisfies every target member that a body carries. -/
structure Satisfies (body : Object) (id : String) (e : Endpoint δ) : Prop where
  endpointId : Names (Object.get (requestData body) "endpoint_id") id
  agentId : Names (Object.get (requestData body) "agent_id") id
  endpointIdList : Names (Object.get (requestData body) "endpoint_id_list") id
  filters : FiltersHold py (requestData body) id e
  lcaas : Names (lcaasId body) id

/-- A body that carries no target member. -/
structure NamesNothing (body : Object) : Prop where
  endpointId : (Object.get (requestData body) "endpoint_id").truthy = false
  agentId : (Object.get (requestData body) "agent_id").truthy = false
  endpointIdList : (Object.get (requestData body) "endpoint_id_list").truthy = false
  filters : (Object.get (requestData body) "filters").truthy = false
  lcaas : (lcaasId body).truthy = false

/-- A member that names endpoints is a text or a list, or is not there. -/
def IsTarget (v : Json) : Prop := v.truthy = true → (∃ s, v = .str s) ∨ ∃ vs, v = .list vs

/-- The endpoint ids of a body are texts or lists. -/
structure WellTyped (body : Object) : Prop where
  endpointIdList : IsTarget (Object.get (requestData body) "endpoint_id_list")
  lcaas : IsTarget (lcaasId body)

/-- A write leaves an endpoint in a state that it would not have come to by itself. -/
def Changed (now : ℚ) (s s' : Store δ) (id : String) : Prop :=
  (s'.endpoints.get id).map (settleIsolation now) ≠ (s.endpoints.get id).map (settleIsolation now)

/-! ## What a write reads -/

/-- The endpoints that the members which a write reads pick. -/
def picked (w : Write) (now : ℚ) (body : Object) (s : Store δ) : List String :=
  match w with
  | .assignTag | .removeTag =>
    match objectOr (Object.get body "request_data"), objectOr (Object.get body "context") with
    | some requestData, some context =>
      let lcaas := Object.get context "lcaas_id"
      if namesATarget requestData || lcaas.truthy then
        ((selected py requestData (settleAll now s)).bind fun ids =>
          if lcaas.truthy then keep (fun id => isIn id lcaas) ids else some ids).getD []
      else []
    | _, _ => []
  | .updateAgentName =>
    match Object.get body "request_data" with
    | .dict requestData =>
      if namesATarget requestData then (selected py requestData (settleAll now s)).getD [] else []
    | _ => []
  | _ =>
    match Object.get body "request_data" with
    | .dict requestData => (endpointsNamedBy py now requestData s).2.getD []
    | _ => []

/-- A write goes by an id, and not by a selection. -/
def goesById (w : Write) (body : Object) : Bool :=
  match w with
  | .assignTag | .removeTag | .updateAgentName => false
  | _ => py.toStr (singleOf (requestData body)) ≠ ""

/-- What a write does to an endpoint that it picks. -/
def edit (w : Write) (now : ℚ) (body : Object) : Endpoint δ → Endpoint δ :=
  let tag := Object.get (requestData body) "tag"
  let tag := if tag.truthy then py.toStr tag else ""
  match w with
  | .isolate => isolated now
  | .unisolate => unisolated now
  | .scan => scanned
  | .updateAgentName => fun e =>
    { e with alias_ := (Assoc.get "alias" (requestData body)).getD (.str "") }
  | .assignTag => tagged tag true
  | .removeTag => tagged tag false
  | .terminateProcess | .quarantine | .restore | .fileRetrieval => id

/-- An endpoint as a write comes upon it. -/
def seen (w : Write) (now : ℚ) (body : Object) (e : Endpoint δ) : Endpoint δ :=
  if goesById py w body then e else settleIsolation now e

/-- A write leaves an endpoint that it picks other than it is. -/
def Alters (w : Write) (now : ℚ) (body : Object) (e : Endpoint δ) : Prop :=
  settleIsolation now (edit py w now body (seen py w now body e)) ≠ settleIsolation now e

/-- A member that is read as a text names an endpoint, if it is none. -/
def NamesAsOther (v : Json) (id : String) : Prop := (∀ s, v ≠ .str s) → Names v id

/-- A member that is read as a text that ids are parts of is an id. -/
def NamesAsWhole (v : Json) (id : String) : Prop := ∀ s, v = .str s → s ≠ "" → s = id

/-- What the members that a write does not read, or not as they stand, ask of an endpoint. -/
def Unread (w : Write) (body : Object) (id : String) (e : Endpoint δ) : Prop :=
  let endpointId := Object.get (requestData body) "endpoint_id"
  let agentId := Object.get (requestData body) "agent_id"
  let endpointIdList := Object.get (requestData body) "endpoint_id_list"
  match w with
  | .assignTag | .removeTag =>
    Names endpointId id ∧ Names agentId id ∧ NamesAsWhole endpointIdList id
      ∧ NamesAsWhole (lcaasId body) id
  | .updateAgentName =>
    Names endpointId id ∧ Names agentId id ∧ NamesAsWhole endpointIdList id
      ∧ Names (lcaasId body) id
  | _ =>
    NamesAsOther endpointId id
      ∧ (if endpointId.truthy then Names agentId id else NamesAsOther agentId id)
      ∧ (if goesById py w body then Names endpointIdList id ∧ FiltersHold py (requestData body) id e
        else NamesAsWhole endpointIdList id)
      ∧ Names (lcaasId body) id

/-! ## Edits -/

variable {py} {w : Write} {now : ℚ} {body : Object} {s : Store δ} {id : String}

@[simp] lemma settleIsolation_settleIsolation (now : ℚ) (e : Endpoint δ) :
    settleIsolation now (settleIsolation now e) = settleIsolation now e := by
  have hsettled : ∀ pending settled, settlesInto pending = some settled →
      settlesInto settled = none := by
    intro pending settled h
    unfold settlesInto at h
    split_ifs at h <;> cases h <;> decide
  cases hsettles : settlesInto e.isIsolated with
  | none => simp [settleIsolation, hsettles]
  | some settled =>
    by_cases hanswered : Settling.hasAnswered
        (some (now - ((e.isolationRequestedAt.getD 0 : Int) : ℚ) / 1000)) = true
    · have hstep : (settleIsolation now e).isIsolated = settled := by
        simp [settleIsolation, hsettles, hanswered]
      generalize settleIsolation now e = e' at hstep
      rw [settleIsolation, hstep, hsettled _ _ hsettles]
    · have hstep : settleIsolation now e = e := by simp [settleIsolation, hsettles, hanswered]
      rw [hstep, hstep]

lemma get_editAt {f : Endpoint δ → Endpoint δ} (endpoints : Dict String (Endpoint δ))
    (x id : String) :
    (editAt f endpoints x).get id = (endpoints.get id).map fun e => if id = x then f e else e := by
  rw [editAt]
  by_cases hid : id = x
  · subst hid
    cases hget : endpoints.get id with
    | none => exact hget
    | some e => simp
  · simp only [if_neg hid, Option.map_id']
    split
    · exact Dict.get_set_ne _ _ hid
    · rfl

lemma get_editEach {f : Endpoint δ → Endpoint δ} {ids : List String} (hnodup : ids.Nodup)
    (s : Store δ) (id : String) :
    (editEach f ids s).endpoints.get id
      = (s.endpoints.get id).map fun e => if id ∈ ids then f e else e := by
  rw [editEach]
  dsimp only
  generalize s.endpoints = endpoints
  induction ids generalizing endpoints with
  | nil => simp
  | cons x ids ih =>
    obtain ⟨hx, hnodup⟩ := List.nodup_cons.1 hnodup
    rw [List.foldl_cons, ih hnodup, get_editAt, Option.map_map]
    congr 1
    funext e
    by_cases hid : id = x
    · subst hid
      simp [hx]
    · simp [hid]

lemma endpoints_editEach_id (ids : List String) (s : Store δ) :
    (editEach (fun e => e) ids s).endpoints = s.endpoints := by
  rw [editEach]
  dsimp only
  induction ids with
  | nil => rfl
  | cons x ids ih =>
    have hsame : editAt (fun e => e) s.endpoints x = s.endpoints := by
      rw [editAt]
      split
      · next e hget => exact Dict.set_of_get hget
      · rfl
    rw [List.foldl_cons, hsame]
    exact ih

lemma endpoints_createAction {actionType : String} {result : Object} {ids : List String} :
    (createAction actionType now result ids s).endpoints = s.endpoints := by
  rw [createAction]
  split_ifs <;> rfl

/-! ## Selections -/

lemma keep_eq_some {α : Type} {p : α → Option Bool} {xs ys : List α} (h : keep p xs = some ys) :
    ys.Sublist xs ∧ ∀ y ∈ ys, p y = some true := by
  induction xs generalizing ys with
  | nil =>
    cases h
    exact ⟨.refl _, nofun⟩
  | cons x xs ih =>
    obtain ⟨holds, hholds, h⟩ := Option.bind_eq_some_iff.1 h
    obtain ⟨rest, hrest, h⟩ := Option.bind_eq_some_iff.1 h
    obtain ⟨hsub, hall⟩ := ih hrest
    cases holds with
    | true =>
      cases h
      exact ⟨hsub.cons_cons x, List.forall_mem_cons.2 ⟨hholds, hall⟩⟩
    | false =>
      cases h
      exact ⟨hsub.cons x, hall⟩

lemma keep_singleton {α : Type} {p : α → Option Bool} {x : α} (h : p x = some true) :
    keep p [x] = some [x] := by
  simp [keep, h]

lemma foldlM_keeps {α β : Type} {step : List α → β → Option (List α)}
    (hstep : ∀ xs b ys, step xs b = some ys →
      ys.Sublist xs ∧ ∀ y ∈ ys, step [y] b = some [y])
    {bs : List β} {xs ys : List α} (h : bs.foldlM step xs = some ys) :
    ys.Sublist xs ∧ ∀ y ∈ ys, bs.foldlM step [y] = some [y] := by
  induction bs generalizing xs with
  | nil =>
    cases h
    exact ⟨.refl _, fun _ _ => rfl⟩
  | cons b bs ih =>
    rw [List.foldlM_cons] at h
    obtain ⟨zs, hzs, h⟩ := Option.bind_eq_some_iff.1 h
    obtain ⟨hsub, hall⟩ := ih h
    obtain ⟨hsub', hall'⟩ := hstep xs b zs hzs
    refine ⟨hsub.trans hsub', fun y hy => ?_⟩
    rw [List.foldlM_cons, hall' y (hsub.subset hy)]
    exact hall y hy

/-- What the filters leave are endpoints that they hold of. -/
lemma applyXdrFilters_eq_some {records matched : List (String × Endpoint δ)} {filters : Json}
    (h : applyXdrFilters py records filters = some matched) :
    matched.Sublist records ∧ ∀ r ∈ matched, applyXdrFilters py [r] filters = some [r] := by
  unfold applyXdrFilters at h ⊢
  split_ifs at h ⊢ with htruthy
  · obtain ⟨entries, hentries, h⟩ := Option.bind_eq_some_iff.1 h
    rw [hentries]
    refine foldlM_keeps ?_ h
    intro records entry matched h
    unfold applyEntry at h ⊢
    split at h
    · next entry =>
      obtain ⟨field, hfield, h⟩ := Option.bind_eq_some_iff.1 h
      rw [hfield]
      refine foldlM_keeps ?_ h
      intro records comparison matched h
      obtain ⟨hsub, hall⟩ := keep_eq_some h
      exact ⟨hsub, fun r hr => keep_singleton (hall r hr)⟩
    · cases h
  · cases h
    exact ⟨.refl _, fun _ _ => rfl⟩

lemma names_of_isIn {v : Json} (htarget : IsTarget v) (h : v.truthy = true → isIn id v = some true)
    (hwhole : NamesAsWhole v id) : Names v id := by
  intro htruthy
  have hin := h htruthy
  rcases htarget htruthy with ⟨s, rfl⟩ | ⟨vs, rfl⟩
  · exact hwhole s rfl (by simpa [Json.truthy] using htruthy)
  · rw [isIn, Option.some_inj, List.any_eq_true] at hin
    obtain ⟨x, hx, heq⟩ := hin
    exact (Json.eq_str_iff.1 heq) ▸ hx

lemma NamesAsWhole.of_names {v : Json} (h : Names v id) : NamesAsWhole v id := by
  rintro t rfl hne
  exact h (by simpa [Json.truthy] using hne)

/-- What a selection selects: distinct ids of endpoints that the filters hold of, in the list. -/
lemma selected_eq_some {requestData : Object} {ids : List String}
    (h : selected py requestData (settleAll now s) = some ids) :
    ids.Nodup ∧ ∀ id ∈ ids, ∀ e, s.endpoints.get id = some e →
      FiltersHold py requestData id (settleIsolation now e)
        ∧ ((Object.get requestData "endpoint_id_list").truthy = true →
          isIn id (Object.get requestData "endpoint_id_list") = some true) := by
  unfold selected at h
  obtain ⟨filtered, hfiltered, h⟩ := Option.bind_eq_some_iff.1 h
  obtain ⟨matched, hmatched, h⟩ := Option.map_eq_some_iff.1 h
  subst h
  obtain ⟨hsub, hall⟩ := applyXdrFilters_eq_some hfiltered
  have hlist : matched.Sublist filtered
      ∧ ((Object.get requestData "endpoint_id_list").truthy = true →
        ∀ r ∈ matched, isIn r.1 (Object.get requestData "endpoint_id_list") = some true) := by
    split_ifs at hmatched with hlist
    · obtain ⟨hsub', hall'⟩ := keep_eq_some hmatched
      exact ⟨hsub', fun _ => hall'⟩
    · cases hmatched
      exact ⟨.refl _, fun h => absurd h hlist⟩
  refine ⟨(settleAll now s).endpoints.nodup.sublist ((hlist.1.trans hsub).map Prod.fst), ?_⟩
  intro id hid e hget
  obtain ⟨⟨id, e'⟩, hmem, rfl⟩ := List.mem_map.1 hid
  have hentry := Dict.mem_entries_iff.1 ((hlist.1.trans hsub).subset hmem)
  rw [settleAll, Dict.get_mapValues, hget, Option.map_some, Option.some_inj] at hentry
  subst hentry
  exact ⟨fun _ => hall _ (hlist.1.subset hmem), fun h => hlist.2 h _ hmem⟩

lemma view_settleAll (now : ℚ) (s : Store δ) (id : String) :
    ((settleAll now s).endpoints.get id).map (settleIsolation now)
      = (s.endpoints.get id).map (settleIsolation now) := by
  rw [settleAll, Dict.get_mapValues, Option.map_map]
  congr 1
  funext e
  exact settleIsolation_settleIsolation now e

lemma view_selected {f : Endpoint δ → Endpoint δ} {ids : List String} (hnodup : ids.Nodup) :
    ((editEach f ids (settleAll now s)).endpoints.get id).map (settleIsolation now)
      = (s.endpoints.get id).map fun e =>
        settleIsolation now (if id ∈ ids then f (settleIsolation now e) else e) := by
  rw [get_editEach hnodup, settleAll, Dict.get_mapValues, Option.map_map, Option.map_map]
  congr 1
  funext e
  by_cases hid : id ∈ ids
  · simp [hid]
  · simp [hid]

/-- A command on the endpoints that a request names. -/
lemma view_onNamed {requestData : Object} {f : Endpoint δ → Endpoint δ}
    {command : List String → Store δ → Store δ}
    (hcommand : ∀ ids s, (command ids s).endpoints = (editEach f ids s).endpoints) :
    ((onNamed py now requestData command s).endpoints.get id).map (settleIsolation now)
      = (s.endpoints.get id).map fun e => settleIsolation now
        (if id ∈ (endpointsNamedBy py now requestData s).2.getD [] then
          f (if py.toStr (singleOf requestData) ≠ "" then e else settleIsolation now e)
        else e) := by
  unfold onNamed endpointsNamedBy
  by_cases hsingle : py.toStr (singleOf requestData) ≠ ""
  · simp only [if_pos hsingle, Option.getD_some]
    rw [hcommand, get_editEach (List.nodup_singleton _), Option.map_map]
    rfl
  · simp only [if_neg hsingle]
    by_cases hselects : ((Object.get requestData "filters").truthy
        || (Object.get requestData "endpoint_id_list").truthy) = true
    · rw [if_pos hselects, selectEndpoints]
      cases hselected : selected py requestData (settleAll now s) with
      | none =>
        simp only [Option.getD_none, List.not_mem_nil, if_false]
        exact view_settleAll now s id
      | some ids =>
        simp only [Option.getD_some]
        rw [hcommand]
        exact view_selected (selected_eq_some hselected).1
    · rw [if_neg hselects]
      simp only [Option.getD_some, List.not_mem_nil, if_false]
      rw [hcommand]
      rfl

lemma requestData_of_dict {fields : Object} (h : Object.get body "request_data" = .dict fields) :
    requestData body = fields := by
  rw [requestData, h]
  rfl

lemma objectOr_eq_some {v : Json} {o : Object} (h : objectOr v = some o) : o = v.fields := by
  unfold objectOr at h
  split at h
  · exact (Option.some.inj h).symm
  · next hno =>
    split_ifs at h
    cases h
    cases v with
    | dict fields => exact absurd rfl (hno fields)
    | null | bool | int | float | str | list => rfl

/-! ## Writes -/

lemma view_matched {ids : List String} (hnodup : ids.Nodup) {matched : Option (List String)}
    (hsub : ∀ kept, matched = some kept → kept.Sublist ids) {f : Endpoint δ → Endpoint δ} :
    ((match matched with
      | some kept => editEach f kept (settleAll now s)
      | none => settleAll now s).endpoints.get id).map (settleIsolation now)
      = (s.endpoints.get id).map fun e => settleIsolation now
        (if id ∈ matched.getD [] then f (settleIsolation now e) else e) := by
  cases matched with
  | none =>
    simp only [Option.getD_none, List.not_mem_nil, if_false]
    exact view_settleAll now s id
  | some kept => exact view_selected (hnodup.sublist (hsub kept rfl))

/-- The endpoints after a write, seen as they are once they have answered: those that it picks are
    edited, and no other. -/
lemma view_write (w : Write) (now : ℚ) (body : Object) (s : Store δ) (id : String) :
    ((write py w now body s).endpoints.get id).map (settleIsolation now)
      = (s.endpoints.get id).map fun e => settleIsolation now
        (if id ∈ picked py w now body s then edit py w now body (seen py w now body e) else e) := by
  have hnone : ∀ f : Endpoint δ → Endpoint δ, (s.endpoints.get id).map (settleIsolation now)
      = (s.endpoints.get id).map fun e => settleIsolation now (if id ∈ [] then f e else e) := by
    intro f
    simp
  -- the writes that go by `endpoints_named_by`
  have hnamed : ∀ (f : Endpoint δ → Endpoint δ)
      (command : Object → List String → Store δ → Store δ),
      (∀ fields ids s, (command fields ids s).endpoints = (editEach f ids s).endpoints) →
      ((match Object.get body "request_data" with
          | .dict requestData => onNamed py now requestData (command requestData) s
          | _ => s).endpoints.get id).map (settleIsolation now)
        = (s.endpoints.get id).map fun e => settleIsolation now
          (if id ∈ (match Object.get body "request_data" with
              | .dict requestData => (endpointsNamedBy py now requestData s).2.getD []
              | _ => []) then
            f (if decide (py.toStr (singleOf (requestData body)) ≠ "") then e
              else settleIsolation now e)
          else e) := by
    intro f command hcommand
    cases hbody : Object.get body "request_data" with
    | dict fields =>
      simp only [requestData_of_dict hbody, decide_eq_true_eq]
      exact view_onNamed (hcommand fields)
    | null | bool | int | float | str | list => exact hnone _
  -- the tag routes
  have htags : ∀ assign : Bool,
      ((tagEndpoints py now body assign s).endpoints.get id).map (settleIsolation now)
        = (s.endpoints.get id).map fun e => settleIsolation now
          (if id ∈ picked py .assignTag now body s then
            tagged (if (Object.get (requestData body) "tag").truthy then
              py.toStr (Object.get (requestData body) "tag") else "") assign (settleIsolation now e)
          else e) := by
    intro assign
    unfold tagEndpoints picked
    cases hdata : objectOr (Object.get body "request_data") with
    | none => exact hnone _
    | some fields =>
      cases hcontext : objectOr (Object.get body "context") with
      | none => exact hnone _
      | some context =>
        rw [requestData, ← objectOr_eq_some hdata]
        dsimp only
        unfold tagSelected
        by_cases hguard :
            (namesATarget fields || (Object.get context "lcaas_id").truthy) = true
        · simp only [if_pos hguard, selectEndpoints]
          cases hselected : selected py fields (settleAll now s) with
          | none =>
            simp only [Option.bind_none, Option.getD_none, List.not_mem_nil, if_false]
            exact view_settleAll now s id
          | some ids =>
            simp only [Option.bind_some]
            obtain ⟨hnodup, -⟩ := selected_eq_some hselected
            have hsub : ∀ kept, (if (Object.get context "lcaas_id").truthy then
                keep (fun id => isIn id (Object.get context "lcaas_id")) ids else some ids)
                  = some kept → kept.Sublist ids := by
              intro kept h
              split_ifs at h
              · exact (keep_eq_some h).1
              · cases h
                exact .refl _
            exact view_matched hnodup hsub
        · simp only [if_neg hguard]
          exact hnone _
  -- the writes that only make an action
  have hactions : ∀ command : Object → List String → Store δ → Store δ,
      (∀ fields ids s, (command fields ids s).endpoints = s.endpoints) →
      ∀ fields ids s, (command fields ids s).endpoints = (editEach (fun e => e) ids s).endpoints :=
    fun _ hcommand fields ids s => (hcommand fields ids s).trans (endpoints_editEach_id ids s).symm
  cases w with
  | isolate =>
    exact hnamed (isolated now) (fun _ => isolateEndpoint now) fun _ _ _ => endpoints_createAction
  | unisolate =>
    exact hnamed (unisolated now) (fun _ => unisolateEndpoint now) fun _ _ _ =>
      endpoints_createAction
  | scan => exact hnamed scanned (fun _ => scanEndpoint now) fun _ _ _ => endpoints_createAction
  | terminateProcess =>
    exact hnamed (fun e => e) (terminateProcess now)
      (hactions _ fun _ _ _ => endpoints_createAction)
  | quarantine =>
    exact hnamed (fun e => e) (quarantineFile now) (hactions _ fun _ _ _ => endpoints_createAction)
  | restore =>
    exact hnamed (fun e => e) (restoreFile now) (hactions _ fun _ _ _ => endpoints_createAction)
  | fileRetrieval =>
    exact hnamed (fun e => e) (fileRetrieval now) (hactions _ fun _ _ _ => endpoints_createAction)
  | updateAgentName =>
    unfold write picked
    cases hbody : Object.get body "request_data" with
    | dict fields =>
      dsimp only
      unfold updateAgentName
      by_cases hguard : namesATarget fields = true
      · simp only [if_pos hguard, selectEndpoints]
        cases hselected : selected py fields (settleAll now s) with
        | none =>
          simp only [Option.getD_none, List.not_mem_nil, if_false]
          exact view_settleAll now s id
        | some ids =>
          have hedit := requestData_of_dict hbody
          simp only [edit, seen, goesById, hedit]
          exact view_selected (selected_eq_some hselected).1
      · simp only [if_neg hguard]
        exact hnone _
    | null | bool | int | float | str | list => exact hnone _
  | assignTag => exact htags true
  | removeTag => exact htags false

/-! ## Members that are not read -/

lemma NamesAsOther.of_names {v : Json} (h : Names v id) : NamesAsOther v id := fun _ => h

/-- What a tag route picks satisfies the members that it reads. -/
lemma reads_of_picked_tag {e : Endpoint δ} (hget : s.endpoints.get id = some e)
    (hpicked : id ∈ picked py .assignTag now body s) :
    FiltersHold py (requestData body) id (settleIsolation now e)
      ∧ ((Object.get (requestData body) "endpoint_id_list").truthy = true →
        isIn id (Object.get (requestData body) "endpoint_id_list") = some true)
      ∧ ((lcaasId body).truthy = true → isIn id (lcaasId body) = some true) := by
  unfold picked at hpicked
  cases hdata : objectOr (Object.get body "request_data") with
  | none => simp [hdata] at hpicked
  | some fields =>
    cases hcontext : objectOr (Object.get body "context") with
    | none => simp [hdata, hcontext] at hpicked
    | some context =>
      rw [requestData, lcaasId, ← objectOr_eq_some hdata, ← objectOr_eq_some hcontext]
      simp only [hdata, hcontext] at hpicked
      split_ifs at hpicked with hguard hlcaas
      · cases hids : (selected py fields (settleAll now s)).bind
            fun ids => keep (fun id => isIn id (Object.get context "lcaas_id")) ids with
        | none => simp [hids] at hpicked
        | some kept =>
          rw [hids, Option.getD_some] at hpicked
          obtain ⟨ids, hselected, hkept⟩ := Option.bind_eq_some_iff.1 hids
          obtain ⟨hsub, hall⟩ := keep_eq_some hkept
          obtain ⟨hfilters, hlist⟩ :=
            (selected_eq_some hselected).2 id (hsub.subset hpicked) e hget
          exact ⟨hfilters, hlist, fun _ => hall id hpicked⟩
      · cases hids : selected py fields (settleAll now s) with
        | none => simp [hids] at hpicked
        | some ids =>
          simp only [hids, Option.bind_some, Option.getD_some] at hpicked
          obtain ⟨hfilters, hlist⟩ := (selected_eq_some hids).2 id hpicked e hget
          exact ⟨hfilters, hlist, fun h => absurd h hlcaas⟩
      · simp at hpicked

lemma reads_of_picked_rename {e : Endpoint δ} (hget : s.endpoints.get id = some e)
    (hpicked : id ∈ picked py .updateAgentName now body s) :
    FiltersHold py (requestData body) id (settleIsolation now e)
      ∧ ((Object.get (requestData body) "endpoint_id_list").truthy = true →
        isIn id (Object.get (requestData body) "endpoint_id_list") = some true) := by
  unfold picked at hpicked
  cases hdata : Object.get body "request_data" with
  | dict fields =>
    rw [requestData_of_dict hdata]
    simp only [hdata] at hpicked
    split_ifs at hpicked
    · cases hids : selected py fields (settleAll now s) with
      | none => simp [hids] at hpicked
      | some ids =>
        simp only [hids, Option.getD_some] at hpicked
        exact (selected_eq_some hids).2 id hpicked e hget
    · simp at hpicked
  | null | bool | int | float | str | list => simp [hdata] at hpicked

lemma reads_of_named {fields : Object} {e : Endpoint δ} (hget : s.endpoints.get id = some e)
    (hpicked : id ∈ (endpointsNamedBy py now fields s).2.getD []) :
    if py.toStr (singleOf fields) ≠ "" then py.toStr (singleOf fields) = id
    else FiltersHold py fields id (settleIsolation now e)
      ∧ ((Object.get fields "endpoint_id_list").truthy = true →
        isIn id (Object.get fields "endpoint_id_list") = some true) := by
  unfold endpointsNamedBy at hpicked
  by_cases hsingle : py.toStr (singleOf fields) ≠ ""
  · simp only [if_pos hsingle, Option.getD_some, List.mem_singleton] at hpicked ⊢
    exact hpicked.symm
  · simp only [if_neg hsingle] at hpicked ⊢
    split_ifs at hpicked
    · rw [selectEndpoints] at hpicked
      cases hids : selected py fields (settleAll now s) with
      | none => simp [hids] at hpicked
      | some ids =>
        simp only [hids, Option.getD_some] at hpicked
        exact (selected_eq_some hids).2 id hpicked e hget
    · simp at hpicked

/-- What a tag route picks satisfies every member just when it satisfies those that it does not
    read. -/
lemma satisfies_iff_of_picked_tag (hwt : WellTyped body) {e : Endpoint δ}
    (hget : s.endpoints.get id = some e) (hpicked : id ∈ picked py .assignTag now body s) :
    Satisfies py body id (settleIsolation now e)
      ↔ Unread py .assignTag body id (settleIsolation now e) := by
  obtain ⟨hfilters, hlist, hlcaas⟩ := reads_of_picked_tag hget hpicked
  constructor
  · intro h
    exact ⟨h.endpointId, h.agentId, .of_names h.endpointIdList, .of_names h.lcaas⟩
  · rintro ⟨hendpoint, hagent, hlist', hlcaas'⟩
    exact ⟨hendpoint, hagent, names_of_isIn hwt.endpointIdList hlist hlist', hfilters,
      names_of_isIn hwt.lcaas hlcaas hlcaas'⟩

/-- What a rename picks satisfies every member just when it satisfies those that it does not
    read. -/
lemma satisfies_iff_of_picked_rename (hwt : WellTyped body) {e : Endpoint δ}
    (hget : s.endpoints.get id = some e) (hpicked : id ∈ picked py .updateAgentName now body s) :
    Satisfies py body id (settleIsolation now e)
      ↔ Unread py .updateAgentName body id (settleIsolation now e) := by
  obtain ⟨hfilters, hlist⟩ := reads_of_picked_rename hget hpicked
  constructor
  · intro h
    exact ⟨h.endpointId, h.agentId, .of_names h.endpointIdList, h.lcaas⟩
  · rintro ⟨hendpoint, hagent, hlist', hlcaas⟩
    exact ⟨hendpoint, hagent, names_of_isIn hwt.endpointIdList hlist hlist', hfilters, hlcaas⟩

/-- What a command picks satisfies every member just when it satisfies those that it does not
    read. -/
lemma satisfies_iff_of_picked_named (hwt : WellTyped body) {e : Endpoint δ}
    (hget : s.endpoints.get id = some e) (hpicked : id ∈ picked py .isolate now body s) :
    Satisfies py body id (settleIsolation now e)
      ↔ Unread py .isolate body id (settleIsolation now e) := by
  unfold picked at hpicked
  cases hdata : Object.get body "request_data" with
  | null | bool | int | float | str | list => simp [hdata] at hpicked
  | dict fields =>
    simp only [hdata] at hpicked
    have hreads := reads_of_named hget hpicked
    simp only [Unread, goesById, requestData_of_dict hdata, decide_eq_true_eq]
    constructor
    · rintro ⟨hendpoint, hagent, hlist, hfilters, hlcaas⟩
      rw [requestData_of_dict hdata] at hendpoint hagent hlist hfilters
      refine ⟨.of_names hendpoint, ?_, ?_, hlcaas⟩
      · split_ifs
        · exact hagent
        · exact .of_names hagent
      · split_ifs
        · exact ⟨hlist, hfilters⟩
        · exact .of_names hlist
    · rintro ⟨hendpoint, hagent, hrest, hlcaas⟩
      -- a text among the two ids is the id that the command goes by
      have hid : ∀ t, singleOf fields = .str t → t ≠ "" → t = id := by
        intro t ht hne
        have hsingle : py.toStr (singleOf fields) = t := by rw [ht]; rfl
        rw [if_pos (by rw [hsingle]; exact hne)] at hreads
        exact hsingle ▸ hreads
      have hnames : ∀ v, v.truthy = true → singleOf fields = v → NamesAsOther v id →
          Names v id := by
        intro v htruthy hv hother
        cases v with
        | str t => exact fun h => hid t hv (by simpa [Json.truthy] using h)
        | null | bool | int | float | list | dict => exact hother nofun
      have hendpoint' : Names (Object.get fields "endpoint_id") id := by
        intro htruthy
        exact hnames _ htruthy (by simp [singleOf, htruthy]) hendpoint htruthy
      have hagent' : Names (Object.get fields "agent_id") id := by
        intro htruthy
        split_ifs at hagent with hcarried
        · exact hagent htruthy
        · exact hnames _ htruthy (by simp [singleOf, hcarried, htruthy]) hagent htruthy
      have hlistType := hwt.endpointIdList
      rw [requestData_of_dict hdata] at hlistType
      constructor <;> try rw [requestData_of_dict hdata]
      · exact hendpoint'
      · exact hagent'
      · split_ifs at hrest hreads with hgoes
        · exact hrest.1
        · exact names_of_isIn hlistType hreads.2 hrest
      · split_ifs at hrest hreads with hgoes
        · exact hrest.2
        · exact hreads.1
      · exact hlcaas

/-- What a write picks satisfies every member just when it satisfies those that the write does not
    read. -/
lemma satisfies_iff_of_picked (hwt : WellTyped body) {e : Endpoint δ}
    (hget : s.endpoints.get id = some e) (hpicked : id ∈ picked py w now body s) :
    Satisfies py body id (settleIsolation now e)
      ↔ Unread py w body id (settleIsolation now e) := by
  cases w with
  | assignTag | removeTag => exact satisfies_iff_of_picked_tag hwt hget hpicked
  | updateAgentName => exact satisfies_iff_of_picked_rename hwt hget hpicked
  | isolate | unisolate | scan | terminateProcess | quarantine | restore | fileRetrieval =>
    exact satisfies_iff_of_picked_named hwt hget hpicked

/-- A body that carries no target member picks nothing. -/
lemma picked_of_namesNothing (h : NamesNothing body) : picked py w now body s = [] := by
  obtain ⟨hendpoint, hagent, hlist, hfilters, hlcaas⟩ := h
  have hguard : ∀ fields, fields = requestData body → namesATarget fields = false := by
    rintro fields rfl
    simp [namesATarget, hendpoint, hagent, hlist, hfilters]
  have hnamed : (match Object.get body "request_data" with
      | .dict fields => (endpointsNamedBy py now fields s).2.getD []
      | _ => []) = [] := by
    cases hdata : Object.get body "request_data" with
    | null | bool | int | float | str | list => rfl
    | dict fields =>
      rw [requestData_of_dict hdata] at hendpoint hagent hlist hfilters
      have hsingle : py.toStr (singleOf fields) = "" := by
        simp only [singleOf, hendpoint, hagent]
        rfl
      simp [endpointsNamedBy, hsingle, hfilters, hlist]
  have htags : picked py .assignTag now body s = [] := by
    unfold picked
    cases hdata : objectOr (Object.get body "request_data") with
    | none => rfl
    | some fields =>
      cases hcontext : objectOr (Object.get body "context") with
      | none => rfl
      | some context =>
        rw [lcaasId, ← objectOr_eq_some hcontext] at hlcaas
        simp [hguard fields (objectOr_eq_some hdata), hlcaas]
  cases w with
  | assignTag | removeTag => exact htags
  | updateAgentName =>
    unfold picked
    cases hdata : Object.get body "request_data" with
    | null | bool | int | float | str | list => rfl
    | dict fields => simp [hguard fields (requestData_of_dict hdata).symm]
  | isolate | unisolate | scan | terminateProcess | quarantine | restore | fileRetrieval =>
    exact hnamed

lemma changed_iff :
    Changed now s (write py w now body s) id
      ↔ ∃ e, s.endpoints.get id = some e ∧ id ∈ picked py w now body s
        ∧ Alters py w now body e := by
  rw [Changed, view_write]
  cases hget : s.endpoints.get id with
  | none => simp
  | some e =>
    by_cases hpicked : id ∈ picked py w now body s
    · simp [hpicked, Alters]
    · simp [hpicked]

/-- A write touches only the endpoints that it names, and a body that names none touches none,
    exactly when every endpoint that the members which it reads pick, and that it does not leave as
    it was, satisfies the members that it does not read. -/
theorem touches_named_iff (w : Write) (now : ℚ) (s : Store δ) (hwt : WellTyped body) :
    ((∀ id e, s.endpoints.get id = some e → Changed now s (write py w now body s) id →
        Satisfies py body id (settleIsolation now e))
      ∧ (NamesNothing body → ∀ id, ¬Changed now s (write py w now body s) id))
    ↔ ∀ id e, s.endpoints.get id = some e → id ∈ picked py w now body s →
        Alters py w now body e → Unread py w body id (settleIsolation now e) := by
  constructor
  · rintro ⟨hnamed, -⟩ id e hget hpicked halters
    have hsatisfies := hnamed id e hget (changed_iff.2 ⟨e, hget, hpicked, halters⟩)
    exact (satisfies_iff_of_picked hwt hget hpicked).1 hsatisfies
  · intro h
    refine ⟨fun id e hget hchanged => ?_, fun hnothing id hchanged => ?_⟩
    · obtain ⟨e', hget', hpicked, halters⟩ := changed_iff.1 hchanged
      cases hget.symm.trans hget'
      exact (satisfies_iff_of_picked hwt hget hpicked).2 (h id e hget hpicked halters)
    · obtain ⟨-, -, hpicked, -⟩ := changed_iff.1 hchanged
      rw [picked_of_namesNothing hnothing] at hpicked
      cases hpicked

/-- An endpoint that is not isolated. -/
private def connected : Endpoint Unit where
  endpointName := "host"
  endpointStatus := "CONNECTED"
  osType := "AGENT_OS_WINDOWS"
  ip := []
  alias_ := .str ""
  firstSeen := 0
  lastSeen := 0
  isIsolated := AGENT_UNISOLATED
  isolatedDate := none
  isolationRequestedAt := none
  groupName := []
  scanStatus := "none"
  users := []
  installationPackage := ""
  publicIp := []
  endpointTags := []
  rest := ()

/-- Two such endpoints. -/
private def fleet : Store Unit where
  endpoints := (Dict.empty.set "a" connected).set "b" connected
  actions := []

/-- A body that names an endpoint by its id, and a name. -/
private def naming (id : String) : Object :=
  [("request_data", .dict [("endpoint_id", .str id), ("alias", .str "new")])]

private lemma wellTyped_naming (id : String) : WellTyped (naming id) where
  endpointIdList := nofun
  lcaas := nofun

/-- An isolation by an endpoint id. -/
theorem touches_named_iff_isolate :
    Changed 0 fleet (write asciiNumberPython .isolate 0 (naming "a") fleet) "a"
      ∧ ∀ id e, fleet.endpoints.get id = some e →
        Changed 0 fleet (write asciiNumberPython .isolate 0 (naming "a") fleet) id →
        Satisfies asciiNumberPython (naming "a") id (settleIsolation 0 e) := by
  refine ⟨?_, ((touches_named_iff .isolate 0 fleet (wellTyped_naming "a")).2 ?_).1⟩
  · rw [changed_iff]
    refine ⟨connected, rfl, by decide +kernel, fun h => ?_⟩
    have hsettled := congrArg Endpoint.isIsolated h
    revert hsettled
    decide +kernel
  · intro id e hget hpicked halters
    have hid : id = "a" := by
      have hpicks : picked asciiNumberPython .isolate 0 (naming "a") fleet = ["a"] := by
        decide +kernel
      rw [hpicks] at hpicked
      exact List.mem_singleton.1 hpicked
    subst hid
    refine ⟨fun hno => absurd rfl (hno "a"), ?_, ?_, nofun⟩
    · exact fun h => absurd h (by decide)
    · rw [if_pos (by decide +kernel)]
      exact ⟨nofun, nofun⟩

/-- A rename by an endpoint id renames the other endpoint too. -/
theorem rename_touches_other :
    WellTyped (naming "a")
      ∧ Changed 0 fleet (write asciiNumberPython .updateAgentName 0 (naming "a") fleet) "b"
      ∧ ¬Satisfies asciiNumberPython (naming "a") "b" (settleIsolation 0 connected) := by
  refine ⟨wellTyped_naming "a", ?_, ?_⟩
  · rw [changed_iff]
    refine ⟨connected, rfl, by decide +kernel, fun h => ?_⟩
    have halias : Json.str "new" = .str "" := congrArg Endpoint.alias_ h
    exact absurd (Json.str.inj halias) (by decide)
  · intro h
    have hnames : "a" = "b" := h.endpointId (by decide)
    exact absurd hnames (by decide)

end Xdr

end Mockdr
