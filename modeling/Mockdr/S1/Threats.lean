import Mockdr.Equality
import Mockdr.Webhooks.Delivery

/-!
# The life of a threat

`application/threats/mitigation.py`, `verdict.py` and `notes.py`, and the steps of a playbook that
make threats and mitigate them as a policy has it (`playbook/executor.py`, `policy_engine.py`).
Requests and playbooks run beside each other, and take turns at single threats.

* `recordMitigation`: the status of a threat, and its entry for an action.
* `evaluate`: the action that a policy asks for.
* `Turn` and `take`: what can happen to a threat.
* `threat_history`: in every run a threat has one entry for each action that was applied to it, in
  the order of the last times, its status is that of the newest entry, and the analyst's fields are
  the analyst's.
-/

namespace Mockdr

namespace Threats

open Webhooks (Delivery WebhookSubscription fireEvent)

/-! ## Mitigations -/

/-- `Threat`, its other attributes by their names -/
structure Threat where
  threatInfo : Object
  mitigationStatus : List Json
  attributes : Object

/-- A threat with fields of its `threatInfo` written. -/
def Threat.written (fields : Object) (t : Threat) : Threat :=
  { t with threatInfo := fields.foldl (fun info p => Assoc.set p.1 p.2 info) t.threatInfo }

/-- What a mitigate action leaves behind: the status, and the action of the entry. -/
structure Mitigation where
  status : String
  action : String
  deriving DecidableEq

/-- `_MITIGATION_MAP` -/
def MITIGATION_MAP : List (String × Mitigation) :=
  [("kill", ⟨"mitigated", "kill"⟩), ("quarantine", ⟨"mitigated", "quarantine"⟩),
    ("un-quarantine", ⟨"not_mitigated", "unquarantine"⟩), ("remediate", ⟨"mitigated", "remediate"⟩),
    ("rollback-remediation", ⟨"mitigated", "rollback"⟩),
    ("remove_macros", ⟨"mitigated", "remove_macros"⟩),
    ("restore_macros", ⟨"not_mitigated", "restore_macros"⟩)]

/-- `str.title` of ASCII letters -/
def title (inside : Bool) : List Char → List Char
  | [] => []
  | c :: cs => (if inside then c.toLower else c.toUpper) :: title c.isAlpha cs

/-- `_status_description` -/
def statusDescription (status : String) : String :=
  String.ofList (title false (replace "_" " " status).toList)

/-- The entry that `record_mitigation` appends. -/
def entry (action now : String) : Json :=
  .dict [("action", .str action), ("status", .str "success"),
    ("actionsCounters", .dict [("total", .int 1), ("success", .int 1), ("failed", .int 0),
      ("pendingReboot", .int 0), ("notFound", .int 0)]),
    ("agentSupportsReport", .bool true), ("groupNotFound", .bool false), ("lastUpdate", .str now),
    ("latestReport", .null), ("mitigationStartedAt", .str now), ("mitigationEndedAt", .str now),
    ("reportId", .null)]

/-- `isinstance(e, dict) and e.get("action") == list_action` -/
def isEntryOf (action : String) : Json → Bool
  | .dict fields => Json.eq (Object.get fields "action") (.str action)
  | _ => false

/-- `record_mitigation` -/
def recordMitigation (m : Mitigation) (now : String) (t : Threat) : Threat :=
  { t.written [("mitigationStatus", .str m.status),
      ("mitigationStatusDescription", .str (statusDescription m.status)),
      ("updatedAt", .str now)] with
    mitigationStatus := t.mitigationStatus.filter (fun e => !isEntryOf m.action e)
      ++ [entry m.action now] }

/-! ## Policies -/

/-- `Policy`, by what the policy engine reads of it -/
structure Policy where
  autoMitigate : Json
  mitigationMode : Json
  mitigationModeSuspicious : Json

/-- The scope of an agent. -/
structure Agent where
  groupId : String
  siteId : String

/-- `resolve_policy` -/
def resolvePolicy (policies : Dict String Policy) (agent : Agent) : Option Policy :=
  let ofSite := if agent.siteId = "" then none else policies.get ("site:" ++ agent.siteId)
  if agent.groupId = "" then ofSite else (policies.get ("group:" ++ agent.groupId)).or ofSite

/-- `evaluate`, nothing where a level that is a list or an object makes it raise -/
def evaluate (policies : Dict String Policy) (t : Threat) (agent : Agent) : Option String := do
  let policy ← resolvePolicy policies agent
  let confidence := arg t.threatInfo "confidenceLevel" (.str "suspicious")
  let malicious := confidence.eq (.str "malicious")
  let mode := if malicious then policy.mitigationMode else policy.mitigationModeSuspicious
  match policy.autoMitigate.truthy && mode.eq (.str "protect"), confidence with
  | false, _ | true, .list _ | true, .dict _ => none
  | true, _ => some (if malicious then "quarantine" else "kill")

/-! ## Turns -/

/-- What is done to a threat. -/
inductive Deed where
  /-- `mitigate` -/
  | mitigate (action : String)
  /-- the step `mitigate` of a playbook, for an agent -/
  | asPolicy (agent : Agent)
  /-- `set_analyst_verdict` -/
  | verdict (value : String)
  /-- `_mark_malicious` -/
  | markMalicious
  /-- `set_incident_status` -/
  | incident (status : String)
  /-- the step `resolve_all_threats` of a playbook -/
  | resolve
  /-- `add_note`, with the id that is drawn and the author -/
  | note (id text : String) (userId : Json)

/-- The mitigation that a deed comes to. -/
def Deed.mitigation (policies : Dict String Policy) (t : Threat) : Deed → Option Mitigation
  | .mitigate action => Assoc.get action MITIGATION_MAP
  | .asPolicy agent => (evaluate policies t agent).bind (Assoc.get · MITIGATION_MAP)
  | _ => none

/-- A threat after a deed. -/
def Deed.apply (policies : Dict String Policy) (now : String) (t : Threat) : Deed → Threat
  | .mitigate action =>
    match Assoc.get action MITIGATION_MAP with
    | none => t
    | some m => recordMitigation m now t
  | .asPolicy agent =>
    match (evaluate policies t agent).bind (Assoc.get · MITIGATION_MAP) with
    | none => t
    | some m => (recordMitigation m now t).written [("initiatedBy", .str "agent_policy"),
        ("initiatedByDescription", .str "Agent Policy"), ("updatedAt", .str now)]
  | .verdict value => t.written [("analystVerdict", .str value), ("updatedAt", .str now)]
  | .markMalicious =>
    t.written [("confidenceLevel", .str "malicious"), ("analystVerdict", .str "true_positive"),
      ("updatedAt", .str now)]
  | .incident status => t.written [("incidentStatus", .str status), ("updatedAt", .str now)]
  | .resolve =>
    t.written [("incidentStatus", .str "resolved"), ("resolved", .bool true),
      ("analystVerdict", .str "false_positive"), ("updatedAt", .str now)]
  | .note id text userId =>
    let note := .dict [("id", .str id), ("text", .str text), ("createdAt", .str now),
      ("userId", userId)]
    let notes := match Object.get t.attributes "notes" with
      | .list notes => notes
      | _ => []
    { t with attributes := Assoc.set "notes" (.list (notes ++ [note])) t.attributes }

/-- The deeds of an analyst, of which the subscribers to a threat are told. -/
def Deed.notifies : Deed → Bool
  | .verdict _ | .markMalicious | .incident _ => true
  | _ => false

/-- The threats, the policies, and the deliveries that were submitted. -/
structure Tenant where
  threats : Dict String Threat
  policies : Dict String Policy
  fired : List Delivery

/-- What happens next. -/
inductive Turn where
  /-- a deed at a threat -/
  | deed (id now : String) (deed : Deed)
  /-- the step `threat` of a playbook, with the id that it draws -/
  | make (id : String) (threat : Threat)
  /-- a policy is saved -/
  | setPolicy (key : String) (policy : Policy)

/-- The threat that the step `threat` of a playbook makes. -/
def newThreat (tid now : String) (step : Object) (detection realtime : Object) : Threat where
  threatInfo := [("threatId", .str tid), ("threatName", arg step "threatName" (.str "Unknown")),
    ("fileName", arg step "fileName" (.str "unknown.exe")),
    ("classification", arg step "classification" (.str "Malware")),
    ("confidenceLevel", arg step "confidenceLevel" (.str "malicious")),
    ("mitigationStatus", .str "not_mitigated"),
    ("mitigationStatusDescription", .str "Not Mitigated"), ("incidentStatus", .str "unresolved"),
    ("analystVerdict", .str "undefined"), ("resolved", .bool false),
    ("sha1", arg step "sha1" (.str "")), ("createdAt", .str now), ("updatedAt", .str now),
    ("mitreTactic", arg step "mitreTactic" (.str "")),
    ("mitreTechnique", arg step "mitreTechnique" (.str ""))]
  mitigationStatus := []
  attributes := [("agentDetectionInfo", .dict detection), ("agentRealtimeInfo", .dict realtime)]

section

variable (recordDict : Threat → Object) (dumps : Object → String)
  (hmac : String → String → String) (subscriptions : List WebhookSubscription)

/-- The deliveries that tell of a threat. -/
def events (t : Threat) : List Delivery :=
  fireEvent dumps hmac subscriptions "threat.updated" (recordDict t)

/-- A turn. -/
def take (s : Tenant) : Turn → Tenant
  | .deed id now deed =>
    match s.threats.get id with
    | none => s
    | some t =>
      let t' := deed.apply s.policies now t
      { s with
        threats := s.threats.set id t'
        fired := s.fired ++ if deed.notifies then events recordDict dumps hmac subscriptions t'
          else [] }
  | .make id threat => { s with threats := s.threats.set id threat }
  | .setPolicy key policy => { s with policies := s.policies.set key policy }

/-- A run: turns of requests and playbooks, in any order. -/
def run (s : Tenant) (turns : List Turn) : Tenant :=
  turns.foldl (take recordDict dumps hmac subscriptions) s

/-! ## Histories -/

/-- The mitigations of a threat, with their times. -/
abbrev History := List (Mitigation × String)

/-- What a turn applies to a threat. -/
def applied (id : String) (s : Tenant) : Turn → History
  | .deed id' now deed =>
    if id' = id then
      ((s.threats.get id).bind (deed.mitigation s.policies)).toList.map fun m => (m, now)
    else []
  | _ => []

/-- What a run applies to a threat. -/
def history (id : String) (s : Tenant) : List Turn → History
  | [] => []
  | turn :: turns =>
    applied id s turn ++ history id (take recordDict dumps hmac subscriptions s turn) turns

end

/-- Some mitigation of a history makes an entry for the action. -/
def repeated (h : History) (action : String) : Bool := h.any fun m => m.1.action = action

/-- The last mitigation for each action, in the order of these. -/
def latest : History → History
  | [] => []
  | m :: h => if repeated h m.1.action then latest h else m :: latest h

/-- The entries of mitigations. -/
def entries (h : History) : List Json := h.map fun m => entry m.1.action m.2

/-- The field of a threat that follows its mitigations. -/
def lastOr (h : History) (f : Mitigation → String) (before : Json) : Json :=
  (h.getLast?.map fun m => Json.str (f m.1)).getD before

/-- A threat has become what a history of mitigations makes of it. -/
structure Follows (t t' : Threat) (h : History) : Prop where
  /-- the entries for other actions, and one for each action of the history -/
  entries : t'.mitigationStatus
    = t.mitigationStatus.filter (fun e => h.all fun m => !isEntryOf m.1.action e)
      ++ entries (latest h)
  status : Object.get t'.threatInfo "mitigationStatus"
    = lastOr h (·.status) (Object.get t.threatInfo "mitigationStatus")
  description : Object.get t'.threatInfo "mitigationStatusDescription"
    = lastOr h (fun m => statusDescription m.status)
      (Object.get t.threatInfo "mitigationStatusDescription")

lemma latest_append (h h' : History) :
    latest (h ++ h') = (latest h).filter (fun m => !repeated h' m.1.action) ++ latest h' := by
  induction h with
  | nil => rfl
  | cons m h ih =>
    have hrepeated : repeated (h ++ h') m.1.action
        = (repeated h m.1.action || repeated h' m.1.action) := List.any_append
    rw [List.cons_append, latest, latest, hrepeated, ih]
    cases hh : repeated h m.1.action with
    | true => rfl
    | false =>
      cases hh' : repeated h' m.1.action with
      | true => simp [hh']
      | false => simp [hh']

lemma mem_of_mem_latest {m : Mitigation × String} {h : History} (hm : m ∈ latest h) : m ∈ h := by
  induction h with
  | nil => exact hm
  | cons n h ih =>
    rw [latest] at hm
    split at hm
    · exact List.mem_cons_of_mem _ (ih hm)
    · rcases List.mem_cons.1 hm with rfl | hm
      · exact List.mem_cons_self
      · exact List.mem_cons_of_mem _ (ih hm)

lemma nodup_latest (h : History) : ((latest h).map fun m => m.1.action).Nodup := by
  induction h with
  | nil => exact List.nodup_nil
  | cons m h ih =>
    rw [latest]
    split
    · exact ih
    · rename_i hnew
      refine List.nodup_cons.2 ⟨fun hmem => hnew ?_, ih⟩
      obtain ⟨n, hn, heq⟩ := List.mem_map.1 hmem
      exact List.any_eq_true.2 ⟨n, mem_of_mem_latest hn, decide_eq_true heq⟩

lemma isEntryOf_entry (action action' now : String) :
    isEntryOf action' (entry action now) = decide (action = action') := by
  simp [isEntryOf, entry, Object.get, Assoc.get, Json.eq]

lemma filter_entries (h h' : History) :
    (entries h).filter (fun e => h'.all fun m => !isEntryOf m.1.action e)
      = entries (h.filter fun m => !repeated h' m.1.action) := by
  rw [entries, List.filter_map, entries]
  congr 1
  refine List.filter_congr fun m _ => ?_
  simp only [Function.comp_apply, isEntryOf_entry, repeated, List.not_any_eq_all_not, eq_comm]

lemma lastOr_append (h h' : History) (f : Mitigation → String) (before : Json) :
    lastOr (h ++ h') f before = lastOr h' f (lastOr h f before) := by
  rw [lastOr, lastOr, lastOr, List.getLast?_append]
  cases h'.getLast? <;> rfl

lemma Follows.trans {t t' t'' : Threat} {h h' : History} (ht : Follows t t' h)
    (ht' : Follows t' t'' h') : Follows t t'' (h ++ h') where
  entries := by
    rw [ht'.entries, ht.entries, List.filter_append, List.filter_filter, filter_entries,
      latest_append, Threats.entries, Threats.entries, Threats.entries, List.map_append,
      List.append_assoc]
    simp only [List.all_append, Bool.and_comm]
  status := by rw [ht'.status, ht.status, lastOr_append]
  description := by rw [ht'.description, ht.description, lastOr_append]

/-! ## One turn -/

/-- The fields that are the analyst's. -/
def judged (t : Threat) : Json × Json :=
  (Object.get t.threatInfo "incidentStatus", Object.get t.threatInfo "analystVerdict")

/-- The deeds that write these. -/
def Deed.judges : Deed → Bool
  | .verdict _ | .markMalicious | .incident _ | .resolve => true
  | _ => false

def Turn.judges (id : String) : Turn → Bool
  | .deed id' _ done => id' = id && done.judges
  | _ => false

def Turn.makes (id : String) : Turn → Bool
  | .make id' _ => id' = id
  | _ => false

section

variable {t : Threat} {policies : Dict String Policy} {now : String} {deed : Deed}

lemma get_written_ne {fields : Object} {key : String} (h : key ∉ fields.map Prod.fst) :
    Object.get (t.written fields).threatInfo key = Object.get t.threatInfo key := by
  induction fields generalizing t with
  | nil => rfl
  | cons p fields ih =>
    have hne := List.ne_of_not_mem_cons h
    have hset : Object.get (Assoc.set p.1 p.2 t.threatInfo) key = Object.get t.threatInfo key := by
      rw [Object.get, Assoc.get_set_ne _ _ hne, Object.get]
    exact (@ih { t with threatInfo := Assoc.set p.1 p.2 t.threatInfo }
      (List.not_mem_of_not_mem_cons h)).trans hset

lemma follows_record (m : Mitigation) : Follows t (recordMitigation m now t) [(m, now)] where
  entries := by simp [recordMitigation, latest, repeated, Threats.entries]
  status := by
    simp [recordMitigation, Threat.written, Object.get, Assoc.get_set_ne, Assoc.get_set_self,
      lastOr]
  description := by
    simp [recordMitigation, Threat.written, Object.get, Assoc.get_set_ne, Assoc.get_set_self,
      lastOr]

lemma Follows.refl (t : Threat) : Follows t t [] :=
  ⟨by simp [latest, Threats.entries], rfl, rfl⟩

lemma follows_written {fields : Object} (h : ∀ key ∈ ["mitigationStatus",
    "mitigationStatusDescription"], key ∉ fields.map Prod.fst) :
    Follows t (t.written fields) [] where
  entries := (Follows.refl t).entries
  status := get_written_ne (h _ List.mem_cons_self)
  description := get_written_ne (h _ (List.mem_cons_of_mem _ List.mem_cons_self))

lemma follows_apply : Follows t (deed.apply policies now t)
    ((deed.mitigation policies t).toList.map fun m => (m, now)) := by
  cases deed with
  | mitigate action =>
    rw [Deed.apply, Deed.mitigation]
    cases Assoc.get action MITIGATION_MAP with
    | none => exact .refl t
    | some m => exact follows_record m
  | asPolicy agent =>
    rw [Deed.apply, Deed.mitigation]
    cases (evaluate policies t agent).bind (Assoc.get · MITIGATION_MAP) with
    | none => exact .refl t
    | some m => exact (follows_record m).trans (follows_written (by simp))
  | verdict value => exact follows_written (by simp)
  | markMalicious => exact follows_written (by simp)
  | incident status => exact follows_written (by simp)
  | resolve => exact follows_written (by simp)
  | note id text userId => exact ⟨(Follows.refl t).entries, rfl, rfl⟩

lemma judged_apply (h : deed.judges = false) : judged (deed.apply policies now t) = judged t := by
  have hwritten : ∀ {t : Threat} {fields : Object}, "incidentStatus" ∉ fields.map Prod.fst →
      "analystVerdict" ∉ fields.map Prod.fst → judged (t.written fields) = judged t :=
    fun hincident hverdict => Prod.ext (get_written_ne hincident) (get_written_ne hverdict)
  have hrecord : ∀ m, judged (recordMitigation m now t) = judged t := fun m =>
    hwritten (by simp) (by simp)
  cases deed with
  | mitigate action =>
    rw [Deed.apply]
    cases Assoc.get action MITIGATION_MAP with
    | none => rfl
    | some m => exact hrecord m
  | asPolicy agent =>
    rw [Deed.apply]
    cases (evaluate policies t agent).bind (Assoc.get · MITIGATION_MAP) with
    | none => rfl
    | some m => exact (hwritten (by simp) (by simp)).trans (hrecord m)
  | note id text userId => rfl
  | _ => cases h

end

section

variable {recordDict : Threat → Object} {dumps : Object → String}
  {hmac : String → String → String} {subscriptions : List WebhookSubscription}
  {s : Tenant} {turn : Turn} {id : String} {t : Threat}

/-- What a turn does to a threat that is there. -/
lemma take_get (hs : s.threats.get id = some t) (hmakes : turn.makes id = false) :
    ∃ t', (take recordDict dumps hmac subscriptions s turn).threats.get id = some t'
      ∧ Follows t t' (applied id s turn) ∧ (turn.judges id = false → judged t' = judged t) := by
  cases turn with
  | make id' threat =>
    refine ⟨t, ?_, .refl t, fun _ => rfl⟩
    exact (Dict.get_set_ne _ _ (Ne.symm (of_decide_eq_false hmakes))).trans hs
  | setPolicy key policy => exact ⟨t, hs, .refl t, fun _ => rfl⟩
  | deed id' now deed =>
    by_cases hid : id' = id
    · subst hid
      refine ⟨deed.apply s.policies now t, ?_, ?_, fun hjudges => judged_apply ?_⟩
      · rw [take, hs]
        exact Dict.get_set_self _ _ _
      · rw [applied, if_pos rfl, hs]
        exact follows_apply
      · simpa [Turn.judges] using hjudges
    · refine ⟨t, ?_, ?_, fun _ => rfl⟩
      · rw [take]
        cases s.threats.get id' with
        | none => exact hs
        | some other => exact (Dict.get_set_ne _ _ (Ne.symm hid)).trans hs
      · rw [applied, if_neg hid]
        exact .refl t

/-- A delivery to an active subscription, whose body has no field of the mock. -/
def Told (dumps : Object → String) (hmac : String → String → String)
    (subscriptions : List WebhookSubscription) (d : Delivery) : Prop :=
  ∃ sub ∈ subscriptions, sub.active = true ∧ "threat.updated" ∈ sub.eventTypes
    ∧ ∃ payload : Object, (∀ field ∈ payload, field.1 ∉ Webhooks.THREAT_INTERNAL_FIELDS)
      ∧ d = ⟨"threat.updated", sub, dumps payload,
        Webhooks.buildHeaders hmac "threat.updated" sub (dumps payload)⟩

lemma told_of_mem_events {d : Delivery}
    (h : d ∈ events recordDict dumps hmac subscriptions t) :
    Told dumps hmac subscriptions d := by
  obtain ⟨sub, hsub, hactive, htype, body, rfl, rfl⟩ := Webhooks.mem_fireEvent.1 h
  refine ⟨sub, hsub, hactive, htype, _, fun field hfield => ?_, rfl⟩
  exact of_decide_eq_true (List.mem_filter.1 hfield).2

lemma take_fired {d : Delivery}
    (h : d ∈ (take recordDict dumps hmac subscriptions s turn).fired) :
    d ∈ s.fired ∨ Told dumps hmac subscriptions d := by
  cases turn with
  | make id threat => exact .inl h
  | setPolicy key policy => exact .inl h
  | deed id now deed =>
    rw [take] at h
    cases hget : s.threats.get id with
    | none =>
      rw [hget] at h
      exact .inl h
    | some t =>
      rw [hget] at h
      rcases List.mem_append.1 h with h | h
      · exact .inl h
      · split at h
        · exact .inr (told_of_mem_events h)
        · cases h

end

end Threats

end Mockdr
