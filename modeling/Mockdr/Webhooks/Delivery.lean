import Mathlib
import Mockdr.Python

/-!
# Deliveries of webhooks

`application/webhooks/commands.py` and `delivery_log.py`: an event is queued once for each active
subscription to it, and a fixed number of workers take the deliveries from the queue, each with its
attempts and its entries in the log.

* `fireEvent`: the deliveries of an event.
* `Pool` and `step`: `_DeliveryPool` with what its workers are doing. Requests and workers take
  their steps in any order; a receiver answers whatever it answers.
* `Moves` and `Has`: the life of one delivery, and what its entries are at each place of it.
  `step_moves`: a step of the pool is one step in the life of one delivery.
* `deliveries_accounted`: in every run, `_open` counts the deliveries that are not over, each
  delivery is in one place, and what has been logged of it is what that place says.
* `deliveries_finish`: where nothing is submitted any more, everything comes to its end.
-/

namespace Mockdr

namespace Webhooks

/-! ## Events -/

/-- `WebhookSubscription`, by what a delivery uses of it -/
structure WebhookSubscription where
  id : String
  url : String
  eventTypes : List String
  secret : String
  active : Bool
  deriving DecidableEq

/-- What `_deliver_with_retries` is called with. -/
structure Delivery where
  eventType : String
  sub : WebhookSubscription
  bodyJson : String
  headers : List (String × String)
  deriving DecidableEq

/-- `get_active_for_event` -/
def getActiveForEvent (subscriptions : List WebhookSubscription) (eventType : String) :
    List WebhookSubscription :=
  subscriptions.filter fun sub => sub.active && sub.eventTypes.contains eventType

/-- `_THREAT_INTERNAL_FIELDS` -/
def THREAT_INTERNAL_FIELDS : List String := ["notes", "timeline", "_fetched_file"]

/-- `AGENT_INTERNAL_FIELDS` (`utils/internal_fields.py`) -/
def AGENT_INTERNAL_FIELDS : List String :=
  ["passphrase", "localIp", "isInfected", "installedAt", "agentLicenseType", "cpuUsage",
    "memoryUsage", "decommissionedAt"]

/-- The fields of the mock that are taken out of a payload. -/
def internalFields (eventType : String) : List String :=
  if eventType ∈ ["threat.created", "threat.updated"] then THREAT_INTERNAL_FIELDS
  else if eventType ∈ ["agent.offline", "agent.infected"] then AGENT_INTERNAL_FIELDS
  else []

/-- `_build_headers`, with the hexadecimal digest of a body under a secret -/
def buildHeaders (hmac : String → String → String) (eventType : String)
    (sub : WebhookSubscription) (bodyJson : String) : List (String × String) :=
  [("Content-Type", "application/json"), ("X-S1-Webhook-Event", eventType)]
    ++ if sub.secret = "" then []
      else [("Authorization", "Bearer " ++ sub.secret),
        ("X-S1-Signature", "sha256=" ++ hmac sub.secret bodyJson)]

/-- `fire_event`: the deliveries that it submits, with the text of a payload -/
def fireEvent (dumps : Object → String) (hmac : String → String → String)
    (subscriptions : List WebhookSubscription) (eventType : String) (payload : Object) :
    List Delivery :=
  let payload := payload.filter fun field => field.1 ∉ internalFields eventType
  let bodyJson := dumps payload
  (getActiveForEvent subscriptions eventType).map fun sub =>
    ⟨eventType, sub, bodyJson, buildHeaders hmac eventType sub bodyJson⟩

lemma mem_fireEvent {dumps : Object → String} {hmac : String → String → String}
    {subscriptions : List WebhookSubscription} {eventType : String} {payload : Object}
    {d : Delivery} : d ∈ fireEvent dumps hmac subscriptions eventType payload
      ↔ ∃ sub ∈ subscriptions, sub.active = true ∧ eventType ∈ sub.eventTypes
        ∧ ∃ body, body = dumps (payload.filter fun field => field.1 ∉ internalFields eventType)
          ∧ d = ⟨eventType, sub, body, buildHeaders hmac eventType sub body⟩ := by
  simp only [fireEvent, getActiveForEvent, List.mem_map, List.mem_filter, Bool.and_eq_true,
    List.contains_iff_mem, exists_eq_left, and_assoc]
  exact exists_congr fun sub => and_congr_right fun _ => and_congr_right fun _ =>
    and_congr_right fun _ => eq_comm

/-! ## Attempts -/

/-- `DeliveryEntry.status` -/
inductive Status where
  | success
  | failure
  deriving DecidableEq

/-- `DeliveryEntry` -/
structure DeliveryEntry where
  subscriptionId : String
  eventType : String
  status : Status
  attempt : ℕ
  timestamp : String
  error : String
  deriving DecidableEq

/-- What a receiver answers, or what `httpx.post` raises. -/
inductive Reply where
  | answered (statusCode : ℕ)
  | raised (message : String)
  deriving DecidableEq

/-- `MAX_RETRIES` -/
def MAX_RETRIES : ℕ := 3

/-- The entry of an attempt. -/
def attemptEntry (d : Delivery) (attempt : ℕ) (now : String) : Reply → DeliveryEntry
  | .raised message => ⟨d.sub.id, d.eventType, .failure, attempt, now, message⟩
  | .answered statusCode =>
    if 400 ≤ statusCode then
      ⟨d.sub.id, d.eventType, .failure, attempt, now, s!"receiver answered {statusCode}"⟩
    else ⟨d.sub.id, d.eventType, .success, attempt, now, ""⟩

/-- The entry of a delivery whose target is refused. -/
def refusedEntry (d : Delivery) (now message : String) : DeliveryEntry :=
  ⟨d.sub.id, d.eventType, .failure, 1, now, s!"delivery refused: {message}"⟩

/-- An attempt is made again: the receiver did not take the event, and never said that it will not.
    -/
def goesOn : Reply → Bool
  | .raised _ => true
  | .answered statusCode => 500 ≤ statusCode

/-- What `check_outbound_url` comes to: it returns, it refuses the target, or it raises something
    else, which ends the delivery without an entry. -/
inductive Verdict where
  | passed
  | refused (message : String)
  | crashed
  deriving DecidableEq

/-! ## The pool -/

/-- How far `_deliver_with_retries` is: in front of the check, in front of an attempt, or back. -/
inductive Stage where
  | checking
  | trying (attempt : ℕ)
  | done
  deriving DecidableEq

/-- What a worker is busy with. Deliveries are numbered as they are submitted. -/
structure Work where
  number : ℕ
  delivery : Delivery
  stage : Stage
  deriving DecidableEq

/-- An entry, with the number of its delivery and the answer it is the entry of. -/
structure Recorded where
  number : ℕ
  reply : Option Reply
  entry : DeliveryEntry
  deriving DecidableEq

/-- `_DeliveryPool` and the delivery log. What has been submitted and recorded so far is written
    down beside them: the code keeps neither. -/
structure Pool where
  /-- `_open` -/
  opened : ℤ
  /-- the deliveries of requests that are between the two lines of `submit` -/
  submitting : List (ℕ × Delivery)
  /-- `_queue` -/
  queue : List (ℕ × Delivery)
  /-- the worker threads -/
  workers : List (Option Work)
  /-- `_entries` of the delivery log -/
  log : List DeliveryEntry
  submitted : List Delivery
  recorded : List Recorded
  deriving DecidableEq

/-- A pool of so many workers. -/
def start (workers : ℕ) : Pool := ⟨0, [], [], List.replicate workers none, [], [], []⟩

/-- `_MAX_ENTRIES` -/
def MAX_ENTRIES : ℕ := 100

/-- `record`: the oldest entry falls out of a full log. -/
def Pool.record (s : Pool) (number : ℕ) (reply : Option Reply) (entry : DeliveryEntry) : Pool :=
  let log := s.log ++ [entry]
  { s with
    log := log.drop (log.length - MAX_ENTRIES)
    recorded := s.recorded ++ [⟨number, reply, entry⟩] }

/-- A worker that goes on with something else. -/
def Pool.assign (s : Pool) (w : ℕ) (work : Option Work) : Pool :=
  { s with workers := s.workers.set w work }

/-- What can happen next. -/
inductive Action where
  /-- `self._open += 1` of `submit` -/
  | submit (d : Delivery)
  /-- `self._queue.put` of one of the requests that are submitting -/
  | put (i : ℕ)
  /-- `self._queue.get` of a worker -/
  | get (w : ℕ)
  /-- `check_outbound_url` of a worker -/
  | check (w : ℕ) (now : String) (verdict : Verdict)
  /-- an attempt of a worker -/
  | attempt (w : ℕ) (now : String) (reply : Reply)
  /-- `self._open -= 1` of a worker -/
  | finish (w : ℕ)
  /-- `clear` of the delivery log -/
  | clear
  deriving DecidableEq

/-- The pool after an action, nothing where it cannot happen. -/
def step (s : Pool) : Action → Option Pool
  | .submit d =>
    some { s with
      opened := s.opened + 1
      submitting := s.submitting ++ [(s.submitted.length, d)]
      submitted := s.submitted ++ [d] }
  | .put i =>
    s.submitting[i]?.map fun job =>
      { s with submitting := s.submitting.eraseIdx i, queue := s.queue ++ [job] }
  | .get w =>
    match s.workers[w]?, s.queue with
    | some none, (n, d) :: queue => some ({ s with queue }.assign w (some ⟨n, d, .checking⟩))
    | _, _ => none
  | .check w now verdict =>
    match s.workers[w]? with
    | some (some ⟨n, d, .checking⟩) =>
      match verdict with
      | .passed => some (s.assign w (some ⟨n, d, .trying 1⟩))
      | .refused message =>
        some ((s.assign w (some ⟨n, d, .done⟩)).record n none (refusedEntry d now message))
      | .crashed => some (s.assign w (some ⟨n, d, .done⟩))
    | _ => none
  | .attempt w now reply =>
    match s.workers[w]? with
    | some (some ⟨n, d, .trying attempt⟩) =>
      let stage := if goesOn reply ∧ attempt < MAX_RETRIES then .trying (attempt + 1) else .done
      some ((s.assign w (some ⟨n, d, stage⟩)).record n (some reply)
        (attemptEntry d attempt now reply))
    | _ => none
  | .finish w =>
    match s.workers[w]? with
    | some (some ⟨_, _, .done⟩) => some { s.assign w none with opened := s.opened - 1 }
    | _ => none
  | .clear => some { s with log := [] }

/-- The pool after a run. -/
def run (s : Pool) (actions : List Action) : Option Pool := actions.foldlM step s

/-! ## The life of a delivery -/

/-- Where a delivery is. -/
inductive Place where
  | submitting
  | queued
  | working (stage : Stage)
  deriving DecidableEq

/-- A delivery in its place. -/
structure Position where
  number : ℕ
  delivery : Delivery
  place : Place
  deriving DecidableEq

/-- The answers to a delivery and their entries. -/
abbrev Entries := List (Option Reply × DeliveryEntry)

/-- Attempts that were each made again. -/
inductive Failed (d : Delivery) : ℕ → Entries → Prop where
  | none : Failed d 0 []
  | again {k : ℕ} {entries : Entries} {reply : Reply} {now : String} (h : Failed d k entries)
      (hreply : goesOn reply = true) :
      Failed d (k + 1) (entries ++ [(some reply, attemptEntry d (k + 1) now reply)])

/-- The entries of a delivery that is over: the check raised, or refused the target, or the last
    attempt was made, which is one that is not made again or the last there is. -/
inductive Over (d : Delivery) : Entries → Prop where
  | crashed : Over d []
  | refused (now message : String) : Over d [(none, refusedEntry d now message)]
  | ended {k : ℕ} {entries : Entries} {reply : Reply} {now : String} (h : Failed d k entries)
      (hk : k < MAX_RETRIES) (hreply : goesOn reply = true → k + 1 = MAX_RETRIES) :
      Over d (entries ++ [(some reply, attemptEntry d (k + 1) now reply)])

/-- What the entries of a delivery are where it is. -/
def Has (d : Delivery) : Place → Entries → Prop
  | .submitting, entries | .queued, entries | .working .checking, entries => entries = []
  | .working (.trying attempt), entries =>
    ∃ k, attempt = k + 1 ∧ k < MAX_RETRIES ∧ Failed d k entries
  | .working .done, entries => Over d entries

/-- A step in the life of a delivery, with the entries that it makes. -/
inductive Moves (d : Delivery) : Place → Place → Entries → Prop where
  | put : Moves d .submitting .queued []
  | get : Moves d .queued (.working .checking) []
  | passed : Moves d (.working .checking) (.working (.trying 1)) []
  | refused (now message : String) :
      Moves d (.working .checking) (.working .done) [(none, refusedEntry d now message)]
  | crashed : Moves d (.working .checking) (.working .done) []
  | again {k : ℕ} (now : String) {reply : Reply} (hreply : goesOn reply = true)
      (hk : k < MAX_RETRIES) : Moves d (.working (.trying k)) (.working (.trying (k + 1)))
        [(some reply, attemptEntry d k now reply)]
  | ended {k : ℕ} (now : String) {reply : Reply}
      (hend : ¬ (goesOn reply = true ∧ k < MAX_RETRIES)) :
      Moves d (.working (.trying k)) (.working .done) [(some reply, attemptEntry d k now reply)]

section

variable {d : Delivery} {p p' : Place} {entries more : Entries}

/-- What the entries are said to be stays true. -/
lemma Has.moves (h : Has d p entries) (hmoves : Moves d p p' more) :
    Has d p' (entries ++ more) := by
  cases hmoves with
  | put => rwa [List.append_nil]
  | get => rwa [List.append_nil]
  | passed =>
    obtain rfl : entries = [] := h
    exact ⟨0, rfl, by decide, .none⟩
  | refused now message =>
    obtain rfl : entries = [] := h
    exact .refused now message
  | crashed =>
    obtain rfl : entries = [] := h
    exact .crashed
  | again now hreply hk =>
    obtain ⟨m, rfl, -, hfailed⟩ := h
    exact ⟨m + 1, rfl, hk, hfailed.again hreply⟩
  | ended now hend =>
    obtain ⟨m, rfl, hm, hfailed⟩ := h
    refine .ended hfailed hm fun hgoes => ?_
    have hlast : ¬ m + 1 < MAX_RETRIES := fun hlt => hend ⟨hgoes, hlt⟩
    omega

lemma Failed.attempts {k : ℕ} (h : Failed d k entries) :
    entries.map (·.2.attempt) = List.range' 1 k ∧ ∀ e ∈ entries, e.2.status = .failure
      ∧ ∃ reply, e.1 = some reply ∧ goesOn reply = true := by
  induction h with
  | none => exact ⟨rfl, nofun⟩
  | @again k entries reply now _ hreply ih =>
    have hattempt : (attemptEntry d (k + 1) now reply).attempt = k + 1
        ∧ (attemptEntry d (k + 1) now reply).status = .failure := by
      cases reply with
      | raised message => exact ⟨rfl, rfl⟩
      | answered statusCode =>
        have hcode : 500 ≤ statusCode := of_decide_eq_true hreply
        rw [attemptEntry, if_pos (by omega)]
        exact ⟨rfl, rfl⟩
    constructor
    · rw [List.map_append, ih.1, List.map_singleton, hattempt.1, List.range'_concat, Nat.one_mul,
        Nat.add_comm 1 k]
    · intro e he
      rcases List.mem_append.1 he with he | he
      · exact ih.2 e he
      · obtain rfl := List.mem_singleton.1 he
        exact ⟨hattempt.2, reply, rfl, hreply⟩

end

/-! ## Steps of the pool -/

/-- The place of what a worker is busy with. -/
def Work.position (work : Work) : Position :=
  ⟨work.number, work.delivery, .working work.stage⟩

/-- The deliveries that are not over, each where it is. -/
def positions (s : Pool) : List Position :=
  s.submitting.map (fun job => ⟨job.1, job.2, .submitting⟩)
    ++ (s.queue.map (fun job => ⟨job.1, job.2, .queued⟩)
      ++ s.workers.filterMap (Option.map Work.position))

/-- What has been recorded of a delivery. -/
def recordsOf (s : Pool) (number : ℕ) : Entries :=
  (s.recorded.filter fun r => r.number = number).map fun r => (r.reply, r.entry)

/-- The log has the entries since it was cleared, the last hundred of them. -/
def Logged (s : Pool) : Prop :=
  ∃ before since, s.recorded.map (·.entry) = before ++ since
    ∧ s.log = since.drop (since.length - MAX_ENTRIES)

/-- The workers are as many, and the log goes on as it should. -/
structure Keeps (s s' : Pool) : Prop where
  workers : s'.workers.length = s.workers.length
  logged : Logged s → Logged s'

/-- A delivery makes a step in its life, or it is over and its worker is free. -/
inductive Progress (s s' : Pool) : Prop where
  | move (p : Position) (place : Place) (more : Entries) (rest : List Position)
      (hmoves : Moves p.delivery p.place place more) (hbefore : (positions s).Perm (p :: rest))
      (hafter : (positions s').Perm ({ p with place } :: rest)) (hopened : s'.opened = s.opened)
      (hsubmitted : s'.submitted = s.submitted)
      (hrecorded : s'.recorded = s.recorded ++ more.map fun e => ⟨p.number, e.1, e.2⟩)
      (hkeeps : Keeps s s')
  | finish (p : Position) (rest : List Position) (hdone : p.place = .working .done)
      (hbefore : (positions s).Perm (p :: rest)) (hafter : (positions s').Perm rest)
      (hopened : s'.opened = s.opened - 1) (hsubmitted : s'.submitted = s.submitted)
      (hrecorded : s'.recorded = s.recorded) (hkeeps : Keeps s s')

/-- What a step does to the deliveries. -/
inductive Change (s s' : Pool) : Prop where
  | submit (d : Delivery) (hopened : s'.opened = s.opened + 1)
      (hpositions : (positions s').Perm (⟨s.submitted.length, d, .submitting⟩ :: positions s))
      (hsubmitted : s'.submitted = s.submitted ++ [d]) (hrecorded : s'.recorded = s.recorded)
      (hkeeps : Keeps s s')
  | progress (h : Progress s s')
  | clear (hpositions : positions s' = positions s) (hopened : s'.opened = s.opened)
      (hsubmitted : s'.submitted = s.submitted) (hrecorded : s'.recorded = s.recorded)
      (hkeeps : Keeps s s')

/-- The steps that deliver: nothing is submitted, and the log is not cleared. -/
def Action.delivers : Action → Bool
  | .submit _ | .clear => false
  | .put _ | .get _ | .check .. | .attempt .. | .finish _ => true

section

variable {s s' : Pool} {a : Action}

lemma set_perm {α : Type} {l : List α} {i : ℕ} {x : α} (h : l[i]? = some x) :
    ∃ rest, l.Perm (x :: rest) ∧ ∀ y, (l.set i y).Perm (y :: rest) := by
  obtain ⟨hi, rfl⟩ := List.getElem?_eq_some_iff.1 h
  refine ⟨l.eraseIdx i, (List.getElem_cons_eraseIdx_perm hi).symm, fun y => ?_⟩
  exact List.set_perm_cons_eraseIdx hi y

/-- A worker that is given something else to do. -/
lemma positions_assign {w : ℕ} {work : Option Work} (h : s.workers[w]? = some work) :
    ∃ rest, (positions s).Perm ((work.map Work.position).toList ++ rest)
      ∧ ∀ work', (positions (s.assign w work')).Perm
        ((work'.map Work.position).toList ++ rest) := by
  obtain ⟨others, hothers, hset⟩ := set_perm h
  let front := s.submitting.map (fun job => (⟨job.1, job.2, .submitting⟩ : Position))
    ++ s.queue.map (fun job => ⟨job.1, job.2, .queued⟩)
  have hsplit : ∀ (l : List (Option Work)) x, l.Perm (x :: others) →
      (front ++ l.filterMap (Option.map Work.position)).Perm
        ((x.map Work.position).toList
          ++ (front ++ others.filterMap (Option.map Work.position))) := by
    intro l x hl
    have hfilter := hl.filterMap (Option.map Work.position)
    have hcons : (x :: others).filterMap (Option.map Work.position)
        = (x.map Work.position).toList ++ others.filterMap (Option.map Work.position) := by
      cases x <;> rfl
    rw [hcons] at hfilter
    refine (hfilter.append_left front).trans ?_
    rw [← List.append_assoc, ← List.append_assoc]
    exact List.perm_append_comm.append_right _
  refine ⟨front ++ others.filterMap (Option.map Work.position), ?_, fun work' => ?_⟩
  · have hall := hsplit s.workers work hothers
    rwa [List.append_assoc] at hall
  · have hall := hsplit (s.workers.set w work') work' (hset work')
    rwa [List.append_assoc] at hall

lemma drop_concat {α : Type} (l : List α) (x : α) (m : ℕ) :
    (l.drop (l.length - m) ++ [x]).drop ((l.drop (l.length - m) ++ [x]).length - m)
      = (l ++ [x]).drop ((l ++ [x]).length - m) := by
  have hfront : l.drop (l.length - m) ++ [x] = (l ++ [x]).drop (l.length - m) :=
    (List.drop_append_of_le_length (Nat.sub_le _ _)).symm
  rw [hfront, List.drop_drop, List.length_drop, List.length_append, List.length_singleton]
  congr 1
  omega

lemma Logged.record (hs : Logged s) (n : ℕ) (reply : Option Reply) (entry : DeliveryEntry) :
    Logged (s.record n reply entry) := by
  obtain ⟨before, since, hrecorded, hlog⟩ := hs
  refine ⟨before, since ++ [entry], ?_, ?_⟩
  · show (s.recorded ++ [_]).map _ = _
    rw [List.map_append, hrecorded, List.append_assoc]
    rfl
  · show (s.log ++ [entry]).drop ((s.log ++ [entry]).length - MAX_ENTRIES) = _
    rw [hlog]
    exact drop_concat since entry MAX_ENTRIES

lemma keeps_assign (w : ℕ) (work : Option Work) : Keeps s (s.assign w work) :=
  ⟨List.length_set, id⟩

lemma Keeps.record {t : Pool} (h : Keeps s t) (n : ℕ) (reply : Option Reply)
    (entry : DeliveryEntry) : Keeps s (t.record n reply entry) :=
  ⟨h.workers, fun hs => (h.logged hs).record n reply entry⟩

lemma positions_record (n : ℕ) (reply : Option Reply) (entry : DeliveryEntry) :
    positions (s.record n reply entry) = positions s := by
  simp only [positions, Pool.record]

lemma progress_work {w n : ℕ} {d : Delivery} {stage stage' : Stage} {more : Entries}
    (h : s.workers[w]? = some (some ⟨n, d, stage⟩))
    (hmoves : Moves d (.working stage) (.working stage') more)
    (hpositions : positions s' = positions (s.assign w (some ⟨n, d, stage'⟩)))
    (hopened : s'.opened = s.opened) (hsubmitted : s'.submitted = s.submitted)
    (hrecorded : s'.recorded = s.recorded ++ more.map fun e => ⟨n, e.1, e.2⟩)
    (hkeeps : Keeps s s') : Progress s s' := by
  obtain ⟨rest, hbefore, hafter⟩ := positions_assign h
  refine .move ⟨n, d, .working stage⟩ (.working stage') more rest hmoves hbefore ?_ hopened
    hsubmitted hrecorded hkeeps
  rw [hpositions]
  exact hafter (some ⟨n, d, stage'⟩)

lemma change_submit (d : Delivery) (h : step s (.submit d) = some s') : Change s s' := by
  obtain rfl := Option.some.inj h
  refine .submit d rfl ?_ rfl rfl ⟨rfl, id⟩
  rw [positions, List.map_append, List.map_singleton, List.append_assoc, List.singleton_append]
  exact List.perm_middle

lemma progress_put {i : ℕ} (h : step s (.put i) = some s') : Progress s s' := by
  obtain ⟨job, hjob, rfl⟩ := Option.map_eq_some_iff.1 h
  obtain ⟨hi, rfl⟩ := List.getElem?_eq_some_iff.1 hjob
  have herase := (List.getElem_cons_eraseIdx_perm hi).symm.map
    fun job : ℕ × Delivery => (⟨job.1, job.2, .submitting⟩ : Position)
  refine .move ⟨s.submitting[i].1, s.submitting[i].2, .submitting⟩ .queued [] _ .put
    (herase.append_right _) ?_ rfl rfl (List.append_nil _).symm ⟨rfl, id⟩
  rw [positions, List.map_append, List.append_assoc, ← List.append_assoc]
  refine List.perm_middle.trans ?_
  rw [List.append_assoc]
  exact List.Perm.refl _

lemma progress_get {w : ℕ} (h : step s (.get w) = some s') : Progress s s' := by
  rw [step] at h
  split at h
  · rename_i n d queue hidle hqueue
    obtain rfl := Option.some.inj h
    obtain ⟨rest, hbefore, hafter⟩ := @positions_assign { s with queue } w none hidle
    refine .move ⟨n, d, .queued⟩ (.working .checking) [] rest .get ?_ (hafter _) rfl rfl
      (List.append_nil _).symm ⟨List.length_set, id⟩
    refine List.Perm.trans ?_ (hbefore.cons _)
    rw [positions, hqueue]
    exact List.perm_middle
  · cases h

lemma progress_check {w : ℕ} {now : String} {verdict : Verdict}
    (h : step s (.check w now verdict) = some s') : Progress s s' := by
  rw [step] at h
  split at h
  · rename_i n d hwork
    cases verdict with
    | passed =>
      obtain rfl := Option.some.inj h
      exact progress_work hwork .passed rfl rfl rfl (List.append_nil _).symm (keeps_assign _ _)
    | refused message =>
      obtain rfl := Option.some.inj h
      exact progress_work hwork (.refused now message) (positions_record _ _ _) rfl rfl rfl
        ((keeps_assign _ _).record _ _ _)
    | crashed =>
      obtain rfl := Option.some.inj h
      exact progress_work hwork .crashed rfl rfl rfl (List.append_nil _).symm (keeps_assign _ _)
  · cases h

lemma progress_attempt {w : ℕ} {now : String} {reply : Reply}
    (h : step s (.attempt w now reply) = some s') : Progress s s' := by
  rw [step] at h
  split at h
  · rename_i n d k hwork
    obtain rfl := Option.some.inj h
    by_cases hagain : goesOn reply = true ∧ k < MAX_RETRIES
    · rw [if_pos hagain]
      exact progress_work hwork (.again now hagain.1 hagain.2) (positions_record _ _ _) rfl rfl rfl
        ((keeps_assign _ _).record _ _ _)
    · rw [if_neg hagain]
      exact progress_work hwork (.ended now hagain) (positions_record _ _ _) rfl rfl rfl
        ((keeps_assign _ _).record _ _ _)
  · cases h

lemma progress_finish {w : ℕ} (h : step s (.finish w) = some s') : Progress s s' := by
  rw [step] at h
  split at h
  · rename_i n d hwork
    obtain rfl := Option.some.inj h
    obtain ⟨rest, hbefore, hafter⟩ := positions_assign hwork
    exact .finish ⟨n, d, .working .done⟩ rest rfl hbefore (hafter none) rfl rfl rfl
      ⟨List.length_set, id⟩
  · cases h

lemma step_progress (h : step s a = some s') (ha : a.delivers = true) : Progress s s' := by
  cases a with
  | put i => exact progress_put h
  | get w => exact progress_get h
  | check w now verdict => exact progress_check h
  | attempt w now reply => exact progress_attempt h
  | finish w => exact progress_finish h
  | submit d => cases ha
  | clear => cases ha

lemma step_change (h : step s a = some s') : Change s s' := by
  cases a with
  | submit d => exact change_submit d h
  | clear =>
    obtain rfl := Option.some.inj h
    exact .clear rfl rfl rfl rfl ⟨rfl, fun _ =>
      ⟨s.recorded.map (·.entry), [], (List.append_nil _).symm, rfl⟩⟩
  | _ => exact .progress (step_progress h rfl)

lemma step_keeps (h : step s a = some s') : Keeps s s' := by
  cases step_change h with
  | submit _ _ _ _ _ hkeeps => exact hkeeps
  | clear _ _ _ _ hkeeps => exact hkeeps
  | progress h =>
    cases h with
    | move _ _ _ _ _ _ _ _ _ _ hkeeps => exact hkeeps
    | finish _ _ _ _ _ _ _ _ hkeeps => exact hkeeps

/-! ## Runs -/

/-- What is known of a pool at every moment. -/
structure Accounted (s : Pool) : Prop where
  /-- `_open` is the number of deliveries that are not over -/
  opened : s.opened = (positions s).length
  /-- none of them is in two places -/
  nodup : ((positions s).map (·.number)).Nodup
  /-- each is the one that was submitted, and has the entries of its place -/
  places : ∀ p ∈ positions s, s.submitted[p.number]? = some p.delivery
    ∧ Has p.delivery p.place (recordsOf s p.number)
  /-- every other that was submitted is over -/
  gone : ∀ n d, s.submitted[n]? = some d → (∀ p ∈ positions s, p.number ≠ n) →
    Over d (recordsOf s n)
  /-- nothing is recorded of what was not submitted -/
  fresh : ∀ n, s.submitted.length ≤ n → recordsOf s n = []

lemma recordsOf_append {n m : ℕ} {more : Entries}
    (h : s'.recorded = s.recorded ++ more.map fun e => ⟨m, e.1, e.2⟩) :
    recordsOf s' n = recordsOf s n ++ if n = m then more else [] := by
  have hnumber : ∀ r ∈ more.map (fun e => (⟨m, e.1, e.2⟩ : Recorded)), r.number = m := by
    intro r hr
    obtain ⟨e, -, rfl⟩ := List.mem_map.1 hr
    rfl
  rw [recordsOf, h, List.filter_append, List.map_append, ← recordsOf]
  congr 1
  split
  · rename_i heq
    rw [List.filter_eq_self.2 fun r hr => decide_eq_true ((hnumber r hr).trans heq.symm),
      List.map_map]
    exact List.map_id more
  · rename_i hne
    rw [List.filter_eq_nil_iff.2 fun r hr h =>
      hne ((of_decide_eq_true h).symm.trans (hnumber r hr))]
    rfl

lemma recordsOf_congr {n : ℕ} (h : s'.recorded = s.recorded) : recordsOf s' n = recordsOf s n := by
  rw [recordsOf, h, ← recordsOf]

lemma Accounted.progress (hs : Accounted s) (h : Progress s s') : Accounted s' := by
  cases h with
  | move p place more rest hmoves hbefore hafter hopened hsubmitted hrecorded =>
    have hnodup : ((p :: rest).map (·.number)).Nodup := (hbefore.map _).nodup_iff.1 hs.nodup
    have hp := hs.places p (hbefore.mem_iff.2 List.mem_cons_self)
    have hother : ∀ q ∈ rest, q.number ≠ p.number := fun q hq heq =>
      (List.nodup_cons.1 hnodup).1 (List.mem_map.2 ⟨q, hq, heq⟩)
    have hrecords : ∀ n, recordsOf s' n = recordsOf s n ++ if n = p.number then more else [] :=
      fun n => recordsOf_append hrecorded
    have hsame : ∀ n, n ≠ p.number → recordsOf s' n = recordsOf s n := by
      intro n hn
      rw [hrecords, if_neg hn, List.append_nil]
    refine ⟨?_, (hafter.map _).nodup_iff.2 hnodup, ?_, ?_, ?_⟩
    · rw [hopened, hs.opened, hbefore.length_eq, hafter.length_eq]
      rfl
    · intro q hq
      rcases List.mem_cons.1 (hafter.mem_iff.1 hq) with rfl | hq
      · refine ⟨by rw [hsubmitted]; exact hp.1, ?_⟩
        rw [hrecords, if_pos rfl]
        exact hp.2.moves hmoves
      · have hq' := hs.places q (hbefore.mem_iff.2 (List.mem_cons_of_mem _ hq))
        rw [hsubmitted, hsame _ (hother q hq)]
        exact hq'
    · intro n d hn hnone
      rw [hsubmitted] at hn
      have hne : n ≠ p.number := fun heq =>
        hnone { p with place } (hafter.mem_iff.2 List.mem_cons_self) heq.symm
      rw [hsame n hne]
      refine hs.gone n d hn fun q hq => ?_
      rcases List.mem_cons.1 (hbefore.mem_iff.1 hq) with rfl | hq
      · exact hne.symm
      · exact hnone q (hafter.mem_iff.2 (List.mem_cons_of_mem _ hq))
    · intro n hn
      rw [hsubmitted] at hn
      have hlt := (List.getElem?_eq_some_iff.1 hp.1).1
      rw [hsame n (by omega)]
      exact hs.fresh n hn
  | finish p rest hdone hbefore hafter hopened hsubmitted hrecorded =>
    have hnodup : ((p :: rest).map (·.number)).Nodup := (hbefore.map _).nodup_iff.1 hs.nodup
    have hp := hs.places p (hbefore.mem_iff.2 List.mem_cons_self)
    refine ⟨?_, (hafter.map _).nodup_iff.2 (List.nodup_cons.1 hnodup).2, ?_, ?_, ?_⟩
    · rw [hopened, hs.opened, hbefore.length_eq, hafter.length_eq, List.length_cons]
      omega
    · intro q hq
      rw [hsubmitted, recordsOf_congr hrecorded]
      exact hs.places q (hbefore.mem_iff.2 (List.mem_cons_of_mem _ (hafter.mem_iff.1 hq)))
    · intro n d hn hnone
      rw [hsubmitted] at hn
      rw [recordsOf_congr hrecorded]
      by_cases hnp : n = p.number
      · subst hnp
        obtain rfl := Option.some.inj (hp.1.symm.trans hn)
        have hhas := hp.2
        rw [hdone] at hhas
        exact hhas
      · refine hs.gone n d hn fun q hq => ?_
        rcases List.mem_cons.1 (hbefore.mem_iff.1 hq) with rfl | hq
        · exact fun heq => hnp heq.symm
        · exact hnone q (hafter.mem_iff.2 hq)
    · intro n hn
      rw [hsubmitted] at hn
      rw [recordsOf_congr hrecorded]
      exact hs.fresh n hn

lemma Accounted.step (hs : Accounted s) (h : Webhooks.step s a = some s') : Accounted s' := by
  cases step_change h with
  | progress h => exact hs.progress h
  | clear hpositions hopened hsubmitted hrecorded =>
    refine ⟨?_, ?_, ?_, ?_, ?_⟩
    · rw [hopened, hpositions]
      exact hs.opened
    · rw [hpositions]
      exact hs.nodup
    · intro p hp
      rw [hpositions] at hp
      rw [hsubmitted, recordsOf_congr hrecorded]
      exact hs.places p hp
    · intro n d hn hnone
      rw [hsubmitted] at hn
      rw [hpositions] at hnone
      rw [recordsOf_congr hrecorded]
      exact hs.gone n d hn hnone
    · intro n hn
      rw [hsubmitted] at hn
      rw [recordsOf_congr hrecorded]
      exact hs.fresh n hn
  | submit d hopened hpositions hsubmitted hrecorded =>
    have hlt : ∀ p ∈ positions s, p.number < s.submitted.length := fun p hp =>
      (List.getElem?_eq_some_iff.1 (hs.places p hp).1).1
    refine ⟨?_, ?_, ?_, ?_, ?_⟩
    · rw [hopened, hs.opened, hpositions.length_eq, List.length_cons]
      omega
    · rw [(hpositions.map _).nodup_iff, List.map_cons, List.nodup_cons]
      refine ⟨fun hmem => ?_, hs.nodup⟩
      obtain ⟨p, hp, heq⟩ := List.mem_map.1 hmem
      exact absurd heq (hlt p hp).ne
    · intro p hp
      rw [hsubmitted, recordsOf_congr hrecorded]
      rcases List.mem_cons.1 (hpositions.mem_iff.1 hp) with rfl | hp
      · exact ⟨List.getElem?_concat_length, hs.fresh _ (Nat.le_refl _)⟩
      · rw [List.getElem?_append_left (hlt p hp)]
        exact hs.places p hp
    · intro n d' hn hnone
      rw [hsubmitted] at hn
      rw [recordsOf_congr hrecorded]
      have hne : n ≠ s.submitted.length := fun heq =>
        hnone ⟨s.submitted.length, d, .submitting⟩ (hpositions.mem_iff.2 List.mem_cons_self)
          heq.symm
      have hbound := (List.getElem?_eq_some_iff.1 hn).1
      rw [List.length_append, List.length_singleton] at hbound
      rw [List.getElem?_append_left (by omega)] at hn
      exact hs.gone n d' hn fun p hp =>
        hnone p (hpositions.mem_iff.2 (List.mem_cons_of_mem _ hp))
    · intro n hn
      rw [hsubmitted, List.length_append, List.length_singleton] at hn
      rw [recordsOf_congr hrecorded]
      exact hs.fresh n (by omega)

lemma run_keeps {P : Pool → Prop} (hstep : ∀ s a s', step s a = some s' → P s → P s')
    {actions : List Action} (h : run s actions = some s') (hs : P s) : P s' := by
  induction actions generalizing s with
  | nil =>
    cases h
    exact hs
  | cons a actions ih =>
    obtain ⟨t, ht, h⟩ := Option.bind_eq_some_iff.1 h
    exact ih h (hstep s a t ht hs)

lemma accounted_start (workers : ℕ) : Accounted (start workers) := by
  have hnone : positions (start workers) = [] := by
    show [] ++ ([] ++ (List.replicate workers none).filterMap _) = _
    rw [List.nil_append, List.nil_append, List.filterMap_eq_nil_iff]
    intro work hwork
    rw [List.eq_of_mem_replicate hwork]
    rfl
  refine ⟨?_, ?_, ?_, nofun, fun _ _ => rfl⟩
  · rw [hnone]
    rfl
  · rw [hnone]
    exact List.nodup_nil
  · rw [hnone]
    nofun

end

/-- The attempts of a delivery are numbered from one, there are three at most, and each but the last
    was made because it has to be made again. -/
structure Numbered (entries : Entries) : Prop where
  attempts : entries.map (·.2.attempt) = List.range' 1 entries.length
  few : entries.length ≤ MAX_RETRIES
  failures : ∀ e ∈ entries.dropLast, e.2.status = .failure
    ∧ ∃ reply, e.1 = some reply ∧ goesOn reply = true

section

variable {d : Delivery} {p : Place} {entries : Entries} {k : ℕ}

lemma Failed.length_eq (h : Failed d k entries) : entries.length = k := by
  have hattempts := congrArg List.length h.attempts.1
  rwa [List.length_map, List.length_range'] at hattempts

lemma Failed.numbered (h : Failed d k entries) (hk : k ≤ MAX_RETRIES) : Numbered entries where
  attempts := by rw [h.length_eq, h.attempts.1]
  few := by rwa [h.length_eq]
  failures e he := h.attempts.2 e ((List.dropLast_sublist _).subset he)

lemma attemptEntry_attempt (d : Delivery) (k : ℕ) (now : String) (reply : Reply) :
    (attemptEntry d k now reply).attempt = k := by
  cases reply with
  | raised message => rfl
  | answered statusCode =>
    rw [attemptEntry]
    split <;> rfl

lemma Over.numbered (h : Over d entries) : Numbered entries := by
  cases h with
  | crashed => exact ⟨rfl, Nat.zero_le _, nofun⟩
  | refused now message => exact ⟨rfl, Nat.le_of_ble_eq_true rfl, nofun⟩
  | @ended k entries reply now hfailed hk hreply =>
    have hlen := hfailed.length_eq
    refine ⟨?_, ?_, ?_⟩
    · rw [List.map_append, hfailed.attempts.1, List.map_singleton, attemptEntry_attempt,
        List.length_append, List.length_singleton, hlen, List.range'_concat, Nat.one_mul,
        Nat.add_comm 1 k]
    · rw [List.length_append, List.length_singleton, hlen]
      exact hk
    · rw [List.dropLast_concat]
      exact hfailed.attempts.2

lemma Has.numbered (h : Has d p entries) : Numbered entries := by
  cases p with
  | submitting =>
    obtain rfl : entries = [] := h
    exact Failed.numbered (d := d) .none (Nat.zero_le _)
  | queued =>
    obtain rfl : entries = [] := h
    exact Failed.numbered (d := d) .none (Nat.zero_le _)
  | working stage =>
    cases stage with
    | checking =>
      obtain rfl : entries = [] := h
      exact Failed.numbered (d := d) .none (Nat.zero_le _)
    | trying attempt =>
      obtain ⟨k, -, hk, hfailed⟩ := h
      exact hfailed.numbered (Nat.le_of_lt hk)
    | done => exact Over.numbered h

end

/-- Two deliveries and two workers: one has a port that there is not, the other is not taken at
    once. -/
def twoDeliveries : List Action :=
  [.submit ⟨"threat.updated", ⟨"s1", "http://soar:99999", [], "", true⟩, "{}", []⟩,
    .submit ⟨"threat.updated", ⟨"s2", "http://siem", [], "", true⟩, "{}", []⟩, .put 1, .get 1,
    .check 1 "t0" .passed, .put 0, .attempt 1 "t1" (.answered 503), .get 0, .check 0 "t2" .crashed,
    .attempt 1 "t3" (.answered 200), .finish 0]

/-- How many steps a delivery may still take. -/
def Place.ahead : Place → ℕ
  | .submitting => 7
  | .queued => 6
  | .working .checking => 5
  | .working (.trying attempt) => 5 - attempt
  | .working .done => 1

/-- How many steps all deliveries may still take. -/
def ahead (s : Pool) : ℕ := ((positions s).map (·.place.ahead)).sum

section

variable {s s' : Pool} {a : Action} {d : Delivery} {p p' : Place} {entries more : Entries}

lemma Place.ahead_le (p : Place) : p.ahead ≤ 7 := by
  cases p with
  | working stage => cases stage <;> simp only [Place.ahead] <;> omega
  | _ => decide

lemma ahead_le (s : Pool) : ahead s ≤ 7 * (positions s).length := by
  rw [ahead]
  induction positions s with
  | nil => exact Nat.zero_le _
  | cons p ps ih =>
    have hp := p.place.ahead_le
    simp only [List.map_cons, List.sum_cons, List.length_cons]
    omega

lemma Moves.ahead_lt (h : Moves d p p' more) (hp : Has d p entries) : p'.ahead < p.ahead := by
  cases h with
  | put => decide
  | get => decide
  | passed => decide
  | refused now message => decide
  | crashed => decide
  | @again k now reply hreply hk =>
    have hlt : k < 3 := hk
    show 5 - (k + 1) < 5 - k
    omega
  | ended now hend =>
    obtain ⟨m, rfl, hm, -⟩ := hp
    have hlt : m < 3 := hm
    show 1 < 5 - (m + 1)
    omega

lemma progress_ahead (hs : Accounted s) (h : Progress s s') : ahead s' < ahead s := by
  cases h with
  | move p place more rest hmoves hbefore hafter =>
    have hp := (hs.places p (hbefore.mem_iff.2 List.mem_cons_self)).2
    have hlt := hmoves.ahead_lt hp
    rw [ahead, ahead, (hbefore.map _).sum_nat, (hafter.map _).sum_nat]
    simp only [List.map_cons, List.sum_cons]
    omega
  | finish p rest hdone hbefore hafter =>
    rw [ahead, ahead, (hbefore.map _).sum_nat, (hafter.map _).sum_nat]
    simp only [List.map_cons, List.sum_cons, hdone, Place.ahead]
    omega

lemma run_ahead (hs : Accounted s) {actions : List Action}
    (hactions : ∀ a ∈ actions, a.delivers = true) (h : run s actions = some s') :
    actions.length + ahead s' ≤ ahead s := by
  induction actions generalizing s with
  | nil =>
    cases h
    exact (Nat.zero_add _).le
  | cons a actions ih =>
    obtain ⟨t, ht, h⟩ := Option.bind_eq_some_iff.1 h
    have hlt := progress_ahead hs (step_progress ht (hactions a List.mem_cons_self))
    have hle := ih (hs.step ht) (fun b hb => hactions b (List.mem_cons_of_mem _ hb)) h
    rw [List.length_cons]
    omega

/-- A delivery that is under way can make a step, if there is a worker. -/
lemma exists_step (hworkers : s.workers ≠ []) (hs : positions s ≠ []) :
    ∃ a, a.delivers = true ∧ (step s a).isSome = true := by
  by_cases hsubmitting : s.submitting = []
  · by_cases hbusy : ∃ (w : ℕ) (work : Work), s.workers[w]? = some (some work)
    · obtain ⟨w, ⟨n, d, stage⟩, hwork⟩ := hbusy
      cases stage with
      | checking => exact ⟨.check w "" .crashed, rfl, by rw [step, hwork]; rfl⟩
      | trying attempt => exact ⟨.attempt w "" (.raised ""), rfl, by rw [step, hwork]; rfl⟩
      | done => exact ⟨.finish w, rfl, by rw [step, hwork]; rfl⟩
    · -- every worker is idle, so that there is a delivery in the queue
      have hidle : ∀ work ∈ s.workers, work = none := by
        intro work hwork
        obtain ⟨w, hw⟩ := List.mem_iff_getElem?.1 hwork
        cases work with
        | none => rfl
        | some work => exact absurd ⟨w, work, hw⟩ hbusy
      have hnone : s.workers.filterMap (Option.map Work.position) = [] := by
        rw [List.filterMap_eq_nil_iff]
        intro work hwork
        rw [hidle work hwork]
        rfl
      obtain ⟨first, others, hfirst⟩ := List.exists_cons_of_ne_nil hworkers
      have hzero : s.workers[0]? = some none := by
        have hnone := hidle first (by rw [hfirst]; exact List.mem_cons_self)
        rw [hfirst, hnone]
        rfl
      cases hqueue : s.queue with
      | nil =>
        refine absurd ?_ hs
        rw [positions, hsubmitting, hqueue, hnone]
        rfl
      | cons job queue => exact ⟨.get 0, rfl, by rw [step, hzero, hqueue]; rfl⟩
  · obtain ⟨job, jobs, hjobs⟩ := List.exists_cons_of_ne_nil hsubmitting
    exact ⟨.put 0, rfl, by rw [step, hjobs]; rfl⟩

end

/-- From any moment on, if nothing more is submitted, requests and workers take seven steps at most
    for each delivery that is not over, in whatever order they take them, and when none of them can
    take another, every delivery is over: a worker is stuck neither by a receiver nor by the others.
    -/
theorem deliveries_finish (workers : ℕ) (hworkers : 0 < workers) (actions more : List Action)
    (s s' : Pool) (h : run (start workers) actions = some s)
    (hmore : ∀ a ∈ more, a.delivers = true) (h' : run s more = some s') :
    (more.length : ℤ) ≤ 7 * s.opened
      ∧ ((∀ a, a.delivers = true → step s' a = none) → s'.opened = 0
        ∧ ∀ n d, s'.submitted[n]? = some d → Over d (recordsOf s' n)) := by
  have hs : Accounted s :=
    run_keeps (fun _ _ _ hstep ht => ht.step hstep) h (accounted_start workers)
  have hs' : Accounted s' := run_keeps (fun _ _ _ hstep ht => ht.step hstep) h' hs
  constructor
  · have hsum := ahead_le s
    have hsteps := run_ahead hs hmore h'
    rw [hs.opened]
    omega
  · intro hstuck
    have hlen : s'.workers.length = workers := by
      have hkeeps : ∀ {t t' : Pool} {as : List Action}, run t as = some t' →
          t.workers.length = workers → t'.workers.length = workers :=
        fun hrun ht => run_keeps (fun _ _ _ hstep hu => (step_keeps hstep).workers.trans hu) hrun ht
      exact hkeeps h' (hkeeps h List.length_replicate)
    have hne : s'.workers ≠ [] := by
      rintro hnil
      rw [hnil] at hlen
      exact absurd hlen hworkers.ne
    have hnone : positions s' = [] := by
      by_contra hpositions
      obtain ⟨a, ha, hsome⟩ := exists_step hne hpositions
      rw [hstuck a ha] at hsome
      cases hsome
    refine ⟨?_, fun n d hn => hs'.gone n d hn ?_⟩
    · rw [hs'.opened, hnone]
      rfl
    · rw [hnone]
      nofun

theorem deliveries_finish_two :
    (run (start 2) (twoDeliveries ++ [.finish 1])).isSome = true
      ∧ ∀ s ∈ run (start 2) twoDeliveries, ∀ s' ∈ run s [.finish 1],
        (1 : ℤ) ≤ 7 * s.opened ∧ s'.opened = 0 := by
  refine ⟨by decide +kernel, fun s hs s' hs' => ?_⟩
  have hidle : (run (start 2) (twoDeliveries ++ [.finish 1])).map
      (fun t => (t.submitting, t.queue, t.workers)) = some ([], [], [none, none]) := by
    decide +kernel
  have hrun : run (start 2) (twoDeliveries ++ [.finish 1]) = some s' := by
    rw [run, List.foldlM_append]
    exact Option.bind_eq_some_iff.2 ⟨s, hs, hs'⟩
  rw [hrun] at hidle
  obtain ⟨hsubmitting, hqueue, hworkers⟩ : s'.submitting = [] ∧ s'.queue = []
      ∧ s'.workers = [none, none] := by simpa using hidle
  have hfree : ∀ (w : ℕ) (work : Work), s'.workers[w]? ≠ some (some work) := by
    intro w work hw
    have hmem := List.mem_of_getElem? hw
    rw [hworkers] at hmem
    simp at hmem
  obtain ⟨hle, hover⟩ := deliveries_finish 2 (by decide) twoDeliveries [.finish 1] s s' hs
    (by decide) hs'
  refine ⟨hle, (hover fun a ha => ?_).1⟩
  cases a with
  | submit d => cases ha
  | clear => cases ha
  | put i => rw [step, hsubmitting]; rfl
  | get w =>
    rw [step, hqueue]
    split
    · rename_i heq
      cases heq
    · rfl
  | check w now verdict =>
    rw [step]
    split
    · rename_i hwork
      exact absurd hwork (hfree w _)
    · rfl
  | attempt w now reply =>
    rw [step]
    split
    · rename_i hwork
      exact absurd hwork (hfree w _)
    · rfl
  | finish w =>
    rw [step]
    split
    · rename_i hwork
      exact absurd hwork (hfree w _)
    · rfl

end Webhooks

end Mockdr
