import Mathlib
import Mockdr.Lib.Run
import Mockdr.Python

/-!
# Acknowledgements of the HTTP Event Collector

The ack ids of `api/routers/splunk/splunk_hec.py`: a counter and the set of issued ids of every
channel, what a query reads and takes out of them, and the forgetting of idle channels.

* `State`, `Action`, `step`: submissions and the sweep run on the event loop, each at once. A query
  runs on a thread of its own: it answers, and later takes the ids it asked for out of the set it
  has read.
* `Sound`: what is claimed of a log of ids that are issued, answers and channels that are forgotten.
* `Clean`: the queries that keep it; `sound_of_clean`.

What `str` makes of a value that is neither a string nor an integer is a parameter.
-/

namespace Mockdr

namespace Hec

/-- What happens to the acknowledgements, as a log keeps it. -/
inductive Event where
  | issued (channel : String) (id : Nat)
  | answered (channel : String) (answer : Dict String Bool)
  | raised
  | forgotten (channel : String)

/-- A query that has answered: the set it has read, by its number, what it asked for, and
    its answer. -/
structure Taking where
  set : Nat
  acks : List Json
  answer : Dict String Bool

/-- The acknowledgement state. The sets are numbered in the order in which they are made. -/
structure State where
  /-- `_ACK_COUNTERS`: the next id of a channel -/
  ackCounters : Dict String Nat
  /-- `_ISSUED_ACKS`: the set of a channel -/
  issuedAcks : Dict String Nat
  /-- `_CHANNEL_SEEN` -/
  channelSeen : Dict String ℚ
  /-- what is in a set -/
  sets : Nat → List Nat
  /-- how many sets have been made -/
  made : Nat
  /-- the queries that have answered and not yet taken -/
  taking : List Taking
  /-- what has happened, the latest first -/
  log : List Event

/-- Nothing has been issued. -/
def State.init : State := ⟨.empty, .empty, .empty, fun _ => [], 0, [], []⟩

/-- `_CHANNEL_MAX_IDLE_SECONDS` -/
def CHANNEL_MAX_IDLE_SECONDS : ℚ := 600

/-- Forget a channel. -/
def forget (s : State) (channel : String) : State :=
  { s with
    channelSeen := s.channelSeen.erase channel
    ackCounters := s.ackCounters.erase channel
    issuedAcks := s.issuedAcks.erase channel
    log := .forgotten channel :: s.log }

/-- `reap_idle_channels` -/
def reapIdleChannels (now : ℚ) (s : State) : State :=
  let idle := s.channelSeen.entries.filter fun p => CHANNEL_MAX_IDLE_SECONDS < now - p.2
  (idle.map Prod.fst).foldl forget s

/-- The set of a channel and what is in it: a new one if it has none. -/
def setOf (s : State) (channel : String) : Nat × List Nat :=
  match s.issuedAcks.get channel with
  | some set => (set, s.sets set)
  | none => (s.made, [])

/-- `_next_ack` -/
def nextAck (channel : String) (now : ℚ) (s : State) : State :=
  let id := (s.ackCounters.get channel).getD 0
  let issued := setOf s channel
  { s with
    ackCounters := s.ackCounters.set channel (id + 1)
    issuedAcks := s.issuedAcks.set channel issued.1
    channelSeen := s.channelSeen.set channel now
    sets := fun set => if set = issued.1 then id :: issued.2 else s.sets set
    made := if s.issuedAcks.contains channel then s.made else s.made + 1
    log := .issued channel id :: s.log }

/-- What becomes of the acknowledgements when events are taken in, which `useACK` without a channel
    are not. -/
def submit (useAck : Bool) (channel : Option String) (now : ℚ) (s : State) : State :=
  match channel with
  | some channel => if useAck && channel ≠ "" then nextAck channel now s else s
  | none => s

/-- Whether a value can be hashed. -/
def hashable : Json → Bool
  | .list _ => false
  | .dict _ => false
  | _ => true

/-- `body.get("acks", [])`, gone through and looked up in a set; nothing where that raises. -/
def readAcks (body : Object) : Option (List Json) :=
  ((Assoc.get "acks" body).getD (.list [])).iterate.bind fun acks =>
    if acks.all hashable then some acks else none

/-- `ack_id in issued` -/
def isIn (issued : List Nat) (ackId : Json) : Bool :=
  issued.any fun id => ackId.number = some (id : ℚ)

/-- `isinstance(ack_id, int)` -/
def isInstanceInt : Json → Bool
  | .int _ => true
  | .bool _ => true
  | _ => false

/-- A set without the ids that were asked for. -/
def differenceUpdate (acks : List Json) (issued : List Nat) : List Nat :=
  issued.filter fun id => !acks.any fun ackId => isInstanceInt ackId && ackId.number = some (id : ℚ)

variable (py : Python)

/-- `str(ack_id)` -/
def ackText : Json → String
  | .int n => n.repr
  | v => py.toStr v

/-- The answer to a query. -/
def answer (issued : List Nat) (acks : List Json) : Dict String Bool :=
  acks.foldl (fun d ackId => d.set (ackText py ackId) (isIn issued ackId)) .empty

/-- `hec_ack` refuses a query without a channel, and one with neither a token for acknowledgements
    nor any issued on its channel. -/
def refused (useAck : Bool) (channel : String) (s : State) : Bool :=
  channel = "" || !useAck && !s.issuedAcks.contains channel

/-- `hec_ack`, up to the answer. -/
def ask (useAck : Bool) (channel : Option String) (body : Object) (now : ℚ) (s : State) : State :=
  match channel with
  | none => s
  | some channel =>
    if refused useAck channel s then s
    else
      let channelSeen := if s.channelSeen.contains channel then s.channelSeen.set channel now
        else s.channelSeen
      match readAcks body with
      | none => { s with channelSeen, log := .raised :: s.log }
      | some acks =>
        let issued := setOf s channel
        let answer := answer py issued.2 acks
        { s with
          channelSeen
          log := .answered channel answer :: s.log
          -- a set made for the query alone is dropped with it
          taking := if s.issuedAcks.contains channel then ⟨issued.1, acks, answer⟩ :: s.taking
            else s.taking }

/-- `hec_ack`, after the answer. -/
def take (query : Nat) (s : State) : State :=
  match s.taking[query]? with
  | none => s
  | some taking =>
    { s with
      sets := fun set =>
        if set = taking.set then differenceUpdate taking.acks (s.sets set) else s.sets set
      taking := s.taking.eraseIdx query }

/-- What happens next. -/
inductive Action where
  /-- events are taken in -/
  | submit (useAck : Bool) (channel : Option String) (now : ℚ)
  /-- a query answers; `useAck` is that of its token -/
  | ask (useAck : Bool) (channel : Option String) (body : Object) (now : ℚ)
  /-- one of the queries that have answered takes the ids out -/
  | take (query : Nat)
  /-- the sweep -/
  | reap (now : ℚ)

/-- One step. -/
def step (s : State) : Action → State
  | .submit useAck channel now => submit useAck channel now s
  | .ask useAck channel body now => ask py useAck channel body now s
  | .take query => take query s
  | .reap now => reapIdleChannels now s

/-! ## What is claimed -/

/-- The event forgets a channel. -/
def Event.forgets (channel : String) : Event → Bool
  | .forgotten c => c = channel
  | _ => false

/-- What has happened since a channel was last forgotten. -/
def period (channel : String) (log : List Event) : List Event :=
  log.takeWhile fun e => !e.forgets channel

/-- The ids an event issues on a channel. -/
def Event.issuedOn (channel : String) : Event → Option Nat
  | .issued c id => if c = channel then some id else none
  | _ => none

/-- The answer an event gives on a channel. -/
def Event.answeredOn (channel : String) : Event → Option (Dict String Bool)
  | .answered c a => if c = channel then some a else none
  | _ => none

/-- The ids issued on a channel since it was last forgotten, the latest first. -/
def issuedOn (channel : String) (log : List Event) : List Nat :=
  (period channel log).filterMap (Event.issuedOn channel)

/-- The answers given on a channel since it was last forgotten. -/
def answersOn (channel : String) (log : List Event) : List (Dict String Bool) :=
  (period channel log).filterMap (Event.answeredOn channel)

/-- An answer is true for an id. -/
def Answers (a : Dict String Bool) (id : Nat) : Prop := a.get id.repr = some true

instance (a : Dict String Bool) (id : Nat) : Decidable (Answers a id) :=
  inferInstanceAs (Decidable (_ = _))

/-- What is claimed of the acknowledgements. -/
structure Sound (log : List Event) : Prop where
  /-- The ids of a channel differ and increase until it is forgotten. -/
  increasing : ∀ channel, (issuedOn channel log).Pairwise (· > ·)
  /-- An id is answered true at most once. -/
  once : ∀ channel, ∀ id ∈ issuedOn channel log,
    (answersOn channel log).countP (fun a => Answers a id) ≤ 1
  /-- Only an id that was issued is answered true. -/
  issuedOnly : ∀ channel, ∀ a ∈ answersOn channel log, ∀ key, a.get key = some true →
    ∃ id ∈ issuedOn channel log, key = id.repr
  /-- A query never raises. -/
  answers : ∀ e ∈ log, e ≠ .raised

/-- The queries that keep it: what is asked for can be gone through and looked up, each value that
    is equal to an id in the set and whose text is not asked for again is an integer, and no other
    query that answered true for it has still to take it. -/
def Clean (s : State) : Action → Prop
  | .ask useAck (some channel) body _ => refused useAck channel s = false →
      ∃ acks, readAcks body = some acks
        ∧ ∀ before ackId after, acks = before ++ ackId :: after →
          (∀ other ∈ after, ackText py other ≠ ackText py ackId) →
          isIn (setOf s channel).2 ackId →
          ∃ id : Nat, ackId = .int id
            ∧ ∀ t ∈ s.taking, s.issuedAcks.get channel = some t.set → ¬ Answers t.answer id
  | _ => True

/-- What is known between the steps: the counters are ahead of the ids, the sets hold ids of their
    channel and no two channels share one, and what was answered true is out of its set or is still
    to be taken by the query that got the answer. -/
structure Inv (s : State) : Prop where
  sound : Sound s.log
  below : ∀ channel, ∀ id ∈ issuedOn channel s.log, id < (s.ackCounters.get channel).getD 0
  known : ∀ channel, ∀ id ∈ issuedOn channel s.log, ∃ set, s.issuedAcks.get channel = some set
  inSet : ∀ channel set, s.issuedAcks.get channel = some set →
    ∀ id ∈ s.sets set, id ∈ issuedOn channel s.log
  numbered : ∀ channel set, s.issuedAcks.get channel = some set → set < s.made
  apart : ∀ channel channel' set, s.issuedAcks.get channel = some set →
    s.issuedAcks.get channel' = some set → channel = channel'
  answered : ∀ channel set, s.issuedAcks.get channel = some set → ∀ id ∈ s.sets set,
    (∃ a ∈ answersOn channel s.log, Answers a id) →
      ∃ t ∈ s.taking, t.set = set ∧ Answers t.answer id
        ∧ ∃ ackId ∈ t.acks, isInstanceInt ackId = true ∧ ackId.number = some (id : ℚ)
  takings : ∀ t ∈ s.taking, t.set < s.made

variable {py} {s : State} {channel : String}

lemma inv_init : Inv State.init where
  sound := ⟨fun _ => .nil, nofun, nofun, nofun⟩
  below := nofun
  known := nofun
  inSet := nofun
  numbered := nofun
  apart := nofun
  answered := nofun
  takings := nofun

lemma eq_of_repr_eq {m n : Nat} (h : m.repr = n.repr) : m = n := by
  have hdigits := congrArg (fun s => Nat.ofDigitChars 10 s.toList 0) h
  simpa only [Nat.toList_repr, Nat.ofDigitChars_ten_toDigits] using hdigits

/-! ## The log of one channel -/

lemma period_cons {e : Event} (h : e.forgets channel = false) (log : List Event) :
    period channel (e :: log) = e :: period channel log :=
  List.takeWhile_cons_of_pos (by rw [h]; rfl)

lemma period_forgotten (channel : String) (log : List Event) :
    period channel (.forgotten channel :: log) = [] :=
  List.takeWhile_cons_of_neg (by simp [Event.forgets])

lemma issuedOn_cons {e : Event} (h : e.forgets channel = false) (log : List Event) :
    issuedOn channel (e :: log) = (e.issuedOn channel).toList ++ issuedOn channel log := by
  rw [issuedOn, period_cons h, List.filterMap_cons]
  cases e.issuedOn channel with
  | none => rfl
  | some id => rfl

lemma answersOn_cons {e : Event} (h : e.forgets channel = false) (log : List Event) :
    answersOn channel (e :: log) = (e.answeredOn channel).toList ++ answersOn channel log := by
  rw [answersOn, period_cons h, List.filterMap_cons]
  cases e.answeredOn channel with
  | none => rfl
  | some a => rfl

lemma issuedOn_forgotten (channel : String) (log : List Event) :
    issuedOn channel (.forgotten channel :: log) = [] := by
  rw [issuedOn, period_forgotten]
  rfl

lemma answersOn_forgotten (channel : String) (log : List Event) :
    answersOn channel (.forgotten channel :: log) = [] := by
  rw [answersOn, period_forgotten]
  rfl

lemma on_cons_of_none {e : Event} (hforgets : e.forgets channel = false)
    (hissued : e.issuedOn channel = none) (hanswered : e.answeredOn channel = none)
    (log : List Event) : issuedOn channel (e :: log) = issuedOn channel log
      ∧ answersOn channel (e :: log) = answersOn channel log := by
  rw [issuedOn_cons hforgets, answersOn_cons hforgets, hissued, hanswered]
  exact ⟨rfl, rfl⟩

lemma Sound.not_answers {log : List Event} (h : Sound log) {id : Nat}
    (hid : id ∉ issuedOn channel log) : ∀ a ∈ answersOn channel log, ¬ Answers a id := by
  intro a ha htrue
  obtain ⟨id', hid', hrepr⟩ := h.issuedOnly channel a ha id.repr htrue
  rw [eq_of_repr_eq hrepr] at hid
  exact hid hid'

/-! ## An id is issued -/

lemma setOf_of_some {set : Nat} (h : s.issuedAcks.get channel = some set) :
    setOf s channel = (set, s.sets set) := by
  rw [setOf, h]

lemma setOf_of_none (h : s.issuedAcks.get channel = none) : setOf s channel = (s.made, []) := by
  rw [setOf, h]

lemma Inv.setOf (h : Inv s) (channel : String) :
    (∀ id ∈ (setOf s channel).2, id ∈ issuedOn channel s.log)
      ∧ (∀ other set, s.issuedAcks.get other = some set → other ≠ channel →
        set ≠ (setOf s channel).1)
      ∧ (setOf s channel).1 < if s.issuedAcks.contains channel then s.made else s.made + 1 := by
  rw [Dict.contains]
  cases hset : s.issuedAcks.get channel with
  | some set =>
    rw [setOf_of_some hset, Option.isSome_some, if_pos rfl]
    refine ⟨h.inSet channel set hset, ?_, h.numbered channel set hset⟩
    rintro other set' hother hne rfl
    exact hne (h.apart other channel set' hother hset)
  | none =>
    rw [setOf_of_none hset, Option.isSome_none, if_neg Bool.false_ne_true]
    refine ⟨fun _ hid => absurd hid List.not_mem_nil, ?_, Nat.lt_succ_self _⟩
    rintro other set' hother - rfl
    exact absurd (h.numbered other _ hother) (Nat.lt_irrefl _)

lemma sound_nextAck (h : Inv s) (channel : String) :
    Sound (.issued channel ((s.ackCounters.get channel).getD 0) :: s.log) := by
  have hissued : ∀ other,
      issuedOn other (.issued channel ((s.ackCounters.get channel).getD 0) :: s.log) = _ :=
    fun other => issuedOn_cons rfl s.log
  have hanswers : ∀ other,
      answersOn other (.issued channel ((s.ackCounters.get channel).getD 0) :: s.log)
        = answersOn other s.log := fun other => answersOn_cons rfl s.log
  refine ⟨?_, ?_, ?_, ?_⟩
  · intro other
    rw [hissued other, Event.issuedOn]
    split
    · next heq =>
      subst heq
      exact List.pairwise_cons.2 ⟨h.below channel, h.sound.increasing channel⟩
    · exact h.sound.increasing other
  · intro other id hid
    rw [hanswers other]
    by_cases hold : id ∈ issuedOn other s.log
    · exact h.sound.once other id hold
    · rw [List.countP_eq_zero.2 fun a ha => by
        rw [decide_eq_true_eq]
        exact h.sound.not_answers hold a ha]
      exact Nat.zero_le 1
  · intro other a ha key hkey
    rw [hanswers other] at ha
    obtain ⟨id, hid, hrepr⟩ := h.sound.issuedOnly other a ha key hkey
    refine ⟨id, ?_, hrepr⟩
    rw [hissued other]
    exact List.mem_append_right _ hid
  · intro e he
    rcases List.mem_cons.1 he with rfl | he
    · rintro ⟨⟩
    · exact h.sound.answers e he

lemma inv_nextAck (h : Inv s) (channel : String) (now : ℚ) : Inv (nextAck channel now s) := by
  obtain ⟨hown, hothers, hnumber⟩ := h.setOf channel
  have hissued : ∀ other,
      issuedOn other (.issued channel ((s.ackCounters.get channel).getD 0) :: s.log) = _ :=
    fun other => issuedOn_cons rfl s.log
  have hself : issuedOn channel (.issued channel ((s.ackCounters.get channel).getD 0) :: s.log)
      = (s.ackCounters.get channel).getD 0 :: issuedOn channel s.log := by
    rw [hissued channel, Event.issuedOn, if_pos rfl]
    rfl
  have hother : ∀ {other : String}, other ≠ channel →
      issuedOn other (.issued channel ((s.ackCounters.get channel).getD 0) :: s.log)
        = issuedOn other s.log := by
    intro other hne
    rw [hissued other, Event.issuedOn, if_neg hne.symm]
    rfl
  have hanswers : ∀ other,
      answersOn other (.issued channel ((s.ackCounters.get channel).getD 0) :: s.log)
        = answersOn other s.log := fun other => answersOn_cons rfl s.log
  have hmade : s.made ≤ if s.issuedAcks.contains channel then s.made else s.made + 1 := by
    split
    · exact Nat.le_refl _
    · exact Nat.le_succ _
  have hget : ∀ {other : String} {set : Nat},
      (s.issuedAcks.set channel (setOf s channel).1).get other = some set →
        (other = channel ∧ set = (setOf s channel).1)
          ∨ (other ≠ channel ∧ s.issuedAcks.get other = some set) := by
    intro other set hset
    rw [Dict.get_set] at hset
    split at hset
    · next heq => exact .inl ⟨heq, (Option.some.inj hset).symm⟩
    · next hne => exact .inr ⟨hne, hset⟩
  have hnew : (s.ackCounters.get channel).getD 0 ∉ issuedOn channel s.log :=
    fun hmem => absurd (h.below channel _ hmem) (Nat.lt_irrefl _)
  refine ⟨sound_nextAck h channel, ?_, ?_, ?_, ?_, ?_, ?_, ?_⟩
  · intro other id hid
    change id < ((s.ackCounters.set channel _).get other).getD 0
    rw [Dict.get_set]
    split
    · next heq =>
      subst heq
      change id ∈ issuedOn other (.issued other _ :: s.log) at hid
      rw [hself] at hid
      rcases List.mem_cons.1 hid with rfl | hid
      · exact Nat.lt_succ_self _
      · exact Nat.lt_succ_of_lt (h.below other id hid)
    · next hne =>
      change id ∈ issuedOn other (.issued channel _ :: s.log) at hid
      rw [hother hne] at hid
      exact h.below other id hid
  · intro other id hid
    change ∃ set, (s.issuedAcks.set channel _).get other = some set
    rw [Dict.get_set]
    split
    · exact ⟨_, rfl⟩
    · next hne =>
      change id ∈ issuedOn other (.issued channel _ :: s.log) at hid
      rw [hother hne] at hid
      exact h.known other id hid
  · intro other set hset id hid
    change id ∈ issuedOn other (.issued channel _ :: s.log)
    change id ∈ if set = (setOf s channel).1 then _ else s.sets set at hid
    rcases hget hset with ⟨rfl, rfl⟩ | ⟨hne, hset⟩
    · rw [if_pos rfl] at hid
      rw [hself]
      exact List.mem_cons.2 ((List.mem_cons.1 hid).imp_right (hown id))
    · rw [if_neg (hothers other set hset hne)] at hid
      rw [hother hne]
      exact h.inSet other set hset id hid
  · intro other set hset
    rcases hget hset with ⟨-, rfl⟩ | ⟨-, hset⟩
    · exact hnumber
    · exact lt_of_lt_of_le (h.numbered other set hset) hmade
  · intro other other' set hset hset'
    rcases hget hset with ⟨rfl, rfl⟩ | ⟨hne, hold⟩
    · rcases hget hset' with ⟨rfl, -⟩ | ⟨hne', hold'⟩
      · rfl
      · exact absurd rfl (hothers other' _ hold' hne')
    · rcases hget hset' with ⟨rfl, rfl⟩ | ⟨-, hold'⟩
      · exact absurd rfl (hothers other _ hold hne)
      · exact h.apart other other' set hold hold'
  · intro other set hset id hid htrue
    change ∃ a ∈ answersOn other (.issued channel _ :: s.log), Answers a id at htrue
    rw [hanswers other] at htrue
    change id ∈ if set = (setOf s channel).1 then _ else s.sets set at hid
    rcases hget hset with ⟨rfl, rfl⟩ | ⟨hne, hset⟩
    · rw [if_pos rfl] at hid
      rcases List.mem_cons.1 hid with rfl | hid
      · obtain ⟨a, ha, htrue⟩ := htrue
        exact absurd htrue (h.sound.not_answers hnew a ha)
      · cases hold : s.issuedAcks.get other with
        | some set =>
          rw [setOf_of_some hold] at hid ⊢
          exact h.answered other set hold id hid htrue
        | none =>
          rw [setOf_of_none hold] at hid
          cases hid
    · rw [if_neg (hothers other set hset hne)] at hid
      exact h.answered other set hset id hid htrue
  · intro t ht
    exact lt_of_lt_of_le (h.takings t ht) hmade

/-! ## A query answers -/

/-- A text that is answered true is that of a value that is in the set and is not asked
    for again. -/
lemma exists_of_answer {issued : List Nat} {acks : List Json} {key : String}
    (h : (answer py issued acks).get key = some true) :
    ∃ before ackId after, acks = before ++ ackId :: after
      ∧ (∀ other ∈ after, ackText py other ≠ ackText py ackId)
      ∧ key = ackText py ackId ∧ isIn issued ackId = true := by
  induction acks using List.reverseRecOn with
  | nil => cases h
  | append_singleton acks last ih =>
    rw [answer, List.foldl_append, List.foldl_cons, List.foldl_nil, Dict.get_set] at h
    split at h
    · next heq => exact ⟨acks, last, [], rfl, fun _ h => absurd h List.not_mem_nil, heq, Option.some.inj h⟩
    · next hne =>
      obtain ⟨before, ackId, after, rfl, hafter, rfl, hin⟩ := ih h
      refine ⟨before, ackId, after ++ [last], by simp, ?_, rfl, hin⟩
      intro other hother
      rcases List.mem_append.1 hother with hother | hother
      · exact hafter other hother
      · rw [List.mem_singleton.1 hother]
        exact fun heq => hne heq.symm

lemma isIn_iff {issued : List Nat} {ackId : Json} :
    isIn issued ackId = true ↔ ∃ id ∈ issued, ackId.number = some (id : ℚ) := by
  simp only [isIn, List.any_eq_true, decide_eq_true_eq]

/-- A clean query answers true only for integers in the set, which no other query has
    still to take. -/
lemma exists_of_clean {useAck : Bool} {body : Object} {now : ℚ} {acks : List Json} {key : String}
    (hclean : Clean py s (.ask useAck (some channel) body now))
    (hrefused : refused useAck channel s = false) (hacks : readAcks body = some acks)
    (h : (answer py (setOf s channel).2 acks).get key = some true) :
    ∃ id ∈ (setOf s channel).2, key = id.repr ∧ Json.int id ∈ acks
      ∧ ∀ t ∈ s.taking, s.issuedAcks.get channel = some t.set → ¬ Answers t.answer id := by
  obtain ⟨acks', hacks', hall⟩ := hclean hrefused
  rw [hacks] at hacks'
  cases hacks'
  obtain ⟨before, ackId, after, rfl, hafter, rfl, hin⟩ := exists_of_answer h
  obtain ⟨id, rfl, htaking⟩ := hall before ackId after rfl hafter hin
  obtain ⟨id', hid', hnumber⟩ := isIn_iff.1 hin
  have hsame : id = id' := by
    rw [Json.number, Option.some.injEq] at hnumber
    exact_mod_cast hnumber
  subst hsame
  exact ⟨id, hid', rfl, List.mem_append_right _ List.mem_cons_self, htaking⟩

lemma inv_ask {useAck : Bool} {queried : Option String} {body : Object} {now : ℚ} (h : Inv s)
    (hclean : Clean py s (.ask useAck queried body now)) :
    Inv (ask py useAck queried body now s) := by
  cases queried with
  | none => exact h
  | some channel =>
    rw [ask]
    cases hrefused : refused useAck channel s with
    | true => exact h
    | false =>
      obtain ⟨acks, hacks, -⟩ := hclean hrefused
      simp only [hacks, Bool.false_eq_true, if_false]
      obtain ⟨hown, -, -⟩ := h.setOf channel
      set a := answer py (setOf s channel).2 acks with ha
      have hissued : ∀ other, issuedOn other (.answered channel a :: s.log)
          = issuedOn other s.log :=
        fun other => issuedOn_cons rfl s.log
      have hanswers : ∀ other, answersOn other (.answered channel a :: s.log)
          = (if channel = other then [a] else []) ++ answersOn other s.log := by
        intro other
        rw [answersOn_cons rfl, Event.answeredOn]
        split
        · rfl
        · rfl
      have hnew : ∀ {other : String} {a' : Dict String Bool},
          a' ∈ answersOn other (.answered channel a :: s.log) →
          (other = channel ∧ a' = a) ∨ a' ∈ answersOn other s.log := by
        intro other a' ha'
        rw [hanswers other] at ha'
        rcases List.mem_append.1 ha' with ha' | ha'
        · split at ha'
          · next heq => exact .inl ⟨heq.symm, List.mem_singleton.1 ha'⟩
          · cases ha'
        · exact .inr ha'
      -- what is true in the answer was in the set, and has not been answered true before
      have htrue : ∀ {key : String}, a.get key = some true → ∃ id ∈ (setOf s channel).2,
          key = id.repr ∧ Json.int id ∈ acks ∧ ∀ a ∈ answersOn channel s.log, ¬ Answers a id := by
        intro key hkey
        obtain ⟨id, hid, hrepr, hasked, htaking⟩ := exists_of_clean hclean hrefused hacks hkey
        refine ⟨id, hid, hrepr, hasked, ?_⟩
        intro a' ha' htrue
        cases hset : s.issuedAcks.get channel with
        | none =>
          rw [setOf_of_none hset] at hid
          cases hid
        | some set =>
          rw [setOf_of_some hset] at hid
          obtain ⟨t, ht, rfl, hanswered, -⟩ := h.answered channel set hset id hid ⟨a', ha', htrue⟩
          exact htaking t ht hset hanswered
      have hmem : ∀ t ∈ s.taking, t ∈ (if s.issuedAcks.contains channel then
          ⟨(setOf s channel).1, acks, a⟩ :: s.taking else s.taking) := by
        intro t ht
        split
        · exact List.mem_cons_of_mem _ ht
        · exact ht
      refine ⟨⟨?_, ?_, ?_, ?_⟩, ?_, ?_, ?_, h.numbered, h.apart, ?_, ?_⟩
      · intro other
        rw [hissued other]
        exact h.sound.increasing other
      · intro other id hid
        rw [hissued other] at hid
        rw [hanswers other]
        have hold := h.sound.once other id hid
        split
        · next heq =>
          subst heq
          rw [List.countP_append, List.countP_singleton]
          split
          · next hanswered =>
            obtain ⟨id', -, hrepr, -, hnot⟩ := htrue (of_decide_eq_true hanswered)
            rw [← eq_of_repr_eq hrepr] at hnot
            rw [List.countP_eq_zero.2 fun a' ha' => by
              rw [decide_eq_true_eq]
              exact hnot a' ha']
          · omega
        · exact hold
      · intro other a' ha' key hkey
        rw [hissued other]
        rcases hnew ha' with ⟨rfl, rfl⟩ | ha'
        · obtain ⟨id, hid, hrepr, -⟩ := htrue hkey
          exact ⟨id, hown id hid, hrepr⟩
        · exact h.sound.issuedOnly other a' ha' key hkey
      · intro e he
        rcases List.mem_cons.1 he with rfl | he
        · rintro ⟨⟩
        · exact h.sound.answers e he
      · intro other id hid
        rw [hissued other] at hid
        exact h.below other id hid
      · intro other id hid
        rw [hissued other] at hid
        exact h.known other id hid
      · intro other set hset id hid
        rw [hissued other]
        exact h.inSet other set hset id hid
      · intro other set hset id hid hanswered
        obtain ⟨a', ha', hanswered⟩ := hanswered
        rcases hnew ha' with ⟨rfl, rfl⟩ | ha'
        · obtain ⟨id', -, hrepr, hasked, -⟩ := htrue hanswered
          have hknown : s.issuedAcks.contains other = true := by
            rw [Dict.contains, hset]
            rfl
          refine ⟨⟨(setOf s other).1, acks, a⟩, ?_, ?_, hanswered, .int id, ?_, rfl, rfl⟩
          · rw [if_pos hknown]
            exact List.mem_cons_self
          · change (setOf s other).1 = set
            rw [setOf_of_some (show s.issuedAcks.get other = some set from hset)]
          · rw [eq_of_repr_eq hrepr]
            exact hasked
        · obtain ⟨t, ht, hrest⟩ := h.answered other set hset id hid ⟨a', ha', hanswered⟩
          exact ⟨t, hmem t ht, hrest⟩
      · intro t ht
        change t ∈ (if s.issuedAcks.contains channel then
          ⟨(setOf s channel).1, acks, a⟩ :: s.taking else s.taking) at ht
        split at ht
        · next hknown =>
          rcases List.mem_cons.1 ht with rfl | ht
          · obtain ⟨set, hset⟩ := Option.isSome_iff_exists.1 hknown
            rw [setOf_of_some hset]
            exact h.numbered channel set hset
          · exact h.takings t ht
        · exact h.takings t ht

/-! ## A query takes, and channels are forgotten -/

lemma mem_differenceUpdate {acks : List Json} {issued : List Nat} {id : Nat}
    (h : id ∈ differenceUpdate acks issued) :
    id ∈ issued ∧ ¬ ∃ ackId ∈ acks, isInstanceInt ackId = true ∧ ackId.number = some (id : ℚ) := by
  rw [differenceUpdate, List.mem_filter] at h
  simpa using h

lemma inv_take {query : Nat} (h : Inv s) : Inv (take query s) := by
  rw [take]
  split
  · exact h
  · next taking htaking =>
    have hsub : ∀ {set id : Nat}, id ∈ (if set = taking.set then
        differenceUpdate taking.acks (s.sets set) else s.sets set) → id ∈ s.sets set := by
      intro set id hid
      split at hid
      · exact (mem_differenceUpdate hid).1
      · exact hid
    refine ⟨h.sound, h.below, h.known, ?_, h.numbered, h.apart, ?_, ?_⟩
    · exact fun other set hset id hid => h.inSet other set hset id (hsub hid)
    · intro other set hset id hid hanswered
      obtain ⟨t, ht, rfl, htrue, hint⟩ := h.answered other set hset id (hsub hid) hanswered
      refine ⟨t, ?_, rfl, htrue, hint⟩
      obtain ⟨i, hi⟩ := List.mem_iff_getElem?.1 ht
      refine List.mem_eraseIdx_iff_getElem?.2 ⟨i, ?_, hi⟩
      -- the query that takes now leaves nothing in the set of what it was answered true for
      rintro rfl
      rw [htaking] at hi
      cases hi
      dsimp only at hid
      rw [if_pos rfl] at hid
      exact (mem_differenceUpdate hid).2 hint
    · exact fun t ht => h.takings t (List.mem_of_mem_eraseIdx ht)

lemma inv_forget (h : Inv s) (channel : String) : Inv (forget s channel) := by
  have hother : ∀ {other : String}, other ≠ channel →
      issuedOn other (.forgotten channel :: s.log) = issuedOn other s.log
        ∧ answersOn other (.forgotten channel :: s.log) = answersOn other s.log := by
    intro other hne
    exact on_cons_of_none (by simp [Event.forgets, hne.symm]) rfl rfl s.log
  have hself := issuedOn_forgotten channel s.log
  have hselfAnswers := answersOn_forgotten channel s.log
  have hget : ∀ {other : String} {set : Nat},
      (s.issuedAcks.erase channel).get other = some set →
        other ≠ channel ∧ s.issuedAcks.get other = some set := by
    intro other set hset
    rw [Dict.get_erase] at hset
    split at hset
    · cases hset
    · next hne => exact ⟨hne, hset⟩
  refine ⟨⟨?_, ?_, ?_, ?_⟩, ?_, ?_, ?_, ?_, ?_, ?_, h.takings⟩
  · intro other
    change (issuedOn other (.forgotten channel :: s.log)).Pairwise _
    by_cases heq : other = channel
    · rw [heq, hself]
      exact .nil
    · rw [(hother heq).1]
      exact h.sound.increasing other
  · intro other id hid
    change id ∈ issuedOn other (.forgotten channel :: s.log) at hid
    change (answersOn other (.forgotten channel :: s.log)).countP _ ≤ 1
    by_cases heq : other = channel
    · rw [heq, hselfAnswers]
      exact Nat.zero_le 1
    · rw [(hother heq).1] at hid
      rw [(hother heq).2]
      exact h.sound.once other id hid
  · intro other a ha key hkey
    change a ∈ answersOn other (.forgotten channel :: s.log) at ha
    change ∃ id ∈ issuedOn other (.forgotten channel :: s.log), _
    by_cases heq : other = channel
    · rw [heq, hselfAnswers] at ha
      cases ha
    · rw [(hother heq).2] at ha
      rw [(hother heq).1]
      exact h.sound.issuedOnly other a ha key hkey
  · intro e he
    rcases List.mem_cons.1 he with rfl | he
    · rintro ⟨⟩
    · exact h.sound.answers e he
  · intro other id hid
    change id ∈ issuedOn other (.forgotten channel :: s.log) at hid
    change id < ((s.ackCounters.erase channel).get other).getD 0
    by_cases heq : other = channel
    · rw [heq, hself] at hid
      cases hid
    · rw [(hother heq).1] at hid
      rw [Dict.get_erase_ne _ heq]
      exact h.below other id hid
  · intro other id hid
    change id ∈ issuedOn other (.forgotten channel :: s.log) at hid
    change ∃ set, (s.issuedAcks.erase channel).get other = some set
    by_cases heq : other = channel
    · rw [heq, hself] at hid
      cases hid
    · rw [(hother heq).1] at hid
      rw [Dict.get_erase_ne _ heq]
      exact h.known other id hid
  · intro other set hset id hid
    obtain ⟨hne, hset⟩ := hget hset
    change id ∈ issuedOn other (.forgotten channel :: s.log)
    rw [(hother hne).1]
    exact h.inSet other set hset id hid
  · exact fun other set hset => h.numbered other set (hget hset).2
  · exact fun other other' set hset hset' => h.apart other other' set (hget hset).2 (hget hset').2
  · intro other set hset id hid hanswered
    obtain ⟨hne, hset⟩ := hget hset
    change ∃ a ∈ answersOn other (.forgotten channel :: s.log), _ at hanswered
    rw [(hother hne).2] at hanswered
    exact h.answered other set hset id hid hanswered

lemma inv_reap (h : Inv s) (now : ℚ) : Inv (reapIdleChannels now s) := by
  rw [reapIdleChannels]
  generalize (s.channelSeen.entries.filter _).map Prod.fst = idle
  induction idle generalizing s with
  | nil => exact h
  | cons channel idle ih => exact ih (inv_forget h channel)

/-! ## Runs -/

lemma inv_step (s : State) (a : Action) (hclean : Clean py s a) (h : Inv s) :
    Inv (step py s a) := by
  cases a with
  | submit useAck channel now =>
    cases channel with
    | none => exact h
    | some channel =>
      change Inv (if useAck && channel ≠ "" then nextAck channel now s else s)
      split
      · exact inv_nextAck h channel now
      · exact h
  | ask useAck channel body now => exact inv_ask h hclean
  | take query => exact inv_take h
  | reap now => exact inv_reap h now

lemma clean_of_ints {useAck : Bool} {body : Object} {now : ℚ} (ids : List Int)
    (hacks : readAcks body = some (ids.map .int)) (htaking : s.taking = []) :
    Clean py s (.ask useAck (some channel) body now) := by
  intro _
  refine ⟨_, hacks, ?_⟩
  intro before ackId after hsplit _ hin
  have hmem : ackId ∈ ids.map Json.int := by
    rw [hsplit]
    exact List.mem_append_right _ List.mem_cons_self
  obtain ⟨n, -, rfl⟩ := List.mem_map.1 hmem
  obtain ⟨id, -, hnumber⟩ := isIn_iff.1 hin
  rw [Json.number, Option.some.injEq] at hnumber
  refine ⟨id, ?_, ?_⟩
  · rw [Json.int.injEq]
    exact_mod_cast hnumber
  · rw [htaking]
    exact nofun

/-- The acknowledgements are sound at every moment of a run whose queries are clean. -/
theorem sound_of_clean {actions : List Action} (h : Along (step py) (Clean py) .init actions) :
    ∀ reached, reached <+: actions → Sound (runFrom (step py) .init reached).log := by
  rintro reached ⟨later, rfl⟩
  exact (Along.invariant inv_step (Along.append_iff.1 h).1 inv_init).sound

/-- A forwarder sends events, asks for its id and for one that it was not given, and asks again. -/
theorem sound_of_clean_forwarder :
    Sound (runFrom (step asciiPython) .init [.submit true (some "c") 0,
        .ask false (some "c") [("acks", .list [.int 0, .int 9])] 1, .take 0,
        .ask false (some "c") [("acks", .list [.int 0])] 2, .reap 1000]).log :=
  sound_of_clean (by
    exact ⟨trivial, clean_of_ints [0, 9] rfl rfl, trivial, clean_of_ints [0] rfl rfl, trivial,
      trivial⟩) _ List.prefix_rfl

/-- A query for a list of ids in the place of an id raises. -/
theorem listed_ack_raises : ¬ ∀ actions, ∀ reached, reached <+: actions →
    Sound (runFrom (step asciiPython) .init reached).log := by
  intro h
  have hsound := h [.ask true (some "c") [("acks", .list [.list [.int 0]])] 0] _
      (List.prefix_refl _)
  exact hsound.answers .raised List.mem_cons_self rfl

end Hec

end Mockdr
