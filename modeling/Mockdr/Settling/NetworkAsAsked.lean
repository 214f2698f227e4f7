import Mockdr.Settling.Network
import Mockdr.Settling.HostsAsAsked

/-!
# SentinelOne agents as they were asked

The specification of an agent keeps the history of what it was asked for in the place of its status.

* `AgentAs`: the stored agent is in transit as its history is, with its request in flight, or it
  shows for good what was asked for; and what was published of it is what it has answered.
* `Overdue`: an agent in transit has answered, and nobody has looked.
* `networkAs_settleAgent`, `networkAs_executeOn`: the steps keep this, an action where no agent it
  puts in transit is overdue.
-/

namespace Mockdr

namespace Settling

variable {σ τ α : Type*}

/-! ## Histories -/

/-- What an agent shows at a moment. -/
def Agent.shownAt (t : ℚ) (x : Agent (History NetworkStatus) α) : Agent NetworkStatus α :=
  x.mapStatus (History.shownAt settleSeconds · t)

/-- The request in flight that an agent is in transit for. -/
def Agent.inFlight (a : Agent NetworkStatus α) (request : Option PendingRequest) :
    Option (Ask NetworkStatus) :=
  match request, a.networkStatus.settlesInto with
  | some r, some target =>
    if a.updatedAt = r.stamp then some ⟨r.requestedAt, a.networkStatus, target⟩ else none
  | _, _ => none

/-- A stored agent that was asked for nothing yet but what is in flight. -/
def Agent.history (request : Option PendingRequest) (a : Agent NetworkStatus α) :
    Agent (History NetworkStatus) α :=
  a.mapStatus fun status => ⟨status, (a.inFlight request).toList⟩

/-- What was published of the answers of an agent, the latest first. -/
def publishedOf (id : String) (published : List (AgentUpdated α)) : List (ℚ × NetworkStatus) :=
  published.filterMap fun e =>
    if e.entityId = id then e.changedAt.map fun t => (t, e.payload.networkStatus) else none

/-- What is to be published of the asks that were answered. -/
def answers (asks : List (Ask NetworkStatus)) : List (ℚ × NetworkStatus) :=
  asks.map fun a => (a.moment + settleSeconds, a.target)

/-- A status stands for a history, with the ask in flight and what was published. -/
def TransitAs (now : ℚ) (inFlight : Option (Ask NetworkStatus))
    (published : List (ℚ × NetworkStatus)) (status : NetworkStatus) (x : History NetworkStatus) :
    Prop :=
  match inFlight with
  | some ask => ask.pending = status ∧ ask.target.settlesInto = none ∧ ∃ older,
      x.asks = ask :: older
        ∧ published = answers (History.settledUntil settleSeconds ask.moment older)
  | none => ∀ t, now ≤ t →
      x.shownAt settleSeconds t = status ∧ answers (x.settledBy settleSeconds t) = published

/-- A stored agent stands for one with a history. -/
def AgentAs (now : ℚ) (request : Option PendingRequest) (published : List (ℚ × NetworkStatus))
    (a : Agent NetworkStatus α) (x : Agent (History NetworkStatus) α) : Prop :=
  a.plain = x.plain
    ∧ TransitAs now (a.inFlight request) published a.networkStatus x.networkStatus

/-- The stored agents stand for agents with histories. -/
def NetworkAs (now : ℚ) (n : Network α) (i : Agents (History NetworkStatus) α) : Prop :=
  n.agents.Rel (fun id => AgentAs now (n.requests.get id) (publishedOf id n.published)) i

/-- An agent in transit has answered, and nobody has looked. -/
def Overdue (t : ℚ) (n : Network α) (id : String) : Prop :=
  ∃ a ask, n.agents.get id = some a ∧ a.inFlight (n.requests.get id) = some ask
    ∧ settleSeconds < t - ask.moment

lemma TransitAs.mono {now now' : ℚ} {inFlight : Option (Ask NetworkStatus)}
    {published : List (ℚ × NetworkStatus)} {status : NetworkStatus} {x : History NetworkStatus}
    (hnow : now ≤ now') (h : TransitAs now inFlight published status x) :
    TransitAs now' inFlight published status x := by
  cases inFlight with
  | some ask => exact h
  | none => exact fun t ht => h t (le_trans hnow ht)

lemma NetworkAs.mono {now now' : ℚ} {n : Network α} {i : Agents (History NetworkStatus) α}
    (hnow : now ≤ now') (h : NetworkAs now n i) : NetworkAs now' n i :=
  h.imp fun _ _ _ hv => ⟨hv.1, hv.2.mono hnow⟩

lemma target_settled {status target : NetworkStatus} (h : status.settlesInto = some target) :
    target.settlesInto = none := by
  cases status <;> cases h <;> rfl

lemma inFlight_none (a : Agent NetworkStatus α) : a.inFlight none = none := by
  unfold Agent.inFlight
  split
  · next hnone _ => cases hnone
  · rfl

lemma inFlight_of_settled {a : Agent NetworkStatus α} (h : a.networkStatus.settlesInto = none)
    (request : Option PendingRequest) : a.inFlight request = none := by
  unfold Agent.inFlight
  rw [h]
  split
  · next hsome => cases hsome
  · rfl

lemma inFlight_of_pending {a : Agent NetworkStatus α} {target : NetworkStatus}
    (h : a.networkStatus.settlesInto = some target) (r : PendingRequest) :
    a.inFlight (some r)
      = if a.updatedAt = r.stamp then some ⟨r.requestedAt, a.networkStatus, target⟩ else none := by
  unfold Agent.inFlight
  rw [h]

lemma inFlight_eq_some {a : Agent NetworkStatus α} {request : Option PendingRequest}
    {ask : Ask NetworkStatus} (h : a.inFlight request = some ask) :
    ∃ r, request = some r ∧ a.updatedAt = r.stamp ∧ ask.moment = r.requestedAt
      ∧ ask.pending = a.networkStatus ∧ a.networkStatus.settlesInto = some ask.target := by
  unfold Agent.inFlight at h
  split at h
  · next r target hsettles =>
    split at h
    · next hstamp =>
      cases h
      exact ⟨r, rfl, hstamp, rfl, rfl, hsettles⟩
    · cases h
  · cases h

lemma transitAs_history (now : ℚ) (a : Agent NetworkStatus α) (request : Option PendingRequest) :
    TransitAs now (a.inFlight request) [] a.networkStatus (a.history request).networkStatus := by
  change TransitAs now _ _ _ (⟨a.networkStatus, (a.inFlight request).toList⟩)
  cases hask : a.inFlight request with
  | none => exact fun t _ => ⟨rfl, rfl⟩
  | some ask =>
    obtain ⟨r, -, -, -, hpending, hsettles⟩ := inFlight_eq_some hask
    exact ⟨hpending, target_settled hsettles, [], rfl, rfl⟩

/-- The agents of the store at the start, by their requests. -/
def agentHistories (agents : Agents NetworkStatus α) (requests : Dict String PendingRequest) :
    Agents (History NetworkStatus) α :=
  agents.mapWithKey fun id a => a.history (requests.get id)

lemma networkAs_agentHistories (now : ℚ) (agents : Agents NetworkStatus α)
    (requests : Dict String PendingRequest) :
    NetworkAs now ⟨agents, requests, []⟩ (agentHistories agents requests) := by
  refine ⟨(Dict.keys_mapWithKey ..).symm, ?_⟩
  intro id a x ha hx
  rw [agentHistories, Dict.get_mapWithKey, show agents.get id = some a from ha] at hx
  cases hx
  exact ⟨rfl, transitAs_history now a _⟩

variable {now t : ℚ} {n n' : Network α} {i i' : Agents (History NetworkStatus) α} {id : String}

lemma networkAs_frame (id : String) (h : NetworkAs now n i) (hkeys : n'.agents.keys = n.agents.keys)
    (hkeys' : i'.keys = i.keys)
    (hother : ∀ k, k ≠ id → n'.agents.get k = n.agents.get k
      ∧ n'.requests.get k = n.requests.get k
      ∧ publishedOf k n'.published = publishedOf k n.published ∧ i'.get k = i.get k)
    (hself : ∀ a x, n'.agents.get id = some a → i'.get id = some x →
      AgentAs now (n'.requests.get id) (publishedOf id n'.published) a x) :
    NetworkAs now n' i' := by
  refine ⟨?_, ?_⟩
  · rw [hkeys, hkeys', h.keys]
  · intro k a x ha hx
    by_cases hk : k = id
    · subst hk
      exact hself a x ha hx
    · obtain ⟨hagents, hrequests, hpublished, hi⟩ := hother k hk
      rw [hrequests, hpublished]
      exact h.values (hagents ▸ ha) (hi ▸ hx)

lemma publishedOf_cons_of_ne {e : AgentUpdated α} {k : String} (hk : e.entityId ≠ k)
    (published : List (AgentUpdated α)) :
    publishedOf k (e :: published) = publishedOf k published := by
  rw [publishedOf, List.filterMap_cons, if_neg hk, ← publishedOf]

lemma publishedOf_cons_now (id k : String) (a : Agent NetworkStatus α)
    (published : List (AgentUpdated α)) :
    publishedOf k (⟨id, a, none⟩ :: published) = publishedOf k published := by
  rw [publishedOf, List.filterMap_cons, ← publishedOf]
  by_cases hk : id = k
  · rw [if_pos hk]
    rfl
  · rw [if_neg hk]

lemma publishedOf_cons_at (id : String) (a : Agent NetworkStatus α) (changedAt : ℚ)
    (published : List (AgentUpdated α)) :
    publishedOf id (⟨id, a, some changedAt⟩ :: published)
      = (changedAt, a.networkStatus) :: publishedOf id published := by
  rw [publishedOf, List.filterMap_cons, if_pos rfl, ← publishedOf]
  rfl

/-! ## Settling -/

/-- An agent that has answered is settled and published. Of another one at most a request is dropped
    that it is not in transit for. -/
lemma settleAgent_cases (t : ℚ) (n : Network α) (id : String) :
    (∃ a ask, n.agents.get id = some a ∧ a.inFlight (n.requests.get id) = some ask
        ∧ settleSeconds < t - ask.moment
        ∧ settleAgent t n id =
          ⟨n.agents.set id { a with networkStatus := ask.target }, n.requests.erase id,
            ⟨id, { a with networkStatus := ask.target }, some (ask.moment + settleSeconds)⟩
              :: n.published⟩)
      ∨ ¬ Overdue t n id ∧ (settleAgent t n id = n
        ∨ (∀ a, n.agents.get id = some a → a.inFlight (n.requests.get id) = none)
          ∧ settleAgent t n id = { n with requests := n.requests.erase id }) := by
  cases hagent : n.agents.get id with
  | none =>
    refine .inr ⟨?_, .inl ?_⟩
    · rintro ⟨a, ask, ha, -⟩
      rw [hagent] at ha
      cases ha
    · rw [settleAgent, hagent]
  | some agent =>
    have hoverdue : ∀ ask, agent.inFlight (n.requests.get id) = some ask →
        ¬ settleSeconds < t - ask.moment → ¬ Overdue t n id := by
      rintro ask hask hdue ⟨a, ask', ha, hask', hdue'⟩
      rw [hagent] at ha
      cases ha
      rw [hask] at hask'
      cases hask'
      exact hdue hdue'
    have hidle : agent.inFlight (n.requests.get id) = none → ¬ Overdue t n id := by
      rintro hnone ⟨a, ask, ha, hask, -⟩
      rw [hagent] at ha
      cases ha
      rw [hnone] at hask
      cases hask
    cases hpending : n.requests.get id with
    | none =>
      rw [hpending] at hidle
      refine .inr ⟨hidle (inFlight_none agent), .inl ?_⟩
      rw [settleAgent, hagent, hpending]
    | some pending =>
      rw [hpending] at hidle hoverdue
      cases hsettles : agent.networkStatus.settlesInto with
      | none =>
        have hnone := inFlight_of_settled hsettles (some pending)
        refine .inr ⟨hidle hnone, .inr ⟨?_, ?_⟩⟩
        · rintro a ⟨⟩
          exact hnone
        · simp only [settleAgent, hagent, hpending, hsettles]
      | some target =>
        have hask := inFlight_of_pending hsettles pending
        by_cases hstamp : agent.updatedAt = pending.stamp
        · rw [if_pos hstamp] at hask
          by_cases hdue : settleSeconds < t - pending.requestedAt
          · refine .inl ⟨agent, _, rfl, hask, hdue, ?_⟩
            simp only [settleAgent, hagent, hpending, hsettles, hstamp, hasAnswered, hdue, ne_eq,
              not_true_eq_false, if_false, decide_true, if_true]
          · refine .inr ⟨hoverdue _ hask hdue, .inl ?_⟩
            simp only [settleAgent, hagent, hpending, hsettles, hstamp, hasAnswered, hdue, ne_eq,
              not_true_eq_false, if_false, decide_false, Bool.false_eq_true]
        · rw [if_neg hstamp] at hask
          refine .inr ⟨hidle hask, .inr ⟨?_, ?_⟩⟩
          · rintro a ⟨⟩
            exact hask
          · simp only [settleAgent, hagent, hpending, hsettles, hstamp, ne_eq, not_false_eq_true,
              if_true]

lemma settleAgent_other (t : ℚ) (n : Network α) {k : String} (hk : k ≠ id) :
    (settleAgent t n id).agents.get k = n.agents.get k
      ∧ (settleAgent t n id).requests.get k = n.requests.get k
      ∧ publishedOf k (settleAgent t n id).published = publishedOf k n.published := by
  rcases settleAgent_cases t n id with ⟨a, ask, -, -, -, heq⟩ | ⟨-, heq | ⟨-, heq⟩⟩
  · rw [heq]
    exact ⟨Dict.get_set_ne _ _ hk, Dict.get_erase_ne _ hk,
      publishedOf_cons_of_ne (fun hid => hk hid.symm) _⟩
  · rw [heq]
    exact ⟨rfl, rfl, rfl⟩
  · rw [heq]
    exact ⟨rfl, Dict.get_erase_ne _ hk, rfl⟩

lemma keys_settleAgent (t : ℚ) (n : Network α) (id : String) :
    (settleAgent t n id).agents.keys = n.agents.keys := by
  rcases settleAgent_cases t n id with ⟨a, ask, ha, -, -, heq⟩ | ⟨-, heq | ⟨-, heq⟩⟩
  · rw [heq]
    exact Dict.keys_set_of_some _ ha
  · rw [heq]
  · rw [heq]

lemma overdue_settleAgent_other {k : String} (hk : k ≠ id) :
    Overdue t (settleAgent t n id) k ↔ Overdue t n k := by
  obtain ⟨hagents, hrequests, -⟩ := settleAgent_other t n hk
  rw [Overdue, Overdue, hagents, hrequests]

lemma not_overdue_settleAgent (t : ℚ) (n : Network α) (id : String) :
    ¬ Overdue t (settleAgent t n id) id := by
  rcases settleAgent_cases t n id with ⟨a, ask, -, -, -, heq⟩ | ⟨hidle, heq | ⟨-, heq⟩⟩
  · rintro ⟨a', ask', -, hask', -⟩
    rw [heq, Dict.get_erase_self, inFlight_none] at hask'
    cases hask'
  · rw [heq]
    exact hidle
  · rintro ⟨a', ask', -, hask', -⟩
    rw [heq, Dict.get_erase_self, inFlight_none] at hask'
    cases hask'

/-- Settling an agent keeps it as it was asked. -/
lemma networkAs_settleAgent (h : NetworkAs t n i) (id : String) :
    NetworkAs t (settleAgent t n id) i := by
  refine networkAs_frame id h (keys_settleAgent t n id) rfl ?_ ?_
  · intro k hk
    obtain ⟨hagents, hrequests, hpublished⟩ := settleAgent_other t n hk
    exact ⟨hagents, hrequests, hpublished, rfl⟩
  · intro a' x ha' hx
    rcases settleAgent_cases t n id with ⟨a, ask, ha, hask, hdue, heq⟩ | ⟨-, heq | ⟨hidle, heq⟩⟩
    · rw [heq] at ha' ⊢
      rw [Dict.get_set_self] at ha'
      cases ha'
      rw [Dict.get_erase_self, publishedOf_cons_at]
      obtain ⟨hplain, htransit⟩ := h.values ha hx
      rw [hask] at htransit
      obtain ⟨hpending, hsettled, older, hasks, hpublished⟩ := htransit
      refine ⟨hplain, ?_⟩
      rw [inFlight_none]
      intro t' ht'
      have hdue' : settleSeconds < t' - ask.moment := by linarith
      refine ⟨?_, ?_⟩
      · rw [History.shownAt, hasks]
        exact if_pos hdue'
      · rw [History.settledBy, hasks, History.settledUntil_of_due hdue', hpublished]
        rfl
    · rw [heq] at ha' ⊢
      exact h.values ha' hx
    · rw [heq] at ha' ⊢
      obtain ⟨hplain, htransit⟩ := h.values ha' hx
      refine ⟨hplain, ?_⟩
      rw [hidle a' ha'] at htransit
      rw [Dict.get_erase_self, inFlight_none]
      exact htransit

lemma foldl_settleAgent (h : NetworkAs t n i) (ids : List String) :
    NetworkAs t (ids.foldl (settleAgent t) n) i
      ∧ (ids.foldl (settleAgent t) n).agents.keys = n.agents.keys
      ∧ ∀ k, Overdue t (ids.foldl (settleAgent t) n) k → k ∉ ids ∧ Overdue t n k := by
  induction ids generalizing n with
  | nil => exact ⟨h, rfl, fun k hk => ⟨List.not_mem_nil, hk⟩⟩
  | cons id ids ih =>
    obtain ⟨hrel, hkeys, hoverdue⟩ := ih (networkAs_settleAgent h id)
    refine ⟨hrel, hkeys.trans (keys_settleAgent t n id), ?_⟩
    intro k hk
    obtain ⟨hnot, hlater⟩ := hoverdue k hk
    have hne : k ≠ id := by
      rintro rfl
      exact not_overdue_settleAgent t n k hlater
    refine ⟨?_, (overdue_settleAgent_other hne).1 hlater⟩
    rw [List.mem_cons]
    rintro (hid | hmem)
    · exact hne hid
    · exact hnot hmem

lemma networkAs_settleAll (h : NetworkAs t n i) :
    NetworkAs t (settleAll t n) i ∧ ∀ k, ¬ Overdue t (settleAll t n) k := by
  obtain ⟨hrel, -, hoverdue⟩ := foldl_settleAgent h n.agents.keys
  refine ⟨hrel, ?_⟩
  intro k hk
  obtain ⟨hnot, a, ask, ha, -⟩ := hoverdue k hk
  rw [← Dict.get_eq_none_iff, ha] at hnot
  cases hnot

/-- The sweep settles the agents that have a request, which are all that can be overdue. -/
lemma networkAs_settleNetwork (h : NetworkAs t n i) :
    NetworkAs t (settleNetwork t n) i ∧ ∀ k, ¬ Overdue t (settleNetwork t n) k := by
  have hkept : ∀ k a, n.agents.get k = some a →
      (n.requests.filter fun p => (n.agents.get p.1).isSome).get k = n.requests.get k := by
    intro k a ha
    rw [Dict.get_filter]
    cases n.requests.get k with
    | none => rfl
    | some r => exact Option.filter_some_pos (by rw [ha]; rfl)
  have hfiltered : NetworkAs t
      { n with requests := n.requests.filter fun p => (n.agents.get p.1).isSome } i := by
    refine ⟨h.keys, fun ha hx => ?_⟩
    have hax := h.values ha hx
    rwa [← hkept _ _ ha] at hax
  obtain ⟨hrel, -, hoverdue⟩ := foldl_settleAgent hfiltered
    (n.requests.filter fun p => (n.agents.get p.1).isSome).keys
  refine ⟨hrel, ?_⟩
  intro k hk
  obtain ⟨hnot, a, ask, ha, hask, -⟩ := hoverdue k hk
  rw [← Dict.get_eq_none_iff] at hnot
  change a.inFlight ((n.requests.filter fun p => (n.agents.get p.1).isSome).get k) = some ask
    at hask
  rw [hnot, inFlight_none] at hask
  cases hask

/-! ## What is shown and published -/

/-- What an agent shows that is not overdue is stored, and what it has answered is published. -/
lemma AgentAs.eq_of_not_due {request : Option PendingRequest} {published : List (ℚ × NetworkStatus)}
    {a : Agent NetworkStatus α} {x : Agent (History NetworkStatus) α}
    (h : AgentAs now request published a x) (ht : now ≤ t)
    (hdue : ∀ ask, a.inFlight request = some ask → ¬ settleSeconds < t - ask.moment) :
    a = x.shownAt t ∧ answers (x.networkStatus.settledBy settleSeconds t) = published := by
  obtain ⟨hplain, htransit⟩ := h
  have hboth : x.networkStatus.shownAt settleSeconds t = a.networkStatus
      ∧ answers (x.networkStatus.settledBy settleSeconds t) = published := by
    cases hask : a.inFlight request with
    | none =>
      rw [hask] at htransit
      exact htransit t ht
    | some ask =>
      rw [hask] at htransit
      obtain ⟨hpending, -, older, hasks, hpublished⟩ := htransit
      refine ⟨?_, ?_⟩
      · rw [History.shownAt, hasks]
        exact (if_neg (hdue ask hask)).trans hpending
      · rw [History.settledBy, hasks, History.settledUntil_of_not_due (hdue ask hask), hpublished]
  refine ⟨?_, hboth.2⟩
  obtain ⟨networkStatus, updatedAt, other⟩ := a
  injection hplain with _ hupdated hother
  rw [Agent.shownAt, Agent.mapStatus, hboth.1, ← hupdated, ← hother]

/-- What was published of an agent it has answered, each answer once; at most the last one is yet to
    come. -/
lemma AgentAs.published {request : Option PendingRequest} {published : List (ℚ × NetworkStatus)}
    {a : Agent NetworkStatus α} {x : Agent (History NetworkStatus) α}
    (h : AgentAs now request published a x) (ht : now ≤ t) :
    answers (x.networkStatus.settledBy settleSeconds t) = published
      ∨ ∃ last, answers (x.networkStatus.settledBy settleSeconds t) = last :: published := by
  by_cases hdue : ∀ ask, a.inFlight request = some ask → ¬ settleSeconds < t - ask.moment
  · exact .inl (h.eq_of_not_due ht hdue).2
  · push Not at hdue
    obtain ⟨ask, hask, hdue⟩ := hdue
    have htransit := h.2
    rw [hask] at htransit
    obtain ⟨-, -, older, hasks, hpublished⟩ := htransit
    refine .inr ⟨(ask.moment + settleSeconds, ask.target), ?_⟩
    rw [History.settledBy, hasks, History.settledUntil_of_due hdue, hpublished]
    rfl

lemma agents_eq (h : NetworkAs now n i) (ht : now ≤ t) (hoverdue : ∀ id, ¬ Overdue t n id) :
    n.agents = i.mapValues (Agent.shownAt t) := by
  refine Dict.Rel.eq ⟨?_, ?_⟩
  · rw [Dict.keys_mapValues, h.keys]
  · intro id a w ha hw
    rw [Dict.get_mapValues] at hw
    obtain ⟨x, hx, rfl⟩ := Option.map_eq_some_iff.1 hw
    refine ((h.values ha hx).eq_of_not_due ht fun ask hask hdue => ?_).1
    exact hoverdue id ⟨a, ask, ha, hask, hdue⟩

lemma plain_agents (h : NetworkAs now n i) (t : ℚ) :
    (n.agents.entries.map fun p => (p.1, p.2.plain))
      = (i.mapValues (Agent.shownAt t)).entries.map fun p => (p.1, p.2.plain) := by
  have hplain : n.agents.mapValues Agent.plain
      = (i.mapValues (Agent.shownAt t)).mapValues Agent.plain := by
    refine Dict.Rel.eq ⟨?_, ?_⟩
    · rw [Dict.keys_mapValues, Dict.keys_mapValues, Dict.keys_mapValues, h.keys]
    · intro id v w hv hw
      rw [Dict.get_mapValues] at hv hw
      rw [Dict.get_mapValues] at hw
      obtain ⟨a, ha, rfl⟩ := Option.map_eq_some_iff.1 hv
      obtain ⟨_, hshown, rfl⟩ := Option.map_eq_some_iff.1 hw
      obtain ⟨x, hx, rfl⟩ := Option.map_eq_some_iff.1 hshown
      exact (h.values ha hx).1
  exact congrArg Dict.entries hplain

/-! ## Actions -/

/-- What an action does to an agent with a history. -/
def AgentAction.ask (now : ℚ) (x : Agent (History NetworkStatus) α) :
    AgentAction α → Agent (History NetworkStatus) α
  | .network action =>
    { x with
      networkStatus := x.networkStatus.ask ⟨now, action.pendingFor, action.target⟩
      updatedAt := utcNow now }
  | .other f => { x with other := f x.other }

/-- One round of an action on agents with histories. -/
def askOn (action : AgentAction α) (now : ℚ) (p : Nat × Agents (History NetworkStatus) α)
    (id : String) : Nat × Agents (History NetworkStatus) α :=
  match p.2.get id with
  | none => p
  | some x => (p.1 + 1, p.2.set id (action.ask now x))

/-- Whether an action puts agents in transit. -/
def AgentAction.isNetwork : AgentAction α → Bool
  | .network _ => true
  | .other _ => false

lemma settlesInto_pendingFor (action : NetworkAction) :
    action.pendingFor.settlesInto = some action.target := by cases action <;> rfl

/-- An agent is acted on as its history is. -/
lemma agentAs_apply (id : String) (n : Network α) (action : AgentAction α)
    {a : Agent NetworkStatus α} {x : Agent (History NetworkStatus) α}
    {published : List (ℚ × NetworkStatus)}
    (h : AgentAs now (n.requests.get id) published a x) (ht : now ≤ t)
    (hdue : action.isNetwork = true → ∀ ask, a.inFlight (n.requests.get id) = some ask →
      ¬ settleSeconds < t - ask.moment) :
    AgentAs t ((action.apply t id a n).2.requests.get id) published (action.apply t id a n).1
      (action.ask t x) := by
  cases action with
  | network action =>
    have hpublished := (h.eq_of_not_due ht (hdue rfl)).2
    refine ⟨?_, ?_⟩
    · have hplain := h.1
      injection hplain with _ _ hother
      simp only [AgentAction.apply, AgentAction.ask, begin, Agent.plain, Agent.mapStatus, hother]
    · have hask : ((AgentAction.network action).apply t id a n).1.inFlight (some ⟨t, utcNow t⟩)
          = some ⟨t, action.pendingFor, action.target⟩ :=
        (inFlight_of_pending (settlesInto_pendingFor action) _).trans (if_pos rfl)
      change TransitAs t (Agent.inFlight _ ((n.requests.set id ⟨t, utcNow t⟩).get id)) _ _ _
      rw [Dict.get_set_self, hask]
      exact ⟨rfl, target_settled (settlesInto_pendingFor action), x.networkStatus.asks, rfl,
        hpublished.symm⟩
  | other f =>
    refine ⟨?_, h.2.mono ht⟩
    exact congrArg (fun a : Agent Unit α => { a with other := f a.other }) h.1

lemma apply_other (action : AgentAction α) (t : ℚ) (a : Agent NetworkStatus α) (n : Network α)
    {k : String} (hk : k ≠ id) :
    (action.apply t id a n).2.agents = n.agents
      ∧ (action.apply t id a n).2.requests.get k = n.requests.get k
      ∧ (action.apply t id a n).2.published = n.published := by
  cases action with
  | network action => exact ⟨rfl, Dict.get_set_ne _ _ hk, rfl⟩
  | other f => exact ⟨rfl, rfl, rfl⟩

lemma apply_same (id : String) (action : AgentAction α) (t : ℚ) (a : Agent NetworkStatus α)
    (n : Network α) :
    (action.apply t id a n).2.agents = n.agents
      ∧ (action.apply t id a n).2.published = n.published := by
  cases action <;> exact ⟨rfl, rfl⟩

/-- One round of an action keeps the agents as they were asked, and puts no other one in transit. -/
lemma networkAs_executeOn (h : NetworkAs now n i) (ht : now ≤ t) (action : AgentAction α) (k : Nat)
    (hdue : action.isNetwork = true → ¬ Overdue t n id) :
    NetworkAs t (executeOn action t (k, n) id).2 (askOn action t (k, i) id).2
      ∧ (executeOn action t (k, n) id).1 = (askOn action t (k, i) id).1
      ∧ (action.isNetwork = true → ∀ j, ¬ Overdue t n j →
          ¬ Overdue t (executeOn action t (k, n) id).2 j) := by
  rcases h.get id with ⟨ha, hx⟩ | ⟨a, x, ha, hx, hax⟩
  · have hexecute : executeOn action t (k, n) id = (k, n) := by rw [executeOn, ha]
    have hask : askOn action t (k, i) id = (k, i) := by rw [askOn, hx]
    rw [hexecute, hask]
    exact ⟨h.mono ht, rfl, fun _ j hj => hj⟩
  · obtain ⟨hagents, hpublished⟩ := apply_same id action t a n
    have hexecute : executeOn action t (k, n) id = (k + 1,
        ⟨n.agents.set id (action.apply t id a n).1, (action.apply t id a n).2.requests,
          ⟨id, (action.apply t id a n).1, none⟩ :: n.published⟩) := by
      rw [executeOn, ha, ← hagents, ← hpublished]
    have hask : askOn action t (k, i) id = (k + 1, i.set id (action.ask t x)) := by rw [askOn, hx]
    rw [hexecute, hask]
    have hself := agentAs_apply id n action hax ht
      fun hnetwork ask hinFlight hlate => hdue hnetwork ⟨a, ask, ha, hinFlight, hlate⟩
    refine ⟨?_, rfl, ?_⟩
    · refine networkAs_frame id (h.mono ht) (Dict.keys_set_of_some _ ha)
        (Dict.keys_set_of_some _ hx) ?_ ?_
      · intro j hj
        exact ⟨Dict.get_set_ne _ _ hj, (apply_other action t a n hj).2.1,
          publishedOf_cons_of_ne (fun hid => hj hid.symm) _, Dict.get_set_ne _ _ hj⟩
      · intro a' x' ha' hx'
        rw [Dict.get_set_self] at ha' hx'
        cases ha'
        cases hx'
        rw [publishedOf_cons_now]
        exact hself
    · rintro hnetwork j hj ⟨a', ask', ha', hask', hlate⟩
      by_cases hji : j = id
      · subst hji
        rw [Dict.get_set_self] at ha'
        cases ha'
        cases action with
        | other f => cases hnetwork
        | network action =>
          obtain ⟨r, hr, -, hmoment, -⟩ := inFlight_eq_some hask'
          change (n.requests.set j ⟨t, utcNow t⟩).get j = some r at hr
          rw [Dict.get_set_self] at hr
          cases hr
          rw [hmoment, sub_self] at hlate
          exact absurd hlate (by decide)
      · rw [Dict.get_set_ne _ _ hji] at ha'
        rw [(apply_other action t a n hji).2.1] at hask'
        exact hj ⟨a', ask', ha', hask', hlate⟩

lemma networkAs_foldl_executeOn (h : NetworkAs now n i) (ht : now ≤ t) (action : AgentAction α)
    (ids : List String) (k : Nat)
    (hdue : action.isNetwork = true → ∀ id ∈ ids, ¬ Overdue t n id) :
    NetworkAs t (ids.foldl (executeOn action t) (k, n)).2 (ids.foldl (askOn action t) (k, i)).2
      ∧ (ids.foldl (executeOn action t) (k, n)).1 = (ids.foldl (askOn action t) (k, i)).1 := by
  induction ids generalizing n i k now with
  | nil => exact ⟨h.mono ht, rfl⟩
  | cons id ids ih =>
    obtain ⟨hrel, hcount, hlater⟩ := networkAs_executeOn h ht action k
      fun hnetwork => hdue hnetwork id List.mem_cons_self
    rw [List.foldl_cons, List.foldl_cons]
    have hsame : askOn action t (k, i) id
        = ((executeOn action t (k, n) id).1, (askOn action t (k, i) id).2) :=
      Prod.ext hcount.symm rfl
    rw [hsame]
    exact ih hrel (le_refl t) _ fun hnetwork j hj =>
      hlater hnetwork j (hdue hnetwork j (List.mem_cons_of_mem id hj))

/-- The agents that a filter selects do not depend on their status. -/
def Scope.Blind : Scope α → Prop
  | .ids _ => True
  | .filter select => ∃ blind : List (String × Agent Unit α) → List String,
      ∀ records, select records = blind (records.map fun p => (p.1, p.2.plain))

lemma resolve_eq (h : NetworkAs now n i) (ht : now ≤ t) {scope : Scope α}
    (hscope : scope.Blind ∨ ∀ id, ¬ Overdue t n id) :
    scope.resolve n.agents = scope.resolve (i.mapValues (Agent.shownAt t)) := by
  rcases hscope with hblind | hoverdue
  · cases scope with
    | ids named => rfl
    | filter select =>
      obtain ⟨blind, hblind⟩ := hblind
      rw [Scope.resolve, Scope.resolve, hblind, hblind, plain_agents h t]
  · rw [agents_eq h ht hoverdue]

end Settling

end Mockdr
