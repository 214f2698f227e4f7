import Mockdr.Settling.Hosts

/-!
# SentinelOne agents and their connection

`application/agents/network.py`, with `execute_action` of `application/agents/commands.py` and the
reads of `application/agents/queries.py`.

An agent is generic in what its network status is, as a host is. What any other action does to an
agent is a function of everything else, and `published` are the events that the bridge was given,
the latest first.
-/

namespace Mockdr

namespace Settling

/-- `Agent.networkStatus` -/
inductive NetworkStatus where
  | connected
  | disconnected
  | connecting
  | disconnecting
  deriving DecidableEq

/-- `_SETTLES_INTO` -/
def NetworkStatus.settlesInto : NetworkStatus → Option NetworkStatus
  | .connecting => some .connected
  | .disconnecting => some .disconnected
  | _ => none

/-- The actions that put an agent in transit. -/
inductive NetworkAction where
  | connect
  | disconnect

/-- `PENDING_FOR` -/
def NetworkAction.pendingFor : NetworkAction → NetworkStatus
  | .connect => .connecting
  | .disconnect => .disconnecting

/-- What an action settles into. -/
def NetworkAction.target : NetworkAction → NetworkStatus
  | .connect => .connected
  | .disconnect => .disconnected

/-- An agent. -/
structure Agent (σ α : Type*) where
  networkStatus : σ
  updatedAt : Timestamp
  /-- everything else -/
  other : α

variable {σ τ α : Type*}

/-- Read the status of an agent another way. -/
def Agent.mapStatus (f : σ → τ) (a : Agent σ α) : Agent τ α :=
  ⟨f a.networkStatus, a.updatedAt, a.other⟩

/-- An agent without its status. -/
def Agent.plain (a : Agent σ α) : Agent Unit α := a.mapStatus fun _ => ()

/-- The agents by id. -/
abbrev Agents (σ α : Type*) := Dict String (Agent σ α)

/-- An entry of `_REQUESTS`. -/
structure PendingRequest where
  requestedAt : ℚ
  stamp : Timestamp

/-- An event that the bridge was given, with the moment of the change where it is not now. -/
structure AgentUpdated (α : Type*) where
  entityId : String
  payload : Agent NetworkStatus α
  changedAt : Option ℚ

/-- The agents, the requests in flight, and what was published. -/
structure Network (α : Type*) where
  agents : Agents NetworkStatus α
  requests : Dict String PendingRequest
  published : List (AgentUpdated α)

/-! ## Settling -/

/-- `settled`, for the agent under an id -/
def settleAgent (now : ℚ) (n : Network α) (id : String) : Network α :=
  match n.agents.get id, n.requests.get id with
  | some agent, some pending =>
    match agent.networkStatus.settlesInto with
    | none => { n with requests := n.requests.erase id }
    | some target =>
      if agent.updatedAt ≠ pending.stamp then { n with requests := n.requests.erase id }
      else if hasAnswered (some (now - pending.requestedAt)) then
        let agent := { agent with networkStatus := target }
        { agents := n.agents.set id agent
          requests := n.requests.erase id
          published := ⟨id, agent, some (pending.requestedAt + settleSeconds)⟩ :: n.published }
      else n
  | _, _ => n

/-- `settle_all`, for all the agents that there are -/
def settleAll (now : ℚ) (n : Network α) : Network α := n.agents.keys.foldl (settleAgent now) n

/-- `settle_due` of the agents: a request of an agent that is gone is dropped. -/
def settleNetwork (now : ℚ) (n : Network α) : Network α :=
  let n := { n with requests := n.requests.filter fun p => (n.agents.get p.1).isSome }
  n.requests.keys.foldl (settleAgent now) n

/-! ## Actions -/

/-- What is done to an agent. -/
inductive AgentAction (α : Type*) where
  | network (action : NetworkAction)
  | other (f : α → α)

/-- `begin`, with the agent as it is then -/
def begin (action : NetworkAction) (now : ℚ) (id : String) (agent : Agent NetworkStatus α)
    (n : Network α) : Agent NetworkStatus α × Network α :=
  ({ agent with networkStatus := action.pendingFor, updatedAt := utcNow now },
    { n with requests := n.requests.set id ⟨now, utcNow now⟩ })

/-- The branches of `execute_action`, with the agent as it is then -/
def AgentAction.apply (now : ℚ) (id : String) (agent : Agent NetworkStatus α) (n : Network α) :
    AgentAction α → Agent NetworkStatus α × Network α
  | .network action => begin action now id agent n
  | .other f => ({ agent with other := f agent.other }, n)

/-- One round of the loop of `execute_action`, with the number of agents so far. -/
def executeOn (action : AgentAction α) (now : ℚ) (p : Nat × Network α) (id : String) :
    Nat × Network α :=
  match p.2.agents.get id with
  | none => p
  | some agent =>
    let (agent, n) := action.apply now id agent p.2
    (p.1 + 1,
      { n with
        agents := n.agents.set id agent
        published := ⟨id, agent, none⟩ :: n.published })

/-- What an action names: ids, or a filter that selects among the agents. -/
inductive Scope (α : Type*) where
  | ids (ids : List String)
  | filter (select : List (String × Agent NetworkStatus α) → List String)

/-- `_resolve_ids` -/
def Scope.resolve (agents : Agents NetworkStatus α) : Scope α → List String
  | .ids named => named
  | .filter select => select agents.entries

/-- `execute_action` -/
def executeAction (action : AgentAction α) (scope : Scope α) (now : ℚ) (n : Network α) :
    Nat × Network α :=
  (scope.resolve n.agents).foldl (executeOn action now) (0, n)

/-! ## Reads -/

/-- What filters, order and cursor make of the agents: a page, and how many there are. -/
abbrev AgentListing (α : Type*) :=
  List (String × Agent NetworkStatus α) → List (String × Agent NetworkStatus α) × Nat

/-- `list_agents` -/
def listAgents (listing : AgentListing α) (now : ℚ) (n : Network α) :
    (List (String × Agent NetworkStatus α) × Nat) × Network α :=
  let n := settleAll now n
  (listing n.agents.entries, n)

/-- `count_agents` -/
def countAgents (listing : AgentListing α) (now : ℚ) (n : Network α) : Nat × Network α :=
  let n := settleAll now n
  ((listing n.agents.entries).2, n)

/-- The rows of `list_passphrases`, and how many there are. -/
def passphraseRows (page : List (String × Agent NetworkStatus α) × Nat) : List (String × α) × Nat :=
  (page.1.map fun p => (p.1, p.2.other), page.2)

/-- `list_passphrases` -/
def listPassphrases (listing : AgentListing α) (agents : Agents NetworkStatus α) :
    List (String × α) × Nat := passphraseRows (listing agents.entries)

/-- `_with_agent_fields`: an application with what is read of its agent, `agentNetworkStatus` among
    it. -/
def withAgentFields (agents : Agents NetworkStatus α) (application : String × String) :
    String × Option (NetworkStatus × α) :=
  (application.1, (agents.get application.2).map fun agent => (agent.networkStatus, agent.other))

/-- `list_applications_for_agents`, with the applications and the agents they belong to, and what
    the filters and the cursor make of the rows. -/
def listApplications (applications : List (String × String))
    (listing : List (String × Option (NetworkStatus × α)) →
      List (String × Option (NetworkStatus × α)) × Nat)
    (agents : Agents NetworkStatus α) : List (String × Option (NetworkStatus × α)) × Nat :=
  listing (applications.map (withAgentFields agents))

end Settling

end Mockdr
