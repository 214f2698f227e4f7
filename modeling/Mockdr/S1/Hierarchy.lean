import Mockdr.Lib.Run
import Mockdr.Python

/-!
# SentinelOne sites, groups and agents

The commands that change which site and group an agent is in, and what they are called:
`application/sites/commands.py`, `application/groups/commands.py`, and the two moves of
`execute_action` in `application/agents/commands.py`.

An agent holds copies of the ids and names of its site and group. Names are what a request puts
there, so any JSON. What a filter resolves to is a list of ids here, and the id that a record is
created under is the one that was drawn.
-/

namespace Mockdr

namespace Hierarchy

/-- `Site` -/
structure Site where
  name : Json
  isDefault : Bool

/-- `Group` -/
structure Group where
  name : Json
  siteId : String
  isDefault : Bool

/-- The place of an agent. -/
structure Agent where
  siteId : String
  siteName : Json
  groupId : String
  groupName : Json

/-- The three collections. -/
structure State where
  sites : Dict String Site
  groups : Dict String Group
  agents : Dict String Agent

/-- An id in a path or one that was drawn, which is not empty. -/
abbrev RecordId := { id : String // id ≠ "" }

/-- What a command answers. -/
inductive Reply where
  | data
  | success
  | affected (count : Nat)
  | isDefault
  | notFound
  deriving DecidableEq

/-! ## Sites -/

/-- `create_site` -/
def createSite (id : RecordId) (name : Option Json) (s : State) : Reply × State :=
  (.data, { s with sites := s.sites.set id ⟨name.getD (.str ""), false⟩ })

/-- `update_site`, of which only the name is told here -/
def updateSite (id : RecordId) (name : Option Json) (s : State) : Reply × State :=
  match s.sites.get id with
  | none => (.notFound, s)
  | some site =>
    (.data, { s with sites := s.sites.set id { site with name := name.getD site.name } })

/-- `get_by_site` -/
def getBySite (siteId : String) (groups : Dict String Group) : List (String × Group) :=
  groups.entries.filter fun g => g.2.siteId = siteId

/-- An agent whose site is deleted. -/
def Agent.leaveSite (siteId : String) (agent : Agent) : Agent :=
  if agent.siteId = siteId then ⟨"", .str "", "", .str ""⟩ else agent

/-- `delete_site` -/
def deleteSite (id : RecordId) (s : State) : Reply × State :=
  match s.sites.get id with
  | none => (.notFound, s)
  | some site =>
    if site.isDefault then (.isDefault, s)
    else
      (.success,
        { sites := s.sites.erase id
          groups := s.groups.filter fun g => g.2.siteId ≠ id
          agents := s.agents.mapValues (Agent.leaveSite id) })

/-! ## Groups -/

/-- `create_group` -/
def createGroup (id : RecordId) (name : Option Json) (siteId : String) (isDefault : Bool)
    (s : State) : Reply × State :=
  (.data, { s with groups := s.groups.set id ⟨name.getD (.str ""), siteId, isDefault⟩ })

/-- `update_group`, of which only what is read here is told -/
def updateGroup (id : RecordId) (name : Option Json) (isDefault : Option Bool) (s : State) :
    Reply × State :=
  match s.groups.get id with
  | none => (.notFound, s)
  | some group =>
    let group := { group with
      name := name.getD group.name
      isDefault := isDefault.getD group.isDefault }
    (.data, { s with groups := s.groups.set id group })

/-- The group that the agents of a deleted one go to: the default of its site, or any other. -/
def fallbackGroup (id : String) (group : Group) (groups : Dict String Group) :
    Option (String × Group) :=
  let siteGroups := if group.siteId = "" then [] else getBySite group.siteId groups
  (siteGroups.find? fun g => g.2.isDefault && g.1 ≠ id).or (siteGroups.find? fun g => g.1 ≠ id)

/-- An agent whose group is deleted. -/
def Agent.leaveGroup (id : String) (fallback : Option (String × Group)) (agent : Agent) : Agent :=
  if agent.groupId = id then
    match fallback with
    | some g => { agent with groupId := g.1, groupName := g.2.name }
    | none => { agent with groupId := "", groupName := .str "" }
  else agent

/-- `delete_group` -/
def deleteGroup (id : RecordId) (s : State) : Reply × State :=
  match s.groups.get id with
  | none => (.notFound, s)
  | some group =>
    if group.isDefault then (.isDefault, s)
    else
      (.success,
        { s with
          groups := s.groups.erase id
          agents := s.agents.mapValues (Agent.leaveGroup id (fallbackGroup id group s.groups)) })

/-! ## Moves -/

/-- The loop of a command over the agents it names, with how many there are of them. -/
def moveEach (ids : List String) (f : Agent → Agent) (agents : Dict String Agent) :
    Nat × Dict String Agent :=
  ids.foldl (fun p id =>
    match p.2.get id with
    | none => p
    | some agent => (p.1 + 1, p.2.set id (f agent))) (0, agents)

/-- An agent is put into a group. -/
def Agent.join (groupId : String) (group : Group) (agent : Agent) : Agent :=
  { agent with groupId, groupName := group.name }

/-- `move_agents_to_group` -/
def moveAgentsToGroup (id : RecordId) (agentIds : List String) (s : State) : Reply × State :=
  match s.groups.get id with
  | none => (.notFound, s)
  | some group =>
    let moved := moveEach agentIds (Agent.join id group) s.agents
    (.affected moved.1, { s with agents := moved.2 })

/-- `move-to-group`: without such a group the agents are counted, and stay. -/
def moveToGroup (targetGroupId : String) (ids : List String) (s : State) : Reply × State :=
  let move := match if targetGroupId = "" then none else s.groups.get targetGroupId with
    | none => fun agent => agent
    | some group => Agent.join targetGroupId group
  let moved := moveEach ids move s.agents
  (.affected moved.1, { s with agents := moved.2 })

/-- The group that an agent joins at a site. -/
def defaultGroup (siteId : String) (groups : Dict String Group) : Option (String × Group) :=
  let siteGroups := getBySite siteId groups
  (siteGroups.find? fun g => g.2.isDefault).or siteGroups.head?

/-- An agent is put into a site, and into its default group if it has one. -/
def Agent.enter (siteId : String) (site : Site) (group : Option (String × Group)) (agent : Agent) :
    Agent :=
  let agent := { agent with siteId, siteName := site.name }
  match group with
  | none => agent
  | some g => agent.join g.1 g.2

/-- `move-to-site`: without such a site the agents are counted, and stay. -/
def moveToSite (targetSiteId : String) (ids : List String) (s : State) : Reply × State :=
  let move := match if targetSiteId = "" then none else s.sites.get targetSiteId with
    | none => fun agent => agent
    | some site => Agent.enter targetSiteId site (defaultGroup targetSiteId s.groups)
  let moved := moveEach ids move s.agents
  (.affected moved.1, { s with agents := moved.2 })

/-! ## Requests -/

/-- A request. -/
inductive Action where
  | createSite (id : RecordId) (name : Option Json)
  | updateSite (id : RecordId) (name : Option Json)
  | deleteSite (id : RecordId)
  | createGroup (id : RecordId) (name : Option Json) (siteId : String) (isDefault : Bool)
  | updateGroup (id : RecordId) (name : Option Json) (isDefault : Option Bool)
  | deleteGroup (id : RecordId)
  | moveAgentsToGroup (id : RecordId) (agentIds : List String)
  | moveToGroup (targetGroupId : String) (ids : List String)
  | moveToSite (targetSiteId : String) (ids : List String)

/-- A request is answered. -/
def perform (s : State) : Action → Reply × State
  | .createSite id name => createSite id name s
  | .updateSite id name => updateSite id name s
  | .deleteSite id => deleteSite id s
  | .createGroup id name siteId isDefault => createGroup id name siteId isDefault s
  | .updateGroup id name isDefault => updateGroup id name isDefault s
  | .deleteGroup id => deleteGroup id s
  | .moveAgentsToGroup id agentIds => moveAgentsToGroup id agentIds s
  | .moveToGroup targetGroupId ids => moveToGroup targetGroupId ids s
  | .moveToSite targetSiteId ids => moveToSite targetSiteId ids s

/-- The state after a request. -/
def step (s : State) (a : Action) : State := (perform s a).2

end Hierarchy

end Mockdr
