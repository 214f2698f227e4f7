import Mathlib
import Mockdr.Lib.Run
import Mockdr.Settling.NetworkAsAsked

/-!
# What is read is what was asked for

* `perform`: one action on the store at a moment, with its answer.
* `Asked.step`, `Asked.answer`: the same where every host and agent keeps the history of what it was
  asked for, and a read shows what each of them shows by itself at that moment.
* `Timely`: no read looks at a host or an agent that the store judges otherwise.
* `settles_as_asked`: in a timely run every answer is that of the specification, from which the
  earlier reads are left out, and what has been answered is published once.
-/

namespace Mockdr

namespace Settling

variable {ρ α : Type}

/-! ## The store -/

/-- The hosts and their groups, and the agents. -/
structure State (ρ α : Type) where
  hosts : Hosts HostStatus ρ
  hostGroups : List String
  network : Network α

/-- A read. -/
inductive Read (ρ α : Type) where
  | queryHostIds (listing : Listing HostStatus ρ)
  | queryHostIdsScroll (start limit : Nat) (listing : Listing HostStatus ρ)
  | queryHiddenHostIds (listing : Listing HostStatus ρ)
  | queryGroupMemberIds (group : String) (listing : Listing HostStatus ρ)
  | listGroupMembers (group : String) (listing : Listing HostStatus ρ)
  | getHostEntities (ids : List String)
  | listHiddenHosts (listing : Listing HostStatus ρ)
  | listAgents (listing : AgentListing α)
  | countAgents (listing : AgentListing α)
  | listPassphrases (listing : AgentListing α)
  | listApplications (applications : List (String × String))
      (listing : List (String × Option (NetworkStatus × α)) →
        List (String × Option (NetworkStatus × α)) × Nat)
  /-- before a search, and by the sweep -/
  | settleDue

/-- An action. -/
inductive Action (ρ α : Type) where
  | containHost (ids : List String)
  | liftContainment (ids : List String)
  | setHidden (ids : List String) (hidden : Bool)
  | tagHosts (ids tags : List String) (action : TagAction)
  | manageGroupMembers (group : String) (action : MemberAction) (ids : List String)
  | deleteHostGroups (ids : List String)
  | executeAction (action : AgentAction α) (scope : Scope α)
  | read (read : Read ρ α)

/-- Whether an action is not a read. -/
def Action.changes : Action ρ α → Bool
  | .read _ => false
  | _ => true

/-- Whether an action asks hosts or agents for something. -/
def Action.asks : Action ρ α → Bool
  | .containHost _ => true
  | .liftContainment _ => true
  | .executeAction action _ => action.isNetwork
  | _ => false

/-- Whether an action settles every agent. -/
def Action.settlesAgents : Action ρ α → Bool
  | .read (.listAgents _) => true
  | .read (.countAgents _) => true
  | .read .settleDue => true
  | _ => false

/-- What an action answers. -/
inductive Answer (ρ α : Type) where
  | affected (ids : List String)
  | updated (rows : List (String × Bool))
  | executed (affected : Nat)
  | ids (page : List String × Nat)
  | scroll (page : List String × Nat) (next : Option Nat)
  | entities (hosts : List (String × CsHost HostStatus ρ))
  | hosts (page : List (String × CsHost HostStatus ρ) × Nat)
  | agents (page : List (String × Agent NetworkStatus α) × Nat)
  | count (total : Nat)
  | passphrases (page : List (String × α) × Nat)
  | applications (page : List (String × Option (NetworkStatus × α)) × Nat)
  | settled

/-- The token of the next page of a scroll. -/
def nextOffset (start limit total : Nat) : Option Nat :=
  if start + limit ≥ total then none else some (start + limit)

/-- The groups that `delete_host_groups` answers with. -/
def deletedGroups : List String → List String → List String
  | [], _ => []
  | id :: ids, groups =>
    if id ∈ groups then id :: deletedGroups ids (groups.filter (· ≠ id))
    else deletedGroups ids groups

/-- A read at a moment. -/
def performRead (t : ℚ) (s : State ρ α) : Read ρ α → Answer ρ α × State ρ α
  | .queryHostIds listing => (.ids (queryHostIds listing s.hosts), s)
  | .queryHostIdsScroll start limit listing =>
    let page := queryHostIds listing s.hosts
    (.scroll page (nextOffset start limit page.2), s)
  | .queryHiddenHostIds listing => (.ids (queryHiddenHostIds listing s.hosts), s)
  | .queryGroupMemberIds group listing => (.ids (queryGroupMemberIds group listing s.hosts), s)
  | .listGroupMembers group listing => (.hosts (listGroupMembers group listing s.hosts), s)
  | .getHostEntities ids =>
    let served := getHostEntities ids t s.hosts
    (.entities served.1, { s with hosts := served.2 })
  | .listHiddenHosts listing =>
    let served := listHiddenHosts listing t s.hosts
    (.hosts served.1, { s with hosts := served.2 })
  | .listAgents listing =>
    let listed := listAgents listing t s.network
    (.agents listed.1, { s with network := listed.2 })
  | .countAgents listing =>
    let counted := countAgents listing t s.network
    (.count counted.1, { s with network := counted.2 })
  | .listPassphrases listing => (.passphrases (listPassphrases listing s.network.agents), s)
  | .listApplications applications listing =>
    (.applications (listApplications applications listing s.network.agents), s)
  | .settleDue =>
    (.settled, { s with
      hosts := settleHosts t s.hosts
      network := settleNetwork t s.network })

/-- An action at a moment. -/
def perform (s : State ρ α) : ℚ × Action ρ α → Answer ρ α × State ρ α
  | (t, .containHost ids) =>
    (.affected (ids.filter s.hosts.contains), { s with hosts := containHost ids t s.hosts })
  | (t, .liftContainment ids) =>
    (.affected (ids.filter s.hosts.contains), { s with hosts := liftContainment ids t s.hosts })
  | (t, .setHidden ids hidden) =>
    (.affected (ids.filter s.hosts.contains), { s with hosts := setHidden ids hidden t s.hosts })
  | (t, .tagHosts ids tags action) =>
    (.updated (ids.map fun id => (id, s.hosts.contains id)),
      { s with hosts := tagHosts ids tags action t s.hosts })
  | (t, .manageGroupMembers group action ids) =>
    (.affected (ids.filter s.hosts.contains),
      { s with hosts := manageGroupMembers group action ids t s.hosts })
  | (_, .deleteHostGroups ids) =>
    let deleted := deleteHostGroups ids (s.hostGroups, s.hosts)
    (.affected (deletedGroups ids s.hostGroups),
      { s with hostGroups := deleted.1, hosts := deleted.2 })
  | (t, .executeAction action scope) =>
    let executed := executeAction action scope t s.network
    (.executed executed.1, { s with network := executed.2 })
  | (t, .read read) => performRead t s read

/-- The state after an action. -/
def step (s : State ρ α) (a : ℚ × Action ρ α) : State ρ α := (perform s a).2

/-! ## The specification -/

/-- The hosts and agents with what they were asked for. -/
structure Asked (ρ α : Type) where
  hosts : Hosts (History HostStatus) ρ
  hostGroups : List String
  agents : Agents (History NetworkStatus) α

namespace Asked

/-- The hosts as they show themselves. -/
def hostsAt (i : Asked ρ α) (t : ℚ) : Hosts HostStatus ρ := i.hosts.mapValues (CsHost.shownAt t)

/-- The agents as they show themselves. -/
def agentsAt (i : Asked ρ α) (t : ℚ) : Agents NetworkStatus α :=
  i.agents.mapValues (Agent.shownAt t)

/-- What the hosts and agents were asked for. -/
def histories (i : Asked ρ α) :
    Dict String (History HostStatus) × Dict String (History NetworkStatus) :=
  (i.hosts.mapValues CsHost.status, i.agents.mapValues Agent.networkStatus)

/-- What is read of the hosts and agents as they show themselves. -/
def readAt (t : ℚ) (i : Asked ρ α) : Read ρ α → Answer ρ α
  | .queryHostIds listing => .ids (pageIds (listing (visibleHosts false (i.hostsAt t))))
  | .queryHostIdsScroll start limit listing =>
    let page := pageIds (listing (visibleHosts false (i.hostsAt t)))
    .scroll page (nextOffset start limit page.2)
  | .queryHiddenHostIds listing => .ids (pageIds (listing (visibleHosts true (i.hostsAt t))))
  | .queryGroupMemberIds group listing =>
    .ids (pageIds (listing (groupMembers group (i.hostsAt t))))
  | .listGroupMembers group listing => .hosts (listing (groupMembers group (i.hostsAt t)))
  | .getHostEntities ids => .entities (served (fun h => !h.hidden) ids (i.hostsAt t))
  | .listHiddenHosts listing =>
    let page := pageIds (listing (visibleHosts true (i.hostsAt t)))
    .hosts (served (fun _ => true) page.1 (i.hostsAt t), page.2)
  | .listAgents listing => .agents (listing (i.agentsAt t).entries)
  | .countAgents listing => .count (listing (i.agentsAt t).entries).2
  | .listPassphrases listing => .passphrases (passphraseRows (listing (i.agentsAt t).entries))
  | .listApplications applications listing =>
    .applications (listing (applications.map (withAgentFields (i.agentsAt t))))
  | .settleDue => .settled

/-- What an action should answer. -/
def answer (i : Asked ρ α) : ℚ × Action ρ α → Answer ρ α
  | (_, .containHost ids) => .affected (ids.filter i.hosts.contains)
  | (_, .liftContainment ids) => .affected (ids.filter i.hosts.contains)
  | (_, .setHidden ids _) => .affected (ids.filter i.hosts.contains)
  | (_, .tagHosts ids _ _) => .updated (ids.map fun id => (id, i.hosts.contains id))
  | (_, .manageGroupMembers _ _ ids) => .affected (ids.filter i.hosts.contains)
  | (_, .deleteHostGroups ids) => .affected (deletedGroups ids i.hostGroups)
  | (t, .executeAction action scope) =>
    .executed ((scope.resolve (i.agentsAt t)).foldl (askOn action t) (0, i.agents)).1
  | (t, .read read) => i.readAt t read

/-- What is asked for is remembered, the edits are made, and a read changes nothing. -/
def step (i : Asked ρ α) : ℚ × Action ρ α → Asked ρ α
  | (t, .containHost ids) =>
    { i with hosts := askHosts ids .containmentPending .contained t i.hosts }
  | (t, .liftContainment ids) =>
    { i with hosts := askHosts ids .liftContainmentPending .normal t i.hosts }
  | (t, .setHidden ids hidden) => { i with hosts := setHidden ids hidden t i.hosts }
  | (t, .tagHosts ids tags action) => { i with hosts := tagHosts ids tags action t i.hosts }
  | (t, .manageGroupMembers group action ids) =>
    { i with hosts := manageGroupMembers group action ids t i.hosts }
  | (_, .deleteHostGroups ids) =>
    let deleted := deleteHostGroups ids (i.hostGroups, i.hosts)
    { i with hostGroups := deleted.1, hosts := deleted.2 }
  | (t, .executeAction action scope) =>
    { i with
      agents := ((scope.resolve (i.agentsAt t)).foldl (askOn action t) (0, i.agents)).2 }
  | (_, .read _) => i

end Asked

/-! ## Timely runs -/

/-- A read of agents whose answer does not depend on their status. -/
def AgentListing.Blind (listing : AgentListing α) : Prop :=
  ∃ blind : List (String × Agent Unit α) → List (String × α) × Nat,
    ∀ records, passphraseRows (listing records) = blind (records.map fun p => (p.1, p.2.plain))

/-- A read that does not settle looks at nothing that is due, unless it does not look at the
    status; and one that settles hosts judges them by timestamps that agree with what they were
    asked for. -/
def Read.Timely (t : ℚ) (s : State ρ α) (i : Asked ρ α) : Read ρ α → Prop
  | .queryHostIds listing =>
    Blind listing ∨ UpToDate t s.hosts i.hosts fun _ h => h.hidden = false
  | .queryHostIdsScroll _ _ listing =>
    Blind listing ∨ UpToDate t s.hosts i.hosts fun _ h => h.hidden = false
  | .queryHiddenHostIds listing =>
    Blind listing ∨ UpToDate t s.hosts i.hosts fun _ h => h.hidden = true
  | .queryGroupMemberIds group listing =>
    Blind listing ∨ UpToDate t s.hosts i.hosts fun _ h => h.hidden = false ∧ group ∈ h.groups
  | .listGroupMembers group _ =>
    UpToDate t s.hosts i.hosts fun _ h => h.hidden = false ∧ group ∈ h.groups
  | .getHostEntities ids => Agrees t s.hosts i.hosts fun id h => id ∈ ids ∧ h.hidden = false
  | .listHiddenHosts listing =>
    (Blind listing ∨ UpToDate t s.hosts i.hosts fun _ h => h.hidden = true)
      ∧ Agrees t s.hosts i.hosts fun id _ =>
          id ∈ (pageIds (listing (visibleHosts true s.hosts))).1
  | .listAgents _ => True
  | .countAgents _ => True
  | .listPassphrases listing => listing.Blind ∨ ∀ id, ¬ Overdue t s.network id
  | .listApplications applications _ => ∀ p ∈ applications, ¬ Overdue t s.network p.2
  | .settleDue => Agrees t s.hosts i.hosts fun _ _ => True

/-- An action is timely: a read as above; an action whose scope is a filter finds no agent overdue,
    unless the filter does not look at the status; and what is put in transit is not overdue. -/
def Timely (p : State ρ α × Asked ρ α) : ℚ × Action ρ α → Prop
  | (t, .read read) => read.Timely t p.1 p.2
  | (t, .executeAction action scope) =>
    (scope.Blind ∨ ∀ id, ¬ Overdue t p.1.network id) ∧
      (action.isNetwork = true →
        ∀ id ∈ scope.resolve p.1.network.agents, ¬ Overdue t p.1.network id)
  | _ => True

/-- The store stands for what was asked. -/
structure StateAs (now : ℚ) (s : State ρ α) (i : Asked ρ α) : Prop where
  hosts : HostsAs now s.hosts i.hosts
  hostGroups : s.hostGroups = i.hostGroups
  network : NetworkAs now s.network i.agents

variable {now t : ℚ} {s : State ρ α} {i : Asked ρ α}

lemma StateAs.mono {now now' : ℚ} (hnow : now ≤ now') (h : StateAs now s i) : StateAs now' s i :=
  ⟨h.hosts.mono hnow, h.hostGroups, h.network.mono hnow⟩

/-! ## Reads -/

lemma pageIds_visibleHosts (h : StateAs now s i) (ht : now ≤ t) (hidden : Bool)
    (listing : Listing HostStatus ρ)
    (hread : Blind listing ∨ UpToDate t s.hosts i.hosts fun _ h => h.hidden = hidden) :
    pageIds (listing (visibleHosts hidden s.hosts))
      = pageIds (listing (visibleHosts hidden (i.hostsAt t))) := by
  refine pageIds_eq h.hosts ht (fun h => decide (h.hidden = hidden)) listing ?_
  refine hread.imp_right fun hup id h x hh hx hkept => ?_
  exact hup id h x hh hx (of_decide_eq_true hkept)

/-- Whether a host is a member that is listed. -/
def isMember (group : String) (h : CsHost Unit ρ) : Bool := group ∈ h.groups && h.hidden = false

lemma groupMembers_eq (group : String) (d : Hosts HostStatus ρ) :
    groupMembers group d = d.entries.filter fun p => isMember group p.2.plain := List.filter_filter

lemma upToDate_members {group : String}
    (hup : UpToDate t s.hosts i.hosts fun _ h => h.hidden = false ∧ group ∈ h.groups) :
    UpToDate t s.hosts i.hosts fun _ h => isMember group h.plain = true := by
  intro id h x hh hx hkept
  obtain ⟨hgroup, hhidden⟩ := Bool.and_eq_true_iff.1 hkept
  exact hup id h x hh hx ⟨of_decide_eq_true hhidden, of_decide_eq_true hgroup⟩

lemma pageIds_groupMembers (h : StateAs now s i) (ht : now ≤ t) (group : String)
    (listing : Listing HostStatus ρ) (hread : Blind listing ∨
      UpToDate t s.hosts i.hosts fun _ h => h.hidden = false ∧ group ∈ h.groups) :
    pageIds (listing (groupMembers group s.hosts))
      = pageIds (listing (groupMembers group (i.hostsAt t))) := by
  rw [groupMembers_eq, groupMembers_eq]
  exact pageIds_eq h.hosts ht (isMember group) listing (hread.imp_right upToDate_members)

lemma groupMembers_shown (h : StateAs now s i) (ht : now ≤ t) {group : String}
    (hup : UpToDate t s.hosts i.hosts fun _ h => h.hidden = false ∧ group ∈ h.groups) :
    groupMembers group s.hosts = groupMembers group (i.hostsAt t) := by
  rw [groupMembers_eq, groupMembers_eq]
  exact records_eq h.hosts ht (isMember group) (upToDate_members hup)

lemma publicEach_shown (h : StateAs now s i) (ht : now ≤ t) (listed : CsHost HostStatus ρ → Bool)
    (hlisted : ∀ h h', h.plain = h'.plain → listed h = listed h') {ids : List String}
    (hagrees : Agrees t s.hosts i.hosts fun id h => id ∈ ids ∧ listed h = true) :
    (publicEach listed t ids s.hosts).1 = served listed ids (i.hostsAt t)
      ∧ StateAs t { s with hosts := (publicEach listed t ids s.hosts).2 } i := by
  obtain ⟨hserved, hrel⟩ := publicEach_eq hlisted (h.hosts.mono ht) hagrees
  exact ⟨hserved, hrel, h.hostGroups, h.network.mono ht⟩

lemma settleAll_shown (h : StateAs now s i) (ht : now ≤ t) :
    (settleAll t s.network).agents = i.agentsAt t
      ∧ StateAs t { s with network := settleAll t s.network } i := by
  obtain ⟨hrel, hoverdue⟩ := networkAs_settleAll (h.network.mono ht)
  exact ⟨agents_eq hrel (le_refl t) hoverdue, h.hosts.mono ht, h.hostGroups, hrel⟩

/-- A timely read answers as it should, and leaves the store as it was asked. -/
lemma performRead_eq (h : StateAs now s i) (ht : now ≤ t) (read : Read ρ α)
    (htimely : read.Timely t s i) :
    (performRead t s read).1 = i.readAt t read ∧ StateAs t (performRead t s read).2 i := by
  cases read with
  | queryHostIds listing =>
    refine ⟨?_, h.mono ht⟩
    exact congrArg Answer.ids (pageIds_visibleHosts h ht false listing htimely)
  | queryHostIdsScroll start limit listing =>
    refine ⟨?_, h.mono ht⟩
    exact congrArg (fun page => Answer.scroll page (nextOffset start limit page.2))
      (pageIds_visibleHosts h ht false listing htimely)
  | queryHiddenHostIds listing =>
    refine ⟨?_, h.mono ht⟩
    exact congrArg Answer.ids (pageIds_visibleHosts h ht true listing htimely)
  | queryGroupMemberIds group listing =>
    refine ⟨?_, h.mono ht⟩
    exact congrArg Answer.ids (pageIds_groupMembers h ht group listing htimely)
  | listGroupMembers group listing =>
    refine ⟨?_, h.mono ht⟩
    exact congrArg (fun records => Answer.hosts (listing records)) (groupMembers_shown h ht htimely)
  | getHostEntities ids =>
    have hagrees : Agrees t s.hosts i.hosts fun id h => id ∈ ids ∧ (!h.hidden) = true := by
      intro id h x hh hx hread
      exact htimely id h x hh hx ⟨hread.1, by simpa using hread.2⟩
    obtain ⟨hserved, hstate⟩ := publicEach_shown h ht (fun h => !h.hidden)
      (fun h h' hplain => congrArg (fun h : CsHost Unit ρ => !h.hidden) hplain) hagrees
    exact ⟨congrArg Answer.entities hserved, hstate⟩
  | listHiddenHosts listing =>
    have hpage := pageIds_visibleHosts h ht true listing htimely.1
    have hagrees : Agrees t s.hosts i.hosts fun id _ =>
        id ∈ (pageIds (listing (visibleHosts true s.hosts))).1 ∧ true = true := by
      intro id h x hh hx hread
      exact htimely.2 id h x hh hx hread.1
    obtain ⟨hserved, hstate⟩ := publicEach_shown h ht (fun _ => true) (fun _ _ _ => rfl)
      hagrees
    refine ⟨?_, hstate⟩
    change Answer.hosts ((publicEach (fun _ => true) t
      (pageIds (listing (visibleHosts true s.hosts))).1 s.hosts).1,
      (pageIds (listing (visibleHosts true s.hosts))).2) = _
    rw [hserved, hpage]
    rfl
  | listAgents listing =>
    obtain ⟨hagents, hstate⟩ := settleAll_shown h ht
    refine ⟨?_, hstate⟩
    exact congrArg (fun agents : Agents NetworkStatus α => Answer.agents (listing agents.entries))
      hagents
  | countAgents listing =>
    obtain ⟨hagents, hstate⟩ := settleAll_shown h ht
    refine ⟨?_, hstate⟩
    exact congrArg (fun agents : Agents NetworkStatus α => Answer.count (listing agents.entries).2)
      hagents
  | listPassphrases listing =>
    refine ⟨?_, h.mono ht⟩
    have hrows : passphraseRows (listing s.network.agents.entries)
        = passphraseRows (listing (i.agentsAt t).entries) := by
      rcases htimely with ⟨blind, hblind⟩ | hoverdue
      · rw [hblind, hblind, plain_agents h.network t]
        rfl
      · rw [agents_eq h.network ht hoverdue]
        rfl
    exact congrArg Answer.passphrases hrows
  | listApplications applications listing =>
    refine ⟨?_, h.mono ht⟩
    have hrows : applications.map (withAgentFields s.network.agents)
        = applications.map (withAgentFields (i.agentsAt t)) := by
      refine List.map_congr_left fun p hp => ?_
      rw [withAgentFields, withAgentFields, Asked.agentsAt, Dict.get_mapValues]
      rcases h.network.get p.2 with ⟨ha, hx⟩ | ⟨a, x, ha, hx, hax⟩
      · rw [ha, hx]
        rfl
      · have hshown := (hax.eq_of_not_due ht fun ask hask hdue =>
          htimely p hp ⟨a, ask, ha, hask, hdue⟩).1
        rw [ha, hx, hshown]
        rfl
    exact congrArg (fun rows => Answer.applications (listing rows)) hrows
  | settleDue =>
    exact ⟨rfl, hostsAs_settleHosts h.hosts ht htimely, h.hostGroups,
      (networkAs_settleNetwork (h.network.mono ht)).1⟩

/-! ## Runs -/

lemma contains_eq (h : HostsAs now s.hosts i.hosts) : s.hosts.contains = i.hosts.contains := by
  funext id
  rw [Dict.contains, Dict.contains]
  rcases h.get id with ⟨hd, hi⟩ | ⟨host, x, hd, hi, -⟩
  · rw [hd, hi]
    rfl
  · rw [hd, hi]
    rfl

/-- A timely action answers as it should, and leaves the store as it was asked. -/
lemma perform_eq (h : StateAs now s i) (a : ℚ × Action ρ α) (ht : now ≤ a.1)
    (htimely : Timely (s, i) a) :
    (perform s a).1 = i.answer a ∧ StateAs a.1 (step s a) (i.step a) := by
  obtain ⟨t, action⟩ := a
  have haffected : ∀ ids : List String,
      (Answer.affected (ids.filter s.hosts.contains) : Answer ρ α)
        = .affected (ids.filter i.hosts.contains) := by
    intro ids
    rw [contains_eq h.hosts]
  have hhosts := h.hosts.mono ht
  have hnetwork := h.network.mono ht
  cases action with
  | containHost ids =>
    exact ⟨haffected ids, hostsAs_ask rfl ids t hhosts, h.hostGroups, hnetwork⟩
  | liftContainment ids =>
    exact ⟨haffected ids, hostsAs_ask rfl ids t hhosts, h.hostGroups, hnetwork⟩
  | setHidden ids hidden =>
    exact ⟨haffected ids, hostsAs_setHidden hhosts ids hidden t, h.hostGroups, hnetwork⟩
  | tagHosts ids tags action =>
    refine ⟨?_, hostsAs_tagHosts hhosts ids tags action t, h.hostGroups, hnetwork⟩
    change Answer.updated (ids.map fun id => (id, s.hosts.contains id)) = _
    rw [contains_eq h.hosts]
    rfl
  | manageGroupMembers group action ids =>
    exact ⟨haffected ids, hostsAs_manageGroupMembers hhosts group action ids t, h.hostGroups,
      hnetwork⟩
  | deleteHostGroups ids =>
    obtain ⟨hgroups, hdeleted⟩ := hostsAs_deleteHostGroups hhosts ids s.hostGroups
    refine ⟨?_, ?_, ?_, hnetwork⟩
    · exact congrArg (fun groups => Answer.affected (deletedGroups ids groups)) h.hostGroups
    · change HostsAs t _ (deleteHostGroups ids (i.hostGroups, i.hosts)).2
      rw [← h.hostGroups]
      exact hdeleted
    · change _ = (deleteHostGroups ids (i.hostGroups, i.hosts)).1
      rw [← h.hostGroups]
      exact hgroups
  | executeAction action scope =>
    have hscope : scope.resolve s.network.agents = scope.resolve (i.agentsAt t) :=
      resolve_eq hnetwork (le_refl t) htimely.1
    obtain ⟨hrel, hcount⟩ := networkAs_foldl_executeOn hnetwork (le_refl t) action
      (scope.resolve s.network.agents) 0 htimely.2
    refine ⟨?_, hhosts, h.hostGroups, ?_⟩
    · refine congrArg Answer.executed ?_
      rw [← hscope]
      exact hcount
    · have hasked : (i.step (t, .executeAction action scope)).agents
          = ((scope.resolve s.network.agents).foldl (askOn action t) (0, i.agents)).2 := by
        rw [hscope]
        rfl
      rw [hasked]
      exact hrel
  | read read => exact performRead_eq h ht read htimely

/-- A store whose hosts and agents are as they are, with the requests in flight. -/
def State.start (hosts : Hosts HostStatus ρ) (hostGroups : List String)
    (agents : Agents NetworkStatus α) (requests : Dict String PendingRequest) : State ρ α :=
  ⟨hosts, hostGroups, ⟨agents, requests, []⟩⟩

/-- What its hosts and agents were asked for. -/
def Asked.start (hosts : Hosts HostStatus ρ) (hostGroups : List String)
    (agents : Agents NetworkStatus α) (requests : Dict String PendingRequest) : Asked ρ α :=
  ⟨hosts.mapValues CsHost.history, hostGroups, agentHistories agents requests⟩

lemma stateAs_start (now : ℚ) (hosts : Hosts HostStatus ρ) (hostGroups : List String)
    (agents : Agents NetworkStatus α) (requests : Dict String PendingRequest) :
    StateAs now (.start hosts hostGroups agents requests)
      (Asked.start hosts hostGroups agents requests) :=
  ⟨hostsAs_history now hosts, rfl, networkAs_agentHistories now agents requests⟩

lemma runFrom_changes (i : Asked ρ α) (actions : List (ℚ × Action ρ α)) :
    runFrom Asked.step i (actions.filter fun a => a.2.changes) = runFrom Asked.step i actions := by
  induction actions generalizing i with
  | nil => rfl
  | cons a actions ih =>
    obtain ⟨t, action⟩ := a
    rw [List.filter_cons, runFrom_cons, ← ih]
    cases action <;> rfl

lemma stateAs_run {actions : List (ℚ × Action ρ α)} (h : StateAs now s i)
    (hnow : ∀ a ∈ actions, now ≤ a.1) (htimes : actions.Pairwise fun a b => a.1 ≤ b.1)
    (htimely : Along (specify step fun _ => Asked.step) Timely (s, i) actions) :
    ∀ t, (∀ a ∈ actions, a.1 ≤ t) → now ≤ t →
      StateAs t (runFrom step s actions) (runFrom Asked.step i actions) := by
  induction actions generalizing now s i with
  | nil =>
    intro t _ ht
    exact h.mono ht
  | cons a actions ih =>
    intro t ht hnowt
    obtain ⟨hlater, hrest⟩ := List.pairwise_cons.1 htimes
    have hstep := (perform_eq h a (hnow a List.mem_cons_self) htimely.1).2
    exact ih hstep hlater hrest htimely.2 t
      (fun b hb => ht b (List.mem_cons_of_mem a hb)) (ht a List.mem_cons_self)

lemma runFrom_specify (s : State ρ α) (i : Asked ρ α) (actions : List (ℚ × Action ρ α)) :
    runFrom (specify step fun _ => Asked.step) (s, i) actions
      = (runFrom step s actions, runFrom Asked.step i actions) := by
  induction actions generalizing s i with
  | nil => rfl
  | cons a actions ih => exact ih (step s a) (i.step a)

/-! ### What is left alone -/

lemma status_editEach {f : CsHost (History HostStatus) ρ → CsHost (History HostStatus) ρ}
    (hf : ∀ x, (f x).status = x.status) (ids : List String) (d : Hosts (History HostStatus) ρ) :
    (editEach ids f d).mapValues CsHost.status = d.mapValues CsHost.status := by
  induction ids generalizing d with
  | nil => rfl
  | cons id ids ih =>
    rw [editEach, List.foldl_cons, ← editEach, ih]
    split
    · rfl
    · next x hx =>
      rw [Dict.mapValues_set, hf]
      exact Dict.set_of_get (by rw [Dict.get_mapValues, hx, Option.map_some])

lemma status_deleteHostGroups (ids groups : List String) (d : Hosts (History HostStatus) ρ) :
    (deleteHostGroups ids (groups, d)).2.mapValues CsHost.status = d.mapValues CsHost.status := by
  induction ids generalizing groups d with
  | nil => rfl
  | cons id ids ih =>
    rw [deleteHostGroups, List.foldl_cons, ← deleteHostGroups]
    split
    · rw [ih]
      refine Dict.ext ?_
      exact List.map_map ..
    · exact ih groups d

lemma networkStatus_foldl_askOn (f : α → α) (t : ℚ) (ids : List String) (k : Nat)
    (d : Agents (History NetworkStatus) α) :
    (ids.foldl (askOn (.other f) t) (k, d)).2.mapValues Agent.networkStatus
      = d.mapValues Agent.networkStatus := by
  induction ids generalizing k d with
  | nil => rfl
  | cons id ids ih =>
    rw [List.foldl_cons, askOn]
    cases hx : d.get id with
    | none => exact ih k d
    | some x =>
      refine (ih (k + 1) _).trans ?_
      rw [Dict.mapValues_set]
      exact Dict.set_of_get (by rw [Dict.get_mapValues, hx]; rfl)

/-- An action that asks for nothing leaves every history alone. -/
lemma histories_step (i : Asked ρ α) (a : ℚ × Action ρ α) (ha : a.2.asks = false) :
    (i.step a).histories = i.histories := by
  obtain ⟨t, action⟩ := a
  cases action with
  | containHost ids => cases ha
  | liftContainment ids => cases ha
  | setHidden ids hidden =>
    refine congrArg (·, _) (status_editEach ?_ ids i.hosts)
    exact fun _ => rfl
  | tagHosts ids tags action =>
    refine congrArg (·, _) (status_editEach ?_ ids i.hosts)
    exact fun _ => rfl
  | manageGroupMembers group action ids =>
    refine congrArg (·, _) (status_editEach ?_ ids i.hosts)
    exact fun _ => rfl
  | deleteHostGroups ids =>
    exact congrArg (·, _) (status_deleteHostGroups ids i.hostGroups i.hosts)
  | executeAction action scope =>
    cases action with
    | network action => cases ha
    | other f => exact congrArg (_, ·) (networkStatus_foldl_askOn f t _ 0 i.agents)
  | read read => rfl

/-! ### What is published -/

/-- What was published of an agent is what it has answered, each answer once; the last one may be
    yet to come. -/
def PublishedOnce (t : ℚ) (s : State ρ α) (i : Asked ρ α) : Prop :=
  ∀ id x, i.agents.get id = some x →
    answers (x.networkStatus.settledBy settleSeconds t) = publishedOf id s.network.published
      ∨ ∃ last, answers (x.networkStatus.settledBy settleSeconds t)
          = last :: publishedOf id s.network.published

/-- What was published of an agent is all that it has answered, each answer once. -/
def AllPublished (t : ℚ) (s : State ρ α) (i : Asked ρ α) : Prop :=
  ∀ id x, i.agents.get id = some x →
    answers (x.networkStatus.settledBy settleSeconds t) = publishedOf id s.network.published

lemma publishedOnce (h : StateAs t s i) : PublishedOnce t s i := by
  intro id x hx
  rcases h.network.get id with ⟨-, hnone⟩ | ⟨a, x', -, hx', hax⟩
  · rw [hnone] at hx
    cases hx
  · rw [hx] at hx'
    cases hx'
    exact hax.published (le_refl t)

lemma allPublished (h : StateAs t s i) (hoverdue : ∀ id, ¬ Overdue t s.network id) :
    AllPublished t s i := by
  intro id x hx
  rcases h.network.get id with ⟨-, hnone⟩ | ⟨a, x', ha, hx', hax⟩
  · rw [hnone] at hx
    cases hx
  · rw [hx] at hx'
    cases hx'
    exact (hax.eq_of_not_due (le_refl t) fun ask hask hdue =>
      hoverdue id ⟨a, ask, ha, hask, hdue⟩).2

lemma not_overdue_of_settlesAgents (h : StateAs now s i) (a : ℚ × Action ρ α) (ht : now ≤ a.1)
    (hsettles : a.2.settlesAgents = true) : ∀ id, ¬ Overdue a.1 (step s a).network id := by
  obtain ⟨t, action⟩ := a
  have hnetwork := h.network.mono ht
  cases action with
  | read read =>
    cases read with
    | listAgents listing => exact (networkAs_settleAll hnetwork).2
    | countAgents listing => exact (networkAs_settleAll hnetwork).2
    | settleDue => exact (networkAs_settleNetwork hnetwork).2
    | _ => cases hsettles
  | _ => cases hsettles

/-- In a timely run every action answers what it should by what was asked for, the earlier reads
    left out; only what asks for something touches the histories; and what has been answered is
    published once, and all of it when the agents are read. -/
theorem settles_as_asked (hosts : Hosts HostStatus ρ) (hostGroups : List String)
    (agents : Agents NetworkStatus α) (requests : Dict String PendingRequest)
    (actions : List (ℚ × Action ρ α)) (htimes : actions.Pairwise fun a b => a.1 ≤ b.1)
    (htimely : Along (specify step fun _ => Asked.step) Timely
      (State.start hosts hostGroups agents requests, Asked.start hosts hostGroups agents requests)
      actions) :
    ∀ earlier a, earlier ++ [a] <+: actions →
      let s := runFrom step (.start hosts hostGroups agents requests) earlier
      let i := runFrom Asked.step (.start hosts hostGroups agents requests)
        (earlier.filter fun a => a.2.changes)
      (perform s a).1 = i.answer a
        ∧ (a.2.asks = false → (i.step a).histories = i.histories)
        ∧ PublishedOnce a.1 (step s a) (i.step a)
        ∧ (a.2.settlesAgents = true → AllPublished a.1 (step s a) (i.step a)) := by
  intro earlier a hprefix
  obtain ⟨later, rfl⟩ := hprefix
  dsimp only
  rw [runFrom_changes]
  obtain ⟨hbefore, hlast⟩ := Along.append_iff.1 (Along.append_iff.1 htimely).1
  obtain ⟨htimes, -, -⟩ := List.pairwise_append.1 htimes
  obtain ⟨hearlier, -, hend⟩ := List.pairwise_append.1 htimes
  have ht : ∀ b ∈ earlier, b.1 ≤ a.1 := fun b hb => hend b hb a (List.mem_singleton_self a)
  obtain ⟨now, hnow, hnowa⟩ : ∃ now, (∀ b ∈ earlier, now ≤ b.1) ∧ now ≤ a.1 := by
    cases earlier with
    | nil => exact ⟨a.1, nofun, le_refl _⟩
    | cons b earlier =>
      refine ⟨b.1, ?_, ht b List.mem_cons_self⟩
      intro c hc
      rcases List.mem_cons.1 hc with rfl | hc
      · exact le_refl _
      · exact List.rel_of_pairwise_cons hearlier hc
  have hstate := stateAs_run (stateAs_start now hosts hostGroups agents requests) hnow hearlier
    hbefore a.1 ht hnowa
  rw [runFrom_specify] at hlast
  obtain ⟨hanswer, hstep⟩ := perform_eq hstate a (le_refl _) hlast.1
  refine ⟨hanswer, histories_step _ a, publishedOnce hstep, fun hsettles => ?_⟩
  exact allPublished hstep (not_overdue_of_settlesAgents hstate a (le_refl _) hsettles)

/-- A host that nothing was asked of. -/
def calmHosts : Hosts HostStatus Unit :=
  Dict.empty.set "h" ⟨.normal, .iso 0, [], [], false, ()⟩

/-- An agent that nothing was asked of. -/
def calmAgents : Agents NetworkStatus Unit := Dict.empty.set "a" ⟨.connected, .iso 0, ()⟩

/-- The host is contained, tagged in the same second and read; the agent is disconnected. -/
def containedRun : List (ℚ × Action Unit Unit) :=
  [(0, .containHost ["h"]), (1 / 2, .tagHosts ["h"] ["t"] .add),
    (2, .read (.getHostEntities ["h"])), (2, .executeAction (.network .disconnect) (.ids ["a"]))]

/-- All agents are listed after that. -/
def lastRead : ℚ × Action Unit Unit :=
  (4, .read (.listAgents fun records => (records, records.length)))

/-- The listing shows the agent disconnected, as it should. -/
theorem settles_as_asked_contained :
    (perform (runFrom step (.start calmHosts [] calmAgents .empty) containedRun) lastRead).1
        = (runFrom Asked.step (.start calmHosts [] calmAgents .empty)
            (containedRun.filter fun a => a.2.changes)).answer lastRead := by
  have htimely : Along (specify step fun _ => Asked.step) Timely
      (State.start calmHosts [] calmAgents .empty, Asked.start calmHosts [] calmAgents .empty)
      (containedRun ++ [lastRead]) := by
    refine ⟨trivial, trivial, ?_, ⟨.inl trivial, ?_⟩, trivial, trivial⟩
    · rintro id h x hd hx ⟨hid, -⟩ -
      rw [List.mem_singleton] at hid
      subst hid
      cases hd
      cases hx
      decide +kernel
    · rintro - id hid ⟨a, ask, ha, hask, -⟩
      rw [Scope.resolve, List.mem_singleton] at hid
      subst hid
      cases ha
      cases hask
  exact (settles_as_asked calmHosts [] calmAgents .empty (containedRun ++ [lastRead])
    (by decide +kernel) htimely containedRun lastRead List.prefix_rfl).1

/-- A host is contained and tagged a second later: it is still pending when it should be
    contained. -/
theorem tagged_host_stays_pending :
    ¬ ∀ (hosts : Hosts HostStatus Unit) (hostGroups : List String)
        (agents : Agents NetworkStatus Unit) (requests : Dict String PendingRequest)
        (actions : List (ℚ × Action Unit Unit)),
      actions.Pairwise (fun a b => a.1 ≤ b.1) → ∀ earlier a, earlier ++ [a] <+: actions →
        (perform (runFrom step (.start hosts hostGroups agents requests) earlier) a).1
          = (runFrom Asked.step (.start hosts hostGroups agents requests)
              (earlier.filter fun a => a.2.changes)).answer a := by
  intro h
  have hanswer := h calmHosts [] .empty .empty
    [(0, .containHost ["h"]), (1, .tagHosts ["h"] ["t"] .add),
      (3 / 2, .read (.getHostEntities ["h"]))] (by decide +kernel)
    [(0, .containHost ["h"]), (1, .tagHosts ["h"] ["t"] .add)]
    (3 / 2, .read (.getHostEntities ["h"])) List.prefix_rfl
  have hstatus : ∀ p q : String × CsHost HostStatus Unit,
      (Answer.entities [p] : Answer Unit Unit) = .entities [q] → p.2.status = q.2.status := by
    rintro p q ⟨⟩
    rfl
  exact absurd (hstatus _ _ hanswer) (by decide +kernel)

end Settling

end Mockdr
