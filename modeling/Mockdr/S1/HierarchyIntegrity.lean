import Mathlib
import Mockdr.S1.Hierarchy

/-!
# Agents are where they say they are

* `Placed`: an agent with a group carries the ids and names of it and of its site.
* `Keeps`: a request gives no new name to a site or a group that has agents, takes no agent to a
  group of another site, and none with a group to a site without one.
* `consistent_iff_keeps`: every agent is placed throughout a run exactly when every request keeps it
  so.
-/

namespace Mockdr

namespace Hierarchy

/-- An agent with a group names it, and carries its name and the id and name of its site. -/
def State.Placed (s : State) (a : Agent) : Prop :=
  a.groupId ≠ "" → ∃ group site, s.groups.get a.groupId = some group
    ∧ s.sites.get group.siteId = some site
    ∧ a.siteId = group.siteId ∧ a.groupName = group.name ∧ a.siteName = site.name

/-- Every agent is placed. -/
def State.Consistent (s : State) : Prop := ∀ id a, s.agents.get id = some a → s.Placed a

/-- The agents that have a group. -/
def State.Grouped (s : State) (a : Agent) : Prop :=
  (∃ id, s.agents.get id = some a) ∧ a.groupId ≠ ""

/-- An agent is in the site of a group, and carries its name. -/
def State.AtSiteOf (s : State) (group : Group) (a : Agent) : Prop :=
  a.siteId = group.siteId ∧ ∃ site, s.sites.get group.siteId = some site ∧ a.siteName = site.name

/-- A request keeps the agents placed. -/
def Keeps (s : State) : Action → Prop
  | .createSite id name => ∀ a, s.Grouped a → a.siteId = id → a.siteName = name.getD (.str "")
  | .updateSite id name =>
    ∀ new, name = some new → ∀ a, s.Grouped a → a.siteId = id → a.siteName = new
  | .createGroup id name siteId _ =>
    ∀ a, s.Grouped a → a.groupId = id → a.siteId = siteId ∧ a.groupName = name.getD (.str "")
  | .updateGroup id name _ =>
    ∀ new, name = some new → ∀ a, s.Grouped a → a.groupId = id → a.groupName = new
  | .moveAgentsToGroup id ids =>
    ∀ group, s.groups.get id = some group →
      ∀ i ∈ ids, ∀ a, s.agents.get i = some a → s.AtSiteOf group a
  | .moveToGroup id ids =>
    id ≠ "" → ∀ group, s.groups.get id = some group →
      ∀ i ∈ ids, ∀ a, s.agents.get i = some a → s.AtSiteOf group a
  | .moveToSite id ids =>
    id ≠ "" → (s.sites.get id).isSome → getBySite id s.groups = [] →
      ∀ i ∈ ids, ∀ a, s.agents.get i = some a → a.groupId = ""
  | .deleteSite _ => True
  | .deleteGroup _ => True

variable {s s' : State}

/-! ## Sites -/

lemma consistent_setSite (h : s.Consistent) (id : String) (site : Site) :
    State.Consistent { s with sites := s.sites.set id site }
      ↔ ∀ a, s.Grouped a → a.siteId = id → a.siteName = site.name := by
  constructor
  · rintro hset a ⟨⟨i, ha⟩, hgroup⟩ hid
    obtain ⟨group, site', -, hsite, hsiteId, -, hname⟩ := hset i a ha hgroup
    rw [← hsiteId, hid] at hsite
    change (s.sites.set id site).get id = some site' at hsite
    rw [Dict.get_set_self] at hsite
    cases hsite
    exact hname
  · intro hnames i a ha hgroup
    obtain ⟨group, old, hgroupGet, hsite, hsiteId, hgroupName, hname⟩ := h i a ha hgroup
    by_cases hid : group.siteId = id
    · refine ⟨group, site, hgroupGet, ?_, hsiteId, hgroupName, ?_⟩
      · change (s.sites.set id site).get group.siteId = some site
        rw [hid, Dict.get_set_self]
      · exact hnames a ⟨⟨i, ha⟩, hgroup⟩ (hsiteId.trans hid)
    · refine ⟨group, old, hgroupGet, ?_, hsiteId, hgroupName, hname⟩
      exact (Dict.get_set_ne _ _ hid).trans hsite

lemma consistent_updateSite (h : s.Consistent) (id : RecordId) (name : Option Json) :
    (updateSite id name s).2.Consistent ↔ Keeps s (.updateSite id name) := by
  rw [updateSite]
  cases hsite : s.sites.get id with
  | none =>
    refine iff_of_true h ?_
    rintro new - a ⟨⟨i, ha⟩, hgroup⟩ hid
    obtain ⟨group, old, -, hold, hsiteId, -⟩ := h i a ha hgroup
    rw [← hsiteId, hid, hsite] at hold
    cases hold
  | some site =>
    refine (consistent_setSite h id { site with name := name.getD site.name }).trans ?_
    cases name with
    | none =>
      refine iff_of_true ?_ nofun
      rintro a ⟨⟨i, ha⟩, hgroup⟩ hid
      obtain ⟨group, old, -, hold, hsiteId, -, hname⟩ := h i a ha hgroup
      rw [← hsiteId, hid, hsite] at hold
      cases hold
      exact hname
    | some new =>
      constructor
      · rintro hnames _ ⟨⟩
        exact hnames
      · intro hkeeps
        exact hkeeps new rfl

lemma consistent_deleteSite (h : s.Consistent) (id : RecordId) :
    (deleteSite id s).2.Consistent := by
  rw [deleteSite]
  split
  · exact h
  · next site hsite =>
    split
    · exact h
    · intro i a' ha' hgroup
      change (s.agents.mapValues (Agent.leaveSite id)).get i = some a' at ha'
      rw [Dict.get_mapValues] at ha'
      obtain ⟨a, ha, rfl⟩ := Option.map_eq_some_iff.1 ha'
      by_cases hid : a.siteId = id
      · rw [Agent.leaveSite, if_pos hid] at hgroup
        exact absurd rfl hgroup
      · have hstays : a.leaveSite id = a := if_neg hid
        rw [hstays] at hgroup ⊢
        obtain ⟨group, old, hgroupGet, hold, hsiteId, hnames⟩ := h i a ha hgroup
        have hother : group.siteId ≠ id := fun heq => hid (hsiteId.trans heq)
        refine ⟨group, old, ?_, (Dict.get_erase_ne _ hother).trans hold, hsiteId, hnames⟩
        change (s.groups.filter fun g => g.2.siteId ≠ id.1).get a.groupId = some group
        rw [Dict.get_filter, hgroupGet]
        exact Option.filter_some_pos (decide_eq_true hother)

/-! ## Groups -/

/-- A group is written. The agents of other groups stay placed, and its own if they agree with
    it. -/
lemma consistent_setGroup (h : s.Consistent) (id : RecordId) (group : Group) :
    State.Consistent { s with groups := s.groups.set id group }
      ↔ ∀ a, s.Grouped a → a.groupId = id → a.siteId = group.siteId ∧ a.groupName = group.name := by
  constructor
  · rintro hset a ⟨⟨i, ha⟩, hgroup⟩ hid
    obtain ⟨group', site, hgroupGet, -, hsiteId, hname, -⟩ := hset i a ha hgroup
    rw [hid] at hgroupGet
    change (s.groups.set id group).get id = some group' at hgroupGet
    rw [Dict.get_set_self] at hgroupGet
    cases hgroupGet
    exact ⟨hsiteId, hname⟩
  · intro hagree i a ha hgroup
    obtain ⟨old, site, hold, hsite, hsiteId, hgroupName, hname⟩ := h i a ha hgroup
    by_cases hid : a.groupId = id
    · obtain ⟨hsiteId', hname'⟩ := hagree a ⟨⟨i, ha⟩, hgroup⟩ hid
      refine ⟨group, site, ?_, ?_, hsiteId', hname', hname⟩
      · change (s.groups.set id group).get a.groupId = some group
        rw [hid, Dict.get_set_self]
      · rw [← hsiteId', hsiteId]
        exact hsite
    · exact ⟨old, site, (Dict.get_set_ne _ _ hid).trans hold, hsite, hsiteId, hgroupName, hname⟩

lemma consistent_updateGroup (h : s.Consistent) (id : RecordId) (name : Option Json)
    (isDefault : Option Bool) :
    (updateGroup id name isDefault s).2.Consistent ↔ Keeps s (.updateGroup id name isDefault) := by
  rw [updateGroup]
  cases hget : s.groups.get id with
  | none =>
    refine iff_of_true h ?_
    rintro new - a ⟨⟨i, ha⟩, hgroup⟩ hid
    obtain ⟨old, -, hold, -⟩ := h i a ha hgroup
    rw [hid, hget] at hold
    cases hold
  | some group =>
    have hself : ∀ a, s.Grouped a → a.groupId = id →
        a.siteId = group.siteId ∧ a.groupName = group.name := by
      rintro a ⟨⟨i, ha⟩, hgroup⟩ hid
      obtain ⟨old, -, hold, -, hsiteId, hname, -⟩ := h i a ha hgroup
      rw [hid, hget] at hold
      cases hold
      exact ⟨hsiteId, hname⟩
    refine (consistent_setGroup h id _).trans ?_
    cases name with
    | none => exact iff_of_true hself nofun
    | some new =>
      constructor
      · rintro hagree _ ⟨⟩ a ha hid
        exact (hagree a ha hid).2
      · intro hkeeps a ha hid
        exact ⟨(hself a ha hid).1, hkeeps new rfl a ha hid⟩

lemma fallbackGroup_spec {id : String} {group : Group} {groups : Dict String Group}
    {g : String × Group} (h : fallbackGroup id group groups = some g) :
    g.1 ≠ id ∧ groups.get g.1 = some g.2 ∧ g.2.siteId = group.siteId := by
  rw [fallbackGroup] at h
  have hfound : ∃ p : String × Group → Bool, (∀ g, p g = true → g.1 ≠ id)
      ∧ (if group.siteId = "" then [] else getBySite group.siteId groups).find? p = some g := by
    rcases Option.or_eq_some_iff.1 h with hdefault | ⟨-, hany⟩
    · refine ⟨_, ?_, hdefault⟩
      intro g hg
      exact of_decide_eq_true (Bool.and_eq_true_iff.1 hg).2
    · refine ⟨_, ?_, hany⟩
      intro g hg
      exact of_decide_eq_true hg
  obtain ⟨p, hp, hfind⟩ := hfound
  have hne := hp g (List.find?_some hfind)
  have hmem := List.mem_of_find?_eq_some hfind
  split at hmem
  · cases hmem
  · obtain ⟨hentry, hsite⟩ := List.mem_filter.1 hmem
    exact ⟨hne, Dict.mem_entries_iff.1 hentry, of_decide_eq_true hsite⟩

lemma consistent_deleteGroup (h : s.Consistent) (id : RecordId) :
    (deleteGroup id s).2.Consistent := by
  rw [deleteGroup]
  split
  · exact h
  · next group hget =>
    split
    · exact h
    · intro i a' ha' hgroup
      change (s.agents.mapValues (Agent.leaveGroup id (fallbackGroup id group s.groups))).get i
        = some a' at ha'
      rw [Dict.get_mapValues] at ha'
      obtain ⟨a, ha, rfl⟩ := Option.map_eq_some_iff.1 ha'
      by_cases hid : a.groupId = id
      · have hgrouped : a.groupId ≠ "" := fun hempty => id.2 (hid.symm.trans hempty)
        obtain ⟨old, site, hold, hsite, hsiteId, -, hname⟩ := h i a ha hgrouped
        rw [hid, hget] at hold
        cases hold
        cases hfallback : fallbackGroup id group s.groups with
        | none =>
          have hleaves : a.leaveGroup id none = { a with groupId := "", groupName := .str "" } :=
            if_pos hid
          rw [hfallback, hleaves] at hgroup
          exact absurd rfl hgroup
        | some g =>
          have hleaves : a.leaveGroup id (some g)
              = { a with groupId := g.1, groupName := g.2.name } := if_pos hid
          rw [hleaves]
          obtain ⟨hne, hg, hsame⟩ := fallbackGroup_spec hfallback
          refine ⟨g.2, site, (Dict.get_erase_ne _ hne).trans hg, ?_, ?_, rfl, hname⟩
          · rw [hsame]
            exact hsite
          · rw [hsame]
            exact hsiteId
      · have hstays : a.leaveGroup id (fallbackGroup id group s.groups) = a := if_neg hid
        rw [hstays] at hgroup ⊢
        obtain ⟨old, site, hold, hrest⟩ := h i a ha hgroup
        exact ⟨old, site, (Dict.get_erase_ne _ hid).trans hold, hrest⟩

/-! ## Moves -/

/-- What the loop over the agents makes of each of them. -/
lemma get_foldl_move {f : Agent → Agent} (hf : ∀ a, f (f a) = f a) (ids : List String)
    (n : ℕ) (agents : Dict String Agent) (k : String) :
    (ids.foldl (fun p id =>
      match p.2.get id with
      | none => p
      | some agent => (p.1 + 1, p.2.set id (f agent))) (n, agents)).2.get k
        = (agents.get k).map (if k ∈ ids then f else fun a => a) := by
  induction ids generalizing agents n with
  | nil =>
    exact (Option.map_id_fun' ▸ rfl : agents.get k = (agents.get k).map fun a => a)
  | cons id ids ih =>
    rw [List.foldl_cons]
    cases hget : agents.get id with
    | none =>
      refine (ih n agents).trans ?_
      by_cases hk : k = id
      · rw [hk, hget]
        rfl
      · simp only [List.mem_cons, hk, false_or]
    | some a =>
      refine (ih (n + 1) (agents.set id (f a))).trans ?_
      by_cases hk : k = id
      · subst hk
        rw [Dict.get_set_self, hget, if_pos List.mem_cons_self, Option.map_some, Option.map_some]
        split
        · rw [hf]
        · rfl
      · rw [Dict.get_set_ne _ _ hk]
        simp only [List.mem_cons, hk, false_or]

lemma get_moveEach {f : Agent → Agent} (hf : ∀ a, f (f a) = f a) (ids : List String)
    (agents : Dict String Agent) (k : String) :
    (moveEach ids f agents).2.get k = (agents.get k).map (if k ∈ ids then f else fun a => a) :=
  get_foldl_move hf ids 0 agents k

lemma consistent_moveEach (h : s.Consistent) (f : Agent → Agent) (hf : ∀ a, f (f a) = f a)
    (ids : List String) :
    State.Consistent { s with agents := (moveEach ids f s.agents).2 }
      ↔ ∀ i ∈ ids, ∀ a, s.agents.get i = some a → s.Placed (f a) := by
  constructor
  · intro hmoved i hi a ha
    refine hmoved i (f a) ?_
    change (moveEach ids f s.agents).2.get i = some (f a)
    rw [get_moveEach hf, ha, if_pos hi]
    rfl
  · intro hplaced i a' ha'
    change (moveEach ids f s.agents).2.get i = some a' at ha'
    rw [get_moveEach hf] at ha'
    obtain ⟨a, ha, rfl⟩ := Option.map_eq_some_iff.1 ha'
    split
    · next hi => exact hplaced i hi a ha
    · exact h i a ha

lemma placed_join {id : String} {group : Group} (hid : id ≠ "")
    (hget : s.groups.get id = some group) (a : Agent) :
    s.Placed (a.join id group) ↔ s.AtSiteOf group a := by
  constructor
  · intro hplaced
    obtain ⟨group', site, hgroup, hsite, hsiteId, -, hname⟩ := hplaced hid
    change s.groups.get id = some group' at hgroup
    rw [hget] at hgroup
    cases hgroup
    exact ⟨hsiteId, site, hsite, hname⟩
  · rintro ⟨hsiteId, site, hsite, hname⟩ -
    exact ⟨group, site, hget, hsite, hsiteId, rfl, hname⟩

lemma consistent_join (h : s.Consistent) {id : String} {group : Group} (hid : id ≠ "")
    (hget : s.groups.get id = some group) (ids : List String) :
    State.Consistent { s with agents := (moveEach ids (Agent.join id group) s.agents).2 }
      ↔ ∀ i ∈ ids, ∀ a, s.agents.get i = some a → s.AtSiteOf group a := by
  refine (consistent_moveEach h (Agent.join id group) (fun _ => rfl) ids).trans ?_
  simp only [placed_join hid hget]

lemma consistent_stay (h : s.Consistent) (ids : List String) :
    State.Consistent { s with agents := (moveEach ids (fun a => a) s.agents).2 } :=
  (consistent_moveEach h (fun a => a) (fun _ => rfl) ids).2 fun i _ a ha => h i a ha

lemma consistent_moveAgentsToGroup (h : s.Consistent) (id : RecordId) (ids : List String) :
    (moveAgentsToGroup id ids s).2.Consistent ↔ Keeps s (.moveAgentsToGroup id ids) := by
  rw [moveAgentsToGroup]
  cases hget : s.groups.get id with
  | none =>
    refine iff_of_true h ?_
    intro group hgroup
    rw [hget] at hgroup
    cases hgroup
  | some group =>
    refine (consistent_join h id.2 hget ids).trans ?_
    constructor
    · intro hat group' hgroup'
      rw [hget] at hgroup'
      cases hgroup'
      exact hat
    · intro hkeeps
      exact hkeeps group hget

lemma consistent_moveToGroup (h : s.Consistent) (id : String) (ids : List String) :
    (moveToGroup id ids s).2.Consistent ↔ Keeps s (.moveToGroup id ids) := by
  rw [moveToGroup]
  by_cases hid : id = ""
  · rw [if_pos hid]
    exact iff_of_true (consistent_stay h ids) fun hne => absurd hid hne
  · rw [if_neg hid]
    cases hget : s.groups.get id with
    | none =>
      refine iff_of_true (consistent_stay h ids) ?_
      intro _ group hgroup
      rw [hget] at hgroup
      cases hgroup
    | some group =>
      refine (consistent_join h hid hget ids).trans ?_
      constructor
      · intro hat _ group' hgroup'
        rw [hget] at hgroup'
        cases hgroup'
        exact hat
      · intro hkeeps
        exact hkeeps hid group hget

/-- The group that agents join at a site is one of the site; there is none if the site has none. -/
lemma defaultGroup_spec (siteId : String) (groups : Dict String Group) :
    (defaultGroup siteId groups = none ∧ getBySite siteId groups = [])
      ∨ getBySite siteId groups ≠ [] ∧ ∃ g, defaultGroup siteId groups = some g
          ∧ groups.get g.1 = some g.2 ∧ g.2.siteId = siteId := by
  cases hgroups : getBySite siteId groups with
  | nil =>
    refine .inl ⟨?_, rfl⟩
    rw [defaultGroup, hgroups]
    rfl
  | cons first rest =>
    have hmem : ∀ g ∈ getBySite siteId groups, groups.get g.1 = some g.2 ∧ g.2.siteId = siteId := by
      intro g hg
      obtain ⟨hentry, hsite⟩ := List.mem_filter.1 hg
      exact ⟨Dict.mem_entries_iff.1 hentry, of_decide_eq_true hsite⟩
    refine .inr ⟨nofun, ?_⟩
    rw [defaultGroup]
    cases hdefault : (getBySite siteId groups).find? fun g => g.2.isDefault with
    | some g => exact ⟨g, rfl, hmem g (List.mem_of_find?_eq_some hdefault)⟩
    | none =>
      rw [hgroups]
      exact ⟨first, rfl, hmem first (hgroups ▸ List.mem_cons_self)⟩

lemma consistent_moveToSite (h : s.Consistent) (id : String) (ids : List String) :
    (moveToSite id ids s).2.Consistent ↔ Keeps s (.moveToSite id ids) := by
  rw [moveToSite]
  by_cases hid : id = ""
  · rw [if_pos hid]
    exact iff_of_true (consistent_stay h ids) fun hne => absurd hid hne
  · rw [if_neg hid]
    cases hsite : s.sites.get id with
    | none =>
      refine iff_of_true (consistent_stay h ids) ?_
      intro _ hsome
      rw [hsite] at hsome
      cases hsome
    | some site =>
      rcases defaultGroup_spec id s.groups with ⟨hnone, hempty⟩ | ⟨hgroups, g, hg, hget, hgsite⟩
      · rw [hnone]
        refine (consistent_moveEach h (Agent.enter id site none) (fun _ => rfl) ids).trans ?_
        constructor
        · intro hplaced _ _ _ i hi a ha
          by_contra hgroup
          obtain ⟨group, -, hgroupGet, -, hsiteId, -⟩ := hplaced i hi a ha hgroup
          have hmem : (a.groupId, group) ∈ getBySite id s.groups :=
            List.mem_filter.2 ⟨Dict.mem_entries_iff.2 hgroupGet, decide_eq_true hsiteId.symm⟩
          rw [hempty] at hmem
          cases hmem
        · intro hkeeps i hi a ha hgroup
          have hnogroup := hkeeps hid (by rw [hsite]; rfl) hempty i hi a ha
          exact absurd hnogroup hgroup
      · rw [hg]
        refine (consistent_moveEach h (Agent.enter id site (some g)) (fun _ => rfl) ids).trans ?_
        refine iff_of_true ?_ fun _ _ hempty => absurd hempty hgroups
        intro i hi a ha _
        refine ⟨g.2, site, hget, ?_, hgsite.symm, rfl, rfl⟩
        rw [hgsite]
        exact hsite

/-! ## Runs -/

lemma consistent_step (h : s.Consistent) (a : Action) : (step s a).Consistent ↔ Keeps s a := by
  cases a with
  | createSite id name => exact consistent_setSite h id ⟨name.getD (.str ""), false⟩
  | updateSite id name => exact consistent_updateSite h id name
  | deleteSite id => exact iff_of_true (consistent_deleteSite h id) trivial
  | createGroup id name siteId isDefault =>
    exact consistent_setGroup h id ⟨name.getD (.str ""), siteId, isDefault⟩
  | updateGroup id name isDefault => exact consistent_updateGroup h id name isDefault
  | deleteGroup id => exact iff_of_true (consistent_deleteGroup h id) trivial
  | moveAgentsToGroup id ids => exact consistent_moveAgentsToGroup h id ids
  | moveToGroup id ids => exact consistent_moveToGroup h id ids
  | moveToSite id ids => exact consistent_moveToSite h id ids

/-- Every agent is placed throughout a run exactly when every request keeps it so. -/
theorem consistent_iff_keeps (s : State) (h : s.Consistent) (actions : List Action) :
    (∀ reached, reached <+: actions → (runFrom step s reached).Consistent)
      ↔ Along step Keeps s actions := by
  have hall : Along step (fun _ _ => True) s actions := Along.of_forall fun _ _ => trivial
  refine Along.always_iff (fun _ hs => hs) ?_ ?_ h hall
  · exact fun s a _ hs hkeeps => (consistent_step hs a).2 hkeeps
  · exact fun s a _ hs hnext => (consistent_step hs a).1 hnext

/-- Two sites, each with a group, and an agent in the first. -/
def twoSites : State where
  sites := (Dict.empty.set "1" ⟨.str "A", true⟩).set "2" ⟨.str "B", false⟩
  groups := (Dict.empty.set "3" ⟨.str "G", "1", true⟩).set "4" ⟨.str "H", "2", true⟩
  agents := Dict.empty.set "5" ⟨"1", .str "A", "3", .str "G"⟩

lemma consistent_twoSites : twoSites.Consistent := by
  intro id a ha _
  change Assoc.get id [("5", ⟨"1", .str "A", "3", .str "G"⟩)] = some a at ha
  rw [Assoc.get_cons] at ha
  split at ha
  · cases ha
    exact ⟨⟨.str "G", "1", true⟩, ⟨.str "A", true⟩, rfl, rfl, rfl, rfl, rfl⟩
  · cases ha

/-- The agent is moved to the other site, and the one it was in is deleted. -/
theorem consistent_iff_keeps_moved :
    (∀ reached, reached <+: [.moveToSite "2" ["5"], .deleteSite ⟨"1", by decide⟩] →
        (runFrom step twoSites reached).Consistent)
      ↔ Along step Keeps twoSites [.moveToSite "2" ["5"], .deleteSite ⟨"1", by decide⟩] :=
  consistent_iff_keeps twoSites consistent_twoSites _

/-- The agent is put into the group of the other site: it stays at its own. -/
theorem moved_agent_stays_at_its_site :
    ¬ ∀ s : State, s.Consistent → ∀ actions, (runFrom step s actions).Consistent := by
  intro h
  have hmoved := h twoSites consistent_twoSites [.moveAgentsToGroup ⟨"4", by decide⟩ ["5"]]
  obtain ⟨group, site, hgroup, -, hsite, -⟩ :=
    hmoved "5" ⟨"1", .str "A", "4", .str "H"⟩ rfl (by decide)
  cases hgroup
  exact absurd hsite (by decide)

end Hierarchy

end Mockdr
