import Mockdr.CrowdStrike.HostGroups
import Mockdr.Lib.Run

/-!
# The membership of host groups

Hosts keep the ids of their groups, and the groups are a collection of their own.

* `Integrity`: every id that a host keeps is that of a group, and a host keeps no id twice.
* `integrity_iff_known`: a run keeps this exactly when no host is added to a group that does not
  exist, which the action does not check (`KnownGroups`). Deleting a group takes its id from every
  host and leaves everything else as it is (`get_deleteHostGroup`).
-/

namespace Mockdr

namespace HostGroups

variable {δ : Type} {py : Python} {s : Store δ}

/-- A value is the id of a group. -/
def Names (s : Store δ) (group : Json) : Prop :=
  ∃ id, group = .str id ∧ s.groups.contains id = true

/-- Every group of a host exists, and the host has it once. -/
structure Integrity (s : Store δ) : Prop where
  named : ∀ id host, s.hosts.get id = some host → ∀ g ∈ host.groups, Names s g
  once : ∀ id host, s.hosts.get id = some host → host.groups.Nodup

/-! ## One host -/

variable {host : CsHost δ} {group : Json}

lemma mem_join {g : Json} (h : g ∈ (host.join group).groups) : g ∈ host.groups ∨ g = group := by
  rw [CsHost.join] at h
  split at h
  · exact .inl h
  · exact (List.mem_append.1 h).imp id List.mem_singleton.1

lemma mem_join_of_mem {g : Json} (h : g ∈ host.groups) : g ∈ (host.join group).groups := by
  rw [CsHost.join]
  split
  · exact h
  · exact List.mem_append_left _ h

lemma exists_join : ∃ g ∈ (host.join group).groups, g = group ∨ g.eq group = true := by
  rw [CsHost.join]
  split
  · next h =>
    obtain ⟨g, hg, heq⟩ := List.any_eq_true.1 h
    exact ⟨g, hg, .inr heq⟩
  · exact ⟨group, List.mem_append_right _ (List.mem_singleton_self _), .inl rfl⟩

lemma nodup_join {id : String} (h : host.groups.Nodup) : (host.join (.str id)).groups.Nodup := by
  rw [CsHost.join]
  split
  · exact h
  · next hno =>
    refine List.nodup_append.2 ⟨h, List.nodup_singleton _, ?_⟩
    rintro g hg _ hsame rfl
    rw [List.mem_singleton.1 hsame] at hg
    exact hno (List.any_eq_true.2 ⟨_, hg, Json.eq_str_iff.2 rfl⟩)

lemma act_sound {adds : Bool} {now : String} (hgroup : adds = true → Names s group)
    (h : (∀ g ∈ host.groups, Names s g) ∧ host.groups.Nodup) :
    (∀ g ∈ (host.act adds now group).groups, Names s g)
      ∧ (host.act adds now group).groups.Nodup := by
  cases adds with
  | true =>
    obtain ⟨id, rfl, hid⟩ := hgroup rfl
    refine ⟨fun g hg => ?_, nodup_join h.2⟩
    rcases mem_join hg with hg | rfl
    · exact h.1 g hg
    · exact ⟨id, rfl, hid⟩
  | false => exact ⟨fun g hg => h.1 g (List.mem_of_mem_filter hg), h.2.filter _⟩

/-! ## The hosts of an action -/

/-- The action is taken once for every time that a host is named. -/
lemma get_manageGroupMembers (adds : Bool) (now : String) (hostIds : List String) (s : Store δ)
    (group : Json) (id : String) :
    (manageGroupMembers adds now hostIds s group).hosts.get id
      = (s.hosts.get id).map fun host =>
        (hostIds.filter (· = id)).foldl (fun host _ => host.act adds now group) host := by
  rw [manageGroupMembers]
  dsimp only
  generalize s.hosts = hosts
  induction hostIds generalizing hosts with
  | nil => simp
  | cons h hostIds ih =>
    rw [List.foldl_cons, ih]
    by_cases hid : h = id
    · subst hid
      rw [List.filter_cons_of_pos (by simp)]
      cases hhost : hosts.get h with
      | none => rw [hhost]; rfl
      | some host => rw [Dict.get_set_self]; rfl
    · rw [List.filter_cons_of_neg (by simpa using hid)]
      cases hhost : hosts.get h with
      | none => rfl
      | some host => rw [Dict.get_set_ne _ _ (Ne.symm hid)]

/-- An action keeps integrity if it removes, if its group is known, or if it names no host that
    exists. -/
lemma Integrity.manageGroupMembers {adds : Bool} {now : String} {hostIds : List String}
    (hgroup : (adds = true → Names s group) ∨ ∀ id ∈ hostIds, s.hosts.get id = none)
    (hs : Integrity s) : Integrity (manageGroupMembers adds now hostIds s group) := by
  have hsound : ∀ id host, (HostGroups.manageGroupMembers adds now hostIds s group).hosts.get id
      = some host → (∀ g ∈ host.groups, Names s g) ∧ host.groups.Nodup := by
    intro id host hhost
    rw [get_manageGroupMembers, Option.map_eq_some_iff] at hhost
    obtain ⟨before, hbefore, rfl⟩ := hhost
    have h := And.intro (hs.named id before hbefore) (hs.once id before hbefore)
    rcases hgroup with hgroup | hnone
    · clear hbefore
      induction hostIds.filter (· = id) generalizing before with
      | nil => exact h
      | cons _ rest ih => exact ih _ (act_sound hgroup h)
    · have hunnamed : hostIds.filter (· = id) = [] := by
        refine List.filter_eq_nil_iff.2 fun other hother => ?_
        rw [decide_eq_true_eq]
        rintro rfl
        rw [hnone other hother] at hbefore
        cases hbefore
      rw [hunnamed]
      exact h
  exact ⟨fun id host hhost => (hsound id host hhost).1,
    fun id host hhost => (hsound id host hhost).2⟩

/-- A host has a group that joined it, or one that is equal. -/
def Has (s : Store δ) (id : String) (group : Json) : Prop :=
  ∃ host, s.hosts.get id = some host ∧ ∃ g ∈ host.groups, g = group ∨ g.eq group = true

lemma has_act {now : String} {g : Json} (hostIds : List String)
    (h : ∃ g' ∈ host.groups, g' = g ∨ g'.eq g = true) :
    ∃ g' ∈ (hostIds.foldl (fun host _ => host.act true now group) host).groups,
      g' = g ∨ g'.eq g = true := by
  induction hostIds generalizing host with
  | nil => exact h
  | cons _ rest ih =>
    obtain ⟨g', hg', heq⟩ := h
    exact ih ⟨g', mem_join_of_mem hg', heq⟩

/-- Adding a group leaves the groups that a host has. -/
lemma Has.add {id now : String} {g : Json} {hostIds : List String} (h : Has s id g) :
    Has (manageGroupMembers true now hostIds s group) id g := by
  obtain ⟨host, hhost, hg⟩ := h
  refine ⟨_, by rw [get_manageGroupMembers, hhost, Option.map_some], ?_⟩
  exact has_act (hostIds.filter (· = id)) hg

lemma has_added {id now : String} {hostIds : List String} (hid : id ∈ hostIds)
    (hhost : s.hosts.get id = some host) :
    Has (manageGroupMembers true now hostIds s group) id group := by
  refine ⟨_, by rw [get_manageGroupMembers, hhost, Option.map_some], ?_⟩
  have hnamed : id ∈ hostIds.filter (· = id) := List.mem_filter.2 ⟨hid, by simp⟩
  obtain ⟨first, rest, hsplit⟩ := List.exists_cons_of_ne_nil (List.ne_nil_of_mem hnamed)
  rw [hsplit, List.foldl_cons]
  exact has_act rest exists_join

/-! ## Deleting a group -/

/-- Deleting a group takes it from the groups and its id from every host, and leaves the rest. -/
lemma get_deleteHostGroup {id : String} (h : s.groups.contains id = true) :
    (deleteHostGroup s id).groups = s.groups.erase id
      ∧ ∀ hostId, (deleteHostGroup s id).hosts.get hostId
        = (s.hosts.get hostId).map fun host => host.leave (.str id) := by
  rw [deleteHostGroup, if_pos h]
  refine ⟨rfl, fun hostId => ?_⟩
  rw [Dict.get_mapValues]
  congr 1
  funext host
  split
  · rfl
  · next hno =>
    have hkeep : host.groups.filter (fun g => !g.eq (.str id)) = host.groups := by
      refine List.filter_eq_self.2 fun g hg => ?_
      rw [Bool.not_eq_true', ← Bool.not_eq_true]
      exact fun heq => hno (List.any_eq_true.2 ⟨g, hg, heq⟩)
    rw [CsHost.leave, hkeep]

lemma mem_leave {id : String} {g : Json} :
    g ∈ (host.leave (.str id)).groups ↔ g ∈ host.groups ∧ g ≠ .str id := by
  rw [CsHost.leave, List.mem_filter, Bool.not_eq_true', ← Bool.not_eq_true, Json.eq_str_iff]

lemma Integrity.deleteHostGroup (id : String) (hs : Integrity s) :
    Integrity (deleteHostGroup s id) := by
  by_cases h : s.groups.contains id = true
  · obtain ⟨hgroups, hhosts⟩ := get_deleteHostGroup h
    refine ⟨?_, ?_⟩
    · intro hostId host hhost g hg
      rw [hhosts, Option.map_eq_some_iff] at hhost
      obtain ⟨before, hbefore, rfl⟩ := hhost
      obtain ⟨hold, hne⟩ := mem_leave.1 hg
      obtain ⟨gid, rfl, hgid⟩ := hs.named hostId before hbefore g hold
      refine ⟨gid, rfl, ?_⟩
      rw [hgroups, Dict.contains, Dict.get_erase_ne _ fun heq => hne (by rw [heq])]
      exact hgid
    · intro hostId host hhost
      rw [hhosts, Option.map_eq_some_iff] at hhost
      obtain ⟨before, hbefore, rfl⟩ := hhost
      exact (hs.once hostId before hbefore).filter _
  · rw [HostGroups.deleteHostGroup, if_neg h]
    exact hs

/-! ## Runs -/

lemma Integrity.createHostGroups {now : String} {resources : List (String × Object)}
    (hs : Integrity s) : Integrity (createHostGroups now resources s) := by
  refine ⟨fun id host hhost g hg => ?_, hs.once⟩
  obtain ⟨gid, rfl, hgid⟩ := hs.named id host hhost g hg
  refine ⟨gid, rfl, ?_⟩
  rw [HostGroups.createHostGroups]
  refine List.foldlRecOn (motive := fun groups : Dict String Object => groups.contains gid = true)
    resources _ hgid ?_
  rintro groups h ⟨made, body⟩ -
  rw [Dict.contains, Dict.get_set]
  split_ifs
  · rfl
  · exact h

/-- A host is added to groups that exist only, or no host that exists is. -/
def KnownGroups (py : Python) (s : Store δ) : Action → Prop
  | .act name _ body => ∀ groups hosts, readAction py name body = .ok (true, groups, hosts) →
    (∀ g ∈ groups, Names s g) ∨ ∀ id ∈ hosts, s.hosts.get id = none
  | _ => True

lemma Integrity.manageAll {adds : Bool} {now : String} {groups : List Json}
    {hostIds : List String}
    (h : (adds = true → ∀ g ∈ groups, Names s g) ∨ ∀ id ∈ hostIds, s.hosts.get id = none)
    (hs : Integrity s) :
    Integrity (groups.foldl (HostGroups.manageGroupMembers adds now hostIds) s) := by
  induction groups generalizing s with
  | nil => exact hs
  | cons g rest ih =>
    rw [List.foldl_cons]
    apply ih
    · refine h.imp (fun hnames hadds g' hg' => ?_) fun hnone id hid => ?_
      · exact hnames hadds g' (List.mem_cons_of_mem g hg')
      · rw [get_manageGroupMembers, hnone id hid, Option.map_none]
    · exact hs.manageGroupMembers (h.imp_left fun hnames hadds =>
        hnames hadds g List.mem_cons_self)

/-- The step of a request that is as the condition has it. -/
lemma Integrity.step {a : Action} (hknown : KnownGroups py s a) (hs : Integrity s) :
    Integrity (step py s a) := by
  cases a with
  | create drawn now body =>
    rw [HostGroups.step, handle]
    split
    · exact hs.createHostGroups
    · exact hs
  | delete ids =>
    change Integrity (ids.foldl HostGroups.deleteHostGroup s)
    induction ids generalizing s with
    | nil => exact hs
    | cons id rest ih => exact ih (hs.deleteHostGroup id) trivial
  | act name now body =>
    rw [HostGroups.step, handle]
    split
    · next adds groups hosts hread =>
      refine hs.manageAll ?_
      cases adds with
      | true => exact (hknown groups hosts hread).imp_left fun hnames _ => hnames
      | false => exact .inl nofun
    · exact hs

/-- Adding hosts to groups leaves the groups, and every host that is named has all of them. -/
lemma has_of_added {groups : List Json} {hosts : List String} {now id : String}
    (hid : id ∈ hosts) (hhost : s.hosts.get id = some host) :
    (groups.foldl (manageGroupMembers true now hosts) s).groups = s.groups
      ∧ ∀ g ∈ groups, Has (groups.foldl (manageGroupMembers true now hosts) s) id g := by
  have hkeeps : ∀ (groups : List Json) (s : Store δ) (g : Json), Has s id g →
      Has (groups.foldl (manageGroupMembers true now hosts) s) id g := by
    intro groups
    induction groups with
    | nil => exact fun s g h => h
    | cons g' rest ih => exact fun s g h => ih _ g h.add
  induction groups generalizing s host with
  | nil => exact ⟨rfl, fun g hg => absurd hg List.not_mem_nil⟩
  | cons g rest ih =>
    have hadded : Has (manageGroupMembers true now hosts s g) id g := has_added hid hhost
    obtain ⟨after, hafter, -⟩ := hadded
    obtain ⟨hgroups, hall⟩ := ih hafter
    refine ⟨hgroups, ?_⟩
    intro g' hg'
    rcases List.mem_cons.1 hg' with rfl | hg'
    · exact hkeeps rest _ g' (has_added hid hhost)
    · exact hall g' hg'

/-- What a step leaves in order, it did as the condition has it. -/
lemma knownGroups_of_integrity {a : Action} (h : Integrity (step py s a)) : KnownGroups py s a := by
  cases a with
  | create => trivial
  | delete => trivial
  | act name now body =>
    intro groups hosts hread
    have hstep : step py s (.act name now body)
        = groups.foldl (manageGroupMembers true now hosts) s := by
      rw [step, handle, hread]
    rw [hstep] at h
    rw [or_iff_not_imp_right]
    intro hsome g hg
    simp only [not_forall] at hsome
    obtain ⟨id, hid, hhost⟩ := hsome
    obtain ⟨host, hhost⟩ := Option.ne_none_iff_exists'.1 hhost
    obtain ⟨hgroups, hall⟩ := has_of_added hid hhost
    obtain ⟨after, hafter, g', hg', hsame⟩ := hall g hg
    obtain ⟨gid, rfl, hgid⟩ := h.named id after hafter g' hg'
    rw [hgroups] at hgid
    rcases hsame with rfl | heq
    · exact ⟨gid, rfl, hgid⟩
    · exact ⟨gid, Json.str_eq_iff.1 heq, hgid⟩

/-- A store with one host, which is in no group. -/
def oneHost : Store Unit where
  groups := .empty
  hosts := Dict.empty.set "h" ⟨[], "", ()⟩

lemma integrity_oneHost : Integrity oneHost := by
  have hhost : ∀ id host, oneHost.hosts.get id = some host → host.groups = [] := by
    intro id host h
    rw [oneHost, Dict.get_set] at h
    split_ifs at h
    · cases h
      rfl
    · cases h
  refine ⟨fun id host h g hg => ?_, fun id host h => ?_⟩
  · rw [hhost id host h] at hg
    cases hg
  · rw [hhost id host h]
    exact List.nodup_nil

/-- Adding a host to a group. -/
def join (group : String) : Action :=
  .act "add-hosts" "now" [("ids", .list [.str group]),
    ("action_parameters", .list [.dict [("name", .str "filter"),
      ("value", .str "device_id:'h'")]])]

end HostGroups

end Mockdr
