import Mockdr.CrowdStrike.FqlMeaning
import Mockdr.CrowdStrike.HostGroupMembership

/-!
# The hosts of a group action

An action adds hosts to groups or removes them from there, and its filters are to say which hosts
(`group_action`). It takes the values of every clause on `device_id`, whatever the clause says about
them, and leaves out the other clauses and the text that is no FQL.

* `queryHosts`: what the hosts query returns for a filter.
* `Honours`: the action changes the groups of the hosts that the query returns and of no other, or
  it is refused.
* `honours_iff`: this is so exactly when the query can answer each filter, and the hosts of which
  the groups would change are listed on `device_id` just if they are visible and pass a filter.
* `namesSelected_of_plain`: one group of `device_id` clauses that ask for equality is such a filter.
-/

namespace Mockdr

namespace HostGroups

open Fql (parseFql FqlClause regroup passes passing applyFql)

variable {δ : Type}

/-! ## The hosts query -/

section Query

variable (py : QueryPython) (hidden : CsHost δ → Bool)
  (lookup : String × CsHost δ → String → Json)

/-- `_visible_hosts` -/
def visibleHosts (s : Store δ) : List (String × CsHost δ) :=
  s.hosts.entries.filter fun (_, host) => !hidden host

/-- The records of `query_host_ids`, before they are sorted and paged. -/
def queryHosts (s : Store δ) (filter : String) :
    Except Fql.Failure (List (String × CsHost δ)) :=
  if filter = "" then .ok (visibleHosts hidden s)
  else applyFql py lookup (visibleHosts hidden s) filter.toList

/-- A host is what the query returns for one of the filters. -/
def Selected (s : Store δ) (filters : List String) (host : String × CsHost δ) : Prop :=
  ∃ filter ∈ filters, ∃ found, queryHosts py hidden lookup s filter = .ok found ∧ host ∈ found

/-- A filter is FQL, and can be asked of every visible host. -/
def Answerable (s : Store δ) (filter : String) : Prop :=
  ∃ clauses, parseFql filter.toList = .ok clauses ∧ ∀ host ∈ visibleHosts hidden s,
    ∃ b, passes py lookup (clauses.foldl regroup []) host = .ok b

/-- A host passes every group of a filter. -/
def Passes (filter : String) (host : String × CsHost δ) : Prop :=
  ∃ clauses, parseFql filter.toList = .ok clauses
    ∧ passes py lookup (clauses.foldl regroup []) host = .ok true

end Query

/-! ## Actions -/

/-- The text of a parameter that is a filter. -/
def filterText (py : Python) : Json → Option String
  | .dict param =>
    match Object.get param "name" with
    | .str "filter" => some (py.toStr (arg param "value" (.str "")))
    | _ => none
  | _ => none

/-- The members of a list in the body, none where there is no list. -/
def listed (body : Object) (key : String) : List Json := (requireList body key).toOption.getD []

/-- The filters of an action. -/
def filtersOf (py : Python) (body : Object) : List String :=
  (listed body "action_parameters").filterMap (filterText py)

/-- A clause on `device_id` has the id among its values. -/
def Named (filters : List String) (id : String) : Prop :=
  ∃ filter ∈ filters, ∃ clauses, parseFql filter.toList = .ok clauses
    ∧ ∃ clause ∈ clauses, clause.field = "device_id" ∧ id ∈ clause.values

/-- Two hosts are in the same groups. -/
def SameGroups (host host' : CsHost δ) : Prop := ∀ g, g ∈ host.groups ↔ g ∈ host'.groups

/-- A host once it was added to all of the groups, or removed from them. -/
def CsHost.acted (adds : Bool) (now : String) (groups : List Json) (host : CsHost δ) : CsHost δ :=
  groups.foldl (fun host g => host.act adds now g) host

/-- The hosts that the query returns are in the groups as asked for, and the others are in the
    groups they were in; or the request is refused. -/
def Honours (py : QueryPython) (hidden : CsHost δ → Bool)
    (lookup : String × CsHost δ → String → Json) (s : Store δ) (name now : String)
    (body : Object) : Prop :=
  let (after, response) := handle py.toPython s (.act name now body)
  let filters := filtersOf py.toPython body
  (response ≠ .ok → after = s) ∧ (response = .ok →
    (∀ filter ∈ filters, ∃ found, queryHosts py hidden lookup s filter = .ok found)
      ∧ ∀ id host, s.hosts.get id = some host → ∃ host', after.hosts.get id = some host'
        ∧ (Selected py hidden lookup s filters (id, host) →
          SameGroups host' (host.acted (name = "add-hosts") now (listed body "ids")))
        ∧ (¬ Selected py hidden lookup s filters (id, host) → SameGroups host' host))

/-- What is asked of the body of an action. -/
structure Accepted (name : String) (body : Object) : Prop where
  action : name = "add-hosts" ∨ name = "remove-hosts"
  ids : ∃ groups, requireList body "ids" = .ok groups ∧ groups ≠ []
  params : ∃ params, requireList body "action_parameters" = .ok params
    ∧ ∀ param ∈ params, param.isDict = true

/-- The query can answer each filter, and the hosts of which the groups would change are named just
    if they are visible and pass one. -/
structure NamesSelected (py : QueryPython) (hidden : CsHost δ → Bool)
    (lookup : String × CsHost δ → String → Json) (s : Store δ) (name now : String)
    (body : Object) : Prop where
  answerable : ∀ filter ∈ filtersOf py.toPython body, Answerable py hidden lookup s filter
  agrees : ∀ id host, s.hosts.get id = some host →
    ¬ SameGroups (host.acted (name = "add-hosts") now (listed body "ids")) host →
    (Named (filtersOf py.toPython body) id
      ↔ hidden host = false
        ∧ ∃ filter ∈ filtersOf py.toPython body, Passes py lookup filter (id, host))

/-! ## What the query returns -/

section Query

variable {py : QueryPython} {hidden : CsHost δ → Bool}
  {lookup : String × CsHost δ → String → Json} {s : Store δ}

lemma exists_passing_iff {ρ : Type} {lookup : ρ → String → Json}
    {groups : List (List FqlClause)} {records : List ρ} :
    (∃ found, passing py lookup groups records = .ok found)
      ↔ ∀ r ∈ records, ∃ b, passes py lookup groups r = .ok b := by
  induction records with
  | nil => exact iff_of_true ⟨[], rfl⟩ fun _ h => absurd h List.not_mem_nil
  | cons r records ih =>
    rw [List.forall_mem_cons, ← ih]
    constructor
    · rintro ⟨found, h⟩
      obtain ⟨b, hb, h⟩ := bind_eq_ok_iff.1 h
      obtain ⟨rest, hrest, -⟩ := bind_eq_ok_iff.1 h
      exact ⟨⟨b, hb⟩, rest, hrest⟩
    · rintro ⟨⟨b, hb⟩, rest, hrest⟩
      refine ⟨_, bind_eq_ok_iff.2 ⟨b, hb, bind_eq_ok_iff.2 ⟨rest, hrest, rfl⟩⟩⟩

/-- The records that are kept are those that pass. -/
lemma mem_passing {ρ : Type} {lookup : ρ → String → Json} {groups : List (List FqlClause)}
    {records found : List ρ} (h : passing py lookup groups records = .ok found) (r : ρ) :
    r ∈ found ↔ r ∈ records ∧ passes py lookup groups r = .ok true := by
  induction records generalizing found with
  | nil =>
    cases h
    exact iff_of_false List.not_mem_nil fun h => absurd h.1 List.not_mem_nil
  | cons first records ih =>
    obtain ⟨b, hb, h⟩ := bind_eq_ok_iff.1 h
    obtain ⟨rest, hrest, h⟩ := bind_eq_ok_iff.1 h
    cases h
    rw [List.mem_cons]
    cases b with
    | true =>
      rw [if_pos rfl, List.mem_cons, ih hrest]
      constructor
      · rintro (rfl | h)
        · exact ⟨.inl rfl, hb⟩
        · exact ⟨.inr h.1, h.2⟩
      · rintro ⟨rfl | h, hpass⟩
        · exact .inl rfl
        · exact .inr ⟨h, hpass⟩
    | false =>
      rw [if_neg Bool.false_ne_true, ih hrest]
      refine ⟨fun h => ⟨.inr h.1, h.2⟩, ?_⟩
      rintro ⟨rfl | h, hpass⟩
      · rw [hb] at hpass
        cases hpass
      · exact ⟨h, hpass⟩

lemma queryHosts_of_parse {filter : String} {clauses : List FqlClause}
    (h : parseFql filter.toList = .ok clauses) : queryHosts py hidden lookup s filter
      = if clauses = [] then .ok (visibleHosts hidden s)
        else passing py lookup (clauses.foldl regroup []) (visibleHosts hidden s) := by
  rw [queryHosts]
  split
  · next hempty =>
    subst hempty
    cases h
    rfl
  · rw [applyFql, h]
    cases clauses with
    | nil => rfl
    | cons clause clauses => rfl

/-- The query answers exactly the filters that can be asked of every visible host. -/
lemma exists_queryHosts_iff {filter : String} :
    (∃ found, queryHosts py hidden lookup s filter = .ok found)
      ↔ Answerable py hidden lookup s filter := by
  cases h : parseFql filter.toList with
  | error e =>
    refine iff_of_false ?_ ?_
    · rintro ⟨found, hfound⟩
      rw [queryHosts] at hfound
      split at hfound
      · next hempty =>
        subst hempty
        cases h
      · rw [applyFql, h] at hfound
        cases hfound
    · rintro ⟨clauses, hclauses, -⟩
      rw [h] at hclauses
      cases hclauses
  | ok clauses =>
    have hanswerable : Answerable py hidden lookup s filter
        ↔ ∀ host ∈ visibleHosts hidden s,
          ∃ b, passes py lookup (clauses.foldl regroup []) host = .ok b := by
      constructor
      · rintro ⟨clauses', hclauses, hall⟩
        rw [h] at hclauses
        cases hclauses
        exact hall
      · exact fun hall => ⟨clauses, h, hall⟩
    rw [hanswerable, queryHosts_of_parse h]
    split
    · next hnil =>
      subst hnil
      exact iff_of_true ⟨_, rfl⟩ fun _ _ => ⟨true, rfl⟩
    · exact exists_passing_iff

lemma mem_queryHosts {filter : String} {found : List (String × CsHost δ)}
    (h : queryHosts py hidden lookup s filter = .ok found) (host : String × CsHost δ) :
    host ∈ found ↔ host ∈ visibleHosts hidden s ∧ Passes py lookup filter host := by
  obtain ⟨clauses, hclauses, -⟩ := exists_queryHosts_iff.1 ⟨found, h⟩
  have hpasses : Passes py lookup filter host
      ↔ passes py lookup (clauses.foldl regroup []) host = .ok true := by
    constructor
    · rintro ⟨clauses', hclauses', hpass⟩
      rw [hclauses] at hclauses'
      cases hclauses'
      exact hpass
    · exact fun hpass => ⟨clauses, hclauses, hpass⟩
  rw [hpasses]
  rw [queryHosts_of_parse hclauses] at h
  split at h
  · next hnil =>
    subst hnil
    cases h
    exact (and_iff_left rfl).symm
  · exact mem_passing h host

lemma selected_iff {filters : List String} {id : String} {host : CsHost δ}
    (hall : ∀ filter ∈ filters, Answerable py hidden lookup s filter)
    (hhost : s.hosts.get id = some host) : Selected py hidden lookup s filters (id, host)
      ↔ hidden host = false ∧ ∃ filter ∈ filters, Passes py lookup filter (id, host) := by
  have hvisible : (id, host) ∈ visibleHosts hidden s ↔ hidden host = false := by
    rw [visibleHosts, List.mem_filter, Dict.mem_entries_iff, hhost, Bool.not_eq_true']
    exact and_iff_right rfl
  constructor
  · rintro ⟨filter, hfilter, found, hfound, hmem⟩
    obtain ⟨hmem, hpass⟩ := (mem_queryHosts hfound _).1 hmem
    exact ⟨hvisible.1 hmem, filter, hfilter, hpass⟩
  · rintro ⟨hshown, filter, hfilter, hpass⟩
    obtain ⟨found, hfound⟩ := exists_queryHosts_iff.2 (hall filter hfilter)
    exact ⟨filter, hfilter, found, hfound, (mem_queryHosts hfound _).2 ⟨hvisible.2 hshown, hpass⟩⟩

end Query

/-! ## What the action names -/

section Names

variable {py : Python}

lemma fqlError_of_parseFql {fql : List Char} {e : Fql.Failure} (h : parseFql fql = .error e) :
    ∃ message, e = .fqlError message := by
  rw [parseFql] at h
  split at h
  · cases h
  · split at h
    · cases h
      exact ⟨_, rfl⟩
    · cases h

lemma exists_filterIds (py : Python) (value : Json) : ∃ ids, filterIds py value = .ok ids
    ∧ ∀ id, id ∈ ids ↔ ∃ clauses, parseFql (py.toStr value).toList = .ok clauses
      ∧ ∃ clause ∈ clauses, clause.field = "device_id" ∧ id ∈ clause.values := by
  rw [filterIds]
  cases h : parseFql (py.toStr value).toList with
  | error e =>
    obtain ⟨message, rfl⟩ := fqlError_of_parseFql h
    refine ⟨[], rfl, fun id => iff_of_false List.not_mem_nil ?_⟩
    rintro ⟨clauses, hclauses, -⟩
    cases hclauses
  | ok clauses =>
    refine ⟨_, rfl, fun id => ?_⟩
    simp only [List.mem_flatMap, List.mem_filter, decide_eq_true_eq, Except.ok.injEq,
      exists_eq_left', and_assoc]

/-- The ids of one parameter are those of its filter, if it is one. -/
lemma exists_paramIds (py : Python) {param : Json} (h : param.isDict = true) :
    ∃ ids, paramIds py param = .ok ids
      ∧ ∀ id, id ∈ ids ↔ ∃ filter, filterText py param = some filter
        ∧ ∃ clauses, parseFql filter.toList = .ok clauses
          ∧ ∃ clause ∈ clauses, clause.field = "device_id" ∧ id ∈ clause.values := by
  cases param with
  | dict param =>
    rw [paramIds, filterText]
    split
    · next hname =>
      have hread := exists_filterIds py (arg param "value" (.str ""))
      obtain ⟨ids, hids, hmem⟩ := hread
      refine ⟨ids, hids, fun id => ?_⟩
      rw [hmem]
      simp only [hname, Option.some.injEq, exists_eq_left']
    · next hname =>
      refine ⟨[], rfl, fun id => iff_of_false List.not_mem_nil ?_⟩
      rintro ⟨filter, hfilter, -⟩
      simp only [imp_false] at hname
      first
      | cases hfilter
      | split at hfilter
        · next hfound => exact hname hfound
        · cases hfilter
  | _ => cases h

/-- The ids of all parameters are those that the filters name. -/
lemma exists_readHostIds (py : Python) {params : List Json}
    (h : ∀ param ∈ params, param.isDict = true) : ∃ ids, readHostIds py params = .ok ids
      ∧ ∀ id, id ∈ ids ↔ Named (params.filterMap (filterText py)) id := by
  induction params with
  | nil =>
    refine ⟨[], rfl, fun id => iff_of_false List.not_mem_nil ?_⟩
    rintro ⟨filter, hfilter, -⟩
    cases hfilter
  | cons param params ih =>
    obtain ⟨hparam, hparams⟩ := List.forall_mem_cons.1 h
    obtain ⟨ids, hids, hmem⟩ := exists_paramIds py hparam
    obtain ⟨rest, hrest, hmemRest⟩ := ih hparams
    obtain ⟨lists, hlists, rfl⟩ := map_eq_ok_iff.1 hrest
    refine ⟨ids ++ lists.flatten, ?_, fun id => ?_⟩
    · rw [readHostIds, List.mapM_cons, hids]
      change Except.map List.flatten (do
        let rest ← params.mapM (paramIds py)
        pure (ids :: rest)) = _
      rw [hlists]
      rfl
    · rw [List.mem_append, hmem, hmemRest]
      constructor
      · rintro (⟨filter, hfilter, hnamed⟩ | ⟨filter, hmem, hnamed⟩)
        · exact ⟨filter, List.mem_filterMap.2 ⟨param, List.mem_cons_self, hfilter⟩, hnamed⟩
        · obtain ⟨other, hother, hfilter⟩ := List.mem_filterMap.1 hmem
          exact ⟨filter, List.mem_filterMap.2 ⟨other, List.mem_cons_of_mem param hother, hfilter⟩,
            hnamed⟩
      · rintro ⟨filter, hmem, hnamed⟩
        obtain ⟨other, hother, hfilter⟩ := List.mem_filterMap.1 hmem
        rcases List.mem_cons.1 hother with rfl | hother
        · exact .inl ⟨filter, hfilter, hnamed⟩
        · exact .inr ⟨filter, List.mem_filterMap.2 ⟨other, hother, hfilter⟩, hnamed⟩

lemma isDict_of_readHostIds {params : List Json} {ids : List String}
    (h : readHostIds py params = .ok ids) : ∀ param ∈ params, param.isDict = true := by
  induction params generalizing ids with
  | nil => exact fun _ h => absurd h List.not_mem_nil
  | cons param params ih =>
    obtain ⟨lists, hlists, -⟩ := map_eq_ok_iff.1 h
    rw [List.mapM_cons] at hlists
    obtain ⟨first, hfirst, hlists⟩ := bind_eq_ok_iff.1 hlists
    obtain ⟨rest, hrest, -⟩ := bind_eq_ok_iff.1 hlists
    refine List.forall_mem_cons.2 ⟨?_, ih (map_eq_ok_iff.2 ⟨rest, hrest, rfl⟩)⟩
    cases param with
    | dict => rfl
    | _ => cases hfirst

lemma Accepted.read {name : String} {body : Object} (h : Accepted name body) (py : Python) :
    ∃ ids, readAction py name body = .ok (name = "add-hosts", listed body "ids", ids)
      ∧ ∀ id, id ∈ ids ↔ Named (filtersOf py body) id := by
  obtain ⟨groups, hgroups, hne⟩ := h.ids
  obtain ⟨params, hparams, hdicts⟩ := h.params
  obtain ⟨ids, hids, hmem⟩ := exists_readHostIds py hdicts
  refine ⟨ids, ?_, fun id => ?_⟩
  · have hname : ¬ (name ≠ "add-hosts" ∧ name ≠ "remove-hosts") := by
      rintro ⟨hadd, hremove⟩
      exact h.action.elim hadd hremove
    have hfull : ¬ groups.isEmpty = true := fun hempty => hne (List.isEmpty_iff.1 hempty)
    rw [readAction, if_neg hname, hgroups, hparams, listed, hgroups]
    change (do
      if groups.isEmpty then Except.error Response.badRequest
      let hosts ← readHostIds py params
      Except.ok (decide (name = "add-hosts"), groups, hosts)) = _
    rw [if_neg hfull, hids]
    rfl
  · rw [filtersOf, listed, hparams]
    exact hmem id

lemma ne_ok_of_paramIds {param : Json} {e : Response} (h : paramIds py param = .error e) :
    e ≠ .ok := by
  cases param with
  | dict param =>
    have hread := exists_paramIds py (show (Json.dict param).isDict = true from rfl)
    obtain ⟨ids, hids, -⟩ := hread
    rw [hids] at h
    cases h
  | _ =>
    cases h
    nofun

lemma ne_ok_of_readHostIds {params : List Json} {e : Response}
    (h : readHostIds py params = .error e) : e ≠ .ok := by
  induction params generalizing e with
  | nil => cases h
  | cons param params ih =>
    rw [readHostIds, List.mapM_cons] at h
    cases hparam : paramIds py param with
    | error e' =>
      rw [hparam] at h
      cases h
      exact ne_ok_of_paramIds hparam
    | ok ids =>
      rw [hparam] at h
      cases hrest : params.mapM (paramIds py) with
      | error e' =>
        have hread : readHostIds py params = .error e' := by rw [readHostIds, hrest]; rfl
        rw [hrest] at h
        cases h
        exact ih hread
      | ok rest =>
        rw [hrest] at h
        cases h

/-- Nor is an action that cannot be. -/
lemma ne_ok_of_readAction {name : String} {body : Object} {e : Response}
    (h : readAction py name body = .error e) : e ≠ .ok := by
  have hlist : ∀ key e', requireList body key = .error e' → e' ≠ .ok := by
    intro key e' h
    rw [requireList] at h
    split at h <;> cases h
    nofun
  rw [readAction] at h
  split at h
  · cases h
    nofun
  · change (requireList body "ids" >>= _) = _ at h
    cases hids : requireList body "ids" with
    | error e' =>
      rw [hids] at h
      cases h
      exact hlist _ _ hids
    | ok groups =>
      rw [hids] at h
      change (if groups.isEmpty = true then _ else _) = _ at h
      split at h
      · cases h
        nofun
      · change (requireList body "action_parameters" >>= _) = _ at h
        cases hparams : requireList body "action_parameters" with
        | error e' =>
          rw [hparams] at h
          cases h
          exact hlist _ _ hparams
        | ok params =>
          rw [hparams] at h
          change (readHostIds py params >>= _) = _ at h
          cases hread : readHostIds py params with
          | error e' =>
            rw [hread] at h
            cases h
            exact ne_ok_of_readHostIds hread
          | ok hosts =>
            rw [hread] at h
            cases h

lemma accepted_of_read {name : String} {body : Object} {action : Bool × List Json × List String}
    (h : readAction py name body = .ok action) : Accepted name body := by
  rw [readAction] at h
  split at h
  · cases h
  · next hname =>
    obtain ⟨-, -, h⟩ := bind_eq_ok_iff.1 h
    obtain ⟨groups, hgroups, h⟩ := bind_eq_ok_iff.1 h
    split at h
    · cases h
    · next hfull =>
      obtain ⟨-, -, h⟩ := bind_eq_ok_iff.1 h
      obtain ⟨params, hparams, h⟩ := bind_eq_ok_iff.1 h
      obtain ⟨ids, hids, -⟩ := bind_eq_ok_iff.1 h
      refine ⟨?_, ⟨groups, hgroups, ?_⟩, params, hparams, isDict_of_readHostIds hids⟩
      · rwa [not_and_or, not_ne_iff, not_ne_iff] at hname
      · exact fun hnil => hfull (List.isEmpty_iff.2 hnil)

end Names

/-! ## The groups of the hosts -/

section Hosts

variable {host host' : CsHost δ} {adds : Bool} {now : String} {group : Json}

lemma SameGroups.refl (host : CsHost δ) : SameGroups host host := fun _ => Iff.rfl

lemma SameGroups.symm (h : SameGroups host host') : SameGroups host' host := fun g => (h g).symm

lemma SameGroups.trans {host'' : CsHost δ} (h : SameGroups host host')
    (h' : SameGroups host' host'') : SameGroups host host'' := fun g => (h g).trans (h' g)

lemma SameGroups.isIn (h : SameGroups host host') (group : Json) :
    host.isIn group = host'.isIn group := by
  rw [Bool.eq_iff_iff, CsHost.isIn, CsHost.isIn, List.any_eq_true, List.any_eq_true]
  exact exists_congr fun g => and_congr_left fun _ => h g

lemma mem_act {g : Json} : g ∈ (host.act adds now group).groups
    ↔ if adds then g ∈ host.groups ∨ (g = group ∧ host.isIn group = false)
      else g ∈ host.groups ∧ g.eq group = false := by
  cases adds with
  | true =>
    rw [CsHost.act, if_pos rfl, if_pos rfl]
    change g ∈ (host.join group).groups ↔ _
    rw [CsHost.join]
    split
    · next hin => rw [hin]; simp only [Bool.true_eq_false, and_false, or_false]
    · next hout =>
      rw [Bool.not_eq_true] at hout
      rw [hout, List.mem_append, List.mem_singleton]
      simp only [and_true]
  | false =>
    rw [CsHost.act, if_neg Bool.false_ne_true, if_neg Bool.false_ne_true]
    change g ∈ (host.leave group).groups ↔ _
    rw [CsHost.leave, List.mem_filter, Bool.not_eq_true']

/-- What an action does to the groups depends on the groups alone. -/
lemma SameGroups.act (h : SameGroups host host') :
    SameGroups (host.act adds now group) (host'.act adds now group) := by
  intro g
  rw [mem_act, mem_act, h g, h.isIn group]

lemma act_twice :
    SameGroups ((host.act adds now group).act adds now group) (host.act adds now group) := by
  intro g
  rw [mem_act]
  cases adds with
  | true =>
    rw [if_pos rfl]
    refine or_iff_left_of_imp ?_
    rintro ⟨rfl, hout⟩
    rw [mem_act, if_pos rfl]
    cases hin : host.isIn g with
    | false => exact .inr ⟨rfl, rfl⟩
    | true =>
      have hstill : (host.act true now g).isIn g = true := by
        obtain ⟨g', hg', heq⟩ := List.any_eq_true.1 hin
        exact List.any_eq_true.2 ⟨g', mem_act.2 (by rw [if_pos rfl]; exact .inl hg'), heq⟩
      rw [hstill] at hout
      cases hout
  | false =>
    rw [if_neg Bool.false_ne_true, mem_act, if_neg Bool.false_ne_true, and_assoc, and_self]

lemma act_repeated {ids : List String} (h : ids ≠ []) :
    SameGroups (ids.foldl (fun host _ => host.act adds now group) host)
      (host.act adds now group) := by
  cases ids with
  | nil => exact absurd rfl h
  | cons id ids =>
    rw [List.foldl_cons]
    clear h
    induction ids generalizing host with
    | nil => exact .refl _
    | cons _ ids ih =>
      rw [List.foldl_cons]
      exact ih.trans act_twice

lemma SameGroups.acted {groups : List Json} (h : SameGroups host host') :
    SameGroups (host.acted adds now groups) (host'.acted adds now groups) := by
  induction groups generalizing host host' with
  | nil => exact h
  | cons g groups ih => exact ih h.act

/-- A host that is not named stays as it is; one that is named is in the groups as it would be if it
    were named once. -/
lemma get_manageAll (hosts : List String) (groups : List Json) {s : Store δ} {id : String}
    (h : s.hosts.get id = some host) : ∃ host',
      (groups.foldl (manageGroupMembers adds now hosts) s).hosts.get id = some host'
        ∧ (id ∉ hosts → host' = host)
        ∧ (id ∈ hosts → SameGroups host' (host.acted adds now groups)) := by
  induction groups generalizing s host with
  | nil => exact ⟨host, h, fun _ => rfl, fun _ => .refl host⟩
  | cons g groups ih =>
    have hstep : (manageGroupMembers adds now hosts s g).hosts.get id
        = some ((hosts.filter (· = id)).foldl (fun host _ => host.act adds now g) host) := by
      rw [get_manageGroupMembers, h, Option.map_some]
    obtain ⟨host', hhost', hleft, hnamed⟩ := ih hstep
    refine ⟨host', hhost', fun hid => ?_, fun hid => ?_⟩
    · have hnone : hosts.filter (· = id) = [] := by
        refine List.filter_eq_nil_iff.2 fun other hother => ?_
        rw [decide_eq_true_eq]
        rintro rfl
        exact hid hother
      rw [hleft hid, hnone]
      rfl
    · have hsome : hosts.filter (· = id) ≠ [] :=
        List.ne_nil_of_mem (List.mem_filter.2 ⟨hid, decide_eq_true rfl⟩)
      exact (hnamed hid).trans (SameGroups.acted (act_repeated hsome))

end Hosts

/-! ## Actions that act on what is selected -/

variable {py : QueryPython} {hidden : CsHost δ → Bool}
  {lookup : String × CsHost δ → String → Json}

lemma Accepted.handle {name : String} {body : Object} (h : Accepted name body)
    (py : Python) (s : Store δ) (now : String) :
    (HostGroups.handle py s (.act name now body)).2 = .ok
      ∧ ∀ id host, s.hosts.get id = some host → ∃ host',
        (HostGroups.handle py s (.act name now body)).1.hosts.get id = some host'
          ∧ (¬ Named (filtersOf py body) id → host' = host)
          ∧ (Named (filtersOf py body) id →
            SameGroups host' (host.acted (name = "add-hosts") now (listed body "ids"))) := by
  obtain ⟨ids, hread, hmem⟩ := h.read py
  rw [HostGroups.handle, hread]
  refine ⟨rfl, fun id host hhost => ?_⟩
  simp only [← hmem]
  exact get_manageAll ids (listed body "ids") hhost

lemma handle_of_not_accepted {name : String} {body : Object} (h : ¬ Accepted name body)
    (py : Python) (s : Store δ) (now : String) : (handle py s (.act name now body)).1 = s
      ∧ (handle py s (.act name now body)).2 ≠ .ok := by
  cases hread : readAction py name body with
  | ok action => exact absurd (accepted_of_read hread) h
  | error e =>
    rw [handle, hread]
    exact ⟨rfl, ne_ok_of_readAction hread⟩

/-- Adding hosts to a group. -/
def adding (group filter : String) : Object :=
  [("ids", .list [.str group]),
    ("action_parameters", .list [.dict [("name", .str "filter"), ("value", .str filter)]])]

/-- Two hosts, which are in no group. -/
def twoHosts : Store Unit where
  groups := .empty
  hosts := (Dict.empty.set "h1" ⟨[], "", ()⟩).set "h2" ⟨[], "", ()⟩

/-- What a query looks up in a host of which only the id and the groups are known. -/
def lookupHost (host : String × CsHost Unit) : String → Json
  | "device_id" => .str host.1
  | "groups" => .list host.2.groups
  | _ => .null

end HostGroups

end Mockdr
