import Mathlib
import Mockdr.Lib.Except
import Mockdr.S1.AgentSelection
import Mockdr.Settling.NetworkAsAsked

/-!
# An action selects what the list shows

* `queryOf` spells the filter of an action as the query string of a list: a list as its texts
  between commas, anything else as its text. `SpeltAlike` says which members mean the same so.
* `Passes` is what the members of a filter ask of an agent.
* `resolve_as_listed`: ids are selected as they are; otherwise only agents that pass are selected,
  and they are the ones that the pages of the list show.
-/

namespace Mockdr.S1

open Settling (Network NetworkStatus)

variable (py : AgentPython)

/-! ## Members of a filter -/

/-- The text of a value in a query string. -/
def spelled : Json → String
  | .list vs => ",".intercalate (vs.map py.toStr)
  | v => py.toStr v

/-- A filter as the parameters of a list. -/
def queryOf (rawFilter : Object) : Object :=
  (members rawFilter).map fun p => (p.1, .str (spelled py p.2))

/-- A member that means the same in a query string: not a value without a text, and a list only
    where it names values, none of them with a comma. -/
structure SpeltAlike (spec : FilterSpec) (v : Json) : Prop where
  text : spelled py v = "" → v = .str ""
  list : ∀ vs, v = .list vs →
    (spec.type = .isIn ∨ spec.type = .nin) ∧ ∀ x ∈ vs, ',' ∉ (py.toStr x).toList

/-- What a record has to pass, as `apply_filters` tests it. -/
def passesAll (py : AgentPython) (params : Object) (record : Json) : Bool :=
  agentSpecs.all fun spec => isSkipped (Object.get params spec.param)
    || keepsRecord py.toFilterPython spec (Object.get params spec.param) record

/-- An agent passes every member of a filter. -/
def Passes (rawFilter : Object) (record : Json) : Prop :=
  ∀ spec ∈ agentSpecs, isSkipped (Object.get (members rawFilter) spec.param) = false →
    keepsRecord py.toFilterPython spec (Object.get (members rawFilter) spec.param) record = true

/-- The fields that a spec reads. -/
def FilterSpec.paths (spec : FilterSpec) : List String :=
  match spec.type with
  | .fullText => split '|' spec.field
  | _ => [spec.field]

variable {py} {rawFilter : Object}

lemma get_members_ne_null {k : String} {v : Json} (h : Assoc.get k (members rawFilter) = some v) :
    v ≠ .null := by
  rintro rfl
  have hmem := List.mem_filter.1 (Assoc.mem_of_get h)
  cases hmem.2

lemma get_queryOf (k : String) :
    Object.get (queryOf py rawFilter) k
      = match Assoc.get k (members rawFilter) with
        | some v => .str (spelled py v)
        | none => .null := by
  rw [queryOf, Object.get]
  induction members rawFilter with
  | nil => rfl
  | cons p ps ih =>
    obtain ⟨j, v⟩ := p
    rw [List.map_cons, Assoc.get_cons, Assoc.get_cons]
    by_cases hj : j = k
    · rw [if_pos hj, if_pos hj]
      rfl
    · rw [if_neg hj, if_neg hj]
      exact ih

lemma split_intercalate {texts : List String} (hne : texts ≠ [])
    (hcomma : ∀ s ∈ texts, ',' ∉ s.toList) : split ',' (",".intercalate texts) = texts := by
  have hread : ([','].intercalate (texts.map String.toList)).splitOn ','
      = texts.map String.toList := by
    refine List.splitOn_intercalate ',' ?_ (by simpa using hne)
    intro l hl
    obtain ⟨s, hs, rfl⟩ := List.mem_map.1 hl
    exact hcomma s hs
  have hsep : ",".toList = [','] := rfl
  have hid : String.ofList ∘ String.toList = id := funext fun s => String.ofList_toList
  rw [split, String.toList_intercalate, hsep, hread, List.map_map, hid, List.map_id]

/-! ## One filter -/

lemma wantedValues_spelled {spec : FilterSpec} {v : Json} (h : SpeltAlike py spec v)
    (hne : spelled py v ≠ "") :
    wantedValues py.toFilterPython (.str (spelled py v)) = wantedValues py.toFilterPython v := by
  cases v with
  | list vs =>
    obtain ⟨-, hcomma⟩ := h.list vs rfl
    have hvs : vs.map py.toStr ≠ [] := by
      intro hnil
      rw [spelled, hnil, String.intercalate_nil] at hne
      exact hne rfl
    have hread := split_intercalate hvs fun s hs => by
      obtain ⟨x, hx, rfl⟩ := List.mem_map.1 hs
      exact hcomma x hx
    rw [wantedValues, wantedValues, Python.toStr, spelled, hread, List.map_map]
    · rfl
    · rintro _ ⟨⟩
  | null | bool | int | float | str | dict => rfl

/-- A record passes a member just when it passes its text. -/
lemma keepsRecord_spelled {spec : FilterSpec} {v : Json} (h : SpeltAlike py spec v)
    (hne : spelled py v ≠ "") (hnull : v ≠ .null) (record : Json) :
    keepsRecord py.toFilterPython spec (.str (spelled py v)) record
      = keepsRecord py.toFilterPython spec v record := by
  have hwanted : ∀ fieldValue, isWanted py.toFilterPython spec (.str (spelled py v)) fieldValue
      = isWanted py.toFilterPython spec v fieldValue := by
    intro fieldValue
    rw [isWanted, isWanted, wantedValues_spelled h hne]
  by_cases hlist : ∃ vs, v = .list vs
  · obtain ⟨vs, rfl⟩ := hlist
    rcases (h.list vs rfl).1 with htype | htype
    · simp only [keepsRecord, htype, hwanted]
    · simp only [keepsRecord, htype, hwanted]
  · have htext : py.toStr v = spelled py v := by
      cases v with
      | list vs => exact absurd ⟨vs, rfl⟩ hlist
      | null | bool | int | float | str | dict => rfl
    have hsame : py.toStr (.str (spelled py v)) = py.toStr v := htext.symm
    have hordered : ∀ fieldValue op, ordered py.toFilterPython fieldValue (.str (spelled py v)) op
        = ordered py.toFilterPython fieldValue v op := by
      intro fieldValue op
      have hempty : Json.eq (.str (spelled py v)) (.str "") = Json.eq v (.str "") := by
        rw [Bool.eq_iff_iff, Json.eq_str_iff, Json.eq_str_iff]
        constructor
        · intro heq
          exact absurd (Json.str.inj heq) hne
        · rintro rfl
          exact absurd rfl hne
      simp only [ordered, hempty, hsame]
    cases htype : spec.type with
    | isIn | nin => simp only [keepsRecord, htype, hwanted]
    | eq | contains | bool | between | fullText => simp only [keepsRecord, htype, hsame]
    | range op => simp only [keepsRecord, htype, hordered]
    | dt op => simp only [keepsRecord, htype, targetDt, hsame]

lemma isSkipped_spelled {spec : FilterSpec} {v : Json} (h : SpeltAlike py spec v)
    (hnull : v ≠ .null) : isSkipped (.str (spelled py v)) = isSkipped v := by
  have hempty : Json.eq (.str (spelled py v)) (.str "") = Json.eq v (.str "") := by
    rw [Bool.eq_iff_iff, Json.eq_str_iff, Json.eq_str_iff]
    constructor
    · exact fun heq => h.text (Json.str.inj heq)
    · rintro rfl
      rfl
  simp only [isSkipped, hempty]

lemma keepsRecord_congr {spec : FilterSpec} {raw r r' : Json}
    (h : ∀ path ∈ spec.paths, getNested py.toPython r path = getNested py.toPython r' path) :
    keepsRecord py.toFilterPython spec raw r = keepsRecord py.toFilterPython spec raw r' := by
  cases htype : spec.type with
  | fullText =>
    have hpaths : spec.paths = split '|' spec.field := by simp only [FilterSpec.paths, htype]
    rw [hpaths] at h
    simp only [keepsRecord, htype]
    rw [Bool.eq_iff_iff, List.any_eq_true, List.any_eq_true]
    refine exists_congr fun f => and_congr_right fun hf => ?_
    rw [h f hf]
  | eq | isIn | nin | contains | bool | range | between | dt =>
    have hpaths : spec.paths = [spec.field] := by simp only [FilterSpec.paths, htype]
    have hfield := h spec.field (by rw [hpaths]; exact List.mem_singleton_self _)
    simp only [keepsRecord, htype, hfield]

/-- The records that filters leave are those that pass them. -/
lemma applyFilters_eq_ok {params : Object} {specs : List FilterSpec} {records rows : List Json}
    (h : applyFilters py.toFilterPython records params specs = .ok rows) :
    rows = records.filter fun r => specs.all fun spec =>
      isSkipped (Object.get params spec.param)
        || keepsRecord py.toFilterPython spec (Object.get params spec.param) r := by
  unfold applyFilters at h
  induction specs generalizing records with
  | nil =>
    cases h
    simp
  | cons spec specs ih =>
    rw [List.foldlM_cons] at h
    obtain ⟨left, hleft, h⟩ := bind_eq_ok_iff.1 h
    rw [ih h]
    unfold applySpec at hleft
    cases hskip : isSkipped (Object.get params spec.param) with
    | true =>
      simp only [hskip, if_true] at hleft
      cases hleft
      simp [hskip]
    | false =>
      simp only [hskip, Bool.false_eq_true, if_false] at hleft
      cases hcheck : checkValue py.toFilterPython spec (Object.get params spec.param) with
      | error e =>
        rw [hcheck] at hleft
        cases hleft
      | ok u =>
        rw [hcheck] at hleft
        cases hleft
        simp [List.filter_filter, hskip, Bool.and_comm]

/-! ## Agents -/

variable {n : Network AgentFields} {now : ℚ}

lemma plain_settleAgent (id k : String) :
    ((Settling.settleAgent now n id).agents.get k).map Settling.Agent.plain
      = (n.agents.get k).map Settling.Agent.plain := by
  rcases Settling.settleAgent_cases now n id with ⟨a, ask, ha, -, -, heq⟩ | ⟨-, heq | ⟨-, heq⟩⟩
  · rw [heq]
    by_cases hk : k = id
    · subst hk
      dsimp only
      rw [Dict.get_set_self, ha]
      rfl
    · dsimp only
      rw [Dict.get_set_ne _ _ hk]
  · rw [heq]
  · rw [heq]

lemma foldl_settleAgent_spec (now : ℚ) (ids : List String) (n : Network AgentFields) :
    (ids.foldl (Settling.settleAgent now) n).agents.keys = n.agents.keys
      ∧ ∀ k, ((ids.foldl (Settling.settleAgent now) n).agents.get k).map Settling.Agent.plain
        = (n.agents.get k).map Settling.Agent.plain := by
  induction ids generalizing n with
  | nil => exact ⟨rfl, fun _ => rfl⟩
  | cons id ids ih =>
    obtain ⟨hkeys, hplain⟩ := ih (Settling.settleAgent now n id)
    exact ⟨hkeys.trans (Settling.keys_settleAgent now n id),
      fun k => (hplain k).trans (plain_settleAgent id k)⟩

lemma map_fst_filter {ν : Type} (d : Dict String ν) (p : String → ν → Bool) :
    (d.entries.filter fun e => p e.1 e.2).map Prod.fst
      = d.keys.filter fun k => (d.get k).any (p k) := by
  rw [Dict.keys, List.filter_map]
  congr 1
  refine List.filter_congr fun e he => ?_
  rw [Function.comp_apply, Dict.mem_entries_iff.1 he, Option.any_some]

lemma ids_filter (n : Network AgentFields) (p : Json → Bool) :
    ((agentRecords py n).filter p).map (fun r => getNested py.toPython r "id")
      = (n.agents.keys.filter fun id =>
        (n.agents.get id).any fun a => p (agentRecord py id a)).map .str := by
  rw [agentRecords, List.filter_map, List.map_map]
  rw [← map_fst_filter n.agents fun id a => p (agentRecord py id a), List.map_map]
  rfl

/-! ## The list -/

lemma get_withoutTags {params : Object} {k : String}
    (hk : k ∉ ["hasTags", "tagsData"]) :
    Object.get (withoutTags params) k = Object.get params k := by
  rw [Object.get, Object.get, withoutTags]
  congr 1
  induction params with
  | nil => rfl
  | cons member params ih =>
    obtain ⟨j, v⟩ := member
    rw [List.filter_cons, Assoc.get_cons]
    by_cases hj : j = k
    · subst hj
      rw [if_pos (decide_eq_true hk), Assoc.get_cons, if_pos rfl, if_pos rfl]
    · rw [if_neg hj, ← ih]
      split_ifs
      · rw [Assoc.get_cons, if_neg hj]
      · rfl

lemma applyQueryOptions_plain {params : Object} (hsort : Object.get params "sortBy" = .null)
    (hskip : Object.get params "skip" = .null) (records : List Json) :
    applyQueryOptions py.toFilterPython records params = (records, (records.length : Int)) := by
  have hstrip : strip "" = "" := rfl
  simp [applyQueryOptions, hsort, hskip, Json.truthy, hstrip]

/-- A list without other options shows the agents that pass the parameters. -/
lemma listed_eq_ok {params : Object} {listing : Listing}
    (hplain : ∀ k ∈ ["hasTags", "tagsData", "sortBy", "skip"], Object.get params k = .null)
    (h : listed py params n = .ok listing) :
    listing.items.Perm ((agentRecords py n).filter (passesAll py params)) := by
  have hhas : Object.get params "hasTags" = .null := hplain _ (.head _)
  have hdata : Object.get params "tagsData" = .null := hplain _ (.tail _ (.head _))
  have htags : applyTagFilters py (agentRecords py n) params = some (agentRecords py n) := by
    rw [applyTagFilters, hhas, hdata]
    rfl
  unfold listed at h
  rw [htags] at h
  obtain ⟨records, hrecords, h⟩ := bind_eq_ok_iff.1 h
  cases hrecords
  obtain ⟨rows, hrows, h⟩ := bind_eq_ok_iff.1 h
  have hsort := (get_withoutTags (by decide)).trans (hplain "sortBy" (by decide))
  have hskip := (get_withoutTags (by decide)).trans (hplain "skip" (by decide))
  simp only [applyQueryOptions_plain hsort hskip] at h
  cases h
  refine (List.mergeSort_perm _ _).trans ?_
  rw [applyFilters_eq_ok hrows]
  have hspec : ∀ spec ∈ agentSpecs, spec.param ∉ ["hasTags", "tagsData"] := by
    decide +kernel
  refine List.Perm.of_eq (List.filter_congr fun r _ => ?_)
  rw [passesAll, Bool.eq_iff_iff, List.all_eq_true, List.all_eq_true]
  refine forall₂_congr fun spec hmem => ?_
  rw [get_withoutTags (hspec spec hmem)]

/-! ## The selection -/

lemma passesAll_members_iff {record : Json} :
    passesAll py (members rawFilter) record = true ↔ Passes py rawFilter record := by
  rw [passesAll, List.all_eq_true, Passes]
  refine forall₂_congr fun spec _ => ?_
  cases isSkipped (Object.get (members rawFilter) spec.param) <;> simp

lemma known_of_refuseUnknownMembers {params : Object} {known : List String} {u : Unit}
    (h : refuseUnknownMembers params known = .ok u) : ∀ p ∈ params, p.1 ∈ known := by
  unfold refuseUnknownMembers at h
  dsimp only at h
  split_ifs at h with hunknown
  rw [ne_eq, not_not] at hunknown
  intro p hp
  by_contra hno
  have hmem : p.1 ∈ ((params.map Prod.fst).filter (· ∉ known)).dedup.mergeSort := by
    rw [List.mem_mergeSort, List.mem_dedup, List.mem_filter]
    exact ⟨List.mem_map_of_mem hp, decide_eq_true hno⟩
  rw [hunknown] at hmem
  cases hmem

/-- A filter that names no ids selects the agents that pass it, if it names members and knows
    them all. -/
lemma resolveAgentFilter_eq_ok {selected : List Json}
    (hids : (Object.get rawFilter "ids").truthy = false)
    (h : resolveAgentFilter py n rawFilter = .ok selected) :
    members rawFilter ≠ []
      ∧ (∀ p ∈ members rawFilter, p.1 ∈ agentSpecs.map (·.param) ++ ["ids"])
      ∧ selected = ((agentRecords py n).filter (passesAll py (members rawFilter))).map
        fun r => getNested py.toPython r "id" := by
  have hnone : ["ids"].find? (fun member => (Object.get rawFilter member).truthy) = none := by
    simp [hids]
  unfold resolveAgentFilter selectIds at h
  simp only [hnone, List.not_mem_nil, not_false_eq_true, decide_true, List.filter_true] at h
  by_cases hempty : (members rawFilter).isEmpty = true
  · rw [if_pos hempty] at h
    cases h
  · rw [if_neg hempty, if_neg hempty] at h
    obtain ⟨u, hknown, h⟩ := bind_eq_ok_iff.1 h
    obtain ⟨rows, hrows, h⟩ := bind_eq_ok_iff.1 h
    cases h
    refine ⟨fun hnil => hempty (by rw [hnil]; rfl), ?_, ?_⟩
    · exact known_of_refuseUnknownMembers hknown
    · rw [applyFilters_eq_ok hrows]
      refine List.map_congr_left fun r hr => ?_
      obtain ⟨e, -, rfl⟩ := List.mem_map.1 (List.mem_filter.1 hr).1
      rfl

lemma get_members_eq_none {k : String}
    (hknown : ∀ p ∈ members rawFilter, p.1 ∈ agentSpecs.map (·.param) ++ ["ids"])
    (hk : k ∉ agentSpecs.map (·.param) ++ ["ids"]) : Assoc.get k (members rawFilter) = none := by
  cases hget : Assoc.get k (members rawFilter) with
  | none => rfl
  | some v => exact absurd (hknown _ (Assoc.mem_of_get hget)) hk

/-- Where every member means the same in a query string, a record passes the filter just when it
    passes the parameters. -/
lemma passesAll_queryOf
    (hspelt : ∀ spec ∈ agentSpecs, ∀ v, Assoc.get spec.param (members rawFilter) = some v →
      SpeltAlike py spec v) (record : Json) :
    passesAll py (queryOf py rawFilter) record = passesAll py (members rawFilter) record := by
  rw [passesAll, passesAll, Bool.eq_iff_iff, List.all_eq_true, List.all_eq_true]
  refine forall₂_congr fun spec hspec => ?_
  rw [get_queryOf]
  cases hget : Assoc.get spec.param (members rawFilter) with
  | none => simp [Object.get, hget, isSkipped]
  | some v =>
    have hv := hspelt spec hspec v hget
    have hnull := get_members_ne_null hget
    have hmember : Object.get (members rawFilter) spec.param = v := by rw [Object.get, hget]; rfl
    rw [hmember]
    dsimp only
    rw [isSkipped_spelled hv hnull]
    by_cases hne : spelled py v = ""
    · rw [hv.text hne]
      simp [isSkipped, Json.eq]
    · rw [keepsRecord_spelled hv hne hnull]

/-! ## Agents that are about to settle -/

/-- Where the filter names `networkStatuses`, no agent is about to settle. -/
def Standing (now : ℚ) (n : Network AgentFields) (rawFilter : Object) : Prop :=
  Object.has (members rawFilter) "networkStatuses" = true → ∀ id,
    ((Settling.settleAll now n).agents.get id).map (·.networkStatus)
      = (n.agents.get id).map (·.networkStatus)

/-- A field that is not the network status is the same of agents that differ in it only. -/
lemma getNested_of_plain {a a' : Settling.Agent NetworkStatus AgentFields} (id : String)
    (hplain : a'.plain = a.plain) {path : String}
    (hpath : (split '.' path).head? ≠ some "networkStatus") :
    getNested py.toPython (agentRecord py id a') path
      = getNested py.toPython (agentRecord py id a) path := by
  obtain ⟨status, updatedAt, other⟩ := a
  obtain ⟨status', updatedAt', other'⟩ := a'
  cases hplain
  rw [getNested, getNested]
  cases hsplit : split '.' path with
  | nil =>
    rw [split, List.map_eq_nil_iff] at hsplit
    exact absurd hsplit (List.splitOn_ne_nil _ _)
  | cons part parts =>
    rw [hsplit, List.head?_cons] at hpath
    have hpart : ¬"networkStatus" = part := fun heq => hpath (by rw [heq])
    have hget : ∀ (v v' : Json) (rest : Object),
        Assoc.get part (("id", .str id) :: ("networkStatus", v) :: rest)
          = Assoc.get part (("id", .str id) :: ("networkStatus", v') :: rest) := by
      intro v v' rest
      rw [Assoc.get_cons, Assoc.get_cons part "networkStatus", if_neg hpart, Assoc.get_cons,
        Assoc.get_cons part "networkStatus", if_neg hpart]
    rw [List.foldl_cons, List.foldl_cons]
    congr 1
    exact congrArg (Option.getD · Json.null) (hget _ _ _)

lemma bytes_prefix_of_split {path part : String} {c : Char}
    (h : (split c path).head? = some part) :
    part.toByteArray.data.toList <+: path.toByteArray.data.toList := by
  obtain ⟨p, ps, hsplit⟩ := List.exists_cons_of_ne_nil (List.splitOn_ne_nil c path.toList)
  have hwhole : [c].intercalate (p :: ps) = path.toList := by
    rw [← hsplit]
    exact List.intercalate_splitOn _
  have hprefix : p <+: [c].intercalate (p :: ps) := by
    cases ps with
    | nil => exact ⟨[], rfl⟩
    | cons q ps => exact ⟨c :: [c].intercalate (q :: ps), rfl⟩
  obtain ⟨rest, hrest⟩ := hprefix
  have hpath : path = String.ofList p ++ String.ofList rest := by
    rw [← String.toList_inj, String.toList_append, String.toList_ofList, String.toList_ofList,
      hrest, hwhole]
  rw [split, hsplit, List.map_cons, List.head?_cons] at h
  rw [← Option.some.inj h, hpath, String.toByteArray_append, ByteArray.data_append,
    Array.toList_append]
  exact List.prefix_append _ _

/-- The only spec that reads the network status is `networkStatuses`. -/
lemma paths_of_ne_networkStatuses : ∀ spec ∈ agentSpecs, spec.param ≠ "networkStatuses" →
    ∀ path ∈ spec.paths, (split '.' path).head? ≠ some "networkStatus" := by
  have hbytes : ∀ spec ∈ agentSpecs, spec.param ≠ "networkStatuses" → ∀ path ∈ spec.paths,
      ¬"networkStatus".toByteArray.data.toList <+: path.toByteArray.data.toList := by
    decide +kernel
  intro spec hspec hparam path hpath hhead
  exact hbytes spec hspec hparam path hpath (bytes_prefix_of_split hhead)

/-- An agent passes the filter after it has settled just when it does before. -/
lemma passesAll_settled (hstand : Standing now n rawFilter) (id : String) :
    (((Settling.settleAll now n).agents.get id).any
        fun a => passesAll py (members rawFilter) (agentRecord py id a))
      = (n.agents.get id).any fun a => passesAll py (members rawFilter) (agentRecord py id a) := by
  have hplain := (foldl_settleAgent_spec now n.agents.keys n).2 id
  rw [← Settling.settleAll] at hplain
  cases hget : n.agents.get id with
  | none =>
    rw [hget, Option.map_none, Option.map_eq_none_iff] at hplain
    rw [hplain]
  | some a =>
    rw [hget, Option.map_some, Option.map_eq_some_iff] at hplain
    obtain ⟨a', hget', hplain⟩ := hplain
    rw [hget', Option.any_some, Option.any_some, passesAll, passesAll, Bool.eq_iff_iff,
      List.all_eq_true, List.all_eq_true]
    refine forall₂_congr fun spec hspec => ?_
    by_cases hnamed : spec.param = "networkStatuses"
    · cases hhas : Object.has (members rawFilter) "networkStatuses" with
      | false =>
        have hnull : Object.get (members rawFilter) spec.param = .null := by
          rw [hnamed, Object.get, Option.isNone_iff_eq_none.1 (Option.isSome_eq_false_iff.1 hhas)]
          rfl
        simp [hnull, isSkipped]
      | true =>
        -- the status is the same too
        have hstatus := hstand hhas id
        rw [hget, hget', Option.map_some, Option.map_some, Option.some_inj] at hstatus
        obtain ⟨status, updatedAt, other⟩ := a
        obtain ⟨status', updatedAt', other'⟩ := a'
        cases hplain
        cases hstatus
        rfl
    · rw [keepsRecord_congr fun path hpath =>
        getNested_of_plain id hplain (paths_of_ne_networkStatuses spec hspec hnamed path hpath)]

/-! ## Pages -/

variable {text : CursorText} {limit : Nat}

/-- The cursor of an agent is written and read back. -/
def CursorsRead (py : AgentPython) (text : CursorText) (ids : List String) : Prop :=
  ∀ id ∈ ids, text.ReadsBack (keysetPayload py.toPython agentCursor (.dict [("id", .str id)]))

/-- The pages of a list whose items have distinct ids give them all. -/
lemma deliversAll_of_ids (hl : 0 < limit) {listing : Listing} {ids : List String}
    (hread : CursorsRead py text ids) (hnodup : ids.Nodup)
    (hitems : (listing.items.map fun r => getNested py.toPython r "id").Perm (ids.map .str)) :
    DeliversAll py.toPython text agentCursor limit listing := by
  have hid : ∀ item ∈ listing.items, ∃ id ∈ ids, getNested py.toPython item "id" = .str id := by
    intro item hitem
    obtain ⟨id, hid, heq⟩ := List.mem_map.1 (hitems.subset (List.mem_map_of_mem hitem))
    exact ⟨id, hid, heq.symm⟩
  have hdistinct : DistinctIds py.toPython listing.items := by
    refine ⟨fun item hitem => ?_, ?_⟩
    · obtain ⟨id, -, heq⟩ := hid item hitem
      rw [heq]
      nofun
    · rw [← List.pairwise_map (f := fun r => getNested py.toPython r "id")]
      exact hitems.nodup_iff.2 (hnodup.map fun _ _ h => Json.str.inj h)
  refine (deliversAll_iff hl hdistinct fun item hitem => ?_).2 ?_
  · obtain ⟨id, hmem, heq⟩ := hid item hitem
    have hpayload : keysetPayload py.toPython agentCursor item
        = keysetPayload py.toPython agentCursor (.dict [("id", .str id)]) := by
      have hbare : getNested py.toPython (.dict [("id", .str id)]) "id" = .str id := rfl
      simp only [keysetPayload, agentCursor, CursorSpec.fieldOfSort, if_true, heq, hbare]
    rw [hpayload]
    exact hread id hmem
  · intro front c rest hsplit _ _
    exact named_of_strings rfl hdistinct
      (fun item hitem => (hid item hitem).imp fun _ h => h.2) hsplit

/-! ## The list and the selection -/

lemma selected_of_empty {selected : List Json} {spec : FilterSpec} (hspec : spec ∈ agentSpecs)
    (htype : spec.type = .isIn)
    (hempty : Assoc.get spec.param (members rawFilter) = some (.list []))
    (hselected : selected = ((agentRecords py n).filter (passesAll py (members rawFilter))).map
      fun r => getNested py.toPython r "id") : selected = [] := by
  have hget : Object.get (members rawFilter) spec.param = .list [] := by
    rw [Object.get, hempty]
    rfl
  have hno : ∀ r, passesAll py (members rawFilter) r = false := by
    intro r
    rw [passesAll, List.all_eq_false]
    refine ⟨spec, hspec, ?_⟩
    rw [hget]
    simp [isSkipped, Json.eq, keepsRecord, htype, isWanted, wantedValues]
  rw [hselected, List.filter_eq_nil_iff.2 fun r _ => by simp [hno r], List.map_nil]

/-- The pages of the list give the agents that pass the filter. -/
lemma pages_of_listed (hl : 0 < limit) (hread : CursorsRead py text n.agents.keys)
    (hknown : ∀ p ∈ members rawFilter, p.1 ∈ agentSpecs.map (·.param) ++ ["ids"])
    (hspelt : ∀ spec ∈ agentSpecs, ∀ v, Assoc.get spec.param (members rawFilter) = some v →
      SpeltAlike py spec v)
    (hstand : Standing now n rawFilter) {listing : Listing}
    (hlisted : listed py (queryOf py rawFilter) (Settling.settleAll now n) = .ok listing) :
    ∃ k pages, follow py.toPython text agentCursor limit none (List.replicate k listing)
        = (pages, true)
      ∧ (pages.flatten.map fun r => getNested py.toPython r "id").Perm
        (((agentRecords py n).filter (passesAll py (members rawFilter))).map
          fun r => getNested py.toPython r "id") := by
  have hplain : ∀ k ∈ ["hasTags", "tagsData", "sortBy", "skip"],
      Object.get (queryOf py rawFilter) k = .null := by
    intro k hk
    have hunknown : ∀ k ∈ ["hasTags", "tagsData", "sortBy", "skip"],
        k ∉ agentSpecs.map (·.param) ++ ["ids"] := by decide +kernel
    rw [get_queryOf, get_members_eq_none hknown (hunknown k hk)]
  have hitems := listed_eq_ok hplain hlisted
  rw [List.filter_congr fun r _ => passesAll_queryOf hspelt r] at hitems
  have hids := hitems.map fun r => getNested py.toPython r "id"
  have hkeys : (Settling.settleAll now n).agents.keys = n.agents.keys :=
    (foldl_settleAgent_spec now n.agents.keys n).1
  rw [ids_filter, hkeys, List.filter_congr fun id _ => passesAll_settled hstand id] at hids
  obtain ⟨k, pages, hfollow, hflat⟩ := deliversAll_of_ids hl
    (fun id hid => hread id (List.mem_of_mem_filter hid)) (n.agents.nodup_keys.filter _) hids
  refine ⟨k, pages, hfollow, ?_⟩
  rw [hflat, ids_filter]
  exact hids

/-- A filter that names ids selects these. Any other is refused, or names a member and selects
    agents that pass it, none by an empty list of values; and where its members mean the same in a
    query string, and no agent is about to settle in what it reads, they are those that the pages
    of the list show, if it answers. -/
theorem resolve_as_listed (py : AgentPython) (text : CursorText) {limit : Nat} (hl : 0 < limit)
    (now : ℚ) (n : Network AgentFields) (hread : CursorsRead py text n.agents.keys)
    (rawFilter : Object) :
    ((Object.get rawFilter "ids").truthy = true →
      resolveAgentFilter py n rawFilter
        = match (Object.get rawFilter "ids").iterate with
          | some ids => .ok ids
          | none => .error .typeError)
    ∧ ((Object.get rawFilter "ids").truthy = false →
      ∀ selected, resolveAgentFilter py n rawFilter = .ok selected →
        members rawFilter ≠ []
        ∧ (∀ v ∈ selected, ∃ id a, v = .str id ∧ n.agents.get id = some a
          ∧ Passes py rawFilter (agentRecord py id a))
        ∧ (∀ spec ∈ agentSpecs, spec.type = .isIn →
          Assoc.get spec.param (members rawFilter) = some (.list []) → selected = [])
        ∧ ((∀ spec ∈ agentSpecs, ∀ v, Assoc.get spec.param (members rawFilter) = some v →
            SpeltAlike py spec v) → Standing now n rawFilter →
          ∀ page, (listAgents py text now (queryOf py rawFilter) none limit n).2 = .ok page →
            ∃ listing k pages,
              listed py (queryOf py rawFilter) (Settling.settleAll now n) = .ok listing
              ∧ follow py.toPython text agentCursor limit none (List.replicate k listing)
                = (pages, true)
              ∧ (pages.flatten.map fun r => getNested py.toPython r "id").Perm selected)) := by
  refine ⟨fun hids => ?_, fun hids selected hresolve => ?_⟩
  · have hfound : ["ids"].find? (fun member => (Object.get rawFilter member).truthy)
        = some "ids" := by
      simp [hids]
    cases hiter : (Object.get rawFilter "ids").iterate with
    | none => simp only [resolveAgentFilter, selectIds, hfound, hiter]
    | some ids => simp only [resolveAgentFilter, selectIds, hfound, hiter]
  · obtain ⟨hne, hknown, rfl⟩ := resolveAgentFilter_eq_ok hids hresolve
    refine ⟨hne, fun v hv => ?_, fun spec hspec htype hempty => ?_, ?_⟩
    · obtain ⟨r, hr, rfl⟩ := List.mem_map.1 hv
      obtain ⟨hmem, hpasses⟩ := List.mem_filter.1 hr
      obtain ⟨⟨id, a⟩, hentry, rfl⟩ := List.mem_map.1 hmem
      exact ⟨id, a, rfl, Dict.mem_entries_iff.1 hentry, passesAll_members_iff.1 hpasses⟩
    · exact selected_of_empty hspec htype hempty rfl
    · intro hspelt hstand page hpage
      cases hlisted : listed py (queryOf py rawFilter) (Settling.settleAll now n) with
      | error e =>
        rw [listAgents, hlisted] at hpage
        cases hpage
      | ok listing =>
        exact ⟨listing, (pages_of_listed hl hread hknown hspelt hstand hlisted).imp
          fun k h => h.imp fun pages h => ⟨rfl, h⟩⟩

/-- The built-ins on ASCII text, with no date readable. -/
def asciiAgentPython : AgentPython where
  toQueryPython := asciiQueryPython
  isdigit s := s ≠ "" && s.toList.all Char.isDigit
  strptime _ _ := none
  fromtimestamp _ := none
  validates _ _ := true
  sorted _ _ records := records
  isoformat _ := ""
  jsonLoads _ := none

/-- An agent at a site. -/
def agentAt (site : String) : Settling.Agent NetworkStatus AgentFields :=
  ⟨.connected, .unreadable "", ⟨"", [("siteId", .str site)]⟩⟩

/-- Two agents at two sites. -/
def twoAgents : Network AgentFields where
  agents := (Dict.empty.set "a" (agentAt "s")).set "b" (agentAt "t")
  requests := .empty
  published := []

/-- A cursor text that is the id of the agent alone. -/
def idText : CursorText where
  encode payload := "c" ++ asciiPython.toStr (Object.get payload "id_value")
  decode text := some (.dict (keysetPayload asciiPython agentCursor
    (.dict [("id", .str (String.ofList (text.toList.drop 1)))])))

/-- A filter that names a site selects what the pages of the list show. -/
theorem resolve_as_listed_site :
    ∃ selected listing k pages,
      resolveAgentFilter asciiAgentPython twoAgents [("siteIds", .list [.str "s"])] = .ok selected
      ∧ follow asciiPython idText agentCursor 1 none (List.replicate k listing) = (pages, true)
      ∧ (pages.flatten.map fun r => getNested asciiPython r "id").Perm selected := by
  have hread : CursorsRead asciiAgentPython idText twoAgents.agents.keys := by
    intro id hid
    have hkeys : twoAgents.agents.keys = ["a", "b"] := by decide
    rw [hkeys, List.mem_cons, List.mem_singleton] at hid
    rcases hid with rfl | rfl
    · exact ⟨rfl, by decide +kernel, by decide +kernel⟩
    · exact ⟨rfl, by decide +kernel, by decide +kernel⟩
  have hresolves : (resolveAgentFilter asciiAgentPython twoAgents
      [("siteIds", .list [.str "s"])]).toBool = true := by decide +kernel
  have hlists : (listAgents asciiAgentPython idText 0
      (queryOf asciiAgentPython [("siteIds", .list [.str "s"])]) none 1 twoAgents).2.toBool
        = true := by decide +kernel
  have hspelt : ∀ spec ∈ agentSpecs, ∀ v,
      Assoc.get spec.param (members [("siteIds", .list [.str "s"])]) = some v →
        SpeltAlike asciiAgentPython spec v := by
    intro spec hspec v hv
    have htype : ∀ spec ∈ agentSpecs, spec.param = "siteIds" → spec.type = .isIn := by
      decide +kernel
    have hmembers : members [("siteIds", .list [.str "s"])]
        = [("siteIds", .list [.str "s"])] := rfl
    rw [hmembers, Assoc.get_cons] at hv
    split_ifs at hv with hparam
    · cases hv
      refine ⟨fun h => absurd h (by decide +kernel), ?_⟩
      rintro vs ⟨⟩
      refine ⟨.inl (htype spec hspec hparam.symm), ?_⟩
      simp only [List.forall_mem_singleton]
      decide +kernel
    · cases hv
  cases hresolve : resolveAgentFilter asciiAgentPython twoAgents
      [("siteIds", .list [.str "s"])] with
  | error e =>
    rw [hresolve] at hresolves
    cases hresolves
  | ok selected =>
    cases hlist : (listAgents asciiAgentPython idText 0
        (queryOf asciiAgentPython [("siteIds", .list [.str "s"])]) none 1 twoAgents).2 with
    | error e =>
      rw [hlist] at hlists
      cases hlists
    | ok page =>
      obtain ⟨-, -, -, hshown⟩ := (resolve_as_listed asciiAgentPython idText Nat.one_pos 0 twoAgents
        hread [("siteIds", .list [.str "s"])]).2 rfl selected hresolve
      obtain ⟨listing, k, pages, -, hfollow, hperm⟩ := hshown hspelt nofun page hlist
      exact ⟨selected, listing, k, pages, rfl, hfollow, hperm⟩

/-- An agent that is named by its id is selected though it is at another site, and the list does not
    show it. -/
theorem named_id_wins :
    resolveAgentFilter asciiAgentPython twoAgents
        [("ids", .list [.str "a"]), ("siteIds", .list [.str "t"])] = .ok [.str "a"]
      ∧ ¬Passes asciiAgentPython [("ids", .list [.str "a"]), ("siteIds", .list [.str "t"])]
        (agentRecord asciiAgentPython "a" (agentAt "s"))
      ∧ ∀ listing, listed asciiAgentPython
          (queryOf asciiAgentPython [("ids", .list [.str "a"]), ("siteIds", .list [.str "t"])])
          twoAgents = .ok listing → listing.items = [] := by
  refine ⟨rfl, fun h => ?_, fun listing h => ?_⟩
  · have hsite : (⟨"siteIds", "siteId", .isIn, false, "string"⟩ : FilterSpec) ∈ agentSpecs := by
      exact List.mem_append_left _ (List.mem_of_getElem? (i := 2) rfl)
    have hkeeps := h _ hsite (by decide +kernel)
    revert hkeeps
    decide +kernel
  · have hplain : ∀ k ∈ ["hasTags", "tagsData", "sortBy", "skip"], Object.get (queryOf
        asciiAgentPython [("ids", .list [.str "a"]), ("siteIds", .list [.str "t"])]) k = .null := by
      simp [queryOf, members, Object.get, Assoc.get]
    have hnone : (agentRecords asciiAgentPython twoAgents).filter (passesAll asciiAgentPython
        (queryOf asciiAgentPython [("ids", .list [.str "a"]), ("siteIds", .list [.str "t"])]))
          = [] := by
      rw [List.filter_eq_nil_iff]
      decide +kernel
    have hitems := listed_eq_ok hplain h
    rw [hnone] at hitems
    exact hitems.eq_nil

end Mockdr.S1
