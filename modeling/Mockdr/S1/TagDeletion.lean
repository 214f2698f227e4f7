import Mathlib
import Mockdr.S1.Tags

/-!
# Deleting tags by a filter

`delete_tags` of `application/tags/commands.py`, with `resolve_scope` of `application/scopes.py`.

* `readFilter` is how the command reads a filter, or refuses it; `Reading.takes` says which tags go;
  `deleteTags` deletes them. `selectedTags_eq`: they are those of `selectedTags`.
* `Satisfies` says what a filter asks of a tag, member by member, and `Exact` that no set of tags is
  deleted from otherwise, nor a filter applied that has a member of no meaning here.
* `deletes_exactly_iff`: that is so exactly for the filters that are refused, and for those whose
  members are all known that are `Plain`, or select nothing as they are read and as they are meant.
-/

namespace Mockdr

namespace Tags

namespace Deletion

/-! ## Scopes -/

/-- `Group`, as far as its path goes. -/
structure Group where
  name : String
  siteId : String
  siteName : String
  accountName : String

/-- `Site`, as far as its path goes. -/
structure Site where
  name : String
  accountName : String

/-- The scopes there are, and the names of the accounts. -/
structure Scopes where
  groups : Dict String Group
  sites : Dict String Site
  accounts : Dict String String

variable {δ : Type} (scopes : Scopes) (py : Python)

/-- `ids[0] if isinstance(ids, list) else str(ids).split(",")[0]` -/
def firstId (ids : Json) : Json :=
  match ids with
  | .list (id :: _) => id
  | ids => .str ((split ',' (py.toStr ids)).headD "")

/-- `repo.get(id)`, nothing where it raises. -/
def byId {ν : Type} (records : Dict String ν) (id : Json) : Option (Option ν) :=
  match id with
  | .str id => some (records.get id)
  | id => (hashed id).map fun _ => none

/-- The path of a group. -/
def Group.path (group : Group) : String :=
  let accountName := if group.accountName = "" then "Global" else group.accountName
  let siteName :=
    if group.siteName = "" then ((scopes.sites.get group.siteId).map Site.name).getD ""
    else group.siteName
  "Global\\" ++ accountName ++ "\\" ++ siteName ++ "\\" ++ group.name

/-- A filter carries a member. -/
def Carries (filter : Object) (name : String) : Prop := (Object.get filter name).truthy = true

instance (filter : Object) (name : String) : Decidable (Carries filter name) :=
  inferInstanceAs (Decidable (_ = true))

/-- `resolve_scope`: the level, the id and the path; nothing where it raises. -/
def resolveScope (filter : Object) : Option (String × Json × String) :=
  if Carries filter "tenant" then some ("global", .str "", "Global")
  else if Carries filter "groupIds" then
    let gid := firstId py (Object.get filter "groupIds")
    (byId scopes.groups gid).map fun group =>
      ("group", gid, (group.map (Group.path scopes)).getD "Global")
  else if Carries filter "siteIds" then
    let sid := firstId py (Object.get filter "siteIds")
    (byId scopes.sites sid).map fun site =>
      ("site", sid,
        (site.map fun s => "Global\\" ++ s.accountName ++ "\\" ++ s.name).getD "Global")
  else if Carries filter "accountIds" then
    let aid := firstId py (Object.get filter "accountIds")
    (byId scopes.accounts aid).map fun account =>
      ("account", aid, (account.map fun name => "Global\\" ++ name).getD "Global")
  else some ("global", .str "", "Global")

/-! ## The command -/

/-- What keeps a filter from being applied: `UnfilterableError` with its text, or what a value of
    another type makes raise, before any tag is deleted. -/
inductive Refusal where
  | unfilterable (message : String)
  | raised

/-- How a filter is read: the ids it names, those it excludes, what it searches for, and the scope
    it is for, if it names one. -/
structure Reading where
  tagIds : List Json
  excluded : List Hash
  query : String
  scope : Option (String × Json)

/-- The members that name a scope. -/
def SCOPE_MEMBERS : List String := ["tenant", "groupIds", "siteIds", "accountIds"]

/-- `set(filter_obj.get("tagIdsExcluded") or [])`, nothing where it raises. -/
def excludedOf (v : Json) : Option (List Hash) :=
  (if v.truthy then v.iterate else some []).bind fun ids => ids.mapM hashed

/-- `str(v or "").lower()` -/
def lowered (v : Json) : String := if v.truthy then py.lower (py.toStr v) else ""

/-- The part of `delete_tags` that reads the filter. Where `tagIds` is of another type, the first
    tag that is not excluded makes it raise. -/
def readFilter (filter : Object) : Except Refusal Reading :=
  if filter.isEmpty then .error (.unfilterable "filter is required")
  else
    match tagIdsOf (Object.get filter "tagIds"), excludedOf (Object.get filter "tagIdsExcluded"),
      resolveScope scopes py filter with
    | some tagIds, some excluded, some (level, scopeId, _) =>
      let query := lowered py (Object.get filter "query")
      let hasScope := SCOPE_MEMBERS.any fun name => (Object.get filter name).truthy
      if tagIds.isEmpty && query = "" && !hasScope then
        .error (.unfilterable ("this install cannot select tags by "
          ++ ", ".intercalate ((filter.map Prod.fst).mergeSort fun a b => a ≤ b)))
      else .ok ⟨tagIds, excluded, query, if hasScope then some (level, scopeId) else none⟩
    | _, _, _ => .error .raised

/-- The text of a tag that is searched. -/
def searched (tag : Tag) : String :=
  lowered py tag.key ++ " " ++ lowered py tag.value ++ " " ++ lowered py tag.description

/-- An id is not passed over. -/
def Reading.takesId (r : Reading) (id : String) : Bool :=
  .text id ∉ r.excluded && (r.tagIds.isEmpty || r.tagIds.any fun v => v.eq (.str id))

/-- A scope is not passed over. -/
def Reading.takesScope (r : Reading) (scopeLevel scopeId : String) : Bool :=
  match r.scope with
  | some (level, id) => !r.tagIds.isEmpty || (scopeLevel = level && id.eq (.str scopeId))
  | none => true

/-- The loop does not pass over a tag. -/
def Reading.takes (r : Reading) (id : String) (tag : Tag) : Bool :=
  r.takesId id && (r.query = "" || hasSub r.query (searched py tag))
    && r.takesScope tag.scopeLevel tag.scopeId

/-- One round of the loop, with the number of tags that are gone. -/
def deleteEach (r : Reading) (p : Store δ × Nat) (tag : String × Tag) : Store δ × Nat :=
  if r.takes py tag.1 tag.2 then
    (deleteTag tag.1 p.1, p.2 + if p.1.tags.contains tag.1 then 1 else 0)
  else p

/-- `delete_tags` -/
def deleteTags (filter : Object) (s : Store δ) : Except Refusal (Store δ × Nat) :=
  (readFilter scopes py filter).map fun r => s.tags.entries.foldl (deleteEach py r) (s, 0)

/-! ## What a filter means -/

/-- An id is among those that a list, or a comma-separated text, names. -/
def Names (v : Json) (id : String) : Prop :=
  match v with
  | .list ids => .str id ∈ ids
  | .dict members => id ∈ members.map Prod.fst
  | v => id ≠ "" ∧ id ∈ split ',' (py.toStr v)

/-- The level of the scopes that a member names. -/
def levelOf : String → String
  | "tenant" => "global"
  | "groupIds" => "group"
  | "siteIds" => "site"
  | _ => "account"

/-- A scope of a level is among those that a member names. -/
def NamesScope (filter : Object) (name level scopeId : String) : Prop :=
  level = levelOf name
    ∧ if name = "tenant" then scopeId = "" else Names py (Object.get filter name) scopeId

/-- A scope is among those that the scope members of a filter ask for, each of them. -/
def AtScope (filter : Object) (level scopeId : String) : Prop :=
  ∀ name ∈ SCOPE_MEMBERS, Carries filter name → NamesScope py filter name level scopeId

/-- An id is among those that a filter asks for. -/
structure Asked (filter : Object) (id : String) : Prop where
  tagIds : Carries filter "tagIds" → Names py (Object.get filter "tagIds") id
  tagIdsExcluded : Carries filter "tagIdsExcluded" →
    ¬ Names py (Object.get filter "tagIdsExcluded") id

/-- A tag satisfies every member that a filter carries. -/
structure Satisfies (filter : Object) (id : String) (tag : Tag) : Prop where
  ids : Asked py filter id
  query : Carries filter "query" →
    hasSub (lowered py (Object.get filter "query")) (searched py tag) = true
  scope : AtScope py filter tag.scopeLevel tag.scopeId

/-- Every member that a filter carries is one that tags are selected by. -/
def Known (filter : Object) : Prop :=
  ∀ name, Carries filter name → name ∈ ["tagIds", "tagIdsExcluded", "query"] ++ SCOPE_MEMBERS

/-- Whatever tags there are, a filter is refused, or it has only members that can be applied, and
    the tags are deleted that satisfy all of them. -/
def Exact (δ : Type) (filter : Object) : Prop :=
  ∀ (s : Store δ), match deleteTags scopes py filter s with
    | .error _ => True
    | .ok (s', _) => Known filter ∧ ∀ id tag, s.tags.get id = some tag →
      (s'.tags.get id = none ↔ Satisfies py filter id tag)
        ∧ (s'.tags.get id = some tag ↔ ¬ Satisfies py filter id tag)

/-! ## What a filter is read as -/

/-- An id is among those that `tagIdsExcluded` is read as, the characters of a text. -/
def Excluded (filter : Object) (id : String) : Prop :=
  ∃ ids, excludedOf (Object.get filter "tagIdsExcluded") = some ids ∧ .text id ∈ ids

/-- There is no scope beside `tagIds`, or one member that names one id. -/
structure OneScope (filter : Object) : Prop where
  alone : Carries filter "tagIds" → ∀ name ∈ SCOPE_MEMBERS, ¬ Carries filter name
  one : ∀ name ∈ SCOPE_MEMBERS, ∀ name' ∈ SCOPE_MEMBERS, Carries filter name →
    Carries filter name' → name = name'
  first : ∀ name ∈ ["groupIds", "siteIds", "accountIds"], Carries filter name → ∀ id,
    Names py (Object.get filter name) id ↔ firstId py (Object.get filter name) = .str id

/-- The filters that are read as they are meant: a carried `tagIds` names an id, `tagIdsExcluded` is
    read as the ids it names, and there is one scope. -/
structure Plain (filter : Object) : Prop extends OneScope py filter where
  tagIds : Carries filter "tagIds" → tagIdsOf (Object.get filter "tagIds") ≠ some []
  excluded : ∀ id, (Carries filter "tagIds" → Names py (Object.get filter "tagIds") id) →
    (Excluded filter id
      ↔ Carries filter "tagIdsExcluded" ∧ Names py (Object.get filter "tagIdsExcluded") id)

/-- A filter selects no tag, neither as it is read nor as it is meant. -/
def Void (filter : Object) : Prop :=
  ∀ r, readFilter scopes py filter = .ok r → ∀ id level scopeId,
    ¬ (r.takesId id = true ∧ r.takesScope level scopeId = true)
      ∧ ¬ (Asked py filter id ∧ AtScope py filter level scopeId)

/-! ## What is deleted -/

variable {scopes py} {filter : Object} {r : Reading}

/-- The loop deletes the tags that it does not pass over. -/
lemma get_foldl_deleteEach (tags : List (String × Tag)) (p : Store δ × Nat) (id : String) :
    ((tags.foldl (deleteEach py r) p).1.tags.get id = none
        ↔ p.1.tags.get id = none ∨ ∃ tag, (id, tag) ∈ tags ∧ r.takes py id tag = true)
      ∧ ∀ tag, (tags.foldl (deleteEach py r) p).1.tags.get id = some tag
        ↔ p.1.tags.get id = some tag ∧ ∀ tag', (id, tag') ∈ tags → r.takes py id tag' = false := by
  induction tags generalizing p with
  | nil => simp
  | cons entry tags ih =>
    obtain ⟨ihnone, ihsome⟩ := ih (deleteEach py r p entry)
    obtain ⟨id', tag'⟩ := entry
    have hget : (deleteEach py r p (id', tag')).1.tags.get id
        = if id = id' ∧ r.takes py id' tag' = true then none else p.1.tags.get id := by
      rw [deleteEach]
      by_cases htakes : r.takes py id' tag' = true
      · rw [if_pos htakes]
        dsimp only [deleteTag]
        rw [Dict.get_erase]
        simp only [htakes, and_true]
      · rw [if_neg htakes, if_neg fun h => htakes h.2]
    rw [List.foldl_cons, ihnone]
    refine ⟨?_, fun tag => ?_⟩
    · rw [hget]
      split_ifs with h
      · obtain ⟨rfl, htakes⟩ := h
        exact iff_of_true (.inl rfl) (.inr ⟨tag', List.mem_cons_self, htakes⟩)
      · apply or_congr Iff.rfl
        constructor
        · rintro ⟨tag, hmem, htakes⟩
          exact ⟨tag, List.mem_cons_of_mem _ hmem, htakes⟩
        · rintro ⟨tag, hmem, htakes⟩
          rcases List.mem_cons.1 hmem with heq | hmem
          · cases heq
            exact absurd ⟨rfl, htakes⟩ h
          · exact ⟨tag, hmem, htakes⟩
    · rw [ihsome, hget]
      split_ifs with h
      · obtain ⟨rfl, htakes⟩ := h
        refine iff_of_false (fun hsome => hsome.1.elim) fun hkept => ?_
        rw [hkept.2 tag' List.mem_cons_self] at htakes
        cases htakes
      · apply and_congr Iff.rfl
        constructor
        · intro hkept tag hmem
          rcases List.mem_cons.1 hmem with heq | hmem
          · cases heq
            exact Bool.eq_false_iff.2 fun htakes => h ⟨rfl, htakes⟩
          · exact hkept tag hmem
        · exact fun hkept tag hmem => hkept tag (List.mem_cons_of_mem _ hmem)

lemma get_deleteTags {s s' : Store δ} {affected : Nat} (hread : readFilter scopes py filter = .ok r)
    (h : deleteTags scopes py filter s = .ok (s', affected)) {id : String} {tag : Tag}
    (hget : s.tags.get id = some tag) :
    (s'.tags.get id = none ↔ r.takes py id tag = true)
      ∧ (s'.tags.get id = some tag ↔ r.takes py id tag = false) := by
  rw [deleteTags, hread] at h
  have hs' : s' = (s.tags.entries.foldl (deleteEach py r) (s, 0)).1 :=
    (congrArg Prod.fst (Except.ok.inj h)).symm
  obtain ⟨hnone, hsome⟩ := @get_foldl_deleteEach δ py r s.tags.entries (s, 0) id
  have hmem : ∀ tag', (id, tag') ∈ s.tags.entries ↔ tag' = tag := by
    intro tag'
    rw [Dict.mem_entries_iff, hget, Option.some.injEq, eq_comm]
  rw [hs', hnone, hsome]
  simp only [hmem, hget, exists_eq_left, forall_eq, reduceCtorEq, false_or, true_and, and_self]

/-- The parts of a filter that is not refused. -/
lemma readFilter_eq_ok (h : readFilter scopes py filter = .ok r) :
    tagIdsOf (Object.get filter "tagIds") = some r.tagIds
      ∧ excludedOf (Object.get filter "tagIdsExcluded") = some r.excluded
      ∧ r.query = lowered py (Object.get filter "query")
      ∧ ((∀ name ∈ SCOPE_MEMBERS, ¬ Carries filter name) ∧ r.scope = none
        ∨ (∃ name ∈ SCOPE_MEMBERS, Carries filter name) ∧ ∃ level id path,
          resolveScope scopes py filter = some (level, id, path) ∧ r.scope = some (level, id)) := by
  rw [readFilter] at h
  split_ifs at h
  cases htagIds : tagIdsOf (Object.get filter "tagIds") with
  | none =>
    rw [htagIds] at h
    cases h
  | some tagIds =>
    cases hexcluded : excludedOf (Object.get filter "tagIdsExcluded") with
    | none =>
      rw [htagIds, hexcluded] at h
      cases h
    | some excluded =>
      cases hscope : resolveScope scopes py filter with
      | none =>
        rw [htagIds, hexcluded, hscope] at h
        cases h
      | some found =>
        obtain ⟨level, id, path⟩ := found
        rw [htagIds, hexcluded, hscope] at h
        dsimp only at h
        split_ifs at h with hnothing hhas
        · cases h
          refine ⟨rfl, rfl, rfl, .inr ⟨?_, level, id, path, rfl, rfl⟩⟩
          obtain ⟨name, hname, hcarries⟩ := List.any_eq_true.1 hhas
          exact ⟨name, hname, hcarries⟩
        · cases h
          refine ⟨rfl, rfl, rfl, .inl ⟨fun name hname hcarries => ?_, rfl⟩⟩
          exact hhas (List.any_eq_true.2 ⟨name, hname, hcarries⟩)

/-- The tags that a filter takes, in the terms of `selectedTags`. -/
lemma selectedTags_eq {tagPy : TagPython} (hlower : tagPy.lower "" = "") {level id path : String}
    (hscope : resolveScope scopes tagPy.toPython filter = some (level, .str id, path))
    (hresolve : tagPy.resolveScope filter = (level, id, path)) (tags : Dict String Tag) :
    selectedTags tagPy filter tags = (readFilter scopes tagPy.toPython filter).toOption.map
      fun r => (tags.entries.filter fun p => r.takes tagPy.toPython p.1 p.2).map Prod.fst := by
  have hlowered : ∀ v : Json,
      tagPy.lower (if v.truthy then tagPy.toStr v else "") = lowered tagPy.toPython v := by
    intro v
    rw [lowered]
    split_ifs
    · rfl
    · exact hlower
  have hexcluded : ∀ (v : Json) (f : List Hash → Option (List String)),
      (if v.truthy then v.iterate.bind fun ids => (ids.mapM hashed).bind f
        else (some []).bind fun ids => (ids.mapM hashed).bind f) = (excludedOf v).bind f := by
    intro v f
    rw [excludedOf, Option.bind_assoc]
    split_ifs <;> rfl
  rw [selectedTags, readFilter, SCOPE_MEMBERS, hscope, hresolve]
  dsimp only
  rw [hlowered (Object.get filter "query")]
  simp only [Option.bind_eq_bind, hexcluded]
  cases hempty : filter.isEmpty with
  | true =>
    rw [if_pos rfl]
    cases tagIdsOf (Object.get filter "tagIds") with
    | none => rfl
    | some tagIds =>
      cases excludedOf (Object.get filter "tagIdsExcluded") <;> rfl
  | false =>
    rw [if_neg Bool.false_ne_true]
    cases tagIdsOf (Object.get filter "tagIds") with
    | none => rfl
    | some tagIds =>
      cases excludedOf (Object.get filter "tagIdsExcluded") with
      | none => rfl
      | some excluded =>
        rw [Option.bind_some, Option.bind_some, Bool.false_or]
        dsimp only
        by_cases hnothing : (tagIds.isEmpty
            && decide (lowered tagPy.toPython (Object.get filter "query") = "")
            && !(["tenant", "groupIds", "siteIds", "accountIds"].any fun name =>
              (Object.get filter name).truthy)) = true
        · rw [if_pos hnothing, if_pos hnothing]
          rfl
        · rw [if_neg hnothing, if_neg hnothing]
          refine congrArg (fun l => some (List.map Prod.fst l)) (List.filter_congr fun p _ => ?_)
          rw [Reading.takes, Reading.takesId, Reading.takesScope, searched, hlowered, hlowered,
            hlowered]
          cases hscoped : ["tenant", "groupIds", "siteIds", "accountIds"].any fun name =>
            (Object.get filter name).truthy with
          | false => rfl
          | true =>
            have hpair : decide ((p.2.scopeLevel, p.2.scopeId) = (level, id))
                = (decide (p.2.scopeLevel = level) && (Json.str id).eq (.str p.2.scopeId)) := by
              rw [Bool.eq_iff_iff, Bool.and_eq_true, decide_eq_true_eq, decide_eq_true_eq,
                Json.eq_str_iff, Prod.mk.injEq, Json.str.injEq, eq_comm (a := id)]
            rw [hpair]
            rfl

/-! ## Ids and scopes -/

/-- Two products of conditions are the same exactly when their factors are, or neither is met. -/
lemma forall_and_iff {α β : Type} {P P' : α → Prop} {Q Q' : β → Prop} :
    (∀ a b, P a ∧ Q b ↔ P' a ∧ Q' b)
      ↔ ((∀ a, P a ↔ P' a) ∧ ∀ b, Q b ↔ Q' b) ∨ ∀ a b, ¬ (P a ∧ Q b) ∧ ¬ (P' a ∧ Q' b) := by
  constructor
  · intro h
    by_cases hsome : ∃ a b, P a ∧ Q b
    · obtain ⟨a₀, b₀, hP, hQ⟩ := hsome
      obtain ⟨hP', hQ'⟩ := (h a₀ b₀).1 ⟨hP, hQ⟩
      left
      constructor
      · intro a
        exact ⟨fun ha => ((h a b₀).1 ⟨ha, hQ⟩).1, fun ha => ((h a b₀).2 ⟨ha, hQ'⟩).1⟩
      · intro b
        exact ⟨fun hb => ((h a₀ b).1 ⟨hP, hb⟩).2, fun hb => ((h a₀ b).2 ⟨hP', hb⟩).2⟩
    · right
      intro a b
      have hnot : ¬ (P a ∧ Q b) := fun hab => hsome ⟨a, b, hab⟩
      exact ⟨hnot, fun hab => hnot ((h a b).2 hab)⟩
  · rintro (⟨hP, hQ⟩ | hnot) a b
    · rw [hP, hQ]
    · exact iff_of_false (hnot a b).1 (hnot a b).2

/-- The ids that `tagIds` is read as are those it names. -/
lemma any_tagIds_iff {v : Json} {ids : List Json} (h : tagIdsOf v = some ids)
    (hv : v.truthy = true) {id : String} :
    (ids.any fun w => w.eq (.str id)) = true ↔ Names py v id := by
  have hmem : (ids.any fun w => w.eq (.str id)) = true ↔ .str id ∈ ids := by
    rw [List.any_eq_true]
    simp only [Json.eq_str_iff, exists_eq_right]
  rw [hmem]
  clear hmem
  unfold tagIdsOf at h
  rw [if_pos hv] at h
  cases v with
  | str text =>
    cases h
    have hnames : Names py (.str text) id ↔ id ≠ "" ∧ id ∈ split ',' text := Iff.rfl
    rw [hnames, List.mem_map]
    constructor
    · rintro ⟨piece, hpiece, heq⟩
      cases heq
      obtain ⟨hmem, hne⟩ := List.mem_filter.1 hpiece
      exact ⟨of_decide_eq_true hne, hmem⟩
    · rintro ⟨hne, hmem⟩
      exact ⟨id, List.mem_filter.2 ⟨hmem, decide_eq_true hne⟩, rfl⟩
  | list values =>
    cases h
    rfl
  | dict members =>
    cases h
    rw [Names, List.mem_map, List.mem_map]
    simp only [Json.str.injEq]
  | _ => cases h

/-- The ids are taken that are asked for, exactly when `tagIds` and `tagIdsExcluded` are read as
    they are meant. -/
lemma takesId_iff (h : readFilter scopes py filter = .ok r) :
    (∀ id, r.takesId id = true ↔ Asked py filter id)
      ↔ (Carries filter "tagIds" → r.tagIds ≠ [])
        ∧ ∀ id, (Carries filter "tagIds" → Names py (Object.get filter "tagIds") id) →
          (Excluded filter id ↔ Carries filter "tagIdsExcluded"
            ∧ Names py (Object.get filter "tagIdsExcluded") id) := by
  obtain ⟨htagIds, hexcluded, -, -⟩ := readFilter_eq_ok h
  have hread : ∀ id, Excluded filter id ↔ .text id ∈ r.excluded := by
    intro id
    rw [Excluded, hexcluded]
    simp only [Option.some.injEq, exists_eq_left']
  have hasked : ∀ id, Asked py filter id
      ↔ (Carries filter "tagIds" → Names py (Object.get filter "tagIds") id)
        ∧ ¬ (Carries filter "tagIdsExcluded"
          ∧ Names py (Object.get filter "tagIdsExcluded") id) := by
    intro id
    rw [not_and]
    exact ⟨fun h => ⟨h.tagIds, h.tagIdsExcluded⟩, fun h => ⟨h.1, h.2⟩⟩
  have htakes : ∀ id, r.takesId id = true ↔ ¬ Excluded filter id
      ∧ (r.tagIds = [] ∨ (r.tagIds.any fun v => v.eq (.str id)) = true) := by
    intro id
    rw [Reading.takesId, Bool.and_eq_true, decide_eq_true_eq, Bool.or_eq_true,
      List.isEmpty_iff, hread]
  by_cases hcarries : Carries filter "tagIds"
  · have hnames : ∀ id, (r.tagIds.any fun v => v.eq (.str id)) = true
        ↔ Names py (Object.get filter "tagIds") id := fun id => any_tagIds_iff htagIds hcarries
    by_cases hnone : r.tagIds = []
    · -- no id is named, and all but finitely many are taken
      refine iff_of_false (fun hall => ?_) fun hplain => hplain.1 hcarries hnone
      obtain ⟨id, hid⟩ := Infinite.exists_notMem_finset
        (r.excluded.filterMap fun | .text id => some id | _ => none).toFinset
      have hin := (hall id).1 ((htakes id).2 ⟨?_, .inl hnone⟩)
      · have hany := (hnames id).2 (((hasked id).1 hin).1 hcarries)
        rw [hnone] at hany
        cases hany
      · rw [hread]
        intro hmem
        exact hid (List.mem_toFinset.2 (List.mem_filterMap.2 ⟨_, hmem, rfl⟩))
    · rw [and_iff_right fun _ => hnone]
      apply forall_congr'
      intro id
      rw [htakes, hasked, or_iff_right hnone, hnames]
      simp only [hcarries, true_imp_iff]
      tauto
  · have hnone : r.tagIds = [] := by
      have hfalsy : ¬ (Object.get filter "tagIds").truthy = true := hcarries
      unfold tagIdsOf at htagIds
      rw [if_neg hfalsy] at htagIds
      exact (Option.some.inj htagIds).symm
    rw [and_iff_right fun hc => absurd hc hcarries]
    apply forall_congr'
    intro id
    rw [htakes, hasked, and_iff_left (.inl hnone)]
    simp only [hcarries, false_imp_iff, true_and, true_imp_iff]
    tauto

lemma levelOf_injective {name name' : String} (h : name ∈ SCOPE_MEMBERS)
    (h' : name' ∈ SCOPE_MEMBERS) (heq : levelOf name = levelOf name') : name = name' := by
  have hall : ∀ name ∈ SCOPE_MEMBERS, ∀ name' ∈ SCOPE_MEMBERS,
      levelOf name = levelOf name' → name = name' := by decide
  exact hall name h name' h' heq

/-- The scope that is resolved is the first that a carried member names. -/
lemma resolveScope_eq {level path : String} {id : Json}
    (h : resolveScope scopes py filter = some (level, id, path))
    (hsome : ∃ name ∈ SCOPE_MEMBERS, Carries filter name) :
    ∃ name ∈ SCOPE_MEMBERS, Carries filter name ∧ level = levelOf name
      ∧ id = if name = "tenant" then .str "" else firstId py (Object.get filter name) := by
  rw [resolveScope] at h
  split_ifs at h with htenant hgroup hsite haccount
  · cases h
    exact ⟨"tenant", by decide, htenant, rfl, rfl⟩
  · obtain ⟨_, -, heq⟩ := Option.map_eq_some_iff.1 h
    cases heq
    exact ⟨"groupIds", by decide, hgroup, rfl, rfl⟩
  · obtain ⟨_, -, heq⟩ := Option.map_eq_some_iff.1 h
    cases heq
    exact ⟨"siteIds", by decide, hsite, rfl, rfl⟩
  · obtain ⟨_, -, heq⟩ := Option.map_eq_some_iff.1 h
    cases heq
    exact ⟨"accountIds", by decide, haccount, rfl, rfl⟩
  · obtain ⟨name, hname, hcarries⟩ := hsome
    simp only [SCOPE_MEMBERS, List.mem_cons, List.not_mem_nil, or_false] at hname
    rcases hname with rfl | rfl | rfl | rfl <;> contradiction

/-- The scopes are taken that are asked for when there is one scope, and only then, unless none is
    taken and none is asked for. -/
lemma takesScope_iff (h : readFilter scopes py filter = .ok r)
    (hids : Carries filter "tagIds" ↔ r.tagIds ≠ []) :
    (OneScope py filter → ∀ level id, r.takesScope level id = true ↔ AtScope py filter level id)
      ∧ ((∀ level id, r.takesScope level id = true ↔ AtScope py filter level id) →
        OneScope py filter
          ∨ ∀ level id, ¬ r.takesScope level id = true ∧ ¬ AtScope py filter level id) := by
  obtain ⟨-, -, -, hscope⟩ := readFilter_eq_ok h
  rcases hscope with ⟨hnone, hread⟩ | ⟨hsome, level₀, id₀, path, hresolve, hread⟩
  · -- no scope is named
    have hall : ∀ level id, r.takesScope level id = true ↔ AtScope py filter level id := by
      intro level id
      rw [Reading.takesScope, hread]
      exact iff_of_true rfl fun name hname hcarries => absurd hcarries (hnone name hname)
    refine ⟨fun _ => hall, fun _ => .inl ⟨fun _ => hnone, ?_, ?_⟩⟩
    · exact fun name hname _ _ hcarries => absurd hcarries (hnone name hname)
    · exact fun name hname hcarries =>
        absurd hcarries (hnone name (List.mem_cons_of_mem "tenant" hname))
  · obtain ⟨name₀, hname₀, hcarries₀, rfl, rfl⟩ := resolveScope_eq hresolve hsome
    by_cases hcarries : Carries filter "tagIds"
    · -- any scope is taken beside `tagIds`
      have htakes : ∀ level id, r.takesScope level id = true := by
        intro level id
        rw [Reading.takesScope, hread]
        have hne : r.tagIds.isEmpty = false :=
          Bool.eq_false_iff.2 fun hempty => hids.1 hcarries (List.isEmpty_iff.1 hempty)
        dsimp only
        rw [hne]
        rfl
      constructor
      · exact fun hone => absurd hcarries₀ (hone.alone hcarries name₀ hname₀)
      · intro hall
        have hempty := ((hall "" "").1 (htakes "" "") name₀ hname₀ hcarries₀).1
        have hno : ∀ name ∈ SCOPE_MEMBERS, "" ≠ levelOf name := by decide
        exact absurd hempty (hno name₀ hname₀)
    · have hempty : r.tagIds.isEmpty = true :=
        List.isEmpty_iff.2 (not_not.1 fun hne => hcarries (hids.2 hne))
      have htakes : ∀ level id, r.takesScope level id = true ↔ level = levelOf name₀
          ∧ (if name₀ = "tenant" then .str "" else firstId py (Object.get filter name₀))
            = Json.str id := by
        intro level id
        rw [Reading.takesScope, hread]
        dsimp only
        rw [hempty, Bool.not_true, Bool.false_or, Bool.and_eq_true, decide_eq_true_eq,
          Json.eq_str_iff]
      by_cases hone : ∀ name ∈ SCOPE_MEMBERS, Carries filter name → name = name₀
      · -- one member is carried
        have hat : ∀ level id, AtScope py filter level id
            ↔ NamesScope py filter name₀ level id := by
          intro level id
          refine ⟨fun hat => hat name₀ hname₀ hcarries₀, fun hnames name hname hc => ?_⟩
          rw [hone name hname hc]
          exact hnames
        constructor
        · intro hplain level id
          rw [htakes, hat, NamesScope]
          apply and_congr Iff.rfl
          split_ifs with htenant
          · rw [Json.str.injEq, eq_comm]
          · have hmem : name₀ ∈ ["groupIds", "siteIds", "accountIds"] :=
              (List.mem_cons.1 hname₀).resolve_left htenant
            exact (hplain.first name₀ hmem hcarries₀ id).symm
        · intro hall
          refine .inl ⟨fun hc => absurd hc hcarries, ?_, ?_⟩
          · intro name hname name' hname' hc hc'
            rw [hone name hname hc, hone name' hname' hc']
          · intro name hname hc id
            have heq := hone name (List.mem_cons_of_mem "tenant" hname) hc
            subst heq
            have htenant : name ≠ "tenant" := by
              rintro rfl
              exact absurd hname (by decide)
            have hiff := hall (levelOf name) id
            rw [htakes, hat, NamesScope, if_neg htenant, if_neg htenant, and_iff_right rfl,
              and_iff_right rfl] at hiff
            exact hiff.symm
      · -- two members are carried, and no scope is of two levels
        push Not at hone
        obtain ⟨name₁, hname₁, hcarries₁, hne⟩ := hone
        have hat : ∀ level id, ¬ AtScope py filter level id := by
          intro level id hat
          have hlevel := (hat name₁ hname₁ hcarries₁).1.symm.trans (hat name₀ hname₀ hcarries₀).1
          exact hne (levelOf_injective hname₁ hname₀ hlevel)
        constructor
        · exact fun hplain => absurd (hplain.one name₁ hname₁ name₀ hname₀ hcarries₁ hcarries₀) hne
        · exact fun hall => .inr fun level id => ⟨fun ht => hat level id ((hall level id).1 ht),
            hat level id⟩

/-! ## Deletion by a filter -/

lemma hasSub_append (sub rest : String) : hasSub sub (sub ++ rest) = true := by
  rw [hasSub, List.any_eq_true]
  refine ⟨(sub ++ rest).toList, (List.mem_tails _ _).2 List.suffix_rfl, ?_⟩
  rw [List.isPrefixOf_iff_prefix, String.toList_append]
  exact List.prefix_append _ _

/-- A tag is taken that satisfies a filter, and no other, exactly when this holds of its id and its
    scope: some tag has any text that is searched for. -/
lemma takes_iff_parts (h : readFilter scopes py filter = .ok r) :
    (∀ id tag, r.takes py id tag = true ↔ Satisfies py filter id tag)
      ↔ ∀ id (scope : String × String), (r.takesId id = true ∧ r.takesScope scope.1 scope.2 = true
        ↔ Asked py filter id ∧ AtScope py filter scope.1 scope.2) := by
  obtain ⟨-, -, hquery, -⟩ := readFilter_eq_ok h
  have hfound : ∀ tag : Tag, (r.query = "" ∨ hasSub r.query (searched py tag) = true)
      ↔ (Carries filter "query" →
        hasSub (lowered py (Object.get filter "query")) (searched py tag) = true) := by
    intro tag
    rw [hquery]
    by_cases hcarries : Carries filter "query"
    · rw [forall_prop_of_true hcarries]
      refine ⟨fun hor => hor.elim (fun hempty => ?_) id, .inr⟩
      rw [hempty]
      have hsub := hasSub_append "" (searched py tag)
      rwa [String.empty_append] at hsub
    · refine iff_of_true (.inl ?_) fun hc => absurd hc hcarries
      have hfalsy : ¬ (Object.get filter "query").truthy = true := hcarries
      rw [lowered, if_neg hfalsy]
  have htakes : ∀ id tag, r.takes py id tag = true ↔ (r.takesId id = true
      ∧ r.takesScope tag.scopeLevel tag.scopeId = true) ∧ (r.query = ""
        ∨ hasSub r.query (searched py tag) = true) := by
    intro id tag
    rw [Reading.takes, Bool.and_eq_true, Bool.and_eq_true, Bool.or_eq_true, decide_eq_true_eq]
    tauto
  have hsatisfies : ∀ id tag, Satisfies py filter id tag ↔ (Asked py filter id
      ∧ AtScope py filter tag.scopeLevel tag.scopeId) ∧ (Carries filter "query" →
        hasSub (lowered py (Object.get filter "query")) (searched py tag) = true) :=
    fun id tag => ⟨fun h => ⟨⟨h.ids, h.scope⟩, h.query⟩, fun h => ⟨h.1.1, h.2, h.1.2⟩⟩
  constructor
  · intro hall id scope
    -- a tag whose key is the text that is searched for
    let tag : Tag := ⟨Object.get filter "query", .null, .null, .null, scope.2, scope.1,
      "", "", "", "", "", "", ""⟩
    have htag := hall id tag
    have hsearched : Carries filter "query" →
        hasSub (lowered py (Object.get filter "query")) (searched py tag) = true := by
      intro _
      rw [searched, String.append_assoc, String.append_assoc, String.append_assoc]
      exact hasSub_append _ _
    rw [htakes, hsatisfies, hfound, and_iff_left hsearched, and_iff_left hsearched] at htag
    exact htag
  · intro hall id tag
    rw [htakes, hsatisfies, hfound, hall id (tag.scopeLevel, tag.scopeId)]

/-- A filter that is read is applied exactly, whatever tags there are, when its members are known
    and it takes the tags that satisfy it. -/
lemma exact_iff_takes (h : readFilter scopes py filter = .ok r) :
    Exact scopes py δ filter
      ↔ Known filter ∧ ∀ id tag, r.takes py id tag = true ↔ Satisfies py filter id tag := by
  have hdeletes : ∀ s : Store δ, ∃ s' affected,
      deleteTags scopes py filter s = .ok (s', affected) := by
    intro s
    rw [deleteTags, h]
    exact ⟨_, _, rfl⟩
  constructor
  · intro hexact
    constructor
    · have hempty := hexact ⟨.empty, .empty⟩
      obtain ⟨s', affected, heq⟩ := hdeletes ⟨.empty, .empty⟩
      rw [heq] at hempty
      exact hempty.1
    · intro id tag
      have hone := hexact ⟨Dict.empty.set id tag, .empty⟩
      obtain ⟨s', affected, heq⟩ := hdeletes ⟨Dict.empty.set id tag, .empty⟩
      rw [heq] at hone
      have hget : (Dict.empty.set id tag).get id = some tag := Dict.get_set_self _ _ _
      rw [← (get_deleteTags h heq hget).1]
      exact (hone.2 id tag hget).1
  · rintro ⟨hknown, hall⟩ s
    obtain ⟨s', affected, heq⟩ := hdeletes s
    rw [heq]
    refine ⟨hknown, fun id tag hget => ?_⟩
    obtain ⟨hnone, hsome⟩ := get_deleteTags h heq hget
    rw [hnone, hsome, ← hall id tag, Bool.not_eq_true]
    exact ⟨Iff.rfl, Iff.rfl⟩

/-- A filter is refused, or deletes from any set of tags those that satisfy every member it carries
    and has no other members, exactly when it is refused, or its members are known and it is read as
    it is meant, or selects nothing either way. -/
theorem deletes_exactly_iff (scopes : Scopes) (py : Python) (δ : Type) (filter : Object) :
    Exact scopes py δ filter
      ↔ (∃ refusal, readFilter scopes py filter = .error refusal)
        ∨ Known filter ∧ (Plain py filter ∨ Void scopes py filter) := by
  cases h : readFilter scopes py filter with
  | error refusal =>
    refine iff_of_true (fun s => ?_) (.inl ⟨refusal, rfl⟩)
    rw [deleteTags, h]
    trivial
  | ok r =>
    have hread : ¬ ∃ refusal, (Except.ok r : Except Refusal Reading) = .error refusal := nofun
    rw [or_iff_right hread, exact_iff_takes h, takes_iff_parts h, forall_and_iff]
    apply and_congr_right
    intro _
    have hvoid : Void scopes py filter
        ↔ ∀ id (scope : String × String), ¬ (r.takesId id = true
          ∧ r.takesScope scope.1 scope.2 = true)
            ∧ ¬ (Asked py filter id ∧ AtScope py filter scope.1 scope.2) := by
      constructor
      · exact fun hv id scope => hv r h id scope.1 scope.2
      · intro hv r' hr' id level scopeId
        rw [h] at hr'
        cases hr'
        exact hv id (level, scopeId)
    obtain ⟨htagIds, -, -, -⟩ := readFilter_eq_ok h
    have hcarries : r.tagIds ≠ [] → Carries filter "tagIds" := by
      intro hne
      by_contra hfalsy
      have hfalsy : ¬ (Object.get filter "tagIds").truthy = true := hfalsy
      unfold tagIdsOf at htagIds
      rw [if_neg hfalsy] at htagIds
      exact hne (Option.some.inj htagIds).symm
    rw [hvoid]
    constructor
    · rintro (⟨hids, hscopes⟩ | hnothing)
      · obtain ⟨hne, hexcluded⟩ := (takesId_iff h).1 hids
        rcases (takesScope_iff h ⟨hne, hcarries⟩).2 (fun level id => hscopes (level, id)) with
          hone | hnone
        · refine .inl ⟨hone, fun hc heq => hne hc ?_, hexcluded⟩
          rw [htagIds] at heq
          exact Option.some.inj heq
        · exact .inr fun id scope => ⟨fun hboth => (hnone scope.1 scope.2).1 hboth.2,
            fun hboth => (hnone scope.1 scope.2).2 hboth.2⟩
      · exact .inr hnothing
    · rintro (hplain | hnothing)
      · have hne : Carries filter "tagIds" → r.tagIds ≠ [] := by
          intro hc heq
          rw [heq] at htagIds
          exact hplain.tagIds hc htagIds
        refine .inl ⟨(takesId_iff h).2 ⟨hne, hplain.excluded⟩, fun scope => ?_⟩
        exact (takesScope_iff h ⟨hne, hcarries⟩).1 hplain.toOneScope scope.1 scope.2
      · exact .inr hnothing

/-- A filter that names a tag and excludes it, both as a text. -/
def excludingText : Object := [("tagIds", .str "ab"), ("tagIdsExcluded", .str "ab")]

/-- One tag. -/
def oneTag : Dict String Tag :=
  Dict.empty.set "ab" ⟨.null, .null, .null, .null, "", "global", "", "", "", "", "", "", ""⟩

/-- A tag is deleted that `tagIdsExcluded` names as a text: the text is read as its characters. -/
theorem excluded_text_deleted :
    (∃ s' : Store Unit, deleteTags ⟨.empty, .empty, .empty⟩ asciiPython excludingText
        ⟨oneTag, .empty⟩ = .ok (s', 1) ∧ s'.tags.get "ab" = none)
      ∧ Names asciiPython (Object.get excludingText "tagIdsExcluded") "ab"
      ∧ ¬ Exact ⟨.empty, .empty, .empty⟩ asciiPython Unit excludingText := by
  have hnamed : Names asciiPython (.str "ab") "ab" := ⟨by decide, by decide⟩
  refine ⟨⟨_, rfl, rfl⟩, hnamed, fun hexact => ?_⟩
  obtain ⟨-, hdeleted⟩ := hexact ⟨oneTag, .empty⟩
  exact ((hdeleted "ab" _ rfl).1.1 rfl).ids.tagIdsExcluded rfl hnamed

end Deletion

end Tags

end Mockdr
