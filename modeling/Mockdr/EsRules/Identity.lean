import Mockdr.EsRules.Rules
import Mockdr.Lib.Run

/-!
# The identity and the revision of a rule

* `Identified`: no two rules share an id or a `rule_id`, and a read finds one rule at most.
  `Counted`: the revision of every rule goes up by one if a parameter changed, and stays otherwise.
* `Kinned`: what is left are rules of before, with their identifiers, parameters and revisions.
* `step_sound`, `keeps_of_identified`: a request keeps the identifiers apart exactly when the
  `rule_id` that it writes is not another rule's. `identified_iff` says so of a run.
-/

namespace Mockdr

namespace EsRules

variable (py : Python)

/-! ## What holds of the rules -/

/-- No two rules share an id or a `rule_id`, and a read by either finds at most one. -/
structure Identified (s : Store) : Prop where
  ids : ∀ i j r q, s.get i = some r → s.get j = some q → r.id = q.id → i = j
  ruleIds : ∀ i j r q, s.get i = some r → s.get j = some q → r.ruleId.eq q.ruleId = true → i = j
  byId : ∀ id, (s.entries.filter fun p => p.2.id = id).length ≤ 1
  byRuleId : ∀ ruleId, (s.entries.filter fun p => p.2.ruleId.eq (.str ruleId)).length ≤ 1

/-- A parameter of a rule, by its name. -/
def parameter (rule : Rule) (name : String) : Json := Object.get (parameters rule) name

/-- The revision of a rule goes up by one and a parameter is another, or it stays and none is. -/
def Counts (before after : Rule) : Prop :=
  (after.revision = before.revision + 1
      ∧ ∃ name, (parameter after name).eq (parameter before name) = false)
    ∨ (after.revision = before.revision
      ∧ ∀ name, parameter after name = parameter before name
        ∨ (parameter after name).eq (parameter before name) = true)

/-- What a write leaves of a rule counts what it changed. -/
def Counted (s s' : Store) : Prop :=
  ∀ id before after, s.get id = some before → s'.get id = some after → Counts before after

/-! ## What is asked of the requests -/

/-- An id is no rule's, and the `rule_id` is none's. -/
def New (s : Store) (ids : String × String) : Prop :=
  s.get ids.1 = none ∧ ∀ j q, s.get j = some q → q.ruleId.eq (.str ids.2) = false

/-- A body names its `rule_id` in a value whose objects name no member twice. -/
def ProperBody (body : Object) : Prop := ∀ v, Assoc.get "rule_id" body = some v → v.Proper

/-- The ids that a request draws are new, and its body is a value of `json.loads`. -/
def Admitted (s : Store) : Action → Prop
  | .create id publicId _ body => New s (id, publicId) ∧ ProperBody body
  | .createEntry id publicId _ entry => New s (id, publicId) ∧ ProperBody entry.fields
  | .put _ body => ProperBody body
  | .bulk drawn _ _ =>
    (∀ n, New s (drawn n))
      ∧ ∀ m n, m ≠ n → (drawn m).1 ≠ (drawn n).1 ∧ (drawn m).2 ≠ (drawn n).2
  | _ => True

/-- The `rule_id` of a body is no rule's but the one's under an id. -/
def Unclaimed (s : Store) (id : String) (body : Object) : Prop :=
  ∀ ruleId, Assoc.get "rule_id" body = some ruleId →
    ∀ j q, j ≠ id → s.get j = some q → q.ruleId.eq ruleId = false

/-- A `PUT` names no other rule's `rule_id`; nor does a new rule that the check for a clash passes
    by: one with an empty `rule_id`, or in `_bulk_create` with one that is not a text. -/
def Keeps (s : Store) : Action → Prop
  | .create id _ _ body =>
    complete body = true → (Object.get body "rule_id").truthy = false → Unclaimed s id body
  | .createEntry id _ _ (.dict entry) =>
    present entry = true → entryClash py entry s = false →
      (∀ text, Object.get entry "rule_id" = .str text → text = "") → Unclaimed s id entry
  | .put _ body => ∀ rule, addressedRule py body s = some rule → Unclaimed s rule.id body
  | _ => True

/-! ## Parameters -/

lemma parameters_names (rule : Rule) : (parameters rule).map Prod.fst
    = ["id", "rule_id"] ++ memberDefaults.map Prod.fst
      ++ ["version", "from_field", "created_at", "created_by", "immutable",
        "optional_members"] := by
  rw [parameters, List.map_append, List.map_append, rule.members.names]
  rfl

lemma parameters_nodup (rule : Rule) : ((parameters rule).map Prod.fst).Nodup := by
  rw [parameters_names]
  decide

lemma parameters_length (r r' : Rule) : (parameters r').length = (parameters r).length := by
  have h := congrArg List.length ((parameters_names r').trans (parameters_names r).symm)
  rwa [List.length_map, List.length_map] at h

lemma parameter_of_mem {r r' : Rule} {p : String × Json} (hp : p ∈ parameters r') :
    parameter r' p.1 = p.2 ∧ ∃ v, Assoc.get p.1 (parameters r) = some v := by
  constructor
  · rw [parameter, Object.get, Assoc.get_of_mem (parameters_nodup r') hp]
    rfl
  · have hname : p.1 ∈ (parameters r).map Prod.fst := by
      rw [parameters_names, ← parameters_names r']
      exact List.mem_map_of_mem hp
    cases hget : Assoc.get p.1 (parameters r) with
    | none => exact absurd hname (Assoc.get_eq_none_iff.1 hget)
    | some v => exact ⟨v, rfl⟩

lemma parameters_eq_iff {r r' : Rule} :
    (Json.dict (parameters r')).eq (.dict (parameters r)) = true
      ↔ ∀ p ∈ parameters r', (parameter r' p.1).eq (parameter r p.1) = true := by
  rw [Json.eq, Bool.and_eq_true, decide_eq_true_eq, and_iff_right (parameters_length r r'),
    Json.eqFields_iff]
  refine forall₂_congr fun p hp => ?_
  obtain ⟨hvalue, v, hget⟩ := parameter_of_mem (r := r) hp
  rw [hvalue, parameter, Object.get, hget]
  simp

/-- A rule that is counted against another counts what is changed. -/
lemma counts_countRevision {r r' : Rule} (h : r'.revision = r.revision) :
    Counts r (countRevision r' (parameters r)) := by
  unfold countRevision
  split
  · rename_i heq
    right
    refine ⟨h, fun name => ?_⟩
    by_cases hname : ∃ v, Assoc.get name (parameters r') = some v
    · obtain ⟨v, hget⟩ := hname
      exact .inr (parameters_eq_iff.1 heq (name, v) (Assoc.mem_of_get hget))
    · left
      have hnone : Assoc.get name (parameters r') = none := Option.eq_none_iff_forall_ne_some.2
        fun v hv => hname ⟨v, hv⟩
      have hnone' : Assoc.get name (parameters r) = none := by
        rw [Assoc.get_eq_none_iff] at hnone ⊢
        rwa [parameters_names, ← parameters_names r']
      rw [parameter, parameter, Object.get, Object.get, hnone, hnone']
  · rename_i hne
    left
    rw [parameters_eq_iff] at hne
    push Not at hne
    obtain ⟨p, -, hp⟩ := hne
    exact ⟨by rw [h], p.1, Bool.not_eq_true _ ▸ hp⟩

lemma Counts.congr {r r' r'' : Rule} (h : Counts r r')
    (hparameters : parameters r'' = parameters r') (hrevision : r''.revision = r'.revision) :
    Counts r r'' := by
  simp only [Counts, parameter, hparameters, hrevision]
  exact h

lemma counts_of_eq {r r' : Rule} (hparameters : parameters r' = parameters r)
    (hrevision : r'.revision = r.revision) : Counts r r' :=
  .inr ⟨hrevision, fun name => .inl (by rw [parameter, parameter, hparameters])⟩

/-! ## Rules that are kept -/

/-- A rule has the identifiers, the parameters and the revision of another. -/
structure Kin (before after : Rule) : Prop where
  id : after.id = before.id
  ruleId : after.ruleId = before.ruleId
  parameters : parameters after = parameters before
  revision : after.revision = before.revision

/-- What is left are rules of before. -/
def Kinned (s s' : Store) : Prop :=
  ∀ id after, s'.get id = some after → ∃ before, s.get id = some before ∧ Kin before after

/-- The identifiers of the rules are apart, each rule is stored under its id, and the `rule_id`s are
    values of `json.loads`. -/
structure Sound (s : Store) : Prop where
  keyed : ∀ i r, s.get i = some r → r.id = i
  distinct : ∀ i j r q, s.get i = some r → s.get j = some q → r.ruleId.eq q.ruleId = true → i = j
  proper : ∀ i r, s.get i = some r → r.ruleId.Proper

variable {s s' : Store}

lemma length_filter_le_one {p : String × Rule → Bool}
    (h : ∀ i j r q, s.get i = some r → s.get j = some q → p (i, r) = true → p (j, q) = true →
      i = j) :
    (s.entries.filter p).length ≤ 1 := by
  have hnodup : ((s.entries.filter p).map Prod.fst).Nodup :=
    s.nodup.sublist (List.filter_sublist.map _)
  cases hfound : s.entries.filter p with
  | nil => exact Nat.zero_le _
  | cons x rest =>
    cases rest with
    | nil => exact le_rfl
    | cons y rest =>
      have hx := List.mem_filter.1 (hfound ▸ List.mem_cons_self : x ∈ s.entries.filter p)
      have hy := List.mem_filter.1
        (hfound ▸ List.mem_cons_of_mem _ List.mem_cons_self : y ∈ s.entries.filter p)
      have hsame := h x.1 y.1 x.2 y.2 (Dict.mem_entries_iff.1 hx.1) (Dict.mem_entries_iff.1 hy.1)
        hx.2 hy.2
      rw [hfound, List.map_cons, List.map_cons, List.nodup_cons] at hnodup
      exact absurd (hsame ▸ List.mem_cons_self) hnodup.1

/-- Where the identifiers are apart, they identify. -/
lemma Sound.identified (h : Sound s) : Identified s where
  ids i j r q hr hq hid := by
    rw [← h.keyed i r hr, ← h.keyed j q hq, hid]
  ruleIds := h.distinct
  byId id := by
    refine length_filter_le_one fun i j r q hr hq hri hqj => ?_
    rw [← h.keyed i r hr, ← h.keyed j q hq, of_decide_eq_true hri, of_decide_eq_true hqj]
  byRuleId ruleId := by
    refine length_filter_le_one fun i j r q hr hq hri hqj => ?_
    refine h.distinct i j r q hr hq ?_
    rw [Json.eq_str_iff.1 hri, Json.eq_str_iff.1 hqj]
    simp [Json.eq]

/-- What is left of rules whose identifiers are apart has them apart. -/
lemma Kinned.sound (h : Kinned s s') (hs : Sound s) : Sound s' where
  keyed i r' hr' := by
    obtain ⟨r, hr, hkin⟩ := h i r' hr'
    rw [hkin.id, hs.keyed i r hr]
  distinct i j r' q' hr' hq' heq := by
    obtain ⟨r, hr, hkin⟩ := h i r' hr'
    obtain ⟨q, hq, hkin'⟩ := h j q' hq'
    rw [hkin.ruleId, hkin'.ruleId] at heq
    exact hs.distinct i j r q hr hq heq
  proper i r' hr' := by
    obtain ⟨r, hr, hkin⟩ := h i r' hr'
    rw [hkin.ruleId]
    exact hs.proper i r hr

lemma Kinned.counted (h : Kinned s s') : Counted s s' := by
  intro id before after hbefore hafter
  obtain ⟨before', hbefore', hkin⟩ := h id after hafter
  rw [hbefore] at hbefore'
  obtain rfl := Option.some.inj hbefore'
  exact counts_of_eq hkin.parameters hkin.revision

lemma Kinned.refl (s : Store) : Kinned s s :=
  fun _ after hafter => ⟨after, hafter, rfl, rfl, rfl, rfl⟩

lemma Kinned.erase (h : Kinned s s') (id : String) : Kinned s (s'.erase id) := by
  intro i after hafter
  rw [Dict.get_erase] at hafter
  split_ifs at hafter
  exact h i after hafter

/-- A rule is written that has the identifiers, the parameters and the revision of the stored
    one. -/
lemma Kinned.save (h : Kinned s s') {r r' : Rule} (hget : s.get r.id = some r) (hkin : Kin r r') :
    Kinned s (save r' s') := by
  intro i after hafter
  rw [EsRules.save, Dict.get_set] at hafter
  split_ifs at hafter with hi
  · obtain rfl := Option.some.inj hafter
    exact ⟨r, by rw [hi, hkin.id, hget], hkin⟩
  · exact h i after hafter

lemma Kinned.foldl {f : Store → Rule → Store} {rules : List Rule} (h : Kinned s s')
    (hf : ∀ s' rule, Kinned s s' → rule ∈ rules → Kinned s (f s' rule)) :
    Kinned s (rules.foldl f s') := by
  induction rules generalizing s' with
  | nil => exact h
  | cons rule rules ih =>
    exact ih (hf s' rule h List.mem_cons_self)
      fun s' q h hq => hf s' q h (List.mem_cons_of_mem _ hq)

/-! ## Rules that are written -/

/-- A rule is written whose `rule_id` is no other rule's. -/
lemma Sound.save (h : Sound s) {r' : Rule} (hproper : r'.ruleId.Proper)
    (hother : ∀ j q, j ≠ r'.id → s.get j = some q → q.ruleId.eq r'.ruleId = false) :
    Sound (save r' s) where
  keyed i r hr := by
    rw [EsRules.save, Dict.get_set] at hr
    split_ifs at hr with hi
    · obtain rfl := Option.some.inj hr
      exact hi.symm
    · exact h.keyed i r hr
  distinct i j r q hr hq heq := by
    rw [EsRules.save, Dict.get_set] at hr hq
    split_ifs at hr with hi <;> split_ifs at hq with hj
    · rw [hi, hj]
    · obtain rfl := Option.some.inj hr
      rw [Json.eq_comm_of_proper hproper (h.proper j q hq), hother j q hj hq] at heq
      cases heq
    · obtain rfl := Option.some.inj hq
      rw [hother i r hi hr] at heq
      cases heq
    · exact h.distinct i j r q hr hq heq
  proper i r hr := by
    rw [EsRules.save, Dict.get_set] at hr
    split_ifs at hr
    · obtain rfl := Option.some.inj hr
      exact hproper
    · exact h.proper i r hr

/-- A rule that is written apart from the others has a `rule_id` that is no other rule's. -/
lemma other_of_identified {r' : Rule} (h : Identified (save r' s)) {j : String} {q : Rule}
    (hj : j ≠ r'.id) (hq : s.get j = some q) : q.ruleId.eq r'.ruleId = false := by
  by_contra heq
  rw [Bool.not_eq_false] at heq
  exact hj (h.ruleIds j r'.id q r' (by rwa [save, Dict.get_set_ne _ _ hj])
    (by rw [save, Dict.get_set_self]) heq)

lemma counted_save {r' : Rule} (h : ∀ r, s.get r'.id = some r → Counts r r') :
    Counted s (save r' s) := by
  intro id before after hbefore hafter
  rw [save, Dict.get_set] at hafter
  split_ifs at hafter with hid
  · obtain rfl := Option.some.inj hafter
    exact h before (hid ▸ hbefore)
  · rw [hbefore] at hafter
    obtain rfl := Option.some.inj hafter
    exact counts_of_eq rfl rfl

/-! ## Finding a rule -/

/-- Where no rule is found by a `rule_id`, none has it. -/
lemma ne_of_getByRuleId {ruleId : Json} (h : getByRuleId ruleId s = none) {j : String} {q : Rule}
    (hq : s.get j = some q) : q.ruleId.eq ruleId = false := by
  rw [getByRuleId, List.find?_eq_none] at h
  exact Bool.eq_false_iff.2 (h q (List.mem_map.2 ⟨(j, q), Dict.mem_entries_iff.2 hq, rfl⟩))

lemma Sound.get_of_mem (hs : Sound s) {rule : Rule} (h : rule ∈ s.entries.map Prod.snd) :
    s.get rule.id = some rule := by
  obtain ⟨⟨j, r⟩, hmem, rfl⟩ := List.mem_map.1 h
  have hget := Dict.mem_entries_iff.1 hmem
  rwa [hs.keyed j r hget]

lemma Sound.get_of_addressed (hs : Sound s) {body : Object} {rule : Rule}
    (h : addressedRule py body s = some rule) : s.get rule.id = some rule := by
  unfold addressedRule at h
  dsimp only at h
  split_ifs at h
  · rwa [hs.keyed _ rule h]
  · exact hs.get_of_mem (List.mem_of_find?_eq_some h)

lemma matching_subset {lower : String} {rules found : List Rule}
    (h : matching py lower rules = some found) : found ⊆ rules := by
  induction rules generalizing found with
  | nil =>
    obtain rfl := Option.some.inj h
    exact List.Subset.refl _
  | cons rule rules ih =>
    unfold matching at h
    split at h
    · split at h
      · obtain ⟨rest, hrest, rfl⟩ := Option.map_eq_some_iff.1 h
        exact List.cons_subset_cons rule (ih hrest)
      · simp only [Option.bind_eq_bind, Option.bind_eq_some_iff] at h
        obtain ⟨tags, _, isFound, _, rest, hrest, heq⟩ := h
        obtain rfl := Option.some.inj heq
        split_ifs
        · exact List.cons_subset_cons rule (ih hrest)
        · exact List.subset_cons_of_subset rule (ih hrest)
    · cases h

lemma Sound.get_of_resolved (hs : Sound s) {ruleIds query : Json} {rules : List Rule}
    (h : resolveRules py ruleIds query s = some rules) {rule : Rule} (hrule : rule ∈ rules) :
    s.get rule.id = some rule := by
  refine hs.get_of_mem ?_
  unfold resolveRules at h
  dsimp only at h
  split at h
  · split at h
    · obtain rfl := Option.some.inj h
      exact List.mem_of_mem_filter hrule
    · cases h
  · split at h
    · split at h
      · exact matching_subset py h hrule
      · cases h
    · obtain rfl := Option.some.inj h
      exact hrule

/-! ## The requests -/

@[simp] lemma countRevision_id (rule : Rule) (before : Object) :
    (countRevision rule before).id = rule.id := by
  unfold countRevision
  split <;> rfl

@[simp] lemma countRevision_ruleId (rule : Rule) (before : Object) :
    (countRevision rule before).ruleId = rule.ruleId := by
  unfold countRevision
  split <;> rfl

section Create

variable {id : String} (publicId : String) (caller : Caller) {body : Object}

/-- A new rule keeps the identifiers apart if its `rule_id` is no other rule's. -/
lemma createRule_sound (hs : Sound s) (hnew : New s (id, publicId)) (hbody : ProperBody body)
    (h : Unclaimed s id body) : Sound (createRule id publicId caller body s) := by
  refine hs.save ?_ fun j q hj hq => ?_ <;> simp only [fromBody, arg]
  · cases hget : Assoc.get "rule_id" body with
    | none => trivial
    | some ruleId => exact hbody ruleId hget
  · cases hget : Assoc.get "rule_id" body with
    | none => exact hnew.2 j q hq
    | some ruleId => exact h ruleId hget j q hj hq

lemma unclaimed_of_createRule (h : Identified (createRule id publicId caller body s)) :
    Unclaimed s id body := by
  intro ruleId hget j q hj hq
  have hother := other_of_identified h (j := j) (q := q) hj hq
  simpa only [fromBody, arg, hget, Option.getD_some] using hother

lemma createRule_counted (hnew : New s (id, publicId)) :
    Counted s (createRule id publicId caller body s) := by
  refine counted_save fun r hr => ?_
  have hnone : s.get id = none := hnew.1
  exact absurd (hnone.symm.trans hr) (by simp)

/-- A `rule_id` that clashes with no rule's is none's. -/
lemma unclaimed_of_find {v : Json} (hv : ∀ w, Assoc.get "rule_id" body = some w → w = v)
    (h : getByRuleId v s = none) : Unclaimed s id body := by
  intro ruleId hget j q _ hq
  rw [hv ruleId hget]
  exact ne_of_getByRuleId h hq

/-- The `rule_id` of a body, where it has one. -/
lemma get_ruleId {w : Json} (h : Assoc.get "rule_id" body = some w) :
    w = Object.get body "rule_id" := by
  rw [Object.get, h, Option.getD_some]

end Create

/-- A request that makes a rule keeps the identifiers apart exactly when `Keeps` says so. -/
lemma create_sound {id publicId : String} {caller : Caller} {body : Object} (hs : Sound s)
    (ha : Admitted s (.create id publicId caller body))
    (h : Keeps py s (.create id publicId caller body)) :
    Sound (create id publicId caller body s) := by
  unfold create
  split_ifs with hmade
  · rw [Bool.and_eq_true, Bool.not_eq_true'] at hmade
    refine createRule_sound _ _ hs ha.1 ha.2 ?_
    cases htruthy : (Object.get body "rule_id").truthy with
    | false => exact h hmade.1 htruthy
    | true =>
      refine unclaimed_of_find (fun w hw => get_ruleId hw) ?_
      have hclash := hmade.2
      rw [clash, htruthy, Bool.true_and] at hclash
      exact Option.isNone_iff_eq_none.1 (by simpa using hclash)
  · exact hs

lemma createEntry_sound {id publicId now : String} {entry : Json} (hs : Sound s)
    (ha : Admitted s (.createEntry id publicId now entry))
    (h : Keeps py s (.createEntry id publicId now entry)) :
    Sound (createEntry py id publicId now entry s) := by
  cases entry with
  | dict entry =>
    simp only [createEntry]
    split_ifs with hmade
    · rw [Bool.and_eq_true, Bool.not_eq_true'] at hmade
      refine createRule_sound _ _ hs ha.1 ha.2 ?_
      by_cases htext : ∀ text, Object.get entry "rule_id" = .str text → text = ""
      · exact h hmade.1 hmade.2 htext
      · push Not at htext
        obtain ⟨text, hget, hne⟩ := htext
        refine unclaimed_of_find (fun w hw => get_ruleId hw) ?_
        have hclash := hmade.2
        have htruthy : (Json.str text).truthy = true := decide_eq_true hne
        simp only [entryClash, hget, htruthy, Bool.true_and, Python.toStr] at hclash
        rw [hget]
        exact Option.isNone_iff_eq_none.1 (by simpa using hclash)
    · exact hs
  | _ => exact hs

/-- A `PUT` keeps the identifiers apart if its `rule_id` is no other rule's. -/
lemma put_sound {caller : Caller} {body : Object} (hs : Sound s) (hbody : ProperBody body)
    (h : Keeps py s (.put caller body)) : Sound (put py caller body s) := by
  unfold put
  cases haddressed : addressedRule py body s with
  | none => exact hs
  | some rule =>
    have hget := hs.get_of_addressed py haddressed
    simp only [updateRule]
    refine hs.save ?_ fun j q hj hq => ?_ <;>
      simp only [countRevision_id, countRevision_ruleId, fromBody, arg] at *
    · cases hruleId : Assoc.get "rule_id" body with
      | none => exact hs.proper _ rule hget
      | some ruleId => exact hbody ruleId hruleId
    · cases hruleId : Assoc.get "rule_id" body with
      | none =>
        by_contra heq
        rw [Option.getD_none, Bool.not_eq_false] at heq
        exact hj (hs.distinct j rule.id q rule hq hget heq)
      | some ruleId => exact h rule haddressed ruleId hruleId j q hj hq

lemma unclaimed_of_put {caller : Caller} {body : Object}
    (h : Identified (put py caller body s)) : Keeps py s (.put caller body) := by
  intro rule haddressed ruleId hruleId j q hj hq
  simp only [put, haddressed, updateRule] at h
  have hother := other_of_identified h (j := j) (q := q)
    (by simpa only [countRevision_id, fromBody] using hj) hq
  simpa only [countRevision_ruleId, fromBody, arg, hruleId, Option.getD_some] using hother

/-- A `PUT` counts what it changes. -/
lemma put_counted {caller : Caller} {body : Object} (hs : Sound s) :
    Counted s (put py caller body s) := by
  unfold put
  cases haddressed : addressedRule py body s with
  | none => exact (Kinned.refl s).counted
  | some rule =>
    have hget := hs.get_of_addressed py haddressed
    refine counted_save fun r hr => ?_
    rw [countRevision_id] at hr
    obtain rfl : rule = r := Option.some.inj (hget.symm.trans hr)
    exact counts_countRevision rfl

/-- A `PATCH` leaves the identifiers. -/
lemma patch_sound {caller : Caller} {body : Object} (hs : Sound s) :
    Sound (patch py caller body s) := by
  unfold patch
  cases haddressed : addressedRule py body s with
  | none => exact hs
  | some rule =>
    have hget := hs.get_of_addressed py haddressed
    simp only [patchRule]
    refine hs.save ?_ fun j q hj hq => ?_ <;>
      simp only [countRevision_id, countRevision_ruleId, patched] at *
    · exact hs.proper _ rule hget
    · by_contra heq
      rw [Bool.not_eq_false] at heq
      exact hj (hs.distinct j rule.id q rule hq hget heq)

/-- A `PATCH` counts what it changes. -/
lemma patch_counted {caller : Caller} {body : Object} (hs : Sound s) :
    Counted s (patch py caller body s) := by
  unfold patch
  cases haddressed : addressedRule py body s with
  | none => exact (Kinned.refl s).counted
  | some rule =>
    have hget := hs.get_of_addressed py haddressed
    refine counted_save fun r hr => ?_
    have hr : s.get rule.id = some r := by simpa only [countRevision_id, patched] using hr
    obtain rfl : rule = r := Option.some.inj (hget.symm.trans hr)
    have hcounts : Counts rule (countRevision (patched rule body) (parameters rule)) :=
      counts_countRevision rfl
    exact hcounts.congr rfl rfl

/-- Copies are new rules: those of before are left, and the identifiers are apart. -/
lemma duplicates_sound {drawn : Nat → String × String} (caller : Caller) (rules : List Rule)
    {n : Nat} (hs : Sound s) (hnew : ∀ m, n ≤ m → New s (drawn m))
    (hdrawn : ∀ m n, m ≠ n → (drawn m).1 ≠ (drawn n).1 ∧ (drawn m).2 ≠ (drawn n).2) :
    Sound ((rules.zipIdx n).foldl (fun s p =>
        save (duplicate py (drawn p.2).1 (drawn p.2).2 caller p.1) s) s)
      ∧ ∀ i r, s.get i = some r → ((rules.zipIdx n).foldl (fun s p =>
        save (duplicate py (drawn p.2).1 (drawn p.2).2 caller p.1) s) s).get i = some r := by
  induction rules generalizing n s with
  | nil => exact ⟨hs, fun i r hr => hr⟩
  | cons rule rules ih =>
    rw [List.zipIdx_cons, List.foldl_cons]
    obtain ⟨hid, hruleId⟩ := hnew n le_rfl
    have hsound : Sound (save (duplicate py (drawn n).1 (drawn n).2 caller rule) s) :=
      hs.save trivial fun j q _ hq => hruleId j q hq
    have hlater : ∀ m, n + 1 ≤ m →
        New (save (duplicate py (drawn n).1 (drawn n).2 caller rule) s) (drawn m) := by
      intro m hm
      obtain ⟨hfirst, hsecond⟩ := hdrawn m n (by omega)
      obtain ⟨hid', hruleId'⟩ := hnew m (by omega)
      refine ⟨(Dict.get_set_ne s _ hfirst).trans hid', fun j q hq => ?_⟩
      rw [save, Dict.get_set] at hq
      split_ifs at hq
      · obtain rfl := Option.some.inj hq
        rw [duplicate, Bool.eq_false_iff]
        intro heq
        exact hsecond (Json.str.inj (Json.eq_str_iff.1 heq)).symm
      · exact hruleId' j q hq
    obtain ⟨hlast, hkept⟩ := ih hsound hlater
    refine ⟨hlast, fun i r hr => hkept i r ?_⟩
    have hne : i ≠ (drawn n).1 := by
      rintro rfl
      exact absurd (hid.symm.trans hr) (by simp)
    exact (Dict.get_set_ne s _ hne).trans hr

/-- A bulk action on rules that are stored keeps the identifiers apart and counts what it
    changes. -/
lemma bulkAction_sound {action : String} {rules : List Rule} {drawn : Nat → String × String}
    {caller : Caller} {body : Object} (hs : Sound s) (ha : Admitted s (.bulk drawn caller body))
    (hget : ∀ rule ∈ rules, s.get rule.id = some rule) :
    Sound (bulkAction py action rules drawn caller s)
      ∧ Counted s (bulkAction py action rules drawn caller s) := by
  have hkinned : ∀ {s'}, Kinned s s' → Sound s' ∧ Counted s s' :=
    fun h => ⟨h.sound hs, h.counted⟩
  unfold bulkAction
  dsimp only
  split
  · refine hkinned ((Kinned.refl s).foldl fun s' rule h hrule => ?_)
    exact h.save (hget rule hrule) ⟨rfl, rfl, rfl, rfl⟩
  · refine hkinned ((Kinned.refl s).foldl fun s' rule h hrule => ?_)
    exact h.save (hget rule hrule) ⟨rfl, rfl, rfl, rfl⟩
  · exact hkinned ((Kinned.refl s).foldl fun s' rule h _ => h.erase rule.id)
  · obtain ⟨hlast, hkept⟩ := duplicates_sound py caller rules (n := 0) hs (fun m _ => ha.1 m) ha.2
    refine ⟨hlast, fun id before after hbefore hafter => ?_⟩
    rw [hkept id before hbefore] at hafter
    obtain rfl := Option.some.inj hafter
    exact counts_of_eq rfl rfl
  · exact hkinned (Kinned.refl s)

lemma bulk_sound {drawn : Nat → String × String} {caller : Caller} {body : Object} (hs : Sound s)
    (ha : Admitted s (.bulk drawn caller body)) :
    Sound (bulk py drawn caller body s) ∧ Counted s (bulk py drawn caller body s) := by
  have hrefl : Sound s ∧ Counted s s := ⟨hs, (Kinned.refl s).counted⟩
  unfold bulk
  split
  · split
    · split
      · rename_i hrules
        exact bulkAction_sound py hs ha fun rule => hs.get_of_resolved py hrules
      · exact hrefl
    · exact hrefl
  · exact hrefl

/-- A request that names no other rule's `rule_id` keeps the identifiers apart. -/
lemma step_sound {a : Action} (ha : Admitted s a) (hs : Sound s) (h : Keeps py s a) :
    Sound (step py s a) := by
  cases a with
  | create id publicId caller body => exact create_sound py hs ha h
  | createEntry id publicId now entry => exact createEntry_sound py hs ha h
  | put caller body => exact put_sound py hs ha h
  | patch caller body => exact patch_sound py hs
  | delete id ruleId =>
    simp only [step, delete]
    cases read id ruleId s with
    | none => exact hs
    | some rule => exact ((Kinned.refl s).erase rule.id).sound hs
  | bulk drawn caller body => exact (bulk_sound py hs ha).1

/-- A request that keeps the identifiers apart names no other rule's `rule_id`. -/
lemma keeps_of_identified {a : Action} (h : Identified (step py s a)) : Keeps py s a := by
  cases a with
  | create id publicId caller body =>
    intro hcomplete htruthy
    refine unclaimed_of_createRule publicId caller ?_
    simpa only [step, create, clash, hcomplete, htruthy, Bool.false_and, Bool.not_false,
      Bool.and_self, if_true] using h
  | createEntry id publicId now entry =>
    cases entry with
    | dict entry =>
      intro hpresent hclash _
      refine unclaimed_of_createRule publicId ⟨"elastic", now⟩ ?_
      simpa only [step, createEntry, hpresent, hclash, Bool.not_false, Bool.and_self, if_true]
        using h
    | _ => trivial
  | put caller body => exact unclaimed_of_put py h
  | patch caller body => trivial
  | delete id ruleId => trivial
  | bulk drawn caller body => trivial

/-- Every request counts what it changes. -/
lemma step_counted {a : Action} (ha : Admitted s a) (hs : Sound s) : Counted s (step py s a) := by
  have hrefl := (Kinned.refl s).counted
  cases a with
  | create id publicId caller body =>
    simp only [step, create]
    split
    · exact createRule_counted _ _ ha.1
    · exact hrefl
  | createEntry id publicId now entry =>
    cases entry with
    | dict entry =>
      simp only [step, createEntry]
      split
      · exact createRule_counted _ _ ha.1
      · exact hrefl
    | _ => exact hrefl
  | put caller body => exact put_counted py hs
  | patch caller body => exact patch_counted py hs
  | delete id ruleId =>
    simp only [step, delete]
    cases read id ruleId s with
    | none => exact hrefl
    | some rule => exact ((Kinned.refl s).erase rule.id).counted
  | bulk drawn caller body => exact (bulk_sound py hs ha).2

/-! ## Along a run -/

/-- Along a run from rules whose identifiers are apart, with ids that are new, the identifiers stay
    apart and every write counts what it changes exactly when every request that takes its `rule_id`
    from its body unchecked takes one that no other rule has. -/
theorem identified_iff {as : List Action} (hs : Sound s)
    (hrun : Along (step py) (fun s a => Admitted s a) s as) :
    ((∀ pre, pre <+: as → Identified (runFrom (step py) s pre))
        ∧ ∀ pre a, pre ++ [a] <+: as → Counted (runFrom (step py) s pre)
          (runFrom (step py) s (pre ++ [a])))
      ↔ Along (step py) (Keeps py) s as := by
  have hiff : (∀ pre, pre <+: as → Identified (runFrom (step py) s pre))
      ↔ Along (step py) (Keeps py) s as :=
    Along.always_iff (I := Sound) (P := Identified) (fun s h => h.identified)
      (fun s a ha hs h => step_sound py ha hs h) (fun s a _ _ h => keeps_of_identified py h) hs hrun
  rw [← hiff]
  refine and_iff_left_of_imp fun hidentified pre a hpre => ?_
  obtain ⟨rest, rfl⟩ := hpre
  have hkeeps := (Along.append_iff.1 (hiff.1 hidentified)).1
  obtain ⟨hadmitted, hlast⟩ := Along.append_iff.1 (Along.append_iff.1 hrun).1
  have hsound : Sound (runFrom (step py) s pre) :=
    Along.invariant (fun s a h hs => step_sound py h.1 hs h.2)
      (Along.and_iff.2 ⟨hadmitted, (Along.append_iff.1 hkeeps).1⟩) hs
  rw [runFrom_append, runFrom_cons, runFrom_nil]
  exact step_counted py hlast.1 hsound

/-- Two rules. -/
def twoRules : Store :=
  (Dict.empty.set "a" (fromBody [] "a" (.str "x"))).set "b" (fromBody [] "b" (.str "y"))

lemma get_twoRules {i : String} {r : Rule} (h : twoRules.get i = some r) :
    i = "b" ∧ r = fromBody [] "b" (.str "y") ∨ i = "a" ∧ r = fromBody [] "a" (.str "x") := by
  rw [twoRules, Dict.get_set, Dict.get_set] at h
  split_ifs at h with hb ha
  · exact .inl ⟨hb, (Option.some.inj h).symm⟩
  · exact .inr ⟨ha, (Option.some.inj h).symm⟩
  · cases h

lemma sound_twoRules : Sound twoRules where
  keyed i r hr := by
    rcases get_twoRules hr with ⟨rfl, rfl⟩ | ⟨rfl, rfl⟩ <;> rfl
  distinct i j r q hr hq heq := by
    rcases get_twoRules hr with ⟨rfl, rfl⟩ | ⟨rfl, rfl⟩ <;>
      rcases get_twoRules hq with ⟨rfl, rfl⟩ | ⟨rfl, rfl⟩
    · rfl
    · exact absurd heq (by decide)
    · exact absurd heq (by decide)
    · rfl
  proper i r hr := by
    rcases get_twoRules hr with ⟨rfl, rfl⟩ | ⟨rfl, rfl⟩ <;> trivial

/-- A rule is renamed and the other deleted. -/
theorem identified_iff_renamed :
    ((∀ pre, pre <+: [.put ⟨"elastic", ""⟩ [("id", .str "a"), ("name", .str "n")],
          .delete none (some "y")] →
        Identified (runFrom (step asciiPython) twoRules pre))
      ∧ ∀ pre a, pre ++ [a] <+: [.put ⟨"elastic", ""⟩ [("id", .str "a"), ("name", .str "n")],
          .delete none (some "y")] →
        Counted (runFrom (step asciiPython) twoRules pre)
          (runFrom (step asciiPython) twoRules (pre ++ [a])))
      ↔ Along (step asciiPython) (Keeps asciiPython) twoRules
        [.put ⟨"elastic", ""⟩ [("id", .str "a"), ("name", .str "n")], .delete none (some "y")] := by
  refine identified_iff asciiPython sound_twoRules ⟨?_, trivial, trivial⟩
  intro v hv
  cases hv

/-- A `PUT` gives a rule the `rule_id` of the other. -/
theorem identified_iff_taken :
    Sound twoRules
      ∧ Admitted twoRules (.put ⟨"elastic", ""⟩ [("id", .str "a"), ("rule_id", .str "y")])
      ∧ ¬Identified (step asciiPython twoRules
        (.put ⟨"elastic", ""⟩ [("id", .str "a"), ("rule_id", .str "y")])) := by
  refine ⟨sound_twoRules, ?_, fun h => ?_⟩
  · intro v hv
    obtain rfl := Option.some.inj hv
    trivial
  · have hunclaimed := keeps_of_identified asciiPython h (fromBody [] "a" (.str "x")) rfl
    have hother := hunclaimed (.str "y") rfl "b" (fromBody [] "b" (.str "y")) (by decide) rfl
    cases hother

end EsRules

end Mockdr
