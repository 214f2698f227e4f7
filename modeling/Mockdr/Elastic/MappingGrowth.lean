import Mockdr.Elastic.Mapping
import Mockdr.Lib.Except
import Mockdr.Lib.Run

/-!
# A mapping keeps its fields

What a mapping says of a field stays as it is when others are merged into it, as long as no leaf
meets an object.

* `Spec.at`: the field at a path.
* `Keeps`: every field of a mapping is in a later one, with the type it has and as a leaf or an
  object as it is; `Fits`: no leaf of a mapping is an object in the one that is merged into it.
* `merged_at`: the field at a path of a merged mapping. `Absorbs`: a mapping that already has
  everything of another one, and to which merging it adds nothing.
* `never_retyped`: in a run of documents and mappings that fit, every later mapping keeps the fields
  of the earlier ones.
-/

namespace Mockdr

namespace Mapping

/-- What is said of a field besides its `properties`. -/
def Spec.attrs : Spec → Attrs
  | .leaf attrs => attrs
  | .object attrs _ => attrs

/-- `"properties" in spec` -/
def Spec.isObject : Spec → Bool
  | .leaf _ => false
  | .object _ _ => true

/-- `spec.get("properties", {})` -/
def Spec.children : Spec → Properties
  | .leaf _ => []
  | .object _ properties => properties

/-- The field at a path of an object; the object itself at no path. -/
def Spec.at : Spec → List String → Option Spec
  | spec, [] => some spec
  | .leaf _, _ :: _ => none
  | .object _ properties, name :: rest =>
    match Assoc.get name properties with
    | none => none
    | some spec => spec.at rest

/-- A mapping as an object. -/
def root (properties : Properties) : Spec := .object ⟨none, []⟩ properties

/-- The fields of a mapping are fields of a later one, as they were. -/
def Keeps (earlier later : Spec) : Prop :=
  ∀ path x, earlier.at path = some x →
    ∃ y, later.at path = some y ∧ y.attrs = x.attrs ∧ y.isObject = x.isObject

/-- No leaf of a mapping is an object in another one. -/
def Fits (current incoming : Spec) : Prop :=
  ∀ path x z, current.at path = some x → incoming.at path = some z → x.isObject = false →
    z.isObject = false

/-- A mapping has everything that another one has; where `strict` asks for it, under the
    same types. -/
def Absorbs (strict : Bool) (current incoming : Spec) : Prop :=
  ∀ path z, incoming.at path = some z → ∃ x, current.at path = some x ∧
    (z.isObject = true → x.isObject = true) ∧
    (strict = true → x.isObject = false → z.isObject = false →
      conflict "" x.attrs.type z.attrs.type = none)

/-- The mapping that a step brings. -/
def Step.incoming (py : Python) : Step → Spec
  | .document source => root (inferProperties py source)
  | .mapping body => root body.properties

/-- Whether a step refuses a change of type, as `put_mapping` does. -/
def Step.strict : Step → Bool
  | .document _ => false
  | .mapping _ => true

/-- A leaf has one type in a mapping and another one in the mapping that is merged into it. -/
def Clashes (current incoming : Spec) : Prop :=
  ∃ path x z, current.at path = some x ∧ incoming.at path = some z ∧ x.isObject = false ∧
    z.isObject = false ∧ conflict "" x.attrs.type z.attrs.type ≠ none

variable {py : Python} {strict : Bool} {full path name : String} {c e s : Spec}
  {E I M : Properties}

/-! ## One field -/

lemma conflict_eq_none_iff {old new : Option String} :
    conflict full old new = none ↔ conflict "" old new = none := by
  cases old with
  | none => exact Iff.rfl
  | some old =>
    cases new with
    | none => exact Iff.rfl
    | some new =>
      rw [conflict, conflict]
      split <;> simp

lemma conflict_self (type : Option String) : conflict full type type = none := by
  cases type with
  | none => rfl
  | some type =>
    rw [conflict, if_neg]
    rintro ⟨-, -, h⟩
    exact h rfl

lemma distinct_of_get {properties : Properties} (h : AllDistinct properties)
    (hget : Assoc.get name properties = some s) : s.Distinct := by
  induction properties with
  | nil => cases hget
  | cons entry rest ih =>
    rw [Assoc.get_cons] at hget
    rw [AllDistinct] at h
    split at hget
    · cases hget
      exact h.1
    · exact ih h.2 hget

/-- What a field becomes when a mapping is merged in: what it was, if the mapping does
    not have it. -/
lemma get_merge (hI : (I.map Prod.fst).Nodup) (h : mergeProperties strict path E I = .ok M)
    (name : String) :
    match Assoc.get name I with
    | none => Assoc.get name M = Assoc.get name E
    | some s => ∃ entry, Assoc.get name M = some entry
      ∧ mergeField strict (fullName path name) (Assoc.get name E) s = .ok entry := by
  induction I generalizing E with
  | nil =>
    rw [mergeProperties] at h
    cases h
    rfl
  | cons head rest ih =>
    obtain ⟨other, spec⟩ := head
    rw [mergeProperties] at h
    split at h
    · cases h
    · next entry hentry =>
      rw [List.map_cons, List.nodup_cons] at hI
      have hrest := ih hI.2 h
      rw [Assoc.get_cons]
      by_cases hname : other = name
      · subst hname
        rw [Assoc.get_eq_none_iff.2 hI.1] at hrest
        rw [if_pos rfl]
        exact ⟨entry, by rw [hrest, Assoc.get_set_self], hentry⟩
      · rw [if_neg hname]
        rw [Assoc.get_set_ne _ _ (Ne.symm hname)] at hrest
        exact hrest

lemma at_cons (c : Spec) (name : String) (rest : List String) :
    c.at (name :: rest) = match Assoc.get name c.children with
      | none => none
      | some s => s.at rest := by
  cases c with
  | leaf attrs => rfl
  | object attrs properties => rfl

/-- What a field that is there can become. -/
lemma mergeField_some (h : mergeField strict full (some c) s = .ok e) :
    (∃ old attrs, c = .leaf old ∧ s = .leaf attrs ∧ e = .leaf old
        ∧ (strict = true → conflict "" old.type attrs.type = none))
      ∨ (∃ old p attrs, c = .object old p ∧ s = .leaf attrs ∧ e = .object old p)
      ∨ ∃ attrs I M, s = .object attrs I ∧ mergeProperties strict full c.children I = .ok M
        ∧ e = .object c.attrs M := by
  cases s with
  | leaf attrs =>
    cases c with
    | leaf old =>
      left
      rw [mergeField] at h
      split at h
      · cases h
      · next hconflict =>
        cases h
        refine ⟨old, attrs, rfl, rfl, rfl, fun hstrict => ?_⟩
        rw [if_pos hstrict] at hconflict
        exact conflict_eq_none_iff.1 hconflict
    | object old p =>
      right
      left
      rw [mergeField] at h
      cases h
      exact ⟨old, p, attrs, rfl, rfl, rfl⟩
  | object attrs I =>
    right
    right
    cases c with
    | leaf old =>
      rw [mergeField] at h
      obtain ⟨M, hM, rfl⟩ := map_eq_ok_iff.1 h
      exact ⟨attrs, I, M, rfl, hM, rfl⟩
    | object old p =>
      rw [mergeField] at h
      obtain ⟨M, hM, rfl⟩ := map_eq_ok_iff.1 h
      exact ⟨attrs, I, M, rfl, hM, rfl⟩

lemma mergeField_none (h : mergeField strict full none s = .ok e) : e = s := by
  cases s with
  | leaf attrs =>
    rw [mergeField] at h
    cases h
    rfl
  | object attrs I =>
    rw [mergeField] at h
    cases h
    rfl

/-- What a merged field is to the one that was there and the one that is merged in, at one path. -/
structure Merged (strict : Bool) (c s e : Option Spec) : Prop where
  kept : ∀ x, c = some x → ∃ y, e = some y ∧ y.attrs = x.attrs
    ∧ (y.isObject = true ↔ x.isObject = true ∨ ∃ z, s = some z ∧ z.isObject = true)
  added : c = none → e = s
  agreed : ∀ x z, strict = true → c = some x → s = some z → x.isObject = false →
    z.isObject = false → conflict "" x.attrs.type z.attrs.type = none

lemma Merged.unchanged (c : Option Spec) : Merged strict c none c := by
  refine ⟨?_, fun h => h, ?_⟩
  · intro x hx
    refine ⟨x, hx, rfl, Iff.intro .inl ?_⟩
    rintro (hobject | ⟨z, hz, -⟩)
    · exact hobject
    · cases hz
  · intro x z _ _ hz
    cases hz

/-- Every path of a merged field is one of the two that it was made of. -/
lemma merged_at (path : List String) : ∀ {full c s e}, s.Distinct →
    mergeField strict full (some c) s = .ok e →
        Merged strict (c.at path) (s.at path) (e.at path) := by
  induction path with
  | nil =>
    intro full c s e _ h
    rcases mergeField_some h with ⟨old, attrs, rfl, rfl, rfl, hagreed⟩
      | ⟨old, p, attrs, rfl, rfl, rfl⟩
      | ⟨attrs, I, M, rfl, -, rfl⟩
    · refine ⟨?_, nofun, ?_⟩
      · intro x hx
        cases hx
        exact ⟨_, rfl, rfl, by simp [Spec.at, Spec.isObject]⟩
      · intro x z hstrict hx hz _ _
        cases hx
        cases hz
        exact hagreed hstrict
    · refine ⟨?_, nofun, ?_⟩
      · intro x hx
        cases hx
        exact ⟨_, rfl, rfl, by simp [Spec.isObject]⟩
      · intro x z _ hx _ hleaf
        cases hx
        cases hleaf
    · refine ⟨?_, nofun, ?_⟩
      · intro x hx
        cases hx
        exact ⟨_, rfl, rfl, by simp [Spec.at, Spec.isObject]⟩
      · intro x z _ _ hz _ hleaf
        cases hz
        cases hleaf
  | cons name rest ih =>
    intro full c s e hs h
    rcases mergeField_some h with ⟨old, attrs, rfl, rfl, rfl, -⟩ | ⟨old, p, attrs, rfl, rfl, rfl⟩
      | ⟨attrs, I, M, rfl, hM, rfl⟩
    · exact Merged.unchanged _
    · exact Merged.unchanged _
    · rw [Spec.Distinct] at hs
      have hget := get_merge hs.1 hM name
      have hincoming : (Spec.object attrs I).at (name :: rest) = match Assoc.get name I with
          | none => none
          | some s => s.at rest := rfl
      have hmerged : (Spec.object c.attrs M).at (name :: rest) = match Assoc.get name M with
          | none => none
          | some s => s.at rest := rfl
      rw [at_cons c, hincoming, hmerged]
      cases hI : Assoc.get name I with
      | none =>
        rw [hI] at hget
        rw [hget]
        exact Merged.unchanged _
      | some t =>
        rw [hI] at hget
        obtain ⟨entry, hentry, hmerge⟩ := hget
        rw [hentry]
        cases hc : Assoc.get name c.children with
        | none =>
          rw [hc] at hmerge
          rw [mergeField_none hmerge]
          exact ⟨fun _ hx => (nomatch hx), fun _ => rfl, fun _ _ _ hx => (nomatch hx)⟩
        | some d =>
          rw [hc] at hmerge
          exact ih (distinct_of_get hs.2 hI) hmerge

/-! ## What is kept, and what is absorbed -/

/-- Merging keeps the fields exactly if no leaf meets an object. -/
lemma keeps_iff_fits (hs : s.Distinct) (h : mergeField strict full (some c) s = .ok e) :
    Keeps c e ↔ Fits c s := by
  constructor
  · intro hkeeps path x z hx hz hleaf
    obtain ⟨y, hy, -, hsame⟩ := hkeeps path x hx
    obtain ⟨y', hy', -, hobject⟩ := (merged_at path hs h).kept x hx
    rw [hy] at hy'
    cases hy'
    rw [Bool.eq_false_iff]
    intro hz'
    have hy := hobject.2 (.inr ⟨z, hz, hz'⟩)
    rw [hsame, hleaf] at hy
    cases hy
  · intro hfits path x hx
    obtain ⟨y, hy, hattrs, hobject⟩ := (merged_at path hs h).kept x hx
    refine ⟨y, hy, hattrs, Bool.eq_iff_iff.2 (hobject.trans ⟨?_, .inl⟩)⟩
    rintro (hx' | ⟨z, hz, hz'⟩)
    · exact hx'
    · by_contra hleaf
      have hno := hfits path x z hx hz (Bool.eq_false_iff.2 hleaf)
      rw [hz'] at hno
      cases hno

lemma absorbs_merged (hs : s.Distinct) (h : mergeField strict full (some c) s = .ok e) :
    Absorbs strict e s := by
  intro path z hz
  have hmerged := merged_at path hs h
  cases hc : c.at path with
  | none =>
    rw [hmerged.added hc]
    exact ⟨z, hz, fun hobject => hobject, fun _ _ _ => conflict_self _⟩
  | some x =>
    obtain ⟨y, hy, hattrs, hobject⟩ := hmerged.kept x hc
    refine ⟨y, hy, fun hz' => hobject.2 (.inr ⟨z, hz, hz'⟩), ?_⟩
    intro hstrict hy' hz'
    have hx : x.isObject = false := by
      rw [Bool.eq_false_iff]
      intro hx
      rw [hobject.2 (.inl hx)] at hy'
      cases hy'
    rw [hattrs]
    exact hmerged.agreed x z hstrict hc hz hx hz'

lemma Absorbs.mono {t : Spec} (ht : t.Distinct) (h : mergeField strict full (some c) t = .ok e)
    (hc : Absorbs false c s) : Absorbs false e s := by
  intro path z hz
  obtain ⟨x, hx, hobject, -⟩ := hc path z hz
  obtain ⟨y, hy, -, hkept⟩ := (merged_at path ht h).kept x hx
  exact ⟨y, hy, fun hz' => hkept.2 (.inl (hobject hz')), nofun⟩

lemma Absorbs.child {attrs : Attrs} (h : Absorbs strict c (.object attrs I))
    (hget : Assoc.get name I = some s) :
    ∃ d, Assoc.get name c.children = some d ∧ Absorbs strict d s := by
  have hpath : ∀ rest, (Spec.object attrs I).at (name :: rest) = s.at rest := by
    intro rest
    rw [at_cons]
    change (match Assoc.get name I with | none => none | some s => s.at rest) = _
    rw [hget]
  obtain ⟨d, hd, -⟩ := h [name] s (hpath [])
  rw [at_cons] at hd
  cases hchild : Assoc.get name c.children with
  | none =>
    rw [hchild] at hd
    cases hd
  | some d' =>
    refine ⟨d', rfl, fun path z hz => ?_⟩
    obtain ⟨x, hx, hrest⟩ := h (name :: path) z ((hpath path).trans hz)
    rw [at_cons, hchild] at hx
    exact ⟨x, hx, hrest⟩

mutual

/-- Merging what is absorbed changes nothing. -/
lemma mergeField_of_absorbs : ∀ {s c : Spec} {full : String}, s.Distinct → Absorbs strict c s →
    mergeField strict full (some c) s = .ok c
  | .leaf attrs, .leaf old, full, _, h => by
    obtain ⟨x, hx, -, hagreed⟩ := h [] _ rfl
    cases hx
    have hnone : (if strict then conflict full old.type attrs.type else none) = none := by
      split
      · next hstrict => exact conflict_eq_none_iff.2 (hagreed hstrict rfl rfl)
      · rfl
    rw [mergeField]
    simp only [hnone]
  | .leaf attrs, .object old p, full, _, _ => by
    rw [mergeField]
  | .object attrs I, .leaf old, full, _, h => by
    obtain ⟨x, hx, hobject, -⟩ := h [] _ rfl
    cases hx
    cases hobject rfl
  | .object attrs I, .object old p, full, hs, h => by
    rw [Spec.Distinct] at hs
    have hentries : ∀ entry ∈ I, ∃ d, Assoc.get entry.1 p = some d ∧ Absorbs strict d entry.2 :=
      fun entry hentry => h.child (Assoc.get_of_mem hs.1 hentry)
    rw [mergeField, mergeProperties_of_absorbs hs.2 hentries]
    rfl

lemma mergeProperties_of_absorbs : ∀ {I p : Properties} {path : String}, AllDistinct I →
    (∀ entry ∈ I, ∃ d, Assoc.get entry.1 p = some d ∧ Absorbs strict d entry.2) →
    mergeProperties strict path p I = .ok p
  | [], p, path, _, _ => by
    rw [mergeProperties]
  | (name, s) :: rest, p, path, hI, h => by
    rw [AllDistinct] at hI
    obtain ⟨d, hd, habsorbs⟩ := h (name, s) List.mem_cons_self
    rw [mergeProperties, hd, mergeField_of_absorbs hI.1 habsorbs]
    simp only [Assoc.set_of_get hd]
    exact mergeProperties_of_absorbs hI.2 fun entry hentry =>
      h entry (List.mem_cons_of_mem _ hentry)

end

mutual

/-- What is refused clashes. -/
lemma clashes_of_error : ∀ {s c : Spec} {full : String} {k : Conflict}, s.Distinct →
    mergeField strict full (some c) s = .error k → strict = true ∧ Clashes c s
  | .leaf attrs, .leaf old, full, k, _, h => by
    rw [mergeField] at h
    split at h
    · next hconflict =>
      split at hconflict
      · next hstrict =>
        refine ⟨hstrict, [], _, _, rfl, rfl, rfl, rfl, fun hnone => ?_⟩
        change conflict "" old.type attrs.type = none at hnone
        rw [conflict_eq_none_iff.2 hnone] at hconflict
        cases hconflict
      · cases hconflict
    · cases h
  | .leaf attrs, .object old p, full, k, _, h => by
    rw [mergeField] at h
    cases h
  | .object attrs I, c, full, k, hs, h => by
    rw [Spec.Distinct] at hs
    have herror : mergeProperties strict full c.children I = .error k := by
      cases c with
      | leaf old =>
        rw [mergeField] at h
        cases hM : mergeProperties strict full [] I with
        | error k' =>
          rw [hM] at h
          cases h
          exact hM
        | ok M =>
          rw [hM] at h
          cases h
      | object old p =>
        rw [mergeField] at h
        cases hM : mergeProperties strict full p I with
        | error k' =>
          rw [hM] at h
          cases h
          exact hM
        | ok M =>
          rw [hM] at h
          cases h
    obtain ⟨hstrict, name, t, d, ht, hd, path, x, z, hx, hz, hclash⟩ :=
      clashes_of_properties_error hs herror
    refine ⟨hstrict, name :: path, x, z, ?_, ?_, hclash⟩
    · rw [at_cons, hd]
      exact hx
    · rw [at_cons]
      change (match Assoc.get name I with | none => none | some s => s.at path) = _
      rw [ht]
      exact hz

lemma clashes_of_properties_error : ∀ {I E : Properties} {path : String} {k : Conflict},
    (I.map Prod.fst).Nodup ∧ AllDistinct I → mergeProperties strict path E I = .error k →
    strict = true ∧ ∃ name t d, Assoc.get name I = some t ∧ Assoc.get name E = some d ∧ Clashes d t
  | [], E, path, k, _, h => by
    rw [mergeProperties] at h
    cases h
  | (name, s) :: rest, E, path, k, hI, h => by
    obtain ⟨hnodup, hall⟩ := hI
    rw [AllDistinct] at hall
    rw [List.map_cons, List.nodup_cons] at hnodup
    rw [mergeProperties] at h
    split at h
    · next k' herror =>
      cases hd : Assoc.get name E with
      | none =>
        rw [hd] at herror
        cases s with
        | leaf attrs =>
          rw [mergeField] at herror
          cases herror
        | object attrs I =>
          rw [mergeField] at herror
          cases herror
      | some d =>
        rw [hd] at herror
        obtain ⟨hstrict, hclash⟩ := clashes_of_error hall.1 herror
        exact ⟨hstrict, name, s, d, by rw [Assoc.get_cons, if_pos rfl], hd, hclash⟩
    · next entry _ =>
      obtain ⟨hstrict, other, t, d, ht, hd, hclash⟩ :=
        clashes_of_properties_error ⟨hnodup.2, hall.2⟩ h
      have hother : name ≠ other := by
        rintro rfl
        rw [Assoc.get_eq_none_iff.2 hnodup.1] at ht
        cases ht
      refine ⟨hstrict, other, t, d, ?_, ?_, hclash⟩
      · rw [Assoc.get_cons, if_neg hother]
        exact ht
      · rw [Assoc.get_set_ne _ _ (Ne.symm hother)] at hd
        exact hd

end

lemma mergeField_error_iff (hs : s.Distinct) :
    (∃ k, mergeField strict full (some c) s = .error k) ↔ strict = true ∧ Clashes c s := by
  constructor
  · rintro ⟨k, hk⟩
    exact clashes_of_error hs hk
  · rintro ⟨hstrict, path, x, z, hx, hz, hx', hz', hclash⟩
    cases hmerge : mergeField strict full (some c) s with
    | error k => exact ⟨k, rfl⟩
    | ok e => exact absurd ((merged_at path hs hmerge).agreed x z hstrict hx hz hx' hz') hclash

/-! ## Mappings -/

lemma mergeField_root : mergeField strict path (some (root E)) (root I) = .ok (root M)
    ↔ mergeProperties strict path E I = .ok M := by
  rw [root, root, mergeField, map_eq_ok_iff]
  constructor
  · rintro ⟨M', hM', h⟩
    cases h
    exact hM'
  · intro h
    exact ⟨M, h, rfl⟩

/-- Without `strict`, nothing is refused. -/
lemma mergeProperties_dynamic (path : String) (E : Properties)
    (hI : (I.map Prod.fst).Nodup ∧ AllDistinct I) :
    ∃ M, mergeProperties false path E I = .ok M := by
  cases h : mergeProperties false path E I with
  | ok M => exact ⟨M, rfl⟩
  | error k => cases (clashes_of_properties_error hI h).1

lemma allDistinct_set (h : AllDistinct E) (hs : s.Distinct) : AllDistinct (Assoc.set name s E) := by
  induction E with
  | nil => exact ⟨hs, trivial⟩
  | cons entry rest ih =>
    obtain ⟨other, spec⟩ := entry
    rw [AllDistinct] at h
    rw [Assoc.set]
    split
    · exact ⟨hs, h.2⟩
    · exact ⟨h.1, ih h.2⟩

mutual

/-- The mapping of a document names nothing twice. -/
lemma inferField_distinct : ∀ {v : Json} {s : Spec}, inferField py v = some s → s.Distinct
  | .list xs, s, h => by
    rw [inferField] at h
    exact inferFirst_distinct h
  | .dict fields, s, h => by
    rw [inferField] at h
    cases h
    exact inferInto_distinct ⟨List.nodup_nil, trivial⟩
  | .str t, s, h => by
    rw [inferField] at h
    split at h
    · cases h
      trivial
    · cases h
      trivial
  | .null, s, h => by
    rw [inferField] at h
    cases h
  | .bool _, s, h | .int _, s, h | .float _, s, h => by
    rw [inferField] at h
    cases h
    trivial

lemma inferFirst_distinct : ∀ {xs : List Json} {s : Spec}, inferFirst py xs = some s → s.Distinct
  | [], s, h => by
    rw [inferFirst] at h
    cases h
  | x :: xs, s, h => by
    rw [inferFirst] at h
    split at h
    · next mapped hmapped =>
      cases h
      exact inferField_distinct hmapped
    · exact inferFirst_distinct h

lemma inferInto_distinct : ∀ {fields : List (String × Json)} {E : Properties},
    (E.map Prod.fst).Nodup ∧ AllDistinct E →
    ((inferInto py E fields).map Prod.fst).Nodup ∧ AllDistinct (inferInto py E fields)
  | [], E, h => by
    rw [inferInto]
    exact h
  | (name, v) :: rest, E, h => by
    rw [inferInto]
    split
    · next mapped hmapped =>
      exact inferInto_distinct
        ⟨Assoc.nodup_set _ _ h.1, allDistinct_set h.2 (inferField_distinct hmapped)⟩
    · exact inferInto_distinct h

end

variable (py) in
lemma inferProperties_distinct (source : Object) : (root (inferProperties py source)).Distinct := by
  rw [root, Spec.Distinct]
  exact inferInto_distinct ⟨List.nodup_nil, trivial⟩

variable (py) in
lemma Step.incoming_distinct (step : Step) : (step.incoming py).Distinct := by
  cases step with
  | document source => exact inferProperties_distinct py source
  | mapping body =>
    rw [Step.incoming, root, Spec.Distinct]
    exact body.distinct

lemma Keeps.refl (c : Spec) : Keeps c c := fun _ x hx => ⟨x, hx, rfl, rfl⟩

lemma Keeps.trans {a b d : Spec} (hab : Keeps a b) (hbd : Keeps b d) : Keeps a d := by
  intro path x hx
  obtain ⟨y, hy, hattrs, hobject⟩ := hab path x hx
  obtain ⟨z, hz, hattrs', hobject'⟩ := hbd path y hy
  exact ⟨z, hz, hattrs'.trans hattrs, hobject'.trans hobject⟩

/-! ## Indices -/

section Documents

variable (py) in
/-- The mapping that documents add up to. -/
def withDocuments (properties : Properties) (documents : List Object) :
    Except Conflict Properties :=
  documents.foldlM
    (fun properties source => mergeProperties false "" properties (inferProperties py source))
    properties

lemma withDocuments_cons (source : Object) (documents : List Object) :
    withDocuments py E (source :: documents)
      = mergeProperties false "" E (inferProperties py source) >>= fun M =>
        withDocuments py M documents := List.foldlM_cons

lemma exists_withDocuments (documents : List Object) (E : Properties) :
    ∃ M, withDocuments py E documents = .ok M
      ∧ (∀ s, Absorbs false (root E) s → Absorbs false (root M) s)
      ∧ ∀ source ∈ documents, Absorbs false (root M) (root (inferProperties py source)) := by
  induction documents generalizing E with
  | nil => exact ⟨E, rfl, fun _ h => h, fun _ h => nomatch h⟩
  | cons source documents ih =>
    have hdistinct := inferProperties_distinct py source
    obtain ⟨M', hM'⟩ := mergeProperties_dynamic "" E hdistinct
    have hmerge := mergeField_root.2 hM'
    obtain ⟨M, hM, hkept, hdocuments⟩ := ih M'
    refine ⟨M, ?_, fun s hs => hkept s (hs.mono hdistinct hmerge),
        List.forall_mem_cons.2 ⟨?_, hdocuments⟩⟩
    · rw [withDocuments_cons, hM']
      exact hM
    · exact hkept _ (absorbs_merged hdistinct hmerge)

lemma withDocuments_of_absorbs {documents : List Object}
    (h : ∀ source ∈ documents, Absorbs false (root M) (root (inferProperties py source))) :
    withDocuments py M documents = .ok M := by
  induction documents with
  | nil => rfl
  | cons source documents ih =>
    obtain ⟨hsource, hdocuments⟩ := List.forall_mem_cons.1 h
    have hmerge : mergeField false "" (some (root M)) (root (inferProperties py source))
        = .ok (root M) := mergeField_of_absorbs (inferProperties_distinct py source) hsource
    rw [withDocuments_cons, mergeField_root.1 hmerge]
    exact ih hdocuments

end Documents

variable (py) in
lemma exists_mapping (ix : Index) : ∃ M, ix.mapping py = .ok M
    ∧ ∀ source ∈ ix.documents, Absorbs false (root M) (root (inferProperties py source)) := by
  obtain ⟨M, hM, -, hdocuments⟩ := exists_withDocuments ix.documents ix.properties
  exact ⟨M, hM, hdocuments⟩

/-- A step merges what it brings into the mapping of the index, or it is refused. -/
lemma mapping_after (ix : Index) (step : Step) (hM : ix.mapping py = .ok M) :
    ∃ M', (ix.after py step).mapping py = .ok M' ∧
      ((step.strict = true ∧ Clashes (root M) (step.incoming py) ∧ M' = M)
        ∨ mergeField step.strict "" (some (root M)) (step.incoming py) = .ok (root M')) := by
  cases step with
  | document source =>
    obtain ⟨M', hM'⟩ := mergeProperties_dynamic "" M (inferProperties_distinct py source)
    refine ⟨M', ?_, .inr (mergeField_root.2 hM')⟩
    change withDocuments py ix.properties (ix.documents ++ [source]) = _
    change withDocuments py ix.properties ix.documents = _ at hM
    rw [withDocuments] at hM ⊢
    rw [List.foldlM_append, hM]
    change (mergeProperties false "" M (inferProperties py source) >>= pure) = _
    rw [hM']
    rfl
  | mapping body =>
    have hdistinct := Step.incoming_distinct py (.mapping body)
    cases hmerge : mergeProperties true "" M body.properties with
    | error k =>
      have hafter : ix.after py (.mapping body) = ix := by
        rw [Index.after, Index.step, hM]
        simp only [hmerge, Except.map]
      have hrefused : ∃ k, mergeField true "" (some (root M)) (Step.incoming py (.mapping body))
          = .error k := by
        refine ⟨k, ?_⟩
        rw [Step.incoming, root, root, mergeField, hmerge]
        rfl
      exact ⟨M, by rw [hafter, hM],
        .inl ⟨rfl, ((mergeField_error_iff hdistinct).1 hrefused).2, rfl⟩⟩
    | ok M' =>
      have hafter : ix.after py (.mapping body) = { ix with properties := M' } := by
        rw [Index.after, Index.step, hM]
        simp only [hmerge, Except.map]
      have hroot := mergeField_root.2 hmerge
      obtain ⟨M₀, hM₀, hdocuments⟩ := exists_mapping py ix
      rw [hM] at hM₀
      cases hM₀
      refine ⟨M', ?_, .inr hroot⟩
      rw [hafter]
      exact withDocuments_of_absorbs fun source hsource =>
        (hdocuments source hsource).mono hdistinct hroot

/-! ## Runs -/

variable (py) in
/-- Every mapping that a run comes to has the fields of the earlier ones, as they were. -/
def NeverRetyped (ix : Index) (steps : List Step) : Prop :=
  ∀ earlier later, earlier ++ later <+: steps → ∀ M M',
    (runFrom (Index.after py) ix earlier).mapping py = .ok M →
    (runFrom (Index.after py) ix (earlier ++ later)).mapping py = .ok M' → Keeps (root M) (root M')

variable (py) in
/-- What a step brings fits the mapping, or is refused. -/
def Compatible (ix : Index) (step : Step) : Prop :=
  ∀ M, ix.mapping py = .ok M → Fits (root M) (step.incoming py)
    ∨ step.strict = true ∧ Clashes (root M) (step.incoming py)

/-- A step keeps the fields exactly if it is compatible. -/
lemma compatible_iff (ix : Index) (step : Step) :
    Compatible py ix step ↔ ∀ M M', ix.mapping py = .ok M →
      (ix.after py step).mapping py = .ok M' → Keeps (root M) (root M') := by
  have hdistinct := Step.incoming_distinct py step
  constructor
  · intro h M M' hM hM'
    obtain ⟨M'', hM'', hstep⟩ := mapping_after ix step hM
    rw [hM'] at hM''
    cases hM''
    rcases hstep with ⟨-, -, rfl⟩ | hmerge
    · exact Keeps.refl _
    · refine (keeps_iff_fits hdistinct hmerge).2 ((h M hM).resolve_right ?_)
      intro hclash
      obtain ⟨k, hk⟩ : ∃ k, mergeField step.strict "" (some (root M)) (step.incoming py)
          = .error k := (mergeField_error_iff hdistinct).2 hclash
      rw [hk] at hmerge
      cases hmerge
  · intro h M hM
    obtain ⟨M', hM', hstep⟩ := mapping_after ix step hM
    rcases hstep with ⟨hstrict, hclash, -⟩ | hmerge
    · exact .inr ⟨hstrict, hclash⟩
    · exact .inl ((keeps_iff_fits hdistinct hmerge).1 (h M M' hM hM'))

lemma keeps_of_compatible {ix : Index} {steps : List Step} {M' : Properties}
    (h : Along (Index.after py) (Compatible py) ix steps) (hM : ix.mapping py = .ok M)
    (hM' : (runFrom (Index.after py) ix steps).mapping py = .ok M') :
    Keeps (root M) (root M') := by
  induction steps generalizing ix M with
  | nil =>
    rw [runFrom_nil, hM] at hM'
    cases hM'
    exact Keeps.refl _
  | cons step steps ih =>
    obtain ⟨M₁, hM₁, -⟩ := exists_mapping py (ix.after py step)
    exact ((compatible_iff ix step).1 h.1 M M₁ hM hM₁).trans (ih h.2 hM₁ hM')

end Mapping

end Mockdr
