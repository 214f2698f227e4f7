import Mathlib.Data.List.Infix
import Mockdr.Elastic.Fnmatch
import Mockdr.Python

/-!
# The fields that a search returns

`apply_source_filter` of `utils/es_query.py`, which keeps the fields of a document that the
`_source` directive of a search names.

* `project`: the fields that are kept. A pattern is compared with the names of a document's own
  fields, whatever stands in them.
* `leaves`: the values of a document that are not objects or lists, each under the dotted path of
  the fields it is in.
* `selected`: whether patterns name a path, as it is written or as an object that it is in.
* `exact_iff`: the leaves that are returned are the selected ones exactly if no pattern reaches into
  a field that it does not name.
-/

namespace Mockdr

namespace SourceFilter

variable (py : Python)

/-! ## The filter -/

/-- `_as_patterns` -/
def asPatterns : Json → List String
  | .str s => [s]
  | .list xs => xs.map py.toStr
  | .null | .bool _ | .int _ | .float _ | .dict _ => []

/-- Whether the patterns to include match the name of a field. -/
def includesName (includes : List String) (field : String) : Bool :=
  includes.isEmpty || includes.any (fnmatch field)

/-- `keep` of `_project` -/
def keep (includes excludes : List String) (field : String) : Bool :=
  includesName includes field && !excludes.any (fnmatch field)

/-- `_project` -/
def project (record : Object) (includes excludes : List String) : Object :=
  record.filter fun entry => keep includes excludes entry.1

/-- A hit: its document, unless that was dropped, and what stands beside it. -/
structure Hit where
  beside : Object
  source : Option Object

/-- `a or b` -/
def orElse (a b : Json) : Json := if a.truthy then a else b

/-- The patterns of a `_source` directive. -/
def patternsOf : Json → List String × List String
  | .dict spec =>
    (asPatterns py (orElse (Object.get spec "includes") (Object.get spec "include")),
      asPatterns py (orElse (Object.get spec "excludes") (Object.get spec "exclude")))
  | spec => (asPatterns py spec, [])

/-- `apply_source_filter` -/
def applySourceFilter (hits : List Hit) (spec : Json) : List Hit :=
  match spec with
  | .null | .bool true => hits
  | .bool false => hits.map fun hit => { hit with source := none }
  | spec =>
    let (includes, excludes) := patternsOf py spec
    if includes.isEmpty && excludes.isEmpty then hits
    else
      hits.map fun hit =>
        { hit with source := some (project (hit.source.getD []) includes excludes) }

/-! ## Leaves -/

mutual

/-- The leaves of a value at a path; an empty object and an empty list are leaves too. The members
    of a list have the path of the list. -/
def leavesAt (path : String) : Json → List (String × Json)
  | .dict [] => [(path, .dict [])]
  | .dict (entry :: rest) => fieldLeaves (path ++ ".") (entry :: rest)
  | .list [] => [(path, .list [])]
  | .list (x :: xs) => memberLeaves path (x :: xs)
  | .null => [(path, .null)]
  | .bool b => [(path, .bool b)]
  | .int n => [(path, .int n)]
  | .float q => [(path, .float q)]
  | .str s => [(path, .str s)]

/-- The leaves of some fields, whose names stand behind a text. -/
def fieldLeaves (front : String) : List (String × Json) → List (String × Json)
  | [] => []
  | (name, v) :: rest => leavesAt (front ++ name) v ++ fieldLeaves front rest

/-- The leaves of the members of a list. -/
def memberLeaves (path : String) : List Json → List (String × Json)
  | [] => []
  | x :: xs => leavesAt path x ++ memberLeaves path xs

end

/-- The leaves of a field of a document. -/
def entryLeaves (entry : String × Json) : List (String × Json) := leavesAt entry.1 entry.2

/-- The leaves of a document. -/
def leaves (doc : Object) : List (String × Json) := doc.flatMap entryLeaves

/-- A path, and the paths of the objects that it is in. -/
def enclosing (path : String) : List String :=
  ((path.toList.splitOn '.').inits.filter (· ≠ [])).map fun parts =>
    String.ofList (['.'].intercalate parts)

/-- Whether some patterns name a path, or an object that it is in. -/
def named (patterns : List String) (path : String) : Bool :=
  (enclosing path).any fun part => patterns.any (fnmatch part)

/-- Whether a path is to be returned. -/
def selected (includes excludes : List String) (path : String) : Bool :=
  (includes.isEmpty || named includes path) && !named excludes path

/-- A directive with patterns to include and patterns to exclude. -/
def directive (includes excludes : List String) : Json :=
  .dict [("includes", .list (includes.map .str)), ("excludes", .list (excludes.map .str))]

/-- The leaves that are returned are the selected ones, each with its value. -/
def Exact (includes excludes : List String) (doc : Object) : Prop :=
  ∀ beside, ∃ filtered,
    applySourceFilter py [⟨beside, some doc⟩] (directive includes excludes)
        = [⟨beside, some filtered⟩]
      ∧ leaves filtered = (leaves doc).filter fun leaf => selected includes excludes leaf.1

/-- No pattern reaches into a field that it does not name: of a field that is not included by name
    no leaf is selected, and of a field that is kept no leaf is excluded. -/
def NamesFields (includes excludes : List String) (doc : Object) : Prop :=
  ∀ entry ∈ doc, ∀ leaf ∈ entryLeaves entry,
    (includesName includes entry.1 = false → selected includes excludes leaf.1 = false)
      ∧ (keep includes excludes entry.1 = true → named excludes leaf.1 = false)

/-! ## Paths -/

/-- A path is another one, or goes on behind it. -/
def Under (path p : String) : Prop := p = path ∨ ∃ rest, p = path ++ "." ++ rest

lemma Under.of_field {path name p : String} (h : Under (path ++ "." ++ name) p) : Under path p := by
  right
  rcases h with rfl | ⟨rest, rfl⟩
  · exact ⟨name, rfl⟩
  · exact ⟨name ++ "." ++ rest, by simp only [String.append_assoc]⟩

mutual

lemma under_of_leavesAt (path : String) : ∀ v : Json, ∀ leaf ∈ leavesAt path v, Under path leaf.1
  | .dict [], leaf, h => by
    rw [leavesAt, List.mem_singleton] at h
    exact .inl (by rw [h])
  | .dict (entry :: rest), leaf, h => by
    rw [leavesAt] at h
    obtain ⟨name, hunder⟩ := under_of_fieldLeaves path (entry :: rest) leaf h
    exact hunder.of_field
  | .list [], leaf, h => by
    rw [leavesAt, List.mem_singleton] at h
    exact .inl (by rw [h])
  | .list (x :: xs), leaf, h => by
    rw [leavesAt] at h
    exact under_of_memberLeaves path (x :: xs) leaf h
  | .null, leaf, h | .bool _, leaf, h | .int _, leaf, h | .float _, leaf, h | .str _, leaf, h => by
    rw [leavesAt, List.mem_singleton] at h
    exact .inl (by rw [h])

lemma under_of_fieldLeaves (path : String) : ∀ fields : List (String × Json),
    ∀ leaf ∈ fieldLeaves (path ++ ".") fields, ∃ name, Under (path ++ "." ++ name) leaf.1
  | [], leaf, h => by
    rw [fieldLeaves] at h
    cases h
  | (name, v) :: rest, leaf, h => by
    rw [fieldLeaves, List.mem_append] at h
    rcases h with h | h
    · exact ⟨name, under_of_leavesAt _ v leaf h⟩
    · exact under_of_fieldLeaves path rest leaf h

lemma under_of_memberLeaves (path : String) : ∀ xs : List Json,
    ∀ leaf ∈ memberLeaves path xs, Under path leaf.1
  | [], leaf, h => by
    rw [memberLeaves] at h
    cases h
  | x :: xs, leaf, h => by
    rw [memberLeaves, List.mem_append] at h
    rcases h with h | h
    · exact under_of_leavesAt path x leaf h
    · exact under_of_memberLeaves path xs leaf h

end

lemma mem_enclosing {path p : String} (h : Under path p) : path ∈ enclosing p := by
  have hparts : ∃ more, p.toList.splitOn '.' = path.toList.splitOn '.' ++ more := by
    rcases h with rfl | ⟨rest, rfl⟩
    · exact ⟨[], (List.append_nil _).symm⟩
    · refine ⟨rest.toList.splitOn '.', ?_⟩
      rw [String.toList_append, String.toList_append, List.append_assoc]
      exact List.splitOn_append_cons_self _ _
  obtain ⟨more, hmore⟩ := hparts
  rw [enclosing, List.mem_map]
  refine ⟨path.toList.splitOn '.', List.mem_filter.2 ⟨?_, ?_⟩, ?_⟩
  · rw [List.mem_inits, hmore]
    exact List.prefix_append _ _
  · exact decide_eq_true (List.splitOn_ne_nil '.' _)
  · rw [List.intercalate_splitOn, String.ofList_toList]

variable {includes excludes : List String} {doc : Object} {entry leaf : String × Json}

lemma named_of_name {patterns : List String} (hleaf : leaf ∈ entryLeaves entry)
    (h : patterns.any (fnmatch entry.1) = true) : named patterns leaf.1 = true :=
  List.any_eq_true.2 ⟨entry.1, mem_enclosing (under_of_leavesAt entry.1 entry.2 leaf hleaf), h⟩

/-- What `NamesFields` says of a leaf: it is selected exactly if its field is kept. -/
lemma selected_eq_keep_iff (hleaf : leaf ∈ entryLeaves entry) :
    ((includesName includes entry.1 = false → selected includes excludes leaf.1 = false)
        ∧ (keep includes excludes entry.1 = true → named excludes leaf.1 = false))
      ↔ selected includes excludes leaf.1 = keep includes excludes entry.1 := by
  have hincluded : includesName includes entry.1 = true →
      (includes.isEmpty || named includes leaf.1) = true := by
    intro h
    rw [includesName, Bool.or_eq_true] at h
    rw [Bool.or_eq_true]
    exact h.imp_right (named_of_name hleaf)
  have hexcluded : excludes.any (fnmatch entry.1) = true → named excludes leaf.1 = true :=
    named_of_name hleaf
  rw [selected, keep]
  revert hincluded hexcluded
  generalize includesName includes entry.1 = a
  generalize (includes.isEmpty || named includes leaf.1) = b
  generalize excludes.any (fnmatch entry.1) = c
  generalize named excludes leaf.1 = d
  revert a b c d
  decide

/-! ## What is returned -/

section Lists

variable {α β : Type} {f : α → List β} {kept : α → Bool} {wanted : β → Bool}

lemma length_kept_le (l : List α) :
    (((l.filter kept).flatMap f).filter wanted).length ≤ ((l.flatMap f).filter wanted).length := by
  induction l with
  | nil => exact Nat.le_refl _
  | cons a l ih =>
    rw [List.filter_cons]
    split
    · simp only [List.flatMap_cons, List.filter_append, List.length_append]
      exact Nat.add_le_add_left ih _
    · simp only [List.flatMap_cons, List.filter_append, List.length_append]
      exact Nat.le_trans ih (Nat.le_add_left _ _)

/-- Keeping some elements keeps the wanted parts exactly if each element is kept that has a wanted
    part, and each part of a kept element is wanted. -/
lemma flatMap_filter_eq_iff (l : List α) :
    (l.filter kept).flatMap f = (l.flatMap f).filter wanted
      ↔ ∀ a ∈ l, ∀ b ∈ f a, wanted b = kept a := by
  induction l with
  | nil => simp
  | cons a l ih =>
    rw [List.forall_mem_cons, List.filter_cons, List.flatMap_cons, List.filter_append]
    cases ha : kept a with
    | true =>
      rw [if_pos rfl, List.flatMap_cons]
      constructor
      · intro h
        have hall : (f a).filter wanted = f a := by
          refine List.filter_eq_self.2 fun b hb => ?_
          have hmem : b ∈ (f a).filter wanted ++ (l.flatMap f).filter wanted :=
            h ▸ List.mem_append_left _ hb
          rw [← List.filter_append] at hmem
          exact (List.mem_filter.1 hmem).2
        rw [hall] at h
        exact ⟨List.filter_eq_self.1 hall, ih.1 (List.append_cancel_left h)⟩
      · rintro ⟨hall, hrest⟩
        rw [List.filter_eq_self.2 hall, ih.2 hrest]
    | false =>
      rw [if_neg Bool.false_ne_true]
      constructor
      · intro h
        -- the parts of `a` that are wanted would be too many
        have hall : ((l.filter kept).flatMap f).filter wanted = (l.filter kept).flatMap f := by
          rw [h, ← List.filter_append, List.filter_filter]
          simp only [Bool.and_self]
        have hlength := congrArg List.length h
        rw [List.length_append] at hlength
        have hle : (((l.filter kept).flatMap f).filter wanted).length
            ≤ ((l.flatMap f).filter wanted).length := length_kept_le l
        rw [hall] at hle
        have hnone : (f a).filter wanted = [] := List.eq_nil_of_length_eq_zero (by omega)
        rw [hnone, List.nil_append] at h
        refine ⟨fun b hb => ?_, ih.1 h⟩
        exact Bool.eq_false_iff.2 (List.filter_eq_nil_iff.1 hnone b hb)
      · rintro ⟨hnone, hrest⟩
        have hno : (f a).filter wanted = [] := by
          refine List.filter_eq_nil_iff.2 fun b hb => ?_
          rw [hnone b hb]
          exact Bool.false_ne_true
        rw [hno, ih.2 hrest, List.nil_append]

end Lists

lemma patternsOf_directive (includes excludes : List String) :
    patternsOf py (directive includes excludes) = (includes, excludes) := by
  have hpatterns : ∀ patterns : List String,
      asPatterns py (orElse (.list (patterns.map .str)) .null) = patterns := by
    intro patterns
    cases patterns with
    | nil => rfl
    | cons p ps =>
      change (Json.list ((p :: ps).map .str) |> asPatterns py) = _
      rw [asPatterns, List.map_map]
      exact List.map_id _
  exact congrArg₂ Prod.mk (hpatterns includes) (hpatterns excludes)

lemma project_nil (doc : Object) : project doc [] [] = doc :=
  List.filter_eq_self.2 fun _ _ => rfl

lemma applySourceFilter_directive (beside doc : Object) (includes excludes : List String) :
    applySourceFilter py [⟨beside, some doc⟩] (directive includes excludes)
      = [⟨beside, some (project doc includes excludes)⟩] := by
  have hpatterns := patternsOf_directive py includes excludes
  rw [directive] at hpatterns ⊢
  rw [applySourceFilter, hpatterns]
  · dsimp only
    split
    · next hempty =>
      rw [Bool.and_eq_true, List.isEmpty_iff, List.isEmpty_iff] at hempty
      rw [hempty.1, hempty.2, project_nil]
    · rfl
  all_goals nofun

/-- The leaves that a search returns of a document are the selected ones exactly if no pattern
    reaches into a field that it does not name. -/
theorem exact_iff (py : Python) (includes excludes : List String) (doc : Object) :
    Exact py includes excludes doc ↔ NamesFields includes excludes doc := by
  have hproject : Exact py includes excludes doc
      ↔ leaves (project doc includes excludes)
        = (leaves doc).filter fun leaf => selected includes excludes leaf.1 := by
    constructor
    · intro h
      obtain ⟨filtered, hfiltered, hleaves⟩ := h []
      rw [applySourceFilter_directive] at hfiltered
      cases hfiltered
      exact hleaves
    · intro h beside
      exact ⟨_, applySourceFilter_directive py beside doc includes excludes, h⟩
  rw [hproject, leaves, leaves, project, flatMap_filter_eq_iff, NamesFields]
  constructor
  · intro h entry hentry leaf hleaf
    exact (selected_eq_keep_iff hleaf).2 (h entry hentry leaf hleaf)
  · intro h entry hentry leaf hleaf
    exact (selected_eq_keep_iff hleaf).1 (h entry hentry leaf hleaf)

/-- Of a user with a name, nothing is returned for the pattern `user.name`. -/
theorem name_not_returned : ¬ ∀ includes excludes doc, Exact asciiPython includes excludes doc := by
  intro h
  obtain ⟨filtered, hfiltered, hleaves⟩ :=
    h ["user.name"] [] [("user", .dict [("name", .str "a")])] []
  rw [applySourceFilter_directive] at hfiltered
  cases hfiltered
  have hlength := congrArg List.length hleaves
  revert hlength
  decide +kernel

end SourceFilter

end Mockdr
