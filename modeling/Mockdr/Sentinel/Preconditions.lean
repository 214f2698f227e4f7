import Mathlib
import Mockdr.Lib.Delimited
import Mockdr.Mde.KqlSyntax

/-!
# Conditional writes

`check_if_match` of `utils/sentinel/preconditions.py`: a write whose `If-Match` does not hold is
refused.

* `checkIfMatch` is the check. It cuts the header at every comma and takes every `*` for the
  wildcard.
* `Passes` says which headers are for a resource, where a quotation keeps its commas and its stars.
* `checks_iff`: the check agrees with it exactly for headers that are `Plain` for the stored tag.
-/

namespace Mockdr.Sentinel

open Kql (stripChars)

/-- A refusal of ARM. -/
structure ArmError where
  statusCode : Nat
  code : String
  message : String

/-- What a write is refused with whose condition fails. -/
def preconditionFailed : ArmError where
  statusCode := 412
  code := "PreconditionFailed"
  message := "The condition specified by the If-Match header was not met."

/-- `s.strip(mark)` -/
def stripMark (mark : Char) (text : List Char) : List Char :=
  ((text.dropWhile (· = mark)).reverse.dropWhile (· = mark)).reverse

/-- The tag in a part of a header, quotes and weak marks aside. -/
def entityTag (raw : List Char) : List Char :=
  stripMark '"' (match stripChars raw with
    | 'W' :: '/' :: tag => tag
    | 'w' :: '/' :: tag => tag
    | tag => tag)

/-- `_tags` -/
def tags (header : List Char) : List (List Char) := (header.splitOn ',').map entityTag

/-- `current.strip('"')` -/
def bare (current : String) : List Char := stripMark '"' current.toList

-- the membership tests below carry this proof by its name
local instance lawfulText : LawfulBEq (List Char) := inferInstance

/-- `check_if_match` -/
def checkIfMatch (header : Option String) (current : String) : Except ArmError Unit :=
  match header with
  | none => .ok ()
  | some header =>
    if stripChars header.toList = [] then .ok ()
    else if '*' ∈ header.toList ∧ current ≠ "" then .ok ()
    else if bare current ∈ tags header.toList then .ok ()
    else .error preconditionFailed

/-! ## What a header is for -/

/-- A quotation mark opens a quotation, or closes it. -/
def quoteNext (inside : Bool) (c : Char) : Bool := if c = '"' then !inside else inside

/-- The elements of a header, between the commas that no quotation holds. -/
def elements (header : List Char) : List (List Char) := Delimited.cut quoteNext false ',' header

/-- A header lists a tag. What is blank between two commas is no tag. -/
def Lists (header tag : List Char) : Prop :=
  ∃ element ∈ elements header, stripChars element ≠ [] ∧ entityTag element = tag

/-- The condition a header states holds: it is blank, or the wildcard and there is a resource, or
    one of its tags is the current one. -/
def Passes : Option String → String → Prop
  | none, _ => True
  | some header, current => stripChars header.toList = []
      ∨ (stripChars header.toList = ['*'] ∧ current ≠ "") ∨ Lists header.toList (bare current)

/-- A header in which each star and each comma is what it looks like, as far as the current tag is
    concerned. -/
def Plain (header : List Char) (current : String) : Prop :=
  if '*' ∈ header ∧ current ≠ "" then stripChars header = ['*'] ∨ Lists header (bare current)
  else
    (∀ element ∈ elements header, ',' ∈ element → entityTag element ≠ bare current)
      ∧ ∀ element ∈ elements header, ',' ∈ element ∨ stripChars element = [] →
        ∀ part ∈ element.splitOn ',', entityTag part = bare current → Lists header (bare current)

/-! ## Characters that stay -/

lemma mem_dropWhile_iff {p : Char → Bool} {c : Char} (hc : p c = false) {l : List Char} :
    c ∈ l.dropWhile p ↔ c ∈ l := by
  induction l with
  | nil => exact Iff.rfl
  | cons x l ih =>
    rw [List.dropWhile_cons]
    split_ifs with hx
    · have hne : c ≠ x := by
        rintro rfl
        rw [hc] at hx
        cases hx
      rw [ih, List.mem_cons, or_iff_right hne]
    · exact Iff.rfl

lemma comma_mem_stripChars {l : List Char} : ',' ∈ stripChars l ↔ ',' ∈ l := by
  rw [stripChars, List.mem_reverse, mem_dropWhile_iff rfl, List.mem_reverse, mem_dropWhile_iff rfl]

lemma comma_mem_stripMark {l : List Char} : ',' ∈ stripMark '"' l ↔ ',' ∈ l := by
  have hcomma : decide (',' = '"') = false := rfl
  rw [stripMark, List.mem_reverse, mem_dropWhile_iff hcomma, List.mem_reverse,
    mem_dropWhile_iff hcomma]

lemma comma_mem_entityTag {raw : List Char} : ',' ∈ entityTag raw ↔ ',' ∈ raw := by
  rw [entityTag, comma_mem_stripMark, ← comma_mem_stripChars (l := raw)]
  split
  · next tag heq => simp [heq]
  · next tag heq => simp [heq]
  · exact Iff.rfl

/-! ## Parts and elements -/

lemma splitOn_eq_flatMap (header : List Char) :
    header.splitOn ',' = (elements header).flatMap fun element => element.splitOn ',' := by
  have hcuts : Delimited.Cuts quoteNext false ',' header (elements header) :=
    Delimited.cuts_iff.2 rfl
  generalize elements header = pieces at hcuts
  induction hcuts with
  | last => exact (List.flatMap_singleton _ _).symm
  | cut _ _ _ ih => rw [List.splitOn_append_cons_self, ih, List.flatMap_cons]

/-- What `_tags` reads, by the elements. -/
lemma mem_tags_iff {header tag : List Char} :
    tag ∈ tags header ↔ ∃ element ∈ elements header, ∃ part ∈ element.splitOn ',',
      entityTag part = tag := by
  rw [tags, splitOn_eq_flatMap, List.mem_map]
  constructor
  · rintro ⟨part, hpart, htag⟩
    obtain ⟨element, helement, hpart⟩ := List.mem_flatMap.1 hpart
    exact ⟨element, helement, part, hpart, htag⟩
  · rintro ⟨element, helement, part, hpart, htag⟩
    exact ⟨part, List.mem_flatMap.2 ⟨element, helement, hpart⟩, htag⟩

lemma splitOn_of_no_comma {element : List Char} (h : ',' ∉ element) :
    element.splitOn ',' = [element] := List.splitOn_eq_singleton h

/-- What is read at every comma is what is listed, if no comma and no blank misleads. -/
lemma mem_tags_iff_lists {header : List Char} {tag : List Char} :
    (tag ∈ tags header ↔ Lists header tag)
      ↔ (∀ element ∈ elements header, ',' ∈ element → entityTag element ≠ tag)
        ∧ ∀ element ∈ elements header, ',' ∈ element ∨ stripChars element = [] →
          ∀ part ∈ element.splitOn ',', entityTag part = tag → Lists header tag := by
  constructor
  · intro hiff
    constructor
    · intro element helement hcomma htag
      have hblank : stripChars element ≠ [] :=
        List.ne_nil_of_mem (comma_mem_stripChars.2 hcomma)
      obtain ⟨_, _, part, hpart, hsame⟩ :=
        mem_tags_iff.1 (hiff.2 ⟨element, helement, hblank, htag⟩)
      have hnot : ',' ∉ part := not_mem_of_mem_splitOn hpart
      rw [← comma_mem_entityTag, hsame, ← htag, comma_mem_entityTag] at hnot
      exact hnot hcomma
    · intro element helement _ part hpart htag
      exact hiff.1 (mem_tags_iff.2 ⟨element, helement, part, hpart, htag⟩)
  · rintro ⟨hwhole, hparts⟩
    constructor
    · intro htags
      obtain ⟨element, helement, part, hpart, htag⟩ := mem_tags_iff.1 htags
      by_cases hodd : ',' ∈ element ∨ stripChars element = []
      · exact hparts element helement hodd part hpart htag
      · obtain ⟨hcomma, hblank⟩ := not_or.1 hodd
        rw [splitOn_of_no_comma hcomma, List.mem_singleton] at hpart
        exact ⟨element, helement, hblank, hpart ▸ htag⟩
    · rintro ⟨element, helement, _, htag⟩
      have hcomma : ',' ∉ element := fun hcomma => hwhole element helement hcomma htag
      refine mem_tags_iff.2 ⟨element, helement, element, ?_, htag⟩
      rw [splitOn_of_no_comma hcomma]
      exact List.mem_singleton_self element

lemma star_mem_of_stripChars {header : List Char} (h : stripChars header = ['*']) :
    '*' ∈ header := by
  have hmem : '*' ∈ stripChars header := by
    rw [h]
    exact List.mem_singleton_self _
  rw [stripChars, List.mem_reverse, mem_dropWhile_iff rfl, List.mem_reverse,
    mem_dropWhile_iff rfl] at hmem
  exact hmem

/-- The check lets a write through exactly when the condition of the header holds, for the headers
    that are plain for the current tag and no others. -/
theorem checks_iff (header : Option String) (current : String) :
    (checkIfMatch header current = .ok () ↔ Passes header current)
      ↔ ∀ text, header = some text → stripChars text.toList ≠ [] →
        Plain text.toList current := by
  cases header with
  | none => exact ⟨fun _ => nofun, fun _ => ⟨fun _ => trivial, fun _ => rfl⟩⟩
  | some header =>
    simp only [Option.some.injEq, forall_eq']
    by_cases hblank : stripChars header.toList = []
    · have hok : checkIfMatch (some header) current = .ok () := if_pos hblank
      exact ⟨fun _ h => absurd hblank h, fun _ => ⟨fun _ => .inl hblank, fun _ => hok⟩⟩
    · have hpasses : Passes (some header) current
          ↔ (stripChars header.toList = ['*'] ∧ current ≠ "")
            ∨ Lists header.toList (bare current) := or_iff_right hblank
      rw [forall_prop_of_true hblank, Plain, hpasses, checkIfMatch, if_neg hblank]
      by_cases hstar : '*' ∈ header.toList ∧ current ≠ ""
      · rw [if_pos hstar, if_pos hstar, and_iff_left hstar.2]
        exact ⟨fun h => h.1 rfl, fun h => ⟨fun _ => h, fun _ => rfl⟩⟩
      · have hnot : ¬ (stripChars header.toList = ['*'] ∧ current ≠ "") :=
          fun h => hstar ⟨star_mem_of_stripChars h.1, h.2⟩
        have hok : (if bare current ∈ tags header.toList then .ok ()
            else .error preconditionFailed : Except ArmError Unit) = .ok ()
            ↔ bare current ∈ tags header.toList := by
          split_ifs with h
          · exact ⟨fun _ => h, fun _ => rfl⟩
          · exact ⟨nofun, fun h' => absurd h' h⟩
        rw [if_neg hstar, if_neg hstar, or_iff_right hnot, hok]
        exact mem_tags_iff_lists

/-- A quoted star is no wildcard, and a piece of a quoted tag is not that tag. -/
theorem quoted_star_passes :
    (checkIfMatch (some "\"a*b\"") "c" = .ok () ∧ ¬ Passes (some "\"a*b\"") "c")
      ∧ checkIfMatch (some "\"a,c\"") "c" = .ok () ∧ ¬ Passes (some "\"a,c\"") "c" := by
  refine ⟨⟨rfl, ?_⟩, rfl, ?_⟩
  · simp only [Passes, Lists]
    decide
  · simp only [Passes, Lists]
    decide

end Mockdr.Sentinel
