import Mathlib
import Mockdr.Builtins
import Mockdr.Lib.Except
import Mockdr.Lib.Splitting

/-!
# The filter of the detection rules

`_apply_filter` of `application/es_rules/queries.py`: comparisons of attributes with values, put
together with `AND`.

* `readClause` is what `_CLAUSE` matches, `applyFilter` keeps the rules that match every part.
* `readingOf` are the comparisons that the source reads in a filter, `meantBy` those that it is made
  of: an `AND` between quotes is a text, so is all that stands between quotes, and a connective that
  there is none of, or an ordering of a list, is none of the filter's.
* `sound_iff`: when a filter is refused or keeps the rules that satisfy its comparisons, and when a
  name between quotes is compared with the name.
-/

namespace Mockdr

namespace EsRules

namespace Find

open Splitting (trim cuts pieces occurs joinOpen)

/-- The built-ins of the filter. -/
structure FindPython extends NumberPython where
  /-- `c.isalnum()` -/
  isAlnum : Char → Bool
  isAlnum_ascii : ∀ c : Char, c.toNat < 128 → isAlnum c = c.isAlphanum

/-- `_FILTER_KEYS` -/
def filterKeys : List (String × String) :=
  [("alert.attributes.enabled", "enabled"), ("alert.attributes.name", "name"),
    ("alert.attributes.tags", "tags"), ("alert.attributes.params.severity", "severity"),
    ("alert.attributes.params.risk_score", "risk_score"),
    ("alert.attributes.params.type", "type"), ("alert.attributes.params.index", "index"),
    ("alert.attributes.params.rule_id", "rule_id"),
    ("alert.attributes.params.description", "description")]

/-- The fields that `EsRule` declares to be lists. -/
def listFields : List String := ["tags", "index"]

/-- An operator: `:`, or one of the orderings. -/
inductive Op where
  | has
  | range (op : RangeOp)
  deriving DecidableEq

/-- What `_CLAUSE` matches: a key, an operator and a value. -/
structure Clause where
  key : List Char
  op : Op
  value : List Char

/-- What is raised. -/
inductive FilterError where
  /-- `UnwrappedFilterError` -/
  | unwrapped (part : List Char)
  /-- `UnknownFilterKeyError` -/
  | unknownKey (key : List Char)
  /-- `OverflowError` of `float` -/
  | overflow
  deriving DecidableEq

/-- What a field is compared with: `*` asks whether there is anything. -/
inductive Want where
  | any
  | text (s : String)
  deriving DecidableEq

/-- A comparison of a field. -/
structure Comparison where
  field : String
  op : Op
  want : Want
  deriving DecidableEq

variable (py : FindPython)

/-! ## Parts -/

/-- How many characters follow the first one of `\s+AND\s+` at the front of a text. -/
def connective (text : List Char) : Option ℕ :=
  match text.takeWhile isSpace, text.dropWhile isSpace with
  | _ :: spaces, a :: n :: d :: rest =>
    if a.toLower = 'a' ∧ n.toLower = 'n' ∧ d.toLower = 'd' ∧ rest.takeWhile isSpace ≠ [] then
      some (spaces.length + 3 + (rest.takeWhile isSpace).length)
    else none
  | _, _ => none

/-- The parts of a filter, with the connectives. The empty one is not applied. -/
def partsOf (filter : String) : List (List Char × List Char) :=
  if filter = "" then [] else cuts connective (trim isSpace filter.toList)

/-! ## Clauses -/

/-- `[\w.]` -/
def isKeyChar (c : Char) : Bool := py.isAlnum c || c = '_' || c = '.'

/-- `>=|<=|>|<|:`, in front of something. -/
def readOp : List Char → Option (Op × List Char)
  | '>' :: '=' :: rest => some (if rest = [] then (.range .gt, ['=']) else (.range .gte, rest))
  | '<' :: '=' :: rest => some (if rest = [] then (.range .lt, ['=']) else (.range .lte, rest))
  | '>' :: rest => some (.range .gt, rest)
  | '<' :: rest => some (.range .lt, rest)
  | ':' :: rest => some (.has, rest)
  | _ => none

/-- `_CLAUSE`, but for line breaks in the value. A part has no white space at its ends. -/
def readClause (part : List Char) : Option Clause :=
  let text := part.dropWhile isSpace
  let key := text.takeWhile (isKeyChar py)
  match readOp ((text.dropWhile (isKeyChar py)).dropWhile isSpace) with
  | some (op, rest) =>
    if key = [] ∨ trim isSpace rest = [] then none else some ⟨key, op, trim isSpace rest⟩
  | none => none

/-- `_CLAUSE`: a `.` does not match a line break. -/
def matchClause (part : List Char) : Option Clause :=
  (readClause py part).filter fun clause => '\n' ∉ clause.value

/-- The field of a key. -/
def fieldOf (key : List Char) : Option String := Assoc.get (String.ofList key) filterKeys

/-- What a part is read as: the clause, and the field of its key. -/
def readPart (part : List Char) : Except FilterError (String × Clause) :=
  match matchClause py part with
  | some clause =>
    if '.' ∈ clause.key then
      match fieldOf clause.key with
      | some field => .ok (field, clause)
      | none => .error (.unknownKey clause.key)
    else .error (.unwrapped (trim isSpace part))
  | none => .error (.unwrapped (trim isSpace part))

/-! ## Matching -/

/-- `value.strip().strip('"').strip("'")` -/
def wanted (value : List Char) : List Char :=
  trim (· = '\'') (trim (· = '"') (trim isSpace value))

/-- `held not in (None, "", [])` -/
def isThere : Json → Bool
  | .null => false
  | .str s => s ≠ ""
  | .list items => items ≠ []
  | _ => true

/-- `float(held)`: nothing where it raises `OverflowError`, no number where it raises another. -/
def floatOf : Json → Option (Option PyFloat)
  | .bool b => some (some (.finite (if b then 1 else 0)))
  | .int n => (py.ofInt n).map some
  | .float q => some (some (.finite q))
  | .str s => some (py.float s)
  | .null | .list _ | .dict _ => some none

/-- `float(held)` compared with `float(wanted)`; nothing where it raises. -/
def compareFloats (op : RangeOp) (held : Json) (text : String) : Option Bool :=
  (floatOf py held).map fun left =>
    match left, py.float text with
    | some left, some right => op.holds left right
    | _, _ => false

/-- Two texts are the same but for their case. -/
def sameText (held : Json) (text : String) : Bool := py.lower (py.toStr held) = py.lower text

/-- `_clause_matches`; nothing where it raises. -/
def clauseMatches (field : String) (op : Op) (value : List Char) (record : Object) : Option Bool :=
  let held := Object.get record field
  let text := String.ofList (wanted value)
  if text = "*" then some (isThere held)
  else
    match held with
    | .list items => some (items.any fun item => sameText py item text)
    | held =>
      match op with
      | .has => some (sameText py held text)
      | .range op => compareFloats py op held text

/-- One round of the loop of `_apply_filter`. -/
def applyPart (kept : List Object) (part : List Char) : Except FilterError (List Object) :=
  match readPart py part with
  | .error e => .error e
  | .ok (field, clause) =>
    match kept.filterM (clauseMatches py field clause.op clause.value) with
    | some kept => .ok kept
    | none => .error .overflow

/-- `_apply_filter`, where there is a filter. -/
def applyFilter (records : List Object) (filter : String) : Except FilterError (List Object) :=
  ((partsOf filter).map Prod.snd).foldlM (applyPart py) records

/-! ## What a filter is read as, and what it means -/

/-- What a text that stands for itself, or is `*`, asks for. -/
def wantOf (text : List Char) : Want :=
  if text = ['*'] then .any else .text (String.ofList text)

/-- The comparison that the source makes of a part. -/
def readComparison (part : List Char) : Option Comparison :=
  match readPart py part with
  | .ok (field, clause) => some ⟨field, clause.op, wantOf (wanted clause.value)⟩
  | .error _ => none

/-- The comparisons that the source reads, if it takes the filter. -/
def readingOf (filter : String) : Option (List Comparison) :=
  ((partsOf filter).map Prod.snd).mapM (readComparison py)

/-- A quotation has begun and not ended. -/
def hasOpenQuote (text : List Char) : Bool := text.count '"' % 2 = 1

/-- The parts that a filter is made of: an `AND` between quotes does not part it. -/
def meantParts (filter : String) : List (List Char) :=
  match partsOf filter with
  | [] => []
  | (_, part) :: rest => joinOpen hasOpenQuote part rest

/-- The text between quotes. -/
def quotedText : List Char → Option (List Char)
  | '"' :: rest =>
    if rest.getLast? = some '"' ∧ '"' ∉ rest.dropLast then some rest.dropLast else none
  | _ => none

/-- The connectives, which are not values. -/
def connectives : List (List Char) := [['a', 'n', 'd'], ['o', 'r'], ['n', 'o', 't']]

-- the membership tests below carry this proof by its name
local instance lawfulText : LawfulBEq (List Char) := inferInstance

/-- A value without quotes has no brackets and no connectives in it. -/
def isBare (value : List Char) : Bool :=
  (value.all fun c => c ≠ '"' && c ≠ '(' && c ≠ ')')
    && (value.splitOnP isSpace).all fun word => word.map Char.toLower ∉ connectives

/-- What a value asks for. -/
def meantWant (value : List Char) : Option Want :=
  match quotedText value with
  | some text => some (.text (String.ofList text))
  | none => if isBare value then some (wantOf (trim (· = '\'') value)) else none

/-- The comparison that a part is, if it is one: an ordering is one of a number. -/
def meantComparison (part : List Char) : Option Comparison :=
  match readClause py part with
  | some clause =>
    match fieldOf clause.key, meantWant clause.value with
    | some field, some want =>
      if clause.op ≠ .has ∧ (field ∈ listFields ∨ want = .any) then none
      else some ⟨field, clause.op, want⟩
    | _, _ => none
  | none => none

/-- The comparisons that a filter is made of. -/
def meantBy (filter : String) : Option (List Comparison) :=
  (meantParts filter).mapM (meantComparison py)

/-- The values of a field. -/
def valuesOf : Json → List Json
  | .list items => items
  | held => [held]

/-- A rule satisfies a comparison. -/
def satisfies (c : Comparison) (record : Object) : Bool :=
  let held := Object.get record c.field
  match c.want, c.op with
  | .any, _ => isThere held
  | .text s, .has => (valuesOf held).any fun v => sameText py v s
  | .text s, .range op => compareFloats py op held s = some true

/-- A value is a list. -/
def isList : Json → Bool
  | .list _ => true
  | _ => false

/-- A rule, with lists in the fields that are declared to be lists and in no other. -/
structure RuleRecord where
  record : Object
  lists : ∀ field ∈ filterKeys.map Prod.snd,
    isList (Object.get record field) = true ↔ field ∈ listFields

/-- A filter is refused, or it is read as the comparisons it is made of, and the rules that satisfy
    them are kept. -/
def Sound (rules : List RuleRecord) (filter : String) : Prop :=
  let records := rules.map RuleRecord.record
  (∃ e, e ≠ .overflow ∧ applyFilter py records filter = .error e)
    ∨ ∃ comparisons, meantBy py filter = some comparisons
      ∧ readingOf py filter = some comparisons
      ∧ applyFilter py records filter
        = .ok (records.filter fun r => comparisons.all (satisfies py · r))

/-- A comparison of the name with what stands between quotes. -/
def nameFilter (s : String) : String := "alert.attributes.name: \"" ++ s ++ "\""

/-- The name is compared with what stands between quotes. -/
def ComparesName (s : String) : Prop :=
  readingOf py (nameFilter s) = some [⟨"name", .has, .text s⟩]
    ∧ ∀ rules : List RuleRecord,
      applyFilter py (rules.map RuleRecord.record) (nameFilter s)
        = .ok ((rules.map RuleRecord.record).filter fun r =>
            sameText py (Object.get r "name") s)

/-! ## When it is so -/

/-- A text that is left alone by what takes quotes off, and is not `*`. -/
structure PlainText (text : List Char) : Prop where
  first : text.head? ≠ some '\''
  last : text.getLast? ≠ some '\''
  notAny : text ≠ ['*']

/-- A part orders a field in which a rule that matches the parts before it has an integer that
    `float` refuses. -/
def Overflows : List Object → List (List Char) → Prop
  | _, [] => False
  | kept, part :: parts =>
    match readPart py part with
    | .ok (field, clause) =>
      (∃ r ∈ kept, ∃ op n, clause.op = .range op ∧ wanted clause.value ≠ ['*']
          ∧ Object.get r field = .int n ∧ py.ofInt n = none)
        ∨ Overflows (kept.filter fun r =>
            clauseMatches py field clause.op clause.value r = some true) parts
    | .error _ => False

/-- A filter is made of comparisons, no `AND` stands between quotes, and what does is plain. -/
structure Plain (filter : String) : Prop where
  meant : meantBy py filter ≠ none
  closed : ∀ part ∈ ((partsOf filter).map Prod.snd).dropLast, hasOpenQuote part = false
  quoted : ∀ part ∈ (partsOf filter).map Prod.snd, ∀ clause text,
    readClause py part = some clause → quotedText clause.value = some text → PlainText text

variable {py} {filter field : String} {op : Op} {value part : List Char} {record : Object}
  {records : List Object} {parts : List (List Char)} {rules : List RuleRecord} {c : Comparison}

/-! ## Matching and satisfying -/

lemma ofList_eq_star : String.ofList value = "*" ↔ value = ['*'] := by
  constructor
  · intro h
    have hlist := congrArg String.toList h
    rwa [String.toList_ofList] at hlist
  · rintro rfl
    rfl

lemma compareFloats_eq_none_iff {rangeOp : RangeOp} {held : Json} {text : String} :
    compareFloats py rangeOp held text = none ↔ ∃ n, held = .int n ∧ py.ofInt n = none := by
  rw [compareFloats, Option.map_eq_none_iff]
  cases held with
  | int n => simp [floatOf]
  | _ => simp [floatOf]

lemma clauseMatches_eq_none_iff :
    clauseMatches py field op value record = none
      ↔ ∃ rangeOp n, op = .range rangeOp ∧ wanted value ≠ ['*']
        ∧ Object.get record field = .int n ∧ py.ofInt n = none := by
  simp only [clauseMatches, ofList_eq_star]
  split_ifs with hstar
  · simp [hstar]
  · cases op with
    | has => cases Object.get record field <;> simp
    | range op =>
      cases hheld : Object.get record field with
      | list items => simp
      | _ => simp [compareFloats_eq_none_iff, hstar]

lemma clauseMatches_eq_true_iff (hlist : op ≠ .has → isList (Object.get record field) = false) :
    clauseMatches py field op value record = some true
      ↔ satisfies py ⟨field, op, wantOf (wanted value)⟩ record = true := by
  simp only [clauseMatches, satisfies, wantOf, ofList_eq_star]
  split_ifs with hstar
  · rw [Option.some.injEq]
  · cases op with
    | has =>
      cases Object.get record field <;>
        simp only [valuesOf, Option.some.injEq, List.any_cons, List.any_nil, Bool.or_false]
    | range op =>
      have hheld := hlist nofun
      cases h : Object.get record field with
      | list items =>
        rw [h] at hheld
        cases hheld
      | _ => exact decide_eq_true_iff.symm

/-! ## Going through the parts -/

lemma ne_overflow {e : FilterError} (h : readPart py part = .error e) : e ≠ .overflow := by
  rintro rfl
  rw [readPart] at h
  split at h
  · split_ifs at h
    · split at h <;> cases h
    · cases h
  · cases h

lemma applyPart_eq {clause : Clause} (h : readPart py part = .ok (field, clause)) :
    applyPart py records part
      = if ∃ r ∈ records, clauseMatches py field clause.op clause.value r = none then
          .error .overflow
        else .ok (records.filter fun r =>
          clauseMatches py field clause.op clause.value r = some true) := by
  rw [applyPart, h]
  simp only [filterM_eq_ite]
  by_cases hraise : ∃ r ∈ records, clauseMatches py field clause.op clause.value r = none
  · rw [if_pos hraise, if_neg]
    obtain ⟨r, hr, hnone⟩ := hraise
    exact fun hall => absurd (hall r hr) (by rw [hnone]; exact Bool.false_ne_true)
  · rw [if_neg hraise, if_pos]
    exact fun r hr => Option.ne_none_iff_isSome.1 fun hnone => hraise ⟨r, hr, hnone⟩

lemma foldlM_of_overflows (h : Overflows py records parts) :
    parts.foldlM (applyPart py) records = .error .overflow := by
  induction parts generalizing records with
  | nil => exact h.elim
  | cons part parts ih =>
    rw [Overflows] at h
    cases hread : readPart py part with
    | error e =>
      rw [hread] at h
      exact h.elim
    | ok read =>
      obtain ⟨field, clause⟩ := read
      simp only [hread, ← clauseMatches_eq_none_iff] at h
      rw [List.foldlM_cons, applyPart_eq hread]
      split_ifs with hraise
      · rfl
      · exact ih (h.resolve_left hraise)

/-- The first part that is not read is refused. -/
lemma foldlM_of_unread (h : ¬ Overflows py records parts)
    (hunread : ∃ part ∈ parts, ∃ e, readPart py part = .error e) :
    ∃ e, e ≠ .overflow ∧ parts.foldlM (applyPart py) records = .error e := by
  induction parts generalizing records with
  | nil =>
    obtain ⟨part, hpart, -⟩ := hunread
    cases hpart
  | cons part parts ih =>
    rw [Overflows] at h
    cases hread : readPart py part with
    | error e =>
      refine ⟨e, ne_overflow hread, ?_⟩
      rw [List.foldlM_cons, applyPart, hread]
      rfl
    | ok read =>
      obtain ⟨field, clause⟩ := read
      simp only [hread, ← clauseMatches_eq_none_iff, not_or] at h
      rw [List.foldlM_cons, applyPart_eq hread, if_neg h.1]
      obtain ⟨other, hother, e, he⟩ := hunread
      rcases List.mem_cons.1 hother with rfl | hother
      · rw [hread] at he
        cases he
      · exact ih h.2 ⟨other, hother, e, he⟩

lemma exists_foldlM (h : ¬ Overflows py records parts)
    (hread : ∀ part ∈ parts, ∃ read, readPart py part = .ok read) :
    ∃ kept, parts.foldlM (applyPart py) records = .ok kept := by
  induction parts generalizing records with
  | nil => exact ⟨records, rfl⟩
  | cons part parts ih =>
    obtain ⟨⟨⟨field, clause⟩, hpart⟩, hparts⟩ := List.forall_mem_cons.1 hread
    simp only [Overflows, hpart, ← clauseMatches_eq_none_iff, not_or] at h
    rw [List.foldlM_cons, applyPart_eq hpart, if_neg h.1]
    exact ih h.2 hparts

/-- Where all parts are read, the rules that match them all are kept. -/
lemma foldlM_of_read {comparisons : List Comparison} (h : ¬ Overflows py records parts)
    (hread : parts.mapM (readComparison py) = some comparisons)
    (hlists : ∀ c ∈ comparisons, c.op ≠ .has →
      ∀ r ∈ records, isList (Object.get r c.field) = false) :
    parts.foldlM (applyPart py) records
      = .ok (records.filter fun r => comparisons.all (satisfies py · r)) := by
  rw [mapM_eq_some_iff] at hread
  induction hread generalizing records with
  | nil =>
    rw [List.foldlM_nil]
    exact congrArg Except.ok (List.filter_eq_self.2 fun _ _ => rfl).symm
  | @cons part c parts comparisons hpart hparts ih =>
    rw [readComparison] at hpart
    cases hread : readPart py part with
    | error e =>
      rw [hread] at hpart
      cases hpart
    | ok read =>
      obtain ⟨field, clause⟩ := read
      rw [hread] at hpart
      cases hpart
      simp only [Overflows, hread, ← clauseMatches_eq_none_iff, not_or] at h
      obtain ⟨hhead, htail⟩ := List.forall_mem_cons.1 hlists
      have hmatches : ∀ r ∈ records,
          decide (clauseMatches py field clause.op clause.value r = some true)
            = satisfies py ⟨field, clause.op, wantOf (wanted clause.value)⟩ r := fun r hr =>
        Bool.eq_iff_iff.2 (decide_eq_true_iff.trans
          (clauseMatches_eq_true_iff fun hop => hhead hop r hr))
      rw [List.foldlM_cons, applyPart_eq hread, if_neg h.1]
      refine (ih h.2 fun c hc hop r hr => htail c hc hop r (List.mem_of_mem_filter hr)).trans ?_
      rw [List.filter_filter]
      refine congrArg Except.ok (List.filter_congr fun r hr => ?_)
      rw [hmatches r hr, List.all_cons, Bool.and_comm]

/-! ## Reading and meaning -/

lemma trim_value {clause : Clause} (h : readClause py part = some clause) :
    trim isSpace clause.value = clause.value := by
  simp only [readClause] at h
  split at h
  · split_ifs at h
    cases h
    exact Splitting.trim_trim
  · cases h

lemma quotedText_eq_some_iff {text : List Char} :
    quotedText value = some text ↔ value = '"' :: (text ++ ['"']) ∧ '"' ∉ text := by
  constructor
  · intro h
    unfold quotedText at h
    split at h
    · next rest =>
      split_ifs at h with hrest
      cases h
      exact ⟨congrArg _ (List.dropLast_append_getLast? _ hrest.1).symm, hrest.2⟩
    · cases h
  · rintro ⟨rfl, htext⟩
    simp only [quotedText, List.getLast?_append, List.getLast?_singleton, Option.some_or,
      List.dropLast_concat, htext, not_false_eq_true, and_self, if_true]

lemma wanted_of_quoted {text : List Char} (hvalue : trim isSpace value = value)
    (h : quotedText value = some text) : wanted value = trim (· = '\'') text := by
  obtain ⟨hsurrounded, hinner⟩ := quotedText_eq_some_iff.1 h
  have hunquoted : trim (· = '"') value = text := by
    rw [hsurrounded]
    exact Splitting.trim_surrounded (by decide) fun c hc =>
      decide_eq_false fun heq => hinner (heq ▸ hc)
  rw [wanted, hvalue, hunquoted]

/-- A text is left alone exactly if it is plain. -/
lemma wantOf_trim_iff {text : List Char} :
    wantOf (trim (· = '\'') text) = .text (String.ofList text) ↔ PlainText text := by
  have htrim : trim (· = '\'') text = text
      ↔ text.head? ≠ some '\'' ∧ text.getLast? ≠ some '\'' := by
    rw [Splitting.trim_eq_self_iff]
    refine and_congr ?_ ?_
    · cases text.head? <;> simp
    · cases text.getLast? <;> simp
  rw [wantOf]
  split_ifs with hstar
  · refine iff_of_false nofun fun hplain => hplain.notAny ?_
    rw [← hstar, htrim.2 ⟨hplain.first, hplain.last⟩]
  · rw [Want.text.injEq]
    constructor
    · intro h
      have hself : trim (· = '\'') text = text := by
        rw [← String.toList_ofList (l := trim _ text), h, String.toList_ofList]
      obtain ⟨hfirst, hlast⟩ := htrim.1 hself
      exact ⟨hfirst, hlast, fun h => hstar (hself.trans h)⟩
    · intro hplain
      rw [htrim.2 ⟨hplain.first, hplain.last⟩]

/-- What a value is read as is what it asks for, unless it is a text between quotes that is not
    plain. -/
lemma meantWant_eq {want : Want} (hvalue : trim isSpace value = value)
    (h : meantWant value = some want) :
    wantOf (wanted value) = want ↔ ∀ text, quotedText value = some text → PlainText text := by
  rw [meantWant] at h
  cases hquoted : quotedText value with
  | some text =>
    rw [hquoted] at h
    cases h
    rw [wanted_of_quoted hvalue hquoted, wantOf_trim_iff]
    simp
  | none =>
    rw [hquoted] at h
    split_ifs at h with hbare
    cases h
    have hunquoted : trim (· = '"') value = value := by
      rw [isBare, Bool.and_eq_true, List.all_eq_true] at hbare
      refine Splitting.trim_of_forall fun c hc => ?_
      have hc := hbare.1 c hc
      simp only [Bool.and_eq_true, decide_eq_true_eq] at hc
      exact decide_eq_false hc.1.1
    rw [wanted, hvalue, hunquoted]
    simp

/-- What a part that is read is read as. -/
lemma readComparison_inv (h : readComparison py part = some c) :
    ∃ clause field, readClause py part = some clause ∧ fieldOf clause.key = some field
      ∧ c = ⟨field, clause.op, wantOf (wanted clause.value)⟩ := by
  rw [readComparison] at h
  cases hread : readPart py part with
  | error e =>
    rw [hread] at h
    cases h
  | ok read =>
    obtain ⟨field, clause⟩ := read
    rw [hread] at h
    cases h
    rw [readPart] at hread
    split at hread
    · next clause' hmatch =>
      split_ifs at hread
      split at hread
      · next field' hfield =>
        cases hread
        exact ⟨clause, field, (Option.filter_eq_some_iff.1 hmatch).1, hfield, rfl⟩
      · cases hread
    · cases hread

lemma meantComparison_inv (h : meantComparison py part = some c) :
    ∃ clause field want, readClause py part = some clause ∧ fieldOf clause.key = some field
      ∧ meantWant clause.value = some want ∧ (clause.op ≠ .has → field ∉ listFields)
      ∧ c = ⟨field, clause.op, want⟩ := by
  rw [meantComparison] at h
  split at h
  · next clause hclause =>
    split at h
    · next field want hfield hwant =>
      split_ifs at h with hordered
      cases h
      exact ⟨clause, field, want, hclause, hfield, hwant,
        fun hop hlist => hordered ⟨hop, .inl hlist⟩, rfl⟩
    · cases h
  · cases h

/-- A part that is read and is a comparison is read as that comparison, unless it has a text between
    quotes that is not plain. -/
lemma readComparison_eq {c' : Comparison} (hread : readComparison py part = some c)
    (hmeant : meantComparison py part = some c') :
    c = c' ↔ ∀ clause text, readClause py part = some clause →
      quotedText clause.value = some text → PlainText text := by
  obtain ⟨clause, field, hclause, hfield, rfl⟩ := readComparison_inv hread
  obtain ⟨clause', field', want, hclause', hfield', hwant, -, rfl⟩ := meantComparison_inv hmeant
  cases hclause.symm.trans hclause'
  cases hfield.symm.trans hfield'
  rw [Comparison.mk.injEq, and_iff_right rfl, and_iff_right rfl,
    meantWant_eq (trim_value hclause) hwant]
  exact ⟨fun h other text hother => by cases hclause.symm.trans hother; exact h text,
    fun h text => h clause text hclause⟩

lemma isList_of_meant (h : meantComparison py part = some c) (hop : c.op ≠ .has)
    (rule : RuleRecord) : isList (Object.get rule.record c.field) = false := by
  obtain ⟨clause, field, want, -, hfield, -, hordered, rfl⟩ := meantComparison_inv h
  have hknown : field ∈ filterKeys.map Prod.snd :=
    List.mem_map.2 ⟨_, Assoc.mem_of_get hfield, rfl⟩
  exact Bool.eq_false_iff.2 fun hlist => hordered hop ((rule.lists field hknown).1 hlist)

/-! ## Parts and what they mean -/

/-- The parts are those that a filter is made of exactly if no `AND` stands between quotes. -/
lemma meantParts_eq_iff :
    meantParts filter = (partsOf filter).map Prod.snd
      ↔ ∀ part ∈ ((partsOf filter).map Prod.snd).dropLast, hasOpenQuote part = false := by
  rw [meantParts]
  cases partsOf filter with
  | nil => simp
  | cons cut rest =>
    rw [List.map_cons]
    exact Splitting.joinOpen_eq_iff

/-- An `AND` between quotes makes more parts of a filter than it is made of. -/
lemma length_meantParts (h : meantParts filter ≠ (partsOf filter).map Prod.snd) :
    (meantParts filter).length < ((partsOf filter).map Prod.snd).length := by
  rw [meantParts] at h ⊢
  cases hparts : partsOf filter with
  | nil =>
    rw [hparts] at h
    exact absurd rfl h
  | cons cut rest =>
    rw [hparts] at h
    simp only [List.map_cons, List.length_cons, List.length_map] at h ⊢
    exact (Splitting.joinOpen_cases hasOpenQuote cut.2 rest).resolve_left h

/-- A filter that is read is read as what it is made of exactly if it is plain. -/
lemma meantBy_eq_iff {comparisons : List Comparison} (h : readingOf py filter = some comparisons) :
    meantBy py filter = some comparisons ↔ Plain py filter := by
  have hread : ∀ part ∈ (partsOf filter).map Prod.snd, ∃ c, readComparison py part = some c :=
    fun part hpart => Option.ne_none_iff_exists'.1 fun hnone =>
      Option.some_ne_none _ (h.symm.trans (mapM_eq_none_iff.2 ⟨part, hpart, hnone⟩))
  constructor
  · intro hmeant
    have hparts : meantParts filter = (partsOf filter).map Prod.snd := by
      by_contra hne
      have hlength := length_meantParts hne
      rw [(mapM_eq_some_iff.1 h).length_eq, (mapM_eq_some_iff.1 hmeant).length_eq] at hlength
      exact lt_irrefl _ hlength
    refine ⟨by rw [hmeant]; exact Option.some_ne_none _, meantParts_eq_iff.1 hparts, ?_⟩
    intro part hpart
    obtain ⟨c, hc⟩ := hread part hpart
    rw [meantBy, hparts] at hmeant
    have hsame := (mapM_eq_iff_of_eq h).1 hmeant part hpart
    exact (readComparison_eq hc (hsame.trans hc)).1 rfl
  · intro hplain
    have hparts := meantParts_eq_iff.2 hplain.closed
    have hmeant := hplain.meant
    rw [meantBy, hparts] at hmeant ⊢
    refine (mapM_eq_iff_of_eq h).2 fun part hpart => ?_
    obtain ⟨c, hc⟩ := hread part hpart
    obtain ⟨c', hc'⟩ := Option.ne_none_iff_exists'.1 fun hnone =>
      hmeant (mapM_eq_none_iff.2 ⟨part, hpart, hnone⟩)
    rw [hc, hc', (readComparison_eq hc hc').2 (hplain.quoted part hpart)]

/-- When a filter is refused, or keeps the rules that satisfy what it is made of. -/
lemma sound_filter_iff (rules : List RuleRecord) (filter : String) :
    Sound py rules filter
      ↔ ¬ Overflows py (rules.map RuleRecord.record) ((partsOf filter).map Prod.snd)
        ∧ ((∃ part ∈ (partsOf filter).map Prod.snd, ∃ e, readPart py part = .error e)
          ∨ Plain py filter) := by
  by_cases hover : Overflows py (rules.map RuleRecord.record) ((partsOf filter).map Prod.snd)
  · have hraised := foldlM_of_overflows hover
    refine iff_of_false ?_ fun h => h.1 hover
    rintro (⟨e, he, happly⟩ | ⟨comparisons, -, -, happly⟩)
    · rw [applyFilter, hraised] at happly
      cases happly
      exact he rfl
    · rw [applyFilter, hraised] at happly
      cases happly
  · rw [and_iff_right hover]
    by_cases hunread : ∃ part ∈ (partsOf filter).map Prod.snd, ∃ e, readPart py part = .error e
    · exact iff_of_true (.inl (foldlM_of_unread hover hunread)) (.inl hunread)
    · rw [or_iff_right hunread]
      have hread : ∀ part ∈ (partsOf filter).map Prod.snd, ∃ read, readPart py part = .ok read := by
        intro part hpart
        cases hpart' : readPart py part with
        | ok read => exact ⟨read, rfl⟩
        | error e => exact absurd ⟨part, hpart, e, hpart'⟩ hunread
      obtain ⟨comparisons, hreading⟩ : ∃ comparisons, readingOf py filter = some comparisons := by
        refine Option.ne_none_iff_exists'.1 fun hnone => ?_
        obtain ⟨part, hpart, hnone⟩ := mapM_eq_none_iff.1 hnone
        obtain ⟨read, hok⟩ := hread part hpart
        rw [readComparison, hok] at hnone
        cases hnone
      rw [← meantBy_eq_iff hreading]
      constructor
      · rintro (⟨e, -, happly⟩ | ⟨comparisons', hmeant, hreading', -⟩)
        · obtain ⟨kept, hkept⟩ := exists_foldlM hover hread
          rw [applyFilter, hkept] at happly
          cases happly
        · cases hreading.symm.trans hreading'
          exact hmeant
      · intro hmeant
        refine .inr ⟨comparisons, hmeant, hreading, foldlM_of_read hover hreading ?_⟩
        intro c hc hop r hr
        obtain ⟨part, -, hpart⟩ := exists_of_mem_forall₂ (mapM_eq_some_iff.1 hmeant) hc
        obtain ⟨rule, -, rfl⟩ := List.mem_map.1 hr
        exact isList_of_meant hpart hop rule

/-! ## A name between quotes -/

lemma isKeyChar_of_ascii {x : Char} (hascii : x.toNat < 128) :
    isKeyChar py x = (x.isAlphanum || x = '_' || x = '.') := by
  rw [isKeyChar, py.isAlnum_ascii x hascii]

lemma connective_quote (text : List Char) : connective (text ++ ['"']) = connective text := by
  have hquote : isSpace '"' = false := by decide
  unfold connective
  rw [Splitting.takeWhile_concat hquote, Splitting.dropWhile_concat hquote]
  generalize text.takeWhile isSpace = spaces
  generalize text.dropWhile isSpace = rest
  cases spaces with
  | nil => rfl
  | cons c spaces =>
    match rest with
    | [] => rfl
    | [_] => rfl
    | [a, n] =>
      simp
    | a :: n :: d :: rest =>
      simp only [List.cons_append, Splitting.takeWhile_concat hquote]

lemma occurs_quote (text : List Char) :
    occurs connective (text ++ ['"']) = occurs connective text := by
  induction text with
  | nil => rfl
  | cons c text ih =>
    have hquote := connective_quote (c :: text)
    rw [List.cons_append] at hquote ⊢
    rw [occurs, occurs, hquote, ih]

lemma occurs_word {word text : List Char} (hword : ∀ c ∈ word, isSpace c = false) :
    occurs connective (word ++ text) = occurs connective text := by
  induction word with
  | nil => rfl
  | cons c word ih =>
    obtain ⟨hc, hrest⟩ := List.forall_mem_cons.1 hword
    have hnone : connective (c :: (word ++ text)) = none := by
      unfold connective
      rw [List.takeWhile_cons_of_neg (by rw [hc]; exact Bool.false_ne_true)]
    rw [List.cons_append, occurs, hnone, Option.isSome_none, Bool.false_or, ih hrest]

/-- The key of the name. -/
def nameKey : List Char :=
  ['a', 'l', 'e', 'r', 't', '.', 'a', 't', 't', 'r', 'i', 'b', 'u', 't', 'e', 's', '.', 'n', 'a',
    'm', 'e']

lemma toList_nameFilter (s : String) :
    (nameFilter s).toList = nameKey ++ ':' :: ' ' :: '"' :: (s.toList ++ ['"']) := by
  have hbegin : "alert.attributes.name: \"".toList = nameKey ++ [':', ' ', '"'] := by
    decide +kernel
  have hend : "\"".toList = ['"'] := by decide +kernel
  have happend : ∀ {front back : String} {l m : List Char}, front.toList = l → back.toList = m →
      (front ++ s ++ back).toList = l ++ (s.toList ++ m) := by
    rintro front back _ _ rfl rfl
    rw [String.toList_append, String.toList_append, List.append_assoc]
  exact happend hbegin hend

lemma occurs_nameFilter (s : String) :
    occurs connective (nameFilter s).toList = occurs connective s.toList := by
  have hwords : (nameKey ++ [':']).all (fun c => isSpace c = false) = true := by decide
  have hkey : ∀ c ∈ nameKey ++ [':'], isSpace c = false := fun c hc =>
    of_decide_eq_true (List.all_eq_true.1 hwords c hc)
  have hnone : connective (' ' :: '"' :: (s.toList ++ ['"'])) = none := by
    have hquote : isSpace '"' = false := by decide
    have hspace : isSpace ' ' = true := by decide
    unfold connective
    rw [List.takeWhile_cons_of_pos hspace, List.dropWhile_cons_of_pos hspace,
      List.dropWhile_cons_of_neg (by rw [hquote]; exact Bool.false_ne_true)]
    cases s.toList ++ ['"'] with
    | nil => rfl
    | cons n rest => cases rest <;> simp
  have hmark : ∀ c ∈ ['"'], isSpace c = false := fun c hc => by
    rw [List.mem_singleton.1 hc]
    decide
  rw [toList_nameFilter, List.append_cons, occurs_word hkey, occurs, hnone, Option.isSome_none,
    Bool.false_or]
  exact (occurs_word hmark).trans (occurs_quote _)

lemma trim_nameFilter (s : String) :
    trim isSpace (nameFilter s).toList = (nameFilter s).toList := by
  rw [toList_nameFilter, Splitting.trim_eq_self_iff]
  constructor
  · intro c hc
    cases hc
    decide
  · intro c hc
    simp only [List.getLast?_append, List.getLast?_cons, Option.some_or,
      Option.getD_some, Option.mem_def, Option.some.injEq] at hc
    rw [← hc]
    decide

/-- A comparison of the name, read as one clause. -/
lemma readClause_nameFilter (s : String) :
    readClause py (nameFilter s).toList
      = some ⟨nameKey, .has, '"' :: (s.toList ++ ['"'])⟩ := by
  have hkey : ∀ c ∈ nameKey, isKeyChar py c = true := by
    intro c hc
    have hall : nameKey.all (fun c =>
        c.toNat < 128 && (c.isAlphanum || c = '_' || c = '.')) = true := by decide
    have hc := List.all_eq_true.1 hall c hc
    rw [Bool.and_eq_true, decide_eq_true_eq] at hc
    rw [isKeyChar_of_ascii hc.1, hc.2]
  have hcolon : isKeyChar py ':' = false := by
    rw [isKeyChar_of_ascii (by decide)]
    decide
  have hfront : (nameFilter s).toList.dropWhile isSpace = (nameFilter s).toList := by
    rw [toList_nameFilter]
    exact List.dropWhile_cons_of_neg (by decide)
  have hvalue : trim isSpace (' ' :: '"' :: (s.toList ++ ['"'])) = '"' :: (s.toList ++ ['"']) := by
    rw [trim, List.dropWhile_cons_of_pos (by decide), ← trim, Splitting.trim_eq_self_iff]
    constructor
    · intro c hc
      cases hc
      decide
    · intro c hc
      rw [← List.cons_append, List.getLast?_concat] at hc
      cases hc
      decide
  simp only [readClause, hfront]
  rw [toList_nameFilter, List.takeWhile_append_of_pos hkey, List.dropWhile_append_of_pos hkey,
    List.takeWhile_cons_of_neg (by rw [hcolon]; exact Bool.false_ne_true), List.append_nil,
    List.dropWhile_cons_of_neg (by rw [hcolon]; exact Bool.false_ne_true),
    List.dropWhile_cons_of_neg (by decide)]
  simp only [readOp, hvalue]
  rw [if_neg]
  rintro (h | h) <;> cases h

lemma partsOf_nameFilter (s : String) :
    (partsOf (nameFilter s)).map Prod.snd = pieces connective (nameFilter s).toList := by
  have hne : nameFilter s ≠ "" := by
    intro h
    have hlist := toList_nameFilter s
    rw [h] at hlist
    cases hlist
  rw [partsOf, if_neg hne, trim_nameFilter, pieces]

lemma readPart_nameFilter {s : String} (hbreak : '\n' ∉ s.toList) :
    readPart py (nameFilter s).toList
      = .ok ("name", ⟨nameKey, .has, '"' :: (s.toList ++ ['"'])⟩) := by
  have hvalue : '\n' ∉ '"' :: (s.toList ++ ['"']) := by
    simp [hbreak]
  have hfield : fieldOf nameKey = some "name" := by decide +kernel
  have hdot : '.' ∈ nameKey := by decide
  rw [readPart, matchClause, readClause_nameFilter, Option.filter_some,
    if_pos (decide_eq_true hvalue)]
  simp only [if_pos hdot, hfield]

lemma readComparison_nameFilter {s : String} (hquote : '"' ∉ s.toList) (hbreak : '\n' ∉ s.toList) :
    readComparison py (nameFilter s).toList
      = some ⟨"name", .has, wantOf (trim (· = '\'') s.toList)⟩ := by
  have hwanted : wanted ('"' :: (s.toList ++ ['"'])) = trim (· = '\'') s.toList :=
    wanted_of_quoted (trim_value (@readClause_nameFilter py s))
      (quotedText_eq_some_iff.2 ⟨rfl, hquote⟩)
  rw [readComparison, readPart_nameFilter hbreak]
  exact congrArg (fun text => some (Comparison.mk "name" .has (wantOf text))) hwanted

lemma satisfies_name (rule : RuleRecord) (s : String) :
    satisfies py ⟨"name", .has, .text s⟩ rule.record
      = sameText py (Object.get rule.record "name") s := by
  have hlist : isList (Object.get rule.record "name") = false :=
    Bool.eq_false_iff.2 fun h =>
      absurd ((rule.lists "name" (by decide)).1 h) (by decide)
  simp only [satisfies]
  cases hheld : Object.get rule.record "name" with
  | list items =>
    rw [hheld] at hlist
    cases hlist
  | _ => simp only [valuesOf, List.any_cons, List.any_nil, Bool.or_false]

/-- When the name is compared with what stands between quotes. -/
lemma comparesName_iff {s : String} (hquote : '"' ∉ s.toList) :
    ComparesName py s
      ↔ occurs connective s.toList = false ∧ '\n' ∉ s.toList ∧ PlainText s.toList := by
  have hread : readingOf py (nameFilter s)
      = (pieces connective (nameFilter s).toList).mapM (readComparison py) := by
    rw [readingOf, partsOf_nameFilter]
  by_cases hoccurs : occurs connective s.toList = true
  · refine iff_of_false (fun h => ?_) fun h => Bool.false_ne_true (h.1.symm.trans hoccurs)
    have hlength := (mapM_eq_some_iff.1 (hread.symm.trans h.1)).length_eq
    have htwo := Splitting.two_le_length_pieces ((occurs_nameFilter s).trans hoccurs)
    rw [hlength] at htwo
    exact absurd htwo (Nat.not_succ_le_self 1)
  · rw [Bool.not_eq_true] at hoccurs
    have hpieces := Splitting.pieces_of_not_occurs ((occurs_nameFilter s).trans hoccurs)
    have hsingle : readingOf py (nameFilter s)
        = (readComparison py (nameFilter s).toList).map fun c => [c] := by
      rw [hread, hpieces, List.mapM_cons, List.mapM_nil]
      cases readComparison py (nameFilter s).toList <;> rfl
    by_cases hbreak : '\n' ∈ s.toList
    · refine iff_of_false (fun h => ?_) fun h => h.2.1 hbreak
      have hnone : readComparison py (nameFilter s).toList = none := by
        rw [readComparison, readPart, matchClause, readClause_nameFilter, Option.filter_some,
          if_neg (by simp [hbreak])]
      have hreading := h.1
      rw [hsingle, hnone] at hreading
      cases hreading
    · rw [and_iff_right hoccurs, and_iff_right hbreak, ← wantOf_trim_iff]
      rw [readComparison_nameFilter hquote hbreak, Option.map_some] at hsingle
      constructor
      · intro h
        have hreading := hsingle.symm.trans h.1
        simp only [Option.some.injEq, List.cons.injEq, Comparison.mk.injEq, true_and, and_true]
          at hreading
        rw [hreading, String.ofList_toList]
      · intro h
        rw [h, String.ofList_toList] at hsingle
        refine ⟨hsingle, fun rules => ?_⟩
        have hover : ¬ Overflows py (rules.map RuleRecord.record)
            ((partsOf (nameFilter s)).map Prod.snd) := by
          rw [partsOf_nameFilter, hpieces, Overflows, readPart_nameFilter hbreak]
          simp [Overflows]
        have hlists : ∀ c ∈ [Comparison.mk "name" .has (.text s)], c.op ≠ .has →
            ∀ r ∈ rules.map RuleRecord.record, isList (Object.get r c.field) = false := by
          intro c hc hop
          exact absurd (congrArg Comparison.op (List.mem_singleton.1 hc)) hop
        refine (foldlM_of_read hover hsingle hlists).trans (congrArg Except.ok ?_)
        refine List.filter_congr fun r hr => ?_
        obtain ⟨rule, -, rfl⟩ := List.mem_map.1 hr
        rw [List.all_cons, List.all_nil, Bool.and_true]
        exact satisfies_name rule s

/-! ## The filter -/

lemma isAlphanum_ascii (c : Char) (_ : c.toNat < 128) : c.isAlphanum = c.isAlphanum := rfl

/-- The built-ins on ASCII text. -/
def asciiFindPython : FindPython where
  toNumberPython := asciiNumberPython
  isAlnum := Char.isAlphanum
  isAlnum_ascii := isAlphanum_ascii

lemma not_sound_of_read {comparisons : List Comparison}
    (hread : readingOf py filter = some comparisons) (hmeant : meantBy py filter = none) :
    ¬ Sound py rules filter := by
  intro h
  obtain ⟨-, ⟨part, hpart, e, he⟩ | hplain⟩ := (sound_filter_iff rules filter).1 h
  · have hnone : readComparison py part = none := by
      rw [readComparison, he]
    exact Option.some_ne_none _ (hread.symm.trans (mapM_eq_none_iff.2 ⟨part, hpart, hnone⟩))
  · exact hplain.meant hmeant

end Find

end EsRules

end Mockdr
