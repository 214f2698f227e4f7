import Mockdr.S1.SortedLists

/-!
# The orders of range filters

What `lt`, `lte`, `gt` and `gte` of `apply_filters` have to do with each other.

* `comparison` is what `_ordered` compares of two values, by their texts: two numbers, two instants
  or the texts.
* `PassesRange`: a record is among those that a range filter keeps.
* `passes_in_order`: a record that carries the field is below a value, above it or neither, and a
  wider range keeps what a narrower one does, as long as the three values concerned are compared in
  the same way.
-/

namespace Mockdr.S1

/-- What `_ordered` compares. -/
inductive Comparison where
  | numbers (left right : PyFloat)
  | instants (left right : Int)
  | texts (left right : String)

/-- The ways to compare. -/
inductive Way where
  | number
  | instant
  | text
  deriving DecidableEq

/-- The way in which a comparison is made. -/
def Comparison.way : Comparison → Way
  | .numbers _ _ => .number
  | .instants _ _ => .instant
  | .texts _ _ => .text

/-- What a comparison comes to. -/
def Comparison.answer (op : RangeOp) : Comparison → Bool
  | .numbers left right => op.holds left right
  | .instants left right => op.between left right
  | .texts left right => op.between left right

/-- Whether a NaN is compared. -/
def Comparison.hasNan : Comparison → Bool
  | .numbers left right => left = .nan || right = .nan
  | .instants _ _ | .texts _ _ => false

variable (py : FilterPython)

/-- The instant that the right side of a comparison stands for beside an instant: a bare number is
    an epoch. -/
def instantBeside (right : String) : Option Int := (parseDt py right).or (epochMs py right)

/-- The comparison of a record's value with the filter's, by their texts. -/
def comparison (left right : String) : Comparison :=
  match py.float left, py.float right with
  | some l, some r => .numbers l r
  | _, _ =>
    match parseDt py left, instantBeside py right with
    | some l, some r => .instants l r
    | _, _ => .texts left right

/-- The comparison of the value that a record carries with the one of the filter. -/
def comparisonOf (record : Json) (field : String) (target : Json) : Comparison :=
  comparison py (py.toStr (getNested py.toPython record field)) (py.toStr target)

/-- A range filter. -/
def rangeSpec (param field kind : String) (op : RangeOp) : FilterSpec :=
  { param := param, field := field, type := .range op, kind := kind }

/-- A record carries a field. -/
def Carries (record : Json) (field : String) : Prop := getNested py.toPython record field ≠ .null

/-- A record is among those that the filter keeps for a value. -/
def PassesRange (records : List Json) (param : RangeOp → String) (field kind : String)
    (op : RangeOp) (value record : Json) : Prop :=
  ∃ kept, record ∈ kept
    ∧ applyFilters py records [(param op, value)] [rangeSpec (param op) field kind op] = .ok kept

/-- Filters of a type take a value. -/
def Taken (kind : String) (value : Json) : Prop :=
  kind = "string" ∨ ∀ param, rejectWrongType py param kind value = .ok ()

/-- Exactly one of three statements holds. -/
def OneOf (p q r : Prop) : Prop := (p ∧ ¬q ∧ ¬r) ∨ (¬p ∧ q ∧ ¬r) ∨ (¬p ∧ ¬q ∧ r)

variable {py} {records : List Json} {param : RangeOp → String} {name field kind : String}
  {op : RangeOp} {value target record : Json} {s t u : String}

/-! ## The filters -/

/-- What `_ordered` says is what the comparison comes to. -/
lemma ordered_eq (hvalue : value ≠ .null) (htarget : isSkipped target = false) :
    ordered py value target op
      = (comparison py (py.toStr value) (py.toStr target)).answer op := by
  unfold ordered
  rw [if_neg]
  · dsimp only [comparison, instantBeside]
    cases py.float (py.toStr value) <;> cases py.float (py.toStr target)
    case some.some => rfl
    all_goals
      cases parseDt py (py.toStr value) with
      | none => cases parseDt py (py.toStr target) <;> rfl
      | some l =>
        simp only [Option.isSome_some, if_true]
        cases (parseDt py (py.toStr target)).or (epochMs py (py.toStr target)) <;> rfl
  · rw [(Bool.or_eq_false_iff.1 htarget).2, Bool.or_false]
    cases value with
    | null => exact absurd rfl hvalue
    | _ =>
      cases target with
      | null => exact absurd htarget.symm Bool.false_ne_true
      | _ => exact Bool.false_ne_true

lemma rejectWrongType_name {name' : String} (h : rejectWrongType py name kind value = .ok ()) :
    rejectWrongType py name' kind value = .ok () := by
  cases value with
  | str s =>
    rw [rejectWrongType] at h ⊢
    split_ifs at h ⊢ with hholds
    · rfl
    · rfl
  | _ => rfl

lemma checkValue_rangeSpec :
    checkValue py (rangeSpec name field kind op) value = .ok () ↔ Taken py kind value := by
  by_cases hkind : kind = "string"
  · simp [checkValue, rangeSpec, Taken, hkind, pure, Except.pure]
  · have hcheck : checkValue py (rangeSpec name field kind op) value
        = rejectWrongType py name kind value := by
      rw [checkValue, rangeSpec]
      cases rejectWrongType py name kind value <;>
        simp [hkind, bind, Except.bind, pure, Except.pure]
    rw [hcheck, Taken, or_iff_right hkind]
    exact ⟨fun h _ => rejectWrongType_name h, fun h => h name⟩

lemma applyFilters_range (hvalue : isSkipped value = false) :
    applyFilters py records [(name, value)] [rangeSpec name field kind op]
      = (checkValue py (rangeSpec name field kind op) value).map fun _ =>
          records.filter fun r => ordered py (getNested py.toPython r field) value op := by
  have hget : Object.get [(name, value)] name = value := by
    simp [Object.get, Assoc.get]
  change (if isSkipped (Object.get [(name, value)] name) then _
    else (checkValue py _ (Object.get [(name, value)] name)).map fun _ =>
      records.filter (keepsRecord py _ (Object.get [(name, value)] name))) >>= _ = _
  rw [hget, hvalue, if_neg Bool.false_ne_true]
  cases checkValue py (rangeSpec name field kind op) value with
  | error e => rfl
  | ok _ => rfl

lemma passesRange_iff (hvalue : isSkipped value = false) :
    PassesRange py records param field kind op value record
      ↔ Taken py kind value ∧ record ∈ records ∧ Carries py record field
        ∧ (comparisonOf py record field value).answer op = true := by
  have hordered : ordered py (getNested py.toPython record field) value op = true
      ↔ Carries py record field ∧ (comparisonOf py record field value).answer op = true := by
    by_cases hnull : getNested py.toPython record field = .null
    · rw [hnull]
      exact ⟨fun h => absurd h Bool.false_ne_true, fun h => absurd hnull h.1⟩
    · rw [ordered_eq hnull hvalue]
      exact (and_iff_right hnull).symm
  rw [PassesRange, applyFilters_range hvalue, ← @checkValue_rangeSpec py (param op) field kind op]
  cases checkValue py (rangeSpec (param op) field kind op) value with
  | error e => simp [Except.map]
  | ok _ => simp [Except.map, hordered]

/-! ## One linear order -/

section

variable {α : Type} [LinearOrder α] {v a b : α}

lemma between_oneOf (v a : α) :
    OneOf (RangeOp.lt.between v a = true) (RangeOp.gt.between v a = true)
      (RangeOp.gte.between v a = true ∧ RangeOp.lte.between v a = true) := by
  simp only [OneOf, RangeOp.between, decide_eq_true_eq, Bool.not_eq_true', decide_eq_false_iff_not]
  rcases lt_trichotomy v a with h | rfl | h
  · exact .inl ⟨h, h.not_gt, fun hboth => hboth.1 h⟩
  · exact .inr (.inr ⟨lt_irrefl _, lt_irrefl _, lt_irrefl _, lt_irrefl _⟩)
  · exact .inr (.inl ⟨h.not_gt, h, fun hboth => hboth.2 h⟩)

lemma between_widens (hle : RangeOp.lte.between a b = true) :
    (RangeOp.lt.between v a = true → RangeOp.lt.between v b = true)
      ∧ (RangeOp.gt.between v b = true → RangeOp.gt.between v a = true) := by
  simp only [RangeOp.between, decide_eq_true_eq, Bool.not_eq_true', decide_eq_false_iff_not,
    not_lt] at *
  exact ⟨fun h => h.trans_le hle, fun h => hle.trans_lt h⟩

end

/-! ## One comparison -/

lemma eq_numbers (h : (comparison py s t).way = .number) :
    ∃ l r, py.float s = some l ∧ py.float t = some r ∧ comparison py s t = .numbers l r := by
  revert h
  rw [comparison]
  split
  · next l r hl hr => exact fun _ => ⟨l, r, hl, hr, rfl⟩
  · split <;> exact fun h => nomatch h

lemma eq_instants (h : (comparison py s t).way = .instant) :
    ∃ l r, parseDt py s = some l ∧ instantBeside py t = some r
      ∧ comparison py s t = .instants l r := by
  revert h
  rw [comparison]
  split
  · exact fun h => nomatch h
  · split
    · next l r hl hr => exact fun _ => ⟨l, r, hl, hr, rfl⟩
    · exact fun h => nomatch h

lemma eq_texts (h : (comparison py s t).way = .text) : comparison py s t = .texts s t := by
  revert h
  rw [comparison]
  split
  · exact fun h => nomatch h
  · split
    · exact fun h => nomatch h
    · exact fun _ => rfl

lemma answer_oneOf {c : Comparison} (hnan : c.hasNan = false) :
    OneOf (c.answer .lt = true) (c.answer .gt = true)
      (c.answer .gte = true ∧ c.answer .lte = true) := by
  cases c with
  | numbers l r =>
    rw [Comparison.hasNan, Bool.or_eq_false_iff, decide_eq_false_iff_not, decide_eq_false_iff_not]
      at hnan
    simp only [Comparison.answer, RangeOp.holds_eq_between hnan.1 hnan.2]
    exact between_oneOf _ _
  | instants l r => exact between_oneOf l r
  | texts l r => exact between_oneOf l r

lemma answer_nan {c : Comparison} (hnan : c.hasNan = true) (op : RangeOp) :
    c.answer op = false := by
  cases c with
  | numbers l r =>
    rw [Comparison.hasNan, Bool.or_eq_true, decide_eq_true_eq, decide_eq_true_eq] at hnan
    exact RangeOp.holds_nan hnan op
  | instants l r => exact absurd hnan Bool.false_ne_true
  | texts l r => exact absurd hnan Bool.false_ne_true

lemma holds_widens {v a b : PyFloat} (hle : RangeOp.lte.holds a b = true) :
    (RangeOp.lt.holds v a = true → RangeOp.lt.holds v b = true)
      ∧ (RangeOp.gt.holds v b = true → RangeOp.gt.holds v a = true) := by
  obtain ⟨ha, hb⟩ : a ≠ .nan ∧ b ≠ .nan := not_or.1 fun h =>
    Bool.false_ne_true ((RangeOp.holds_nan h .lte).symm.trans hle)
  by_cases hv : v = .nan
  · simp only [RangeOp.holds_nan (.inl hv), Bool.false_eq_true, false_imp_iff, and_self]
  · rw [RangeOp.holds_eq_between ha hb] at hle
    simp only [RangeOp.holds_eq_between hv ha, RangeOp.holds_eq_between hv hb]
    exact between_widens hle

/-- Values that are compared in one way are compared in one order. -/
lemma answer_widens (ha : (comparison py s t).way = (comparison py t u).way)
    (hb : (comparison py s u).way = (comparison py t u).way)
    (hle : (comparison py t u).answer .lte = true) :
    ((comparison py s t).answer .lt = true → (comparison py s u).answer .lt = true)
      ∧ ((comparison py s u).answer .gt = true → (comparison py s t).answer .gt = true) := by
  cases hway : (comparison py t u).way with
  | number =>
    obtain ⟨a, b, hta, hub, htu⟩ := eq_numbers hway
    obtain ⟨v, a', hsv, hta', hst⟩ := eq_numbers (ha.trans hway)
    obtain ⟨v', b', hsv', hub', hsu⟩ := eq_numbers (hb.trans hway)
    cases hta.symm.trans hta'
    cases hub.symm.trans hub'
    cases hsv.symm.trans hsv'
    rw [htu] at hle
    rw [hst, hsu]
    exact holds_widens hle
  | instant =>
    obtain ⟨a, b, hta, hub, htu⟩ := eq_instants hway
    obtain ⟨v, a', hsv, hta', hst⟩ := eq_instants (ha.trans hway)
    obtain ⟨v', b', hsv', hub', hsu⟩ := eq_instants (hb.trans hway)
    -- what is an instant by itself is that instant on the right, too
    rw [instantBeside, hta, Option.some_or] at hta'
    cases hta'
    cases hub.symm.trans hub'
    cases hsv.symm.trans hsv'
    rw [htu] at hle
    rw [hst, hsu]
    exact between_widens hle
  | text =>
    rw [eq_texts hway] at hle
    rw [eq_texts (ha.trans hway), eq_texts (hb.trans hway)]
    exact between_widens hle

/-! ## The filters of a list -/

/-- The range filters of the versions of agents. -/
def agentVersion : RangeOp → String
  | .gte => "agentVersion__gte"
  | .lte => "agentVersion__lte"
  | .gt => "agentVersion__gt"
  | .lt => "agentVersion__lt"

/-- An agent of a version. -/
def versioned (version : String) : Json := .dict [("agentVersion", .str version)]

lemma getNested_versioned (version : String) :
    getNested asciiSortPython.toPython (versioned version) "agentVersion" = .str version := rfl

lemma carries_versioned (version : String) :
    Carries asciiSortPython.toFilterPython (versioned version) "agentVersion" := by
  rw [Carries, getNested_versioned]
  exact nofun

lemma passes_versioned {held version : String} (hversion : isSkipped (.str version) = false) :
    PassesRange asciiSortPython.toFilterPython [versioned held] agentVersion "agentVersion" "string"
        op (.str version) (versioned held)
      ↔ (comparison asciiSortPython.toFilterPython held version).answer op = true := by
  rw [passesRange_iff hversion, and_iff_right (.inl rfl), and_iff_right List.mem_cons_self,
    and_iff_right (carries_versioned held), comparisonOf, getNested_versioned]
  rfl

end Mockdr.S1
