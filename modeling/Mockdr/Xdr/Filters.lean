import Mathlib
import Mockdr.Equality
import Mockdr.Lib.Except
import Mockdr.Xdr.Endpoints

/-!
# The filters of Cortex lists

`apply_xdr_filters` of `utils/xdr_filters.py`, over records of any kind and the fields of any
endpoint, with what it raises.

* `evaluate` is `_compare`; an operator it does not know is noticed only between two numbers.
* `applyFilters` narrows some records by one filter after another.
* `refusedByRequest_iff`: when filters are refused for the fields and operators they name, whatever
  the records are.
-/

namespace Mockdr

namespace Xdr

/-- What applying filters raises. -/
inductive FilterError where
  /-- `XdrFilterError` -/
  | unsupported (message : String)
  /-- an exception that is not caught -/
  | crash

/-- A computation raised an `XdrFilterError`. -/
def Refused {α : Type} (x : Except FilterError α) : Prop :=
  ∃ message, x = .error (.unsupported message)

section

variable (py : NumberPython)

/-- The comparison of two numbers in `_compare`. -/
def evaluateNumbers (left right : PyFloat) (operator : String) : Except FilterError Bool :=
  if operator = "gte" then .ok (RangeOp.gte.holds left right)
  else if operator = "lte" then .ok (RangeOp.lte.holds left right)
  else if operator = "gt" then .ok (RangeOp.gt.holds left right)
  else if operator = "lt" then .ok (RangeOp.lt.holds left right)
  else .error (.unsupported ("Unsupported filter operator '" ++ operator ++ "'"))

/-- `_compare` -/
def evaluate (recordValue operand : Json) (operator : String) : Except FilterError Bool :=
  let lower v := py.lower (text py v)
  let isIn := (asList recordValue).any fun v => ((asList operand).map lower).contains (lower v)
  let isEq := (asList recordValue).any fun v => text py v = text py operand
  let contains := (asList recordValue).any fun v => hasSub (lower operand) (lower v)
  if operator = "in" ∨ operator = "in_list" then .ok isIn
  else if operator = "nin" ∨ operator = "not_in" then .ok (!isIn)
  else if operator = "eq" ∨ operator = "=" then .ok isEq
  else if operator = "neq" ∨ operator = "!=" then .ok (!isEq)
  else if operator = "contains" then .ok contains
  else if operator = "not_contains" then .ok (!contains)
  else match py.asFloat recordValue, py.asFloat operand with
    | some (some left), some (some right) => evaluateNumbers left right operator
    | some _, some _ => .ok false
    | _, _ => .error .crash

/-- The operators that compare texts. -/
def textOperators : List String :=
  ["in", "in_list", "nin", "not_in", "eq", "=", "neq", "!=", "contains", "not_contains"]

/-- The operators that compare numbers. -/
def numberOperators : List String := ["gte", "lte", "gt", "lt"]

variable (fieldMap : List (String × String))

/-- `str(entry.get("field", ""))` -/
def fieldOf (entry : Object) : String := py.toStr (arg entry "field" (.str ""))

/-- What a filter on another field is refused with. -/
def unsupportedField (field : String) : String :=
  "Unsupported filter field '" ++ field ++ "'. Supported fields: "
    ++ ", ".intercalate ((fieldMap.map Prod.fst).mergeSort)

/-- The records that one comparison leaves. -/
def narrowBy (key : String) (records : List Json) (comparison : Json × String) :
    Except FilterError (List Json) :=
  records.filterM fun r => evaluate py (getNested py.toPython r key) comparison.1 comparison.2

/-- One turn of the loop over the filters. -/
def applyFilter (records : List Json) (entry : Object) : Except FilterError (List Json) :=
  match Assoc.get (fieldOf py entry) fieldMap with
  | none => .error (.unsupported (unsupportedField fieldMap (fieldOf py entry)))
  | some key => (comparisons py entry).foldlM (narrowBy py key) records

/-- `apply_xdr_filters` -/
def applyFilters (records : List Json) (filters : Option (List Object)) :
    Except FilterError (List Json) :=
  (filters.getD []).foldlM (applyFilter py fieldMap) records

/-! ## What filters ask for -/

/-- A filter on a field that the endpoint does not support. -/
def UnsupportedField (filters : List Object) : Prop :=
  ∃ entry ∈ filters, Assoc.get (fieldOf py entry) fieldMap = none

/-- A filter with an operator that there is not. -/
def UnsupportedOperator (filters : List Object) : Prop :=
  ∃ entry ∈ filters, ∃ c ∈ comparisons py entry, c.2 ∉ textOperators ++ numberOperators

/-- A record satisfies a comparison, if this can be told. -/
def satisfies (key : String) (r : Json) (comparison : Json × String) : Bool :=
  match evaluate py (getNested py.toPython r key) comparison.1 comparison.2 with
  | .ok holds => holds
  | .error _ => false

/-- A record satisfies a filter. -/
def holdsFor (r : Json) (entry : Object) : Bool :=
  match Assoc.get (fieldOf py entry) fieldMap with
  | none => false
  | some key => (comparisons py entry).all (satisfies py key r)

/-- The numbers that are compared fit into floats. -/
def Fits (filters : List Object) (records : List Json) : Prop :=
  ∀ entry ∈ filters, ∀ key, Assoc.get (fieldOf py entry) fieldMap = some key →
    ∀ c ∈ comparisons py entry, c.2 ∉ textOperators →
      ∀ r ∈ records, (py.asFloat c.1).isSome ∧ (py.asFloat (getNested py.toPython r key)).isSome

/-- Filters are refused for what they name: on all records, or on none, and then they leave the
    records that satisfy all of them, in whatever order they stand. -/
def RefusedByRequest (filters : List Object) : Prop :=
  ∀ records, Fits py fieldMap filters records → ∀ filters', filters'.Perm filters →
    (Refused (applyFilters py fieldMap records (some filters'))
        ↔ UnsupportedField py fieldMap filters ∨ UnsupportedOperator py filters)
      ∧ (¬ (UnsupportedField py fieldMap filters ∨ UnsupportedOperator py filters) →
        applyFilters py fieldMap records (some filters')
          = .ok (records.filter fun r => filters.all (holdsFor py fieldMap r)))

end

variable {py : NumberPython} {fieldMap : List (String × String)} {filters : List Object}
  {records : List Json}

/-- Evaluation answers as the selection of endpoints has it, where it answers. -/
lemma toOption_evaluateNumbers (left right : PyFloat) (operator : String) :
    (evaluateNumbers left right operator).toOption
      = match operator with
        | "gte" => some (RangeOp.gte.holds left right)
        | "lte" => some (RangeOp.lte.holds left right)
        | "gt" => some (RangeOp.gt.holds left right)
        | "lt" => some (RangeOp.lt.holds left right)
        | _ => none := by
  rw [evaluateNumbers]
  split_ifs with hgte hlte hgt hlt
  · rw [hgte]
    rfl
  · rw [hlte]
    rfl
  · rw [hgt]
    rfl
  · rw [hlt]
    rfl
  · split
    · exact absurd rfl hgte
    · exact absurd rfl hlte
    · exact absurd rfl hgt
    · exact absurd rfl hlt
    · rfl

lemma toOption_evaluate (recordValue operand : Json) (operator : String) :
    (evaluate py recordValue operand operator).toOption
        = compare py recordValue operand operator := by
  rw [evaluate, compare]
  split_ifs
  iterate 6 rfl
  cases py.asFloat recordValue with
  | none => rfl
  | some left =>
    cases py.asFloat operand with
    | none => cases left <;> rfl
    | some right =>
      cases left with
      | none => cases right <;> rfl
      | some left =>
        cases right with
        | none => rfl
        | some right => exact toOption_evaluateNumbers left right operator

/-! ## One comparison -/

lemma evaluate_of_text {recordValue operand : Json} {operator : String}
    (h : operator ∈ textOperators) :
    ∃ holds, evaluate py recordValue operand operator = .ok holds := by
  rw [evaluate]
  simp only [textOperators, List.mem_cons, List.not_mem_nil, or_false] at h
  rcases h with rfl | rfl | rfl | rfl | rfl | rfl | rfl | rfl | rfl | rfl
  all_goals exact ⟨_, rfl⟩

/-- Any other operator compares numbers, if there is such an operator. -/
lemma evaluate_of_not_text {recordValue operand : Json} {operator : String}
    (h : operator ∉ textOperators) (hoperand : (py.asFloat operand).isSome)
    (hvalue : (py.asFloat recordValue).isSome) :
    (operator ∈ numberOperators →
        ∃ holds, evaluate py recordValue operand operator = .ok holds)
      ∧ ((∃ holds, evaluate py recordValue operand operator = .ok holds)
        ∨ Refused (evaluate py recordValue operand operator)) := by
  obtain ⟨left, hleft⟩ := Option.isSome_iff_exists.1 hvalue
  obtain ⟨right, hright⟩ := Option.isSome_iff_exists.1 hoperand
  simp only [textOperators, List.mem_cons, List.not_mem_nil, or_false, not_or] at h
  obtain ⟨h1, h2, h3, h4, h5, h6, h7, h8, h9, h10⟩ := h
  rw [evaluate]
  simp only [h1, h2, h3, h4, h5, h6, h7, h8, h9, h10, or_self, if_false, hleft, hright]
  cases left with
  | none => exact ⟨fun _ => ⟨_, rfl⟩, .inl ⟨_, rfl⟩⟩
  | some left =>
    cases right with
    | none => exact ⟨fun _ => ⟨_, rfl⟩, .inl ⟨_, rfl⟩⟩
    | some right =>
      simp only [numberOperators, List.mem_cons, List.not_mem_nil, or_false, evaluateNumbers]
      split_ifs with hgte hlte hgt hlt
      · exact ⟨fun _ => ⟨_, rfl⟩, .inl ⟨_, rfl⟩⟩
      · exact ⟨fun _ => ⟨_, rfl⟩, .inl ⟨_, rfl⟩⟩
      · exact ⟨fun _ => ⟨_, rfl⟩, .inl ⟨_, rfl⟩⟩
      · exact ⟨fun _ => ⟨_, rfl⟩, .inl ⟨_, rfl⟩⟩
      · refine ⟨fun h => ?_, .inr ⟨_, rfl⟩⟩
        rcases h with h | h | h | h
        · exact absurd h hgte
        · exact absurd h hlte
        · exact absurd h hgt
        · exact absurd h hlt

lemma raises_evaluate {recordValue operand : Json} {operator : String}
    (hfits : operator ∉ textOperators →
      (py.asFloat operand).isSome ∧ (py.asFloat recordValue).isSome) :
    Raises (fun e => ∃ message, e = .unsupported message)
        (evaluate py recordValue operand operator) := by
  by_cases htext : operator ∈ textOperators
  · obtain ⟨holds, hholds⟩ := @evaluate_of_text py _ _ _ htext
    rw [hholds]
    exact .ok holds
  · obtain ⟨hoperand, hvalue⟩ := hfits htext
    rcases (evaluate_of_not_text htext hoperand hvalue).2 with ⟨holds, hholds⟩ | ⟨message, hmessage⟩
    · rw [hholds]
      exact .ok holds
    · rw [hmessage]
      exact .error ⟨message, rfl⟩

lemma evaluate_eq_satisfies {key : String} {r : Json} {c : Json × String}
    (hsupported : c.2 ∈ textOperators ++ numberOperators)
    (hfits : c.2 ∉ textOperators →
      (py.asFloat c.1).isSome ∧ (py.asFloat (getNested py.toPython r key)).isSome) :
    evaluate py (getNested py.toPython r key) c.1 c.2 = .ok (satisfies py key r c) := by
  obtain ⟨holds, hholds⟩ : ∃ holds,
      evaluate py (getNested py.toPython r key) c.1 c.2 = .ok holds := by
    by_cases htext : c.2 ∈ textOperators
    · exact evaluate_of_text htext
    · obtain ⟨hoperand, hvalue⟩ := hfits htext
      exact (evaluate_of_not_text htext hoperand hvalue).1
        ((List.mem_append.1 hsupported).resolve_left htext)
  rw [satisfies, hholds]

/-! ## All filters -/

lemma Fits.perm {filters' : List Object} (h : Fits py fieldMap filters records)
    (hperm : filters'.Perm filters) : Fits py fieldMap filters' records :=
  fun entry hentry => h entry (hperm.mem_iff.1 hentry)

lemma applyFilters_of_supported (hfits : Fits py fieldMap filters records)
    (hfield : ¬ UnsupportedField py fieldMap filters)
    (hoperator : ¬ UnsupportedOperator py filters) :
    applyFilters py fieldMap records (some filters)
      = .ok (records.filter fun r => filters.all (holdsFor py fieldMap r)) := by
  refine foldlM_eq_filter fun entry hentry left hleft => ?_
  obtain ⟨key, hkey⟩ := Option.ne_none_iff_exists'.1 fun h => hfield ⟨entry, hentry, h⟩
  have hsame : left.filter (fun r => holdsFor py fieldMap r entry)
      = left.filter fun r => (comparisons py entry).all fun c => satisfies py key r c := by
    refine List.filter_congr fun r _ => ?_
    rw [holdsFor, hkey]
  rw [applyFilter, hkey, hsame]
  refine foldlM_eq_filter fun c hc left' hleft' => filterM_eq_filter fun r hr => ?_
  have hsupported : c.2 ∈ textOperators ++ numberOperators := by
    by_contra h
    exact hoperator ⟨entry, hentry, c, hc, h⟩
  exact evaluate_eq_satisfies hsupported fun htext =>
    hfits entry hentry key hkey c hc htext r (hleft (hleft' hr))

lemma Fits.subset {entry : Object} {left : List Json} (h : Fits py fieldMap filters records)
    (hentry : entry ∈ filters) (hleft : left ⊆ records) : Fits py fieldMap [entry] left := by
  intro entry' hentry' key hkey c hc htext r hr
  obtain rfl := List.mem_singleton.1 hentry'
  exact h entry' hentry key hkey c hc htext r (hleft hr)

lemma applyFilter_step {entry : Object} {left : List Json} (hfits : Fits py fieldMap [entry] left) :
    Raises (fun e => ∃ message, e = .unsupported message) (applyFilter py fieldMap left entry)
      ∧ ∀ left', applyFilter py fieldMap left entry = .ok left' → left' ⊆ left := by
  rw [applyFilter]
  cases hkey : Assoc.get (fieldOf py entry) fieldMap with
  | none => exact ⟨.error ⟨_, rfl⟩, nofun⟩
  | some key =>
    refine Raises.foldlM (I := fun kept => kept ⊆ left) (fun _ ha => ha) fun kept c hc hkept => ?_
    constructor
    · refine Raises.filterM fun r hr => raises_evaluate fun htext => ?_
      exact hfits entry (List.mem_singleton_self entry) key hkey c hc htext r (hkept hr)
    · intro kept' hkept'
      exact fun a ha => hkept (subset_of_filterM hkept' ha)

lemma refused_of_unsupportedField (hfits : Fits py fieldMap filters records)
    (hfield : UnsupportedField py fieldMap filters) :
    Refused (applyFilters py fieldMap records (some filters)) := by
  obtain ⟨entry, hentry, hnone⟩ := hfield
  obtain ⟨hraises, -⟩ := Raises.foldlM (P := fun e => ∃ message, e = .unsupported message)
    (I := fun left => left ⊆ records) (f := applyFilter py fieldMap) (l := filters) (b := records)
    (fun _ ha => ha) fun left entry' hentry' hleft => by
      obtain ⟨hraises, hsub⟩ := applyFilter_step (hfits.subset hentry' hleft)
      exact ⟨hraises, fun left' h => List.Subset.trans (hsub left' h) hleft⟩
  cases hrun : filters.foldlM (applyFilter py fieldMap) records with
  | error e =>
    obtain ⟨message, rfl⟩ := hraises e hrun
    exact ⟨message, hrun⟩
  | ok left =>
    obtain ⟨_, _, hok⟩ := exists_ok_of_mem_foldlM hrun hentry
    rw [applyFilter, hnone] at hok
    cases hok

lemma applyFilters_nil (hfield : ¬ UnsupportedField py fieldMap filters) :
    applyFilters py fieldMap [] (some filters) = .ok [] := by
  refine @foldlM_eq_filter _ _ _ _ (fun _ _ => true) _ [] fun entry hentry left hleft => ?_
  obtain rfl := List.subset_nil.1 hleft
  obtain ⟨key, hkey⟩ := Option.ne_none_iff_exists'.1 fun h => hfield ⟨entry, hentry, h⟩
  rw [applyFilter, hkey]
  refine @foldlM_eq_filter _ _ _ _ (fun _ _ => true) _ [] fun c _ left' hleft' => ?_
  obtain rfl := List.subset_nil.1 hleft'
  rfl

/-- Filters are refused for what they name and nothing else, exactly if a field is among what they
    name that there is not, or no operator. -/
lemma refusedByRequest_iff :
    RefusedByRequest py fieldMap filters
      ↔ (UnsupportedOperator py filters → UnsupportedField py fieldMap filters) := by
  constructor
  · intro h hoperator
    by_contra hfield
    have hfits : Fits py fieldMap filters [] := fun _ _ _ _ _ _ _ _ hr => absurd hr List.not_mem_nil
    obtain ⟨message, hrefused⟩ := (h [] hfits filters (List.Perm.refl filters)).1.2 (.inr hoperator)
    rw [applyFilters_nil hfield] at hrefused
    cases hrefused
  · intro h records hfits filters' hperm
    have hfits' := hfits.perm hperm
    by_cases hfield : UnsupportedField py fieldMap filters
    · have hfield' : UnsupportedField py fieldMap filters' := by
        obtain ⟨entry, hentry, hnone⟩ := hfield
        exact ⟨entry, hperm.mem_iff.2 hentry, hnone⟩
      exact ⟨iff_of_true (refused_of_unsupportedField hfits' hfield') (.inl hfield),
        fun hnot => absurd (.inl hfield) hnot⟩
    · have hoperator : ¬ UnsupportedOperator py filters := fun hoperator => hfield (h hoperator)
      have hfield' : ¬ UnsupportedField py fieldMap filters' := by
        rintro ⟨entry, hentry, hnone⟩
        exact hfield ⟨entry, hperm.mem_iff.1 hentry, hnone⟩
      have hoperator' : ¬ UnsupportedOperator py filters' := by
        rintro ⟨entry, hentry, hc⟩
        exact hoperator ⟨entry, hperm.mem_iff.1 hentry, hc⟩
      have hok := applyFilters_of_supported hfits' hfield' hoperator'
      have hall : ∀ r, filters'.all (holdsFor py fieldMap r)
          = filters.all (holdsFor py fieldMap r) :=
        fun r => hperm.all_eq
      simp only [hall] at hok
      refine ⟨iff_of_false ?_ (not_or.2 ⟨hfield, hoperator⟩), fun _ => hok⟩
      rintro ⟨message, hrefused⟩
      rw [hok] at hrefused
      cases hrefused

end Xdr

end Mockdr
