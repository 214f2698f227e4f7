import Mockdr.S1.Filtering
import Mockdr.Sorting
import Mockdr.Xdr.Sort

/-!
# Sorted lists

`apply_query_options` of `utils/filtering.py` with the specs of a route, and what it has in common
with the sort of the Cortex lists.

* `sortPathOf` is where a documented sort field lives on some records.
* `queryOptions` sorts by it and leaves out the first `skip` records.
* `lists_sorted_iff`: both sort, and put the records that lack the field at the end, exactly if the
  sort is upwards or there is nothing to put there, and every integer is one that `float` takes.
-/

namespace Mockdr.S1

/-- The built-ins of the query options. -/
structure SortPython extends FilterPython, NumberPython where
  /-- what `sorted` leaves of keys with a NaN -/
  nanOrder : NanOrder

/-- What stands before the first `__`. -/
def beforeDunder : List Char → List Char
  | '_' :: '_' :: _ => []
  | c :: cs => c :: beforeDunder cs
  | [] => []

section

variable (py : SortPython)

/-- `_sort_path` -/
def sortPathOf (records : List Json) (name : String) (specs : List FilterSpec) : String :=
  let named := specs.find? fun spec => beforeDunder spec.param.toList = name.toList
  let located := specs.find? fun spec => !hasChar '|' spec.field
    && (spec.field = name || ("." ++ name).toList.isSuffixOf spec.field.toList)
  match records with
  | [] => name
  | first :: _ =>
    if !(getNested py.toPython first name matches .null) then name
    else match named.or located with
      | some spec => spec.field
      | none =>
        match nestedHolder py.toFilterPython records name with
        | some holder => if holder = "" then name else holder ++ "." ++ name
        | none => name

/-- `str(params.get(name) or "")` -/
def paramText (params : Object) (name : String) : String :=
  let v := Object.get params name
  if v.truthy then py.toStr v else ""

/-- `str(params.get("sortBy") or "").strip()` -/
def sortBy (params : Object) : String := strip (paramText py params "sortBy")

/-- `str(params.get("sortOrder") or "asc").lower() == "desc"` -/
def isDescending (params : Object) : Bool :=
  let order := paramText py params "sortOrder"
  py.lower (if order = "" then "asc" else order) = "desc"

/-- `_as_int(params.get("skip"))`; `int("None")` raises. -/
def skipOf (params : Object) : Int :=
  match Object.get params "skip" with
  | .null => 0
  | v => (py.parseInt (py.toStr v)).getD 0

/-- `apply_query_options`: the records, and how many matched; nothing where it raises. -/
def queryOptions (records : List Json) (params : Object) (specs : List FilterSpec) :
    Option (List Json × ℕ) := do
  let records ←
    if sortBy py params ≠ "" then
      sortByField py.toNumberPython py.nanOrder (sortPathOf py records (sortBy py params) specs)
        (isDescending py params) records
    else some records
  some (records.drop (skipOf py params).toNat, records.length)

end

/-- The built-ins on ASCII text. -/
def asciiSortPython : SortPython where
  toQueryPython := asciiQueryPython
  isdigit s := s.toList.all Char.isDigit
  strptime _ _ := none
  fromtimestamp _ := none
  validates _ _ := true
  sorted _ _ records := records
  ofInt n := some (.finite n)
  nanOrder _ _ := []

/-- Without a `skip`, the query options are the sort. -/
lemma queryOptions_of_sortBy {py : SortPython} {records sorted : List Json} {params : Object}
    {specs : List FilterSpec} (hsort : sortBy py params ≠ "") (hskip : skipOf py params ≤ 0) :
    queryOptions py records params specs = some (sorted, sorted.length)
      ↔ sortByField py.toNumberPython py.nanOrder (sortPathOf py records (sortBy py params) specs)
          (isDescending py params) records = some sorted := by
  have hzero : (skipOf py params).toNat = 0 := Int.toNat_of_nonpos hskip
  rw [queryOptions, if_pos hsort, hzero]
  simp only [Option.bind_eq_bind, Option.bind_eq_some_iff, List.drop_zero, Option.some.injEq,
    Prod.mk.injEq]
  constructor
  · rintro ⟨sorted', h, rfl, -⟩
    exact h
  · intro h
    exact ⟨sorted, h, rfl, rfl⟩

/-- A sort field and a direction: the S1 lists and the Cortex lists are sorted by it, those records
    at the end that lack the field, exactly if the field is sortable in that direction. -/
theorem lists_sorted_iff (py : SortPython) :
    (∀ records params specs, sortBy py params ≠ "" → skipOf py params ≤ 0 →
      NoNan py.toNumberPython (sortPathOf py records (sortBy py params) specs) records →
      ((∃ sorted, queryOptions py records params specs = some (sorted, sorted.length)
          ∧ SortedBy py.toNumberPython (sortPathOf py records (sortBy py params) specs)
            (isDescending py params) records sorted)
        ↔ Sortable py.toNumberPython (sortPathOf py records (sortBy py params) specs)
          (isDescending py params) records))
    ∧ ∀ records sort, Xdr.sortField py.toNumberPython sort ≠ "" →
      NoNan py.toNumberPython (Xdr.sortField py.toNumberPython sort) records →
      ((∃ sorted, Xdr.applyXdrSort py.toNumberPython py.nanOrder records (.dict sort) = some sorted
          ∧ SortedBy py.toNumberPython (Xdr.sortField py.toNumberPython sort)
            (Xdr.sortDescending py.toNumberPython sort) records sorted)
        ↔ Sortable py.toNumberPython (Xdr.sortField py.toNumberPython sort)
          (Xdr.sortDescending py.toNumberPython sort) records) := by
  refine ⟨fun records params specs hsort hskip hnan => ?_, fun records sort hfield hnan => ?_⟩
  · rw [← @sortByField_iff py.nanOrder _ _ _ _ hnan]
    simp only [queryOptions_of_sortBy hsort hskip]
  · rw [← @sortByField_iff py.nanOrder _ _ _ _ hnan, Xdr.applyXdrSort, if_neg hfield]

/-- Two records, upwards. -/
theorem two_sorted : ∃ sorted,
    Xdr.applyXdrSort asciiSortPython.toNumberPython asciiSortPython.nanOrder
        [.dict [], .dict [("risk", .int 1)]] (.dict [("field", .str "risk")]) = some sorted
      ∧ SortedBy asciiSortPython.toNumberPython "risk" false
        [.dict [], .dict [("risk", .int 1)]] sorted := by
  refine ((lists_sorted_iff asciiSortPython).2 _ [("field", .str "risk")] (by decide) ?_).2 ?_
  · refine List.forall_mem_cons.2 ⟨?_, List.forall_mem_singleton.2 ?_⟩
    · decide
    · decide
  · refine ⟨List.forall_mem_cons.2 ⟨?_, List.forall_mem_singleton.2 ?_⟩, .inl ?_⟩
    · exact Option.some_ne_none _
    · exact Option.some_ne_none _
    · decide

/-- Downwards, the record that lacks the field is not behind the one that has it. -/
theorem missing_first_downwards : ¬ ∃ sorted,
    queryOptions asciiSortPython [.dict [("risk", .int 1)], .dict []]
        [("sortBy", .str "risk"), ("sortOrder", .str "desc")] [] = some (sorted, sorted.length)
      ∧ SortedBy asciiSortPython.toNumberPython "risk" true
        [.dict [("risk", .int 1)], .dict []] sorted := by
  have hpath : sortPathOf asciiSortPython [.dict [("risk", .int 1)], .dict []]
      (sortBy asciiSortPython [("sortBy", .str "risk"), ("sortOrder", .str "desc")]) []
      = "risk" := by decide
  have hdesc : isDescending asciiSortPython [("sortBy", .str "risk"), ("sortOrder", .str "desc")]
      = true := by decide
  have hoptions : ∀ sorted, queryOptions asciiSortPython [.dict [("risk", .int 1)], .dict []]
      [("sortBy", .str "risk"), ("sortOrder", .str "desc")] [] = some (sorted, sorted.length)
        ↔ _ := fun sorted => queryOptions_of_sortBy (by decide) (by decide)
  simp only [hoptions, hpath, hdesc]
  rw [sortByField_iff]
  · rintro ⟨-, h | h | h⟩
    · cases h
    · exact h (.dict []) (List.mem_cons_of_mem _ List.mem_cons_self) rfl
    · exact nomatch h (.dict [("risk", .int 1)]) List.mem_cons_self
  · refine List.forall_mem_cons.2 ⟨?_, List.forall_mem_singleton.2 ?_⟩
    · decide
    · decide

end Mockdr.S1
