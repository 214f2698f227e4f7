import Mockdr.Sorting

/-!
# The order of Cortex lists

`apply_xdr_sort` of `utils/xdr_filters.py`: `sortField` and `sortDescending` are what it reads of
the `sort` block of a request.
-/

namespace Mockdr

namespace Xdr

variable (py : NumberPython)

/-- `str(v or "")` -/
def textOr (v : Json) : String := if v.truthy then py.toStr v else ""

/-- `str(sort.get("field") or "").strip()` -/
def sortField (sort : Object) : String := strip (textOr py (Object.get sort "field"))

/-- `str(sort.get("keyword") or "asc").lower() == "desc"` -/
def sortDescending (sort : Object) : Bool :=
  let keyword := textOr py (Object.get sort "keyword")
  py.lower (if keyword = "" then "asc" else keyword) = "desc"

/-- `apply_xdr_sort`, nothing where it raises. -/
def applyXdrSort (nanOrder : NanOrder) (records : List Json) (sort : Json) : Option (List Json) :=
  match sort with
  | .dict sort =>
    if sortField py sort = "" then some records
    else sortByField py nanOrder (sortField py sort) (sortDescending py sort) records
  | _ => some records

end Xdr

end Mockdr
