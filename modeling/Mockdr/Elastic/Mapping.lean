import Mockdr.Python

/-!
# The mapping of an index

`utils/es_mapping.py`: the types that a document's fields are mapped to, and how a mapping takes on
further fields; and, of `application/es_search/queries.py`, what the mapping of an index is made of.

* `Spec` is what a mapping says of a field, `Properties` of the fields of an index or of an object.
* `inferProperties` is the mapping of a document, `mergeProperties` one mapping merged into another.
* `Index` is an index, `Index.mapping` its mapping, `Index.step` a document that is written to it
  under an id of its own, or a mapping that is put.
-/

namespace Mockdr

namespace Mapping

variable (py : Python)

/-- What a mapping says of a field besides its `properties`. -/
structure Attrs where
  type : Option String
  others : Object

/-- What a mapping says of a field; an object is a field with `properties`. -/
inductive Spec where
  | leaf (attrs : Attrs)
  | object (attrs : Attrs) (properties : List (String × Spec))

/-- The fields of a mapping, in the order they were added. -/
abbrev Properties := List (String × Spec)

/-! ## Types of a document's fields -/

/-- `\d{n}` -/
def digitRun (n : Nat) (cs : List Char) : Option (List Char) :=
  if (cs.take n).length = n ∧ (cs.take n).all (fun c => (py.digit c).isSome) then some (cs.drop n)
  else none

/-- One of some characters. -/
def oneOf (allowed : List Char) : List Char → Option (List Char)
  | [] => none
  | c :: cs => if c ∈ allowed then some cs else none

/-- `(Z|[+-]\d{2}:?\d{2})?$` -/
def zoneLike : List Char → Bool
  | [] => true
  | ['Z'] => true
  | c :: cs =>
    (c = '+' || c = '-') &&
      match digitRun py 2 cs with
      | some (':' :: rest) => digitRun py 2 rest = some []
      | some rest => digitRun py 2 rest = some []
      | none => false

/-- `(:\d{2}(\.\d+)?)?`, and the zone behind it -/
def secondsLike : List Char → Bool
  | ':' :: cs =>
    match digitRun py 2 cs with
    | some ('.' :: rest) =>
      rest.takeWhile (fun c => (py.digit c).isSome) ≠ []
        && zoneLike py (rest.dropWhile fun c => (py.digit c).isSome)
    | some rest => zoneLike py rest
    | none => false
  | cs => zoneLike py cs

/-- `\d{4}-\d{2}-\d{2}` -/
def dayText (cs : List Char) : Option (List Char) := do
  let cs ← digitRun py 4 cs
  let cs ← oneOf ['-'] cs
  let cs ← digitRun py 2 cs
  let cs ← oneOf ['-'] cs
  digitRun py 2 cs

/-- `[T ]\d{2}:\d{2}` -/
def timeText (cs : List Char) : Option (List Char) := do
  let cs ← oneOf ['T', ' '] cs
  let cs ← digitRun py 2 cs
  let cs ← oneOf [':'] cs
  digitRun py 2 cs

/-- `_DATE_LIKE.fullmatch` -/
def dateLike (s : String) : Bool :=
  match dayText py s.toList with
  | none => false
  | some [] => true
  | some rest =>
    match timeText py rest with
    | none => false
    | some rest => secondsLike py rest

/-- `_KEYWORD_SUBFIELD` -/
def KEYWORD_SUBFIELD : Object :=
  [("keyword", .dict [("type", .str "keyword"), ("ignore_above", .int 256)])]

/-- A field with nothing but a type. -/
def Spec.ofType (type : String) : Spec := .leaf ⟨some type, []⟩

mutual

/-- `_infer_field` -/
def inferField : Json → Option Spec
  | .list xs => inferFirst xs
  | .null => none
  | .bool _ => some (.ofType "boolean")
  | .int _ => some (.ofType "long")
  | .float _ => some (.ofType "float")
  | .dict fields => some (.object ⟨none, []⟩ (inferInto [] fields))
  | .str s =>
    if dateLike py s then some (.ofType "date")
    else some (.leaf ⟨some "text", [("fields", .dict KEYWORD_SUBFIELD)]⟩)

/-- The type of a list's first member that has one. -/
def inferFirst : List Json → Option Spec
  | [] => none
  | x :: xs =>
    match inferField x with
    | some mapped => some mapped
    | none => inferFirst xs

/-- The loop of `infer_properties`. -/
def inferInto (properties : Properties) : List (String × Json) → Properties
  | [] => properties
  | (name, v) :: rest =>
    match inferField v with
    | some mapped => inferInto (Assoc.set name mapped properties) rest
    | none => inferInto properties rest

end

/-- `infer_properties` -/
def inferProperties (source : Object) : Properties := inferInto py [] source

/-! ## Merging -/

/-- `MappingConflictError` -/
structure Conflict where
  field : String
  old : String
  new : String
  deriving DecidableEq

/-- The text of a `MappingConflictError`. -/
def Conflict.message (c : Conflict) : String :=
  s!"mapper [{c.field}] cannot be changed from type [{c.old}] to [{c.new}]"

/-- The conflict between the type of a field and the one it is to get, if both have one. -/
def conflict (full : String) (old new : Option String) : Option Conflict :=
  match old, new with
  | some old, some new => if old ≠ "" ∧ new ≠ "" ∧ new ≠ old then some ⟨full, old, new⟩ else none
  | _, _ => none

/-- The dotted name of a field. -/
def fullName (path name : String) : String := if path = "" then name else path ++ "." ++ name

mutual

/-- `merge_properties` -/
def mergeProperties (strict : Bool) (path : String) (merged : Properties) :
    List (String × Spec) → Except Conflict Properties
  | [] => .ok merged
  | (name, spec) :: rest =>
    match mergeField strict (fullName path name) (Assoc.get name merged) spec with
    | .error c => .error c
    | .ok entry => mergeProperties strict path (Assoc.set name entry merged) rest

/-- One turn of the loop of `merge_properties`: what a field becomes. -/
def mergeField (strict : Bool) (full : String) (current : Option Spec) : Spec → Except Conflict Spec
  | .leaf attrs =>
    match current with
    | none => .ok (.leaf attrs)
    | some (.object old properties) => .ok (.object old properties)
    | some (.leaf old) =>
      match if strict then conflict full old.type attrs.type else none with
      | some c => .error c
      | none => .ok (.leaf old)
  | .object attrs incoming =>
    match current with
    | none => .ok (.object attrs incoming)
    | some (.object old properties) =>
      (mergeProperties strict full properties incoming).map (.object old)
    | some (.leaf old) => (mergeProperties strict full [] incoming).map (.object old)

end

/-! ## Indices -/

mutual

/-- Whether no field of an object is named twice, nor in an object of it. -/
def Spec.Distinct : Spec → Prop
  | .leaf _ => True
  | .object _ properties => (properties.map Prod.fst).Nodup ∧ AllDistinct properties

/-- Whether each of some fields is `Distinct`. -/
def AllDistinct : List (String × Spec) → Prop
  | [] => True
  | (_, spec) :: rest => spec.Distinct ∧ AllDistinct rest

end

/-- A mapping in a request: a dictionary, in which nothing is named twice. -/
structure Declared where
  properties : Properties
  distinct : (properties.map Prod.fst).Nodup ∧ AllDistinct properties

/-- An entry of `es_indices`, and the sources of the documents that were written to the index. -/
structure Index where
  properties : Properties
  documents : List Object

/-- `index_properties` -/
def Index.mapping (ix : Index) : Except Conflict Properties :=
  ix.documents.foldlM
    (fun properties source => mergeProperties false "" properties (inferProperties py source))
    ix.properties

/-- What adds to a mapping: a document that is written under an id of its own, or a mapping that is
    put. -/
inductive Step where
  | document (source : Object)
  | mapping (body : Declared)

/-- One step; `put_mapping` refuses a conflict. -/
def Index.step (ix : Index) : Step → Except Conflict Index
  | .document source => .ok { ix with documents := ix.documents ++ [source] }
  | .mapping body =>
    match ix.mapping py with
    | .error c => .error c
    | .ok properties =>
      (mergeProperties true "" properties body.properties).map fun merged =>
        { ix with properties := merged }

/-- The index after a step; one that is refused changes nothing. -/
def Index.after (ix : Index) (step : Step) : Index :=
  match ix.step py step with
  | .ok ix => ix
  | .error _ => ix

end Mapping

end Mockdr
