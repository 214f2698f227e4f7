import Mockdr.Builtins
import Mockdr.Elastic.Fnmatch
import Mockdr.Lib.Delimited

/-!
# FQL

The Falcon Query Language as the list endpoints of `api/routers/cs_*` filter with it
(`utils/cs_fql.py`): `+` between groups, `,` between the terms of a group.

* `smartSplit` cuts a filter at one of the two, outside of quotations, brackets and parentheses.
* `parseTerm` reads one term, `parseFql` a filter, a clause for each term that can be read.
* `applyFql` filters records. A record is whatever `get_nested` can look into, a dictionary or a
  stored object.
-/

namespace Mockdr

namespace Fql

/-! ## Terms -/

/-- The canonical operators. -/
inductive Operator where
  | eq
  | neq
  | range (op : RangeOp)
  | isIn
  | nin
  | wildcard
  | notWildcard
  | text
  | notText
  deriving DecidableEq

/-- How a clause joins with the one before it. -/
inductive Conjunction where
  | and
  | or
  deriving DecidableEq

/-- `FqlClause` -/
structure FqlClause where
  field : String
  operator : Operator
  values : List String
  conjunction : Conjunction := .and
  deriving DecidableEq

/-- What stands before the `$` of a pattern: a line feed at the very end is not looked at. -/
def beforeEnd (value : List Char) : List Char :=
  if value.getLast? = some '\n' then value.dropLast else value

/-- What stands between a first and a last character, if there is no line feed in it. -/
def between (first last : Char) (value : List Char) : Option (List Char) :=
  match beforeEnd value with
  | c :: rest =>
    if c = first ∧ rest.getLast? = some last ∧ '\n' ∉ rest.dropLast then some rest.dropLast
    else none
  | [] => none

/-- `_QUOTED_RE` -/
def quotedRe (value : List Char) : Option (List Char) := between '\'' '\'' value

/-- `_BRACKET_RE` -/
def bracketRe (value : List Char) : Option (List Char) :=
  (between '[' ']' value).filter fun inner => !inner.isEmpty

/-- `_BRACKET_ITEM_RE.finditer`: every other part of what the quotes cut apart, as long as a quote
    closes it. -/
def bracketItems : List (List Char) → List (List Char)
  | _ :: item :: rest =>
    match rest with
    | [] => []
    | _ :: _ => item :: bracketItems rest
  | _ => []

/-- `_unquote` -/
def unquote (value : List Char) : List Char := (quotedRe value).getD value

/-- `_classify_operator` -/
def classifyOperator (opChars : String) (value : List Char) : Operator :=
  if (bracketRe value).isSome then
    if opChars = "!" ∨ opChars = "!=" then .nin else .isIn
  else if opChars = "~" then .text
  else if opChars = "!~" then .notText
  else if opChars = "!" ∨ opChars = "!=" then .neq
  else if opChars = ">=" then .range .gte
  else if opChars = "<=" then .range .lte
  else if opChars = ">" then .range .gt
  else if opChars = "<" then .range .lt
  else if '*' ∈ unquote value ∨ '?' ∈ unquote value then .wildcard
  else .eq

/-- `_extract_values` -/
def extractValues (value : List Char) (operator : Operator) : List String :=
  let plain := [String.ofList (unquote value)]
  if operator = .isIn ∨ operator = .nin then
    match bracketRe value with
    | some inner => (bracketItems (inner.splitOn '\'')).map String.ofList
    | none => plain
  else plain

/-- The partner of each parenthesis that has one, `opened` being the positions of those still open:
    the pairs of an opening and a closing position. -/
def partners : Nat → List Nat → List Char → List (Nat × Nat)
  | _, _, [] => []
  | index, opened, ch :: rest =>
    if ch = '(' then partners (index + 1) (index :: opened) rest
    else if ch = ')' then
      match opened with
      | [] => partners (index + 1) [] rest
      | last :: opened => (last, index) :: partners (index + 1) opened rest
    else partners (index + 1) opened rest

/-- Peel the pairs that enclose all of `text[lo:stop]`; the fuel is the length of the text. -/
def peel (text : List Char) (partner : List (Nat × Nat)) : Nat → Nat → Nat → List Char
  | 0, lo, stop => (text.take stop).drop lo
  | fuel + 1, lo, stop =>
    if lo + 1 < stop ∧ text[lo]? = some '(' ∧ Assoc.get lo partner = some (stop - 1) then
      let inner := (text.take (stop - 1)).drop (lo + 1)
      let lo := lo + 1 + (inner.takeWhile isSpace).length
      let behind := ((inner.dropWhile isSpace).reverse.takeWhile isSpace).length
      peel text partner fuel lo (stop - 1 - behind)
    else (text.take stop).drop lo

/-- `_ungrouped` -/
def ungrouped (raw : List Char) : List Char :=
  let text := (strip (String.ofList raw)).toList
  peel text (partners 0 [] text) text.length 0 text.length

/-- The operators a term can have after its colon, in the order in which `_TERM_RE` tries them. -/
def operatorChars : List String := ["!~", "~", "!=", "!", ">=", ">", "<=", "<", "!>", "!<", ""]

/-- The value portion behind an operator: at least one character, up to the end of the line. -/
def valuePortion (opChars : String) (text : List Char) : Option (String × List Char) :=
  match opChars.toList.isPrefixOf? text with
  | some rest =>
    match rest.takeWhile (· ≠ '\n') with
    | [] => none
    | value => some (opChars, value)
  | none => none

/-- `[A-Za-z_]` -/
def fieldStart (c : Char) : Bool := c.isAlpha || c = '_'

/-- `[A-Za-z0-9_.]` -/
def fieldChar (c : Char) : Bool := c.isAlphanum || c = '_' || c = '.'

/-- `_TERM_RE.match`: the field, the operator characters and the value portion. -/
def termRe (text : List Char) : Option (List Char × String × List Char) :=
  match text with
  | c :: rest =>
    if fieldStart c then
      match rest.dropWhile fieldChar with
      | ':' :: after =>
        (operatorChars.findSome? fun opChars => valuePortion opChars after).map fun found =>
          (c :: rest.takeWhile fieldChar, found)
      | _ => none
    else none
  | [] => none

/-- `_parse_term` -/
def parseTerm (raw : List Char) : Option FqlClause :=
  (termRe (ungrouped raw)).map fun (field, opChars, value) =>
    let starred := value.head? = some '*'
    let value := if starred then value.drop 1 else value
    let operator :=
      if starred ∧ (opChars = "!" ∨ opChars = "!=") then .notWildcard
      else if starred then .wildcard
      else classifyOperator opChars value
    { field := String.ofList field, operator, values := extractValues value operator }

/-! ## Filters -/

/-- What is open around a character. -/
structure Scan where
  inQuote : Bool
  inBracket : Bool
  depth : Nat
  deriving DecidableEq

/-- Nothing is. -/
def Scan.closed : Scan := ⟨false, false, 0⟩

/-- What is open after a character, which is not a delimiter. -/
def Scan.next (s : Scan) (ch : Char) : Scan :=
  if ch = '\'' ∧ !s.inBracket then { s with inQuote := !s.inQuote }
  else if ch = '[' ∧ !s.inQuote then { s with inBracket := true }
  else if ch = ']' ∧ !s.inQuote then { s with inBracket := false }
  else if ch = '(' ∧ !s.inQuote ∧ !s.inBracket then { s with depth := s.depth + 1 }
  else if ch = ')' ∧ !s.inQuote ∧ !s.inBracket then { s with depth := s.depth - 1 }
  else s

/-- `_smart_split`, for a delimiter that is no quote, bracket or parenthesis. -/
def smartSplit (text : List Char) (delimiter : Char) : List (List Char) :=
  Delimited.cut Scan.next Scan.closed delimiter text

/-- What a filter is refused with, or a failure that nothing on the way catches. -/
inductive Failure where
  /-- `FqlError` -/
  | fqlError (message : String)
  /-- an `OverflowError` or a `ValueError` -/
  | uncaught

/-- The clauses of a group. -/
def groupClauses (group : List Char) : List FqlClause :=
  match smartSplit group ',' with
  | [term] => (parseTerm term).toList.map ({ · with conjunction := .and })
  | terms => terms.zipIdx.filterMap fun (term, i) =>
      (parseTerm term).map ({ · with conjunction := if 0 < i then .or else .and })

/-- `not fql or not fql.strip()` -/
def blank (fql : List Char) : Bool := fql.all isSpace

/-- `parse_fql` -/
def parseFql (fql : List Char) : Except Failure (List FqlClause) :=
  if blank fql then .ok []
  else
    match (smartSplit fql '+').flatMap groupClauses with
    | [] => .error (.fqlError ("invalid filter expression: " ++ String.ofList fql))
    | clauses => .ok clauses

/-! ## Matching -/

section Matching

variable (py : QueryPython)

/-- `_candidate_values` -/
def candidateValues : Json → List String
  | .null => [""]
  | .list [] => [""]
  | .list vs => vs.map py.toStr
  | v => [py.toStr v]

/-- `_text_match` -/
def textMatch (candidate value : String) : Bool :=
  let text := py.lower candidate
  let wanted := py.lower value
  if hasChar '*' wanted || hasChar '?' wanted then fnmatch text wanted else hasSub wanted text

/-- The microseconds of `_UNITS`. -/
def unitMicroseconds : Char → Option Int
  | 'd' => some 86400000000
  | 'h' => some 3600000000
  | _ => none

/-- `_RELATIVE_RE`: the digits of `now-<n>d` or `now-<n>h`, and the unit. -/
def relativeRe (target : String) : Option (String × Int) :=
  match cutPrefix "now-" target with
  | none => none
  | some rest =>
    let digits := rest.toList.takeWhile fun c => (py.digit c).isSome
    match digits, rest.toList.drop digits.length with
    | _ :: _, [unit] => (unitMicroseconds unit).map fun microseconds =>
        (String.ofList digits, microseconds)
    | _, _ => none

/-- `_relative_moment`. A number that `int` does not read, and a moment before the year 1, raise. -/
def relativeMoment (target : String) : Except Failure (Option Int) :=
  match relativeRe py (strip target) with
  | none => .ok none
  | some (digits, microseconds) =>
    match py.readInt digits with
    | none => .error .uncaught
    | some n =>
      let moment := py.now - n * microseconds
      if moment < 0 then .error .uncaught else .ok (some moment)

/-- `_as_datetime` -/
def asDatetime (v : Json) : Option Int := py.parseUtc (strip (py.toStr v))

/-- `_compare_range` -/
def compareRange (v : Json) (target : String) (op : RangeOp) : Except Failure Bool :=
  match v with
  | .null => .ok false
  | v => do
    match ← relativeMoment py target with
    | some moment =>
      match asDatetime py v with
      | none => .ok false
      | some recorded => .ok (op.between recorded moment)
    | none =>
      match py.float (py.toStr v), py.float target with
      | some fv, some tv => .ok (op.holds fv tv)
      | _, _ => .ok (op.between (py.toStr v) target)

variable {ρ : Type} (getNested : ρ → String → Json)

/-- `_match_clause` -/
def matchClause (record : ρ) (clause : FqlClause) : Except Failure Bool :=
  let fieldVal := getNested record clause.field
  let candidates := candidateValues py fieldVal
  let anyPair (p : String → String → Bool) := candidates.any fun c => clause.values.any (p c)
  let allPairs (p : String → String → Bool) := candidates.all fun c => clause.values.all (p c)
  match clause.operator with
  | .eq => .ok (anyPair fun c v => c = v)
  | .neq => .ok (allPairs fun c v => c ≠ v)
  | .wildcard => .ok (anyPair fnmatch)
  | .notWildcard => .ok (allPairs fun c v => !fnmatch c v)
  | .text => .ok (anyPair (textMatch py))
  | .notText => .ok (allPairs fun c v => !textMatch py c v)
  | .isIn => .ok (candidates.any fun c => clause.values.contains c)
  | .nin => .ok (candidates.all fun c => !clause.values.contains c)
  | .range op => clause.values.allM fun v => compareRange py fieldVal v op

/-- Put a clause into the group it belongs to: an "or" goes with the clause before it. -/
def regroup (groups : List (List FqlClause)) (clause : FqlClause) : List (List FqlClause) :=
  match groups.getLast? with
  | some group =>
    if clause.conjunction = .and then groups ++ [[clause]]
    else groups.dropLast ++ [group ++ [clause]]
  | none => [[clause]]

/-- Whether a record passes every group. -/
def passes (groups : List (List FqlClause)) (record : ρ) : Except Failure Bool :=
  groups.allM fun group => group.anyM (matchClause py getNested record)

/-- The records that pass, in their order. -/
def passing (groups : List (List FqlClause)) : List ρ → Except Failure (List ρ)
  | [] => .ok []
  | record :: records => do
    let isMatch ← passes py getNested groups record
    let rest ← passing groups records
    .ok (if isMatch then record :: rest else rest)

/-- `apply_fql` -/
def applyFql (records : List ρ) (fql : List Char) : Except Failure (List ρ) := do
  match ← parseFql fql with
  | [] => .ok records
  | clauses => passing py getNested (clauses.foldl regroup []) records

end Matching

end Fql

end Mockdr
