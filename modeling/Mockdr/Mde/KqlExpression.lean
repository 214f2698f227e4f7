import Mathlib
import Mockdr.Mde.KqlSyntax

/-!
# The expressions of a hunting query

`_PredicateParser` of `utils/mde_kql.py`, and what the predicates it makes do with a row.

* `parseOr` and the functions below it descend into the parentheses and the `not`s of an expression;
  `stack` is how deep calls may nest before a `RecursionError`.
* `Pred` is a predicate as the parser builds it, `Pred.eval` what it says of a row.
* `parseOperand` reads a literal, a list, a point in time or a column.
-/

namespace Mockdr

namespace Kql

variable (py : KqlPython)

/-! ## Predicates -/

/-- A literal, or the value of a column. -/
inductive Operand where
  | literal (v : Cell)
  | column (name : String)

/-- The value of an operand in a row. -/
def Operand.eval (row : Row) : Operand → Cell
  | .literal v => v
  | .column name => cellOf row name

/-- The comparisons. -/
inductive CompareOp where
  | eq
  | ne
  | sameText
  | otherText
  | range (op : RangeOp)
  deriving DecidableEq

/-- The comparison of a token. -/
def CompareOp.ofName (name : String) : Option CompareOp :=
  Assoc.get name [("==", .eq), ("!=", .ne), ("<", .range .lt), ("<=", .range .lte),
    (">", .range .gt), (">=", .range .gte), ("=~", .sameText), ("!~", .otherText)]

/-- The string operators, without the mark that negates them. -/
inductive StringOp where
  | contains
  | startswith
  | endswith
  | has
  | isIn
  | matches
  deriving DecidableEq

/-- `_STRING_OPS`, and whether the operator is negated. -/
def StringOp.ofName (name : String) : Option (StringOp × Bool) :=
  Assoc.get name [("contains", .contains, false), ("!contains", .contains, true),
    ("startswith", .startswith, false), ("!startswith", .startswith, true),
    ("endswith", .endswith, false), ("!endswith", .endswith, true), ("has", .has, false),
    ("!has", .has, true), ("in", .isIn, false), ("!in", .isIn, true), ("matches", .matches, false)]

/-- A predicate, as the parser builds it. -/
inductive Pred where
  | truth (operand : Operand)
  | compare (op : CompareOp) (left right : Operand)
  | string (op : StringOp) (negated : Bool) (left right : Operand)
  | not (inner : Pred)
  | and (left right : Pred)
  | or (left right : Pred)

/-- `_equal` -/
def equal (a b : Cell) : Except Fault Bool :=
  if a.isNone || b.isNone then .ok (a.isNone && b.isNone)
  else
    match a, b with
    | .instant _ _, _ | _, .instant _ _ =>
      .ok ((asDatetime py a).isSome && asDatetime py a = asDatetime py b)
    | _, _ => do
      match ← asFloat py a, ← asFloat py b with
      | some x, some y => .ok (x.eq y)
      | _, _ => .ok ((← toStr py a) = (← toStr py b))

/-- `_comparison` -/
def comparison (op : CompareOp) (a b : Cell) : Except Fault Bool :=
  match op with
  | .eq => equal py a b
  | .ne => (equal py a b).map not
  | .sameText => do .ok (py.lower (← toStr py a) = py.lower (← toStr py b))
  | .otherText => do .ok (py.lower (← toStr py a) ≠ py.lower (← toStr py b))
  | .range op =>
    if a.isNone || b.isNone then .ok false
    else
      match a, b with
      | .instant _ _, _ | _, .instant _ _ =>
        match asDatetime py a, asDatetime py b with
        | some x, some y => .ok (op.between x y)
        | _, _ => .ok false
      | _, _ => do
        match ← asFloat py a, ← asFloat py b with
        | some x, some y => .ok (op.holds x y)
        | _, _ => .ok (op.between (← toStr py a) (← toStr py b))

/-- `re.split(r"[^0-9a-z_]+", text)`, `word` being the part of a word that has been read. -/
def wordsFrom : List Char → List Char → List (List Char)
  | word, [] => [word]
  | word, c :: cs =>
    if ('0' ≤ c && c ≤ '9') || ('a' ≤ c && c ≤ 'z') || c = '_' then wordsFrom (word ++ [c]) cs
    else
      match cs with
      | [] => [word, []]
      | next :: _ =>
        if ('0' ≤ next && next ≤ '9') || ('a' ≤ next && next ≤ 'z') || next = '_' then
          word :: wordsFrom [] cs
        else wordsFrom word cs

/-- `"" if value is None else str(value).lower()` -/
def loweredText (value : Cell) : Except Fault String :=
  if value.isNone then .ok "" else (toStr py value).map py.lower

/-- `str(value or "")` -/
def subjectText (value : Cell) : Except Fault String :=
  if value.truthy then toStr py value else .ok ""

/-- The values that `in` looks for. -/
def candidates : Cell → List Cell
  | .list xs => xs
  | v => [v]

-- the membership tests below carry this proof by its name
local instance lawfulText : LawfulBEq (List Char) := inferInstance

/-- `_string_op` -/
def stringOp (op : StringOp) (value target : Cell) : Except Fault Bool := do
  let text ← loweredText py value
  let lowered (v : Cell) : Except Fault String := (toStr py v).map py.lower
  match op with
  | .isIn => (candidates target).anyM fun c => (lowered c).map fun s => s = text
  | .contains => (lowered target).map fun s => hasSub s text
  | .startswith => (lowered target).map fun s => startsWith text s
  | .endswith => (lowered target).map fun s => s.toList.isSuffixOf text.toList
  | .has => (lowered target).map fun s => s.toList ∈ wordsFrom [] text.toList
  | .matches => do
    let pattern ← toStr py target
    checkRegex py pattern
    let subject ← subjectText py value
    (py.search pattern subject).mapError RegexFault.raise

/-- What a predicate says of a row, with so many calls left. -/
def Pred.eval (row : Row) : Nat → Pred → Except Fault Bool
  | 0, _ => .error .recursion
  | _ + 1, .truth operand => .ok (operand.eval row).truthy
  | _ + 1, .compare op left right => comparison py op (left.eval row) (right.eval row)
  | _ + 1, .string op negated left right =>
    (stringOp py op (left.eval row) (right.eval row)).map fun result => result != negated
  | stack + 1, .not inner => (inner.eval row stack).map Bool.not
  | stack + 1, .and left right => do
    if ← left.eval row stack then right.eval row stack else .ok false
  | stack + 1, .or left right => do
    if ← left.eval row stack then .ok true else right.eval row stack

/-! ## Operands -/

/-- `_accept`: what follows the token, if it is the next one. -/
def accept (text : String) : List Token → Option (List Token)
  | [] => none
  | token :: rest => if py.lower token.text = text then some rest else none

/-- `_next`, of an expression that has ended. -/
def unexpectedEnd : Fault := .kql "Unexpected end of expression"

/-- The number a token stands for. -/
def numberOf (text : String) : Except Fault Cell :=
  if hasChar '.' text then
    match py.float text with
    | some x => .ok (.float x)
    | none => .error (.raised .valueError)
  else (readInt py text).map .int

/-- The text between the quotes of a token: `text[1:-1]`. -/
def unquoted (text : String) : String := String.ofList (text.toList.drop 1).dropLast

/-- An element of a list of values. -/
def itemOf (token : Token) : Except Fault Cell :=
  match token.kind with
  | .string => .ok (.str (unquoted token.text))
  | .number => numberOf py token.text
  | .op | .word => .ok (.str token.text)

/-- The values of a list, behind its opening parenthesis. -/
def listItems : List Token → Except Fault (List Cell × List Token)
  | [] => .error unexpectedEnd
  | token :: rest =>
    if py.lower token.text = ")" then .ok ([], rest)
    else if token.text = "," then listItems rest
    else do
      let item ← itemOf py token
      let (items, rest) ← listItems rest
      .ok (item :: items, rest)

/-- The argument of a function, behind its opening parenthesis. -/
def functionText : List Token → Except Fault (String × List Token)
  | [] => .error unexpectedEnd
  | token :: rest =>
    if py.lower token.text = ")" then .ok ("", rest)
    else (functionText rest).map fun read => (token.text ++ read.1, read.2)

/-- `_TIMESPAN_UNITS` -/
def TIMESPAN_UNITS : List (String × String) :=
  [("d", "days"), ("h", "hours"), ("m", "minutes"), ("s", "seconds"), ("ms", "milliseconds")]

/-- `_TIMESPAN_RE`: the number and the unit of a timespan. -/
def timespanParts (text : String) : Option (String × String) :=
  let cs := text.toList
  match number py cs with
  | some (digits, unit) =>
    if cs.head? = some '-' then none
    else (Assoc.get (String.ofList unit) TIMESPAN_UNITS).map (String.ofList digits, ·)
  | none => none

/-- `_timespan`, in microseconds -/
def timespan (text : String) : Except Fault Nat :=
  match timespanParts py (py.lower text) with
  | none => .error (.kql s!"A timespan literal is expected, found '{text}'")
  | some (digits, unit) =>
    match py.float digits with
    | none => .error (.raised .valueError)
    | some x =>
      match py.timedelta unit x with
      | some span => .ok span
      | none => .error (.raised .overflowError)

/-- `datetime.now(UTC) - _timespan(text)`; there is no moment before the year 1. -/
def ago (text : String) : Except Fault Cell := do
  let span ← timespan py text
  let moment := py.now - span
  if moment < 0 then .error (.raised .overflowError) else .ok (.instant moment moment)

/-- `_parse_time_function` -/
def timeFunction (name : String) (tokens : List Token) : Except Fault (Cell × List Token) :=
  match accept py "(" tokens with
  | none => .error (.kql s!"Expected '(' after '{name}'")
  | some rest => do
    let (argument, rest) ← functionText py rest
    let instant ←
      if name = "now" ∧ argument = "" then .ok (.instant py.now py.now)
      else if name = "ago" then ago py argument
      else if name = "datetime" then parseDatetime py argument
      else .error (.kql s!"'{name}()' takes no argument in this mock")
    .ok (instant, rest)

/-- `parse_operand` -/
def parseOperand : List Token → Except Fault (Operand × List Token)
  | [] => .error unexpectedEnd
  | token :: rest =>
    match token.kind with
    | .string => .ok (.literal (.str (unquoted token.text)), rest)
    | .number => (numberOf py token.text).map fun v => (.literal v, rest)
    | .op =>
      if token.text = "(" then
        (listItems py rest).map fun read => (.literal (.list read.1), read.2)
      else .ok (.column token.text, rest)
    | .word =>
      if py.lower token.text ∈ ["ago", "now", "datetime"] then
        (timeFunction py (py.lower token.text) rest).map fun read => (.literal read.1, read.2)
      else .ok (.column token.text, rest)

/-! ## The descent -/

/-- `_MAX_DEPTH` -/
def MAX_DEPTH : Nat := 60

/-- The rest of a chain of operands that a word joins; every turn takes a token at least. -/
def chain (word : String) (join : Pred → Pred → Pred)
    (parse : List Token → Except Fault (Pred × List Token)) :
    Nat → Pred → List Token → Except Fault (Pred × List Token)
  | 0, left, tokens => .ok (left, tokens)
  | turns + 1, left, tokens =>
    match accept py word tokens with
    | none => .ok (left, tokens)
    | some rest => do
      let (right, rest) ← parse rest
      chain word join parse turns (join left right) rest

/-- What follows the left operand of a comparison. -/
def parseRight (left : Operand) : List Token → Except Fault (Pred × List Token)
  | [] => .ok (.truth left, [])
  | token :: rest =>
    let operator := py.lower token.text
    match if token.kind = .op then CompareOp.ofName operator else none with
    | some op => (parseOperand py rest).map fun read => (.compare op left read.1, read.2)
    | none =>
      match StringOp.ofName operator with
      | some (op, negated) =>
        let rest := if operator = "matches" then (accept py "regex" rest).getD rest else rest
        (parseOperand py rest).map fun read => (.string op negated left read.1, read.2)
      | none => .ok (.truth left, token :: rest)

mutual

/-- `_parse_or` -/
def parseOr : Nat → Nat → List Token → Except Fault (Pred × List Token)
  | 0, _, _ => .error .recursion
  | stack + 1, depth, tokens =>
    if MAX_DEPTH < depth + 1 then .error (.kql "Expression is nested too deeply")
    else parseOrInner stack (depth + 1) tokens

/-- `_parse_or_inner` -/
def parseOrInner : Nat → Nat → List Token → Except Fault (Pred × List Token)
  | 0, _, _ => .error .recursion
  | stack + 1, depth, tokens => do
    let (left, rest) ← parseAnd stack depth tokens
    chain py "or" .or (parseAnd stack depth) rest.length left rest

/-- `_parse_and` -/
def parseAnd : Nat → Nat → List Token → Except Fault (Pred × List Token)
  | 0, _, _ => .error .recursion
  | stack + 1, depth, tokens => do
    let (left, rest) ← parseNot stack depth tokens
    chain py "and" .and (parseNot stack depth) rest.length left rest

/-- `_parse_not` -/
def parseNot : Nat → Nat → List Token → Except Fault (Pred × List Token)
  | 0, _, _ => .error .recursion
  | stack + 1, depth, tokens =>
    match accept py "not" tokens with
    | some rest => (parseNot stack depth rest).map fun read => (.not read.1, read.2)
    | none => parseComparison stack depth tokens

/-- `_parse_comparison` -/
def parseComparison : Nat → Nat → List Token → Except Fault (Pred × List Token)
  | 0, _, _ => .error .recursion
  | stack + 1, depth, tokens =>
    match accept py "(" tokens with
    | some rest => do
      let (inner, rest) ← parseOr stack depth rest
      match accept py ")" rest with
      | some rest => .ok (inner, rest)
      | none => .error (.kql "Expected ')'")
    | none => do
      let (left, rest) ← parseOperand py tokens
      parseRight py left rest

end

/-- `parse` -/
def parsePredicate (tokens : List Token) : Except Fault Pred := do
  match ← parseOr py py.stack 0 tokens with
  | (predicate, []) => .ok predicate
  | (_, token :: _) => .error (.kql s!"Unexpected input near '{token.text}'")

end Kql

end Mockdr
