import Mathlib
import Mockdr.Elastic.Fnmatch
import Mockdr.Mde.KqlSyntax
import Mockdr.Splunk.Statistics

/-!
# The expressions of a search

What `utils/splunk/spl_expr.py` makes of the expressions of `search`, `where` and `eval`.

* `tokenize`: the tokens, of a search clause or of the other two.
* `parseOr` and the functions below it: the recursive descent; `parse` is all of it. `parseFuel` is
  more than the calls that nest when an expression is read.
* `evaluate`: the value of an expression in a row.

Quotations are those of the hunting queries (`Kql.quoted`). Where the code raises there is no
expression, or no value. What functions other than the conditionals compute is a parameter
(`SplPython`).
-/

namespace Mockdr

namespace Splunk

namespace Spl

/-! ## Expressions -/

/-- The modes in which an expression is read. -/
inductive Mode where
  | search
  | where
  | eval
  deriving DecidableEq

/-- `=` (also written `==`), `!=` and the comparisons by size. -/
inductive CompareOp where
  | eq
  | ne
  | range (op : RangeOp)
  deriving DecidableEq

/-- The operators of `BinOp`. -/
inductive ArithOp where
  | add
  | sub
  | concat
  | mul
  | div
  | mod
  deriving DecidableEq

/-- The operators of `BoolOp`. -/
inductive Junction where
  | and
  | or
  deriving DecidableEq

/-- `Node` -/
inductive Node where
  | literal (value : Value)
  | fieldRef (name : String)
  | rawTerm (text : String)
  | compare (op : CompareOp) (left right : Node)
  | binOp (op : ArithOp) (left right : Node)
  | boolOp (op : Junction) (children : List Node)
  | notOp (child : Node)
  | funcCall (name : String) (args : List Node)

/-- The types that can be seen before a row is read. -/
inductive StaticType where
  | str
  | num
  | null
  | unknown
  deriving DecidableEq

/-- `_static_type` -/
def staticType : Node → StaticType
  | .literal (.int _) | .literal (.float _) | .literal (.bool _) => .num
  | .literal _ => .str
  | .funcCall name _ => if name = "null" then .null else .unknown
  | .binOp .concat _ _ => .str
  | .binOp .add left right =>
    if staticType left = .str ∨ staticType right = .str then .str else .num
  | .binOp _ _ _ => .num
  | _ => .unknown

/-- Children of one operator; a single one stands for itself. -/
def joined (op : Junction) : List Node → Node
  | [child] => child
  | children => .boolOp op children

end Spl

open Spl in
/-- The built-ins of the expressions. -/
structure SplPython extends StatsPython where
  /-- `str.upper` -/
  upper : String → String
  /-- `\w` -/
  isWord : Char → Bool
  /-- `int(s)` of a text, nothing where it raises -/
  int : String → Option Int
  /-- `x % y`, of a `y` that is not 0 -/
  mod : PyFloat → PyFloat → PyFloat
  /-- a function other than the conditionals, of its arguments; nothing where it raises -/
  function : String → List Value → Option Value
  /-- `min` and `max`, of their arguments and the types of these; nothing where they raise -/
  extreme : String → List (Value × StaticType) → Option Value
  /-- `mvfilter` and `mvmap` in a row, nothing where they raise -/
  mvLambda : String → List Node → Row → Option Value
  /-- `str.lower` of ASCII text -/
  lower_ascii : ∀ s : String, (s.toList.all fun c => c.toNat < 128) = true →
    lower s = String.ofList (s.toList.map Char.toLower)
  /-- `str.lower` leaves blanks -/
  lower_blank : ∀ s : String, ' ' ∈ s.toList → ' ' ∈ (lower s).toList
  /-- letters and digits are not ASCII punctuation or white space -/
  isWord_ascii : ∀ c : Char, c.toNat < 128 → isWord c = (c.isAlphanum || c = '_')
  isWord_space : ∀ c : Char, isSpace c = true → isWord c = false

namespace Spl

variable (py : SplPython)

/-! ## Tokens -/

/-- The kinds of tokens. -/
inductive TokenKind where
  | string
  | fieldname
  | number
  | op
  | word
  deriving DecidableEq

/-- `_Token` -/
structure Token where
  kind : TokenKind
  text : String
  deriving DecidableEq

/-- The operators of one character. -/
def operatorChars : Mode → List Char
  | .search => ['=', '<', '>', ',', '(', ')']
  | .where | .eval => ['=', '<', '>', '+', '-', '*', '/', '%', '.', ',', '(', ')']

/-- The characters that end a word. -/
def wordStops : Mode → List Char
  | .search => ['(', ')', '=', '<', '>', '!', ',']
  | .where | .eval => ['(', ')', '=', '<', '>', '!', ',', '+', '*', '/', '%', '.', '-']

/-- A character of a word. -/
def isWordChar (mode : Mode) (c : Char) : Bool := !isSpace c && c ∉ wordStops mode

/-- The group `op` of a token. -/
def operatorOf (mode : Mode) : List Char → Option (List Char × List Char)
  | '<' :: '=' :: cs => some (['<', '='], cs)
  | '>' :: '=' :: cs => some (['>', '='], cs)
  | '!' :: '=' :: cs => some (['!', '='], cs)
  | '=' :: '=' :: cs => some (['=', '='], cs)
  | c :: cs => if c ∈ operatorChars mode then some ([c], cs) else none
  | [] => none

/-- `-?\d+\.\d+|-?\d+`. In a search clause no number is ever read: what is to follow, by the
    look-ahead in front of it, is neither a digit nor a sign. -/
def number (mode : Mode) (cs : List Char) : Option (List Char × List Char) :=
  let sign := if cs.head? = some '-' then ['-'] else []
  let cs := cs.drop sign.length
  let digits := cs.takeWhile py.isDigit
  let rest := cs.dropWhile py.isDigit
  let decimals := (rest.drop 1).takeWhile py.isDigit
  if mode = .search ∨ digits = [] then none
  else if rest.head? = some '.' ∧ decimals ≠ [] then
    some (sign ++ digits ++ '.' :: decimals, (rest.drop 1).dropWhile py.isDigit)
  else some (sign ++ digits, rest)

/-- A quotation between marks, the marks included. -/
def quotation (mark : Char) : List Char → Option (List Char × List Char)
  | [] => none
  | c :: cs =>
    if c = mark then (Kql.quoted mark cs).map fun read => (mark :: (read.1 ++ [mark]), read.2)
    else none

/-- What one match of `_SEARCH_TOKEN_RE` or of `_EXPR_TOKEN_RE` reads: a token, or white space. -/
def nextToken (mode : Mode) (cs : List Char) : Option (Option Token × List Char) :=
  let token (kind : TokenKind) (read : List Char × List Char) : Option Token × List Char :=
    (some ⟨kind, String.ofList read.1⟩, read.2)
  match cs with
  | [] => none
  | c :: _ =>
    if isSpace c then some (none, cs.dropWhile isSpace)
    else
      let fieldname := if mode = .search then none else quotation '\'' cs
      let word := (cs.takeWhile (isWordChar mode), cs.dropWhile (isWordChar mode))
      (((quotation '"' cs).map (token .string)).or (fieldname.map (token .fieldname))).or
        (((number py mode cs).map (token .number)).or
          (((operatorOf mode cs).map (token .op)).or
            (if isWordChar mode c then some (token .word word) else none)))

/-- `_tokenize` -/
def tokenize (mode : Mode) (source : List Char) : Option (List Token) :=
  (Lexing.lex (nextToken py mode) source).toOption

/-! ## Parsing -/

/-- `_MAX_DEPTH` -/
def MAX_DEPTH : Nat := 60

/-- `_accept` of a text without lower-case letters: what follows the token, if it is
    the next one. -/
def accept (text : String) : List Token → Option (List Token)
  | [] => none
  | token :: rest => if py.upper token.text = text then some rest else none

/-- `_unquote` -/
def unquote (text : String) : String :=
  let inner := String.ofList (text.toList.drop 1).dropLast
  replace "\\\\" "\\" (replace "\\\"" "\"" inner)

/-- The field that a token in single quotes names. -/
def fieldOf (text : String) : String :=
  let inner := String.ofList (text.toList.drop 1).dropLast
  replace "\\\\" "\\" (replace "\\'" "'" inner)

/-- The number that a token stands for. -/
def numberOf (text : String) : Option Value :=
  if hasChar '.' text then (py.float text).map .float else (py.int text).map .int

/-- The comparison that is the next token. -/
def comparisonOf : List Token → Option (CompareOp × List Token)
  | [] => none
  | token :: rest =>
    if token.kind = .op then
      (Assoc.get token.text [("=", .eq), ("==", .eq), ("!=", .ne), ("<", .range .lt),
        ("<=", .range .lte), (">", .range .gt), (">=", .range .gte)]).map (·, rest)
    else none

/-- `+`, `-` or `.`, if it is the next token. -/
def additiveOf : List Token → Option (ArithOp × List Token)
  | [] => none
  | token :: rest =>
    if token.kind = .op then
      (Assoc.get token.text [("+", .add), ("-", .sub), (".", .concat)]).map (·, rest)
    else none

/-- `*`, `/` or `%`, if it is the next token; only in `eval`. -/
def multiplicativeOf (mode : Mode) : List Token → Option (ArithOp × List Token)
  | [] => none
  | token :: rest =>
    if token.kind = .op ∧ mode = .eval then
      (Assoc.get token.text [("*", .mul), ("/", .div), ("%", .mod)]).map (·, rest)
    else none

/-- Where another operand of an `AND` starts: behind the word, or in a search clause at any token
    but `)` and `OR`. -/
def nextOperand (mode : Mode) (ts : List Token) : Option (List Token) :=
  match accept py "AND" ts with
  | some rest => some rest
  | none =>
    match ts with
    | [] => none
    | token :: _ =>
      if mode = .search ∧ py.upper token.text ∉ [")", "OR"] then some ts else none

/-- `_check_binop` raises. -/
def refusesBinop (op : ArithOp) (left right : Node) : Bool :=
  let sides := [staticType left, staticType right]
  match op with
  | .concat => .null ∈ sides
  | .add => .null ∈ sides || .str ∈ sides && .num ∈ sides
  | _ => .str ∈ sides || .null ∈ sides

/-- `_check_compare` raises. -/
def refusesCompare (left right : Node) : Bool :=
  let sides := [staticType left, staticType right]
  .null ∈ sides && (.str ∈ sides || .num ∈ sides)

/-- `_NULL_ARGUMENT_OK` -/
def NULL_ARGUMENT_OK : List String :=
  ["typeof", "tostring", "printf", "null", "true", "false", "now", "time", "pi", "random", "isnum",
    "isstr", "isbool", "isint", "in", "validate", "if", "case", "coalesce", "nullif", "isnull",
    "isnotnull", "min", "max"]

/-- `_check_arguments` raises. -/
def refusesArguments (name : String) (args : List Node) : Bool :=
  name ∉ NULL_ARGUMENT_OK && args.any fun arg => staticType arg = .null

/-- A word of a search clause: the value of a comparison, the field of one, or free text. -/
def searchWord (inValue : Bool) (token : Token) (ts : List Token) : Option (Node × List Token) :=
  if inValue then
    match ts with
    | ⟨_, "("⟩ :: rest =>
      if py.upper token.text = "CASE" then
        match rest with
        | [] => none
        | value :: rest => (accept py ")" rest).map fun rest =>
          (.funcCall "case"
              [.literal (.str (if value.kind = .string then unquote value.text else value.text))],
            rest)
      else some (.literal (.str token.text), ts)
    | _ => some (.literal (.str token.text), ts)
  else if (comparisonOf ts).isSome then some (.fieldRef token.text, ts)
  else some (.rawTerm token.text, ts)

mutual

/-- `_parse_or` -/
def parseOr (mode : Mode) : Nat → Bool → Nat → List Token → Option (Node × List Token)
  | 0, _, _, _ => none
  | n + 1, inValue, depth, ts =>
    if MAX_DEPTH < depth + 1 then none
    else do
      let (first, ts) ← parseAnd mode n inValue (depth + 1) ts
      let (others, ts) ← orRest mode n inValue (depth + 1) ts
      return (joined .or (first :: others), ts)

/-- The loop of `_parse_or`. -/
def orRest (mode : Mode) : Nat → Bool → Nat → List Token → Option (List Node × List Token)
  | 0, _, _, _ => none
  | n + 1, inValue, depth, ts =>
    match accept py "OR" ts with
    | none => some ([], ts)
    | some ts => do
      let (child, ts) ← parseAnd mode n inValue depth ts
      let (others, ts) ← orRest mode n inValue depth ts
      return (child :: others, ts)

/-- `_parse_and` -/
def parseAnd (mode : Mode) : Nat → Bool → Nat → List Token → Option (Node × List Token)
  | 0, _, _, _ => none
  | n + 1, inValue, depth, ts =>
    if MAX_DEPTH < depth + 1 then none
    else do
      let (first, ts) ← parseNot mode n inValue (depth + 1) ts
      let (others, ts) ← andRest mode n inValue (depth + 1) ts
      return (joined .and (first :: others), ts)

/-- The loop of `_parse_and`. -/
def andRest (mode : Mode) : Nat → Bool → Nat → List Token → Option (List Node × List Token)
  | 0, _, _, _ => none
  | n + 1, inValue, depth, ts =>
    match nextOperand py mode ts with
    | none => some ([], ts)
    | some ts => do
      let (child, ts) ← parseNot mode n inValue depth ts
      let (others, ts) ← andRest mode n inValue depth ts
      return (child :: others, ts)

/-- `_parse_not` -/
def parseNot (mode : Mode) : Nat → Bool → Nat → List Token → Option (Node × List Token)
  | 0, _, _, _ => none
  | n + 1, inValue, depth, ts =>
    match accept py "NOT" ts with
    | some ts => (parseNot mode n inValue depth ts).map fun read => (.notOp read.1, read.2)
    | none => parseComparison mode n inValue depth ts

/-- `_parse_comparison` -/
def parseComparison (mode : Mode) : Nat → Bool → Nat → List Token → Option (Node × List Token)
  | 0, _, _, _ => none
  | n + 1, inValue, depth, ts => do
    let (left, ts) ← parseAdditive mode n inValue depth ts
    match comparisonOf ts with
    | none => return (left, ts)
    | some (op, ts) => do
      let (right, ts) ← parseAdditive mode n true depth ts
      if mode ≠ .search ∧ refusesCompare left right then none
      else return (.compare op left right, ts)

/-- `_parse_additive` -/
def parseAdditive (mode : Mode) : Nat → Bool → Nat → List Token → Option (Node × List Token)
  | 0, _, _, _ => none
  | n + 1, inValue, depth, ts => do
    let (node, ts) ← parseMultiplicative mode n inValue depth ts
    additiveRest mode n inValue depth node ts

/-- The loop of `_parse_additive`. -/
def additiveRest (mode : Mode) :
    Nat → Bool → Nat → Node → List Token → Option (Node × List Token)
  | 0, _, _, _, _ => none
  | n + 1, inValue, depth, node, ts =>
    match additiveOf ts with
    | none => some (node, ts)
    | some (op, ts) => do
      let (right, ts) ← parseMultiplicative mode n inValue depth ts
      if mode ≠ .search ∧ refusesBinop op node right then none
      else additiveRest mode n inValue depth (.binOp op node right) ts

/-- `_parse_multiplicative` -/
def parseMultiplicative (mode : Mode) : Nat → Bool → Nat → List Token → Option (Node × List Token)
  | 0, _, _, _ => none
  | n + 1, inValue, depth, ts => do
    let (node, ts) ← parseAtom mode n inValue depth ts
    multiplicativeRest mode n inValue depth node ts

/-- The loop of `_parse_multiplicative`. -/
def multiplicativeRest (mode : Mode) :
    Nat → Bool → Nat → Node → List Token → Option (Node × List Token)
  | 0, _, _, _, _ => none
  | n + 1, inValue, depth, node, ts =>
    match multiplicativeOf mode ts with
    | none => some (node, ts)
    | some (op, ts) => do
      let (right, ts) ← parseAtom mode n inValue depth ts
      if refusesBinop op node right then none
      else multiplicativeRest mode n inValue depth (.binOp op node right) ts

/-- `_parse_atom` -/
def parseAtom (mode : Mode) : Nat → Bool → Nat → List Token → Option (Node × List Token)
  | 0, _, _, _ => none
  | _ + 1, _, _, [] => none
  | n + 1, inValue, depth, token :: ts =>
    if MAX_DEPTH < depth + 1 then none
    else if token.text = "(" then do
      let (node, ts) ← parseOr mode n inValue (depth + 1) ts
      let ts ← accept py ")" ts
      return (node, ts)
    else
      match token.kind with
      | .string => some (.literal (.str (unquote token.text)), ts)
      | .fieldname => some (.fieldRef (fieldOf token.text), ts)
      | .number => (numberOf py token.text).map fun v => (.literal v, ts)
      | .op =>
        if token.text = "-" then
          (parseAtom mode n inValue (depth + 1) ts).map fun read =>
            (.binOp .sub (.literal (.int 0)) read.1, read.2)
        else none
      | .word =>
        if mode = .search then searchWord py inValue token ts
        else
          match ts with
          | ⟨_, "("⟩ :: rest => do
            let (args, ts) ← parseArguments mode n inValue (depth + 1) rest
            if refusesArguments (py.lower token.text) args then none
            else return (.funcCall (py.lower token.text) args, ts)
          | _ => some (.fieldRef token.text, ts)

/-- The arguments of a function, behind its opening parenthesis. -/
def parseArguments (mode : Mode) : Nat → Bool → Nat → List Token → Option (List Node × List Token)
  | 0, _, _, _ => none
  | n + 1, inValue, depth, ts =>
    match accept py ")" ts with
    | some ts => some ([], ts)
    | none => do
      let (first, ts) ← parseOr mode n inValue depth ts
      let (others, ts) ← argumentsRest mode n inValue depth ts
      let ts ← accept py ")" ts
      return (first :: others, ts)

/-- The arguments behind the first one, each behind a comma. -/
def argumentsRest (mode : Mode) : Nat → Bool → Nat → List Token → Option (List Node × List Token)
  | 0, _, _, _ => none
  | n + 1, inValue, depth, ts =>
    match accept py "," ts with
    | none => some ([], ts)
    | some ts => do
      let (child, ts) ← parseOr mode n inValue depth ts
      let (others, ts) ← argumentsRest mode n inValue depth ts
      return (child :: others, ts)

end

/-- More calls than nest when some tokens are read. -/
def parseFuel (ts : List Token) : Nat := 8 * ts.length + 8

/-- `_Parser(tokens).parse()` -/
def parseTokens (mode : Mode) (ts : List Token) : Option Node :=
  match parseOr py mode (parseFuel ts) false 0 ts with
  | some (node, []) => some node
  | _ => none

/-- `_parse`: nothing where it raises, and nothing in it where there is no token. -/
def parse (mode : Mode) (source : List Char) : Option (Option Node) := do
  let tokens ← tokenize py mode (Kql.stripChars source)
  if tokens = [] then return none else (parseTokens py mode tokens).map some

/-! ## Evaluation -/

/-- `_numeric`, nothing where it raises. -/
def numeric : Value → Option (Option PyFloat)
  | .bool _ => some none
  | .int n => (py.floatInt n).map some
  | .float x => some (some x)
  | v => some (py.float (py.toStr v))

/-- `_matches` of a field that is not missing, nothing where it raises. -/
def matchesText (left right : Value) (search sensitive : Bool) : Option Bool :=
  let value := py.toStr left
  let pattern := py.toStr right
  if search ∧ hasChar '*' pattern then
    some (if sensitive then fnmatch value pattern else fnmatch (py.lower value) (py.lower pattern))
  else do
    match ← numeric py left, ← numeric py right with
    | some x, some y => return x.eq y
    | _, _ =>
      return if search && !sensitive then py.lower value = py.lower pattern else value = pattern

/-- `_matches`, nothing where it raises. -/
def valueMatches (left right : Value) (search sensitive : Bool) : Option Bool :=
  match left, right with
  | .null, .null => some true
  | .null, _ => some false
  | _, _ => matchesText py left right search sensitive

/-- `_compare`, nothing where it raises. -/
def compareValues (op : CompareOp) (left right : Value) (search sensitive : Bool) : Option Bool :=
  match op with
  | .eq => valueMatches py left right search sensitive
  | .ne => (valueMatches py left right search sensitive).map not
  | .range op =>
    match left, right with
    | .null, _ | _, .null | .str "", _ => some false
    | _, _ => do
      match ← numeric py left, ← numeric py right with
      | some x, some y => return op.holds x y
      | none, none => return op.between (py.toStr left) (py.toStr right)
      | _, _ => return false

/-- `_truthy` -/
def truthy : Value → Bool
  | .bool b => b
  | .null => false
  | .int n => n ≠ 0
  | .float x => x ≠ .finite 0
  | v => py.toStr v ∉ ["", "0", "false", "False"]

/-- A bare word in the text of a row. -/
def rawMatches (text : String) (row : Row) : Bool :=
  let needle := py.lower text
  let haystack := py.lower (" ".intercalate (row.entries.map fun p => py.toStr p.2))
  if hasChar '*' needle then fnmatch haystack ("*" ++ needle ++ "*") else hasSub needle haystack

/-- `_shrink` -/
def shrink (x : PyFloat) : Value :=
  match x with
  | .finite q => if q.den = 1 then .int q.num else .float x
  | _ => .float x

/-- `_render` -/
def render : Value → String
  | .null => ""
  | .float (.finite q) => if q.den = 1 then py.toStr (.int q.num) else py.toStr (.float (.finite q))
  | v => py.toStr v

/-- Arithmetic on two numbers. -/
def arithmetic (op : ArithOp) (x y : PyFloat) : Value :=
  match op with
  | .add | .concat => shrink (py.add x y)
  | .sub => shrink (py.sub x y)
  | .mul => shrink (py.mul x y)
  | .mod => if y = .finite 0 then .null else shrink (py.mod x y)
  | .div => if y = .finite 0 then .null else shrink (py.div x y)

/-- `_binop`, of the values of its sides and whether a string can be seen on one of them; nothing
    where it raises. -/
def binop (op : ArithOp) (concatenates : Bool) (left right : Value) : Option Value :=
  match left, right with
  | .null, _ | _, .null => some .null
  | _, _ =>
    if op = .concat ∨ op = .add ∧ concatenates then some (.str (render py left ++ render py right))
    else do
      match ← numeric py left, ← numeric py right with
      | some x, some y => return arithmetic py op x y
      | _, _ => return .null

/-- The pairs of `case`, the first whose condition holds. -/
def caseOf : List Value → Value
  | condition :: value :: rest => if truthy py condition then value else caseOf rest
  | _ => .null

/-- A value that is `None` or the empty string. -/
def isNull : Value → Bool
  | .null | .str "" => true
  | _ => false

/-- `_func`, nothing where it raises. `nullif`, which compares any two values, is among the
    functions that are left open. -/
def func (name : String) (args : List Value) : Option Value :=
  if name = "if" then
    match args with
    | condition :: value :: other =>
      if truthy py condition then some value else other.head?
    | _ => none
  else if name = "case" then some (caseOf py args)
  else if name = "coalesce" then some ((args.find? fun v => !isNull v).getD .null)
  else if name = "isnull" then args.head?.map fun v => .bool (isNull v)
  else if name = "isnotnull" then args.head?.map fun v => .bool !(isNull v)
  else py.function name args

mutual

/-- `evaluate`, nothing where it raises. -/
def evaluate (row : Row) : Mode → Node → Option Value
  | _, .literal v => some v
  | _, .fieldRef name => some ((row.get name).getD .null)
  | _, .rawTerm text => some (.bool (rawMatches py text row))
  | mode, .notOp child => (evaluate row mode child).map fun v => .bool !(truthy py v)
  | mode, .boolOp op children =>
    let holds (result : Option Value) := result.map (truthy py)
    match op with
    | .and => ((evaluateEach row mode children).allM holds).map .bool
    | .or => ((evaluateEach row mode children).anyM holds).map .bool
  | mode, .compare op left right => do
    let value := evaluate row .eval right
    -- `field=CASE(Value)`
    let directive : Option (Option Value) :=
      match right with
      | .funcCall name args =>
        if mode = .search ∧ py.lower name = "case" ∧ args.length = 1 then
          some ((evaluateEach row .eval args).headD none)
        else none
      | _ => none
    let l ← evaluate row .eval left
    let r ← directive.getD value
    (compareValues py op l r (mode = .search) directive.isSome).map .bool
  | _, .binOp op left right => do
    let concatenates := staticType left = .str ∨ staticType right = .str
    binop py op concatenates (← evaluate row .eval left) (← evaluate row .eval right)
  | _, .funcCall name args =>
    if name ∈ ["mvfilter", "mvmap"] then py.mvLambda name args row
    else do
      let values ← (evaluateEach row .eval args).mapM id
      if name ∈ ["min", "max"] then py.extreme name (values.zip (args.map staticType))
      else func py name values

/-- Each of some expressions. -/
def evaluateEach (row : Row) : Mode → List Node → List (Option Value)
  | _, [] => []
  | mode, node :: nodes => evaluate row mode node :: evaluateEach row mode nodes

end

/-- The value of `CASE(Value)` on the right side of a comparison in a search clause. -/
def directive (row : Row) (mode : Mode) (right : Node) : Option (Option Value) :=
  match right with
  | .funcCall name args =>
    if mode = .search ∧ py.lower name = "case" ∧ args.length = 1 then
      some ((evaluateEach py row .eval args).headD none)
    else none
  | _ => none

lemma evaluate_compare (row : Row) (mode : Mode) (op : CompareOp) (left right : Node) :
    evaluate py row mode (.compare op left right)
      = (evaluate py row .eval left).bind fun l =>
        ((directive py row mode right).getD (evaluate py row .eval right)).bind fun r =>
          (compareValues py op l r (mode = .search)
              (directive py row mode right).isSome).map .bool := by
  cases right <;> rfl

lemma evaluate_boolOp (row : Row) (mode : Mode) (op : Junction) (children : List Node) :
    evaluate py row mode (.boolOp op children)
      = (match op with
        | .and => (evaluateEach py row mode children).allM (Option.map (truthy py))
        | .or => (evaluateEach py row mode children).anyM (Option.map (truthy py))).map
          .bool := by
  cases op <;> rfl

/-- Whether a row passes an expression, by Python's truth of its value, and every row if there is
    none; nothing where it raises. -/
def passes (mode : Mode) (node : Option Node) (row : Row) : Option Bool :=
  match node with
  | none => some true
  | some node => (evaluate py row mode node).map Value.truthy

end Spl

/-- Arithmetic on finite numbers. -/
def onFinite (f : ℚ → ℚ → ℚ) : PyFloat → PyFloat → PyFloat
  | .finite p, .finite q => .finite (f p q)
  | _, _ => .nan

/-- The built-ins on ASCII text and on numbers without a fraction: what the concrete runs of
    searches compute with. -/
def asciiSplPython : SplPython where
  lower := asciiPython.lower
  str
    | .null => "None"
    | .bool b => if b then "True" else "False"
    | .int n => toString n
    | _ => ""
  strFloat
    | .finite q => toString q.num ++ ".0"
    | _ => "inf"
  float s := (asciiPython.parseInt (partition '.' s).1).map fun n => .finite n
  floatInt n := some (.finite n)
  dumps _ := ""
  rawDecode _ := none
  isDigit := Char.isDigit
  sum xs := xs.foldl (onFinite (· + ·)) (.finite 0)
  add := onFinite (· + ·)
  sub := onFinite (· - ·)
  mul := onFinite (· * ·)
  div := onFinite (· / ·)
  squared x := some (onFinite (· * ·) x x)
  sqrt x := x
  modOne x := onFinite (fun p q => p - q.floor) x x
  round6 x := x
  truncate x := if let .finite q := x then some q.floor else none
  upper s := String.ofList (s.toList.map Char.toUpper)
  isWord c := c.isAlphanum || c = '_'
  int := asciiPython.parseInt
  mod x _ := x
  function _ _ := none
  extreme _ _ := none
  mvLambda _ _ _ := none
  lower_ascii := Kql.asciiKqlPython.lower_ascii
  lower_blank s h := by
    rw [asciiPython, String.toList_ofList]
    exact List.mem_map.2 ⟨' ', h, rfl⟩
  isWord_ascii _ _ := rfl
  isWord_space c hc := by
    have halnum : c.isAlphanum = false := Kql.asciiKqlPython.isAlnum_space c hc
    rw [halnum, Bool.false_or, decide_eq_false]
    rintro rfl
    exact absurd hc (by decide)

end Splunk

end Mockdr
