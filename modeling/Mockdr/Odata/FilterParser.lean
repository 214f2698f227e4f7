import Mockdr.Lib.Lexing
import Mockdr.Odata.Clause

/-!
# The parser of an OData filter

`$filter` of `utils/mde_odata.py`: how a text is cut into tokens, how the tokens are made a tree,
and which records satisfy the tree.

* `lexeme`: one match of `_TOKEN_RE`; `tokenise`: the tokens of a text.
* `parseAtom`, `parseBinary` and `parseOr`: the recursive descent, `parse` with what may stand
  behind it.
* `parseOdataFilter`, `matchNode` and `applyOdataFilter`.

`_parse_or` is given the levels of parentheses that are left. With none left a parenthesis raises.
-/

namespace Mockdr

namespace Odata

namespace Filter

/-- The built-ins of the parser. -/
structure FilterPython extends QueryPython where
  /-- `str.isalnum`, of a character -/
  isAlnum : Char → Bool
  /-- `repr(s)` -/
  repr : String → String

/-- The built-ins on ASCII text that the concrete runs of this development compute with. -/
def asciiFilterPython : FilterPython where
  toQueryPython := asciiQueryPython
  isAlnum := Char.isAlphanum
  repr s := "'" ++ s ++ "'"

/-! ## Nodes -/

/-- `and` and `or` -/
inductive Junction where
  | and
  | or
  deriving DecidableEq

def Junction.name : Junction → String
  | .and => "and"
  | .or => "or"

/-- The names of the operators and the functions. -/
def clauseOps : List (String × ClauseOp) :=
  [("eq", .eq), ("ne", .ne), ("gt", .range .gt), ("ge", .range .gte), ("lt", .range .lt),
    ("le", .range .lte), ("contains", .contains), ("startswith", .startswith),
    ("endswith", .endswith)]

/-- `ODataClause` as the parser builds it. A letter of another script can spell an operator that no
    comparison has (`ın`): there is none then. -/
structure Comparison where
  field : String
  operator : Option ClauseOp
  value : String
  literal : LiteralKind
  deriving DecidableEq

/-- `ODataNode`: a clause or an `ODataGroup` -/
inductive ODataNode where
  | clause (c : Comparison)
  | group (operator : Junction) (children : List ODataNode)

/-! ## Tokens -/

/-- The kinds of tokens. -/
inductive TokenKind where
  | FUNC
  | PAREN
  | STRING
  | OP
  | CONJ
  | BOOL
  | NULL
  | GUID
  | DATETIME
  | WORD
  | NUMBER
  | COMMA
  deriving DecidableEq

/-- How a kind is named in a message. -/
def TokenKind.name : TokenKind → String
  | .FUNC => "FUNC"
  | .PAREN => "PAREN"
  | .STRING => "STRING"
  | .OP => "OP"
  | .CONJ => "CONJ"
  | .BOOL => "BOOL"
  | .NULL => "NULL"
  | .GUID => "GUID"
  | .DATETIME => "DATETIME"
  | .WORD => "WORD"
  | .NUMBER => "NUMBER"
  | .COMMA => "COMMA"

structure Token where
  kind : TokenKind
  text : String
  deriving DecidableEq

/-! ### Letters without regard to case -/

/-- A letter of a pattern matches a character under `re.IGNORECASE`. -/
def sameLetter (p c : Char) : Bool :=
  c = p || c = p.toUpper || (p = 'i' && (c = 'İ' || c = 'ı')) || (p = 's' && c = 'ſ')
    || (p = 'k' && c = '\u212a')

/-- `c.lower()`, of a character that a letter of a pattern matches -/
def lowerLetter (c : Char) : List Char :=
  if c = 'İ' then ['i', '\u0307'] else if c = '\u212a' then ['k'] else [c.toLower]

/-- `[A-Za-z_]` -/
def isWordStart (c : Char) : Bool :=
  c = '_' || ('a' ≤ c && c ≤ 'z') || ('A' ≤ c && c ≤ 'Z') || c ∈ ['İ', 'ı', 'ſ', '\u212a']

/-- `[A-Za-z0-9_./]` -/
def isWordRest (c : Char) : Bool := isWordStart c || ('0' ≤ c && c ≤ '9') || c = '.' || c = '/'

/-- `[0-9a-f]` -/
def isHex (c : Char) : Bool :=
  ('0' ≤ c && c ≤ '9') || ('a' ≤ c && c ≤ 'f') || ('A' ≤ c && c ≤ 'F')

/-! ### The alternatives -/

section

variable (py : FilterPython)

/-- `\d` -/
def isDigit (c : Char) : Bool := (py.digit c).isSome

/-- `\w` -/
def isWordChar (c : Char) : Bool := py.isAlnum c || c = '_'

/-- `\b` behind a letter or a digit -/
def boundary (cs : List Char) : Bool := cs.head?.all fun c => !isWordChar py c

/-- One of some words, in lower case: `(eq|ne|…)\b`. -/
def keyword (words : List String) : Lexing.Matcher Char := fun cs =>
  words.findSome? fun word =>
    match Lexing.fits (word.toList.map sameLetter) cs with
    | some (v, rest) => if boundary py rest then some (v.flatMap lowerLetter, rest) else none
    | none => none

/-- `(contains|startswith|endswith)\s*\(` -/
def function : Lexing.Matcher Char := fun cs =>
  ["contains", "startswith", "endswith"].findSome? fun word =>
    match Lexing.fits (word.toList.map sameLetter) cs with
    | some (v, rest) =>
      match rest.dropWhile isSpace with
      | '(' :: rest => some (v.flatMap lowerLetter, rest)
      | _ => none
    | none => none

/-- What is between the quotes of `'(?:[^']|'')*'`, read behind the first one. If there is no quote
    that stands alone, the last of a pair is given back. -/
def closing : List Char → Option (List Char × List Char)
  | [] => none
  | '\'' :: '\'' :: cs =>
    match closing cs with
    | some (v, rest) => some ('\'' :: '\'' :: v, rest)
    | none => some ([], '\'' :: cs)
  | '\'' :: cs => some ([], cs)
  | c :: cs => (closing cs).map fun (v, rest) => (c :: v, rest)

/-- `'(?:[^']|'')*'`, without the quotes and with pairs of them made one -/
def quoted : Lexing.Matcher Char
  | '\'' :: cs =>
    (closing cs).map fun (v, rest) => ((replace "''" "'" (String.ofList v)).toList, rest)
  | _ => none

/-- `[0-9a-f]{8}-[0-9a-f]{4}-[0-9a-f]{4}-[0-9a-f]{4}-[0-9a-f]{12}\b` -/
def guid : Lexing.Matcher Char := fun cs =>
  let hex (n : Nat) : List (Char → Bool) := List.replicate n isHex
  let dash : List (Char → Bool) := [fun c => c = '-']
  match Lexing.fits (hex 8 ++ dash ++ hex 4 ++ dash ++ hex 4 ++ dash ++ hex 4 ++ dash ++ hex 12)
    cs with
  | some (v, rest) => if boundary py rest then some (v, rest) else none
  | none => none

/-- `\d{4}-\d{2}-\d{2}(?:[T ]\d{2}:\d{2}:\d{2}(?:\.\d+)?(?:Z|[+-]\d{2}:\d{2})?)?` -/
def datetime : Lexing.Matcher Char :=
  let d := isDigit py
  let is (p : Char) (c : Char) : Bool := c = p
  let date := Lexing.fits [d, d, d, d, is '-', d, d, is '-', d, d]
  let time := Lexing.fits [fun c => c ∈ ['T', 't', ' '], d, d, is ':', d, d, is ':', d, d]
  let fraction := Lexing.seq (Lexing.fits [is '.']) (Lexing.many1 d)
  let zone := Lexing.orElse (Lexing.fits [fun c => c ∈ ['Z', 'z']])
    (Lexing.fits [fun c => c ∈ ['+', '-'], d, d, is ':', d, d])
  Lexing.seq date (Lexing.opt (Lexing.seq time (Lexing.seq (Lexing.opt fraction)
    (Lexing.opt zone))))

/-- `[A-Za-z_][A-Za-z0-9_./]*` -/
def word : Lexing.Matcher Char := Lexing.seq (Lexing.fits [isWordStart]) (Lexing.many isWordRest)

/-- `-?\d+(?:\.\d+)?` -/
def number : Lexing.Matcher Char :=
  let is (p : Char) (c : Char) : Bool := c = p
  Lexing.seq (Lexing.opt (Lexing.fits [is '-'])) (Lexing.seq (Lexing.many1 (isDigit py))
    (Lexing.opt (Lexing.seq (Lexing.fits [is '.']) (Lexing.many1 (isDigit py)))))

/-- The alternatives of `_TOKEN_RE` with the kinds of their tokens; white space has none. -/
def alternatives : List (Option TokenKind × Lexing.Matcher Char) :=
  [(some .FUNC, function),
    (some .PAREN, Lexing.fits [fun c => c ∈ ['(', ')']]),
    (some .STRING, quoted),
    (some .OP, keyword py ["eq", "ne", "ge", "gt", "le", "lt", "in"]),
    (some .CONJ, keyword py ["and", "or"]),
    (some .BOOL, keyword py ["true", "false"]),
    (some .NULL, keyword py ["null"]),
    (some .GUID, guid py),
    (some .DATETIME, datetime py),
    (some .WORD, word),
    (some .NUMBER, number py),
    (some .COMMA, Lexing.fits [fun c => c = ',']),
    (none, Lexing.many1 isSpace)]

/-- What `_tokenise` makes of what a group has matched; for `null` that is always `null`, which is
    all that its pattern matches. -/
def tokenOf (kind : Option TokenKind) (v : List Char) : Option Token :=
  kind.map fun kind => ⟨kind, String.ofList v⟩

/-- One match of `_TOKEN_RE` at the front of a text: the token, and what is behind it. -/
def lexeme (cs : List Char) : Option (Option Token × List Char) :=
  (alternatives py).findSome? fun (kind, m) =>
    (m cs).map fun (v, rest) => (tokenOf kind v, rest)

/-- What `finditer` passes over before the next match. -/
def unlexed : List Char → List Char
  | [] => []
  | c :: cs => if (lexeme py (c :: cs)).isSome then [] else c :: unlexed cs

/-- `_tokenise` -/
def tokenise (text : String) : Except String (List Token) :=
  (Lexing.lex (lexeme py) text.toList).mapError fun rest =>
    s!"unexpected character(s) in filter: {py.repr (String.ofList (unlexed py rest))}"

/-! ## Parsing -/

/-- `_VALUE_TOKENS` -/
def literalOf : TokenKind → Option LiteralKind
  | .STRING | .WORD | .NUMBER | .DATETIME | .GUID => some .string
  | .BOOL => some .bool
  | .NULL => some .null
  | .FUNC | .PAREN | .OP | .CONJ | .COMMA => none

/-- What a function of the parser returns: the node that it has read, if it has read one, and the
    tokens that are left. -/
abbrev Parsed := Except String (Option ODataNode × List Token)

/-- `_advance` -/
def advance : List Token → Except String (Token × List Token)
  | [] => .error "unexpected end of filter expression"
  | tok :: ts => .ok (tok, ts)

/-- `_expect` -/
def expect (kind : TokenKind) (ts : List Token) : Except String (String × List Token) := do
  let (tok, ts) ← advance ts
  if tok.kind ≠ kind then .error s!"expected {kind.name}, got {py.repr tok.text}"
  else .ok (tok.text, ts)

/-- `_expect_exact` -/
def expectExact (wanted : Token) (ts : List Token) : Except String (List Token) := do
  let (tok, ts) ← advance ts
  if tok ≠ wanted then .error s!"expected {py.repr wanted.text}, got {py.repr tok.text}"
  else .ok ts

/-- The operand that a token is, as `_expect_value` takes it. -/
def operandOf (tok : Option Token) : Except String (String × LiteralKind) :=
  match tok with
  | none =>
    let text := py.repr "end of expression"
    .error s!"expected a value, got {text}"
  | some tok =>
    match literalOf tok.kind with
    | none => .error s!"expected a value, got {py.repr tok.text}"
    | some literal => .ok (tok.text, literal)

/-- `_expect_value` -/
def expectValue (ts : List Token) : Except String ((String × LiteralKind) × List Token) :=
  (operandOf py ts.head?).map fun operand => (operand, ts.tail)

def openParen : Token := ⟨.PAREN, "("⟩

def closeParen : Token := ⟨.PAREN, ")"⟩

/-- The node of an operator, a field and an operand. -/
def comparisonOf (field operator : String) (operand : String × LiteralKind) : ODataNode :=
  .clause ⟨field, (clauseOps.find? fun op => op.1 = operator).map (·.2), operand.1, operand.2⟩

/-- The members of an `in` list, behind its parenthesis: the loop of `_parse_in`. -/
def parseMembers (field : String) : List Token → Except String (List ODataNode × List Token)
  | [] => (operandOf py none).map fun _ => ([], [])
  | tok :: ts => do
    let node := comparisonOf field "eq" (← operandOf py (some tok))
    match ts with
    | [] => .error "unexpected end of filter expression"
    | separator :: ts =>
      if separator = closeParen then .ok ([node], ts)
      else if separator.kind ≠ .COMMA then
        .error s!"expected ',' or ')' in the 'in' list, got {py.repr separator.text}"
      else (parseMembers field ts).map fun (nodes, ts) => (node :: nodes, ts)

/-- The node of some nodes that are joined: of one it is that one. -/
def joined (operator : Junction) : List ODataNode → ODataNode
  | [node] => node
  | nodes => .group operator nodes

/-- `_parse_in` -/
def parseIn (allowIn : Bool) (field : String) (ts : List Token) : Parsed :=
  if !allowIn then .error "the 'in' operator is not supported here"
  else do
    let ts ← expectExact py openParen ts
    let (nodes, ts) ← parseMembers py field ts
    .ok (some (joined .or nodes), ts)

/-- The loop of `_parse_binary`. Each operand stands behind a conjunction, so that there are at most
    as many as there are tokens. -/
def parseOperands (conjunction : Junction) (operand : List Token → Parsed) :
    ℕ → List Token → Except String (List ODataNode × List Token)
  | 0, ts => .ok ([], ts)
  | _ + 1, [] => .ok ([], [])
  | n + 1, tok :: ts =>
    if tok = ⟨.CONJ, conjunction.name⟩ then do
      match ← operand ts with
      | (none, _) => .error s!"{py.repr conjunction.name} has no right-hand operand"
      | (some node, ts) =>
        (parseOperands conjunction operand n ts).map fun (nodes, ts) => (node :: nodes, ts)
    else .ok ([], tok :: ts)

/-- `_parse_binary` -/
def parseBinary (conjunction : Junction) (operand : List Token → Parsed) (ts : List Token) :
    Parsed := do
  let (first, ts) ← operand ts
  let (others, ts) ← parseOperands py conjunction operand ts.length ts
  match first.toList ++ others with
  | [] => .ok (none, ts)
  | nodes => .ok (some (joined conjunction nodes), ts)

/-- `MAX_DEPTH` -/
def MAX_DEPTH : ℕ := 50

/-- `_parse_atom`; there is no `parseOr` where `MAX_DEPTH` parentheses are open. -/
def parseAtom (allowIn : Bool) (parseOr : Option (List Token → Parsed)) : List Token → Parsed
  | [] => .ok (none, [])
  | tok :: ts =>
    if tok = openParen then
      match parseOr with
      | none => .error s!"filter nested deeper than {MAX_DEPTH} levels"
      | some parseOr => do
        match ← parseOr ts with
        | (none, _) => .error "empty parentheses in filter"
        | (some inner, ts) => .ok (some inner, ← expectExact py closeParen ts)
    else if tok.kind = .FUNC then do
      let (field, ts) ← expect py .WORD ts
      let (_, ts) ← expect py .COMMA ts
      let (operand, ts) ← expectValue py ts
      let ts ← expectExact py closeParen ts
      .ok (some (comparisonOf field tok.text operand), ts)
    else if tok.kind = .WORD then do
      let (op, ts) ← expect py .OP ts
      if op = "in" then parseIn py allowIn tok.text ts
      else do
        let (operand, ts) ← expectValue py ts
        .ok (some (comparisonOf tok.text op operand), ts)
    else .error s!"unexpected token: {py.repr tok.text}"

/-- `_parse_or` over `_parse_and`, with the levels of parentheses that may still be opened. -/
def parseOr (allowIn : Bool) : ℕ → List Token → Parsed
  | 0 => parseBinary py .or (parseBinary py .and (parseAtom py allowIn none))
  | n + 1 =>
    parseBinary py .or (parseBinary py .and (parseAtom py allowIn (some (parseOr allowIn n))))

/-- `parse` -/
def parse (allowIn : Bool) (ts : List Token) : Except String (Option ODataNode) := do
  let (node, rest) ← parseOr py allowIn MAX_DEPTH ts
  if rest ≠ [] then
    let trailing := " ".intercalate (rest.map (·.text))
    .error s!"unparsed trailing input: {py.repr trailing}"
  else .ok node

/-- `parse_odata_filter` -/
def parseOdataFilter (filterStr : String) (allowIn : Bool) : Except String (Option ODataNode) :=
  if strip filterStr = "" then .ok none
  else do parse py allowIn (← tokenise py filterStr)

/-! ## Filtering -/

/-- `_match_clause`, of a clause of the parser -/
def matchComparison (record : Json) (c : Comparison) : Bool :=
  match c.operator with
  | some op => matchClause py.toQueryPython record ⟨c.field, op, c.value, c.literal⟩
  | none => false

mutual

/-- `_match_node` -/
def matchNode (record : Json) : ODataNode → Bool
  | .clause c => matchComparison py record c
  | .group .or children => matchAny record children
  | .group .and children => matchAll record children

def matchAny (record : Json) : List ODataNode → Bool
  | [] => false
  | node :: nodes => matchNode record node || matchAny record nodes

def matchAll (record : Json) : List ODataNode → Bool
  | [] => true
  | node :: nodes => matchNode record node && matchAll record nodes

end

/-- `apply_odata_filter` -/
def applyOdataFilter (records : List Json) (filterStr : String) (allowIn : Bool) :
    Except String (List Json) := do
  match ← parseOdataFilter py filterStr allowIn with
  | none => .ok records
  | some root => .ok (records.filter fun record => matchNode py record root)

end

end Filter

end Odata

end Mockdr
