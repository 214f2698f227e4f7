import Mockdr.Lib.Delimited
import Mockdr.Lib.Lexing
import Mockdr.Mde.KqlValue

/-!
# The text of a hunting query

How `utils/mde_kql.py` takes a query apart before it runs it.

* `stripComments`, `splitPipeline` and `parseKql`: the table and the stages of a query.
* `splitCommas`: an argument list.
* `tokenize`: the tokens of an expression.

The three have each their own notion of a quotation: the first none, the second and the third a pair
of quotes, and only the tokens know of a backslash.
-/

namespace Mockdr

namespace Kql

variable (py : KqlPython)

/-! ## Stages -/

/-- `_OPERATORS`; `sort` is read as `order`. -/
inductive Operator where
  | where
  | project
  | projectAway
  | extend
  | summarize
  | order
  | take
  | limit
  | distinct
  | count
  | top
  deriving DecidableEq

namespace Operator

/-- The name of an operator. -/
def name : Operator → String
  | .where => "where"
  | .project => "project"
  | .projectAway => "project-away"
  | .extend => "extend"
  | .summarize => "summarize"
  | .order => "order"
  | .take => "take"
  | .limit => "limit"
  | .distinct => "distinct"
  | .count => "count"
  | .top => "top"

/-- Every operator. -/
def all : List Operator :=
  [.where, .project, .projectAway, .extend, .summarize, .order, .take, .limit, .distinct, .count,
    .top]

/-- The operator of a name. -/
def ofName (name : String) : Option Operator := all.find? fun op => op.name = name

end Operator

/-- `KqlQuery` -/
structure KqlQuery where
  table : String
  operators : List (Operator × String)
  deriving DecidableEq

/-- What is open at a place of a text: a quotation, by its mark, and how many brackets. -/
structure Nesting where
  quote : Option Char
  depth : Nat
  deriving DecidableEq

/-- Nothing is open. -/
def Nesting.closed : Nesting := ⟨none, 0⟩

/-- What is open after a character. -/
def scan (opening closing : List Char) (s : Nesting) (c : Char) : Nesting :=
  match s.quote with
  | some q => if c = q then ⟨none, s.depth⟩ else s
  | none =>
    if c = '"' ∨ c = '\'' then ⟨some c, s.depth⟩
    else if c ∈ opening then ⟨none, s.depth + 1⟩
    else if c ∈ closing then ⟨none, s.depth - 1⟩
    else s

/-- `s.strip()` -/
def stripChars (text : List Char) : List Char :=
  ((text.dropWhile isSpace).reverse.dropWhile isSpace).reverse

/-- `re.sub(r"//[^\n]*", " ", text)`; inside of a comment nothing is copied. -/
def stripComments : Bool → List Char → List Char
  | _, [] => []
  | true, c :: cs => if c = '\n' then c :: stripComments false cs else stripComments true cs
  | false, '/' :: '/' :: cs => ' ' :: stripComments true cs
  | false, c :: cs => c :: stripComments false cs

/-- The parts of a text between the `|` that stand outside of quotes and brackets. -/
def pipelineParts (text : List Char) : List (List Char) :=
  Delimited.cut (scan ['(', '['] [')', ']']) .closed '|' text

/-- `_split_pipeline` -/
def splitPipeline (text : List Char) : List (List Char) :=
  (pipelineParts text).filterMap fun part =>
    if stripChars part = [] then none else some (stripChars part)

/-- `\w` -/
def isWord (c : Char) : Bool := py.isAlnum c || c = '_'

/-- `re.fullmatch(r"[A-Za-z_][\w]*", table)` -/
def isTable : List Char → Bool
  | [] => false
  | c :: cs => (('A' ≤ c && c ≤ 'Z') || ('a' ≤ c && c ≤ 'z') || c = '_') && cs.all (isWord py)

/-- `re.sub(r"^\s*by\s+", "", argument, flags=re.IGNORECASE)` -/
def dropBy (argument : List Char) : List Char :=
  match argument.dropWhile isSpace with
  | b :: y :: c :: rest =>
    if (b = 'b' ∨ b = 'B') ∧ (y = 'y' ∨ y = 'Y') ∧ isSpace c then rest.dropWhile isSpace
    else argument
  | _ => argument

/-- One stage: its operator and its argument. -/
def parseStage (segment : List Char) : Except Fault (Operator × String) :=
  let head := segment.takeWhile (· ≠ ' ')
  let argument := (segment.dropWhile (· ≠ ' ')).drop 1
  let name := py.lower (String.ofList (stripChars head))
  let sorts := name = "order" ∨ name = "sort"
  let argument := if sorts then dropBy argument else argument
  let name := if sorts then "order" else name
  match Operator.ofName name with
  | some op => .ok (op, String.ofList (stripChars argument))
  | none => .error (.kql s!"The operator '{name}' is not supported")

/-- `parse_kql`, of the characters of the query -/
def parseText (query : List Char) : Except Fault KqlQuery :=
  match splitPipeline (stripChars (stripComments false query)) with
  | [] => .error (.kql "A recognized query is expected")
  | table :: segments => do
    if !isTable py table then
      .error (.kql s!"A recognized table name is expected, found '{String.ofList table}'")
    let operators ← segments.mapM (parseStage py)
    .ok ⟨String.ofList table, operators⟩

/-- `type(v).__name__` -/
def typeName : Json → String
  | .null => "NoneType"
  | .bool _ => "bool"
  | .int _ => "int"
  | .float _ => "float"
  | .str _ => "str"
  | .list _ => "list"
  | .dict _ => "dict"

/-- `parse_kql` -/
def parseKql : Json → Except Fault KqlQuery
  | .str query => parseText py query.toList
  | .null => parseText py []
  | v => .error (.kql s!"A recognized query is expected, found {typeName v}")

/-! ## Argument lists -/

/-- `_split_commas` -/
def splitCommas (text : List Char) : List (List Char) :=
  Delimited.cut (scan ['('] [')']) .closed ',' text

/-- `_columns` -/
def columns (text : List Char) : List String :=
  (splitCommas text).filterMap fun part =>
    if stripChars part = [] then none else some (String.ofList (stripChars part))

/-! ## Tokens -/

/-- The kinds of tokens. -/
inductive TokenKind where
  | string
  | number
  | op
  | word
  deriving DecidableEq

/-- `_Token` -/
structure Token where
  kind : TokenKind
  text : String
  deriving DecidableEq

/-- What stands between quotes, and what follows: `(?:[^"\\]|\\.)*"`. -/
def quoted (quote : Char) : List Char → Option (List Char × List Char)
  | [] => none
  | '\\' :: c :: cs =>
    if c = '\n' then none
    else (quoted quote cs).map fun read => ('\\' :: c :: read.1, read.2)
  | c :: cs =>
    if c = quote then some ([], cs)
    else if c = '\\' then none
    else (quoted quote cs).map fun read => (c :: read.1, read.2)

/-- Whether a character is a decimal digit. -/
def isDigit (c : Char) : Bool := (py.digit c).isSome

/-- `-?\d+\.\d+|-?\d+` -/
def number (cs : List Char) : Option (List Char × List Char) :=
  let sign := if cs.head? = some '-' then ['-'] else []
  let cs := cs.drop sign.length
  let digits := cs.takeWhile (isDigit py)
  let rest := cs.dropWhile (isDigit py)
  let decimals := (rest.drop 1).takeWhile (isDigit py)
  if digits = [] then none
  else if rest.head? = some '.' ∧ decimals ≠ [] then
    some (sign ++ digits ++ '.' :: decimals, (rest.drop 1).dropWhile (isDigit py))
  else some (sign ++ digits, rest)

/-- `==|!=|<=|>=|=~|!~|<|>|\(|\)|,` -/
def operatorOf : List Char → Option (List Char × List Char)
  | '=' :: '=' :: cs => some (['=', '='], cs)
  | '!' :: '=' :: cs => some (['!', '='], cs)
  | '<' :: '=' :: cs => some (['<', '='], cs)
  | '>' :: '=' :: cs => some (['>', '='], cs)
  | '=' :: '~' :: cs => some (['=', '~'], cs)
  | '!' :: '~' :: cs => some (['!', '~'], cs)
  | c :: cs => if c ∈ ['<', '>', '(', ')', ','] then some ([c], cs) else none
  | [] => none

/-- `[^\s()=<>!,]` -/
def isWordChar (c : Char) : Bool := !isSpace c && c ∉ ['(', ')', '=', '<', '>', '!', ',']

/-- What one match of `_TOKEN_RE` reads: a token, or white space. -/
def nextToken (cs : List Char) : Option (Option Token × List Char) :=
  let token (kind : TokenKind) (read : List Char × List Char) : Option Token × List Char :=
    (some ⟨kind, String.ofList read.1⟩, read.2)
  match cs with
  | [] => none
  | c :: rest =>
    if isSpace c then some (none, cs.dropWhile isSpace)
    else
      let string := if c = '"' ∨ c = '\'' then
          (quoted c rest).map fun read => (c :: read.1 ++ [c], read.2)
        else none
      let word := (cs.takeWhile isWordChar, cs.dropWhile isWordChar)
      ((string.map (token .string)).or ((number py cs).map (token .number))).or
        (((operatorOf cs).map (token .op)).or
          (if isWordChar c then some (token .word word) else none))

/-- `_tokenize` -/
def tokenize (source : String) : Except Fault (List Token) :=
  (Lexing.lex (nextToken py) source.toList).mapError fun rest =>
    .kql s!"Unexpected character at offset {source.toList.length - rest.length}"

end Kql

end Mockdr
