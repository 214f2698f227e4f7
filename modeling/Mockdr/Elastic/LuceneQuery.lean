import Mockdr.Elastic.Fnmatch
import Mockdr.Elastic.Leaf
import Mockdr.Lib.Lexing

/-!
# `query_string`

The `query_string` clause (`utils/es_query.py`), in the subset of Lucene's syntax that it reads.

* `qsTokenise` cuts a text into terms and operators; `qsStep` is the pattern of one token.
* `qsScan` and `combine` are the two halves of `_qs_parse_expr`: one lists the operands and, apart
  from them, what stands between them, and the other groups the operands by what is at their place.
* `buildQueryString`: the number of clauses that a text counts as, and its test.
-/

namespace Mockdr.Elastic

/-- The built-ins that a `query_string` is read with. -/
structure QsPython extends Python where
  /-- `\w` -/
  word : Char → Bool

/-! ## Tokens -/

/-- A token of a `query_string`. -/
inductive QsToken where
  | not
  | and
  | or
  | term (field value : String)
  deriving DecidableEq

/-- A keyword at the front of a text, which ends there or goes on with no character of a word. -/
def keywordFront (word : Char → Bool) (keyword : String) (cs : List Char) : Option (List Char) :=
  match keyword.toList.isPrefixOf? cs with
  | some rest => if (rest.head?.map word).getD false then none else some rest
  | none => none

/-- Any of the keywords. -/
def operatorFront (word : Char → Bool) (cs : List Char) : Option (QsToken × List Char) :=
  ((keywordFront word "NOT" cs).map (QsToken.not, ·)).or
    (((keywordFront word "AND" cs).map (QsToken.and, ·)).or
      ((keywordFront word "OR" cs).map (QsToken.or, ·)))

/-- The characters that a field name starts with. -/
def startsField (c : Char) : Bool :=
  ('A' ≤ c && c ≤ 'Z') || ('a' ≤ c && c ≤ 'z') || c = '_' || c = '@'

/-- The characters that a field name goes on with. -/
def inField (c : Char) : Bool := startsField c || ('0' ≤ c && c ≤ '9') || c = '.' || c = '-'

/-- A field name and a colon at the front of a text. -/
def fieldFront (cs : List Char) : Option (String × List Char) :=
  match cs with
  | c :: _ =>
    if startsField c then
      match cs.dropWhile inField with
      | ':' :: rest => some (String.ofList (cs.takeWhile inField), rest)
      | _ => none
    else none
  | [] => none

/-- What is between quotation marks at the front of a text. -/
def quotedFront (cs : List Char) : Option (String × List Char) :=
  match cs with
  | '"' :: cs =>
    match cs.dropWhile (· ≠ '"') with
    | _ :: rest => some (String.ofList (cs.takeWhile (· ≠ '"')), rest)
    | [] => none
  | _ => none

/-- Whether a character opens a range. -/
def opensRange (c : Char) : Bool := c = '[' || c = '{'

/-- Whether a character closes a range. -/
def closesRange (c : Char) : Bool := c = ']' || c = '}'

/-- A range at the front of a text, with its brackets. -/
def rangedFront (cs : List Char) : Option (String × List Char) :=
  match cs with
  | c :: cs =>
    if opensRange c then
      match cs.dropWhile (!closesRange ·) with
      | close :: rest =>
        some (String.ofList (c :: cs.takeWhile (!closesRange ·) ++ [close]), rest)
      | [] => none
    else none
  | [] => none

/-- What is up to white space at the front of a text. -/
def bareFront (cs : List Char) : Option (String × List Char) :=
  match cs.takeWhile (!isSpace ·) with
  | [] => none
  | bare => some (String.ofList bare, cs.dropWhile (!isSpace ·))

/-- A term at the front of a text: a field with its value, or what is between quotation marks or up
    to white space. -/
def termFront (cs : List Char) : Option (QsToken × List Char) :=
  let field := (fieldFront cs).bind fun (name, cs) =>
    ((quotedFront cs).or ((rangedFront cs).or (bareFront cs))).map fun (value, rest) =>
      (QsToken.term name value, rest)
  field.or
    (((quotedFront cs).or (bareFront cs)).map fun (value, rest) => (QsToken.term "" value, rest))

/-- `_QS_TOKEN_RE` at the front of a text: a token, or a character that is passed over. -/
def qsStep (word : Char → Bool) (cs : List Char) : Option (Option QsToken × List Char) :=
  match (operatorFront word cs).or (termFront cs) with
  | some (token, rest) => some (some token, rest)
  | none => cs.tail?.map (none, ·)

/-- `_qs_tokenise` -/
def qsTokenise (word : Char → Bool) (query : String) : List QsToken :=
  match Lexing.lex (qsStep word) query.toList with
  | .ok tokens => tokens
  | .error _ => []

/-! ## Terms -/

section Search

variable (test : Json → Bool)

mutual

/-- `_search_all_values` -/
def searchAllValues : List (String × Json) → Bool
  | [] => false
  | (_, v) :: rest => searchValue v || searchAllValues rest

/-- `_search_all_values`, of one value. -/
def searchValue : Json → Bool
  | .dict o => searchAllValues o
  | .list items => searchItems items
  | .null => false
  | v => test v

/-- `_search_all_values`, of the items of a list. -/
def searchItems : List Json → Bool
  | [] => false
  | .dict o :: rest => searchAllValues o || searchItems rest
  | .null :: rest => searchItems rest
  | v :: rest => test v || searchItems rest

end

end Search

variable (py : QsPython) (range : String → String → Option Pred)

/-- Whether a value has the text of a term, which may have wildcards. -/
def hasTermText (value : String) (v : Json) : Bool :=
  let text := py.lower (py.toStr v)
  if hasChar '*' value || hasChar '?' value then fnmatch text (py.lower value)
  else hasSub (py.lower value) text

/-- `_qs_make_term_pred` -/
def qsMakeTermPred (field value : String) : Pred :=
  if field = "" then fun record => searchAllValues (hasTermText py value) record.source
  else
    (range field value).getD fun record =>
      match getNested py.toPython (.dict record.source) field with
      | .null => false
      | v => hasTermText py value v

/-! ## Operators -/

/-- What stands between two operands. -/
inductive Conjunction where
  | and
  | or
  deriving DecidableEq

/-- The field and the value of a token; those of an operator are empty. -/
def QsToken.parts : QsToken → String × String
  | .term field value => (field, value)
  | _ => ("", "")

/-- The `AND` that is put in front of a term that follows an operand. -/
def withDefault (tokens : List QsToken) (conjunctions : List Conjunction) : List Conjunction :=
  match tokens with
  | .term _ _ :: _ => .and :: conjunctions
  | _ => conjunctions

/-- The loop of `_qs_parse_expr`: the operands, and the conjunctions between them. -/
def qsScan : List QsToken → List Pred × List Conjunction
  | [] => ([], [])
  | [.not] => ([], [])
  | .not :: token :: rest =>
    let (predicates, conjunctions) := qsScan rest
    let inner := qsMakeTermPred py range token.parts.1 token.parts.2
    ((fun record => !inner record) :: predicates, withDefault rest conjunctions)
  | .term field value :: rest =>
    let (predicates, conjunctions) := qsScan rest
    (qsMakeTermPred py range field value :: predicates, withDefault rest conjunctions)
  | .and :: rest =>
    let (predicates, conjunctions) := qsScan rest
    (predicates, .and :: conjunctions)
  | .or :: rest =>
    let (predicates, conjunctions) := qsScan rest
    (predicates, .or :: conjunctions)

/-- One more operand: `OR` starts a group, `AND` goes on with the last one. -/
def addOperand (groups : List (List Pred) × List Pred) (p : Conjunction × Pred) :
    List (List Pred) × List Pred :=
  match p.1 with
  | .or => (groups.1 ++ [groups.2], [p.2])
  | .and => (groups.1, groups.2 ++ [p.2])

/-- Whether all of some group hold. -/
def anyGroup (groups : List (List Pred) × List Pred) : Pred := fun record =>
  (groups.1 ++ [groups.2]).any fun group => group.all fun p => p record

/-- The groups of `_qs_parse_expr`: an operand goes with the conjunction at its place, and what has
    no partner is left out. -/
def combine (predicates : List Pred) (conjunctions : List Conjunction) : Pred :=
  match predicates with
  | [] => fun _ => true
  | first :: rest => anyGroup ((conjunctions.zip rest).foldl addOperand ([], [first]))

/-- Whether a token is a term. -/
def QsToken.isTerm : QsToken → Bool
  | .term _ _ => true
  | _ => false

/-- `_build_query_string`: how many clauses it counts, and its test. -/
def buildQueryString (body : Object) : Except SearchError (Nat × Pred) :=
  match (Assoc.get "query" body).getD (.str "") with
  | .str query =>
    let tokens := qsTokenise py.word query
    let (predicates, conjunctions) := qsScan py range tokens
    .ok (tokens.countP QsToken.isTerm, combine predicates conjunctions)
  | _ => .error .crash

end Mockdr.Elastic
