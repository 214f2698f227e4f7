import Mockdr.Splunk.SplExpr

/-!
# The text of a search

How `utils/splunk/spl_parser.py` takes a search apart, and the macros of `spl_macros.py` that stand
in it.

* `splitPipeline` cuts it at the pipes, `splitTopLevelTerms` the search clause at the white space,
  and `splitEvalClauses` of `spl_exec.py` the argument of `eval` at the commas. Only the first of
  them knows of a backslash.
* `parseSearchClause` hoists the selectors and the time modifiers out of the search clause.
* `parseSpl` is the whole.
-/

namespace Mockdr

namespace Splunk

namespace Spl

variable (py : SplPython)

/-! ## What is open in a text -/

/-- What is open at a place of a text: how many brackets, a quotation, and in it a backslash. -/
structure Nesting where
  depth : Nat
  inQuotes : Bool
  escaped : Bool
  deriving DecidableEq

/-- Nothing is open. -/
def Nesting.closed : Nesting := ⟨0, false, false⟩

/-- What is open after a character, for a scanner that knows of backslashes or does not. -/
def Nesting.next (escapes : Bool) (opening closing : List Char) (s : Nesting) (c : Char) :
    Nesting :=
  if s.escaped then { s with escaped := false }
  else if escapes ∧ c = '\\' ∧ s.inQuotes then { s with escaped := true }
  else if c = '"' then { s with inQuotes := !s.inQuotes }
  else if s.inQuotes then s
  else if c ∈ opening then { s with depth := s.depth + 1 }
  else if c ∈ closing then { s with depth := s.depth - 1 }
  else s

/-- `_split_pipeline` -/
def splitPipeline (source : List Char) : List (List Char) :=
  Delimited.cut (Nesting.next true ['(', '['] [')', ']']) .closed '|' source

/-- `_split_eval_clauses` -/
def splitEvalClauses (arg : List Char) : List (List Char) :=
  (Delimited.cut (Nesting.next false ['('] [')']) .closed ',' arg).filter fun clause =>
    Kql.stripChars clause ≠ []

/-- The loop of `_split_top_level_terms`, `current` being what has been read of a term. -/
def termsFrom : Nesting → List Char → List Char → List (List Char)
  | _, current, [] => if current = [] then [] else [current]
  | s, current, c :: cs =>
    let s := s.next false ['('] [')'] c
    if isSpace c ∧ s.inQuotes = false ∧ s.depth = 0 then
      if current = [] then termsFrom s [] cs else current :: termsFrom s [] cs
    else termsFrom s (current ++ [c]) cs

/-- `_split_top_level_terms` -/
def splitTopLevelTerms (clause : List Char) : List (List Char) := termsFrom .closed [] clause

/-! ## Macros -/

/-- What `_MACRO_RE` matches behind a backtick: the name, the arguments, and what follows. -/
def macroCall (cs : List Char) : Option (List Char × Option (List Char) × List Char) :=
  let name := cs.takeWhile py.isWord
  let rest := cs.dropWhile py.isWord
  let first := name.head?.any fun c => c.isAlpha || c = '_'
  if !first then none
  else
    match rest with
    | '`' :: rest => some (name, none, rest)
    | '(' :: rest =>
      let raw := rest.takeWhile (· ∉ ['`', '(', ')'])
      match rest.dropWhile (· ∉ ['`', '(', ')']) with
      | ')' :: '`' :: rest => some (name, some raw, rest)
      | _ => none
    | _ => none

/-- What a macro expands to; nothing for `notable` and for one that is not known. -/
def macroText (name : List Char) (raw : Option (List Char)) : Option (List Char) :=
  match raw with
  | some arg =>
    if String.ofList name = "drop_dm_object_name" ∧ ',' ∉ arg then
      some (replace "$object$" (strip (String.ofList arg)) "rename $object$.* AS *").toList
    else none
  | none => none

/-- One step of the expansion: a macro, or a character. -/
def expandStep : List Char → Option (Option (List Char) × List Char)
  | [] => none
  | c :: cs =>
    match if c = '`' then macroCall py cs else none with
    | some (name, raw, rest) =>
      some (some ((macroText name raw).getD ((c :: cs).take (cs.length + 1 - rest.length))), rest)
    | none => some (some [c], cs)

/-- `expand_macros` -/
def expandMacros (text : List Char) : List Char :=
  match Lexing.lex (expandStep py) text with
  | .ok pieces => pieces.flatten
  | .error _ => text

/-! ## The search clause -/

/-- `SPLCommand` -/
structure SPLCommand where
  name : String
  arg : String
  deriving DecidableEq

/-- What goes into `errors`: a text for an unknown command, that of an exception otherwise. -/
inductive SPLError where
  | unknownCommand (name : String)
  | invalidExpression
  deriving DecidableEq

/-- `SPLQuery` -/
structure SPLQuery where
  index : String
  sourcetype : String
  source : String
  host : String
  earliestTime : String
  latestTime : String
  searchExpr : Option Node
  commands : List SPLCommand
  errors : List SPLError
  rawSearch : String
  isNotable : Bool
  unknownCommand : String
  fromSearchString : Bool

/-- A query with nothing in it. -/
def SPLQuery.empty (raw : String) : SPLQuery :=
  ⟨"", "", "", "", "", "", none, [], [], raw, false, "", false⟩

/-- `_assign_builtin` -/
def assignBuiltin (key value : String) (q : SPLQuery) : SPLQuery :=
  if key = "index" then { q with index := value }
  else if key = "sourcetype" then { q with sourcetype := value }
  else if key = "source" then { q with source := value }
  else if key = "host" then { q with host := value }
  else if key = "earliest" then { q with earliestTime := value, fromSearchString := true }
  else if key = "latest" then { q with latestTime := value, fromSearchString := true }
  else q

/-- `_BUILTIN_SEARCH_FIELDS` without the time modifiers -/
def SELECTORS : List String := ["index", "sourcetype", "source", "host"]

/-- The time modifiers. -/
def TIME_TERMS : List String := ["earliest", "latest"]

/-- `"([^"]*)"|(\S+)` and white space: the value of a term. -/
def termValue (cs : List Char) : Option (List Char) :=
  let inner := (cs.drop 1).takeWhile (· ≠ '"')
  let behind := (cs.drop 1).dropWhile (· ≠ '"')
  let bare := cs.takeWhile fun c => !isSpace c
  if cs.head? = some '"' ∧ behind ≠ [] ∧ behind.tail.all isSpace then some inner
  else if bare ≠ [] ∧ (cs.dropWhile fun c => !isSpace c).all isSpace then some bare
  else none

/-- `\s*(\w+)\s*=\s*(?:"([^"]*)"|(\S+))\s*`: the field and the value of a term. -/
def termOf (segment : List Char) : Option (String × String) :=
  let cs := segment.dropWhile isSpace
  let key := cs.takeWhile py.isWord
  match (cs.dropWhile py.isWord).dropWhile isSpace with
  | '=' :: rest =>
    if key = [] then none
    else (termValue (rest.dropWhile isSpace)).map (String.ofList key, String.ofList ·)
  | _ => none

/-- Whether a term is a keyword. -/
def isKeyword (keyword : String) (term : List Char) : Bool :=
  py.upper (String.ofList term) = keyword

/-- Selectors may be hoisted out of some terms. -/
def hoistable (terms : List (List Char)) : Bool :=
  !terms.any fun term => isKeyword py "NOT" term || isKeyword py "OR" term || '(' ∈ term

/-- The loop of `_parse_search_clause`: what is hoisted, whether the term before was a `NOT`, and
    what is left of the clause. -/
structure Hoist where
  query : SPLQuery
  negated : Bool
  remainder : List (List Char)

/-- One turn of the loop. -/
def hoistTerm (hoistable : Bool) (h : Hoist) (segment : List Char) : Hoist :=
  if isKeyword py "NOT" segment then ⟨h.query, true, h.remainder ++ [segment]⟩
  else
    match (termOf py segment).map fun term => (py.lower term.1, term.2) with
    | some (key, value) =>
      if key ∈ TIME_TERMS then
        ⟨if h.negated then h.query else assignBuiltin key value h.query, false, h.remainder⟩
      else if key ∈ SELECTORS ∧ hoistable ∧ !hasChar '*' value ∧ !hasChar '(' value then
        ⟨assignBuiltin key value h.query, false, h.remainder ++ [segment]⟩
      else ⟨h.query, false, h.remainder ++ [segment]⟩
    | none => ⟨h.query, false, h.remainder ++ [segment]⟩

/-- What is left of a clause, as one text. -/
def remainderText (parts : List (List Char)) : List Char :=
  [' '].intercalate ((parts.map Kql.stripChars).filter (· ≠ []))

/-- `_parse_search_clause` -/
def parseSearchClause (clause : List Char) (q : SPLQuery) : SPLQuery :=
  if Kql.stripChars clause = [] then q
  else
    let terms := splitTopLevelTerms clause
    let hoist := terms.foldl (hoistTerm py (hoistable py terms)) ⟨q, false, []⟩
    let remainder := remainderText hoist.remainder
    if remainder = [] then hoist.query
    else
      match parse py .search remainder with
      | some node => { hoist.query with searchExpr := node }
      | none => { hoist.query with errors := hoist.query.errors ++ [.invalidExpression] }

/-! ## The query -/

/-- `KNOWN_COMMANDS` -/
def KNOWN_COMMANDS : List String :=
  ["append", "bin", "bucket", "chart", "convert", "dedup", "eval", "join", "eventstats", "fields",
    "filldown", "fillnull", "head", "inputlookup", "lookup", "makeresults", "mvexpand", "rare",
    "regex", "rename", "rex", "search", "sort", "spath", "stats", "streamstats", "table", "tail",
    "timechart", "top", "tstats", "where"]

/-- The text of a query, its macros expanded, and whether it asks for notable events. -/
def expanded (query : String) : List Char × Bool :=
  let text := strip query
  let notable := hasSub "`notable`" text
  let text := if notable then replace "`notable`" "search index=notable" text else text
  (expandMacros py text.toList, notable)

/-- The search clause of the first segment. -/
def searchClause (segment : List Char) : List Char :=
  let clause := Kql.stripChars segment
  if startsWith (py.lower (String.ofList clause)) "search " then clause.drop 7 else clause

/-- The command of a segment that is not empty. -/
def commandOf (segment : List Char) : SPLCommand :=
  let (name, arg) := partition ' ' (String.ofList (Kql.stripChars segment))
  ⟨strip (py.lower name), strip arg⟩

/-- One more segment. -/
def addSegment (q : SPLQuery) (segment : List Char) : SPLQuery :=
  if Kql.stripChars segment = [] then q
  else
    let command := commandOf py segment
    if command.name ∈ KNOWN_COMMANDS then { q with commands := q.commands ++ [command] }
    else { q with
      unknownCommand := command.name
      errors := q.errors ++ [.unknownCommand command.name] }

/-- `parse_spl` -/
def parseSpl (query : String) : SPLQuery :=
  let text := expanded py query
  let segments := splitPipeline text.1
  let q := { SPLQuery.empty query with isNotable := text.2 }
  segments.tail.foldl (addSegment py)
    (parseSearchClause py (searchClause py (segments.headD [])) q)

end Spl

end Splunk

end Mockdr
