import Mockdr.Lib.ObjectHeap
import Mockdr.Python

/-!
# Scripts

`utils/es_painless.py`: the assignments of a script are carried out one after another on a document
that is handed in. The document is a copy at its top level, and what is nested in it is shared with
the record it was copied from, so that the model keeps objects on a heap.

* `PainlessPython` are the built-ins that a script computes with, over the values without parts.
* `readRemove`, `readStatement` and `parseTarget` are what the regular expressions read off a
  statement, and `pathParts` is `findall`.
* `assign` writes at a path, in the document or in an object nested in it, and `runScript` runs the
  statements until one cannot be read or carried out. What was written by then stays written.
-/

namespace Mockdr.Painless

/-- Why `+` or `-` cannot be computed. -/
inductive ArithmeticError where
  /-- `TypeError` -/
  | type
  /-- an exception of another kind, such as `OverflowError` -/
  | other

/-- The built-ins of a script. Numbers that are not equal to themselves, and that Python finds equal
    where they are the same object, are different values here. -/
structure PainlessPython (α : Type) where
  /-- `\w` -/
  word : Char → Bool
  none : α
  bool : Bool → α
  text : String → α
  /-- `int(s)`, nothing where it raises -/
  int : String → Option α
  /-- `float(s)`, nothing where it raises -/
  float : String → Option α
  /-- the string that a value is -/
  text? : α → Option String
  /-- `v is None` -/
  isNone : α → Bool
  /-- the truth test -/
  truthy : α → Bool
  /-- `==` -/
  eq : α → α → Bool
  equivalence : Equivalence fun a b => eq a b = true
  /-- `getattr(v, name, None)` -/
  getattr : α → String → α
  /-- `dict(v)`, nothing where it raises -/
  dict : α → Option (HeapFields α)
  /-- `str(v)` -/
  str : ObjectHeap α → HeapValue α → String
  /-- `repr(v)` -/
  repr : ObjectHeap α → HeapValue α → String
  /-- `v + w` -/
  add : HeapValue α → HeapValue α → Except ArithmeticError (HeapValue α)
  /-- `v - w` -/
  sub : HeapValue α → HeapValue α → Except ArithmeticError (HeapValue α)
  /-- how deep a comparison or a merge can go before it raises `RecursionError` -/
  depth : Nat

/-- The exceptions a script ends with. -/
inductive ScriptError where
  /-- `PainlessError`, with its message -/
  | painless (message : String)
  /-- an exception that no handler names -/
  | crash

/-! ## Reading a statement -/

/-- The operators of an assignment. -/
inductive Operator where
  | set
  | add
  | sub
  deriving DecidableEq

/-- How an operator is written. -/
def Operator.spelling : Operator → String
  | .set => "="
  | .add => "+="
  | .sub => "-="

/-- `_statements`: the statements of a script, without the blank ones. -/
def statements (source : String) : List String :=
  ((source.toList.splitOnP fun c => c = ';' || c = '\n').map String.ofList).filter
    fun s => strip s ≠ ""

/-- Whether a character is a quotation mark. -/
def isQuote (c : Char) : Bool := c = '\'' || c = '"'

/-- What is left of a text after a first part that it must have. -/
def after (p : String) (cs : List Char) : Option (List Char) := p.toList.isPrefixOf? cs

/-- `_REMOVE`: the field that a statement removes. -/
def readRemove (raw : String) : Option String := do
  let cs ← after "ctx._source.remove(" (raw.toList.dropWhile isSpace)
  match cs.dropWhile isSpace with
  | c :: cs =>
    let field := cs.takeWhile (!isQuote ·)
    let rest := (cs.dropWhile (!isQuote ·)).drop 1
    -- The field ends with a quotation mark, whichever it started with.
    if isQuote c && !field.isEmpty && (cs.any isQuote) then
      match rest.dropWhile isSpace with
      | ')' :: rest => if rest.all isSpace then some (String.ofList field) else .none
      | _ => .none
    else .none
  | [] => .none

/-- Whether a character can be part of a target. -/
def inTarget (c : Char) : Bool := !(c = '=' || c = '+' || c = '-')

/-- `_STATEMENT`: the target, the operator and the value of an assignment, without the white space
    around them. -/
def readStatement (raw : String) : Option (String × Operator × String) :=
  let target := raw.toList.takeWhile inTarget
  let found := match raw.toList.dropWhile inTarget with
    | '=' :: value => some (Operator.set, value)
    | '+' :: '=' :: value => some (.add, value)
    | '-' :: '=' :: value => some (.sub, value)
    | _ => .none
  match found with
  | some (operator, value) =>
    if target = [] ∨ value = [] then .none
    else some (strip (String.ofList target), operator, strip (String.ofList value))
  | .none => .none

/-- Whether a name can start with a character (`[A-Za-z_]`). -/
def startsName (c : Char) : Bool :=
  ('A' ≤ c && c ≤ 'Z') || ('a' ≤ c && c ≤ 'z') || c = '_'

/-- One part of a path at the front of a text: `.name`, `['name']` or `["name"]`. -/
def readPart (word : Char → Bool) : List Char → Option (String × List Char)
  | '.' :: c :: cs =>
    if startsName c then some (String.ofList (c :: cs.takeWhile word), cs.dropWhile word) else .none
  | '[' :: quote :: cs =>
    if isQuote quote then
      match cs.dropWhile (· ≠ quote) with
      | _ :: ']' :: rest => some (String.ofList (cs.takeWhile (· ≠ quote)), rest)
      | _ => .none
    else .none
  | _ => .none

/-- The parts of a text that is a path, in so many steps. -/
def readPathFrom (word : Char → Bool) : Nat → List Char → Option (List String)
  | _, [] => some []
  | 0, _ :: _ => .none
  | n + 1, c :: cs =>
    match readPart word (c :: cs) with
    | some (name, rest) => (readPathFrom word n rest).map (name :: ·)
    | .none => .none

/-- The parts of a text that is a path. -/
def readPath (word : Char → Bool) (cs : List Char) : Option (List String) :=
  readPathFrom word cs.length cs

/-- The parts of a path that a text has in it, in so many steps. -/
def findPartsFrom (word : Char → Bool) : Nat → List Char → List String
  | 0, _ => []
  | _, [] => []
  | n + 1, c :: cs =>
    match readPart word (c :: cs) with
    | some (name, rest) => name :: findPartsFrom word n rest
    | .none => findPartsFrom word n cs

/-- `_path_parts`: the parts of a path that a text has in it. -/
def pathParts (word : Char → Bool) (cs : List Char) : List String :=
  findPartsFrom word cs.length cs

variable {α : Type}

/-- `_parse_target`: the path an assignment writes to. -/
def parseTarget (py : PainlessPython α) (text : String) : Except ScriptError (List String) :=
  let source := (after "ctx._source" text.toList).bind (readPath py.word)
  let context := (after "ctx" text.toList).bind (readPath py.word)
  match source, context with
  | some path, _ => .ok ("_source" :: path)
  | .none, some path => .ok path
  | .none, .none =>
    .error (.painless ("mockdr reads a write to ctx._source, not [" ++ text ++ "]"))

/-! ## The right-hand side -/

/-- `get_nested` of an object: the value at a dotted path. -/
def getNested (py : PainlessPython α) (h : ObjectHeap α) (fields : HeapFields α) (path : String) :
    HeapValue α :=
  match split '.' path with
  | [] => .atom py.none
  | part :: parts =>
    parts.foldl
      (fun v part =>
        match v with
        | .ref a => ((h.read a).get part).getD (.atom py.none)
        | .atom a => if py.isNone a then .atom a else .atom (py.getattr a part))
      ((fields.get part).getD (.atom py.none))

/-- `_value`: what the right-hand side of an assignment is. -/
def evaluate (py : PainlessPython α) (h : ObjectHeap α) (params document : HeapFields α)
    (literal : String) : Except ScriptError (HeapValue α) :=
  let cs := literal.toList
  if (cs.head?.map isQuote).getD false && cs.getLast? = cs.head? then
    .ok (.atom (py.text (String.ofList (cs.drop 1).dropLast)))
  else if literal = "true" ∨ literal = "false" then .ok (.atom (py.bool (literal = "true")))
  else if literal = "null" then .ok (.atom py.none)
  else
    match (py.int literal).or (py.float literal) with
    | some number => .ok (.atom number)
    | .none =>
      match after "params" cs, after "ctx._source" cs with
      | some path, _ =>
        .ok (getNested py h params (".".intercalate (pathParts py.word path)))
      | .none, some path =>
        .ok (getNested py h document (".".intercalate (pathParts py.word path)))
      | .none, .none =>
        .error (.painless ("mockdr reads a literal, a param or a field, not [" ++ literal ++ "]"))

/-! ## Writing -/

/-- The document a script works on, and the objects. -/
structure Memory (α : Type) where
  heap : ObjectHeap α
  document : HeapFields α

/-- What an assignment writes into: the document, or an object. -/
inductive Holder where
  | document
  | object (address : Nat)

/-- What a holder has in it. -/
def Memory.fieldsOf (m : Memory α) : Holder → HeapFields α
  | .document => m.document
  | .object a => m.heap.read a

/-- Write a field. -/
def Memory.put (m : Memory α) (holder : Holder) (key : String) (v : HeapValue α) : Memory α :=
  match holder with
  | .document => { m with document := m.document.set key v }
  | .object a => { m with heap := m.heap.write a ((m.heap.read a).set key v) }

/-- Go down a path, creating the objects on the way. -/
def Memory.walk (m : Memory α) (holder : Holder) : List String → Memory α × Holder
  | [] => (m, holder)
  | part :: parts =>
    match (m.fieldsOf holder).get part with
    | some (.ref a) => Memory.walk m (.object a) parts
    | _ =>
      let (a, heap) := m.heap.alloc .empty
      Memory.walk ({ m with heap }.put holder part (.ref a)) (.object a) parts

/-- What an operator leaves in a field. -/
def Operator.result (py : PainlessPython α) (h : ObjectHeap α) (current value : HeapValue α)
    (operator : Operator) : Except ScriptError (HeapValue α) :=
  let computed : Except ArithmeticError (HeapValue α) := match operator with
    | .set => .ok value
    | .add => py.add current value
    | .sub => py.sub current value
  match computed with
  | .ok v => .ok v
  | .error .type =>
    .error (.painless
      ("cannot apply [" ++ operator.spelling ++ "] to [" ++ py.repr h current ++ "]"))
  | .error .other => .error .crash

/-- `_assign`: write a value at a target. -/
def assign (py : PainlessPython α) (m : Memory α) (target : List String) (value : HeapValue α)
    (operator : Operator) : Memory α × Except ScriptError Unit :=
  match target with
  | "_source" :: part :: parts =>
    let path := part :: parts
    let dotted := ".".intercalate path
    -- A field whose name has dots is written as it is where the document has it.
    let (m, holder, key) :=
      if path.length > 1 ∧ m.document.contains dotted then (m, .document, dotted)
      else
        let (m, holder) := m.walk .document path.dropLast
        (m, holder, path.getLastD "")
    let current := ((m.fieldsOf holder).get key).getD (.atom py.none)
    match operator.result py m.heap current value with
    | .ok v => (m.put holder key v, .ok ())
    | .error e => (m, .error e)
  | ["_source"] =>
    (m, .error (.painless "mockdr writes a field of ctx._source, not the whole document"))
  | target =>
    (m, .error (.painless
      ("mockdr writes to ctx._source, not to ctx." ++ ".".intercalate target)))

/-! ## The script -/

/-- One statement: what it does to the document, and the operation that is asked for after it. -/
def runStatement (py : PainlessPython α) (params : HeapFields α) (m : Memory α)
    (operation raw : String) : Memory α × Except ScriptError String :=
  match readRemove raw with
  | some field => ({ m with document := m.document.erase field }, .ok operation)
  | .none =>
    match readStatement raw with
    | .none =>
      (m, .error (.painless
        ("mockdr reads assignments and remove(), not [" ++ strip raw ++ "]")))
    | some (target, operator, literal) =>
      match parseTarget py target with
      | .error e => (m, .error e)
      | .ok path =>
        match evaluate py m.heap params m.document literal with
        | .error e => (m, .error e)
        | .ok value =>
          if path = ["op"] then (m, .ok (py.str m.heap value))
          else
            match assign py m path value operator with
            | (m, .ok ()) => (m, .ok operation)
            | (m, .error e) => (m, .error e)

/-- The statements of a script, one after another. -/
def runStatements (py : PainlessPython α) (params : HeapFields α) :
    Memory α → String → List String → Memory α × Except ScriptError String
  | m, operation, [] => (m, .ok operation)
  | m, operation, raw :: rest =>
    match runStatement py params m operation raw with
    | (m, .ok operation) => runStatements py params m operation rest
    | (m, .error e) => (m, .error e)

/-- `run_script` -/
def runScript (py : PainlessPython α) (source : String) (params : HeapFields α) (m : Memory α) :
    Memory α × Except ScriptError String :=
  runStatements py params m "index" (statements source)

end Mockdr.Painless
