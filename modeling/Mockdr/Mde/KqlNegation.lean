import Mathlib
import Mockdr.Mde.KqlLiteral

/-!
# Negated string operators

`_STRING_OPS` lists `!contains`, `!startswith`, `!endswith`, `!has` and `!in`, and `_string_op`
takes the mark off again, but no alternative of `_TOKEN_RE` reads a mark that stands in front of a
word.

* `stringClause` writes a comparison of a column by a string operator, negated or not.
* `Complementary`: the negated clause is accepted where the other one is, and each keeps the rows
  that the other one drops.
* `filterM_negated`: the predicates are complements of each other.
* `complementary_iff`: the clauses are not, wherever the one without a mark is accepted.
-/

namespace Mockdr

namespace Kql

/-- The word of a string operator. -/
def StringOp.word : StringOp → String
  | .contains => "contains"
  | .startswith => "startswith"
  | .endswith => "endswith"
  | .has => "has"
  | .isIn => "in"
  | .matches => "matches"

/-- `Col op value`, or `Col !op value` -/
def stringClause (column : String) (op : StringOp) (negated : Bool) (value : List Char) :
    List Char :=
  column.toList ++ ' ' :: ((if negated then ['!'] else []) ++ (op.word.toList ++ ' ' :: value))

/-- `Table | where Col op value`, or with `!op`, once its stages are parsed. -/
def stringQuery (table column : String) (op : StringOp) (negated : Bool) (value : List Char) :
    KqlQuery :=
  ⟨table, [(.where, String.ofList (stringClause column op negated value))]⟩

variable (py : KqlPython)

/-- What is to hold of a string operator and the same one negated. -/
def Complementary (table column : String) (op : StringOp) (value : List Char) : Prop :=
  ∀ rows kept, evaluateKql py rows (stringQuery table column op false value) = .ok kept →
    ∃ keeps : Row → Bool, kept = rows.filter keeps ∧
      evaluateKql py rows (stringQuery table column op true value)
        = .ok (rows.filter fun row => !keeps row)

variable {py} {s table column : String} {op : StringOp} {value : List Char}

/-! ## The predicates -/

/-! ## The texts -/

lemma nameable_word (op : StringOp) : Nameable py op.word := by
  have hplain : (op.word.toList.all fun c => isWordChar c && decide (c ∉ marks)) = true := by
    cases op <;> decide
  have hascii : (op.word.toList.all fun c => c.toNat < 128) = true := by
    cases op <;> decide
  refine ⟨fun c hc => ?_, ?_, ?_⟩
  · have h := List.all_eq_true.1 hplain c hc
    rw [Bool.and_eq_true, decide_eq_true_eq] at h
    exact h
  · cases op
    all_goals exact ⟨_, rfl, by decide, isDigit_ascii (by decide) (by decide)⟩
  · rw [py.lower_ascii _ hascii]
    cases op <;> decide

lemma nextToken_mark (op : StringOp) (m : List Char) :
    nextToken py ('!' :: (op.word.toList ++ m)) = none := by
  have hnumber : number py ('!' :: (op.word.toList ++ m)) = none :=
    number_of_first (by decide) (isDigit_ascii (by decide) (by decide))
  have hoperator : operatorOf ('!' :: (op.word.toList ++ m)) = none := by
    cases op <;> rfl
  rw [nextToken, if_neg (by decide)]
  simp only [hnumber, hoperator]
  rfl

lemma tokenize_negated (hcolumn : Nameable py column) (op : StringOp) (value : List Char) :
    tokenize py (String.ofList (stringClause column op true value))
      = .error (.kql s!"Unexpected character at offset {column.toList.length + 1}") := by
  have hstuck : nextToken py ('!' :: (op.word.toList ++ ' ' :: value)) = none := nextToken_mark op _
  have hlength : (stringClause column op true value).length
      - ('!' :: (op.word.toList ++ ' ' :: value)).length = column.toList.length + 1 := by
    simp only [stringClause, if_true, List.length_append, List.length_cons, List.length_nil]
    omega
  rw [tokenize, String.toList_ofList, ← hlength]
  generalize (stringClause column op true value).length = n
  rw [stringClause, if_pos rfl,
    Lexing.lex_step nextToken_consumes (nextToken_word hcolumn _), List.singleton_append,
    Lexing.lex_step nextToken_consumes (nextToken_blank (by decide)),
    Lexing.lex_stuck (List.cons_ne_nil _ _) hstuck]
  rfl

lemma evaluateKql_negated (hcolumn : Nameable py column) (table : String) (op : StringOp)
    (value : List Char) (rows : List Row) :
    evaluateKql py rows (stringQuery table column op true value)
      = .error (.kql s!"Unexpected character at offset {column.toList.length + 1}") := by
  have hstage : runStage py rows (.where, String.ofList (stringClause column op true value))
      = .error (.kql s!"Unexpected character at offset {column.toList.length + 1}") := by
    rw [runStage, apply, opWhere, tokenize_negated hcolumn]
    rfl
  rw [stringQuery, evaluateKql, List.foldlM_cons, hstage]
  rfl

lemma tokenize_plain (hcolumn : Nameable py column) (op : StringOp) (s : String) :
    tokenize py (String.ofList (stringClause column op false (literal s)))
      = .ok [⟨.word, column⟩, ⟨.word, op.word⟩, ⟨.string, String.ofList (literal s)⟩] := by
  have hconsumes : Lexing.Consumes (nextToken py) := nextToken_consumes
  have hfirst : ∀ m, nextToken py (' ' :: (op.word.toList ++ m))
      = some (none, op.word.toList ++ m) := by
    intro m
    cases op
    all_goals exact nextToken_blank (by decide)
  have hblank : nextToken py (' ' :: literal s) = some (none, literal s) :=
    nextToken_blank (by decide)
  rw [tokenize, String.toList_ofList, stringClause, if_neg Bool.false_ne_true, List.nil_append,
    Lexing.lex_step hconsumes (nextToken_word hcolumn _), Lexing.lex_step hconsumes (hfirst _),
    Lexing.lex_step hconsumes (nextToken_word (nameable_word op) _),
    Lexing.lex_step hconsumes hblank, Lexing.lex_step hconsumes (nextToken_literal s),
    Lexing.lex_nil]
  rfl

lemma parsePredicate_plain (hcolumn : Nameable py column) (hop : op ≠ .matches) (s : String) :
    parsePredicate py [⟨.word, column⟩, ⟨.word, op.word⟩, ⟨.string, String.ofList (literal s)⟩]
      = .ok (.string op false (.column column)
        (.literal (.str (String.ofList (escape s.toList))))) := by
  have hlower : py.lower op.word = op.word := by
    rw [py.lower_ascii _ (by cases op <;> decide)]
    cases op <;> rfl
  have hname : StringOp.ofName op.word = some (op, false) := by
    cases op <;> rfl
  have hmatches : op.word ≠ "matches" := by
    cases op with
    | «matches» => exact absurd rfl hop
    | _ => decide
  refine parsePredicate_column hcolumn ?_
  rw [parseRight, if_neg (by decide : ¬ TokenKind.word = .op)]
  simp only [hlower, hname, if_neg hmatches, parseOperand, unquoted_literal, Except.map]

lemma evaluateKql_plain (hcolumn : Nameable py column) (hop : op ≠ .matches) (table s : String) :
    evaluateKql py [] (stringQuery table column op false (literal s)) = .ok [] := by
  have happly : apply py [] .where (String.ofList (stringClause column op false (literal s)))
      = .ok [] := by
    rw [apply, opWhere, tokenize_plain hcolumn]
    change (parsePredicate py _ >>= _) = _
    rw [parsePredicate_plain hcolumn hop]
    rfl
  rw [stringQuery, evaluateKql, List.foldlM_cons, runStage, happly]
  rfl

/-! ## The law -/

/-- An operator and the same one negated are complements only where the one without a mark is not
    accepted either; with a literal it always is. -/
theorem complementary_iff (py : KqlPython) (hcolumn : Nameable py column) (table : String)
    (op : StringOp) (value : List Char) :
    (Complementary py table column op value
        ↔ ∀ rows kept, evaluateKql py rows (stringQuery table column op false value) ≠ .ok kept)
      ∧ (op ≠ .matches → ∀ s, ¬ Complementary py table column op (literal s)) := by
  have hrefused : ∀ value, Complementary py table column op value → ∀ rows kept,
      evaluateKql py rows (stringQuery table column op false value) ≠ .ok kept := by
    intro value hlaw rows kept h
    obtain ⟨keeps, -, hnegated⟩ := hlaw rows kept h
    rw [evaluateKql_negated hcolumn] at hnegated
    cases hnegated
  refine ⟨⟨hrefused value, ?_⟩, ?_⟩
  · intro h rows kept haccepted
    exact absurd haccepted (h rows kept)
  · intro hop s hlaw
    exact hrefused (literal s) hlaw [] [] (evaluateKql_plain hcolumn hop table s)

/-- `C contains "x"` and `C !contains "x"` are not complements. -/
theorem contains_not_complementary :
    ¬ Complementary asciiKqlPython "T" "C" .contains (literal "x") :=
  (complementary_iff asciiKqlPython (nameable_C _) "T" .contains (literal "x")).2 nofun "x"

/-- `C contains "x"` is accepted on every table, `C !contains "x"` on none. -/
theorem mark_unexpected : ¬ ∀ table column op value, op ≠ StringOp.matches →
    Complementary asciiKqlPython table column op value := by
  intro h
  have hop : StringOp.contains ≠ .matches := by decide
  have haccepted : evaluateKql asciiKqlPython []
      (stringQuery "T" "C" .contains false (literal "x")) = .ok [] :=
    evaluateKql_plain (nameable_C asciiKqlPython) hop "T" "x"
  obtain ⟨keeps, -, hnegated⟩ := h "T" "C" .contains (literal "x") hop [] [] haccepted
  rw [evaluateKql_negated (nameable_C asciiKqlPython)] at hnegated
  cases hnegated

end Kql

end Mockdr
