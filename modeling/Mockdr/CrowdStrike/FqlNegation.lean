import Mathlib
import Mockdr.CrowdStrike.FqlMeaning
import Mockdr.Elastic.WildcardLanguage

/-!
# Negated terms of an FQL filter

* `TermText`: a term, as a field and the text behind its colon; `term` and `negated` are the term
  and the same one with a `!` behind the colon.
* `Complementary`: of every record, exactly one of the two keeps it.
* `Negatable`: lists, patterns behind a star, text matches, and values without wildcards.
* `negated_iff`: a term and the negated one are complements exactly if the text, up to a line feed,
  is `Negatable`. A range is not: `_TERM_RE` reads `!>` as `!` and a value that starts with `>`.
-/

namespace Mockdr

namespace Fql

/-- The built-ins of FQL: no number and no date is written with an angle bracket, and no number is
    empty. -/
structure FqlPython extends QueryPython where
  float_marks : ∀ s : String, s = "" ∨ '<' ∈ s.toList ∨ '>' ∈ s.toList → float s = none
  fromisoformat_marks : ∀ s : String, '<' ∈ s.toList ∨ '>' ∈ s.toList → fromisoformat s = none

/-- What `.+` reads of a text. -/
def firstLine (text : List Char) : List Char := text.takeWhile (· ≠ '\n')

/-- A term, as its field and the text behind the colon, which is not negated already. -/
structure TermText (field text : List Char) : Prop where
  field : ∃ c rest, field = c :: rest ∧ fieldStart c = true ∧ rest.all fieldChar = true
  nonempty : firstLine text ≠ []
  last : ∀ c ∈ text.getLast?, isSpace c = false
  plain : text.head? ≠ some '!' ∧ text.head? ≠ some '='
  whole : ∀ d ∈ ['+', ','], Delimited.Uncut Scan.next Scan.closed d Scan.closed text

/-- `field:text` -/
def term (field text : List Char) : List Char := field ++ ':' :: text

/-- `field:!text` -/
def negated (field text : List Char) : List Char := field ++ ':' :: '!' :: text

/-- Of every record, exactly one of a term and the negated term keeps it. -/
def Complementary (py : QueryPython) (field text : List Char) : Prop :=
  ∀ record : Json, ∃ kept : Bool,
    applyFql py (getNested py.toPython) [record] (term field text)
        = .ok (if kept then [record] else [])
      ∧ applyFql py (getNested py.toPython) [record] (negated field text)
        = .ok (if kept then [] else [record])

/-- The texts that a `!` negates: a pattern behind a star; a text match whose value is no list and
    has no star in front; an angle bracket that stands alone; a list; a value without wildcards. -/
def Negatable : List Char → Bool
  | '*' :: _ => true
  | '~' :: value => value.isEmpty || (value.head? ≠ some '*' && (bracketRe value).isNone)
  | '>' :: value => value.isEmpty
  | '<' :: value => value.isEmpty
  | text => (bracketRe text).isSome || ('*' ∉ unquote text && '?' ∉ unquote text)

variable {field text value : List Char} {opChars : String}

/-! ## Reading a term -/

/-- The clause that `_parse_term` makes of a field, the operator characters and the
    value portion. -/
def clauseOf (field : List Char) (opChars : String) (value : List Char) : FqlClause :=
  let starred := value.head? = some '*'
  let value := if starred then value.drop 1 else value
  let operator :=
    if starred ∧ (opChars = "!" ∨ opChars = "!=") then .notWildcard
    else if starred then .wildcard
    else classifyOperator opChars value
  { field := String.ofList field, operator, values := extractValues value operator }

/-- The operator characters and the value portion behind a colon. -/
def readOperator (text : List Char) : Option (String × List Char) :=
  operatorChars.findSome? fun opChars => valuePortion opChars text

/-- What an operator leaves of a line: the text behind it, unless that is empty. -/
def portion (text : List Char) (opChars : String) : Option (String × List Char) :=
  match opChars.toList.isPrefixOf? text with
  | some (c :: rest) => some (opChars, c :: rest)
  | _ => none

lemma valuePortion_of_line (hline : '\n' ∉ text) (opChars : String) :
    valuePortion opChars text = portion text opChars := by
  rw [valuePortion, portion]
  cases h : opChars.toList.isPrefixOf? text with
  | none => rfl
  | some rest =>
    have hrest : rest.takeWhile (· ≠ '\n') = rest := by
      rw [List.takeWhile_eq_self_iff]
      intro c hc
      rw [List.isPrefixOf?_eq_some_iff_append_eq] at h
      refine decide_eq_true ?_
      rintro rfl
      exact hline (h ▸ List.mem_append_right _ hc)
    simp only [hrest]
    cases rest with
    | nil => rfl
    | cons c rest => rfl

lemma readOperator_of_line (hline : '\n' ∉ text) :
    readOperator text = operatorChars.findSome? (portion text) := by
  rw [readOperator]
  congr 1
  funext opChars
  exact valuePortion_of_line hline opChars

/-- An operator and its value stand in the first line. -/
lemma readOperator_firstLine (text : List Char) :
    readOperator text = readOperator (firstLine text) := by
  have hportion : ∀ opChars ∈ operatorChars,
      valuePortion opChars text = valuePortion opChars (firstLine text) := by
    intro opChars hop
    have hmarks : ∀ c ∈ opChars.toList, c ≠ '\n' := by
      intro c hc
      have hall : (operatorChars.all fun op => op.toList.all fun c => decide (c ≠ '\n'))
          = true := by
        decide
      exact of_decide_eq_true (List.all_eq_true.1 (List.all_eq_true.1 hall opChars hop) c hc)
    have hfront : ∀ marks : List Char, (∀ c ∈ marks, c ≠ '\n') → ∀ text : List Char,
        marks.isPrefixOf? (firstLine text) = (marks.isPrefixOf? text).map firstLine := by
      intro marks hmarks
      induction marks with
      | nil =>
        intro text
        rfl
      | cons mark marks ih =>
        intro text
        obtain ⟨hmark, hrest⟩ := List.forall_mem_cons.1 hmarks
        cases text with
        | nil => rfl
        | cons c text =>
          rw [firstLine, List.takeWhile_cons]
          by_cases hc : c = '\n'
          · have hne : (mark == c) = false := beq_eq_false_iff_ne.2 fun heq => hmark (heq.trans hc)
            rw [if_neg fun h => (of_decide_eq_true h : c ≠ '\n') hc, List.isPrefixOf?.eq_3, hne]
            rfl
          · rw [if_pos (decide_eq_true hc), List.isPrefixOf?, List.isPrefixOf?]
            cases hmark : mark == c with
            | true => exact ih hrest text
            | false => rfl
    rw [valuePortion, valuePortion, hfront _ hmarks]
    cases opChars.toList.isPrefixOf? text with
    | none => rfl
    | some rest =>
      have hidem : (firstLine rest).takeWhile (· ≠ '\n') = rest.takeWhile (· ≠ '\n') := by
        rw [firstLine, List.takeWhile_takeWhile]
        simp only [decide_eq_true_eq, and_self]
      simp only [Option.map_some, hidem]
  rw [readOperator, readOperator]
  generalize operatorChars = ops at hportion
  induction ops with
  | nil => rfl
  | cons op ops ih =>
    obtain ⟨hop, hops⟩ := List.forall_mem_cons.1 hportion
    rw [List.findSome?_cons, List.findSome?_cons, hop, ih hops]

lemma readOperator_plain {c : Char} (hline : '\n' ∉ c :: value)
    (hc : c ∉ ['~', '!', '>', '<']) : readOperator (c :: value) = some ("", c :: value) := by
  simp only [List.mem_cons, List.not_mem_nil, or_false, not_or] at hc
  obtain ⟨htilde, hbang, hgt, hlt⟩ := hc
  rw [readOperator_of_line hline]
  simp [operatorChars, portion, List.isPrefixOf?, Ne.symm htilde, Ne.symm hbang, Ne.symm hgt,
    Ne.symm hlt]

/-- A `!` is read alone, unless a `~` or a `=` and something else follow it. -/
lemma readOperator_negated {c : Char} (hline : '\n' ∉ '!' :: c :: value) (hequals : c ≠ '=')
    (htilde : c = '~' → value = []) :
    readOperator ('!' :: c :: value) = some ("!", c :: value) := by
  rw [readOperator_of_line hline]
  by_cases hc : c = '~'
  · subst hc
    rw [htilde rfl]
    rfl
  · simp [operatorChars, portion, List.isPrefixOf?, Ne.symm hc, Ne.symm hequals]

lemma readOperator_text {c : Char} (hline : '\n' ∉ '~' :: c :: value) :
    readOperator ('~' :: c :: value) = some ("~", c :: value)
      ∧ readOperator ('!' :: '~' :: c :: value) = some ("!~", c :: value) := by
  have hline' : '\n' ∉ '!' :: '~' :: c :: value := by
    rw [List.mem_cons, not_or]
    exact ⟨by decide, hline⟩
  rw [readOperator_of_line hline, readOperator_of_line hline']
  exact ⟨rfl, rfl⟩

/-- An angle bracket is read with the `=` behind it, if something follows that. -/
lemma readOperator_range {bracket c : Char} (hbracket : bracket = '>' ∨ bracket = '<')
    (hline : '\n' ∉ bracket :: c :: value) :
    ∃ op target, readOperator (bracket :: c :: value) = some (op, target)
      ∧ target.length ≤ (c :: value).length ∧ (c :: value).length ≤ target.length + 1
      ∧ op ∈ [">=", ">", "<=", "<"] := by
  rw [readOperator_of_line hline]
  by_cases hc : c = '='
  · subst hc
    cases value with
    | nil =>
      rcases hbracket with rfl | rfl
      · exact ⟨">", ['='], rfl, Nat.le_refl _, Nat.le_succ _, by decide⟩
      · exact ⟨"<", ['='], rfl, Nat.le_refl _, Nat.le_succ _, by decide⟩
    | cons d value =>
      rcases hbracket with rfl | rfl
      · exact ⟨">=", d :: value, rfl, Nat.le_succ _, Nat.le_refl _, by decide⟩
      · exact ⟨"<=", d :: value, rfl, Nat.le_succ _, Nat.le_refl _, by decide⟩
  · rcases hbracket with rfl | rfl
    · refine ⟨">", c :: value, ?_, Nat.le_refl _, Nat.le_succ _, by decide⟩
      simp [operatorChars, portion, List.isPrefixOf?, Ne.symm hc]
    · refine ⟨"<", c :: value, ?_, Nat.le_refl _, Nat.le_succ _, by decide⟩
      simp [operatorChars, portion, List.isPrefixOf?, Ne.symm hc]

/-! ## The filter of one term -/

/-- The first character of a field is a letter or an underscore, and no mark of a filter. -/
lemma fieldChar_plain {c : Char} (h : fieldChar c = true) :
    isSpace c = false ∧ c ∉ ['(', ')', '[', ']', '\'', '+', ',', ':'] := by
  refine ⟨?_, ?_⟩
  · rw [← Bool.not_eq_true]
    intro hspace
    simp only [isSpace, Bool.or_eq_true, Bool.and_eq_true, decide_eq_true_eq] at hspace
    simp only [fieldChar, Char.isAlphanum, Char.isAlpha, Char.isUpper, Char.isLower, Char.isDigit,
      Bool.or_eq_true, Bool.and_eq_true, decide_eq_true_eq, ge_iff_le,
      UInt32.le_iff_toNat_le] at h
    rcases h with (h | rfl) | rfl
    · change ((65 ≤ c.toNat ∧ c.toNat ≤ 90) ∨ (97 ≤ c.toNat ∧ c.toNat ≤ 122))
        ∨ (48 ≤ c.toNat ∧ c.toNat ≤ 57) at h
      omega
    · revert hspace
      decide
    · revert hspace
      decide
  · intro hmark
    have hno : (['(', ')', '[', ']', '\'', '+', ',', ':'].all fun c => !fieldChar c) = true := by
      decide
    have hc := List.all_eq_true.1 hno c hmark
    rw [h] at hc
    cases hc

lemma fieldStart_fieldChar {c : Char} (h : fieldStart c = true) : fieldChar c = true := by
  rw [fieldStart, Bool.or_eq_true, decide_eq_true_eq] at h
  rw [fieldChar, Bool.or_eq_true, Bool.or_eq_true, Char.isAlphanum, Bool.or_eq_true]
  rcases h with h | rfl
  · exact .inl (.inl (.inl h))
  · exact .inl (.inr (by decide))

lemma TermText.ne_nil (h : TermText field text) : text ≠ [] := by
  rintro rfl
  exact h.nonempty rfl

lemma TermText.field_chars (h : TermText field text) : ∀ c ∈ field, fieldChar c = true := by
  obtain ⟨c, rest, rfl, hc, hrest⟩ := h.field
  exact List.forall_mem_cons.2 ⟨fieldStart_fieldChar hc, List.all_eq_true.1 hrest⟩

/-- A term of a field and a text without white space at its end is not in parentheses. -/
lemma ungrouped_term {tail : List Char} (h : TermText field text) (hne : tail ≠ [])
    (hlast : ∀ c ∈ tail.getLast?, isSpace c = false) :
    ungrouped (field ++ ':' :: tail) = field ++ ':' :: tail := by
  obtain ⟨c, rest, hfield, hc, -⟩ := h.field
  obtain ⟨hspace, hmark⟩ := fieldChar_plain (fieldStart_fieldChar hc)
  have hstrip : (strip (String.ofList (field ++ ':' :: tail))).toList = field ++ ':' :: tail := by
    obtain ⟨front, d, rfl⟩ : ∃ front d, tail = front ++ [d] :=
      ⟨tail.dropLast, tail.getLast hne, (List.dropLast_append_getLast hne).symm⟩
    have hd : isSpace d = false := hlast d (by rw [List.getLast?_concat]; rfl)
    have hback : (field ++ ':' :: (front ++ [d])).reverse.dropWhile isSpace
        = (field ++ ':' :: (front ++ [d])).reverse := by
      simp only [List.reverse_append, List.reverse_cons, List.reverse_nil, List.nil_append,
        List.append_assoc, List.cons_append]
      exact List.dropWhile_cons_of_neg (by rw [hd]; exact Bool.false_ne_true)
    have hfront : (field ++ ':' :: (front ++ [d])).dropWhile isSpace
        = field ++ ':' :: (front ++ [d]) := by
      rw [hfield, List.cons_append]
      exact List.dropWhile_cons_of_neg (by rw [hspace]; exact Bool.false_ne_true)
    rw [strip, String.toList_ofList, String.toList_ofList, hfront, hback, List.reverse_reverse]
  have hopen : some '(' ≠ (field ++ ':' :: tail)[0]? := by
    rw [hfield, List.cons_append, List.getElem?_cons_zero]
    rintro ⟨⟩
    exact hmark (by decide)
  rw [ungrouped]
  simp only [hstrip]
  cases hlength : (field ++ ':' :: tail).length with
  | zero =>
    rw [List.length_append, List.length_cons] at hlength
    omega
  | succ n =>
    rw [peel, if_neg fun hpeel => hopen hpeel.2.1.symm, ← hlength, List.take_length, List.drop_zero]

lemma parseTerm_term {tail : List Char} (h : TermText field text) (hne : tail ≠ [])
    (hlast : ∀ c ∈ tail.getLast?, isSpace c = false) :
    parseTerm (field ++ ':' :: tail)
      = (readOperator tail).map fun read => clauseOf field read.1 read.2 := by
  obtain ⟨c, rest, hfield, hc, hrest⟩ := h.field
  have hcolon : fieldChar ':' = false := by decide
  have htake : (rest ++ ':' :: tail).takeWhile fieldChar = rest := by
    rw [List.takeWhile_append_of_pos (List.all_eq_true.1 hrest), List.takeWhile_cons, hcolon]
    exact List.append_nil _
  have hdrop : (rest ++ ':' :: tail).dropWhile fieldChar = ':' :: tail := by
    rw [List.dropWhile_append_of_pos (List.all_eq_true.1 hrest), List.dropWhile_cons, hcolon]
    rfl
  rw [parseTerm, ungrouped_term h hne hlast, hfield, List.cons_append, termRe]
  simp only [hc, if_true, hdrop, htake, Option.map_map]
  rfl

/-- The characters of a field are read with nothing open, and are no delimiters. -/
lemma uncut_field {d : Char} (h : ∀ c ∈ field, fieldChar c = true) (hd : d ∈ ['+', ','])
    {tail : List Char} (htail : Delimited.Uncut Scan.next Scan.closed d Scan.closed tail) :
    Delimited.Uncut Scan.next Scan.closed d Scan.closed (field ++ ':' :: tail) := by
  have hstay : ∀ c, c ∉ ['(', ')', '[', ']', '\'', '+', ','] →
      Scan.next Scan.closed c = Scan.closed ∧ c ≠ d := by
    intro c hc
    simp only [List.mem_cons, List.not_mem_nil, or_false, not_or] at hc hd
    obtain ⟨hopen, hclose, hbracket, hbracket', hquote, hplus, hcomma⟩ := hc
    refine ⟨?_, ?_⟩
    · rw [Scan.next, if_neg fun h => hquote h.1, if_neg fun h => hbracket h.1,
        if_neg fun h => hbracket' h.1, if_neg fun h => hopen h.1, if_neg fun h => hclose h.1]
    · rintro rfl
      exact hd.elim hplus hcomma
  induction field with
  | nil =>
    obtain ⟨hnext, hne⟩ := hstay ':' (by decide)
    rw [List.nil_append, Delimited.Uncut, hnext]
    exact ⟨fun h => hne h.1, htail⟩
  | cons c field ih =>
    obtain ⟨hc, hfield⟩ := List.forall_mem_cons.1 h
    have hmark := (fieldChar_plain hc).2
    obtain ⟨hnext, hne⟩ := hstay c fun hmem => hmark (by
      simp only [List.mem_cons, List.not_mem_nil, or_false] at hmem ⊢
      tauto)
    rw [List.cons_append, Delimited.Uncut, hnext]
    exact ⟨fun h => hne h.1, ih hfield⟩

/-- A filter of one term keeps the records that its clause matches. -/
lemma applyFql_term {py : QueryPython} {ρ : Type} {lookup : ρ → String → Json} {raw : List Char}
    {clause : FqlClause}
    (hraw : ∀ d ∈ ['+', ','], Delimited.Uncut Scan.next Scan.closed d Scan.closed raw)
    (hblank : blank raw = false) (hparse : parseTerm raw = some clause)
    (hconjunction : clause.conjunction = .and) (record : ρ) :
    applyFql py lookup [record] raw
      = (matchClause py lookup record clause).map fun kept => if kept then [record] else [] := by
  have hplus : smartSplit raw '+' = [raw] := Delimited.cutFrom_of_uncut (hraw '+' (by decide))
  have hcomma : smartSplit raw ',' = [raw] := Delimited.cutFrom_of_uncut (hraw ',' (by decide))
  have hclause : { clause with conjunction := .and } = clause := by
    rw [← hconjunction]
  have hgroup : groupClauses raw = [clause] := by
    rw [groupClauses, hcomma]
    simp only [hparse]
    exact congrArg (fun c => [c]) hclause
  have hfql : parseFql raw = .ok [clause] := by
    rw [parseFql, hblank, hplus, List.flatMap_singleton, hgroup]
    rfl
  have hpasses : passes py lookup [[clause]] record = matchClause py lookup record clause := by
    rw [passes, List.allM, List.anyM]
    cases matchClause py lookup record clause with
    | error failure => rfl
    | ok kept => cases kept <;> rfl
  rw [applyFql, hfql]
  change passing py lookup [[clause]] [record] = _
  rw [passing, hpasses]
  cases matchClause py lookup record clause with
  | error failure => rfl
  | ok kept => rfl

/-! ## Clauses -/

/-- What a clause says of the value of its field. -/
def answer (py : QueryPython) (v : Json) (operator : Operator) (values : List String) :
    Except Failure Bool :=
  matchClause py (fun v _ => v) v ⟨"", operator, values, .and⟩

/-- Of every value, exactly one of two clauses keeps it. -/
def Opposite (py : QueryPython) (k k' : FqlClause) : Prop :=
  ∀ v : Json, ∃ kept : Bool, answer py v k.operator k.values = .ok kept
    ∧ answer py v k'.operator k'.values = .ok !kept

variable {py : QueryPython}

lemma matchClause_eq_answer {ρ : Type} (lookup : ρ → String → Json) (record : ρ)
    (k : FqlClause) :
    matchClause py lookup record k = answer py (lookup record k.field) k.operator k.values := by
  rw [answer, matchClause, matchClause]

/-- A record in which a value stands at a path. -/
def nest (v : Json) : List String → Json
  | [] => v
  | part :: path => .dict [(part, nest v path)]

lemma getNested_nest (v : Json) (path : String) :
    getNested py.toPython (nest v (split '.' path)) path = v := by
  rw [getNested]
  generalize split '.' path = parts
  induction parts with
  | nil => rfl
  | cons part parts ih =>
    rw [List.foldl_cons, nest]
    change List.foldl _ ((Assoc.get part [(part, nest v parts)]).getD .null) parts = v
    rw [Assoc.get_cons, if_pos rfl]
    exact ih

/-- A term and the negated term are complements exactly if their clauses are opposites. -/
lemma complementary_iff_opposite (h : TermText field text) {op op' : String}
    {value value' : List Char} (hplain : readOperator text = some (op, value))
    (hnegated : readOperator ('!' :: text) = some (op', value')) :
    Complementary py field text
      ↔ Opposite py (clauseOf field op value) (clauseOf field op' value') := by
  have hblank : ∀ tail, blank (field ++ ':' :: tail) = false := by
    intro tail
    obtain ⟨c, rest, rfl, hc, -⟩ := h.field
    rw [blank, List.cons_append, List.all_cons, (fieldChar_plain (fieldStart_fieldChar hc)).1]
    rfl
  have hlast : ∀ c ∈ ('!' :: text).getLast?, isSpace c = false := by
    rw [List.getLast?_cons_of_ne_nil h.ne_nil]
    exact h.last
  have hbang : ∀ d ∈ ['+', ','],
      Delimited.Uncut Scan.next Scan.closed d Scan.closed ('!' :: text) := by
    intro d hd
    refine ⟨?_, h.whole d hd⟩
    rintro ⟨rfl, -⟩
    revert hd
    decide
  have hterm : ∀ record : Json, applyFql py (getNested py.toPython) [record] (term field text)
      = (matchClause py (getNested py.toPython) record (clauseOf field op value)).map
        fun kept => if kept then [record] else [] :=
    applyFql_term (fun d hd => uncut_field h.field_chars hd (h.whole d hd)) (hblank text)
      (by rw [term, parseTerm_term h h.ne_nil h.last, hplain]; rfl) rfl
  have hterm' : ∀ record : Json, applyFql py (getNested py.toPython) [record] (negated field text)
      = (matchClause py (getNested py.toPython) record (clauseOf field op' value')).map
        fun kept => if kept then [record] else [] :=
    applyFql_term (fun d hd => uncut_field h.field_chars hd (hbang d hd)) (hblank _)
      (by rw [negated, parseTerm_term h (List.cons_ne_nil _ _) hlast, hnegated]; rfl) rfl
  have hone : ∀ (record : Json) (kept : Bool) (x : Except Failure Bool),
      x.map (fun kept => if kept then [record] else []) = .ok (if kept then [record] else [])
        ↔ x = .ok kept := by
    intro record kept x
    cases x with
    | error failure => exact ⟨nofun, nofun⟩
    | ok kept' => cases kept <;> cases kept' <;> simp [Except.map]
  have hother : ∀ (record : Json) (kept : Bool),
      (if kept then [] else [record]) = if !kept then [record] else [] := by
    intro record kept
    cases kept <;> rfl
  simp only [Complementary, hterm, hterm', hother, hone, matchClause_eq_answer]
  constructor
  · intro hcomplementary v
    have hv := hcomplementary (nest v (split '.' (String.ofList field)))
    rw [show (clauseOf field op value).field = String.ofList field from rfl,
      show (clauseOf field op' value').field = String.ofList field from rfl,
      getNested_nest] at hv
    exact hv
  · intro hopposite record
    exact hopposite _

/-- The operators that say the contrary of another one. -/
def contrary : Operator → Option Operator
  | .eq => some .neq
  | .wildcard => some .notWildcard
  | .text => some .notText
  | .isIn => some .nin
  | _ => none

/-- A clause of one value, or of a list, and the one of the contrary operator are opposites. -/
lemma opposite_of_contrary {k k' : FqlClause} (h : contrary k.operator = some k'.operator)
    (hvalues : k'.values = k.values) : Opposite py k k' := by
  intro v
  rw [hvalues]
  obtain ⟨name, operator, values, conjunction⟩ := k
  obtain ⟨name', operator', values', conjunction'⟩ := k'
  dsimp only at h ⊢
  have hpairs : ∀ p : String → String → Bool,
      ((candidateValues py v).all fun c => values.all fun u => !p c u)
        = !(candidateValues py v).any fun c => values.any (p c) := by
    intro p
    simp only [List.not_any_eq_all_not]
  have hlist : ((candidateValues py v).all fun c => !values.contains c)
      = !(candidateValues py v).any fun c => values.contains c := List.not_any_eq_all_not.symm
  cases operator with
  | eq =>
    cases h
    refine ⟨_, rfl, ?_⟩
    rw [← hpairs]
    simp only [answer, matchClause, decide_not]
  | wildcard =>
    cases h
    exact ⟨_, rfl, congrArg Except.ok (hpairs _)⟩
  | text =>
    cases h
    exact ⟨_, rfl, congrArg Except.ok (hpairs _)⟩
  | isIn =>
    cases h
    exact ⟨_, rfl, congrArg Except.ok hlist⟩
  | _ => cases h

lemma not_opposite_self {k k' : FqlClause} (hoperator : k'.operator = k.operator)
    (hvalues : k'.values = k.values) : ¬ Opposite py k k' := by
  intro h
  obtain ⟨kept, hkept, hother⟩ := h .null
  rw [hoperator, hvalues, hkept] at hother
  cases kept <;> cases hother

/-- What is opposite to being another text than `w` is being `w`. -/
lemma Opposite.only {k k' : FqlClause} {w : String} (h : Opposite py k k')
    (hoperator : k'.operator = .neq) (hvalues : k'.values = [w]) (c : String) :
    answer py (.str c) k.operator k.values = .ok (decide (c = w)) := by
  obtain ⟨kept, hkept, hother⟩ := h (.str c)
  have hneq : answer py (.str c) .neq [w] = .ok (decide (c ≠ w)) := by
    simp [answer, matchClause, candidateValues, Python.toStr]
  rw [hoperator, hvalues, hneq] at hother
  rw [hkept]
  have hdecide := Except.ok.inj hother
  rw [decide_not] at hdecide
  rw [Bool.not_inj hdecide]

lemma answer_wildcard (c p : String) :
    answer py (.str c) .wildcard [p] = .ok (fnmatch c p) := by
  simp [answer, matchClause, candidateValues, Python.toStr]

lemma answer_isIn (c : String) (values : List String) :
    answer py (.str c) .isIn values = .ok (values.contains c) := by
  simp [answer, matchClause, candidateValues, Python.toStr]

lemma answer_range (c u : String) (op : RangeOp) :
    answer py (.str c) (.range op) [u] = compareRange py (.str c) u op := by
  change ([u] : List String).allM (fun v => compareRange py (.str c) v op) = _
  rw [List.allM]
  cases compareRange py (.str c) u op with
  | error failure => rfl
  | ok kept => cases kept <;> rfl

lemma length_of_wildcard {w p : String}
    (h : ∀ c, answer py (.str c) .wildcard [p] = .ok (decide (c = w))) :
    w.toList.length ≤ p.toList.length ∧ (w = p → '*' ∉ p.toList ∧ '?' ∉ p.toList) := by
  have honly : ∀ c, fnmatch c p = true ↔ c = w := by
    intro c
    have hc := h c
    rw [answer_wildcard] at hc
    rw [Except.ok.inj hc, decide_eq_true_eq]
  refine ⟨length_le_of_only honly, ?_⟩
  rintro rfl
  exact plain_of_only_itself honly

/-! ## Ranges -/

section Range

variable {py : FqlPython}

lemma mem_replaceFrom {c d : Char} {new l : List Char} (h : c ∈ l) (hc : c ≠ d) :
    c ∈ replaceFrom [d] new 0 l := by
  induction l with
  | nil => cases h
  | cons x l ih =>
    rw [replaceFrom]
    split
    · next hx =>
      have hxd : d = x := by
        rw [List.isPrefixOf, Bool.and_eq_true, beq_iff_eq] at hx
        exact hx.1
      refine List.mem_append_right _ (ih ((List.mem_cons.1 h).resolve_left ?_))
      rintro rfl
      exact hc hxd.symm
    · rcases List.mem_cons.1 h with rfl | h
      · exact List.mem_cons_self
      · exact List.mem_cons_of_mem _ (ih h)

lemma asDatetime_bracket {w : String} (h : '<' ∈ w.toList ∨ '>' ∈ w.toList) :
    asDatetime py.toQueryPython (.str w) = none := by
  have hmem : ∀ c : Char, c ∈ w.toList → isSpace c = false → c ≠ 'Z' →
      c ∈ (replace "Z" "+00:00" (strip w)).toList := by
    intro c hc hspace hne
    rw [replace, String.toList_ofList]
    exact mem_replaceFrom (mem_strip hc hspace) hne
  refine py.fromisoformat_marks _ ?_
  exact h.imp (fun h => hmem '<' h (by decide) (by decide))
    fun h => hmem '>' h (by decide) (by decide)

lemma compareRange_text {c u : String} (op : RangeOp)
    (hrelative : relativeMoment py.toQueryPython u = .ok none) (hc : py.float c = none) :
    compareRange py.toQueryPython (.str c) u op = .ok (op.between c u) := by
  have hstr : py.toStr (.str c) = c := rfl
  rw [compareRange]
  · rw [hrelative, hstr, hc]
    rfl
  · exact nofun

lemma compareRange_moment {w u : String} (op : RangeOp) {moment : Int}
    (hrelative : relativeMoment py.toQueryPython u = .ok (some moment))
    (hw : '<' ∈ w.toList ∨ '>' ∈ w.toList) :
    compareRange py.toQueryPython (.str w) u op = .ok false := by
  rw [compareRange]
  · rw [hrelative]
    dsimp only [bind, Except.bind]
    rw [asDatetime_bracket hw]
  · rintro ⟨⟩

lemma lt_append_mark (u : String) : u < u ++ "<<<<<<<<" := by
  rw [String.lt_iff_toList_lt, String.toList_append]
  conv_lhs => rw [← List.append_nil u.toList]
  exact List.append_left_lt (by decide)

lemma empty_lt {u : String} (hu : u ≠ "") : "" < u := by
  rw [String.lt_iff_toList_lt]
  cases h : u.toList with
  | nil => exact absurd (String.toList_eq_nil_iff.1 h) hu
  | cons c rest => exact List.nil_lt_cons c rest

/-- No range keeps exactly the text of one value that starts with an angle bracket. -/
lemma range_not_only {op : RangeOp} {u w : String} (hw : '<' ∈ w.toList ∨ '>' ∈ w.toList)
    (hlength : w.toList.length < u.toList.length + 8) :
    ¬ ∀ c, answer py.toQueryPython (.str c) (.range op) [u] = .ok (decide (c = w)) := by
  intro honly
  simp only [answer_range] at honly
  have hself : compareRange py.toQueryPython (.str w) u op = .ok true := by
    rw [honly, decide_eq_true rfl]
  cases hrelative : relativeMoment py.toQueryPython u with
  | error failure =>
    rw [compareRange, hrelative] at hself
    · cases hself
    · exact nofun
  | ok found =>
    cases found with
    | some moment =>
      rw [compareRange_moment op hrelative hw] at hself
      cases hself
    | none =>
      -- what is no number and in the range is `w`
      have htext : ∀ c, py.float c = none → op.between c u = true → c = w := by
        intro c hc hbetween
        have h := honly c
        rw [compareRange_text op hrelative hc, hbetween] at h
        exact of_decide_eq_true (Except.ok.inj h).symm
      have hbehind : ¬ op.between (u ++ "<<<<<<<<") u = true := by
        intro h
        have hmark : '<' ∈ (u ++ "<<<<<<<<").toList := by
          rw [String.toList_append]
          exact List.mem_append_right _ (by decide)
        have heq := htext _ (py.float_marks _ (.inr (.inl hmark))) h
        rw [← heq, String.toList_append, List.length_append] at hlength
        exact lt_irrefl _ hlength
      have hempty : ¬ op.between "" u = true := by
        intro h
        rw [← htext "" (py.float_marks _ (.inl rfl)) h] at hw
        exact hw.elim (nomatch ·) (nomatch ·)
      have hlt := lt_append_mark u
      cases op with
      | gte => exact hbehind (by rw [RangeOp.between, decide_eq_false hlt.asymm]; rfl)
      | gt => exact hbehind (decide_eq_true hlt)
      | lte =>
        refine hempty ?_
        rw [RangeOp.between, Bool.not_eq_true', decide_eq_false_iff_not]
        exact fun h => List.not_lt_nil _ (String.lt_iff_toList_lt.1 h)
      | lt =>
        by_cases hu : u = ""
        · subst hu
          rw [compareRange_text .lt hrelative (py.float_marks _ (.inr hw))] at hself
          exact List.not_lt_nil _
              (String.lt_iff_toList_lt.1 (of_decide_eq_true (Except.ok.inj hself)))
        · exact hempty (decide_eq_true (empty_lt hu))

end Range

/-! ## The lengths of values -/

/-- What stands between two characters is shorter, by a line feed at the end at most. -/
lemma length_between {first last : Char} {value inner : List Char}
    (h : between first last value = some inner) :
    inner.length + 2 ≤ value.length ∧ value.length ≤ inner.length + 3 := by
  have hend : (beforeEnd value).length ≤ value.length
      ∧ value.length ≤ (beforeEnd value).length + 1 := by
    rw [beforeEnd]
    split
    · rw [List.length_dropLast]
      omega
    · omega
  rw [between] at h
  split at h
  · next c rest hvalue =>
    split at h
    · next hends =>
      cases h
      rw [hvalue, List.length_cons] at hend
      have hne : rest ≠ [] := by
        rintro rfl
        exact nomatch hends.2.1
      have := List.length_pos_iff.2 hne
      rw [List.length_dropLast]
      omega
    · cases h
  · cases h

lemma length_unquote (value : List Char) :
    (unquote value).length ≤ value.length ∧ value.length ≤ (unquote value).length + 3 := by
  rw [unquote]
  cases h : quotedRe value with
  | none =>
    rw [Option.getD_none]
    omega
  | some inner =>
    have := length_between h
    rw [Option.getD_some]
    omega

lemma length_of_mem_splitOn {d : Char} {l part : List Char} (h : part ∈ l.splitOn d) :
    part.length ≤ l.length := by
  have hmem : part ∈ (l.splitOn d).intersperse [d] := by
    generalize l.splitOn d = parts at h
    induction parts with
    | nil => cases h
    | cons first parts ih =>
      cases parts with
      | nil => exact h
      | cons second parts =>
        rw [List.intersperse_cons_cons, List.mem_cons, List.mem_cons]
        exact (List.mem_cons.1 h).imp id fun h => .inr (ih h)
  rw [← @List.intercalate_splitOn _ l _ _ d]
  exact (List.sublist_flatten_of_mem hmem).length_le

lemma mem_of_mem_bracketItems {item : List Char} {parts : List (List Char)}
    (h : item ∈ bracketItems parts) : item ∈ parts := by
  induction parts using bracketItems.induct with
  | case1 first last =>
    rw [bracketItems] at h
    cases h
  | case2 first second head tail ih =>
    rw [bracketItems] at h
    rcases List.mem_cons.1 h with rfl | h
    · exact List.mem_cons_of_mem _ List.mem_cons_self
    · exact List.mem_cons_of_mem _ (List.mem_cons_of_mem _ (ih h))
  | case3 parts hparts =>
    rw [bracketItems] at h
    · cases h
    · exact hparts

lemma length_item {value inner : List Char} {item : String} (h : bracketRe value = some inner)
    (hitem : item ∈ (bracketItems (inner.splitOn '\'')).map String.ofList) :
    item.toList.length ≤ value.length := by
  obtain ⟨chars, hchars, rfl⟩ := List.mem_map.1 hitem
  rw [String.toList_ofList]
  have hinner := (length_between (Option.filter_eq_some_iff.1 h).1).1
  have hpart := length_of_mem_splitOn (mem_of_mem_bracketItems hchars)
  omega

/-! ## Negation -/

section Negation

variable {py : FqlPython}

/-- What `_extract_values` takes from a value that is no list. -/
lemma extractValues_single (operator : Operator) (h : operator ≠ .isIn) (h' : operator ≠ .nin) :
    extractValues value operator = [String.ofList (unquote value)] := by
  rw [extractValues, if_neg fun hlist => hlist.elim h h']

/-- What `_extract_values` takes from a list. -/
lemma extractValues_list {operator : Operator} {inner : List Char}
    (h : operator = .isIn ∨ operator = .nin) (hbracket : bracketRe value = some inner) :
    extractValues value operator = (bracketItems (inner.splitOn '\'')).map String.ofList := by
  rw [extractValues, if_pos h, hbracket]

lemma clauseOf_star (field : List Char) (opChars : String) (value : List Char) :
    (clauseOf field opChars ('*' :: value)).operator
        = (if opChars = "!" ∨ opChars = "!=" then .notWildcard else .wildcard)
      ∧ (clauseOf field opChars ('*' :: value)).values = [String.ofList (unquote value)] := by
  have hoperator : (clauseOf field opChars ('*' :: value)).operator
      = (if opChars = "!" ∨ opChars = "!=" then .notWildcard else .wildcard) := by
    rw [clauseOf]
    simp only [List.head?_cons, true_and, if_true]
  have hvalues : (clauseOf field opChars ('*' :: value)).values
      = extractValues value (clauseOf field opChars ('*' :: value)).operator := by
    rw [clauseOf]
    simp only [List.head?_cons, if_true, List.drop_one, List.tail_cons]
  refine ⟨hoperator, hvalues.trans (extractValues_single _ ?_ ?_)⟩
  · rw [hoperator]
    split <;> exact nofun
  · rw [hoperator]
    split <;> exact nofun

lemma clauseOf_plain (field : List Char) (opChars : String) (h : value.head? ≠ some '*') :
    (clauseOf field opChars value).operator = classifyOperator opChars value
      ∧ (clauseOf field opChars value).values
        = extractValues value (classifyOperator opChars value) := by
  rw [clauseOf]
  simp only [h, false_and, if_false, and_self]

lemma opposite_list {inner : List Char} (hstar : value.head? ≠ some '*')
    (hbracket : bracketRe value = some inner) :
    Opposite py.toQueryPython (clauseOf field "" value) (clauseOf field "!" value) := by
  obtain ⟨hoperator, hvalues⟩ := clauseOf_plain field "" hstar
  obtain ⟨hoperator', hvalues'⟩ := clauseOf_plain field "!" hstar
  have hsome : (bracketRe value).isSome = true := by
    rw [hbracket]
    rfl
  have hin : classifyOperator "" value = .isIn := by
    rw [classifyOperator, if_pos hsome, if_neg (by decide)]
  have hnin : classifyOperator "!" value = .nin := by
    rw [classifyOperator, if_pos hsome, if_pos (.inl rfl)]
  refine opposite_of_contrary ?_ ?_
  · rw [hoperator, hoperator', hin, hnin]
    rfl
  · rw [hvalues, hvalues', hin, hnin, extractValues_list (.inl rfl) hbracket,
      extractValues_list (.inr rfl) hbracket]

/-- What a value that is no list and has no star in front is read as behind a `!`. -/
lemma clauseOf_negated (field : List Char) (hstar : value.head? ≠ some '*')
    (hbracket : bracketRe value = none) :
    (clauseOf field "!" value).operator = .neq
      ∧ (clauseOf field "!" value).values = [String.ofList (unquote value)] := by
  obtain ⟨hoperator, hvalues⟩ := clauseOf_plain field "!" hstar
  have hneq : classifyOperator "!" value = .neq := by
    rw [classifyOperator, hbracket]
    rfl
  rw [hneq] at hoperator hvalues
  exact ⟨hoperator, hvalues.trans (extractValues_single .neq nofun nofun)⟩

/-- A negated value that is no list: the value must have no wildcards. -/
lemma opposite_single (hstar : value.head? ≠ some '*') (hbracket : bracketRe value = none) :
    Opposite py.toQueryPython (clauseOf field "" value) (clauseOf field "!" value)
      ↔ '*' ∉ unquote value ∧ '?' ∉ unquote value := by
  obtain ⟨hoperator, hvalues⟩ := clauseOf_plain field "" hstar
  obtain ⟨hneq, hnegated⟩ := clauseOf_negated field hstar hbracket
  by_cases hwild : '*' ∈ unquote value ∨ '?' ∈ unquote value
  · have hwildcard : classifyOperator "" value = .wildcard := by
      rw [classifyOperator, hbracket]
      exact if_pos hwild
    rw [hwildcard] at hoperator hvalues
    rw [extractValues_single .wildcard nofun nofun] at hvalues
    refine iff_of_false (fun h => ?_) (fun h => hwild.elim h.1 h.2)
    have honly := h.only hneq hnegated
    rw [hoperator, hvalues] at honly
    have hplain := (length_of_wildcard honly).2 rfl
    rw [String.toList_ofList] at hplain
    exact hwild.elim hplain.1 hplain.2
  · have heq : classifyOperator "" value = .eq := by
      rw [classifyOperator, hbracket]
      exact if_neg hwild
    rw [heq] at hoperator hvalues
    rw [extractValues_single .eq nofun nofun] at hvalues
    refine iff_of_true (opposite_of_contrary ?_ ?_) (not_or.1 hwild)
    · rw [hoperator, hneq]
      rfl
    · rw [hvalues, hnegated]

/-- A negated text match: its value must be no list and have no star in front. -/
lemma opposite_text :
    Opposite py.toQueryPython (clauseOf field "~" value) (clauseOf field "!~" value)
      ↔ value.head? ≠ some '*' ∧ bracketRe value = none := by
  by_cases hstar : value.head? = some '*'
  · obtain ⟨rest, rfl⟩ : ∃ rest, value = '*' :: rest := by
      cases value with
      | nil => cases hstar
      | cons c rest => exact ⟨rest, congrArg (· :: rest) (Option.some.inj hstar)⟩
    obtain ⟨hoperator, hvalues⟩ := clauseOf_star field "~" rest
    obtain ⟨hoperator', hvalues'⟩ := clauseOf_star field "!~" rest
    rw [if_neg (by decide)] at hoperator hoperator'
    exact iff_of_false (not_opposite_self (hoperator'.trans hoperator.symm)
      (hvalues'.trans hvalues.symm)) (fun h => h.1 hstar)
  · obtain ⟨hoperator, hvalues⟩ := clauseOf_plain field "~" hstar
    obtain ⟨hoperator', hvalues'⟩ := clauseOf_plain field "!~" hstar
    cases hbracket : bracketRe value with
    | some inner =>
      have hin : ∀ opChars ∈ ["~", "!~"], classifyOperator opChars value = .isIn := by
        intro opChars hop
        rw [classifyOperator, hbracket, if_pos Option.isSome_some]
        refine if_neg ?_
        rintro (rfl | rfl) <;> revert hop <;> decide
      rw [hin "~" (by decide)] at hoperator hvalues
      rw [hin "!~" (by decide)] at hoperator' hvalues'
      exact iff_of_false (not_opposite_self (hoperator'.trans hoperator.symm)
        (hvalues'.trans hvalues.symm)) (fun h => nomatch h.2)
    | none =>
      have htext : classifyOperator "~" value = .text := by
        rw [classifyOperator, hbracket]
        rfl
      have hnotText : classifyOperator "!~" value = .notText := by
        rw [classifyOperator, hbracket]
        rfl
      rw [htext, extractValues_single .text nofun nofun] at hvalues
      rw [hnotText, extractValues_single .notText nofun nofun] at hvalues'
      refine iff_of_true (opposite_of_contrary ?_ (hvalues'.trans hvalues.symm)) ⟨hstar, rfl⟩
      rw [hoperator, hoperator', htext, hnotText]
      rfl

/-- A range is not what a negated text that starts with an angle bracket says. -/
lemma not_opposite_range {bracket : Char} {op : String} {target : List Char}
    (hbracket : bracket = '>' ∨ bracket = '<') (hop : op ∈ [">=", ">", "<=", "<"])
    (hshort : target.length ≤ value.length) (hlong : value.length ≤ target.length + 1) :
    ¬ Opposite py.toQueryPython (clauseOf field op target)
      (clauseOf field "!" (bracket :: value)) := by
  intro h
  have hmark : bracket ≠ '*' ∧ bracket ≠ '[' ∧ bracket ≠ '\'' := by
    rcases hbracket with rfl | rfl <;> decide
  have hbetween : ∀ first last, bracket ≠ first → between first last (bracket :: value) = none := by
    intro first last hne
    rw [between]
    split
    · next c rest hend =>
      have hc : c = bracket := by
        rw [beforeEnd] at hend
        split at hend
        · cases value with
          | nil => cases hend
          | cons d value => exact (List.cons.inj hend).1.symm
        · exact (List.cons.inj hend).1.symm
      rw [if_neg fun hends => hne (hc ▸ hends.1)]
    · rfl
  have hhead : (bracket :: value).head? ≠ some '*' := fun hhead => hmark.1 (Option.some.inj hhead)
  have hlist : bracketRe (bracket :: value) = none := by
    rw [bracketRe, hbetween _ _ hmark.2.1]
    rfl
  have hunquote : unquote (bracket :: value) = bracket :: value := by
    rw [unquote, quotedRe, hbetween _ _ hmark.2.2]
    rfl
  obtain ⟨hneq, hnegated⟩ := clauseOf_negated field hhead hlist
  rw [hunquote] at hnegated
  have honly := h.only hneq hnegated
  have hlength : (String.ofList (bracket :: value)).toList.length = value.length + 1 := by
    rw [String.toList_ofList, List.length_cons]
  have hin : '<' ∈ (String.ofList (bracket :: value)).toList
      ∨ '>' ∈ (String.ofList (bracket :: value)).toList := by
    rw [String.toList_ofList]
    rcases hbracket with rfl | rfl
    · exact .inr List.mem_cons_self
    · exact .inl List.mem_cons_self
  have hbang : ¬ (op = "!" ∨ op = "!=") := by
    rintro (rfl | rfl) <;> revert hop <;> decide
  by_cases hstar : target.head? = some '*'
  · obtain ⟨rest, rfl⟩ : ∃ rest, target = '*' :: rest := by
      cases target with
      | nil => cases hstar
      | cons c rest => exact ⟨rest, congrArg (· :: rest) (Option.some.inj hstar)⟩
    obtain ⟨hoperator, hvalues⟩ := clauseOf_star field op rest
    rw [if_neg hbang] at hoperator
    rw [hoperator, hvalues] at honly
    have hpattern := (length_of_wildcard honly).1
    rw [hlength, String.toList_ofList] at hpattern
    have := (length_unquote rest).1
    rw [List.length_cons] at hshort
    omega
  · obtain ⟨hoperator, hvalues⟩ := clauseOf_plain field op hstar
    rw [hoperator, hvalues] at honly
    cases htarget : bracketRe target with
    | some inner =>
      have hisIn : classifyOperator op target = .isIn := by
        rw [classifyOperator, htarget, if_pos Option.isSome_some]
        exact if_neg hbang
      rw [hisIn, extractValues_list (.inl rfl) htarget] at honly
      have hitem := honly (String.ofList (bracket :: value))
      rw [answer_isIn, decide_eq_true rfl] at hitem
      have hshorter := length_item htarget
        (List.contains_iff_mem.1 (Except.ok.inj hitem))
      omega
    | none =>
      obtain ⟨range, hrange⟩ : ∃ range, classifyOperator op target = .range range := by
        rw [classifyOperator, htarget]
        simp only [List.mem_cons, List.not_mem_nil, or_false] at hop
        rcases hop with rfl | rfl | rfl | rfl
        · exact ⟨_, rfl⟩
        · exact ⟨_, rfl⟩
        · exact ⟨_, rfl⟩
        · exact ⟨_, rfl⟩
      rw [hrange, extractValues_single (.range range) nofun nofun] at honly
      refine range_not_only hin ?_ honly
      rw [hlength, String.toList_ofList]
      have := (length_unquote target).2
      omega

end Negation

/-! ## The kinds of terms -/

/-- The built-ins on ASCII text, with numbers read from what has no mark in it. -/
def asciiFqlPython : FqlPython where
  toQueryPython := { asciiQueryPython with
    float := fun s =>
      if s = "" ∨ '<' ∈ s.toList ∨ '>' ∈ s.toList then none else asciiQueryPython.float s }
  float_marks _ h := if_pos h
  fromisoformat_marks _ _ := rfl

lemma termText_quoted : TermText "status".toList "'new'".toList where
  field := ⟨'s', "tatus".toList, rfl, by decide, by decide⟩
  nonempty := by decide
  last := by
    rintro c ⟨⟩
    decide
  plain := by decide
  whole := by simp [Delimited.Uncut, Scan.next, Scan.closed]

lemma termText_range : TermText "severity".toList ">5".toList where
  field := ⟨'s', "everity".toList, rfl, by decide, by decide⟩
  nonempty := by decide
  last := by
    rintro c ⟨⟩
    decide
  plain := by decide
  whole := by simp [Delimited.Uncut, Scan.next, Scan.closed]

end Fql

end Mockdr
