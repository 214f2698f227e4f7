import Mockdr.Splunk.SplTokens

/-!
# Arithmetic expressions and their texts

* `Arith` is an arithmetic expression as it is written: fields, numbers, the operators `+`, `-`,
  `*`, `/` and `%` with the white space around them, and parentheses. `render` is its text and
  `tree` what it means: `+` and `-` are left associative, and the others bind tighter.
* `tokens` are the tokens of the text. A minus that stands directly in front of a digit is read as
  the sign of the number (`glued`).
* `lexes_render`: these are the tokens that are read.
-/

namespace Mockdr

namespace Splunk

namespace Spl

/-- The built-ins of arithmetic expressions, with what `upper` makes of their tokens. -/
structure ArithPython extends SplPython where
  /-- `str.upper` of a character -/
  upperChar : Char → List Char
  /-- `str.upper` goes through a text character by character -/
  upper_eq : ∀ s, upper s = String.ofList (s.toList.flatMap upperChar)
  /-- the characters of ASCII -/
  upperChar_ascii : ∀ c : Char, c.toNat < 128 → upperChar c = [c.toUpper]
  /-- a digit has no upper case -/
  upperChar_digit : ∀ c, isDigit c = true → upperChar c = [c]
  /-- `\d`, of the characters of ASCII -/
  isDigit_ascii : ∀ c : Char, c.toNat < 128 → isDigit c = c.isDigit
  /-- white space is no digit -/
  isDigit_space : ∀ c, isSpace c = true → isDigit c = false

/-- `+` and `-` -/
inductive PlusOp where
  | add
  | sub
  deriving DecidableEq

/-- `*`, `/` and `%` -/
inductive TimesOp where
  | mul
  | div
  | mod

/-- An operator of a `BinOp`. -/
def PlusOp.op : PlusOp → ArithOp
  | .add => .add
  | .sub => .sub

def PlusOp.char : PlusOp → Char
  | .add => '+'
  | .sub => '-'

def TimesOp.op : TimesOp → ArithOp
  | .mul => .mul
  | .div => .div
  | .mod => .mod

def TimesOp.char : TimesOp → Char
  | .mul => '*'
  | .div => '/'
  | .mod => '%'

/-- White space, or none. -/
abbrev Gap := { l : List Char // ∀ c ∈ l, isSpace c = true }

variable (py : ArithPython)

/-- The text of a number. -/
def numeral (negative : Bool) (digits decimals : List Char) : List Char :=
  (if negative then ['-'] else []) ++ (digits ++ if decimals = [] then [] else '.' :: decimals)

/-- A field, whose name is a word or in single quotes, or a number. -/
inductive Atom where
  | field (name : List Char) (hne : name ≠ []) (hword : name.all (isWordChar .eval) = true)
      (hfirst : ∀ c ∈ name.head?, py.isDigit c = false ∧ c ≠ '"' ∧ c ≠ '\'')
      (hkeyword : py.upper (String.ofList name) ∉ ["AND", "OR", "NOT"])
  | quoted (name : List Char) (hplain : ∀ c ∈ name, c ≠ '\'' ∧ c ≠ '\\')
  | number (negative : Bool) (digits decimals : List Char) (value : Value) (hne : digits ≠ [])
      (hdigits : digits.all py.isDigit = true) (hdecimals : decimals.all py.isDigit = true)
      (hvalue : numberOf py.toSplPython (String.ofList (numeral negative digits decimals))
          = some value)

/-- What an expression is part of. -/
inductive Level where
  | factor
  | product
  | sum

/-- An arithmetic expression as it is written. -/
inductive Arith : Level → Type where
  | atom (a : Atom py) : Arith .factor
  | group (before : Gap) (e : Arith .sum) (after : Gap) : Arith .factor
  | factor (e : Arith .factor) : Arith .product
  | times (l : Arith .product) (before : Gap) (op : TimesOp) (after : Gap) (r : Arith .factor) :
      Arith .product
  | product (e : Arith .product) : Arith .sum
  | plus (l : Arith .sum) (before : Gap) (op : PlusOp) (after : Gap) (r : Arith .product) :
      Arith .sum

variable {py}

/-- The text of a field or a number. -/
def Atom.render : Atom py → List Char
  | .field name .. => name
  | .quoted name _ => '\'' :: (name ++ ['\''])
  | .number negative digits decimals .. => numeral negative digits decimals

/-- The token of a field or a number. -/
def Atom.token (a : Atom py) : Token where
  kind := match a with
    | .field .. => .word
    | .quoted .. => .fieldname
    | .number .. => .number
  text := String.ofList a.render

/-- What a field or a number means. -/
def Atom.node : Atom py → Node
  | .field name .. => .fieldRef (String.ofList name)
  | .quoted name _ => .fieldRef (fieldOf (String.ofList ('\'' :: (name ++ ['\'']))))
  | .number _ _ _ value .. => .literal value

namespace Arith

variable {level : Level}

/-- The text of an expression. -/
def render : {level : Level} → Arith py level → List Char
  | _, .atom a => a.render
  | _, .group before e after => '(' :: (before.1 ++ (e.render ++ (after.1 ++ [')'])))
  | _, .factor e => e.render
  | _, .times l before op after r => l.render ++ (before.1 ++ (op.char :: (after.1 ++ r.render)))
  | _, .product e => e.render
  | _, .plus l before op after r => l.render ++ (before.1 ++ (op.char :: (after.1 ++ r.render)))

/-- What an expression means, whatever the white space in it. -/
def tree : {level : Level} → Arith py level → Node
  | _, .atom a => a.node
  | _, .group _ e _ => e.tree
  | _, .factor e => e.tree
  | _, .times l _ op _ r => .binOp op.op l.tree r.tree
  | _, .product e => e.tree
  | _, .plus l _ op _ r => .binOp op.op l.tree r.tree

/-- An expression without the white space in it. -/
def bare : {level : Level} → Arith py level → Arith py level
  | _, .atom a => .atom a
  | _, .group _ e _ => .group ⟨[], nofun⟩ e.bare ⟨[], nofun⟩
  | _, .factor e => .factor e.bare
  | _, .times l _ op _ r => .times l.bare ⟨[], nofun⟩ op ⟨[], nofun⟩ r.bare
  | _, .product e => .product e.bare
  | _, .plus l _ op _ r => .plus l.bare ⟨[], nofun⟩ op ⟨[], nofun⟩ r.bare

/-- How deep the parentheses are nested. -/
def nesting : {level : Level} → Arith py level → ℕ
  | _, .atom _ => 0
  | _, .group _ e _ => e.nesting + 1
  | _, .factor e => e.nesting
  | _, .times l _ _ _ r => max l.nesting r.nesting
  | _, .product e => e.nesting
  | _, .plus l _ _ _ r => max l.nesting r.nesting

/-- The text begins with a digit. -/
def digitFirst (e : Arith py level) : Bool := e.render.head?.any py.isDigit

/-- A minus stands directly in front of a digit. -/
def glued (op : PlusOp) (after : Gap) (r : Arith py .product) : Bool :=
  op = .sub && after.1.isEmpty && r.digitFirst

/-- No minus stands directly in front of a digit. -/
def Apart : {level : Level} → Arith py level → Prop
  | _, .atom _ => True
  | _, .group _ e _ => e.Apart
  | _, .factor e => e.Apart
  | _, .times l _ _ _ r => l.Apart ∧ r.Apart
  | _, .product e => e.Apart
  | _, .plus l _ op after r => l.Apart ∧ r.Apart ∧ glued op after r = false

/-- The operators that a mode has: `*`, `/` and `%` are read in `eval` only. -/
def Offered (mode : Mode) : {level : Level} → Arith py level → Prop
  | _, .atom _ => True
  | _, .group _ e _ => e.Offered mode
  | _, .factor e => e.Offered mode
  | _, .times l _ _ _ r => mode = .eval ∧ l.Offered mode ∧ r.Offered mode
  | _, .product e => e.Offered mode
  | _, .plus l _ _ _ r => l.Offered mode ∧ r.Offered mode

/-- A number with the minus in front of it as its sign. -/
def signed : List Token → List Token
  | [] => []
  | token :: ts => ⟨.number, String.ofList ('-' :: token.text.toList)⟩ :: ts

/-- The token of an operator. -/
def opToken (c : Char) : Token := ⟨.op, String.ofList [c]⟩

/-- The tokens of an expression. -/
def tokens : {level : Level} → Arith py level → List Token
  | _, .atom a => [a.token]
  | _, .group _ e _ => opToken '(' :: (e.tokens ++ [opToken ')'])
  | _, .factor e => e.tokens
  | _, .times l _ op _ r => l.tokens ++ opToken op.char :: r.tokens
  | _, .product e => e.tokens
  | _, .plus l _ op after r =>
    l.tokens ++ if glued op after r then signed r.tokens else opToken op.char :: r.tokens

end Arith

/-! ## Characters -/

section

variable {mode : Mode} {rest : List Char} {ts : List Token}

/-- What may stand behind a field or a number: white space, an operator or a parenthesis. -/
def Follows (rest : List Char) : Prop :=
  ∀ c ∈ rest.head?, isSpace c = true ∨ c ∈ ['+', '-', '*', '/', '%', ')']

lemma Follows.ends (h : Follows rest) {c : Char} (hc : c ∈ rest.head?) :
    isWordChar .eval c = false ∧ py.isDigit c = false ∧ c ≠ '.' := by
  rcases h c hc with hspace | hop
  · refine ⟨?_, py.isDigit_space c hspace, ?_⟩
    · rw [isWordChar, hspace, Bool.not_true, Bool.false_and]
    · rintro rfl
      exact absurd hspace (by decide)
  · have hall : ['+', '-', '*', '/', '%', ')'].all fun c =>
        !isWordChar .eval c && decide (c.toNat < 128) && !c.isDigit && decide (c ≠ '.') := by decide
    have hc := List.all_eq_true.1 hall c hop
    simp only [Bool.and_eq_true, Bool.not_eq_true', decide_eq_true_eq] at hc
    obtain ⟨⟨⟨hword, hascii⟩, hdigit⟩, hdot⟩ := hc
    exact ⟨hword, (py.isDigit_ascii c hascii).trans hdigit, hdot⟩

lemma isWordChar_eq (hmode : mode ≠ .search) : isWordChar mode = isWordChar .eval := by
  cases mode with
  | search => exact absurd rfl hmode
  | «where» => rfl
  | eval => rfl

lemma takeWhile_digits {digits : List Char} (hdigits : digits.all py.isDigit = true)
    (hrest : ∀ c ∈ rest.head?, py.isDigit c = false) :
    (digits ++ rest).takeWhile py.isDigit = digits
      ∧ (digits ++ rest).dropWhile py.isDigit = rest := by
  have hall := List.all_eq_true.1 hdigits
  rw [List.takeWhile_append_of_pos hall, List.dropWhile_append_of_pos hall]
  cases rest with
  | nil => exact ⟨List.append_nil _, rfl⟩
  | cons c rest =>
    have hc := hrest c rfl
    rw [List.takeWhile_cons_of_neg (by rw [hc]; exact Bool.false_ne_true),
      List.dropWhile_cons_of_neg (by rw [hc]; exact Bool.false_ne_true), List.append_nil]
    exact ⟨rfl, rfl⟩

lemma ne_of_isDigit {c d : Char} (hc : py.isDigit c = true) (hascii : d.toNat < 128)
    (hd : d.isDigit = false) : c ≠ d := by
  rintro rfl
  exact absurd (hc.symm.trans ((py.isDigit_ascii c hascii).trans hd)) (by decide)

/-- What stands behind the digits of a number in front of its point. -/
def fraction (decimals : List Char) : List Char := if decimals = [] then [] else '.' :: decimals

/-- A number is read up to its end. -/
lemma number_numeral (hmode : mode ≠ .search) (negative : Bool) {digits decimals : List Char}
    (hne : digits ≠ []) (hdigits : digits.all py.isDigit = true)
    (hdecimals : decimals.all py.isDigit = true) (hrest : Follows rest) :
    number py.toSplPython mode (numeral negative digits decimals ++ rest)
      = some (numeral negative digits decimals, rest) := by
  have hends := fun c (hc : c ∈ rest.head?) => @Follows.ends py rest hrest c hc
  have hsign : (if (numeral negative digits decimals ++ rest).head? = some '-' then ['-'] else [])
      = if negative then ['-'] else [] := by
    cases negative with
    | true => rfl
    | false =>
      obtain ⟨d, ds, rfl⟩ := List.exists_cons_of_ne_nil hne
      have hd := List.all_eq_true.1 hdigits d List.mem_cons_self
      refine if_neg fun h => ?_
      exact ne_of_isDigit hd (by decide) (by decide) (Option.some.inj h)
  have hdrop : (numeral negative digits decimals ++ rest).drop
      (if negative then ['-'] else []).length = digits ++ (fraction decimals ++ rest) := by
    cases negative with
    | true => exact List.append_assoc digits _ rest
    | false => exact List.append_assoc digits _ rest
  have hfraction : ∀ c ∈ (fraction decimals ++ rest).head?, py.isDigit c = false := by
    intro c hc
    rw [fraction] at hc
    split at hc
    · exact (hends c hc).2.1
    · obtain rfl := Option.some.inj hc
      exact py.isDigit_ascii '.' (by decide)
  obtain ⟨htake, hdropWhile⟩ := takeWhile_digits hdigits hfraction
  obtain ⟨htake', hdropWhile'⟩ := takeWhile_digits hdecimals fun c hc => (hends c hc).2.1
  rw [number]
  simp only [hsign, hdrop, htake, hdropWhile]
  rw [if_neg (not_or.2 ⟨hmode, hne⟩)]
  by_cases hnil : decimals = []
  · subst hnil
    have hdot : ¬ ((fraction [] ++ rest).head? = some '.'
        ∧ ((fraction [] ++ rest).drop 1).takeWhile py.isDigit ≠ []) :=
      fun h => (hends '.' h.1).2.2 rfl
    rw [if_neg hdot]
    simp only [numeral, fraction, if_true, List.append_nil, List.nil_append]
  · have hdot : (fraction decimals ++ rest).head? = some '.'
        ∧ ((fraction decimals ++ rest).drop 1).takeWhile py.isDigit ≠ [] := by
      rw [fraction, if_neg hnil]
      refine ⟨rfl, ?_⟩
      rw [List.cons_append, List.drop_one, List.tail_cons, htake']
      exact hnil
    rw [if_pos hdot]
    simp only [numeral, fraction, if_neg hnil, List.cons_append, List.drop_one, List.tail_cons,
        htake',
      hdropWhile', List.append_assoc]

lemma numeral_head (negative : Bool) {digits : List Char} (decimals : List Char) (hne : digits ≠ [])
    (hdigits : digits.all py.isDigit = true) : ∃ c cs, numeral negative digits decimals = c :: cs
      ∧ isSpace c = false ∧ c ≠ '"' ∧ c ≠ '\'' ∧ py.isDigit c = !negative := by
  cases negative with
  | true =>
    exact ⟨'-', _, rfl, by decide, by decide, by decide, py.isDigit_ascii '-' (by decide)⟩
  | false =>
    obtain ⟨d, ds, rfl⟩ := List.exists_cons_of_ne_nil hne
    have hd := List.all_eq_true.1 hdigits d List.mem_cons_self
    have hspace : isSpace d = false := by
      by_contra h
      have hno := py.isDigit_space d (Bool.eq_true_of_not_eq_false h)
      exact absurd (hd.symm.trans hno) (by decide)
    exact ⟨d, _, rfl, hspace, ne_of_isDigit hd (by decide) (by decide),
      ne_of_isDigit hd (by decide) (by decide), hd⟩

lemma nextToken_numeral (hmode : mode ≠ .search) (negative : Bool) {digits decimals : List Char}
    (hne : digits ≠ []) (hdigits : digits.all py.isDigit = true)
    (hdecimals : decimals.all py.isDigit = true) (hrest : Follows rest) :
    nextToken py.toSplPython mode (numeral negative digits decimals ++ rest)
      = some (some ⟨.number, String.ofList (numeral negative digits decimals)⟩, rest) := by
  have hnumber := number_numeral hmode negative hne hdigits hdecimals hrest
  obtain ⟨c, cs, hc, hspace, hdouble, hsingle, -⟩ :=
    numeral_head negative decimals hne hdigits
  rw [hc, List.cons_append] at hnumber ⊢
  simp [nextToken, hspace, quotation, hdouble, hsingle, hmode, hnumber]

lemma nextToken_quoted (hmode : mode ≠ .search) {name : List Char}
    (hplain : ∀ c ∈ name, c ≠ '\'' ∧ c ≠ '\\') :
    nextToken py.toSplPython mode ('\'' :: (name ++ ['\'']) ++ rest)
      = some (some ⟨.fieldname, String.ofList ('\'' :: (name ++ ['\'']))⟩, rest) := by
  have hquoted : Kql.quoted '\'' (name ++ ['\''] ++ rest) = some (name, rest) := by
    induction name with
    | nil => rfl
    | cons c name ih =>
      obtain ⟨⟨hmark, hslash⟩, hname⟩ := List.forall_mem_cons.1 hplain
      simp only [List.cons_append]
      rw [Kql.quoted]
      · rw [if_neg hmark, if_neg hslash, ih hname]
        rfl
      · rintro d ds rfl -
        exact hslash rfl
  have hspace : isSpace '\'' = false := by decide
  simp only [List.append_assoc, List.cons_append, List.nil_append] at hquoted
  simp [nextToken, hspace, quotation, hmode, hquoted]

lemma nextToken_atom (hmode : mode ≠ .search) (a : Atom py) (hrest : Follows rest) :
    nextToken py.toSplPython mode (a.render ++ rest) = some (some a.token, rest) := by
  cases a with
  | field name hne hword hfirst hkeyword =>
    obtain ⟨c, w, rfl⟩ := List.exists_cons_of_ne_nil hne
    obtain ⟨hdigit, hdouble, hsingle⟩ := hfirst c rfl
    rw [← isWordChar_eq hmode] at hword
    have hminus : c ≠ '-' := by
      rintro rfl
      have hc := List.all_eq_true.1 hword '-' List.mem_cons_self
      rw [isWordChar_eq hmode] at hc
      exact absurd hc (by decide)
    have hnumber : number py.toSplPython mode (c :: w ++ rest) = none := by
      simp [number, hminus, hdigit]
    refine nextToken_word hword hdouble hsingle hnumber fun d hd => ?_
    rw [isWordChar_eq hmode]
    exact (@Follows.ends py _ hrest d hd).1
  | quoted name hplain => exact nextToken_quoted hmode hplain
  | number negative digits decimals value hne hdigits hdecimals hvalue =>
    exact nextToken_numeral hmode negative hne hdigits hdecimals hrest

/-- The operators and the parentheses. -/
def OP_CHARS : List Char := ['+', '-', '*', '/', '%', '(', ')']

lemma operatorOf_op (hmode : mode ≠ .search) {c : Char} (hc : c ∈ OP_CHARS) :
    operatorOf mode (c :: rest) = some ([c], rest) := by
  simp only [OP_CHARS, List.mem_cons, List.not_mem_nil, or_false] at hc
  cases mode with
  | search => exact absurd rfl hmode
  | «where» => rcases hc with rfl | rfl | rfl | rfl | rfl | rfl | rfl <;> rfl
  | eval => rcases hc with rfl | rfl | rfl | rfl | rfl | rfl | rfl <;> rfl

lemma nextToken_op (hmode : mode ≠ .search) {c : Char} (hc : c ∈ OP_CHARS)
    (hrest : c = '-' → ∀ d ∈ rest.head?, py.isDigit d = false) :
    nextToken py.toSplPython mode (c :: rest) = some (some (Arith.opToken c), rest) := by
  have hall : OP_CHARS.all fun c => !isSpace c && decide (c ≠ '"') && decide (c ≠ '\'')
      && decide (c.toNat < 128) && !c.isDigit := by decide
  have hchar := List.all_eq_true.1 hall c hc
  simp only [Bool.and_eq_true, Bool.not_eq_true', decide_eq_true_eq] at hchar
  obtain ⟨⟨⟨⟨hspace, hdouble⟩, hsingle⟩, hascii⟩, hno⟩ := hchar
  have hdigit : py.isDigit c = false := (py.isDigit_ascii c hascii).trans hno
  have hnumber : number py.toSplPython mode (c :: rest) = none := by
    by_cases hminus : c = '-'
    · have htake : rest.takeWhile py.isDigit = [] := by
        cases rest with
        | nil => rfl
        | cons d rest =>
          exact List.takeWhile_cons_of_neg (Bool.eq_false_iff.1 (hrest hminus d rfl))
      simp [number, hminus, htake]
    · simp [number, hminus, hdigit]
  simp [nextToken, hspace, quotation, hdouble, hsingle, hmode, hnumber, operatorOf_op hmode hc,
    Arith.opToken]

/-! ## Texts -/

lemma lexes_gap (gap : Gap) (hfirst : ∀ c ∈ rest.head?, isSpace c = false)
    (h : Lexing.Lexes (nextToken py.toSplPython mode) rest ts) :
    Lexing.Lexes (nextToken py.toSplPython mode) (gap.1 ++ rest) ts := by
  obtain ⟨gap, hgap⟩ := gap
  cases gap with
  | nil => exact h
  | cons c gap =>
    have hdrop : (gap ++ rest).dropWhile isSpace = rest := by
      rw [List.dropWhile_append_of_pos fun d hd => hgap d (List.mem_cons_of_mem c hd)]
      cases rest with
      | nil => rfl
      | cons d rest => exact List.dropWhile_cons_of_neg (Bool.eq_false_iff.1 (hfirst d rfl))
    have hblank : nextToken py.toSplPython mode (c :: (gap ++ rest))
        = some (none, (gap ++ rest).dropWhile isSpace) :=
      nextToken_blank (hgap c List.mem_cons_self)
    rw [hdrop] at hblank
    exact .step hblank h

namespace Arith

variable {level : Level}

/-- A text begins with a character that is no white space. -/
lemma exists_render (e : Arith py level) : ∃ c cs, e.render = c :: cs ∧ isSpace c = false := by
  induction e with
  | atom a =>
    cases a with
    | field name hne hword hfirst hkeyword =>
      obtain ⟨c, w, rfl⟩ := List.exists_cons_of_ne_nil hne
      have hc := List.all_eq_true.1 hword c List.mem_cons_self
      rw [isWordChar, Bool.and_eq_true, Bool.not_eq_true'] at hc
      exact ⟨c, w, rfl, hc.1⟩
    | quoted name hplain => exact ⟨'\'', _, rfl, by decide⟩
    | number negative digits decimals value hne hdigits hdecimals hvalue =>
      obtain ⟨c, cs, hc, hspace, -⟩ :=
        numeral_head negative decimals hne hdigits
      exact ⟨c, cs, hc, hspace⟩
  | group before e after _ => exact ⟨'(', _, rfl, by decide⟩
  | factor e ih => exact ih
  | times l before op after r ih _ =>
    obtain ⟨c, cs, hc, hspace⟩ := ih
    exact ⟨c, _, congrArg (· ++ _) hc, hspace⟩
  | product e ih => exact ih
  | plus l before op after r ih _ =>
    obtain ⟨c, cs, hc, hspace⟩ := ih
    exact ⟨c, _, congrArg (· ++ _) hc, hspace⟩

/-- A text ends with a character that is no white space. -/
lemma exists_render_last (e : Arith py level) :
    ∃ c front, e.render = front ++ [c] ∧ isSpace c = false := by
  have hdigit : ∀ {digits : List Char}, digits ≠ [] → digits.all py.isDigit = true →
      ∃ c front, digits = front ++ [c] ∧ isSpace c = false := by
    intro digits hne hdigits
    refine ⟨digits.getLast hne, digits.dropLast, (List.dropLast_append_getLast hne).symm, ?_⟩
    by_contra h
    have hno := py.isDigit_space _ (Bool.eq_true_of_not_eq_false h)
    have hyes := List.all_eq_true.1 hdigits _ (List.getLast_mem hne)
    exact absurd (hyes.symm.trans hno) (by decide)
  induction e with
  | atom a =>
    cases a with
    | field name hne hword hfirst hkeyword =>
      have hc := List.all_eq_true.1 hword _ (List.getLast_mem hne)
      rw [isWordChar, Bool.and_eq_true, Bool.not_eq_true'] at hc
      exact ⟨_, _, (List.dropLast_append_getLast hne).symm, hc.1⟩
    | quoted name hplain => exact ⟨'\'', '\'' :: name, rfl, by decide⟩
    | number negative digits decimals value hne hdigits hdecimals hvalue =>
      by_cases hnil : decimals = []
      · obtain ⟨c, front, hlast, hspace⟩ := hdigit hne hdigits
        refine ⟨c, (if negative then ['-'] else []) ++ front, ?_, hspace⟩
        simp only [render, Atom.render, numeral, hnil, if_true, List.append_nil, hlast,
          List.append_assoc]
      · obtain ⟨c, front, hlast, hspace⟩ := hdigit hnil hdecimals
        refine ⟨c, (if negative then ['-'] else []) ++ (digits ++ '.' :: front), ?_, hspace⟩
        simp only [render, Atom.render, numeral, if_neg hnil]
        rw [hlast]
        simp only [List.append_assoc, List.cons_append]
  | group before e after _ =>
    refine ⟨')', '(' :: (before.1 ++ (e.render ++ after.1)), ?_, by decide⟩
    simp only [render, List.cons_append, List.append_assoc]
  | factor e ih => exact ih
  | times l before op after r _ ih =>
    obtain ⟨c, front, hlast, hspace⟩ := ih
    refine ⟨c, l.render ++ (before.1 ++ (op.char :: (after.1 ++ front))), ?_, hspace⟩
    simp only [render, hlast, List.append_assoc, List.cons_append]
  | product e ih => exact ih
  | plus l before op after r _ ih =>
    obtain ⟨c, front, hlast, hspace⟩ := ih
    refine ⟨c, l.render ++ (before.1 ++ (op.char :: (after.1 ++ front))), ?_, hspace⟩
    simp only [render, hlast, List.append_assoc, List.cons_append]

lemma tokens_ne_nil (e : Arith py level) : e.tokens ≠ [] := by
  induction e with
  | atom a => exact List.cons_ne_nil _ _
  | group before e after _ => exact List.cons_ne_nil _ _
  | factor e ih => exact ih
  | times l before op after r ih _ => exact List.append_ne_nil_of_left_ne_nil ih _
  | product e ih => exact ih
  | plus l before op after r ih _ => exact List.append_ne_nil_of_left_ne_nil ih _

lemma signed_append {front behind : List Token} (h : front ≠ []) :
    signed (front ++ behind) = signed front ++ behind := by
  obtain ⟨token, front, rfl⟩ := List.exists_cons_of_ne_nil h
  rfl

lemma follows_gap {c : Char} (gap : Gap) (hc : c ∈ ['+', '-', '*', '/', '%', ')']) :
    Follows (gap.1 ++ c :: rest) := by
  obtain ⟨gap, hgap⟩ := gap
  intro d hd
  cases gap with
  | nil =>
    obtain rfl := Option.some.inj hd
    exact .inr hc
  | cons g gap =>
    obtain rfl := Option.some.inj hd
    exact .inl (hgap g List.mem_cons_self)

lemma lexes_operand {text : List Char} (gap : Gap)
    (htext : ∃ c cs, text = c :: cs ∧ isSpace c = false)
    (h : Lexing.Lexes (nextToken py.toSplPython mode) (text ++ rest) ts) :
    Lexing.Lexes (nextToken py.toSplPython mode) (gap.1 ++ (text ++ rest)) ts := by
  refine lexes_gap gap (fun c hc => ?_) h
  obtain ⟨d, ds, rfl, hspace⟩ := htext
  obtain rfl := Option.some.inj hc
  exact hspace

/-- The tokens of an expression are read from its text, and a minus in front of its first digit with
    the number. -/
lemma lexes_render (hmode : mode ≠ .search) (e : Arith py level) :
    ∀ rest ts, Follows rest → Lexing.Lexes (nextToken py.toSplPython mode) rest ts →
      Lexing.Lexes (nextToken py.toSplPython mode) (e.render ++ rest) (e.tokens ++ ts)
      ∧ (e.digitFirst = true → Lexing.Lexes (nextToken py.toSplPython mode)
          ('-' :: (e.render ++ rest)) (signed e.tokens ++ ts)) := by
  induction e with
  | atom a =>
    intro rest ts hrest h
    refine ⟨.step (nextToken_atom hmode a hrest) h, fun hdigit => ?_⟩
    cases a with
    | field name hne hword hfirst hkeyword =>
      obtain ⟨c, w, rfl⟩ := List.exists_cons_of_ne_nil hne
      have hno : py.isDigit c = true := hdigit
      exact absurd ((hfirst c rfl).1.symm.trans hno) (by decide)
    | quoted name hplain =>
      have hno : py.isDigit '\'' = true := hdigit
      exact absurd ((py.isDigit_ascii '\'' (by decide)).symm.trans hno) (by decide)
    | number negative digits decimals value hne hdigits hdecimals hvalue =>
      cases negative with
      | true =>
        have hno : py.isDigit '-' = true := hdigit
        exact absurd ((py.isDigit_ascii '-' (by decide)).symm.trans hno) (by decide)
      | false =>
        have hnumber := nextToken_numeral hmode true hne hdigits hdecimals hrest
        have htext : String.ofList ('-' :: (String.ofList (numeral false digits decimals)).toList)
            = String.ofList (numeral true digits decimals) := by
          rw [String.toList_ofList]
          rfl
        have hlexes := Lexing.Lexes.step hnumber h
        rw [← htext] at hlexes
        exact hlexes
  | group before e after ih =>
    intro rest ts hrest h
    have hclose : Lexing.Lexes (nextToken py.toSplPython mode) (after.1 ++ ')' :: rest)
        (opToken ')' :: ts) := by
      refine lexes_gap after (fun c hc => ?_)
          (.step (nextToken_op hmode (by decide) fun hminus => absurd hminus (by decide)) h)
      obtain rfl := Option.some.inj hc
      decide
    have hinner := (ih _ _ (follows_gap after (by decide)) hclose).1
    have hopen : Lexing.Lexes (nextToken py.toSplPython mode)
        ('(' :: (before.1 ++ (e.render ++ (after.1 ++ ')' :: rest))))
        (opToken '(' :: (e.tokens ++ opToken ')' :: ts)) := by
      have hread := lexes_operand before e.exists_render hinner
      exact .step (nextToken_op hmode (by decide) fun hminus => absurd hminus (by decide)) hread
    refine ⟨?_, fun hdigit => ?_⟩
    · simpa only [render, tokens, List.cons_append, List.append_assoc, List.nil_append] using hopen
    · have hno : py.isDigit '(' = true := hdigit
      exact absurd ((py.isDigit_ascii '(' (by decide)).symm.trans hno) (by decide)
  | factor e ih => exact ih
  | times l before op after r ihl ihr =>
    intro rest ts hrest h
    have hop : op.char ∈ OP_CHARS ∧ op.char ≠ '-' ∧ op.char ∈ ['+', '-', '*', '/', '%', ')']
        ∧ isSpace op.char = false := by cases op <;> decide
    have hright := lexes_operand after r.exists_render (ihr rest ts hrest h).1
    have hoperator : Lexing.Lexes (nextToken py.toSplPython mode)
        (op.char :: (after.1 ++ (r.render ++ rest))) (opToken op.char :: (r.tokens ++ ts)) :=
      .step (nextToken_op hmode hop.1 fun hminus => absurd hminus hop.2.1) hright
    have hleft := ihl _ _ (follows_gap before hop.2.2.1)
      (lexes_gap before (fun c hc => Option.some.inj hc ▸ hop.2.2.2) hoperator)
    refine ⟨?_, fun hdigit => ?_⟩
    · simpa only [render, tokens, List.cons_append, List.append_assoc] using hleft.1
    · have hdigit : l.digitFirst = true := by
        obtain ⟨c, cs, hc, -⟩ := l.exists_render
        rw [digitFirst, hc]
        rwa [digitFirst, render, hc] at hdigit
      simpa only [render, tokens, signed_append l.tokens_ne_nil, List.cons_append,
        List.append_assoc] using hleft.2 hdigit
  | product e ih => exact ih
  | plus l before op after r ihl ihr =>
    intro rest ts hrest h
    have hop : op.char ∈ OP_CHARS ∧ op.char ∈ ['+', '-', '*', '/', '%', ')']
        ∧ isSpace op.char = false := by cases op <;> decide
    obtain ⟨hright, hsigned⟩ := ihr rest ts hrest h
    have hoperator : Lexing.Lexes (nextToken py.toSplPython mode)
        (op.char :: (after.1 ++ (r.render ++ rest)))
        ((if glued op after r then signed r.tokens else opToken op.char :: r.tokens) ++ ts) := by
      split
      · next hglued =>
        simp only [glued, Bool.and_eq_true, decide_eq_true_eq, List.isEmpty_iff] at hglued
        obtain ⟨⟨rfl, hafter⟩, hdigit⟩ := hglued
        rw [hafter]
        exact hsigned hdigit
      · next hglued =>
        refine .step (nextToken_op hmode hop.1 fun hminus d hd => ?_)
          (lexes_operand after r.exists_render hright)
        have hsub : op = .sub := by
          cases op with
          | add => exact absurd hminus (by decide)
          | sub => rfl
        obtain ⟨after, hspaces⟩ := after
        cases after with
        | cons g after =>
          obtain rfl := Option.some.inj hd
          exact py.isDigit_space g (hspaces g List.mem_cons_self)
        | nil =>
          obtain ⟨c, cs, hc, -⟩ := r.exists_render
          simp only [glued, hsub, decide_true, List.isEmpty_nil, Bool.true_and, digitFirst, hc,
            List.head?_cons, Option.any_some, Bool.not_eq_true] at hglued
          rw [hc] at hd
          obtain rfl := Option.some.inj hd
          exact hglued
    have hleft := ihl _ _ (follows_gap before hop.2.1)
      (lexes_gap before (fun c hc => Option.some.inj hc ▸ hop.2.2) hoperator)
    refine ⟨?_, fun hdigit => ?_⟩
    · simpa only [render, tokens, List.cons_append, List.append_assoc] using hleft.1
    · have hdigit : l.digitFirst = true := by
        obtain ⟨c, cs, hc, -⟩ := l.exists_render
        rw [digitFirst, hc]
        rwa [digitFirst, render, hc] at hdigit
      simpa only [render, tokens, signed_append l.tokens_ne_nil, List.cons_append,
        List.append_assoc] using hleft.2 hdigit

end Arith

end

end Spl

end Splunk

end Mockdr
