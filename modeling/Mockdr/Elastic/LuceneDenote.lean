import Mockdr.Elastic.LuceneQuery

/-!
# What a `query_string` means

The expressions of the `query_string` clause and what they say, `NOT` before `AND` before `OR`.

* `QsExpr` are the expressions, with the parentheses that are written; `QsExpr.denote` is what an
  expression says, and `Spelled` relates its lexemes to the texts it is written as.
* `qsTokenise_spelled`: a text that is spelled without parentheses is cut into its lexemes.
* `Simple` leaves out parentheses, a `NOT` of a `NOT`, and a `NOT` that follows an operand with no
  operator between them. `buildQueryString_denotes`: the clause of such an expression tests what the
  expression says, whatever else the body has.
* `parentheses_are_words`: the clause of an expression with parentheses does not.
-/

namespace Mockdr.Elastic

/-! ## Terms and lexemes -/

/-- How a term is written. -/
inductive TermText where
  | word (text : List Char)
  | phrase (text : List Char)
  | bare (field text : List Char)
  | quoted (field text : List Char)
  | ranged (field : List Char) (opening : Char) (text : List Char) (closing : Char)
  deriving DecidableEq

namespace TermText

/-- The characters of a term. -/
def text : TermText → List Char
  | word text => text
  | phrase text => '"' :: text ++ ['"']
  | bare field text => field ++ ':' :: text
  | quoted field text => field ++ ':' :: ('"' :: text ++ ['"'])
  | ranged field opening text closing => field ++ ':' :: (opening :: text ++ [closing])

/-- The field of a term, which is empty where none is written. -/
def field : TermText → String
  | word _ => ""
  | phrase _ => ""
  | bare field _ => String.ofList field
  | quoted field _ => String.ofList field
  | ranged field _ _ _ => String.ofList field

/-- The value of a term; a range has its brackets. -/
def value : TermText → String
  | word text => String.ofList text
  | phrase text => String.ofList text
  | bare _ text => String.ofList text
  | quoted _ text => String.ofList text
  | ranged _ opening text closing => String.ofList (opening :: text ++ [closing])

/-- A field name, which starts with no keyword. -/
def FieldName (word : Char → Bool) (name : List Char) : Prop :=
  (∃ c ∈ name.head?, startsField c = true) ∧ (∀ c ∈ name, inField c = true)
    ∧ operatorFront word name = none

/-- A text with no quotation marks around it, which is read up to white space. -/
def Unquoted (text : List Char) : Prop :=
  text ≠ [] ∧ (∀ c ∈ text, isSpace c = false) ∧ ∀ c ∈ text.head?, c ≠ '"'

/-- A term that can be written so: a word is no keyword and no field, and nothing closes a value
    before its end. -/
def Valid (isWord : Char → Bool) : TermText → Prop
  | word text => Unquoted text ∧ operatorFront isWord text = none ∧ fieldFront text = none
  | phrase text => '"' ∉ text
  | bare field text =>
    FieldName isWord field ∧ Unquoted text ∧ ∀ c ∈ text.head?, opensRange c = false
  | quoted field text => FieldName isWord field ∧ '"' ∉ text
  | ranged field opening text closing =>
    FieldName isWord field ∧ opensRange opening = true ∧ (∀ c ∈ text, closesRange c = false)
      ∧ closesRange closing = true

/-- Whether a term says where it ends. -/
def closed : TermText → Bool
  | word _ => false
  | bare _ _ => false
  | _ => true

end TermText

/-- What an expression is written with. -/
inductive QsLexeme where
  | not
  | and
  | or
  | term (t : TermText)
  | opening
  | closing
  deriving DecidableEq

namespace QsLexeme

/-- The characters of a lexeme. -/
def text : QsLexeme → List Char
  | not => "NOT".toList
  | and => "AND".toList
  | or => "OR".toList
  | term t => t.text
  | opening => ['(']
  | closing => [')']

/-- The token of a lexeme; there is none for a parenthesis. -/
def token : QsLexeme → Option QsToken
  | not => some .not
  | and => some .and
  | or => some .or
  | term t => some (.term t.field t.value)
  | opening => none
  | closing => none

/-- What a lexeme may stand in front of: a word goes up to white space, a keyword is not followed
    by a character of a word. -/
def Apart (word : Char → Bool) (rest : List Char) : QsLexeme → Prop
  | term t => t.closed = true ∨ ∀ c ∈ rest.head?, isSpace c = true
  | opening => True
  | closing => True
  | _ => ∀ c ∈ rest.head?, word c = false

/-- A lexeme whose term can be written so. -/
def Valid (word : Char → Bool) : QsLexeme → Prop
  | term t => t.Valid word
  | _ => True

end QsLexeme

/-- The texts of a list of lexemes, with white space around them. -/
inductive Spelled (word : Char → Bool) : List QsLexeme → List Char → Prop where
  | nil {space : List Char} (hspace : ∀ c ∈ space, isSpace c = true) : Spelled word [] space
  | cons {space : List Char} {l : QsLexeme} {ls : List QsLexeme} {rest : List Char}
      (hspace : ∀ c ∈ space, isSpace c = true) (hapart : l.Apart word rest)
      (hrest : Spelled word ls rest) : Spelled word (l :: ls) (space ++ l.text ++ rest)

/-! ## Expressions -/

/-- The expressions of a `query_string`. An `AND` may be left unwritten. -/
inductive QsExpr where
  | term (t : TermText)
  | not (e : QsExpr)
  | both (written : Bool) (a b : QsExpr)
  | either (a b : QsExpr)
  | group (e : QsExpr)
  deriving DecidableEq

namespace QsExpr

/-- What an expression is written with, in order. -/
def lexemes : QsExpr → List QsLexeme
  | term t => [.term t]
  | not e => .not :: e.lexemes
  | both written a b => a.lexemes ++ (if written then [.and] else []) ++ b.lexemes
  | either a b => a.lexemes ++ .or :: b.lexemes
  | group e => .opening :: e.lexemes ++ [.closing]

/-- Whether an expression is an `OR`. -/
def isEither : QsExpr → Bool
  | either _ _ => true
  | _ => false

/-- Whether an expression is an `OR` or an `AND`. -/
def isCompound : QsExpr → Bool
  | either _ _ => true
  | both _ _ _ => true
  | _ => false

/-- An expression whose lexemes show how it is built, as `NOT` binds tightest, then `AND`, then
    `OR`. -/
def Proper (word : Char → Bool) : QsExpr → Prop
  | term t => t.Valid word
  | not e => e.isCompound = false ∧ e.Proper word
  | both _ a b => a.isEither = false ∧ b.isEither = false ∧ a.Proper word ∧ b.Proper word
  | either a b => a.Proper word ∧ b.Proper word
  | group e => e.Proper word

/-- Whether the first lexeme of an expression is `NOT`. -/
def startsWithNot : QsExpr → Bool
  | term _ => false
  | not _ => true
  | both _ a _ => a.startsWithNot
  | either a _ => a.startsWithNot
  | group _ => false

/-- Whether an expression is a term. -/
def isTerm : QsExpr → Bool
  | term _ => true
  | _ => false

/-- An expression with no parentheses and no `NOT` of a `NOT`, in which a `NOT` that follows an
    operand has an operator in front of it. -/
def Simple : QsExpr → Prop
  | term _ => True
  | not e => e.isTerm = true
  | both written a b => a.Simple ∧ b.Simple ∧ (written = true ∨ b.startsWithNot = false)
  | either a b => a.Simple ∧ b.Simple
  | group _ => False

/-- The number of terms of an expression. -/
def terms : QsExpr → Nat
  | term _ => 1
  | not e => e.terms
  | both _ a b => a.terms + b.terms
  | either a b => a.terms + b.terms
  | group e => e.terms

end QsExpr

section Denotation

variable (py : QsPython) (range : String → String → Option Pred)

/-- What an expression says of a record. -/
def QsExpr.denote : QsExpr → Pred
  | .term t => qsMakeTermPred py range t.field t.value
  | .not e => fun record => !e.denote record
  | .both _ a b => fun record => a.denote record && b.denote record
  | .either a b => fun record => a.denote record || b.denote record
  | .group e => e.denote

end Denotation

/-! ## The patterns -/

section Patterns

variable {word : Char → Bool} {keyword : String} {cs rest : List Char}

lemma keywordFront_append_self (hrest : ∀ c ∈ rest.head?, word c = false) :
    keywordFront word keyword (keyword.toList ++ rest) = some rest := by
  have hkeyword : keyword.toList.isPrefixOf? (keyword.toList ++ rest) = some rest :=
    List.isPrefixOf?_eq_some_iff_append_eq.2 rfl
  rw [keywordFront, hkeyword]
  cases rest with
  | nil => rfl
  | cons c rest =>
    have hc : word c = false := hrest c rfl
    simp [hc]

lemma keywordFront_eq_some {found : List Char} (h : keywordFront word keyword cs = some found) :
    keyword.toList ++ found = cs ∧ ∀ c ∈ found.head?, word c = false := by
  rw [keywordFront] at h
  cases hkeyword : keyword.toList.isPrefixOf? cs with
  | none =>
    rw [hkeyword] at h
    cases h
  | some left =>
    rw [hkeyword] at h
    simp only at h
    split at h
    · cases h
    · next hword =>
      cases h
      refine ⟨List.isPrefixOf?_eq_some_iff_append_eq.1 hkeyword, fun c hc => ?_⟩
      have hhead : found.head? = some c := hc
      rw [hhead] at hword
      simpa using hword

/-- There is no keyword in front of a text that is followed by a character of no keyword. -/
lemma keywordFront_append_eq_none (h : keywordFront word keyword cs = none)
    (hrest : ∀ c ∈ rest.head?, c ∉ keyword.toList) :
    keywordFront word keyword (cs ++ rest) = none := by
  cases hfound : keywordFront word keyword (cs ++ rest) with
  | none => rfl
  | some found =>
    obtain ⟨happend, hword⟩ := keywordFront_eq_some hfound
    have hself : ∀ left, cs = keyword.toList ++ left → found = left ++ rest → False := by
      intro left hcs hleft
      have hfront : keywordFront word keyword cs = some left := by
        rw [hcs]
        refine keywordFront_append_self fun c hc => hword c ?_
        rw [hleft, List.head?_append, Option.mem_def.1 hc]
        rfl
      rw [hfront] at h
      cases h
    rcases List.append_eq_append_iff.1 happend with ⟨left, hcs, hleft⟩ | ⟨tail, hkeyword, hrest'⟩
    · exact (hself left hcs hleft).elim
    · cases tail with
      | nil =>
        rw [List.append_nil] at hkeyword
        exact (hself [] (by rw [hkeyword, List.append_nil]) hrest'.symm).elim
      | cons c tail =>
        have hc : c ∈ keyword.toList := by
          rw [hkeyword]
          exact List.mem_append_right cs (List.mem_cons_self ..)
        refine absurd hc (hrest c ?_)
        rw [hrest']
        rfl

/-- The characters of the keywords. -/
def inKeyword (c : Char) : Bool := c ∈ ['N', 'O', 'T', 'A', 'D', 'R']

lemma operatorFront_eq_none : operatorFront word cs = none ↔ keywordFront word "NOT" cs = none
    ∧ keywordFront word "AND" cs = none ∧ keywordFront word "OR" cs = none := by
  simp [operatorFront, Option.or_eq_none_iff]

lemma operatorFront_append_eq_none (h : operatorFront word cs = none)
    (hrest : ∀ c ∈ rest.head?, inKeyword c = false) : operatorFront word (cs ++ rest) = none := by
  have hkeyword : ∀ keyword : String, keyword.toList.all inKeyword = true →
      keywordFront word keyword cs = none → keywordFront word keyword (cs ++ rest) = none := by
    intro keyword hin hnone
    refine keywordFront_append_eq_none hnone fun c hc hmem => ?_
    have hout := hrest c hc
    rw [List.all_eq_true.1 hin c hmem] at hout
    cases hout
  obtain ⟨hnot, hand, hor⟩ := operatorFront_eq_none.1 h
  exact operatorFront_eq_none.2 ⟨hkeyword "NOT" (by decide) hnot, hkeyword "AND" (by decide) hand,
    hkeyword "OR" (by decide) hor⟩

lemma operatorFront_cons_eq_none {c : Char} (hc : inKeyword c = false) :
    operatorFront word (c :: cs) = none := by
  refine @operatorFront_append_eq_none word [] (c :: cs) ?_ fun d hd => ?_
  · exact operatorFront_eq_none.2 ⟨rfl, rfl, rfl⟩
  · cases hd
    exact hc

/-- White space is in no token. -/
lemma isSpace_eq_true_imp {c : Char} (hc : isSpace c = true) :
    inKeyword c = false ∧ inField c = false ∧ c ≠ ':' ∧ c ≠ '"' := by
  have hother : ∀ d : Char, isSpace d = false → c ≠ d := by
    intro d hd hcd
    rw [hcd, hd] at hc
    cases hc
  have hkeyword : inKeyword c = false := by
    simp only [inKeyword, List.mem_cons, List.not_mem_nil, or_false, decide_eq_false_iff_not,
      not_or]
    exact ⟨hother _ (by decide), hother _ (by decide), hother _ (by decide), hother _ (by decide),
      hother _ (by decide), hother _ (by decide)⟩
  refine ⟨hkeyword, ?_, hother _ (by decide), hother _ (by decide)⟩
  have hle : ∀ a b : Char, a ≤ b ↔ a.toNat ≤ b.toNat := fun a b => UInt32.le_iff_toNat_le
  rw [Bool.eq_false_iff]
  intro hin
  have hrange : 45 ≤ c.toNat ∧ c.toNat ≤ 122 := by
    simp only [inField, startsField, Bool.or_eq_true, Bool.and_eq_true, decide_eq_true_eq, hle,
      Char.ext_iff, UInt32.ext_iff] at hin
    simp only [Char.reduceToNat, Char.reduceVal, UInt32.reduceToNat] at hin
    have htoNat : c.val.toNat = c.toNat := rfl
    omega
  simp only [isSpace, Bool.or_eq_true, Bool.and_eq_true, decide_eq_true_eq] at hc
  omega

lemma fieldFront_append {name : List Char} (hname : TermText.FieldName word name) :
    fieldFront (name ++ ':' :: rest) = some (String.ofList name, rest) := by
  obtain ⟨⟨first, hhead, hstarts⟩, hin, -⟩ := hname
  cases name with
  | nil => cases hhead
  | cons c name =>
    cases hhead
    have hcolon : inField ':' = false := by decide
    have hdrop : (first :: name ++ ':' :: rest).dropWhile inField = ':' :: rest := by
      rw [List.dropWhile_append_of_pos hin, List.dropWhile_cons_of_neg (by simp [hcolon])]
    have htake : (first :: name ++ ':' :: rest).takeWhile inField = first :: name := by
      rw [List.takeWhile_append_of_pos hin, List.takeWhile_cons_of_neg (by simp [hcolon]),
        List.append_nil]
    rw [List.cons_append] at hdrop htake
    rw [List.cons_append, fieldFront, if_pos hstarts, hdrop, htake]
    rfl

lemma fieldFront_cons_eq_none {c : Char} (hc : inField c = false) :
    fieldFront (c :: cs) = none := by
  rw [fieldFront, if_neg]
  intro hstarts
  rw [inField, hstarts] at hc
  cases hc

/-- A word that is no field is none in front of white space. -/
lemma fieldFront_append_eq_none (hcs : cs ≠ []) (h : fieldFront cs = none)
    (hrest : ∀ c ∈ rest.head?, isSpace c = true) : fieldFront (cs ++ rest) = none := by
  cases cs with
  | nil => exact absurd rfl hcs
  | cons c cs =>
    have hnone : ∀ left, startsField c = true → (c :: cs).dropWhile inField ≠ ':' :: left := by
      intro left hstarts heq
      rw [fieldFront, if_pos hstarts, heq] at h
      cases h
    rw [List.cons_append, fieldFront]
    split
    · next hstarts =>
      split
      · next left heq =>
        rw [← List.cons_append, List.dropWhile_append] at heq
        split at heq
        · cases rest with
          | nil => cases heq
          | cons d rest =>
            obtain ⟨-, hin, hcolon, -⟩ := isSpace_eq_true_imp (hrest d rfl)
            rw [List.dropWhile_cons_of_neg (by simp [hin])] at heq
            cases heq
            exact absurd rfl hcolon
        · next hempty =>
          cases hdrop : (c :: cs).dropWhile inField with
          | nil =>
            rw [hdrop] at hempty
            exact absurd rfl hempty
          | cons d after =>
            rw [hdrop, List.cons_append] at heq
            cases heq
            exact (hnone after hstarts hdrop).elim
      · rfl
    · rfl

lemma quotedFront_append (hcs : '"' ∉ cs) :
    quotedFront ('"' :: cs ++ '"' :: rest) = some (String.ofList cs, rest) := by
  have hneq : ∀ c ∈ cs, (decide (c ≠ '"')) = true := by
    intro c hc
    rw [decide_eq_true_eq]
    rintro rfl
    exact hcs hc
  rw [List.cons_append, quotedFront, List.dropWhile_append_of_pos hneq,
    List.takeWhile_append_of_pos hneq, List.dropWhile_cons_of_neg (by decide),
    List.takeWhile_cons_of_neg (by decide), List.append_nil]

lemma quotedFront_eq_none (hcs : ∀ c ∈ cs.head?, c ≠ '"') : quotedFront cs = none := by
  cases cs with
  | nil => rfl
  | cons c cs =>
    rw [quotedFront]
    rintro cs' heq
    cases heq
    exact hcs '"' rfl rfl

lemma rangedFront_append {opening closing : Char} (hopening : opensRange opening = true)
    (hcs : ∀ c ∈ cs, closesRange c = false) (hclosing : closesRange closing = true) :
    rangedFront (opening :: cs ++ closing :: rest)
      = some (String.ofList (opening :: cs ++ [closing]), rest) := by
  have hinside : ∀ c ∈ cs, (!closesRange c) = true := by
    intro c hc
    rw [hcs c hc]
    rfl
  have hdrop : (closing :: rest).dropWhile (!closesRange ·) = closing :: rest :=
    List.dropWhile_cons_of_neg (by simp [hclosing])
  have htake : (closing :: rest).takeWhile (!closesRange ·) = [] :=
    List.takeWhile_cons_of_neg (by simp [hclosing])
  rw [List.cons_append, rangedFront, if_pos hopening, List.dropWhile_append_of_pos hinside,
    List.takeWhile_append_of_pos hinside, hdrop, htake, List.append_nil]

lemma rangedFront_eq_none (hcs : ∀ c ∈ cs.head?, opensRange c = false) :
    rangedFront cs = none := by
  cases cs with
  | nil => rfl
  | cons c cs =>
    rw [rangedFront, if_neg]
    rw [hcs c rfl]
    decide

lemma bareFront_append (hcs : cs ≠ []) (hspace : ∀ c ∈ cs, isSpace c = false)
    (hrest : ∀ c ∈ rest.head?, isSpace c = true) :
    bareFront (cs ++ rest) = some (String.ofList cs, rest) := by
  have hinside : ∀ c ∈ cs, (!isSpace c) = true := by
    intro c hc
    rw [hspace c hc]
    rfl
  have htake : rest.takeWhile (!isSpace ·) = [] := by
    cases rest with
    | nil => rfl
    | cons c rest => rw [List.takeWhile_cons_of_neg (by simp [hrest c rfl])]
  have hdrop : rest.dropWhile (!isSpace ·) = rest := by
    cases rest with
    | nil => rfl
    | cons c rest => rw [List.dropWhile_cons_of_neg (by simp [hrest c rfl])]
  rw [bareFront, List.takeWhile_append_of_pos hinside, List.dropWhile_append_of_pos hinside,
    htake, hdrop, List.append_nil]
  cases cs with
  | nil => exact absurd rfl hcs
  | cons c cs => rfl

lemma bareFront_space {c : Char} (hc : isSpace c = true) : bareFront (c :: cs) = none := by
  rw [bareFront, List.takeWhile_cons_of_neg (by simp [hc])]

end Patterns

/-! ## Tokens -/

section Tokens

variable {word : Char → Bool} {cs rest : List Char}

lemma head_space (hapart : ∀ c ∈ rest.head?, isSpace c = true) :
    ∀ c ∈ rest.head?, inKeyword c = false := fun c hc => (isSpace_eq_true_imp (hapart c hc)).1

/-- A keyword is read where it stands. -/
lemma qsStep_keyword {l : QsLexeme} {token : QsToken}
    (hterm : ∀ field value, token ≠ .term field value) (htoken : l.token = some token)
    (hrest : ∀ c ∈ rest.head?, word c = false) :
    qsStep word (l.text ++ rest) = some (some token, rest) := by
  have hfront : operatorFront word (l.text ++ rest) = some (token, rest) := by
    cases l with
    | not =>
      cases htoken
      rw [operatorFront, QsLexeme.text, keywordFront_append_self hrest]
      rfl
    | and =>
      cases htoken
      have hnot : keywordFront word "NOT" ("AND".toList ++ rest) = none := rfl
      rw [operatorFront, QsLexeme.text, hnot, keywordFront_append_self hrest]
      rfl
    | or =>
      cases htoken
      have hnot : keywordFront word "NOT" ("OR".toList ++ rest) = none := rfl
      have hand : keywordFront word "AND" ("OR".toList ++ rest) = none := rfl
      rw [operatorFront, QsLexeme.text, hnot, hand, keywordFront_append_self hrest]
      rfl
    | term t =>
      cases htoken
      exact absurd rfl (hterm _ _)
    | opening => cases htoken
    | closing => cases htoken
  rw [qsStep, hfront]
  rfl

lemma qsStep_of_termFront {token : QsToken} (hoperator : operatorFront word cs = none)
    (hterm : termFront cs = some (token, rest)) : qsStep word cs = some (some token, rest) := by
  rw [qsStep, hoperator, Option.none_or, hterm]

lemma qsStep_field {name value : List Char} {found : String} (hname : TermText.FieldName word name)
    (hvalue : (quotedFront (value ++ rest)).or
      ((rangedFront (value ++ rest)).or (bareFront (value ++ rest))) = some (found, rest)) :
    qsStep word (name ++ ':' :: value ++ rest)
      = some (some (.term (String.ofList name) found), rest) := by
  have hoperator : operatorFront word (name ++ ':' :: (value ++ rest)) = none := by
    refine operatorFront_append_eq_none hname.2.2 fun c hc => ?_
    cases hc
    rfl
  rw [List.append_assoc, List.cons_append]
  refine qsStep_of_termFront hoperator ?_
  rw [termFront, fieldFront_append hname]
  simp only [Option.bind_some, hvalue, Option.map_some, Option.some_or]

/-- A term is read where it stands. -/
lemma qsStep_term {t : TermText} (hvalid : t.Valid word)
    (hapart : t.closed = true ∨ ∀ c ∈ rest.head?, isSpace c = true) :
    qsStep word (t.text ++ rest) = some (some (.term t.field t.value), rest) := by
  cases t with
  | word text =>
    obtain ⟨⟨hne, hspace, hquote⟩, hoperator, hfield⟩ := hvalid
    have hrest := hapart.resolve_left Bool.false_ne_true
    have hquote' : quotedFront (text ++ rest) = none := by
      cases text with
      | nil => exact absurd rfl hne
      | cons c text => exact quotedFront_eq_none hquote
    refine qsStep_of_termFront (operatorFront_append_eq_none hoperator (head_space hrest)) ?_
    rw [TermText.text, termFront, fieldFront_append_eq_none hne hfield hrest, hquote',
      bareFront_append hne hspace hrest]
    rfl
  | phrase text =>
    have hquoted : quotedFront ('"' :: text ++ '"' :: rest) = some (String.ofList text, rest) :=
      quotedFront_append hvalid
    rw [TermText.text, List.append_assoc, List.singleton_append]
    refine qsStep_of_termFront (operatorFront_cons_eq_none rfl) ?_
    rw [termFront, hquoted, List.cons_append, fieldFront_cons_eq_none rfl]
    rfl
  | bare name text =>
    obtain ⟨hname, ⟨hne, hspace, hquote⟩, hopen⟩ := hvalid
    have hrest := hapart.resolve_left Bool.false_ne_true
    have hfound : (quotedFront (text ++ rest)).or
        ((rangedFront (text ++ rest)).or (bareFront (text ++ rest)))
          = some (String.ofList text, rest) := by
      cases text with
      | nil => exact absurd rfl hne
      | cons c text =>
        have hquoted : quotedFront (c :: text ++ rest) = none := quotedFront_eq_none hquote
        have hranged : rangedFront (c :: text ++ rest) = none := rangedFront_eq_none hopen
        rw [bareFront_append hne hspace hrest, hquoted, hranged]
        rfl
    exact qsStep_field hname hfound
  | quoted name text =>
    obtain ⟨hname, hquote⟩ := hvalid
    have hfound : (quotedFront ('"' :: text ++ ['"'] ++ rest)).or
        ((rangedFront ('"' :: text ++ ['"'] ++ rest)).or (bareFront ('"' :: text ++ ['"'] ++ rest)))
          = some (String.ofList text, rest) := by
      rw [List.append_assoc, List.singleton_append, quotedFront_append hquote]
      rfl
    exact qsStep_field hname hfound
  | ranged name opening text closing =>
    obtain ⟨hname, hopening, htext, hclosing⟩ := hvalid
    have hquote : opening ≠ '"' := by
      rintro rfl
      cases hopening
    have hfound : (quotedFront (opening :: text ++ [closing] ++ rest)).or
        ((rangedFront (opening :: text ++ [closing] ++ rest)).or
          (bareFront (opening :: text ++ [closing] ++ rest)))
          = some (String.ofList (opening :: text ++ [closing]), rest) := by
      rw [List.append_assoc, List.singleton_append, rangedFront_append hopening htext hclosing,
        List.cons_append, quotedFront_eq_none (fun c hc => by cases hc; exact hquote)]
      rfl
    exact qsStep_field hname hfound

lemma qsStep_lexeme {l : QsLexeme} {token : QsToken} (htoken : l.token = some token)
    (hvalid : l.Valid word) (hapart : l.Apart word rest) :
    qsStep word (l.text ++ rest) = some (some token, rest) := by
  cases l with
  | term t =>
    cases htoken
    exact qsStep_term hvalid hapart
  | opening => cases htoken
  | closing => cases htoken
  | not => exact qsStep_keyword (by rintro _ _ ⟨⟩; cases htoken) htoken hapart
  | and => exact qsStep_keyword (by rintro _ _ ⟨⟩; cases htoken) htoken hapart
  | or => exact qsStep_keyword (by rintro _ _ ⟨⟩; cases htoken) htoken hapart

lemma qsStep_space {c : Char} (hc : isSpace c = true) :
    qsStep word (c :: rest) = some (none, rest) := by
  obtain ⟨hkeyword, hfield, -, hquote⟩ := isSpace_eq_true_imp hc
  rw [qsStep, operatorFront_cons_eq_none hkeyword, termFront, fieldFront_cons_eq_none hfield,
    quotedFront_eq_none (fun d hd => by cases hd; exact hquote), bareFront_space hc]
  rfl

lemma quotedFront_shorter {value : String} (h : quotedFront cs = some (value, rest)) :
    rest.length < cs.length := by
  unfold quotedFront at h
  split at h
  · next cs =>
    have hle := (List.dropWhile_suffix (· ≠ '"') (l := cs)).length_le
    split at h
    · next heq =>
      cases h
      rw [heq, List.length_cons] at hle
      rw [List.length_cons]
      omega
    · cases h
  · cases h

lemma rangedFront_shorter {value : String} (h : rangedFront cs = some (value, rest)) :
    rest.length < cs.length := by
  cases cs with
  | nil => cases h
  | cons c cs =>
    have hle := List.length_dropWhile_le (!closesRange ·) cs
    rw [rangedFront] at h
    split at h
    · split at h
      · next heq =>
        cases h
        rw [heq, List.length_cons] at hle
        rw [List.length_cons]
        omega
      · cases h
    · cases h

lemma bareFront_shorter {value : String} (h : bareFront cs = some (value, rest)) :
    rest.length < cs.length := by
  have hparts : cs.takeWhile (!isSpace ·) ++ cs.dropWhile (!isSpace ·) = cs :=
    List.takeWhile_append_dropWhile
  have hlength := congrArg List.length hparts
  rw [List.length_append] at hlength
  unfold bareFront at h
  split at h
  · cases h
  · next hne =>
    cases h
    have hpos := List.length_pos_iff.2 hne
    omega

lemma fieldFront_shorter {name : String} (h : fieldFront cs = some (name, rest)) :
    rest.length < cs.length := by
  cases cs with
  | nil => cases h
  | cons c cs =>
    have hle := List.length_dropWhile_le inField (c :: cs)
    rw [fieldFront] at h
    split at h
    · split at h
      · next heq =>
        cases h
        rw [heq, List.length_cons] at hle
        omega
      · cases h
    · cases h

lemma termFront_shorter {token : QsToken} (h : termFront cs = some (token, rest)) :
    rest.length < cs.length := by
  simp only [termFront, Option.or_eq_some_iff, Option.bind_eq_some_iff, Option.map_eq_some_iff,
    Prod.exists, Prod.mk.injEq] at h
  rcases h with ⟨name, left, hfield, value, after, hvalue, -, rfl⟩
    | ⟨-, value, after, hvalue, -, rfl⟩
  · have hname := fieldFront_shorter hfield
    rcases hvalue with hquoted | ⟨-, hranged | ⟨-, hbare⟩⟩
    · exact (quotedFront_shorter hquoted).trans hname
    · exact (rangedFront_shorter hranged).trans hname
    · exact (bareFront_shorter hbare).trans hname
  · rcases hvalue with hquoted | ⟨-, hbare⟩
    · exact quotedFront_shorter hquoted
    · exact bareFront_shorter hbare

lemma operatorFront_shorter {token : QsToken} (h : operatorFront word cs = some (token, rest)) :
    rest.length < cs.length := by
  have hkeyword : ∀ keyword : String, 0 < keyword.toList.length →
      keywordFront word keyword cs = some rest → rest.length < cs.length := by
    intro keyword hpos hfound
    rw [← (keywordFront_eq_some hfound).1, List.length_append]
    omega
  simp only [operatorFront, Option.or_eq_some_iff, Option.map_eq_some_iff, Prod.mk.injEq] at h
  rcases h with ⟨after, hfound, -, rfl⟩ | ⟨-, ⟨after, hfound, -, rfl⟩ | ⟨-, after, hfound, -, rfl⟩⟩
  · exact hkeyword "NOT" (by decide) hfound
  · exact hkeyword "AND" (by decide) hfound
  · exact hkeyword "OR" (by decide) hfound

lemma consumes_qsStep : Lexing.Consumes (qsStep word) := by
  intro cs token rest h
  rw [qsStep] at h
  split at h
  · next found after heq =>
    cases h
    rcases Option.or_eq_some_iff.1 heq with hoperator | ⟨-, hterm⟩
    · exact operatorFront_shorter hoperator
    · exact termFront_shorter hterm
  · cases cs with
    | nil => cases h
    | cons c cs =>
      cases h
      exact Nat.lt_succ_self _

lemma lexes_space {space : List Char} {tokens : List QsToken}
    (hspace : ∀ c ∈ space, isSpace c = true) (h : Lexing.Lexes (qsStep word) rest tokens) :
    Lexing.Lexes (qsStep word) (space ++ rest) tokens := by
  induction space with
  | nil => exact h
  | cons c space ih =>
    obtain ⟨hc, hspace⟩ := List.forall_mem_cons.1 hspace
    exact .step (qsStep_space hc) (ih hspace)

lemma lexes_spelled {ls : List QsLexeme} (hspelled : Spelled word ls cs)
    (hvalid : ∀ l ∈ ls, l.Valid word) (hplain : ∀ l ∈ ls, l.token ≠ none) :
    Lexing.Lexes (qsStep word) cs (ls.filterMap QsLexeme.token) := by
  induction hspelled with
  | @nil space hspace =>
    have hend : Lexing.Lexes (qsStep word) (space ++ []) [] := lexes_space hspace .nil
    rwa [List.append_nil] at hend
  | @cons space l ls rest hspace hapart hrest ih =>
    obtain ⟨hlvalid, hvalid⟩ := List.forall_mem_cons.1 hvalid
    obtain ⟨hlplain, hplain⟩ := List.forall_mem_cons.1 hplain
    obtain ⟨token, htoken⟩ := Option.ne_none_iff_exists'.1 hlplain
    rw [List.append_assoc, List.filterMap_cons_some htoken]
    exact lexes_space hspace (.step (qsStep_lexeme htoken hlvalid hapart) (ih hvalid hplain))

/-- A text that is spelled without parentheses is cut into its lexemes. -/
lemma qsTokenise_spelled {ls : List QsLexeme} {text : String}
    (hspelled : Spelled word ls text.toList) (hvalid : ∀ l ∈ ls, l.Valid word)
    (hplain : ∀ l ∈ ls, l.token ≠ none) :
    qsTokenise word text = ls.filterMap QsLexeme.token := by
  have hlex := (Lexing.lex_eq_ok_iff consumes_qsStep).2 (lexes_spelled hspelled hvalid hplain)
  rw [qsTokenise, hlex]

end Tokens

/-! ## Operands -/

section Operands

variable (py : QsPython) (range : String → String → Option Pred)

namespace QsExpr

/-- The tokens of an expression. -/
def tokens (e : QsExpr) : List QsToken := e.lexemes.filterMap QsLexeme.token

/-- The operands of an expression without parentheses, each with what is in front of it; in front of
    the first there is what is given. -/
def items : Conjunction → QsExpr → List (Conjunction × Pred)
  | c, .both _ a b => a.items c ++ b.items .and
  | c, .either a b => a.items c ++ b.items .or
  | c, e => [(c, e.denote py range)]

lemma items_eq_cons (e : QsExpr) : ∃ p more, ∀ c, e.items py range c = (c, p) :: more := by
  induction e with
  | term t => exact ⟨_, [], fun _ => rfl⟩
  | not e => exact ⟨_, [], fun _ => rfl⟩
  | group e => exact ⟨_, [], fun _ => rfl⟩
  | both written a b iha _ =>
    obtain ⟨p, more, ha⟩ := iha
    refine ⟨p, more ++ b.items py range .and, fun c => ?_⟩
    rw [items, ha, List.cons_append]
  | either a b iha _ =>
    obtain ⟨p, more, ha⟩ := iha
    refine ⟨p, more ++ b.items py range .or, fun c => ?_⟩
    rw [items, ha, List.cons_append]

/-- An expression that does not start with `NOT` starts with a term. -/
lemma tokens_of_not_startsWithNot {e : QsExpr} (hsimple : e.Simple)
    (hstart : e.startsWithNot = false) :
    ∃ field value rest, e.tokens = .term field value :: rest := by
  induction e with
  | term t => exact ⟨t.field, t.value, [], rfl⟩
  | not e => cases hstart
  | group e => exact hsimple.elim
  | both written a b iha _ =>
    obtain ⟨field, value, rest, ha⟩ := iha hsimple.1 hstart
    rw [tokens, lexemes, List.append_assoc, List.filterMap_append, ← tokens, ha, List.cons_append]
    exact ⟨field, value, _, rfl⟩
  | either a b iha _ =>
    obtain ⟨field, value, rest, ha⟩ := iha hsimple.1 hstart
    rw [tokens, lexemes, List.filterMap_append, ← tokens, ha, List.cons_append]
    exact ⟨field, value, _, rfl⟩

/-- The loop lists the operands of an expression, and what stands between them. -/
lemma qsScan_tokens {e : QsExpr} (hsimple : e.Simple) (c : Conjunction) (rest : List QsToken) :
    qsScan py range (e.tokens ++ rest)
      = ((e.items py range c).map Prod.snd ++ (qsScan py range rest).1,
          (e.items py range c).tail.map Prod.fst
            ++ withDefault rest (qsScan py range rest).2) := by
  induction e generalizing c rest with
  | term t => rfl
  | group e => exact hsimple.elim
  | not e =>
    cases e with
    | term t => rfl
    | not e => cases hsimple
    | both written a b => cases hsimple
    | either a b => cases hsimple
    | group e => cases hsimple
  | both written a b iha ihb =>
    obtain ⟨ha, hb, hstart⟩ := hsimple
    obtain ⟨p, more, hitems⟩ := b.items_eq_cons py range
    obtain ⟨q, others, hleft⟩ := a.items_eq_cons py range
    have hright := ihb hb .and rest
    -- the `AND` is a token, or it is put in front of the term that follows
    cases written with
    | true =>
      have htokens : (both true a b).tokens ++ rest = a.tokens ++ (.and :: (b.tokens ++ rest)) := by
        simp [tokens, lexemes, QsLexeme.token]
      rw [htokens, iha ha c, qsScan, hright]
      simp [items, hitems, hleft, withDefault]
    | false =>
      have htokens : (both false a b).tokens ++ rest = a.tokens ++ (b.tokens ++ rest) := by
        simp [tokens, lexemes]
      obtain ⟨field, value, after, hfirst⟩ :=
        tokens_of_not_startsWithNot hb (hstart.resolve_left Bool.false_ne_true)
      have hdefault : ∀ conjunctions, withDefault (b.tokens ++ rest) conjunctions
          = .and :: conjunctions := by
        intro conjunctions
        rw [hfirst]
        rfl
      rw [htokens, iha ha c, hright, hdefault]
      simp [items, hitems, hleft]
  | either a b iha ihb =>
    obtain ⟨ha, hb⟩ := hsimple
    obtain ⟨p, more, hitems⟩ := b.items_eq_cons py range
    obtain ⟨q, others, hleft⟩ := a.items_eq_cons py range
    have hright := ihb hb .or rest
    have htokens : (either a b).tokens ++ rest = a.tokens ++ (.or :: (b.tokens ++ rest)) := by
      simp [tokens, lexemes, QsLexeme.token]
    rw [htokens, iha ha c, qsScan, hright]
    simp [items, hitems, hleft, withDefault]

lemma countP_tokens (e : QsExpr) : e.tokens.countP QsToken.isTerm = e.terms := by
  induction e with
  | term t => rfl
  | not e ih => exact ih
  | group e ih =>
    have htokens : (group e).tokens = e.tokens := by
      rw [tokens, lexemes, List.cons_append, List.filterMap_cons_none rfl, List.filterMap_append,
        List.filterMap_cons_none rfl, List.filterMap_nil, List.append_nil, ← tokens]
    rw [htokens, ih, terms]
  | both written a b iha ihb =>
    have htokens : (both written a b).tokens
        = a.tokens ++ ((if written then [QsToken.and] else []) ++ b.tokens) := by
      cases written <;> simp [tokens, lexemes, QsLexeme.token]
    rw [htokens, List.countP_append, List.countP_append, iha, ihb, terms]
    cases written <;> simp [QsToken.isTerm]
  | either a b iha ihb =>
    have htokens : (either a b).tokens = a.tokens ++ (.or :: b.tokens) := by
      simp [tokens, lexemes, QsLexeme.token]
    rw [htokens, List.countP_append, iha, List.countP_cons_of_neg (by decide), ihb, terms]

/-! ## Groups -/

/-- With no `OR`, the operands go on with the last group. -/
lemma foldl_addOperand_and {operands : List (Conjunction × Pred)}
    (hand : ∀ i ∈ operands, i.1 = .and) (groups : List (List Pred) × List Pred) :
    operands.foldl addOperand groups = (groups.1, groups.2 ++ operands.map Prod.snd) := by
  induction operands generalizing groups with
  | nil => simp
  | cons i operands ih =>
    obtain ⟨hi, hand⟩ := List.forall_mem_cons.1 hand
    have hnext : addOperand groups i = (groups.1, groups.2 ++ [i.2]) := by
      rw [addOperand, hi]
    rw [List.foldl_cons, hnext, ih hand]
    simp

/-- The operands of what is no `OR` all hold exactly if it does, and there is an `AND` in front of
    each but the first. -/
lemma items_of_not_either {word : Char → Bool} {e : QsExpr} (hproper : e.Proper word)
    (heither : e.isEither = false) (c : Conjunction) :
    (∀ i ∈ (e.items py range c).tail, i.1 = .and)
      ∧ ∀ record, ((e.items py range c).map Prod.snd).all (fun p => p record)
        = e.denote py range record := by
  induction e generalizing c with
  | term t => simp [items]
  | not e => simp [items]
  | group e => simp [items]
  | either a b => cases heither
  | both written a b iha ihb =>
    obtain ⟨ha, hb, haproper, hbproper⟩ := hproper
    obtain ⟨htail, hall⟩ := iha haproper ha c
    obtain ⟨htail', hall'⟩ := ihb hbproper hb .and
    obtain ⟨p, more, hitems⟩ := b.items_eq_cons py range
    obtain ⟨q, others, hleft⟩ := a.items_eq_cons py range
    refine ⟨fun i hi => ?_, fun record => ?_⟩
    · rw [items, hleft, hitems, List.cons_append, List.tail_cons] at hi
      rw [hleft, List.tail_cons] at htail
      rw [hitems, List.tail_cons] at htail'
      rcases List.mem_append.1 hi with hi | hi
      · exact htail i hi
      · rcases List.mem_cons.1 hi with rfl | hi
        · rfl
        · exact htail' i hi
    · rw [items, List.map_append, List.all_append, hall, hall', denote]

/-- `OR` and an expression make the groups hold where the expression does. -/
lemma anyGroup_or {word : Char → Bool} {e : QsExpr} (hproper : e.Proper word) (hsimple : e.Simple)
    (groups : List (List Pred) × List Pred) (record : Rec) :
    anyGroup ((e.items py range .or).foldl addOperand groups) record
      = (anyGroup groups record || e.denote py range record) := by
  have hgroup : ∀ e : QsExpr, e.Proper word → e.isEither = false →
      ∀ groups, anyGroup ((e.items py range .or).foldl addOperand groups) record
        = (anyGroup groups record || e.denote py range record) := by
    intro e hproper heither groups
    obtain ⟨p, more, hitems⟩ := e.items_eq_cons py range
    obtain ⟨htail, hall⟩ := items_of_not_either py range hproper heither .or
    rw [← hall record]
    rw [hitems, List.tail_cons] at htail
    rw [hitems, List.foldl_cons, foldl_addOperand_and htail]
    simp [anyGroup, addOperand, Bool.or_assoc]
  induction e generalizing groups with
  | term t => exact hgroup _ hproper rfl groups
  | not e => exact hgroup _ hproper rfl groups
  | both written a b => exact hgroup _ hproper rfl groups
  | group e => exact hsimple.elim
  | either a b iha ihb =>
    rw [items, List.foldl_append, ihb hproper.2 hsimple.2, iha hproper.1 hsimple.1, denote,
      Bool.or_assoc]

/-- The groups of an expression hold where it does. -/
lemma anyGroup_items {word : Char → Bool} {e : QsExpr} (hproper : e.Proper word)
    (hsimple : e.Simple) (record : Rec) :
    anyGroup ((e.items py range .and).foldl addOperand ([], [])) record
      = e.denote py range record := by
  have hgroup : ∀ e : QsExpr, e.Proper word → e.isEither = false →
      anyGroup ((e.items py range .and).foldl addOperand ([], [])) record
        = e.denote py range record := by
    intro e hproper heither
    obtain ⟨p, more, hitems⟩ := e.items_eq_cons py range
    obtain ⟨htail, hall⟩ := items_of_not_either py range hproper heither .and
    rw [← hall record]
    rw [hitems, List.tail_cons] at htail
    rw [hitems, List.foldl_cons, foldl_addOperand_and htail]
    simp [anyGroup, addOperand]
  induction e with
  | term t => exact hgroup _ hproper rfl
  | not e => exact hgroup _ hproper rfl
  | both written a b => exact hgroup _ hproper rfl
  | group e => exact hsimple.elim
  | either a b iha _ =>
    rw [items, List.foldl_append, anyGroup_or py range hproper.2 hsimple.2,
      iha hproper.1 hsimple.1, denote]

lemma combine_tokens {word : Char → Bool} {e : QsExpr} (hproper : e.Proper word)
    (hsimple : e.Simple) (record : Rec) :
    combine (qsScan py range e.tokens).1 (qsScan py range e.tokens).2 record
      = e.denote py range record := by
  obtain ⟨p, more, hitems⟩ := e.items_eq_cons py range
  have hscan := qsScan_tokens py range hsimple .and []
  have hzip : (more.map Prod.fst).zip (more.map Prod.snd) = more :=
    (List.zip_of_prod rfl rfl).symm
  rw [List.append_nil, hitems] at hscan
  rw [hscan, ← anyGroup_items py range hproper hsimple record, hitems]
  simp [combine, qsScan, withDefault, addOperand, hzip]

/-- The lexemes of an expression that is built as its lexemes show can be written so. -/
lemma valid_of_proper {word : Char → Bool} {e : QsExpr} (hproper : e.Proper word) :
    ∀ l ∈ e.lexemes, l.Valid word := by
  induction e with
  | term t =>
    intro l hl
    obtain rfl := List.mem_singleton.1 hl
    exact hproper
  | not e ih =>
    intro l hl
    rcases List.mem_cons.1 hl with rfl | hl
    · trivial
    · exact ih hproper.2 l hl
  | both written a b iha ihb =>
    obtain ⟨-, -, ha, hb⟩ := hproper
    intro l hl
    rcases List.mem_append.1 hl with hl | hl
    · rcases List.mem_append.1 hl with hl | hl
      · exact iha ha l hl
      · cases written with
        | true =>
          obtain rfl := List.mem_singleton.1 hl
          trivial
        | false => cases hl
    · exact ihb hb l hl
  | either a b iha ihb =>
    intro l hl
    rcases List.mem_append.1 hl with hl | hl
    · exact iha hproper.1 l hl
    · rcases List.mem_cons.1 hl with rfl | hl
      · trivial
      · exact ihb hproper.2 l hl
  | group e ih =>
    intro l hl
    rcases List.mem_cons.1 hl with rfl | hl
    · trivial
    · rcases List.mem_append.1 hl with hl | hl
      · exact ih hproper l hl
      · obtain rfl := List.mem_singleton.1 hl
        trivial

/-- A simple expression is written without parentheses. -/
lemma plain_of_simple {e : QsExpr} (hsimple : e.Simple) : ∀ l ∈ e.lexemes, l.token ≠ none := by
  have hboth : ∀ {a b : QsExpr} {between : List QsLexeme}, (∀ l ∈ a.lexemes, l.token ≠ none) →
      (∀ l ∈ between, l.token ≠ none) → (∀ l ∈ b.lexemes, l.token ≠ none) →
      ∀ l ∈ a.lexemes ++ between ++ b.lexemes, l.token ≠ none := by
    intro a b between ha hbetween hb l hl
    rcases List.mem_append.1 hl with hl | hl
    · rcases List.mem_append.1 hl with hl | hl
      · exact ha l hl
      · exact hbetween l hl
    · exact hb l hl
  induction e with
  | term t => simp [lexemes, QsLexeme.token]
  | not e ih =>
    cases e with
    | term t => simp [lexemes, QsLexeme.token]
    | not e => cases hsimple
    | both written a b => cases hsimple
    | either a b => cases hsimple
    | group e => cases hsimple
  | both written a b iha ihb =>
    refine hboth (iha hsimple.1) ?_ (ihb hsimple.2.1)
    cases written <;> simp [QsLexeme.token]
  | either a b iha ihb =>
    intro l hl
    rw [lexemes, ← List.singleton_append, ← List.append_assoc] at hl
    exact hboth (iha hsimple.1) (by simp [QsLexeme.token]) (ihb hsimple.2) l hl
  | group e => exact hsimple.elim

end QsExpr

lemma buildQueryString_of_tokens {body : Object} {text : String} {tokens : List QsToken}
    (hbody : Assoc.get "query" body = some (.str text))
    (htokens : qsTokenise py.word text = tokens) :
    buildQueryString py range body = .ok (tokens.countP QsToken.isTerm,
      combine (qsScan py range tokens).1 (qsScan py range tokens).2) := by
  rw [buildQueryString, hbody]
  simp only [Option.getD_some, htokens]

/-- The clause of a simple expression tests what the expression says: `NOT` binds tightest, then
    `AND`, written or not, then `OR`, and it counts every term that is written. -/
theorem buildQueryString_denotes (e : QsExpr) (body : Object) {text : String}
    (hproper : e.Proper py.word) (hsimple : e.Simple)
    (hspelled : Spelled py.word e.lexemes text.toList)
    (hbody : Assoc.get "query" body = some (.str text)) :
    ∃ p, buildQueryString py range body = .ok (e.terms, p)
      ∧ ∀ record, p record = e.denote py range record := by
  have htokens : qsTokenise py.word text = e.tokens :=
    qsTokenise_spelled hspelled (QsExpr.valid_of_proper hproper) (QsExpr.plain_of_simple hsimple)
  refine ⟨_, ?_, QsExpr.combine_tokens py range hproper hsimple⟩
  rw [buildQueryString_of_tokens py range hbody htokens, e.countP_tokens]

end Operands

/-! ## Spelling -/

/-- Lexemes with a blank in front of each. -/
def spaced (ls : List QsLexeme) : List Char := ls.flatMap fun l => ' ' :: l.text

/-- Any lexemes can be written with blanks. -/
lemma spelled_spaced {word : Char → Bool} (hword : word ' ' = false) (ls : List QsLexeme) :
    Spelled word ls (spaced ls) := by
  have hblank : ∀ c ∈ [' '], isSpace c = true := by
    intro c hc
    obtain rfl := List.mem_singleton.1 hc
    decide
  have hhead : ∀ ls, ∀ c ∈ (spaced ls).head?, c = ' ' := by
    intro ls c hc
    cases ls with
    | nil => cases hc
    | cons l ls =>
      cases hc
      rfl
  induction ls with
  | nil => exact .nil (fun c hc => by cases hc)
  | cons l ls ih =>
    have hapart : l.Apart word (spaced ls) := by
      cases l with
      | term t =>
        refine .inr fun c hc => ?_
        rw [hhead ls c hc]
        decide
      | opening => trivial
      | closing => trivial
      | not => exact fun c hc => by rw [hhead ls c hc, hword]
      | and => exact fun c hc => by rw [hhead ls c hc, hword]
      | or => exact fun c hc => by rw [hhead ls c hc, hword]
    exact .cons hblank hapart ih

/-- Built-ins for texts in ASCII. -/
def asciiQsPython : QsPython where
  toPython := asciiPython
  word c := c.isAlphanum || c = '_'

/-- A word of one letter. -/
def letter (c : Char) : QsExpr := .term (.word [c])

/-- `a OR NOT b c` -/
def denial : QsExpr := .either (letter 'a') (.both false (.not (letter 'b')) (letter 'c'))

lemma letter_proper {word : Char → Bool} {c : Char} (hc : c ∈ ['a', 'b', 'c']) :
    (letter c).Proper word := by
  have hletter : inKeyword c = false ∧ isSpace c = false ∧ c ≠ '"' ∧ fieldFront [c] = none := by
    simp only [List.mem_cons, List.not_mem_nil, or_false] at hc
    rcases hc with rfl | rfl | rfl <;> decide
  obtain ⟨hkeyword, hspace, hquote, hfield⟩ := hletter
  refine ⟨⟨by simp, ?_, ?_⟩, operatorFront_cons_eq_none hkeyword, hfield⟩
  · simpa using hspace
  · simpa using hquote

/-- The clause of `a OR NOT b c`. -/
theorem denial_denotes :
    denial.Proper asciiQsPython.word ∧ denial.Simple
      ∧ Spelled asciiQsPython.word denial.lexemes " a OR NOT b c".toList
      ∧ ∃ p, buildQueryString asciiQsPython (fun _ _ => none) [("query", .str " a OR NOT b c")]
          = .ok (3, p)
        ∧ ∀ record, p record = denial.denote asciiQsPython (fun _ _ => none) record := by
  have hproper : denial.Proper asciiQsPython.word :=
    ⟨letter_proper (by decide), rfl, rfl, ⟨rfl, letter_proper (by decide)⟩,
      letter_proper (by decide)⟩
  have hsimple : denial.Simple := ⟨trivial, rfl, trivial, .inr rfl⟩
  have hspelled : Spelled asciiQsPython.word denial.lexemes " a OR NOT b c".toList :=
    spelled_spaced (by decide) denial.lexemes
  exact ⟨hproper, hsimple, hspelled,
    buildQueryString_denotes asciiQsPython _ denial _ hproper hsimple hspelled rfl⟩

/-- `( a OR b ) AND c` -/
def grouped : QsExpr := .both true (.group (.either (letter 'a') (letter 'b'))) (letter 'c')

lemma qsTokenise_grouped : qsTokenise asciiQsPython.word " ( a OR b ) AND c"
    = [.term "" "(", .term "" "a", .or, .term "" "b", .term "" ")", .and, .term "" "c"] := by
  decide

/-- A record with one value. -/
def recordAc : Rec := ⟨none, [("name", .str "ac")]⟩

lemma qsMakeTermPred_recordAc {value : String}
    (hvalue : hasChar '*' value = false ∧ hasChar '?' value = false) :
    qsMakeTermPred asciiQsPython (fun _ _ => none) "" value recordAc
      = hasSub (asciiPython.lower value) "ac" := by
  have hlower : asciiPython.lower "ac" = "ac" := by decide
  simp [qsMakeTermPred, searchAllValues, searchValue, hasTermText, hvalue, Python.toStr,
    asciiQsPython, hlower, recordAc]

/-- The parentheses of `( a OR b ) AND c` are words that are looked for: the clause does not test
    what the expression says. -/
theorem parentheses_are_words :
    ¬∀ (e : QsExpr) (text : String), e.Proper asciiQsPython.word →
      Spelled asciiQsPython.word e.lexemes text.toList →
      ∃ n p, buildQueryString asciiQsPython (fun _ _ => none) [("query", .str text)] = .ok (n, p)
        ∧ ∀ record, p record = e.denote asciiQsPython (fun _ _ => none) record := by
  intro hall
  have hproper : grouped.Proper asciiQsPython.word :=
    ⟨rfl, rfl, ⟨letter_proper (by decide), letter_proper (by decide)⟩, letter_proper (by decide)⟩
  have hspelled : Spelled asciiQsPython.word grouped.lexemes " ( a OR b ) AND c".toList :=
    spelled_spaced (by decide) grouped.lexemes
  obtain ⟨n, p, hbuild, hdenotes⟩ := hall grouped _ hproper hspelled
  rw [buildQueryString_of_tokens _ _ rfl qsTokenise_grouped] at hbuild
  cases hbuild
  have hfound : ∀ value found, hasChar '*' value = false ∧ hasChar '?' value = false →
      hasSub (asciiPython.lower value) "ac" = found →
      qsMakeTermPred asciiQsPython (fun _ _ => none) "" value recordAc = found := by
    intro value found hvalue hsub
    rw [qsMakeTermPred_recordAc hvalue, hsub]
  have ha := hfound "a" true (by decide) (by decide)
  have hc := hfound "c" true (by decide) (by decide)
  have hopening := hfound "(" false (by decide) (by decide)
  have hclosing := hfound ")" false (by decide) (by decide)
  have hmeans : grouped.denote asciiQsPython (fun _ _ => none) recordAc = true := by
    have hgrouped : grouped.denote asciiQsPython (fun _ _ => none) recordAc
        = ((qsMakeTermPred asciiQsPython (fun _ _ => none) "" "a" recordAc
          || qsMakeTermPred asciiQsPython (fun _ _ => none) "" "b" recordAc)
            && qsMakeTermPred asciiQsPython (fun _ _ => none) "" "c" recordAc) := by
      simp only [grouped, letter, QsExpr.denote, TermText.field, TermText.value]
    rw [hgrouped, ha, hc]
    rfl
  have htests := hdenotes recordAc
  rw [hmeans] at htests
  simp [combine, qsScan, withDefault, addOperand, anyGroup, hopening, hclosing] at htests

end Mockdr.Elastic
