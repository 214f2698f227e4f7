import Mathlib
import Mockdr.Odata.FilterGrammar

/-!
# The text of an OData filter

* `lexeme_append`: a match of `_TOKEN_RE` is the same in front of a parenthesis that closes.
* `tokenise_eq_ok_iff` and `filter_accepts`: what is cut into tokens, and what is accepted.
* `grouped_filters`: filters in parentheses are read each on its own, whatever text they are.
-/

namespace Mockdr

namespace Odata

namespace Filter

/-- `findSome?` of functions that answer the same up to a change of the answer. -/
lemma findSome?_eq_map {α β : Type} {f g : α → Option β} {e : β → β} {l : List α}
    (h : ∀ a ∈ l, g a = (f a).map e) : l.findSome? g = (l.findSome? f).map e := by
  induction l with
  | nil => rfl
  | cons a l ih =>
    rw [List.findSome?_cons, List.findSome?_cons, h a List.mem_cons_self]
    cases f a with
    | none => exact ih fun b hb => h b (List.mem_cons_of_mem _ hb)
    | some b => rfl

/-! ## Matches in front of a parenthesis -/

/-- The marks around tokens are no letters and no digits. -/
structure PlainMarks (py : FilterPython) : Prop where
  alnum : py.isAlnum ')' = false ∧ py.isAlnum ' ' = false
  digit : ∀ c ∈ [')', ' ', '\''], py.digit c = none

section

variable {py : FilterPython} {cs rest stop : List Char} {t : Token}

lemma isDigit_mark {c : Char} (hpy : PlainMarks py) (hc : c ∈ [')', ' ', '\'']) :
    isDigit py c = false := by
  rw [isDigit, hpy.digit c hc]
  rfl

lemma boundary_append (hpy : PlainMarks py) (rest : List Char) :
    boundary py (rest ++ ')' :: stop) = boundary py rest := by
  cases rest with
  | nil =>
    show (!(py.isAlnum ')' || decide (')' = '_'))) = true
    rw [hpy.alnum.1]
    rfl
  | cons d rest => rfl

lemma letters_close {words : List String} {word : String}
    (h : (words.all fun word => word.toList.all fun q => !sameLetter q ')') = true)
    (hword : word ∈ words) : ∀ p ∈ word.toList.map sameLetter, p ')' = false := by
  intro p hp
  obtain ⟨q, hq, rfl⟩ := List.mem_map.1 hp
  simpa using List.all_eq_true.1 (List.all_eq_true.1 h word hword) q hq

lemma keyword_blind (hpy : PlainMarks py) {words : List String}
    (h : (words.all fun word => word.toList.all fun q => !sameLetter q ')') = true) :
    Lexing.Matcher.Blind (')' :: stop) (keyword py words) := by
  intro cs
  refine findSome?_eq_map fun word hword => ?_
  rw [Lexing.fits_blind (letters_close h hword) cs]
  cases Lexing.fits (word.toList.map sameLetter) cs with
  | none => rfl
  | some found =>
    show (if boundary py (found.2 ++ ')' :: stop) then _ else _) = _
    rw [boundary_append hpy]
    dsimp only
    split <;> rfl

/-- No parenthesis, no call. -/
lemma no_call {d : Char} (hd : d ≠ '(') (name ds : List Char) :
    (match d :: ds with
      | '(' :: rest => some (name, rest)
      | _ => none) = none := by
  split
  · rename_i heq
    exact absurd (List.cons.inj heq).1 hd
  · rfl

/-- The parenthesis of a function opens. -/
lemma function_blind : Lexing.Matcher.Blind (')' :: stop) function := by
  intro cs
  refine findSome?_eq_map fun word hword => ?_
  rw [Lexing.fits_blind (letters_close (by decide +kernel) hword) cs]
  cases Lexing.fits (word.toList.map sameLetter) cs with
  | none => rfl
  | some found =>
    obtain ⟨v, rest⟩ := found
    dsimp only [Option.map]
    rw [List.dropWhile_append]
    cases rest.dropWhile isSpace with
    | nil => rfl
    | cons d ds =>
      rw [List.isEmpty_cons, if_neg (by decide), List.cons_append]
      by_cases hd : d = '('
      · subst hd
        rfl
      · exact (no_call hd _ _).trans (congrArg (Option.map _) (no_call hd _ ds)).symm

lemma guid_blind (hpy : PlainMarks py) : Lexing.Matcher.Blind (')' :: stop) (guid py) := by
  intro cs
  have hhex : isHex ')' = false := by decide
  have hdash : decide (')' = '-') = false := by decide
  unfold guid
  dsimp only
  rw [Lexing.fits_blind (by simp [hhex])]
  cases Lexing.fits _ cs with
  | none => rfl
  | some found =>
    show (if boundary py (found.2 ++ ')' :: stop) then _ else _) = _
    rw [boundary_append hpy]
    dsimp only
    split <;> rfl

lemma datetime_blind (hpy : PlainMarks py) :
    Lexing.Matcher.Blind (')' :: stop) (datetime py) := by
  have hd : isDigit py ')' = false := isDigit_mark hpy (by simp)
  exact Lexing.seq_blind (Lexing.fits_blind (by simp [hd])) (Lexing.opt_blind (Lexing.seq_blind
    (Lexing.fits_blind (by simp [hd])) (Lexing.seq_blind (Lexing.opt_blind (Lexing.seq_blind
      (Lexing.fits_blind (by simp)) (Lexing.many1_blind hd))) (Lexing.opt_blind (Lexing.orElse_blind
        (Lexing.fits_blind (by simp)) (Lexing.fits_blind (by simp [hd])))))))

lemma word_blind : Lexing.Matcher.Blind (')' :: stop) word :=
  Lexing.seq_blind (Lexing.fits_blind (by simp; decide)) (Lexing.many_blind (by decide))

lemma number_blind (hpy : PlainMarks py) : Lexing.Matcher.Blind (')' :: stop) (number py) := by
  have hd : isDigit py ')' = false := isDigit_mark hpy (by simp)
  exact Lexing.seq_blind (Lexing.opt_blind (Lexing.fits_blind (by simp)))
    (Lexing.seq_blind (Lexing.many1_blind hd) (Lexing.opt_blind
      (Lexing.seq_blind (Lexing.fits_blind (by simp)) (Lexing.many1_blind hd))))

lemma fits_single (p : Char → Bool) (d : Char) (cs : List Char) :
    Lexing.fits [p] (d :: cs ++ stop)
      = (Lexing.fits [p] (d :: cs)).map fun (v, rest) => (v, rest ++ stop) := by
  cases hp : p d <;> simp [Lexing.fits, hp]

/-- What matches at the front of a text matches in front of a parenthesis too. -/
lemma lexeme_append (hpy : PlainMarks py) {d : Char}
    (hquoted : quoted (d :: cs ++ ')' :: stop)
      = (quoted (d :: cs)).map fun (v, rest) => (v, rest ++ ')' :: stop)) :
    lexeme py (d :: cs ++ ')' :: stop)
      = (lexeme py (d :: cs)).map fun (t, rest) => (t, rest ++ ')' :: stop) := by
  refine findSome?_eq_map fun alternative halternative => ?_
  obtain ⟨kind, m⟩ := alternative
  have hm : m (d :: cs ++ ')' :: stop)
      = (m (d :: cs)).map fun (v, rest) => (v, rest ++ ')' :: stop) := by
    simp only [alternatives, List.mem_cons, Prod.mk.injEq, List.not_mem_nil, or_false]
      at halternative
    rcases halternative with ⟨-, rfl⟩ | ⟨-, rfl⟩ | ⟨-, rfl⟩ | ⟨-, rfl⟩ | ⟨-, rfl⟩ | ⟨-, rfl⟩
      | ⟨-, rfl⟩ | ⟨-, rfl⟩ | ⟨-, rfl⟩ | ⟨-, rfl⟩ | ⟨-, rfl⟩ | ⟨-, rfl⟩ | ⟨-, rfl⟩
    · exact function_blind _
    · exact fits_single _ d cs
    · exact hquoted
    · exact keyword_blind hpy (by decide +kernel) _
    · exact keyword_blind hpy (by decide +kernel) _
    · exact keyword_blind hpy (by decide +kernel) _
    · exact keyword_blind hpy (by decide +kernel) _
    · exact guid_blind hpy _
    · exact datetime_blind hpy _
    · exact word_blind _
    · exact number_blind hpy _
    · exact fits_single _ d cs
    · exact Lexing.many1_blind (by decide) _
  show (m (d :: cs ++ ')' :: stop)).map _ = ((m (d :: cs)).map _).map _
  rw [hm]
  cases m (d :: cs) <;> rfl

/-! ## Every match reads something -/

lemma keyword_consumes {words : List String} (hwords : ∀ word ∈ words, word.toList ≠ []) :
    Lexing.Matcher.Consumes (keyword py words) := by
  intro cs v rest h
  obtain ⟨word, hword, h⟩ := List.exists_of_findSome?_eq_some h
  have hne : word.toList.map sameLetter ≠ [] := fun hnil =>
    hwords word hword (List.map_eq_nil_iff.1 hnil)
  cases hfits : Lexing.fits (word.toList.map sameLetter) cs with
  | none =>
    rw [hfits] at h
    cases h
  | some found =>
    obtain ⟨v', rest'⟩ := found
    rw [hfits] at h
    dsimp only at h
    split at h
    · cases h
      exact Lexing.fits_consumes hne _ _ _ hfits
    · cases h

lemma function_consumes : Lexing.Matcher.Consumes function := by
  intro cs v rest h
  obtain ⟨word, -, h⟩ := List.exists_of_findSome?_eq_some h
  cases hfits : Lexing.fits (word.toList.map sameLetter) cs with
  | none =>
    rw [hfits] at h
    cases h
  | some found =>
    obtain ⟨v', rest'⟩ := found
    rw [hfits] at h
    dsimp only at h
    have hlen := Lexing.fits_length hfits
    have hdrop := (List.dropWhile_sublist isSpace (l := rest')).length_le
    split at h
    · rename_i rest'' hopen
      cases h
      rw [hopen, List.length_cons] at hdrop
      omega
    · cases h

lemma closing_shortens {v : List Char} (h : closing cs = some (v, rest)) :
    rest.length ≤ cs.length := by
  induction cs using closing.induct generalizing v rest with
  | case1 => cases h
  | case2 cs v' rest' hsome ih =>
    rw [closing, hsome] at h
    cases h
    have := ih hsome
    simp only [List.length_cons]
    omega
  | case3 cs hnone ih =>
    rw [closing, hnone] at h
    cases h
    simp
  | case4 cs hpair =>
    rw [closing] at h
    · cases h
      simp
    · exact hpair
  | case5 d cs hpair hquote ih =>
    rw [closing] at h
    · obtain ⟨⟨v', rest'⟩, htail, heq⟩ := Option.map_eq_some_iff.1 h
      cases heq
      exact Nat.le_succ_of_le (ih htail)
    all_goals assumption

lemma quoted_consumes : Lexing.Matcher.Consumes quoted := by
  intro cs v rest h
  unfold quoted at h
  split at h
  · obtain ⟨⟨v', rest'⟩, hclosing, heq⟩ := Option.map_eq_some_iff.1 h
    cases heq
    exact Nat.lt_succ_of_le (closing_shortens hclosing)
  · cases h

lemma guid_consumes : Lexing.Matcher.Consumes (guid py) := by
  intro cs v rest h
  unfold guid at h
  dsimp only at h
  split at h
  · rename_i v' rest' hfits
    split at h
    · cases h
      exact Lexing.fits_consumes (by simp) _ _ _ hfits
    · cases h
  · cases h

lemma datetime_consumes : Lexing.Matcher.Consumes (datetime py) := by
  have htime := Lexing.many1_consumes (p := isDigit py)
  refine Lexing.seq_consumes (Lexing.fits_consumes (List.cons_ne_nil _ _)).shortens
    (Lexing.opt_shortens (Lexing.seq_shortens (Lexing.fits_consumes (List.cons_ne_nil _ _)).shortens
      (Lexing.seq_shortens (Lexing.opt_shortens (Lexing.seq_shortens
        (Lexing.fits_consumes (List.cons_ne_nil _ _)).shortens htime.shortens))
        (Lexing.opt_shortens (Lexing.orElse_shortens
          (Lexing.fits_consumes (List.cons_ne_nil _ _)).shortens
          (Lexing.fits_consumes (List.cons_ne_nil _ _)).shortens)))))
    (.inl (Lexing.fits_consumes (List.cons_ne_nil _ _)))

lemma word_consumes : Lexing.Matcher.Consumes word :=
  Lexing.seq_consumes (Lexing.fits_consumes (List.cons_ne_nil _ _)).shortens Lexing.many_shortens
    (.inl (Lexing.fits_consumes (List.cons_ne_nil _ _)))

lemma number_consumes : Lexing.Matcher.Consumes (number py) := by
  have hdigits := Lexing.many1_consumes (p := isDigit py)
  have hfraction := Lexing.opt_shortens (Lexing.seq_shortens
    (Lexing.fits_consumes (List.cons_ne_nil (fun c : Char => decide (c = '.')) [])).shortens
    hdigits.shortens)
  exact Lexing.seq_consumes
    (Lexing.opt_shortens (Lexing.fits_consumes (List.cons_ne_nil _ _)).shortens)
    (Lexing.seq_shortens hdigits.shortens hfraction)
    (.inr (Lexing.seq_consumes hdigits.shortens hfraction (.inl hdigits)))

/-- Every match reads something. -/
lemma lexeme_consumes : Lexing.Consumes (lexeme py) := by
  intro cs t rest h
  obtain ⟨⟨kind, m⟩, halternative, h⟩ := List.exists_of_findSome?_eq_some h
  obtain ⟨⟨v, rest'⟩, hm, heq⟩ := Option.map_eq_some_iff.1 h
  cases heq
  have hconsumes : Lexing.Matcher.Consumes m := by
    simp only [alternatives, List.mem_cons, Prod.mk.injEq, List.not_mem_nil, or_false]
      at halternative
    rcases halternative with ⟨-, rfl⟩ | ⟨-, rfl⟩ | ⟨-, rfl⟩ | ⟨-, rfl⟩ | ⟨-, rfl⟩ | ⟨-, rfl⟩
      | ⟨-, rfl⟩ | ⟨-, rfl⟩ | ⟨-, rfl⟩ | ⟨-, rfl⟩ | ⟨-, rfl⟩ | ⟨-, rfl⟩ | ⟨-, rfl⟩
    · exact function_consumes
    · exact Lexing.fits_consumes (List.cons_ne_nil _ _)
    · exact quoted_consumes
    · exact keyword_consumes (by decide)
    · exact keyword_consumes (by decide)
    · exact keyword_consumes (by decide)
    · exact keyword_consumes (by decide)
    · exact guid_consumes
    · exact datetime_consumes
    · exact word_consumes
    · exact number_consumes
    · exact Lexing.fits_consumes (List.cons_ne_nil _ _)
    · exact Lexing.many1_consumes
  exact hconsumes cs v rest hm

lemma tokenise_eq_ok_iff {text : String} {ts : List Token} :
    tokenise py text = .ok ts ↔ Lexing.Lexes (lexeme py) text.toList ts := by
  rw [tokenise, mapError_eq_ok_iff, Lexing.lex_eq_ok_iff lexeme_consumes]

/-- A text is accepted exactly if it is cut into tokens from its first character to its last and the
    grammar derives them, with a node that is then the one that is built; the grammar derives no
    other. -/
theorem filter_accepts (py : FilterPython) (allowIn : Bool) (text : String) (node : ODataNode) :
    parseOdataFilter py text allowIn = .ok (some node)
      ↔ strip text ≠ "" ∧ ∃ ts, Lexing.Lexes (lexeme py) text.toList ts
        ∧ Derives allowIn MAX_DEPTH (.of .or) ts node
        ∧ ∀ other, Derives allowIn MAX_DEPTH (.of .or) ts other → other = node := by
  rw [parseOdataFilter]
  constructor
  · intro h
    split at h
    · cases h
    · rename_i hblank
      obtain ⟨ts, hts, hparse⟩ := bind_eq_ok_iff.1 h
      refine ⟨hblank, ts, tokenise_eq_ok_iff.1 hts, parse_iff_derives.1 hparse, ?_⟩
      intro other hother
      have hsame := (@parse_of_derives py _ other allowIn hother).symm.trans hparse
      exact Option.some.inj (Except.ok.inj hsame)
  · rintro ⟨hblank, ts, hts, hderives, -⟩
    rw [if_neg hblank]
    exact bind_eq_ok_iff.2 ⟨ts, tokenise_eq_ok_iff.2 hts, parse_of_derives hderives⟩

/-! ## Texts in parentheses -/

/-- A string ends in front of a mark where it ended, unless a quote was given back that nothing
    closes. -/
lemma closing_append {body v : List Char} (h : closing body = some (v, rest)) :
    closing (body ++ ')' :: stop) = some (v, rest ++ ')' :: stop)
      ∨ ∃ tail, rest = '\'' :: tail ∧ closing tail = none := by
  induction body using closing.induct generalizing v with
  | case1 => cases h
  | case2 cs v' rest' hsome ih =>
    rw [closing, hsome] at h
    cases h
    rcases ih hsome with hmore | hopen
    · left
      rw [List.cons_append, List.cons_append, closing, hmore]
    · exact .inr hopen
  | case3 cs hnone ih =>
    rw [closing, hnone] at h
    cases h
    exact .inr ⟨cs, rfl, hnone⟩
  | case4 cs hpair =>
    rw [closing] at h
    · cases h
      left
      rw [List.cons_append, closing]
      intro cs' heq
      cases rest with
      | nil => exact absurd (List.cons.inj heq).1 (by decide)
      | cons d rest => exact hpair rest (by rw [(List.cons.inj heq).1])
    · exact hpair
  | case5 d cs hpair hquote ih =>
    rw [closing] at h
    · obtain ⟨⟨v', rest'⟩, htail, heq⟩ := Option.map_eq_some_iff.1 h
      cases heq
      rcases ih htail with hmore | hopen
      · left
        rw [List.cons_append, closing, hmore]
        · rfl
        · exact fun _ heq _ => hquote heq
        · exact hquote
      · exact .inr hopen
    all_goals assumption

lemma quoted_of_ne {d : Char} (hd : d ≠ '\'') : quoted (d :: cs) = none := by
  unfold quoted
  split
  · rename_i heq
    exact absurd (List.cons.inj heq).1 hd
  · rfl

/-- A quote that nothing closes is no token. -/
lemma lexeme_unclosed (hpy : PlainMarks py) (h : closing cs = none) :
    lexeme py ('\'' :: cs) = none := by
  have hdigit : isDigit py '\'' = false := isDigit_mark hpy (by simp)
  have hquoted : quoted ('\'' :: cs) = none := by
    rw [quoted, h]
    rfl
  have hdate : datetime py ('\'' :: cs) = none := by
    unfold datetime Lexing.seq
    simp [Lexing.fits, hdigit]
  have hnumber : number py ('\'' :: cs) = none := by
    simp [number, Lexing.seq, Lexing.opt, Lexing.fits, Lexing.many1, hdigit]
  rw [lexeme, List.findSome?_eq_none_iff]
  intro alternative halternative
  obtain ⟨kind, m⟩ := alternative
  have hm : m ('\'' :: cs) = none := by
    simp only [alternatives, List.mem_cons, Prod.mk.injEq, List.not_mem_nil, or_false]
      at halternative
    rcases halternative with ⟨-, rfl⟩ | ⟨-, rfl⟩ | ⟨-, rfl⟩ | ⟨-, rfl⟩ | ⟨-, rfl⟩ | ⟨-, rfl⟩
      | ⟨-, rfl⟩ | ⟨-, rfl⟩ | ⟨-, rfl⟩ | ⟨-, rfl⟩ | ⟨-, rfl⟩ | ⟨-, rfl⟩ | ⟨-, rfl⟩
    · rfl
    · rfl
    · exact hquoted
    · rfl
    · rfl
    · rfl
    · rfl
    · rfl
    · exact hdate
    · rfl
    · exact hnumber
    · rfl
    · rfl
  show (m ('\'' :: cs)).map _ = none
  rw [hm]
  rfl

lemma lexeme_quote (cs : List Char) {v : List Char} (h : quoted ('\'' :: cs) = some (v, rest)) :
    lexeme py ('\'' :: cs) = some (some ⟨.STRING, String.ofList v⟩, rest) := by
  have hfunction : function ('\'' :: cs) = none := rfl
  have hparen : Lexing.fits [fun c => decide (c ∈ ['(', ')'])] ('\'' :: cs) = none := rfl
  simp only [lexeme, alternatives, List.findSome?_cons, hfunction, hparen, h, Option.map]
  rfl

/-- A text that is cut into tokens is cut into the same tokens in front of a parenthesis. -/
lemma lexes_close (hpy : PlainMarks py) {ts us : List Token}
    (hs : Lexing.Lexes (lexeme py) cs ts) (h : Lexing.Lexes (lexeme py) (')' :: stop) us) :
    Lexing.Lexes (lexeme py) (cs ++ ')' :: stop) (ts ++ us) := by
  induction hs with
  | nil => exact h
  | @step cs rest t ts hstep hrest ih =>
    rw [List.append_assoc]
    refine .step ?_ ih
    cases cs with
    | nil => cases hstep
    | cons d cs =>
      have hquoted : quoted (d :: cs ++ ')' :: stop)
          = (quoted (d :: cs)).map fun (v, rest) => (v, rest ++ ')' :: stop) := by
        by_cases hd : d = '\''
        · subst hd
          cases hclosing : closing cs with
          | none =>
            rw [lexeme_unclosed hpy hclosing] at hstep
            cases hstep
          | some found =>
            obtain ⟨v, rest'⟩ := found
            have hfound : quoted ('\'' :: cs)
                = some ((replace "''" "'" (String.ofList v)).toList, rest') := by
              rw [quoted, hclosing]
              rfl
            rcases closing_append hclosing with hmore | ⟨tail, rfl, hnone⟩
            · rw [hfound, List.cons_append, quoted, hmore]
              rfl
            · rw [lexeme_quote cs hfound] at hstep
              cases hstep
              cases hrest with
              | step hopen =>
                rw [lexeme_unclosed hpy hnone] at hopen
                cases hopen
        · rw [List.cons_append, quoted_of_ne hd, quoted_of_ne hd]
          rfl
      rw [lexeme_append hpy hquoted, hstep]
      rfl

lemma lexeme_paren {d : Char} (hd : d = '(' ∨ d = ')') (cs : List Char) :
    lexeme py (d :: cs) = some (some ⟨.PAREN, String.singleton d⟩, cs) := by
  have hfunction : function (d :: cs) = none := by
    rcases hd with rfl | rfl <;> rfl
  have hparen : Lexing.fits [fun c => decide (c ∈ ['(', ')'])] (d :: cs) = some ([d], cs) := by
    rcases hd with rfl | rfl <;> rfl
  simp only [lexeme, alternatives, List.findSome?_cons, hfunction, hparen, Option.map]
  rcases hd with rfl | rfl <;> rfl

/-- A blank and the white space behind it are no token. -/
lemma lexeme_blank (hpy : PlainMarks py) (cs : List Char) :
    lexeme py (' ' :: cs) = some (none, cs.dropWhile isSpace) := by
  have hdigit : isDigit py ' ' = false := isDigit_mark hpy (by simp)
  have hfunction : function (' ' :: cs) = none := rfl
  have hparen : Lexing.fits [fun c => decide (c ∈ ['(', ')'])] (' ' :: cs) = none := rfl
  have hquoted : quoted (' ' :: cs) = none := rfl
  have hkeyword : ∀ words ∈ [["eq", "ne", "ge", "gt", "le", "lt", "in"], ["and", "or"],
      ["true", "false"], ["null"]], keyword py words (' ' :: cs) = none := by
    simp only [List.mem_cons, List.not_mem_nil, or_false]
    rintro words (rfl | rfl | rfl | rfl) <;> rfl
  have hguid : guid py (' ' :: cs) = none := rfl
  have hdate : datetime py (' ' :: cs) = none := by
    unfold datetime Lexing.seq
    simp [Lexing.fits, hdigit]
  have hword : word (' ' :: cs) = none := rfl
  have hnumber : number py (' ' :: cs) = none := by
    simp [number, Lexing.seq, Lexing.opt, Lexing.fits, Lexing.many1, hdigit]
  have hcomma : Lexing.fits [fun c => decide (c = ',')] (' ' :: cs) = none := rfl
  have hspace : Lexing.many1 isSpace (' ' :: cs)
      = some (' ' :: cs.takeWhile isSpace, cs.dropWhile isSpace) := rfl
  simp only [lexeme, alternatives, List.findSome?_cons, hfunction, hparen, hquoted, hguid, hdate,
    hword, hnumber, hcomma, hspace, hkeyword _ List.mem_cons_self,
    hkeyword ["and", "or"] (by decide), hkeyword ["true", "false"] (by decide),
    hkeyword ["null"] (by decide), Option.map]
  rfl

lemma lexeme_conj (hpy : PlainMarks py) (j : Junction) (cs : List Char) :
    lexeme py (j.name.toList ++ ' ' :: cs) = some (some j.token, ' ' :: cs) := by
  have hboundary : boundary py (' ' :: cs) = true := by
    show (!(py.isAlnum ' ' || decide (' ' = '_'))) = true
    rw [hpy.alnum.2]
    rfl
  have hconj : keyword py ["and", "or"] (j.name.toList ++ ' ' :: cs)
      = some (j.name.toList, ' ' :: cs) := by
    cases j with
    | and =>
      have hfits : Lexing.fits ("and".toList.map sameLetter) ("and".toList ++ ' ' :: cs)
          = some ("and".toList, ' ' :: cs) := rfl
      simp only [keyword, Junction.name, List.findSome?_cons, hfits, hboundary]
      rfl
    | or =>
      have hother : Lexing.fits ("and".toList.map sameLetter) ("or".toList ++ ' ' :: cs)
          = none := rfl
      have hfits : Lexing.fits ("or".toList.map sameLetter) ("or".toList ++ ' ' :: cs)
          = some ("or".toList, ' ' :: cs) := rfl
      simp only [keyword, Junction.name, List.findSome?_cons, hother, hfits, hboundary]
      rfl
  simp only [lexeme, alternatives, List.findSome?_cons, hconj]
  cases j <;> rfl

/-- Two filters in parentheses, with a conjunction between them. -/
def inParens (j : Junction) (s t : String) : String :=
  "(" ++ s ++ ") " ++ j.name ++ " (" ++ t ++ ")"

/-- A filter is nested at most so deep. -/
def Within (py : FilterPython) (allowIn : Bool) (levels : ℕ) (text : String) (node : ODataNode) :
    Prop :=
  ∃ ts, tokenise py text = .ok ts ∧ Derives allowIn levels (.of .or) ts node

lemma lexes_parens (hpy : PlainMarks py) {ts us : List Token}
    (h : Lexing.Lexes (lexeme py) cs ts) (hstop : Lexing.Lexes (lexeme py) stop us) :
    Lexing.Lexes (lexeme py) ('(' :: cs ++ ')' :: stop) (openParen :: ts ++ closeParen :: us) :=
  .step (lexeme_paren (.inl rfl) _)
    (lexes_close hpy h (.step (lexeme_paren (.inr rfl) stop) hstop))

lemma lexes_inParens (hpy : PlainMarks py) {s t : String} {ts us : List Token} (j : Junction)
    (hs : Lexing.Lexes (lexeme py) s.toList ts) (ht : Lexing.Lexes (lexeme py) t.toList us) :
    Lexing.Lexes (lexeme py) (inParens j s t).toList
      ((openParen :: ts ++ [closeParen]) ++ j.token :: (openParen :: us ++ [closeParen])) := by
  have htext : (inParens j s t).toList = '(' :: s.toList ++ ')' :: (' ' :: (j.name.toList
      ++ ' ' :: ('(' :: t.toList ++ [')']))) := by
    simp [inParens, String.toList_append]
  have htokens : (openParen :: ts ++ [closeParen]) ++ j.token :: (openParen :: us ++ [closeParen])
      = openParen :: ts ++ closeParen :: (j.token :: (openParen :: us ++ [closeParen])) := by simp
  have hname : (j.name.toList ++ ' ' :: ('(' :: t.toList ++ [')'])).dropWhile isSpace
      = j.name.toList ++ ' ' :: ('(' :: t.toList ++ [')']) := by
    cases j <;> exact List.dropWhile_cons_of_neg (by decide)
  have hparen : ('(' :: t.toList ++ [')']).dropWhile isSpace = '(' :: t.toList ++ [')'] :=
    List.dropWhile_cons_of_neg (by decide)
  rw [htext, htokens]
  refine lexes_parens hpy hs ?_
  -- a blank, the conjunction, a blank, the second filter
  have hblank := lexeme_blank hpy (j.name.toList ++ ' ' :: ('(' :: t.toList ++ [')']))
  have hblank' := lexeme_blank hpy ('(' :: t.toList ++ [')'])
  rw [hname] at hblank
  rw [hparen] at hblank'
  exact .step hblank (.step (lexeme_conj hpy j _) (.step hblank' (lexes_parens hpy ht .nil)))

lemma parseOdataFilter_eq {text : String} {allowIn : Bool} {ts : List Token} {node : ODataNode}
    {c : Char} (hc : c ∈ text.toList) (hspace : isSpace c = false)
    (hs : Lexing.Lexes (lexeme py) text.toList ts)
    (h : Derives allowIn MAX_DEPTH (.of .or) ts node) :
    parseOdataFilter py text allowIn = .ok (some node) := by
  have hne : strip text ≠ "" := by
    intro hnil
    have hmem := mem_strip hc hspace
    rw [hnil] at hmem
    cases hmem
  rw [parseOdataFilter, if_neg hne, tokenise_eq_ok_iff.2 hs]
  exact parse_of_derives h

lemma applyOdataFilter_eq {text : String} {allowIn : Bool} {node : ODataNode}
    (h : parseOdataFilter py text allowIn = .ok (some node)) (records : List Json) :
    applyOdataFilter py records text allowIn
      = .ok (records.filter fun record => matchNode py record node) := by
  rw [applyOdataFilter, h]
  rfl

/-- Filters in parentheses are read each on its own, whatever their texts are, if they leave a level
    for the parentheses: `and` keeps what is left of the one by the other, `or` what one of them
    keeps. -/
theorem grouped_filters (py : FilterPython) (hpy : PlainMarks py) (allowIn : Bool) (s t : String)
    (a b : ODataNode) (hs : parseOdataFilter py s allowIn = .ok (some a))
    (ht : parseOdataFilter py t allowIn = .ok (some b))
    (hdepth : Within py allowIn (MAX_DEPTH - 1) s a ∧ Within py allowIn (MAX_DEPTH - 1) t b) :
    (∀ j, parseOdataFilter py (inParens j s t) allowIn = .ok (some (.group j [a, b])))
      ∧ ∀ records, applyOdataFilter py records (inParens .and s t) allowIn
          = (applyOdataFilter py records s allowIn >>= fun kept =>
              applyOdataFilter py kept t allowIn)
        ∧ applyOdataFilter py records (inParens .or s t) allowIn
          = .ok (records.filter fun record => matchNode py record a || matchNode py record b) := by
  obtain ⟨⟨ts, hts, hderives⟩, us, hus, hderives'⟩ := hdepth
  have hparse : ∀ j, parseOdataFilter py (inParens j s t) allowIn
      = .ok (some (.group j [a, b])) := by
    intro j
    have hopen : '(' ∈ (inParens j s t).toList := by simp [inParens, String.toList_append]
    have hparens := Derives.parens hderives
    have hparens' := Derives.parens hderives'
    refine parseOdataFilter_eq hopen (by decide)
      (lexes_inParens hpy j (tokenise_eq_ok_iff.1 hts) (tokenise_eq_ok_iff.1 hus)) ?_
    cases j with
    | or =>
      have hsingle := Derives.single (j := .and) hparens
      exact Derives.pair (j := .or) hsingle (Derives.single (j := .and) hparens')
    | and => exact .single (j := .or) (Derives.pair (j := .and) hparens hparens')
  refine ⟨hparse, fun records => ⟨?_, ?_⟩⟩
  · have hkept : (applyOdataFilter py records s allowIn >>= fun kept =>
        applyOdataFilter py kept t allowIn) = .ok ((records.filter fun record =>
          matchNode py record a).filter fun record => matchNode py record b) := by
      rw [applyOdataFilter_eq hs]
      exact applyOdataFilter_eq ht _
    rw [hkept, applyOdataFilter_eq (hparse .and), List.filter_filter]
    have hboth : ∀ record, matchNode py record (.group .and [a, b])
        = (matchNode py record b && matchNode py record a) := by
      intro record
      rw [matchNode, matchAll, matchAll, matchAll, Bool.and_true, Bool.and_comm]
    simp only [hboth]
  · rw [applyOdataFilter_eq (hparse .or)]
    simp only [matchNode, matchAny, Bool.or_false]

lemma plainMarks_ascii : PlainMarks asciiFilterPython where
  alnum := by decide
  digit c hc := by
    simp only [List.mem_cons, List.not_mem_nil, or_false] at hc
    rcases hc with rfl | rfl | rfl <;> decide

theorem grouped_filters_name :
    parseOdataFilter asciiFilterPython
        (inParens .and "name eq 'O''Brien' or age gt 4" "endswith(mail, 'x) or (y')") false
      = .ok (some (.group .and
        [.group .or [.clause ⟨"name", some .eq, "O'Brien", .string⟩,
          .clause ⟨"age", some (.range .gt), "4", .string⟩],
        .clause ⟨"mail", some .endswith, "x) or (y", .string⟩])) := by
  have hname : ∀ n, Derives false n (.of .or)
      [⟨.WORD, "name"⟩, ⟨.OP, "eq"⟩, ⟨.STRING, "O'Brien"⟩, ⟨.CONJ, "or"⟩, ⟨.WORD, "age"⟩,
        ⟨.OP, "gt"⟩, ⟨.NUMBER, "4"⟩]
      (.group .or [comparisonOf "name" "eq" ("O'Brien", .string),
        comparisonOf "age" "gt" ("4", .string)]) := fun n =>
    Derives.pair (j := .or)
      (.single (j := .and) (.comparison (by decide) ⟨rfl, rfl⟩))
      (.single (j := .and) (.comparison (by decide) ⟨rfl, rfl⟩))
  have hmail : ∀ n, Derives false n (.of .or)
      [⟨.FUNC, "endswith"⟩, ⟨.WORD, "mail"⟩, ⟨.COMMA, ","⟩, ⟨.STRING, "x) or (y"⟩, closeParen]
      (comparisonOf "mail" "endswith" ("x) or (y", .string)) := fun n =>
    .atom (.call ⟨rfl, rfl⟩)
  have htokens : tokenise asciiFilterPython "name eq 'O''Brien' or age gt 4"
      = .ok [⟨.WORD, "name"⟩, ⟨.OP, "eq"⟩, ⟨.STRING, "O'Brien"⟩, ⟨.CONJ, "or"⟩, ⟨.WORD, "age"⟩,
        ⟨.OP, "gt"⟩, ⟨.NUMBER, "4"⟩] := by decide +kernel
  have htokens' : tokenise asciiFilterPython "endswith(mail, 'x) or (y')"
      = .ok [⟨.FUNC, "endswith"⟩, ⟨.WORD, "mail"⟩, ⟨.COMMA, ","⟩, ⟨.STRING, "x) or (y"⟩,
        closeParen] := by decide +kernel
  have hparse := parseOdataFilter_eq (c := 'n') (by decide +kernel) (by decide)
    (tokenise_eq_ok_iff.1 htokens) (hname MAX_DEPTH)
  have hparse' := parseOdataFilter_eq (c := 'm') (by decide +kernel) (by decide)
    (tokenise_eq_ok_iff.1 htokens') (hmail MAX_DEPTH)
  exact (grouped_filters asciiFilterPython plainMarks_ascii false _ _ _ _ hparse hparse'
    ⟨⟨_, htokens, hname _⟩, _, htokens', hmail _⟩).1 .and

end

end Filter

end Odata

end Mockdr
