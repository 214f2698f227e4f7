import Mathlib
import Mockdr.Splunk.SplCalls
import Mockdr.Splunk.SplText
import Mockdr.Splunk.SplTokens

/-!
# Searches that are parsed in bounded room

What `parse_spl` needs of the stack of the interpreter.

* `Opens` are the numbers of calls of the parser that are open at one time while a text is parsed.
  `Returns`: within a limit of such calls `parse_spl` has its query, and nothing is raised that it
  does not catch.
* `nots` and `sums` are texts that open as many calls as one likes.
* `parse_bounded_iff`: there is a limit for all texts whose chains of `NOT` and whose `+` signs are
  at most so many, exactly if both are bounded.
-/

namespace Mockdr

namespace Splunk

namespace Spl

variable (py : SplPython)

/-- The text that `_parse_search_clause` has parsed as an expression. -/
def remainderOf (q : SPLQuery) (clause : List Char) : List Char :=
  let terms := splitTopLevelTerms clause
  remainderText (terms.foldl (hoistTerm py (hoistable py terms)) ⟨q, false, []⟩).remainder

/-- The text that `parse_spl` has parsed as an expression. -/
def expressionText (query : String) : List Char :=
  let text := expanded py query
  remainderOf py { SPLQuery.empty query with isNotable := text.2 }
    (searchClause py ((splitPipeline text.1).headD []))

/-- While a text is parsed, so many calls can be open. -/
def Opens (mode : Mode) (source : List Char) (n : Nat) : Prop :=
  ∃ ts, tokenize py mode (Kql.stripChars source) = some ts ∧ ts ≠ []
    ∧ Nests py mode (.parseOr false 0 ts) n

/-- A text in which `NOT` is repeated no more often than given. -/
def Denied (r : ℕ∞) (mode : Mode) (source : List Char) : Prop :=
  ∀ ts, tokenize py mode (Kql.stripChars source) = some ts → (notRun py ts : ℕ∞) ≤ r

/-- A text with no more `+` signs than given. -/
def Added (p : ℕ∞) (mode : Mode) (source : List Char) : Prop :=
  ∀ ts, tokenize py mode (Kql.stripChars source) = some ts → (pluses ts : ℕ∞) ≤ p

/-- With room for so many open calls `parse_spl` returns a query: every number can be converted, the
    parser comes to its end, and no more calls are open. -/
structure Returns (limit : Nat) (query : String) : Prop where
  converts : ∀ ts, tokenize py .search (Kql.stripChars (expressionText py query)) = some ts →
    ∀ token ∈ ts, token.kind = .number → numberOf py token.text ≠ none
  ends : ∀ ts, tokenize py .search (Kql.stripChars (expressionText py query)) = some ts →
    ∀ m, parseFuel ts ≤ m →
      parseOr py .search m false 0 ts = parseOr py .search (parseFuel ts) false 0 ts
  fits : ∀ n, Opens py .search (expressionText py query) n → n ≤ limit

variable {py} {mode : Mode} {cs rest : List Char}

/-! ## The bound -/

/-- A text with short chains of `NOT` and few `+` signs opens few calls. -/
lemma opens_le {r p : Nat} {source : List Char} (hnots : Denied py r mode source)
    (hsigns : Added py p mode source) {n : Nat} (h : Opens py mode source n) :
    n ≤ p + 2 + 61 * (r + 6) + 1 := by
  obtain ⟨ts, htokens, -, hnests⟩ := h
  exact nests_le hnests ⟨by exact_mod_cast hnots ts htokens, by exact_mod_cast hsigns ts htokens⟩

/-- A search clause has no `+` signs. -/
lemma added_search (source : List Char) : Added py 0 .search source := by
  intro ts htokens
  have hpluses : pluses ts = 0 := by
    rw [pluses, List.countP_eq_zero]
    intro token htoken
    have hplus := (tokenize_search htokens token htoken).2
    simpa [Token.isPlus] using hplus
  rw [hpluses]
  exact le_rfl

/-- With short chains of `NOT`, a search is parsed in little room. -/
lemma returns_of_denied {r limit : Nat} {query : String} (hlimit : 2 + 61 * (r + 6) + 1 ≤ limit)
    (hnots : Denied py r .search (expressionText py query)) : Returns py limit query where
  converts ts htokens token htoken hkind :=
    absurd hkind (tokenize_search htokens token htoken).1
  ends ts _ m hm := parseOr_of_parseFuel_le py .search false 0 hm
  fits n hopens := by
    have hle := opens_le hnots (p := 0) (added_search _) hopens
    omega

/-! ## Chains -/

/-- `NOT NOT … a` -/
def nots (k : Nat) : List Char := (List.replicate k ['N', 'O', 'T', ' ']).flatten ++ ['a']

/-- `a+a+…+a` -/
def sums (k : Nat) : List Char := 'a' :: (List.replicate k ['+', 'a']).flatten

/-- The token of a word. -/
def wordToken (text : String) : Token := ⟨.word, text⟩

/-- The tokens of `nots`. -/
def notTokens (k : Nat) : List Token := List.replicate k (wordToken "NOT") ++ [wordToken "a"]

/-- The tokens behind the first of `sums`. -/
def sumTokens (k : Nat) : List Token := (List.replicate k [⟨.op, "+"⟩, wordToken "a"]).flatten

lemma lexes_nots (k : Nat) : Lexing.Lexes (nextToken py .search) (nots k) (notTokens k) := by
  induction k with
  | zero =>
    have hword : nextToken py .search ('a' :: [] ++ []) = some (some (wordToken "a"), []) :=
      nextToken_word (by decide) (by decide) (by decide) (by simp [number]) nofun
    exact .step hword .nil
  | succ k ih =>
    have hword : nextToken py .search ('N' :: ['O', 'T'] ++ ' ' :: nots k)
        = some (some (wordToken "NOT"), ' ' :: nots k) :=
      nextToken_word (by decide) (by decide) (by decide) (by simp [number])
        (fun d hd => by cases hd; decide)
    have hblank : nextToken py .search (' ' :: nots k) = some (none, nots k) := by
      have hdrop : (nots k).dropWhile isSpace = nots k := by
        cases k with
        | zero => rfl
        | succ k => rfl
      rw [nextToken_blank (by decide), hdrop]
    exact .step hword (.step hblank ih)

lemma tokenize_of_lexes {ts : List Token} (h : Lexing.Lexes (nextToken py mode) cs ts) :
    tokenize py mode cs = some ts := by
  rw [tokenize, (Lexing.lex_eq_ok_iff nextToken_consumes).2 h]
  rfl

lemma tight_nots (k : Nat) : Kql.Tight (nots k) := by
  refine ⟨?_, 'a', _, rfl, by decide⟩
  cases k with
  | zero => exact ⟨'a', [], rfl, by decide⟩
  | succ k => exact ⟨'N', _, rfl, by decide⟩

lemma stripChars_of_tight (h : Kql.Tight cs) : Kql.stripChars cs = cs := by
  have hpadded := @Kql.stripChars_padded [] cs [] (by simp) h (by simp)
  rwa [List.nil_append, List.append_nil] at hpadded

lemma tokenize_nots (k : Nat) :
    tokenize py .search (Kql.stripChars (nots k)) = some (notTokens k) := by
  rw [stripChars_of_tight (tight_nots k)]
  exact tokenize_of_lexes (lexes_nots k)

/-- Below a chain of `NOT` as many calls are open. -/
lemma nests_notTokens (hnot : py.upper "NOT" = "NOT") (v : Bool) (d k : Nat) :
    Nests py mode (.parseNot v d (notTokens k)) (k + 1) := by
  induction k with
  | zero => exact .here
  | succ k ih =>
    have haccept : accept py "NOT" (notTokens (k + 1)) = some (notTokens k) := if_pos hnot
    exact .call (.not_not haccept) ih

lemma opens_nots (hnot : py.upper "NOT" = "NOT") (k : Nat) :
    Opens py .search (nots k) (k + 3) := by
  refine ⟨notTokens k, tokenize_nots k, ?_, ?_⟩
  · exact List.append_ne_nil_of_right_ne_nil _ (List.cons_ne_nil _ _)
  · exact .call (.or_and (by decide) .first) (.call (.and_not (by decide) .first)
      (nests_notTokens hnot false 2 k))

/-! ## Sums -/

lemma lexes_sums (ha : py.isDigit 'a' = false) (hplus : py.isDigit '+' = false) (k : Nat) :
    Lexing.Lexes (nextToken py .where) (sums k) (wordToken "a" :: sumTokens k) := by
  have hword : ∀ rest, (∀ c ∈ rest.head?, c = '+') →
      nextToken py .where ('a' :: rest) = some (some (wordToken "a"), rest) := by
    intro rest hrest
    have hnumber : number py .where ('a' :: [] ++ rest) = none := by
      simp [number, ha]
    exact nextToken_word (by decide) (by decide) (by decide) hnumber
      (fun c hc => by rw [hrest c hc]; decide)
  induction k with
  | zero => exact .step (hword [] (by simp)) .nil
  | succ k ih =>
    have hsign : nextToken py .where ('+' :: sums k) = some (some ⟨.op, "+"⟩, sums k) := by
      have hspace : isSpace '+' = false := by decide
      have hop : operatorOf .where ('+' :: sums k) = some (['+'], sums k) := rfl
      have hnumber : number py .where ('+' :: sums k) = none := by
        simp [number, hplus]
      simp [nextToken, hspace, quotation, hnumber, hop]
    exact .step (hword _ (fun c hc => by cases hc; rfl)) (.step hsign ih)

lemma tokenize_sums (ha : py.isDigit 'a' = false) (hplus : py.isDigit '+' = false) (k : Nat) :
    tokenize py .where (Kql.stripChars (sums k)) = some (wordToken "a" :: sumTokens k) := by
  have hlast : ∃ front, sums k = front ++ ['a'] := by
    induction k with
    | zero => exact ⟨[], rfl⟩
    | succ k ih =>
      obtain ⟨front, hfront⟩ := ih
      refine ⟨'a' :: '+' :: front, ?_⟩
      rw [List.cons_append, List.cons_append, ← hfront]
      rfl
  obtain ⟨front, hfront⟩ := hlast
  have htight : Kql.Tight (sums k) :=
    ⟨⟨'a', _, rfl, by decide⟩, ⟨'a', front, hfront, by decide⟩⟩
  rw [stripChars_of_tight htight]
  exact tokenize_of_lexes (lexes_sums ha hplus k)

/-- What has been read of a sum, with so many signs. -/
def sumNode : Nat → Node
  | 0 => .fieldRef "a"
  | k + 1 => .binOp .add (sumNode k) (.fieldRef "a")

lemma returned_operand (v : Bool) (k : Nat) :
    Returned (parseMultiplicative py .where) v 2 (wordToken "a" :: sumTokens k) (.fieldRef "a")
      (sumTokens k) := by
  have hopened : opened (sumTokens k) = none := by
    cases k with
    | zero => rfl
    | succ k => rfl
  have hend : multiplicativeOf .where (sumTokens k) = none := by
    cases k with
    | zero => rfl
    | succ k => rfl
  have hatom : parseAtom py .where 1 v 2 (wordToken "a" :: sumTokens k)
      = some (.fieldRef "a", sumTokens k) := by
    rw [parseAtom_cons, hopened]
    rfl
  refine ⟨2, ?_⟩
  rw [parseMultiplicative, hatom]
  simp only [Option.bind_eq_bind, Option.bind_some, multiplicativeRest, hend]

lemma folds_sum (v : Bool) (j i : Nat) :
    Folds (Returned (parseMultiplicative py .where) v 2) additiveOf
      (wordToken "a" :: sumTokens (j + i)) (sumNode j) (sumTokens i) := by
  induction j generalizing i with
  | zero =>
    rw [Nat.zero_add]
    exact .first (returned_operand v i)
  | succ j ih =>
    have hbefore := ih (i + 1)
    rw [← Nat.add_assoc, Nat.add_right_comm] at hbefore
    have hop : additiveOf (sumTokens (i + 1)) = some (.add, wordToken "a" :: sumTokens i) := rfl
    exact .next hbefore hop (returned_operand v i)

lemma nests_sumNode (k : Nat) : Nests py mode (.staticType (sumNode k)) (k + 1) := by
  induction k with
  | zero => exact .here
  | succ k ih => exact .call .add_left ih

lemma opens_sums (ha : py.isDigit 'a' = false) (hplus : py.isDigit '+' = false)
    (hupper : py.upper "a" ≠ "NOT") (k : Nat) : Opens py .where (sums (k + 1)) (k + 7) := by
  refine ⟨_, tokenize_sums ha hplus (k + 1), List.cons_ne_nil _ _, ?_⟩
  have haccept : accept py "NOT" (wordToken "a" :: sumTokens (k + 1)) = none := if_neg hupper
  have hop : additiveOf (sumTokens 1) = some (.add, wordToken "a" :: sumTokens 0) := rfl
  have hcheck : Calls py .where (.parseAdditive false 2 (wordToken "a" :: sumTokens (k + 1)))
      (.checkBinop (sumNode k) (.fieldRef "a")) :=
    .additive_check nofun (folds_sum false k 1) hop (returned_operand false 0)
  exact .call (.or_and (by decide) .first) (.call (.and_not (by decide) .first)
    (.call (.not_comparison haccept) (.call .comparison_left (.call hcheck
      (.call .binop_left (nests_sumNode k))))))

/-- No `NOT` is in a sum. -/
lemma denied_sums (ha : py.isDigit 'a' = false) (hplus : py.isDigit '+' = false)
    (hupper : py.upper "a" ≠ "NOT") (hsign : py.upper "+" ≠ "NOT") (k : Nat) :
    Denied py 0 .where (sums k) := by
  intro ts htokens
  rw [tokenize_sums ha hplus] at htokens
  cases htokens
  have hrest : notRun py (sumTokens k) = 0 := by
    induction k with
    | zero => rfl
    | succ k ih =>
      have hcons : sumTokens (k + 1) = ⟨.op, "+"⟩ :: wordToken "a" :: sumTokens k := rfl
      rw [hcons, notRun, notRun, ih, leadingNots, leadingNots, if_neg hsign, wordToken,
        if_neg hupper]
      rfl
  rw [notRun, hrest, leadingNots, wordToken, if_neg hupper]
  exact le_rfl

/-! ## A search of a chain -/

lemma hasSub_eq_false {c : Char} {l : List Char} {s : String} (hc : c ∉ s.toList) :
    hasSub (String.ofList (c :: l)) s = false := by
  rw [hasSub, List.any_eq_false]
  intro t ht hfront
  rw [String.toList_ofList, List.isPrefixOf_iff_prefix] at hfront
  exact hc (((List.mem_tails _ _).1 ht).subset (hfront.subset (List.mem_cons_self ..)))

lemma expandMacros_eq_self (h : '`' ∉ cs) : expandMacros py cs = cs := by
  have hlex : ∀ cs : List Char, '`' ∉ cs →
      Lexing.lexFrom (expandStep py) cs.length cs = .ok (cs.map ([·])) := by
    intro cs
    induction cs with
    | nil => exact fun _ => rfl
    | cons c cs ih =>
      intro h
      obtain ⟨hc, hcs⟩ := not_or.1 (fun hor => h (List.mem_cons.2 hor))
      have hstep : expandStep py (c :: cs) = some (some [c], cs) := by
        rw [expandStep, if_neg (Ne.symm hc)]
      rw [List.length_cons, Lexing.lexFrom, hstep]
      simp only [ih hcs]
      rfl
  rw [expandMacros, Lexing.lex, hlex cs h]
  exact List.flatMap_singleton' cs

lemma uncut_of_not_mem {s : Nesting} {l : List Char} {next : Nesting → Char → Nesting}
    (h : '|' ∉ l) : Delimited.Uncut next .closed '|' s l := by
  induction l generalizing s with
  | nil => trivial
  | cons c l ih =>
    obtain ⟨hc, hl⟩ := not_or.1 (fun hor => h (List.mem_cons.2 hor))
    exact ⟨fun hcut => hc hcut.1.symm, ih hl⟩

/-- The words of `nots`. -/
def notWords (k : Nat) : List (List Char) := List.replicate k ['N', 'O', 'T'] ++ [['a']]

lemma splitTopLevelTerms_nots (k : Nat) : splitTopLevelTerms (nots k) = notWords k := by
  induction k with
  | zero => decide
  | succ k ih =>
    have hword : ∀ cs, termsFrom .closed [] ('N' :: 'O' :: 'T' :: ' ' :: cs)
        = ['N', 'O', 'T'] :: termsFrom .closed [] cs := fun _ => rfl
    exact (hword (nots k)).trans (congrArg (['N', 'O', 'T'] :: ·) ih)

lemma remainderText_notWords (k : Nat) : remainderText (notWords k) = nots k := by
  have hcons : ∀ k, notWords (k + 1) = ['N', 'O', 'T'] :: notWords k := fun _ => rfl
  have hword : Kql.stripChars ['N', 'O', 'T'] = ['N', 'O', 'T'] := by decide
  have hwords : ((notWords k).map Kql.stripChars).filter (· ≠ []) = notWords k := by
    induction k with
    | zero => decide
    | succ k ih => rw [hcons, List.map_cons, hword, List.filter_cons_of_pos (by decide), ih]
  rw [remainderText, hwords]
  clear hwords
  induction k with
  | zero => rfl
  | succ k ih =>
    have hne : notWords k ≠ [] := List.append_ne_nil_of_right_ne_nil _ (List.cons_ne_nil _ _)
    rw [hcons, List.intercalate_cons_of_ne_nil hne, ih]
    rfl

lemma mem_nots {c : Char} {k : Nat} (h : c ∈ nots k) : c ∈ ['N', 'O', 'T', ' ', 'a'] := by
  induction k with
  | zero =>
    rw [List.mem_singleton.1 h]
    decide
  | succ k ih =>
    have hcons : c ∈ ['N', 'O', 'T', ' '] ++ nots k := h
    rcases List.mem_append.1 hcons with hc | hc
    · exact List.mem_append_left ['a'] hc
    · exact ih hc

/-- The loop of `_parse_search_clause` keeps the words. -/
lemma remainderOf_nots (hnot : py.upper "NOT" = "NOT") (ha : py.upper "a" ≠ "NOT") (q : SPLQuery)
    (k : Nat) : remainderOf py q (nots k) = nots k := by
  have hkeyword : ∀ hoists h, (hoistTerm py hoists h ['N', 'O', 'T']).remainder
      = h.remainder ++ [['N', 'O', 'T']] := by
    intro hoists h
    have htrue : isKeyword py "NOT" ['N', 'O', 'T'] = true := by
      rw [isKeyword, decide_eq_true_eq]
      exact hnot
    rw [hoistTerm, if_pos htrue]
  have hword : ∀ hoists h, (hoistTerm py hoists h ['a']).remainder = h.remainder ++ [['a']] := by
    intro hoists h
    have hfalse : isKeyword py "NOT" ['a'] = false := by
      rw [isKeyword, decide_eq_false_iff_not]
      exact ha
    have hterm : termOf py ['a'] = none := by
      have hisWord : py.isWord 'a' = true := by
        rw [py.isWord_ascii 'a' (by decide)]
        decide
      simp [termOf, hisWord, show isSpace 'a' = false by decide]
    rw [hoistTerm, hfalse, hterm]
    rfl
  have hloop : ∀ hoists k h, ((List.replicate k ['N', 'O', 'T']).foldl (hoistTerm py hoists)
      h).remainder = h.remainder ++ List.replicate k ['N', 'O', 'T'] := by
    intro hoists k
    induction k with
    | zero => exact fun h => (List.append_nil _).symm
    | succ k ih =>
      intro h
      rw [List.replicate_succ, List.foldl_cons, ih, hkeyword, List.append_assoc]
      rfl
  rw [remainderOf, splitTopLevelTerms_nots, notWords, List.foldl_append]
  simp only [List.foldl_cons, List.foldl_nil, hword, hloop, List.nil_append]
  exact remainderText_notWords k

/-- A search of a chain of `NOT` has the chain parsed. -/
lemma expressionText_nots (hnot : py.upper "NOT" = "NOT") (ha : py.upper "a" ≠ "NOT") (k : Nat) :
    expressionText py (String.ofList (nots k)) = nots k := by
  have hstrip : strip (String.ofList (nots k)) = String.ofList (nots k) := by
    have hlist : strip (String.ofList (nots k))
        = String.ofList (Kql.stripChars (String.ofList (nots k)).toList) := rfl
    rw [hlist, String.toList_ofList, stripChars_of_tight (tight_nots k)]
  have hout : ∀ c, c ∉ ['N', 'O', 'T', ' ', 'a'] → c ∉ nots k := fun c hc hmem => hc (mem_nots hmem)
  have hnotable : hasSub "`notable`" (String.ofList (nots k)) = false := by
    refine hasSub_eq_false (c := '`') (l := "notable`".toList) ?_
    rw [String.toList_ofList]
    exact hout '`' (by decide)
  have hexpanded : expanded py (String.ofList (nots k)) = (nots k, false) := by
    rw [expanded, hstrip, hnotable]
    simp only [Bool.false_eq_true, if_false, String.toList_ofList,
      expandMacros_eq_self (hout '`' (by decide))]
  have hpipeline : splitPipeline (nots k) = [nots k] := by
    rw [splitPipeline, Delimited.cut,
      Delimited.cutFrom_of_uncut (uncut_of_not_mem (hout '|' (by decide))), List.nil_append]
  have hclause : searchClause py (nots k) = nots k := by
    have hascii : (nots k).all (fun c => c.toNat < 128) = true := by
      rw [List.all_eq_true]
      intro c hc
      have hall : ['N', 'O', 'T', ' ', 'a'].all (fun c => c.toNat < 128) = true := by decide
      exact List.all_eq_true.1 hall c (mem_nots hc)
    have hlower := py.lower_ascii (String.ofList (nots k)) (by rwa [String.toList_ofList])
    have hstart : startsWith (py.lower (String.ofList (nots k))) "search " = false := by
      rw [hlower, startsWith, cutPrefix]
      simp only [String.toList_ofList]
      cases k with
      | zero => rfl
      | succ k => rfl
    rw [searchClause, stripChars_of_tight (tight_nots k), hstart]
    rfl
  rw [expressionText, hexpanded]
  simp only [hpipeline, List.headD_cons, hclause]
  exact remainderOf_nots hnot ha _ k

/-! ## The condition -/

section Condition

variable (hupper : ∀ s : String, (s.toList.all fun c => c.toNat < 128) = true →
    py.upper s = String.ofList (s.toList.map Char.toUpper))
  (hdigit : ∀ c : Char, c.toNat < 128 → py.isDigit c = c.isDigit)

include hupper in
lemma upper_words : py.upper "NOT" = "NOT" ∧ py.upper "a" ≠ "NOT" ∧ py.upper "+" ≠ "NOT" := by
  rw [hupper "NOT" (by decide), hupper "a" (by decide), hupper "+" (by decide)]
  decide

include hupper hdigit in
/-- There is room in which every text of a kind is parsed, and `parse_spl` returns for every search
    of that kind, exactly if the kind bounds the chains of `NOT` and, for `where` and `eval`, the
    number of `+` signs. -/
theorem parse_bounded_iff (r p : ℕ∞) :
    (∃ limit : Nat,
      (∀ mode source, Denied py r mode source → Added py p mode source →
        ∀ n, Opens py mode source n → n ≤ limit)
      ∧ ∀ query, Denied py r .search (expressionText py query) → Returns py limit query)
      ↔ r ≠ ⊤ ∧ p ≠ ⊤ := by
  obtain ⟨hnot, ha, hsign⟩ := upper_words hupper
  have ha' : py.isDigit 'a' = false := (hdigit 'a' (by decide)).trans (by decide)
  have hplus' : py.isDigit '+' = false := (hdigit '+' (by decide)).trans (by decide)
  constructor
  · rintro ⟨limit, hopens, -⟩
    constructor
    · rintro rfl
      have hadded : Added py p .search (nots limit) := fun ts hts =>
        (added_search (nots limit) ts hts).trans (bot_le : 0 ≤ p)
      have hle := hopens .search (nots limit) (fun _ _ => le_top) hadded _ (opens_nots hnot limit)
      omega
    · rintro rfl
      have hdenied : Denied py r .where (sums (limit + 1)) := fun ts hts =>
        (denied_sums ha' hplus' ha hsign (limit + 1) ts hts).trans (bot_le : 0 ≤ r)
      have hle := hopens .where (sums (limit + 1)) hdenied (fun _ _ => le_top) _
        (opens_sums ha' hplus' ha limit)
      omega
  · rintro ⟨hr, hp⟩
    lift r to ℕ using hr
    lift p to ℕ using hp
    exact ⟨p + 2 + 61 * (r + 6) + 1,
      fun _ _ hdenied hadded _ hopens => opens_le hdenied hadded hopens,
      fun _ hdenied => returns_of_denied (by omega) hdenied⟩

end Condition

/-- Chains of three and sums of two, for the built-ins on ASCII text. -/
theorem parse_bounded_three_two :
    ∃ limit : Nat,
      (∀ mode source, Denied asciiSplPython 3 mode source → Added asciiSplPython 2 mode source →
        ∀ n, Opens asciiSplPython mode source n → n ≤ limit)
      ∧ ∀ query, Denied asciiSplPython 3 .search (expressionText asciiSplPython query) →
        Returns asciiSplPython limit query :=
  (parse_bounded_iff (fun _ _ => rfl) (fun _ _ => rfl) 3 2).2
    ⟨ENat.natCast_ne_top 3, ENat.natCast_ne_top 2⟩

/-- A chain of a thousand `NOT` is parsed in no thousand calls, and no number of them is enough for
    all texts. -/
theorem nots_overflow :
    ¬Returns asciiSplPython 1000 (String.ofList (nots 1000))
      ∧ ¬∃ limit : Nat, ∀ mode source n, Opens asciiSplPython mode source n → n ≤ limit := by
  have hnot : asciiSplPython.upper "NOT" = "NOT" := by decide
  have ha : asciiSplPython.upper "a" ≠ "NOT" := by decide
  constructor
  · intro h
    have hopens := opens_nots hnot 1000
    rw [← expressionText_nots hnot ha 1000] at hopens
    exact absurd (h.fits _ hopens) (by decide)
  · rintro ⟨limit, hlimit⟩
    have hle := hlimit .search (nots limit) _ (opens_nots hnot limit)
    omega

end Spl

end Splunk

end Mockdr
