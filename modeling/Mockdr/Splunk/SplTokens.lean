import Mockdr.Mde.KqlLiteral
import Mockdr.Splunk.SplExpr

/-!
# The tokens of an expression

What one match of the patterns of `utils/splunk/spl_expr.py` reads.

* `nextToken_consumes`: a match reads something.
* `nextToken_word`: a word is read up to where it ends.
* `tokenize_search`: in a search clause there are no numbers and no `+` signs.
-/

namespace Mockdr

namespace Splunk

namespace Spl

variable {py : SplPython} {mode : Mode} {cs rest : List Char}

/-! ## What a match leaves -/

lemma length_quotation {mark : Char} {read : List Char}
    (h : quotation mark cs = some (read, rest)) : rest.length < cs.length := by
  cases cs with
  | nil => cases h
  | cons c cs =>
    rw [quotation] at h
    split at h
    · obtain ⟨between, hbetween, heq⟩ := Option.map_eq_some_iff.1 h
      cases heq
      exact Nat.lt_succ_of_lt (Kql.length_quoted hbetween)
    · cases h

lemma length_number {read : List Char} (h : number py mode cs = some (read, rest)) :
    rest.length < cs.length := by
  simp only [number] at h
  generalize (if cs.head? = some '-' then ['-'] else []) = sign at h
  have hparts : (cs.drop sign.length).takeWhile py.isDigit
      ++ (cs.drop sign.length).dropWhile py.isDigit = cs.drop sign.length :=
    List.takeWhile_append_dropWhile
  have hsplit := congrArg List.length hparts
  rw [List.length_append, List.length_drop] at hsplit
  split at h
  · cases h
  · next hdigits =>
    have hpos := List.length_pos_of_ne_nil (not_or.1 hdigits).2
    split at h
    · cases h
      have hle := (List.dropWhile_sublist py.isDigit
        (l := ((cs.drop sign.length).dropWhile py.isDigit).drop 1)).length_le
      rw [List.length_drop] at hle
      omega
    · cases h
      omega

lemma operatorOf_eq_some {read : List Char} (h : operatorOf mode cs = some (read, rest)) :
    cs = read ++ rest ∧ (read ∈ [['<', '='], ['>', '='], ['!', '='], ['=', '=']]
      ∨ ∃ c ∈ operatorChars mode, read = [c]) := by
  unfold operatorOf at h
  split at h
  · cases h
    exact ⟨rfl, .inl (by decide)⟩
  · cases h
    exact ⟨rfl, .inl (by decide)⟩
  · cases h
    exact ⟨rfl, .inl (by decide)⟩
  · cases h
    exact ⟨rfl, .inl (by decide)⟩
  · split at h
    · next hc =>
      cases h
      exact ⟨rfl, .inr ⟨_, hc, rfl⟩⟩
    · cases h
  · cases h

lemma length_operatorOf {read : List Char} (h : operatorOf mode cs = some (read, rest)) :
    rest.length < cs.length := by
  obtain ⟨rfl, hread⟩ := operatorOf_eq_some h
  have hpos : 0 < read.length := by
    rcases hread with hread | ⟨c, -, rfl⟩
    · simp only [List.mem_cons, List.not_mem_nil, or_false] at hread
      rcases hread with rfl | rfl | rfl | rfl <;> exact Nat.succ_pos _
    · exact Nat.succ_pos _
  rw [List.length_append]
  omega

/-- What is read in a match: white space, or one of the kinds of tokens. -/
lemma nextToken_eq_some {token : Option Token} (h : nextToken py mode cs = some (token, rest)) :
    (∃ c, ∃ cs', cs = c :: cs' ∧ isSpace c = true ∧ token = none ∧ rest = cs.dropWhile isSpace)
      ∨ ∃ read, (quotation '"' cs = some (read, rest) ∧ token = some ⟨.string, String.ofList read⟩)
        ∨ (mode ≠ .search ∧ quotation '\'' cs = some (read, rest)
          ∧ token = some ⟨.fieldname, String.ofList read⟩)
        ∨ (number py mode cs = some (read, rest) ∧ token = some ⟨.number, String.ofList read⟩)
        ∨ (operatorOf mode cs = some (read, rest) ∧ token = some ⟨.op, String.ofList read⟩)
        ∨ ∃ c cs', cs = c :: cs' ∧ isWordChar mode c = true ∧ rest = cs.dropWhile (isWordChar mode)
          ∧ token = some ⟨.word, String.ofList read⟩ := by
  cases cs with
  | nil => cases h
  | cons c cs =>
    simp only [nextToken] at h
    split at h
    · next hspace =>
      cases h
      exact .inl ⟨c, cs, rfl, hspace, rfl, rfl⟩
    · simp only [Option.or_eq_some_iff, Option.map_eq_some_iff] at h
      rcases h with (⟨read, hread, h⟩ | ⟨-, read, hread, h⟩)
        | ⟨-, ⟨read, hread, h⟩ | ⟨-, ⟨read, hread, h⟩ | ⟨-, h⟩⟩⟩
      · cases h
        exact .inr ⟨read.1, .inl ⟨hread, rfl⟩⟩
      · cases h
        split at hread
        · cases hread
        · next hmode => exact .inr ⟨read.1, .inr (.inl ⟨hmode, hread, rfl⟩)⟩
      · cases h
        exact .inr ⟨read.1, .inr (.inr (.inl ⟨hread, rfl⟩))⟩
      · cases h
        exact .inr ⟨read.1, .inr (.inr (.inr (.inl ⟨hread, rfl⟩)))⟩
      · split at h
        · next hword =>
          cases h
          exact .inr ⟨_, .inr (.inr (.inr (.inr ⟨c, cs, rfl, hword, rfl, rfl⟩)))⟩
        · cases h

/-- Every match reads something. -/
lemma nextToken_consumes : Lexing.Consumes (nextToken py mode) := by
  intro cs token rest h
  rcases nextToken_eq_some h with ⟨c, cs', rfl, hspace, -, rfl⟩ | ⟨read, hread⟩
  · exact Kql.length_dropWhile_lt hspace
  · rcases hread with ⟨hread, -⟩ | ⟨-, hread, -⟩ | ⟨hread, -⟩ | ⟨hread, -⟩
      | ⟨c, cs', rfl, hword, rfl, -⟩
    · exact length_quotation hread
    · exact length_quotation hread
    · exact length_number hread
    · exact length_operatorOf hread
    · exact Kql.length_dropWhile_lt hword

/-! ## Search clauses -/

/-- A match in a search clause reads no number and no `+`. -/
lemma nextToken_search {token : Token} (h : nextToken py .search cs = some (some token, rest)) :
    token.kind ≠ .number ∧ ¬(token.kind = .op ∧ token.text = "+") := by
  rcases nextToken_eq_some h with ⟨-, -, -, -, htoken, -⟩ | ⟨read, hread⟩
  · cases htoken
  · rcases hread with ⟨-, htoken⟩ | ⟨hmode, -, -⟩ | ⟨hnumber, -⟩ | ⟨hop, htoken⟩
      | ⟨-, -, -, -, -, htoken⟩
    · cases htoken
      exact ⟨nofun, fun h => nomatch h.1⟩
    · exact absurd rfl hmode
    · simp only [number, true_or, if_true] at hnumber
      cases hnumber
    · cases htoken
      refine ⟨nofun, fun h => ?_⟩
      have htext : read = ['+'] := by
        have hlist := congrArg String.toList h.2
        rwa [String.toList_ofList] at hlist
      obtain ⟨-, hread⟩ := operatorOf_eq_some hop
      rw [htext] at hread
      rcases hread with hread | ⟨c, hc, heq⟩
      · exact absurd hread (by decide)
      · cases heq
        exact absurd hc (by decide)
    · cases htoken
      exact ⟨nofun, fun h => nomatch h.1⟩

/-- In a search clause there are no numbers and no `+` signs. -/
lemma tokenize_search {ts : List Token} (h : tokenize py .search cs = some ts) :
    ∀ token ∈ ts, token.kind ≠ .number ∧ ¬(token.kind = .op ∧ token.text = "+") := by
  have hlex : Lexing.lex (nextToken py .search) cs = .ok ts := by
    rw [tokenize] at h
    cases hlex : Lexing.lex (nextToken py .search) cs with
    | error left =>
      rw [hlex] at h
      cases h
    | ok found =>
      rw [hlex] at h
      cases h
      rfl
  have hlexes := (Lexing.lex_eq_ok_iff nextToken_consumes).1 hlex
  clear h hlex
  induction hlexes with
  | nil => exact fun _ h => by cases h
  | step hnext _ ih =>
    intro token htoken
    rcases List.mem_append.1 htoken with htoken | htoken
    · rw [Option.mem_toList.1 htoken] at hnext
      exact nextToken_search hnext
    · exact ih token htoken

/-! ## Words -/

lemma operatorChars_subset {c : Char} (hc : c ∈ operatorChars mode) : c ∈ wordStops mode := by
  have hall : (operatorChars mode).all (· ∈ wordStops mode) = true := by
    cases mode <;> decide
  exact of_decide_eq_true (List.all_eq_true.1 hall c hc)

/-- No operator starts with a character of a word. -/
lemma operatorOf_eq_none {c : Char} (hc : isWordChar mode c = true) :
    operatorOf mode (c :: cs) = none := by
  cases hop : operatorOf mode (c :: cs) with
  | none => rfl
  | some found =>
    obtain ⟨happend, hread⟩ := operatorOf_eq_some hop
    have hstop : c ∈ wordStops mode := by
      rcases hread with hread | ⟨d, hd, hread⟩
      · simp only [List.mem_cons, List.not_mem_nil, or_false] at hread
        have hmany : '<' ∈ wordStops mode ∧ '>' ∈ wordStops mode ∧ '!' ∈ wordStops mode
            ∧ '=' ∈ wordStops mode := by
          cases mode <;> decide
        obtain ⟨hless, hgreater, hbang, hequal⟩ := hmany
        rcases hread with hread | hread | hread | hread <;>
          · rw [hread] at happend
            cases happend
            assumption
      · rw [hread] at happend
        cases happend
        exact operatorChars_subset hd
    simp [isWordChar, hstop] at hc

/-- A word that is no number is read up to where it ends. -/
lemma nextToken_word {c : Char} {w : List Char} (hall : (c :: w).all (isWordChar mode) = true)
    (hdouble : c ≠ '"') (hsingle : c ≠ '\'') (hnumber : number py mode (c :: w ++ rest) = none)
    (hrest : ∀ d ∈ rest.head?, isWordChar mode d = false) :
    nextToken py mode (c :: w ++ rest)
      = some (some ⟨.word, String.ofList (c :: w)⟩, rest) := by
  have hword := List.all_eq_true.1 hall
  have hc := hword c (List.mem_cons_self ..)
  have hspace : isSpace c = false := by
    cases hspace : isSpace c with
    | false => rfl
    | true =>
      rw [isWordChar, hspace] at hc
      cases hc
  have htake : (c :: w ++ rest).takeWhile (isWordChar mode) = c :: w := by
    rw [List.takeWhile_append_of_pos hword]
    cases rest with
    | nil => exact List.append_nil _
    | cons d rest =>
      rw [List.takeWhile_cons_of_neg (by simp [hrest d rfl]), List.append_nil]
  have hdrop : (c :: w ++ rest).dropWhile (isWordChar mode) = rest := by
    rw [List.dropWhile_append_of_pos hword]
    cases rest with
    | nil => rfl
    | cons d rest => rw [List.dropWhile_cons_of_neg (by simp [hrest d rfl])]
  rw [List.cons_append] at htake hdrop hnumber ⊢
  simp [nextToken, hspace, quotation, hdouble, hsingle, hnumber, operatorOf_eq_none hc, hc, htake,
    hdrop]

lemma nextToken_blank {c : Char} (hspace : isSpace c = true) :
    nextToken py mode (c :: cs) = some (none, cs.dropWhile isSpace) := by
  rw [nextToken]
  simp only [hspace, if_true]
  rw [List.dropWhile_cons_of_pos hspace]

end Spl

end Splunk

end Mockdr
