import Mockdr.Elastic.Fnmatch
import Mockdr.Elastic.Leaf
import Mockdr.Lib.Except

/-!
# `match` and `multi_match`

The full-text clauses `match` and `multi_match` (`utils/es_query.py`), and when their operators and
`minimum_should_match` narrow what they find.

* `analyze` cuts a text into terms; `buildMatch` and `buildMultiMatch` are the builders.
* `matchTest` is the test that a `match` makes: how many of the terms of the query are among those
  of a value, against how many have to be.
* `MatchLaws` and `MultiMatchLaws` say that `and` finds no more than `or`, that a higher minimum
  finds no more than a lower one, and that a text without terms finds nothing.
* `match_laws_iff`: they hold where the text has terms, or the record no value.
-/

namespace Mockdr.Elastic

variable (py : Python)

/-! ## Analysis -/

/-- A character of a term: what `_TOKEN_SPLIT` does not split at. -/
def isTermChar (c : Char) : Bool := c.isAlphanum || c = '_'

/-- `_analyze` -/
def analyze (text : String) : List String :=
  (((py.lower text).toList.splitOnP fun c => !isTermChar c).filter (· ≠ [])).map String.ofList

/-- `_analyze_value` -/
def analyzeValue : Json → List String
  | .list items => items.flatMap fun item => analyze py (py.toStr item)
  | v => analyze py (py.toStr v)

/-! ## `match` -/

/-- `_minimum_should_match`: nothing where there is no minimum, or none that can be read. -/
def minimumShouldMatch (spec : Json) (total : Nat) : Except SearchError (Option Int) :=
  match spec with
  | .null => .ok none
  | spec =>
    if total = 0 then .ok none
    else
      match calculateMinShouldMatch py total spec with
      | .ok needed => .ok (some (max 0 (min needed total)))
      | .error .value => .ok none
      | .error .overflow => .error .crash

/-- The test of a `match` on the terms of a value. -/
def matchTest (operator : String) (required : Option Int) (terms tokens : List String) : Bool :=
  let hits := terms.countP (tokens.contains ·)
  match required with
  | some n => decide (max 1 n ≤ (hits : Int))
  | none => if operator = "and" then hits = terms.length else 0 < hits

/-- The test of a `match` on a record. -/
def matchPred (field operator : String) (required : Option Int) (terms : List String) : Pred :=
  fun record =>
    match getNested py (.dict record.source) field with
    | .null => false
    | v => matchTest operator required terms (analyzeValue py v)

/-- The text of a query, of its options. -/
def queryText (spec : Object) : String := py.toStr ((Assoc.get "query" spec).getD (.str ""))

/-- `_build_match` -/
def buildMatch : Object → Except SearchError Pred
  | [] => .error .crash
  | (field, .dict spec) :: _ =>
    match (Assoc.get "operator" spec).getD (.str "or") with
    | .str operator => do
      let terms := analyze py (queryText py spec)
      let required ← minimumShouldMatch py (Object.get spec "minimum_should_match") terms.length
      return matchPred py field (py.lower operator) required terms
    | _ => .error .crash
  | (field, spec) :: _ => .ok (matchPred py field "or" none (analyze py (py.toStr spec)))

/-! ## `multi_match` -/

/-- `_phrase_hit` -/
def phraseHit (tokens phrase : List String) (asPrefix : Bool) : Bool :=
  match phrase.getLast? with
  | none => false
  | some last =>
    (List.range (tokens.length + 1 - phrase.length)).any fun start =>
      let window := (tokens.drop start).take phrase.length
      window.dropLast = phrase.dropLast
        && window.getLast?.any fun found => found = last || (asPrefix && startsWith found last)

/-- `_bool_prefix_hit` -/
def boolPrefixHit (tokens terms : List String) : Bool :=
  match terms.getLast? with
  | none => false
  | some last =>
    terms.dropLast.any (tokens.contains ·) || tokens.any fun token => startsWith token last

/-- `_match_fields`: the fields of a record that some patterns name, each once. -/
def matchFields (patterns : List String) (record : Rec) : List String :=
  if patterns.isEmpty then record.source.map Prod.fst
  else
    patterns.foldl (fun named pattern =>
      let name := (split '^' pattern).headD ""
      if hasChar '*' name then
        named ++ (record.source.map Prod.fst).filter fun k => fnmatch k name && !named.contains k
      else if named.contains name then named
      else named ++ [name]) []

/-- The test of a `multi_match` on the terms of one value. -/
def multiMatchTest (kind operator : String) (terms tokens : List String) : Bool :=
  if kind = "phrase" ∨ kind = "phrase_prefix" then phraseHit tokens terms (kind = "phrase_prefix")
  else if kind = "bool_prefix" then boolPrefixHit tokens terms
  else if operator = "and" then terms.all (tokens.contains ·)
  else terms.any (tokens.contains ·)

/-- The patterns of a `multi_match`. -/
def patternsOf (body : Object) : Option (List String) :=
  (((Assoc.get "fields" body).getD (.list [])).iterate).map (List.map py.toStr)

/-- The lower-case text of an option. -/
def optionText (name standard : String) (body : Object) : String :=
  py.lower (py.toStr ((Assoc.get name body).getD (.str standard)))

/-- `_build_multi_match` -/
def buildMultiMatch (body : Object) : Except SearchError Pred :=
  match patternsOf py body with
  | none => .error .crash
  | some patterns =>
    let kind := optionText py "type" "best_fields" body
    let operator := optionText py "operator" "or" body
    let terms := analyze py (queryText py body)
    .ok fun record =>
      (matchFields patterns record).any fun field =>
        (fieldValues py record field).any fun value =>
          multiMatchTest kind operator terms (analyzeValue py value)

/-! ## The laws -/

variable {py}

/-- The members of some options, one of them written anew. -/
def withMember (name : String) (value : Json) (options : Object) : Object :=
  Assoc.set name value options

/-- What is said of a `match`: `and` accepts only what `or` accepts, a higher minimum only what a
    lower one accepts, and a text without terms accepts nothing. -/
structure MatchLaws (py : Python) (andWord orWord field : String) (spec : Object) (record : Rec) :
    Prop where
  narrower : ∀ p p',
    buildMatch py [(field, .dict (withMember "operator" (.str andWord) spec))] = .ok p →
    buildMatch py [(field, .dict (withMember "operator" (.str orWord) spec))] = .ok p' →
    p record = true → p' record = true
  raised : ∀ m m' n n' p p',
    minimumShouldMatch py m (analyze py (queryText py spec)).length = .ok (some n) →
    minimumShouldMatch py m' (analyze py (queryText py spec)).length = .ok (some n') → n ≤ n' →
    buildMatch py [(field, .dict (withMember "minimum_should_match" m spec))] = .ok p →
    buildMatch py [(field, .dict (withMember "minimum_should_match" m' spec))] = .ok p' →
    p' record = true → p record = true
  nothing : analyze py (queryText py spec) = [] → ∀ word ∈ [andWord, orWord], ∀ p,
    buildMatch py [(field, .dict (withMember "operator" (.str word) spec))] = .ok p →
    p record = false

/-- The same of a `multi_match`, which reads no minimum. -/
structure MultiMatchLaws (py : Python) (andWord orWord : String) (body : Object) (record : Rec) :
    Prop where
  narrower : ∀ p p',
    buildMultiMatch py (withMember "operator" (.str andWord) body) = .ok p →
    buildMultiMatch py (withMember "operator" (.str orWord) body) = .ok p' →
    p record = true → p' record = true
  raised : ∀ m m' p p',
    buildMultiMatch py (withMember "minimum_should_match" m body) = .ok p →
    buildMultiMatch py (withMember "minimum_should_match" m' body) = .ok p' →
    p' record = true → p record = true
  nothing : analyze py (queryText py body) = [] → ∀ word ∈ [andWord, orWord], ∀ p,
    buildMultiMatch py (withMember "operator" (.str word) body) = .ok p → p record = false

lemma matchTest_or_of_and {required : Option Int} {terms tokens : List String} (hterms : terms ≠ [])
    (h : matchTest "and" required terms tokens = true) :
    matchTest "or" required terms tokens = true := by
  cases required with
  | some n => exact h
  | none =>
    have hall : terms.countP (tokens.contains ·) = terms.length := by
      simpa [matchTest] using h
    have hpos : 0 < terms.length := List.length_pos_iff.2 hterms
    simp only [matchTest, hall]
    simpa using hpos

lemma matchTest_raised {operator : String} {n n' : Int} {terms tokens : List String} (hle : n ≤ n')
    (h : matchTest operator (some n') terms tokens = true) :
    matchTest operator (some n) terms tokens = true := by
  have hhits : max 1 n' ≤ (terms.countP (tokens.contains ·) : Int) := of_decide_eq_true h
  exact decide_eq_true ((max_le_max_left 1 hle).trans hhits)

lemma matchTest_nil (operator : String) (tokens : List String) :
    matchTest operator none [] tokens = decide (operator = "and") := by
  by_cases h : operator = "and" <;> simp [matchTest, h]

lemma minimumShouldMatch_zero (spec : Json) : minimumShouldMatch py spec 0 = .ok none := by
  cases spec <;> rfl

lemma get_withMember_ne {name other : String} (value : Json) (options : Object) (h : other ≠ name) :
    Assoc.get other (withMember name value options) = Assoc.get other options :=
  Assoc.get_set_ne value options h

lemma get_withMember_self (name : String) (value : Json) (options : Object) :
    Assoc.get name (withMember name value options) = some value :=
  Assoc.get_set_self name value options

/-- A `match` with an operator. -/
lemma buildMatch_operator (field word : String) (spec : Object) :
    buildMatch py [(field, .dict (withMember "operator" (.str word) spec))]
      = (minimumShouldMatch py (Object.get spec "minimum_should_match")
          (analyze py (queryText py spec)).length).map fun required =>
        matchPred py field (py.lower word) required (analyze py (queryText py spec)) := by
  have htext : queryText py (withMember "operator" (.str word) spec) = queryText py spec := by
    rw [queryText, queryText, get_withMember_ne _ _ (by decide)]
  have hminimum : Object.get (withMember "operator" (.str word) spec) "minimum_should_match"
      = Object.get spec "minimum_should_match" := by
    rw [Object.get, Object.get, get_withMember_ne _ _ (by decide)]
  simp only [buildMatch, get_withMember_self, Option.getD_some, htext, hminimum]
  rfl

/-- A `match` with a minimum. -/
lemma buildMatch_minimum (field : String) (m : Json) (spec : Object) :
    buildMatch py [(field, .dict (withMember "minimum_should_match" m spec))]
      = match (Assoc.get "operator" spec).getD (.str "or") with
        | .str operator =>
          (minimumShouldMatch py m (analyze py (queryText py spec)).length).map fun required =>
            matchPred py field (py.lower operator) required (analyze py (queryText py spec))
        | _ => .error .crash := by
  have htext : queryText py (withMember "minimum_should_match" m spec) = queryText py spec := by
    rw [queryText, queryText, get_withMember_ne _ _ (by decide)]
  have hminimum : Object.get (withMember "minimum_should_match" m spec) "minimum_should_match"
      = m := by
    rw [Object.get, get_withMember_self, Option.getD_some]
  have hoperator : Assoc.get "operator" (withMember "minimum_should_match" m spec)
      = Assoc.get "operator" spec := get_withMember_ne _ _ (by decide)
  simp only [buildMatch, hoperator, htext, hminimum]
  rfl

/-- A record that a `match` accepts has a value whose terms pass. -/
lemma matchPred_eq_true_iff {field operator : String} {required : Option Int} {terms : List String}
    {record : Rec} :
    matchPred py field operator required terms record = true
      ↔ getNested py (.dict record.source) field ≠ .null
        ∧ matchTest operator required terms
          (analyzeValue py (getNested py (.dict record.source) field)) = true := by
  rw [matchPred]
  split
  next h => simp [h]
  next h => exact (and_iff_right h).symm

variable {andWord orWord : String}

/-- The laws of `match` hold exactly where the text has terms, or the record no value. -/
lemma matchLaws_iff (hand : py.lower andWord = "and") (hor : py.lower orWord = "or")
    (field : String) (spec : Object) (record : Rec) :
    MatchLaws py andWord orWord field spec record
      ↔ analyze py (queryText py spec) ≠ [] ∨ getNested py (.dict record.source) field = .null := by
  constructor
  · intro h
    by_contra hcon
    obtain ⟨hterms, hvalue⟩ := not_or.1 hcon
    have hterms := not_not.1 hterms
    have hbuild := @buildMatch_operator py field andWord spec
    rw [hterms, List.length_nil, minimumShouldMatch_zero, hand] at hbuild
    have hnothing := h.nothing hterms andWord List.mem_cons_self _ hbuild
    have haccept : matchPred py field "and" none [] record = true := by
      rw [matchPred_eq_true_iff]
      refine ⟨hvalue, ?_⟩
      rw [matchTest_nil]
      rfl
    exact absurd (haccept.symm.trans hnothing) Bool.noConfusion
  · intro h
    refine ⟨?_, ?_, ?_⟩
    · intro p p' hp hp' haccept
      rw [buildMatch_operator] at hp hp'
      rw [hand] at hp
      rw [hor] at hp'
      obtain ⟨required, hrequired, rfl⟩ := map_eq_ok_iff.1 hp
      rw [hrequired] at hp'
      obtain rfl := Except.ok.inj hp'
      rw [matchPred_eq_true_iff] at haccept ⊢
      exact ⟨haccept.1, matchTest_or_of_and (h.resolve_right haccept.1) haccept.2⟩
    · intro m m' n n' p p' hm hm' hle hp hp' haccept
      rw [buildMatch_minimum] at hp hp'
      cases hoperator : (Assoc.get "operator" spec).getD (.str "or") with
      | str operator =>
        rw [hoperator] at hp hp'
        simp only [hm, hm', Except.map] at hp hp'
        obtain rfl := Except.ok.inj hp
        obtain rfl := Except.ok.inj hp'
        rw [matchPred_eq_true_iff] at haccept ⊢
        exact ⟨haccept.1, matchTest_raised hle haccept.2⟩
      | _ =>
        rw [hoperator] at hp
        exact nomatch hp
    · intro hterms word _ p hp
      rw [buildMatch_operator, hterms] at hp
      obtain ⟨required, -, rfl⟩ := map_eq_ok_iff.1 hp
      rw [Bool.eq_false_iff]
      intro haccept
      exact (matchPred_eq_true_iff.1 haccept).1 (h.resolve_left (not_not.2 hterms))

/-- The kinds that match a phrase or its beginning, and have no operator. -/
def orderedKinds : List String := ["phrase", "phrase_prefix", "bool_prefix"]

/-- A `multi_match` whose texts are read, with an operator. -/
lemma buildMultiMatch_operator (word : String) (body : Object) :
    buildMultiMatch py (withMember "operator" (.str word) body)
      = match patternsOf py body with
        | none => .error .crash
        | some patterns => .ok fun record =>
          (matchFields patterns record).any fun field =>
            (fieldValues py record field).any fun value =>
              multiMatchTest (optionText py "type" "best_fields" body) (py.lower word)
                (analyze py (queryText py body)) (analyzeValue py value) := by
  have htext : queryText py (withMember "operator" (.str word) body) = queryText py body := by
    rw [queryText, queryText, get_withMember_ne _ _ (by decide)]
  have hpatterns : patternsOf py (withMember "operator" (.str word) body) = patternsOf py body := by
    rw [patternsOf, patternsOf, get_withMember_ne _ _ (by decide)]
  have hkind : optionText py "type" "best_fields" (withMember "operator" (.str word) body)
      = optionText py "type" "best_fields" body := by
    rw [optionText, optionText, get_withMember_ne _ _ (by decide)]
  have hoperator : optionText py "operator" "or" (withMember "operator" (.str word) body)
      = py.lower word := by
    rw [optionText, get_withMember_self]
    rfl
  simp only [buildMultiMatch, htext, hpatterns, hkind, hoperator]

lemma buildMultiMatch_minimum (m : Json) (body : Object) :
    buildMultiMatch py (withMember "minimum_should_match" m body) = buildMultiMatch py body := by
  have hget : ∀ name, name ≠ "minimum_should_match" →
      Assoc.get name (withMember "minimum_should_match" m body) = Assoc.get name body :=
    fun name hname => get_withMember_ne _ _ hname
  simp only [buildMultiMatch, patternsOf, optionText, queryText, hget "fields" (by decide),
    hget "type" (by decide), hget "operator" (by decide), hget "query" (by decide)]

lemma multiMatchTest_nil (kind operator : String) (tokens : List String) :
    multiMatchTest kind operator [] tokens = decide (kind ∉ orderedKinds ∧ operator = "and") := by
  unfold multiMatchTest orderedKinds
  by_cases hphrase : kind = "phrase" ∨ kind = "phrase_prefix"
  · rw [if_pos hphrase]
    rcases hphrase with rfl | rfl <;> simp [phraseHit]
  · by_cases hprefix : kind = "bool_prefix"
    · subst hprefix
      simp [boolPrefixHit]
    · by_cases hand : operator = "and" <;> simp [hphrase, hprefix, hand]

lemma multiMatchTest_or_of_and {kind : String} {terms tokens : List String} (hterms : terms ≠ [])
    (h : multiMatchTest kind "and" terms tokens = true) :
    multiMatchTest kind "or" terms tokens = true := by
  unfold multiMatchTest at h ⊢
  rw [if_pos rfl] at h
  rw [if_neg (show ¬ "or" = "and" by decide)]
  by_cases hphrase : kind = "phrase" ∨ kind = "phrase_prefix"
  · rw [if_pos hphrase] at h ⊢
    exact h
  · rw [if_neg hphrase] at h ⊢
    by_cases hprefix : kind = "bool_prefix"
    · rw [if_pos hprefix] at h ⊢
      exact h
    · rw [if_neg hprefix] at h ⊢
      obtain ⟨term, rest, rfl⟩ := List.exists_cons_of_ne_nil hterms
      have hfirst := List.all_eq_true.1 h term List.mem_cons_self
      exact List.any_eq_true.2 ⟨term, List.mem_cons_self, hfirst⟩

/-- The laws of `multi_match` hold exactly where the text has terms, or the kind no operator, or the
    record no value in the fields. -/
lemma multiMatchLaws_iff (hand : py.lower andWord = "and") (hor : py.lower orWord = "or")
    (body : Object) (record : Rec) :
    MultiMatchLaws py andWord orWord body record
      ↔ analyze py (queryText py body) ≠ []
        ∨ optionText py "type" "best_fields" body ∈ orderedKinds
        ∨ ∀ patterns, patternsOf py body = some patterns →
          ∀ field ∈ matchFields patterns record, fieldValues py record field = [] := by
  constructor
  · intro h
    by_contra hcon
    obtain ⟨hterms, hrest⟩ := not_or.1 hcon
    obtain ⟨hkind, hvalues⟩ := not_or.1 hrest
    push Not at hvalues
    obtain ⟨patterns, hpatterns, field, hfield, hvalue⟩ := hvalues
    obtain ⟨value, hmem⟩ := List.exists_mem_of_ne_nil _ hvalue
    have hterms := not_not.1 hterms
    have hbuild := @buildMultiMatch_operator py andWord body
    rw [hpatterns] at hbuild
    have hnothing := h.nothing hterms andWord List.mem_cons_self _ hbuild
    rw [List.any_eq_false] at hnothing
    have hnone := hnothing field hfield
    refine hnone (List.any_eq_true.2 ⟨value, hmem, ?_⟩)
    rw [hterms, multiMatchTest_nil]
    exact decide_eq_true ⟨hkind, hand⟩
  · intro h
    refine ⟨?_, ?_, ?_⟩
    · intro p p' hp hp' haccept
      rw [buildMultiMatch_operator] at hp hp'
      cases hpatterns : patternsOf py body with
      | none =>
        rw [hpatterns] at hp
        exact nomatch hp
      | some patterns =>
        rw [hpatterns, hand] at hp
        rw [hpatterns, hor] at hp'
        obtain rfl := Except.ok.inj hp
        obtain rfl := Except.ok.inj hp'
        obtain ⟨field, hfield, hvalues⟩ := List.any_eq_true.1 haccept
        obtain ⟨value, hvalue, htest⟩ := List.any_eq_true.1 hvalues
        refine List.any_eq_true.2 ⟨field, hfield, List.any_eq_true.2 ⟨value, hvalue, ?_⟩⟩
        by_cases hterms : analyze py (queryText py body) = []
        · rw [hterms, multiMatchTest_nil, decide_eq_true_eq] at htest
          rcases h with h | h | h
          · exact absurd hterms h
          · exact absurd h htest.1
          · rw [h patterns hpatterns field hfield] at hvalue
            exact absurd hvalue List.not_mem_nil
        · exact multiMatchTest_or_of_and hterms htest
    · intro m m' p p' hp hp' haccept
      rw [buildMultiMatch_minimum] at hp hp'
      obtain rfl := Except.ok.inj (hp.symm.trans hp')
      exact haccept
    · intro hterms word _ p hp
      rw [buildMultiMatch_operator] at hp
      cases hpatterns : patternsOf py body with
      | none =>
        rw [hpatterns] at hp
        exact nomatch hp
      | some patterns =>
        rw [hpatterns] at hp
        obtain rfl := Except.ok.inj hp
        rw [List.any_eq_false]
        intro field hfield haccept
        obtain ⟨value, hvalue, htest⟩ := List.any_eq_true.1 haccept
        rw [hterms, multiMatchTest_nil, decide_eq_true_eq] at htest
        rcases h with h | h | h
        · exact h hterms
        · exact htest.1 h
        · rw [h patterns hpatterns field hfield] at hvalue
          exact absurd hvalue List.not_mem_nil

/-- The laws of `match` and of `multi_match` hold exactly where the text has terms, or nothing can
    be matched. -/
theorem match_laws_iff (py : Python) (andWord orWord : String) (hand : py.lower andWord = "and")
    (hor : py.lower orWord = "or") :
    (∀ (field : String) (spec : Object) (record : Rec),
        MatchLaws py andWord orWord field spec record
          ↔ analyze py (queryText py spec) ≠ []
            ∨ getNested py (.dict record.source) field = .null)
      ∧ ∀ (body : Object) (record : Rec),
        MultiMatchLaws py andWord orWord body record
          ↔ analyze py (queryText py body) ≠ []
            ∨ optionText py "type" "best_fields" body ∈ orderedKinds
            ∨ ∀ patterns, patternsOf py body = some patterns →
              ∀ field ∈ matchFields patterns record, fieldValues py record field = [] :=
  ⟨matchLaws_iff hand hor, multiMatchLaws_iff hand hor⟩

/-- A record with a host, and a text with a term. -/
theorem match_laws_host :
    MatchLaws asciiPython "AND" "or" "host" [("query", .str "web-1")]
      ⟨none, [("host", .str "web-1")]⟩ := by
  refine ((match_laws_iff asciiPython "AND" "or" (by decide) (by decide)).1 _ _ _).2 (.inl ?_)
  decide +kernel

/-- Where the text has no terms, `and` accepts every record with a value. -/
theorem match_accepts_without_terms :
    (∃ p p', buildMatch asciiPython
          [("host", .dict [("query", .str "--"), ("operator", .str "and")])] = .ok p
        ∧ buildMatch asciiPython
          [("host", .dict [("query", .str "--"), ("operator", .str "or")])] = .ok p'
        ∧ p ⟨none, [("host", .str "web-1")]⟩ = true ∧ p' ⟨none, [("host", .str "web-1")]⟩ = false)
      ∧ ¬ MatchLaws asciiPython "and" "or" "host" [("query", .str "--")]
        ⟨none, [("host", .str "web-1")]⟩
      ∧ ¬ MultiMatchLaws asciiPython "and" "or" [("query", .str "--")]
        ⟨none, [("host", .str "web-1")]⟩ := by
  have hterms : analyze asciiPython (queryText asciiPython [("query", .str "--")]) = [] := by
    decide +kernel
  refine ⟨⟨_, _, rfl, rfl, by decide +kernel, by decide +kernel⟩, ?_, ?_⟩
  · intro hlaws
    rcases (matchLaws_iff (by decide) (by decide) _ _ _).1 hlaws with h | h
    · exact h hterms
    · exact nomatch h
  · intro hlaws
    rcases (multiMatchLaws_iff (by decide) (by decide) _ _).1 hlaws with h | h | h
    · exact h hterms
    · exact absurd h (by decide +kernel)
    · exact nomatch h [] rfl "host" List.mem_cons_self

end Mockdr.Elastic
