import Mathlib
import Mockdr.CrowdStrike.Fql
import Mockdr.Lib.Except

/-!
# What an FQL filter means

* `Written`: the groups, and in them the terms, that a filter is written in.
* `parseTerm_isSome_iff`: which terms can be read.
* `Meant`: every term is one the filter language has, and the records kept are those of which every
  group has a term that matches.
* `meant_iff`: a filter is answered as it is meant whenever it is accepted, exactly when all of its
  terms can be read or none can.
-/

namespace Mockdr

namespace Fql

/-- The groups a filter is written in, each made of terms; a blank filter has none. -/
def Written (fql : List Char) (groups : List (List (List Char))) : Prop :=
  if blank fql then groups = []
  else ∃ pieces, Delimited.Cuts Scan.next Scan.closed '+' fql pieces
    ∧ List.Forall₂ (Delimited.Cuts Scan.next Scan.closed ',') pieces groups

variable (py : QueryPython) {ρ : Type} (getNested : ρ → String → Json)

/-- A term matches a record. -/
def termMatches (record : ρ) (term : List Char) : Bool :=
  match parseTerm term with
  | some clause => affirms (matchClause py getNested record clause)
  | none => false

/-- Every group has a term that matches the record. -/
def selected (groups : List (List (List Char))) (record : ρ) : Bool :=
  groups.all fun group => group.any (termMatches py getNested record)

/-- What is to be made of an accepted filter. -/
structure Meant (groups : List (List (List Char))) (records result : List ρ) : Prop where
  readable : ∀ group ∈ groups, ∀ term ∈ group, (parseTerm term).isSome
  filtered : result = records.filter (selected py getNested groups)

/-! ## The terms that can be read -/

/-! ## The clauses of a filter -/

/-- A clause is what a term reads as, however it is joined to the one before it. -/
def ReadsAs (term : List Char) (clause : FqlClause) : Prop :=
  ∃ c, parseTerm term = some c ∧ clause = { c with conjunction := clause.conjunction }

/-- The groups a filter is written in are those that `_smart_split` cuts it into. -/
lemma written_iff {fql : List Char} {groups : List (List (List Char))} :
    Written fql groups ↔ groups
      = if blank fql then [] else (smartSplit fql '+').map (smartSplit · ',') := by
  rw [Written]
  split
  · rfl
  · constructor
    · rintro ⟨pieces, hpieces, hgroups⟩
      rw [Delimited.cuts_iff] at hpieces
      rw [smartSplit, hpieces]
      clear hpieces
      induction hgroups with
      | nil => rfl
      | cons hterms _ ih => rw [List.map_cons, smartSplit, Delimited.cuts_iff.1 hterms, ← ih]
    · rintro rfl
      refine ⟨_, Delimited.cuts_iff.2 rfl, ?_⟩
      rw [List.forall₂_map_right_iff]
      exact List.forall₂_same.2 fun _ _ => Delimited.cuts_iff.2 rfl

/-- The clauses of a group, its terms numbered from `i` on. -/
def numbered (i : Nat) (terms : List (List Char)) : List FqlClause :=
  (terms.zipIdx i).filterMap fun (term, i) =>
    (parseTerm term).map ({ · with conjunction := if 0 < i then .or else .and })

lemma numbered_cons (i : Nat) (term : List Char) (terms : List (List Char)) :
    numbered i (term :: terms)
      = ((parseTerm term).map ({ · with conjunction := if 0 < i then .or else .and })).toList
        ++ numbered (i + 1) terms := by
  simp only [numbered, List.zipIdx_cons, List.filterMap_cons]
  cases parseTerm term with
  | none => simp only [Option.map_none, Option.toList_none, List.nil_append]
  | some c => simp only [Option.map_some, Option.toList_some, List.singleton_append]

lemma groupClauses_eq (group : List Char) :
    groupClauses group = numbered 0 (smartSplit group ',') := by
  rw [groupClauses]
  split
  · next term hterm =>
    rw [hterm, numbered_cons]
    cases parseTerm term with
    | none => rfl
    | some c => rfl
  · rfl

lemma numbered_of_readable {terms : List (List Char)} (h : ∀ term ∈ terms, (parseTerm term).isSome)
    (i : Nat) : (∀ clause ∈ numbered (i + 1) terms, clause.conjunction = .or)
      ∧ List.Forall₂ ReadsAs terms (numbered (i + 1) terms) := by
  induction terms generalizing i with
  | nil => exact ⟨fun _ hc => absurd hc List.not_mem_nil, .nil⟩
  | cons term terms ih =>
    obtain ⟨hterm, hterms⟩ := List.forall_mem_cons.1 h
    obtain ⟨c, hc⟩ := Option.isSome_iff_exists.1 hterm
    obtain ⟨hor, hreads⟩ := ih hterms (i + 1)
    rw [numbered_cons, hc, if_pos (Nat.succ_pos i)]
    refine ⟨?_, .cons ⟨c, hc, rfl⟩ hreads⟩
    intro clause hclause
    rcases List.mem_cons.1 hclause with rfl | hclause
    · rfl
    · exact hor clause hclause

lemma numbered_eq_nil_iff {terms : List (List Char)} {i : Nat} :
    numbered i terms = [] ↔ ∀ term ∈ terms, parseTerm term = none := by
  induction terms generalizing i with
  | nil => simp [numbered]
  | cons term terms ih =>
    rw [numbered_cons, List.append_eq_nil_iff, ih, List.forall_mem_cons]
    cases parseTerm term with
    | none => simp
    | some c => simp

lemma foldl_regroup_or {clauses : List FqlClause} (h : ∀ clause ∈ clauses, clause.conjunction = .or)
    (groups : List (List FqlClause)) (group : List FqlClause) :
    clauses.foldl regroup (groups ++ [group]) = groups ++ [group ++ clauses] := by
  induction clauses generalizing group with
  | nil => rw [List.foldl_nil, List.append_nil]
  | cons clause clauses ih =>
    obtain ⟨hclause, hclauses⟩ := List.forall_mem_cons.1 h
    have hstep : regroup (groups ++ [group]) clause = groups ++ [group ++ [clause]] := by
      rw [regroup, List.getLast?_concat, List.dropLast_concat]
      exact if_neg fun hand => by rw [hclause] at hand; cases hand
    rw [List.foldl_cons, hstep, ih hclauses, List.append_assoc, List.singleton_append]

lemma regroup_and {clause : FqlClause} (h : clause.conjunction = .and)
    (groups : List (List FqlClause)) : regroup groups clause = groups ++ [[clause]] := by
  rw [regroup]
  split
  · rw [if_pos h]
  · next hnone =>
    rw [List.getLast?_eq_none_iff.1 hnone, List.nil_append]

lemma smartSplit_ne_nil (text : List Char) (delimiter : Char) : smartSplit text delimiter ≠ [] := by
  intro h
  cases Delimited.cuts_iff.2 h

/-- Where every term can be read, the clauses come back in the groups they were written in. -/
lemma foldl_regroup_groups {pieces : List (List Char)}
    (h : ∀ piece ∈ pieces, ∀ term ∈ smartSplit piece ',', (parseTerm term).isSome)
    (before : List (List FqlClause)) :
    ∃ groups, (pieces.flatMap groupClauses).foldl regroup before = before ++ groups
      ∧ List.Forall₂ (List.Forall₂ ReadsAs) (pieces.map (smartSplit · ',')) groups := by
  induction pieces generalizing before with
  | nil => exact ⟨[], (List.append_nil _).symm, .nil⟩
  | cons piece pieces ih =>
    obtain ⟨hpiece, hpieces⟩ := List.forall_mem_cons.1 h
    rw [List.flatMap_cons, List.foldl_append, List.map_cons, groupClauses_eq]
    cases hterms : smartSplit piece ',' with
    | nil => exact absurd hterms (smartSplit_ne_nil piece ',')
    | cons term terms =>
      rw [hterms] at hpiece
      obtain ⟨hterm, hrest⟩ := List.forall_mem_cons.1 hpiece
      obtain ⟨c, hc⟩ := Option.isSome_iff_exists.1 hterm
      obtain ⟨hor, hreads⟩ := numbered_of_readable hrest 0
      have hfirst : regroup before { c with conjunction := .and }
          = before ++ [[{ c with conjunction := .and }]] := regroup_and rfl before
      have hgroup : (numbered 0 (term :: terms)).foldl regroup before
          = before ++ [{ c with conjunction := .and } :: numbered 1 terms] := by
        rw [numbered_cons, hc]
        exact (congrArg (List.foldl regroup · (numbered 1 terms)) hfirst).trans
          (foldl_regroup_or hor before _)
      obtain ⟨groups, hfold, hgroups⟩ := ih hpieces
        (before ++ [{ c with conjunction := .and } :: numbered 1 terms])
      rw [hgroup, hfold]
      refine ⟨_, List.append_assoc _ _ _, ?_⟩
      exact .cons (.cons ⟨c, hc, rfl⟩ hreads) hgroups

/-! ## The records of a filter -/

variable {py getNested}

lemma ReadsAs.affirms {term : List Char} {clause : FqlClause} (h : ReadsAs term clause)
    (record : ρ) : affirms (matchClause py getNested record clause)
      = termMatches py getNested record term := by
  obtain ⟨c, hc, hclause⟩ := h
  rw [termMatches, hc, hclause]
  rfl

lemma any_readsAs {terms : List (List Char)} {clauses : List FqlClause}
    (h : List.Forall₂ ReadsAs terms clauses) (record : ρ) :
    clauses.any (fun clause => Mockdr.affirms (matchClause py getNested record clause))
      = terms.any (termMatches py getNested record) := by
  induction h with
  | nil => rfl
  | cons hterm _ ih => rw [List.any_cons, List.any_cons, hterm.affirms, ih]

lemma passes_eq_ok {written : List (List (List Char))} {groups : List (List FqlClause)}
    (h : List.Forall₂ (List.Forall₂ ReadsAs) written groups) {record : ρ} {b : Bool}
    (hb : passes py getNested groups record = .ok b) :
    b = selected py getNested written record := by
  induction h generalizing b with
  | nil =>
    cases hb
    rfl
  | @cons terms clauses _ _ hgroup _ ih =>
    rw [passes, List.allM] at hb
    obtain ⟨c, hc, hrest⟩ := bind_eq_ok_iff.1 hb
    have hany := any_of_anyM_eq_ok hc
    rw [any_readsAs hgroup] at hany
    rw [selected, List.all_cons, hany]
    cases c with
    | true => exact ih hrest
    | false =>
      cases hrest
      rfl

lemma passing_eq_ok {written : List (List (List Char))} {groups : List (List FqlClause)}
    (h : List.Forall₂ (List.Forall₂ ReadsAs) written groups) {records result : List ρ}
    (hresult : passing py getNested groups records = .ok result) :
    result = records.filter (selected py getNested written) := by
  induction records generalizing result with
  | nil =>
    cases hresult
    rfl
  | cons record records ih =>
    rw [passing] at hresult
    obtain ⟨isMatch, hmatch, hrest⟩ := bind_eq_ok_iff.1 hresult
    obtain ⟨rest, hok, hresult⟩ := bind_eq_ok_iff.1 hrest
    cases hresult
    rw [List.filter_cons, ← passes_eq_ok h hmatch, ih hok]

/-! ## Filters that are answered as meant -/

lemma parseFql_of_not_blank {fql : List Char} (hblank : blank fql = false) :
    parseFql fql = .ok ((smartSplit fql '+').flatMap groupClauses)
      ∧ (smartSplit fql '+').flatMap groupClauses ≠ []
    ∨ (∃ e, parseFql fql = .error e) ∧ (smartSplit fql '+').flatMap groupClauses = [] := by
  rw [parseFql, if_neg (Bool.eq_false_iff.1 hblank)]
  split
  · next hnil => exact .inr ⟨⟨_, rfl⟩, hnil⟩
  · next hne => exact .inl ⟨rfl, fun h => hne h⟩

lemma flatMap_groupClauses_eq_nil_iff {pieces : List (List Char)} :
    pieces.flatMap groupClauses = []
      ↔ ∀ group ∈ pieces.map (smartSplit · ','), ∀ term ∈ group, parseTerm term = none := by
  rw [List.flatMap_eq_nil_iff, List.forall_mem_map]
  simp only [groupClauses_eq, numbered_eq_nil_iff]

/-- A filter is answered as it is meant, on whatever records, exactly when all of its terms can be
    read, or none can and it is refused. -/
theorem meant_iff {fql : List Char} {groups : List (List (List Char))} (h : Written fql groups) :
    (∀ records result : List ρ, applyFql py getNested records fql = .ok result →
        Meant py getNested groups records result)
      ↔ (∀ group ∈ groups, ∀ term ∈ group, (parseTerm term).isSome)
        ∨ ∀ group ∈ groups, ∀ term ∈ group, parseTerm term = none := by
  rw [written_iff] at h
  cases hblank : blank fql with
  | true =>
    rw [hblank, if_pos rfl] at h
    subst h
    refine iff_of_true ?_ (.inl fun _ hgroup => absurd hgroup List.not_mem_nil)
    intro records result hresult
    rw [applyFql, parseFql, if_pos hblank] at hresult
    cases hresult
    exact ⟨fun _ hgroup => absurd hgroup List.not_mem_nil, (List.filter_true records).symm⟩
  | false =>
    rw [hblank, if_neg Bool.false_ne_true] at h
    subst h
    rcases parseFql_of_not_blank hblank with ⟨hparse, hne⟩ | ⟨⟨e, hparse⟩, hnil⟩
    · have happly : ∀ records : List ρ, applyFql py getNested records fql
          = passing py getNested
              (((smartSplit fql '+').flatMap groupClauses).foldl regroup []) records := by
        intro records
        rw [applyFql, hparse]
        dsimp only [bind, Except.bind]
        split
        · next hnil => exact absurd hnil hne
        · rfl
      constructor
      · intro hmeant
        have hnone := happly []
        rw [passing] at hnone
        exact .inl (hmeant [] [] hnone).readable
      · rintro (hreadable | hunreadable)
        · intro records result hresult
          rw [happly] at hresult
          rw [List.forall_mem_map] at hreadable
          obtain ⟨groups, hgroups, hreads⟩ := foldl_regroup_groups hreadable []
          rw [List.nil_append] at hgroups
          rw [hgroups] at hresult
          exact ⟨List.forall_mem_map.2 hreadable, passing_eq_ok hreads hresult⟩
        · exact absurd (flatMap_groupClauses_eq_nil_iff.2 hunreadable) hne
    · refine iff_of_true ?_ (.inr (flatMap_groupClauses_eq_nil_iff.1 hnil))
      intro records result hresult
      rw [applyFql, hparse] at hresult
      cases hresult

/-- A group of one term and a group of two, on a host of each platform and one that is contained. -/
theorem meant_iff_two_groups :
    Meant asciiQueryPython (Mockdr.getNested asciiPython)
      [["status:'normal'".toList], ["os:'Linux'".toList, "tags:['a','b']".toList]]
      [.dict [("status", .str "normal"), ("os", .str "Linux")],
        .dict [("status", .str "normal"), ("os", .str "Mac"), ("tags", .list [.str "b"])],
        .dict [("status", .str "contained"), ("os", .str "Linux")]]
      [.dict [("status", .str "normal"), ("os", .str "Linux")],
        .dict [("status", .str "normal"), ("os", .str "Mac"), ("tags", .list [.str "b"])]] := by
  have hwritten : Written "status:'normal'+os:'Linux',tags:['a','b']".toList
      [["status:'normal'".toList], ["os:'Linux'".toList, "tags:['a','b']".toList]] :=
    written_iff.2 (by decide)
  refine (meant_iff hwritten).2 (.inl ?_) _ _ rfl
  decide

/-- The second group's first term cannot be read: its other term joins the group before, and a host
    that fails the first group is answered. -/
theorem unreadable_term_moves_next :
    ¬ ∀ (fql : List Char) (groups : List (List (List Char))) (records result : List Json),
        Written fql groups →
        applyFql asciiQueryPython (Mockdr.getNested asciiPython) records fql = .ok result →
        Meant asciiQueryPython (Mockdr.getNested asciiPython) groups records result := by
  intro h
  have hwritten : Written "status:'normal'+os,os:'Linux'".toList
      [["status:'normal'".toList], ["os".toList, "os:'Linux'".toList]] := written_iff.2 (by decide)
  have hmeant := h _ _ [.dict [("status", .str "contained"), ("os", .str "Linux")]]
    [.dict [("status", .str "contained"), ("os", .str "Linux")]] hwritten rfl
  cases hmeant.filtered

end Fql

end Mockdr
