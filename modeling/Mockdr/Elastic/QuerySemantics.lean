import Mockdr.Elastic.Query
import Mockdr.Lib.BoolQuery
import Mockdr.Lib.Except

/-!
# The meaning of a query

A clause reads as a boolean query over its leaf clauses (`Reads`). `buildClause_eq_ok_iff` says what
the recursion that builds its test does: it succeeds exactly on the clauses that read as a query
within the limits, whose leaves it can build, and the test it answers is the meaning of that query.

A clause reads as one query at most (`Reads.unique`), so that `buildPredicate_denotes` can speak of
the query of a clause.
-/

namespace Mockdr.Elastic

/-- A boolean query over leaf clauses, each with its kind and its body. -/
abbrev ClauseTree := BoolQuery (String × Object)

/-- Whether a body is refused for being empty. -/
def refusedEmpty (kind : String) (body : Object) : Prop :=
  body.isEmpty = true ∧ (Assoc.get kind emptyClause).isSome = true

/-- A clause reads as a boolean query over its leaf clauses. -/
inductive Reads (py : Python) : Json → ClauseTree → Prop where
  | all {c : Json} (h : c.truthy = false) : Reads py c .all
  | leaf {kind : String} {body : Object} (hk : kind ∈ leafKinds) (hb : ¬ refusedEmpty kind body) :
      Reads py (.dict [(kind, .dict body)]) (.leaf (kind, body))
  | bool {body : Object} {must filter should mustNot : List ClauseTree} {minimum : Option Int}
      (hne : emptyArm body = none)
      (hmust : List.Forall₂ (Reads py) (armEntries body "must") must)
      (hfilter : List.Forall₂ (Reads py) (armEntries body "filter") filter)
      (hshould : List.Forall₂ (Reads py) (armEntries body "should") should)
      (hmustNot : List.Forall₂ (Reads py) (armEntries body "must_not") mustNot)
      (hmin : minimumOf py body should.length = .ok minimum) :
      Reads py (.dict [("bool", .dict body)]) (.bool must filter should mustNot minimum)
  | constantScore {body : Object} {q : ClauseTree} (hb : ¬ refusedEmpty "constant_score" body)
      (h : Reads py ((Assoc.get "filter" body).getD (.dict [])) q) :
      Reads py (.dict [("constant_score", .dict body)]) (.constantScore q)
  | disMax {body : Object} {cs : List Json} {qs : List ClauseTree}
      (hb : ¬ refusedEmpty "dis_max" body)
      (hc : ((Assoc.get "queries" body).getD (.list [])).iterate = some cs)
      (h : List.Forall₂ (Reads py) cs qs) :
      Reads py (.dict [("dis_max", .dict body)]) (.disMax qs)
  | boosting {body : Object} {q : ClauseTree} (hb : ¬ refusedEmpty "boosting" body)
      (h : Reads py ((Assoc.get "positive" body).getD (.dict [])) q) :
      Reads py (.dict [("boosting", .dict body)]) (.boosting q)

/-! ## Leaves -/

/-- The test of a leaf clause; false for one that cannot be built. -/
def leafHolds (leaf : Leaf) (rec : Rec) (l : String × Object) : Bool :=
  match leaf l.1 l.2 with
  | .ok (_, p) => p rec
  | .error _ => false

/-- How many clauses a leaf counts beside itself. -/
def leafExtra (leaf : Leaf) (l : String × Object) : Nat :=
  match leaf l.1 l.2 with
  | .ok (extra, _) => extra
  | .error _ => 0

/-- Every leaf of a query can be built. -/
def Builds (leaf : Leaf) (l : String × Object) : Prop := ∃ r, leaf l.1 l.2 = .ok r

/-- The meaning of a query on a record. -/
def denotes (leaf : Leaf) (q : ClauseTree) : Pred := fun rec => q.eval (leafHolds leaf rec)

/-- A clause reads as a query within the limits: `levels` of nesting left, `total` clauses before it
    and `total'` after it. -/
structure Within (py : Python) (leaf : Leaf) (levels : Nat) (clause : Json) (total : Nat)
    (q : ClauseTree) (total' : Nat) : Prop where
  reads : Reads py clause q
  height : q.height < levels
  leaves : ∀ l ∈ q.leaves, Builds leaf l
  size : total' = total + q.size (leafExtra leaf)
  count : total' ≤ maxClauseCount

section

variable {py : Python} {leaf : Leaf}

lemma countClauses_eq_ok_iff {n total total' : Nat} :
    countClauses n total = .ok total' ↔ total' = total + n ∧ total' ≤ maxClauseCount := by
  rw [countClauses]
  split_ifs with h
  · constructor
    · intro e
      cases e
    · intro ⟨e, hle⟩
      omega
  · constructor
    · intro e
      cases e
      exact ⟨rfl, Nat.le_of_not_lt h⟩
    · intro ⟨e, _⟩
      rw [e]

/-- Building a list of clauses, given what building one of them does. -/
lemma collect_eq_ok_iff {levels : Nat}
    {build : Json → Nat → Except SearchError (Pred × Nat)}
    (hbuild : ∀ c total p total', build c total = .ok (p, total')
      ↔ ∃ q, Within py leaf levels c total q total' ∧ p = denotes leaf q)
    {cs : List Json} {total total' : Nat} {ps : List Pred} (htotal : total ≤ maxClauseCount) :
    collect build cs total = .ok (ps, total')
      ↔ ∃ qs, List.Forall₂ (Reads py) cs qs ∧ BoolQuery.heights qs ≤ levels
        ∧ (∀ l ∈ BoolQuery.leavesAll qs, Builds leaf l)
        ∧ total' = total + BoolQuery.sizes (leafExtra leaf) qs ∧ total' ≤ maxClauseCount
        ∧ ps = qs.map (denotes leaf) := by
  induction cs generalizing total ps with
  | nil =>
    simp only [collect, List.forall₂_nil_left_iff]
    constructor
    · intro h
      cases h
      exact ⟨[], rfl, Nat.zero_le _, fun l hl => absurd hl List.not_mem_nil, rfl, htotal, rfl⟩
    · rintro ⟨qs, rfl, -, -, ht, -, rfl⟩
      rw [ht]
      rfl
  | cons c cs ih =>
    rw [collect, bind_eq_ok_iff]
    constructor
    · rintro ⟨⟨p, t⟩, hp, hrest⟩
      obtain ⟨⟨ps', t'⟩, hps, e⟩ := bind_eq_ok_iff.1 hrest
      cases e
      obtain ⟨q, hq, rfl⟩ := (hbuild c total p t).1 hp
      obtain ⟨qs, hqs, hh, hl, ht, hc, rfl⟩ := (ih hq.count).1 hps
      refine ⟨q :: qs, .cons hq.reads hqs, ?_, ?_, ?_, hc, rfl⟩
      · rw [BoolQuery.heights]
        exact max_le hq.height hh
      · intro l hm
        rw [BoolQuery.leavesAll, List.mem_append] at hm
        rcases hm with hm | hm
        · exact hq.leaves l hm
        · exact hl l hm
      · have hs := hq.size
        rw [BoolQuery.sizes]
        omega
    · rintro ⟨qs, hqs, hh, hl, ht, hc, rfl⟩
      cases hqs with
      | @cons _ q _ qs hq hqs =>
        rw [BoolQuery.heights, Nat.max_le] at hh
        rw [BoolQuery.sizes] at ht
        have hw : Within py leaf levels c total q (total + q.size (leafExtra leaf)) :=
          ⟨hq, hh.1, fun l hm => hl l (List.mem_append_left _ hm), rfl, by omega⟩
        refine ⟨(denotes leaf q, total + q.size (leafExtra leaf)),
          (hbuild _ _ _ _).2 ⟨q, hw, rfl⟩, ?_⟩
        rw [bind_eq_ok_iff]
        refine ⟨(qs.map (denotes leaf), total'), (ih hw.count).2 ⟨qs, hqs, hh.2, ?_, ?_, hc, rfl⟩,
          rfl⟩
        · exact fun l hm => hl l (List.mem_append_right _ hm)
        · omega

/-- Where there are `should` clauses, the code's minimum is the number the query requires. -/
lemma minShould_map {must filter should : List ClauseTree} {minimum : Option Int}
    (hs : should ≠ []) :
    minShould (must.map (denotes leaf)) (filter.map (denotes leaf)) (should.map (denotes leaf))
        minimum
      = BoolQuery.required must filter should minimum := by
  have he : should.isEmpty = false := by rw [List.isEmpty_eq_false_iff]; exact hs
  simp only [minShould, BoolQuery.required, BoolQuery.floor, List.isEmpty_map, he, Bool.not_false,
    Bool.true_and, Bool.false_eq_true, if_false]
  cases minimum with
  | some n => rfl
  | none =>
    simp only [Option.getD_none]
    split_ifs <;> rfl

/-- The test of a `bool` is the meaning of the query its arms read as. -/
lemma boolPred_eq_denotes (must filter should mustNot : List ClauseTree) (minimum : Option Int) :
    boolPred (must.map (denotes leaf)) (filter.map (denotes leaf)) (should.map (denotes leaf))
        (mustNot.map (denotes leaf)) minimum
      = denotes leaf (.bool must filter should mustNot minimum) := by
  funext rec
  rw [Bool.eq_iff_iff]
  have hall : ∀ qs : List ClauseTree, (qs.map (denotes leaf)).all (· rec) = true
      ↔ ∀ q ∈ qs, q.eval (leafHolds leaf rec) = true := by
    intro qs
    simp [denotes]
  have hany : ∀ qs : List ClauseTree, (qs.map (denotes leaf)).any (· rec) = false
      ↔ ∀ q ∈ qs, q.eval (leafHolds leaf rec) = false := by
    intro qs
    simp [denotes]
  have hcount : (should.map (denotes leaf)).countP (· rec)
      = should.countP fun q => q.eval (leafHolds leaf rec) := by
    rw [List.countP_map]
    rfl
  have hshould : (!(should.map (denotes leaf)).isEmpty
        && decide (((should.map (denotes leaf)).countP (· rec) : Int)
          < minShould (must.map (denotes leaf)) (filter.map (denotes leaf))
              (should.map (denotes leaf)) minimum)) = false
      ↔ BoolQuery.required must filter should minimum
        ≤ should.countP fun q => q.eval (leafHolds leaf rec) := by
    by_cases hs : should = []
    · subst hs
      simp [BoolQuery.required]
    · rw [minShould_map hs, hcount]
      simp [hs]
  rw [denotes, BoolQuery.eval_bool_iff, ← hall must, ← hall filter, ← hany mustNot, ← hshould]
  simp only [boolPred]
  generalize (must.map (denotes leaf)).all (· rec) = a
  generalize (filter.map (denotes leaf)).all (· rec) = b
  generalize (mustNot.map (denotes leaf)).any (· rec) = c
  generalize (!(should.map (denotes leaf)).isEmpty && _) = d
  revert a b c d
  decide

/-! ## The recursion and the meaning -/

/-- What building a clause does, as a specification: it answers the meaning of the query the clause
    reads as, if there is one within the limits. -/
def BuildsMeaning (py : Python) (leaf : Leaf) (levels : Nat)
    (build : Json → Nat → Except SearchError (Pred × Nat)) : Prop :=
  ∀ c total p total', build c total = .ok (p, total')
    ↔ ∃ q, Within py leaf levels c total q total' ∧ p = denotes leaf q

lemma leafKinds_not_compound {kind : String} (h : kind ∈ leafKinds) : kind ∉ compoundKinds := by
  revert h
  simp only [leafKinds, compoundKinds, List.mem_cons, List.not_mem_nil, or_false]
  rintro (rfl | rfl | rfl | rfl | rfl | rfl | rfl | rfl | rfl | rfl | rfl | rfl | rfl | rfl | rfl |
    rfl | rfl | rfl) <;> decide

/-- What a clause with a kind and a body can read as. -/
inductive ReadsAs (py : Python) (kind : String) (o : Object) : ClauseTree → Prop where
  | leaf (hk : kind ∈ leafKinds) : ReadsAs py kind o (.leaf (kind, o))
  | bool {must filter should mustNot : List ClauseTree} {minimum : Option Int} (hk : kind = "bool")
      (hne : emptyArm o = none)
      (hmust : List.Forall₂ (Reads py) (armEntries o "must") must)
      (hfilter : List.Forall₂ (Reads py) (armEntries o "filter") filter)
      (hshould : List.Forall₂ (Reads py) (armEntries o "should") should)
      (hmustNot : List.Forall₂ (Reads py) (armEntries o "must_not") mustNot)
      (hmin : minimumOf py o should.length = .ok minimum) :
      ReadsAs py kind o (.bool must filter should mustNot minimum)
  | constantScore {q : ClauseTree} (hk : kind = "constant_score")
      (h : Reads py ((Assoc.get "filter" o).getD (.dict [])) q) :
      ReadsAs py kind o (.constantScore q)
  | disMax {cs : List Json} {qs : List ClauseTree} (hk : kind = "dis_max")
      (hc : ((Assoc.get "queries" o).getD (.list [])).iterate = some cs)
      (h : List.Forall₂ (Reads py) cs qs) : ReadsAs py kind o (.disMax qs)
  | boosting {q : ClauseTree} (hk : kind = "boosting")
      (h : Reads py ((Assoc.get "positive" o).getD (.dict [])) q) : ReadsAs py kind o (.boosting q)

/-- A `bool` with an empty body is not refused. -/
lemma not_refusedEmpty_bool (o : Object) : ¬ refusedEmpty "bool" o := by
  rintro ⟨-, hn⟩
  cases hn

/-- A clause of one kind reads as what its kind says. -/
lemma reads_dict_iff {kind : String} {o : Object} {q : ClauseTree} :
    Reads py (.dict [(kind, .dict o)]) q ↔ ¬ refusedEmpty kind o ∧ ReadsAs py kind o q := by
  constructor
  · intro h
    generalize e : Json.dict [(kind, .dict o)] = c at h
    cases h with
    | all ht =>
      subst e
      cases ht
    | leaf hk hb => cases e; exact ⟨hb, .leaf hk⟩
    | bool hne hmust hfilter hshould hmustNot hmin =>
      cases e
      exact ⟨not_refusedEmpty_bool _, .bool rfl hne hmust hfilter hshould hmustNot hmin⟩
    | constantScore hb h => cases e; exact ⟨hb, .constantScore rfl h⟩
    | disMax hb hc h => cases e; exact ⟨hb, .disMax rfl hc h⟩
    | boosting hb h => cases e; exact ⟨hb, .boosting rfl h⟩
  · intro ⟨hb, h⟩
    cases h with
    | leaf hk => exact .leaf hk hb
    | bool hk hne hmust hfilter hshould hmustNot hmin =>
      subst hk
      exact .bool hne hmust hfilter hshould hmustNot hmin
    | constantScore hk h => subst hk; exact .constantScore hb h
    | disMax hk hc h => subst hk; exact .disMax hb hc h
    | boosting hk h => subst hk; exact .boosting hb h

lemma Reads.shape {c : Json} {q : ClauseTree} (h : Reads py c q) :
    (c.truthy = false ∧ q = .all) ∨ ∃ kind o, c = .dict [(kind, .dict o)] := by
  cases h with
  | all h => exact .inl ⟨h, rfl⟩
  | leaf => exact .inr ⟨_, _, rfl⟩
  | bool => exact .inr ⟨_, _, rfl⟩
  | constantScore => exact .inr ⟨_, _, rfl⟩
  | disMax => exact .inr ⟨_, _, rfl⟩
  | boosting => exact .inr ⟨_, _, rfl⟩

variable {levels total total' : Nat} {build : Json → Nat → Except SearchError (Pred × Nat)}

/-- The clauses of a list that were built, and the rest of what the builder of their compound does.
    -/
lemma collect_bind_eq_ok_iff {α : Type} (hbuild : BuildsMeaning py leaf levels build)
    {cs : List Json} (htotal : total ≤ maxClauseCount)
    {f : List Pred × Nat → Except SearchError α} {r : α} :
    collect build cs total >>= f = .ok r
      ↔ ∃ qs, List.Forall₂ (Reads py) cs qs ∧ BoolQuery.heights qs ≤ levels
        ∧ (∀ l ∈ BoolQuery.leavesAll qs, Builds leaf l)
        ∧ total + BoolQuery.sizes (leafExtra leaf) qs ≤ maxClauseCount
        ∧ f (qs.map (denotes leaf), total + BoolQuery.sizes (leafExtra leaf) qs) = .ok r := by
  rw [bind_eq_ok_iff]
  constructor
  · rintro ⟨⟨ps, t⟩, hps, hf⟩
    obtain ⟨qs, hqs, hh, hl, rfl, hc, rfl⟩ := (collect_eq_ok_iff hbuild htotal).1 hps
    exact ⟨qs, hqs, hh, hl, hc, hf⟩
  · rintro ⟨qs, hqs, hh, hl, hc, hf⟩
    exact ⟨_, (collect_eq_ok_iff hbuild htotal).2 ⟨qs, hqs, hh, hl, rfl, hc, rfl⟩, hf⟩

/-- A `bool` is built as the meaning of the query its arms read as. -/
lemma buildBool_eq_ok_iff (hbuild : BuildsMeaning py leaf levels build) {o : Object} {p : Pred}
    (htotal : total + 1 ≤ maxClauseCount) :
    buildBool py build o (total + 1) = .ok (p, total')
      ↔ ∃ q, ReadsAs py "bool" o q ∧ q.height ≤ levels ∧ (∀ l ∈ q.leaves, Builds leaf l)
        ∧ total' = total + q.size (leafExtra leaf) ∧ total' ≤ maxClauseCount
        ∧ p = denotes leaf q := by
  rw [buildBool]
  cases hne : emptyArm o with
  | some arm =>
    constructor
    · intro h
      cases h
    · rintro ⟨q, hq, -⟩
      cases hq with
      | leaf hk => exact absurd (by decide) (leafKinds_not_compound hk)
      | bool _ hne' => rw [hne] at hne'; cases hne'
      | constantScore hk => simp at hk
      | disMax hk => simp at hk
      | boosting hk => simp at hk
  | none =>
    dsimp only
    constructor
    · intro h
      obtain ⟨must, hmust, hh1, hl1, hc1, h⟩ := (collect_bind_eq_ok_iff hbuild htotal).1 h
      obtain ⟨filter, hfilter, hh2, hl2, hc2, h⟩ := (collect_bind_eq_ok_iff hbuild hc1).1 h
      obtain ⟨should, hshould, hh3, hl3, hc3, h⟩ := (collect_bind_eq_ok_iff hbuild hc2).1 h
      obtain ⟨mustNot, hmustNot, hh4, hl4, hc4, h⟩ := (collect_bind_eq_ok_iff hbuild hc3).1 h
      obtain ⟨minimum, hmin, h⟩ := bind_eq_ok_iff.1 h
      rw [List.length_map] at hmin
      cases h
      refine ⟨.bool must filter should mustNot minimum,
        .bool rfl hne hmust hfilter hshould hmustNot hmin, ?_, ?_, ?_, hc4,
        boolPred_eq_denotes must filter should mustNot minimum⟩
      · rw [BoolQuery.height]
        exact max_le (max_le hh1 hh2) (max_le hh3 hh4)
      · intro l hl
        simp only [BoolQuery.leaves, List.mem_append] at hl
        rcases hl with ((hl | hl) | hl) | hl
        · exact hl1 l hl
        · exact hl2 l hl
        · exact hl3 l hl
        · exact hl4 l hl
      · rw [BoolQuery.size]
        omega
    · rintro ⟨q, hq, hh, hl, ht, hc, rfl⟩
      cases hq with
      | leaf hk => exact absurd (by decide) (leafKinds_not_compound hk)
      | @bool must filter should mustNot minimum _ _ hmust hfilter hshould hmustNot hmin =>
        simp only [BoolQuery.height, Nat.max_le] at hh
        simp only [BoolQuery.leaves, List.mem_append] at hl
        rw [BoolQuery.size] at ht
        refine (collect_bind_eq_ok_iff hbuild htotal).2
          ⟨must, hmust, hh.1.1, fun l h => hl l (.inl (.inl (.inl h))), by omega, ?_⟩
        refine (collect_bind_eq_ok_iff hbuild (by omega)).2
          ⟨filter, hfilter, hh.1.2, fun l h => hl l (.inl (.inl (.inr h))), by omega, ?_⟩
        refine (collect_bind_eq_ok_iff hbuild (by omega)).2
          ⟨should, hshould, hh.2.1, fun l h => hl l (.inl (.inr h)), by omega, ?_⟩
        refine (collect_bind_eq_ok_iff hbuild (by omega)).2
          ⟨mustNot, hmustNot, hh.2.2, fun l h => hl l (.inr h), by omega, ?_⟩
        rw [bind_eq_ok_iff]
        refine ⟨minimum, by rw [List.length_map]; exact hmin, ?_⟩
        have e : total + 1 + BoolQuery.sizes (leafExtra leaf) must
            + BoolQuery.sizes (leafExtra leaf) filter + BoolQuery.sizes (leafExtra leaf) should
            + BoolQuery.sizes (leafExtra leaf) mustNot = total' := by omega
        rw [boolPred_eq_denotes, e]
        rfl
      | constantScore hk => simp at hk
      | disMax hk => simp at hk
      | boosting hk => simp at hk

/-- A `dis_max` is built as the meaning of the query its clauses read as. -/
lemma buildDisMax_eq_ok_iff (hbuild : BuildsMeaning py leaf levels build) {o : Object} {p : Pred}
    (htotal : total + 1 ≤ maxClauseCount) :
    buildDisMax build o (total + 1) = .ok (p, total')
      ↔ ∃ q, ReadsAs py "dis_max" o q ∧ q.height ≤ levels ∧ (∀ l ∈ q.leaves, Builds leaf l)
        ∧ total' = total + q.size (leafExtra leaf) ∧ total' ≤ maxClauseCount
        ∧ p = denotes leaf q := by
  have hmeaning : ∀ qs : List ClauseTree,
      (fun rec => (qs.map (denotes leaf)).any (· rec)) = denotes leaf (.disMax qs) := by
    intro qs
    funext rec
    simp [denotes, BoolQuery.eval, BoolQuery.evals_eq_map, Function.comp_def]
  rw [buildDisMax]
  cases hc : ((Assoc.get "queries" o).getD (.list [])).iterate with
  | none =>
    constructor
    · intro h
      cases h
    · rintro ⟨q, hq, -⟩
      cases hq with
      | leaf hk => exact absurd (by decide) (leafKinds_not_compound hk)
      | bool hk => simp at hk
      | constantScore hk => simp at hk
      | disMax _ hc' => rw [hc] at hc'; cases hc'
      | boosting hk => simp at hk
  | some cs =>
    dsimp only
    rw [collect_bind_eq_ok_iff hbuild htotal]
    constructor
    · rintro ⟨qs, hqs, hh, hl, hcount, h⟩
      cases h
      refine ⟨.disMax qs, .disMax rfl hc hqs, hh, hl, ?_, hcount, hmeaning qs⟩
      rw [BoolQuery.size]
      omega
    · rintro ⟨q, hq, hh, hl, ht, hcount, rfl⟩
      cases hq with
      | leaf hk => exact absurd (by decide) (leafKinds_not_compound hk)
      | bool hk => simp at hk
      | constantScore hk => simp at hk
      | @disMax _ qs _ hc' hqs =>
        rw [hc] at hc'
        cases hc'
        rw [BoolQuery.size] at ht
        have e : total + 1 + BoolQuery.sizes (leafExtra leaf) qs = total' := by omega
        refine ⟨qs, hqs, hh, hl, by omega, ?_⟩
        rw [hmeaning, e]
        rfl
      | boosting hk => simp at hk

/-- A leaf is built as the meaning of the leaf it reads as. -/
lemma buildLeaf_eq_ok_iff {kind : String} (hk : kind ∈ leafKinds) {o : Object} {p : Pred} :
    (do let (extra, p) ← leaf kind o
        let total ← countClauses extra (total + 1)
        return (p, total)) = Except.ok (p, total')
      ↔ ∃ q, ReadsAs py kind o q ∧ q.height ≤ levels ∧ (∀ l ∈ q.leaves, Builds leaf l)
        ∧ total' = total + q.size (leafExtra leaf) ∧ total' ≤ maxClauseCount
        ∧ p = denotes leaf q := by
  rw [bind_eq_ok_iff]
  constructor
  · rintro ⟨⟨extra, p'⟩, hleaf, h⟩
    obtain ⟨t, ht, h⟩ := bind_eq_ok_iff.1 h
    cases h
    obtain ⟨rfl, hc⟩ := countClauses_eq_ok_iff.1 ht
    refine ⟨.leaf (kind, o), .leaf hk, Nat.zero_le _, ?_, ?_, hc, ?_⟩
    · intro l hl
      rw [List.mem_singleton.1 hl]
      exact ⟨_, hleaf⟩
    · have he : leafExtra leaf (kind, o) = extra := by rw [leafExtra, hleaf]
      rw [BoolQuery.size, he]
      omega
    · funext rec
      rw [denotes, BoolQuery.eval, leafHolds, hleaf]
  · rintro ⟨q, hq, -, hl, ht, hc, rfl⟩
    cases hq with
    | leaf _ =>
      obtain ⟨⟨extra, p'⟩, hleaf⟩ := hl (kind, o) (List.mem_singleton_self _)
      have he : leafExtra leaf (kind, o) = extra := by rw [leafExtra, hleaf]
      rw [BoolQuery.size, he] at ht
      refine ⟨(extra, p'), hleaf, ?_⟩
      rw [bind_eq_ok_iff]
      refine ⟨total', countClauses_eq_ok_iff.2 ⟨by omega, hc⟩, ?_⟩
      have e : denotes leaf (.leaf (kind, o)) = p' := by
        funext rec
        rw [denotes, BoolQuery.eval, leafHolds, hleaf]
      rw [e]
      rfl
    | bool h => subst h; exact absurd (by decide) (leafKinds_not_compound hk)
    | constantScore h => subst h; exact absurd (by decide) (leafKinds_not_compound hk)
    | disMax h => subst h; exact absurd (by decide) (leafKinds_not_compound hk)
    | boosting h => subst h; exact absurd (by decide) (leafKinds_not_compound hk)

lemma ReadsAs.known {kind : String} {o : Object} {q : ClauseTree} (h : ReadsAs py kind o q) :
    kind ∈ leafKinds ∨ kind ∈ compoundKinds := by
  cases h with
  | leaf hk => exact .inl hk
  | bool hk => subst hk; exact .inr (by decide)
  | constantScore hk => subst hk; exact .inr (by decide)
  | disMax hk => subst hk; exact .inr (by decide)
  | boosting hk => subst hk; exact .inr (by decide)

/-- A query type with its body is built as the meaning of the query it reads as. -/
lemma buildQuery_eq_ok_iff (hbuild : BuildsMeaning py leaf levels build) {kind : String}
    {o : Object}
    {p : Pred} (htotal : total + 1 ≤ maxClauseCount) :
    buildQuery py leaf build kind (.dict o) (total + 1) = .ok (p, total')
      ↔ ¬ refusedEmpty kind o ∧ ∃ q, ReadsAs py kind o q ∧ q.height ≤ levels
        ∧ (∀ l ∈ q.leaves, Builds leaf l) ∧ total' = total + q.size (leafExtra leaf)
        ∧ total' ≤ maxClauseCount ∧ p = denotes leaf q := by
  rw [buildQuery]
  by_cases hknown : kind ∈ leafKinds ∨ kind ∈ compoundKinds
  swap
  · rw [not_or] at hknown
    rw [if_pos (by simp [hknown])]
    constructor
    · intro h
      cases h
    · rintro ⟨-, q, hq, -⟩
      rcases hq.known with h | h
      · exact absurd h hknown.1
      · exact absurd h hknown.2
  rw [if_neg (by simpa using fun h => hknown.resolve_left h)]
  dsimp only
  by_cases hr : refusedEmpty kind o
  · obtain ⟨r, hget⟩ := Option.isSome_iff_exists.1 hr.2
    rw [if_pos hr.1, hget]
    constructor
    · intro h
      cases h
    · intro h
      exact absurd hr h.1
  have hnone : (if o.isEmpty then Assoc.get kind emptyClause else none) = none := by
    split_ifs with he
    · cases hget : Assoc.get kind emptyClause with
      | none => rfl
      | some r => exact absurd ⟨he, by rw [hget]; rfl⟩ hr
    · rfl
  rw [hnone]
  simp only [hr, not_false_eq_true, true_and]
  by_cases hbool : kind = "bool"
  · subst hbool
    rw [if_pos rfl]
    exact buildBool_eq_ok_iff hbuild htotal
  rw [if_neg hbool]
  by_cases hconst : kind = "constant_score"
  · subst hconst
    rw [if_pos rfl, hbuild]
    constructor
    · rintro ⟨q, hq, rfl⟩
      refine ⟨.constantScore q, .constantScore rfl hq.reads, hq.height, hq.leaves, ?_, hq.count,
        rfl⟩
      rw [BoolQuery.size, hq.size]
      omega
    · rintro ⟨q, hq, hh, hl, ht, hc, rfl⟩
      cases hq with
      | leaf hk => exact absurd (by decide) (leafKinds_not_compound hk)
      | bool hk => simp at hk
      | @constantScore q _ h =>
        rw [BoolQuery.size] at ht
        exact ⟨q, ⟨h, hh, hl, by omega, hc⟩, rfl⟩
      | disMax hk => simp at hk
      | boosting hk => simp at hk
  rw [if_neg hconst]
  by_cases hdis : kind = "dis_max"
  · subst hdis
    rw [if_pos rfl]
    exact buildDisMax_eq_ok_iff hbuild htotal
  rw [if_neg hdis]
  by_cases hboost : kind = "boosting"
  · subst hboost
    rw [if_pos rfl, hbuild]
    constructor
    · rintro ⟨q, hq, rfl⟩
      refine ⟨.boosting q, .boosting rfl hq.reads, hq.height, hq.leaves, ?_, hq.count, rfl⟩
      rw [BoolQuery.size, hq.size]
      omega
    · rintro ⟨q, hq, hh, hl, ht, hc, rfl⟩
      cases hq with
      | leaf hk => exact absurd (by decide) (leafKinds_not_compound hk)
      | bool hk => simp at hk
      | constantScore hk => simp at hk
      | disMax hk => simp at hk
      | @boosting q _ h =>
        rw [BoolQuery.size] at ht
        exact ⟨q, ⟨h, hh, hl, by omega, hc⟩, rfl⟩
  rw [if_neg hboost]
  have hk : kind ∈ leafKinds := by
    rcases hknown with hk | hk
    · exact hk
    · simp [compoundKinds, hbool, hconst, hdis, hboost] at hk
  exact buildLeaf_eq_ok_iff hk

end

lemma buildQuery_ne_ok {py : Python} {leaf : Leaf}
    {build : Json → Nat → Except SearchError (Pred × Nat)} {kind : String} {body : Json}
    {total : Nat}
    {r : Pred × Nat} (hb : ∀ o, body ≠ .dict o) :
    buildQuery py leaf build kind body total ≠ .ok r := by
  intro h
  unfold buildQuery at h
  split at h
  · cases h
  · split at h
    · exact hb _ rfl
    · cases h

/-- Building a clause answers the meaning of the query it reads as, if there is one within the
    limits whose leaves can be built, and is refused if there is none. -/
theorem buildClause_eq_ok_iff (py : Python) (leaf : Leaf) (levels : Nat) :
    BuildsMeaning py leaf levels (buildClause py leaf levels) := by
  induction levels with
  | zero =>
    intro c total p total'
    constructor
    · intro h
      obtain ⟨t, -, h⟩ := bind_eq_ok_iff.1 h
      cases h
    · rintro ⟨q, hq, -⟩
      exact absurd hq.height (Nat.not_lt_zero _)
  | succ levels ih =>
    intro c total p total'
    rw [buildClause, bind_eq_ok_iff]
    constructor
    · rintro ⟨t, ht, h⟩
      obtain ⟨rfl, hc⟩ := countClauses_eq_ok_iff.1 ht
      split at h
      next hf =>
        cases h
        have hf' : c.truthy = false := by simpa using hf
        exact ⟨.all, ⟨.all hf', Nat.succ_pos _, fun l hl => absurd hl List.not_mem_nil, rfl, hc⟩,
          rfl⟩
      next =>
        split at h
        next kind body _ =>
          cases body with
          | dict o =>
            obtain ⟨hr, q, hq, hh, hl, hs, hcount, rfl⟩ := (buildQuery_eq_ok_iff ih hc).1 h
            exact ⟨q, ⟨reads_dict_iff.2 ⟨hr, hq⟩, Nat.lt_succ_of_le hh, hl, hs, hcount⟩, rfl⟩
          | _ => exact absurd h (buildQuery_ne_ok (by simp))
        next => cases h
        next => cases h
    · rintro ⟨q, hq, rfl⟩
      have hpos := q.size_pos (leafExtra leaf)
      have hc : total + 1 ≤ maxClauseCount := by
        have hs := hq.size
        have hm := hq.count
        omega
      refine ⟨total + 1, countClauses_eq_ok_iff.2 ⟨rfl, hc⟩, ?_⟩
      rcases hq.reads.shape with ⟨hf, rfl⟩ | ⟨kind, o, rfl⟩
      · rw [if_pos (by rw [hf]; rfl), hq.size]
        rfl
      · rw [if_neg (by simp [Json.truthy])]
        obtain ⟨hr, hreads⟩ := reads_dict_iff.1 hq.reads
        exact (buildQuery_eq_ok_iff ih hc).2
          ⟨hr, q, hreads, Nat.le_of_lt_succ hq.height, hq.leaves, hq.size, hq.count, rfl⟩

lemma forall₂_reads_unique {py : Python} {cs : List Json} {qs qs' : List ClauseTree}
    (hone : ∀ q ∈ qs, ∀ c q', Reads py c q → Reads py c q' → q = q')
    (h : List.Forall₂ (Reads py) cs qs) (h' : List.Forall₂ (Reads py) cs qs') : qs = qs' := by
  induction h generalizing qs' with
  | nil => exact (List.forall₂_nil_left_iff.1 h').symm
  | @cons c q cs qs hq _ ih =>
    cases h' with
    | cons hq' hqs' =>
      rw [hone q List.mem_cons_self c _ hq hq',
        ih (fun q hm => hone q (List.mem_cons_of_mem _ hm)) hqs']

/-- A clause reads as one query at most. -/
lemma Reads.unique {py : Python} {c : Json} {q q' : ClauseTree} (h : Reads py c q)
    (h' : Reads py c q') : q = q' := by
  -- Induction on a bound for the height of the first query.
  obtain ⟨n, hn⟩ : ∃ n, q.height < n := ⟨q.height + 1, Nat.lt_succ_self _⟩
  induction n generalizing c q q' with
  | zero => exact absurd hn (Nat.not_lt_zero _)
  | succ n ih =>
    have hlist : ∀ {cs : List Json} {qs qs' : List ClauseTree}, BoolQuery.heights qs ≤ n →
        List.Forall₂ (Reads py) cs qs → List.Forall₂ (Reads py) cs qs' → qs = qs' :=
      fun hh => forall₂_reads_unique fun q hm c q' hq hq' =>
        ih hq hq' (BoolQuery.heights_le_iff.1 hh q hm)
    rcases h.shape with ⟨hf, rfl⟩ | ⟨kind, o, rfl⟩
    · rcases h'.shape with ⟨-, rfl⟩ | ⟨kind, o, rfl⟩
      · rfl
      · cases hf
    · obtain ⟨hb, hq⟩ := reads_dict_iff.1 h
      obtain ⟨-, hq'⟩ := reads_dict_iff.1 h'
      have hn' := Nat.le_of_lt_succ hn
      cases hq with
      | leaf hk =>
        cases hq' with
        | leaf => rfl
        | bool h => subst h; exact absurd (by decide) (leafKinds_not_compound hk)
        | constantScore h => subst h; exact absurd (by decide) (leafKinds_not_compound hk)
        | disMax h => subst h; exact absurd (by decide) (leafKinds_not_compound hk)
        | boosting h => subst h; exact absurd (by decide) (leafKinds_not_compound hk)
      | bool hk hne hmust hfilter hshould hmustNot hmin =>
        subst hk
        simp only [BoolQuery.height, Nat.max_le] at hn'
        cases hq' with
        | leaf hk => exact absurd (by decide) (leafKinds_not_compound hk)
        | bool _ _ hmust' hfilter' hshould' hmustNot' hmin' =>
          have hs := hlist hn'.2.1 hshould hshould'
          rw [← hs, hmin] at hmin'
          rw [hlist hn'.1.1 hmust hmust', hlist hn'.1.2 hfilter hfilter', hs,
            hlist hn'.2.2 hmustNot hmustNot', Except.ok.inj hmin']
        | constantScore hk => simp at hk
        | disMax hk => simp at hk
        | boosting hk => simp at hk
      | constantScore hk hq =>
        subst hk
        cases hq' with
        | leaf hk => exact absurd (by decide) (leafKinds_not_compound hk)
        | bool hk => simp at hk
        | constantScore _ hq' => rw [ih hq hq' hn']
        | disMax hk => simp at hk
        | boosting hk => simp at hk
      | disMax hk hc hqs =>
        subst hk
        cases hq' with
        | leaf hk => exact absurd (by decide) (leafKinds_not_compound hk)
        | bool hk => simp at hk
        | constantScore hk => simp at hk
        | disMax _ hc' hqs' =>
          rw [hc] at hc'
          cases hc'
          rw [hlist hn' hqs hqs']
        | boosting hk => simp at hk
      | boosting hk hq =>
        subst hk
        cases hq' with
        | leaf hk => exact absurd (by decide) (leafKinds_not_compound hk)
        | bool hk => simp at hk
        | constantScore hk => simp at hk
        | disMax hk => simp at hk
        | boosting _ hq' => rw [ih hq hq' hn']

/-- `build_predicate` succeeds exactly where the clause reads as a query within the limits whose
    leaves can be built, and answers the meaning of that query. -/
lemma buildPredicate_eq_ok_iff {py : Python} {leaf : Leaf} {clause : Json} {p : Pred} :
    buildPredicate py leaf clause = .ok p
      ↔ ∃ q, Reads py clause q ∧ q.height ≤ maxClauseDepth ∧ (∀ l ∈ q.leaves, Builds leaf l)
        ∧ q.size (leafExtra leaf) ≤ maxClauseCount ∧ p = denotes leaf q := by
  have hiff := buildClause_eq_ok_iff py leaf (maxClauseDepth + 1) clause 0
  rw [buildPredicate]
  constructor
  · intro h
    cases hb : buildClause py leaf (maxClauseDepth + 1) clause 0 with
    | error e =>
      rw [hb] at h
      cases h
    | ok r =>
      rw [hb] at h
      cases h
      obtain ⟨q, hq, hp⟩ := (hiff r.1 r.2).1 hb
      have hs := hq.size
      have hc := hq.count
      exact ⟨q, hq.reads, Nat.le_of_lt_succ hq.height, hq.leaves, by omega, hp⟩
  · rintro ⟨q, hq, hh, hl, hs, rfl⟩
    rw [(hiff _ _).2 ⟨q, ⟨hq, Nat.lt_succ_of_le hh, hl, rfl, by omega⟩, rfl⟩]
    rfl

/-- Two ways to build a leaf clause come to the same on some records. -/
structure LeafAlike (leaf leaf' : Leaf) (records : List Rec) (l : String × Object) : Prop where
  builds : Builds leaf l ↔ Builds leaf' l
  extra : leafExtra leaf l = leafExtra leaf' l
  holds : ∀ rec ∈ records, leafHolds leaf rec l = leafHolds leaf' rec l

lemma LeafAlike.symm {leaf leaf' : Leaf} {records : List Rec} {l : String × Object}
    (h : LeafAlike leaf leaf' records l) : LeafAlike leaf' leaf records l :=
  ⟨h.builds.symm, h.extra.symm, fun rec hr => (h.holds rec hr).symm⟩

lemma buildPredicate_congr {py : Python} {leaf leaf' : Leaf} {records : List Rec} {clause : Json}
    {p : Pred} (h : ∀ q, Reads py clause q → ∀ l ∈ q.leaves, LeafAlike leaf leaf' records l)
    (hp : buildPredicate py leaf clause = .ok p) :
    ∃ p', buildPredicate py leaf' clause = .ok p' ∧ ∀ rec ∈ records, p rec = p' rec := by
  obtain ⟨q, hq, hh, hl, hs, rfl⟩ := buildPredicate_eq_ok_iff.1 hp
  have hleaves := h q hq
  refine ⟨denotes leaf' q, buildPredicate_eq_ok_iff.2 ⟨q, hq, hh, ?_, ?_, rfl⟩, ?_⟩
  · intro l hm
    exact (hleaves l hm).builds.1 (hl l hm)
  · rwa [← BoolQuery.size_congr q fun l hm => (hleaves l hm).extra]
  · intro rec hr
    exact BoolQuery.eval_congr q fun l hm => (hleaves l hm).holds rec hr

/-- The meaning of the queries `build_predicate` accepts. A clause it accepts reads as a boolean
    query, and the predicate it builds is true exactly where that query is: every must and filter
    clause true, no must_not clause true, and at least the required number of should clauses true,
    which is one where there is no must or filter and none otherwise, and which
    `minimum_should_match` can raise but not lower. A query nested deeper than the limit or with
    more clauses than the limit is refused, and one within the limits whose leaves can be built is
    not. -/
theorem buildPredicate_denotes (py : Python) (leaf : Leaf) (clause : Json) :
    (∀ p, buildPredicate py leaf clause = .ok p → ∃ q, Reads py clause q)
      ∧ ∀ q, Reads py clause q →
          (∀ p, buildPredicate py leaf clause = .ok p →
              ∀ rec, p rec = true ↔ q.eval (leafHolds leaf rec) = true)
            ∧ (maxClauseDepth < q.height ∨ maxClauseCount < q.size (leafExtra leaf) →
              ∃ e, buildPredicate py leaf clause = .error e)
            ∧ (q.height ≤ maxClauseDepth → q.size (leafExtra leaf) ≤ maxClauseCount →
              (∀ l ∈ q.leaves, Builds leaf l) → ∃ p, buildPredicate py leaf clause = .ok p) := by
  refine ⟨?_, ?_⟩
  · intro p hp
    obtain ⟨q, hq, -⟩ := buildPredicate_eq_ok_iff.1 hp
    exact ⟨q, hq⟩
  · intro q hq
    refine ⟨?_, ?_, ?_⟩
    · intro p hp rec
      obtain ⟨q', hq', -, -, -, rfl⟩ := buildPredicate_eq_ok_iff.1 hp
      rw [hq.unique hq', denotes]
    · intro hover
      cases hb : buildPredicate py leaf clause with
      | error e => exact ⟨e, rfl⟩
      | ok p =>
        exfalso
        obtain ⟨q', hq', hh, -, hs, -⟩ := buildPredicate_eq_ok_iff.1 hb
        rw [← hq.unique hq'] at hh hs
        omega
    · intro hh hs hl
      exact ⟨_, buildPredicate_eq_ok_iff.2 ⟨q, hq, hh, hl, hs, rfl⟩⟩

/-- Leaf clauses of which only `match_all` holds. -/
def onlyMatchAll : Leaf := fun kind _ => .ok (0, fun _ => kind = "match_all")

/-- A `bool` of one `must` clause, given without a list, and one `should` clause that does not hold.
    -/
theorem must_and_should :
    let clause : Json := .dict [("bool", .dict [("must", .dict [("match_all", .dict [])]),
      ("should", .list [.dict [("term", .dict [("a", .int 1)])]])])]
    ∀ p, buildPredicate asciiPython onlyMatchAll clause = .ok p → p ⟨none, []⟩ = true := by
  intro clause p hp
  have hreads : Reads asciiPython clause
      (.bool [.leaf ("match_all", [])] [] [.leaf ("term", [("a", .int 1)])] [] none) := by
    refine .bool rfl (.cons (.leaf (by decide) ?_) .nil) .nil (.cons (.leaf (by decide) ?_) .nil)
      .nil rfl
    · rintro ⟨-, h⟩
      cases h
    · rintro ⟨h, -⟩
      cases h
  exact (((buildPredicate_denotes asciiPython onlyMatchAll clause).2 _ hreads).1 p hp _).2 rfl

/-- `minimum_should_match: 0` on a `bool` that has `should` clauses only: the clause is accepted,
    none of the shoulds has to hold for the minimum, and the predicate is false. -/
theorem minimum_zero_requires_one :
    let body : Object := [("should", .list [.dict [("term", .dict [("a", .int 1)])]]),
      ("minimum_should_match", .int 0)]
    let holding : Nat :=
      [("term", [("a", Json.int 1)])].countP (leafHolds onlyMatchAll ⟨none, []⟩)
    minimumOf asciiPython body 1 = .ok (some 0)
      ∧ ∃ p, buildPredicate asciiPython onlyMatchAll (.dict [("bool", .dict body)]) = .ok p
        ∧ ¬ (p ⟨none, []⟩ = true ↔ (0 : Int) ≤ holding) := by
  refine ⟨rfl, _, rfl, ?_⟩
  intro h
  exact absurd (h.2 (le_refl _)) (by decide)

end Mockdr.Elastic
