import Mockdr.Mde.KqlRaises

/-!
# Which hunting queries are refused

`evaluate_kql` looks at the argument of a stage when it runs the stage, and at much of it only while
it goes through the rows: on a table without rows it does not see it.

* `Honours`: the evaluator can do what the stage says, all of it.
* `Outright`: the stage raises before it looks at a row.
* `DependsOnQuery`: that a query is refused does not depend on the table it is asked of, and no
  query with a stage that cannot be honoured is answered.
* `dependsOnQuery_of_honours_or_outright` and `depends_on_query_iff`: when this is so.
-/

namespace Mockdr

namespace Kql

variable (py : KqlPython)

/-! ## Stages that can be honoured -/

namespace Pred

/-- How deep the predicates of an expression are nested. -/
def height : Pred → Nat
  | truth _ | compare _ _ _ | string _ _ _ _ => 1
  | not inner => inner.height + 1
  | and left right | or left right => max left.height right.height + 1

/-- No pattern of a predicate is refused, whatever the row, and none exhausts the stack. -/
def PatternsRun : Pred → Prop
  | truth _ | compare _ _ _ => True
  | string op _ _ right => op = .matches → ∀ row pattern, toStr py (right.eval row) = .ok pattern →
      PatternRaises py Fault.Foreign pattern
  | not inner => inner.PatternsRun
  | and left right | or left right => left.PatternsRun ∧ right.PatternsRun

end Pred

/-- What `_AGG_RE.finditer` passes over. -/
def skippedText : Nat → List Char → List Char
  | 0, cs => cs
  | _, [] => []
  | n + 1, c :: cs =>
    match aggregationAt py (c :: cs) with
    | some (_, rest) => skippedText n rest
    | none => c :: skippedText n cs

/-- An assignment of an `extend` stage: a name, and an expression of one operand. -/
def HonoursAssignment (part : List Char) : Prop :=
  '=' ∈ part ∧ stripChars (part.takeWhile (· ≠ '=')) ≠ [] ∧
    ∃ operand, readOperand py (String.ofList (stripChars ((part.dropWhile (· ≠ '=')).drop 1)))
      = .ok (operand, [])

/-- A clause of an `order` stage: a column, and a direction perhaps. -/
def HonoursClause (clause : List Char) : Prop :=
  match words clause with
  | [] => False
  | [_] => True
  | [_, direction] => py.lower (String.ofList direction) ∈ ["asc", "desc"]
  | _ :: _ :: _ :: _ => False

/-- The evaluator can do what a stage says: its expression can be read to the end and evaluated, its
    aggregations are known, and there is no other text in its argument. -/
def Honours (stage : Operator × String) : Prop :=
  match stage.1 with
  | .where => ∃ tokens predicate, tokenize py stage.2 = .ok tokens ∧
      parsePredicate py tokens = .ok predicate ∧ predicate.height ≤ py.stack ∧
      predicate.PatternsRun py
  | .extend => ∀ part ∈ splitCommas stage.2.toList, HonoursAssignment py part
  | .summarize =>
    let text := (splitBy stage.2.toList).1
    (∀ a ∈ parseAggregations py text, a.function ∈ aggregationNames) ∧
      ∀ c ∈ skippedText py text.length text, c = ',' ∨ isSpace c = true
  | .order => stage.2 = "" ∨ ∀ clause ∈ splitCommas stage.2.toList, HonoursClause py clause
  | .take | .limit => stage.2 ≠ "" ∧ ∀ c ∈ stage.2.toList, isDigit py c = true
  | .top => ∃ digits clauses, topParts py stage.2.toList = some (digits, clauses) ∧
      ∀ text ∈ clauses, ∀ clause ∈ splitCommas text, HonoursClause py clause
  | .count => stage.2 = ""
  | .project | .projectAway | .distinct => True

/-- A stage raises before it looks at a row: its expression cannot be read, or its number. -/
def Outright (stage : Operator × String) : Prop :=
  match stage.1 with
  | .where => ∀ predicate, (tokenize py stage.2 >>= parsePredicate py) ≠ .ok predicate
  | .take | .limit =>
    let digits := (stage.2.toList.dropWhile fun c => !isDigit py c).takeWhile (isDigit py)
    digits ≠ [] ∧ py.readInt (String.ofList digits) = none
  | .top =>
    match topParts py stage.2.toList with
    | none => True
    | some (digits, _) => py.readInt (String.ofList digits) = none
  | .extend | .summarize | .order | .count | .project | .projectAway | .distinct => False

/-! ## Queries that are refused -/

/-- `evaluate_kql` refuses a query on a table: it raises a `KqlError`. -/
def Refuses (q : KqlQuery) (rows : List Row) : Prop :=
  ∃ message, evaluateKql py rows q = .error (.kql message)

/-- `evaluate_kql` neither answers a query on a table nor refuses it: it raises something else. -/
def Crashes (q : KqlQuery) (rows : List Row) : Prop :=
  ∃ fault, evaluateKql py rows q = .error fault ∧ ∀ message, fault ≠ .kql message

/-- Whether a query is refused depends on the query only. -/
structure DependsOnQuery (q : KqlQuery) : Prop where
  /-- it is refused on one table if and only if on the other -/
  alike : ∀ rows rows', ¬ Crashes py q rows → ¬ Crashes py q rows' →
    (Refuses py q rows ↔ Refuses py q rows')
  /-- a stage that cannot be honoured is not passed over -/
  honoured : (∃ stage ∈ q.operators, ¬ Honours py stage) →
    ∀ rows, ¬ Crashes py q rows → Refuses py q rows

variable {py} {q : KqlQuery} {rows : List Row} {stage : Operator × String}

/-- What is not refused and raises nothing else is answered. -/
lemma answered {rows : List Row} (hrefuses : ¬ Refuses py q rows) (hcrashes : ¬ Crashes py q rows) :
    ∃ out, evaluateKql py rows q = .ok out := by
  cases h : evaluateKql py rows q with
  | ok out => exact ⟨out, rfl⟩
  | error fault =>
    cases fault with
    | kql message => exact absurd ⟨message, h⟩ hrefuses
    | recursion => exact absurd ⟨_, h, nofun⟩ hcrashes
    | raised exc => exact absurd ⟨_, h, nofun⟩ hcrashes

/-! ## A stage that can be honoured refuses no row -/

lemma raises_eval {row : Row} {predicate : Pred} {stack : Nat} (hheight : predicate.height ≤ stack)
    (hpatterns : predicate.PatternsRun py) :
    Raises Fault.Foreign (predicate.eval py row stack) := by
  induction predicate generalizing stack with
  | truth operand =>
    obtain ⟨n, rfl⟩ : ∃ n, stack = n + 1 := ⟨stack - 1, (Nat.sub_add_cancel hheight).symm⟩
    exact .ok _
  | compare op left right =>
    obtain ⟨n, rfl⟩ : ∃ n, stack = n + 1 := ⟨stack - 1, (Nat.sub_add_cancel hheight).symm⟩
    exact raises_comparison (raises_toStr _) (raises_toStr _) (fun _ => raises_asFloat _)
      fun _ => raises_asFloat _
  | string op negated left right =>
    obtain ⟨n, rfl⟩ : ∃ n, stack = n + 1 := ⟨stack - 1, (Nat.sub_add_cancel hheight).symm⟩
    exact (raises_stringOp (raises_toStr _) (fun v _ => raises_toStr v)
      fun hop => hpatterns hop row).map
  | not inner ih =>
    rw [Pred.height] at hheight
    obtain ⟨n, rfl⟩ : ∃ n, stack = n + 1 := ⟨stack - 1, by omega⟩
    exact (ih (Nat.le_of_succ_le_succ hheight) hpatterns).map
  | and left right ihl ihr =>
    rw [Pred.height] at hheight
    obtain ⟨n, rfl⟩ : ∃ n, stack = n + 1 := ⟨stack - 1, by omega⟩
    refine (ihl (by omega) hpatterns.1).bind fun b _ => ?_
    cases b with
    | true => exact ihr (by omega) hpatterns.2
    | false => exact .ok _
  | or left right ihl ihr =>
    rw [Pred.height] at hheight
    obtain ⟨n, rfl⟩ : ∃ n, stack = n + 1 := ⟨stack - 1, by omega⟩
    refine (ihl (by omega) hpatterns.1).bind fun b _ => ?_
    cases b with
    | true => exact .ok _
    | false => exact ihr (by omega) hpatterns.2

/-- The assignments of an `extend` stage that can be honoured can all be read. -/
lemma readOperand_of_honours {argument : String} {name expression : String}
    (h : ∀ part ∈ splitCommas argument.toList, HonoursAssignment py part)
    (hmem : (name, expression) ∈ assignments argument) :
    ∃ operand, readOperand py expression = .ok (operand, []) := by
  obtain ⟨part, hpart, hread⟩ := List.mem_filterMap.1 hmem
  obtain ⟨hequals, -, operand, hoperand⟩ := h part hpart
  rw [if_pos hequals] at hread
  cases hread
  exact ⟨operand, hoperand⟩

lemma raises_opExtend {argument : String}
    (h : ∀ part ∈ splitCommas argument.toList, HonoursAssignment py part) :
    Raises Fault.Foreign (opExtend py rows argument) := by
  refine .mapM fun row _ => ?_
  rw [extendRow]
  refine (Raises.foldlM (I := fun _ => True) trivial fun row part hpart _ =>
    ⟨?_, fun _ _ => trivial⟩).1
  obtain ⟨operand, hoperand⟩ := readOperand_of_honours h hpart
  rw [evaluateOperand, hoperand]
  exact .ok _

/-- A stage that can be honoured raises no `KqlError`. -/
lemma raises_apply (h : Honours py stage) :
    Raises Fault.Foreign (apply py rows stage.1 stage.2) := by
  obtain ⟨op, argument⟩ := stage
  cases op with
  | «where» =>
    obtain ⟨tokens, predicate, htokens, hpredicate, hheight, hpatterns⟩ := h
    rw [apply, opWhere, htokens]
    refine Raises.bind (.ok _) fun _ heq => ?_
    cases heq
    rw [hpredicate]
    refine Raises.bind (.ok _) fun _ heq => ?_
    cases heq
    exact .filterM fun row _ => raises_eval hheight hpatterns
  | project => exact .ok _
  | projectAway => exact .ok _
  | extend => exact raises_opExtend h
  | summarize =>
    refine raises_opSummarize (fun _ _ _ _ => raises_toStr _) fun a ha members _ => ?_
    exact raises_aggregate (fun hunknown => absurd (h.1 a ha) hunknown)
      (fun _ _ _ => raises_toStr _) fun _ _ _ => raises_asFloat _
  | order => exact raises_opOrder fun _ _ _ _ _ _ => ⟨raises_toStr _, raises_asFloat _⟩
  | take => exact raises_opTake raises_readInt
  | limit => exact raises_opTake raises_readInt
  | top =>
    obtain ⟨digits, clauses, hparts, -⟩ := h
    change Raises _ (opTop py rows argument)
    rw [opTop, hparts]
    refine (raises_topOrder fun _ => ?_).bind fun _ _ => (raises_readInt _).map
    exact raises_opOrder fun _ _ _ _ _ _ => ⟨raises_toStr _, raises_asFloat _⟩
  | distinct => exact raises_opDistinct fun _ _ _ _ => raises_toStr _
  | count => exact .ok _

lemma raises_runStage (h : Raises Fault.Foreign (apply py rows stage.1 stage.2)) :
    Raises Fault.Foreign (runStage py rows stage) := by
  unfold runStage
  split
  · next hrecursion =>
    obtain ⟨exc, ⟨⟩⟩ := h _ hrecursion
  · exact h

lemma not_refuses (h : ∀ stage ∈ q.operators, Honours py stage) : ¬ Refuses py q rows := by
  rintro ⟨message, hmessage⟩
  have hraises := (Raises.foldlM (P := Fault.Foreign) (I := fun _ : List Row => True)
    (f := runStage py) (b := rows) trivial fun _ stage hstage _ =>
      ⟨raises_runStage (raises_apply (h stage hstage)), fun _ _ => trivial⟩).1
  obtain ⟨exc, ⟨⟩⟩ := hraises _ hmessage

/-! ## A stage that raises outright -/

/-- `int` refuses the number of a `take` stage, whatever the rows. -/
lemma opTake_outright {argument : String} {out : List Row}
    (h : Outright py (.take, argument)) : opTake py rows argument ≠ .ok out := by
  obtain ⟨hdigits, hread⟩ := h
  intro hout
  unfold opTake at hout
  split at hout
  next hnone => exact hdigits hnone
  next =>
    obtain ⟨n, hn, -⟩ := map_eq_ok_iff.1 hout
    rw [readInt, hread] at hn
    cases hn

/-- A stage that raises before it looks at a row answers on no table. -/
lemma runStage_outright (h : Outright py stage) (out : List Row) :
    runStage py rows stage ≠ .ok out := by
  have happly : ∀ out, apply py rows stage.1 stage.2 ≠ .ok out := by
    obtain ⟨op, argument⟩ := stage
    intro out hout
    cases op with
    | «where» =>
      rw [apply, opWhere] at hout
      obtain ⟨tokens, htokens, hout⟩ := bind_eq_ok_iff.1 hout
      obtain ⟨predicate, hpredicate, -⟩ := bind_eq_ok_iff.1 hout
      exact h predicate (bind_eq_ok_iff.2 ⟨tokens, htokens, hpredicate⟩)
    | take => exact opTake_outright h hout
    | limit => exact opTake_outright h hout
    | top =>
      rw [apply, opTop] at hout
      change (match topParts py argument.toList with
        | none => True
        | some (digits, _) => py.readInt (String.ofList digits) = none) at h
      split at hout
      · cases hout
      next digits clauses hparts =>
        rw [hparts] at h
        obtain ⟨limited, -, hout⟩ := bind_eq_ok_iff.1 hout
        obtain ⟨n, hn, -⟩ := map_eq_ok_iff.1 hout
        rw [readInt, h] at hn
        cases hn
    | project => exact h
    | projectAway => exact h
    | extend => exact h
    | summarize => exact h
    | order => exact h
    | distinct => exact h
    | count => exact h
  unfold runStage
  split
  · exact nofun
  · exact happly out

lemma not_answered (h : ∃ stage ∈ q.operators, Outright py stage) (out : List Row) :
    evaluateKql py rows q ≠ .ok out := by
  intro hout
  obtain ⟨stage, hstage, houtright⟩ := h
  obtain ⟨before, after, hrun⟩ := exists_ok_of_mem_foldlM hout hstage
  exact runStage_outright houtright after hrun

/-! ## A table without rows -/

lemma orderBy_nil (clause : List Char) : orderBy py [] clause = .ok [] := by
  unfold orderBy
  cases words clause with
  | nil => rfl
  | cons column rest => rfl

lemma opOrder_nil (argument : String) : opOrder py [] argument = .ok [] := by
  unfold opOrder
  induction (splitCommas argument.toList).reverse with
  | nil => rfl
  | cons clause clauses ih =>
    rw [List.foldlM_cons, orderBy_nil]
    exact ih

lemma opTake_nil {argument : String} (h : ¬ Outright py (.take, argument)) :
    opTake py [] argument = .ok [] := by
  unfold opTake
  split
  · rfl
  next hdigits =>
    rw [readInt]
    split
    · exact congrArg Except.ok List.take_nil
    next hread => exact absurd ⟨hdigits, hread⟩ h

lemma topOrder_nil (clauses : Option (List Char)) : topOrder py [] clauses = .ok [] := by
  unfold topOrder
  split
  · rfl
  · rfl
  · exact opOrder_nil _

lemma opTop_nil {argument : String} (h : ¬ Outright py (.top, argument)) :
    opTop py [] argument = .ok [] := by
  unfold opTop
  cases hparts : topParts py argument.toList with
  | none =>
    refine absurd ?_ h
    rw [Outright]
    simp only [hparts]
  | some parts =>
    obtain ⟨digits, clauses⟩ := parts
    dsimp only
    rw [topOrder_nil, readInt]
    cases hread : py.readInt (String.ofList digits) with
    | some n => exact congrArg Except.ok List.take_nil
    | none =>
      refine absurd ?_ h
      rw [Outright]
      simp only [hparts]
      exact hread

/-- A stage that does not raise before it looks at a row answers on no rows, whatever is in its
    argument. -/
lemma runStage_nil (h : ¬ Outright py stage) :
    ∃ out, runStage py [] stage = .ok out ∧ (stage.1 ≠ .count → out = []) := by
  obtain ⟨op, argument⟩ := stage
  have hnone : apply py [] op argument = .ok [] → ∃ out, runStage py [] (op, argument) = .ok out ∧
      (op ≠ .count → out = []) := fun happly => ⟨[], by rw [runStage, happly], fun _ => rfl⟩
  cases op with
  | «where» =>
    obtain ⟨predicate, hpredicate⟩ := not_forall_not.1 h
    obtain ⟨tokens, htokens, hpredicate⟩ := bind_eq_ok_iff.1 hpredicate
    refine hnone ?_
    rw [apply, opWhere, htokens]
    change (parsePredicate py tokens >>= _) = _
    rw [hpredicate]
    rfl
  | project => exact hnone rfl
  | projectAway => exact hnone rfl
  | extend => exact hnone rfl
  | summarize => exact hnone rfl
  | order => exact hnone (opOrder_nil argument)
  | take => exact hnone (opTake_nil h)
  | limit => exact hnone (opTake_nil h)
  | top => exact hnone (opTop_nil h)
  | distinct =>
    refine hnone ?_
    rw [apply, opDistinct]
    split
    · rfl
    · rfl
  | count => exact ⟨opCount [], rfl, fun hcount => absurd rfl hcount⟩

lemma evaluateKql_nil (hcount : ∀ stage ∈ q.operators.dropLast, stage.1 ≠ .count)
    (h : ∀ stage ∈ q.operators, ¬ Outright py stage) : ∃ out, evaluateKql py [] q = .ok out := by
  unfold evaluateKql
  generalize q.operators = stages at h hcount
  induction stages with
  | nil => exact ⟨[], rfl⟩
  | cons stage stages ih =>
    obtain ⟨hstage, hstages⟩ := List.forall_mem_cons.1 h
    obtain ⟨out, hout, hnil⟩ := runStage_nil hstage
    rw [List.foldlM_cons, hout]
    cases stages with
    | nil => exact ⟨out, rfl⟩
    | cons next stages =>
      rw [List.dropLast_cons_cons, List.forall_mem_cons] at hcount
      rw [hnil hcount.1]
      exact ih hstages hcount.2

/-! ## When the table does not matter -/

/-- Whether a query is refused depends on the query only, when the evaluator can do all that it
    says, or when a stage raises before it looks at a row. For a query that counts at its end at
    most, there are no others. -/
theorem depends_on_query_iff (q : KqlQuery) :
    ((∀ stage ∈ q.operators, Honours py stage) ∨ (∃ stage ∈ q.operators, Outright py stage) →
      DependsOnQuery py q) ∧
    ((∀ stage ∈ q.operators.dropLast, stage.1 ≠ .count) → DependsOnQuery py q →
      (∀ stage ∈ q.operators, Honours py stage) ∨ ∃ stage ∈ q.operators, Outright py stage) := by
  constructor
  · rintro (hhonours | houtright)
    · refine ⟨fun _ _ _ _ => iff_of_false (not_refuses hhonours) (not_refuses hhonours), ?_⟩
      rintro ⟨stage, hstage, hnot⟩
      exact absurd (hhonours stage hstage) hnot
    · have hrefuses : ∀ rows, ¬ Crashes py q rows → Refuses py q rows := by
        intro rows hcrashes
        by_contra hrefuses
        obtain ⟨out, hout⟩ := answered hrefuses hcrashes
        exact not_answered houtright out hout
      exact ⟨fun rows rows' h h' => iff_of_true (hrefuses rows h) (hrefuses rows' h'),
        fun _ => hrefuses⟩
  · intro hcount hdepends
    by_contra hneither
    rw [not_or, not_forall₂] at hneither
    obtain ⟨⟨stage, hstage, hnot⟩, houtright⟩ := hneither
    obtain ⟨out, hout⟩ := evaluateKql_nil hcount fun stage hstage h =>
      houtright ⟨stage, hstage, h⟩
    have hcrashes : ¬ Crashes py q [] := by
      rintro ⟨fault, hfault, -⟩
      rw [hout] at hfault
      cases hfault
    obtain ⟨message, hmessage⟩ := hdepends.honoured ⟨stage, hstage, hnot⟩ [] hcrashes
    rw [hout] at hmessage
    cases hmessage

/-- `T | extend A = (` is answered on a table without rows, and refused on any other. -/
theorem extend_passed_over : ¬ ∀ q, DependsOnQuery asciiKqlPython q := by
  intro hall
  have hdepends := hall ⟨"T", [(.extend, "A = (")]⟩
  have hnone : evaluateKql asciiKqlPython [] ⟨"T", [(.extend, "A = (")]⟩ = .ok [] := rfl
  have hrow : evaluateKql asciiKqlPython [.empty] ⟨"T", [(.extend, "A = (")]⟩
      = .error unexpectedEnd := rfl
  have halike := hdepends.alike [] [.empty] ?_ ?_
  · obtain ⟨message, hmessage⟩ := halike.2 ⟨_, hrow⟩
    rw [hnone] at hmessage
    cases hmessage
  · rintro ⟨fault, hfault, -⟩
    rw [hnone] at hfault
    cases hfault
  · rintro ⟨fault, hfault, hother⟩
    rw [hrow] at hfault
    cases hfault
    exact hother _ rfl

end Kql

end Mockdr
