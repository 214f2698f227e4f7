import Mockdr.Elastic.MinimumShouldMatch

/-!
# What a `minimum_should_match` says

The recursive reading of a specification, beside the walk of `calculate_min_should_match`
(`utils/es_query.py`) over its text.

* `specOf` is what a text specifies: a number, or conditions one behind another. A condition is a
  chain `k<k'<…<number`, each link of which applies where there are more clauses than it says.
* `worth` is how many clauses have to match, and `consulted` are the numbers that are read.
* `calculateMinShouldMatch_eq`: the walk computes the worth, and fails exactly where a number that
  is consulted cannot be read.
-/

namespace Mockdr.Elastic

variable (py : Python) (n : Nat)

/-! ## Specifications -/

/-- What is specified: a number, or conditions, each of them the links of a chain. -/
inductive Spec where
  | plain (text : String)
  | conditions (parts : List (List String))

/-- The links of a condition: what stands in front of the first `<`, and what is behind it. -/
def linksOf (part : String) : List String :=
  let (bound, rest) := partition '<' part
  bound :: split '<' rest

/-- What a text specifies. -/
def specOf (text : String) : Spec :=
  if hasChar '<' (strip text) then
    .conditions ((split ' ' (closeUp (strip text))).map linksOf)
  else .plain (strip text)

/-- A number as it is read; the white space around it does not count. -/
def readNumber (text : String) : Option Int := py.readInt (strip text)

/-- A link applies: there are more clauses than it says. -/
def below (link : String) : Bool := (py.readInt link).any (· < (n : Int))

/-- How many clauses a number says: a negative one is how many may be missing. -/
def plainWorth (text : String) : Int :=
  let count := (readNumber py text).getD 0
  max (if count < 0 then n + count else count) 0

/-- How many clauses a chain says: all of them where a link does not apply. -/
def chainWorth : List String → Int
  | [] => n
  | [last] => plainWorth py n last
  | link :: links => if below py n link then chainWorth links else n

/-- How many clauses have to match: of the conditions up to the first that does not apply, what the
    last one says; all clauses where the first one does not apply. -/
def worth : Spec → Int
  | .plain text => plainWorth py n text
  | .conditions parts =>
    ((parts.takeWhile fun links => below py n (links.headD "")).getLast?).elim n fun links =>
      chainWorth py n links.tail

/-- A number can be read. -/
def readable (text : String) : Bool := (py.readInt text).isSome

/-- The numbers that are read in a chain. -/
def chainConsulted : List String → List String
  | [] => []
  | [last] => [strip last]
  | link :: links => link :: if below py n link then chainConsulted links else []

/-- The numbers that are read in conditions. -/
def partsConsulted : List (List String) → List String
  | [] => []
  | links :: parts =>
    let read := links.headD "" ::
      if below py n (links.headD "") then chainConsulted py n links.tail else []
    if below py n (links.headD "") ∧ read.all (readable py) then read ++ partsConsulted parts
    else read

/-- The numbers that are read in a specification. -/
def consulted : Spec → List String
  | .plain text => [strip text]
  | .conditions parts => partsConsulted py n parts

/-! ## The walk -/

variable {py n}

/-- What the walk answers: the worth, if what it has read could be read. -/
def minimumAnswer (py : Python) (read : List String) (value : Int) : Except MinimumError Int :=
  if read.all (readable py) then .ok value else .error .value

@[simp] lemma minimumAnswer_nil (value : Int) : minimumAnswer py [] value = .ok value := rfl

lemma minimumAnswer_cons_of_some {text : String} {k : Int} (h : py.readInt text = some k)
    (read : List String) (value : Int) :
    minimumAnswer py (text :: read) value = minimumAnswer py read value := by
  simp only [minimumAnswer, List.all_cons, readable, h, Option.isSome_some, Bool.true_and]

lemma minimumAnswer_cons_of_none {text : String} (h : py.readInt text = none) (read : List String)
    (value : Int) : minimumAnswer py (text :: read) value = .error .value := by
  simp [minimumAnswer, readable, h]

lemma minimumAnswer_append {read : List String} (h : read.all (readable py) = true)
    (others : List String)
    (value : Int) : minimumAnswer py (read ++ others) value = minimumAnswer py others value := by
  rw [minimumAnswer, minimumAnswer, List.all_append, h, Bool.true_and]

lemma minimumAnswer_of_false {read : List String} (h : read.all (readable py) = false)
    (value : Int) :
    minimumAnswer py read value = .error .value := by
  rw [minimumAnswer, h, if_neg Bool.false_ne_true]

lemma below_of_some {link : String} {k : Int} (h : py.readInt link = some k) :
    below py n link = decide (k < n) := by
  rw [below, h, Option.any_some]

lemma plainMinimum_eq {text : String} (h : '%' ∉ text.toList) :
    plainMinimum py n text = minimumAnswer py [strip text] (plainWorth py n text) := by
  have hpercent : hasChar '%' (strip text) = false := by
    rw [Bool.eq_false_iff]
    intro hmem
    rw [hasChar, List.contains_iff_mem] at hmem
    exact h (mem_of_mem_strip hmem)
  unfold plainMinimum plainWorth readNumber
  simp only [hpercent, Bool.false_eq_true, if_false]
  generalize strip text = number
  rw [javaInt]
  cases hread : py.readInt number with
  | none =>
    rw [minimumAnswer_cons_of_none hread]
    simp only [bind, Except.bind]
  | some c =>
    rw [minimumAnswer_cons_of_some hread, minimumAnswer_nil]
    simp only [bind, Except.bind, Option.getD_some]

/-- The loop over the links of a chain, and the number behind them. -/
lemma anyStops_eq {last : String} (hlast : '%' ∉ last.toList) (links : List String) :
    (anyStops py n links).bind (fun stops =>
        if stops then .ok (n : Int) else plainMinimum py n last)
      = minimumAnswer py (chainConsulted py n (links ++ [last]))
          (chainWorth py n (links ++ [last])) := by
  induction links with
  | nil =>
    rw [List.nil_append, chainConsulted, chainWorth, ← plainMinimum_eq hlast, anyStops]
    simp only [Except.bind, Bool.false_eq_true, if_false]
  | cons link links ih =>
    obtain ⟨next, rest, hnext⟩ : ∃ next rest, links ++ [last] = next :: rest :=
      List.exists_cons_of_ne_nil (List.append_ne_nil_of_right_ne_nil links (List.cons_ne_nil _ _))
    have hconsulted : chainConsulted py n (link :: links ++ [last])
        = link :: if below py n link then chainConsulted py n (links ++ [last]) else [] := by
      rw [List.cons_append, hnext, chainConsulted]
      exact fun h => nomatch h
    have hworth : chainWorth py n (link :: links ++ [last])
        = if below py n link then chainWorth py n (links ++ [last]) else n := by
      rw [List.cons_append, hnext, chainWorth]
      exact fun h => nomatch h
    rw [hconsulted, hworth]
    cases hread : py.readInt link with
    | none =>
      rw [minimumAnswer_cons_of_none hread, anyStops, javaInt, hread]
      simp only [bind, Except.bind]
    | some k =>
      have hstep : anyStops py n (link :: links)
          = if (n : Int) ≤ k then .ok true else anyStops py n links := by
        rw [anyStops, javaInt, hread]
        simp only [bind, Except.bind]
      rw [minimumAnswer_cons_of_some hread, below_of_some hread, hstep]
      by_cases hk : (n : Int) ≤ k
      · have hstop : decide (k < (n : Int)) = false := decide_eq_false (by omega)
        simp only [hstop, hk, if_true, Bool.false_eq_true, if_false, minimumAnswer_nil, Except.bind]
      · have hgo : decide (k < (n : Int)) = true := decide_eq_true (by omega)
        simp only [hgo, hk, if_true, if_false]
        exact ih

lemma links_eq {rest : String} (hrest : '%' ∉ rest.toList) :
    (anyStops py n (split '<' rest).dropLast).bind (fun stops =>
        if stops then .ok (n : Int) else plainMinimum py n ((split '<' rest).getLastD ""))
      = minimumAnswer py (chainConsulted py n (split '<' rest))
          (chainWorth py n (split '<' rest)) := by
  have hne : split '<' rest ≠ [] := by
    rw [split, ne_eq, List.map_eq_nil_iff]
    exact List.splitOn_ne_nil _ _
  have hlast : (split '<' rest).getLastD "" = (split '<' rest).getLast hne := by
    rw [List.getLastD_eq_getLast?, List.getLast?_eq_some_getLast hne, Option.getD_some]
  have hpercent : '%' ∉ ((split '<' rest).getLast hne).toList := by
    intro hmem
    obtain ⟨piece, hpiece, hlink⟩ := List.mem_map.1 (List.getLast_mem hne)
    rw [← hlink, String.toList_ofList] at hmem
    exact hrest (mem_of_mem_splitOn hpiece hmem)
  rw [hlast, anyStops_eq hpercent, List.dropLast_concat_getLast]

/-- One turn of the loop over the conditions. -/
lemma conditionalMinimum_cons (result : Int) (part : String) (parts : List String) :
    conditionalMinimum py n result (part :: parts)
      = (javaInt py (partition '<' part).1).bind fun k =>
        if (n : Int) ≤ k then .ok result
        else
          let links := split '<' (partition '<' part).2
          ((anyStops py n links.dropLast).bind (fun stops =>
            if stops then .ok (n : Int) else plainMinimum py n (links.getLastD ""))).bind
            fun value =>
              conditionalMinimum py n value parts := by
  rw [conditionalMinimum]
  generalize partition '<' part = cut
  obtain ⟨bound, rest⟩ := cut
  simp only [bind, Except.bind]
  cases javaInt py bound with
  | error e => simp only
  | ok k =>
    by_cases hk : (n : Int) ≤ k
    · simp only [hk, if_true]
    · simp only [hk, if_false]
      cases anyStops py n (split '<' rest).dropLast with
      | error e => simp only
      | ok stops =>
        cases stops with
        | true => simp only [if_true]
        | false => simp only [Bool.false_eq_true, if_false]

/-- The loop over the conditions; `result` is what those so far say. -/
lemma conditionalMinimum_eq (result : Int) (parts : List String)
    (h : ∀ part ∈ parts, '%' ∉ part.toList) :
    conditionalMinimum py n result parts
      = minimumAnswer py (partsConsulted py n (parts.map linksOf))
        ((((parts.map linksOf).takeWhile fun links => below py n (links.headD "")).getLast?).elim
          result fun links => chainWorth py n links.tail) := by
  induction parts generalizing result with
  | nil => rfl
  | cons part parts ih =>
    obtain ⟨hpart, hparts⟩ := List.forall_mem_cons.1 h
    have hrest : '%' ∉ (partition '<' part).2.toList := by
      intro hmem
      rw [partition, String.toList_ofList] at hmem
      exact hpart ((List.dropWhile_sublist _).subset (List.mem_of_mem_drop hmem))
    have hlinks : linksOf part = (partition '<' part).1 :: split '<' (partition '<' part).2 := rfl
    have hchain := @links_eq py n _ hrest
    rw [List.map_cons, partsConsulted, List.takeWhile_cons, hlinks, List.headD_cons, List.tail_cons]
    generalize hbound : (partition '<' part).1 = bound at *
    generalize hbehind : (partition '<' part).2 = rest at *
    have hpart' : partition '<' part = (bound, rest) := Prod.ext hbound hbehind
    rw [conditionalMinimum_cons, hpart', javaInt]
    cases hread : py.readInt bound with
    | none =>
      have hbelow : below py n bound = false := by rw [below, hread, Option.any_none]
      simp only [hbelow, Bool.false_eq_true, false_and, if_false]
      rw [minimumAnswer_cons_of_none hread]
      simp only [Except.bind]
    | some k =>
      simp only [hchain]
      rw [Except.bind]
      by_cases hk : (n : Int) ≤ k
      · have hbelow : below py n bound = false := by
          rw [below_of_some hread]
          exact decide_eq_false (by omega)
        simp only [hk, hbelow, Bool.false_eq_true, false_and, if_true, if_false]
        rw [minimumAnswer_cons_of_some hread, minimumAnswer_nil, List.getLast?_nil,
            Option.elim_none]
      · have hbelow : below py n bound = true := by
          rw [below_of_some hread]
          exact decide_eq_true (by omega)
        have hbound : readable py bound = true := by rw [readable, hread, Option.isSome_some]
        simp only [hk, hbelow, true_and, if_true, if_false, List.all_cons, hbound, Bool.true_and,
          List.getLast?_cons, Option.elim_some]
        cases hall : (chainConsulted py n (split '<' rest)).all (readable py) with
        | true =>
          have hdone := minimumAnswer_append hall [] (chainWorth py n (split '<' rest))
          rw [List.append_nil, minimumAnswer_nil] at hdone
          simp only [hdone, if_true, Except.bind]
          rw [List.cons_append, minimumAnswer_cons_of_some hread,
              minimumAnswer_append hall, ih _ hparts]
          cases ((parts.map linksOf).takeWhile fun links =>
            below py n (links.headD "")).getLast? with
          | none => rw [Option.elim_none, Option.getD_none, List.tail_cons]
          | some links => rw [Option.elim_some, Option.getD_some]
        | false =>
          simp only [minimumAnswer_of_false hall, Bool.false_eq_true, if_false, Except.bind]
          rw [minimumAnswer_cons_of_some hread, minimumAnswer_of_false hall]

lemma mem_of_mem_closeUpAfter {c : Char} {l : List Char} (h : c ∈ closeUpAfter l) : c ∈ l := by
  induction l with
  | nil => exact h
  | cons d l ih =>
    by_cases hd : d = '<'
    · subst hd
      rw [closeUpAfter] at h
      rcases List.mem_cons.1 h with rfl | h
      · exact List.mem_cons_self
      · exact List.mem_cons_of_mem _ (ih ((List.dropWhile_sublist _).subset h))
    · rw [closeUpAfter] at h
      · rcases List.mem_cons.1 h with rfl | h
        · exact List.mem_cons_self
        · exact List.mem_cons_of_mem _ (ih h)
      · exact hd

lemma mem_of_mem_closeUp {c : Char} {s : String} (h : c ∈ (closeUp s).toList) : c ∈ s.toList := by
  rw [closeUp, String.toList_ofList, List.mem_reverse] at h
  exact mem_of_mem_closeUpAfter (List.mem_reverse.1 (mem_of_mem_closeUpAfter h))

lemma calculateMinShouldMatch_answer (spec : Json) (h : '%' ∉ (py.toStr spec).toList) :
    calculateMinShouldMatch py n spec
      = minimumAnswer py (consulted py n (specOf (py.toStr spec)))
          (worth py n (specOf (py.toStr spec))) := by
  have hstrip : '%' ∉ (strip (py.toStr spec)).toList := fun hmem => h (mem_of_mem_strip hmem)
  have hparts : ∀ part ∈ split ' ' (closeUp (strip (py.toStr spec))), '%' ∉ part.toList := by
    intro part hpart hmem
    obtain ⟨piece, hpiece, rfl⟩ := List.mem_map.1 hpart
    rw [String.toList_ofList] at hmem
    exact hstrip (mem_of_mem_closeUp (mem_of_mem_splitOn hpiece hmem))
  unfold calculateMinShouldMatch specOf
  generalize strip (py.toStr spec) = text at *
  by_cases hchar : hasChar '<' text = true
  · rw [if_pos hchar, if_pos hchar, conditionalMinimum_eq _ _ hparts, worth, consulted]
  · rw [if_neg hchar, if_neg hchar, plainMinimum_eq hstrip, worth, consulted]

/-! ## The bounds -/

lemma plainWorth_bounds (text : String) :
    0 ≤ plainWorth py n text
      ∧ (plainWorth py n text ≤ n ∨ py.readInt (strip text) = some (plainWorth py n text)) := by
  rw [plainWorth, readNumber]
  refine ⟨le_max_right _ _, ?_⟩
  cases hread : py.readInt (strip text) with
  | none =>
    left
    rw [Option.getD_none]
    simp
  | some c =>
    rw [Option.getD_some]
    split_ifs with hneg
    · left
      omega
    · right
      rw [max_eq_left (not_lt.1 hneg)]

lemma chainWorth_bounds (links : List String) :
    0 ≤ chainWorth py n links
      ∧ (chainWorth py n links ≤ n
        ∨ ∃ text ∈ chainConsulted py n links, py.readInt text = some (chainWorth py n links)) := by
  induction links using chainConsulted.induct with
  | case1 => exact ⟨Int.natCast_nonneg n, .inl (le_refl _)⟩
  | case2 last =>
    obtain ⟨hpos, hle⟩ := @plainWorth_bounds py n last
    rw [chainWorth, chainConsulted]
    exact ⟨hpos, hle.imp_right fun h => ⟨strip last, List.mem_singleton.2 rfl, h⟩⟩
  | case3 link links hne ih =>
    rw [chainWorth, chainConsulted]
    · split_ifs with hbelow
      · refine ⟨ih.1, ih.2.imp_right ?_⟩
        rintro ⟨text, htext, h⟩
        exact ⟨text, List.mem_cons_of_mem link htext, h⟩
      · exact ⟨Int.natCast_nonneg n, .inl (le_refl _)⟩
    · exact hne
    · exact hne

lemma chainConsulted_subset {parts : List (List String)}
    (h : (partsConsulted py n parts).all (readable py) = true) {links : List String}
    (hlinks : links ∈ parts.takeWhile fun links => below py n (links.headD "")) :
    chainConsulted py n links.tail ⊆ partsConsulted py n parts := by
  induction parts with
  | nil => exact absurd hlinks List.not_mem_nil
  | cons first parts ih =>
    rw [List.takeWhile_cons] at hlinks
    split_ifs at hlinks with hbelow
    · rw [partsConsulted] at h ⊢
      simp only [hbelow, if_true, true_and] at h ⊢
      split_ifs at h ⊢ with hall
      · rcases List.mem_cons.1 hlinks with rfl | hlinks
        · intro text htext
          exact List.mem_append_left _ (List.mem_cons_of_mem _ htext)
        · rw [List.all_append, Bool.and_eq_true] at h
          intro text htext
          exact List.mem_append_right _ (ih h.2 hlinks htext)
      · exact absurd h hall
    · exact absurd hlinks List.not_mem_nil

lemma worth_bounds {spec : Spec} (h : (consulted py n spec).all (readable py) = true) :
    0 ≤ worth py n spec
      ∧ (worth py n spec ≤ n
        ∨ ∃ text ∈ consulted py n spec, py.readInt text = some (worth py n spec)) := by
  cases spec with
  | plain text =>
    obtain ⟨hpos, hle⟩ := @plainWorth_bounds py n text
    exact ⟨hpos, hle.imp_right fun h => ⟨strip text, List.mem_singleton.2 rfl, h⟩⟩
  | conditions parts =>
    rw [worth]
    cases hlast : (parts.takeWhile fun links => below py n (links.headD "")).getLast? with
    | none => exact ⟨Int.natCast_nonneg n, .inl (le_refl _)⟩
    | some links =>
      have hsub := chainConsulted_subset h (List.mem_of_getLast? hlast)
      obtain ⟨hpos, hle⟩ := @chainWorth_bounds py n links.tail
      refine ⟨hpos, hle.imp_right ?_⟩
      rintro ⟨text, htext, hread⟩
      exact ⟨text, hsub htext, hread⟩

/-- The walk computes the worth of a specification without percentages, and fails exactly where a
    number that is consulted cannot be read. The worth is between none and all of the clauses,
    unless a number that is consulted says more. -/
theorem calculateMinShouldMatch_eq (spec : Json) (h : '%' ∉ (py.toStr spec).toList) :
    (∀ value, calculateMinShouldMatch py n spec = .ok value →
        value = worth py n (specOf (py.toStr spec))
          ∧ 0 ≤ value
          ∧ (value ≤ n ∨ ∃ text ∈ consulted py n (specOf (py.toStr spec)),
              py.readInt text = some value))
      ∧ (calculateMinShouldMatch py n spec = .error .value
        ↔ ∃ text ∈ consulted py n (specOf (py.toStr spec)), py.readInt text = none)
      ∧ calculateMinShouldMatch py n spec ≠ .error .overflow := by
  rw [calculateMinShouldMatch_answer spec h]
  cases hall : (consulted py n (specOf (py.toStr spec))).all (readable py) with
  | true =>
    have hread : ¬ ∃ text ∈ consulted py n (specOf (py.toStr spec)), py.readInt text = none := by
      rintro ⟨text, htext, hnone⟩
      have hsome := List.all_eq_true.1 hall text htext
      rw [readable, hnone] at hsome
      exact absurd hsome Bool.false_ne_true
    rw [minimumAnswer, hall, if_pos rfl]
    refine ⟨?_, iff_of_false (fun h => nomatch h) hread, fun h => (nomatch h)⟩
    intro value hvalue
    obtain rfl := Except.ok.inj hvalue
    exact ⟨rfl, worth_bounds hall⟩
  | false =>
    have hread : ∃ text ∈ consulted py n (specOf (py.toStr spec)), py.readInt text = none := by
      obtain ⟨text, htext, hnone⟩ := List.all_eq_false.1 hall
      exact ⟨text, htext, Option.not_isSome_iff_eq_none.1 hnone⟩
    rw [minimumAnswer_of_false hall]
    exact ⟨fun value h => (nomatch h), iff_of_true rfl hread, fun h => (nomatch h)⟩

/-- Conditions, a chain among them, for four clauses. -/
theorem calculateMinShouldMatch_chain :
    calculateMinShouldMatch asciiPython 4 (.str "1<-1 2<3<1 3<-2") = .ok 2
      ∧ worth asciiPython 4 (specOf "1<-1 2<3<1 3<-2") = 2 := by
  have hvalue : calculateMinShouldMatch asciiPython 4 (.str "1<-1 2<3<1 3<-2") = .ok 2 := by
    decide +kernel
  have h := (@calculateMinShouldMatch_eq asciiPython 4 (.str "1<-1 2<3<1 3<-2")
    (by decide +kernel)).1 2 hvalue
  exact ⟨hvalue, h.1.symm⟩

/-- The walk stops at the first condition that does not apply, and what a number says is not cut to
    the clauses there are. -/
theorem calculateMinShouldMatch_order :
    calculateMinShouldMatch asciiPython 3 (.str "5<1 2<2") = .ok 3
      ∧ below asciiPython 3 "2" = true
      ∧ chainWorth asciiPython 3 ["2"] = 2
      ∧ calculateMinShouldMatch asciiPython 1 (.int 3) = .ok 3 := by
  decide +kernel

end Mockdr.Elastic
