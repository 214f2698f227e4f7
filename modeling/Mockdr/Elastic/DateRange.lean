import Mathlib
import Mockdr.Elastic.DateMathTotal

/-!
# Ranges of whole units

A bound `X/u` of a clause `range` is an anchor and operations `X`, rounded to a unit `u`.

* `resolve_unit`: what `X/u` resolves to, as `X` resolves to an instant: the start of its unit, or
  rounding up a millisecond before the next one.
* `Aligned`: what such a bound says of an instant, if the rounded interval is either inside of the
  range or outside.
* `aligned_iff`: the range is `Aligned` unless it rounds up to the end of the year 9999, or the
  instant is in the last millisecond of the unit and not at its start.
-/

namespace Mockdr

namespace DateMath

open Calendar Elastic

variable {py : DatePython} {roundUp : Bool} {m moment r : DateTime} {op : Operation}
  {whole rest tail : List Char} {c : Char} {u : DateUnit}

/-! ## An operation behind others -/

/-- An operation leads to a moment of the years, whatever stands around it. -/
lemma apply_ok (hm : InYears m) (h : apply py roundUp whole op m = .ok r) (whole' : List Char) :
    InYears r ∧ apply py roundUp whole' op m = .ok r := by
  by_cases hslash : op.operator = '/'
  · rw [apply, if_pos hslash] at h ⊢
    by_cases hcount : op.count ≠ []
    · rw [if_pos hcount] at h
      cases h
    · rw [if_neg hcount] at h ⊢
      cases roundUp with
      | false =>
        cases h
        exact ⟨roundDown_inYears op.unit hm, rfl⟩
      | true =>
        simp only [if_true] at h ⊢
        cases hlast : (nextUnit (roundDown m op.unit) op.unit).bind (plus · (-1000)) with
        | none =>
          rw [hlast] at h
          cases h
        | some last =>
          rw [hlast] at h
          cases h
          obtain ⟨next, -, hplus⟩ := Option.bind_eq_some_iff.1 hlast
          obtain ⟨hyears, rfl⟩ := checked_eq_some_iff.1 hplus
          exact ⟨hyears, rfl⟩
  · rw [apply, if_neg hslash] at h ⊢
    cases hcount : if op.count = [] then some 1 else py.readInt (String.ofList op.count) with
    | none =>
      rw [hcount] at h
      cases h
    | some count =>
      rw [hcount] at h
      simp only [applyOffset_eq] at h ⊢
      cases hmoved : checked
          (offsetBy m ((if op.operator = '+' then 1 else -1) * count) op.unit) with
      | none =>
        rw [hmoved] at h
        cases h
      | some moved =>
        rw [hmoved] at h
        cases h
        obtain ⟨hyears, rfl⟩ := checked_eq_some_iff.1 hmoved
        exact ⟨hyears, rfl⟩

lemma drop_takeWhile (p : Char → Bool) (text : List Char) :
    text.drop (text.takeWhile p).length = text.dropWhile p := by
  induction text with
  | nil => rfl
  | cons c text ih =>
    rw [List.takeWhile_cons, List.dropWhile_cons]
    split
    · exact ih
    · rfl

/-- What is in front of the first character that fails a test, and what is behind, with
    more text. -/
lemma span_append {p : Char → Bool} {text : List Char} {c : Char} {behind : List Char}
    (h : text.dropWhile p = c :: behind) (tail : List Char) :
    (text ++ tail).takeWhile p = text.takeWhile p
      ∧ (text ++ tail).dropWhile p = c :: (behind ++ tail) := by
  induction text with
  | nil => cases h
  | cons d text ih =>
    rw [List.dropWhile_cons] at h
    rw [List.cons_append, List.takeWhile_cons, List.dropWhile_cons, List.takeWhile_cons]
    split at h
    · next hd =>
      rw [if_pos hd, if_pos hd, if_pos hd, (ih h).1]
      exact ⟨rfl, (ih h).2⟩
    · next hd =>
      rw [if_neg hd, if_neg hd, if_neg hd, ← List.cons_append, h]
      exact ⟨rfl, rfl⟩

lemma opRe_append (h : opRe py rest = some (op, whole)) (tail : List Char) :
    opRe py (rest ++ tail) = some (op, whole ++ tail) := by
  cases rest with
  | nil => cases h
  | cons operator text =>
    rw [opRe] at h
    rw [List.cons_append, opRe]
    split_ifs at h ⊢
    simp only [drop_takeWhile] at h ⊢
    cases hdrop : text.dropWhile fun c => (py.digit c).isSome with
    | nil =>
      rw [hdrop] at h
      cases h
    | cons c behind =>
      obtain ⟨htake, hbehind⟩ := span_append hdrop tail
      rw [hdrop] at h
      obtain ⟨unit, hunit, hop⟩ := Option.map_eq_some_iff.1 h
      cases hop
      rw [htake, hbehind]
      simp only [hunit, Option.map_some]

lemma opRe_rounding (hunit : DateUnit.ofChar c = some u) (hc : py.digit c = none) :
    opRe py ['/', c] = some (⟨'/', [], u⟩, []) := by
  rw [opRe, if_pos (by decide)]
  simp only [List.takeWhile_cons, hc, Option.isSome_none, Bool.false_eq_true, if_false,
    List.length_nil, List.drop_zero, hunit, Option.map_some]

/-- What a rounding at the end of some operations does: they lead to where they did, and then it
    rounds. -/
lemma steps_rounding (hunit : DateUnit.ofChar c = some u) (hc : py.digit c = none)
    (whole' : List Char) {fuel fuel' : ℕ} (hfuel' : rest.length + 2 ≤ fuel') (hm : InYears m)
    (h : steps py roundUp whole fuel rest m = .ok r) (hfuel : rest.length ≤ fuel) :
    InYears r ∧ steps py roundUp whole' fuel' (rest ++ ['/', c]) m
      = apply py roundUp whole' ⟨'/', [], u⟩ r := by
  have hnil : ∀ n m, 2 ≤ n → steps py roundUp whole' n ['/', c] m
      = apply py roundUp whole' ⟨'/', [], u⟩ m := by
    intro n m hn
    obtain ⟨n, rfl⟩ := Nat.exists_eq_add_of_le' hn
    simp only [steps, opRe_rounding hunit hc]
    cases apply py roundUp whole' ⟨'/', [], u⟩ m <;> rfl
  induction fuel generalizing rest m fuel' with
  | zero =>
    cases rest with
    | nil =>
      cases h
      exact ⟨hm, hnil fuel' _ (by simpa using hfuel')⟩
    | cons d rest => exact absurd hfuel (Nat.not_succ_le_zero _)
  | succ fuel ih =>
    cases rest with
    | nil =>
      cases h
      exact ⟨hm, hnil fuel' _ (by simpa using hfuel')⟩
    | cons d rest =>
      simp only [steps] at h
      cases hop : opRe py (d :: rest) with
      | none =>
        rw [hop] at h
        cases h
      | some found =>
        obtain ⟨op, behind⟩ := found
        rw [hop] at h
        have hshorter := (opRe_spec hop).2
        rw [List.length_cons] at hfuel hfuel' hshorter
        obtain ⟨n, rfl⟩ : ∃ n, fuel' = n + 1 := ⟨fuel' - 1, by omega⟩
        cases happly : apply py roundUp whole op m with
        | error raised =>
          simp only [happly] at h
          cases h
        | ok m' =>
          simp only [happly] at h
          obtain ⟨hm', hsame⟩ := apply_ok hm happly whole'
          have hrun : InYears r ∧ steps py roundUp whole' n (behind ++ ['/', c]) m'
              = apply py roundUp whole' ⟨'/', [], u⟩ r := ih (by omega) hm' h (by omega)
          have happend := opRe_append hop ['/', c]
          rw [List.cons_append] at happend
          refine ⟨hrun.1, ?_⟩
          simp only [List.cons_append, steps, happend, hsame]
          exact hrun.2

/-! ## A unit behind an anchor -/

/-- The first `||` is found with more text behind it too. -/
lemma splitAnchor_append {l head text : List Char} (h : splitAnchor l = some (head, text))
    (tail : List Char) : splitAnchor (l ++ tail) = some (head, text ++ tail) := by
  induction l using splitAnchor.induct generalizing head with
  | case1 rest =>
    rw [splitAnchor] at h
    cases h
    rfl
  | case2 c rest hc ih =>
    rw [splitAnchor] at h
    · obtain ⟨⟨head', text'⟩, hsplit, heq⟩ := Option.map_eq_some_iff.1 h
      cases heq
      rw [List.cons_append, splitAnchor, ih hsplit]
      · rfl
      · rintro rest' rfl hrest
        cases rest with
        | nil => cases hsplit
        | cons d rest => exact hc rest rfl (congrArg (· :: rest) (List.cons.inj hrest).1)
    · exact hc
  | case3 => cases h

/-- An expression with a `||` has the mark in it. -/
lemma mem_of_splitAnchor {l head text : List Char} (h : splitAnchor l = some (head, text)) :
    '|' ∈ l := by
  induction l using splitAnchor.induct generalizing head with
  | case1 rest => exact List.mem_cons_self
  | case2 c rest hc ih =>
    rw [splitAnchor] at h
    · obtain ⟨⟨head', text'⟩, hsplit, heq⟩ := Option.map_eq_some_iff.1 h
      cases heq
      exact List.mem_cons_of_mem c (ih hsplit)
    · exact hc
  | case3 => cases h

/-- An expression starts from the same anchor with more operations behind it. -/
lemma anchor_append {now : Option ℤ} {expression : String} {instant : ℤ} {text : List Char}
    (h : anchor py now expression = .ok (some (instant, text))) (tail : String) :
    anchor py now (expression ++ tail) = .ok (some (instant, text ++ tail.toList)) := by
  rw [anchor] at h ⊢
  cases hnow : cutPrefix "now" expression with
  | some rest =>
    rw [hnow] at h
    cases h
    rw [cutPrefix_eq_some_iff.1 hnow, String.append_assoc, cutPrefix_append]
    simp only [String.toList_append]
  | none =>
    rw [hnow] at h
    cases hsplit : splitAnchor expression.toList with
    | none =>
      rw [hsplit] at h
      cases h
    | some found =>
      obtain ⟨head, behind⟩ := found
      have hnone : cutPrefix "now" (expression ++ tail) = none := by
        by_contra hsome
        obtain ⟨rest, hrest⟩ := Option.ne_none_iff_exists'.1 hsome
        have hfront : "now".toList <+: expression.toList ++ tail.toList := by
          rw [← String.toList_append, cutPrefix_eq_some_iff.1 hrest, String.toList_append]
          exact List.prefix_append _ _
        rcases List.prefix_or_prefix_of_prefix hfront (List.prefix_append _ _) with hin | hin
        · obtain ⟨behind', hbehind⟩ := hin
          have hcut : cutPrefix "now" expression = some (String.ofList behind') := by
            rw [cutPrefix_eq_some_iff]
            apply String.ext
            rw [String.toList_append, String.toList_ofList (l := behind')]
            exact hbehind.symm
          rw [hnow] at hcut
          cases hcut
        · have hmark := hin.subset (mem_of_splitAnchor hsplit)
          revert hmark
          decide
      rw [hsplit] at h
      rw [hnone, String.toList_append, splitAnchor_append hsplit]
      simp only at h ⊢
      cases hparse : parseDatetime py (.str (String.ofList head)) with
      | error raised =>
        rw [hparse] at h
        cases h
      | ok found =>
        rw [hparse] at h
        cases found with
        | none => cases h
        | some n =>
          cases h
          rfl

/-- What a rounding to a unit does: to the start of the unit, or rounding up to a millisecond before
    the next unit, which has to be in the years. -/
lemma apply_rounding (hm : InYears m) :
    apply py roundUp whole ⟨'/', [], u⟩ m
      = if roundUp then
          if (units u).next m.micros < endMicros then
            .ok (.ofMicros ((units u).next m.micros - 1000))
          else .error .uncaught
        else .ok (roundDown m u) := by
  have hnext : InYears (offsetBy (roundDown m u) 1 u) ↔ (units u).next m.micros < endMicros := by
    rw [inYears_iff, micros_offsetBy_one]
    refine and_iff_right ?_
    exact le_trans ((inYears_iff m).1 hm).1 ((units u).lt_next m.micros).le
  rw [apply_round rfl rfl hm]
  cases roundUp with
  | false => exact if_pos (roundDown_inYears u hm)
  | true =>
    have hreach : reach py true m ⟨'/', [], u⟩ = offsetBy (roundDown m u) 1 u := rfl
    have hperform : perform py true m ⟨'/', [], u⟩
        = .ofMicros ((offsetBy (roundDown m u) 1 u).micros - 1000) := rfl
    rw [hreach, hperform, micros_offsetBy_one, if_pos rfl]
    simp only [hnext]

/-- The text of a rounding. -/
def rounding (c : Char) : String := String.ofList ['/', c]

lemma resolve_utc {now : Option ℤ} {expression : String} {start : ℤ} {text : List Char}
    (h : anchor py now expression = .ok (some (start, text))) :
    resolve py now roundUp none expression
      = (match utc.fromUtc start with
        | none => .error .uncaught
        | some moment => do
          let resolved ← steps py roundUp text text.length text moment
          .ok (some resolved.micros)) := by
  rw [resolve, h]
  rfl

/-- What an expression with a rounding at its end resolves to, in UTC. -/
lemma resolve_unit {now : Option ℤ} {expression : String} {instant : ℤ}
    (hunit : DateUnit.ofChar c = some u)
    (h : resolve py now roundUp none expression = .ok (some instant)) :
    resolve py now roundUp none (expression ++ rounding c)
      = if roundUp then
          if (units u).next instant < endMicros then .ok (some ((units u).next instant - 1000))
          else .error .uncaught
        else .ok (some ((units u).roundDown instant)) := by
  have hc : py.digit c = none := by
    refine py.digit_mark c ?_
    unfold DateUnit.ofChar at hunit
    split at hunit <;> first | decide | cases hunit
  cases hanchor : anchor py now expression with
  | error raised =>
    rw [resolve, hanchor] at h
    cases h
  | ok found =>
    cases found with
    | none =>
      rw [resolve, hanchor] at h
      cases h
    | some found =>
      obtain ⟨start, text⟩ := found
      rw [resolve_utc hanchor] at h
      rw [resolve_utc (anchor_append hanchor _), rounding, String.toList_ofList]
      cases hmoment : utc.fromUtc start with
      | none =>
        rw [hmoment] at h
        cases h
      | some m =>
        rw [hmoment] at h
        simp only at h ⊢
        cases hsteps : steps py roundUp text text.length text m with
        | error raised =>
          rw [hsteps] at h
          cases h
        | ok r =>
          rw [hsteps] at h
          have hinstant : r.micros = instant := by
            cases h
            rfl
          have hlength : text.length + 2 ≤ (text ++ ['/', c]).length := by simp
          obtain ⟨hr, hrun⟩ := steps_rounding hunit hc (text ++ ['/', c]) hlength
            (utc.fromUtc_mem start m hmoment) hsteps (Nat.le_refl _)
          rw [hrun, apply_rounding hr, hinstant]
          split_ifs
          · change Except.ok (some (DateTime.ofMicros _).micros) = _
            rw [DateTime.micros_ofMicros]
          · rfl
          · change Except.ok (some (roundDown r u).micros) = _
            rw [micros_roundDown, hinstant]

/-! ## The range -/

/-- What a bound that is rounded to a unit says of an instant, if the whole unit is in the range or
    outside of it: `lte` and `gt` look at the start of the next unit, `gte` and `lt` at the start of
    this one. -/
def wholeUnits (start next t : ℤ) : RangeOp → Bool
  | .lte => t < next
  | .gt => next ≤ t
  | .gte => start ≤ t
  | .lt => t < start

/-- A clause `range` whose one bound is an expression that is rounded to a unit. -/
def unitRange (py : DatePython) (field name expression : String) (c : Char) :
    Except SearchError (Rec → Option Bool) :=
  buildRange py [(field, .dict (oneBound name (expression ++ rounding c) none))]

lemma isDateMath_append {now : Option ℤ} {expression : String} {instant : ℤ}
    (h : resolve py now roundUp none expression = .ok (some instant)) (tail : String) :
    isDateMath (expression ++ tail) = true := by
  by_contra hno
  cases hanchor : anchor py now expression with
  | error raised =>
    rw [resolve, hanchor] at h
    cases h
  | ok found =>
    cases found with
    | none =>
      rw [resolve, hanchor] at h
      cases h
    | some found =>
      have happend := anchor_append hanchor tail
      rw [Bool.not_eq_true, isDateMath, Bool.or_eq_false_iff, Option.isSome_eq_false_iff,
        Option.isSome_eq_false_iff, Option.isNone_iff_eq_none, Option.isNone_iff_eq_none] at hno
      rw [anchor, hno.1, hno.2] at happend
      cases happend

/-- What a clause `range` with one rounded bound tests. -/
lemma unitRange_eq {field name expression : String} {op : RangeOp} {x : ℤ}
    (hfield : field ≠ "") (hname : rangeOp name = some op) (hunit : DateUnit.ofChar c = some u)
    (hx : resolve py none (roundsUp op) none expression = .ok (some x)) :
    unitRange py field name expression c
      = if roundsUp op then
          if (units u).next x < endMicros then
            .ok (rangeTest py field
              [⟨op, .str (expression ++ rounding c), some ((units u).next x - 1000)⟩])
          else .error .crash
        else .ok (rangeTest py field
          [⟨op, .str (expression ++ rounding c), some ((units u).roundDown x)⟩]) := by
  rw [unitRange, buildRange_oneBound none hfield hname, if_pos (isDateMath_append hx _),
    resolve_unit hunit hx]
  split_ifs <;> rfl

lemma roundDown_laws (m m' : DateTime) (u : DateUnit) :
    roundDown (roundDown m u) u = roundDown m u ∧ (roundDown m u).micros ≤ m.micros
      ∧ (m.micros ≤ m'.micros → (roundDown m u).micros ≤ (roundDown m' u).micros) := by
  refine ⟨DateTime.micros_injective ?_, ?_, fun h => ?_⟩
  · rw [micros_roundDown, micros_roundDown, (units u).roundDown_idem]
  · rw [micros_roundDown]
    exact (units u).roundDown_le m.micros
  · rw [micros_roundDown, micros_roundDown]
    exact (units u).roundDown_mono h

/-- A range with a bound that is rounded to a unit looks at the whole unit, unless the bound
    is rounded up to the end of the year 9999, or to a unit in whose last millisecond the
    instant is. -/
theorem aligned_iff (py : DatePython) {field name expression : String} {op : RangeOp} {c : Char}
    {u : DateUnit} {x : ℤ} (hfield : field ≠ "") (hname : rangeOp name = some op)
    (hunit : DateUnit.ofChar c = some u)
    (hx : resolve py none (roundsUp op) none expression = .ok (some x))
    {record : Rec} {v : Json} {t : ℤ} (hv : fieldValues py.toPython record field = [v])
    (ht : parseDatetime py v = .ok (some t)) :
    ((∃ test, unitRange py field name expression c = .ok test
        ∧ test record = some (wholeUnits ((units u).roundDown x) ((units u).next x) t op))
      ↔ (roundsUp op = true → (units u).next x < endMicros
        ∧ ¬ ((units u).next x - 1000 < t ∧ t < (units u).next x)))
    ∧ ∀ (m m' : DateTime) (u : DateUnit),
        roundDown (roundDown m u) u = roundDown m u ∧ (roundDown m u).micros ≤ m.micros
          ∧ (m.micros ≤ m'.micros → (roundDown m u).micros ≤ (roundDown m' u).micros) := by
  refine ⟨?_, roundDown_laws⟩
  have htest : ∀ (target : Json) (bound : ℤ),
      rangeTest py field [⟨op, target, some bound⟩] record = some (op.between t bound) := by
    intro target bound
    have hcompare : compareMoment py v bound op = some (op.between t bound) := by
      rw [compareMoment, ht]
    have hwithin : within py [⟨op, target, some bound⟩] v = some (op.between t bound) := by
      rw [within, List.allM]
      simp only [hcompare]
      cases op.between t bound <;> rfl
    rw [rangeTest, hv, List.anyM, hwithin]
    cases op.between t bound <;> rfl
  have hanswer : ∀ (target : Json) (bound : ℤ) (expected : Bool),
      (∃ test, (Except.ok (rangeTest py field [⟨op, target, some bound⟩])
          : Except SearchError (Rec → Option Bool)) = .ok test ∧ test record = some expected)
        ↔ op.between t bound = expected := by
    intro target bound expected
    constructor
    · rintro ⟨test, htest', hexpected⟩
      cases htest'
      exact Option.some.inj ((htest target bound).symm.trans hexpected)
    · intro h
      exact ⟨_, rfl, (htest target bound).trans (congrArg some h)⟩
  rw [unitRange_eq hfield hname hunit hx]
  have hnext := (units u).lt_next x
  cases op with
  | gte =>
    simp only [roundsUp, Bool.false_eq_true, if_false, false_imp_iff]
    rw [hanswer]
    refine iff_of_true ?_ trivial
    rw [RangeOp.between, wholeUnits, ← decide_not]
    exact decide_eq_decide.2 Int.not_lt
  | lt =>
    simp only [roundsUp, Bool.false_eq_true, if_false, false_imp_iff]
    rw [hanswer]
    exact iff_of_true rfl trivial
  | lte =>
    simp only [roundsUp, if_true, true_imp_iff]
    split_ifs with hend
    · rw [hanswer, RangeOp.between, wholeUnits, ← decide_not, decide_eq_decide]
      refine ⟨fun h => ⟨hend, ?_⟩, fun h => ?_⟩
      · omega
      · omega
    · refine iff_of_false ?_ fun h => hend h.1
      rintro ⟨test, hcrash, -⟩
      cases hcrash
  | gt =>
    simp only [roundsUp, if_true, true_imp_iff]
    split_ifs with hend
    · rw [hanswer, RangeOp.between, wholeUnits, decide_eq_decide]
      refine ⟨fun h => ⟨hend, ?_⟩, fun h => ?_⟩
      · omega
      · omega
    · refine iff_of_false ?_ fun h => hend h.1
      rintro ⟨test, hcrash, -⟩
      cases hcrash

/-- At noon of 1 January 2025, `lte: "now/d"` matches that noon. -/
theorem today_through_its_end :
    ∃ test, unitRange asciiDatePython "t" "lte" "now" 'd' = .ok test
      ∧ test ⟨none, [("t", .int 1735732800000)]⟩ = some true := by
  have hfield : "t" ≠ "" := by decide
  have hname : rangeOp "lte" = some .lte := rfl
  have hunit : DateUnit.ofChar 'd' = some .d := rfl
  have hnow : resolve asciiDatePython none (roundsUp .lte) none "now"
      = .ok (some 63871329600000000) := by decide
  have hv : fieldValues asciiDatePython.toPython ⟨none, [("t", .int 1735732800000)]⟩ "t"
      = [.int 1735732800000] := rfl
  have hstored : parseDatetime asciiDatePython (.int 1735732800000)
      = .ok (some 63871329600000000) := by decide
  obtain ⟨test, htest, hrecord⟩ :=
    (aligned_iff asciiDatePython hfield hname hunit hnow hv hstored).1.2 (by decide)
  exact ⟨test, htest, hrecord.trans (by decide)⟩

/-- The built-ins with one date that can be read, half a millisecond before the end of a day. -/
def lateDatePython : DatePython :=
  { asciiDatePython with
    fromisoformat := fun text =>
      if text = "2025-01-01T23:59:59.999500+00:00" then some 63871372799999500 else none }

/-- On 1 January 2025, `lte: "now/d"` does not match the last half millisecond of that day. -/
theorem last_half_millisecond :
    ¬ ∀ (py : DatePython) (field name expression : String) (op : RangeOp) (c : Char) (u : DateUnit)
      (x : ℤ) (record : Rec) (v : Json) (t : ℤ), field ≠ "" → rangeOp name = some op →
      DateUnit.ofChar c = some u →
      resolve py none (roundsUp op) none expression = .ok (some x) →
      fieldValues py.toPython record field = [v] → parseDatetime py v = .ok (some t) →
      ∃ test, unitRange py field name expression c = .ok test
        ∧ test record = some (wholeUnits ((units u).roundDown x) ((units u).next x) t op) := by
  intro h
  obtain ⟨test, htest, hrecord⟩ := h lateDatePython "t" "lte" "now" .lte 'd' .d 63871329600000000
    ⟨none, [("t", .str "2025-01-01T23:59:59.999500Z")]⟩ (.str "2025-01-01T23:59:59.999500Z")
    63871372799999500 (by decide) rfl rfl (by decide) rfl (by decide)
  have hmissed : (unitRange lateDatePython "t" "lte" "now" 'd').toOption.bind
      (fun test => test ⟨none, [("t", .str "2025-01-01T23:59:59.999500Z")]⟩) = some false := by
    decide
  rw [htest] at hmissed
  have hmatched := hrecord.symm.trans hmissed
  revert hmatched
  decide

end DateMath

end Mockdr
