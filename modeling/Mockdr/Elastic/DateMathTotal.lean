import Mathlib
import Mockdr.Elastic.DateUnits
import Mockdr.Elastic.Range

/-!
# Which expressions of date math are answered

* `operations` are the operations of an expression up to the first that is malformed, and what it is
  refused with; `perform` is what an operation does in a calendar without a first and a last year,
  and `reach` the moment that it comes to on the way.
* `Within`: every operation has a count that `int` reads, and reaches a moment of the years 1 to
  9999.
* `Answerable`: the anchor can be read, it has a moment in the zone, and the operations stay
  `Within` the years.
* `total_iff`: an expression is answered or refused with a `DateMathError` exactly if it is
  `Answerable`, and so is a range query with it.
-/

namespace Mockdr

namespace DateMath

open Calendar Elastic

variable (py : DatePython) (roundUp : Bool)

/-- The number that an operation counts, 1 if it names none. -/
def Operation.number (op : Operation) : ℤ :=
  if op.count = [] then 1 else (py.readInt (String.ofList op.count)).getD 0

/-- The moment that an operation comes to, in whatever year that is: for rounding up, the next
    unit. -/
def reach (m : DateTime) (op : Operation) : DateTime :=
  if op.operator = '/' then
    if roundUp then offsetBy (roundDown m op.unit) 1 op.unit else roundDown m op.unit
  else offsetBy m ((if op.operator = '+' then 1 else -1) * op.number py) op.unit

/-- The moment that an operation leads to: rounding up, a millisecond before the next unit. -/
def perform (m : DateTime) (op : Operation) : DateTime :=
  if op.operator = '/' ∧ roundUp then .ofMicros ((reach py roundUp m op).micros - 1000)
  else reach py roundUp m op

/-- The operations of the text `whole` up to the first that is malformed, and what that one is
    refused with. -/
def operations (whole : List Char) : ℕ → List Char → List Operation × Option Raised
  | _, [] => ([], none)
  | 0, _ :: _ => ([], none)
  | fuel + 1, rest =>
    match opRe py rest with
    | none => ([], some (unsupported py whole rest))
    | some (op, rest) =>
      if op.operator = '/' ∧ op.count ≠ [] then
        ([], some (.dateMathError ("rounding is not supported with a count in ["
          ++ String.ofList whole ++ "]")))
      else
        let behind := operations whole fuel rest
        (op :: behind.1, behind.2)

/-- Every count can be read, and every moment on the way is in the years of a `datetime`. -/
def Within (m : DateTime) (ops : List Operation) : Prop :=
  ∀ front op, front ++ [op] <+: ops →
    op.count.length ≤ 4300 ∧ InYears (reach py roundUp (front.foldl (perform py roundUp) m) op)

/-- A head that `int` is asked to read and cannot: it looks like digits, and is no date. -/
def Unreadable (head : List Char) : Prop :=
  head ≠ [] ∧ py.fromisoformat (dateText (String.ofList head)) = none
    ∧ isMillis py (dateText (String.ofList head)) = true
    ∧ py.parseInt (dateText (String.ofList head)) = none

/-- The anchor can be read, it has a moment in the zone, every operation up to a malformed one stays
    within the years, and if there is none the moment at the end has an instant. -/
structure Answerable (now : Option ℤ) (timeZone : Option String) (expression : String) : Prop where
  readable : cutPrefix "now" expression = none →
    ∀ head text, splitAnchor expression.toList = some (head, text) → ¬ Unreadable py head
  within : ∀ instant text, anchor py now expression = .ok (some (instant, text)) →
    ∃ m, (zone py timeZone).fromUtc instant = some m
      ∧ Within py roundUp m (operations py text text.length text).1
      ∧ ((operations py text text.length text).2 = none →
        ((zone py timeZone).toUtc
          ((operations py text text.length text).1.foldl (perform py roundUp) m)).isSome)

variable {py roundUp} {m : DateTime} {op : Operation} {ops : List Operation}
    {whole rest : List Char}

/-! ## One operation -/

/-- A unit starts with a second. -/
lemma units_start_mod (u : DateUnit) (i : ℤ) : (units u).start i % 1000000 = 0 := by
  have hmonth : ∀ i, (units .M).start i = monthStart i * 86400000000 := fun _ => rfl
  have hfixed : ∀ size (h : 0 < size), (Grid.fixed size h).start i = i * size := fun _ _ => rfl
  cases u with
  | y =>
    rw [years_start, hmonth]
    omega
  | M =>
    rw [hmonth]
    omega
  | w =>
    rw [units, hfixed]
    omega
  | d =>
    rw [units, days, hfixed, dayMicros]
    omega
  | h =>
    rw [units, hfixed]
    omega
  | H =>
    rw [units, hfixed]
    omega
  | m =>
    rw [units, hfixed]
    omega
  | s =>
    rw [units, hfixed]
    omega

lemma last_inYears (h : InYears m) (u : DateUnit) (hnext : InYears (offsetBy (roundDown m u) 1 u)) :
    InYears (.ofMicros ((offsetBy (roundDown m u) 1 u).micros - 1000)) := by
  rw [inYears_iff] at h hnext ⊢
  rw [DateTime.micros_ofMicros]
  rw [micros_offsetBy_one] at hnext ⊢
  have hmod := units_start_mod u ((units u).index m.micros + 1)
  have hlt := (units u).lt_next m.micros
  rw [Grid.next] at hnext hlt ⊢
  omega

lemma perform_inYears (h : InYears m) (hreach : InYears (reach py roundUp m op)) :
    InYears (perform py roundUp m op) := by
  rw [perform]
  split_ifs with hround
  · have heq : reach py roundUp m op = offsetBy (roundDown m op.unit) 1 op.unit := by
      rw [reach, if_pos hround.1, if_pos hround.2]
    rw [heq] at hreach ⊢
    exact last_inYears h op.unit hreach
  · exact hreach

/-- `int` reads the digits of a count, if they are no more than 4300. -/
lemma readInt_count (hdigits : ∀ c ∈ op.count, (py.digit c).isSome = true) (hne : op.count ≠ []) :
    (py.readInt (String.ofList op.count)).isSome = true ↔ op.count.length ≤ 4300 := by
  have hsigns : ∀ c, (py.digit c).isSome = true → c ≠ '-' ∧ c ≠ '+' := by
    intro c hc
    refine ⟨?_, ?_⟩
    · rintro rfl
      rw [py.digit_mark '-' (by decide)] at hc
      cases hc
    · rintro rfl
      rw [py.digit_mark '+' (by decide)] at hc
      cases hc
  have hall : ∀ digits : List Char, (∀ c ∈ digits, (py.digit c).isSome = true) →
      (digits.mapM py.digit).isSome = true := by
    intro digits hdigits
    induction digits with
    | nil => rfl
    | cons c digits ih =>
      obtain ⟨hc, hrest⟩ := List.forall_mem_cons.1 hdigits
      obtain ⟨n, hn⟩ := Option.isSome_iff_exists.1 hc
      obtain ⟨ns, hns⟩ := Option.isSome_iff_exists.1 (ih hrest)
      rw [List.mapM_cons, hn, hns]
      rfl
  obtain ⟨c, digits, hcount⟩ := List.exists_cons_of_ne_nil hne
  rw [hcount] at hdigits ⊢
  obtain ⟨hminus, hplus⟩ := hsigns c (hdigits c List.mem_cons_self)
  rw [Python.readInt, String.toList_ofList]
  split
  next negative ds hmatch =>
  have hds : ds = c :: digits := by
    split at hmatch
    · next heq => exact absurd (List.cons.inj heq).1 hminus
    · next heq => exact absurd (List.cons.inj heq).1 hplus
    · exact (Prod.mk.inj hmatch).2.symm
  rw [hds]
  by_cases hlength : 4300 < (c :: digits).length
  · rw [if_pos (.inr hlength)]
    exact iff_of_false Bool.false_ne_true (by omega)
  · rw [if_neg (not_or.2 ⟨List.cons_ne_nil _ _, hlength⟩), Option.isSome_map, hall _ hdigits]
    exact iff_of_true rfl (by omega)

/-- What `resolve` does with a moment that raises unless it is in the years. -/
lemma checked_or_raise (m : DateTime) :
    (match checked m with
      | some moved => .ok moved
      | none => .error .uncaught : Except Raised DateTime)
      = if InYears m then .ok m else .error .uncaught := by
  rw [checked]
  split_ifs <;> rfl

/-- What `resolve` does to round to a unit. -/
lemma apply_round (hslash : op.operator = '/') (hcount : op.count = []) (hm : InYears m) :
    apply py roundUp whole op m
      = if InYears (reach py roundUp m op) then .ok (perform py roundUp m op)
        else .error .uncaught := by
  rw [apply, if_pos hslash, if_neg fun h => h hcount]
  cases roundUp with
  | false =>
    have hreach : reach py false m op = roundDown m op.unit := by
      rw [reach, if_pos hslash]
      rfl
    have hperform : perform py false m op = roundDown m op.unit := by
      rw [perform, if_neg fun h => Bool.false_ne_true h.2, hreach]
    have hyears : InYears (reach py false m op) := hreach ▸ roundDown_inYears op.unit hm
    simp only [if_pos hyears, hperform, Bool.false_eq_true, if_false]
  | true =>
    have hreach : reach py true m op = offsetBy (roundDown m op.unit) 1 op.unit := by
      rw [reach, if_pos hslash]
      rfl
    have hperform : perform py true m op
        = .ofMicros ((offsetBy (roundDown m op.unit) 1 op.unit).micros - 1000) := by
      rw [perform, if_pos ⟨hslash, rfl⟩, hreach]
    simp only [if_true, nextUnit_eq]
    rw [hreach, hperform, checked]
    split_ifs with hnext
    · rw [Option.bind_some, plus, ← sub_eq_add_neg]
      exact (checked_or_raise _).trans (if_pos (last_inYears hm op.unit hnext))
    · rfl

/-- What `resolve` does to add or subtract some units. -/
lemma apply_offset (hdigits : ∀ c ∈ op.count, (py.digit c).isSome = true)
    (hslash : op.operator ≠ '/') :
    apply py roundUp whole op m
      = if op.count.length ≤ 4300 ∧ InYears (reach py roundUp m op) then
          .ok (perform py roundUp m op)
        else .error .uncaught := by
  have hreach : reach py roundUp m op
      = offsetBy m ((if op.operator = '+' then 1 else -1) * op.number py) op.unit := by
    rw [reach, if_neg hslash]
  have hperform : perform py roundUp m op = reach py roundUp m op := by
    rw [perform, if_neg fun h => hslash h.1]
  have hnumber : (if op.count = [] then some 1 else py.readInt (String.ofList op.count))
      = if op.count.length ≤ 4300 then some (op.number py) else none := by
    rw [Operation.number]
    by_cases hcount : op.count = []
    · rw [if_pos hcount, if_pos hcount, hcount]
      rfl
    · have hread := readInt_count hdigits hcount
      rw [if_neg hcount, if_neg hcount]
      split_ifs with hlength
      · obtain ⟨n, hn⟩ := Option.isSome_iff_exists.1 (hread.2 hlength)
        rw [hn]
        rfl
      · exact Option.not_isSome_iff_eq_none.1 fun h => hlength (hread.1 h)
  rw [apply, if_neg hslash, hnumber, hperform]
  by_cases hlength : op.count.length ≤ 4300
  · simp only [applyOffset_eq, hlength, true_and, if_true]
    rw [hreach]
    exact checked_or_raise _
  · simp only [hlength, false_and, if_false]

/-- What `resolve` does for an operation that is well formed. -/
lemma apply_eq (hdigits : ∀ c ∈ op.count, (py.digit c).isSome = true)
    (hop : ¬ (op.operator = '/' ∧ op.count ≠ [])) (hm : InYears m) :
    apply py roundUp whole op m
      = if op.count.length ≤ 4300 ∧ InYears (reach py roundUp m op) then
          .ok (perform py roundUp m op)
        else .error .uncaught := by
  by_cases hslash : op.operator = '/'
  · have hcount : op.count = [] := by
      by_contra hne
      exact hop ⟨hslash, hne⟩
    have hshort : op.count.length ≤ 4300 := by
      rw [hcount]
      exact Nat.zero_le _
    simp only [apply_round hslash hcount hm, hshort, true_and]
  · exact apply_offset hdigits hslash

/-! ## A run of operations -/

/-- The digits of the count that is read, and the text behind the operation is shorter. -/
lemma opRe_spec (h : opRe py rest = some (op, whole)) :
    (∀ c ∈ op.count, (py.digit c).isSome = true) ∧ whole.length < rest.length := by
  cases rest with
  | nil => cases h
  | cons operator text =>
    rw [opRe] at h
    split_ifs at h
    simp only at h
    cases hdrop : text.drop (text.takeWhile fun c => (py.digit c).isSome).length with
    | nil =>
      rw [hdrop] at h
      cases h
    | cons c behind =>
      rw [hdrop] at h
      obtain ⟨unit, -, hop⟩ := Option.map_eq_some_iff.1 h
      cases hop
      refine ⟨fun d hd => List.mem_takeWhile_imp (p := fun c => (py.digit c).isSome) hd, ?_⟩
      have hlength := congrArg List.length hdrop
      rw [List.length_drop, List.length_cons] at hlength
      rw [List.length_cons]
      omega

/-- The first of some operations, and the others. -/
lemma within_cons : Within py roundUp m (op :: ops)
    ↔ (op.count.length ≤ 4300 ∧ InYears (reach py roundUp m op))
      ∧ Within py roundUp (perform py roundUp m op) ops := by
  constructor
  · intro h
    refine ⟨h [] op ?_, fun front op' hfront => ?_⟩
    · rw [List.nil_append, List.cons_prefix_cons]
      exact ⟨rfl, List.nil_prefix⟩
    · have := h (op :: front) op' (by
        rw [List.cons_append, List.cons_prefix_cons]
        exact ⟨rfl, hfront⟩)
      rw [List.foldl_cons] at this
      exact this
  · rintro ⟨hop, hops⟩ front op' hfront
    cases front with
    | nil =>
      rw [List.nil_append, List.cons_prefix_cons] at hfront
      rw [hfront.1]
      exact hop
    | cons first front =>
      rw [List.cons_append, List.cons_prefix_cons] at hfront
      rw [List.foldl_cons, hfront.1]
      exact hops front op' hfront.2

lemma within_nil : Within py roundUp m [] := by
  intro front op h
  have := List.prefix_nil.1 h
  exact absurd this (List.append_ne_nil_of_right_ne_nil _ (List.cons_ne_nil _ _))

/-- A malformed operation is refused with a `DateMathError`. -/
lemma operations_raised {fuel : ℕ} {raised : Raised}
    (h : (operations py whole fuel rest).2 = some raised) : raised ≠ .uncaught := by
  induction fuel generalizing rest with
  | zero => cases rest <;> cases h
  | succ fuel ih =>
    cases rest with
    | nil => cases h
    | cons c rest =>
      simp only [operations] at h
      split at h
      · cases h
        exact nofun
      · split_ifs at h
        · cases h
          exact nofun
        · exact ih h

variable (py roundUp whole) in
/-- The loop of `resolve`: what the operations lead to, what the malformed one is refused with, or
    an exception if a count cannot be read or a moment leaves the years. -/
lemma steps_eq {fuel : ℕ} (hfuel : rest.length ≤ fuel) (hm : InYears m) :
    (Within py roundUp m (operations py whole fuel rest).1 →
      steps py roundUp whole fuel rest m
        = match (operations py whole fuel rest).2 with
          | none => .ok ((operations py whole fuel rest).1.foldl (perform py roundUp) m)
          | some raised => .error raised)
    ∧ (¬ Within py roundUp m (operations py whole fuel rest).1 →
      steps py roundUp whole fuel rest m = .error .uncaught) := by
  induction fuel generalizing rest m with
  | zero =>
    cases rest with
    | nil => exact ⟨fun _ => rfl, fun h => absurd within_nil h⟩
    | cons c rest => exact absurd hfuel (Nat.not_succ_le_zero _)
  | succ fuel ih =>
    cases rest with
    | nil => exact ⟨fun _ => rfl, fun h => absurd within_nil h⟩
    | cons c rest =>
      simp only [steps, operations]
      cases hop : opRe py (c :: rest) with
      | none => exact ⟨fun _ => rfl, fun h => absurd within_nil h⟩
      | some found =>
        obtain ⟨op, behind⟩ := found
        obtain ⟨hdigits, hshorter⟩ := opRe_spec hop
        by_cases hcounted : op.operator = '/' ∧ op.count ≠ []
        · simp only [if_pos hcounted]
          refine ⟨fun _ => ?_, fun h => absurd within_nil h⟩
          rw [apply, if_pos hcounted.1, if_pos hcounted.2]
          rfl
        · simp only [if_neg hcounted, apply_eq hdigits hcounted hm, within_cons, List.foldl_cons]
          by_cases hreach : op.count.length ≤ 4300 ∧ InYears (reach py roundUp m op)
          · have hrun := ih (Nat.le_of_lt_succ (lt_of_lt_of_le hshorter hfuel))
              (perform_inYears hm hreach.2)
            rw [if_pos hreach]
            exact ⟨fun h => hrun.1 h.2, fun h => hrun.2 fun hwithin => h ⟨hreach, hwithin⟩⟩
          · rw [if_neg hreach]
            exact ⟨fun h => absurd h.1 hreach, fun _ => rfl⟩

/-! ## Expressions -/

variable (py) in
/-- `resolve` reads the head of an expression unless it looks like digits that `int`
    does not read. -/
lemma parseDatetime_head (head : List Char) :
    parseDatetime py (.str (String.ofList head)) = .error .uncaught ↔ Unreadable py head := by
  have hempty : String.ofList head = "" ↔ head = [] := by
    rw [← String.toList_eq_nil_iff, String.toList_ofList]
  rw [parseDatetime, Unreadable]
  by_cases hhead : head = []
  · rw [if_pos (hempty.2 hhead)]
    exact iff_of_false nofun fun h => h.1 hhead
  · rw [if_neg fun h => hhead (hempty.1 h)]
    simp only
    cases py.fromisoformat (dateText (String.ofList head)) with
    | some instant => exact iff_of_false nofun fun h => nomatch h.2.1
    | none =>
      cases isMillis py (dateText (String.ofList head)) with
      | false => exact iff_of_false nofun fun h => nomatch h.2.2.1
      | true =>
        cases py.parseInt (dateText (String.ofList head)) with
        | none => exact iff_of_true rfl ⟨hhead, rfl, rfl, rfl⟩
        | some n => exact iff_of_false nofun fun h => nomatch h.2.2.2

variable (py) in
/-- `resolve` finds an anchor unless the head in front of the `||` cannot be read. -/
lemma anchor_uncaught (now : Option ℤ) (expression : String) :
    anchor py now expression = .error .uncaught
      ↔ ¬ (cutPrefix "now" expression = none →
        ∀ head text, splitAnchor expression.toList = some (head, text) → ¬ Unreadable py head) := by
  rw [anchor]
  cases cutPrefix "now" expression with
  | some rest => exact iff_of_false nofun fun h => h nofun
  | none =>
    cases splitAnchor expression.toList with
    | none => exact iff_of_false nofun fun h => h fun _ => nofun
    | some found =>
      obtain ⟨head, text⟩ := found
      have hhead := parseDatetime_head py head
      simp only [true_imp_iff, Option.some.injEq, Prod.mk.injEq, and_imp]
      cases hparse : parseDatetime py (.str (String.ofList head)) with
      | error raised =>
        rw [hparse] at hhead
        refine ⟨fun h hall => ?_, fun h => ?_⟩
        · have hraised : raised = .uncaught := Except.error.inj h
          exact hall head text rfl rfl (hhead.1 (congrArg Except.error hraised))
        · have hunreadable : Unreadable py head := by
            by_contra hreadable
            refine h fun head' text' hsame _ => ?_
            rw [← hsame]
            exact hreadable
          have hraised : raised = .uncaught := Except.error.inj (hhead.2 hunreadable)
          rw [hraised]
          rfl
      | ok instant =>
        rw [hparse] at hhead
        have hreadable : ¬ Unreadable py head := fun h => nomatch hhead.2 h
        refine iff_of_false ?_ fun h => h ?_
        · cases instant <;> exact nofun
        · rintro head' text' rfl rfl
          exact hreadable

lemma resolve_of_anchor {now : Option ℤ} {timeZone : Option String} {expression : String}
    {instant : ℤ} {text : List Char} (h : anchor py now expression = .ok (some (instant, text))) :
    resolve py now roundUp timeZone expression
      = (match (zone py timeZone).fromUtc instant with
        | none => .error .uncaught
        | some moment => do
          let resolved ← steps py roundUp text text.length text moment
          match (zone py timeZone).toUtc resolved with
          | none => .error .uncaught
          | some n => .ok (some n)) := by
  rw [resolve, h]
  rfl

/-- An expression is answered, or refused with a `DateMathError`, exactly if it is answerable. -/
lemma resolve_iff (now : Option ℤ) (timeZone : Option String) (expression : String) :
    resolve py now roundUp timeZone expression ≠ .error .uncaught
      ↔ Answerable py roundUp now timeZone expression := by
  have huncaught := anchor_uncaught py now expression
  cases hanchor : anchor py now expression with
  | error raised =>
    rw [hanchor] at huncaught
    rw [resolve, hanchor]
    change (Except.error raised : Except Raised (Option ℤ)) ≠ .error .uncaught ↔ _
    constructor
    · intro h
      refine ⟨?_, fun instant text hfound => ?_⟩
      swap
      · cases hanchor.symm.trans hfound
      by_contra hno
      exact h (congrArg Except.error (Except.error.inj (huncaught.2 hno)))
    · intro h heq
      exact huncaught.1 (congrArg Except.error (Except.error.inj heq)) h.readable
  | ok found =>
    rw [hanchor] at huncaught
    have hreadable := not_not.1 (mt huncaught.2 (by rintro ⟨⟩))
    cases found with
    | none =>
      rw [resolve, hanchor]
      refine iff_of_true (by rintro ⟨⟩) ⟨hreadable, fun instant text hfound => ?_⟩
      cases hanchor.symm.trans hfound
    | some found =>
      obtain ⟨instant, text⟩ := found
      have hiff : Answerable py roundUp now timeZone expression
          ↔ ∃ m, (zone py timeZone).fromUtc instant = some m
            ∧ Within py roundUp m (operations py text text.length text).1
            ∧ ((operations py text text.length text).2 = none →
              ((zone py timeZone).toUtc
                ((operations py text text.length text).1.foldl
                    (perform py roundUp) m)).isSome) := by
        refine ⟨fun h => h.within instant text hanchor, fun h => ⟨hreadable, ?_⟩⟩
        intro instant' text' hfound
        cases hanchor.symm.trans hfound
        exact h
      rw [hiff, resolve_of_anchor hanchor]
      cases hmoment : (zone py timeZone).fromUtc instant with
      | none =>
        refine iff_of_false (fun h => h rfl) ?_
        rintro ⟨m, hm, -⟩
        cases hm
      | some m =>
        simp only [Option.some.injEq, exists_eq_left']
        have hsteps := steps_eq py roundUp text
          (Nat.le_refl text.length) ((zone py timeZone).fromUtc_mem instant m hmoment)
        by_cases hwithin : Within py roundUp m (operations py text text.length text).1
        · rw [hsteps.1 hwithin]
          cases hrest : (operations py text text.length text).2 with
          | some raised =>
            have hraised := operations_raised hrest
            exact iff_of_true (fun h => hraised (Except.error.inj h)) ⟨hwithin, by rintro ⟨⟩⟩
          | none =>
            dsimp only [bind, Except.bind]
            cases (zone py timeZone).toUtc
                ((operations py text text.length text).1.foldl (perform py roundUp) m) with
            | none => exact iff_of_false (fun h => h rfl) fun h => absurd (h.2 rfl) Bool.false_ne_true
            | some n => exact iff_of_true (by rintro ⟨⟩) ⟨hwithin, fun _ => rfl⟩
        · rw [hsteps.2 hwithin]
          exact iff_of_false (fun h => h rfl) fun h => hwithin h.1

lemma answerable_of_not_dateMath {now : Option ℤ} {timeZone : Option String} {expression : String}
    (h : isDateMath expression = false) : Answerable py roundUp now timeZone expression := by
  rw [isDateMath, Bool.or_eq_false_iff, Option.isSome_eq_false_iff, Option.isSome_eq_false_iff,
    Option.isNone_iff_eq_none, Option.isNone_iff_eq_none] at h
  refine ⟨fun _ head text hsplit => (nomatch h.2.symm.trans hsplit), fun instant text hanchor => ?_⟩
  rw [anchor, h.1, h.2] at hanchor
  cases hanchor

/-- The members of a clause `range` with one bound, and a time zone if there is one. -/
def oneBound (name expression : String) (timeZone : Option String) : Object :=
  (name, .str expression) :: timeZone.toList.map fun zone => ("time_zone", .str zone)

lemma timeZoneOf_oneBound {name expression : String} {timeZone : Option String}
    (h : name ≠ "time_zone") : timeZoneOf (oneBound name expression timeZone) = .ok timeZone := by
  have hget : Object.get (oneBound name expression timeZone) "time_zone"
      = (timeZone.map Json.str).getD .null := by
    rw [Object.get, oneBound, Assoc.get_cons, if_neg h]
    cases timeZone with
    | none => rfl
    | some zone => rfl
  rw [timeZoneOf, hget]
  cases timeZone <;> rfl

lemma filterMap_oneBound {name expression : String} {op : RangeOp} (timeZone : Option String)
    (hname : rangeOp name = some op) :
    (oneBound name expression timeZone).filterMap (fun (name, target) =>
      (rangeOp name).map fun op => (op, target)) = [(op, Json.str expression)] := by
  have hnone : rangeOp "time_zone" = none := by decide
  cases timeZone <;> simp [oneBound, hname, hnone]

lemma resolveBound_oneBound {name expression : String} (timeZone : Option String) (op : RangeOp)
    (hzone : name ≠ "time_zone") :
    resolveBound py (oneBound name expression timeZone) op (.str expression)
      = if isDateMath expression then
          match resolve py none (roundsUp op) timeZone expression with
          | .ok moment => .ok ⟨op, .str expression, moment⟩
          | .error (.dateMathError message) =>
            .error (.query { message, esType := "parse_exception", shardFailure := true })
          | .error .uncaught => .error .crash
        else .ok ⟨op, .str expression, none⟩ := by
  rw [resolveBound, timeZoneOf_oneBound hzone]
  rfl

/-- What is built of a clause `range` with one bound. -/
lemma buildRange_oneBound {field name expression : String} {op : RangeOp}
    (timeZone : Option String) (hfield : field ≠ "") (hname : rangeOp name = some op) :
    buildRange py [(field, .dict (oneBound name expression timeZone))]
      = if isDateMath expression then
          match resolve py none (roundsUp op) timeZone expression with
          | .ok moment => .ok (rangeTest py field [⟨op, .str expression, moment⟩])
          | .error (.dateMathError message) =>
            .error (.query { message, esType := "parse_exception", shardFailure := true })
          | .error .uncaught => .error .crash
        else .ok (rangeTest py field [⟨op, .str expression, none⟩]) := by
  have hzone : name ≠ "time_zone" := by
    rintro rfl
    have hnone : rangeOp "time_zone" = none := by decide
    rw [hnone] at hname
    cases hname
  rw [buildRange, if_neg hfield]
  simp only [filterMap_oneBound timeZone hname, List.mapM_cons, List.mapM_nil]
  rw [resolveBound_oneBound timeZone op hzone]
  cases isDateMath expression with
  | false => rfl
  | true =>
    rw [if_pos rfl, if_pos rfl]
    cases resolve py none (roundsUp op) timeZone expression with
    | ok moment => rfl
    | error raised => cases raised <;> rfl

/-- A clause `range` with one bound fails as `resolve` does. -/
lemma buildRange_crash {field name expression : String} {op : RangeOp} (timeZone : Option String)
    (hfield : field ≠ "") (hname : rangeOp name = some op) :
    buildRange py [(field, .dict (oneBound name expression timeZone))] = .error .crash
      ↔ isDateMath expression = true
        ∧ resolve py none (roundsUp op) timeZone expression = .error .uncaught := by
  rw [buildRange_oneBound timeZone hfield hname]
  cases isDateMath expression with
  | false => exact iff_of_false nofun fun h => nomatch h.1
  | true =>
    rw [if_pos rfl]
    simp only [true_and]
    cases resolve py none (roundsUp op) timeZone expression with
    | ok moment => exact iff_of_false nofun nofun
    | error raised =>
      cases raised with
      | dateMathError message => exact iff_of_false nofun nofun
      | uncaught => exact iff_of_true rfl rfl

/-- An expression is answered or refused with a `DateMathError`, and a range query with it answered
    or refused with a parse error, exactly if the anchor can be read and nothing on the way leaves
    the years 1 to 9999 or counts with more than 4300 digits. -/
theorem total_iff (py : DatePython) (op : RangeOp) (now : Option ℤ) (timeZone : Option String)
    (expression : String) :
    (resolve py now (roundsUp op) timeZone expression ≠ .error .uncaught
        ↔ Answerable py (roundsUp op) now timeZone expression)
      ∧ ∀ field name, field ≠ "" → rangeOp name = some op →
        (buildRange py [(field, .dict (oneBound name expression timeZone))] ≠ .error .crash
          ↔ Answerable py (roundsUp op) none timeZone expression) := by
  refine ⟨resolve_iff now timeZone expression, fun field name hfield hname => ?_⟩
  rw [Ne, buildRange_crash timeZone hfield hname, ← resolve_iff none timeZone expression]
  constructor
  · intro h hresolve
    cases hdate : isDateMath expression with
    | false =>
      exact (resolve_iff none timeZone expression).2 (answerable_of_not_dateMath hdate) hresolve
    | true => exact h ⟨hdate, hresolve⟩
  · exact fun h hcrash => h hcrash.2

/-- The built-ins on ASCII text, with no date readable and no named zone. -/
def asciiDatePython : DatePython where
  toTermPython := asciiTermPython
  isdigit := Char.isDigit
  fromMillis q := some (q.floor * 1000 + 62135596800000000)
  zoneInfo _ := none
  digit_mark c hc := by
    have hnone : (['-', '+', 'y', 'M', 'w', 'd', 'h', 'H', 'm', 's'].all fun c =>
        (asciiTermPython.digit c).isNone) = true := by decide
    exact Option.isNone_iff_eq_none.1 (List.all_eq_true.1 hnone c hc)

/-- `now-30d` is answered, and so is a range query with it. -/
theorem thirty_days_answered :
    (resolve asciiDatePython none (roundsUp .gte) none "now-30d" ≠ .error .uncaught
        ↔ Answerable asciiDatePython (roundsUp .gte) none none "now-30d")
      ∧ (buildRange asciiDatePython [("@timestamp", .dict (oneBound "gte" "now-30d" none))]
          ≠ .error .crash
        ↔ Answerable asciiDatePython (roundsUp .gte) none none "now-30d") :=
  ⟨(total_iff asciiDatePython .gte none none "now-30d").1,
    (total_iff asciiDatePython .gte none none "now-30d").2 "@timestamp" "gte" (by decide) rfl⟩

/-- `now+9999y` raises a `ValueError`. -/
theorem year_out_of_range :
    ¬ ∀ (py : DatePython) (roundUp : Bool) (expression : String),
      resolve py none roundUp none expression ≠ .error .uncaught := by
  intro h
  exact h asciiDatePython false "now+9999y" (by decide)

end DateMath

end Mockdr
