import Mockdr.Splunk.SplReads

/-!
# How deep the parser of expressions calls itself

The calls of `utils/splunk/spl_expr.py` that are open at one time while a text is read.

* `Frame` is a call of one of the functions of the parser or of the checks of types. `Calls` says
  which calls a call makes, and `Nests` how many calls can be open above one.
* `notRun` is the longest chain of `NOT`, and `rank` a number that goes down with every call;
  `nests_le`: no more calls are open than the chains of `NOT` and the `+` signs allow.
-/

namespace Mockdr

namespace Splunk

namespace Spl

/-! ## Calls -/

/-- A call that is open: of a function of the parser, with the flag and the depth that it starts
    with and the tokens that are left, or of a check of types. -/
inductive Frame where
  | parseOr (inValue : Bool) (depth : Nat) (ts : List Token)
  | parseAnd (inValue : Bool) (depth : Nat) (ts : List Token)
  | parseNot (inValue : Bool) (depth : Nat) (ts : List Token)
  | parseComparison (inValue : Bool) (depth : Nat) (ts : List Token)
  | parseAdditive (inValue : Bool) (depth : Nat) (ts : List Token)
  | parseMultiplicative (inValue : Bool) (depth : Nat) (ts : List Token)
  | parseAtom (inValue : Bool) (depth : Nat) (ts : List Token)
  | parseAtomInner (inValue : Bool) (depth : Nat) (ts : List Token)
  | checkBinop (left right : Node)
  | checkCompare (left right : Node)
  | checkArguments (name : String) (args : List Node)
  | staticType (node : Node)

/-- Where a loop over operands reads one: at its start, and behind another where it goes on. -/
inductive Reaches (read : List Token → Node → List Token → Prop)
    (next : List Token → Option (List Token)) (start : List Token) : List Token → Prop where
  | first : Reaches read next start start
  | next {ts behind rest : List Token} {node : Node} (h : Reaches read next start ts)
      (hread : read ts node behind) (hnext : next behind = some rest) : Reaches read next start rest

/-- What a loop over operators has read: the expression so far, and the tokens behind it. -/
inductive Folds (read : List Token → Node → List Token → Prop)
    (operator : List Token → Option (ArithOp × List Token)) (start : List Token) :
    Node → List Token → Prop where
  | first {node : Node} {rest : List Token} (hread : read start node rest) :
      Folds read operator start node rest
  | next {op : ArithOp} {node right : Node} {ts behind rest : List Token}
      (h : Folds read operator start node ts) (hop : operator ts = some (op, behind))
      (hread : read behind right rest) : Folds read operator start (.binOp op node right) rest

section Calls

variable (py : SplPython) (mode : Mode)

/-- What a function of the parser reads when it returns. -/
def Returned (f : Nat → Bool → Nat → List Token → Option (Node × List Token)) (v : Bool) (d : Nat)
    (ts : List Token) (node : Node) (rest : List Token) : Prop :=
  ∃ n, f n v d ts = some (node, rest)

/-- The calls that a call makes. Those that only look at a token or take it are left out: they make
    no call of these. -/
inductive Calls : Frame → Frame → Prop where
  /-- `_parse_or` -/
  | or_and {v d ts rest} (hguard : d + 1 ≤ MAX_DEPTH)
      (h : Reaches (Returned (parseAnd py mode) v (d + 1)) (accept py "OR") ts rest) :
      Calls (.parseOr v d ts) (.parseAnd v (d + 1) rest)
  /-- `_parse_and` -/
  | and_not {v d ts rest} (hguard : d + 1 ≤ MAX_DEPTH)
      (h : Reaches (Returned (parseNot py mode) v (d + 1)) (nextOperand py mode) ts rest) :
      Calls (.parseAnd v d ts) (.parseNot v (d + 1) rest)
  /-- `_parse_not` -/
  | not_not {v d ts rest} (h : accept py "NOT" ts = some rest) :
      Calls (.parseNot v d ts) (.parseNot v d rest)
  | not_comparison {v d ts} (h : accept py "NOT" ts = none) :
      Calls (.parseNot v d ts) (.parseComparison v d ts)
  /-- `_parse_comparison` -/
  | comparison_left {v d ts} : Calls (.parseComparison v d ts) (.parseAdditive v d ts)
  | comparison_right {v d ts left behind op rest}
      (hleft : Returned (parseAdditive py mode) v d ts left behind)
      (hop : comparisonOf behind = some (op, rest)) :
      Calls (.parseComparison v d ts) (.parseAdditive true d rest)
  | comparison_check {v d ts left behind op rest right last} (hmode : mode ≠ .search)
      (hleft : Returned (parseAdditive py mode) v d ts left behind)
      (hop : comparisonOf behind = some (op, rest))
      (hright : Returned (parseAdditive py mode) true d rest right last) :
      Calls (.parseComparison v d ts) (.checkCompare left right)
  /-- `_parse_additive` -/
  | additive_first {v d ts} : Calls (.parseAdditive v d ts) (.parseMultiplicative v d ts)
  | additive_next {v d ts node behind op rest}
      (h : Folds (Returned (parseMultiplicative py mode) v d) additiveOf ts node behind)
      (hop : additiveOf behind = some (op, rest)) :
      Calls (.parseAdditive v d ts) (.parseMultiplicative v d rest)
  | additive_check {v d ts node behind op rest right last} (hmode : mode ≠ .search)
      (h : Folds (Returned (parseMultiplicative py mode) v d) additiveOf ts node behind)
      (hop : additiveOf behind = some (op, rest))
      (hright : Returned (parseMultiplicative py mode) v d rest right last) :
      Calls (.parseAdditive v d ts) (.checkBinop node right)
  /-- `_parse_multiplicative` -/
  | multiplicative_first {v d ts} : Calls (.parseMultiplicative v d ts) (.parseAtom v d ts)
  | multiplicative_next {v d ts node behind op rest}
      (h : Folds (Returned (parseAtom py mode) v d) (multiplicativeOf mode) ts node behind)
      (hop : multiplicativeOf mode behind = some (op, rest)) :
      Calls (.parseMultiplicative v d ts) (.parseAtom v d rest)
  | multiplicative_check {v d ts node behind op rest right last}
      (h : Folds (Returned (parseAtom py mode) v d) (multiplicativeOf mode) ts node behind)
      (hop : multiplicativeOf mode behind = some (op, rest))
      (hright : Returned (parseAtom py mode) v d rest right last) :
      Calls (.parseMultiplicative v d ts) (.checkBinop node right)
  /-- `_parse_atom` -/
  | atom_inner {v d ts} (hguard : d + 1 ≤ MAX_DEPTH) :
      Calls (.parseAtom v d ts) (.parseAtomInner v (d + 1) ts)
  /-- `_parse_atom_inner` -/
  | inner_group {v d token ts} (htext : token.text = "(") :
      Calls (.parseAtomInner v d (token :: ts)) (.parseOr v d ts)
  | inner_minus {v d token ts} (hkind : token.kind = .op) (htext : token.text = "-") :
      Calls (.parseAtomInner v d (token :: ts)) (.parseAtom v d ts)
  | inner_argument {v d token ts behind rest} (hmode : mode ≠ .search) (hkind : token.kind = .word)
      (hopened : opened ts = some behind) (hsome : accept py ")" behind = none)
      (h : Reaches (Returned (parseOr py mode) v d) (accept py ",") behind rest) :
      Calls (.parseAtomInner v d (token :: ts)) (.parseOr v d rest)
  | inner_check {v d token ts behind n args rest} (hmode : mode ≠ .search)
      (hkind : token.kind = .word) (hopened : opened ts = some behind)
      (hargs : parseArguments py mode n v d behind = some (args, rest)) :
      Calls (.parseAtomInner v d (token :: ts)) (.checkArguments (py.lower token.text) args)
  /-- `_check_binop` -/
  | binop_left {left right} : Calls (.checkBinop left right) (.staticType left)
  | binop_right {left right} : Calls (.checkBinop left right) (.staticType right)
  /-- `_check_compare` -/
  | compare_left {left right} : Calls (.checkCompare left right) (.staticType left)
  | compare_right {left right} : Calls (.checkCompare left right) (.staticType right)
  /-- `_check_arguments`, up to the first argument that is refused -/
  | argument {name before arg after} (hname : name ∉ NULL_ARGUMENT_OK)
      (hbefore : ∀ a ∈ before, staticType a ≠ .null) :
      Calls (.checkArguments name (before ++ arg :: after)) (.staticType arg)
  /-- `_static_type` -/
  | add_left {left right} : Calls (.staticType (.binOp .add left right)) (.staticType left)
  | add_right {left right} : Calls (.staticType (.binOp .add left right)) (.staticType right)

/-- Above a call, itself included, so many calls can be open. -/
inductive Nests : Frame → Nat → Prop where
  | here {c : Frame} : Nests c 1
  | call {c c' : Frame} {n : Nat} (h : Calls py mode c c') (hnests : Nests c' n) : Nests c (n + 1)

end Calls

/-! ## A bound -/

variable (py : SplPython)

/-- The `NOT`s that some tokens start with. -/
def leadingNots : List Token → Nat
  | [] => 0
  | token :: ts => if py.upper token.text = "NOT" then leadingNots ts + 1 else 0

/-- The longest chain of `NOT`. -/
def notRun : List Token → Nat
  | [] => 0
  | token :: ts => max (leadingNots py (token :: ts)) (notRun ts)

variable {py} {mode : Mode} {ts rest : List Token}

lemma leadingNots_le_notRun (ts : List Token) : leadingNots py ts ≤ notRun py ts := by
  cases ts with
  | nil => exact Nat.le_refl _
  | cons token ts => exact Nat.le_max_left _ _

lemma notRun_le_of_suffix (h : rest <:+ ts) : notRun py rest ≤ notRun py ts := by
  obtain ⟨front, rfl⟩ := h
  induction front with
  | nil => exact Nat.le_refl _
  | cons token front ih => exact ih.trans (Nat.le_max_right _ _)

/-- A `NOT` that is accepted is one of those that the tokens start with. -/
lemma leadingNots_of_accept (h : accept py "NOT" ts = some rest) :
    leadingNots py ts = leadingNots py rest + 1 := by
  obtain ⟨token, rfl, htext⟩ := accept_eq_some py h
  rw [leadingNots, if_pos htext]

/-- What a call needs to stay in a bound: the tokens have no longer chain of `NOT` and no more `+`
    signs, and the expressions are no deeper. -/
def Frame.Within (py : SplPython) (nots plusses : Nat) : Frame → Prop
  | parseOr _ _ ts | parseAnd _ _ ts | parseNot _ _ ts | parseComparison _ _ ts
  | parseAdditive _ _ ts | parseMultiplicative _ _ ts | parseAtom _ _ ts | parseAtomInner _ _ ts =>
    notRun py ts ≤ nots ∧ pluses ts ≤ plusses
  | checkBinop left right | checkCompare left right =>
    staticDepth left ≤ plusses ∧ staticDepth right ≤ plusses
  | checkArguments _ args => ∀ arg ∈ args, staticDepth arg ≤ plusses
  | staticType node => staticDepth node ≤ plusses

/-- A number that goes down with every call. -/
def Frame.rank (py : SplPython) (nots plusses : Nat) : Frame → Nat
  | staticType node => staticDepth node
  | checkBinop _ _ | checkCompare _ _ | checkArguments _ _ => plusses + 1
  | parseOr _ d _ | parseAnd _ d _ => plusses + 2 + (61 - d) * (nots + 6)
  | parseNot _ d ts => plusses + 2 + (61 - d) * (nots + 6) + leadingNots py ts + 5
  | parseComparison _ d _ => plusses + 2 + (61 - d) * (nots + 6) + 4
  | parseAdditive _ d _ => plusses + 2 + (61 - d) * (nots + 6) + 3
  | parseMultiplicative _ d _ => plusses + 2 + (61 - d) * (nots + 6) + 2
  | parseAtom _ d _ => plusses + 2 + (61 - d) * (nots + 6) + 1
  | parseAtomInner _ d _ => plusses + 2 + (61 - d) * (nots + 6) + 2

lemma levels_of_guard {d : Nat} (hguard : d + 1 ≤ MAX_DEPTH) (w : Nat) :
    (61 - d) * w = (61 - (d + 1)) * w + w := by
  have hlevel : 61 - d = 61 - (d + 1) + 1 := by
    rw [MAX_DEPTH] at hguard
    omega
  rw [hlevel, Nat.succ_mul]

lemma Reaches.suffix {read : List Token → Node → List Token → Prop}
    {next : List Token → Option (List Token)} (h : Reaches read next ts rest)
    (hread : ∀ {ts node rest}, read ts node rest → rest <:+ ts)
    (hnext : ∀ {ts rest}, next ts = some rest → rest <:+ ts) : rest <:+ ts := by
  induction h with
  | first => exact List.suffix_refl ts
  | next _ hread' hnext' ih => exact ((hnext hnext').trans (hread hread')).trans ih

/-- A loop over operators reads one expression. -/
lemma Folds.read {read : List Token → Node → List Token → Prop}
    {operator : List Token → Option (ArithOp × List Token)} {node : Node}
    (h : Folds read operator ts node rest)
    (hread : ∀ {ts node rest}, read ts node rest → Read ts node rest)
    (hoperator : ∀ {ts op rest}, operator ts = some (op, rest) →
      ∃ token, ts = token :: rest ∧ (op = .add → token.isPlus = true)) : Read ts node rest := by
  induction h with
  | first hread' => exact hread hread'
  | next _ hop hread' ih =>
    obtain ⟨token, rfl, hplus⟩ := hoperator hop
    exact ih.readOn (readOn_binOp hplus (hread hread'))

section Returned

variable {v : Bool} {d : Nat} {node : Node}

lemma read_of_or (h : Returned (parseOr py mode) v d ts node rest) : Read ts node rest := by
  obtain ⟨n, h⟩ := h
  exact (reads py mode n).or h

lemma read_of_and (h : Returned (parseAnd py mode) v d ts node rest) : Read ts node rest := by
  obtain ⟨n, h⟩ := h
  exact (reads py mode n).and h

lemma read_of_not (h : Returned (parseNot py mode) v d ts node rest) : Read ts node rest := by
  obtain ⟨n, h⟩ := h
  exact (reads py mode n).not h

lemma read_of_additive (h : Returned (parseAdditive py mode) v d ts node rest) :
    Read ts node rest := by
  obtain ⟨n, h⟩ := h
  exact (reads py mode n).additive h

lemma read_of_multiplicative (h : Returned (parseMultiplicative py mode) v d ts node rest) :
    Read ts node rest := by
  obtain ⟨n, h⟩ := h
  exact (reads py mode n).multiplicative h

lemma read_of_atom (h : Returned (parseAtom py mode) v d ts node rest) : Read ts node rest := by
  obtain ⟨n, h⟩ := h
  exact (reads py mode n).atom h

/-- What the loop of `_parse_additive` has read. -/
lemma read_of_additiveFolds
    (h : Folds (Returned (parseMultiplicative py mode) v d) additiveOf ts node rest) :
    Read ts node rest :=
  h.read read_of_multiplicative additiveOf_eq_some

/-- What the loop of `_parse_multiplicative` has read. -/
lemma read_of_multiplicativeFolds
    (h : Folds (Returned (parseAtom py mode) v d) (multiplicativeOf mode) ts node rest) :
    Read ts node rest :=
  h.read read_of_atom fun hop => by
    obtain ⟨⟨token, htoken⟩, hne⟩ := multiplicativeOf_eq_some hop
    exact ⟨token, htoken, fun hadd => absurd hadd hne⟩

end Returned

variable {nots plusses : Nat}

lemma within_of_suffix (h : rest <:+ ts) (hts : notRun py ts ≤ nots ∧ pluses ts ≤ plusses) :
    notRun py rest ≤ nots ∧ pluses rest ≤ plusses :=
  ⟨(notRun_le_of_suffix h).trans hts.1, (pluses_le_of_suffix h).trans hts.2⟩

/-- What a call needs goes over to the calls it makes. -/
lemma within_of_calls {c c' : Frame} (h : Calls py mode c c') (hc : c.Within py nots plusses) :
    c'.Within py nots plusses := by
  cases h with
  | or_and _ h => exact within_of_suffix (h.suffix (fun h => (read_of_and h).suffix)
      (accept_suffix py)) hc
  | and_not _ h => exact within_of_suffix (h.suffix (fun h => (read_of_not h).suffix)
      (nextOperand_suffix py)) hc
  | not_not h => exact within_of_suffix (accept_suffix py h) hc
  | not_comparison => exact hc
  | comparison_left => exact hc
  | comparison_right hleft hop =>
    obtain ⟨token, rfl⟩ := comparisonOf_eq_some hop
    exact within_of_suffix ((List.suffix_cons token _).trans (read_of_additive hleft).suffix) hc
  | comparison_check _ hleft hop hright =>
    obtain ⟨token, rfl⟩ := comparisonOf_eq_some hop
    have hsuffix := (List.suffix_cons token _).trans (read_of_additive hleft).suffix
    have hrest := @within_of_suffix py _ _ _ _ hsuffix hc
    exact ⟨(read_of_additive hleft).le_pluses.trans hc.2,
      (read_of_additive hright).le_pluses.trans hrest.2⟩
  | additive_first => exact hc
  | additive_next h hop =>
    obtain ⟨token, rfl, -⟩ := additiveOf_eq_some hop
    exact within_of_suffix ((List.suffix_cons token _).trans (read_of_additiveFolds h).suffix) hc
  | additive_check _ h hop hright =>
    obtain ⟨token, rfl, -⟩ := additiveOf_eq_some hop
    have hsuffix := (List.suffix_cons token _).trans (read_of_additiveFolds h).suffix
    have hrest := @within_of_suffix py _ _ _ _ hsuffix hc
    exact ⟨(read_of_additiveFolds h).le_pluses.trans hc.2,
      (read_of_multiplicative hright).le_pluses.trans hrest.2⟩
  | multiplicative_first => exact hc
  | multiplicative_next h hop =>
    obtain ⟨⟨token, rfl⟩, -⟩ := multiplicativeOf_eq_some hop
    exact within_of_suffix
      ((List.suffix_cons token _).trans (read_of_multiplicativeFolds h).suffix) hc
  | multiplicative_check h hop hright =>
    obtain ⟨⟨token, rfl⟩, -⟩ := multiplicativeOf_eq_some hop
    have hsuffix := (List.suffix_cons token _).trans (read_of_multiplicativeFolds h).suffix
    have hrest := @within_of_suffix py _ _ _ _ hsuffix hc
    exact ⟨(read_of_multiplicativeFolds h).le_pluses.trans hc.2,
      (read_of_atom hright).le_pluses.trans hrest.2⟩
  | atom_inner => exact hc
  | inner_group => exact within_of_suffix (List.suffix_cons _ _) hc
  | inner_minus => exact within_of_suffix (List.suffix_cons _ _) hc
  | inner_argument _ _ hopened _ h =>
    obtain ⟨paren, rfl⟩ := opened_eq_some hopened
    have hsuffix := h.suffix (fun h => (read_of_or h).suffix) (accept_suffix py)
    exact within_of_suffix
      ((hsuffix.trans (List.suffix_cons paren _)).trans (List.suffix_cons _ _)) hc
  | inner_check _ _ hopened hargs =>
    obtain ⟨paren, rfl⟩ := opened_eq_some hopened
    have hrest := @within_of_suffix py _ _ _ _
      ((List.suffix_cons paren _).trans (List.suffix_cons _ _)) hc
    exact fun arg harg => (((reads py mode _).arguments hargs).depth arg harg).trans hrest.2
  | binop_left => exact hc.1
  | binop_right => exact hc.2
  | compare_left => exact hc.1
  | compare_right => exact hc.2
  | argument => exact hc _ (List.mem_append_right _ (List.mem_cons_self ..))
  | add_left =>
    have hle : _ ≤ plusses := hc
    rw [staticDepth] at hle
    exact (Nat.le_max_left _ _).trans (Nat.le_of_add_right_le (Nat.add_comm 1 _ ▸ hle))
  | add_right =>
    have hle : _ ≤ plusses := hc
    rw [staticDepth] at hle
    exact (Nat.le_max_right _ _).trans (Nat.le_of_add_right_le (Nat.add_comm 1 _ ▸ hle))

/-- Every call lowers the rank. -/
lemma rank_lt_of_calls {c c' : Frame} (h : Calls py mode c c') (hc : c.Within py nots plusses) :
    c'.rank py nots plusses < c.rank py nots plusses := by
  cases h with
  | or_and hguard _ =>
    simp only [Frame.rank, levels_of_guard hguard]
    omega
  | @and_not v d ts rest hguard h =>
    have hrest : notRun py rest ≤ nots := (within_of_suffix
      (h.suffix (fun h => (read_of_not h).suffix) (nextOperand_suffix py)) hc).1
    have hnots := @leadingNots_le_notRun py rest
    simp only [Frame.rank, levels_of_guard hguard]
    omega
  | not_not h =>
    simp only [Frame.rank, leadingNots_of_accept h]
    omega
  | atom_inner hguard =>
    simp only [Frame.rank, levels_of_guard hguard]
    omega
  | binop_left => exact Nat.lt_succ_of_le hc.1
  | binop_right => exact Nat.lt_succ_of_le hc.2
  | compare_left => exact Nat.lt_succ_of_le hc.1
  | compare_right => exact Nat.lt_succ_of_le hc.2
  | argument => exact Nat.lt_succ_of_le (hc _ (List.mem_append_right _ (List.mem_cons_self ..)))
  | add_left =>
    simp only [Frame.rank, staticDepth]
    omega
  | add_right =>
    simp only [Frame.rank, staticDepth]
    omega
  | _ =>
    simp only [Frame.rank]
    omega

/-- No more calls can be open above a call than its rank says. -/
lemma nests_le {c : Frame} {n : Nat} (h : Nests py mode c n) (hc : c.Within py nots plusses) :
    n ≤ c.rank py nots plusses + 1 := by
  induction h with
  | here => omega
  | call h _ ih =>
    have hlt := rank_lt_of_calls h hc
    have hle := ih (within_of_calls h hc)
    omega

end Spl

end Splunk

end Mockdr
