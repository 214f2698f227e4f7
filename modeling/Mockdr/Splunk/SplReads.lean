import Mockdr.Splunk.SplParser

/-!
# What the parser of expressions reads

The recursive descent of `utils/splunk/spl_expr.py` on any tokens, function by function.

* `staticDepth` is how far `_static_type` goes down into an expression. `reads`: what a function of
  the parser leaves is shorter than what it was given, and the expression it makes is no deeper than
  the `+` signs it has read.
* `settled`: with `parseFuel` the parser comes to its end; more would change nothing.
-/

namespace Mockdr

namespace Splunk

namespace Spl

/-! ## The depth of an expression -/

/-- How often `_static_type` calls itself on an expression. -/
def staticDepth : Node → Nat
  | .binOp .add left right => 1 + max (staticDepth left) (staticDepth right)
  | _ => 0

/-- Whether a token is a `+`. -/
def Token.isPlus (token : Token) : Bool := token.kind = .op && token.text = "+"

/-- The number of `+` signs. -/
def pluses (ts : List Token) : Nat := ts.countP Token.isPlus

/-- An operator that is no `+` ends the descent. -/
lemma staticDepth_binOp_le (op : ArithOp) (left right : Node) :
    staticDepth (.binOp op left right) ≤ 1 + max (staticDepth left) (staticDepth right) := by
  cases op with
  | add => rw [staticDepth]
  | _ => exact Nat.zero_le _

lemma staticDepth_binOp_of_ne {op : ArithOp} (hop : op ≠ .add) (left right : Node) :
    staticDepth (.binOp op left right) = 0 := by
  cases op with
  | add => exact absurd rfl hop
  | _ => rfl

lemma staticDepth_joined_le (op : Junction) (first : Node) (others : List Node) :
    staticDepth (joined op (first :: others)) ≤ staticDepth first := by
  cases others with
  | nil => exact Nat.le_refl _
  | cons other others => exact Nat.zero_le _

/-! ## What is read -/

/-- An expression is read in front of what is left. -/
structure Read (ts : List Token) (node : Node) (rest : List Token) : Prop where
  suffix : rest <:+ ts
  fewer : rest.length < ts.length
  depth : staticDepth node + pluses rest ≤ pluses ts

/-- Some expressions, or none, are read in front of what is left. -/
structure ReadEach (ts : List Token) (nodes : List Node) (rest : List Token) : Prop where
  suffix : rest <:+ ts
  depth : ∀ node ∈ nodes, staticDepth node ≤ pluses ts

variable {ts rest last : List Token} {node other : Node} {nodes : List Node}

lemma pluses_le_of_suffix (h : rest <:+ ts) : pluses rest ≤ pluses ts := h.sublist.countP_le

lemma pluses_cons_le (token : Token) (ts : List Token) : pluses ts ≤ pluses (token :: ts) :=
  pluses_le_of_suffix (List.suffix_cons token ts)

lemma Read.cons (h : Read ts node rest) (token : Token) : Read (token :: ts) node rest where
  suffix := h.suffix.trans (List.suffix_cons token ts)
  fewer := Nat.lt_succ_of_lt h.fewer
  depth := h.depth.trans (pluses_cons_le token ts)

lemma Read.trans (h : Read ts node rest) (hsuffix : last <:+ rest)
    (hdepth : staticDepth other ≤ staticDepth node) : Read ts other last where
  suffix := hsuffix.trans h.suffix
  fewer := Nat.lt_of_le_of_lt hsuffix.length_le h.fewer
  depth := by
    have hpluses := pluses_le_of_suffix hsuffix
    have hread := h.depth
    omega

lemma Read.single (hdepth : staticDepth node = 0) (token : Token) (ts : List Token) :
    Read (token :: ts) node ts where
  suffix := List.suffix_cons token ts
  fewer := Nat.lt_succ_self _
  depth := by
    have hpluses := pluses_cons_le token ts
    omega

lemma Read.le_pluses (h : Read ts node rest) : staticDepth node ≤ pluses ts :=
  Nat.le_of_add_right_le h.depth

lemma ReadEach.nil (ts : List Token) : ReadEach ts [] ts :=
  ⟨List.suffix_refl ts, fun _ h => by cases h⟩

lemma ReadEach.cons (hfront : rest <:+ ts) (h : Read rest node last) {end' : List Token}
    (hrest : ReadEach last nodes end') : ReadEach ts (node :: nodes) end' where
  suffix := hrest.suffix.trans (h.suffix.trans hfront)
  depth := by
    have hpluses := pluses_le_of_suffix hfront
    intro n hn
    rcases List.mem_cons.1 hn with rfl | hn
    · exact h.le_pluses.trans hpluses
    · exact (hrest.depth n hn).trans ((pluses_le_of_suffix h.suffix).trans hpluses)

/-! ## Tokens -/

variable (py : SplPython) {mode : Mode} {text : String} {op : ArithOp} {relation : CompareOp}

lemma accept_eq_some (h : accept py text ts = some rest) :
    ∃ token, ts = token :: rest ∧ py.upper token.text = text := by
  cases ts with
  | nil => cases h
  | cons token ts =>
    rw [accept] at h
    split at h
    · next htext =>
      cases h
      exact ⟨token, rfl, htext⟩
    · cases h

lemma accept_suffix (h : accept py text ts = some rest) : rest <:+ ts := by
  obtain ⟨token, rfl, -⟩ := accept_eq_some py h
  exact List.suffix_cons token rest

lemma comparisonOf_eq_some (h : comparisonOf ts = some (relation, rest)) :
    ∃ token, ts = token :: rest := by
  cases ts with
  | nil => cases h
  | cons token ts =>
    rw [comparisonOf] at h
    split at h
    · obtain ⟨found, -, heq⟩ := Option.map_eq_some_iff.1 h
      cases heq
      exact ⟨token, rfl⟩
    · cases h

/-- The sign of an addition is a `+`. -/
lemma additiveOf_eq_some (h : additiveOf ts = some (op, rest)) :
    ∃ token, ts = token :: rest ∧ (op = .add → token.isPlus = true) := by
  cases ts with
  | nil => cases h
  | cons token ts =>
    rw [additiveOf] at h
    split at h
    · next hkind =>
      obtain ⟨found, hfound, heq⟩ := Option.map_eq_some_iff.1 h
      cases heq
      refine ⟨token, rfl, fun hadd => ?_⟩
      subst hadd
      have htext : token.text = "+" := by
        have hmem := Assoc.mem_of_get hfound
        simpa using hmem
      simp [Token.isPlus, hkind, htext]
    · cases h

lemma multiplicativeOf_eq_some (h : multiplicativeOf mode ts = some (op, rest)) :
    (∃ token, ts = token :: rest) ∧ op ≠ .add := by
  cases ts with
  | nil => cases h
  | cons token ts =>
    rw [multiplicativeOf] at h
    split at h
    · obtain ⟨found, hfound, heq⟩ := Option.map_eq_some_iff.1 h
      cases heq
      refine ⟨⟨token, rfl⟩, ?_⟩
      rintro rfl
      have hmem := Assoc.mem_of_get hfound
      simp at hmem
    · cases h

lemma nextOperand_suffix (h : nextOperand py mode ts = some rest) : rest <:+ ts := by
  unfold nextOperand at h
  split at h
  · next haccept =>
    cases h
    exact accept_suffix py haccept
  · split at h
    · cases h
    · split at h
      · cases h
        exact List.suffix_refl _
      · cases h

/-! ## The functions of the parser -/

/-- Some operands are read behind an expression. -/
structure ReadOn (node : Node) (ts : List Token) (other : Node) (rest : List Token) : Prop where
  suffix : rest <:+ ts
  depth : staticDepth other + pluses rest ≤ staticDepth node + pluses ts

/-- What the functions of the parser read with so many nested calls. -/
structure Reads (mode : Mode) (n : Nat) : Prop where
  or : ∀ {v d ts node rest}, parseOr py mode n v d ts = some (node, rest) → Read ts node rest
  orRest : ∀ {v d ts nodes rest},
    orRest py mode n v d ts = some (nodes, rest) → ReadEach ts nodes rest
  and : ∀ {v d ts node rest}, parseAnd py mode n v d ts = some (node, rest) → Read ts node rest
  andRest : ∀ {v d ts nodes rest},
    andRest py mode n v d ts = some (nodes, rest) → ReadEach ts nodes rest
  not : ∀ {v d ts node rest}, parseNot py mode n v d ts = some (node, rest) → Read ts node rest
  comparison : ∀ {v d ts node rest},
    parseComparison py mode n v d ts = some (node, rest) → Read ts node rest
  additive : ∀ {v d ts node rest},
    parseAdditive py mode n v d ts = some (node, rest) → Read ts node rest
  additiveRest : ∀ {v d node ts other rest},
    additiveRest py mode n v d node ts = some (other, rest) → ReadOn node ts other rest
  multiplicative : ∀ {v d ts node rest},
    parseMultiplicative py mode n v d ts = some (node, rest) → Read ts node rest
  multiplicativeRest : ∀ {v d node ts other rest},
    multiplicativeRest py mode n v d node ts = some (other, rest) → ReadOn node ts other rest
  atom : ∀ {v d ts node rest}, parseAtom py mode n v d ts = some (node, rest) → Read ts node rest
  arguments : ∀ {v d ts nodes rest},
    parseArguments py mode n v d ts = some (nodes, rest) → ReadEach ts nodes rest
  argumentsRest : ∀ {v d ts nodes rest},
    argumentsRest py mode n v d ts = some (nodes, rest) → ReadEach ts nodes rest

variable {py} {n : Nat} {v : Bool} {d : Nat}

lemma Read.readOn (h : Read ts node rest) (hrest : ReadOn node rest other last) :
    Read ts other last where
  suffix := hrest.suffix.trans h.suffix
  fewer := Nat.lt_of_le_of_lt hrest.suffix.length_le h.fewer
  depth := hrest.depth.trans h.depth

lemma ReadOn.trans {third : Node} (h : ReadOn node ts other rest)
    (hrest : ReadOn other rest third last) : ReadOn node ts third last where
  suffix := hrest.suffix.trans h.suffix
  depth := hrest.depth.trans h.depth

/-- One more operand: a `+` is a sign that is read, and makes the expression at most one deeper. -/
lemma readOn_binOp {op : ArithOp} {token : Token} {right : Node}
    (hplus : op = .add → token.isPlus = true) (hread : Read ts right rest) :
    ReadOn node (token :: ts) (.binOp op node right) rest where
  suffix := hread.suffix.trans (List.suffix_cons token ts)
  depth := by
    have hright := hread.depth
    have hpluses := pluses_cons_le token ts
    by_cases hop : op = .add
    · have hsign : pluses (token :: ts) = pluses ts + 1 := List.countP_cons_of_pos (hplus hop)
      have hle := staticDepth_binOp_le op node right
      omega
    · rw [staticDepth_binOp_of_ne hop]
      omega

lemma read_parseOr (ih : Reads py mode n)
    (h : parseOr py mode (n + 1) v d ts = some (node, rest)) : Read ts node rest := by
  rw [parseOr] at h
  split at h
  · cases h
  · obtain ⟨⟨first, behind⟩, hfirst, h⟩ := Option.bind_eq_some_iff.1 h
    obtain ⟨⟨others, last⟩, hothers, heq⟩ := Option.bind_eq_some_iff.1 h
    cases heq
    exact (ih.and hfirst).trans (ih.orRest hothers).suffix (staticDepth_joined_le ..)

lemma read_orRest (ih : Reads py mode n)
    (h : orRest py mode (n + 1) v d ts = some (nodes, rest)) : ReadEach ts nodes rest := by
  rw [orRest] at h
  split at h
  · cases h
    exact .nil ts
  · next behind haccept =>
    obtain ⟨⟨child, after⟩, hchild, h⟩ := Option.bind_eq_some_iff.1 h
    obtain ⟨⟨others, last⟩, hothers, heq⟩ := Option.bind_eq_some_iff.1 h
    cases heq
    exact .cons (accept_suffix py haccept) (ih.and hchild) (ih.orRest hothers)

lemma read_parseAnd (ih : Reads py mode n)
    (h : parseAnd py mode (n + 1) v d ts = some (node, rest)) : Read ts node rest := by
  rw [parseAnd] at h
  split at h
  · cases h
  · obtain ⟨⟨first, behind⟩, hfirst, h⟩ := Option.bind_eq_some_iff.1 h
    obtain ⟨⟨others, last⟩, hothers, heq⟩ := Option.bind_eq_some_iff.1 h
    cases heq
    exact (ih.not hfirst).trans (ih.andRest hothers).suffix (staticDepth_joined_le ..)

lemma read_andRest (ih : Reads py mode n)
    (h : andRest py mode (n + 1) v d ts = some (nodes, rest)) : ReadEach ts nodes rest := by
  rw [andRest] at h
  split at h
  · cases h
    exact .nil ts
  · next behind hnext =>
    obtain ⟨⟨child, after⟩, hchild, h⟩ := Option.bind_eq_some_iff.1 h
    obtain ⟨⟨others, last⟩, hothers, heq⟩ := Option.bind_eq_some_iff.1 h
    cases heq
    exact .cons (nextOperand_suffix py hnext) (ih.not hchild) (ih.andRest hothers)

lemma read_parseNot (ih : Reads py mode n)
    (h : parseNot py mode (n + 1) v d ts = some (node, rest)) : Read ts node rest := by
  rw [parseNot] at h
  split at h
  · next behind haccept =>
    obtain ⟨token, rfl, -⟩ := accept_eq_some py haccept
    obtain ⟨⟨child, last⟩, hchild, heq⟩ := Option.map_eq_some_iff.1 h
    cases heq
    exact ((ih.not hchild).cons token).trans (List.suffix_refl _) (Nat.zero_le _)
  · exact ih.comparison h

lemma read_parseComparison (ih : Reads py mode n)
    (h : parseComparison py mode (n + 1) v d ts = some (node, rest)) : Read ts node rest := by
  rw [parseComparison] at h
  obtain ⟨⟨left, behind⟩, hleft, h⟩ := Option.bind_eq_some_iff.1 h
  have hread := ih.additive hleft
  simp only at h
  split at h
  · cases h
    exact hread
  · next relation after hop =>
    obtain ⟨token, rfl⟩ := comparisonOf_eq_some hop
    obtain ⟨⟨right, last⟩, hright, h⟩ := Option.bind_eq_some_iff.1 h
    simp only at h
    split at h
    · cases h
    · cases h
      have hsuffix := (ih.additive hright).suffix.trans (List.suffix_cons token after)
      exact hread.trans hsuffix (Nat.zero_le _)

lemma read_parseAdditive (ih : Reads py mode n)
    (h : parseAdditive py mode (n + 1) v d ts = some (node, rest)) : Read ts node rest := by
  rw [parseAdditive] at h
  obtain ⟨⟨left, behind⟩, hleft, h⟩ := Option.bind_eq_some_iff.1 h
  exact (ih.multiplicative hleft).readOn (ih.additiveRest h)

lemma readOn_additiveRest (ih : Reads py mode n)
    (h : additiveRest py mode (n + 1) v d node ts = some (other, rest)) :
    ReadOn node ts other rest := by
  rw [additiveRest] at h
  split at h
  · cases h
    exact ⟨List.suffix_refl _, Nat.le_refl _⟩
  · next op behind hop =>
    obtain ⟨token, rfl, hplus⟩ := additiveOf_eq_some hop
    obtain ⟨⟨right, after⟩, hright, h⟩ := Option.bind_eq_some_iff.1 h
    simp only at h
    split at h
    · cases h
    · exact (readOn_binOp hplus (ih.multiplicative hright)).trans (ih.additiveRest h)

lemma read_parseMultiplicative (ih : Reads py mode n)
    (h : parseMultiplicative py mode (n + 1) v d ts = some (node, rest)) : Read ts node rest := by
  rw [parseMultiplicative] at h
  obtain ⟨⟨left, behind⟩, hleft, h⟩ := Option.bind_eq_some_iff.1 h
  exact (ih.atom hleft).readOn (ih.multiplicativeRest h)

lemma readOn_multiplicativeRest (ih : Reads py mode n)
    (h : multiplicativeRest py mode (n + 1) v d node ts = some (other, rest)) :
    ReadOn node ts other rest := by
  rw [multiplicativeRest] at h
  split at h
  · cases h
    exact ⟨List.suffix_refl _, Nat.le_refl _⟩
  · next op behind hop =>
    obtain ⟨⟨token, rfl⟩, hne⟩ := multiplicativeOf_eq_some hop
    obtain ⟨⟨right, after⟩, hright, h⟩ := Option.bind_eq_some_iff.1 h
    simp only at h
    split at h
    · cases h
    · exact (readOn_binOp (fun hadd => absurd hadd hne) (ih.atom hright)).trans
        (ih.multiplicativeRest h)

/-- What follows an opening parenthesis, if one is the next token. -/
def opened : List Token → Option (List Token)
  | [] => none
  | token :: rest => if token.text = "(" then some rest else none

lemma opened_eq_some (h : opened ts = some rest) : ∃ token, ts = token :: rest := by
  cases ts with
  | nil => cases h
  | cons token ts =>
    rw [opened] at h
    split at h
    · cases h
      exact ⟨token, rfl⟩
    · cases h

/-- `_parse_atom` of a token that is there. -/
lemma parseAtom_cons (token : Token) :
    parseAtom py mode (n + 1) v d (token :: ts)
      = if MAX_DEPTH < d + 1 then none
        else if token.text = "(" then
          (parseOr py mode n v (d + 1) ts).bind fun read =>
            (accept py ")" read.2).bind fun rest => some (read.1, rest)
        else
          match token.kind with
          | .string => some (.literal (.str (unquote token.text)), ts)
          | .fieldname => some (.fieldRef (fieldOf token.text), ts)
          | .number => (numberOf py token.text).map (.literal ·, ts)
          | .op =>
            if token.text = "-" then
              (parseAtom py mode n v (d + 1) ts).map fun read =>
                (.binOp .sub (.literal (.int 0)) read.1, read.2)
            else none
          | .word =>
            if mode = .search then searchWord py v token ts
            else
              match opened ts with
              | some rest => (parseArguments py mode n v (d + 1) rest).bind fun read =>
                if refusesArguments (py.lower token.text) read.1 then none
                else some (.funcCall (py.lower token.text) read.1, read.2)
              | none => some (.fieldRef token.text, ts) := by
  obtain ⟨kind, text⟩ := token
  rw [parseAtom.eq_def]
  simp only
  split
  · rfl
  · split
    · rfl
    · cases kind with
      | string => rfl
      | fieldname => rfl
      | number => rfl
      | op => rfl
      | word =>
        simp only
        split
        · rfl
        · cases ts with
          | nil => rfl
          | cons paren rest =>
            obtain ⟨kind, text⟩ := paren
            by_cases htext : text = "("
            · subst htext
              rfl
            · rw [opened, if_neg htext]
              split
              · next heq =>
                cases heq
                exact absurd rfl htext
              · rfl

lemma read_searchWord {token : Token} (h : searchWord py v token ts = some (node, rest)) :
    Read (token :: ts) node rest := by
  unfold searchWord at h
  split at h
  · split at h
    · next kind after =>
      split at h
      · split at h
        · cases h
        · next value behind =>
          obtain ⟨last, haccept, heq⟩ := Option.map_eq_some_iff.1 h
          cases heq
          have hsuffix : rest <:+ ⟨kind, "("⟩ :: value :: behind :=
            ((accept_suffix py haccept).trans (List.suffix_cons value behind)).trans
              (List.suffix_cons _ _)
          exact (Read.single rfl token _).trans hsuffix (Nat.le_refl _)
      · cases h
        exact .single rfl token _
    · cases h
      exact .single rfl token _
  · split at h
    · cases h
      exact .single rfl token _
    · cases h
      exact .single rfl token _

lemma read_parseAtom (ih : Reads py mode n)
    (h : parseAtom py mode (n + 1) v d ts = some (node, rest)) : Read ts node rest := by
  cases ts with
  | nil =>
    rw [parseAtom] at h
    cases h
  | cons token ts =>
    rw [parseAtom_cons] at h
    split at h
    · cases h
    · split at h
      · obtain ⟨⟨inner, behind⟩, hinner, h⟩ := Option.bind_eq_some_iff.1 h
        obtain ⟨last, haccept, heq⟩ := Option.bind_eq_some_iff.1 h
        cases heq
        exact ((ih.or hinner).cons token).trans (accept_suffix py haccept) (Nat.le_refl _)
      · split at h
        · cases h
          exact .single rfl token _
        · cases h
          exact .single rfl token _
        · obtain ⟨value, -, heq⟩ := Option.map_eq_some_iff.1 h
          cases heq
          exact .single rfl token _
        · split at h
          · obtain ⟨⟨inner, behind⟩, hinner, heq⟩ := Option.map_eq_some_iff.1 h
            cases heq
            exact ((ih.atom hinner).cons token).trans (List.suffix_refl _) (Nat.zero_le _)
          · cases h
        · split at h
          · exact read_searchWord h
          · split at h
            · next behind hopened =>
              obtain ⟨paren, rfl⟩ := opened_eq_some hopened
              obtain ⟨⟨args, last⟩, hargs, h⟩ := Option.bind_eq_some_iff.1 h
              simp only at h
              split at h
              · cases h
              · cases h
                have hsuffix := (ih.arguments hargs).suffix.trans (List.suffix_cons paren behind)
                exact (Read.single rfl token _).trans hsuffix (Nat.le_refl _)
            · cases h
              exact .single rfl token _

lemma read_parseArguments (ih : Reads py mode n)
    (h : parseArguments py mode (n + 1) v d ts = some (nodes, rest)) :
    ReadEach ts nodes rest := by
  rw [parseArguments] at h
  split at h
  · next behind haccept =>
    cases h
    exact ⟨accept_suffix py haccept, fun _ hn => by cases hn⟩
  · obtain ⟨⟨first, behind⟩, hfirst, h⟩ := Option.bind_eq_some_iff.1 h
    obtain ⟨⟨others, after⟩, hothers, h⟩ := Option.bind_eq_some_iff.1 h
    obtain ⟨last, haccept, heq⟩ := Option.bind_eq_some_iff.1 h
    cases heq
    have hread : ReadEach ts (first :: others) after :=
      .cons (List.suffix_refl ts) (ih.or hfirst) (ih.argumentsRest hothers)
    exact ⟨(accept_suffix py haccept).trans hread.suffix, hread.depth⟩

lemma read_argumentsRest (ih : Reads py mode n)
    (h : argumentsRest py mode (n + 1) v d ts = some (nodes, rest)) :
    ReadEach ts nodes rest := by
  rw [argumentsRest] at h
  split at h
  · cases h
    exact .nil ts
  · next behind haccept =>
    obtain ⟨⟨child, after⟩, hchild, h⟩ := Option.bind_eq_some_iff.1 h
    obtain ⟨⟨others, last⟩, hothers, heq⟩ := Option.bind_eq_some_iff.1 h
    cases heq
    exact .cons (accept_suffix py haccept) (ih.or hchild) (ih.argumentsRest hothers)

/-- What the functions of the parser read. -/
lemma reads (py : SplPython) (mode : Mode) (n : Nat) : Reads py mode n := by
  induction n with
  | zero =>
    constructor
    all_goals intros
    · next h => rw [parseOr] at h; cases h
    · next h => rw [orRest] at h; cases h
    · next h => rw [parseAnd] at h; cases h
    · next h => rw [andRest] at h; cases h
    · next h => rw [parseNot] at h; cases h
    · next h => rw [parseComparison] at h; cases h
    · next h => rw [parseAdditive] at h; cases h
    · next h => rw [additiveRest] at h; cases h
    · next h => rw [parseMultiplicative] at h; cases h
    · next h => rw [multiplicativeRest] at h; cases h
    · next h => rw [parseAtom] at h; cases h
    · next h => rw [parseArguments] at h; cases h
    · next h => rw [argumentsRest] at h; cases h
  | succ n ih =>
    exact ⟨read_parseOr ih, read_orRest ih, read_parseAnd ih, read_andRest ih, read_parseNot ih,
      read_parseComparison ih, read_parseAdditive ih, readOn_additiveRest ih,
      read_parseMultiplicative ih, readOn_multiplicativeRest ih, read_parseAtom ih,
      read_parseArguments ih, read_argumentsRest ih⟩

/-! ## The end of the parser -/

/-- With so many nested calls, one more makes no difference to the functions of the parser, where
    the calls are enough for the tokens. -/
structure Settled (py : SplPython) (mode : Mode) (n : Nat) : Prop where
  or : ∀ v d ts, 8 * ts.length + 8 ≤ n → parseOr py mode (n + 1) v d ts = parseOr py mode n v d ts
  orRest : ∀ v d ts, 8 * ts.length + 1 ≤ n →
    orRest py mode (n + 1) v d ts = orRest py mode n v d ts
  and : ∀ v d ts, 8 * ts.length + 7 ≤ n →
    parseAnd py mode (n + 1) v d ts = parseAnd py mode n v d ts
  andRest : ∀ v d ts, 8 * ts.length + 7 ≤ n →
    andRest py mode (n + 1) v d ts = andRest py mode n v d ts
  not : ∀ v d ts, 8 * ts.length + 6 ≤ n →
    parseNot py mode (n + 1) v d ts = parseNot py mode n v d ts
  comparison : ∀ v d ts, 8 * ts.length + 5 ≤ n →
    parseComparison py mode (n + 1) v d ts = parseComparison py mode n v d ts
  additive : ∀ v d ts, 8 * ts.length + 4 ≤ n →
    parseAdditive py mode (n + 1) v d ts = parseAdditive py mode n v d ts
  additiveRest : ∀ v d node ts, 8 * ts.length + 1 ≤ n →
    additiveRest py mode (n + 1) v d node ts = additiveRest py mode n v d node ts
  multiplicative : ∀ v d ts, 8 * ts.length + 3 ≤ n →
    parseMultiplicative py mode (n + 1) v d ts = parseMultiplicative py mode n v d ts
  multiplicativeRest : ∀ v d node ts, 8 * ts.length + 1 ≤ n →
    multiplicativeRest py mode (n + 1) v d node ts = multiplicativeRest py mode n v d node ts
  atom : ∀ v d ts, 8 * ts.length + 2 ≤ n →
    parseAtom py mode (n + 1) v d ts = parseAtom py mode n v d ts
  arguments : ∀ v d ts, 8 * ts.length + 9 ≤ n →
    parseArguments py mode (n + 1) v d ts = parseArguments py mode n v d ts
  argumentsRest : ∀ v d ts, 8 * ts.length + 1 ≤ n →
    argumentsRest py mode (n + 1) v d ts = argumentsRest py mode n v d ts

lemma bind_congr_of_some {α β : Type} {x y : Option α} {f g : α → Option β} (hxy : x = y)
    (hfg : ∀ a, y = some a → f a = g a) : (x >>= f) = (y >>= g) := by
  subst hxy
  cases x with
  | none => rfl
  | some a => exact hfg a rfl

lemma length_of_accept (h : accept py text ts = some rest) : ts.length = rest.length + 1 := by
  obtain ⟨token, rfl, -⟩ := accept_eq_some py h
  rfl

lemma settled_parseOr (ih : Settled py mode n) (v : Bool) (d : Nat) (ts : List Token)
    (h : 8 * ts.length + 8 ≤ n + 1) :
    parseOr py mode (n + 2) v d ts = parseOr py mode (n + 1) v d ts := by
  rw [parseOr, parseOr]
  split
  · rfl
  · refine bind_congr_of_some (ih.and v _ ts (by omega)) fun read hread => ?_
    have hfewer := ((reads py mode n).and hread).fewer
    exact bind_congr_of_some (ih.orRest v _ read.2 (by omega)) fun _ _ => rfl

lemma settled_orRest (ih : Settled py mode n) (v : Bool) (d : Nat) (ts : List Token)
    (h : 8 * ts.length + 1 ≤ n + 1) :
    orRest py mode (n + 2) v d ts = orRest py mode (n + 1) v d ts := by
  rw [orRest, orRest]
  split
  · rfl
  · next behind haccept =>
    have hlength := length_of_accept haccept
    refine bind_congr_of_some (ih.and v d behind (by omega)) fun read hread => ?_
    have hfewer := ((reads py mode n).and hread).fewer
    exact bind_congr_of_some (ih.orRest v d read.2 (by omega)) fun _ _ => rfl

lemma settled_parseAnd (ih : Settled py mode n) (v : Bool) (d : Nat) (ts : List Token)
    (h : 8 * ts.length + 7 ≤ n + 1) :
    parseAnd py mode (n + 2) v d ts = parseAnd py mode (n + 1) v d ts := by
  rw [parseAnd, parseAnd]
  split
  · rfl
  · refine bind_congr_of_some (ih.not v _ ts (by omega)) fun read hread => ?_
    have hfewer := ((reads py mode n).not hread).fewer
    exact bind_congr_of_some (ih.andRest v _ read.2 (by omega)) fun _ _ => rfl

lemma settled_andRest (ih : Settled py mode n) (v : Bool) (d : Nat) (ts : List Token)
    (h : 8 * ts.length + 7 ≤ n + 1) :
    andRest py mode (n + 2) v d ts = andRest py mode (n + 1) v d ts := by
  rw [andRest, andRest]
  split
  · rfl
  · next behind hnext =>
    have hlength := (nextOperand_suffix py hnext).length_le
    refine bind_congr_of_some (ih.not v d behind (by omega)) fun read hread => ?_
    have hfewer := ((reads py mode n).not hread).fewer
    exact bind_congr_of_some (ih.andRest v d read.2 (by omega)) fun _ _ => rfl

lemma settled_parseNot (ih : Settled py mode n) (v : Bool) (d : Nat) (ts : List Token)
    (h : 8 * ts.length + 6 ≤ n + 1) :
    parseNot py mode (n + 2) v d ts = parseNot py mode (n + 1) v d ts := by
  rw [parseNot, parseNot]
  split
  · next behind haccept =>
    have hlength := length_of_accept haccept
    rw [ih.not v d behind (by omega)]
  · exact ih.comparison v d ts (by omega)

lemma settled_parseComparison (ih : Settled py mode n) (v : Bool) (d : Nat) (ts : List Token)
    (h : 8 * ts.length + 5 ≤ n + 1) :
    parseComparison py mode (n + 2) v d ts = parseComparison py mode (n + 1) v d ts := by
  rw [parseComparison, parseComparison]
  refine bind_congr_of_some (ih.additive v d ts (by omega)) fun read hread => ?_
  have hfewer := ((reads py mode n).additive hread).fewer
  obtain ⟨left, rest⟩ := read
  simp only
  split
  · rfl
  · next relation after hop =>
    obtain ⟨token, rfl⟩ := comparisonOf_eq_some hop
    rw [List.length_cons] at hfewer
    exact bind_congr_of_some (ih.additive true d after (by omega)) fun _ _ => rfl

lemma settled_parseAdditive (ih : Settled py mode n) (v : Bool) (d : Nat) (ts : List Token)
    (h : 8 * ts.length + 4 ≤ n + 1) :
    parseAdditive py mode (n + 2) v d ts = parseAdditive py mode (n + 1) v d ts := by
  rw [parseAdditive, parseAdditive]
  refine bind_congr_of_some (ih.multiplicative v d ts (by omega)) fun read hread => ?_
  have hfewer := ((reads py mode n).multiplicative hread).fewer
  exact ih.additiveRest v d read.1 read.2 (by omega)

lemma settled_additiveRest (ih : Settled py mode n) (v : Bool) (d : Nat) (node : Node)
    (ts : List Token) (h : 8 * ts.length + 1 ≤ n + 1) :
    additiveRest py mode (n + 2) v d node ts = additiveRest py mode (n + 1) v d node ts := by
  rw [additiveRest, additiveRest]
  split
  · rfl
  · next op behind hop =>
    obtain ⟨token, rfl, -⟩ := additiveOf_eq_some hop
    rw [List.length_cons] at h
    refine bind_congr_of_some (ih.multiplicative v d behind (by omega)) fun read hread => ?_
    obtain ⟨right, rest⟩ := read
    have hfewer : rest.length < behind.length := ((reads py mode n).multiplicative hread).fewer
    simp only
    split
    · rfl
    · exact ih.additiveRest v d _ rest (by omega)

lemma settled_parseMultiplicative (ih : Settled py mode n) (v : Bool) (d : Nat) (ts : List Token)
    (h : 8 * ts.length + 3 ≤ n + 1) :
    parseMultiplicative py mode (n + 2) v d ts = parseMultiplicative py mode (n + 1) v d ts := by
  rw [parseMultiplicative, parseMultiplicative]
  refine bind_congr_of_some (ih.atom v d ts (by omega)) fun read hread => ?_
  have hfewer := ((reads py mode n).atom hread).fewer
  exact ih.multiplicativeRest v d read.1 read.2 (by omega)

lemma settled_multiplicativeRest (ih : Settled py mode n) (v : Bool) (d : Nat) (node : Node)
    (ts : List Token) (h : 8 * ts.length + 1 ≤ n + 1) :
    multiplicativeRest py mode (n + 2) v d node ts
      = multiplicativeRest py mode (n + 1) v d node ts := by
  rw [multiplicativeRest, multiplicativeRest]
  split
  · rfl
  · next op behind hop =>
    obtain ⟨⟨token, rfl⟩, -⟩ := multiplicativeOf_eq_some hop
    rw [List.length_cons] at h
    refine bind_congr_of_some (ih.atom v d behind (by omega)) fun read hread => ?_
    obtain ⟨right, rest⟩ := read
    have hfewer : rest.length < behind.length := ((reads py mode n).atom hread).fewer
    simp only
    split
    · rfl
    · exact ih.multiplicativeRest v d _ rest (by omega)

lemma settled_parseAtom (ih : Settled py mode n) (v : Bool) (d : Nat) (ts : List Token)
    (h : 8 * ts.length + 2 ≤ n + 1) :
    parseAtom py mode (n + 2) v d ts = parseAtom py mode (n + 1) v d ts := by
  cases ts with
  | nil => rw [parseAtom, parseAtom]
  | cons token ts =>
    rw [List.length_cons] at h
    rw [parseAtom_cons, parseAtom_cons, ih.or v _ ts (by omega), ih.atom v _ ts (by omega)]
    cases hopened : opened ts with
    | none => rfl
    | some behind =>
      obtain ⟨paren, rfl⟩ := opened_eq_some hopened
      rw [List.length_cons] at h
      simp only [ih.arguments v (d + 1) behind (by omega)]

lemma settled_parseArguments (ih : Settled py mode n) (v : Bool) (d : Nat) (ts : List Token)
    (h : 8 * ts.length + 9 ≤ n + 1) :
    parseArguments py mode (n + 2) v d ts = parseArguments py mode (n + 1) v d ts := by
  rw [parseArguments, parseArguments]
  split
  · rfl
  · refine bind_congr_of_some (ih.or v d ts (by omega)) fun read hread => ?_
    have hfewer := ((reads py mode n).or hread).fewer
    exact bind_congr_of_some (ih.argumentsRest v d read.2 (by omega)) fun _ _ => rfl

lemma settled_argumentsRest (ih : Settled py mode n) (v : Bool) (d : Nat) (ts : List Token)
    (h : 8 * ts.length + 1 ≤ n + 1) :
    argumentsRest py mode (n + 2) v d ts = argumentsRest py mode (n + 1) v d ts := by
  rw [argumentsRest, argumentsRest]
  split
  · rfl
  · next behind haccept =>
    have hlength := length_of_accept haccept
    refine bind_congr_of_some (ih.or v d behind (by omega)) fun read hread => ?_
    have hfewer := ((reads py mode n).or hread).fewer
    exact bind_congr_of_some (ih.argumentsRest v d read.2 (by omega)) fun _ _ => rfl

/-- One more nested call makes no difference where there are enough. -/
lemma settled (py : SplPython) (mode : Mode) (n : Nat) : Settled py mode n := by
  induction n with
  | zero =>
    constructor
    all_goals
      intros
      omega
  | succ n ih =>
    exact ⟨settled_parseOr ih, settled_orRest ih, settled_parseAnd ih, settled_andRest ih,
      settled_parseNot ih, settled_parseComparison ih, settled_parseAdditive ih,
      settled_additiveRest ih, settled_parseMultiplicative ih, settled_multiplicativeRest ih,
      settled_parseAtom ih, settled_parseArguments ih, settled_argumentsRest ih⟩

/-- The parser comes to its end with `parseFuel`: more nested calls change nothing. -/
lemma parseOr_of_parseFuel_le (py : SplPython) (mode : Mode) (v : Bool) (d : Nat) {m : Nat}
    (h : parseFuel ts ≤ m) : parseOr py mode m v d ts = parseOr py mode (parseFuel ts) v d ts := by
  induction m, h using Nat.le_induction with
  | base => rfl
  | succ m hm ih => rw [(settled py mode m).or v d ts hm, ih]

end Spl

end Splunk

end Mockdr
