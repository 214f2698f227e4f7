import Mockdr.Lib.Except
import Mockdr.Odata.FilterParser

/-!
# The grammar of an OData filter

What `_Parser` accepts, as a grammar of its own: comparisons, functions and lists joined by `and`,
these joined by `or`, and parentheses around them.

* `Derives`: the tokens of a node at a tier of the grammar, with so many levels of parentheses at
  most.
* `Reads`: a function of the parser reads what a tier derives, in front of anything that does not
  go on with it. `reads_atom`, `reads_binary` and `reads_or`: so they do.
* `parse_iff_derives`: the parser accepts what the grammar derives from end to end, and builds its
  node.
-/

namespace Mockdr

namespace Odata

namespace Filter

/-! ## The grammar -/

/-- The tiers of the grammar: what a conjunction makes, and what stands between conjunctions. -/
inductive Tier where
  | of (j : Junction)
  | atom
  deriving DecidableEq

/-- The tier of what a conjunction joins. -/
def Junction.operands : Junction → Tier
  | .or => .of .and
  | .and => .atom

/-- The token of a conjunction. -/
def Junction.token (j : Junction) : Token := ⟨.CONJ, j.name⟩

/-- The token of an operand: its text, and how it was written. -/
def Operand (tok : Token) (operand : String × LiteralKind) : Prop :=
  operand.1 = tok.text ∧ literalOf tok.kind = some operand.2

/-- The tokens of the members of an `in` list, and the clauses that they make. -/
inductive Members (field : String) : List Token → List ODataNode → Prop where
  | last {tok : Token} {operand : String × LiteralKind} (h : Operand tok operand) :
      Members field [tok] [comparisonOf field "eq" operand]
  | more {tok : Token} {operand : String × LiteralKind} {comma : String} {ts : List Token}
      {nodes : List ODataNode} (h : Operand tok operand) (hs : Members field ts nodes) :
      Members field (tok :: ⟨.COMMA, comma⟩ :: ts) (comparisonOf field "eq" operand :: nodes)

/-- The tokens of operands that each stand behind a conjunction. -/
def behind (j : Junction) (others : List (List Token × ODataNode)) : List Token :=
  others.flatMap fun p => j.token :: p.1

/-- The tokens of a node at a tier, with so many levels of parentheses at most. -/
inductive Derives (allowIn : Bool) : ℕ → Tier → List Token → ODataNode → Prop where
  | parens {n : ℕ} {ts : List Token} {node : ODataNode} (h : Derives allowIn n (.of .or) ts node) :
      Derives allowIn (n + 1) .atom (openParen :: ts ++ [closeParen]) node
  | call {n : ℕ} {name field comma : String} {tok : Token} {operand : String × LiteralKind}
      (h : Operand tok operand) :
      Derives allowIn n .atom [⟨.FUNC, name⟩, ⟨.WORD, field⟩, ⟨.COMMA, comma⟩, tok, closeParen]
        (comparisonOf field name operand)
  | comparison {n : ℕ} {field op : String} {tok : Token} {operand : String × LiteralKind}
      (hop : op ≠ "in") (h : Operand tok operand) :
      Derives allowIn n .atom [⟨.WORD, field⟩, ⟨.OP, op⟩, tok] (comparisonOf field op operand)
  | members {n : ℕ} {field : String} {ts : List Token} {nodes : List ODataNode}
      (hin : allowIn = true) (h : Members field ts nodes) :
      Derives allowIn n .atom (⟨.WORD, field⟩ :: ⟨.OP, "in"⟩ :: openParen :: ts ++ [closeParen])
        (joined .or nodes)
  | chain {n : ℕ} (j : Junction) {first : List Token × ODataNode}
      {others : List (List Token × ODataNode)}
      (h : ∀ p ∈ first :: others, Derives allowIn n j.operands p.1 p.2) :
      Derives allowIn n (.of j) (first.1 ++ behind j others)
        (joined j (first.2 :: others.map (·.2)))

/-! ## Derivations -/

section

variable {allowIn : Bool} {n : ℕ} {j : Junction} {ts us : List Token} {a b : ODataNode}

lemma Derives.single (h : Derives allowIn n j.operands ts a) : Derives allowIn n (.of j) ts a := by
  have hchain := @Derives.chain allowIn n j (ts, a) [] (by simpa using h)
  rwa [behind, List.flatMap_nil, List.append_nil] at hchain

lemma Derives.atom (h : Derives allowIn n .atom ts a) : Derives allowIn n (.of .or) ts a :=
  Derives.single (j := .or) (Derives.single (j := .and) h)

lemma Derives.pair (ha : Derives allowIn n j.operands ts a)
    (hb : Derives allowIn n j.operands us b) :
    Derives allowIn n (.of j) (ts ++ j.token :: us) (.group j [a, b]) := by
  have hchain := @Derives.chain allowIn n j (ts, a) [(us, b)] (by simp [ha, hb])
  rwa [behind, List.flatMap_cons, List.flatMap_nil, List.append_nil] at hchain

end

/-! ## One token -/

section

variable {py : FilterPython} {kind : TokenKind} {text field : String} {tok wanted : Token}
  {ts rest : List Token} {operand : String × LiteralKind} {nodes : List ODataNode}
  {node : ODataNode} {allowIn : Bool} {n : ℕ} {j : Junction}

lemma expect_eq_ok_iff :
    expect py kind ts = .ok (text, rest) ↔ ts = ⟨kind, text⟩ :: rest := by
  cases ts with
  | nil =>
    constructor
    · rintro ⟨⟩
    · rintro ⟨⟩
  | cons tok ts =>
    obtain ⟨k, t⟩ := tok
    show (if k ≠ kind then _ else _) = _ ↔ _
    by_cases hk : k = kind
    · subst hk
      rw [if_neg (not_not_intro rfl)]
      simp
    · rw [if_pos hk]
      simp [hk]

lemma expectExact_eq_ok_iff : expectExact py wanted ts = .ok rest ↔ ts = wanted :: rest := by
  cases ts with
  | nil =>
    constructor
    · rintro ⟨⟩
    · rintro ⟨⟩
  | cons tok ts =>
    show (if tok ≠ wanted then _ else _) = _ ↔ _
    by_cases hk : tok = wanted
    · subst hk
      rw [if_neg (not_not_intro rfl)]
      simp
    · rw [if_pos hk]
      simp [hk]

lemma operandOf_eq_ok_iff : operandOf py (some tok) = .ok operand ↔ Operand tok operand := by
  unfold operandOf Operand
  cases h : literalOf tok.kind with
  | none => simp [h]
  | some literal =>
    obtain ⟨value, l⟩ := operand
    simp [h, eq_comm]

lemma expectValue_eq_ok_iff :
    expectValue py ts = .ok (operand, rest) ↔ ∃ tok, ts = tok :: rest ∧ Operand tok operand := by
  rw [expectValue, map_eq_ok_iff]
  cases ts with
  | nil =>
    constructor
    · rintro ⟨_, ⟨⟩, _⟩
    · rintro ⟨_, ⟨⟩, _⟩
  | cons tok ts =>
    constructor
    · rintro ⟨operand', h, heq⟩
      obtain ⟨rfl, rfl⟩ := Prod.mk.inj heq
      exact ⟨tok, rfl, operandOf_eq_ok_iff.1 h⟩
    · rintro ⟨_, heq, h⟩
      obtain ⟨rfl, rfl⟩ := List.cons.inj heq
      exact ⟨operand, operandOf_eq_ok_iff.2 h, rfl⟩

/-! ## Lists -/

lemma parseMembers_cons (tok : Token) (ts : List Token) :
    parseMembers py field (tok :: ts) = (do
      let node := comparisonOf field "eq" (← operandOf py (some tok))
      match ts with
      | [] => .error "unexpected end of filter expression"
      | separator :: ts =>
        if separator = closeParen then .ok ([node], ts)
        else if separator.kind ≠ .COMMA then
          .error s!"expected ',' or ')' in the 'in' list, got {py.repr separator.text}"
        else (parseMembers py field ts).map fun (nodes, ts) => (node :: nodes, ts)) := by
  cases ts <;> rfl

lemma parseMembers_more {comma : String} (h : Operand tok operand) :
    parseMembers py field (tok :: ⟨.COMMA, comma⟩ :: ts) = (parseMembers py field ts).map
      fun (nodes, ts) => (comparisonOf field "eq" operand :: nodes, ts) := by
  rw [parseMembers_cons, operandOf_eq_ok_iff.2 h]
  rfl

/-- The loop of `_parse_in` reads the members of a list up to its end. -/
lemma parseMembers_eq_ok_iff :
    parseMembers py field ts = .ok (nodes, rest)
      ↔ ∃ used, ts = used ++ closeParen :: rest ∧ Members field used nodes := by
  constructor
  · intro h
    induction hn : ts.length using Nat.strongRecOn generalizing ts nodes with
    | ind n ih =>
      cases ts with
      | nil => cases h
      | cons tok ts =>
        rw [parseMembers_cons, bind_eq_ok_iff] at h
        obtain ⟨operand, hoperand, h⟩ := h
        have hop := operandOf_eq_ok_iff.1 hoperand
        cases ts with
        | nil => cases h
        | cons separator ts =>
          dsimp only at h
          split at h
          · rename_i hclose
            cases h
            exact ⟨[tok], by rw [hclose]; rfl, .last hop⟩
          · split at h
            · cases h
            · rename_i hcomma
              obtain ⟨⟨nodes', rest'⟩, htail, heq⟩ := map_eq_ok_iff.1 h
              cases heq
              have hlt : ts.length < n := by
                rw [← hn, List.length_cons, List.length_cons]
                omega
              obtain ⟨used, rfl, hmembers⟩ := ih _ hlt htail rfl
              obtain ⟨k, comma⟩ := separator
              obtain rfl : k = .COMMA := not_not.1 hcomma
              exact ⟨tok :: ⟨.COMMA, comma⟩ :: used, rfl, .more hop hmembers⟩
  · rintro ⟨used, rfl, hmembers⟩
    induction hmembers with
    | last hop =>
      rw [List.cons_append, parseMembers_cons, operandOf_eq_ok_iff.2 hop]
      rfl
    | @more tok operand comma ts nodes hop hs ih =>
      rw [List.cons_append, List.cons_append, parseMembers_more hop, ih]
      rfl

/-! ## The descent -/

/-- A function of the parser reads what `L` has, in front of whatever does not go on with it. -/
structure Reads (p : List Token → Parsed) (L : List Token → ODataNode → Prop)
    (follow : List Token → Prop) : Prop where
  sound : ∀ ts node rest, p ts = .ok (some node, rest) → ∃ used, ts = used ++ rest ∧ L used node
  complete : ∀ used node rest, L used node → follow rest →
    p (used ++ rest) = .ok (some node, rest)
  nothing : ∀ ts rest, p ts = .ok (none, rest) → ts = [] ∧ rest = []
  nil : p [] = .ok (none, [])

/-- What follows does not begin with a conjunction. -/
def NotBefore (j : Junction) (rest : List Token) : Prop := ∀ tok ∈ rest.head?, tok ≠ j.token

/-- What may stand behind the nodes of a tier. -/
def Tier.follow : Tier → List Token → Prop
  | .atom, _ => True
  | .of .and, rest => NotBefore .and rest
  | .of .or, rest => NotBefore .and rest ∧ NotBefore .or rest

lemma parseAtom_group {p : List Token → Parsed} :
    parseAtom py allowIn (some p) (openParen :: ts) = (do
      match ← p ts with
      | (none, _) => .error "empty parentheses in filter"
      | (some inner, ts) => .ok (some inner, ← expectExact py closeParen ts)) := rfl

lemma parseAtom_func {group : Option (List Token → Parsed)} {name : String} :
    parseAtom py allowIn group (⟨.FUNC, name⟩ :: ts) = (do
      let (field, ts) ← expect py .WORD ts
      let (_, ts) ← expect py .COMMA ts
      let (operand, ts) ← expectValue py ts
      let ts ← expectExact py closeParen ts
      .ok (some (comparisonOf field name operand), ts)) := rfl

lemma parseAtom_word {group : Option (List Token → Parsed)} :
    parseAtom py allowIn group (⟨.WORD, field⟩ :: ts) = (do
      let (op, ts) ← expect py .OP ts
      if op = "in" then parseIn py allowIn field ts
      else do
        let (operand, ts) ← expectValue py ts
        .ok (some (comparisonOf field op operand), ts)) := rfl

/-- Where there is a token, a node is read or something is raised. -/
lemma parseAtom_cons_ne {group : Option (List Token → Parsed)} :
    parseAtom py allowIn group (tok :: ts) ≠ .ok (none, rest) := by
  intro h
  unfold parseAtom at h
  dsimp only at h
  split at h
  · cases group with
    | none => cases h
    | some p =>
      dsimp only at h
      rw [bind_eq_ok_iff] at h
      obtain ⟨⟨inner, ts'⟩, -, h⟩ := h
      cases inner with
      | none => cases h
      | some inner =>
        obtain ⟨_, -, h⟩ := bind_eq_ok_iff.1 h
        cases h
  · split at h
    · simp only [bind_eq_ok_iff] at h
      obtain ⟨_, -, _, -, _, -, _, -, h⟩ := h
      cases h
    · split at h
      · rw [bind_eq_ok_iff] at h
        obtain ⟨⟨op, ts'⟩, -, h⟩ := h
        dsimp only at h
        split at h
        · rw [parseIn] at h
          split at h
          · cases h
          · simp only [bind_eq_ok_iff] at h
            obtain ⟨_, -, _, -, h⟩ := h
            cases h
        · obtain ⟨_, -, h⟩ := bind_eq_ok_iff.1 h
          cases h
      · cases h

/-- An atom is read from end to end: a parenthesis with what the parser makes of its content, a
    call, a comparison or a list. -/
lemma reads_atom {group : Option (List Token → Parsed)}
    (hgroup : ∀ m, n = m + 1 → ∃ p, group = some p ∧
      Reads p (Derives allowIn m (.of .or)) (Tier.follow (.of .or)))
    (hnone : n = 0 → group = none) :
    Reads (parseAtom py allowIn group) (Derives allowIn n .atom) (Tier.follow .atom) where
  sound ts node rest h := by
    cases ts with
    | nil => cases h
    | cons tok ts =>
      unfold parseAtom at h
      dsimp only at h
      split at h
      · rename_i htok
        subst htok
        cases n with
        | zero =>
          rw [hnone rfl] at h
          cases h
        | succ m =>
          obtain ⟨p, rfl, hp⟩ := hgroup m rfl
          dsimp only at h
          rw [bind_eq_ok_iff] at h
          obtain ⟨⟨inner, rest'⟩, hinner, h⟩ := h
          cases inner with
          | none => cases h
          | some inner =>
            rw [bind_eq_ok_iff] at h
            obtain ⟨rest'', hclose, h⟩ := h
            cases h
            obtain ⟨used, rfl, hused⟩ := hp.sound _ _ _ hinner
            rw [expectExact_eq_ok_iff.1 hclose]
            exact ⟨openParen :: used ++ [closeParen], by simp, .parens hused⟩
      · split at h
        · rename_i hfunc
          obtain ⟨k, name⟩ := tok
          obtain rfl : k = .FUNC := hfunc
          simp only [bind_eq_ok_iff] at h
          obtain ⟨⟨field, ts₁⟩, hfield, ⟨comma, ts₂⟩, hcomma, ⟨operand, ts₃⟩, hvalue, ts₄, hclose,
            h⟩ := h
          cases h
          obtain rfl := expect_eq_ok_iff.1 hfield
          obtain rfl := expect_eq_ok_iff.1 hcomma
          obtain ⟨tok, rfl, hop⟩ := expectValue_eq_ok_iff.1 hvalue
          obtain rfl := expectExact_eq_ok_iff.1 hclose
          exact ⟨_, rfl, .call hop⟩
        · split at h
          · rename_i hword
            obtain ⟨k, field⟩ := tok
            obtain rfl : k = .WORD := hword
            rw [bind_eq_ok_iff] at h
            obtain ⟨⟨op, ts₁⟩, hexpect, h⟩ := h
            obtain rfl := expect_eq_ok_iff.1 hexpect
            dsimp only at h
            split at h
            · rename_i hin
              obtain rfl : op = "in" := hin
              rw [parseIn] at h
              cases allowIn with
              | false => cases h
              | true =>
                rw [if_neg (by decide)] at h
                simp only [bind_eq_ok_iff] at h
                obtain ⟨ts₂, hopen, ⟨nodes, ts₃⟩, hmembers, h⟩ := h
                cases h
                obtain rfl := expectExact_eq_ok_iff.1 hopen
                obtain ⟨used, rfl, hused⟩ := parseMembers_eq_ok_iff.1 hmembers
                exact ⟨_ :: _ :: _ :: used ++ [closeParen], by simp, .members rfl hused⟩
            · rename_i hin
              rw [bind_eq_ok_iff] at h
              obtain ⟨⟨operand, ts₂⟩, hvalue, h⟩ := h
              cases h
              obtain ⟨tok, rfl, hop⟩ := expectValue_eq_ok_iff.1 hvalue
              exact ⟨_, rfl, .comparison hin hop⟩
          · cases h
  complete used node rest h _ := by
    cases h with
    | @parens m ts _ h =>
      obtain ⟨p, rfl, hp⟩ := hgroup m rfl
      have hread : p (ts ++ closeParen :: rest) = .ok (some node, closeParen :: rest) := by
        refine hp.complete _ _ _ h ⟨?_, ?_⟩ <;>
        · intro tok htok
          obtain rfl := Option.some.inj htok
          simp [closeParen, Junction.token]
      have hts : openParen :: ts ++ [closeParen] ++ rest
          = openParen :: (ts ++ closeParen :: rest) := by simp
      rw [hts, parseAtom_group, bind_eq_ok_iff]
      exact ⟨_, hread, bind_eq_ok_iff.2 ⟨rest, expectExact_eq_ok_iff.2 rfl, rfl⟩⟩
    | @call m name field comma tok operand hop =>
      show parseAtom py allowIn group (⟨.FUNC, name⟩ :: ⟨.WORD, field⟩ :: _) = _
      rw [parseAtom_func]
      simp only [bind_eq_ok_iff]
      exact ⟨(field, _), expect_eq_ok_iff.2 rfl, (comma, _), expect_eq_ok_iff.2 rfl, (operand, _),
        expectValue_eq_ok_iff.2 ⟨tok, rfl, hop⟩, rest, expectExact_eq_ok_iff.2 rfl, rfl⟩
    | @comparison m field op tok operand hin hop =>
      show parseAtom py allowIn group (⟨.WORD, field⟩ :: ⟨.OP, op⟩ :: _) = _
      rw [parseAtom_word, bind_eq_ok_iff]
      refine ⟨(op, _), expect_eq_ok_iff.2 rfl, (if_neg hin).trans ?_⟩
      exact bind_eq_ok_iff.2
        ⟨(operand, rest), expectValue_eq_ok_iff.2 ⟨tok, rfl, hop⟩, rfl⟩
    | @members m field ts nodes hin h =>
      subst hin
      have hts : ⟨.WORD, field⟩ :: ⟨.OP, "in"⟩ :: openParen :: ts ++ [closeParen] ++ rest
          = ⟨.WORD, field⟩ :: ⟨.OP, "in"⟩ :: openParen :: (ts ++ closeParen :: rest) := by simp
      rw [hts, parseAtom_word, bind_eq_ok_iff]
      refine ⟨("in", _), expect_eq_ok_iff.2 rfl, (if_pos rfl).trans ?_⟩
      rw [parseIn, if_neg (by decide)]
      simp only [bind_eq_ok_iff]
      exact ⟨_, expectExact_eq_ok_iff.2 rfl, (nodes, rest), parseMembers_eq_ok_iff.2 ⟨ts, rfl, h⟩,
        rfl⟩
  nothing ts rest h := by
    cases ts with
    | nil =>
      cases h
      exact ⟨rfl, rfl⟩
    | cons tok ts => exact absurd h parseAtom_cons_ne
  nil := rfl

lemma parseOperands_cons {operand : List Token → Parsed} (fuel : ℕ) :
    parseOperands py j operand (fuel + 1) (j.token :: ts) = (do
      match ← operand ts with
      | (none, _) => .error s!"{py.repr j.name} has no right-hand operand"
      | (some node, ts) =>
        (parseOperands py j operand fuel ts).map fun (nodes, ts) => (node :: nodes, ts)) :=
  if_pos rfl

lemma parseOperands_stop {operand : List Token → Parsed} (fuel : ℕ) (h : NotBefore j rest) :
    parseOperands py j operand fuel rest = .ok ([], rest) := by
  cases fuel with
  | zero => rfl
  | succ fuel =>
    cases rest with
    | nil => rfl
    | cons tok rest => exact if_neg (h tok rfl)

/-- The operands that a loop reads stand each behind a conjunction. -/
lemma sound_operands {operand : List Token → Parsed} {L : List Token → ODataNode → Prop}
    {follow : List Token → Prop} (hop : Reads operand L follow) {fuel : ℕ}
    (h : parseOperands py j operand fuel ts = .ok (nodes, rest)) :
    ∃ others : List (List Token × ODataNode), (∀ p ∈ others, L p.1 p.2)
      ∧ ts = behind j others ++ rest ∧ nodes = others.map (·.2) := by
  induction fuel generalizing ts nodes with
  | zero =>
    cases h
    exact ⟨[], by simp, rfl, rfl⟩
  | succ fuel ih =>
    cases ts with
    | nil =>
      cases h
      exact ⟨[], by simp, rfl, rfl⟩
    | cons tok ts =>
      by_cases htok : tok = j.token
      · subst htok
        rw [parseOperands_cons, bind_eq_ok_iff] at h
        obtain ⟨⟨node, ts'⟩, hnode, h⟩ := h
        cases node with
        | none => cases h
        | some node =>
          obtain ⟨⟨nodes', rest'⟩, htail, heq⟩ := map_eq_ok_iff.1 h
          cases heq
          obtain ⟨used, rfl, hused⟩ := hop.sound _ _ _ hnode
          obtain ⟨others, hothers, rfl, rfl⟩ := ih htail
          refine ⟨(used, node) :: others, ?_, by simp [behind], rfl⟩
          intro p hp
          rcases List.mem_cons.1 hp with rfl | hp
          · exact hused
          · exact hothers p hp
      · have hstop : NotBefore j (tok :: ts) := by
          intro t ht
          obtain rfl := Option.some.inj ht
          exact htok
        rw [parseOperands_stop _ hstop] at h
        cases h
        exact ⟨[], by simp, rfl, rfl⟩

lemma follow_behind {follow : List Token → Prop} (hrest : follow rest)
    (htoken : ∀ ts, follow (j.token :: ts)) (others : List (List Token × ODataNode)) :
    follow (behind j others ++ rest) := by
  cases others with
  | nil => exact hrest
  | cons p others => exact htoken _

/-- Operands that each stand behind a conjunction are read, with as many steps as there are tokens.
    -/
lemma complete_operands {operand : List Token → Parsed} {L : List Token → ODataNode → Prop}
    {follow : List Token → Prop} (hop : Reads operand L follow)
    (htoken : ∀ ts, follow (j.token :: ts)) (hrest : follow rest) (hstop : NotBefore j rest)
    {others : List (List Token × ODataNode)} (h : ∀ p ∈ others, L p.1 p.2) {fuel : ℕ}
    (hfuel : (behind j others).length ≤ fuel) :
    parseOperands py j operand fuel (behind j others ++ rest)
      = .ok (others.map (·.2), rest) := by
  induction others generalizing fuel with
  | nil => exact parseOperands_stop fuel hstop
  | cons p others ih =>
    have htokens : behind j (p :: others) ++ rest
        = j.token :: (p.1 ++ (behind j others ++ rest)) := by simp [behind]
    have hlen : (behind j (p :: others)).length = p.1.length + 1 + (behind j others).length := by
      simp [behind]
      omega
    obtain ⟨fuel, rfl⟩ : ∃ m, fuel = m + 1 := ⟨fuel - 1, by omega⟩
    rw [htokens, parseOperands_cons, bind_eq_ok_iff]
    refine ⟨_, hop.complete _ _ _ (h p List.mem_cons_self) (follow_behind hrest htoken others), ?_⟩
    dsimp only
    rw [ih (fun q hq => h q (List.mem_cons_of_mem _ hq)) (by omega)]
    rfl

/-- A tier is read if the tier below it is, and nothing goes on with an operand that can stand
    behind one. -/
lemma reads_binary {operand : List Token → Parsed}
    (hop : Reads operand (Derives allowIn n j.operands) j.operands.follow)
    (htoken : ∀ ts, j.operands.follow (j.token :: ts)) :
    Reads (parseBinary py j operand) (Derives allowIn n (.of j))
      (fun rest => j.operands.follow rest ∧ NotBefore j rest) where
  sound ts node rest h := by
    rw [parseBinary, bind_eq_ok_iff] at h
    obtain ⟨⟨first, ts₁⟩, hfirst, h⟩ := h
    rw [bind_eq_ok_iff] at h
    obtain ⟨⟨others, ts₂⟩, hothers, h⟩ := h
    cases first with
    | none =>
      obtain ⟨rfl, rfl⟩ := hop.nothing _ _ hfirst
      cases hothers
      cases h
    | some first =>
      cases h
      obtain ⟨used, rfl, hused⟩ := hop.sound _ _ _ hfirst
      obtain ⟨parts, hparts, rfl, rfl⟩ := sound_operands hop hothers
      refine ⟨used ++ behind j parts, by simp,
        @Derives.chain allowIn n j (used, first) parts ?_⟩
      intro p hp
      rcases List.mem_cons.1 hp with rfl | hp
      · exact hused
      · exact hparts p hp
  complete used node rest h hfollow := by
    cases h with
    | @chain _ _ first others h =>
      rw [List.append_assoc, parseBinary, bind_eq_ok_iff]
      refine ⟨_, hop.complete _ _ _ (h first List.mem_cons_self)
        (follow_behind hfollow.1 htoken others),
        bind_eq_ok_iff.2 ⟨(others.map (·.2), rest), ?_, rfl⟩⟩
      exact complete_operands hop htoken hfollow.1 hfollow.2
        (fun p hp => h p (List.mem_cons_of_mem _ hp)) (by simp)
  nothing ts rest h := by
    rw [parseBinary, bind_eq_ok_iff] at h
    obtain ⟨⟨first, ts₁⟩, hfirst, h⟩ := h
    rw [bind_eq_ok_iff] at h
    obtain ⟨⟨others, ts₂⟩, hothers, h⟩ := h
    cases first with
    | none =>
      obtain ⟨rfl, rfl⟩ := hop.nothing _ _ hfirst
      cases hothers
      cases h
      exact ⟨rfl, rfl⟩
    | some first => cases h
  nil := by
    rw [parseBinary, hop.nil]
    rfl

/-- `or` over `and` over atoms is read if the atoms are. -/
lemma reads_tiers {atom : List Token → Parsed}
    (hatom : Reads atom (Derives allowIn n .atom) (Tier.follow .atom)) :
    Reads (parseBinary py .or (parseBinary py .and atom)) (Derives allowIn n (.of .or))
      (Tier.follow (.of .or)) := by
  have hand : Reads (parseBinary py .and atom) (Derives allowIn n (.of .and))
      (fun rest => Tier.follow .atom rest ∧ NotBefore .and rest) :=
    reads_binary (j := .and) hatom fun _ => trivial
  have hand' : Reads (parseBinary py .and atom) (Derives allowIn n (.of .and))
      (Tier.follow (.of .and)) :=
    ⟨hand.sound, fun used node rest h hrest => hand.complete used node rest h ⟨trivial, hrest⟩,
      hand.nothing, hand.nil⟩
  refine reads_binary (j := .or) hand' fun ts tok htok => ?_
  obtain rfl := Option.some.inj htok
  decide

/-- `_parse_or` reads expressions with as many levels of parentheses as it is given. -/
lemma reads_or : Reads (parseOr py allowIn n) (Derives allowIn n (.of .or))
    (Tier.follow (.of .or)) := by
  induction n with
  | zero =>
    exact reads_tiers (reads_atom (fun m hm => absurd hm (Nat.succ_ne_zero m).symm) fun _ => rfl)
  | succ n ih =>
    refine reads_tiers (reads_atom ?_ fun h => absurd h (Nat.succ_ne_zero n))
    intro m hm
    obtain rfl := Nat.succ.inj hm
    exact ⟨_, rfl, ih⟩

lemma parse_eq_ok_iff {parsed : Option ODataNode} :
    parse py allowIn ts = .ok parsed ↔ parseOr py allowIn MAX_DEPTH ts = .ok (parsed, []) := by
  rw [parse, bind_eq_ok_iff]
  constructor
  · rintro ⟨⟨node, rest⟩, hread, h⟩
    dsimp only at h
    by_cases hrest : rest = []
    · subst hrest
      cases h
      exact hread
    · exact absurd ((if_pos hrest).symm.trans h) nofun
  · intro h
    exact ⟨_, h, rfl⟩

lemma parse_of_derives (h : Derives allowIn MAX_DEPTH (.of .or) ts node) :
    parse py allowIn ts = .ok (some node) := by
  have hread := (@reads_or py allowIn MAX_DEPTH).complete ts node [] h ⟨nofun, nofun⟩
  rw [List.append_nil] at hread
  exact parse_eq_ok_iff.2 hread

/-- The parser accepts what the grammar derives from end to end, and builds the node that it
    derives. -/
lemma parse_iff_derives :
    parse py allowIn ts = .ok (some node) ↔ Derives allowIn MAX_DEPTH (.of .or) ts node := by
  refine ⟨fun h => ?_, parse_of_derives⟩
  obtain ⟨used, rfl, hused⟩ := reads_or.sound _ _ _ (parse_eq_ok_iff.1 h)
  rwa [List.append_nil]

end

end Filter

end Odata

end Mockdr
