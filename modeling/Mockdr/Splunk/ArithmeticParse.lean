import Mathlib
import Mockdr.Splunk.Arithmetic
import Mockdr.Splunk.SplBounded

/-!
# How arithmetic expressions are parsed

* `Yields`: what a function of the parser comes to with enough nested calls.
* `Parses`: what the parser makes of the tokens of a factor, a product or a sum that it reads,
  whatever stands behind them. `parses`: it reads one that `Fits`.
* `Sticks`: what it makes of one with a minus that is read as the sign of a number, with an operator
  that the mode does not have, or with too many parentheses. `sticks`: it raises, or goes on to
  where the rest of the tokens is refused.
* `parse_iff_apart`: a text is parsed as its tree exactly if no minus stands directly in front of a
  digit, and white space changes nothing else.
-/

namespace Mockdr

namespace Splunk

namespace Spl

/-! ## Enough nested calls -/

/-- What a function of the parser comes to with enough nested calls. -/
def Yields {α : Type} (f : ℕ → α) (x : α) : Prop := ∃ least, ∀ n, least ≤ n → f n = x

section

variable {α β : Type} {f g : ℕ → α} {x y : α}

lemma Yields.of_succ (h : Yields (fun n => f (n + 1)) x) : Yields f x := by
  obtain ⟨least, h⟩ := h
  refine ⟨least + 1, fun n hn => ?_⟩
  obtain ⟨m, rfl⟩ := Nat.exists_eq_add_of_le' hn
  exact h (m + least) (Nat.le_add_left least m)

lemma yields_const (x : α) : Yields (fun _ => x) x := ⟨0, fun _ _ => rfl⟩

lemma Yields.bind {f : ℕ → Option α} {g : ℕ → α → Option β} {x : α} {y : Option β}
    (hf : Yields f (some x)) (hg : Yields (fun n => g n x) y) :
    Yields (fun n => f n >>= g n) y := by
  obtain ⟨least, hf⟩ := hf
  obtain ⟨least', hg⟩ := hg
  refine ⟨max least least', fun n hn => ?_⟩
  show f n >>= g n = y
  rw [hf n (le_trans (le_max_left _ _) hn)]
  exact hg n (le_trans (le_max_right _ _) hn)

lemma Yields.bind_none {f : ℕ → Option α} {g : ℕ → α → Option β} (hf : Yields f none) :
    Yields (fun n => f n >>= g n) none := by
  obtain ⟨least, hf⟩ := hf
  refine ⟨least, fun n hn => ?_⟩
  show f n >>= g n = none
  rw [hf n hn]
  rfl

end

variable {py : ArithPython} {mode : Mode} {v : Bool} {d : ℕ} {ts rest : List Token} {node : Node}
  {level : Level}

/-! ## Tokens -/

lemma upper_cons {c : Char} (hc : py.upperChar c = [c]) (cs : List Char) :
    ∃ ds, py.upper (String.ofList (c :: cs)) = String.ofList (c :: ds) := by
  refine ⟨cs.flatMap py.upperChar, ?_⟩
  rw [py.upper_eq, String.toList_ofList, List.flatMap_cons, hc]
  rfl

lemma upper_ne {c : Char} (hc : py.upperChar c = [c]) (cs : List Char) {d : Char} (ds : List Char)
    (hne : c ≠ d) : py.upper (String.ofList (c :: cs)) ≠ String.ofList (d :: ds) := by
  obtain ⟨es, hes⟩ := upper_cons hc cs
  rw [hes]
  intro h
  exact hne (List.cons.inj (String.ofList_injective h)).1

/-- No function is called: what follows does not begin with a parenthesis. -/
def NotOpen (ts : List Token) : Prop := ∀ token ∈ ts.head?, token.text ≠ "("

/-- What follows is no part of an expression. -/
structure Ends (py : ArithPython) (mode : Mode) (ts : List Token) : Prop where
  notOpen : NotOpen ts
  additive : additiveOf ts = none
  multiplicative : multiplicativeOf mode ts = none
  comparison : comparisonOf ts = none
  junction : accept py.toSplPython "AND" ts = none ∧ accept py.toSplPython "OR" ts = none

/-- What follows is no part of an expression and does not close it. -/
structure Jams (py : ArithPython) (mode : Mode) (ts : List Token) : Prop extends
    Ends py mode ts where
  unclosed : accept py.toSplPython ")" ts = none
  ne_nil : ts ≠ []

/-- What comes out of a function of the parser that gets stuck: nothing, or what the rest of the
    tokens can only be refused behind. -/
def Stuck (py : ArithPython) (mode : Mode) (x : Option (Node × List Token)) : Prop :=
  ∀ node ts, x = some (node, ts) → Jams py mode ts

lemma accept_eq_none {text : String} {token : Token} (h : py.upper token.text ≠ text) :
    accept py.toSplPython text (token :: ts) = none := if_neg h

lemma ends_nil : Ends py mode [] := ⟨nofun, rfl, rfl, rfl, rfl, rfl⟩

lemma opToken_upper {c : Char} (hc : c ∈ OP_CHARS) :
    py.upper (Arith.opToken c).text = String.ofList [c] := by
  have hall : OP_CHARS.all fun c => decide (c.toNat < 128) && decide (c.toUpper = c) := by decide
  have hchar := List.all_eq_true.1 hall c hc
  simp only [Bool.and_eq_true, decide_eq_true_eq] at hchar
  rw [Arith.opToken, py.upper_eq, String.toList_ofList, List.flatMap_cons, List.flatMap_nil,
    List.append_nil, py.upperChar_ascii c hchar.1, hchar.2]

lemma ends_close : Ends py mode (Arith.opToken ')' :: rest) := by
  have hupper : py.upper (Arith.opToken ')').text = String.ofList [')'] := opToken_upper (by decide)
  refine ⟨?_, rfl, ?_, rfl, accept_eq_none ?_, accept_eq_none ?_⟩
  · intro token htoken
    obtain rfl := Option.some.inj htoken
    decide
  · rw [multiplicativeOf]
    split <;> rfl
  · rw [hupper]
    decide
  · rw [hupper]
    decide

lemma accept_close : accept py.toSplPython ")" (Arith.opToken ')' :: rest) = some rest :=
  if_pos (opToken_upper (by decide))

lemma jams_number {token : Token} (hkind : token.kind = .number)
    (hsign : token.text.toList.head? = some '-') : Jams py mode (token :: ts) := by
  obtain ⟨kind, text⟩ := token
  obtain rfl : kind = .number := hkind
  obtain ⟨cs, rfl⟩ : ∃ cs, text = String.ofList ('-' :: cs) := by
    obtain ⟨cs, hcs⟩ := List.head?_eq_some_iff.1 hsign
    exact ⟨cs, by rw [← hcs, String.ofList_toList]⟩
  have hminus : py.upperChar '-' = ['-'] := py.upperChar_ascii '-' (by decide)
  refine ⟨⟨?_, rfl, ?_, rfl, accept_eq_none ?_, accept_eq_none ?_⟩, accept_eq_none ?_,
    List.cons_ne_nil _ _⟩
  · intro token htoken h
    obtain rfl := Option.some.inj htoken
    have hlist : '-' :: cs = ['('] := String.ofList_injective h
    exact absurd (List.cons.inj hlist).1 (by decide)
  · rw [multiplicativeOf]
    exact if_neg fun h => by cases h.1
  · exact upper_ne hminus cs ['N', 'D'] (by decide)
  · exact upper_ne hminus cs ['R'] (by decide)
  · exact upper_ne hminus cs [] (by decide)

/-- `*`, `/` and `%` are refused where they are not offered. -/
lemma jams_times (hmode : mode ≠ .eval) (op : TimesOp) :
    Jams py mode (Arith.opToken op.char :: ts) := by
  have hupper : py.upper (Arith.opToken op.char).text = String.ofList [op.char] :=
    opToken_upper (by cases op <;> decide)
  refine ⟨⟨?_, ?_, ?_, ?_, accept_eq_none ?_, accept_eq_none ?_⟩, accept_eq_none ?_,
    List.cons_ne_nil _ _⟩
  · intro token htoken
    obtain rfl := Option.some.inj htoken
    cases op <;> decide
  · cases op <;> rfl
  · rw [multiplicativeOf]
    exact if_neg fun h => hmode h.2
  · cases op <;> rfl
  all_goals
    rw [hupper]
    cases op <;> decide

lemma notOpen_op {c : Char} (hc : c ≠ '(') : NotOpen (Arith.opToken c :: ts) := by
  intro token htoken h
  obtain rfl := Option.some.inj htoken
  have hlist : [c] = ['('] := String.ofList_injective h
  exact hc (List.cons.inj hlist).1

lemma Atom.token_text_ne (a : Atom py) : a.token.text ≠ "(" := by
  intro h
  have hrender : a.render = ['('] := String.ofList_injective h
  cases a with
  | field name hne hword hfirst hkeyword =>
    rw [Atom.render] at hrender
    subst hrender
    exact absurd hword (by decide)
  | quoted name hplain => exact absurd (List.cons.inj hrender).1 (by decide)
  | number negative digits decimals value hne hdigits hdecimals hvalue =>
    have hparen : py.isDigit '(' = !negative ∧ '(' ≠ '-' := by
      obtain ⟨c, cs, hc, -, -, -, hdigit⟩ :=
        numeral_head negative decimals hne hdigits
      rw [Atom.render, hc] at hrender
      obtain rfl := (List.cons.inj hrender).1
      exact ⟨hdigit, by decide⟩
    rw [py.isDigit_ascii '(' (by decide)] at hparen
    cases negative with
    | false => exact absurd hparen.1 (by decide)
    | true => exact absurd (List.cons.inj hrender).1 (by decide)

/-- A field or a number is no `NOT`. -/
lemma Atom.upper_ne (a : Atom py) : py.upper a.token.text ≠ "NOT" := by
  have hnot : ∀ {c : Char} (cs : List Char), py.upperChar c = [c] → c ≠ 'N' →
      py.upper (String.ofList (c :: cs)) ≠ "NOT" :=
    fun cs hc hne => Spl.upper_ne hc cs ['O', 'T'] hne
  cases a with
  | field name hne hword hfirst hkeyword =>
    intro h
    rw [Atom.token, Atom.render] at h
    rw [h] at hkeyword
    exact hkeyword (by decide)
  | quoted name hplain => exact hnot _ (py.upperChar_ascii '\'' (by decide)) (by decide)
  | number negative digits decimals value hne hdigits hdecimals hvalue =>
    cases negative with
    | true => exact hnot _ (py.upperChar_ascii '-' (by decide)) (by decide)
    | false =>
      obtain ⟨c, digits, rfl⟩ := List.exists_cons_of_ne_nil hne
      have hc := List.all_eq_true.1 hdigits c List.mem_cons_self
      exact hnot _ (py.upperChar_digit c hc) (ne_of_isDigit hc (by decide) (by decide))

namespace Arith

/-- An expression does not begin with `NOT`. -/
lemma accept_not (e : Arith py level) : accept py.toSplPython "NOT" (e.tokens ++ rest) = none := by
  induction e generalizing rest with
  | atom a => exact accept_eq_none a.upper_ne
  | group before e after _ =>
    refine accept_eq_none ?_
    rw [opToken_upper (by decide)]
    decide
  | factor e ih => exact ih
  | times l before op after r ih _ =>
    rw [tokens, List.append_assoc]
    exact ih
  | product e ih => exact ih
  | plus l before op after r ih _ =>
    rw [tokens, List.append_assoc]
    exact ih

/-- What an expression means is a number, as far as can be seen, or a field. -/
lemma staticType_tree (e : Arith py level) :
    staticType e.tree = .num ∨ staticType e.tree = .unknown := by
  induction e with
  | atom a =>
    cases a with
    | field name hne hword hfirst hkeyword => exact .inr rfl
    | quoted name hplain => exact .inr rfl
    | number negative digits decimals value hne hdigits hdecimals hvalue =>
      refine .inl ?_
      rw [numberOf] at hvalue
      split at hvalue
      · obtain ⟨x, -, rfl⟩ := Option.map_eq_some_iff.1 hvalue
        rfl
      · obtain ⟨n, -, rfl⟩ := Option.map_eq_some_iff.1 hvalue
        rfl
  | group before e after ih => exact ih
  | factor e ih => exact ih
  | times l before op after r _ _ => cases op <;> exact .inl rfl
  | product e ih => exact ih
  | plus l before op after r ihl ihr =>
    refine .inl ?_
    cases op with
    | sub => rfl
    | add =>
      have hside : ∀ {node : Node}, staticType node = .num ∨ staticType node = .unknown →
          staticType node ≠ .str := by
        rintro node (h | h) <;> rw [h] <;> decide
      rw [tree, PlusOp.op, staticType]
      exact if_neg fun h => h.elim (hside ihl) (hside ihr)

lemma refusesBinop_eq_false {level' : Level} {op : ArithOp} (hop : op ≠ .concat)
    (l : Arith py level) (r : Arith py level') : refusesBinop op l.tree r.tree = false := by
  cases op with
  | concat => exact absurd rfl hop
  | _ =>
    rcases l.staticType_tree with hl | hl <;> rcases r.staticType_tree with hr | hr <;>
      rw [refusesBinop, hl, hr] <;> decide

end Arith

/-! ## Calls of the parser -/

lemma nextOperand_eq_none (hmode : mode ≠ .search)
    (h : accept py.toSplPython "AND" ts = none) :
    nextOperand py.toSplPython mode ts = none := by
  unfold nextOperand
  rw [h]
  cases ts with
  | nil => rfl
  | cons token ts => exact if_neg fun h => hmode h.1

/-- Between an expression and its sums stand the operators of conditions, which an arithmetic
    expression does not have. -/
lemma yields_parseOr (hmode : mode ≠ .search) {x : Option (Node × List Token)}
    (hdepth : d + 2 ≤ MAX_DEPTH)
    (hnot : accept py.toSplPython "NOT" ts = none)
    (hends : ∀ node behind, x = some (node, behind) → Ends py mode behind)
    (h : Yields (fun n => parseAdditive py.toSplPython mode n v (d + 2) ts) x) :
    Yields (fun n => parseOr py.toSplPython mode n v d ts) x := by
  have hcomparison : Yields (fun n => parseComparison py.toSplPython mode n v (d + 2) ts) x := by
    refine .of_succ ?_
    simp only [parseComparison]
    cases x with
    | none => exact .bind_none h
    | some read =>
      refine .bind h ?_
      simp only [(hends _ _ rfl).comparison]
      exact yields_const _
  have hnots : Yields (fun n => parseNot py.toSplPython mode n v (d + 2) ts) x := by
    refine .of_succ ?_
    simp only [parseNot, hnot]
    exact hcomparison
  have hand : Yields (fun n => parseAnd py.toSplPython mode n v (d + 1) ts) x := by
    refine .of_succ ?_
    simp only [parseAnd, if_neg (Nat.not_lt.2 hdepth)]
    cases x with
    | none => exact .bind_none hnots
    | some read =>
      refine .bind hnots (.of_succ ?_)
      simp only [andRest, nextOperand_eq_none hmode (hends _ _ rfl).junction.1]
      exact yields_const _
  refine .of_succ ?_
  simp only [parseOr, if_neg (Nat.not_lt.2 (Nat.le_of_succ_le hdepth))]
  cases x with
  | none => exact .bind_none hand
  | some read =>
    refine .bind hand (.of_succ ?_)
    simp only [orRest, (hends _ _ rfl).junction.2]
    exact yields_const _

lemma yields_parseOr_none (hdepth : MAX_DEPTH < d + 2) :
    Yields (fun n => parseOr py.toSplPython mode n v d ts) none := by
  have hand : Yields (fun n => parseAnd py.toSplPython mode n v (d + 1) ts) none := by
    refine .of_succ ?_
    simp only [parseAnd, if_pos hdepth]
    exact yields_const _
  refine .of_succ ?_
  simp only [parseOr]
  split
  · exact yields_const _
  · exact .bind_none hand

lemma yields_multiplicativeRest_end (h : multiplicativeOf mode ts = none) :
    Yields (fun n => multiplicativeRest py.toSplPython mode n v d node ts) (some (node, ts)) := by
  refine .of_succ ?_
  simp only [multiplicativeRest, h]
  exact yields_const _

lemma yields_additiveRest_end (h : additiveOf ts = none) :
    Yields (fun n => additiveRest py.toSplPython mode n v d node ts) (some (node, ts)) := by
  refine .of_succ ?_
  simp only [additiveRest, h]
  exact yields_const _

/-- A field or a number is read. -/
lemma yields_parseAtom (hmode : mode ≠ .search) (a : Atom py) (hdepth : d + 1 ≤ MAX_DEPTH)
    (hrest : NotOpen rest) :
    Yields (fun n => parseAtom py.toSplPython mode n v d (a.token :: rest))
        (some (a.node, rest)) := by
  refine .of_succ ?_
  simp only [parseAtom_cons, if_neg (Nat.not_lt.2 hdepth), if_neg a.token_text_ne]
  cases a with
  | field name hne hword hfirst hkeyword =>
    have hopened : opened rest = none := by
      cases rest with
      | nil => rfl
      | cons token rest => exact if_neg (hrest token rfl)
    simp only [Atom.token, if_neg hmode, hopened]
    exact yields_const _
  | quoted name hplain => exact yields_const _
  | number negative digits decimals value hne hdigits hdecimals hvalue =>
    have hnumber : numberOf py.toSplPython
        (Atom.number negative digits decimals value hne hdigits hdecimals hvalue).token.text
          = some value := hvalue
    simp only [Atom.token] at hnumber ⊢
    simp only [hnumber]
    exact yields_const _

namespace Arith

/-- An expression that is read below so many open calls: no minus stands directly in front of a
    digit, the mode has its operators, and its parentheses are not nested too deep. -/
structure Fits (mode : Mode) (d : ℕ) (e : Arith py level) : Prop where
  apart : e.Apart
  offered : e.Offered mode
  depth : 3 * e.nesting + d + 1 ≤ MAX_DEPTH

lemma fits_group {before after : Gap} {e : Arith py .sum} :
    (group before e after).Fits mode d ↔ e.Fits mode (d + 3) := by
  have hdepth : 3 * (group before e after).nesting + d + 1 = 3 * e.nesting + (d + 3) + 1 := by
    rw [nesting]
    omega
  exact ⟨fun ⟨hapart, hoffered, h⟩ => ⟨hapart, hoffered, hdepth ▸ h⟩,
    fun ⟨hapart, hoffered, h⟩ => ⟨hapart, hoffered, hdepth.symm ▸ h⟩⟩

lemma fits_factor {e : Arith py .factor} : (factor e).Fits mode d ↔ e.Fits mode d :=
  ⟨fun h => ⟨h.apart, h.offered, h.depth⟩, fun h => ⟨h.apart, h.offered, h.depth⟩⟩

lemma fits_product {e : Arith py .product} : (product e).Fits mode d ↔ e.Fits mode d :=
  ⟨fun h => ⟨h.apart, h.offered, h.depth⟩, fun h => ⟨h.apart, h.offered, h.depth⟩⟩

lemma depth_max {a b : ℕ} : 3 * max a b + d + 1 ≤ MAX_DEPTH
    ↔ 3 * a + d + 1 ≤ MAX_DEPTH ∧ 3 * b + d + 1 ≤ MAX_DEPTH := by
  rw [MAX_DEPTH]
  omega

lemma fits_times {l : Arith py .product} {before after : Gap}
    {op : TimesOp} {r : Arith py .factor} :
    (times l before op after r).Fits mode d ↔ mode = .eval ∧ l.Fits mode d ∧ r.Fits mode d := by
  constructor
  · rintro ⟨⟨hl, hr⟩, ⟨hmode, hlo, hro⟩, hdepth⟩
    obtain ⟨hld, hrd⟩ := depth_max.1 hdepth
    exact ⟨hmode, ⟨hl, hlo, hld⟩, ⟨hr, hro, hrd⟩⟩
  · rintro ⟨hmode, hl, hr⟩
    exact ⟨⟨hl.apart, hr.apart⟩, ⟨hmode, hl.offered, hr.offered⟩, depth_max.2 ⟨hl.depth, hr.depth⟩⟩

lemma fits_plus {l : Arith py .sum} {before after : Gap} {op : PlusOp} {r : Arith py .product} :
    (plus l before op after r).Fits mode d
      ↔ l.Fits mode d ∧ r.Fits mode d ∧ glued op after r = false := by
  constructor
  · rintro ⟨⟨hl, hr, hglued⟩, ⟨hlo, hro⟩, hdepth⟩
    obtain ⟨hld, hrd⟩ := depth_max.1 hdepth
    exact ⟨⟨hl, hlo, hld⟩, ⟨hr, hro, hrd⟩, hglued⟩
  · rintro ⟨hl, hr, hglued⟩
    exact ⟨⟨hl.apart, hr.apart, hglued⟩, ⟨hl.offered, hr.offered⟩, depth_max.2 ⟨hl.depth, hr.depth⟩⟩

/-- What the parser makes of an expression that it reads, whatever stands behind it. -/
def Parses (mode : Mode) (v : Bool) (d : ℕ) : {level : Level} → Arith py level → Prop
  | .factor, e => ∀ rest, NotOpen rest →
    Yields (fun n => parseAtom py.toSplPython mode n v d (e.tokens ++ rest)) (some (e.tree, rest))
  | .product, e => ∀ rest x, NotOpen rest →
    Yields (fun n => multiplicativeRest py.toSplPython mode n v d e.tree rest) x →
    Yields (fun n => parseMultiplicative py.toSplPython mode n v d (e.tokens ++ rest)) x
  | .sum, e => ∀ rest x, NotOpen rest → multiplicativeOf mode rest = none →
    Yields (fun n => additiveRest py.toSplPython mode n v d e.tree rest) x →
    Yields (fun n => parseAdditive py.toSplPython mode n v d (e.tokens ++ rest)) x

/-- What the parser makes of an expression that it does not read, whatever stands behind it. -/
def Sticks (mode : Mode) (v : Bool) (d : ℕ) : {level : Level} → Arith py level → Prop
  | .factor, e => ∀ rest, NotOpen rest →
    Yields (fun n => parseAtom py.toSplPython mode n v d (e.tokens ++ rest)) none
  | .product, e => ∀ rest, NotOpen rest → ∃ x, Stuck py mode x ∧
    Yields (fun n => parseMultiplicative py.toSplPython mode n v d (e.tokens ++ rest)) x
  | .sum, e => ∀ rest, NotOpen rest → ∃ x, Stuck py mode x ∧
    Yields (fun n => parseAdditive py.toSplPython mode n v d (e.tokens ++ rest)) x

lemma parses_group (hmode : mode ≠ .search) {before after : Gap} {e : Arith py .sum}
    (hfits : e.Fits mode (d + 3))
    (h : e.Parses mode v (d + 3)) : (group before e after).Parses mode v d := by
  intro rest hrest
  have hdepth : d + 1 + 2 ≤ MAX_DEPTH := by
    have := hfits.depth
    omega
  have hclose : Ends py mode (opToken ')' :: rest) := ends_close
  have hsum := h (opToken ')' :: rest) (some (e.tree, opToken ')' :: rest)) hclose.notOpen
    hclose.multiplicative (yields_additiveRest_end hclose.additive)
  have hor := yields_parseOr hmode hdepth e.accept_not
    (fun node behind hread => by cases hread; exact hclose) hsum
  refine .of_succ ?_
  simp only [tokens, List.cons_append, List.append_assoc, List.nil_append, parseAtom_cons,
    if_neg (Nat.not_lt.2 (Nat.le_of_add_right_le hdepth : d + 1 ≤ MAX_DEPTH))]
  have hopen : (opToken '(').text = "(" := rfl
  simp only [if_pos hopen]
  refine .bind hor ?_
  simp only [accept_close, Option.bind_some]
  exact yields_const _

lemma parses_times {l : Arith py .product} {before after : Gap} {op : TimesOp}
    {r : Arith py .factor} (heval : mode = .eval) (hl : l.Parses mode v d)
    (hr : r.Parses mode v d) :
    (times l before op after r).Parses mode v d := by
  intro rest x hrest hx
  have hop : op.char ≠ '(' ∧ op.op ≠ .concat
      ∧ multiplicativeOf mode (opToken op.char :: (r.tokens ++ rest))
          = some (op.op, r.tokens ++ rest) := by
    subst heval
    cases op <;> exact ⟨by decide, by decide, rfl⟩
  rw [tokens, List.append_assoc]
  refine hl _ x (notOpen_op hop.1) (.of_succ ?_)
  simp only [List.cons_append, multiplicativeRest, hop.2.2]
  refine .bind (hr rest hrest) ?_
  simp only [refusesBinop_eq_false hop.2.1]
  exact hx

lemma parses_plus {l : Arith py .sum} {before after : Gap} {op : PlusOp}
    {r : Arith py .product} (hglued : glued op after r = false) (hl : l.Parses mode v d)
    (hr : r.Parses mode v d) : (plus l before op after r).Parses mode v d := by
  intro rest x hrest hends hx
  have hop : op.char ≠ '(' ∧ op.op ≠ .concat
      ∧ multiplicativeOf mode (opToken op.char :: (r.tokens ++ rest)) = none
      ∧ additiveOf (opToken op.char :: (r.tokens ++ rest)) = some (op.op, r.tokens ++ rest) := by
    refine ⟨by cases op <;> decide, by cases op <;> decide, ?_, by cases op <;> rfl⟩
    rw [multiplicativeOf]
    split
    · cases op <;> rfl
    · rfl
  simp only [tokens, hglued, Bool.false_eq_true, if_false, List.append_assoc, List.cons_append]
  refine hl _ x (notOpen_op hop.1) hop.2.2.1 (.of_succ ?_)
  simp only [additiveRest, hop.2.2.2]
  refine .bind (hr rest _ hrest (yields_multiplicativeRest_end hends)) ?_
  simp only [refusesBinop_eq_false hop.2.1, Bool.false_eq_true, and_false, if_false]
  exact hx

/-- An expression that fits is read as its tree. -/
lemma parses (hmode : mode ≠ .search) (e : Arith py level) : ∀ d, e.Fits mode d →
    e.Parses mode v d := by
  induction e with
  | atom a =>
    intro d hfits rest hrest
    have hdepth := hfits.depth
    rw [nesting, Nat.mul_zero, Nat.zero_add] at hdepth
    exact yields_parseAtom hmode a hdepth hrest
  | group before e after ih =>
    intro d hfits
    rw [fits_group] at hfits
    exact parses_group hmode hfits (ih _ hfits)
  | factor e ih =>
    intro d hfits rest x hrest hx
    refine .of_succ ?_
    simp only [parseMultiplicative]
    exact .bind (ih d (fits_factor.1 hfits) rest hrest) hx
  | times l before op after r ihl ihr =>
    intro d hfits
    obtain ⟨heval, hl, hr⟩ := fits_times.1 hfits
    exact parses_times heval (ihl d hl) (ihr d hr)
  | product e ih =>
    intro d hfits rest x hrest hends hx
    refine .of_succ ?_
    simp only [parseAdditive]
    exact .bind (ih d (fits_product.1 hfits) rest _ hrest (yields_multiplicativeRest_end hends)) hx
  | plus l before op after r ihl ihr =>
    intro d hfits
    obtain ⟨hl, hr, hglued⟩ := fits_plus.1 hfits
    exact parses_plus hglued (ihl d hl) (ihr d hr)

/-- Nothing comes out of the parentheses around an expression that is not read. -/
lemma sticks_group (hmode : mode ≠ .search) {before after : Gap} {e : Arith py .sum}
    (h : e.Sticks mode v (d + 3)) :
    (group before e after).Sticks mode v d := by
  intro rest hrest
  refine .of_succ ?_
  simp only [tokens, List.cons_append, List.append_assoc, List.nil_append, parseAtom_cons]
  have hopen : (opToken '(').text = "(" := rfl
  simp only [if_pos hopen]
  split
  · exact yields_const _
  by_cases hdepth : d + 1 + 2 ≤ MAX_DEPTH
  · have hclose : Ends py mode (opToken ')' :: rest) := ends_close
    obtain ⟨x, hstuck, hx⟩ := h (opToken ')' :: rest) hclose.notOpen
    have hor := yields_parseOr hmode hdepth e.accept_not
      (fun node behind hread => (hstuck node behind hread).toEnds) hx
    cases x with
    | none => exact .bind_none hor
    | some read =>
      refine .bind hor ?_
      simp only [(hstuck _ _ rfl).unclosed, Option.bind_none]
      exact yields_const _
  · exact .bind_none (yields_parseOr_none (Nat.lt_of_not_le hdepth))

lemma stuck_none : Stuck py mode none := nofun

lemma stuck_of_jams (h : Jams py mode ts) : Stuck py mode (some (node, ts)) := by
  intro node' ts' heq
  cases heq
  exact h

lemma times_op (l : Arith py .product) (before after : Gap) (op : TimesOp) (r : Arith py .factor)
    (rest : List Token) : (times l before op after r).tokens ++ rest
      = l.tokens ++ opToken op.char :: (r.tokens ++ rest)
    ∧ NotOpen (opToken op.char :: (r.tokens ++ rest)) := by
  rw [tokens, List.append_assoc]
  exact ⟨rfl, notOpen_op (by cases op <;> decide)⟩

lemma sticks_times_left {l : Arith py .product} {before after : Gap} {op : TimesOp}
    {r : Arith py .factor} (h : l.Sticks mode v d) :
    (times l before op after r).Sticks mode v d := by
  intro rest hrest
  obtain ⟨htokens, hopen⟩ := times_op l before after op r rest
  rw [htokens]
  exact h _ hopen

lemma sticks_times_op {l : Arith py .product} {before after : Gap} {op : TimesOp}
    {r : Arith py .factor} (heval : mode ≠ .eval) (hl : l.Parses mode v d) :
    (times l before op after r).Sticks mode v d := by
  intro rest hrest
  obtain ⟨htokens, hopen⟩ := times_op l before after op r rest
  have hjams : Jams py mode (opToken op.char :: (r.tokens ++ rest)) := jams_times heval op
  rw [htokens]
  exact ⟨_, stuck_of_jams hjams, hl _ _ hopen (yields_multiplicativeRest_end hjams.multiplicative)⟩

lemma sticks_times_right {l : Arith py .product} {before after : Gap} {op : TimesOp}
    {r : Arith py .factor} (heval : mode = .eval) (hl : l.Parses mode v d)
    (hr : r.Sticks mode v d) : (times l before op after r).Sticks mode v d := by
  intro rest hrest
  obtain ⟨htokens, hopen⟩ := times_op l before after op r rest
  have hop : multiplicativeOf mode (opToken op.char :: (r.tokens ++ rest))
      = some (op.op, r.tokens ++ rest) := by
    subst heval
    cases op <;> rfl
  rw [htokens]
  refine ⟨none, stuck_none, hl _ none hopen (.of_succ ?_)⟩
  simp only [multiplicativeRest, hop]
  exact .bind_none (hr rest hrest)

lemma sticks_product {e : Arith py .product} (h : e.Sticks mode v d) :
    (product e).Sticks mode v d := by
  intro rest hrest
  obtain ⟨x, hstuck, hx⟩ := h rest hrest
  refine ⟨x, hstuck, .of_succ ?_⟩
  simp only [parseAdditive]
  cases x with
  | none => exact .bind_none hx
  | some read => exact .bind hx (yields_additiveRest_end (hstuck _ _ rfl).additive)

/-- The tokens of a sum behind its left side. -/
def behind (op : PlusOp) (after : Gap) (r : Arith py .product) : List Token :=
  if glued op after r then signed r.tokens else opToken op.char :: r.tokens

lemma jams_glued {op : PlusOp} {after : Gap} {r : Arith py .product}
    (hglued : glued op after r = true)
    (rest : List Token) : Jams py mode (behind op after r ++ rest) := by
  obtain ⟨token, ts, htokens⟩ := List.exists_cons_of_ne_nil r.tokens_ne_nil
  rw [behind, if_pos hglued, htokens, signed]
  exact jams_number rfl (by rw [String.toList_ofList]; rfl)

lemma plus_op (mode : Mode) (op : PlusOp) (ts : List Token) : op.char ≠ '('
    ∧ multiplicativeOf mode (opToken op.char :: ts) = none
    ∧ additiveOf (opToken op.char :: ts) = some (op.op, ts) := by
  refine ⟨by cases op <;> decide, ?_, by cases op <;> rfl⟩
  rw [multiplicativeOf]
  split
  · cases op <;> rfl
  · rfl

lemma tokens_plus {l : Arith py .sum} {before after : Gap} (op : PlusOp) {r : Arith py .product}
    (rest : List Token) :
    (plus l before op after r).tokens ++ rest = l.tokens ++ (behind op after r ++ rest) :=
  List.append_assoc _ _ _

lemma notOpen_behind (op : PlusOp) (after : Gap) (r : Arith py .product) (rest : List Token) :
    NotOpen (behind op after r ++ rest) := by
  by_cases hglued : glued op after r = true
  · exact (jams_glued hglued rest : Jams py .eval _).notOpen
  · rw [behind, if_neg hglued]
    exact notOpen_op (by cases op <;> decide)

lemma sticks_plus_left {l : Arith py .sum} {before after : Gap} {op : PlusOp}
    {r : Arith py .product} (h : l.Sticks mode v d) :
    (plus l before op after r).Sticks mode v d := by
  intro rest hrest
  rw [tokens_plus]
  exact h _ (notOpen_behind op after r rest)

lemma sticks_plus_glued {l : Arith py .sum} {before after : Gap} {op : PlusOp}
    {r : Arith py .product} (hglued : glued op after r = true) (hl : l.Parses mode v d) :
    (plus l before op after r).Sticks mode v d := by
  intro rest hrest
  have hjams : Jams py mode (behind op after r ++ rest) := jams_glued hglued rest
  rw [tokens_plus]
  exact ⟨_, stuck_of_jams hjams,
    hl _ _ hjams.notOpen hjams.multiplicative (yields_additiveRest_end hjams.additive)⟩

/-- A sum whose right side is not read is not read. -/
lemma sticks_plus_right {l : Arith py .sum} {before after : Gap} {op : PlusOp}
    {r : Arith py .product} (hglued : glued op after r = false) (hl : l.Parses mode v d)
    (hr : r.Sticks mode v d) : (plus l before op after r).Sticks mode v d := by
  intro rest hrest
  obtain ⟨hopen, htimes, hop⟩ := plus_op mode op (r.tokens ++ rest)
  obtain ⟨x, hstuck, hx⟩ := hr rest hrest
  have hgoes : ∀ y, Yields (fun n => additiveRest py.toSplPython mode n v d l.tree
      (opToken op.char :: (r.tokens ++ rest))) y →
      Yields (fun n => parseAdditive py.toSplPython mode n v d
        ((plus l before op after r).tokens ++ rest)) y := by
    intro y hy
    rw [tokens_plus, behind, if_neg (Bool.eq_false_iff.1 hglued), List.cons_append]
    exact hl _ y (notOpen_op hopen) htimes hy
  cases x with
  | none =>
    refine ⟨none, stuck_none, hgoes none (.of_succ ?_)⟩
    simp only [additiveRest, hop]
    exact .bind_none hx
  | some read =>
    obtain ⟨right, last⟩ := read
    have hjams := hstuck right last rfl
    by_cases hrefused : mode ≠ .search ∧ refusesBinop op.op l.tree right = true
    · refine ⟨none, stuck_none, hgoes none (.of_succ ?_)⟩
      simp only [additiveRest, hop]
      refine .bind hx ?_
      simp only [if_pos hrefused]
      exact yields_const _
    · refine ⟨some (.binOp op.op l.tree right, last), stuck_of_jams hjams, hgoes _ (.of_succ ?_)⟩
      simp only [additiveRest, hop]
      refine .bind hx ?_
      simp only [if_neg hrefused]
      exact yields_additiveRest_end hjams.additive

/-- An expression that does not fit is not read. -/
lemma sticks (hmode : mode ≠ .search) (e : Arith py level) :
    ∀ d, ¬e.Fits mode d → e.Sticks mode v d := by
  induction e with
  | atom a =>
    intro d hfits rest hrest
    have hdepth : MAX_DEPTH < d + 1 := by
      refine Nat.lt_of_not_le fun h => hfits ⟨trivial, trivial, ?_⟩
      rwa [nesting, Nat.mul_zero, Nat.zero_add]
    refine .of_succ ?_
    simp only [tokens, List.cons_append, List.nil_append, parseAtom_cons, if_pos hdepth]
    exact yields_const _
  | group before e after ih =>
    intro d hfits
    exact sticks_group hmode (ih _ fun h => hfits (fits_group.2 h))
  | factor e ih =>
    intro d hfits rest hrest
    refine ⟨none, stuck_none, .of_succ ?_⟩
    simp only [parseMultiplicative]
    exact .bind_none (ih d (fun h => hfits (fits_factor.2 h)) rest hrest)
  | times l before op after r ihl ihr =>
    intro d hfits
    by_cases hl : l.Fits mode d
    · by_cases heval : mode = .eval
      · exact sticks_times_right heval (parses hmode l d hl)
          (ihr d fun hr => hfits (fits_times.2 ⟨heval, hl, hr⟩))
      · exact sticks_times_op heval (parses hmode l d hl)
    · exact sticks_times_left (ihl d hl)
  | product e ih =>
    intro d hfits
    exact sticks_product (ih d fun h => hfits (fits_product.2 h))
  | plus l before op after r ihl ihr =>
    intro d hfits
    by_cases hl : l.Fits mode d
    · cases hglued : glued op after r with
      | true => exact sticks_plus_glued hglued (parses hmode l d hl)
      | false =>
        exact sticks_plus_right hglued (parses hmode l d hl)
          (ihr d fun hr => hfits (fits_plus.2 ⟨hl, hr, hglued⟩))
    · exact sticks_plus_left (ihl d hl)

lemma tokenize_render (hmode : mode ≠ .search) (e : Arith py level) :
    tokenize py.toSplPython mode (Kql.stripChars e.render) = some e.tokens := by
  obtain ⟨c, cs, hc, hspace⟩ := e.exists_render
  obtain ⟨c', front, hc', hspace'⟩ := e.exists_render_last
  have htight : Kql.Tight e.render :=
    ⟨⟨c, cs, hc, hspace⟩, c', front, hc', hspace'⟩
  have hlexes := (e.lexes_render hmode [] [] nofun .nil).1
  rw [List.append_nil, List.append_nil] at hlexes
  rw [stripChars_of_tight htight]
  exact tokenize_of_lexes hlexes

/-- An expression is parsed as its tree if it fits, and not at all otherwise. -/
lemma parse_render (hmode : mode ≠ .search) (e : Arith py .sum) :
    (e.Fits mode 2 → parse py.toSplPython mode e.render = some (some e.tree))
    ∧ (¬e.Fits mode 2 → parse py.toSplPython mode e.render = none) := by
  have hparse : parse py.toSplPython mode e.render
      = (parseTokens py.toSplPython mode e.tokens).map some := by
    rw [parse, tokenize_render hmode]
    exact if_neg e.tokens_ne_nil
  have htokens : ∀ x, (∀ node behind, x = some (node, behind) → Ends py mode behind) →
      Yields (fun n => parseAdditive py.toSplPython mode n false 2 (e.tokens ++ [])) x →
      parseOr py.toSplPython mode (parseFuel e.tokens) false 0 e.tokens = x := by
    intro x hends hx
    obtain ⟨least, hor⟩ := yields_parseOr hmode (by decide) e.accept_not hends hx
    rw [List.append_nil] at hor
    rw [← parseOr_of_parseFuel_le py.toSplPython mode false 0 (le_max_right least _)]
    exact hor _ (le_max_left _ _)
  constructor
  · intro hfits
    have hsum := parses (v := false) hmode e 2 hfits [] (some (e.tree, [])) nofun rfl
      (yields_additiveRest_end rfl)
    rw [hparse, parseTokens, htokens _ (fun _ _ h => by cases h; exact ends_nil) hsum]
    rfl
  · intro hfits
    obtain ⟨x, hstuck, hx⟩ := sticks (v := false) hmode e 2 hfits [] nofun
    rw [hparse, parseTokens, htokens _ (fun _ _ h => (hstuck _ _ h).toEnds) hx]
    cases x with
    | none => rfl
    | some read =>
      obtain ⟨node, behind⟩ := read
      cases behind with
      | nil => exact absurd rfl (hstuck _ _ rfl).ne_nil
      | cons token behind => rfl

/-! ## White space -/

/-- An expression that the parser has at all: the mode has its operators, and its parentheses are
    not nested deeper than `_MAX_DEPTH` allows, three calls for each. -/
def Legal (mode : Mode) (e : Arith py level) : Prop :=
  e.Offered mode ∧ 3 * (e.nesting + 1) ≤ MAX_DEPTH

lemma fits_iff {e : Arith py level} : e.Fits mode 2 ↔ e.Apart ∧ e.Legal mode :=
  ⟨fun h => ⟨h.apart, h.offered, h.depth⟩,
      fun ⟨hapart, hoffered, hdepth⟩ => ⟨hapart, hoffered, hdepth⟩⟩

lemma nesting_bare (e : Arith py level) : e.bare.nesting = e.nesting := by
  induction e with
  | atom a => rfl
  | group before e after ih => simp only [bare, nesting, ih]
  | factor e ih => exact ih
  | times l before op after r ihl ihr => simp only [bare, nesting, ihl, ihr]
  | product e ih => exact ih
  | plus l before op after r ihl ihr => simp only [bare, nesting, ihl, ihr]

lemma offered_bare (e : Arith py level) : e.bare.Offered mode ↔ e.Offered mode := by
  induction e with
  | atom a => exact Iff.rfl
  | group before e after ih => exact ih
  | factor e ih => exact ih
  | times l before op after r ihl ihr => simp only [bare, Offered, ihl, ihr]
  | product e ih => exact ih
  | plus l before op after r ihl ihr => simp only [bare, Offered, ihl, ihr]

lemma tree_bare (e : Arith py level) : e.bare.tree = e.tree := by
  induction e with
  | atom a => rfl
  | group before e after ih => exact ih
  | factor e ih => exact ih
  | times l before op after r ihl ihr => simp only [bare, tree, ihl, ihr]
  | product e ih => exact ih
  | plus l before op after r ihl ihr => simp only [bare, tree, ihl, ihr]

lemma bare_congr (mode : Mode) {e e' : Arith py level} (h : e.bare = e'.bare) :
    e.tree = e'.tree ∧ (e.Legal mode ↔ e'.Legal mode) := by
  refine ⟨?_, ?_⟩
  · rw [← tree_bare e, h, tree_bare]
  · rw [Legal, Legal, ← offered_bare e, ← nesting_bare e, h, offered_bare, nesting_bare]

/-- An expression is parsed as its tree, with `+` and `-` left associative and `*`, `/` and `%`
    binding tighter, exactly if the parser has it and no minus in it stands directly in front of a
    digit. Two texts of one expression are parsed alike exactly if such a minus stands in both or in
    none of them, or the parser does not have the expression at all. -/
theorem parse_iff_apart (hmode : mode ≠ .search) (e e' : Arith py .sum) (hbare : e.bare = e'.bare) :
    (parse py.toSplPython mode e.render = some (some e.tree) ↔ e.Apart ∧ e.Legal mode)
    ∧ (parse py.toSplPython mode e.render = parse py.toSplPython mode e'.render
      ↔ (e.Apart ↔ e'.Apart) ∨ ¬e.Legal mode) := by
  classical
  have hread : ∀ e : Arith py .sum, parse py.toSplPython mode e.render
      = if e.Fits mode 2 then some (some e.tree) else none := by
    intro e
    split
    · next hfits => exact (parse_render hmode e).1 hfits
    · next hfits => exact (parse_render hmode e).2 hfits
  obtain ⟨htree, hlegal⟩ := bare_congr mode hbare
  rw [hread e, hread e', fits_iff, fits_iff, ← hlegal, ← htree]
  by_cases hapart : e.Apart <;> by_cases hapart' : e'.Apart <;> by_cases h : e.Legal mode <;>
    simp [hapart, hapart', h]

end Arith

end Spl

lemma isDigit_of_isSpace (c : Char) (hc : isSpace c = true) :
    asciiSplPython.isDigit c = false := by
  have halnum : c.isAlphanum = false := Kql.asciiKqlPython.isAlnum_space c hc
  rw [Char.isAlphanum, Bool.or_eq_false_iff] at halnum
  exact halnum.2

/-- The built-ins of arithmetic expressions on ASCII text. -/
def asciiArithPython : Spl.ArithPython where
  toSplPython := asciiSplPython
  upperChar c := [c.toUpper]
  upper_eq s := congrArg String.ofList (List.map_eq_flatMap (f := Char.toUpper))
  upperChar_ascii _ _ := rfl
  upperChar_digit c hc := by
    have hdigit : c.val ≤ 57 := of_decide_eq_true (Bool.and_eq_true_iff.1 hc).2
    have hlower : ¬(c.val ≥ 'a'.val ∧ c.val ≤ 'z'.val) :=
      fun h => absurd (UInt32.le_trans h.1 hdigit) (by decide)
    rw [Char.toUpper, dif_neg hlower]
  isDigit_ascii _ _ := rfl
  isDigit_space := isDigit_of_isSpace

namespace Spl

namespace Arith

/-- Some blanks. -/
def blanks (n : ℕ) : Gap :=
  ⟨List.replicate n ' ', fun _ hc => List.eq_of_mem_replicate hc ▸ (by decide : isSpace ' ' = true)⟩

/-- `5 - 3` with some white space around the minus. -/
def fiveMinusThree (before after : Gap) : Arith asciiArithPython .sum :=
  .plus (.product
      (.factor (.atom (.number false ['5'] [] (.int 5) (by decide) (by decide) (by decide)
      (by rfl)))))
    before .sub after
    (.factor (.atom (.number false ['3'] [] (.int 3) (by decide) (by decide) (by decide) (by rfl))))

/-- White space behind the minus keeps it from being read as a sign, however much it is. -/
theorem spaced_minus_parses :
    parse asciiSplPython .eval "5 - 3".toList
        = some (some (.binOp .sub (.literal (.int 5)) (.literal (.int 3))))
      ∧ parse asciiSplPython .eval "5 - 3".toList = parse asciiSplPython .eval "5-  3".toList := by
  have hread := parse_iff_apart (by decide : Mode.eval ≠ .search)
    (fiveMinusThree (blanks 1) (blanks 1))
    (fiveMinusThree (blanks 0) (blanks 2)) rfl
  exact ⟨hread.1.2 ⟨⟨trivial, trivial, rfl⟩, ⟨trivial, trivial⟩, by decide⟩,
    hread.2.2 (.inl ⟨fun _ => ⟨trivial, trivial, rfl⟩, fun _ => ⟨trivial, trivial, rfl⟩⟩)⟩

/-- `5-3` is not parsed, although `5 - 3` is: its minus is read as the sign of `-3`. -/
theorem glued_minus_refused :
    parse asciiSplPython .eval "5 - 3".toList
        = some (some (.binOp .sub (.literal (.int 5)) (.literal (.int 3))))
      ∧ parse asciiSplPython .eval "5-3".toList = none := by
  have hspaced := (parse_render (by decide : Mode.eval ≠ .search)
    (fiveMinusThree (blanks 1) (blanks 1))).1
  have hglued := (parse_render (by decide : Mode.eval ≠ .search)
    (fiveMinusThree (blanks 0) (blanks 0))).2
  exact ⟨hspaced ⟨⟨trivial, trivial, rfl⟩, ⟨trivial, trivial⟩, by decide⟩,
    hglued fun hfits => absurd hfits.apart.2.2 (by decide)⟩

end Arith

end Spl

end Splunk

end Mockdr
