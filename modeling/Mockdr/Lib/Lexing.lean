import Mathlib.Tactic.Common
import Mathlib.Tactic.Lemma

/-!
# Texts and their tokens

A text is read from the front, one step after the other: a step reads a token or something that is
left out, white space or a comment, and says what is left.

* `Lexes`: the tokens of a text.
* `lex`: the loop that finds them, or the rest at which no step can be made; `lex_eq_ok_iff`: it
  finds them, and there are no others.
* `Matcher`: what a regular expression without alternatives to go back to finds at the front of a
  text. `Matcher.Blind`: a character behind the text that it does not look past.
-/

namespace Mockdr

namespace Lexing

variable {α τ : Type*} (step : List α → Option (Option τ × List α))

/-- Every step reads something. -/
def Consumes : Prop := ∀ cs t rest, step cs = some (t, rest) → rest.length < cs.length

/-- The tokens that a text is read as. -/
inductive Lexes : List α → List τ → Prop where
  | nil : Lexes [] []
  | step {cs rest : List α} {t : Option τ} {ts : List τ} (h : step cs = some (t, rest))
      (hrest : Lexes rest ts) : Lexes cs (t.toList ++ ts)

/-- Read a text in at most so many steps. -/
def lexFrom : Nat → List α → Except (List α) (List τ)
  | _, [] => .ok []
  | 0, c :: cs => .error (c :: cs)
  | n + 1, c :: cs =>
    match step (c :: cs) with
    | none => .error (c :: cs)
    | some (t, rest) => (lexFrom n rest).map (t.toList ++ ·)

/-- Read a text. -/
def lex (cs : List α) : Except (List α) (List τ) := lexFrom step cs.length cs

variable {step} {cs rest : List α} {t : Option τ} {ts : List τ}

/-- More steps than there are characters are of no use. -/
lemma lexFrom_of_le (hstep : Consumes step) {n : Nat} (hn : cs.length ≤ n) :
    lexFrom step n cs = lex step cs := by
  have hsame : ∀ m n, ∀ cs : List α, cs.length ≤ m → cs.length ≤ n →
      lexFrom step m cs = lexFrom step n cs := by
    intro m
    induction m with
    | zero =>
      intro n cs hm _
      rw [List.length_eq_zero_iff.1 (Nat.le_zero.1 hm), lexFrom, lexFrom]
    | succ m ih =>
      intro n cs hm hn
      cases cs with
      | nil => rw [lexFrom, lexFrom]
      | cons c cs =>
        cases n with
        | zero => cases hn
        | succ n =>
          rw [lexFrom, lexFrom]
          cases h : step (c :: cs) with
          | none => rfl
          | some next =>
            have hlt := hstep (c :: cs) next.1 next.2 h
            simp only [ih n next.2 (by omega) (by omega)]
  exact hsame n cs.length cs hn (Nat.le_refl _)

@[simp] lemma lex_nil : lex step [] = .ok [] := by rw [lex, lexFrom]

lemma lex_step (hstep : Consumes step) (h : step cs = some (t, rest)) :
    lex step cs = (lex step rest).map (t.toList ++ ·) := by
  have hlt := hstep cs t rest h
  cases cs with
  | nil => cases hlt
  | cons c cs =>
    rw [List.length_cons] at hlt
    rw [lex, List.length_cons, lexFrom, h]
    simp only [lexFrom_of_le hstep (Nat.le_of_lt_succ hlt)]

lemma lex_stuck (hcs : cs ≠ []) (h : step cs = none) : lex step cs = .error cs := by
  cases cs with
  | nil => exact absurd rfl hcs
  | cons c cs => rw [lex, List.length_cons, lexFrom, h]

/-- The tokens of a text are those that the loop finds. -/
theorem lex_eq_ok_iff (hstep : Consumes step) : lex step cs = .ok ts ↔ Lexes step cs ts := by
  constructor
  · intro h
    generalize hn : cs.length = n
    induction n using Nat.strongRecOn generalizing cs ts with
    | ind n ih =>
      by_cases hcs : cs = []
      · subst hcs
        rw [lex_nil] at h
        cases h
        exact .nil
      · cases hnext : step cs with
        | none =>
          rw [lex_stuck hcs hnext] at h
          cases h
        | some next =>
          obtain ⟨t, rest⟩ := next
          rw [lex_step hstep hnext] at h
          cases hrest : lex step rest with
          | error left =>
            rw [hrest] at h
            cases h
          | ok ts' =>
            rw [hrest] at h
            cases h
            exact .step hnext (ih rest.length (hn ▸ hstep cs t rest hnext) hrest rfl)
  · intro h
    induction h with
    | nil => exact lex_nil
    | step hnext _ ih =>
      rw [lex_step hstep hnext, ih]
      rfl

/-! ## Matchers -/

/-- What is found at the front of a text, and what is behind it. -/
abbrev Matcher (α : Type*) := List α → Option (List α × List α)

variable (p : α → Bool) (m m' : Matcher α)

/-- One element after the other, each as its predicate wants it. -/
def fits : List (α → Bool) → Matcher α
  | [], cs => some ([], cs)
  | _ :: _, [] => none
  | p :: ps, c :: cs => if p c then (fits ps cs).map fun (v, rest) => (c :: v, rest) else none

/-- `p*` -/
def many : Matcher α := fun cs => some (cs.takeWhile p, cs.dropWhile p)

/-- `p+` -/
def many1 : Matcher α := fun cs => if cs.head?.any p then many p cs else none

/-- `m?` -/
def opt : Matcher α := fun cs => some ((m cs).getD ([], cs))

/-- One matcher after the other. -/
def seq : Matcher α := fun cs =>
  (m cs).bind fun (v, rest) => (m' rest).map fun (w, rest) => (v ++ w, rest)

/-- The first matcher that finds something. -/
def orElse : Matcher α := fun cs => (m cs).or (m' cs)

/-- What is found in a text is found in front of `stop` too, and what is not is not. -/
def Matcher.Blind (stop : List α) (m : Matcher α) : Prop :=
  ∀ cs, m (cs ++ stop) = (m cs).map fun (v, rest) => (v, rest ++ stop)

variable {p m m'} {c : α} {stop : List α} {ps : List (α → Bool)}

lemma fits_blind (h : ∀ p ∈ ps, p c = false) : Matcher.Blind (c :: stop) (fits ps) := by
  intro cs
  induction ps generalizing cs with
  | nil => rfl
  | cons p ps ih =>
    have hp : p c = false := h p List.mem_cons_self
    cases cs with
    | nil =>
      show (if p c then _ else _) = _
      rw [hp]
      rfl
    | cons d cs =>
      rw [List.cons_append, fits, fits, ih (fun q hq => h q (List.mem_cons_of_mem _ hq))]
      cases p d with
      | false => rfl
      | true =>
        rw [if_pos rfl, if_pos rfl]
        cases fits ps cs with
        | none => rfl
        | some found => rfl

lemma takeWhile_append_stop (h : p c = false) (cs : List α) :
    (cs ++ c :: stop).takeWhile p = cs.takeWhile p
      ∧ (cs ++ c :: stop).dropWhile p = cs.dropWhile p ++ c :: stop := by
  induction cs with
  | nil => simp [h]
  | cons d cs ih =>
    cases hd : p d with
    | false => simp [hd]
    | true => simp [hd, ih]

lemma many_blind (h : p c = false) : Matcher.Blind (c :: stop) (many p) := by
  intro cs
  rw [many, many, (takeWhile_append_stop h cs).1, (takeWhile_append_stop h cs).2]
  rfl

lemma many1_blind (h : p c = false) : Matcher.Blind (c :: stop) (many1 p) := by
  intro cs
  have hhead : (cs ++ c :: stop).head?.any p = cs.head?.any p := by
    cases cs with
    | nil => exact h
    | cons d cs => rfl
  rw [many1, many1, hhead, many_blind h cs]
  cases cs.head?.any p <;> rfl

lemma opt_blind (h : m.Blind stop) : Matcher.Blind stop (opt m) := by
  intro cs
  rw [opt, opt, h cs]
  cases m cs <;> rfl

lemma seq_blind (h : m.Blind stop) (h' : m'.Blind stop) : Matcher.Blind stop (seq m m') := by
  intro cs
  rw [seq, seq, h cs]
  cases m cs with
  | none => rfl
  | some found =>
    show ((m' (found.2 ++ stop)).map _) = ((m' found.2).map _).map _
    rw [h' found.2]
    cases m' found.2 <;> rfl

lemma orElse_blind (h : m.Blind stop) (h' : m'.Blind stop) :
    Matcher.Blind stop (orElse m m') := by
  intro cs
  rw [orElse, orElse, h cs, h' cs]
  cases m cs <;> rfl

/-- What is behind a match is no longer than the text. -/
def Matcher.Shortens (m : Matcher α) : Prop :=
  ∀ cs v rest, m cs = some (v, rest) → rest.length ≤ cs.length

/-- What is behind a match is shorter than the text. -/
def Matcher.Consumes (m : Matcher α) : Prop :=
  ∀ cs v rest, m cs = some (v, rest) → rest.length < cs.length

lemma Matcher.Consumes.shortens (h : m.Consumes) : m.Shortens :=
  fun cs v rest hm => Nat.le_of_lt (h cs v rest hm)

lemma fits_length {v rest : List α} (h : fits ps cs = some (v, rest)) :
    rest.length + ps.length = cs.length := by
  induction ps generalizing cs v with
  | nil =>
    cases h
    rfl
  | cons p ps ih =>
    cases cs with
    | nil => cases h
    | cons d cs =>
      rw [fits] at h
      split at h
      · obtain ⟨⟨v', rest'⟩, htail, heq⟩ := Option.map_eq_some_iff.1 h
        cases heq
        have htail := ih htail
        rw [List.length_cons, List.length_cons]
        omega
      · cases h

lemma fits_consumes (h : ps ≠ []) : (fits ps).Consumes := by
  intro cs v rest hm
  have hlen := fits_length hm
  have hpos := List.length_pos_iff.2 h
  omega

lemma many_shortens : (many p).Shortens := by
  intro cs v rest hm
  cases hm
  exact (List.dropWhile_sublist p).length_le

lemma many1_consumes : (many1 p).Consumes := by
  intro cs v rest hm
  rw [many1] at hm
  cases cs with
  | nil => cases hm
  | cons d cs =>
    cases hd : p d with
    | false => simp [hd] at hm
    | true =>
      rw [List.head?_cons, Option.any_some, hd, if_pos rfl, many,
        List.dropWhile_cons_of_pos hd] at hm
      cases hm
      exact Nat.lt_succ_of_le (List.dropWhile_sublist p).length_le

lemma opt_shortens (h : m.Shortens) : (opt m).Shortens := by
  intro cs v rest hm
  rw [opt] at hm
  cases hfound : m cs with
  | none =>
    rw [hfound] at hm
    cases hm
    exact Nat.le_refl _
  | some found =>
    rw [hfound] at hm
    cases hm
    exact h cs _ _ hfound

lemma orElse_shortens (h : m.Shortens) (h' : m'.Shortens) : (orElse m m').Shortens := by
  intro cs v rest hm
  rcases Option.or_eq_some_iff.1 hm with hfound | ⟨-, hfound⟩
  · exact h cs v rest hfound
  · exact h' cs v rest hfound

lemma seq_eq_some {v rest : List α} (h : seq m m' cs = some (v, rest)) :
    ∃ v₁ rest₁ v₂, m cs = some (v₁, rest₁) ∧ m' rest₁ = some (v₂, rest) := by
  obtain ⟨⟨v₁, rest₁⟩, hfirst, h⟩ := Option.bind_eq_some_iff.1 h
  obtain ⟨⟨v₂, rest₂⟩, hsecond, heq⟩ := Option.map_eq_some_iff.1 h
  cases heq
  exact ⟨v₁, rest₁, v₂, hfirst, hsecond⟩

lemma seq_shortens (h : m.Shortens) (h' : m'.Shortens) : (seq m m').Shortens := by
  intro cs v rest hm
  obtain ⟨v₁, rest₁, v₂, hfirst, hsecond⟩ := seq_eq_some hm
  exact Nat.le_trans (h' _ _ _ hsecond) (h _ _ _ hfirst)

lemma seq_consumes (h : m.Shortens) (h' : m'.Shortens) (hone : m.Consumes ∨ m'.Consumes) :
    (seq m m').Consumes := by
  intro cs v rest hm
  obtain ⟨v₁, rest₁, v₂, hfirst, hsecond⟩ := seq_eq_some hm
  rcases hone with hone | hone
  · exact Nat.lt_of_le_of_lt (h' _ _ _ hsecond) (hone _ _ _ hfirst)
  · exact Nat.lt_of_lt_of_le (hone _ _ _ hsecond) (h _ _ _ hfirst)

end Lexing

end Mockdr
