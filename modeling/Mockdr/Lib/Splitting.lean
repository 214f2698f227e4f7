import Mathlib.Data.List.DropRight
import Mathlib.Tactic.Lemma

/-!
# Text split at separators

A separator is a word of some language; `sep text` says how many characters follow its first one
where one stands at the front of a text.

* `cuts` are the pieces of a text, each with the separator in front of it: the leftmost separators
  are found, one after the other.
* `occurs`: a separator stands somewhere. `cuts_of_not_occurs`, `two_le_length_cuts`: this is when
  there is more than one piece.
* `joinOpen` puts pieces together again as long as something is open in what there is of one.
  `joinOpen_eq_iff`: it leaves the pieces alone exactly if nothing is open in any of them but the
  last.
* `trim` takes characters off both ends.
-/

namespace Mockdr

namespace Splitting

variable {α : Type*}

section

variable (sep : List α → Option ℕ)

/-- The pieces from here on: how many characters of a separator are still passed over, the separator
    in front of the piece so far, and the piece so far. -/
def scan : ℕ → List α → List α → List α → List (List α × List α)
  | _, before, current, [] => [(before, current)]
  | skip + 1, before, current, c :: text => scan skip (before ++ [c]) current text
  | 0, before, current, c :: text =>
    match sep (c :: text) with
    | some n => (before, current) :: scan n [c] [] text
    | none => scan 0 before (current ++ [c]) text

/-- The pieces of a text, each with the separator in front of it. -/
def cuts (text : List α) : List (List α × List α) := scan sep 0 [] [] text

/-- The pieces of a text. -/
def pieces (text : List α) : List (List α) := (cuts sep text).map Prod.snd

/-- A separator stands somewhere in a text. -/
def occurs : List α → Bool
  | [] => false
  | c :: text => (sep (c :: text)).isSome || occurs text

end

section

variable (isOpen : List α → Bool)

/-- Pieces put together as long as something is open in what there is of one. -/
def joinOpen : List α → List (List α × List α) → List (List α)
  | current, [] => [current]
  | current, (before, piece) :: rest =>
    if isOpen current then joinOpen (current ++ before ++ piece) rest
    else current :: joinOpen piece rest

end

/-- A text without what its ends have of some characters. -/
def trim (p : α → Bool) (text : List α) : List α := (text.dropWhile p).rdropWhile p

variable {sep : List α → Option ℕ} {isOpen : List α → Bool} {p : α → Bool}
  {before current text : List α} {rest : List (List α × List α)}

/-! ## Pieces -/

lemma length_scan_pos (skip : ℕ) : 0 < (scan sep skip before current text).length := by
  induction text generalizing skip before current with
  | nil =>
    rw [scan]
    exact Nat.one_pos
  | cons c text ih =>
    cases skip with
    | succ skip => exact ih skip
    | zero =>
      rw [scan]
      split
      · exact Nat.succ_pos _
      · exact ih 0

lemma scan_of_not_occurs (h : occurs sep text = false) :
    scan sep 0 before current text = [(before, current ++ text)] := by
  induction text generalizing current with
  | nil => rw [scan, List.append_nil]
  | cons c text ih =>
    rw [occurs, Bool.or_eq_false_iff, Option.isSome_eq_false_iff, Option.isNone_iff_eq_none] at h
    rw [scan, h.1]
    refine (ih h.2).trans ?_
    rw [List.append_assoc, List.singleton_append]

lemma two_le_length_scan (h : occurs sep text = true) :
    2 ≤ (scan sep 0 before current text).length := by
  induction text generalizing current with
  | nil => cases h
  | cons c text ih =>
    rw [scan]
    split
    · exact Nat.succ_le_succ (length_scan_pos _)
    · next hsep =>
      rw [occurs, hsep, Option.isSome_none, Bool.false_or] at h
      exact ih h

lemma pieces_of_not_occurs (h : occurs sep text = false) : pieces sep text = [text] := by
  rw [pieces, cuts, scan_of_not_occurs h]
  rfl

lemma two_le_length_pieces (h : occurs sep text = true) : 2 ≤ (pieces sep text).length := by
  rw [pieces, List.length_map]
  exact two_le_length_scan h

/-! ## Pieces put together -/

lemma joinOpen_cases (isOpen : List α → Bool) (current : List α) (rest : List (List α × List α)) :
    joinOpen isOpen current rest = current :: rest.map Prod.snd
      ∨ (joinOpen isOpen current rest).length < rest.length + 1 := by
  induction rest generalizing current with
  | nil => exact .inl rfl
  | cons cut rest ih =>
    obtain ⟨before, piece⟩ := cut
    rw [joinOpen]
    split
    · refine .inr ?_
      rcases ih (current ++ before ++ piece) with h | h
      · rw [h]
        simp
      · exact Nat.lt_succ_of_lt h
    · rcases ih piece with h | h
      · rw [h]
        exact .inl rfl
      · exact .inr (Nat.succ_lt_succ h)

/-- Pieces are left alone exactly if nothing is open in any of them but the last. -/
lemma joinOpen_eq_iff :
    joinOpen isOpen current rest = current :: rest.map Prod.snd
      ↔ ∀ piece ∈ (current :: rest.map Prod.snd).dropLast, isOpen piece = false := by
  induction rest generalizing current with
  | nil => simp [joinOpen]
  | cons cut rest ih =>
    obtain ⟨before, piece⟩ := cut
    rw [joinOpen, List.map_cons, List.dropLast_cons_of_ne_nil (List.cons_ne_nil _ _),
      List.forall_mem_cons, ← ih]
    split
    · next hopen =>
      refine iff_of_false (fun h => ?_) fun h => Bool.false_ne_true (h.1.symm.trans hopen)
      have hlength := congrArg List.length h
      rcases joinOpen_cases isOpen (current ++ before ++ piece) rest with hjoin | hjoin
      · rw [hjoin] at hlength
        simp at hlength
      · simp only [List.length_cons, List.length_map] at hlength
        omega
    · next hopen =>
      rw [List.cons.injEq, and_iff_right rfl, and_iff_right (Bool.eq_false_iff.2 hopen)]

/-! ## Ends -/

lemma takeWhile_concat {c : α} (hc : p c = false) :
    (text ++ [c]).takeWhile p = text.takeWhile p := by
  induction text with
  | nil => exact List.takeWhile_cons_of_neg (by rw [hc]; exact Bool.false_ne_true)
  | cons d text ih =>
    rw [List.cons_append, List.takeWhile_cons, List.takeWhile_cons, ih]

lemma dropWhile_concat {c : α} (hc : p c = false) :
    (text ++ [c]).dropWhile p = text.dropWhile p ++ [c] := by
  induction text with
  | nil => exact List.dropWhile_cons_of_neg (by rw [hc]; exact Bool.false_ne_true)
  | cons d text ih =>
    rw [List.cons_append, List.dropWhile_cons, List.dropWhile_cons, ih]
    split <;> rfl

lemma dropWhile_eq_self_iff_head :
    text.dropWhile p = text ↔ ∀ c ∈ text.head?, p c = false := by
  rw [List.dropWhile_eq_self_iff]
  cases text with
  | nil => simp
  | cons c text => simp

lemma rdropWhile_eq_self_iff_last :
    text.rdropWhile p = text ↔ ∀ c ∈ text.getLast?, p c = false := by
  rw [List.rdropWhile, List.reverse_eq_iff, dropWhile_eq_self_iff_head, List.head?_reverse]

lemma trim_eq_self_iff :
    trim p text = text ↔ (∀ c ∈ text.head?, p c = false) ∧ ∀ c ∈ text.getLast?, p c = false := by
  rw [← dropWhile_eq_self_iff_head, ← rdropWhile_eq_self_iff_last]
  constructor
  · intro h
    have hback := (List.rdropWhile_prefix p (text.dropWhile p)).length_le
    rw [← trim, h] at hback
    have hfront := (List.dropWhile_suffix p (l := text)).eq_of_length_le hback
    rw [trim, hfront] at h
    exact ⟨hfront, h⟩
  · rintro ⟨hfront, hback⟩
    rw [trim, hfront, hback]

/-- What has been taken off both ends is off. -/
@[simp] lemma trim_trim : trim p (trim p text) = trim p text := by
  rw [trim_eq_self_iff]
  constructor
  · intro c hc
    refine dropWhile_eq_self_iff_head.1 (List.dropWhile_idempotent p text) c ?_
    obtain ⟨tail, htail⟩ := List.rdropWhile_prefix p (text.dropWhile p)
    rw [← htail, List.head?_append, ← trim, hc, Option.some_or]
    rfl
  · exact rdropWhile_eq_self_iff_last.1 (List.rdropWhile_idempotent p _)

lemma trim_of_forall (h : ∀ c ∈ text, p c = false) : trim p text = text :=
  trim_eq_self_iff.2 ⟨fun c hc => h c (List.mem_of_mem_head? hc),
    fun c hc => h c (List.mem_of_mem_getLast? hc)⟩

lemma trim_surrounded {mark : α} (hmark : p mark = true) (h : ∀ c ∈ text, p c = false) :
    trim p (mark :: (text ++ [mark])) = text := by
  have hlast : (text ++ [mark]).rdropWhile p = text := by
    rw [List.rdropWhile_concat_pos p text mark hmark, rdropWhile_eq_self_iff_last]
    exact fun c hc => h c (List.mem_of_mem_getLast? hc)
  rw [trim, List.dropWhile_cons_of_pos hmark]
  cases text with
  | nil =>
    rw [List.nil_append, List.dropWhile_cons_of_pos hmark]
    rfl
  | cons c text =>
    rwa [dropWhile_eq_self_iff_head.2]
    intro d hd
    cases hd
    exact h c List.mem_cons_self

end Splitting

end Mockdr
