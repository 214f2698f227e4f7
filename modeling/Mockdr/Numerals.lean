import Mockdr.Python

/-!
# Numerals

What `str` writes of an integer, and `int` reads.

* `Python.AsciiDigits`: the built-ins know the ASCII digits.
* `parseInt_toString`: an integer that was written is read back.
* `PlainNumeral`: what `str` writes of a natural number, by its characters.
-/

namespace Mockdr

/-- The value of an ASCII digit is known. -/
def Python.AsciiDigits (py : Python) : Prop :=
  ∀ c : Char, c.isDigit = true → py.digit c = some (c.toNat - 48)

variable {py : Python}

lemma mapM_digits (hpy : py.AsciiDigits) {digits : List Char}
    (h : ∀ c ∈ digits, c.isDigit = true) :
    digits.mapM py.digit = some (digits.map fun c => c.toNat - 48) := by
  induction digits with
  | nil => rfl
  | cons c digits ih =>
    rw [List.mapM_cons, hpy c (h c List.mem_cons_self),
      ih fun d hd => h d (List.mem_cons_of_mem c hd)]
    rfl

/-- The value of digits, as `int` adds them up. -/
lemma foldl_digits (digits : List Char) (m : Nat) :
    ((digits.map fun c => c.toNat - 48 : List Nat) : List Int).foldl (fun n d => 10 * n + d)
        (m : Int)
      = (Nat.ofDigitChars 10 digits m : Nat) := by
  induction digits generalizing m with
  | nil => rfl
  | cons c digits ih =>
    rw [Nat.ofDigitChars_cons, ← ih]
    simp

/-- `int` reads the digits of a number. -/
lemma readInt_toDigits (hpy : py.AsciiDigits) {n : Nat} (sign : Bool)
    (h : (Nat.toDigits 10 n).length ≤ 4300) :
    py.readInt (String.ofList ((if sign then ['-'] else []) ++ Nat.toDigits 10 n))
      = some (if sign then -(n : Int) else n) := by
  have hdigit : ∀ c ∈ Nat.toDigits 10 n, c.isDigit = true :=
    fun c hc => Nat.isDigit_of_mem_toDigits (by decide) (by decide) hc
  have hvalue := foldl_digits (Nat.toDigits 10 n) 0
  rw [Nat.ofDigitChars_ten_toDigits] at hvalue
  have hbound : ¬ (Nat.toDigits 10 n = [] ∨ 4300 < (Nat.toDigits 10 n).length) :=
    not_or.2 ⟨Nat.toDigits_ne_nil, Nat.not_lt.2 h⟩
  have hread : (Nat.toDigits 10 n).mapM py.digit = _ := mapM_digits hpy hdigit
  rw [Python.readInt, String.toList_ofList]
  cases sign with
  | true =>
    simp only [if_true, List.cons_append, List.nil_append]
    rw [if_neg hbound, hread, Option.map_some]
    exact congrArg (fun x => some (-x)) hvalue
  | false =>
    obtain ⟨c, ds, hd⟩ := List.exists_cons_of_ne_nil (Nat.toDigits_ne_nil (n := n) (b := 10))
    have hc := hdigit c (hd ▸ List.mem_cons_self)
    simp only [Bool.false_eq_true, if_false, List.nil_append]
    split
    · next hm =>
      rw [hd] at hm
      cases hm
      exact absurd hc (by decide)
    · next hm =>
      rw [hd] at hm
      cases hm
      exact absurd hc (by decide)
    · simp only [Bool.false_eq_true, if_false]
      rw [if_neg hbound, hread, Option.map_some]
      exact congrArg some hvalue

lemma toList_toString (m : Int) :
    (toString m).toList = (if m < 0 then ['-'] else []) ++ Nat.toDigits 10 m.natAbs := by
  cases m with
  | ofNat n =>
    change n.repr.toList = _
    rw [if_neg (by simp), Nat.toList_repr]
    rfl
  | negSucc n =>
    change ("-" ++ (n + 1).repr).toList = _
    rw [if_pos (Int.negSucc_lt_zero n), String.toList_append, Nat.toList_repr]
    rfl

lemma mem_toString {m : Int} {c : Char} (h : c ∈ (toString m).toList) :
    c = '-' ∨ c.isDigit = true := by
  rw [toList_toString, List.mem_append] at h
  rcases h with h | h
  · split at h
    · exact .inl (List.mem_singleton.1 h)
    · cases h
  · exact .inr (Nat.isDigit_of_mem_toDigits (by decide) (by decide) h)

lemma isSpace_of_isDigit {c : Char} (h : c.isDigit = true) : isSpace c = false := by
  simp only [Char.isDigit, Bool.and_eq_true, decide_eq_true_eq, ge_iff_le,
    UInt32.le_iff_toNat_le] at h
  change 48 ≤ c.toNat ∧ c.toNat ≤ 57 at h
  simp only [isSpace, Bool.or_eq_false_iff, Bool.and_eq_false_iff, decide_eq_false_iff_not]
  omega

lemma strip_eq_self {s : String} (h : ∀ c ∈ s.toList, isSpace c = false) : strip s = s := by
  have hdrop : ∀ l : List Char, (∀ c ∈ l, isSpace c = false) → l.dropWhile isSpace = l := by
    intro l hl
    cases l with
    | nil => rfl
    | cons c l => exact List.dropWhile_cons_of_neg (by simp [hl c List.mem_cons_self])
  rw [strip, hdrop _ h, hdrop _ fun c hc => h c (List.mem_reverse.1 hc), List.reverse_reverse,
    String.ofList_toList]

/-- `int` takes what `str` writes for a sign and one group of digits. -/
lemma parseInt_toString_eq (hpy : py.AsciiDigits) (m : Int) :
    py.parseInt (toString m)
      = py.readInt (String.ofList ((if m < 0 then ['-'] else []) ++ Nat.toDigits 10 m.natAbs)) := by
  have hstrip : strip (toString m) = toString m := by
    refine strip_eq_self fun c hc => ?_
    rcases mem_toString hc with rfl | hc
    · decide
    · exact isSpace_of_isDigit hc
  have hdigit : ∀ c ∈ Nat.toDigits 10 m.natAbs, c.isDigit = true :=
    fun c hc => Nat.isDigit_of_mem_toDigits (by decide) (by decide) hc
  have hgroups : (Nat.toDigits 10 m.natAbs).splitOn '_' = [Nat.toDigits 10 m.natAbs] :=
    List.splitOn_eq_singleton Nat.underscore_not_in_toDigits
  have hgood : ([Nat.toDigits 10 m.natAbs].any fun g =>
      g.isEmpty || g.any fun c => (py.digit c).isNone) = false := by
    rw [List.any_cons, List.any_nil, Bool.or_false, Bool.or_eq_false_iff,
      List.isEmpty_eq_false_iff, List.any_eq_false]
    refine ⟨Nat.toDigits_ne_nil, fun c hc => ?_⟩
    rw [hpy c (hdigit c hc)]
    exact Bool.false_ne_true
  rw [Python.parseInt, hstrip, toList_toString]
  by_cases hm : m < 0
  · simp only [hm, if_true, List.cons_append, List.nil_append, hgroups, List.flatten_cons,
      List.flatten_nil, List.append_nil]
    rw [if_neg (by rw [hgood]; exact Bool.false_ne_true)]
  · simp only [hm, if_false, List.nil_append]
    obtain ⟨c, ds, hd⟩ := List.exists_cons_of_ne_nil
      (Nat.toDigits_ne_nil (n := m.natAbs) (b := 10))
    have hc := hdigit c (hd ▸ List.mem_cons_self)
    split
    · next hmatch =>
      rw [hd] at hmatch
      cases hmatch
      exact absurd hc (by decide)
    · next hmatch =>
      rw [hd] at hmatch
      cases hmatch
      exact absurd hc (by decide)
    · simp only [hgroups, List.flatten_cons, List.flatten_nil, List.append_nil, List.nil_append]
      rw [if_neg (by rw [hgood]; exact Bool.false_ne_true)]

/-- `int` reads what `str` writes. -/
lemma parseInt_toString (hpy : py.AsciiDigits) {m : Int}
    (h : (Nat.toDigits 10 m.natAbs).length ≤ 4300) :
    py.parseInt (toString m) = some m := by
  have hread : py.readInt _ = _ := readInt_toDigits hpy (decide (m < 0)) h
  simp only [decide_eq_true_eq] at hread
  rw [parseInt_toString_eq hpy, hread]
  split_ifs
  · exact congrArg some (by omega)
  · exact congrArg some (by omega)

/-- `int` reads no more than 4300 digits. -/
lemma parseInt_toString_of_long (hpy : py.AsciiDigits) {n : Nat}
    (h : 4300 < (Nat.toDigits 10 n).length) : py.parseInt (toString (n : Int)) = none := by
  have hneg : ¬ (n : Int) < 0 := by omega
  have hdigit : ∀ c ∈ Nat.toDigits 10 n, c.isDigit = true :=
    fun c hc => Nat.isDigit_of_mem_toDigits (by decide) (by decide) hc
  rw [parseInt_toString_eq hpy, if_neg hneg, List.nil_append, Int.natAbs_natCast, Python.readInt,
    String.toList_ofList]
  obtain ⟨c, ds, hd⟩ := List.exists_cons_of_ne_nil (Nat.toDigits_ne_nil (n := n) (b := 10))
  have hc := hdigit c (hd ▸ List.mem_cons_self)
  split
  · next hmatch =>
    split at hmatch
    · next hm =>
      rw [hd] at hm
      cases hm
      exact absurd hc (by decide)
    · next hm =>
      rw [hd] at hm
      cases hm
      exact absurd hc (by decide)
    · cases hmatch
      exact if_pos (.inr h)

/-- `sys.maxsize` -/
def MAXSIZE : Nat := 9223372036854775807

lemma length_toDigits_le {n : Nat} (h : n ≤ MAXSIZE) : (Nat.toDigits 10 n).length ≤ 4300 := by
  have hlength : (Nat.toDigits 10 n).length ≤ 20 :=
    (Nat.length_toDigits_le_iff (by decide) (by decide)).2 (lt_of_le_of_lt h (by decide))
  omega

/-! ## What `str` writes -/

/-- A numeral as `str` writes it: ASCII digits, and a zero in front only of nothing. -/
def PlainNumeral (digits : List Char) : Prop :=
  digits ≠ [] ∧ (∀ c ∈ digits, c.isDigit = true) ∧ (digits.head? = some '0' → digits = ['0'])

lemma exists_digitChar {c : Char} (h : c.isDigit = true) : ∃ d < 10, Nat.digitChar d = c := by
  simp only [Char.isDigit, Bool.and_eq_true, decide_eq_true_eq, ge_iff_le,
    UInt32.le_iff_toNat_le] at h
  change 48 ≤ c.toNat ∧ c.toNat ≤ 57 at h
  refine ⟨c.toNat - 48, by omega, ?_⟩
  have hall : ∀ d < 10, Nat.digitChar d = Char.ofNat (d + 48) := by decide
  have hsum : c.toNat - 48 + 48 = c.toNat := by omega
  rw [hall _ (by omega), hsum, Char.ofNat_toNat]

lemma head?_toDigits_ne {n : Nat} (hn : 0 < n) : (Nat.toDigits 10 n).head? ≠ some '0' := by
  induction n using Nat.strong_induction_on with
  | h n ih =>
    have hchar : ∀ d < 10, 0 < d → Nat.digitChar d ≠ '0' := by decide
    rw [Nat.toDigits_eq_if (by decide)]
    split_ifs with hlt
    · intro heq
      exact hchar n hlt hn (Option.some.inj heq)
    · rw [List.head?_append_of_ne_nil _ Nat.toDigits_ne_nil]
      exact ih (n / 10) (by omega) (by omega)

/-- A plain numeral is what is written of a number. -/
lemma plainNumeral_iff {digits : List Char} :
    PlainNumeral digits ↔ ∃ n, Nat.toDigits 10 n = digits := by
  constructor
  · rintro ⟨hne, hdigits, hzero⟩
    induction digits using List.reverseRecOn with
    | nil => exact absurd rfl hne
    | append_singleton digits c ih =>
      obtain ⟨d, hd, rfl⟩ := exists_digitChar
        (hdigits c (List.mem_append_right _ (List.mem_singleton_self c)))
      rcases digits with _ | ⟨first, rest⟩
      · exact ⟨d, Nat.toDigits_of_lt_base hd⟩
      · have hfirst : first ≠ '0' := by
          rintro rfl
          have hlength := congrArg List.length (hzero rfl)
          simp at hlength
        obtain ⟨n, hn⟩ := ih (List.cons_ne_nil first rest)
          (fun c hc => hdigits c (List.mem_append_left _ hc))
          (fun h => absurd (Option.some.inj h) hfirst)
        have hpos : 0 < n := by
          refine Nat.pos_of_ne_zero ?_
          rintro rfl
          rw [Nat.toDigits_zero] at hn
          exact hfirst (List.cons.inj hn).1.symm
        refine ⟨10 * n + d, ?_⟩
        rw [← Nat.toDigits_append_toDigits (by decide) hpos hd, hn, Nat.toDigits_of_lt_base hd]
  · rintro ⟨n, rfl⟩
    refine ⟨Nat.toDigits_ne_nil,
      fun c hc => Nat.isDigit_of_mem_toDigits (by decide) (by decide) hc, fun h => ?_⟩
    rcases Nat.eq_zero_or_pos n with rfl | hpos
    · exact Nat.toDigits_zero 10
    · exact absurd h (head?_toDigits_ne hpos)

end Mockdr
