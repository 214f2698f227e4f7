import Mockdr.Elastic.Fnmatch

/-!
# What a pattern with wildcards can match

* `Glob.single`: an item that reads one character of a few; the others are `*` and `?`.
* `exists_other_match`: a pattern with a `*` or a `?` that matches a text matches another one.
* `length_globs`: a pattern without them has no more items than characters, and fewer if a `*` or a
  `?` stands in a set.
* `length_le_of_only`, `plain_of_only_itself`: a pattern that matches one text only is not shorter
  than it, and has neither a `*` nor a `?` if it matches itself only.
-/

namespace Mockdr

/-- Whether an item is a character or a set of them. -/
def Glob.single : Glob → Bool
  | .lit _ | .set _ _ => true
  | .star | .any => false

/-- A text that a pattern of single characters matches has one character for each. -/
lemma length_of_match {g : List Glob} {w : List Char} (hg : g.all Glob.single = true)
    (h : globMatch g w = true) : w.length = g.length := by
  induction g generalizing w with
  | nil =>
    rw [globMatch, List.isEmpty_iff] at h
    subst h
    rfl
  | cons item g ih =>
    rw [List.all_cons, Bool.and_eq_true] at hg
    cases item with
    | star => cases hg.1
    | any => cases hg.1
    | lit c =>
      cases w with
      | nil => cases h
      | cons d w =>
        rw [globMatch, Bool.and_eq_true] at h
        rw [List.length_cons, List.length_cons, ih hg.2 h.2]
    | set negated members =>
      cases w with
      | nil => cases h
      | cons d w =>
        rw [globMatch, Bool.and_eq_true] at h
        rw [List.length_cons, List.length_cons, ih hg.2 h.2]

/-- A pattern with a `*` or a `?` that matches a text matches another one too. -/
lemma exists_other_match {g : List Glob} {w : List Char} (hg : g.all Glob.single = false)
    (h : globMatch g w = true) : ∃ w', w' ≠ w ∧ globMatch g w' = true := by
  induction g generalizing w with
  | nil => cases hg
  | cons item g ih =>
    cases item with
    | star =>
      rw [globMatch, List.any_eq_true] at h
      obtain ⟨t, ht, hmatch⟩ := h
      refine ⟨'a' :: w, List.cons_ne_self 'a' w, ?_⟩
      rw [globMatch, List.any_eq_true]
      exact ⟨t, List.mem_cons_of_mem _ ht, hmatch⟩
    | any =>
      cases w with
      | nil => cases h
      | cons c w =>
        rw [globMatch] at h
        by_cases hc : c = 'a'
        · refine ⟨'b' :: w, ?_, h⟩
          rw [hc]
          exact fun heq => absurd (List.cons.inj heq).1 (by decide)
        · exact ⟨'a' :: w, fun heq => hc (List.cons.inj heq).1.symm, h⟩
    | lit c =>
      cases w with
      | nil => cases h
      | cons d w =>
        rw [globMatch, Bool.and_eq_true] at h
        obtain ⟨w', hne, hmatch⟩ := ih hg h.2
        refine ⟨d :: w', fun heq => hne (List.cons.inj heq).2, ?_⟩
        rw [globMatch, Bool.and_eq_true]
        exact ⟨h.1, hmatch⟩
    | set negated members =>
      cases w with
      | nil => cases h
      | cons d w =>
        rw [globMatch, Bool.and_eq_true] at h
        obtain ⟨w', hne, hmatch⟩ := ih hg h.2
        refine ⟨d :: w', fun heq => hne (List.cons.inj heq).2, ?_⟩
        rw [globMatch, Bool.and_eq_true]
        exact ⟨h.1, hmatch⟩

/-- The text behind a set is shorter than the one behind the bracket that opens it. -/
lemma length_closeSet {p members after : List Char} (h : closeSet p = some (members, after)) :
    after.length < p.length := by
  have hread : ∃ (rest : List Char) (c : Char),
      rest.length ≤ p.length ∧ rest.dropWhile (· ≠ ']') = c :: after := by
    unfold closeSet at h
    split at h
    next start first rest hstart =>
    have hlength : rest.length ≤ p.length := by
      split at hstart
      · cases hstart
        exact Nat.le_succ _
      · cases hstart
        exact Nat.le_refl _
    split at h
    · cases h
    · next c behind hdrop =>
      cases h
      exact ⟨rest, c, hlength, hdrop⟩
  obtain ⟨rest, c, hlength, hrest⟩ := hread
  have hdrop := (List.dropWhile_sublist (· ≠ ']') (l := rest)).length_le
  rw [hrest, List.length_cons] at hdrop
  omega

lemma step_single {n k : Nat} {c : Char} {p : List Char} (hstar : c ≠ '*') (hmark : c ≠ '?')
    (h : n ≤ k ∧ (n = k → '*' ∉ p ∧ '?' ∉ p)) :
    n + 1 ≤ k + 1 ∧ (n + 1 = k + 1 → '*' ∉ c :: p ∧ '?' ∉ c :: p) := by
  refine ⟨Nat.succ_le_succ h.1, fun hlength => ?_⟩
  obtain ⟨hno, hno'⟩ := h.2 (Nat.succ.inj hlength)
  rw [List.mem_cons, List.mem_cons, not_or, not_or]
  exact ⟨⟨Ne.symm hstar, hno⟩, ⟨Ne.symm hmark, hno'⟩⟩

/-- A pattern without a `*` and a `?` outside of its sets has at most one item for each character,
    and fewer if one stands in a set. -/
lemma length_globs (n : Nat) (p : List Char) (h : (globs n p).all Glob.single = true) :
    (globs n p).length ≤ p.length
      ∧ ((globs n p).length = p.length → '*' ∉ p ∧ '?' ∉ p) := by
  induction n, p using globs.induct with
  | case1 p =>
    rw [globs]
    refine ⟨Nat.zero_le _, fun hlength => ?_⟩
    rw [List.eq_nil_of_length_eq_zero hlength.symm]
    exact ⟨List.not_mem_nil, List.not_mem_nil⟩
  | case2 n hn =>
    rw [globs.eq_2 n hn]
    exact ⟨Nat.le_refl _, fun _ => ⟨List.not_mem_nil, List.not_mem_nil⟩⟩
  | case3 n p ih =>
    rw [globs] at h
    cases h
  | case4 n p ih =>
    rw [globs] at h
    cases h
  | case5 n p members after hclose ih =>
    have hglobs : globs (n + 1) ('[' :: '!' :: p) = .set true members :: globs n after := by
      rw [globs, hclose]
    rw [hglobs] at h ⊢
    have hle := (ih h).1
    have hafter := length_closeSet hclose
    simp only [List.length_cons]
    exact ⟨by omega, fun hlength => by omega⟩
  | case6 n p hclose ih =>
    have hglobs : globs (n + 1) ('[' :: '!' :: p) = .lit '[' :: globs n ('!' :: p) := by
      rw [globs, hclose]
    rw [hglobs] at h ⊢
    exact step_single (by decide) (by decide) (ih h)
  | case7 n p hmark members after hclose ih =>
    have hglobs : globs (n + 1) ('[' :: p) = .set false members :: globs n after := by
      rw [globs.eq_6 n p hmark, hclose]
    rw [hglobs] at h ⊢
    have hle := (ih h).1
    have hafter := length_closeSet hclose
    simp only [List.length_cons]
    exact ⟨by omega, fun hlength => by omega⟩
  | case8 n p hmark hclose ih =>
    have hglobs : globs (n + 1) ('[' :: p) = .lit '[' :: globs n p := by
      rw [globs.eq_6 n p hmark, hclose]
    rw [hglobs] at h ⊢
    exact step_single (by decide) (by decide) (ih h)
  | case9 n c p hstar hany hset hopen ih =>
    rw [globs.eq_7 n c p hstar hany hset hopen] at h ⊢
    exact step_single hstar hany (ih h)

lemma single_of_only {w p : String} (h : ∀ s, fnmatch s p = true ↔ s = w) :
    (globs p.toList.length p.toList).all Glob.single = true
      ∧ (globs p.toList.length p.toList).length = w.toList.length := by
  have hw : globMatch (globs p.toList.length p.toList) w.toList = true := (h w).2 rfl
  have hsingle : (globs p.toList.length p.toList).all Glob.single = true := by
    by_contra hno
    obtain ⟨w', hne, hmatch⟩ := exists_other_match (Bool.eq_false_iff.2 hno) hw
    refine hne ?_
    rw [← (h (String.ofList w')).1 (by rw [fnmatch, String.toList_ofList]; exact hmatch),
      String.toList_ofList]
  exact ⟨hsingle, (length_of_match hsingle hw).symm⟩

/-- A text is no longer than a pattern that matches nothing else. -/
lemma length_le_of_only {w p : String} (h : ∀ s, fnmatch s p = true ↔ s = w) :
    w.toList.length ≤ p.toList.length := by
  obtain ⟨hsingle, hlength⟩ := single_of_only h
  rw [← hlength]
  exact (length_globs _ _ hsingle).1

/-- A pattern that matches itself and nothing else has neither a `*` nor a `?`. -/
lemma plain_of_only_itself {p : String} (h : ∀ s, fnmatch s p = true ↔ s = p) :
    '*' ∉ p.toList ∧ '?' ∉ p.toList := by
  obtain ⟨hsingle, hlength⟩ := single_of_only h
  exact (length_globs _ _ hsingle).2 hlength

end Mockdr
