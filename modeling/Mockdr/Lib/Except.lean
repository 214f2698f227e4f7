import Mathlib.Data.List.Forall2
import Mathlib.Tactic.Lemma

/-!
# Computations that can raise

What is known of the steps of a computation in `Except` that succeeded, and of what one raises
(`Raises`).
-/

namespace Mockdr

variable {ε ε' α β : Type}

lemma bind_eq_ok_iff {x : Except ε α} {f : α → Except ε β} {b : β} :
    (x >>= f) = .ok b ↔ ∃ a, x = .ok a ∧ f a = .ok b := by
  cases x with
  | error e =>
    constructor
    · rintro ⟨⟩
    · rintro ⟨_, ⟨⟩, _⟩
  | ok a =>
    constructor
    · intro h
      exact ⟨a, rfl, h⟩
    · rintro ⟨_, ⟨⟩, h⟩
      exact h

lemma map_eq_ok_iff {x : Except ε α} {f : α → β} {b : β} :
    x.map f = .ok b ↔ ∃ a, x = .ok a ∧ f a = b := by
  cases x with
  | error e =>
    constructor
    · rintro ⟨⟩
    · rintro ⟨_, ⟨⟩, _⟩
  | ok a =>
    constructor
    · rintro ⟨⟩
      exact ⟨a, rfl, rfl⟩
    · rintro ⟨_, ⟨⟩, rfl⟩
      rfl

lemma mapError_eq_ok_iff {x : Except ε α} {f : ε → ε'} {a : α} :
    x.mapError f = .ok a ↔ x = .ok a := by
  cases x with
  | error e =>
    constructor
    · rintro ⟨⟩
    · rintro ⟨⟩
  | ok b =>
    constructor
    · rintro ⟨⟩
      rfl
    · rintro ⟨⟩
      rfl

lemma exists_forall₂ {R : α → β → Prop} {l : List α} (h : ∀ a ∈ l, ∃ b, R a b) :
    ∃ bs, List.Forall₂ R l bs := by
  induction l with
  | nil => exact ⟨[], .nil⟩
  | cons a l ih =>
    obtain ⟨ha, hl⟩ := List.forall_mem_cons.1 h
    obtain ⟨b, hb⟩ := ha
    obtain ⟨bs, hbs⟩ := ih hl
    exact ⟨b :: bs, .cons hb hbs⟩

lemma exists_of_mem_forall₂ {R : α → β → Prop} {l : List α} {bs : List β} {b : β}
    (h : List.Forall₂ R l bs) (hb : b ∈ bs) : ∃ a ∈ l, R a b := by
  induction h with
  | nil => cases hb
  | cons hab _ ih =>
    rcases List.mem_cons.1 hb with rfl | hb
    · exact ⟨_, List.mem_cons_self, hab⟩
    · obtain ⟨a, ha, hf⟩ := ih hb
      exact ⟨a, List.mem_cons_of_mem _ ha, hf⟩

lemma mapM_eq_some_iff {f : α → Option β} {l : List α} {bs : List β} :
    l.mapM f = some bs ↔ List.Forall₂ (fun a b => f a = some b) l bs := by
  induction l generalizing bs with
  | nil =>
    rw [List.mapM_nil, List.forall₂_nil_left_iff]
    exact ⟨fun h => (Option.some.inj h).symm, fun h => congrArg some h.symm⟩
  | cons a l ih =>
    rw [List.mapM_cons, List.forall₂_cons_left_iff, Option.bind_eq_bind, Option.bind_eq_some_iff]
    constructor
    · rintro ⟨b, hb, h⟩
      obtain ⟨bs', hbs, h⟩ := Option.bind_eq_some_iff.1 h
      obtain rfl := Option.some.inj h
      exact ⟨b, bs', hb, ih.1 hbs, rfl⟩
    · rintro ⟨b, bs', hb, hbs, rfl⟩
      exact ⟨b, hb, Option.bind_eq_some_iff.2 ⟨bs', ih.2 hbs, rfl⟩⟩

lemma mapM_eq_none_iff {f : α → Option β} {l : List α} :
    l.mapM f = none ↔ ∃ a ∈ l, f a = none := by
  induction l with
  | nil =>
    rw [List.mapM_nil]
    simp
  | cons a l ih =>
    rw [List.mapM_cons]
    cases hfa : f a with
    | none =>
      simp only [Option.bind_eq_bind, Option.bind_none, List.exists_mem_cons_iff, hfa, true_or]
    | some b =>
      simp only [Option.bind_eq_bind, Option.bind_some, List.exists_mem_cons_iff, hfa,
        reduceCtorEq, false_or]
      rw [← ih]
      cases l.mapM f <;> simp

lemma mapM_eq_iff_of_eq {f g : α → Option β} {l : List α} {bs : List β}
    (h : l.mapM f = some bs) : l.mapM g = some bs ↔ ∀ a ∈ l, g a = f a := by
  rw [mapM_eq_some_iff] at h ⊢
  induction h with
  | nil => exact iff_of_true .nil fun _ ha => absurd ha List.not_mem_nil
  | @cons a b l bs hab _ ih =>
    rw [List.forall₂_cons, ih, List.forall_mem_cons, hab]

lemma mapM_option_map {γ : Type} (f : α → Option β) (g : β → γ) (l : List α) :
    (l.mapM fun a => (f a).map g) = (l.mapM f).map (List.map g) := by
  induction l with
  | nil => rfl
  | cons a l ih =>
    rw [List.mapM_cons, List.mapM_cons, ih]
    cases f a with
    | none => rfl
    | some b => cases l.mapM f <;> rfl

lemma filterAuxM_eq (f : α → Option Bool) (l acc : List α) :
    l.filterAuxM f acc = (l.filterAuxM f []).map (· ++ acc) := by
  induction l generalizing acc with
  | nil => rfl
  | cons a l ih =>
    rw [List.filterAuxM, List.filterAuxM]
    cases f a with
    | none => rfl
    | some b =>
      change l.filterAuxM f (cond b (a :: acc) acc)
        = (l.filterAuxM f (cond b [a] [])).map (· ++ acc)
      rw [ih (cond b (a :: acc) acc), ih (cond b [a] [])]
      cases l.filterAuxM f [] with
      | none => rfl
      | some kept => cases b <;> simp

lemma filterM_cons_option (f : α → Option Bool) (a : α) (l : List α) :
    (a :: l).filterM f = (f a).bind fun b =>
      (l.filterM f).map fun kept => if b then a :: kept else kept := by
  rw [List.filterM, List.filterM, List.filterAuxM]
  cases f a with
  | none => rfl
  | some b =>
    simp only [Option.bind_eq_bind, Option.bind_some]
    rw [filterAuxM_eq]
    cases l.filterAuxM f [] with
    | none => rfl
    | some kept => cases b <;> simp

lemma filterM_eq_ite (f : α → Option Bool) (l : List α) :
    l.filterM f = if ∀ a ∈ l, (f a).isSome then
        some (l.filter fun a => f a = some true) else none := by
  induction l with
  | nil => rfl
  | cons a l ih =>
    rw [filterM_cons_option, ih]
    simp only [List.forall_mem_cons]
    cases ha : f a with
    | none => simp
    | some b =>
      by_cases hl : ∀ a ∈ l, (f a).isSome
      · simp only [Option.isSome_some, true_and, if_pos hl, Option.bind_some, Option.map_some,
          List.filter_cons, ha, Option.some.injEq]
        cases b <;> rfl
      · simp only [Option.isSome_some, true_and, if_neg hl, Option.bind_some, Option.map_none]

lemma filterM_append_of_false {f : α → Option Bool} {l : List α} (h : ∀ a ∈ l, f a = some false)
    (l' : List α) : (l ++ l').filterM f = l'.filterM f := by
  induction l with
  | nil => rfl
  | cons a l ih =>
    obtain ⟨ha, hl⟩ := List.forall_mem_cons.1 h
    rw [List.cons_append, filterM_cons_option, ha, ih hl]
    cases l'.filterM f <;> rfl

lemma filterM_map {γ : Type} (f : α → Option Bool) (g : γ → α) (l : List γ) :
    (l.map g).filterM f = (l.filterM (f ∘ g)).map (List.map g) := by
  induction l with
  | nil => rfl
  | cons a l ih =>
    rw [List.map_cons, filterM_cons_option, filterM_cons_option, ih, Function.comp_apply]
    cases f (g a) with
    | none => rfl
    | some b =>
      cases l.filterM (f ∘ g) with
      | none => rfl
      | some kept => cases b <;> rfl

lemma exists_getElem?_of_forall₂ {R : α → β → Prop} {l : List α} {bs : List β}
    (h : List.Forall₂ R l bs) {i : Nat} {a : α} (ha : l[i]? = some a) :
    ∃ b, bs[i]? = some b ∧ R a b := by
  induction h generalizing i with
  | nil => simp at ha
  | cons hab _ ih =>
    cases i with
    | zero =>
      obtain rfl := Option.some.inj ha
      exact ⟨_, rfl, hab⟩
    | succ i => exact ih ha

/-- A list is gone through when each of its elements is, one after the other. -/
lemma mapM_eq_ok_iff {f : α → Except ε β} {l : List α} {bs : List β} :
    l.mapM f = .ok bs ↔ List.Forall₂ (fun a b => f a = .ok b) l bs := by
  induction l generalizing bs with
  | nil =>
    rw [List.mapM_nil, List.forall₂_nil_left_iff]
    constructor
    · rintro ⟨⟩
      rfl
    · rintro rfl
      rfl
  | cons a l ih =>
    rw [List.mapM_cons, bind_eq_ok_iff, List.forall₂_cons_left_iff]
    constructor
    · rintro ⟨b, hb, h⟩
      obtain ⟨bs', hbs, h⟩ := bind_eq_ok_iff.1 h
      cases h
      exact ⟨b, bs', hb, ih.1 hbs, rfl⟩
    · rintro ⟨b, bs', hb, hbs, rfl⟩
      refine ⟨b, hb, ?_⟩
      rw [ih.2 hbs]
      rfl

lemma exists_of_mem_mapM {f : α → Except ε β} {l : List α} {bs : List β} {b : β}
    (h : l.mapM f = .ok bs) (hb : b ∈ bs) : ∃ a ∈ l, f a = .ok b :=
  exists_of_mem_forall₂ (R := fun a b => f a = .ok b) (mapM_eq_ok_iff.1 h) hb

lemma forM_eq_ok_iff {f : α → Except ε Unit} {l : List α} :
    l.forM f = .ok () ↔ ∀ a ∈ l, f a = .ok () := by
  induction l with
  | nil => exact ⟨fun _ _ h => absurd h List.not_mem_nil, fun _ => rfl⟩
  | cons a l ih =>
    change (f a >>= fun _ => l.forM f) = .ok () ↔ _
    rw [bind_eq_ok_iff, List.forall_mem_cons, ← ih]
    constructor
    · rintro ⟨_, ha, hl⟩
      exact ⟨ha, hl⟩
    · rintro ⟨ha, hl⟩
      exact ⟨(), ha, hl⟩

lemma mapM_eq_ok_zipWith_iff {γ : Type} {f : α → Except ε β} {R : α → γ → Prop} {g : α → γ → β}
    {l : List α} {bs : List β} (h : ∀ a ∈ l, ∀ b, f a = .ok b ↔ ∃ c, R a c ∧ b = g a c) :
    l.mapM f = .ok bs ↔ ∃ cs, List.Forall₂ R l cs ∧ bs = List.zipWith g l cs := by
  rw [mapM_eq_ok_iff]
  induction l generalizing bs with
  | nil => simp
  | cons a l ih =>
    rw [List.forall₂_cons_left_iff]
    constructor
    · rintro ⟨b, bs', hb, hbs, rfl⟩
      obtain ⟨c, hc, rfl⟩ := (h a List.mem_cons_self b).1 hb
      obtain ⟨cs, hcs, rfl⟩ := (ih fun x hx => h x (List.mem_cons_of_mem a hx)).1 hbs
      exact ⟨c :: cs, .cons hc hcs, rfl⟩
    · rintro ⟨cs, hcs, rfl⟩
      obtain ⟨c, cs', hc, hcs', rfl⟩ := List.forall₂_cons_left_iff.1 hcs
      exact ⟨g a c, List.zipWith g l cs', (h a List.mem_cons_self _).2 ⟨c, hc, rfl⟩,
        (ih fun x hx => h x (List.mem_cons_of_mem a hx)).2 ⟨cs', hcs', rfl⟩, rfl⟩

lemma foldlM_ok_of_mem {f : β → α → Except ε β} {l : List α}
    (h : ∀ b, ∀ a ∈ l, ∃ b', f b a = .ok b') (b : β) : ∃ b', l.foldlM f b = .ok b' := by
  induction l generalizing b with
  | nil => exact ⟨b, rfl⟩
  | cons a l ih =>
    obtain ⟨c, hc⟩ := h b a List.mem_cons_self
    obtain ⟨b', hb'⟩ := ih (fun b x hx => h b x (List.mem_cons_of_mem a hx)) c
    rw [List.foldlM_cons]
    exact ⟨b', bind_eq_ok_iff.2 ⟨c, hc, hb'⟩⟩

/-- A loop goes through exactly when each of its turns does, where a turn goes through or not
    whatever the turns before have left. -/
lemma foldlM_ok_iff {f : β → α → Except ε β} {P : α → Prop}
    (h : ∀ b a, (∃ b', f b a = .ok b') ↔ P a) {l : List α} {b : β} :
    (∃ b', l.foldlM f b = .ok b') ↔ ∀ a ∈ l, P a := by
  induction l generalizing b with
  | nil => exact ⟨fun _ _ ha => absurd ha List.not_mem_nil, fun _ => ⟨b, rfl⟩⟩
  | cons a l ih =>
    rw [List.foldlM_cons, List.forall_mem_cons]
    constructor
    · rintro ⟨b', hb'⟩
      obtain ⟨c, hc, hrest⟩ := bind_eq_ok_iff.1 hb'
      exact ⟨(h b a).1 ⟨c, hc⟩, ih.1 ⟨b', hrest⟩⟩
    · rintro ⟨ha, hl⟩
      obtain ⟨c, hc⟩ := (h b a).2 ha
      obtain ⟨b', hb'⟩ := ih.2 hl
      exact ⟨b', bind_eq_ok_iff.2 ⟨c, hc, hb'⟩⟩

lemma exists_ok_of_mem_foldlM {f : β → α → Except ε β} {l : List α} {a : α} {b b' : β}
    (h : l.foldlM f b = .ok b') (ha : a ∈ l) : ∃ c c', f c a = .ok c' := by
  induction l generalizing b with
  | nil => cases ha
  | cons x l ih =>
    rw [List.foldlM_cons] at h
    obtain ⟨c, hc, hrest⟩ := bind_eq_ok_iff.1 h
    rcases List.mem_cons.1 ha with rfl | ha
    · exact ⟨b, c, hc⟩
    · exact ih hrest ha

/-- Whether a test that can raise succeeds and answers yes. -/
def affirms : Except ε Bool → Bool
  | .ok b => b
  | .error _ => false

lemma any_of_anyM_eq_ok {f : α → Except ε Bool} {l : List α} {b : Bool} (h : l.anyM f = .ok b) :
    l.any (fun a => affirms (f a)) = b := by
  induction l with
  | nil =>
    cases h
    rfl
  | cons a l ih =>
    rw [List.any_cons]
    rw [List.anyM] at h
    obtain ⟨c, hc, h⟩ := bind_eq_ok_iff.1 h
    rw [hc]
    cases c with
    | true =>
      cases h
      rfl
    | false => exact ih h

lemma filterAuxM_append (f : α → Except ε Bool) (l acc : List α) :
    l.filterAuxM f acc = (l.filterAuxM f []).map (· ++ acc) := by
  induction l generalizing acc with
  | nil => rfl
  | cons a l ih =>
    rw [List.filterAuxM, List.filterAuxM]
    cases f a with
    | error e => rfl
    | ok b =>
      change l.filterAuxM f (cond b (a :: acc) acc)
        = (l.filterAuxM f (cond b [a] [])).map (· ++ acc)
      rw [ih (cond b (a :: acc) acc), ih (cond b [a] [])]
      cases l.filterAuxM f [] with
      | error e => rfl
      | ok kept => cases b <;> simp [Except.map]

lemma filterM_nil (f : α → Except ε Bool) : ([] : List α).filterM f = .ok [] := rfl

lemma filterM_cons (f : α → Except ε Bool) (a : α) (l : List α) :
    (a :: l).filterM f = f a >>= fun b =>
      (l.filterM f).map fun kept => if b then a :: kept else kept := by
  rw [List.filterM, List.filterM, List.filterAuxM]
  cases f a with
  | error e => rfl
  | ok b =>
    change (l.filterAuxM f (cond b [a] [])).map List.reverse = _
    rw [filterAuxM_append]
    cases h : l.filterAuxM f [] with
    | error e => rfl
    | ok kept => cases b <;> simp [Except.map, bind, Except.bind, pure, Except.pure]

lemma exists_of_filterM_error {f : α → Except ε Bool} {l : List α} {e : ε}
    (h : l.filterM f = .error e) : ∃ a ∈ l, f a = .error e := by
  induction l with
  | nil => cases h
  | cons a l ih =>
    rw [filterM_cons] at h
    cases hfa : f a with
    | error e' =>
      rw [hfa] at h
      cases h
      exact ⟨a, List.mem_cons_self, hfa⟩
    | ok b =>
      rw [hfa] at h
      cases hl : l.filterM f with
      | error e' =>
        obtain ⟨a', ha', hf⟩ := ih (by rw [hl] at h ⊢; cases h; rfl)
        exact ⟨a', List.mem_cons_of_mem a ha', hf⟩
      | ok kept =>
        rw [hl] at h
        cases h

lemma subset_of_filterM {f : α → Except ε Bool} {l kept : List α} (h : l.filterM f = .ok kept) :
    kept ⊆ l := by
  induction l generalizing kept with
  | nil =>
    cases h
    exact fun _ ha => ha
  | cons a l ih =>
    rw [filterM_cons] at h
    obtain ⟨b, -, h⟩ := bind_eq_ok_iff.1 h
    obtain ⟨rest, hrest, rfl⟩ := map_eq_ok_iff.1 h
    have hsub := List.Subset.trans (ih hrest) (List.subset_cons_self a l)
    cases b with
    | true => exact List.cons_subset_cons a (ih hrest)
    | false => exact hsub

lemma filterM_eq_filter {f : α → Except ε Bool} {p : α → Bool} {l : List α}
    (h : ∀ a ∈ l, f a = .ok (p a)) : l.filterM f = .ok (l.filter p) := by
  induction l with
  | nil => rfl
  | cons a l ih =>
    obtain ⟨ha, hl⟩ := List.forall_mem_cons.1 h
    rw [filterM_cons, ha, ih hl, List.filter_cons]
    rfl

lemma foldlM_eq_filter {step : List α → β → Except ε (List α)} {q : β → α → Bool} {l : List β}
    {records : List α}
    (h : ∀ b ∈ l, ∀ left, left ⊆ records → step left b = .ok (left.filter (q b))) :
    l.foldlM step records = .ok (records.filter fun a => l.all fun b => q b a) := by
  induction l generalizing records with
  | nil =>
    simp only [List.all_nil, List.filter_true]
    rfl
  | cons b l ih =>
    obtain ⟨hb, hl⟩ := List.forall_mem_cons.1 h
    have hrest := @ih (records.filter (q b)) fun b' hb' left hleft =>
      hl b' hb' left fun a ha => List.mem_of_mem_filter (hleft ha)
    rw [List.foldlM_cons, hb records fun _ ha => ha]
    refine hrest.trans (congrArg Except.ok ?_)
    rw [List.filter_filter]
    refine List.filter_congr fun a _ => ?_
    rw [List.all_cons, Bool.and_comm]

/-- What a computation raises, if it raises, is one of certain things. -/
def Raises (P : ε → Prop) (x : Except ε α) : Prop := ∀ e, x = .error e → P e

namespace Raises

variable {P Q : ε → Prop} {x : Except ε α}

lemma ok (a : α) : Raises P (.ok a : Except ε α) := nofun

lemma error {e : ε} (h : P e) : Raises P (.error e : Except ε α) := by
  rintro _ ⟨⟩
  exact h

lemma bind {f : α → Except ε β} (hx : Raises P x) (hf : ∀ a, x = .ok a → Raises P (f a)) :
    Raises P (x >>= f) := by
  cases x with
  | error e => exact error (hx e rfl)
  | ok a => exact hf a rfl

lemma map {f : α → β} (hx : Raises P x) : Raises P (x.map f) := by
  cases x with
  | error e => exact error (hx e rfl)
  | ok a => exact ok (f a)

lemma mapM {f : α → Except ε β} {l : List α} (h : ∀ a ∈ l, Raises P (f a)) :
    Raises P (l.mapM f) := by
  induction l with
  | nil => exact ok []
  | cons a l ih =>
    obtain ⟨ha, hl⟩ := List.forall_mem_cons.1 h
    rw [List.mapM_cons]
    exact ha.bind fun b _ => (ih hl).bind fun bs _ => ok (b :: bs)

lemma filterM {f : α → Except ε Bool} {l : List α} (h : ∀ a ∈ l, Raises P (f a)) :
    Raises P (l.filterM f) := by
  rintro e he
  obtain ⟨a, ha, hf⟩ := exists_of_filterM_error he
  exact h a ha e hf

lemma anyM {f : α → Except ε Bool} {l : List α} (h : ∀ a ∈ l, Raises P (f a)) :
    Raises P (l.anyM f) := by
  induction l with
  | nil => exact ok false
  | cons a l ih =>
    obtain ⟨ha, hl⟩ := List.forall_mem_cons.1 h
    rw [List.anyM]
    refine ha.bind ?_
    intro b _
    cases b with
    | true => exact ok true
    | false => exact ih hl

lemma foldlM {I : β → Prop} {f : β → α → Except ε β} {l : List α} {b : β} (hb : I b)
    (hstep : ∀ b, ∀ a ∈ l, I b → Raises P (f b a) ∧ ∀ b', f b a = .ok b' → I b') :
    Raises P (l.foldlM f b) ∧ ∀ b', l.foldlM f b = .ok b' → I b' := by
  induction l generalizing b with
  | nil =>
    refine ⟨ok b, ?_⟩
    rintro _ ⟨⟩
    exact hb
  | cons a l ih =>
    obtain ⟨hraises, hkeeps⟩ := hstep b a List.mem_cons_self hb
    have hrest : ∀ b', f b a = .ok b' →
        Raises P (l.foldlM f b') ∧ ∀ b'', l.foldlM f b' = .ok b'' → I b'' := fun b' hb' =>
      ih (hkeeps b' hb') fun c a' ha' => hstep c a' (List.mem_cons_of_mem a ha')
    rw [List.foldlM_cons]
    refine ⟨hraises.bind fun b' hb' => (hrest b' hb').1, ?_⟩
    intro b'' h
    obtain ⟨b', hb', h⟩ := bind_eq_ok_iff.1 h
    exact (hrest b' hb').2 b'' h

end Raises

/-- Some element passes a test that may raise: one does before which the test does not raise. -/
lemma anyM_eq_some_true_iff {f : α → Option Bool} {l : List α} :
    l.anyM f = some true
      ↔ ∃ read a rest, l = read ++ a :: rest ∧ (∀ b ∈ read, f b ≠ none) ∧ f a = some true := by
  induction l with
  | nil =>
    refine iff_of_false (by simp) ?_
    rintro ⟨read, a, rest, hl, -⟩
    exact List.append_ne_nil_of_right_ne_nil read (List.cons_ne_nil a rest) hl.symm
  | cons c l ih =>
    rw [List.anyM]
    cases hc : f c with
    | none =>
      refine iff_of_false (fun h => nomatch h) ?_
      rintro ⟨read, a, rest, hl, hread, ha⟩
      cases read with
      | nil =>
        obtain ⟨rfl, -⟩ := List.cons.inj hl
        exact nomatch hc.symm.trans ha
      | cons b read =>
        obtain ⟨rfl, -⟩ := List.cons.inj hl
        exact hread c List.mem_cons_self hc
    | some passed =>
      cases passed with
      | true => exact iff_of_true rfl ⟨[], c, l, rfl, fun b hb => absurd hb List.not_mem_nil, hc⟩
      | false =>
        refine ih.trans ⟨?_, ?_⟩
        · rintro ⟨read, a, rest, rfl, hread, ha⟩
          refine ⟨c :: read, a, rest, rfl, List.forall_mem_cons.2 ⟨?_, hread⟩, ha⟩
          rw [hc]
          exact Option.some_ne_none false
        · rintro ⟨read, a, rest, hl, hread, ha⟩
          cases read with
          | nil =>
            obtain ⟨rfl, -⟩ := List.cons.inj hl
            exact nomatch hc.symm.trans ha
          | cons b read =>
            obtain ⟨-, hl⟩ := List.cons.inj hl
            exact ⟨read, a, rest, hl, (List.forall_mem_cons.1 hread).2, ha⟩

end Mockdr
