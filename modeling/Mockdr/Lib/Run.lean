import Mathlib.Data.List.Basic
import Mathlib.Tactic.Lemma

/-!
# Runs of a deterministic machine

A machine is a step function `σ → α → σ`; a run is the fold of its steps over a list of requests
(`runFrom`). `Along guard s as` says that every step of the run from `s` over `as` meets `guard` in
the state it is taken from.

* `Along.invariant`: what every guarded step preserves, a guarded run preserves.
* `Along.congr`: two guards that agree in the states of an invariant hold along the same runs.
* `Along.always_iff`: a property holds throughout a run exactly when every step is guarded;
  `Along.keeps_iff` says so of a property of the states and one of the steps.
* `specify` runs beside a machine what a view of it should be; `Along.tracks_iff`: the view is that
  at every moment of a run exactly when each step changes it as specified.
-/

namespace Mockdr

variable {σ τ α : Type*}

/-- The state in which the run over a list of requests ends. -/
def runFrom (step : σ → α → σ) (s : σ) (as : List α) : σ := as.foldl step s

@[simp] lemma runFrom_nil (step : σ → α → σ) (s : σ) : runFrom step s [] = s := rfl

@[simp] lemma runFrom_cons (step : σ → α → σ) (s : σ) (a : α) (as : List α) :
    runFrom step s (a :: as) = runFrom step (step s a) as := rfl

lemma runFrom_append (step : σ → α → σ) (s : σ) (as bs : List α) :
    runFrom step s (as ++ bs) = runFrom step (runFrom step s as) bs := List.foldl_append

/-- Every step of the run from `s` meets `guard` in the state it is taken from. -/
def Along (step : σ → α → σ) (guard : σ → α → Prop) : σ → List α → Prop
  | _, [] => True
  | s, a :: as => guard s a ∧ Along step guard (step s a) as

/-- Whether a run meets a decidable guard can be computed. -/
instance decidableAlong (step : σ → α → σ) (guard : σ → α → Prop)
    [∀ s a, Decidable (guard s a)] : ∀ s as, Decidable (Along step guard s as)
  | _, [] => .isTrue trivial
  | s, a :: as =>
    have := decidableAlong step guard (step s a) as
    inferInstanceAs (Decidable (guard s a ∧ Along step guard (step s a) as))

namespace Along

variable {step : σ → α → σ} {guard : σ → α → Prop}

lemma append_iff {s : σ} {as bs : List α} :
    Along step guard s (as ++ bs)
      ↔ Along step guard s as ∧ Along step guard (runFrom step s as) bs := by
  induction as generalizing s with
  | nil => simp [Along]
  | cons a as ih => simp only [List.cons_append, Along, runFrom_cons, ih, and_assoc]

lemma of_forall {P : α → Prop} {s : σ} {as : List α} (h : ∀ a ∈ as, P a) :
    Along step (fun _ a => P a) s as := by
  induction as generalizing s with
  | nil => trivial
  | cons a as ih =>
    exact ⟨h a List.mem_cons_self, ih fun b hb => h b (List.mem_cons_of_mem _ hb)⟩

lemma and_iff {guard' : σ → α → Prop} {s : σ} {as : List α} :
    Along step (fun s a => guard s a ∧ guard' s a) s as
      ↔ Along step guard s as ∧ Along step guard' s as := by
  induction as generalizing s with
  | nil => simp [Along]
  | cons a as ih => simp only [Along, ih]; tauto

/-- What every guarded step preserves, a guarded run preserves. -/
lemma invariant {I : σ → Prop} (hstep : ∀ s a, guard s a → I s → I (step s a))
    {s : σ} {as : List α} (h : Along step guard s as) (hs : I s) : I (runFrom step s as) := by
  induction as generalizing s with
  | nil => exact hs
  | cons a as ih => exact ih h.2 (hstep s a h.1 hs)

/-- Two guards that agree wherever an invariant holds, hold along the same runs. -/
lemma congr {I : σ → Prop} {P Q : σ → α → Prop} (hstep : ∀ s a, guard s a → I s → I (step s a))
    (hiff : ∀ s a, guard s a → I s → (P s a ↔ Q s a)) {s : σ} {as : List α}
    (h : Along step guard s as) (hs : I s) : Along step P s as ↔ Along step Q s as := by
  induction as generalizing s with
  | nil => rfl
  | cons a as ih => rw [Along, Along, hiff s a h.1 hs, ih h.2 (hstep s a h.1 hs)]

/-- A property that an invariant carries holds at every moment of a run exactly when every step of
    it is guarded, if a guarded step keeps the invariant and no other step leaves the property. -/
lemma always_iff {admitted : σ → α → Prop} {I P : σ → Prop} (hP : ∀ s, I s → P s)
    (hstep : ∀ s a, admitted s a → I s → guard s a → I (step s a))
    (hback : ∀ s a, admitted s a → I s → P (step s a) → guard s a) {s : σ} {as : List α}
    (hs : I s) (ha : Along step admitted s as) :
    (∀ pre, pre <+: as → P (runFrom step s pre)) ↔ Along step guard s as := by
  induction as generalizing s with
  | nil =>
    simp only [List.prefix_nil, forall_eq, runFrom_nil, Along, iff_true]
    exact hP s hs
  | cons a as ih =>
    obtain ⟨ha, hlater⟩ := ha
    constructor
    · intro h
      have hguard := hback s a ha hs (h [a] (List.prefix_append [a] as))
      refine ⟨hguard, (ih (hstep s a ha hs hguard) hlater).1 ?_⟩
      intro pre hpre
      exact h (a :: pre) (List.cons_prefix_cons.2 ⟨rfl, hpre⟩)
    · rintro ⟨hguard, hrest⟩ pre hpre
      cases pre with
      | nil => exact hP s hs
      | cons b pre =>
        obtain ⟨rfl, hpre'⟩ := List.cons_prefix_cons.1 hpre
        exact (ih (hstep s b ha hs hguard) hlater).2 hrest pre hpre'

/-- What holds of every step of a run, of the state it meets and of the state it leaves. -/
lemma steps_iff {T : σ → α → σ → Prop} {s : σ} {as : List α} :
    (∀ pre a, pre ++ [a] <+: as → T (runFrom step s pre) a (runFrom step s (pre ++ [a])))
      ↔ Along step (fun s a => T s a (step s a)) s as := by
  induction as generalizing s with
  | nil =>
    simp only [List.prefix_nil, List.append_eq_nil_iff, List.cons_ne_self, and_false,
      false_implies, implies_true, Along]
  | cons b as ih =>
    rw [Along, ← ih]
    constructor
    · intro h
      refine ⟨h [] b (List.prefix_append [b] as), ?_⟩
      intro pre a hpre
      exact h (b :: pre) a (List.cons_prefix_cons.2 ⟨rfl, hpre⟩)
    · rintro ⟨hfirst, hrest⟩ pre a hpre
      cases pre with
      | nil =>
        obtain ⟨rfl, -⟩ := List.cons_prefix_cons.1 hpre
        exact hfirst
      | cons c pre =>
        obtain ⟨rfl, hpre'⟩ := List.cons_prefix_cons.1 hpre
        exact hrest pre a hpre'

lemma moments_cons {P : σ → Prop} {s : σ} {a : α} {as : List α} :
    (∀ pre, pre <+: a :: as → P (runFrom step s pre))
      ↔ P s ∧ ∀ pre, pre <+: as → P (runFrom step (step s a) pre) := by
  constructor
  · intro h
    refine ⟨h [] List.nil_prefix, fun pre hpre => ?_⟩
    exact h (a :: pre) (List.cons_prefix_cons.2 ⟨rfl, hpre⟩)
  · rintro ⟨hstart, hrest⟩ pre hpre
    cases pre with
    | nil => exact hstart
    | cons b pre =>
      obtain ⟨rfl, hpre'⟩ := List.cons_prefix_cons.1 hpre
      exact hrest pre hpre'

/-- A property of the states that an invariant carries, and one of the steps, hold along a run
    exactly when every step of it is guarded, if a guarded step keeps the invariant and has the one,
    and no other step has it and leaves the other. -/
lemma keeps_iff {admitted : σ → α → Prop} {I P : σ → Prop} {T : σ → α → σ → Prop}
    (hP : ∀ s, I s → P s)
    (hstep : ∀ s a, admitted s a → I s → guard s a → I (step s a) ∧ T s a (step s a))
    (hback : ∀ s a, admitted s a → I s → P (step s a) → T s a (step s a) → guard s a) {s : σ}
    {as : List α} (hs : I s) (ha : Along step admitted s as) :
    ((∀ pre, pre <+: as → P (runFrom step s pre))
        ∧ ∀ pre a, pre ++ [a] <+: as → T (runFrom step s pre) a (runFrom step s (pre ++ [a])))
      ↔ Along step guard s as := by
  rw [steps_iff]
  induction as generalizing s with
  | nil =>
    simp only [List.prefix_nil, forall_eq, runFrom_nil, Along, and_true, iff_true]
    exact hP s hs
  | cons a as ih =>
    obtain ⟨ha, hlater⟩ := ha
    rw [moments_cons, Along, Along]
    constructor
    · rintro ⟨⟨-, hmoments⟩, hT, hsteps⟩
      have hguard := hback s a ha hs (hmoments [] List.nil_prefix) hT
      exact ⟨hguard, (ih (hstep s a ha hs hguard).1 hlater).1 ⟨hmoments, hsteps⟩⟩
    · rintro ⟨hguard, hrest⟩
      obtain ⟨hI, hT⟩ := hstep s a ha hs hguard
      obtain ⟨hmoments, hsteps⟩ := (ih hI hlater).2 hrest
      exact ⟨⟨hP s hs, hmoments⟩, hT, hsteps⟩

end Along

/-! ## A view and its specification -/

/-- A machine beside the specification of a view of it: what the view should be after a request,
    from the state the request met and what the view should have been there. -/
def specify (step : σ → α → σ) (spec : σ → τ → α → τ) (p : σ × τ) (a : α) : σ × τ :=
  (step p.1 a, spec p.1 p.2 a)

lemma Along.specify_iff {step : σ → α → σ} {spec : σ → τ → α → τ} {guard : σ → α → Prop}
    {p : σ × τ} {as : List α} :
    Along (specify step spec) (fun p a => guard p.1 a) p as ↔ Along step guard p.1 as := by
  induction as generalizing p with
  | nil => rfl
  | cons a as ih => rw [Along, Along, ih, specify]

/-- A view is what its specification says at every moment of a run exactly when every step changes
    it as specified. -/
lemma Along.tracks_iff {step : σ → α → σ} (view : σ → τ) {spec : σ → τ → α → τ} {s : σ}
    {as : List α} :
    (∀ pre, pre <+: as →
        view (runFrom step s pre) = (runFrom (specify step spec) (s, view s) pre).2)
      ↔ Along step (fun s a => view (step s a) = spec s (view s) a) s as := by
  induction as generalizing s with
  | nil =>
    simp only [List.prefix_nil, forall_eq, runFrom_nil, Along]
  | cons a as ih =>
    rw [Along, ← ih]
    constructor
    · intro h
      have ha : view (step s a) = spec s (view s) a := h [a] (List.prefix_append [a] as)
      refine ⟨ha, ?_⟩
      intro pre hp
      rw [ha]
      exact h (a :: pre) (List.cons_prefix_cons.2 ⟨rfl, hp⟩)
    · intro ⟨ha, h⟩ pre hp
      cases pre with
      | nil => rfl
      | cons b pre =>
        obtain ⟨rfl, hp'⟩ := List.cons_prefix_cons.1 hp
        have ht := h pre hp'
        rw [ha] at ht
        exact ht

end Mockdr
