import Mathlib.Algebra.Order.Ring.Rat
import Mathlib.Tactic.Lemma
import Mathlib.Tactic.Linarith

/-!
# States that settle by themselves

A device that is asked for something shows one state from then on, and another one once it has
answered, which takes it a fixed `wait`. A `History` is what a device was asked for, the latest
first.

* `History.shownAt`: what it shows at a moment.
* `History.settledBy`: the asks that it has answered by a moment. A later ask takes the place of one
  that has not been answered.

Nothing here depends on whether anybody looks.
-/

namespace Mockdr

/-- Something that a device is asked for. -/
structure Ask (σ : Type*) where
  moment : ℚ
  /-- what the device shows until it has answered -/
  pending : σ
  /-- what it shows from then on -/
  target : σ

/-- What a device showed at first, and what it was asked for, the latest first. -/
structure History (σ : Type*) where
  base : σ
  asks : List (Ask σ)

namespace History

variable {σ : Type*} (wait : ℚ)

/-- A device that is asked for nothing. -/
def still (base : σ) : History σ := ⟨base, []⟩

/-- It is asked for something. -/
def ask (h : History σ) (a : Ask σ) : History σ := { h with asks := a :: h.asks }

/-- Whether it has answered what it was asked for last. -/
def dueAt (h : History σ) (t : ℚ) : Prop :=
  match h.asks with
  | [] => False
  | a :: _ => wait < t - a.moment

instance (h : History σ) (t : ℚ) : Decidable (h.dueAt wait t) := by
  unfold dueAt
  split <;> infer_instance

/-- What it shows. -/
def shownAt (h : History σ) (t : ℚ) : σ :=
  match h.asks with
  | [] => h.base
  | a :: _ => if wait < t - a.moment then a.target else a.pending

/-- The asks of a list that were answered before the next one, or before a last moment. -/
def settledUntil : ℚ → List (Ask σ) → List (Ask σ)
  | _, [] => []
  | t, a :: older =>
    if wait < t - a.moment then a :: settledUntil a.moment older else settledUntil a.moment older

/-- What it has answered. -/
def settledBy (h : History σ) (t : ℚ) : List (Ask σ) := settledUntil wait t h.asks

variable {wait}

@[simp] lemma shownAt_still (base : σ) (t : ℚ) : (still base).shownAt wait t = base := rfl

@[simp] lemma settledBy_still (base : σ) (t : ℚ) : (still base).settledBy wait t = [] := rfl

lemma shownAt_ask (h : History σ) (a : Ask σ) (t : ℚ) :
    (h.ask a).shownAt wait t = if (h.ask a).dueAt wait t then a.target else a.pending := rfl

lemma dueAt_mono {h : History σ} {t t' : ℚ} (htt' : t ≤ t') (hdue : h.dueAt wait t) :
    h.dueAt wait t' := by
  unfold dueAt at hdue ⊢
  split at hdue
  · exact hdue
  · linarith

lemma settledUntil_of_due {t : ℚ} {a : Ask σ} {older : List (Ask σ)} (h : wait < t - a.moment) :
    settledUntil wait t (a :: older) = a :: settledUntil wait a.moment older := if_pos h

lemma settledUntil_of_not_due {t : ℚ} {a : Ask σ} {older : List (Ask σ)}
    (h : ¬ wait < t - a.moment) :
    settledUntil wait t (a :: older) = settledUntil wait a.moment older := if_neg h

end History

end Mockdr
