import Mathlib

/-!
# Grids of intervals

A grid cuts an ordered type into intervals: `start i` is where the interval `i` starts, `index x` is
the interval that `x` is in. The two are a Galois connection, and everything about rounding comes
from it.

* `roundDown` is the start of the interval that something is in, `next` the start of the one after.
* `fixed` is the grid of the multiples of a number; `coarsen` joins the intervals of a grid as
  another grid of the integers says.
-/

namespace Mockdr

/-- The starts of the intervals that an order is cut into, and the interval that something is in. -/
structure Grid (α : Type*) [LinearOrder α] where
  start : ℤ → α
  index : α → ℤ
  start_le : GaloisConnection start index
  index_start : ∀ i, index (start i) = i

namespace Grid

variable {α : Type*} [LinearOrder α] (g : Grid α) {x y : α} {i : ℤ}

lemma start_le_iff : g.start i ≤ x ↔ i ≤ g.index x := g.start_le i x

lemma lt_start_iff : x < g.start i ↔ g.index x < i := g.start_le.lt_iff_lt

/-- The start of the interval that something is in. -/
def roundDown (x : α) : α := g.start (g.index x)

/-- The start of the interval after the one that something is in. -/
def next (x : α) : α := g.start (g.index x + 1)

lemma roundDown_le (x : α) : g.roundDown x ≤ x := g.start_le.l_u_le x

lemma roundDown_mono : Monotone g.roundDown := fun _ _ h =>
  g.start_le.monotone_l (g.start_le.monotone_u h)

lemma roundDown_idem (x : α) : g.roundDown (g.roundDown x) = g.roundDown x :=
  g.start_le.l_u_l_eq_l (g.index x)

lemma lt_next (x : α) : x < g.next x := g.lt_start_iff.2 (Int.lt_succ _)

lemma index_eq (h : g.start i ≤ x) (h' : x < g.start (i + 1)) : g.index x = i :=
  le_antisymm (Int.lt_add_one_iff.1 (g.lt_start_iff.1 h')) (g.start_le_iff.1 h)

/-- A grid is known from starts that grow, and an index that finds the interval. -/
def ofStrictMono (start : ℤ → α) (index : α → ℤ) (hmono : StrictMono start)
    (hfind : ∀ x, start (index x) ≤ x ∧ x < start (index x + 1)) : Grid α where
  start := start
  index := index
  start_le i x := by
    constructor
    · intro h
      exact Int.lt_add_one_iff.1 (hmono.lt_iff_lt.1 (lt_of_le_of_lt h (hfind x).2))
    · intro h
      exact le_trans (hmono.monotone h) (hfind x).1
  index_start i := by
    refine le_antisymm ?_ ?_
    · exact hmono.le_iff_le.1 (hfind (start i)).1
    · exact Int.lt_add_one_iff.1 (hmono.lt_iff_lt.1 (hfind (start i)).2)

/-- The multiples of a number. -/
def fixed (size : ℤ) (h : 0 < size) : Grid ℤ where
  start i := i * size
  index x := x / size
  start_le _ _ := (Int.le_ediv_iff_mul_le h).symm
  index_start i := Int.mul_ediv_cancel i (ne_of_gt h)

/-- The intervals of one size, one of which starts at an origin. -/
def fixedFrom (size origin : ℤ) (h : 0 < size) : Grid ℤ where
  start i := i * size + origin
  index x := (x - origin) / size
  start_le i x := by
    rw [Int.le_ediv_iff_mul_le h]
    exact le_sub_iff_add_le.symm
  index_start i := by
    rw [add_sub_cancel_right]
    exact Int.mul_ediv_cancel i (ne_of_gt h)

/-- Every interval of the new grid is made of intervals of the old one. -/
def coarsen (g : Grid α) (f : Grid ℤ) : Grid α where
  start i := g.start (f.start i)
  index x := f.index (g.index x)
  start_le := f.start_le.compose g.start_le
  index_start i := by rw [g.index_start, f.index_start]

end Grid

end Mockdr
