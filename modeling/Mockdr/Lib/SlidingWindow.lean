import Mathlib.Algebra.Order.Group.Defs
import Mathlib.Algebra.Order.Group.Unbundled.Basic
import Mathlib.Algebra.Order.Sub.Basic
import Mathlib.Data.List.Induction
import Mathlib.Tactic.Lemma

/-!
# Sliding windows

A limiter keeps the moments of what it has let through, the oldest first, and drops those before
the start of the window that it looks at.

* `expire` drops them, up to the first that is not before the start; `expire_eq_filter`: of moments
  in order that is all of them.
* `idle`: no moment is in the window, as the last one tells.
* `countP_window_le`: if fewer than `n` of the earlier ones are in the window that ends where one is
  let through, there are at most `n` in every window.
-/

namespace Mockdr

/-- A span of time. -/
structure Span (τ : Type*) [LE τ] where
  first : τ
  last : τ
  le : first ≤ last

namespace SlidingWindow

variable {τ : Type*}

section

variable [LinearOrder τ] {start later : τ} {times : List τ}

/-- Drop the moments before a start, up to the first one from there on. -/
def expire (start : τ) (times : List τ) : List τ := times.dropWhile (· < start)

/-- Whether the last moment is before a start. -/
def idle (start : τ) (times : List τ) : Bool :=
  match times.getLast? with
  | none => true
  | some last => last < start

/-- Of moments in order those from the start on are left. -/
lemma expire_eq_filter (h : times.Pairwise (· ≤ ·)) :
    expire start times = times.filter (start ≤ ·) := by
  induction times with
  | nil => rfl
  | cons t times ih =>
    obtain ⟨hfirst, hrest⟩ := List.pairwise_cons.1 h
    by_cases ht : t < start
    · have hdrop : decide (t < start) = true := decide_eq_true ht
      have hnot : ¬ decide (start ≤ t) = true := fun hle => (of_decide_eq_true hle).not_gt ht
      rw [expire, List.dropWhile_cons_of_pos (p := (decide <| · < start)) hdrop,
        List.filter_cons_of_neg (p := (decide <| start ≤ ·)) hnot]
      exact ih hrest
    · have hkeep : ¬ decide (t < start) = true := fun hlt => ht (of_decide_eq_true hlt)
      rw [expire, List.dropWhile_cons_of_neg (p := (decide <| · < start)) hkeep, eq_comm,
        List.filter_eq_self]
      intro u hu
      obtain rfl | hu := List.mem_cons.1 hu
      · exact decide_eq_true (not_lt.1 ht)
      · exact decide_eq_true ((not_lt.1 ht).trans (hfirst u hu))

lemma lt_of_idle (h : times.Pairwise (· ≤ ·)) (hidle : idle start times = true) {t : τ}
    (ht : t ∈ times) : t < start := by
  rw [idle] at hidle
  cases hlast : times.getLast? with
  | none =>
    rw [List.getLast?_eq_none_iff.1 hlast] at ht
    cases ht
  | some last =>
    rw [hlast] at hidle
    obtain ⟨front, rfl⟩ := List.getLast?_eq_some_iff.1 hlast
    refine lt_of_le_of_lt ?_ (of_decide_eq_true hidle)
    obtain hfront | ht := List.mem_append.1 ht
    · exact (List.pairwise_append.1 h).2.2 t hfront last List.mem_cons_self
    · exact (List.mem_singleton.1 ht).le

lemma filter_of_idle (h : times.Pairwise (· ≤ ·)) (hidle : idle start times = true)
    (hlater : start ≤ later) : times.filter (later ≤ ·) = [] := by
  refine List.filter_eq_nil_iff.2 fun t ht hle => ?_
  exact absurd (lt_of_idle h hidle ht) (not_lt.2 (hlater.trans (of_decide_eq_true hle)))

lemma filter_filter_le (hlater : start ≤ later) :
    (times.filter (start ≤ ·)).filter (later ≤ ·) = times.filter (later ≤ ·) := by
  rw [List.filter_filter]
  refine List.filter_congr fun t _ => ?_
  by_cases ht : later ≤ t
  · rw [decide_eq_true ht, decide_eq_true (hlater.trans ht), Bool.and_true]
  · rw [decide_eq_false ht, Bool.false_and]

end

section

variable [AddCommGroup τ] [LinearOrder τ] [IsOrderedAddMonoid τ] {width : τ} {n : Nat}

/-- At most `n` spans meet a window, if fewer than `n` earlier ones reach into the window that ends
    where one of them begins. -/
lemma countP_window_le {spans : List (Span τ)}
    (h : ∀ pre s post, spans = pre ++ s :: post →
      pre.countP (fun e => s.first - width ≤ e.last) < n) (x : τ) :
    spans.countP (fun s => x ≤ s.last ∧ s.first ≤ x + width) ≤ n := by
  induction spans using List.reverseRecOn with
  | nil => exact Nat.zero_le n
  | append_singleton spans s ih =>
    rw [List.countP_append, List.countP_singleton]
    split_ifs with hs
    · obtain ⟨-, hfirst⟩ := of_decide_eq_true hs
      refine Nat.succ_le_of_lt (lt_of_le_of_lt ?_ (h spans s [] rfl))
      refine List.countP_mono_left fun e _ he => ?_
      exact decide_eq_true ((sub_le_iff_le_add.2 hfirst).trans (of_decide_eq_true he).1)
    · refine ih fun pre e post heq => h pre e (post ++ [s]) ?_
      rw [heq, List.append_assoc, List.cons_append]

end

end SlidingWindow

end Mockdr
