import Mathlib.Data.List.Basic
import Mathlib.Tactic.Lemma

/-!
# Reading a list page by page

A client reads a long list in pages, each found from the last one: by how far it got (`chunk`), or
by the last element it was given (`cursorPage`).

* `Enumerates`: reading the pages up to the first empty one gives the whole list. The pages by
  offset do (`enumerates_chunks`).
* `ReadsOut`: the same of the answers a reader got so far, some of which may be refusals.
* `Ordered`: what comes after an element is what stands behind it in the list. Then the pages by
  cursor are the pages by offset (`Ordered.cursorPage_eq`).
-/

namespace Mockdr

variable {α : Type*}

/-- The `k`-th page of `size` elements. -/
def chunk (size : Nat) (l : List α) (k : Nat) : List α := (l.drop (k * size)).take size

/-- The first `n` pages, put together, are the first elements of the list. -/
lemma flatten_chunks (size : Nat) (l : List α) (n : Nat) :
    ((List.range n).map (chunk size l)).flatten = l.take (n * size) := by
  induction n with
  | zero => simp
  | succ n ih =>
    rw [List.range_succ, List.map_append, List.flatten_append, ih, Nat.succ_mul, List.take_add]
    simp [chunk]

lemma chunk_eq_nil {size : Nat} {l : List α} {k : Nat} (h : l.length ≤ k * size) :
    chunk size l k = [] := by
  rw [chunk, List.drop_eq_nil_of_le h, List.take_nil]

/-- Reading the pages up to the first empty one gives the elements of a list, each once and in
    order. -/
def Enumerates (page : Nat → List α) (l : List α) : Prop :=
  ∃ n, page n = [] ∧ (∀ k < n, page k ≠ []) ∧ ((List.range n).map page).flatten = l

/-- The pages by offset give the whole list. -/
theorem enumerates_chunks {size : Nat} (hs : 0 < size) (l : List α) :
    Enumerates (chunk size l) l := by
  -- The number of pages is the length divided by the size, rounded up.
  have hend : l.length ≤ (l.length + size - 1) / size * size := by
    have h := Nat.lt_div_mul_add (a := l.length + size - 1) hs
    omega
  refine ⟨(l.length + size - 1) / size, chunk_eq_nil hend, ?_, ?_⟩
  · intro k hk
    have hlt : k * size < l.length := by
      have h := Nat.mul_le_of_le_div size (k + 1) _ hk
      rw [Nat.succ_mul] at h
      omega
    rw [chunk, ne_eq, List.take_eq_nil_iff, List.drop_eq_nil_iff]
    omega
  · rw [flatten_chunks, List.take_of_length_le hend]

/-- A reader that stops at the first empty page got the elements of a list from its start on: every
    answer up to there is a page, and at the empty one nothing of the list is left. -/
def ReadsOut {ε : Type*} : List (Except ε (List α)) → List α → Prop
  | [], _ => True
  | .error _ :: _, _ => False
  | .ok [] :: _, l => l = []
  | .ok (x :: xs) :: rest, l => ∃ l', l = (x :: xs) ++ l' ∧ ReadsOut rest l'

/-- A reader that is given the next `size` elements, and is given the rest if there were any. -/
lemma ReadsOut.take {ε : Type*} {size : Nat} (hs : 0 < size) {l : List α}
    {rest : List (Except ε (List α))} (h : l ≠ [] → ReadsOut rest (l.drop size)) :
    ReadsOut (.ok (l.take size) :: rest) l := by
  cases l with
  | nil =>
    rw [List.take_nil]
    rfl
  | cons x l =>
    obtain ⟨n, rfl⟩ := Nat.exists_eq_succ_of_ne_zero (Nat.ne_of_gt hs)
    rw [List.take_succ_cons]
    refine ⟨l.drop n, ?_, h (List.cons_ne_nil x l)⟩
    rw [List.cons_append, List.take_append_drop]

/-- The elements that come after a cursor: all of them without one. -/
def beyond (after : α → α → Bool) (l : List α) : Option α → List α
  | some c => l.filter (after c)
  | none => l

/-- The cursor after `k` pages: the last element a page held, the first `size` of those beyond the
    cursor before it. An empty page leaves the cursor there was. -/
def cursorAt (after : α → α → Bool) (size : Nat) (l : List α) : Nat → Option α
  | 0 => none
  | k + 1 =>
    let cursor := cursorAt after size l k
    ((beyond after l cursor).take size).getLast?.or cursor

/-- The `k`-th page that is read by cursor. -/
def cursorPage (after : α → α → Bool) (size : Nat) (l : List α) (k : Nat) : List α :=
  (beyond after l (cursorAt after size l k)).take size

/-- What comes after an element is what stands behind it in the list. -/
def Ordered (after : α → α → Bool) (l : List α) : Prop :=
  (∀ a ∈ l, after a a = false) ∧ l.Pairwise fun a b => after a b = true ∧ after b a = false

lemma Ordered.filter_after {after : α → α → Bool} {l r : List α} {c : α}
    (h : Ordered after (l ++ c :: r)) : (l ++ c :: r).filter (after c) = r := by
  obtain ⟨hself, hp⟩ := h
  obtain ⟨-, hr, hlr⟩ := List.pairwise_append.1 hp
  have hbefore : l.filter (after c) = [] := by
    rw [List.filter_eq_nil_iff]
    intro a ha
    rw [(hlr a ha c List.mem_cons_self).2]
    simp
  have hbehind : r.filter (after c) = r := by
    rw [List.filter_eq_self]
    intro b hb
    exact ((List.pairwise_cons.1 hr).1 b hb).1
  rw [List.filter_append, hbefore, List.nil_append, List.filter_cons,
    hself c (List.mem_append_right _ List.mem_cons_self), hbehind]
  simp

lemma Ordered.beyond_getLast {after : α → α → Bool} {l : List α} (h : Ordered after l) (m : Nat) :
    beyond after l (l.take m).getLast? = l.drop m := by
  have hsplit := List.take_append_drop m l
  cases hc : (l.take m).getLast? with
  | none =>
    rw [List.getLast?_eq_none_iff] at hc
    rw [hc, List.nil_append] at hsplit
    exact hsplit.symm
  | some c =>
    obtain ⟨front, hfront⟩ := List.getLast?_eq_some_iff.1 hc
    rw [hfront, List.append_assoc, List.singleton_append] at hsplit
    rw [← hsplit] at h
    have hrest := h.filter_after
    rw [hsplit] at hrest
    exact hrest

lemma getLast?_take_add (l : List α) (m size : Nat) :
    (l.take (m + size)).getLast? = ((l.drop m).take size).getLast?.or (l.take m).getLast? := by
  rw [List.take_add, List.getLast?_append]

/-- After `k` pages the cursor is the last element of the front part they cover. -/
lemma Ordered.cursorAt_eq {after : α → α → Bool} {l : List α} (h : Ordered after l) (size k : Nat) :
    cursorAt after size l k = (l.take (k * size)).getLast? := by
  induction k with
  | zero => simp [cursorAt]
  | succ k ih => rw [cursorAt, ih, h.beyond_getLast, ← getLast?_take_add, ← Nat.succ_mul]

/-- A page of an ordered list read by cursor is the page by offset. -/
lemma Ordered.cursorPage_eq {after : α → α → Bool} {l : List α} (h : Ordered after l)
    (size k : Nat) : cursorPage after size l k = chunk size l k := by
  rw [cursorPage, h.cursorAt_eq, h.beyond_getLast, chunk]

/-- Reading an ordered list by cursor gives the whole list. -/
theorem Ordered.enumerates {after : α → α → Bool} {l : List α} (h : Ordered after l) {size : Nat}
    (hs : 0 < size) : Enumerates (cursorPage after size l) l := by
  have hpage : cursorPage after size l = chunk size l := by
    funext k
    exact h.cursorPage_eq size k
  rw [hpage]
  exact enumerates_chunks hs l

end Mockdr
