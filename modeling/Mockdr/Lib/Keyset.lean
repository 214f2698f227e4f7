import Mathlib.Data.List.Basic
import Mathlib.Data.List.Nodup
import Mathlib.Tactic.Lemma

/-!
# Reading a changing list by the last element read

A client reads a list page by page and names, for the next page, the last element it was given. The
list may change from one page to the next.

* `Once x l`: an element occurs exactly once in a list.
* `Edited l l'`: one list becomes the other by taking elements out and putting new ones in, so that
  the elements of both stand in the same order in either.
* `Turns size`: what the turns of such a reading are, over the lists they are served from.
  `Turns.once`: an element of all the lists is read exactly once.
-/

namespace Mockdr

variable {α : Type*}

/-- An element occurs exactly once. -/
def Once (x : α) (l : List α) : Prop := ∃ a b, l = a ++ x :: b ∧ x ∉ a ∧ x ∉ b

lemma Once.of_mem {x : α} {l : List α} (hn : l.Nodup) (hx : x ∈ l) : Once x l := by
  obtain ⟨a, b, rfl⟩ := List.append_of_mem hx
  have hn' := List.nodup_middle.1 hn
  obtain ⟨hnot, -⟩ := List.nodup_cons.1 hn'
  exact ⟨a, b, rfl, fun h => hnot (List.mem_append_left b h),
    fun h => hnot (List.mem_append_right a h)⟩

lemma Once.append_right {x : α} {l r : List α} (h : Once x l) (hr : x ∉ r) : Once x (l ++ r) := by
  obtain ⟨a, b, rfl, ha, hb⟩ := h
  refine ⟨a, b ++ r, by rw [List.append_assoc, List.cons_append], ha, ?_⟩
  intro hx
  exact (List.mem_append.1 hx).elim hb hr

lemma Once.append_left {x : α} {l r : List α} (hl : x ∉ l) (h : Once x r) : Once x (l ++ r) := by
  obtain ⟨a, b, rfl, ha, hb⟩ := h
  refine ⟨l ++ a, b, (List.append_assoc l a (x :: b)).symm, ?_, hb⟩
  intro hx
  exact (List.mem_append.1 hx).elim hl ha

/-- One list becomes another by taking elements out and putting new ones in. -/
def Edited (l l' : List α) : Prop :=
  ∃ common : List α, common.Sublist l ∧ common.Sublist l' ∧ ∀ x ∈ l, x ∈ l' → x ∈ common

lemma Edited.refl (l : List α) : Edited l l :=
  ⟨l, List.Sublist.refl l, List.Sublist.refl l, fun _ h _ => h⟩

lemma Edited.symm {l l' : List α} (h : Edited l l') : Edited l' l := by
  obtain ⟨common, hl, hl', hall⟩ := h
  exact ⟨common, hl', hl, fun x hx' hx => hall x hx hx'⟩

/-- Where `x` stands in a list that is cut behind `c`. -/
lemma mem_behind_iff {a r : List α} {c x : α} (hn : (a ++ c :: r).Nodup) :
    x ∈ r ↔ [c, x].Sublist (a ++ c :: r) := by
  constructor
  · intro hx
    exact ((List.singleton_sublist.2 hx).cons_cons c).trans (List.sublist_append_right a (c :: r))
  · intro h
    obtain ⟨hc, -⟩ := List.nodup_cons.1 (List.nodup_middle.1 hn)
    induction a with
    | nil =>
      rcases List.cons_sublist_cons'.1 h with h | ⟨-, h⟩
      · exact absurd (h.subset List.mem_cons_self) (fun hm => hc (List.mem_append_right [] hm))
      · exact List.singleton_sublist.1 h
    | cons b a ih =>
      have hbc : c ≠ b := by
        rintro rfl
        exact hc (List.mem_append_left r List.mem_cons_self)
      rw [List.cons_append] at h hn
      rcases List.cons_sublist_cons'.1 h with h | ⟨rfl, -⟩
      · refine ih (List.nodup_cons.1 hn).2 h ?_
        intro hm
        refine hc ?_
        rw [List.cons_append]
        exact List.mem_cons_of_mem b hm
      · exact absurd rfl hbc

lemma pair_sublist_or {l : List α} {c x : α} (hc : c ∈ l) (hx : x ∈ l) (hne : c ≠ x) :
    [c, x].Sublist l ∨ [x, c].Sublist l := by
  induction l with
  | nil => cases hc
  | cons b l ih =>
    rcases List.mem_cons.1 hc with rfl | hc'
    · rcases List.mem_cons.1 hx with rfl | hx'
      · exact absurd rfl hne
      · exact .inl ((List.singleton_sublist.2 hx').cons_cons c)
    · rcases List.mem_cons.1 hx with rfl | hx'
      · exact .inr ((List.singleton_sublist.2 hc').cons_cons x)
      · exact (ih hc' hx').imp (List.Sublist.cons b) (List.Sublist.cons b)

lemma not_pair_sublist {l : List α} {c x : α} (hn : l.Nodup) (h : [c, x].Sublist l) :
    ¬ [x, c].Sublist l := by
  intro h'
  obtain ⟨a, r, rfl⟩ := List.append_of_mem (h.subset List.mem_cons_self)
  have hx := (mem_behind_iff hn).2 h
  obtain ⟨b, r', rfl⟩ := List.append_of_mem hx
  have e : a ++ c :: (b ++ x :: r') = (a ++ c :: b) ++ x :: r' := by simp
  rw [e] at h' hn
  have hc := (mem_behind_iff hn).2 h'
  obtain ⟨hcn, -⟩ := List.nodup_cons.1 (List.nodup_middle.1 (e ▸ hn))
  exact hcn (List.mem_append_right a (List.mem_append_right b (List.mem_cons_of_mem x hc)))

lemma Edited.pair {l l' : List α} {c x : α} (h : Edited l l') (hn : l.Nodup)
    (hp : [c, x].Sublist l) (hc : c ∈ l') (hx : x ∈ l') : [c, x].Sublist l' := by
  obtain ⟨common, hl, hl', hall⟩ := h
  have hne : c ≠ x := by
    intro e
    exact (List.nodup_cons.1 (hn.sublist hp)).1 (List.mem_singleton.2 e)
  have hcm := hall c (hp.subset List.mem_cons_self) hc
  have hxm := hall x (hp.subset (List.mem_cons_of_mem c List.mem_cons_self)) hx
  rcases pair_sublist_or hcm hxm hne with hcx | hxc
  · exact hcx.trans hl'
  · exact absurd (hxc.trans hl) (not_pair_sublist hn hp)

/-- What a turn reads on from: all of the list at first, then what stands behind the last element
    read. -/
def ReadsFrom (l : List α) : Option α → List α → Prop
  | none, rest => rest = l
  | some c, rest => ∃ front, l = front ++ c :: rest

/-- The turns of a reading by pages of at most `size` elements, each served from a list of its own,
    until nothing is left behind a page. -/
inductive Turns (size : Nat) : Option α → List (List α) → List (List α) → Prop
  | last {c : Option α} {l rest : List α} {ls : List (List α)} (h : ReadsFrom l c rest)
      (hsize : rest.length ≤ size) : Turns size c (l :: ls) [rest]
  | more {c : Option α} {l rest : List α} {d : α} {ls pages : List (List α)}
      (h : ReadsFrom l c rest) (hd : (rest.take size).getLast? = some d)
      (ht : Turns size (some d) ls pages) : Turns size c (l :: ls) (rest.take size :: pages)

lemma ReadsFrom.eq_append {l rest : List α} {c : Option α} (h : ReadsFrom l c rest) :
    ∃ front, l = front ++ rest := by
  cases c with
  | none => exact ⟨[], h.symm⟩
  | some c =>
    obtain ⟨front, rfl⟩ := h
    exact ⟨front ++ [c], by simp⟩

/-- An element of all the lists is read once if it stands in what the first turn reads on from, and
    not at all otherwise. -/
lemma Turns.read {size : Nat} {c : Option α} {lists pages : List (List α)}
    (ht : Turns size c lists pages) (hn : ∀ l ∈ lists, l.Nodup) (hedit : lists.IsChain Edited)
    {x : α} (hx : ∀ l ∈ lists, x ∈ l) :
    ∃ l rest, lists.head? = some l ∧ ReadsFrom l c rest
      ∧ (x ∈ rest → Once x pages.flatten) ∧ (x ∉ rest → x ∉ pages.flatten) := by
  induction ht with
  | @last c l rest ls h hsize =>
    refine ⟨l, rest, rfl, h, ?_, ?_⟩
    · intro hmem
      obtain ⟨front, rfl⟩ := h.eq_append
      rw [List.flatten_singleton]
      exact Once.of_mem (hn _ List.mem_cons_self).of_append_right hmem
    · rw [List.flatten_singleton]
      exact id
  | @more c l rest d ls pages h hd ht ih =>
    obtain ⟨l', rest', hl', h', honce, hnone⟩ := ih
      (fun l hl => hn l (List.mem_cons_of_mem _ hl)) (List.IsChain.of_cons hedit)
      (fun l hl => hx l (List.mem_cons_of_mem _ hl))
    obtain ⟨ls, rfl⟩ := List.head?_eq_some_iff.1 hl'
    have hedited : Edited l l' := (List.isChain_cons_cons.1 hedit).1
    have hnl : l.Nodup := hn l List.mem_cons_self
    have hnl' : l'.Nodup := hn l' (List.mem_cons_of_mem _ List.mem_cons_self)
    have hxl : x ∈ l := hx l List.mem_cons_self
    have hxl' : x ∈ l' := hx l' (List.mem_cons_of_mem _ List.mem_cons_self)
    -- The next turn reads on, in its own list, from the element this page ends with.
    obtain ⟨front, rfl⟩ := h.eq_append
    obtain ⟨page, hpage⟩ := List.getLast?_eq_some_iff.1 hd
    obtain ⟨front', rfl⟩ := h'
    have hcut : front ++ rest = (front ++ page) ++ d :: rest.drop size := by
      conv_lhs => rw [← List.take_append_drop size rest, hpage]
      simp
    have hbehind : x ∈ rest.drop size ↔ x ∈ rest' := by
      rw [mem_behind_iff (hcut ▸ hnl), mem_behind_iff hnl', ← hcut]
      constructor
      · intro hp
        exact hedited.pair hnl hp (List.mem_append_right _ List.mem_cons_self) hxl'
      · intro hp
        refine hedited.symm.pair hnl' hp ?_ hxl
        rw [hcut]
        exact List.mem_append_right _ List.mem_cons_self
    have hrest : (rest.take size ++ rest.drop size).Nodup := by
      rw [List.take_append_drop]
      exact hnl.of_append_right
    refine ⟨front ++ rest, rest, rfl, h, ?_, ?_⟩
    · intro hmem
      rw [List.flatten_cons]
      rw [← List.take_append_drop size rest] at hmem
      rcases List.mem_append.1 hmem with hpage | hrem
      · have hnot : x ∉ rest.drop size := List.disjoint_of_nodup_append hrest hpage
        exact (Once.of_mem hrest.of_append_left hpage).append_right
          (hnone fun hr => hnot (hbehind.2 hr))
      · have hnot : x ∉ rest.take size := fun hpage =>
          List.disjoint_of_nodup_append hrest hpage hrem
        exact (honce (hbehind.1 hrem)).append_left hnot
    · intro hnot hmem
      rw [List.flatten_cons] at hmem
      rcases List.mem_append.1 hmem with hpage | hlater
      · exact hnot (List.mem_of_mem_take hpage)
      · exact hnone (fun hr => hnot (List.mem_of_mem_drop (hbehind.2 hr))) hlater

/-- An element of all the lists a reading is served from is read exactly once. -/
theorem Turns.once {size : Nat} {lists pages : List (List α)} (ht : Turns size none lists pages)
    (hn : ∀ l ∈ lists, l.Nodup) (hedit : lists.IsChain Edited) {x : α} (hx : ∀ l ∈ lists, x ∈ l) :
    Once x pages.flatten := by
  obtain ⟨l, rest, hl, hrest, honce, -⟩ := ht.read hn hedit hx
  obtain rfl : rest = l := hrest
  exact honce (hx rest (List.mem_of_mem_head? hl))

end Mockdr
