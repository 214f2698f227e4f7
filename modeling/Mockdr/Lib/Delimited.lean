import Mockdr.Lib.Run

/-!
# Text cut at delimiters

A scanner reads a text from the state `start` and keeps track of what is open around each character:
a quotation, a bracket. A delimiter cuts the text only where nothing is open, which is where the
scanner is in the state it started from.

* `Uncut`: a text that no delimiter cuts.
* `Cuts`: what it is for a text to be made of certain pieces.
* `cut`: the one pass that finds them; `cuts_iff`: it finds the pieces, and there are no others.
-/

namespace Mockdr

namespace Delimited

variable {σ α : Type*} (next : σ → α → σ) (start : σ) (d : α)

/-- Read from `s`, a text in which the delimiter stands nowhere outside of everything. -/
def Uncut : σ → List α → Prop
  | _, [] => True
  | s, c :: cs => ¬ (c = d ∧ s = start) ∧ Uncut (next s c) cs

/-- The pieces a text is made of: between two of them stands a delimiter at which nothing is open,
    and there is no such delimiter inside of one. -/
inductive Cuts : List α → List (List α) → Prop where
  | last {l : List α} (h : Uncut next start d start l) : Cuts l [l]
  | cut {l m : List α} {ps : List (List α)} (h : Uncut next start d start l)
      (hclosed : runFrom next start l = start) (hrest : Cuts m ps) : Cuts (l ++ d :: m) (l :: ps)

variable {next start d} {s : σ} {l m : List α} {ps : List (List α)}

lemma uncut_append : Uncut next start d s (l ++ m)
    ↔ Uncut next start d s l ∧ Uncut next start d (runFrom next s l) m := by
  induction l generalizing s with
  | nil => simp [Uncut]
  | cons c l ih => rw [List.cons_append, Uncut, Uncut, runFrom_cons, ih, and_assoc]

lemma Cuts.sublist {text p : List α} (h : Cuts next start d text ps) (hp : p ∈ ps) :
    p.Sublist text := by
  induction h with
  | last =>
    rw [List.mem_singleton.1 hp]
  | cut _ _ _ ih =>
    rcases List.mem_cons.1 hp with rfl | hp
    · exact List.sublist_append_left _ _
    · exact ((ih hp).cons d).trans (List.sublist_append_right _ _)

section Pass

variable [DecidableEq σ] [DecidableEq α] (next start d)

/-- Cut the rest of a text, `current` being the part of the piece that has been read. -/
def cutFrom : σ → List α → List α → List (List α)
  | _, current, [] => [current]
  | s, current, c :: cs =>
    if c = d ∧ s = start then current :: cutFrom start [] cs
    else cutFrom (next s c) (current ++ [c]) cs

/-- Cut a text at the delimiters at which nothing is open. -/
def cut (text : List α) : List (List α) := cutFrom next start d start [] text

variable {next start d} {current : List α}

lemma cutFrom_of_uncut (h : Uncut next start d s l) :
    cutFrom next start d s current l = [current ++ l] := by
  induction l generalizing s current with
  | nil => rw [cutFrom, List.append_nil]
  | cons c l ih =>
    obtain ⟨hc, hl⟩ := h
    rw [cutFrom, if_neg hc, ih hl, List.append_assoc, List.singleton_append]

lemma cutFrom_append (h : Uncut next start d s l) (hclosed : runFrom next s l = start) :
    cutFrom next start d s current (l ++ d :: m) = (current ++ l) :: cut next start d m := by
  induction l generalizing s current with
  | nil =>
    rw [runFrom_nil] at hclosed
    rw [List.nil_append, cutFrom, if_pos ⟨rfl, hclosed⟩, List.append_nil, cut]
  | cons c l ih =>
    obtain ⟨hc, hl⟩ := h
    rw [List.cons_append, cutFrom, if_neg hc, ih hl hclosed, List.append_assoc,
      List.singleton_append]

/-- The pass cuts off a piece only where it ends. -/
lemma cuts_cutFrom (current : List α) (h : Uncut next start d start current)
    (hs : runFrom next start current = s) :
    Cuts next start d (current ++ l) (cutFrom next start d s current l) := by
  induction l generalizing s current with
  | nil =>
    rw [cutFrom, List.append_nil]
    exact .last h
  | cons c l ih =>
    rw [cutFrom]
    split
    · next hc =>
      obtain ⟨rfl, rfl⟩ := hc
      exact .cut h hs (ih [] trivial rfl)
    · next hc =>
      have hcurrent : Uncut next start d start (current ++ [c]) := by
        rw [uncut_append, hs]
        exact ⟨h, hc, trivial⟩
      have hrun : runFrom next start (current ++ [c]) = next s c := by
        rw [runFrom_append, hs]
        rfl
      have hrest := ih _ hcurrent hrun
      rw [List.append_assoc, List.singleton_append] at hrest
      exact hrest

/-- The pieces of a text are those that one pass finds. -/
theorem cuts_iff {text : List α} : Cuts next start d text ps ↔ cut next start d text = ps := by
  constructor
  · intro h
    induction h with
    | last h => exact cutFrom_of_uncut h
    | cut h hclosed _ ih =>
      rw [cut, cutFrom_append h hclosed, ih]
      rfl
  · rintro rfl
    exact cuts_cutFrom [] trivial rfl

end Pass

end Delimited

end Mockdr
