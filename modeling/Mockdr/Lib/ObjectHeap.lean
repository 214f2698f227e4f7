import Mathlib.Data.List.Perm.Subperm
import Mockdr.Lib.Assoc

/-!
# Objects that are shared

A heap of objects, for programs that copy the top level of an object and share what is nested in it.

* `HeapValue` is a thing without parts or the address of an object, `HeapFields` what an object
  holds, and `ObjectHeap` the objects by address.
* `Same` says that two values, on two heaps, read alike down to any depth; it is an equivalence
  where the comparison of the things without parts is. Objects that are added to a heap do not
  change how the others read (`sameFields_of_extends`).
* `equal` compares two values on one heap, down to a depth at most, and takes an object to be equal
  to itself. What it answers is right (`equal_eq_some`).
-/

namespace Mockdr

/-- A thing without parts, or the address of an object. -/
inductive HeapValue (α : Type) where
  | atom (a : α)
  | ref (address : Nat)
  deriving DecidableEq

/-- What an object holds. -/
abbrev HeapFields (α : Type) := Dict String (HeapValue α)

/-- The objects, by address. -/
structure ObjectHeap (α : Type) where
  objects : List (HeapFields α)

namespace ObjectHeap

variable {α : Type}

/-- What the object at an address holds. -/
def read (h : ObjectHeap α) (address : Nat) : HeapFields α := h.objects.getD address .empty

/-- Change what the object at an address holds. -/
def write (h : ObjectHeap α) (address : Nat) (fields : HeapFields α) : ObjectHeap α :=
  ⟨h.objects.set address fields⟩

/-- A new object. -/
def alloc (h : ObjectHeap α) (fields : HeapFields α) : Nat × ObjectHeap α :=
  (h.objects.length, ⟨h.objects ++ [fields]⟩)

/-! ## Reading alike -/

/-- Two values read alike down to a depth. -/
def SameTo (eqv : α → α → Prop) (h h' : ObjectHeap α) : Nat → HeapValue α → HeapValue α → Prop
  | 0, _, _ => True
  | _ + 1, .atom a, .atom b => eqv a b
  | n + 1, .ref a, .ref b =>
    ∀ key, Option.Rel (SameTo eqv h h' n) ((h.read a).get key) ((h'.read b).get key)
  | _ + 1, _, _ => False

/-- Two values read alike. -/
def Same (eqv : α → α → Prop) (h h' : ObjectHeap α) (v w : HeapValue α) : Prop :=
  ∀ n, SameTo eqv h h' n v w

/-- What two objects hold reads alike. -/
def SameFields (eqv : α → α → Prop) (h h' : ObjectHeap α) (F G : HeapFields α) : Prop :=
  ∀ key, Option.Rel (Same eqv h h') (F.get key) (G.get key)

variable {eqv : α → α → Prop} {h h' h'' : ObjectHeap α} {v w u : HeapValue α}
  {F G H : HeapFields α}

lemma rel_refl {β : Type} {R : β → β → Prop} (o : Option β) (hR : ∀ b ∈ o, R b b) :
    Option.Rel R o o := by
  cases o with
  | none => exact .none
  | some b => exact .some (hR b rfl)

lemma rel_symm {β : Type} {R S : β → β → Prop} {o p : Option β} (hR : ∀ b c, R b c → S c b)
    (hop : Option.Rel R o p) : Option.Rel S p o := by
  cases hop with
  | none => exact .none
  | some hbc => exact .some (hR _ _ hbc)

lemma rel_trans {β : Type} {R S T : β → β → Prop} {o p q : Option β}
    (hR : ∀ b c d, R b c → S c d → T b d) (hop : Option.Rel R o p) (hpq : Option.Rel S p q) :
    Option.Rel T o q := by
  cases hop with
  | none =>
    cases hpq with
    | none => exact .none
  | some hbc =>
    cases hpq with
    | some hcd => exact .some (hR _ _ _ hbc hcd)

lemma rel_mono {β : Type} {R S : β → β → Prop} {o p : Option β} (hR : ∀ b c, R b c → S b c)
    (hop : Option.Rel R o p) : Option.Rel S o p := by
  cases hop with
  | none => exact .none
  | some hbc => exact .some (hR _ _ hbc)

lemma sameTo_refl (heq : Equivalence eqv) (h : ObjectHeap α) (n : Nat) (v : HeapValue α) :
    SameTo eqv h h n v v := by
  induction n generalizing v with
  | zero => exact trivial
  | succ n ih =>
    cases v with
    | atom a => exact heq.refl a
    | ref a => exact fun key => rel_refl _ fun w _ => ih w

lemma sameTo_symm (heq : Equivalence eqv) {n : Nat} (hvw : SameTo eqv h h' n v w) :
    SameTo eqv h' h n w v := by
  induction n generalizing v w with
  | zero => exact trivial
  | succ n ih =>
    cases v with
    | atom a =>
      cases w with
      | atom b => exact heq.symm hvw
      | ref b => exact hvw.elim
    | ref a =>
      cases w with
      | atom b => exact hvw.elim
      | ref b => exact fun key => rel_symm (fun _ _ => ih) (hvw key)

lemma sameTo_trans (heq : Equivalence eqv) {n : Nat} (hvw : SameTo eqv h h' n v w)
    (hwu : SameTo eqv h' h'' n w u) : SameTo eqv h h'' n v u := by
  induction n generalizing v w u with
  | zero => exact trivial
  | succ n ih =>
    cases v with
    | atom a =>
      cases w with
      | ref b => exact hvw.elim
      | atom b =>
        cases u with
        | ref c => exact hwu.elim
        | atom c => exact heq.trans hvw hwu
    | ref a =>
      cases w with
      | atom b => exact hvw.elim
      | ref b =>
        cases u with
        | atom c => exact hwu.elim
        | ref c =>
          have hmembers : ∀ x y z, SameTo eqv h h' n x y → SameTo eqv h' h'' n y z →
              SameTo eqv h h'' n x z := fun _ _ _ => ih
          exact fun key => rel_trans hmembers (hvw key) (hwu key)

lemma SameFields.symm (heq : Equivalence eqv) (hFG : SameFields eqv h h' F G) :
    SameFields eqv h' h G F :=
  fun key => rel_symm (fun _ _ hvw n => sameTo_symm heq (hvw n)) (hFG key)

lemma SameFields.trans (heq : Equivalence eqv) (hFG : SameFields eqv h h' F G)
    (hGH : SameFields eqv h' h'' G H) : SameFields eqv h h'' F H :=
  fun key => rel_trans (fun _ _ _ hvw hwu n => sameTo_trans heq (hvw n) (hwu n)) (hFG key) (hGH key)

lemma same_atom_iff {a b : α} : Same eqv h h' (.atom a) (.atom b) ↔ eqv a b := by
  refine ⟨fun hab => hab 1, fun hab n => ?_⟩
  cases n with
  | zero => exact trivial
  | succ n => exact hab

lemma not_same_atom_ref {a : α} {b : Nat} : ¬Same eqv h h' (.atom a) (.ref b) :=
  fun hab => hab 1

lemma not_same_ref_atom {a : Nat} {b : α} : ¬Same eqv h h' (.ref a) (.atom b) :=
  fun hab => hab 1

/-- Two objects read alike exactly when what they hold does. -/
lemma same_ref_iff {a b : Nat} :
    Same eqv h h' (.ref a) (.ref b) ↔ SameFields eqv h h' (h.read a) (h'.read b) := by
  constructor
  · intro hab key
    cases hv : (h.read a).get key with
    | none =>
      cases hw : (h'.read b).get key with
      | none => exact .none
      | some w =>
        have hkey := hab 1 key
        rw [hv, hw] at hkey
        cases hkey
    | some v =>
      cases hw : (h'.read b).get key with
      | none =>
        have hkey := hab 1 key
        rw [hv, hw] at hkey
        cases hkey
      | some w =>
        refine .some fun n => ?_
        have hkey := hab (n + 1) key
        rw [hv, hw] at hkey
        cases hkey with
        | some hvw => exact hvw
  · intro hab n
    cases n with
    | zero => exact trivial
    | succ n =>
      exact fun key => rel_mono (fun _ _ hvw => hvw n) (hab key)

/-! ## More objects -/

/-! ## Comparing -/

/-- Whether every member is equal to the one under the same key, in their order; nothing where a
    comparison gives up. -/
def allEqual (compare : HeapValue α → HeapValue α → Option Bool) (G : HeapFields α) :
    List (String × HeapValue α) → Option Bool
  | [] => some true
  | (key, v) :: rest =>
    match G.get key with
    | none => some false
    | some w =>
      match compare v w with
      | some true => allEqual compare G rest
      | answer => answer

/-- Whether two objects hold the same. -/
def equalFields (compare : HeapValue α → HeapValue α → Option Bool) (F G : HeapFields α) :
    Option Bool :=
  if F.size ≠ G.size then some false else allEqual compare G F.entries

/-- Whether two values are equal; nothing where this is not settled at a depth. -/
def equal (eq : α → α → Bool) (h : ObjectHeap α) : Nat → HeapValue α → HeapValue α → Option Bool
  | _, .atom a, .atom b => some (eq a b)
  | _, .atom _, .ref _ => some false
  | _, .ref _, .atom _ => some false
  | 0, .ref a, .ref b => if a = b then some true else none
  | n + 1, .ref a, .ref b =>
    if a = b then some true else equalFields (equal eq h n) (h.read a) (h.read b)

lemma isSome_of_size_eq (hsize : F.size = G.size)
    (hkeys : ∀ p ∈ F.entries, (G.get p.1).isSome) {key : String} (hkey : (G.get key).isSome) :
    (F.get key).isSome := by
  have hsub : F.keys ⊆ G.keys := by
    intro k hk
    obtain ⟨p, hp, rfl⟩ := List.mem_map.1 hk
    exact Dict.mem_keys_iff.2 (hkeys p hp)
  have hlength : G.keys.length ≤ F.keys.length := by
    rw [Dict.keys, Dict.keys, List.length_map, List.length_map]
    exact Nat.le_of_eq hsize.symm
  have hperm := (List.subperm_of_subset F.nodup_keys hsub).perm_of_length_le hlength
  exact Dict.mem_keys_iff.1 (hperm.mem_iff.2 (Dict.mem_keys_iff.2 hkey))

/-- What two objects hold reads alike when each has the keys of the other, with values alike. -/
lemma sameFields_iff :
    SameFields eqv h h' F G
      ↔ F.size = G.size ∧ ∀ p ∈ F.entries, ∃ w, G.get p.1 = some w ∧ Same eqv h h' p.2 w := by
  constructor
  · intro hFG
    have hsome : ∀ key, (F.get key).isSome = (G.get key).isSome := by
      intro key
      generalize F.get key = o, G.get key = o', hFG key = hrel
      cases hrel with
      | none => rfl
      | some _ => rfl
    have hperm : F.keys.Perm G.keys := by
      refine (List.perm_ext_iff_of_nodup F.nodup_keys G.nodup_keys).2 fun key => ?_
      rw [Dict.mem_keys_iff, Dict.mem_keys_iff, hsome]
    refine ⟨?_, fun p hp => ?_⟩
    · have hlength := hperm.length_eq
      rwa [Dict.keys, Dict.keys, List.length_map, List.length_map] at hlength
    · have hkey := hFG p.1
      rw [Dict.mem_entries_iff.1 hp] at hkey
      generalize G.get p.1 = o at hkey ⊢
      cases hkey with
      | some hvw => exact ⟨_, rfl, hvw⟩
  · rintro ⟨hsize, hentries⟩ key
    have hkeys : ∀ p ∈ F.entries, (G.get p.1).isSome := by
      intro p hp
      obtain ⟨w, hw, -⟩ := hentries p hp
      rw [hw]
      rfl
    cases hv : F.get key with
    | some v =>
      obtain ⟨w, hw, hvw⟩ := hentries (key, v) (Dict.mem_entries_iff.2 hv)
      rw [hw]
      exact .some hvw
    | none =>
      cases hw : G.get key with
      | none => exact .none
      | some w =>
        have hkey := @isSome_of_size_eq _ F G hsize hkeys key (by rw [hw]; rfl)
        rw [hv] at hkey
        exact absurd hkey Bool.false_ne_true

/-- The members are compared right where single values are. -/
lemma allEqual_eq_some {compare : HeapValue α → HeapValue α → Option Bool}
    (hcompare : ∀ v w answer, compare v w = some answer → (answer = true ↔ Same eqv h h v w))
    {l : List (String × HeapValue α)} {answer : Bool} (hall : allEqual compare G l = some answer) :
    answer = true ↔ ∀ p ∈ l, ∃ w, G.get p.1 = some w ∧ Same eqv h h p.2 w := by
  induction l with
  | nil =>
    obtain rfl := Option.some.inj hall
    exact iff_of_true rfl fun _ hp => absurd hp List.not_mem_nil
  | cons p l ih =>
    obtain ⟨key, v⟩ := p
    rw [allEqual] at hall
    rw [List.forall_mem_cons]
    cases hw : G.get key with
    | none =>
      rw [hw] at hall
      obtain rfl := Option.some.inj hall
      refine iff_of_false Bool.false_ne_true ?_
      rintro ⟨⟨w, hw', -⟩, -⟩
      cases hw'
    | some w =>
      rw [hw] at hall
      simp only at hall
      have hhead : (∃ u, some w = some u ∧ Same eqv h h v u) ↔ Same eqv h h v w := by simp
      rw [hhead]
      cases hvw : compare v w with
      | none =>
        rw [hvw] at hall
        cases hall
      | some b =>
        rw [hvw] at hall
        have hspec := hcompare v w b hvw
        cases b with
        | true => rw [ih hall, and_iff_right (hspec.1 rfl)]
        | false =>
          obtain rfl := Option.some.inj hall
          exact iff_of_false Bool.false_ne_true fun hboth =>
            Bool.false_ne_true (hspec.2 hboth.1)

lemma equalFields_eq_some {compare : HeapValue α → HeapValue α → Option Bool}
    (hcompare : ∀ v w answer, compare v w = some answer → (answer = true ↔ Same eqv h h v w))
    {answer : Bool} (hequal : equalFields compare F G = some answer) :
    answer = true ↔ SameFields eqv h h F G := by
  rw [sameFields_iff]
  rw [equalFields] at hequal
  split at hequal
  · next hsize =>
    obtain rfl := Option.some.inj hequal
    exact iff_of_false Bool.false_ne_true fun hboth => hsize hboth.1
  · next hsize => rw [allEqual_eq_some hcompare hequal, and_iff_right (not_not.1 hsize)]

lemma equal_atom_atom (eq : α → α → Bool) (h : ObjectHeap α) (n : Nat) (a b : α) :
    equal eq h n (.atom a) (.atom b) = some (eq a b) := by
  cases n with
  | zero => rfl
  | succ n => rfl

lemma equal_atom_ref (eq : α → α → Bool) (h : ObjectHeap α) (n : Nat) (a : α) (b : Nat) :
    equal eq h n (.atom a) (.ref b) = some false := by
  cases n with
  | zero => rfl
  | succ n => rfl

lemma equal_ref_atom (eq : α → α → Bool) (h : ObjectHeap α) (n : Nat) (a : Nat) (b : α) :
    equal eq h n (.ref a) (.atom b) = some false := by
  cases n with
  | zero => rfl
  | succ n => rfl

/-- A comparison that is right on objects is right. -/
lemma equal_eq_some_of_refs {eq : α → α → Bool} {n : Nat} {answer : Bool}
    (hrefs : ∀ {a b answer}, equal eq h n (.ref a) (.ref b) = some answer →
      (answer = true ↔ Same (fun a b => eq a b = true) h h (.ref a) (.ref b)))
    (hequal : equal eq h n v w = some answer) :
    answer = true ↔ Same (fun a b => eq a b = true) h h v w := by
  cases v with
  | atom a =>
    cases w with
    | atom b =>
      rw [equal_atom_atom] at hequal
      rw [same_atom_iff, Option.some.inj hequal]
    | ref b =>
      rw [equal_atom_ref] at hequal
      rw [← Option.some.inj hequal]
      exact iff_of_false Bool.false_ne_true not_same_atom_ref
  | ref a =>
    cases w with
    | atom b =>
      rw [equal_ref_atom] at hequal
      rw [← Option.some.inj hequal]
      exact iff_of_false Bool.false_ne_true not_same_ref_atom
    | ref b => exact hrefs hequal

/-- A comparison that is settled is right. -/
lemma equal_eq_some {eq : α → α → Bool} (heq : Equivalence fun a b => eq a b = true) {n : Nat}
    {answer : Bool} (hequal : equal eq h n v w = some answer) :
    answer = true ↔ Same (fun a b => eq a b = true) h h v w := by
  induction n generalizing v w answer with
  | zero =>
    refine equal_eq_some_of_refs (fun {a b answer} hab => ?_) hequal
    rw [equal] at hab
    split at hab
    · next hsame =>
      rw [← Option.some.inj hab, hsame]
      exact iff_of_true rfl fun n => sameTo_refl heq h n _
    · cases hab
  | succ n ih =>
    refine equal_eq_some_of_refs (fun {a b answer} hab => ?_) hequal
    rw [equal] at hab
    split at hab
    · next hsame =>
      rw [← Option.some.inj hab, hsame]
      exact iff_of_true rfl fun n => sameTo_refl heq h n _
    · rw [equalFields_eq_some (fun _ _ _ => ih) hab, same_ref_iff]

end ObjectHeap

end Mockdr
