import Mathlib.Data.List.Lookmap
import Mathlib.Data.List.Nodup
import Mathlib.Tactic.Lemma

/-!
# Insertion-ordered dictionaries

The dictionary of a language whose dictionaries remember the order in which their keys were first
written: an association list `List (κ × ν)`, in which writing a key that is there keeps its place
and writing one that is not appends it.

* `Assoc.get`, `Assoc.set`, `Assoc.erase` work on bare association lists (the members of a JSON
  object).
* `Dict` carries the proof that no key occurs twice, so that a lookup and a membership say the same
  (`Dict.mem_entries_iff`), and a count of entries moves by exactly one (`Dict.countP_set`,
  `Dict.countP_erase`).
-/

namespace Mockdr

namespace Assoc

variable {κ ν : Type*} [DecidableEq κ]

/-- The value under a key. -/
def get (k : κ) : List (κ × ν) → Option ν
  | [] => none
  | (j, v) :: rest => if j = k then some v else get k rest

/-- Write a value under a key: in place if the key is there, at the end otherwise. -/
def set (k : κ) (v : ν) : List (κ × ν) → List (κ × ν)
  | [] => [(k, v)]
  | (j, w) :: rest => if j = k then (k, v) :: rest else (j, w) :: set k v rest

/-- Drop the entry under a key. -/
def erase (k : κ) (l : List (κ × ν)) : List (κ × ν) := l.filter (fun p => p.1 ≠ k)

@[simp] lemma get_nil (k : κ) : get k ([] : List (κ × ν)) = none := rfl

lemma get_cons (k j : κ) (v : ν) (l : List (κ × ν)) :
    get k ((j, v) :: l) = if j = k then some v else get k l := rfl

lemma erase_cons (k j : κ) (v : ν) (l : List (κ × ν)) :
    erase k ((j, v) :: l) = if j = k then erase k l else (j, v) :: erase k l := by
  by_cases e : j = k <;> simp [erase, e]

lemma mem_of_get {k : κ} {v : ν} {l : List (κ × ν)} (h : get k l = some v) : (k, v) ∈ l := by
  induction l with
  | nil => cases h
  | cons p rest ih =>
    obtain ⟨j, w⟩ := p
    rw [get_cons] at h
    split at h
    next e => cases h; subst e; exact List.mem_cons_self
    next => exact List.mem_cons_of_mem _ (ih h)

lemma get_eq_none_iff {k : κ} {l : List (κ × ν)} : get k l = none ↔ k ∉ l.map Prod.fst := by
  induction l with
  | nil => simp
  | cons p rest ih =>
    obtain ⟨j, w⟩ := p
    rw [get_cons, List.map_cons, List.mem_cons, not_or]
    by_cases e : j = k
    · simp [e]
    · rw [if_neg e, ih]
      exact ⟨fun h => ⟨fun h' => e h'.symm, h⟩, fun h => h.2⟩

lemma mem_set {k : κ} {v : ν} {p : κ × ν} {l : List (κ × ν)} (h : p ∈ set k v l) :
    p = (k, v) ∨ p ∈ l := by
  induction l with
  | nil => exact .inl (List.mem_singleton.1 h)
  | cons q rest ih =>
    obtain ⟨j, w⟩ := q
    rw [set] at h
    split_ifs at h with e
    · rcases List.mem_cons.1 h with rfl | h
      · exact .inl rfl
      · exact .inr (List.mem_cons_of_mem _ h)
    · rcases List.mem_cons.1 h with rfl | h
      · exact .inr List.mem_cons_self
      · exact (ih h).imp_right (List.mem_cons_of_mem _)

lemma get_set_self (k : κ) (v : ν) (l : List (κ × ν)) : get k (set k v l) = some v := by
  induction l with
  | nil => simp [set, get_cons]
  | cons p rest ih =>
    obtain ⟨j, w⟩ := p
    by_cases e : j = k
    · simp [set, e, get_cons]
    · simp only [set, e, if_false, get_cons]
      exact ih

lemma get_set_ne {k k' : κ} (v : ν) (l : List (κ × ν)) (h : k' ≠ k) :
    get k' (set k v l) = get k' l := by
  induction l with
  | nil => simp [set, get_cons, h.symm]
  | cons p rest ih =>
    obtain ⟨j, w⟩ := p
    by_cases e : j = k
    · subst e
      simp [set, get_cons, h.symm]
    · simp only [set, e, if_false, get_cons, ih]

lemma get_erase_self (k : κ) (l : List (κ × ν)) : get k (erase k l) = none := by
  rw [get_eq_none_iff]
  simp [erase]

lemma get_erase_ne {k k' : κ} (l : List (κ × ν)) (h : k' ≠ k) :
    get k' (erase k l) = get k' l := by
  induction l with
  | nil => rfl
  | cons p rest ih =>
    obtain ⟨j, w⟩ := p
    by_cases e : j = k
    · subst e
      rw [erase_cons, if_pos rfl, ih, get_cons, if_neg h.symm]
    · rw [erase_cons, if_neg e, get_cons, get_cons, ih]

lemma set_set (k : κ) (v w : ν) (l : List (κ × ν)) : set k w (set k v l) = set k w l := by
  induction l with
  | nil => simp [set]
  | cons p rest ih =>
    obtain ⟨j, x⟩ := p
    by_cases e : j = k
    · simp [set, e]
    · simp only [set, e, if_false, ih]

lemma exists_set_eq {k : κ} {w : ν} {l : List (κ × ν)} (h : get k l = some w) :
    ∃ front back, l = front ++ (k, w) :: back ∧ ∀ v, set k v l = front ++ (k, v) :: back := by
  induction l with
  | nil => cases h
  | cons p rest ih =>
    obtain ⟨j, u⟩ := p
    rw [get_cons] at h
    split_ifs at h with hj
    · subst hj
      obtain rfl := Option.some.inj h
      exact ⟨[], rest, rfl, fun v => if_pos rfl⟩
    · obtain ⟨front, back, hrest, hset⟩ := ih h
      refine ⟨(j, u) :: front, back, congrArg ((j, u) :: ·) hrest, fun v => ?_⟩
      rw [set, if_neg hj, hset, List.cons_append]

lemma set_of_get {k : κ} {v : ν} {l : List (κ × ν)} (h : get k l = some v) : set k v l = l := by
  induction l with
  | nil => cases h
  | cons p rest ih =>
    obtain ⟨j, x⟩ := p
    rw [get_cons] at h
    split at h
    next e => cases h; simp [set, e]
    next e => simp only [set, e, if_false, ih h]

lemma erase_set (k : κ) (v : ν) (l : List (κ × ν)) : erase k (set k v l) = erase k l := by
  induction l with
  | nil => simp [set, erase]
  | cons p rest ih =>
    obtain ⟨j, x⟩ := p
    by_cases e : j = k
    · simp [set, erase_cons, e]
    · simp only [set, e, if_false, erase_cons, ih]

lemma set_of_get_none {k : κ} {l : List (κ × ν)} (v : ν) (h : get k l = none) :
    set k v l = l ++ [(k, v)] := by
  induction l with
  | nil => rfl
  | cons p rest ih =>
    obtain ⟨j, w⟩ := p
    rw [get_cons] at h
    split at h
    next => cases h
    next e => simp only [set, e, if_false, List.cons_append, ih h]

lemma map_fst_set_of_get_some {k : κ} {l : List (κ × ν)} {w : ν} (v : ν) (h : get k l = some w) :
    (set k v l).map Prod.fst = l.map Prod.fst := by
  induction l with
  | nil => cases h
  | cons p rest ih =>
    obtain ⟨j, x⟩ := p
    rw [get_cons] at h
    split at h
    next e => simp [set, e]
    next e => simp only [set, e, if_false, List.map_cons, ih h]

lemma nodup_set {l : List (κ × ν)} (k : κ) (v : ν) (h : (l.map Prod.fst).Nodup) :
    ((set k v l).map Prod.fst).Nodup := by
  cases e : get k l with
  | none =>
    rw [set_of_get_none v e, List.map_append, List.nodup_append]
    refine ⟨h, List.nodup_singleton _, ?_⟩
    intro a ha b hb
    rw [List.map_singleton, List.mem_singleton] at hb
    subst hb
    intro e'
    subst e'
    exact (get_eq_none_iff.1 e) ha
  | some w =>
    rw [map_fst_set_of_get_some v e]
    exact h

lemma nodup_erase {l : List (κ × ν)} (k : κ) (h : (l.map Prod.fst).Nodup) :
    ((erase k l).map Prod.fst).Nodup :=
  h.sublist (List.filter_sublist.map _)

lemma get_of_mem {k : κ} {v : ν} {l : List (κ × ν)} (nd : (l.map Prod.fst).Nodup)
    (h : (k, v) ∈ l) : get k l = some v := by
  induction l with
  | nil => cases h
  | cons p rest ih =>
    obtain ⟨j, w⟩ := p
    rw [List.map_cons, List.nodup_cons] at nd
    rw [get_cons]
    rcases List.mem_cons.1 h with e | h'
    · cases e
      rw [if_pos rfl]
    · have hne : j ≠ k := by
        intro e
        subst e
        have hm : j ∈ rest.map Prod.fst := List.mem_map.2 ⟨(j, v), h', rfl⟩
        exact nd.1 hm
      rw [if_neg hne]
      exact ih nd.2 h'

lemma filter_key {k : κ} {v : ν} {l : List (κ × ν)} (nd : (l.map Prod.fst).Nodup) (h : (k, v) ∈ l) :
    l.filter (fun p => p.1 = k) = [(k, v)] := by
  induction l with
  | nil => cases h
  | cons p rest ih =>
    rw [List.map_cons, List.nodup_cons] at nd
    rcases List.mem_cons.1 h with rfl | h
    · rw [List.filter_cons_of_pos (by simp), List.filter_eq_nil_iff.2]
      intro q hq hqk
      exact nd.1 (List.mem_map.2 ⟨q, hq, of_decide_eq_true hqk⟩)
    · rw [List.filter_cons_of_neg, ih nd.2 h]
      rw [decide_eq_true_eq]
      rintro rfl
      exact nd.1 (List.mem_map.2 ⟨(p.1, v), h, rfl⟩)

/-- With distinct keys, dropping a counted key takes one off a count over the keys. -/
lemma countP_erase {l : List (κ × ν)} (p : κ → Bool) (k : κ) (nd : (l.map Prod.fst).Nodup) :
    ((erase k l).map Prod.fst).countP p + (if (get k l).isSome && p k then 1 else 0)
      = (l.map Prod.fst).countP p := by
  induction l with
  | nil => simp [erase]
  | cons q rest ih =>
    obtain ⟨j, w⟩ := q
    rw [List.map_cons, List.nodup_cons] at nd
    have ih' := ih nd.2
    by_cases e : j = k
    · subst e
      have hn : get j rest = none := get_eq_none_iff.2 nd.1
      simp only [hn, Option.isSome_none, Bool.false_and, Bool.false_eq_true, if_false] at ih'
      simp only [erase_cons, get_cons, if_true, Option.isSome_some, Bool.true_and, List.map_cons,
        List.countP_cons]
      omega
    · simp only [erase_cons, get_cons, e, if_false, List.map_cons, List.countP_cons]
      omega

end Assoc

/-- An insertion-ordered dictionary: its entries, no two of them under one key. -/
structure Dict (κ ν : Type*) where
  entries : List (κ × ν)
  nodup : (entries.map Prod.fst).Nodup

namespace Dict

variable {κ ν : Type*}

@[ext] lemma ext {d d' : Dict κ ν} (h : d.entries = d'.entries) : d = d' := by
  cases d; cases d'; cases h; rfl

/-- The dictionary with no entry. -/
def empty : Dict κ ν := ⟨[], List.nodup_nil⟩

/-- How many entries there are. -/
def size (d : Dict κ ν) : Nat := d.entries.length

/-- The keys, oldest first. -/
def keys (d : Dict κ ν) : List κ := d.entries.map Prod.fst

lemma nodup_keys (d : Dict κ ν) : d.keys.Nodup := d.nodup

/-- Rename the keys. -/
def mapKeys {κ' : Type*} (f : κ → κ') (hf : f.Injective) (d : Dict κ ν) : Dict κ' ν :=
  ⟨d.entries.map fun p => (f p.1, p.2), by
    rw [List.map_map]
    change (d.entries.map (f ∘ Prod.fst)).Nodup
    rw [← List.map_map]
    exact d.nodup.map hf⟩

/-- Another value under every key. -/
def mapValues {ν' : Type*} (f : ν → ν') (d : Dict κ ν) : Dict κ ν' :=
  ⟨d.entries.map fun p => (p.1, f p.2), by
    rw [List.map_map]
    exact d.nodup⟩

lemma size_mapValues {ν' : Type*} (f : ν → ν') (d : Dict κ ν) : (d.mapValues f).size = d.size :=
  List.length_map _

/-- Drop the oldest entry. -/
def dropOldest (d : Dict κ ν) : Dict κ ν :=
  ⟨d.entries.tail, by rw [List.map_tail]; exact d.nodup.sublist (List.tail_sublist _)⟩

lemma keys_dropOldest (d : Dict κ ν) : d.dropOldest.keys = d.keys.tail := List.map_tail

/-- Keep the entries that pass a test. -/
def filter (p : κ × ν → Bool) (d : Dict κ ν) : Dict κ ν :=
  ⟨d.entries.filter p, d.nodup.sublist (List.filter_sublist.map _)⟩

variable [DecidableEq κ]

/-- The value under a key. -/
def get (d : Dict κ ν) (k : κ) : Option ν := Assoc.get k d.entries

/-- Write a value under a key. -/
def set (d : Dict κ ν) (k : κ) (v : ν) : Dict κ ν :=
  ⟨Assoc.set k v d.entries, Assoc.nodup_set k v d.nodup⟩

/-- Drop the entry under a key. -/
def erase (d : Dict κ ν) (k : κ) : Dict κ ν :=
  ⟨Assoc.erase k d.entries, Assoc.nodup_erase k d.nodup⟩

/-- Whether a key is there. -/
def contains (d : Dict κ ν) (k : κ) : Bool := (d.get k).isSome

@[simp] lemma get_empty (k : κ) : (empty : Dict κ ν).get k = none := rfl

@[simp] lemma get_set_self (d : Dict κ ν) (k : κ) (v : ν) : (d.set k v).get k = some v :=
  Assoc.get_set_self k v d.entries

lemma get_set_ne (d : Dict κ ν) {k k' : κ} (v : ν) (h : k' ≠ k) : (d.set k v).get k' = d.get k' :=
  Assoc.get_set_ne v d.entries h

lemma get_set (d : Dict κ ν) (k k' : κ) (v : ν) :
    (d.set k v).get k' = if k' = k then some v else d.get k' := by
  by_cases h : k' = k
  · subst h; simp
  · rw [if_neg h, get_set_ne d v h]

@[simp] lemma get_erase_self (d : Dict κ ν) (k : κ) : (d.erase k).get k = none :=
  Assoc.get_erase_self k d.entries

lemma get_erase_ne (d : Dict κ ν) {k k' : κ} (h : k' ≠ k) : (d.erase k).get k' = d.get k' :=
  Assoc.get_erase_ne d.entries h

lemma get_erase (d : Dict κ ν) (k k' : κ) :
    (d.erase k).get k' = if k' = k then none else d.get k' := by
  by_cases h : k' = k
  · subst h; simp
  · rw [if_neg h, get_erase_ne d h]

lemma set_set (d : Dict κ ν) (k : κ) (v w : ν) : (d.set k v).set k w = d.set k w :=
  ext (Assoc.set_set k v w d.entries)

lemma set_of_get {d : Dict κ ν} {k : κ} {v : ν} (h : d.get k = some v) : d.set k v = d :=
  ext (Assoc.set_of_get h)

lemma erase_set (d : Dict κ ν) (k : κ) (v : ν) : (d.set k v).erase k = d.erase k :=
  ext (Assoc.erase_set k v d.entries)

/-- An entry is what its key reads. -/
lemma mem_entries_iff {d : Dict κ ν} {k : κ} {v : ν} : (k, v) ∈ d.entries ↔ d.get k = some v :=
  ⟨Assoc.get_of_mem d.nodup, Assoc.mem_of_get⟩

lemma filterMap_get {d : Dict κ ν} {l : List (κ × ν)} (h : ∀ p ∈ l, p ∈ d.entries) :
    (l.map Prod.fst).filterMap d.get = l.map Prod.snd := by
  induction l with
  | nil => rfl
  | cons p l ih =>
    have hp : d.get p.1 = some p.2 := mem_entries_iff.1 (h p List.mem_cons_self)
    rw [List.map_cons, List.filterMap_cons_some hp, List.map_cons,
      ih fun q hq => h q (List.mem_cons_of_mem p hq)]

lemma get_filter (d : Dict κ ν) (p : κ × ν → Bool) (k : κ) :
    (d.filter p).get k = (d.get k).filter (fun v => p (k, v)) := by
  cases h : (d.get k).filter (fun v => p (k, v)) with
  | some v =>
    rw [Option.filter_eq_some_iff] at h
    rw [← mem_entries_iff]
    exact List.mem_filter.2 ⟨mem_entries_iff.2 h.1, h.2⟩
  | none =>
    cases h' : (d.filter p).get k with
    | none => rfl
    | some v =>
      rw [← mem_entries_iff] at h'
      obtain ⟨hm, hp⟩ := List.mem_filter.1 h'
      rw [mem_entries_iff.1 hm] at h
      simp [Option.filter, hp] at h

lemma entries_set_of_none {d : Dict κ ν} {k : κ} (v : ν) (h : d.get k = none) :
    (d.set k v).entries = d.entries ++ [(k, v)] :=
  Assoc.set_of_get_none v h

lemma keys_set_of_some {d : Dict κ ν} {k : κ} {w : ν} (v : ν) (h : d.get k = some w) :
    (d.set k v).keys = d.keys :=
  Assoc.map_fst_set_of_get_some v h

lemma get_eq_none_iff {d : Dict κ ν} {k : κ} : d.get k = none ↔ k ∉ d.keys := Assoc.get_eq_none_iff

lemma keys_set_of_none {d : Dict κ ν} {k : κ} (v : ν) (h : d.get k = none) :
    (d.set k v).keys = d.keys ++ [k] := by
  rw [keys, entries_set_of_none v h, List.map_append]
  rfl

lemma get_mapValues {ν' : Type*} (f : ν → ν') (d : Dict κ ν) (k : κ) :
    (d.mapValues f).get k = (d.get k).map f := by
  obtain ⟨entries, _⟩ := d
  change Assoc.get k (entries.map _) = (Assoc.get k entries).map f
  induction entries with
  | nil => rfl
  | cons p entries ih =>
    rw [List.map_cons, Assoc.get_cons, Assoc.get_cons]
    split
    · rfl
    · exact ih (List.nodup_cons.1 ‹_›).2

lemma mapValues_set {ν' : Type*} (f : ν → ν') (d : Dict κ ν) (k : κ) (v : ν) :
    (d.set k v).mapValues f = (d.mapValues f).set k (f v) := by
  refine Dict.ext ?_
  change (Assoc.set k v d.entries).map _ = Assoc.set k (f v) (d.entries.map _)
  induction d.entries with
  | nil => rfl
  | cons p entries ih =>
    rw [Assoc.set, List.map_cons, Assoc.set]
    split
    · rfl
    · rw [List.map_cons, ih]

lemma size_set (d : Dict κ ν) (k : κ) (v : ν) :
    (d.set k v).size = d.size + if d.contains k then 0 else 1 := by
  have hsize : ∀ d : Dict κ ν, d.size = d.keys.length := fun d => (List.length_map _).symm
  rw [hsize, hsize, contains]
  cases hget : d.get k with
  | some w => rw [keys_set_of_some v hget, Option.isSome_some, if_pos rfl, Nat.add_zero]
  | none =>
    rw [keys_set_of_none v hget, List.length_append, Option.isSome_none,
      if_neg Bool.false_ne_true, List.length_singleton]

/-- Writing entries one after the other adds at most as many, and as many only where their keys are
    new and differ. -/
lemma foldl_set (l : List (κ × ν)) (d : Dict κ ν) :
    let written := l.foldl (fun d p => d.set p.1 p.2) d
    written.size ≤ d.size + l.length
      ∧ (written.size = d.size + l.length → written.entries = d.entries ++ l) := by
  induction l generalizing d with
  | nil => exact ⟨Nat.le_refl _, fun _ => (List.append_nil _).symm⟩
  | cons p l ih =>
    obtain ⟨hle, heq⟩ := ih (d.set p.1 p.2)
    rw [List.foldl_cons, List.length_cons]
    rw [size_set, contains] at hle heq
    cases hget : d.get p.1 with
    | some w =>
      rw [hget, Option.isSome_some, if_pos rfl] at hle
      refine ⟨by omega, ?_⟩
      intro hfull
      omega
    | none =>
      rw [hget, Option.isSome_none, if_neg Bool.false_ne_true] at hle heq
      refine ⟨by omega, ?_⟩
      intro hfull
      rw [heq (by omega), entries_set_of_none p.2 hget, List.append_assoc]
      rfl

lemma get_foldl_set_ne {l : List (κ × ν)} {d : Dict κ ν} {k : κ} (h : k ∉ l.map Prod.fst) :
    (l.foldl (fun d p => d.set p.1 p.2) d).get k = d.get k := by
  induction l generalizing d with
  | nil => rfl
  | cons p l ih =>
    rw [List.map_cons, List.mem_cons, not_or] at h
    rw [List.foldl_cons, ih h.2, get_set_ne d p.2 h.1]

lemma get_foldl_set {l : List (κ × ν)} {d : Dict κ ν}
    (h : ∀ p ∈ l, ∀ q ∈ l, p.1 = q.1 → p.2 = q.2) {p : κ × ν} (hp : p ∈ l) :
    (l.foldl (fun d p => d.set p.1 p.2) d).get p.1 = some p.2 := by
  induction l generalizing d p with
  | nil => cases hp
  | cons q l ih =>
    have hrest : ∀ p ∈ l, ∀ q ∈ l, p.1 = q.1 → p.2 = q.2 := fun p hp q hq =>
      h p (List.mem_cons_of_mem _ hp) q (List.mem_cons_of_mem _ hq)
    rw [List.foldl_cons]
    rcases List.mem_cons.1 hp with rfl | hp
    · by_cases hlater : p.1 ∈ l.map Prod.fst
      · obtain ⟨r, hr, hkey⟩ := List.mem_map.1 hlater
        rw [← hkey, ih hrest hr,
          h r (List.mem_cons_of_mem _ hr) p List.mem_cons_self hkey]
      · rw [get_foldl_set_ne hlater, get_set, if_pos rfl]
    · exact ih hrest hp

lemma entries_foldl_set {l : List (κ × ν)} {d : Dict κ ν}
    (h : ((d.entries ++ l).map Prod.fst).Nodup) :
    (l.foldl (fun d p => d.set p.1 p.2) d).entries = d.entries ++ l := by
  induction l generalizing d with
  | nil => exact (List.append_nil _).symm
  | cons p l ih =>
    have hnone : d.get p.1 = none := by
      rw [get_eq_none_iff]
      intro hmem
      rw [List.map_append, List.map_cons] at h
      exact (List.nodup_append.1 h).2.2 _ hmem _ List.mem_cons_self rfl
    have hentries := entries_set_of_none p.2 hnone
    have hassoc : d.entries ++ p :: l = (d.set p.1 p.2).entries ++ l := by
      rw [hentries, List.append_assoc]
      rfl
    rw [List.foldl_cons, ih (hassoc ▸ h), hassoc]

lemma keys_erase (d : Dict κ ν) (k : κ) : (d.erase k).keys = d.keys.filter (· ≠ k) := by
  rw [keys, keys, List.filter_map]
  rfl

lemma keys_foldl_erase (ks : List κ) (d : Dict κ ν) :
    (ks.foldl erase d).keys = d.keys.filter (· ∉ ks) := by
  induction ks generalizing d with
  | nil => simp
  | cons k ks ih =>
    rw [List.foldl_cons, ih, keys_erase, List.filter_filter]
    apply List.filter_congr
    intro j _
    simp [not_or, Bool.and_comm]

lemma get_foldl_erase {α : Type*} (f : α → κ) (l : List α) (d : Dict κ ν) (k : κ) :
    (l.foldl (fun d a => d.erase (f a)) d).get k = if k ∈ l.map f then none else d.get k := by
  induction l generalizing d with
  | nil => simp
  | cons a l ih =>
    rw [List.foldl_cons, ih, get_erase, List.map_cons]
    by_cases hk : k = f a
    · simp [hk]
    · simp [hk, List.mem_cons]

/-- How many keys pass a test. -/
def countP (d : Dict κ ν) (p : κ → Bool) : Nat := d.keys.countP p

/-- A count over the keys moves by one when a new key is written, and not at all otherwise. -/
lemma countP_set (d : Dict κ ν) (p : κ → Bool) (k : κ) (v : ν) :
    (d.set k v).countP p = d.countP p + if (d.get k).isNone && p k then 1 else 0 := by
  cases h : d.get k with
  | none =>
    simp only [countP, keys, entries_set_of_none v h, List.map_append, List.countP_append]
    by_cases hp : p k <;> simp [hp]
  | some w => simp only [countP, keys_set_of_some v h]; simp

/-- A count over the keys moves by one when a counted key is dropped. -/
lemma countP_erase (d : Dict κ ν) (p : κ → Bool) (k : κ) :
    (d.erase k).countP p + (if (d.get k).isSome && p k then 1 else 0) = d.countP p :=
  Assoc.countP_erase p k d.nodup

lemma mem_keys_iff {d : Dict κ ν} {k : κ} : k ∈ d.keys ↔ (d.get k).isSome := by
  rw [← not_iff_not, keys, get, ← Assoc.get_eq_none_iff, Option.not_isSome_iff_eq_none]

lemma countP_congr {d d' : Dict κ ν} {p : κ → Bool}
    (h : ∀ k, p k = true → (d.get k).isSome = (d'.get k).isSome) : d.countP p = d'.countP p := by
  rw [countP, countP, List.countP_eq_length_filter, List.countP_eq_length_filter]
  apply List.Perm.length_eq
  rw [List.perm_ext_iff_of_nodup (d.nodup_keys.filter _) (d'.nodup_keys.filter _)]
  intro k
  rw [List.mem_filter, List.mem_filter, mem_keys_iff, mem_keys_iff]
  constructor
  · intro ⟨hk, hp⟩
    exact ⟨(h k hp).symm.trans hk, hp⟩
  · intro ⟨hk, hp⟩
    exact ⟨(h k hp).trans hk, hp⟩

lemma countP_eq_zero {d : Dict κ ν} {p : κ → Bool} (h : ∀ k, p k = true → d.get k = none) :
    d.countP p = 0 := by
  rw [countP, List.countP_eq_zero]
  intro k hk hp
  rw [mem_keys_iff, h k hp] at hk
  cases hk

end Dict

end Mockdr
