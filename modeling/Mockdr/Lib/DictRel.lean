import Mockdr.Lib.Assoc

/-!
# Two dictionaries side by side

`Dict.Rel R d e` says that two dictionaries have the same keys in the same order, and under each key
values that `R` relates.

* `Dict.Rel.set`: writing related values under a key keeps two dictionaries related.
* `Dict.Rel.eq`: dictionaries with equal values are equal.
* `Dict.Rel.filter_eq`: where a filter keeps the same keys of both with equal values, it makes the
  same list of them.
-/

namespace Mockdr

namespace Dict

variable {κ ν μ : Type*}

lemma keys_mapValues (f : ν → μ) (d : Dict κ ν) : (d.mapValues f).keys = d.keys := List.map_map ..

/-- Another value under every key, by the key. -/
def mapWithKey (f : κ → ν → μ) (d : Dict κ ν) : Dict κ μ :=
  ⟨d.entries.map fun p => (p.1, f p.1 p.2), by
    rw [List.map_map]
    exact d.nodup⟩

lemma keys_mapWithKey (f : κ → ν → μ) (d : Dict κ ν) : (d.mapWithKey f).keys = d.keys :=
  List.map_map ..

variable [DecidableEq κ]

lemma get_mapWithKey (f : κ → ν → μ) (d : Dict κ ν) (k : κ) :
    (d.mapWithKey f).get k = (d.get k).map (f k) := by
  obtain ⟨entries, hnodup⟩ := d
  change Assoc.get k (entries.map _) = (Assoc.get k entries).map (f k)
  clear hnodup
  induction entries with
  | nil => rfl
  | cons p entries ih =>
    rw [List.map_cons, Assoc.get_cons, Assoc.get_cons]
    split
    · next hk => rw [← hk, Option.map_some]
    · exact ih

/-- Two dictionaries with the same keys, and related values under each. -/
structure Rel (R : κ → ν → μ → Prop) (d : Dict κ ν) (e : Dict κ μ) : Prop where
  keys : d.keys = e.keys
  values : ∀ {k : κ} {v : ν} {w : μ}, d.get k = some v → e.get k = some w → R k v w

lemma filter_entries (d : Dict κ ν) (p : κ × ν → Bool) :
    d.entries.filter p = d.keys.filterMap fun k => ((d.get k).map (Prod.mk k)).filter p := by
  have hentry : ∀ q ∈ d.entries,
      ((d.get q.1).map (Prod.mk q.1)).filter p = Option.guard (p ·) q := by
    intro q hq
    have hget : d.get q.1 = some q.2 := mem_entries_iff.1 hq
    rw [hget]
    simp only [Option.map_some, Option.filter, Option.guard]
  rw [keys, List.filterMap_map, ← List.filterMap_eq_filter]
  exact (List.filterMap_congr hentry).symm

lemma Rel.get {R : κ → ν → μ → Prop} {d : Dict κ ν} {e : Dict κ μ} (h : Rel R d e) (k : κ) :
    (d.get k = none ∧ e.get k = none) ∨ ∃ v w, d.get k = some v ∧ e.get k = some w ∧ R k v w := by
  cases hd : d.get k with
  | none =>
    refine .inl ⟨rfl, ?_⟩
    rw [get_eq_none_iff, ← h.keys]
    exact get_eq_none_iff.1 hd
  | some v =>
    cases he : e.get k with
    | none =>
      rw [get_eq_none_iff, ← h.keys, ← get_eq_none_iff, hd] at he
      cases he
    | some w => exact .inr ⟨v, w, rfl, rfl, h.values hd he⟩

lemma Rel.imp {R S : κ → ν → μ → Prop} {d : Dict κ ν} {e : Dict κ μ} (h : Rel R d e)
    (hRS : ∀ k v w, R k v w → S k v w) : Rel S d e :=
  ⟨h.keys, fun hv hw => hRS _ _ _ (h.values hv hw)⟩

/-- Related values are written under a key of both, or of neither. -/
lemma Rel.set {R : κ → ν → μ → Prop} {d : Dict κ ν} {e : Dict κ μ} (h : Rel R d e) {k : κ} {v : ν}
    {w : μ} (hvw : R k v w) : Rel R (d.set k v) (e.set k w) := by
  refine ⟨?_, ?_⟩
  · rcases h.get k with ⟨hd, he⟩ | ⟨v', w', hd, he, -⟩
    · rw [keys_set_of_none v hd, keys_set_of_none w he, h.keys]
    · rw [keys_set_of_some v hd, keys_set_of_some w he, h.keys]
  · intro j v' w' hv' hw'
    rw [get_set] at hv' hw'
    split at hv'
    · next hj =>
      rw [if_pos hj] at hw'
      cases hv'
      cases hw'
      exact hj ▸ hvw
    · next hj =>
      rw [if_neg hj] at hw'
      exact h.values hv' hw'

lemma Rel.set_left {R : κ → ν → μ → Prop} {d : Dict κ ν} {e : Dict κ μ} (h : Rel R d e) {k : κ}
    {v : ν} {w : μ} (hw : e.get k = some w) (hvw : R k v w) : Rel R (d.set k v) e := by
  have hset := h.set hvw
  rwa [set_of_get hw] at hset

lemma Rel.mapValues_right {ν' : Type*} {R : κ → ν → μ → Prop} {S : κ → ν → ν' → Prop} {d : Dict κ ν}
    {e : Dict κ μ} (h : Rel R d e) (f : μ → ν') (hRS : ∀ k v w, R k v w → S k v (f w)) :
    Rel S d (e.mapValues f) := by
  refine ⟨?_, ?_⟩
  · rw [h.keys]
    exact (keys_mapValues f e).symm
  · intro k v w hv hw
    rw [get_mapValues] at hw
    obtain ⟨w', hw', rfl⟩ := Option.map_eq_some_iff.1 hw
    exact hRS k v w' (h.values hv hw')

/-- Where a filter keeps the same keys of both with equal values, it makes the same list. -/
lemma Rel.filter_eq (p : κ × ν → Bool) {d e : Dict κ ν}
    (h : Rel (fun k v w => p (k, v) = p (k, w) ∧ (p (k, v) = true → v = w)) d e) :
    d.entries.filter p = e.entries.filter p := by
  rw [filter_entries, filter_entries, h.keys]
  refine List.filterMap_congr fun k _ => ?_
  rcases h.get k with ⟨hd, he⟩ | ⟨v, w, hd, he, hp, heq⟩
  · rw [hd, he]
  · rw [hd, he]
    cases hv : p (k, v) with
    | false => rw [Option.map_some, Option.map_some, Option.filter_some_neg (by simp [hv]),
        Option.filter_some_neg (by simp [← hp, hv])]
    | true => rw [heq hv]

/-- Dictionaries with equal values are equal. -/
lemma Rel.eq {d e : Dict κ ν} (h : Rel (fun _ v w => v = w) d e) : d = e := by
  refine Dict.ext ?_
  have hfilter := Rel.filter_eq (fun _ => true) (h.imp fun _ _ _ hvw => ⟨rfl, fun _ => hvw⟩)
  rwa [List.filter_true, List.filter_true] at hfilter

end Dict

end Mockdr
