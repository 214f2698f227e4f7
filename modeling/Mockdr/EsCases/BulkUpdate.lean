import Mathlib.Logic.Function.Iterate
import Mathlib.Data.List.Count
import Mockdr.EsCases.Versions

/-!
# A bulk update of cases

`PATCH /api/cases` takes a list of patches and applies one after the other, each as soon as it has
been checked (`update_cases` of `api/routers/es_cases.py`).

* `patchCases` is the route.
* `Current`: a patch names a case with the version that it has when the patches in front of it have
  been applied.
* `patched_together_iff`: every patch is applied or none is, exactly if all of them are current or
  the first is not. A patch that is not current leaves those in front of it applied.
-/

namespace Mockdr

namespace EsCases

section

variable (py : CasePython)

/-- `body.get("cases")`, if it is a list. -/
def patchesOf (body : Object) : List Json :=
  match Object.get body "cases" with
  | .list patches => patches
  | _ => []

/-- The patches, each with the time at which it is applied. -/
def timed (times : ℕ → String) (patches : List Json) : List (Json × String) :=
  patches.zipIdx.map fun (patch, i) => (patch, times i)

/-- `update_cases` -/
def patchCases (body : Object) (times : ℕ → String) (s : Store) : Store × Response :=
  if patchesOf body = [] then (s, .badRequest)
  else updateCases py (timed times (patchesOf body)) s

/-- A patch names a case. -/
def names (c : String) : Json → Bool
  | .dict members =>
    match Object.get members "id" with
    | .str id => id = c
    | _ => false
  | _ => false

/-- The version that a case has when some patches have been applied: one further for each of them
    that names it. -/
def versionAfter (s : Store) (applied : List Json) (c : String) : Option String :=
  (versionOf s c).map (nextVersion py)^[applied.countP (names c)]

/-- A patch names a case with the version that it has when the patches in front of it have been
    applied. -/
def Current (s : Store) (front : List Json) (patch : Json) : Prop :=
  ∃ c v, Carries patch c v ∧ versionAfter py s front c = some v

/-- Every patch is current. -/
def AllCurrent (s : Store) (patches : List Json) : Prop :=
  ∀ front patch rest, patches = front ++ patch :: rest → Current py s front patch

/-- Every patch is current, or the first is not. -/
def Uniform (s : Store) (patches : List Json) : Prop :=
  AllCurrent py s patches ∨ ∀ first ∈ patches.head?, ¬ Current py s [] first

/-- The answer to some patches: every one has been applied, or it is a refusal and the store is as
    it was. -/
def AllOrNothing (patches : List (Json × String)) (s : Store) (answer : Store × Response) : Prop :=
  answer = (runFrom (step py) s (patches.map fun p => .update p.1 p.2), .ok)
    ∨ answer.2 ≠ .ok ∧ answer.1 = s

end

variable {py : CasePython} {s : Store} {patch : Json} {now c v : String}

/-! ## One patch -/

/-- A patch that is accepted carries the version of its case, and takes it one further. -/
lemma carries_of_ok (h : (updateEntry py patch now s).2 = .ok) :
    ∃ c v, Carries patch c v ∧ versionOf s c = some v
      ∧ ∀ id, versionOf (updateEntry py patch now s).1 id
        = if id = c then some (nextVersion py v) else versionOf s id := by
  obtain ⟨members, c, case, changes, rfl, hid, hcase, hstore⟩ := updateEntry_ok h
  have hlookup : lookup s.cases (.str c) = some (c, case) := by
    rw [lookup, hcase, Option.map_some]
  rw [updateEntry] at h
  simp only [hid, hlookup, hashable, Bool.not_true, Bool.false_eq_true, if_false] at h
  split_ifs at h with htruthy hdiffers
  simp only [Bool.or_eq_true, Bool.not_eq_true', not_or, Bool.not_eq_false] at htruthy
  cases hversion : Object.get members "version" with
  | str v =>
    rw [hversion, differs, decide_eq_true_eq, not_not] at hdiffers
    subst hdiffers
    refine ⟨c, case.version, ⟨⟨members, rfl, hid, hversion⟩, ?_, ?_⟩, ?_, fun id => ?_⟩
    · exact of_decide_eq_true htruthy.1
    · rw [hversion] at htruthy
      exact of_decide_eq_true htruthy.2
    · rw [versionOf, hcase, Option.map_some]
    · rw [hstore]
      split_ifs with hsame
      · subst hsame
        exact versionOf_set_self
      · exact versionOf_set_of_ne hsame
  | _ =>
    rw [hversion] at hdiffers
    exact absurd rfl hdiffers

lemma Carries.names (h : Carries patch c v) (id : String) : names id patch = decide (c = id) := by
  obtain ⟨⟨members, rfl, hid, -⟩, -, -⟩ := h
  rw [EsCases.names, hid]

lemma updateEntry_ok_iff : (updateEntry py patch now s).2 = .ok ↔ Current py s [] patch := by
  constructor
  · intro h
    obtain ⟨c, v, hcarries, hv, -⟩ := carries_of_ok h
    exact ⟨c, v, hcarries, by rw [versionAfter, hv]; rfl⟩
  · rintro ⟨c, v, hcarries, hv⟩
    obtain ⟨w, hw, rfl⟩ := Option.map_eq_some_iff.1 hv
    exact (hcarries.respond hw).trans (if_pos rfl)

lemma versionAfter_updateEntry (h : (updateEntry py patch now s).2 = .ok) (front : List Json)
    (id : String) :
    versionAfter py (updateEntry py patch now s).1 front id
      = versionAfter py s (patch :: front) id := by
  obtain ⟨c, v, hcarries, hv, hafter⟩ := carries_of_ok h
  rw [versionAfter, versionAfter, hafter, List.countP_cons, hcarries.names]
  by_cases hid : id = c
  · subst hid
    rw [if_pos rfl, hv, decide_eq_true rfl, if_pos rfl]
    rfl
  · rw [if_neg hid, decide_eq_false (Ne.symm hid), if_neg Bool.false_ne_true, Nat.add_zero]

/-- The patches of a list are current exactly if the first is, and the others are when it has been
    applied. -/
lemma allCurrent_cons (h : (updateEntry py patch now s).2 = .ok) {patches : List Json} :
    AllCurrent py s (patch :: patches) ↔ AllCurrent py (updateEntry py patch now s).1 patches := by
  have hcurrent : ∀ front other, Current py (updateEntry py patch now s).1 front other
      ↔ Current py s (patch :: front) other := by
    intro front other
    simp only [Current, versionAfter_updateEntry h]
  constructor
  · rintro hall front other rest rfl
    exact (hcurrent front other).2 (hall (patch :: front) other rest rfl)
  · intro hall front other rest hpatches
    cases front with
    | nil =>
      obtain ⟨rfl, rfl⟩ := List.cons.inj hpatches
      exact updateEntry_ok_iff.1 h
    | cons first front =>
      obtain ⟨rfl, rfl⟩ := List.cons.inj hpatches
      exact (hcurrent front other).1 (hall front other rest rfl)

/-! ## A list of patches -/

lemma updateCases_of_ok {patches : List (Json × String)}
    (h : (updateEntry py patch now s).2 = .ok) :
    updateCases py ((patch, now) :: patches) s
      = updateCases py patches (updateEntry py patch now s).1 := by
  rw [updateCases]
  split
  · next hentry => rw [hentry]
  · next hrefused => exact (hrefused _ (Prod.ext rfl h)).elim

lemma updateCases_of_refused {patches : List (Json × String)}
    (h : (updateEntry py patch now s).2 ≠ .ok) :
    updateCases py ((patch, now) :: patches) s = (s, (updateEntry py patch now s).2) := by
  rw [updateCases]
  split
  · next hentry => exact absurd (congrArg Prod.snd hentry) h
  · exact Prod.ext (updateEntry_refused h) rfl

lemma updateCases_ok_iff {patches : List (Json × String)} :
    (updateCases py patches s).2 = .ok ↔ AllCurrent py s (patches.map Prod.fst) := by
  induction patches generalizing s with
  | nil =>
    refine iff_of_true rfl fun front other rest h => ?_
    cases front <;> cases h
  | cons p patches ih =>
    obtain ⟨patch, now⟩ := p
    rw [List.map_cons]
    by_cases hok : (updateEntry py patch now s).2 = .ok
    · rw [updateCases_of_ok hok, allCurrent_cons hok]
      exact ih
    · rw [updateCases_of_refused hok]
      refine iff_of_false hok fun hall => hok ?_
      exact updateEntry_ok_iff.2 (hall [] patch _ rfl)

lemma updateCases_run {patches : List (Json × String)} (h : (updateCases py patches s).2 = .ok) :
    (updateCases py patches s).1 = runFrom (step py) s (patches.map fun p => .update p.1 p.2) := by
  induction patches generalizing s with
  | nil => rfl
  | cons p patches ih =>
    obtain ⟨patch, now⟩ := p
    by_cases hok : (updateEntry py patch now s).2 = .ok
    · rw [updateCases_of_ok hok] at h ⊢
      exact ih h
    · rw [updateCases_of_refused hok] at h
      exact absurd h hok

/-! ## Versions do not come back -/

/-- Numbers that count up to a limit, and from one again, do not come back before they have counted
    up to it. -/
lemma ne_of_counting {number : ℕ → ℤ} (limit : ℤ) (hlow : ∀ i, -limit < number i)
    (hhigh : ∀ i, number i < limit)
    (hnext : ∀ i, number (i + 1) = number i + 1 ∨ limit ≤ number i + 1 ∧ number (i + 1) = 1)
    {k : ℕ} (hk : 0 < k) (hsoon : (k : ℤ) + 1 < limit) : number k ≠ number 0 := by
  have hcounted : ∀ j : ℕ, j ≤ k → number j = number 0 + j
      ∨ ∃ t : ℕ, 1 ≤ t ∧ t ≤ j ∧ limit ≤ number 0 + t ∧ number j = 1 + (j - t : ℤ) := by
    intro j
    induction j with
    | zero => exact fun _ => .inl (by simp)
    | succ j ih =>
      intro hj
      have hlow0 := hlow 0
      rcases ih (by omega) with hcount | ⟨t, ht, htj, hlimit, hcount⟩
      · rcases hnext j with hup | ⟨hwrap, hone⟩
        · exact .inl (by push_cast; omega)
        · exact .inr ⟨j + 1, by omega, le_refl _, by push_cast; omega, by push_cast; omega⟩
      · rcases hnext j with hup | ⟨hwrap, -⟩
        · exact .inr ⟨t, ht, by omega, hlimit, by push_cast; omega⟩
        · omega
  have hhigh0 := hhigh 0
  rcases hcounted k (le_refl k) with hcount | ⟨t, ht, htk, hlimit, hcount⟩ <;> omega

/-- The sequence number of a version, if it can be read. -/
def sequenceOf (py : CasePython) (version : String) : Option ℤ :=
  (readToken py version).map Prod.fst

/-- A number that `str` writes. -/
def Short (m : ℤ) : Prop := (Nat.toDigits 10 m.natAbs).length ≤ 4300

/-- The numbers that `str` writes are those up to a limit, far above the length of a list. -/
lemma exists_limit : ∃ limit : ℕ, MAXSIZE + 1 < limit ∧ ∀ m, Short m ↔ m.natAbs < limit := by
  refine ⟨10 ^ 4300, ?_, fun m => Nat.length_toDigits_le_iff (by decide) (by decide)⟩
  calc MAXSIZE + 1 < 10 ^ 20 := by decide
    _ ≤ 10 ^ 4300 := Nat.pow_le_pow_right (by decide) (by decide)

/-- The number of the next version is one more, or one where that has too many digits. -/
lemma sequenceOf_nextVersion (py : CasePython) (version : String) :
    ∃ m : ℤ, sequenceOf py (nextVersion py version) = some m ∧ Short m
      ∧ ∀ n, sequenceOf py version = some n → m = n + 1 ∨ ¬ Short (n + 1) ∧ m = 1 := by
  have hread : ∀ (m : ℤ) (primary : String), Short m →
      sequenceOf py (encodeToken ("[" ++ toString m ++ "," ++ primary ++ "]")) = some m := by
    intro m primary hm
    obtain ⟨rest, hrest⟩ := readToken_encodeToken primary hm
    rw [sequenceOf, hrest, Option.map_some]
  have hshort : Short 1 := show (Nat.toDigits 10 1).length ≤ 4300 by decide
  have hone : sequenceOf py (encodeToken "[1,1]") = some 1 := hread 1 "1" hshort
  rw [nextVersion]
  cases hversion : readToken py version with
  | none =>
    refine ⟨1, hone, hshort, fun n hn => ?_⟩
    rw [sequenceOf, hversion] at hn
    cases hn
  | some p =>
    obtain ⟨n, rest⟩ := p
    have hsequence : sequenceOf py version = some n := by
      rw [sequenceOf, hversion, Option.map_some]
    rw [Option.bind_some]
    by_cases hlong : (Nat.toDigits 10 (n + 1).natAbs).length ≤ 4300
    · simp only [writeToken, if_pos hlong, Option.getD_some]
      refine ⟨n + 1, hread _ _ hlong, hlong, fun n' hn' => ?_⟩
      rw [hsequence] at hn'
      exact .inl (congrArg (· + 1) (Option.some.inj hn'))
    · simp only [writeToken, if_neg hlong, Option.getD_none]
      refine ⟨1, hone, hshort, fun n' hn' => ?_⟩
      rw [hsequence] at hn'
      obtain rfl := Option.some.inj hn'
      exact .inr ⟨hlong, rfl⟩

/-- A version does not come back in as many steps as a list can have entries. -/
lemma iterate_nextVersion_ne (py : CasePython) (version : String) {k : ℕ} (hk : 0 < k)
    (hlist : k ≤ MAXSIZE) : (nextVersion py)^[k] version ≠ version := by
  intro hback
  choose number hnumber hshort hnext using fun i : ℕ =>
    sequenceOf_nextVersion py ((nextVersion py)^[i] version)
  have hstep : ∀ i, number (i + 1) = number i + 1
      ∨ ¬ Short (number i + 1) ∧ number (i + 1) = 1 := by
    intro i
    refine hnext (i + 1) (number i) ?_
    rw [Function.iterate_succ_apply']
    exact hnumber i
  have hsame : number k = number 0 := by
    have hk' := hnumber k
    rw [hback] at hk'
    exact Option.some.inj (hk'.symm.trans (hnumber 0))
  obtain ⟨limit, hlimit, hbound⟩ := exists_limit
  simp only [hbound] at hshort hstep
  refine ne_of_counting limit (fun i => ?_) (fun i => ?_) (fun i => ?_) hk ?_ hsame
  · have h := hshort i
    omega
  · have h := hshort i
    omega
  · have h := hshort i
    rcases hstep i with hup | ⟨hwrap, hone⟩
    · exact .inl hup
    · exact .inr ⟨by omega, hone⟩
  · omega

/-! ## The law -/

lemma versionOf_updateCases (py : CasePython) (patches : List (Json × String)) (s : Store)
    (c : String) : ∃ applied ≤ patches.length,
      versionOf (updateCases py patches s).1 c
        = (versionOf s c).map (nextVersion py)^[applied] := by
  induction patches generalizing s with
  | nil => exact ⟨0, le_refl _, by rw [Function.iterate_zero, Option.map_id]; rfl⟩
  | cons p patches ih =>
    obtain ⟨patch, now⟩ := p
    by_cases hok : (updateEntry py patch now s).2 = .ok
    · obtain ⟨applied, happlied, hlater⟩ := ih (updateEntry py patch now s).1
      obtain ⟨d, v, hcarries, hv, hafter⟩ := carries_of_ok hok
      rw [updateCases_of_ok hok, hlater, hafter]
      by_cases hc : c = d
      · subst hc
        refine ⟨applied + 1, Nat.succ_le_succ happlied, ?_⟩
        rw [if_pos rfl, hv]
        rfl
      · exact ⟨applied, Nat.le_succ_of_le happlied, by rw [if_neg hc]⟩
    · rw [updateCases_of_refused hok]
      exact ⟨0, Nat.zero_le _, by rw [Function.iterate_zero, Option.map_id]; rfl⟩

lemma updateCases_ne {patches : List (Json × String)} (hok : (updateEntry py patch now s).2 = .ok)
    (hlist : patches.length + 1 ≤ MAXSIZE) :
    (updateCases py ((patch, now) :: patches) s).1 ≠ s := by
  intro hsame
  obtain ⟨c, v, hcarries, hv, hafter⟩ := carries_of_ok hok
  obtain ⟨applied, happlied, hlater⟩ :=
    versionOf_updateCases py patches (updateEntry py patch now s).1 c
  have hback : (nextVersion py)^[applied + 1] v = v := by
    rw [← updateCases_of_ok hok, hsame, hafter, if_pos rfl, hv] at hlater
    exact (Option.some.inj hlater).symm
  exact iterate_nextVersion_ne py v (Nat.succ_pos applied)
    (le_trans (Nat.succ_le_succ happlied) hlist) hback

lemma map_fst_timed (times : ℕ → String) (patches : List Json) :
    (timed times patches).map Prod.fst = patches := by
  rw [timed, List.map_map]
  exact List.zipIdx_map_fst 0 patches

/-- A `PATCH` applies every patch or leaves all cases as they were, if every patch names a case with
    the version that the patches in front of it leave, or the first one does not; and, of a list
    that is no longer than lists can be, only then. -/
theorem patched_together_iff (py : CasePython) (body : Object) (times : ℕ → String) (s : Store) :
    (Uniform py s (patchesOf body) →
        AllOrNothing py (timed times (patchesOf body)) s (patchCases py body times s))
      ∧ ((patchesOf body).length ≤ MAXSIZE →
        AllOrNothing py (timed times (patchesOf body)) s (patchCases py body times s) →
          Uniform py s (patchesOf body)) := by
  rw [patchCases]
  generalize hpatches : patchesOf body = patches
  have hall : (updateCases py (timed times patches) s).2 = .ok
      ↔ AllCurrent py s ((timed times patches).map Prod.fst) := updateCases_ok_iff
  rw [map_fst_timed] at hall
  cases patches with
  | nil => exact ⟨fun _ => .inr ⟨nofun, rfl⟩, fun _ _ => .inr fun first hfirst => by cases hfirst⟩
  | cons patch rest =>
    rw [if_neg (List.cons_ne_nil patch rest)]
    obtain ⟨later, hlater, hlength⟩ : ∃ later, timed times (patch :: rest)
        = (patch, times 0) :: later ∧ later.length = rest.length :=
      ⟨_, rfl, by simp⟩
    constructor
    · rintro (hcurrent | hfirst)
      · have hok := hall.2 hcurrent
        exact .inl (Prod.ext (updateCases_run hok) hok)
      · have hrefused : (updateEntry py patch (times 0) s).2 ≠ .ok := fun h =>
          hfirst patch rfl (updateEntry_ok_iff.1 h)
        rw [hlater, updateCases_of_refused hrefused]
        exact .inr ⟨hrefused, rfl⟩
    · rintro hlist (happlied | ⟨-, hsame⟩)
      · exact .inl (hall.1 (congrArg Prod.snd happlied))
      · refine .inr fun first hfirst hcurrent => ?_
        obtain rfl : patch = first := Option.some.inj hfirst
        rw [hlater] at hsame
        refine updateCases_ne (updateEntry_ok_iff.2 hcurrent) ?_ hsame
        rw [hlength]
        exact hlist

/-- Two patches, of the one case that there is and of a case that there is not. -/
def oneAndMissing : Object :=
  [("cases", .list [.dict [("id", .str "1"), ("version", .str initialVersion), ("title", .str "t")],
    .dict [("id", .str "2"), ("version", .str initialVersion)]])]

/-- The second of two patches is refused, and the first has been applied. -/
theorem first_patch_kept :
    (patchCases asciiCasePython oneAndMissing (fun _ => "now") oneCase).2 = .notFound
      ∧ versionOf (patchCases asciiCasePython oneAndMissing (fun _ => "now") oneCase).1 "1"
        ≠ versionOf oneCase "1" := by
  decide

end EsCases

end Mockdr
