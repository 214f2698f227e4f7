import Mockdr.Lib.Except
import Mockdr.Splunk.Statistics

/-!
# The counts of groups

What `stats count by` some fields lists.

* `statsPairs` are the keys of the groups with the numbers of their rows.
* `mem_statsPairs`: these are the keys that rows have, and how many rows have them.
* `cmdStats_count`: the rows of the command are made of them.
-/

namespace Mockdr

namespace Splunk

variable (py : StatsPython)

/-- The values of `stats count by`, with their counts. -/
def statsPairs (fields : List String) (rows : List Row) : List (List String × ℕ) :=
  let groups := groupsOf py fields rows
  ((byKey py).sort groups.keys).map fun key =>
    (key, ((groups.get key).getD []).length)

variable {py} {fields : List String} {rows : List Row}

lemma carried_eq_some {held : Option Value} {v : Value} (h : carried held = some v) :
    held = some v := by
  cases held with
  | none => cases h
  | some w =>
    cases w with
    | null => cases h
    | str s =>
      rw [carried] at h
      split_ifs at h
      exact h
    | _ => exact h

/-- A group of `stats` is reported with the number of its rows. -/
lemma mem_statsPairs {key : List String} {n : ℕ} : (key, n) ∈ statsPairs py fields rows
    ↔ (∃ row ∈ rows, groupKey py fields row = some key)
      ∧ n = rows.countP fun row => groupKey py fields row = some key := by
  have hkeys : key ∈ (byKey py).sort (groupsOf py fields rows).keys
      ↔ ∃ row ∈ rows, groupKey py fields row = some key := by
    rw [((byKey py).perm_sort _).mem_iff]
    exact Grouping.mem_keys_groupsOf
  have hlength : (((groupsOf py fields rows).get key).getD []).length
      = rows.countP fun row => groupKey py fields row = some key := by
    rw [groupsOf, Grouping.getD_groupsOf, Grouping.members, List.countP_eq_length_filter]
  rw [statsPairs, List.mem_map, ← hkeys, ← hlength]
  constructor
  · rintro ⟨key', hkey', heq⟩
    cases heq
    exact ⟨hkey', rfl⟩
  · rintro ⟨hkey, rfl⟩
    exact ⟨key, hkey, rfl⟩

lemma nodup_statsPairs : ((statsPairs py fields rows).map Prod.fst).Nodup := by
  rw [statsPairs, List.map_map]
  refine (List.map_id _).symm ▸ ?_
  exact ((byKey py).perm_sort _).nodup_iff.2 (Dict.nodup_keys _)

/-- The rows of `stats count by` some fields. -/
lemma cmdStats_count (hcount : py.lower "count" = "count") (hfields : fields ≠ []) :
    cmdStats py [⟨"count", "", "count"⟩] fields rows
      = some ((statsPairs py fields rows).map fun p =>
        (keyRow fields p.1).set "count" (.int p.2)) := by
  have haggregated : ∀ members : List Row,
      aggregated py (orCount [⟨"count", "", "count"⟩]) members
        = some (Dict.empty.set "count" (.int members.length)) := by
    intro members
    have hone : aggregate py "count" "" members
        = some (some (.int members.length)) := by
      rw [aggregate]
      dsimp only
      rw [hcount, if_pos (by decide), if_pos rfl]
      rfl
    rw [orCount, aggregated]
    dsimp only [List.isEmpty_cons]
    rw [if_neg Bool.false_ne_true, List.foldlM_cons, hone]
    rfl
  rw [cmdStats, if_neg (by rwa [List.isEmpty_iff])]
  dsimp only
  simp only [haggregated, Option.map_some]
  rw [statsPairs, List.map_map, mapM_eq_some_iff, List.forall₂_map_right_iff]
  exact List.forall₂_same.2 fun key _ => rfl

end Splunk

end Mockdr
