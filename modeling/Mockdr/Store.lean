import Mockdr.Lib.Assoc

/-!
# The in-memory store

`repository/store.py` keeps named collections of records. A collection that grows with traffic is
capped (`CAPS`): saving a new record into a full one first drops its oldest record.
-/

namespace Mockdr

/-- The capped collections and how many records each keeps (`CAPS`). -/
def CAPS : List (String × Nat) :=
  [("splunk_events", 20000), ("splunk_notables", 20000), ("splunk_search_jobs", 5000),
    ("splunk_sessions", 5000), ("es_documents", 100000), ("es_indices", 1000),
    ("es_search_contexts", 1000), ("agent_uploads", 200), ("cs_oauth_tokens", 5000),
    ("mde_oauth_tokens", 5000), ("graph_oauth_tokens", 5000), ("sentinel_oauth_tokens", 5000),
    ("es_tokens", 5000), ("es_refresh_tokens", 5000), ("dv_queries", 200),
    ("xdr_xql_queries", 5000), ("mde_machine_actions", 10000), ("xdr_actions", 10000)]

variable {ν : Type*}

/-- `InMemoryStore.save` on one collection: a new record in a full collection evicts the oldest. -/
def save (collection : String) (id : String) (record : ν) (records : Dict String ν) :
    Dict String ν :=
  match Assoc.get collection CAPS with
  | some cap =>
    if !records.contains id && cap ≤ records.size then records.dropOldest.set id record
    else records.set id record
  | none => records.set id record

lemma get_save_self (collection : String) (id : String) (record : ν) (records : Dict String ν) :
    (save collection id record records).get id = some record := by
  rw [save]
  split
  · split_ifs
    · exact Dict.get_set_self _ _ _
    · exact Dict.get_set_self _ _ _
  · exact Dict.get_set_self _ _ _

lemma save_eq_set {collection : String} {cap : Nat} {records : Dict String ν} {id : String}
    (record : ν) (hc : Assoc.get collection CAPS = some cap)
    (h : (records.get id).isSome ∨ records.size < cap) :
    save collection id record records = records.set id record := by
  have hn : (!records.contains id && decide (cap ≤ records.size)) = false := by
    rcases h with h | h
    · simp [Dict.contains, h]
    · simp [h]
  simp only [save, hc, hn, Bool.false_eq_true, if_false]

lemma mapValues_save {ν' : Type*} (f : ν → ν') (collection id : String) (record : ν)
    (records : Dict String ν) : (save collection id record records).mapValues f
      = save collection id (f record) (records.mapValues f) := by
  have hdrop : records.dropOldest.mapValues f = (records.mapValues f).dropOldest :=
    Dict.ext List.map_tail
  have hcontains : (records.mapValues f).contains id = records.contains id := by
    rw [Dict.contains, Dict.contains, Dict.get_mapValues, Option.isSome_map]
  rw [save, save]
  split
  · rw [Dict.size_mapValues, hcontains]
    split
    · rw [Dict.mapValues_set, hdrop]
    · exact Dict.mapValues_set f records id record
  · exact Dict.mapValues_set f records id record

lemma keys_save_of_some {collection id : String} {records : Dict String ν} {old : ν} (record : ν)
    (h : records.get id = some old) : (save collection id record records).keys = records.keys := by
  have hn : (!records.contains id) = false := by simp [Dict.contains, h]
  rw [save]
  split
  · rw [hn, Bool.false_and, if_neg Bool.false_ne_true]
    exact Dict.keys_set_of_some record h
  · exact Dict.keys_set_of_some record h

/-- Saving a new record puts its key behind the others, and drops the first of a full collection. -/
lemma keys_save_of_none {collection id : String} {records : Dict String ν} (record : ν)
    (h : records.get id = none) :
    (∀ cap, Assoc.get collection CAPS = some cap → records.size < cap)
        ∧ (save collection id record records).keys = records.keys ++ [id]
      ∨ (∃ cap, Assoc.get collection CAPS = some cap ∧ cap ≤ records.size)
        ∧ (save collection id record records).keys = records.keys.tail ++ [id] := by
  have hn : (!records.contains id) = true := by simp [Dict.contains, h]
  rw [save]
  split
  · next cap hcap =>
    rw [hn, Bool.true_and]
    split_ifs with hfull
    · refine .inr ⟨⟨cap, hcap, of_decide_eq_true hfull⟩, ?_⟩
      rw [Dict.keys_set_of_none, Dict.keys_dropOldest]
      rw [Dict.get_eq_none_iff] at h ⊢
      rw [Dict.keys_dropOldest]
      exact fun hmem => h (List.mem_of_mem_tail hmem)
    · refine .inl ⟨?_, Dict.keys_set_of_none record h⟩
      intro cap' hcap'
      rw [hcap] at hcap'
      rw [← Option.some.inj hcap']
      exact Nat.not_le.1 fun hle => hfull (decide_eq_true hle)
  · next hnone =>
    refine .inl ⟨?_, Dict.keys_set_of_none record h⟩
    intro cap hcap
    rw [hnone] at hcap
    cases hcap

end Mockdr
