import Mockdr.Elastic.Search

/-!
# What an index expression selects

An expression is a list of targets: names of indices, aliases, patterns and `_all`. `Selects` says
which indices it selects; `_resolve_collection` instead concatenates the documents of the names its
targets are read as, aliases expanded (`concreteIndices`). `resolution_exact` says when the two come
to the same: when every selected index that has documents is named exactly once.
-/

namespace Mockdr.Elastic

/-- A target with a wildcard, which selects indices by their names. -/
def isPattern (target : String) : Prop := target = "_all" ∨ hasChar '*' target = true

/-- The indices one target selects: those behind it, if it is an alias; else the one of that name,
    and, if it is a pattern, every index a client created that matches. -/
def selectedBy (s : EsStore) (target name : String) : Prop :=
  if indicesForAlias s target ≠ [] then name ∈ indicesForAlias s target
  else name = target ∨ (isPattern target ∧ s.indices.contains name = true
    ∧ (target = "_all" ∨ fnmatch name target = true))

/-- The indices an expression selects. -/
def Selects (py : Python) (s : EsStore) (index name : String) : Prop :=
  ∃ target ∈ targets py (py.lower index), selectedBy s target name

/-- Whether a record is the document of an id that is filed under an index. -/
def isDoc (name docId : String) (d : Doc) : Bool :=
  decide (d.home = some name) && decide (d.given = some docId)

/-- Of the documents clients wrote, some records hold each searchable one of a selected index
    exactly once, and no other. -/
structure EachOnce (py : Python) (s : EsStore) (index : String) (docs : List Doc) : Prop where
  once : ∀ name docId source, Selects py s index name →
    (docId, source) ∈ writtenDocuments s name →
    docs.filter (isDoc name docId) = [⟨⟨some docId, source⟩, some name⟩]
  only : ∀ d ∈ docs, ∀ name, d.home = some name → Selects py s index name
    ∧ ∃ docId, d.given = some docId ∧ (docId, d.source) ∈ writtenDocuments s name

variable {py : Python} {s : EsStore} {index name docId : String} {source : Object}

/-! ## The documents of a list of names -/

/-- An index has one document of an id at most. -/
lemma nodup_writtenDocuments : ((writtenDocuments s name).map Prod.fst).Nodup := by
  have hentries : s.documents.entries.Pairwise fun p q => p.1 ≠ q.1 :=
    List.pairwise_map.1 s.documents.nodup
  have hfiled : (filed s name).Pairwise fun p q => p.1 ≠ q.1 := by
    rw [filed, List.pairwise_filterMap]
    refine hentries.imp ?_
    intro p q hne a ha b hb hab
    obtain ⟨i, hi, rfl⟩ := Option.map_eq_some_iff.1 ha
    obtain ⟨j, hj, rfl⟩ := Option.map_eq_some_iff.1 hb
    rw [idUnder_eq_some_iff] at hi hj
    obtain rfl : i = j := hab
    exact hne (hi.trans hj.symm)
  rw [writtenDocuments]
  split
  · exact List.nodup_nil
  · split_ifs
    · exact List.nodup_nil
    · rw [List.Nodup, List.pairwise_map, List.pairwise_filterMap]
      refine hfiled.imp ?_
      intro p q hne a ha b hb
      split_ifs at ha hb
      cases ha
      cases hb
      exact hne

lemma filter_isDoc_self (h : (docId, source) ∈ writtenDocuments s name) :
    ((writtenDocuments s name).map fun p => (⟨⟨some p.1, p.2⟩, some name⟩ : Doc)).filter
      (isDoc name docId) = [⟨⟨some docId, source⟩, some name⟩] := by
  have hkey := Assoc.filter_key nodup_writtenDocuments h
  rw [List.filter_map]
  have hcomp : (isDoc name docId ∘ fun p : String × Object => (⟨⟨some p.1, p.2⟩, some name⟩ : Doc))
      = fun p => decide (p.1 = docId) := by
    funext p
    simp [isDoc]
  rw [hcomp, hkey]
  rfl

lemma filter_writtenDocs (h : (docId, source) ∈ writtenDocuments s name) (names : List String) :
    (writtenDocs s names).filter (isDoc name docId)
      = List.replicate (names.count name) ⟨⟨some docId, source⟩, some name⟩ := by
  induction names with
  | nil => rfl
  | cons n names ih =>
    rw [writtenDocs, List.flatMap_cons, ← writtenDocs, List.filter_append, ih, List.count_cons]
    by_cases hn : n = name
    · subst hn
      rw [filter_isDoc_self h, beq_self_eq_true, if_pos rfl, List.replicate_succ,
        List.singleton_append]
    · have hnone : ((writtenDocuments s n).map fun p => (⟨⟨some p.1, p.2⟩, some n⟩ : Doc)).filter
          (isDoc name docId) = [] := by
        rw [List.filter_eq_nil_iff]
        intro d hd
        obtain ⟨p, -, rfl⟩ := List.mem_map.1 hd
        simp [isDoc, hn]
      rw [hnone, List.nil_append, if_neg (by simpa using hn), Nat.add_zero]

lemma selects_of_mem (h : name ∈ concreteIndices py s (py.lower index)) :
    Selects py s index name := by
  obtain ⟨target, ht, hn⟩ := List.mem_flatMap.1 h
  refine ⟨target, ht, ?_⟩
  unfold behind at hn
  rw [selectedBy]
  split at hn
  next hnil =>
    rw [hnil, if_neg (by simp)]
    exact .inl (List.mem_singleton.1 hn)
  next hne => rwa [if_pos hne]

lemma filter_docsOf (h : (docId, source) ∈ writtenDocuments s name) :
    (docsOf py s index).filter (isDoc name docId)
      = List.replicate ((concreteIndices py s (py.lower index)).count name)
          ⟨⟨some docId, source⟩, some name⟩ := by
  have hseeded : ((seededRecords py s (py.lower index)
      (concreteIndices py s (py.lower index))).map (fun r => (⟨r, none⟩ : Doc))).filter
      (isDoc name docId) = [] := by
    rw [List.filter_eq_nil_iff]
    intro d hd
    obtain ⟨r, -, rfl⟩ := List.mem_map.1 hd
    simp [isDoc]
  rw [docsOf, List.filter_append, hseeded, List.nil_append, filter_writtenDocs h]

lemma mem_docsOf_of_home {d : Doc} (hd : d ∈ docsOf py s index) (hh : d.home = some name) :
    name ∈ concreteIndices py s (py.lower index)
      ∧ ∃ docId, d.given = some docId ∧ (docId, d.source) ∈ writtenDocuments s name := by
  rw [docsOf, List.mem_append] at hd
  rcases hd with hd | hd
  · obtain ⟨r, -, rfl⟩ := List.mem_map.1 hd
    cases hh
  · obtain ⟨n, hn, hd⟩ := List.mem_flatMap.1 hd
    obtain ⟨p, hp, rfl⟩ := List.mem_map.1 hd
    cases hh
    exact ⟨hn, p.1, rfl, hp⟩

/-- The records an expression stands for hold each searchable document once exactly when each
    selected index that has documents is named once. -/
lemma eachOnce_docsOf_iff :
    EachOnce py s index (docsOf py s index)
      ↔ ∀ name, Selects py s index name → writtenDocuments s name ≠ [] →
          (concreteIndices py s (py.lower index)).count name = 1 := by
  constructor
  · intro h name hsel hne
    obtain ⟨⟨docId, source⟩, hmem⟩ := List.exists_mem_of_ne_nil _ hne
    have honce := h.once name docId source hsel hmem
    rw [filter_docsOf hmem] at honce
    simpa using congrArg List.length honce
  · intro h
    refine ⟨?_, ?_⟩
    · intro name docId source hsel hmem
      rw [filter_docsOf hmem, h name hsel (List.ne_nil_of_mem hmem), List.replicate_one]
    · intro d hd name hh
      obtain ⟨hn, hdoc⟩ := mem_docsOf_of_home hd hh
      exact ⟨selects_of_mem hn, hdoc⟩

/-! ## Searching and counting an expression -/

/-- The query that matches every record. -/
def matchAll : Object := [("match_all", .dict [])]

/-- The hit collection of a search: the records it pages over. -/
def hitCollection (py : Python) (engine : Engine) (s : EsStore) (index : String) (body : Object) :
    Except SearchError (List Placed) := do
  let (records, _) ← (resolveDocs py s index false).mapError .es
  matching py engine (searchLeaf py engine.others (termsLookup py s)) body (docPositions records)

lemma resolveDocs_of_resolvable (h : missingTarget py s index = none) (ignoreUnavailable : Bool) :
    resolveDocs py s index ignoreUnavailable = .ok (docsOf py s index, py.lower index) := by
  rw [resolveDocs, h]
  cases ignoreUnavailable <;> rfl

lemma buildPredicate_matchAll (py : Python) (others : Leaf) (lookup : Lookup) :
    buildPredicate py (searchLeaf py others lookup) (.dict matchAll) = .ok fun _ => true := rfl

lemma matching_matchAll (py : Python) (engine : Engine) (lookup : Lookup) (records : List Placed) :
    matching py engine (searchLeaf py engine.others lookup) (queryBody matchAll) records
      = .ok records := by
  have hquery : (Object.get (queryBody matchAll) "query").truthy = true := rfl
  have hkeep : keep (fun _ => true) records = records := List.filter_eq_self.2 fun _ _ => rfl
  rw [matching, (filterEsRecords_eq_ok_iff hquery).2
    ⟨_, buildPredicate_matchAll py engine.others lookup, hkeep⟩]
  rfl

lemma hitCollection_matchAll (engine : Engine) (h : missingTarget py s index = none) :
    hitCollection py engine s index (queryBody matchAll)
      = .ok (docPositions (docsOf py s index)) := by
  rw [hitCollection, resolveDocs_of_resolvable h]
  exact bind_eq_ok_iff.2 ⟨_, rfl, matching_matchAll py engine (termsLookup py s) _⟩

/-- Index expressions count every document once. A match_all search over an expression that is not
    refused reports as its total the number of records it pages over, and a count of the expression
    is the same number; and these records hold each searchable document of every index the
    expression selects exactly once, and no other, if and only if each selected index that has
    searchable documents is named exactly once, patterns being read as names and aliases as what is
    behind them. -/
theorem resolution_exact (py : Python) (engine : Engine) (s : EsStore) (index : String)
    (h : missingTarget py s index = none) :
    ∃ matched r, hitCollection py engine s index (queryBody matchAll) = .ok matched
      ∧ esSearch py engine s index (queryBody matchAll) false = .ok r
      ∧ r.total = some ((matched.length : Int), false)
      ∧ esCount py engine s index (queryBody matchAll) false = .ok matched.length
      ∧ (EachOnce py s index (matched.map Placed.toDoc)
        ↔ ∀ name, Selects py s index name → writtenDocuments s name ≠ [] →
            (concreteIndices py s (py.lower index)).count name = 1) := by
  have hlen : (docPositions (docsOf py s index)).length = (docsOf py s index).length := by
    rw [← List.length_map Placed.toDoc, docPositions_toDoc]
  have hfinds : SearchFinds py engine s (py.lower index) (docsOf py s index) matchAll
      (docsOf py s index).length := by
    refine searchFinds_iff.2 ⟨List.cons_ne_nil _ _, _, buildPredicate_matchAll py _ _, ?_⟩
    rw [List.countP_true, List.length_map]
  obtain ⟨r, hr, htotal⟩ := map_eq_ok_iff.1 hfinds
  refine ⟨_, r, hitCollection_matchAll engine h, ?_, ?_, ?_, ?_⟩
  · rw [esSearch, resolveDocs_of_resolvable h]
    exact bind_eq_ok_iff.2 ⟨_, rfl, hr⟩
  · rw [htotal, hlen]
  · have htruthy : (Json.dict matchAll).truthy = true := rfl
    rw [esCount, resolveDocs_of_resolvable h]
    refine bind_eq_ok_iff.2 ⟨_, rfl, bind_eq_ok_iff.2 ⟨.dict matchAll, rfl, ?_⟩⟩
    refine (totalHits_eq_ok_iff htruthy).2 ⟨_, buildPredicate_matchAll py _ _, ?_⟩
    rw [List.countP_true]
  · rw [docPositions_toDoc]
    exact eachOnce_docsOf_iff

/-- One document, `a/1`, that is searchable. -/
def oneDocument : EsStore := (esIndexDoc (.seeded .empty .empty) "a" "1" [] true).1

/-- A search of the one index there is. -/
theorem resolution_exact_one :
    ∃ matched r,
      hitCollection asciiPython plainEngine oneDocument "a" (queryBody matchAll) = .ok matched
      ∧ esSearch asciiPython plainEngine oneDocument "a" (queryBody matchAll) false = .ok r
      ∧ r.total = some ((matched.length : Int), false)
      ∧ esCount asciiPython plainEngine oneDocument "a" (queryBody matchAll) false
        = .ok matched.length
      ∧ (EachOnce asciiPython oneDocument "a" (matched.map Placed.toDoc)
        ↔ ∀ name, Selects asciiPython oneDocument "a" name →
            writtenDocuments oneDocument name ≠ [] →
              (concreteIndices asciiPython oneDocument (asciiPython.lower "a")).count name = 1) :=
  resolution_exact asciiPython plainEngine oneDocument "a" (by decide)

/-- An expression that names an index twice holds its document twice, and `_all` does not hold it.
    -/
theorem repeated_or_left_out :
    (∃ matched, hitCollection asciiPython plainEngine oneDocument "a,a" (queryBody matchAll)
          = .ok matched
        ∧ ¬ EachOnce asciiPython oneDocument "a,a" (matched.map Placed.toDoc))
      ∧ ∃ matched, hitCollection asciiPython plainEngine oneDocument "_all" (queryBody matchAll)
          = .ok matched
        ∧ ¬ EachOnce asciiPython oneDocument "_all" (matched.map Placed.toDoc) := by
  have hdoc : ("1", []) ∈ writtenDocuments oneDocument "a" := List.mem_singleton_self _
  refine ⟨⟨_, hitCollection_matchAll plainEngine (by decide), ?_⟩,
    ⟨_, hitCollection_matchAll plainEngine (by decide), ?_⟩⟩
  · intro h
    have hsel : Selects asciiPython oneDocument "a,a" "a" :=
      ⟨"a", by decide, .inl rfl⟩
    have honce := congrArg List.length (h.once "a" "1" [] hsel hdoc)
    revert honce
    decide
  · intro h
    have hsel : Selects asciiPython oneDocument "_all" "a" :=
      ⟨"_all", by decide, .inr ⟨.inl rfl, rfl, .inl rfl⟩⟩
    have honce := congrArg List.length (h.once "a" "1" [] hsel hdoc)
    revert honce
    decide

end Mockdr.Elastic
