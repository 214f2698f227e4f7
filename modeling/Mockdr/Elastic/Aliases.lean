import Mockdr.Elastic.Change

/-!
# Batches of alias actions

`put_alias`, `delete_alias` and `update_aliases` (`application/es_search/queries.py`).

* `stepAll` does one thing after another until one raises; what is done stays done.
* `updateAliases` is the batch, and `aliasSteps` are the single steps that it takes
  (`updateAliases_eq`). `applyAll` is what the actions ask for: all of the steps, an index removed
  where this is asked for, or none.
* `AllOrNothing` is what a batch should be, and `Unbroken` says of the steps that it is
  (`updateAliases_all_or_nothing_iff`).
-/

namespace Mockdr.Elastic

/-! ## One step after another -/

section StepAll

variable {σ α β ε : Type}

/-- Steps that change a state, until one raises. -/
def stepAll (f : σ → α → σ × Except ε Unit) : σ → List α → σ × Except ε Unit
  | s, [] => (s, .ok ())
  | s, a :: l =>
    match f s a with
    | (s, .ok ()) => stepAll f s l
    | (s, .error e) => (s, .error e)

lemma stepAll_append (f : σ → α → σ × Except ε Unit) (s : σ) (l l' : List α) :
    stepAll f s (l ++ l')
      = match stepAll f s l with
        | (s, .ok ()) => stepAll f s l'
        | (s, .error e) => (s, .error e) := by
  induction l generalizing s with
  | nil => rfl
  | cons a l ih =>
    rw [List.cons_append, stepAll, stepAll]
    match f s a with
    | (s, .ok ()) => exact ih s
    | (s, .error e) => rfl

lemma stepAll_flatMap (f : σ → β → σ × Except ε Unit) (g : α → List β) (s : σ) (l : List α) :
    stepAll f s (l.flatMap g) = stepAll (fun s a => stepAll f s (g a)) s l := by
  induction l generalizing s with
  | nil => rfl
  | cons a l ih =>
    rw [List.flatMap_cons, stepAll_append, stepAll]
    match stepAll f s (g a) with
    | (s, .ok ()) => exact ih s
    | (s, .error e) => rfl

lemma stepAll_map (f : σ → β → σ × Except ε Unit) (g : α → β) (s : σ)
    (l : List α) : stepAll f s (l.map g) = stepAll (fun s a => f s (g a)) s l := by
  induction l generalizing s with
  | nil => rfl
  | cons a l ih =>
    rw [List.map_cons, stepAll, stepAll]
    match f s (g a) with
    | (s, .ok ()) => exact ih s
    | (s, .error e) => rfl

end StepAll

/-! ## The batch -/

/-- `put_alias` -/
def putAlias (s : EsStore) (index name : String) : EsStore × Except EsError Unit :=
  match s.indices.get index with
  | none => (s, .error (.indexNotFound index))
  | some entry =>
    let aliases := if entry.aliases.contains name then entry.aliases else entry.aliases ++ [name]
    (saveEntry s index { entry with aliases }, .ok ())

/-- `delete_alias` -/
def deleteAlias (s : EsStore) (index name : String) : EsStore × Except EsError Unit :=
  match s.indices.get index with
  | none => (s, .error (.indexNotFound index))
  | some entry =>
    (saveEntry s index { entry with aliases := entry.aliases.filter (· ≠ name) }, .ok ())

variable (py : Python)

/-- The names of the indices of an action, nothing where they cannot be gone through. -/
def aliasNames (spec : Object) : Option (List String) :=
  let names := Object.get spec "indices"
  (if names.truthy then names.iterate else some [Object.get spec "index"]).map fun names =>
    (names.filter Json.truthy).map py.toStr

/-- What a verb does to one index. -/
def aliasVerb (verb name : String) (s : EsStore) (index : String) : EsStore × Except EsError Unit :=
  if verb = "add" then putAlias s index name
  else if verb = "remove" then deleteAlias s index name
  else (s, .ok ())

/-- The alias that an action names. -/
def aliasOf (spec : Object) : String := py.toStr ((Assoc.get "alias" spec).getD (.str ""))

/-- One verb of an action, with what it is about. -/
def aliasMember (s : EsStore) (member : String × Json) : EsStore × Except EsError Unit :=
  match member.2 with
  | .dict spec =>
    match aliasNames py spec with
    | none => (s, .error .crash)
    | some names => stepAll (aliasVerb member.1 (aliasOf py spec)) s names
  | _ => (s, .ok ())

/-- `update_aliases` -/
def updateAliases (s : EsStore) (actions : List Object) : EsStore × Except EsError Unit :=
  stepAll (stepAll (aliasMember py)) s actions

/-! ## The steps -/

/-- A single step of a batch: a verb on an index, or names that cannot be gone through. -/
inductive AliasStep where
  | act (verb index name : String)
  | crash

/-- The steps of one verb of an action. -/
def memberSteps (member : String × Json) : List AliasStep :=
  match member.2 with
  | .dict spec =>
    match aliasNames py spec with
    | none => [.crash]
    | some names => names.map fun index => .act member.1 index (aliasOf py spec)
  | _ => []

/-- The steps of a batch. -/
def aliasSteps (actions : List Object) : List AliasStep :=
  actions.flatMap fun action => action.flatMap (memberSteps py)

/-- What a step does. -/
def runStep (s : EsStore) : AliasStep → EsStore × Except EsError Unit
  | .act verb index name => aliasVerb verb name s index
  | .crash => (s, .error .crash)

variable {py} {s t : EsStore} {step : AliasStep} {steps : List AliasStep} {index name : String}

lemma aliasMember_eq (s : EsStore) (member : String × Json) :
    aliasMember py s member = stepAll runStep s (memberSteps py member) := by
  obtain ⟨verb, value⟩ := member
  cases value with
  | dict spec =>
    rw [aliasMember, memberSteps]
    simp only
    cases aliasNames py spec with
    | none => rfl
    | some names =>
      simp only
      rw [stepAll_map]
      rfl
  | _ => rfl

/-- The batch takes its steps one after another. -/
lemma updateAliases_eq (s : EsStore) (actions : List Object) :
    updateAliases py s actions = stepAll runStep s (aliasSteps py actions) := by
  have hmember : aliasMember py = fun s member => stepAll runStep s (memberSteps py member) := by
    funext s member
    exact aliasMember_eq s member
  have haction : stepAll (aliasMember py)
      = fun s action => stepAll runStep s (action.flatMap (memberSteps py)) := by
    funext s action
    rw [hmember, stepAll_flatMap]
  rw [updateAliases, haction, aliasSteps, stepAll_flatMap]

/-! ## What a step does to the aliases -/

/-- Whether a step can be taken: an alias is added to an index that is there, or taken off one. -/
def Known (s : EsStore) : AliasStep → Prop
  | .act verb index _ => verb = "add" ∨ verb = "remove" → s.indices.contains index = true
  | .crash => False

/-- Which way a step leaves an alias of an index, if it is about it. -/
def mention (index name : String) : AliasStep → Option Bool
  | .act verb index' name' =>
    if index' = index ∧ name' = name then
      if verb = "add" then some true else if verb = "remove" then some false else none
    else none
  | .crash => none

/-- Which way the last of the steps about an alias of an index leaves it. -/
def lastMention (index name : String) : List AliasStep → Option Bool
  | [] => none
  | step :: steps => (lastMention index name steps).or (mention index name step)

/-- What an index is, its aliases apart. -/
def bare (entry : IndexEntry) : IndexEntry := { entry with aliases := [] }

/-- Two stores that differ in the aliases of their indices only. -/
structure AliasesOnly (s t : EsStore) : Prop where
  documents : s.documents = t.documents
  contexts : s.contexts = t.contexts
  alerts : s.alerts = t.alerts
  endpoints : s.endpoints = t.endpoints
  entries : ∀ index, (s.indices.get index).map bare = (t.indices.get index).map bare

/-- Two stores with the same indices and the same aliases; the order of the aliases of an index
does not matter. -/
structure SameStore (s t : EsStore) : Prop extends AliasesOnly s t where
  aliases : ∀ index name, name ∈ aliasesOf s index ↔ name ∈ aliasesOf t index

lemma AliasesOnly.rfl : AliasesOnly s s :=
  ⟨.refl _, .refl _, .refl _, .refl _, fun _ => .refl _⟩

lemma AliasesOnly.symm (h : AliasesOnly s t) : AliasesOnly t s :=
  ⟨h.1.symm, h.2.symm, h.3.symm, h.4.symm, fun index => (h.5 index).symm⟩

lemma AliasesOnly.trans {u : EsStore} (h : AliasesOnly s t) (h' : AliasesOnly t u) :
    AliasesOnly s u :=
  ⟨h.1.trans h'.1, h.2.trans h'.2, h.3.trans h'.3, h.4.trans h'.4,
    fun index => (h.5 index).trans (h'.5 index)⟩

lemma SameStore.rfl : SameStore s s :=
  ⟨.rfl, fun _ _ => .rfl⟩

lemma AliasesOnly.contains (h : AliasesOnly s t) (index : String) :
    s.indices.contains index = t.indices.contains index := by
  have heq := congrArg Option.isSome (h.entries index)
  rwa [Option.isSome_map, Option.isSome_map] at heq

lemma AliasesOnly.known (h : AliasesOnly s t) : Known s step ↔ Known t step := by
  cases step with
  | act verb index name => rw [Known, Known, h.contains]
  | crash => exact .rfl

lemma aliasesOnly_saveEntry {entry : IndexEntry} (hentry : s.indices.get index = some entry)
    (aliases : List String) : AliasesOnly s (saveEntry s index { entry with aliases }) where
  documents := .refl _
  contexts := .refl _
  alerts := .refl _
  endpoints := .refl _
  entries index' := by
    have hregisters : Registers s index := .inl (by rw [hentry]; rfl)
    rw [saveEntry_indices _ hregisters]
    by_cases heq : index' = index
    · subst heq
      rw [Dict.get_set_self, hentry]
      rfl
    · rw [Dict.get_set_ne _ _ heq]

lemma aliasesOf_saveEntry {entry : IndexEntry} (hentry : s.indices.get index = some entry)
    (aliases : List String) (index' : String) :
    aliasesOf (saveEntry s index { entry with aliases }) index'
      = if index' = index then aliases else aliasesOf s index' := by
  have hregisters : Registers s index := .inl (by rw [hentry]; rfl)
  rw [aliasesOf, aliasesOf, saveEntry_indices _ hregisters]
  by_cases heq : index' = index
  · subst heq
    rw [Dict.get_set_self, if_pos (.refl _)]
  · rw [Dict.get_set_ne _ _ heq, if_neg heq]

lemma putAlias_spec (h : s.indices.contains index = true) (name : String) :
    ∃ t, putAlias s index name = (t, .ok ()) ∧ AliasesOnly s t
      ∧ ∀ index' name', name' ∈ aliasesOf t index'
          ↔ (index' = index ∧ name' = name) ∨ name' ∈ aliasesOf s index' := by
  obtain ⟨entry, hentry⟩ := Option.isSome_iff_exists.mp h
  refine ⟨_, by rw [putAlias, hentry], aliasesOnly_saveEntry hentry _, fun index' name' => ?_⟩
  rw [aliasesOf_saveEntry hentry]
  by_cases heq : index' = index
  · subst heq
    rw [if_pos (.refl _), aliasesOf, hentry]
    by_cases hmem : entry.aliases.contains name = true
    · rw [if_pos hmem]
      have hmem : name ∈ entry.aliases := List.contains_iff_mem.mp hmem
      grind
    · rw [if_neg hmem, List.mem_append, List.mem_singleton]
      grind
  · rw [if_neg heq]
    simp [heq]

lemma deleteAlias_spec (h : s.indices.contains index = true) (name : String) :
    ∃ t, deleteAlias s index name = (t, .ok ()) ∧ AliasesOnly s t
      ∧ ∀ index' name', name' ∈ aliasesOf t index'
          ↔ ¬(index' = index ∧ name' = name) ∧ name' ∈ aliasesOf s index' := by
  obtain ⟨entry, hentry⟩ := Option.isSome_iff_exists.mp h
  refine ⟨_, by rw [deleteAlias, hentry], aliasesOnly_saveEntry hentry _, fun index' name' => ?_⟩
  rw [aliasesOf_saveEntry hentry]
  by_cases heq : index' = index
  · subst heq
    rw [if_pos (.refl _), aliasesOf, hentry, List.mem_filter, decide_eq_true_iff]
    grind
  · rw [if_neg heq]
    simp [heq]

/-- A step that can be taken changes the alias it is about, and nothing else. -/
lemma runStep_of_known (h : Known s step) :
    ∃ t, runStep s step = (t, .ok ()) ∧ AliasesOnly s t
      ∧ ∀ index name, name ∈ aliasesOf t index
          ↔ (mention index name step).elim (name ∈ aliasesOf s index) (· = true) := by
  cases step with
  | crash => exact absurd h id
  | act verb index name =>
    rw [runStep, aliasVerb]
    by_cases hadd : verb = "add"
    · obtain ⟨t, heq, honly, haliases⟩ := putAlias_spec (h (.inl hadd)) name
      refine ⟨t, by rw [if_pos hadd, heq], honly, fun index' name' => ?_⟩
      rw [haliases, mention, if_pos hadd]
      grind
    by_cases hremove : verb = "remove"
    · obtain ⟨t, heq, honly, haliases⟩ := deleteAlias_spec (h (.inr hremove)) name
      refine ⟨t, by rw [if_neg hadd, if_pos hremove, heq], honly, fun index' name' => ?_⟩
      rw [haliases, mention, if_neg hadd, if_pos hremove]
      grind
    · refine ⟨s, by rw [if_neg hadd, if_neg hremove], .rfl, fun index' name' => ?_⟩
      rw [mention, if_neg hadd, if_neg hremove, ite_self]
      exact .rfl

lemma runStep_of_not_known (h : ¬Known s step) : ∃ e, runStep s step = (s, .error e) := by
  cases step with
  | crash => exact ⟨_, rfl⟩
  | act verb index name =>
    rw [Known, Classical.not_imp, Bool.not_eq_true] at h
    obtain ⟨hverb, habsent⟩ := h
    have hnone : s.indices.get index = none :=
      Option.isNone_iff_eq_none.mp (Option.isSome_eq_false_iff.mp habsent)
    rw [runStep, aliasVerb, putAlias, deleteAlias, hnone]
    rcases hverb with rfl | rfl
    · exact ⟨_, rfl⟩
    · exact ⟨_, rfl⟩

lemma stepAll_of_known (h : ∀ step ∈ steps, Known s step) :
    ∃ t, stepAll runStep s steps = (t, .ok ()) ∧ AliasesOnly s t
      ∧ ∀ index name, name ∈ aliasesOf t index
          ↔ (lastMention index name steps).elim (name ∈ aliasesOf s index) (· = true) := by
  induction steps generalizing s with
  | nil => exact ⟨s, rfl, .rfl, fun _ _ => .rfl⟩
  | cons step steps ih =>
    obtain ⟨s', hstep, honly, haliases⟩ := runStep_of_known (h step List.mem_cons_self)
    obtain ⟨t, hsteps, honly', haliases'⟩ := ih (s := s') fun step hmem =>
      honly.known.mp (h step (List.mem_cons_of_mem _ hmem))
    refine ⟨t, by rw [stepAll, hstep]; exact hsteps, honly.trans honly', fun index name => ?_⟩
    rw [haliases', lastMention]
    cases lastMention index name steps with
    | some left => rfl
    | none => exact haliases index name

lemma exists_first_not_known (h : ¬∀ step ∈ steps, Known s step) :
    ∃ before step after, steps = before ++ step :: after
      ∧ (∀ step ∈ before, Known s step) ∧ ¬Known s step := by
  induction steps with
  | nil => exact absurd (fun _ hmem => absurd hmem List.not_mem_nil) h
  | cons step steps ih =>
    by_cases hstep : Known s step
    · obtain ⟨before, step', after, heq, hbefore, hnot⟩ := ih fun hall =>
        h (List.forall_mem_cons.mpr ⟨hstep, hall⟩)
      exact ⟨step :: before, step', after, by rw [heq]; rfl,
        List.forall_mem_cons.mpr ⟨hstep, hbefore⟩, hnot⟩
    · exact ⟨[], step, steps, rfl, fun _ hmem => absurd hmem List.not_mem_nil, hstep⟩

/-! ## What the actions ask for -/

/-- What a step asks for, nothing where this cannot be done. -/
def applyStep (s : EsStore) : AliasStep → Option EsStore
  | .act verb index name =>
    if verb = "remove_index" then deleteIndex s index
    else
      match aliasVerb verb name s index with
      | (s, .ok ()) => some s
      | (_, .error _) => none
  | .crash => none

/-- What all the steps ask for, nothing where one of them cannot be done. -/
def applyAll (s : EsStore) (steps : List AliasStep) : Option EsStore := steps.foldlM applyStep s

/-- The indices that a step asks to remove. -/
def AliasStep.removes (index : String) : AliasStep → Prop
  | .act verb index' _ => verb = "remove_index" ∧ index' = index
  | .crash => False

lemma applyStep_of_keeps (h : ∀ index, ¬step.removes index) :
    applyStep s step
      = match runStep s step with
        | (t, .ok ()) => some t
        | (_, .error _) => none := by
  cases step with
  | act verb index name => rw [applyStep, if_neg fun hverb => h index ⟨hverb, rfl⟩, runStep]
  | crash => rfl

lemma applyAll_of_keeps (h : ∀ step ∈ steps, ∀ index, ¬step.removes index) :
    applyAll s steps
      = match stepAll runStep s steps with
        | (t, .ok ()) => some t
        | (_, .error _) => none := by
  induction steps generalizing s with
  | nil => rfl
  | cons step steps ih =>
    obtain ⟨hstep, hsteps⟩ := List.forall_mem_cons.mp h
    rw [applyAll, List.foldlM_cons, applyStep_of_keeps hstep, stepAll]
    match runStep s step with
    | (t, .ok ()) => exact ih hsteps
    | (_, .error _) => rfl

/-- No step brings an index back. -/
lemma contains_of_applyStep (h : applyStep s step = some t)
    (hindex : t.indices.contains index = true) : s.indices.contains index = true := by
  cases step with
  | crash => exact absurd h (by simp [applyStep])
  | act verb index' name =>
    by_cases hremove : verb = "remove_index"
    · rw [applyStep, if_pos hremove, deleteIndex] at h
      split at h
      · obtain rfl := Option.some.inj h
        by_cases heq : index = index'
        · subst heq
          assumption
        · rwa [Dict.contains, Dict.get_erase_ne _ heq] at hindex
      · exact absurd h (by simp)
    · have hkeeps : ∀ index, ¬(AliasStep.act verb index' name).removes index :=
        fun index h => hremove h.1
      rw [applyStep_of_keeps hkeeps] at h
      by_cases hknown : Known s (.act verb index' name)
      · obtain ⟨t', heq, honly, -⟩ := runStep_of_known hknown
        rw [heq] at h
        obtain rfl := Option.some.inj h
        rwa [honly.contains]
      · obtain ⟨e, heq⟩ := runStep_of_not_known hknown
        rw [heq] at h
        exact absurd h (by simp)

lemma contains_of_applyAll (h : applyAll s steps = some t)
    (hindex : t.indices.contains index = true) : s.indices.contains index = true := by
  induction steps generalizing s with
  | nil => rwa [Option.some.inj h]
  | cons step steps ih =>
    rw [applyAll, List.foldlM_cons, Option.bind_eq_bind, Option.bind_eq_some_iff] at h
    obtain ⟨s', hstep, hsteps⟩ := h
    exact contains_of_applyStep hstep (ih hsteps)

/-- An index that is to be removed is there before, and is not there in the end. -/
lemma removed_of_applyAll (h : applyAll s steps = some t) (hstep : step ∈ steps)
    (hremoves : step.removes index) :
    s.indices.contains index = true ∧ ¬t.indices.contains index = true := by
  induction steps generalizing s with
  | nil => exact absurd hstep List.not_mem_nil
  | cons head steps ih =>
    rw [applyAll, List.foldlM_cons, Option.bind_eq_bind, Option.bind_eq_some_iff] at h
    obtain ⟨s', hhead, hsteps⟩ := h
    rcases List.mem_cons.mp hstep with rfl | hmem
    · cases step with
      | crash => exact absurd hremoves id
      | act verb index' name =>
        obtain ⟨hverb, rfl⟩ := hremoves
        rw [applyStep, if_pos hverb, deleteIndex] at hhead
        split at hhead
        · rename_i hthere
          obtain rfl := Option.some.inj hhead
          refine ⟨hthere, fun hindex => ?_⟩
          have hback := contains_of_applyAll hsteps hindex
          rw [Dict.contains, Dict.get_erase_self] at hback
          exact absurd hback (by simp)
        · exact absurd hhead (by simp)
    · obtain ⟨hthere, hgone⟩ := ih hsteps hmem
      exact ⟨contains_of_applyStep hhead hthere, hgone⟩

/-! ## All or nothing -/

/-- A batch does all that its actions ask for, or it raises and does nothing. -/
def AllOrNothing (py : Python) (s : EsStore) (actions : List Object) : Prop :=
  ((updateAliases py s actions).2 = .ok ()
      ∧ ∃ t, applyAll s (aliasSteps py actions) = some t
          ∧ SameStore (updateAliases py s actions).1 t)
    ∨ ((∃ e, (updateAliases py s actions).2 = .error e)
      ∧ SameStore (updateAliases py s actions).1 s)

/-- All the steps can be taken and none is to remove an index, or the steps before the first that
cannot be taken leave every alias as it is. -/
def Unbroken (s : EsStore) (steps : List AliasStep) : Prop :=
  (∀ step ∈ steps, Known s step ∧ ∀ index, ¬step.removes index)
    ∨ ∃ before step after, steps = before ++ step :: after
        ∧ (∀ step ∈ before, Known s step) ∧ ¬Known s step
        ∧ ∀ index name left, lastMention index name before = some left →
            (name ∈ aliasesOf s index ↔ left = true)

lemma stepAll_of_not_known {before after : List AliasStep} (h : steps = before ++ step :: after)
    (hbefore : ∀ step ∈ before, Known s step) (hstep : ¬Known s step) :
    ∃ t e, stepAll runStep s steps = (t, .error e) ∧ AliasesOnly s t
      ∧ ∀ index name, name ∈ aliasesOf t index
          ↔ (lastMention index name before).elim (name ∈ aliasesOf s index) (· = true) := by
  obtain ⟨t, heq, honly, haliases⟩ := stepAll_of_known hbefore
  obtain ⟨e, herror⟩ := runStep_of_not_known (mt honly.known.mpr hstep)
  refine ⟨t, e, ?_, honly, haliases⟩
  rw [h, stepAll_append, heq]
  simp only
  rw [stepAll, herror]

theorem updateAliases_all_or_nothing_iff (py : Python) (s : EsStore) (actions : List Object) :
    AllOrNothing py s actions ↔ Unbroken s (aliasSteps py actions) := by
  rw [AllOrNothing, updateAliases_eq]
  generalize aliasSteps py actions = steps
  by_cases hknown : ∀ step ∈ steps, Known s step
  · obtain ⟨t, heq, honly, -⟩ := stepAll_of_known hknown
    rw [heq]
    constructor
    · rintro (⟨-, u, hall, hsame⟩ | ⟨⟨e, he⟩, -⟩)
      · refine .inl fun step hmem => ⟨hknown step hmem, fun index hremoves => ?_⟩
        obtain ⟨hthere, hgone⟩ := removed_of_applyAll hall hmem hremoves
        rw [honly.contains, hsame.contains] at hthere
        exact hgone hthere
      · exact absurd he (by simp)
    · rintro (hall | ⟨before, step, after, hsplit, -, hstep, -⟩)
      · refine .inl ⟨rfl, t, ?_, .rfl⟩
        rw [applyAll_of_keeps fun step hmem => (hall step hmem).2, heq]
      · exact absurd (hknown step (by rw [hsplit]; simp)) hstep
  · constructor
    · intro h
      obtain ⟨before, step, after, hsplit, hbefore, hstep⟩ := exists_first_not_known hknown
      obtain ⟨t, e, heq, honly, haliases⟩ := stepAll_of_not_known hsplit hbefore hstep
      rw [heq] at h
      rcases h with ⟨hok, -⟩ | ⟨-, hsame⟩
      · exact absurd hok (by simp)
      · refine .inr ⟨before, step, after, hsplit, hbefore, hstep, fun index name left hleft => ?_⟩
        rw [← hsame.aliases, haliases, hleft]
        rfl
    · rintro (hall | ⟨before, step, after, hsplit, hbefore, hstep, hlast⟩)
      · exact absurd (fun step hmem => (hall step hmem).1) hknown
      · obtain ⟨t, e, heq, honly, haliases⟩ := stepAll_of_not_known hsplit hbefore hstep
        rw [heq]
        refine .inr ⟨⟨e, rfl⟩, honly.symm, fun index name => ?_⟩
        rw [haliases]
        cases hleft : lastMention index name before with
        | none => exact .rfl
        | some left => exact (hlast index name left hleft).symm

/-- A store with one index. -/
def oneIndex : EsStore :=
  { EsStore.seeded .empty .empty with indices := Dict.empty.set "logs" {} }

/-- An alias for that index, and for one that is not there. -/
def aliasOfBoth : List Object :=
  [[("add", .dict [("index", .str "logs"), ("alias", .str "all")])],
    [("add", .dict [("index", .str "gone"), ("alias", .str "all")])]]

/-- The batch raises, and the index that is there keeps the alias. -/
theorem updateAliases_breaks_off :
    (updateAliases asciiPython oneIndex aliasOfBoth).2 = .error (.indexNotFound "gone")
      ∧ aliasesOf oneIndex "logs" = []
      ∧ aliasesOf (updateAliases asciiPython oneIndex aliasOfBoth).1 "logs" = ["all"]
      ∧ ¬AllOrNothing asciiPython oneIndex aliasOfBoth := by
  have hraises : (updateAliases asciiPython oneIndex aliasOfBoth).2
      = .error (.indexNotFound "gone") := rfl
  have hbefore : aliasesOf oneIndex "logs" = [] := rfl
  have hafter : aliasesOf (updateAliases asciiPython oneIndex aliasOfBoth).1 "logs" = ["all"] :=
    rfl
  refine ⟨hraises, hbefore, hafter, ?_⟩
  rintro (⟨hok, -⟩ | ⟨-, hsame⟩)
  · rw [hraises] at hok
    exact absurd hok (by simp)
  · have hmem := (hsame.aliases "logs" "all").mp (by rw [hafter]; exact List.mem_singleton_self _)
    rw [hbefore] at hmem
    exact List.not_mem_nil hmem

end Mockdr.Elastic
