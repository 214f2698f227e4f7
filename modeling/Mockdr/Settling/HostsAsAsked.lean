import Mockdr.Settling.Hosts

/-!
# Falcon hosts as they were asked

The specification of a host keeps the history of what it was asked for in the place of its status.

* `HostAs now h x`: the stored host `h` is one that shows what `x` was asked for, at a read from
  `now` on that judges the wait as `x` does.
* `Agrees`, `UpToDate`: the hosts that a read looks at are so judged, or are not due.
* `rel_publicEach`, `pageIds_eq`, `records_eq`: what a read serves is what was asked for.
-/

namespace Mockdr

namespace Settling

variable {σ τ ρ : Type*}

/-! ## Histories -/

/-- What a host shows at a moment. -/
def CsHost.shownAt (t : ℚ) (x : CsHost (History HostStatus) ρ) : CsHost HostStatus ρ :=
  x.mapStatus (History.shownAt settleSeconds · t)

/-- A stored host that was asked for nothing yet but what its status says, at its timestamp. -/
def CsHost.history (h : CsHost HostStatus ρ) : CsHost (History HostStatus) ρ :=
  h.mapStatus fun status =>
    match status.settlesInto, h.modifiedTimestamp.moment with
    | some target, some moment => ⟨status, [⟨moment, status, target⟩]⟩
    | _, _ => .still status

/-- A host is asked for containment, or for its end. -/
def askHosts (ids : List String) (pending target : HostStatus) (now : ℚ)
    (i : Hosts (History HostStatus) ρ) : Hosts (History HostStatus) ρ :=
  editEach ids (CsHost.put (History.ask · ⟨now, pending, target⟩) now) i

/-- A status that is stored stands for a history: it is pending as the history is, or settled for
    good. -/
def StatusAs (now : ℚ) (status : HostStatus) (x : History HostStatus) : Prop :=
  (∃ target, status.settlesInto = some target ∧
      ∀ t, x.shownAt settleSeconds t = if x.dueAt settleSeconds t then target else status)
    ∨ status.settlesInto = none ∧ ∀ t, now ≤ t → x.shownAt settleSeconds t = status

/-- A stored host stands for one with a history. -/
def HostAs (now : ℚ) (h : CsHost HostStatus ρ) (x : CsHost (History HostStatus) ρ) : Prop :=
  h.plain = x.plain ∧ StatusAs now h.status x.status

/-- The stored hosts stand for hosts with histories. -/
def HostsAs (now : ℚ) (d : Hosts HostStatus ρ) (i : Hosts (History HostStatus) ρ) : Prop :=
  d.Rel (fun _ => HostAs now) i

lemma StatusAs.mono {now now' : ℚ} {status : HostStatus} {x : History HostStatus}
    (hnow : now ≤ now') (h : StatusAs now status x) : StatusAs now' status x := by
  rcases h with hpending | ⟨hstatus, hshown⟩
  · exact .inl hpending
  · exact .inr ⟨hstatus, fun t ht => hshown t (le_trans hnow ht)⟩

lemma HostsAs.mono {now now' : ℚ} {d : Hosts HostStatus ρ} {i : Hosts (History HostStatus) ρ}
    (hnow : now ≤ now') (h : HostsAs now d i) : HostsAs now' d i :=
  h.imp fun _ _ _ hv => ⟨hv.1, hv.2.mono hnow⟩

lemma statusAs_ask {now : ℚ} {pending target : HostStatus}
    (hpending : pending.settlesInto = some target) (x : History HostStatus) (asked : ℚ) :
    StatusAs now pending (x.ask ⟨asked, pending, target⟩) :=
  .inl ⟨target, hpending, fun t => History.shownAt_ask x ⟨asked, pending, target⟩ t⟩

lemma hostAs_history (now : ℚ) (h : CsHost HostStatus ρ) : HostAs now h h.history := by
  refine ⟨rfl, ?_⟩
  change StatusAs now h.status (match h.status.settlesInto, h.modifiedTimestamp.moment with
    | some target, some moment => ⟨h.status, [⟨moment, h.status, target⟩]⟩
    | _, _ => .still h.status)
  cases hsettles : h.status.settlesInto with
  | none => exact .inr ⟨hsettles, fun _ _ => rfl⟩
  | some target =>
    cases h.modifiedTimestamp.moment with
    | none => exact .inl ⟨target, hsettles, fun _ => rfl⟩
    | some moment => exact statusAs_ask hsettles (.still h.status) moment

lemma hostsAs_history (now : ℚ) (d : Hosts HostStatus ρ) :
    HostsAs now d (d.mapValues CsHost.history) := by
  have hself : d.Rel (fun _ h h' => h = h') d := by
    refine ⟨rfl, fun hv hw => ?_⟩
    rw [hv] at hw
    exact Option.some.inj hw
  refine hself.mapValues_right _ ?_
  rintro _ h _ rfl
  exact hostAs_history now h

/-! ## Changes -/

lemma rel_editEach {R : CsHost σ ρ → CsHost τ ρ → Prop} {f : CsHost σ ρ → CsHost σ ρ}
    {g : CsHost τ ρ → CsHost τ ρ} (hfg : ∀ h x, R h x → R (f h) (g x)) (ids : List String)
    {d : Hosts σ ρ} {i : Hosts τ ρ} (hdi : d.Rel (fun _ => R) i) :
    (editEach ids f d).Rel (fun _ => R) (editEach ids g i) := by
  induction ids generalizing d i with
  | nil => exact hdi
  | cons id ids ih =>
    rw [editEach, editEach, List.foldl_cons, List.foldl_cons, ← editEach, ← editEach]
    refine ih ?_
    rcases hdi.get id with ⟨hd, hi⟩ | ⟨h, x, hd, hi, hhx⟩
    · simpa only [hd, hi] using hdi
    · simpa only [hd, hi] using hdi.set (hfg h x hhx)

lemma hostsAs_ask {now : ℚ} {pending target : HostStatus}
    (hpending : pending.settlesInto = some target) (ids : List String) (t : ℚ)
    {d : Hosts HostStatus ρ} {i : Hosts (History HostStatus) ρ} (h : HostsAs now d i) :
    HostsAs now (editEach ids (CsHost.put (fun _ => pending) t) d)
      (askHosts ids pending target t i) := by
  refine rel_editEach ?_ ids h
  rintro h x ⟨hplain, -⟩
  refine ⟨?_, statusAs_ask hpending x.status t⟩
  injection hplain with _ _ htags hgroups hhidden hother
  simp only [CsHost.plain, CsHost.mapStatus, CsHost.put, htags, hgroups, hhidden, hother]

variable {now t : ℚ} {d : Hosts HostStatus ρ} {i : Hosts (History HostStatus) ρ}

lemma hostsAs_edit (h : HostsAs now d i) (ids : List String)
    {f : CsHost HostStatus ρ → CsHost HostStatus ρ}
    {g : CsHost (History HostStatus) ρ → CsHost (History HostStatus) ρ}
    (e : CsHost Unit ρ → CsHost Unit ρ)
    (hf : ∀ h, (f h).plain = e h.plain ∧ (f h).status = h.status)
    (hg : ∀ x, (g x).plain = e x.plain ∧ (g x).status = x.status) :
    HostsAs now (editEach ids f d) (editEach ids g i) := by
  refine rel_editEach ?_ ids h
  rintro h x ⟨hplain, hstatus⟩
  refine ⟨?_, ?_⟩
  · rw [(hf h).1, (hg x).1, hplain]
  · rw [(hf h).2, (hg x).2]
    exact hstatus

lemma hostsAs_setHidden (h : HostsAs now d i) (ids : List String) (hidden : Bool) (t : ℚ) :
    HostsAs now (setHidden ids hidden t d) (setHidden ids hidden t i) :=
  hostsAs_edit h ids (fun h => { h with hidden, modifiedTimestamp := utcNow t })
    (fun _ => ⟨rfl, rfl⟩) fun _ => ⟨rfl, rfl⟩

lemma hostsAs_tagHosts (h : HostsAs now d i) (ids tags : List String) (action : TagAction) (t : ℚ) :
    HostsAs now (tagHosts ids tags action t d) (tagHosts ids tags action t i) :=
  hostsAs_edit h ids
    (fun h => { h with tags := action.apply tags h.tags, modifiedTimestamp := utcNow t })
    (fun _ => ⟨rfl, rfl⟩) fun _ => ⟨rfl, rfl⟩

lemma hostsAs_manageGroupMembers (h : HostsAs now d i) (group : String) (action : MemberAction)
    (ids : List String) (t : ℚ) :
    HostsAs now (manageGroupMembers group action ids t d)
      (manageGroupMembers group action ids t i) :=
  hostsAs_edit h ids
    (fun h => { h with groups := action.apply group h.groups, modifiedTimestamp := utcNow t })
    (fun _ => ⟨rfl, rfl⟩) fun _ => ⟨rfl, rfl⟩

/-- The groups that are deleted are the same on both sides, and leave the same hosts. -/
lemma hostsAs_deleteHostGroups (h : HostsAs now d i) (ids groups : List String) :
    (deleteHostGroups ids (groups, d)).1 = (deleteHostGroups ids (groups, i)).1
      ∧ HostsAs now (deleteHostGroups ids (groups, d)).2 (deleteHostGroups ids (groups, i)).2 := by
  induction ids generalizing groups d i with
  | nil => exact ⟨rfl, h⟩
  | cons id ids ih =>
    rw [deleteHostGroups, deleteHostGroups, List.foldl_cons, List.foldl_cons, ← deleteHostGroups,
      ← deleteHostGroups]
    split
    · refine ih ?_ _
      refine ⟨?_, ?_⟩
      · rw [Dict.keys_mapValues, Dict.keys_mapValues, h.keys]
      · intro k v w hv hw
        rw [Dict.get_mapValues] at hv hw
        obtain ⟨v', hv', rfl⟩ := Option.map_eq_some_iff.1 hv
        obtain ⟨w', hw', rfl⟩ := Option.map_eq_some_iff.1 hw
        obtain ⟨hplain, hstatus⟩ := h.values hv' hw'
        refine ⟨?_, hstatus⟩
        exact congrArg (fun h : CsHost Unit ρ => { h with groups := h.groups.filter (· ≠ id) })
          hplain
    · exact ih h groups

/-! ## Reads -/

/-- The hosts that are read are judged to have answered when they have. -/
def Agrees (t : ℚ) (d : Hosts HostStatus ρ) (i : Hosts (History HostStatus) ρ)
    (read : String → CsHost HostStatus ρ → Prop) : Prop :=
  ∀ id h x, d.get id = some h → i.get id = some x → read id h → h.status.settlesInto ≠ none →
    (hasAnswered (secondsSince t h.modifiedTimestamp) = true ↔ x.status.dueAt settleSeconds t)

/-- None of the hosts that are read is due. -/
def UpToDate (t : ℚ) (d : Hosts HostStatus ρ) (i : Hosts (History HostStatus) ρ)
    (read : String → CsHost HostStatus ρ → Prop) : Prop :=
  ∀ id h x, d.get id = some h → i.get id = some x → read id h → h.status.settlesInto ≠ none →
    ¬ x.status.dueAt settleSeconds t

/-- The ids that a listing makes of records do not depend on their status. -/
def Blind (listing : Listing HostStatus ρ) : Prop :=
  ∃ blind : List (String × CsHost Unit ρ) → List String × Nat,
    ∀ records, pageIds (listing records) = blind (records.map (Prod.map id CsHost.plain))

lemma HostAs.eq_of_not_due {h : CsHost HostStatus ρ} {x : CsHost (History HostStatus) ρ}
    (hhx : HostAs now h x) (ht : now ≤ t)
    (hdue : h.status.settlesInto ≠ none → ¬ x.status.dueAt settleSeconds t) : h = x.shownAt t := by
  have hshown : x.status.shownAt settleSeconds t = h.status := by
    rcases hhx.2 with ⟨target, hsettles, hshown⟩ | ⟨-, hshown⟩
    · rw [hshown, if_neg (hdue fun hnone => by rw [hsettles] at hnone; cases hnone)]
    · exact hshown t ht
  have hplain := hhx.1
  obtain ⟨status, modifiedTimestamp, tags, groups, hidden, other⟩ := h
  injection hplain with _ hmodified htags hgroups hhidden hother
  rw [CsHost.shownAt, CsHost.mapStatus, hshown, ← hmodified, ← htags, ← hgroups, ← hhidden,
    ← hother]

/-- A host that is settled by a clock that agrees shows what it was asked for, and goes on so. -/
lemma HostAs.settled {h : CsHost HostStatus ρ} {x : CsHost (History HostStatus) ρ}
    (hhx : HostAs now h x) (ht : now ≤ t)
    (hagrees : h.status.settlesInto ≠ none →
      (hasAnswered (secondsSince t h.modifiedTimestamp) = true ↔ x.status.dueAt settleSeconds t)) :
    settled t h = x.shownAt t ∧ HostAs t (settled t h) x := by
  cases hsettles : h.status.settlesInto with
  | none =>
    have hsame : Settling.settled t h = h := by rw [Settling.settled, hsettles]
    rw [hsame]
    refine ⟨hhx.eq_of_not_due ht fun hne => absurd hsettles hne, hhx.1, hhx.2.mono ht⟩
  | some target =>
    have hne : h.status.settlesInto ≠ none := by rw [hsettles]; nofun
    rcases hhx.2 with ⟨target', hsettles', hshown⟩ | ⟨hnone, -⟩
    · rw [hsettles] at hsettles'
      cases hsettles'
      by_cases hdue : x.status.dueAt settleSeconds t
      · have hsettled : Settling.settled t h = { h with status := target } := by
          rw [Settling.settled, hsettles]
          exact if_pos ((hagrees hne).2 hdue)
        have hfinal : target.settlesInto = none := by
          cases hstatus : h.status <;> rw [hstatus] at hsettles <;> cases hsettles <;> rfl
        have hlater : ∀ t', t ≤ t' → x.status.shownAt settleSeconds t' = target := by
          intro t' ht'
          rw [hshown, if_pos (History.dueAt_mono ht' hdue)]
        have hhx' : HostAs t (Settling.settled t h) x := by
          rw [hsettled]
          exact ⟨hhx.1, .inr ⟨hfinal, hlater⟩⟩
        refine ⟨hhx'.eq_of_not_due (le_refl t) fun hne' => ?_, hhx'⟩
        rw [hsettled] at hne'
        exact absurd hfinal hne'
      · have hsame : Settling.settled t h = h := by
          rw [Settling.settled, hsettles]
          exact if_neg fun hanswered => hdue ((hagrees hne).1 hanswered)
        rw [hsame]
        exact ⟨hhx.eq_of_not_due ht fun _ => hdue, hhx.1, hhx.2.mono ht⟩
    · exact absurd hnone hne

lemma settled_eq_of_pending {h : CsHost HostStatus ρ}
    (hpending : (settled t h).status.settlesInto ≠ none) : settled t h = h := by
  rw [settled] at hpending ⊢
  split
  · rfl
  · next target hsettles =>
    rw [hsettles] at hpending
    dsimp only at hpending ⊢
    split
    · next hanswered =>
      rw [if_pos hanswered] at hpending
      refine absurd ?_ hpending
      cases hstatus : h.status <;> rw [hstatus] at hsettles <;> cases hsettles <;> rfl
    · rfl

lemma hostsAs_settleHosts (h : HostsAs now d i) (ht : now ≤ t)
    (hagrees : Agrees t d i fun _ _ => True) : HostsAs t (settleHosts t d) i := by
  refine ⟨?_, ?_⟩
  · rw [settleHosts, Dict.keys_mapValues, h.keys]
  · intro id h' x hh' hx
    rw [settleHosts, Dict.get_mapValues] at hh'
    obtain ⟨host, hhost, rfl⟩ := Option.map_eq_some_iff.1 hh'
    exact ((h.values hhost hx).settled ht (hagrees id host x hhost hx trivial)).2

/-- The hosts among some ids that are served whole. -/
def served (listed : CsHost HostStatus ρ → Bool) (ids : List String) (d : Hosts HostStatus ρ) :
    List (String × CsHost HostStatus ρ) :=
  ids.filterMap fun id => ((d.get id).filter listed).map (Prod.mk id)

/-- The hosts that are settled and served one after another are what they were asked for. -/
lemma publicEach_eq {listed : CsHost HostStatus ρ → Bool}
    (hlisted : ∀ h h', h.plain = h'.plain → listed h = listed h') {ids : List String}
    (h : HostsAs t d i) (hagrees : Agrees t d i fun id h => id ∈ ids ∧ listed h = true) :
    (publicEach listed t ids d).1 = served listed ids (i.mapValues (CsHost.shownAt t))
      ∧ HostsAs t (publicEach listed t ids d).2 i := by
  induction ids generalizing d with
  | nil => exact ⟨rfl, h⟩
  | cons id ids ih =>
    have hrest : Agrees t d i fun id h => id ∈ ids ∧ listed h = true :=
      fun id' h' x hh' hx hread =>
        hagrees id' h' x hh' hx ⟨List.mem_cons_of_mem id hread.1, hread.2⟩
    rw [served, List.filterMap_cons, ← served, Dict.get_mapValues]
    rcases h.get id with ⟨hd, hi⟩ | ⟨host, x, hd, hi, hhx⟩
    · have hnone : (d.get id).filter listed = none := by rw [hd]; rfl
      rw [publicEach, hnone, hi]
      exact ih h hrest
    · have hsame : listed (x.shownAt t) = listed host := hlisted _ _ hhx.1.symm
      cases hkept : listed host with
      | false =>
        have hnone : (d.get id).filter listed = none := by
          rw [hd, Option.filter_some_neg (by simp [hkept])]
        rw [publicEach, hnone, hi, Option.map_some,
          Option.filter_some_neg (by simp [hsame, hkept])]
        exact ih h hrest
      | true =>
        have hsome : (d.get id).filter listed = some host := by
          rw [hd, Option.filter_some_pos hkept]
        obtain ⟨hshown, hhost⟩ := hhx.settled (le_refl t)
          (hagrees id host x hd hi ⟨List.mem_cons_self, hkept⟩)
        have hnext : Agrees t (d.set id (settled t host)) i
            fun id h => id ∈ ids ∧ listed h = true := by
          intro id' h' x' hh' hx' hread hpending
          rw [Dict.get_set] at hh'
          split at hh'
          · next hid =>
            subst hid
            cases hh'
            have hsettled := settled_eq_of_pending hpending
            rw [hsettled] at hread hpending ⊢
            exact hrest _ host x' hd hx' hread hpending
          · exact hrest id' h' x' hh' hx' hread hpending
        obtain ⟨hserved, hrel⟩ := ih (h.set_left hi hhost) hnext
        rw [publicEach, hsome, hi, Option.map_some, Option.filter_some_pos (hsame.trans hkept)]
        refine ⟨?_, hrel⟩
        change (id, settled t host) :: _ = (id, x.shownAt t) :: _
        rw [hserved, hshown]

/-- The records that a filter of everything but the status keeps are those on the other side, but
    for the status. -/
lemma plain_records (h : HostsAs now d i) (keep : CsHost Unit ρ → Bool) (t : ℚ) :
    (d.entries.filter fun p => keep p.2.plain).map (Prod.map id CsHost.plain)
      = ((i.mapValues (CsHost.shownAt t)).entries.filter fun p => keep p.2.plain).map
          (Prod.map id CsHost.plain) := by
  have hplain : d.mapValues CsHost.plain
      = (i.mapValues (CsHost.shownAt t)).mapValues CsHost.plain := by
    refine Dict.Rel.eq ⟨?_, ?_⟩
    · rw [Dict.keys_mapValues, Dict.keys_mapValues, Dict.keys_mapValues, h.keys]
    · intro id v w hv hw
      rw [Dict.get_mapValues] at hv hw
      rw [Dict.get_mapValues] at hw
      obtain ⟨host, hhost, rfl⟩ := Option.map_eq_some_iff.1 hv
      obtain ⟨_, hshown, rfl⟩ := Option.map_eq_some_iff.1 hw
      obtain ⟨x, hx, rfl⟩ := Option.map_eq_some_iff.1 hshown
      exact (h.values hhost hx).1
  have hfilter : ∀ e : Hosts HostStatus ρ,
      (e.entries.filter fun p => keep p.2.plain).map (Prod.map id CsHost.plain)
        = (e.mapValues CsHost.plain).entries.filter fun p => keep p.2 := by
    intro e
    have hmap : (e.mapValues CsHost.plain).entries
        = e.entries.map (Prod.map id CsHost.plain) := rfl
    rw [hmap, List.filter_map]
    rfl
  rw [hfilter, hfilter, hplain]

/-- The records that such a filter keeps are what they were asked for where none of them is due. -/
lemma records_eq (h : HostsAs now d i) (ht : now ≤ t) (keep : CsHost Unit ρ → Bool)
    (hup : UpToDate t d i fun _ h => keep h.plain = true) :
    (d.entries.filter fun p => keep p.2.plain)
      = (i.mapValues (CsHost.shownAt t)).entries.filter fun p => keep p.2.plain := by
  refine Dict.Rel.filter_eq (fun p : String × CsHost HostStatus ρ => keep p.2.plain) ⟨?_, ?_⟩
  · rw [Dict.keys_mapValues, h.keys]
  · intro id host w hhost hw
    rw [Dict.get_mapValues] at hw
    obtain ⟨x, hx, rfl⟩ := Option.map_eq_some_iff.1 hw
    have hhx := h.values hhost hx
    refine ⟨congrArg keep hhx.1, fun hkept => ?_⟩
    exact hhx.eq_of_not_due ht (hup id host x hhost hx hkept)

/-- The ids of a page are what they should be where the listing is blind, or no record is due. -/
lemma pageIds_eq (h : HostsAs now d i) (ht : now ≤ t) (keep : CsHost Unit ρ → Bool)
    (listing : Listing HostStatus ρ)
    (hread : Blind listing ∨ UpToDate t d i fun _ h => keep h.plain = true) :
    pageIds (listing (d.entries.filter fun p => keep p.2.plain))
      = pageIds (listing
          ((i.mapValues (CsHost.shownAt t)).entries.filter fun p => keep p.2.plain)) := by
  rcases hread with ⟨blind, hblind⟩ | hup
  · rw [hblind, hblind, plain_records h keep t]
  · rw [records_eq h ht keep hup]

end Settling

end Mockdr
