import Mockdr.Dev.Restore

/-!
# Which runs of the store round trip

* `KeepsFiled`: an operation files what it saves into a typed collection under the key that it is
  given by an import, saves bytes into a binary one, and leaves no activity without an order.
* `round_trips_iff_filed`: an import of its own export leaves the store as it is at every moment of
  a run, exactly when every step keeps to that.
-/

namespace Mockdr

namespace InMemoryStore

variable {ν : Type} {s : InMemoryStore ν} {op : Op ν} {collection : String}

/-- An operation saves a record into a collection. -/
def Puts : Op ν → String → String × ν → Prop
  | .save collection id record, c, p => c = collection ∧ p = (id, record)
  | .appendActivity id record, c, p => c = "activities" ∧ p = (id, record)
  | .appendRequestLog id record, c, p => c = "request_logs" ∧ p = (id, record)
  | .appendWebhookSink id record, c, p => c = "webhook_sink" ∧ p = (id, record)
  | _, _, _ => False

/-- What is kept within its bound. -/
structure Bounded (s : InMemoryStore ν) : Prop where
  capped : ∀ collection cap, Assoc.get collection CAPS = some cap → s.count collection ≤ cap
  order : s.activityOrder.length ≤ 10000

lemma mem_withCollection {records : Dict String ν} {name : String} {p : String × ν}
    (h : p ∈ ((s.withCollection collection records).collections name).entries) :
    p ∈ (s.collections name).entries ∨ name = collection ∧ p ∈ records.entries := by
  by_cases hname : name = collection
  · subst hname
    rw [collections_withCollection_self] at h
    exact .inr ⟨rfl, h⟩
  · rw [collections_withCollection_ne s records hname] at h
    exact .inl h

lemma mem_save {id : String} {record : ν} {records : Dict String ν} {p : String × ν}
    (h : p ∈ (Mockdr.save collection id record records).entries) :
    p ∈ records.entries ∨ p = (id, record) := by
  have hset : ∀ d : Dict String ν, p ∈ (d.set id record).entries →
      p ∈ d.entries ∨ p = (id, record) := fun d hd => (Assoc.mem_set hd).symm
  rw [Mockdr.save] at h
  split at h
  · split_ifs at h
    · exact (hset _ h).imp_left List.mem_of_mem_tail
    · exact hset _ h
  · exact hset _ h

lemma mem_foldl_erase {keys : List String} {records : Dict String ν} {p : String × ν}
    (h : p ∈ (keys.foldl Dict.erase records).entries) : p ∈ records.entries := by
  induction keys generalizing records with
  | nil => exact h
  | cons key keys ih => exact List.mem_of_mem_filter (ih h)

lemma mem_insertNewest {cap : Nat} {id : String} {record : ν} {records : Dict String ν}
    {order : List String} {p : String × ν}
    (h : p ∈ (insertNewest cap id record records order).1.entries) :
    p ∈ records.entries ∨ p = (id, record) := by
  rw [insertNewest] at h
  split at h
  · exact (Assoc.mem_set (mem_foldl_erase h)).symm
  · exact (Assoc.mem_set h).symm

/-- What is stored after an operation was stored before or is what it saves. -/
lemma mem_apply {p : String × ν} (h : p ∈ ((s.apply op).collections collection).entries) :
    p ∈ (s.collections collection).entries ∨ Puts op collection p := by
  cases op with
  | save name id record =>
    rcases mem_withCollection h with h | ⟨rfl, h⟩
    · exact .inl h
    · exact (mem_save h).imp_right fun hp => ⟨rfl, hp⟩
  | delete name id =>
    rw [apply, delete] at h
    split at h
    · rcases mem_withCollection h with h | ⟨rfl, h⟩
      · exact .inl h
      · exact .inl (List.mem_of_mem_filter h)
    · exact .inl h
  | clear name =>
    have hrecords : p ∈ ((s.withCollection name .empty).collections collection).entries := by
      rw [apply, clear] at h
      split at h
      · exact h
      · exact h
    rcases mem_withCollection hrecords with h | ⟨-, h⟩
    · exact .inl h
    · cases h
  | clearAll => cases h
  | appendActivity id record =>
    rw [apply, appendActivity] at h
    rcases mem_withCollection h with h | ⟨rfl, h⟩
    · exact .inl h
    · split at h
      · split at h
        · exact (Assoc.mem_set h).symm.imp_right fun hp => ⟨rfl, hp⟩
        · exact (Assoc.mem_set (List.mem_of_mem_filter h)).symm.imp_right fun hp => ⟨rfl, hp⟩
      · exact (Assoc.mem_set h).symm.imp_right fun hp => ⟨rfl, hp⟩
  | setActivityOrder order => exact .inl h
  | appendRequestLog id record =>
    rcases mem_withCollection h with h | ⟨rfl, h⟩
    · exact .inl h
    · exact (mem_insertNewest h).imp_right fun hp => ⟨rfl, hp⟩
  | clearRequestLogs =>
    rcases mem_withCollection h with h | ⟨-, h⟩
    · exact .inl h
    · cases h
  | appendWebhookSink id record =>
    rcases mem_withCollection h with h | ⟨rfl, h⟩
    · exact .inl h
    · exact (mem_insertNewest h).imp_right fun hp => ⟨rfl, hp⟩
  | clearWebhookSink =>
    rcases mem_withCollection h with h | ⟨-, h⟩
    · exact .inl h
    · cases h

lemma size_save_le {id : String} {record : ν} {records : Dict String ν} {cap : Nat}
    (hcap : Assoc.get collection CAPS = some cap) (h : records.size ≤ cap) :
    (Mockdr.save collection id record records).size ≤ cap := by
  have hpos : ∀ p ∈ CAPS, 0 < p.2 := by decide
  have hcapPos : 0 < cap := hpos _ (Assoc.mem_of_get hcap)
  have hsize : ∀ d : Dict String ν, d.size = d.keys.length := fun d => List.length_map _ |>.symm
  rw [hsize] at h ⊢
  cases hget : records.get id with
  | some old => rw [keys_save_of_some record hget]; exact h
  | none =>
    rcases keys_save_of_none record hget with ⟨hroom, hkeys⟩ | ⟨-, hkeys⟩
    · rw [hkeys, List.length_append]
      have hlt := hroom cap hcap
      rw [hsize] at hlt
      exact hlt
    · rw [hkeys, List.length_append, List.length_tail, List.length_singleton]
      omega

lemma Bounded.withCollection {records : Dict String ν} (h : Bounded s)
    (hrecords : ∀ cap, Assoc.get collection CAPS = some cap → records.size ≤ cap) :
    Bounded (s.withCollection collection records) := by
  refine ⟨?_, h.order⟩
  intro name cap hcap
  rw [count]
  by_cases hname : name = collection
  · subst hname
    rw [collections_withCollection_self]
    exact hrecords cap hcap
  · rw [collections_withCollection_ne s records hname]
    exact h.capped name cap hcap

lemma bounded_new : Bounded (new : InMemoryStore ν) :=
  ⟨fun _ cap _ => Nat.zero_le cap, Nat.zero_le _⟩

lemma uncapped_of_ordered : ∀ p ∈ orderedCaps, Assoc.get p.1 CAPS = none := by decide

/-- Every operation keeps what is kept within its bound. -/
lemma Bounded.apply (h : Bounded s) (op : Op ν) : Bounded (s.apply op) := by
  have hempty : ∀ name, Bounded (s.withCollection name .empty) := fun name =>
    h.withCollection fun cap _ => Nat.zero_le cap
  have hordered : ∀ name records, Assoc.get name CAPS = none →
      Bounded (s.withCollection name records) := by
    intro name records hnone
    refine h.withCollection ?_
    intro cap hcap
    rw [hnone] at hcap
    cases hcap
  cases op with
  | save name id record =>
    exact h.withCollection fun cap hcap => size_save_le hcap (h.capped name cap hcap)
  | delete name id =>
    rw [InMemoryStore.apply, delete]
    split
    · refine h.withCollection ?_
      intro cap hcap
      exact (List.length_filter_le _ _).trans (h.capped name cap hcap)
    · exact h
  | clear name =>
    rw [InMemoryStore.apply, clear]
    split
    · exact ⟨(hempty name).capped, Nat.zero_le _⟩
    · exact hempty name
  | clearAll => exact bounded_new
  | appendActivity id record =>
    refine ⟨(hordered "activities" _ (uncapped_of_ordered _ List.mem_cons_self)).capped, ?_⟩
    have hlen := h.order
    rw [InMemoryStore.apply, appendActivity, List.length_cons]
    split
    · rw [List.length_dropLast]
      omega
    · omega
  | setActivityOrder order =>
    refine ⟨h.capped, ?_⟩
    rw [InMemoryStore.apply, setActivityOrder, bounded, List.length_reverse, List.length_take]
    exact Nat.min_le_left _ _
  | appendRequestLog id record =>
    exact ⟨
      (hordered "request_logs" _ (uncapped_of_ordered ("request_logs", 500) (by decide))).capped,
      h.order⟩
  | clearRequestLogs => exact ⟨(hempty "request_logs").capped, h.order⟩
  | appendWebhookSink id record =>
    exact ⟨
      (hordered "webhook_sink" _ (uncapped_of_ordered ("webhook_sink", 500) (by decide))).capped,
      h.order⟩
  | clearWebhookSink => exact ⟨(hempty "webhook_sink").capped, h.order⟩

end InMemoryStore

namespace Dev

variable (py : DevPython) (classes : Classes) (egress : Egress)

/-- The store of a process, as an import and an export see it. -/
def ofStore (cfg : ProxyConfig) (s : InMemoryStore Stored) : Store where
  collections c := (s.collections c).mapKeys .str fun _ _ h => Key.str.inj h
  activityOrder := s.activityOrder.map .str
  proxy := cfg

/-- A record that an import puts back under its key as it is, if it is in a typed or a binary
    collection. -/
structure Fits (collection : String) (p : String × Stored) : Prop where
  filed : collection ∈ typedNames → Filed py classes collection p.1 p.2
  bytes : collection ∈ BINARY_COLLECTIONS → ∃ b, p.2 = .value (.bytes b)

/-- A store that an import of its own export leaves as it is. -/
structure Restorable (s : InMemoryStore Stored) : Prop where
  fits : ∀ collection, ∀ p ∈ (s.collections collection).entries, Fits py classes collection p
  ordered : s.activityOrder = [] → (s.collections "activities").entries = []

/-- An operation that leaves no activity without an order. -/
def KeepsOrder (s : InMemoryStore Stored) : InMemoryStore.Op Stored → Prop
  | .save collection _ _ => collection = "activities" → s.activityOrder ≠ []
  | .setActivityOrder order => order = [] → (s.collections "activities").entries = []
  | _ => True

/-- An operation that files what it saves as an import does, and leaves no activity without an
    order. -/
def KeepsFiled (s : InMemoryStore Stored) (op : InMemoryStore.Op Stored) : Prop :=
  (∀ collection p, InMemoryStore.Puts op collection p → Fits py classes collection p)
    ∧ KeepsOrder s op

variable {py classes egress} {s : InMemoryStore Stored} {op : InMemoryStore.Op Stored}

/-- A store that is kept within its caps round trips exactly when it is restorable. -/
lemma roundTrips_ofStore_iff {cfg : ProxyConfig} (hb : InMemoryStore.Bounded s)
    (hcfg : Settled egress cfg) :
    RoundTrips py classes egress (ofStore cfg s) ↔ Restorable py classes s := by
  have hentries : ∀ c, ((ofStore cfg s).collections c).entries
      = (s.collections c).entries.map fun p => (.str p.1, p.2) := fun _ => rfl
  have hcaps : WithinCaps (ofStore cfg s) := by
    refine ⟨?_, ?_⟩
    · intro collection cap hcap
      rw [Dict.size, hentries, List.length_map]
      exact hb.capped collection cap hcap
    · rw [ofStore, List.length_map]
      exact hb.order
  have hordered : ((ofStore cfg s).activityOrder = [] →
      ((ofStore cfg s).collections "activities").entries = [])
      ↔ (s.activityOrder = [] → (s.collections "activities").entries = []) := by
    rw [hentries, ofStore, List.map_eq_nil_iff, List.map_eq_nil_iff]
  rw [roundTrips_iff_filed hcaps hcfg, hordered]
  simp only [hentries, List.forall_mem_map, Key.str.injEq, exists_eq_left']
  constructor
  · rintro ⟨htyped, hbinary, horder⟩
    exact ⟨fun c p hp => ⟨fun hc => htyped c hc p hp, fun hc => hbinary c hc p hp⟩, horder⟩
  · rintro ⟨hfits, horder⟩
    exact ⟨fun c hc p hp => (hfits c p hp).filed hc, fun c hc p hp => (hfits c p hp).bytes hc,
      horder⟩

lemma restorable_new : Restorable py classes .new :=
  ⟨fun _ _ hp => absurd hp List.not_mem_nil, fun _ => rfl⟩

/-- Nothing is stored without an order as long as no operation puts it there so. -/
lemma ordered_apply (h : s.activityOrder = [] → (s.collections "activities").entries = [])
    (hkeeps : KeepsOrder s op) :
    (s.apply op).activityOrder = [] → ((s.apply op).collections "activities").entries = [] := by
  intro horder
  cases op with
  | save name id record =>
    have hname : "activities" ≠ name := fun hname => hkeeps hname.symm horder
    rw [InMemoryStore.apply, InMemoryStore.save,
      InMemoryStore.collections_withCollection_ne s _ hname]
    exact h horder
  | delete name id =>
    have hsame : (s.apply (.delete name id)).activityOrder = s.activityOrder := by
      rw [InMemoryStore.apply, InMemoryStore.delete]
      split
      · rfl
      · rfl
    rw [List.eq_nil_iff_forall_not_mem]
    intro p hp
    rcases InMemoryStore.mem_apply hp with hp | hputs
    · rw [h (hsame ▸ horder)] at hp
      cases hp
    · exact hputs.elim
  | clear name =>
    rw [InMemoryStore.apply, InMemoryStore.clear] at horder ⊢
    by_cases hname : name = "activities"
    · subst hname
      rfl
    · rw [if_neg hname] at horder ⊢
      rw [InMemoryStore.collections_withCollection_ne s _ (Ne.symm hname)]
      exact h horder
  | clearAll => rfl
  | appendActivity id record => cases horder
  | setActivityOrder order =>
    refine hkeeps ?_
    have hlen := congrArg List.length horder
    rw [InMemoryStore.apply, InMemoryStore.setActivityOrder, InMemoryStore.bounded,
      List.length_reverse, List.length_take, List.length_reverse, List.length_nil] at hlen
    exact List.length_eq_zero_iff.1 (by omega)
  | appendRequestLog id record => exact h horder
  | clearRequestLogs => exact h horder
  | appendWebhookSink id record => exact h horder
  | clearWebhookSink => exact h horder

lemma Restorable.apply (h : Restorable py classes s) (hkeeps : KeepsFiled py classes s op) :
    Restorable py classes (s.apply op) := by
  refine ⟨?_, ordered_apply h.ordered hkeeps.2⟩
  intro collection p hp
  rcases InMemoryStore.mem_apply hp with hp | hputs
  · exact h.fits collection p hp
  · exact hkeeps.1 collection p hputs

/-- An operation after which a store is restorable files what it saves. -/
lemma KeepsFiled.of_restorable (h : Restorable py classes (s.apply op)) :
    KeepsFiled py classes s op := by
  have hget : ∀ {collection : String} {id : String} {record : Stored},
      (s.apply op).get collection id = some record → Fits py classes collection (id, record) :=
    fun hget => h.fits _ _ (Dict.mem_entries_iff.2 hget)
  have hunregistered : ∀ c ∈ ["request_logs", "webhook_sink"],
      c ∉ typedNames ∧ c ∉ BINARY_COLLECTIONS := by decide +kernel
  cases op with
  | save name id record =>
    have hsaved : (s.apply (.save name id record)).get name id = some record := by
      rw [InMemoryStore.apply, InMemoryStore.get, InMemoryStore.save,
        InMemoryStore.collections_withCollection_self]
      exact get_save_self name id record (s.collections name)
    refine ⟨?_, ?_⟩
    · rintro collection p ⟨rfl, rfl⟩
      exact hget hsaved
    · rintro rfl horder
      have hstored := Dict.mem_entries_iff.2 hsaved
      rw [h.ordered horder] at hstored
      cases hstored
  | delete name id => exact ⟨fun _ _ hputs => hputs.elim, trivial⟩
  | clear name => exact ⟨fun _ _ hputs => hputs.elim, trivial⟩
  | clearAll => exact ⟨fun _ _ hputs => hputs.elim, trivial⟩
  | appendActivity id record =>
    refine ⟨?_, trivial⟩
    rintro collection p ⟨rfl, rfl⟩
    refine hget ?_
    rw [InMemoryStore.apply, InMemoryStore.appendActivity, InMemoryStore.get,
      InMemoryStore.collections_withCollection_self]
    split
    · next key _ =>
      split
      · exact Dict.get_set_self _ _ _
      · next hkey =>
        rw [Dict.get_erase_ne _ (Ne.symm hkey)]
        exact Dict.get_set_self _ _ _
    · exact Dict.get_set_self _ _ _
  | setActivityOrder order =>
    refine ⟨fun _ _ hputs => hputs.elim, ?_⟩
    rintro rfl
    exact h.ordered rfl
  | appendRequestLog id record =>
    refine ⟨?_, trivial⟩
    rintro collection p ⟨rfl, -⟩
    obtain ⟨htyped, hbinary⟩ := hunregistered "request_logs" List.mem_cons_self
    exact ⟨fun hc => absurd hc htyped, fun hc => absurd hc hbinary⟩
  | clearRequestLogs => exact ⟨fun _ _ hputs => hputs.elim, trivial⟩
  | appendWebhookSink id record =>
    refine ⟨?_, trivial⟩
    rintro collection p ⟨rfl, -⟩
    obtain ⟨htyped, hbinary⟩ :=
      hunregistered "webhook_sink" (List.mem_cons_of_mem _ List.mem_cons_self)
    exact ⟨fun hc => absurd hc htyped, fun hc => absurd hc hbinary⟩
  | clearWebhookSink => exact ⟨fun _ _ hputs => hputs.elim, trivial⟩

/-- An import of its own export leaves the store as it is at every moment of a run exactly when no
    step saves a record that an import would file elsewhere or make another one of, or leaves the
    activities without an order. -/
theorem round_trips_iff_filed {cfg : ProxyConfig} (hcfg : Configured py.toPython egress cfg)
    (ops : List (InMemoryStore.Op Stored)) :
    (∀ pre, pre <+: ops →
        RoundTrips py classes egress (ofStore cfg (runFrom InMemoryStore.apply .new pre)))
      ↔ Along InMemoryStore.apply (KeepsFiled py classes) .new ops := by
  let I : InMemoryStore Stored → Prop := fun s => Restorable py classes s ∧ InMemoryStore.Bounded s
  have hstart : I .new := ⟨restorable_new, InMemoryStore.bounded_new⟩
  refine Along.always_iff (I := I) (P := fun s => RoundTrips py classes egress (ofStore cfg s))
    ?_ ?_ ?_ hstart (Along.of_forall (P := fun _ => True) ?_)
  · rintro s ⟨hrestorable, hbounded⟩
    exact (roundTrips_ofStore_iff hbounded hcfg.settled).2 hrestorable
  · rintro s op - ⟨hrestorable, hbounded⟩ hkeeps
    exact ⟨hrestorable.apply hkeeps, hbounded.apply op⟩
  · rintro s op - ⟨-, hbounded⟩ htrips
    exact .of_restorable ((roundTrips_ofStore_iff (hbounded.apply op) hcfg.settled).1 htrips)
  · exact fun _ _ => trivial

/-- A site's policy and a message of a mailbox are filed under the keys an import gives them. -/
theorem round_trips_iff_filed_policy :
    let policy : Stored :=
      .object [("scopeType", .json (.str "site")), ("scopeId", .json (.str "9"))]
    let message : Stored := .object [("_user_id", .json (.str "u")), ("id", .json (.str "m"))]
    let ops := [.save "policies" "site:9" policy, .save "graph_mail_messages" "u:m" message]
    RoundTrips asciiDevPython keyClasses ⟨false, fun _ => true⟩
      (ofStore .off (runFrom InMemoryStore.apply .new ops)) := by
  intro policy message ops
  refine (round_trips_iff_filed .off ops).2 ⟨⟨?_, ?_⟩, ⟨?_, ?_⟩, trivial⟩ ops (List.prefix_refl ops)
  · rintro collection p ⟨rfl, rfl⟩
    exact ⟨fun _ => ⟨_, rfl, by decide +kernel, rfl, rfl⟩,
      fun hc => absurd hc (by decide +kernel)⟩
  · exact fun h => absurd h (by decide +kernel)
  · rintro collection p ⟨rfl, rfl⟩
    exact ⟨fun _ => ⟨_, rfl, by decide +kernel, rfl, rfl⟩,
      fun hc => absurd hc (by decide +kernel)⟩
  · exact fun h => absurd h (by decide +kernel)

/-- The policy of an account, whatever the fields of the class. -/
def accountPolicy (classes : Classes) : Fields :=
  (classes.fields "policies").map fun field =>
    (field.1, .json (.str (if field.1 = "scopeType" then "account" else "1")))

lemma storeKey_accountPolicy (classes : Classes) :
    storeKey asciiDevPython "policies" (accountPolicy classes) = .ok "account:1" := by
  have hget : ∀ name ∈ ["scopeType", "scopeId"], getAttribute (accountPolicy classes) name
      = .ok (.json (.str (if name = "scopeType" then "account" else "1"))) := by
    intro name hname
    obtain ⟨field, hfield, rfl⟩ := List.mem_map.1
      (classes.keyed "policies" (by decide +kernel) name hname)
    have hstored : Assoc.get field.1 (accountPolicy classes)
        = some (.json (.str (if field.1 = "scopeType" then "account" else "1"))) := by
      refine Assoc.get_of_mem ?_ (List.mem_map.2 ⟨field, hfield, rfl⟩)
      rw [accountPolicy, List.map_map]
      exact classes.nodup "policies"
    rw [getAttribute, hstored]
  rw [storeKey, show keyRule "policies" = .joined ":" ["scopeType", "scopeId"] from rfl,
    KeyRule.keyOf, List.mapM_cons, hget "scopeType" List.mem_cons_self, List.mapM_cons,
    hget "scopeId" (List.mem_cons_of_mem _ List.mem_cons_self)]
  rfl

/-- The policy of an account is kept under `tenant`; an import files it elsewhere. -/
theorem tenant_policy_moved :
    ¬ ∃ classes, ∀ ops : List (InMemoryStore.Op Stored),
      RoundTrips asciiDevPython classes ⟨false, fun _ => true⟩
        (ofStore .off (runFrom InMemoryStore.apply .new ops)) := by
  rintro ⟨classes, h⟩
  let op := InMemoryStore.Op.save "policies" "tenant" (Stored.object (accountPolicy classes))
  have hsettled : Settled ⟨false, fun _ => true⟩ .off :=
    Configured.settled (.off : Configured asciiPython _ _)
  have hrestorable : Restorable asciiDevPython classes (InMemoryStore.new.apply op) :=
    (roundTrips_ofStore_iff (InMemoryStore.bounded_new.apply op) hsettled).1 (h [op])
  obtain ⟨fields, hfields, -, -, hkey⟩ := (hrestorable.fits "policies" ("tenant", _)
    List.mem_cons_self).filed (by decide +kernel)
  obtain rfl := Stored.object.inj hfields
  rw [storeKey_accountPolicy] at hkey
  have hsame : "account:1" = "tenant" := Except.ok.inj hkey
  exact absurd hsame (by decide)

end Dev

end Mockdr
