import Mockdr.Equality
import Mockdr.Lib.Run
import Mockdr.Lib.Except

/-!
# The totals of an account

An account says how many sites it has and how many licenses these have together
(`resync_account_totals` of `application/accounts/commands.py`). The commands that write sites
(`application/sites/commands.py`) recompute it after the write.

* `resync` recomputes the totals of an account, up to the first site whose licenses `int` does not
  read.
* `Action` is a request for a site, `handle` what it answers and leaves in the store.
* `totals_follow_iff`: the totals are those of the sites at every moment of a run, and a request
  that is refused or raises leaves everything as it was, exactly if no update gives a site licenses
  that `int` does not read. `create_site` refuses such licenses, `update_site` writes them.
-/

namespace Mockdr

namespace SiteTotals

/-- `Site`: its account, its licenses, and its other attributes by their names. -/
structure Site where
  accountId : Json
  totalLicenses : Json
  isDefault : Bool
  attributes : Object

/-- `Account`: its totals, and its other attributes by their names. -/
structure Account where
  numberOfSites : Nat
  totalLicenses : Int
  attributes : Object

/-- The two collections. -/
structure State where
  sites : Dict String Site
  accounts : Dict String Account

section

variable (py : Python)

/-! ## Licenses -/

/-- `int(v)`, nothing where it raises. A fraction is cut off. -/
def intOf : Json → Option Int
  | .int n => some n
  | .bool b => some (if b then 1 else 0)
  | .float q => some (q.num.tdiv q.den)
  | .str s => py.parseInt s
  | .null | .list _ | .dict _ => none

/-- `int(v or 0)`, nothing where it raises. -/
def licensesOf (v : Json) : Option Int := if v.truthy then intOf py v else some 0

/-- `_whole_licenses`, nothing where it raises an `InvalidSiteError`. -/
def wholeLicenses : Json → Option Int
  | .null | .str "" => some 0
  | .bool _ => none
  | v => intOf py v

/-- `s.accountId == account_id`, for the id of an account. -/
def Site.isOf (id : String) (site : Site) : Bool :=
  match site.accountId with
  | .str accountId => accountId = id
  | _ => false

/-- The licenses of the sites of an account. -/
def holdings (id : String) (sites : Dict String Site) : List Json :=
  (sites.entries.filter fun p => p.2.isOf id).map fun p => p.2.totalLicenses

/-- `account_repo.get`, of an id of any type that can be a key. -/
def accountOf (s : State) : Json → Option (String × Account)
  | .str id => (s.accounts.get id).map (id, ·)
  | _ => none

/-- `resync_account_totals`, and whether it has not raised. The account is edited in place. -/
def resync (accountId : Json) (s : State) : State × Bool :=
  match accountOf s accountId with
  | none => (s, true)
  | some (id, account) =>
    let held := holdings id s.sites
    let account := { account with numberOfSites := held.length }
    match held.mapM (licensesOf py) with
    | none => ({ s with accounts := s.accounts.set id account }, false)
    | some numbers =>
      let account := { account with totalLicenses := numbers.sum }
      ({ s with accounts := s.accounts.set id account }, true)

/-! ## Requests -/

/-- What a request answers. -/
inductive Reply where
  | data
  | notFound
  | isDefault
  | invalid
  | raised
  deriving DecidableEq

/-- What is answered when a site has been written and the totals are recomputed. -/
def afterWrite (accountId : Json) (s : State) : State × Reply :=
  ((resync py accountId s).1, if (resync py accountId s).2 then .data else .raised)

/-- `bool(data.get(name, False))` -/
def flag (data : Object) (name : String) : Json := .bool (arg data name (.bool false)).truthy

/-- `create_site`, with the id and the registration token that are drawn. -/
def createSite (id token now : String) (data : Object) (s : State) : State × Reply :=
  match wholeLicenses py (arg data "totalLicenses" (.int 0)) with
  | none => (s, .invalid)
  | some licenses =>
    let accountId := arg data "accountId" (.str "")
    if (hashed accountId).isNone then (s, .raised)
    else
      let accountName := match accountOf s accountId with
        | some (_, account) => Object.get account.attributes "name"
        | none => .str ""
      let site : Site :=
        { accountId
          totalLicenses := .int licenses
          isDefault := false
          attributes :=
            [("name", arg data "name" (.str "")), ("accountName", accountName),
              ("state", .str "active"), ("activeLicenses", .int 0), ("createdAt", .str now),
              ("updatedAt", .str now), ("registrationToken", .str token),
              ("siteType", arg data "siteType" (.str "Paid")),
              ("sku", arg data "sku" (.str "Complete")),
              ("suite", arg data "suite" (.str "Complete")), ("healthStatus", .bool true),
              ("expiration", Object.get data "expiration"),
              ("unlimitedExpiration", flag data "unlimitedExpiration"),
              ("unlimitedLicenses", flag data "unlimitedLicenses"),
              ("description", Object.get data "description"),
              ("externalId", Object.get data "externalId"),
              ("inheritAccountExpiration", Object.get data "inheritAccountExpiration"),
              ("usageType", Object.get data "usageType")] }
      afterWrite py accountId { s with sites := s.sites.set id site }

/-- The attributes that an update writes, beside the licenses. -/
def updatable : List String :=
  ["name", "description", "siteType", "suite", "sku", "expiration", "unlimitedExpiration",
    "unlimitedLicenses", "externalId", "inheritAccountExpiration", "usageType", "state"]

/-- A site after `update_site`. -/
def Site.update (now : String) (data : Object) (site : Site) : Site :=
  { site with
    totalLicenses := arg data "totalLicenses" site.totalLicenses
    attributes := Assoc.set "updatedAt" (.str now) (updatable.foldl
      (fun attributes field =>
        match Assoc.get field data with
        | some value => Assoc.set field value attributes
        | none => attributes)
      site.attributes) }

/-- `update_site` -/
def updateSite (id now : String) (data : Object) (s : State) : State × Reply :=
  match s.sites.get id with
  | none => (s, .notFound)
  | some site =>
    afterWrite py site.accountId { s with sites := s.sites.set id (site.update now data) }

/-- A site after `reactivate_site`. -/
def Site.reactivate (now : String) (payload : Object) (site : Site) : Site :=
  let attributes := Assoc.set "state" (.str "active") site.attributes
  let attributes :=
    if (Object.get payload "unlimited").truthy then
      Assoc.set "unlimitedExpiration" (.bool true) (Assoc.set "expiration" .null attributes)
    else if (Object.get payload "expiration").truthy then
      Assoc.set "unlimitedExpiration" (.bool false)
        (Assoc.set "expiration" (Object.get payload "expiration") attributes)
    else Assoc.set "expiration" .null attributes
  { site with attributes := Assoc.set "updatedAt" (.str now) attributes }

/-- A site after `expire_site`. -/
def Site.expire (now : String) (site : Site) : Site :=
  { site with
    attributes := Assoc.set "updatedAt" (.str now) (Assoc.set "expiration" (.str now)
      (Assoc.set "state" (.str "expired") site.attributes)) }

/-- `reactivate_site` and `expire_site`, which do not recompute the totals. -/
def editSite (id : String) (edit : Site → Site) (s : State) : State × Reply :=
  match s.sites.get id with
  | none => (s, .notFound)
  | some site => ({ s with sites := s.sites.set id (edit site) }, .data)

/-- `delete_site`, of what it does to the sites and their accounts. -/
def deleteSite (id : String) (s : State) : State × Reply :=
  match s.sites.get id with
  | none => (s, .notFound)
  | some site =>
    if site.isDefault then (s, .isDefault)
    else afterWrite py site.accountId { s with sites := s.sites.erase id }

/-- A request. -/
inductive Action where
  | create (id token now : String) (data : Object)
  | update (id now : String) (data : Object)
  | reactivate (id now : String) (payload : Object)
  | expire (id now : String)
  | delete (id : String)

/-- Answer a request. -/
def handle (s : State) : Action → State × Reply
  | .create id token now data => createSite py id token now data s
  | .update id now data => updateSite py id now data s
  | .reactivate id now payload => editSite id (Site.reactivate now payload) s
  | .expire id now => editSite id (Site.expire now) s
  | .delete id => deleteSite py id s

/-- What a request leaves in the store. -/
def step (s : State) (a : Action) : State := (handle py s a).1

/-! ## The law -/

/-- The totals of an account are those of its sites, whose licenses `int` reads. -/
def TotalledAt (id : String) (account : Account) (sites : Dict String Site) : Prop :=
  ∃ numbers, (holdings id sites).mapM (licensesOf py) = some numbers
    ∧ account.numberOfSites = (holdings id sites).length ∧ account.totalLicenses = numbers.sum

/-- The totals of every account are those of its sites. -/
def State.Totalled (s : State) : Prop :=
  ∀ id account, s.accounts.get id = some account → TotalledAt py id account s.sites

/-- A request that is refused or raises leaves the state as it was. -/
def Unchanged (s : State) (a : Action) (s' : State) : Prop := (handle py s a).2 ≠ .data → s' = s

/-- An update gives a site of an account no licenses that `int` does not read. A site that is
    created does not take the place of one of another account. -/
def Readable (s : State) : Action → Prop
  | .create id _ _ data =>
    ∀ site account accountId, s.sites.get id = some site → s.accounts.get accountId = some account →
      site.accountId = .str accountId →
      (wholeLicenses py (arg data "totalLicenses" (.int 0))).isSome →
      (hashed (arg data "accountId" (.str ""))).isSome →
        arg data "accountId" (.str "") = .str accountId
  | .update id _ data =>
    ∀ site account accountId licenses, s.sites.get id = some site →
      s.accounts.get accountId = some account → site.accountId = .str accountId →
      Assoc.get "totalLicenses" data = some licenses → (licensesOf py licenses).isSome
  | .reactivate .. | .expire .. | .delete _ => True

end

variable {py : Python} {s : State} {sites : Dict String Site} {site old : Site}
  {id key : String} {accountId : Json}

/-! ## The licenses of an account -/

lemma isOf_iff : site.isOf id = true ↔ site.accountId = .str id := by
  rw [Site.isOf]
  cases site.accountId <;> simp

lemma mem_holdings_iff {licenses : Json} :
    licenses ∈ holdings id sites
      ↔ ∃ key site, sites.get key = some site ∧ site.accountId = .str id
        ∧ site.totalLicenses = licenses := by
  simp only [holdings, List.mem_map, List.mem_filter, Prod.exists, Dict.mem_entries_iff, isOf_iff,
    and_assoc]

/-- The licenses of an account, where another site stands in the place of one. -/
lemma exists_holdings_set (hget : sites.get key = some old) (id : String) :
    ∃ front back, holdings id sites
        = front ++ (if old.isOf id then [old.totalLicenses] else []) ++ back
      ∧ ∀ site, holdings id (sites.set key site)
        = front ++ (if site.isOf id then [site.totalLicenses] else []) ++ back := by
  obtain ⟨front, back, hentries, hset⟩ := Assoc.exists_set_eq hget
  have hholdings : ∀ site : Site,
      (((front ++ (key, site) :: back).filter fun p => p.2.isOf id).map fun p =>
          p.2.totalLicenses)
        = ((front.filter fun p => p.2.isOf id).map fun p => p.2.totalLicenses)
          ++ (if site.isOf id then [site.totalLicenses] else [])
          ++ ((back.filter fun p => p.2.isOf id).map fun p => p.2.totalLicenses) := by
    intro site
    rw [List.filter_append, List.map_append, List.append_assoc, List.filter_cons]
    split_ifs <;> rfl
  refine ⟨(front.filter fun p => p.2.isOf id).map fun p => p.2.totalLicenses,
    (back.filter fun p => p.2.isOf id).map fun p => p.2.totalLicenses, ?_, fun site => ?_⟩
  · rw [holdings, hentries]
    exact hholdings old
  · rw [← hholdings site, ← hset site]
    rfl

/-- A site that is written as one of the same account with the same licenses changes no holdings,
    and neither does one that is of another account before and after. -/
lemma holdings_set (hget : sites.get key = some old)
    (haccount : site.accountId = .str id ↔ old.accountId = .str id)
    (hlicenses : old.accountId = .str id → site.totalLicenses = old.totalLicenses) :
    holdings id (sites.set key site) = holdings id sites := by
  obtain ⟨front, back, hold, hset⟩ := exists_holdings_set hget id
  have hisOf : site.isOf id = old.isOf id := by
    rw [Bool.eq_iff_iff, isOf_iff, isOf_iff, haccount]
  rw [hold, hset, hisOf]
  split_ifs with hof
  · rw [hlicenses (isOf_iff.1 hof)]
  · rfl

lemma holdings_set_new (hget : sites.get key = none) (haccount : site.accountId ≠ .str id) :
    holdings id (sites.set key site) = holdings id sites := by
  have hno : site.isOf id = false := Bool.eq_false_iff.2 fun h => haccount (isOf_iff.1 h)
  rw [holdings, holdings, Dict.entries_set_of_none site hget, List.filter_append,
    List.filter_singleton, hno]
  exact congrArg _ (List.append_nil _)

lemma mem_holdings_set {licenses : Json} (h : licenses ∈ holdings id (sites.set key site)) :
    site.accountId = .str id ∧ site.totalLicenses = licenses ∨ licenses ∈ holdings id sites := by
  obtain ⟨k, found, hget, haccount, hlicenses⟩ := mem_holdings_iff.1 h
  by_cases hk : k = key
  · subst hk
    rw [Dict.get_set_self] at hget
    obtain rfl := Option.some.inj hget
    exact .inl ⟨haccount, hlicenses⟩
  · rw [Dict.get_set_ne _ _ hk] at hget
    exact .inr (mem_holdings_iff.2 ⟨k, found, hget, haccount, hlicenses⟩)

lemma length_holdings_set (hget : sites.get key = some old) (hold : old.accountId = .str id)
    (haccount : site.accountId ≠ .str id) :
    (holdings id (sites.set key site)).length + 1 = (holdings id sites).length := by
  obtain ⟨front, back, hbefore, hset⟩ := exists_holdings_set hget id
  rw [hbefore, hset, if_pos (isOf_iff.2 hold), if_neg fun h => haccount (isOf_iff.1 h)]
  simp only [List.length_append, List.length_nil, List.length_singleton]
  omega

lemma holdings_erase (hget : sites.get key = some old) (haccount : old.accountId ≠ .str id) :
    holdings id (sites.erase key) = holdings id sites := by
  change ((sites.entries.filter _).filter _).map _ = (sites.entries.filter _).map _
  rw [List.filter_filter]
  refine congrArg (List.map _) (List.filter_congr fun p hp => ?_)
  obtain ⟨k, site⟩ := p
  rw [Dict.mem_entries_iff] at hp
  by_cases hk : k = key
  · subst hk
    obtain rfl := Option.some.inj (hget.symm.trans hp)
    have hno : old.isOf id = false := Bool.eq_false_iff.2 fun h => haccount (isOf_iff.1 h)
    rw [hno, Bool.false_and]
  · rw [decide_eq_true hk, Bool.and_true]

/-! ## Totals that are recomputed -/

lemma accountOf_eq_some {account : Account} :
    accountOf s accountId = some (id, account)
      ↔ accountId = .str id ∧ s.accounts.get id = some account := by
  cases accountId with
  | str given =>
    rw [accountOf, Option.map_eq_some_iff]
    constructor
    · rintro ⟨found, hfound, heq⟩
      obtain ⟨rfl, rfl⟩ := Prod.mk.inj heq
      exact ⟨rfl, hfound⟩
    · rintro ⟨hid, hfound⟩
      obtain rfl := Json.str.inj hid
      exact ⟨account, hfound, rfl⟩
  | _ => simp [accountOf]

lemma resync_frame (py : Python) (accountId : Json) (s : State) :
    (resync py accountId s).1.sites = s.sites
      ∧ ∀ id, accountId ≠ .str id →
        (resync py accountId s).1.accounts.get id = s.accounts.get id := by
  rw [resync]
  cases hof : accountOf s accountId with
  | none => exact ⟨rfl, fun _ _ => rfl⟩
  | some found =>
    obtain ⟨key, account⟩ := found
    obtain ⟨rfl, -⟩ := accountOf_eq_some.1 hof
    dsimp only
    cases (holdings key s.sites).mapM (licensesOf py) with
    | none => exact ⟨rfl, fun id hid => Dict.get_set_ne _ _ fun h => hid (congrArg Json.str h.symm)⟩
    | some numbers =>
      exact ⟨rfl, fun id hid => Dict.get_set_ne _ _ fun h => hid (congrArg Json.str h.symm)⟩

lemma resync_totalled {account : Account} (hget : s.accounts.get id = some account)
    (hread : ∀ licenses ∈ holdings id s.sites, (licensesOf py licenses).isSome) :
    (resync py (.str id) s).2 = true
      ∧ ∀ account', (resync py (.str id) s).1.accounts.get id = some account' →
        TotalledAt py id account' s.sites := by
  have hof : accountOf s (.str id) = some (id, account) := accountOf_eq_some.2 ⟨rfl, hget⟩
  rw [resync, hof]
  dsimp only
  cases hnumbers : (holdings id s.sites).mapM (licensesOf py) with
  | none =>
    obtain ⟨licenses, hmem, hnone⟩ := mapM_eq_none_iff.1 hnumbers
    have hsome := hread licenses hmem
    rw [hnone] at hsome
    cases hsome
  | some numbers =>
    refine ⟨rfl, fun account' haccount => ?_⟩
    dsimp only at haccount
    rw [Dict.get_set_self] at haccount
    obtain rfl := Option.some.inj haccount
    exact ⟨numbers, hnumbers, rfl, rfl⟩

/-- Where `int` does not read the licenses of a site, recomputing the totals raises. -/
lemma resync_raises {account : Account} (hget : s.accounts.get id = some account) {licenses : Json}
    (hmem : licenses ∈ holdings id s.sites) (hnone : licensesOf py licenses = none) :
    (resync py (.str id) s).2 = false := by
  have hof : accountOf s (.str id) = some (id, account) := accountOf_eq_some.2 ⟨rfl, hget⟩
  rw [resync, hof]
  dsimp only
  rw [mapM_eq_none_iff.2 ⟨licenses, hmem, hnone⟩]

/-- In a state whose totals are right, `int` reads the licenses of every site of an account. -/
lemma State.Totalled.readable (h : s.Totalled py) {account : Account}
    (hget : s.accounts.get id = some account) {licenses : Json}
    (hmem : licenses ∈ holdings id s.sites) : (licensesOf py licenses).isSome := by
  obtain ⟨numbers, hnumbers, -, -⟩ := h id account hget
  by_contra hnone
  rw [mapM_eq_none_iff.2 ⟨licenses, hmem, Option.not_isSome_iff_eq_none.1 hnone⟩] at hnumbers
  cases hnumbers

/-- Sites are written that `int` reads the licenses of, and none of another account: the totals are
    right again. -/
lemma totalled_afterWrite (hs : s.Totalled py)
    (hother : ∀ id account, s.accounts.get id = some account → accountId ≠ .str id →
      holdings id sites = holdings id s.sites)
    (hread : ∀ id account, s.accounts.get id = some account → accountId = .str id →
      ∀ licenses ∈ holdings id sites, (licensesOf py licenses).isSome) :
    (afterWrite py accountId { s with sites := sites }).1.Totalled py
      ∧ (afterWrite py accountId { s with sites := sites }).2 = .data := by
  obtain ⟨hsites, hframe⟩ := resync_frame py accountId { s with sites := sites }
  refine ⟨fun id account haccount => ?_, ?_⟩
  · rw [afterWrite] at haccount ⊢
    dsimp only at haccount ⊢
    rw [hsites]
    by_cases hid : accountId = .str id
    · subst hid
      cases hget : s.accounts.get id with
      | none =>
        rw [resync] at haccount
        have hof : accountOf { s with sites := sites } (.str id) = none := by
          rw [accountOf, Option.map_eq_none_iff]
          exact hget
        rw [hof] at haccount
        exact absurd (hget.symm.trans haccount) nofun
      | some old =>
        exact (resync_totalled (s := { s with sites := sites }) hget
          (hread id old hget rfl)).2 account haccount
    · rw [hframe id hid] at haccount
      obtain ⟨numbers, hnumbers, hlength, hsum⟩ := hs id account haccount
      refine ⟨numbers, ?_, ?_, hsum⟩
      · rw [hother id account haccount hid]
        exact hnumbers
      · rw [hother id account haccount hid]
        exact hlength
  · rw [afterWrite]
    dsimp only
    cases hof : accountOf { s with sites := sites } accountId with
    | none => rw [resync, hof]; rfl
    | some found =>
      obtain ⟨id, account⟩ := found
      obtain ⟨rfl, hget⟩ := accountOf_eq_some.1 hof
      rw [(resync_totalled (s := { s with sites := sites }) hget (hread id account hget rfl)).1]
      rfl

/-! ## One request -/

/-- What `create_site` does once it has a number of licenses and an account id that can be a key. -/
lemma createSite_eq (id token now : String) (s : State) {data : Object} {licenses : Int}
    {key : Hash} (hlicenses : wholeLicenses py (arg data "totalLicenses" (.int 0)) = some licenses)
    (hkey : hashed (arg data "accountId" (.str "")) = some key) :
    ∃ site : Site, site.accountId = arg data "accountId" (.str "")
      ∧ site.totalLicenses = .int licenses
      ∧ createSite py id token now data s
        = afterWrite py site.accountId { s with sites := s.sites.set id site } := by
  rw [createSite, hlicenses]
  dsimp only
  rw [hkey]
  exact ⟨_, rfl, rfl, rfl⟩

/-- A site is created: the totals are right, or nothing has been written. -/
lemma createSite_step {token now : String} {data : Object} (hs : s.Totalled py)
    (hguard : Readable py s (.create id token now data)) :
    (step py s (.create id token now data)).Totalled py
      ∧ Unchanged py s (.create id token now data) (step py s (.create id token now data)) := by
  rw [step, Unchanged, handle]
  cases hlicenses : wholeLicenses py (arg data "totalLicenses" (.int 0)) with
  | none =>
    rw [createSite, hlicenses]
    exact ⟨hs, fun _ => rfl⟩
  | some licenses =>
    cases hkey : hashed (arg data "accountId" (.str "")) with
    | none =>
      rw [createSite, hlicenses]
      dsimp only
      rw [hkey]
      exact ⟨hs, fun _ => rfl⟩
    | some key =>
      obtain ⟨site, haccount, hwhole, heq⟩ :=
        createSite_eq id token now s hlicenses hkey
      have hother : ∀ id' account, s.accounts.get id' = some account → site.accountId ≠ .str id' →
          holdings id' (s.sites.set id site) = holdings id' s.sites := by
        intro id' account hget hne
        cases hold : s.sites.get id with
        | none => exact holdings_set_new hold hne
        | some old =>
          have hmoved : old.accountId ≠ .str id' := by
            intro hof
            refine hne (haccount.trans ?_)
            exact hguard old account id' hold hget hof (by rw [hlicenses]; rfl) (by rw [hkey]; rfl)
          exact holdings_set hold (iff_of_false hne hmoved) fun hof => absurd hof hmoved
      have hread : ∀ id' account, s.accounts.get id' = some account → site.accountId = .str id' →
          ∀ found ∈ holdings id' (s.sites.set id site), (licensesOf py found).isSome := by
        intro id' account hget hof found hmem
        obtain ⟨-, rfl⟩ | hearlier := mem_holdings_set hmem
        · rw [hwhole, licensesOf]
          split_ifs <;> rfl
        · exact hs.readable hget hearlier
      obtain ⟨htotalled, hdata⟩ := totalled_afterWrite hs hother hread
      rw [heq]
      exact ⟨htotalled, fun hno => absurd hdata hno⟩

/-- A site is updated with licenses that `int` reads. -/
lemma updateSite_step {now : String} {data : Object} (hs : s.Totalled py)
    (hguard : Readable py s (.update id now data)) :
    (step py s (.update id now data)).Totalled py
      ∧ Unchanged py s (.update id now data) (step py s (.update id now data)) := by
  rw [step, Unchanged, handle, updateSite]
  cases hold : s.sites.get id with
  | none => exact ⟨hs, fun _ => rfl⟩
  | some old =>
    dsimp only
    have hother : ∀ id' account, s.accounts.get id' = some account → old.accountId ≠ .str id' →
        holdings id' (s.sites.set id (old.update now data)) = holdings id' s.sites :=
      fun id' account _ hne => holdings_set hold Iff.rfl fun hof => absurd hof hne
    have hread : ∀ id' account, s.accounts.get id' = some account → old.accountId = .str id' →
        ∀ found ∈ holdings id' (s.sites.set id (old.update now data)),
          (licensesOf py found).isSome := by
      intro id' account hget hof found hmem
      obtain ⟨-, rfl⟩ | hearlier := mem_holdings_set hmem
      · change (licensesOf py (arg data "totalLicenses" old.totalLicenses)).isSome
        cases hgiven : Assoc.get "totalLicenses" data with
        | none =>
          rw [arg, hgiven]
          exact hs.readable hget (mem_holdings_iff.2 ⟨id, old, hold, hof, rfl⟩)
        | some licenses =>
          rw [arg, hgiven]
          exact hguard old account id' licenses hold hget hof hgiven
      · exact hs.readable hget hearlier
    obtain ⟨htotalled, hdata⟩ := totalled_afterWrite hs hother hread
    exact ⟨htotalled, fun hno => absurd hdata hno⟩

lemma editSite_step {edit : Site → Site} (hs : s.Totalled py)
    (haccount : ∀ site, (edit site).accountId = site.accountId)
    (hlicenses : ∀ site, (edit site).totalLicenses = site.totalLicenses) :
    (editSite id edit s).1.Totalled py
      ∧ ((editSite id edit s).2 ≠ .data → (editSite id edit s).1 = s) := by
  rw [editSite]
  cases hold : s.sites.get id with
  | none => exact ⟨hs, fun _ => rfl⟩
  | some old =>
    refine ⟨fun id' account hget => ?_, fun hno => absurd rfl hno⟩
    have hsame : holdings id' (s.sites.set id (edit old)) = holdings id' s.sites :=
      holdings_set hold (by rw [haccount]) fun _ => hlicenses old
    rw [TotalledAt, hsame]
    exact hs id' account hget

/-- A site is deleted, unless it is a default one. -/
lemma deleteSite_step (hs : s.Totalled py) :
    (step py s (.delete id)).Totalled py
      ∧ Unchanged py s (.delete id) (step py s (.delete id)) := by
  rw [step, Unchanged, handle, deleteSite]
  cases hold : s.sites.get id with
  | none => exact ⟨hs, fun _ => rfl⟩
  | some old =>
    dsimp only
    split_ifs with hdefault
    · exact ⟨hs, fun _ => rfl⟩
    have hother : ∀ id' account, s.accounts.get id' = some account → old.accountId ≠ .str id' →
        holdings id' (s.sites.erase id) = holdings id' s.sites :=
      fun id' account _ hne => holdings_erase hold hne
    have hread : ∀ id' account, s.accounts.get id' = some account → old.accountId = .str id' →
        ∀ licenses ∈ holdings id' (s.sites.erase id), (licensesOf py licenses).isSome := by
      intro id' account hget hof licenses hmem
      obtain ⟨k, site, hsite, hsiteOf, hlicenses⟩ := mem_holdings_iff.1 hmem
      have hk : k ≠ id := by
        rintro rfl
        rw [Dict.get_erase_self] at hsite
        cases hsite
      rw [Dict.get_erase_ne _ hk] at hsite
      exact hs.readable hget (mem_holdings_iff.2 ⟨k, site, hsite, hsiteOf, hlicenses⟩)
    obtain ⟨htotalled, hdata⟩ := totalled_afterWrite hs hother hread
    exact ⟨htotalled, fun hno => absurd hdata hno⟩

lemma step_totalled (hs : s.Totalled py) {a : Action} (hguard : Readable py s a) :
    (step py s a).Totalled py ∧ Unchanged py s a (step py s a) := by
  cases a with
  | create id token now data => exact createSite_step hs hguard
  | update id now data => exact updateSite_step hs hguard
  | reactivate id now payload => exact editSite_step hs (fun _ => rfl) fun _ => rfl
  | expire id now => exact editSite_step hs (fun _ => rfl) fun _ => rfl
  | delete id => exact deleteSite_step hs

/-- A request that keeps the law meets the condition. -/
lemma readable_of_step (hs : s.Totalled py) {a : Action} (hafter : (step py s a).Totalled py)
    (hunchanged : Unchanged py s a (step py s a)) : Readable py s a := by
  cases a with
  | create id token now data =>
    intro old account id' hold hget hof hwhole hhashed
    by_contra hmoved
    obtain ⟨licenses, hlicenses⟩ := Option.isSome_iff_exists.1 hwhole
    obtain ⟨key, hkey⟩ := Option.isSome_iff_exists.1 hhashed
    obtain ⟨site, haccount, -, heq⟩ :=
      createSite_eq id token now s hlicenses hkey
    rw [← haccount] at hmoved
    rw [step, handle, heq, afterWrite] at hafter
    obtain ⟨hsites, hframe⟩ :=
      resync_frame py site.accountId { s with sites := s.sites.set id site }
    obtain ⟨-, -, hcount, -⟩ := hafter id' account ((hframe id' hmoved).trans hget)
    obtain ⟨-, -, hbefore, -⟩ := hs id' account hget
    dsimp only at hcount
    rw [hsites, hbefore] at hcount
    have hless := length_holdings_set hold hof hmoved
    dsimp only at hcount
    omega
  | update id now data =>
    intro old account id' licenses hold hget hof hgiven
    by_contra hnone
    rw [Option.not_isSome_iff_eq_none] at hnone
    have hmem : licenses ∈ holdings id' (s.sites.set id (old.update now data)) := by
      refine mem_holdings_iff.2 ⟨id, _, Dict.get_set_self _ _ _, hof, ?_⟩
      change arg data "totalLicenses" old.totalLicenses = licenses
      rw [arg, hgiven]
      rfl
    have hraised : (resync py (.str id')
        { s with sites := s.sites.set id (old.update now data) }).2 = false :=
      resync_raises (s := { s with sites := s.sites.set id (old.update now data) }) hget hmem hnone
    have hstep : step py s (.update id now data) = s := by
      refine hunchanged ?_
      rw [handle, updateSite, hold]
      dsimp only
      rw [afterWrite, hof, hraised]
      nofun
    have hsites : (step py s (.update id now data)).sites
        = s.sites.set id (old.update now data) := by
      rw [step, handle, updateSite, hold]
      exact (resync_frame _ _ _).1
    rw [← hsites, hstep] at hmem
    have hsome := hs.readable hget hmem
    rw [hnone] at hsome
    cases hsome
  | _ => trivial

/-! ## Runs -/

/-- At every moment of a run of requests the totals of every account are those of its sites, and
    every request that is refused or raises leaves everything as it was, exactly if no update gives
    a site of an account licenses that `int` does not read. -/
theorem totals_follow_iff (hs : s.Totalled py) {as : List Action} :
    ((∀ pre, pre <+: as → (runFrom (step py) s pre).Totalled py)
        ∧ ∀ pre a, pre ++ [a] <+: as →
          Unchanged py (runFrom (step py) s pre) a (runFrom (step py) s (pre ++ [a])))
      ↔ Along (step py) (Readable py) s as :=
  Along.keeps_iff (I := State.Totalled py) (P := State.Totalled py) (T := Unchanged py)
    (fun _ h => h) (fun _ _ _ h hguard => step_totalled h hguard)
    (fun _ _ _ h hafter hunchanged => readable_of_step h hafter hunchanged) hs
    (Along.of_forall (P := fun _ => True) fun _ _ => trivial)

/-- An account with one site of ten licenses. -/
def oneSite : State where
  sites := Dict.empty.set "s" ⟨.str "a", .int 10, false, []⟩
  accounts := Dict.empty.set "a" ⟨1, 10, []⟩

lemma totalled_oneSite : oneSite.Totalled asciiPython := by
  intro id account hget
  obtain rfl | hid := eq_or_ne id "a"
  · rw [oneSite, Dict.get_set_self] at hget
    obtain rfl := Option.some.inj hget
    exact ⟨[10], rfl, rfl, rfl⟩
  · rw [oneSite, Dict.get_set_ne _ _ hid] at hget
    cases hget

/-- The site is given two licenses. -/
theorem totals_follow_iff_two :
    ((∀ pre, pre <+: [.update "s" "" [("totalLicenses", .int 2)]] →
        (runFrom (step asciiPython) oneSite pre).Totalled asciiPython)
      ∧ ∀ pre a, pre ++ [a] <+: [.update "s" "" [("totalLicenses", .int 2)]] →
        Unchanged asciiPython (runFrom (step asciiPython) oneSite pre) a
          (runFrom (step asciiPython) oneSite (pre ++ [a])))
      ↔ Along (step asciiPython) (Readable asciiPython) oneSite
        [.update "s" "" [("totalLicenses", .int 2)]] :=
  totals_follow_iff totalled_oneSite

/-- An update of the licenses to a text that is no number raises. The site has it nevertheless, and
    every later update of the site raises too. -/
theorem unreadable_licenses_kept :
    (handle asciiPython oneSite (.update "s" "" [("totalLicenses", .str "ten")])).2 = .raised
      ∧ ((handle asciiPython oneSite (.update "s" "" [("totalLicenses", .str "ten")])).1.sites.get
          "s").map Site.totalLicenses = some (.str "ten")
      ∧ (handle asciiPython (step asciiPython oneSite
          (.update "s" "" [("totalLicenses", .str "ten")])) (.update "s" "" [])).2 = .raised :=
  ⟨by decide +kernel, rfl, by decide +kernel⟩

end SiteTotals

end Mockdr
