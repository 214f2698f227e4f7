import Mockdr.Lib.QueryString
import Mockdr.Python

/-!
# Tenant scoping

`api/middleware/tenant_scope.py`: the query string of a caller who is no administrator is rewritten,
so that the routes behind the middleware see the caller's own account and sites only.

* `confinedSites`, `confine`, `scopedQuery`: the sites of a caller, what may be asked for on one
  axis, the query string that is written.
* `call`: the middleware, up to the request that it forwards.
* `Confined`: what the rewriting is for; `confined_iff`: when it is achieved.
-/

namespace Mockdr

namespace TenantScope

open QueryString

variable (py : Python)

/-- `User`, the fields that are read here. -/
structure User where
  scope : Json
  siteRoles : List Json

/-- The collections that are read here. -/
structure State where
  apiTokens : Dict String Object
  users : Dict String User

/-- `scope`, of an ASGI request. -/
structure Request where
  type : String
  path : String
  headers : List (List UInt8 × List UInt8)
  query : List UInt8
  deriving DecidableEq

/-- `DEV_PREFIX` -/
def DEV_PREFIX : String := "/web/api/v2.1/_dev/"

/-- `is_dev_path` -/
def isDevPath (path : String) : Bool := startsWith path DEV_PREFIX

/-- `",".join(xs)` -/
def joinCommas (xs : List String) : List Char := [','].intercalate (xs.map String.toList)

/-- The site that a role names, if it names one. -/
def roleSite : Json → Option String
  | .dict role =>
    let id := Object.get role "id"
    if id.truthy then some (py.toStr id) else none
  | _ => none

/-- `_confined_sites` -/
def confinedSites (users : Dict String User) (record : Object) : List Char :=
  match users.get (py.toStr ((Assoc.get "userId" record).getD (.str ""))) with
  | none => []
  | some user =>
    if user.scope.eq (.str "site") then
      joinCommas (user.siteRoles.filterMap (roleSite py)).eraseDups
    else []

/-- `str(record.get("accountId", "") or "")` -/
def accountOf (record : Object) : String :=
  if (record.get "accountId").truthy then py.toStr (record.get "accountId") else ""

/-- The sites a caller is confined to, none for one who is not. -/
def sitesOf (users : Dict String User) (record : Object) : List String :=
  match confinedSites py users record with
  | [] => []
  | joined => (joined.splitOn ',').map String.ofList

/-- The ids that the values of a parameter name: separated by commas, blank ones left out. -/
def idsIn (values : List (List Char)) : List String :=
  ((values.flatMap fun entry => split ',' (String.ofList entry)).map strip).filter (· ≠ "")

/-- `confine`: what a caller may ask for on one axis, nothing to leave it. -/
def confine (params : Params) (key : String) (allowed : List String) : Option (List String) :=
  if allowed = [] then none
  else
    match params.get key.toList with
    | none => some allowed
    | some values =>
      let permitted := allowed.filter (· ∈ idsIn values)
      some (if permitted = [] then allowed else permitted)

/-- Add the parameter of an axis, if the caller is confined on it. -/
def addAxis (key : String) (ids : Option (List String)) (params : Params) : Params :=
  match ids with
  | none => params
  | some ids => params.set key.toList [joinCommas ids]

/-- The parameters that are written. -/
def rebuilt (params : Params) (accounts sites : Option (List String)) : Params :=
  addAxis "siteIds" sites <| addAxis "accountIds" accounts <|
    params.filter fun entry => entry.1 ∉ ["accountIds".toList, "siteIds".toList]

/-- The query string that is written for a caller with an account and sites. -/
def scopedQuery (account : String) (sites : List String) (query : List UInt8) : List UInt8 :=
  let params := parseQs (decodeUtf8 query)
  match confine params "accountIds" (if account = "" then [] else [account]),
    confine params "siteIds" sites with
  | none, none => query
  | accounts, sites => encodeUtf8 (urlencode (rebuilt params accounts sites))

/-- The token of the first `Authorization` header. -/
def tokenOf (headers : List (List UInt8 × List UInt8)) : Option String :=
  match headers.find? fun header => header.1 = encodeUtf8 "authorization".toList with
  | none => none
  | some header => cutPrefix "ApiToken " (String.ofList (decodeUtf8 header.2))

/-- The record of the token that a request is sent with, where the middleware looks for it. -/
def recordOf (state : State) (request : Request) : Option Object :=
  if request.type ≠ "http" ∨ isDevPath request.path ∨ startsWith request.path "/cs" then none
  else
    match tokenOf request.headers with
    | none => none
    | some token =>
      if token = "" then none
      else (state.apiTokens.get token).filter fun record => !record.isEmpty

/-- `TenantScopeMiddleware.__call__`, up to the request that it forwards. -/
def call (state : State) (request : Request) : Request :=
  match recordOf state request with
  | none => request
  | some record =>
    if (record.get "role").eq (.str "Admin") then request
    else
      { request with
        query := scopedQuery (accountOf py record) (sitesOf py state.users record) request.query }

/-! ## What the rewriting is for -/

/-- The ids that a parameter names. -/
def ids (params : Params) (key : String) : List String := idsIn ((params.get key.toList).getD [])

/-- A caller sees an account and some sites only, and is otherwise left what was asked for: `before`
    are the parameters that were sent, `after` those that are forwarded. -/
structure Confined (account : String) (sites : List String) (before after : Params) : Prop where
  account_named : ids after "accountIds" ≠ []
  account_own : ∀ id ∈ ids after "accountIds", id = account
  sites_named : sites ≠ [] → ids after "siteIds" ≠ []
  sites_own : sites ≠ [] → ∀ id ∈ ids after "siteIds", id ∈ sites
  narrowed : (∃ id ∈ ids before "siteIds", id ∈ sites) →
    ∀ id, id ∈ ids after "siteIds" ↔ id ∈ ids before "siteIds" ∧ id ∈ sites
  kept : ∀ key, key ≠ "accountIds" → (key = "siteIds" → sites = []) →
    after.get key.toList = before.get key.toList

/-- An id that is read as it is written. -/
def Plain (id : String) : Prop := id ≠ "" ∧ strip id = id ∧ ',' ∉ id.toList

/-- The parameters of a request. -/
def Request.params (request : Request) : Params := parseQs (decodeUtf8 request.query)

/-! ## Ids -/

variable {py} {state : State} {record : Object} {request : Request} {account : String}
variable {sites xs : List String} {params : Params}

lemma idsIn_joinCommas (h : ∀ x ∈ xs, ',' ∉ x.toList) (hne : xs ≠ []) :
    idsIn [joinCommas xs] = (xs.map strip).filter (· ≠ "") := by
  have hpieces : split ',' (String.ofList (joinCommas xs)) = xs := by
    rw [split, String.toList_ofList, joinCommas, List.splitOn_intercalate]
    · rw [List.map_map]
      exact List.map_id'' (fun x => String.ofList_toList) xs
    · intro l hl
      obtain ⟨x, hx, rfl⟩ := List.mem_map.1 hl
      exact h x hx
    · intro hnil
      exact hne (List.map_eq_nil_iff.1 hnil)
  rw [idsIn, List.flatMap_singleton, hpieces]

lemma joinCommas_injective {ys : List String} (hx : ∀ x ∈ xs, ',' ∉ x.toList) (hxs : xs ≠ [])
    (hy : ∀ y ∈ ys, ',' ∉ y.toList) (hys : ys ≠ []) (h : joinCommas xs = joinCommas ys) :
    xs = ys := by
  have hsplit : ∀ zs : List String, (∀ z ∈ zs, ',' ∉ z.toList) → zs ≠ [] →
      (joinCommas zs).splitOn ',' = zs.map String.toList := by
    intro zs hz hzs
    rw [joinCommas, List.splitOn_intercalate]
    · intro l hl
      obtain ⟨z, hz', rfl⟩ := List.mem_map.1 hl
      exact hz z hz'
    · intro hnil
      exact hzs (List.map_eq_nil_iff.1 hnil)
  have hmap := hsplit xs hx hxs
  rw [h, hsplit ys hy hys] at hmap
  exact (List.map_injective_iff.2 fun _ _ => String.toList_inj.1) hmap.symm

lemma idsIn_of_plain (h : ∀ x ∈ xs, Plain x) (hne : xs ≠ []) : idsIn [joinCommas xs] = xs := by
  rw [idsIn_joinCommas (fun x hx => (h x hx).2.2) hne]
  have hstrip : xs.map strip = xs := by
    conv_rhs => rw [← List.map_id xs]
    exact List.map_congr_left fun x hx => (h x hx).2.1
  rw [hstrip, List.filter_eq_self]
  exact fun x hx => decide_eq_true (h x hx).1

lemma plain_of_mem_idsIn {values : List (List Char)} {id : String} (h : id ∈ idsIn values) :
    Plain id := by
  obtain ⟨hmem, hne⟩ := List.mem_filter.1 h
  obtain ⟨piece, hpiece, rfl⟩ := List.mem_map.1 hmem
  obtain ⟨entry, -, hpiece⟩ := List.mem_flatMap.1 hpiece
  obtain ⟨l, hl, rfl⟩ := List.mem_map.1 hpiece
  refine ⟨of_decide_eq_true hne, strip_strip _, fun hcomma => ?_⟩
  have hin := mem_of_mem_strip hcomma
  rw [String.toList_ofList] at hin
  exact not_mem_of_mem_splitOn hl hin

lemma no_comma_of_mem_sitesOf {users : Dict String User} {site : String}
    (h : site ∈ sitesOf py users record) : ',' ∉ site.toList := by
  unfold sitesOf at h
  split at h
  · cases h
  · obtain ⟨l, hl, rfl⟩ := List.mem_map.1 h
    rw [String.toList_ofList]
    exact not_mem_of_mem_splitOn hl

/-! ## The parameters that are written -/

/-- The sites that are written for a caller with sites: those asked for, if there are any among
    them, else all. -/
def granted (sites : List String) (params : Params) : List String :=
  let permitted := sites.filter (· ∈ ids params "siteIds")
  if permitted = [] then sites else permitted

lemma confine_sites (hsites : sites ≠ []) :
    confine params "siteIds" sites = some (granted sites params) := by
  rw [confine, if_neg hsites, granted, ids]
  cases params.get "siteIds".toList with
  | none =>
    have hnone : sites.filter (· ∈ idsIn ((none : Option (List (List Char))).getD [])) = [] :=
      List.filter_eq_nil_iff.2 fun site _ hsite => absurd (of_decide_eq_true hsite) List.not_mem_nil
    rw [hnone]
    rfl
  | some values => rfl

lemma confine_account : confine params "accountIds" [account] = some [account] := by
  rw [confine, if_neg (List.cons_ne_nil _ _)]
  cases params.get "accountIds".toList with
  | none => rfl
  | some values =>
    dsimp only
    rw [List.filter_singleton]
    cases decide (account ∈ idsIn values) with
    | true => rfl
    | false => rfl

/-- What is written on the axis of the sites. -/
def grantedSites (sites : List String) (params : Params) : Option (List String) :=
  if sites = [] then none else some (granted sites params)

/-- The parameters that are written for a caller with an account. -/
def scopedParams (account : String) (sites : List String) (params : Params) : Params :=
  rebuilt params (some [account]) (grantedSites sites params)

lemma scopedQuery_eq (haccount : account ≠ "") (query : List UInt8) :
    scopedQuery account sites query
      = encodeUtf8 (urlencode (scopedParams account sites (parseQs (decodeUtf8 query)))) := by
  have hsites : confine (parseQs (decodeUtf8 query)) "siteIds" sites
      = grantedSites sites (parseQs (decodeUtf8 query)) := by
    rw [grantedSites]
    split
    · next hnil => rw [confine, if_pos hnil]
    · next hne => exact confine_sites hne
  rw [scopedQuery, if_neg haccount, confine_account, hsites]
  rfl

lemma get_scopedParams_account :
    (scopedParams account sites params).get "accountIds".toList = some [account.toList] := by
  have haccount : joinCommas [account] = account.toList := by
    rw [joinCommas, List.map_singleton, List.intercalate_singleton]
  rw [scopedParams, rebuilt, grantedSites, addAxis, haccount]
  split
  · exact Dict.get_set_self _ _ _
  · rw [addAxis, Dict.get_set_ne _ _ (by decide)]
    exact Dict.get_set_self _ _ _

lemma get_scopedParams_sites (hsites : sites ≠ []) :
    (scopedParams account sites params).get "siteIds".toList
      = some [joinCommas (granted sites params)] := by
  rw [scopedParams, rebuilt, grantedSites, if_neg hsites]
  exact Dict.get_set_self _ _ _

lemma get_scopedParams_no_sites : (scopedParams account [] params).get "siteIds".toList = none := by
  rw [scopedParams, rebuilt, grantedSites, if_pos rfl, addAxis, addAxis,
    Dict.get_set_ne _ _ (by decide), Dict.get_filter]
  cases params.get "siteIds".toList with
  | none => rfl
  | some values => rfl

lemma get_scopedParams_other {key : List Char} (haccount : key ≠ "accountIds".toList)
    (hsite : key ≠ "siteIds".toList) :
    (scopedParams account sites params).get key = params.get key := by
  have hfilter : (params.filter fun entry =>
      entry.1 ∉ ["accountIds".toList, "siteIds".toList]).get key = params.get key := by
    rw [Dict.get_filter]
    cases params.get key with
    | none => rfl
    | some values =>
      refine Option.filter_eq_some_iff.2 ⟨rfl, decide_eq_true ?_⟩
      rw [List.mem_cons, List.mem_singleton, not_or]
      exact ⟨haccount, hsite⟩
  rw [scopedParams, rebuilt, grantedSites, addAxis]
  split
  · rw [addAxis, Dict.get_set_ne _ _ haccount, hfilter]
  · rw [addAxis, Dict.get_set_ne _ _ hsite, Dict.get_set_ne _ _ haccount, hfilter]

/-- The parameters that are written are those of other names, and then the axes. -/
lemma entries_scopedParams : (scopedParams account sites params).entries
    = (params.filter fun entry => entry.1 ∉ ["accountIds".toList, "siteIds".toList]).entries
      ++ ("accountIds".toList, [account.toList])
        :: (grantedSites sites params).toList.map fun ids =>
          ("siteIds".toList, [joinCommas ids]) := by
  have hnone : ∀ key ∈ ["accountIds".toList, "siteIds".toList], (params.filter fun entry =>
      entry.1 ∉ ["accountIds".toList, "siteIds".toList]).get key = none := by
    intro key hkey
    rw [Dict.get_filter]
    cases params.get key with
    | none => rfl
    | some values => exact Option.filter_eq_none_iff.2 fun _ _ h => of_decide_eq_true h hkey
  have haccount : joinCommas [account] = account.toList := by
    rw [joinCommas, List.map_singleton, List.intercalate_singleton]
  have haccounts := Dict.entries_set_of_none [account.toList]
    (hnone "accountIds".toList (by decide))
  rw [scopedParams, rebuilt]
  cases grantedSites sites params with
  | none =>
    change ((params.filter _).set _ [joinCommas [account]]).entries = _
    rw [haccount, haccounts]
    rfl
  | some ids =>
    change (((params.filter _).set _ [joinCommas [account]]).set _ [joinCommas ids]).entries = _
    rw [haccount, Dict.entries_set_of_none, haccounts, List.append_assoc]
    · rfl
    · rw [Dict.get_set_ne _ _ (by decide)]
      exact hnone _ (by decide)

lemma ne_nil_of_scopedParams (h : ∀ entry ∈ params.entries, entry.2 ≠ []) :
    ∀ entry ∈ (scopedParams account sites params).entries, entry.2 ≠ [] := by
  intro entry hentry
  rw [entries_scopedParams] at hentry
  rcases List.mem_append.1 hentry with hentry | hentry
  · exact h entry (List.mem_of_mem_filter hentry)
  · rcases List.mem_cons.1 hentry with rfl | hentry
    · exact List.cons_ne_nil _ _
    · obtain ⟨ids, -, rfl⟩ := List.mem_map.1 hentry
      exact List.cons_ne_nil _ _

lemma parse_scopedQuery (haccount : account ≠ "") (query : List UInt8) :
    parseQs (decodeUtf8 (scopedQuery account sites query))
      = scopedParams account sites (parseQs (decodeUtf8 query)) := by
  rw [scopedQuery_eq haccount, decodeUtf8_encodeUtf8, parseQs_urlencode]
  exact ne_nil_of_scopedParams fun entry hentry => ne_nil_of_parseQs hentry

/-- Writing a second time changes nothing where the same sites are written. -/
lemma scopedParams_scopedParams
    (h : granted sites (scopedParams account sites params) = granted sites params) :
    scopedParams account sites (scopedParams account sites params)
      = scopedParams account sites params := by
  have hsites : grantedSites sites (scopedParams account sites params)
      = grantedSites sites params := by
    rw [grantedSites, grantedSites, h]
  have hfilter : ((scopedParams account sites params).filter fun entry =>
        entry.1 ∉ ["accountIds".toList, "siteIds".toList]).entries
      = (params.filter fun entry => entry.1 ∉ ["accountIds".toList, "siteIds".toList]).entries := by
    change (scopedParams account sites params).entries.filter _ = params.entries.filter _
    rw [entries_scopedParams, List.filter_append]
    have haxes : (("accountIds".toList, [account.toList])
        :: (grantedSites sites params).toList.map fun ids =>
          ("siteIds".toList, [joinCommas ids])).filter
          (fun entry => decide (entry.1 ∉ ["accountIds".toList, "siteIds".toList])) = [] := by
      rw [List.filter_eq_nil_iff]
      intro entry hentry
      rcases List.mem_cons.1 hentry with rfl | hentry
      · exact fun h => of_decide_eq_true h List.mem_cons_self
      · obtain ⟨ids, -, rfl⟩ := List.mem_map.1 hentry
        exact fun h => of_decide_eq_true h (List.mem_cons_of_mem _ List.mem_cons_self)
    rw [haxes, List.append_nil]
    exact List.filter_eq_self.2 fun entry hentry => (List.mem_filter.1 hentry).2
  apply Dict.ext
  rw [entries_scopedParams, hfilter, hsites, entries_scopedParams]

/-! ## The sites that are written -/

lemma granted_subset : granted sites params ⊆ sites := by
  rw [granted]
  split
  · exact List.Subset.refl _
  · exact fun site hsite => (List.mem_filter.1 hsite).1

lemma granted_ne_nil (hsites : sites ≠ []) : granted sites params ≠ [] := by
  rw [granted]
  split
  · exact hsites
  · next hne => exact hne

lemma plain_of_mem_granted
    (h : (∃ id ∈ ids params "siteIds", id ∈ sites) ∨ ∀ site ∈ sites, Plain site)
    {site : String} (hsite : site ∈ granted sites params) : Plain site := by
  rw [granted] at hsite
  split at hsite
  · next hnone =>
    rcases h with ⟨id, hid, hin⟩ | h
    · exact absurd (List.filter_eq_nil_iff.1 hnone id hin) (by simpa using hid)
    · exact h site hsite
  · exact plain_of_mem_idsIn (of_decide_eq_true (List.mem_filter.1 hsite).2)

lemma ids_scopedParams_sites (hsites : sites ≠ [])
    (hplain : ∀ site ∈ granted sites params, Plain site) :
    ids (scopedParams account sites params) "siteIds" = granted sites params := by
  rw [ids, get_scopedParams_sites hsites, Option.getD_some,
    idsIn_of_plain hplain (granted_ne_nil hsites)]

lemma granted_scopedParams (hplain : ∀ site ∈ granted sites params, Plain site) :
    granted sites (scopedParams account sites params) = granted sites params := by
  by_cases hsites : sites = []
  · subst hsites
    rfl
  · have hpermitted : sites.filter (· ∈ granted sites params) = granted sites params := by
      rw [granted]
      split
      · exact List.filter_eq_self.2 fun site hsite => decide_eq_true hsite
      · refine List.filter_congr fun site hsite => ?_
        simp only [List.mem_filter, hsite, true_and, decide_eq_true_eq]
    rw [granted, ids_scopedParams_sites hsites hplain, hpermitted]
    exact if_neg (granted_ne_nil hsites)

/-! ## When a caller is confined -/

/-- The middleware does for a caller what it is for, and nothing more when it is run twice. -/
structure Sound (py : Python) (state : State) (record : Object) (request : Request) : Prop where
  confined : Confined (accountOf py record) (sitesOf py state.users record) request.params
    (call py state request).params
  settled : call py state (call py state request) = call py state request

/-- The account id is plain. A caller who is not confined to sites sends no `siteIds`; one who is
    asks for one of the sites, or all of them are plain. -/
def Scopable (py : Python) (state : State) (record : Object) (request : Request) : Prop :=
  Plain (accountOf py record) ∧
    (sitesOf py state.users record = [] → request.params.get "siteIds".toList = none) ∧
    (sitesOf py state.users record ≠ [] →
      (∃ id ∈ ids request.params "siteIds", id ∈ sitesOf py state.users record) ∨
        ∀ site ∈ sitesOf py state.users record, Plain site)

lemma call_eq (hrecord : recordOf state request = some record)
    (hrole : ¬ (record.get "role").eq (.str "Admin")) :
    call py state request = { request with
      query := scopedQuery (accountOf py record) (sitesOf py state.users record)
        request.query } := by
  rw [call, hrecord]
  exact if_neg hrole

lemma recordOf_query (query : List UInt8) :
    recordOf state { request with query := query } = recordOf state request := rfl

/-- The rewriting of a caller with plain ids keeps to them, whatever is asked for. -/
lemma confined_of_plain (haccount : Plain account)
    (hnone : sites = [] → params.get "siteIds".toList = none)
    (hsites : sites ≠ [] → ∀ site ∈ granted sites params, Plain site) :
    Confined account sites params (scopedParams account sites params) := by
  have hid : ids (scopedParams account sites params) "accountIds" = [account] := by
    have hjoin : joinCommas [account] = account.toList := by
      rw [joinCommas, List.map_singleton, List.intercalate_singleton]
    rw [ids, get_scopedParams_account, Option.getD_some, ← hjoin]
    exact idsIn_of_plain (fun x hx => by rw [List.mem_singleton.1 hx]; exact haccount)
      (List.cons_ne_nil _ _)
  have hgranted : sites ≠ [] →
      ids (scopedParams account sites params) "siteIds" = granted sites params := fun hne =>
    ids_scopedParams_sites hne (hsites hne)
  refine ⟨?_, ?_, ?_, ?_, ?_, ?_⟩
  · rw [hid]
    exact List.cons_ne_nil _ _
  · rw [hid]
    exact fun id h => List.mem_singleton.1 h
  · intro hne
    rw [hgranted hne]
    exact granted_ne_nil hne
  · intro hne
    rw [hgranted hne]
    exact granted_subset
  · rintro ⟨wanted, hwanted, hin⟩ id
    have hpermitted : sites.filter (· ∈ ids params "siteIds") ≠ [] := by
      intro hnil
      exact List.filter_eq_nil_iff.1 hnil wanted hin (decide_eq_true hwanted)
    rw [hgranted (List.ne_nil_of_mem hin), granted, if_neg hpermitted, List.mem_filter,
      decide_eq_true_eq, and_comm]
  · intro key haccounts hkey
    by_cases hsiteIds : key = "siteIds"
    · subst hsiteIds
      obtain rfl := hkey rfl
      rw [get_scopedParams_no_sites, hnone rfl]
    · exact get_scopedParams_other (fun h => haccounts (String.toList_inj.1 h))
        fun h => hsiteIds (String.toList_inj.1 h)

/-- Sites that are all written, read as sites of the caller and written alike a second time, are
    plain. -/
lemma plain_of_settled (hne : sites ≠ []) (hcomma : ∀ site ∈ sites, ',' ∉ site.toList)
    (hgranted : granted sites params = sites)
    (hnamed : ids (scopedParams account sites params) "siteIds" ≠ [])
    (hown : ∀ id ∈ ids (scopedParams account sites params) "siteIds", id ∈ sites)
    (hsettled : scopedParams account sites (scopedParams account sites params)
      = scopedParams account sites params) : ∀ site ∈ sites, Plain site := by
  have hagain : (scopedParams account sites (scopedParams account sites params)).get
      "siteIds".toList = (scopedParams account sites params).get "siteIds".toList := by
    rw [hsettled]
  rw [get_scopedParams_sites hne, get_scopedParams_sites hne, hgranted] at hagain
  have hjoin : joinCommas (granted sites (scopedParams account sites params)) = joinCommas sites :=
    (List.cons.inj (Option.some.inj hagain)).1
  have hsame := joinCommas_injective (fun x hx => hcomma x (granted_subset hx)) (granted_ne_nil hne)
    hcomma hne hjoin
  obtain ⟨id, rest, hid⟩ := List.exists_cons_of_ne_nil hnamed
  have hmem : id ∈ ids (scopedParams account sites params) "siteIds" := by
    rw [hid]
    exact List.mem_cons_self
  intro site hsite
  rw [← hsame] at hsite
  exact plain_of_mem_granted (.inl ⟨id, hmem, hown id hmem⟩) hsite

/-- A caller with an account is confined, and left what was asked for otherwise, exactly when the
    account id is plain and either no sites bind the caller and none are asked for, or sites do and
    one of them is asked for or all are plain. -/
theorem confined_iff (hrecord : recordOf state request = some record)
    (hrole : ¬ (record.get "role").eq (.str "Admin")) (haccount : accountOf py record ≠ "") :
    Sound py state record request ↔ Scopable py state record request := by
  have hcall : call py state request = { request with
      query := scopedQuery (accountOf py record) (sitesOf py state.users record) request.query } :=
    call_eq hrecord hrole
  have hcall' : call py state (call py state request) = { call py state request with
      query := scopedQuery (accountOf py record) (sitesOf py state.users record)
        (call py state request).query } :=
    call_eq (by rw [hcall, recordOf_query, hrecord]) hrole
  have hparams : (call py state request).params
      = scopedParams (accountOf py record) (sitesOf py state.users record) request.params := by
    rw [hcall]
    exact parse_scopedQuery haccount request.query
  have hparams' : (call py state (call py state request)).params
      = scopedParams (accountOf py record) (sitesOf py state.users record)
        (call py state request).params := by
    rw [hcall']
    exact parse_scopedQuery haccount (call py state request).query
  constructor
  · rintro ⟨hconfined, hsettled⟩
    rw [hparams] at hconfined
    refine ⟨?_, ?_, ?_⟩
    · obtain ⟨id, rest, hid⟩ := List.exists_cons_of_ne_nil hconfined.account_named
      have hmem := List.mem_cons_self (a := id) (l := rest)
      rw [← hid] at hmem
      rw [← hconfined.account_own id hmem]
      exact plain_of_mem_idsIn hmem
    · intro hnone
      have hkept := hconfined.kept "siteIds" (by decide) fun _ => hnone
      rw [hnone, get_scopedParams_no_sites] at hkept
      exact hkept.symm
    · intro hne
      by_cases hwanted : ∃ id ∈ ids request.params "siteIds", id ∈ sitesOf py state.users record
      · exact .inl hwanted
      · refine .inr (plain_of_settled hne (fun site hsite => no_comma_of_mem_sitesOf hsite) ?_
          (hconfined.sites_named hne) (hconfined.sites_own hne) ?_)
        · rw [granted]
          refine if_pos (List.filter_eq_nil_iff.2 fun site hsite h => ?_)
          exact hwanted ⟨site, of_decide_eq_true h, hsite⟩
        · rw [← hparams, ← hparams', hsettled]
  · rintro ⟨hplain, hnone, hsome⟩
    refine ⟨?_, ?_⟩
    · rw [hparams]
      exact confined_of_plain hplain hnone fun hne site hsite =>
        plain_of_mem_granted (hsome hne) hsite
    · have hgranted : ∀ site ∈ granted (sitesOf py state.users record) request.params,
          Plain site := by
        intro site hsite
        exact plain_of_mem_granted (hsome (List.ne_nil_of_mem (granted_subset hsite))) hsite
      have htwice : scopedParams (accountOf py record) (sitesOf py state.users record)
          (call py state request).params = (call py state request).params := by
        rw [hparams]
        exact scopedParams_scopedParams (granted_scopedParams hgranted)
      rw [hcall', scopedQuery_eq haccount, ← Request.params, htwice, hparams, Request.params,
        ← scopedQuery_eq haccount, hcall]

/-- A viewer's token: an account, and no sites. -/
def viewer : Object := [("role", .str "Viewer"), ("accountId", .str "1")]

/-- A store with that token. -/
def viewerState : State := ⟨Dict.empty.set "t" viewer, .empty⟩

/-- The viewer asks for one site of the account. -/
def viewerRequest : Request where
  type := "http"
  path := "/web/api/v2.1/agents"
  headers := [(encodeUtf8 "authorization".toList, encodeUtf8 "ApiToken t".toList)]
  query := encodeUtf8 "siteIds=5".toList

theorem confined_iff_viewer : Sound asciiPython viewerState viewer viewerRequest
    ↔ Scopable asciiPython viewerState viewer viewerRequest :=
  confined_iff rfl (by decide) (by decide)

/-- The viewer is shown every site of the account. -/
theorem narrowing_dropped : recordOf viewerState viewerRequest = some viewer ∧
    ¬ Sound asciiPython viewerState viewer viewerRequest := by
  refine ⟨rfl, fun hsound => ?_⟩
  have hkept := hsound.confined.kept "siteIds" (by decide) fun _ => rfl
  exact absurd hkept (by decide)

end TenantScope

end Mockdr
