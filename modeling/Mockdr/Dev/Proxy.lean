import Mathlib.Data.List.DropRight
import Mockdr.Lib.Except
import Mockdr.Python

/-!
# The settings of the recording proxy

`application/proxy/commands.py`, and what an import does with the settings of a snapshot
(`_load_snapshot`, `_keep_current_secrets`).

* `setConfig` changes the settings, `restoreProxy` puts back those of a snapshot.
* `Configured`: settings that some calls of `set_config` have made; `restoreProxy_recordDict`: their
  export puts them back as they are.
-/

namespace Mockdr

namespace Dev

/-- How requests to a vendor are signed: `AuthApiToken`, `AuthOAuth2`, `AuthBasic`, `AuthHmac`. -/
inductive VendorAuth where
  | apiToken (token : String)
  | oauth2 (clientId clientSecret tokenUrl : String)
  | basic (username password apiKey : String)
  | hmac (keyId keySecret : String)

/-- `VendorProxyConfig` -/
structure VendorProxyConfig where
  vendor : String
  baseUrl : String
  auth : VendorAuth
  enabled : Bool

/-- `ProxyConfig` -/
structure ProxyConfig where
  mode : String
  vendors : Dict String VendorProxyConfig
  baseUrl : String
  apiToken : String

/-- `ProxyConfig(mode="off")` -/
def ProxyConfig.off : ProxyConfig := ⟨"off", .empty, "", ""⟩

/-- `VENDOR_NAMES` -/
def VENDOR_NAMES : List String :=
  ["s1", "crowdstrike", "mde", "elastic", "cortex_xdr", "splunk", "sentinel", "graph"]

/-- `_VALID_MODES` -/
def VALID_MODES : List String := ["off", "record", "replay"]

/-- What the settings are checked against: `config.PUBLIC_MODE`, and the targets that
    `check_outbound_url(url, resolve=False)` lets pass. -/
structure Egress where
  publicMode : Bool
  outbound : String → Bool

/-- What `set_config` raises: a `ValueError` or a `PermissionError` with its text, or what a value
    of another type, or a refused target, makes raise on the way. -/
inductive ProxyError where
  | value (message : String)
  | permission (message : String)
  | other

/-! ## Changing the settings -/

section SetConfig

variable (py : Python)

/-- `s.rstrip("/")` -/
def rstripSlash (s : String) : String :=
  String.ofList (s.toList.reverse.dropWhile (· = '/')).reverse

/-- `str(o.get(k, default))` -/
def textAt (o : Object) (k : String) (default : String) : String :=
  match Assoc.get k o with
  | some v => py.toStr v
  | none => default

/-- `_parse_auth` -/
def parseAuth : Json → VendorAuth
  | .dict raw =>
    let authType := textAt py raw "type" "api_token"
    if authType = "oauth2" then
      .oauth2 (textAt py raw "client_id" "") (textAt py raw "client_secret" "")
        (textAt py raw "token_url" "")
    else if authType = "basic" then
      .basic (textAt py raw "username" "") (textAt py raw "password" "")
        (textAt py raw "api_key" "")
    else if authType = "hmac" then
      .hmac (textAt py raw "key_id" "") (textAt py raw "key_secret" "")
    else .apiToken (textAt py raw "token" "")
  | _ => .apiToken ""

variable (egress : Egress)

/-- `_check_target` -/
def checkTarget (url : String) : Except ProxyError Unit :=
  if url = "" ∨ egress.outbound url then .ok () else .error .other

/-- The target that a way of signing asks for a token. -/
def VendorAuth.tokenUrl : VendorAuth → String
  | .oauth2 _ _ url => url
  | _ => ""

/-- The settings of one vendor, as `set_config` reads them. -/
def readVendor (v : Object) : Except ProxyError VendorProxyConfig := do
  let vendorName := textAt py v "vendor" ""
  if vendorName ∉ VENDOR_NAMES then
    .error (.value ("Unknown vendor '" ++ vendorName ++ "'. Must be one of: ['cortex_xdr', "
      ++ "'crowdstrike', 'elastic', 'graph', 'mde', 's1', 'sentinel', 'splunk']"))
  else
    let auth := parseAuth py ((Assoc.get "auth" v).getD (.dict []))
    let vendorUrl := rstripSlash (textAt py v "base_url" "")
    checkTarget egress vendorUrl
    checkTarget egress auth.tokenUrl
    .ok ⟨vendorName, vendorUrl, auth, ((Assoc.get "enabled" v).getD (.bool true)).truthy⟩

/-- Put the settings of one vendor after another into those there are. -/
def readVendors (vendors : Dict String VendorProxyConfig) :
    List Object → Except ProxyError (Dict String VendorProxyConfig)
  | [] => .ok vendors
  | v :: rest => do
    let read ← readVendor py egress v
    readVendors (vendors.set read.vendor read) rest

/-- The token of a vendor signed for with one. -/
def tokenOf : Option VendorProxyConfig → String
  | some ⟨_, _, .apiToken token, _⟩ => token
  | _ => ""

/-- The upstream of a vendor that is configured. -/
def urlOf : Option VendorProxyConfig → String
  | some v => v.baseUrl
  | none => ""

/-- The flat settings of earlier releases, as those of the vendor they were for. -/
def readLegacy (vendors : Dict String VendorProxyConfig) (baseUrl apiToken : String) :
    Except ProxyError (Dict String VendorProxyConfig) :=
  if baseUrl = "" ∧ apiToken = "" then .ok vendors
  else do
    checkTarget egress (rstripSlash baseUrl)
    let url := if baseUrl = "" then urlOf (vendors.get "s1") else rstripSlash baseUrl
    let token := if apiToken = "" then tokenOf (vendors.get "s1") else apiToken
    .ok (vendors.set "s1" ⟨"s1", url, .apiToken token, true⟩)

/-- The settings with the flat ones made of the vendor's. -/
def withLegacy (mode : String) (vendors : Dict String VendorProxyConfig) : ProxyConfig :=
  ⟨mode, vendors, urlOf (vendors.get "s1"), tokenOf (vendors.get "s1")⟩

/-- `set_config` -/
def setConfig (current : ProxyConfig) (mode : Json) (vendors : List Object)
    (baseUrl apiToken : String) : Except ProxyError ProxyConfig :=
  match mode with
  | .str mode =>
    if mode ∉ VALID_MODES then
      .error (.value ("Invalid mode '" ++ mode
        ++ "'. Must be one of: ['off', 'record', 'replay']"))
    else if mode ≠ "off" ∧ egress.publicMode then
      .error (.permission "the recording proxy is disabled on a public instance (MOCKDR_PUBLIC)")
    else do
      let read ← readVendors py egress current.vendors vendors
      let read ← readLegacy egress read baseUrl apiToken
      .ok (withLegacy mode read)
  | .list _ => .error .other
  | .dict _ => .error .other
  | mode =>
    .error (.value ("Invalid mode '" ++ py.toStr mode
      ++ "'. Must be one of: ['off', 'record', 'replay']"))

end SetConfig

/-! ## The settings in a snapshot -/

/-- `record_dict` of a way of signing. -/
def VendorAuth.recordDict : VendorAuth → Object
  | .apiToken token => [("type", .str "api_token"), ("token", .str token)]
  | .oauth2 clientId clientSecret tokenUrl =>
    [("type", .str "oauth2"), ("client_id", .str clientId), ("client_secret", .str clientSecret),
      ("token_url", .str tokenUrl)]
  | .basic username password apiKey =>
    [("type", .str "basic"), ("username", .str username), ("password", .str password),
      ("api_key", .str apiKey)]
  | .hmac keyId keySecret =>
    [("type", .str "hmac"), ("key_id", .str keyId), ("key_secret", .str keySecret)]

/-- `record_dict` of the settings of a vendor. -/
def VendorProxyConfig.recordDict (v : VendorProxyConfig) : Object :=
  [("vendor", .str v.vendor), ("base_url", .str v.baseUrl), ("auth", .dict v.auth.recordDict),
    ("enabled", .bool v.enabled)]

/-- The settings of every vendor, as `record_dict` writes them. -/
def ProxyConfig.vendorDicts (cfg : ProxyConfig) : Object :=
  cfg.vendors.entries.map fun p => (p.1, .dict p.2.recordDict)

/-- `record_dict` of the settings. -/
def ProxyConfig.recordDict (cfg : ProxyConfig) : Object :=
  [("mode", .str cfg.mode), ("vendors", .dict cfg.vendorDicts), ("base_url", .str cfg.baseUrl),
    ("api_token", .str cfg.apiToken)]

/-- `_PROXY_SECRET_FIELDS` -/
def PROXY_SECRET_FIELDS : List String :=
  ["token", "client_secret", "password", "api_key", "key_secret"]

/-- Fill in the secrets that are not there from those that are in use. -/
def fillSecrets (currentAuth auth : Object) : Object :=
  PROXY_SECRET_FIELDS.foldl (fun auth secret =>
    if !(auth.get secret).truthy && (currentAuth.get secret).truthy then
      Assoc.set secret (currentAuth.get secret) auth
    else auth) auth

section Restore

variable (py : Python)

/-- `_keep_current_secrets` -/
def keepCurrentSecrets (vendor : Object) (current : Json) : Except ProxyError Object :=
  match current with
  | .dict (member :: members) =>
    let current : Object := member :: members
    if !Json.eq (current.get "base_url") (vendor.get "base_url") then .ok vendor
    else
      match py.toDict (vendor.get "auth") with
      | none => .error .other
      | some auth =>
        let currentAuth := (current.get "auth").fields
        if !Json.eq ((Assoc.get "type" auth).getD (currentAuth.get "type"))
            (currentAuth.get "type") then .ok vendor
        else .ok (Assoc.set "auth" (.dict (fillSecrets currentAuth auth)) vendor)
  | _ => .ok vendor

/-- The settings that are in use for the vendor a snapshot names:
    `current.get(vc.get("vendor"))`. -/
def currentVendor (current vc : Object) : Except ProxyError Json :=
  match vc.get "vendor" with
  | .str name => .ok (current.get name)
  | .list _ => .error .other
  | .dict _ => .error .other
  | _ => .ok .null

/-- The vendors of a snapshot, those of them that are objects. -/
def snapshotVendors (current : Object) : List (String × Json) → Except ProxyError (List Object)
  | [] => .ok []
  | (_, .dict vc) :: rest => do
    let inUse ← currentVendor current vc
    let kept ← keepCurrentSecrets py vc inUse
    let others ← snapshotVendors current rest
    .ok (kept :: others)
  | _ :: rest => snapshotVendors current rest

/-- The settings that a snapshot's lead to. -/
def snapshotConfig (egress : Egress) (cfg : ProxyConfig) (snapshot : Object) :
    Except ProxyError ProxyConfig :=
  match (Assoc.get "vendors" snapshot).getD (.dict []) with
  | .dict vendors => do
    let vendors ← snapshotVendors py cfg.vendorDicts vendors
    setConfig py egress cfg ((Assoc.get "mode" snapshot).getD (.str "off")) vendors "" ""
  | _ => .error .other

/-- Restore the settings of a snapshot; whatever is raised on the way leaves them as they are. -/
def restoreProxy (egress : Egress) (cfg : ProxyConfig) (snapshot : Json) : ProxyConfig :=
  match snapshot with
  | .dict (member :: members) =>
    match snapshotConfig py egress cfg (member :: members) with
    | .ok restored => restored
    | .error _ => cfg
  | _ => cfg

end Restore

/-! ## Settings that have been made -/

/-- The settings of a vendor under its name, as `set_config` leaves them. -/
structure SettledVendor (egress : Egress) (name : String) (v : VendorProxyConfig) : Prop where
  named : v.vendor = name
  known : name ∈ VENDOR_NAMES
  stripped : rstripSlash v.baseUrl = v.baseUrl
  target : checkTarget egress v.baseUrl = .ok ()
  tokenTarget : checkTarget egress v.auth.tokenUrl = .ok ()

/-- Settings as `set_config` leaves them. -/
structure Settled (egress : Egress) (cfg : ProxyConfig) : Prop where
  mode : cfg.mode ∈ VALID_MODES
  allowed : ¬ (cfg.mode ≠ "off" ∧ egress.publicMode)
  vendors : ∀ name v, cfg.vendors.get name = some v → SettledVendor egress name v
  legacy : withLegacy cfg.mode cfg.vendors = cfg

variable {py : Python} {egress : Egress}

lemma settledVendors_set {vendors : Dict String VendorProxyConfig} {key : String}
    {v : VendorProxyConfig} (h : ∀ name v, vendors.get name = some v → SettledVendor egress name v)
    (hv : SettledVendor egress key v) :
    ∀ name w, (vendors.set key v).get name = some w → SettledVendor egress name w := by
  intro name w hw
  rw [Dict.get_set] at hw
  split at hw
  · next hname =>
    cases hw
    rw [hname]
    exact hv
  · exact h name w hw

lemma rstripSlash_idem (s : String) : rstripSlash (rstripSlash s) = rstripSlash s := by
  simp only [rstripSlash, String.toList_ofList, List.reverse_reverse, List.dropWhile_idempotent]

lemma readVendor_settled {v : Object} {read : VendorProxyConfig}
    (h : readVendor py egress v = .ok read) : SettledVendor egress read.vendor read := by
  rw [readVendor] at h
  dsimp only at h
  split at h
  · cases h
  · next hknown =>
    obtain ⟨_, htarget, h⟩ := bind_eq_ok_iff.1 h
    obtain ⟨_, htoken, h⟩ := bind_eq_ok_iff.1 h
    cases h
    exact ⟨rfl, Decidable.not_not.1 hknown, rstripSlash_idem _, htarget, htoken⟩

lemma readVendors_settled {vendors read : Dict String VendorProxyConfig} {vs : List Object}
    (hvendors : ∀ name v, vendors.get name = some v → SettledVendor egress name v)
    (h : readVendors py egress vendors vs = .ok read) :
    ∀ name v, read.get name = some v → SettledVendor egress name v := by
  induction vs generalizing vendors with
  | nil =>
    cases h
    exact hvendors
  | cons v vs ih =>
    rw [readVendors] at h
    obtain ⟨one, hone, h⟩ := bind_eq_ok_iff.1 h
    exact ih (settledVendors_set hvendors (readVendor_settled hone)) h

lemma readLegacy_settled {vendors read : Dict String VendorProxyConfig} {baseUrl apiToken : String}
    (hvendors : ∀ name v, vendors.get name = some v → SettledVendor egress name v)
    (h : readLegacy egress vendors baseUrl apiToken = .ok read) :
    ∀ name v, read.get name = some v → SettledVendor egress name v := by
  rw [readLegacy] at h
  split at h
  · cases h
    exact hvendors
  · obtain ⟨_, htarget, h⟩ := bind_eq_ok_iff.1 h
    cases h
    refine settledVendors_set hvendors ⟨rfl, by decide, ?_, ?_, ?_⟩
    · dsimp only
      split
      · cases hs1 : vendors.get "s1" with
        | none => rfl
        | some v => exact (hvendors _ v hs1).stripped
      · exact rstripSlash_idem baseUrl
    · dsimp only
      split
      · cases hs1 : vendors.get "s1" with
        | none => exact if_pos (.inl rfl)
        | some v => exact (hvendors _ v hs1).target
      · exact htarget
    · exact if_pos (.inl rfl)

/-- A call of `set_config` that goes through leaves the settings settled. -/
lemma Settled.setConfig {cfg read : ProxyConfig} {mode : Json} {vendors : List Object}
    {baseUrl apiToken : String} (hcfg : Settled egress cfg)
    (h : setConfig py egress cfg mode vendors baseUrl apiToken = .ok read) :
    Settled egress read := by
  unfold Dev.setConfig at h
  split at h
  · split at h
    · cases h
    · next hmode =>
      split at h
      · cases h
      · next hallowed =>
        obtain ⟨vendors', hvendors, h⟩ := bind_eq_ok_iff.1 h
        obtain ⟨vendors'', hlegacy, h⟩ := bind_eq_ok_iff.1 h
        cases h
        exact ⟨Decidable.not_not.1 hmode, hallowed,
          readLegacy_settled (readVendors_settled hcfg.vendors hvendors) hlegacy, rfl⟩
  · cases h
  · cases h
  · cases h

/-- The settings a process can come to have. -/
inductive Configured (py : Python) (egress : Egress) : ProxyConfig → Prop where
  | off : Configured py egress .off
  | set {cfg read : ProxyConfig} {mode : Json} {vendors : List Object} {baseUrl apiToken : String}
      (hcfg : Configured py egress cfg)
      (h : setConfig py egress cfg mode vendors baseUrl apiToken = .ok read) :
      Configured py egress read

lemma Configured.settled {cfg : ProxyConfig} (h : Configured py egress cfg) :
    Settled egress cfg := by
  induction h with
  | off =>
    refine ⟨by decide, fun hoff => hoff.1 rfl, ?_, rfl⟩
    intro name v hv
    cases hv
  | set _ h ih => exact ih.setConfig h

/-! ## Exported settings are put back -/

lemma fillSecrets_self (auth : Object) : fillSecrets auth auth = auth := by
  have hstep : ∀ secrets : List String, secrets.foldl (fun a secret =>
      if !(Object.get a secret).truthy && (auth.get secret).truthy then
        Assoc.set secret (auth.get secret) a
      else a) auth = auth := by
    intro secrets
    induction secrets with
    | nil => rfl
    | cons secret secrets ih =>
      rw [List.foldl_cons, Bool.not_and_self, if_neg Bool.false_ne_true, ih]
  exact hstep PROXY_SECRET_FIELDS

lemma keepCurrentSecrets_self (v : VendorProxyConfig) :
    keepCurrentSecrets py v.recordDict (.dict v.recordDict) = .ok v.recordDict := by
  have hurl : Json.eq (Object.get v.recordDict "base_url") (Object.get v.recordDict "base_url")
      = true := decide_eq_true rfl
  have hauth : Object.get v.recordDict "auth" = .dict v.auth.recordDict := rfl
  have htype : Json.eq ((Assoc.get "type" v.auth.recordDict).getD
      (Object.get v.auth.recordDict "type")) (Object.get v.auth.recordDict "type") = true := by
    cases v.auth with
    | apiToken => rfl
    | oauth2 => rfl
    | basic => rfl
    | hmac => rfl
  have hset : Assoc.set "auth" (.dict v.auth.recordDict) v.recordDict = v.recordDict :=
    Assoc.set_of_get rfl
  rw [VendorProxyConfig.recordDict] at hurl hauth hset ⊢
  rw [keepCurrentSecrets, hurl, hauth]
  simp only [Bool.not_true, Bool.false_eq_true, if_false, Python.toDict, Json.fields, htype,
    fillSecrets_self, hset]

lemma textAt_str {o : Object} {k s default : String} (h : Assoc.get k o = some (.str s)) :
    textAt py o k default = s := by
  rw [textAt, h]
  rfl

lemma parseAuth_recordDict (auth : VendorAuth) : parseAuth py (.dict auth.recordDict) = auth := by
  cases auth with
  | apiToken => rfl
  | oauth2 => rfl
  | basic => rfl
  | hmac => rfl

lemma readVendor_recordDict {name : String} {v : VendorProxyConfig}
    (h : SettledVendor egress name v) : readVendor py egress v.recordDict = .ok v := by
  have hvendor : textAt py v.recordDict "vendor" "" = v.vendor := textAt_str rfl
  have hurl : textAt py v.recordDict "base_url" "" = v.baseUrl := textAt_str rfl
  have hauth : parseAuth py ((Assoc.get "auth" v.recordDict).getD (.dict [])) = v.auth :=
    parseAuth_recordDict v.auth
  have hknown : v.vendor ∈ VENDOR_NAMES := h.named ▸ h.known
  rw [readVendor]
  dsimp only
  rw [hvendor, hurl, hauth, if_neg (Decidable.not_not.2 hknown), h.stripped, h.target,
    h.tokenTarget]
  rfl

lemma get_vendorDicts {cfg : ProxyConfig} {name : String} {v : VendorProxyConfig}
    (h : (name, v) ∈ cfg.vendors.entries) :
    Object.get cfg.vendorDicts name = .dict v.recordDict := by
  have hkeys : (cfg.vendorDicts.map Prod.fst).Nodup := by
    rw [ProxyConfig.vendorDicts, List.map_map]
    exact cfg.vendors.nodup
  rw [Object.get, Assoc.get_of_mem hkeys (List.mem_map.2 ⟨_, h, rfl⟩)]
  rfl

lemma snapshotVendors_vendorDicts {cfg : ProxyConfig} (h : Settled egress cfg)
    {vendors : List (String × VendorProxyConfig)} (hsub : ∀ p ∈ vendors, p ∈ cfg.vendors.entries) :
    snapshotVendors py cfg.vendorDicts (vendors.map fun p => (p.1, .dict p.2.recordDict))
      = .ok (vendors.map fun p => p.2.recordDict) := by
  induction vendors with
  | nil => rfl
  | cons p vendors ih =>
    obtain ⟨name, v⟩ := p
    obtain ⟨hp, hrest⟩ := List.forall_mem_cons.1 hsub
    have hnamed := (h.vendors name v (Dict.mem_entries_iff.1 hp)).named
    have hcurrent : currentVendor cfg.vendorDicts v.recordDict = .ok (.dict v.recordDict) := by
      have hget : Object.get v.recordDict "vendor" = .str name := by
        rw [← hnamed]
        rfl
      rw [currentVendor, hget]
      exact congrArg Except.ok (get_vendorDicts hp)
    rw [List.map_cons, List.map_cons, snapshotVendors, hcurrent]
    refine bind_eq_ok_iff.2 ⟨_, rfl, bind_eq_ok_iff.2 ⟨_, keepCurrentSecrets_self v, ?_⟩⟩
    exact bind_eq_ok_iff.2 ⟨_, ih hrest, rfl⟩

lemma readVendors_recordDict {cfg : ProxyConfig} (h : Settled egress cfg)
    {vendors : List (String × VendorProxyConfig)} (hsub : ∀ p ∈ vendors, p ∈ cfg.vendors.entries) :
    readVendors py egress cfg.vendors (vendors.map fun p => p.2.recordDict) = .ok cfg.vendors := by
  induction vendors with
  | nil => rfl
  | cons p vendors ih =>
    obtain ⟨name, v⟩ := p
    obtain ⟨hp, hrest⟩ := List.forall_mem_cons.1 hsub
    have hget := Dict.mem_entries_iff.1 hp
    have hvendor := h.vendors name v hget
    have hsame : cfg.vendors.set v.vendor v = cfg.vendors := by
      rw [hvendor.named]
      exact Dict.set_of_get hget
    rw [List.map_cons, readVendors, readVendor_recordDict hvendor]
    change readVendors py egress (cfg.vendors.set v.vendor v) _ = _
    rw [hsame, ih hrest]

/-- Settled settings are as they were once their export has been put back. -/
theorem restoreProxy_recordDict {cfg : ProxyConfig} (h : Settled egress cfg) :
    restoreProxy py egress cfg (.dict cfg.recordDict) = cfg := by
  have hvendors : (Assoc.get "vendors" cfg.recordDict).getD (.dict []) = .dict cfg.vendorDicts :=
    rfl
  have hmode : (Assoc.get "mode" cfg.recordDict).getD (.str "off") = .str cfg.mode := rfl
  have hset : setConfig py egress cfg (.str cfg.mode)
      (cfg.vendors.entries.map fun p => p.2.recordDict) "" "" = .ok cfg := by
    rw [Dev.setConfig, if_neg (Decidable.not_not.2 h.mode), if_neg h.allowed,
      readVendors_recordDict h fun _ hp => hp]
    exact congrArg Except.ok h.legacy
  have hconfig : snapshotConfig py egress cfg cfg.recordDict = .ok cfg := by
    rw [snapshotConfig, hvendors, hmode]
    change (do
      let vendors ← snapshotVendors py cfg.vendorDicts cfg.vendorDicts
      Dev.setConfig py egress cfg (.str cfg.mode) vendors "" "") = _
    have hsnapshot : snapshotVendors py cfg.vendorDicts cfg.vendorDicts
        = .ok (cfg.vendors.entries.map fun p => p.2.recordDict) :=
      snapshotVendors_vendorDicts h fun _ hp => hp
    rw [hsnapshot]
    exact hset
  change (match snapshotConfig py egress cfg cfg.recordDict with
    | .ok restored => restored
    | .error _ => cfg) = cfg
  rw [hconfig]

end Dev

end Mockdr
