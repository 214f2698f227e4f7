import Mathlib.Data.Rat.Cast.Order
import Mockdr.Python

/-!
# The Elasticsearch token service

`POST` and `DELETE /_security/oauth2/token` (`api/routers/es_auth.py`), and the check of an access
token (`api/es_auth.py`).

* `readGrant` and `readInvalidation` are what `create_token` and `invalidate_token` make of a body.
* `mint`, `refresh`, `invalidateAll`, `reapTokens` are what is done to the two collections of
  tokens.
* `Action.call` is what a request asks for and `handle` answers it; `tokenValid` is `token_user`.

The tokens that are drawn are part of the request, and a request reads the clock once. No collection
is at its cap.
-/

namespace Mockdr

namespace EsAuth

/-- `TOKEN_LIFETIME_SECONDS` -/
def TOKEN_LIFETIME_SECONDS : ℚ := 1200

/-- `_REFRESH_REUSE_SECONDS` -/
def REFRESH_REUSE_SECONDS : ℚ := 30

/-- `TOKEN_DOCUMENT_LIFETIME_SECONDS` -/
def TOKEN_DOCUMENT_LIFETIME_SECONDS : ℚ := 24 * 3600

/-- A user, as a header or a body has authenticated it. -/
structure Caller where
  user : String
  role : String
  deriving DecidableEq

/-- A record of `es_tokens`. -/
structure TokenRecord where
  caller : Caller
  createdAt : ℚ
  expiresAt : ℚ
  invalidated : Bool

/-- What a grant answers. -/
structure Granted where
  accessToken : String
  refreshToken : Option String
  authentication : Caller
  deriving DecidableEq

/-- A record of `es_refresh_tokens`; `refreshed` is `refreshed_at` and `superseded_by`, which are
    written together. -/
structure RefreshRecord where
  caller : Caller
  accessToken : String
  createdAt : ℚ
  invalidated : Bool
  refreshed : Option (ℚ × Granted)

/-- The two collections. -/
structure Store where
  tokens : Dict String TokenRecord
  refreshTokens : Dict String RefreshRecord

/-- No token has been granted. -/
def Store.init : Store := ⟨.empty, .empty⟩

/-- How a request is refused. -/
inductive Refusal where
  | oauthError (error description : String)
  | unauthorized (reason : String)
  | badRequest (message : String)
  | raised
  deriving DecidableEq

/-- What a request answers. -/
inductive Response where
  | granted (response : Granted)
  | refused (refusal : Refusal)
  | invalidation (invalidated previously status : Nat)
  | reaped (removed : Nat)
  deriving DecidableEq

/-- The tokens that a grant draws. -/
structure Drawn where
  accessToken : String
  refreshToken : String
  deriving DecidableEq

/-! ## The collections -/

/-- `_mint` -/
def mint (now : ℚ) (drawn : Drawn) (caller : Caller) (withRefresh : Bool) (s : Store) :
    Store × Granted :=
  let record : TokenRecord := ⟨caller, now, now + TOKEN_LIFETIME_SECONDS, false⟩
  let tokens := s.tokens.set drawn.accessToken record
  if withRefresh then
    (⟨tokens, s.refreshTokens.set drawn.refreshToken
        ⟨caller, drawn.accessToken, now, false, none⟩⟩,
      ⟨drawn.accessToken, some drawn.refreshToken, caller⟩)
  else (⟨tokens, s.refreshTokens⟩, ⟨drawn.accessToken, none, caller⟩)

/-- What a refresh makes of the record of its token. -/
inductive Verdict where
  | refused (description : String)
  | again (response : Granted)
  | first

/-- The checks of `_refresh`. -/
def RefreshRecord.verdict (now : ℚ) (record : RefreshRecord) : Verdict :=
  if record.invalidated then .refused "token has been invalidated"
  else if record.createdAt + TOKEN_DOCUMENT_LIFETIME_SECONDS < now then
    .refused "token document has expired"
  else
    match record.refreshed with
    | some (refreshedAt, supersededBy) =>
      if refreshedAt + REFRESH_REUSE_SECONDS < now then
        .refused "token has already been refreshed more than 30 seconds in the past"
      else .again supersededBy
    | none => .first

/-- `_refresh` -/
def refresh (now : ℚ) (drawn : Drawn) (refreshToken : String) (s : Store) : Store × Response :=
  match s.refreshTokens.get refreshToken with
  | none => (s, .refused (.oauthError "invalid_grant" "could not refresh the requested token"))
  | some record =>
    match record.verdict now with
    | .refused description => (s, .refused (.oauthError "invalid_grant" description))
    | .again response => (s, .granted response)
    | .first =>
      let minted := mint now drawn record.caller true s
      ({ minted.1 with
          refreshTokens := minted.1.refreshTokens.set refreshToken
            { record with refreshed := some (now, minted.2) } },
        .granted minted.2)

/-- A user's tokens, or everyone's. -/
def covers (username : Option String) (caller : Caller) : Bool :=
  username = none || username = some caller.user

/-- `_invalidate_all` -/
def invalidateAll (username : Option String) (s : Store) : Store × Response :=
  let covered := (s.tokens.entries.map Prod.snd).filter fun record => covers username record.caller
  (⟨s.tokens.mapValues fun record =>
      if covers username record.caller then { record with invalidated := true } else record,
    s.refreshTokens.mapValues fun record =>
      if covers username record.caller then { record with invalidated := true } else record⟩,
    .invalidation (covered.countP fun record => !record.invalidated)
      (covered.countP fun record => record.invalidated) 200)

/-- Invalidate one access token. -/
def invalidateAccess (key : String) (s : Store) : Store × Response :=
  match s.tokens.get key with
  | none => (s, .invalidation 0 0 404)
  | some record =>
    if record.invalidated then (s, .invalidation 0 1 200)
    else ({ s with tokens := s.tokens.set key { record with invalidated := true } },
      .invalidation 1 0 200)

/-- Invalidate one refresh token. -/
def invalidateRefresh (key : String) (s : Store) : Store × Response :=
  match s.refreshTokens.get key with
  | none => (s, .invalidation 0 0 404)
  | some record =>
    if record.invalidated then (s, .invalidation 0 1 200)
    else ({ s with refreshTokens := s.refreshTokens.set key { record with invalidated := true } },
      .invalidation 1 0 200)

/-- `reap_tokens` -/
def reapTokens (now : ℚ) (s : Store) : Store × Response :=
  let tokens := s.tokens.filter fun p => now ≤ p.2.createdAt + TOKEN_DOCUMENT_LIFETIME_SECONDS
  let refreshTokens :=
    s.refreshTokens.filter fun p => now ≤ p.2.createdAt + TOKEN_DOCUMENT_LIFETIME_SECONDS
  (⟨tokens, refreshTokens⟩,
    .reaped (s.tokens.size - tokens.size + (s.refreshTokens.size - refreshTokens.size)))

/-- `token_spent` -/
def TokenRecord.spent (now : ℚ) (record : TokenRecord) : Bool :=
  record.invalidated || record.expiresAt ≤ now

/-- An access token stands for a caller (`token_user`). -/
def tokenValid (s : Store) (now : ℚ) (accessToken : String) : Bool :=
  match s.tokens.get accessToken with
  | none => false
  | some record => !record.spent now

/-! ## The bodies -/

variable (py : Python)

/-- `_validation_problems` -/
def validationProblems (grant : Option String) (body : Object) : List String :=
  let unsupported (grant : String) (fields : List String) :=
    (fields.filter fun field => !(Object.get body field matches .null)).map fun field =>
      field ++ " is not supported with the " ++ grant ++ " grant_type"
  let required (fields : List String) :=
    (fields.filter fun field => !(Object.get body field).truthy).map (· ++ " is missing")
  match grant with
  | some "password" =>
    unsupported "password" ["kerberos_ticket", "refresh_token"]
      ++ required ["username", "password"]
  | some "refresh_token" =>
    unsupported "refresh_token" ["username", "password", "kerberos_ticket"]
      ++ required ["refresh_token"]
  | some "client_credentials" =>
    unsupported "client_credentials" ["username", "password", "kerberos_ticket", "refresh_token"]
  | some "_kerberos" =>
    unsupported "_kerberos" ["username", "password", "refresh_token"]
      ++ required ["kerberos_ticket"]
  | _ =>
    ["grant_type only supports the values: "
      ++ "[password, _kerberos, refresh_token, client_credentials]"]

/-- `_validation_message` -/
def validationMessage (problems : List String) : String :=
  "Validation Failed: " ++
    String.join (problems.zipIdx.map fun (problem, i) => toString (i + 1) ++ ": " ++ problem ++ ";")

/-- `hmac.compare_digest` of two texts, nothing where it raises. -/
def compareDigest (a b : String) : Option Bool :=
  if a.toList.all (·.toNat < 128) && b.toList.all (·.toNat < 128) then some (a = b) else none

/-- What a grant that is in order asks for. -/
inductive Grant where
  | mint (caller : Caller) (withRefresh : Bool)
  | refresh (refreshToken : String)

/-- A user of the service: the password and the role. -/
structure User where
  password : String
  role : String

variable (users : String → Option User)

/-- `unable to authenticate user` -/
def unauthenticated (user : String) : Refusal :=
  .unauthorized ("unable to authenticate user [" ++ user
    ++ "] for action [cluster:admin/xpack/security/token/create]")

/-- `create_token`, up to the grant. -/
def readGrant (caller : Caller) (body : Object) : Except Refusal Grant :=
  let grant := match Object.get body "grant_type" with
    | .null => none
    | v => some (py.toStr v)
  let problems := validationProblems grant body
  if problems ≠ [] then
    let error := if problems.any (hasSub "grant_type") then "unsupported_grant_type"
      else "invalid_request"
    .error (.oauthError error (validationMessage problems))
  else if grant = some "password" then
    let username := py.toStr (Object.get body "username")
    match users username with
    | none => .error (unauthenticated username)
    | some user =>
      match compareDigest user.password (py.toStr (Object.get body "password")) with
      | none => .error .raised
      | some false => .error (unauthenticated username)
      | some true => .ok (.mint ⟨username, user.role⟩ true)
  else if grant = some "client_credentials" then .ok (.mint caller false)
  else if grant = some "refresh_token" then
    .ok (.refresh (py.toStr (Object.get body "refresh_token")))
  else .error (unauthenticated "_kerberos")

/-- What a request to invalidate names. -/
inductive Target where
  | access (key : String)
  | refresh (key : String)
  | all (username : Option String)
  deriving DecidableEq

/-- `invalidate_token`, up to what it names. -/
def readInvalidation (body : Object) : Except Refusal Target :=
  let token := Object.get body "token"
  let refreshToken := Object.get body "refresh_token"
  let username := Object.get body "username"
  if username.truthy || (Object.get body "realm_name").truthy then
    if token.truthy || refreshToken.truthy then
      .error (.badRequest (validationMessage
        ["token string must not be provided when realm name or username is specified"]))
    else .ok (.all (if username.truthy then some (py.toStr username) else none))
  else if token.truthy then .ok (.access (py.toStr token))
  else if refreshToken.truthy then .ok (.refresh (py.toStr refreshToken))
  else .error (.badRequest (validationMessage
    ["token string must be provided when not specifying a realm name or a username"]))

/-! ## Requests -/

/-- A request. -/
inductive Request where
  | create (caller : Caller) (body : Object) (drawn : Drawn)
  | invalidate (body : Object)
  | reap

/-- A request and when it is made. -/
structure Action where
  now : ℚ
  request : Request

/-- What a request that is in order does. -/
inductive Call where
  | mint (caller : Caller) (withRefresh : Bool) (drawn : Drawn)
  | refresh (refreshToken : String) (drawn : Drawn)
  | invalidate (target : Target)
  | reap

/-- What a request does, or its refusal. -/
def Action.call (a : Action) : Except Refusal Call :=
  match a.request with
  | .create caller body drawn =>
    (readGrant py users caller body).map fun grant =>
      match grant with
      | .mint caller withRefresh => .mint caller withRefresh drawn
      | .refresh refreshToken => .refresh refreshToken drawn
  | .invalidate body => (readInvalidation py body).map .invalidate
  | .reap => .ok .reap

/-- Do what a request asks for. -/
def perform (now : ℚ) (s : Store) : Call → Store × Response
  | .mint caller withRefresh drawn =>
    let minted := mint now drawn caller withRefresh s
    (minted.1, .granted minted.2)
  | .refresh refreshToken drawn => refresh now drawn refreshToken s
  | .invalidate (.access key) => invalidateAccess key s
  | .invalidate (.refresh key) => invalidateRefresh key s
  | .invalidate (.all username) => invalidateAll username s
  | .reap => reapTokens now s

/-- Answer a request. -/
def handle (s : Store) (a : Action) : Store × Response :=
  match a.call py users with
  | .error refusal => (s, .refused refusal)
  | .ok call => perform a.now s call

/-- What a request leaves of the collections. -/
def step (s : Store) (a : Action) : Store := (handle py users s a).1

end EsAuth

end Mockdr
