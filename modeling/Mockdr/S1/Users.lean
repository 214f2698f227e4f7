import Mockdr.Equality

/-!
# SentinelOne users and their API tokens

The commands of `application/users/commands.py`, and `require_auth` of `api/auth.py`, which reads
what they write.

* `User` holds its current token, `TokenRecord` a copy of the user's role.
* `syncTokenRole`, `deleteToken` keep the one in step with the other.
* `Action` is a request, `step` what it leaves.

Users are stored under their ids and records under their tokens. What is drawn and the time are part
of the request.
-/

namespace Mockdr

namespace Users

/-- `User`, its other attributes by their names. -/
structure User where
  id : String
  email : Json
  fullName : Json
  role : Json
  lowestRole : Json
  accountId : String
  attributes : Object
  apiToken : String

/-- The record of a token. -/
structure TokenRecord where
  token : String
  userId : String
  role : Json
  email : Json
  fullName : Json
  accountId : String
  expiresAt : String

/-- The users and the tokens, and the accounts by their ids and names. -/
structure Store where
  users : Dict String User
  tokens : Dict String TokenRecord
  accounts : List (String × String)

/-- The reading of dates. -/
structure DatePython where
  /-- `datetime.strptime(s, "%Y-%m-%dT%H:%M:%S.%fZ")` in microseconds, nothing where it raises -/
  strptime : String → Option Int

variable (py : DatePython)

/-! ## Tokens -/

/-- What is drawn for a new token, and when it expires. -/
structure Drawn where
  token : String
  expiresAt : String

/-- `_delete_token` -/
def deleteToken (token : String) (tokens : Dict String TokenRecord) : Dict String TokenRecord :=
  if token = "" then tokens else tokens.erase token

/-- The record that is made for a user. -/
def recordOf (drawn : Drawn) (user : User) : TokenRecord where
  token := drawn.token
  userId := user.id
  role := user.role
  email := user.email
  fullName := user.fullName
  accountId := user.accountId
  expiresAt := drawn.expiresAt

/-- `_sync_token_role` -/
def syncTokenRole (user : User) (tokens : Dict String TokenRecord) : Dict String TokenRecord :=
  if user.apiToken = "" then tokens
  else
    match tokens.get user.apiToken with
    | none => tokens
    | some record => tokens.set user.apiToken { record with role := user.role }

/-! ## Users -/

/-- The ids that are drawn for a new user. -/
structure Ids where
  uid : String
  roleId : String
  scopeRoleId : String
  now : String

/-- The user that `create_user` makes. -/
def newUser (ids : Ids) (drawn : Drawn) (data : Object) (accounts : List (String × String)) :
    User :=
  let role := arg data "role" (.str "Viewer")
  let account := accounts.head?.getD ("", "Acme Corp Security")
  { id := ids.uid
    email := arg data "email" (.str "")
    fullName := arg data "fullName" (.str "")
    role := role
    lowestRole := role
    accountId := account.1
    attributes :=
      [("source", .str "mgmt"), ("twoFaEnabled", arg data "twoFaEnabled" (.bool false)),
        ("twoFaConfigured", .bool false), ("twoFaStatus", .str "not_configured"),
        ("twoFaEnabledReadOnly", .bool false), ("primaryTwoFaMethod", .str "application"),
        ("dateJoined", .str ids.now), ("lastLogin", .str ids.now), ("firstLogin", .null),
        ("scope", arg data "scope" (.str "tenant")), ("emailVerified", .bool true),
        ("emailReadOnly", .bool false), ("fullNameReadOnly", .bool false),
        ("groupsReadOnly", .bool false), ("canGenerateApiToken", .bool true),
        ("allowRemoteShell", .bool (arg data "allowRemoteShell" (.bool false)).truthy),
        ("isSystem", .bool false),
        ("scopeRoles", arg data "scopeRoles" (.list [.dict [("id", .str ids.scopeRoleId),
          ("roleId", .str ids.roleId), ("roleName", role), ("roles", .list [role])]])),
        ("siteRoles", arg data "siteRoles" (.list [])),
        ("tenantRoles", arg data "tenantRoles" (.list [])), ("apiToken", .null),
        ("accountName", .str account.2)]
    apiToken := drawn.token }

/-- `create_user` -/
def createUser (ids : Ids) (drawn : Drawn) (data : Object) (s : Store) : Store :=
  let user := newUser ids drawn data s.accounts
  { s with
    users := s.users.set user.id user
    tokens := s.tokens.set drawn.token (recordOf drawn user) }

/-- The attributes that `update_user` writes, but those that have a place of their own. -/
def updatable : List String :=
  ["scope", "twoFaEnabled", "allowRemoteShell", "canGenerateApiToken", "siteRoles", "tenantRoles"]

/-- A user with the members that a body names. -/
def User.updated (data : Object) (user : User) : User :=
  { user with
    fullName := arg data "fullName" user.fullName
    email := arg data "email" user.email
    role := arg data "role" user.role
    lowestRole := arg data "role" user.lowestRole
    attributes := updatable.foldl (fun attributes name =>
      match Assoc.get name data with
      | some v => Assoc.set name v attributes
      | none => attributes) user.attributes }

/-- `update_user` -/
def updateUser (userId : String) (data : Object) (s : Store) : Store :=
  match s.users.get userId with
  | none => s
  | some user =>
    let user := user.updated data
    { s with
      users := s.users.set user.id user
      tokens := if data.has "role" then syncTokenRole user s.tokens else s.tokens }

/-- `delete_user` -/
def deleteUser (userId : String) (s : Store) : Store :=
  match s.users.get userId with
  | none => s
  | some user =>
    { s with users := s.users.erase userId, tokens := deleteToken user.apiToken s.tokens }

/-- `bulk_delete_users`, of the users that a filter selects -/
def bulkDeleteUsers (ids : List String) (s : Store) : Store :=
  ids.foldl (fun s uid => deleteUser uid s) s

/-- `generate_api_token` -/
def generateApiToken (userId : String) (drawn : Drawn) (s : Store) : Store :=
  match s.users.get userId with
  | none => s
  | some old =>
    let user := { old with apiToken := drawn.token }
    { s with
      users := s.users.set user.id user
      tokens := (deleteToken old.apiToken s.tokens).set drawn.token
        { recordOf drawn user with userId := userId } }

/-! ## Authorisation -/

/-- `is_token_expired` -/
def isTokenExpired (now : Int) (record : TokenRecord) : Bool :=
  if record.expiresAt = "" then true
  else
    match py.strptime record.expiresAt with
    | some expiry => expiry < now
    | none => true

/-- `require_auth`, nothing where it refuses -/
def requireAuth (now : Int) (authorization : Option String) (s : Store) : Option TokenRecord := do
  let token ← cutPrefix "ApiToken " (← authorization)
  let record ← s.tokens.get token
  if isTokenExpired py now record then none else some record

/-! ## Requests -/

/-- A request that writes. -/
inductive Action where
  | createUser (ids : Ids) (drawn : Drawn) (data : Object)
  | updateUser (userId : String) (data : Object)
  | deleteUser (userId : String)
  | bulkDeleteUsers (ids : List String)
  | generateApiToken (userId : String) (drawn : Drawn)

/-- What a request leaves. -/
def step (s : Store) : Action → Store
  | .createUser ids drawn data => createUser ids drawn data s
  | .updateUser userId data => updateUser userId data s
  | .deleteUser userId => deleteUser userId s
  | .bulkDeleteUsers ids => bulkDeleteUsers ids s
  | .generateApiToken userId drawn => generateApiToken userId drawn s

end Users

end Mockdr
