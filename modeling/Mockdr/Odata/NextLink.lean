import Mockdr.Lib.Base64
import Mockdr.Lib.QueryString
import Mockdr.Numerals

/-!
# The link to the next page

`utils/odata_paging.py` and `utils/next_link.py`, and a collection that is paged with them, such as
`list_machine_actions` of `application/mde_machine_actions/queries.py`.

* `withCursor` drops the page cursors of a URL and appends one.
* `pageLink` is the link of a page that is not the last one, `pageOffset` what the router of a
  collection reads of a request: `$skip`, or for directory objects `$skiptoken`.
* `Collection.list` answers a request: a page of its records, and the link.

What a collection reads of a request besides `$top` and the page cursor (its filter, its order) is
part of `Collection.records`.
-/

namespace Mockdr

namespace OdataPaging

/-- The built-ins of the page cursors. -/
structure PagingPython extends Python where
  digit_ascii : toPython.AsciiDigits
  lower_ascii : ∀ s : String, (∀ c ∈ s.toList, c.toNat < 128) →
    lower s = String.ofList (s.toList.map Char.toLower)
  /-- what the framework reads for a parameter of type `int`; nothing where it refuses it -/
  int : String → Option Int
  int_str : ∀ n : Nat, n ≤ MAXSIZE → int (toString (n : Int)) = some (n : Int)

/-- The built-ins on ASCII text: what the concrete runs of this development compute with. -/
def asciiPagingPython : PagingPython where
  toPython := asciiPython
  digit_ascii _ hc := if_pos hc
  lower_ascii _ _ := rfl
  int := asciiPython.parseInt
  int_str _ h := parseInt_toString (fun _ hc => if_pos hc) (length_toDigits_le h)

/-- `urlsplit(url)` -/
structure Url where
  scheme : String
  netloc : String
  path : String
  query : String
  fragment : String
  deriving DecidableEq

/-- The parameters of a query string, names and values in their order. -/
abbrev QueryParams := List (String × String)

/-- `parse_qsl(query, keep_blank_values=True)` -/
def parseQsl (query : String) : QueryParams :=
  (QueryString.parseQsl query.toList).map fun p => (String.ofList p.1, String.ofList p.2)

/-- `urlencode(params, safe=safe)` -/
def urlencode (params : QueryParams) (safe : String) : String :=
  String.ofList (QueryString.urlencodePairs safe.toList
    (params.map fun p => (p.1.toList, p.2.toList)))

/-! ## `next_link.py` -/

/-- `with_cursor` -/
def withCursor (url : Url) (cursor value : String) (replaces : String → Bool) (safe : String) :
    Url :=
  let params := (parseQsl url.query).filter fun p => !replaces p.1
  { url with query := urlencode (params ++ [(cursor, value)]) safe }

/-! ## `odata_paging.py` -/

/-- The page cursor of a collection: `$skiptoken` for directory objects. -/
inductive Cursor where
  | skip
  | skiptoken
  deriving DecidableEq

/-- `SKIP` -/
def SKIP : String := "$skip"

/-- `SKIPTOKEN` -/
def SKIPTOKEN : String := "$skiptoken"

/-- The name of a page cursor. -/
def Cursor.name : Cursor → String
  | .skip => SKIP
  | .skiptoken => SKIPTOKEN

/-- Whether a parameter is named in `_CURSORS`. -/
def isCursor (py : Python) (key : String) : Bool :=
  py.lower key ∈ [py.lower SKIP, py.lower SKIPTOKEN]

/-- `_TOKEN_PREFIX` -/
def TOKEN_PREFIX : String := "mockdr-page:"

/-- `encode_skiptoken` -/
def encodeSkiptoken (offset : Nat) : String :=
  let raw := QueryString.encodeUtf8 (TOKEN_PREFIX ++ toString (offset : Int)).toList
  String.ofList (Base64.stripPad (Base64.urlsafeEncode raw))

/-- `bytes.decode()`; nothing where they are not UTF-8. -/
def decodeStrict (bytes : List UInt8) : Option String :=
  let text := QueryString.decodeUtf8 bytes
  if QueryString.encodeUtf8 text = bytes then some (String.ofList text) else none

/-- `decode_skiptoken`; nothing for a token that was not issued. -/
def decodeSkiptoken (py : Python) (token : String) : Option Nat := do
  let bytes ← Base64.urlsafeDecode (Base64.pad token.toList)
  let raw ← decodeStrict bytes
  let number ← cutPrefix TOKEN_PREFIX raw
  match ← py.parseInt number with
  | .ofNat offset => some offset
  | .negSucc _ => none

/-- `page_link` -/
def pageLink (py : Python) (requestUrl : Option Url) (nextOffset total : Nat) (fallback : Url)
    (cursor : Cursor) : Option Url :=
  if total ≤ nextOffset then none
  else
    let value := match cursor with
      | .skiptoken => encodeSkiptoken nextOffset
      | .skip => toString (nextOffset : Int)
    some (withCursor (requestUrl.getD fallback) cursor.name value (isCursor py) "$")

/-- Why a request is refused. -/
inductive PageError where
  /-- `$skip` of a directory collection -/
  | skipNotSupported
  /-- a token that was not issued -/
  | invalidToken
  /-- `422`: a parameter that is no number, or out of bounds -/
  | unprocessable
  deriving DecidableEq

/-- The loop of `directory_page_offset`: the last token, unless `$skip` comes first. -/
def directoryToken (py : Python) (token : String) : QueryParams → Except PageError String
  | [] => .ok token
  | (key, value) :: rest =>
    if py.lower key = SKIP then .error .skipNotSupported
    else directoryToken py (if py.lower key = SKIPTOKEN then value else token) rest

/-- `directory_page_offset` -/
def directoryPageOffset (py : Python) (params : QueryParams) : Except PageError Nat := do
  let token ← directoryToken py "" params
  if token = "" then return 0
  match decodeSkiptoken py token with
  | some offset => return offset
  | none => throw .invalidToken

/-! ## The routers -/

/-- `request.query_params[name]`: the last value of a parameter. -/
def lastValue (name : String) (params : QueryParams) : Option String :=
  (params.reverse.find? (·.1 = name)).map Prod.snd

/-- `Query(default, alias=name, ge=least, le=most)` of a parameter of type `int`. -/
def queryInt (py : PagingPython) (name : String) (default least : Nat) (most : Option Nat)
    (params : QueryParams) : Except PageError Nat :=
  match lastValue name params with
  | none => .ok default
  | some value =>
    match py.int value with
    | some (.ofNat n) => if least ≤ n ∧ most.all (n ≤ ·) then .ok n else .error .unprocessable
    | _ => .error .unprocessable

/-- Where a page starts. -/
def pageOffset (py : PagingPython) (cursor : Cursor) (params : QueryParams) :
    Except PageError Nat :=
  match cursor with
  | .skip => queryInt py SKIP 0 0 none params
  | .skiptoken => directoryPageOffset py.toPython params

/-- A collection: its page cursor, the bounds of `$top`, and the records that a request asks for,
    filtered and ordered. A list holds `sys.maxsize` elements at most. -/
structure Collection (α : Type) where
  cursor : Cursor
  defaultTop : Nat
  one_le_defaultTop : 1 ≤ defaultTop
  maxTop : Option Nat
  fallback : Nat → Url
  records : QueryParams → List α
  length_records : ∀ params, (records params).length ≤ MAXSIZE

/-- `$top` -/
def Collection.top {α : Type} (c : Collection α) (py : PagingPython) (params : QueryParams) :
    Except PageError Nat :=
  queryInt py "$top" c.defaultTop 1 c.maxTop params

/-- `list_machine_actions`, of a list of records. -/
def listMachineActions {α : Type} (records : QueryParams → List α)
    (length_records : ∀ params, (records params).length ≤ MAXSIZE) : Collection α where
  cursor := .skip
  defaultTop := 50
  one_le_defaultTop := by decide
  maxTop := some 10000
  fallback top := ⟨"https", "api.security.microsoft.com", "/api/machineactions",
    "$top=" ++ toString top, ""⟩
  records := records
  length_records := length_records

/-- `list_users`, of a list of records. -/
def listUsers {α : Type} (records : QueryParams → List α)
    (length_records : ∀ params, (records params).length ≤ MAXSIZE) : Collection α where
  cursor := .skiptoken
  defaultTop := 100
  one_le_defaultTop := by decide
  maxTop := some 999
  fallback _ := ⟨"https", "graph.microsoft.com", "/v1.0/users", "", ""⟩
  records := records
  length_records := length_records

/-- The parameters of a request that are no page cursors. -/
def question (py : Python) (url : Url) : QueryParams :=
  (parseQsl url.query).filter fun p => !isCursor py p.1

/-- A page. -/
structure Page (α : Type) where
  value : List α
  nextLink : Option Url
  deriving DecidableEq

/-- A request for a page, such as `list_machine_actions`. -/
def Collection.list {α : Type} (c : Collection α) (py : PagingPython) (url : Url) :
    Except PageError (Page α) := do
  let params := parseQsl url.query
  let skip ← pageOffset py c.cursor params
  let top ← c.top py params
  let records := c.records (question py.toPython url)
  return ⟨(records.drop skip).take top,
    pageLink py.toPython (some url) (skip + top) records.length (c.fallback top) c.cursor⟩

/-- What a client reads that follows the links until there is none, in so many requests at most: the
    records and the links. Nothing if it is refused, or has not come to an end. -/
def Collection.walk {α : Type} (c : Collection α) (py : PagingPython) :
    Nat → Url → Option (List α × List Url)
  | 0, _ => none
  | requests + 1, url =>
    match c.list py url with
    | .error _ => none
    | .ok ⟨value, none⟩ => some (value, [])
    | .ok ⟨value, some link⟩ =>
      (c.walk py requests link).map fun rest => (value ++ rest.1, link :: rest.2)

end OdataPaging

end Mockdr
