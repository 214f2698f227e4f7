import Mathlib
import Mockdr.Dev.Import

/-!
# Kibana cases

The commands of `application/es_cases/commands.py` and the routes of `api/routers/es_cases.py` that
write cases and their comments.

* `nextVersion` is `_next_version`, the token that a write leaves behind.
* `Action` is a request, of a `PATCH` one of its entries; `handle` is what it answers and leaves in
  the store. `updateCases` is the loop over the entries.

An id that is drawn and the time are part of the request.
-/

namespace Mockdr

namespace EsCases

/-- The built-ins of the cases. -/
structure CasePython extends Python where
  /-- the value of an ASCII digit -/
  digit_ascii : ∀ c : Char, c.isDigit = true → digit c = some (c.toNat - 48)

lemma digit_of_isDigit (c : Char) (hc : c.isDigit = true) :
    asciiPython.digit c = some (c.toNat - 48) := if_pos hc

/-- The built-ins on ASCII text: what the concrete runs of this development compute with. -/
def asciiCasePython : CasePython where
  toPython := asciiPython
  digit_ascii := digit_of_isDigit

/-- `EsCase`, its other attributes by their names. -/
structure EsCase where
  version : String
  total_comment : Nat
  attributes : Object

/-- `EsCaseComment`, its other attributes by their names. -/
structure EsCaseComment where
  case_id : String
  version : String
  attributes : Object

/-- The cases and the comments. -/
structure Store where
  cases : Dict String EsCase
  comments : Dict String EsCaseComment

variable (py : CasePython)

/-! ## Versions -/

/-- `text.strip("[]")` -/
def stripBrackets (text : List Char) : List Char :=
  ((text.dropWhile (· ∈ ['[', ']'])).reverse.dropWhile (· ∈ ['[', ']'])).reverse

/-- The sequence number of a token and the text behind it, nothing where the token cannot be
    read. -/
def readToken (token : String) : Option (Int × String) := do
  let bytes ← Dev.b64decode token
  let decoded ← String.fromUTF8? ⟨bytes.toArray⟩
  let (sequence, primary) := partition ',' (String.ofList (stripBrackets decoded.toList))
  let n ← py.parseInt sequence
  some (n, strip primary)

/-- `f"[{n},{primary}]"`, nothing where the number has more digits than `str` writes. -/
def writeToken (n : Int) (primary : String) : Option String :=
  if (Nat.toDigits 10 n.natAbs).length ≤ 4300 then some ("[" ++ toString n ++ "," ++ primary ++ "]")
  else none

/-- `base64.b64encode(text.encode()).decode()` -/
def encodeToken (text : String) : String :=
  String.ofList (Base64.encode text.toByteArray.data.toList)

/-- `_next_version` -/
def nextVersion (current : String) : String :=
  let next := (readToken py current).bind fun (n, primary) =>
    writeToken (n + 1) (if primary = "" then "1" else primary)
  encodeToken (next.getD "[1,1]")

/-- The version of a record that was not written since it was made. -/
def initialVersion : String := "WzEsMV0="

/-! ## Commands -/

/-- `KIBANA_USER` -/
def KIBANA_USER : Json :=
  .dict [("email", .null), ("full_name", .null), ("username", .str "elastic")]

/-- `data.get(name, default)` -/
def arg (data : Object) (name : String) (default : Json) : Json :=
  (Assoc.get name data).getD default

/-- `create_case` -/
def createCase (id now : String) (data : Object) (s : Store) : Store :=
  let connector := .dict [("id", .str "none"), ("name", .str "none"), ("type", .str ".none"),
    ("fields", .null)]
  let made : EsCase :=
    { version := initialVersion
      total_comment := 0
      attributes :=
        [("title", arg data "title" (.str "")), ("description", arg data "description" (.str "")),
          ("status", arg data "status" (.str "open")),
          ("severity", arg data "severity" (.str "low")),
          ("tags", arg data "tags" (.list [])), ("connector", arg data "connector" connector),
          ("settings", arg data "settings" (.dict [("syncAlerts", .bool true)])),
          ("owner", arg data "owner" (.str "securitySolution")),
          ("assignees", arg data "assignees" (.list [])), ("created_at", .str now),
          ("created_by", arg data "created_by" KIBANA_USER)] }
  { s with cases := s.cases.set id made }

/-- The attributes that an update writes. -/
def updatable : List String :=
  ["title", "description", "status", "severity", "tags", "connector", "settings", "assignees"]

/-- What a status makes of the closing of a case. -/
def close (now : String) (by_ : Json) (status : Json) (attributes : Object) : Object :=
  match status with
  | .str "closed" => Assoc.set "closed_by" by_ (Assoc.set "closed_at" (.str now) attributes)
  | .str "open" | .str "in-progress" =>
    Assoc.set "closed_by" .null (Assoc.set "closed_at" .null attributes)
  | _ => attributes

/-- A case after `update_case`. -/
def EsCase.update (now : String) (data : Object) (case : EsCase) : EsCase :=
  let by_ := arg data "updated_by" KIBANA_USER
  let attributes := updatable.foldl
    (fun attributes field =>
      match Assoc.get field data with
      | some value => Assoc.set field value attributes
      | none => attributes)
    case.attributes
  let attributes := Assoc.set "updated_by" by_ (Assoc.set "updated_at" (.str now) attributes)
  { case with
    version := nextVersion py case.version
    attributes := close now by_ (Object.get data "status") attributes }

/-- The comments of a case. -/
def Store.commentsOf (s : Store) (id : String) : List EsCaseComment :=
  (s.comments.entries.map Prod.snd).filter fun comment => comment.case_id = id

/-- A case that a comment was added to or taken from: its version stays as it is. -/
def EsCase.commented (now : String) (by_ : Json) (total : Nat) (case : EsCase) : EsCase :=
  { case with
    total_comment := total
    attributes := Assoc.set "updated_by" by_ (Assoc.set "updated_at" (.str now) case.attributes) }

/-- `delete_case`, of a case that is there. -/
def deleteCase (id : String) (s : Store) : Store where
  cases := s.cases.erase id
  comments := s.comments.filter fun p => p.2.case_id ≠ id

/-- `add_comment`, to a case that is there. -/
def addComment (id commentId now : String) (data : Object) (case : EsCase) (s : Store) : Store :=
  let comment : EsCaseComment :=
    { case_id := id
      version := initialVersion
      attributes :=
        [("comment", arg data "comment" (.str "")), ("type", arg data "type" (.str "user")),
          ("created_at", .str now), ("created_by", arg data "created_by" KIBANA_USER)] }
  let s := { s with comments := s.comments.set commentId comment }
  let case := case.commented now (arg data "created_by" KIBANA_USER) (s.commentsOf id).length
  { s with cases := s.cases.set id case }

/-- A comment after `update_comment`. -/
def EsCaseComment.update (now : String) (data : Object) (comment : EsCaseComment) :
    EsCaseComment :=
  let attributes :=
    match Assoc.get "comment" data with
    | some text => Assoc.set "comment" text comment.attributes
    | none => comment.attributes
  { comment with
    version := nextVersion py comment.version
    attributes := Assoc.set "updated_by" (arg data "updated_by" KIBANA_USER)
      (Assoc.set "updated_at" (.str now) attributes) }

/-- `delete_comment`, of a comment that is there, from a case that is there. -/
def deleteComment (id commentId now : String) (case : EsCase) (s : Store) : Store :=
  let s := { s with comments := s.comments.erase commentId }
  { s with cases := s.cases.set id (case.commented now KIBANA_USER (s.commentsOf id).length) }

/-! ## Requests -/

/-- What a request answers. -/
inductive Response where
  | ok
  | badRequest
  | notFound
  | conflict
  | raised
  deriving DecidableEq

/-- A request, of a `PATCH` of cases one entry. -/
inductive Action where
  | create (id now : String) (data : Object)
  | update (patch : Json) (now : String)
  | delete (id : String)
  | addComment (id commentId now : String) (data : Object)
  | updateComment (id now : String) (body : Object)
  | deleteComment (id commentId now : String)

/-- Whether a value can be a key of a `dict`. -/
def hashable : Json → Bool
  | .list _ | .dict _ => false
  | _ => true

/-- The record under a key of any type: only strings are keys. -/
def lookup {ν : Type} (records : Dict String ν) : Json → Option (String × ν)
  | .str id => (records.get id).map (id, ·)
  | _ => none

/-- `value != version`, of a version that is stored. -/
def differs (version : String) : Json → Bool
  | .str v => v ≠ version
  | _ => true

/-- One entry of the loop of `update_cases`. -/
def updateEntry (patch : Json) (now : String) (s : Store) : Store × Response :=
  match patch with
  | .dict patch =>
    let id := Object.get patch "id"
    let version := Object.get patch "version"
    if !id.truthy || !version.truthy then (s, .badRequest)
    else if !hashable id then (s, .raised)
    else
      match lookup s.cases id with
      | none => (s, .notFound)
      | some (id, case) =>
        if differs case.version version then (s, .conflict)
        else
          let changes := patch.filter fun p => p.1 ≠ "id" ∧ p.1 ≠ "version"
          ({ s with cases := s.cases.set id (case.update py now changes) }, .ok)
  | _ => (s, .badRequest)

/-- Answer a request. -/
def handle (s : Store) : Action → Store × Response
  | .create id now data => (createCase id now data s, .ok)
  | .update patch now => updateEntry py patch now s
  | .delete id =>
    match s.cases.get id with
    | some _ => (deleteCase id s, .ok)
    | none => (s, .notFound)
  | .addComment id commentId now data =>
    match s.cases.get id with
    | some case => (addComment id commentId now data case s, .ok)
    | none => (s, .notFound)
  | .updateComment id now body =>
    let commentId := arg body "id" (.str "")
    match s.cases.get id with
    | none => (s, .notFound)
    | some _ =>
      if !hashable commentId then (s, .raised)
      else
        match lookup s.comments commentId with
        | none => (s, .notFound)
        | some (commentId, comment) =>
          if comment.case_id ≠ id then (s, .notFound)
          else if differs comment.version (Object.get body "version") then (s, .conflict)
          else
            let comment := comment.update py now body
            ({ s with comments := s.comments.set commentId comment }, .ok)
  | .deleteComment id commentId now =>
    match s.cases.get id, s.comments.get commentId with
    | some case, some comment =>
      if comment.case_id ≠ id then (s, .notFound)
      else (deleteComment id commentId now case s, .ok)
    | _, _ => (s, .notFound)

/-- What a request leaves in the store. -/
def step (s : Store) (a : Action) : Store := (handle py s a).1

/-- `update_cases`: one entry after the other, up to the first that is refused. -/
def updateCases : List (Json × String) → Store → Store × Response
  | [], s => (s, .ok)
  | (patch, now) :: patches, s =>
    match updateEntry py patch now s with
    | (s, .ok) => updateCases patches s
    | refused => refused

end EsCases

end Mockdr
