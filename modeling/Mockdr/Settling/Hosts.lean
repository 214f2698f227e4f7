import Mockdr.Lib.DictRel
import Mockdr.Lib.Settling

/-!
# Falcon hosts and their containment

`application/cs_hosts/commands.py`, `application/cs_hosts/queries.py` and the membership routes of
`application/cs_host_groups`, over the wait of `application/settling.py` and the timestamps of
`utils/dt.py`.

A host is generic in what its status is: the store holds a `HostStatus`, and the specification the
history of what the host was asked for. The edits do not look at it, so they are the same on both.

What filter, sort, offset and limit make of the records is a `Listing`.
-/

namespace Mockdr

namespace Settling

/-! ## The wait -/

/-- `SETTLE_SECONDS` -/
def settleSeconds : ℚ := 1

/-- `has_answered` -/
def hasAnswered : Option ℚ → Bool
  | none => false
  | some waited => settleSeconds < waited

/-- A timestamp, told by the moment it names. -/
inductive Timestamp where
  | iso (moment : ℚ)
  | unreadable (text : String)
  deriving DecidableEq

/-- `parse_utc` -/
def Timestamp.moment : Timestamp → Option ℚ
  | .iso moment => some moment
  | .unreadable _ => none

/-- `utc_now`, which writes whole seconds. -/
def utcNow (now : ℚ) : Timestamp := .iso now.floor

/-- `seconds_since` -/
def secondsSince (now : ℚ) (timestamp : Timestamp) : Option ℚ := timestamp.moment.map (now - ·)

/-! ## Hosts -/

/-- `CsHost.status` -/
inductive HostStatus where
  | normal
  | contained
  | containmentPending
  | liftContainmentPending
  deriving DecidableEq

/-- `_SETTLES_INTO` -/
def HostStatus.settlesInto : HostStatus → Option HostStatus
  | .containmentPending => some .contained
  | .liftContainmentPending => some .normal
  | _ => none

/-- `CsHost` -/
structure CsHost (σ ρ : Type*) where
  status : σ
  modifiedTimestamp : Timestamp
  tags : List String
  groups : List String
  hidden : Bool
  /-- everything else -/
  other : ρ

variable {σ τ ρ : Type*}

/-- Read the status of a host another way. -/
def CsHost.mapStatus (f : σ → τ) (h : CsHost σ ρ) : CsHost τ ρ :=
  ⟨f h.status, h.modifiedTimestamp, h.tags, h.groups, h.hidden, h.other⟩

/-- A host without its status. -/
def CsHost.plain (h : CsHost σ ρ) : CsHost Unit ρ := h.mapStatus fun _ => ()

/-- The hosts by device id. -/
abbrev Hosts (σ ρ : Type*) := Dict String (CsHost σ ρ)

/-! ## Changes -/

/-- The loop of a command over the hosts it names: those that there are are changed and saved. -/
def editEach (ids : List String) (f : CsHost σ ρ → CsHost σ ρ) (d : Hosts σ ρ) : Hosts σ ρ :=
  ids.foldl (fun d id =>
    match d.get id with
    | none => d
    | some h => d.set id (f h)) d

/-- A host is given a status, and stamped. -/
def CsHost.put (status : σ → σ) (now : ℚ) (h : CsHost σ ρ) : CsHost σ ρ :=
  { h with status := status h.status, modifiedTimestamp := utcNow now }

/-- `contain_host` -/
def containHost (ids : List String) (now : ℚ) (d : Hosts HostStatus ρ) : Hosts HostStatus ρ :=
  editEach ids (CsHost.put (fun _ => .containmentPending) now) d

/-- `lift_containment` -/
def liftContainment (ids : List String) (now : ℚ) (d : Hosts HostStatus ρ) : Hosts HostStatus ρ :=
  editEach ids (CsHost.put (fun _ => .liftContainmentPending) now) d

/-- `_set_hidden`, for `hide_host` and `unhide_host` -/
def setHidden (ids : List String) (hidden : Bool) (now : ℚ) (d : Hosts σ ρ) : Hosts σ ρ :=
  editEach ids (fun h => { h with hidden, modifiedTimestamp := utcNow now }) d

/-- What `tag_hosts` is asked for. -/
inductive TagAction where
  | add
  | remove

/-- The tags that `tag_hosts` leaves a host with. -/
def TagAction.apply (tags current : List String) : TagAction → List String
  | .add =>
    tags.foldl (fun current tag => if tag ∈ current then current else current ++ [tag]) current
  | .remove => current.filter (· ∉ tags)

/-- `tag_hosts` -/
def tagHosts (ids tags : List String) (action : TagAction) (now : ℚ) (d : Hosts σ ρ) : Hosts σ ρ :=
  editEach ids
    (fun h => { h with tags := action.apply tags h.tags, modifiedTimestamp := utcNow now }) d

/-- What `manage_group_members` is asked for. -/
inductive MemberAction where
  | addHosts
  | removeHosts

/-- The groups that `manage_group_members` leaves a host in. -/
def MemberAction.apply (group : String) (groups : List String) : MemberAction → List String
  | .addHosts => if group ∈ groups then groups else groups ++ [group]
  | .removeHosts => groups.filter (· ≠ group)

/-- `manage_group_members` -/
def manageGroupMembers (group : String) (action : MemberAction) (ids : List String) (now : ℚ)
    (d : Hosts σ ρ) : Hosts σ ρ :=
  editEach ids
    (fun h => { h with groups := action.apply group h.groups, modifiedTimestamp := utcNow now }) d

/-- `delete_host_groups`, with the groups that there are. It does not stamp a host. -/
def deleteHostGroups (ids : List String) (p : List String × Hosts σ ρ) : List String × Hosts σ ρ :=
  ids.foldl (fun p id =>
    if id ∈ p.1 then
      (p.1.filter (· ≠ id),
        p.2.mapValues fun h => { h with groups := h.groups.filter (· ≠ id) })
    else p) p

/-! ## Reads -/

/-- What filter, sort, offset and limit make of the records: a page, and how many there are. -/
abbrev Listing (σ ρ : Type*) := List (String × CsHost σ ρ) → List (String × CsHost σ ρ) × Nat

/-- `_visible_hosts` -/
def visibleHosts (hidden : Bool) (d : Hosts σ ρ) : List (String × CsHost σ ρ) :=
  d.entries.filter fun p => p.2.hidden = hidden

/-- The members of a group that are not hidden. -/
def groupMembers (group : String) (d : Hosts σ ρ) : List (String × CsHost σ ρ) :=
  (visibleHosts false d).filter fun p => group ∈ p.2.groups

/-- The ids of a page, and how many records there are. -/
def pageIds (page : List (String × CsHost σ ρ) × Nat) : List String × Nat :=
  (page.1.map Prod.fst, page.2)

/-- `_settled` -/
def settled (now : ℚ) (h : CsHost HostStatus ρ) : CsHost HostStatus ρ :=
  match h.status.settlesInto with
  | none => h
  | some target =>
    if hasAnswered (secondsSince now h.modifiedTimestamp) then { h with status := target } else h

/-- The loop of a read over the hosts that it serves whole, which settles them and saves them. -/
def publicEach (listed : CsHost HostStatus ρ → Bool) (now : ℚ) :
    List String → Hosts HostStatus ρ → List (String × CsHost HostStatus ρ) × Hosts HostStatus ρ
  | [], d => ([], d)
  | id :: ids, d =>
    match (d.get id).filter listed with
    | none => publicEach listed now ids d
    | some h =>
      let later := publicEach listed now ids (d.set id (settled now h))
      ((id, settled now h) :: later.1, later.2)

/-- `get_host_entities` -/
def getHostEntities (ids : List String) (now : ℚ) (d : Hosts HostStatus ρ) :
    List (String × CsHost HostStatus ρ) × Hosts HostStatus ρ :=
  publicEach (fun h => !h.hidden) now ids d

/-- `list_hidden_hosts`: the page is made of what the store holds, and settled then. -/
def listHiddenHosts (listing : Listing HostStatus ρ) (now : ℚ) (d : Hosts HostStatus ρ) :
    (List (String × CsHost HostStatus ρ) × Nat) × Hosts HostStatus ρ :=
  let page := listing (visibleHosts true d)
  let served := publicEach (fun _ => true) now (page.1.map Prod.fst) d
  ((served.1, page.2), served.2)

/-- `query_host_ids`, and the ids and total of `query_host_ids_scroll` -/
def queryHostIds (listing : Listing HostStatus ρ) (d : Hosts HostStatus ρ) : List String × Nat :=
  pageIds (listing (visibleHosts false d))

/-- `query_hidden_host_ids` -/
def queryHiddenHostIds (listing : Listing HostStatus ρ) (d : Hosts HostStatus ρ) :
    List String × Nat :=
  pageIds (listing (visibleHosts true d))

/-- `list_group_members` -/
def listGroupMembers (group : String) (listing : Listing HostStatus ρ) (d : Hosts HostStatus ρ) :
    List (String × CsHost HostStatus ρ) × Nat :=
  listing (groupMembers group d)

/-- `query_group_member_ids` -/
def queryGroupMemberIds (group : String) (listing : Listing HostStatus ρ) (d : Hosts HostStatus ρ) :
    List String × Nat :=
  pageIds (listing (groupMembers group d))

/-- `settle_due` of the hosts -/
def settleHosts (now : ℚ) (d : Hosts HostStatus ρ) : Hosts HostStatus ρ := d.mapValues (settled now)

end Settling

end Mockdr
