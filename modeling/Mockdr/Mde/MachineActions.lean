import Mathlib.Logic.Function.Basic
import Mockdr.Equality
import Mockdr.Settling.Hosts

/-!
# Defender machine actions, step by step

The guarded requests of `application/mde_machines/commands.py` and the reads of
`application/mde_machine_actions/queries.py`, cut where they call a repository: each call is one
step, and the steps of different clients come in any order.

* `Client` is where a client is; `seen` are the actions that its request has listed.
* `Store.save` is `mde_machine_action_repo.save`, which drops the oldest action when the collection
  is full. What has been listed before goes on to be read and written.
* `Action` is a step, at a moment; `step` what it leaves.

The ids that are drawn are part of the steps.
-/

namespace Mockdr

namespace MachineActions

open Settling (Timestamp utcNow hasAnswered settleSeconds)

/-- The kinds of action that are guarded. -/
inductive Kind where
  | unisolate
  | runAvScan
  | restrictCodeExecution
  | unrestrictCodeExecution
  | collectInvestigationPackage
  | runLiveResponse
  deriving DecidableEq

/-- The type of the action. -/
def Kind.type : Kind → String
  | .unisolate => "Unisolate"
  | .runAvScan => "RunAntiVirusScan"
  | .restrictCodeExecution => "RestrictCodeExecution"
  | .unrestrictCodeExecution => "UnrestrictCodeExecution"
  | .collectInvestigationPackage => "CollectInvestigationPackage"
  | .runLiveResponse => "RunLiveResponse"

/-- `MdeMachineAction` -/
structure MachineAction where
  machineId : String
  type : String
  status : String
  computerDnsName : String
  created : Timestamp
  lastUpdate : Timestamp
  requestor : Json
  comment : Json
  commands : Json

/-- `MdeMachine` -/
structure Machine where
  healthStatus : String
  computerDnsName : String

/-- A request for an action. -/
structure Request where
  kind : Kind
  machineId : String
  body : Object

/-- Where a client is. -/
inductive Client where
  | idle
  /-- it looks for the machine -/
  | looking (r : Request)
  /-- it lists the actions -/
  | scanning (r : Request)
  /-- it goes through those of the machine and the type; `wrote` tells that it has settled one -/
  | checking (r : Request) (seen rest : List String) (wrote : Bool)
  /-- it saves the machine -/
  | publishing (r : Request) (seen : List String)
  /-- it reads the clock and the name of the machine -/
  | naming (r : Request) (seen : List String)
  /-- it saves the action -/
  | saving (r : Request) (seen : List String) (created : Timestamp) (name : String)
  /-- it looks for the action, to give it commands -/
  | attaching (id : String) (commands : Json)
  /-- it saves the action again -/
  | writing (id : String) (commands : Json)
  /-- it has been refused -/
  | refused (r : Request) (wrote : Bool)
  /-- it settles the actions that it reads -/
  | reading (rest : List String)

/-- Every action that was made, those in the collection, the oldest first, the machines and the
    clients. -/
structure Store where
  objects : Dict String MachineAction
  listed : List String
  machines : Dict String Machine
  clients : Nat → Client

/-! ## The repository -/

/-- `CAPS["mde_machine_actions"]` -/
def CAP : Nat := 10000

/-- What is left of a collection that another action is added to. -/
def kept (listed : List String) : List String :=
  if CAP ≤ listed.length then listed.tail else listed

/-- The ids of the collection when an action has been saved. -/
def insert (id : String) (listed : List String) : List String :=
  if id ∈ listed then listed else kept listed ++ [id]

/-- `mde_machine_action_repo.save` -/
def Store.save (id : String) (action : MachineAction) (s : Store) : Store :=
  { s with objects := s.objects.set id action, listed := insert id s.listed }

/-- A client is somewhere else then. -/
def Store.goto (c : Nat) (client : Client) (s : Store) : Store :=
  { s with clients := Function.update s.clients c client }

/-! ## Requests -/

/-- A text that `strip` leaves something of. -/
def hasComment (body : Object) : Bool :=
  match Object.get body "Comment" with
  | .str comment => strip comment ≠ ""
  | _ => false

/-- A request that `_require_comment` and `_choice` have nothing against. -/
def accepts (r : Request) : Bool :=
  match r.kind with
  | .runLiveResponse => true
  | .runAvScan =>
    hasComment r.body && match Object.get r.body "ScanType" with
      | .str scanType => scanType ∈ ["Quick", "Full"]
      | _ => false
  | _ => hasComment r.body

/-- An action of the machine and the type of a request. -/
def isFor (r : Request) (action : MachineAction) : Bool :=
  action.machineId = r.machineId && action.type = r.kind.type

/-- The actions that `_refuse_if_pending` goes through. -/
def listedFor (r : Request) (s : Store) : List String :=
  s.listed.filter fun id => (s.objects.get id).any (isFor r)

/-- An action that is pending is due. -/
def due (t : ℚ) (action : MachineAction) : Bool :=
  hasAnswered (action.created.moment.map (t - ·))

/-- `answered_at` -/
def answeredAt (asked : Timestamp) : Timestamp :=
  match asked with
  | .iso moment => .iso (moment + settleSeconds)
  | .unreadable text => .unreadable text

/-- An action that has been carried out. -/
def succeeded (action : MachineAction) : MachineAction :=
  { action with status := "Succeeded", lastUpdate := answeredAt action.created }

/-- `settled`, and what it saves -/
def Store.settle (t : ℚ) (id : String) (s : Store) : Store :=
  match s.objects.get id with
  | some action =>
    if action.status = "Pending" && due t action then s.save id (succeeded action) else s
  | none => s

/-- The action that `_create_action` makes. -/
def newAction (r : Request) (created : Timestamp) (name : String) : MachineAction where
  machineId := r.machineId
  type := r.kind.type
  status := "Pending"
  computerDnsName := name
  created := created
  lastUpdate := created
  requestor := arg r.body "Requestor" (.str "analyst@acmecorp.internal")
  comment := arg r.body "Comment" (.str "")
  commands := .list []

/-! ## Steps -/

/-- What a client does next that checks the actions: it passes one, or settles it, or is refused. -/
def check (c : Nat) (t : ℚ) (r : Request) (seen rest : List String) (wrote : Bool) (s : Store) :
    Store :=
  match rest with
  | [] => s.goto c (if r.kind = .unisolate then .publishing r seen else .naming r seen)
  | id :: rest =>
    match s.objects.get id with
    | none => s.goto c (.checking r seen rest wrote)
    | some action =>
      if action.status ≠ "Pending" then s.goto c (.checking r seen rest wrote)
      else if due t action then (s.settle t id).goto c (.checking r seen rest true)
      else s.goto c (.refused r wrote)

/-- What a client does next, with the id that is drawn for an action. -/
def proceed (c : Nat) (t : ℚ) (id : String) (s : Store) : Store :=
  match s.clients c with
  | .looking r =>
    match s.machines.get r.machineId with
    | some _ => s.goto c (if accepts r then .scanning r else .idle)
    | none => s.goto c .idle
  | .scanning r => s.goto c (.checking r (listedFor r s) (listedFor r s) false)
  | .checking r seen rest wrote => check c t r seen rest wrote s
  | .publishing r seen =>
    match s.machines.get r.machineId with
    | some machine =>
      { s with machines := s.machines.set r.machineId { machine with healthStatus := "Active" } }
        |>.goto c (.naming r seen)
    | none => s.goto c (.naming r seen)
  | .naming r seen =>
    s.goto c (.saving r seen (utcNow t)
      ((s.machines.get r.machineId).elim "" Machine.computerDnsName))
  | .saving r _ created name =>
    let commands := arg r.body "Commands" (.list [])
    (s.save id (newAction r created name)).goto c
      (if r.kind = .runLiveResponse && commands.truthy then .attaching id commands else .idle)
  | .attaching action commands =>
    s.goto c (if action ∈ s.listed then .writing action commands else .idle)
  | .writing action commands =>
    match s.objects.get action with
    | some stored => (s.save action { stored with commands := commands }).goto c .idle
    | none => s.goto c .idle
  | .reading (action :: rest) => (s.settle t action).goto c (.reading rest)
  | .reading [] => s.goto c .idle
  | .idle | .refused _ _ => s

/-- A client has nothing to do. -/
def Client.rests : Client → Bool
  | .idle | .refused _ _ => true
  | _ => false

/-- A step: a client that has nothing to do requests an action, or reads the actions (of one id, or
    all), or a client proceeds. -/
inductive Action where
  | request (c : Nat) (r : Request)
  | read (c : Nat) (id : Option String)
  | proceed (c : Nat) (t : ℚ) (id : String)

/-- What a step leaves. -/
def step (s : Store) : Action → Store
  | .request c r => if (s.clients c).rests then s.goto c (.looking r) else s
  | .read c id =>
    if (s.clients c).rests then
      s.goto c (.reading (s.listed.filter fun listed => id.all (· = listed)))
    else s
  | .proceed c t id => proceed c t id s

end MachineActions

end Mockdr
