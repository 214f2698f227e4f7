import Mockdr.Python

/-!
# Updates of a Defender machine

`update_machine` of `application/mde_machines/commands.py` sets the tags and the device value of a
machine. It edits the stored object, and checks the device value after it has set the tags.

* `updateMachine` is the command, on the machines by their ids.
* `Settled`: every member that the call documents is applied and nothing else changes, or nothing
  changes at all.
* `settled_iff`: this holds unless new tags come with a device value that there is not.
-/

namespace Mockdr

namespace MachineUpdate

/-- `MdeMachine`, and the details that nothing here reads. -/
structure MdeMachine (δ : Type) where
  machineTags : List String
  deviceValue : String
  details : δ

/-- What `update_machine` answers, or the message of the `InvalidMachineUpdateError` it raises. -/
inductive Reply where
  | updated
  | notFound
  | invalid (message : String)
  deriving DecidableEq

/-- `DEVICE_VALUES` -/
def DEVICE_VALUES : List String := ["Normal", "Low", "High"]

/-- A list of strings. -/
def stringList : Json → Option (List String)
  | .list tags => tags.mapM fun tag =>
    match tag with
    | .str tag => some tag
    | _ => none
  | _ => none

/-- A device value that Defender has. -/
def deviceValueOf : Json → Option String
  | .str value => if value ∈ DEVICE_VALUES then some value else none
  | _ => none

variable {δ : Type}

/-- The second half of `update_machine`, which finds the machine in the store as the first half left
    it. -/
def setDeviceValue (machineId : String) (body : Object) (machine : MdeMachine δ)
    (s : Dict String (MdeMachine δ)) : Dict String (MdeMachine δ) × Reply :=
  match Assoc.get "deviceValue" body with
  | none => (s.set machineId machine, .updated)
  | some value =>
    match deviceValueOf value with
    | none => (s, .invalid ("deviceValue must be one of " ++ ", ".intercalate DEVICE_VALUES))
    | some value => (s.set machineId { machine with deviceValue := value }, .updated)

/-- `update_machine` -/
def updateMachine (machineId : String) (body : Object) (s : Dict String (MdeMachine δ)) :
    Dict String (MdeMachine δ) × Reply :=
  match s.get machineId with
  | none => (s, .notFound)
  | some machine =>
    match Assoc.get "machineTags" body with
    | none => setDeviceValue machineId body machine s
    | some tags =>
      match stringList tags with
      | none => (s, .invalid "machineTags must be a list of strings")
      | some tags =>
        let machine := { machine with machineTags := tags }
        setDeviceValue machineId body machine (s.set machineId machine)

/-! ## Updates -/

/-- A machine has the members of a body that the call documents, and is otherwise as it was. -/
structure Applied (body : Object) (machine machine' : MdeMachine δ) : Prop where
  tags : ∀ tags, Assoc.get "machineTags" body = some tags →
    stringList tags = some machine'.machineTags
  otherTags : Assoc.get "machineTags" body = none → machine'.machineTags = machine.machineTags
  value : ∀ value, Assoc.get "deviceValue" body = some value →
    deviceValueOf value = some machine'.deviceValue
  otherValue : Assoc.get "deviceValue" body = none → machine'.deviceValue = machine.deviceValue
  details : machine'.details = machine.details

/-- The members of a body are applied to the machine, and no other machine changes; or nothing
    changes, and there is no such machine or the body is refused. -/
def Settled (machineId : String) (body : Object) (s : Dict String (MdeMachine δ))
    (answer : Dict String (MdeMachine δ) × Reply) : Prop :=
  (answer.2 = .updated ∧ ∃ machine machine', s.get machineId = some machine
      ∧ Applied body machine machine' ∧ answer.1 = s.set machineId machine')
    ∨ answer.2 ≠ .updated ∧ answer.1 = s

/-- New tags come with a device value that there is not. -/
def TagsBesideNoValue (machineId : String) (body : Object) (s : Dict String (MdeMachine δ)) :
    Prop :=
  ∃ machine tags value, s.get machineId = some machine
    ∧ (Assoc.get "machineTags" body).bind stringList = some tags
    ∧ Assoc.get "deviceValue" body = some value ∧ deviceValueOf value = none
    ∧ tags ≠ machine.machineTags

variable {machineId : String} {body : Object} {s : Dict String (MdeMachine δ)}
  {machine : MdeMachine δ}

/-- Where the device value is set, or there is none to set, the machine with its new tags is
    stored. -/
lemma setDeviceValue_settled (edited : MdeMachine δ) {t : Dict String (MdeMachine δ)}
    (hget : s.get machineId = some machine) (hdetails : edited.details = machine.details)
    (hvalue : edited.deviceValue = machine.deviceValue)
    (htags : ∀ tags, Assoc.get "machineTags" body = some tags →
      stringList tags = some edited.machineTags)
    (hother : Assoc.get "machineTags" body = none → edited.machineTags = machine.machineTags)
    (hset : ∀ m, t.set machineId m = s.set machineId m) :
    Settled machineId body s (setDeviceValue machineId body edited t)
      ↔ ((∃ value, Assoc.get "deviceValue" body = some value ∧ deviceValueOf value = none)
        → t = s) := by
  rw [setDeviceValue]
  cases hbody : Assoc.get "deviceValue" body with
  | none =>
    refine iff_of_true (.inl ⟨rfl, machine, edited, hget, ?_, hset _⟩) (by simp)
    refine ⟨htags, hother, fun value h => ?_, fun _ => hvalue, hdetails⟩
    rw [hbody] at h
    cases h
  | some given =>
    cases hgiven : deviceValueOf given with
    | none =>
      simp only [Option.some.injEq, exists_eq_left', hgiven, true_implies]
      refine ⟨?_, fun hsame => .inr ⟨nofun, hsame⟩⟩
      rintro (⟨⟨⟩, -⟩ | ⟨-, hsame⟩)
      exact hsame
    | some value =>
      simp only [Option.some.injEq, exists_eq_left', hgiven, reduceCtorEq, false_implies, iff_true]
      refine .inl ⟨rfl, machine, _, hget, ?_, hset _⟩
      refine ⟨htags, hother, fun value' h => ?_, fun h => ?_, hdetails⟩
      · rw [hbody] at h
        rw [← Option.some.inj h, hgiven]
      · rw [hbody] at h
        cases h

/-- An update of a machine applies all that it was given or leaves the machines as they were,
    exactly if it does not give the machine new tags beside a device value that there is not. -/
theorem settled_iff (machineId : String) (body : Object) (s : Dict String (MdeMachine δ)) :
    Settled machineId body s (updateMachine machineId body s)
      ↔ ¬ TagsBesideNoValue machineId body s := by
  rw [updateMachine]
  cases hget : s.get machineId with
  | none =>
    refine iff_of_true (.inr ⟨nofun, rfl⟩) ?_
    rintro ⟨machine, tags, value, hmachine, -⟩
    rw [hget] at hmachine
    cases hmachine
  | some machine =>
    cases hbody : Assoc.get "machineTags" body with
    | none =>
      refine iff_of_true ?_ ?_
      · refine (setDeviceValue_settled _ hget rfl rfl (fun tags h => ?_) (fun _ => rfl)
          fun _ => rfl).2 fun _ => rfl
        rw [hbody] at h
        cases h
      · rintro ⟨machine', tags, value, -, htags, -⟩
        rw [hbody] at htags
        cases htags
    | some given =>
      dsimp only
      cases hgiven : stringList given with
      | none =>
        refine iff_of_true (.inr ⟨(nomatch ·), rfl⟩) ?_
        rintro ⟨machine', tags, value, -, htags, -⟩
        rw [hbody, Option.bind_some, hgiven] at htags
        cases htags
      | some tags =>
        dsimp only
        rw [setDeviceValue_settled { machine with machineTags := tags } hget rfl rfl
          (fun tags' h => ?_) (fun h => ?_) (fun m => Dict.set_set _ _ _ _)]
        · constructor
          · rintro hsame ⟨machine', tags', value, hmachine, htags, hvalue, hno, hnew⟩
            rw [hget] at hmachine
            rw [hbody, Option.bind_some, hgiven] at htags
            obtain rfl := Option.some.inj hmachine
            obtain rfl := Option.some.inj htags
            have hstored := congrArg (Dict.get · machineId) (hsame ⟨value, hvalue, hno⟩)
            rw [Dict.get_set_self, hget] at hstored
            exact hnew (congrArg MdeMachine.machineTags (Option.some.inj hstored))
          · rintro hold ⟨value, hvalue, hno⟩
            have htags : tags = machine.machineTags := by
              by_contra hnew
              exact hold ⟨machine, tags, value, hget, by rw [hbody, Option.bind_some, hgiven],
                hvalue, hno, hnew⟩
            subst htags
            exact Dict.set_of_get hget
        · rw [hbody] at h
          rw [← Option.some.inj h, hgiven]
        · rw [hbody] at h
          cases h

/-- A machine without tags. -/
def untagged : Dict String (MdeMachine Unit) := Dict.empty.set "m" ⟨[], "Normal", ()⟩

/-- The device value is refused, and the machine has the tags. -/
theorem refused_with_tags :
    (updateMachine "m" [("machineTags", .list [.str "x"]), ("deviceValue", .str "Highest")]
        untagged).2 ≠ .updated
      ∧ ((updateMachine "m" [("machineTags", .list [.str "x"]), ("deviceValue", .str "Highest")]
        untagged).1.get "m").map MdeMachine.machineTags = some ["x"] := by
  decide

end MachineUpdate

end Mockdr
