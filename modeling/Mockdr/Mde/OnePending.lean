import Mockdr.Lib.Run
import Mockdr.Mde.MachineActions

/-!
# One pending action of a kind

* `OnePending`: no machine has two pending actions of one guarded kind, and no request that was
  refused has written anything. `Refuses`: a step that refuses a request meets an action of its kind
  that is pending; `Quiet`: the steps of a request that is refused later write nothing that is not
  told of it.
* `Alone`: where an action is saved, every pending one of its kind had been listed by the request.
* `Inv`: no action that a request has passed is pending any more.
* `one_pending_iff` says of every interleaving of the steps that the one holds exactly when the
  other does.
-/

namespace Mockdr

namespace MachineActions

open Settling (Timestamp)

/-! ## What holds of the actions -/

/-- An action has not been carried out. -/
def Waits (s : Store) (id : String) : Prop :=
  ∃ action, s.objects.get id = some action ∧ action.status = "Pending"

/-- An action of a machine and a type is in the collection, and has not been carried out. -/
def Pending (s : Store) (machineId type id : String) : Prop :=
  id ∈ s.listed ∧ ∃ action, s.objects.get id = some action
    ∧ action.machineId = machineId ∧ action.type = type ∧ action.status = "Pending"

/-- No machine has two pending actions of one kind, and no request that was refused has written
    anything. -/
structure OnePending (s : Store) : Prop where
  one : ∀ (kind : Kind) machineId i j, Pending s machineId kind.type i →
    Pending s machineId kind.type j → i = j
  refusals : ∀ c r wrote, s.clients c = .refused r wrote → wrote = false

/-- A client has been refused, or goes through the actions, and nothing was written. -/
def Client.unwritten : Client → Bool
  | .looking _ | .scanning _ | .checking _ _ _ false | .refused _ false => true
  | _ => false

/-- An action of the machine and the kind of a request is pending, and not due. -/
def RefusedFor (s : Store) (t : ℚ) (r : Request) : Prop :=
  ∃ id action, Pending s r.machineId r.kind.type id ∧ s.objects.get id = some action
    ∧ due t action = false

/-- A request is refused only while such an action is pending. -/
def Refuses (s : Store) (a : Action) (s' : Store) : Prop :=
  match a with
  | .proceed c t _ => ∀ r seen rest wrote wrote', s.clients c = .checking r seen rest wrote →
    s'.clients c = .refused r wrote' → RefusedFor s t r
  | _ => True

/-- A step after which a client has written nothing leaves the machines and the actions. -/
def Quiet (s : Store) (a : Action) (s' : Store) : Prop :=
  match a with
  | .proceed c _ _ => (s'.clients c).unwritten = true →
    s'.objects = s.objects ∧ s'.listed = s.listed ∧ s'.machines = s.machines
  | _ => s'.objects = s.objects ∧ s'.listed = s.listed ∧ s'.machines = s.machines

/-! ## What is asked of the steps -/

/-- An id that is drawn is no action's. -/
def Fresh (s : Store) : Action → Prop
  | .proceed c _ id =>
    match s.clients c with
    | .saving _ _ _ _ => s.objects.get id = none
    | _ => True
  | _ => True

/-- Where a request saves its action, it has listed every pending one of the machine and the kind.
    Where the collection has dropped an action in the meantime, a request is refused for it only if
    another one of the kind is pending, and commands are saved to it only if no other one is. -/
def Alone (s : Store) : Action → Prop
  | .proceed c t _ =>
    match s.clients c with
    | .saving r seen _ _ => ∀ id ∈ kept s.listed, Pending s r.machineId r.kind.type id → id ∈ seen
    | .checking r _ (id :: _) _ => id ∉ s.listed → ∀ action, s.objects.get id = some action →
      action.status = "Pending" → due t action = false → RefusedFor s t r
    | .writing id _ => id ∉ s.listed → ∀ action (kind : Kind), s.objects.get id = some action →
      action.status = "Pending" → action.type = kind.type →
        ∀ other ∈ kept s.listed, ¬Pending s action.machineId action.type other
    | _ => True
  | _ => True

/-- Nobody has begun anything, and at most one action of a kind is pending. -/
structure Start (s : Store) : Prop where
  idle : ∀ c, s.clients c = .idle
  known : ∀ id ∈ s.listed, s.objects.get id ≠ none
  one : ∀ (kind : Kind) machineId i j, Pending s machineId kind.type i →
    Pending s machineId kind.type j → i = j

/-! ## The invariant -/

/-- What holds of where a client is. -/
def Holds (s : Store) : Client → Prop
  | .checking r seen rest wrote =>
    (∀ id ∈ seen, ∃ action, s.objects.get id = some action ∧ isFor r action = true)
      ∧ rest ⊆ seen
      ∧ (∀ id ∈ seen, id ∉ rest → ¬Waits s id)
      ∧ (∀ i ∈ rest, ∀ j ∈ rest, Waits s i → Waits s j → i = j)
      ∧ (wrote = true → ∀ id ∈ rest, ¬Waits s id)
  | .publishing _ seen | .naming _ seen | .saving _ seen _ _ =>
    ∀ id ∈ seen, s.objects.get id ≠ none ∧ ¬Waits s id
  | .refused _ wrote => wrote = false
  | _ => True

/-- What holds between the steps. -/
structure Inv (s : Store) : Prop where
  known : ∀ id ∈ s.listed, s.objects.get id ≠ none
  one : ∀ (kind : Kind) machineId i j, Pending s machineId kind.type i →
    Pending s machineId kind.type j → i = j
  clients : ∀ c, Holds s (s.clients c)

variable {s s' : Store}

lemma Inv.onePending (h : Inv s) : OnePending s where
  one := h.one
  refusals c r wrote hc := by
    have hholds := h.clients c
    rwa [hc] at hholds

lemma Start.inv (h : Start s) : Inv s where
  known := h.known
  one := h.one
  clients c := by
    rw [h.idle c]
    trivial

lemma Pending.waits {machineId type id : String} (h : Pending s machineId type id) :
    Waits s id := by
  obtain ⟨-, action, hget, -, -, hstatus⟩ := h
  exact ⟨action, hget, hstatus⟩

/-! ## Steps that make nothing pending -/

/-- Actions stay there with their machine and type, and none waits that did not. -/
structure Calm (s s' : Store) : Prop where
  stays : ∀ id action, s.objects.get id = some action → ∃ action', s'.objects.get id = some action'
    ∧ action'.machineId = action.machineId ∧ action'.type = action.type
  waits : ∀ id, s.objects.get id ≠ none → Waits s' id → Waits s id

lemma Calm.refl (s : Store) : Calm s s :=
  ⟨fun _ action h => ⟨action, h, rfl, rfl⟩, fun _ _ h => h⟩

/-- Where a client is, holds on. -/
lemma Holds.of_calm {client : Client} (h : Holds s client) (hcalm : Calm s s') :
    Holds s' client := by
  have hknown : ∀ {id}, s.objects.get id ≠ none → s'.objects.get id ≠ none := by
    intro id hid hnone
    obtain ⟨action, hget⟩ := Option.ne_none_iff_exists'.1 hid
    obtain ⟨action', hget', -⟩ := hcalm.stays id action hget
    rw [hnone] at hget'
    cases hget'
  have hsettled : ∀ {seen : List String}, (∀ id ∈ seen, s.objects.get id ≠ none ∧ ¬Waits s id) →
      ∀ id ∈ seen, s'.objects.get id ≠ none ∧ ¬Waits s' id := by
    intro seen hseen id hid
    obtain ⟨hget, hwaits⟩ := hseen id hid
    exact ⟨hknown hget, fun hw => hwaits (hcalm.waits id hget hw)⟩
  cases client with
  | checking r seen rest wrote =>
    obtain ⟨hseen, hsub, hpassed, hone, hwrote⟩ := h
    have hback : ∀ {id}, id ∈ seen → Waits s' id → Waits s id := by
      intro id hid
      obtain ⟨action, hget, -⟩ := hseen id hid
      exact hcalm.waits id (by rw [hget]; exact Option.some_ne_none _)
    refine ⟨?_, hsub, fun id hid hrest hw => hpassed id hid hrest (hback hid hw),
      fun i hi j hj hwi hwj => hone i hi j hj (hback (hsub hi) hwi) (hback (hsub hj) hwj),
      fun hw id hid hwaits => hwrote hw id hid (hback (hsub hid) hwaits)⟩
    intro id hid
    obtain ⟨action, hget, hfor⟩ := hseen id hid
    obtain ⟨action', hget', hmachine, htype⟩ := hcalm.stays id action hget
    refine ⟨action', hget', ?_⟩
    rwa [isFor, hmachine, htype]
  | publishing r seen => exact hsettled h
  | naming r seen => exact hsettled h
  | saving r seen created name => exact hsettled h
  | refused r wrote => exact h
  | _ => trivial

lemma Inv.goto {c : Nat} {client : Client} (h : Inv s) (hcalm : Calm s s')
    (hknown : ∀ id ∈ s'.listed, s'.objects.get id ≠ none)
    (hone : ∀ (kind : Kind) machineId i j, Pending s' machineId kind.type i →
      Pending s' machineId kind.type j → i = j)
    (hclients : s'.clients = s.clients) (hclient : Holds s' client) : Inv (s'.goto c client) where
  known := hknown
  one := hone
  clients c' := by
    -- where a client is does not matter to what holds of the actions
    have hgoto : Calm s' (s'.goto c client) :=
      ⟨fun _ action h => ⟨action, h, rfl, rfl⟩, fun _ _ hwaits => hwaits⟩
    by_cases hc : c' = c
    · subst hc
      simp only [Store.goto, Function.update_self]
      exact hclient.of_calm hgoto
    · have hother := ((h.clients c').of_calm hcalm).of_calm hgoto
      simpa only [Store.goto, Function.update_of_ne hc, hclients] using hother

lemma Inv.move {c : Nat} {client : Client} (h : Inv s) (hclient : Holds s client) :
    Inv (s.goto c client) :=
  h.goto (Calm.refl s) h.known h.one rfl hclient

/-! ## Saving an action -/

lemma kept_subset (listed : List String) : kept listed ⊆ listed := by
  unfold kept
  split_ifs
  · exact (List.tail_sublist listed).subset
  · exact List.Subset.refl listed

/-- What is in a collection that an action was saved in: the action, and what was in it and was not
    dropped. -/
lemma mem_of_mem_insert {id j : String} {listed : List String} (h : j ∈ insert id listed) :
    j = id ∨ j ∈ listed ∧ (id ∉ listed → j ∈ kept listed) := by
  unfold insert at h
  split_ifs at h with hid
  · exact .inr ⟨h, fun hnot => absurd hid hnot⟩
  · rcases List.mem_append.1 h with hj | hj
    · exact .inr ⟨kept_subset listed hj, fun _ => hj⟩
    · exact .inl (List.mem_singleton.1 hj)

lemma Pending.of_save {machineId type id j : String} {action : MachineAction}
    (h : Pending (s.save id action) machineId type j) :
    (j = id ∧ action.machineId = machineId ∧ action.type = type ∧ action.status = "Pending")
      ∨ j ≠ id ∧ (id ∉ s.listed → j ∈ kept s.listed) ∧ Pending s machineId type j := by
  obtain ⟨hmem, action', hget, hrest⟩ := h
  simp only [Store.save, Dict.get_set] at hget hmem
  split_ifs at hget with hj
  · obtain rfl := Option.some.inj hget
    exact .inl ⟨hj, hrest⟩
  · right
    rcases mem_of_mem_insert hmem with hid | ⟨hlisted, hkept⟩
    · exact absurd hid hj
    · exact ⟨hj, hkept, hlisted, action', hget, hrest⟩

lemma Inv.known_save (h : Inv s) (id : String) (action : MachineAction) :
    ∀ j ∈ (s.save id action).listed, (s.save id action).objects.get j ≠ none := by
  intro j hj
  simp only [Store.save, Dict.get_set]
  split_ifs with hid
  · exact Option.some_ne_none _
  · rcases mem_of_mem_insert hj with hsame | ⟨hlisted, -⟩
    · exact absurd hsame hid
    · exact h.known j hlisted

lemma Inv.one_save (h : Inv s) {id : String} {action : MachineAction}
    (hother : action.status = "Pending" → ∀ kind : Kind, action.type = kind.type → ∀ j, j ≠ id →
      (id ∉ s.listed → j ∈ kept s.listed) → ¬Pending s action.machineId action.type j) :
    ∀ (kind : Kind) machineId i j, Pending (s.save id action) machineId kind.type i →
      Pending (s.save id action) machineId kind.type j → i = j := by
  intro kind machineId i j hi hj
  rcases hi.of_save with ⟨hid, hmachine, htype, hstatus⟩ | ⟨hne, hkept, hold⟩ <;>
    rcases hj.of_save with ⟨hid', hmachine', htype', hstatus'⟩ | ⟨hne', hkept', hold'⟩
  · rw [hid, hid']
  · rw [← hmachine, ← htype] at hold'
    exact absurd hold' (hother hstatus kind htype j hne' hkept')
  · rw [← hmachine', ← htype'] at hold
    exact absurd hold (hother hstatus' kind htype' i hne hkept)
  · exact h.one kind machineId i j hold hold'

lemma calm_save {id : String} {action action' : MachineAction}
    (hget : s.objects.get id = some action) (hmachine : action'.machineId = action.machineId)
    (htype : action'.type = action.type)
    (hstatus : action'.status = "Pending" → action.status = "Pending") :
    Calm s (s.save id action') where
  stays j old hold := by
    simp only [Store.save, Dict.get_set]
    split_ifs with hj
    · rw [hj, hget] at hold
      obtain rfl := Option.some.inj hold
      exact ⟨action', rfl, hmachine, htype⟩
    · exact ⟨old, hold, rfl, rfl⟩
  waits j _ hw := by
    obtain ⟨old, hold, hpending⟩ := hw
    simp only [Store.save, Dict.get_set] at hold
    split_ifs at hold with hj
    · obtain rfl := Option.some.inj hold
      exact ⟨action, hj ▸ hget, hstatus hpending⟩
    · exact ⟨old, hold, hpending⟩

lemma calm_new {id : String} {action : MachineAction} (hget : s.objects.get id = none) :
    Calm s (s.save id action) where
  stays j old hold := by
    have hj : j ≠ id := by
      rintro rfl
      rw [hget] at hold
      cases hold
    exact ⟨old, (Dict.get_set_ne _ _ hj).trans hold, rfl, rfl⟩
  waits j hj hw := by
    have hne : j ≠ id := by
      rintro rfl
      exact hj hget
    obtain ⟨old, hold, hpending⟩ := hw
    exact ⟨old, (Dict.get_set_ne _ _ hne).symm.trans hold, hpending⟩

/-! ## Settling -/

lemma settle_cases (t : ℚ) (id : String) (s : Store) :
    s.settle t id = s ∨ ∃ action, s.objects.get id = some action ∧ action.status = "Pending"
      ∧ s.settle t id = s.save id (succeeded action) := by
  unfold Store.settle
  split
  · rename_i action hget
    split_ifs with hdue
    · rw [Bool.and_eq_true, decide_eq_true_eq] at hdue
      exact .inr ⟨action, hget, hdue.1, rfl⟩
    · exact .inl rfl
  · exact .inl rfl

lemma succeeded_ne (action : MachineAction) : (succeeded action).status ≠ "Pending" := by
  change "Succeeded" ≠ "Pending"
  decide

lemma Inv.settle (h : Inv s) (t : ℚ) (id : String) :
    Calm s (s.settle t id) ∧ (s.settle t id).clients = s.clients
      ∧ (∀ j ∈ (s.settle t id).listed, (s.settle t id).objects.get j ≠ none)
      ∧ ∀ (kind : Kind) machineId i j, Pending (s.settle t id) machineId kind.type i →
        Pending (s.settle t id) machineId kind.type j → i = j := by
  rcases settle_cases t id s with heq | ⟨action, hget, hstatus, heq⟩ <;> rw [heq]
  · exact ⟨Calm.refl s, rfl, h.known, h.one⟩
  · exact ⟨calm_save hget rfl rfl fun _ => hstatus, rfl, h.known_save _ _,
      h.one_save fun hpending => absurd hpending (succeeded_ne action)⟩

/-! ## Steps -/

/-- A client that goes through the actions goes on. -/
lemma check_inv {c : Nat} {t : ℚ} {r : Request} {seen rest : List String} {wrote : Bool}
    (h : Inv s) (hholds : Holds s (.checking r seen rest wrote)) :
    Inv (check c t r seen rest wrote s) := by
  obtain ⟨hseen, hsub, hpassed, hone, hwrote⟩ := hholds
  cases rest with
  | nil =>
    have hall : ∀ id ∈ seen, s.objects.get id ≠ none ∧ ¬Waits s id := by
      intro id hid
      obtain ⟨action, hget, -⟩ := hseen id hid
      exact ⟨by rw [hget]; exact Option.some_ne_none _, hpassed id hid List.not_mem_nil⟩
    refine h.move ?_
    split_ifs
    · exact hall
    · exact hall
  | cons id rest =>
    -- the actions that are left when this one is passed
    have hnext : ∀ {s' wrote'}, Calm s s' → ¬Waits s' id →
        (wrote' = true → ∀ j ∈ rest, ¬Waits s' j) → Holds s' (.checking r seen rest wrote') := by
      intro s' wrote' hcalm hid hwrote'
      have hholds : Holds s (.checking r seen (id :: rest) wrote) :=
        ⟨hseen, hsub, hpassed, hone, hwrote⟩
      obtain ⟨hseen', -, hpassed', hone', -⟩ := hholds.of_calm hcalm
      refine ⟨hseen', fun j hj => hsub (List.mem_cons_of_mem _ hj), ?_,
        fun i hi j hj => hone' i (List.mem_cons_of_mem _ hi) j (List.mem_cons_of_mem _ hj), hwrote'⟩
      intro j hj hrest
      by_cases hsame : j = id
      · exact hsame ▸ hid
      · exact hpassed' j hj fun hmem => hrest ((List.mem_cons.1 hmem).resolve_left hsame)
    have hstill : wrote = true → ∀ j ∈ rest, ¬Waits s j :=
      fun hw j hj => hwrote hw j (List.mem_cons_of_mem _ hj)
    cases hget : s.objects.get id with
    | none =>
      simp only [check, hget]
      refine h.move (hnext (Calm.refl s) ?_ hstill)
      rintro ⟨action, haction, -⟩
      rw [hget] at haction
      cases haction
    | some action =>
      simp only [check, hget]
      split_ifs with hstatus hdue
      · refine h.move (hnext (Calm.refl s) ?_ hstill)
        rintro ⟨action', haction, hpending⟩
        rw [hget] at haction
        obtain rfl := Option.some.inj haction
        exact hstatus hpending
      · have hwaits : Waits s id := ⟨action, hget, not_not.1 hstatus⟩
        obtain ⟨hcalm, hclients, hknown, hone'⟩ := h.settle t id
        have hid : ¬Waits (s.settle t id) id := by
          rintro ⟨action', haction, hpending⟩
          have hsettled : s.settle t id = s.save id (succeeded action) := by
            simp only [Store.settle, hget, not_not.1 hstatus, hdue, decide_true, Bool.and_self,
              if_true]
          rw [hsettled, Store.save, Dict.get_set_self] at haction
          obtain rfl := Option.some.inj haction
          exact succeeded_ne action hpending
        refine h.goto hcalm hknown hone' hclients (hnext hcalm hid ?_)
        intro _ j hj hw
        have hknownj : s.objects.get j ≠ none := by
          obtain ⟨action', haction, -⟩ := hseen j (hsub (List.mem_cons_of_mem _ hj))
          rw [haction]
          exact Option.some_ne_none _
        have hsame := hone id List.mem_cons_self j (List.mem_cons_of_mem _ hj) hwaits
          (hcalm.waits j hknownj hw)
        exact hid (hsame ▸ hw)
      · refine h.move ?_
        cases wrote with
        | false => rfl
        | true =>
          exact absurd ⟨action, hget, not_not.1 hstatus⟩ (hwrote rfl id List.mem_cons_self)

/-- A step keeps the invariant where requests are alone. -/
lemma step_inv {a : Action} (h : Inv s) (hfresh : Fresh s a) (halone : Alone s a) :
    Inv (step s a) := by
  cases a with
  | request c r =>
    simp only [step]
    split
    · exact h.move trivial
    · exact h
  | read c id =>
    simp only [step]
    split
    · exact h.move trivial
    · exact h
  | proceed c t id =>
    have hholds := h.clients c
    simp only [step, proceed]
    cases hc : s.clients c with
    | idle => exact h
    | refused r wrote => exact h
    | looking r =>
      simp only
      split
      · split <;> exact h.move trivial
      · exact h.move trivial
    | scanning r =>
      refine h.move ?_
      have hlisted : ∀ id ∈ listedFor r s, id ∈ s.listed
          ∧ ∃ action, s.objects.get id = some action ∧ isFor r action = true := by
        intro id hid
        obtain ⟨hmem, hany⟩ := List.mem_filter.1 hid
        obtain ⟨action, hget, hfor⟩ := (Option.any_eq_true _ _).1 hany
        exact ⟨hmem, action, hget, hfor⟩
      have hpending : ∀ id ∈ listedFor r s, Waits s id →
          Pending s r.machineId r.kind.type id := by
        rintro id hid ⟨action, hget, hstatus⟩
        obtain ⟨hmem, action', hget', hfor⟩ := hlisted id hid
        rw [hget] at hget'
        obtain rfl := Option.some.inj hget'
        rw [isFor, Bool.and_eq_true, decide_eq_true_eq, decide_eq_true_eq] at hfor
        exact ⟨hmem, action, hget, hfor.1, hfor.2, hstatus⟩
      exact ⟨fun id hid => (hlisted id hid).2, List.Subset.refl _,
        fun id hid hnot => absurd hid hnot,
        fun i hi j hj hwi hwj => h.one r.kind r.machineId i j (hpending i hi hwi)
          (hpending j hj hwj), fun hfalse => absurd hfalse (by decide)⟩
    | checking r seen rest wrote =>
      rw [hc] at hholds
      exact check_inv h hholds
    | publishing r seen =>
      rw [hc] at hholds
      simp only
      split
      · exact @Inv.goto s { s with machines := _ } c _ h
          ⟨fun _ action hget => ⟨action, hget, rfl, rfl⟩, fun _ _ hw => hw⟩ h.known h.one rfl hholds
      · exact h.move hholds
    | naming r seen =>
      rw [hc] at hholds
      exact h.move hholds
    | saving r seen created name =>
      rw [hc] at hholds
      simp only [Fresh, hc] at hfresh
      simp only [Alone, hc] at halone
      simp only
      refine h.goto (calm_new hfresh) (h.known_save _ _) (h.one_save ?_) rfl ?_
      · intro _ kind _ j _ hkept hpending
        have hnot : id ∉ s.listed := fun hmem => h.known id hmem hfresh
        exact (hholds j (halone j (hkept hnot) hpending)).2 hpending.waits
      · split <;> trivial
    | attaching action commands =>
      simp only
      refine h.move ?_
      split <;> trivial
    | writing action commands =>
      simp only [Alone, hc] at halone
      simp only
      split
      · rename_i stored hget
        refine h.goto (calm_save hget rfl rfl fun hstatus => hstatus) (h.known_save _ _)
          (h.one_save ?_) rfl trivial
        intro hstatus kind htype j hj hkept hpending
        by_cases hmem : action ∈ s.listed
        · have hsame := h.one kind stored.machineId action j
            ⟨hmem, stored, hget, rfl, htype, hstatus⟩ (htype ▸ hpending)
          exact hj hsame.symm
        · exact halone hmem stored kind hget hstatus htype j (hkept hmem) hpending
      · exact h.move trivial
    | reading rest =>
      cases rest with
      | nil => exact h.move trivial
      | cons action rest =>
        obtain ⟨hcalm, hclients, hknown, hone⟩ := h.settle t action
        exact h.goto hcalm hknown hone hclients trivial

/-- A request is refused for an action that is pending, where requests are alone. -/
lemma step_refuses {a : Action} (h : Inv s) (halone : Alone s a) : Refuses s a (step s a) := by
  cases a with
  | proceed c t drawn =>
    intro r seen rest wrote wrote' hc hrefused
    have hholds := h.clients c
    rw [hc] at hholds
    obtain ⟨hseen, hsub, -⟩ := hholds
    simp only [Alone, hc] at halone
    simp only [step, proceed, hc] at hrefused
    cases rest with
    | nil =>
      simp only [check, Store.goto, Function.update_self] at hrefused
      split at hrefused <;> cases hrefused
    | cons id rest =>
      obtain ⟨action, hget, hfor⟩ := hseen id (hsub List.mem_cons_self)
      simp only [check, hget] at hrefused
      split_ifs at hrefused with hstatus hdue
      · simp only [Store.goto, Function.update_self] at hrefused
        cases hrefused
      · simp only [Store.goto, Function.update_self] at hrefused
        cases hrefused
      · rw [Bool.not_eq_true] at hdue
        by_cases hlisted : id ∈ s.listed
        · rw [isFor, Bool.and_eq_true, decide_eq_true_eq, decide_eq_true_eq] at hfor
          exact ⟨id, action, ⟨hlisted, action, hget, hfor.1, hfor.2, not_not.1 hstatus⟩, hget, hdue⟩
        · exact halone hlisted action hget (not_not.1 hstatus) hdue
  | _ => trivial

/-- What is not told of a request is not written. -/
lemma step_quiet (s : Store) (a : Action) : Quiet s a (step s a) := by
  cases a with
  | request c r =>
    simp only [Quiet, step]
    split <;> exact ⟨rfl, rfl, rfl⟩
  | read c id =>
    simp only [Quiet, step]
    split <;> exact ⟨rfl, rfl, rfl⟩
  | proceed c t id =>
    intro hunwritten
    simp only [step, proceed] at hunwritten ⊢
    cases hc : s.clients c with
    | idle => exact ⟨rfl, rfl, rfl⟩
    | refused r wrote => exact ⟨rfl, rfl, rfl⟩
    | looking r =>
      simp only
      split <;> exact ⟨rfl, rfl, rfl⟩
    | scanning r => exact ⟨rfl, rfl, rfl⟩
    | checking r seen rest wrote =>
      cases rest with
      | nil => exact ⟨rfl, rfl, rfl⟩
      | cons id rest =>
        simp only [hc, check] at hunwritten ⊢
        split
        · exact ⟨rfl, rfl, rfl⟩
        · rename_i action hget
          simp only [hget] at hunwritten
          split_ifs at hunwritten ⊢
          · exact ⟨rfl, rfl, rfl⟩
          · simp only [Store.goto, Function.update_self] at hunwritten
            cases hunwritten
          · exact ⟨rfl, rfl, rfl⟩
    | publishing r seen =>
      simp only [hc] at hunwritten
      split at hunwritten <;>
        simp only [Store.goto, Function.update_self, Client.unwritten] at hunwritten <;>
        cases hunwritten
    | naming r seen =>
      simp only [hc, Store.goto, Function.update_self, Client.unwritten] at hunwritten
      cases hunwritten
    | saving r seen created name =>
      simp only [hc, Store.goto, Function.update_self] at hunwritten
      split at hunwritten <;> cases hunwritten
    | attaching action commands =>
      simp only [hc, Store.goto, Function.update_self] at hunwritten
      split at hunwritten <;> cases hunwritten
    | writing action commands =>
      simp only [hc] at hunwritten
      split at hunwritten <;>
        simp only [Store.goto, Function.update_self, Client.unwritten] at hunwritten <;>
        cases hunwritten
    | reading rest =>
      cases rest with
      | nil => exact ⟨rfl, rfl, rfl⟩
      | cons action rest =>
        simp only [hc, Store.goto, Function.update_self, Client.unwritten] at hunwritten
        cases hunwritten

lemma not_pending_of_save {id : String} {action : MachineAction} {kind : Kind}
    (h : ∀ (kind : Kind) machineId i j, Pending (s.save id action) machineId kind.type i →
      Pending (s.save id action) machineId kind.type j → i = j)
    (hid : id ∉ s.listed) (hstatus : action.status = "Pending") (htype : action.type = kind.type)
    {other : String} (hkept : other ∈ kept s.listed) :
    ¬Pending s action.machineId action.type other := by
  intro hpending
  have hne : other ≠ id := by
    rintro rfl
    exact hid (kept_subset _ hkept)
  have hlisted : (s.save id action).listed = kept s.listed ++ [id] := by
    simp only [Store.save, insert, if_neg hid]
  obtain ⟨-, old, hold, hmachine, htype', hstatus'⟩ := hpending
  refine hne (h kind action.machineId other id ⟨?_, old, ?_, hmachine, htype'.trans htype,
    hstatus'⟩ ⟨?_, action, Dict.get_set_self _ _ _, rfl, htype, hstatus⟩)
  · rw [hlisted]
    exact List.mem_append_left _ hkept
  · exact (Dict.get_set_ne _ _ hne).trans hold
  · rw [hlisted]
    exact List.mem_append_right _ (List.mem_singleton_self id)

/-- A step after which one is pending at most, and that refuses for no other reason, is alone. -/
lemma alone_of_step {a : Action} (h : Inv s) (hfresh : Fresh s a) (hone : OnePending (step s a))
    (hrefuses : Refuses s a (step s a)) : Alone s a := by
  cases a with
  | proceed c t drawn =>
    have hgoto : ∀ {s' client}, OnePending (Store.goto c client s') →
        ∀ (kind : Kind) machineId i j, Pending s' machineId kind.type i →
          Pending s' machineId kind.type j → i = j := fun h => h.one
    cases hc : s.clients c with
    | checking r seen rest wrote =>
      cases rest with
      | nil => simp only [Alone, hc]
      | cons id rest =>
        simp only [Alone, hc]
        intro _ action hget hstatus hdue
        refine hrefuses r seen (id :: rest) wrote wrote hc ?_
        simp only [step, proceed, hc, check, hget, hstatus, hdue, ne_eq, not_true_eq_false,
          if_false, Bool.false_eq_true, Store.goto, Function.update_self]
    | saving r seen created name =>
      simp only [Alone, hc]
      simp only [Fresh, hc] at hfresh
      simp only [step, proceed, hc] at hone
      intro j hkept hpending
      have hid : drawn ∉ s.listed := fun hmem => h.known drawn hmem hfresh
      have htype : (newAction r created name).type = r.kind.type := rfl
      exact absurd hpending (not_pending_of_save (hgoto hone) hid rfl htype hkept)
    | writing id commands =>
      simp only [Alone, hc]
      intro hid stored kind hget hstatus htype other hkept
      simp only [step, proceed, hc, hget] at hone
      exact not_pending_of_save (hgoto hone) hid hstatus htype hkept
    | _ => simp only [Alone, hc]
  | _ => trivial

/-! ## Every interleaving -/

/-- Along every interleaving of the steps of any number of clients, with ids that are new, no
    machine has two pending actions of one kind, a request is refused only while such an action is
    pending, and a request that is refused has written nothing, exactly when requests are alone. -/
theorem one_pending_iff {as : List Action} (hs : Start s) (hrun : Along step Fresh s as) :
    ((∀ pre, pre <+: as → OnePending (runFrom step s pre))
        ∧ ∀ pre a, pre ++ [a] <+: as →
          Refuses (runFrom step s pre) a (runFrom step s (pre ++ [a]))
            ∧ Quiet (runFrom step s pre) a (runFrom step s (pre ++ [a])))
      ↔ Along step Alone s as :=
  Along.keeps_iff (I := Inv) (P := OnePending) (T := fun s a s' => Refuses s a s' ∧ Quiet s a s')
    (fun _ h => h.onePending)
    (fun s a hfresh h halone => ⟨step_inv h hfresh halone, step_refuses h halone, step_quiet s a⟩)
    (fun _ _ hfresh h hone hstep => alone_of_step h hfresh hone hstep.1) hs.inv hrun

/-- A machine without actions. -/
def oneMachine : Store := ⟨Dict.empty, [], Dict.empty.set "m" ⟨"Active", ""⟩, fun _ => .idle⟩

lemma start_oneMachine : Start oneMachine where
  idle _ := rfl
  known _ h := nomatch h
  one _ _ _ _ h := nomatch h.1

/-- A client asks for a live response. -/
theorem one_pending_iff_single :
    ((∀ pre, pre <+: [.request 0 ⟨.runLiveResponse, "m", []⟩, .proceed 0 0 "", .proceed 0 0 "",
          .proceed 0 0 "", .proceed 0 0 "", .proceed 0 0 "a"] →
        OnePending (runFrom step oneMachine pre))
      ∧ ∀ pre a, pre ++ [a] <+: [.request 0 ⟨.runLiveResponse, "m", []⟩, .proceed 0 0 "",
          .proceed 0 0 "", .proceed 0 0 "", .proceed 0 0 "", .proceed 0 0 "a"] →
        Refuses (runFrom step oneMachine pre) a (runFrom step oneMachine (pre ++ [a]))
          ∧ Quiet (runFrom step oneMachine pre) a (runFrom step oneMachine (pre ++ [a])))
      ↔ Along step Alone oneMachine [.request 0 ⟨.runLiveResponse, "m", []⟩, .proceed 0 0 "",
          .proceed 0 0 "", .proceed 0 0 "", .proceed 0 0 "", .proceed 0 0 "a"] :=
  one_pending_iff start_oneMachine ⟨trivial, trivial, trivial, trivial, trivial, rfl, trivial⟩

/-- Two clients list the actions before one of them has saved its own. -/
theorem one_pending_iff_race :
    Start oneMachine
      ∧ Along step Fresh oneMachine [.request 0 ⟨.runLiveResponse, "m", []⟩,
        .request 1 ⟨.runLiveResponse, "m", []⟩, .proceed 0 0 "", .proceed 1 0 "", .proceed 0 0 "",
        .proceed 1 0 "", .proceed 0 0 "", .proceed 1 0 "", .proceed 0 0 "", .proceed 1 0 "",
        .proceed 0 0 "a", .proceed 1 0 "b"]
      ∧ ¬OnePending (runFrom step oneMachine [.request 0 ⟨.runLiveResponse, "m", []⟩,
        .request 1 ⟨.runLiveResponse, "m", []⟩, .proceed 0 0 "", .proceed 1 0 "", .proceed 0 0 "",
        .proceed 1 0 "", .proceed 0 0 "", .proceed 1 0 "", .proceed 0 0 "", .proceed 1 0 "",
        .proceed 0 0 "a", .proceed 1 0 "b"]) := by
  refine ⟨start_oneMachine, ⟨trivial, trivial, trivial, trivial, trivial, trivial, trivial, trivial,
    trivial, trivial, rfl, rfl, trivial⟩, fun h => ?_⟩
  have hsame := h.one .runLiveResponse "m" "a" "b"
    ⟨List.mem_cons_self, _, rfl, rfl, rfl, rfl⟩
    ⟨List.mem_cons_of_mem _ List.mem_cons_self, _, rfl, rfl, rfl, rfl⟩
  exact absurd hsame (by decide)

end MachineActions

end Mockdr
