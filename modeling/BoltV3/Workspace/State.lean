import BoltV3.Lib.Machine
import BoltV3.Lib.Rust
import BoltV3.Lib.Slots

/-!
# Risk-closure workspaces

`risk_closure_workspace.rs` of the application resource ledger: a fixed number of workspace slots
behind one mutex, the reservations of new risk, the closures that are retained in slots, the leases
that recover them, and the permits that release them.

* Every call takes the lock of the state for itself, so a step is what one call does under the lock,
  and calls of any number of threads are a sequence of steps. `checkout_new_risk` takes it twice: it
  reserves a slot, and clears the workspace as any holder of a reservation would. The bytes of a
  slot have a lock of their own; using them is a step too.
* A reservation and a lease are values that cannot be cloned. The live ones are those that are
  neither consumed nor dropped. A call that gives its handle up while `active` leaves it live, to be
  dropped by a step of its own.
* `Arc::ptr_eq` of two authorities is equality of their names. The lock of another authority is not
  touched by any call of this one.
* A mutex is poisoned by a panic under its lock; nothing panics under the lock of the state, and
  `with_slot_mut` catches what its closure throws, so `StatePoisoned` is left out. So is a failed
  allocation.
-/

namespace BoltV3.Workspace

open Lib Slots
open Std (ExtTreeMap)

/-- `ClosureIdentity`; `new` refuses a blank one. -/
structure ClosureIdentity where
  value : String
  notBlank : isBlank value = false
deriving DecidableEq

instance : Ord ClosureIdentity := ⟨compareOn ClosureIdentity.value⟩

instance : Std.TransOrd ClosureIdentity :=
  inferInstanceAs (Std.TransCmp (compareOn ClosureIdentity.value))

instance : Std.LawfulEqOrd ClosureIdentity where
  eq_of_compare {a b} h := by
    have hcompare : compare a.value b.value = .eq := h
    have hvalue : a.value = b.value := Std.LawfulEqOrd.eq_of_compare hcompare
    cases a
    cases b
    cases hvalue
    rfl

inductive RiskClosureWorkspaceError
  | invalidConfiguration | capacityExhausted | duplicateClosureIdentity | unknownClosureIdentity
  | closureAlreadyCheckedOut | leaseIdentityMismatch | invalidLease | leaseIdExhausted

structure RiskClosureWorkspaceConfig where
  (arenaBytes slotBytes capacity : Nat)
  productionActivationEnabled : Bool

inductive SlotState
  | free
  | reserved (leaseId : Nat)
  | retainedIdle (closureIdentity : ClosureIdentity) (closureGeneration : Nat)
  | recoveryCheckedOut (closureIdentity : ClosureIdentity) (closureGeneration leaseId : Nat)
deriving DecidableEq

namespace SlotState

/-- `matches!(slot, SlotState::Free)`. -/
def isFree : SlotState → Bool
  | free => true
  | _ => false

/-- The closure that the slot retains, and its generation. -/
def closure : SlotState → Option (ClosureIdentity × Nat)
  | retainedIdle identity generation => some (identity, generation)
  | recoveryCheckedOut identity generation _ => some (identity, generation)
  | _ => none

/-- The identity that the slot carries. -/
def identity (slot : SlotState) : Option ClosureIdentity := slot.closure.map Prod.fst

/-- The lease id of the reservation. -/
def reservedFor : SlotState → Option Nat
  | reserved leaseId => some leaseId
  | _ => none

/-- What the lease has checked out. -/
def checkedOutFor : SlotState → Option (ClosureIdentity × Nat × Nat)
  | recoveryCheckedOut identity generation leaseId => some (identity, generation, leaseId)
  | _ => none

end SlotState

/-- `WorkspaceState`, with the bytes of its `WorkspaceStorage`. -/
structure WorkspaceState where
  (authorityIdentity slotBytes : Nat)
  storage : List (List UInt8)
  slots : List SlotState
  logicalSlots : ExtTreeMap ClosureIdentity Nat
  nextLeaseId : Nat

namespace WorkspaceState

def allocate (authorityIdentity : Nat) (config : RiskClosureWorkspaceConfig) :
    Except RiskClosureWorkspaceError WorkspaceState :=
  if config.arenaBytes = 0 ∨ config.slotBytes = 0 ∨ config.capacity = 0 ∨
      config.arenaBytes % config.slotBytes ≠ 0 ∨
      config.arenaBytes / config.slotBytes ≠ config.capacity ∨
      config.productionActivationEnabled = true then
    .error .invalidConfiguration
  else
    .ok
      { authorityIdentity := authorityIdentity, slotBytes := config.slotBytes
        storage := List.replicate config.capacity (List.replicate config.slotBytes 255)
        slots := List.replicate config.capacity .free, logicalSlots := ∅, nextLeaseId := 0 }

variable (state : WorkspaceState)

def takeLeaseId : Except RiskClosureWorkspaceError (Nat × WorkspaceState) :=
  match checkedAdd u64Max state.nextLeaseId 1 with
  | none => .error .leaseIdExhausted
  | some leaseId => .ok (leaseId, { state with nextLeaseId := leaseId })

def setSlot (slotIndex : Nat) (slot : SlotState) : WorkspaceState :=
  { state with slots := state.slots.set slotIndex slot }

/-- `WorkspaceStorage::with_slot_mut`, and `clear_slot` for the closure that fills with zeros. What
the closure leaves there is all that is seen of it, also if it panics; that it cannot change the
length is not used. -/
def withSlotMut (slotIndex : Nat) (useWorkspace : List UInt8 → List UInt8) :
    Except RiskClosureWorkspaceError Unit × WorkspaceState :=
  match state.storage[slotIndex]? with
  | none => (.error .invalidLease, state)
  | some workspace =>
    (.ok (), { state with storage := state.storage.set slotIndex (useWorkspace workspace) })

end WorkspaceState

/-! ## Handles -/

structure RiskClosureWorkspaceReservation where
  (slotIndex leaseId : Nat)
deriving DecidableEq

structure RiskClosureWorkspaceLease where
  authorityIdentity : Nat
  closureIdentity : ClosureIdentity
  (closureGeneration slotIndex leaseId : Nat)
deriving DecidableEq

structure TerminalReleasePermit where
  authorityIdentity : Nat
  closureIdentity : ClosureIdentity
  closureGeneration : Nat

/-- What a call did: its result, the state, and whether its handle is still `active`. -/
structure Called where
  result : Except RiskClosureWorkspaceError Unit
  state : WorkspaceState
  active : Bool

namespace RiskClosureWorkspaceReservation

variable (reservation : RiskClosureWorkspaceReservation) (state : WorkspaceState)

def validate : Except RiskClosureWorkspaceError Unit :=
  match state.slots[reservation.slotIndex]? with
  | some (.reserved leaseId) =>
    if leaseId = reservation.leaseId then .ok () else .error .invalidLease
  | _ => .error .invalidLease

def commit (closureIdentity : ClosureIdentity) (state : WorkspaceState) : Called :=
  match reservation.validate state with
  | .error error => ⟨.error error, state, true⟩
  | .ok () =>
    if closureIdentity ∈ state.logicalSlots then
      ⟨.error .duplicateClosureIdentity, state.setSlot reservation.slotIndex .free, false⟩
    else
      let state := { state with
        logicalSlots := state.logicalSlots.insert closureIdentity reservation.slotIndex }
      ⟨.ok (), state.setSlot reservation.slotIndex
        (.retainedIdle closureIdentity reservation.leaseId), false⟩

/-- `RiskClosureWorkspaceReservation::drop` of an active reservation. -/
def drop : WorkspaceState :=
  if state.slots[reservation.slotIndex]? = some (.reserved reservation.leaseId) then
    state.setSlot reservation.slotIndex .free
  else state

end RiskClosureWorkspaceReservation

namespace RiskClosureWorkspaceLease

variable (lease : RiskClosureWorkspaceLease)

def validate (state : WorkspaceState) : Except RiskClosureWorkspaceError Unit :=
  match state.slots[lease.slotIndex]? with
  | some (.recoveryCheckedOut closureIdentity closureGeneration leaseId) =>
    if closureIdentity = lease.closureIdentity ∧ closureGeneration = lease.closureGeneration ∧
        leaseId = lease.leaseId ∧ state.authorityIdentity = lease.authorityIdentity then
      .ok ()
    else .error .invalidLease
  | _ => .error .invalidLease

/-- `RiskClosureWorkspaceLease::release_terminal`. A failure hands the lease and the permit back. -/
def releaseTerminal (permit : TerminalReleasePermit) (state : WorkspaceState) : Called :=
  if permit.authorityIdentity ≠ lease.authorityIdentity ∨
      permit.closureIdentity ≠ lease.closureIdentity ∨
      permit.closureGeneration ≠ lease.closureGeneration then
    ⟨.error .leaseIdentityMismatch, state, true⟩
  else
    match lease.validate state with
    | .error error => ⟨.error error, state, true⟩
    | .ok () =>
      let state := { state with logicalSlots := state.logicalSlots.erase lease.closureIdentity }
      ⟨.ok (), state.setSlot lease.slotIndex .free, false⟩

/-- `RiskClosureWorkspaceLease::drop` of an active lease. -/
def drop (state : WorkspaceState) : WorkspaceState :=
  match lease.validate state with
  | .ok () =>
    state.setSlot lease.slotIndex (.retainedIdle lease.closureIdentity lease.closureGeneration)
  | .error _ => state

end RiskClosureWorkspaceLease

namespace WorkspaceState

variable (state : WorkspaceState)

/-- The first lock of `checkout_new_risk`. -/
def checkoutNewRisk :
    Except RiskClosureWorkspaceError (RiskClosureWorkspaceReservation × WorkspaceState) :=
  match state.slots.findIdx? SlotState.isFree with
  | none => .error .capacityExhausted
  | some slotIndex => do
    let (leaseId, state) ← state.takeLeaseId
    return (⟨slotIndex, leaseId⟩, state.setSlot slotIndex (.reserved leaseId))

def checkoutRecovery (closureIdentity : ClosureIdentity) :
    Except RiskClosureWorkspaceError (RiskClosureWorkspaceLease × WorkspaceState) :=
  match state.logicalSlots[closureIdentity]? with
  | none => .error .unknownClosureIdentity
  | some slotIndex =>
    match state.slots[slotIndex]? with
    | some (.retainedIdle retained closureGeneration) =>
      if retained = closureIdentity then do
        let (leaseId, state) ← state.takeLeaseId
        let state := state.setSlot slotIndex
          (.recoveryCheckedOut closureIdentity closureGeneration leaseId)
        return (⟨state.authorityIdentity, closureIdentity, closureGeneration, slotIndex, leaseId⟩,
          state)
      else .error .invalidLease
    | some (.recoveryCheckedOut _ _ _) => .error .closureAlreadyCheckedOut
    | _ => .error .invalidLease

end WorkspaceState

/-! ## Calls -/

/-- The calls on an authority and on its handles, one for each time that a lock is taken.
`workspace_len` and `validated_storage` validate the handle. -/
inductive WorkspaceCall
  | checkoutNewRisk
  | checkoutRecovery (closureIdentity : ClosureIdentity)
  | validateReservation (reservation : RiskClosureWorkspaceReservation)
  | useReserved (reservation : RiskClosureWorkspaceReservation)
      (useWorkspace : List UInt8 → List UInt8)
  | commit (reservation : RiskClosureWorkspaceReservation) (closureIdentity : ClosureIdentity)
  | dropReservation (reservation : RiskClosureWorkspaceReservation)
  | validateLease (lease : RiskClosureWorkspaceLease)
  | useLeased (lease : RiskClosureWorkspaceLease) (useWorkspace : List UInt8 → List UInt8)
  | releaseTerminal (lease : RiskClosureWorkspaceLease) (permit : TerminalReleasePermit)
  | dropLease (lease : RiskClosureWorkspaceLease)

/-- The authority with the handles that are live. -/
structure Workspaces where
  state : WorkspaceState
  reservations : List RiskClosureWorkspaceReservation
  leases : List RiskClosureWorkspaceLease

namespace Workspaces

variable (workspaces : Workspaces)

/-- What a call returns, and the authority and the live handles after it. -/
def call :
    WorkspaceCall → Except RiskClosureWorkspaceError Unit × Workspaces
  | .checkoutNewRisk =>
    match workspaces.state.checkoutNewRisk with
    | .error error => (.error error, workspaces)
    | .ok (reservation, state) =>
      (.ok (), { workspaces with
        state := state, reservations := reservation :: workspaces.reservations })
  | .checkoutRecovery closureIdentity =>
    match workspaces.state.checkoutRecovery closureIdentity with
    | .error error => (.error error, workspaces)
    | .ok (lease, state) =>
      (.ok (), { workspaces with state := state, leases := lease :: workspaces.leases })
  | .validateReservation reservation => (reservation.validate workspaces.state, workspaces)
  | .useReserved reservation useWorkspace =>
    let (result, state) := workspaces.state.withSlotMut reservation.slotIndex useWorkspace
    (result, { workspaces with state := state })
  | .commit reservation closureIdentity =>
    let called := reservation.commit closureIdentity workspaces.state
    (called.result, { workspaces with
      state := called.state
      reservations :=
        if called.active then workspaces.reservations
        else workspaces.reservations.erase reservation })
  | .dropReservation reservation =>
    (.ok (), { workspaces with
      state := reservation.drop workspaces.state
      reservations := workspaces.reservations.erase reservation })
  | .validateLease lease => (lease.validate workspaces.state, workspaces)
  | .useLeased lease useWorkspace =>
    let (result, state) := workspaces.state.withSlotMut lease.slotIndex useWorkspace
    (result, { workspaces with state := state })
  | .releaseTerminal lease permit =>
    let called := lease.releaseTerminal permit workspaces.state
    (called.result, { workspaces with
      state := called.state
      leases := if called.active then workspaces.leases else workspaces.leases.erase lease })
  | .dropLease lease =>
    (.ok (), { workspaces with
      state := lease.drop workspaces.state, leases := workspaces.leases.erase lease })

/-- A call on a handle needs the handle. -/
def Holds : WorkspaceCall → Prop
  | .checkoutNewRisk => True
  | .checkoutRecovery _ => True
  | .validateReservation reservation => reservation ∈ workspaces.reservations
  | .useReserved reservation _ => reservation ∈ workspaces.reservations
  | .commit reservation _ => reservation ∈ workspaces.reservations
  | .dropReservation reservation => reservation ∈ workspaces.reservations
  | .validateLease lease => lease ∈ workspaces.leases
  | .useLeased lease _ => lease ∈ workspaces.leases
  | .releaseTerminal lease _ => lease ∈ workspaces.leases
  | .dropLease lease => lease ∈ workspaces.leases

/-- A call and what it returned. -/
abbrev Entry := WorkspaceCall × Except RiskClosureWorkspaceError Unit

/-- One call of some thread. -/
def Step (entry : Entry) (next : Workspaces) : Prop :=
  workspaces.Holds entry.1 ∧ workspaces.call entry.1 = (entry.2, next)

end Workspaces

end BoltV3.Workspace
