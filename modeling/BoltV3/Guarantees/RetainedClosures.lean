import BoltV3.Workspace.State

/-!
# Retained closures and their holders

The slots of a risk-closure workspace are reused, and so are the identities of closures. A handle is
good for its slot by the lease id that the slot was stamped with, and a permit for its closure by
the generation, which is the lease id of the reservation that was committed. This shows that no
handle and no permit is ever taken for another: `Workspaces.Moves` says what a call can do to the
slots, and the invariants are read off it.
-/

namespace BoltV3.Workspace

open Lib Slots Workspaces
open Std (ExtTreeMap)
open WorkspaceState
open RiskClosureWorkspaceReservation
open SlotState (reservedFor isFree)

/-- The lease on slot `slotIndex`. -/
def leaseAt (authorityIdentity slotIndex : Nat) (checkedOut : ClosureIdentity × Nat × Nat) :
    RiskClosureWorkspaceLease :=
  ⟨authorityIdentity, checkedOut.1, checkedOut.2.1, slotIndex, checkedOut.2.2⟩

theorem reservation_injective : Function.Injective2 RiskClosureWorkspaceReservation.mk := by
  intro i j k l h
  exact RiskClosureWorkspaceReservation.mk.inj h

theorem leaseAt_injective (authorityIdentity : Nat) :
    Function.Injective2 (leaseAt authorityIdentity) := by
  rintro i j ⟨identity, generation, leaseId⟩ ⟨identity', generation', leaseId'⟩ h
  obtain ⟨-, rfl, rfl, rfl, rfl⟩ := h
  exact ⟨rfl, rfl⟩

namespace Workspaces

variable {workspaces next : Workspaces} {entry : Entry} {committed : List (ClosureIdentity × Nat)}

/-- The map has the retained closures, and the live handles the slots that are reserved and checked
out. -/
structure Sound (workspaces : Workspaces) : Prop where
  storage : workspaces.state.storage.length = workspaces.state.slots.length
  indexed : Indexed SlotState.identity workspaces.state.slots workspaces.state.logicalSlots
  reserved : HeldBy reservedFor RiskClosureWorkspaceReservation.mk workspaces.state.slots
    workspaces.reservations
  checkedOut : HeldBy SlotState.checkedOutFor (leaseAt workspaces.state.authorityIdentity)
    workspaces.state.slots workspaces.leases

theorem Sound.validates_reservation (h : workspaces.Sound)
    {reservation : RiskClosureWorkspaceReservation}
    (hlive : reservation ∈ workspaces.reservations) :
    workspaces.state.slots[reservation.slotIndex]? = some (.reserved reservation.leaseId) := by
  obtain ⟨slot, hslot, hfor⟩ := h.reserved.slot hlive
  cases slot <;> cases hfor
  exact hslot

theorem Sound.validates_lease (h : workspaces.Sound) {lease : RiskClosureWorkspaceLease}
    (hlive : lease ∈ workspaces.leases) :
    workspaces.state.slots[lease.slotIndex]? =
        some (.recoveryCheckedOut lease.closureIdentity lease.closureGeneration lease.leaseId) ∧
      lease.authorityIdentity = workspaces.state.authorityIdentity := by
  obtain ⟨i, checkedOut, rfl⟩ := h.checkedOut.total lease hlive
  obtain ⟨slot, hslot, hfor⟩ := h.checkedOut.slot hlive
  cases slot <;> cases hfor
  exact ⟨hslot, rfl⟩

/-! ## What a call can do -/

/-- The authority after a slot was written. -/
def written (workspaces : Workspaces) (slotIndex : Nat) (slot : SlotState)
    (reservations : List RiskClosureWorkspaceReservation)
    (leases : List RiskClosureWorkspaceLease) : Workspaces :=
  ⟨workspaces.state.setSlot slotIndex slot, reservations, leases⟩

/-- The authority with a lease id taken. -/
def advanced (workspaces : Workspaces) : Workspaces :=
  { workspaces with
    state := { workspaces.state with nextLeaseId := workspaces.state.nextLeaseId + 1 } }

/-- The authority with another map. -/
def mapped (workspaces : Workspaces) (logicalSlots : ExtTreeMap ClosureIdentity Nat) : Workspaces :=
  { workspaces with state := { workspaces.state with logicalSlots := logicalSlots } }

/-- The authority with other bytes. -/
def stored (workspaces : Workspaces) (storage : List (List UInt8)) : Workspaces :=
  { workspaces with state := { workspaces.state with storage := storage } }

/-- The closures that a trace has committed, with their generations. -/
def committedIn (trace : List Entry) : List (ClosureIdentity × Nat) :=
  trace.filterMap fun entry =>
    match entry with
    | (.commit reservation identity, .ok ()) => some (identity, reservation.leaseId)
    | _ => none

/-- What a call can do to the slots: nothing, or one of six ways to write one of them. -/
inductive Moves (workspaces : Workspaces) : Entry → Workspaces → Prop
  | stays (entry : Entry) (storage : List (List UInt8))
      (hlength : storage.length = workspaces.state.storage.length)
      (hvalid : entry.2 ≠ .error .invalidLease) (hnot : committedIn [entry] = []) :
      Moves workspaces entry (workspaces.stored storage)
  | reserves (i : Nat) (hfree : workspaces.state.slots[i]? = some .free) :
      Moves workspaces (.checkoutNewRisk, .ok ())
        (workspaces.advanced.written i (.reserved (workspaces.state.nextLeaseId + 1))
          (⟨i, workspaces.state.nextLeaseId + 1⟩ :: workspaces.reservations) workspaces.leases)
  | frees (entry : Entry) (i leaseId : Nat)
      (hreserved : workspaces.state.slots[i]? = some (.reserved leaseId))
      (hvalid : entry.2 ≠ .error .invalidLease) (hnot : committedIn [entry] = []) :
      Moves workspaces entry
        (workspaces.written i .free (workspaces.reservations.erase ⟨i, leaseId⟩) workspaces.leases)
  | commits (i leaseId : Nat) (identity : ClosureIdentity)
      (hreserved : workspaces.state.slots[i]? = some (.reserved leaseId))
      (habsent : workspaces.state.logicalSlots[identity]? = none) :
      Moves workspaces (.commit ⟨i, leaseId⟩ identity, .ok ())
        ((workspaces.mapped (workspaces.state.logicalSlots.insert identity i)).written i
          (.retainedIdle identity leaseId) (workspaces.reservations.erase ⟨i, leaseId⟩)
          workspaces.leases)
  | leases (i generation : Nat) (identity : ClosureIdentity)
      (hidle : workspaces.state.slots[i]? = some (.retainedIdle identity generation)) :
      Moves workspaces (.checkoutRecovery identity, .ok ())
        (workspaces.advanced.written i
          (.recoveryCheckedOut identity generation (workspaces.state.nextLeaseId + 1))
          workspaces.reservations
          (leaseAt workspaces.state.authorityIdentity i
            (identity, generation, workspaces.state.nextLeaseId + 1) :: workspaces.leases))
  | returns (i generation leaseId : Nat) (identity : ClosureIdentity)
      (hout : workspaces.state.slots[i]? = some (.recoveryCheckedOut identity generation leaseId)) :
      Moves workspaces
        (.dropLease (leaseAt workspaces.state.authorityIdentity i (identity, generation, leaseId)),
          .ok ())
        (workspaces.written i (.retainedIdle identity generation) workspaces.reservations
          (workspaces.leases.erase
            (leaseAt workspaces.state.authorityIdentity i (identity, generation, leaseId))))
  | releases (i generation leaseId : Nat) (identity : ClosureIdentity)
      (hout : workspaces.state.slots[i]? = some (.recoveryCheckedOut identity generation leaseId)) :
      Moves workspaces
        (.releaseTerminal
          (leaseAt workspaces.state.authorityIdentity i (identity, generation, leaseId))
          ⟨workspaces.state.authorityIdentity, identity, generation⟩, .ok ())
        ((workspaces.mapped (workspaces.state.logicalSlots.erase identity)).written i .free
          workspaces.reservations (workspaces.leases.erase
            (leaseAt workspaces.state.authorityIdentity i (identity, generation, leaseId))))

theorem Moves.answers (entry : Entry) (hvalid : entry.2 ≠ .error .invalidLease)
    (hnot : committedIn [entry] = []) : Moves workspaces entry workspaces :=
  .stays entry workspaces.state.storage rfl hvalid hnot

theorem moves_of_checkoutNewRisk {result : Except RiskClosureWorkspaceError Unit}
    (h : workspaces.call .checkoutNewRisk = (result, next)) :
    Moves workspaces (.checkoutNewRisk, result) next := by
  simp only [call, checkoutNewRisk] at h
  rcases hfind : workspaces.state.slots.findIdx? SlotState.isFree with _ | i
  · rw [hfind] at h
    cases h
    exact .answers _ nofun rfl
  rw [hfind] at h
  unfold takeLeaseId at h
  rcases hid : checkedAdd u64Max workspaces.state.nextLeaseId 1 with _ | leaseId <;> rw [hid] at h
  · cases h
    exact .answers _ nofun rfl
  · obtain ⟨-, rfl⟩ := checkedAdd_eq_some.mp hid
    cases h
    refine .reserves i ?_
    have hfree := List.of_findIdx?_eq_some hfind
    cases hslot : workspaces.state.slots[i]? with
    | none => simp [hslot] at hfree
    | some slot =>
      rw [hslot] at hfree
      cases slot <;> first | rfl | cases hfree

variable {identity : ClosureIdentity} {i : Nat}

section

variable (hsound : workspaces.Sound)

include hsound

theorem moves_of_checkoutRecovery {result : Except RiskClosureWorkspaceError Unit}
    (h : workspaces.call (.checkoutRecovery identity) = (result, next)) :
    Moves workspaces (.checkoutRecovery identity, result) next := by
  simp only [call, checkoutRecovery] at h
  rcases hindex : workspaces.state.logicalSlots[identity]? with _ | i
  · rw [hindex] at h
    cases h
    exact .answers _ nofun rfl
  rw [hindex] at h
  obtain ⟨slot, hslot, hidentity⟩ := viewAt_eq_some.mp ((hsound.indexed identity i).mp hindex)
  dsimp only at h
  rw [hslot] at h
  cases slot with
  | free | reserved leaseId => cases hidentity
  | recoveryCheckedOut retained generation leaseId =>
    cases h
    exact .answers _ nofun rfl
  | retainedIdle retained generation =>
    obtain rfl : retained = identity := Option.some.inj hidentity
    dsimp only at h
    rw [if_pos rfl] at h
    unfold takeLeaseId at h
    rcases hid : checkedAdd u64Max workspaces.state.nextLeaseId 1 with _ | leaseId
    · rw [hid] at h
      cases h
      exact .answers _ nofun rfl
    · rw [hid] at h
      obtain ⟨-, rfl⟩ := checkedAdd_eq_some.mp hid
      cases h
      exact .leases i generation retained hslot

/-- The bytes of a slot are used. -/
theorem moves_of_withSlotMut {slot : SlotState}
    (hslot : workspaces.state.slots[i]? = some slot) (entry : Entry)
    (useWorkspace : List UInt8 → List UInt8)
    (hresult : entry.2 = (workspaces.state.withSlotMut i useWorkspace).1)
    (hnot : committedIn [entry] = []) :
    Moves workspaces entry
      { workspaces with state := (workspaces.state.withSlotMut i useWorkspace).2 } := by
  obtain ⟨hlt, -⟩ := List.getElem?_eq_some_iff.mp hslot
  rw [← hsound.storage] at hlt
  have hbytes := List.getElem?_eq_getElem hlt
  simp only [withSlotMut, hbytes] at hresult ⊢
  refine .stays entry _ List.length_set ?_ hnot
  rw [hresult]
  nofun

theorem validate_reservation
    {reservation : RiskClosureWorkspaceReservation}
    (hlive : reservation ∈ workspaces.reservations) :
    reservation.validate workspaces.state = .ok () := by
  simp [validate, hsound.validates_reservation hlive]

theorem validate_lease {lease : RiskClosureWorkspaceLease}
    (hlive : lease ∈ workspaces.leases) : lease.validate workspaces.state = .ok () := by
  obtain ⟨hslot, hauthority⟩ := hsound.validates_lease hlive
  simp [RiskClosureWorkspaceLease.validate, hslot, hauthority]

/-- **What a call does** to an authority whose handles hold their slots. -/
theorem moves_of_step (h : Step workspaces entry next) : Moves workspaces entry next := by
  obtain ⟨call, result⟩ := entry
  obtain ⟨hholds, hcall⟩ := h
  cases call with
  | checkoutNewRisk => exact moves_of_checkoutNewRisk hcall
  | checkoutRecovery identity => exact moves_of_checkoutRecovery hsound hcall
  | validateReservation reservation =>
    rw [call, validate_reservation hsound hholds] at hcall
    cases hcall
    exact .answers _ nofun rfl
  | useReserved reservation useWorkspace =>
    cases hcall
    exact moves_of_withSlotMut hsound (hsound.validates_reservation hholds) _ useWorkspace rfl rfl
  | commit reservation identity =>
    have hslot := hsound.validates_reservation hholds
    simp only [call, commit,
      validate_reservation hsound hholds] at hcall
    by_cases hretained : identity ∈ workspaces.state.logicalSlots
    · rw [if_pos hretained] at hcall
      cases hcall
      exact .frees _ reservation.slotIndex reservation.leaseId hslot nofun rfl
    · rw [if_neg hretained] at hcall
      cases hcall
      exact .commits reservation.slotIndex reservation.leaseId identity hslot
        (SortedMap.notMem_iff_getElem?.mp hretained)
  | dropReservation reservation =>
    have hslot := hsound.validates_reservation hholds
    simp only [call, drop, if_pos hslot] at hcall
    cases hcall
    exact .frees _ reservation.slotIndex reservation.leaseId hslot nofun rfl
  | validateLease lease =>
    rw [call, validate_lease hsound hholds] at hcall
    cases hcall
    exact .answers _ nofun rfl
  | useLeased lease useWorkspace =>
    cases hcall
    exact moves_of_withSlotMut hsound (hsound.validates_lease hholds).1 _ useWorkspace rfl rfl
  | releaseTerminal lease permit =>
    obtain ⟨hslot, hauthority⟩ := hsound.validates_lease hholds
    simp only [call, RiskClosureWorkspaceLease.releaseTerminal,
      validate_lease hsound hholds] at hcall
    by_cases hmismatch : permit.authorityIdentity ≠ lease.authorityIdentity ∨
        permit.closureIdentity ≠ lease.closureIdentity ∨
        permit.closureGeneration ≠ lease.closureGeneration
    · rw [if_pos hmismatch] at hcall
      cases hcall
      exact .answers _ nofun rfl
    · rw [if_neg hmismatch] at hcall
      cases hcall
      obtain ⟨authority, identity, generation, i, leaseId⟩ := lease
      obtain ⟨permitAuthority, permitIdentity, permitGeneration⟩ := permit
      simp only [not_or, not_not] at hmismatch
      obtain ⟨rfl, rfl, rfl⟩ := hmismatch
      cases hauthority
      exact .releases i permitGeneration leaseId permitIdentity hslot
  | dropLease lease =>
    obtain ⟨hslot, hauthority⟩ := hsound.validates_lease hholds
    simp only [call, RiskClosureWorkspaceLease.drop, validate_lease hsound hholds]
      at hcall
    cases hcall
    obtain ⟨authority, identity, generation, i, leaseId⟩ := lease
    cases hauthority
    exact .returns i generation leaseId identity hslot

/-! ## Holders -/

theorem Sound.step (h : Step workspaces entry next) : next.Sound := by
  have hset : ∀ {i : Nat} {slot : SlotState},
      workspaces.state.storage.length = (workspaces.state.slots.set i slot).length :=
    hsound.storage.trans List.length_set.symm
  cases moves_of_step hsound h with
  | stays entry storage hlength _ _ =>
    exact ⟨hlength.trans hsound.storage, hsound.indexed, hsound.reserved, hsound.checkedOut⟩
  | reserves i hfree =>
    exact ⟨hset, hsound.indexed.keep hfree rfl,
      hsound.reserved.acquire reservation_injective hfree rfl rfl, hsound.checkedOut.keep hfree rfl⟩
  | frees entry i leaseId hreserved _ _ =>
    exact ⟨hset, hsound.indexed.keep hreserved rfl,
      hsound.reserved.release reservation_injective hreserved rfl rfl,
      hsound.checkedOut.keep hreserved rfl⟩
  | commits i leaseId identity hreserved habsent =>
    exact ⟨hset, hsound.indexed.insert hreserved rfl rfl habsent,
      hsound.reserved.release reservation_injective hreserved rfl rfl,
      hsound.checkedOut.keep hreserved rfl⟩
  | leases i generation identity hidle =>
    exact ⟨hset, hsound.indexed.keep hidle rfl,
      hsound.reserved.keep hidle rfl,
      hsound.checkedOut.acquire (leaseAt_injective _) hidle rfl rfl⟩
  | returns i generation leaseId identity hout =>
    exact ⟨hset, hsound.indexed.keep hout rfl,
      hsound.reserved.keep hout rfl,
      hsound.checkedOut.release (leaseAt_injective _) hout rfl rfl⟩
  | releases i generation leaseId identity hout =>
    exact ⟨hset, hsound.indexed.erase hout rfl rfl,
      hsound.reserved.keep hout rfl,
      hsound.checkedOut.release (leaseAt_injective _) hout rfl rfl⟩

end

/-! ## Generations -/

/-- Lease ids were issued once: those of reservations are not those of closures that were committed.
-/
structure Stamped (workspaces : Workspaces) (committed : List (ClosureIdentity × Nat)) : Prop where
  nodup : (committed.map Prod.snd).Nodup
  issued : ∀ closure ∈ committed, closure.2 ≤ workspaces.state.nextLeaseId
  reserved : ∀ i leaseId, viewAt reservedFor workspaces.state.slots i = some leaseId →
    leaseId ≤ workspaces.state.nextLeaseId ∧ leaseId ∉ committed.map Prod.snd
  distinct : ∀ i j leaseId, viewAt reservedFor workspaces.state.slots i = some leaseId →
    viewAt reservedFor workspaces.state.slots j = some leaseId → i = j
  retained : ∀ i closure, viewAt SlotState.closure workspaces.state.slots i = some closure →
    closure ∈ committed

section

variable (h : workspaces.Stamped committed)

include h

/-- Nothing new is stamped. -/
theorem Stamped.weaken (hle : workspaces.state.nextLeaseId ≤ next.state.nextLeaseId)
    (hreserved : ∀ i leaseId, viewAt reservedFor next.state.slots i = some leaseId →
      viewAt reservedFor workspaces.state.slots i = some leaseId)
    (hclosure : ∀ i closure, viewAt SlotState.closure next.state.slots i = some closure →
      viewAt SlotState.closure workspaces.state.slots i = some closure) :
    next.Stamped committed where
  nodup := h.nodup
  issued closure hmem := Nat.le_trans (h.issued closure hmem) hle
  reserved i leaseId hview :=
    ⟨Nat.le_trans (h.reserved i leaseId (hreserved i leaseId hview)).1 hle,
      (h.reserved i leaseId (hreserved i leaseId hview)).2⟩
  distinct i j leaseId hi hj := h.distinct i j leaseId (hreserved i leaseId hi)
    (hreserved j leaseId hj)
  retained i closure hview := h.retained i closure (hclosure i closure hview)

/-- A slot is reserved under the next lease id. -/
theorem Stamped.reserve (hfree : workspaces.state.slots[i]? = some .free)
    (reservations : List RiskClosureWorkspaceReservation)
    (leases : List RiskClosureWorkspaceLease) :
    (workspaces.advanced.written i (.reserved (workspaces.state.nextLeaseId + 1)) reservations
      leases).Stamped committed where
  nodup := h.nodup
  issued closure hmem := Nat.le_succ_of_le (h.issued closure hmem)
  reserved j leaseId hview := by
    rw [written, setSlot, advanced, viewAt_set hfree] at hview
    split_ifs at hview with hij
    · obtain rfl := Option.some.inj hview
      refine ⟨Nat.le_refl _, fun hmem => ?_⟩
      obtain ⟨closure, hclosure, hstamp⟩ := List.mem_map.mp hmem
      have hissued := h.issued closure hclosure
      omega
    · obtain ⟨hle, hnot⟩ := h.reserved j leaseId hview
      exact ⟨Nat.le_succ_of_le hle, hnot⟩
  distinct j l leaseId hj hl := by
    rw [written, setSlot, advanced, viewAt_set hfree] at hj hl
    have hfresh : ∀ m, viewAt reservedFor workspaces.state.slots m ≠
        some (workspaces.state.nextLeaseId + 1) := by
      intro m hm
      have := (h.reserved m _ hm).1
      omega
    split_ifs at hj hl with hij hil hil
    · exact hij.symm.trans hil
    · obtain rfl := Option.some.inj hj
      exact absurd hl (hfresh l)
    · obtain rfl := Option.some.inj hl
      exact absurd hj (hfresh j)
    · exact h.distinct j l leaseId hj hl
  retained j closure hview := h.retained j closure (viewAt_of_set hfree (.inr rfl) hview)

/-- A reserved slot is committed under its lease id. -/
theorem Stamped.commit {leaseId : Nat}
    (hreserved : workspaces.state.slots[i]? = some (.reserved leaseId))
    (logicalSlots : ExtTreeMap ClosureIdentity Nat)
    (reservations : List RiskClosureWorkspaceReservation)
    (leases : List RiskClosureWorkspaceLease) :
    ((workspaces.mapped logicalSlots).written i (.retainedIdle identity leaseId) reservations
      leases).Stamped (committed ++ [(identity, leaseId)]) := by
  have hview : viewAt reservedFor workspaces.state.slots i = some leaseId := viewAt_of hreserved
  obtain ⟨hle, hnew⟩ := h.reserved i leaseId hview
  have hother : ∀ {j l}, viewAt reservedFor
      (workspaces.state.slots.set i (.retainedIdle identity leaseId)) j = some l →
      viewAt reservedFor workspaces.state.slots j = some l ∧ i ≠ j := by
    intro j l hj
    refine ⟨viewAt_of_set hreserved (.inr rfl) hj, ?_⟩
    rintro rfl
    rw [viewAt_set_self hreserved] at hj
    cases hj
  refine ⟨?_, ?_, ?_, ?_, ?_⟩
  · rw [List.map_append, List.nodup_append]
    refine ⟨h.nodup, List.nodup_singleton _, ?_⟩
    rintro a ha b hb rfl
    rw [List.map_singleton, List.mem_singleton] at hb
    rw [hb] at ha
    exact hnew ha
  · exact List.forall_mem_append.mpr ⟨h.issued, List.forall_mem_singleton.mpr hle⟩
  · intro j l hafter
    obtain ⟨hj, hne⟩ := hother hafter
    refine ⟨(h.reserved j l hj).1, ?_⟩
    rw [List.map_append, List.mem_append, List.map_singleton, List.mem_singleton, not_or]
    refine ⟨(h.reserved j l hj).2, fun hsame => ?_⟩
    rw [hsame] at hj
    exact hne (h.distinct i j _ hview hj)
  · intro j k l hj hk
    exact h.distinct j k l (hother hj).1 (hother hk).1
  · intro j closure hj
    rw [written, setSlot, mapped, viewAt_set hreserved] at hj
    split_ifs at hj
    · obtain rfl := Option.some.inj hj
      exact List.mem_append.mpr (.inr (List.mem_singleton.mpr rfl))
    · exact List.mem_append.mpr (.inl (h.retained j closure hj))

end

theorem Stamped.step (hsound : workspaces.Sound) (h : workspaces.Stamped committed)
    (hstep : Step workspaces entry next) : next.Stamped (committed ++ committedIn [entry]) := by
  -- Only a commit adds a closure.
  have hnil : ∀ {next : Workspaces}, next.Stamped committed → next.Stamped (committed ++ []) := by
    intro next hnext
    rwa [List.append_nil]
  cases moves_of_step hsound hstep with
  | stays entry storage _ _ hnot =>
    rw [hnot, List.append_nil]
    exact h.weaken (Nat.le_refl _) (fun _ _ hview => hview) fun _ _ hview => hview
  | reserves i hfree => exact hnil (h.reserve hfree _ _)
  | frees entry i leaseId hreserved _ hnot =>
    rw [hnot, List.append_nil]
    exact h.weaken (Nat.le_refl _) (fun _ _ => viewAt_of_set hreserved (.inr rfl))
      fun _ _ => viewAt_of_set hreserved (.inr rfl)
  | commits i leaseId identity hreserved _ => exact h.commit hreserved _ _ _
  | leases i generation identity hidle =>
    exact hnil (h.weaken (Nat.le_succ _) (fun _ _ => viewAt_of_set hidle (.inr rfl))
      fun _ _ => viewAt_of_set hidle (.inl rfl))
  | returns i generation leaseId identity hout =>
    exact hnil (h.weaken (Nat.le_refl _) (fun _ _ => viewAt_of_set hout (.inr rfl))
      fun _ _ => viewAt_of_set hout (.inl rfl))
  | releases i generation leaseId identity hout =>
    exact hnil (h.weaken (Nat.le_refl _) (fun _ _ => viewAt_of_set hout (.inr rfl))
      fun _ _ => viewAt_of_set hout (.inr rfl))

/-! ## Runs -/

/-- A new authority. -/
def fresh (state : WorkspaceState) : Workspaces := ⟨state, [], []⟩

theorem sound_fresh {authorityIdentity : Nat} {config : RiskClosureWorkspaceConfig}
    {state : WorkspaceState} (h : allocate authorityIdentity config = .ok state) :
    (fresh state).Sound ∧ (fresh state).Stamped [] := by
  unfold allocate at h
  split_ifs at h
  cases h
  refine ⟨⟨?_, Indexed.empty rfl, HeldBy.nil rfl, HeldBy.nil rfl⟩, ⟨?_, ?_, ?_, ?_, ?_⟩⟩
  · simp [fresh]
  · simp
  · simp
  · intro i leaseId hview
    rw [fresh, viewAt_replicate_none rfl] at hview
    cases hview
  · intro i j leaseId hview
    rw [fresh, viewAt_replicate_none rfl] at hview
    cases hview
  · intro i closure hview
    rw [fresh, viewAt_replicate_none rfl] at hview
    cases hview

theorem sound_run {trace : List Entry} (hrun : Run Step workspaces trace next)
    (hsound : workspaces.Sound) (hstamped : workspaces.Stamped committed) :
    next.Sound ∧ next.Stamped (committed ++ committedIn trace) := by
  induction hrun generalizing committed with
  | nil _ =>
    rw [committedIn, List.filterMap_nil, List.append_nil]
    exact ⟨hsound, hstamped⟩
  | @cons _ _ _ entry rest first _ ih =>
    have hcons : committedIn (entry :: rest) = committedIn [entry] ++ committedIn rest :=
      List.filterMap_append (l := [entry])
    rw [hcons, ← List.append_assoc]
    exact ih (hsound.step first) (hstamped.step hsound first)

/-- A closure is retained in a slot under a generation. -/
def Retains (workspaces : Workspaces) (identity : ClosureIdentity) (generation : Nat) : Prop :=
  ∃ i, viewAt SlotState.closure workspaces.state.slots i = some (identity, generation)

/-- A call that takes a closure out of its slot releases it with its permit. -/
theorem released_of_step (hsound : workspaces.Sound) (hstep : Step workspaces entry next)
    {generation : Nat} (hretains : workspaces.Retains identity generation)
    (hgone : ¬ next.Retains identity generation) :
    ∃ lease ∈ workspaces.leases, entry =
      (.releaseTerminal lease ⟨workspaces.state.authorityIdentity, identity, generation⟩,
        .ok ()) := by
  obtain ⟨j, hj⟩ := hretains
  have hkeeps : ∀ {i : Nat} {old new : SlotState}, workspaces.state.slots[i]? = some old →
      next.state.slots = workspaces.state.slots.set i new → new.closure = old.closure → False := by
    intro i old new hold hslots hsame
    refine hgone ⟨j, ?_⟩
    rw [hslots, viewAt_keep hold hsame, hj]
  have hfills : ∀ {i : Nat} {old new : SlotState}, workspaces.state.slots[i]? = some old →
      next.state.slots = workspaces.state.slots.set i new → old.closure = none → False := by
    intro i old new hold hslots hnone
    refine hgone ⟨j, ?_⟩
    rw [hslots, viewAt_set hold]
    split_ifs with hij
    · rw [← hij, viewAt_of hold, hnone] at hj
      cases hj
    · exact hj
  cases moves_of_step hsound hstep with
  | stays entry storage _ _ _ => exact absurd ⟨j, hj⟩ hgone
  | reserves i hfree => exact (hfills hfree rfl rfl).elim
  | frees entry i leaseId hreserved _ _ | commits i leaseId other hreserved _ =>
    exact (hfills hreserved rfl rfl).elim
  | leases i other identity' hidle => exact (hkeeps hidle rfl rfl).elim
  | returns i other leaseId identity' hout => exact (hkeeps hout rfl rfl).elim
  | releases i generation' leaseId identity' hout =>
    by_cases hij : i = j
    · subst hij
      rw [viewAt_of hout] at hj
      obtain ⟨rfl, rfl⟩ := Prod.mk.inj (Option.some.inj hj)
      exact ⟨_, hstep.1, rfl⟩
    · refine absurd ⟨j, ?_⟩ hgone
      rw [written, setSlot, mapped, viewAt_set hout, if_neg hij, hj]

/-- Every slot is free, reserved, or retains a closure. -/
def Accounted (workspaces : Workspaces) (capacity : Nat) : Prop :=
  workspaces.state.slots.countP isFree + workspaces.reservations.length +
    workspaces.state.logicalSlots.size = capacity

theorem Accounted.step {capacity : Nat} (hsound : workspaces.Sound)
    (h : workspaces.Accounted capacity)
    (hstep : Step workspaces entry next) : next.Accounted capacity := by
  unfold Accounted at h ⊢
  have hset : ∀ {i : Nat} {old new} {reserved retained : Nat},
      workspaces.state.slots[i]? = some old → (if new.isFree then 1 else 0) + reserved + retained =
        (if old.isFree then 1 else 0) + workspaces.reservations.length +
          workspaces.state.logicalSlots.size →
      (workspaces.state.slots.set i new).countP isFree + reserved + retained = capacity := by
    intro i old new reserved retained hold hsum
    obtain ⟨hlt, rfl⟩ := List.getElem?_eq_some_iff.mp hold
    have hcount := List.boole_getElem_le_countP (p := isFree) hlt
    rw [List.countP_set hlt]
    omega
  have herase : ∀ {i leaseId : Nat}, workspaces.state.slots[i]? = some (.reserved leaseId) →
      (workspaces.reservations.erase ⟨i, leaseId⟩).length + 1 = workspaces.reservations.length :=
    fun hreserved =>
      List.length_erase_add_one ((hsound.reserved.held_iff _ _).mp (viewAt_of hreserved))
  cases moves_of_step hsound hstep with
  | stays _ _ _ _ _ => exact h
  | reserves i hfree =>
    refine hset hfree ?_
    simp [written, advanced, setSlot, isFree]
    omega
  | frees _ i leaseId hreserved _ _ =>
    refine hset hreserved ?_
    simp [written, setSlot, isFree, ← herase hreserved]
    omega
  | commits i leaseId identity hreserved habsent =>
    refine hset hreserved ?_
    simp [written, mapped, setSlot, isFree, ExtTreeMap.size_insert, ← herase hreserved,
      SortedMap.notMem_iff_getElem?.mpr habsent]
    omega
  | leases i _ _ hidle => exact hset hidle rfl
  | returns i _ _ _ hout => exact hset hout rfl
  | releases i _ _ identity hout =>
    refine hset hout ?_
    have hindex := (hsound.indexed identity i).mpr (viewAt_of hout)
    have hpos : workspaces.state.logicalSlots.size ≠ 0 := by
      intro hzero
      simp [ExtTreeMap.eq_empty_iff_size_eq_zero.mpr hzero] at hindex
    simp [written, mapped, setSlot, isFree, ExtTreeMap.size_erase,
      ExtTreeMap.mem_iff_isSome_getElem?, hindex]
    omega

end Workspaces

section

variable {authorityIdentity : Nat} {config : RiskClosureWorkspaceConfig} {state : WorkspaceState}
  (hallocate : allocate authorityIdentity config = .ok state)
  {trace : List Workspaces.Entry} {reached : Workspaces}
  (hrun : Run Workspaces.Step (.fresh state) trace reached)

include hallocate hrun

/-- **Retained closures and their holders.** However the calls of an authority are interleaved, in
every state that is reached: the map has the slot of every retained closure and nothing else; a slot
that is reserved or checked out has one live handle; no call on a live handle is answered
`InvalidLease`; a closure leaves its slot by a release with its own permit alone; and no two
closures that were ever retained have the same generation. -/
theorem retained_closures_are_held :
    (∀ (identity : ClosureIdentity) (i : Nat), reached.state.logicalSlots[identity]? = some i ↔
      ∃ slot : SlotState, reached.state.slots[i]? = some slot ∧ slot.identity = some identity) ∧
    (∀ (i j : Nat) (slot slot' : SlotState), reached.state.slots[i]? = some slot →
      reached.state.slots[j]? = some slot' → slot.identity.isSome → slot.identity = slot'.identity →
      i = j) ∧
    (reached.reservations.Nodup ∧ ∀ i leaseId : Nat,
      reached.state.slots[i]? = some (.reserved leaseId) ↔ ⟨i, leaseId⟩ ∈ reached.reservations) ∧
    (reached.leases.Nodup ∧ ∀ (i : Nat) (identity : ClosureIdentity) (generation leaseId : Nat),
      reached.state.slots[i]? = some (.recoveryCheckedOut identity generation leaseId) ↔
        ⟨reached.state.authorityIdentity, identity, generation, i, leaseId⟩ ∈ reached.leases) ∧
    (∀ call, reached.Holds call → (reached.call call).1 ≠ .error .invalidLease) ∧
    (∀ entry next, Workspaces.Step reached entry next → ∀ identity generation,
      reached.Retains identity generation → ¬ next.Retains identity generation →
      ∃ lease ∈ reached.leases, entry = (.releaseTerminal lease
        ⟨reached.state.authorityIdentity, identity, generation⟩, .ok ())) ∧
    ((committedIn trace).map Prod.snd).Nodup ∧
    ∀ identity generation, reached.Retains identity generation →
      (identity, generation) ∈ committedIn trace := by
  obtain ⟨hsound, hstamped⟩ := sound_fresh hallocate
  obtain ⟨hsound, hstamped⟩ := sound_run hrun hsound hstamped
  rw [List.nil_append] at hstamped
  refine ⟨fun identity i => ?_, fun i j slot slot' hi hj hsome hsame => ?_, ⟨hsound.reserved.nodup,
    fun i leaseId => ?_⟩, ⟨hsound.checkedOut.nodup, fun i identity generation leaseId => ?_⟩,
    fun call hholds => ?_, fun entry next hstep identity generation =>
      released_of_step hsound hstep, hstamped.nodup, ?_⟩
  · rw [hsound.indexed identity i, viewAt_eq_some]
  · obtain ⟨identity, hidentity⟩ := Option.isSome_iff_exists.mp hsome
    exact hsound.indexed.unique (viewAt_of hi |>.trans hidentity)
      (viewAt_of hj |>.trans (hsame.symm.trans hidentity))
  · rw [← hsound.reserved.held_iff, viewAt_eq_some]
    constructor
    · intro hslot
      exact ⟨_, hslot, rfl⟩
    · rintro ⟨slot, hslot, hfor⟩
      cases slot <;> cases hfor
      exact hslot
  · have hheld := hsound.checkedOut.held_iff i (identity, generation, leaseId)
    rw [viewAt_eq_some] at hheld
    refine Iff.trans ⟨fun hslot => ⟨_, hslot, rfl⟩, ?_⟩ hheld
    rintro ⟨slot, hslot, hfor⟩
    cases slot <;> cases hfor
    exact hslot
  · have hstep : Workspaces.Step reached (call, (reached.call call).1) (reached.call call).2 :=
      ⟨hholds, rfl⟩
    have hmoves := moves_of_step hsound hstep
    generalize (reached.call call).2 = next at hmoves
    generalize hresult : (reached.call call).1 = result at hmoves
    cases hmoves with
    | stays _ _ _ hvalid _ | frees _ _ _ _ hvalid _ => exact hvalid
    | _ => nofun
  · rintro identity generation ⟨i, hretained⟩
    exact hstamped.retained i _ hretained

/-- **Capacity.** However the calls are interleaved, free slots, live reservations and retained
closures add up to the capacity, and a checkout for new risk is answered `CapacityExhausted` exactly
when the latter two fill it. -/
theorem capacity_is_conserved :
    reached.Accounted config.capacity ∧
    ((reached.call .checkoutNewRisk).1 = .error .capacityExhausted ↔
      reached.reservations.length + reached.state.logicalSlots.size = config.capacity) := by
  have hfresh : (fresh state).Accounted config.capacity := by
    unfold allocate at hallocate
    split_ifs at hallocate
    cases hallocate
    simp [Accounted, fresh, List.countP_replicate, isFree]
  have hslots : reached.Accounted config.capacity := by
    refine (hrun.invariant (I := fun w => w.Sound ∧ w.Accounted config.capacity) ?_
      ⟨(sound_fresh hallocate).1, hfresh⟩).2
    rintro s a t ⟨hsound, hslots⟩ hstep
    exact ⟨hsound.step hstep, hslots.step hsound hstep⟩
  refine ⟨hslots, ?_⟩
  have hfull : reached.state.slots.countP isFree = 0 ↔
      reached.reservations.length + reached.state.logicalSlots.size = config.capacity := by
    unfold Accounted at hslots
    omega
  simp only [← hfull, List.countP_eq_zero, Bool.not_eq_true, ← List.findIdx?_eq_none_iff, call,
    checkoutNewRisk, takeLeaseId]
  rcases reached.state.slots.findIdx? isFree with _ | i
  · simp
  · rcases checkedAdd u64Max reached.state.nextLeaseId 1 with _ | leaseId <;> simp

end

/-! A closure is committed and checked out, and a permit of another generation does not release it.
-/

namespace StalePermit

def initial : WorkspaceState where
  authorityIdentity := 7
  slotBytes := 4
  storage := List.replicate 2 (List.replicate 4 255)
  slots := List.replicate 2 .free
  logicalSlots := ∅
  nextLeaseId := 0

def closure : ClosureIdentity := ⟨"closure", by decide⟩

def reserved : Workspaces := ((fresh initial).call .checkoutNewRisk).2

def retained : Workspaces := (reserved.call (.commit ⟨0, 1⟩ closure)).2

def checkedOut : Workspaces := (retained.call (.checkoutRecovery closure)).2

def release : WorkspaceCall := .releaseTerminal ⟨7, closure, 1, 0, 2⟩ ⟨7, closure, 0⟩

def trace : List Workspaces.Entry :=
  [(.checkoutNewRisk, .ok ()), (.commit ⟨0, 1⟩ closure, .ok ()),
    (.checkoutRecovery closure, .ok ()), (release, .error .leaseIdentityMismatch)]

set_option maxRecDepth 4000 in
theorem run_trace : Run Workspaces.Step (.fresh initial) trace checkedOut := by
  have hcommit : (⟨0, 1⟩ : RiskClosureWorkspaceReservation) ∈ reserved.reservations := by
    decide +kernel
  have hlease : (⟨7, closure, 1, 0, 2⟩ : RiskClosureWorkspaceLease) ∈ checkedOut.leases := by
    decide +kernel
  exact .cons ⟨trivial, rfl⟩ (.cons ⟨hcommit, rfl⟩ (.cons ⟨trivial, rfl⟩
    (.cons ⟨hlease, rfl⟩ (.nil _))))

theorem closure_stays_retained : allocate 7 ⟨8, 4, 2, false⟩ = .ok initial ∧
      checkedOut.Retains closure 1 ∧ (closure, 1) ∈ committedIn trace := by
  have hallocate : allocate 7 ⟨8, 4, 2, false⟩ = .ok initial := rfl
  have hretains : checkedOut.Retains closure 1 := ⟨0, by decide +kernel⟩
  have hheld := retained_closures_are_held hallocate run_trace
  exact ⟨hallocate, hretains, hheld.2.2.2.2.2.2.2 closure 1 hretains⟩

theorem one_slot_is_left : checkedOut.Accounted 2 :=
  (capacity_is_conserved (rfl : allocate 7 ⟨8, 4, 2, false⟩ = .ok initial) run_trace).1

end StalePermit

end BoltV3.Workspace
