import BoltV3.Guarantees.Budget

/-!
# Permits of an execution

A permit owns reservations and a share of the counters from the moment it is granted. Whatever
happens in between, it can take its orders over the submit boundary, and its drop gives back exactly
what it owns, as long as the revision has room for the reservations that are still to be released.

* `Headroom` is that condition on an execution; `headroom_of_steps` derives it from a bound on the
  number of steps.
* Without a rebuild the gate is never reconciled, so no permit has a reservation and none can be
  stranded.
-/

namespace BoltV3.Submit

open Lib Loss Capital Evidence ReservationRecoveryFacts List
open Std (ExtTreeMap)

section

variable [DecimalArith] {setup : Setup} {s s' : System} {index : Nat} {held : Held}

/-! ## Taking back the counters -/

/-- **The counters of an outstanding permit can be taken back.** -/
theorem Sound.counterRollback (h : Sound setup s) (hheld : held ∈ s.outstanding) :
    ∃ counter values, held.permit.counterRollback = some counter ∧
      checkedAdmissionCounterRollback s.inner counter = some values := by
  obtain ⟨_, _, hsimulates⟩ := h.simulated
  have hconsuming : held ∈ s.consuming := mem_append_left _ (mem_append_left _ hheld)
  obtain ⟨executionClientId, evidenceFree, hcounter⟩ := (h.counts.formed held hconsuming).counter
  obtain ⟨horders, hclient⟩ := h.counts.orders_le hconsuming hcounter
  have hids := h.authority.heldIds hheld (hsimulates.uncommitted held hheld)
  rw [Held.evidenceFree, hcounter] at hids
  exact ⟨_, _, hcounter,
    checkedAdmissionCounterRollback_eq_some.mpr ⟨horders, hclient, hids, rfl⟩⟩

/-- A permit whose reservations can be rolled back is rolled back. -/
theorem Sound.rolledBack (h : Sound setup s) (hheld : held ∈ s.outstanding)
    {prepared : Option SubmitCapitalAdmissionState × Nat}
    (hprepared : prepareCapitalAdmissionReservationRollback s.inner held.permit.rollbacks =
      .ok prepared) :
    ∃ counter values, held.permit.counterRollback = some counter ∧
      rolledBackPermit s.inner held.permit.rollbacks held.permit.counterRollback =
        some (applyAdmissionCounterRollback
          (commitCapitalAdmissionReservationRollback s.inner prepared) counter values) := by
  obtain ⟨counter, values, hcounter, hvalues⟩ := h.counterRollback hheld
  refine ⟨counter, values, hcounter, ?_⟩
  rw [hcounter]
  unfold rolledBackPermit
  dsimp only
  rw [hvalues, hprepared]

/-- If every outstanding permit can be rolled back, none is stranded. -/
theorem Effect.stranded_eq (h : Effect s s')
    (hrolled : ∀ held ∈ s.outstanding, rolledBackPermit s.inner held.permit.rollbacks
      held.permit.counterRollback ≠ none) : s'.stranded = s.stranded := by
  cases h with
  | stranded outstanding rolled =>
    exact absurd rolled (hrolled _ (mem_of_getElem? outstanding))
  | _ => rfl

/-! ## Executions without a rebuild -/

/-- Nothing is reserved, and no permit is stranded. -/
structure Unreserved (setup : Setup) (s : System) : Prop where
  sound : Sound setup s
  closed : ∃ market book, Simulates setup s market book ∧ book.gate.reconciled = false
  rollbacks : ∀ held ∈ s.outstanding, held.permit.rollbacks = []
  stranded : s.stranded = []

theorem Unreserved.step (h : Unreserved setup s) {op : Op setup}
    (hop : ∀ projection nowNs append, op ≠ .rebuild projection nowNs append) :
    Unreserved setup (s.step op) := by
  obtain ⟨market, book, hsimulates, hclosed⟩ := h.closed
  obtain ⟨moves, market', book', hmoves⟩ := step_moves hsimulates op
  obtain ⟨hclosed', hreserve⟩ := Book.run_closed hmoves.run (hmoves.no_rebuild hop) hclosed
  refine ⟨h.sound.step op, ⟨market', book', hmoves.simulates, hclosed'⟩, ?_, ?_⟩
  · intro held hheld
    rcases hmoves.issued held hheld with hold | hnew
    · exact h.rollbacks held hold
    · refine eq_nil_iff_forall_not_mem.mpr fun r hr => ?_
      obtain ⟨holding, hmem⟩ := hnew r hr
      exact hreserve _ _ hmem
  · rw [(step_effect hsimulates.uncommitted op).stranded_eq]
    · exact h.stranded
    · intro held hheld
      have hprepared : prepareCapitalAdmissionReservationRollback s.inner held.permit.rollbacks =
          .ok (none, s.inner.capitalAdmissionStateRevision) := by
        rw [h.rollbacks held hheld]
        rfl
      obtain ⟨counter, values, -, hsome⟩ := h.sound.rolledBack hheld hprepared
      rw [hsome]
      nofun

theorem run_unreserved (setup : Setup) (ops : List (Op setup))
    (hops : ∀ op ∈ ops, ∀ projection nowNs append, op ≠ .rebuild projection nowNs append) :
    Unreserved setup (setup.start.run ops) := by
  have hstart : Unreserved setup setup.start :=
    ⟨reachable_sound setup [], ⟨none, setup.book, start_simulates setup, rfl⟩,
      by simp [Setup.start], rfl⟩
  generalize setup.start = s at hstart
  induction ops generalizing s with
  | nil => exact hstart
  | cons op ops ih =>
    refine ih (fun op hmem => hops op (mem_cons_of_mem _ hmem)) _ ?_
    exact hstart.step (hops op mem_cons_self)

/-- The operations that admit orders and end permits: `admit`, the basket reserve, the commit of a
permit and its drop. -/
def Op.onPermits : Op setup → Bool
  | .admitAt .. => true
  | .basket .. => true
  | .settle .. => true
  | .drop .. => true
  | _ => false

/-- **The counters are the orders of the permits that consume capacity**: the outstanding and the
committed ones, and no others as long as there are only admissions, commits and drops. -/
theorem counters_match_permits (setup : Setup) (ops : List (Op setup)) :
    let s := setup.start.run ops
    (∀ executionClientId, s.inner.executionClientCount executionClientId =
      ((s.outstanding ++ s.committed ++ s.stranded).map (·.ordersOf executionClientId)).sum) ∧
    ((∀ op ∈ ops, op.onPermits = true) → s.stranded = []) ∧
    (s.inner.admittedOrderCountByExecutionClient.toList.map Prod.snd).sum =
      s.inner.admittedOrderCount ∧
    (∀ (executionClientId : String) limits, setup.limits[executionClientId]? = some limits →
      s.inner.executionClientCount executionClientId ≤ limits.maxOrderCount) ∧
    s.inner.admittedOrderCount ≤ u32Max ∧
    (∀ executionClientId, s.inner.executionClientCount executionClientId ≤ u32Max) ∧
    ∀ held ∈ s.outstanding, ∃ counter values, held.permit.counterRollback = some counter ∧
      checkedAdmissionCounterRollback s.inner counter = some values := by
  intro s
  have hsound := reachable_sound setup ops
  have hcounts := hsound.counts
  refine ⟨hcounts.counts, ?_, hcounts.sum, hcounts.capped, hcounts.bounded, ?_,
    fun held hheld => hsound.counterRollback hheld⟩
  · intro hops
    refine (run_unreserved setup ops fun op hmem projection nowNs append heq => ?_).stranded
    have hpermits := hops op hmem
    rw [heq] at hpermits
    cases hpermits
  · intro executionClientId
    have hle : s.ordersOf executionClientId ≤ s.orders := by
      refine sum_le_sum fun held _ => ?_
      unfold Held.ordersOf
      split
      · exact le_rfl
      · exact Nat.zero_le _
    calc s.inner.executionClientCount executionClientId
        = s.ordersOf executionClientId := hcounts.counts executionClientId
      _ ≤ s.orders := hle
      _ = s.inner.admittedOrderCount := hcounts.count.symm
      _ ≤ u32Max := hcounts.bounded

/-! ## Ending a permit -/

/-- What the gate says, next to the reservations. -/
def Inner.gateFlags (inner : Inner) : Option (Bool × Option String × Option Nat × Bool) :=
  inner.capitalAdmission.map fun capital =>
    (capital.gate.reconciliationComplete, capital.captureFailureSource,
      capital.captureFailureObservedAtNs, capital.fillEvidenceIntegrityFailed)

/-- The permit is taken back, and nothing else: its own reservations, which it still owned, its
share of the counters, and the evidence-free orders it held. -/
structure Releases (inner : Inner) (held : Held) (inner' : Inner) : Prop where
  owned : ∀ r ∈ held.permit.rollbacks, ∃ record entry,
    inner.HoldsCapital r.clientOrderId record entry ∧ record.phase = .reserved ∧
      record.attribution.submitReservationId = r.submitReservationId
  reservations : ∀ id record entry, inner'.HoldsCapital id record entry ↔
    inner.HoldsCapital id record entry ∧ id ∉ held.permit.rollbacks.map (·.clientOrderId)
  orders : inner'.admittedOrderCount + held.clientOrderIds.length = inner.admittedOrderCount
  clients : ∀ executionClientId, inner'.executionClientCount executionClientId +
    held.ordersOf executionClientId = inner.executionClientCount executionClientId
  evidenceFree : ∀ id : String, inner'.evidenceFreeNonReservationAdmissions[id]? =
    if id ∈ held.evidenceFree then none else inner.evidenceFreeNonReservationAdmissions[id]?
  terms : inner'.terms = inner.terms
  flags : inner'.gateFlags = inner.gateFlags
  frame : inner' = { inner with
    capitalAdmission := inner'.capitalAdmission
    capitalAdmissionStateRevision := inner'.capitalAdmissionStateRevision
    admittedOrderCount := inner'.admittedOrderCount
    admittedOrderCountByExecutionClient := inner'.admittedOrderCountByExecutionClient
    evidenceFreeNonReservationAdmissions := inner'.evidenceFreeNonReservationAdmissions }

variable {terms : Option CapitalTerms} {market : Option Market} {inner inner' : Inner}
  {book book' : Book} {ops : List (Op setup)}

omit [DecimalArith] in
/-- Two states of one configuration with the same gate in their books. -/
theorem Represents.gateFlags {market' : Option Market} (h : Represents terms market inner book)
    (h' : Represents terms market' inner' book') (hgate : book'.gate = book.gate) :
    inner'.gateFlags = inner.gateFlags := by
  refine Represents.map_eq (v := fun book => (book.gate.reconciled,
    book.gate.captureFailure.map Prod.fst, book.gate.captureFailure.map Prod.snd,
    book.gate.fillFailed)) ?_ h h' (by rw [hgate])
  intro capital book hrep
  rw [hrep.reconciled, hrep.captureSource, hrep.captureObserved, hrep.fillFailed]

omit [DecimalArith] in
/-- The reservations of an outstanding permit are among those the revision must have room for. -/
theorem System.rollbacks_le_load (hheld : held ∈ s.outstanding) :
    s.inner.capitalAdmissionStateRevision + held.permit.rollbacks.length ≤ s.load := by
  have hsublist : held.permit.rollbacks.length ≤ s.rollbacks.length := by
    rw [System.rollbacks, length_flatMap]
    exact le_sum_of_mem (mem_map_of_mem hheld)
  unfold System.load
  omega

/-- An outstanding permit owns its reservations. -/
theorem Simulates.ownedBy (h : Simulates setup s market book) (hheld : held ∈ s.outstanding) :
    Owned book held.permit.rollbacks :=
  h.owned.sublist (sublist_flatten_of_mem (mem_map_of_mem hheld))

/-- Rolling back takes the reservations of a permit out, and leaves the others and the gate. -/
theorem Represents.rolledBack {rollbacks : List CapitalAdmissionReservationRollback}
    (h : Represents terms market inner book) (h' : Represents terms market inner' book')
    (hrun : Run (BookStep terms) book (rollbacks.reverse.map fun r => .rollback r.clientOrderId)
      book') :
    (∀ id record entry, inner'.HoldsCapital id record entry ↔
      inner.HoldsCapital id record entry ∧ id ∉ rollbacks.map (·.clientOrderId)) ∧
    inner'.gateFlags = inner.gateFlags := by
  have hmoves : (rollbacks.reverse.map fun r => Move.rollback r.clientOrderId) =
      (rollbacks.map (·.clientOrderId)).reverse.map .rollback := by
    rw [← map_reverse, map_map]
    rfl
  rw [hmoves] at hrun
  obtain ⟨hlookup, hgate⟩ := Book.run_rollbacks hrun
  refine ⟨fun id record entry => ?_, h.gateFlags h' hgate⟩
  rw [h'.holdsCapital_iff, h.holdsCapital_iff, hlookup]
  by_cases hid : id ∈ rollbacks.map (·.clientOrderId)
  · simp [hid]
  · simp [hid]

/-- **An outstanding permit is released while the revision has room.** -/
theorem Sound.releases (h : Sound setup s) (hheld : held ∈ s.outstanding) (room : s.load ≤ u64Max) :
    ∃ inner', rolledBackPermit s.inner held.permit.rollbacks held.permit.counterRollback =
      some inner' ∧ Releases s.inner held inner' := by
  obtain ⟨market, book, hsimulates⟩ := h.simulated
  have hrep := hsimulates.represents
  have howned := hsimulates.ownedBy hheld
  have hload := System.rollbacks_le_load hheld
  rcases prepareRollback_owned hrep howned with
    ⟨prepared, book', hprepared, hrep', hrun⟩ | ⟨-, hexhausted⟩
  swap
  · rw [hrep.revision] at hload
    omega
  obtain ⟨counter, values, hcounter, hrolled⟩ := h.rolledBack hheld hprepared
  have hconsuming : held ∈ s.consuming := mem_append_left _ (mem_append_left _ hheld)
  obtain ⟨⟨executionClientId, evidenceFree, hformed⟩, -⟩ := h.counts.formed held hconsuming
  have hgrants := hrolled
  rw [hformed] at hgrants
  obtain ⟨horders, ⟨n, hcount, hle⟩, hgrants⟩ := rolledBackPermit_grants hgrants
  have hfree : held.evidenceFree = evidenceFree := by
    rw [Held.evidenceFree, hformed]
    rfl
  let inner' := applyAdmissionCounterRollback
    (commitCapitalAdmissionReservationRollback s.inner prepared) counter values
  have hafter : Represents setup.terms market inner' book' := hrep'.congr rfl rfl
  obtain ⟨hreservations, hflags⟩ := hrep.rolledBack hafter hrun
  refine ⟨inner', hrolled, ?_, hreservations, ?_, ?_, ?_, ?_, hflags, rfl⟩
  · intro r hr
    obtain ⟨holding, hholding, hphase, hnames⟩ := howned.held r hr
    exact ⟨holding.record, holding.entry,
      hrep.holdsCapital_iff.mpr ⟨holding, hholding, rfl, rfl⟩, hphase, hnames.reservation⟩
  · change inner'.grants.orderCount + _ = s.inner.grants.orderCount
    rw [hgrants]
    exact Nat.sub_add_cancel horders
  · intro other
    change inner'.grants.count other + _ = s.inner.grants.count other
    rw [hgrants, Held.ordersOf_eq hformed]
    exact Grants.count_releasing evidenceFree hcount hle other
  · intro id
    change inner'.grants.evidenceFree[id]? = _
    rw [hgrants, hfree]
    exact SortedMap.getElem?_foldl_erase evidenceFree _ id
  · rw [hafter.terms_eq, hrep.terms_eq]

/-- **The sink invocation of an outstanding permit is prepared while the revision has room.** -/
theorem Sound.prepares (h : Sound setup s) (hheld : held ∈ s.outstanding) (room : s.load ≤ u64Max) :
    ∃ prepared authority,
      prepareSinkInvocation s.inner held.permit = .ok (prepared, authority) := by
  obtain ⟨market, book, hsimulates⟩ := h.simulated
  have hrep := hsimulates.represents
  have huncommitted := hsimulates.uncommitted held hheld
  have howned := hsimulates.ownedBy hheld
  have hload := System.rollbacks_le_load hheld
  rw [hrep.revision] at hload
  obtain ⟨prepared, hprepared⟩ :=
    (prepareInvocation_owned hrep howned held.permit.counterRollback).2
      (h.authority.heldIds hheld huncommitted) (hload.trans room)
  have hconsuming : held ∈ s.consuming := mem_append_left _ (mem_append_left _ hheld)
  obtain ⟨authority, hauthority⟩ := Option.ne_none_iff_exists'.mp
    ((h.counts.formed held hconsuming).armed huncommitted)
  refine ⟨prepared, authority, ?_⟩
  unfold prepareSinkInvocation
  rw [hprepared, hauthority]

/-! ## Executions with room -/

/-- At every operation of the execution the revision has room for its steps, and for the
reservations that the outstanding permits still have to release or invoke. -/
def Headroom (setup : Setup) (ops : List (Op setup)) : Prop :=
  ∀ before op after, ops = before ++ op :: after →
    (setup.start.run before).load + op.steps ≤ u64Max

theorem run_load_le (setup : Setup) (ops : List (Op setup)) :
    (setup.start.run ops).load ≤ (ops.map Op.steps).sum := by
  induction ops using reverseRecOn with
  | nil => exact le_rfl
  | append_singleton ops op ih =>
    obtain ⟨_, _, book, -, hsimulates⟩ := reachable_simulates setup ops
    obtain ⟨_, _, _, hmoves⟩ := step_moves hsimulates op
    have hload := hmoves.load
    rw [System.run_append, map_append, sum_append, map_singleton,
      sum_singleton]
    change ((setup.start.run ops).step op).load ≤ _
    omega

/-- An execution of few enough steps has room throughout. -/
theorem headroom_of_steps (h : (ops.map Op.steps).sum ≤ u64Max) : Headroom setup ops := by
  rintro before op after rfl
  have hload := run_load_le setup before
  rw [map_append, sum_append, map_cons, sum_cons] at h
  omega

theorem Headroom.of_append {ops' : List (Op setup)} (h : Headroom setup (ops ++ ops')) :
    Headroom setup ops := by
  rintro before op after rfl
  exact h before op (after ++ ops') (by simp)

/-- Nothing is latched and nothing stranded while the revision has room. -/
theorem run_unlatched (setup : Setup) (ops : List (Op setup)) (room : Headroom setup ops) :
    let s := setup.start.run ops
    s.load ≤ u64Max ∧ s.inner.rollbackOwnershipLatch = none ∧ s.stranded = [] := by
  induction ops using reverseRecOn with
  | nil => exact ⟨Nat.zero_le _, rfl, rfl⟩
  | append_singleton ops op ih =>
    obtain ⟨hload, hlatch, hstranded⟩ := ih room.of_append
    have hsound := reachable_sound setup ops
    obtain ⟨_, _, book, -, hsimulates⟩ := reachable_simulates setup ops
    obtain ⟨_, _, _, hmoves⟩ := step_moves hsimulates op
    have hroom := room ops op [] rfl
    have hrolled : ∀ held ∈ (setup.start.run ops).outstanding,
        rolledBackPermit (setup.start.run ops).inner held.permit.rollbacks
          held.permit.counterRollback ≠ none := by
      intro held hheld
      obtain ⟨inner', hsome, -⟩ := hsound.releases hheld hload
      rw [hsome]
      nofun
    rw [System.run_append]
    refine ⟨hmoves.load.trans hroom, ?_, ?_⟩
    · rcases hmoves.latch with hsame | hexhausted | ⟨index, held, -, hheld, hnone⟩
      · exact hsame.trans hlatch
      · omega
      · exact absurd hnone (hrolled held (mem_of_getElem? hheld))
    · exact ((step_effect hsimulates.uncommitted op).stranded_eq hrolled).trans hstranded

/-- **While the revision has room, an outstanding permit can be dropped and invoked**: its drop
takes back what it owns and nothing else, the ownership latch is never set, and its sink invocation
is prepared. -/
theorem outstanding_permits_end (setup : Setup) (ops : List (Op setup))
    (room : Headroom setup ops) :
    let s := setup.start.run ops
    s.inner.rollbackOwnershipLatch = none ∧
    ∀ (index : Nat) held, s.outstanding[index]? = some held →
      Releases s.inner held (s.step (.drop index : Op setup)).inner ∧
      ∃ prepared authority,
        prepareSinkInvocation s.inner held.permit = .ok (prepared, authority) := by
  intro s
  obtain ⟨hload, hlatch, -⟩ := run_unlatched setup ops room
  have hsound := reachable_sound setup ops
  obtain ⟨_, _, hsimulates⟩ := hsound.simulated
  refine ⟨hlatch, fun index held hheld => ⟨?_, ?_⟩⟩
  · obtain ⟨inner', hrolled, hreleases⟩ := hsound.releases (mem_of_getElem? hheld) hload
    change Releases s.inner held (s.drop index).inner
    rcases s.drop_cases index hsimulates.uncommitted with
      ⟨hnone, -⟩ | ⟨held', hheld', ⟨inner'', hrolled', hdrop⟩ | ⟨hrolled', -⟩⟩
    · rw [hheld] at hnone
      cases hnone
    · rw [hheld] at hheld'
      cases hheld'
      rw [hrolled] at hrolled'
      cases hrolled'
      rw [hdrop]
      exact hreleases
    · rw [hheld] at hheld'
      cases hheld'
      rw [hrolled] at hrolled'
      cases hrolled'
  · exact hsound.prepares (mem_of_getElem? hheld) hload

end

namespace PoolOf100

attribute [local instance] Decimal.reference

/-- The permit of an admitted order, with its reservation, can be dropped and invoked. -/
theorem admitted_permit_ends :
    (setup.start.run admitted).outstanding.map (·.permit.rollbacks.length) = [1] ∧
    (setup.start.run admitted).inner.rollbackOwnershipLatch = none ∧
    ∀ (index : Nat) held, (setup.start.run admitted).outstanding[index]? = some held →
      Releases (setup.start.run admitted).inner held
        ((setup.start.run admitted).step (.drop index : Op setup)).inner ∧
      ∃ prepared authority, prepareSinkInvocation (setup.start.run admitted).inner held.permit =
        .ok (prepared, authority) :=
  ⟨by decide, outstanding_permits_end setup admitted (headroom_of_steps (by decide))⟩

end PoolOf100

section

variable [DecimalArith]

/-! ## Client orders -/

/-- **No two permits share a client order, except with a permit that was dropped before its orders
were on record or sent.** None has an order that was authorised before the process started, nothing
is authorised twice in the whole log, and replaying it gives the authority of the live state. -/
theorem client_orders_authorized_once (setup : Setup) (ops : List (Op setup)) :
    let s := setup.start.run ops
    ((s.outstanding ++ s.committed ++ s.stranded ++
      s.released.filter (·.evidenceFree.isEmpty)).flatMap (·.clientOrderIds)).Nodup ∧
    (∀ held ∈ s.outstanding ++ s.committed ++ s.stranded ++ s.released,
      ∀ id ∈ held.clientOrderIds, id ∉ setup.recovered.flatMap (·.authorizedIds)) ∧
    ((setup.recovered ++ s.recorded).flatMap (·.authorizedIds)).Nodup ∧
    empty.replay (setup.recovered ++ s.recorded) =
      .ok s.inner.committedAdmissionAuthority := by
  intro s
  have hauthority := (reachable_sound setup ops).authority
  have hrecovered := recover_eq_ok setup.recovers
  have hreplay : empty.replay (setup.recovered ++ s.recorded) =
      .ok s.inner.committedAdmissionAuthority := by
    rw [replay_append hrecovered]
    exact hauthority.replayed
  refine ⟨hauthority.distinct, ?_, (replay_authorizes hreplay).nodup,
    hreplay⟩
  intro held hheld id hid hmem
  have hauthorized := ((replay_authorizes hrecovered).authorizes id).mpr (.inr hmem)
  rw [hauthority.unrecovered held hheld id hid] at hauthorized
  cases hauthorized

/-- **No order is granted again after restarts.** A process ends in any of its states, and a later
one is started on a log that begins with what was on record by then. None of its permits, in any of
its states, has an order of a recorded permit of the first one. -/
theorem restarts_grant_no_order_again (setup later : Setup) (ops : List (Op setup))
    (ops' : List (Op later))
    (hlog : setup.recovered ++ (setup.start.run ops).recorded <+: later.recovered) :
    ∀ held ∈ (setup.start.run ops).spent, held.evidenceFree = [] →
      ∀ held' ∈ (later.start.run ops').consuming ++ (later.start.run ops').released,
        held.clientOrderIds.Disjoint held'.clientOrderIds := by
  intro held hheld hrecorded held' hheld' id hid hid'
  have hauthority := (reachable_sound setup ops).authority
  have hauthorized : (setup.start.run ops).inner.committedAdmissionAuthority.authorizesOrder id =
      true := by
    rcases hauthority.known held hheld with ⟨-, hknown⟩ | ⟨hfree, -⟩
    · exact hknown id hid
    · rw [← hfree, hrecorded] at hid
      cases hid
  -- The later process has replayed the log of the first one.
  have hlater := recover_eq_ok later.recovers
  obtain ⟨others, hothers⟩ := hlog
  rw [← hothers, append_assoc, replay_append (recover_eq_ok setup.recovers),
    replay_append hauthority.replayed] at hlater
  have hkept := replay_keeps hlater id hauthorized
  rw [(reachable_sound later ops').authority.unrecovered held' hheld' id hid'] at hkept
  cases hkept

end

namespace PoolOf100

attribute [local instance] Decimal.reference

/-- The same process without capital admission. -/
def uncapitalized : Setup := { setup with capital := none }

/-- An order to sell 1 of a position of 1. -/
def exit : SubmitAdmissionRequest :=
  { order "E" 1 with
    orderSide := .sell, intentKind := .riskReducingExit
    riskReducingExitProof := some ⟨"position", "YES", .long, .sell, .one, .one⟩ }

/-- The exit is admitted with a failed append, its permit dropped, and the exit admitted again. -/
def retried : List (Op uncapitalized) :=
  [.admitAt exit none 1 (.error "disk full"), .drop 0, .admitAt exit none 1 (.ok ())]

/-- **An order of a dropped evidence-free permit is admitted again**, under a second permit. -/
theorem evidence_free_order_admitted_again :
    (uncapitalized.start.run retried).released.map (·.clientOrderIds) = [["E"]] ∧
      (uncapitalized.start.run retried).outstanding.map (·.clientOrderIds) = [["E"]] := by
  decide

/-- An order is admitted. -/
def granted : List (Op uncapitalized) := [.admitAt (order "A" 60) none 1 (.ok ())]

/-- The process is started again on the log of the admitted order. -/
def restarted : Setup :=
  { uncapitalized with
    recovered := setup.recovered ++ (uncapitalized.start.run granted).recorded
    facts := (uncapitalized.start.run granted).inner.committedAdmissionAuthority
    recovers := by with_unfolding_all rfl }

/-- The order is tried again, and another one. -/
def retriedLater : List (Op restarted) :=
  [.admitAt (order "A" 60) none 2 (.ok ()), .admitAt (order "C" 10) none 2 (.ok ())]

/-- Only the other order is granted, and its permit has no order of the first process. -/
theorem order_is_not_granted_again :
    (uncapitalized.start.run granted).spent.map (·.clientOrderIds) = [["A"]] ∧
    (restarted.start.run retriedLater).outstanding.map (·.clientOrderIds) = [["C"]] ∧
    ∀ held ∈ (uncapitalized.start.run granted).spent, held.evidenceFree = [] →
      ∀ held' ∈ (restarted.start.run retriedLater).consuming ++
          (restarted.start.run retriedLater).released,
        held.clientOrderIds.Disjoint held'.clientOrderIds :=
  ⟨by decide, by decide,
    restarts_grant_no_order_again uncapitalized restarted granted retriedLater (List.prefix_refl _)⟩

end PoolOf100

end BoltV3.Submit
