import BoltV3.Submit.Simulation

/-!
# Counters over executions

`admitted_order_count`, `admitted_order_count_by_execution_client` and the evidence-free admissions
are advanced when a permit is granted and taken back when it is dropped, in any order. `Effect` says
once what an operation does to them and to the permits. The counters are the orders of the permits
that consume capacity: those outstanding, those committed, and those whose rollback was refused.
-/

namespace BoltV3.Submit

open Lib Loss Capital Evidence SortedMap
open Std (ExtTreeMap)

/-! ## Permits -/

namespace Held

variable (held : Held)

/-- The orders of a permit that are not on record. -/
def evidenceFree : List String := evidenceFreeIds held.permit.counterRollback

/-- The permit once it is committed. -/
def settled : Held :=
  ⟨{ held.permit with evidenceAuthority := none, committed := true }, held.clientOrderIds⟩

variable (executionClientId : String)

/-- Whether the permit counts for an execution client. -/
def countsFor : Bool := held.permit.counterRollback.any (·.executionClientId == executionClientId)

/-- The orders that the permit counts for an execution client. -/
def ordersOf : Nat :=
  if held.countsFor executionClientId then held.clientOrderIds.length else 0

/-- The permit is for some orders, has their counters, and its authority until it is committed. -/
structure Formed (held : Held) : Prop where
  counter : ∃ executionClientId evidenceFree, held.permit.counterRollback =
    some ⟨executionClientId, held.clientOrderIds.length, evidenceFree⟩
  nonempty : held.clientOrderIds ≠ []
  armed : held.permit.committed = false → held.permit.evidenceAuthority ≠ none

end Held

namespace System

/-- The permits that consume capacity. -/
def consuming (s : System) : List Held := s.outstanding ++ s.committed ++ s.stranded

/-- The orders of those permits. -/
def orders (s : System) : Nat := (s.consuming.map (·.clientOrderIds.length)).sum

/-- The orders of those permits for an execution client. -/
def ordersOf (s : System) (executionClientId : String) : Nat :=
  (s.consuming.map (·.ordersOf executionClientId)).sum

end System

/-! ## Counter values -/

/-- The evidence-free orders of a permit are distinct, and all of them held. -/
theorem heldIds_eq_true {admissions : ExtTreeMap String EvidenceFreeNonReservationPhase}
    {ids : List String} : heldIds admissions ids = true ↔
      ids.Nodup ∧ ∀ id ∈ ids,
        admissions[id]? = some EvidenceFreeNonReservationPhase.permitHeld := by
  induction ids with
  | nil => simp [heldIds]
  | cons id ids ih =>
    simp only [heldIds, Bool.and_eq_true, Bool.not_eq_true', List.contains_eq_mem, ih,
      decide_eq_false_iff_not, beq_iff_eq, List.nodup_cons, List.mem_cons, forall_eq_or_imp]
    tauto

variable {inner : Inner} {rollbacks : List CapitalAdmissionReservationRollback}
  {values : SubmitAdmissionCounterValues} {counter : SubmitAdmissionCounterRollback}

theorem checkedAdmissionCounterRollback_eq_some {rollback : SubmitAdmissionCounterRollback} :
    checkedAdmissionCounterRollback inner rollback = some values ↔
      rollback.orderCount ≤ inner.grants.orderCount ∧
      (∃ n, inner.grants.clientCounts[rollback.executionClientId]? = some n ∧
        rollback.orderCount ≤ n) ∧
      heldIds inner.grants.evidenceFree rollback.uncommittedEvidenceFreeClientOrderIds = true ∧
      values = ⟨inner.grants.orderCount - rollback.orderCount,
        inner.grants.count rollback.executionClientId - rollback.orderCount⟩ := by
  unfold checkedAdmissionCounterRollback Grants.count Inner.grants
  by_cases hadmitted : rollback.orderCount ≤ inner.admittedOrderCount
  · rw [checkedSub_eq_some.mpr ⟨hadmitted, rfl⟩]
    cases inner.admittedOrderCountByExecutionClient[rollback.executionClientId]? with
    | none => simp
    | some n =>
      by_cases hclient : rollback.orderCount ≤ n
      · rw [Option.bind_some, checkedSub_eq_some.mpr ⟨hclient, rfl⟩]
        by_cases hheld : heldIds inner.evidenceFreeNonReservationAdmissions
            rollback.uncommittedEvidenceFreeClientOrderIds
        · simp [hadmitted, hclient, hheld, eq_comm]
        · simp [hheld]
      · simp [checkedSub, hclient]
  · simp [checkedSub, hadmitted]

/-- What a permit that is rolled back leaves of the grants. -/
theorem rolledBackPermit_grants {inner' : Inner}
    (h : rolledBackPermit inner rollbacks (some counter) = some inner') :
    counter.orderCount ≤ inner.grants.orderCount ∧
      (∃ n, inner.grants.clientCounts[counter.executionClientId]? = some n ∧
        counter.orderCount ≤ n) ∧
      inner'.grants = inner.grants.releasing counter.executionClientId counter.orderCount
        counter.uncommittedEvidenceFreeClientOrderIds := by
  unfold rolledBackPermit at h
  dsimp only at h
  split at h
  · cases h
  · rename_i hvalues
    split at h
    · cases h
    cases h
    obtain ⟨hadmitted, hclient, -, rfl⟩ := checkedAdmissionCounterRollback_eq_some.mp hvalues
    exact ⟨hadmitted, hclient, rfl⟩

/-- What crossing the submit boundary leaves of the grants. -/
theorem commitSubmitSinkInvocation_grants {counter : Option SubmitAdmissionCounterRollback}
    {prepared : PreparedSubmitSinkInvocationTransition}
    (h : prepareSubmitSinkInvocation inner rollbacks counter = .ok prepared) :
    (commitSubmitSinkInvocation inner prepared).grants =
      inner.grants.invoking (evidenceFreeIds counter) := by
  have hevidence : prepared.candidateEvidenceFree.getD inner.evidenceFreeNonReservationAdmissions =
      (evidenceFreeIds counter).foldl (·.insert · .sinkInvoked)
        inner.evidenceFreeNonReservationAdmissions := by
    unfold prepareSubmitSinkInvocation at h
    dsimp only at h
    split at h; · cases h
    split at h
    · cases h
      cases evidenceFreeIds counter <;> rfl
    split at h; · cases h
    split at h; · cases h
    cases h
    cases evidenceFreeIds counter <;> rfl
  exact congrArg (fun evidenceFree => { inner.grants with evidenceFree := evidenceFree }) hevidence

/-! ## Permits and grants after an operation -/

/-- The permits that consume capacity, other than the one outstanding at `index`. -/
def System.others (s : System) (index : Nat) : List Held :=
  s.outstanding.eraseIdx index ++ s.committed ++ s.stranded

theorem System.granted_perm (s : System) (new : Held) :
    (s.outstanding ++ [new] ++ s.committed ++ s.stranded).Perm (new :: s.consuming) :=
  ((List.perm_append_singleton new s.outstanding).append_right s.committed).append_right s.stranded

theorem System.settled_perm (s : System) (index : Nat) (held : Held) :
    (s.outstanding.eraseIdx index ++ (s.committed ++ [held]) ++ s.stranded).Perm
      (held :: s.others index) := by
  rw [← List.append_assoc]
  exact List.Perm.append_right _ (List.perm_append_singleton _ _)

theorem System.consuming_perm {s : System} {index : Nat} {held : Held}
    (h : s.outstanding[index]? = some held) : s.consuming.Perm (held :: s.others index) :=
  ((System.outstanding_perm h).append_right s.committed).append_right s.stranded

theorem System.stranded_perm {s : System} {index : Nat} {held : Held}
    (h : s.outstanding[index]? = some held) :
    (s.outstanding.eraseIdx index ++ s.committed ++ (s.stranded ++ [held])).Perm s.consuming := by
  rw [← List.append_assoc]
  exact (List.perm_append_singleton _ _).trans (System.consuming_perm h).symm

theorem Held.ordersOf_eq {held : Held} {executionClientId : String} {orders : Nat}
    {evidenceFree : List String}
    (h : held.permit.counterRollback = some ⟨executionClientId, orders, evidenceFree⟩)
    (other : String) : held.ordersOf other =
      if executionClientId = other then held.clientOrderIds.length else 0 := by
  simp [Held.ordersOf, Held.countsFor, h]

namespace Grants

variable (grants : Grants) (executionClientId : String) (orders : Nat) (evidenceFree : List String)

theorem count_admitting (other : String) :
    (grants.admitting executionClientId orders evidenceFree).count other =
      grants.count other + if executionClientId = other then orders else 0 := by
  change ((grants.clientCounts.insert executionClientId _)[other]?).getD 0 = _
  rw [getElem?_insert]
  split
  · rename_i hclient
    rw [← hclient]
    rfl
  · rfl

theorem sumOf_admitting :
    sumOf id (grants.admitting executionClientId orders evidenceFree).clientCounts =
      sumOf id grants.clientCounts + orders := by
  change sumOf id (grants.clientCounts.insert executionClientId _) = _
  unfold count
  cases hcount : grants.clientCounts[executionClientId]? with
  | none =>
    rw [sumOf_insert hcount, Option.getD_none, id]
    omega
  | some n =>
    rw [sumOf_replace, sumOf_erase hcount, Option.getD_some, id, id]
    omega

variable {grants executionClientId orders} {n : Nat}

theorem count_releasing (hcount : grants.clientCounts[executionClientId]? = some n)
    (hle : orders ≤ n) (other : String) :
    (grants.releasing executionClientId orders evidenceFree).count other +
      (if executionClientId = other then orders else 0) = grants.count other := by
  have hn : grants.count executionClientId = n := by rw [count, hcount, Option.getD_some]
  unfold releasing
  rw [hn]
  unfold count
  by_cases hclient : executionClientId = other
  · subst hclient
    rw [if_pos rfl, hcount, Option.getD_some]
    split
    · rw [getElem?_erase, if_pos rfl, Option.getD_none]
      omega
    · rw [getElem?_insert, if_pos rfl, Option.getD_some]
      omega
  · rw [if_neg hclient, Nat.add_zero]
    split
    · rw [getElem?_erase, if_neg hclient]
    · rw [getElem?_insert, if_neg hclient]

theorem sumOf_releasing (hcount : grants.clientCounts[executionClientId]? = some n)
    (hle : orders ≤ n) :
    sumOf id (grants.releasing executionClientId orders evidenceFree).clientCounts +
      orders = sumOf id grants.clientCounts := by
  have hn : grants.count executionClientId = n := by rw [count, hcount, Option.getD_some]
  unfold releasing
  rw [hn, sumOf_erase hcount, id]
  dsimp only
  split
  · omega
  · rw [sumOf_replace, id]
    omega

end Grants

section

variable [DecimalArith] {setup : Setup}

/-! ## What an operation does to grants and permits -/

inductive Effect (s : System) : System → Prop
  | quiet {inner' : Inner} {events : List ReservationRecoveryEvent}
      {authority : ReservationRecoveryFacts}
      (replayed : s.inner.committedAdmissionAuthority.replay events = .ok authority)
      (grants : inner'.grants = s.inner.grants.withAuthority authority) :
      Effect s { s with inner := inner', recorded := s.recorded ++ events }
  | granted {inner' : Inner} {events : List ReservationRecoveryEvent}
      {authority : ReservationRecoveryFacts} {ids evidenceFree : List String}
      {executionClientId : String} {rollbacks : List CapitalAdmissionReservationRollback}
      {submitAuthority : SubmitEvidenceAuthority}
      (nonempty : ids ≠ [])
      (unauthorized : ∀ id ∈ ids, s.inner.grants.authority.authorizesOrder id = false)
      (unheld : ∀ id ∈ ids, s.inner.grants.evidenceFree[id]? = none)
      (evidenced : Evidenced ids events evidenceFree)
      (replayed : s.inner.committedAdmissionAuthority.replay events = .ok authority)
      (counted : s.inner.grants.orderCount + ids.length ≤ u32Max ∧
        s.inner.grants.count executionClientId + ids.length ≤ u32Max)
      (capped : ∀ limits, s.inner.grants.limits[executionClientId]? = some limits →
        s.inner.grants.count executionClientId + ids.length ≤ limits.maxOrderCount)
      (grants : inner'.grants =
        (s.inner.grants.withAuthority authority).admitting executionClientId ids.length
          evidenceFree) :
      Effect s { s with
        inner := inner', recorded := s.recorded ++ events
        outstanding := s.outstanding ++
          [⟨⟨rollbacks, some ⟨executionClientId, ids.length, evidenceFree⟩, some submitAuthority,
            false⟩, ids⟩] }
  | settled {inner' : Inner} {index : Nat} {held : Held}
      (outstanding : s.outstanding[index]? = some held)
      (grants : inner'.grants = s.inner.grants.invoking held.evidenceFree) :
      Effect s { s with
        inner := inner', outstanding := s.outstanding.eraseIdx index
        committed := s.committed ++ [held.settled] }
  | released {inner' : Inner} {index : Nat} {held : Held}
      (outstanding : s.outstanding[index]? = some held)
      (rolled : rolledBackPermit s.inner held.permit.rollbacks held.permit.counterRollback =
        some inner') :
      Effect s { s with
        inner := inner', outstanding := s.outstanding.eraseIdx index
        released := s.released ++ [held] }
  | stranded {inner' : Inner} {index : Nat} {held : Held}
      (outstanding : s.outstanding[index]? = some held)
      (rolled : rolledBackPermit s.inner held.permit.rollbacks held.permit.counterRollback = none)
      (grants : inner'.grants = s.inner.grants) :
      Effect s { s with
        inner := inner', outstanding := s.outstanding.eraseIdx index
        stranded := s.stranded ++ [held] }

variable {s : System} {evidenceFree : List String}

theorem Effect.within {inner' : Inner} (grants : inner'.grants = s.inner.grants) :
    Effect s (s.within inner') := by
  have h : Effect s { s with inner := inner', recorded := s.recorded ++ [] } := .quiet rfl grants
  rw [List.append_nil] at h
  exact h

theorem AdmissionStep.effect {op : Op setup} (h : AdmissionStep s op) : Effect s (s.step op) := by
  obtain ⟨nowNs, executionClientId, events, inner', permit, hended, hstep⟩ := h
  rw [hstep]
  cases hended with
  | withdrawn attempted replayed _ inner_eq =>
    rw [Option.toList_none, List.map_nil, List.append_nil]
    refine .quiet replayed ?_
    rw [inner_eq, grants_withAuthority, grants_rollbackReservations, attempted.grants_eq.1]
  | @granted evaluations _ authority evidenceFree submitAuthority attempted nonempty complete _
      replayed _ evidenced counted capped inner_eq =>
    have hlength : (op.requests.map (·.clientOrderId)).length = op.requests.length :=
      List.length_map _
    have hadmissible := attempted.admissible complete
    have hgrants : inner'.grants = (s.inner.grants.withAuthority authority).admitting
        executionClientId op.requests.length evidenceFree := by
      rw [inner_eq, ← attempted.grants_eq.1]
      rfl
    rw [Option.toList_some, List.map_singleton, ← hlength]
    rw [← hlength] at counted capped hgrants
    refine .granted (by simpa using nonempty) ?_ ?_ evidenced replayed counted capped hgrants
    · intro id hid
      obtain ⟨request, hrequest, rfl⟩ := List.mem_map.mp hid
      exact (hadmissible request hrequest).unauthorized
    · intro id hid
      obtain ⟨request, hrequest, rfl⟩ := List.mem_map.mp hid
      exact (hadmissible request hrequest).unheld

/-- **The five things an operation does to grants and permits.** -/
theorem step_effect
    (uncommitted : ∀ held ∈ s.outstanding, held.permit.committed = false) (op : Op setup) :
    Effect s (s.step op) := by
  cases op with
  | admitAt request economics nowNs append =>
    exact (admitAt_admissionStep s request economics nowNs append).effect
  | evaluate request economics nowNs append =>
    exact (evaluate_admissionStep s request economics nowNs append).effect
  | basket executionClientId claims details nowNs append =>
    exact (basket_admissionStep s executionClientId claims details nowNs append).effect
  | settle index commits =>
    change Effect s (s.settle index commits)
    rcases s.settle_cases index commits with
      hsettle | ⟨held, prepared, hheld, -, hprepared, hsettle⟩
    · rw [hsettle]
      exact .within rfl
    · rw [hsettle]
      exact .settled hheld (commitSubmitSinkInvocation_grants hprepared)
  | drop index =>
    change Effect s (s.drop index)
    rcases s.drop_cases index uncommitted with
      ⟨-, hdrop⟩ | ⟨held, hheld, ⟨inner', hrolled, hdrop⟩ | ⟨hrolled, hdrop⟩⟩
    · rw [hdrop]
      exact .within rfl
    · rw [hdrop]
      exact .released hheld hrolled
    · rw [hdrop]
      exact .stranded hheld hrolled rfl
  | rebuild projection nowNs append => exact .within (frames_rebuild _ _ _ _ _ _ _).grants
  | retire capability append => exact .within (frames_retire _ _ _).grants
  | fill update append =>
    obtain ⟨authority, hgrants, hreplay, -, -⟩ := recordFillEvidence_replays s.inner update append
    exact .quiet hreplay hgrants
  | rejectFill observedAtNs => exact .within (frames_rejectFill _ _).grants
  | suspend source observedAtNs => exact .within (frames_suspend _ _ _).grants
  | _ => exact .within rfl

/-! ## The counters -/

/-- The counters are the orders of the permits that consume capacity. -/
structure Counts (setup : Setup) (s : System) : Prop where
  limits : s.inner.grants.limits = setup.limits
  formed : ∀ held ∈ s.consuming, held.Formed
  count : s.inner.grants.orderCount = s.orders
  counts : ∀ executionClientId,
    s.inner.grants.count executionClientId = s.ordersOf executionClientId
  sum : sumOf id s.inner.grants.clientCounts = s.inner.grants.orderCount
  bounded : s.inner.grants.orderCount ≤ u32Max
  capped : ∀ executionClientId limits, setup.limits[executionClientId]? = some limits →
    s.inner.grants.count executionClientId ≤ limits.maxOrderCount

theorem start_counts (setup : Setup) : Counts setup setup.start where
  limits := rfl
  formed := by simp [System.consuming, Setup.start]
  count := rfl
  counts := fun executionClientId => by
    change ((∅ : ExtTreeMap String Nat)[executionClientId]?).getD 0 = 0
    simp
  sum := rfl
  bounded := Nat.zero_le _
  capped := fun executionClientId limits _ => by
    change ((∅ : ExtTreeMap String Nat)[executionClientId]?).getD 0 ≤ _
    simp

/-- The counters of a permit that consumes capacity are part of the whole. -/
theorem Counts.orders_le (h : Counts setup s) {held : Held}
    (hheld : held ∈ s.consuming) {executionClientId : String} {orders : Nat}
    (hcounter : held.permit.counterRollback = some ⟨executionClientId, orders, evidenceFree⟩) :
    orders ≤ s.inner.grants.orderCount ∧
      ∃ n, s.inner.grants.clientCounts[executionClientId]? = some n ∧ orders ≤ n := by
  obtain ⟨⟨client, ids, hformed⟩, hnonempty, -⟩ := h.formed held hheld
  rw [hcounter] at hformed
  cases hformed
  have hpositive := List.length_pos_iff.mpr hnonempty
  have hclient : held.ordersOf executionClientId = held.clientOrderIds.length := by
    rw [Held.ordersOf_eq hcounter, if_pos rfl]
  have hsum : held.clientOrderIds.length ≤ s.orders :=
    List.le_sum_of_mem (List.mem_map.mpr ⟨held, hheld, rfl⟩)
  have hclients : held.clientOrderIds.length ≤ s.ordersOf executionClientId :=
    List.le_sum_of_mem (List.mem_map.mpr ⟨held, hheld, hclient⟩)
  rw [← h.count] at hsum
  rw [← h.counts] at hclients
  refine ⟨hsum, ?_⟩
  unfold Grants.count at hclients
  cases hcount : s.inner.grants.clientCounts[executionClientId]? with
  | none =>
    rw [hcount, Option.getD_none] at hclients
    omega
  | some n =>
    rw [hcount, Option.getD_some] at hclients
    exact ⟨n, rfl, hclients⟩

theorem Counts.congr {s s' : System} (h : Counts setup s)
    (hlimits : s'.inner.grants.limits = s.inner.grants.limits)
    (hcount : s'.inner.grants.orderCount = s.inner.grants.orderCount)
    (hcounts : s'.inner.grants.clientCounts = s.inner.grants.clientCounts)
    (hformed : ∀ held ∈ s'.consuming, held.Formed) (horders : s'.orders = s.orders)
    (hordersOf : s'.ordersOf = s.ordersOf) : Counts setup s' := by
  have hclient : s'.inner.grants.count = s.inner.grants.count := by
    funext executionClientId
    rw [Grants.count, hcounts, Grants.count]
  constructor
  · rw [hlimits, h.limits]
  · exact hformed
  · rw [hcount, horders, h.count]
  · rw [hclient, hordersOf]
    exact h.counts
  · rw [hcounts, hcount, h.sum]
  · rw [hcount]
    exact h.bounded
  · rw [hclient]
    exact h.capped

/-- **Every operation keeps the counters in step with the permits.** -/
theorem Effect.counts {s s' : System} (heffect : Effect s s') (h : Counts setup s) :
    Counts setup s' := by
  cases heffect with
  | quiet _ grants =>
    refine h.congr ?_ ?_ ?_ h.formed rfl rfl <;> simp only [grants] <;> rfl
  | @granted inner' events authority ids evidenceFree client rollbacks submitAuthority
    nonempty _ _ _
      _ counted capped grants =>
    let new : Held :=
      ⟨⟨rollbacks, some ⟨client, ids.length, evidenceFree⟩, some submitAuthority, false⟩, ids⟩
    have hperm := s.granted_perm new
    have hnew : ∀ other, new.ordersOf other = if client = other then ids.length else 0 :=
      Held.ordersOf_eq rfl
    constructor
    · rw [grants]
      exact h.limits
    · intro held hheld
      rcases List.mem_cons.mp (hperm.mem_iff.mp hheld) with rfl | hheld
      · exact ⟨⟨client, evidenceFree, rfl⟩, nonempty, fun _ => nofun⟩
      · exact h.formed held hheld
    · rw [grants]
      change s.inner.grants.orderCount + ids.length = _
      unfold System.orders System.consuming
      rw [(hperm.map _).sum_eq, List.map_cons, List.sum_cons, h.count, Nat.add_comm]
      rfl
    · intro other
      rw [grants, Grants.count_admitting]
      unfold System.ordersOf System.consuming
      rw [(hperm.map _).sum_eq, List.map_cons, List.sum_cons, hnew, Nat.add_comm]
      exact congrArg _ (h.counts other)
    · rw [grants, Grants.sumOf_admitting]
      exact congrArg (· + ids.length) h.sum
    · rw [grants]
      exact counted.1
    · intro other limits hlimits
      rw [grants, Grants.count_admitting]
      split
      · rename_i hclient
        rw [← hclient] at hlimits ⊢
        exact capped limits (by rw [h.limits]; exact hlimits)
      · exact h.capped other limits hlimits
  | @settled inner' index held outstanding grants =>
    have hbefore := System.consuming_perm outstanding
    have hafter := s.settled_perm index held.settled
    refine h.congr ?_ ?_ ?_ ?_ ?_ ?_
    · rw [grants]
      rfl
    · rw [grants]
      rfl
    · rw [grants]
      rfl
    · intro other hother
      have hheld : held ∈ s.consuming := hbefore.mem_iff.mpr List.mem_cons_self
      rcases List.mem_cons.mp (hafter.mem_iff.mp hother) with rfl | hother
      · exact ⟨(h.formed held hheld).counter, (h.formed held hheld).nonempty, nofun⟩
      · exact h.formed other (hbefore.mem_iff.mpr (List.mem_cons_of_mem _ hother))
    · unfold System.orders
      rw [(hbefore.map _).sum_eq]
      exact (hafter.map _).sum_eq
    · funext other
      unfold System.ordersOf
      rw [(hbefore.map _).sum_eq]
      exact (hafter.map _).sum_eq
  | @released inner' index held outstanding rolled =>
    have hperm := System.consuming_perm outstanding
    obtain ⟨⟨client, evidenceFree, hcounter⟩, -⟩ :=
      h.formed held (hperm.mem_iff.mpr List.mem_cons_self)
    rw [hcounter] at rolled
    obtain ⟨hle, ⟨n, hcount, hlen⟩, grants⟩ := rolledBackPermit_grants rolled
    dsimp only at hle hcount hlen grants
    have horders : s.orders = held.clientOrderIds.length +
        ((s.others index).map (·.clientOrderIds.length)).sum := (hperm.map _).sum_eq
    have hordersOf : ∀ other, s.ordersOf other = held.ordersOf other +
        ((s.others index).map (·.ordersOf other)).sum := fun other => (hperm.map _).sum_eq
    have hcounts := Grants.count_releasing evidenceFree hcount hlen
    constructor
    · rw [grants]
      exact h.limits
    · exact fun other hother => h.formed other (hperm.mem_iff.mpr (List.mem_cons_of_mem _ hother))
    · have := h.count
      rw [grants]
      change s.inner.grants.orderCount - held.clientOrderIds.length =
        ((s.others index).map (·.clientOrderIds.length)).sum
      omega
    · intro other
      have hother := hcounts other
      have := h.counts other
      rw [hordersOf, Held.ordersOf_eq hcounter] at this
      rw [grants]
      change _ = ((s.others index).map (·.ordersOf other)).sum
      omega
    · have := Grants.sumOf_releasing evidenceFree hcount hlen
      have := h.sum
      rw [grants]
      change sumOf id (s.inner.grants.releasing client _ evidenceFree).clientCounts =
        s.inner.grants.orderCount - held.clientOrderIds.length
      omega
    · have := h.bounded
      rw [grants]
      change s.inner.grants.orderCount - held.clientOrderIds.length ≤ u32Max
      omega
    · intro other limits hlimits
      have := hcounts other
      have := h.capped other limits hlimits
      rw [grants]
      omega
  | @stranded inner' index held outstanding rolled grants =>
    have hsame := System.stranded_perm outstanding
    refine h.congr (by rw [grants]) (by rw [grants]) (by rw [grants]) ?_ ?_ ?_
    · exact fun other hother => h.formed other (hsame.mem_iff.mp hother)
    · exact (hsame.map _).sum_eq
    · funext other
      exact (hsame.map _).sum_eq

end

end BoltV3.Submit
