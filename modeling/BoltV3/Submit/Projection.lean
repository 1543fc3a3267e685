import BoltV3.Submit.Ownership

/-!
# Projections and the book

What the operations after admission do to the book: the rebuild from a projection, the retirement
of terminal orders, fills, and capture failures.

The rebuild is taken apart in two steps. `rebuild_cases` says, for an arbitrary state and snapshot,
how it can end: an epoch that is not the current one changes nothing, every other refusal closes the
gate and keeps ledger and index, and an acceptance commits a candidate. `rebuild_moves` then reads
an acceptance as one move of the book.
-/

namespace BoltV3.Submit

open Lib Loss Capital Evidence SubmitCapitalAdmissionState SortedMap ReservationLedger
open Std (ExtTreeMap)

/-! ## The two loops of the rebuild -/

section

variable [DecimalArith]

/-- What the rebuild has checked of an open order. -/
structure ObservableOrder (retained : ExtTreeMap String SubmitReservationRecord)
    (reservation : OpenOrderReservation) : Prop where
  valid : rebuiltOpenOrderReservationAttributionValid reservation = true
  crossed : ∀ record, retained[reservation.clientOrderId]? = some record →
    record.phase ≠ .reserved ∧ record.attribution = reservation.attribution

variable {revision : Nat} {capital : SubmitCapitalAdmissionState} {snapshot : OpenOrderSnapshot}
  {decision : SubmitRebuildDecision}

/-- **The observing loop enters every open order of the snapshot once.** -/
theorem observeLoop_eq_ok {poolId : String} {retained : ExtTreeMap String SubmitReservationRecord} :
    ∀ {reservations : List OpenOrderReservation} {index : Nat}
      {rebuilt observed : ExtTreeMap String SubmitReservationRecord}
      {openOrders : List CapitalAdmissionReservationEvidence},
      observeLoop poolId retained revision index rebuilt reservations =
        .ok (observed, openOrders) →
      observed = insertAll rebuilt
        (reservations.map fun r => (r.clientOrderId, observedRecord r revision)) ∧
      openOrders = reservations.map (fun r => .ntOpenOrder (observedRequest poolId r)) ∧
      (reservations.map (·.clientOrderId)).Nodup ∧
      (∀ r ∈ reservations, rebuilt[r.clientOrderId]? = none) ∧
      ∀ r ∈ reservations, ObservableOrder retained r
  | [], _, _, _, _, h => by
    cases h
    simp
  | reservation :: reservations, index, rebuilt, observed, openOrders, h => by
    unfold observeLoop at h
    split at h; · cases h
    rename_i hfresh
    split at h; · cases h
    rename_i hvalid
    split at h; · cases h
    rename_i hretained
    split at h; · cases h
    rename_i rest evidence hrest
    cases h
    obtain ⟨hobserved, hopen, hnodup, hnone, hall⟩ := observeLoop_eq_ok hrest
    rw [ExtTreeMap.contains_iff_mem, notMem_iff_getElem?] at hfresh
    have hne : ∀ r ∈ reservations, reservation.clientOrderId ≠ r.clientOrderId := by
      intro r hr heq
      have := hnone r hr
      rw [getElem?_insert, if_pos heq] at this
      cases this
    refine ⟨?_, ?_, ?_, ?_, ?_⟩
    · rw [hobserved]
      rfl
    · rw [hopen]
      rfl
    · rw [List.map_cons, List.nodup_cons]
      refine ⟨fun hmem => ?_, hnodup⟩
      obtain ⟨r, hr, heq⟩ := List.mem_map.mp hmem
      exact hne r hr heq.symm
    · refine List.forall_mem_cons.mpr ⟨hfresh, fun r hr => ?_⟩
      have := hnone r hr
      rwa [getElem?_insert, if_neg (hne r hr)] at this
    · refine List.forall_mem_cons.mpr ⟨⟨by simpa using hvalid, fun record hrecord => ?_⟩, hall⟩
      rw [hrecord] at hretained
      simpa using hretained

/-- The orders of a list that `rebuilt` has no record of. -/
def unrecorded (rebuilt : ExtTreeMap String SubmitReservationRecord)
    (holdings : List (String × Holding)) : List (String × Holding) :=
  holdings.filter fun p => (rebuilt[p.1]?).isNone

omit [DecimalArith] in
/-- **The retaining loop carries over every order the snapshot does not show**, and finds none of
them only reserved. -/
theorem retainLoop_eq_some {gate : ReservationLedger} :
    ∀ {holdings : List (String × Holding)}
      {rebuilt index : ExtTreeMap String SubmitReservationRecord}
      {carried : List CapitalAdmissionReservationEvidence},
      (holdings.map Prod.fst).Nodup →
      (∀ p ∈ holdings, gate.retainedReservation p.2.record.attribution.capitalPoolId
        p.2.record.attribution.collateralGroupId p.2.record.attribution.submitReservationId =
          .ok p.2.entry) →
      retainLoop gate rebuilt (holdings.map fun p => (p.1, p.2.record)) = some (index, carried) →
      index = insertAll rebuilt
        ((unrecorded rebuilt holdings).map fun p => (p.1, p.2.carried.record)) ∧
      carried = (unrecorded rebuilt holdings).map
        (fun p => .retainedLifecycleReservation p.2.entry) ∧
      ∀ p ∈ unrecorded rebuilt holdings, p.2.record.phase ≠ .reserved
  | [], _, _, _, _, _, h => by
    cases h
    simp [unrecorded]
  | (id, holding) :: holdings, rebuilt, index, carried, hnodup, hgate, h => by
    rw [List.map_cons, List.nodup_cons] at hnodup
    have hrest := fun p hp => hgate p (List.mem_cons_of_mem _ hp)
    rw [List.map_cons, retainLoop] at h
    split at h
    · rename_i hseen
      have hsome : (rebuilt[id]?).isNone = false := by
        rw [ExtTreeMap.contains_iff_mem, mem_iff_getElem?] at hseen
        obtain ⟨record, hrecord⟩ := hseen
        rw [hrecord]
        rfl
      have hsame : unrecorded rebuilt ((id, holding) :: holdings) =
          unrecorded rebuilt holdings := by
        simp [unrecorded, hsome]
      rw [hsame]
      exact retainLoop_eq_some hnodup.2 hrest h
    · rename_i hunseen
      have hnone : rebuilt[id]? = none := by
        rwa [ExtTreeMap.contains_iff_mem, notMem_iff_getElem?] at hunseen
      split at h; · cases h
      rename_i hphase
      rw [hgate (id, holding) List.mem_cons_self] at h
      dsimp only at h
      split at h; · cases h
      rename_i next evidence hnext
      cases h
      have hloop := @retainLoop_eq_some gate holdings (rebuilt.insert id holding.carried.record) _ _
        hnodup.2 hrest hnext
      -- The ids still to come are not the one just entered, so they are unseen in both maps.
      have hsame : unrecorded (rebuilt.insert id holding.carried.record) holdings =
          unrecorded rebuilt holdings := by
        refine List.filter_congr fun p hp => ?_
        rw [getElem?_insert, if_neg]
        intro heq
        exact hnodup.1 (List.mem_map.mpr ⟨p, hp, heq.symm⟩)
      have hcons : unrecorded rebuilt ((id, holding) :: holdings) =
          (id, holding) :: unrecorded rebuilt holdings := by
        simp [unrecorded, hnone]
      rw [hsame] at hloop
      obtain ⟨hindex, hcarried, hall⟩ := hloop
      rw [hcons, List.map_cons, List.map_cons, insertAll_cons]
      exact ⟨hindex, by rw [hcarried], List.forall_mem_cons.mpr ⟨hphase, hall⟩⟩

/-! ## How a rebuild can end -/

/-- A result that is not an acceptance. -/
def Refuses (result : Except SubmitAdmissionError SubmitRebuildDecision) : Prop :=
  ∀ decision, result = .ok decision → decision.accepted = false

/-- What the rebuild has established of a candidate that reaches the gate. -/
structure Candidate (capital : SubmitCapitalAdmissionState) (snapshot : OpenOrderSnapshot)
    (revision : Nat) (candidate : RebuildCandidate) : Prop where
  intact : capital.fillEvidenceIntegrityFailed = false
  terms : candidate.capital.terms = capital.terms
  state : candidate.capital.state = capital.state
  captureSource : candidate.capital.captureFailureSource = capital.captureFailureSource
  captureObserved :
    candidate.capital.captureFailureObservedAtNs = capital.captureFailureObservedAtNs
  fillFailed :
    candidate.capital.fillEvidenceIntegrityFailed = capital.fillEvidenceIntegrityFailed
  loops : ∃ observed openOrders carried,
    observeLoop capital.capitalPool.poolId capital.clientOrderReservations revision 0 ∅
      snapshot.reservations = .ok (observed, openOrders) ∧
    retainLoop capital.gate observed capital.clientOrderReservations.toList =
      some (candidate.index, carried) ∧
    candidate.evidence = openOrders ++ carried

variable (capital)

theorem rebuildCandidate_cases (snapshot : OpenOrderSnapshot) (revision : Nat) :
    (∃ candidate, rebuildCandidate capital snapshot revision = .ok candidate ∧
      Candidate capital snapshot revision candidate) ∨
    ∃ decision, rebuildCandidate capital snapshot revision = .error decision ∧
      decision.accepted = false := by
  unfold rebuildCandidate
  dsimp only
  split; · exact .inr ⟨_, rfl, rfl⟩
  rename_i hintact
  split; · exact .inr ⟨_, rfl, rfl⟩
  split; · exact .inr ⟨_, rfl, rfl⟩
  split; · exact .inr ⟨_, rfl, rfl⟩
  rename_i observed openOrders hobserve
  split; · exact .inr ⟨_, rfl, rfl⟩
  rename_i index carried hretain
  exact .inl ⟨_, rfl, by simpa using hintact, rfl, rfl, rfl, rfl, rfl,
    observed, openOrders, carried, hobserve, hretain, rfl⟩

theorem finishCapitalAdmissionRebuild_refuses {inner : Inner} {append : Bool}
    (h : decision.accepted = false) :
    (finishCapitalAdmissionRebuild inner snapshot revision decision append).1 =
        invalidateCapitalAdmissionRebuild inner snapshot revision ∧
      Refuses (finishCapitalAdmissionRebuild inner snapshot revision decision append).2 := by
  unfold finishCapitalAdmissionRebuild
  split
  · exact ⟨rfl, nofun⟩
  · exact ⟨rfl, by rintro _ ⟨⟩; exact h⟩
  · exact ⟨rfl, by rintro _ ⟨⟩; rfl⟩

/-- The gate accepts the evidence of a candidate. -/
def RebuildCandidate.Rebuilds (candidate : RebuildCandidate) (nowNs : Nat)
    (gate : ReservationLedger) : Prop :=
  rebuildLoop candidate.capital.capitalPool nowNs candidate.capital.policy.minRemainingPoolBalance 0
    .reconciled candidate.evidence = .rebuilt gate

variable (inner : Inner) (candidate : RebuildCandidate)

/-- The state with an accepted candidate. -/
def Inner.committed (gate : ReservationLedger)
    (snapshot : OpenOrderSnapshot) (nowNs revision : Nat) : Inner :=
  { inner with
    capitalAdmission := some (rebuiltCapital candidate gate snapshot nowNs)
    capitalAdmissionStateRevision := revision }

variable (snapshot)

/-- The gate accepts the candidate's evidence, or the live gate is closed. -/
theorem rebuildAtGate_cases (revision nowNs : Nat) (append : Bool) :
    ((rebuildAtGate inner candidate snapshot revision nowNs append).1 =
        invalidateCapitalAdmissionRebuild inner snapshot revision ∧
      Refuses (rebuildAtGate inner candidate snapshot revision nowNs append).2) ∨
    ∃ gate decision, candidate.Rebuilds nowNs gate ∧ decision.accepted = true ∧
      rebuildAtGate inner candidate snapshot revision nowNs append =
        (inner.committed candidate gate snapshot nowNs revision, .ok decision) := by
  unfold rebuildAtGate rebuildOpenOrderReservations
  cases hloop : rebuildLoop candidate.capital.capitalPool nowNs
      candidate.capital.policy.minRemainingPoolBalance 0 .reconciled candidate.evidence with
  | contradictory invariant => exact .inl ⟨rfl, nofun⟩
  | refused reason index => exact .inl (finishCapitalAdmissionRebuild_refuses rfl)
  | rebuilt gate =>
    cases append with
    | true => exact .inr ⟨gate, _, hloop, rfl, rfl⟩
    | false => exact .inl ⟨rfl, by rintro _ ⟨⟩; rfl⟩

/-- **How a rebuild can end**, from any state and for any snapshot. -/
theorem rebuild_cases (nowNs : Nat)
    (expectedEpoch : Option Nat) (components : Option SubmitCapitalAdmissionNtComponents)
    (allowance : Option Nat) (append : Bool) :
    let out := rebuildCapitalAdmissionOpenOrderSnapshotWithProjection inner snapshot nowNs
      expectedEpoch components allowance append
    (∃ epoch, expectedEpoch = some epoch ∧ epoch ≠ inner.capitalAdmissionStateRevision ∧
      out.1 = inner ∧ Refuses out.2) ∨
    (out.1 = inner ∧ inner.capitalAdmission = none) ∨
    (u64Max ≤ inner.capitalAdmissionStateRevision ∧ Refuses out.2 ∧
      out.1 = { inner with
        capitalAdmission :=
          inner.capitalAdmission.map invalidateReconciliation }) ∨
    (inner.capitalAdmissionStateRevision + 1 ≤ u64Max ∧ Refuses out.2 ∧
      out.1 = invalidateCapitalAdmissionRebuild inner snapshot
        (inner.capitalAdmissionStateRevision + 1)) ∨
    ∃ capital candidate gate decision, inner.capitalAdmission = some capital ∧
      inner.capitalAdmissionStateRevision + 1 ≤ u64Max ∧
      (∀ epoch, expectedEpoch = some epoch → epoch = inner.capitalAdmissionStateRevision) ∧
      Candidate (projectedCapital capital components allowance) snapshot
        (inner.capitalAdmissionStateRevision + 1) candidate ∧
      candidate.Rebuilds nowNs gate ∧ decision.accepted = true ∧
      out = (inner.committed candidate gate snapshot nowNs
        (inner.capitalAdmissionStateRevision + 1), .ok decision) := by
  intro out
  have hout : out = rebuildCapitalAdmissionOpenOrderSnapshotWithProjection inner snapshot nowNs
      expectedEpoch components allowance append := rfl
  unfold rebuildCapitalAdmissionOpenOrderSnapshotWithProjection at hout
  split at hout
  · rename_i hstale
    rw [hout]
    cases expectedEpoch with
    | none => cases hstale
    | some epoch => exact .inl ⟨epoch, rfl, by simpa using hstale, rfl, by rintro _ ⟨⟩; rfl⟩
  rename_i hepoch
  split at hout
  · rename_i hnext
    rw [hout]
    exact .inr (.inr (.inl ⟨nextRevision_eq_none.mp hnext, by rintro _ ⟨⟩; rfl, rfl⟩))
  rename_i revision hnext
  obtain ⟨headroom, rfl⟩ := nextRevision_eq_some.mp hnext
  split at hout
  · rename_i hcapital
    rw [hout]
    exact .inr (.inl ⟨rfl, hcapital⟩)
  rename_i capital hcapital
  rcases rebuildCandidate_cases (projectedCapital capital components allowance) snapshot
      (inner.capitalAdmissionStateRevision + 1) with
    ⟨candidate, hok, hcandidate⟩ | ⟨decision, herror, hrefused⟩
  · rw [hok] at hout
    rw [hout]
    rcases rebuildAtGate_cases snapshot inner candidate
        (inner.capitalAdmissionStateRevision + 1) nowNs append with
      ⟨hinner, hrefuses⟩ | ⟨gate, decision, hloop, haccepted, hresult⟩
    · exact .inr (.inr (.inr (.inl ⟨headroom, hrefuses, hinner⟩)))
    · refine .inr (.inr (.inr (.inr ⟨capital, candidate, gate, decision, hcapital, headroom, ?_,
        hcandidate, hloop, haccepted, hresult⟩)))
      rintro epoch rfl
      simpa using hepoch
  · rw [herror] at hout
    rw [hout]
    obtain ⟨hinner, hrefuses⟩ := finishCapitalAdmissionRebuild_refuses hrefused
    exact .inr (.inr (.inr (.inl ⟨headroom, hrefuses, hinner⟩)))

/-! ## An accepted rebuild is a move of the book -/

/-- The holding of an order seen open. -/
def observedHolding (reservation : OpenOrderReservation) (revision : Nat)
    (positive : 0 < reservation.liability.value) : Holding :=
  { record := observedRecord reservation revision, liability := reservation.liability
    observedAtNs := reservation.observedAtNs, positive := positive }

/-- The orders of a snapshot as holdings. -/
def observedHoldings (reservations : List OpenOrderReservation) (revision : Nat)
    (positive : ∀ r ∈ reservations, 0 < r.liability.value) : List (String × Holding) :=
  reservations.pmap (fun r hr => (r.clientOrderId, observedHolding r revision hr)) positive

section

variable {reservations : List OpenOrderReservation}
  {positive : ∀ r ∈ reservations, 0 < r.liability.value}

omit [DecimalArith] in
theorem mem_observedHoldings {p : String × Holding} :
    p ∈ observedHoldings reservations revision positive ↔
      ∃ r, ∃ h : r ∈ reservations,
        (r.clientOrderId, observedHolding r revision (positive r h)) = p :=
  List.mem_pmap

omit [DecimalArith] in
theorem map_observedHoldings {γ : Type} (f : String × Holding → γ) (g : OpenOrderReservation → γ)
    (h : ∀ r (hr : r ∈ reservations),
      f (r.clientOrderId, observedHolding r revision (positive r hr)) = g r) :
    (observedHoldings reservations revision positive).map f = reservations.map g := by
  unfold observedHoldings
  rw [List.map_pmap, ← List.pmap_eq_map positive]
  exact List.pmap_congr_left _ fun r hr _ _ => h r hr

end

variable {reservation : OpenOrderReservation}

omit [DecimalArith] in
/-- The ledger entry of an order seen open, if its attribution is the one of the order. -/
theorem entryOf_observedRequest {poolId : String}
    {revision : Nat} (positive : 0 < reservation.liability.value)
    (hid : reservation.submitReservationId = reservation.attribution.submitReservationId)
    (hgroup : reservation.collateralGroupId = reservation.attribution.collateralGroupId)
    (hpool : reservation.attribution.capitalPoolId = poolId) :
    entryOf (observedRequest poolId reservation) =
      (observedHolding reservation revision positive).entry := by
  simp [entryOf, observedRequest, Holding.entry, observedHolding, observedRecord,
    hid, hgroup, hpool]

theorem rebuiltOpenOrderReservationAttributionValid_ids
    (h : rebuiltOpenOrderReservationAttributionValid reservation = true) :
    reservation.clientOrderId = reservation.attribution.clientOrderId ∧
      reservation.submitReservationId = reservation.attribution.submitReservationId ∧
      reservation.collateralGroupId = reservation.attribution.collateralGroupId := by
  simp only [rebuiltOpenOrderReservationAttributionValid, Bool.and_eq_true, beq_iff_eq] at h
  tauto

omit [DecimalArith] in
/-- The candidate with the components of a projection: the reservations are as they were, and a
capture failure is gone only after a later allowance. -/
theorem projectedCapital_frame
    (components : Option SubmitCapitalAdmissionNtComponents) (allowance : Option Nat) :
    let projected := projectedCapital capital components allowance
    projected.terms = capital.terms ∧
      projected.gate.liveReservations = capital.gate.liveReservations ∧
      projected.clientOrderReservations = capital.clientOrderReservations ∧
      projected.fillEvidenceIntegrityFailed = capital.fillEvidenceIntegrityFailed ∧
      (projected.captureFailureSource = capital.captureFailureSource ∧
          projected.captureFailureObservedAtNs = capital.captureFailureObservedAtNs ∨
        (projected.captureFailureSource = none ∧ projected.captureFailureObservedAtNs = none) ∧
          components.isSome = true ∧
          ∃ failed seen, capital.captureFailureObservedAtNs = some failed ∧
            allowance = some seen ∧ failed < seen) := by
  cases components with
  | none => exact ⟨rfl, rfl, rfl, rfl, .inl ⟨rfl, rfl⟩⟩
  | some components =>
    unfold projectedCapital
    dsimp only
    have hgate : ∀ (c : SubmitCapitalAdmissionState) (n : SubmitCapitalAdmissionNtComponents),
        (c.gateFromComponents n).liveReservations = c.gate.liveReservations := by
      intro c n
      unfold gateFromComponents
      dsimp only
      split <;> split <;> rfl
    split
    · rename_i hrecaptured
      refine ⟨rfl, hgate _ _, rfl, rfl, .inr ⟨⟨rfl, rfl⟩, rfl, ?_⟩⟩
      cases hfailed : capital.captureFailureObservedAtNs with
      | none => simp [hfailed] at hrecaptured
      | some failed =>
        cases allowance with
        | none => simp [hfailed] at hrecaptured
        | some seen => exact ⟨failed, seen, rfl, rfl, by simpa [hfailed] using hrecaptured⟩
    · exact ⟨rfl, hgate _ _, rfl, rfl, .inl ⟨rfl, rfl⟩⟩

/-- The market after a projection: that of its components, or else the one before. -/
def projectedMarket (components : Option SubmitCapitalAdmissionNtComponents)
    (market : Option Market) : Option Market :=
  (components.map fun c => marketOf c.productState.product).or market

omit [DecimalArith] in
theorem market_projectedCapital
    (components : Option SubmitCapitalAdmissionNtComponents) (allowance : Option Nat) :
    (projectedCapital capital components allowance).market =
      projectedMarket components capital.market := by
  cases components with
  | none => rfl
  | some components => rfl

omit [DecimalArith] in
theorem market_rebuiltCapital (candidate : RebuildCandidate) (gate : ReservationLedger)
    (snapshot : OpenOrderSnapshot) (nowNs : Nat) :
    (rebuiltCapital candidate gate snapshot nowNs).market = candidate.capital.market := by
  refine (market_refreshed _ _ _ _).trans ?_
  unfold market
  rw [Option.map_map]
  rfl

section

variable {capital snapshot candidate} {book : Book} {projected : SubmitCapitalAdmissionState}

/-- The open orders of the snapshot are evidence of the candidate, before everything else. -/
theorem Candidate.evidence_eq (h : Candidate projected snapshot revision candidate) :
    ∃ carried, candidate.evidence = (snapshot.reservations.map
      (observedRequest projected.capitalPool.poolId)).map .ntOpenOrder ++ carried := by
  obtain ⟨observed, openOrders, carried, hobserve, -, hevidence⟩ := h.loops
  obtain ⟨-, hopen, -⟩ := observeLoop_eq_ok hobserve
  refine ⟨carried, ?_⟩
  rw [hevidence, hopen, List.map_map]
  rfl

omit [DecimalArith] in
/-- The orders a snapshot shows are those its records are entered under. -/
theorem unseen_eq_unrecorded (book : Book) {reservations : List OpenOrderReservation}
    (positive : ∀ r ∈ reservations, 0 < r.liability.value)
    (hnodup : (reservations.map (·.clientOrderId)).Nodup) :
    book.unseen (observedHoldings reservations revision positive) =
      unrecorded (insertAll ∅
        (reservations.map fun r => (r.clientOrderId, observedRecord r revision)))
        book.orders.toList := by
  have hkeys : (observedHoldings reservations revision positive).map Prod.fst =
      reservations.map (·.clientOrderId) := map_observedHoldings _ _ fun _ _ => rfl
  have hkeys' : (reservations.map fun r => (r.clientOrderId, observedRecord r revision)).map
      Prod.fst = reservations.map (·.clientOrderId) := by
    rw [List.map_map]
    rfl
  refine List.filter_congr fun p _ => ?_
  rw [hkeys]
  by_cases hp : p.1 ∈ reservations.map (·.clientOrderId)
  · obtain ⟨r, hr, hid⟩ := List.mem_map.mp hp
    have hentry := List.mem_map_of_mem
      (f := fun r : OpenOrderReservation => (r.clientOrderId, observedRecord r revision)) hr
    rw [← hid, getElem?_insertAll_of_mem (by rw [hkeys']; exact hnodup) hentry, hid]
    simpa using hp
  · rw [getElem?_insertAll_of_notMem (by rw [hkeys']; exact hp)]
    simpa using hp

/-- **The index and the ledger evidence of a candidate are those of the rebuilt book**, and no
order of the book was only reserved. -/
theorem Candidate.orders (hrep : RepresentsCapital capital book)
    (hlive : projected.gate.liveReservations = capital.gate.liveReservations)
    (hindex : projected.clientOrderReservations = capital.clientOrderReservations)
    (hpool : projected.capitalPool.poolId = capital.capitalPool.poolId)
    (h : Candidate projected snapshot revision candidate)
    (attributed : ∀ r ∈ snapshot.reservations, r.attribution.capitalPoolId = book.poolId)
    (positive : ∀ r ∈ snapshot.reservations, 0 < r.liability.value) :
    let observed := observedHoldings snapshot.reservations revision positive
    candidate.index = (book.rebuilt observed).map (fun _ => Holding.record) ∧
      candidate.evidence.map (·.entry) = (book.rebuiltOrders observed).map (·.2.entry) ∧
      (observed.map Prod.fst).Nodup ∧
      (∀ r ∈ snapshot.reservations, ObservableOrder capital.clientOrderReservations r) ∧
      ∀ (id : String) holding, book.orders[id]? = some holding →
        holding.record.phase ≠ .reserved := by
  intro observed
  obtain ⟨records, openOrders, carried, hobserve, hretain, hevidence⟩ := h.loops
  rw [hindex] at hobserve hretain
  obtain ⟨hrecords, hopen, hnodup, -, hall⟩ := observeLoop_eq_ok hobserve
  have htoList : capital.clientOrderReservations.toList =
      book.orders.toList.map fun p => (p.1, p.2.record) := by
    rw [hrep.index, ExtTreeMap.toList_map]
  have hretained : ∀ p ∈ book.orders.toList, projected.gate.retainedReservation
      p.2.record.attribution.capitalPoolId p.2.record.attribution.collateralGroupId
      p.2.record.attribution.submitReservationId = .ok p.2.entry := by
    rintro ⟨id, holding⟩ hmem
    have := hrep.retainedReservation (mem_toList.mp hmem)
    unfold retainedReservation at this ⊢
    rw [hlive]
    exact this
  rw [htoList] at hretain
  obtain ⟨hcandidate, hcarried, hphase⟩ :=
    retainLoop_eq_some (nodup_keys_toList book.orders) hretained hretain
  rw [hrecords, ← unseen_eq_unrecorded book positive hnodup] at hcandidate hcarried hphase
  have hkeys : observed.map Prod.fst = snapshot.reservations.map (·.clientOrderId) :=
    map_observedHoldings _ _ fun _ _ => rfl
  have hobserved : observed.map (fun p => (p.1, p.2.record)) =
      snapshot.reservations.map fun r => (r.clientOrderId, observedRecord r revision) :=
    map_observedHoldings _ _ fun _ _ => rfl
  refine ⟨?_, ?_, by rwa [hkeys], hall, ?_⟩
  · rw [hcandidate, Book.rebuilt, map_insertAll, Book.rebuiltOrders, List.map_append,
      insertAll_append, hobserved, List.map_map]
    rfl
  · have hentries : observed.map (·.2.entry) = snapshot.reservations.map fun r =>
        entryOf (observedRequest projected.capitalPool.poolId r) := by
      refine map_observedHoldings _ _ fun r hr => ?_
      obtain ⟨-, hid, hgroup⟩ := rebuiltOpenOrderReservationAttributionValid_ids (hall r hr).valid
      refine (entryOf_observedRequest (positive r hr) hid hgroup ?_).symm
      rw [attributed r hr, hpool, hrep.pool]
    rw [hevidence, hopen, hcarried, Book.rebuiltOrders, List.map_append, List.map_append, hentries,
      List.map_map, List.map_map, List.map_map]
    rfl
  · intro id holding held
    by_cases hid : id ∈ observed.map Prod.fst
    · rw [hkeys] at hid
      obtain ⟨r, hr, rfl⟩ := List.mem_map.mp hid
      refine ((hall r hr).crossed holding.record ?_).1
      rw [hrep.getElem?_index, held, Option.map_some]
    · exact hphase (id, holding) (Book.mem_unseen.mpr ⟨held, hid⟩)

end

variable {inner capital snapshot candidate} {terms : Option CapitalTerms} {market : Option Market}
  {book : Book} {components : Option SubmitCapitalAdmissionNtComponents} {allowance : Option Nat}
  {gate : ReservationLedger} {nowNs : Nat} {projected : SubmitCapitalAdmissionState}

/-- The open orders that the gate accepts fit the budget of the terms. -/
theorem observed_fits (hterms : terms = some candidate.capital.terms)
    (hcandidate : Candidate projected snapshot revision candidate)
    (hloop : candidate.Rebuilds nowNs gate)
    (positive : ∀ r ∈ snapshot.reservations, 0 < r.liability.value) :
    termsWithin terms
      ((observedHoldings snapshot.reservations revision positive).map (·.2.value)).sum := by
  rintro exact t ht hbudget
  rw [hterms] at ht
  cases ht
  obtain ⟨carried, hevidence⟩ := hcandidate.evidence_eq
  rw [RebuildCandidate.Rebuilds, hevidence] at hloop
  have hfits := rebuildLoop_openOrders_budget exact hloop
    (by simp [reconciled]) (by simpa [reservedValue, reconciled])
  have hvalues : (observedHoldings snapshot.reservations revision positive).map (·.2.value) =
      snapshot.reservations.map (·.liability.value) := map_observedHoldings _ _ fun _ _ => rfl
  rw [hvalues]
  change _ ≤ candidate.capital.capitalPool.budget
  simpa [reservedValue, reconciled, entryOf, observedRequest,
    Function.comp_def] using hfits

/-- The gate accepts only open orders with a positive liability. -/
theorem Candidate.positive (hcandidate : Candidate projected snapshot revision candidate)
    (hevidence : ∀ e ∈ candidate.evidence, ¬ e.entry.liability ≤ .zero) :
    ∀ r ∈ snapshot.reservations, 0 < r.liability.value := by
  intro r hr
  obtain ⟨carried, heq⟩ := hcandidate.evidence_eq
  have hmem : CapitalAdmissionReservationEvidence.ntOpenOrder
      (observedRequest projected.capitalPool.poolId r) ∈ candidate.evidence := by
    rw [heq]
    exact List.mem_append_left _ (List.mem_map_of_mem (List.mem_map_of_mem hr))
  have := hevidence _ hmem
  rwa [Decimal.le_iff_value, Decimal.value_zero, not_le] at this

omit [DecimalArith] in
/-- The capture failure of a candidate: that of the book, or none after a later allowance. The two
fields of the source are cleared together. -/
theorem RepresentsCapital.projectedFailure (hrep : RepresentsCapital capital book)
    (components : Option SubmitCapitalAdmissionNtComponents) (allowance : Option Nat) :
    ∃ failure : Option (String × Nat),
      (projectedCapital capital components allowance).captureFailureSource =
        failure.map Prod.fst ∧
      (projectedCapital capital components allowance).captureFailureObservedAtNs =
        failure.map Prod.snd ∧
      (failure = book.gate.captureFailure ∨ failure = none ∧
        Book.Recaptures (components.bind fun _ => allowance) book.gate.captureFailure) := by
  obtain ⟨-, -, -, -, hcapture⟩ := projectedCapital_frame capital components allowance
  rcases hcapture with
    ⟨hsource, hobserved⟩ | ⟨⟨hsource, hobserved⟩, hcomponents, failed, seen, hfailed, hseen, hlt⟩
  · exact ⟨book.gate.captureFailure, hsource.trans hrep.captureSource,
      hobserved.trans hrep.captureObserved, .inl rfl⟩
  · rw [hrep.captureObserved] at hfailed
    obtain ⟨⟨source, _⟩, hfailure, rfl⟩ := Option.map_eq_some_iff.mp hfailed
    obtain ⟨c, hc⟩ := Option.isSome_iff_exists.mp hcomponents
    exact ⟨none, hsource, hobserved, .inr ⟨rfl, source, _, seen, hfailure, by rw [hc, hseen]; rfl,
      hlt⟩⟩

/-- Every order of the rebuilt book is under its own id and in the pool. -/
theorem rebuiltOrders_attributed {positive : ∀ r ∈ snapshot.reservations, 0 < r.liability.value}
    (hobservable : ∀ r ∈ snapshot.reservations, ObservableOrder capital.clientOrderReservations r)
    (attributed : ∀ r ∈ snapshot.reservations, r.attribution.capitalPoolId = book.poolId) :
    ∀ p ∈ book.rebuiltOrders (observedHoldings snapshot.reservations revision positive),
      p.2.record.attribution.clientOrderId = p.1 ∧
        p.2.record.attribution.capitalPoolId = book.poolId := by
  intro p hp
  rcases List.mem_append.mp hp with hp | hp
  · obtain ⟨r, hr, rfl⟩ := mem_observedHoldings.mp hp
    have hids := rebuiltOpenOrderReservationAttributionValid_ids (hobservable r hr).valid
    exact ⟨hids.1.symm, attributed r hr⟩
  · obtain ⟨⟨id, holding⟩, hmem, rfl⟩ := List.mem_map.mp hp
    have held := (Book.mem_unseen.mp hmem).1
    exact ⟨book.keyed id holding held, book.pooled id holding held⟩

section

variable (h : Represents terms market inner book)

include h

/-- **An accepted rebuild is one move of the book.** -/
theorem accepted_moves (hcapital : inner.capitalAdmission = some capital)
    (headroom : inner.capitalAdmissionStateRevision + 1 ≤ u64Max)
    (hcandidate : Candidate (projectedCapital capital components allowance) snapshot
      (inner.capitalAdmissionStateRevision + 1) candidate) (hloop : candidate.Rebuilds nowNs gate)
    (attributed : ∀ r ∈ snapshot.reservations, r.attribution.capitalPoolId = book.poolId) :
    ∃ positive book', Represents terms (projectedMarket components market)
        (inner.committed candidate gate snapshot nowNs (inner.capitalAdmissionStateRevision + 1))
        book' ∧
      BookStep terms book (.rebuild
        (observedHoldings snapshot.reservations (book.revision + 1) positive)
        (components.bind fun _ => allowance)) book' ∧
      ∀ r ∈ snapshot.reservations, rebuiltOpenOrderReservationAttributionValid r = true := by
  have hrep := h.present capital hcapital
  obtain ⟨hterms, hlive, hindex, hfill, -⟩ := projectedCapital_frame capital components allowance
  obtain ⟨failure, hsource, hobserved, hfailure⟩ := hrep.projectedFailure components allowance
  have hcandidateTerms := hcandidate.terms.trans hterms
  have hpool := congrArg CapitalTerms.poolId hterms
  obtain ⟨hgate, hnames, hevidence⟩ := rebuildLoop_rebuilt hloop (by simp [reconciled])
  have positive := hcandidate.positive fun e he => (hevidence e he).2
  rw [h.revision] at headroom hcandidate
  obtain ⟨hrecords, hentries, hkeys, hobservable, hcrossed⟩ :=
    hcandidate.orders hrep hlive hindex hpool attributed positive
  let observed := observedHoldings snapshot.reservations (book.revision + 1) positive
  have hledger : gate.liveReservations = (book.rebuiltOrders observed).map (·.2.entry) := by
    rw [hgate, ← hentries]
    rfl
  have hlisted : ∀ p ∈ book.rebuiltOrders observed, _ :=
    rebuiltOrders_attributed hobservable attributed
  have hbookNames : ((book.rebuiltOrders observed).map (·.2.name)).Nodup := by
    rw [hledger, List.map_map] at hnames
    exact hnames
  let book' := book.replace (book.rebuiltOrders observed) ⟨true, failure, false, by simp⟩
    (book.nodup_rebuiltOrders hkeys) (fun p hp => (hlisted p hp).1) (fun p hp => (hlisted p hp).2)
    hbookNames headroom
  have hmarket : (rebuiltCapital candidate gate snapshot nowNs).market =
      projectedMarket components market := by
    rw [market_rebuiltCapital, ← h.market_of hcapital,
      ← market_projectedCapital capital _ allowance]
    exact congrArg (Option.map _) hcandidate.state
  refine ⟨positive, book',
    h.of_some hcapital rfl hcandidateTerms hmarket (congrArg (· + 1) h.revision) ?_, ?_,
    fun r hr => (hobservable r hr).valid⟩
  · refine ⟨?_, hrecords, ?_, ?_, hcandidate.captureSource.trans hsource,
      hcandidate.captureObserved.trans hobserved, hcandidate.fillFailed.trans hcandidate.intact⟩
    · exact (congrArg CapitalTerms.poolId hcandidateTerms).trans hrep.pool
    · change SortedMap.Lists _ _ gate.liveReservations
      rw [hledger]
      exact lists_insertAll (book.nodup_rebuiltOrders hkeys)
    · change gate.reconciliationComplete = true
      rw [hgate]
      rfl
  · have hsetup : terms = some candidate.capital.terms := by
      rw [← h.terms_eq, Inner.terms, hcapital, Option.map_some, hcandidateTerms]
    refine .rebuild ?_ hcrossed hkeys ?_ ?_ (observed_fits hsetup hcandidate hloop positive) rfl rfl
      hfailure rfl rfl
    · rw [← hrep.fillFailed, ← hfill]
      exact hcandidate.intact
    · intro p hp
      obtain ⟨r, hr, rfl⟩ := mem_observedHoldings.mp hp
      exact ⟨rfl, rfl, rfl⟩
    · intro p hp holding held
      obtain ⟨r, hr, rfl⟩ := mem_observedHoldings.mp hp
      refine ((hobservable r hr).crossed holding.record ?_).2
      rw [hrep.getElem?_index, held, Option.map_some]

omit [DecimalArith] in
/-- A closed gate at the next revision, whatever becomes of the composed state. -/
theorem Represents.invalidated
    (headroom : inner.capitalAdmissionStateRevision + 1 ≤ u64Max) (snapshot : OpenOrderSnapshot) :
    Represents terms market (invalidateCapitalAdmissionRebuild inner snapshot
      (inner.capitalAdmissionStateRevision + 1)) book.close := by
  refine h.closed ?_ ?_ (by simp [invalidateCapitalAdmissionRebuild]) ?_
    (saturatingSucc_eq (by omega)).symm
  · simp only [Inner.terms, invalidateCapitalAdmissionRebuild, Option.map_map]
    rfl
  · simp only [Inner.market, invalidateCapitalAdmissionRebuild, Option.bind_map]
    exact congrArg inner.capitalAdmission.bind
      (funext fun _ => market_refreshed _ _ _ _)
  · intro capital' hcapital'
    obtain ⟨capital, hcapital, rfl⟩ := Option.map_eq_some_iff.mp hcapital'
    have hrep := (h.present capital hcapital).close
    exact ⟨hrep.pool, hrep.index, hrep.ledger, hrep.reconciled, hrep.captureSource,
      hrep.captureObserved, hrep.fillFailed⟩

/-- **What a rebuild does to the book**: one move if it is accepted, otherwise it closes the book
or leaves everything as it is. -/
theorem rebuild_moves
    (attributed : ∀ r ∈ snapshot.reservations, r.attribution.capitalPoolId = book.poolId)
    (nowNs : Nat) (expectedEpoch : Option Nat)
    (components : Option SubmitCapitalAdmissionNtComponents) (allowance : Option Nat)
    (append : Bool) :
    let out := rebuildCapitalAdmissionOpenOrderSnapshotWithProjection inner snapshot nowNs
      expectedEpoch components allowance append
    (∃ positive book' decision, Represents terms (projectedMarket components market) out.1 book' ∧
      BookStep terms book (.rebuild
        (observedHoldings snapshot.reservations (book.revision + 1) positive)
        (components.bind fun _ => allowance)) book' ∧
      (∀ r ∈ snapshot.reservations, rebuiltOpenOrderReservationAttributionValid r = true) ∧
      (∀ epoch, expectedEpoch = some epoch → epoch = book.revision) ∧
      out.2 = .ok decision ∧ decision.accepted = true) ∨
    (Represents terms market out.1 book.close ∧ Refuses out.2) ∨
    (out.1 = inner ∧ (Refuses out.2 ∨ inner.capitalAdmission = none)) := by
  intro out
  rcases rebuild_cases snapshot inner nowNs expectedEpoch components allowance append with
    ⟨epoch, -, -, hinner, hrefuses⟩ | ⟨hinner, hnone⟩ | ⟨hexhausted, hrefuses, hinner⟩ |
    ⟨headroom, hrefuses, hinner⟩ |
    ⟨capital, candidate, gate, decision, hcapital, headroom, hepoch, hcandidate, hloop, haccepted,
      hout⟩
  · exact .inr (.inr ⟨hinner, .inl hrefuses⟩)
  · exact .inr (.inr ⟨hinner, .inr hnone⟩)
  · refine .inr (.inl ⟨?_, hrefuses⟩)
    rw [hinner]
    exact h.close.congr rfl (saturatingSucc_exhausted (Nat.lt_succ_of_le hexhausted)).symm
  · refine .inr (.inl ⟨?_, hrefuses⟩)
    rw [hinner]
    exact h.invalidated headroom snapshot
  · obtain ⟨positive, book', hrep, hstep, hvalid⟩ :=
      accepted_moves h hcapital headroom hcandidate hloop attributed
    refine .inl ⟨positive, book', decision, ?_, hstep, hvalid, ?_, ?_, haccepted⟩
    · rw [show out = _ from hout]
      exact hrep
    · rw [← h.revision]
      exact hepoch
    · exact congrArg Prod.snd hout

/-! ## Retirement -/

/-- **Retiring an order is a move of the book** if the capability is the current one of an order
past the boundary; otherwise nothing changes, or the book is closed. -/
theorem retireTerminalReservation_moves
    (capability : TerminalReservationCapability) (append : Bool) :
    let out := retireTerminalReservation inner capability append
    (∃ book' holding, Represents terms market out.1 book' ∧
      BookStep terms book (.retire capability.clientOrderId) book' ∧
      book.orders[capability.clientOrderId]? = some holding ∧
      capability.current holding.record = true) ∨
    Represents terms market out.1 book.close ∨ out.1 = inner := by
  unfold retireTerminalReservation
  split
  · exact .inr (.inr rfl)
  rename_i capital hcapital
  have hrep := h.present capital hcapital
  have hmarket := h.market_of hcapital
  split
  · exact .inr (.inr rfl)
  rename_i record hrecord
  split
  · exact .inr (.inr rfl)
  rename_i hcurrent
  split
  · exact .inr (.inl h.close)
  rename_i next hnext
  obtain ⟨headroom, -⟩ := nextRevision_eq_some.mp hnext
  rw [h.revision] at headroom
  rw [hrep.getElem?_index] at hrecord
  obtain ⟨holding, held, rfl⟩ := Option.map_eq_some_iff.mp hrecord
  rw [Bool.not_eq_true', Bool.not_eq_false] at hcurrent
  -- The ledger has the entry of the record, so the removal is accepted.
  have hremove : capital.gate.removeExisting holding.record.attribution.capitalPoolId
      holding.record.attribution.collateralGroupId
      holding.record.attribution.submitReservationId =
        ({ capital.gate with
            liveReservations := capital.gate.liveReservations.eraseP
              (·.named holding.record.attribution.capitalPoolId
                holding.record.attribution.submitReservationId) },
          ⟨true, none, some holding.liability⟩) := by
    unfold removeExisting
    rw [hrep.find? held]
    exact if_neg (not_not.mpr rfl)
  unfold retireRecord
  rw [hremove]
  cases append with
  | false => exact .inr (.inl h.close)
  | true =>
    refine .inl ⟨book.erase capability.clientOrderId headroom, holding, ?_, ?_, held, hcurrent⟩
    · refine h.of_some hcapital rfl rfl hmarket (congrArg (· + 1) h.revision)
        ⟨hrep.pool, ?_, hrep.erased held, hrep.reconciled, hrep.captureSource,
          hrep.captureObserved, hrep.fillFailed⟩
      change capital.clientOrderReservations.erase capability.clientOrderId =
        (book.orders.erase capability.clientOrderId).map fun _ => Holding.record
      rw [map_erase, hrep.index]
    · refine .retire held ?_ rfl rfl rfl
      intro hphase
      simp [TerminalReservationCapability.current, hphase] at hcurrent

/-! ## Fills and capture failures -/

section

variable (hcapital : inner.capitalAdmission = some capital)

include hcapital

omit [DecimalArith] in
/-- The state with a new gate that keeps the reservations, at the next revision. -/
theorem Represents.regate {inner' : Inner} {capital' : SubmitCapitalAdmissionState} {gate : Gate}
    (headroom : book.revision + 1 ≤ u64Max)
    (hinner' : inner'.capitalAdmission = some capital') (hterms : capital'.terms = capital.terms)
    (hmarket : capital'.market = capital.market)
    (hrevision : inner'.capitalAdmissionStateRevision = book.revision + 1)
    (hindex : capital'.clientOrderReservations = capital.clientOrderReservations)
    (hlive : capital'.gate.liveReservations = capital.gate.liveReservations)
    (hreconciled : capital'.gate.reconciliationComplete = gate.reconciled)
    (hsource : capital'.captureFailureSource = gate.captureFailure.map Prod.fst)
    (hobserved : capital'.captureFailureObservedAtNs = gate.captureFailure.map Prod.snd)
    (hfill : capital'.fillEvidenceIntegrityFailed = gate.fillFailed) :
    Represents terms market inner' (book.regate gate headroom) := by
  have hrep := h.present capital hcapital
  refine h.of_some hcapital hinner' hterms (hmarket.trans (h.market_of hcapital)) hrevision
    ⟨?_, ?_, ?_, hreconciled, hsource, hobserved, hfill⟩
  · exact (congrArg CapitalTerms.poolId hterms).trans hrep.pool
  · rw [hindex]
    exact hrep.index
  · rw [hlive]
    exact hrep.ledger

theorem Represents.failFill (headroom : book.revision + 1 ≤ u64Max) (observedAtNs : Nat) :
    Represents terms market (inner.failFill (book.revision + 1) observedAtNs)
        (book.regate book.gate.failFill headroom) ∧
      BookStep terms book .failFill (book.regate book.gate.failFill headroom) := by
  have hrep := h.present capital hcapital
  have hinner' : (inner.failFill (book.revision + 1) observedAtNs).capitalAdmission =
      some (capital.failFillEvidenceIntegrity observedAtNs) := by
    simp only [Inner.failFill, hcapital, Option.map_some]
  have hmarket : (capital.failFillEvidenceIntegrity observedAtNs).market = capital.market :=
    market_refreshed _ _ _ _
  exact ⟨h.regate hcapital headroom hinner' rfl hmarket rfl rfl rfl rfl hrep.captureSource
    hrep.captureObserved rfl, .failFill rfl rfl rfl⟩

/-- Rejected fill evidence fails the integrity, or closes an exhausted book. -/
theorem rejectIntegrity_moves (observedAtNs : Nat) :
    let inner' := rejectCapitalAdmissionFillEvidenceIntegrity inner observedAtNs
    (∃ book', Represents terms market inner' book' ∧ BookStep terms book .failFill book') ∨
      Represents terms market inner' book.close := by
  unfold rejectCapitalAdmissionFillEvidenceIntegrity
  rw [h.revision]
  cases hnext : nextRevision book.revision with
  | none => exact .inr h.close
  | some next =>
    obtain ⟨headroom, rfl⟩ := nextRevision_eq_some.mp hnext
    exact .inl ⟨_, h.failFill hcapital headroom observedAtNs⟩

end

/-- A fill is noted, fails the fill integrity, closes an exhausted book, or changes nothing. -/
def FillMoves (terms : Option CapitalTerms) (market : Option Market) (book : Book)
    (inner inner' : Inner) : Prop :=
  (∃ book', Represents terms market inner' book' ∧
      (BookStep terms book .note book' ∨ BookStep terms book .failFill book')) ∨
    Represents terms market inner' book.close ∨ inner' = inner

theorem rejectCapitalAdmissionFillEvidence_moves (observedAtNs : Nat) :
    let inner' := rejectCapitalAdmissionFillEvidence inner observedAtNs
    (∃ book', Represents terms market inner' book' ∧ BookStep terms book .failFill book') ∨
      Represents terms market inner' book.close ∨ inner' = inner := by
  unfold rejectCapitalAdmissionFillEvidence
  cases hcapital : inner.capitalAdmission with
  | none => exact .inr (.inr rfl)
  | some capital =>
    rcases rejectIntegrity_moves h hcapital observedAtNs with hmoves | hclosed
    · exact .inl hmoves
    · exact .inr (.inl hclosed)

/-- **What recording a fill does to the book.** -/
theorem recordCapitalAdmissionFillEvidence_moves (update : FillUpdate) (append : Bool) :
    FillMoves terms market book inner
      (recordCapitalAdmissionFillEvidence inner update append).inner := by
  unfold recordCapitalAdmissionFillEvidence
  dsimp only
  split
  · exact .inr (.inr rfl)
  rename_i capital hcapital
  have hrejected : FillMoves terms market book inner
      (rejectCapitalAdmissionFillEvidenceIntegrity inner update.observedAtNs) := by
    rcases rejectIntegrity_moves h hcapital update.observedAtNs with ⟨book', hrep, hstep⟩ | hclosed
    · exact .inl ⟨book', hrep, .inr hstep⟩
    · exact .inr (.inl hclosed)
  split
  · exact .inr (.inr rfl)
  split
  · exact hrejected
  split
  · exact hrejected
  unfold recordNamedFill
  split
  · split
    · exact .inr (.inr rfl)
    · exact hrejected
  split
  · exact hrejected
  split
  · exact hrejected
  unfold recordFill
  rw [h.revision]
  cases hnext : nextRevision book.revision with
  | none => exact .inr (.inl h.close)
  | some next =>
    obtain ⟨headroom, rfl⟩ := nextRevision_eq_some.mp hnext
    obtain ⟨hfailed, hstep⟩ := h.failFill hcapital headroom update.observedAtNs
    dsimp only
    split
    · exact .inl ⟨_, hfailed, .inr hstep⟩
    split
    · exact .inl ⟨_, hfailed, .inr hstep⟩
    · have hrep := h.present capital hcapital
      refine .inl ⟨book.regate book.gate headroom, ?_, .inl (.note rfl rfl rfl)⟩
      exact h.regate hcapital headroom hcapital rfl rfl rfl rfl rfl hrep.reconciled
        hrep.captureSource
        hrep.captureObserved hrep.fillFailed

/-- **A capture failure suspends the book**, or closes it where nothing can be recorded. -/
theorem suspendCapitalAdmission_moves (source : String) (observedAtNs : Nat) :
    let inner' := suspendCapitalAdmissionForCaptureFailure inner source observedAtNs
    (∃ book', Represents terms market inner' book' ∧
        BookStep terms book (.suspend source observedAtNs) book') ∨
      Represents terms market inner' book.close ∧
        (book.revision = u64Max ∨ inner.capitalAdmission = none) := by
  unfold suspendCapitalAdmissionForCaptureFailure
  rw [h.revision]
  cases hnext : nextRevision book.revision with
  | none =>
    have := nextRevision_eq_none.mp hnext
    have := book.bounded
    exact .inr ⟨h.close, .inl (by omega)⟩
  | some next =>
    obtain ⟨headroom, rfl⟩ := nextRevision_eq_some.mp hnext
    cases hcapital : inner.capitalAdmission with
    | none =>
      refine .inr ⟨h.close.congr ?_ ?_, .inr rfl⟩
      · simp [Inner.close, hcapital]
      · simp only [Inner.close, h.revision]
        exact (saturatingSucc_eq (by omega)).symm
    | some capital =>
      refine .inl ⟨book.regate (book.gate.suspend source observedAtNs) headroom, ?_,
        .suspend rfl rfl rfl⟩
      exact h.regate hcapital headroom rfl rfl (market_refreshed _ _ _ _)
        rfl rfl rfl rfl rfl rfl (h.present capital hcapital).fillFailed

end

end

end BoltV3.Submit
