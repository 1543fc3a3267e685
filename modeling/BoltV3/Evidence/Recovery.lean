import BoltV3.Lib.SortedMap
import BoltV3.Loss.Governor
import Mathlib.Data.List.Nodup

/-!
# Recovery of admission authority

`bolt_v3_current_evidence/facts.rs`: the facts an admission records durably, and
`ReservationRecoveryFacts`, the index of every authorised client order that live admission maintains
and a restart rebuilds by applying the recorded events in order (`reader.rs`).

* `apply` works on a copy wherever its failure is not fatal, so it is an `Except` on values, with
  the texts of the source's errors.
* The economics of an admission (`AdmissionDetails::economics`) is recorded and never read; it is
  left out.
-/

namespace BoltV3.Evidence

open Lib Std

inductive ReservationProductKind
  | predictionMarketBinary
deriving DecidableEq

inductive EvidenceOrderSide
  | unspecified | buy | sell
deriving DecidableEq

structure ReservationAttribution where
  (clientOrderId submitReservationId venueId accountId : String)
  productKind : ReservationProductKind
  (collateralCurrency capitalPoolId collateralGroupId instrumentId : String)
  side : EvidenceOrderSide
  (submittedQuantity liabilityFactor additiveLiability reservedLiability : String)
  observedAtNs : Nat
deriving DecidableEq

inductive SubmitReservationFillSource
  | ntOrderFill
deriving DecidableEq

structure SubmitReservationFillFact where
  (clientOrderId submitReservationId tradeId instrumentId : String)
  side : EvidenceOrderSide
  fillQuantity : String
  observedAtNs : Nat
  reconciliation : Bool
  source : SubmitReservationFillSource
deriving DecidableEq

structure BasketAdmissionDetails where
  (strategyId executionClientId basketId groupId : String)
  legInstrumentIds : List String
  totalNotional : String
  legOrderCount : Nat
deriving DecidableEq

inductive BasketAdmissionIntentKind
  | entry | riskReducingExit
deriving DecidableEq

structure BasketAdmittedLeg where
  (clientOrderId instrumentId : String)
  intentKind : BasketAdmissionIntentKind
  reservation : Option ReservationAttribution
deriving DecidableEq

structure BasketAdmissionGrantedFact where
  details : BasketAdmissionDetails
  admittedLegs : List BasketAdmittedLeg
deriving DecidableEq

inductive AdmissionRejectionReason
  | killSwitchLatched | lossGovernorHalted | nonPositiveNotional | notionalCapExceeded
  | clientOrderAlreadyAuthorized | invalidRiskReducingExitProof | countCapExhausted
  | killSwitchForcedReductionProofInvalid | killSwitchForcedReductionCapExceeded
  | economicsSealRejected | capitalAdmission
deriving DecidableEq

inductive AdmissionDecisionOutcome
  | admitted
  | rejected (reason : AdmissionRejectionReason)
deriving DecidableEq

/-- The details of an admission: it has the fields of the loss diagnostics. -/
structure AdmissionDetails extends Loss.LossSnapshotDiagnostics where
  (strategyId executionClientId clientOrderId instrumentId notional : String)
  lossHaltReasons : List Loss.LossHaltReason
  (lossSnapshotObservedAtNs lossEvalNowNs : Option Nat)
deriving DecidableEq

structure AdmittedEntryAdmissionFact where
  details : AdmissionDetails
  reservation : Option ReservationAttribution
deriving DecidableEq

structure RiskReducingExitAdmissionFact where
  details : AdmissionDetails
  outcome : AdmissionDecisionOutcome
deriving DecidableEq

inductive ReservationRecoveryEvent
  | admittedEntry (admission : AdmittedEntryAdmissionFact)
  | basketGranted (grant : BasketAdmissionGrantedFact)
  | riskReducingExit (admission : RiskReducingExitAdmissionFact)
  | fill (fill : SubmitReservationFillFact)
deriving DecidableEq

/-- `BTreeMap<(String, String), _>` iterates in lexicographic order. -/
abbrev pairCompare : String × String → String × String → Ordering := lexOrd.compare

/-- The facts recovered from the recorded events. -/
structure ReservationRecoveryFacts where
  reservationAttribution : ExtTreeMap String ReservationAttribution
  reservationFills :
    ExtTreeMap (String × String) (ExtTreeMap String SubmitReservationFillFact) pairCompare
  (admittedUnreservedEntryClientOrderIds admittedRiskReducingClientOrderIds : ExtTreeSet String)
deriving DecidableEq

inductive RecoveredNonReservationAuthorization
  | unreservedEntry | riskReducing

namespace ReservationRecoveryFacts

/-- `ReservationRecoveryFacts::default`. -/
def empty : ReservationRecoveryFacts := ⟨∅, ∅, ∅, ∅⟩

variable (facts : ReservationRecoveryFacts)

def reservationFill
    (clientOrderId submitReservationId tradeId : String) : Option SubmitReservationFillFact :=
  (facts.reservationFills[(clientOrderId, submitReservationId)]?).bind fun fills => fills[tradeId]?

variable (clientOrderId : String)

def authorizesNonReservationOrder : Bool :=
  facts.admittedUnreservedEntryClientOrderIds.contains clientOrderId ||
    facts.admittedRiskReducingClientOrderIds.contains clientOrderId

def authorizesOrder : Bool :=
  facts.reservationAttribution.contains clientOrderId ||
    facts.authorizesNonReservationOrder clientOrderId

def insertAttribution (attribution : ReservationAttribution) :
    Except String ReservationRecoveryFacts :=
  let id := attribution.clientOrderId
  if facts.reservationAttribution.contains id then
    .error ("duplicate submit-reservation attribution for client_order_id `" ++ id ++ "`")
  else if facts.admittedRiskReducingClientOrderIds.contains id ||
      facts.admittedUnreservedEntryClientOrderIds.contains id then
    .error ("submit-reservation attribution for client_order_id `" ++ id ++
      "` conflicts with a non-reservation admission")
  else
    .ok { facts with reservationAttribution := facts.reservationAttribution.insert id attribution }

def insertNonReservationAuthorization (id : String)
    (authorization : RecoveredNonReservationAuthorization) :
    Except String ReservationRecoveryFacts :=
  if facts.reservationAttribution.contains id ||
      facts.admittedUnreservedEntryClientOrderIds.contains id ||
      facts.admittedRiskReducingClientOrderIds.contains id then
    .error ("duplicate or conflicting admission authorization for client_order_id `" ++ id ++ "`")
  else
    match authorization with
    | .unreservedEntry =>
      .ok { facts with
        admittedUnreservedEntryClientOrderIds :=
          facts.admittedUnreservedEntryClientOrderIds.insert id }
    | .riskReducing =>
      .ok { facts with
        admittedRiskReducingClientOrderIds := facts.admittedRiskReducingClientOrderIds.insert id }

/-- The authority of one order: its attribution where it reserves capital, otherwise its id. -/
def authorize (reservation : Option ReservationAttribution)
    (clientOrderId : String) (authorization : RecoveredNonReservationAuthorization) :
    Except String ReservationRecoveryFacts :=
  match reservation with
  | some attribution => facts.insertAttribution attribution
  | none => facts.insertNonReservationAuthorization clientOrderId authorization

/-- The authorisation an unreserved leg of a basket recovers as. -/
def legAuthorization : BasketAdmissionIntentKind → RecoveredNonReservationAuthorization
  | .entry => .unreservedEntry
  | .riskReducingExit => .riskReducing

/-- The loop of `apply` over the legs of a granted basket. -/
def authorizeLegs : ReservationRecoveryFacts → List BasketAdmittedLeg →
    Except String ReservationRecoveryFacts
  | facts, [] => .ok facts
  | facts, leg :: legs =>
    match facts.authorize leg.reservation leg.clientOrderId (legAuthorization leg.intentKind) with
    | .error error => .error error
    | .ok facts => facts.authorizeLegs legs

end ReservationRecoveryFacts

section

variable [DecimalArith]

/-- Two quantity texts of one number. -/
def sameQuantity (left right : String) : Bool :=
  match DecimalArith.parse left, DecimalArith.parse right with
  | some left, some right => decide (left.NumEq right)
  | _, _ => false

def reservationFillStableIdentityEq (left right : SubmitReservationFillFact) : Bool :=
  left.clientOrderId == right.clientOrderId &&
    left.submitReservationId == right.submitReservationId &&
    left.tradeId == right.tradeId &&
    left.instrumentId == right.instrumentId &&
    left.side == right.side &&
    sameQuantity left.fillQuantity right.fillQuantity

namespace ReservationRecoveryFacts

variable (facts : ReservationRecoveryFacts)

/-- The fill arm of `apply`: a trade is recorded once, a replay of it is ignored. -/
def applyFill (fill : SubmitReservationFillFact) : Except String ReservationRecoveryFacts :=
  let key := (fill.clientOrderId, fill.submitReservationId)
  let fills := (facts.reservationFills[key]?).getD ∅
  match fills[fill.tradeId]? with
  | some existing =>
    if reservationFillStableIdentityEq existing fill then .ok facts
    else
      .error ("conflicting submit-reservation fill for client_order_id `" ++ fill.clientOrderId ++
        "`, reservation `" ++ fill.submitReservationId ++ "`, trade_id `" ++ fill.tradeId ++ "`")
  | none =>
    .ok { facts with
      reservationFills := facts.reservationFills.insert key (fills.insert fill.tradeId fill) }

def apply :
    ReservationRecoveryEvent → Except String ReservationRecoveryFacts
  | .admittedEntry admission =>
    facts.authorize admission.reservation admission.details.clientOrderId .unreservedEntry
  | .basketGranted grant => facts.authorizeLegs grant.admittedLegs
  | .riskReducingExit admission =>
    if admission.outcome = .admitted then
      facts.insertNonReservationAuthorization admission.details.clientOrderId .riskReducing
    else .ok facts
  | .fill fill => facts.applyFill fill

/-- The events of a machine stream applied in order. -/
def replay : ReservationRecoveryFacts → List ReservationRecoveryEvent →
    Except String ReservationRecoveryFacts
  | facts, [] => .ok facts
  | facts, event :: events =>
    match facts.apply event with
    | .error error => .error error
    | .ok facts => facts.replay events

/-- The checks of `validate` on one recorded trade. -/
def validateFill (clientOrderId submitReservationId : String) (attribution : ReservationAttribution)
    (tradeId : String) (fill : SubmitReservationFillFact) : Except String Unit := do
  let subject := "submit-reservation fill `" ++ clientOrderId ++ "` trade `" ++ tradeId ++ "`"
  if ¬ (fill.clientOrderId = clientOrderId ∧ fill.submitReservationId = submitReservationId ∧
      fill.tradeId = tradeId) then
    .error "submit-reservation fill identity does not match its recovery key"
  if ¬ (fill.instrumentId = attribution.instrumentId ∧ fill.side = attribution.side) then
    .error (subject ++ " does not match its attribution instrument/side")
  match DecimalArith.parse fill.fillQuantity with
  | some quantity =>
    if quantity ≤ .zero then .error (subject ++ " quantity must be positive") else .ok ()
  | none => .error (subject ++ " quantity must be positive")

def validate : Except String Unit :=
  facts.reservationFills.toList.forM fun ((clientOrderId, submitReservationId), fills) =>
    match facts.reservationAttribution[clientOrderId]? with
    | none =>
      .error ("submit-reservation fill has no attribution for client_order_id `" ++
        clientOrderId ++ "`")
    | some attribution =>
      if attribution.submitReservationId ≠ submitReservationId then
        .error ("submit-reservation fill `" ++ clientOrderId ++ "` reservation `" ++
          submitReservationId ++ "` does not match submit-reservation attribution `" ++
          attribution.submitReservationId ++ "`")
      else
        fills.toList.forM fun (tradeId, fill) =>
          validateFill clientOrderId submitReservationId attribution tradeId fill

/-- The recovery of `reader.rs`: every event is applied in order, and the result validated. -/
def recover (events : List ReservationRecoveryEvent) : Except String ReservationRecoveryFacts :=
  match empty.replay events with
  | .error error => .error error
  | .ok facts =>
    match facts.validate with
    | .error error => .error error
    | .ok () => .ok facts

end ReservationRecoveryFacts

end

/-! ## What is authorised -/

/-- The order an authorisation is for. -/
def authorizedId (reservation : Option ReservationAttribution) (clientOrderId : String) : String :=
  reservation.elim clientOrderId (·.clientOrderId)

/-- The client orders an event authorises. -/
def ReservationRecoveryEvent.authorizedIds : ReservationRecoveryEvent → List String
  | admittedEntry admission => [authorizedId admission.reservation admission.details.clientOrderId]
  | basketGranted grant =>
    grant.admittedLegs.map fun leg => authorizedId leg.reservation leg.clientOrderId
  | riskReducingExit admission =>
    if admission.outcome = .admitted then [admission.details.clientOrderId] else []
  | fill _ => []

/-- `facts'` authorises the client orders of `facts` and `ids`, which are new and distinct, and
keeps every attribution. -/
structure Authorizes (facts facts' : ReservationRecoveryFacts) (ids : List String) : Prop where
  fresh : ∀ id ∈ ids, facts.authorizesOrder id = false
  nodup : ids.Nodup
  authorizes : ∀ id, facts'.authorizesOrder id = true ↔ facts.authorizesOrder id = true ∨ id ∈ ids
  keeps : ∀ (id : String) attribution, facts.reservationAttribution[id]? = some attribution →
    facts'.reservationAttribution[id]? = some attribution

namespace Authorizes

variable {facts facts' facts'' : ReservationRecoveryFacts} {ids ids' : List String}

theorem refl (facts : ReservationRecoveryFacts) : Authorizes facts facts [] where
  fresh := by simp
  nodup := List.nodup_nil
  authorizes := by simp
  keeps := fun _ _ h => h

theorem trans (h : Authorizes facts facts' ids) (h' : Authorizes facts' facts'' ids') :
    Authorizes facts facts'' (ids ++ ids') where
  fresh := by
    intro id hid
    rcases List.mem_append.mp hid with hid | hid
    · exact h.fresh id hid
    · have := h'.fresh id hid
      rw [← Bool.not_eq_true, h.authorizes] at this
      rw [← Bool.not_eq_true]
      exact fun hold => this (.inl hold)
  nodup := by
    rw [List.nodup_append]
    refine ⟨h.nodup, h'.nodup, ?_⟩
    rintro id hid _ hid' rfl
    have := h'.fresh id hid'
    rw [← Bool.not_eq_true, h.authorizes] at this
    exact this (.inr hid)
  authorizes := by
    intro id
    rw [h'.authorizes, h.authorizes, List.mem_append, or_assoc]
  keeps := fun id attribution hold => h'.keeps id attribution (h.keeps id attribution hold)

end Authorizes

namespace ReservationRecoveryFacts

variable {facts facts' : ReservationRecoveryFacts} {id : String} {fill : SubmitReservationFillFact}

theorem authorizesOrder_iff : facts.authorizesOrder id = true ↔
    id ∈ facts.reservationAttribution ∨ id ∈ facts.admittedUnreservedEntryClientOrderIds ∨
      id ∈ facts.admittedRiskReducingClientOrderIds := by
  simp [authorizesOrder, authorizesNonReservationOrder]

variable {attribution : ReservationAttribution}
  {authorization : RecoveredNonReservationAuthorization}

theorem insertAttribution_eq_ok (h : facts.insertAttribution attribution = .ok facts') :
    facts.authorizesOrder attribution.clientOrderId = false ∧
      facts' = { facts with
        reservationAttribution :=
          facts.reservationAttribution.insert attribution.clientOrderId attribution } := by
  unfold insertAttribution at h
  dsimp only at h
  split at h; · cases h
  rename_i hattribution
  split at h; · cases h
  rename_i hother
  cases h
  refine ⟨?_, rfl⟩
  rw [← Bool.not_eq_true, authorizesOrder_iff]
  simp only [Bool.or_eq_true, not_or, ExtTreeMap.contains_iff_mem, ExtTreeSet.contains_iff_mem]
    at hattribution hother
  simp [hattribution, hother]

theorem insertAttribution_authorizes (h : facts.insertAttribution attribution = .ok facts') :
    Authorizes facts facts' [attribution.clientOrderId] := by
  obtain ⟨hfresh, rfl⟩ := insertAttribution_eq_ok h
  refine ⟨by simpa using hfresh, by simp, fun id => ?_, fun id old hold => ?_⟩
  · simp only [authorizesOrder_iff, ExtTreeMap.mem_insert, LawfulEqCmp.compare_eq_iff_eq,
      List.mem_singleton]
    tauto
  · rw [SortedMap.getElem?_insert]
    split
    · rename_i hid
      rw [← Bool.not_eq_true, authorizesOrder_iff, not_or] at hfresh
      rw [← hid] at hold
      exact absurd (SortedMap.mem_iff_getElem?.mpr ⟨old, hold⟩) hfresh.1
    · exact hold

theorem insertNonReservationAuthorization_authorizes
    (h : facts.insertNonReservationAuthorization id authorization = .ok facts') :
    Authorizes facts facts' [id] := by
  unfold insertNonReservationAuthorization at h
  split at h; · cases h
  rename_i hnone
  have hfresh : facts.authorizesOrder id = false := by
    rw [← Bool.not_eq_true, authorizesOrder_iff]
    simpa [or_assoc] using hnone
  cases authorization <;> cases h
  all_goals
    refine ⟨by simpa using hfresh, by simp, fun other => ?_, fun _ _ hold => hold⟩
    simp only [authorizesOrder_iff, ExtTreeSet.mem_insert, LawfulEqCmp.compare_eq_iff_eq,
      List.mem_singleton]
    tauto

theorem authorize_authorizes {reservation : Option ReservationAttribution}
    (h : facts.authorize reservation id authorization = .ok facts') :
    Authorizes facts facts' [authorizedId reservation id] := by
  cases reservation with
  | some attribution => exact insertAttribution_authorizes h
  | none => exact insertNonReservationAuthorization_authorizes h

theorem authorizeLegs_authorizes :
    ∀ {legs : List BasketAdmittedLeg} {facts facts' : ReservationRecoveryFacts},
      facts.authorizeLegs legs = .ok facts' →
      Authorizes facts facts' (legs.map fun leg => authorizedId leg.reservation leg.clientOrderId)
  | [], _, _, h => by
    cases h
    exact .refl _
  | leg :: legs, facts, facts', h => by
    unfold authorizeLegs at h
    split at h; · cases h
    rename_i next hnext
    exact (authorize_authorizes hnext).trans (authorizeLegs_authorizes h)

theorem applyFill_keeps [DecimalArith] (h : facts.applyFill fill = .ok facts') :
    facts'.reservationAttribution = facts.reservationAttribution ∧
      facts'.admittedUnreservedEntryClientOrderIds =
        facts.admittedUnreservedEntryClientOrderIds ∧
      facts'.admittedRiskReducingClientOrderIds = facts.admittedRiskReducingClientOrderIds := by
  unfold applyFill at h
  dsimp only at h
  split at h
  · split at h
    · cases h
      exact ⟨rfl, rfl, rfl⟩
    · cases h
  · cases h
    exact ⟨rfl, rfl, rfl⟩

theorem applyFill_authorizes [DecimalArith]
    (h : facts.applyFill fill = .ok facts') : Authorizes facts facts' [] := by
  obtain ⟨hattribution, hentries, hexits⟩ := applyFill_keeps h
  refine ⟨by simp, by simp, fun id => ?_, fun id _ hold => by rwa [hattribution]⟩
  simp only [authorizesOrder_iff, hattribution, hentries, hexits, List.not_mem_nil, or_false]

theorem applyFill_new [DecimalArith]
    (h : facts.reservationFill fill.clientOrderId fill.submitReservationId fill.tradeId = none) :
    ∃ facts', facts.applyFill fill = .ok facts' := by
  unfold reservationFill at h
  have hnone : ((facts.reservationFills[(fill.clientOrderId, fill.submitReservationId)]?).getD
      ∅)[fill.tradeId]? = none := by
    cases hfills : facts.reservationFills[(fill.clientOrderId, fill.submitReservationId)]? with
    | none => simp
    | some fills =>
      rw [hfills] at h
      exact h
  unfold applyFill
  dsimp only
  rw [hnone]
  exact ⟨_, rfl⟩

/-- **An accepted event authorises exactly its own client orders, all of them new.** -/
theorem apply_authorizes [DecimalArith] {event : ReservationRecoveryEvent}
    (h : facts.apply event = .ok facts') : Authorizes facts facts' event.authorizedIds := by
  cases event with
  | admittedEntry admission => exact authorize_authorizes h
  | basketGranted grant => exact authorizeLegs_authorizes h
  | riskReducingExit admission =>
    simp only [apply] at h
    simp only [ReservationRecoveryEvent.authorizedIds]
    split at h
    · rename_i hadmitted
      rw [if_pos hadmitted]
      exact insertNonReservationAuthorization_authorizes h
    · rename_i hrejected
      rw [if_neg hrejected]
      cases h
      exact .refl _
  | fill fill => exact applyFill_authorizes h

/-- **A replay that succeeds has authorised no client order twice.** -/
theorem replay_authorizes [DecimalArith] :
    ∀ {events : List ReservationRecoveryEvent} {facts facts' : ReservationRecoveryFacts},
      facts.replay events = .ok facts' →
      Authorizes facts facts' (events.flatMap (·.authorizedIds))
  | [], _, _, h => by
    cases h
    exact .refl _
  | event :: events, facts, facts', h => by
    unfold replay at h
    split at h; · cases h
    rename_i next hnext
    exact (apply_authorizes hnext).trans (replay_authorizes h)

theorem recover_eq_ok [DecimalArith] {events : List ReservationRecoveryEvent}
    (h : recover events = .ok facts) : empty.replay events = .ok facts := by
  unfold recover at h
  split at h; · cases h
  rename_i replayed hreplay
  split at h; · cases h
  cases h
  exact hreplay

theorem replay_append [DecimalArith] :
    ∀ {events events' : List ReservationRecoveryEvent} {facts facts' : ReservationRecoveryFacts},
      facts.replay events = .ok facts' → facts.replay (events ++ events') = facts'.replay events'
  | [], _, _, _, h => by
    cases h
    rfl
  | event :: events, events', facts, facts', h => by
    simp only [replay] at h
    split at h; · cases h
    rename_i next hnext
    rw [List.cons_append, replay, hnext]
    exact replay_append h

end ReservationRecoveryFacts

end BoltV3.Evidence
