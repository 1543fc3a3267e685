import BoltV3.Lib.SortedMap
import BoltV3.Taker.Exposure
import Mathlib.Data.Finset.Lattice.Basic

/-!
# Settlement booking and its recovery

`bolt_v3_settlement_booking.rs` and the settlement and booking facts of
`bolt_v3_current_evidence/facts.rs`: the decision that a resolution update leads to, the terminal
outcome of a booking error, and what a restart takes from the durable outcomes.

* The settlement of the lots in floating point is the parameter `settle`.
* Sets of keys are finite sets; the outcomes are a sorted map.
* Of the recorded facts, the fields that are read again are kept, and the numbers of the booking.
* The details of a booking error name what is missing, as in the source; the block reason is
  appended to the detail of a blocked settlement.
-/

namespace BoltV3.Taker

open Lib SortedMap
open Exit (InstrumentId)
open Std (ExtTreeMap)

/-- `NANOS_PER_MILLI_U64`. -/
def nanosPerMilli : Nat := 1000000

structure PositionMaterializationSpec where
  instrumentId : InstrumentId
  positionId : String
  entryOrderSide : OrderSide
  side : PositionSide
  quantity : Decimal
  avgPxOpen : F64

/-- An open position has the fields it is materialised from. -/
structure OpenPositionState extends PositionMaterializationSpec where
  lifecycle : BoltV3PositionMarketLifecycle

variable (position : OpenPositionState)

def OpenPositionState.managedPositionContext : ManagedPositionContext :=
  ⟨position.lifecycle, position.instrumentId, position.positionId⟩

/-- `prediction_market_product_id_from_instrument_id`: what follows the last dash of the symbol. -/
def predictionMarketProductId (instrumentId : InstrumentId) : Option String :=
  let (product, rest) := instrumentId.symbol.toList.reverse.span (· ≠ '-')
  if rest.isEmpty || product.isEmpty then none else some (String.ofList product.reverse)

def settlementKeyForPosition : Option String :=
  (predictionMarketProductId position.instrumentId).map fun product =>
    product ++ ":" ++ position.positionId

structure SettlementPositionKey where
  (settlementKey positionId : String)
  intervalEndMs : Option Nat

def settlementPositionKey (settlementKey : String) : SettlementPositionKey :=
  ⟨settlementKey, position.positionId, position.lifecycle.intervalEndMs⟩

/-! ## Terminal settlements -/

inductive TerminalSettlementEligibilityReason
  | marketExpired

structure TerminalSettlementEligibility where
  (settlementKey positionId : String)
  observedAtNs : Nat
  reason : TerminalSettlementEligibilityReason

variable (position : SettlementPositionKey)

/-- `terminal_settlement_eligibility`; it fails with "terminal settlement is ineligible for
live-manageable or nonterminal position ..". -/
def terminalSettlementEligibility (observedAtNs : Nat) : Option TerminalSettlementEligibility :=
  let observedAtMs := observedAtNs / nanosPerMilli
  if position.intervalEndMs.any (· ≤ observedAtMs) then
    some ⟨position.settlementKey, position.positionId, observedAtNs, .marketExpired⟩
  else none

structure SettlementTerminalKeyDelta where
  settlementKey : String
  (insertBookingErrorKey insertTerminalKey removeCloseFetchAttempt : Bool)

inductive SettlementBookingErrorReason
  | resolutionFeedMissing | settlementAlreadyBooked | settlementInputInvalid | settlementBlocked

structure SettlementBookingErrorTransition where
  eligibility : TerminalSettlementEligibility
  reason : SettlementBookingErrorReason
  detail : String
  keyDelta : SettlementTerminalKeyDelta

/-- `record_settlement_booking_error` of the booking module: nothing for a key that has its error,
and no result for a position that is not eligible. -/
def decideSettlementBookingError
    (reason : SettlementBookingErrorReason) (detail : String) (observedAtNs : Nat)
    (existingBookingErrorKeys : Finset String) :
    Option (Option SettlementBookingErrorTransition) :=
  if position.settlementKey ∈ existingBookingErrorKeys then some none
  else
    (terminalSettlementEligibility position observedAtNs).map fun eligibility =>
      some ⟨eligibility, reason, detail, ⟨position.settlementKey, true, true, true⟩⟩

/-! ## Bookings -/

structure BinarySettlementLot where
  outcomeSide : OutcomeSide
  quantity : Decimal
  entryPrice : F64

structure BinaryRuntimeSettlementInput where
  familyKey : String
  (referenceClosePrice strikePrice : F64)
  lot : BinarySettlementLot

structure BinarySettlementResult where
  (terminalValue realizedPnl : F64)

structure BinarySettlementPayout where
  (up down : F64)

def BinarySettlementPayout.legPayout (payout : BinarySettlementPayout) : OutcomeSide → F64
  | .up => payout.up
  | .down => payout.down

inductive BinaryRuntimeSettlementBlockReason
  | referencePayoutUnavailable | lotSettlementFailed

structure BinaryRuntimeSettlementDecision where
  payout : Option BinarySettlementPayout
  result : Option BinarySettlementResult
  blockedBy : Option BinaryRuntimeSettlementBlockReason

/-- The debug form of a block reason. -/
def BinaryRuntimeSettlementDecision.blockedByText (decision : BinaryRuntimeSettlementDecision) :
    String :=
  match decision.blockedBy with
  | none => "None"
  | some .referencePayoutUnavailable => "Some(ReferencePayoutUnavailable)"
  | some .lotSettlementFailed => "Some(LotSettlementFailed)"

/-- The fields of `SettlementCapability` that a booking reads. -/
structure SettlementCapability where
  runtimeSink : Bool
  (accountId currency : Option String)

structure ResolutionSettlementInput where
  position : SettlementPositionKey
  resolutionTsNs : Nat
  familyKey : String
  referenceClosePrice : F64
  strikePrice : Option F64
  lot : Option BinarySettlementLot
  marketIdPresent : Bool
  capability : Option SettlementCapability

inductive SettlementBookingSkipReason
  | resolutionTickMismatch | alreadyTerminal

structure ResolutionSettlementBooking where
  settlementKey : String
  lot : BinarySettlementLot
  payoutPerShare : F64
  result : BinarySettlementResult
  keyDelta : SettlementTerminalKeyDelta

inductive ResolutionSettlementDecision
  | skip (reason : SettlementBookingSkipReason)
  | bookingError (reason : SettlementBookingErrorReason) (detail : String)
  | book (booking : ResolutionSettlementBooking)

/-- The checks of the configured capability, in order. -/
def capabilityError (input : ResolutionSettlementInput) : Option String :=
  if (input.capability.bind (·.currency)).isNone then
    some "settlement input missing configured settlement currency"
  else if !input.marketIdPresent then some "settlement input missing market id"
  else if input.capability.any (·.runtimeSink) && (input.capability.bind (·.accountId)).isNone then
    some "settlement input missing configured settlement account id"
  else none

variable (settle : BinaryRuntimeSettlementInput → BinaryRuntimeSettlementDecision)
  (input : ResolutionSettlementInput)

/-- The part of `try_book_resolution_settlement` after its keys are known to have no outcome. -/
def bookLot : ResolutionSettlementDecision :=
  match input.lot with
  | none => .bookingError .settlementInputInvalid "settlement input missing outcome side"
  | some lot =>
    match input.strikePrice with
    | none => .bookingError .settlementInputInvalid "settlement input missing strike price"
    | some strikePrice =>
      let decision := settle ⟨input.familyKey, input.referenceClosePrice, strikePrice, lot⟩
      match decision.result with
      | none =>
        .bookingError .settlementBlocked ("settlement blocked by " ++ decision.blockedByText)
      | some result =>
        match decision.payout with
        | none => .bookingError .settlementBlocked "settlement output missing payout"
        | some payout =>
          match capabilityError input with
          | some detail => .bookingError .settlementInputInvalid detail
          | none =>
            .book ⟨input.position.settlementKey, lot, payout.legPayout lot.outcomeSide, result,
              ⟨input.position.settlementKey, false, false, true⟩⟩

/-- `try_book_resolution_settlement` of the booking module. -/
def tryBookResolutionSettlement (settledPositionKeys bookingErrorKeys : Finset String) :
    ResolutionSettlementDecision :=
  match input.position.intervalEndMs with
  | none => .bookingError .settlementInputInvalid "settlement input missing interval end"
  | some intervalEndMs =>
    if intervalEndMs ≠ input.resolutionTsNs / nanosPerMilli then .skip .resolutionTickMismatch
    else if input.position.settlementKey ∈ settledPositionKeys ∨
        input.position.settlementKey ∈ bookingErrorKeys then .skip .alreadyTerminal
    else bookLot settle input

/-! ## Durable outcomes -/

structure SettlementFact where
  (strategyId settlementKey marketId positionId : String)
  instrumentId : InstrumentId
  productId : String
  resolutionTsEventNs : Nat
  (payoutPerShare terminalValue realizedPnl : F64)
  settlementCurrency : String

structure SettlementBookingErrorFact where
  (strategyId settlementKey : String)
  (marketId positionId : Option String)
  instrumentId : Option InstrumentId
  reason : SettlementBookingErrorReason
  detail : String
  observedAtNs : Nat

structure TerminalSettlementFact where
  settlementKey : String
  bookingError : SettlementBookingErrorFact

inductive RecoveredSettlementOutcome
  | successful (fact : SettlementFact)
  | bookingTerminal (fact : TerminalSettlementFact)

namespace RecoveredSettlementOutcome

/-- The key under which an outcome is recovered. -/
def settlementKey : RecoveredSettlementOutcome → String
  | .successful fact => fact.settlementKey
  | .bookingTerminal fact => fact.settlementKey

def strategyId : RecoveredSettlementOutcome → String
  | .successful fact => fact.strategyId
  | .bookingTerminal fact => fact.bookingError.strategyId

def isSuccessful : RecoveredSettlementOutcome → Bool
  | .successful _ => true
  | .bookingTerminal _ => false

def settlementFact : RecoveredSettlementOutcome → Option SettlementFact
  | .successful fact => some fact
  | .bookingTerminal _ => none

end RecoveredSettlementOutcome

structure SettlementRecoveryFacts where
  outcomes : ExtTreeMap String RecoveredSettlementOutcome

namespace SettlementRecoveryFacts

/-- `apply`, which fails with "duplicate or conflicting terminal settlement outcome ..". -/
def apply (facts : SettlementRecoveryFacts) (outcome : RecoveredSettlementOutcome) :
    Option SettlementRecoveryFacts :=
  if outcome.settlementKey ∈ facts.outcomes then none
  else some ⟨facts.outcomes.insert outcome.settlementKey outcome⟩

/-- The outcomes of the durable stream, in order. -/
def replay : SettlementRecoveryFacts → List RecoveredSettlementOutcome →
    Option SettlementRecoveryFacts
  | facts, [] => some facts
  | facts, outcome :: rest =>
    match facts.apply outcome with
    | none => none
    | some facts => replay facts rest

end SettlementRecoveryFacts

structure BookingRecoveryFacts where
  (bookingErrorKeys terminalSettlementKeys : Finset String)

namespace BookingRecoveryFacts

/-- `apply`: only terminal settlements are booking events. -/
def apply (facts : BookingRecoveryFacts) : RecoveredSettlementOutcome → BookingRecoveryFacts
  | .successful _ => facts
  | .bookingTerminal fact =>
    ⟨insert fact.settlementKey facts.bookingErrorKeys,
      insert fact.settlementKey facts.terminalSettlementKeys⟩

/-- The booking facts of the durable stream. -/
def replay (outcomes : List RecoveredSettlementOutcome) : BookingRecoveryFacts :=
  outcomes.foldl apply ⟨∅, ∅⟩

end BookingRecoveryFacts

/-! ## Recovery -/

structure SettlementRecoveryDelta where
  (settledPositionKeys terminalSettlementKeys : Finset String)
  settledEvidence : List SettlementFact

/-- The outcomes of a strategy, in the order of their keys. -/
def outcomesOf (recovery : SettlementRecoveryFacts) (strategyId : String) :
    List (String × RecoveredSettlementOutcome) :=
  recovery.outcomes.toList.filter (·.2.strategyId = strategyId)

/-- `recover_settlement_facts`, which fails on a durable outcome outside the scope. -/
def recoverSettlementFacts (recovery : Option SettlementRecoveryFacts) (strategyId : String)
    (scope : Finset String) : Option SettlementRecoveryDelta :=
  match recovery with
  | none => some ⟨∅, ∅, []⟩
  | some recovery =>
    let outcomes := outcomesOf recovery strategyId
    if outcomes.any (·.1 ∉ scope) then none
    else
      some ⟨((outcomes.filter (·.2.isSuccessful)).map (·.1)).toFinset,
        ((outcomes.filter (!·.2.isSuccessful)).map (·.1)).toFinset,
        outcomes.filterMap (·.2.settlementFact)⟩

structure BookingRecoveryDelta where
  (bookingErrorKeys terminalSettlementKeys : Finset String)

def recoverBookingFacts (recovery : Option BookingRecoveryFacts) (scope : Finset String) :
    BookingRecoveryDelta :=
  match recovery with
  | none => ⟨∅, ∅⟩
  | some recovery => ⟨recovery.bookingErrorKeys ∩ scope, recovery.terminalSettlementKeys ∩ scope⟩

/-! ## What is recovered -/

/-- **A stream without two outcomes of a key replays**, to its outcomes. -/
theorem SettlementRecoveryFacts.replay_nodup {facts : SettlementRecoveryFacts}
    {outcomes : List RecoveredSettlementOutcome} (hnodup : (outcomes.map (·.settlementKey)).Nodup)
    (hfresh : ∀ outcome ∈ outcomes, facts.outcomes[outcome.settlementKey]? = none) :
    ∃ recovered, replay facts outcomes = some recovered ∧
      ∀ key outcome, recovered.outcomes[key]? = some outcome ↔
        facts.outcomes[key]? = some outcome ∨
          (outcome ∈ outcomes ∧ outcome.settlementKey = key) := by
  induction outcomes generalizing facts with
  | nil => exact ⟨facts, rfl, by simp⟩
  | cons first rest ih =>
    rw [List.map_cons, List.nodup_cons] at hnodup
    have hnone := hfresh first List.mem_cons_self
    have happly : facts.apply first = some ⟨facts.outcomes.insert first.settlementKey first⟩ := by
      unfold apply
      rw [if_neg (notMem_iff_getElem?.mpr hnone)]
    have hrest : ∀ outcome ∈ rest,
        (facts.outcomes.insert first.settlementKey first)[outcome.settlementKey]? = none := by
      intro outcome hmem
      rw [getElem?_insert, if_neg]
      · exact hfresh outcome (List.mem_cons_of_mem first hmem)
      · intro hsame
        exact hnodup.1 (List.mem_map.mpr ⟨outcome, hmem, hsame.symm⟩)
    obtain ⟨recovered, hreplay, hlookup⟩ :=
      @ih ⟨facts.outcomes.insert first.settlementKey first⟩ hnodup.2 hrest
    refine ⟨recovered, ?_, fun key outcome => ?_⟩
    · rw [replay, happly]
      exact hreplay
    · rw [hlookup, getElem?_insert]
      by_cases hkey : first.settlementKey = key
      · subst hkey
        rw [if_pos rfl, hnone]
        grind
      · rw [if_neg hkey]
        grind

/-- The keys that `recover_settlement_facts` takes as settled are those of the strategy's bookings.
-/
theorem mem_recoverSettlementFacts {recovery : SettlementRecoveryFacts} {strategyId : String}
    {scope : Finset String} {delta : SettlementRecoveryDelta}
    (h : recoverSettlementFacts (some recovery) strategyId scope = some delta) (key : String) :
    key ∈ delta.settledPositionKeys ↔ ∃ outcome, recovery.outcomes[key]? = some outcome ∧
      outcome.strategyId = strategyId ∧ outcome.isSuccessful := by
  unfold recoverSettlementFacts at h
  dsimp only at h
  split_ifs at h
  cases h
  simp only [List.mem_toFinset, List.mem_map, List.mem_filter, outcomesOf, decide_eq_true_eq]
  constructor
  · rintro ⟨⟨found, outcome⟩, ⟨⟨hmem, hstrategy⟩, hsuccess⟩, rfl⟩
    exact ⟨outcome, mem_toList.mp hmem, hstrategy, hsuccess⟩
  · rintro ⟨outcome, hlookup, hstrategy, hsuccess⟩
    exact ⟨(key, outcome), ⟨⟨mem_toList.mpr hlookup, hstrategy⟩, hsuccess⟩, rfl⟩

/-- The booking errors of a stream are those of its terminal settlements. -/
theorem BookingRecoveryFacts.mem_replay (outcomes : List RecoveredSettlementOutcome)
    (key : String) :
    key ∈ (replay outcomes).bookingErrorKeys ↔
      ∃ outcome ∈ outcomes, outcome.settlementKey = key ∧ outcome.isSuccessful = false := by
  have hfold : ∀ facts : BookingRecoveryFacts, key ∈ (outcomes.foldl apply facts).bookingErrorKeys ↔
      key ∈ facts.bookingErrorKeys ∨
        ∃ outcome ∈ outcomes, outcome.settlementKey = key ∧ outcome.isSuccessful = false := by
    induction outcomes with
    | nil => simp
    | cons first rest ih =>
      intro facts
      rw [List.foldl_cons, ih]
      cases first with
      | successful fact => simp [apply, RecoveredSettlementOutcome.isSuccessful]
      | bookingTerminal fact =>
        simp only [apply, Finset.mem_insert, List.mem_cons, exists_eq_or_imp,
          RecoveredSettlementOutcome.settlementKey, RecoveredSettlementOutcome.isSuccessful,
          and_true]
        rw [eq_comm, or_assoc, or_left_comm]
  unfold replay
  rw [hfold]
  simp

end BoltV3.Taker
