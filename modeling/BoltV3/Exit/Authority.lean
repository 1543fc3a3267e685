import BoltV3.Exit.Feed
import BoltV3.Lib.Action

/-!
# The authority of an exit order

`BoltV3ExitOrderAuthorityHandle` and `BoltV3PositionReductionFence` of `bolt_v3_order_execution.rs`.
An exit order that was submitted here holds a lease of the position authority feed. When the order
is terminal, a fence keeps the next exit back until the canonical position is known to have its
fills.

* `observe_order` works on the state behind the handle, so it is an action: what it has written
  stays when it returns an error.
* The fence that `observe_terminal_or_correction` works on is a clone, which an error discards.
* Decimal arithmetic is an instance of `DecimalArith`; decimals compare by value.
* Of an order and of a quantity only what is read is kept.
-/

namespace BoltV3.Exit

open Lib
open Decimal (zero value_zero)

/-- A quantity is not negative. -/
structure Quantity where
  asDecimal : Decimal
  nonneg : zero ≤ asDecimal

theorem Quantity.not_neg (quantity : Quantity) : ¬quantity.asDecimal < zero := by
  rw [Decimal.lt_iff_value, not_lt]
  exact Decimal.le_iff_value.mp quantity.nonneg

/-- The projections of `OrderAny` that `observe_order` reads. -/
structure Order where
  clientOrderId : String
  instrumentId : InstrumentId
  positionId : Option String
  (quantity filledQty : Quantity)
  tradeIds : List String
  isClosed : Bool

inductive BoltV3PositionReductionRelease
  | awaitingAuthority
  | residual (signedQuantity : Decimal)
  | flat
deriving DecidableEq

inductive BoltV3ExitOrderLifecycleReduction
  | working | terminalZeroFill | terminalAwaitingPosition
deriving DecidableEq

inductive BoltV3ExitOrderCorrection
  | unchanged | fillAuthorityChanged
deriving DecidableEq

inductive BoltV3FillSetProof
  | eligible | requiresPostEventReport
deriving DecidableEq

structure BoltV3PositionReductionFence where
  baselineSignedQuantity : Decimal
  baselineSide : PositionSideSpecified
  effectiveFilledQuantity : Decimal
  requiredTradeIds : Finset String
  fillSetProof : BoltV3FillSetProof
  (latestTerminalOrCorrectionNs proofFloorGeneration : Nat)

inductive BoltV3ExitOrderAuthorityProgress
  | working
  | workingFenced (fence : BoltV3PositionReductionFence)
  | terminalFenced (fence : BoltV3PositionReductionFence)

structure BoltV3LocallySubmittedExitBaseline where
  signedQuantity : Decimal
  side : PositionSideSpecified

structure BoltV3ExitOrderAuthorityState where
  clientOrderId : String
  instrumentId : InstrumentId
  positionId : String
  latestEffectiveFilledQuantity : Decimal
  latestFillIds : Finset String
  lease : BoltV3PositionAuthorityKey
  progress : BoltV3ExitOrderAuthorityProgress
  baseline : BoltV3LocallySubmittedExitBaseline
  compiledQuantity : Quantity

inductive ExitAuthorityError
  /-- "exit authority order identity mismatch" -/
  | orderIdentityMismatch
  /-- "exit authority position identity mismatch" -/
  | positionIdentityMismatch
  /-- "exit authority order quantity changed after authority construction" -/
  | quantityChanged
  /-- "exit authority cumulative fills exceed the authorized quantity ceiling" -/
  | fillsExceedCeiling
  /-- "position reduction fill quantity must be non-negative" -/
  | negativeFill
  /-- "position reduction authority observation regressed in event time" -/
  | regressed
  /-- "position reduction effective fill quantity must be non-negative" -/
  | negativeEffectiveFill
  /-- "long position reduction bound overflow" -/
  | longBoundOverflow
  /-- "short position reduction bound overflow" -/
  | shortBoundOverflow
  /-- "position reduction authority is stale: …" -/
  | stale (health : BoltV3PositionAuthorityStaleHealth)
  /-- "position reduction authority conflicts: …" -/
  | conflicts (conflict : BoltV3PositionAuthorityConflict)
  | feed (error : FeedError)
  | canonical (error : CanonicalError)

/-! ## Fences -/

namespace BoltV3PositionReductionFence

variable (fence : BoltV3PositionReductionFence) (effectiveFilledQuantity : Decimal)
  (requiredTradeIds : Finset String) (correction : BoltV3ExitOrderCorrection)

/-- `advances_authority`. -/
def advances (latestTerminalOrCorrectionNs : Nat) : Prop :=
  ¬effectiveFilledQuantity.NumEq fence.effectiveFilledQuantity ∨
    requiredTradeIds ≠ fence.requiredTradeIds ∨
    (correction = .fillAuthorityChanged ∧ fence.fillSetProof = .eligible) ∨
    fence.latestTerminalOrCorrectionNs < latestTerminalOrCorrectionNs

instance (fence : BoltV3PositionReductionFence) (effectiveFilledQuantity : Decimal)
    (requiredTradeIds : Finset String) (correction : BoltV3ExitOrderCorrection)
    (latestTerminalOrCorrectionNs : Nat) :
    Decidable (fence.advances effectiveFilledQuantity requiredTradeIds correction
      latestTerminalOrCorrectionNs) :=
  inferInstanceAs (Decidable (_ ∨ _ ∨ _ ∨ _))

/-- The fence that an observation advances, at the generation of the feed. -/
def advanced (latestTerminalOrCorrectionNs generation : Nat) : BoltV3PositionReductionFence :=
  { fence with
    effectiveFilledQuantity := effectiveFilledQuantity, requiredTradeIds := requiredTradeIds
    fillSetProof :=
      if correction = .fillAuthorityChanged then .requiresPostEventReport else fence.fillSetProof
    latestTerminalOrCorrectionNs := latestTerminalOrCorrectionNs
    proofFloorGeneration := generation }

variable (feed : PositionAuthorityFeedState) (lease : BoltV3PositionAuthorityKey)

def observeTerminalOrCorrection
    (effectiveFilledQuantity : Decimal) (requiredTradeIds : Finset String)
    (correction : BoltV3ExitOrderCorrection) (latestTerminalOrCorrectionNs : Nat) :
    Except ExitAuthorityError BoltV3PositionReductionFence :=
  if effectiveFilledQuantity < zero then .error .negativeFill
  else if ¬fence.advances effectiveFilledQuantity requiredTradeIds correction
      latestTerminalOrCorrectionNs then .ok fence
  else if latestTerminalOrCorrectionNs < fence.latestTerminalOrCorrectionNs then .error .regressed
  else
    match feed.coherentGeneration lease with
    | .error error => .error (.feed error)
    | .ok generation =>
      .ok (fence.advanced effectiveFilledQuantity requiredTradeIds correction
        latestTerminalOrCorrectionNs (generation.getD 0))

/-- `BoltV3PositionReductionFence::local`. -/
def «local» (baselineSignedQuantity : Decimal) (baselineSide : PositionSideSpecified)
    (effectiveFilledQuantity : Decimal) (requiredTradeIds : Finset String)
    (fillSetProof : BoltV3FillSetProof)
    (latestTerminalOrCorrectionNs minimumProofFloorGeneration : Nat) :
    Except ExitAuthorityError BoltV3PositionReductionFence :=
  if effectiveFilledQuantity < zero then .error .negativeEffectiveFill
  else
    match feed.coherentGeneration lease with
    | .error error => .error (.feed error)
    | .ok generation =>
      .ok ⟨baselineSignedQuantity, baselineSide, effectiveFilledQuantity, requiredTradeIds,
        fillSetProof, latestTerminalOrCorrectionNs,
        max (generation.getD 0) minimumProofFloorGeneration⟩

end BoltV3PositionReductionFence

section

variable [arith : DecimalArith]

def positionIsWithinReductionBound (baselineSignedQuantity : Decimal)
    (baselineSide : PositionSideSpecified)
    (effectiveFilledQuantity observedSignedQuantity : Decimal)
    (observedSide : PositionSideSpecified) : Except ExitAuthorityError Bool :=
  match baselineSide with
  | .long =>
    match arith.checkedSub baselineSignedQuantity effectiveFilledQuantity with
    | none => .error .longBoundOverflow
    | some maximumResidual =>
      .ok (decide (zero ≤ maximumResidual) &&
        (observedSide = .long || observedSide = .flat) &&
        decide (zero ≤ observedSignedQuantity) &&
        decide (observedSignedQuantity ≤ maximumResidual))
  | .short =>
    match arith.checkedAdd baselineSignedQuantity effectiveFilledQuantity with
    | none => .error .shortBoundOverflow
    | some minimumResidual =>
      .ok (decide (minimumResidual ≤ zero) &&
        (observedSide = .short || observedSide = .flat) &&
        decide (observedSignedQuantity ≤ zero) &&
        decide (minimumResidual ≤ observedSignedQuantity))
  | .flat =>
    .ok (decide (baselineSignedQuantity.NumEq zero) &&
      decide (effectiveFilledQuantity.NumEq zero) &&
      decide (observedSignedQuantity.NumEq zero) && observedSide = .flat)

namespace BoltV3PositionReductionFence

variable (fence : BoltV3PositionReductionFence) (canonical : BoltV3CanonicalPositionAuthority)

def completeFillApplication : Bool :=
  fence.fillSetProof = .eligible &&
    (decide (fence.effectiveFilledQuantity.NumEq zero) || fence.requiredTradeIds ≠ ∅) &&
    decide (fence.requiredTradeIds ⊆ canonical.tradeIds)

/-- The test of `post_event_report` on a coherent snapshot. -/
def provesPostEvent (snapshot : BoltV3PositionAuthoritySnapshot) : Bool :=
  decide (fence.proofFloorGeneration < snapshot.generation) &&
    decide (fence.latestTerminalOrCorrectionNs ≤ snapshot.tsLast) &&
    decide (snapshot.signedQuantity.NumEq canonical.signedQuantity) &&
    snapshot.positionSide = canonical.side

def postEventReport :
    BoltV3PositionAuthorityLeaseState → Except ExitAuthorityError Bool
  | .coherent snapshot => .ok (fence.provesPostEvent canonical snapshot)
  | .awaiting => .ok false
  | .conflicted conflict => .error (.conflicts conflict)

/-- `BoltV3PositionReductionFence::release`. -/
def release (feed : PositionAuthorityFeedState)
    (lease : BoltV3PositionAuthorityKey) (canonical : Option BoltV3CanonicalPositionAuthority) :
    Except ExitAuthorityError BoltV3PositionReductionRelease :=
  match canonical with
  | none => .ok .awaitingAuthority
  | some canonical =>
    if canonical.targetScope ≠ .exact then .ok .awaitingAuthority
    else
      match positionIsWithinReductionBound fence.baselineSignedQuantity fence.baselineSide
        fence.effectiveFilledQuantity canonical.signedQuantity canonical.side with
      | .error error => .error error
      | .ok false => .ok .awaitingAuthority
      | .ok true =>
        match feed.observation lease with
        | .error error => .error (.feed error)
        | .ok observation =>
          match observation.staleHealth, fence.postEventReport canonical observation.authority with
          | some stale, _ => .error (.stale stale)
          | none, .error error => .error error
          | none, .ok postEventReport =>
            if !fence.completeFillApplication canonical && !postEventReport then
              .ok .awaitingAuthority
            else if canonical.signedQuantity.NumEq zero then .ok .flat
            else .ok (.residual canonical.signedQuantity)

end BoltV3PositionReductionFence

/-! ## Observations and releases -/

/-- A method on the state behind the handle. -/
abbrev Act := Action BoltV3ExitOrderAuthorityState ExitAuthorityError

variable (state : BoltV3ExitOrderAuthorityState) (order : Order)

/-- The checks of `observe_order` before it looks at the progress. -/
def orderRefusal : Option ExitAuthorityError :=
  firstRefusal
    [(order.clientOrderId ≠ state.clientOrderId || order.instrumentId ≠ state.instrumentId,
      .orderIdentityMismatch),
    (order.positionId.any (· ≠ state.positionId), .positionIdentityMismatch),
    (decide (¬order.quantity.asDecimal.NumEq state.compiledQuantity.asDecimal), .quantityChanged),
    (decide (state.compiledQuantity.asDecimal < order.filledQty.asDecimal), .fillsExceedCeiling)]

def orderAuthorityChanged : Bool :=
  decide (¬order.filledQty.asDecimal.NumEq state.latestEffectiveFilledQuantity) ||
    decide (order.tradeIds.toFinset ≠ state.latestFillIds)

/-- The state with the fills of an order. -/
def BoltV3ExitOrderAuthorityState.observed
    (progress : BoltV3ExitOrderAuthorityProgress) : BoltV3ExitOrderAuthorityState :=
  { state with
    latestEffectiveFilledQuantity := order.filledQty.asDecimal
    latestFillIds := order.tradeIds.toFinset, progress := progress }

/-- The progress of an order with a fence. -/
def Order.fencedProgress (fence : BoltV3PositionReductionFence) :
    BoltV3ExitOrderAuthorityProgress :=
  if order.isClosed then .terminalFenced fence else .workingFenced fence

/-- The reduction of an order with a fence. -/
def Order.fencedReduction : BoltV3ExitOrderLifecycleReduction :=
  if order.isClosed then .terminalAwaitingPosition else .working

variable (feed : PositionAuthorityFeedState)

/-- `observe_order` of an authority with a fence. -/
def observeFenced (fence : BoltV3PositionReductionFence)
    (order : Order) (latestTerminalOrCorrectionNs : Nat) (correction : BoltV3ExitOrderCorrection) :
    Act BoltV3ExitOrderLifecycleReduction := do
  let state ← get
  let next :=
    if correction = .fillAuthorityChanged || orderAuthorityChanged state order ||
      order.isClosed then
      fence.observeTerminalOrCorrection feed state.lease order.filledQty.asDecimal
        order.tradeIds.toFinset correction latestTerminalOrCorrectionNs
    else .ok fence
  match next with
  | .error error => throw error
  | .ok nextFence =>
    set (state.observed order (order.fencedProgress nextFence))
    return order.fencedReduction

/-- `observe_order` of an authority without a fence. -/
def observeWorking (order : Order)
    (latestTerminalOrCorrectionNs : Nat) (correction : BoltV3ExitOrderCorrection) :
    Act BoltV3ExitOrderLifecycleReduction := do
  let state ← get
  if !order.isClosed then
    set (state.observed order .working)
    return .working
  else if order.filledQty.asDecimal.NumEq zero ∧ correction = .unchanged then
    set (state.observed order .working)
    return .terminalZeroFill
  else
    let fillSetProof :=
      match correction with
      | .unchanged => BoltV3FillSetProof.eligible
      | .fillAuthorityChanged => .requiresPostEventReport
    match BoltV3PositionReductionFence.local feed state.lease state.baseline.signedQuantity
      state.baseline.side order.filledQty.asDecimal order.tradeIds.toFinset fillSetProof
      latestTerminalOrCorrectionNs 0 with
    | .error error => throw error
    | .ok fence =>
      set (state.observed order (.terminalFenced fence))
      return .terminalAwaitingPosition

def observeOrder (order : Order)
    (latestTerminalOrCorrectionNs : Nat) (correction : BoltV3ExitOrderCorrection) :
    Act BoltV3ExitOrderLifecycleReduction := do
  let state ← get
  match orderRefusal state order, state.progress with
  | some error, _ => throw error
  | none, .working => observeWorking feed order latestTerminalOrCorrectionNs correction
  | none, .workingFenced fence =>
    observeFenced feed fence order latestTerminalOrCorrectionNs correction
  | none, .terminalFenced fence =>
    observeFenced feed fence order latestTerminalOrCorrectionNs correction

namespace BoltV3ExitOrderAuthorityState

def releaseWithCanonical (canonical : Option BoltV3CanonicalPositionAuthority) :
    Except ExitAuthorityError BoltV3PositionReductionRelease :=
  match state.progress with
  | .terminalFenced fence => fence.release feed state.lease canonical
  | _ => .ok .awaitingAuthority

def release (capability : BoltV3PositionAuthorityCapability) (cache : List Position) :
    Except ExitAuthorityError BoltV3PositionReductionRelease :=
  match capability.canonicalPosition cache state.positionId state.instrumentId with
  | .error error => .error (.canonical error)
  | .ok canonical => state.releaseWithCanonical feed canonical

end BoltV3ExitOrderAuthorityState

/-! ## What an observation does -/

/-- The fence of an authority. -/
def BoltV3ExitOrderAuthorityProgress.fence :
    BoltV3ExitOrderAuthorityProgress → Option BoltV3PositionReductionFence
  | .working => none
  | .workingFenced fence => some fence
  | .terminalFenced fence => some fence

/-- The fence of an order that is found terminal. -/
def firstFence (state : BoltV3ExitOrderAuthorityState) (order : Order) (eventNs : Nat)
    (correction : BoltV3ExitOrderCorrection) (generation : Nat) : BoltV3PositionReductionFence :=
  ⟨state.baseline.signedQuantity, state.baseline.side, order.filledQty.asDecimal,
    order.tradeIds.toFinset,
    if correction = .fillAuthorityChanged then .requiresPostEventReport else .eligible, eventNs,
    generation⟩

/-- The cases of an observation that returns a reduction: without a fence the order is open,
terminal without fills, or gets its fence; a fence is kept or advanced. -/
inductive Observes (feed : PositionAuthorityFeedState) (state : BoltV3ExitOrderAuthorityState)
    (order : Order) (eventNs : Nat) (correction : BoltV3ExitOrderCorrection) :
    BoltV3ExitOrderAuthorityProgress → BoltV3ExitOrderLifecycleReduction → Prop
  | working (hworking : state.progress = .working) (hopen : order.isClosed = false) :
      Observes feed state order eventNs correction .working .working
  | zeroFill (hworking : state.progress = .working) (hclosed : order.isClosed = true)
      (hcorrection : correction = .unchanged) :
      Observes feed state order eventNs correction .working .terminalZeroFill
  | fenced {entry : PositionAuthorityKeyState} (hworking : state.progress = .working)
      (hclosed : order.isClosed = true) (hentry : feed.keys state.lease = some entry) :
      Observes feed state order eventNs correction
        (.terminalFenced (firstFence state order eventNs correction entry.authority.generation))
        .terminalAwaitingPosition
  | kept {fence : BoltV3PositionReductionFence} (hfence : state.progress.fence = some fence)
      (hkept : (correction = .unchanged ∧ orderAuthorityChanged state order = false ∧
          order.isClosed = false) ∨
        ¬fence.advances order.filledQty.asDecimal order.tradeIds.toFinset correction eventNs) :
      Observes feed state order eventNs correction (order.fencedProgress fence)
        order.fencedReduction
  | advanced {fence : BoltV3PositionReductionFence} {entry : PositionAuthorityKeyState}
      (hfence : state.progress.fence = some fence)
      (hevent : orderAuthorityChanged state order = true ∨ order.isClosed = true ∨
        correction = .fillAuthorityChanged)
      (hns : fence.latestTerminalOrCorrectionNs ≤ eventNs)
      (hentry : feed.keys state.lease = some entry) :
      Observes feed state order eventNs correction
        (order.fencedProgress (fence.advanced order.filledQty.asDecimal order.tradeIds.toFinset
          correction eventNs entry.authority.generation)) order.fencedReduction

variable {feed state order} {next : BoltV3ExitOrderAuthorityState} {eventNs : Nat}
  {correction : BoltV3ExitOrderCorrection} {reduction : BoltV3ExitOrderLifecycleReduction}
  {error : ExitAuthorityError}

omit arith

variable {lease : BoltV3PositionAuthorityKey} {filled : Decimal}
  {released : BoltV3PositionReductionRelease}

theorem coherentGeneration_cases {generation : Option Nat}
    (h : feed.coherentGeneration lease = .ok generation) :
    ∃ entry, feed.keys lease = some entry ∧ generation.getD 0 = entry.authority.generation := by
  unfold PositionAuthorityFeedState.coherentGeneration PositionAuthorityFeedState.observation at h
  rcases hentry : feed.keys lease with _ | ⟨leaseCount, authority, staleHealth⟩ <;> rw [hentry] at h
  · cases h
  · cases h
    refine ⟨_, rfl, ?_⟩
    cases authority <;> rfl

theorem observeTerminalOrCorrection_cases {fence after : BoltV3PositionReductionFence}
    {tradeIds : Finset String}
    (h : fence.observeTerminalOrCorrection feed lease filled tradeIds correction eventNs =
      .ok after) :
    (after = fence ∧ ¬fence.advances filled tradeIds correction eventNs) ∨
      (fence.latestTerminalOrCorrectionNs ≤ eventNs ∧ ∃ entry, feed.keys lease = some entry ∧
        after = fence.advanced filled tradeIds correction eventNs entry.authority.generation) := by
  unfold BoltV3PositionReductionFence.observeTerminalOrCorrection at h
  by_cases hnegative : filled < zero
  · rw [if_pos hnegative] at h
    cases h
  rw [if_neg hnegative] at h
  by_cases hadvances : fence.advances filled tradeIds correction eventNs
  · rw [if_neg (not_not.mpr hadvances)] at h
    by_cases hregressed : eventNs < fence.latestTerminalOrCorrectionNs
    · rw [if_pos hregressed] at h
      cases h
    rw [if_neg hregressed] at h
    split at h
    · cases h
    · rename_i hgeneration
      cases h
      obtain ⟨entry, hentry, heq⟩ := coherentGeneration_cases hgeneration
      exact .inr ⟨not_lt.mp hregressed, entry, hentry, by rw [heq]⟩
  · rw [if_pos hadvances] at h
    cases h
    exact .inl ⟨rfl, hadvances⟩

/-- An observation ends in an error that leaves the state, or in one of its cases. -/
def ObservesOrFails (feed : PositionAuthorityFeedState) (state : BoltV3ExitOrderAuthorityState)
    (order : Order) (eventNs : Nat) (correction : BoltV3ExitOrderCorrection)
    (result : Except ExitAuthorityError BoltV3ExitOrderLifecycleReduction ×
      BoltV3ExitOrderAuthorityState) : Prop :=
  (∃ error, result = (.error error, state)) ∨
    ∃ progress reduction, Observes feed state order eventNs correction progress reduction ∧
      result = (.ok reduction, state.observed order progress)

variable {fence : BoltV3PositionReductionFence}

theorem observeFenced_exec (hfence : state.progress.fence = some fence) :
    ObservesOrFails feed state order eventNs correction
      ((observeFenced feed fence order eventNs correction).exec state) := by
  unfold observeFenced
  rw [Action.exec_get_bind]
  split_ifs with hobserves
  · rcases hnext : fence.observeTerminalOrCorrection feed state.lease order.filledQty.asDecimal
      order.tradeIds.toFinset correction eventNs with error | after
    · exact .inl ⟨error, rfl⟩
    · rcases observeTerminalOrCorrection_cases hnext with ⟨rfl, hnot⟩ | ⟨hns, entry, hentry, rfl⟩
      · exact .inr ⟨_, _, .kept hfence (.inr hnot), rfl⟩
      · refine .inr ⟨_, _, .advanced hfence ?_ hns hentry, rfl⟩
        simp only [Bool.or_eq_true, decide_eq_true_eq] at hobserves
        rcases hobserves with (hcorrection | hchanged) | hclosed
        · exact .inr (.inr hcorrection)
        · exact .inl hchanged
        · exact .inr (.inl hclosed)
  · simp only [Bool.or_eq_true, decide_eq_true_eq, not_or, Bool.not_eq_true] at hobserves
    obtain ⟨⟨hcorrection, hchanged⟩, hopen⟩ := hobserves
    have hunchanged : correction = .unchanged := by
      cases correction with
      | unchanged => rfl
      | fillAuthorityChanged => exact absurd rfl hcorrection
    exact .inr ⟨_, _, .kept hfence (.inl ⟨hunchanged, hchanged, hopen⟩), rfl⟩

theorem observeWorking_exec (hworking : state.progress = .working) :
    ObservesOrFails feed state order eventNs correction
      ((observeWorking feed order eventNs correction).exec state) := by
  unfold observeWorking
  rw [Action.exec_get_bind]
  by_cases hclosed : order.isClosed = true
  · rw [if_neg (by simpa using hclosed)]
    split_ifs with hzero
    · exact .inr ⟨_, _, .zeroFill hworking hclosed hzero.2, rfl⟩
    dsimp only
    unfold BoltV3PositionReductionFence.local
    rw [if_neg order.filledQty.not_neg]
    rcases hgeneration : feed.coherentGeneration state.lease with failure | generation
    · exact .inl ⟨_, rfl⟩
    · obtain ⟨entry, hentry, heq⟩ := coherentGeneration_cases hgeneration
      refine .inr ⟨_, _, .fenced hworking hclosed hentry, ?_⟩
      have hmax : max (generation.getD 0) 0 = generation.getD 0 := Nat.max_eq_left (Nat.zero_le _)
      unfold firstFence
      dsimp only
      rw [← heq, hmax]
      cases correction <;> rfl
  · rw [if_pos (by simpa using hclosed)]
    exact .inr ⟨_, _, .working hworking (by simpa using hclosed), rfl⟩

/-- **The outcomes of `observe_order`**: an error leaves the authority as it was. -/
theorem observeOrder_exec (feed : PositionAuthorityFeedState) (order : Order) (eventNs : Nat)
    (correction : BoltV3ExitOrderCorrection) (state : BoltV3ExitOrderAuthorityState) :
    ObservesOrFails feed state order eventNs correction
      ((observeOrder feed order eventNs correction).exec state) := by
  unfold observeOrder
  rw [Action.exec_get_bind]
  rcases hrefusal : orderRefusal state order with _ | error
  · rcases hprogress : state.progress with _ | fence | fence
    · exact observeWorking_exec hprogress
    · exact observeFenced_exec (by rw [hprogress]; rfl)
    · exact observeFenced_exec (by rw [hprogress]; rfl)
  · exact .inl ⟨error, rfl⟩

/-! ## What a release rests on -/

/-- The position and the report that an authority is released on. -/
structure Releases [DecimalArith] (feed : PositionAuthorityFeedState)
    (state : BoltV3ExitOrderAuthorityState) (canonical : BoltV3CanonicalPositionAuthority)
    (released : BoltV3PositionReductionRelease) (fence : BoltV3PositionReductionFence) : Prop where
  terminal : state.progress = .terminalFenced fence
  within : positionIsWithinReductionBound fence.baselineSignedQuantity fence.baselineSide
    fence.effectiveFilledQuantity canonical.signedQuantity canonical.side = .ok true
  agreed : (feed.authority state.lease).isConflicted = false
  proof : fence.completeFillApplication canonical = true ∨
    ∃ snapshot, feed.authority state.lease = .coherent snapshot ∧
      fence.provesPostEvent canonical snapshot = true
  released : released = if canonical.signedQuantity.NumEq zero then .flat
    else .residual canonical.signedQuantity

/-- **A fence that lets go.** -/
theorem fence_release_cases [DecimalArith] {canonical : Option BoltV3CanonicalPositionAuthority}
    (hterminal : state.progress = .terminalFenced fence)
    (h : fence.release feed state.lease canonical = .ok released)
    (hreleased : released ≠ .awaitingAuthority) :
    ∃ position, canonical = some position ∧ Releases feed state position released fence := by
  have hawaiting : ∀ {result : Except ExitAuthorityError BoltV3PositionReductionRelease},
      result = .ok .awaitingAuthority → result ≠ .ok released := by
    rintro _ rfl heq
    cases heq
    exact hreleased rfl
  unfold BoltV3PositionReductionFence.release at h
  split at h
  · exact absurd h (hawaiting rfl)
  rename_i canonical
  split at h
  · exact absurd h (hawaiting rfl)
  split at h
  · cases h
  · exact absurd h (hawaiting rfl)
  rename_i hwithin
  split at h
  · cases h
  rename_i entry hentry
  obtain ⟨leaseCount, authority, staleHealth⟩ := entry
  have hauthority : feed.authority state.lease = authority := by
    unfold PositionAuthorityFeedState.observation at hentry
    split at hentry
    · cases hentry
    · rename_i hkeys
      cases hentry
      unfold PositionAuthorityFeedState.authority
      rw [hkeys]
      rfl
  split at h
  · cases h
  · cases h
  rename_i post _ hpost
  by_cases hnone : (!fence.completeFillApplication canonical && !post) = true
  · rw [if_pos hnone] at h
    exact absurd h (hawaiting rfl)
  rw [if_neg hnone] at h
  refine ⟨canonical, rfl, hterminal, hwithin, ?_, ?_, ?_⟩
  · rw [hauthority]
    cases authority with
    | awaiting | coherent snapshot => rfl
    | conflicted conflict => cases hpost
  · rw [hauthority]
    simp only [Bool.and_eq_true, Bool.not_eq_true', not_and, Bool.not_eq_false] at hnone
    cases hcomplete : fence.completeFillApplication canonical with
    | true => exact .inl rfl
    | false =>
      have hproved := hnone hcomplete
      cases authority with
      | awaiting =>
        cases hpost
        cases hproved
      | coherent snapshot =>
        cases hpost
        exact .inr ⟨snapshot, rfl, hproved⟩
      | conflicted conflict => cases hpost
  · split_ifs at h ⊢
    · cases h
      rfl
    · cases h
      rfl

/-- **An authority that is released.** -/
theorem release_cases [DecimalArith] {capability : BoltV3PositionAuthorityCapability}
    {cache : List Position} (h : state.release feed capability cache = .ok released)
    (hreleased : released ≠ .awaitingAuthority) :
    ∃ canonical fence,
      capability.canonicalPosition cache state.positionId state.instrumentId =
        .ok (some canonical) ∧
      Releases feed state canonical released fence := by
  unfold BoltV3ExitOrderAuthorityState.release at h
  split at h
  · cases h
  rename_i canonical hcanonical
  unfold BoltV3ExitOrderAuthorityState.releaseWithCanonical at h
  split at h
  · rename_i fence hterminal
    obtain ⟨position, rfl, hreleases⟩ := fence_release_cases hterminal h hreleased
    exact ⟨position, fence, hcanonical, hreleases⟩
  · cases h
    exact absurd rfl hreleased

/-! ## Bounds -/

/-- Between nothing and what the fills leave of the baseline, on its side. -/
def WithinReduction (baseline : BoltV3LocallySubmittedExitBaseline) (filled : Decimal)
    (canonical : BoltV3CanonicalPositionAuthority) : Prop :=
  (canonical.side = .flat ∨ canonical.side = baseline.side) ∧
    match baseline.side with
    | .long => 0 ≤ canonical.signedQuantity.value ∧
        canonical.signedQuantity.value ≤ baseline.signedQuantity.value - filled.value
    | .short => canonical.signedQuantity.value ≤ 0 ∧
        baseline.signedQuantity.value + filled.value ≤ canonical.signedQuantity.value
    | .flat => canonical.signedQuantity.value = 0

/-- What the fills leave of the baseline is a decimal of the format. -/
def LeavesRepresentable (baseline : BoltV3LocallySubmittedExitBaseline) (filled : Decimal) : Prop :=
  match baseline.side with
  | .long => Representable (baseline.signedQuantity.value - filled.value)
  | .short => Representable (baseline.signedQuantity.value + filled.value)
  | .flat => True

theorem withinReduction_of_bound [arith : DecimalArith] (documented : arith.Documented)
    {baseline : BoltV3LocallySubmittedExitBaseline} {canonical : BoltV3CanonicalPositionAuthority}
    (hfits : LeavesRepresentable baseline filled)
    (h : positionIsWithinReductionBound baseline.signedQuantity baseline.side filled
      canonical.signedQuantity canonical.side = .ok true) :
    WithinReduction baseline filled canonical := by
  unfold positionIsWithinReductionBound at h
  unfold LeavesRepresentable at hfits
  unfold WithinReduction
  rcases hside : baseline.side with _ | _ | _ <;> rw [hside] at h hfits
  · simp only [Except.ok.injEq, Bool.and_eq_true, decide_eq_true_eq, Decimal.numEq_iff_value,
      value_zero] at h
    obtain ⟨⟨-, hzero⟩, hflat⟩ := h
    exact ⟨.inl hflat, hzero⟩
  · dsimp only at h
    split at h
    · cases h
    · rename_i hsub
      have hvalue := checkedAs_value (documented.sub _ _ hfits) hsub
      simp only [Except.ok.injEq, Bool.and_eq_true, Bool.or_eq_true, decide_eq_true_eq,
        Decimal.le_iff_value, value_zero, hvalue] at h
      obtain ⟨⟨⟨-, hsides⟩, hlow⟩, hhigh⟩ := h
      exact ⟨hsides.symm, hlow, hhigh⟩
  · dsimp only at h
    split at h
    · cases h
    · rename_i hadd
      have hvalue := checkedAs_value (documented.add _ _ hfits) hadd
      simp only [Except.ok.injEq, Bool.and_eq_true, Bool.or_eq_true, decide_eq_true_eq,
        Decimal.le_iff_value, value_zero, hvalue] at h
      obtain ⟨⟨⟨-, hsides⟩, hhigh⟩, hlow⟩ := h
      exact ⟨hsides.symm, hhigh, hlow⟩

end

end BoltV3.Exit
