import BoltV3.Exit.Feed

/-!
# Positions and the market they belong to

`bolt_v3_position_contract.rs` and the contract checks of
`strategies/binary_oracle_edge_taker/exposure.rs`: what the taker knows of the market of a position,
and which positions it manages.

* A `f64` is its 64 bits. Only whether a price is positive and finite is asked of it here.
* `recover_from_instrument` reads the instrument cache and is left out.
-/

namespace BoltV3.Taker

open Lib
open Exit (InstrumentId)

/-- An `f64`, by its bits. -/
structure F64 where
  bits : BitVec 64
deriving DecidableEq

/-- `is_positive_finite`: the sign is clear, the number is not zero, and the exponent is not the one
of the infinities. -/
def F64.isPositiveFinite (x : F64) : Bool := 0 < x.bits.toNat && x.bits.toNat < 0x7ff0000000000000

inductive OutcomeSide
  | up | down
deriving DecidableEq

inductive OrderSide
  | noOrderSide | buy | sell
deriving DecidableEq

inductive PositionSide
  | noPositionSide | flat | long | short
deriving DecidableEq

/-- `MILLIS_PER_SECOND_U64`. -/
def millisPerSecond : Nat := 1000

structure BoltV3PositionMarketLifecycle where
  marketId : Option String
  outcomeSide : Option OutcomeSide
  strikePrice : Option F64
  (intervalEnd selectionPublishedAtMs secondsToExpiryAtSelection : Option Nat)
deriving DecidableEq

namespace BoltV3PositionMarketLifecycle

def missing : BoltV3PositionMarketLifecycle := ⟨none, none, none, none, none, none⟩

def fromEntryContext (marketId : Option String) (outcomeSide : Option OutcomeSide)
    (strikePrice intervalOpen : Option F64)
    (intervalEnd selectionPublishedAtMs secondsToExpiryAtSelection : Option Nat) :
    BoltV3PositionMarketLifecycle :=
  ⟨marketId, outcomeSide, (strikePrice.or intervalOpen).filter F64.isPositiveFinite, intervalEnd,
    selectionPublishedAtMs, secondsToExpiryAtSelection⟩

variable (lifecycle : BoltV3PositionMarketLifecycle)

def settlementStrike : Option F64 := lifecycle.strikePrice.filter F64.isPositiveFinite

def intervalEndMsFromSelection (selectionPublishedAtMs secondsToExpiryAtSelection : Option Nat) :
    Option Nat := do
  let published ← selectionPublishedAtMs
  let duration ← checkedMul u64Max (← secondsToExpiryAtSelection) millisPerSecond
  checkedAdd u64Max published duration

def intervalEndMs : Option Nat :=
  lifecycle.intervalEnd.or (intervalEndMsFromSelection lifecycle.selectionPublishedAtMs
    lifecycle.secondsToExpiryAtSelection)

def marketMatchesOrMissing (marketId : Option String) : Bool :=
  lifecycle.marketId.isNone || lifecycle.marketId = marketId

variable (other : BoltV3PositionMarketLifecycle)

def intervalEndMatches : Bool :=
  lifecycle.intervalEndMs.isSome && lifecycle.intervalEndMs = other.intervalEndMs

def fillMissingFrom : BoltV3PositionMarketLifecycle where
  marketId := lifecycle.marketId.or other.marketId
  outcomeSide := lifecycle.outcomeSide.or other.outcomeSide
  strikePrice := lifecycle.strikePrice.or other.strikePrice
  intervalEnd := lifecycle.intervalEnd.or other.intervalEnd
  selectionPublishedAtMs := lifecycle.selectionPublishedAtMs.or other.selectionPublishedAtMs
  secondsToExpiryAtSelection :=
    lifecycle.secondsToExpiryAtSelection.or other.secondsToExpiryAtSelection

def withoutOutcomeSide : BoltV3PositionMarketLifecycle :=
  { lifecycle with outcomeSide := none }

end BoltV3PositionMarketLifecycle

/-! ## The position contract -/

def isObservedOpenSide : PositionSide → Bool
  | .long | .short => true
  | .noPositionSide | .flat => false

def expectedPositionSideForEntryOrder : OrderSide → Option PositionSide
  | .buy => some .long
  | .sell => some .short
  | .noOrderSide => none

def expectedExitOrderSideForPosition : PositionSide → Option OrderSide
  | .long => some .sell
  | .short => some .buy
  | .noPositionSide | .flat => none

structure ConfiguredPositionContract where
  entryOrderSide : OrderSide
  entryPositionSide : PositionSide
  exitOrderSide : OrderSide
  exitPositionSide : PositionSide

def supportsStrategyPositionContract (contract : ConfiguredPositionContract) : Bool :=
  if contract.entryPositionSide = .short ∨ contract.exitPositionSide = .short then false
  else
    expectedPositionSideForEntryOrder contract.entryOrderSide = some contract.entryPositionSide &&
    expectedExitOrderSideForPosition contract.exitPositionSide = some contract.exitOrderSide &&
    contract.entryPositionSide = contract.exitPositionSide &&
    isObservedOpenSide contract.entryPositionSide

def supportsStrategyManagedPosition (entryOrderSide : OrderSide) (side : PositionSide)
    (contract : ConfiguredPositionContract) : Bool :=
  supportsStrategyPositionContract contract && entryOrderSide = contract.entryOrderSide &&
    side = contract.entryPositionSide && isObservedOpenSide side

def inferStrategyPositionSideFromEntryFill (entryOrderSide configuredEntryOrderSide : OrderSide)
    (configuredPositionSide : PositionSide) : Option PositionSide :=
  if entryOrderSide = configuredEntryOrderSide then some configuredPositionSide else none

end BoltV3.Taker
