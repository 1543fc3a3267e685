import BoltV3.Lib.Machine
import BoltV3.Quote.State

/-!
# The maker runtime

`runtime.rs` and `binding.rs` of the binary-oracle maker: the markets that are active, the order
identities that their legs hold, the generations that identities are minted from, and the throttle
episodes.

* The discovery engine and the portfolio planner are inputs of a refresh: what the engine finds for
  each declaration, and what the planner answers to the resolved bindings and the keys of the active
  markets.
* A generation is a `u64` that is incremented without a check, so it wraps.
* Of a binding, the fields that only travel with it (family, underlying asset, selection outcome,
  source identity, expiry) are left out.
-/

namespace BoltV3.Maker

open Lib SortedMap
open Quote (Leg)
open Std (ExtTreeMap ExtTreeSet)

/-! ## Order identities -/

/-- A client order id and the generation it was minted with. -/
structure OrderIdentity where
  clientOrderId : String
  generation : Nat

/-- The part of an id that names the leg. -/
def legTag : Leg → String
  | .yes => "yes"
  | .no => "no"

/-- The id of an order: tag, market, window, leg and generation. -/
def makeLegIdentity (orderIdTag marketKey : String) (windowStartMilliseconds : Nat) (leg : Leg)
    (generation : Nat) : OrderIdentity :=
  ⟨orderIdTag ++ "-" ++ marketKey ++ "-" ++ Nat.repr windowStartMilliseconds ++ "-" ++ legTag leg ++
    "-" ++ Nat.repr generation, generation⟩

/-! ## Bindings -/

/-- The instrument of a leg, its resting order and the next one. -/
structure MakerLegBinding where
  instrumentId : String
  (activeOrder nextOrder : Option OrderIdentity)

/-- An outcome of a market. -/
structure EvidenceOutcomeIdentity where
  index : Nat
  (normalizedOutcome clobTokenId : String)
deriving DecidableEq

/-- The market and its two outcomes. -/
structure EvidenceMarketIdentity where
  (gammaMarketId conditionId questionId : String)
  outcomes : EvidenceOutcomeIdentity × EvidenceOutcomeIdentity
deriving DecidableEq

/-- A market that the configuration declares. -/
structure MakerMarketDeclaration where
  (marketKey familyKey underlyingAsset : String)
  cadenceSeconds : Nat
  cadenceSlugToken : String
  (staticConditionId staticYesOutcome staticNoOutcome : Option String)

/-- What the discovery engine finds, `SelectedBinaryOptionMarket`. -/
structure SelectedMarket where
  evidenceIdentity : EvidenceMarketIdentity
  (upInstrumentId downInstrumentId : String)
  startTimestampMilliseconds : Nat

/-- A declared market in its current window. -/
structure MakerResolvedMarketBinding where
  marketKey : String
  evidenceIdentity : EvidenceMarketIdentity
  (yes no : MakerLegBinding)
  startTimestampMilliseconds : Nat

/-- A window of a market with its instruments. -/
structure MakerConcreteMarketIdentity where
  evidenceIdentity : EvidenceMarketIdentity
  startTimestampMilliseconds : Nat
  (yesInstrumentId noInstrumentId : String)
deriving DecidableEq

/-- Why a declared market is not resolved. -/
inductive MakerMarketResolutionMiss
  | cadenceSecondsOutOfRange (marketKey : String) (cadenceSeconds : Nat)
  | noCurrentMarket (marketKey : String)

/-- The slots planned for the bindings, given the held markets. -/
abbrev MakerPlan := List MakerResolvedMarketBinding → List String → Option (List (String × Float))

/-- What was resolved, and what was not. -/
structure MakerMarketResolution where
  bindings : List MakerResolvedMarketBinding
  misses : List MakerMarketResolutionMiss

/-- A leg without orders. -/
def legBinding (instrumentId : String) : MakerLegBinding := ⟨instrumentId, none, none⟩

namespace MakerResolvedMarketBinding

variable (binding : MakerResolvedMarketBinding)

/-- The window that a binding is for. -/
def concreteIdentity : MakerConcreteMarketIdentity :=
  ⟨binding.evidenceIdentity, binding.startTimestampMilliseconds, binding.yes.instrumentId,
    binding.no.instrumentId⟩

/-- The leg of a binding. -/
def leg : Leg → MakerLegBinding
  | .yes => binding.yes
  | .no => binding.no

/-- The binding with another leg. -/
def setLeg (leg : Leg) (legBinding : MakerLegBinding) : MakerResolvedMarketBinding :=
  match leg with
  | .yes => { binding with yes := legBinding }
  | .no => { binding with no := legBinding }

end MakerResolvedMarketBinding

/-- `i64::MAX`. -/
def i64Max : Nat := 9223372036854775807

variable (select : MakerMarketDeclaration → Option SelectedMarket)

/-- One declaration; `select` is the discovery engine. -/
def resolveDeclaredMarket (declaration : MakerMarketDeclaration) :
    Except MakerMarketResolutionMiss MakerResolvedMarketBinding :=
  if i64Max < declaration.cadenceSeconds then
    .error (.cadenceSecondsOutOfRange declaration.marketKey declaration.cadenceSeconds)
  else
    match select declaration with
    | none => .error (.noCurrentMarket declaration.marketKey)
    | some market =>
      .ok
        { marketKey := declaration.marketKey, evidenceIdentity := market.evidenceIdentity
          yes := legBinding market.upInstrumentId, no := legBinding market.downInstrumentId
          startTimestampMilliseconds := market.startTimestampMilliseconds }

/-- Every declaration. -/
def resolveDeclaredMarkets
    (declarations : List MakerMarketDeclaration) : MakerMarketResolution where
  bindings := declarations.filterMap fun declaration =>
    match resolveDeclaredMarket select declaration with
    | .ok binding => some binding
    | .error _ => none
  misses := declarations.filterMap fun declaration =>
    match resolveDeclaredMarket select declaration with
    | .ok _ => none
    | .error miss => some miss

/-! ## Market runtimes -/

/-- The last generation of each leg. -/
structure LegGenerations where
  (yes no : Nat)

/-- `LegGenerations::ZERO`. -/
def LegGenerations.zero : LegGenerations := ⟨0, 0⟩

/-- The generation of a leg. -/
def LegGenerations.of (generations : LegGenerations) : Leg → Nat
  | .yes => generations.yes
  | .no => generations.no

/-- An active market. -/
structure MakerMarketRuntime where
  binding : MakerResolvedMarketBinding
  (yesGeneration noGeneration : Nat)
  allocationNotional : Float

namespace MakerMarketRuntime

/-- A market that goes on from these generations. -/
def seeded (binding : MakerResolvedMarketBinding) (allocationNotional : Float)
    (generations : LegGenerations) : MakerMarketRuntime :=
  ⟨binding, generations.yes, generations.no, allocationNotional⟩

variable (market : MakerMarketRuntime)

/-- The generations of both legs. -/
def legGenerations : LegGenerations :=
  ⟨market.yesGeneration, market.noGeneration⟩

/-- `yes_generation` or `no_generation`, incremented. -/
def advance : Leg → MakerMarketRuntime
  | .yes => { market with yesGeneration := (market.yesGeneration + 1) % 2 ^ 64 }
  | .no => { market with noGeneration := (market.noGeneration + 1) % 2 ^ 64 }

/-- The next order of a leg, with an incremented generation. -/
def mintNext (orderIdTag : String) (leg : Leg) : MakerMarketRuntime :=
  let market := market.advance leg
  let identity := makeLegIdentity orderIdTag market.binding.marketKey
    market.binding.startTimestampMilliseconds leg (market.legGenerations.of leg)
  { market with
    binding := market.binding.setLeg leg
      { market.binding.leg leg with nextOrder := some identity } }

end MakerMarketRuntime

/-! ## Dispatches -/

/-- What became of a submitted order. -/
inductive RestingOrderIdentityDisposition
  | retainedActive | retiredByCallback | notRetained

/-- The fields of `MakerOrderDispatchOutcome` that rotate identities: the disposition of the
transaction, the client order ids of a command and of what the coordinator handled. -/
inductive MakerOrderDispatchOutcome
  | submitAttempt (disposition : RestingOrderIdentityDisposition)
  | cancelIntentHandled (clientOrderId handled : String)
  | cancelScopeHandled (handled : List String)
  | modified

/-- The orders of a leg after a dispatch. -/
structure LegIdentityRotation where
  (activeOrder nextOrder : Option OrderIdentity)

namespace LegIdentityRotation

variable (binding : MakerLegBinding)

/-- Both orders stay. -/
def preserve : LegIdentityRotation :=
  ⟨binding.activeOrder, binding.nextOrder⟩

/-- The next order rests. -/
def promoteNext : LegIdentityRotation := ⟨binding.nextOrder, none⟩

/-- The next order is not used. -/
def clearNext : LegIdentityRotation := ⟨binding.activeOrder, none⟩

/-- Neither order is left. -/
def clear : LegIdentityRotation := ⟨none, none⟩

/-- The leg after the rotation. -/
def apply (rotation : LegIdentityRotation) (binding : MakerLegBinding) : MakerLegBinding :=
  { binding with activeOrder := rotation.activeOrder, nextOrder := rotation.nextOrder }

end LegIdentityRotation

/-- `leg_identity_rotation`; an error is its diagnostic. -/
def legIdentityRotation (binding : MakerLegBinding) :
    Option MakerOrderDispatchOutcome → Except String LegIdentityRotation
  | some (.submitAttempt .retainedActive) => .ok (.promoteNext binding)
  | some (.submitAttempt .retiredByCallback) => .ok (.clearNext binding)
  | some (.submitAttempt .notRetained) => .ok (.clearNext binding)
  | some (.cancelIntentHandled clientOrderId handled) =>
    match binding.activeOrder with
    | some active =>
      if active.clientOrderId = clientOrderId ∧ active.clientOrderId = handled then .ok .clear
      else
        .error ("maker cancel disposition does not match active planning identity: " ++
          "active_client_order_id=" ++ active.clientOrderId ++ " command_client_order_id=" ++
          clientOrderId ++ " disposition_client_order_id=" ++ handled)
    | none =>
      .error ("maker cancel disposition has no active planning identity: " ++
        "command_client_order_id=" ++ clientOrderId ++ " disposition_client_order_id=" ++ handled)
  | some (.cancelScopeHandled handled) =>
    match binding.activeOrder with
    | some active =>
      if active.clientOrderId ∈ handled then .ok .clear
      else
        .error ("maker cancel-scope dispositions omit active planning identity: " ++
          "active_client_order_id=" ++ active.clientOrderId)
    | none => .ok (.clearNext binding)
  | some .modified => .ok (.preserve binding)
  | none => .ok (.preserve binding)

/-! ## The runtime -/

/-- A leg of a window that is throttled. -/
structure RequoteThrottleEpisodeId where
  marketKey : String
  market : MakerConcreteMarketIdentity
  leg : Leg
deriving DecidableEq

/-- The active markets, and the generations of every market that was ever active. -/
structure MakerRuntime where
  markets : ExtTreeMap String MakerMarketRuntime
  throttleEpisodes : List RequoteThrottleEpisodeId
  generations : ExtTreeMap String LegGenerations

/-- The subscriptions that a refresh changes, and what it missed. -/
structure MakerRuntimeRefresh where
  (subscribe unsubscribe : List String)
  misses : List MakerMarketResolutionMiss

/-- The window start and the instruments. -/
def orderLifecycleScopeIdentity (binding : MakerResolvedMarketBinding) : Nat × String × String :=
  (binding.startTimestampMilliseconds, binding.yes.instrumentId, binding.no.instrumentId)

/-- The binding is of the window that the orders are in. -/
def sameWindow (prior current : MakerResolvedMarketBinding) : Bool :=
  orderLifecycleScopeIdentity prior == orderLifecycleScopeIdentity current

namespace MakerRuntime

/-- No market is active. -/
def empty : MakerRuntime := ⟨∅, [], ∅⟩

variable (runtime : MakerRuntime)

/-- The generations stay. -/
def deactivateAll : MakerRuntime :=
  { runtime with throttleEpisodes := [], markets := ∅ }

/-- The instruments of the active markets. -/
def instrumentIdSet : ExtTreeSet String :=
  .ofList (runtime.markets.values.flatMap fun market =>
    [market.binding.yes.instrumentId, market.binding.no.instrumentId])

/-- The high-water generations of a market. -/
def highWater (marketKey : String) : LegGenerations := (runtime.generations[marketKey]?).getD .zero

/-- The binding that a retained market takes over: the resolved one with the order handles it had.
-/
def refreshed (prior current : MakerResolvedMarketBinding) : MakerResolvedMarketBinding :=
  { current with
    yes := { current.yes with
      activeOrder := prior.yes.activeOrder, nextOrder := prior.yes.nextOrder }
    no := { current.no with activeOrder := prior.no.activeOrder, nextOrder := prior.no.nextOrder } }

/-- One turn of the loop of `apply_resolution`: the markets that are left, and those of the next
set. -/
def applySlot (bindings : List MakerResolvedMarketBinding)
    (markets : ExtTreeMap String MakerMarketRuntime × ExtTreeMap String MakerMarketRuntime)
    (slot : String × Float) :
    ExtTreeMap String MakerMarketRuntime × ExtTreeMap String MakerMarketRuntime :=
  let (remaining, next) := markets
  let (marketKey, allocationNotional) := slot
  match bindings.find? fun binding => binding.marketKey == marketKey with
  | none => (remaining, next)
  | some binding =>
    let rebuilt :=
      MakerMarketRuntime.seeded binding allocationNotional (runtime.highWater marketKey)
    let market :=
      match remaining[marketKey]? with
      | some prior =>
        if sameWindow prior.binding binding then
          { prior with
            binding := refreshed prior.binding binding, allocationNotional := allocationNotional }
        else rebuilt
      | none => rebuilt
    (remaining.erase marketKey, next.insert marketKey market)

/-- The markets of the plan: kept in their window, rebuilt otherwise. -/
def applyResolution (resolution : MakerMarketResolution) (plan : MakerPlan) :
    MakerRuntimeRefresh × MakerRuntime :=
  let before := runtime.instrumentIdSet
  let planned := (plan resolution.bindings runtime.markets.keys).getD []
  let (_, next) := planned.foldl (runtime.applySlot resolution.bindings) (runtime.markets, ∅)
  let runtime := { runtime with markets := next }
  let after := runtime.instrumentIdSet
  ({ subscribe := (after.filter (· ∉ before)).toList
     unsubscribe := (before.filter (· ∉ after)).toList, misses := resolution.misses }, runtime)

/-- The episodes of markets that are not active are dropped. -/
def pruneThrottleEpisodes : MakerRuntime :=
  { runtime with
    throttleEpisodes := runtime.throttleEpisodes.filter fun episode =>
      (runtime.markets[episode.marketKey]?).any fun market =>
        market.binding.concreteIdentity = episode.market }

/-- Resolve, plan and apply. -/
def refreshActiveMarkets (select : MakerMarketDeclaration → Option SelectedMarket)
    (declarations : List MakerMarketDeclaration) (plan : MakerPlan) :
    MakerRuntimeRefresh × MakerRuntime :=
  let (refresh, runtime) :=
    runtime.applyResolution (resolveDeclaredMarkets select declarations) plan
  (refresh, runtime.pruneThrottleEpisodes)

/-- The next orders of both legs; the generations are noted. -/
def mintNextIdentities (marketKey orderIdTag : String) : Bool × MakerRuntime :=
  match runtime.markets[marketKey]? with
  | none => (false, runtime)
  | some market =>
    let market := (market.mintNext orderIdTag .yes).mintNext orderIdTag .no
    (true, { runtime with
      markets := runtime.markets.insert marketKey market
      generations := runtime.generations.insert marketKey market.legGenerations })

/-- `MakerRuntime::apply_dispatch_outcome`, of what each leg dispatched. -/
def applyDispatchOutcome (marketKey : String)
    (yes no : Option MakerOrderDispatchOutcome) : Except String Bool × MakerRuntime :=
  match runtime.markets[marketKey]? with
  | none => (.ok false, runtime)
  | some market =>
    match legIdentityRotation market.binding.yes yes with
    | .error diagnostic => (.error diagnostic, runtime)
    | .ok yesRotation =>
      match legIdentityRotation market.binding.no no with
      | .error diagnostic => (.error diagnostic, runtime)
      | .ok noRotation =>
        let binding := { market.binding with
          yes := yesRotation.apply market.binding.yes, no := noRotation.apply market.binding.no }
        (.ok true, { runtime with
          markets := runtime.markets.insert marketKey { market with binding := binding } })

variable (episode : RequoteThrottleEpisodeId)

/-- An episode begins. -/
def recordThrottleEpisode : MakerRuntime :=
  { runtime with throttleEpisodes := runtime.throttleEpisodes ++ [episode] }

/-- An episode ends. -/
def clearThrottleEpisode : MakerRuntime :=
  { runtime with throttleEpisodes := runtime.throttleEpisodes.filter (· ≠ episode) }

end MakerRuntime

/-! ## Calls -/

/-- The calls of the strategy on its runtime. -/
inductive MakerCall
  | refresh (select : MakerMarketDeclaration → Option SelectedMarket)
      (declarations : List MakerMarketDeclaration) (plan : MakerPlan)
  | mint (marketKey : String)
  | dispatch (marketKey : String) (yes no : Option MakerOrderDispatchOutcome)
  | deactivateAll
  | recordThrottle (episode : RequoteThrottleEpisodeId)
  | clearThrottle (episode : RequoteThrottleEpisodeId)

namespace MakerRuntime

/-- The runtime after a call of the strategy with this tag. -/
def call (orderIdTag : String) (runtime : MakerRuntime) : MakerCall → MakerRuntime
  | .refresh select declarations plan => (runtime.refreshActiveMarkets select declarations plan).2
  | .mint marketKey => (runtime.mintNextIdentities marketKey orderIdTag).2
  | .dispatch marketKey yes no => (runtime.applyDispatchOutcome marketKey yes no).2
  | .deactivateAll => runtime.deactivateAll
  | .recordThrottle episode => runtime.recordThrottleEpisode episode
  | .clearThrottle episode => runtime.clearThrottleEpisode episode

/-- No generation that a call increments is at `u64::MAX`. -/
def fits (runtime : MakerRuntime) : MakerCall → Bool
  | .mint marketKey => (runtime.markets[marketKey]?).all fun market =>
    market.yesGeneration < u64Max && market.noGeneration < u64Max
  | _ => true

/-- An identity that was minted, and what for. -/
structure Minted where
  marketKey : String
  windowStart : Nat
  leg : Leg
  order : OrderIdentity

/-- The identities that a call has minted, read off the runtime after it. -/
def mintedBy (next : MakerRuntime) : MakerCall → List Minted
  | .mint marketKey =>
    match next.markets[marketKey]? with
    | none => []
    | some market =>
      [Leg.yes, Leg.no].filterMap fun leg =>
        (market.binding.leg leg).nextOrder.map fun order =>
          ⟨marketKey, market.binding.startTimestampMilliseconds, leg, order⟩
  | _ => []

/-- A call that fits, and what it minted. -/
def Step (orderIdTag : String) (runtime : MakerRuntime) (entry : MakerCall × List Minted)
    (next : MakerRuntime) : Prop :=
  runtime.fits entry.1 = true ∧ runtime.call orderIdTag entry.1 = next ∧
    mintedBy next entry.1 = entry.2

end MakerRuntime

end BoltV3.Maker
