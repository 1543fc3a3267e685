import BoltV3.Lib.Machine
import BoltV3.Taker.Rule

/-!
# The taker and its entries at the venue

The exposure owner only knows what it is told. Here its handlers run beside the entry orders that
they armed, which are submitted, filled and finished, and beside the positions that the fills
opened.

* An armed entry is prepared until it enters the sink; an arm that is aborted never does. A finished
  order is not filled again.
* The fills of an order belong to one position. It may be closed at any time, and opened anew while
  the order works.
* `Truthful` is what an operation of the owner is told, compared with the orders and positions at
  that moment. Nothing is asked of a position that is shown to a blind owner: any other owner had a
  clean start, so the positions of the strategy are those of its entries.
* Two of its clauses are assumptions about the platform that no handler checks: a position that is
  shown (materialized, or left by an exit) is open, and at a clean start every order is over.
  `bootstrap_recovery_from_cache` looks at the cached positions, not at the cached orders.
-/

namespace BoltV3.Taker

open Exit (InstrumentId)

/-! ## Entry orders -/

/-- What became of an armed entry, with the position of its fills as long as that is open. -/
inductive EntryProgress
  | prepared
  | working (position : Option String)
  | done (position : Option String)
deriving DecidableEq

structure EntryOrder where
  generation : Nat
  clientOrderId : String
  instrumentId : InstrumentId
  progress : EntryProgress
deriving DecidableEq

inductive VenueEvent
  | submitted (generation : Nat)
  | filled (generation : Nat) (positionId : String)
  | finished (generation : Nat)
  | positionClosed (positionId : String) (instrumentId : InstrumentId)

namespace EntryProgress

def isDone : EntryProgress → Bool
  | .done _ => true
  | _ => false

def openPosition : EntryProgress → Option String
  | .prepared => none
  | .working position | .done position => position

def submit : EntryProgress → EntryProgress
  | .prepared => .working none
  | progress => progress

def fill (positionId : String) : EntryProgress → EntryProgress
  | .working position => .working (some (position.getD positionId))
  | progress => progress

def finish : EntryProgress → EntryProgress
  | .working position => .done position
  | progress => progress

def close (positionId : String) : EntryProgress → EntryProgress
  | .prepared => .prepared
  | .working position => .working (position.filter (· ≠ positionId))
  | .done position => .done (position.filter (· ≠ positionId))

/-- An arm that is aborted before the sink. -/
def abort : EntryProgress → EntryProgress
  | .prepared => .done none
  | progress => progress

end EntryProgress

namespace EntryOrder

variable (order : EntryOrder)

/-- The order no longer works and its position is not open. -/
def Over : Prop := order.progress.isDone ∧ order.progress.openPosition = none

/-- The order is that of a pending entry. -/
def IsFor (pending : PendingEntryState) : Prop :=
  order.clientOrderId = pending.clientOrderId ∧ order.instrumentId = pending.instrumentId

/-- The position of the order is open and has these ids. -/
def HasOpen (positionId : String) (instrumentId : InstrumentId) : Prop :=
  order.progress.openPosition = some positionId ∧ order.instrumentId = instrumentId

/-- The order with another progress, if the condition holds. -/
def progressIf (condition : Bool) (next : EntryProgress → EntryProgress) : EntryOrder :=
  if condition then { order with progress := next order.progress } else order

def observe : VenueEvent → EntryOrder
  | .submitted generation => order.progressIf (order.generation = generation) .submit
  | .filled generation positionId =>
    order.progressIf (order.generation = generation) (.fill positionId)
  | .finished generation => order.progressIf (order.generation = generation) .finish
  | .positionClosed positionId instrumentId =>
    order.progressIf (order.instrumentId = instrumentId) (.close positionId)

end EntryOrder

/-! ## Truthful calls -/

variable (orders : List EntryOrder)

/-- A position with these ids is open. -/
def IsOpen (positionId : String) (instrumentId : InstrumentId) : Prop :=
  ∃ order ∈ orders, order.HasOpen positionId instrumentId

/-- The position of the context is open. -/
def ManagedPositionContext.IsOpen (position : ManagedPositionContext) (orders : List EntryOrder) :
    Prop :=
  Taker.IsOpen orders position.positionId position.instrumentId

/-- The position of a terminal order. -/
def EntryTerminalPositionTruth.Holds (clientOrderId : String) :
    EntryTerminalPositionTruth → Prop
  | .zeroFill | .canonicallyFlat =>
    ∀ order ∈ orders, order.clientOrderId = clientOrderId → order.progress.openPosition = none
  | .supported position => position.IsOpen orders
  | .unsupported observed => observed.context.IsOpen orders
  | .unresolved _ => True

variable (owner : ExposureOwner)

/-- The position is open, and the entry it is materialized for does not work unless it is kept. -/
def TruthfulPosition (position : ManagedPositionContext) (keepEntryRemainder : Bool) : Prop :=
  owner.isBlindRecovery = false →
    position.IsOpen orders ∧
    (keepEntryRemainder = false → ∀ pending ∈ owner.state.pendingEntryState,
      pending.instrumentId = position.instrumentId →
      ∀ order ∈ orders, order.clientOrderId = pending.clientOrderId → order.progress.isDone)

/-- The position that the owner tracks is gone. -/
def TrackedGone : Prop := ∀ position ∈ owner.state.trackedPositionContext, ¬ position.IsOpen orders

/-- What the owner is told is true. -/
def Truthful : ExposureCall → Prop
  | .settleEntryArm capability .abort =>
    ∀ order ∈ orders, order.generation = capability.generation → order.progress = .prepared
  | .observeEntryTerminal clientOrderId truth =>
    (∀ order ∈ orders, order.clientOrderId = clientOrderId → order.progress.isDone) ∧
      truth.Holds orders clientOrderId
  | .materializeSupportedPosition managed keep _ => TruthfulPosition orders owner managed keep
  | .setUnsupportedObserved unsupported keep _ =>
    TruthfulPosition orders owner unsupported.context keep
  | .observePositionClosed positionId instrumentId => ¬ IsOpen orders positionId instrumentId
  | .observeExitFlat | .observeSettlement => TrackedGone orders owner
  | .observeExitResidual managed => managed.IsOpen orders
  | .observeCleanStart => ∀ order ∈ orders, order.Over
  | _ => True

instance (order : EntryOrder) : Decidable order.Over := inferInstanceAs (Decidable (_ ∧ _))

instance (orders : List EntryOrder) (positionId : String) (instrumentId : InstrumentId) :
    Decidable (IsOpen orders positionId instrumentId) :=
  inferInstanceAs (Decidable (∃ order ∈ orders,
    order.progress.openPosition = some positionId ∧ order.instrumentId = instrumentId))

instance (position : ManagedPositionContext) (orders : List EntryOrder) :
    Decidable (position.IsOpen orders) :=
  inferInstanceAs (Decidable (Taker.IsOpen orders _ _))

instance (orders : List EntryOrder) (clientOrderId : String) (truth : EntryTerminalPositionTruth) :
    Decidable (truth.Holds orders clientOrderId) := by
  unfold EntryTerminalPositionTruth.Holds
  split <;> infer_instance

instance (orders : List EntryOrder) (owner : ExposureOwner) (position : ManagedPositionContext)
    (keep : Bool) : Decidable (TruthfulPosition orders owner position keep) :=
  inferInstanceAs (Decidable (_ → _ ∧ _))

instance (orders : List EntryOrder) (owner : ExposureOwner) :
    Decidable (TrackedGone orders owner) :=
  inferInstanceAs (Decidable (∀ position ∈ owner.state.trackedPositionContext, _))

instance (orders : List EntryOrder) (owner : ExposureOwner) (c : ExposureCall) :
    Decidable (Truthful orders owner c) := by
  unfold Truthful
  split <;> infer_instance

/-- The orders after a call: an entry that is armed is a new one. -/
def ordersAfter : ExposureCall → List EntryOrder
  | .armEntry pending =>
    match (owner.armEntry pending).1 with
    | .ok capability =>
      ⟨capability.generation, pending.clientOrderId, pending.instrumentId, .prepared⟩ :: orders
    | .error _ => orders
  | .settleEntryArm capability .abort =>
    orders.map fun order => order.progressIf (order.generation = capability.generation) .abort
  | _ => orders

/-- Every call of a list is truthful when it is made. -/
def TruthfulAll : List EntryOrder → ExposureOwner → List ExposureCall → Prop
  | _, _, [] => True
  | orders, owner, c :: rest =>
    Truthful orders owner c ∧ TruthfulAll (ordersAfter orders owner c) (owner.apply c) rest

instance decidableTruthfulAll : (orders : List EntryOrder) → (owner : ExposureOwner) →
    (calls : List ExposureCall) → Decidable (TruthfulAll orders owner calls)
  | _, _, [] => .isTrue trivial
  | orders, owner, c :: rest =>
    have := decidableTruthfulAll (ordersAfter orders owner c) (owner.apply c) rest
    inferInstanceAs (Decidable (_ ∧ _))

/-- The orders after a list of calls. -/
def ordersAfterAll : List EntryOrder → ExposureOwner → List ExposureCall → List EntryOrder
  | orders, _, [] => orders
  | orders, owner, c :: rest => ordersAfterAll (ordersAfter orders owner c) (owner.apply c) rest

/-! ## The system -/

structure TakerSystem where
  orders : List EntryOrder
  taker : TakerState

inductive TakerStep
  | venue (event : VenueEvent)
  | taker (event : TakerEvent)

namespace TakerSystem

def new : TakerSystem := ⟨[], .new⟩

variable (s : TakerSystem)

/-- The taker after an event, with the effects of that event only. -/
def handled (event : TakerEvent) : TakerState :=
  { s.taker with effects := [] }.handle event

def next : TakerStep → TakerSystem
  | .venue event => { s with orders := s.orders.map (·.observe event) }
  | .taker event =>
    ⟨ordersAfterAll s.orders s.taker.exposure (s.handled event).calls, s.handled event⟩

/-- The taker is told the truth in this step. -/
def TruthfulStep : TakerStep → Prop
  | .venue _ => True
  | .taker event => TruthfulAll s.orders s.taker.exposure (s.handled event).calls

instance (s : TakerSystem) : (step : TakerStep) → Decidable (s.TruthfulStep step)
  | .venue _ => .isTrue trivial
  | .taker event =>
    inferInstanceAs (Decidable (TruthfulAll s.orders s.taker.exposure (s.handled event).calls))

/-- A step in which the taker is told the truth. -/
def Step (step : TakerStep) (t : TakerSystem) : Prop := t = s.next step ∧ s.TruthfulStep step

end TakerSystem

end BoltV3.Taker
