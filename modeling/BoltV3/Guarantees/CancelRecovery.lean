import BoltV3.Tracked.Cancellation
import Mathlib.Data.List.Chain

/-!
# Pace and count of cancel operations

What the coordinator of `cancel_coordinator.rs` promises over whole runs: how far apart the
operations are that it begins, on what it begins them, and how it counts them.

* A run of one intent keeps beside the intent the order that was last shown, the ask that stands and
  the operations begun. An ask stands until the next event. A grant or a denial answers the ask that
  stands, no earlier than it was made, as `drive_cancel_intent` does.
* A run of a tracked order goes across its intents and keeps the generations of the operations
  begun.
-/

namespace BoltV3.Tracked

open Lib RestingOrderCancelRecord List
open CancelIntent

/-! ## What an observation can do -/

/-- The time before which a routing state begins no operation. -/
def CancelRoutingState.notBefore? : CancelRoutingState → Option Nat
  | .ready => none
  | .attempting _ _ notBeforeNs | .backoff notBeforeNs | .pendingCancel notBeforeNs =>
    some notBeforeNs

namespace RestingOrderCancelRecord

variable (record : RestingOrderCancelRecord)

/-- What `begin_operation` counts. -/
def counted : Nat × Nat × Bool :=
  (record.generation, record.totalRecoveryAttempts, record.health.retryEscalated)

def conflicted : Bool := record.health.recoveryIdentityConflict.isSome

variable (nowNs generation : Nat) (locallyPending : Bool)

theorem observeDueLiveness_keeps :
    (record.observeDueLiveness nowNs locallyPending).routingState = record.routingState ∧
      (record.observeDueLiveness nowNs locallyPending).counted = record.counted ∧
      (record.observeDueLiveness nowNs locallyPending).conflicted = record.conflicted := by
  unfold observeDueLiveness
  split <;> exact ⟨rfl, rfl, rfl⟩

theorem settleUnobservedGeneration_keeps :
    (record.settleUnobservedGeneration generation).routingState.notBefore? =
        record.routingState.notBefore? ∧
      (record.settleUnobservedGeneration generation).counted = record.counted ∧
      (record.settleUnobservedGeneration generation).conflicted = record.conflicted ∧
      ∀ g, (record.settleUnobservedGeneration generation).attempts g = true →
        record.attempts g = true := by
  unfold settleUnobservedGeneration
  split
  · rename_i hstate
    split
    · refine ⟨by rw [hstate]; rfl, rfl, rfl, ?_⟩
      rintro g ⟨⟩
    · exact ⟨rfl, rfl, rfl, fun _ h => h⟩
  all_goals exact ⟨rfl, rfl, rfl, fun _ h => h⟩

variable {record generation} in
theorem settleUnobservedGeneration_other (h : record.attempts generation = false) :
    record.settleUnobservedGeneration generation = record := by
  unfold attempts at h
  unfold settleUnobservedGeneration
  split
  · rename_i hstate
    rw [hstate] at h
    rw [if_neg (beq_eq_false_iff_ne.mp h)]
  all_goals rfl

end RestingOrderCancelRecord

section Transition

variable {state : CancelRoutingState} {observation : CancelObservation} {nowNs nextDeadlineNs : Nat}

/-- A deadline is carried through every state, and an attempt ends with the observation. -/
theorem transition_carries (hopen : observation ≠ .terminal) :
    (∀ notBeforeNs, state.notBefore? = some notBeforeNs →
      (transition state observation nowNs nextDeadlineNs).1.notBefore? = some notBeforeNs) ∧
    ∀ generation operation notBeforeNs, (transition state observation nowNs nextDeadlineNs).1 ≠
      .attempting generation operation notBeforeNs := by
  cases state <;> cases observation <;>
    simp_all [transition, CancelRoutingState.notBefore?]

/-- **An operation is begun when it is due**: a query of an order that can be queried, a cancel of
one that is open and not pending cancel. -/
theorem transition_eq_begin {operation : CancelOperationKind}
    (h : (transition state observation nowNs nextDeadlineNs).2 = .begin operation) :
    (∀ notBeforeNs, state.notBefore? = some notBeforeNs → notBeforeNs ≤ nowNs) ∧
      (operation = .query →
        observation = .missingQueryable ∨ observation = .pendingCancelQueryable) ∧
      (operation = .cancel → observation = .retryable) := by
  cases state <;> cases observation <;>
    simp_all [transition, CancelRoutingState.notBefore?, beginWhenDue] <;>
    grind

variable {cached : Option NtOrder}

theorem classifyOrder_queryable {queryable : Bool}
    (h : classifyOrder cached queryable = .missingQueryable ∨
      classifyOrder cached queryable = .pendingCancelQueryable) : queryable = true := by
  cases queryable with
  | true => rfl
  | false =>
    cases cached with
    | none => simp [classifyOrder] at h
    | some order =>
      unfold classifyOrder at h
      dsimp only at h
      split at h
      · simp at h
      · cases hstatus : order.status <;> simp [classifyStatus, hstatus] at h

theorem classifyOrder_retryable {queryable : Bool}
    (h : classifyOrder cached queryable = .retryable) :
    ∃ order, cached = some order ∧ order.status ≠ .pendingCancel := by
  cases cached with
  | none => cases queryable <;> simp [classifyOrder] at h
  | some order =>
    refine ⟨order, rfl, fun hpending => ?_⟩
    unfold classifyOrder at h
    dsimp only at h
    rw [hpending] at h
    split at h
    · cases h
    · cases queryable <;> simp [classifyStatus] at h

end Transition

/-- What every event carries on but a grant and a denial. -/
structure Carries (intent next : CancelIntent) : Prop where
  counted : next.record.counted = intent.record.counted
  deadline : ∀ notBeforeNs, intent.record.routingState.notBefore? = some notBeforeNs →
    next.record.routingState.notBefore? = some notBeforeNs
  attempts : ∀ generation, next.record.attempts generation = true →
    intent.record.attempts generation = true
  conflicted : intent.record.conflicted = true → next.record.conflicted = true

/-- What the coordinator asks for an operation on. -/
structure Begins (intent next : CancelIntent) (cached : Option NtOrder) (nowNs : Nat)
    (operation : CancelOperationKind) : Prop where
  free : next.record.conflicted = false
  due : ∀ notBeforeNs, intent.record.routingState.notBefore? = some notBeforeNs →
    notBeforeNs ≤ nowNs
  query : operation = .query → next.seed.venueOrderId.isSome = true
  cancel : operation = .cancel → ∃ order, cached = some order ∧ order.status ≠ .pendingCancel

/-- What an observation can do. -/
structure Reconciled (intent : CancelIntent) (cached : Option NtOrder) (nowNs : Nat)
    (result : Except String CancelTransition) (next : CancelIntent) : Prop where
  carries : Carries intent next
  held : intent.record.conflicted = true → ∀ chosen, result = .ok chosen → chosen = .noOperation
  begins : ∀ operation, result = .ok (.begin operation) →
    Begins intent next cached nowNs operation

section Reconcile

variable {intent : CancelIntent} {cached : Option NtOrder} {nowNs retryTimeoutNs : Nat}

theorem Carries.of_routingState {next : CancelIntent}
    (hcounted : next.record.counted = intent.record.counted)
    (hstate : next.record.routingState = intent.record.routingState)
    (hheld : intent.record.conflicted = true → next.record.conflicted = true) :
    Carries intent next where
  counted := hcounted
  deadline := by
    rw [hstate]
    exact fun _ h => h
  attempts := by
    unfold RestingOrderCancelRecord.attempts
    rw [hstate]
    exact fun _ h => h
  conflicted := hheld

theorem Carries.refl (intent : CancelIntent) : Carries intent intent :=
  .of_routingState rfl rfl fun h => h

theorem Reconciled.hold {next : CancelIntent} {result : Except String CancelTransition}
    (hcarries : Carries intent next)
    (hresult : ∀ chosen, result = .ok chosen → chosen = .noOperation) :
    Reconciled intent cached nowNs result next :=
  ⟨hcarries, fun _ => hresult, fun _ h => nomatch hresult _ h⟩

variable {seed : NtOrderQuerySeed}

theorem observeIdentityConflictHold_reconciled {record : RestingOrderCancelRecord}
    (hcounted : record.counted = intent.record.counted)
    (hstate : record.routingState = intent.record.routingState)
    (hconflicted : record.conflicted = true) :
    Reconciled intent cached nowNs (.ok .noOperation)
      ⟨seed, record.observeIdentityConflictHold nowNs⟩ := by
  have hkeeps := record.observeDueLiveness_keeps nowNs
  refine .hold (.of_routingState ((hkeeps _).2.1.trans hcounted) ((hkeeps _).1.trans hstate)
    fun _ => (hkeeps _).2.2.trans hconflicted) ?_
  rintro _ ⟨⟩
  rfl

theorem reconcileIdentified_reconciled (hfree : intent.record.conflicted = false) :
    Reconciled intent cached nowNs
      (reconcileIdentified ⟨seed, intent.record⟩ cached nowNs retryTimeoutNs).1
      (reconcileIdentified ⟨seed, intent.record⟩ cached nowNs retryTimeoutNs).2 := by
  have hheld : intent.record.conflicted ≠ true := Bool.eq_false_iff.mp hfree
  unfold reconcileIdentified
  dsimp only
  split
  · refine ⟨.of_routingState rfl rfl fun h => h, fun h => absurd h hheld, ?_⟩
    nofun
  rename_i hopen
  -- Health is recorded before the deadline is computed, so it stays where that fails.
  generalize hrecord : observeDueLiveness _ nowNs _ = record
  obtain ⟨hrouting, hcounted, hconflicted⟩ :
      record.routingState = intent.record.routingState ∧ record.counted = intent.record.counted ∧
        record.conflicted = false := by
    subst hrecord
    exact ⟨(observeDueLiveness_keeps _ _ _).1,
      (observeDueLiveness_keeps _ _ _).2.1,
      (observeDueLiveness_keeps _ _ _).2.2.trans hfree⟩
  cases checkedAdd u64Max nowNs retryTimeoutNs with
  | none =>
    refine .hold (.of_routingState hcounted hrouting fun h => absurd h hheld) ?_
    nofun
  | some nextDeadlineNs =>
    rw [hrouting]
    obtain ⟨hdeadline, hattempting⟩ :=
      @transition_carries intent.record.routingState _ nowNs nextDeadlineNs hopen
    refine ⟨⟨hcounted, hdeadline, ?_, fun h => absurd h hheld⟩, fun h => absurd h hheld, ?_⟩
    · intro generation hattempts
      unfold attempts at hattempts
      split at hattempts
      · rename_i hstate
        exact absurd hstate (hattempting _ _ _)
      all_goals cases hattempts
    · intro operation hbegin
      obtain ⟨hdue, hquery, hcancel⟩ := transition_eq_begin (Except.ok.inj hbegin)
      exact ⟨hconflicted, hdue, fun h => classifyOrder_queryable (hquery h),
        fun h => classifyOrder_retryable (hcancel h)⟩

theorem reconcile_reconciled (intent : CancelIntent) (cached : Option NtOrder)
    (nowNs retryTimeoutNs : Nat) :
    Reconciled intent cached nowNs (intent.reconcile cached nowNs retryTimeoutNs).1
      (intent.reconcile cached nowNs retryTimeoutNs).2 := by
  unfold reconcile
  split
  · exact .hold (.refl intent) nofun
  split
  · rename_i hconflicted
    exact observeIdentityConflictHold_reconciled rfl rfl hconflicted
  rename_i hfree
  have hfree : intent.record.conflicted = false := Bool.eq_false_iff.mpr hfree
  split
  · exact .hold (.refl intent) nofun
  · exact observeIdentityConflictHold_reconciled rfl rfl rfl
  all_goals exact reconcileIdentified_reconciled hfree

end Reconcile

/-! ## What an event can do -/

variable {kind : CancelOperationKind} {effect : Except String CancelEffect}

theorem countOperation_eq_ok {record counted : RestingOrderCancelRecord}
    (h : record.countOperation kind = .ok counted) :
    counted.health = record.health := by
  cases kind <;> simp only [countOperation] at h <;> split at h <;>
    cases h <;> rfl

/-- What a grant that begins an operation does to the record. -/
structure Granted (record begun : RestingOrderCancelRecord)
    (notBeforeNs escalationAttempts generation : Nat) : Prop where
  next : generation = record.generation + 1
  counted : begun.counted = (record.generation + 1, record.totalRecoveryAttempts + 1,
    record.health.retryEscalated || decide (escalationAttempts ≤ record.totalRecoveryAttempts + 1))
  state : ∃ operation, begun.routingState = .attempting generation operation notBeforeNs

theorem beginOperation_eq_ok {record next : RestingOrderCancelRecord}
    {nowNs retryTimeoutNs escalationAttempts generation : Nat}
    (h : record.beginOperation kind nowNs retryTimeoutNs escalationAttempts =
      .ok (generation, next)) :
    Granted record next (nowNs + retryTimeoutNs) escalationAttempts generation := by
  unfold beginOperation at h
  split at h
  · cases h
  rename_i hgeneration
  split at h
  · cases h
  rename_i htotal
  split at h
  · cases h
  rename_i hdeadline
  split at h
  · cases h
  rename_i counted hcounted
  obtain ⟨-, rfl⟩ := checkedAdd_eq_some.mp hgeneration
  obtain ⟨-, rfl⟩ := checkedAdd_eq_some.mp htotal
  obtain ⟨-, rfl⟩ := checkedAdd_eq_some.mp hdeadline
  cases h
  refine ⟨rfl, ?_, kind, rfl⟩
  unfold RestingOrderCancelRecord.counted
  rw [countOperation_eq_ok hcounted]

/-- An effect that neither asks for an operation nor begins one. Nothing in conflict is removed. -/
inductive Idle (conflicted : Bool) : Except String CancelEffect → Prop
  | failed (error : String) : Idle conflicted (.error error)
  | nothing : Idle conflicted (.ok .none)
  | removed (free : conflicted = false) : Idle conflicted (.ok .remove)

/-- The generation of the operation that an effect begins. -/
def generation? : Except String CancelEffect → Option Nat
  | .ok (.cancel generation) | .ok (.query generation _) => some generation
  | _ => none

theorem Idle.unbegun {conflicted : Bool} (h : Idle conflicted effect) :
    generation? effect = none := by
  cases h <;> rfl

/-- **What an event can do.** -/
inductive Applied (intent : CancelIntent) :
    CancelEvent → Except String CancelEffect → CancelIntent → Prop
  | carried {event : CancelEvent} {effect : Except String CancelEffect} {next : CancelIntent}
      (carries : Carries intent next) (idle : Idle intent.record.conflicted effect) :
      Applied intent event effect next
  | asked {cached : Option NtOrder} {nowNs retryTimeoutNs : Nat} {operation : CancelOperationKind}
      {next : CancelIntent} (carries : Carries intent next)
      (begins : Begins intent next cached nowNs operation) :
      Applied intent (.timerObserved cached nowNs retryTimeoutNs)
        (.ok (.reservationRequired operation)) next
  | granted {nowNs retryTimeoutNs escalationAttempts generation : Nat}
      {operation : CancelOperationKind} {record : RestingOrderCancelRecord}
      {effect : Except String CancelEffect} (begun : generation? effect = some generation)
      (granted : Granted intent.record record (nowNs + retryTimeoutNs)
        escalationAttempts generation) :
      Applied intent (.reservationGranted operation nowNs retryTimeoutNs escalationAttempts) effect
        { intent with record := record }
  | denied {nowNs retryTimeoutNs : Nat} :
      Applied intent (.reservationDenied nowNs retryTimeoutNs) (.ok .none)
        { intent with record.routingState := .backoff (nowNs + retryTimeoutNs) }
  | retired : Applied intent .requoteReservationDenied (.ok .retireIntent) intent

variable {intent next : CancelIntent}

theorem Reconciled.idle {cached : Option NtOrder} {nowNs : Nat}
    {result : Except String CancelTransition} (h : Reconciled intent cached nowNs result next) :
    Idle intent.record.conflicted (result.map passiveEffect) := by
  rcases result with error | _ | operation | _
  · exact .failed error
  · exact .nothing
  · exact .nothing
  · refine .removed (Bool.eq_false_iff.mpr fun hconflicted => ?_)
    cases h.held hconflicted _ rfl

theorem applyEvent_applied (intent : CancelIntent) (event : CancelEvent) :
    Applied intent event (intent.applyEvent event).1 (intent.applyEvent event).2 := by
  cases event with
  | timerObserved cached nowNs retryTimeoutNs =>
    have h := reconcile_reconciled intent cached nowNs retryTimeoutNs
    have hidle := h.idle
    simp only [applyEvent]
    revert h hidle
    rcases (intent.reconcile cached nowNs retryTimeoutNs).1 with error | _ | operation | _
    · exact fun h hidle => .carried h.carries hidle
    · exact fun h hidle => .carried h.carries hidle
    · exact fun h _ => .asked h.carries (h.begins operation rfl)
    · exact fun h hidle => .carried h.carries hidle
  | passiveObserved cached nowNs retryTimeoutNs =>
    have h := reconcile_reconciled intent cached nowNs retryTimeoutNs
    exact .carried h.carries h.idle
  | operationSucceeded generation cached nowNs retryTimeoutNs =>
    have h := reconcile_reconciled intent cached nowNs retryTimeoutNs
    simp only [applyEvent]
    split
    · split
      · rename_i hresult
        rw [hresult] at h
        exact .carried h.carries h.idle
      · rename_i failed hresult
        rw [hresult] at h
        obtain ⟨hdeadline, hcounted, hconflicted, hattempts⟩ :=
          failed.record.settleUnobservedGeneration_keeps generation
        exact .carried ⟨hcounted.trans h.carries.counted,
          fun t ht => hdeadline.trans (h.carries.deadline t ht),
          fun g hg => h.carries.attempts g (hattempts g hg),
          fun hc => hconflicted.trans (h.carries.conflicted hc)⟩ (.failed _)
    · exact .carried (.refl intent) .nothing
  | operationUnobserved generation =>
    obtain ⟨hdeadline, hcounted, hconflicted, hattempts⟩ :=
      intent.record.settleUnobservedGeneration_keeps generation
    exact .carried ⟨hcounted, fun _ => hdeadline.trans, hattempts, hconflicted.trans⟩ .nothing
  | reservationGranted operation nowNs retryTimeoutNs escalationAttempts =>
    simp only [applyEvent]
    split
    · exact .carried (.refl intent) (.failed _)
    · rename_i hbegin
      exact .granted (by cases operation <;> rfl) (beginOperation_eq_ok hbegin)
  | reservationDenied nowNs retryTimeoutNs =>
    simp only [applyEvent]
    split
    · exact .carried (.refl intent) (.failed _)
    · rename_i hdeadline
      obtain ⟨-, rfl⟩ := checkedAdd_eq_some.mp hdeadline
      exact .denied
  | requoteReservationDenied => exact .retired

/-- An intent is retired by the denial of a requote reservation and by nothing else. -/
theorem Applied.event_of_retired {event : CancelEvent} (h : Applied intent event effect next)
    (heffect : effect = .ok .retireIntent) : event = .requoteReservationDenied := by
  cases h with
  | carried _ idle =>
    subst heffect
    cases idle
  | asked => cases heffect
  | granted begun =>
    subst heffect
    cases begun
  | denied => cases heffect
  | retired => rfl

/-! ## Runs of one intent -/

/-- An operation that the coordinator asked a reservation for. -/
structure Ask where
  operation : CancelOperationKind
  atNs : Nat

/-- An operation that was begun, with the order that was last shown and the query seed. -/
structure BegunOperation where
  operation : CancelOperationKind
  atNs : Nat
  shown : Option NtOrder
  seed : NtOrder

structure IntentHistory where
  intent : CancelIntent
  shown : Option NtOrder
  standing : Option Ask
  /-- The newest is first. -/
  begun : List BegunOperation

/-- The cached order that an event shows. -/
def CancelEvent.shown (event : CancelEvent) (before : Option NtOrder) : Option NtOrder :=
  match event with
  | .timerObserved cached _ _ | .passiveObserved cached _ _ | .operationSucceeded _ cached _ _ =>
    cached
  | .operationUnobserved _ | .reservationGranted _ _ _ _ | .reservationDenied _ _
  | .requoteReservationDenied => before

/-- The ask that an event leaves. -/
def CancelEvent.ask : CancelEvent → Except String CancelEffect → Option Ask
  | .timerObserved _ nowNs _, .ok (.reservationRequired operation) => some ⟨operation, nowNs⟩
  | _, _ => none

theorem Idle.ask_eq_none {conflicted : Bool}
    (h : Idle conflicted effect) (event : CancelEvent) : event.ask effect = none := by
  cases h <;> cases event <;> rfl

namespace IntentHistory

def start (order : NtOrder) (quoteDeadlineNs : Nat) : IntentHistory :=
  ⟨⟨⟨order⟩, .new quoteDeadlineNs⟩, none, none, []⟩

variable (history : IntentHistory)

/-- The history after an event with its effect. -/
def after (event : CancelEvent) (effect : Except String CancelEffect)
    (intent : CancelIntent) : IntentHistory where
  intent := intent
  shown := event.shown history.shown
  standing := event.ask effect
  begun := match generation? effect, event with
    | some _, .reservationGranted operation nowNs _ _ =>
      ⟨operation, nowNs, event.shown history.shown, intent.seed.order⟩ :: history.begun
    | _, _ => history.begun

def apply (event : CancelEvent) : Except String CancelEffect × IntentHistory :=
  let (effect, intent) := history.intent.applyEvent event
  (effect, history.after event effect intent)

/-- The retry timeout is fixed, and a grant or a denial answers the ask that stands. -/
def Answers (retryTimeoutNs : Nat) (history : IntentHistory) : CancelEvent → Prop
  | .timerObserved _ _ timeoutNs | .passiveObserved _ _ timeoutNs
  | .operationSucceeded _ _ _ timeoutNs => timeoutNs = retryTimeoutNs
  | .operationUnobserved _ => True
  | .reservationGranted operation nowNs timeoutNs _ => timeoutNs = retryTimeoutNs ∧
      ∃ ask, history.standing = some ask ∧ ask.operation = operation ∧ ask.atNs ≤ nowNs
  | .reservationDenied nowNs timeoutNs => timeoutNs = retryTimeoutNs ∧
      ∃ ask, history.standing = some ask ∧ ask.atNs ≤ nowNs
  | .requoteReservationDenied => False

def Step (retryTimeoutNs : Nat) (history : IntentHistory)
    (entry : CancelEvent × Except String CancelEffect) (next : IntentHistory) : Prop :=
  history.Answers retryTimeoutNs entry.1 ∧ history.apply entry.1 = (entry.2, next)

def conflicted (history : IntentHistory) : Bool := history.intent.record.conflicted

/-- **The pace of an intent**: of its operations, of its deadline and of the ask that stands. -/
structure Paced (retryTimeoutNs : Nat) (history : IntentHistory) : Prop where
  spaced : history.begun.IsChain fun later earlier => earlier.atNs + retryTimeoutNs ≤ later.atNs
  queries : ∀ begun ∈ history.begun, begun.operation = .query →
    begun.seed.venueOrderId.isSome = true
  cancels : ∀ begun ∈ history.begun, begun.operation = .cancel →
    ∃ order, begun.shown = some order ∧ order.status ≠ .pendingCancel
  deadline : ∀ last, history.begun.head? = some last → ∃ notBeforeNs,
    history.intent.record.routingState.notBefore? = some notBeforeNs ∧
      last.atNs + retryTimeoutNs ≤ notBeforeNs
  due : ∀ ask, history.standing = some ask → ∀ last, history.begun.head? = some last →
    last.atNs + retryTimeoutNs ≤ ask.atNs
  asked : ∀ ask, history.standing = some ask → history.conflicted = false ∧
    (ask.operation = .query → history.intent.seed.venueOrderId.isSome = true) ∧
    (ask.operation = .cancel → ∃ order, history.shown = some order ∧ order.status ≠ .pendingCancel)

variable {history} {retryTimeoutNs : Nat} {next : IntentHistory}
  {entry : CancelEvent × Except String CancelEffect}

/-- A step, by what its event does to the intent. -/
theorem Step.applied (h : history.Step retryTimeoutNs entry next) :
    ∃ intent, Applied history.intent entry.1 entry.2 intent ∧
      next = history.after entry.1 entry.2 intent := by
  obtain ⟨event, effect⟩ := entry
  have happly : history.apply event = (effect, next) := h.2
  obtain rfl : (history.intent.applyEvent event).1 = effect := congrArg Prod.fst happly
  exact ⟨_, applyEvent_applied history.intent event, (congrArg Prod.snd happly).symm⟩

theorem Paced.step (h : Paced retryTimeoutNs history)
    (hstep : history.Step retryTimeoutNs entry next) : Paced retryTimeoutNs next := by
  have hanswers := hstep.1
  obtain ⟨intent, happlied, rfl⟩ := hstep.applied
  obtain ⟨event, effect⟩ := entry
  dsimp only [after] at happlied hanswers ⊢
  -- The deadline of the last operation where the event carries it on.
  have hcarry : Carries history.intent intent → ∀ last, history.begun.head? = some last →
      ∃ notBeforeNs, intent.record.routingState.notBefore? = some notBeforeNs ∧
        last.atNs + retryTimeoutNs ≤ notBeforeNs := by
    intro hcarries last hlast
    obtain ⟨notBeforeNs, hstate, hle⟩ := h.deadline last hlast
    exact ⟨notBeforeNs, hcarries.deadline notBeforeNs hstate, hle⟩
  cases happlied with
  | carried carries idle =>
    rw [idle.unbegun, idle.ask_eq_none]
    exact ⟨h.spaced, h.queries, h.cancels, hcarry carries, nofun, nofun⟩
  | asked carries begins =>
    refine ⟨h.spaced, h.queries, h.cancels, hcarry carries, ?_, ?_⟩
    · rintro _ ⟨⟩ last hlast
      obtain ⟨notBeforeNs, hstate, hle⟩ := h.deadline last hlast
      exact hle.trans (begins.due notBeforeNs hstate)
    · rintro _ ⟨⟩
      exact ⟨begins.free, begins.query, begins.cancel⟩
  | @granted nowNs timeoutNs _ _ _ _ _ begun granted =>
    obtain ⟨rfl, ask, hstanding, rfl, hnow⟩ := hanswers
    obtain ⟨-, hquery, hcancel⟩ := h.asked ask hstanding
    obtain ⟨_, hstate⟩ := granted.state
    rw [begun]
    refine ⟨?_, ?_, ?_, ?_, nofun, nofun⟩
    · refine isChain_cons.mpr ⟨fun last hlast => ?_, h.spaced⟩
      exact (h.due ask hstanding last hlast).trans hnow
    · exact forall_mem_cons.mpr ⟨hquery, h.queries⟩
    · exact forall_mem_cons.mpr ⟨hcancel, h.cancels⟩
    · rintro _ ⟨⟩
      exact ⟨nowNs + timeoutNs, congrArg CancelRoutingState.notBefore? hstate, le_rfl⟩
  | @denied nowNs timeoutNs =>
    obtain ⟨rfl, ask, hstanding, hnow⟩ := hanswers
    refine ⟨h.spaced, h.queries, h.cancels, fun last hlast => ?_, nofun, nofun⟩
    have hdue := h.due ask hstanding last hlast
    exact ⟨nowNs + timeoutNs, rfl, by omega⟩
  | retired => exact hanswers.elim

/-- After a conflict nothing is asked for, so nothing is granted, denied or removed. -/
theorem conflict_step (hconflict : history.conflicted = true) (hstanding : history.standing = none)
    (hstep : history.Step retryTimeoutNs entry next) :
    next.conflicted = true ∧ next.standing = none ∧ next.begun = history.begun ∧
      entry.2 ≠ .ok .remove := by
  have hanswers := hstep.1
  obtain ⟨intent, happlied, rfl⟩ := hstep.applied
  obtain ⟨event, effect⟩ := entry
  dsimp only [after] at happlied hanswers ⊢
  cases happlied with
  | carried carries idle =>
    rw [idle.unbegun, idle.ask_eq_none]
    refine ⟨carries.conflicted hconflict, rfl, rfl, ?_⟩
    rintro rfl
    cases idle with
    | removed free => exact absurd hconflict (Bool.eq_false_iff.mp free)
  | asked carries begins =>
    exact absurd (carries.conflicted hconflict) (Bool.eq_false_iff.mp begins.free)
  | retired => exact hanswers.elim
  | _ =>
    obtain ⟨-, ask, hask, -⟩ := hanswers
    cases hstanding.symm.trans hask

theorem conflict_run {entries : List (CancelEvent × Except String CancelEffect)}
    (hrun : Run (Step retryTimeoutNs) history entries next) (hconflict : history.conflicted = true)
    (hstanding : history.standing = none) :
    next.begun = history.begun ∧ ∀ entry ∈ entries, entry.2 ≠ .ok .remove := by
  induction hrun with
  | nil => exact ⟨rfl, forall_mem_nil _⟩
  | cons first _ ih =>
    obtain ⟨hconflict, hstanding, hbegun, heffect⟩ := conflict_step hconflict hstanding first
    obtain ⟨hrest, hentries⟩ := ih hconflict hstanding
    exact ⟨hrest.trans hbegun, forall_mem_cons.mpr ⟨heffect, hentries⟩⟩

/-- **Operations are a retry timeout apart**, a query has a captured identity, a cancel is begun on
an order that was shown and is not pending cancel, and after an identity conflict there is neither
an operation nor a removal. -/
theorem operations_are_paced {order : NtOrder} {quoteDeadlineNs : Nat}
    {entries : List (CancelEvent × Except String CancelEffect)}
    (hrun : Run (Step retryTimeoutNs) (start order quoteDeadlineNs) entries history) :
    (history.begun.IsChain fun later earlier => earlier.atNs + retryTimeoutNs ≤ later.atNs) ∧
      (∀ begun ∈ history.begun, begun.operation = .query →
        begun.seed.venueOrderId.isSome = true) ∧
      (∀ begun ∈ history.begun, begun.operation = .cancel →
        ∃ order, begun.shown = some order ∧ order.status ≠ .pendingCancel) ∧
      (history.conflicted = true → ∀ later next, Run (Step retryTimeoutNs) history later next →
        next.begun = history.begun ∧ ∀ entry ∈ later, entry.2 ≠ .ok .remove) := by
  have hpaced : Paced retryTimeoutNs history :=
    hrun.invariant (fun _ _ _ h hstep => h.step hstep)
      ⟨.nil, forall_mem_nil _, forall_mem_nil _, by rintro _ ⟨⟩, nofun, nofun⟩
  refine ⟨hpaced.spaced, hpaced.queries, hpaced.cancels, fun hconflict later next hlater => ?_⟩
  refine conflict_run hlater hconflict ?_
  cases hstanding : history.standing with
  | none => rfl
  | some ask => exact absurd hconflict (Bool.eq_false_iff.mp (hpaced.asked ask hstanding).1)

namespace LateGrant

/-- An order that rests at the venue. -/
def order : NtOrder := ⟨"O-1", "S-1", "YES.POLYMARKET", .buy, some "V-1", .accepted, 10⟩

def pending : NtOrder := { order with status := .pendingCancel }

def asked : Except String CancelEffect × IntentHistory :=
  (start order 100).apply (.timerObserved (some order) 1 10)

def observed : Except String CancelEffect × IntentHistory :=
  asked.2.apply (.passiveObserved (some pending) 2 10)

def granted : Except String CancelEffect × IntentHistory :=
  observed.2.apply (.reservationGranted .cancel 3 10 5)

/-- A grant that comes after its ask, with an order event in between: the cancel is begun on an
order that is pending cancel by then. -/
theorem cancels_a_pending_order :
    asked.1 = .ok (.reservationRequired .cancel) ∧ observed.1 = .ok .none ∧
      granted.1 = .ok (.cancel 1) ∧ granted.2.shown = some pending := ⟨rfl, rfl, rfl, rfl⟩

/-- The cancel at 1 fails unobserved, the order is missing at 11 and is queried. -/
def queried : IntentHistory :=
  ⟨⟨⟨order⟩, ⟨.attempting 2 .query 21, 2, 2, 1, 1, 100, some 11, ⟨false, none, false, none⟩⟩⟩, none,
    none, [⟨.query, 11, none, order⟩, ⟨.cancel, 1, some order, order⟩]⟩

/-- Grants that come with their asks. -/
theorem answered_at_once_is_paced :
    queried.begun.IsChain fun later earlier => earlier.atNs + 10 ≤ later.atNs :=
  have hrun : Run (Step 10) (start order 100)
      [(.timerObserved (some order) 1 10, .ok (.reservationRequired .cancel)),
        (.reservationGranted .cancel 1 10 5, .ok (.cancel 1)),
        (.operationUnobserved 1, .ok .none),
        (.timerObserved none 11 10, .ok (.reservationRequired .query)),
        (.reservationGranted .query 11 10 5, .ok (.query 2 order))] queried :=
    .cons ⟨rfl, rfl⟩ (.cons ⟨⟨rfl, _, rfl, rfl, le_rfl⟩, rfl⟩ (.cons ⟨trivial, rfl⟩
      (.cons ⟨rfl, rfl⟩ (.single ⟨⟨rfl, _, rfl, rfl, le_rfl⟩, rfl⟩))))
  (operations_are_paced hrun).1

end LateGrant

end IntentHistory

/-! ## Runs of a tracked order -/

/-- The coordinator of an order, and the generations of the operations begun for it. -/
structure RecoveryHistory where
  tracked : TrackedOrderCancellation
  /-- The newest is first. -/
  begun : List Nat

namespace RecoveryHistory

def start (order : NtOrder) : RecoveryHistory := ⟨.new order, []⟩

def apply (history : RecoveryHistory) (call : CancelCall) :
    Except String CancelEffect × RecoveryHistory :=
  let (effect, tracked) := history.tracked.call call
  (effect, ⟨tracked, (generation? effect).toList ++ history.begun⟩)

variable (escalationAttempts : Nat)

/-- The escalation threshold is fixed. -/
def Configured : CancelCall → Prop
  | .event (.reservationGranted _ _ _ attempts) => attempts = escalationAttempts
  | _ => True

variable (history : RecoveryHistory)

/-- A requote reservation is denied only while the record has begun no operation. -/
def RetiresUnbegun : CancelCall → Prop
  | .event .requoteReservationDenied =>
    ∀ record, history.tracked.intent = some record → record.generation = 0
  | _ => True

def Step (entry : CancelEntry) (next : RecoveryHistory) : Prop :=
  Configured escalationAttempts entry.1 ∧ history.RetiresUnbegun entry.1 ∧
    history.apply entry.1 = (entry.2, next)

/-- What a record has counted of the generations begun. -/
structure Counts (escalationAttempts : Nat) (begun : List Nat)
    (record : RestingOrderCancelRecord) : Prop where
  begun : begun = (range' 1 record.generation).reverse
  total : record.totalRecoveryAttempts = record.generation
  escalated : record.health.retryEscalated = true ↔
    0 < record.generation ∧ escalationAttempts ≤ record.generation
  current : ∀ generation, record.attempts generation = true → generation = record.generation

/-- **The count of a tracked order**: without an intent nothing was begun. -/
def Counted : Prop :=
  match history.tracked.intent with
  | none => history.begun = []
  | some record => Counts escalationAttempts history.begun record

variable {escalationAttempts} {begun : List Nat}

theorem counts_new (quoteDeadlineNs : Nat) : Counts escalationAttempts [] (.new quoteDeadlineNs) :=
  ⟨rfl, rfl, by simp [new], nofun⟩

theorem Counts.carried
    (h : Counts escalationAttempts begun intent.record) (hcarries : Carries intent next) :
    Counts escalationAttempts begun next.record := by
  obtain ⟨hgeneration, hrest⟩ := Prod.mk.inj hcarries.counted
  obtain ⟨htotal, hescalated⟩ := Prod.mk.inj hrest
  refine ⟨?_, ?_, ?_, fun g hg => ?_⟩
  · rw [hgeneration]
    exact h.begun
  · rw [hgeneration, htotal]
    exact h.total
  · rw [hgeneration, hescalated]
    exact h.escalated
  · rw [hgeneration]
    exact h.current g (hcarries.attempts g hg)

theorem Counts.granted {record next : RestingOrderCancelRecord} {notBeforeNs generation : Nat}
    (h : Counts escalationAttempts begun record)
    (hgranted : Granted record next notBeforeNs escalationAttempts generation) :
    Counts escalationAttempts (generation :: begun) next := by
  obtain ⟨rfl, hcounted, operation, hstate⟩ := hgranted
  obtain ⟨hgeneration, hrest⟩ := Prod.mk.inj hcounted
  obtain ⟨htotal, hescalated⟩ := Prod.mk.inj hrest
  refine ⟨?_, ?_, ?_, fun g hg => ?_⟩
  · rw [hgeneration, range'_1_concat, reverse_append, h.begun, Nat.add_comm 1]
    rfl
  · rw [htotal, hgeneration, h.total]
  · rw [hescalated, hgeneration, h.total, Bool.or_eq_true, decide_eq_true_eq, h.escalated]
    omega
  · unfold attempts at hg
    rw [hstate] at hg
    exact (beq_iff_eq.mp hg).symm.trans hgeneration.symm

theorem Counts.applied {event : CancelEvent}
    {effect : Except String CancelEffect} (h : Counts escalationAttempts begun intent.record)
    (hconfigured : Configured escalationAttempts (.event event))
    (happlied : Applied intent event effect next) :
    Counts escalationAttempts ((generation? effect).toList ++ begun) next.record := by
  cases happlied with
  | carried carries idle =>
    rw [idle.unbegun]
    exact h.carried carries
  | asked carries _ => exact h.carried carries
  | granted hbegun granted =>
    obtain rfl : _ = escalationAttempts := hconfigured
    rw [hbegun]
    exact h.granted granted
  | denied => exact ⟨h.begun, h.total, h.escalated, nofun⟩
  | retired => exact h

variable {history} {next : RecoveryHistory} {entry : CancelEntry}

theorem Counted.step (h : Counted escalationAttempts history)
    (hstep : history.Step escalationAttempts entry next) : Counted escalationAttempts next := by
  obtain ⟨call, effect⟩ := entry
  obtain ⟨hconfigured, hretires, happly⟩ := hstep
  obtain rfl : (history.apply call).2 = next := congrArg Prod.snd happly
  obtain ⟨⟨seed, intent⟩, begun⟩ := history
  rcases call with quoteDeadlineNs | event
  · cases intent with
    | none =>
      obtain rfl : begun = [] := h
      exact counts_new quoteDeadlineNs
    | some record => exact h
  · cases intent with
    | none => cases event <;> exact h
    | some record =>
      have happlied := applyEvent_applied ⟨seed, record⟩ event
      have hbefore : Counts escalationAttempts begun record := h
      have hcounts := Counts.applied hbefore hconfigured happlied
      simp only [apply, TrackedOrderCancellation.call, TrackedOrderCancellation.applyEvent]
      split
      · rename_i heffect
        obtain rfl := happlied.event_of_retired heffect
        have hbegun := hbefore.begun
        rw [hretires record rfl] at hbegun
        exact hbegun
      all_goals exact hcounts

/-- **Generations increase and every operation is counted**, so that escalation is flagged when its
number of operations is begun and a completion of an earlier one does nothing, in every run in which
a requote reservation is denied only before the record has begun an operation. -/
theorem generations_count_operations {order : NtOrder} {entries : List CancelEntry}
    (hrun : Run (Step escalationAttempts) (start order) entries history) :
    history.begun.Pairwise (· > ·) ∧
      (history.tracked.intent = none → history.begun = []) ∧
      (∀ record, history.tracked.intent = some record →
        record.totalRecoveryAttempts = history.begun.length ∧
        (record.health.retryEscalated = true ↔
          0 < history.begun.length ∧ escalationAttempts ≤ history.begun.length)) ∧
      ∀ earlier ∈ history.begun, history.begun.head? ≠ some earlier →
        history.tracked.applyEvent (.operationUnobserved earlier) = (.ok .none, history.tracked) ∧
        ∀ cached nowNs retryTimeoutNs, history.tracked.applyEvent
          (.operationSucceeded earlier cached nowNs retryTimeoutNs) =
            (.ok .none, history.tracked) := by
  have hcounted : Counted escalationAttempts history :=
    hrun.invariant (I := Counted escalationAttempts) (fun _ _ _ h hstep => h.step hstep) rfl
  obtain ⟨⟨seed, intent⟩, begun⟩ := history
  cases intent with
  | none =>
    obtain rfl : begun = [] := hcounted
    exact ⟨.nil, fun _ => rfl, nofun, nofun⟩
  | some record =>
    obtain ⟨hbegun, htotal, hescalated, hcurrent⟩ :
      Counts escalationAttempts begun record := hcounted
    have hlength : begun.length = record.generation := by
      rw [hbegun, length_reverse, length_range']
    refine ⟨?_, nofun, ?_, fun earlier hearlier hnewer => ?_⟩
    · rw [hbegun, pairwise_reverse]
      exact pairwise_lt_range'
    · rintro _ ⟨⟩
      rw [hlength]
      exact ⟨htotal, hescalated⟩
    · -- The attempt is of the newest generation, if there is one.
      have hother : record.attempts earlier = false := by
        refine Bool.eq_false_iff.mpr fun hattempts => hnewer ?_
        obtain rfl := hcurrent earlier hattempts
        rw [hbegun] at hearlier ⊢
        generalize record.generation = generation at hearlier ⊢
        cases generation with
        | zero => cases hearlier
        | succ k =>
          rw [range'_1_concat, reverse_append, Nat.add_comm 1]
          rfl
      refine ⟨?_, fun cached nowNs retryTimeoutNs => ?_⟩
      · simp only [TrackedOrderCancellation.applyEvent, applyEvent,
          settleUnobservedGeneration_other hother]
      · simp only [TrackedOrderCancellation.applyEvent, applyEvent, hother,
          Bool.false_eq_true, if_false]

namespace RetiredIntent

open IntentHistory.LateGrant (order)

/-- A cancel at 1 fails, its retry at 11 is denied its requote reservation, and the order is
canceled again at 12. -/
def canceledAgain : RecoveryHistory :=
  [.requestIntent 100, .event (.timerObserved (some order) 1 10),
    .event (.reservationGranted .cancel 1 10 2), .event (.operationUnobserved 1),
    .event (.timerObserved (some order) 11 10), .event .requoteReservationDenied,
    .requestIntent 100, .event (.timerObserved (some order) 12 10),
    .event (.reservationGranted .cancel 12 10 2)].foldl
    (fun history call => (history.apply call).2) (start order)

/-- The second operation has the generation of the first and is counted as the first, two operations
do not escalate, and the completion of the first is taken for the second. -/
theorem counts_from_one_again : canceledAgain.begun = [1, 1] ∧
      (canceledAgain.tracked.intent.map fun record =>
        (record.totalRecoveryAttempts, record.health.retryEscalated)) = some (1, false) ∧
      (canceledAgain.tracked.applyEvent (.operationUnobserved 1)).2 ≠ canceledAgain.tracked := by
  decide +kernel

/-- The first cancel is denied its requote reservation, and two operations are begun then. -/
def escalated : RecoveryHistory :=
  ⟨⟨⟨order⟩, some ⟨.attempting 2 .cancel 22, 2, 2, 2, 0, 100, some 12, ⟨false, none, true, none⟩⟩⟩,
    [2, 1]⟩

theorem denied_first_counts_two : escalated.begun.Pairwise (· > ·) :=
  have hrun : Run (Step 2) (start order)
      [(.requestIntent 100, .ok .none),
        (.event (.timerObserved (some order) 1 10), .ok (.reservationRequired .cancel)),
        (.event .requoteReservationDenied, .ok .retireIntent),
        (.requestIntent 100, .ok .none),
        (.event (.timerObserved (some order) 2 10), .ok (.reservationRequired .cancel)),
        (.event (.reservationGranted .cancel 2 10 2), .ok (.cancel 1)),
        (.event (.operationUnobserved 1), .ok .none),
        (.event (.timerObserved (some order) 12 10), .ok (.reservationRequired .cancel)),
        (.event (.reservationGranted .cancel 12 10 2), .ok (.cancel 2))] escalated :=
    .cons ⟨trivial, trivial, rfl⟩ (.cons ⟨trivial, trivial, rfl⟩
      (.cons ⟨trivial, by rintro _ ⟨⟩; rfl, rfl⟩ (.cons ⟨trivial, trivial, rfl⟩
        (.cons ⟨trivial, trivial, rfl⟩ (.cons ⟨rfl, trivial, rfl⟩ (.cons ⟨trivial, trivial, rfl⟩
          (.cons ⟨trivial, trivial, rfl⟩ (.single ⟨rfl, trivial, rfl⟩))))))))
  (generations_count_operations hrun).1

end RetiredIntent

end RecoveryHistory

end BoltV3.Tracked
