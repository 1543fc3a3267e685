import BoltV3.Submit.State

/-!
# The kill switch

`bolt_v3_kill_switch.rs`: the states of the kill switch, the events it takes and
`transition_kill_switch_state`. Only a manual reset leads back to `Armed`.

* `halt_id_for_trigger` is a SHA-256 digest; it is the parameter `HaltIds`.
* The evidence of a manual reset is checked where it is built
  (`KillSwitchManualResetEvidence::new`); the transition does not read it.
-/

namespace BoltV3.KillSwitch

open Lib Loss
open Submit (KillSwitchStateKind)

/-! ## States -/

inductive KillSwitchHaltTriggerKind
  | lossGovernorBreach | providerCollateralAllowanceRuntimeFailure
deriving DecidableEq

structure KillSwitchHaltTrigger where
  kind : KillSwitchHaltTriggerKind
  source : String
  sourceTimestampUnixNanos : Nat
  reason : String
  lossHaltReason : Option LossHaltReason
deriving DecidableEq

def KillSwitchHaltTrigger.lossGovernorBreachWithReason (source : String)
    (sourceTimestampUnixNanos : Nat) (reason : String) (lossHaltReason : LossHaltReason) :
    KillSwitchHaltTrigger :=
  ⟨.lossGovernorBreach, source, sourceTimestampUnixNanos, reason, some lossHaltReason⟩

inductive KillSwitchState
  | armed
  | halting (haltId : String) (trigger : KillSwitchHaltTrigger)
  | halted (haltId : String) (trigger : KillSwitchHaltTrigger)
  | cancelling (haltId : String)
  | flattening (haltId : String)
  | flat (haltId : String)
  | failedManualIntervention (haltId : String) (reason : String)
deriving DecidableEq

def KillSwitchState.kind : KillSwitchState → KillSwitchStateKind
  | armed => .armed
  | halting .. => .halting
  | halted .. => .halted
  | cancelling _ => .cancelling
  | flattening _ => .flattening
  | flat _ => .flat
  | failedManualIntervention .. => .failedManualIntervention

/-! ## Events -/

structure KillSwitchManualResetEvidence where
  (operatorId evidencePath evidenceSha256 : String)
  requestedAtUnixNanos : Nat

inductive KillSwitchEvent
  | haltTriggered (trigger : KillSwitchHaltTrigger)
  | durableHaltEvidenceRecorded
  | durableHaltEvidenceWriteFailed (reason : String)
  | haltActionDispatchFailed (reason : String)
  | reconciliationProofReceived
  | manualResetRequested (evidence : KillSwitchManualResetEvidence)

inductive KillSwitchEventKind
  | haltTriggered | durableHaltEvidenceRecorded | durableHaltEvidenceWriteFailed
  | haltActionDispatchFailed | reconciliationProofReceived | manualResetRequested
deriving DecidableEq

def KillSwitchEvent.kind : KillSwitchEvent → KillSwitchEventKind
  | haltTriggered _ => .haltTriggered
  | durableHaltEvidenceRecorded => .durableHaltEvidenceRecorded
  | durableHaltEvidenceWriteFailed _ => .durableHaltEvidenceWriteFailed
  | haltActionDispatchFailed _ => .haltActionDispatchFailed
  | reconciliationProofReceived => .reconciliationProofReceived
  | manualResetRequested _ => .manualResetRequested

structure KillSwitchTransitionContext where
  (stateWriteSucceeded durableHaltEvidenceRecorded operatorAuthorized : Bool)
  (manualResetEvidenceValid mandatoryProofStreamsFresh noOutstandingOrderRisk : Bool)
  (noOpenPositions noPendingEntryRisk : Bool)

inductive KillSwitchTransitionError
  | missingDurableHaltEvidence | unauthorizedManualReset | invalidManualResetEvidence
  | missingFreshReconciliationProof | reconciliationNotFlat
  | illegalTransition (state : KillSwitchStateKind) (event : KillSwitchEventKind)
deriving DecidableEq

/-! ## Transitions -/

/-- `halt_id_for_trigger`. -/
class HaltIds where
  haltIdForTrigger : KillSwitchHaltTrigger → String

/-- Halts named by their source. -/
@[reducible] def HaltIds.reference : HaltIds := ⟨KillSwitchHaltTrigger.source⟩

variable (context : KillSwitchTransitionContext)

def requireCleanReconciliation : Except KillSwitchTransitionError Unit :=
  if !context.noOutstandingOrderRisk || !context.noOpenPositions || !context.noPendingEntryRisk then
    .error .reconciliationNotFlat
  else .ok ()

def requireFreshCleanReconciliation : Except KillSwitchTransitionError Unit :=
  if !context.mandatoryProofStreamsFresh then .error .missingFreshReconciliationProof
  else requireCleanReconciliation context

/-- The checks of a manual reset. -/
def requireManualReset : Except KillSwitchTransitionError Unit :=
  if !context.operatorAuthorized then .error .unauthorizedManualReset
  else if !context.manualResetEvidenceValid then .error .invalidManualResetEvidence
  else requireFreshCleanReconciliation context

section

variable [HaltIds]

def transitionKillSwitchState (state : KillSwitchState) (event : KillSwitchEvent)
    (context : KillSwitchTransitionContext) : Except KillSwitchTransitionError KillSwitchState :=
  match state, event with
  | .armed, .haltTriggered trigger => .ok (.halting (HaltIds.haltIdForTrigger trigger) trigger)
  | .halting haltId trigger, .durableHaltEvidenceRecorded =>
    if !context.stateWriteSucceeded || !context.durableHaltEvidenceRecorded then
      .error .missingDurableHaltEvidence
    else .ok (.halted haltId trigger)
  | .halting haltId _, .durableHaltEvidenceWriteFailed reason =>
    .ok (.failedManualIntervention haltId reason)
  | .halting haltId _, .haltActionDispatchFailed reason =>
    .ok (.failedManualIntervention haltId reason)
  | .halted haltId _, .reconciliationProofReceived => do
    requireFreshCleanReconciliation context
    return .flat haltId
  | .flat _, .manualResetRequested _ => do
    requireManualReset context
    return .armed
  | .failedManualIntervention _ _, .manualResetRequested _ => do
    requireManualReset context
    return .armed
  | state, event => .error (.illegalTransition state.kind event.kind)

end

end BoltV3.KillSwitch
