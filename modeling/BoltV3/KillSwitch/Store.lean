import BoltV3.KillSwitch.State

/-!
# The kill-switch store

`bolt_v3_kill_switch_store.rs`: the file that holds the state of the kill switch and the snapshot of
its loss protection. A write replaces the whole file or fails and leaves it; `load_recovery_record`
classifies what it finds and fails closed on everything it cannot read back.

* The file is the bytes under its name, or `none`. What is read of JSON, of the registry of
  currencies and of error texts is the parameter `StateCodec`, with the behaviour of these libraries
  as `StateCodec.Lawful`.
* The six values that make up the loss state are one record, `LossState`, here and in the memory of
  the loss protection; a `Currency` is its code, by which it is compared and stored.
* `KillSwitchStoreError::Serialize` cannot occur for these types, and the manual recovery audit is a
  file of its own; both are left out.
-/

namespace BoltV3.KillSwitch

open Lib Loss
open Std (ExtTreeMap)

/-! ## Snapshots -/

/-- `CumulativePositionPnl`, and the snapshot of one. -/
structure CumulativePositionPnl where
  realizedPnl : Decimal
  lastObservedAtUnixNanos : Nat
deriving DecidableEq

/-- What the loss protection knows of the realized losses. -/
structure LossState where
  dailyBucket : Option Nat
  dailyRealizedPnl : Decimal
  settlementCurrency : Option String
  (cumulativePositionPnl closedPositionPnl : ExtTreeMap String CumulativePositionPnl)
  adjustedPositionPnl : ExtTreeMap String CumulativePositionPnl
deriving DecidableEq

structure KillSwitchPendingHaltActionsSnapshot where
  (nextRetryAtUnixNanos retryDeadlineUnixNanos : Nat)
deriving DecidableEq

structure KillSwitchLossProtectionSnapshot where
  loss : LossState
  pendingHaltActions : Option KillSwitchPendingHaltActionsSnapshot
deriving DecidableEq

def LossState.initial : LossState :=
  { dailyBucket := none, dailyRealizedPnl := .zero, settlementCurrency := none
    cumulativePositionPnl := ∅, closedPositionPnl := ∅, adjustedPositionPnl := ∅ }

def initialArmedLossProtectionSnapshot : KillSwitchLossProtectionSnapshot := ⟨.initial, none⟩

structure PersistedCumulativePositionPnlSnapshot where
  realizedPnl : String
  lastObservedAtUnixNanos : Nat

structure PersistedKillSwitchLossProtectionSnapshot where
  dailyBucket : Option Nat
  dailyRealizedPnl : String
  settlementCurrency : Option String
  cumulativePositionPnl : ExtTreeMap String PersistedCumulativePositionPnlSnapshot
  (closedPositionPnl adjustedPositionPnl : ExtTreeMap String PersistedCumulativePositionPnlSnapshot)
  pendingHaltActions : Option KillSwitchPendingHaltActionsSnapshot

structure PersistedKillSwitchState where
  schemaVersion : Nat
  state : KillSwitchState
  lossProtection : Option PersistedKillSwitchLossProtectionSnapshot

/-- `KILL_SWITCH_STORE_SCHEMA_VERSION`. -/
def killSwitchStoreSchemaVersion : Nat := 2

/-! ## What is read of other libraries -/

inductive KillSwitchStoreError
  | io (text : String)
  | stateTooLarge (bytes maxBytes : Nat)
deriving DecidableEq

/-- The text formats of the store: `serde_json`, `Debug` of an error, and the registry behind
`Currency::try_from_str`. -/
class StateCodec where
  Bytes : Type
  size : Bytes → Nat
  serialize : PersistedKillSwitchState → Bytes
  deserialize : Bytes → Option PersistedKillSwitchState
  declaredSchemaVersion : Bytes → Option Nat
  namesUnrepresentableHaltTrigger : Bytes → Bool
  /-- The bytes of `b"!"`. -/
  invalidated : Bytes
  registered : String → Bool
  errorText : KillSwitchStoreError → String

/-- The documented contract: what is serialized reads back, and `!` is not JSON. -/
structure StateCodec.Lawful (codec : StateCodec) : Prop where
  readsBack : ∀ persisted, codec.deserialize (codec.serialize persisted) = some persisted
  declares : ∀ persisted,
    codec.declaredSchemaVersion (codec.serialize persisted) = some persisted.schemaVersion
  invalid : codec.deserialize codec.invalidated = none

/-- Files that hold the persisted values themselves, where every currency is registered. -/
@[reducible] def StateCodec.reference : StateCodec where
  Bytes := Option PersistedKillSwitchState
  size _ := 0
  serialize persisted := some persisted
  deserialize bytes := bytes
  declaredSchemaVersion bytes := bytes.map PersistedKillSwitchState.schemaVersion
  namesUnrepresentableHaltTrigger _ := false
  invalidated := none
  registered _ := true
  errorText _ := "io"

theorem StateCodec.reference_lawful : StateCodec.reference.Lawful where
  readsBack _ := rfl
  declares _ := rfl
  invalid := rfl

/-! ## Persisted snapshots -/

section

variable [arith : DecimalArith]

def persistPnlMap (map : ExtTreeMap String CumulativePositionPnl) :
    ExtTreeMap String PersistedCumulativePositionPnlSnapshot :=
  map.map fun _ value => ⟨DecimalArith.toText value.realizedPnl, value.lastObservedAtUnixNanos⟩

/-- The loop of `restore_pnl_map`. -/
def restoreEntries (restored : ExtTreeMap String CumulativePositionPnl) :
    List (String × PersistedCumulativePositionPnlSnapshot) →
    Option (ExtTreeMap String CumulativePositionPnl)
  | [] => some restored
  | (positionId, value) :: rest =>
    match DecimalArith.parse value.realizedPnl with
    | none => none
    | some realizedPnl =>
      restoreEntries (restored.insert positionId ⟨realizedPnl, value.lastObservedAtUnixNanos⟩) rest

def restorePnlMap (map : ExtTreeMap String PersistedCumulativePositionPnlSnapshot) :
    Option (ExtTreeMap String CumulativePositionPnl) :=
  restoreEntries ∅ map.toList

/-- `PersistedKillSwitchLossProtectionSnapshot::from`. -/
def KillSwitchLossProtectionSnapshot.persist (snapshot : KillSwitchLossProtectionSnapshot) :
    PersistedKillSwitchLossProtectionSnapshot :=
  { dailyBucket := snapshot.loss.dailyBucket
    dailyRealizedPnl := DecimalArith.toText snapshot.loss.dailyRealizedPnl
    settlementCurrency := snapshot.loss.settlementCurrency
    cumulativePositionPnl := persistPnlMap snapshot.loss.cumulativePositionPnl
    closedPositionPnl := persistPnlMap snapshot.loss.closedPositionPnl
    adjustedPositionPnl := persistPnlMap snapshot.loss.adjustedPositionPnl
    pendingHaltActions := snapshot.pendingHaltActions }

/-- Whether a position is both open and closed. -/
def positionsOverlap (cumulative closed : ExtTreeMap String CumulativePositionPnl) : Bool :=
  cumulative.toList.any fun p => closed.contains p.1

def hasLossEvidence (dailyRealizedPnl : Decimal)
    (cumulative closed adjusted : ExtTreeMap String CumulativePositionPnl) : Bool :=
  !decide (dailyRealizedPnl.NumEq .zero) || !cumulative.isEmpty || !closed.isEmpty ||
    !adjusted.isEmpty

section

variable [codec : StateCodec]

/-- The check of the settlement currency, given whether there is loss evidence. -/
def settlementCurrencyInvalid (currency : Option String) (evidence : Bool) : Bool :=
  match currency with
  | some currency => isBlank currency || !isTrimmed currency || !StateCodec.registered currency
  | none => evidence

/-- `KillSwitchLossProtectionSnapshot::try_from`. -/
def PersistedKillSwitchLossProtectionSnapshot.restore
    (snapshot : PersistedKillSwitchLossProtectionSnapshot) :
    Option KillSwitchLossProtectionSnapshot := do
  let dailyRealizedPnl ← DecimalArith.parse snapshot.dailyRealizedPnl
  let cumulative ← restorePnlMap snapshot.cumulativePositionPnl
  let closed ← restorePnlMap snapshot.closedPositionPnl
  if positionsOverlap cumulative closed then none
  else
    let adjusted ← restorePnlMap snapshot.adjustedPositionPnl
    if settlementCurrencyInvalid snapshot.settlementCurrency
        (hasLossEvidence dailyRealizedPnl cumulative closed adjusted) then none
    else
      some
        { loss :=
            { dailyBucket := snapshot.dailyBucket, dailyRealizedPnl := dailyRealizedPnl
              settlementCurrency := snapshot.settlementCurrency, cumulativePositionPnl := cumulative
              closedPositionPnl := closed, adjustedPositionPnl := adjusted }
          pendingHaltActions := snapshot.pendingHaltActions }

/-! ## Loading -/

inductive KillSwitchRecoveryReason
  | missingEvidence | missingLossProtectionSnapshot | corruptEvidence | oversizedEvidence
  | unsupportedSchemaVersion | unresolvedHalt | unrepresentableHaltTrigger
deriving DecidableEq

inductive KillSwitchRecoveryState
  | recovered (state : KillSwitchState)
  | failClosed (reason : KillSwitchRecoveryReason) (state : Option KillSwitchState)
deriving DecidableEq

structure KillSwitchRecoveryRecord where
  recoveryState : KillSwitchRecoveryState
  lossProtection : Option KillSwitchLossProtectionSnapshot
deriving DecidableEq

variable (state : KillSwitchState)

/-- The recovery state of a persisted state whose snapshot is sound. -/
def recoveryStateOf : KillSwitchRecoveryState :=
  match state with
  | .halting .. | .failedManualIntervention .. => .failClosed .unresolvedHalt (some state)
  | state => .recovered state

/-- The part of `load_recovery_record` after the bytes are deserialized. -/
def recoveryRecordOf (persisted : PersistedKillSwitchState) : KillSwitchRecoveryRecord :=
  match persisted.lossProtection with
  | none => ⟨recoveryStateOf persisted.state, none⟩
  | some snapshot =>
    match snapshot.restore with
    | none => ⟨.failClosed .corruptEvidence (some persisted.state), none⟩
    | some snapshot => ⟨recoveryStateOf persisted.state, some snapshot⟩

/-- `load_recovery_record` of a file that can be read. -/
def loadRecoveryRecord (file : Option codec.Bytes) (maxStateFileBytes : Nat) :
    KillSwitchRecoveryRecord :=
  match file with
  | none => ⟨.failClosed .missingEvidence none, none⟩
  | some bytes =>
    if maxStateFileBytes < StateCodec.size bytes then ⟨.failClosed .oversizedEvidence none, none⟩
    else if (StateCodec.declaredSchemaVersion bytes).any (· != killSwitchStoreSchemaVersion) then
      ⟨.failClosed .unsupportedSchemaVersion none, none⟩
    else
      match StateCodec.deserialize bytes with
      | none =>
        ⟨.failClosed (if StateCodec.namesUnrepresentableHaltTrigger bytes then
          .unrepresentableHaltTrigger else .corruptEvidence) none, none⟩
      | some persisted => recoveryRecordOf persisted

/-! ## Writing -/

/-- The outcomes of the effects of one call: for each write its error if it fails, in order, and the
same for the invalidation and for the emission of halt actions. -/
structure Io where
  writes : List (Option String)
  (invalidate emit : Option String)

/-- The file, with whether a write to it has failed so far. -/
structure Disk where
  file : Option codec.Bytes
  failed : Bool

def serializeStateWithLossSnapshot
    (lossProtection : Option KillSwitchLossProtectionSnapshot) : codec.Bytes :=
  StateCodec.serialize
    ⟨killSwitchStoreSchemaVersion, state,
      lossProtection.map KillSwitchLossProtectionSnapshot.persist⟩

/-- `write_state_with_loss_snapshot`: the error, and what is left of disk and outcomes. -/
def writeStateWithLossSnapshot (disk : Disk) (io : Io) (maxStateFileBytes : Nat)
    (state : KillSwitchState) (lossProtection : Option KillSwitchLossProtectionSnapshot) :
    Option KillSwitchStoreError × Disk × Io :=
  let bytes := serializeStateWithLossSnapshot state lossProtection
  if maxStateFileBytes < StateCodec.size bytes then
    (some (.stateTooLarge (StateCodec.size bytes) maxStateFileBytes), { disk with failed := true },
      io)
  else
    match io.writes with
    | some text :: rest =>
      (some (.io text), { disk with failed := true }, { io with writes := rest })
    | none :: rest => (none, { disk with file := some bytes }, { io with writes := rest })
    | [] => (none, { disk with file := some bytes }, io)

def invalidate (disk : Disk) (io : Io) : Option KillSwitchStoreError × Disk :=
  match io.invalidate with
  | some text => (some (.io text), disk)
  | none => (none, { disk with file := some StateCodec.invalidated })

/-- What a write does: it fails and leaves the file, or the file has what was to be written. -/
theorem writeStateWithLossSnapshot_cases (disk : Disk) (io : Io) (maxStateFileBytes : Nat)
    (state : KillSwitchState) (lossProtection : Option KillSwitchLossProtectionSnapshot) :
    (∃ error io', io'.invalidate = io.invalidate ∧ io'.emit = io.emit ∧
      writeStateWithLossSnapshot disk io maxStateFileBytes state lossProtection =
        (some error, { disk with failed := true }, io')) ∨
    ∃ io', io'.invalidate = io.invalidate ∧ io'.emit = io.emit ∧
      StateCodec.size (serializeStateWithLossSnapshot state lossProtection) ≤ maxStateFileBytes ∧
      writeStateWithLossSnapshot disk io maxStateFileBytes state lossProtection =
        (none, { disk with file := some (serializeStateWithLossSnapshot state lossProtection) },
          io') := by
  unfold writeStateWithLossSnapshot
  dsimp only
  split
  · exact .inl ⟨_, io, rfl, rfl, rfl⟩
  · rename_i hsize
    have hsize := Nat.le_of_not_lt hsize
    split
    · rename_i text rest hwrites
      exact .inl ⟨_, { io with writes := rest }, rfl, rfl, rfl⟩
    · rename_i rest hwrites
      exact .inr ⟨{ io with writes := rest }, rfl, rfl, hsize, rfl⟩
    · exact .inr ⟨io, rfl, rfl, hsize, rfl⟩

/-! ## Reading back -/

/-- The snapshot passes the checks of the loader. -/
structure KillSwitchLossProtectionSnapshot.Loadable (snapshot : KillSwitchLossProtectionSnapshot) :
    Prop where
  disjoint : positionsOverlap snapshot.loss.cumulativePositionPnl
    snapshot.loss.closedPositionPnl = false
  currency : settlementCurrencyInvalid snapshot.loss.settlementCurrency
    (hasLossEvidence snapshot.loss.dailyRealizedPnl snapshot.loss.cumulativePositionPnl
      snapshot.loss.closedPositionPnl snapshot.loss.adjustedPositionPnl) = false

section

variable (lossless : arith.Lossless)

include lossless

omit codec in
theorem restoreEntries_eq {restored : ExtTreeMap String CumulativePositionPnl}
    (entries : List (String × CumulativePositionPnl)) :
    restoreEntries restored (entries.map fun p =>
        (p.1, ⟨DecimalArith.toText p.2.realizedPnl, p.2.lastObservedAtUnixNanos⟩)) =
      some (SortedMap.insertAll restored entries) := by
  induction entries generalizing restored with
  | nil => rfl
  | cons p entries ih =>
    simp only [List.map_cons, restoreEntries]
    rw [lossless]
    exact ih

omit codec in
/-- A map of positions is read back as it was. -/
theorem restorePnlMap_persist (map : ExtTreeMap String CumulativePositionPnl) :
    restorePnlMap (persistPnlMap map) = some map := by
  unfold restorePnlMap persistPnlMap
  rw [ExtTreeMap.toList_map, restoreEntries_eq lossless]
  congr 1
  refine ExtTreeMap.ext_getElem? fun positionId => Option.ext fun value => ?_
  rw [SortedMap.getElem?_insertAll_empty (SortedMap.nodup_keys_toList map), SortedMap.mem_toList]

/-- **A snapshot is read back as it was**, if it passes the checks of the loader. -/
theorem restore_persist {snapshot restored : KillSwitchLossProtectionSnapshot} :
    snapshot.persist.restore = some restored ↔ snapshot.Loadable ∧ restored = snapshot := by
  have hdaily := lossless snapshot.loss.dailyRealizedPnl
  unfold PersistedKillSwitchLossProtectionSnapshot.restore KillSwitchLossProtectionSnapshot.persist
  simp only [hdaily, restorePnlMap_persist lossless, bind, Option.bind_some]
  constructor
  · intro h
    split_ifs at h with hdisjoint hcurrency
    exact ⟨⟨by simpa using hdisjoint, by simpa using hcurrency⟩, (Option.some.inj h).symm⟩
  · rintro ⟨h, rfl⟩
    simp only [h.disjoint, h.currency, Bool.false_eq_true, if_false]

end

theorem loadable_of_restore {persisted : PersistedKillSwitchLossProtectionSnapshot}
    {snapshot : KillSwitchLossProtectionSnapshot} (h : persisted.restore = some snapshot) :
    snapshot.Loadable := by
  unfold PersistedKillSwitchLossProtectionSnapshot.restore at h
  obtain ⟨daily, -, h⟩ := Option.bind_eq_some_iff.mp h
  obtain ⟨cumulative, -, h⟩ := Option.bind_eq_some_iff.mp h
  obtain ⟨closed, -, h⟩ := Option.bind_eq_some_iff.mp h
  split at h
  · cases h
  rename_i hdisjoint
  obtain ⟨adjusted, -, h⟩ := Option.bind_eq_some_iff.mp h
  split at h
  · cases h
  rename_i hcurrency
  cases h
  exact ⟨by simpa using hdisjoint, by simpa using hcurrency⟩

theorem loadRecoveryRecord_written (lawful : codec.Lawful) {state : KillSwitchState}
    {lossProtection : Option KillSwitchLossProtectionSnapshot} {maxStateFileBytes : Nat}
    (hsize : StateCodec.size (serializeStateWithLossSnapshot state lossProtection) ≤
      maxStateFileBytes) :
    loadRecoveryRecord (some (serializeStateWithLossSnapshot state lossProtection))
      maxStateFileBytes =
    recoveryRecordOf ⟨killSwitchStoreSchemaVersion, state,
      lossProtection.map KillSwitchLossProtectionSnapshot.persist⟩ := by
  unfold loadRecoveryRecord
  dsimp only
  rw [if_neg (by omega)]
  unfold serializeStateWithLossSnapshot
  rw [lawful.declares, lawful.readsBack]
  simp

theorem loadRecoveryRecord_invalidated (lawful : codec.Lawful) (maxStateFileBytes : Nat) :
    ∃ reason, loadRecoveryRecord (some codec.invalidated) maxStateFileBytes =
      ⟨.failClosed reason none, none⟩ := by
  unfold loadRecoveryRecord
  dsimp only
  split
  · exact ⟨_, rfl⟩
  split
  · exact ⟨_, rfl⟩
  rw [lawful.invalid]
  exact ⟨_, rfl⟩

end

end

end BoltV3.KillSwitch
