import BoltV3.Lib.Decimal
import BoltV3.Lib.Rust
import Mathlib.Data.Finset.Basic
import Mathlib.Logic.Function.Basic

/-!
# The position authority feed

`bolt_v3_position_authority_feed.rs`: the raw position reports of the venue, kept for each key that
has a lease, and the canonical position as the cache of the platform shows it.

* The maps of the feed are functions. A lease is its key: `acquire` counts it and `drop` gives it
  back, and the last one to go takes the entry with it.
* Quantities are decimals and compare by value; times are nanoseconds.
* The lock of the feed and its message subscription are left out, as are the logged outcomes.
-/

namespace BoltV3.Exit

open Lib

inductive PositionSideSpecified
  | flat | long | short
deriving DecidableEq

structure InstrumentId where
  (symbol venue : String)
deriving DecidableEq

structure BoltV3PositionAuthorityKey where
  (executionClientId accountId : String)
  instrumentId : InstrumentId
  venuePositionId : Option String
deriving DecidableEq

/-- The fields of `PositionStatusReport` that the feed reads. -/
structure PositionStatusReport where
  accountId : String
  instrumentId : InstrumentId
  venuePositionId : Option String
  reportId : String
  signedDecimalQty : Decimal
  positionSide : PositionSideSpecified
  (tsLast tsInit : Nat)

structure BoltV3PositionAuthoritySnapshot where
  reportId : String
  signedQuantity : Decimal
  positionSide : PositionSideSpecified
  (tsLast tsInit generation : Nat)

inductive BoltV3PositionAuthorityConflict
  | sameReportIdentityChanged | equalTimestampChanged | generationOverflow

inductive BoltV3PositionAuthorityLeaseState
  | awaiting
  | coherent (snapshot : BoltV3PositionAuthoritySnapshot)
  | conflicted (conflict : BoltV3PositionAuthorityConflict)

structure BoltV3PositionAuthorityStaleHealth where
  (observedTsLast currentTsLast : Nat)

structure PositionAuthorityKeyState where
  leaseCount : Nat
  authority : BoltV3PositionAuthorityLeaseState
  staleHealth : Option BoltV3PositionAuthorityStaleHealth

structure PositionAuthorityAccountBinding where
  (executionClientId venue : String)

structure PositionAuthorityFeedState where
  clientByAccount : String → Option PositionAuthorityAccountBinding
  keys : BoltV3PositionAuthorityKey → Option PositionAuthorityKeyState

inductive BoltV3PositionAuthorityObservationOutcome
  | applied | ignoredOutsideRegisteredAccounts
  | noActiveLease (key : BoltV3PositionAuthorityKey)

/-- The errors of the feed, with the data of their messages. -/
inductive FeedError
  | noAttribution (accountId : String)
  | attributionMismatch (accountId expected observed : String)
  | leaseCountOverflow | leaseKeyInactive

/-! ## Reports -/

/-- The snapshot of a report, at a generation. -/
def PositionStatusReport.snapshot (report : PositionStatusReport) (generation : Nat) :
    BoltV3PositionAuthoritySnapshot :=
  ⟨report.reportId, report.signedDecimalQty, report.positionSide, report.tsLast, report.tsInit,
    generation⟩

def sameReportBody (current observed : BoltV3PositionAuthoritySnapshot) : Bool :=
  decide (current.signedQuantity.NumEq observed.signedQuantity) &&
    decide (current.positionSide = observed.positionSide) &&
    decide (current.tsLast = observed.tsLast) && decide (current.tsInit = observed.tsInit)

namespace PositionAuthorityKeyState

def observe (state : PositionAuthorityKeyState) (report : PositionStatusReport) :
    PositionAuthorityKeyState :=
  let observed := report.snapshot 0
  match state.authority with
  | .awaiting => { state with authority := .coherent (report.snapshot 1) }
  | .coherent current =>
    if observed.reportId = current.reportId then
      if sameReportBody current observed then state
      else { state with authority := .conflicted .sameReportIdentityChanged }
    else if observed.tsLast < current.tsLast then
      { state with staleHealth := some ⟨observed.tsLast, current.tsLast⟩ }
    else if observed.tsLast = current.tsLast ∧
        (¬observed.signedQuantity.NumEq current.signedQuantity ∨
          observed.positionSide ≠ current.positionSide) then
      { state with authority := .conflicted .equalTimestampChanged }
    else
      match checkedAdd u64Max current.generation 1 with
      | some generation =>
        { state with authority := .coherent (report.snapshot generation), staleHealth := none }
      | none => { state with authority := .conflicted .generationOverflow }
  | .conflicted _ => state

end PositionAuthorityKeyState

/-! ## The feed -/

namespace PositionAuthorityFeedState

variable (state : PositionAuthorityFeedState) (key : BoltV3PositionAuthorityKey)

/-- `acquire`: the key of the new lease. -/
def acquire : Except FeedError BoltV3PositionAuthorityKey × PositionAuthorityFeedState :=
  match state.clientByAccount key.accountId with
  | none => (.error (.noAttribution key.accountId), state)
  | some attributed =>
    if attributed.executionClientId = key.executionClientId ∧
        attributed.venue = key.instrumentId.venue then
      let entry := (state.keys key).getD ⟨0, .awaiting, none⟩
      let insert := fun entry => { state with keys := Function.update state.keys key (some entry) }
      match checkedAdd u64Max entry.leaseCount 1 with
      | none => (.error .leaseCountOverflow, insert entry)
      | some leaseCount => (.ok key, insert { entry with leaseCount := leaseCount })
    else
      (.error (.attributionMismatch key.accountId attributed.executionClientId
        key.executionClientId), state)

def observe (state : PositionAuthorityFeedState) (report : PositionStatusReport) :
    BoltV3PositionAuthorityObservationOutcome × PositionAuthorityFeedState :=
  match state.clientByAccount report.accountId with
  | none => (.ignoredOutsideRegisteredAccounts, state)
  | some binding =>
    if report.instrumentId.venue ≠ binding.venue then (.ignoredOutsideRegisteredAccounts, state)
    else
      let key : BoltV3PositionAuthorityKey :=
        ⟨binding.executionClientId, report.accountId, report.instrumentId, report.venuePositionId⟩
      match state.keys key with
      | none => (.noActiveLease key, state)
      | some entry =>
        (.applied,
          { state with keys := Function.update state.keys key (some (entry.observe report)) })

/-- `BoltV3PositionAuthorityLease::drop`. -/
def dropLease : PositionAuthorityFeedState :=
  match state.keys key with
  | none => state
  | some entry =>
    if 1 < entry.leaseCount then
      { state with
        keys := Function.update state.keys key
          (some { entry with leaseCount := entry.leaseCount - 1 }) }
    else { state with keys := Function.update state.keys key none }

variable (lease : BoltV3PositionAuthorityKey)

/-- `BoltV3PositionAuthorityLease::observation`. -/
def observation : Except FeedError PositionAuthorityKeyState :=
  match state.keys lease with
  | none => .error .leaseKeyInactive
  | some entry => .ok entry

/-- `BoltV3PositionAuthorityLease::coherent_generation`. -/
def coherentGeneration : Except FeedError (Option Nat) :=
  (state.observation lease).map fun entry =>
    match entry.authority with
    | .coherent snapshot => some snapshot.generation
    | _ => none

end PositionAuthorityFeedState

/-! ## Canonical positions -/

inductive OmsType
  | unspecified | netting | hedging

inductive PositionSide
  | noPositionSide | flat | long | short

/-- The fields of a cached position that the feed reads. -/
structure Position where
  (id accountId : String)
  instrumentId : InstrumentId
  side : PositionSide
  signedDecimalQty : Decimal
  tradeIds : List String
  isOpen : Bool

inductive BoltV3CanonicalPositionTargetScope
  | exact | ambiguousNettingAggregate
deriving DecidableEq

structure BoltV3CanonicalPositionAuthority where
  signedQuantity : Decimal
  side : PositionSideSpecified
  tradeIds : Finset String
  targetScope : BoltV3CanonicalPositionTargetScope

structure BoltV3PositionAuthorityCapability where
  (executionClientId accountId : String)
  omsType : OmsType

/-- The errors of `canonical_position`. -/
inductive CanonicalError
  | identityMismatch (positionId expectedAccount observedAccount : String)
      (expectedInstrument observedInstrument : InstrumentId)
  | noSpecifiedSide | unspecifiedOms

namespace BoltV3PositionAuthorityCapability

/-- `canonical_position`, of the positions in the cache. -/
def canonicalPosition (capability : BoltV3PositionAuthorityCapability) (cache : List Position)
    (positionId : String) (instrumentId : InstrumentId) :
    Except CanonicalError (Option BoltV3CanonicalPositionAuthority) := do
  let some position := cache.find? (·.id = positionId) | return none
  if position.accountId ≠ capability.accountId ∨ position.instrumentId ≠ instrumentId then
    throw (.identityMismatch positionId capability.accountId position.accountId instrumentId
      position.instrumentId)
  let side ←
    match position.side with
    | .long => pure PositionSideSpecified.long
    | .short => pure .short
    | .flat => pure .flat
    | .noPositionSide => throw .noSpecifiedSide
  let targetScope ←
    match capability.omsType with
    | .hedging => pure BoltV3CanonicalPositionTargetScope.exact
    | .netting =>
      let matchingOpenPositions := cache.filter fun other =>
        other.isOpen && other.instrumentId = instrumentId && other.accountId = capability.accountId
      match position.isOpen, matchingOpenPositions with
      | true, [onlyOpen] =>
        pure (if onlyOpen.id = positionId then .exact else .ambiguousNettingAggregate)
      | false, [] => pure .exact
      | _, _ => pure .ambiguousNettingAggregate
    | .unspecified => throw .unspecifiedOms
  return some ⟨position.signedDecimalQty, side, position.tradeIds.toFinset, targetScope⟩

end BoltV3PositionAuthorityCapability

/-! ## Entries and their reports -/

/-- Conflicts are for good. -/
def BoltV3PositionAuthorityLeaseState.isConflicted : BoltV3PositionAuthorityLeaseState → Bool
  | .conflicted _ => true
  | _ => false

/-- The generation of the last report that was accepted. -/
def BoltV3PositionAuthorityLeaseState.generation : BoltV3PositionAuthorityLeaseState → Nat
  | .coherent snapshot => snapshot.generation
  | _ => 0

namespace PositionAuthorityKeyState

variable (state : PositionAuthorityKeyState) (report : PositionStatusReport)

theorem observe_leaseCount : (state.observe report).leaseCount = state.leaseCount := by
  unfold observe
  dsimp only
  split
  · rfl
  · split_ifs
    · rfl
    · rfl
    · rfl
    · rfl
    · split <;> rfl
  · rfl

/-- **A report on an entry** is of no effect on the authority, or ends in a conflict, or is accepted
with the next generation. -/
theorem observe_cases :
    (state.observe report).authority = state.authority ∨
      (state.observe report).authority.isConflicted = true ∨
      (state.authority.isConflicted = false ∧ (state.observe report).authority =
        .coherent (report.snapshot (state.authority.generation + 1))) := by
  unfold observe
  dsimp only
  split
  · rename_i hauthority
    rw [hauthority]
    exact .inr (.inr ⟨rfl, rfl⟩)
  · rename_i current hauthority
    rw [hauthority]
    split_ifs
    · exact .inl hauthority
    · exact .inr (.inl rfl)
    · exact .inl rfl
    · exact .inr (.inl rfl)
    · split
      · rename_i generation hgeneration
        obtain ⟨-, rfl⟩ := checkedAdd_eq_some.mp hgeneration
        exact .inr (.inr ⟨rfl, rfl⟩)
      · exact .inr (.inl rfl)
  · exact .inl rfl

end PositionAuthorityKeyState

namespace PositionAuthorityFeedState

variable (state : PositionAuthorityFeedState) (key other : BoltV3PositionAuthorityKey)

/-- The leases that are counted at a key. -/
def leaseCount : Nat := (state.keys other).elim 0 PositionAuthorityKeyState.leaseCount

/-- What was reported of a key with leases. -/
def authority : BoltV3PositionAuthorityLeaseState :=
  (state.keys other).elim .awaiting PositionAuthorityKeyState.authority

theorem entry_update (entry : Option PositionAuthorityKeyState) :
    leaseCount { state with keys := Function.update state.keys key entry } other =
      (if other = key then entry.elim 0 PositionAuthorityKeyState.leaseCount
        else state.leaseCount other) ∧
    authority { state with keys := Function.update state.keys key entry } other =
      if other = key then entry.elim .awaiting PositionAuthorityKeyState.authority
      else state.authority other := by
  unfold leaseCount authority
  dsimp only
  rw [Function.update_apply]
  split_ifs <;> exact ⟨rfl, rfl⟩

variable {state key other}

/-- **A lease is counted, or there is none**, and what was reported stays. -/
theorem acquire_entry (state : PositionAuthorityFeedState) (key : BoltV3PositionAuthorityKey) :
    (∃ error, (state.acquire key).1 = .error error ∧
        ∀ other, (state.acquire key).2.leaseCount other = state.leaseCount other ∧
          (state.acquire key).2.authority other = state.authority other) ∨
      ((state.acquire key).1 = .ok key ∧ ∀ other, (state.acquire key).2.leaseCount other =
          state.leaseCount other + (if other = key then 1 else 0) ∧
        (state.acquire key).2.authority other = state.authority other) := by
  have hentry : ((state.keys key).getD ⟨0, .awaiting, none⟩).leaseCount = state.leaseCount key ∧
      ((state.keys key).getD ⟨0, .awaiting, none⟩).authority = state.authority key := by
    unfold leaseCount authority
    cases state.keys key <;> exact ⟨rfl, rfl⟩
  unfold acquire
  split
  · exact .inl ⟨_, rfl, fun _ => ⟨rfl, rfl⟩⟩
  · split_ifs
    · dsimp only
      split
      · refine .inl ⟨_, rfl, fun other => ?_⟩
        rw [(entry_update _ _ _ _).1, (entry_update _ _ _ _).2]
        split_ifs with hsame
        · rw [hsame]
          exact hentry
        · exact ⟨rfl, rfl⟩
      · rename_i leaseCount hadd
        obtain ⟨-, rfl⟩ := checkedAdd_eq_some.mp hadd
        refine .inr ⟨rfl, fun other => ?_⟩
        rw [(entry_update _ _ _ _).1, (entry_update _ _ _ _).2]
        split_ifs with hsame
        · rw [hsame, ← hentry.1]
          exact ⟨rfl, hentry.2⟩
        · exact ⟨rfl, rfl⟩
    · exact .inl ⟨_, rfl, fun _ => ⟨rfl, rfl⟩⟩

/-- **A lease that is dropped is not counted any more.** -/
theorem dropLease_count (h : 0 < state.leaseCount key) (other : BoltV3PositionAuthorityKey) :
    (state.dropLease key).leaseCount other =
      state.leaseCount other - if other = key then 1 else 0 := by
  rcases hentry : state.keys key with _ | entry
  · unfold leaseCount at h
    rw [hentry] at h
    exact absurd h (lt_irrefl 0)
  · have hcount : state.leaseCount key = entry.leaseCount := by
      unfold leaseCount
      rw [hentry]
      rfl
    unfold dropLease
    rw [hentry]
    dsimp only
    split_ifs with hmore hsame hsame
    · rw [(entry_update _ _ _ _).1, if_pos hsame, hsame, hcount]
      rfl
    · rw [(entry_update _ _ _ _).1, if_neg hsame]
      rfl
    · rw [(entry_update _ _ _ _).1, if_pos hsame, hsame, hcount]
      have hzero : entry.leaseCount - 1 = 0 := by omega
      rw [hzero]
      rfl
    · rw [(entry_update _ _ _ _).1, if_neg hsame]
      rfl

/-- While another lease is left, what was reported stays. -/
theorem dropLease_authority (h : other ≠ key ∨ 1 < state.leaseCount key) :
    (state.dropLease key).authority other = state.authority other := by
  rcases hentry : state.keys key with _ | entry
  · unfold dropLease
    rw [hentry]
  · have hcount : state.leaseCount key = entry.leaseCount := by
      unfold leaseCount
      rw [hentry]
      rfl
    have hauthority : state.authority key = entry.authority := by
      unfold authority
      rw [hentry]
      rfl
    rw [hcount] at h
    unfold dropLease
    rw [hentry]
    dsimp only
    split_ifs with hmore
    · rw [(entry_update _ _ _ _).2]
      split_ifs with hsame
      · rw [hsame, hauthority]
        rfl
      · rfl
    · rw [(entry_update _ _ _ _).2, if_neg (h.resolve_right hmore)]

theorem observe_count (state : PositionAuthorityFeedState) (report : PositionStatusReport)
    (other : BoltV3PositionAuthorityKey) :
    (state.observe report).2.leaseCount other = state.leaseCount other := by
  unfold observe
  split
  · rfl
  · split_ifs
    · rfl
    · dsimp only
      split
      · rfl
      · rename_i entry hentry
        rw [(entry_update _ _ _ _).1]
        split_ifs with hsame
        · unfold leaseCount
          rw [hsame, hentry]
          exact entry.observe_leaseCount report
        · rfl

/-- **A report** reaches the entry of a key, or not. -/
theorem observe_authority (state : PositionAuthorityFeedState) (report : PositionStatusReport)
    (other : BoltV3PositionAuthorityKey) :
    (state.observe report).2.authority other = state.authority other ∨
      ∃ entry, state.keys other = some entry ∧
        (state.observe report).2.authority other = (entry.observe report).authority := by
  unfold observe
  split
  · exact .inl rfl
  · split_ifs
    · exact .inl rfl
    · dsimp only
      split
      · exact .inl rfl
      · rename_i entry hentry
        rw [(entry_update _ _ _ _).2]
        split_ifs with hsame
        · exact .inr ⟨entry, hsame ▸ hentry, rfl⟩
        · exact .inl rfl

end PositionAuthorityFeedState

end BoltV3.Exit
