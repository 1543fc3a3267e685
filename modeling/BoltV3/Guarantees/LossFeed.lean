import BoltV3.Lib.SlidingWindow
import BoltV3.Loss.RuntimeFeed
import Mathlib.Data.List.Chain
import Mathlib.Order.Bounds.Basic

/-!
# What the loss runtime feed reports

The feed keeps the PnL of a bounded number of positions, and for the others the worst that was seen.
It infers a daily reset from two differences, of the daily PnL and of the equity.
-/

namespace BoltV3.Loss.RuntimeFeed

open Lib List
open Std (ExtTreeMap)
open LossGovernorRuntimeFeedState

/-! ## The worst PnL per trade -/

/-- A position event of the feed's account in its currency. -/
inductive PositionRecord
  | opened (positionId : String) (observedAtNs : Nat)
  | changed (positionId : String) (pnl : TimedDecimal)
  | closed (positionId : String) (pnl : TimedDecimal)

def PositionEvent.record : PositionEvent → Option PositionRecord
  | opened _ positionId _ tsEventNs => some (.opened positionId tsEventNs)
  | changed _ positionId realizedPnl unrealizedPnl tsEventNs =>
    (combinedPositionPnl realizedPnl unrealizedPnl).map fun pnl =>
      .changed positionId ⟨pnl, tsEventNs⟩
  | closed _ positionId realizedPnl unrealizedPnl tsEventNs =>
    (combinedPositionPnl realizedPnl unrealizedPnl).map fun pnl =>
      .closed positionId ⟨pnl, tsEventNs⟩
  | adjusted _ _ _ _ => none

/-- The events of an account in the currency of the feed, which the first of them gives. -/
def positionRecords (accountId : String) : Option String → List PositionEvent → List PositionRecord
  | _, [] => []
  | currency, event :: events =>
    match (positionPnlFact event).filter (·.accountId = accountId) with
    | none => positionRecords accountId currency events
    | some fact =>
      if currency.all (· = fact.currency) then
        event.record.toList ++ positionRecords accountId (some fact.currency) events
      else positionRecords accountId currency events

variable (records : List PositionRecord)

/-- The latest PnL of the open positions: the table without a bound. -/
def latestPnls : ExtTreeMap String TimedDecimal :=
  records.foldl (fun table record =>
    match record with
    | .opened positionId observedAtNs => table.insert positionId ⟨0, observedAtNs⟩
    | .changed positionId pnl => table.insert positionId pnl
    | .closed positionId _ => table.erase positionId) ∅

/-- The PnL of a close that was the last event. -/
def closedPnl : Option TimedDecimal :=
  match records.getLast? with
  | some (.closed _ pnl) => some pnl
  | _ => none

section

variable {maxEntries : Nat} {s : LossGovernorRuntimeFeedState} {past : List PositionRecord}
  {positionId : String} {pnl : TimedDecimal} {record : PositionRecord}

/-- `record_position_pnl` of an event. -/
def LossGovernorRuntimeFeedState.take (s : LossGovernorRuntimeFeedState) (maxEntries : Nat) :
    PositionRecord → LossGovernorRuntimeFeedState
  | .opened positionId observedAtNs =>
    s.recordPositionPnl positionId ⟨0, observedAtNs⟩ false true maxEntries
  | .changed positionId pnl => s.recordPositionPnl positionId pnl false false maxEntries
  | .closed positionId pnl => s.recordPositionPnl positionId pnl true false maxEntries

/-- What `last_position_pnl` is after an event. -/
def PositionRecord.lastPnl : PositionRecord → Option TimedDecimal
  | opened _ _ => none
  | changed _ pnl | closed _ pnl => some pnl

/-- What the feed keeps of the events so far. -/
structure Keeps (maxEntries : Nat) (past : List PositionRecord) (s : LossGovernorRuntimeFeedState) :
    Prop where
  covers : ∀ (positionId : String) (pnl : TimedDecimal), (latestPnls past)[positionId]? = some pnl →
    s.activePositionPnls[positionId]? = some pnl ∨
      ∃ floor, s.activePositionPnlOverflowFloor = some floor ∧ floor.value ≤ pnl.value
  fits : (∀ earlier, earlier <+: past → (latestPnls earlier).size ≤ maxEntries) →
    s.activePositionPnls = latestPnls past ∧ s.activePositionPnlOverflowFloor = none
  last : s.lastPositionPnl = past.getLast?.bind PositionRecord.lastPnl

/-- The PnL per trade is the worst that is kept. -/
def IsWorst (s : LossGovernorRuntimeFeedState) : Prop :=
  ∃ worst, s.perTradePnl = some worst ∧ worst ∈ s.positionPnls ∧
    ∀ pnl ∈ s.positionPnls, worst.value ≤ pnl.value

theorem mem_positionPnls : pnl ∈ s.positionPnls ↔
    (∃ positionId : String, s.activePositionPnls[positionId]? = some pnl) ∨
      s.activePositionPnlOverflowFloor = some pnl ∨ s.lastPositionPnl = some pnl := by
  unfold positionPnls
  simp only [mem_append, mem_map, Prod.exists, SortedMap.mem_toList, exists_eq_right,
    Option.mem_toList, or_assoc]

theorem isWorst_refresh (h : pnl ∈ s.positionPnls) : IsWorst s.refreshEffectivePerTradePnl := by
  unfold refreshEffectivePerTradePnl
  cases hworst : s.positionPnls.argmin TimedDecimal.value with
  | none =>
    rw [argmin_eq_none.mp hworst] at h
    cases h
  | some worst =>
    exact ⟨worst, rfl, argmin_mem hworst, fun other hother => le_of_mem_argmin hother hworst⟩

theorem worseTimedDecimal_le (current : Option TimedDecimal) (candidate : TimedDecimal) :
    (worseTimedDecimal current candidate).value ≤ candidate.value ∧
      ∀ floor, current = some floor →
        (worseTimedDecimal current candidate).value ≤ floor.value := by
  cases current with
  | none => exact ⟨le_rfl, nofun⟩
  | some floor =>
    simp only [worseTimedDecimal, Option.some.injEq, forall_eq']
    split_ifs with hle
    · exact ⟨hle, le_rfl⟩
    · exact ⟨le_rfl, (not_le.mp hle).le⟩

theorem latestPnls_append (past : List PositionRecord) (record : PositionRecord) :
    latestPnls (past ++ [record]) =
      match record with
      | .opened positionId observedAtNs => (latestPnls past).insert positionId ⟨0, observedAtNs⟩
      | .changed positionId pnl => (latestPnls past).insert positionId pnl
      | .closed positionId _ => (latestPnls past).erase positionId := by
  unfold latestPnls
  rw [foldl_append]
  rfl

theorem lastPnl_cases (h : past.getLast?.bind PositionRecord.lastPnl = some pnl) :
    closedPnl past = some pnl ∨
      ∃ positionId : String, (latestPnls past)[positionId]? = some pnl := by
  obtain ⟨record, hrecord, hpnl⟩ := Option.bind_eq_some_iff.mp h
  obtain ⟨before, rfl⟩ := getLast?_eq_some_iff.mp hrecord
  cases record with
  | opened positionId observedAtNs => cases hpnl
  | changed positionId pnl =>
    cases hpnl
    exact .inr ⟨positionId, by rw [latestPnls_append, SortedMap.getElem?_insert, if_pos rfl]⟩
  | closed positionId pnl =>
    refine .inl ?_
    unfold closedPnl
    rw [hrecord]
    exact hpnl

theorem lastPnl_of_closed (h : closedPnl past = some pnl) :
    past.getLast?.bind PositionRecord.lastPnl = some pnl := by
  unfold closedPnl at h
  split at h
  · rename_i hrecord
    rw [hrecord]
    exact h
  · cases h

/-- After an event there is PnL to take the worst of. -/
theorem Keeps.isWorst (h : Keeps maxEntries (past ++ [record]) s) :
    IsWorst s.refreshEffectivePerTradePnl := by
  have hopen : ∀ {positionId : String} {pnl : TimedDecimal},
      latestPnls (past ++ [record]) = (latestPnls past).insert positionId pnl →
      IsWorst s.refreshEffectivePerTradePnl := by
    intro positionId pnl hlatest
    rcases h.covers positionId pnl (by rw [hlatest, SortedMap.getElem?_insert, if_pos rfl]) with
      hactive | ⟨floor, hfloor, -⟩
    · exact isWorst_refresh (mem_positionPnls.mpr (.inl ⟨positionId, hactive⟩))
    · exact isWorst_refresh (mem_positionPnls.mpr (.inr (.inl hfloor)))
  have hlast := h.last
  rw [getLast?_concat] at hlast
  cases record with
  | opened positionId observedAtNs | changed positionId pnl => exact hopen (latestPnls_append _ _)
  | closed positionId pnl => exact isWorst_refresh (mem_positionPnls.mpr (.inr (.inr hlast)))

section

variable (h : Keeps maxEntries past s)

include h

theorem Keeps.refresh : Keeps maxEntries past s.refreshEffectivePerTradePnl := by
  unfold refreshEffectivePerTradePnl
  split
  · exact ⟨h.covers, h.fits, h.last⟩
  · exact h

theorem Keeps.fits_before
    (hfits : ∀ earlier, earlier <+: past ++ [record] → (latestPnls earlier).size ≤ maxEntries) :
    s.activePositionPnls = latestPnls past ∧ s.activePositionPnlOverflowFloor = none :=
  h.fits fun earlier hearlier => hfits earlier (hearlier.trans (prefix_append _ _))

/-- An event of an open position: it has room in the table, or its PnL goes into the floor. -/
theorem Keeps.open
    (hlatest : latestPnls (past ++ [record]) = (latestPnls past).insert positionId pnl) :
    Keeps maxEntries (past ++ [record])
      { s.recordActive positionId pnl false maxEntries with
        lastPositionPnl := record.lastPnl } := by
  have hlast : record.lastPnl = (past ++ [record]).getLast?.bind PositionRecord.lastPnl := by
    rw [getLast?_concat]
    rfl
  unfold recordActive
  rw [if_neg Bool.false_ne_true]
  split_ifs with hroom
  · refine ⟨fun other latest hentry => ?_, fun hfits => ?_, hlast⟩
    · rw [hlatest, SortedMap.getElem?_insert] at hentry
      rw [SortedMap.getElem?_insert]
      split_ifs at hentry ⊢
      · exact .inl hentry
      · exact h.covers other latest hentry
    · obtain ⟨hbefore, hnone⟩ := h.fits_before hfits
      exact ⟨by rw [hlatest, hbefore], hnone⟩
  · obtain ⟨hle, hfloors⟩ := worseTimedDecimal_le s.activePositionPnlOverflowFloor pnl
    refine ⟨fun other latest hentry => ?_, fun hfits => ?_, hlast⟩
    · rw [hlatest, SortedMap.getElem?_insert] at hentry
      split_ifs at hentry
      · cases hentry
        exact .inr ⟨_, rfl, hle⟩
      · refine (h.covers other latest hentry).imp id ?_
        rintro ⟨floor, hsome, hworse⟩
        exact ⟨_, rfl, (hfloors floor hsome).trans hworse⟩
    · have hsize := hfits _ prefix_rfl
      rw [hlatest, ← (h.fits_before hfits).1, ExtTreeMap.size_insert] at hsize
      split_ifs at hsize with hmem
      · exact absurd (.inl hmem) hroom
      · exact absurd (.inr hsize) hroom

theorem Keeps.close (positionId : String) (pnl : TimedDecimal) :
    Keeps maxEntries (past ++ [.closed positionId pnl])
      { s.recordActive positionId pnl true maxEntries with lastPositionPnl := some pnl } := by
  refine ⟨fun other latest hentry => ?_, fun hfits => ?_, ?_⟩
  · rw [latestPnls_append, SortedMap.getElem?_erase] at hentry
    change (s.activePositionPnls.erase positionId)[other]? = some latest ∨ _
    rw [SortedMap.getElem?_erase]
    split_ifs at hentry ⊢
    exact h.covers other latest hentry
  · obtain ⟨hbefore, hnone⟩ := h.fits_before hfits
    exact ⟨by rw [latestPnls_append, ← hbefore]; rfl, hnone⟩
  · rw [getLast?_concat]
    rfl

/-- **An event is kept**, and the PnL per trade is the worst after it. -/
theorem Keeps.take (record : PositionRecord) :
    Keeps maxEntries (past ++ [record]) (s.take maxEntries record) ∧
      IsWorst (s.take maxEntries record) := by
  cases record with
  | opened positionId observedAtNs =>
    have hkeeps := h.open (latestPnls_append past (.opened positionId observedAtNs))
    exact ⟨hkeeps.refresh, hkeeps.isWorst⟩
  | changed positionId pnl =>
    have hkeeps := h.open (latestPnls_append past (.changed positionId pnl))
    exact ⟨hkeeps.refresh, hkeeps.isWorst⟩
  | closed positionId pnl =>
    have hkeeps := h.close positionId pnl
    exact ⟨hkeeps.refresh, hkeeps.isWorst⟩

end

end

variable {config : LossGovernorRuntimeFeedConfig} {s : LossGovernorRuntimeFeedState}

theorem recordFact_eq {event : PositionEvent} {fact : PositionPnlFact}
    (h : positionPnlFact event = some fact) :
    recordFact config s fact =
      event.record.elim s (s.take config.activePositionPnlMaxEntries) := by
  cases event with
  | opened accountId positionId currency tsEventNs =>
    cases h
    rfl
  | changed accountId positionId realizedPnl unrealizedPnl tsEventNs
  | closed accountId positionId realizedPnl unrealizedPnl tsEventNs =>
    obtain ⟨pnl, hpnl, rfl⟩ := Option.map_eq_some_iff.mp h
    simp only [PositionEvent.record, hpnl]
    rfl
  | adjusted accountId positionId pnlChange tsEventNs =>
    obtain ⟨change, -, rfl⟩ := Option.map_eq_some_iff.mp h
    rfl

theorem take_currency (maxEntries : Nat) (record : PositionRecord) :
    (s.take maxEntries record).currency = s.currency := by
  have hrecord : ∀ positionId pnl closed reset,
      (s.recordPositionPnl positionId pnl closed reset maxEntries).currency = s.currency := by
    intro positionId pnl closed reset
    unfold recordPositionPnl refreshEffectivePerTradePnl recordActive
    split <;> dsimp only <;> split_ifs <;> rfl
  cases record <;> exact hrecord _ _ _ _

theorem acceptCurrency_eq (s : LossGovernorRuntimeFeedState) (currency : String) :
    s.acceptCurrency currency = if s.currency.all (· = currency) then
      some { s with currency := some currency } else none := by
  obtain ⟨existing, _⟩ := s
  cases existing with
  | none => rfl
  | some existing =>
    simp only [acceptCurrency, Option.all_some, decide_eq_true_eq]
    split_ifs with hsame
    · rw [hsame]
    · rfl

/-- The events of a run are kept. -/
theorem run_keeps (events : List PositionEvent) {past : List PositionRecord}
    (h : Keeps config.activePositionPnlMaxEntries past s) (hworst : past ≠ [] → IsWorst s) :
    Keeps config.activePositionPnlMaxEntries
        (past ++ positionRecords config.accountId s.currency events)
        (events.foldl (onPositionEvent config) s) ∧
      (past ++ positionRecords config.accountId s.currency events ≠ [] →
        IsWorst (events.foldl (onPositionEvent config) s)) := by
  induction events generalizing s past with
  | nil =>
    rw [positionRecords, append_nil]
    exact ⟨h, hworst⟩
  | cons event events ih =>
    rw [foldl_cons, onPositionEvent, positionRecords]
    cases hfact : (positionPnlFact event).filter (·.accountId = config.accountId) with
    | none => exact ih h hworst
    | some fact =>
      dsimp only
      rw [acceptCurrency_eq]
      split_ifs with hcurrency
      · have hs : Keeps config.activePositionPnlMaxEntries past
            { s with currency := some fact.currency } := ⟨h.covers, h.fits, h.last⟩
        dsimp only
        rw [recordFact_eq (Option.filter_eq_some_iff.mp hfact).1]
        cases event.record with
        | none => exact ih hs hworst
        | some record =>
          obtain ⟨hkeeps, hnext⟩ := hs.take record
          have hrest := ih hkeeps fun _ => hnext
          rw [take_currency, append_assoc] at hrest
          exact hrest
      · exact ih h hworst

/-- **The PnL per trade**: it is no better than the latest PnL of any open position, and as long as
the open positions fit into the table it is the worst of these and of a close that was the last
event. -/
theorem per_trade_pnl_is_worst (config : LossGovernorRuntimeFeedConfig)
    (events : List PositionEvent) :
    let s := events.foldl (onPositionEvent config) .new
    let records := positionRecords config.accountId none events
    (∀ (positionId : String) (pnl : TimedDecimal), (latestPnls records)[positionId]? = some pnl →
      ∃ worst, s.perTradePnl = some worst ∧ worst.value ≤ pnl.value) ∧
    ((∀ earlier, earlier <+: records →
        (latestPnls earlier).size ≤ config.activePositionPnlMaxEntries) → records ≠ [] →
      ∃ worst, s.perTradePnl = some worst ∧
        IsLeast {value | ∃ pnl : TimedDecimal, pnl.value = value ∧ (closedPnl records = some pnl ∨
          ∃ positionId : String, (latestPnls records)[positionId]? = some pnl)} worst.value) := by
  intro s records
  have hnew : Keeps config.activePositionPnlMaxEntries [] .new :=
    ⟨fun _ _ hentry => .inl hentry, fun _ => ⟨rfl, rfl⟩, rfl⟩
  obtain ⟨hkeeps, hworst⟩ : Keeps config.activePositionPnlMaxEntries records s ∧
      (records ≠ [] → IsWorst s) := run_keeps events hnew (absurd rfl)
  refine ⟨fun positionId pnl hentry => ?_, fun hfits hrecords => ?_⟩
  · have hrecords : records ≠ [] := by
      intro hnil
      rw [hnil] at hentry
      cases hentry
    obtain ⟨worst, hsome, -, hle⟩ := hworst hrecords
    refine ⟨worst, hsome, ?_⟩
    rcases hkeeps.covers positionId pnl hentry with hactive | ⟨floor, hfloor, hfloor_le⟩
    · exact hle pnl (mem_positionPnls.mpr (.inl ⟨positionId, hactive⟩))
    · exact (hle floor (mem_positionPnls.mpr (.inr (.inl hfloor)))).trans hfloor_le
  · obtain ⟨worst, hsome, hmem, hle⟩ := hworst hrecords
    obtain ⟨hactive, hfloor⟩ := hkeeps.fits hfits
    refine ⟨worst, hsome, ⟨worst, rfl, ?_⟩, ?_⟩
    · rw [mem_positionPnls, hactive, hfloor] at hmem
      rcases hmem with hopen | ⟨⟨⟩⟩ | hmem
      · exact .inr hopen
      · exact lastPnl_cases (hkeeps.last.symm.trans hmem)
    · rintro _ ⟨pnl, rfl, hclosed | ⟨positionId, hopen⟩⟩
      · exact hle pnl
          (mem_positionPnls.mpr (.inr (.inr (hkeeps.last.trans (lastPnl_of_closed hclosed)))))
      · exact hle pnl (mem_positionPnls.mpr (.inl ⟨positionId, by rw [hactive]; exact hopen⟩))

/-! ## The rolling PnL -/

/-- What a snapshot says in the currency of the feed. -/
structure Reading where
  (dailyPnl equity : ℚ)
  atNs : Nat
deriving DecidableEq

/-- The amounts of the snapshots of an account in the currency of the feed. -/
def readings (accountId : String) : Option String → List PortfolioSnapshot → List Reading
  | _, [] => []
  | currency, snapshot :: snapshots =>
    match portfolioCurrency snapshot with
    | some own =>
      if snapshot.accountId = accountId ∧ currency.all (· = own) then
        ((dailyPnl snapshot own).bind fun daily => (totalEquity snapshot own).map fun equity =>
          ⟨daily, equity, snapshot.tsEventNs⟩).toList ++ readings accountId (some own) snapshots
      else readings accountId currency snapshots
    | none => readings accountId currency snapshots

/-- The true increments: the equity differences of consecutive snapshots. -/
def increments : List Reading → List TimedDecimal
  | first :: second :: rest =>
    ⟨second.equity - first.equity, second.atNs⟩ :: increments (second :: rest)
  | _ => []

/-- Between two snapshots there was no reset, or no PnL before it. -/
def NoPnlBeforeReset (first second : Reading) : Prop :=
  second.dailyPnl - first.dailyPnl = second.equity - first.equity ∨
    second.dailyPnl = second.equity - first.equity

instance : DecidableRel NoPnlBeforeReset := fun _ _ => inferInstanceAs (Decidable (_ ∨ _))

/-- The times do not go back, and no reset has PnL before it. -/
def History (past : List Reading) : Prop :=
  past.Pairwise (·.atNs ≤ ·.atNs) ∧ past.IsChain NoPnlBeforeReset

/-- The rolling state after some snapshots. -/
def Rolled (windowNs : Nat) (past : List Reading) (s : LossGovernorRuntimeFeedState) : Prop :=
  match past.getLast? with
  | none => s.previousDailyPnl = none ∧ s.rollingSamples = []
  | some last =>
    s.previousDailyPnl = some ⟨last.dailyPnl, last.atNs⟩ ∧
      s.previousTotalEquity = some ⟨last.equity, last.atNs⟩ ∧
      s.rollingSamples = (increments past).filter (last.atNs - windowNs ≤ ·.observedAtNs) ∧
      s.rollingPnl = some ⟨(s.rollingSamples.map TimedDecimal.value).sum, last.atNs⟩

theorem increments_append (past : List Reading) (first second : Reading) :
    increments (past ++ [first] ++ [second]) =
      increments (past ++ [first]) ++ [⟨second.equity - first.equity, second.atNs⟩] := by
  induction past with
  | nil => rfl
  | cons head past ih =>
    cases past with
    | nil => rfl
    | cons next past => exact congrArg (cons _) ih

variable {past : List Reading}

theorem increments_ordered (h : past.Pairwise (·.atNs ≤ ·.atNs)) :
    (increments past).Pairwise (·.observedAtNs ≤ ·.observedAtNs) ∧
      ∀ first ∈ past.head?, ∀ increment ∈ increments past, first.atNs ≤ increment.observedAtNs := by
  induction past with
  | nil => exact ⟨.nil, nofun⟩
  | cons first past ih =>
    obtain ⟨hfirst, hpast⟩ := pairwise_cons.mp h
    cases past with
    | nil => exact ⟨.nil, nofun⟩
    | cons second past =>
      obtain ⟨hordered, hlater⟩ := ih hpast
      have hsecond := hfirst second mem_cons_self
      refine ⟨pairwise_cons.mpr ⟨hlater second rfl, hordered⟩, ?_⟩
      rintro _ ⟨⟩
      refine forall_mem_cons.mpr ⟨hsecond, fun increment hmem => ?_⟩
      exact hsecond.trans (hlater second rfl increment hmem)

theorem rollingDelta_eq {first second : Reading} (h : NoPnlBeforeReset first second)
    (hdaily : s.previousDailyPnl = some ⟨first.dailyPnl, first.atNs⟩)
    (hequity : s.previousTotalEquity = some ⟨first.equity, first.atNs⟩) :
    s.rollingDelta second.dailyPnl second.equity = some (second.equity - first.equity) := by
  simp only [rollingDelta, hdaily, hequity, Option.map_some, Option.some.injEq]
  split_ifs with hreset
  · exact hreset.2.symm
  · rcases h with hsame | hafter
    · exact hsame
    · have hnone := not_not.mp fun hne => hreset ⟨hne, hafter.symm⟩
      exact hnone.trans hafter

/-- **A snapshot adds its increment** and drops those that leave the window. -/
theorem Rolled.update {windowNs : Nat} {reading : Reading}
    (h : Rolled windowNs past s) (hhistory : History (past ++ [reading])) :
    Rolled windowNs (past ++ [reading])
      (s.updateRollingPnl reading.dailyPnl reading.equity reading.atNs windowNs) := by
  obtain ⟨hordered, hresets⟩ := hhistory
  unfold Rolled at h ⊢
  rw [getLast?_concat]
  refine ⟨rfl, rfl, ?_, rfl⟩
  unfold updateRollingPnl
  dsimp only
  cases hlast : past.getLast? with
  | none =>
    rw [hlast] at h
    rw [getLast?_eq_none_iff.mp hlast, h.2, rollingDelta, h.1]
    rfl
  | some last =>
    obtain ⟨before, rfl⟩ := getLast?_eq_some_iff.mp hlast
    rw [hlast] at h
    obtain ⟨hdaily, hequity, hsamples, -⟩ := h
    have hpair : NoPnlBeforeReset last reading := by
      rw [append_assoc] at hresets
      exact (isChain_cons_cons.mp hresets.right_of_append).1
    have hle : last.atNs ≤ reading.atNs :=
      (pairwise_append.mp hordered).2.2 last (by simp) reading (by simp)
    have hall := (increments_ordered hordered).1
    rw [increments_append] at hall ⊢
    rw [rollingDelta_eq hpair hdaily hequity, hsamples, Option.map_some, Option.toList_some,
      SlidingWindow.dropWhile_eq_filter TimedDecimal.observedAtNs
        (hall.sublist (filter_sublist.append_right _)),
      filter_append, filter_filter, filter_append]
    congr 1
    refine filter_congr fun increment _ => ?_
    have himplies : reading.atNs - windowNs ≤ increment.observedAtNs →
        last.atNs - windowNs ≤ increment.observedAtNs := (Nat.sub_le_sub_right hle windowNs).trans
    simpa using himplies

/-- The snapshots of a run are rolled in. -/
theorem run_rolled (snapshots : List PortfolioSnapshot)
    (h : History past → Rolled config.rollingWindowNs past s)
    (hhistory : History (past ++ readings config.accountId s.currency snapshots)) :
    Rolled config.rollingWindowNs (past ++ readings config.accountId s.currency snapshots)
      (snapshots.foldl (onPortfolioSnapshot config) s) := by
  revert hhistory
  induction snapshots generalizing s past with
  | nil =>
    rw [readings, append_nil]
    exact h
  | cons snapshot snapshots ih =>
    rw [foldl_cons, onPortfolioSnapshot, readings]
    cases portfolioCurrency snapshot with
    | none =>
      rw [ite_self]
      exact ih h
    | some own =>
      dsimp only
      rw [acceptCurrency_eq]
      by_cases haccount : snapshot.accountId = config.accountId
      · rw [if_neg (not_not.mpr haccount)]
        by_cases haccepted : s.currency.all (· = own)
        · rw [if_pos haccepted, if_pos ⟨haccount, haccepted⟩]
          have hs : History past →
              Rolled config.rollingWindowNs past { s with currency := some own } := h
          cases dailyPnl snapshot own with
          | none => exact ih hs
          | some daily =>
            cases totalEquity snapshot own with
            | none => exact ih hs
            | some equity =>
              rw [← append_assoc]
              have hnext :=
                fun hhistory : History (past ++ [⟨daily, equity, snapshot.tsEventNs⟩]) =>
                (hs ⟨hhistory.1.sublist (sublist_append_left _ _),
                  hhistory.2.left_of_append⟩).update hhistory
              exact ih hnext
        · rw [if_neg haccepted, if_neg fun hboth => haccepted hboth.2]
          exact ih h
      · rw [if_pos haccount, if_neg fun hboth => haccount hboth.1]
        exact ih h

/-- **The rolling PnL** is the sum of the increments in the window, where no reset has PnL between
the snapshot before it and itself. -/
theorem rolling_pnl_sums_increments (config : LossGovernorRuntimeFeedConfig)
    (snapshots : List PortfolioSnapshot) (past : List Reading) (last : Reading)
    (hreadings : readings config.accountId none snapshots = past ++ [last])
    (hhistory : History (past ++ [last])) :
    (snapshots.foldl (onPortfolioSnapshot config) .new).rollingPnl =
      some ⟨(((increments (past ++ [last])).filter
        (last.atNs - config.rollingWindowNs ≤ ·.observedAtNs)).map TimedDecimal.value).sum,
          last.atNs⟩ := by
  rw [← hreadings] at hhistory
  have hnew : History [] → Rolled config.rollingWindowNs [] .new := fun _ => And.intro rfl rfl
  have hrolled : Rolled config.rollingWindowNs (readings config.accountId none snapshots)
      (snapshots.foldl (onPortfolioSnapshot config) .new) := run_rolled snapshots hnew hhistory
  unfold Rolled at hrolled
  rw [hreadings, getLast?_concat] at hrolled
  obtain ⟨-, -, hsamples, hpnl⟩ := hrolled
  rw [hpnl, hsamples]

/-- The snapshots of an account at times 1 and 2. -/
private def twoSnapshots (daily equity : ℚ) : List PortfolioSnapshot :=
  [⟨"A", none, [], [⟨-10, "USD"⟩], [⟨90, "USD"⟩], 1⟩,
    ⟨"A", none, [], [⟨daily, "USD"⟩], [⟨equity, "USD"⟩], 2⟩]

/-- A loss of 3 after a reset, with no PnL before it. -/
theorem reset_loss_is_rolled :
    ((twoSnapshots (-3) 87).foldl (onPortfolioSnapshot ⟨"A", 10, 4⟩) .new).rollingPnl =
      some ⟨-3, 2⟩ :=
  (rolling_pnl_sums_increments ⟨"A", 10, 4⟩ (twoSnapshots (-3) 87) [⟨-10, 90, 1⟩] ⟨-3, 87, 2⟩
    (by decide +kernel) ⟨by decide, by decide +kernel⟩).trans (by decide +kernel)

/-- **A loss reads as a gain**: a loss of 5 before a reset and of 3 after it is a PnL of 7. -/
theorem loss_reads_as_gain :
    ((twoSnapshots (-3) 82).foldl (onPortfolioSnapshot ⟨"A", 10, 4⟩) .new).rollingPnl =
      some ⟨7, 2⟩ ∧ increments (readings "A" none (twoSnapshots (-3) 82)) = [⟨-8, 2⟩] := by
  decide +kernel

end BoltV3.Loss.RuntimeFeed
