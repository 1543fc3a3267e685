import BoltV3.Lib.SortedMap
import Mathlib.Algebra.Order.Ring.Rat
import Mathlib.Data.List.MinMax

/-!
# The loss runtime feed

`LossGovernorRuntimeFeed` of `bolt_v3_loss_runtime_feed.rs` on position events and portfolio
snapshots: the bounded table of open positions with the worst PnL per trade, and the rolling PnL.

* An amount is a rational. The sums of the source panic where they overflow.
* What the events do to freshness, to the equity peak and to the published snapshot is left out, and
  so is the `refresh_per_trade_pnl_clock` of a snapshot: it moves the times of PnL values, or sets a
  baseline of zero while there was no position event.
-/

namespace BoltV3.Loss.RuntimeFeed

open Std (ExtTreeMap)

structure Money where
  amount : ℚ
  currency : String

structure TimedDecimal where
  value : ℚ
  observedAtNs : Nat
deriving DecidableEq

def worseTimedDecimal (current : Option TimedDecimal) (candidate : TimedDecimal) : TimedDecimal :=
  match current with
  | some current => if current.value ≤ candidate.value then current else candidate
  | none => candidate

structure LossGovernorRuntimeFeedConfig where
  accountId : String
  (rollingWindowNs activePositionPnlMaxEntries : Nat)

structure LossGovernorRuntimeFeedState where
  currency : Option String
  (previousDailyPnl previousTotalEquity : Option TimedDecimal)
  rollingSamples : List TimedDecimal
  (rollingPnl perTradePnl : Option TimedDecimal)
  activePositionPnls : ExtTreeMap String TimedDecimal
  (activePositionPnlOverflowFloor lastPositionPnl : Option TimedDecimal)

namespace LossGovernorRuntimeFeedState

def new : LossGovernorRuntimeFeedState := ⟨none, none, none, [], none, none, ∅, none, none⟩

variable (s : LossGovernorRuntimeFeedState)

/-- The state after `accept_currency`, if the currency is accepted. -/
def acceptCurrency (currency : String) : Option LossGovernorRuntimeFeedState :=
  match s.currency with
  | some existing => if existing = currency then some s else none
  | none => some { s with currency := some currency }

/-- The PnL that `refresh_effective_per_trade_pnl` takes the worst of. -/
def positionPnls : List TimedDecimal :=
  s.activePositionPnls.toList.map Prod.snd ++ s.activePositionPnlOverflowFloor.toList ++
    s.lastPositionPnl.toList

def refreshEffectivePerTradePnl : LossGovernorRuntimeFeedState :=
  match s.positionPnls.argmin TimedDecimal.value with
  | some worst => { s with perTradePnl := some worst }
  | none => s

/-- What `record_position_pnl` does to the table. -/
def recordActive (positionId : String) (positionPnl : TimedDecimal) (closed : Bool)
    (maxEntries : Nat) : LossGovernorRuntimeFeedState :=
  if closed then { s with activePositionPnls := s.activePositionPnls.erase positionId }
  else if positionId ∈ s.activePositionPnls ∨ s.activePositionPnls.size < maxEntries then
    { s with activePositionPnls := s.activePositionPnls.insert positionId positionPnl }
  else
    let floor := worseTimedDecimal s.activePositionPnlOverflowFloor positionPnl
    { s with activePositionPnlOverflowFloor := some floor }

def recordPositionPnl (positionId : String) (positionPnl : TimedDecimal) (closed reset : Bool)
    (maxEntries : Nat) : LossGovernorRuntimeFeedState :=
  { s.recordActive positionId positionPnl closed maxEntries with
    lastPositionPnl := if reset then none else some positionPnl }.refreshEffectivePerTradePnl

variable (dailyPnl currentEquity : ℚ)

/-- The sample of `update_rolling_pnl`. A daily PnL that is all of the equity difference was reset.
-/
def rollingDelta : Option ℚ :=
  s.previousDailyPnl.map fun previous =>
    match s.previousTotalEquity with
    | some previousEquity =>
      if dailyPnl - previous.value ≠ dailyPnl ∧ currentEquity - previousEquity.value = dailyPnl then
        dailyPnl
      else dailyPnl - previous.value
    | none => dailyPnl - previous.value

def updateRollingPnl (observedAtNs rollingWindowNs : Nat) : LossGovernorRuntimeFeedState :=
  let samples := s.rollingSamples ++
    ((s.rollingDelta dailyPnl currentEquity).map (⟨·, observedAtNs⟩)).toList
  let samples :=
    samples.dropWhile fun sample => sample.observedAtNs < observedAtNs - rollingWindowNs
  { s with
    previousDailyPnl := some ⟨dailyPnl, observedAtNs⟩
    previousTotalEquity := some ⟨currentEquity, observedAtNs⟩, rollingSamples := samples
    rollingPnl := some ⟨(samples.map TimedDecimal.value).sum, observedAtNs⟩ }

end LossGovernorRuntimeFeedState

/-! ## Position events -/

inductive PositionEvent
  | opened (accountId positionId currency : String) (tsEventNs : Nat)
  | changed (accountId positionId : String) (realizedPnl : Option Money) (unrealizedPnl : Money)
      (tsEventNs : Nat)
  | closed (accountId positionId : String) (realizedPnl : Option Money) (unrealizedPnl : Money)
      (tsEventNs : Nat)
  | adjusted (accountId positionId : String) (pnlChange : Option Money) (tsEventNs : Nat)

structure PositionPnlFact where
  (accountId positionId currency : String)
  perTradePnl : Option ℚ
  observedAtNs : Nat
  (closed resetCompletedPositionPnl : Bool)

def combinedPositionPnl (realizedPnl : Option Money) (unrealizedPnl : Money) : Option ℚ :=
  match realizedPnl with
  | some realized =>
    if realized.currency = unrealizedPnl.currency then some (realized.amount + unrealizedPnl.amount)
    else none
  | none => some unrealizedPnl.amount

def positionPnlFact : PositionEvent → Option PositionPnlFact
  | .opened accountId positionId currency tsEventNs =>
    some ⟨accountId, positionId, currency, some 0, tsEventNs, false, true⟩
  | .changed accountId positionId realizedPnl unrealizedPnl tsEventNs =>
    (combinedPositionPnl realizedPnl unrealizedPnl).map fun pnl =>
      ⟨accountId, positionId, unrealizedPnl.currency, some pnl, tsEventNs, false, false⟩
  | .closed accountId positionId realizedPnl unrealizedPnl tsEventNs =>
    (combinedPositionPnl realizedPnl unrealizedPnl).map fun pnl =>
      ⟨accountId, positionId, unrealizedPnl.currency, some pnl, tsEventNs, true, false⟩
  | .adjusted accountId positionId pnlChange tsEventNs => pnlChange.map fun change =>
      ⟨accountId, positionId, change.currency, none, tsEventNs, false, false⟩

variable (config : LossGovernorRuntimeFeedConfig) (s : LossGovernorRuntimeFeedState)

/-- What `on_position_event` makes of a fact. -/
def recordFact (fact : PositionPnlFact) : LossGovernorRuntimeFeedState :=
  match fact.perTradePnl with
  | some pnl => s.recordPositionPnl fact.positionId ⟨pnl, fact.observedAtNs⟩ fact.closed
      fact.resetCompletedPositionPnl config.activePositionPnlMaxEntries
  | none => s

def onPositionEvent (event : PositionEvent) : LossGovernorRuntimeFeedState :=
  match (positionPnlFact event).filter (·.accountId = config.accountId) with
  | none => s
  | some fact =>
    match s.acceptCurrency fact.currency with
    | none => s
    | some s => recordFact config s fact

/-! ## Portfolio snapshots -/

structure PortfolioSnapshot where
  accountId : String
  baseCurrency : Option String
  (realizedPnls unrealizedPnls totalEquity : List Money)
  tsEventNs : Nat

/-- `sum_money`, which is nothing where no amount has the currency. -/
def sumMoney (values : List Money) (currency : String) : Option ℚ :=
  match values.filter (·.currency = currency) with
  | [] => none
  | amounts => some (amounts.map Money.amount).sum

variable (snapshot : PortfolioSnapshot)

/-- `single_money_currency`: the one currency of all amounts. -/
def singleMoneyCurrency : Option String :=
  match snapshot.unrealizedPnls ++ snapshot.realizedPnls ++ snapshot.totalEquity with
  | [] => none
  | first :: rest =>
    if ∀ money ∈ rest, money.currency = first.currency then some first.currency else none

def portfolioCurrency : Option String := snapshot.baseCurrency.or (singleMoneyCurrency snapshot)

def dailyPnl (currency : String) : Option ℚ :=
  sumMoney (snapshot.realizedPnls ++ snapshot.unrealizedPnls) currency

def totalEquity (snapshot : PortfolioSnapshot) (currency : String) : Option ℚ :=
  sumMoney snapshot.totalEquity currency

/-- `on_portfolio_snapshot`. A currency that is accepted stays, also where an amount is missing. -/
def onPortfolioSnapshot : LossGovernorRuntimeFeedState :=
  if snapshot.accountId ≠ config.accountId then s
  else
    match portfolioCurrency snapshot with
    | none => s
    | some currency =>
      match s.acceptCurrency currency with
      | none => s
      | some s =>
        match dailyPnl snapshot currency, totalEquity snapshot currency with
        | some daily, some equity =>
          s.updateRollingPnl daily equity snapshot.tsEventNs config.rollingWindowNs
        | _, _ => s

end BoltV3.Loss.RuntimeFeed
