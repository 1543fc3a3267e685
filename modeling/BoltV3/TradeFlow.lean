import BoltV3.Lib.Rust
import BoltV3.Lib.SlidingWindow

/-!
# The trade-flow buffer

Model of `SignedTradeFlow` (`src/bolt_v3_trade_flow.rs`): the signed trades of one instrument,
bounded by a window and by a number of samples.

* `accepted` is the history that the buffer stands for, without a bound.
* `evict` drops from the front; its two loops are `dropWhile` and `rtake`.
* Prices and sizes are only carried, so they are of any type.
-/

namespace BoltV3.TradeFlow
open Lib SlidingWindow List

inductive AggressorSide
  | noAggressor | buyer | seller
deriving DecidableEq

/-- What `observe` reads of a `TradeTick`. -/
structure TradeTick (Value : Type) where
  tsEvent : Nat
  aggressorSide : AggressorSide
  (price size : Value)

structure SignedTrade (Value : Type) where
  tsMs : Nat
  aggressor : AggressorSide
  (price size : Value)
deriving DecidableEq

structure SignedTradeFlowConfig where
  (windowSecs maxSamples : Nat)

def SignedTradeFlowConfig.windowMs (config : SignedTradeFlowConfig) : Option Nat :=
  checkedMul u64Max config.windowSecs 1000

structure SignedTradeFlow (Value : Type) where
  (windowMs maxSamples : Nat)
  lastObservedNs : Option Nat
  samples : List (SignedTrade Value)

variable {Value : Type}

def TradeTick.signed (trade : TradeTick Value) : SignedTrade Value :=
  ⟨trade.tsEvent / 1000000, trade.aggressorSide, trade.price, trade.size⟩

/-- The filter of `samples_within`. -/
def SignedTrade.isWithin (windowMs nowMs : Nat) (trade : SignedTrade Value) : Bool :=
  nowMs - windowMs ≤ trade.tsMs && trade.tsMs ≤ nowMs

namespace SignedTradeFlow

def fromConfig (config : SignedTradeFlowConfig) : SignedTradeFlow Value :=
  ⟨config.windowMs.getD u64Max, config.maxSamples, none, []⟩

variable (flow : SignedTradeFlow Value)

def evict (nowMs : Nat) : SignedTradeFlow Value :=
  let samples := flow.samples.dropWhile fun trade => trade.tsMs < nowMs - flow.windowMs
  { flow with samples := samples.rtake flow.maxSamples }

def observe (trade : TradeTick Value) : SignedTradeFlow Value :=
  if flow.lastObservedNs.any (trade.tsEvent ≤ ·) then flow
  else
    { flow with
      lastObservedNs := some trade.tsEvent
      samples := flow.samples ++ [trade.signed] }.evict trade.signed.tsMs

def samplesWithin (nowMs : Nat) : List (SignedTrade Value) :=
  flow.samples.filter (·.isWithin flow.windowMs nowMs)

end SignedTradeFlow

/-- A trade is accepted when it is later than every accepted one before it. -/
def accept (history : List (TradeTick Value)) (trade : TradeTick Value) : List (TradeTick Value) :=
  if ∀ earlier ∈ history, earlier.tsEvent < trade.tsEvent then history ++ [trade] else history

def accepted (trades : List (TradeTick Value)) : List (TradeTick Value) :=
  trades.foldl accept []

/-- The millisecond of the last trade of a history. -/
def lastMs (history : List (TradeTick Value)) : Nat :=
  (history.getLast?.map (·.signed.tsMs)).getD 0

/-- What the buffer has of the accepted trades. -/
structure Holds (config : SignedTradeFlowConfig) (history : List (TradeTick Value))
    (flow : SignedTradeFlow Value) : Prop where
  window : flow.windowMs = config.windowMs.getD u64Max
  cap : flow.maxSamples = config.maxSamples
  ordered : history.Pairwise (·.tsEvent < ·.tsEvent)
  last : flow.lastObservedNs = history.getLast?.map (·.tsEvent)
  samples : flow.samples = ((history.map (·.signed)).rtake flow.maxSamples).filter
    fun trade => lastMs history - flow.windowMs ≤ trade.tsMs

variable {config : SignedTradeFlowConfig} {history : List (TradeTick Value)}
  {flow : SignedTradeFlow Value}

theorem ordered_signed (h : history.Pairwise (·.tsEvent < ·.tsEvent)) :
    (history.map (·.signed)).Pairwise (·.tsMs ≤ ·.tsMs) :=
  pairwise_map.mpr (h.imp fun hlt => Nat.div_le_div_right hlt.le)

/-- The last trade of a history is the latest. -/
theorem forall_lt_iff (h : history.Pairwise (·.tsEvent < ·.tsEvent)) (ns : Nat) :
    (∀ trade ∈ history, trade.tsEvent < ns) ↔ ∀ last ∈ history.getLast?, last.tsEvent < ns := by
  induction history using reverseRecOn with
  | nil => simp
  | append_singleton before last =>
    obtain ⟨-, -, hbefore⟩ := pairwise_append.mp h
    simp only [getLast?_concat, Option.mem_some_iff, forall_eq', forall_mem_append,
      forall_mem_singleton]
    exact ⟨And.right, fun hlt => ⟨fun trade ht => (hbefore trade ht last (by simp)).trans hlt, hlt⟩⟩

/-- **One trade**: the buffer is cut down to the window and the cap that end at it. -/
theorem Holds.observe (h : Holds config history flow) (trade : TradeTick Value) :
    Holds config (accept history trade) (flow.observe trade) := by
  have hlatest := forall_lt_iff h.ordered trade.tsEvent
  have hfresh : flow.lastObservedNs.any (trade.tsEvent ≤ ·) = false ↔
      ∀ earlier ∈ history, earlier.tsEvent < trade.tsEvent := by
    rw [hlatest, h.last]
    cases history.getLast? <;> simp
  unfold accept SignedTradeFlow.observe
  by_cases hlater : ∀ earlier ∈ history, earlier.tsEvent < trade.tsEvent
  · have hordered : (history ++ [trade]).Pairwise (·.tsEvent < ·.tsEvent) :=
      pairwise_append.mpr ⟨h.ordered, by simp, by simpa using hlater⟩
    have hcutoff : lastMs history ≤ trade.signed.tsMs := by
      unfold lastMs
      cases hlast : history.getLast? with
      | none => simp
      | some last => exact Nat.div_le_div_right (hlatest.mp hlater last hlast).le
    have hsamples := rtake_dropWhile_concat SignedTrade.tsMs flow.maxSamples
      (Nat.sub_le_sub_right hcutoff flow.windowMs) (by simpa using ordered_signed hordered)
    rw [← h.samples] at hsamples
    rw [if_pos hlater, hfresh.mpr hlater, if_neg (by simp)]
    refine ⟨h.window, h.cap, hordered, by simp [SignedTradeFlow.evict], ?_⟩
    simpa [SignedTradeFlow.evict, lastMs] using hsamples
  · rw [if_neg hlater, if_pos (by simpa using mt hfresh.mp hlater)]
    exact h

theorem observed_holds (config : SignedTradeFlowConfig) (trades : List (TradeTick Value)) :
    Holds config (accepted trades) (trades.foldl SignedTradeFlow.observe (.fromConfig config)) := by
  induction trades using reverseRecOn with
  | nil => exact ⟨rfl, rfl, .nil, rfl, by simp [SignedTradeFlow.fromConfig, accepted]⟩
  | append_singleton trades trade ih => simpa [accepted] using ih.observe trade

/-- **The buffer is the recent part of all accepted trades**: of the last `max_samples` those in the
window that ends at the last one. A reading at a later time is that of the unbounded history. -/
theorem buffer_is_recent_history (config : SignedTradeFlowConfig)
    (trades : List (TradeTick Value)) :
    let flow := trades.foldl SignedTradeFlow.observe (.fromConfig config)
    let history := (accepted trades).map (·.signed)
    let windowMs := config.windowMs.getD u64Max
    flow.samples = (history.rtake config.maxSamples).filter
        (fun trade => lastMs (accepted trades) - windowMs ≤ trade.tsMs) ∧
      ∀ nowMs, lastMs (accepted trades) ≤ nowMs → flow.samplesWithin nowMs =
        (history.filter (·.isWithin windowMs nowMs)).rtake config.maxSamples := by
  intro flow history windowMs
  have h : Holds config (accepted trades) flow := observed_holds config trades
  have hsamples := h.samples
  rw [h.window, h.cap] at hsamples
  refine ⟨hsamples, fun nowMs hnow => ?_⟩
  have hwithin : ∀ trade ∈ history,
      trade.isWithin windowMs nowMs = decide (nowMs - windowMs ≤ trade.tsMs) := by
    simp only [history, forall_mem_map, SignedTrade.isWithin]
    intro trade htrade
    have hlatest : ∀ last ∈ (accepted trades).getLast?, last.tsEvent < (nowMs + 1) * 1000000 := by
      intro last hlast
      simp only [lastMs, Option.mem_def.mp hlast, Option.map_some, Option.getD_some] at hnow
      exact Nat.lt_mul_of_div_lt (Nat.lt_succ_of_le hnow) (by decide)
    have hlt := (forall_lt_iff h.ordered _).mpr hlatest trade htrade
    have hle : trade.signed.tsMs ≤ nowMs := Nat.le_of_lt_succ (Nat.div_lt_of_lt_mul (by omega))
    simp [hle]
  rw [SignedTradeFlow.samplesWithin, h.window, hsamples, filter_congr hwithin,
    rtake_filter SignedTrade.tsMs _ _ (ordered_signed h.ordered), filter_filter]
  refine filter_congr fun trade htrade => ?_
  rw [hwithin trade (mem_of_mem_drop htrade)]
  by_cases hnew : nowMs - windowMs ≤ trade.tsMs
  · simp [hnew]; omega
  · simp [hnew]

/-- A trade that is repeated is accepted once, and is read until its window of a second ends. -/
theorem repeated_trade_is_read_once :
    let trade : TradeTick Nat := ⟨5000000, .buyer, 1, 2⟩
    let flow := [trade, trade].foldl SignedTradeFlow.observe (.fromConfig ⟨1, 4⟩)
    lastMs (accepted [trade, trade]) ≤ 1005 ∧ flow.samplesWithin 1005 = [trade.signed] := by
  have h := (buffer_is_recent_history ⟨1, 4⟩
    [⟨5000000, .buyer, 1, 2⟩, (⟨5000000, .buyer, 1, 2⟩ : TradeTick Nat)]).2 1005 (by decide)
  exact ⟨by decide, h.trans (by decide)⟩

end BoltV3.TradeFlow
