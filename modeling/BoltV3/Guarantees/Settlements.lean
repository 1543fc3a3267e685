import BoltV3.Lib.Machine
import BoltV3.Taker.Rule

/-!
# Settlements happen once

A settlement makes an outcome durable, then notes its key in memory, and then releases the exposure.
The handlers run here over restarts: a journal keeps everything that was done, and a restart
rebuilds the keys from the outcomes in it.

* An append succeeds or fails as a whole (`TakerView.appends`), and the loss governor takes a result
  or not (`TakerView.runtimeEffects`); both are arbitrary.
* A bootstrap is given the replay of the durable outcomes, and positions that include every one that
  has an outcome. It may fail in any way.
* Unless the owner is blind, the keys in memory are those of the durable outcomes (`Books.known`); a
  blind owner has no managed position, so it settles nothing.
-/

namespace BoltV3.Taker

open Lib SortedMap SettlementRecoveryFacts TakerState List

/-! ## The journal -/

/-- The outcome that an effect makes durable. -/
def TakerEffect.outcome : TakerEffect → Option RecoveredSettlementOutcome
  | .durable outcome => some outcome
  | _ => none

variable (outcome : RecoveredSettlementOutcome) (journal effects more : List TakerEffect)

/-- The durable outcomes, in order. -/
def durables : List RecoveredSettlementOutcome := effects.filterMap TakerEffect.outcome

def durableKeys : List String := (durables effects).map (·.settlementKey)

/-- An effect is in order, after the journal and what the handler did before: the exposure is
released for a key that is durable, and nothing is booked, fetched or reported again for such a key.
-/
def InOrder (start : ExposureOwner) (before : List TakerEffect) :
    TakerEffect → Prop
  | .exposure .observeSettlement =>
    ∃ position key,
      (start.applyAll (before.filterMap TakerEffect.exposureCall)).state.managedPositionContext =
        some position ∧
      position.settlementKey = some key ∧ key ∈ durableKeys (journal ++ before)
  | .exposure _ => True
  | .durable outcome => outcome.settlementKey ∉ durableKeys (journal ++ before)
  | .closeFetch key => key ∉ durableKeys (journal ++ before)
  | .health key => key ∉ durableKeys journal ∧ .health key ∉ before

/-- The taker, and what was done so far. -/
structure SettlementSystem where
  journal : List TakerEffect
  taker : TakerState

inductive SettlementStep
  | event (event : TakerEvent)
  | restart (bootstrap selection : TakerView)

/-- What the durable stream says at a bootstrap. -/
structure Recovers (journal : List TakerEffect) (view : TakerView) : Prop where
  settlements : view.settlementRecovery = replay ⟨∅⟩ (durables journal)
  bookings : view.bookingRecovery = some (BookingRecoveryFacts.replay (durables journal))
  scope : ∀ openPositions closedPositions,
    view.cachedPositions = some (openPositions, closedPositions) →
    ∀ key ∈ durableKeys journal, ∃ position ∈ openPositions ++ closedPositions,
      settlementKeyForPosition position = some key

/-- The event of a step. -/
def SettlementStep.takerEvent : SettlementStep → TakerEvent
  | .event takerEvent => takerEvent
  | .restart bootstrap selection => .start bootstrap selection

namespace SettlementSystem

def new : SettlementSystem := ⟨[], .new⟩

/-- The taker that handles a step: a new one after a restart. -/
def handler (s : SettlementSystem) : SettlementStep → TakerState
  | .event _ => { s.taker with effects := [] }
  | .restart _ _ => .new

/-- The taker after a step, with the effects of that step. -/
def handled (s : SettlementSystem) (step : SettlementStep) : TakerState :=
  (s.handler step).handle step.takerEvent

/-- A step of the strategy, whose bootstraps are given the durable stream. -/
structure Step (strategyId : String) (s : SettlementSystem) (step : SettlementStep)
    (t : SettlementSystem) : Prop where
  next : t = ⟨s.journal ++ (s.handled step).effects, s.handled step⟩
  strategy : ∀ view ∈ step.takerEvent.views, view.strategyId = strategyId
  recovers : ∀ bootstrap selection, step.takerEvent = .start bootstrap selection →
    Recovers s.journal bootstrap

end SettlementSystem

/-! ## The books -/

/-- What a handler did so far is in order, and the keys in memory are durable. -/
structure Ledger (strategyId : String) (journal : List TakerEffect) (start : ExposureOwner)
    (s : TakerState) : Prop where
  conforms : Conforms .unrestricted start s
  inOrder : ∀ before effect after, s.effects = before ++ effect :: after →
    InOrder journal start before effect
  once : (durableKeys (journal ++ s.effects)).Nodup
  durable : ∀ key, key ∈ s.settledPositionKeys ∨ key ∈ s.settlementBookingErrorKeys →
    key ∈ durableKeys (journal ++ s.effects)
  reported : ∀ key, .health key ∈ s.effects → key ∈ durableKeys (journal ++ s.effects)
  strategy : ∀ outcome ∈ durables (journal ++ s.effects), outcome.strategyId = strategyId

/-- Every durable key is in memory. -/
def Noted (s : TakerState) : Prop :=
  ∀ key ∈ durableKeys (journal ++ s.effects),
    key ∈ s.settledPositionKeys ∨ key ∈ s.settlementBookingErrorKeys

/-- The ledger of a taker that knows the durable keys, unless it is blind. -/
structure Books (strategyId : String) (journal : List TakerEffect) (start : ExposureOwner)
    (s : TakerState) : Prop extends Ledger strategyId journal start s where
  known : s.exposure.isBlindRecovery = false → Noted journal s

theorem durables_append : durables (effects ++ more) = durables effects ++ durables more :=
  filterMap_append

theorem durableKeys_append :
    durableKeys (effects ++ more) = durableKeys effects ++ durableKeys more := by
  unfold durableKeys
  rw [durables_append, map_append]

/-- An effect that makes nothing durable leaves the durable outcomes. -/
theorem durables_snoc {effect : TakerEffect} (h : effect.outcome = none)
    (journal effects : List TakerEffect) :
    durables (journal ++ (effects ++ [effect])) = durables (journal ++ effects) := by
  simp [durables, h]

theorem durableKeys_snoc {effect : TakerEffect} (h : effect.outcome = none)
    (journal effects : List TakerEffect) :
    durableKeys (journal ++ (effects ++ [effect])) = durableKeys (journal ++ effects) := by
  unfold durableKeys
  rw [durables_snoc h]

theorem durables_snoc_durable :
    durables (journal ++ (effects ++ [.durable outcome])) =
      durables (journal ++ effects) ++ [outcome] := by
  simp [durables, TakerEffect.outcome]

theorem durableKeys_snoc_durable :
    durableKeys (journal ++ (effects ++ [.durable outcome])) =
      durableKeys (journal ++ effects) ++ [outcome.settlementKey] := by
  unfold durableKeys
  rw [durables_snoc_durable, map_append]
  rfl

/-- The last effect is in order, and so are those before it. -/
theorem inOrder_snoc {journal effects : List TakerEffect} {start : ExposureOwner}
    {last : TakerEffect}
    (h : ∀ before effect after, effects = before ++ effect :: after →
      InOrder journal start before effect) (hlast : InOrder journal start effects last) :
    ∀ before effect after, effects ++ [last] = before ++ effect :: after →
      InOrder journal start before effect := by
  intro before effect after hsplit
  rcases eq_nil_or_concat after with rfl | ⟨front, back, rfl⟩
  · obtain ⟨rfl, hsame⟩ := append_inj' hsplit rfl
    cases hsame
    exact hlast
  · have hshift : effects ++ [last] = (before ++ effect :: front) ++ [back] := by
      rw [hsplit]
      simp
    exact h before effect front (append_inj' hshift rfl).1

/-- A managed position is one of a state that is not blind. -/
theorem TakerState.Unsettled.notBlind {s : TakerState} {key : String} (h : s.Unsettled key) :
    s.exposure.isBlindRecovery = false := by
  obtain ⟨position, hposition, -⟩ := h.managed
  unfold ExposureOwner.isBlindRecovery
  split
  · rename_i reason hstate
    rw [hstate] at hposition
    cases hposition
  · rfl

namespace Books

variable {journal} {strategyId : String} {start : ExposureOwner} {s : TakerState} {view : TakerView}
  {key : String}

/-- The key of an unsettled position has no durable outcome. -/
theorem fresh (h : Books strategyId journal start s) (hkey : s.Unsettled key) :
    key ∉ durableKeys (journal ++ s.effects) := by
  intro hmem
  rcases h.known hkey.notBlind key hmem with hsettled | herror
  · exact hkey.notSettled hsettled
  · exact hkey.notError herror

/-- The books after a call that is in order, if every durable key is noted once the owner is not
blind. -/
theorem of_call (h : Ledger strategyId journal start s) {c : ExposureCall}
    (hallowed : Discipline.unrestricted.Allows s.exposure c)
    (horder : InOrder journal start s.effects (.exposure c))
    (hknown : (s.exposure.apply c).isBlindRecovery = false → Noted journal s) :
    Books strategyId journal start (s.call c) where
  conforms := h.conforms.call hallowed
  inOrder := inOrder_snoc h.inOrder horder
  once := by
    simp only [call]
    rw [durableKeys_snoc rfl]
    exact h.once
  durable := by
    simp only [call]
    rw [durableKeys_snoc rfl]
    exact h.durable
  reported key hmem := by
    simp only [call] at *
    rw [durableKeys_snoc rfl]
    exact h.reported key (by simpa using hmem)
  strategy := by
    simp only [call]
    rw [durables_snoc rfl]
    exact h.strategy
  known hnot := by
    simp only [Noted, call]
    rw [durableKeys_snoc rfl]
    exact hknown hnot

/-- Nothing need be known in blind recovery. -/
theorem of_blind (h : Ledger strategyId journal start s) (reason : BlindRecoveryReason) :
    Books strategyId journal start (s.call (.enterBlindRecovery reason)) :=
  of_call h trivial trivial nofun

theorem callRule : CallRule .unrestricted (Books strategyId journal start) where
  current _ _ := trivial
  call {s c} h hallowed hplain := by
    refine of_call h.toLedger hallowed ?_ ?_
    · cases c with
      | observeSettlement => cases hplain
      | _ => trivial
    · intro hafter
      refine h.known ?_
      by_contra hbefore
      have hclean : c ≠ .observeCleanStart := by
        rintro rfl
        cases hplain
      have hstays := (ExposureOwner.apply_blind (Bool.not_eq_false _ ▸ hbefore) hallowed hclean).1
      rw [hstays] at hafter
      cases hafter

section

variable (h : Books strategyId journal start s)

include h

/-- An outcome of an unsettled key is made durable, and the key is noted. -/
theorem noted {t : TakerState}
    (outcome : RecoveredSettlementOutcome) (hkey : s.Unsettled outcome.settlementKey)
    (hstrategy : outcome.strategyId = strategyId) (howner : t.exposure = s.exposure)
    (heffects : t.effects = s.effects ++ [.durable outcome])
    (hkeys : ∀ key, (key ∈ t.settledPositionKeys ∨ key ∈ t.settlementBookingErrorKeys) ↔
      key = outcome.settlementKey ∨ key ∈ s.settledPositionKeys ∨
        key ∈ s.settlementBookingErrorKeys) :
    Books strategyId journal start t where
  conforms := h.conforms.congr howner (by
    simp [calls, heffects, TakerEffect.exposureCall])
  inOrder := by
    rw [heffects]
    exact inOrder_snoc h.inOrder (h.fresh hkey)
  once := by
    rw [heffects, durableKeys_snoc_durable, nodup_append]
    refine ⟨h.once, nodup_singleton _, ?_⟩
    rintro key hmem other hother rfl
    rw [mem_singleton] at hother
    exact h.fresh hkey (hother ▸ hmem)
  known hnot key hmem := by
    rw [howner] at hnot
    rw [heffects, durableKeys_snoc_durable, mem_append, mem_singleton] at hmem
    rw [hkeys]
    rcases hmem with hold | rfl
    · exact .inr (h.known hnot key hold)
    · exact .inl rfl
  durable key hmem := by
    rw [heffects, durableKeys_snoc_durable, mem_append, mem_singleton]
    rcases (hkeys key).mp hmem with rfl | hold
    · exact .inr rfl
    · exact .inl (h.durable key hold)
  reported key hmem := by
    rw [heffects, mem_append] at hmem
    rw [heffects, durableKeys_snoc_durable, mem_append]
    rcases hmem with hold | hnew
    · exact .inl (h.reported key hold)
    · cases mem_singleton.mp hnew
  strategy other hmem := by
    rw [heffects, durables_snoc_durable, mem_append, mem_singleton] at hmem
    rcases hmem with hold | rfl
    · exact h.strategy other hold
    · exact hstrategy

theorem settlement {position : ManagedPositionContext}
    (hposition : s.exposure.state.managedPositionContext = some position)
    (hkey : position.settlementKey = some key)
    (hnoted : key ∈ s.settledPositionKeys ∨ key ∈ s.settlementBookingErrorKeys) :
    Books strategyId journal start (s.call .observeSettlement) := by
  refine of_call h.toLedger trivial ⟨position, key, ?_, hkey, h.durable key hnoted⟩ fun _ =>
    h.known ?_
  · rw [h.conforms.owner] at hposition
    exact hposition
  · unfold ExposureOwner.isBlindRecovery
    split
    · rename_i reason hstate
      rw [hstate] at hposition
      cases hposition
    · rfl

/-- An effect that is in order and touches neither the owner nor the durable outcomes. -/
theorem record {effect : TakerEffect}
    (hcall : effect.exposureCall = none) (houtcome : effect.outcome = none)
    (horder : InOrder journal start s.effects effect)
    (hhealth : ∀ key, effect = .health key → key ∈ durableKeys (journal ++ s.effects)) :
    Books strategyId journal start (s.record effect) where
  conforms := h.conforms.record effect hcall
  inOrder := inOrder_snoc h.inOrder horder
  once := by
    simp only [TakerState.record]
    rw [durableKeys_snoc houtcome]
    exact h.once
  known := by
    simp only [Noted, TakerState.record]
    rw [durableKeys_snoc houtcome]
    exact h.known
  durable := by
    simp only [TakerState.record]
    rw [durableKeys_snoc houtcome]
    exact h.durable
  reported key hmem := by
    simp only [TakerState.record, mem_append, mem_singleton] at *
    rw [durableKeys_snoc houtcome]
    rcases hmem with hold | hnew
    · exact h.reported key hold
    · exact hhealth key hnew.symm
  strategy := by
    simp only [TakerState.record]
    rw [durables_snoc houtcome]
    exact h.strategy

/-- The release of an exposure whose key is noted: no report, and the outcome stays durable. -/
theorem released (hmanaged : ∃ position, s.exposure.state.managedPositionContext = some position ∧
      position.settlementKey = some key)
    (hnoted : key ∈ s.settledPositionKeys ∨ key ∈ s.settlementBookingErrorKeys)
    (hunreported : .health key ∉ s.effects) :
    Books strategyId journal start (s.releaseBySettlement view) ∧
      .health key ∉ (s.releaseBySettlement view).effects ∧
      key ∈ durableKeys (journal ++ (s.releaseBySettlement view).effects) := by
  obtain ⟨position, hposition, hkey⟩ := hmanaged
  have hcalls : ∀ effects c, (.health key ∉ effects ∧ key ∈ durableKeys (journal ++ effects)) →
      .health key ∉ effects ++ [TakerEffect.exposure c] ∧
        key ∈ durableKeys (journal ++ (effects ++ [.exposure c])) := by
    intro effects c hboth
    rw [durableKeys_snoc rfl]
    exact ⟨by simpa using hboth.1, hboth.2⟩
  exact (callRule.andEffects hcalls).releaseSettlement
    ⟨h.settlement hposition hkey hnoted, hcalls _ _ ⟨hunreported, h.durable key hnoted⟩⟩

theorem terminal (hview : view.strategyId = strategyId)
    {transition : SettlementBookingErrorTransition} {fact : TerminalSettlementFact}
    (hkey : s.Unsettled fact.settlementKey)
    (hstrategy : fact.bookingError.strategyId = view.strategyId)
    (hdelta : transition.keyDelta = ⟨fact.settlementKey, true, true, true⟩) :
    Books strategyId journal start
      (s.applyTerminalSettlementTransition view transition fact).2 := by
  have hfresh := h.fresh hkey
  have hnoted : Books strategyId journal start
      ((s.record (.durable (.bookingTerminal fact))).applyKeyDelta transition.keyDelta) := by
    refine h.noted (.bookingTerminal fact) hkey (hstrategy.trans hview) rfl rfl fun key => ?_
    simp only [TakerState.applyKeyDelta, hdelta, TakerState.record, if_true, Finset.mem_insert]
    exact or_left_comm
  have hunreported :
      .health fact.settlementKey ∉ s.effects ++ [.durable (.bookingTerminal fact)] := by
    simp only [mem_append, mem_singleton, reduceCtorEq, or_false]
    exact fun hhealth => hfresh (h.reported _ hhealth)
  have hmem : fact.settlementKey ∈ ((s.record (.durable (.bookingTerminal fact))).applyKeyDelta
      transition.keyDelta).settlementBookingErrorKeys := by
    simp [applyKeyDelta, hdelta]
  obtain ⟨hreleased, hnohealth, hdurable⟩ := hnoted.released hkey.managed (.inr hmem) hunreported
  unfold applyTerminalSettlementTransition
  split_ifs
  · exact h
  · refine hreleased.record rfl rfl ⟨fun hmem => hfresh ?_, hnohealth⟩ ?_
    · rw [durableKeys_append]
      exact mem_append_left _ hmem
    · intro key hsame
      cases hsame
      exact hdurable
  · exact hreleased

theorem book (hview : view.strategyId = strategyId)
    {booking : ResolutionSettlementBooking} (position : OpenPositionState) (tsEventNs : Nat)
    (hkey : s.Unsettled booking.settlementKey)
    (hdelta : booking.keyDelta = ⟨booking.settlementKey, false, false, true⟩) :
    Books strategyId journal start (s.bookSettlement view position booking tsEventNs) := by
  unfold bookSettlement
  split
  · exact h
  · rename_i productId _
    dsimp only
    generalize hfact : settlementEvidence view position booking
      (position.lifecycle.marketId.getD "") productId ((view.capability.bind (·.currency)).getD "")
      tsEventNs = fact
    have hsame : fact.settlementKey = booking.settlementKey := by rw [← hfact]; rfl
    have hstrategy : fact.strategyId = strategyId := by rw [← hfact]; exact hview
    have hnoted : Books strategyId journal start
        (((s.record (.durable (.successful fact))).insertSettledPositionKey
          booking.settlementKey).applyKeyDelta booking.keyDelta) := by
      rw [← hsame] at hkey
      refine h.noted (.successful fact) hkey hstrategy rfl rfl fun key => ?_
      simp only [applyKeyDelta, hdelta, insertSettledPositionKey,
        TakerState.record, Finset.mem_insert, ← hsame]
      exact or_assoc
    have hunreported :
        .health booking.settlementKey ∉ s.effects ++ [.durable (.successful fact)] := by
      simp only [mem_append, mem_singleton, reduceCtorEq, or_false]
      exact fun hhealth => h.fresh hkey (h.reported _ hhealth)
    split_ifs
    · exact h
    · exact (hnoted.released hkey.managed (.inl (Finset.mem_insert_self _ _)) hunreported).1
    · exact callRule.call hnoted trivial rfl

end

/-- **Every handler keeps the books.** -/
theorem rule : HandlerRule .unrestricted (·.strategyId = strategyId)
    (Books strategyId journal start) where
  toCallRule := callRule
  attempt _ _ h :=
    ⟨⟨h.conforms.congr rfl rfl, h.inOrder, h.once, h.durable, h.reported, h.strategy⟩,
    h.known⟩
  closeFetch h hkey := h.record rfl rfl (h.fresh hkey) nofun
  terminal hview h hkey hstrategy hdelta := h.terminal hview hkey hstrategy hdelta
  book position tsEventNs hview h hkey hdelta := h.book hview position tsEventNs hkey hdelta

/-! ### The bootstrap -/

/-- The keys of a recovery that succeeds are those of the durable outcomes. -/
theorem recovered_keys (h : Ledger strategyId journal start s) (hempty : s.effects = [])
    (hrecovers : Recovers journal view) {recovery : SettlementRecoveryFacts}
    (hreplay : view.settlementRecovery = some recovery)
    (hlookup : ∀ key outcome, recovery.outcomes[key]? = some outcome ↔
      outcome ∈ durables journal ∧ outcome.settlementKey = key)
    {scope : Finset String} (hscope : ∀ key ∈ durableKeys journal, key ∈ scope)
    {delta : SettlementRecoveryDelta}
    (hdelta : recoverSettlementFacts view.settlementRecovery strategyId scope = some delta)
    (key : String) :
    (key ∈ delta.settledPositionKeys ∨
      key ∈ (recoverBookingFacts view.bookingRecovery scope).bookingErrorKeys) ↔
      key ∈ durableKeys journal := by
  rw [hreplay] at hdelta
  rw [mem_recoverSettlementFacts hdelta, hrecovers.bookings]
  simp only [recoverBookingFacts, Finset.mem_inter, BookingRecoveryFacts.mem_replay]
  have hstrategy : ∀ outcome ∈ durables journal, outcome.strategyId = strategyId := by
    have hall := h.strategy
    rwa [hempty, append_nil] at hall
  constructor
  · rintro (⟨outcome, hfound, -, -⟩ | ⟨⟨outcome, hmem, rfl, -⟩, -⟩)
    · obtain ⟨hmem, rfl⟩ := (hlookup key outcome).mp hfound
      exact mem_map_of_mem hmem
    · exact mem_map_of_mem hmem
  · intro hkey
    obtain ⟨outcome, hmem, rfl⟩ := mem_map.mp hkey
    cases hsuccess : outcome.isSuccessful with
    | true => exact .inl ⟨outcome, (hlookup _ _).mpr ⟨hmem, rfl⟩, hstrategy outcome hmem, hsuccess⟩
    | false => exact .inr ⟨⟨outcome, hmem, rfl, hsuccess⟩, hscope _ hkey⟩

/-- A recovery fails into blind recovery, or every durable key is noted. -/
theorem recoverSettlements (h : Ledger strategyId journal start s) (hempty : s.effects = [])
    (hview : view.strategyId = strategyId) (hrecovers : Recovers journal view)
    {positions : List OpenPositionState}
    (hscope : ∀ key ∈ durableKeys journal, ∃ position ∈ positions,
      settlementKeyForPosition position = some key) :
    Books strategyId journal start (s.recoverSettlementBootstrapFromScope view positions).2 ∧
      ((s.recoverSettlementBootstrapFromScope view positions).1 →
        Noted journal (s.recoverSettlementBootstrapFromScope view positions).2) := by
  have honce : (durableKeys journal).Nodup := by
    have hall := h.once
    rwa [hempty, append_nil] at hall
  obtain ⟨recovery, hreplay, hlookup⟩ := @replay_nodup ⟨∅⟩ _ honce fun _ _ => by simp
  simp only [Std.ExtTreeMap.getElem?_empty, reduceCtorEq, false_or] at hlookup
  have hsettlements := hrecovers.settlements.trans hreplay
  unfold recoverSettlementBootstrapFromScope
  have hsome : view.settlementRecovery.isNone = false := by rw [hsettlements]; rfl
  simp only [hsome, Bool.false_eq_true, if_false]
  split
  · exact ⟨of_blind h _, nofun⟩
  · rename_i keys hkeys
    split
    · exact ⟨of_blind h _, nofun⟩
    · rename_i delta hdelta
      split_ifs
      · rw [hview] at hdelta
        have hin : ∀ key ∈ durableKeys journal, key ∈ keys.toFinset := by
          intro key hkey
          obtain ⟨position, hmem, hposition⟩ := hscope key hkey
          exact mem_toFinset.mpr (mem_of_mapM hkeys hmem hposition)
        have hnoted := recovered_keys h hempty hrecovers hsettlements hlookup hin hdelta
        have hall : ∀ key ∈ durableKeys (journal ++ s.effects),
            key ∈ s.settledPositionKeys ∪ delta.settledPositionKeys ∨
            key ∈ s.settlementBookingErrorKeys ∪
              (recoverBookingFacts view.bookingRecovery keys.toFinset).bookingErrorKeys := by
          intro key hkey
          rw [hempty, append_nil, ← hnoted] at hkey
          exact hkey.imp (Finset.mem_union_right _) (Finset.mem_union_right _)
        refine ⟨⟨⟨h.conforms.congr rfl rfl, h.inOrder, h.once, fun key hkey => ?_, h.reported,
          h.strategy⟩, fun _ => hall⟩, fun _ => hall⟩
        have hdurable := h.durable key
        simp only [hempty, append_nil, Finset.mem_union] at hkey hdurable ⊢
        rw [← hnoted] at hdurable ⊢
        tauto
      · exact ⟨of_blind h _, nofun⟩

/-- The bootstrap opens the books, also of a new taker. -/
theorem bootstrap (h : Ledger strategyId journal start s) (hempty : s.effects = [])
    (hview : view.strategyId = strategyId) (hrecovers : Recovers journal view) :
    Books strategyId journal start (s.bootstrapRecoveryFromCache view) := by
  unfold bootstrapRecoveryFromCache
  split
  · exact of_blind h _
  · rename_i openPositions closedPositions hcached
    obtain ⟨hbooks, hall⟩ := recoverSettlements h hempty hview hrecovers
      (hrecovers.scope openPositions closedPositions hcached)
    dsimp only
    split_ifs with hrecovered
    · exact hbooks
    · split
      · rw [Bool.not_eq_true, Bool.not_eq_false'] at hrecovered
        exact of_call hbooks.toLedger trivial trivial fun _ => hall hrecovered
      · exact of_blind hbooks.toLedger _
      · exact of_blind hbooks.toLedger _

end Books

/-! ## Every run -/

namespace SettlementSystem

variable {strategyId : String} {s t : SettlementSystem} {step : SettlementStep}

/-- What holds between two steps. -/
structure Kept (strategyId : String) (s : SettlementSystem) : Prop where
  once : (durableKeys s.journal).Nodup
  known : s.taker.exposure.isBlindRecovery = false → ∀ key ∈ durableKeys s.journal,
    key ∈ s.taker.settledPositionKeys ∨ key ∈ s.taker.settlementBookingErrorKeys
  durable : ∀ key, key ∈ s.taker.settledPositionKeys ∨ key ∈ s.taker.settlementBookingErrorKeys →
    key ∈ durableKeys s.journal
  strategy : ∀ outcome ∈ durables s.journal, outcome.strategyId = strategyId

theorem Kept.ledger (h : s.Kept strategyId) (handler : TakerState) (hempty : handler.effects = [])
    (hdurable : ∀ key, key ∈ handler.settledPositionKeys ∨
      key ∈ handler.settlementBookingErrorKeys →
      key ∈ durableKeys s.journal) : Ledger strategyId s.journal handler.exposure handler where
  conforms := .init (fun _ _ => trivial) (by unfold calls; rw [hempty]; rfl)
  inOrder before effect after hsplit := by
    rw [hempty] at hsplit
    simp at hsplit
  once := by
    rw [hempty, append_nil]
    exact h.once
  durable := by
    rw [hempty, append_nil]
    exact hdurable
  reported key hmem := by
    rw [hempty] at hmem
    cases hmem
  strategy := by
    rw [hempty, append_nil]
    exact h.strategy

/-- Every step keeps the books. -/
theorem Kept.books (h : s.Kept strategyId) (hstep : s.Step strategyId step t) :
    Books strategyId s.journal (s.handler step).exposure (s.handled step) := by
  cases step with
  | event event =>
    have hledger : Ledger strategyId s.journal s.taker.exposure { s.taker with effects := [] } :=
      h.ledger { s.taker with effects := [] } rfl h.durable
    have hbooks : Books strategyId s.journal s.taker.exposure { s.taker with effects := [] } := by
      refine ⟨hledger, fun hnot => ?_⟩
      unfold Noted
      rw [append_nil]
      exact h.known hnot
    refine Books.rule.handle hbooks event hstep.strategy (fun bootstrap selection hevent => ?_)
      (fun _ _ _ _ _ _ => ⟨trivial, trivial⟩) fun _ _ _ => trivial
    refine Books.bootstrap hledger rfl (hstep.strategy bootstrap ?_)
      (hstep.recovers bootstrap selection hevent)
    rw [hevent]
    exact mem_cons_self
  | restart bootstrap selection =>
    have hledger : Ledger strategyId s.journal TakerState.new.exposure .new :=
      h.ledger .new rfl fun key hkey => by
        rcases hkey with hkey | hkey <;> exact absurd hkey (Finset.notMem_empty key)
    have hbooks := Books.bootstrap hledger rfl (hstep.strategy bootstrap mem_cons_self)
      (hstep.recovers bootstrap selection rfl)
    exact Books.rule.selection
      (hstep.strategy selection (mem_cons_of_mem _ mem_cons_self)) hbooks

theorem Kept.next (h : s.Kept strategyId) (hstep : s.Step strategyId step t) :
    t.Kept strategyId := by
  have hbooks := h.books hstep
  obtain ⟨rfl, -, -⟩ := hstep
  exact ⟨hbooks.once, hbooks.known, hbooks.durable, hbooks.strategy⟩

theorem kept_new (strategyId : String) : new.Kept strategyId where
  once := nodup_nil
  known _ _ hkey := absurd hkey not_mem_nil
  durable key hkey := by
    rcases hkey with hkey | hkey <;> exact absurd hkey (Finset.notMem_empty key)
  strategy _ hmem := absurd hmem not_mem_nil

theorem kept_run {steps : List SettlementStep} (h : Run (Step strategyId) new steps s) :
    s.Kept strategyId :=
  h.invariant (fun _ _ _ hkept hstep => hkept.next hstep) (kept_new strategyId)

/-- **Settlements happen once.** In every run of handlers and restarts, each settlement key has at
most one durable outcome, so the stream replays. In every further step the exposure is released by a
settlement only when the outcome of its position is durable, and a key with a durable outcome is not
booked, fetched or reported again. -/
theorem settlements_happen_once {steps : List SettlementStep}
    (hrun : Run (Step strategyId) new steps s) :
    (durableKeys s.journal).Nodup ∧
    (replay ⟨∅⟩ (durables s.journal)).isSome ∧
    ∀ step t, s.Step strategyId step t → ∀ before effect after,
      t.taker.effects = before ++ effect :: after →
      InOrder s.journal (s.handler step).exposure before effect := by
  have hkept := kept_run hrun
  refine ⟨hkept.once, ?_, ?_⟩
  · obtain ⟨recovered, hreplay, -⟩ := @replay_nodup ⟨∅⟩ _ hkept.once fun _ _ => by simp
    rw [hreplay]
    rfl
  · intro step t hstep
    have hbooks := hkept.books hstep
    obtain ⟨rfl, -, -⟩ := hstep
    exact hbooks.inOrder

namespace BookAndRestart

open Exit (InstrumentId)

def instrument : InstrumentId := ⟨"market-yes", "POLYMARKET"⟩

def lifecycle : BoltV3PositionMarketLifecycle :=
  ⟨some "market", some .up, some ⟨1⟩, some 1000, none, none⟩

def position : PositionMaterializationSpec := ⟨instrument, "position", .buy, .long, ⟨5, 0⟩, ⟨0⟩⟩

/-- The position of the entry is open, and its settlement has a result. -/
def view : TakerView :=
  { TakerView.silent with
    entryTimeInForce := .fok, positionsOpen := [position]
    entryOrder := some ⟨"entry", none, lifecycle, instrument⟩
    capability := some ⟨false, none, some "USDC"⟩
    settle := fun _ => ⟨some ⟨⟨1⟩, ⟨0⟩⟩, some ⟨⟨5⟩, ⟨2⟩⟩, none⟩ }

def steps : List SettlementStep :=
  [.event (.bookDeltas view true), .event (.positionOpened view position),
    .event (.indexPrice view 1000000000 ⟨2⟩)]

/-- What a step makes of the system. -/
def after (s : SettlementSystem) (step : SettlementStep) : SettlementSystem :=
  ⟨s.journal ++ (s.handled step).effects, s.handled step⟩

def armed : SettlementSystem := after new (.event (.bookDeltas view true))

def opened : SettlementSystem := after armed (.event (.positionOpened view position))

def booked : SettlementSystem := after opened (.event (.indexPrice view 1000000000 ⟨2⟩))

/-- The bootstrap after the booking: the position is closed, and the stream has its outcome. -/
def bootstrap : TakerView :=
  { view with
    positionsOpen := [], settlementRecovery := replay ⟨∅⟩ (durables booked.journal)
    bookingRecovery := some (BookingRecoveryFacts.replay (durables booked.journal))
    cachedPositions := some ([],
      [⟨⟨instrument, "position", .buy, .long, ⟨0, 0⟩, ⟨0⟩⟩, lifecycle⟩]) }

theorem durableKeys_booked : durableKeys booked.journal = ["yes:position"] := by decide +kernel

/-- An event of a view of the strategy is a step. -/
theorem step_event (s : SettlementSystem) (event : TakerEvent) {seen : TakerView}
    (hviews : event.views = [seen]) (hstrategy : seen.strategyId = "taker")
    (hstart : ∀ first second, event ≠ .start first second) :
    Step "taker" s (.event event) (after s (.event event)) where
  next := rfl
  strategy v hv := by
    have hview : v ∈ event.views := hv
    rw [hviews, mem_singleton] at hview
    rw [hview]
    exact hstrategy
  recovers first second hsame := absurd hsame (hstart first second)

theorem run_booked : Run (Step "taker") new steps booked := by
  have harmed : Step "taker" new (.event (.bookDeltas view true)) armed :=
    step_event new (.bookDeltas view true) rfl rfl fun _ _ => TakerEvent.noConfusion
  have hopened : Step "taker" armed (.event (.positionOpened view position)) opened :=
    step_event armed (.positionOpened view position) rfl rfl fun _ _ => TakerEvent.noConfusion
  have hbooked : Step "taker" opened (.event (.indexPrice view 1000000000 ⟨2⟩)) booked :=
    step_event opened (.indexPrice view 1000000000 ⟨2⟩) rfl rfl fun _ _ => TakerEvent.noConfusion
  exact .cons harmed (.cons hopened (.single hbooked))

theorem recovers : Recovers booked.journal bootstrap where
  settlements := rfl
  bookings := rfl
  scope openPositions closedPositions hcached key hkey := by
    rw [durableKeys_booked, mem_singleton] at hkey
    cases hcached
    exact ⟨_, mem_cons_self, hkey ▸ by decide +kernel⟩

theorem restarts : Step "taker" booked (.restart bootstrap bootstrap)
    (after booked (.restart bootstrap bootstrap)) where
  next := rfl
  strategy v hv := by
    have hview : v ∈ [bootstrap, bootstrap] := hv
    simp only [mem_cons, not_mem_nil, or_false, or_self] at hview
    rw [hview]
    rfl
  recovers first second hsame := by
    cases hsame
    exact recovers

/-- The outcome of the position is durable once, also after a restart. -/
theorem position_is_settled_once : ∃ s,
    Run (Step "taker") new (steps ++ [.restart bootstrap bootstrap]) s ∧
    durableKeys s.journal = ["yes:position"] ∧ (durableKeys s.journal).Nodup :=
  have hrun := run_booked.append (.single restarts)
  ⟨_, hrun, by decide +kernel, (settlements_happen_once hrun).1⟩

end BookAndRestart

end SettlementSystem

end BoltV3.Taker
