import BoltV3.Lib.TextLines
import BoltV3.Maker.Runtime

/-!
# Order identities of the maker

A client order id joins the tag, the market key, the window start, the leg and the generation by `-`
(`make_leg_identity`). The market key may have that delimiter, but nothing after it does, so the id
is read from its end. That no id is minted twice then rests on the generations: a market that is
active counts from the high-water mark that outlives it.
-/

namespace BoltV3.Maker

open Lib SortedMap Delimited MakerRuntime
open Quote (Leg)
open Std (ExtTreeMap)

theorem delimiter_notMem_legTag (leg : Leg) : '-' ∉ (legTag leg).toList := by
  cases leg <;> decide

theorem legTag_injective {leg leg' : Leg} (h : legTag leg = legTag leg') : leg = leg' := by
  cases leg <;> cases leg' <;> first | rfl | exact absurd h (by decide)

/-- **A client order id is read back**: the tag is fixed, and no field after the market key has the
delimiter. -/
theorem makeLegIdentity_injective {orderIdTag marketKey marketKey' : String}
    {windowStart windowStart' : Nat} {leg leg' : Leg} {generation generation' : Nat}
    (h : (makeLegIdentity orderIdTag marketKey windowStart leg generation).clientOrderId =
      (makeLegIdentity orderIdTag marketKey' windowStart' leg' generation').clientOrderId) :
    marketKey = marketKey' ∧ windowStart = windowStart' ∧ leg = leg' ∧
      generation = generation' := by
  have hdash : '-'.isDigit = false := by decide
  obtain ⟨h, hgeneration⟩ := join_injective
    (delimiter_notMem_repr hdash generation)
    (delimiter_notMem_repr hdash generation') h
  obtain ⟨h, hleg⟩ := join_injective (delimiter_notMem_legTag leg)
    (delimiter_notMem_legTag leg') h
  obtain ⟨h, hwindow⟩ := join_injective
    (delimiter_notMem_repr hdash windowStart)
    (delimiter_notMem_repr hdash windowStart') h
  exact ⟨String.append_right_inj _ |>.mp h, repr_eq hwindow, legTag_injective hleg,
    repr_eq hgeneration⟩

/-! ## What a market holds -/

/-- The orders of a leg were minted for the market, its window and the leg, the active one before
the next one. -/
structure HeldLeg (minted : List Minted) (marketKey : String) (windowStart : Nat)
    (leg : Leg) (binding : MakerLegBinding) : Prop where
  active : ∀ order, binding.activeOrder = some order → ⟨marketKey, windowStart, leg, order⟩ ∈ minted
  next : ∀ order, binding.nextOrder = some order → ⟨marketKey, windowStart, leg, order⟩ ∈ minted
  below : ∀ active next, binding.activeOrder = some active → binding.nextOrder = some next →
    active.generation < next.generation

/-- A market counts from the high-water mark, and its legs hold what was minted for them. -/
structure HeldMarket (minted : List Minted) (highWater : LegGenerations)
    (marketKey : String) (market : MakerMarketRuntime) : Prop where
  key : market.binding.marketKey = marketKey
  counters : market.legGenerations = highWater
  legs : ∀ leg, HeldLeg minted marketKey market.binding.startTimestampMilliseconds leg
    (market.binding.leg leg)

section

variable {minted later : List Minted} {marketKey : String} {windowStart : Nat} {leg : Leg}
  {binding : MakerLegBinding} {highWater : LegGenerations} {market : MakerMarketRuntime}

theorem HeldLeg.mono (h : HeldLeg minted marketKey windowStart leg binding) :
    HeldLeg (minted ++ later) marketKey windowStart leg binding :=
  ⟨fun order horder => List.mem_append_left _ (h.active order horder),
    fun order horder => List.mem_append_left _ (h.next order horder), h.below⟩

/-- A rotation keeps orders, drops some, or makes the next one the active one. -/
theorem HeldLeg.rotate (h : HeldLeg minted marketKey windowStart leg binding)
    {dispatch : Option MakerOrderDispatchOutcome} {rotation : LegIdentityRotation}
    (hrotation : legIdentityRotation binding dispatch = .ok rotation) :
    HeldLeg minted marketKey windowStart leg (rotation.apply binding) := by
  have hcases : rotation = .preserve binding ∨ rotation = .promoteNext binding ∨
      rotation = .clearNext binding ∨ rotation = .clear := by
    unfold legIdentityRotation at hrotation
    split at hrotation
    · cases hrotation
      exact .inr (.inl rfl)
    · cases hrotation
      exact .inr (.inr (.inl rfl))
    · cases hrotation
      exact .inr (.inr (.inl rfl))
    · split at hrotation
      · split_ifs at hrotation
        cases hrotation
        exact .inr (.inr (.inr rfl))
      · cases hrotation
    · split at hrotation
      · split_ifs at hrotation
        cases hrotation
        exact .inr (.inr (.inr rfl))
      · cases hrotation
        exact .inr (.inr (.inl rfl))
    · cases hrotation
      exact .inl rfl
    · cases hrotation
      exact .inl rfl
  rcases hcases with rfl | rfl | rfl | rfl
  · exact ⟨h.active, h.next, h.below⟩
  · exact ⟨h.next, nofun, nofun⟩
  · exact ⟨h.active, nofun, nofun⟩
  · exact ⟨nofun, nofun, nofun⟩

end

/-! ## Mints -/

namespace MakerMarketRuntime

variable (market : MakerMarketRuntime) (orderIdTag : String)

/-- The identity that a leg mints. -/
def minting (leg : Leg) : OrderIdentity :=
  makeLegIdentity orderIdTag market.binding.marketKey market.binding.startTimestampMilliseconds leg
    (market.legGenerations.of leg + 1)

/-- Both legs have minted. -/
def mintBoth : MakerMarketRuntime := (market.mintNext orderIdTag .yes).mintNext orderIdTag .no

variable {market}

theorem mintBoth_generations (hyes : market.yesGeneration < u64Max)
    (hno : market.noGeneration < u64Max) :
    (market.mintBoth orderIdTag).legGenerations =
      ⟨market.yesGeneration + 1, market.noGeneration + 1⟩ := by
  unfold u64Max at hyes hno
  have hwrap : (market.mintBoth orderIdTag).legGenerations =
      ⟨(market.yesGeneration + 1) % 2 ^ 64, (market.noGeneration + 1) % 2 ^ 64⟩ := rfl
  rw [hwrap, Nat.mod_eq_of_lt (by omega), Nat.mod_eq_of_lt (by omega)]

theorem mintBoth_leg (hyes : market.yesGeneration < u64Max) (hno : market.noGeneration < u64Max)
    (leg : Leg) :
    (market.mintBoth orderIdTag).binding.leg leg =
      { market.binding.leg leg with nextOrder := some (market.minting orderIdTag leg) } := by
  have hwrap : (market.mintBoth orderIdTag).binding.leg leg =
      { market.binding.leg leg with
        nextOrder := some (makeLegIdentity orderIdTag market.binding.marketKey
          market.binding.startTimestampMilliseconds leg
          ((market.legGenerations.of leg + 1) % 2 ^ 64)) } := by
    cases leg <;> rfl
  have hfits : market.legGenerations.of leg < u64Max := by
    cases leg
    · exact hyes
    · exact hno
  unfold u64Max at hfits
  rw [hwrap, Nat.mod_eq_of_lt (by omega), minting]

end MakerMarketRuntime

/-! ## Calls -/

namespace MakerRuntime

variable {orderIdTag : String} {runtime next : MakerRuntime} {minted : List Minted}

/-- Every active market holds its own orders, every minted id names what it was minted for and is
not above the high-water mark, and no id was minted twice. -/
structure Counts (orderIdTag : String) (runtime : MakerRuntime) (minted : List Minted) : Prop where
  markets : ∀ marketKey market, runtime.markets[marketKey]? = some market →
    HeldMarket minted (runtime.highWater marketKey) marketKey market
  named : ∀ entry ∈ minted, entry.order =
    makeLegIdentity orderIdTag entry.marketKey entry.windowStart entry.leg entry.order.generation
  below : ∀ entry ∈ minted,
    entry.order.generation ≤ (runtime.highWater entry.marketKey).of entry.leg
  nodup : (minted.map fun entry => entry.order.clientOrderId).Nodup

theorem counts_empty (orderIdTag : String) : Counts orderIdTag .empty [] where
  markets marketKey market h := by simp [empty] at h
  named := by simp
  below := by simp
  nodup := List.nodup_nil

/-- A call that mints nothing and leaves the high-water marks. -/
theorem Counts.of_markets (h : Counts orderIdTag runtime minted)
    (hgenerations : next.generations = runtime.generations)
    (hmarkets : ∀ marketKey market, next.markets[marketKey]? = some market →
      HeldMarket minted (runtime.highWater marketKey) marketKey market) :
    Counts orderIdTag next minted := by
  have hhigh : ∀ marketKey, next.highWater marketKey = runtime.highWater marketKey := by
    intro marketKey
    rw [highWater, hgenerations, highWater]
  refine ⟨fun marketKey market hmarket => ?_, h.named, fun entry hentry => ?_, h.nodup⟩
  · rw [hhigh]
    exact hmarkets marketKey market hmarket
  · rw [hhigh]
    exact h.below entry hentry

/-! ### Refreshes -/

variable {binding : MakerResolvedMarketBinding} {marketKey : String}

/-- A resolved binding has no orders. -/
theorem unassigned_of_resolved {select : MakerMarketDeclaration → Option SelectedMarket}
    {declarations : List MakerMarketDeclaration}
    (h : binding ∈ (resolveDeclaredMarkets select declarations).bindings) (leg : Leg) :
    ∃ instrumentId, binding.leg leg = legBinding instrumentId := by
  obtain ⟨declaration, -, hresolved⟩ := List.mem_filterMap.mp h
  unfold resolveDeclaredMarket at hresolved
  split_ifs at hresolved
  rcases hselect : select declaration with _ | market <;> rw [hselect] at hresolved
  · cases hresolved
  · cases hresolved
    cases leg
    · exact ⟨_, rfl⟩
    · exact ⟨_, rfl⟩

/-- A market that is rebuilt from the high-water mark holds no orders. -/
theorem heldMarket_seeded (hkey : binding.marketKey = marketKey)
    (hlegs : ∀ leg, ∃ instrumentId, binding.leg leg = legBinding instrumentId)
    (allocationNotional : Float) (highWater : LegGenerations) :
    HeldMarket minted highWater marketKey (.seeded binding allocationNotional highWater) where
  key := hkey
  counters := rfl
  legs leg := by
    obtain ⟨instrumentId, hleg⟩ := hlegs leg
    change HeldLeg minted marketKey _ leg (binding.leg leg)
    rw [hleg]
    exact ⟨nofun, nofun, nofun⟩

/-- A market that is retained in its window keeps its orders. -/
theorem heldMarket_retained {prior : MakerMarketRuntime} {highWater : LegGenerations}
    (h : HeldMarket minted highWater marketKey prior) (hkey : binding.marketKey = marketKey)
    (hwindow : sameWindow prior.binding binding = true) (allocationNotional : Float) :
    HeldMarket minted highWater marketKey
      { prior with
        binding := refreshed prior.binding binding, allocationNotional := allocationNotional } where
  key := hkey
  counters := h.counters
  legs leg := by
    have hstart : prior.binding.startTimestampMilliseconds = binding.startTimestampMilliseconds :=
      congrArg Prod.fst (beq_iff_eq.mp hwindow)
    change HeldLeg minted marketKey binding.startTimestampMilliseconds leg _
    rw [← hstart]
    have hleg := h.legs leg
    cases leg <;> exact ⟨hleg.active, hleg.next, hleg.below⟩

/-- The markets of a set hold their own orders. -/
def AllHeld (minted : List Minted) (runtime : MakerRuntime)
    (markets : ExtTreeMap String MakerMarketRuntime) : Prop :=
  ∀ marketKey market, markets[marketKey]? = some market →
    HeldMarket minted (runtime.highWater marketKey) marketKey market

variable {bindings : List MakerResolvedMarketBinding}
  {markets : ExtTreeMap String MakerMarketRuntime × ExtTreeMap String MakerMarketRuntime}

section

variable (hbindings : ∀ binding ∈ bindings, ∀ leg,
  ∃ instrumentId, binding.leg leg = legBinding instrumentId)

include hbindings

theorem applySlot_held
    (hremaining : AllHeld minted runtime markets.1) (hnext : AllHeld minted runtime markets.2)
    (slot : String × Float) :
    AllHeld minted runtime (runtime.applySlot bindings markets slot).1 ∧
      AllHeld minted runtime (runtime.applySlot bindings markets slot).2 := by
  obtain ⟨remaining, nextMarkets⟩ := markets
  obtain ⟨marketKey, allocationNotional⟩ := slot
  simp only [applySlot]
  cases hfind : bindings.find? fun binding => binding.marketKey == marketKey with
  | none => exact ⟨hremaining, hnext⟩
  | some binding =>
    have hkey : binding.marketKey = marketKey := by simpa using List.find?_some hfind
    have hlegs := hbindings binding (List.mem_of_find?_eq_some hfind)
    refine ⟨fun other market hmarket => ?_, fun other market hmarket => ?_⟩
    · rw [getElem?_erase] at hmarket
      split_ifs at hmarket
      exact hremaining other market hmarket
    · rw [getElem?_insert] at hmarket
      split_ifs at hmarket with hother
      · obtain rfl := Option.some.inj hmarket
        subst hother
        cases hprior : remaining[marketKey]? with
        | none => exact heldMarket_seeded hkey hlegs _ _
        | some prior =>
          dsimp only
          split_ifs with hwindow
          · exact heldMarket_retained (hremaining marketKey prior hprior) hkey hwindow _
          · exact heldMarket_seeded hkey hlegs _ _
      · exact hnext other market hmarket

theorem foldl_applySlot_held (planned : List (String × Float))
    (hremaining : AllHeld minted runtime markets.1) (hnext : AllHeld minted runtime markets.2) :
    AllHeld minted runtime (planned.foldl (runtime.applySlot bindings) markets).2 := by
  induction planned generalizing markets with
  | nil => exact hnext
  | cons slot planned ih =>
    obtain ⟨hremaining, hnext⟩ := applySlot_held hbindings hremaining hnext slot
    exact ih hremaining hnext

end

theorem Counts.refresh (h : Counts orderIdTag runtime minted)
    (select : MakerMarketDeclaration → Option SelectedMarket)
    (declarations : List MakerMarketDeclaration) (plan : MakerPlan) :
    Counts orderIdTag (runtime.refreshActiveMarkets select declarations plan).2 minted := by
  refine h.of_markets rfl ?_
  refine foldl_applySlot_held (fun binding hbinding => unassigned_of_resolved hbinding)
    _ h.markets ?_
  intro marketKey market hmarket
  simp at hmarket

/-! ### Dispatches -/

theorem Counts.dispatch (h : Counts orderIdTag runtime minted) (marketKey : String)
    (yes no : Option MakerOrderDispatchOutcome) :
    Counts orderIdTag (runtime.applyDispatchOutcome marketKey yes no).2 minted := by
  unfold applyDispatchOutcome
  cases hmarket : runtime.markets[marketKey]? with
  | none => exact h
  | some market =>
    have hheld := h.markets marketKey market hmarket
    dsimp only
    cases hyes : legIdentityRotation market.binding.yes yes with
    | error diagnostic => exact h
    | ok yesRotation =>
      cases hno : legIdentityRotation market.binding.no no with
      | error diagnostic => exact h
      | ok noRotation =>
        refine h.of_markets rfl fun other rotated hrotated => ?_
        rw [getElem?_insert] at hrotated
        split_ifs at hrotated with hother
        · obtain rfl := Option.some.inj hrotated
          subst hother
          refine ⟨hheld.key, hheld.counters, fun leg => ?_⟩
          cases leg with
          | yes => exact (hheld.legs .yes).rotate hyes
          | no => exact (hheld.legs .no).rotate hno
        · exact h.markets other rotated hrotated

/-! ### Mints -/

/-- What an active market mints. -/
def mintsOf (orderIdTag marketKey : String) (market : MakerMarketRuntime) : List Minted :=
  [Leg.yes, Leg.no].map fun leg =>
    ⟨marketKey, market.binding.startTimestampMilliseconds, leg, market.minting orderIdTag leg⟩

variable {market : MakerMarketRuntime}

theorem mem_mintsOf {marketKey : String} {entry : Minted} :
    entry ∈ mintsOf orderIdTag marketKey market ↔ ∃ leg, entry =
      ⟨marketKey, market.binding.startTimestampMilliseconds, leg,
        market.minting orderIdTag leg⟩ := by
  simp only [mintsOf, List.map_cons, List.map_nil, List.mem_cons, List.not_mem_nil, or_false]
  constructor
  · rintro (rfl | rfl)
    · exact ⟨.yes, rfl⟩
    · exact ⟨.no, rfl⟩
  · rintro ⟨leg, rfl⟩
    cases leg
    · exact .inl rfl
    · exact .inr rfl

/-- The runtime after an active market has minted. -/
def afterMint (runtime : MakerRuntime) (orderIdTag marketKey : String)
    (market : MakerMarketRuntime) : MakerRuntime :=
  { runtime with
    markets := runtime.markets.insert marketKey (market.mintBoth orderIdTag)
    generations :=
      runtime.generations.insert marketKey (market.mintBoth orderIdTag).legGenerations }

theorem Counts.mint (h : Counts orderIdTag runtime minted) {marketKey : String}
    (hmarket : runtime.markets[marketKey]? = some market)
    (hyes : market.yesGeneration < u64Max) (hno : market.noGeneration < u64Max) :
    Counts orderIdTag (runtime.afterMint orderIdTag marketKey market)
      (minted ++ mintsOf orderIdTag marketKey market) := by
  have hheld := h.markets marketKey market hmarket
  have hcounter : ∀ leg, (market.mintBoth orderIdTag).legGenerations.of leg =
      market.legGenerations.of leg + 1 := by
    intro leg
    rw [MakerMarketRuntime.mintBoth_generations orderIdTag hyes hno]
    cases leg <;> rfl
  have hold : ∀ entry ∈ minted, entry.marketKey = marketKey →
      entry.order.generation ≤ market.legGenerations.of entry.leg := by
    rintro entry hentry rfl
    rw [hheld.counters]
    exact h.below entry hentry
  refine ⟨fun other found hfound => ?_, fun entry hentry => ?_, fun entry hentry => ?_, ?_⟩
  · rw [afterMint, getElem?_insert] at hfound
    simp only [highWater, afterMint, getElem?_insert]
    split_ifs at hfound ⊢ with hother
    · obtain rfl := Option.some.inj hfound
      subst hother
      refine ⟨hheld.key, rfl, fun leg => ?_⟩
      rw [MakerMarketRuntime.mintBoth_leg orderIdTag hyes hno]
      refine ⟨fun order horder => List.mem_append_left _ ((hheld.legs leg).active order horder),
        fun order horder => ?_, fun active next hactive hnext => ?_⟩
      · obtain rfl := Option.some.inj horder
        exact List.mem_append_right _ (mem_mintsOf.mpr ⟨leg, rfl⟩)
      · obtain rfl := Option.some.inj hnext
        have := hold _ ((hheld.legs leg).active active hactive) rfl
        exact Nat.lt_succ_of_le this
    · obtain ⟨hkey, hcounters, hlegs⟩ := h.markets other found hfound
      exact ⟨hkey, hcounters, fun leg => (hlegs leg).mono⟩
  · rcases List.mem_append.mp hentry with hentry | hentry
    · exact h.named entry hentry
    · obtain ⟨leg, rfl⟩ := mem_mintsOf.mp hentry
      rw [MakerMarketRuntime.minting, hheld.key]
      rfl
  · simp only [highWater, afterMint, getElem?_insert]
    rcases List.mem_append.mp hentry with hentry | hentry
    · split_ifs with hsame
      · rw [Option.getD_some, hcounter]
        exact Nat.le_succ_of_le (hold entry hentry hsame.symm)
      · exact h.below entry hentry
    · obtain ⟨leg, rfl⟩ := mem_mintsOf.mp hentry
      rw [if_pos rfl, Option.getD_some, hcounter]
      exact Nat.le_refl _
  · -- A new id has the next generation of its leg, which no id of the market and the leg has yet.
    rw [List.map_append, List.nodup_append]
    refine ⟨h.nodup, ?_, ?_⟩
    · rw [mintsOf, List.map_map, List.map_cons, List.map_singleton, List.nodup_cons]
      refine ⟨?_, List.nodup_singleton _⟩
      rw [List.mem_singleton]
      intro hids
      cases (makeLegIdentity_injective hids).2.2.1
    · rintro id hid id' hid' rfl
      obtain ⟨entry, hentry, rfl⟩ := List.mem_map.mp hid
      obtain ⟨fresh, hfresh, hids⟩ := List.mem_map.mp hid'
      obtain ⟨leg, rfl⟩ := mem_mintsOf.mp hfresh
      rw [h.named entry hentry] at hids
      obtain ⟨hkey, -, hleg, hgeneration⟩ := makeLegIdentity_injective hids
      have := hold entry hentry (hkey.symm.trans hheld.key)
      rw [← hleg, ← hgeneration] at this
      omega

/-! ### Runs -/

theorem Counts.unminted {mints : List Minted} (hmints : [] = mints)
    (h : Counts orderIdTag next minted) : Counts orderIdTag next (minted ++ mints) := by
  rw [← hmints, List.append_nil]
  exact h

theorem Counts.step {entry : MakerCall × List Minted} (h : Counts orderIdTag runtime minted)
    (hstep : Step orderIdTag runtime entry next) : Counts orderIdTag next (minted ++ entry.2) := by
  obtain ⟨call, mints⟩ := entry
  obtain ⟨hfits, rfl, hmints⟩ := hstep
  cases call with
  | refresh select declarations plan => exact (h.refresh select declarations plan).unminted hmints
  | dispatch marketKey yes no => exact (h.dispatch marketKey yes no).unminted hmints
  | deactivateAll =>
    refine .unminted hmints (h.of_markets rfl fun marketKey market hmarket => ?_)
    simp [call, deactivateAll] at hmarket
  | mint marketKey =>
    cases hmarket : runtime.markets[marketKey]? with
    | none =>
      have hnone : runtime.call orderIdTag (.mint marketKey) = runtime := by
        simp [call, mintNextIdentities, hmarket]
      rw [hnone] at hmints ⊢
      simp only [mintedBy, hmarket] at hmints
      rw [← hmints, List.append_nil]
      exact h
    | some market =>
      obtain ⟨hyes, hno⟩ : market.yesGeneration < u64Max ∧ market.noGeneration < u64Max := by
        simpa [fits, hmarket] using hfits
      have hsome : runtime.call orderIdTag (.mint marketKey) =
          runtime.afterMint orderIdTag marketKey market := by
        simp only [call, mintNextIdentities, hmarket]
        rfl
      rw [hsome] at hmints ⊢
      have hfound : (runtime.afterMint orderIdTag marketKey market).markets[marketKey]? =
          some (market.mintBoth orderIdTag) := by
        rw [afterMint, getElem?_insert, if_pos rfl]
      simp only [mintedBy, hfound, MakerMarketRuntime.mintBoth_leg orderIdTag hyes hno] at hmints
      rw [← hmints]
      exact h.mint hmarket hyes hno
  | _ => exact .unminted hmints (h.of_markets rfl h.markets)

theorem counts_run {trace : List (MakerCall × List Minted)}
    (hrun : Run (Step orderIdTag) runtime trace next) (h : Counts orderIdTag runtime minted) :
    Counts orderIdTag next (minted ++ trace.flatMap Prod.snd) := by
  induction hrun generalizing minted with
  | nil _ =>
    rw [List.flatMap_nil, List.append_nil]
    exact h
  | cons first _ ih =>
    rw [List.flatMap_cons, ← List.append_assoc]
    exact ih (h.step first)

end MakerRuntime

/-- **No client order id is minted twice**, over any markets, windows and legs, in a run whose
generations fit their type. What an active market holds was minted for that market, leg and current
window, and the active order before the next one. -/
theorem order_ids_are_minted_once {orderIdTag : String}
    {trace : List (MakerCall × List Minted)} {reached : MakerRuntime}
    (hrun : Run (Step orderIdTag) .empty trace reached) :
    ((trace.flatMap Prod.snd).map fun entry => entry.order.clientOrderId).Nodup ∧
    ∀ marketKey market, reached.markets[marketKey]? = some market → ∀ leg,
      (∀ order, (market.binding.leg leg).activeOrder = some order ∨
          (market.binding.leg leg).nextOrder = some order →
        order = makeLegIdentity orderIdTag marketKey market.binding.startTimestampMilliseconds leg
            order.generation ∧
          ⟨marketKey, market.binding.startTimestampMilliseconds, leg, order⟩ ∈
            trace.flatMap Prod.snd) ∧
      ∀ active next, (market.binding.leg leg).activeOrder = some active →
        (market.binding.leg leg).nextOrder = some next → active.generation < next.generation := by
  have hcounts := counts_run hrun (counts_empty orderIdTag)
  rw [List.nil_append] at hcounts
  refine ⟨hcounts.nodup, fun marketKey market hmarket leg => ?_⟩
  have hleg := (hcounts.markets marketKey market hmarket).legs leg
  refine ⟨fun order horder => ?_, hleg.below⟩
  have hminted := horder.elim (hleg.active order) (hleg.next order)
  exact ⟨hcounts.named _ hminted, hminted⟩

/-! A market whose key has the delimiter is quoted, its window is resolved again and its next order
is minted. -/

namespace RequotedMarket

def market : SelectedMarket :=
  ⟨⟨"gamma", "condition", "question", ⟨0, "Up", "1"⟩, ⟨1, "Down", "2"⟩⟩, "UP.SIM", "DOWN.SIM", 1000⟩

def declaration : MakerMarketDeclaration :=
  ⟨"eth-hourly", "updown", "ETH", 3600, "1h", none, none, none⟩

def refresh : MakerCall :=
  .refresh (fun _ => some market) [declaration] fun _ _ => some [("eth-hourly", 0)]

def calls : List MakerCall :=
  [refresh, .mint "eth-hourly", .dispatch "eth-hourly" (some (.submitAttempt .retainedActive)) none,
    refresh, .mint "eth-hourly"]

/-- The calls with what they mint, and the runtime after them. -/
def performed : MakerRuntime → List MakerCall →
    List (MakerCall × List Minted) × MakerRuntime
  | runtime, [] => ([], runtime)
  | runtime, call :: rest =>
    let next := runtime.call "001" call
    let (trace, last) := performed next rest
    ((call, mintedBy next call) :: trace, last)

/-- Every call fits. -/
def allFit : MakerRuntime → List MakerCall → Bool
  | _, [] => true
  | runtime, call :: rest => runtime.fits call && allFit (runtime.call "001" call) rest

theorem run_performed : ∀ (calls : List MakerCall) (runtime : MakerRuntime),
    allFit runtime calls = true →
    Run (Step "001") runtime (performed runtime calls).1 (performed runtime calls).2
  | [], runtime, _ => .nil runtime
  | call :: rest, runtime, h => by
    obtain ⟨hfits, hrest⟩ := Bool.and_eq_true_iff.mp h
    exact .cons ⟨hfits, rfl, rfl⟩ (run_performed rest _ hrest)

/-- The client order ids that were minted. -/
def minted : List String :=
  ((performed .empty calls).1.flatMap Prod.snd).map fun entry => entry.order.clientOrderId

theorem minted_ids :
    minted = ["001-eth-hourly-1000-yes-1", "001-eth-hourly-1000-no-1", "001-eth-hourly-1000-yes-2",
        "001-eth-hourly-1000-no-2"] ∧ minted.Nodup := by
  have hfit : allFit .empty calls = true := by decide +kernel
  refine ⟨by decide +kernel, ?_⟩
  exact (order_ids_are_minted_once (run_performed calls .empty hfit)).1

end RequotedMarket

end BoltV3.Maker
