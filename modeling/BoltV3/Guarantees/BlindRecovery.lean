import BoltV3.Taker.Rule

/-!
# Blind recovery is left by a clean start only

Four operations of the exposure owner overwrite its state whatever it is. The handlers call none of
them while the owner is blind, so blind recovery lasts until the bootstrap observes a clean start,
and until then no entry is armed and no exit is begun.
-/

namespace BoltV3.Taker

open ExposureOwner

open Exit (InstrumentId)

/-! ## One call after the other -/

namespace ExposureOwner

theorem applyAll_blind {D : Discipline} {owner : ExposureOwner} {calls : List ExposureCall}
    (hblind : owner.isBlindRecovery) (hallowed : D.AllowsAll owner calls)
    (hclean : .observeCleanStart ∉ calls) : (owner.applyAll calls).isBlindRecovery := by
  induction calls generalizing owner with
  | nil => exact hblind
  | cons c rest ih =>
    rw [List.mem_cons, not_or] at hclean
    exact ih (apply_blind hblind hallowed.1 (Ne.symm hclean.1)).1 hallowed.2 hclean.2

end ExposureOwner

/-! ## Every run -/

theorem run_conforms (events : List TakerEvent) :
    Conforms .unrestricted .new (TakerState.new.run events) := by
  have hstep : ∀ s : TakerState, Conforms .unrestricted .new s →
      Conforms .unrestricted .new (s.run events) := by
    induction events with
    | nil => exact fun s h => h
    | cons event rest ih =>
      exact fun s h => ih _ (Conforms.rule.handle h event (fun _ _ => trivial)
        (fun _ _ _ => h.bootstrap) (fun _ _ _ _ _ _ => ⟨trivial, trivial⟩) fun _ _ _ => trivial)
  have hinit : Conforms .unrestricted TakerState.new.exposure .new := .init (fun _ _ => trivial) rfl
  exact hstep .new hinit

/-- **Blind recovery is left by a clean start only.** Split the calls that any run of handlers
makes, at a point where the owner is blind, inside a handler or between two. Until the next clean
start the owner is blind before every later call and after the last one, and no call arms an entry
or begins an exit. -/
theorem blind_recovery_stays (events : List TakerEvent) {before after : List ExposureCall}
    (hcalls : (TakerState.new.run events).calls = before ++ after)
    (hblind : (new.applyAll before).isBlindRecovery) (hclean : .observeCleanStart ∉ after) :
    (TakerState.new.run events).exposure.isBlindRecovery ∧
    ∀ middle c rest, after = middle ++ c :: rest →
      (new.applyAll (before ++ middle)).isBlindRecovery ∧
      (new.applyAll (before ++ middle)).begins c = false := by
  have hconforms := run_conforms events
  have hallowed := hconforms.allowed
  rw [hcalls, Discipline.allowsAll_append] at hallowed
  have happend : ∀ calls, new.applyAll (before ++ calls) =
      (new.applyAll before).applyAll calls := fun calls => List.foldl_append
  constructor
  · rw [hconforms.owner, hcalls, happend]
    exact applyAll_blind hblind hallowed.2 hclean
  · rintro middle c rest rfl
    rw [List.mem_append, List.mem_cons, not_or, not_or] at hclean
    obtain ⟨hmiddle, hc, -⟩ := Discipline.allowsAll_append.mp hallowed.2
    rw [happend]
    have hstays := applyAll_blind hblind hmiddle hclean.1
    exact ⟨hstays, (apply_blind hstays hc (Ne.symm hclean.2.1)).2⟩

namespace ForeignPosition

/-- One position is open, on the execution venue. -/
def view : TakerView :=
  { TakerView.silent with
    positionsOpen := [⟨⟨"market-yes", "POLYMARKET"⟩, "position", .buy, .long, ⟨5, 0⟩, ⟨0⟩⟩]
    exitOrder := some "exit"
    entryOrder := some ⟨"entry", none, .missing, ⟨"market-yes", "POLYMARKET"⟩⟩ }

/-- A position of another venue is seen, then the own position, then market data. -/
def events : List TakerEvent :=
  [.positionOpened view ⟨⟨"market-yes", "ELSEWHERE"⟩, "foreign", .buy, .long, ⟨5, 0⟩, ⟨0⟩⟩,
    .positionOpened view ⟨⟨"market-yes", "POLYMARKET"⟩, "position", .buy, .long, ⟨5, 0⟩, ⟨0⟩⟩,
    .bookDeltas view true]

/-- The taker stays blind: the own position is not taken into management. -/
theorem position_is_not_managed : ∃ after, (TakerState.new.run events).calls =
        [.enterBlindRecovery (.foreignVenuePosition "ELSEWHERE" "POLYMARKET")] ++ after ∧
      after ≠ [] ∧ (TakerState.new.run events).exposure.isBlindRecovery := by
  have hcalls : (TakerState.new.run events).calls =
      [.enterBlindRecovery (.foreignVenuePosition "ELSEWHERE" "POLYMARKET")] ++
      [.materializeSupportedPosition ⟨.missing, ⟨"market-yes", "POLYMARKET"⟩, "position"⟩ false
        (.invalidLivePosition .buy (some .long))] := by decide +kernel
  exact ⟨_, hcalls, by decide, (blind_recovery_stays events hcalls rfl (by decide)).1⟩

end ForeignPosition

end BoltV3.Taker
