import Mathlib.Tactic.Common

/-!
# Runs of labelled transition relations

`Run step s labels t` is a run of `step` from `s` to `t`. An invariant kept by every step holds
along every run, and a preorder that contains every step contains every run.

A relation is *stamped* if every step that changes the view advances a stamp, until the stamp
reaches its bound. A reader who finds the stamp as they left it, below the bound, has missed no
change: the rule behind a compare-and-set on a revision counter.
-/

namespace BoltV3.Lib

variable {σ τ ℓ μ ν : Type}

/-- A run of a labelled transition relation. -/
inductive Run (step : σ → ℓ → σ → Prop) : σ → List ℓ → σ → Prop
  | nil (s : σ) : Run step s [] s
  | cons {s t u : σ} {a : ℓ} {as : List ℓ} (first : step s a t) (rest : Run step t as u) :
      Run step s (a :: as) u

namespace Run

variable {step : σ → ℓ → σ → Prop} {s t u : σ} {a : ℓ} {as bs : List ℓ}

theorem single (h : step s a t) : Run step s [a] t := .cons h (.nil t)

theorem append (h : Run step s as t) (h' : Run step t bs u) : Run step s (as ++ bs) u := by
  induction h with
  | nil _ => exact h'
  | cons first _ ih => exact .cons first (ih h')

theorem eq_of_nil (h : Run step s [] t) : s = t := by
  cases h
  rfl

theorem invariant {I : σ → Prop} (keeps : ∀ s a t, I s → step s a t → I t) (h : Run step s as t)
    (hs : I s) : I t := by
  induction h with
  | nil _ => exact hs
  | cons first _ ih => exact ih (keeps _ _ _ hs first)

/-- A reflexive and transitive relation that contains every step contains every run. -/
theorem preorder {R : σ → σ → Prop} (refl : ∀ s, R s s)
    (trans : ∀ s t u, R s t → R t u → R s u) (steps : ∀ s a t, step s a t → R s t)
    (h : Run step s as t) : R s t := by
  induction h with
  | nil s => exact refl s
  | cons first _ ih => exact trans _ _ _ (steps _ _ _ first) ih

theorem foldl (f : σ → ℓ → σ) (as : List ℓ) (s : σ) :
    Run (fun s a t => f s a = t) s as (as.foldl f s) := by
  induction as generalizing s with
  | nil => exact .nil s
  | cons a as ih => exact .cons rfl (ih (f s a))

end Run

/-! ## Stamps -/

/-- A step that leaves the stamp leaves the view, or the stamp is at its bound. -/
structure Stamped (step : σ → ℓ → σ → Prop) (stamp : σ → Nat) (bound : Nat) (view : σ → ν) :
    Prop where
  le : ∀ s a t, step s a t → stamp s ≤ stamp t
  unchanged : ∀ s a t, step s a t → stamp s = stamp t → view s = view t ∨ bound ≤ stamp s

namespace Run

variable {step : σ → ℓ → σ → Prop} {stamp : σ → Nat} {bound : Nat} {view : σ → ν} {s t : σ}
  {as : List ℓ}

theorem stamp_le (stamped : Stamped step stamp bound view) (h : Run step s as t) :
    stamp s ≤ stamp t :=
  h.preorder (R := fun s t => stamp s ≤ stamp t) (fun _ => Nat.le_refl _)
    (fun _ _ _ => Nat.le_trans) stamped.le

/-- **A run that leaves the stamp, below its bound, leaves the view.** -/
theorem view_eq (stamped : Stamped step stamp bound view) (h : Run step s as t)
    (hstamp : stamp s = stamp t) (hbound : stamp t < bound) : view s = view t := by
  induction h with
  | nil _ => rfl
  | @cons s m t a as first rest ih =>
    -- The stamp is squeezed between two equal ones at every intermediate state.
    have hfirst := stamped.le _ _ _ first
    have hrest := rest.stamp_le stamped
    have hview : view s = view m := by
      rcases stamped.unchanged _ _ _ first (by omega) with h | h
      · exact h
      · omega
    rw [hview, ih (by omega) hbound]

end Run

end BoltV3.Lib
