import Mathlib.Tactic.Common

/-!
# Computations with early returns

An `Action` works on a state and may return early with an error; the state it has reached by then
stays. This is a method that takes `&mut self` and uses `?`. `exec` runs it from a state.

`Yields P x Q E`: from every state where `P` holds, `x` ends with a value and a state that satisfy
`Q`, or with an error in a state where `E` holds. The rules follow the construction of the action.
`Ends` is the case in which nothing is said about the value, and `Returns` the one in which nothing
is said about the states.
-/

namespace BoltV3.Lib

variable {σ ε α β : Type}

/-- A computation on a state with early returns. -/
abbrev Action (σ ε : Type) := ExceptT ε (StateM σ)

namespace Action

/-- The result of an action from a state, and the state it ends in. -/
def exec (x : Action σ ε α) (s : σ) : Except ε α × σ := x.run.run s

@[simp] theorem exec_pure (a : α) (s : σ) : (pure a : Action σ ε α).exec s = (.ok a, s) := rfl

theorem exec_bind (x : Action σ ε α) (f : α → Action σ ε β) (s : σ) : (x >>= f).exec s =
      match x.exec s with
      | (.ok a, s') => (f a).exec s'
      | (.error e, s') => (.error e, s') := by
  change (match x s with | (r, s') => (ExceptT.bindCont f r : StateM σ (Except ε β)) s') = _
  unfold exec
  change _ = match x s with | (.ok a, s') => f a s' | (.error e, s') => (.error e, s')
  rcases x s with ⟨_ | _, s'⟩ <;> rfl

@[simp] theorem exec_get_bind (f : σ → Action σ ε β) (s : σ) :
    (get >>= f).exec s = (f s).exec s := rfl

@[simp] theorem exec_modify_bind (g : σ → σ) (f : Unit → Action σ ε β) (s : σ) :
    (modify g >>= f).exec s = (f ()).exec (g s) := rfl

variable {x : Action σ ε α} {s s' : σ}

theorem exec_bind_ok {a : α} (h : x.exec s = (.ok a, s'))
    (f : α → Action σ ε β) : (x >>= f).exec s = (f a).exec s' := by
  rw [exec_bind, h]

/-- A sequence that returns a value went through both of its parts. -/
theorem exec_bind_eq_ok {f : α → Action σ ε β} {s t : σ} {b : β} :
    (x >>= f).exec s = (.ok b, t) ↔
      ∃ a s', x.exec s = (.ok a, s') ∧ (f a).exec s' = (.ok b, t) := by
  rw [exec_bind]
  rcases hrun : x.exec s with ⟨_ | a, s'⟩
  · simp
  · constructor
    · exact fun h => ⟨a, s', rfl, h⟩
    · rintro ⟨a', s'', ⟨⟩, h⟩
      exact h

theorem exec_map (f : α → β) (x : Action σ ε α) (s : σ) :
    (f <$> x).exec s = ((x.exec s).1.map f, (x.exec s).2) := by
  rw [map_eq_pure_bind, exec_bind]
  rcases x.exec s with ⟨_ | _, _⟩ <;> rfl

/-! ## Pre- and postconditions -/

/-- The end of a run: a value and a state with `Q`, or an error in a state with `E`. -/
def EndsIn (Q : α → σ → Prop) (E : σ → Prop) : Except ε α × σ → Prop
  | (.ok a, s) => Q a s
  | (.error _, s) => E s

/-- From a state with `P` the action ends with a value and a state that satisfy `Q`, or with an
error in a state with `E`. -/
def Yields (P : σ → Prop) (x : Action σ ε α) (Q : α → σ → Prop) (E : σ → Prop) : Prop :=
  ∀ s, P s → EndsIn Q E (x.exec s)

/-- From a state with `P` the action ends with a value in a state with `Q`, or with an error in a
state with `E`. -/
def Ends (P : σ → Prop) (x : Action σ ε α) (Q E : σ → Prop) : Prop := Yields P x (fun _ => Q) E

section

variable {P P' E E' : σ → Prop} {Q Q' : α → σ → Prop} {R : β → σ → Prop}

theorem Yields.pure {a : α} (h : ∀ s, P s → Q a s) : Yields P (Pure.pure a : Action σ ε α) Q E := h

/-- The value says of the state what held of it before. -/
theorem Yields.same {a : α} (h : P = Q a) : Yields P (Pure.pure a : Action σ ε α) Q E := by
  rw [h]
  exact fun _ hs => hs

theorem Yields.bind {f : α → Action σ ε β} (hx : Yields P x Q E)
    (hf : ∀ a, Yields (Q a) (f a) R E) : Yields P (x >>= f) R E := by
  intro s hs
  have hend := hx s hs
  rw [exec_bind]
  rcases hrun : x.exec s with ⟨_ | a, s'⟩ <;> rw [hrun] at hend
  · exact hend
  · exact hf a s' hend

theorem Yields.pre (h : Yields P x Q E) (hP : ∀ s, P' s → P s) : Yields P' x Q E :=
  fun s hs => h s (hP s hs)

theorem Yields.mono (h : Yields P x Q E) (hQ : ∀ a s, Q a s → Q' a s) (hE : ∀ s, E s → E' s) :
    Yields P x Q' E' := by
  intro s hs
  have hend := h s hs
  rcases hrun : x.exec s with ⟨_ | a, s'⟩
  · rw [hrun] at hend
    exact hE s' hend
  · rw [hrun] at hend
    exact hQ a s' hend

theorem Yields.of_exec (h : Yields P x Q E) {s s' : σ} {a : α} (hs : P s)
    (hrun : x.exec s = (.ok a, s')) : Q a s' := by
  have hend := h s hs
  rw [hrun] at hend
  exact hend

end

/-- A value that the action returns, from any state, satisfies `Q`. -/
def Returns (x : Action σ ε α) (Q : α → Prop) : Prop :=
  Yields (fun _ => True) x (fun a _ => Q a) fun _ => True

section

variable {Q Q' : α → Prop} {R : β → Prop}

theorem Returns.pure {a : α} (h : Q a) : Returns (Pure.pure a : Action σ ε α) Q := fun _ _ => h

theorem Returns.trivial (x : Action σ ε α) : Returns x fun _ => True := by
  intro s _
  rcases hrun : x.exec s with ⟨_ | a, s'⟩
  · exact True.intro
  · exact True.intro

theorem Returns.mono (h : Returns x Q) (hQ : ∀ a, Q a → Q' a) : Returns x Q' :=
  Yields.mono h (fun a _ => hQ a) fun _ h => h

theorem Returns.and (h : Returns x Q) (h' : Returns x Q') : Returns x fun a => Q a ∧ Q' a := by
  intro s hs
  have hend := h s hs
  have hend' := h' s hs
  rcases hrun : x.exec s with ⟨_ | a, s'⟩
  · exact True.intro
  · rw [hrun] at hend hend'
    exact ⟨hend, hend'⟩

theorem Returns.bind {f : α → Action σ ε β} (hx : Returns x Q) (hf : ∀ a, Q a → Returns (f a) R) :
    Returns (x >>= f) R :=
  Yields.bind hx fun a _ ha => hf a ha _ True.intro

theorem Returns.after {f : α → Action σ ε β} (hf : ∀ a, Returns (f a) R) : Returns (x >>= f) R :=
  (Returns.trivial x).bind fun a _ => hf a

theorem Returns.of_exec (h : Returns x Q) {s s' : σ} {a : α} (hrun : x.exec s = (.ok a, s')) :
    Q a :=
  Yields.of_exec h True.intro hrun

end

variable {P Q Q' R E E' : σ → Prop}

theorem Ends.pure (a : α) : Ends P (Pure.pure a : Action σ ε α) P E := fun _ hs => hs

theorem Ends.modify {f : σ → σ} (h : ∀ s, P s → Q (f s)) :
    Ends P (modifyThe σ f : Action σ ε PUnit) Q E := h

theorem Ends.bind {f : α → Action σ ε β} (hx : Ends P x Q E) (hf : ∀ a, Ends Q (f a) R E) :
    Ends P (x >>= f) R E :=
  Yields.bind hx hf

theorem Ends.mono (h : Ends P x Q E) (hQ : ∀ s, Q s → Q' s) (hE : ∀ s, E s → E' s) :
    Ends P x Q' E' :=
  Yields.mono h (fun _ => hQ) hE

theorem Ends.mono_error (h : Ends P x Q E) (hE : ∀ s, E s → E' s) : Ends P x Q E' :=
  h.mono (fun _ h => h) hE

/-- An action that returns early does so in a state with `E`. -/
theorem Ends.then_throw {e : ε} {Q : β → σ → Prop} (h : Ends P x E E) :
    Yields P (x >>= fun _ => (MonadExceptOf.throw e : Action σ ε β)) Q E :=
  Yields.bind h fun _ _ hs => hs

theorem Ends.then_pure {f : α → β} (h : Ends P x Q E) :
    Ends P (x >>= fun a => Pure.pure (f a)) Q E :=
  h.bind fun a => .pure (f a)

/-- The end of a run satisfies what value and error states have in common. -/
theorem Ends.exec (h : Ends P x Q Q) {s : σ} (hs : P s) : Q (x.exec s).2 := by
  have hend := h s hs
  rcases hrun : x.exec s with ⟨_ | _, s'⟩ <;> rw [hrun] at hend <;> exact hend

theorem Ends.of_exec (h : Ends P x Q Q) (hs : P s) {result : Except ε α}
    (hrun : x.exec s = (result, s')) : Q s' := by
  have hend := h.exec hs
  rw [hrun] at hend
  exact hend

end Action

end BoltV3.Lib
