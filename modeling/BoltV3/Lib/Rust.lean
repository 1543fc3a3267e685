import Mathlib.Tactic.Common

/-!
# Machine integers and text as Rust has them

Unsigned integers are `Nat`s below an explicit bound: `checkedAdd` is `checked_add` at that bound,
`checkedSub` is `checked_sub`, `saturatingSucc` is a checked successor whose failure is ignored.
A chain of early returns `if failed { return reason }` is a table of tests read by `firstRefusal`.
`isBlank` is `trim().is_empty()` and `isTrimmed` is `trim().len() == len()`, over the characters
that `char::is_whitespace` accepts.
-/

namespace BoltV3.Lib

/-! ## Integers -/

/-- `u32::MAX`. -/
def u32Max : Nat := 4294967295

/-- `u64::MAX`. -/
def u64Max : Nat := 18446744073709551615

/-- `a.checked_add(b)` on integers up to `bound`. -/
def checkedAdd (bound a b : Nat) : Option Nat :=
  if a + b ≤ bound then some (a + b) else none

/-- `a.checked_sub(b)`. -/
def checkedSub (a b : Nat) : Option Nat :=
  if b ≤ a then some (a - b) else none

/-- `a.checked_mul(b)` on integers up to `bound`. -/
def checkedMul (bound a b : Nat) : Option Nat :=
  if a * b ≤ bound then some (a * b) else none

/-- `a.checked_div(b)`. -/
def checkedDiv (a b : Nat) : Option Nat := if b = 0 then none else some (a / b)

/-- The successor where there is one below the bound, otherwise the number itself. -/
def saturatingSucc (bound a : Nat) : Nat :=
  if a + 1 ≤ bound then a + 1 else a

variable {bound a b c : Nat}

theorem checkedAdd_eq_some : checkedAdd bound a b = some c ↔ a + b ≤ bound ∧ c = a + b := by
  by_cases h : a + b ≤ bound <;> simp [checkedAdd, h, eq_comm]

theorem checkedAdd_eq_none : checkedAdd bound a b = none ↔ bound < a + b := by
  unfold checkedAdd
  split <;> simp_all

theorem checkedSub_eq_some : checkedSub a b = some c ↔ b ≤ a ∧ c = a - b := by
  by_cases h : b ≤ a <;> simp [checkedSub, h, eq_comm]

theorem checkedMul_eq_some : checkedMul bound a b = some c ↔ a * b ≤ bound ∧ c = a * b := by
  by_cases h : a * b ≤ bound <;> simp [checkedMul, h, eq_comm]

theorem checkedDiv_eq_some : checkedDiv a b = some c ↔ b ≠ 0 ∧ c = a / b := by
  by_cases h : b = 0 <;> simp [checkedDiv, h, eq_comm]

theorem le_saturatingSucc (bound a : Nat) : a ≤ saturatingSucc bound a := by
  unfold saturatingSucc
  split <;> omega

theorem saturatingSucc_le (h : a ≤ bound) : saturatingSucc bound a ≤ bound := by
  unfold saturatingSucc
  split <;> omega

theorem saturatingSucc_eq (h : a < bound) : saturatingSucc bound a = a + 1 := by
  unfold saturatingSucc
  rw [if_pos (by omega)]

theorem saturatingSucc_exhausted (h : bound < a + 1) : saturatingSucc bound a = a := by
  unfold saturatingSucc
  rw [if_neg (by omega)]

/-! ## Early returns -/

/-- The reason of the first test that fails. -/
def firstRefusal {ρ : Type} : List (Bool × ρ) → Option ρ
  | [] => none
  | (failed, reason) :: rest => if failed then some reason else firstRefusal rest

theorem firstRefusal_eq_none {ρ : Type} :
    ∀ {tests : List (Bool × ρ)}, firstRefusal tests = none ↔ ∀ test ∈ tests, test.1 = false
  | [] => by simp [firstRefusal]
  | (failed, reason) :: rest => by
    cases failed <;> simp [firstRefusal, firstRefusal_eq_none]

theorem firstRefusal_mem {ρ : Type} {reason : ρ} :
    ∀ {tests : List (Bool × ρ)}, firstRefusal tests = some reason → reason ∈ tests.map Prod.snd
  | (true, _) :: _, h => by
    cases h
    simp
  | (false, _) :: _, h => List.mem_cons_of_mem _ (firstRefusal_mem h)

/-! ## Text -/

/-- `char::is_whitespace`, the Unicode property `White_Space`. -/
def isWhitespace (c : Char) : Bool :=
  let n := c.toNat
  (9 ≤ n && n ≤ 13) || n == 32 || n == 133 || n == 160 || n == 5760 ||
    (8192 ≤ n && n ≤ 8202) || n == 8232 || n == 8233 || n == 8239 || n == 8287 || n == 12288

/-- `text.trim().is_empty()`. -/
def isBlank (text : String) : Bool := text.toList.all isWhitespace

/-- `text.trim().len() == text.len()`: no whitespace at either end. -/
def isTrimmed (text : String) : Bool :=
  text.toList.head?.all (!isWhitespace ·) && text.toList.getLast?.all (!isWhitespace ·)

/-! ## Results -/

theorem mem_of_mapM {α β : Type} {f : α → Option β} {l : List α} {collected : List β}
    (h : l.mapM f = some collected) {a : α} {b : β} (ha : a ∈ l) (hb : f a = some b) :
    b ∈ collected := by
  induction l generalizing collected with
  | nil => cases ha
  | cons first rest ih =>
    simp only [List.mapM_cons, Option.bind_eq_bind, Option.bind_eq_some_iff, Option.pure_def,
      Option.some.injEq] at h
    obtain ⟨head, hhead, tail, htail, rfl⟩ := h
    rcases List.mem_cons.mp ha with rfl | hrest
    · cases hhead.symm.trans hb
      exact List.mem_cons_self
    · exact List.mem_cons_of_mem head (ih htail hrest)

variable {ε α : Type}

/-- `ok_or`. -/
def okOr (error : ε) : Option α → Except ε α
  | none => .error error
  | some a => .ok a

theorem okOr_eq_ok {error : ε} {o : Option α} {a : α} : okOr error o = .ok a ↔ o = some a := by
  cases o <;> simp [okOr]

theorem bind_eq_ok {ε α β : Type} {x : Except ε α} {f : α → Except ε β} {b : β} :
    x >>= f = .ok b ↔ ∃ a, x = .ok a ∧ f a = .ok b := by
  cases x <;> simp [bind, Except.bind]

/-- A `return Err(..)` under a test. -/
theorem ite_throw_eq_ok {ε α β : Type} {c : Prop} [Decidable c] {error : ε}
    {f : α → Except ε β} {x : Except ε β} {b : β} :
    (if c then throw error >>= f else x) = .ok b ↔ ¬c ∧ x = .ok b := by
  split <;> simp_all [throw, throwThe, MonadExceptOf.throw, bind, Except.bind]

theorem mapError_eq_ok {ε ε' α : Type} {f : ε → ε'} {x : Except ε α} {a : α} :
    x.mapError f = .ok a ↔ x = .ok a := by
  cases x <;> simp [Except.mapError]

theorem eq_ok_of_toOption {result : Except ε α} {a : α}
    (h : result.toOption = some a) : result = .ok a := by
  cases result with
  | error e => cases h
  | ok b => exact congrArg Except.ok (Option.some.inj h)

end BoltV3.Lib
