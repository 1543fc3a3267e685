import Mathlib.Algebra.Order.BigOperators.Group.List
import Mathlib.Algebra.Order.Field.Rat
import Mathlib.Algebra.Order.Ring.Abs
import Mathlib.Data.Nat.Digits.Lemmas
import Mathlib.Tactic.FieldSimp
import Mathlib.Tactic.Linarith
import Mathlib.Tactic.Ring

/-!
# Decimal numbers and checked arithmetic

A decimal is a mantissa and a scale, `mantissa · 10⁻ˢᶜᵃˡᵉ`; it denotes the rational `value`. Two
decimals with one value can be written differently (`1.0`, `1.00`), so the order and `NumEq`
compare values, by cross multiplication, while `=` compares representations.

`DecimalArith` is the interface of a decimal arithmetic with overflow: `checkedAdd`, `checkedSub`
and `checkedMul` return `none` on overflow, `toText` and `parse` convert to text and back. Programs
are modelled over an arbitrary instance. A result of a 96-bit mantissa and at most 28 decimals is
`Representable`; `DecimalArith.Documented` says that such results are not rounded, and nothing about
the others. `DecimalArith.Exact` is the idealisation in which no result is rounded: an operation
fails exactly when the result is out of range, and text is lossless.
-/

namespace BoltV3.Lib

open List

/-- `mantissa · 10⁻ˢᶜᵃˡᵉ`. -/
structure Decimal where
  mantissa : Int
  scale : Nat
deriving DecidableEq

namespace Decimal

variable (d : Decimal)

/-- The rational a decimal denotes. -/
def value : ℚ := d.mantissa / 10 ^ d.scale

def zero : Decimal := ⟨0, 0⟩

def one : Decimal := ⟨1, 0⟩

/-- The largest decimal of a 96-bit mantissa, `2⁹⁶ - 1`. -/
def max : Decimal := ⟨79228162514264337593543950335, 0⟩

def neg : Decimal := ⟨-d.mantissa, d.scale⟩

def abs : Decimal := ⟨d.mantissa.natAbs, d.scale⟩

instance : LE Decimal :=
  ⟨fun a b => a.mantissa * 10 ^ b.scale ≤ b.mantissa * 10 ^ a.scale⟩

instance : LT Decimal :=
  ⟨fun a b => a.mantissa * 10 ^ b.scale < b.mantissa * 10 ^ a.scale⟩

instance (a b : Decimal) : Decidable (a ≤ b) :=
  inferInstanceAs (Decidable (a.mantissa * 10 ^ b.scale ≤ b.mantissa * 10 ^ a.scale))

instance (a b : Decimal) : Decidable (a < b) :=
  inferInstanceAs (Decidable (a.mantissa * 10 ^ b.scale < b.mantissa * 10 ^ a.scale))

/-- Numeric equality: the same value, whatever the scales. -/
def NumEq (a b : Decimal) : Prop := a.mantissa * 10 ^ b.scale = b.mantissa * 10 ^ a.scale

instance (a b : Decimal) : Decidable (NumEq a b) :=
  inferInstanceAs (Decidable (a.mantissa * 10 ^ b.scale = b.mantissa * 10 ^ a.scale))

variable {a b : Decimal}

theorem le_iff_value : a ≤ b ↔ a.value ≤ b.value := by
  unfold value
  rw [div_le_div_iff₀ (by positivity) (by positivity)]
  show a.mantissa * 10 ^ b.scale ≤ b.mantissa * 10 ^ a.scale ↔ _
  exact_mod_cast Iff.rfl

theorem lt_iff_value : a < b ↔ a.value < b.value := by
  unfold value
  rw [div_lt_div_iff₀ (by positivity) (by positivity)]
  show a.mantissa * 10 ^ b.scale < b.mantissa * 10 ^ a.scale ↔ _
  exact_mod_cast Iff.rfl

theorem numEq_iff_value : NumEq a b ↔ a.value = b.value := by
  unfold value
  rw [div_eq_div_iff (by positivity) (by positivity)]
  unfold NumEq
  exact_mod_cast Iff.rfl

@[simp] theorem numEq_refl (a : Decimal) : NumEq a a := rfl

@[simp] theorem value_zero : zero.value = 0 := by simp [value, zero]

@[simp] theorem value_one : one.value = 1 := by simp [value, one]

end Decimal

open Decimal

/-! ## The interface -/

/-- A decimal arithmetic with overflow, and its text format. -/
class DecimalArith where
  (checkedAdd checkedSub checkedMul : Decimal → Decimal → Option Decimal)
  toText : Decimal → String
  parse : String → Option Decimal

/-- `r` is the checked result `q`: in range it is a decimal of value `q`, out of range `none`. -/
def CheckedAs (r : Option Decimal) (q : ℚ) : Prop :=
  (∀ c, r = some c → c.value = q ∧ |q| ≤ Decimal.max.value) ∧
    (|q| ≤ Decimal.max.value → ∃ c, r = some c)

/-- The results `fits` are not rounded, and their text is lossless. -/
structure DecimalArith.ExactOn (arith : DecimalArith) (fits : ℚ → Prop) : Prop where
  add : ∀ a b, fits (a.value + b.value) → CheckedAs (arith.checkedAdd a b) (a.value + b.value)
  sub : ∀ a b, fits (a.value - b.value) → CheckedAs (arith.checkedSub a b) (a.value - b.value)
  mul : ∀ a b, fits (a.value * b.value) → CheckedAs (arith.checkedMul a b) (a.value * b.value)
  text : ∀ d, fits d.value → ∃ e, arith.parse (arith.toText d) = some e ∧ e.value = d.value

/-- A 96-bit mantissa and at most 28 decimals denote it. -/
def Representable (q : ℚ) : Prop :=
  ∃ d : Decimal, d.mantissa.natAbs < 2 ^ 96 ∧ d.scale ≤ 28 ∧ d.value = q

/-- The contract of the library: what its format represents is not rounded. -/
abbrev DecimalArith.Documented (arith : DecimalArith) : Prop := arith.ExactOn Representable

/-- The idealisation without rounding. -/
abbrev DecimalArith.Exact (arith : DecimalArith) : Prop := arith.ExactOn fun _ => True

/-- The text of a decimal keeps its scale: it is read back as the very same decimal. -/
def DecimalArith.Lossless (arith : DecimalArith) : Prop :=
  ∀ d, arith.parse (arith.toText d) = some d

variable {r : Option Decimal} {q : ℚ} {c : Decimal}

theorem checkedAs_value (h : CheckedAs r q) (hc : r = some c) : c.value = q := (h.1 c hc).1

theorem checkedAs_range (h : CheckedAs r q) (hc : r = some c) : |c.value| ≤ Decimal.max.value := by
  rw [checkedAs_value h hc]
  exact (h.1 c hc).2

theorem checkedAs_exists (h : CheckedAs r q)
    (hq : |q| ≤ Decimal.max.value) : ∃ c, r = some c ∧ c.value = q := by
  obtain ⟨c, hc⟩ := h.2 hq
  exact ⟨c, hc, checkedAs_value h hc⟩

/-! ## Checked sums -/

section

variable [arith : DecimalArith]

/-- `try_fold` with `checked_add` from `start`. -/
def checkedSumFrom (start : Decimal) (ds : List Decimal) : Option Decimal :=
  ds.foldlM DecimalArith.checkedAdd start

theorem checkedSumFrom_cons (start d : Decimal) (ds : List Decimal) :
    checkedSumFrom start (d :: ds) =
      (DecimalArith.checkedAdd start d).bind fun next => checkedSumFrom next ds := by
  unfold checkedSumFrom
  rw [foldlM_cons]
  rfl

theorem checkedSumFrom_value (exact : arith.Exact) :
    ∀ {ds : List Decimal} {start d : Decimal}, checkedSumFrom start ds = some d →
      d.value = start.value + (ds.map Decimal.value).sum
  | [], start, d, h => by
    cases h
    simp
  | e :: ds, start, d, h => by
    rw [checkedSumFrom_cons, Option.bind_eq_some_iff] at h
    obtain ⟨next, hnext, hrest⟩ := h
    rw [checkedSumFrom_value exact hrest, checkedAs_value (exact.add _ _ trivial) hnext, map_cons,
      sum_cons, add_assoc]

/-- A sum of non-negative decimals overflows only when it exceeds the range. -/
theorem checkedSumFrom_overflow (exact : arith.Exact) :
    ∀ {ds : List Decimal} {start : Decimal}, 0 ≤ start.value → (∀ d ∈ ds, 0 ≤ d.value) →
      checkedSumFrom start ds = none →
      Decimal.max.value < start.value + (ds.map Decimal.value).sum
  | [], _, _, _, h => by cases h
  | e :: ds, start, hstart, hds, h => by
    have hrest : 0 ≤ (ds.map Decimal.value).sum := by
      refine sum_nonneg fun q hq => ?_
      obtain ⟨d, hd, rfl⟩ := mem_map.mp hq
      exact hds d (mem_cons_of_mem _ hd)
    have he : 0 ≤ e.value := hds e mem_cons_self
    rw [checkedSumFrom_cons] at h
    rw [map_cons, sum_cons, ← add_assoc]
    by_cases hrange : |start.value + e.value| ≤ Decimal.max.value
    · obtain ⟨next, hnext, hvalue⟩ := checkedAs_exists (exact.add _ _ trivial) hrange
      rw [hnext, Option.bind_some] at h
      rw [← hvalue]
      exact checkedSumFrom_overflow exact (by rw [hvalue]; exact add_nonneg hstart he)
        (fun d hd => hds d (mem_cons_of_mem _ hd)) h
    · rw [not_le, abs_of_nonneg (add_nonneg hstart he)] at hrange
      linarith

end

/-! ## The reference arithmetic

Exact operations on the representations, cut at `Decimal.max`, and a text that is read back. -/

namespace Decimal

variable (a b : Decimal)

def add : Decimal :=
  ⟨a.mantissa * 10 ^ b.scale + b.mantissa * 10 ^ a.scale, a.scale + b.scale⟩

def mul : Decimal := ⟨a.mantissa * b.mantissa, a.scale + b.scale⟩

theorem value_add : (add a b).value = a.value + b.value := by
  unfold value add
  rw [div_add_div _ _ (by positivity) (by positivity)]
  push_cast
  ring

theorem value_mul : (mul a b).value = a.value * b.value := by
  unfold value mul
  push_cast
  rw [pow_add, div_mul_div_comm]

theorem value_neg (a : Decimal) : (neg a).value = -a.value := by
  unfold value neg
  push_cast
  rw [neg_div]

variable (d : Decimal)

/-- Cut at the range `[-max, max]`. -/
def bounded : Option Decimal :=
  if neg max ≤ d ∧ d ≤ max then some d else none

theorem bounded_checked : CheckedAs (bounded d) d.value := by
  have hrange : (neg max ≤ d ∧ d ≤ max) ↔ |d.value| ≤ max.value := by
    rw [le_iff_value, le_iff_value, value_neg, abs_le]
  unfold bounded CheckedAs
  by_cases h : neg max ≤ d ∧ d ≤ max
  · rw [if_pos h]
    refine ⟨fun c hc => ?_, fun _ => ⟨d, rfl⟩⟩
    cases hc
    exact ⟨rfl, hrange.mp h⟩
  · rw [if_neg h]
    exact ⟨fun c hc => (by cases hc), fun hq => absurd (hrange.mpr hq) h⟩

/-! ### Text -/

/-- The text of a decimal: a sign, the digits of the mantissa, and a dot for each decimal. -/
def render : List Char :=
  (if d.mantissa < 0 then ['-'] else []) ++ Nat.toDigits 10 d.mantissa.natAbs ++
    replicate d.scale '.'

/-- Reads the digits, the sign and the number of decimals. -/
def read (chars : List Char) : Decimal :=
  let n : Int := Nat.ofDigitChars 10 (chars.filter Char.isDigit) 0
  ⟨if '-' ∈ chars then -n else n, chars.count '.'⟩

/-- The text of a decimal is read back as the same representation. -/
theorem read_render : read (render d) = d := by
  obtain ⟨m, scale⟩ := d
  have hdigit : ∀ c ∈ Nat.toDigits 10 m.natAbs, c.isDigit = true :=
    fun _ => Nat.isDigit_of_mem_toDigits (by decide) (by decide)
  have hdigits : (Nat.toDigits 10 m.natAbs).filter Char.isDigit = Nat.toDigits 10 m.natAbs :=
    filter_eq_self.mpr hdigit
  have hminus : '-' ∉ Nat.toDigits 10 m.natAbs := fun h => by cases hdigit _ h
  have hdots : (Nat.toDigits 10 m.natAbs).count '.' = 0 :=
    count_eq_zero.mpr fun h => by cases hdigit _ h
  unfold read render
  by_cases hm : m < 0
  · simp [hm, hdigits, hdots, Nat.ofDigitChars_ten_toDigits, abs_of_neg hm]
  · simp [hm, hdigits, hdots, hminus, Nat.ofDigitChars_ten_toDigits, abs_of_nonneg (not_lt.mp hm)]

/-- The reference arithmetic. -/
@[reducible] def reference : DecimalArith where
  checkedAdd a b := bounded (add a b)
  checkedSub a b := bounded (add a (neg b))
  checkedMul a b := bounded (mul a b)
  toText d := String.ofList (render d)
  parse text := some (read text.toList)

theorem reference_lossless : reference.Lossless := by
  intro d
  show some (read (String.ofList (render d)).toList) = some d
  rw [String.toList_ofList, read_render]

/-- The reference arithmetic meets the contract. -/
theorem reference_exact {fits : ℚ → Prop} : reference.ExactOn fits where
  add a b _ := by
    rw [← value_add]
    exact bounded_checked _
  sub a b _ := by
    rw [sub_eq_add_neg, ← value_neg, ← value_add]
    exact bounded_checked _
  mul a b _ := by
    rw [← value_mul]
    exact bounded_checked _
  text d _ := ⟨d, reference_lossless d, rfl⟩

end Decimal

end BoltV3.Lib
