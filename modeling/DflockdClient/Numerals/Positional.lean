import Mathlib.Data.Nat.Notation
import Mathlib.Data.List.Basic
import Mathlib.Tactic.Ring

/-!
Numerals in a fixed base, the most significant digit first: Horner's rule, the
numerals of a fixed width, and the order of numbers read off their digits.
-/

namespace Numerals

def value (base : Nat) (digits : List Nat) : Nat :=
  digits.foldl (fun total digit => base * total + digit) 0

def padded (base width number : Nat) : List Nat :=
  match width with
  | 0 => []
  | width + 1 => padded base width (number / base) ++ [number % base]

variable {base : Nat}

theorem foldl_eq (digits : List Nat) (start : Nat) :
    digits.foldl (fun total digit => base * total + digit) start =
      start * base ^ digits.length + value base digits := by
  induction digits generalizing start with
  | nil => simp [value]
  | cons digit rest ih =>
      simp only [value, List.foldl_cons, List.length_cons]
      rw [ih (base * start + digit), ih (base * 0 + digit)]
      ring

@[simp] theorem value_nil : value base [] = 0 := rfl

theorem value_cons (digit : Nat) (rest : List Nat) :
    value base (digit :: rest) = digit * base ^ rest.length + value base rest := by
  have shifted := @foldl_eq base rest (base * 0 + digit)
  simpa [value] using shifted

theorem value_append_one (digits : List Nat) (last : Nat) :
    value base (digits ++ [last]) = base * value base digits + last := by
  simp [value]

theorem value_lt {digits : List Nat} (small : ∀ digit ∈ digits, digit < base) :
    value base digits < base ^ digits.length := by
  induction digits with
  | nil => simp
  | cons digit rest ih =>
      simp only [List.mem_cons, forall_eq_or_imp] at small
      have below := ih small.2
      have room : (digit + 1) * base ^ rest.length ≤ base * base ^ rest.length :=
        Nat.mul_le_mul_right _ small.1
      rw [Nat.add_one_mul] at room
      rw [value_cons, List.length_cons, Nat.pow_succ']
      omega

theorem value_lt_iff {first second : List Nat} (width : first.length = second.length)
    (small : ∀ digit ∈ first, digit < base) (small' : ∀ digit ∈ second, digit < base) :
    value base first < value base second ↔ first < second := by
  induction first generalizing second with
  | nil =>
      have empty : second = [] := List.length_eq_zero_iff.mp width.symm
      subst empty
      simp
  | cons digit rest ih =>
      cases second with
      | nil => simp at width
      | cons digit' rest' =>
          simp only [List.mem_cons, forall_eq_or_imp] at small small'
          simp only [List.length_cons, Nat.add_right_cancel_iff] at width
          have below := value_lt small.2
          have below' := value_lt small'.2
          rw [value_cons, value_cons, List.cons_lt_cons_iff, ← width]
          rw [← width] at below'
          rcases Nat.lt_trichotomy digit digit' with less | same | greater
          · have room : (digit + 1) * base ^ rest.length ≤ digit' * base ^ rest.length :=
              Nat.mul_le_mul_right _ less
            rw [Nat.add_one_mul] at room
            have ordered : digit * base ^ rest.length + value base rest <
                digit' * base ^ rest.length + value base rest' := by omega
            simp [less, ordered]
          · subst same
            simp [ih width small.2 small'.2]
          · have room : (digit' + 1) * base ^ rest.length ≤ digit * base ^ rest.length :=
              Nat.mul_le_mul_right _ greater
            rw [Nat.add_one_mul] at room
            constructor
            · intro ordered
              omega
            · rintro (less | ⟨same, _⟩) <;> omega

@[simp] theorem padded_length (width number : Nat) : (padded base width number).length = width := by
  induction width generalizing number with
  | zero => rfl
  | succ width ih => simp [padded, ih]

theorem padded_lt (positive : 0 < base) (width number : Nat) :
    ∀ digit ∈ padded base width number, digit < base := by
  induction width generalizing number with
  | zero => simp [padded]
  | succ width ih =>
      intro digit member
      simp only [padded, List.mem_append, List.mem_singleton] at member
      rcases member with before | rfl
      · exact ih _ digit before
      · exact Nat.mod_lt _ positive

theorem value_padded {width number : Nat} (fits : number < base ^ width) :
    value base (padded base width number) = number := by
  induction width generalizing number with
  | zero =>
      simp only [Nat.pow_zero, Nat.lt_one_iff] at fits
      simp [padded, fits]
  | succ width ih =>
      have before : number / base < base ^ width := by
        rw [Nat.pow_succ] at fits
        exact Nat.div_lt_of_lt_mul (by rwa [Nat.mul_comm])
      rw [padded, value_append_one, ih before]
      exact Nat.div_add_mod number base

end Numerals
