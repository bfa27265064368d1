import Mathlib

namespace SupplyDrop.Library.Hex

/-! ## Digits -/

def digitValue (b : UInt8) : Option Nat :=
  if 0x30 ≤ b ∧ b ≤ 0x39 then some (b.toNat - 0x30)
  else if 0x61 ≤ b ∧ b ≤ 0x66 then some (b.toNat - 0x57)
  else if 0x41 ≤ b ∧ b ≤ 0x46 then some (b.toNat - 0x37)
  else none

def digitByte (n : Nat) : UInt8 := UInt8.ofNat (Nat.digitChar n).toNat

theorem digitValue_digitByte : ∀ n < 16, digitValue (digitByte n) = some n := by decide

theorem digitChar_ascii : ∀ n < 16, (Nat.digitChar n).toNat < 0x80 := by decide

theorem digitValue_lt {b : UInt8} {d : Nat} (digit : digitValue b = some d) :
    d < 16 ∧ b < 0x80 := by
  unfold digitValue at digit
  simp only [UInt8.le_iff_toNat_le, UInt8.lt_iff_toNat_lt] at digit ⊢
  split_ifs at digit with h₁ h₂ h₃
  all_goals
    have := Option.some.inj digit
    simp only [UInt8.reduceToNat] at *
    omega

/-! ## Numbers, as `u8::from_str_radix` reads them -/

def readDigits : List UInt8 → Nat → Option Nat
  | [], n => some n
  | b :: bs, n => do
      let d ← digitValue b
      if 16 * n + d < 256 then readDigits bs (16 * n + d) else none

def plus : UInt8 := 0x2B

def minus : UInt8 := 0x2D

def fromStrRadix (src : List UInt8) : Option UInt8 :=
  match src with
  | [] => none
  | [b] => if b = plus ∨ b = minus then none else (readDigits [b] 0).map UInt8.ofNat
  | b :: c :: rest =>
      if b = plus then (readDigits (c :: rest) 0).map UInt8.ofNat
      else (readDigits (b :: c :: rest) 0).map UInt8.ofNat

theorem digitValue_plus : digitValue plus = none := by decide

theorem fromStrRadix_digits {a b : UInt8} {x y : Nat} (high : digitValue a = some x)
    (low : digitValue b = some y) : fromStrRadix [a, b] = some (UInt8.ofNat (16 * x + y)) := by
  have first : a ≠ plus := by
    rintro rfl
    cases high
  have xs := (digitValue_lt high).1
  have ys := (digitValue_lt low).1
  rw [fromStrRadix, if_neg first]
  simp [readDigits, high, low, show x < 256 by omega, show 16 * x + y < 256 by omega]

theorem fromStrRadix_plus {b : UInt8} {y : Nat} (low : digitValue b = some y) :
    fromStrRadix [plus, b] = some (UInt8.ofNat y) := by
  have ys := (digitValue_lt low).1
  rw [fromStrRadix, if_pos rfl]
  simp [readDigits, low, show y < 256 by omega]

/-- What a pair of bytes has to be to be read as a number. -/
def Pair (a b : UInt8) : Prop := (a = plus ∨ digitValue a ≠ none) ∧ digitValue b ≠ none

theorem fromStrRadix_pair {a b : UInt8} : fromStrRadix [a, b] ≠ none ↔ Pair a b := by
  unfold Pair
  cases low : digitValue b with
  | none =>
      refine iff_of_false (not_not.mpr ?_) fun pair => pair.2 rfl
      rw [fromStrRadix]
      split_ifs with sign
      · simp [readDigits, low]
      · cases high : digitValue a with
        | none => simp [readDigits, high]
        | some x => simp [readDigits, high, low]
  | some y =>
      by_cases sign : a = plus
      · rw [sign, fromStrRadix_plus low]
        exact iff_of_true nofun ⟨.inl rfl, nofun⟩
      · cases high : digitValue a with
        | none =>
            refine iff_of_false (not_not.mpr ?_) fun pair => pair.1.elim sign fun digit => digit rfl
            rw [fromStrRadix, if_neg sign]
            simp [readDigits, high]
        | some x =>
            rw [fromStrRadix_digits high low]
            exact iff_of_true nofun ⟨.inr nofun, nofun⟩

/-- The digits of bytes, two for each. -/
def encode (bytes : List UInt8) : List UInt8 :=
  bytes.flatMap fun b => [digitByte (b.toNat / 16), digitByte (b.toNat % 16)]

theorem encode_length (bytes : List UInt8) : (encode bytes).length = 2 * bytes.length := by
  induction bytes with
  | nil => rfl
  | cons b bytes ih =>
      unfold encode at ih ⊢
      rw [List.flatMap_cons, List.length_append, ih]
      simp only [List.length_cons, List.length_nil]
      omega

theorem fromStrRadix_encoded (b : UInt8) :
    fromStrRadix [digitByte (b.toNat / 16), digitByte (b.toNat % 16)] = some b := by
  have small := b.toNat_lt
  rw [fromStrRadix_digits (digitValue_digitByte _ (by omega)) (digitValue_digitByte _ (by omega)),
    Nat.div_add_mod, UInt8.ofNat_toNat]

end SupplyDrop.Library.Hex
