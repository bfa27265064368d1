import Mathlib

namespace SupplyDrop.Library.Bytes

/-! ## Numbers as bytes, the low byte first -/

def leBytes : Nat → Nat → List UInt8
  | 0, _ => []
  | n + 1, v => UInt8.ofNat v :: leBytes n (v / 256)

def leValue : List UInt8 → Nat
  | [] => 0
  | b :: bs => b.toNat + 256 * leValue bs

def beBytes (n v : Nat) : List UInt8 := (leBytes n v).reverse

def beValue (bs : List UInt8) : Nat := leValue bs.reverse

@[simp] theorem leBytes_length (n v : Nat) : (leBytes n v).length = n := by
  induction n generalizing v with
  | zero => rfl
  | succ n ih => rw [leBytes, List.length_cons, ih]

@[simp] theorem beBytes_length (n v : Nat) : (beBytes n v).length = n := by
  rw [beBytes, List.length_reverse, leBytes_length]

theorem leValue_leBytes (n v : Nat) : leValue (leBytes n v) = v % 256 ^ n := by
  induction n generalizing v with
  | zero => rw [leBytes, leValue, pow_zero, Nat.mod_one]
  | succ n ih =>
      have low : (UInt8.ofNat v).toNat = v % 256 := UInt8.toNat_ofNat'
      rw [leBytes, leValue, ih, low, pow_succ', Nat.mod_mul]

theorem beValue_beBytes (n v : Nat) : beValue (beBytes n v) = v % 256 ^ n := by
  rw [beValue, beBytes, List.reverse_reverse, leValue_leBytes]

theorem leValue_lt (bs : List UInt8) : leValue bs < 256 ^ bs.length := by
  induction bs with
  | nil => exact Nat.one_pos
  | cons b bs ih =>
      have := b.toNat_lt
      rw [leValue, List.length_cons, pow_succ]
      omega

theorem leBytes_leValue (bs : List UInt8) : leBytes bs.length (leValue bs) = bs := by
  induction bs with
  | nil => rfl
  | cons b bs ih =>
      have small := b.toNat_lt
      have low : UInt8.ofNat (b.toNat + 256 * leValue bs) = b := by
        apply UInt8.toNat_inj.mp
        rw [UInt8.toNat_ofNat']
        omega
      have high : (b.toNat + 256 * leValue bs) / 256 = leValue bs := by omega
      rw [leValue, List.length_cons, leBytes, low, high, ih]

/-! ## Reading at an offset, as a slice of Rust does -/

/-- `[u8; n]`. -/
abbrev Fixed (n : Nat) := { bs : List UInt8 // bs.length = n }

/-- `&bs[start..stop]`, `none` where that is out of range. -/
def range? (bs : List UInt8) (start stop : Nat) : Option (List UInt8) :=
  if start ≤ stop ∧ stop ≤ bs.length then some ((bs.drop start).take (stop - start)) else none

/-- `copy_from_slice` into an array of `n` bytes, `none` where the lengths differ. -/
def fixed? (n : Nat) (bs : List UInt8) : Option (Fixed n) :=
  if length : bs.length = n then some ⟨bs, length⟩ else none

theorem range?_some {bs : List UInt8} {start stop : Nat} (ordered : start ≤ stop)
    (inside : stop ≤ bs.length) :
    range? bs start stop = some ((bs.drop start).take (stop - start)) :=
  if_pos ⟨ordered, inside⟩

theorem length_range {bs : List UInt8} {start stop : Nat} (ordered : start ≤ stop)
    (inside : stop ≤ bs.length) : ((bs.drop start).take (stop - start)).length = stop - start := by
  rw [List.length_take, List.length_drop]
  omega

theorem fixed?_some {n : Nat} {bs : List UInt8} (length : bs.length = n) :
    fixed? n bs = some ⟨bs, length⟩ :=
  dif_pos length

/-- A list is cut at an offset into the part read there and what follows it. -/
theorem take_drop_append (bs : List UInt8) (start n : Nat) :
    (bs.drop start).take n ++ bs.drop (start + n) = bs.drop start := by
  rw [← List.drop_drop, List.take_append_drop]

end SupplyDrop.Library.Bytes
