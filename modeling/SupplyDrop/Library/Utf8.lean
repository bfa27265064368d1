import Mathlib

/-! # UTF-8 as Rust's standard library reads and writes it -/

namespace SupplyDrop.Library.Utf8

/-- `str::as_bytes`. -/
def asBytes (s : String) : List UInt8 := s.toList.flatMap String.utf8EncodeChar

def isContinuation (b : UInt8) : Bool := 0x80 ≤ b && b ≤ 0xBF

/-- Whether a character may start with these two bytes. -/
def startsChar (lead second : UInt8) : Bool :=
  if lead = 0xE0 then 0xA0 ≤ second && second ≤ 0xBF
  else if lead = 0xED then 0x80 ≤ second && second ≤ 0x9F
  else if lead = 0xF0 then 0x90 ≤ second && second ≤ 0xBF
  else if lead = 0xF4 then 0x80 ≤ second && second ≤ 0x8F
  else 0xE1 ≤ lead && lead ≤ 0xF3 && isContinuation second

/-- How many of the bytes behind `lead` one replacement character stands for with it, where no
character starts at `lead`. -/
def brokenTail (lead : UInt8) : List UInt8 → Nat
  | [] => 0
  | [second] => if startsChar lead second then 1 else 0
  | second :: third :: _ =>
      if startsChar lead second then if 0xF0 ≤ lead && isContinuation third then 2 else 1 else 0

/-- The first character, and how many bytes behind `lead` belong to it. -/
def firstChar (lead : UInt8) (rest : List UInt8) : Char × Nat :=
  match ByteArray.utf8DecodeChar? (lead :: rest).toByteArray 0 with
  | some c => (c, c.utf8Size - 1)
  | none => (Char.ofNat 0xFFFD, brokenTail lead rest)

/-- The characters behind the next `skip` bytes. -/
def lossyChars : Nat → List UInt8 → List Char
  | _, [] => []
  | skip + 1, _ :: rest => lossyChars skip rest
  | 0, lead :: rest => (firstChar lead rest).1 :: lossyChars (firstChar lead rest).2 rest

/-- `String::from_utf8_lossy`. -/
def fromUtf8Lossy (bytes : List UInt8) : String := String.ofList (lossyChars 0 bytes)

theorem lossyChars_skip (skipped rest : List UInt8) :
    lossyChars skipped.length (skipped ++ rest) = lossyChars 0 rest := by
  induction skipped with
  | nil => rfl
  | cons b skipped ih => exact ih

theorem firstChar_encoded {c : Char} {lead : UInt8} {tail : List UInt8}
    (encoded : String.utf8EncodeChar c = lead :: tail) (rest : List UInt8) :
    firstChar lead (tail ++ rest) = (c, tail.length) := by
  have length := congrArg List.length encoded
  rw [String.length_utf8EncodeChar, List.length_cons] at length
  have decoded : ByteArray.utf8DecodeChar? (lead :: (tail ++ rest)).toByteArray 0 = some c := by
    have := ByteArray.utf8DecodeChar?_utf8EncodeChar_append (c := c) (b := rest.toByteArray)
    rwa [encoded, ← List.toByteArray_append] at this
  unfold firstChar
  rw [decoded]
  dsimp only
  rw [length, Nat.add_sub_cancel]

theorem lossyChars_encoded (cs : List Char) :
    lossyChars 0 (cs.flatMap String.utf8EncodeChar) = cs := by
  induction cs with
  | nil => rfl
  | cons c cs ih =>
      rw [List.flatMap_cons]
      cases encoded : String.utf8EncodeChar c with
      | nil => exact absurd encoded String.utf8EncodeChar_ne_nil
      | cons lead tail =>
          rw [List.cons_append, lossyChars, firstChar_encoded encoded, lossyChars_skip, ih]

/-- What is UTF-8 already is read back as it is. -/
theorem fromUtf8Lossy_asBytes (s : String) : fromUtf8Lossy (asBytes s) = s := by
  rw [fromUtf8Lossy, asBytes, lossyChars_encoded, String.ofList_toList]

/-! ## ASCII -/

theorem encodeChar_ascii {c : Char} (ascii : c.toNat < 0x80) :
    String.utf8EncodeChar c = [UInt8.ofNat c.toNat] :=
  if_pos (Nat.le_of_lt_succ ascii)

theorem ascii_of_encodeChar {c : Char} (low : ∀ b ∈ String.utf8EncodeChar c, b < 0x80) :
    c.toNat < 0x80 := by
  have small (n : Nat) (below : UInt8.ofNat n < 0x80) : n % 256 < 128 := by
    rw [UInt8.lt_iff_toNat_lt, UInt8.toNat_ofNat'] at below
    exact below
  by_contra large
  have above : ¬c.val.toNat ≤ 0x7f := fun le => large (Nat.lt_succ_of_le le)
  unfold String.utf8EncodeChar at low
  dsimp only at low
  rw [if_neg above] at low
  split_ifs at low
  all_goals
    have := small _ (low _ List.mem_cons_self)
    omega

/-- A text of ASCII bytes has these as its characters. -/
theorem asBytes_ascii {s : String} (ascii : ∀ c ∈ s.toList, c.toNat < 0x80) :
    asBytes s = s.toList.map fun c => UInt8.ofNat c.toNat := by
  rw [List.map_eq_flatMap]
  exact List.flatMap_congr fun c mem => encodeChar_ascii (ascii c mem)

theorem ascii_of_asBytes {s : String} (low : ∀ b ∈ asBytes s, b < 0x80) :
    ∀ c ∈ s.toList, c.toNat < 0x80 := fun c mem =>
  ascii_of_encodeChar fun b inside => low b (List.mem_flatMap.mpr ⟨c, mem, inside⟩)

end SupplyDrop.Library.Utf8
