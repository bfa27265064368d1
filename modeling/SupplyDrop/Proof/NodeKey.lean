import Mathlib
import SupplyDrop.Mesh.NodeKey

namespace SupplyDrop.Mesh.NodeKey
open Library Bytes Utf8 Hex Host Companion

/-! ## Texts that are read -/

theorem fromUtf8_asBytes (s : String) : fromUtf8 (asBytes s) = some s := by
  rw [fromUtf8, fromUtf8Lossy_asBytes]
  exact if_pos rfl

theorem asBytes_of_fromUtf8 {bytes : List UInt8} {s : String} (read : fromUtf8 bytes = some s) :
    asBytes s = bytes := by
  unfold fromUtf8 at read
  dsimp only at read
  split_ifs at read with same
  exact Option.some.inj read ▸ same

theorem ofNat_toNat_ascii : ∀ n < 0x80, (Char.ofNat n).toNat = n := by decide

/-- ASCII bytes are a text. -/
theorem fromUtf8_ascii {bytes : List UInt8} (ascii : ∀ b ∈ bytes, b < 0x80) :
    ∃ s, fromUtf8 bytes = some s := by
  have char (b : UInt8) (mem : b ∈ bytes) : (Char.ofNat b.toNat).toNat = b.toNat :=
    ofNat_toNat_ascii _ (UInt8.lt_iff_toNat_lt.mp (ascii b mem))
  let s := String.ofList (bytes.map fun b => Char.ofNat b.toNat)
  have chars : s.toList = bytes.map fun b => Char.ofNat b.toNat := String.toList_ofList
  have low : ∀ c ∈ s.toList, c.toNat < 0x80 := by
    rw [chars]
    intro c mem
    obtain ⟨b, inside, rfl⟩ := List.mem_map.mp mem
    rw [char b inside]
    exact UInt8.lt_iff_toNat_lt.mp (ascii b inside)
  have text : asBytes s = bytes := by
    rw [asBytes_ascii low, chars, List.map_map]
    conv_rhs => rw [← List.map_id bytes]
    apply List.map_congr_left
    intro b mem
    rw [Function.comp_apply, char b mem, UInt8.ofNat_toNat, id_eq]
  exact ⟨s, text ▸ fromUtf8_asBytes s⟩

theorem digit_ascii {b : UInt8} (digit : digitValue b ≠ none) : b < 0x80 := by
  obtain ⟨d, value⟩ := Option.ne_none_iff_exists'.mp digit
  exact (digitValue_lt value).2

theorem pair_ascii {a b : UInt8} (pair : Pair a b) : ∀ x ∈ [a, b], x < 0x80 := by
  intro x mem
  obtain rfl | rfl := List.mem_pair.mp mem
  · obtain rfl | digit := pair.1
    · decide
    · exact digit_ascii digit
  · exact digit_ascii pair.2

theorem keyByte_ok {chunk : List UInt8} {v : UInt8} (read : keyByte chunk = .ok v) :
    fromStrRadix chunk = some v := by
  unfold keyByte at read
  split at read
  · cases read
  · next s text =>
    rw [asBytes_of_fromUtf8 text] at read
    split at read
    · cases read
    · next value =>
      cases read
      exact value

theorem keyByte_of {a b v : UInt8} (value : fromStrRadix [a, b] = some v) :
    keyByte [a, b] = .ok v := by
  have pair : Pair a b := fromStrRadix_pair.mp (value ▸ Option.some_ne_none v)
  obtain ⟨s, text⟩ := fromUtf8_ascii (pair_ascii pair)
  rw [keyByte, text]
  dsimp only
  rw [asBytes_of_fromUtf8 text, value]

/-- The only texts that are turned down are told so. -/
theorem keyByte_error {chunk : List UInt8} {e : HostError} (read : keyByte chunk = .error e) :
    e = .preconditionFailed "invalid hex in private key" := by
  unfold keyByte at read
  split at read
  · cases read
    rfl
  · split at read
    · cases read
      rfl
    · cases read

/-! ## Keys that are read -/

/-- All pairs of the bytes are numbers. -/
def Pairs : List UInt8 → Prop
  | [] => True
  | [_] => False
  | a :: b :: rest => Pair a b ∧ Pairs rest

theorem keyBytes_ok_iff : ∀ (n : Nat) (bytes : List UInt8), bytes.length = 2 * n →
    ((∃ key, (chunks bytes).mapM keyByte = .ok key) ↔ Pairs bytes)
  | 0, [], _ => iff_of_true ⟨[], rfl⟩ trivial
  | n + 1, a :: b :: rest, length => by
      have short : rest.length = 2 * n := by
        rw [List.length_cons, List.length_cons] at length
        omega
      rw [chunks, Pairs, ← keyBytes_ok_iff n rest short, List.mapM_cons]
      constructor
      · rintro ⟨key, read⟩
        cases first : keyByte [a, b] with
        | error e =>
            rw [first] at read
            cases read
        | ok v =>
            rw [first] at read
            refine ⟨fromStrRadix_pair.mp (keyByte_ok first ▸ Option.some_ne_none v), ?_⟩
            cases others : (chunks rest).mapM keyByte with
            | error e =>
                rw [others] at read
                cases read
            | ok vs => exact ⟨vs, rfl⟩
      · rintro ⟨pair, vs, others⟩
        obtain ⟨v, value⟩ := Option.ne_none_iff_exists'.mp (fromStrRadix_pair.mpr pair)
        rw [keyByte_of value, others]
        exact ⟨v :: vs, rfl⟩

theorem keyBytes_error {cs : List (List UInt8)} {e : HostError}
    (read : cs.mapM keyByte = .error e) : e = .preconditionFailed "invalid hex in private key" := by
  induction cs with
  | nil => cases read
  | cons c cs ih =>
      rw [List.mapM_cons] at read
      cases first : keyByte c with
      | error e' =>
          rw [first] at read
          cases read
          exact keyByte_error first
      | ok v =>
          rw [first] at read
          cases others : cs.mapM keyByte with
          | error e' =>
              rw [others] at read
              cases read
              exact ih others
          | ok vs =>
              rw [others] at read
              cases read

theorem decodeKey_eq_ok {hex : String} (length : (asBytes hex).length = 64) (key : Fixed 32) :
    decodeKey hex = .ok key ↔ (chunks (asBytes hex)).mapM keyByte = .ok key.1 := by
  unfold decodeKey
  rw [dif_neg (not_not.mpr length)]
  split
  · next e read =>
    rw [read]
    exact iff_of_false nofun nofun
  · next bytes read =>
    constructor
    · intro same
      rw [← Except.ok.inj same]
      exact read
    · intro same
      exact congrArg Except.ok (Subtype.ext (Except.ok.inj (read.symm.trans same)))

theorem decodeKey_long {hex : String} (length : (asBytes hex).length ≠ 64) :
    decodeKey hex =
      .error (.preconditionFailed "private key must be exactly 64 hex characters (32 bytes)") :=
  dif_pos length

theorem decodeKey_ok_iff (hex : String) :
    (∃ key, decodeKey hex = .ok key) ↔ (asBytes hex).length = 64 ∧ Pairs (asBytes hex) := by
  by_cases length : (asBytes hex).length = 64
  · rw [← keyBytes_ok_iff 32 _ length]
    constructor
    · rintro ⟨key, read⟩
      exact ⟨length, key.1, (decodeKey_eq_ok length key).mp read⟩
    · rintro ⟨-, key, read⟩
      have size := (keyBytes_length read).trans (chunks_length 32 _ length)
      exact ⟨⟨key, size⟩, (decodeKey_eq_ok length ⟨key, size⟩).mpr read⟩
  · refine iff_of_false ?_ fun both => length both.1
    rintro ⟨key, read⟩
    rw [decodeKey_long length] at read
    cases read

theorem decodeKey_error {hex : String} {e : HostError} (read : decodeKey hex = .error e) :
    ∃ text, e = .preconditionFailed text := by
  by_cases length : (asBytes hex).length = 64
  · unfold decodeKey at read
    rw [dif_neg (not_not.mpr length)] at read
    split at read
    · next others =>
      cases read
      exact ⟨_, keyBytes_error others⟩
    · cases read
  · rw [decodeKey_long length] at read
    cases read
    exact ⟨_, rfl⟩

/-! ## Texts of hexadecimal digits -/

def HexDigit (c : Char) : Prop :=
  ('0' ≤ c ∧ c ≤ '9') ∨ ('a' ≤ c ∧ c ≤ 'f') ∨ ('A' ≤ c ∧ c ≤ 'F')

instance (c : Char) : Decidable (HexDigit c) :=
  inferInstanceAs (Decidable (('0' ≤ c ∧ c ≤ '9') ∨ ('a' ≤ c ∧ c ≤ 'f') ∨ ('A' ≤ c ∧ c ≤ 'F')))

/-- The text of a key: its digits, two for each byte. -/
def KeyText (hex : String) : Prop := hex.toList.length = 64 ∧ ∀ c ∈ hex.toList, HexDigit c

/-- Pairs that are read as numbers, some of them signed. -/
def SignedText (hex : String) : Prop :=
  (asBytes hex).length = 64 ∧ Pairs (asBytes hex) ∧ plus ∈ asBytes hex

theorem pairs_digits : ∀ {bytes : List UInt8}, Even bytes.length → (∀ b ∈ bytes, digitValue b ≠ none) →
    Pairs bytes
  | [], _, _ => trivial
  | [_], even, _ => absurd even Nat.not_even_one
  | a :: b :: rest, even, digits => by
      simp only [List.forall_mem_cons] at digits
      have short : Even rest.length := by
        simpa [Nat.even_add_one] using even
      exact ⟨⟨.inr digits.1, digits.2.1⟩, pairs_digits short digits.2.2⟩

theorem pairs_bytes : ∀ {bytes : List UInt8}, Pairs bytes →
    ∀ b ∈ bytes, b = plus ∨ digitValue b ≠ none
  | [], _, b, mem => absurd mem List.not_mem_nil
  | x :: y :: rest, pairs, b, mem => by
      obtain rfl | mem := List.mem_cons.mp mem
      · exact pairs.1.1
      obtain rfl | mem := List.mem_cons.mp mem
      · exact .inr pairs.1.2
      · exact pairs_bytes pairs.2 b mem

theorem digitValue_char : ∀ n < 0x80,
    digitValue (UInt8.ofNat n) ≠ none ↔ HexDigit (Char.ofNat n) := by
  decide

theorem hexDigit_ascii {c : Char} (digit : HexDigit c) : c.toNat < 0x80 := by
  have at_most {d : Char} (below : c ≤ d) (small : d.toNat < 0x80) : c.toNat < 0x80 :=
    lt_of_le_of_lt (UInt32.le_iff_toNat_le.mp below) small
  obtain ⟨-, top⟩ | ⟨-, top⟩ | ⟨-, top⟩ := digit
  · exact at_most top (by decide)
  · exact at_most top (by decide)
  · exact at_most top (by decide)

theorem keyText_iff (hex : String) :
    KeyText hex ↔ (asBytes hex).length = 64 ∧ ∀ b ∈ asBytes hex, digitValue b ≠ none := by
  have each {c : Char} (ascii : c.toNat < 0x80) :
      digitValue (UInt8.ofNat c.toNat) ≠ none ↔ HexDigit c := by
    rw [digitValue_char c.toNat ascii, Char.ofNat_toNat]
  constructor
  · rintro ⟨length, digits⟩
    have ascii : ∀ c ∈ hex.toList, c.toNat < 0x80 := fun c mem => hexDigit_ascii (digits c mem)
    rw [asBytes_ascii ascii, List.length_map]
    refine ⟨length, fun b mem => ?_⟩
    obtain ⟨c, inside, rfl⟩ := List.mem_map.mp mem
    exact (each (ascii c inside)).mpr (digits c inside)
  · rintro ⟨length, digits⟩
    have ascii := ascii_of_asBytes fun b mem => digit_ascii (digits b mem)
    rw [asBytes_ascii ascii] at length digits
    refine ⟨List.length_map _ ▸ length, fun c mem => ?_⟩
    exact (each (ascii c mem)).mp (digits _ (List.mem_map_of_mem mem))

/-- What is accepted, and not as the text of a key, is signed. -/
theorem decodeKey_ok_iff_signed (hex : String) :
    (∃ key, decodeKey hex = .ok key) ↔ KeyText hex ∨ SignedText hex := by
  rw [decodeKey_ok_iff, keyText_iff]
  constructor
  · rintro ⟨length, pairs⟩
    by_cases sign : plus ∈ asBytes hex
    · exact .inr ⟨length, pairs, sign⟩
    · refine .inl ⟨length, fun b mem => ?_⟩
      obtain rfl | digit := pairs_bytes pairs b mem
      · exact absurd mem sign
      · exact digit
  · rintro (⟨length, digits⟩ | ⟨length, pairs, -⟩)
    · exact ⟨length, pairs_digits (length ▸ by decide) digits⟩
    · exact ⟨length, pairs⟩

theorem not_keyText_of_signed {hex : String} (signed : SignedText hex) : ¬KeyText hex := by
  intro text
  have digit := ((keyText_iff hex).mp text).2 plus signed.2.2
  exact digit digitValue_plus

/-! ## The text of an exported key -/

theorem asBytes_exportText (key : List UInt8) : asBytes (exportText key) = encode key := by
  have chars : (exportText key).toList =
      key.flatMap fun b => [Nat.digitChar (b.toNat / 16), Nat.digitChar (b.toNat % 16)] :=
    String.toList_ofList
  have ascii : ∀ c ∈ (exportText key).toList, c.toNat < 0x80 := by
    rw [chars]
    intro c mem
    obtain ⟨b, -, mem⟩ := List.mem_flatMap.mp mem
    have small := b.toNat_lt
    obtain rfl | rfl := List.mem_pair.mp mem
    · exact digitChar_ascii _ (by omega)
    · exact digitChar_ascii _ (by omega)
  rw [asBytes_ascii ascii, chars, List.map_flatMap]
  rfl

theorem keyBytes_encode (key : List UInt8) : (chunks (encode key)).mapM keyByte = .ok key := by
  induction key with
  | nil => rfl
  | cons b key ih =>
      have cut : chunks (encode (b :: key)) =
          [digitByte (b.toNat / 16), digitByte (b.toNat % 16)] :: chunks (encode key) := rfl
      rw [cut, List.mapM_cons, keyByte_of (fromStrRadix_encoded b), ih]
      rfl

theorem decodeKey_exportText (key : Fixed 32) : decodeKey (exportText key.1) = .ok key := by
  have length : (asBytes (exportText key.1)).length = 64 := by
    rw [asBytes_exportText, encode_length, key.2]
  rw [decodeKey_eq_ok length, asBytes_exportText]
  exact keyBytes_encode key.1

theorem decodeKey_exportText_ok {key : List UInt8} {k : Fixed 32}
    (read : decodeKey (exportText key) = .ok k) : key.length = 32 := by
  have length := ((decodeKey_ok_iff _).mp ⟨k, read⟩).1
  rw [asBytes_exportText, encode_length] at length
  omega

/-! ## Both directions over the link -/

def KeyLink.Ready (link : KeyLink) : Prop := link.registered = true ∧ link.receiving = true

theorem ask_sends (req : MeshKeyRequest) {link : KeyLink} (ready : link.Ready) :
    (ask req link).2 = { link with sent := link.sent ++ [req] } := by
  rw [ask, if_neg (not_not.mpr ready.1), if_neg (not_not.mpr ready.2)]

theorem import_sends {hex : String} {key : Fixed 32} {link : KeyLink} (ready : link.Ready)
    (read : decodeKey hex = .ok key) :
    (adminImportNodeKey hex link).2 = { link with sent := link.sent ++ [.importKey key] } := by
  rw [adminImportNodeKey, read, ← ask_sends _ ready]
  dsimp only
  rw [Program.bind_apply]
  split
  · next asked => rw [asked]; rfl
  · next asked => rw [asked]

theorem import_refuses {hex : String} {e : HostError} (link : KeyLink)
    (read : decodeKey hex = .error e) : adminImportNodeKey hex link = (.error e, link) := by
  rw [adminImportNodeKey, read]

/-- Importing the exported text sends the same key back to the device. -/
def Restores (key : List UInt8) : Prop :=
  ∀ link : KeyLink, link.Ready → ∃ req, req.payload = cmdImportPrivateKey :: key ∧
    (adminImportNodeKey (exportText key) link).2 = { link with sent := link.sent ++ [req] }

/-- The texts of keys are sent to the device, and any other text is turned down before that. -/
def Sorts (hex : String) : Prop :=
  ∀ link : KeyLink, link.Ready →
    (KeyText hex → ∃ key, (adminImportNodeKey hex link).2 =
      { link with sent := link.sent ++ [.importKey key] }) ∧
    (¬KeyText hex → ∃ text, adminImportNodeKey hex link = (.error (.preconditionFailed text), link))

/-- A transport that is there and has been asked nothing. -/
def idle : KeyLink := ⟨true, true, [], fun _ => none⟩

theorem restores_iff (key : List UInt8) : Restores key ↔ key.length = 32 := by
  constructor
  · intro restores
    obtain ⟨req, -, sent⟩ := restores idle ⟨rfl, rfl⟩
    cases read : decodeKey (exportText key) with
    | ok k => exact decodeKey_exportText_ok read
    | error e =>
        rw [import_refuses idle read] at sent
        cases congrArg KeyLink.sent sent
  · intro length link ready
    refine ⟨.importKey ⟨key, length⟩, rfl, import_sends ready ?_⟩
    exact decodeKey_exportText ⟨key, length⟩

theorem sorts_iff (hex : String) : Sorts hex ↔ ¬SignedText hex := by
  constructor
  · intro sorts signed
    obtain ⟨key, read⟩ := (decodeKey_ok_iff_signed hex).mpr (.inr signed)
    obtain ⟨text, refused⟩ := (sorts idle ⟨rfl, rfl⟩).2 (not_keyText_of_signed signed)
    have sent : (adminImportNodeKey hex idle).2 = _ := import_sends ⟨rfl, rfl⟩ read
    rw [refused] at sent
    cases congrArg KeyLink.sent sent
  · intro unsigned link ready
    constructor
    · intro text
      obtain ⟨key, read⟩ := (decodeKey_ok_iff_signed hex).mpr (.inl text)
      exact ⟨key, import_sends ready read⟩
    · intro other
      cases read : decodeKey hex with
      | ok key =>
          have accepted := (decodeKey_ok_iff_signed hex).mp ⟨key, read⟩
          exact absurd accepted (not_or.mpr ⟨other, unsigned⟩)
      | error e =>
          obtain ⟨text, rfl⟩ := decodeKey_error read
          exact ⟨text, import_refuses link read⟩

/-- The device may export any key of 32 bytes or more. -/
theorem exported_iff (key : List UInt8) :
    (decodeInbound (respCodePrivateKey :: key)).run = some (.ok (.privateKey key)) ↔
      32 ≤ key.length := by
  have shape : decodeInbound (respCodePrivateKey :: key) =
      (need respCodePrivateKey key 32 >>= fun _ => pure (.privateKey key)) := rfl
  rw [shape, need]
  by_cases short : key.length < 32
  · rw [if_pos short]
    exact iff_of_false nofun (not_le.mpr short)
  · rw [if_neg short]
    exact iff_of_true rfl (not_lt.mp short)

/-- For any key that may be exported, and any text that is to be imported. -/
theorem node_key_text_iff (key : List UInt8) (hex : String) :
    (Restores key ↔ key.length = 32) ∧ (Sorts hex ↔ ¬SignedText hex) :=
  ⟨restores_iff key, sorts_iff hex⟩

def decidePairs : (bytes : List UInt8) → Decidable (Pairs bytes)
  | [] => .isTrue trivial
  | [_] => .isFalse id
  | a :: b :: rest =>
      have := decidePairs rest
      inferInstanceAs (Decidable (((a = plus ∨ digitValue a ≠ none) ∧ digitValue b ≠ none) ∧
        Pairs rest))

instance (bytes : List UInt8) : Decidable (Pairs bytes) := decidePairs bytes

/-- An expanded key, and a text of signed digits. -/
theorem expanded_key_and_signed_text :
    (decodeInbound (respCodePrivateKey :: List.replicate 64 0x11)).run =
        some (.ok (.privateKey (List.replicate 64 0x11))) ∧
      ¬Restores (List.replicate 64 0x11) ∧
      ¬Sorts "+1+1+1+1+1+1+1+1+1+1+1+1+1+1+1+1+1+1+1+1+1+1+1+1+1+1+1+1+1+1+1+1" := by
  refine ⟨(exported_iff _).mpr ?_, fun restores => ?_, fun sorts => ?_⟩
  · rw [List.length_replicate]
    decide
  · have length := (restores_iff _).mp restores
    rw [List.length_replicate] at length
    exact absurd length (by decide)
  · refine (sorts_iff _).mp sorts ⟨?_, ?_, ?_⟩
    · decide +kernel
    · decide +kernel
    · decide +kernel

end SupplyDrop.Mesh.NodeKey
