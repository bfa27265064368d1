import Mathlib
import SupplyDrop.Proof.InboundFrames

namespace SupplyDrop.Mesh.Companion
open Library Bytes Utf8

/-! ## The fields of a contact body -/

@[ext] structure ContactFields where
  pubkey : Fixed 32
  advType : UInt8
  flags : UInt8
  outPathLen : UInt8
  outPath : Fixed 64
  name : Fixed 32
  lastAdvertTimestamp : Fixed 4
  gpsLat : Fixed 4
  gpsLon : Fixed 4
  lastmod : Fixed 4

def word (bytes : Fixed 4) : UInt32 := UInt32.ofNat (leValue bytes.1)

def wordBytes (w : UInt32) : Fixed 4 := ⟨leBytes 4 w.toNat, leBytes_length 4 w.toNat⟩

theorem word_wordBytes (w : UInt32) : word (wordBytes w) = w := by
  have small : w.toNat % 256 ^ 4 = w.toNat := Nat.mod_eq_of_lt w.toNat_lt
  rw [word, wordBytes, leValue_leBytes, small, UInt32.ofNat_toNat]

theorem wordBytes_word (bytes : Fixed 4) : wordBytes (word bytes) = bytes := by
  have small := leValue_lt bytes.1
  rw [bytes.2] at small
  have value : (UInt32.ofNat (leValue bytes.1)).toNat = leValue bytes.1 := by
    rw [UInt32.toNat_ofNat']
    exact Nat.mod_eq_of_lt small
  have back := leBytes_leValue bytes.1
  rw [bytes.2, ← value] at back
  exact Subtype.ext back

namespace ContactFields

/-- A contact body, and what follows it. -/
def wire (l : ContactFields) (rest : List UInt8) : List UInt8 :=
  l.pubkey.1 ++ (l.advType :: l.flags :: l.outPathLen :: (l.outPath.1 ++ (l.name.1 ++
    (l.lastAdvertTimestamp.1 ++ (l.gpsLat.1 ++ (l.gpsLon.1 ++ (l.lastmod.1 ++ rest)))))))

def contact (l : ContactFields) : Contact where
  pubkey := l.pubkey
  advType := l.advType
  flags := l.flags
  outPathLen := l.outPathLen.toInt8
  outPath := l.outPath
  name := fromUtf8Lossy (l.name.1.takeWhile (· ≠ 0))
  lastAdvertTimestamp := word l.lastAdvertTimestamp
  gpsLat := (word l.gpsLat).toInt32
  gpsLon := (word l.gpsLon).toInt32
  lastmod := word l.lastmod

end ContactFields

theorem padded_length (n : Nat) (bytes : List UInt8) : (padded n bytes).length = n := by
  rw [padded, List.length_append, List.length_take, List.length_replicate]
  omega

def contactFields (c : Contact) : ContactFields where
  pubkey := c.pubkey
  advType := c.advType
  flags := c.flags
  outPathLen := c.outPathLen.toUInt8
  outPath := c.outPath
  name := ⟨padded 32 (asBytes c.name), padded_length 32 _⟩
  lastAdvertTimestamp := wordBytes c.lastAdvertTimestamp
  gpsLat := wordBytes c.gpsLat.toUInt32
  gpsLon := wordBytes c.gpsLon.toUInt32
  lastmod := wordBytes c.lastmod

theorem encodeContactBody_eq (c : Contact) : encodeContactBody c = (contactFields c).wire [] := by
  unfold encodeContactBody ContactFields.wire
  simp only [List.append_assoc, List.cons_append, List.nil_append, List.append_nil]
  rfl

/-! ## Cutting a body into its fields -/

/-- `n` bytes from an offset on. -/
def fieldAt (b : List UInt8) (start n : Nat) (inside : start + n ≤ b.length) : Fixed n :=
  ⟨(b.drop start).take n, by rw [List.length_take, List.length_drop]; omega⟩

def fieldsOf (body : List UInt8) (long : 147 ≤ body.length) : ContactFields where
  pubkey := fieldAt body 0 32 (by omega)
  advType := body[32]
  flags := body[33]
  outPathLen := body[34]
  outPath := fieldAt body 35 64 (by omega)
  name := fieldAt body 99 32 (by omega)
  lastAdvertTimestamp := fieldAt body 131 4 (by omega)
  gpsLat := fieldAt body 135 4 (by omega)
  gpsLon := fieldAt body 139 4 (by omega)
  lastmod := fieldAt body 143 4 (by omega)

theorem fieldAt_append (b : List UInt8) (start n : Nat) (inside : start + n ≤ b.length) :
    (fieldAt b start n inside).1 ++ b.drop (start + n) = b.drop start :=
  take_drop_append b start n

theorem wire_fieldsOf (body : List UInt8) (long : 147 ≤ body.length) :
    (fieldsOf body long).wire (body.drop 147) = body := by
  have single {i : Nat} (inside : i < body.length) : body[i] :: body.drop (i + 1) = body.drop i :=
    (List.drop_eq_getElem_cons inside).symm
  unfold ContactFields.wire fieldsOf
  dsimp only
  rw [fieldAt_append body 143 4, fieldAt_append body 139 4, fieldAt_append body 135 4,
    fieldAt_append body 131 4, fieldAt_append body 99 32, fieldAt_append body 35 64, single, single,
    single, fieldAt_append body 0 32, List.drop_zero]

theorem Fixed.append_inj {n : Nat} {x y : Fixed n} {s t : List UInt8} (same : x.1 ++ s = y.1 ++ t) :
    x = y ∧ s = t :=
  (List.append_inj same (x.2.trans y.2.symm)).imp Subtype.ext id

theorem wire_injective {l l' : ContactFields} {rest rest' : List UInt8}
    (same : l.wire rest = l'.wire rest') : l = l' ∧ rest = rest' := by
  obtain ⟨pubkey, same⟩ := Fixed.append_inj same
  obtain ⟨advType, same⟩ := List.cons.inj same
  obtain ⟨flags, same⟩ := List.cons.inj same
  obtain ⟨outPathLen, same⟩ := List.cons.inj same
  obtain ⟨outPath, same⟩ := Fixed.append_inj same
  obtain ⟨name, same⟩ := Fixed.append_inj same
  obtain ⟨lastAdvertTimestamp, same⟩ := Fixed.append_inj same
  obtain ⟨gpsLat, same⟩ := Fixed.append_inj same
  obtain ⟨gpsLon, same⟩ := Fixed.append_inj same
  obtain ⟨lastmod, same⟩ := Fixed.append_inj same
  exact ⟨ContactFields.ext pubkey advType flags outPathLen outPath name lastAdvertTimestamp gpsLat
    gpsLon lastmod, same⟩

theorem parseContact_fieldsOf (body : List UInt8) (long : 147 ≤ body.length) :
    parseContact body = pure (fieldsOf body long).contact := by
  have signed (b : UInt8) : (if b = 0xFF then -1 else b.toInt8) = b.toInt8 := by
    split
    · next all => rw [all]; rfl
    · rfl
  unfold parseContact
  simp (disch := omega) only [index_in, slice_in, copyFromSlice_range, readCstr_eq, rU32_in, rI32_in,
    pure_bind, signed]
  rfl

theorem parseContact_wire (l : ContactFields) (rest : List UInt8) :
    parseContact (l.wire rest) = pure l.contact := by
  have long : 147 ≤ (l.wire rest).length := by
    simp only [ContactFields.wire, List.length_append, List.length_cons, l.pubkey.2, l.outPath.2,
      l.name.2, l.lastAdvertTimestamp.2, l.gpsLat.2, l.gpsLon.2, l.lastmod.2]
    omega
  rw [parseContact_fieldsOf _ long, (wire_injective (wire_fieldsOf _ long)).1]

/-! ## Accepted bodies -/

theorem bind_eq_pure {α β : Type} {m : Decoding α} {f : α → Decoding β} {b : β}
    (ran : m >>= f = pure b) : ∃ a, m = pure a ∧ f a = pure b := by
  obtain eq | ⟨e, eq⟩ | ⟨a, eq⟩ : m = ExceptT.mk none ∨ (∃ e, m = throw e) ∨ ∃ a, m = pure a := by
    cases shape : m.run with
    | none => exact .inl shape
    | some r =>
        cases r with
        | error e => exact .inr (.inl ⟨e, shape⟩)
        | ok a => exact .inr (.inr ⟨a, shape⟩)
  · rw [eq] at ran
    cases ran
  · rw [eq] at ran
    cases ran
  · rw [eq, pure_bind] at ran
    exact ⟨a, eq, ran⟩

theorem index_pure {b : List UInt8} {i : Nat} {x : UInt8} (ran : index b i = pure x) :
    i < b.length := by
  by_contra outside
  rw [index, List.getElem?_eq_none (not_lt.mp outside)] at ran
  cases ran

theorem rU32_pure {b : List UInt8} {off : Nat} {w : UInt32} (ran : rU32 b off = pure w) :
    off + 4 ≤ b.length := by
  obtain ⟨_, -, ran⟩ := bind_eq_pure ran
  obtain ⟨_, -, ran⟩ := bind_eq_pure ran
  obtain ⟨_, -, ran⟩ := bind_eq_pure ran
  obtain ⟨_, last, -⟩ := bind_eq_pure ran
  exact index_pure last

theorem parseContact_long {body : List UInt8} {c : Contact} (accepted : parseContact body = pure c) :
    147 ≤ body.length := by
  -- the last of the thirteen reads ends at offset 147
  iterate 12 obtain ⟨_, -, accepted⟩ := bind_eq_pure accepted
  obtain ⟨_, last, -⟩ := bind_eq_pure accepted
  exact rU32_pure last

/-! ## Both directions -/

/-- Bytes of a name that fits the field and has no NUL. -/
def Named (s : String) : Prop := (asBytes s).length ≤ 32 ∧ 0 ∉ asBytes s

theorem padded_named {s : String} (named : Named s) :
    padded 32 (asBytes s) = asBytes s ++ List.replicate (32 - (asBytes s).length) 0 := by
  rw [padded, min_eq_left named.1, List.take_length]

theorem takeWhile_named {s : String} (named : Named s) (zeros : Nat) :
    (asBytes s ++ List.replicate zeros 0).takeWhile (· ≠ 0) = asBytes s := by
  have none : (List.replicate zeros (0 : UInt8)).takeWhile (· ≠ 0) = [] := by
    cases zeros with
    | zero => rfl
    | succ zeros => rfl
  rw [List.takeWhile_append_of_pos, none, List.append_nil]
  intro b mem
  exact decide_eq_true fun zero => named.2 (zero ▸ mem)

theorem contactFields_contact {l : ContactFields} {s : String} (named : Named s)
    (field : l.name.1 = asBytes s ++ List.replicate (32 - (asBytes s).length) 0) :
    contactFields l.contact = l := by
  have text : fromUtf8Lossy (l.name.1.takeWhile (· ≠ 0)) = s := by
    rw [field, takeWhile_named named, fromUtf8Lossy_asBytes]
  have name : padded 32 (asBytes (fromUtf8Lossy (l.name.1.takeWhile (· ≠ 0)))) = l.name.1 := by
    rw [text, field, padded_named named]
  have lat : wordBytes (word l.gpsLat).toInt32.toUInt32 = l.gpsLat := by
    rw [UInt32.toUInt32_toInt32, wordBytes_word]
  have lon : wordBytes (word l.gpsLon).toInt32.toUInt32 = l.gpsLon := by
    rw [UInt32.toUInt32_toInt32, wordBytes_word]
  have opl : l.outPathLen.toInt8.toUInt8 = l.outPathLen := UInt8.toUInt8_toInt8 l.outPathLen
  unfold contactFields ContactFields.contact
  simp only [opl, name, lat, lon, wordBytes_word]

theorem contact_contactFields {c : Contact} (named : Named c.name) :
    (contactFields c).contact = c := by
  have name : fromUtf8Lossy ((padded 32 (asBytes c.name)).takeWhile (· ≠ 0)) = c.name := by
    rw [padded_named named, takeWhile_named named, fromUtf8Lossy_asBytes]
  cases c
  simp only [ContactFields.contact, contactFields, name, word_wordBytes, Int8.toInt8_toUInt8,
    Int32.toInt32_toUInt32]

theorem parse_encode {c : Contact} (named : Named c.name) :
    parseContact (encodeContactBody c) = pure c := by
  rw [encodeContactBody_eq, parseContact_wire, contact_contactFields named]

/-- Bytes 99 to 131 of a body: a name, and zeros behind it. -/
def NamePadded (body : List UInt8) : Prop :=
  ∃ s, Named s ∧
    (body.drop 99).take 32 = asBytes s ++ List.replicate (32 - (asBytes s).length) 0

theorem wire_append (l : ContactFields) (rest : List UInt8) : l.wire rest = l.wire [] ++ rest := by
  simp only [ContactFields.wire, List.append_assoc, List.cons_append, List.nil_append]

theorem encodeContactBody_length (c : Contact) : (encodeContactBody c).length = 147 := by
  unfold encodeContactBody
  simp only [List.length_append, List.length_cons, List.length_nil, c.pubkey.2, c.outPath.2,
    padded_length, leBytes_length]

theorem encode_parse {body : List UInt8} {c : Contact} (accepted : parseContact body = pure c)
    (padded : NamePadded body) : encodeContactBody c = body.take 147 := by
  have long := parseContact_long accepted
  obtain ⟨s, named, field⟩ := padded
  have parsed : (fieldsOf body long).contact = c := by
    rw [parseContact_fieldsOf body long] at accepted
    cases accepted
    rfl
  have encoded : encodeContactBody c = (fieldsOf body long).wire [] := by
    rw [← parsed, encodeContactBody_eq, contactFields_contact named field]
  have whole : encodeContactBody c ++ body.drop 147 = body := by
    rw [encoded, ← wire_append, wire_fieldsOf]
  calc
    encodeContactBody c = (encodeContactBody c ++ body.drop 147).take 147 :=
      (List.take_left' (encodeContactBody_length c)).symm
    _ = body.take 147 := by rw [whole]

def blank : Contact where
  pubkey := ⟨List.replicate 32 0, rfl⟩
  advType := 0
  flags := 0
  outPathLen := 0
  outPath := ⟨List.replicate 64 0, rfl⟩
  name := ""
  lastAdvertTimestamp := 0
  gpsLat := 0
  gpsLon := 0
  lastmod := 0

end SupplyDrop.Mesh.Companion
