import Mathlib
import SupplyDrop.Mesh.Companion.Client

namespace SupplyDrop.Mesh.Companion
open Library Bytes Utf8 Framing Program

/-! ## Fields in range -/

section Fields
variable {b : List UInt8} {i start stop n off : Nat}

theorem index_in (inside : i < b.length) : index b i = pure b[i] := by
  rw [index, List.getElem?_eq_getElem inside]
  rfl

theorem slice_in (ordered : start ≤ stop) (inside : stop ≤ b.length) :
    slice b start stop = pure ((b.drop start).take (stop - start)) := by
  rw [slice, range?_some ordered inside]
  rfl

theorem sliceFrom_in (inside : start ≤ b.length) : sliceFrom b start = pure (b.drop start) := by
  rw [sliceFrom, slice_in inside le_rfl, List.take_of_length_le (by rw [List.length_drop])]

theorem copyFromSlice_in (length : b.length = n) : copyFromSlice n b = pure ⟨b, length⟩ := by
  rw [copyFromSlice, fixed?_some length]
  rfl

/-- Between two offsets `n` apart. -/
theorem copyFromSlice_range (ordered : start ≤ stop) (inside : stop ≤ b.length)
    (apart : stop - start = n) :
    copyFromSlice n ((b.drop start).take (stop - start)) =
      pure ⟨(b.drop start).take (stop - start), (length_range ordered inside).trans apart⟩ :=
  copyFromSlice_in _

theorem readCstr_eq (b : List UInt8) :
    readCstr b = pure (fromUtf8Lossy (b.takeWhile (· ≠ 0))) := by
  have text : b.take (b.findIdx (· = 0)) = b.takeWhile (· ≠ 0) := by
    rw [List.takeWhile_eq_take_findIdx_not]
    simp
  rw [readCstr, slice_in (Nat.zero_le _) List.findIdx_le_length, pure_bind, List.drop_zero,
    Nat.sub_zero, text]

theorem rU32_in (inside : off + 4 ≤ b.length) :
    rU32 b off = pure (UInt32.ofNat (leValue ((b.drop off).take 4))) := by
  have word : (b.drop off).take 4 = [b[off], b[off + 1], b[off + 2], b[off + 3]] := by
    rw [List.drop_eq_getElem_cons (by omega), List.drop_eq_getElem_cons (by omega),
      List.drop_eq_getElem_cons (by omega), List.drop_eq_getElem_cons (by omega)]
    rfl
  rw [word, rU32, index_in (by omega), pure_bind, index_in (by omega), pure_bind,
    index_in (by omega), pure_bind, index_in (by omega), pure_bind]

theorem rI32_in (inside : off + 4 ≤ b.length) :
    rI32 b off = pure (UInt32.ofNat (leValue ((b.drop off).take 4))).toInt32 := by
  rw [rI32, rU32_in inside, pure_bind]

theorem rU16_in (inside : off + 2 ≤ b.length) :
    rU16 b off = pure (UInt16.ofNat (leValue [b[off], b[off + 1]])) := by
  rw [rU16, index_in (by omega), pure_bind, index_in (by omega), pure_bind]

end Fields

/-! ## Every parser returns -/

variable {α : Type} {body : List UInt8}

/-- The computation comes to a value or an error, and never to an access out of range. -/
def Returns (m : Decoding α) : Prop := ∃ r, m.run = some r

theorem parseContact_in (long : 147 ≤ body.length) : ∃ c, parseContact body = pure c := by
  unfold parseContact
  simp (disch := omega) only [index_in, slice_in, copyFromSlice_range, readCstr_eq, rU32_in, rI32_in,
    pure_bind]
  exact ⟨_, rfl⟩

theorem parseSelfInfo_in (long : 57 ≤ body.length) : ∃ info, parseSelfInfo body = pure info := by
  unfold parseSelfInfo
  simp (disch := omega) only [index_in, slice_in, sliceFrom_in, copyFromSlice_range, readCstr_eq,
    rU32_in, rI32_in, pure_bind]
  exact ⟨_, rfl⟩

theorem parseDeviceInfo_in (long : 81 ≤ body.length) :
    ∃ info, parseDeviceInfo body = pure info := by
  unfold parseDeviceInfo
  simp (disch := omega) only [index_in, slice_in, readCstr_eq, rU32_in, pure_bind]
  exact ⟨_, rfl⟩

theorem parseSentResult_in (long : 9 ≤ body.length) :
    ∃ result, parseSentResult body = pure result := by
  unfold parseSentResult
  simp (disch := omega) only [index_in, rU32_in, pure_bind]
  exact ⟨_, rfl⟩

theorem parseBattAndStorage_in (long : 10 ≤ body.length) :
    ∃ status, parseBattAndStorage body = pure status := by
  unfold parseBattAndStorage
  simp (disch := omega) only [rU16_in, rU32_in, pure_bind]
  exact ⟨_, rfl⟩

theorem parseExportedContact_in (long : 73 ≤ body.length) :
    ∃ c, parseExportedContact body = pure c := by
  unfold parseExportedContact
  simp (disch := omega) only [index_in, slice_in, copyFromSlice_range, readCstr_eq, rI32_in,
    pure_bind]
  exact ⟨_, rfl⟩

theorem parseContactMsg_in (snr : Option ℚ) (long : 12 ≤ body.length) :
    ∃ msg, parseContactMsg body snr = pure msg := by
  unfold parseContactMsg
  simp (disch := omega) only [index_in, slice_in, sliceFrom_in, copyFromSlice_range, readCstr_eq,
    rU32_in, pure_bind]
  exact ⟨_, rfl⟩

theorem parseChannelMsg_in (snr : Option ℚ) (long : 7 ≤ body.length) :
    ∃ msg, parseChannelMsg body snr = pure msg := by
  unfold parseChannelMsg
  simp (disch := omega) only [index_in, sliceFrom_in, readCstr_eq, rU32_in, pure_bind]
  exact ⟨_, rfl⟩

theorem parseContactMsgV3_in (long : 15 ≤ body.length) :
    ∃ msg, parseContactMsgV3 body = pure msg := by
  have rest : 12 ≤ (body.drop 3).length := by
    rw [List.length_drop]
    omega
  rw [parseContactMsgV3, index_in (by omega), pure_bind, sliceFrom_in (by omega), pure_bind]
  exact parseContactMsg_in _ rest

theorem parseChannelMsgV3_in (long : 10 ≤ body.length) :
    ∃ msg, parseChannelMsgV3 body = pure msg := by
  have rest : 7 ≤ (body.drop 3).length := by
    rw [List.length_drop]
    omega
  rw [parseChannelMsgV3, index_in (by omega), pure_bind, sliceFrom_in (by omega), pure_bind]
  exact parseChannelMsg_in _ rest

theorem parseChannelInfo_in (long : 49 ≤ body.length) :
    ∃ info, parseChannelInfo body = pure info := by
  unfold parseChannelInfo
  simp (disch := omega) only [index_in, slice_in, copyFromSlice_range, readCstr_eq, pure_bind]
  exact ⟨_, rfl⟩

theorem parseFloodScope_in (long : 31 + 16 ≤ body.length) :
    ∃ scope, parseFloodScope body = pure scope := by
  unfold parseFloodScope
  simp (disch := omega) only [slice_in, copyFromSlice_range, readCstr_eq, pure_bind]
  split
  · exact ⟨_, rfl⟩
  · exact ⟨_, rfl⟩

theorem parseLoginSuccess_in (long : 13 ≤ body.length) :
    ∃ login, parseLoginSuccess body = pure login := by
  unfold parseLoginSuccess
  simp (disch := omega) only [index_in, slice_in, copyFromSlice_range, rU32_in, pure_bind]
  exact ⟨_, rfl⟩

theorem copy32_in (long : 32 ≤ body.length) : ∃ key, copy32 body = pure key := by
  rw [copy32, slice_in (Nat.zero_le 32) long, pure_bind]
  exact ⟨_, copyFromSlice_range (Nat.zero_le 32) long rfl⟩

theorem pubkeyPrefixOf_in (long : 7 ≤ body.length) : ∃ key, pubkeyPrefixOf body = pure key := by
  rw [pubkeyPrefixOf, slice_in (by decide) long, pure_bind]
  exact ⟨_, copyFromSlice_range (by decide) long rfl⟩

/-! ## Every payload is decoded or refused -/

theorem Returns.pure (a : α) : Returns (pure a : Decoding α) := ⟨.ok a, rfl⟩

/-- Short of the bytes that are needed the frame is refused before any of them is looked at. -/
theorem Returns.need {typeByte : UInt8} {n : Nat} {m : Decoding α}
    (enough : n ≤ body.length → ∃ a, m = Pure.pure a) :
    Returns (need typeByte body n >>= fun _ => m) := by
  unfold Companion.need
  by_cases short : body.length < n
  · rw [if_pos short]
    exact ⟨.error (.bodyTooShort typeByte n body.length), rfl⟩
  · obtain ⟨a, rfl⟩ := enough (not_lt.mp short)
    rw [if_neg short, pure_bind]
    exact .pure a

/-- A parser's value, wrapped as a frame. -/
theorem parsed {β : Type} {m : Decoding α} {f : α → β} (returns : ∃ a, m = pure a) :
    ∃ b, (m >>= fun a => pure (f a)) = pure b := by
  obtain ⟨a, rfl⟩ := returns
  exact ⟨f a, pure_bind a _⟩

/-- The key prefix, and whatever comes behind it. -/
theorem prefixed {β : Type} {f : Fixed 6 → List UInt8 → β} (long : 7 ≤ body.length) :
    ∃ b, (do pure (f (← pubkeyPrefixOf body) (← sliceFrom body 7)) : Decoding β) = pure b := by
  obtain ⟨key, eq⟩ := pubkeyPrefixOf_in long
  rw [eq, pure_bind, sliceFrom_in long, pure_bind]
  exact ⟨_, rfl⟩

theorem decodeBody_returns (typeByte : UInt8) (body : List UInt8) :
    Returns (decodeBody typeByte body) := by
  unfold decodeBody
  dsimp only
  split
  · exact .pure _
  · exact .need fun long => parsed ⟨_, index_in long⟩
  · exact .need fun long => parsed ⟨_, rU32_in long⟩
  · exact .need fun long => parsed (parseContact_in long)
  · exact .need fun long => parsed ⟨_, rU32_in long⟩
  · exact .need fun long => parsed (parseSelfInfo_in long)
  · exact .need fun long => parsed (parseSentResult_in long)
  · exact .need fun long => parsed (parseContactMsg_in none long)
  · exact .need fun long => parsed (parseChannelMsg_in none long)
  · exact .need fun long => parsed ⟨_, rU32_in long⟩
  · exact .pure _
  · exact .need fun long => parsed (parseExportedContact_in long)
  · exact .need fun long => parsed (parseBattAndStorage_in long)
  · exact .need fun long => parsed (parseDeviceInfo_in long)
  · exact .need fun _ => ⟨_, rfl⟩
  · exact .pure _
  · exact .need fun long => parsed (parseContactMsgV3_in long)
  · exact .need fun long => parsed (parseChannelMsgV3_in long)
  · exact .need fun long => parsed (parseChannelInfo_in long)
  · exact .need fun long => parsed ⟨_, index_in long⟩
  · split
    · exact .pure _
    · exact .need fun long => parsed (parseFloodScope_in long)
  · refine .need fun long => ?_
    rw [index_in long, pure_bind, sliceFrom_in long, pure_bind]
    exact ⟨_, rfl⟩
  · exact .pure _
  · exact .pure _
  · exact .pure _
  · exact .need fun long => parsed (copy32_in long)
  · exact .need fun long => parsed (parseContact_in long)
  · exact .need fun long => parsed (copy32_in long)
  · exact .need fun long => parsed ⟨_, rU32_in (by omega)⟩
  · exact .pure _
  · refine .need fun long => ?_
    rw [index_in (by omega), pure_bind, index_in (by omega), pure_bind, sliceFrom_in long, pure_bind]
    exact ⟨_, rfl⟩
  · exact .need fun long => parsed (parseLoginSuccess_in long)
  · exact .need fun long => parsed (pubkeyPrefixOf_in long)
  · exact .need fun long => prefixed long
  · refine .need fun long => ?_
    rw [index_in (by omega), pure_bind, index_in (by omega), pure_bind, sliceFrom_in long, pure_bind]
    exact ⟨_, rfl⟩
  · exact .need fun long => prefixed long
  · refine .need fun long => ?_
    rw [slice_in (show 1 ≤ 5 by decide) long, pure_bind,
      copyFromSlice_range (show 1 ≤ 5 by decide) long rfl, pure_bind,
      sliceFrom_in long, pure_bind]
    exact ⟨_, rfl⟩
  · exact .pure _
  · exact .pure _
  · exact .need fun long => parsed (copy32_in long)
  · exact .pure _
  · exact .pure _
  · exact .pure _

theorem decodeInbound_returns (payload : List UInt8) : Returns (decodeInbound payload) :=
  match payload with
  | [] => ⟨.error (.bodyTooShort 0 1 0), rfl⟩
  | typeByte :: body => decodeBody_returns typeByte body

/-! ## The frames of a stream -/

/-- A frame that decodes, and what came in before it. -/
structure Arrival where
  noise : List UInt8
  payload : List UInt8
  frame : InboundFrame
  clean : frameOutboundPrefix ∉ noise
  short : payload.length ≤ maxPayloadSize
  decodes : (decodeInbound payload).run = some (.ok frame)

def Arrival.bytes (a : Arrival) : List UInt8 :=
  a.noise ++ frameOutboundPrefix :: (leBytes 2 a.payload.length ++ a.payload)

theorem readFrame_arrival (a : Arrival) (rest : List UInt8) :
    readFrame (a.bytes ++ rest) = (.ok a.frame, rest) := by
  have whole : a.bytes ++ rest = a.noise ++ frameOutboundPrefix ::
      (leBytes 2 a.payload.length ++ (a.payload ++ rest)) := by
    unfold Arrival.bytes
    rw [List.append_assoc, List.cons_append, List.append_assoc]
  have value : leValue (leBytes 2 a.payload.length) = a.payload.length := by
    have short := a.short
    unfold maxPayloadSize at short
    rw [leValue_leBytes]
    omega
  rw [whole, readFrame, bind_ok (skipTo_noise a.clean _),
    bind_ok (readExact_append (leBytes_length 2 a.payload.length))]
  rw [value, if_neg (not_lt.mpr a.short), bind_ok (readExact_append rfl), decoded, a.decodes]
  rfl

theorem readFrame_tail {tail : List UInt8} (clean : frameOutboundPrefix ∉ tail) :
    readFrame tail = (.error .unexpectedEof, []) :=
  bind_error (skipTo_clean clean)

/-- The frames are read in order, each of them up to its end, and then nothing. -/
theorem frames_read (arrivals : List Arrival) {tail : List UInt8}
    (clean : frameOutboundPrefix ∉ tail) :
    Reads readFrame (wire Arrival.bytes arrivals tail)
      (marks Arrival.bytes Arrival.frame arrivals tail) .unexpectedEof :=
  (reads_wire_iff (fun a rest => iff_true_intro (readFrame_arrival a rest)) (readFrame_tail clean)
    arrivals).mpr fun _ _ => trivial

theorem inbound_total_and_resynchronised :
    (∀ payload, ∃ r, (decodeInbound payload).run = some r) ∧
      ∀ (arrivals : List Arrival) (tail : List UInt8), frameOutboundPrefix ∉ tail →
        Reads readFrame (wire Arrival.bytes arrivals tail)
          (marks Arrival.bytes Arrival.frame arrivals tail) .unexpectedEof :=
  ⟨decodeInbound_returns, fun arrivals _ clean => frames_read arrivals clean⟩

/-- A reader task that panics never comes back with a frame or an error. -/
theorem decoded_ne_panicked (payload input : List UInt8) :
    (decoded payload input).1 ≠ .error .panicked := by
  obtain ⟨r, eq⟩ := decodeInbound_returns payload
  unfold decoded
  rw [eq]
  cases r with
  | error e => exact nofun
  | ok frame => exact nofun

/-- A banner, and then the answer to a command. -/
def banner : Arrival where
  noise := [0x0D, 0x0A]
  payload := [0x00]
  frame := .ok
  clean := by decide
  short := by decide
  decodes := rfl

theorem inbound_banner :
    (∃ r, (decodeInbound [0x02, 7]).run = some r) ∧
      Reads readFrame (wire Arrival.bytes [banner, banner] [0x0A])
        (marks Arrival.bytes Arrival.frame [banner, banner] [0x0A]) .unexpectedEof :=
  ⟨inbound_total_and_resynchronised.1 _, inbound_total_and_resynchronised.2 _ _ (by decide)⟩

end SupplyDrop.Mesh.Companion
