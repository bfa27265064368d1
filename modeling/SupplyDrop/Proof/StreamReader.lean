import Mathlib
import SupplyDrop.Mesh.Stream

namespace SupplyDrop.Proof.StreamReader
open Library Library.Bytes Library.Framing Library.Program Mesh.Stream

/-! ## One frame -/

/-- A frame that the writer lets pass, and what came in before it. -/
structure Arrival where
  noise : List UInt8
  payload : List UInt8
  clean : NoPair start1 start2 noise
  short : payload.length ≤ maxProtoLen

theorem start_distinct : start1 ≠ start2 := by decide

theorem wrapToRadio_short {payload : List UInt8} (short : payload.length ≤ maxProtoLen) :
    wrapToRadio payload = start1 :: start2 :: (beBytes 2 payload.length ++ payload) := by
  have fits : min payload.length 0xFFFF = payload.length := by
    unfold maxProtoLen at short
    omega
  rw [wrapToRadio, fits]
  rfl

theorem writeToRadio_ok_iff (payload : List UInt8) :
    writeToRadio payload = .ok (wrapToRadio payload) ↔ payload.length ≤ maxProtoLen := by
  have length : (wrapToRadio payload).length - 4 = payload.length := by
    rw [wrapToRadio, List.length_append, List.length_append, beBytes_length, List.length_cons,
      List.length_singleton]
    omega
  rw [writeToRadio, length]
  by_cases short : payload.length ≤ maxProtoLen
  · rw [if_neg (not_lt.mpr short)]
    exact iff_of_true rfl short
  · rw [if_pos (not_le.mp short)]
    exact iff_of_false nofun short

/-- What is read behind the start bytes. -/
def readRest : ReaderM (List UInt8) := do
  let lenBytes ← readExact .unexpectedEof 2
  let len := beValue lenBytes
  if maxProtoLen < len then Program.fail (.tooLong len)
  else readExact .unexpectedEof len

theorem readRest_frame {payload : List UInt8} (short : payload.length ≤ maxProtoLen)
    (rest : List UInt8) :
    readRest (beBytes 2 payload.length ++ payload ++ rest) = (.ok payload, rest) := by
  have value : beValue (beBytes 2 payload.length) = payload.length := by
    rw [beValue_beBytes]
    unfold maxProtoLen at short
    omega
  unfold readRest
  rw [List.append_assoc, bind_ok (readExact_append (beBytes_length 2 payload.length))]
  rw [value, if_neg (not_lt.mpr short), readExact_append rfl]

theorem readRest_length {input payload rest : List UInt8}
    (ran : readRest input = (.ok payload, rest)) :
    input.length = 2 + payload.length + rest.length := by
  obtain ⟨lenBytes, left, first, body⟩ := bind_eq_ok ran
  obtain ⟨rfl, two⟩ := readExact_ok first
  dsimp only at body
  split at body
  · cases body
  · obtain ⟨rfl, -⟩ := readExact_ok body
    rw [List.length_append, List.length_append, two]
    omega

/-- Behind an even number of first start bytes the frame is read from its start; behind an odd
number that start goes unseen. -/
theorem readPayload_arrival (a : Arrival) (rest : List UInt8) :
    readPayload (a.noise ++ wrapToRadio a.payload ++ rest) = (.ok a.payload, rest) ↔
      Even (trailing start1 a.noise) := by
  have whole : a.noise ++ wrapToRadio a.payload ++ rest = a.noise ++ start1 :: start2 ::
      (beBytes 2 a.payload.length ++ a.payload ++ rest) := by
    rw [wrapToRadio_short a.short, List.append_assoc]
    rfl
  have scanned := @skipToPair_noise _ _ _ StreamError.unexpectedEof _ _ start_distinct
    (beBytes 2 a.payload.length ++ a.payload ++ rest) a.noise a.clean
  rw [whole]
  show (skipToPair .unexpectedEof start1 start2 >>= fun _ => readRest) _ = _ ↔ _
  by_cases even : Even (trailing start1 a.noise)
  · rw [if_pos even] at scanned
    rw [bind_ok scanned, readRest_frame a.short]
    exact iff_of_true rfl even
  · rw [if_neg even] at scanned
    refine iff_of_false (fun ran => ?_) even
    obtain ⟨_, left, found, ran⟩ := bind_eq_ok ran
    rw [scanned] at found
    have lost := skipToPair_length _ found
    have used := readRest_length ran
    rw [List.length_append, List.length_append, beBytes_length] at lost
    omega

/-! ## A stream of frames -/

/-- The bytes that come in. -/
def Arrival.bytes (a : Arrival) : List UInt8 := a.noise ++ wrapToRadio a.payload

theorem readPayload_tail {tail : List UInt8} (clean : NoPair start1 start2 tail) :
    readPayload tail = (.error .unexpectedEof, []) :=
  bind_error (skipToPair_clean tail clean)

theorem payloads_read_iff (arrivals : List Arrival) {tail : List UInt8}
    (clean : NoPair start1 start2 tail) :
    Reads readPayload (wire Arrival.bytes arrivals tail)
        (marks Arrival.bytes Arrival.payload arrivals tail) .unexpectedEof ↔
      ∀ a ∈ arrivals, Even (trailing start1 a.noise) :=
  reads_wire_iff readPayload_arrival (readPayload_tail clean) arrivals

/-- The decoder gets each of the payloads. -/
theorem messages_read {α : Type} {decode : List UInt8 → Except String α} {message : List UInt8 → α}
    {arrivals : List Arrival} {tail : List UInt8} (clean : NoPair start1 start2 tail)
    (even : ∀ a ∈ arrivals, Even (trailing start1 a.noise))
    (decodes : ∀ a ∈ marks Arrival.bytes Arrival.payload arrivals tail,
      decode a.1 = .ok (message a.1)) :
    Reads (readFromRadio decode) (wire Arrival.bytes arrivals tail)
      ((marks Arrival.bytes Arrival.payload arrivals tail).map fun item => (message item.1, item.2))
      .unexpectedEof := by
  apply ((payloads_read_iff arrivals clean).mpr even).bind
  intro item mem s
  rw [decodes item mem]
  rfl

/-- Two first start bytes stand before the frame. -/
def evenNoise : Arrival := ⟨[0x0D, 0x94, 0x94], [8, 1], by decide, by decide⟩

/-- And here one. -/
def oddNoise : Arrival := ⟨[0x0D, 0x94], [8, 1], by decide, by decide⟩

theorem payloads_read_even :
    Reads readPayload (wire Arrival.bytes [evenNoise, evenNoise] [0x0A])
      (marks Arrival.bytes Arrival.payload [evenNoise, evenNoise] [0x0A]) .unexpectedEof :=
  (payloads_read_iff [evenNoise, evenNoise] (by decide)).mpr (by decide)

theorem frame_lost :
    ¬Reads readPayload (wire Arrival.bytes [oddNoise] [])
      (marks Arrival.bytes Arrival.payload [oddNoise] []) .unexpectedEof := by
  intro reads
  have lost : readPayload (wire Arrival.bytes [oddNoise] []) = (.error .unexpectedEof, []) := by decide
  cases lost.symm.trans reads.head.1

end SupplyDrop.Proof.StreamReader
