import Mathlib
import SupplyDrop.Library.Bytes
import SupplyDrop.Library.Framing

namespace SupplyDrop.Mesh.Stream
open Library Bytes Framing

def start1 : UInt8 := 0x94
def start2 : UInt8 := 0xC3
def maxProtoLen : Nat := 512

inductive StreamError where
  | unexpectedEof
  | tooLong (len : Nat)
  | undecodable (text : String)
deriving DecidableEq

/-- The wire bytes of an encoded message. -/
def wrapToRadio (payload : List UInt8) : List UInt8 :=
  [start1, start2] ++ beBytes 2 (min payload.length 0xFFFF) ++ payload

def writeToRadio (payload : List UInt8) : Except StreamError (List UInt8) :=
  if maxProtoLen < (wrapToRadio payload).length - 4 then .error (.tooLong maxProtoLen)
  else .ok (wrapToRadio payload)

abbrev ReaderM := Program (List UInt8) StreamError

/-- Up to the payload that is handed to the decoder. -/
def readPayload : ReaderM (List UInt8) := do
  skipToPair .unexpectedEof start1 start2
  let lenBytes ← readExact .unexpectedEof 2
  let len := beValue lenBytes
  if maxProtoLen < len then Program.fail (.tooLong len)
  else readExact .unexpectedEof len

def readFromRadio {α : Type} (decode : List UInt8 → Except String α) : ReaderM α := do
  let payload ← readPayload
  match decode payload with
  | .ok msg => pure msg
  | .error e => Program.fail (.undecodable e)

end SupplyDrop.Mesh.Stream
