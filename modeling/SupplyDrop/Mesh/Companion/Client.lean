import Mathlib
import SupplyDrop.Library.Framing
import SupplyDrop.Mesh.Companion.Frame

namespace SupplyDrop.Mesh.Companion
open Library Bytes Framing

inductive ReadError where
  | unexpectedEof
  | tooLong (len : Nat)
  | undecodable (e : FrameDecodeError)
  -- not an error that is returned: the task is gone
  | panicked
deriving DecidableEq

abbrev ReaderM := Program (List UInt8) ReadError

def decoded (payload : List UInt8) : ReaderM InboundFrame :=
  match (decodeInbound payload).run with
  | none => Program.fail .panicked
  | some (.error e) => Program.fail (.undecodable e)
  | some (.ok frame) => pure frame

def readFrame : ReaderM InboundFrame := do
  skipTo .unexpectedEof frameOutboundPrefix
  let lenBytes ← readExact .unexpectedEof 2
  let payloadLen := leValue lenBytes
  if maxPayloadSize < payloadLen then Program.fail (.tooLong payloadLen)
  else do
    let payload ← readExact .unexpectedEof payloadLen
    decoded payload

end SupplyDrop.Mesh.Companion
