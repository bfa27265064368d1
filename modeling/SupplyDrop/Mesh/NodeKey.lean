import Mathlib
import SupplyDrop.Library.Hex
import SupplyDrop.Library.Utf8
import SupplyDrop.Host.Types
import SupplyDrop.Mesh.Companion.Frame

namespace SupplyDrop.Mesh.NodeKey
open Library Bytes Utf8 Hex Host

/-! ## Requests to the transport -/

inductive MeshKeyRequest where
  | exportKey
  | importKey (key : Fixed 32)
deriving DecidableEq

def cmdExportPrivateKey : UInt8 := 23

def cmdImportPrivateKey : UInt8 := 24

/-- What the transport sends to the device. -/
def MeshKeyRequest.payload : MeshKeyRequest → List UInt8
  | .exportKey => [cmdExportPrivateKey]
  | .importKey key => cmdImportPrivateKey :: key.1

/-- The transport as the host has it. -/
structure KeyLink where
  registered : Bool
  receiving : Bool
  sent : List MeshKeyRequest
  -- `none` when the request is dropped unanswered
  reply : MeshKeyRequest → Option (Except String String)

abbrev KeyM := Program KeyLink HostError

def ask (req : MeshKeyRequest) : KeyM String := fun link =>
  if ¬link.registered then (.error (.internal "mesh transport not connected"), link)
  else if ¬link.receiving then (.error (.internal "mesh transport disconnected"), link)
  else
    (match link.reply req with
      | none => .error (.internal "key op cancelled")
      | some (.error e) => .error (.internal e)
      | some (.ok text) => .ok text, { link with sent := link.sent ++ [req] })

/-! ## Export -/

def adminExportNodeKey : KeyM String := ask .exportKey

/-- The answer to an export, when the device has sent its key. -/
def exportText (key : List UInt8) : String :=
  String.ofList (key.flatMap fun b => [Nat.digitChar (b.toNat / 16), Nat.digitChar (b.toNat % 16)])

/-! ## Import -/

/-- `str::from_utf8`. -/
def fromUtf8 (bytes : List UInt8) : Option String :=
  let s := fromUtf8Lossy bytes
  if asBytes s = bytes then some s else none

def chunks : List UInt8 → List (List UInt8)
  | [] => []
  | [a] => [[a]]
  | a :: b :: rest => [a, b] :: chunks rest

def keyByte (chunk : List UInt8) : Except HostError UInt8 :=
  match fromUtf8 chunk with
  | none => .error (.preconditionFailed "invalid hex in private key")
  | some s => match fromStrRadix (asBytes s) with
    | none => .error (.preconditionFailed "invalid hex in private key")
    | some b => .ok b

theorem keyBytes_length {cs : List (List UInt8)} {key : List UInt8}
    (read : cs.mapM keyByte = .ok key) : key.length = cs.length := by
  induction cs generalizing key with
  | nil =>
      cases read
      rfl
  | cons c cs ih =>
      rw [List.mapM_cons] at read
      cases first : keyByte c with
      | error e =>
          rw [first] at read
          cases read
      | ok b =>
          rw [first] at read
          cases others : cs.mapM keyByte with
          | error e =>
              rw [others] at read
              cases read
          | ok bs =>
              rw [others] at read
              cases read
              rw [List.length_cons, List.length_cons, ih others]

theorem chunks_length : ∀ (n : Nat) (bytes : List UInt8), bytes.length = 2 * n →
    (chunks bytes).length = n
  | 0, [], _ => rfl
  | n + 1, a :: b :: rest, length => by
      rw [chunks, List.length_cons, chunks_length n rest (by simp at length; omega)]

def decodeKey (hex : String) : Except HostError (Fixed 32) :=
  if length : (asBytes hex).length ≠ 64 then
    .error (.preconditionFailed "private key must be exactly 64 hex characters (32 bytes)")
  else match read : (chunks (asBytes hex)).mapM keyByte with
    | .error e => .error e
    | .ok key => .ok ⟨key, (keyBytes_length read).trans (chunks_length 32 _ (not_not.mp length))⟩

def adminImportNodeKey (hex : String) : KeyM Unit := fun link =>
  match decodeKey hex with
  | .error e => (.error e, link)
  | .ok key => (ask (.importKey key) >>= fun _ => pure ()) link

end SupplyDrop.Mesh.NodeKey
