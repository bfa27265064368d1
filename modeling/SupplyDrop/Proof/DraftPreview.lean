import Mathlib
import SupplyDrop.Library.Clip
import SupplyDrop.Host.Format
import SupplyDrop.Proof.Accounts

namespace SupplyDrop.Host
open Library Store

variable {s : String} {max : Nat}

/-! ## A text clipped to a number of bytes -/

theorem takeBytes_eq (cs : List Char) (max : Nat) :
    takeBytes cs max = Clip.fitting Char.utf8Size cs max := by
  induction cs generalizing max with
  | nil => rfl
  | cons c cs ih => rw [takeBytes, Clip.fitting, ih]

theorem clipToBytes_fits (fits : s.utf8ByteSize ≤ max) : clipToBytes s max = s := if_pos fits

theorem clipToBytes_cut (long : ¬s.utf8ByteSize ≤ max) (room : 3 ≤ max) :
    clipToBytes s max = String.ofList (Clip.fitting Char.utf8Size s.toList (max - 3)) ++ "…" := by
  unfold clipToBytes
  rw [if_neg long, if_neg (not_lt.mpr (Clip.bytes_ellipsis ▸ room)), takeBytes_eq,
    Clip.bytes_ellipsis]

theorem clipToBytes_bytes (s : String) (max : Nat) : (clipToBytes s max).utf8ByteSize ≤ max := by
  by_cases fits : s.utf8ByteSize ≤ max
  · rwa [clipToBytes_fits fits]
  · by_cases room : 3 ≤ max
    · have : Clip.total Char.utf8Size (Clip.fitting Char.utf8Size s.toList (max - 3)) ≤ _ :=
        Clip.total_fitting_le s.toList _
      rw [clipToBytes_cut fits room, String.utf8ByteSize_append, Clip.bytes_ellipsis,
        Clip.bytes_ofList]
      omega
    · unfold clipToBytes
      rw [if_neg fits, if_pos (Clip.bytes_ellipsis ▸ not_le.mp room)]
      exact Nat.zero_le max

/-! ## The preview of a draft -/

/-- What stands before the draft. -/
def draftStart : Option Username → String
  | some r => s!"To {r.text}: "
  | none => ""

def draftInstructions : String := "\nType . to send, C to cancel"

theorem draftStart_bytes (recipient : Option Username) :
    (draftStart recipient).utf8ByteSize ≤ 37 := by
  cases recipient with
  | none => exact Nat.zero_le 37
  | some r =>
      have short := validateChars_bytes r.valid
      have parts : (draftStart (some r)).utf8ByteSize =
          "To ".utf8ByteSize + r.text.utf8ByteSize + ": ".utf8ByteSize := by
        rw [← String.utf8ByteSize_append, ← String.utf8ByteSize_append]
        rfl
      have edges : "To ".utf8ByteSize = 3 ∧ ": ".utf8ByteSize = 2 := by decide +kernel
      omega

theorem draftInstructions_bytes : draftInstructions.utf8ByteSize = 28 := by decide +kernel

theorem draftPreview_eq (recipient : Option Username) (body : String) :
    draftPreview recipient body true =
      draftStart recipient ++ clipToBytes body
        (150 - ((draftStart recipient).utf8ByteSize + draftInstructions.utf8ByteSize)) ++
        draftInstructions := by
  cases recipient <;> rfl

/-- The whole text, or the start of it up to a character and an ellipsis. -/
def ClippedFrom (text shown : String) : Prop :=
  shown = text ∨ ∃ part : String, part.toList <+: text.toList ∧ shown = part ++ "…"

theorem clipToBytes_clipped (room : 3 ≤ max) (s : String) : ClippedFrom s (clipToBytes s max) := by
  by_cases fits : s.utf8ByteSize ≤ max
  · exact .inl (clipToBytes_fits fits)
  · refine .inr ⟨_, ?_, clipToBytes_cut fits room⟩
    rw [String.toList_ofList]
    exact Clip.fitting_prefix s.toList (max - 3)

theorem draftPreview_keeps_instructions (recipient : Option Username) (body : String) :
    (draftPreview recipient body true).utf8ByteSize ≤ 150 ∧
      ∃ shown, draftPreview recipient body true =
        draftStart recipient ++ shown ++ draftInstructions ∧ ClippedFrom body shown := by
  have start := draftStart_bytes recipient
  have instructions := draftInstructions_bytes
  rw [draftPreview_eq]
  generalize room : 150 - ((draftStart recipient).utf8ByteSize + draftInstructions.utf8ByteSize) =
    max
  constructor
  · have within := clipToBytes_bytes body max
    rw [String.utf8ByteSize_append, String.utf8ByteSize_append]
    omega
  · exact ⟨_, rfl, clipToBytes_clipped (by omega) body⟩

end SupplyDrop.Host
