import Mathlib
import SupplyDrop.Transport.MeshCore
import SupplyDrop.Transport.Host

namespace SupplyDrop.Proof
open Library Library.Program Host Transport

variable {α σ ε β γ : Type} {I : Station α σ → Prop}

/-- The handler goes on from there, and `I` still holds. -/
def Continues (I : Station α σ → Prop) (m : TransportM α σ ε β) : Prop :=
  Triple I m fun r s => (∃ a, r = .ok a) ∧ I s

namespace Continues

theorem ret (a : β) : Continues I (pure a : TransportM α σ ε β) := fun _ holds => ⟨⟨a, rfl⟩, holds⟩

theorem looking (f : Station α σ → β) : Continues I (Transport.looking f : TransportM α σ ε β) :=
  fun s holds => ⟨⟨f s, rfl⟩, holds⟩

theorem ask (m : Program σ HostError β) (holds : ∀ s h, I s → I { s with host := h }) :
    Continues I (Transport.ask m : TransportM α σ ε _) :=
  fun s held => ⟨⟨_, rfl⟩, holds s _ held⟩

theorem andThen {m : TransportM α σ ε β} {f : β → TransportM α σ ε γ}
    {Q : Except ε γ → Station α σ → Prop} (first : Continues I m)
    (rest : ∀ a, Triple I (f a) Q) : Triple I (m >>= f) Q := by
  refine Triple.bind (Q := Q) first ?_ ?_
  · intro a s after
    exact rest a s after.2
  · rintro e s ⟨⟨a, impossible⟩, -⟩
    cases impossible

theorem bind {m : TransportM α σ ε β} {f : β → TransportM α σ ε γ} (first : Continues I m)
    (rest : ∀ a, Continues I (f a)) : Continues I (m >>= f) := first.andThen rest

theorem keeps {m : TransportM α σ ε β} (continues : Continues I m) : Keeps I m :=
  fun s holds => (continues s holds).2

end Continues

end SupplyDrop.Proof

namespace SupplyDrop.Proof.Continues
open Library Library.Program Store Host Transport Transport.MeshCore

variable {σ : Type} {I : Station SessionState σ → Prop} {host : HostApi σ}
  {adverts : AdvertKeys σ} {cfg : Config} {sender : Sender}

/-! ## The stages of a dispatch that always go on -/

theorem seedPubkey (sets : ∀ pubkey, Continues I
    (onEntry sender (·.setFullPubkey pubkey) : MeshM σ Unit)) :
    Continues I (MeshCore.seedPubkey adverts sender) := by
  apply (Continues.looking _).bind
  intro known
  cases known with
  | none => exact .ret _
  | some pubkey => exact sets pubkey

theorem rememberReply (text : String) (awaitingReply : Bool) (sets : ∀ clock, Continues I
    (onEntry sender (·.setLastWorkflowReply text clock) : MeshM σ Unit)) :
    Continues I (MeshCore.rememberReply sender text awaitingReply) := by
  apply (Continues.looking _).bind
  intro clock
  split
  · exact sets clock
  · exact .ret _

section Asks
variable (holds : ∀ s h, I s → I { s with host := h })
include holds

theorem expireWorkflow (session : SessionId) (closes : ∀ clock, Continues I
    (onEntry sender (·.updateAwaitingReply none clock) : MeshM σ Unit)) :
    Continues I (MeshCore.expireWorkflow host cfg sender session) := by
  apply (Continues.looking _).bind
  intro entry
  apply (Continues.looking _).bind
  intro clock
  dsimp only
  split
  · apply (Continues.ask _ holds).bind
    intro _
    exact (closes clock).bind fun _ => .ret _
  · exact .ret _

theorem restore (session : SessionId) (fullPubkey : Option PublicKey) :
    Continues I (MeshCore.restore host cfg session fullPubkey) := by
  unfold MeshCore.restore
  split
  · cases fullPubkey with
    | none => exact .ret _
    | some pubkey => exact (Continues.ask _ holds).bind fun _ => .ret _
  · exact .ret _

theorem autoLogin (session : SessionId) (isNew : Bool) (fullPubkey : Option PublicKey)
    (awaitingReply : Bool) :
    Continues I (MeshCore.autoLogin host cfg session isNew fullPubkey awaitingReply) := by
  apply (Continues.looking _).bind
  intro authenticated
  split
  · exact Continues.restore holds session fullPubkey
  · exact .ret _

theorem keepCredential (fullPubkey : Option PublicKey) (done : Processed) :
    Continues I (MeshCore.keepCredential host cfg fullPubkey done) := by
  unfold MeshCore.keepCredential
  split
  · split
    · exact (Continues.ask _ holds).bind fun _ => .ret _
    · exact (Continues.ask _ holds).bind fun _ => .ret _
    · exact .ret _
  · exact .ret _

end Asks

end SupplyDrop.Proof.Continues
