import Mathlib
import SupplyDrop.Library.Clip
import SupplyDrop.Mesh.AdminLink

namespace SupplyDrop.Proof.AutoApply
open Library Mesh.Admin Mesh.Admin.AdminLink

/-! ## The writes that are queued -/

def queued (l : AdminLink) (writes : List DeferredWrite) : AdminLink := writes.foldl queueWrite l

def deviceWrites : Option DeviceConfig → List DeferredWrite
  | some current =>
      if current.nodeInfoBroadcastSecs ≠ nodeInfoBroadcastSecs then
        [.device { current with nodeInfoBroadcastSecs := nodeInfoBroadcastSecs }]
      else []
  | none => []

def radioWrites (config : AutoApplyConfig) (device : Option LoRaConfig) : List DeferredWrite :=
  match config.radio, device with
  | some radio, some current =>
      if (radio.overlay current).partialEq current then [] else [.lora (radio.overlay current) none]
  | _, _ => []

def hasNames (user : User) (device : Option User) : Bool :=
  device.any fun u => u.longName = user.longName ∧ u.shortName = user.shortName

def ownerWrites (config : AutoApplyConfig) (device : Option User) : List DeferredWrite :=
  if config.shortName.isSome ∨ config.longName.isSome then
    let user := ownerUser config.longName config.shortName
    if hasNames user device then [] else [.owner user none]
  else []

def writesFor (config : AutoApplyConfig) (l : AdminLink) : List DeferredWrite :=
  deviceWrites l.deviceConfig ++ radioWrites config l.deviceLora ++ ownerWrites config l.deviceOwner

variable {config : AutoApplyConfig} {radio : MeshtasticRadioConfig} {current : LoRaConfig}
  {l l' : AdminLink} {write : DeferredWrite}

theorem queued_append (l : AdminLink) (first second : List DeferredWrite) :
    queued (queued l first) second = queued l (first ++ second) :=
  List.foldl_append.symm

theorem queued_deviceLora (l : AdminLink) (writes : List DeferredWrite) :
    (queued l writes).deviceLora = l.deviceLora := by
  induction writes generalizing l with
  | nil => rfl
  | cons write rest ih => exact ih (l.queueWrite write)

theorem queued_deviceOwner (l : AdminLink) (writes : List DeferredWrite) :
    (queued l writes).deviceOwner = l.deviceOwner := by
  induction writes generalizing l with
  | nil => rfl
  | cons write rest ih => exact ih (l.queueWrite write)

theorem enqueueDevice_eq (l : AdminLink) :
    l.enqueueDevice = queued l (deviceWrites l.deviceConfig) := by
  unfold enqueueDevice deviceWrites
  cases l.deviceConfig with
  | none => rfl
  | some current =>
      dsimp only
      split <;> rfl

theorem enqueueRadio_eq (config : AutoApplyConfig) (l : AdminLink) :
    l.enqueueRadio config = queued l (radioWrites config l.deviceLora) := by
  unfold enqueueRadio radioWrites
  cases config.radio with
  | none => rfl
  | some radio =>
      cases l.deviceLora with
      | none => rfl
      | some current =>
          dsimp only
          split <;> rfl

theorem enqueueOwner_eq (config : AutoApplyConfig) (l : AdminLink) :
    l.enqueueOwner config = queued l (ownerWrites config l.deviceOwner) := by
  unfold enqueueOwner ownerWrites
  split
  · unfold hasNames
    dsimp only
    split <;> rfl
  · rfl

theorem enqueueAutoApply_eq (config : AutoApplyConfig) (l : AdminLink) :
    l.enqueueAutoApply config = queued l (writesFor config l) := by
  rw [enqueueAutoApply, enqueueOwner_eq, enqueueRadio_eq, enqueueDevice_eq, queued_deviceOwner,
    queued_deviceOwner, queued_deviceLora, queued_append, queued_append, writesFor,
    List.append_assoc]

theorem radioWrites_none (config : AutoApplyConfig) : radioWrites config none = [] := by
  unfold radioWrites
  split
  · next known => cases known
  · rfl

theorem radioWrites_some (chosen : config.radio = some radio) (current : LoRaConfig) :
    radioWrites config (some current) =
      if (radio.overlay current).partialEq current then []
      else [.lora (radio.overlay current) none] := by
  simp only [radioWrites, chosen]

/-- All that is ever queued. -/
inductive Queues (config : AutoApplyConfig) (l : AdminLink) : DeferredWrite → Prop where
  | device {current : DeviceConfig} (known : l.deviceConfig = some current)
      (differs : current.nodeInfoBroadcastSecs ≠ nodeInfoBroadcastSecs) :
      Queues config l (.device { current with nodeInfoBroadcastSecs := nodeInfoBroadcastSecs })
  | lora {radio : MeshtasticRadioConfig} {current : LoRaConfig} (chosen : config.radio = some radio)
      (known : l.deviceLora = some current)
      (differs : (radio.overlay current).partialEq current = false) :
      Queues config l (.lora (radio.overlay current) none)
  | owner (chosen : config.shortName.isSome ∨ config.longName.isSome)
      (differs : hasNames (ownerUser config.longName config.shortName) l.deviceOwner = false) :
      Queues config l (.owner (ownerUser config.longName config.shortName) none)

theorem queues_of_mem (mem : write ∈ writesFor config l) : Queues config l write := by
  simp only [writesFor, List.mem_append] at mem
  rcases mem with (mem | mem) | mem
  · unfold deviceWrites at mem
    split at mem
    · next current known =>
      split at mem
      · next differs =>
        rw [List.mem_singleton.mp mem]
        exact .device known differs
      · cases mem
    · cases mem
  · unfold radioWrites at mem
    split at mem
    · next radio current chosen known =>
      split at mem
      · cases mem
      · next differs =>
        rw [List.mem_singleton.mp mem]
        exact .lora chosen known ((Bool.not_eq_true _).mp differs)
    · cases mem
  · unfold ownerWrites at mem
    split at mem
    · next chosen =>
      dsimp only at mem
      split at mem
      · cases mem
      · next differs =>
        rw [List.mem_singleton.mp mem]
        exact .owner chosen ((Bool.not_eq_true _).mp differs)
    · cases mem

/-! ## What is written -/

inductive LoRaField where
  | usePreset
  | modemPreset
  | bandwidth
  | spreadFactor
  | codingRate
  | frequencyOffset
  | region
  | hopLimit
  | txEnabled
  | txPower
  | channelNum
  | overrideFrequency
  | sx126xRxBoostedGain
  | ignoreMqtt

def SameField (a b : LoRaConfig) : LoRaField → Prop
  | .usePreset => a.usePreset = b.usePreset
  | .modemPreset => a.modemPreset = b.modemPreset
  | .bandwidth => a.bandwidth = b.bandwidth
  | .spreadFactor => a.spreadFactor = b.spreadFactor
  | .codingRate => a.codingRate = b.codingRate
  | .frequencyOffset => a.frequencyOffset = b.frequencyOffset
  | .region => a.region = b.region
  | .hopLimit => a.hopLimit = b.hopLimit
  | .txEnabled => a.txEnabled = b.txEnabled
  | .txPower => a.txPower = b.txPower
  | .channelNum => a.channelNum = b.channelNum
  | .overrideFrequency => a.overrideFrequency = b.overrideFrequency
  | .sx126xRxBoostedGain => a.sx126xRxBoostedGain = b.sx126xRxBoostedGain
  | .ignoreMqtt => a.ignoreMqtt = b.ignoreMqtt

/-- There are no other fields. -/
theorem eq_of_sameField {a b : LoRaConfig} (same : ∀ field, SameField a b field) : a = b := by
  cases a
  cases b
  rw [LoRaConfig.mk.injEq]
  exact ⟨same .usePreset, same .modemPreset, same .bandwidth, same .spreadFactor, same .codingRate,
    same .frequencyOffset, same .region, same .hopLimit, same .txEnabled, same .txPower,
    same .channelNum, same .overrideFrequency, same .sx126xRxBoostedGain, same .ignoreMqtt⟩

/-- The fields that a radio configuration has a value for. -/
def Configured (radio : MeshtasticRadioConfig) : LoRaField → Prop
  | .modemPreset => radio.modemPreset.isSome
  | .region => radio.region.isSome
  | .hopLimit | .txEnabled | .sx126xRxBoostedGain | .ignoreMqtt => True
  | _ => False

theorem overlay_differs (field : LoRaField)
    (differs : ¬ SameField current (radio.overlay current) field) :
    Configured radio field ∨ field = .usePreset := by
  cases field with
  | usePreset => exact .inr rfl
  | modemPreset =>
      refine .inl (Option.isSome_iff_ne_none.mpr fun unset => differs ?_)
      simp [SameField, MeshtasticRadioConfig.overlay, unset]
  | region =>
      refine .inl (Option.isSome_iff_ne_none.mpr fun unset => differs ?_)
      simp [SameField, MeshtasticRadioConfig.overlay, unset]
  | hopLimit | txEnabled | sx126xRxBoostedGain | ignoreMqtt => exact .inl trivial
  | _ => exact absurd rfl differs

theorem overlay_region (recognised : ∀ name ∈ radio.region, name ∈ regions)
    (set : current.region ≠ 0) : (radio.overlay current).region ≠ 0 := by
  unfold MeshtasticRadioConfig.overlay
  cases chosen : radio.region with
  | none => exact set
  | some name =>
      have known : regionStrToInt name = regions.idxOf name + 1 := if_pos (recognised name chosen)
      rw [Option.map_some, Option.getD_some, known]
      exact Nat.cast_add_one_ne_zero _

theorem overlay_overlay (radio : MeshtasticRadioConfig) (current : LoRaConfig) :
    radio.overlay (radio.overlay current) = radio.overlay current := by
  unfold MeshtasticRadioConfig.overlay
  cases radio.modemPreset <;> cases radio.region <;> rfl

/-- Every character takes one byte. -/
def Ascii (s : String) : Prop := ∀ ch ∈ s.toList, ch.utf8Size = 1

theorem clamp_bytes {s : String} (ascii : Ascii s) (maxChars : Nat) :
    (clamp s maxChars).utf8ByteSize ≤ maxChars := by
  have single : ∀ size ∈ (s.toList.take maxChars).map Char.utf8Size, size ≤ 1 := by
    intro size mem
    obtain ⟨ch, taken, rfl⟩ := List.mem_map.mp mem
    exact (ascii ch (List.mem_of_mem_take taken)).le
  have count := List.sum_le_card_nsmul _ 1 single
  rw [List.length_map, smul_eq_mul, mul_one] at count
  rw [clamp, Clip.bytes_ofList]
  exact count.trans (List.length_take_le _ _)

/-- What a write may say, where `l` knows the radio and `config` is what the operator chose. -/
def Describes (config : AutoApplyConfig) (l : AdminLink) : DeferredWrite → Prop
  | .device desired => ∃ current, l.deviceConfig = some current ∧
      desired = { current with nodeInfoBroadcastSecs := nodeInfoBroadcastSecs }
  | .lora desired _ => ∃ radio current, config.radio = some radio ∧ l.deviceLora = some current ∧
      (∀ field, ¬ SameField current desired field → Configured radio field ∨ field = .usePreset) ∧
      ((∀ name ∈ radio.region, name ∈ regions) → current.region ≠ 0 → desired.region ≠ 0)
  | .owner user _ =>
      (config.shortName.isSome ∨ config.longName.isSome) ∧
      -- what is empty is not sent
      user.id = "" ∧ user.role = 0 ∧ user.publicKey = [] ∧
      (∀ name ∈ config.longName, user.longName = clamp name 39 ∧
        (Ascii name → user.longName.utf8ByteSize ≤ 39)) ∧
      ∀ name ∈ config.shortName, user.shortName = clamp name 4 ∧
        (Ascii name → user.shortName.utf8ByteSize ≤ 4)
  | _ => False

theorem Queues.describes (queues : Queues config l write) : Describes config l write := by
  cases queues with
  | device known differs => exact ⟨_, known, rfl⟩
  | lora chosen known differs =>
      exact ⟨_, _, chosen, known, overlay_differs, overlay_region⟩
  | owner chosen differs =>
      refine ⟨chosen, rfl, rfl, rfl, fun name set => ?_, fun name set => ?_⟩
      · simp only [ownerUser, Option.mem_def.mp set, Option.map_some, Option.getD_some, true_and]
        exact fun ascii => clamp_bytes ascii 39
      · simp only [ownerUser, Option.mem_def.mp set, Option.map_some, Option.getD_some, true_and]
        exact fun ascii => clamp_bytes ascii 4

/-! ## A radio that has applied the writes -/

/-- `l'` knows the radio as a write describes it. -/
def Reports (l' : AdminLink) : DeferredWrite → Prop
  | .device desired => l'.deviceConfig = some desired
  | .lora desired _ => l'.deviceLora = some desired
  | .owner user _ => ∃ owner, l'.deviceOwner = some owner ∧
      owner.longName = user.longName ∧ owner.shortName = user.shortName
  | _ => True

structure Applied (writes : List DeferredWrite) (l l' : AdminLink) : Prop where
  reports : ∀ write ∈ writes, Reports l' write
  device : (∀ desired, .device desired ∉ writes) → l'.deviceConfig = l.deviceConfig
  lora : (∀ desired reply, .lora desired reply ∉ writes) → l'.deviceLora = l.deviceLora
  owner : (∀ user reply, .owner user reply ∉ writes) → l'.deviceOwner = l.deviceOwner

def IsNumbered (current : LoRaConfig) : Prop :=
  isNaN current.frequencyOffset = false ∧ isNaN current.overrideFrequency = false

/-- What is not a number is not even the same as itself. -/
theorem overlay_partialEq (radio : MeshtasticRadioConfig) (numbered : IsNumbered current) :
    (radio.overlay current).partialEq (radio.overlay current) = true := by
  simp [LoRaConfig.partialEq, floatEq, MeshtasticRadioConfig.overlay, numbered.1, numbered.2]

theorem device_again (applied : Applied (writesFor config l) l l') :
    deviceWrites l'.deviceConfig = [] := by
  cases known : l.deviceConfig with
  | none =>
      have kept := applied.device fun desired mem => by
        cases queues_of_mem mem with
        | device held differs => cases known.symm.trans held
      rw [kept, known, deviceWrites]
  | some current =>
      by_cases same : current.nodeInfoBroadcastSecs = nodeInfoBroadcastSecs
      · have kept := applied.device fun desired mem => by
          cases queues_of_mem mem with
          | device held differs =>
              cases known.symm.trans held
              exact differs same
        rw [kept, known, deviceWrites, if_neg (not_not.mpr same)]
      · have written := applied.reports
          (.device { current with nodeInfoBroadcastSecs := nodeInfoBroadcastSecs })
          (by simp [writesFor, deviceWrites, known, same])
        rw [show l'.deviceConfig = _ from written, deviceWrites, if_neg (not_not.mpr rfl)]

theorem radio_again (numbered : ∀ current ∈ l.deviceLora, IsNumbered current)
    (applied : Applied (writesFor config l) l l') : radioWrites config l'.deviceLora = [] := by
  cases chosen : config.radio with
  | none => simp only [radioWrites, chosen]
  | some radio =>
      cases known : l.deviceLora with
      | none =>
          have kept := applied.lora fun desired reply mem => by
            cases queues_of_mem mem with
            | lora chose held differs => cases known.symm.trans held
          rw [kept, known, radioWrites_none]
      | some current =>
          cases same : (radio.overlay current).partialEq current with
          | true =>
              have kept := applied.lora fun desired reply mem => by
                cases queues_of_mem mem with
                | lora chose held differs =>
                    cases known.symm.trans held
                    cases chosen.symm.trans chose
                    cases same.symm.trans differs
              rw [kept, known, radioWrites_some chosen, if_pos same]
          | false =>
              have written := applied.reports (.lora (radio.overlay current) none)
                (by simp [writesFor, radioWrites, chosen, known, same])
              have settled := overlay_partialEq radio (numbered current known)
              rw [show l'.deviceLora = _ from written, radioWrites_some chosen, overlay_overlay,
                if_pos settled]

theorem owner_again (applied : Applied (writesFor config l) l l') :
    ownerWrites config l'.deviceOwner = [] := by
  by_cases chosen : config.shortName.isSome ∨ config.longName.isSome
  · rw [ownerWrites, if_pos chosen]
    apply if_pos
    cases same : hasNames (ownerUser config.longName config.shortName) l.deviceOwner with
    | true =>
        have kept := applied.owner fun user reply mem => by
          cases queues_of_mem mem with
          | owner chose differs => cases same.symm.trans differs
        rw [kept, same]
    | false =>
        have written := applied.reports (.owner (ownerUser config.longName config.shortName) none)
          (by simp [writesFor, ownerWrites, if_pos chosen, same])
        obtain ⟨owner, held, long, short⟩ := written
        rw [held]
        exact decide_eq_true ⟨long, short⟩
  · rw [ownerWrites, if_neg chosen]

/-- A radio as it comes from its maker. -/
def asDelivered : AdminLink := { AdminLink.initial with
  deviceConfig := some {
    role := 0
    serialEnabled := true
    buttonGpio := 0
    buzzerGpio := 0
    rebroadcastMode := 0
    nodeInfoBroadcastSecs := 10800
    doubleTapAsButtonPress := false
    isManaged := false
    disableTripleClick := false
    tzdef := ""
    ledHeartbeatDisabled := false
    buzzerMode := 0 } }

end SupplyDrop.Proof.AutoApply
