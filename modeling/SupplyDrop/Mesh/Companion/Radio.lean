import SupplyDrop.Library.Text
import SupplyDrop.Mesh.Companion.Frame

namespace SupplyDrop.Mesh.Companion
open Library Bytes

/-! ## Region presets -/

structure RegionPreset where
  name : String
  frequencyHz : UInt64
  bandwidthHz : UInt32
  spreadingFactor : UInt8
  codingRate : UInt8
  txPowerDbm : Int32

def regionPresets : List RegionPreset :=
  [
    ⟨"Australia", 915_800_000, 250_000, 10, 5, 20⟩,
    ⟨"Australia (Narrow)", 916_575_000, 62_500, 7, 5, 20⟩,
    ⟨"Australia SA, WA, QLD", 923_125_000, 62_500, 8, 5, 20⟩,
    ⟨"Czech Republic", 869_432_000, 62_500, 7, 5, 14⟩,
    ⟨"EU 433MHz", 433_650_000, 250_000, 11, 5, 20⟩,
    ⟨"EU/UK (Long Range)", 869_525_000, 250_000, 11, 5, 14⟩,
    ⟨"EU/UK (Medium Range)", 869_525_000, 250_000, 10, 5, 14⟩,
    ⟨"EU/UK (Narrow)", 869_618_000, 62_500, 8, 5, 14⟩,
    ⟨"New Zealand", 917_375_000, 250_000, 11, 5, 20⟩,
    ⟨"New Zealand (Narrow)", 917_375_000, 62_500, 7, 5, 20⟩,
    ⟨"Portugal 433", 433_375_000, 62_500, 9, 5, 20⟩,
    ⟨"Portugal 869", 869_618_000, 62_500, 7, 5, 14⟩,
    ⟨"Switzerland", 869_618_000, 62_500, 8, 5, 14⟩,
    ⟨"USA Arizona", 908_205_000, 62_500, 10, 5, 20⟩,
    ⟨"USA/Canada", 910_525_000, 62_500, 7, 5, 20⟩,
    ⟨"Vietnam", 920_250_000, 250_000, 11, 5, 20⟩,
    ⟨"Off-Grid 433", 433_000_000, 250_000, 11, 8, 20⟩,
    ⟨"Off-Grid 869", 869_000_000, 250_000, 11, 8, 14⟩,
    ⟨"Off-Grid 918", 918_000_000, 250_000, 11, 8, 20⟩
  ]

/-- `[plugins.mesh.radio]` -/
structure RadioConfig where
  preset : Option String
  frequencyHz : Option UInt64
  bandwidthHz : Option UInt32
  spreadingFactor : Option UInt8
  codingRate : Option UInt8
  txPowerDbm : Option Int32

structure ResolvedRadio where
  frequencyHz : UInt32
  bandwidthHz : UInt32
  spreadingFactor : UInt8
  codingRate : UInt8
  txPowerDbm : Int32
deriving DecidableEq

/-- What the caller of `resolve_radio` gives besides the configuration. -/
structure RadioOverrides where
  preset : Option String
  frequencyHz : Option UInt64
  bandwidthHz : Option UInt32
  spreadingFactor : Option UInt8
  codingRate : Option UInt8
  txPowerDbm : Option Int32

def RadioOverrides.none : RadioOverrides :=
  ⟨Option.none, Option.none, Option.none, Option.none, Option.none, Option.none⟩

def findPreset (name : String) : Except String RegionPreset :=
  match regionPresets.find? fun p => Text.eqIgnoreAsciiCase p.name name with
  | some p => .ok p
  | none => .error s!"unknown preset '{name}'"

/-- `ok_or` -/
def okOr {α : Type} (value : Option α) (message : String) : Except String α :=
  match value with
  | some a => .ok a
  | none => .error message

def resolveRadio (cfgRadio : Option RadioConfig) (ov : RadioOverrides) :
    Except String ResolvedRadio := do
  let presetName := ov.preset.or (cfgRadio.bind (·.preset))
  let preset ← presetName.mapM findPreset
  -- preset, then the fields of the configuration, then the explicit overrides
  let layered {α β : Type} (base : RegionPreset → α) (field : RadioConfig → Option α)
      (last : Option α) (f : α → β) : Option β :=
    ((last.or (cfgRadio.bind field)).or (preset.map base)).map f
  let freq := layered (·.frequencyHz) (·.frequencyHz) ov.frequencyHz UInt64.toUInt32
  let bw := layered (·.bandwidthHz) (·.bandwidthHz) ov.bandwidthHz id
  let sf := layered (·.spreadingFactor) (·.spreadingFactor) ov.spreadingFactor id
  let cr := layered (·.codingRate) (·.codingRate) ov.codingRate id
  let pwr := layered (·.txPowerDbm) (·.txPowerDbm) ov.txPowerDbm id
  let frequencyHz ← okOr freq "frequency_hz not set — specify a preset or frequency_hz in config"
  let bandwidthHz ← okOr bw "bandwidth_hz not set"
  let spreadingFactor ← okOr sf "spreading_factor not set"
  let codingRate ← okOr cr "coding_rate not set"
  let txPowerDbm ← okOr pwr "tx_power_dbm not set"
  pure { frequencyHz, bandwidthHz, spreadingFactor, codingRate, txPowerDbm }

/-! ## Bringing the radio in line with the configuration -/

/-- The outbound frames that set radio parameters. -/
inductive RadioFrame where
  | setRadioParams (frequencyHz bandwidthHz : UInt32) (spreadingFactor codingRate : UInt8)
  | setRadioTxPower (powerDbm : Int8)
deriving DecidableEq

def saturatingMul (a b : UInt32) : UInt32 := UInt32.ofNat (min (a.toNat * b.toNat) (2 ^ 32 - 1))

def syncRadioParamsIfConfigured (radioConfig : Option RadioConfig) (info : SelfInfo) :
    List RadioFrame :=
  match radioConfig with
  | none => []
  | some radioConfig =>
      match resolveRadio (some radioConfig) .none with
      | .error _ => []
      | .ok resolved =>
          let currentFreqHz := saturatingMul info.frequencyKhz 1000
          let paramsDiffer := currentFreqHz ≠ resolved.frequencyHz ∨
            info.bandwidthHz ≠ resolved.bandwidthHz ∨
            info.spreadingFactor ≠ resolved.spreadingFactor ∨
            info.codingRate ≠ resolved.codingRate
          let powerDiffers := Int32.ofNat info.txPowerDbm.toNat ≠ resolved.txPowerDbm
          (if paramsDiffer then
            [.setRadioParams resolved.frequencyHz resolved.bandwidthHz resolved.spreadingFactor
              resolved.codingRate]
          else []) ++
            if powerDiffers then [.setRadioTxPower resolved.txPowerDbm.toInt8] else []

def cmdSetRadioParams : UInt8 := 11

def cmdSetRadioTxPower : UInt8 := 12

def encodeRadioFrame : RadioFrame → List UInt8
  | .setRadioParams frequencyHz bandwidthHz spreadingFactor codingRate =>
      -- kilohertz on the wire, as the device reports it
      let freqKhz := frequencyHz / 1000
      cmdSetRadioParams :: (leBytes 4 freqKhz.toNat ++ leBytes 4 bandwidthHz.toNat ++
        [spreadingFactor, codingRate])
  | .setRadioTxPower powerDbm => [cmdSetRadioTxPower, powerDbm.toUInt8]

/-! ## A device that reports what it was told -/

/-- The body of the device's next `SelfInfo`: the bytes a frame carries stand where the device
reports the values. -/
def storeFrame (body : List UInt8) : List UInt8 → List UInt8
  | [] => body
  | code :: values =>
      if code = cmdSetRadioParams then body.take 47 ++ values ++ body.drop 57
      else if code = cmdSetRadioTxPower then body.take 1 ++ values ++ body.drop 2
      else body

def storeFrames (body : List UInt8) (frames : List RadioFrame) : List UInt8 :=
  frames.foldl (fun body frame => storeFrame body (encodeRadioFrame frame)) body

end SupplyDrop.Mesh.Companion
