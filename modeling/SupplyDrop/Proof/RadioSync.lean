import SupplyDrop.Library.Program
import SupplyDrop.Mesh.Companion.Radio
import SupplyDrop.Proof.InboundFrames

namespace SupplyDrop.Proof.RadioSync
open Library Bytes Mesh.Companion

/-! ## What the configuration asks for -/

/-- The configured values, before they are brought to the widths of the device. -/
structure Wanted where
  frequencyHz : UInt64
  bandwidthHz : UInt32
  spreadingFactor : UInt8
  codingRate : UInt8
  txPowerDbm : Int32

def Wanted.resolved (w : Wanted) : ResolvedRadio :=
  ⟨w.frequencyHz.toUInt32, w.bandwidthHz, w.spreadingFactor, w.codingRate, w.txPowerDbm⟩

def presetOf (cfg : RadioConfig) : Option RegionPreset :=
  cfg.preset.bind fun name => regionPresets.find? fun p => Text.eqIgnoreAsciiCase p.name name

/-- Each value from its own field, or from the preset where the field is not set. -/
def wanted (cfg : RadioConfig) : Option Wanted := do
  let preset := presetOf cfg
  let frequencyHz ← cfg.frequencyHz.or (preset.map (·.frequencyHz))
  let bandwidthHz ← cfg.bandwidthHz.or (preset.map (·.bandwidthHz))
  let spreadingFactor ← cfg.spreadingFactor.or (preset.map (·.spreadingFactor))
  let codingRate ← cfg.codingRate.or (preset.map (·.codingRate))
  let txPowerDbm ← cfg.txPowerDbm.or (preset.map (·.txPowerDbm))
  pure ⟨frequencyHz, bandwidthHz, spreadingFactor, codingRate, txPowerDbm⟩

theorem okOr_ok {α : Type} {value : Option α} {message : String} {a : α}
    (h : okOr value message = .ok a) : value = some a := by
  cases value with
  | none => cases h
  | some b => exact congrArg some (Except.ok.inj h)

theorem findPreset_ok {name : String} {p : RegionPreset} (h : findPreset name = .ok p) :
    (regionPresets.find? fun p => Text.eqIgnoreAsciiCase p.name name) = some p := by
  unfold findPreset at h
  split at h
  · next found => exact found.trans (congrArg some (Except.ok.inj h))
  · cases h

theorem preset_ok {cfg : RadioConfig} {preset : Option RegionPreset}
    (h : cfg.preset.mapM findPreset = .ok preset) : preset = presetOf cfg := by
  unfold presetOf
  cases named : cfg.preset with
  | none =>
      rw [named] at h
      exact (Except.ok.inj h).symm
  | some name =>
      rw [named, Option.mapM_some] at h
      cases found : findPreset name with
      | error e =>
          rw [found] at h
          cases h
      | ok p =>
          rw [found] at h
          rw [← Except.ok.inj h, Option.bind_some, findPreset_ok found]

theorem resolveRadio_ok {cfg : RadioConfig} {r : ResolvedRadio}
    (h : resolveRadio (some cfg) .none = .ok r) : ∃ w, wanted cfg = some w ∧ r = w.resolved := by
  unfold resolveRadio at h
  obtain ⟨preset, named, h⟩ := except_bind_eq_ok.mp h
  obtain rfl := preset_ok named
  obtain ⟨_, freq, h⟩ := except_bind_eq_ok.mp h
  obtain ⟨_, bw, h⟩ := except_bind_eq_ok.mp h
  obtain ⟨_, sf, h⟩ := except_bind_eq_ok.mp h
  obtain ⟨_, cr, h⟩ := except_bind_eq_ok.mp h
  obtain ⟨_, pwr, h⟩ := except_bind_eq_ok.mp h
  obtain ⟨hz, hFreq, rfl⟩ := Option.map_eq_some_iff.mp (okOr_ok freq)
  obtain ⟨bw', hBw, rfl⟩ := Option.map_eq_some_iff.mp (okOr_ok bw)
  obtain ⟨sf', hSf, rfl⟩ := Option.map_eq_some_iff.mp (okOr_ok sf)
  obtain ⟨cr', hCr, rfl⟩ := Option.map_eq_some_iff.mp (okOr_ok cr)
  obtain ⟨pwr', hPwr, rfl⟩ := Option.map_eq_some_iff.mp (okOr_ok pwr)
  simp only [RadioOverrides.none, Option.none_or, Option.bind_some] at hFreq hBw hSf hCr hPwr
  refine ⟨⟨hz, bw', sf', cr', pwr'⟩, ?_, (Except.ok.inj h).symm⟩
  unfold wanted
  simp only [hFreq, hBw, hSf, hCr, hPwr, Option.bind_eq_bind, Option.bind_some]
  rfl

/-! ## What the device reports -/

/-- The radio parameters in a `SelfInfo`. -/
@[ext] structure Radio where
  txPowerDbm : UInt8
  frequencyKhz : UInt32
  bandwidthHz : UInt32
  spreadingFactor : UInt8
  codingRate : UInt8

def radioOf (info : SelfInfo) : Radio :=
  ⟨info.txPowerDbm, info.frequencyKhz, info.bandwidthHz, info.spreadingFactor, info.codingRate⟩

/-- The same, from the bytes. -/
def radioAt (body : List UInt8) : Radio :=
  let params := body.drop 47
  ⟨body.getD 1 0, UInt32.ofNat (leValue (params.take 4)),
    UInt32.ofNat (leValue ((params.drop 4).take 4)), params.getD 8 0, params.getD 9 0⟩

def reports (body : List UInt8) (info : SelfInfo) : Prop :=
  decodeInbound (respCodeSelfInfo :: body) = pure (.selfInfo info)

theorem parseSelfInfo_radio {body : List UInt8} (long : 57 ≤ body.length) :
    ∃ info, parseSelfInfo body = pure info ∧ radioOf info = radioAt body := by
  unfold parseSelfInfo
  simp (disch := omega) only [index_in, slice_in, sliceFrom_in, copyFromSlice_range, readCstr_eq,
    rU32_in, rI32_in, pure_bind]
  refine ⟨_, rfl, ?_⟩
  have at_ {i : Nat} (inside : i < body.length) : body[i] = body.getD i 0 :=
    (List.getD_eq_getElem body 0 inside).symm
  have params {i : Nat} : (body.drop 47).getD i 0 = body.getD (47 + i) 0 := by
    simp only [List.getD_eq_getElem?_getD, List.getElem?_drop]
  unfold radioOf radioAt
  simp only [at_, params, List.drop_drop]

theorem decodeInbound_selfInfo (body : List UInt8) :
    decodeInbound (respCodeSelfInfo :: body) =
      need respCodeSelfInfo body 57 >>= fun _ =>
        parseSelfInfo body >>= fun info => pure (.selfInfo info) := rfl

theorem reports_long {body : List UInt8} {info : SelfInfo} (h : reports body info) :
    57 ≤ body.length := by
  by_contra short
  have refused : need respCodeSelfInfo body 57 =
      throw (.bodyTooShort respCodeSelfInfo 57 body.length) := if_pos (by omega)
  unfold reports at h
  rw [decodeInbound_selfInfo, refused] at h
  cases h

theorem reports_iff {body : List UInt8} {info : SelfInfo} (long : 57 ≤ body.length) :
    reports body info ↔ parseSelfInfo body = pure info := by
  have enough : need respCodeSelfInfo body 57 = pure () := if_neg (by omega)
  obtain ⟨info', parsed, -⟩ := parseSelfInfo_radio long
  unfold reports
  rw [decodeInbound_selfInfo, enough, pure_bind, parsed, pure_bind]
  constructor
  · intro same
    cases same
    rfl
  · intro same
    cases same
    rfl

theorem reports_radio {body : List UInt8} {info : SelfInfo} (h : reports body info) :
    radioOf info = radioAt body := by
  have long := reports_long h
  obtain ⟨info', parsed, radio⟩ := parseSelfInfo_radio long
  have same := ((reports_iff long).mp h).symm.trans parsed
  cases same
  exact radio

/-! ## What the frames leave in the report -/

theorem storeFrame_params {body : List UInt8} (long : 57 ≤ body.length) (f b : UInt32) (sf cr : UInt8) :
    57 ≤ (storeFrame body (encodeRadioFrame (.setRadioParams f b sf cr))).length ∧
      radioAt (storeFrame body (encodeRadioFrame (.setRadioParams f b sf cr))) =
        ⟨(radioAt body).txPowerDbm, f / 1000, b, sf, cr⟩ := by
  have value (v : UInt32) : UInt32.ofNat (leValue (leBytes 4 v.toNat)) = v := by
    have small : v.toNat % 256 ^ 4 = v.toNat := Nat.mod_eq_of_lt v.toNat_lt
    rw [leValue_leBytes, small, UInt32.ofNat_toNat]
  have front : (body.take 47).length = 47 := List.length_take_of_le (by omega)
  have stored : storeFrame body (encodeRadioFrame (.setRadioParams f b sf cr)) =
      body.take 47 ++
        (leBytes 4 (f / 1000).toNat ++ (leBytes 4 b.toNat ++ (sf :: cr :: body.drop 57))) := by
    simp only [encodeRadioFrame, storeFrame, if_true, List.append_assoc, List.cons_append,
      List.nil_append]
  have params : (storeFrame body (encodeRadioFrame (.setRadioParams f b sf cr))).drop 47 =
      leBytes 4 (f / 1000).toNat ++ (leBytes 4 b.toNat ++ (sf :: cr :: body.drop 57)) := by
    rw [stored, List.drop_left' front]
  have power : (storeFrame body (encodeRadioFrame (.setRadioParams f b sf cr))).getD 1 0 =
      body.getD 1 0 := by
    rw [stored, List.getD_append _ _ _ _ (by omega)]
    simp only [List.getD_eq_getElem?_getD, List.getElem?_take]
    rfl
  refine ⟨?_, ?_⟩
  · rw [stored]
    simp only [List.length_append, List.length_cons, front, leBytes_length]
    omega
  · unfold radioAt
    rw [params, power]
    dsimp only
    rw [List.take_left' (leBytes_length 4 (f / 1000).toNat),
      List.drop_left' (leBytes_length 4 (f / 1000).toNat),
      List.take_left' (leBytes_length 4 b.toNat), value, value]
    rfl

theorem storeFrame_power {body : List UInt8} (long : 57 ≤ body.length) (p : Int8) :
    57 ≤ (storeFrame body (encodeRadioFrame (.setRadioTxPower p))).length ∧
      radioAt (storeFrame body (encodeRadioFrame (.setRadioTxPower p))) =
        { radioAt body with txPowerDbm := p.toUInt8 } := by
  cases body with
  | nil => cases long
  | cons a body =>
      cases body with
      | nil => exact absurd long (by simp)
      | cons old body => exact ⟨long, rfl⟩

/-! ## One sync, as a function of the report -/

def planned (r : ResolvedRadio) (now : Radio) : List RadioFrame :=
  (if saturatingMul now.frequencyKhz 1000 ≠ r.frequencyHz ∨ now.bandwidthHz ≠ r.bandwidthHz ∨
      now.spreadingFactor ≠ r.spreadingFactor ∨ now.codingRate ≠ r.codingRate then
    [.setRadioParams r.frequencyHz r.bandwidthHz r.spreadingFactor r.codingRate] else []) ++
  if Int32.ofNat now.txPowerDbm.toNat ≠ r.txPowerDbm then [.setRadioTxPower r.txPowerDbm.toInt8] else []

theorem sync_eq {cfg : RadioConfig} {r : ResolvedRadio}
    (accepted : resolveRadio (some cfg) .none = .ok r) (info : SelfInfo) :
    syncRadioParamsIfConfigured (some cfg) info = planned r (radioOf info) := by
  unfold syncRadioParamsIfConfigured
  simp only [accepted]
  rfl

section Planned
variable {body : List UInt8} {r : ResolvedRadio} {w : Wanted} {khz : UInt32} {power : UInt8}

/-- A frequency that the device may hold after a sync. -/
def Tuned (r : ResolvedRadio) (khz : UInt32) : Prop :=
  khz = r.frequencyHz / 1000 ∨ saturatingMul khz 1000 = r.frequencyHz

/-- A power that the device may hold after a sync. -/
def Powered (r : ResolvedRadio) (power : UInt8) : Prop :=
  power = r.txPowerDbm.toInt8.toUInt8 ∨ Int32.ofNat power.toNat = r.txPowerDbm

theorem params_stored (long : 57 ≤ body.length) {frames : List RadioFrame}
    (planned : frames = if saturatingMul (radioAt body).frequencyKhz 1000 ≠ r.frequencyHz ∨
        (radioAt body).bandwidthHz ≠ r.bandwidthHz ∨
        (radioAt body).spreadingFactor ≠ r.spreadingFactor ∨ (radioAt body).codingRate ≠ r.codingRate
      then [.setRadioParams r.frequencyHz r.bandwidthHz r.spreadingFactor r.codingRate] else []) :
    57 ≤ (storeFrames body frames).length ∧ ∃ khz, Tuned r khz ∧ radioAt (storeFrames body frames) =
      ⟨(radioAt body).txPowerDbm, khz, r.bandwidthHz, r.spreadingFactor, r.codingRate⟩ := by
  subst planned
  split
  · obtain ⟨long', stored⟩ := storeFrame_params long r.frequencyHz r.bandwidthHz r.spreadingFactor
      r.codingRate
    exact ⟨long', _, .inl rfl, stored⟩
  · next same =>
    simp only [ne_eq, not_or, not_not] at same
    obtain ⟨tuned, bandwidth, spreading, coding⟩ := same
    exact ⟨long, _, .inr tuned, Radio.ext rfl rfl bandwidth spreading coding⟩

theorem power_stored (long : 57 ≤ body.length) {frames : List RadioFrame}
    (planned : frames = if Int32.ofNat (radioAt body).txPowerDbm.toNat ≠ r.txPowerDbm then
      [.setRadioTxPower r.txPowerDbm.toInt8] else []) :
    57 ≤ (storeFrames body frames).length ∧ ∃ power, Powered r power ∧
      radioAt (storeFrames body frames) = { radioAt body with txPowerDbm := power } := by
  subst planned
  split
  · obtain ⟨long', stored⟩ := storeFrame_power long r.txPowerDbm.toInt8
    exact ⟨long', _, .inl rfl, stored⟩
  · next same => exact ⟨long, _, .inr (not_not.mp same), rfl⟩

theorem planned_stored (long : 57 ≤ body.length) (r : ResolvedRadio) :
    57 ≤ (storeFrames body (planned r (radioAt body))).length ∧ ∃ khz power,
      Tuned r khz ∧ Powered r power ∧ radioAt (storeFrames body (planned r (radioAt body))) =
        ⟨power, khz, r.bandwidthHz, r.spreadingFactor, r.codingRate⟩ := by
  obtain ⟨long', khz, tuned, params⟩ := params_stored (r := r) long rfl
  obtain ⟨long'', power, powered, all⟩ := power_stored (r := r) long' rfl
  rw [params] at all
  have both (first second : List RadioFrame) :
      storeFrames body (first ++ second) = storeFrames (storeFrames body first) second :=
    List.foldl_append
  unfold planned
  rw [both]
  rw [params] at long''
  exact ⟨long'', khz, power, tuned, powered, all⟩

/-! ## When another sync has nothing to do -/

theorem toNat_saturatingMul (a : UInt32) :
    (saturatingMul a 1000).toNat = min (a.toNat * 1000) (2 ^ 32 - 1) := by
  rw [saturatingMul, UInt32.toNat_ofNat', Nat.mod_eq_of_lt]
  · rfl
  · exact (min_le_right _ _).trans_lt (by decide)

theorem tuned_iff {hz : UInt64} (freq : r.frequencyHz = hz.toUInt32) (tuned : Tuned r khz) :
    saturatingMul khz 1000 = r.frequencyHz ∧ khz.toNat * 1000 = hz.toNat ↔
      hz.toNat < 2 ^ 32 ∧ 1000 ∣ hz.toNat := by
  rw [← UInt32.toNat_inj, toNat_saturatingMul]
  have cut : r.frequencyHz.toNat = hz.toNat % 2 ^ 32 := by
    rw [freq, UInt64.toNat_toUInt32]
  have known : khz.toNat = r.frequencyHz.toNat / 1000 ∨
      min (khz.toNat * 1000) (2 ^ 32 - 1) = r.frequencyHz.toNat := by
    rcases tuned with rfl | same
    · left
      rw [UInt32.toNat_div]
      rfl
    · right
      rw [← same, toNat_saturatingMul]
  constructor
  · rintro ⟨same, exact_⟩
    -- beyond 32 bits only the highest value would pass, and that is odd
    have even : hz.toNat % 2 = 0 := by omega
    have parity : hz.toNat % 2 ^ 32 % 2 = hz.toNat % 2 := Nat.mod_mod_of_dvd _ ⟨2 ^ 31, rfl⟩
    refine ⟨?_, by omega⟩
    by_contra beyond
    rw [cut, min_eq_right (by omega)] at same
    omega
  · rintro ⟨fits, k, thousands⟩
    rw [Nat.mod_eq_of_lt fits] at cut
    rw [cut, thousands] at known ⊢
    rcases known with whole | same
    · rw [whole]
      omega
    · omega

theorem powered_iff (powered : Powered r power) :
    Int32.ofNat power.toNat = r.txPowerDbm ∧ (power.toNat : Int) = r.txPowerDbm.toInt ↔
      0 ≤ r.txPowerDbm.toInt ∧ r.txPowerDbm.toInt ≤ 255 := by
  have small := power.toNat_lt
  have byte : (Int32.ofNat power.toNat).toInt = power.toNat := Int32.toInt_ofNat_of_lt (by omega)
  have cut : r.txPowerDbm.toInt8.toUInt8.toNat = (r.txPowerDbm.toInt % 256).toNat := by
    have signed : (r.txPowerDbm.toInt8.toUInt8.toNat : Int).bmod 256 = r.txPowerDbm.toInt.bmod 256 :=
      (BitVec.toInt_eq_toNat_bmod _).symm.trans (Int32.toInt_toInt8 _)
    have left : (r.txPowerDbm.toInt8.toUInt8.toNat : Int).bmod 256 % 256 =
        r.txPowerDbm.toInt8.toUInt8.toNat % 256 := Int.bmod_emod
    have right : r.txPowerDbm.toInt.bmod 256 % 256 = r.txPowerDbm.toInt % 256 := Int.bmod_emod
    have byte := r.txPowerDbm.toInt8.toUInt8.toNat_lt
    rw [signed, right] at left
    omega
  rw [← Int32.toInt_inj, byte, and_self]
  constructor
  · intro same
    omega
  · rintro ⟨low, high⟩
    rcases powered with rfl | same
    · rw [cut]
      omega
    · rw [← same, byte]

end Planned

/-! ## The claim's two halves -/

/-- The device holds the configured values. -/
structure Holds (w : Wanted) (info : SelfInfo) : Prop where
  frequency : info.frequencyKhz.toNat * 1000 = w.frequencyHz.toNat
  bandwidth : info.bandwidthHz = w.bandwidthHz
  spreading : info.spreadingFactor = w.spreadingFactor
  coding : info.codingRate = w.codingRate
  power : (info.txPowerDbm.toNat : Int) = w.txPowerDbm.toInt

/-- After one sync the device reports the configured values, and another one sends nothing. -/
def Converges (cfg : RadioConfig) (body : List UInt8) (info : SelfInfo) : Prop :=
  ∃ after, reports (storeFrames body (syncRadioParamsIfConfigured (some cfg) info)) after ∧
    syncRadioParamsIfConfigured (some cfg) after = [] ∧ ∀ w, wanted cfg = some w → Holds w after

/-- The values go through the units and widths of the device unchanged. -/
def Representable (w : Wanted) : Prop :=
  (w.frequencyHz.toNat < 2 ^ 32 ∧ 1000 ∣ w.frequencyHz.toNat) ∧
    0 ≤ w.txPowerDbm.toInt ∧ w.txPowerDbm.toInt ≤ 255

theorem planned_nil {r : ResolvedRadio} {power : UInt8} {khz : UInt32} :
    planned r ⟨power, khz, r.bandwidthHz, r.spreadingFactor, r.codingRate⟩ = [] ↔
      saturatingMul khz 1000 = r.frequencyHz ∧ Int32.ofNat power.toNat = r.txPowerDbm := by
  unfold planned
  rw [List.append_eq_nil_iff]
  simp

theorem radio_sync_iff {cfg : RadioConfig} {r : ResolvedRadio} {body : List UInt8} {info : SelfInfo}
    (accepted : resolveRadio (some cfg) .none = .ok r) (reported : reports body info) :
    Converges cfg body info ↔ ∀ w, wanted cfg = some w → Representable w := by
  obtain ⟨w, asked, rfl⟩ := resolveRadio_ok accepted
  have long := reports_long reported
  have now := reports_radio reported
  obtain ⟨long', khz, power, tuned, powered, stored⟩ := planned_stored long w.resolved
  obtain ⟨after, parsed, radio⟩ := parseSelfInfo_radio long'
  have told : reports (storeFrames body (planned w.resolved (radioAt body))) after :=
    (reports_iff long').mpr parsed
  rw [stored] at radio
  have tune := tuned_iff (r := w.resolved) rfl tuned
  have strength := powered_iff powered
  have heldKhz : after.frequencyKhz = khz := congrArg Radio.frequencyKhz radio
  have heldPower : after.txPowerDbm = power := congrArg Radio.txPowerDbm radio
  unfold Converges
  rw [sync_eq accepted, now]
  constructor
  · rintro ⟨after', told', quiet, holds⟩ w' asked'
    cases asked.symm.trans asked'
    have same := told.symm.trans told'
    cases same
    rw [sync_eq accepted, radio, planned_nil] at quiet
    have held := holds w asked
    refine ⟨tune.mp ⟨quiet.1, ?_⟩, strength.mp ⟨quiet.2, ?_⟩⟩
    · rw [← held.frequency, heldKhz]
    · exact heldPower ▸ held.power
  · intro representable
    obtain ⟨frequency, strong⟩ := representable w asked
    obtain ⟨quiet, exactly⟩ := tune.mpr frequency
    obtain ⟨quiet', exactly'⟩ := strength.mpr strong
    refine ⟨after, told, ?_, fun w' asked' => ?_⟩
    · rw [sync_eq accepted, radio, planned_nil]
      exact ⟨quiet, quiet'⟩
    · cases asked.symm.trans asked'
      exact ⟨heldKhz ▸ exactly, congrArg Radio.bandwidthHz radio, congrArg Radio.spreadingFactor radio,
        congrArg Radio.codingRate radio, heldPower ▸ exactly'⟩

/-- Every preset on its own is representable. -/
theorem presets_representable : ∀ p ∈ regionPresets, Representable
    ⟨p.frequencyHz, p.bandwidthHz, p.spreadingFactor, p.codingRate, p.txPowerDbm⟩ := by
  unfold Representable
  decide

/-- The preset of the region, with a power below 0 dBm for a site with a strong antenna. -/
def quietSite : RadioConfig := ⟨some "USA/Canada", none, none, none, none, some (-9)⟩

def plainSite : RadioConfig := ⟨some "usa/canada", none, none, none, none, none⟩

/-- The report of a device with nothing set. -/
def blankReport : List UInt8 := List.replicate 57 0

theorem blankReport_reports : ∃ info, reports blankReport info := by
  have long : 57 ≤ blankReport.length := by decide
  obtain ⟨info, parsed, -⟩ := parseSelfInfo_radio long
  exact ⟨info, (reports_iff long).mpr parsed⟩

theorem radio_sync_plain : ∃ info, reports blankReport info ∧ Converges plainSite blankReport info := by
  obtain ⟨info, reported⟩ := blankReport_reports
  have accepted : resolveRadio (some plainSite) .none = .ok ⟨910_525_000, 62_500, 7, 5, 20⟩ := by
    decide +kernel
  refine ⟨info, reported, (radio_sync_iff accepted reported).mpr fun w asked => ?_⟩
  have same : wanted plainSite = some ⟨910_525_000, 62_500, 7, 5, 20⟩ := by rfl
  cases same.symm.trans asked
  exact ⟨⟨by decide, by decide⟩, by decide, by decide⟩

theorem radio_sync_fails : (∃ r, resolveRadio (some quietSite) .none = .ok r) ∧
    ∃ info, reports blankReport info ∧ ¬ Converges quietSite blankReport info := by
  obtain ⟨info, reported⟩ := blankReport_reports
  have accepted : resolveRadio (some quietSite) .none = .ok ⟨910_525_000, 62_500, 7, 5, -9⟩ := by
    decide +kernel
  refine ⟨⟨_, accepted⟩, info, reported, ?_⟩
  rintro ⟨after, told, quiet, -⟩
  rw [sync_eq accepted, reports_radio reported] at told
  rw [sync_eq accepted, reports_radio told] at quiet
  revert quiet
  decide +kernel

end SupplyDrop.Proof.RadioSync
