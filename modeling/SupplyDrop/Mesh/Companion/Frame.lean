import Mathlib
import SupplyDrop.Library.Utf8
import SupplyDrop.Mesh.Companion.Types

namespace SupplyDrop.Mesh.Companion
open Library Bytes Utf8

/-! ## Reading fields -/

/-- `none` is an access out of range, which ends the task with a panic. -/
abbrev Decoding := ExceptT FrameDecodeError Option

def index (b : List UInt8) (i : Nat) : Decoding UInt8 := ExceptT.lift b[i]?

def slice (b : List UInt8) (start stop : Nat) : Decoding (List UInt8) :=
  ExceptT.lift (range? b start stop)

def sliceFrom (b : List UInt8) (start : Nat) : Decoding (List UInt8) := slice b start b.length

def copyFromSlice (n : Nat) (b : List UInt8) : Decoding (Fixed n) := ExceptT.lift (fixed? n b)

def rU16 (b : List UInt8) (off : Nat) : Decoding UInt16 := do
  let b₀ ← index b off
  let b₁ ← index b (off + 1)
  pure (UInt16.ofNat (leValue [b₀, b₁]))

def rU32 (b : List UInt8) (off : Nat) : Decoding UInt32 := do
  let b₀ ← index b off
  let b₁ ← index b (off + 1)
  let b₂ ← index b (off + 2)
  let b₃ ← index b (off + 3)
  pure (UInt32.ofNat (leValue [b₀, b₁, b₂, b₃]))

def rI32 (b : List UInt8) (off : Nat) : Decoding Int32 := do
  let word ← rU32 b off
  pure word.toInt32

def copy32 (b : List UInt8) : Decoding (Fixed 32) := do
  let front ← slice b 0 32
  copyFromSlice 32 front

def readCstr (b : List UInt8) : Decoding String := do
  let text ← slice b 0 (b.findIdx (· = 0))
  pure (fromUtf8Lossy text)

/-! ## Parsers -/

def parseContact (body : List UInt8) : Decoding Contact := do
  let pubkey ← copyFromSlice 32 (← slice body 0 32)
  let advType ← index body 32
  let flags ← index body 33
  let oplByte ← index body 34
  let outPathLen : Int8 := if oplByte = 0xFF then -1 else oplByte.toInt8
  let outPath ← copyFromSlice 64 (← slice body 35 99)
  let name ← readCstr (← slice body 99 131)
  let lastAdvertTimestamp ← rU32 body 131
  let gpsLat ← rI32 body 135
  let gpsLon ← rI32 body 139
  let lastmod ← rU32 body 143
  pure { pubkey, advType, flags, outPathLen, outPath, name, lastAdvertTimestamp, gpsLat, gpsLon,
         lastmod }

def parseSelfInfo (body : List UInt8) : Decoding SelfInfo := do
  let advType ← index body 0
  let txPowerDbm ← index body 1
  let pubkey ← copyFromSlice 32 (← slice body 3 35)
  let latitude ← rI32 body 35
  let longitude ← rI32 body 39
  let multiAcks ← index body 43
  let advertLocPolicy ← index body 44
  let telemetryModes ← index body 45
  let manualAddContacts ← index body 46
  let frequencyKhz ← rU32 body 47
  let bandwidthHz ← rU32 body 51
  let spreadingFactor ← index body 55
  let codingRate ← index body 56
  let nodeName ← readCstr (← sliceFrom body 57)
  pure { advType, txPowerDbm, pubkey, latitude, longitude, multiAcks, advertLocPolicy,
         telemetryModes, manualAddContacts, frequencyKhz, bandwidthHz, spreadingFactor, codingRate,
         nodeName }

def parseDeviceInfo (body : List UInt8) : Decoding DeviceInfo := do
  let firmwareVer ← index body 0
  let maxContactsDiv2 ← index body 1
  let maxChannels ← index body 2
  let blePin ← rU32 body 3
  let buildDate ← readCstr (← slice body 7 19)
  let manufacturer ← readCstr (← slice body 19 59)
  let version ← readCstr (← slice body 59 79)
  let clientRepeat ← index body 79
  let pathHashMode ← index body 80
  pure { firmwareVer, maxContacts := maxContactsDiv2.toUInt16 * 2, maxChannels, blePin, buildDate,
         manufacturer, version, clientRepeat, pathHashMode }

def parseSentResult (body : List UInt8) : Decoding SentResult := do
  let kind ← index body 0
  let expectedAck ← rU32 body 1
  let timeoutMs ← rU32 body 5
  pure { isFlood := kind = msgSendSentFlood, expectedAck, timeoutMs }

def parseBattAndStorage (body : List UInt8) : Decoding BattAndStorage := do
  let millivolts ← rU16 body 0
  let usedKb ← rU32 body 2
  let totalKb ← rU32 body 6
  pure { millivolts, usedKb, totalKb }

def parseExportedContact (body : List UInt8) : Decoding ExportedContact := do
  let pubkey ← copyFromSlice 32 (← slice body 0 32)
  let advType ← index body 32
  let name ← readCstr (← slice body 33 65)
  let gpsLat ← rI32 body 65
  let gpsLon ← rI32 body 69
  pure { pubkey, advType, name, gpsLat, gpsLon }

def parseContactMsg (body : List UInt8) (snr : Option ℚ) : Decoding ContactMsg := do
  let senderKeyPrefix ← copyFromSlice 6 (← slice body 0 6)
  let pathLen ← index body 6
  let txtType ← index body 7
  let timestamp ← rU32 body 8
  let text ← readCstr (← sliceFrom body 12)
  pure { senderKeyPrefix, pathLen, txtType, timestamp, text, snr }

def parseChannelMsg (body : List UInt8) (snr : Option ℚ) : Decoding ChannelMsg := do
  let channelIdx ← index body 0
  let pathLen ← index body 1
  let txtType ← index body 2
  let timestamp ← rU32 body 3
  let text ← readCstr (← sliceFrom body 7)
  pure { channelIdx, pathLen, txtType, timestamp, text, snr }

def parseChannelInfo (body : List UInt8) : Decoding ChannelInfo := do
  let channelIdx ← index body 0
  let name ← readCstr (← slice body 1 33)
  let secret ← copyFromSlice 16 (← slice body 33 49)
  pure { channelIdx, name, secret }

def snrOf (b : UInt8) : ℚ := b.toInt8.toInt / 4

def parseContactMsgV3 (body : List UInt8) : Decoding ContactMsg := do
  let snrByte ← index body 0
  parseContactMsg (← sliceFrom body 3) (some (snrOf snrByte))

def parseChannelMsgV3 (body : List UInt8) : Decoding ChannelMsg := do
  let snrByte ← index body 0
  parseChannelMsg (← sliceFrom body 3) (some (snrOf snrByte))

def parseFloodScope (body : List UInt8) : Decoding (Option FloodScope) := do
  let name ← readCstr (← slice body 0 31)
  if name.isEmpty then pure none
  else do
    let key ← copyFromSlice 16 (← slice body 31 47)
    pure (some ⟨name, key⟩)

def parseLoginSuccess (body : List UInt8) : Decoding LoginSuccess := do
  let pubkeyPrefix ← copyFromSlice 6 (← slice body 1 7)
  let admin ← index body 0
  let tag ← rU32 body 7
  let aclPermissions ← index body 11
  let firmwareVerLevel ← index body 12
  pure { isAdmin := admin ≠ 0, pubkeyPrefix, tag, aclPermissions, firmwareVerLevel }

/-- The six bytes behind the reserved one. -/
def pubkeyPrefixOf (body : List UInt8) : Decoding (Fixed 6) := do
  copyFromSlice 6 (← slice body 1 7)

/-! ## `decode_inbound` -/

def need (typeByte : UInt8) (body : List UInt8) (n : Nat) : Decoding Unit :=
  if body.length < n then throw (.bodyTooShort typeByte n body.length) else pure ()

def decodeBody (typeByte : UInt8) (body : List UInt8) : Decoding InboundFrame :=
  let need := need typeByte body
  match typeByte with
  | respCodeOk => pure .ok
  | respCodeErr => do
      need 1
      pure (.err (← index body 0))
  | respCodeContactsStart => do
      need 4
      pure (.contactsStart (← rU32 body 0))
  | respCodeContact => do
      need 147
      pure (.contact (← parseContact body))
  | respCodeEndOfContacts => do
      need 4
      pure (.endOfContacts (← rU32 body 0))
  | respCodeSelfInfo => do
      need 57
      pure (.selfInfo (← parseSelfInfo body))
  | respCodeSent => do
      need 9
      pure (.sent (← parseSentResult body))
  | respCodeContactMsgRecv => do
      need 12
      pure (.contactMsgRecv (← parseContactMsg body none))
  | respCodeChannelMsgRecv => do
      need 7
      pure (.channelMsgRecv (← parseChannelMsg body none))
  | respCodeCurrTime => do
      need 4
      pure (.currTime (← rU32 body 0))
  | respCodeNoMoreMessages => pure .noMoreMessages
  | respCodeExportContact => do
      need 73
      pure (.exportContact (← parseExportedContact body))
  | respCodeBattAndStorage => do
      need 10
      pure (.battAndStorage (← parseBattAndStorage body))
  | respCodeDeviceInfo => do
      need 81
      pure (.deviceInfo (← parseDeviceInfo body))
  -- the device exports an expanded key of 64 bytes
  | respCodePrivateKey => do
      need 32
      pure (.privateKey body)
  | respCodeDisabled => pure .disabled
  | respCodeContactMsgRecvV3 => do
      need 15
      pure (.contactMsgRecvV3 (← parseContactMsgV3 body))
  | respCodeChannelMsgRecvV3 => do
      need 10
      pure (.channelMsgRecvV3 (← parseChannelMsgV3 body))
  | respCodeChannelInfo => do
      need 49
      pure (.channelInfo (← parseChannelInfo body))
  | respCodeAutoaddConfig => do
      need 1
      pure (.autoaddConfig (← index body 0) body[1]?)
  | respCodeDefaultFloodScope =>
      if body.isEmpty then pure (.defaultFloodScope none)
      else do
        need (31 + 16)
        pure (.defaultFloodScope (← parseFloodScope body))
  | respCodeStats => do
      need 1
      pure (.stats (← index body 0) (← sliceFrom body 1))
  | respCodeAdvertPath => pure (.advertPath body)
  | respCodeTuningParams => pure (.tuningParams body)
  | respCodeCustomVars => pure (.customVars (fromUtf8Lossy body))
  | pushCodeAdvert => do
      need 32
      pure (.advert (← copy32 body))
  | pushCodeNewAdvert => do
      need 147
      pure (.newAdvert (← parseContact body))
  | pushCodePathUpdated => do
      need 32
      pure (.pathUpdated (← copy32 body))
  | pushCodeSendConfirmed => do
      need 8
      pure (.sendConfirmed (← rU32 body 0))
  | pushCodeMsgWaiting => pure .msgWaiting
  | pushCodeRawData => do
      need 3
      let snrByte ← index body 0
      let rssiByte ← index body 1
      pure (.rawData snrByte.toInt8 rssiByte.toInt8 (← sliceFrom body 3))
  | pushCodeLoginSuccess => do
      need 13
      pure (.loginSuccess (← parseLoginSuccess body))
  | pushCodeLoginFail => do
      need 7
      pure (.loginFail (← pubkeyPrefixOf body))
  | pushCodeStatusResponse => do
      need 7
      pure (.statusResponse (← pubkeyPrefixOf body) (← sliceFrom body 7))
  | pushCodeLogRxData => do
      need 2
      let snrByte ← index body 0
      let rssiByte ← index body 1
      pure (.logRxData snrByte.toInt8 rssiByte.toInt8 (← sliceFrom body 2))
  | pushCodeTelemetryResponse => do
      need 7
      pure (.telemetryResponse (← pubkeyPrefixOf body) (← sliceFrom body 7))
  | pushCodeBinaryResponse => do
      need 5
      let tag ← copyFromSlice 4 (← slice body 1 5)
      pure (.binaryResponse tag (← sliceFrom body 5))
  | pushCodePathDiscoveryResponse => pure (.pathDiscoveryResponse body)
  | pushCodeControlData => pure (.controlData body)
  | pushCodeContactDeleted => do
      need 32
      pure (.contactDeleted (← copy32 body))
  | pushCodeContactsFull => pure .contactsFull
  | pushCodeTraceData => pure (.traceData body)
  | _ => pure (.unknown typeByte (typeByte :: body))

def decodeInbound : List UInt8 → Decoding InboundFrame
  | [] => throw (.bodyTooShort 0 1 0)
  | typeByte :: body => decodeBody typeByte body

/-! ## `encode_contact_body` -/

/-- The bytes cut or padded with zeros to `n`. -/
def padded (n : Nat) (bytes : List UInt8) : List UInt8 :=
  bytes.take (min bytes.length n) ++ List.replicate (n - min bytes.length n) 0

def encodeContactBody (c : Contact) : List UInt8 :=
  c.pubkey.1 ++ [c.advType, c.flags, c.outPathLen.toUInt8] ++ c.outPath.1 ++
    padded 32 (asBytes c.name) ++ leBytes 4 c.lastAdvertTimestamp.toNat ++
    leBytes 4 c.gpsLat.toUInt32.toNat ++ leBytes 4 c.gpsLon.toUInt32.toNat ++
    leBytes 4 c.lastmod.toNat

end SupplyDrop.Mesh.Companion
