import Mathlib
import SupplyDrop.Library.Bytes

namespace SupplyDrop.Mesh.Companion
open Library.Bytes

/-! ## Errors -/

inductive FrameDecodeError where
  | bodyTooShort (typeByte : UInt8) (needed got : Nat)
  | payloadTooLarge (len : Nat)
  | wrongPrefix (expected got : UInt8)
  | invalidUtf8
deriving DecidableEq

/-! ## What the radio tells -/

structure SelfInfo where
  advType : UInt8
  txPowerDbm : UInt8
  pubkey : Fixed 32
  -- degrees times a million, as in the other positions
  latitude : Int32
  longitude : Int32
  multiAcks : UInt8
  advertLocPolicy : UInt8
  telemetryModes : UInt8
  manualAddContacts : UInt8
  frequencyKhz : UInt32
  bandwidthHz : UInt32
  spreadingFactor : UInt8
  codingRate : UInt8
  nodeName : String
deriving DecidableEq

structure DeviceInfo where
  firmwareVer : UInt8
  maxContacts : UInt16
  maxChannels : UInt8
  blePin : UInt32
  buildDate : String
  manufacturer : String
  version : String
  clientRepeat : UInt8
  pathHashMode : UInt8
deriving DecidableEq

structure Contact where
  pubkey : Fixed 32
  advType : UInt8
  flags : UInt8
  -- −1 where no path is known
  outPathLen : Int8
  outPath : Fixed 64
  name : String
  lastAdvertTimestamp : UInt32
  gpsLat : Int32
  gpsLon : Int32
  lastmod : UInt32
deriving DecidableEq

structure ContactMsg where
  senderKeyPrefix : Fixed 6
  pathLen : UInt8
  txtType : UInt8
  timestamp : UInt32
  text : String
  -- quarters of a decibel, which a float holds exactly
  snr : Option ℚ
deriving DecidableEq

structure ChannelMsg where
  channelIdx : UInt8
  pathLen : UInt8
  txtType : UInt8
  timestamp : UInt32
  text : String
  snr : Option ℚ
deriving DecidableEq

structure SentResult where
  isFlood : Bool
  expectedAck : UInt32
  timeoutMs : UInt32
deriving DecidableEq

structure BattAndStorage where
  millivolts : UInt16
  usedKb : UInt32
  totalKb : UInt32
deriving DecidableEq

structure ExportedContact where
  pubkey : Fixed 32
  advType : UInt8
  name : String
  gpsLat : Int32
  gpsLon : Int32
deriving DecidableEq

structure ChannelInfo where
  channelIdx : UInt8
  name : String
  secret : Fixed 16
deriving DecidableEq

structure LoginSuccess where
  isAdmin : Bool
  pubkeyPrefix : Fixed 6
  tag : UInt32
  aclPermissions : UInt8
  firmwareVerLevel : UInt8
deriving DecidableEq

structure FloodScope where
  name : String
  key : Fixed 16
deriving DecidableEq

inductive InboundFrame where
  | ok
  | err (errorCode : UInt8)
  | contactsStart (count : UInt32)
  | contact (contact : Contact)
  | endOfContacts (mostRecentLastmod : UInt32)
  | selfInfo (info : SelfInfo)
  | sent (result : SentResult)
  | contactMsgRecv (msg : ContactMsg)
  | channelMsgRecv (msg : ChannelMsg)
  | currTime (unixTime : UInt32)
  | noMoreMessages
  | exportContact (contact : ExportedContact)
  | battAndStorage (status : BattAndStorage)
  | deviceInfo (info : DeviceInfo)
  | privateKey (key : List UInt8)
  | disabled
  | contactMsgRecvV3 (msg : ContactMsg)
  | channelMsgRecvV3 (msg : ChannelMsg)
  | channelInfo (info : ChannelInfo)
  | autoaddConfig (config : UInt8) (maxHops : Option UInt8)
  | defaultFloodScope (scope : Option FloodScope)
  | stats (statsType : UInt8) (raw : List UInt8)
  | advertPath (raw : List UInt8)
  | tuningParams (raw : List UInt8)
  | customVars (csv : String)
  | advert (pubkey : Fixed 32)
  | newAdvert (contact : Contact)
  | pathUpdated (pubkey : Fixed 32)
  | sendConfirmed (crc : UInt32)
  | msgWaiting
  | rawData (snrByte rssiByte : Int8) (data : List UInt8)
  | loginSuccess (login : LoginSuccess)
  | loginFail (pubkeyPrefix : Fixed 6)
  | statusResponse (pubkeyPrefix : Fixed 6) (raw : List UInt8)
  | logRxData (snrByte rssiByte : Int8) (raw : List UInt8)
  | telemetryResponse (pubkeyPrefix : Fixed 6) (raw : List UInt8)
  | binaryResponse (tag : Fixed 4) (raw : List UInt8)
  | pathDiscoveryResponse (raw : List UInt8)
  | controlData (raw : List UInt8)
  | contactDeleted (pubkey : Fixed 32)
  | contactsFull
  | traceData (raw : List UInt8)
  | unknown (typeByte : UInt8) (payload : List UInt8)
deriving DecidableEq

/-! ## Codes -/

@[match_pattern] abbrev respCodeOk : UInt8 := 0
@[match_pattern] abbrev respCodeErr : UInt8 := 1
@[match_pattern] abbrev respCodeContactsStart : UInt8 := 2
@[match_pattern] abbrev respCodeContact : UInt8 := 3
@[match_pattern] abbrev respCodeEndOfContacts : UInt8 := 4
@[match_pattern] abbrev respCodeSelfInfo : UInt8 := 5
@[match_pattern] abbrev respCodeSent : UInt8 := 6
@[match_pattern] abbrev respCodeContactMsgRecv : UInt8 := 7
@[match_pattern] abbrev respCodeChannelMsgRecv : UInt8 := 8
@[match_pattern] abbrev respCodeCurrTime : UInt8 := 9
@[match_pattern] abbrev respCodeNoMoreMessages : UInt8 := 10
@[match_pattern] abbrev respCodeExportContact : UInt8 := 11
@[match_pattern] abbrev respCodeBattAndStorage : UInt8 := 12
@[match_pattern] abbrev respCodeDeviceInfo : UInt8 := 13
@[match_pattern] abbrev respCodePrivateKey : UInt8 := 14
@[match_pattern] abbrev respCodeDisabled : UInt8 := 15
@[match_pattern] abbrev respCodeContactMsgRecvV3 : UInt8 := 16
@[match_pattern] abbrev respCodeChannelMsgRecvV3 : UInt8 := 17
@[match_pattern] abbrev respCodeChannelInfo : UInt8 := 18
@[match_pattern] abbrev respCodeCustomVars : UInt8 := 21
@[match_pattern] abbrev respCodeAdvertPath : UInt8 := 22
@[match_pattern] abbrev respCodeTuningParams : UInt8 := 23
@[match_pattern] abbrev respCodeStats : UInt8 := 24
@[match_pattern] abbrev respCodeAutoaddConfig : UInt8 := 25
@[match_pattern] abbrev respCodeDefaultFloodScope : UInt8 := 28

@[match_pattern] abbrev pushCodeAdvert : UInt8 := 0x80
@[match_pattern] abbrev pushCodePathUpdated : UInt8 := 0x81
@[match_pattern] abbrev pushCodeSendConfirmed : UInt8 := 0x82
@[match_pattern] abbrev pushCodeMsgWaiting : UInt8 := 0x83
@[match_pattern] abbrev pushCodeRawData : UInt8 := 0x84
@[match_pattern] abbrev pushCodeLoginSuccess : UInt8 := 0x85
@[match_pattern] abbrev pushCodeLoginFail : UInt8 := 0x86
@[match_pattern] abbrev pushCodeStatusResponse : UInt8 := 0x87
@[match_pattern] abbrev pushCodeLogRxData : UInt8 := 0x88
@[match_pattern] abbrev pushCodeTraceData : UInt8 := 0x89
@[match_pattern] abbrev pushCodeNewAdvert : UInt8 := 0x8A
@[match_pattern] abbrev pushCodeTelemetryResponse : UInt8 := 0x8B
@[match_pattern] abbrev pushCodeBinaryResponse : UInt8 := 0x8C
@[match_pattern] abbrev pushCodePathDiscoveryResponse : UInt8 := 0x8D
@[match_pattern] abbrev pushCodeControlData : UInt8 := 0x8E
@[match_pattern] abbrev pushCodeContactDeleted : UInt8 := 0x8F
@[match_pattern] abbrev pushCodeContactsFull : UInt8 := 0x90

def msgSendSentFlood : UInt8 := 1
def frameOutboundPrefix : UInt8 := 0x3E
def maxPayloadSize : Nat := 256

end SupplyDrop.Mesh.Companion
