/-
  Wire/Frame.lean --- frames as octets (src/frame/).

  A frame is written as a head of nine octets and a payload.  The head carries the
  length that its writer passes to `Head::encode`, in three octets; nothing ties it to
  the payload that follows, so a written frame keeps the two apart.
-/
import NtexH2.Frame
import NtexH2.Lib.BigEndian

set_option autoImplicit false

namespace NtexH2

open Lib

/-! ## Heads -/

/-- `Kind::new`. -/
def Kind.new (byte : UInt8) : Kind :=
  match byte.toNat with
  | 0 => .data
  | 1 => .headers
  | 2 => .priority
  | 3 => .reset
  | 4 => .settings
  | 6 => .ping
  | 7 => .goAway
  | 8 => .windowUpdate
  | 9 => .continuation
  | _ => .unknown

/-- `Kind as u8`. -/
def Kind.byte : Kind → UInt8
  | .data => 0
  | .headers => 1
  | .priority => 2
  | .reset => 3
  | .settings => 4
  | .ping => 6
  | .goAway => 7
  | .windowUpdate => 8
  | .continuation => 9
  | .unknown => 10

/-- `StreamId::parse`: the id and its reserved bit. -/
def StreamId.parse (buf : Bytes) : StreamId × Bool :=
  let unpacked := BigEndian.read (buf.take 4)
  (unpacked % 2 ^ 31, decide (2 ^ 31 ≤ unpacked))

namespace Wire

/-- `HEADER_LEN`. -/
def headerLen : Nat := 9

/-- `Head`. -/
structure Head where
  kind : Kind
  flag : UInt8
  streamId : StreamId
  deriving DecidableEq, Repr

/-- `Head::parse`; the frame decoder hands over nine octets at least. -/
def Head.parse (header : Bytes) : Head where
  kind := .new (header.getD 3 0)
  flag := header.getD 4 0
  streamId := (StreamId.parse (header.drop 5)).1

/-- `Head::encode`. -/
def Head.encode (h : Head) (payloadLen : Nat) : Bytes :=
  BigEndian.write 3 payloadLen ++ [h.kind.byte, h.flag] ++ BigEndian.write 4 h.streamId

/-- A frame as it is written: the head, the length it is encoded with, and the payload. -/
structure Written where
  head : Head
  payloadLen : Nat
  payload : Bytes
  deriving DecidableEq, Repr

/-- The octets of a written frame. -/
def Written.octets (w : Written) : Bytes := w.head.encode w.payloadLen ++ w.payload

/-! ## DATA -/

/-- `Data`. -/
structure Data where
  streamId : StreamId
  payload : Bytes
  flags : UInt8
  flowLen : Nat
  deriving DecidableEq, Repr

namespace Data

/-- `END_STREAM`. -/
def endStream : UInt8 := 0x1

/-- `PADDED`. -/
def padded : UInt8 := 0x8

/-- `ALL`. -/
def all : UInt8 := endStream ||| padded

/-- `Data::new`. -/
def new (streamId : StreamId) (payload : Bytes) : Except Panic Data := do
  assert (!StreamId.isZero streamId)
  return ⟨streamId, payload, 0, payload.length % 2 ^ 32⟩

/-- `Data::is_end_stream`. -/
def isEndStream (d : Data) : Bool := d.flags &&& endStream == endStream

/-- `Data::set_end_stream`. -/
def setEndStream (d : Data) : Data := { d with flags := d.flags ||| endStream }

/-- `Data::is_padded`. -/
def isPadded (d : Data) : Bool := d.flags &&& padded == padded

/-- `Data::set_padded`. -/
def setPadded (d : Data) : Data :=
  if !d.isPadded then { d with flags := d.flags ||| padded, flowLen := d.flowLen + 1 } else d

/-- `strip_padding`. -/
def stripPadding (payload : Bytes) : Except FrameError Bytes :=
  match payload with
  | [] => .error .tooMuchPadding
  | pad :: rest =>
      if pad.toNat ≥ payload.length then .error .tooMuchPadding
      else .ok (rest.take (payload.length - pad.toNat - 1))

/-- `Data::head`. -/
def head (d : Data) : Head := ⟨.data, d.flags, d.streamId⟩

/-- `Data::load`. -/
def load (head : Head) (payload : Bytes) : Except FrameError Data :=
  let flags := head.flag &&& all
  if StreamId.isZero head.streamId then .error .invalidStreamId
  else if flags &&& padded == padded then do
    return ⟨head.streamId, ← stripPadding payload, flags, payload.length % 2 ^ 32⟩
  else .ok ⟨head.streamId, payload, flags, payload.length % 2 ^ 32⟩

/-- `Data::encode`. -/
def encode (d : Data) : Written :=
  if d.isPadded then ⟨d.head, d.payload.length + 1, 0 :: d.payload⟩
  else ⟨d.head, d.payload.length, d.payload⟩

end Data

/-! ## SETTINGS -/

/-- `Setting`. -/
inductive Setting where
  | headerTableSize (val : Nat)
  | enablePush (val : Nat)
  | maxConcurrentStreams (val : Nat)
  | initialWindowSize (val : Nat)
  | maxFrameSize (val : Nat)
  | maxHeaderListSize (val : Nat)
  | enableConnectProtocol (val : Nat)
  deriving DecidableEq, Repr

namespace Setting

/-- `Setting::from_id`. -/
def fromId (id val : Nat) : Option Setting :=
  match id with
  | 1 => some (.headerTableSize val)
  | 2 => some (.enablePush val)
  | 3 => some (.maxConcurrentStreams val)
  | 4 => some (.initialWindowSize val)
  | 5 => some (.maxFrameSize val)
  | 6 => some (.maxHeaderListSize val)
  | 8 => some (.enableConnectProtocol val)
  | _ => none

/-- `Setting::load`. -/
def load (raw : Bytes) : Option Setting :=
  fromId (BigEndian.read (raw.take 2)) (BigEndian.read ((raw.drop 2).take 4))

/-- The id and the value of a setting. -/
def parts : Setting → Nat × Nat
  | .headerTableSize v => (1, v)
  | .enablePush v => (2, v)
  | .maxConcurrentStreams v => (3, v)
  | .initialWindowSize v => (4, v)
  | .maxFrameSize v => (5, v)
  | .maxHeaderListSize v => (6, v)
  | .enableConnectProtocol v => (8, v)

/-- `Setting::encode`. -/
def encode (s : Setting) : Bytes := BigEndian.write 2 s.parts.1 ++ BigEndian.write 4 s.parts.2

/-- One setting of the loop of `Settings::load`. -/
def apply (settings : Settings) : Setting → Except FrameError Settings
  | .headerTableSize val => .ok { settings with headerTableSize := some val }
  | .enablePush val =>
      if val = 0 ∨ val = 1 then .ok { settings with enablePush := some val }
      else .error .invalidSettingValue
  | .maxConcurrentStreams val => .ok { settings with maxConcurrentStreams := some val }
  | .initialWindowSize val =>
      if val > 2 ^ 31 - 1 then .error .invalidInitialWindowSize
      else .ok { settings with initialWindowSize := some val }
  | .maxFrameSize val =>
      if defaultMaxFrameSize ≤ val ∧ val ≤ 2 ^ 24 - 1 then
        .ok { settings with maxFrameSize := some val }
      else .error .invalidSettingValue
  | .maxHeaderListSize val => .ok { settings with maxHeaderListSize := some val }
  | .enableConnectProtocol val =>
      if val = 0 ∨ val = 1 then .ok { settings with enableConnectProtocol := some val }
      else .error .invalidSettingValue

end Setting

namespace Settings

/-- `ACK`. -/
def ackFlag : UInt8 := 0x1

/-- `Settings::default`. -/
def default : Settings := ⟨false, none, none, none, none, none, none, none⟩

/-- The loop of `Settings::load`, six octets to a setting. -/
def loadLoop : Bytes → Settings → Except FrameError Settings
  | a :: b :: c :: d :: e :: f :: rest, settings =>
      match Setting.load [a, b, c, d, e, f] with
      | some s => do loadLoop rest (← s.apply settings)
      | none => loadLoop rest settings
  | _, settings => .ok settings

/-- `Settings::load`. -/
def load (head : Head) (payload : Bytes) : Except FrameError Settings :=
  if !StreamId.isZero head.streamId then .error .invalidStreamId
  else if head.flag &&& ackFlag == ackFlag then
    if !payload.isEmpty then .error .invalidPayloadAckSettings else .ok .newAck
  else if payload.length % 6 ≠ 0 then .error .invalidPayloadLength
  else loadLoop payload default

/-- `Settings::for_each`: the settings in their order. -/
def each (s : Settings) : List Setting :=
  s.headerTableSize.toList.map .headerTableSize ++ s.enablePush.toList.map .enablePush ++
    s.maxConcurrentStreams.toList.map .maxConcurrentStreams ++
    s.initialWindowSize.toList.map .initialWindowSize ++
    s.maxFrameSize.toList.map .maxFrameSize ++
    s.maxHeaderListSize.toList.map .maxHeaderListSize ++
    s.enableConnectProtocol.toList.map .enableConnectProtocol

/-- `Settings::payload_len`. -/
def payloadLen (s : Settings) : Nat := (each s).foldl (fun len _ => len + 6) 0

/-- `Settings::encode`. -/
def encode (s : Settings) : Written :=
  ⟨⟨.settings, if s.ack then ackFlag else 0, .con⟩, payloadLen s, (each s).flatMap Setting.encode⟩

end Settings

/-! ## The other frames -/

/-- `Ping`. -/
structure Ping where
  ack : Bool
  payload : Bytes
  size : payload.length = 8
  deriving DecidableEq

/-- `Ping::load`. -/
def Ping.load (head : Head) (bytes : Bytes) : Except FrameError Ping :=
  if !StreamId.isZero head.streamId then .error .invalidStreamId
  else if h : bytes.length = 8 then .ok ⟨head.flag &&& 0x1 != 0, bytes, h⟩
  else .error .badFrameSize

/-- `Ping::encode`. -/
def Ping.encode (p : Ping) : Written :=
  ⟨⟨.ping, if p.ack then 0x1 else 0, .con⟩, p.payload.length, p.payload⟩

/-- `GoAway`. -/
structure GoAway where
  lastStreamId : StreamId
  errorCode : Reason
  data : Bytes
  deriving DecidableEq, Repr

/-- `GoAway::load`. -/
def GoAway.load (payload : Bytes) : Except FrameError GoAway :=
  if payload.length < 8 then .error .badFrameSize
  else .ok ⟨(StreamId.parse payload).1, ⟨BigEndian.read ((payload.drop 4).take 4)⟩, payload.drop 8⟩

/-- `GoAway::encode`. -/
def GoAway.encode (g : GoAway) : Written :=
  ⟨⟨.goAway, 0, .con⟩, 8 + g.data.length,
    BigEndian.write 4 g.lastStreamId ++ BigEndian.write 4 g.errorCode.code ++ g.data⟩

/-- `WindowUpdate`. -/
structure WindowUpdate where
  streamId : StreamId
  sizeIncrement : Nat
  deriving DecidableEq, Repr

/-- `WindowUpdate::load`; the highest bit is ignored. -/
def WindowUpdate.load (head : Head) (payload : Bytes) : Except FrameError WindowUpdate :=
  if payload.length ≠ 4 then .error .badFrameSize
  else .ok ⟨head.streamId, BigEndian.read payload % 2 ^ 31⟩

/-- `WindowUpdate::encode`. -/
def WindowUpdate.encode (w : WindowUpdate) : Written :=
  ⟨⟨.windowUpdate, 0, w.streamId⟩, 4, BigEndian.write 4 w.sizeIncrement⟩

/-- `Reset`. -/
structure Reset where
  streamId : StreamId
  errorCode : Reason
  deriving DecidableEq, Repr

/-- `Reset::load`. -/
def Reset.load (head : Head) (payload : Bytes) : Except FrameError Reset :=
  if payload.length ≠ 4 then .error .invalidPayloadLength
  else .ok ⟨head.streamId, ⟨BigEndian.read payload⟩⟩

/-- `Reset::encode`. -/
def Reset.encode (r : Reset) : Written :=
  ⟨⟨.reset, 0, r.streamId⟩, 4, BigEndian.write 4 r.errorCode.code⟩

/-- `StreamDependency`. -/
structure StreamDependency where
  dependencyId : StreamId
  weight : UInt8
  isExclusive : Bool
  deriving DecidableEq, Repr

/-- `StreamDependency::load`. -/
def StreamDependency.load (src : Bytes) : Except FrameError StreamDependency :=
  if src.length ≠ 5 then .error .invalidPayloadLength
  else
    let id := StreamId.parse (src.take 4)
    .ok ⟨id.1, src.getD 4 0, id.2⟩

/-- `Priority`. -/
structure Priority where
  streamId : StreamId
  dependency : StreamDependency
  deriving DecidableEq, Repr

/-- `Priority::load`. -/
def Priority.load (head : Head) (payload : Bytes) : Except FrameError Priority := do
  let dependency ← StreamDependency.load payload
  if dependency.dependencyId = head.streamId then throw .invalidDependencyId
  return ⟨head.streamId, dependency⟩

end Wire

end NtexH2
