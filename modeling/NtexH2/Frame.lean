/-
  Frame.lean --- frames as the connection sees them (src/frame/).

  A received frame is what the codec returns: `Frame.Loads` says which values of
  the fields the loaders let through.  A written frame is what is handed to the
  io; a DATA frame keeps the length field of its head next to its payload.
-/
import NtexH2.Hpack.Header

set_option autoImplicit false

namespace NtexH2

/-! ## Stream ids and reasons -/

/-- `StreamId`. -/
abbrev StreamId := Nat

namespace StreamId

/-- `StreamId::CON`. -/
def con : StreamId := 0

/-- `StreamId::CLIENT`. -/
def client : StreamId := 1

/-- `StreamId::MAX`. -/
def max : StreamId := 2 ^ 31 - 1

/-- `StreamId::is_client_initiated`. -/
def isClientInitiated (id : StreamId) : Bool := id != 0 && id % 2 != 0

/-- `StreamId::is_zero`. -/
def isZero (id : StreamId) : Bool := id == 0

/-- `StreamId::next_id`. -/
def nextId (id : StreamId) : Option StreamId := if id + 2 > max then none else some (id + 2)

end StreamId

/-- `Reason`. -/
structure Reason where
  code : Nat
  deriving DecidableEq, Repr

namespace Reason

def noError : Reason := ⟨0⟩
def protocolError : Reason := ⟨1⟩
def internalError : Reason := ⟨2⟩
def flowControlError : Reason := ⟨3⟩
def settingsTimeout : Reason := ⟨4⟩
def streamClosed : Reason := ⟨5⟩
def frameSizeError : Reason := ⟨6⟩
def refusedStream : Reason := ⟨7⟩
def cancel : Reason := ⟨8⟩
def compressionError : Reason := ⟨9⟩
def enhanceYourCalm : Reason := ⟨11⟩

end Reason

/-! ## Errors -/

/-- `FrameContinuationError`. -/
inductive FrameContinuationError where
  | expected
  | unexpected
  | unknownStreamId
  | maxLeftoverSize
  | maxContinuations
  deriving DecidableEq, Repr

/-- `FrameError`. -/
inductive FrameError where
  | badFrameSize
  | maxFrameSize
  | tooMuchPadding
  | tooManyHeaders (id : StreamId)
  | invalidSettingValue
  | invalidInitialWindowSize
  | invalidPayloadLength
  | invalidPayloadAckSettings
  | invalidStreamId
  | malformedMessage
  | invalidDependencyId
  | invalidPreface
  | unexpectedPushPromise
  | continuation (e : FrameContinuationError)
  | hpack (e : Hpack.DecoderError)
  deriving DecidableEq, Repr

/-- `FrameError::reason`. -/
def FrameError.reason : FrameError → Reason
  | .badFrameSize | .maxFrameSize | .invalidPayloadLength | .invalidPayloadAckSettings =>
      .frameSizeError
  | .invalidInitialWindowSize => .flowControlError
  | .tooManyHeaders _ => .refusedStream
  | .hpack .invalidUtf8 | .hpack .invalidStatusCode | .hpack .invalidPseudoheader =>
      .protocolError
  | .hpack _ => .compressionError
  | _ => .protocolError

/-- `EncoderError`. -/
inductive EncoderError where
  | maxSizeExceeded
  deriving DecidableEq, Repr

/-- `ConnectionError`. -/
inductive ConnectionError where
  | goAway (reason : Reason)
  | unknownStream (frame : String)
  | encoder (e : EncoderError)
  | decoder (e : FrameError)
  | streamClosed (id : StreamId) (msg : String)
  | invalidStreamId (msg : String)
  | unexpectedSettingsAck
  | missingSettings
  | unexpectedEnablePush
  | zeroWindowUpdateValue
  | windowValueOverflow
  | recvWindowExceeded
  | streamResetsLimit
  | keepaliveTimeout
  | settingsTimeout
  | readTimeout
  | writeTimeout
  deriving DecidableEq, Repr

/-- `StreamError`. -/
inductive StreamError where
  | idle (msg : String)
  | closed
  | windowOverflowed
  | recvWindowExceeded
  | windowZeroUpdateValue
  | trailersWithoutEos
  | invalidContentLength
  | wrongPayloadLength
  | nonEmptyPayload
  | capacityTimeout
  | reset (reason : Reason)
  | localReset (reason : Reason)
  | invalidFrame (e : FrameError)
  | missingPseudo (name : String)
  | unexpectedPseudo (name : String)
  | invalidInformational
  deriving DecidableEq, Repr

/-- `StreamError::reason`. -/
def StreamError.reason : StreamError → Reason
  | .closed => .streamClosed
  | .windowOverflowed | .recvWindowExceeded => .flowControlError
  | .capacityTimeout => .cancel
  | .invalidFrame e => e.reason
  | .reset r | .localReset r => r
  | _ => .protocolError

/-- `OperationError`. -/
inductive OperationError where
  | stream (e : StreamError)
  | connection (e : ConnectionError)
  | idle
  | payload
  | closed (reason : Option Reason)
  | remoteReset (reason : Reason)
  | localReset (reason : Reason)
  | overflowedStreamId
  | headerListTooLarge (size max : Nat)
  | disconnecting
  | disconnected
  deriving DecidableEq, Repr

/-! ## Header lists -/

/-- `PseudoHeaders`. -/
structure PseudoHeaders where
  method : Option Bytes
  scheme : Option Bytes
  authority : Option Bytes
  path : Option Bytes
  protocol : Option Bytes
  status : Option Nat
  deriving DecidableEq, Repr

/-- `HeaderMap`: the fields in the order they are iterated. -/
abbrev HeaderMap := List (Bytes × Bytes)

namespace PseudoHeaders

/-- `PseudoHeaders::default`. -/
def empty : PseudoHeaders := ⟨none, none, none, none, none, none⟩

/-- `PseudoHeaders::response`. -/
def response (status : Nat) : PseudoHeaders := { empty with status := some status }

/-- `PseudoHeaders::header_list_size`. -/
def headerListSize (p : PseudoHeaders) (fields : HeaderMap) : Nat :=
  let pseudo := p.method.elim 0 (32 + 7 + ·.length) + p.scheme.elim 0 (32 + 7 + ·.length) +
    p.authority.elim 0 (32 + 10 + ·.length) + p.path.elim 0 (32 + 5 + ·.length) +
    p.protocol.elim 0 (32 + 9 + ·.length) + p.status.elim 0 (fun _ => 32 + 7 + 3)
  fields.foldl (fun acc f => acc + 32 + f.1.length + f.2.length) pseudo

/-- `pseudo_name`: the first pseudo-header present. -/
def pseudoName (p : PseudoHeaders) : Option String :=
  if p.method.isSome then some "method"
  else if p.scheme.isSome then some "scheme"
  else if p.authority.isSome then some "authority"
  else if p.path.isSome then some "path"
  else if p.protocol.isSome then some "protocol"
  else if p.status.isSome then some "status"
  else none

end PseudoHeaders

/-- `StatusCode::is_informational`. -/
def isInformational (status : Nat) : Bool := decide (100 ≤ status ∧ status < 200)

/-- `HeaderMap::get`: the first value under a name. -/
def HeaderMap.get (fields : HeaderMap) (name : Bytes) : Option Bytes :=
  (fields.find? (·.1 == name)).map (·.2)

/-- `Headers`. -/
structure Headers where
  streamId : StreamId
  pseudo : PseudoHeaders
  fields : HeaderMap
  endStream : Bool
  deriving DecidableEq, Repr

/-! ## The other frames -/

/-- `Data`: `flowLen` is the payload length with its padding. -/
structure Data where
  streamId : StreamId
  payload : Bytes
  flowLen : Nat
  endStream : Bool
  deriving DecidableEq, Repr

/-- `Settings`. -/
structure Settings where
  ack : Bool
  headerTableSize : Option Nat
  enablePush : Option Nat
  maxConcurrentStreams : Option Nat
  initialWindowSize : Option Nat
  maxFrameSize : Option Nat
  maxHeaderListSize : Option Nat
  enableConnectProtocol : Option Nat
  deriving DecidableEq, Repr

/-- `Settings::ack`. -/
def Settings.newAck : Settings := ⟨true, none, none, none, none, none, none, none⟩

/-- `Settings::is_push_enabled`. -/
def Settings.isPushEnabled (s : Settings) : Option Bool := s.enablePush.map (· != 0)

/-- `Kind`. -/
inductive Kind where
  | data | headers | priority | reset | settings | ping | goAway | windowUpdate | continuation
  | unknown
  deriving DecidableEq, Repr

/-- `InvalidFrame`. -/
structure InvalidFrame where
  kind : Kind
  streamId : StreamId
  error : FrameError
  deriving DecidableEq, Repr

/-- `Frame`. -/
inductive Frame where
  | data (d : Data)
  | headers (h : Headers)
  | settings (s : Settings)
  | windowUpdate (id : StreamId) (increment : Nat)
  | reset (id : StreamId) (reason : Reason)
  | ping (ack : Bool) (payload : Bytes)
  | goAway (lastStreamId : StreamId) (reason : Reason) (data : Bytes)
  | priority (id : StreamId)
  | invalid (f : InvalidFrame)
  deriving DecidableEq, Repr

/-- `DEFAULT_INITIAL_WINDOW_SIZE`. -/
def defaultInitialWindowSize : Nat := 65535

/-- `DEFAULT_MAX_FRAME_SIZE`. -/
def defaultMaxFrameSize : Nat := 16384

/-- What the loaders of the codec let through. -/
def Frame.Loads : Frame → Prop
  | .data d => d.streamId ≠ 0 ∧ d.streamId < 2 ^ 31 ∧ d.payload.length ≤ d.flowLen ∧
      d.flowLen < 2 ^ 24
  | .headers h => h.streamId < 2 ^ 31
  | .settings s => (∀ v ∈ s.initialWindowSize, v < 2 ^ 31) ∧
      (∀ v ∈ s.maxFrameSize, defaultMaxFrameSize ≤ v ∧ v < 2 ^ 24)
  | .windowUpdate id n => id < 2 ^ 31 ∧ n < 2 ^ 31
  | .reset id _ => id < 2 ^ 31
  | .goAway id _ _ => id < 2 ^ 31
  | .invalid f => f.streamId < 2 ^ 31
  | .ping _ _ => True
  | .priority _ => True

/-- `parse_u64`. -/
def parseU64 (src : Bytes) : Option Nat :=
  if src.length > 19 then none
  else src.foldlM (fun ret d =>
    if 48 ≤ d.toNat ∧ d.toNat ≤ 57 then some (ret * 10 + (d.toNat - 48)) else none) 0

end NtexH2
