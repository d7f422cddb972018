/-
  Codec/Model.lean --- the frame encoder and decoder (src/codec/).

  Decoding changes the codec also where it fails: a frame has left the buffer, the
  pending block is taken, the header table has moved on.  Each function therefore
  returns the codec next to its result.
-/
import NtexH2.Wire.Headers

set_option autoImplicit false

namespace NtexH2

open Wire (Head Written Fault)

variable {S : HttpSyntax}

/-- `Frame`. -/
inductive Wire.Frame (S : HttpSyntax) where
  | data (v : Wire.Data)
  | headers (v : Wire.Headers S)
  | settings (v : Settings)
  | ping (v : Wire.Ping)
  | goAway (v : Wire.GoAway)
  | windowUpdate (v : Wire.WindowUpdate)
  | reset (v : Wire.Reset)
  | priority (v : Wire.Priority)
  | invalid (v : InvalidFrame)
  deriving DecidableEq

/-! ## Splitting the input -/

/-- `FrameDecoder`; the pending length counts the head. -/
structure FrameDecoder where
  maxFrameLen : Nat
  pending : Option Nat
  headed : ∀ len ∈ pending, Wire.headerLen ≤ len
  deriving DecidableEq

namespace FrameDecoder

/-- `FrameDecoder::new`. -/
def new (maxFrameLen : Nat) : FrameDecoder := ⟨maxFrameLen, none, nofun⟩

/-- The length of a frame is known. -/
def await (d : FrameDecoder) (payloadLen : Nat) : FrameDecoder where
  maxFrameLen := d.maxFrameLen
  pending := some (payloadLen + Wire.headerLen)
  headed := by
    intro len h
    cases h
    exact Nat.le_add_left _ _

/-- The part of `FrameDecoder::decode` behind the length, with a decoder that awaits it. -/
def cut (d : FrameDecoder) (len : Nat) (src : Bytes) :
    Except FrameError (Option Bytes) × FrameDecoder × Bytes :=
  if src.length < len then (.ok none, d, src)
  else (.ok (some (src.take len)), .new d.maxFrameLen, src.drop len)

/-- `FrameDecoder::decode`: the result, the decoder, and what is left of the buffer. -/
def decode (d : FrameDecoder) (src : Bytes) :
    Except FrameError (Option Bytes) × FrameDecoder × Bytes :=
  match d.pending with
  | some len => d.cut len src
  | none =>
      if src.length < 3 then (.ok none, d, src)
      else
        let payloadLen := Lib.BigEndian.read (src.take 3)
        if payloadLen > d.maxFrameLen then (.error .maxFrameSize, d, src)
        else (d.await payloadLen).cut (payloadLen + Wire.headerLen) src

end FrameDecoder

/-! ## The codec -/

/-- `Partial`. -/
structure Partial where
  streamId : StreamId
  flags : UInt8
  buf : Bytes
  count : Nat
  error : Option FrameError
  deriving DecidableEq, Repr

/-- The frame sizes that `set_send_frame_size` lets through. -/
abbrev FrameSize := { n : Nat // defaultMaxFrameSize ≤ n ∧ n ≤ 2 ^ 24 - 1 }

/-- `CodecInner`. -/
structure Codec (S : HttpSyntax) where
  encoderHpack : Hpack.Encoder S
  encoderMaxFrameSize : FrameSize
  decoder : FrameDecoder
  decoderHpack : Hpack.Decoder S
  decoderMaxHeaders : Nat
  decoderMaxHeaderListSize : Nat
  decoderMaxHeaderContinuations : Nat
  pending : Option Partial

namespace Codec

/-- `Codec::default`. -/
def default (S : HttpSyntax) : Codec S where
  encoderHpack := .default S
  encoderMaxFrameSize := ⟨defaultMaxFrameSize, by decide⟩
  decoder := .new defaultMaxFrameSize
  decoderHpack := .new S 4096
  decoderMaxHeaders := 96
  decoderMaxHeaderListSize := 48 * 1024
  decoderMaxHeaderContinuations := 5
  pending := none

/-- `Codec::set_send_frame_size`. -/
def setSendFrameSize (c : Codec S) (val : Nat) : Except Panic (Codec S) :=
  if h : defaultMaxFrameSize ≤ val ∧ val ≤ 2 ^ 24 - 1 then
    .ok { c with encoderMaxFrameSize := ⟨val, h⟩ }
  else .error .assertion

/-- `Codec::set_send_header_table_size`. -/
def setSendHeaderTableSize (c : Codec S) (val : Nat) : Codec S :=
  { c with encoderHpack := c.encoderHpack.updateMaxSize (min val 4096) }

/-- `Codec::set_recv_frame_size`. -/
def setRecvFrameSize (c : Codec S) (val : Nat) : Except Panic (Codec S) :=
  if defaultMaxFrameSize ≤ val ∧ val ≤ 2 ^ 24 - 1 then
    .ok { c with decoder := { c.decoder with maxFrameLen := val } }
  else .error .assertion

/-! ## Decoding -/

/-- `load_hpack`: errors of the stream are results. -/
def loadHpack (c : Codec S) (frame : Wire.Headers S) (src : Bytes) :
    Except Fault (Wire.Headers S × Option FrameError) × Codec S :=
  let r := Wire.loadBlock frame.streamId src c.decoderHpack c.decoderMaxHeaders
    c.decoderMaxHeaderListSize
  let c := { c with decoderHpack := r.2 }
  match r.1 with
  | .ok (pseudo, fields) => (.ok ({ frame with pseudo := pseudo, fields := fields }, none), c)
  | .error (.err .malformedMessage) => (.ok (frame, some .malformedMessage), c)
  | .error (.err (.tooManyHeaders id)) => (.ok (frame, some (.tooManyHeaders id)), c)
  | .error e => (.error e, c)

/-- The end of a header block: the frame, or the error that makes it invalid. -/
def finishBlock (c : Codec S) (frame : Wire.Headers S) (error : Option FrameError) (src : Bytes) :
    Except Fault (Option (Wire.Frame S)) × Codec S :=
  match c.loadHpack frame src with
  | (.error e, c) => (.error e, c)
  | (.ok (frame, error'), c) =>
      match error <|> error' with
      | some e => (.ok (some (.invalid ⟨.headers, frame.streamId, e⟩)), c)
      | none => (.ok (some (.headers frame)), c)

/-- A HEADERS frame; an unfinished block is kept. -/
def decodeHeaders (c : Codec S) (head : Head) (payload : Bytes) :
    Except Fault (Option (Wire.Frame S)) × Codec S :=
  match Wire.Headers.loadHead S head payload with
  | .error e => (.error (.err e), c)
  | .ok (frame, selfDependency, bytes) =>
      let error := if selfDependency then some .invalidDependencyId else none
      if frame.isEndHeaders then c.finishBlock frame error bytes
      else (.ok none, { c with pending := some ⟨frame.streamId, frame.flags, bytes, 0, error⟩ })

/-- A CONTINUATION frame for the pending block, which has been taken. -/
def decodeContinuation (c : Codec S) (p : Partial) (head : Head) (fragment : Bytes) :
    Except Fault (Option (Wire.Frame S)) × Codec S :=
  if p.streamId ≠ head.streamId then (.error (.err (.continuation .unknownStreamId)), c)
  else
    let counts := decide (c.decoderMaxHeaderContinuations > 0)
    let p := if counts then { p with count := p.count + 1 } else p
    if counts && decide (p.count > c.decoderMaxHeaderContinuations) then
      (.error (.err (.continuation .maxContinuations)), c)
    else if p.buf.length + fragment.length > c.decoderMaxHeaderListSize then
      (.error (.err (.continuation .maxLeftoverSize)), c)
    else
      let p := { p with buf := p.buf ++ fragment }
      if head.flag &&& 0x4 == 0x4 then
        c.finishBlock (.fromHead p.streamId p.flags) p.error p.buf
      else (.ok none, { c with pending := some p })

/-- A PRIORITY frame. -/
def decodePriority (head : Head) (payload : Bytes) : Except FrameError (Wire.Frame S) :=
  if StreamId.isZero head.streamId then .error .invalidStreamId
  else
    match Wire.Priority.load head payload with
    | .ok frame => .ok (.priority frame)
    | .error .invalidDependencyId => .ok (.invalid ⟨.priority, head.streamId, .invalidDependencyId⟩)
    | .error .invalidPayloadLength =>
        .ok (.invalid ⟨.priority, head.streamId, .invalidPayloadLength⟩)
    | .error e => .error e

/-- A frame that leaves the codec as it is. -/
def loaded {α : Type} (c : Codec S) (f : α → Wire.Frame S) :
    Except FrameError α → Except Fault (Option (Wire.Frame S)) × Codec S
  | .ok v => (.ok (some (f v)), c)
  | .error e => (.error (.err e), c)

/-- A frame of `Codec::decode`, head and payload; nothing is returned for a frame that is
ignored, or whose header block goes on. -/
def decodeFrame (c : Codec S) (bytes : Bytes) :
    Except Fault (Option (Wire.Frame S)) × Codec S :=
  if bytes.getD 3 0 == 5 then (.error (.err .unexpectedPushPromise), c)
  else
    let head := Head.parse bytes
    let payload := bytes.drop Wire.headerLen
    if c.pending.isSome && head.kind != .continuation then
      (.error (.err (.continuation .expected)), c)
    else
      match head.kind with
      | .settings => c.loaded .settings (Wire.Settings.load head payload)
      | .ping => c.loaded .ping (Wire.Ping.load head payload)
      | .windowUpdate => c.loaded .windowUpdate (Wire.WindowUpdate.load head payload)
      | .data => c.loaded .data (Wire.Data.load head payload)
      | .headers => c.decodeHeaders head payload
      | .reset => c.loaded .reset (Wire.Reset.load head payload)
      | .goAway =>
          if head.streamId ≠ 0 then (.error (.err .invalidStreamId), c)
          else c.loaded .goAway (Wire.GoAway.load payload)
      | .priority => c.loaded id (decodePriority head payload)
      | .continuation =>
          match c.pending with
          | none => (.error (.err (.continuation .unexpected)), c)
          | some p => { c with pending := none }.decodeContinuation p head payload
      | .unknown => (.ok none, c)

/-- The loop of `Codec::decode`; every round takes nine octets at least. -/
def decodeLoop : Nat → Codec S → Bytes →
    Except Fault (Option (Wire.Frame S)) × Codec S × Bytes
  | 0, c, src => (.error (.panic .endless), c, src)
  | fuel + 1, c, src =>
      match c.decoder.decode src with
      | (.error e, d, src) => (.error (.err e), { c with decoder := d }, src)
      | (.ok none, d, src) => (.ok none, { c with decoder := d }, src)
      | (.ok (some bytes), d, src) =>
          match { c with decoder := d }.decodeFrame bytes with
          | (.error e, c) => (.error e, c, src)
          | (.ok (some frame), c) => (.ok (some frame), c, src)
          | (.ok none, c) => decodeLoop fuel c src

/-- `Codec::decode`: the result, the codec, and what is left of the buffer. -/
def decode (c : Codec S) (src : Bytes) : Except Fault (Option (Wire.Frame S)) × Codec S × Bytes :=
  decodeLoop (src.length + 1) c src

/-! ## Encoding -/

/-- What can end a run of the encoder. -/
inductive EncodeFault where
  | err (e : EncoderError)
  | panic (p : Panic)
  deriving DecidableEq, Repr

/-- A single frame that leaves the codec as it is. -/
def writes (c : Codec S) (w : Written) : Except EncodeFault (Codec S × List Written) := .ok (c, [w])

/-- `Codec::encode`: the codec, and the frames written. -/
def encode (hash : Hpack.Name S → Nat) (order : Wire.MapOrder S) (c : Codec S) :
    Wire.Frame S → Except EncodeFault (Codec S × List Written)
  | .data v =>
      if v.payload.length > c.encoderMaxFrameSize then .error (.err .maxSizeExceeded)
      else c.writes v.encode
  | .headers v =>
      match v.encode hash order c.encoderHpack c.encoderMaxFrameSize with
      | .ok (e, frames) => .ok ({ c with encoderHpack := e }, frames)
      | .error p => .error (.panic p)
  | .settings v => c.writes (Wire.Settings.encode v)
  | .goAway v => c.writes v.encode
  | .ping v => c.writes v.encode
  | .windowUpdate v => c.writes v.encode
  | .priority _ | .invalid _ => .ok (c, [])
  | .reset v => c.writes v.encode

end Codec

end NtexH2
