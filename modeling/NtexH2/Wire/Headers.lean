/-
  Wire/Headers.lean --- HEADERS frames and header blocks (src/frame/headers.rs).

  The map of header fields is a type of another crate: it keeps the values of each
  name in order, and what order it gives the names when it is iterated is a parameter,
  `MapOrder`.
-/
import NtexH2.Wire.Frame
import NtexH2.Hpack.Encoder
import NtexH2.Hpack.Decoder

set_option autoImplicit false

namespace NtexH2.Wire

open Hpack (HeaderName HeaderValue Method ByteString StatusCode Header Named)

variable {S : HttpSyntax}

/-! ## Header lists -/

/-- `HeaderMap`: the fields in the order they were appended. -/
abbrev HeaderMap (S : HttpSyntax) := List (HeaderName S × HeaderValue S)

/-- The values under a name. -/
def HeaderMap.values (m : HeaderMap S) (name : HeaderName S) : List (HeaderValue S) :=
  (m.filter (·.1 == name)).map (·.2)

/-- The order in which the fields of a `HeaderMap` are iterated: the values of each name stay in
order. -/
structure MapOrder (S : HttpSyntax) where
  iter : HeaderMap S → HeaderMap S
  values_iter : ∀ m name, HeaderMap.values (iter m) name = HeaderMap.values m name

/-- `PseudoHeaders`. -/
structure PseudoHeaders (S : HttpSyntax) where
  method : Option (Method S)
  scheme : Option (ByteString S)
  authority : Option (ByteString S)
  path : Option (ByteString S)
  protocol : Option (ByteString S)
  status : Option StatusCode
  deriving DecidableEq

/-- `PseudoHeaders::default`. -/
def PseudoHeaders.default (S : HttpSyntax) : PseudoHeaders S := ⟨none, none, none, none, none, none⟩

/-- `Iter`: the pseudo-headers, then the fields. -/
def headerIter (pseudo : PseudoHeaders S) (fields : HeaderMap S) :
    List (Header S (Option (HeaderName S))) :=
  pseudo.method.toList.map .method ++ pseudo.scheme.toList.map .scheme ++
    pseudo.authority.toList.map .authority ++ pseudo.path.toList.map .path ++
    pseudo.protocol.toList.map .protocol ++ pseudo.status.toList.map .status ++
    fields.map fun f => .field (some f.1) f.2

/-! ## HEADERS frames -/

/-- `Headers`. -/
structure Headers (S : HttpSyntax) where
  streamId : StreamId
  pseudo : PseudoHeaders S
  fields : HeaderMap S
  flags : UInt8
  deriving DecidableEq

namespace Headers

/-- `END_STREAM`. -/
def endStream : UInt8 := 0x1

/-- `END_HEADERS`. -/
def endHeaders : UInt8 := 0x4

/-- `PADDED`. -/
def padded : UInt8 := 0x8

/-- `PRIORITY`. -/
def priority : UInt8 := 0x20

/-- `ALL`. -/
def all : UInt8 := endStream ||| endHeaders ||| padded ||| priority

/-- `Headers::new`. -/
def new (streamId : StreamId) (pseudo : PseudoHeaders S) (fields : HeaderMap S) (eof : Bool) :
    Headers S :=
  ⟨streamId, pseudo, fields, if eof then endHeaders ||| endStream else endHeaders⟩

/-- `Headers::trailers`. -/
def trailers (streamId : StreamId) (fields : HeaderMap S) : Headers S :=
  ⟨streamId, .default S, fields, endHeaders ||| endStream⟩

/-- `Headers::is_end_stream`. -/
def isEndStream (h : Headers S) : Bool := h.flags &&& endStream == endStream

/-- `Headers::is_end_headers`. -/
def isEndHeaders (h : Headers S) : Bool := h.flags &&& endHeaders == endHeaders

/-- `Headers::head`. -/
def head (h : Headers S) : Head := ⟨.headers, h.flags, h.streamId⟩

/-- The padding length of `Headers::load_head`, and what follows it. -/
def loadPad (flags : UInt8) (src : Bytes) : Except FrameError (Nat × Bytes) :=
  if flags &&& padded == padded then
    match src with
    | [] => .error .malformedMessage
    | pad :: src => .ok (pad.toNat, src)
  else .ok (0, src)

/-- The stream dependency of `Headers::load_head`: whether the stream depends on itself, and
what follows. -/
def loadDependency (flags : UInt8) (id : StreamId) (src : Bytes) :
    Except FrameError (Bool × Bytes) :=
  if flags &&& priority == priority then
    if src.length < 5 then .error .malformedMessage
    else do
      let streamDep ← StreamDependency.load (src.take 5)
      return (streamDep.dependencyId == id, src.drop 5)
  else .ok (false, src)

/-- `Headers::load_head`: the frame, whether the stream depends on itself, and the fragment of
the header block. -/
def loadHead (S : HttpSyntax) (head : Head) (src : Bytes) :
    Except FrameError (Headers S × Bool × Bytes) := do
  let flags := head.flag &&& all
  if StreamId.isZero head.streamId then throw .invalidStreamId
  let (pad, src) ← loadPad flags src
  let (selfDependency, src) ← loadDependency flags head.streamId src
  if pad > src.length then throw .tooMuchPadding
  return (⟨head.streamId, .default S, [], flags⟩, selfDependency, src.take (src.length - pad))

/-- `Headers::from_head`. -/
def fromHead (streamId : StreamId) (flags : UInt8) : Headers S :=
  ⟨streamId, .default S, [], flags ||| endHeaders⟩

end Headers

/-! ## Header blocks -/

/-- The state of `HeaderBlock::load` between two headers. -/
structure Loading (S : HttpSyntax) where
  pseudo : PseudoHeaders S
  fields : HeaderMap S
  reg : Bool
  malformed : Bool
  tooManyHeaders : Bool
  numFields : Nat
  listSize : Nat

namespace Loading

/-- The state before the first header. -/
def start (S : HttpSyntax) : Loading S := ⟨.default S, [], false, false, false, 0, 0⟩

/-- The names of `HeaderBlock::load` that belong to a connection. -/
def connectionNames : List String :=
  ["connection", "transfer-encoding", "upgrade", "keep-alive", "proxy-connection"]

/-- `to_ascii_lowercase`. -/
def toLowercase (b : UInt8) : UInt8 := if 65 ≤ b ∧ b ≤ 90 then b + 32 else b

/-- `set_pseudo!`; `taken` says whether the pseudo-header is there already. -/
def setPseudo (s : Loading S) (taken : Bool) (pseudo : PseudoHeaders S) : Loading S :=
  if s.reg then { s with malformed := true }
  else if taken then { s with malformed := true }
  else { s with pseudo := pseudo }

/-- A field. -/
def field (maxHeaders : Nat) (s : Loading S) (name : HeaderName S) (value : HeaderValue S) :
    Loading S :=
  if connectionNames.any fun n => name.bytes == octets n then { s with malformed := true }
  else if name.bytes == octets "te" && value.bytes.map toLowercase != octets "trailers" then
    { s with malformed := true }
  else
    let s := { s with reg := true, numFields := s.numFields + 1 }
    if s.numFields > maxHeaders then { s with tooManyHeaders := true }
    else { s with fields := s.fields ++ [(name, value)] }

/-- A header that is stored. -/
def store (maxHeaders : Nat) (s : Loading S) : Named S → Loading S
  | .field name value => s.field maxHeaders name value
  | .authority v => s.setPseudo s.pseudo.authority.isSome { s.pseudo with authority := some v }
  | .method v => s.setPseudo s.pseudo.method.isSome { s.pseudo with method := some v }
  | .scheme v => s.setPseudo s.pseudo.scheme.isSome { s.pseudo with scheme := some v }
  | .path v => s.setPseudo s.pseudo.path.isSome { s.pseudo with path := some v }
  | .protocol v => s.setPseudo s.pseudo.protocol.isSome { s.pseudo with protocol := some v }
  | .status v => s.setPseudo s.pseudo.status.isSome { s.pseudo with status := some v }

/-- The callback of `HeaderBlock::load`. -/
def next (maxHeaders maxListSize : Nat) (s : Loading S) (header : Named S) : Loading S :=
  let s := { s with listSize := min (s.listSize + header.len) (wordSize - 1) }
  let s := { s with tooManyHeaders := s.tooManyHeaders || decide (s.listSize > maxListSize) }
  if s.tooManyHeaders then s else s.store maxHeaders header

end Loading

/-- What can end a run of the codec. -/
inductive Fault where
  | err (e : FrameError)
  | panic (p : Panic)
  deriving DecidableEq, Repr

/-- `HeaderBlock::load`: the result, with the decoder; an error of the decoder comes before the
errors of the message. -/
def loadBlock (id : StreamId) (src : Bytes) (decoder : Hpack.Decoder S)
    (maxHeaders maxListSize : Nat) :
    Except Fault (PseudoHeaders S × HeaderMap S) × Hpack.Decoder S :=
  match decoder.decode ⟨src, 0⟩ with
  | .error (.panic p) s => (.error (.panic p), s.decoder)
  | .error (.err e) s => (.error (.err (.hpack e)), s.decoder)
  | .ok _ s =>
      let l := s.calls.foldl (Loading.next maxHeaders maxListSize) (.start S)
      if l.malformed then (.error (.err .malformedMessage), s.decoder)
      else if l.tooManyHeaders then (.error (.err (.tooManyHeaders id)), s.decoder)
      else (.ok (l.pseudo, l.fields), s.decoder)

/-- The loop of `encode_block`; a size of zero would never end. -/
def splitBlock (hpack : Bytes) (maxSize : Nat) : Nat → Head → Nat → Except Panic (List Written)
  | 0, _, _ => .error .endless
  | fuel + 1, head, start =>
      let stop := min (start + maxSize) hpack.length
      let fragment := (hpack.take stop).drop start
      if hpack.length > stop then do
        let rest ← splitBlock hpack maxSize fuel ⟨.continuation, Headers.endHeaders, head.streamId⟩
          stop
        return ⟨⟨head.kind, head.flag ^^^ Headers.endHeaders, head.streamId⟩, maxSize, fragment⟩ ::
          rest
      else return [⟨head, stop - start, fragment⟩]

/-- `encode_block`; `fields` are the fields in the order of the iteration. -/
def encodeBlock (hash : Hpack.Name S → Nat) (pseudo : PseudoHeaders S) (fields : HeaderMap S)
    (encoder : Hpack.Encoder S) (head : Head) (maxSize : Nat) :
    Except Panic (Hpack.Encoder S × List Written) := do
  let (encoder, hpack) ← encoder.encode hash (headerIter pseudo fields) []
  let frames ← splitBlock hpack maxSize (hpack.length + 1) head 0
  return (encoder, frames)

/-- `Headers::encode`. -/
def Headers.encode (hash : Hpack.Name S → Nat) (order : MapOrder S) (h : Headers S)
    (encoder : Hpack.Encoder S) (maxSize : Nat) :
    Except Panic (Hpack.Encoder S × List Written) := do
  assert h.isEndHeaders
  encodeBlock hash h.pseudo (order.iter h.fields) encoder h.head maxSize

end NtexH2.Wire
