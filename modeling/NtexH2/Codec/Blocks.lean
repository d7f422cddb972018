/-
  Codec/Blocks.lean --- header blocks on the wire (src/codec/mod.rs).

  A header block arrives as a HEADERS frame, with padding and a stream dependency as
  its flags say, and any number of CONTINUATION frames.  Its fragments together are
  what the header table decodes.
-/
import NtexH2.Codec.Chunks

set_option autoImplicit false

namespace NtexH2

open Hpack (Named)
open Lib

variable {S : HttpSyntax}

/-! ## Frames as they arrive -/

/-- A frame as it arrives: its length field counts the octets behind the head. -/
structure RawFrame where
  bytes : Bytes
  headed : Wire.headerLen ≤ bytes.length
  sized : Lib.BigEndian.read (bytes.take 3) + Wire.headerLen = bytes.length

namespace RawFrame

/-- The head of the frame. -/
def head (f : RawFrame) : Wire.Head := .parse f.bytes

/-- The octets behind the head. -/
def payload (f : RawFrame) : Bytes := f.bytes.drop Wire.headerLen

/-- A flag of the head. -/
def has (f : RawFrame) (flag : UInt8) : Bool := f.head.flag &&& flag == flag

theorem read_length (f : RawFrame) : Lib.BigEndian.read (f.bytes.take 3) = f.payload.length := by
  have hsized := f.sized
  unfold payload
  rw [List.length_drop]
  omega

/-- A promise of a push has no kind. -/
theorem not_push {f : RawFrame} (h : f.head.kind ≠ .unknown) : (f.bytes.getD 3 0 == 5) = false := by
  refine Bool.eq_false_iff.mpr fun h5 => h ?_
  show Kind.new (f.bytes.getD 3 0) = .unknown
  rw [beq_iff_eq.mp h5]
  rfl

end RawFrame

theorem FrameDecoder.new_of_pending {d : FrameDecoder} (h : d.pending = none) :
    FrameDecoder.new d.maxFrameLen = d := by
  obtain ⟨maxFrameLen, pending, headed⟩ := d
  cases h
  rfl

/-- A frame is cut off whole. -/
theorem FrameDecoder.decode_frame {d : FrameDecoder} (h : d.pending = none) (f : RawFrame)
    (rest : Bytes) :
    d.decode (f.bytes ++ rest) =
      if f.payload.length > d.maxFrameLen then (.error .maxFrameSize, d, f.bytes ++ rest)
      else (.ok (some f.bytes), d, rest) := by
  have hlen : 3 ≤ f.bytes.length := Nat.le_trans (by decide) f.headed
  have hcut : f.payload.length + Wire.headerLen = f.bytes.length := by
    rw [← f.read_length]
    exact f.sized
  rw [decode_length h hlen, f.read_length, hcut]
  split
  · rfl
  · unfold cut
    rw [if_neg (by rw [List.length_append]; omega), List.take_left, List.drop_left]
    show (_, FrameDecoder.new d.maxFrameLen, _) = _
    rw [new_of_pending h]

namespace Wire

/-- A HEADERS frame whose block has been decoded, or the error of its stream. -/
def Loading.finish (frame : Headers S) (l : Loading S) : Headers S × Option FrameError :=
  if l.malformed then (frame, some .malformedMessage)
  else if l.tooManyHeaders then (frame, some (.tooManyHeaders frame.streamId))
  else ({ frame with pseudo := l.pseudo, fields := l.fields }, none)

theorem Loading.finish_streamId (frame : Headers S) (l : Loading S) :
    (l.finish frame).1.streamId = frame.streamId := by
  unfold finish
  split
  · rfl
  · split
    · rfl
    · rfl

theorem Loading.finish_flags (frame : Headers S) (l : Loading S) :
    (l.finish frame).1.flags = frame.flags := by
  unfold finish
  split
  · rfl
  · split
    · rfl
    · rfl

end Wire

namespace Codec

open Wire (Fault Loading)

variable {c : Codec S} {frame : Wire.Headers S} {src : Bytes}

/-! ## The end of a block -/

/-- The headers of a block, under the limits of the codec. -/
def load (c : Codec S) (calls : List (Named S)) : Loading S :=
  calls.foldl (Loading.next c.decoderMaxHeaders c.decoderMaxHeaderListSize) (.start S)

theorem loadHpack_ok {u : Unit} {s : Hpack.DecodeState S}
    (h : c.decoderHpack.decode ⟨src, 0⟩ = .ok u s) :
    c.loadHpack frame src =
      (.ok ((c.load s.calls).finish frame), { c with decoderHpack := s.decoder }) := by
  unfold loadHpack Wire.loadBlock Loading.finish load
  rw [h]
  dsimp only
  generalize s.calls.foldl _ _ = l
  cases l.malformed with
  | true => rfl
  | false =>
      cases l.tooManyHeaders with
      | true => rfl
      | false => rfl

theorem loadHpack_error {e : Hpack.Fault} {s : Hpack.DecodeState S}
    (h : c.decoderHpack.decode ⟨src, 0⟩ = .error e s) (frame : Wire.Headers S) :
    ∃ f, c.loadHpack frame src = (.error f, { c with decoderHpack := s.decoder }) := by
  unfold loadHpack Wire.loadBlock
  rw [h]
  cases e with
  | panic p => exact ⟨_, rfl⟩
  | err e => exact ⟨_, rfl⟩

/-- The frame for a finished block. -/
def blockItem (error : Option FrameError) (r : Wire.Headers S × Option FrameError) : Wire.Frame S :=
  match error <|> r.2 with
  | some e => .invalid ⟨.headers, r.1.streamId, e⟩
  | none => .headers r.1

/-- The end of a block that the header table can decode. -/
theorem finishBlock_ok {u : Unit} {s : Hpack.DecodeState S}
    (h : c.decoderHpack.decode ⟨src, 0⟩ = .ok u s) (error : Option FrameError) :
    c.finishBlock frame error src =
      (.ok (some (blockItem error ((c.load s.calls).finish frame))),
        { c with decoderHpack := s.decoder }) := by
  unfold finishBlock blockItem
  rw [loadHpack_ok h]
  dsimp only
  cases error <|> ((c.load s.calls).finish frame).2 with
  | none => rfl
  | some e => rfl

theorem finishBlock_error {e : Hpack.Fault} {s : Hpack.DecodeState S}
    (h : c.decoderHpack.decode ⟨src, 0⟩ = .error e s) (frame : Wire.Headers S)
    (error : Option FrameError) :
    ∃ f, c.finishBlock frame error src = (.error f, { c with decoderHpack := s.decoder }) := by
  obtain ⟨f, hf⟩ := loadHpack_error h frame
  unfold finishBlock
  rw [hf]
  exact ⟨f, rfl⟩

/-! ## Rounds -/

theorem round_frame (hd : c.decoder.pending = none) (f : RawFrame) (rest : Bytes)
    (hlen : f.payload.length ≤ c.decoder.maxFrameLen) :
    c.round (f.bytes ++ rest) = frameRound rest (c.decodeFrame f.bytes) := by
  unfold round
  rw [FrameDecoder.decode_frame hd, if_neg (Nat.not_lt.mpr hlen)]

/-- A run over a frame that is decoded. -/
theorem run_frame {o : Option (Wire.Frame S)} {c1 : Codec S} (hd : c.decoder.pending = none)
    (f : RawFrame) (rest : Bytes) (hlen : f.payload.length ≤ c.decoder.maxFrameLen)
    (h : c.decodeFrame f.bytes = (.ok o, c1)) :
    (reader S).run c (f.bytes ++ rest) = ((reader S).run c1 rest).after o.toList := by
  have hround := round_frame hd f rest hlen
  rw [h] at hround
  cases o with
  | none => exact Incremental.Reader.run_skip hround
  | some frame => exact Incremental.Reader.run_item hround

/-- A run that does not fail has decoded the first frame. -/
theorem run_frame_of_ok (hd : c.decoder.pending = none) (f : RawFrame) (rest : Bytes)
    (h : ((reader S).run c (f.bytes ++ rest)).fault = none) :
    f.payload.length ≤ c.decoder.maxFrameLen ∧
      ∃ o c1, c.decodeFrame f.bytes = (.ok o, c1) ∧ ((reader S).run c1 rest).fault = none := by
  by_cases hlen : f.payload.length ≤ c.decoder.maxFrameLen
  · refine ⟨hlen, ?_⟩
    cases hdec : c.decodeFrame f.bytes with
    | mk res c1 =>
        cases res with
        | error e =>
            have hround := round_frame hd f rest hlen
            rw [hdec] at hround
            rw [Incremental.Reader.run_fail hround] at h
            cases h
        | ok o =>
            rw [run_frame hd f rest hlen hdec] at h
            exact ⟨o, c1, rfl, h⟩
  · have hround : c.round (f.bytes ++ rest) = .fail (.err .maxFrameSize) c (f.bytes ++ rest) := by
      unfold round
      rw [FrameDecoder.decode_frame hd, if_pos (Nat.not_le.mp hlen)]
    rw [Incremental.Reader.run_fail hround] at h
    cases h

theorem decodeFrame_headers {f : RawFrame} (hp : c.pending = none) (hk : f.head.kind = .headers) :
    c.decodeFrame f.bytes = c.decodeHeaders f.head f.payload := by
  have hpush := f.not_push (by rw [hk]; decide)
  unfold decodeFrame
  dsimp only
  rw [hpush, hp, show (Wire.Head.parse f.bytes).kind = .headers from hk]
  rfl

theorem decodeFrame_continuation {f : RawFrame} {p : Partial} (hp : c.pending = some p)
    (hk : f.head.kind = .continuation) :
    c.decodeFrame f.bytes = { c with pending := none }.decodeContinuation p f.head f.payload := by
  have hpush := f.not_push (by rw [hk]; decide)
  unfold decodeFrame
  dsimp only
  rw [hpush, hp, show (Wire.Head.parse f.bytes).kind = .continuation from hk]
  rfl

end Codec

/-! ## Continuations -/

namespace Partial

variable {c : Codec S}

/-- A fragment that the limits on a block that is not complete let through. -/
structure Fits (p : Partial) (c : Codec S) (fragment : Bytes) : Prop where
  count : c.decoderMaxHeaderContinuations = 0 ∨ p.count < c.decoderMaxHeaderContinuations
  size : p.buf.length + fragment.length ≤ c.decoderMaxHeaderListSize

/-- The block with a further fragment. -/
def grow (p : Partial) (c : Codec S) (fragment : Bytes) : Partial where
  streamId := p.streamId
  flags := p.flags
  buf := p.buf ++ fragment
  count := if c.decoderMaxHeaderContinuations > 0 then p.count + 1 else p.count
  error := p.error

end Partial

namespace Codec

variable {c : Codec S} {p : Partial} {head : Wire.Head} {fragment : Bytes}

theorem decodeContinuation_fits (hid : p.streamId = head.streamId) (h : p.Fits c fragment) :
    c.decodeContinuation p head fragment =
      if head.flag &&& 0x4 == 0x4 then
        c.finishBlock (.fromHead p.streamId p.flags) p.error (p.buf ++ fragment)
      else (.ok none, { c with pending := some (p.grow c fragment) }) := by
  unfold decodeContinuation Partial.grow
  rw [if_neg (not_not_intro hid)]
  dsimp only
  have hsize := Nat.not_lt.mpr h.size
  by_cases hpos : c.decoderMaxHeaderContinuations > 0
  · have hcount : ¬p.count + 1 > c.decoderMaxHeaderContinuations := by
      have := h.count
      omega
    rw [decide_eq_true hpos, if_pos rfl, if_pos hpos]
    dsimp only
    rw [decide_eq_false hcount, if_neg (by decide), if_neg hsize]
  · rw [decide_eq_false hpos, Bool.false_and, if_neg Bool.false_ne_true,
      if_neg Bool.false_ne_true, if_neg hsize, if_neg hpos]

theorem decodeContinuation_ok {o : Option (Wire.Frame S)} {c1 : Codec S}
    (h : c.decodeContinuation p head fragment = (.ok o, c1)) : p.Fits c fragment := by
  unfold decodeContinuation at h
  split at h
  · cases congrArg Prod.fst h
  · dsimp only at h
    by_cases hpos : c.decoderMaxHeaderContinuations > 0
    · rw [decide_eq_true hpos, if_pos rfl, Bool.true_and] at h
      dsimp only at h
      split at h
      · cases congrArg Prod.fst h
      · next hcount =>
          split at h
          · cases congrArg Prod.fst h
          · next hsize =>
              have hle := of_decide_eq_false (Bool.eq_false_iff.mpr hcount)
              exact ⟨.inr (Nat.not_lt.mp hle), Nat.not_lt.mp hsize⟩
    · rw [decide_eq_false hpos, Bool.false_and, if_neg Bool.false_ne_true,
        if_neg Bool.false_ne_true] at h
      split at h
      · cases congrArg Prod.fst h
      · next hsize => exact ⟨.inl (Nat.eq_zero_of_not_pos hpos), Nat.not_lt.mp hsize⟩

end Codec

/-! ## Whole blocks -/

theorem or_of_and {x y : UInt8} (h : x &&& y = y) : x ||| y = x := by
  rw [← h]
  apply UInt8.toBitVec_inj.1
  ext i
  rw [UInt8.toBitVec_or, UInt8.toBitVec_and, BitVec.getElem_or, BitVec.getElem_and]
  cases x.toBitVec[i] with
  | true => rfl
  | false => rfl

/-- The last of the frames, and no other, ends the block. -/
def RawFrame.Ended : List RawFrame → Prop
  | [] => False
  | [f] => f.has Wire.Headers.endHeaders = true
  | f :: g :: fs => f.has Wire.Headers.endHeaders = false ∧ Ended (g :: fs)

theorem RawFrame.Ended.cons {f : RawFrame} {fs : List RawFrame}
    (hf : f.has Wire.Headers.endHeaders = false) (h : Ended fs) : Ended (f :: fs) := by
  cases fs with
  | nil => exact h.elim
  | cons g gs => exact ⟨hf, h⟩

/-- A complete header block: a HEADERS frame, whose payload has the parts its flags announce, and
the CONTINUATION frames behind it. -/
structure Block where
  headers : RawFrame
  padding : Bytes
  priority : Bytes
  fragment : Bytes
  continuations : List RawFrame
  kind : headers.head.kind = .headers
  payload : headers.payload =
    (if headers.has Wire.Headers.padded then [UInt8.ofNat padding.length] else []) ++
      (priority ++ (fragment ++ padding))
  padding_le : padding.length ≤ if headers.has Wire.Headers.padded then 255 else 0
  priority_length : priority.length = if headers.has Wire.Headers.priority then 5 else 0
  continued : ∀ f ∈ continuations,
    f.head.kind = .continuation ∧ f.head.streamId = headers.head.streamId
  ended : RawFrame.Ended (headers :: continuations)

namespace Block

/-- The stream of the block. -/
def streamId (b : Block) : StreamId := b.headers.head.streamId

/-- What the header table decodes. -/
def content (b : Block) : Bytes := b.fragment ++ b.continuations.flatMap (·.payload)

/-- The block as it arrives. -/
def octets (b : Block) : Bytes := b.headers.bytes ++ b.continuations.flatMap (·.bytes)

/-- The flags that the decoder keeps. -/
def flags (b : Block) : UInt8 := b.headers.head.flag &&& Wire.Headers.all

theorem flags_and (b : Block) (flag : UInt8) (h : Wire.Headers.all &&& flag = flag) :
    (b.flags &&& flag == flag) = b.headers.has flag := by
  unfold flags RawFrame.has
  rw [UInt8.and_assoc, h]

/-- The end of the stream is kept. -/
theorem isEndStream (b : Block) :
    ((b.flags ||| Wire.Headers.endHeaders) &&& Wire.Headers.endStream == Wire.Headers.endStream) =
      b.headers.has Wire.Headers.endStream := by
  have hor : (b.flags ||| Wire.Headers.endHeaders) &&& Wire.Headers.endStream =
      b.flags &&& Wire.Headers.endStream ||| Wire.Headers.endHeaders &&& Wire.Headers.endStream :=
    UInt8.toBitVec_inj.1 BitVec.and_or_distrib_right
  rw [hor, ← b.flags_and _ (by decide)]
  show (b.flags &&& Wire.Headers.endStream ||| 0 == _) = _
  rw [UInt8.or_zero]

theorem loadPad (b : Block) :
    Wire.Headers.loadPad b.flags b.headers.payload =
      .ok (b.padding.length, b.priority ++ (b.fragment ++ b.padding)) := by
  have hle := b.padding_le
  unfold Wire.Headers.loadPad
  rw [b.flags_and _ (by decide), b.payload]
  split
  · next h =>
      rw [if_pos h] at hle
      show Except.ok ((UInt8.ofNat b.padding.length).toNat, _) = _
      rw [UInt8.toNat_ofNat_of_lt' (by show _ < 256; omega)]
      rfl
  · next h =>
      rw [if_neg h] at hle
      rw [Nat.le_zero.mp hle]
      rfl

/-- The stream depends on itself. -/
def selfDependency (b : Block) : Bool :=
  b.headers.has Wire.Headers.priority && (StreamId.parse (b.priority.take 4)).1 == b.streamId

theorem loadDependency (b : Block) :
    Wire.Headers.loadDependency b.flags b.streamId (b.priority ++ (b.fragment ++ b.padding)) =
      .ok (b.selfDependency, b.fragment ++ b.padding) := by
  have hlen := b.priority_length
  unfold Wire.Headers.loadDependency selfDependency
  rw [b.flags_and _ (by decide)]
  split
  · next h =>
      rw [if_pos h] at hlen
      rw [if_neg (by rw [List.length_append]; omega), ← hlen, List.take_left, List.drop_left, h]
      unfold Wire.StreamDependency.load
      rw [if_neg (by rw [hlen]; decide)]
      rfl
  · next h =>
      rw [if_neg h] at hlen
      rw [List.eq_nil_of_length_eq_zero hlen, Bool.eq_false_iff.mpr h]
      rfl

/-- Padding and the stream dependency are taken off the fragment. -/
theorem loadHead (b : Block) (h : StreamId.isZero b.streamId = false) :
    Wire.Headers.loadHead S b.headers.head b.headers.payload =
      .ok (⟨b.streamId, .default S, [], b.flags⟩, b.selfDependency, b.fragment) := by
  have hdep := b.loadDependency
  have hpad := b.loadPad
  have hle : ¬b.padding.length > (b.fragment ++ b.padding).length := by
    rw [List.length_append]
    omega
  have htake : (b.fragment ++ b.padding).length - b.padding.length = b.fragment.length := by
    rw [List.length_append, Nat.add_sub_cancel]
  unfold Wire.Headers.loadHead
  unfold flags at hdep hpad
  unfold streamId at hdep h
  dsimp only
  rw [h, hpad]
  show (Wire.Headers.loadDependency (b.headers.head.flag &&& Wire.Headers.all) _ _ >>= _) = _
  rw [hdep]
  dsimp only [bind, Except.bind]
  rw [if_neg hle, htake, List.take_left]
  rfl

theorem loadHead_zero (b : Block) (h : StreamId.isZero b.streamId = true) :
    Wire.Headers.loadHead S b.headers.head b.headers.payload = .error .invalidStreamId := by
  unfold Wire.Headers.loadHead
  unfold streamId at h
  dsimp only
  rw [h]
  rfl

/-- The error of a stream that depends on itself. -/
def error (b : Block) : Option FrameError :=
  if b.selfDependency then some .invalidDependencyId else none

theorem error_none {b : Block} (h : b.headers.has Wire.Headers.priority = false) :
    b.error = none := by
  unfold error selfDependency
  rw [h]
  rfl

/-- The block behind its HEADERS frame. -/
def start (b : Block) : Partial := ⟨b.streamId, b.flags, b.fragment, 0, b.error⟩

end Block

namespace Codec

variable {c : Codec S}

/-- Neither a frame nor a header block is pending. -/
structure Idle (c : Codec S) : Prop where
  block : c.pending = none
  frame : c.decoder.pending = none

/-- CONTINUATION frames that the limits let through, behind a block of a size and with a number of
them before. -/
structure Within (c : Codec S) (count size : Nat) (fs : List RawFrame) : Prop where
  frames : ∀ f ∈ fs, f.payload.length ≤ c.decoder.maxFrameLen
  count : c.decoderMaxHeaderContinuations = 0 ∨
    count + fs.length ≤ c.decoderMaxHeaderContinuations
  size : size + (fs.flatMap (·.payload)).length ≤ c.decoderMaxHeaderListSize

/-- The limit on their number is inert where it is zero. -/
theorem grow_count (p : Partial) (c : Codec S) (fragment : Bytes) (k : Nat) :
    (c.decoderMaxHeaderContinuations = 0 ∨
      (p.grow c fragment).count + k ≤ c.decoderMaxHeaderContinuations) ↔
    (c.decoderMaxHeaderContinuations = 0 ∨
      p.count + (k + 1) ≤ c.decoderMaxHeaderContinuations) := by
  unfold Partial.grow
  dsimp only
  split
  · omega
  · omega

theorem Within.head {p : Partial} {f : RawFrame} {fs : List RawFrame}
    (h : c.Within p.count p.buf.length (f :: fs)) :
    f.payload.length ≤ c.decoder.maxFrameLen ∧ p.Fits c f.payload := by
  have hcount := h.count
  have hsize := h.size
  rw [List.length_cons] at hcount
  rw [List.flatMap_cons, List.length_append] at hsize
  exact ⟨h.frames f List.mem_cons_self, ⟨by omega, by omega⟩⟩

theorem Within.tail {p : Partial} {f : RawFrame} {fs : List RawFrame}
    (h : c.Within p.count p.buf.length (f :: fs)) :
    c.Within (p.grow c f.payload).count (p.grow c f.payload).buf.length fs := by
  have hsize := h.size
  rw [List.flatMap_cons, List.length_append] at hsize
  refine ⟨fun g hg => h.frames g (List.mem_cons_of_mem _ hg), (grow_count p c _ _).mpr h.count, ?_⟩
  show (p.buf ++ f.payload).length + _ ≤ _
  rw [List.length_append]
  omega

theorem Within.cons {p : Partial} {f : RawFrame} {fs : List RawFrame}
    (hlen : f.payload.length ≤ c.decoder.maxFrameLen)
    (h : c.Within (p.grow c f.payload).count (p.grow c f.payload).buf.length fs) :
    c.Within p.count p.buf.length (f :: fs) := by
  have hsize : (p.buf ++ f.payload).length + _ ≤ _ := h.size
  rw [List.length_append] at hsize
  refine ⟨List.forall_mem_cons.mpr ⟨hlen, h.frames⟩, (grow_count p c _ _).mp h.count, ?_⟩
  rw [List.flatMap_cons, List.length_append]
  omega

theorem Within.last {p : Partial} {f : RawFrame} (hlen : f.payload.length ≤ c.decoder.maxFrameLen)
    (h : p.Fits c f.payload) : c.Within p.count p.buf.length [f] := by
  have hcount := h.count
  refine ⟨List.forall_mem_singleton.mpr hlen, ?_, ?_⟩
  · rw [List.length_singleton]
    omega
  · rw [List.flatMap_singleton]
    exact h.size

/-- The frames go on the block of a partial. -/
def Continues (p : Partial) (fs : List RawFrame) : Prop :=
  ∀ f ∈ fs, f.head.kind = .continuation ∧ f.head.streamId = p.streamId

/-- A CONTINUATION frame of the pending block. -/
theorem decodeFrame_continued {p : Partial} {f : RawFrame} {fs : List RawFrame}
    (hf : Continues p (f :: fs)) (h : p.Fits c f.payload) :
    { c with pending := some p }.decodeFrame f.bytes =
      if f.has Wire.Headers.endHeaders then
        { c with pending := none }.finishBlock (.fromHead p.streamId p.flags) p.error
          (p.buf ++ f.payload)
      else (.ok none, { c with pending := some (p.grow c f.payload) }) := by
  obtain ⟨hkind, hid⟩ := hf f List.mem_cons_self
  have hfits : p.Fits { c with pending := none } f.payload := ⟨h.count, h.size⟩
  rw [decodeFrame_continuation rfl hkind]
  exact decodeContinuation_fits hid.symm hfits

/-- CONTINUATION frames up to the end of the block. -/
theorem run_continuations (hd : c.decoder.pending = none) {u : Unit} {s : Hpack.DecodeState S}
    (rest : Bytes) (fs : List RawFrame) : ∀ p : Partial, Continues p fs → RawFrame.Ended fs →
      c.Within p.count p.buf.length fs →
      c.decoderHpack.decode ⟨p.buf ++ fs.flatMap (·.payload), 0⟩ = .ok u s →
      (reader S).run { c with pending := some p } (fs.flatMap (·.bytes) ++ rest) =
        ((reader S).run { c with pending := none, decoderHpack := s.decoder } rest).after
          [blockItem p.error ((c.load s.calls).finish (.fromHead p.streamId p.flags))] := by
  induction fs with
  | nil => exact fun _ _ hended => hended.elim
  | cons f fs ih =>
      intro p hfs hended hw hdec
      have hd' : (Codec.decoder { c with pending := some p }).pending = none := hd
      obtain ⟨hlen, hfits⟩ := hw.head
      have hframe := decodeFrame_continued hfs hfits
      rw [List.flatMap_cons, List.append_assoc]
      cases fs with
      | nil =>
          have hend : f.has Wire.Headers.endHeaders = true := hended
          rw [List.flatMap_singleton] at hdec
          have hdec' : (Codec.decoderHpack { c with pending := none }).decode
            ⟨p.buf ++ f.payload, 0⟩ = .ok u s := hdec
          rw [hend, if_pos rfl, finishBlock_ok hdec'] at hframe
          exact run_frame hd' f rest hlen hframe
      | cons g gs =>
          have hend : f.has Wire.Headers.endHeaders = false := hended.1
          rw [List.flatMap_cons, ← List.append_assoc] at hdec
          rw [hend, if_neg Bool.false_ne_true] at hframe
          rw [run_frame hd' f _ hlen hframe]
          exact ih (p.grow c f.payload) (fun x hx => hfs x (List.mem_cons_of_mem _ hx)) hended.2
            hw.tail hdec

/-- CONTINUATION frames that do not fail are within the limits, and the header table can decode
their block. -/
theorem within_of_ok (hd : c.decoder.pending = none) (rest : Bytes) (fs : List RawFrame) :
    ∀ p : Partial, Continues p fs → RawFrame.Ended fs →
      ((reader S).run { c with pending := some p } (fs.flatMap (·.bytes) ++ rest)).fault = none →
      c.Within p.count p.buf.length fs ∧
        ∃ u s, c.decoderHpack.decode ⟨p.buf ++ fs.flatMap (·.payload), 0⟩ = .ok u s := by
  induction fs with
  | nil => exact fun _ _ hended => hended.elim
  | cons f fs ih =>
      intro p hfs hended hfault
      have hd' : (Codec.decoder { c with pending := some p }).pending = none := hd
      rw [List.flatMap_cons, List.append_assoc] at hfault
      obtain ⟨hlen, o, c1, hframe, hfault⟩ := run_frame_of_ok hd' f _ hfault
      have hcont := hframe
      rw [decodeFrame_continuation rfl (hfs f List.mem_cons_self).1] at hcont
      obtain ⟨hcount, hsize⟩ := decodeContinuation_ok hcont
      have hfits : p.Fits c f.payload := ⟨hcount, hsize⟩
      rw [decodeFrame_continued hfs hfits] at hframe
      cases fs with
      | nil =>
          have hend : f.has Wire.Headers.endHeaders = true := hended
          rw [hend, if_pos rfl] at hframe
          refine ⟨.last hlen hfits, ?_⟩
          rw [List.flatMap_singleton]
          cases hdec : c.decoderHpack.decode ⟨p.buf ++ f.payload, 0⟩ with
          | ok u s => exact ⟨u, s, rfl⟩
          | error e s =>
              have hdec' : (Codec.decoderHpack { c with pending := none }).decode
                ⟨p.buf ++ f.payload, 0⟩ = .error e s := hdec
              obtain ⟨e', he'⟩ := finishBlock_error hdec' (.fromHead p.streamId p.flags) p.error
              rw [he'] at hframe
              cases congrArg Prod.fst hframe
      | cons g gs =>
          have hend : f.has Wire.Headers.endHeaders = false := hended.1
          rw [hend, if_neg Bool.false_ne_true] at hframe
          cases hframe
          obtain ⟨hw, hdec⟩ := ih (p.grow c f.payload)
            (fun x hx => hfs x (List.mem_cons_of_mem _ hx)) hended.2 hfault
          rw [List.flatMap_cons, ← List.append_assoc]
          exact ⟨hw.cons hlen, hdec⟩

/-- A block that the limits let through. -/
structure Accepts (c : Codec S) (b : Block) : Prop where
  stream : StreamId.isZero b.streamId = false
  headers : b.headers.payload.length ≤ c.decoder.maxFrameLen
  continuations : b.continuations = [] ∨ c.Within 0 b.fragment.length b.continuations

theorem continues (b : Block) : Continues b.start b.continuations := b.continued

/-- The HEADERS frame of a block. -/
theorem decodeFrame_block (hc : c.Idle) (b : Block) (h : StreamId.isZero b.streamId = false) :
    c.decodeFrame b.headers.bytes =
      if b.headers.has Wire.Headers.endHeaders then
        c.finishBlock (.fromHead b.streamId b.flags) b.error b.fragment
      else (.ok none, { c with pending := some b.start }) := by
  have hend := b.flags_and Wire.Headers.endHeaders (by decide)
  rw [decodeFrame_headers hc.block b.kind]
  unfold decodeHeaders
  rw [b.loadHead h]
  show (if (b.flags &&& Wire.Headers.endHeaders == Wire.Headers.endHeaders) = true
    then _ else _) = _
  split
  · next hflag =>
      have hsame : b.flags ||| Wire.Headers.endHeaders = b.flags :=
        or_of_and (beq_iff_eq.mp hflag)
      rw [← hend, if_pos hflag]
      unfold Wire.Headers.fromHead
      rw [hsame]
      rfl
  · next hflag =>
      rw [← hend, if_neg hflag]
      rfl

theorem Idle.decoded (hc : c.Idle) (d : Hpack.Decoder S) :
    { c with pending := none, decoderHpack := d } = { c with decoderHpack := d } := by
  obtain ⟨_, _, _, _, _, _, _, pending⟩ := c
  cases hc.block
  rfl

/-- A block that is decoded gives one frame. -/
theorem run_block (hc : c.Idle) {b : Block} (ha : c.Accepts b) {u : Unit}
    {s : Hpack.DecodeState S} (hdec : c.decoderHpack.decode ⟨b.content, 0⟩ = .ok u s)
    (rest : Bytes) :
    (reader S).run c (b.octets ++ rest) =
      ((reader S).run { c with decoderHpack := s.decoder } rest).after
        [blockItem b.error ((c.load s.calls).finish (.fromHead b.streamId b.flags))] := by
  have hframe := decodeFrame_block hc b ha.stream
  have hended := b.ended
  unfold Block.octets
  unfold Block.content at hdec
  rw [List.append_assoc]
  cases hfs : b.continuations with
  | nil =>
      rw [hfs] at hended hdec
      have hend : b.headers.has Wire.Headers.endHeaders = true := hended
      rw [List.flatMap_nil, List.append_nil] at hdec
      rw [hend, if_pos rfl, finishBlock_ok hdec] at hframe
      exact run_frame hc.frame b.headers rest ha.headers hframe
  | cons f fs =>
      have hw := ha.continuations
      have hcont := continues b
      rw [hfs] at hended hdec hw hcont
      have hend : b.headers.has Wire.Headers.endHeaders = false := hended.1
      rw [hend, if_neg Bool.false_ne_true] at hframe
      rw [run_frame hc.frame b.headers _ ha.headers hframe]
      have hrun := run_continuations hc.frame rest (f :: fs) b.start hcont hended.2
        (hw.resolve_left (List.cons_ne_nil f fs)) hdec
      rw [hc.decoded] at hrun
      exact hrun

/-- A block that does not fail is within the limits, and the header table can decode it. -/
theorem accepts_of_ok (hc : c.Idle) (b : Block) (rest : Bytes)
    (h : ((reader S).run c (b.octets ++ rest)).fault = none) :
    c.Accepts b ∧ ∃ u s, c.decoderHpack.decode ⟨b.content, 0⟩ = .ok u s := by
  have hended := b.ended
  unfold Block.octets at h
  rw [List.append_assoc] at h
  obtain ⟨hlen, o, c1, hframe, hfault⟩ := run_frame_of_ok hc.frame b.headers _ h
  have hid : StreamId.isZero b.streamId = false := by
    refine Bool.eq_false_iff.mpr fun hzero => ?_
    rw [decodeFrame_headers hc.block b.kind] at hframe
    unfold decodeHeaders at hframe
    rw [b.loadHead_zero hzero] at hframe
    cases congrArg Prod.fst hframe
  rw [decodeFrame_block hc b hid] at hframe
  unfold Block.content
  cases hfs : b.continuations with
  | nil =>
      rw [hfs] at hended
      have hend : b.headers.has Wire.Headers.endHeaders = true := hended
      rw [hend, if_pos rfl] at hframe
      refine ⟨⟨hid, hlen, .inl hfs⟩, ?_⟩
      rw [List.flatMap_nil, List.append_nil]
      cases hdec : c.decoderHpack.decode ⟨b.fragment, 0⟩ with
      | ok u s => exact ⟨u, s, rfl⟩
      | error e s =>
          obtain ⟨e', he'⟩ := finishBlock_error hdec (.fromHead b.streamId b.flags) b.error
          rw [he'] at hframe
          cases congrArg Prod.fst hframe
  | cons f fs =>
      have hcont := continues b
      rw [hfs] at hended hfault hcont
      have hend : b.headers.has Wire.Headers.endHeaders = false := hended.1
      rw [hend, if_neg Bool.false_ne_true] at hframe
      cases hframe
      obtain ⟨hw, hdec⟩ := within_of_ok hc.frame rest (f :: fs) b.start hcont hended.2 hfault
      exact ⟨⟨hid, hlen, .inr (by rw [hfs]; exact hw)⟩, hdec⟩

end Codec

end NtexH2
