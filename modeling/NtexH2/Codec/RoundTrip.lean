/-
  Codec/RoundTrip.lean --- what one codec writes, another reads (src/codec/mod.rs).

  A frame that is written with the length of its payload is cut off whole by the reader
  and loaded again.  A header block is written as one HEADERS frame and as many
  CONTINUATION frames as its length needs; they form a block in the sense of
  `Codec/Blocks.lean`, whose content is what the header table wrote.
-/
import NtexH2.Codec.Blocks
import NtexH2.Codec.FrameSizes
import NtexH2.Wire.HeaderList

set_option autoImplicit false

namespace NtexH2

open Lib

variable {S : HttpSyntax}

/-! ## Written frames as they arrive -/

namespace Wire.Written

theorem length_octets (w : Written) : w.octets.length = headerLen + w.payload.length := by
  unfold octets
  rw [List.length_append, Head.length_encode]

/-- A frame whose length field counts its payload, as it arrives. -/
theorem arrives {w : Written} (h : w.lengthField = w.payload.length)
    (hid : w.head.streamId < 2 ^ 31) :
    ∃ f : RawFrame, f.bytes = w.octets ∧ f.head = w.head ∧ f.payload = w.payload := by
  have hfield : BigEndian.read (w.octets.take 3) = w.payload.length := h
  have hoctets := w.length_octets
  exact ⟨⟨w.octets, by omega, by omega⟩, rfl, Head.parse_encode hid _ _,
    List.drop_left' (w.head.length_encode _)⟩

/-- A frame that is written with the length of its payload. -/
theorem arrives_of_len (head : Head) {payload : Bytes} (len : Nat) (hid : head.streamId < 2 ^ 31)
    (hlen : len = payload.length) (hlt : payload.length < 2 ^ 24) :
    ∃ f : RawFrame, f.bytes = (⟨head, len, payload⟩ : Written).octets ∧ f.head = head ∧
      f.payload = payload := by
  refine @arrives ⟨head, len, payload⟩ ?_ hid
  rw [lengthField_eq, hlen, Nat.mod_eq_of_lt hlt]

end Wire.Written

/-! ## Header blocks -/

theorem xor_and (x y z : UInt8) : (x ^^^ y) &&& z = x &&& z ^^^ y &&& z := by
  apply UInt8.toBitVec_inj.1
  ext i
  simp only [UInt8.toBitVec_and, UInt8.toBitVec_xor, BitVec.getElem_and, BitVec.getElem_xor]
  exact Bool.and_xor_distrib_right _ _ _

theorem xor_and_of_disjoint {x y z : UInt8} (h : y &&& z = 0) : (x ^^^ y) &&& z = x &&& z := by
  rw [xor_and, h, UInt8.xor_zero]

theorem xor_and_self {x y : UInt8} (h : x &&& y = y) : (x ^^^ y) &&& y = 0 := by
  rw [xor_and, h, UInt8.and_self, UInt8.xor_self]

/-- CONTINUATION frames with a part of a block. -/
structure Carries (id : StreamId) (maxSize : Nat) (part : Bytes) (fs : List RawFrame) : Prop where
  frames : ∀ f ∈ fs, f.head.kind = .continuation ∧ f.head.streamId = id
  sizes : ∀ f ∈ fs, f.payload.length ≤ maxSize
  ended : RawFrame.Ended fs
  content : fs.flatMap (·.payload) = part
  count : fs.length = (part.length - 1) / maxSize + 1

theorem fragment_append (hpack : Bytes) {start stop : Nat} (h : start ≤ stop) :
    (hpack.take stop).drop start ++ hpack.drop stop = hpack.drop start := by
  rw [List.drop_take]
  obtain ⟨k, rfl⟩ := Nat.exists_eq_add_of_le h
  rw [Nat.add_sub_cancel_left, ← List.drop_drop, List.take_append_drop]

/-- The last CONTINUATION frame. -/
theorem Carries.last {id : StreamId} {maxSize : Nat} {part : Bytes} {f : RawFrame}
    (hkind : f.head = ⟨.continuation, Wire.Headers.endHeaders, id⟩) (hpayload : f.payload = part)
    (hpos : 0 < part.length) (hle : part.length ≤ maxSize) : Carries id maxSize part [f] where
  frames := List.forall_mem_singleton.mpr (by rw [hkind]; exact ⟨rfl, rfl⟩)
  sizes := List.forall_mem_singleton.mpr (by rw [hpayload]; exact hle)
  ended := by
    show f.has Wire.Headers.endHeaders = true
    unfold RawFrame.has
    rw [hkind]
    exact beq_iff_eq.mpr (by decide : Wire.Headers.endHeaders &&& Wire.Headers.endHeaders = _)
  content := by
    rw [List.flatMap_singleton, hpayload]
  count := by
    rw [Nat.div_eq_of_lt (by omega)]
    rfl

/-- A CONTINUATION frame before others. -/
theorem Carries.cons {id : StreamId} {maxSize : Nat} {part : Bytes} {f : RawFrame}
    {fs : List RawFrame} (hkind : f.head = ⟨.continuation, 0, id⟩)
    (hlen : f.payload.length = maxSize) (hpos : 0 < part.length) (hmax : 0 < maxSize)
    (h : Carries id maxSize part fs) : Carries id maxSize (f.payload ++ part) (f :: fs) where
  frames := List.forall_mem_cons.mpr ⟨by rw [hkind]; exact ⟨rfl, rfl⟩, h.frames⟩
  sizes := List.forall_mem_cons.mpr ⟨Nat.le_of_eq hlen, h.sizes⟩
  ended := by
    refine .cons ?_ h.ended
    unfold RawFrame.has
    rw [hkind]
    exact beq_eq_false_iff_ne.mpr (by decide : (0 : UInt8) &&& Wire.Headers.endHeaders ≠ _)
  content := by
    rw [List.flatMap_cons, h.content]
  count := by
    have hsub : (f.payload ++ part).length - 1 = part.length - 1 + maxSize := by
      rw [List.length_append]
      omega
    rw [List.length_cons, h.count, hsub, Nat.add_div_right _ hmax]

/-- The rest of a block is written as CONTINUATION frames. -/
theorem splitBlock_carries {hpack : Bytes} {maxSize : Nat} {id : StreamId} (hpos : 0 < maxSize)
    (hmax : maxSize < 2 ^ 24) (hid : id < 2 ^ 31) (fuel : Nat) : ∀ start, start < hpack.length →
    hpack.length - start ≤ fuel →
    ∃ frames fs, Wire.splitBlock hpack maxSize fuel ⟨.continuation, Wire.Headers.endHeaders, id⟩
        start = .ok frames ∧ frames.flatMap (·.octets) = fs.flatMap (·.bytes) ∧
      Carries id maxSize (hpack.drop start) fs := by
  induction fuel with
  | zero =>
      intro start hlt hfuel
      omega
  | succ fuel ih =>
      intro start hlt hfuel
      unfold Wire.splitBlock
      dsimp only
      have hfrag := @Wire.length_fragment hpack start _
        (Nat.min_le_right (start + maxSize) hpack.length)
      have hrest : (hpack.drop start).length = hpack.length - start := List.length_drop
      split
      · next hmore =>
          have hstop : min (start + maxSize) hpack.length = start + maxSize := by omega
          rw [hstop] at hfrag hmore ⊢
          obtain ⟨frames, fs, hsplit, hoctets, hcarries⟩ :=
            ih (start + maxSize) (by omega) (by omega)
          obtain ⟨f, hbytes, hhead, hpayload⟩ := Wire.Written.arrives_of_len
            ⟨.continuation, 0, id⟩ maxSize hid (by rw [hfrag]; omega)
            (by rw [hfrag]; omega)
          refine ⟨_, f :: fs, by rw [hsplit]; rfl, ?_, ?_⟩
          · rw [List.flatMap_cons, List.flatMap_cons, hoctets, hbytes]
            rfl
          · rw [← fragment_append hpack (Nat.le_add_right start maxSize), ← hpayload]
            refine hcarries.cons hhead (by rw [hpayload, hfrag]; omega) ?_ hpos
            rw [List.length_drop]
            omega
      · next hlast =>
          have hstop : min (start + maxSize) hpack.length = hpack.length := by omega
          rw [hstop] at hfrag ⊢
          rw [List.take_length] at hfrag ⊢
          obtain ⟨f, hbytes, hhead, hpayload⟩ := Wire.Written.arrives_of_len
            ⟨.continuation, Wire.Headers.endHeaders, id⟩ (hpack.length - start) hid
            hfrag.symm (by rw [hfrag]; omega)
          refine ⟨_, [f], rfl, ?_, .last hhead hpayload (by omega) (by omega)⟩
          rw [List.flatMap_singleton, List.flatMap_singleton, hbytes]

/-- How a header block is split into frames. -/
structure Splits (id : StreamId) (flags : UInt8) (maxSize : Nat) (hpack : Bytes) (b : Block) :
    Prop where
  streamId : b.streamId = id
  content : b.content = hpack
  error : b.error = none
  endStream : b.headers.has Wire.Headers.endStream =
    (flags &&& Wire.Headers.endStream == Wire.Headers.endStream)
  headers : b.headers.payload.length ≤ maxSize
  fragment : b.fragment = hpack.take maxSize
  continuations : ∀ f ∈ b.continuations, f.payload.length ≤ maxSize
  count : b.continuations.length = (hpack.length - 1) / maxSize

/-- A HEADERS frame without padding and without a stream dependency, and the frames behind it. -/
theorem splits_of_frames {id : StreamId} {flags flags' : UInt8} {maxSize : Nat} {hpack : Bytes}
    {f : RawFrame} {fs : List RawFrame} (hhead : f.head = ⟨.headers, flags', id⟩)
    (hpayload : f.payload = hpack.take maxSize)
    (hpad : (flags' &&& Wire.Headers.padded == Wire.Headers.padded) = false)
    (hprio : (flags' &&& Wire.Headers.priority == Wire.Headers.priority) = false)
    (hend : flags' &&& Wire.Headers.endStream = flags &&& Wire.Headers.endStream)
    (hfs : ∀ g ∈ fs, g.head.kind = .continuation ∧ g.head.streamId = id)
    (hended : RawFrame.Ended (f :: fs)) (hsizes : ∀ g ∈ fs, g.payload.length ≤ maxSize)
    (hrest : fs.flatMap (·.payload) = hpack.drop maxSize)
    (hcount : fs.length = (hpack.length - 1) / maxSize) :
    ∃ b : Block, b.headers = f ∧ b.continuations = fs ∧ Splits id flags maxSize hpack b := by
  have hpadded : f.has Wire.Headers.padded = false := by
    unfold RawFrame.has
    rw [hhead]
    exact hpad
  have hpriority : f.has Wire.Headers.priority = false := by
    unfold RawFrame.has
    rw [hhead]
    exact hprio
  have hid : f.head.streamId = id := by rw [hhead]
  refine ⟨{ headers := f
            padding := []
            priority := []
            fragment := f.payload
            continuations := fs
            kind := by rw [hhead]
            payload := by
              rw [hpadded, if_neg Bool.false_ne_true, List.append_nil, List.nil_append,
                List.nil_append]
            padding_le := Nat.zero_le _
            priority_length := by rw [hpriority]; rfl
            continued := by rw [hid]; exact hfs
            ended := hended }, rfl, rfl, ?_⟩
  refine ⟨hid, ?_, Block.error_none hpriority, ?_, ?_, hpayload, hsizes, hcount⟩
  · show f.payload ++ fs.flatMap (·.payload) = hpack
    rw [hpayload, hrest, List.take_append_drop]
  · unfold RawFrame.has
    dsimp only
    rw [hhead]
    dsimp only
    rw [hend]
  · show f.payload.length ≤ maxSize
    rw [hpayload]
    exact List.length_take_le _ _

/-- A header block is written as a block. -/
theorem splitBlock_splits {hpack : Bytes} {maxSize : Nat} {id : StreamId} {flags : UInt8}
    (hpos : 0 < maxSize) (hmax : maxSize < 2 ^ 24) (hid : id < 2 ^ 31)
    (hend : flags &&& Wire.Headers.endHeaders = Wire.Headers.endHeaders)
    (hpad : (flags &&& Wire.Headers.padded == Wire.Headers.padded) = false)
    (hprio : (flags &&& Wire.Headers.priority == Wire.Headers.priority) = false) :
    ∃ frames b, Wire.splitBlock hpack maxSize (hpack.length + 1) ⟨.headers, flags, id⟩ 0 =
        .ok frames ∧ frames.flatMap (·.octets) = b.octets ∧ Splits id flags maxSize hpack b := by
  unfold Wire.splitBlock
  dsimp only
  rw [Nat.zero_add]
  split
  · next hmore =>
      have hstop : min maxSize hpack.length = maxSize := by omega
      rw [hstop] at hmore ⊢
      obtain ⟨frames, fs, hsplit, hoctets, hcarries⟩ :=
        splitBlock_carries hpos hmax hid hpack.length maxSize hmore (Nat.sub_le _ _)
      have hlen : (hpack.take maxSize).length = maxSize := by
        rw [List.length_take]
        exact hstop
      obtain ⟨f, hbytes, hhead, hpayload⟩ := Wire.Written.arrives_of_len
        ⟨.headers, flags ^^^ Wire.Headers.endHeaders, id⟩ maxSize hid hlen.symm (by omega)
      have hnot : f.has Wire.Headers.endHeaders = false := by
        unfold RawFrame.has
        rw [hhead]
        dsimp only
        rw [xor_and_self hend]
        decide
      have hcount : fs.length = (hpack.length - 1) / maxSize := by
        have hsub : hpack.length - 1 = (hpack.length - maxSize - 1) + maxSize := by omega
        rw [hcarries.count, List.length_drop, hsub, Nat.add_div_right _ hpos]
      obtain ⟨b, hheaders, hconts, hb⟩ := splits_of_frames hhead hpayload
        (by rw [xor_and_of_disjoint (by decide)]; exact hpad)
        (by rw [xor_and_of_disjoint (by decide)]; exact hprio)
        (xor_and_of_disjoint (x := flags) (by decide)) hcarries.frames (.cons hnot hcarries.ended)
        hcarries.sizes hcarries.content hcount
      refine ⟨_, b, by rw [hsplit]; rfl, ?_, hb⟩
      unfold Block.octets
      rw [hheaders, hconts, List.flatMap_cons, hoctets, hbytes]
      rfl
  · next hlast =>
      have hstop : min maxSize hpack.length = hpack.length := by omega
      rw [hstop, List.take_length, List.drop_zero, Nat.sub_zero]
      obtain ⟨f, hbytes, hhead, hpayload⟩ := Wire.Written.arrives_of_len ⟨.headers, flags, id⟩
        hpack.length hid rfl (by omega)
      have hended : RawFrame.Ended [f] := by
        show f.has Wire.Headers.endHeaders = true
        unfold RawFrame.has
        rw [hhead]
        exact beq_iff_eq.mpr hend
      have hle : hpack.length ≤ maxSize := by omega
      obtain ⟨b, hheaders, hconts, hb⟩ := splits_of_frames hhead
        (by rw [hpayload, List.take_of_length_le hle]) hpad hprio rfl (List.forall_mem_nil _) hended
        (List.forall_mem_nil _) (by rw [List.drop_of_length_le hle]; rfl)
        (by rw [Nat.div_eq_of_lt (by omega)]; rfl)
      refine ⟨_, b, rfl, ?_, hb⟩
      unfold Block.octets
      rw [hheaders, hconts, List.flatMap_singleton, List.flatMap_nil, List.append_nil, hbytes]

/-! ## Reading a header list -/

namespace Codec

open Wire (headerList)

variable {hash : Hpack.Name S → Nat} {peer : Codec S}

/-- The header tables of a writer and a reader are in step. -/
def InStep (hash : Hpack.Name S → Nat) (e : Hpack.Encoder S) (d : Hpack.Decoder S) : Prop :=
  (⟨e, d, []⟩ : Hpack.Link S).Agrees hash

theorem inStep_default (hash : Hpack.Name S → Nat) :
    InStep hash (default S).encoderHpack (default S).decoderHpack :=
  Hpack.Link.init_agrees hash

/-- The reader takes a block of this length that is split into frames of a size: it is one frame, or
the limits on CONTINUATION frames let it through. -/
def Takes (peer : Codec S) (maxSize len : Nat) : Prop :=
  len ≤ maxSize ∨
    (peer.decoderMaxHeaderContinuations = 0 ∨
        (len - 1) / maxSize ≤ peer.decoderMaxHeaderContinuations) ∧
      len ≤ peer.decoderMaxHeaderListSize

theorem accepts_iff {id : StreamId} {flags : UInt8} {maxSize : Nat} {hpack : Bytes} {b : Block}
    (hpos : 0 < maxSize) (hlen : maxSize ≤ peer.decoder.maxFrameLen)
    (hid : StreamId.isZero id = false) (hb : Splits id flags maxSize hpack b) :
    peer.Accepts b ↔ peer.Takes maxSize hpack.length := by
  have hsizes : ∀ f ∈ b.continuations, f.payload.length ≤ peer.decoder.maxFrameLen :=
    fun f hf => Nat.le_trans (hb.continuations f hf) hlen
  have hcontent : b.fragment.length + (b.continuations.flatMap (·.payload)).length =
      hpack.length := by
    rw [← hb.content, Block.content, List.length_append]
  have hone : b.continuations = [] ↔ hpack.length ≤ maxSize := by
    rw [← List.length_eq_zero_iff, hb.count, Nat.div_eq_zero_iff]
    omega
  constructor
  · intro h
    rcases h.continuations with hnil | hw
    · exact .inl (hone.mp hnil)
    · have hcount := hw.count
      rw [Nat.zero_add, hb.count] at hcount
      exact .inr ⟨hcount, by rw [← hcontent]; exact hw.size⟩
  · intro h
    refine ⟨by rw [hb.streamId]; exact hid, Nat.le_trans hb.headers hlen, ?_⟩
    rcases h with hle | ⟨hcount, hsize⟩
    · exact .inl (hone.mpr hle)
    · refine .inr ⟨hsizes, ?_, by rw [hcontent]; exact hsize⟩
      rw [Nat.zero_add, hb.count]
      exact hcount

/-- The block of a header list is split into frames. -/
theorem encodeBlock_splits {e e' : Hpack.Encoder S} {hpack : Bytes} {id : StreamId}
    {flags : UInt8} {maxSize : Nat} {pseudo : Wire.PseudoHeaders S} {fields : Wire.HeaderMap S}
    (henc : e.encode hash (Wire.headerIter pseudo fields) [] = .ok (e', hpack))
    (hpos : 0 < maxSize) (hmax : maxSize < 2 ^ 24) (hid : id < 2 ^ 31)
    (hend : flags &&& Wire.Headers.endHeaders = Wire.Headers.endHeaders)
    (hpad : (flags &&& Wire.Headers.padded == Wire.Headers.padded) = false)
    (hprio : (flags &&& Wire.Headers.priority == Wire.Headers.priority) = false) :
    ∃ frames b, Wire.encodeBlock hash pseudo fields e ⟨.headers, flags, id⟩ maxSize =
        .ok (e', frames) ∧
      frames.flatMap (·.octets) = b.octets ∧ Splits id flags maxSize hpack b := by
  obtain ⟨frames, b, hsplit, hoctets, hb⟩ :=
    @splitBlock_splits hpack maxSize id flags hpos hmax hid hend hpad hprio
  refine ⟨frames, b, ?_, hoctets, hb⟩
  unfold Wire.encodeBlock
  rw [henc]
  show (Wire.splitBlock hpack maxSize (hpack.length + 1) ⟨.headers, flags, id⟩ 0 >>= _) = _
  rw [hsplit]
  rfl

/-- A header list is written as a block that the reader's table can decode. -/
theorem encodeBlock_spec {e : Hpack.Encoder S} {d : Hpack.Decoder S} {id : StreamId}
    {flags : UInt8} {maxSize : Nat} {pseudo : Wire.PseudoHeaders S}
    {fields : Wire.HeaderMap S}
    (hs : InStep hash e d) (hshort : ∀ h ∈ headerList pseudo fields, h.Short)
    (hpos : 0 < maxSize) (hmax : maxSize < 2 ^ 24) (hid : id < 2 ^ 31)
    (hend : flags &&& Wire.Headers.endHeaders = Wire.Headers.endHeaders)
    (hpad : (flags &&& Wire.Headers.padded == Wire.Headers.padded) = false)
    (hprio : (flags &&& Wire.Headers.priority == Wire.Headers.priority) = false) :
    ∃ e' hpack frames b s,
      e.encode hash (Wire.headerIter pseudo fields) [] = .ok (e', hpack) ∧
        Wire.encodeBlock hash pseudo fields e ⟨.headers, flags, id⟩ maxSize = .ok (e', frames) ∧
        frames.flatMap (·.octets) = b.octets ∧ Splits id flags maxSize hpack b ∧
        d.decode ⟨hpack, 0⟩ = .ok () s ∧ s.calls = headerList pseudo fields.unmarked ∧
        InStep hash e' s.decoder := by
  obtain ⟨e', hpack, s, henc, hdec, hcalls, hs'⟩ :=
    Hpack.Link.Agrees.encode hs (Wire.resolveNames_headerIter pseudo fields) hshort
  obtain ⟨frames, b, hblock, hoctets, hb⟩ :=
    encodeBlock_splits henc hpos hmax hid hend hpad hprio
  refine ⟨e', hpack, frames, b, s, henc, hblock, hoctets, hb, hdec, ?_, hs'⟩
  rw [hcalls, Wire.headerList_unmarked]

/-- The block is read as one frame, if the reader takes it. -/
theorem run_splits {id : StreamId} {flags : UInt8} {maxSize : Nat} {hpack : Bytes} {b : Block}
    {s : Hpack.DecodeState S} (hc : peer.Idle) (hpos : 0 < maxSize)
    (hlen : maxSize ≤ peer.decoder.maxFrameLen) (hid : StreamId.isZero id = false)
    (hb : Splits id flags maxSize hpack b) (htakes : peer.Takes maxSize hpack.length)
    (hdec : peer.decoderHpack.decode ⟨hpack, 0⟩ = .ok () s) (rest : Bytes) :
    (reader S).run peer (b.octets ++ rest) =
      ((reader S).run { peer with decoderHpack := s.decoder } rest).after
        [blockItem none ((peer.load s.calls).finish (.fromHead id b.flags))] := by
  have ha := (accepts_iff hpos hlen hid hb).mpr htakes
  rw [← hb.content] at hdec
  rw [run_block hc ha hdec, hb.error, hb.streamId]

/-! ## Single frames -/

/-- A frame that starts no header block and goes on none. -/
theorem decodeFrame_idle {c : Codec S} (hp : c.pending = none) {f : RawFrame}
    (hk : f.head.kind ≠ .unknown) :
    c.decodeFrame f.bytes =
      match f.head.kind with
      | .settings => c.loaded .settings (Wire.Settings.load f.head f.payload)
      | .ping => c.loaded .ping (Wire.Ping.load f.head f.payload)
      | .windowUpdate => c.loaded .windowUpdate (Wire.WindowUpdate.load f.head f.payload)
      | .data => c.loaded .data (Wire.Data.load f.head f.payload)
      | .headers => c.decodeHeaders f.head f.payload
      | .reset => c.loaded .reset (Wire.Reset.load f.head f.payload)
      | .goAway =>
          if f.head.streamId ≠ 0 then (.error (.err .invalidStreamId), c)
          else c.loaded .goAway (Wire.GoAway.load f.payload)
      | .priority => c.loaded id (decodePriority f.head f.payload)
      | .continuation => (.error (.err (.continuation .unexpected)), c)
      | .unknown => (.ok none, c) := by
  have hpush := f.not_push hk
  unfold decodeFrame
  dsimp only
  rw [hpush, hp]
  rfl

/-- A single frame is read as the loader of its kind says. -/
theorem run_single {w : Wire.Written} {f : Wire.Frame S} {maxSize : Nat} (hc : peer.Idle)
    (hw : w.Fits maxSize) (hlen : maxSize ≤ peer.decoder.maxFrameLen)
    (hid : w.head.streamId < 2 ^ 31)
    (hdec : ∀ r : RawFrame, r.head = w.head → r.payload = w.payload →
      peer.decodeFrame r.bytes = (.ok (some f), peer)) (rest : Bytes) :
    (reader S).run peer (w.octets ++ rest) = ((reader S).run peer rest).after [f] := by
  obtain ⟨r, hbytes, hhead, hpayload⟩ := Wire.Written.arrives hw.counted hid
  have hle : r.payload.length ≤ peer.decoder.maxFrameLen := by
    rw [hpayload]
    exact Nat.le_trans hw.bound hlen
  rw [← hbytes, run_frame hc.frame r rest hle (hdec r hhead hpayload)]
  rfl

/-- The same content; values are compared without their marks. -/
inductive Same : Wire.Frame S → Wire.Frame S → Prop where
  | data {v v' : Wire.Data} : v'.streamId = v.streamId → v'.payload = v.payload →
      v'.isEndStream = v.isEndStream → Same (.data v) (.data v')
  | headers {v v' : Wire.Headers S} : v'.streamId = v.streamId →
      v'.isEndStream = v.isEndStream → v'.pseudo = v.pseudo →
      (∀ name, (Wire.HeaderMap.values v'.fields name).map (·.bytes) =
        (Wire.HeaderMap.values v.fields name).map (·.bytes)) → Same (.headers v) (.headers v')
  | settings (v : Settings) : Same (.settings v) (.settings v)
  | ping (v : Wire.Ping) : Same (.ping v) (.ping v)
  | goAway (v : Wire.GoAway) : Same (.goAway v) (.goAway v)
  | windowUpdate (v : Wire.WindowUpdate) : Same (.windowUpdate v) (.windowUpdate v)
  | reset (v : Wire.Reset) : Same (.reset v) (.reset v)

/-- A HEADERS frame that announces neither padding nor a stream dependency. -/
structure Plain (v : Wire.Headers S) : Prop where
  padded : (v.flags &&& Wire.Headers.padded == Wire.Headers.padded) = false
  priority : (v.flags &&& Wire.Headers.priority == Wire.Headers.priority) = false

/-- A frame that can be written in frames of a size: its numbers fit into their fields, and its
values are those that a loader accepts. -/
def Sends (maxSize : Nat) : Wire.Frame S → Prop
  | .data v => StreamId.isZero v.streamId = false ∧ v.streamId < 2 ^ 31 ∧
      v.encode.payload.length ≤ maxSize
  | .headers v => StreamId.isZero v.streamId = false ∧ v.streamId < 2 ^ 31 ∧
      v.isEndHeaders = true ∧ Plain v ∧ ∀ f ∈ v.fields, Wire.Sendable f.1 f.2
  | .settings v => (∀ s ∈ Wire.Settings.each v, s.Accepted) ∧
      (v.ack = true → Wire.Settings.each v = [])
  | .ping _ => True
  | .goAway v => v.lastStreamId < 2 ^ 31 ∧ v.errorCode.code < 2 ^ 32 ∧
      v.encode.payload.length ≤ maxSize
  | .windowUpdate v => v.streamId < 2 ^ 31 ∧ v.sizeIncrement < 2 ^ 31
  | .reset v => v.streamId < 2 ^ 31 ∧ v.errorCode.code < 2 ^ 32
  | .priority _ | .invalid _ => False

/-- The strings of a header list can be written. -/
def ShortStrings : Wire.Frame S → Prop
  | .headers v => ∀ h ∈ headerList v.pseudo v.fields, h.Short
  | _ => True

/-- The limits of the reader let a header list through. -/
def Admits (hash : Hpack.Name S → Nat) (order : Wire.MapOrder S) (c peer : Codec S) :
    Wire.Frame S → Prop
  | .headers v => v.fields.length ≤ peer.decoderMaxHeaders ∧
      Wire.listSize (headerList v.pseudo v.fields) ≤ peer.decoderMaxHeaderListSize ∧
      ∀ e hpack, c.encoderHpack.encode hash (Wire.headerIter v.pseudo (order.iter v.fields)) [] =
        .ok (e, hpack) → peer.Takes c.encoderMaxFrameSize hpack.length
  | _ => True

/-- What is left to write and to read after a frame: a reader and a writer in step. -/
structure Written (hash : Hpack.Name S → Nat) (order : Wire.MapOrder S) (c peer : Codec S)
    (f : Wire.Frame S) (c' : Codec S) (d : Hpack.Decoder S) : Prop where
  ok : ∃ ws f', c.encode hash order f = .ok (c', ws) ∧ Same f f' ∧
    ∀ rest, (reader S).run peer (ws.flatMap (·.octets) ++ rest) =
      ((reader S).run { peer with decoderHpack := d } rest).after [f']
  size : c'.encoderMaxFrameSize = c.encoderMaxFrameSize
  inStep : InStep hash c'.encoderHpack d

variable {order : Wire.MapOrder S} {c : Codec S}

/-- A frame that leaves both tables alone. -/
theorem Written.single {f f' : Wire.Frame S} {w : Wire.Written} (hc : peer.Idle)
    (hs : InStep hash c.encoderHpack peer.decoderHpack)
    (hlen : (c.encoderMaxFrameSize : Nat) ≤ peer.decoder.maxFrameLen)
    (hw : w.Fits c.encoderMaxFrameSize) (hid : w.head.streamId < 2 ^ 31)
    (henc : c.encode hash order f = .ok (c, [w])) (hsame : Same f f')
    (hdec : ∀ r : RawFrame, r.head = w.head → r.payload = w.payload →
      peer.decodeFrame r.bytes = (.ok (some f'), peer)) :
    Written hash order c peer f c peer.decoderHpack where
  ok := by
    refine ⟨[w], f', henc, hsame, fun rest => ?_⟩
    rw [List.flatMap_singleton]
    exact run_single hc hw hlen hid hdec rest
  size := rfl
  inStep := hs

end Codec

end NtexH2
