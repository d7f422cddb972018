/-
  Codec/Sequences.lean --- sequences of frames (src/codec/mod.rs).

  Frames that are encoded in order by one codec are decoded in order by another one, if
  the header tables of the two are in step.  Every kind of frame keeps its content; the
  header tables stay in step from block to block.
-/
import NtexH2.Codec.ListSize

set_option autoImplicit false

namespace NtexH2

open Lib

variable {S : HttpSyntax}

namespace Codec

open Wire (headerList)

variable {hash : Hpack.Name S → Nat} {order : Wire.MapOrder S} {c peer : Codec S}

/-! ## Single frames -/

/-- DATA, padded or not. -/
theorem written_data {v : Wire.Data} (hc : peer.Idle)
    (hs : InStep hash c.encoderHpack peer.decoderHpack)
    (hlen : (c.encoderMaxFrameSize : Nat) ≤ peer.decoder.maxFrameLen)
    (hsend : Sends c.encoderMaxFrameSize (.data v : Wire.Frame S)) :
    Written hash order c peer (.data v) c peer.decoderHpack := by
  obtain ⟨hzero, hid, hsize⟩ := hsend
  obtain ⟨hcounted, hpayload⟩ := v.encode_length
  obtain ⟨len, hload⟩ := v.load_encode hzero
  have hhead : v.encode.head = v.head := by
    unfold Wire.Data.encode
    split
    · rfl
    · rfl
  have hend : (v.flags &&& Wire.Data.all &&& Wire.Data.endStream == Wire.Data.endStream) =
      v.isEndStream := by
    rw [UInt8.and_assoc]
    rfl
  have hsame : Same (.data v)
      (.data ⟨v.streamId, v.payload, v.flags &&& Wire.Data.all, len⟩ : Wire.Frame S) :=
    .data rfl rfl hend
  refine .single hc hs hlen ((Wire.Written.fits_iff _ hcounted).mpr hsize)
    (by rw [hhead]; exact hid) ?_ hsame fun r hr hp => ?_
  · unfold encode
    dsimp only
    rw [if_neg (by omega)]
    rfl
  · have hkind : r.head.kind = .data := by rw [hr, hhead]; rfl
    rw [decodeFrame_idle hc.block (by rw [hkind]; exact nofun), hkind, hr, hp]
    dsimp only
    rw [hload]
    rfl

theorem written_settings {v : Settings} (hc : peer.Idle)
    (hs : InStep hash c.encoderHpack peer.decoderHpack)
    (hlen : (c.encoderMaxFrameSize : Nat) ≤ peer.decoder.maxFrameLen)
    (hsend : Sends c.encoderMaxFrameSize (.settings v : Wire.Frame S)) :
    Written hash order c peer (.settings v) c peer.decoderHpack := by
  refine .single hc hs hlen (Wire.Settings.encode_fits _ v)
    (show (Wire.Settings.encode v).head.streamId < 2 ^ 31 from Nat.two_pow_pos 31) rfl (.settings v)
    fun r hr hp => ?_
  have hkind : r.head.kind = .settings := by rw [hr]; rfl
  rw [decodeFrame_idle hc.block (by rw [hkind]; exact nofun), hkind, hr, hp]
  dsimp only
  rw [Wire.Settings.load_encode hsend.1 hsend.2]
  rfl

theorem written_ping {v : Wire.Ping} (hc : peer.Idle)
    (hs : InStep hash c.encoderHpack peer.decoderHpack)
    (hlen : (c.encoderMaxFrameSize : Nat) ≤ peer.decoder.maxFrameLen) :
    Written hash order c peer (.ping v) c peer.decoderHpack := by
  refine .single hc hs hlen (v.encode_fits _)
    (show v.encode.head.streamId < 2 ^ 31 from Nat.two_pow_pos 31) rfl (.ping v) fun r hr hp => ?_
  have hkind : r.head.kind = .ping := by rw [hr]; rfl
  rw [decodeFrame_idle hc.block (by rw [hkind]; exact nofun), hkind, hr, hp]
  dsimp only
  rw [v.load_encode]
  rfl

theorem written_goAway {v : Wire.GoAway} (hc : peer.Idle)
    (hs : InStep hash c.encoderHpack peer.decoderHpack)
    (hlen : (c.encoderMaxFrameSize : Nat) ≤ peer.decoder.maxFrameLen)
    (hsend : Sends c.encoderMaxFrameSize (.goAway v : Wire.Frame S)) :
    Written hash order c peer (.goAway v) c peer.decoderHpack := by
  obtain ⟨hid, hcode, hsize⟩ := hsend
  refine .single hc hs hlen ((Wire.Written.fits_iff _ v.encode_length.1).mpr hsize)
    (show v.encode.head.streamId < 2 ^ 31 from Nat.two_pow_pos 31) rfl (.goAway v)
    fun r hr hp => ?_
  have hkind : r.head.kind = .goAway := by rw [hr]; rfl
  have hzero : r.head.streamId = 0 := by rw [hr]; rfl
  rw [decodeFrame_idle hc.block (by rw [hkind]; exact nofun), hkind, hp]
  dsimp only
  rw [if_neg (not_not_intro hzero), v.load_encode hid hcode]
  rfl

theorem written_windowUpdate {v : Wire.WindowUpdate} (hc : peer.Idle)
    (hs : InStep hash c.encoderHpack peer.decoderHpack)
    (hlen : (c.encoderMaxFrameSize : Nat) ≤ peer.decoder.maxFrameLen)
    (hsend : Sends c.encoderMaxFrameSize (.windowUpdate v : Wire.Frame S)) :
    Written hash order c peer (.windowUpdate v) c peer.decoderHpack := by
  refine .single hc hs hlen (v.encode_fits _) hsend.1 rfl (.windowUpdate v) fun r hr hp => ?_
  have hkind : r.head.kind = .windowUpdate := by rw [hr]; rfl
  rw [decodeFrame_idle hc.block (by rw [hkind]; exact nofun), hkind, hr, hp]
  dsimp only
  rw [v.load_encode hsend.2]
  rfl

theorem written_reset {v : Wire.Reset} (hc : peer.Idle)
    (hs : InStep hash c.encoderHpack peer.decoderHpack)
    (hlen : (c.encoderMaxFrameSize : Nat) ≤ peer.decoder.maxFrameLen)
    (hsend : Sends c.encoderMaxFrameSize (.reset v : Wire.Frame S)) :
    Written hash order c peer (.reset v) c peer.decoderHpack := by
  refine .single hc hs hlen (v.encode_fits _) hsend.1 rfl (.reset v) fun r hr hp => ?_
  have hkind : r.head.kind = .reset := by rw [hr]; rfl
  rw [decodeFrame_idle hc.block (by rw [hkind]; exact nofun), hkind, hr, hp]
  dsimp only
  rw [v.load_encode hsend.2]
  rfl

/-! ## Header blocks -/

theorem encode_headers {v : Wire.Headers S} (hend : v.isEndHeaders = true) {e : Hpack.Encoder S}
    {frames : List Wire.Written}
    (hblock : Wire.encodeBlock hash v.pseudo (order.iter v.fields) c.encoderHpack v.head
      c.encoderMaxFrameSize = .ok (e, frames)) :
    c.encode hash order (.headers v) = .ok ({ c with encoderHpack := e }, frames) := by
  have hframes : v.encode hash order c.encoderHpack c.encoderMaxFrameSize = .ok (e, frames) := by
    unfold Wire.Headers.encode
    rw [hend]
    exact hblock
  unfold encode
  dsimp only
  rw [hframes]

/-- The fields are read in the order of the iteration, without their marks. -/
theorem written_headers {v : Wire.Headers S} (hc : peer.Idle)
    (hs : InStep hash c.encoderHpack peer.decoderHpack)
    (hlen : (c.encoderMaxFrameSize : Nat) ≤ peer.decoder.maxFrameLen)
    (hsend : Sends c.encoderMaxFrameSize (.headers v)) (hshort : ShortStrings (.headers v))
    (hadm : Admits hash order c peer (.headers v)) :
    ∃ c' d, Written hash order c peer (.headers v) c' d := by
  obtain ⟨hzero, hid, hend, hplain, hfields⟩ := hsend
  obtain ⟨hcount, hsize, htakes⟩ := hadm
  have hpos : 0 < (c.encoderMaxFrameSize : Nat) :=
    Nat.lt_of_lt_of_le (by decide) c.encoderMaxFrameSize.2.1
  have hmax : (c.encoderMaxFrameSize : Nat) < 2 ^ 24 :=
    Nat.lt_of_le_of_lt c.encoderMaxFrameSize.2.2 (by decide)
  have hshort' : ∀ h ∈ headerList v.pseudo (order.iter v.fields), h.Short := by
    intro h hh
    refine hshort h ?_
    rcases List.mem_append.mp hh with hh | hh
    · exact List.mem_append_left _ hh
    · exact List.mem_append_right _ (((order.iter_perm v.fields).map _).mem_iff.mp hh)
  obtain ⟨e', hpack, frames, b, s, henc, hblock, hoctets, hb, hdec, hcalls, hs'⟩ :=
    encodeBlock_spec hs hshort' hpos hmax hid (beq_iff_eq.mp hend) hplain.padded hplain.priority
  have hsendable : ∀ f ∈ Wire.HeaderMap.unmarked (order.iter v.fields), Wire.Sendable f.1 f.2 := by
    intro f hf
    obtain ⟨g, hg, rfl⟩ := List.mem_map.mp hf
    exact hfields g ((order.iter_perm v.fields).mem_iff.mp hg)
  obtain ⟨reg, num, size, hload⟩ := @Wire.Loading.foldl_headerList S peer.decoderMaxHeaders
    peer.decoderMaxHeaderListSize v.pseudo (Wire.HeaderMap.unmarked (order.iter v.fields))
    (by
      unfold Wire.HeaderMap.unmarked
      rw [List.length_map, (order.iter_perm v.fields).length_eq]
      exact hcount)
    (by
      rw [Wire.listSize_iter]
      exact hsize) hsendable
  have hitem : blockItem none ((peer.load s.calls).finish (.fromHead v.streamId b.flags)) =
      .headers ⟨v.streamId, v.pseudo, Wire.HeaderMap.unmarked (order.iter v.fields),
        b.flags ||| Wire.Headers.endHeaders⟩ := by
    unfold load
    rw [hcalls, hload]
    rfl
  refine ⟨{ c with encoderHpack := e' }, s.decoder, ⟨?_, rfl, hs'⟩⟩
  refine ⟨frames, .headers ⟨v.streamId, v.pseudo, Wire.HeaderMap.unmarked (order.iter v.fields),
    b.flags ||| Wire.Headers.endHeaders⟩, ?_, .headers rfl ?_ rfl fun name => ?_, fun rest => ?_⟩
  · exact encode_headers hend hblock
  · exact b.isEndStream.trans hb.endStream
  · rw [Wire.HeaderMap.values_unmarked, order.values_iter, List.map_map]
    rfl
  · rw [hoctets, ← hitem]
    exact run_splits hc hpos hlen hzero hb (htakes e' hpack henc) hdec rest

/-- Every frame that can be written is read back. -/
theorem written_of_sends {f : Wire.Frame S} (hc : peer.Idle)
    (hs : InStep hash c.encoderHpack peer.decoderHpack)
    (hlen : (c.encoderMaxFrameSize : Nat) ≤ peer.decoder.maxFrameLen)
    (hsend : Sends c.encoderMaxFrameSize f) (hshort : ShortStrings f)
    (hadm : Admits hash order c peer f) : ∃ c' d, Written hash order c peer f c' d := by
  cases f with
  | data v => exact ⟨_, _, written_data hc hs hlen hsend⟩
  | headers v => exact written_headers hc hs hlen hsend hshort hadm
  | settings v => exact ⟨_, _, written_settings hc hs hlen hsend⟩
  | ping v => exact ⟨_, _, written_ping hc hs hlen⟩
  | goAway v => exact ⟨_, _, written_goAway hc hs hlen hsend⟩
  | windowUpdate v => exact ⟨_, _, written_windowUpdate hc hs hlen hsend⟩
  | reset v => exact ⟨_, _, written_reset hc hs hlen hsend⟩
  | priority v => exact hsend.elim
  | invalid v => exact hsend.elim

/-! ## Sequences -/

/-- Frames that are encoded in order. -/
def encodeAll (hash : Hpack.Name S → Nat) (order : Wire.MapOrder S) :
    Codec S → List (Wire.Frame S) → Except EncodeFault (Codec S × List Wire.Written)
  | c, [] => .ok (c, [])
  | c, f :: fs => do
      let (c, frames) ← c.encode hash order f
      let (c, rest) ← encodeAll hash order c fs
      return (c, frames ++ rest)

/-- The limits of the reader let every header list through, as the writer's table has it when the
list is written. -/
def Admitted (hash : Hpack.Name S → Nat) (order : Wire.MapOrder S) (peer : Codec S) :
    Codec S → List (Wire.Frame S) → Prop
  | _, [] => True
  | c, f :: fs => Admits hash order c peer f ∧
      ∀ c' frames, c.encode hash order f = .ok (c', frames) → Admitted hash order peer c' fs

theorem admits_decoder (d : Hpack.Decoder S) {f : Wire.Frame S} (h : Admits hash order c peer f) :
    Admits hash order c { peer with decoderHpack := d } f := by
  cases f with
  | headers v => exact h
  | _ => trivial

/-- A reader that is in step reads the frames back, and the tables stay in step. -/
theorem encodeAll_written (hc : peer.Idle) (fs : List (Wire.Frame S)) :
    ∀ (c : Codec S) (d : Hpack.Decoder S), InStep hash c.encoderHpack d →
      (c.encoderMaxFrameSize : Nat) ≤ peer.decoder.maxFrameLen →
      (∀ f ∈ fs, Sends c.encoderMaxFrameSize f) → (∀ f ∈ fs, ShortStrings f) →
      Admitted hash order peer c fs →
      ∃ c' frames fs' d', encodeAll hash order c fs = .ok (c', frames) ∧
        InStep hash c'.encoderHpack d' ∧ List.Forall₂ Same fs fs' ∧
        ∀ rest, (reader S).run { peer with decoderHpack := d } (frames.flatMap (·.octets) ++ rest) =
          ((reader S).run { peer with decoderHpack := d' } rest).after fs' := by
  induction fs with
  | nil => exact fun c d hs _ _ _ _ => ⟨c, [], [], d, rfl, hs, .nil, fun _ => rfl⟩
  | cons f fs ih =>
      intro c d hs hlen hsends hshorts hadm
      obtain ⟨hsend, hsends⟩ := List.forall_mem_cons.mp hsends
      obtain ⟨hshort, hshorts⟩ := List.forall_mem_cons.mp hshorts
      have hc' : Codec.Idle { peer with decoderHpack := d } := ⟨hc.block, hc.frame⟩
      obtain ⟨c1, d1, hw⟩ :=
        written_of_sends hc' hs hlen hsend hshort (admits_decoder d hadm.1)
      obtain ⟨frames1, f', henc, hsame, hrun⟩ := hw.ok
      have hsize := hw.size
      obtain ⟨c', frames, fs', d', hencs, hs', hsames, hruns⟩ := ih c1 d1 hw.inStep
        (by rw [hsize]; exact hlen) (by rw [hsize]; exact hsends) hshorts (hadm.2 c1 frames1 henc)
      refine ⟨c', frames1 ++ frames, f' :: fs', d', ?_, hs', .cons hsame hsames, fun rest => ?_⟩
      · rw [encodeAll, henc, ok_bind]
        dsimp only
        rw [hencs]
        rfl
      · rw [List.flatMap_append, List.append_assoc, hrun, hruns]
        rfl

theorem run_nil (c : Codec S) : (reader S).run c [] = ⟨[], none, c, []⟩ :=
  Incremental.Reader.run_stuck c.round_empty

/-- Frames that are encoded in order by one codec, and decoded by another one that is in step with
it and whose limits they keep: the same frames come back in the same order. -/
theorem round_trip {fs : List (Wire.Frame S)} (hc : peer.Idle)
    (hs : InStep hash c.encoderHpack peer.decoderHpack)
    (hlen : (c.encoderMaxFrameSize : Nat) ≤ peer.decoder.maxFrameLen)
    (hsend : ∀ f ∈ fs, Sends c.encoderMaxFrameSize f) (hshort : ∀ f ∈ fs, ShortStrings f)
    (hadm : Admitted hash order peer c fs) :
    ∃ c' frames fs' d', encodeAll hash order c fs = .ok (c', frames) ∧
      (reader S).run peer (frames.flatMap (·.octets)) =
        ⟨fs', none, { peer with decoderHpack := d' }, []⟩ ∧
      List.Forall₂ Same fs fs' := by
  obtain ⟨c', frames, fs', d', henc, -, hsame, hrun⟩ :=
    encodeAll_written hc fs c peer.decoderHpack hs hlen hsend hshort hadm
  have hrest := hrun []
  rw [List.append_nil, run_nil] at hrest
  refine ⟨c', frames, fs', d', henc, hrest.trans ?_, hsame⟩
  unfold Incremental.Outcome.after
  dsimp only
  rw [List.append_nil]

/-- An acknowledgement, an increment and a request. -/
def sampleFrames : List (Wire.Frame Hpack.Link.asciiSyntax) :=
  [.settings .newAck, .windowUpdate ⟨0, 5⟩,
    .headers (.new 1 smallPseudo smallFields true)]

theorem round_trip_sampleFrames :
    ∃ c' frames fs' d', encodeAll (fun _ => 0) ⟨id, fun _ _ => rfl⟩
        (default Hpack.Link.asciiSyntax) sampleFrames = .ok (c', frames) ∧
      (reader _).run (default Hpack.Link.asciiSyntax) (frames.flatMap (·.octets)) =
        ⟨fs', none, { default Hpack.Link.asciiSyntax with decoderHpack := d' }, []⟩ ∧
      List.Forall₂ Same sampleFrames fs' := by
  have hshort : ∀ h ∈ headerList smallPseudo smallFields, h.Short := by
    intro h hh
    have hlen : ∀ h ∈ headerList smallPseudo smallFields,
        h.name.asSlice.length < 2 ^ 25 ∧ h.valueSlice.length < 2 ^ 25 := by decide +kernel
    exact ⟨Hpack.Link.short_of_length (hlen h hh).1, Hpack.Link.short_of_length (hlen h hh).2⟩
  have hlen : ((default Hpack.Link.asciiSyntax).encoderHpack.encode (fun _ => 0)
      (Wire.headerIter smallPseudo smallFields) []).map (·.2.length) = .ok 11 := by
    decide +kernel
  refine round_trip ⟨rfl, rfl⟩ (inStep_default _) (Nat.le_refl _) ?_ ?_ ?_
  · refine List.forall_mem_cons.mpr ⟨⟨nofun, fun _ => rfl⟩, List.forall_mem_cons.mpr
      ⟨⟨by decide, by decide⟩, List.forall_mem_singleton.mpr
        ⟨rfl, by decide, rfl, ⟨rfl, rfl⟩, ?_⟩⟩⟩
    unfold Wire.Sendable
    decide +kernel
  · exact List.forall_mem_cons.mpr ⟨trivial, List.forall_mem_cons.mpr
      ⟨trivial, List.forall_mem_singleton.mpr hshort⟩⟩
  · refine ⟨trivial, fun c' frames h => ?_⟩
    cases h
    refine ⟨trivial, fun c' frames h => ?_⟩
    cases h
    refine ⟨⟨by decide, by decide +kernel, fun e hpack h => ?_⟩, fun _ _ _ => trivial⟩
    have hok : (default Hpack.Link.asciiSyntax).encoderHpack.encode (fun _ => 0)
        (Wire.headerIter smallPseudo smallFields) [] = .ok (e, hpack) := h
    rw [hok] at hlen
    exact .inl (Nat.le_trans (Nat.le_of_eq (Except.ok.inj hlen)) (by decide))

/-! ## A path that is not read back -/

/-- A request with a path. -/
def pathRequest (v : Hpack.ByteString S) : Wire.Frame S := .headers (.new 1 (pathOnly v) [] false)

/-- A peer without a limit on CONTINUATION frames, and with room for large blocks. -/
def roomy (S : HttpSyntax) (limit : Nat) : Codec S :=
  { default S with decoderMaxHeaderListSize := limit, decoderMaxHeaderContinuations := 0 }

section LongPath

variable {v : Hpack.ByteString S} {limit : Nat}

theorem listSize_path (v : Hpack.ByteString S) :
    Wire.listSize (headerList (pathOnly v) []) = 37 + v.bytes.length := by
  rw [← Wire.headerListSize_plain]
  show 0 + 0 + 0 + (32 + 5 + v.bytes.length) + 0 + 0 = _
  omega

theorem pathRequest_ends (v : Hpack.ByteString S) :
    Wire.Headers.isEndHeaders (.new 1 (pathOnly v) [] false) = true :=
  show (Wire.Headers.endHeaders &&& Wire.Headers.endHeaders == Wire.Headers.endHeaders) = true by
    decide

theorem encode_pathRequest (order : Wire.MapOrder S) (hmap : order.iter [] = [])
    (h : Hpack.Long v.bytes) :
    ∃ frames b, (default S).encode hash order (pathRequest v) = .ok (default S, frames) ∧
      frames.flatMap (·.octets) = b.octets ∧
      Splits 1 Wire.Headers.endHeaders defaultMaxFrameSize (4 :: Hpack.strOctets v.bytes) b := by
  obtain ⟨frames, b, hsplit, hoctets, hb⟩ := @splitBlock_splits (4 :: Hpack.strOctets v.bytes)
    defaultMaxFrameSize 1 Wire.Headers.endHeaders (by decide) (by decide) (by decide) rfl rfl rfl
  have hblock : Wire.encodeBlock hash (pathOnly v) (order.iter []) (Hpack.Encoder.default S)
      ⟨.headers, Wire.Headers.endHeaders, 1⟩ defaultMaxFrameSize = .ok (.default S, frames) := by
    unfold Wire.encodeBlock
    rw [hmap, show Wire.headerIter (pathOnly v) [] = [.path v] from rfl,
      Hpack.encode_longPath hash h]
    show (Wire.splitBlock _ defaultMaxFrameSize _ ⟨.headers, Wire.Headers.endHeaders, 1⟩ 0 >>= _)
      = _
    rw [hsplit]
    rfl
  have hframes : Wire.Headers.encode hash order (.new 1 (pathOnly v) [] false)
      (default S).encoderHpack (default S).encoderMaxFrameSize = .ok (.default S, frames) := by
    unfold Wire.Headers.encode
    rw [pathRequest_ends]
    exact hblock
  refine ⟨frames, b, ?_, hoctets, hb⟩
  unfold Codec.encode pathRequest
  dsimp only
  rw [hframes]
  rfl

/-- Whatever the limits, the peer fails. -/
theorem pathRequest_unread (order : Wire.MapOrder S) (hmap : order.iter [] = [])
    (h : Hpack.Long v.bytes) (hsize : 37 + v.bytes.length ≤ limit)
    (hblock : (Hpack.strOctets v.bytes).length < limit) :
    (Sends defaultMaxFrameSize (pathRequest v) ∧
      Admitted hash order (roomy S limit) (default S) [pathRequest v]) ∧
    ∃ c' frames, encodeAll hash order (default S) [pathRequest v] = .ok (c', frames) ∧
      ((reader S).run (roomy S limit) (frames.flatMap (·.octets))).fault ≠ none := by
  have hid : (1 : Nat) < 2 ^ 31 := by decide
  have hpad : (Wire.Headers.endHeaders &&& Wire.Headers.padded == Wire.Headers.padded) = false := by
    decide
  have hprio : (Wire.Headers.endHeaders &&& Wire.Headers.priority == Wire.Headers.priority) =
      false := by decide
  refine ⟨⟨⟨rfl, hid, pathRequest_ends v, ⟨hpad, hprio⟩, List.forall_mem_nil _⟩,
    ⟨⟨Nat.zero_le _, ?_, ?_⟩,
    fun _ _ _ => trivial⟩⟩, ?_⟩
  · show Wire.listSize (headerList (pathOnly v) []) ≤ limit
    rw [listSize_path]
    exact hsize
  · intro e hpack hok
    have henc := Hpack.encode_longPath hash h
    have hok' : (Hpack.Encoder.default S).encode hash
        (Wire.headerIter (pathOnly v) (order.iter [])) [] = .ok (e, hpack) := hok
    rw [hmap] at hok'
    have hhpack : hpack = 4 :: Hpack.strOctets v.bytes :=
      congrArg Prod.snd (Except.ok.inj (hok'.symm.trans henc))
    refine .inr ⟨.inl rfl, ?_⟩
    rw [hhpack]
    exact hblock
  · obtain ⟨frames, b, henc, hoctets, hb⟩ := @encode_pathRequest _ hash v order hmap h
    refine ⟨default S, frames ++ [], ?_, fun hfault => ?_⟩
    · rw [encodeAll, henc]
      rfl
    · rw [List.append_nil, hoctets, ← List.append_nil b.octets] at hfault
      obtain ⟨-, u, s, hdec⟩ := accepts_of_ok ⟨rfl, rfl⟩ b [] hfault
      obtain ⟨s', herr, -⟩ := Hpack.decode_longPath (roomy S limit).decoderHpack h
      rw [hb.content, herr] at hdec
      cases hdec

end LongPath

theorem round_trip_longPath :
    (Sends defaultMaxFrameSize (pathRequest longPath) ∧
      Admitted (fun _ => 0) ⟨id, fun _ _ => rfl⟩ (roomy _ (2 ^ 40)) (default _)
        [pathRequest longPath]) ∧
    ∃ c' frames, encodeAll (fun _ => 0) ⟨id, fun _ _ => rfl⟩ (default Hpack.Link.asciiSyntax)
        [pathRequest longPath] = .ok (c', frames) ∧
      ((reader Hpack.Link.asciiSyntax).run (roomy _ (2 ^ 40))
        (frames.flatMap (·.octets))).fault ≠ none := by
  have hlen := longPath_length
  have hlong : Hpack.Long longPath.bytes :=
    Hpack.long_of_length (Nat.le_of_eq hlen.symm) (by rw [hlen]; decide)
  have hhigh := Hpack.Huffman.encoded_length_le longPath.bytes
  have hstr := Hpack.strOctets_length 6 hlong.written
  exact pathRequest_unread ⟨id, fun _ _ => rfl⟩ rfl hlong (by omega) (by omega)

end Codec

end NtexH2
