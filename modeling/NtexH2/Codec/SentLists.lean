/-
  Codec/SentLists.lean --- header lists that the receiver lets through (src/connection.rs,
  `check_header_list_size`, src/codec/mod.rs, `Codec::decode`).

  The sender bounds the strings of a list, the receiver the octets of the block and the number
  of its frames.  A block is as long as the Huffman forms of the strings, which may be longer
  than the strings.  So a list that passes the check is lost with the connection exactly when its
  block is more than one frame, and over one of the two bounds.
-/
import NtexH2.Codec.ListSize
import NtexH2.Hpack.LongBlocks

set_option autoImplicit false

namespace NtexH2

open Lib

variable {S : HttpSyntax}

namespace Codec

open Wire (headerList)
open Connection (checkHeaderListSize)

variable {c peer : Codec S}

/-! ## Blocks over a limit -/

/-- The errors of a block over a limit. -/
def OverLimit (e : FrameContinuationError) : Prop := e = .maxContinuations ∨ e = .maxLeftoverSize

theorem decodeContinuation_over {p : Partial} {head : Wire.Head} {fragment : Bytes}
    (hid : p.streamId = head.streamId) (h : ¬p.Fits c fragment) :
    ∃ e, c.decodeContinuation p head fragment = (.error (.err (.continuation e)), c) ∧
      OverLimit e := by
  unfold decodeContinuation
  rw [if_neg (not_not_intro hid)]
  dsimp only
  by_cases hpos : c.decoderMaxHeaderContinuations > 0
  · rw [decide_eq_true hpos, if_pos rfl, Bool.true_and]
    dsimp only
    by_cases hcount : p.count + 1 > c.decoderMaxHeaderContinuations
    · rw [decide_eq_true hcount, if_pos rfl]
      exact ⟨_, rfl, .inl rfl⟩
    · have hsize : p.buf.length + fragment.length > c.decoderMaxHeaderListSize :=
        Nat.lt_of_not_le fun hle => h ⟨.inr (by omega), hle⟩
      rw [decide_eq_false hcount, if_neg Bool.false_ne_true, if_pos hsize]
      exact ⟨_, rfl, .inr rfl⟩
  · have hsize : p.buf.length + fragment.length > c.decoderMaxHeaderListSize :=
      Nat.lt_of_not_le fun hle => h ⟨.inl (by omega), hle⟩
    rw [decide_eq_false hpos, Bool.false_and, if_neg Bool.false_ne_true,
      if_neg Bool.false_ne_true, if_pos hsize]
    exact ⟨_, rfl, .inr rfl⟩

/-- CONTINUATION frames that are not within the limits: one of them is refused. -/
theorem run_continuations_over (hd : c.decoder.pending = none) (rest : Bytes)
    (fs : List RawFrame) : ∀ p : Partial, Continues p fs → RawFrame.Ended fs →
      (∀ f ∈ fs, f.payload.length ≤ c.decoder.maxFrameLen) →
      ¬c.Within p.count p.buf.length fs →
      ∃ e, ((reader S).run { c with pending := some p } (fs.flatMap (·.bytes) ++ rest)).fault =
        some (.err (.continuation e)) ∧ OverLimit e := by
  induction fs with
  | nil => exact fun _ _ hended => hended.elim
  | cons f fs ih =>
      intro p hfs hended hlens hnot
      have hd' : (Codec.decoder { c with pending := some p }).pending = none := hd
      obtain ⟨hkind, hid⟩ := hfs f List.mem_cons_self
      have hlen := hlens f List.mem_cons_self
      rw [List.flatMap_cons, List.append_assoc]
      by_cases hfits : p.Fits c f.payload
      · cases fs with
        | nil => exact absurd (.last hlen hfits) hnot
        | cons g gs =>
            have hend : f.has Wire.Headers.endHeaders = false := hended.1
            have hframe := decodeFrame_continued hfs hfits
            rw [hend, if_neg Bool.false_ne_true] at hframe
            rw [run_frame hd' f _ hlen hframe]
            exact ih (p.grow c f.payload) (fun x hx => hfs x (List.mem_cons_of_mem _ hx)) hended.2
              (fun x hx => hlens x (List.mem_cons_of_mem _ hx)) fun hw => hnot (.cons hlen hw)
      · have hround := round_frame hd' f (fs.flatMap (·.bytes) ++ rest) hlen
        have hfits' : ¬p.Fits { c with pending := none } f.payload :=
          fun h => hfits ⟨h.count, h.size⟩
        obtain ⟨e, hover, he⟩ := decodeContinuation_over hid.symm hfits'
        rw [decodeFrame_continuation rfl hkind] at hround
        refine ⟨e, ?_, he⟩
        have hfail := hround.trans (congrArg (frameRound _) hover)
        rw [Incremental.Reader.run_fail hfail]

/-- A block whose frames are not too long, and that the limits do not let through. -/
theorem run_block_over (hc : peer.Idle) {b : Block} (hid : StreamId.isZero b.streamId = false)
    (hlen : b.headers.payload.length ≤ peer.decoder.maxFrameLen)
    (hlens : ∀ f ∈ b.continuations, f.payload.length ≤ peer.decoder.maxFrameLen)
    (hnot : ¬peer.Accepts b) (rest : Bytes) :
    ∃ e, ((reader S).run peer (b.octets ++ rest)).fault = some (.err (.continuation e)) ∧
      OverLimit e := by
  have hended := b.ended
  have hcont := continues b
  have hframe := decodeFrame_block hc b hid
  have hnone : b.continuations ≠ [] := fun h => hnot ⟨hid, hlen, .inl h⟩
  have hw : ¬peer.Within 0 b.fragment.length b.continuations := fun h => hnot ⟨hid, hlen, .inr h⟩
  unfold Block.octets
  rw [List.append_assoc]
  cases hfs : b.continuations with
  | nil => exact absurd hfs hnone
  | cons f fs =>
      rw [hfs] at hended hcont hlens hw
      have hend : b.headers.has Wire.Headers.endHeaders = false := hended.1
      rw [hend, if_neg Bool.false_ne_true] at hframe
      rw [run_frame hc.frame b.headers _ hlen hframe]
      exact run_continuations_over hc.frame rest (f :: fs) b.start hcont hended.2 hlens hw

/-! ## Header lists within the limits -/

variable {hash : Hpack.Name S → Nat} {pseudo : Wire.PseudoHeaders S} {fields : Wire.HeaderMap S}

/-- What a header list becomes at the worst. -/
theorem blockItem_headers (id : StreamId) (flags : UInt8) (l : Wire.Loading S) :
    (∃ v : Wire.Headers S, v.streamId = id ∧
      blockItem none (l.finish (.fromHead id flags)) = .headers v) ∨
    ∃ err, blockItem none (l.finish (.fromHead id flags)) = .invalid ⟨.headers, id, err⟩ := by
  unfold blockItem Wire.Loading.finish
  split_ifs with hmal hmany
  · exact .inr ⟨_, rfl⟩
  · exact .inr ⟨_, rfl⟩
  · exact .inl ⟨_, rfl, rfl⟩

/-- The strings of a list that passes the check can be written. -/
theorem writable_of_check {c : Connection} {limit : UInt32}
    (hremote : c.remoteMaxHeaderListSize = limit.toNat)
    (hcheck : c.checkHeaderListSize pseudo.plain (Wire.HeaderMap.plain fields) = .ok ()) :
    ∀ h ∈ headerList pseudo fields, h.Writable := by
  intro h hmem
  have hle : Wire.listSize (headerList pseudo fields) ≤ limit.toNat := by
    rw [← Wire.headerListSize_plain, ← hremote]
    exact Nat.le_of_not_lt fun hlt => checkHeaderListSize_error_iff.mpr hlt hcheck
  have hlen : h.len ≤ Wire.listSize (headerList pseudo fields) :=
    List.single_le_sum (fun _ _ => Nat.zero_le _) _ (List.mem_map_of_mem hmem)
  have hword := limit.toNat_lt
  have hname := Hpack.Huffman.encoded_length_le h.name.asSlice
  have hvalue := Hpack.Huffman.encoded_length_le h.valueSlice
  rw [Hpack.Header.len_eq] at hlen
  exact ⟨show _ < 2 ^ 49 by omega, show _ < 2 ^ 49 by omega⟩

/-- A block that is taken is not longer than six of the longest frames. -/
theorem Takes.length_lt {maxSize : FrameSize} {n : Nat} (h : peer.Takes maxSize n)
    (hconts : peer.decoderMaxHeaderContinuations = 5) : n < 2 ^ 28 := by
  have hmin : 0 < (maxSize : Nat) := Nat.lt_of_lt_of_le (by decide) maxSize.2.1
  have hmax : (maxSize : Nat) ≤ 2 ^ 24 := Nat.le_trans maxSize.2.2 (by decide)
  rcases h with hone | ⟨hcount, -⟩
  · omega
  · have hfew := hcount.resolve_left (by rw [hconts]; decide)
    rw [hconts] at hfew
    have hlt := (Nat.div_lt_iff_lt_mul hmin).mp (Nat.lt_succ_of_le hfew)
    omega

/-- The block of a list that can be written: the limits let it through, or one of its frames is
refused. -/
theorem sent_list_spec {e : Hpack.Encoder S} {id : StreamId} {flags : UInt8} {maxSize : FrameSize}
    (hs : InStep hash e peer.decoderHpack) (hw : ∀ h ∈ headerList pseudo fields, h.Writable)
    (hc : peer.Idle) (hzero : StreamId.isZero id = false) (hid : id < 2 ^ 31)
    (hend : flags &&& Wire.Headers.endHeaders = Wire.Headers.endHeaders)
    (hpad : (flags &&& Wire.Headers.padded == Wire.Headers.padded) = false)
    (hprio : (flags &&& Wire.Headers.priority == Wire.Headers.priority) = false)
    (hlen : (maxSize : Nat) ≤ peer.decoder.maxFrameLen) :
    ∃ e' hpack frames b, e.encode hash (Wire.headerIter pseudo fields) [] = .ok (e', hpack) ∧
      Wire.encodeBlock hash pseudo fields e ⟨.headers, flags, id⟩ maxSize = .ok (e', frames) ∧
      frames.flatMap (·.octets) = b.octets ∧ Splits id flags maxSize hpack b ∧
      ((∀ h ∈ headerList pseudo fields, h.Short) ∨ 2 ^ 28 ≤ hpack.length) ∧
      (¬peer.Takes maxSize hpack.length →
        ∃ err, ((reader S).run peer (frames.flatMap (·.octets))).fault =
          some (.err (.continuation err)) ∧ OverLimit err) := by
  have hpos : 0 < (maxSize : Nat) := Nat.lt_of_lt_of_le (by decide) maxSize.2.1
  have hmax : (maxSize : Nat) < 2 ^ 24 := Nat.lt_of_le_of_lt maxSize.2.2 (by decide)
  obtain ⟨e', hpack, henc, hlong⟩ := hs.encode_writes (Wire.reify_headerIter pseudo fields) hw
  obtain ⟨frames, b, hblock, hoctets, hb⟩ :=
    encodeBlock_splits henc hpos hmax hid hend hpad hprio
  refine ⟨e', hpack, frames, b, henc, hblock, hoctets, hb, hlong, fun hnot => ?_⟩
  have hover := run_block_over hc (by rw [hb.streamId]; exact hzero)
    (Nat.le_trans hb.headers hlen) (fun f hf => Nat.le_trans (hb.continuations f hf) hlen)
    (fun ha => hnot ((accepts_iff hpos hlen hzero hb).mp ha)) []
  rwa [List.append_nil, ← hoctets] at hover

/-! ## Paths of one octet -/

/-- A path of one octet, again and again. -/
def repeated (b : UInt8) (hb : b < 128) (k : Nat) : Hpack.ByteString Hpack.Link.asciiSyntax :=
  ⟨List.replicate k b, List.all_eq_true.mpr fun c hc => by
    rw [List.eq_of_mem_replicate hc]
    exact decide_eq_true hb⟩

/-- A peer with the default limits but for the size of a list. -/
def limited (limit : Nat) : Codec Hpack.Link.asciiSyntax :=
  { default Hpack.Link.asciiSyntax with decoderMaxHeaderListSize := limit }

/-- The connection of a sender that knows the limit. -/
def informed (limit : Nat) : Connection :=
  { Connection.new false .new false false with remoteMaxHeaderListSize := limit }

theorem repeated_listSize {b : UInt8} (hb : b < 128) (k : Nat) :
    Wire.listSize (headerList (pathOnly (repeated b hb k)) []) = 37 + k := by
  have hlen : (repeated b hb k).bytes.length = k := List.length_replicate
  rw [← Wire.headerListSize_plain]
  show 0 + 0 + 0 + (32 + 5 + (repeated b hb k).bytes.length) + 0 + 0 = 37 + k
  omega

/-- The check counts the octets of the path as they are. -/
theorem repeated_check {b : UInt8} (hb : b < 128) {k limit : Nat} (hpass : 37 + k ≤ limit) :
    (informed limit).checkHeaderListSize (pathOnly (repeated b hb k)).plain [] = .ok () := by
  have hsize : (pathOnly (repeated b hb k)).plain.headerListSize [] = 37 + k :=
    (Wire.headerListSize_plain _ []).trans (repeated_listSize hb k)
  unfold checkHeaderListSize
  refine if_neg ?_
  rw [hsize]
  exact Nat.not_lt.mpr hpass

theorem repeated_short {b : UInt8} (hb : b < 128) {k : Nat} (hlt : k < 2 ^ 25) :
    ∀ h ∈ headerList (pathOnly (repeated b hb k)) [], h.Short := by
  have hlen : (repeated b hb k).bytes.length = k := List.length_replicate
  exact List.forall_mem_singleton.mpr
    ⟨Hpack.Link.short_of_length (show (octets ":path").length < 2 ^ 25 by decide),
      Hpack.Link.short_of_length (show (repeated b hb k).bytes.length < 2 ^ 25 by omega)⟩

/-- The path is written out behind the index of its name. -/
theorem repeated_block {b : UInt8} (hb : b < 128) {k : Nat} (hk : 12 ≤ k) (hlt : k < 2 ^ 25)
    {e' : Hpack.Encoder Hpack.Link.asciiSyntax} {hpack : Bytes}
    (henc : (default Hpack.Link.asciiSyntax).encoderHpack.encode (fun _ => 0)
      (Wire.headerIter (pathOnly (repeated b hb k)) []) [] = .ok (e', hpack)) :
    hpack = 4 :: Hpack.strOctets (repeated b hb k).bytes := by
  have hlen : (repeated b hb k).bytes.length = k := List.length_replicate
  have hne : ∀ s : String, (octets s).length < 12 → (repeated b hb k).bytes ≠ octets s := by
    intro s hs heq
    rw [heq] at hlen
    omega
  have hpath := Hpack.encode_path (fun _ => 0) (hne "/" (by decide)) (hne "/index.html" (by decide))
    (Hpack.encodeStr_spec (repeated_short hb hlt _ List.mem_cons_self).2)
  exact congrArg Prod.snd (Except.ok.inj (henc.symm.trans hpath))

/-! ## Lists that pass the check -/

/-- A header list that passes the sender's check against the limit of the receiver: if its block
is one frame, or within the limit and at most five CONTINUATION frames, the receiver reads it as a
frame, at the worst an invalid one; otherwise the connection fails.  The block is within these
bounds if the list is, counted with the Huffman forms of its strings. -/
theorem sent_list_survives {e : Hpack.Encoder S} {c : Connection} {id : StreamId} {flags : UInt8}
    {maxSize : FrameSize} (limit : UInt32) (hs : InStep hash e peer.decoderHpack) (hc : peer.Idle)
    (hzero : StreamId.isZero id = false) (hid : id < 2 ^ 31)
    (hend : flags &&& Wire.Headers.endHeaders = Wire.Headers.endHeaders)
    (hpad : (flags &&& Wire.Headers.padded == Wire.Headers.padded) = false)
    (hprio : (flags &&& Wire.Headers.priority == Wire.Headers.priority) = false)
    (hlen : (maxSize : Nat) ≤ peer.decoder.maxFrameLen)
    (hconts : peer.decoderMaxHeaderContinuations = 5)
    (hlimit : peer.decoderMaxHeaderListSize = limit.toNat)
    (hremote : c.remoteMaxHeaderListSize = limit.toNat)
    (hcheck : c.checkHeaderListSize pseudo.plain (Wire.HeaderMap.plain fields) = .ok ()) :
    ∃ e' hpack frames, e.encode hash (Wire.headerIter pseudo fields) [] = .ok (e', hpack) ∧
      Wire.encodeBlock hash pseudo fields e ⟨.headers, flags, id⟩ maxSize = .ok (e', frames) ∧
      (peer.Takes maxSize hpack.length →
        ∃ d item, (∀ rest, (reader S).run peer (frames.flatMap (·.octets) ++ rest) =
            ((reader S).run { peer with decoderHpack := d } rest).after [item]) ∧
          ((∃ v : Wire.Headers S, v.streamId = id ∧ item = .headers v) ∨
            ∃ err, item = .invalid ⟨.headers, id, err⟩) ∧
          InStep hash e' d) ∧
      (¬peer.Takes maxSize hpack.length →
        ∃ err, ((reader S).run peer (frames.flatMap (·.octets))).fault =
          some (.err (.continuation err)) ∧ OverLimit err) ∧
      (Hpack.huffmanListSize (headerList pseudo fields) ≤ limit.toNat →
        Hpack.huffmanListSize (headerList pseudo fields) ≤ 6 * maxSize →
          peer.Takes maxSize hpack.length) := by
  have hpos : 0 < (maxSize : Nat) := Nat.lt_of_lt_of_le (by decide) maxSize.2.1
  have hmax : (maxSize : Nat) < 2 ^ 24 := Nat.lt_of_le_of_lt maxSize.2.2 (by decide)
  obtain ⟨e', hpack, frames, b, henc, hblock, hoctets, hb, hlong, hover⟩ :=
    sent_list_spec hs (writable_of_check hremote hcheck) hc hzero hid hend hpad hprio hlen
  refine ⟨e', hpack, frames, henc, hblock, fun htakes => ?_, hover, fun hfit hframes => ?_⟩
  · have hshort := hlong.resolve_right (Nat.not_le_of_lt (htakes.length_lt hconts))
    obtain ⟨e1, hpack1, frames1, b1, s, henc1, hblock1, hoctets1, hb1, hdec, -, hs'⟩ :=
      encodeBlock_spec hs hshort hpos hmax hid hend hpad hprio
    rw [henc] at henc1
    cases henc1
    rw [hblock] at hblock1
    cases hblock1
    refine ⟨s.decoder, _, fun rest => ?_, blockItem_headers id b1.flags (peer.load s.calls), hs'⟩
    rw [hoctets1]
    exact run_splits hc hpos hlen hzero hb1 htakes hdec rest
  · have hshort := Hpack.short_of_huffmanListSize
      (Nat.lt_of_le_of_lt hframes (by omega : 6 * (maxSize : Nat) < 2 ^ 28))
    have hblocklen := hs.encode_length (Wire.reify_headerIter pseudo fields) hshort henc
    refine HasRoom.takes (.inr ⟨.inr ?_, ?_⟩) (Nat.le_trans (by decide) maxSize.2.1) hblocklen
    · rw [hconts]
      exact hframes
    · rw [hlimit]
      exact hfit

/-- A hundred backslashes: the Huffman forms are over the limit, the strings and the frame are
not. -/
theorem sent_list_survives_backslashes :
    ∃ p : Wire.PseudoHeaders Hpack.Link.asciiSyntax,
      256 < Hpack.huffmanListSize (headerList p []) ∧
      ∃ e' frames d item, Wire.encodeBlock (fun _ => 0) p []
          (default Hpack.Link.asciiSyntax).encoderHpack ⟨.headers, Wire.Headers.endHeaders, 1⟩
          defaultMaxFrameSize = .ok (e', frames) ∧
        (∀ rest, (reader _).run (limited 256) (frames.flatMap (·.octets) ++ rest) =
          ((reader _).run { limited 256 with decoderHpack := d } rest).after [item]) ∧
        ((∃ v : Wire.Headers _, v.streamId = 1 ∧ item = .headers v) ∨
          ∃ err, item = .invalid ⟨.headers, 1, err⟩) ∧
        InStep (fun _ => 0) e' d := by
  obtain ⟨e', hpack, frames, henc, hblock, hread, -⟩ := @sent_list_survives _ (limited 256)
    (fun _ => 0) (pathOnly (repeated 92 (by decide) 100)) []
    (default Hpack.Link.asciiSyntax).encoderHpack (informed 256) 1 Wire.Headers.endHeaders
    ⟨defaultMaxFrameSize, by decide⟩ 256
    (inStep_default _) ⟨rfl, rfl⟩ rfl (by decide) rfl rfl rfl (Nat.le_refl _) rfl rfl rfl
    (repeated_check (by decide) (by decide))
  have hlen : (repeated 92 (by decide) 100).bytes.length = 100 := List.length_replicate
  have hcode := Hpack.Huffman.encoded_length_le (repeated 92 (by decide) 100).bytes
  have hstr := Hpack.strOctets_length (s := (repeated 92 (by decide) 100).bytes) 1 (by omega)
  have htakes : (limited 256).Takes defaultMaxFrameSize hpack.length := by
    rw [repeated_block (by decide) (by decide) (by decide) henc, List.length_cons]
    exact .inl (show _ ≤ 16384 by omega)
  obtain ⟨d, item, hrun, hitem, hstep⟩ := hread htakes
  exact ⟨_, by decide +kernel, e', frames, d, item, hblock, hrun, hitem, hstep⟩

/-! ## Lists over a limit -/

/-- A path that the sender lets through, and whose code words do not fit into the limits. -/
theorem repeated_over {b : UInt8} (hb : b < 128) {k n limit : Nat}
    (hn : n ≤ (Hpack.Huffman.code b).length)
    (hk : 12 ≤ k) (hlt : k < 2 ^ 25) (hpass : 37 + k ≤ limit) (hbig : defaultMaxFrameSize ≤ limit)
    (hover : 8 * min limit (6 * defaultMaxFrameSize) < n * k) :
    (informed limit).checkHeaderListSize (pathOnly (repeated b hb k)).plain [] = .ok () ∧
    ∃ e' frames err, Wire.encodeBlock (fun _ => 0) (pathOnly (repeated b hb k)) []
        (default Hpack.Link.asciiSyntax).encoderHpack ⟨.headers, Wire.Headers.endHeaders, 1⟩
        defaultMaxFrameSize = .ok (e', frames) ∧
      ((reader _).run (limited limit) (frames.flatMap (·.octets))).fault =
        some (.err (.continuation err)) ∧ OverLimit err := by
  have hlen : (repeated b hb k).bytes.length = k := List.length_replicate
  refine ⟨repeated_check hb hpass, ?_⟩
  obtain ⟨e', hpack, frames, b', henc, hblock, -, -, -, hfault⟩ := @sent_list_spec _ (limited limit)
    (fun _ => 0) (pathOnly (repeated b hb k)) [] (default Hpack.Link.asciiSyntax).encoderHpack 1
    Wire.Headers.endHeaders ⟨defaultMaxFrameSize, by decide⟩ (inStep_default _)
    (fun h hmem => ⟨(repeated_short hb hlt h hmem).1.writable,
      (repeated_short hb hlt h hmem).2.writable⟩) ⟨rfl, rfl⟩
    rfl (by decide) rfl rfl rfl (Nat.le_refl _)
  have hhpack := repeated_block hb hk hlt henc
  have hcode := Hpack.Huffman.encoded_length_ge (n := n) (s := (repeated b hb k).bytes)
    fun c hc => by rwa [List.eq_of_mem_replicate hc]
  have hstr := Hpack.strOctets_length_ge (repeated b hb k).bytes
  have hsize : min limit (6 * defaultMaxFrameSize) < hpack.length - 1 := by
    rw [hlen] at hcode
    rw [hhpack, List.length_cons, Nat.add_sub_cancel]
    omega
  refine ⟨e', frames, ?_⟩
  have hnot : ¬(limited limit).Takes defaultMaxFrameSize hpack.length := by
    unfold defaultMaxFrameSize at hbig hsize ⊢
    rintro (hone | ⟨hcount, hmany⟩)
    · omega
    · have hfew := hcount.resolve_left (show ¬(5 : Nat) = 0 by decide)
      have hmax : (hpack.length - 1) / 16384 ≤ 5 := hfew
      have hle : hpack.length ≤ limit := hmany
      omega
  obtain ⟨err, hrun, herr⟩ := hfault hnot
  exact ⟨err, hblock, hrun, herr⟩

/-- Backslashes, which the Huffman form makes longer, and a limit beyond six frames. -/
theorem sent_list_killed :
    (∃ (p : Wire.PseudoHeaders Hpack.Link.asciiSyntax),
      (informed (48 * 1024)).checkHeaderListSize p.plain [] = .ok () ∧
      ∃ e' frames err, Wire.encodeBlock (fun _ => 0) p []
          (default Hpack.Link.asciiSyntax).encoderHpack ⟨.headers, Wire.Headers.endHeaders, 1⟩
          defaultMaxFrameSize = .ok (e', frames) ∧
        ((reader _).run (limited (48 * 1024)) (frames.flatMap (·.octets))).fault =
          some (.err (.continuation err)) ∧ OverLimit err) ∧
    ∃ (p : Wire.PseudoHeaders Hpack.Link.asciiSyntax),
      (informed (2 ^ 20)).checkHeaderListSize p.plain [] = .ok () ∧
      ∃ e' frames err, Wire.encodeBlock (fun _ => 0) p []
          (default Hpack.Link.asciiSyntax).encoderHpack ⟨.headers, Wire.Headers.endHeaders, 1⟩
          defaultMaxFrameSize = .ok (e', frames) ∧
        ((reader _).run (limited (2 ^ 20)) (frames.flatMap (·.octets))).fault =
          some (.err (.continuation err)) ∧ OverLimit err := by
  have hlong : 19 ≤ (Hpack.Huffman.code 92).length := by decide +kernel
  have hshort : 5 ≤ (Hpack.Huffman.code 97).length := by decide +kernel
  exact ⟨⟨_, repeated_over (k := 40000) (by decide) hlong (by decide) (by decide) (by decide)
      (by decide) (by decide)⟩,
    ⟨_, repeated_over (k := 160000) (by decide) hshort (by decide) (by decide) (by decide)
      (by decide) (by decide)⟩⟩

end Codec

end NtexH2
