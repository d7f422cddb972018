/-
  Codec/ListSize.lean --- the size of a header list at both ends (src/connection.rs,
  `check_header_list_size`, src/frame/headers.rs, `HeaderBlock::load`).

  The sender measures a list before it writes it, the receiver while it decodes it.  Both
  find the same size, unless a string of the list is so long that the receiver cannot
  read its length.
-/
import NtexH2.Codec.RoundTrip
import NtexH2.Connection.Local
import NtexH2.Hpack.BlockLength
import NtexH2.Hpack.LongStrings

set_option autoImplicit false

namespace NtexH2

open Lib

variable {S : HttpSyntax}

/-! ## The measure of the sender -/

namespace Wire

/-- The pseudo-headers as the connection sees them. -/
def PseudoHeaders.plain (p : PseudoHeaders S) : NtexH2.PseudoHeaders where
  method := p.method.map (·.bytes)
  scheme := p.scheme.map (·.bytes)
  authority := p.authority.map (·.bytes)
  path := p.path.map (·.bytes)
  protocol := p.protocol.map (·.bytes)
  status := p.status.map (·.code)

/-- The fields as the connection sees them. -/
def HeaderMap.plain (m : HeaderMap S) : NtexH2.HeaderMap := m.map fun f => (f.1.bytes, f.2.bytes)

/-- HEADERS as the connection sees them. -/
def Headers.plain (v : Headers S) : NtexH2.Headers :=
  ⟨v.streamId, v.pseudo.plain, HeaderMap.plain v.fields, v.isEndStream⟩

/-- The marks of the values are not for the connection. -/
theorem HeaderMap.plain_unmarked (m : HeaderMap S) :
    HeaderMap.plain m.unmarked = HeaderMap.plain m := by
  unfold plain unmarked
  rw [List.map_map]
  rfl

theorem PseudoHeaders.listSize_list (p : PseudoHeaders S) :
    listSize p.list = p.plain.headerListSize [] := by
  obtain ⟨method, scheme, authority, path, protocol, status⟩ := p
  have hone : ∀ {α : Type} (o : Option α) (f : α → Hpack.Named S),
      listSize (o.toList.map f) = o.elim 0 fun v => (f v).len := by
    intro α o f
    cases o <;> rfl
  unfold PseudoHeaders.list
  simp only [listSize_append, hone]
  show _ = _ + _ + _ + _ + _ + _
  simp only [plain, Option.elim_map]
  rfl

/-- The sizes of the fields are added to what is there. -/
theorem HeaderMap.foldl_plain (m : HeaderMap S) : ∀ n : Nat,
    (HeaderMap.plain m).foldl (fun acc f => acc + 32 + f.1.length + f.2.length) n =
      n + listSize (HeaderMap.list m) := by
  induction m with
  | nil => exact fun _ => rfl
  | cons f m ih =>
      intro n
      have hcons : listSize (HeaderMap.list (f :: m)) =
          (32 + f.1.bytes.length + f.2.bytes.length) + listSize (HeaderMap.list m) := rfl
      show (HeaderMap.plain m).foldl _ (n + 32 + f.1.bytes.length + f.2.bytes.length) = _
      rw [ih, hcons]
      omega

/-- The size that the sender computes is the size of the list. -/
theorem headerListSize_plain (p : PseudoHeaders S) (m : HeaderMap S) :
    p.plain.headerListSize m.plain = listSize (headerList p m) := by
  show (HeaderMap.plain m).foldl _ (p.plain.headerListSize []) = _
  rw [HeaderMap.foldl_plain, ← p.listSize_list]
  exact (listSize_append _ _).symm

end Wire

/-! ## The measure of the receiver -/

namespace Codec

open Wire (headerList Sendable)
open Connection (checkHeaderListSize)

variable {hash : Hpack.Name S → Nat} {peer : Codec S} {pseudo : Wire.PseudoHeaders S}
  {fields : Wire.HeaderMap S}

/-- The check of a sender that knows the limit of the receiver. -/
theorem checkHeaderListSize_error_iff {c : Connection} {p : NtexH2.PseudoHeaders}
    {m : NtexH2.HeaderMap} :
    c.checkHeaderListSize p m ≠ .ok () ↔ c.remoteMaxHeaderListSize < p.headerListSize m := by
  unfold checkHeaderListSize
  split
  · next h => exact iff_of_true nofun h
  · next h => exact iff_of_false (fun hne => hne rfl) h

/-- The frame that a block becomes is the rejection of a list over a limit. -/
theorem blockItem_rejected_iff {id : StreamId} {flags : UInt8} {l : Wire.Loading S}
    (hmal : l.malformed = false) :
    blockItem none (l.finish (.fromHead id flags)) = .invalid ⟨.headers, id, .tooManyHeaders id⟩ ↔
      l.tooManyHeaders = true := by
  unfold blockItem Wire.Loading.finish
  rw [hmal, if_neg Bool.false_ne_true]
  cases l.tooManyHeaders with
  | true => exact iff_of_true rfl rfl
  | false => exact iff_of_false nofun Bool.false_ne_true

/-- A header list that is written in frames of a size: the receiver finds the size that the
sender has computed, up to what a word holds; and if no other limit of the receiver is hit, it
rejects the list exactly if the check of the sender against the receiver's limit fails. -/
theorem listSize_agrees {e : Hpack.Encoder S} {c : Connection} {id : StreamId} {flags : UInt8}
    {maxSize : FrameSize} (limit : UInt32) (hs : InStep hash e peer.decoderHpack) (hc : peer.Idle)
    (hsend : ∀ f ∈ fields, Sendable f.1 f.2) (hshort : ∀ h ∈ headerList pseudo fields, h.Short)
    (hzero : StreamId.isZero id = false) (hid : id < 2 ^ 31)
    (hend : flags &&& Wire.Headers.endHeaders = Wire.Headers.endHeaders)
    (hpad : (flags &&& Wire.Headers.padded == Wire.Headers.padded) = false)
    (hprio : (flags &&& Wire.Headers.priority == Wire.Headers.priority) = false)
    (hlen : (maxSize : Nat) ≤ peer.decoder.maxFrameLen)
    (hremote : c.remoteMaxHeaderListSize = limit.toNat)
    (hlimit : peer.decoderMaxHeaderListSize = limit.toNat) :
    ∃ e' hpack frames s, e.encode hash (Wire.headerIter pseudo fields) [] = .ok (e', hpack) ∧
      Wire.encodeBlock hash pseudo fields e ⟨.headers, flags, id⟩ maxSize = .ok (e', frames) ∧
      peer.decoderHpack.decode ⟨hpack, 0⟩ = .ok () s ∧
      (peer.load s.calls).listSize =
        min (pseudo.plain.headerListSize (Wire.HeaderMap.plain fields)) (wordSize - 1) ∧
      (fields.length ≤ peer.decoderMaxHeaders → peer.Takes maxSize hpack.length →
        ∃ item, (∀ rest, (reader S).run peer (frames.flatMap (·.octets) ++ rest) =
            ((reader S).run { peer with decoderHpack := s.decoder } rest).after [item]) ∧
          (item = .invalid ⟨.headers, id, .tooManyHeaders id⟩ ↔
            c.checkHeaderListSize pseudo.plain (Wire.HeaderMap.plain fields) ≠ .ok ())) := by
  have hpos : 0 < (maxSize : Nat) := Nat.lt_of_lt_of_le (by decide) maxSize.2.1
  have hmax : (maxSize : Nat) < 2 ^ 24 := Nat.lt_of_le_of_lt maxSize.2.2 (by decide)
  obtain ⟨e', hpack, frames, b, s, henc, hblock, hoctets, hb, hdec, hcalls, -⟩ :=
    encodeBlock_spec hs hshort hpos hmax hid hend hpad hprio
  have hsize : Wire.listSize s.calls =
      pseudo.plain.headerListSize (Wire.HeaderMap.plain fields) := by
    rw [hcalls, Wire.headerListSize_plain]
    exact Wire.listSize_iter ⟨fun m => m, fun _ _ => rfl⟩ pseudo fields
  refine ⟨e', hpack, frames, s, henc, hblock, hdec, ?_, fun hcount htakes => ?_⟩
  · have htotal := @Wire.Loading.foldl_listSize S peer.decoderMaxHeaders
      peer.decoderMaxHeaderListSize s.calls (.start S) (show 0 < wordSize by decide)
    unfold load
    rw [htotal, hsize, show (Wire.Loading.start S).listSize = 0 from rfl, Nat.zero_add]
  · have hrun := fun rest => run_splits hc hpos hlen hzero hb htakes hdec rest
    rw [← hoctets] at hrun
    refine ⟨_, hrun, ?_⟩
    have hunmarked : ∀ f ∈ Wire.HeaderMap.unmarked fields, Sendable f.1 f.2 := by
      intro f hf
      obtain ⟨g, hg, rfl⟩ := List.mem_map.mp hf
      exact hsend g hg
    have hword : peer.decoderMaxHeaderListSize < wordSize - 1 := by
      have hlt := limit.toNat_lt
      rw [hlimit]
      exact Nat.lt_of_lt_of_le hlt (by decide)
    obtain ⟨hmal, hmany⟩ := @Wire.Loading.headerList_rejected_iff S peer.decoderMaxHeaders
      peer.decoderMaxHeaderListSize pseudo (Wire.HeaderMap.unmarked fields)
      (by unfold Wire.HeaderMap.unmarked; rw [List.length_map]; exact hcount) hword hunmarked
    rw [← hcalls] at hmal hmany
    rw [blockItem_rejected_iff (l := peer.load s.calls) hmal, checkHeaderListSize_error_iff,
      hremote, ← hlimit, ← hsize]
    exact hmany

/-- A request of 84 octets. -/
def smallPseudo : Wire.PseudoHeaders Hpack.Link.asciiSyntax :=
  { Wire.PseudoHeaders.default _ with method := some ⟨octets "GET", Hpack.Link.get_ok⟩ }

def smallFields : Wire.HeaderMap Hpack.Link.asciiSyntax :=
  [(⟨octets "x-trace", Hpack.Link.trace_ok⟩, ⟨octets "one", false, Hpack.Link.one_ok⟩)]

theorem listSize_agrees_small :
    let peer := { default Hpack.Link.asciiSyntax with decoderMaxHeaderListSize := 64 }
    let c := { Connection.new false .new false false with remoteMaxHeaderListSize := 64 }
    ∃ e' frames d item, Wire.encodeBlock (fun _ => 0) smallPseudo smallFields
        (default Hpack.Link.asciiSyntax).encoderHpack ⟨.headers, Wire.Headers.endHeaders, 1⟩
        defaultMaxFrameSize = .ok (e', frames) ∧
      (∀ rest, (reader _).run peer (frames.flatMap (·.octets) ++ rest) =
        ((reader _).run { peer with decoderHpack := d } rest).after [item]) ∧
      item = .invalid ⟨.headers, 1, .tooManyHeaders 1⟩ ∧
      c.checkHeaderListSize smallPseudo.plain (Wire.HeaderMap.plain smallFields) ≠ .ok () := by
  intro peer c
  have hshort : ∀ h ∈ headerList smallPseudo smallFields, h.Short := by
    intro h hh
    have hlen : ∀ h ∈ headerList smallPseudo smallFields,
        h.name.asSlice.length < 2 ^ 25 ∧ h.valueSlice.length < 2 ^ 25 := by decide +kernel
    exact ⟨Hpack.Link.short_of_length (hlen h hh).1, Hpack.Link.short_of_length (hlen h hh).2⟩
  obtain ⟨e', hpack, frames, s, henc, hblock, -, -, hitem⟩ := @listSize_agrees _ (fun _ => 0) peer
    smallPseudo smallFields (default Hpack.Link.asciiSyntax).encoderHpack c 1
    Wire.Headers.endHeaders ⟨defaultMaxFrameSize, by decide⟩ 64 (inStep_default _) ⟨rfl, rfl⟩
    (by unfold Sendable; decide +kernel) hshort rfl (by decide) rfl rfl rfl (by decide) rfl rfl
  have hlen : ((default Hpack.Link.asciiSyntax).encoderHpack.encode (fun _ => 0)
      (Wire.headerIter smallPseudo smallFields) []).map (·.2.length) = .ok 11 := by
    decide +kernel
  rw [henc] at hlen
  have htakes : peer.Takes defaultMaxFrameSize hpack.length :=
    .inl (Nat.le_trans (Nat.le_of_eq (Except.ok.inj hlen)) (by decide))
  obtain ⟨item, hrun, hiff⟩ := hitem (by decide) htakes
  have hcheck : c.checkHeaderListSize smallPseudo.plain (Wire.HeaderMap.plain smallFields) ≠
      .ok () := checkHeaderListSize_error_iff.mpr (by decide)
  exact ⟨e', frames, s.decoder, item, hblock, hrun, hiff.mpr hcheck, hcheck⟩

/-! ## Lists with room -/

/-- A list has room within the limits of the reader, counted with the Huffman forms of its strings:
in one frame, or in as many as are taken. -/
def HasRoom (peer : Codec S) (maxSize : Nat) (l : List (Hpack.Named S)) : Prop :=
  Hpack.huffmanListSize l ≤ maxSize ∨
    (peer.decoderMaxHeaderContinuations = 0 ∨
        Hpack.huffmanListSize l ≤ (peer.decoderMaxHeaderContinuations + 1) * maxSize) ∧
      Hpack.huffmanListSize l ≤ peer.decoderMaxHeaderListSize

/-- A block of `n` octets for a list: the headers leave more octets than the sizes of the table
take. -/
theorem HasRoom.takes {maxSize n : Nat} {l : List (Hpack.Named S)} (h : peer.HasRoom maxSize l)
    (hmin : 6 ≤ maxSize) (hlen : n + 21 * l.length ≤ 6 + Hpack.huffmanListSize l) :
    peer.Takes maxSize n := by
  rcases Nat.eq_zero_or_pos l.length with hnil | hpos
  · rw [List.length_eq_zero_iff.mp hnil] at hlen
    exact .inl (Nat.le_trans hlen hmin)
  · rcases h with hone | ⟨hcount, hlimit⟩
    · exact .inl (by omega)
    · refine .inr ⟨hcount.imp_right fun hfew => ?_, by omega⟩
      have hlt : n - 1 < Hpack.huffmanListSize l := by omega
      exact Nat.le_of_lt_succ
        ((Nat.div_lt_iff_lt_mul (by omega)).mpr (Nat.lt_of_lt_of_le hlt hfew))

/-- Nor does the size with the Huffman forms depend on the order of the fields. -/
theorem huffmanListSize_iter (order : Wire.MapOrder S) (pseudo : Wire.PseudoHeaders S)
    (fields : Wire.HeaderMap S) :
    Hpack.huffmanListSize (headerList pseudo (order.iter fields)) =
      Hpack.huffmanListSize (headerList pseudo fields) :=
  ((((order.iter_perm fields).map _).append_left pseudo.list).map _).sum_eq

/-! ## A list that cannot be read -/

/-- The path of a request. -/
def pathOnly (v : Hpack.ByteString S) : Wire.PseudoHeaders S :=
    { Wire.PseudoHeaders.default S with path := some v }

/-- A list whose path is long: the receiver finds nothing to measure. -/
theorem listSize_pathOnly {v : Hpack.ByteString S} (h : Hpack.Long v.bytes)
    (hash : Hpack.Name S → Nat) (peer : Codec S) :
    ∃ e' hpack s, (Hpack.Encoder.default S).encode hash (Wire.headerIter (pathOnly v) []) [] =
        .ok (e', hpack) ∧
      peer.decoderHpack.decode ⟨hpack, 0⟩ = .error (.err .integerOverflow) s ∧
      (peer.load s.calls).listSize = 0 ∧
      (pathOnly v).plain.headerListSize [] = 37 + v.bytes.length ∧
      ∀ id, (Wire.loadBlock id hpack peer.decoderHpack peer.decoderMaxHeaders
        peer.decoderMaxHeaderListSize).1 = .error (.err (.hpack .integerOverflow)) := by
  obtain ⟨s, hdec, hcalls⟩ := Hpack.decode_longPath peer.decoderHpack h
  refine ⟨_, _, s, Hpack.encode_longPath hash h, hdec, ?_, ?_, fun id => ?_⟩
  · unfold load
    rw [hcalls]
    rfl
  · show 0 + 0 + 0 + (32 + 5 + v.bytes.length) + 0 + 0 = _
    omega
  · unfold Wire.loadBlock
    rw [hdec]

/-- A path of `2 ^ 29` octets. -/
def longPath : Hpack.ByteString Hpack.Link.asciiSyntax :=
  ⟨List.replicate (2 ^ 29) 47, List.all_eq_true.mpr fun b hb => by
    rw [List.eq_of_mem_replicate hb]
    decide⟩

theorem longPath_length : longPath.bytes.length = 2 ^ 29 := List.length_replicate

theorem listSize_longPath :
    ∃ e' hpack s, (Hpack.Encoder.default Hpack.Link.asciiSyntax).encode (fun _ => 0)
        (Wire.headerIter (pathOnly longPath) []) [] = .ok (e', hpack) ∧
      (default Hpack.Link.asciiSyntax).decoderHpack.decode ⟨hpack, 0⟩ =
        .error (.err .integerOverflow) s ∧
      ((default Hpack.Link.asciiSyntax).load s.calls).listSize ≠
        (pathOnly longPath).plain.headerListSize [] := by
  have hlength := longPath_length
  obtain ⟨e', hpack, s, henc, hdec, hzero, hsize, -⟩ := listSize_pathOnly
    (Hpack.long_of_length (Nat.le_of_eq hlength.symm) (by rw [hlength]; decide)) (fun _ => 0)
    (default Hpack.Link.asciiSyntax)
  refine ⟨e', hpack, s, henc, hdec, ?_⟩
  rw [hzero, hsize]
  omega

end Codec

end NtexH2
