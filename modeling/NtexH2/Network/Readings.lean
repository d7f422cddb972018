/-
  Network/Readings.lean --- what the codec of the receiver makes of a sent header list.

  Two ends exchange frames, and the codec of the receiver may reject a list of headers.  Here
  the codecs of both are at work: a list that is written, and whose block the receiver takes,
  is read as `Frame.ReadAs` has it.
-/
import NtexH2.Codec.SentLists
import NtexH2.Connection.Mail

set_option autoImplicit false

namespace NtexH2

open Lib

variable {S : HttpSyntax}

namespace Codec

open Wire (headerList)

variable {hash : Hpack.Name S → Nat} {peer : Codec S} {pseudo : Wire.PseudoHeaders S}
  {fields : Wire.HeaderMap S}

/-- The frame of a connection for a decoded HEADERS frame, or for a rejected one. -/
def Opens (item : Wire.Frame S) (f : Frame) : Prop :=
  (∃ v : Wire.Headers S, item = .headers v ∧ f = .headers v.plain) ∨
    ∃ v, item = .invalid v ∧ f = .invalid v

/-- A header list that has been decoded is the one that was sent, or it is rejected. -/
theorem blockItem_read (id : StreamId) (flags : UInt8) {eos : Bool}
    (heos : (Wire.Headers.fromHead id flags : Wire.Headers S).isEndStream = eos) :
    ∃ f, Opens (blockItem none
        ((peer.load (headerList pseudo fields.unmarked)).finish (.fromHead id flags))) f ∧
      (Frame.headers ⟨id, pseudo.plain, Wire.HeaderMap.plain fields, eos⟩).ReadAs f := by
  unfold blockItem Wire.Loading.finish
  split_ifs with hmal hmany
  · exact ⟨_, .inr ⟨_, rfl, rfl⟩, .rejected _ (.inl rfl)⟩
  · exact ⟨_, .inr ⟨_, rfl, rfl⟩, .rejected _ (.inr rfl)⟩
  · obtain ⟨hpseudo, hfields⟩ := Wire.Loading.foldl_loaded (Bool.eq_false_iff.mpr hmal)
      (Bool.eq_false_iff.mpr hmany)
    refine ⟨_, .inl ⟨_, rfl, rfl⟩, ?_⟩
    unfold load
    rw [hpseudo, hfields, ← heos, ← fields.plain_unmarked]
    exact .same _

/-- A header list that is written, and whose block the receiver takes: the codec of the receiver
hands over one frame, which is the HEADERS frame that was sent, or an invalid one in its place. -/
theorem sent_block_read {e : Hpack.Encoder S} {id : StreamId} {flags : UInt8} {maxSize : FrameSize}
    (hs : InStep hash e peer.decoderHpack) (hshort : ∀ h ∈ headerList pseudo fields, h.Short)
    (hc : peer.Idle) (hzero : StreamId.isZero id = false) (hid : id < 2 ^ 31)
    (hend : flags &&& Wire.Headers.endHeaders = Wire.Headers.endHeaders)
    (hpad : (flags &&& Wire.Headers.padded == Wire.Headers.padded) = false)
    (hprio : (flags &&& Wire.Headers.priority == Wire.Headers.priority) = false)
    (hlen : (maxSize : Nat) ≤ peer.decoder.maxFrameLen) :
    ∃ e' hpack frames, e.encode hash (Wire.headerIter pseudo fields) [] = .ok (e', hpack) ∧
      Wire.encodeBlock hash pseudo fields e ⟨.headers, flags, id⟩ maxSize = .ok (e', frames) ∧
      (peer.Takes maxSize hpack.length → ∃ d item f,
        (∀ rest, (reader S).run peer (frames.flatMap (·.octets) ++ rest) =
          ((reader S).run { peer with decoderHpack := d } rest).after [item]) ∧
        InStep hash e' d ∧ Opens item f ∧
        (Frame.headers ⟨id, pseudo.plain, Wire.HeaderMap.plain fields,
          flags &&& Wire.Headers.endStream == Wire.Headers.endStream⟩).ReadAs f) := by
  have hpos : 0 < (maxSize : Nat) := Nat.lt_of_lt_of_le (by decide) maxSize.2.1
  have hmax : (maxSize : Nat) < 2 ^ 24 := Nat.lt_of_le_of_lt maxSize.2.2 (by decide)
  obtain ⟨e', hpack, frames, b, s, henc, hblock, hoctets, hb, hdec, hcalls, hs'⟩ :=
    encodeBlock_spec hs hshort hpos hmax hid hend hpad hprio
  refine ⟨e', hpack, frames, henc, hblock, fun htakes => ?_⟩
  obtain ⟨f, hopens, hread⟩ := @blockItem_read _ peer pseudo fields id b.flags _
    (b.isEndStream.trans hb.endStream)
  rw [← hcalls] at hopens
  refine ⟨s.decoder, _, f, fun rest => ?_, hs', hopens, hread⟩
  rw [hoctets]
  exact run_splits hc hpos hlen hzero hb htakes hdec rest

end Codec

end NtexH2
