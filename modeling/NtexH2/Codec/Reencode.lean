/-
  Codec/Reencode.lean --- decoded frames that are encoded again (src/codec/mod.rs).

  What is decoded is well formed: its ids and values fit into their fields, its payload into
  a frame of the size that was read, and its fields may be sent.  Written again it is read
  back, unless it is a HEADERS frame that still announces the padding or the stream
  dependency which the decoder has taken off.
-/
import NtexH2.Codec.Sequences

set_option autoImplicit false

namespace NtexH2

open Lib

variable {S : HttpSyntax}

namespace Codec

open Wire (headerList)

variable {c c' : Codec S} {maxSize : Nat}

/-! ## What is decoded -/

/-- What holds of a decoded frame. -/
def Decoded (maxSize : Nat) : Wire.Frame S → Prop
  | .headers v => StreamId.isZero v.streamId = false ∧ v.streamId < 2 ^ 31 ∧
      v.isEndHeaders = true ∧ ∀ f ∈ v.fields, Wire.Sendable f.1 f.2
  | .priority _ | .invalid _ => True
  | f => Sends maxSize f

/-- The frame has no padding and no stream dependency left to announce. -/
def Stripped : Wire.Frame S → Prop
  | .headers v => Plain v
  | _ => True

theorem Decoded.sends {f : Wire.Frame S} (h : Decoded maxSize f) (hplain : Stripped f)
    (hpriority : ∀ v, f ≠ .priority v) (hinvalid : ∀ v, f ≠ .invalid v) : Sends maxSize f := by
  cases f with
  | headers v => exact ⟨h.1, h.2.1, h.2.2.1, hplain, h.2.2.2⟩
  | priority v => exact absurd rfl (hpriority v)
  | invalid v => exact absurd rfl (hinvalid v)
  | _ => exact h

variable {hash : Hpack.Name S → Nat} {order : Wire.MapOrder S} {w peer : Codec S}

/-- The limits of the reader leave room for a frame: for the number of its fields, for their size
and for the block that they become, whatever the tables hold. -/
def RoomFor (peer : Codec S) (maxSize : Nat) : Wire.Frame S → Prop
  | .headers v => v.fields.length ≤ peer.decoderMaxHeaders ∧
      Wire.listSize (headerList v.pseudo v.fields) ≤ peer.decoderMaxHeaderListSize ∧
      peer.HasRoom maxSize (headerList v.pseudo v.fields)
  | _ => True

/-- The block of such a frame is taken. -/
theorem RoomFor.admits {f : Wire.Frame S} (hroom : peer.RoomFor w.encoderMaxFrameSize f)
    (hs : InStep hash w.encoderHpack peer.decoderHpack) (hshort : ShortStrings f) :
    Admits hash order w peer f := by
  cases f with
  | headers v =>
      obtain ⟨hcount, hsize, hlist⟩ := hroom
      refine ⟨hcount, hsize, fun e hpack henc => ?_⟩
      have hshort' : ∀ h ∈ headerList v.pseudo (order.iter v.fields), h.Short := fun h hmem =>
        hshort h ((((order.iter_perm v.fields).map _).append_left v.pseudo.list).mem_iff.mp hmem)
      have hblock := hs.encode_length (Wire.reify_headerIter v.pseudo (order.iter v.fields))
        hshort' henc
      unfold HasRoom at hlist
      rw [← huffmanListSize_iter order] at hlist
      exact HasRoom.takes hlist (Nat.le_trans (by decide) w.encoderMaxFrameSize.2.1) hblock
  | _ => trivial

/-- The request, with the flag. -/
def strippedRequest : Wire.Headers Hpack.Link.asciiSyntax where
  streamId := 1
  pseudo := { Wire.PseudoHeaders.default _ with method := some ⟨octets "GET", Hpack.Link.get_ok⟩ }
  fields := []
  flags := Wire.Headers.padded ||| Wire.Headers.endHeaders

/-- The request with the flag of a stream dependency. -/
def dependentRequest : Wire.Headers Hpack.Link.asciiSyntax :=
  { strippedRequest with flags := Wire.Headers.priority ||| Wire.Headers.endHeaders }

-- Table size updates of five octets pass for the dependency, and the request comes back.
example :
    ((((default _).setSendHeaderTableSize 100).setSendHeaderTableSize 4096).encode (fun _ => 0)
        ⟨id, fun _ _ => rfl⟩ (.headers dependentRequest)).map (·.2) =
      .ok [⟨⟨.headers, 0x24, 1⟩, 6, [0x3F, 0x45, 0x3F, 0xE1, 0x1F, 0x82]⟩] ∧
    ((default Hpack.Link.asciiSyntax).decode
        [0, 0, 6, 1, 0x24, 0, 0, 0, 1, 0x3F, 0x45, 0x3F, 0xE1, 0x1F, 0x82]).1 =
      .ok (some (.headers dependentRequest)) := by
  decide +kernel

end Codec

end NtexH2
