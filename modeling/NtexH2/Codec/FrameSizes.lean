/-
  Codec/FrameSizes.lean --- the sizes of written frames (src/codec/mod.rs, `encode`).

  A frame fits if its payload is within the limit of the peer and its length field
  counts the payload.  Header blocks are split so that every part fits; padded DATA of
  the largest size and GOAWAY with much data do not fit.
-/
import NtexH2.Codec.Model
import NtexH2.Wire.RoundTrip
import NtexH2.Hpack.Agreement

set_option autoImplicit false

namespace NtexH2

open Lib

namespace Wire

variable {S : HttpSyntax}

/-- The length field of a written frame. -/
def Written.lengthField (w : Written) : Nat := BigEndian.read (w.octets.take 3)

/-- The payload is within the limit, and the length field counts it. -/
structure Written.Fits (maxSize : Nat) (w : Written) : Prop where
  bound : w.payload.length ≤ maxSize
  counted : w.lengthField = w.payload.length

theorem Written.lengthField_eq (w : Written) : w.lengthField = w.payloadLen % 2 ^ 24 := by
  have htake : w.octets.take 3 = BigEndian.write 3 w.payloadLen := by
    unfold octets Head.encode
    rw [List.append_assoc, List.append_assoc]
    exact List.take_left' (BigEndian.length_write 3 w.payloadLen)
  rw [lengthField, htake, BigEndian.read_write]
  norm_num

/-- A frame that is written with the length of its payload fits if the payload does. -/
theorem Written.fits_of_le {maxSize : Nat} (hmax : maxSize < 2 ^ 24) {w : Written}
    (hlen : w.payloadLen = w.payload.length) (hle : w.payload.length ≤ maxSize) :
    w.Fits maxSize := by
  refine ⟨hle, ?_⟩
  rw [lengthField_eq, hlen, Nat.mod_eq_of_lt (Nat.lt_of_le_of_lt hle hmax)]

/-! ## Header blocks -/

theorem length_fragment {hpack : Bytes} (start : Nat) {stop : Nat}
    (hstop : stop ≤ hpack.length) :
    ((hpack.take stop).drop start).length = stop - start := by
  rw [List.length_drop, List.length_take, Nat.min_eq_left hstop]

/-- Each frame of a header block fits. -/
theorem splitBlock_fits {hpack : Bytes} {maxSize : Nat} (hmax : maxSize < 2 ^ 24) (fuel : Nat) :
    ∀ (head : Head) (start : Nat) (frames : List Written),
      splitBlock hpack maxSize fuel head start = .ok frames → ∀ w ∈ frames, w.Fits maxSize := by
  induction fuel with
  | zero =>
      intro head start frames h
      cases h
  | succ fuel ih =>
      intro head start frames h w hw
      unfold splitBlock at h
      dsimp only at h
      have hstop : min (start + maxSize) hpack.length ≤ hpack.length := Nat.min_le_right _ _
      have hlen := length_fragment start hstop
      split at h
      · next hgt =>
          obtain ⟨rest, hrest, hok⟩ := bind_eq_ok.mp h
          cases hok
          rcases List.mem_cons.mp hw with rfl | hw
          · -- the limit is what cuts the block here
            refine Written.fits_of_le hmax ?_ ?_
            · show maxSize = _
              rw [hlen]
              omega
            · show List.length _ ≤ _
              rw [hlen]
              omega
          · exact ih _ _ _ hrest w hw
      · cases h
        cases List.mem_singleton.mp hw
        refine Written.fits_of_le hmax hlen.symm ?_
        show List.length _ ≤ _
        rw [hlen]
        omega

theorem Headers.encode_fits {hash : Hpack.Name S → Nat} {order : MapOrder S} {h : Headers S}
    {e e' : Hpack.Encoder S} {maxSize : Nat} {frames : List Written} (hmax : maxSize < 2 ^ 24)
    (hok : h.encode hash order e maxSize = .ok (e', frames)) : ∀ w ∈ frames, w.Fits maxSize := by
  unfold Headers.encode at hok
  obtain ⟨-, -, hok⟩ := bind_eq_ok.mp hok
  unfold encodeBlock at hok
  obtain ⟨r, -, hok⟩ := bind_eq_ok.mp hok
  obtain ⟨frames', hsplit, hok⟩ := bind_eq_ok.mp hok
  cases hok
  exact splitBlock_fits hmax _ _ _ _ hsplit

/-! ## The other frames -/

theorem Settings.payloadLen_eq (s : Settings) : payloadLen s = 6 * (each s).length := by
  have hfold : ∀ (l : List Setting) (n : Nat),
      l.foldl (fun len _ => len + 6) n = n + 6 * l.length := by
    intro l
    induction l with
    | nil => exact fun _ => rfl
    | cons s l ih =>
        intro n
        rw [List.foldl_cons, ih, List.length_cons]
        omega
  unfold payloadLen
  rw [hfold, Nat.zero_add]

/-- There are seven settings at most. -/
theorem Settings.length_each (s : Settings) : (each s).length ≤ 7 := by
  have hone : ∀ o : Option Nat, o.toList.length ≤ 1 := by
    intro o
    cases o with
    | none => exact Nat.zero_le 1
    | some v => exact Nat.le_refl 1
  have h1 := hone s.headerTableSize
  have h2 := hone s.enablePush
  have h3 := hone s.maxConcurrentStreams
  have h4 := hone s.initialWindowSize
  have h5 := hone s.maxFrameSize
  have h6 := hone s.maxHeaderListSize
  have h7 := hone s.enableConnectProtocol
  unfold each
  simp only [List.length_append, List.length_map]
  omega

/-- A frame with a few octets fits. -/
theorem Written.fits_small (size : FrameSize) {w : Written}
    (hlen : w.payloadLen = w.payload.length) (hsmall : w.payload.length ≤ 42) :
    w.Fits size := by
  have hmin : 16384 ≤ (size : Nat) := size.2.1
  have hmax := size.2.2
  exact fits_of_le (by omega) hlen (by omega)

theorem Settings.encode_fits (size : FrameSize) (s : Settings) : (encode s).Fits size := by
  have hlen := Setting.length_encodeAll (each s)
  have hcount := length_each s
  refine Written.fits_small size ?_ ?_
  · show payloadLen s = ((each s).flatMap Setting.encode).length
    rw [hlen, payloadLen_eq]
  · show ((each s).flatMap Setting.encode).length ≤ 42
    rw [hlen]
    omega

theorem Ping.encode_fits (size : FrameSize) (p : Ping) : p.encode.Fits size := by
  refine Written.fits_small size rfl ?_
  show p.payload.length ≤ 42
  rw [p.size]
  decide

theorem WindowUpdate.encode_fits (size : FrameSize) (u : WindowUpdate) : u.encode.Fits size := by
  have hlen : u.encode.payload.length = 4 := BigEndian.length_write 4 u.sizeIncrement
  exact Written.fits_small size hlen.symm (by rw [hlen]; decide)

theorem Reset.encode_fits (size : FrameSize) (r : Reset) : r.encode.Fits size := by
  have hlen : r.encode.payload.length = 4 := BigEndian.length_write 4 r.errorCode.code
  exact Written.fits_small size hlen.symm (by rw [hlen]; decide)

/-- The payload of DATA has one more octet if it is padded. -/
theorem Data.encode_length (d : Data) :
    d.encode.payloadLen = d.encode.payload.length ∧
      d.encode.payload.length = d.payload.length + (if d.isPadded then 1 else 0) := by
  unfold encode
  split
  · exact ⟨rfl, rfl⟩
  · exact ⟨rfl, rfl⟩

theorem GoAway.encode_length (g : GoAway) :
    g.encode.payloadLen = g.encode.payload.length ∧
      g.encode.payload.length = 8 + g.data.length := by
  have hlen : g.encode.payload.length = 8 + g.data.length := by
    show (_ ++ _ ++ g.data).length = _
    rw [List.length_append, List.length_append, BigEndian.length_write, BigEndian.length_write]
  exact ⟨hlen.symm, hlen⟩

/-- A frame that is written with the length of its payload fits only if the payload does. -/
theorem Written.fits_iff (size : FrameSize) {w : Written}
    (hlen : w.payloadLen = w.payload.length) : w.Fits size ↔ w.payload.length ≤ size := by
  have hmax := size.2.2
  exact ⟨fun h => h.bound, fun h => fits_of_le (by omega) hlen h⟩

end Wire

namespace Codec

variable {S : HttpSyntax}

open Wire (Written)

/-- The frames that fit once they are written: DATA that is padded is one octet smaller than the
limit, and the data of GOAWAY leaves room for the eight octets before it. -/
def Bounded (maxSize : Nat) : Wire.Frame S → Prop
  | .data v => ¬(v.isPadded = true ∧ v.payload.length = maxSize)
  | .goAway v => 8 + v.data.length ≤ maxSize
  | _ => True

/-- What is written, when one frame is. -/
theorem forall_writes {c : Codec S} {w : Written} {P : Written → Prop} :
    (∀ c' frames, c.writes w = .ok (c', frames) → ∀ w ∈ frames, P w) ↔ P w := by
  constructor
  · intro h
    exact h c [w] rfl w (List.mem_singleton_self w)
  · intro h c' frames hok x hx
    cases hok
    rw [List.mem_singleton.mp hx]
    exact h

/-- Every frame that `encode` writes is within the limit of the peer, and its length field counts
its payload, exactly for the bounded frames. -/
theorem encode_fits_iff (hash : Hpack.Name S → Nat) (order : Wire.MapOrder S) (c : Codec S)
    (f : Wire.Frame S) :
    (∀ c' frames, c.encode hash order f = .ok (c', frames) →
      ∀ w ∈ frames, w.payload.length ≤ c.encoderMaxFrameSize ∧
        w.lengthField = w.payload.length) ↔ Bounded c.encoderMaxFrameSize f := by
  have hfits : ∀ w : Written, (w.payload.length ≤ c.encoderMaxFrameSize ∧
      w.lengthField = w.payload.length) ↔ w.Fits c.encoderMaxFrameSize :=
    fun w => ⟨fun h => ⟨h.1, h.2⟩, fun h => ⟨h.bound, h.counted⟩⟩
  simp only [hfits]
  cases f with
  | data v =>
      obtain ⟨hlen, hpay⟩ := v.encode_length
      unfold encode Bounded
      dsimp only
      split
      · next hgt =>
          refine iff_of_true (fun _ _ h => by cases h) fun h => ?_
          omega
      · next hle =>
          rw [forall_writes, Written.fits_iff _ hlen, hpay]
          cases hp : v.isPadded with
          | true =>
              simp only [if_true, true_and]
              omega
          | false =>
              simp only [Bool.false_eq_true, if_false, false_and, not_false_eq_true, iff_true]
              omega
  | headers v =>
      refine iff_of_true (fun c' frames h => ?_) trivial
      unfold encode at h
      dsimp only at h
      cases hr : v.encode hash order c.encoderHpack c.encoderMaxFrameSize with
      | error p =>
          rw [hr] at h
          cases h
      | ok r =>
          rw [hr] at h
          cases h
          have hmax := c.encoderMaxFrameSize.2.2
          exact Wire.Headers.encode_fits (by omega) hr
  | settings v =>
      exact iff_of_true (forall_writes.mpr (Wire.Settings.encode_fits _ v)) trivial
  | ping v => exact iff_of_true (forall_writes.mpr (v.encode_fits _)) trivial
  | goAway v =>
      obtain ⟨hlen, hpay⟩ := v.encode_length
      refine forall_writes.trans ?_
      rw [Written.fits_iff _ hlen, hpay]
      exact Iff.rfl
  | windowUpdate v => exact iff_of_true (forall_writes.mpr (v.encode_fits _)) trivial
  | reset v => exact iff_of_true (forall_writes.mpr (v.encode_fits _)) trivial
  | priority v =>
      refine iff_of_true (fun c' frames h => ?_) trivial
      cases h
      exact fun _ hw => by cases hw
  | invalid v =>
      refine iff_of_true (fun c' frames h => ?_) trivial
      cases h
      exact fun _ hw => by cases hw

/-- DATA of the default frame size, padded. -/
def paddedData : Wire.Data := ⟨1, List.replicate defaultMaxFrameSize 0, Wire.Data.padded, 16385⟩

/-- Padded DATA of the largest size is written with one octet more. -/
theorem encode_over_limit :
    ¬∀ (S : HttpSyntax) (hash : Hpack.Name S → Nat) (order : Wire.MapOrder S) (c : Codec S)
      (f : Wire.Frame S) (c' : Codec S) (frames : List Written),
      c.encode hash order f = .ok (c', frames) →
        ∀ w ∈ frames, w.payload.length ≤ c.encoderMaxFrameSize ∧
          w.lengthField = w.payload.length := by
  intro h
  have hlen : paddedData.payload.length = defaultMaxFrameSize := List.length_replicate
  have hok : (default Hpack.Link.asciiSyntax).encode (fun _ => 0) ⟨id, fun _ _ => rfl⟩
      (.data paddedData) = .ok (default Hpack.Link.asciiSyntax, [paddedData.encode]) := by
    unfold encode
    exact if_neg (Nat.not_lt.mpr (Nat.le_of_eq hlen))
  have hle := (h _ _ _ _ _ _ _ hok _ (List.mem_singleton_self _)).1
  rw [paddedData.encode_length.2, hlen] at hle
  exact absurd hle (by decide)

end Codec

end NtexH2
