/-
  Codec/Chunks.lean --- input in pieces (src/codec/).

  The codec is a reader in the sense of `Lib.Incremental`: a round takes one frame off
  the input.  What it keeps between two calls is the length of the pending frame, the
  pending header block and the header table.
-/
import NtexH2.Codec.Model
import NtexH2.Lib.Incremental

set_option autoImplicit false

namespace NtexH2

open Lib (Incremental.Reader Incremental.Round Incremental.Outcome)

/-! ## Cutting frames off -/

namespace FrameDecoder

variable {d d' : FrameDecoder} {src rest bytes : Bytes} {len : Nat}

theorem cut_some (h : d.cut len src = (.ok (some bytes), d', rest)) (more : Bytes) :
    rest.length + len = src.length ∧
      d.cut len (src ++ more) = (.ok (some bytes), d', rest ++ more) := by
  unfold cut at h ⊢
  split at h
  · cases h
  · next hlen =>
      cases h
      have hle : len ≤ src.length := Nat.le_of_not_lt hlen
      have hle' : ¬(src ++ more).length < len := by
        rw [List.length_append]
        omega
      rw [if_neg hle', List.take_append_of_le_length hle, List.drop_append_of_le_length hle,
        List.length_drop]
      exact ⟨Nat.sub_add_cancel hle, rfl⟩

theorem cut_none (h : d.cut len src = (.ok none, d', rest)) : d' = d ∧ rest = src := by
  unfold cut at h
  split at h
  · cases h
    exact ⟨rfl, rfl⟩
  · cases h

theorem cut_not_error {e : FrameError} (h : d.cut len src = (.error e, d', rest)) : False := by
  unfold cut at h
  split at h
  · cases h
  · cases h

theorem decode_pending (h : d.pending = some len) (src : Bytes) : d.decode src = d.cut len src := by
  unfold decode
  rw [h]

/-- The length field is read when it is complete. -/
theorem decode_length (h : d.pending = none) (hlen : 3 ≤ src.length) (more : Bytes) :
    d.decode (src ++ more) =
      if Lib.BigEndian.read (src.take 3) > d.maxFrameLen then (.error .maxFrameSize, d, src ++ more)
      else (d.await (Lib.BigEndian.read (src.take 3))).cut
        (Lib.BigEndian.read (src.take 3) + Wire.headerLen) (src ++ more) := by
  have hlen' : ¬(src ++ more).length < 3 := by
    rw [List.length_append]
    omega
  unfold decode
  rw [h]
  dsimp only
  rw [if_neg hlen', List.take_append_of_le_length hlen]

theorem decode_short (h : d.pending = none) (hlen : src.length < 3) :
    d.decode src = (.ok none, d, src) := by
  unfold decode
  rw [h]
  exact if_pos hlen

/-- A frame that is complete. -/
theorem decode_some (h : d.decode src = (.ok (some bytes), d', rest)) (more : Bytes) :
    rest.length < src.length ∧ d.decode (src ++ more) = (.ok (some bytes), d', rest ++ more) := by
  cases hp : d.pending with
  | some len =>
      rw [decode_pending hp] at h ⊢
      obtain ⟨hlen, happ⟩ := cut_some h more
      have hpos : Wire.headerLen ≤ len := d.headed len hp
      unfold Wire.headerLen at hpos
      exact ⟨by omega, happ⟩
  | none =>
      by_cases hshort : src.length < 3
      · rw [decode_short hp hshort] at h
        cases h
      · have hlong : 3 ≤ src.length := Nat.le_of_not_lt hshort
        have h0 := decode_length hp hlong []
        rw [List.append_nil, h] at h0
        rw [decode_length hp hlong more]
        split at h0
        · cases h0
        · next hmax =>
            rw [if_neg hmax]
            obtain ⟨hlen, happ⟩ := cut_some h0.symm more
            unfold Wire.headerLen at hlen
            exact ⟨by omega, happ⟩

/-- A frame that is too large. -/
theorem decode_error {e : FrameError} (h : d.decode src = (.error e, d', rest)) (more : Bytes) :
    d.decode (src ++ more) = (.error e, d', rest ++ more) := by
  cases hp : d.pending with
  | some len =>
      rw [decode_pending hp] at h
      exact (cut_not_error h).elim
  | none =>
      by_cases hshort : src.length < 3
      · rw [decode_short hp hshort] at h
        cases h
      · have hlong : 3 ≤ src.length := Nat.le_of_not_lt hshort
        have h0 := decode_length hp hlong []
        rw [List.append_nil, h] at h0
        rw [decode_length hp hlong more]
        split at h0
        · next hmax =>
            cases h0
            rw [if_pos hmax]
        · exact (cut_not_error h0.symm).elim

/-- A frame that is not complete: nothing is taken, and a length that was read is not read
again. -/
theorem decode_none (h : d.decode src = (.ok none, d', rest)) :
    rest = src ∧ ∀ more, d'.decode (src ++ more) = d.decode (src ++ more) := by
  cases hp : d.pending with
  | some len =>
      rw [decode_pending hp] at h
      obtain ⟨rfl, rfl⟩ := cut_none h
      exact ⟨rfl, fun _ => rfl⟩
  | none =>
      by_cases hshort : src.length < 3
      · rw [decode_short hp hshort] at h
        cases h
        exact ⟨rfl, fun _ => rfl⟩
      · have hlong : 3 ≤ src.length := Nat.le_of_not_lt hshort
        have h0 := decode_length hp hlong []
        rw [List.append_nil, h] at h0
        split at h0
        · cases h0
        · next hmax =>
            obtain ⟨rfl, rfl⟩ := cut_none h0.symm
            refine ⟨rfl, fun more => ?_⟩
            rw [decode_length hp hlong more, if_neg hmax]
            exact decode_pending rfl _

end FrameDecoder

/-! ## The codec as a reader -/

namespace Codec

variable {S : HttpSyntax}

open Wire (Fault)

/-- What becomes of a frame that was cut off. -/
def frameRound (rest : Bytes) :
    Except Fault (Option (Wire.Frame S)) × Codec S →
      Incremental.Round (Codec S) UInt8 (Wire.Frame S) Fault
  | (.error e, c) => .fail e c rest
  | (.ok (some frame), c) => .item frame c rest
  | (.ok none, c) => .skip c rest

/-- A round of the loop of `Codec::decode`. -/
def round (c : Codec S) (src : Bytes) : Incremental.Round (Codec S) UInt8 (Wire.Frame S) Fault :=
  match c.decoder.decode src with
  | (.error e, d, rest) => .fail (.err e) { c with decoder := d } rest
  | (.ok none, d, _) => .stuck { c with decoder := d }
  | (.ok (some bytes), d, rest) => frameRound rest ({ c with decoder := d }.decodeFrame bytes)

theorem frameRound_append (rest more : Bytes)
    (r : Except Fault (Option (Wire.Frame S)) × Codec S) :
    frameRound (rest ++ more) r = (frameRound rest r).append more := by
  obtain ⟨res, c⟩ := r
  cases res with
  | error e => rfl
  | ok frame =>
      cases frame with
      | none => rfl
      | some f => rfl

theorem frameRound_left {rest left : Bytes} {r : Except Fault (Option (Wire.Frame S)) × Codec S}
    (h : (frameRound rest r).left? = some left) : left = rest := by
  obtain ⟨res, c⟩ := r
  cases res with
  | error e => cases h
  | ok frame =>
      cases frame with
      | none =>
          cases h
          rfl
      | some f =>
          cases h
          rfl

theorem round_shorter {c : Codec S} {src left : Bytes} (h : (c.round src).left? = some left) :
    left.length < src.length := by
  unfold round at h
  cases hd : c.decoder.decode src with
  | mk res x =>
      obtain ⟨d, rest⟩ := x
      rw [hd] at h
      cases res with
      | error e => cases h
      | ok o =>
          cases o with
          | none => cases h
          | some bytes =>
              rw [frameRound_left h]
              exact (FrameDecoder.decode_some hd []).1

theorem round_append {c : Codec S} {src : Bytes} (h : ¬(c.round src).Stuck) (more : Bytes) :
    c.round (src ++ more) = (c.round src).append more := by
  unfold round at h ⊢
  cases hd : c.decoder.decode src with
  | mk res x =>
      obtain ⟨d, rest⟩ := x
      rw [hd] at h
      cases res with
      | error e =>
          rw [FrameDecoder.decode_error hd more]
          rfl
      | ok o =>
          cases o with
          | none => exact absurd ⟨_, rfl⟩ h
          | some bytes =>
              rw [(FrameDecoder.decode_some hd more).2]
              exact frameRound_append rest more _

theorem round_again {c c' : Codec S} {src : Bytes} (h : c.round src = .stuck c') (more : Bytes) :
    c'.round (src ++ more) = c.round (src ++ more) := by
  unfold round at h
  cases hd : c.decoder.decode src with
  | mk res x =>
      obtain ⟨d, rest⟩ := x
      rw [hd] at h
      cases res with
      | error e => cases h
      | ok o =>
          cases o with
          | none =>
              cases h
              unfold round
              dsimp only
              rw [(FrameDecoder.decode_none hd).2 more]
          | some bytes =>
              dsimp only at h
              generalize { c with decoder := d }.decodeFrame bytes = r at h
              obtain ⟨res, c1⟩ := r
              cases res with
              | error e => cases h
              | ok frame =>
                  cases frame with
                  | none => cases h
                  | some f => cases h

/-- The codec reads its input frame by frame. -/
def reader (S : HttpSyntax) : Incremental.Reader (Codec S) UInt8 (Wire.Frame S) Fault where
  round := round
  shorter := round_shorter
  append := round_append
  again := round_again

/-! ## Calls of `decode` -/

/-- The result of `decode` for a round that ends it; `next` is the following round. -/
def ofRound (src : Bytes)
    (next : Codec S → Bytes → Except Fault (Option (Wire.Frame S)) × Codec S × Bytes) :
    Incremental.Round (Codec S) UInt8 (Wire.Frame S) Fault →
      Except Fault (Option (Wire.Frame S)) × Codec S × Bytes
  | .stuck c => (.ok none, c, src)
  | .fail e c rest => (.error e, c, rest)
  | .item frame c rest => (.ok (some frame), c, rest)
  | .skip c rest => next c rest

theorem decodeLoop_succ (fuel : Nat) (c : Codec S) (src : Bytes) :
    decodeLoop (fuel + 1) c src = ofRound src (decodeLoop fuel) (c.round src) := by
  rw [decodeLoop]
  unfold round
  cases hd : c.decoder.decode src with
  | mk res x =>
      obtain ⟨d, rest⟩ := x
      cases res with
      | error e => rfl
      | ok o =>
          cases o with
          | none =>
              rw [(FrameDecoder.decode_none hd).1]
              rfl
          | some bytes =>
              dsimp only
              generalize { c with decoder := d }.decodeFrame bytes = r
              obtain ⟨res, c1⟩ := r
              cases res with
              | error e => rfl
              | ok frame =>
                  cases frame with
                  | none => rfl
                  | some f => rfl

/-- What the result of `decode` says about the run of the reader. -/
inductive Starts (c : Codec S) (src : Bytes) :
    Except Fault (Option (Wire.Frame S)) × Codec S × Bytes → Prop where
  | failed {e : Fault} {c' : Codec S} {rest : Bytes} :
      (reader S).run c src = ⟨[], some e, c', rest⟩ → Starts c src (.error e, c', rest)
  | empty {c' : Codec S} {rest : Bytes} :
      (reader S).run c src = ⟨[], none, c', rest⟩ → Starts c src (.ok none, c', rest)
  | frame {f : Wire.Frame S} {c' : Codec S} {rest : Bytes} : rest.length < src.length →
      (reader S).run c src = ((reader S).run c' rest).after [f] →
      Starts c src (.ok (some f), c', rest)

/-- A round that returns nothing is followed by the next one. -/
theorem Starts.skip {c c' : Codec S} {src rest : Bytes}
    {r : Except Fault (Option (Wire.Frame S)) × Codec S × Bytes}
    (hrun : (reader S).run c src = (reader S).run c' rest) (hlt : rest.length < src.length)
    (h : Starts c' rest r) : Starts c src r := by
  cases h with
  | failed h => exact .failed (hrun.trans h)
  | empty h => exact .empty (hrun.trans h)
  | frame hlen h => exact .frame (Nat.lt_trans hlen hlt) (hrun.trans h)

theorem decodeLoop_starts (fuel : Nat) : ∀ (c : Codec S) (src : Bytes), src.length < fuel →
    Starts c src (decodeLoop fuel c src) := by
  induction fuel with
  | zero => exact fun c src h => absurd h (Nat.not_lt_zero _)
  | succ fuel ih =>
      intro c src hlen
      rw [decodeLoop_succ]
      cases hr : c.round src with
      | stuck c' => exact .empty (Incremental.Reader.run_stuck hr)
      | fail e c' rest => exact .failed (Incremental.Reader.run_fail hr)
      | item f c' rest =>
          have hlt : rest.length < src.length := round_shorter (by rw [hr]; rfl)
          exact .frame hlt (Incremental.Reader.run_item hr)
      | skip c' rest =>
          have hlt : rest.length < src.length := round_shorter (by rw [hr]; rfl)
          exact .skip (Incremental.Reader.run_skip hr) hlt (ih c' rest (by omega))

theorem decode_starts (c : Codec S) (src : Bytes) : Starts c src (c.decode src) :=
  decodeLoop_starts _ c src (Nat.lt_succ_self _)

/-- Calls of `decode` until it returns nothing or fails; each of them takes a frame off. -/
def decodeAll : Nat → Codec S → Bytes → Incremental.Outcome (Codec S) UInt8 (Wire.Frame S) Fault
  | 0, c, src => ⟨[], some (.panic .endless), c, src⟩
  | fuel + 1, c, src =>
      match c.decode src with
      | (.error e, c, rest) => ⟨[], some e, c, rest⟩
      | (.ok none, c, rest) => ⟨[], none, c, rest⟩
      | (.ok (some frame), c, rest) => (decodeAll fuel c rest).after [frame]

/-- New octets behind those left in the buffer, and then the calls of `decode`. -/
def feed (c : Codec S) (buf chunk : Bytes) :
    Incremental.Outcome (Codec S) UInt8 (Wire.Frame S) Fault :=
  decodeAll ((buf ++ chunk).length + 1) c (buf ++ chunk)

/-- Chunk after chunk, until one of them fails. -/
def feedAll (c : Codec S) (buf : Bytes) :
    List Bytes → Incremental.Outcome (Codec S) UInt8 (Wire.Frame S) Fault
  | [] => ⟨[], none, c, buf⟩
  | chunk :: chunks =>
      let o := c.feed buf chunk
      match o.fault with
      | some _ => o
      | none => (feedAll o.state o.rest chunks).after o.items

theorem decodeAll_eq (fuel : Nat) : ∀ (c : Codec S) (src : Bytes), src.length < fuel →
    decodeAll fuel c src = (reader S).run c src := by
  induction fuel with
  | zero => exact fun c src h => absurd h (Nat.not_lt_zero _)
  | succ fuel ih =>
      intro c src hlen
      unfold decodeAll
      have hs := decode_starts c src
      generalize c.decode src = r at hs
      cases hs with
      | failed h => exact h.symm
      | empty h => exact h.symm
      | @frame f c' rest hlt h =>
          dsimp only
          rw [ih c' rest (by omega), h]

theorem feed_eq (c : Codec S) (buf chunk : Bytes) :
    c.feed buf chunk = (reader S).run c (buf ++ chunk) :=
  decodeAll_eq _ c _ (Nat.lt_succ_self _)

theorem feedAll_eq (chunks : List Bytes) : ∀ (c : Codec S) (buf : Bytes),
    c.feedAll buf chunks = (reader S).feedAll chunks c buf := by
  induction chunks with
  | nil => exact fun _ _ => rfl
  | cons chunk chunks ih =>
      intro c buf
      unfold feedAll Incremental.Reader.feedAll
      rw [feed_eq]
      dsimp only
      generalize (reader S).run c (buf ++ chunk) = o
      cases o.fault with
      | some e => rfl
      | none =>
          dsimp only
          rw [ih]

/-- Nothing is read from an empty buffer. -/
theorem round_empty (c : Codec S) : c.round [] = .stuck c := by
  have hd : c.decoder.decode [] = (.ok none, c.decoder, []) := by
    cases hp : c.decoder.pending with
    | none => exact FrameDecoder.decode_short hp (by decide)
    | some len =>
        have hpos : Wire.headerLen ≤ len := c.decoder.headed len hp
        rw [FrameDecoder.decode_pending hp]
        exact if_pos (Nat.lt_of_lt_of_le (by decide) hpos)
  unfold round
  rw [hd]

/-- The frames that are decoded, the failure that ends them and the codec afterwards (its header
table, pending header block and pending frame length) do not depend on how the input is cut; nor
do the octets left unread, if there is no failure. -/
theorem chunking_independent (c : Codec S) (chunks : List Bytes) :
    (c.feedAll [] chunks).items = (c.feed [] chunks.flatten).items ∧
      (c.feedAll [] chunks).fault = (c.feed [] chunks.flatten).fault ∧
      (c.feedAll [] chunks).state = (c.feed [] chunks.flatten).state ∧
      ((c.feed [] chunks.flatten).fault = none →
        (c.feedAll [] chunks).rest = (c.feed [] chunks.flatten).rest) := by
  have h := (reader S).feedAll_agrees chunks c [] (round_empty c)
  rw [feedAll_eq, feed_eq]
  exact ⟨h.items, h.fault, h.state, h.rest⟩

end Codec

end NtexH2
