/-
  Codec/Calls.lean --- calls of `decode` on a buffer that grows (src/codec/mod.rs).

  A frame that is decoded does not depend on what follows it, and a call that returned
  nothing has lost nothing.  What is written meanwhile, and how, is no matter for the
  decoder.
-/
import NtexH2.Codec.Sequences

set_option autoImplicit false

namespace NtexH2

open Lib
open Wire (Fault)

variable {S : HttpSyntax}

namespace Codec

variable {c c' : Codec S} {src rest : Bytes}

/-! ## More input -/

/-- Enough fuel is enough. -/
theorem decodeLoop_fuel (n : Nat) : ∀ (m : Nat) (c : Codec S) (src : Bytes), src.length < n →
    src.length < m → decodeLoop n c src = decodeLoop m c src := by
  induction n with
  | zero => exact fun _ _ _ h => absurd h (Nat.not_lt_zero _)
  | succ n ih =>
      intro m c src hn hm
      obtain ⟨m, rfl⟩ := Nat.exists_eq_succ_of_ne_zero (Nat.ne_of_gt (Nat.zero_lt_of_lt hm))
      rw [decodeLoop_succ, decodeLoop_succ]
      cases hr : c.round src with
      | skip c' rest =>
          have hlt : rest.length < src.length := round_shorter (by rw [hr]; rfl)
          exact ih m c' rest (by omega) (by omega)
      | _ => rfl

theorem decode_loop {n : Nat} (h : src.length < n) : c.decode src = decodeLoop n c src :=
  decodeLoop_fuel _ n c src (Nat.lt_succ_self _) h

theorem decode_round (c : Codec S) (src : Bytes) :
    c.decode src = ofRound src (fun c src => c.decode src) (c.round src) := by
  refine (decodeLoop_succ src.length c src).trans ?_
  cases hr : c.round src with
  | skip c' rest => exact (decode_loop (round_shorter (by rw [hr]; rfl))).symm
  | _ => rfl

/-- What a call on a longer input returns: a call that has returned nothing goes on. -/
def continued (more : Bytes) :
    Except Fault (Option (Wire.Frame S)) × Codec S × Bytes →
      Except Fault (Option (Wire.Frame S)) × Codec S × Bytes
  | (.ok none, c, rest) => c.decode (rest ++ more)
  | (r, c, rest) => (r, c, rest ++ more)

theorem decode_append (c : Codec S) (src more : Bytes) :
    c.decode (src ++ more) = continued more (c.decode src) := by
  induction hn : src.length using Nat.strongRecOn generalizing c src with
  | ind n ih =>
      subst hn
      rw [decode_round c src]
      cases hr : c.round src with
      | stuck c1 =>
          show _ = c1.decode (src ++ more)
          rw [decode_round, decode_round c1, round_again hr more]
      | fail e c1 left =>
          have happ := @round_append _ c src (by rw [hr]; exact nofun) more
          rw [hr] at happ
          rw [decode_round, happ]
          rfl
      | item g c1 left =>
          have happ := @round_append _ c src (by rw [hr]; exact nofun) more
          rw [hr] at happ
          rw [decode_round, happ]
          rfl
      | skip c1 left =>
          have happ := @round_append _ c src (by rw [hr]; exact nofun) more
          have hlt : left.length < src.length := round_shorter (by rw [hr]; rfl)
          rw [hr] at happ
          rw [decode_round, happ]
          exact ih left.length hlt c1 left rfl

theorem decode_nil (c : Codec S) : c.decode [] = (.ok none, c, []) := by
  rw [decode_round, round_empty]
  rfl

/-- A single frame is decoded, and nothing behind it is touched. -/
theorem decode_single {w : Wire.Written} {f : Wire.Frame S} {maxSize : Nat} (hc : c.Idle)
    (hw : w.Fits maxSize) (hlen : maxSize ≤ c.decoder.maxFrameLen) (hid : w.head.streamId < 2 ^ 31)
    (hdec : ∀ r : RawFrame, r.head = w.head → r.payload = w.payload →
      c.decodeFrame r.bytes = (.ok (some f), c)) :
    c.decode w.octets = (.ok (some f), c, []) := by
  obtain ⟨r, hbytes, hhead, hpayload⟩ := Wire.Written.arrives hw.counted hid
  have hle : r.payload.length ≤ c.decoder.maxFrameLen := by
    rw [hpayload]
    exact Nat.le_trans hw.bound hlen
  have hround := round_frame hc.frame r [] hle
  rw [List.append_nil, hbytes, ← hbytes, hdec r hhead hpayload] at hround
  rw [← hbytes, decode_round, hround]
  rfl

/-! ## The other direction -/

/-- The codec with another encoder. -/
def put (c : Codec S) (e : Hpack.Encoder S) (size : FrameSize) : Codec S :=
  { c with encoderHpack := e, encoderMaxFrameSize := size }

section

variable (e : Hpack.Encoder S) (size : FrameSize)

theorem finishBlock_put (c : Codec S) (frame : Wire.Headers S) (error : Option FrameError)
    (src : Bytes) : (c.put e size).finishBlock frame error src =
      Prod.map id (put · e size) (c.finishBlock frame error src) := by
  have hload : (c.put e size).loadHpack frame src =
      Prod.map id (put · e size) (c.loadHpack frame src) := by
    unfold loadHpack
    dsimp only [put]
    split <;> rfl
  unfold finishBlock
  rw [hload]
  cases c.loadHpack frame src with
  | mk r c1 =>
      cases r with
      | error x => rfl
      | ok x =>
          obtain ⟨frame', error'⟩ := x
          cases error with
          | some y => rfl
          | none =>
              cases error' with
              | none => rfl
              | some y => rfl

theorem decodeHeaders_put (c : Codec S) (head : Wire.Head) (payload : Bytes) :
    (c.put e size).decodeHeaders head payload =
      Prod.map id (put · e size) (c.decodeHeaders head payload) := by
  unfold decodeHeaders
  split
  · rfl
  · dsimp only
    split
    · exact finishBlock_put e size c _ _ _
    · rfl

theorem decodeContinuation_put (c : Codec S) (p : Partial) (head : Wire.Head) (fragment : Bytes) :
    (c.put e size).decodeContinuation p head fragment =
      Prod.map id (put · e size) (c.decodeContinuation p head fragment) := by
  have hcount : (c.put e size).decoderMaxHeaderContinuations =
      c.decoderMaxHeaderContinuations := rfl
  have hsize : (c.put e size).decoderMaxHeaderListSize = c.decoderMaxHeaderListSize := rfl
  unfold decodeContinuation
  rw [hcount, hsize]
  split
  · rfl
  · dsimp only
    generalize (if decide (c.decoderMaxHeaderContinuations > 0) = true then
      { p with count := p.count + 1 } else p) = p
    split
    · rfl
    · split
      · rfl
      · split
        · exact finishBlock_put e size c _ _ _
        · rfl

theorem loaded_put {α : Type} (c : Codec S) (f : α → Wire.Frame S) (x : Except FrameError α) :
    (c.put e size).loaded f x = Prod.map id (put · e size) (c.loaded f x) := by
  cases x with
  | error e => rfl
  | ok v => rfl

theorem decodeFrame_put (c : Codec S) (bytes : Bytes) :
    (c.put e size).decodeFrame bytes = Prod.map id (put · e size) (c.decodeFrame bytes) := by
  have hp : (c.put e size).pending = c.pending := rfl
  unfold decodeFrame
  rw [hp]
  split
  · rfl
  · dsimp only
    generalize Wire.Head.parse bytes = head
    split
    · rfl
    · cases head.kind with
      | settings => exact loaded_put e size c _ _
      | ping => exact loaded_put e size c _ _
      | windowUpdate => exact loaded_put e size c _ _
      | data => exact loaded_put e size c _ _
      | headers => exact decodeHeaders_put e size c _ _
      | reset => exact loaded_put e size c _ _
      | goAway =>
          dsimp only
          split
          · rfl
          · exact loaded_put e size c _ _
      | priority => exact loaded_put e size c _ _
      | continuation =>
          cases c.pending with
          | none => rfl
          | some p => exact decodeContinuation_put e size { c with pending := none } p head _
      | unknown => rfl

/-- A round, with another encoder in the codec that it leaves. -/
def putRound : Incremental.Round (Codec S) UInt8 (Wire.Frame S) Fault →
    Incremental.Round (Codec S) UInt8 (Wire.Frame S) Fault
  | .stuck c => .stuck (c.put e size)
  | .fail x c left => .fail x (c.put e size) left
  | .item g c left => .item g (c.put e size) left
  | .skip c left => .skip (c.put e size) left

theorem round_put (c : Codec S) (src : Bytes) :
    (c.put e size).round src = putRound e size (c.round src) := by
  have hd : (c.put e size).decoder = c.decoder := rfl
  unfold round
  rw [hd]
  cases c.decoder.decode src with
  | mk res x =>
      obtain ⟨d, left⟩ := x
      cases res with
      | error y => rfl
      | ok o =>
          cases o with
          | none => rfl
          | some bytes =>
              dsimp only
              have hframe := decodeFrame_put e size { c with decoder := d } bytes
              change (decodeFrame { c.put e size with decoder := d } bytes) = _ at hframe
              rw [hframe]
              cases decodeFrame { c with decoder := d } bytes with
              | mk r c1 =>
                  cases r with
                  | error y => rfl
                  | ok o =>
                      cases o with
                      | none => rfl
                      | some g => rfl

/-- A call of `decode` does not look at the encoder. -/
theorem decode_put (c : Codec S) (src : Bytes) : (c.put e size).decode src =
    ((c.decode src).1, (c.decode src).2.1.put e size, (c.decode src).2.2) := by
  induction hn : src.length using Nat.strongRecOn generalizing c src with
  | ind n ih =>
      subst hn
      rw [decode_round, decode_round c, round_put]
      cases hr : c.round src with
      | skip c1 left =>
          have hlt : left.length < src.length := round_shorter (by rw [hr]; rfl)
          exact ih left.length hlt c1 left rfl
      | _ => rfl

end

end Codec

end NtexH2
