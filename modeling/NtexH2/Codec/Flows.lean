/-
  Codec/Flows.lean --- the frames that a codec will read (src/codec/mod.rs).

  Octets that arrive in pieces of any length stand for a list of frames: each call of
  `decode` returns the next one, or nothing until more has arrived.  Between two calls
  SETTINGS change the codec (src/connection.rs, `recv_settings`).
-/
import NtexH2.Codec.Calls

set_option autoImplicit false

namespace NtexH2

open Lib
open Wire (Fault)

variable {S : HttpSyntax}

namespace Codec

/-- `Connection::recv_settings` with an ack, as far as the codec is concerned. -/
def recvAck (c : Codec S) (own : Settings) : Except Panic (Codec S) :=
  match own.maxFrameSize with
  | some max => c.setRecvFrameSize max
  | none => .ok c

/-- The size of the written frames after the settings of the peer. -/
def sendSize (c : Codec S) (st : Settings) : Except Panic (Codec S) :=
  match st.maxFrameSize with
  | some max => c.setSendFrameSize max
  | none => .ok c

/-- `Connection::recv_settings` with the settings of the peer, as far as the codec is concerned. -/
def recvSettings (c : Codec S) (st : Settings) : Except Panic (Codec S) := do
  let c ← c.sendSize st
  match st.headerTableSize with
  | some max => return c.setSendHeaderTableSize max
  | none => return c

/-- What a frame does to the codec of an end with settings of its own. -/
def hear (own : Settings) (c : Codec S) : Wire.Frame S → Except Panic (Codec S)
  | .settings st => if st.ack then c.recvAck own else c.recvSettings st
  | _ => .ok c

/-- What arrives is decoded frame by frame, and each frame is heard before the next one; in the end
nothing is left, and the codec is as it should be. -/
inductive Flows (own : Settings) (P : Codec S → Prop) :
    Codec S → Bytes → List (Wire.Frame S) → Prop where
  | done {c c' : Codec S} {src : Bytes} : c.decode src = (.ok none, c', []) → P c' →
      Flows own P c src []
  | frame {c c1 c2 : Codec S} {f : Wire.Frame S} {src rest : Bytes} {fs : List (Wire.Frame S)} :
      c.decode src = (.ok (some f), c1, rest) → c1.hear own f = .ok c2 →
      Flows own P c2 rest fs → Flows own P c src (f :: fs)

variable {own : Settings} {P Q : Codec S → Prop} {c c' : Codec S} {src rest : Bytes}
  {fs gs : List (Wire.Frame S)}

theorem Flows.congr (h : Flows own P c src fs) {src' : Bytes}
    (heq : c'.decode src' = c.decode src) : Flows own P c' src' fs := by
  cases h with
  | done hd hp => exact .done (heq.trans hd) hp
  | frame hd hh hf => exact .frame (heq.trans hd) hh hf

/-- More octets, for the codec that is there in the end. -/
theorem Flows.append (h : Flows own P c src fs) : ∃ r, P r ∧ ∀ {Q : Codec S → Prop} {more : Bytes}
    {gs : List (Wire.Frame S)}, Flows own Q r more gs →
      Flows own Q c (src ++ more) (fs ++ gs) := by
  induction h with
  | done hd hp =>
      refine ⟨_, hp, fun hmore => hmore.congr ?_⟩
      rw [decode_append, hd]
      rfl
  | frame hd hh _ ih =>
      obtain ⟨r, hp, happ⟩ := ih
      refine ⟨r, hp, fun hmore => .frame ?_ hh (happ hmore)⟩
      rw [decode_append, hd]
      rfl

theorem Flows.mono (h : Flows own P c src fs) (hpq : ∀ c, P c → Q c) : Flows own Q c src fs := by
  induction h with
  | done hd hp => exact .done hd (hpq _ hp)
  | frame hd hh _ ih => exact .frame hd hh ih

/-- A call that returns nothing goes on where it was. -/
theorem Flows.wait {buf wire : Bytes} (h : Flows own P c (buf ++ wire) fs)
    (hd : c.decode buf = (.ok none, c', rest)) : Flows own P c' (rest ++ wire) fs := by
  refine h.congr ?_
  rw [decode_append c buf wire, hd]
  rfl

/-- A call that returns a frame returns the next one. -/
theorem Flows.next {buf wire : Bytes} (h : Flows own P c (buf ++ wire) fs) {f : Wire.Frame S}
    (hd : c.decode buf = (.ok (some f), c', rest)) :
    ∃ c2 gs, fs = f :: gs ∧ c'.hear own f = .ok c2 ∧ Flows own P c2 (rest ++ wire) gs := by
  have heq : c.decode (buf ++ wire) = (.ok (some f), c', rest ++ wire) := by
    rw [decode_append, hd]
    rfl
  cases h with
  | done hd' hp =>
      rw [heq] at hd'
      cases hd'
  | frame hd' hh hf =>
      rw [heq] at hd'
      cases hd'
      exact ⟨_, _, rfl, hh, hf⟩

/-- No call fails. -/
theorem Flows.sound {buf wire : Bytes} (h : Flows own P c (buf ++ wire) fs) {e : Fault}
    (hd : c.decode buf = (.error e, c', rest)) : False := by
  have heq : c.decode (buf ++ wire) = (.error e, c', rest ++ wire) := by
    rw [decode_append, hd]
    rfl
  cases h with
  | done hd' hp =>
      rw [heq] at hd'
      cases hd'
  | frame hd' hh hf =>
      rw [heq] at hd'
      cases hd'

/-- When a call returns nothing and nothing is on the way, there is no frame left. -/
theorem Flows.drained (h : Flows own P c src fs) (hd : (c.decode src).1 = .ok none) : fs = [] := by
  cases h with
  | done hd' hp => rfl
  | frame hd' hh hf =>
      rw [hd'] at hd
      cases hd

/-! ## The encoder of the reader -/

theorem sendSize_spec (c : Codec S) (st : Settings) {c' : Codec S} (h : c.sendSize st = .ok c') :
    c' = c.put c.encoderHpack c'.encoderMaxFrameSize ∧
      ∀ (e : Hpack.Encoder S) (size : FrameSize), ∃ size',
        (c.put e size).sendSize st = .ok (c'.put e size') := by
  unfold sendSize at h ⊢
  cases hmax : st.maxFrameSize with
  | none =>
      rw [hmax] at h
      cases h
      exact ⟨rfl, fun e size => ⟨size, rfl⟩⟩
  | some max =>
      rw [hmax] at h
      dsimp only at h ⊢
      unfold setSendFrameSize at h ⊢
      split at h
      · next hle =>
          cases h
          refine ⟨rfl, fun e size => ⟨⟨max, hle⟩, ?_⟩⟩
          rw [dif_pos hle]
          rfl
      · cases h

theorem recvSettings_spec (c : Codec S) (st : Settings) {c' : Codec S}
    (h : c.recvSettings st = .ok c') : c' = c.put c'.encoderHpack c'.encoderMaxFrameSize ∧
      ∀ (e : Hpack.Encoder S) (size : FrameSize), ∃ e' size',
        (c.put e size).recvSettings st = .ok (c'.put e' size') := by
  unfold recvSettings at h ⊢
  cases hs : c.sendSize st with
  | error x =>
      rw [hs] at h
      cases h
  | ok c1 =>
      obtain ⟨hc1, hput⟩ := sendSize_spec c st hs
      rw [hs] at h
      cases hmax : st.headerTableSize with
      | none =>
          rw [hmax] at h
          cases h
          refine ⟨by rw [hc1]; rfl, fun e size => ?_⟩
          obtain ⟨size', hsize'⟩ := hput e size
          refine ⟨e, size', ?_⟩
          rw [hsize']
          rfl
      | some max =>
          rw [hmax] at h
          cases h
          refine ⟨by rw [hc1]; rfl, fun e size => ?_⟩
          obtain ⟨size', hsize'⟩ := hput e size
          refine ⟨e.updateMaxSize (min max 4096), size', ?_⟩
          rw [hsize']
          rfl

/-- The other direction changes in the same way, whatever the encoder. -/
theorem hear_put {f : Wire.Frame S} (h : c.hear own f = .ok c') (e : Hpack.Encoder S)
    (size : FrameSize) : ∃ e' size', (c.put e size).hear own f = .ok (c'.put e' size') := by
  cases f with
  | settings st =>
      unfold hear at h ⊢
      dsimp only at h ⊢
      split at h
      · next hack =>
          rw [if_pos hack]
          refine ⟨e, size, ?_⟩
          unfold recvAck setRecvFrameSize at h ⊢
          cases hmax : own.maxFrameSize with
          | none =>
              rw [hmax] at h
              cases h
              rfl
          | some max =>
              rw [hmax] at h
              dsimp only at h ⊢
              split at h
              · next hle =>
                  cases h
                  rw [if_pos hle]
                  rfl
              · cases h
      · next hack =>
          rw [if_neg hack]
          exact (recvSettings_spec c st h).2 e size
  | _ =>
      cases h
      exact ⟨e, size, rfl⟩

/-- A property that says nothing of the encoder. -/
def Blind (P : Codec S → Prop) : Prop := ∀ c e size, P c → P (c.put e size)

theorem Flows.put (h : Flows own P c src fs) (hp : Blind P) : ∀ (e : Hpack.Encoder S)
    (size : FrameSize), Flows own P (c.put e size) src fs := by
  induction h with
  | @done c c' src hd hc =>
      intro e size
      have hput := decode_put e size c src
      rw [hd] at hput
      exact .done hput (hp _ e size hc)
  | @frame c c1 c2 f src rest fs hd hh _ ih =>
      intro e size
      obtain ⟨e', size', hh'⟩ := hear_put hh e size
      have hput := decode_put e size c src
      rw [hd] at hput
      exact .frame hput hh' (ih e' size')

theorem decode_encoder (c : Codec S) (src : Bytes) :
    (c.decode src).2.1.encoderHpack = c.encoderHpack ∧
      (c.decode src).2.1.encoderMaxFrameSize = c.encoderMaxFrameSize := by
  have h : c.decode src = _ := decode_put c.encoderHpack c.encoderMaxFrameSize c src
  rw [h]
  exact ⟨rfl, rfl⟩

theorem encode_put {hash : Hpack.Name S → Nat} {order : Wire.MapOrder S} {f : Wire.Frame S}
    {frames : List Wire.Written} (h : c.encode hash order f = .ok (c', frames)) :
    c' = c.put c'.encoderHpack c'.encoderMaxFrameSize := by
  have hsame : ∀ w : Wire.Written, c.writes w = .ok (c', frames) →
      c' = c.put c'.encoderHpack c'.encoderMaxFrameSize := by
    intro w hw
    cases hw
    rfl
  unfold encode at h
  cases f with
  | data v =>
      dsimp only at h
      split at h
      · cases h
      · exact hsame _ h
  | headers v =>
      dsimp only at h
      split at h
      · cases h
        rfl
      · cases h
  | settings v => exact hsame _ h
  | goAway v => exact hsame _ h
  | ping v => exact hsame _ h
  | windowUpdate v => exact hsame _ h
  | reset v => exact hsame _ h
  | _ =>
      cases h
      rfl

theorem hear_of_ne {f : Wire.Frame S} (h : ∀ st, f ≠ .settings st) : c.hear own f = .ok c := by
  cases f with
  | settings st => exact absurd rfl (h st)
  | _ => rfl

/-- SETTINGS as they arrive. -/
theorem decode_settings {st : Settings} (hc : c.Idle)
    (hlen : defaultMaxFrameSize ≤ c.decoder.maxFrameLen)
    (hacc : ∀ x ∈ Wire.Settings.each st, x.Accepted)
    (hack : st.ack = true → Wire.Settings.each st = []) :
    c.decode (Wire.Settings.encode st).octets = (.ok (some (.settings st)), c, []) := by
  refine decode_single hc (Wire.Settings.encode_fits ⟨defaultMaxFrameSize, by decide⟩ st) hlen
    (show (Wire.Settings.encode st).head.streamId < 2 ^ 31 from Nat.two_pow_pos 31)
    fun r hr hp => ?_
  have hkind : r.head.kind = .settings := by rw [hr]; rfl
  rw [decodeFrame_idle hc.block (by rw [hkind]; exact nofun), hkind, hr, hp]
  dsimp only
  rw [Wire.Settings.load_encode hacc hack]
  rfl

/-- When all frames of the input are read, the next call finds the end. -/
theorem decode_of_run {d : Codec S} (h : (reader S).run c src = ⟨[], none, d, rest⟩) :
    c.decode src = (.ok none, d, rest) := by
  have hs := decode_starts c src
  generalize c.decode src = x at hs ⊢
  cases hs with
  | failed hrun =>
      rw [hrun] at h
      cases h
  | empty hrun =>
      rw [hrun] at h
      cases h
      rfl
  | frame hlt hrun =>
      rw [hrun] at h
      cases h

/-- A frame that is written by a codec in step. -/
theorem Flows.written {hash : Hpack.Name S → Nat} {order : Wire.MapOrder S} {e e' r : Codec S}
    {f : Wire.Frame S} {d : Hpack.Decoder S} (h : Written hash order e r f e' d)
    (hf : ∀ st, f ≠ .settings st) (hp : P { r with decoderHpack := d }) :
    ∃ frames f', e.encode hash order f = .ok (e', frames) ∧ Same f f' ∧
      Flows own P r (frames.flatMap (·.octets)) [f'] := by
  obtain ⟨frames, f', henc, hsame, hrun⟩ := h.ok
  refine ⟨frames, f', henc, hsame, ?_⟩
  have hne : ∀ st, f' ≠ .settings st := by
    intro st heq
    subst heq
    cases hsame
    exact hf st rfl
  have hall := hrun []
  rw [List.append_nil, run_nil] at hall
  have hs := decode_starts r (frames.flatMap (·.octets))
  generalize hd : r.decode (frames.flatMap (·.octets)) = x at hs
  cases hs with
  | failed hrun' =>
      rw [hrun'] at hall
      cases hall
  | empty hrun' =>
      rw [hrun'] at hall
      cases hall
  | @frame g c1 left hlt hrun' =>
      rw [hrun'] at hall
      have hitems := congrArg Incremental.Outcome.items hall
      have hfault := congrArg Incremental.Outcome.fault hall
      have hstate := congrArg Incremental.Outcome.state hall
      have hrest := congrArg Incremental.Outcome.rest hall
      unfold Incremental.Outcome.after at hitems hfault hstate hrest
      dsimp only at hitems hfault hstate hrest
      obtain ⟨rfl, hnil⟩ := List.cons.inj hitems
      have hlast : (reader S).run c1 left = ⟨[], none, { r with decoderHpack := d }, []⟩ := by
        generalize (reader S).run c1 left = y at hnil hfault hstate hrest ⊢
        obtain ⟨items, fault, state, rest⟩ := y
        dsimp only at hnil hfault hstate hrest
        rw [hfault, hstate, hrest, show items = [] from hnil]
      exact .frame hd (hear_of_ne hne) (.done (decode_of_run hlast) hp)

end Codec

end NtexH2
