/-
  Network/Octets.lean --- two codecs that are joined by octets.

  The frames that an end writes become octets, the octets arrive in pieces of any length,
  and what arrives is decoded frame by frame.  SETTINGS are applied to the encoder and
  answered, and their ack raises the frame size of the decoder (src/connection.rs,
  `recv_settings`).  Between two ends this is a queue of frames: nothing is rejected or
  lost, and the order is kept.
-/
import NtexH2.Codec.Flows
import NtexH2.Codec.SentLists
import NtexH2.Network.Model

set_option autoImplicit false

namespace NtexH2

variable {S : HttpSyntax}

/-! ## Two ends -/

/-- Whether a frame is answered. -/
def Wire.Frame.asks : Wire.Frame S → Bool
  | .settings st => !st.ack
  | _ => false

/-- What the two ends are configured with. -/
structure Ends (S : HttpSyntax) where
  hash : Hpack.Name S → Nat
  order : Wire.MapOrder S
  settings : Party → Settings
  maxHeaders : Party → Nat
  maxListSize : Party → Nat
  maxContinuations : Party → Nat
  ack : ∀ p, (settings p).ack = false
  accepted : ∀ p, ∀ x ∈ Wire.Settings.each (settings p), x.Accepted

/-- The codec of an end at its start. -/
def Ends.codec (s : Ends S) (p : Party) : Codec S :=
  { Codec.default S with
    decoderMaxHeaders := s.maxHeaders p
    decoderMaxHeaderListSize := s.maxListSize p
    decoderMaxHeaderContinuations := s.maxContinuations p }

/-- The codecs of the two ends, the octets that each of them has not decoded yet, those that are on
the way to it, the frames that it has written and decoded, and whether it has failed. -/
structure Wires (S : HttpSyntax) where
  codec : Party → Codec S
  buf : Party → Bytes
  wire : Party → Bytes
  wrote : Party → List (Wire.Frame S)
  got : Party → List (Wire.Frame S)
  broken : Party → Bool

namespace Wires

/-- An end writes a frame. -/
def write (s : Ends S) (w : Wires S) (p : Party) (f : Wire.Frame S) : Wires S :=
  match (w.codec p).encode s.hash s.order f with
  | .ok (c, frames) =>
      { w with
        codec := Function.update w.codec p c
        wire := Function.update w.wire p.peer (w.wire p.peer ++ frames.flatMap (·.octets))
        wrote := Function.update w.wrote p (w.wrote p ++ [f]) }
  | .error _ => { w with broken := Function.update w.broken p true }

/-- Some of the octets on the way arrive. -/
def arrive (w : Wires S) (p : Party) (n : Nat) : Wires S :=
  { w with
    buf := Function.update w.buf p (w.buf p ++ (w.wire p).take n)
    wire := Function.update w.wire p ((w.wire p).drop n) }

/-- What a call of `decode` leaves, and the frames that it returns. -/
def hold (w : Wires S) (p : Party) (c : Codec S) (rest : Bytes) (fs : List (Wire.Frame S)) :
    Wires S :=
  { w with
    codec := Function.update w.codec p c
    buf := Function.update w.buf p rest
    got := Function.update w.got p (w.got p ++ fs) }

def fail (w : Wires S) (p : Party) : Wires S :=
  { w with broken := Function.update w.broken p true }

/-- An end calls `decode`.  A frame is heard, and answered if it is SETTINGS. -/
def read (s : Ends S) (w : Wires S) (p : Party) : Wires S :=
  match (w.codec p).decode (w.buf p) with
  | (.ok none, c, rest) => w.hold p c rest []
  | (.ok (some f), c, rest) =>
      match c.hear (s.settings p) f with
      | .ok c =>
          let w := w.hold p c rest [f]
          if f.asks then w.write s p (.settings .newAck) else w
      | .error _ => (w.hold p c rest []).fail p
  | (.error _, c, rest) => (w.hold p c rest []).fail p

/-- Both ends write their settings first. -/
def new (s : Ends S) : Wires S :=
  let w : Wires S := ⟨s.codec, fun _ => [], fun _ => [], fun _ => [], fun _ => [], fun _ => false⟩
  (w.write s .client (.settings (s.settings .client))).write s .server
    (.settings (s.settings .server))

/-- What can happen. -/
inductive Step (S : HttpSyntax) where
  | write (p : Party) (f : Wire.Frame S)
  | arrive (p : Party) (n : Nat)
  | read (p : Party)

def step (s : Ends S) (w : Wires S) : Step S → Wires S
  | .write p f => w.write s p f
  | .arrive p n => w.arrive p n
  | .read p => w.read s p

/-- Frames are those that can be written in the size that the peer allows, and whose header lists
keep the limits of the peer; SETTINGS are written once and answered. -/
def Possible (s : Ends S) (w : Wires S) : Step S → Prop
  | .write p f => (∀ st, f ≠ .settings st) ∧ Codec.Sends (w.codec p).encoderMaxFrameSize f ∧
      Codec.ShortStrings f ∧ Codec.Admits s.hash s.order (w.codec p) (s.codec p.peer) f
  | _ => True

/-- The states of two ends, whatever order things happen in. -/
inductive Reachable (s : Ends S) : Wires S → Prop where
  | new : Reachable s (new s)
  | step {w : Wires S} (a : Step S) : Reachable s w → w.Possible s a → Reachable s (w.step s a)

end Wires

namespace Ends

open Codec (Flows InStep Same)

variable {s : Ends S} {p : Party} {e e' c c' r : Codec S} {src rest more : Bytes}
  {sent got : List (Wire.Frame S)} {f : Wire.Frame S}

/-- The reader `r` at the end `p` is ready for what the writer `e` writes. -/
structure Meets (s : Ends S) (p : Party) (e r : Codec S) : Prop where
  idle : r.Idle
  inStep : InStep s.hash e.encoderHpack r.decoderHpack
  size : (e.encoderMaxFrameSize : Nat) ≤ r.decoder.maxFrameLen
  least : defaultMaxFrameSize ≤ r.decoder.maxFrameLen
  headers : r.decoderMaxHeaders = s.maxHeaders p
  listSize : r.decoderMaxHeaderListSize = s.maxListSize p
  continuations : r.decoderMaxHeaderContinuations = s.maxContinuations p

theorem Meets.blind : Codec.Blind (s.Meets p e) := by
  intro c h size hm
  exact ⟨⟨hm.idle.block, hm.idle.frame⟩, hm.inStep, hm.size, hm.least, hm.headers, hm.listSize,
    hm.continuations⟩

/-- What is left to be read at the end `p` are the frames that were written and not read. -/
def InOrder (s : Ends S) (p : Party) (e c : Codec S) (src : Bytes)
    (sent got : List (Wire.Frame S)) : Prop :=
  ∃ fs, Flows (s.settings p) (s.Meets p e) c src fs ∧ List.Forall₂ Same sent (got ++ fs) ∧
    ∀ st, .settings st ∈ fs → st = s.settings p.peer ∨ st = .newAck

theorem InOrder.put (h : s.InOrder p e c src sent got) (x : Hpack.Encoder S) (size : FrameSize) :
    s.InOrder p e (c.put x size) src sent got := by
  obtain ⟨fs, hflow, hrest⟩ := h
  exact ⟨fs, hflow.put Meets.blind x size, hrest⟩

theorem InOrder.writer (h : s.InOrder p e c src sent got)
    (hpack : e'.encoderHpack = e.encoderHpack)
    (hsize : e'.encoderMaxFrameSize = e.encoderMaxFrameSize) :
    s.InOrder p e' c src sent got := by
  obtain ⟨fs, hflow, hrest⟩ := h
  refine ⟨fs, hflow.mono fun r hm => ?_, hrest⟩
  refine ⟨hm.idle, ?_, ?_, hm.least, hm.headers, hm.listSize, hm.continuations⟩
  · rw [hpack]
    exact hm.inStep
  · rw [hsize]
    exact hm.size

/-- A frame behind the others, for the reader that is there by then. -/
theorem InOrder.snoc (h : s.InOrder p e c src sent got) : ∃ r, s.Meets p e r ∧
    ∀ {e' : Codec S} {f f' : Wire.Frame S} {more : Bytes}, Same f f' →
      (∀ st, f' = .settings st → st = s.settings p.peer ∨ st = .newAck) →
      Flows (s.settings p) (s.Meets p e') r more [f'] →
      s.InOrder p e' c (src ++ more) (sent ++ [f]) got := by
  obtain ⟨fs, hflow, hsame, hset⟩ := h
  obtain ⟨r, hm, happ⟩ := hflow.append
  refine ⟨r, hm, fun {e' f f' more} hsame' hset' hlast => ?_⟩
  refine ⟨fs ++ [f'], happ hlast, ?_, fun st hst => ?_⟩
  · rw [← List.append_assoc]
    exact List.rel_append hsame (.cons hsame' .nil)
  · rcases List.mem_append.mp hst with hst | hst
    · exact hset st hst
    · exact hset' st (List.mem_singleton.mp hst).symm

theorem Meets.admits (h : s.Meets p e r) (ha : Codec.Admits s.hash s.order e (s.codec p) f) :
    Codec.Admits s.hash s.order e r f := by
  cases f with
  | headers v =>
      obtain ⟨hcount, hsize, htakes⟩ := ha
      refine ⟨?_, ?_, fun x hpack hx => ?_⟩
      · rw [h.headers]
        exact hcount
      · rw [h.listSize]
        exact hsize
      · have ht := htakes x hpack hx
        unfold Codec.Takes at ht ⊢
        rw [h.continuations, h.listSize]
        exact ht
  | _ => trivial

/-- A frame that is not SETTINGS. -/
theorem InOrder.write (h : s.InOrder p e c src sent got) (hf : ∀ st, f ≠ .settings st)
    (hsend : Codec.Sends e.encoderMaxFrameSize f) (hshort : Codec.ShortStrings f)
    (hadm : Codec.Admits s.hash s.order e (s.codec p) f) :
    ∃ e' frames, e.encode s.hash s.order f = .ok (e', frames) ∧
      s.InOrder p e' c (src ++ frames.flatMap (·.octets)) (sent ++ [f]) got := by
  obtain ⟨r, hm, hsnoc⟩ := h.snoc
  obtain ⟨e', d, hw⟩ :=
    Codec.written_of_sends hm.idle hm.inStep hm.size hsend hshort (hm.admits hadm)
  have hsize := hw.size
  have hm' : s.Meets p e' { r with decoderHpack := d } :=
    ⟨⟨hm.idle.block, hm.idle.frame⟩, hw.inStep, by rw [hsize]; exact hm.size, hm.least, hm.headers,
      hm.listSize, hm.continuations⟩
  obtain ⟨frames, f', henc, hsame, hflow⟩ :=
    @Flows.written S (s.settings p) (s.Meets p e') _ _ _ _ _ _ _ hw hf hm'
  refine ⟨e', frames, henc, hsnoc hsame (fun st heq => ?_) hflow⟩
  subst heq
  cases hsame
  exact absurd rfl (hf st)

/-- The limits of SETTINGS that can be written. -/
theorem maxFrameSize_accepted {st : Settings} (h : ∀ x ∈ Wire.Settings.each st, x.Accepted)
    {v : Nat} (hv : st.maxFrameSize = some v) : defaultMaxFrameSize ≤ v ∧ v ≤ 2 ^ 24 - 1 := by
  have hmem : Wire.Setting.maxFrameSize v ∈ Wire.Settings.each st := by
    unfold Wire.Settings.each
    simp [hv]
  obtain ⟨st', happly⟩ := (h _ hmem).ok st
  unfold Wire.Setting.apply at happly
  dsimp only at happly
  split at happly
  · next hle => exact hle
  · cases happly

/-- The settings of the peer: the tables stay in step. -/
theorem recvSettings_ok (c : Codec S) {st : Settings}
    (h : ∀ x ∈ Wire.Settings.each st, x.Accepted) :
    ∃ c', c.recvSettings st = .ok c' ∧
      (c'.encoderMaxFrameSize : Nat) = st.maxFrameSize.getD c.encoderMaxFrameSize ∧
      ∀ hash d, InStep hash c.encoderHpack d → InStep hash c'.encoderHpack d := by
  obtain ⟨c1, hsize, hmax, hpack⟩ : ∃ c1, c.sendSize st = .ok c1 ∧
      (c1.encoderMaxFrameSize : Nat) = st.maxFrameSize.getD c.encoderMaxFrameSize ∧
      c1.encoderHpack = c.encoderHpack := by
    unfold Codec.sendSize
    cases hv : st.maxFrameSize with
    | none => exact ⟨c, rfl, rfl, rfl⟩
    | some v =>
        have hle := maxFrameSize_accepted h hv
        exact ⟨_, dif_pos hle, rfl, rfl⟩
  unfold Codec.recvSettings
  rw [hsize]
  cases st.headerTableSize with
  | none =>
      refine ⟨c1, rfl, hmax, fun hash d hs => ?_⟩
      rw [hpack]
      exact hs
  | some v =>
      refine ⟨c1.setSendHeaderTableSize v, rfl, hmax, fun hash d hs => ?_⟩
      obtain ⟨k, hk, hagrees, -⟩ := Hpack.Link.Agrees.step (s := .updateMaxSize (min v 4096)) hs
        (Nat.min_le_right _ _)
      cases hk
      show InStep hash (c1.encoderHpack.updateMaxSize (min v 4096)) d
      rw [hpack]
      exact hagrees

/-- The settings of the writer, which come first. -/
theorem InOrder.settings (h : s.InOrder p e c src sent got) :
    s.InOrder p e c (src ++ (Wire.Settings.encode (s.settings p.peer)).octets)
      (sent ++ [.settings (s.settings p.peer)]) got := by
  have hack := s.ack p.peer
  obtain ⟨r, hm, hsnoc⟩ := h.snoc
  refine hsnoc (.settings _) (fun st heq => .inl (Wire.Frame.settings.inj heq).symm) ?_
  obtain ⟨r', hr, -, -⟩ := recvSettings_ok r (s.accepted p.peer)
  have hput := (Codec.recvSettings_spec r _ hr).1
  have hhear : r.hear (s.settings p) (.settings (s.settings p.peer)) = .ok r' := by
    unfold Codec.hear
    dsimp only
    rw [hack]
    exact hr
  refine .frame (Codec.decode_settings hm.idle hm.least (s.accepted p.peer)
    (fun h => absurd (hack.symm.trans h) Bool.false_ne_true)) hhear (.done (Codec.decode_nil _) ?_)
  rw [hput]
  exact Meets.blind _ _ _ hm

/-- The answer of a writer that has applied the settings of the reader. -/
theorem InOrder.ack (h : s.InOrder p e c src sent got)
    (he : e.recvSettings (s.settings p) = .ok e') :
    s.InOrder p e' c (src ++ (Wire.Settings.encode .newAck).octets)
      (sent ++ [.settings .newAck]) got := by
  obtain ⟨r, hm, hsnoc⟩ := h.snoc
  refine hsnoc (.settings _) (fun st heq => .inr (Wire.Frame.settings.inj heq).symm) ?_
  obtain ⟨e1, he1, hsize, hstep⟩ := recvSettings_ok e (s.accepted p)
  cases he.symm.trans he1
  have hdecode := @Codec.decode_settings S r .newAck hm.idle hm.least
    (fun x hx => absurd hx List.not_mem_nil) fun _ => rfl
  have hhear : ∀ {r'}, r.recvAck (s.settings p) = .ok r' →
      r.hear (s.settings p) (.settings .newAck) = .ok r' := fun h => h
  unfold Codec.recvAck at hhear
  cases hv : (s.settings p).maxFrameSize with
  | none =>
      rw [hv] at hhear hsize
      refine .frame hdecode (hhear rfl) (.done (Codec.decode_nil _) ?_)
      exact ⟨hm.idle, hstep _ _ hm.inStep, hsize ▸ hm.size, hm.least, hm.headers, hm.listSize,
        hm.continuations⟩
  | some v =>
      rw [hv] at hhear hsize
      have hle := maxFrameSize_accepted (s.accepted p) hv
      refine .frame hdecode (hhear (if_pos hle)) (.done (Codec.decode_nil _) ?_)
      exact ⟨⟨hm.idle.block, hm.idle.frame⟩, hstep _ _ hm.inStep, Nat.le_of_eq hsize, hle.1,
        hm.headers, hm.listSize, hm.continuations⟩

end Ends

namespace Wires

open Codec (Flows)

variable {s : Ends S} {w : Wires S} {p : Party} {e c c' : Codec S} {rest : Bytes}
  {fs : List (Wire.Frame S)} {f : Wire.Frame S}

/-- What holds after every step. -/
def Sound (s : Ends S) (w : Wires S) : Prop :=
  ∀ p, w.broken p = false ∧
    s.InOrder p (w.codec p.peer) (w.codec p) (w.buf p ++ w.wire p) (w.wrote p.peer) (w.got p)

/-- A frame is written, for the directions that it changes. -/
theorem sound_write {frames : List Wire.Written} (hb : ∀ q, w.broken q = false)
    (henc : (w.codec p).encode s.hash s.order f = .ok (e, frames))
    (hself : s.InOrder p (w.codec p.peer) (w.codec p) (w.buf p ++ w.wire p) (w.wrote p.peer)
      (w.got p))
    (hpeer : s.InOrder p.peer e (w.codec p.peer)
      (w.buf p.peer ++ w.wire p.peer ++ frames.flatMap (·.octets)) (w.wrote p ++ [f])
      (w.got p.peer)) : (w.write s p f).Sound s := by
  have hne := Party.peer_ne p
  unfold write
  rw [henc]
  intro q
  refine ⟨hb q, ?_⟩
  dsimp only
  rcases Party.eq_or_peer p q with rfl | rfl
  · rw [Function.update_of_ne hne, Function.update_self, Function.update_of_ne hne.symm,
      Function.update_of_ne hne, Codec.encode_put henc]
    exact hself.put _ _
  · rw [Party.peer_peer, Function.update_self, Function.update_of_ne hne, Function.update_self,
      Function.update_self, ← List.append_assoc]
    exact hpeer

theorem sound_hold (hb : ∀ q, w.broken q = false)
    (hself : s.InOrder p (w.codec p.peer) c (rest ++ w.wire p) (w.wrote p.peer) (w.got p ++ fs))
    (hpeer : s.InOrder p.peer c (w.codec p.peer) (w.buf p.peer ++ w.wire p.peer) (w.wrote p)
      (w.got p.peer)) : (w.hold p c rest fs).Sound s := by
  have hne := Party.peer_ne p
  unfold hold
  intro q
  refine ⟨hb q, ?_⟩
  dsimp only
  rcases Party.eq_or_peer p q with rfl | rfl
  · rw [Function.update_of_ne hne, Function.update_self, Function.update_self,
      Function.update_self]
    exact hself
  · rw [Party.peer_peer, Function.update_self, Function.update_of_ne hne,
      Function.update_of_ne hne, Function.update_of_ne hne]
    exact hpeer

/-- SETTINGS are heard and answered. -/
theorem sound_answered (hb : ∀ q, w.broken q = false)
    (hself : s.InOrder p (w.codec p.peer) c (rest ++ w.wire p) (w.wrote p.peer) (w.got p ++ fs))
    (hpeer : s.InOrder p.peer c (w.codec p.peer)
      (w.buf p.peer ++ w.wire p.peer ++ (Wire.Settings.encode .newAck).octets)
      (w.wrote p ++ [.settings .newAck]) (w.got p.peer)) :
    ((w.hold p c rest fs).write s p (.settings .newAck)).Sound s := by
  have hne := Party.peer_ne p
  have hcodec : (w.hold p c rest fs).codec p = c := Function.update_self _ _ _
  have henc : ((w.hold p c rest fs).codec p).encode s.hash s.order (.settings .newAck) =
      .ok (c, [Wire.Settings.encode .newAck]) := by
    rw [hcodec]
    rfl
  refine sound_write hb henc ?_ ?_
  · unfold hold
    dsimp only
    rw [Function.update_of_ne hne, Function.update_self, Function.update_self,
      Function.update_self]
    exact hself
  · unfold hold
    dsimp only
    rw [Function.update_of_ne hne, Function.update_of_ne hne, Function.update_of_ne hne,
      List.flatMap_singleton]
    exact hpeer

theorem Sound.peer (h : w.Sound s) (p : Party) :
    s.InOrder p.peer (w.codec p) (w.codec p.peer) (w.buf p.peer ++ w.wire p.peer) (w.wrote p)
      (w.got p.peer) := by
  have hp := (h p.peer).2
  rwa [Party.peer_peer] at hp

theorem Sound.write (h : w.Sound s) (ha : w.Possible s (.write p f)) : (w.write s p f).Sound s := by
  obtain ⟨hf, hsend, hshort, hadm⟩ := ha
  obtain ⟨e, frames, henc, hin⟩ := (h.peer p).write hf hsend hshort hadm
  exact sound_write (fun q => (h q).1) henc (h p).2 hin

theorem Sound.writeSettings (h : w.Sound s) (p : Party) :
    (w.write s p (.settings (s.settings p))).Sound s := by
  have hp := (h.peer p).settings
  rw [Party.peer_peer] at hp
  have henc : (w.codec p).encode s.hash s.order (.settings (s.settings p)) =
      .ok (w.codec p, [Wire.Settings.encode (s.settings p)]) := rfl
  refine sound_write (fun q => (h q).1) henc (h p).2 ?_
  rw [List.flatMap_singleton]
  exact hp

theorem Sound.arrive (h : w.Sound s) (p : Party) (n : Nat) : (w.arrive p n).Sound s := by
  intro q
  refine ⟨(h q).1, ?_⟩
  have hall : (w.arrive p n).buf q ++ (w.arrive p n).wire q = w.buf q ++ w.wire q := by
    unfold Wires.arrive
    dsimp only
    rcases Party.eq_or_peer p q with rfl | rfl
    · rw [Function.update_self, Function.update_self, List.append_assoc, List.take_append_drop]
    · rw [Function.update_of_ne (Party.peer_ne p), Function.update_of_ne (Party.peer_ne p)]
  rw [hall]
  exact (h q).2

/-- Only SETTINGS of the peer change the encoder. -/
theorem hear_encoder {own : Settings} (h : c.hear own f = .ok c') (ha : f.asks = false) :
    c'.encoderHpack = c.encoderHpack ∧ c'.encoderMaxFrameSize = c.encoderMaxFrameSize := by
  cases f with
  | settings st =>
      have hack : st.ack = true := by
        unfold Wire.Frame.asks at ha
        simpa using ha
      unfold Codec.hear at h
      dsimp only at h
      rw [if_pos hack] at h
      unfold Codec.recvAck Codec.setRecvFrameSize at h
      split at h
      · split at h
        · cases h
          exact ⟨rfl, rfl⟩
        · cases h
      · cases h
        exact ⟨rfl, rfl⟩
  | _ =>
      cases h
      exact ⟨rfl, rfl⟩

theorem Sound.read (h : w.Sound s) (p : Party) : (w.read s p).Sound s := by
  have hb : ∀ q, w.broken q = false := fun q => (h q).1
  obtain ⟨fs, hflow, hsame, hset⟩ := (h p).2
  obtain ⟨hpack, hsize⟩ := Codec.decode_encoder (w.codec p) (w.buf p)
  unfold Wires.read
  cases hd : (w.codec p).decode (w.buf p) with
  | mk res x =>
      obtain ⟨c, rest⟩ := x
      rw [hd] at hpack hsize
      have hpeer := (h.peer p).writer hpack hsize
      cases res with
      | error x => exact (hflow.sound hd).elim
      | ok o =>
          cases o with
          | none =>
              refine sound_hold hb ⟨fs, hflow.wait hd, ?_, hset⟩ hpeer
              rw [List.append_nil]
              exact hsame
          | some f =>
              obtain ⟨c2, gs, rfl, hhear, hrest⟩ := hflow.next hd
              have hself : s.InOrder p (w.codec p.peer) c2 (rest ++ w.wire p) (w.wrote p.peer)
                  (w.got p ++ [f]) := by
                refine ⟨gs, hrest, ?_, fun st hst => hset st (List.mem_cons_of_mem _ hst)⟩
                rw [List.append_assoc]
                exact hsame
              dsimp only
              rw [hhear]
              dsimp only
              cases hasks : f.asks with
              | false =>
                  obtain ⟨hpack', hsize'⟩ := hear_encoder hhear hasks
                  rw [if_neg Bool.false_ne_true]
                  exact sound_hold hb hself (hpeer.writer hpack' hsize')
              | true =>
                  rw [if_pos rfl]
                  -- the settings of the peer, which are answered before anything else is written
                  cases f with
                  | settings st =>
                      rcases hset st List.mem_cons_self with rfl | rfl
                      · have hack : c.recvSettings (s.settings p.peer) = .ok c2 := by
                          unfold Codec.hear at hhear
                          dsimp only at hhear
                          rwa [if_neg (by rw [s.ack]; exact Bool.false_ne_true)] at hhear
                        exact sound_answered hb hself (hpeer.ack hack)
                      · exact absurd hasks Bool.false_ne_true
                  | _ => exact absurd hasks Bool.false_ne_true

theorem new_sound (s : Ends S) : (new s).Sound s := by
  refine Sound.writeSettings (Sound.writeSettings (fun p => ?_) .client) .server
  refine ⟨rfl, [], ?_, .nil, ?_⟩
  · refine .done (Codec.decode_nil _) ?_
    exact ⟨⟨rfl, rfl⟩, Codec.inStep_default _, Nat.le_refl _, Nat.le_refl _, rfl, rfl, rfl⟩
  · exact fun st hst => absurd hst List.not_mem_nil

theorem Reachable.sound (h : Reachable s w) : w.Sound s := by
  induction h with
  | new => exact new_sound s
  | step a _ ha ih =>
      cases a with
      | write p f => exact ih.write ha
      | arrive p n => exact ih.arrive p n
      | read p => exact ih.read p

/-- Octets between two ends are a queue of frames: no call of `decode` fails, and what an end has
decoded are the first frames that its peer has written, in their order and with their content.  When
no octets are on the way and `decode` finds nothing, those are all of them. -/
theorem octets_in_order (h : Reachable s w) (p : Party) : w.broken p = false ∧
    ∃ fs, List.Forall₂ Codec.Same (w.wrote p.peer) (w.got p ++ fs) ∧
      (w.wire p = [] → ((w.codec p).decode (w.buf p)).1 = .ok none → fs = []) := by
  obtain ⟨hb, fs, hflow, hsame, -⟩ := h.sound p
  refine ⟨hb, fs, hsame, fun hwire hd => ?_⟩
  rw [hwire, List.append_nil] at hflow
  exact hflow.drained hd

theorem write_ok {c : Codec S} {frames : List Wire.Written}
    (henc : (w.codec p).encode s.hash s.order f = .ok (c, frames)) :
    (w.write s p f).wire p.peer = w.wire p.peer ++ frames.flatMap (·.octets) ∧
      (w.write s p f).wrote p = w.wrote p ++ [f] := by
  unfold Wires.write
  rw [henc]
  exact ⟨Function.update_self _ _ _, Function.update_self _ _ _⟩

/-- What is written by one end changes nothing of what it has read, nor of what it will read. -/
theorem write_frame (s : Ends S) (w : Wires S) (p : Party) (f : Wire.Frame S) :
    (w.write s p f).got = w.got ∧ (w.write s p f).wire p = w.wire p ∧
      (w.write s p f).wrote p.peer = w.wrote p.peer := by
  unfold Wires.write
  split
  · exact ⟨rfl, Function.update_of_ne (Party.peer_ne p).symm _ _,
      Function.update_of_ne (Party.peer_ne p) _ _⟩
  · exact ⟨rfl, rfl, rfl⟩

/-- All octets that are on the way arrive. -/
theorem arrive_all (w : Wires S) (p : Party) :
    (w.arrive p (w.wire p).length).wire p = [] ∧
      (w.arrive p (w.wire p).length).got = w.got ∧
      (w.arrive p (w.wire p).length).wrote = w.wrote :=
  ⟨(Function.update_self _ _ _).trans List.drop_length, rfl, rfl⟩

/-- When all octets have arrived, each call of `decode` returns a frame as long as one is
missing. -/
theorem Reachable.read_next (h : Reachable s w) {p : Party} (hwire : w.wire p = [])
    (hlt : (w.got p).length < (w.wrote p.peer).length) :
    (∃ f, (w.read s p).got p = w.got p ++ [f]) ∧ (w.read s p).wire p = [] ∧
      (w.read s p).wrote p.peer = w.wrote p.peer := by
  obtain ⟨-, fs, hflow, hsame, -⟩ := h.sound p
  rw [hwire, List.append_nil] at hflow
  have hne : fs ≠ [] := by
    rintro rfl
    have hlen := hsame.length_eq
    rw [List.append_nil] at hlen
    omega
  unfold Wires.read
  cases hd : (w.codec p).decode (w.buf p) with
  | mk res x =>
      obtain ⟨c, rest⟩ := x
      rw [← List.append_nil (w.buf p)] at hflow
      cases res with
      | error x => exact (hflow.sound hd).elim
      | ok o =>
          cases o with
          | none =>
              rw [List.append_nil] at hflow
              exact absurd (hflow.drained (congrArg Prod.fst hd)) hne
          | some f =>
              obtain ⟨c2, gs, -, hhear, -⟩ := hflow.next hd
              have hheld : (w.hold p c2 rest [f]).got p = w.got p ++ [f] :=
                Function.update_self _ _ _
              dsimp only
              rw [hhear]
              dsimp only
              split
              · obtain ⟨h1, h2, h3⟩ := write_frame s (w.hold p c2 rest [f]) p (.settings .newAck)
                exact ⟨⟨f, by rw [h1, hheld]⟩, h2.trans hwire, h3⟩
              · exact ⟨⟨f, hheld⟩, hwire, rfl⟩

/-- When all octets have arrived, an end can decode all frames that its peer has written. -/
theorem Reachable.read_all (n : Nat) {p : Party} : ∀ {w : Wires S}, Reachable s w →
    w.wire p = [] → (w.wrote p.peer).length = (w.got p).length + n →
    ∃ w', Reachable s w' ∧ w'.wrote p.peer = w.wrote p.peer ∧
      List.Forall₂ Codec.Same (w'.wrote p.peer) (w'.got p) := by
  induction n with
  | zero =>
      intro w h _ hlen
      obtain ⟨-, fs, -, hsame, -⟩ := h.sound p
      have hnil : fs = [] := by
        have hlen' := hsame.length_eq
        rw [List.length_append] at hlen'
        exact List.length_eq_zero_iff.mp (by omega)
      rw [hnil, List.append_nil] at hsame
      exact ⟨w, h, rfl, hsame⟩
  | succ n ih =>
      intro w h hwire hlen
      obtain ⟨⟨f, hgot⟩, hwire', hwrote⟩ := h.read_next hwire (by omega)
      obtain ⟨w', h', hwrote', hsame⟩ := ih (h.step (.read p) trivial) hwire' (by
        show ((w.read s p).wrote p.peer).length = ((w.read s p).got p).length + n
        rw [hwrote, hgot, List.length_append, List.length_singleton]
        omega)
      exact ⟨w', h', hwrote'.trans hwrote, hsame⟩

/-- Two ends that raise the size of frames. -/
def largeEnds : Ends Hpack.Link.asciiSyntax where
  hash := fun _ => 0
  order := ⟨id, fun _ _ => rfl⟩
  settings := fun _ => { Wire.Settings.default with maxFrameSize := some 32768 }
  maxHeaders := fun _ => 96
  maxListSize := fun _ => 49152
  maxContinuations := fun _ => 5
  ack := fun _ => rfl
  accepted := by
    intro p x hx
    cases List.mem_singleton.mp hx
    refine ⟨by decide, fun st => ⟨{ st with maxFrameSize := some 32768 }, ?_⟩⟩
    unfold Wire.Setting.apply
    exact if_pos (by decide)

/-- A request with a path of backslashes. -/
def longRequest (k : Nat) : Wire.Headers Hpack.Link.asciiSyntax :=
  .new 1 (Codec.pathOnly (Codec.repeated 92 (by decide) k)) [] true

theorem longRequest_flags (k : Nat) :
    (longRequest k).flags = Wire.Headers.endHeaders ||| Wire.Headers.endStream := rfl

theorem longRequest_endHeaders (k : Nat) : (longRequest k).isEndHeaders = true := by
  unfold Wire.Headers.isEndHeaders
  rw [longRequest_flags]
  decide

theorem longRequest_plain (k : Nat) : Codec.Plain (longRequest k) := by
  constructor
  · rw [longRequest_flags]
    decide
  · rw [longRequest_flags]
    decide

/-- The client has written the request behind its settings. -/
def requested (k : Nat) : Wires Hpack.Link.asciiSyntax :=
  (new largeEnds).write largeEnds .client (.headers (longRequest k))

section

variable {k : Nat} (hlow : 8 * defaultMaxFrameSize < 19 * k) (hhigh : 4 * k + 8 ≤ 49152)

include hlow hhigh

/-- The block of the request is more than one frame, and within the limits. -/
theorem longRequest_length {e : Hpack.Encoder Hpack.Link.asciiSyntax} {hpack : Bytes}
    (henc : (Hpack.Encoder.default Hpack.Link.asciiSyntax).encode (fun _ => 0)
      (Wire.headerIter (longRequest k).pseudo []) [] = .ok (e, hpack)) :
    defaultMaxFrameSize < hpack.length ∧ hpack.length ≤ 49152 := by
  have hlen : (Codec.repeated 92 (by decide) k).bytes.length = k := List.length_replicate
  have hbits : 19 ≤ (Hpack.Huffman.code 92).length := by decide +kernel
  have hge := Hpack.Huffman.encoded_length_ge (n := 19)
    (s := (Codec.repeated 92 (by decide) k).bytes)
    fun c hc => by rwa [List.eq_of_mem_replicate hc]
  have hle := Hpack.Huffman.encoded_length_le (Codec.repeated 92 (by decide) k).bytes
  have hstr := Hpack.strOctets_length_ge (Codec.repeated 92 (by decide) k).bytes
  have hstr' := Hpack.strOctets_length (s := (Codec.repeated 92 (by decide) k).bytes) 2 (by omega)
  unfold defaultMaxFrameSize at hlow ⊢
  rw [Codec.repeated_block (by decide) (by omega) (by omega) henc, List.length_cons]
  omega

theorem longRequest_possible :
    (new largeEnds).Possible largeEnds (.write .client (.headers (longRequest k))) := by
  refine ⟨nofun, ⟨rfl, show (1 : Nat) < 2 ^ 31 by decide, longRequest_endHeaders k,
    longRequest_plain k, fun f hf => absurd hf List.not_mem_nil⟩,
    Codec.repeated_short (by decide) (by omega), Nat.zero_le _, ?_, fun e hpack henc => ?_⟩
  · refine Nat.le_trans (Codec.repeated_listSize (by decide) k).le ?_
    show 37 + k ≤ 49152
    omega
  · obtain ⟨-, hle⟩ := longRequest_length hlow hhigh henc
    refine .inr ⟨.inr ?_, hle⟩
    show (hpack.length - 1) / 16384 ≤ 5
    omega

/-- The request is a HEADERS frame and CONTINUATION frames. -/
theorem requested_wire : ∃ b : Block, b.continuations ≠ [] ∧ (requested k).wire .server =
      (Wire.Settings.encode (largeEnds.settings .client)).octets ++ b.octets ∧
    (requested k).wrote .client =
      [.settings (largeEnds.settings .client), .headers (longRequest k)] := by
  obtain ⟨e', hpack, frames, b, s, henc, hblock, hoctets, hb, -⟩ :=
    @Codec.encodeBlock_spec _ largeEnds.hash ((new largeEnds).codec .client).encoderHpack _
      (longRequest k).streamId (longRequest k).flags
      ((new largeEnds).codec .client).encoderMaxFrameSize (longRequest k).pseudo
      (largeEnds.order.iter (longRequest k).fields) (Codec.inStep_default _)
      (Codec.repeated_short (by decide) (by omega)) (by decide) (by decide)
      (show (1 : Nat) < 2 ^ 31 by decide)
      (beq_iff_eq.mp (longRequest_endHeaders k)) (longRequest_plain k).padded
      (longRequest_plain k).priority
  have hsettings : (new largeEnds).wire .server =
    (Wire.Settings.encode (largeEnds.settings .client)).octets := rfl
  have hfirst : (new largeEnds).wrote .client = [.settings (largeEnds.settings .client)] := rfl
  obtain ⟨hwire, hwrote⟩ := write_ok (Codec.encode_headers (longRequest_endHeaders k) hblock)
  rw [hoctets, show Party.client.peer = .server from rfl, hsettings] at hwire
  rw [hfirst, List.singleton_append] at hwrote
  refine ⟨b, fun hnone => ?_, hwire, hwrote⟩
  have hcount := hb.count
  have hlong := (longRequest_length hlow hhigh henc).1
  have hsize : (((new largeEnds).codec .client).encoderMaxFrameSize : Nat) = 16384 := rfl
  rw [hnone, List.length_nil, eq_comm, Nat.div_eq_zero_iff] at hcount
  unfold defaultMaxFrameSize at hlong
  omega

end

/-- The octets of the settings and of the request arrive, and the server decodes both. -/
theorem octets_in_order_requested : ∃ (v : Wire.Headers Hpack.Link.asciiSyntax) (b : Block)
    (w w' : Wires Hpack.Link.asciiSyntax),
    b.continuations ≠ [] ∧ w.wire .server =
      (Wire.Settings.encode (largeEnds.settings .client)).octets ++ b.octets ∧
    Reachable largeEnds w ∧ Reachable largeEnds w' ∧
    w'.wrote .client = [.settings (largeEnds.settings .client), .headers v] ∧
    (w'.got .server).length = 2 ∧ w'.broken .server = false ∧
    List.Forall₂ Codec.Same (w'.wrote .client) (w'.got .server) := by
  obtain ⟨k, hlow, hhigh⟩ : ∃ k, 8 * defaultMaxFrameSize < 19 * k ∧ 4 * k + 8 ≤ 49152 :=
    ⟨8000, by decide, by decide⟩
  obtain ⟨b, hconts, hwire, hwrote⟩ := requested_wire hlow hhigh
  have hrun : Reachable largeEnds (requested k) :=
    Reachable.new.step _ (longRequest_possible hlow hhigh)
  have harrive : Reachable largeEnds
      ((requested k).arrive .server ((requested k).wire .server).length) :=
    hrun.step (.arrive .server _) trivial
  obtain ⟨hgot, -, -⟩ :=
    write_frame largeEnds (new largeEnds) .client (.headers (longRequest k))
  have hnone : (requested k).got .server = [] := congrFun hgot .server
  obtain ⟨h1, h2, h3⟩ := arrive_all (requested k) .server
  obtain ⟨w, hr, hsame, hall⟩ := harrive.read_all 2 h1 (by
    rw [h2, h3, hnone, show Party.server.peer = .client from rfl, hwrote]
    rfl)
  rw [h3, show Party.server.peer = .client from rfl, hwrote] at hsame
  obtain ⟨hbroken, fs, hin, -⟩ := octets_in_order hr .server
  have hlen : (w.got .server).length = 2 :=
    hall.length_eq.symm.trans (congrArg List.length hsame)
  have hnil : fs = [] := by
    have heq := hin.length_eq
    rw [List.length_append, hall.length_eq] at heq
    exact List.length_eq_zero_iff.mp (by omega)
  rw [hnil, List.append_nil] at hin
  exact ⟨longRequest k, b, requested k, w, hconts, hwire, hrun, hr, hsame, hlen, hbroken, hin⟩

end Wires

end NtexH2
