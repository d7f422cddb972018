/-
  Connection/TameRun.lean --- the steps of a connection are tame.

  The functions of a sending task are tame for the other streams, and every other step
  is tame for all of them.  Along a run the marks of the other side do not move.
-/
import NtexH2.Connection.TameReceive

set_option autoImplicit false

namespace NtexH2

namespace Connection

open Outline (Tame)

variable {G : Prop} {S : Obj → Prop} {s : Start} {c c' c'' : Connection} {o : Obj}
  {io : Nat → IoTurn} {eof : Bool} {data : StreamData}

/-! ## A task and the other streams -/

/-- The streams of the other tasks. -/
def Others (o : Obj) (p : Obj) : Prop := p ≠ o

theorem tames_others {f : Stream → Stream} (hid : (f (c.objs o)).id = (c.objs o).id)
    (hread : (c.objs o).side.Unread → (f (c.objs o)).side.Unread) :
    Tames G (Others o) c (c.modify o f) := by
  unfold Tames
  rw [outline_modify]
  exact .setSide hid hread fun h _ => absurd rfl h

theorem tames_cancelCapacityWait (c : Connection) (o : Obj) :
    Tames G S c (c.cancelCapacityWait o) :=
  Tames.of_eq
    (tames_cancel (f := fun s => { s with waitForCapacity := false }) rfl (fun h => h) rfl)
    (outline_stopCapacityTimer _ o)

theorem tames_pollSendCapacity (c : Connection) (o : Obj) :
    Tames G (Others o) c (c.pollSendCapacity o).2 := by
  unfold pollSendCapacity
  split
  · exact tames_cancelCapacityWait c o
  · split
    · exact tames_cancelCapacityWait c o
    · have h1 : Tames G (Others o) c (c.registerSendWaker o) := tames_others rfl fun h => h
      have h2 : Tames G (Others o) (c.registerSendWaker o)
          ((c.registerSendWaker o).modify o fun s => { s with waitForCapacity := true }) :=
        tames_others rfl fun h => h
      exact (h1.trans h2).of_eq (outline_startCapacityTimer _ o)

theorem tames_writeReady (c : Connection) (o : Obj) (r : IoReady) :
    Tames G (Others o) c (c.writeReady o r).2 := by
  have h : Tames G (Others o) c (c.registerSendWaker o) := tames_others rfl fun h => h
  unfold writeReady
  split
  · exact .same rfl
  · cases r with
    | ready => exact h
    | failed => exact h
    | pending => exact h

theorem outline_notes (c : Connection) (o : Obj) (f : Stream → Stream) (b b' : Bool) (a : Anomaly)
    (g : Window → Window) :
    ({ ((c.note b a).modify o f).note b' a with
      sendWindow := g (((c.note b a).modify o f).note b' a).sendWindow } : Connection).outline =
      { c.outline.setSide o (f (c.objs o)).side with sendWindow := g c.sendWindow } := by
  have h1 : (((c.note b a).modify o f).note b' a).outline =
      c.outline.setSide o (f (c.objs o)).side := by
    rw [outline_note, outline_modify, outline_note, note_objs]
  generalize ((c.note b a).modify o f).note b' a = d at h1
  have hw : d.sendWindow = c.sendWindow := congrArg Outline.sendWindow h1
  rw [← h1, ← hw]
  rfl

/-- The windows of a DATA frame. -/
theorem outline_spendWindows (c : Connection) (o : Obj) (size : Nat) :
    (c.spendWindows o size).outline =
      { c.outline.setSide o { (c.objs o).side with sendWindow := (c.objs o).sendWindow.dec size }
        with sendWindow := c.sendWindow.dec size } :=
  outline_notes c o (fun s => { s with sendWindow := s.sendWindow.dec size }) _ _ .sendWindow
    fun w => w.dec size

/-- A DATA frame takes from the connection window what another stream waits for only if the
window of that stream is spent too. -/
theorem tames_spendWindows (hcap : 0 < c.sendWindow.windowSize) (size : Nat) :
    Tames G (Others o) c (c.spendWindows o size) := by
  have h1 : Tame G (Others o) c.outline (c.outline.setSide o
      { (c.objs o).side with sendWindow := (c.objs o).sendWindow.dec size }) :=
    .setSide rfl (fun h => h) fun h _ => absurd rfl h
  unfold Tames
  rw [outline_spendWindows]
  refine { h1 with
    fresh := fun _ h h' => absurd h (Nat.not_le_of_lt h')
    resets := fun _ _ h => .inl h
    safe := ?_ }
  intro p hp hne hs hc hw
  have hside : (c.outline.setSide o { (c.objs o).side with
      sendWindow := (c.objs o).sendWindow.dec size }).sides p = c.outline.sides p :=
    Outline.setSide_other _ _ hne
  obtain ⟨b1, b2, b3, b4⟩ := hs (hside ▸ hc) (hside ▸ hw)
  have hz : (c.outline.sides p).sendWindow.windowSize = 0 := by
    have b1' : min (c.outline.sides p).sendWindow.windowSize c.sendWindow.windowSize = 0 := b1
    omega
  refine ⟨?_, hside.symm ▸ b2, hside.symm ▸ b3, b4⟩
  show min ((c.outline.setSide o _).sides p).sendWindow.windowSize _ = 0
  rw [hside, hz, Nat.zero_min]

theorem reviewState_sendWindow (c : Connection) (o : Obj) :
    (c.reviewState o).sendWindow = c.sendWindow := by
  unfold reviewState
  split
  · exact congrArg Outline.sendWindow (outline_dropStream _ _)
  · rfl

/-- The frame, then the end of the stream, then the windows. -/
theorem sendChunk_parts (c : Connection) (o : Obj) (payload : Bytes) (size : Nat) (last : Bool) :
    ∃ c1 : Connection, c1.outline = c.outline ∧ c1.objs = c.objs ∧
      c.sendChunk o payload size last =
        (if last then c1.stateSendClose o none else c1).spendWindows o size := by
  unfold sendChunk
  dsimp only
  generalize hn : c.note _ .overrun = c0
  have h0 : c0.outline = c.outline := by rw [← hn, outline_note]
  have ho : c0.objs = c.objs := by rw [← hn, note_objs]
  exact ⟨c0.encode o .sendPages (.data ⟨(c0.objs o).id, payload, size, last⟩),
    (outline_push c0 rfl).trans h0, ho, rfl⟩

theorem tames_sendChunk (hcap : 0 < c.availableSendCapacity o) (payload : Bytes) (size : Nat)
    (last : Bool) : Tames G (Others o) c (c.sendChunk o payload size last) := by
  obtain ⟨c1, hk, -, heq⟩ := sendChunk_parts c o payload size last
  have hcon : 0 < c.sendWindow.windowSize := Nat.lt_of_lt_of_le hcap (Nat.min_le_right _ _)
  have h1 : Tames G (Others o) c c1 := .same hk
  have hw1 : c1.sendWindow = c.sendWindow := congrArg Outline.sendWindow hk
  rw [heq]
  cases last with
  | false =>
      exact h1.trans (tames_spendWindows (by rw [hw1]; exact hcon) size)
  | true =>
      have hw2 : (c1.stateSendClose o none).sendWindow = c1.sendWindow :=
        reviewState_sendWindow _ o
      refine h1.trans ((tames_stateSendClose c1 o none).trans (tames_spendWindows ?_ size))
      rw [hw2, hw1]
      exact hcon

theorem sending_tames (o : Obj) : SendRule o (Tames G (Others o)) (Tames G (Others o)) where
  refl := fun _ => .same rfl
  done := fun h => h
  andThen := Tames.trans
  writeReady := fun c r => tames_writeReady c o r
  pollSendCapacity := fun c => tames_pollSendCapacity c o
  sendChunk := fun hcap payload size => tames_sendChunk hcap payload size false
  lastChunk := fun hcap payload size last => tames_sendChunk hcap payload size last

theorem tames_sendPages (c : Connection) (o : Obj) (data : StreamData) (eof : Bool) :
    Tames G (Others o) c (c.sendPages io o data eof).2 := by
  unfold sendPages
  split
  · exact .same rfl
  · exact .same rfl
  · split
    · exact .same rfl
    · split
      · split
        · exact (tames_stateSendClose c o none).of_eq (outline_push _ rfl)
        · exact .same rfl
      · exact (sending_tames o).pagesLoop _ _ c data

/-! ## Steps -/

/-- The stream whose task takes the step. -/
def actor (c : Connection) : Step → Option Obj
  | .sendPages _ o _ _ => some o
  | .pollSender _ _ i => c.senders[i]?.map (·.stream)
  | .pollSendCapacity o => some o
  | _ => none

/-- The streams that do not take the step. -/
def Bystander (c : Connection) (a : Step) (o : Obj) : Prop := c.actor a ≠ some o

theorem outline_started (r : SendPoll × Connection) : (started r).outline = r.2.outline := by
  unfold started
  split
  · rfl
  · rfl

theorem outline_settle (i : Nat) (r : SendPoll × Connection) :
    (settle i r).outline = r.2.outline := by
  unfold settle
  split
  · rfl
  · rfl

theorem outline_reserveStream (c : Connection) : c.reserveStream.1.outline = c.outline := by
  unfold reserveStream
  split
  · rfl
  · rfl

theorem Clean.numbers (hc : c.Clean) (hs : c.server = false) : c.Numbers := by
  have hnext : c.nextStreamId = 2 * c.created + 1 := (hc.good.table.given hs).1
  refine ⟨hs, ?_⟩
  rw [hnext, Nat.mul_add_mod]

theorem Clean.ackErrors_lt (hc : c.Clean) {e : Obj × StreamError} (he : e ∈ c.ackErrors) :
    e.1 < c.created :=
  hc.good.table.ackErrors e.1 (List.mem_map_of_mem (f := (·.1)) he)

/-- Every step is tame for the streams that do not take it; the condition on received frames is
about resets. -/
theorem tames_step (hs : Sane G c) (hc : c.Clean) {a : Step} (ha : c.Enabled a)
    (hp : ∀ f, a = .receive f → Permits G c f) : Tames G (c.Bystander a) c (c.step a) := by
  have hnames : ∀ o < c.created, Names G c o := fun o ho _ => hs.used o ho
  cases a with
  | receive f => exact tames_receive hs ha (hp f rfl)
  | stop r => exact tames_stop hs.live r
  | shutdown => exact tames_disconnect hs.live
  | ackError =>
      have h1 : Tames G (c.Bystander .ackError) c { c with ackErrors := [] } := .same rfl
      refine h1.trans (tames_handleAckErrors ?_)
      intro e he
      have hlt := hc.ackErrors_lt he
      exact ⟨hlt, hnames e.1 hlt⟩
  | control goAway close =>
      refine .same ?_
      cases goAway with
      | none => cases close <;> rfl
      | some g =>
          have h1 : (c.encodeCon (.goAway g.1 g.2.1 g.2.2)).outline = c.outline :=
            outline_push c rfl
          cases close with
          | false => exact h1
          | true => exact h1
  | sendInformational o status fields => exact tames_sendInformational c o status fields
  | sendResponse o status fields eof => exact tames_sendResponse c o status fields eof
  | sendTrailers o fields => exact tames_sendTrailers c o fields
  | sendPages io o data eof =>
      have h1 : Tames G (Others o) c (c.sendPages io o data eof).2 := tames_sendPages c o data eof
      have h2 : Tames G (Others o) c (started (c.sendPages io o data eof)) :=
        h1.of_eq (outline_started _)
      exact Tame.weaken h2 fun p hp heq => hp (by rw [heq]; rfl)
  | pollSender io r i =>
      unfold step
      dsimp only
      cases hi : c.senders[i]? with
      | none => exact .same rfl
      | some p =>
          have h1 : Tames G (Others p.stream) c (c.pollSender io r p).2 :=
            (sending_tames p.stream).pollSender c
          have h2 : Tames G (Others p.stream) c (settle i (c.pollSender io r p)) :=
            h1.of_eq (outline_settle i _)
          refine Tame.weaken h2 fun q hq heq => hq ?_
          show c.senders[i]?.map (·.stream) = some q
          rw [hi, heq]
          rfl
  | dropSender i =>
      unfold step
      dsimp only
      cases hi : c.senders[i]? with
      | none => exact .same rfl
      | some p =>
          dsimp only
          split
          · have h1 : Tames G (c.Bystander (.dropSender i)) c
                { c with senders := c.senders.eraseIdx i } := .same rfl
            exact h1.trans (tames_cancelCapacityWait _ p.stream)
          · exact .same rfl
  | pollSendCapacity o =>
      exact Tame.weaken (tames_pollSendCapacity c o) fun p hp heq => hp (by rw [heq]; rfl)
  | cancelCapacityWait o => exact tames_cancelCapacityWait c o
  | capacityTimeout o => exact tames_capacityTimeout ha (hnames o ha)
  | reset o reason => exact tames_reset_stream (hnames o ha) reason
  | consume i sz => exact .same (outline_consume c i sz)
  | addCapacity i j => exact .same (outline_addCapacity c i j)
  | dropCapacity i => exact .same (outline_dropCapacity c i)
  | emptyCapacity o => exact .same rfl
  | request r => exact tames_request (hc.numbers ha) r
  | pollRequest w r => exact tames_pollRequest (hc.numbers ha) w r
  | dropRequest w => exact .same (outline_dropRequest c w)
  | reserve => exact .same (outline_reserveStream c)
  | reservationSend r => exact tames_reservationSend (hc.numbers ha.1) r
  | reservationDrop =>
      exact .same (outline_releaseReservedStream { c with reservations := c.reservations - 1 })
  | inflight o => exact .same (outline_modify_same c o fun _ => rfl)
  | disconnectOnDrop o => exact .same (outline_modify_same c o fun _ => rfl)
  | streamDrop o => exact tames_streamDrop (hnames o ha)
  | sendStreamDrop o => exact tames_sendStreamDrop ha (hnames o ha)
  | recvStreamDrop o => exact tames_recvStreamDrop ha (hnames o ha)
  | takeLocalClose o => exact .same (outline_modify_same c o fun _ => rfl)
  | startDisconnect => exact .same (outline_startDisconnect c)
  | forceClose => exact .same rfl
  | ping payload => exact .same (outline_push c rfl)
  | settingsTimer =>
      unfold step
      dsimp only
      split
      · exact .same rfl
      · exact .same rfl
  | tick d => exact .same rfl
  | reorder l => exact .same rfl

/-! ## Runs -/

/-- What every state of a run has: the marks of the other side are at their start, unknown streams
are reported as the start says, the frame size of the peer is in its range, and a stream that is
idle has counted nothing. -/
structure Settled (s : Start) (c : Connection) : Prop where
  heard : c.server = false → c.lastId = 0
  given : c.server = true → c.nextStreamId = 1
  unknown : c.unknownStreams = !s.skipStreams
  frameSize : c.FrameSize
  unread : ∀ o < c.created, (c.objs o).side.Unread

theorem Clean.sane (hc : c.Clean) (h : Settled s c) (hG : G → s.skipStreams = false) :
    Sane G c where
  live := hc.isLive
  bound := hc.good.table.bound
  key := hc.good.table.key
  inj := fun _ ho _ hp => hc.good.table.id_inj ho hp
  used := fun _ => used_of_created hc
  marks := ⟨h.heard, h.given⟩
  unknown := fun hg => by rw [h.unknown, hG hg]; rfl

theorem settled_init (s : Start) : Settled s s.init where
  heard := fun _ => rfl
  given := fun _ => rfl
  unknown := rfl
  frameSize := by
    show 0 < defaultMaxFrameSize ∧ defaultMaxFrameSize < 2 ^ 24
    decide
  unread := fun _ ho => absurd ho (Nat.not_lt_zero _)

theorem Settled.tames (h : Settled s c) (ht : Tames G S c c') : Settled s c' where
  heard := fun hs => by
    have hs' : c.server = false := ht.server.symm.trans hs
    exact (ht.heard hs').trans (h.heard hs')
  given := fun hs => by
    have hs' : c.server = true := ht.server.symm.trans hs
    exact (ht.given hs').trans (h.given hs')
  unknown := ht.unknownStreams.trans h.unknown
  frameSize := ht.frameSize h.frameSize
  unread := ht.unread h.unread

theorem permits_of_false (c : Connection) (f : Frame) : Permits False c f := by
  cases f with
  | invalid f => exact nofun
  | _ => trivial

theorem settled_of_reachable (h : Reachable s c) : Settled s c := by
  induction h with
  | new => exact settled_init s
  | step a h ha ih =>
      have hsane : Sane False _ := h.clean.sane ih nofun
      exact ih.tames (tames_step hsane h.clean ha fun f _ => permits_of_false _ f)

/-- The frame size of the peer, which bounds the DATA frames of `send_pages`, is never zero and
never more than a frame can have. -/
theorem Reachable.frameSize (h : Reachable s c) : c.FrameSize := (settled_of_reachable h).frameSize

/-- A stream that waits for the head of its message has counted nothing. -/
theorem Reachable.unread (h : Reachable s c) (ho : o < c.created) (hi : (c.objs o).recv = .idle) :
    ∀ n, (c.objs o).contentLength ≠ .remaining n :=
  (settled_of_reachable h).unread o ho hi

end Connection

end NtexH2
