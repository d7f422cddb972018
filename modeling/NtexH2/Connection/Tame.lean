/-
  Connection/Tame.lean --- what a connection does to ids and to tasks that wait for
  send capacity.

  A change of the outline is tame if it names used ids only and leaves no waiting task
  behind.  Each function of a connection is tame; the exceptions are the functions of
  the waiting task itself.
-/
import NtexH2.Connection.Outline

set_option autoImplicit false

namespace NtexH2

/-- The content is counted from the head on: before it there is no number of octets to come. -/
def Side.Unread (s : Side) : Prop := s.recv = .idle → ∀ n, s.contentLength ≠ .remaining n

/-- A half that receives a payload is past its head. -/
theorem Side.unread_of_payload {s : Side} (h : s.recv = .payload) : s.Unread := by
  intro hi
  rw [h] at hi
  cases hi

theorem Side.unread_of_closed {s : Side} (h : s.recv.isClosed = true) : s.Unread := by
  intro hi
  rw [hi] at h
  cases h

namespace Outline

/-! ## Tame changes -/

/-- A used id, as in `Connection.Used`. -/
def Used (k : Outline) (id : StreamId) : Prop :=
  id % 2 = 1 ∧ (k.server = true → id ≤ k.lastId) ∧ (k.server = false → id < k.nextStreamId)

/-- Nothing can be sent on the stream now, and nothing has ended it. -/
structure Blocked (k : Outline) (o : Obj) : Prop where
  capacity : min (k.sides o).sendWindow.windowSize k.sendWindow.windowSize = 0
  sending : (k.sides o).send.isClosed = false
  noError : (k.sides o).error = none
  running : k.error = none

/-- A waker that is registered and not woken, for a task that waits for capacity, belongs to a
stream that is blocked. -/
def Safe (k : Outline) (o : Obj) : Prop :=
  (k.sides o).sendCap = true → (k.sides o).waitForCapacity = true → k.Blocked o

theorem Safe.of_eq {k k' : Outline} {o : Obj} (h : k.Safe o) (hs : k'.sides o = k.sides o)
    (hw : k'.sendWindow = k.sendWindow) (he : k'.error = k.error) : k'.Safe o := by
  intro h1 h2
  rw [hs] at h1 h2
  obtain ⟨b1, b2, b3, b4⟩ := h h1 h2
  rw [← hs] at b1 b2 b3
  rw [← hw] at b1
  rw [← he] at b4
  exact ⟨b1, b2, b3, b4⟩

/-- A change of a connection: the streams keep their ids, the marks of used ids grow, new streams
and, if `G` holds, resets have used ids, streams that are idle have counted nothing, and the streams
of `S` stay safe. -/
structure Tame (G : Prop) (S : Obj → Prop) (k k' : Outline) : Prop where
  server : k'.server = k.server
  unknownStreams : k'.unknownStreams = k.unknownStreams
  created : k.created ≤ k'.created
  lastId : k.lastId ≤ k'.lastId
  nextStreamId : k.nextStreamId ≤ k'.nextStreamId
  heard : k.server = false → k'.lastId = k.lastId
  given : k.server = true → k'.nextStreamId = k.nextStreamId
  frameSize : 0 < k.remoteFrameSize ∧ k.remoteFrameSize < 2 ^ 24 →
    0 < k'.remoteFrameSize ∧ k'.remoteFrameSize < 2 ^ 24
  ids : ∀ o < k.created, (k'.sides o).id = (k.sides o).id
  fresh : ∀ o, k.created ≤ o → o < k'.created → k'.Used (k'.sides o).id
  resets : G → ∀ id ∈ k'.resets, id ∈ k.resets ∨ k'.Used id
  unread : (∀ o < k.created, (k.sides o).Unread) → ∀ o < k'.created, (k'.sides o).Unread
  safe : ∀ o < k.created, S o → k.Safe o → k'.Safe o

variable {G : Prop} {S : Obj → Prop} {k k' k'' : Outline}

/-- Used ids stay used. -/
theorem Tame.used (h : Tame G S k k') {id : StreamId} (hu : k.Used id) : k'.Used id := by
  obtain ⟨hodd, hs, hc⟩ := hu
  refine ⟨hodd, fun hs' => ?_, fun hs' => ?_⟩
  · rw [h.server] at hs'
    exact Nat.le_trans (hs hs') h.lastId
  · rw [h.server] at hs'
    exact Nat.lt_of_lt_of_le (hc hs') h.nextStreamId

theorem Tame.refl (k : Outline) : Tame G S k k where
  server := rfl
  unknownStreams := rfl
  created := Nat.le_refl _
  lastId := Nat.le_refl _
  nextStreamId := Nat.le_refl _
  heard := fun _ => rfl
  given := fun _ => rfl
  frameSize := fun h => h
  ids := fun _ _ => rfl
  fresh := fun _ h h' => absurd h (Nat.not_le_of_lt h')
  resets := fun _ _ h => .inl h
  unread := fun h => h
  safe := fun _ _ _ h => h

/-- Tame changes compose: a stream that is new on the way has a used id at the end. -/
theorem Tame.trans (h : Tame G S k k') (h' : Tame G S k' k'') : Tame G S k k'' where
  server := h'.server.trans h.server
  unknownStreams := h'.unknownStreams.trans h.unknownStreams
  created := Nat.le_trans h.created h'.created
  lastId := Nat.le_trans h.lastId h'.lastId
  nextStreamId := Nat.le_trans h.nextStreamId h'.nextStreamId
  heard := fun hs => (h'.heard (h.server.trans hs)).trans (h.heard hs)
  given := fun hs => (h'.given (h.server.trans hs)).trans (h.given hs)
  frameSize := fun hf => h'.frameSize (h.frameSize hf)
  ids := fun o ho => (h'.ids o (Nat.lt_of_lt_of_le ho h.created)).trans (h.ids o ho)
  fresh := by
    intro o ho ho'
    by_cases hlt : o < k'.created
    · rw [h'.ids o hlt]
      exact h'.used (h.fresh o ho hlt)
    · exact h'.fresh o (Nat.le_of_not_lt hlt) ho'
  resets := by
    intro hG id hid
    rcases h'.resets hG id hid with hid | hu
    · rcases h.resets hG id hid with hid | hu
      · exact .inl hid
      · exact .inr (h'.used hu)
    · exact .inr hu
  unread := fun hu => h'.unread (h.unread hu)
  safe := fun o ho hS hs =>
    h'.safe o (Nat.lt_of_lt_of_le ho h.created) hS (h.safe o ho hS hs)

/-- A change that is tame for more streams. -/
theorem Tame.weaken {S' : Obj → Prop} (h : Tame G S k k') (hS : ∀ o, S' o → S o) :
    Tame G S' k k' :=
  { h with safe := fun o ho hS' => h.safe o ho (hS o hS') }

/-! ## Changes of a side -/

section

variable {o : Obj} {s : Side}

theorem setSide_self (k : Outline) (o : Obj) (s : Side) : (k.setSide o s).sides o = s := if_pos rfl

theorem setSide_other (k : Outline) {o p : Obj} (s : Side) (h : p ≠ o) :
    (k.setSide o s).sides p = k.sides p := if_neg h

/-- The change of one side is tame if its id stays and nothing waits in vain there. -/
theorem Tame.setSide (hid : s.id = (k.sides o).id) (hread : (k.sides o).Unread → s.Unread)
    (hsafe : S o → k.Safe o → (k.setSide o s).Safe o) : Tame G S k (k.setSide o s) where
  server := rfl
  unknownStreams := rfl
  created := Nat.le_refl _
  lastId := Nat.le_refl _
  nextStreamId := Nat.le_refl _
  heard := fun _ => rfl
  given := fun _ => rfl
  frameSize := fun h => h
  ids := by
    intro p _
    by_cases hp : p = o
    · rw [hp, setSide_self, hid]
    · rw [setSide_other k s hp]
  fresh := fun _ h h' => absurd h (Nat.not_le_of_lt h')
  resets := fun _ _ h => .inl h
  unread := by
    intro hu p hlt
    by_cases hp : p = o
    · rw [hp, setSide_self]
      rw [hp] at hlt
      exact hread (hu o hlt)
    · rw [setSide_other k s hp]
      exact hu p hlt
  safe := by
    intro p _ hS hs
    by_cases hp : p = o
    · rw [hp] at hS hs ⊢
      exact hsafe hS hs
    · exact hs.of_eq (setSide_other k s hp) rfl rfl

/-- The task is woken. -/
theorem Tame.wake (hid : s.id = (k.sides o).id) (hread : (k.sides o).Unread → s.Unread)
    (hcap : s.sendCap = false) : Tame G S k (k.setSide o s) := by
  refine .setSide hid hread fun _ _ h1 _ => ?_
  rw [setSide_self, hcap] at h1
  cases h1

/-- The task waits no more. -/
theorem Tame.cancel (hid : s.id = (k.sides o).id) (hread : (k.sides o).Unread → s.Unread)
    (hwait : s.waitForCapacity = false) : Tame G S k (k.setSide o s) := by
  refine .setSide hid hread fun _ _ _ h2 => ?_
  rw [setSide_self, hwait] at h2
  cases h2

/-- Nothing changes for the task, unless the window stays empty. -/
theorem Tame.keep (hid : s.id = (k.sides o).id) (hread : (k.sides o).Unread → s.Unread)
    (hcap : s.sendCap = (k.sides o).sendCap)
    (hwait : s.waitForCapacity = (k.sides o).waitForCapacity)
    (hwin : s.waitForCapacity = true → min s.sendWindow.windowSize k.sendWindow.windowSize = 0 ∨
      s.sendWindow = (k.sides o).sendWindow)
    (hsend : (k.sides o).send.isClosed = false → s.send.isClosed = false)
    (herr : s.error = (k.sides o).error) : Tame G S k (k.setSide o s) := by
  refine .setSide hid hread fun _ hs h1 h2 => ?_
  rw [setSide_self] at h1 h2
  obtain ⟨b1, b2, b3, b4⟩ := hs (hcap ▸ h1) (hwait ▸ h2)
  refine ⟨?_, ?_, ?_, b4⟩
  · rw [setSide_self]
    rcases hwin h2 with hz | hw
    · exact hz
    · rw [hw]
      exact b1
  · rw [setSide_self]
    exact hsend b2
  · rw [setSide_self, herr]
    exact b3

end

/-! ## Resets -/

/-- A written RST_STREAM. -/
def pushReset (k : Outline) (id : StreamId) : Outline := { k with resets := id :: k.resets }

/-- A reset is tame if its id is used. -/
theorem Tame.reset {id : StreamId} (hu : G → k.Used id) : Tame G S k (k.pushReset id) :=
  { (Tame.refl k : Tame G S k k) with
    resets := by
      intro hG id' hid
      rcases List.mem_cons.mp hid with rfl | hid
      · exact .inr (hu hG)
      · exact .inl hid
    fresh := fun _ h h' => absurd h (Nat.not_le_of_lt h')
    safe := fun _ _ _ h => h.of_eq rfl rfl rfl }

end Outline

namespace Connection

open Outline (Tame)

variable {G : Prop} {S : Obj → Prop} {c c' c'' : Connection} {o : Obj}

/-- A tame change of a connection. -/
def Tames (G : Prop) (S : Obj → Prop) (c c' : Connection) : Prop := Tame G S c.outline c'.outline

theorem Tames.same (h : c'.outline = c.outline) : Tames G S c c' := by
  unfold Tames
  rw [h]
  exact .refl _

theorem Tames.trans (h : Tames G S c c') (h' : Tames G S c' c'') : Tames G S c c'' :=
  Tame.trans h h'

theorem Tames.of_eq (h : Tames G S c c') (he : c''.outline = c'.outline) : Tames G S c c'' :=
  h.trans (.same he)

/-! ## The halves of a stream -/

/-- A task that is woken waits no longer, so nothing is asked of its stream. -/
theorem tames_wake {f : Stream → Stream} (hid : (f (c.objs o)).id = (c.objs o).id)
    (hread : (c.objs o).side.Unread → (f (c.objs o)).side.Unread)
    (hcap : (f (c.objs o)).sendCap = false) : Tames G S c (c.modify o f) := by
  unfold Tames
  rw [outline_modify]
  exact .wake hid hread hcap

/-- A task that has stopped waiting. -/
theorem tames_cancel {f : Stream → Stream} (hid : (f (c.objs o)).id = (c.objs o).id)
    (hread : (c.objs o).side.Unread → (f (c.objs o)).side.Unread)
    (hwait : (f (c.objs o)).waitForCapacity = false) : Tames G S c (c.modify o f) := by
  unfold Tames
  rw [outline_modify]
  exact .cancel hid hread hwait

/-- The head of a message, a content-length or the receive half. -/
theorem tames_keep {f : Stream → Stream} (hid : (f (c.objs o)).id = (c.objs o).id)
    (hread : (c.objs o).side.Unread → (f (c.objs o)).side.Unread)
    (hcap : (f (c.objs o)).sendCap = (c.objs o).sendCap)
    (hwait : (f (c.objs o)).waitForCapacity = (c.objs o).waitForCapacity)
    (hwin : (f (c.objs o)).sendWindow = (c.objs o).sendWindow)
    (hsend : (c.objs o).send.isClosed = false → (f (c.objs o)).send.isClosed = false)
    (herr : (f (c.objs o)).error = (c.objs o).error) : Tames G S c (c.modify o f) := by
  unfold Tames
  rw [outline_modify]
  exact .keep hid hread hcap hwait (fun _ => .inr hwin) hsend herr

/-- The review wakes the task of a stream that is done. -/
theorem tames_reviewState (c : Connection) (o : Obj) : Tames G S c (c.reviewState o) := by
  unfold reviewState
  split
  · exact Tames.of_eq (tames_wake (f := fun s => { s with sendCap := false }) rfl (fun h => h) rfl)
      (outline_dropStream _ _)
  · exact .same rfl

/-- Both halves end, and the task is woken. -/
theorem outline_end {f : Stream → Stream} (hr : (f (c.objs o)).recv.isClosed = true)
    (hs : (f (c.objs o)).send.isClosed = true) :
    ((c.modify o f).reviewState o).outline =
      c.outline.setSide o { (f (c.objs o)).side with sendCap := false } := by
  have hmod : (c.modify o f).modify o (fun s => { s with sendCap := false }) =
      c.modify o fun s => { f s with sendCap := false } := modify_modify fun _ => rfl
  unfold reviewState
  rw [modify_self, if_pos (by rw [hr, hs]; rfl), hmod, outline_dropStream, outline_modify]
  rfl

/-- A stream that ends wakes its task. -/
theorem tames_end {f : Stream → Stream} (hid : (f (c.objs o)).id = (c.objs o).id)
    (hr : (f (c.objs o)).recv.isClosed = true) (hs : (f (c.objs o)).send.isClosed = true) :
    Tames G S c ((c.modify o f).reviewState o) := by
  unfold Tames
  rw [outline_end hr hs]
  exact .wake hid (fun _ => Side.unread_of_closed hr) rfl

theorem tames_stateSendClose (c : Connection) (o : Obj) (r : Option Reason) :
    Tames G S c (c.stateSendClose o r) :=
  Tames.trans (tames_wake rfl (fun h => h) rfl) (tames_reviewState _ o)

theorem tames_stateSendPayload (c : Connection) (o : Obj) : Tames G S c (c.stateSendPayload o) :=
  tames_keep rfl (fun h => h) rfl rfl rfl (fun _ => rfl) rfl

theorem tames_stateRecvClose (c : Connection) (o : Obj) (r : Option Reason) :
    Tames G S c (c.stateRecvClose o r) :=
  Tames.trans (tames_keep rfl (fun _ => Side.unread_of_closed rfl) rfl rfl rfl (fun h => h) rfl)
    (tames_reviewState _ o)

theorem tames_resetStream (c : Connection) (o : Obj) (r : Option Reason) :
    Tames G S c (c.resetStream o r) :=
  tames_end rfl rfl rfl

theorem tames_remoteResetStream (c : Connection) (o : Obj) (r : Reason) :
    Tames G S c (c.remoteResetStream o r) :=
  tames_end rfl rfl rfl

/-- A half that is closed, or closed now. -/
theorem HalfState.closed_now (h : HalfState) :
    (if h.isClosed = true then h else .closed none).isClosed = true := by
  split
  · next h' => exact h'
  · rfl

/-- A failed stream wakes its task, whatever it waits for. -/
theorem tames_failed (c : Connection) (o : Obj) (err : OperationError) :
    Tames G S c (c.failed o err) :=
  tames_end rfl (HalfState.closed_now _) (HalfState.closed_now _)

theorem tames_setFailedStream (c : Connection) (o : Obj) (err : OperationError) :
    Tames G S c (c.setFailedStream o err) :=
  (tames_failed c o err).of_eq (outline_stopCapacityTimer _ o)

/-! ## Resets -/

theorem outline_reset (c : Connection) (obj : Option Obj) (w : Writer) (id : StreamId)
    (r : Reason) : (c.push (.sent obj w (.reset id r))).outline = c.outline.pushReset id := rfl

theorem tames_reset (obj : Option Obj) (w : Writer) {id : StreamId} (r : Reason)
    (hu : G → c.Used id) : Tames G S c (c.push (.sent obj w (.reset id r))) := by
  unfold Tames
  rw [outline_reset]
  exact .reset hu

/-- The id of a stream is used. -/
def Names (G : Prop) (c : Connection) (o : Obj) : Prop := G → c.Used (c.objs o).id

theorem tames_resetSilent (hu : Names G c o) (r : Reason) : Tames G S c (c.resetSilent o r).1 := by
  unfold resetSilent
  split
  · exact (tames_reset (some o) .resetSilent r hu).trans (tames_resetStream _ o _)
  · exact .same rfl

/-- RST_STREAM under the id of a stream, which is used. -/
theorem tames_resetWith (hu : Names G c o) (r : Reason) (err : StreamError) :
    Tames G S c (c.resetWith o r err).1 := by
  have h : Tames G S c (c.resetSilent o r).1 := tames_resetSilent hu r
  unfold resetWith
  dsimp only
  cases hr : c.resetSilent o r with
  | mk c1 b =>
      rw [hr] at h
      cases b with
      | false => exact h
      | true =>
          dsimp only
          split
          · exact h.of_eq (outline_modify_same c1 o fun _ => rfl)
          · exact h

theorem tames_reset_stream (hu : Names G c o) (r : Reason) : Tames G S c (c.reset o r).1 :=
  tames_resetWith hu r _

/-! ## Receiving -/

theorem tames_recvFirstHeaders (c : Connection) (o : Obj) (h : Headers) :
    Tames G S c (c.recvFirstHeaders o h).2 := by
  unfold recvFirstHeaders
  cases announcedLength (c.objs o).contentLength h with
  | error e => exact .same rfl
  | ok cl =>
      dsimp only
      -- the length is not counted before the half leaves its first state
      have hboth : ∀ r : HalfState, (c.modify o fun s => { s with contentLength := cl }).modify o
          (fun s => { s with recv := r }) =
          c.modify o fun s => { s with contentLength := cl, recv := r } :=
        fun r => modify_modify fun _ => rfl
      split
      · unfold stateRecvClose
        rw [hboth]
        exact Tames.trans (tames_keep rfl (fun _ => Side.unread_of_closed rfl) rfl rfl rfl
          (fun h => h) rfl) (tames_reviewState _ o)
      · unfold stateRecvPayload
        rw [hboth]
        exact tames_keep rfl (fun _ => Side.unread_of_payload rfl) rfl rfl rfl (fun h => h) rfl

theorem tames_recvTrailers (c : Connection) (o : Obj) (h : Headers) :
    Tames G S c (c.recvTrailers o h).2 := by
  unfold recvTrailers
  split
  · exact .same rfl
  · split
    · exact .same rfl
    · split
      · exact tames_stateRecvClose c o none
      · exact .same rfl

/-- HEADERS of a stream start the count of its content. -/
theorem tames_streamRecvHeaders (c : Connection) (o : Obj) (h : Headers) :
    Tames G S c (c.streamRecvHeaders o h).2 := by
  unfold streamRecvHeaders
  split
  · split
    · exact tames_recvFirstHeaders c o h
    · split
      · exact .same rfl
      · split
        · exact .same rfl
        · exact tames_recvFirstHeaders c o h
  · exact tames_recvTrailers c o h
  · exact .same rfl

theorem tames_recvPayload (c : Connection) (o : Obj) (d : Data) (i : Nat) :
    Tames G S c (c.recvPayload o d i).2 := by
  unfold recvPayload
  split
  · next hpayload =>
    dsimp only
    generalize hc1 : c.modify o (fun s => { s with contentLength :=
      (countPayload (c.objs o).contentLength d.payload.length d.endStream).2 }) = c1
    have h1 : Tames G S c c1 := by
      rw [← hc1]
      exact tames_keep rfl (fun _ => Side.unread_of_payload hpayload) rfl rfl rfl (fun h => h) rfl
    split
    · exact h1.of_eq (outline_dropCapacity c1 i)
    · dsimp only
      split
      · exact h1.trans (tames_stateRecvClose c1 o none)
      · exact h1
  · exact .same (outline_dropCapacity c i)
  · exact .same (outline_dropCapacity c i)

/-- DATA goes on with the count. -/
theorem tames_streamRecvData (c : Connection) (o : Obj) (d : Data) :
    Tames G S c (c.streamRecvData o d).2 := by
  unfold streamRecvData
  split
  · exact .same ((outline_dataConsumed _ _).trans (outline_dataReceived c _))
  · dsimp only
    refine Tames.trans (Tames.same ?_) (tames_recvPayload _ o d _)
    split
    · exact (outline_consume _ _ _).trans (outline_newCapacity c o _)
    · exact outline_newCapacity c o _

/-! ## Send windows -/

/-- A task is woken where its stream has capacity again. -/
theorem tames_wakeCapacityWaiter (c : Connection) (o : Obj) :
    Tames G S c (c.wakeCapacityWaiter o) := by
  unfold wakeCapacityWaiter
  split
  · exact Tames.of_eq (tames_wake (f := fun s => { s with sendCap := false }) rfl (fun h => h) rfl)
      (outline_stopCapacityTimer _ o)
  · exact .same rfl

/-- A new window of a stream wakes its task, or leaves it without capacity. -/
theorem tames_newWindow (c : Connection) (o : Obj) (g : Window → Window) :
    Tames G S c ((c.modify o fun s => { s with sendWindow := g s.sendWindow }).wakeCapacityWaiter
      o) := by
  generalize hc1 : c.modify o (fun s => { s with sendWindow := g s.sendWindow }) = c1
  have hobj : c1.objs o = { c.objs o with sendWindow := g (c.objs o).sendWindow } := by
    rw [← hc1, modify_self]
  have hwin : c1.sendWindow = c.sendWindow := by
    rw [← hc1]
    rfl
  unfold wakeCapacityWaiter availableSendCapacity
  rw [hobj, hwin]
  split
  · have hmod : c1.modify o (fun s => { s with sendCap := false }) = c.modify o fun s =>
        { s with sendWindow := g s.sendWindow, sendCap := false } := by
      rw [← hc1]
      exact modify_modify fun _ => rfl
    rw [hmod]
    exact Tames.of_eq (tames_wake rfl (fun h => h) rfl) (outline_stopCapacityTimer _ o)
  · next hno =>
      unfold Tames
      rw [← hc1, outline_modify]
      refine .keep rfl (fun h => h) rfl rfl (fun hwait => .inl ?_) (fun h => h) rfl
      have hwait' : (c.objs o).waitForCapacity = true := hwait
      rw [hwait', Bool.true_and] at hno
      exact Nat.eq_zero_of_not_pos fun hpos => hno (decide_eq_true hpos)

/-- WINDOW_UPDATE of a stream wakes the task that waits for it. -/
theorem tames_streamRecvWindowUpdate (c : Connection) (o : Obj) (n : Nat) :
    Tames G S c (c.streamRecvWindowUpdate o n).2 := by
  unfold streamRecvWindowUpdate
  split
  · exact .same rfl
  · split
    · exact .same rfl
    · exact tames_newWindow c o fun _ => _

theorem tames_updateSendWindow (c : Connection) (o : Obj) (upd : Int) :
    Tames G S c (c.updateSendWindow o upd).2 := by
  unfold updateSendWindow
  split
  · exact Tames.trans (.same (outline_note c _ .sendWindow)) (tames_newWindow _ o fun w => w.dec _)
  · split
    · split
      · exact .same rfl
      · exact tames_newWindow c o fun _ => _
    · exact .same rfl

/-- Over the list of the streams, as the initial window moves. -/
theorem tames_shiftSendWindows (upd : Int) (os : List Obj) :
    ∀ c : Connection, Tames G S c (shiftSendWindows upd os c).2 := by
  induction os with
  | nil => exact fun c => .same rfl
  | cons o os ih =>
      intro c
      have h : Tames G S c (c.updateSendWindow o upd).2 := tames_updateSendWindow c o upd
      unfold shiftSendWindows
      cases hu : c.updateSendWindow o upd with
      | mk r c1 =>
          rw [hu] at h
          cases r with
          | error e => exact h
          | ok u => exact h.trans (ih c1)

/-! ## The connection window -/

/-- An open stream is in the map. -/
def Live (c : Connection) : Prop :=
  ∀ o < c.created, (c.objs o).send.isClosed = false → o ∈ c.values

/-- Streams that are open are in the map of a clean connection. -/
theorem Clean.isLive (hc : c.Clean) : c.Live := by
  intro o ho hopen
  refine (hc.good.table.live o ho).mpr fun hd => ?_
  rw [HalfState.half_closed.mp hd.2] at hopen
  cases hopen

theorem Live.of_eq (h : c.Live) (hk : c'.outline = c.outline) (hs : c'.streams = c.streams) :
    c'.Live := by
  intro o ho hopen
  have hcreated : c'.created = c.created := congrArg Outline.created hk
  have hsend : (c'.objs o).send = (c.objs o).send :=
    congrArg (fun k => (Outline.sides k o).send) hk
  unfold values
  rw [hs]
  rw [hcreated] at ho
  rw [hsend] at hopen
  exact h o ho hopen

/-- Tasks are woken, and nothing else happens to the stream. -/
structure Wakes (o : Obj) (c c' : Connection) : Prop where
  sendWindow : c'.sendWindow = c.sendWindow
  error : c'.error = c.error
  side : ∃ b, (c'.objs o).side = { (c.objs o).side with sendCap := b } ∧
    (b = true → (c.objs o).sendCap = true)

theorem Wakes.trans (h : Wakes o c c') (h' : Wakes o c' c'') : Wakes o c c'' := by
  obtain ⟨b, hb, hcap⟩ := h.side
  obtain ⟨b', hb', hcap'⟩ := h'.side
  refine ⟨h'.sendWindow.trans h.sendWindow, h'.error.trans h.error, b', ?_, fun ht => ?_⟩
  · rw [hb', hb]
  · have hs : (c'.objs o).sendCap = b := congrArg Side.sendCap hb
    exact hcap (hs ▸ hcap' ht)

/-- A stream is blocked as before, if its capacity is still zero. -/
theorem Wakes.blocked (h : Wakes o c c') (hb : c.outline.Blocked o) : c'.outline.Blocked o := by
  obtain ⟨b, hside, -⟩ := h.side
  have hs : c'.outline.sides o = { c.outline.sides o with sendCap := b } := hside
  obtain ⟨b1, b2, b3, b4⟩ := hb
  have hw : c'.outline.sendWindow = c.outline.sendWindow := h.sendWindow
  refine ⟨?_, ?_, ?_, h.error.trans b4⟩
  · rw [hs, hw]
    exact b1
  · rw [hs]
    exact b2
  · rw [hs]
    exact b3

/-- Waking another task takes nothing from this one. -/
theorem wakes_wakeCapacityWaiter (c : Connection) (p o : Obj) :
    Wakes o c (c.wakeCapacityWaiter p) := by
  unfold wakeCapacityWaiter
  split
  · refine ⟨rfl, rfl, ?_⟩
    have hside : ((((c.modify p fun s => { s with sendCap := false }).stopCapacityTimer p).objs
        o).side = if o = p then { (c.objs o).side with sendCap := false }
          else (c.objs o).side) := by
      unfold stopCapacityTimer modify
      dsimp only
      split
      · rfl
      · rfl
    rw [hside]
    split
    · exact ⟨false, rfl, nofun⟩
    · exact ⟨(c.objs o).sendCap, rfl, fun h => h⟩
  · exact ⟨rfl, rfl, (c.objs o).sendCap, rfl, fun h => h⟩

/-- After the scan nobody waits who could send. -/
theorem wakes_list (os : List Obj) : ∀ c : Connection,
    Wakes o c (os.foldl wakeCapacityWaiter c) ∧
      (o ∈ os → ((os.foldl wakeCapacityWaiter c).objs o).sendCap = true →
        (c.objs o).waitForCapacity = true → c.availableSendCapacity o = 0) := by
  induction os with
  | nil => exact fun c => ⟨⟨rfl, rfl, (c.objs o).sendCap, rfl, fun h => h⟩, nofun⟩
  | cons p os ih =>
      intro c
      have h1 := wakes_wakeCapacityWaiter c p o
      obtain ⟨h2, hscan⟩ := ih (c.wakeCapacityWaiter p)
      refine ⟨h1.trans h2, fun hm hcap hwait => ?_⟩
      obtain ⟨b, hside, hb⟩ := h1.side
      have hwait' : ((c.wakeCapacityWaiter p).objs o).waitForCapacity = true :=
        (congrArg Side.waitForCapacity hside).trans hwait
      have havail : (c.wakeCapacityWaiter p).availableSendCapacity o =
          c.availableSendCapacity o := by
        have hw : ((c.wakeCapacityWaiter p).objs o).sendWindow = (c.objs o).sendWindow :=
          congrArg Side.sendWindow hside
        unfold availableSendCapacity
        rw [hw, h1.sendWindow]
      rcases List.mem_cons.mp hm with rfl | hm
      · -- woken here, unless there is nothing to send with
        refine Nat.eq_zero_of_not_pos fun hpos => ?_
        obtain ⟨b', hside', hb'⟩ := h2.side
        have hcap' : b' = true := (congrArg Side.sendCap hside').symm.trans hcap
        have hwoken : ((c.wakeCapacityWaiter o).objs o).sendCap = false := by
          unfold wakeCapacityWaiter
          rw [hwait, decide_eq_true hpos, Bool.and_self, if_pos rfl]
          unfold stopCapacityTimer modify
          dsimp only
          rw [if_pos rfl, if_pos rfl]
        rw [hwoken] at hb'
        cases hb' hcap'
      · rw [← havail]
        exact hscan hm hcap hwait'

/-- The fields of a tame change, with the safety of the streams on its own. -/
theorem Tames.withSafe (h : Tames G (fun _ => False) c c')
    (hsafe : ∀ o < c.created, S o → c.outline.Safe o → c'.outline.Safe o) : Tames G S c c' :=
  { h with safe := hsafe }

theorem tames_setSendWindow (c : Connection) (w : Window) :
    Tames G (fun _ => False) c { c with sendWindow := w } :=
  { (Tame.refl c.outline : Tame G (fun _ => False) c.outline c.outline) with
    fresh := fun _ h h' => absurd h (Nat.not_le_of_lt h')
    resets := fun _ _ h => .inl h
    safe := nofun }

/-- Over the list of the streams, as the window of the connection opens. -/
theorem tames_wakeList (os : List Obj) : ∀ c : Connection,
    Tames G S c (os.foldl wakeCapacityWaiter c) := by
  induction os with
  | nil => exact fun c => .same rfl
  | cons p os ih => exact fun c => (tames_wakeCapacityWaiter c p).trans (ih _)

/-- A new connection window: the scan is left out only when no stream waits for it. -/
theorem tames_recvConWindowUpdate (hl : c.Live) (n : Nat) :
    Tames G S c (c.recvConWindowUpdate n).2 := by
  unfold recvConWindowUpdate
  split
  · exact .same rfl
  · split
    · exact .same rfl
    · next w _ =>
        dsimp only
        split
        · refine Tames.withSafe ((tames_setSendWindow c w).trans (tames_wakeList _ _)) ?_
          intro o ho _ hs h1 h2
          obtain ⟨hw, hscan⟩ := wakes_list (o := o) c.values { c with sendWindow := w }
          obtain ⟨b, hside, hb⟩ := hw.side
          have hcap : (c.objs o).sendCap = true := hb ((congrArg Side.sendCap hside).symm.trans h1)
          have hwait : (c.objs o).waitForCapacity = true :=
            (congrArg Side.waitForCapacity hside).symm.trans h2
          obtain ⟨-, b2, b3, b4⟩ := hs hcap hwait
          exact hw.blocked ⟨hscan (hl o ho b2) h1 hwait, b2, b3, b4⟩
        · next hne =>
            refine Tames.withSafe (tames_setSendWindow c w) ?_
            intro o ho _ hs h1 h2
            obtain ⟨b1, b2, b3, b4⟩ := hs h1 h2
            -- the window of the stream is the one that is spent
            have hz : (c.objs o).sendWindow.windowSize = 0 := by
              have b1' : min (c.objs o).sendWindow.windowSize c.sendWindow.windowSize = 0 := b1
              omega
            refine ⟨?_, b2, b3, b4⟩
            show min (c.objs o).sendWindow.windowSize w.windowSize = 0
            rw [hz, Nat.zero_min]

/-! ## Failures -/

theorem outline_setFailedStream (c : Connection) (o : Obj) (err : OperationError) :
    ∃ s : Side, s.sendCap = false ∧
      (c.setFailedStream o err).outline = c.outline.setSide o s := by
  have h := (outline_stopCapacityTimer (c.failed o err) o).trans
    (outline_end (HalfState.closed_now _) (HalfState.closed_now _))
  exact ⟨_, rfl, h⟩

/-- The streams of the list are woken, the others are left alone. -/
theorem failList_side (err : OperationError) (os : List Obj) : ∀ c : Connection,
    (o ∉ os → ((os.foldl (fun c o => c.setFailedStream o err) c).objs o).side =
      (c.objs o).side) ∧
    (o ∈ os ∨ (c.objs o).sendCap = false →
      ((os.foldl (fun c o => c.setFailedStream o err) c).objs o).sendCap = false) := by
  induction os with
  | nil => exact fun c => ⟨fun _ => rfl, fun h => h.resolve_left nofun⟩
  | cons p os ih =>
      intro c
      obtain ⟨s, hs, heq⟩ := outline_setFailedStream c p err
      obtain ⟨h1, h2⟩ := ih (c.setFailedStream p err)
      have hside : ((c.setFailedStream p err).objs o).side =
          if o = p then s else (c.objs o).side :=
        congrArg (fun k => Outline.sides k o) heq
      refine ⟨fun hn => ?_, fun hm => ?_⟩
      · rw [List.mem_cons, not_or] at hn
        rw [if_neg hn.1] at hside
        exact (h1 hn.2).trans hside
      · refine h2 ?_
        by_cases hp : o = p
        · rw [if_pos hp] at hside
          exact .inr ((congrArg Side.sendCap hside).trans hs)
        · rw [if_neg hp] at hside
          rcases hm with hm | hm
          · exact .inl ((List.mem_cons.mp hm).resolve_left hp)
          · exact .inr ((congrArg Side.sendCap hside).trans hm)

theorem tames_setError (c : Connection) (e : Option OperationError) :
    Tames G (fun _ => False) c { c with error := e } :=
  { (Tame.refl c.outline : Tame G (fun _ => False) c.outline c.outline) with
    fresh := fun _ h h' => absurd h (Nat.not_le_of_lt h')
    resets := fun _ _ h => .inl h
    safe := nofun }

/-- Over the list of the streams, as the connection fails. -/
theorem tames_failList (err : OperationError) (os : List Obj) : ∀ c : Connection,
    Tames G S c (os.foldl (fun c o => c.setFailedStream o err) c) := by
  induction os with
  | nil => exact fun c => .same rfl
  | cons p os ih => exact fun c => (tames_setFailedStream c p err).trans (ih _)

/-- Every open stream fails with its connection. -/
theorem tames_failStreams (hl : c.Live) (e : Option OperationError) (err : OperationError) :
    Tames G S c ({ c with error := e }.failStreams err) := by
  have hk : ({ c with error := e } : Connection).clearReadiness.takeStreams.outline =
      ({ c with error := e } : Connection).outline := rfl
  refine Tames.withSafe (((tames_setError c e).of_eq hk).trans (tames_failList err _ _)) ?_
  intro o ho _ hs h1 h2
  obtain ⟨hout, hin⟩ := failList_side (o := o) err c.values
    ({ c with error := e } : Connection).clearReadiness.takeStreams
  by_cases hm : o ∈ c.values
  · have hwoken := hin (.inl hm)
    have h1' : (({ c with error := e }.failStreams err).objs o).sendCap = true := h1
    unfold failStreams at h1'
    dsimp only at h1'
    have hw : ({ c with error := e } : Connection).values = c.values := rfl
    rw [hw, hwoken] at h1'
    cases h1'
  · have hside : (({ c with error := e }.failStreams err).objs o).side = (c.objs o).side := hout hm
    have hcap : (c.objs o).sendCap = true := (congrArg Side.sendCap hside).symm.trans h1
    have hwait : (c.objs o).waitForCapacity = true :=
      (congrArg Side.waitForCapacity hside).symm.trans h2
    exact absurd (hl o ho (hs hcap hwait).sending) hm

/-- A protocol error ends every stream, and wakes every task with it. -/
theorem tames_protoError (hl : c.Live) (e : ConnectionError) : Tames G S c (c.protoError e) := by
  have hl' : (c.push (.failed e)).Live := hl.of_eq (outline_push c rfl) rfl
  exact Tames.trans (.same (outline_push c (e := .failed e) rfl))
    ((tames_failStreams hl' _ _).of_eq rfl)

theorem tames_timeout (hl : c.Live) (e : ConnectionError) (r : Reason) :
    Tames G S c (c.timeout e r) := by
  have hl' : (c.push (.failed e)).Live := hl.of_eq (outline_push c rfl) rfl
  unfold timeout
  dsimp only
  generalize hc1 : Connection.failStreams _ (.connection e) = c1
  have h1 : Tames G S (c.push (.failed e)) c1 := by
    rw [← hc1]
    exact tames_failStreams hl' _ _
  refine Tames.trans (.same (outline_push c (e := .failed e) rfl)) (h1.of_eq ?_)
  exact outline_push c1 (e := .sent none .connection (.goAway c1.lastId r [])) rfl

/-- So does the loss of the io. -/
theorem tames_disconnect (hl : c.Live) : Tames G S c c.disconnect := by
  unfold disconnect
  dsimp only
  refine Tames.of_eq (tames_failStreams hl (some (c.error.getD .disconnected)) .disconnected) ?_
  split
  · rfl
  · rfl

/-- So does every end of the dispatcher. -/
theorem tames_stop (hl : c.Live) (s : Stop) : Tames G S c (c.stop s) := by
  unfold stop
  cases s with
  | encoder e => exact tames_protoError hl _
  | decoder e => exact tames_protoError hl _
  | keepAlive =>
      dsimp only
      split
      · exact tames_timeout hl _ _
      · exact tames_timeout hl _ _
  | readTimeout => exact tames_timeout hl _ _
  | writeTimeout => exact tames_timeout hl _ _
  | io => exact tames_disconnect hl
  | service =>
      exact (tames_disconnect hl).of_eq ((outline_ioClose _).trans (outline_push _ rfl))

/-! ## Sending headers -/

theorem outline_encode (c : Connection) (o : Obj) (w : Writer) (h : Headers) :
    (c.encode o w (.headers h)).outline = c.outline := outline_push c rfl

theorem tames_sendHalf (c : Connection) (o : Obj) (eof : Bool) :
    Tames G S c (if eof then c.stateSendClose o none else c.stateSendPayload o) := by
  cases eof with
  | true => exact tames_stateSendClose c o none
  | false => exact tames_stateSendPayload c o

theorem tames_sendHeaders (c : Connection) (o : Obj) (h : Headers) :
    Tames G S c (c.sendHeaders o h) := by
  unfold sendHeaders
  dsimp only
  have h1 : Tames G S c (if h.endStream then c.stateSendClose o none else c.stateSendPayload o) :=
    tames_sendHalf c o h.endStream
  generalize (if h.endStream = true then c.stateSendClose o none
    else c.stateSendPayload o) = c1 at h1
  refine h1.trans (Tames.of_eq ?_ (outline_encode _ o _ h))
  split
  · exact tames_keep (f := fun s => { s with contentLength := .head }) rfl (fun _ _ => nofun) rfl
      rfl rfl (fun h => h) rfl
  · exact .same rfl

theorem tames_sendInformational (c : Connection) (o : Obj) (status : Nat) (fields : HeaderMap) :
    Tames G S c (c.sendInformational o status fields).2 := by
  unfold sendInformational
  split
  · exact .same rfl
  · split
    · exact .same rfl
    · exact .same (outline_encode c o _ _)

/-- Frames that are sent move send halves. -/
theorem tames_sendResponse (c : Connection) (o : Obj) (status : Nat) (fields : HeaderMap)
    (eof : Bool) : Tames G S c (c.sendResponse o status fields eof).2 := by
  unfold sendResponse
  split
  · exact .same rfl
  · split
    · exact .same rfl
    · exact (tames_sendHalf c o eof).of_eq (outline_encode _ o _ _)

theorem tames_sendTrailers (c : Connection) (o : Obj) (fields : HeaderMap) :
    Tames G S c (c.sendTrailers o fields).2 := by
  unfold sendTrailers
  split
  · split
    · exact .same rfl
    · exact Tames.trans (.same (outline_encode c o _ _)) (tames_stateSendClose _ o none)
  · exact .same rfl

/-! ## New streams -/

/-- A new stream with a used id. -/
theorem tames_insertStream {id : StreamId} (hu : c.Used id) (remote : Bool) :
    Tames G S c (c.insertStream id remote) where
  server := rfl
  unknownStreams := rfl
  created := Nat.le_succ _
  lastId := Nat.le_refl _
  nextStreamId := Nat.le_refl _
  heard := fun _ => rfl
  given := fun _ => rfl
  frameSize := fun h => h
  ids := by
    intro o ho
    have hne : o ≠ c.created := Nat.ne_of_lt ho
    show ((if o = c.created then c.newStream id remote else c.objs o).side).id = _
    rw [if_neg hne]
    rfl
  fresh := by
    intro o ho ho'
    have heq : o = c.created := Nat.le_antisymm (Nat.le_of_lt_succ ho') ho
    show c.Used ((if o = c.created then c.newStream id remote else c.objs o).side).id
    rw [if_pos heq]
    exact hu
  resets := fun _ _ h => .inl h
  unread := by
    intro hread o ho
    show (if o = c.created then c.newStream id remote else c.objs o).side.Unread
    split
    · exact fun _ => nofun
    · next hne => exact hread o (Nat.lt_of_le_of_ne (Nat.le_of_lt_succ ho) hne)
  safe := by
    intro o ho _ hs
    have hne : o ≠ c.created := Nat.ne_of_lt ho
    refine hs.of_eq ?_ rfl rfl
    show (if o = c.created then c.newStream id remote else c.objs o).side = _
    rw [if_neg hne]
    rfl

/-- A higher id of the peer. -/
theorem tames_setLastId {id : StreamId} (hs : c.server = true) (hle : c.lastId ≤ id) :
    Tames G S c { c with lastId := id } :=
  { (Tame.refl c.outline : Tame G S c.outline c.outline) with
    lastId := hle
    heard := fun h => (by rw [show c.outline.server = true from hs] at h; cases h)
    fresh := fun _ h h' => absurd h (Nat.not_le_of_lt h')
    resets := fun _ _ h => .inl h
    safe := fun _ _ _ h => h.of_eq rfl rfl rfl }

/-- The next id of a client. -/
theorem tames_setNextStreamId {id : StreamId} (hs : c.server = false) (hle : c.nextStreamId ≤ id) :
    Tames G S c { c with nextStreamId := id } :=
  { (Tame.refl c.outline : Tame G S c.outline c.outline) with
    nextStreamId := hle
    given := fun h => (by rw [show c.outline.server = false from hs] at h; cases h)
    fresh := fun _ h h' => absurd h (Nat.not_le_of_lt h')
    resets := fun _ _ h => .inl h
    safe := fun _ _ _ h => h.of_eq rfl rfl rfl }

/-- What a client knows of its ids. -/
def Numbers (c : Connection) : Prop := c.server = false ∧ c.nextStreamId % 2 = 1

/-- A stream that this end opens takes the next id, which is used from here on. -/
theorem tames_openStream (hn : c.Numbers) (r : Request) : Tames G S c (c.openStream r).2 := by
  unfold openStream
  cases c.checkHeaderListSize (c.requestPseudo r) r.fields with
  | error e => exact .same rfl
  | ok u =>
      dsimp only
      cases hnext : StreamId.nextId c.nextStreamId with
      | none => exact .same rfl
      | some id =>
          have hid : id = c.nextStreamId + 2 := by
            unfold StreamId.nextId at hnext
            split at hnext
            · cases hnext
            · exact (Option.some.inj hnext).symm
          have hle : c.nextStreamId < id := by
            rw [hid]
            exact Nat.lt_add_of_pos_right Nat.two_pos
          have hu : ({ c with nextStreamId := id } : Connection).Used c.nextStreamId :=
            ⟨hn.2, fun hs => absurd (hn.1.symm.trans hs) Bool.false_ne_true, fun _ => hle⟩
          exact (tames_setNextStreamId hn.1 (Nat.le_of_lt hle)).trans
            ((tames_insertStream hu false).trans (tames_sendHeaders _ _ _))

theorem tames_sendRequest (hn : c.Numbers) (r : Request) : Tames G S c (c.sendRequest r).2 := by
  have h : Tames G S c ({ c with activeLocalStreams := c.activeLocalStreams + 1 }.openStream r).2 :=
    Tames.trans (.same rfl) (tames_openStream (c := { c with
      activeLocalStreams := c.activeLocalStreams + 1 }) hn r)
  unfold sendRequest
  cases hr : { c with activeLocalStreams := c.activeLocalStreams + 1 }.openStream r with
  | mk res c1 =>
      rw [hr] at h
      cases res with
      | ok o => exact h
      | error e => exact h.of_eq (outline_releaseLocalStream c1)

theorem tames_request (hn : c.Numbers) (r : Option Request) : Tames G S c (c.request r).2 := by
  unfold request
  split
  · exact .same rfl
  · split
    · cases r with
      | none => exact .same rfl
      | some r =>
          have h : Tames G S c (c.sendRequest r).2 := tames_sendRequest hn r
          dsimp only
          cases hr : c.sendRequest r with
          | mk res c1 =>
              rw [hr] at h
              cases res with
              | ok o => exact h
              | error e => exact h
    · exact .same rfl

theorem tames_pollRequest (hn : c.Numbers) (w : Nat) (r : Option Request) :
    Tames G S c (c.pollRequest w r).2 := by
  unfold pollRequest
  split
  · exact Tames.trans (.same rfl)
      (tames_request (c := { c with waiters := c.waiters.filter (·.1 != w) }) hn r)
  · exact .same rfl
  · exact .same rfl

theorem outline_dropRequest (c : Connection) (w : Nat) : (c.dropRequest w).outline = c.outline := by
  unfold dropRequest
  split
  · rfl
  · rfl

theorem outline_releaseReservedStream (c : Connection) :
    c.releaseReservedStream.outline = c.outline := by
  unfold releaseReservedStream
  dsimp only
  have hn := outline_note c (decide (0 < c.reservedStreams)) .reserved
  generalize c.note (decide (0 < c.reservedStreams)) .reserved = c1 at hn
  generalize hc2 : ({ c1 with reservedStreams := c1.reservedStreams - 1 } :
    Connection).releaseLocalStream = c2
  have h2 : c2.outline = c.outline := by
    rw [← hc2, outline_releaseLocalStream]
    exact hn
  split
  · exact h2
  · exact h2

/-- So does a stream on a reserved slot. -/
theorem tames_reservationSend (hn : c.Numbers) (r : Request) :
    Tames G S c (c.reservationSend r).2 := by
  have h : Tames G S c (c.sendReservedRequest r).2 := by
    unfold sendReservedRequest
    split
    · exact .same rfl
    · split
      · exact .same rfl
      · split
        · exact .same rfl
        · have h : Tames G S c (c.openStream r).2 := tames_openStream hn r
          cases hr : c.openStream r with
          | mk res c1 =>
              rw [hr] at h
              cases res with
              | error e => exact h
              | ok o => exact h.of_eq (outline_note c1 _ .reserved)
  unfold reservationSend
  cases hr : c.sendReservedRequest r with
  | mk res c1 =>
      rw [hr] at h
      cases res with
      | ok o => exact h.of_eq rfl
      | error e =>
          exact h.of_eq (outline_releaseReservedStream
            { c1 with reservations := c1.reservations - 1 })

/-! ## Handles and timers -/

/-- A stream with a used id has one still. -/
theorem Tames.names (h : Tames G S c c') (ho : o < c.created) (hu : Names G c o) :
    Names G c' o := by
  intro hG
  have hid : (c'.objs o).id = (c.objs o).id := h.ids o ho
  rw [hid]
  exact h.used (hu hG)

theorem outline_startDisconnect (c : Connection) : c.startDisconnect.outline = c.outline := by
  unfold startDisconnect
  dsimp only
  generalize hc1 : (if (c.clearReadiness.server && !c.clearReadiness.disconnectWhenReady &&
      !c.clearReadiness.ioClosed && c.clearReadiness.error.isNone) = true then
    c.clearReadiness.encodeCon (.goAway c.clearReadiness.lastId .noError []) else c.clearReadiness)
      = c1
  have h1 : c1.outline = c.outline := by
    rw [← hc1]
    split
    · exact outline_push c.clearReadiness rfl
    · rfl
  split
  · exact h1
  · exact h1

/-- A handle that is dropped resets its stream under its own id. -/
theorem tames_streamDrop (hu : Names G c o) : Tames G S c (c.streamDrop o) := by
  unfold streamDrop
  split
  · exact .same rfl
  · exact tames_reset_stream hu .cancel

theorem tames_cancelStream (hu : Names G c o) : Tames G S c (c.cancelStream o) := by
  have h : Tames G S c (c.reset o .cancel).1 := tames_reset_stream hu .cancel
  unfold cancelStream
  dsimp only
  split
  · exact h.of_eq (outline_startDisconnect _)
  · exact h

theorem tames_sendStreamDrop (ho : o < c.created) (hu : Names G c o) :
    Tames G S c (c.sendStreamDrop o) := by
  have h1 : Tames G S c (c.modify o fun s => { s with noResetOnDrop := false }) :=
    .same (outline_modify_same c o fun _ => rfl)
  unfold sendStreamDrop
  dsimp only
  split
  · exact h1
  · exact h1.trans (tames_cancelStream (h1.names ho hu))

theorem tames_recvStreamDrop (ho : o < c.created) (hu : Names G c o) :
    Tames G S c (c.recvStreamDrop o) := by
  unfold recvStreamDrop
  dsimp only
  split
  · exact tames_streamDrop hu
  · have h1 : Tames G S c (c.cancelStream o) := tames_cancelStream hu
    exact h1.trans (tames_streamDrop (h1.names ho hu))

/-- So does the timer of `send_capacity`. -/
theorem tames_capacityTimeout (ho : o < c.created) (hu : Names G c o) :
    Tames G S c (c.capacityTimeout o) := by
  unfold capacityTimeout
  dsimp only
  generalize hc1 : c.modify o (fun s => { s with capacityTimer := false }) = c1
  have h1 : Tames G S c c1 := .same (by rw [← hc1]; exact outline_modify_same c o fun _ => rfl)
  split
  · exact h1
  · refine h1.trans (Tames.trans (tames_resetWith (h1.names ho hu) .cancel
      .capacityTimeout) ?_)
    exact (tames_failed _ o _).of_eq (outline_dropStream _ _)

end Connection

end NtexH2
