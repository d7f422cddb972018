/-
  Connection/Outline.lean --- what the bookkeeping of a connection leaves alone.

  Most functions of a connection keep books: windows and counters of what was
  received, slots, timers, pending resets.  The outline of a connection is the rest,
  and one equation for each of these functions says that it stays.
-/
import NtexH2.Connection.Payload
import NtexH2.Connection.ClosedStreams

set_option autoImplicit false

namespace NtexH2

/-- The state of a stream without its receive window, its timer and what its handles ask for. -/
structure Side where
  id : StreamId
  remote : Bool
  contentLength : ContentLength
  recv : HalfState
  send : HalfState
  sendWindow : Window
  sendCap : Bool
  error : Option OperationError
  waitForCapacity : Bool

/-- The side of a stream. -/
def Stream.side (s : Stream) : Side :=
  ⟨s.id, s.remote, s.contentLength, s.recv, s.send, s.sendWindow, s.sendCap, s.error,
    s.waitForCapacity⟩

/-- The stream that a written RST_STREAM names. -/
def Event.resetId : Event → Option StreamId
  | .sent _ _ (.reset id _) => some id
  | _ => none

/-- A connection without its books; `resets` are the streams that it has reset, the latest
first. -/
structure Outline where
  created : Nat
  sides : Obj → Side
  sendWindow : Window
  error : Option OperationError
  server : Bool
  unknownStreams : Bool
  lastId : StreamId
  nextStreamId : StreamId
  remoteFrameSize : Nat
  resets : List StreamId

/-- A new side of a stream. -/
def Outline.setSide (k : Outline) (o : Obj) (s : Side) : Outline :=
  { k with sides := fun p => if p = o then s else k.sides p }

namespace Connection

variable {c c' : Connection}

/-- The outline of a connection. -/
def outline (c : Connection) : Outline where
  created := c.created
  sides := fun o => (c.objs o).side
  sendWindow := c.sendWindow
  error := c.error
  server := c.server
  unknownStreams := c.unknownStreams
  lastId := c.lastId
  nextStreamId := c.nextStreamId
  remoteFrameSize := c.remoteFrameSize
  resets := c.log.filterMap Event.resetId

/-! ## Changes -/

theorem modify_self (c : Connection) (o : Obj) (f : Stream → Stream) :
    (c.modify o f).objs o = f (c.objs o) := if_pos rfl

/-- The change of a stream is the change of its side. -/
theorem outline_modify (c : Connection) (o : Obj) (f : Stream → Stream) :
    (c.modify o f).outline = c.outline.setSide o (f (c.objs o)).side := by
  unfold outline modify Outline.setSide
  congr 1
  funext p
  dsimp only
  split
  · next hp => rw [hp]
  · rfl

/-- A change that does not show. -/
theorem outline_modify_same (c : Connection) (o : Obj) {f : Stream → Stream}
    (h : ∀ s, (f s).side = s.side) : (c.modify o f).outline = c.outline := by
  rw [outline_modify, h]
  unfold outline Outline.setSide
  congr 1
  funext p
  split
  · next hp => rw [hp]
  · rfl

/-- An event that is no reset is not part of the outline. -/
theorem outline_push (c : Connection) {e : Event} (h : e.resetId = none) :
    (c.push e).outline = c.outline := by
  unfold outline push
  congr 1
  exact List.filterMap_cons_none h

theorem outline_note (c : Connection) (ok : Bool) (a : Anomaly) :
    (c.note ok a).outline = c.outline := by
  unfold note
  split
  · rfl
  · rfl

theorem outline_ioClose (c : Connection) : c.ioClose.outline = c.outline := rfl

/-! ## Slots, timers and the map -/

theorem outline_releaseStream (c : Connection) (remote : Bool) :
    (c.releaseStream remote).outline = c.outline := by
  unfold releaseStream
  split
  · exact outline_note c _ _
  · unfold releaseLocalStream
    dsimp only
    have hn := outline_note c (decide (0 < c.activeLocalStreams)) .activeLocal
    generalize c.note (decide (0 < c.activeLocalStreams)) .activeLocal = c1 at hn
    split
    · exact hn
    · exact hn

theorem outline_releaseLocalStream (c : Connection) : c.releaseLocalStream.outline = c.outline :=
  outline_releaseStream c false

theorem outline_addPending (c : Connection) (id : StreamId) :
    (c.addPending id).outline = c.outline := by
  unfold addPending
  split
  · rfl
  · rfl

theorem outline_stopCapacityTimer (c : Connection) (o : Obj) :
    (c.stopCapacityTimer o).outline = c.outline :=
  outline_modify_same c o fun _ => rfl

theorem outline_startCapacityTimer (c : Connection) (o : Obj) :
    (c.startCapacityTimer o).outline = c.outline := by
  unfold startCapacityTimer
  split
  · exact outline_modify_same c o fun _ => rfl
  · rfl

/-- A stream that leaves the map keeps its side. -/
theorem outline_dropStream (c : Connection) (id : StreamId) :
    (c.dropStream id).outline = c.outline := by
  unfold dropStream
  cases c.query id with
  | none => exact outline_addPending c id
  | some o =>
      dsimp only
      generalize hc1 : ({ c with streams := c.streams.eraseP (·.1 == id) } :
        Connection).stopCapacityTimer o = c1
      have h1 : c1.outline = c.outline := by
        rw [← hc1, outline_stopCapacityTimer]
        rfl
      have h2 := (outline_releaseStream c1 (c1.objs o).remote).trans h1
      split
      · exact h2
      · exact (outline_addPending _ id).trans h2

/-! ## Received octets -/

theorem outline_setRecv (c : Connection) (w : Window) (n : Nat) :
    ({ c with recvWindow := w, recvSize := n } : Connection).outline = c.outline := rfl

theorem outline_setRecvWindow (c : Connection) (w : Window) :
    ({ c with recvWindow := w } : Connection).outline = c.outline := rfl

theorem outline_setRecvSize (c : Connection) (n : Nat) :
    ({ c with recvSize := n } : Connection).outline = c.outline := rfl

theorem outline_setCaps (c : Connection) (l : List Capacity) :
    ({ c with caps := l } : Connection).outline = c.outline := rfl

theorem outline_dataReceived (c : Connection) (n : Nat) :
    (c.dataReceived n).outline = c.outline := by
  unfold dataReceived
  rw [outline_setRecv, outline_note, outline_note]

theorem outline_dataConsumed (c : Connection) (n : Nat) :
    (c.dataConsumed n).outline = c.outline := by
  unfold dataConsumed
  dsimp only
  rw [outline_setRecvWindow]
  split
  · rw [show ∀ (c : Connection) (f : Frame), c.encodeCon f = c.push (.sent none .connection f) from
      fun _ _ => rfl, outline_push _ rfl, outline_note, outline_setRecvSize, outline_note]
  · rw [outline_note, outline_setRecvSize, outline_note]

theorem outline_receivedDataAdded (c : Connection) (o : Obj) (n : Nat) :
    (c.receivedDataAdded o n).outline = c.outline := by
  unfold receivedDataAdded
  dsimp only
  rw [outline_dataReceived, outline_modify_same, outline_note, outline_note]
  exact fun _ => rfl

theorem outline_encodeWindowUpdate (c : Connection) (o : Obj) (n : Nat) :
    (c.encodeWindowUpdate o n).outline = c.outline := by
  unfold encodeWindowUpdate
  dsimp only
  generalize hn : c.note _ .closedWindow = c1
  have h1 : c1.outline = c.outline := by rw [← hn, outline_note]
  exact (outline_push c1 rfl).trans h1

theorem outline_reclaim (c : Connection) (o : Obj) (n : Nat) :
    (c.reclaim o n).outline = c.outline := by
  unfold reclaim
  dsimp only
  split
  · rfl
  · generalize decide ((c.objs o).recvWindow.UpdateSafe n (c.config.windowSz : Int)) = b
    split
    · rw [outline_encodeWindowUpdate, outline_modify_same, outline_note]
      exact fun _ => rfl
    · rw [outline_note]

/-- Octets that are given back open windows of the receiving side only. -/
theorem outline_receivedDataConsumed (c : Connection) (o : Obj) (n : Nat) :
    (c.receivedDataConsumed o n).outline = c.outline := by
  unfold receivedDataConsumed
  dsimp only
  rw [outline_dataConsumed, outline_reclaim, outline_modify_same, outline_note]
  exact fun _ => rfl

theorem outline_newCapacity (c : Connection) (o : Obj) (n : Nat) :
    (c.newCapacity o n).outline = c.outline := by
  unfold newCapacity
  rw [outline_setCaps]
  split
  · exact outline_receivedDataAdded c o n
  · rfl

theorem outline_consume (c : Connection) (i n : Nat) : (c.consume i n).outline = c.outline := by
  unfold consume
  split
  · split
    · rw [outline_receivedDataConsumed]
      rfl
    · rfl
  · rfl

theorem outline_addCapacity (c : Connection) (i j : Nat) :
    (c.addCapacity i j).outline = c.outline := by
  unfold addCapacity
  split
  · split
    · rw [outline_setCaps, outline_note]
    · rfl
  · rfl

theorem outline_dropCapacity (c : Connection) (i : Nat) :
    (c.dropCapacity i).outline = c.outline := by
  unfold dropCapacity
  split
  · dsimp only
    split
    · rw [outline_receivedDataConsumed]
      rfl
    · rfl
  · rfl

theorem outline_updateRecvWindow (c : Connection) (o : Obj) (upd : Int) :
    (c.updateRecvWindow o upd).2.outline = c.outline := by
  unfold updateRecvWindow
  split
  · rfl
  · split
    · rfl
    · dsimp only
      rw [outline_modify_same, outline_note, outline_note]
      exact fun _ => rfl

/-- The counter of the resets is not a reset. -/
theorem outline_updateRstCount (c : Connection) : c.updateRstCount.2.outline = c.outline := by
  unfold updateRstCount
  dsimp only
  split
  · rfl
  · rfl

end Connection

end NtexH2
