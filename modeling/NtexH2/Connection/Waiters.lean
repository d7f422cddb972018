/-
  Connection/Waiters.lean --- requests that wait for a stream slot (src/connection.rs,
  `ready`, `wake_waiters`, `ReadyWaiter`).

  `slots` is what a connection knows of its slots.  Everything that ends streams only
  frees slots; the calls of a client and the settings of the peer do the rest.
-/
import NtexH2.Connection.Shutdown
import NtexH2.Session.Slots

set_option autoImplicit false

namespace NtexH2

namespace Connection

open Slots (Freed)

variable {s : Start} {c c' c'' : Connection}

/-- The slots of a connection. -/
def slots (c : Connection) : Slots where
  limit := c.localMaxConcurrentStreams
  active := c.activeLocalStreams
  queue := c.readiness
  waiters := c.waiters
  count := c.waiterCount
  calls := c.capacityCalls

/-- On the way from `c` to `c'` slots only get free. -/
def Frees (c c' : Connection) : Prop := Freed c.slots c'.slots

/-- The slots stay as they are. -/
theorem Frees.same (h : c'.slots = c.slots) : Frees c c' := by
  unfold Frees
  rw [h]
  exact .refl

/-- Slots that get free stay free. -/
theorem Frees.trans {d : Connection} (h : Frees c d) (h' : Frees d c') : Frees c c' :=
  Freed.trans h h'

theorem Frees.of_eq (h : Frees c c') (he : c''.slots = c'.slots) : Frees c c'' :=
  h.trans (.same he)

/-! ## Streams that end -/

theorem slots_note (c : Connection) (ok : Bool) (a : Anomaly) : (c.note ok a).slots = c.slots := by
  unfold note
  split
  · rfl
  · rfl

theorem slots_modify (c : Connection) (o : Obj) (f : Stream → Stream) :
    (c.modify o f).slots = c.slots := rfl

theorem slots_addPending (c : Connection) (id : StreamId) : (c.addPending id).slots = c.slots := by
  unfold addPending
  split
  · rfl
  · rfl

theorem slots_releaseLocalStream (c : Connection) :
    c.releaseLocalStream.slots = c.slots.release := by
  unfold releaseLocalStream
  dsimp only
  have hs := slots_note c (decide (0 < c.activeLocalStreams)) .activeLocal
  generalize c.note (decide (0 < c.activeLocalStreams)) .activeLocal = c1 at hs
  rw [← hs]
  split
  · next max hm =>
      have hl : c1.slots.limit = some max := hm
      rw [Slots.release_some hl]
      rfl
  · next hm =>
      have hl : c1.slots.limit = none := hm
      rw [Slots.release_none hl]
      rfl

/-- The slot of a stream of this end gets free; one of the peer has none. -/
theorem frees_releaseStream (c : Connection) (remote : Bool) :
    Frees c (c.releaseStream remote) := by
  unfold releaseStream
  split
  · exact .same (slots_note c _ .activeRemote)
  · have hs : c.releaseLocalStream.notifyCapacity.slots = c.slots.release.notify := by
      rw [← slots_releaseLocalStream]
      rfl
    unfold Frees
    rw [hs]
    exact .release .refl

/-- The slot goes with the entry of the map. -/
theorem frees_dropStream (c : Connection) (id : StreamId) : Frees c (c.dropStream id) := by
  unfold dropStream
  cases c.query id with
  | none => exact .same (slots_addPending c id)
  | some o =>
      dsimp only
      generalize hc1 : ({ c with streams := c.streams.eraseP (·.1 == id) } :
        Connection).stopCapacityTimer o = c1
      have h1 : Frees c c1 := .same (by rw [← hc1]; rfl)
      refine Frees.trans (h1.trans (frees_releaseStream c1 (c1.objs o).remote)) ?_
      split
      · exact .same rfl
      · exact .same (slots_addPending _ id)

/-- A stream that is done is taken out of the map, which frees its slot. -/
theorem frees_review (o : Obj) (f : Stream → Stream) : Frees c ((c.modify o f).reviewState o) := by
  unfold reviewState
  split
  · exact Frees.trans (d := (c.modify o f).modify o fun s => { s with sendCap := false })
      (.same rfl) (frees_dropStream _ _)
  · exact .same rfl

theorem frees_stateSendClose (o : Obj) (r : Option Reason) : Frees c (c.stateSendClose o r) :=
  frees_review o _

theorem frees_stateRecvClose (o : Obj) (r : Option Reason) : Frees c (c.stateRecvClose o r) :=
  frees_review o _

theorem frees_setFailedStream (o : Obj) (err : OperationError) :
    Frees c (c.setFailedStream o err) :=
  (frees_review o _).of_eq rfl

theorem frees_resetSilent (o : Obj) (r : Reason) : Frees c (c.resetSilent o r).1 := by
  unfold resetSilent
  split
  · exact Frees.trans (d := c.encode o .resetSilent (.reset (c.objs o).id r)) (.same rfl)
      (frees_review o _)
  · exact .same rfl

/-- A reset takes the stream out of the map. -/
theorem frees_resetWith (o : Obj) (r : Reason) (err : StreamError) :
    Frees c (c.resetWith o r err).1 := by
  have h := frees_resetSilent (c := c) o r
  unfold resetWith
  dsimp only
  cases hr : c.resetSilent o r with
  | mk c1 b =>
      rw [hr] at h
      cases b with
      | false => exact h
      | true =>
          dsimp only
          split
          · exact h.of_eq rfl
          · exact h

/-! ## Windows and capacity -/

theorem slots_setRecv (c : Connection) (w : Window) (n : Nat) :
    ({ c with recvWindow := w, recvSize := n } : Connection).slots = c.slots := rfl

theorem slots_setRecvWindow (c : Connection) (w : Window) :
    ({ c with recvWindow := w } : Connection).slots = c.slots := rfl

theorem slots_setRecvSize (c : Connection) (n : Nat) :
    ({ c with recvSize := n } : Connection).slots = c.slots := rfl

theorem slots_dataReceived (c : Connection) (n : Nat) : (c.dataReceived n).slots = c.slots := by
  unfold dataReceived
  rw [slots_setRecv, slots_note, slots_note]

theorem slots_encodeCon (c : Connection) (f : Frame) : (c.encodeCon f).slots = c.slots := rfl

theorem slots_dataConsumed (c : Connection) (n : Nat) : (c.dataConsumed n).slots = c.slots := by
  unfold dataConsumed
  dsimp only
  rw [slots_setRecvWindow]
  split
  · rw [slots_encodeCon, slots_note, slots_setRecvSize, slots_note]
  · rw [slots_note, slots_setRecvSize, slots_note]

theorem slots_receivedDataAdded (c : Connection) (o : Obj) (n : Nat) :
    (c.receivedDataAdded o n).slots = c.slots := by
  unfold receivedDataAdded
  dsimp only
  rw [slots_dataReceived, slots_modify, slots_note, slots_note]

theorem slots_encodeWindowUpdate (c : Connection) (o : Obj) (n : Nat) :
    (c.encodeWindowUpdate o n).slots = c.slots := by
  unfold encodeWindowUpdate
  exact (show _ = (c.note _ .closedWindow).slots from rfl).trans (slots_note c _ _)

theorem slots_reclaim (c : Connection) (o : Obj) (n : Nat) : (c.reclaim o n).slots = c.slots := by
  unfold reclaim
  dsimp only
  split
  · rfl
  · generalize decide ((c.objs o).recvWindow.UpdateSafe n (c.config.windowSz : Int)) = b
    split
    · rw [slots_encodeWindowUpdate, slots_modify, slots_note]
    · rw [slots_note]

theorem slots_receivedDataConsumed (c : Connection) (o : Obj) (n : Nat) :
    (c.receivedDataConsumed o n).slots = c.slots := by
  unfold receivedDataConsumed
  dsimp only
  rw [slots_dataConsumed, slots_reclaim, slots_modify, slots_note]

theorem slots_setCaps (c : Connection) (l : List Capacity) :
    ({ c with caps := l } : Connection).slots = c.slots := rfl

theorem slots_newCapacity (c : Connection) (o : Obj) (n : Nat) :
    (c.newCapacity o n).slots = c.slots := by
  unfold newCapacity
  rw [slots_setCaps]
  split
  · exact slots_receivedDataAdded c o n
  · rfl

theorem slots_consume (c : Connection) (i n : Nat) : (c.consume i n).slots = c.slots := by
  unfold consume
  split
  · split
    · rw [slots_receivedDataConsumed]
      rfl
    · rfl
  · rfl

theorem slots_addCapacity (c : Connection) (i j : Nat) : (c.addCapacity i j).slots = c.slots := by
  unfold addCapacity
  split
  · split
    · rw [slots_setCaps, slots_note]
    · rfl
  · rfl

theorem slots_dropCapacity (c : Connection) (i : Nat) : (c.dropCapacity i).slots = c.slots := by
  unfold dropCapacity
  split
  · dsimp only
    split
    · rw [slots_receivedDataConsumed]
      rfl
    · rfl
  · rfl

theorem slots_wakeCapacityWaiter (c : Connection) (o : Obj) :
    (c.wakeCapacityWaiter o).slots = c.slots := by
  unfold wakeCapacityWaiter
  split
  · rfl
  · rfl

theorem slots_startCapacityTimer (c : Connection) (o : Obj) :
    (c.startCapacityTimer o).slots = c.slots := by
  unfold startCapacityTimer
  split
  · rfl
  · rfl

/-- Tasks that wait for capacity are none of those that wait for a slot. -/
theorem slots_pollSendCapacity (c : Connection) (o : Obj) :
    (c.pollSendCapacity o).2.slots = c.slots := by
  unfold pollSendCapacity
  split
  · rfl
  · split
    · rfl
    · exact slots_startCapacityTimer _ o

theorem slots_writeReady (c : Connection) (o : Obj) (r : IoReady) :
    (c.writeReady o r).2.slots = c.slots := by
  unfold writeReady
  split
  · rfl
  · cases r with
    | ready => rfl
    | failed => rfl
    | pending => rfl

/-! ## Received frames of a stream -/

theorem frees_recvFirstHeaders (o : Obj) (h : Headers) :
    Frees c (c.recvFirstHeaders o h).2 := by
  unfold recvFirstHeaders
  split
  · exact .same rfl
  · next cl _ =>
      dsimp only
      split
      · exact Frees.trans (d := c.modify o fun s => { s with contentLength := cl }) (.same rfl)
          (frees_stateRecvClose o none)
      · exact .same rfl

theorem frees_recvTrailers (o : Obj) (h : Headers) : Frees c (c.recvTrailers o h).2 := by
  unfold recvTrailers
  split
  · exact .same rfl
  · split
    · exact .same rfl
    · split
      · exact frees_stateRecvClose o none
      · exact .same rfl

/-- HEADERS end a stream at most. -/
theorem frees_streamRecvHeaders (o : Obj) (h : Headers) : Frees c (c.streamRecvHeaders o h).2 := by
  unfold streamRecvHeaders
  split
  · split
    · exact frees_recvFirstHeaders o h
    · split
      · exact .same rfl
      · split
        · exact .same rfl
        · exact frees_recvFirstHeaders o h
  · exact frees_recvTrailers o h
  · exact .same rfl

theorem frees_recvPayload (o : Obj) (d : Data) (i : Nat) : Frees c (c.recvPayload o d i).2 := by
  unfold recvPayload
  split
  · dsimp only
    split
    · exact .same (slots_dropCapacity _ i)
    · dsimp only
      split
      · exact Frees.trans (d := c.modify o fun s => { s with contentLength := _ }) (.same rfl)
          (frees_stateRecvClose o none)
      · exact .same rfl
  · exact .same (slots_dropCapacity _ i)
  · exact .same (slots_dropCapacity _ i)

/-- DATA ends a stream at most. -/
theorem frees_streamRecvData (o : Obj) (d : Data) : Frees c (c.streamRecvData o d).2 := by
  unfold streamRecvData
  split
  · exact .same ((slots_dataConsumed _ _).trans (slots_dataReceived c _))
  · dsimp only
    have h1 : (c.newCapacity o d.flowLen).slots = c.slots := slots_newCapacity c o _
    generalize c.newCapacity o d.flowLen = c1 at h1
    refine Frees.trans ?_ (frees_recvPayload o d _)
    split
    · exact .same ((slots_consume c1 _ _).trans h1)
    · exact .same h1

theorem slots_streamRecvWindowUpdate (c : Connection) (o : Obj) (n : Nat) :
    (c.streamRecvWindowUpdate o n).2.slots = c.slots := by
  unfold streamRecvWindowUpdate
  split
  · rfl
  · split
    · rfl
    · rw [slots_wakeCapacityWaiter, slots_modify]

theorem slots_updateSendWindow (c : Connection) (o : Obj) (upd : Int) :
    (c.updateSendWindow o upd).2.slots = c.slots := by
  unfold updateSendWindow
  split
  · dsimp only
    rw [slots_wakeCapacityWaiter, slots_modify, slots_note]
  · split
    · split
      · rfl
      · rw [slots_wakeCapacityWaiter, slots_modify]
    · rfl

theorem slots_updateRecvWindow (c : Connection) (o : Obj) (upd : Int) :
    (c.updateRecvWindow o upd).2.slots = c.slots := by
  unfold updateRecvWindow
  split
  · rfl
  · split
    · rfl
    · dsimp only
      rw [slots_modify, slots_note, slots_note]

/-! ## Frames that are sent -/

theorem frees_sendHeaders (o : Obj) (h : Headers) : Frees c (c.sendHeaders o h) := by
  unfold sendHeaders
  dsimp only
  generalize hc1 : (if h.endStream then c.stateSendClose o none else c.stateSendPayload o) = c1
  have h1 : Frees c c1 := by
    rw [← hc1]
    split
    · exact frees_stateSendClose o none
    · exact .same rfl
  split
  · exact h1.of_eq rfl
  · exact h1.of_eq rfl

/-- A response with the end of the stream may free its slot. -/
theorem frees_sendResponse (o : Obj) (status : Nat) (fields : HeaderMap) (eof : Bool) :
    Frees c (c.sendResponse o status fields eof).2 := by
  unfold sendResponse
  split
  · exact .same rfl
  · split
    · exact .same rfl
    · dsimp only
      split
      · exact (frees_stateSendClose o none).of_eq rfl
      · exact .same rfl

theorem frees_sendTrailers (o : Obj) (fields : HeaderMap) :
    Frees c (c.sendTrailers o fields).2 := by
  unfold sendTrailers
  split
  · split
    · exact .same rfl
    · exact Frees.trans (d := c.encode o .sendTrailers _) (.same rfl) (frees_stateSendClose o none)
  · exact .same rfl

theorem slots_setSendWindow (c : Connection) (w : Window) :
    ({ c with sendWindow := w } : Connection).slots = c.slots := rfl

theorem slots_spendWindows (c : Connection) (o : Obj) (size : Nat) :
    (c.spendWindows o size).slots = c.slots := by
  unfold spendWindows
  rw [slots_setSendWindow, slots_note, slots_modify, slots_note]

theorem frees_sendChunk (o : Obj) (payload : Bytes) (size : Nat) (last : Bool) :
    Frees c (c.sendChunk o payload size last) := by
  unfold sendChunk
  dsimp only
  generalize hn : c.note _ .overrun = c0
  have h0 : c0.slots = c.slots := by rw [← hn, slots_note]
  generalize hc1 : c0.encode o .sendPages (.data ⟨(c0.objs o).id, payload, size, last⟩) = c1
  have h1 : Frees c c1 := .same (by rw [← hc1, ← h0]; rfl)
  generalize hc2 : (if last then c1.stateSendClose o none else c1) = c2
  have h2 : Frees c c2 := by
    rw [← hc2]
    split
    · exact h1.trans (frees_stateSendClose o none)
    · exact h1
  exact h2.of_eq (slots_spendWindows c2 o size)

theorem sending_frees (o : Obj) : SendRule o Frees Frees where
  refl := fun _ => .same rfl
  done := fun h => h
  andThen := Frees.trans
  writeReady := fun c r => .same (slots_writeReady c o r)
  pollSendCapacity := fun c => .same (slots_pollSendCapacity c o)
  sendChunk := fun _ payload size => frees_sendChunk o payload size false
  lastChunk := fun _ payload size last => frees_sendChunk o payload size last

/-- So may the last chunk of a payload. -/
theorem frees_sendPages {io : Nat → IoTurn} (o : Obj) (data : StreamData) (eof : Bool) :
    Frees c (c.sendPages io o data eof).2 := by
  unfold sendPages
  split
  · exact .same rfl
  · exact .same rfl
  · split
    · exact .same rfl
    · split
      · split
        · exact (frees_stateSendClose o none).of_eq rfl
        · exact .same rfl
      · exact (sending_frees o).pagesLoop _ _ c data

theorem frees_capacityTimeout (o : Obj) : Frees c (c.capacityTimeout o) := by
  unfold capacityTimeout
  dsimp only
  generalize hc1 : (c.modify o fun s => { s with capacityTimer := false }) = c1
  have h1 : Frees c c1 := .same (by rw [← hc1]; rfl)
  split
  · exact h1
  · exact ((h1.trans (frees_resetWith o _ _)).trans (frees_review o _)).trans (frees_dropStream _ _)

/-! ## Received frames -/

theorem slots_updateRstCount (c : Connection) : c.updateRstCount.2.slots = c.slots := by
  unfold updateRstCount
  dsimp only
  split
  · rfl
  · rfl

theorem slots_resetUnknownStream (c : Connection) (id : StreamId) (r : Reason) :
    (c.resetUnknownStream id r).2.slots = c.slots := by
  have hs := slots_updateRstCount c
  unfold resetUnknownStream
  cases hp : c.updateRstCount with
  | mk x c1 =>
      rw [hp] at hs
      cases x with
      | error e => exact hs
      | ok u => exact (slots_addPending _ id).trans hs

/-- The answer to a stream error is a reset. -/
theorem frees_lift {o : Obj} {r : Except StreamError (Option Message) × Connection}
    (h : Frees c r.2) : Frees c (lift o r).2 := by
  cases r with
  | mk x c1 =>
      cases x with
      | error e => exact h
      | ok item => exact h

/-- HEADERS of the peer take no slot: a stream of the peer has none. -/
theorem frees_recvHeaders (h : Headers) : Frees c (c.recvHeaders h).2 := by
  unfold recvHeaders
  split
  · exact .same rfl
  · split
    · exact frees_lift (frees_streamRecvHeaders _ h)
    · split
      · unfold recvClosedHeaders
        split
        · exact .same rfl
        · dsimp only
          split
          · exact .same rfl
          · exact .same rfl
      · split
        · split
          · exact .same rfl
          · exact .same rfl
        · unfold recvNewHeaders
          dsimp only
          split
          · exact .same (slots_addPending _ _)
          · split
            · exact .same (slots_resetUnknownStream _ _ _)
            · split
              · exact .same (slots_resetUnknownStream _ _ _)
              · unfold acceptStream
                refine frees_lift (Frees.trans (.same ?_) (frees_streamRecvHeaders _ h))
                rfl

/-- An invalid frame resets a stream or fails the connection. -/
theorem frees_recvInvalidFrame (f : InvalidFrame) : Frees c (c.recvInvalidFrame f).2 := by
  unfold recvInvalidFrame
  split
  · have hs := slots_updateRstCount c
    cases hp : c.updateRstCount with
    | mk x c1 =>
        rw [hp] at hs
        cases x with
        | error e => exact .same hs
        | ok u => exact .same hs
  · split
    · exact .same rfl
    · unfold recvInvalidHeaders
      split
      · exact .same rfl
      · split
        · split
          · exact .same rfl
          · exact .same (slots_resetUnknownStream _ _ _)
        · split
          · exact .same rfl
          · exact .same (slots_resetUnknownStream _ _ _)
    · exact .same (slots_resetUnknownStream _ _ _)

theorem frees_recvData (d : Data) : Frees c (c.recvData d).2 := by
  have hstray : ((c.dataReceived d.flowLen).dataConsumed d.flowLen).slots = c.slots := by
    rw [slots_dataConsumed, slots_dataReceived]
  unfold recvData
  split
  · exact .same rfl
  · split
    · exact frees_lift (frees_streamRecvData _ d)
    · split
      · exact .same hstray
      · split
        · exact .same ((slots_encodeCon _ _).trans hstray)
        · exact .same rfl

theorem frees_recvWindowUpdate (id : StreamId) (n : Nat) : Frees c (c.recvWindowUpdate id n).2 := by
  have hfold : ∀ (os : List Obj) (c : Connection),
      (os.foldl wakeCapacityWaiter c).slots = c.slots := by
    intro os
    induction os with
    | nil => exact fun c => rfl
    | cons o os ih => exact fun c => (ih _).trans (slots_wakeCapacityWaiter c o)
  have hcon : (c.recvConWindowUpdate n).2.slots = c.slots := by
    unfold recvConWindowUpdate
    split
    · rfl
    · split
      · rfl
      · dsimp only
        split
        · exact hfold _ _
        · rfl
  unfold recvWindowUpdate
  split
  · cases hp : c.recvConWindowUpdate n with
    | mk x c1 =>
        rw [hp] at hcon
        cases x with
        | error e => exact .same hcon
        | ok u => exact .same hcon
  · split
    · next o _ =>
        have hs := slots_streamRecvWindowUpdate c o n
        cases hp : c.streamRecvWindowUpdate o n with
        | mk x c1 =>
            rw [hp] at hs
            cases x with
            | error e => exact .same hs
            | ok u => exact .same hs
    · split
      · exact .same rfl
      · split
        · exact .same rfl
        · exact .same rfl

/-- RST_STREAM frees the slot of its stream. -/
theorem frees_recvRstStream (id : StreamId) (r : Reason) : Frees c (c.recvRstStream id r).2 := by
  unfold recvRstStream
  split
  · exact .same rfl
  · split
    · next o _ =>
        dsimp only
        have h1 : Frees c (c.remoteResetStream o r) := frees_review o _
        split
        · exact h1
        · have hs := slots_updateRstCount (c.remoteResetStream o r)
          cases hp : (c.remoteResetStream o r).updateRstCount with
          | mk x c1 =>
              rw [hp] at hs
              cases x with
              | error e => exact h1.of_eq hs
              | ok u => exact h1.of_eq hs
    · split
      · next p _ =>
          have hs := slots_updateRstCount { c with localPendingReset := p }
          cases hp : ({ c with localPendingReset := p } : Connection).updateRstCount with
          | mk x c1 =>
              rw [hp] at hs
              cases x with
              | error e => exact .same hs
              | ok u => exact .same hs
      · exact .same rfl

theorem slots_ackStream (upd : Int) (r : List (Obj × StreamError) × Connection) (o : Obj) :
    (ackStream upd r o).2.slots = r.2.slots := by
  have hs := slots_updateRecvWindow r.2 o upd
  unfold ackStream
  cases hp : r.2.updateRecvWindow o upd with
  | mk x c1 =>
      rw [hp] at hs
      cases x with
      | error e => exact hs
      | ok y =>
          cases y with
          | none => exact hs
          | some val => exact (slots_encodeWindowUpdate c1 o val).trans hs

theorem slots_recvSettingsAck (c : Connection) : c.recvSettingsAck.2.slots = c.slots := by
  have hfold : ∀ (upd : Int) (os : List Obj) (r : List (Obj × StreamError) × Connection),
      (os.foldl (ackStream upd) r).2.slots = r.2.slots := by
    intro upd os
    induction os with
    | nil => exact fun r => rfl
    | cons o os ih => exact fun r => (ih _).trans (slots_ackStream upd r o)
  unfold recvSettingsAck
  split
  · rfl
  · exact hfold _ _ _

/-- The streams that the ack overflows are reset. -/
theorem frees_handleAckErrors (errs : List (Obj × StreamError)) :
    Frees c (c.handleAckErrors errs) := by
  cases errs with
  | nil => exact .same rfl
  | cons x errs =>
      exact (Frees.trans (d := c.push (.streamFailed x.1 x.2)) (.same rfl)
        (frees_setFailedStream x.1 _)).of_eq rfl

/-- What the dispatcher does with the result, unless the connection fails. -/
theorem frees_handleMessage {r : Received × Connection} (h : Frees c r.2)
    (he : (handleMessage r).error = none) : Frees c (handleMessage r) := by
  cases r with
  | mk x c1 =>
      cases x with
      | ok item => exact h
      | error e =>
          cases e with
          | connection e =>
              have hf := (failed_failStreams (c := { c1.push (.failed e) with
                error := some (.connection e) }) (.connection e) rfl)
              have he' : (({ c1.push (.failed e) with
                error := some (.connection e) } : Connection).failStreams (.connection e)).error =
                  none := he
              have hf' : (({ c1.push (.failed e) with
                error := some (.connection e) } : Connection).failStreams
                  (.connection e)).error.isSome = true := hf
              rw [he'] at hf'
              cases hf'
          | stream o e =>
              have hreset : Frees c ((c1.push (.streamFailed o e)).resetSilent o e.reason).1 :=
                h.trans (Frees.trans (d := c1.push (.streamFailed o e)) (.same rfl)
                  (frees_resetSilent o _))
              cases e with
              | reset r =>
                  exact h.trans (Frees.trans (d := c1.push (.streamFailed o (.reset r))) (.same rfl)
                    (frees_setFailedStream o _))
              | _ => exact hreset

/-! ## The settings of the peer -/

/-- Only a new limit wakes tasks that wait. -/
theorem slots_applyLimits (c : Connection) (s : Settings) :
    (c.applyLimits s).slots = c.slots ∨
      (c.applyLimits s).slots = (c.slots.setLimit s.maxConcurrentStreams).notify := by
  unfold applyLimits
  cases s.maxHeaderListSize with
  | none =>
      cases s.maxFrameSize with
      | none =>
          dsimp only
          split
          · exact .inr rfl
          · exact .inl rfl
      | some frame =>
          dsimp only
          split
          · exact .inr rfl
          · exact .inl rfl
  | some list =>
      cases s.maxFrameSize with
      | none =>
          dsimp only
          split
          · exact .inr rfl
          · exact .inl rfl
      | some frame =>
          dsimp only
          split
          · exact .inr rfl
          · exact .inl rfl

theorem slots_applyInitialWindow (c : Connection) (s : Settings) :
    (c.applyInitialWindow s).2.slots = c.slots := by
  have hshift : ∀ (upd : Int) (os : List Obj) (c : Connection),
      (shiftSendWindows upd os c).2.slots = c.slots := by
    intro upd os
    induction os with
    | nil => exact fun c => rfl
    | cons o os ih =>
        intro c
        have hs := slots_updateSendWindow c o upd
        unfold shiftSendWindows
        cases hp : c.updateSendWindow o upd with
        | mk x c1 =>
            rw [hp] at hs
            cases x with
            | error e => exact hs
            | ok u => exact (ih c1).trans hs
  unfold applyInitialWindow
  split
  · rfl
  · dsimp only
    split
    · rfl
    · exact hshift _ _ _

/-! ## Requests -/

/-- `can_create_new_stream` asks whether a slot is free. -/
theorem free_iff (c : Connection) : c.canCreateNewStream = true ↔ c.slots.Free := by
  unfold canCreateNewStream Slots.Free slots
  cases c.localMaxConcurrentStreams with
  | none => simp
  | some max => simp

/-- A stream that is refused takes no slot. -/
theorem frees_openStream (r : Request) : Frees c (c.openStream r).2 := by
  unfold openStream
  split
  · exact .same rfl
  · split
    · exact .same rfl
    · refine Frees.trans (.same ?_) (frees_sendHeaders _ _)
      rfl

/-- A request that finds a slot takes it, and gives it back if it fails. -/
theorem slots_sendRequest (c : Connection) (r : Request) :
    Freed c.slots.take (c.sendRequest r).2.slots ∨
      (c.sendRequest r).2.slots = c.slots.take.release := by
  have h := frees_openStream (c := { c with activeLocalStreams := c.activeLocalStreams + 1 }) r
  unfold sendRequest
  rcases openStream_cases { c with activeLocalStreams := c.activeLocalStreams + 1 } r with
    ⟨e, he⟩ | ⟨hd, -, -, he⟩
  · rw [he]
    exact .inr (slots_releaseLocalStream _)
  · rw [he] at h ⊢
    exact .inl h

/-- A reservation that is given back frees its slot and wakes the task at the front. -/
theorem slots_releaseReserved (c : Connection) :
    c.releaseReservedStream.slots = c.slots.release.notify := by
  unfold releaseReservedStream
  dsimp only
  generalize hc1 : ({ c.note (0 < c.reservedStreams) .reserved with
    reservedStreams := (c.note (0 < c.reservedStreams) .reserved).reservedStreams - 1 } :
      Connection) = c1
  have h1 : c1.slots = c.slots := by
    rw [← hc1]
    exact slots_note c _ .reserved
  have h2 : c1.releaseLocalStream.notifyCapacity.slots = c.slots.release.notify := by
    rw [← h1, ← slots_releaseLocalStream]
    rfl
  split
  · exact h2
  · exact h2

/-- The connection has not failed, is not shutting down and was not told to go away. -/
def Healthy (c : Connection) : Prop := c.checkErrorWithDisconnect = none

instance (c : Connection) : Decidable c.Healthy := inferInstanceAs (Decidable (_ = _))

/-- The queue and the channels fit together, and nobody waits in vain. -/
def Fair (c : Connection) : Prop := c.slots.Tidy ∧ c.slots.Served

/-- Slots that get free wake as many tasks, so the queue stays fair. -/
theorem Fair.frees (h : c.Fair) (hf : Frees c c') : c'.Fair := Freed.keeps hf h.1 h.2

theorem Fair.of_eq (h : c.Fair) (he : c'.slots = c.slots) : c'.Fair := h.frees (.same he)

/-- The slot that was served is taken by the stream that is opened. -/
theorem Fair.sendRequest (ht : c.slots.Tidy) (hs : c.slots.take.Served) (r : Request) :
    (c.sendRequest r).2.Fair := by
  rcases slots_sendRequest c r with h | h
  · exact Freed.keeps h ht.take hs
  · unfold Fair
    rw [h]
    exact ⟨ht.take.release, hs.release ht.take⟩

theorem signal_mem {w : Nat} {x : Signal} (h : c.signal w = some x) : (w, x) ∈ c.waiters := by
  unfold signal at h
  obtain ⟨e, he, hx⟩ := Option.map_eq_some_iff.mp h
  have hid : e.1 = w := by simpa using List.find?_some he
  rw [← hid, ← hx]
  exact List.mem_of_find?_eq_some he

/-- A task whose channel was used has its signal. -/
theorem signal_sent {w : Nat} (ht : c.slots.Tidy) (h : (w, .sent) ∈ c.waiters) :
    c.signal w = some .sent := by
  unfold signal
  cases hf : c.waiters.find? (·.1 == w) with
  | none =>
      have := List.find?_eq_none.mp hf (w, .sent) h
      simp at this
  | some e =>
      have hid : e.1 = w := by simpa using List.find?_some hf
      have hm := List.mem_of_find?_eq_some hf
      have he : e = (w, .sent) := by
        apply List.inj_on_of_nodup_map ht.keys hm h
        exact hid
      rw [he]
      rfl

/-! ## Steps -/

/-- A connection that is healthy now was healthy before. -/
theorem Healthy.of_grows (h : c'.Healthy) (hg : Session.Grows c.session c'.session) :
    c.Healthy := by
  obtain ⟨he, hga, hd⟩ := checkError_none h
  have h1 : c.error = none := by
    cases hc : c.error with
    | none => rfl
    | some e =>
        have := hg.failed (by show c.error.isSome = true; rw [hc]; rfl)
        rw [show c'.session.failed = c'.error.isSome from rfl, he] at this
        cases this
  have h2 : c.goAway = none := by
    cases hc : c.goAway with
    | none => rfl
    | some e =>
        have := hg.goneAway (by show c.goAway.isSome = true; rw [hc]; rfl)
        rw [show c'.session.goneAway = c'.goAway.isSome from rfl, hga] at this
        cases this
  have h3 : c.disconnectWhenReady = false := by
    cases hc : c.disconnectWhenReady with
    | false => rfl
    | true =>
        have := hg.draining hc
        rw [show c'.session.draining = c'.disconnectWhenReady from rfl, hd] at this
        cases this
  unfold Healthy checkErrorWithDisconnect
  rw [h1, h2, h3]
  rfl

/-- A connection with a protocol error is closed. -/
theorem healthy_protoError (c : Connection) (e : ConnectionError) : ¬(c.protoError e).Healthy := by
  intro h
  have hf := failed_failStreams (c := { c.push (.failed e) with error := some (.connection e) })
    (.connection e) rfl
  have he := (checkError_none h).1
  rw [show (c.protoError e).error = (({ c.push (.failed e) with
    error := some (.connection e) } : Connection).failStreams (.connection e)).error from rfl] at he
  have hf' : (({ c.push (.failed e) with
    error := some (.connection e) } : Connection).failStreams (.connection e)).error.isSome =
      true := hf
  rw [he] at hf'
  cases hf'

theorem draining_startDisconnect (c : Connection) :
    c.startDisconnect.disconnectWhenReady = true := by
  unfold startDisconnect
  dsimp only
  generalize (if c.clearReadiness.server && !c.clearReadiness.disconnectWhenReady &&
    !c.clearReadiness.ioClosed && c.clearReadiness.error.isNone then
      c.clearReadiness.encodeCon (.goAway c.clearReadiness.lastId .noError [])
    else c.clearReadiness) = c1
  split
  · rfl
  · rfl

/-- One that drains serves nobody. -/
theorem healthy_startDisconnect (c : Connection) : ¬c.startDisconnect.Healthy := by
  intro h
  have hd := (checkError_none h).2.2
  rw [draining_startDisconnect] at hd
  cases hd

/-- A new limit wakes the task at the front of the queue. -/
theorem fair_recvPeerSettings (h : c.Fair) {st : Settings} {u : Unit}
    (hp : c.recvPeerSettings st = (.ok u, c')) : c'.Fair := by
  have hlim : (c.applyLimits st).Fair := by
    rcases slots_applyLimits c st with he | he
    · exact h.of_eq he
    · unfold Fair
      rw [he]
      exact ⟨(h.1.setLimit _).notify, Slots.Served.setLimit h.1 _⟩
  unfold recvPeerSettings at hp
  split at hp
  · cases hp
  · have hs := slots_applyInitialWindow (c.applyLimits st) st
    cases hw : (c.applyLimits st).applyInitialWindow st with
    | mk x c2 =>
        rw [hw] at hs hp
        cases x with
        | false => cases hp
        | true =>
            cases hp
            exact hlim.of_eq hs

/-- Received frames keep the queue fair. -/
theorem fair_receive (h : c.Fair) (f : Frame) (hh : (c.receive f).Healthy) :
    (c.receive f).Fair := by
  unfold receive at hh ⊢
  dsimp only at hh ⊢
  have h0 : (c.push (.received (f.streamId.bind c.query) f)).Fair := h.of_eq rfl
  generalize c.push (.received (f.streamId.bind c.query) f) = c1 at hh h0
  split at hh
  · next hfirst =>
      rw [if_pos hfirst]
      unfold dispatch at hh ⊢
      cases f with
      | headers hd =>
          exact h0.frees (frees_handleMessage (frees_recvHeaders hd) (checkError_none hh).1)
      | data d => exact h0.frees (frees_handleMessage (frees_recvData d) (checkError_none hh).1)
      | settings st =>
          dsimp only at hh ⊢
          split
          · next hack =>
              rw [if_pos hack] at hh
              have hs := slots_recvSettingsAck c1
              cases hp : c1.recvSettingsAck with
              | mk x c2 =>
                  rw [hp] at hs hh
                  cases x with
                  | error e => exact absurd hh (healthy_protoError c2 e)
                  | ok errs => exact (h0.of_eq hs).frees (frees_handleAckErrors errs)
          · next hack =>
              rw [if_neg hack] at hh
              cases hp : c1.recvPeerSettings st with
              | mk x c2 =>
                  rw [hp] at hh
                  cases x with
                  | error e => exact absurd hh (healthy_protoError c2 e)
                  | ok u => exact fair_recvPeerSettings h0 hp
      | windowUpdate id n =>
          exact h0.frees (frees_handleMessage (frees_recvWindowUpdate id n) (checkError_none hh).1)
      | reset id r =>
          exact h0.frees (frees_handleMessage (frees_recvRstStream id r) (checkError_none hh).1)
      | ping ack payload =>
          dsimp only
          split
          · exact h0
          · exact h0.of_eq rfl
      | goAway last r data =>
          have hh' : (c1.recvGoAway r last).Healthy := hh
          exact absurd hh' (healthy_startDisconnect _)
      | invalid g =>
          exact h0.frees (frees_handleMessage (frees_recvInvalidFrame g) (checkError_none hh).1)
      | priority id => exact h0
  · exact absurd hh (healthy_protoError _ _)

/-- A request that runs now, with what it does if it takes no slot. -/
theorem fair_request (ht : c.slots.Tidy) (htake : c.slots.take.Served) (hh : c.Healthy)
    {r : Option Request} (hnone : r = none → c.canCreateNewStream = true → c.slots.Served) :
    (c.request r).2.Fair := by
  unfold request
  rw [show c.checkErrorWithDisconnect = none from hh]
  dsimp only
  split
  · next hcan =>
      cases r with
      | none => exact ⟨ht, hnone rfl hcan⟩
      | some r =>
          have hf := Fair.sendRequest ht htake r
          dsimp only
          cases hp : c.sendRequest r with
          | mk x c1 =>
              rw [hp] at hf
              cases x with
              | error e => exact hf
              | ok o => exact hf
  · next hcan =>
      exact ⟨ht.enqueue, Slots.Served.enqueue fun hf => hcan ((free_iff c).mpr hf)⟩

/-- What a signalled call of `ready` needs when it returns: it takes no slot and does not pass
its signal on, so either nobody else waits without a signal or the other signals are enough
for the free slots. -/
def PassesOn (c : Connection) : Step → Prop
  | .pollRequest w none => c.signal w = some .sent → c.canCreateNewStream = true →
      (∃ t, (t, Signal.pending) ∈ c.waiters) →
        ∃ max, c.localMaxConcurrentStreams = some max ∧
          max - c.activeLocalStreams < signalled c.waiters
  | _ => True

/-- A poll of a request takes its slot or queues the task again. -/
theorem fair_pollRequest (h : c.Fair) (hh : c.Healthy) {w : Nat} {r : Option Request}
    (hp : c.PassesOn (.pollRequest w r)) : (c.pollRequest w r).2.Fair := by
  unfold pollRequest
  split
  · next hsig =>
      have hm : (w, Signal.sent) ∈ c.slots.waiters := signal_mem hsig
      have hleave : ({ c with waiters := c.waiters.filter (·.1 != w) } : Connection).slots =
        c.slots.leave w := rfl
      refine fair_request (c := { c with waiters := c.waiters.filter (·.1 != w) }) ?_ ?_ hh ?_
      · rw [hleave]
        exact h.1.leave w
      · rw [hleave]
        exact h.2.serve h.1 hm
      · intro hr hcan hw
        subst hr
        rw [hleave] at hw ⊢
        obtain ⟨max, hl, hlt⟩ := hp hsig hcan (Slots.leave_waits hw)
        have hcount := Slots.signalled_leave h.1 hm
        rw [if_pos rfl] at hcount
        refine ⟨max, hl, ?_⟩
        show max - c.activeLocalStreams ≤ _
        rw [show c.slots.waiters = c.waiters from rfl] at hcount
        omega
  · next hsig =>
      have hm : (w, Signal.dropped) ∈ c.slots.waiters := signal_mem hsig
      refine ⟨h.1.leave w, h.2.leave h.1 fun hs => ?_⟩
      rw [signal_sent h.1 hs] at hsig
      cases hsig
  · exact h

/-- A task that gives up passes its wake-up on. -/
theorem fair_dropRequest (h : c.Fair) (w : Nat) : (c.dropRequest w).Fair := by
  have hleave : ({ c with waiters := c.waiters.filter (·.1 != w) } : Connection).slots =
    c.slots.leave w := rfl
  unfold dropRequest
  split
  · next hsig =>
      exact ⟨(h.1.leave w).wake 1, h.2.pass h.1 (signal_mem hsig)⟩
  · next hsig =>
      refine ⟨h.1.leave w, h.2.leave h.1 fun hs => hsig (signal_sent h.1 hs)⟩

/-- A reservation takes a slot that was free. -/
theorem fair_reserveStream (h : c.Fair) : c.reserveStream.1.Fair := by
  unfold reserveStream
  split
  · exact h
  · exact ⟨h.1.take, h.2.take⟩

theorem fair_releaseReserved (h : c.Fair) : c.releaseReservedStream.Fair := by
  unfold Fair
  rw [slots_releaseReserved]
  exact ⟨h.1.release.notify, (h.2.release h.1).notify⟩

/-- A reserved slot becomes the slot of the stream, or gets free. -/
theorem fair_reservationSend (h : c.Fair) (r : Request) : (c.reservationSend r).2.Fair := by
  have hrel : ({ c with reservations := c.reservations - 1 } :
      Connection).releaseReservedStream.Fair :=
    fair_releaseReserved (h.of_eq rfl)
  unfold reservationSend sendReservedRequest
  cases c.error with
  | some e => exact hrel
  | none =>
      dsimp only
      split
      · next hp =>
          split at hp
          · cases hp
          · split at hp
            · cases hp
            · split at hp
              · cases hp
              · next o c1 ho =>
                  cases hp
                  have hf := frees_openStream (c := c) r
                  rw [ho] at hf
                  exact (h.frees hf).of_eq (slots_note c1 _ .reserved)
      · next e c1 hp =>
          have hc1 : c1 = c := by
            split at hp
            · cases hp
              rfl
            · split at hp
              · cases hp
                rfl
              · split at hp
                · next ho =>
                    cases hp
                    rcases openStream_cases c r with ⟨e', he⟩ | ⟨hd, -, -, he⟩
                    · rw [he] at ho
                      cases ho
                      rfl
                    · rw [he] at ho
                      cases ho
                · cases hp
          rw [hc1]
          exact hrel

theorem frees_streamDrop (o : Obj) : Frees c (c.streamDrop o) := by
  unfold streamDrop
  split
  · exact .same rfl
  · exact frees_resetWith o _ _

/-- A handle is dropped that may shut the connection down. -/
theorem fair_cancelStream (h : c.Fair) (o : Obj) (hh : (c.cancelStream o).Healthy) :
    (c.cancelStream o).Fair := by
  unfold cancelStream at hh ⊢
  dsimp only at hh ⊢
  split at hh
  · exact absurd hh (healthy_startDisconnect _)
  · next hd =>
      rw [if_neg hd]
      exact h.frees (frees_resetWith o _ _)

/-- A handle that is dropped may end its stream. -/
theorem fair_sendStreamDrop (h : c.Fair) (o : Obj) (hh : (c.sendStreamDrop o).Healthy) :
    (c.sendStreamDrop o).Fair := by
  unfold sendStreamDrop at hh ⊢
  dsimp only at hh ⊢
  have h0 : (c.modify o fun s => { s with noResetOnDrop := false }).Fair := h.of_eq rfl
  generalize c.modify o (fun s => { s with noResetOnDrop := false }) = c1 at hh h0
  split at hh
  · next hcl =>
      rw [if_pos hcl]
      exact h0
  · next hcl =>
      rw [if_neg hcl]
      exact fair_cancelStream h0 o hh

/-- So may the reader that is dropped. -/
theorem fair_recvStreamDrop (hc : c.Clean) (h : c.Fair) {o : Nat} (ho : o < c.created)
    (hh : (c.recvStreamDrop o).Healthy) : (c.recvStreamDrop o).Fair := by
  unfold recvStreamDrop at hh ⊢
  dsimp only at hh ⊢
  split at hh
  · next hcl =>
      rw [if_pos hcl]
      exact h.frees (frees_streamDrop o)
  · next hcl =>
      rw [if_neg hcl]
      have hrun : Runs anyRun c (c.cancelStream o) := runs_cancelStream ho
      have hgrow := Session.Steps.grows (hrun hc).2
      have hdrop : Runs anyRun (c.cancelStream o) ((c.cancelStream o).streamDrop o) :=
        runs_streamDrop (Nat.lt_of_lt_of_le ho hgrow.created)
      have hh1 := hh.of_grows (Session.Steps.grows (hdrop (hrun.clean hc)).2)
      exact (fair_cancelStream h o hh1).frees (frees_streamDrop o)

theorem healthy_disconnect (c : Connection) : ¬c.disconnect.Healthy := by
  intro h
  have hf : c.disconnect.error.isSome = true := failed_disconnect c
  rw [(checkError_none h).1] at hf
  cases hf

theorem healthy_timeout (c : Connection) (e : ConnectionError) (r : Reason) :
    ¬(c.timeout e r).Healthy := by
  intro h
  have hf : (c.timeout e r).error.isSome = true :=
    failed_failStreams (c := { c.push (.failed e) with error := some (.connection e) })
      (.connection e) rfl
  rw [(checkError_none h).1] at hf
  cases hf

/-- No end of the dispatcher leaves the connection healthy. -/
theorem healthy_stop (c : Connection) (x : Stop) : ¬(c.stop x).Healthy := by
  cases x with
  | encoder e => exact healthy_protoError c _
  | decoder e => exact healthy_protoError c _
  | keepAlive =>
      unfold stop
      dsimp only
      split
      · exact healthy_timeout c _ _
      · exact healthy_timeout c _ _
  | readTimeout => exact healthy_timeout c _ _
  | writeTimeout => exact healthy_timeout c _ _
  | io => exact healthy_disconnect c
  | service =>
      intro h
      apply healthy_disconnect c
      exact h

/-- Steps that end streams at most. -/
def Plain : Step → Prop
  | .receive _ | .stop _ | .shutdown | .request _ | .pollRequest _ _ | .dropRequest _ | .reserve
  | .reservationSend _ | .reservationDrop | .sendStreamDrop _ | .recvStreamDrop _
  | .startDisconnect => False
  | _ => True

/-- Every other step of a connection only frees slots. -/
theorem frees_step {a : Step} (ha : Plain a) : Frees c (c.step a) := by
  cases a with
  | ackError =>
      exact Frees.trans (d := { c with ackErrors := [] }) (.same rfl) (frees_handleAckErrors _)
  | control goAway close =>
      refine .same ?_
      cases goAway <;> cases close <;> rfl
  | sendInformational o status fields =>
      refine .same ?_
      show (c.sendInformational o status fields).2.slots = c.slots
      unfold sendInformational
      split
      · rfl
      · split
        · rfl
        · rfl
  | sendResponse o status fields eof => exact frees_sendResponse o status fields eof
  | sendTrailers o fields => exact frees_sendTrailers o fields
  | sendPages io o data eof =>
      have hf : Frees c (c.sendPages io o data eof).2 := frees_sendPages o data eof
      show Frees c (started (c.sendPages io o data eof))
      cases hr : c.sendPages io o data eof with
      | mk x c1 =>
          rw [hr] at hf
          cases x with
          | ready y => exact hf
          | suspended p => exact hf.of_eq rfl
  | pollSender io r i =>
      unfold step
      dsimp only
      cases c.senders[i]? with
      | none => exact .same rfl
      | some p =>
          have hf : Frees c (c.pollSender io r p).2 := (sending_frees p.stream).pollSender c
          dsimp only
          cases hr : c.pollSender io r p with
          | mk x c1 =>
              rw [hr] at hf
              cases x with
              | ready y => exact hf.of_eq rfl
              | suspended p' => exact hf.of_eq rfl
  | dropSender i =>
      refine .same ?_
      unfold step
      dsimp only
      cases c.senders[i]? with
      | none => rfl
      | some p =>
          dsimp only
          split
          · rfl
          · rfl
  | pollSendCapacity o => exact .same (slots_pollSendCapacity c o)
  | capacityTimeout o => exact frees_capacityTimeout o
  | reset o r => exact frees_resetWith o _ _
  | consume i sz => exact .same (slots_consume c i sz)
  | addCapacity i j => exact .same (slots_addCapacity c i j)
  | dropCapacity i => exact .same (slots_dropCapacity c i)
  | streamDrop o => exact frees_streamDrop o
  | settingsTimer =>
      refine .same ?_
      unfold step
      dsimp only
      split
      · rfl
      · rfl
  | cancelCapacityWait _ | emptyCapacity _ | inflight _ | disconnectOnDrop _ | takeLocalClose _
  | forceClose | ping _ | tick _ | reorder _ => exact .same rfl
  | _ => exact False.elim ha

/-- A step of a connection that stays healthy. -/
theorem fair_step (hc : c.Clean) (h : c.Fair) (hh : c.Healthy) {a : Step} (ha : c.Enabled a)
    (hp : c.PassesOn a) (hh' : (c.step a).Healthy) : (c.step a).Fair := by
  cases a with
  | receive f => exact fair_receive h f hh'
  | stop x => exact absurd hh' (healthy_stop c x)
  | shutdown => exact absurd hh' (healthy_disconnect c)
  | request r => exact fair_request h.1 h.2.take hh fun _ _ => h.2
  | pollRequest w r => exact fair_pollRequest h hh hp
  | dropRequest w => exact fair_dropRequest h w
  | reserve => exact fair_reserveStream h
  | reservationSend r => exact fair_reservationSend h r
  | reservationDrop => exact fair_releaseReserved (h.of_eq rfl)
  | sendStreamDrop o => exact fair_sendStreamDrop h o hh'
  | recvStreamDrop o => exact fair_recvStreamDrop hc h ha hh'
  | startDisconnect => exact absurd hh' (healthy_startDisconnect c)
  | _ => exact h.frees (frees_step trivial)

/-! ## Runs -/

/-- In every run the queue is fair while the connection is healthy, by induction on the steps. -/
theorem fair_of_reachable (h : ReachableBy PassesOn s c) (hh : c.Healthy) : c.Fair := by
  induction h with
  | new =>
      refine ⟨⟨List.nodup_nil, ?_, ?_, List.nodup_nil, ?_, ?_⟩, ?_⟩
      · exact fun _ h => by cases h
      · exact fun _ h => by cases h
      · exact fun _ h => by cases h
      · exact fun _ _ h => by cases h
      · rintro ⟨_, hw⟩
        cases hw
  | @step c a hr ha hp ih =>
      have hc := hr.reachable.clean
      have hgrow := Session.Steps.grows ((runs_step ha (finds_anyRun c a)) hc).2
      have hh0 := hh.of_grows hgrow
      exact fair_step hc (ih hh0) hh0 ha hp hh

/-- No request waits in vain: if a queued waiter of a healthy connection has no signal, there
is a limit, and the free slots are no more than the waiters that have been signalled and have
not run. -/
def NobodyWaitsInVain (c : Connection) : Prop :=
  (∃ w, (w, Signal.pending) ∈ c.waiters) → ∃ max, c.localMaxConcurrentStreams = some max ∧
    max - c.activeLocalStreams ≤ signalled c.waiters

/-- A call of `ready` that keeps a signal which others need. -/
theorem lost_wakeup (hf : c.Fair) (hh : c.Healthy) {a : Step} (hp : ¬c.PassesOn a) :
    ¬(c.step a).NobodyWaitsInVain := by
  unfold PassesOn at hp
  split at hp
  · next w =>
      simp only [Classical.not_imp] at hp
      obtain ⟨hsig, hcan, ⟨t, ht⟩, hless⟩ := hp
      have hm : (w, Signal.sent) ∈ c.slots.waiters := signal_mem hsig
      have hstep : c.step (.pollRequest w none) =
          { c with waiters := c.waiters.filter (·.1 != w) } := by
        show (c.pollRequest w none).2 = _
        unfold pollRequest request
        rw [hsig]
        have hh' : ({ c with waiters := c.waiters.filter (·.1 != w) } :
          Connection).checkErrorWithDisconnect = none := hh
        have hcan' : ({ c with waiters := c.waiters.filter (·.1 != w) } :
          Connection).canCreateNewStream = true := hcan
        dsimp only
        rw [hh']
        dsimp only
        rw [if_pos hcan']
      rw [hstep]
      intro hv
      have hne : t ≠ w := by
        rintro rfl
        have := List.inj_on_of_nodup_map hf.1.keys ht hm rfl
        cases this
      obtain ⟨max, hl, hle⟩ := hv ⟨t, List.mem_filter.mpr ⟨ht, by simpa using hne⟩⟩
      have hcount := Slots.signalled_leave hf.1 hm
      rw [if_pos rfl] at hcount
      have hcount' : signalled c.waiters = signalled (c.waiters.filter (·.1 != w)) + 1 := hcount
      apply hless
      refine ⟨max, hl, ?_⟩
      have hle' : max - c.activeLocalStreams ≤ signalled (c.waiters.filter (·.1 != w)) := hle
      omega
  · exact absurd trivial hp

/-- In every run whose calls of `ready` pass on what they do not use, nobody waits in vain; and
a call that does not leaves somebody behind. -/
theorem no_lost_wakeup (h : ReachableBy PassesOn s c) (hh : c.Healthy) :
    c.NobodyWaitsInVain ∧ ∀ a, c.Enabled a → ¬c.PassesOn a → ¬(c.step a).NobodyWaitsInVain :=
  ⟨(fair_of_reachable h hh).2, fun _ _ hp => lost_wakeup (fair_of_reachable h hh) hh hp⟩

/-- One slot, which a first request takes; a call of `ready` and a second request wait. -/
def waitingRun : List Step :=
  [.receive (.settings { noSettings with maxConcurrentStreams := some 1 }),
    .request (some someRequest), .request none, .request (some someRequest)]

theorem waitingRun_allowed : Allowed PassesOn clientStart.init waitingRun := by
  refine ⟨⟨⟨?_, ?_⟩, trivial⟩, ⟨rfl, trivial⟩, ⟨rfl, trivial⟩, ⟨rfl, trivial⟩, trivial⟩
  · exact fun v hv => by cases hv
  · exact fun v hv => by cases hv

theorem waitingRun_reachable :
    ReachableBy PassesOn clientStart (clientStart.init.after waitingRun) :=
  ReachableBy.new.after waitingRun waitingRun_allowed

/-- The slot gets free, the call of `ready` is signalled and returns, and the second request
hangs. -/
theorem second_request_hangs :
    ¬∀ (s : Start) (c : Connection), Reachable s c → c.Healthy → c.NobodyWaitsInVain := by
  intro h
  have h1 : Reachable clientStart ((clientStart.init.after waitingRun).step (.reset 0 .cancel)) :=
    .step _ waitingRun_reachable.reachable (show 0 < _ by decide)
  have h2 : Reachable clientStart (((clientStart.init.after waitingRun).step
      (.reset 0 .cancel)).step (.pollRequest 0 none)) := .step _ h1 rfl
  obtain ⟨max, hl, hle⟩ := h _ _ h2 (by decide +kernel) ⟨1, by decide +kernel⟩
  have hm : max = 1 := by
    have : (some max : Option Nat) = some 1 := hl.symm.trans (by decide +kernel)
    exact Option.some.inj this
  subst hm
  exact absurd hle (by decide +kernel)

/-- Two waiters behind one slot. -/
theorem no_lost_wakeup_waiting :
    ∃ c, ReachableBy PassesOn clientStart c ∧ c.Healthy ∧ (1, Signal.pending) ∈ c.waiters ∧
      c.NobodyWaitsInVain :=
  ⟨_, waitingRun_reachable, by decide +kernel, by decide +kernel,
    (no_lost_wakeup waitingRun_reachable (by decide +kernel)).1⟩

end Connection

end NtexH2
