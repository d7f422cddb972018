/-
  Connection/Stream.lean --- the streams of a connection (src/stream.rs, and the
  parts of `ConnectionState` in src/connection.rs that streams call).

  A method of `StreamState` or `StreamRef` takes the connection and the object it
  is called on.  A method that can fail returns its result next to the connection,
  since an early return keeps what was changed before it.
-/
import NtexH2.Connection.State

set_option autoImplicit false

namespace NtexH2

/-! ## Streams that were reset -/

namespace Pending

/-- The loop of `Pending::add` that forgets old ids. -/
def dropOld (maxTime : Nat) : List StreamId → List (StreamId × Nat) → Pending
  | ids, [] => ⟨ids, []⟩
  | ids, item :: queue =>
      if item.2 < maxTime then dropOld maxTime (ids.erase item.1) queue
      else ⟨ids, item :: queue⟩

/-- The loop of `Pending::add` that makes room for one id. -/
def shrink (resetMax : Nat) : List StreamId → List (StreamId × Nat) → Pending
  | ids, [] => ⟨ids, []⟩
  | ids, item :: queue =>
      if queue.length + 1 ≥ resetMax then shrink resetMax (ids.erase item.1) queue
      else ⟨ids, item :: queue⟩

/-- `Pending::add` at the time `now`. -/
def add (p : Pending) (id : StreamId) (config : ServiceConfig) (now : Nat) : Pending :=
  if config.resetMax = 0 then ⟨[], []⟩
  else
    let p := if p.ids.contains id then ⟨p.ids.erase id, p.queue.eraseP (·.1 == id)⟩ else p
    let p := if config.resetDuration ≤ now then dropOld (now - config.resetDuration) p.ids p.queue
      else p
    let p := shrink config.resetMax p.ids p.queue
    ⟨p.ids.insert id, p.queue ++ [(id, now)]⟩

/-- `Pending::remove`. -/
def remove (p : Pending) (id : StreamId) : Pending × Bool :=
  if p.ids.contains id then (⟨p.ids.erase id, p.queue.eraseP (·.1 == id)⟩, true) else (p, false)

/-- `Pending::is_pending`. -/
def isPending (p : Pending) (id : StreamId) : Bool := p.ids.contains id

end Pending

namespace Connection

/-! ## Requests that wait -/

/-- The loop of `ConnectionState::wake_waiters`. -/
def wakeLoop : Nat → List Nat → List (Nat × Signal) → List Nat × List (Nat × Signal)
  | _, [], ws => ([], ws)
  | 0, queue, ws => (queue, ws)
  | count + 1, tx :: queue, ws =>
      if ws.any (·.1 == tx) then
        wakeLoop count queue (ws.map fun w => if w.1 = tx then (tx, .sent) else w)
      else wakeLoop (count + 1) queue ws

/-- `ConnectionState::wake_waiters`. -/
def wakeWaiters (c : Connection) (count : Nat) : Connection :=
  { c with
    readiness := (wakeLoop count c.readiness c.waiters).1
    waiters := (wakeLoop count c.readiness c.waiters).2 }

/-- The queue is taken, and all its waiters find the same signal. -/
def resolveReadiness (c : Connection) (s : Signal) : Connection :=
  { c with
    readiness := []
    waiters := c.waiters.map fun w => if w.1 ∈ c.readiness then (w.1, s) else w }

/-- `readiness.clear()`: the receivers see a dropped sender. -/
def clearReadiness (c : Connection) : Connection := c.resolveReadiness .dropped

/-- `ConnectionState::notify_capacity`. -/
def notifyCapacity (c : Connection) : Connection := { c with capacityCalls := c.capacityCalls + 1 }

/-- `ConnectionState::release_local_stream`. -/
def releaseLocalStream (c : Connection) : Connection :=
  let c := c.note (0 < c.activeLocalStreams) .activeLocal
  let c := { c with activeLocalStreams := c.activeLocalStreams - 1 }
  match c.localMaxConcurrentStreams with
  | some max => c.wakeWaiters (max - c.activeLocalStreams)
  | none => c

/-! ## Dropping a stream -/

/-- `StreamRef::stop_capacity_timer`. -/
def stopCapacityTimer (c : Connection) (o : Obj) : Connection :=
  c.modify o fun s => { s with capacityTimer := false }

/-- `local_pending_reset.add`, for a connection that reports unknown streams. -/
def addPending (c : Connection) (id : StreamId) : Connection :=
  if c.unknownStreams then
    { c with localPendingReset := c.localPendingReset.add id c.config c.now }
  else c

/-- The counters of `ConnectionState::drop_stream`. -/
def releaseStream (c : Connection) (remote : Bool) : Connection :=
  if remote then
    let c := c.note (0 < c.activeRemoteStreams) .activeRemote
    { c with activeRemoteStreams := c.activeRemoteStreams - 1 }
  else c.releaseLocalStream.notifyCapacity

/-- `ConnectionState::drop_stream`. -/
def dropStream (c : Connection) (id : StreamId) : Connection :=
  match c.query id with
  | some o =>
      let c := { c with streams := c.streams.eraseP (·.1 == id) }
      let c := c.stopCapacityTimer o
      let c := c.releaseStream (c.objs o).remote
      if c.streams.isEmpty && c.reservedStreams == 0 && c.disconnectWhenReady then c.ioClose
      else c.addPending id
  | none => c.addPending id

/-! ## The halves of a stream -/

/-- `StreamState::review_state`. -/
def reviewState (c : Connection) (o : Obj) : Connection :=
  if (c.objs o).recv.isClosed && (c.objs o).send.isClosed then
    (c.modify o fun s => { s with sendCap := false }).dropStream (c.objs o).id
  else c

/-- `StreamState::state_send_payload`. -/
def stateSendPayload (c : Connection) (o : Obj) : Connection :=
  c.modify o fun s => { s with send := .payload }

/-- `StreamState::state_send_close`. -/
def stateSendClose (c : Connection) (o : Obj) (reason : Option Reason) : Connection :=
  (c.modify o fun s => { s with send := .closed reason, sendCap := false }).reviewState o

/-- `StreamState::state_recv_payload`. -/
def stateRecvPayload (c : Connection) (o : Obj) : Connection :=
  c.modify o fun s => { s with recv := .payload }

/-- `StreamState::state_recv_close`. -/
def stateRecvClose (c : Connection) (o : Obj) (reason : Option Reason) : Connection :=
  (c.modify o fun s => { s with recv := .closed reason }).reviewState o

/-- `StreamState::reset_stream`. -/
def resetStream (c : Connection) (o : Obj) (reason : Option Reason) : Connection :=
  (c.modify o fun s =>
    { s with
      recv := .closed reason
      send := .closed none
      error := match reason with
        | some reason => some (.localReset reason)
        | none => s.error }).reviewState o

/-- `StreamState::remote_reset_stream`. -/
def remoteResetStream (c : Connection) (o : Obj) (reason : Reason) : Connection :=
  (c.modify o fun s =>
    { s with
      recv := .closed none
      send := .closed (some reason)
      error := some (.remoteReset reason) }).reviewState o

/-- `StreamState::failed`. -/
def failed (c : Connection) (o : Obj) (err : OperationError) : Connection :=
  (c.modify o fun s =>
    { s with
      recv := if s.recv.isClosed then s.recv else .closed none
      send := if s.send.isClosed then s.send else .closed none
      error := some err
      failed := true }).reviewState o

/-- `StreamRef::set_failed_stream`. -/
def setFailedStream (c : Connection) (o : Obj) (err : OperationError) : Connection :=
  (c.failed o err).stopCapacityTimer o

/-! ## Receive windows -/

/-- `ConnectionState::data_received`. -/
def dataReceived (c : Connection) (size : Nat) : Connection :=
  let c := c.note (c.recvWindow.DecSafe size) .recvWindow
  let c := c.note (c.recvSize + size < 2 ^ 32) .recvSize
  { c with recvWindow := c.recvWindow.dec size, recvSize := (c.recvSize + size) % 2 ^ 32 }

/-- `ConnectionState::data_consumed`. -/
def dataConsumed (c : Connection) (size : Nat) : Connection :=
  let c := c.note (size ≤ c.recvSize) .recvSize
  let recvSize := u32 ((c.recvSize : Int) - size)
  let c := { c with recvSize := recvSize }
  let c := c.note (c.recvWindow.UpdateSafe recvSize c.config.connectionWindowSz) .recvWindow
  let r := c.recvWindow.update recvSize c.config.connectionWindowSz
    c.config.connectionWindowSzThreshold
  let c := match r.2 with
    | some val => c.encodeCon (.windowUpdate StreamId.con val)
    | none => c
  { c with recvWindow := r.1 }

/-- `StreamState::received_data_added`. -/
def receivedDataAdded (c : Connection) (o : Obj) (size : Nat) : Connection :=
  let s := c.objs o
  let c := c.note (s.recvSize + size < 2 ^ 32) .recvSize
  let c := c.note (s.recvWindow.DecSafe size) .recvWindow
  let c := c.modify o fun s =>
    { s with recvSize := (s.recvSize + size) % 2 ^ 32, recvWindow := s.recvWindow.dec size }
  c.dataReceived size

/-- A WINDOW_UPDATE for a stream. -/
def encodeWindowUpdate (c : Connection) (o : Obj) (val : Nat) : Connection :=
  let c := c.note (!(c.objs o).recv.isClosed) .closedWindow
  c.encode o .windowUpdate (.windowUpdate (c.objs o).id val)

/-- The update of the stream window in `StreamState::received_data_consumed`. -/
def reclaim (c : Connection) (o : Obj) (size : Nat) : Connection :=
  let s := c.objs o
  if s.recv.isClosed then c
  else
    let c := c.note (s.recvWindow.UpdateSafe size c.config.windowSz) .recvWindow
    match s.recvWindow.update size c.config.windowSz c.config.windowSzThreshold with
    | (window, some val) =>
        (c.modify o fun s => { s with recvWindow := window }).encodeWindowUpdate o val
    | (_, none) => c

/-- `StreamState::received_data_consumed`. -/
def receivedDataConsumed (c : Connection) (o : Obj) (consumed : Nat) : Connection :=
  let cap := (c.objs o).recvSize
  let c := c.note (consumed ≤ cap) .recvSize
  let size := u32 ((cap : Int) - consumed)
  let c := c.modify o fun s => { s with recvSize := size }
  (c.reclaim o size).dataConsumed consumed

/-! ## Capacity -/

/-- `Capacity::new`. -/
def newCapacity (c : Connection) (o : Obj) (size : Nat) : Connection :=
  let c := if size ≠ 0 then c.receivedDataAdded o size else c
  { c with caps := c.caps ++ [⟨o, size⟩] }

/-- `Capacity::consume`; a larger argument panics before anything is changed. -/
def consume (c : Connection) (i sz : Nat) : Connection :=
  match c.caps[i]? with
  | some cap =>
      if sz ≤ cap.size then
        { c with caps := c.caps.set i { cap with size := cap.size - sz } }.receivedDataConsumed
          cap.stream sz
      else c
  | none => c

/-- `Capacity::add` and `Capacity::add_assign`: the second value is taken over by the
first.  Values of different streams panic. -/
def addCapacity (c : Connection) (i j : Nat) : Connection :=
  match c.caps[i]?, c.caps[j]? with
  | some a, some b =>
      if i ≠ j ∧ a.stream = b.stream then
        let c := c.note (a.size + b.size < 2 ^ 32) .recvSize
        { c with caps := (c.caps.set i { a with size := (a.size + b.size) % 2 ^ 32 }).eraseIdx j }
      else c
  | _, _ => c

/-- `Capacity::drop`. -/
def dropCapacity (c : Connection) (i : Nat) : Connection :=
  match c.caps[i]? with
  | some cap =>
      let c := { c with caps := c.caps.eraseIdx i }
      if cap.size > 0 then c.receivedDataConsumed cap.stream cap.size else c
  | none => c

/-- `StreamRef::empty_capacity`. -/
def emptyCapacity (c : Connection) (o : Obj) : Connection := { c with caps := c.caps ++ [⟨o, 0⟩] }

end Connection

end NtexH2
