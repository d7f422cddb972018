/-
  Connection/Local.lean --- opening streams and shutting down (src/connection.rs,
  `Connection`; src/client/, the handles of a client).
-/
import NtexH2.Connection.StreamRef

set_option autoImplicit false

namespace NtexH2

namespace Connection

/-- The cells of an object that does not exist yet. -/
def unused : Stream :=
  ⟨0, false, .omitted, .idle, ⟨0⟩, 0, .idle, ⟨0⟩, false, none, none, false, false, false, false,
    false⟩

/-- `DEFAULT_REMOTE_MAX_CONCURRENT_STREAMS`. -/
def defaultRemoteMaxConcurrentStreams : Nat := 100

/-- `Connection::new`, without the preface of a client and the timers.  The local
settings are sent, and the connection window is raised to its configured size. -/
def new (server : Bool) (config : ServiceConfig) (secure skipStreams : Bool) : Connection :=
  let r := Window.update ⟨defaultInitialWindowSize⟩ 0 config.connectionWindowSz
    config.connectionWindowSzThreshold
  { config := config
    ioClosed := false
    sendWindow := ⟨defaultInitialWindowSize⟩
    recvWindow := r.1
    recvSize := 0
    nextStreamId := StreamId.client
    created := 0
    objs := fun _ => unused
    streams := []
    activeRemoteStreams := 0
    activeLocalStreams := 0
    reservedStreams := 0
    readiness := []
    capacityCalls := 0
    rstCount := 0
    streamsCount := 0
    lastId := StreamId.con
    localMaxConcurrentStreams := some defaultRemoteMaxConcurrentStreams
    remoteWindowSz := defaultInitialWindowSize
    remoteFrameSize := defaultMaxFrameSize
    remoteMaxHeaderListSize := 2 ^ 32 - 1
    localPendingReset := ⟨[], []⟩
    error := none
    goAway := none
    server := server
    settingsProcessed := false
    unknownStreams := !skipStreams
    disconnectWhenReady := false
    secure := secure
    settingsTimeout := false
    remoteSettings := false
    now := 0
    caps := []
    reservations := 0
    senders := []
    waiters := []
    waiterCount := 0
    ackErrors := []
    log := match r.2 with
      | some val => [.sent none .connection (.windowUpdate StreamId.con val),
          .sent none .connection (.settings config.settings)]
      | none => [.sent none .connection (.settings config.settings)]
    anomalies := [] }

/-! ## Checks -/

/-- `Connection::check_error_with_disconnect`. -/
def checkErrorWithDisconnect (c : Connection) : Option OperationError :=
  match c.error with
  | some e => some e
  | none =>
      match c.goAway with
      | some reason => some (.connection (.goAway reason))
      | none => if c.disconnectWhenReady then some .disconnecting else none

/-- `Connection::can_create_new_stream`. -/
def canCreateNewStream (c : Connection) : Bool :=
  match c.localMaxConcurrentStreams with
  | some max => c.activeLocalStreams < max
  | none => true

/-- `Connection::disconnect_when_ready`. -/
def startDisconnect (c : Connection) : Connection :=
  let c := c.clearReadiness
  let c := if c.server && !c.disconnectWhenReady && !c.ioClosed && c.error.isNone then
      c.encodeCon (.goAway c.lastId .noError [])
    else c
  let c := { c with disconnectWhenReady := true }
  if c.streams.isEmpty && c.reservedStreams == 0 then c.ioClose else c

/-! ## Opening a stream -/

/-- The arguments of a request. -/
structure Request where
  authority : Bytes
  method : Bytes
  path : Bytes
  fields : HeaderMap
  eof : Bool
  deriving DecidableEq, Repr

/-- The pseudo-headers of a request; CONNECT has neither scheme nor path. -/
def requestPseudo (c : Connection) (r : Request) : PseudoHeaders where
  method := some r.method
  scheme := if r.method = octets "CONNECT" then none
    else some (if c.secure then octets "https" else octets "http")
  authority := some r.authority
  path := if r.method = octets "CONNECT" then none else some r.path
  protocol := none
  status := none

/-- `Connection::open_stream`. -/
def openStream (c : Connection) (r : Request) : Except OperationError Obj × Connection :=
  match c.checkHeaderListSize (c.requestPseudo r) r.fields with
  | .error e => (.error e, c)
  | .ok _ =>
      match StreamId.nextId c.nextStreamId with
      | none => (.error .overflowedStreamId, c)
      | some nextId =>
          let id := c.nextStreamId
          let o := c.created
          let c := { c with nextStreamId := nextId }.insertStream id false
          (.ok o, c.sendHeaders o ⟨id, c.requestPseudo r, r.fields, r.eof⟩)

/-- `Connection::send_request`, once the number of streams allows it. -/
def sendRequest (c : Connection) (r : Request) : Except OperationError Obj × Connection :=
  match { c with activeLocalStreams := c.activeLocalStreams + 1 }.openStream r with
  | (.ok o, c) => (.ok o, c)
  | (.error e, c) => (.error e, c.releaseLocalStream)

/-- The result of a poll of `send_request` or `ready`. -/
inductive RequestPoll where
  | ready (r : Except OperationError (Option Obj))
  | waiting (waiter : Nat)

/-- A new waiter at the end of the queue. -/
def addWaiter (c : Connection) : RequestPoll × Connection :=
  (.waiting c.waiterCount,
    { c with
      waiterCount := c.waiterCount + 1
      readiness := c.readiness ++ [c.waiterCount]
      waiters := c.waiters ++ [(c.waiterCount, .pending)] })

/-- `Connection::ready` up to its suspension, then the rest of `send_request`; `none` is
a call of `ready` alone. -/
def request (c : Connection) (r : Option Request) : RequestPoll × Connection :=
  match c.checkErrorWithDisconnect with
  | some e => (.ready (.error e), c)
  | none =>
      if c.canCreateNewStream then
        match r with
        | none => (.ready (.ok none), c)
        | some r =>
            match c.sendRequest r with
            | (.ok o, c) => (.ready (.ok (some o)), c)
            | (.error e, c) => (.ready (.error e), c)
      else c.addWaiter

/-- What the waiter `w` finds in its channel. -/
def signal (c : Connection) (w : Nat) : Option Signal :=
  (c.waiters.find? (·.1 == w)).map (·.2)

/-- A later poll of `Connection::ready`, for the waiter `w`. -/
def pollRequest (c : Connection) (w : Nat) (r : Option Request) : RequestPoll × Connection :=
  match c.signal w with
  | some .sent => { c with waiters := c.waiters.filter (·.1 != w) }.request r
  | some .dropped =>
      let c := { c with waiters := c.waiters.filter (·.1 != w) }
      (.ready (.error (c.checkErrorWithDisconnect.getD .disconnected)), c)
  | _ => (.waiting w, c)

/-- The waiting future is dropped; a signal it has not seen goes to the next waiter. -/
def dropRequest (c : Connection) (w : Nat) : Connection :=
  if c.signal w = some .sent then
    { c with waiters := c.waiters.filter (·.1 != w) }.wakeWaiters 1
  else { c with waiters := c.waiters.filter (·.1 != w) }

/-! ## Reservations -/

/-- `Connection::reserve_stream`, with the `StreamReservation` it gives. -/
def reserveStream (c : Connection) : Connection × Bool :=
  if c.checkErrorWithDisconnect.isSome || !c.canCreateNewStream then (c, false)
  else
    ({ c with
      activeLocalStreams := c.activeLocalStreams + 1
      reservedStreams := c.reservedStreams + 1
      reservations := c.reservations + 1 }, true)

/-- `Connection::release_reserved_stream`. -/
def releaseReservedStream (c : Connection) : Connection :=
  let c := c.note (0 < c.reservedStreams) .reserved
  let c := { c with reservedStreams := c.reservedStreams - 1 }
  let c := c.releaseLocalStream.notifyCapacity
  if c.reservedStreams == 0 && c.streams.isEmpty && c.disconnectWhenReady then c.ioClose else c

/-- `Connection::send_reserved_request`. -/
def sendReservedRequest (c : Connection) (r : Request) : Except OperationError Obj × Connection :=
  match c.error with
  | some e => (.error e, c)
  | none =>
      if c.ioClosed then (.error .disconnected, c)
      else
        match c.goAway with
        | some reason => (.error (.connection (.goAway reason)), c)
        | none =>
            match c.openStream r with
            | (.error e, c) => (.error e, c)
            | (.ok o, c) =>
                let c := c.note (0 < c.reservedStreams) .reserved
                (.ok o, { c with reservedStreams := c.reservedStreams - 1 })

/-- `StreamReservation::send`; the reservation is used up in any case. -/
def reservationSend (c : Connection) (r : Request) : Except OperationError Obj × Connection :=
  match c.sendReservedRequest r with
  | (.ok o, c) => (.ok o, { c with reservations := c.reservations - 1 })
  | (.error e, c) =>
      (.error e, { c with reservations := c.reservations - 1 }.releaseReservedStream)

/-- `StreamReservation::drop`. -/
def reservationDrop (c : Connection) : Connection :=
  { c with reservations := c.reservations - 1 }.releaseReservedStream

/-! ## Handles -/

/-- `InflightStorage::inflight`: the handle does not reset the stream. -/
def inflight (c : Connection) (o : Obj) : Connection :=
  c.modify o fun s => { s with noResetOnDrop := true }

/-- `StreamRef::disconnect_on_drop`. -/
def disconnectOnDrop (c : Connection) (o : Obj) : Connection :=
  c.modify o fun s => { s with disconnectOnDrop := true }

/-- `Stream::drop`. -/
def streamDrop (c : Connection) (o : Obj) : Connection :=
  if (c.objs o).noResetOnDrop then c else (c.reset o .cancel).1

/-- The end of `SendStream::drop` and `RecvStream::drop`: the stream is reset, and the
connection is shut down if the handle asks for it. -/
def cancelStream (c : Connection) (o : Obj) : Connection :=
  let c := (c.reset o .cancel).1
  if (c.objs o).disconnectOnDrop then c.startDisconnect else c

/-- `SendStream::drop`. -/
def sendStreamDrop (c : Connection) (o : Obj) : Connection :=
  let c := c.modify o fun s => { s with noResetOnDrop := false }
  if (c.objs o).send.isClosed then c else c.cancelStream o

/-- `RecvStream::drop`, with the drop of the handle in the storage. -/
def recvStreamDrop (c : Connection) (o : Obj) : Connection :=
  let c := if (c.objs o).recv.isClosed then c else c.cancelStream o
  c.streamDrop o

end Connection

end NtexH2
