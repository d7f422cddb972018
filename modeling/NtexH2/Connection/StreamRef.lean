/-
  Connection/StreamRef.lean --- receiving and sending on a stream (src/stream.rs).

  `send_pages` suspends while the io is under write back-pressure and while no
  send capacity is left.  Between two suspensions nothing else runs, so a poll of
  the call is one function; what the io answers during it is a parameter.
-/
import NtexH2.Connection.Stream

set_option autoImplicit false

namespace NtexH2

/-- `Message`; the `Capacity` of a payload is the last one of `caps`. -/
inductive Message where
  | headers (pseudo : PseudoHeaders) (fields : HeaderMap) (eof : Bool)
  | data (payload : Bytes)
  | eofData (payload : Bytes)
  | trailers (fields : HeaderMap)
  | error (e : StreamError)
  | disconnect (e : OperationError)
  deriving DecidableEq, Repr

namespace Connection

/-! ## New streams -/

/-- `StreamRef::new`. -/
def newStream (c : Connection) (id : StreamId) (remote : Bool) : Stream where
  id := id
  remote := remote
  contentLength := .omitted
  recv := .idle
  recvWindow := ⟨if c.settingsProcessed then c.config.windowSz else defaultInitialWindowSize⟩
  recvSize := 0
  send := .idle
  sendWindow := ⟨c.remoteWindowSz⟩
  sendCap := false
  error := none
  localClose := none
  failed := false
  disconnectOnDrop := false
  waitForCapacity := false
  noResetOnDrop := false
  capacityTimer := false

/-- A new stream object, in the map. -/
def insertStream (c : Connection) (id : StreamId) (remote : Bool) : Connection :=
  { c with
    created := c.created + 1
    objs := fun p => if p = c.created then c.newStream id remote else c.objs p
    streams := (id, c.created) :: c.streams.eraseP (·.1 == id) }

/-! ## Errors and resets -/

/-- `StreamRef::reset_silent`. -/
def resetSilent (c : Connection) (o : Obj) (reason : Reason) : Connection × Bool :=
  if !(c.objs o).recv.isClosed || !(c.objs o).send.isClosed then
    ((c.encode o .resetSilent (.reset (c.objs o).id reason)).resetStream o (some reason), true)
  else (c, false)

/-- `StreamRef::reset_with`. -/
def resetWith (c : Connection) (o : Obj) (reason : Reason) (err : StreamError) :
    Connection × Bool :=
  let recvOpen := !(c.objs o).recv.isClosed
  match c.resetSilent o reason with
  | (c, true) =>
      (if recvOpen then c.modify o fun s => { s with localClose := some err } else c, true)
  | (c, false) => (c, false)

/-- `StreamRef::reset`. -/
def reset (c : Connection) (o : Obj) (reason : Reason) : Connection × Bool :=
  c.resetWith o reason (.localReset reason)

/-- `StreamRef::take_local_close`. -/
def takeLocalClose (c : Connection) (o : Obj) : Connection :=
  c.modify o fun s => { s with localClose := none }

/-! ## Receiving -/

/-- The checks of `StreamRef::recv_headers` on a response. -/
def responseError (h : Headers) : Option StreamError :=
  match h.pseudo.status with
  | none => some (.missingPseudo "status")
  | some status =>
      if h.pseudo.method.isSome then some (.unexpectedPseudo "method")
      else if h.pseudo.scheme.isSome then some (.unexpectedPseudo "scheme")
      else if h.pseudo.authority.isSome then some (.unexpectedPseudo "authority")
      else if h.pseudo.path.isSome then some (.unexpectedPseudo "path")
      else if h.pseudo.protocol.isSome then some (.unexpectedPseudo "protocol")
      else if isInformational status && (h.endStream || status == 101) then
        some .invalidInformational
      else none

/-- The content-length that the first headers announce. -/
def announcedLength (cl : ContentLength) (h : Headers) : Except StreamError ContentLength :=
  if cl = .head then .ok cl
  else
    match HeaderMap.get h.fields (octets "content-length") with
    | none => .ok cl
    | some value =>
        match parseU64 value with
        | none => .error .invalidContentLength
        | some v =>
            if h.endStream && v != 0 && h.pseudo.status != some 304 then
              .error .wrongPayloadLength
            else .ok (.remaining v)

/-- The first headers of a stream, past the checks of a response. -/
def recvFirstHeaders (c : Connection) (o : Obj) (h : Headers) :
    Except StreamError (Option Message) × Connection :=
  match announcedLength (c.objs o).contentLength h with
  | .error e => (.error e, c)
  | .ok cl =>
      let c := c.modify o fun s => { s with contentLength := cl }
      let c := if h.endStream then c.stateRecvClose o none else c.stateRecvPayload o
      (.ok (some (.headers h.pseudo h.fields h.endStream)), c)

/-- The trailers of a stream. -/
def recvTrailers (c : Connection) (o : Obj) (h : Headers) :
    Except StreamError (Option Message) × Connection :=
  match (c.objs o).contentLength with
  | .remaining (_ + 1) => (.error .wrongPayloadLength, c)
  | _ =>
      match h.pseudo.pseudoName with
      | some name => (.error (.unexpectedPseudo name), c)
      | none =>
          if h.endStream then (.ok (some (.trailers h.fields)), c.stateRecvClose o none)
          else (.error .trailersWithoutEos, c)

/-- `StreamRef::recv_headers`. -/
def streamRecvHeaders (c : Connection) (o : Obj) (h : Headers) :
    Except StreamError (Option Message) × Connection :=
  match (c.objs o).recv with
  | .idle =>
      if (c.objs o).remote then c.recvFirstHeaders o h
      else
        match responseError h with
        | some e => (.error e, c)
        | none =>
            -- an interim response leaves the stream idle
            if h.pseudo.status.any isInformational then
              (.ok (some (.headers h.pseudo h.fields false)), c)
            else c.recvFirstHeaders o h
  | .payload => c.recvTrailers o h
  | .closed _ => (.error .closed, c)

/-- The check of a payload against the content-length. -/
def countPayload (cl : ContentLength) (len : Nat) (eof : Bool) :
    Except StreamError Unit × ContentLength :=
  match cl with
  | .remaining rem =>
      if len ≤ rem then
        (if eof && rem - len != 0 then .error .wrongPayloadLength else .ok (),
          .remaining (rem - len))
      else (.error .wrongPayloadLength, cl)
  | .head => (if len != 0 then .error .nonEmptyPayload else .ok (), cl)
  | .omitted => (.ok (), cl)

/-- The part of `StreamRef::recv_data` after the windows are charged; the capacity of
the payload is the value `i`, and is dropped on an error. -/
def recvPayload (c : Connection) (o : Obj) (d : Data) (i : Nat) :
    Except StreamError (Option Message) × Connection :=
  match (c.objs o).recv with
  | .payload =>
      let r := countPayload (c.objs o).contentLength d.payload.length d.endStream
      let c := c.modify o fun s => { s with contentLength := r.2 }
      match r.1 with
      | .error e => (.error e, c.dropCapacity i)
      | .ok _ =>
          (.ok (some (if d.endStream then .eofData d.payload else .data d.payload)),
            if d.endStream then c.stateRecvClose o none else c)
  | .idle => (.error (.idle "DATA framed received"), c.dropCapacity i)
  | .closed _ => (.error .closed, c.dropCapacity i)

/-- `StreamRef::recv_data`. -/
def streamRecvData (c : Connection) (o : Obj) (d : Data) :
    Except StreamError (Option Message) × Connection :=
  if i32 d.flowLen > (c.objs o).recvWindow.size then
    (.error .recvWindowExceeded, (c.dataReceived d.flowLen).dataConsumed d.flowLen)
  else
    let i := c.caps.length
    let c := c.newCapacity o d.flowLen
    let c := if d.flowLen > d.payload.length then c.consume i (d.flowLen - d.payload.length)
      else c
    c.recvPayload o d i

/-- `StreamRef::available_send_capacity`. -/
def availableSendCapacity (c : Connection) (o : Obj) : Nat :=
  min (c.objs o).sendWindow.windowSize c.sendWindow.windowSize

/-- `StreamRef::wake_capacity_waiter`. -/
def wakeCapacityWaiter (c : Connection) (o : Obj) : Connection :=
  if (c.objs o).waitForCapacity && decide (0 < c.availableSendCapacity o) then
    (c.modify o fun s => { s with sendCap := false }).stopCapacityTimer o
  else c

/-- `StreamRef::recv_window_update`. -/
def streamRecvWindowUpdate (c : Connection) (o : Obj) (increment : Nat) :
    Except StreamError Unit × Connection :=
  if increment = 0 then (.error .windowZeroUpdateValue, c)
  else
    match (c.objs o).sendWindow.inc (i32 increment) with
    | none => (.error .windowOverflowed, c)
    | some window =>
        (.ok (), (c.modify o fun s => { s with sendWindow := window }).wakeCapacityWaiter o)

/-- `StreamRef::update_send_window`. -/
def updateSendWindow (c : Connection) (o : Obj) (upd : Int) :
    Except StreamError Unit × Connection :=
  if upd < 0 then
    let c := c.note ((c.objs o).sendWindow.DecSafe upd.natAbs) .sendWindow
    (.ok (), (c.modify o fun s =>
      { s with sendWindow := s.sendWindow.dec upd.natAbs }).wakeCapacityWaiter o)
  else if upd > 0 then
    match (c.objs o).sendWindow.inc upd with
    | none => (.error .windowOverflowed, c)
    | some window =>
        (.ok (), (c.modify o fun s => { s with sendWindow := window }).wakeCapacityWaiter o)
  else (.ok (), c)

/-- The window of `StreamRef::update_recv_window` after the difference is applied. -/
def shiftRecvWindow (w : Window) (upd : Int) : Except StreamError Window :=
  if upd < 0 then .ok (w.dec upd.natAbs)
  else
    match w.inc upd with
    | some w => .ok w
    | none => .error .windowOverflowed

/-- `StreamRef::update_recv_window`. -/
def updateRecvWindow (c : Connection) (o : Obj) (upd : Int) :
    Except StreamError (Option Nat) × Connection :=
  if (c.objs o).recv.isClosed || upd == 0 then (.ok none, c)
  else
    match shiftRecvWindow (c.objs o).recvWindow upd with
    | .error e => (.error e, c)
    | .ok w =>
        let c := c.note (!decide (upd < 0) || (c.objs o).recvWindow.DecSafe upd.natAbs) .recvWindow
        let c := c.note (w.UpdateSafe (c.objs o).recvSize c.config.windowSz) .recvWindow
        let r := w.update (c.objs o).recvSize c.config.windowSz c.config.windowSzThreshold
        (.ok r.2, c.modify o fun s => { s with recvWindow := r.1 })

/-! ## Sending headers -/

/-- `Connection::check_header_list_size`. -/
def checkHeaderListSize (c : Connection) (p : PseudoHeaders) (fields : HeaderMap) :
    Except OperationError Unit :=
  if p.headerListSize fields > c.remoteMaxHeaderListSize then
    .error (.headerListTooLarge (p.headerListSize fields) c.remoteMaxHeaderListSize)
  else .ok ()

/-- `StreamRef::send_headers`. -/
def sendHeaders (c : Connection) (o : Obj) (h : Headers) : Connection :=
  let c := if h.endStream then c.stateSendClose o none else c.stateSendPayload o
  let c := if h.pseudo.method = some (octets "HEAD") then
      c.modify o fun s => { s with contentLength := .head }
    else c
  c.encode o .sendHeaders (.headers h)

/-- The guards of `send_informational` and `send_response`: the stream has no error and
its send half is idle. -/
def checkSendIdle (s : Stream) : Except OperationError Unit :=
  match s.error with
  | some e => .error e
  | none =>
      match s.send with
      | .idle => .ok ()
      | .payload => .error .payload
      | .closed r => .error (.closed r)

/-- `StreamRef::send_informational`; another status panics. -/
def sendInformational (c : Connection) (o : Obj) (status : Nat) (fields : HeaderMap) :
    Except OperationError Unit × Connection :=
  match checkSendIdle (c.objs o) with
  | .error e => (.error e, c)
  | .ok _ =>
      match c.checkHeaderListSize (.response status) fields with
      | .error e => (.error e, c)
      | .ok _ => (.ok (), c.encode o .sendInformational
          (.headers ⟨(c.objs o).id, .response status, fields, false⟩))

/-- `StreamRef::send_response`. -/
def sendResponse (c : Connection) (o : Obj) (status : Nat) (fields : HeaderMap) (eof : Bool) :
    Except OperationError Unit × Connection :=
  match checkSendIdle (c.objs o) with
  | .error e => (.error e, c)
  | .ok _ =>
      match c.checkHeaderListSize (.response status) fields with
      | .error e => (.error e, c)
      | .ok _ =>
          let id := (c.objs o).id
          let c := if eof then c.stateSendClose o none else c.stateSendPayload o
          (.ok (), c.encode o .sendResponse (.headers ⟨id, .response status, fields, eof⟩))

/-- `StreamRef::send_trailers`. -/
def sendTrailers (c : Connection) (o : Obj) (fields : HeaderMap) :
    Except OperationError Unit × Connection :=
  if (c.objs o).send = .payload then
    match c.checkHeaderListSize .empty fields with
    | .error e => (.error e, c)
    | .ok _ => (.ok (), (c.encode o .sendTrailers
        (.headers ⟨(c.objs o).id, .empty, fields, true⟩)).stateSendClose o none)
  else (.ok (), c)

/-! ## Waiting for capacity -/

/-- `StreamRef::cancel_capacity_wait`. -/
def cancelCapacityWait (c : Connection) (o : Obj) : Connection :=
  (c.modify o fun s => { s with waitForCapacity := false }).stopCapacityTimer o

/-- `StreamRef::register_send_waker`. -/
def registerSendWaker (c : Connection) (o : Obj) : Connection :=
  c.modify o fun s => { s with sendCap := true }

/-- `StreamRef::start_capacity_timer`. -/
def startCapacityTimer (c : Connection) (o : Obj) : Connection :=
  if c.config.capacityTimeout.isSome then c.modify o fun s => { s with capacityTimer := true }
  else c

/-- The errors a suspended sender looks at: those of the stream, those of the
connection, a closed send half. -/
def senderError (c : Connection) (o : Obj) : Option OperationError :=
  match (c.objs o).error with
  | some e => some e
  | none =>
      match c.error with
      | some e => some e
      | none =>
          match (c.objs o).send with
          | .closed r => some (.closed r)
          | _ => none

/-- The result of polling a future. -/
inductive Poll (α : Type) where
  | ready (a : α)
  | pending
  deriving DecidableEq, Repr

/-- `StreamRef::poll_send_capacity`. -/
def pollSendCapacity (c : Connection) (o : Obj) :
    Poll (Except OperationError Nat) × Connection :=
  match c.senderError o with
  | some e => (.ready (.error e), c.cancelCapacityWait o)
  | none =>
      if 0 < c.availableSendCapacity o then
        (.ready (.ok (c.availableSendCapacity o)), c.cancelCapacityWait o)
      else
        (.pending, ((c.registerSendWaker o).modify o fun s =>
          { s with waitForCapacity := true }).startCapacityTimer o)

/-- What `IoRef::write_ready` answers to a poll. -/
inductive IoReady where
  | ready
  | failed
  | pending
  deriving DecidableEq, Repr

/-- What the io does during one round of `send_pages`: whether it is under write
back-pressure, and then what `write_ready` answers; whether it takes the frame. -/
structure IoTurn where
  pressure : Option IoReady
  writes : Bool
  deriving DecidableEq, Repr

/-- A poll of `StreamRef::write_ready`. -/
def writeReady (c : Connection) (o : Obj) (r : IoReady) :
    Poll (Except OperationError Unit) × Connection :=
  match c.senderError o with
  | some e => (.ready (.error e), c)
  | none =>
      match r with
      | .ready => (.ready (.ok ()), c.registerSendWaker o)
      | .failed => (.ready (.error .disconnected), c.registerSendWaker o)
      | .pending => (.pending, c.registerSendWaker o)

/-- `StreamRef::capacity_timeout`. -/
def capacityTimeout (c : Connection) (o : Obj) : Connection :=
  let c := c.modify o fun s => { s with capacityTimer := false }
  if !(c.objs o).waitForCapacity || (c.objs o).send.isClosed ||
      decide (0 < c.availableSendCapacity o) then c
  else
    let c := (c.resetWith o .cancel .capacityTimeout).1
    let c := c.failed o (.stream .capacityTimeout)
    c.dropStream (c.objs o).id

end Connection

/-! ## Payload data -/

namespace StreamData

/-- `StreamData::len`. -/
def len : StreamData → Nat
  | .bytes b => b.length
  | .pages l => (l.map List.length).sum

/-- `StreamData::is_empty`. -/
def isEmpty (d : StreamData) : Bool := d.len == 0

/-- The octets. -/
def octets : StreamData → Bytes
  | .bytes b => b
  | .pages l => l.flatten

/-- The loop of `StreamData::encode` over the pages: what is written, and what is left. -/
def takePages : Nat → List Bytes → Bytes × List Bytes
  | _, [] => ([], [])
  | size, page :: rest =>
      let len := min size page.length
      if page.length = len then
        let r := takePages (size - len) rest
        (page ++ r.1, r.2)
      else (page.take len, page.drop len :: rest)

/-- `StreamData::encode`: the octets behind the frame head, what is left, and whether
that is nothing. -/
def encode (d : StreamData) (size : Nat) : Bytes × StreamData × Bool :=
  if size ≥ d.len then
    match d with
    | .bytes b => (b, .bytes [], true)
    | .pages l => (l.flatten, .pages [], true)
  else
    match d with
    | .bytes b => (b.take size, .bytes (b.drop size), false)
    | .pages l => ((takePages size l).1, .pages (takePages size l).2, false)

end StreamData

/-! ## Sending payload -/

namespace Connection

/-- The result of a poll of `send_pages`. -/
inductive SendPoll where
  | ready (r : Except OperationError Unit)
  | suspended (s : Sender)

/-- A DATA frame of `send_pages`: the frame, then the end of the stream, then the
windows. -/
def sendChunk (c : Connection) (o : Obj) (payload : Bytes) (size : Nat) (last : Bool) :
    Connection :=
  let c := c.note ((size : Int) ≤ (c.objs o).sendWindow.size ∧
    (size : Int) ≤ c.sendWindow.size ∧ size ≤ c.remoteFrameSize) .overrun
  let c := c.encode o .sendPages (.data ⟨(c.objs o).id, payload, size, last⟩)
  let c := if last then c.stateSendClose o none else c
  let c := c.note ((c.objs o).sendWindow.DecSafe size) .sendWindow
  let c := c.modify o fun s => { s with sendWindow := s.sendWindow.dec size }
  let c := c.note (c.sendWindow.DecSafe size) .sendWindow
  { c with sendWindow := c.sendWindow.dec size }

/-- The size of the next DATA frame. -/
def chunkSize (c : Connection) (o : Obj) (data : StreamData) : Nat :=
  min (c.availableSendCapacity o) (min data.len c.remoteFrameSize)

/-- A round of `send_pages`, once the io is ready; `next` is the following round. -/
def pagesTurn (turn : IoTurn) (o : Obj) (eof : Bool)
    (next : Connection → StreamData → SendPoll × Connection) (c : Connection)
    (data : StreamData) : SendPoll × Connection :=
  if 0 < c.availableSendCapacity o then
    if turn.writes then
      let size := c.chunkSize o data
      let r := data.encode size
      let c := c.sendChunk o r.1 size (eof && r.2.2)
      if r.2.2 then (.ready (.ok ()), c) else next c r.2.1
    else (.ready (.error .disconnected), c)
  else
    match c.pollSendCapacity o with
    | (.ready (.error e), c) => (.ready (.error e), c)
    | (.ready (.ok _), c) => next c data
    | (.pending, c) => (.suspended ⟨o, data, eof, .capacity⟩, c)

/-- The loop of `send_pages` from its round `k` on; `fuel` bounds the rounds, and each
of them but the last takes at least one octet. -/
def pagesLoop (io : Nat → IoTurn) (o : Obj) (eof : Bool) :
    Nat → Nat → Connection → StreamData → SendPoll × Connection
  | 0, _, c, data => (.suspended ⟨o, data, eof, .writeReady⟩, c)
  | fuel + 1, k, c, data =>
      match (io k).pressure with
      | none => pagesTurn (io k) o eof (pagesLoop io o eof fuel (k + 1)) c data
      | some r =>
          match c.writeReady o r with
          | (.ready (.error e), c) => (.ready (.error e), c)
          | (.ready (.ok _), c) => pagesTurn (io k) o eof (pagesLoop io o eof fuel (k + 1)) c data
          | (.pending, c) => (.suspended ⟨o, data, eof, .writeReady⟩, c)

/-- The first poll of `StreamRef::send_pages`. -/
def sendPages (io : Nat → IoTurn) (c : Connection) (o : Obj) (data : StreamData) (eof : Bool) :
    SendPoll × Connection :=
  match (c.objs o).send with
  | .idle => (.ready (.error .idle), c)
  | .closed r => (.ready (.error (.closed r)), c)
  | .payload =>
      match (c.objs o).error with
      | some e => (.ready (.error e), c)
      | none =>
          if data.isEmpty then
            if eof then
              let id := (c.objs o).id
              (.ready (.ok ()), (c.stateSendClose o none).encode o .sendPages
                (.data ⟨id, [], 0, true⟩))
            else (.ready (.ok ()), c)
          else pagesLoop io o eof (data.len + 1) 0 c data

/-- A later poll of `StreamRef::send_pages`; `r` is what `write_ready` answers. -/
def pollSender (io : Nat → IoTurn) (r : IoReady) (c : Connection) (s : Sender) :
    SendPoll × Connection :=
  match s.await with
  | .writeReady =>
      match c.writeReady s.stream r with
      | (.ready (.error e), c) => (.ready (.error e), c)
      | (.ready (.ok _), c) =>
          pagesTurn (io 0) s.stream s.eof (pagesLoop io s.stream s.eof s.data.len 1) c s.data
      | (.pending, c) => (.suspended s, c)
  | .capacity =>
      match c.pollSendCapacity s.stream with
      | (.ready (.error e), c) => (.ready (.error e), c)
      | (.ready (.ok _), c) => pagesLoop io s.stream s.eof (s.data.len + 1) 0 c s.data
      | (.pending, c) => (.suspended s, c)

end Connection

end NtexH2
