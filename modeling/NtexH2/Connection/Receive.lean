/-
  Connection/Receive.lean --- received frames (src/connection.rs, `RecvHalfConnection`).
-/
import NtexH2.Connection.Local

set_option autoImplicit false

namespace NtexH2

/-- `EitherError`: an error of the connection, or of one stream. -/
inductive EitherError where
  | connection (e : ConnectionError)
  | stream (o : Obj) (e : StreamError)
  deriving DecidableEq, Repr

/-- The result of a received frame. -/
abbrev Received := Except EitherError (Option (Obj × Message))

namespace Connection

/-- The result of a stream method, for the connection. -/
def lift (o : Obj) : Except StreamError (Option Message) × Connection → Received × Connection
  | (.ok item, c) => (.ok (item.map fun m => (o, m)), c)
  | (.error e, c) => (.error (.stream o e), c)

/-! ## Limits -/

/-- The loop of `update_rst_count`: old history decays. -/
def decay (streamsCount rstCount : Nat) : Nat × Nat :=
  if 1024 ≤ streamsCount then decay (streamsCount >>> 1) (rstCount >>> 1)
  else (streamsCount, rstCount)
termination_by streamsCount
decreasing_by
  rw [Nat.shiftRight_eq_div_pow]
  omega

theorem decay_small {n m : Nat} (h : n < 1024) : decay n m = (n, m) := by
  rw [decay, if_neg (Nat.not_le_of_lt h)]

/-- A stream that the peer opens counts toward the reset ratio. -/
def countStream (c : Connection) : Connection :=
  { c with streamsCount := (c.streamsCount + 1) % 2 ^ 32 }

/-- `ConnectionState::update_rst_count`; both counters are `u32` and wrap. -/
def updateRstCount (c : Connection) : Except ConnectionError Unit × Connection :=
  let d := decay c.streamsCount c.rstCount
  let c := { c with streamsCount := d.1, rstCount := d.2 }
  let count := (d.2 + 1) % 2 ^ 32
  if d.1 ≥ 10 && decide (count ≥ d.1 >>> 1) then (.error .streamResetsLimit, c)
  else (.ok (), { c with rstCount := count })

/-- `ConnectionState::is_used_id`. -/
def isUsedId (c : Connection) (id : StreamId) : Bool :=
  if StreamId.isClientInitiated id == c.server then id ≤ c.lastId else id < c.nextStreamId

/-- `RecvHalfConnection::reset_unknown_stream`. -/
def resetUnknownStream (c : Connection) (id : StreamId) (reason : Reason) :
    Received × Connection :=
  match c.updateRstCount with
  | (.error e, c) => (.error (.connection e), c)
  | (.ok _, c) => (.ok none, (c.encodeCon (.reset id reason)).addPending id)

/-! ## HEADERS -/

/-- The checks of `recv_headers` on a request. -/
def requestError (p : PseudoHeaders) : Option StreamError :=
  let connect := p.method == some (octets "CONNECT")
  if p.method.isNone then some (.missingPseudo "method")
  else if p.protocol.isSome then some (.unexpectedPseudo "protocol")
  else if connect && p.authority.all List.isEmpty then some (.missingPseudo "authority")
  else if connect && p.scheme.isSome then some (.unexpectedPseudo "scheme")
  else if connect && p.path.isSome then some (.unexpectedPseudo "path")
  else if !connect && p.path.all List.isEmpty then some (.missingPseudo "path")
  else if !connect && p.scheme.all List.isEmpty then some (.missingPseudo "scheme")
  else if p.status.isSome then some (.unexpectedPseudo "status")
  else none

/-- A new stream of the peer. -/
def acceptStream (c : Connection) (h : Headers) : Received × Connection :=
  let o := c.created
  let c := c.countStream.insertStream h.streamId true
  let c := { c with activeRemoteStreams := c.activeRemoteStreams + 1 }
  lift o (c.streamRecvHeaders o h)

/-- The part of `recv_headers` for an id that the peer has not used yet. -/
def recvNewHeaders (c : Connection) (h : Headers) : Received × Connection :=
  let c := { c with lastId := h.streamId }
  if c.disconnectWhenReady then
    (.ok none, (c.encodeCon (.reset h.streamId .refusedStream)).addPending h.streamId)
  else if c.config.remoteMaxConcurrentStreams.any (· ≤ c.activeRemoteStreams) then
    c.countStream.resetUnknownStream h.streamId .refusedStream
  else
    match requestError h.pseudo with
    | some err =>
        c.countStream.resetUnknownStream h.streamId err.reason
    | none => c.acceptStream h

/-- The part of `recv_headers` for a stream of the client that is not in its map. -/
def recvClosedHeaders (c : Connection) (id : StreamId) : Received × Connection :=
  if id ≥ c.nextStreamId && c.unknownStreams then
    (.error (.connection (.invalidStreamId
      "Invalid id in received headers frame (idle stream)")), c)
  else
    (.ok none, if c.localPendingReset.isPending id then c
      else c.encodeCon (.reset id .streamClosed))

/-- `RecvHalfConnection::recv_headers`. -/
def recvHeaders (c : Connection) (h : Headers) : Received × Connection :=
  if !StreamId.isClientInitiated h.streamId then
    (.error (.connection (.invalidStreamId "Invalid id in received headers frame")), c)
  else
    match c.query h.streamId with
    | some o => lift o (c.streamRecvHeaders o h)
    | none =>
        if !c.server then c.recvClosedHeaders h.streamId
        else if c.lastId ≥ h.streamId then
          if c.localPendingReset.isPending h.streamId then (.ok none, c)
          else (.error (.connection (.invalidStreamId
            "Invalid id in received headers frame (stream closed or ID reused)")), c)
        else c.recvNewHeaders h

/-! ## Invalid frames -/

/-- The part of `recv_invalid_frame` for a HEADERS frame on an unknown stream. -/
def recvInvalidHeaders (c : Connection) (id : StreamId) (reason : Reason) :
    Received × Connection :=
  if !StreamId.isClientInitiated id then
    (.error (.connection (.invalidStreamId "Invalid id in received headers frame")), c)
  else if !c.server then
    if c.localPendingReset.isPending id then (.ok none, c) else c.resetUnknownStream id reason
  else if c.lastId ≥ id then
    (.error (.connection (.invalidStreamId
      "Invalid id in received headers frame (stream closed or ID reused)")), c)
  else
    { c with lastId := id }.countStream.resetUnknownStream id reason

/-- `RecvHalfConnection::recv_invalid_frame`. -/
def recvInvalidFrame (c : Connection) (f : InvalidFrame) : Received × Connection :=
  match c.query f.streamId with
  | some o =>
      match c.updateRstCount with
      | (.error e, c) => (.error (.connection e), c)
      | (.ok _, c) => (.error (.stream o (.invalidFrame f.error)), c)
  | none =>
      match f.kind with
      | .priority => (.ok none, c)
      | .headers => c.recvInvalidHeaders f.streamId f.error.reason
      | _ => c.resetUnknownStream f.streamId f.error.reason

/-! ## DATA -/

/-- `RecvHalfConnection::recv_data`. -/
def recvData (c : Connection) (d : Data) : Received × Connection :=
  if i32 d.flowLen > c.recvWindow.size then (.error (.connection .recvWindowExceeded), c)
  else
    match c.query d.streamId with
    | some o => lift o (c.streamRecvData o d)
    | none =>
        if c.localPendingReset.isPending d.streamId then
          (.ok none, (c.dataReceived d.flowLen).dataConsumed d.flowLen)
        else if !c.unknownStreams || c.isUsedId d.streamId then
          (.ok none, ((c.dataReceived d.flowLen).dataConsumed d.flowLen).encodeCon
            (.reset d.streamId .streamClosed))
        else (.error (.connection (.unknownStream "Received data")), c)

/-! ## SETTINGS -/

/-- One stream of the loop over a SETTINGS ack; collects the stream errors. -/
def ackStream (upd : Int) (r : List (Obj × StreamError) × Connection) (o : Obj) :
    List (Obj × StreamError) × Connection :=
  match r.2.updateRecvWindow o upd with
  | (.error e, c) => (r.1 ++ [(o, e)], c)
  | (.ok (some val), c) => (r.1, c.encodeWindowUpdate o val)
  | (.ok none, c) => (r.1, c)

/-- `RecvHalfConnection::recv_settings` for an ack: the errors of the streams. -/
def recvSettingsAck (c : Connection) :
    Except ConnectionError (List (Obj × StreamError)) × Connection :=
  if c.settingsProcessed then (.error .unexpectedSettingsAck, c)
  else
    let c := { c with settingsProcessed := true }
    let r := c.values.foldl (ackStream ((c.config.windowSz : Int) - defaultInitialWindowSize))
      ([], c)
    (.ok r.1, r.2)

/-- The limits that a SETTINGS frame sets. -/
def applyLimits (c : Connection) (s : Settings) : Connection :=
  let c := match s.maxHeaderListSize with
    | some max => { c with remoteMaxHeaderListSize := max }
    | none => c
  let c := match s.maxFrameSize with
    | some max => { c with remoteFrameSize := max }
    | none => c
  let first := !c.remoteSettings
  let c := { c with remoteSettings := true }
  if s.maxConcurrentStreams.isSome || first then
    ({ c with
      localMaxConcurrentStreams := s.maxConcurrentStreams }.resolveReadiness .sent).notifyCapacity
  else c

/-- The loop over the streams for a new initial window size; stops at an overflow. -/
def shiftSendWindows (upd : Int) : List Obj → Connection → Bool × Connection
  | [], c => (true, c)
  | o :: os, c =>
      match c.updateSendWindow o upd with
      | (.error _, c) => (false, c)
      | (.ok _, c) => shiftSendWindows upd os c

/-- The new initial window size of a SETTINGS frame. -/
def applyInitialWindow (c : Connection) (s : Settings) : Bool × Connection :=
  match s.initialWindowSize with
  | none => (true, c)
  | some val =>
      let upd : Int := (val : Int) - c.remoteWindowSz
      let c := { c with remoteWindowSz := val }
      if upd = 0 then (true, c) else shiftSendWindows upd c.values c

/-- `RecvHalfConnection::recv_settings` for the settings of the peer. -/
def recvPeerSettings (c : Connection) (s : Settings) : Except ConnectionError Unit × Connection :=
  if s.isPushEnabled = some true && !c.server then (.error .unexpectedEnablePush, c)
  else
    match (c.applyLimits s).applyInitialWindow s with
    | (false, c) => (.error .windowValueOverflow, c)
    | (true, c) => (.ok (), c.encodeCon (.settings .newAck))

/-! ## WINDOW_UPDATE -/

/-- The part of `recv_window_update` for the connection window. -/
def recvConWindowUpdate (c : Connection) (increment : Nat) :
    Except ConnectionError Unit × Connection :=
  if increment = 0 then (.error .zeroWindowUpdateValue, c)
  else
    match c.sendWindow.inc (i32 increment) with
    | none => (.error .windowValueOverflow, c)
    | some window =>
        let original := c.sendWindow.windowSize
        let c := { c with sendWindow := window }
        (.ok (), if original = 0 then c.values.foldl wakeCapacityWaiter c else c)

/-- `RecvHalfConnection::recv_window_update`. -/
def recvWindowUpdate (c : Connection) (id : StreamId) (increment : Nat) : Received × Connection :=
  if StreamId.isZero id then
    match c.recvConWindowUpdate increment with
    | (.error e, c) => (.error (.connection e), c)
    | (.ok _, c) => (.ok none, c)
  else
    match c.query id with
    | some o =>
        match c.streamRecvWindowUpdate o increment with
        | (.error e, c) => (.error (.stream o e), c)
        | (.ok _, c) => (.ok none, c)
    | none =>
        if c.localPendingReset.isPending id || c.isUsedId id then (.ok none, c)
        else if c.unknownStreams then
          (.error (.connection (.unknownStream "WINDOW_UPDATE")), c)
        else (.ok none, c.encodeCon (.reset id .streamClosed))

/-! ## RST_STREAM and GOAWAY -/

/-- `RecvHalfConnection::recv_rst_stream`. -/
def recvRstStream (c : Connection) (id : StreamId) (reason : Reason) : Received × Connection :=
  if StreamId.isZero id then (.error (.connection (.unknownStream "RST_STREAM-zero")), c)
  else
    match c.query id with
    | some o =>
        let complete := !(c.objs o).remote && (c.objs o).recv.isClosed && reason == .noError
        let c := c.remoteResetStream o reason
        if complete then (.ok none, c)
        else
          match c.updateRstCount with
          | (.error e, c) => (.error (.connection e), c)
          | (.ok _, c) => (.error (.stream o (.reset reason)), c)
    | none =>
        match c.localPendingReset.remove id with
        | (p, true) =>
            match { c with localPendingReset := p }.updateRstCount with
            | (.error e, c) => (.error (.connection e), c)
            | (.ok _, c) => (.ok none, c)
        | (_, false) => (.ok none, c)

/-- `RecvHalfConnection::recv_go_away`. -/
def recvGoAway (c : Connection) (reason : Reason) (lastStreamId : StreamId) : Connection :=
  let c := { c with goAway := some reason }
  let streams := c.streams.filter fun e => !(c.objs e.2).remote && decide (lastStreamId < e.1)
  let c := streams.foldl (fun c e => c.remoteResetStream e.2 reason) c
  c.startDisconnect.notifyCapacity

/-! ## Failures -/

/-- `RecvHalfConnection::take_streams`. -/
def takeStreams (c : Connection) : Connection :=
  { c with
    streams := []
    activeRemoteStreams := 0
    activeLocalStreams := c.reservedStreams }

/-- The connection fails: no stream is left in the map, and all of them fail. -/
def failStreams (c : Connection) (err : OperationError) : Connection :=
  let os := c.values
  os.foldl (fun c o => c.setFailedStream o err) c.clearReadiness.takeStreams

/-- `RecvHalfConnection::timeout`. -/
def timeout (c : Connection) (err : ConnectionError) (reason : Reason) : Connection :=
  let c := { c.push (.failed err) with
    error := some (.connection err) }.failStreams (.connection err)
  ((c.encodeCon (.goAway c.lastId reason [])).ioClose).notifyCapacity

/-- `RecvHalfConnection::proto_error`. -/
def protoError (c : Connection) (err : ConnectionError) : Connection :=
  ({ c.push (.failed err) with
    error := some (.connection err) }.failStreams (.connection err)).notifyCapacity

/-- `RecvHalfConnection::disconnect`. -/
def disconnect (c : Connection) : Connection :=
  let empty := c.streams.isEmpty
  let c := { c with error := some (c.error.getD .disconnected) }.failStreams .disconnected
  let c := if !empty && c.reservedStreams == 0 && c.disconnectWhenReady then c.ioClose else c
  c.notifyCapacity

end Connection

end NtexH2
