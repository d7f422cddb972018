/-
  Connection/State.lean --- the state of a connection (src/connection.rs,
  src/stream.rs, src/config.rs).

  Stream objects are shared: the map, the handles of the application and every
  `Capacity` hold a reference.  An object is a number, `objs` gives its cells, and
  the objects below `created` exist.  An object stays when the map forgets it.

  The state also holds what lives outside of the connection but belongs to its
  runs: live `Capacity` values, live reservations, `send_pages` calls that are
  suspended, requests that wait for a stream slot, and the stream errors of a
  SETTINGS ack that the dispatcher has not handled yet.  `log` is the history of
  the run, newest event first.
-/
import NtexH2.Frame
import NtexH2.Window

set_option autoImplicit false

namespace NtexH2

/-! ## Configuration -/

/-- `ServiceConfig`, as far as a connection reads it.  The thresholds are computed
by a floating-point division; here they are any value that fits an `i32`. -/
structure ServiceConfig where
  settings : Settings
  windowSz : Nat
  windowSzThreshold : Nat
  resetDuration : Nat
  resetMax : Nat
  connectionWindowSz : Nat
  connectionWindowSzThreshold : Nat
  remoteMaxConcurrentStreams : Option Nat
  capacityTimeout : Option Nat
  windowSz_lt : windowSz < 2 ^ 31
  windowSzThreshold_lt : windowSzThreshold < 2 ^ 31
  connectionWindowSz_lt : connectionWindowSz < 2 ^ 31
  connectionWindowSzThreshold_lt : connectionWindowSzThreshold < 2 ^ 31
  /-- `set_initial_window_size` sets both; without it there is no setting. -/
  settings_window : settings.initialWindowSize = some windowSz ∨
    settings.initialWindowSize = none ∧ windowSz = defaultInitialWindowSize
  settings_ack : settings.ack = false
  settings_maxFrameSize : ∀ v ∈ settings.maxFrameSize, defaultMaxFrameSize ≤ v ∧ v < 2 ^ 24

namespace ServiceConfig

/-- `ServiceConfig::new`. -/
def new : ServiceConfig where
  settings :=
    { ack := false
      headerTableSize := none
      enablePush := some 0
      maxConcurrentStreams := some 256
      initialWindowSize := none
      maxFrameSize := none
      maxHeaderListSize := some (48 * 1024)
      enableConnectProtocol := none }
  windowSz := defaultInitialWindowSize
  windowSzThreshold := 21845
  resetDuration := 30
  resetMax := 32
  connectionWindowSz := 4194304
  connectionWindowSzThreshold := 1048576
  remoteMaxConcurrentStreams := some 256
  capacityTimeout := some 5
  windowSz_lt := by decide
  windowSzThreshold_lt := by decide
  connectionWindowSz_lt := by decide
  connectionWindowSzThreshold_lt := by decide
  settings_window := .inr ⟨rfl, rfl⟩
  settings_ack := rfl
  settings_maxFrameSize := fun _ h => by cases h

/-- `ServiceConfig::set_initial_window_size`; `threshold` is a third of the size. -/
def setInitialWindowSize (cfg : ServiceConfig) (size threshold : Nat) (hs : size < 2 ^ 31)
    (ht : threshold < 2 ^ 31) : ServiceConfig :=
  { cfg with
    settings := { cfg.settings with initialWindowSize := some size }
    windowSz := size
    windowSzThreshold := threshold
    windowSz_lt := hs
    windowSzThreshold_lt := ht
    settings_window := .inl rfl }

end ServiceConfig

/-! ## Streams -/

/-- `HalfState`. -/
inductive HalfState where
  | idle
  | payload
  | closed (reason : Option Reason)
  deriving DecidableEq, Repr

/-- `HalfState::is_closed`. -/
def HalfState.isClosed : HalfState → Bool
  | .closed _ => true
  | _ => false

/-- `ContentLength`. -/
inductive ContentLength where
  | omitted
  | head
  | remaining (n : Nat)
  deriving DecidableEq, Repr

/-- `StreamState` with its `StreamFlags`; `sendCap` says that a waker is registered
and not woken. -/
structure Stream where
  id : StreamId
  remote : Bool
  contentLength : ContentLength
  recv : HalfState
  recvWindow : Window
  recvSize : Nat
  send : HalfState
  sendWindow : Window
  sendCap : Bool
  error : Option OperationError
  localClose : Option StreamError
  failed : Bool
  disconnectOnDrop : Bool
  waitForCapacity : Bool
  noResetOnDrop : Bool
  capacityTimer : Bool
  deriving DecidableEq, Repr

/-- A stream object. -/
abbrev Obj := Nat

/-! ## History -/

/-- The function that writes a frame. -/
inductive Writer where
  | sendInformational
  | sendHeaders
  | sendResponse
  | sendPages
  | sendTrailers
  | resetSilent
  | windowUpdate
  | connection
  deriving DecidableEq, Repr

/-- What happened, in the order of the run.  `sent` names the object whose code wrote
the frame, `received` the object the connection had in its map for the frame;
`failed` and `streamFailed` are the errors the dispatcher answers a frame with. -/
inductive Event where
  | sent (obj : Option Obj) (writer : Writer) (frame : Frame)
  | received (obj : Option Obj) (frame : Frame)
  | failed (e : ConnectionError)
  | streamFailed (obj : Obj) (e : StreamError)
  | close
  deriving DecidableEq, Repr

/-- What a run must never do.  The first six are computations that leave the range of
their type, where a debug build panics, and counters that are decremented at zero; then
DATA beyond a limit of the peer, and WINDOW_UPDATE for a closed receive half. -/
inductive Anomaly where
  | recvSize
  | recvWindow
  | sendWindow
  | activeRemote
  | activeLocal
  | reserved
  | overrun
  | closedWindow
  deriving DecidableEq, Repr

/-! ## The world of a connection -/

/-- `Capacity`. -/
structure Capacity where
  stream : Obj
  size : Nat
  deriving DecidableEq, Repr

/-- `StreamData`: one buffer, or a list of pages. -/
inductive StreamData where
  | bytes (b : Bytes)
  | pages (l : List Bytes)
  deriving DecidableEq, Repr

/-- Where a `send_pages` call is suspended. -/
inductive Await where
  | writeReady
  | capacity
  deriving DecidableEq, Repr

/-- A suspended `send_pages` call. -/
structure Sender where
  stream : Obj
  data : StreamData
  eof : Bool
  await : Await
  deriving DecidableEq, Repr

/-- The channel of a request that waits for a stream slot. -/
inductive Signal where
  | pending
  | sent
  | dropped
  deriving DecidableEq, Repr

/-- `PendingInner`. -/
structure Pending where
  ids : List StreamId
  queue : List (StreamId × Nat)
  deriving DecidableEq, Repr

/-! ## The connection -/

/-- `ConnectionState` with its `ConnectionFlags`, the io and the world around it. -/
structure Connection where
  config : ServiceConfig
  -- the io
  ioClosed : Bool
  -- windows
  sendWindow : Window
  recvWindow : Window
  recvSize : Nat
  -- streams
  nextStreamId : StreamId
  created : Nat
  objs : Obj → Stream
  streams : List (StreamId × Obj)
  activeRemoteStreams : Nat
  activeLocalStreams : Nat
  reservedStreams : Nat
  readiness : List Nat
  capacityCalls : Nat
  rstCount : Nat
  streamsCount : Nat
  lastId : StreamId
  -- the peer
  localMaxConcurrentStreams : Option Nat
  remoteWindowSz : Nat
  remoteFrameSize : Nat
  remoteMaxHeaderListSize : Nat
  localPendingReset : Pending
  error : Option OperationError
  goAway : Option Reason
  -- flags
  server : Bool
  settingsProcessed : Bool
  unknownStreams : Bool
  disconnectWhenReady : Bool
  secure : Bool
  settingsTimeout : Bool
  remoteSettings : Bool
  -- the world
  now : Nat
  caps : List Capacity
  reservations : Nat
  senders : List Sender
  waiters : List (Nat × Signal)
  waiterCount : Nat
  ackErrors : List (Obj × StreamError)
  -- history
  log : List Event
  anomalies : List Anomaly

namespace Connection

/-- A new event. -/
def push (c : Connection) (e : Event) : Connection := { c with log := e :: c.log }

/-- Records an anomaly unless `ok`. -/
def note (c : Connection) (ok : Bool) (a : Anomaly) : Connection :=
  if ok then c else { c with anomalies := a :: c.anomalies }

/-- A frame handed to the io by the code of a stream. -/
def encode (c : Connection) (o : Obj) (w : Writer) (f : Frame) : Connection :=
  c.push (.sent (some o) w f)

/-- `Connection::encode`, `RecvHalfConnection::encode`: a frame written by the
connection itself. -/
def encodeCon (c : Connection) (f : Frame) : Connection := c.push (.sent none .connection f)

/-- `IoRef::close`.  One flag stands for the call and for `IoRef::is_closed`, which turns true only
when what was written before the call has left; in between, a connection of the source takes the
branches of an open io and the io drops what it is handed. -/
def ioClose (c : Connection) : Connection := { c with ioClosed := true }.push .close

/-- A change of the cells of an object. -/
def modify (c : Connection) (o : Obj) (f : Stream → Stream) : Connection :=
  { c with objs := fun p => if p = o then f (c.objs p) else c.objs p }

/-- `RecvHalfConnection::query`. -/
def query (c : Connection) (id : StreamId) : Option Obj :=
  (c.streams.find? (·.1 == id)).map (·.2)

/-- The objects of the map. -/
def values (c : Connection) : List Obj := c.streams.map (·.2)

end Connection

end NtexH2
