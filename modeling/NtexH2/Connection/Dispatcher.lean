/-
  Connection/Dispatcher.lean --- the runs of a connection (src/dispatcher.rs).

  A step is one stretch of code that runs without suspension: a frame handed to
  the dispatcher, a call of the application, a poll of a suspended call, a timer.
  The handlers of the application are not part of the connection; what they do are
  steps of their own, in any order.
-/
import NtexH2.Connection.Receive

set_option autoImplicit false

namespace NtexH2

/-- The stream a frame is about. -/
def Frame.streamId : Frame → Option StreamId
  | .data d => some d.streamId
  | .headers h => some h.streamId
  | .windowUpdate id _ => some id
  | .reset id _ => some id
  | .priority id => some id
  | .invalid f => some f.streamId
  | .settings _ | .ping _ _ | .goAway _ _ _ => none

namespace Connection

/-- `Dispatcher::handle_message`, up to the call of the service. -/
def handleMessage : Received × Connection → Connection
  | (.ok _, c) => c
  | (.error (.connection e), c) => c.protoError e
  | (.error (.stream o (.reset r)), c) =>
      (c.push (.streamFailed o (.reset r))).setFailedStream o (.stream (.reset r))
  | (.error (.stream o e), c) => ((c.push (.streamFailed o e)).resetSilent o e.reason).1

/-- The loop of `Dispatcher::call` over the stream errors of a SETTINGS ack, up to the
next call of the service. -/
def handleAckErrors (c : Connection) : List (Obj × StreamError) → Connection
  | [] => c
  | (o, e) :: errs =>
      let c := (c.push (.streamFailed o e)).setFailedStream o (.stream e)
      { c.encodeCon (.reset (c.objs o).id e.reason) with ackErrors := errs }

/-- `RecvHalfConnection::check_first_frame`. -/
def checkFirstFrame (c : Connection) (f : Frame) : Bool :=
  c.remoteSettings || match f with
    | .settings s => !s.ack
    | _ => false

/-- A frame, past the check of the first one. -/
def dispatch (c : Connection) : Frame → Connection
  | .headers h => handleMessage (c.recvHeaders h)
  | .data d => handleMessage (c.recvData d)
  | .settings s =>
      if s.ack then
        match c.recvSettingsAck with
        | (.error e, c) => c.protoError e
        | (.ok errs, c) => c.handleAckErrors errs
      else
        match c.recvPeerSettings s with
        | (.error e, c) => c.protoError e
        | (.ok _, c) => c
  | .windowUpdate id n => handleMessage (c.recvWindowUpdate id n)
  | .reset id reason => handleMessage (c.recvRstStream id reason)
  | .ping ack payload => if ack then c else c.encodeCon (.ping true payload)
  | .goAway last reason _ => c.recvGoAway reason last
  | .invalid f => handleMessage (c.recvInvalidFrame f)
  | .priority _ => c

/-- `Dispatcher::call` with a frame. -/
def receive (c : Connection) (f : Frame) : Connection :=
  let c := c.push (.received (f.streamId.bind c.query) f)
  if c.checkFirstFrame f then c.dispatch f else c.protoError .missingSettings

/-- Why the dispatcher stops. -/
inductive Stop where
  | encoder (e : EncoderError)
  | decoder (e : FrameError)
  | keepAlive
  | readTimeout
  | writeTimeout
  | io
  | service
  deriving DecidableEq, Repr

/-- `Dispatcher::call` with `DispatchItem::Stop`. -/
def stop (c : Connection) : Stop → Connection
  | .encoder e => c.protoError (.encoder e)
  | .decoder e => c.protoError (.decoder e)
  | .keepAlive =>
      if c.settingsTimeout then c.timeout .settingsTimeout .settingsTimeout
      else c.timeout .keepaliveTimeout .noError
  | .readTimeout => c.timeout .readTimeout .noError
  | .writeTimeout => c.timeout .writeTimeout .noError
  | .io => c.disconnect
  | .service =>
      let c := c.disconnect
      (c.encodeCon (.goAway c.lastId .internalError [])).ioClose

/-- A finished or suspended `send_pages` call at place `i` of `senders`. -/
def settle (i : Nat) : SendPoll × Connection → Connection
  | (.ready _, c) => { c with senders := c.senders.eraseIdx i }
  | (.suspended s, c) => { c with senders := c.senders.set i s }

/-- A `send_pages` call that has run for the first time. -/
def started : SendPoll × Connection → Connection
  | (.ready _, c) => c
  | (.suspended s, c) => { c with senders := c.senders ++ [s] }

/-- What can happen to a connection. -/
inductive Step where
  -- the dispatcher
  | receive (f : Frame)
  | stop (s : Stop)
  | shutdown
  | ackError
  | control (goAway : Option (StreamId × Reason × Bytes)) (close : Bool)
  -- sending
  | sendInformational (o : Obj) (status : Nat) (fields : HeaderMap)
  | sendResponse (o : Obj) (status : Nat) (fields : HeaderMap) (eof : Bool)
  | sendTrailers (o : Obj) (fields : HeaderMap)
  | sendPages (io : Nat → IoTurn) (o : Obj) (data : StreamData) (eof : Bool)
  | pollSender (io : Nat → IoTurn) (r : IoReady) (i : Nat)
  | dropSender (i : Nat)
  | pollSendCapacity (o : Obj)
  | cancelCapacityWait (o : Obj)
  | capacityTimeout (o : Obj)
  | reset (o : Obj) (reason : Reason)
  -- capacity
  | consume (i sz : Nat)
  | addCapacity (i j : Nat)
  | dropCapacity (i : Nat)
  | emptyCapacity (o : Obj)
  -- a client
  | request (r : Option Request)
  | pollRequest (w : Nat) (r : Option Request)
  | dropRequest (w : Nat)
  | reserve
  | reservationSend (r : Request)
  | reservationDrop
  | inflight (o : Obj)
  | disconnectOnDrop (o : Obj)
  | streamDrop (o : Obj)
  | sendStreamDrop (o : Obj)
  | recvStreamDrop (o : Obj)
  | takeLocalClose (o : Obj)
  -- the connection
  | startDisconnect
  | forceClose
  | ping (payload : Bytes)
  | settingsTimer
  | tick (d : Nat)
  | reorder (l : List (StreamId × Obj))

/-- One step. -/
def step (c : Connection) : Step → Connection
  | .receive f => c.receive f
  | .stop s => c.stop s
  | .shutdown => c.disconnect
  | .ackError => { c with ackErrors := [] }.handleAckErrors c.ackErrors
  | .control goAway close =>
      let c := match goAway with
        | some (last, reason, data) => c.encodeCon (.goAway last reason data)
        | none => c
      if close then c.ioClose else c
  | .sendInformational o status fields => (c.sendInformational o status fields).2
  | .sendResponse o status fields eof => (c.sendResponse o status fields eof).2
  | .sendTrailers o fields => (c.sendTrailers o fields).2
  | .sendPages io o data eof => started (c.sendPages io o data eof)
  | .pollSender io r i =>
      match c.senders[i]? with
      | some s => settle i (c.pollSender io r s)
      | none => c
  | .dropSender i =>
      match c.senders[i]? with
      | some s =>
          let c := { c with senders := c.senders.eraseIdx i }
          if s.await = .capacity then c.cancelCapacityWait s.stream else c
      | none => c
  | .pollSendCapacity o => (c.pollSendCapacity o).2
  | .cancelCapacityWait o => c.cancelCapacityWait o
  | .capacityTimeout o => c.capacityTimeout o
  | .reset o reason => (c.reset o reason).1
  | .consume i sz => c.consume i sz
  | .addCapacity i j => c.addCapacity i j
  | .dropCapacity i => c.dropCapacity i
  | .emptyCapacity o => c.emptyCapacity o
  | .request r => (c.request r).2
  | .pollRequest w r => (c.pollRequest w r).2
  | .dropRequest w => c.dropRequest w
  | .reserve => c.reserveStream.1
  | .reservationSend r => (c.reservationSend r).2
  | .reservationDrop => c.reservationDrop
  | .inflight o => c.inflight o
  | .disconnectOnDrop o => c.disconnectOnDrop o
  | .streamDrop o => c.streamDrop o
  | .sendStreamDrop o => c.sendStreamDrop o
  | .recvStreamDrop o => c.recvStreamDrop o
  | .takeLocalClose o => c.takeLocalClose o
  | .startDisconnect => c.startDisconnect
  | .forceClose => c.ioClose
  | .ping payload => c.encodeCon (.ping false payload)
  | .settingsTimer =>
      if !c.ioClosed && !c.settingsProcessed then { c with settingsTimeout := true } else c
  | .tick d => { c with now := c.now + d }
  | .reorder l => { c with streams := l }

/-- When a step can happen: frames come from the codec, objects exist, a server opens no
streams, a reservation is used once, and the map has no order. -/
def Enabled (c : Connection) : Step → Prop
  | .receive f => f.Loads
  | .sendInformational o status _ => o < c.created ∧ isInformational status ∧ status ≠ 101
  | .sendResponse o _ _ _ | .sendTrailers o _ | .sendPages _ o _ _ | .pollSendCapacity o
  | .cancelCapacityWait o | .capacityTimeout o | .reset o _ | .emptyCapacity o | .inflight o
  | .disconnectOnDrop o | .streamDrop o | .sendStreamDrop o | .recvStreamDrop o
  | .takeLocalClose o => o < c.created
  | .request _ | .pollRequest _ _ | .reserve => c.server = false
  | .reservationSend _ | .reservationDrop => c.server = false ∧ 0 < c.reservations
  | .reorder l => l.Perm c.streams
  | _ => True

/-- The configurations and modes in which a connection starts. -/
structure Start where
  server : Bool
  config : ServiceConfig
  secure : Bool
  skipStreams : Bool

/-- The states of the runs of a connection. -/
inductive Reachable (s : Start) : Connection → Prop where
  | new : Reachable s (Connection.new s.server s.config s.secure s.skipStreams)
  | step {c : Connection} (a : Step) : Reachable s c → c.Enabled a → Reachable s (c.step a)

/-- The states of the runs whose steps all meet a condition on the state before them. -/
inductive ReachableBy (P : Connection → Step → Prop) (s : Start) : Connection → Prop where
  | new : ReachableBy P s (Connection.new s.server s.config s.secure s.skipStreams)
  | step {c : Connection} (a : Step) : ReachableBy P s c → c.Enabled a → P c a →
      ReachableBy P s (c.step a)

/-- The state at the end of some steps. -/
def after (c : Connection) (as : List Step) : Connection := as.foldl step c

/-- Each of the steps can happen when its turn comes, and meets the condition. -/
def Allowed (P : Connection → Step → Prop) : Connection → List Step → Prop
  | _, [] => True
  | c, a :: as => (c.Enabled a ∧ P c a) ∧ Allowed P (c.step a) as

theorem ReachableBy.reachable {P : Connection → Step → Prop} {s : Start} {c : Connection}
    (h : ReachableBy P s c) : Reachable s c := by
  induction h with
  | new => exact .new
  | step a _ ha _ ih => exact .step a ih ha

theorem ReachableBy.after {P : Connection → Step → Prop} {s : Start} (as : List Step) :
    ∀ {c : Connection}, ReachableBy P s c → Allowed P c as → ReachableBy P s (c.after as) := by
  induction as with
  | nil => exact fun h _ => h
  | cons a as ih => exact fun h ha => ih (.step a h ha.1.1 ha.1.2) ha.2

end Connection

end NtexH2
