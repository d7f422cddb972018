/-
  Session/Model.lean --- what a connection is for.

  A session is a connection without its machinery: no wakers, timers, flags of
  handles, reset counters or waiting requests, windows are integers that do not
  wrap, and a closed half has no reason.  Its steps are the few things that a
  connection does to its streams and windows, each of them as a whole.

  The invariants of a connection are invariants of sessions, and are proved here;
  `Connection/Refines.lean` shows that every step of a connection is a sequence of
  session steps.
-/
import NtexH2.Connection.Dispatcher
import Mathlib.Logic.Function.Basic
import Mathlib.Algebra.BigOperators.Group.List.Basic

set_option autoImplicit false

namespace NtexH2

/-! ## History -/

namespace Event

/-- The credit of a received WINDOW_UPDATE for the connection. -/
def conCredit : Event → Nat
  | .received _ (.windowUpdate id n) => if id = 0 then n else 0
  | _ => 0

/-- The credit of a received WINDOW_UPDATE for the stream `o`. -/
def credit (o : Nat) : Event → Nat
  | .received (some p) (.windowUpdate _ n) => if p = o then n else 0
  | _ => 0

/-- The octets of a written DATA frame. -/
def sentData : Event → Nat
  | .sent _ _ (.data d) => d.flowLen
  | _ => 0

/-- The octets of a DATA frame written for the stream `o`. -/
def sentOn (o : Nat) : Event → Nat
  | .sent (some p) _ (.data d) => if p = o then d.flowLen else 0
  | _ => 0

/-- The credit of a WINDOW_UPDATE written for the connection. -/
def conGrant : Event → Nat
  | .sent none _ (.windowUpdate _ n) => n
  | _ => 0

/-- The credit of a WINDOW_UPDATE written for the stream `o`. -/
def grant (o : Nat) : Event → Nat
  | .sent (some p) _ (.windowUpdate _ n) => if p = o then n else 0
  | _ => 0

/-- The octets of a received DATA frame. -/
def gotData : Event → Nat
  | .received _ (.data d) => d.flowLen
  | _ => 0

/-- The octets of a DATA frame received for the stream `o`. -/
def gotOn (o : Nat) : Event → Nat
  | .received (some p) (.data d) => if p = o then d.flowLen else 0
  | _ => 0

/-- The id of a stream that is opened here. -/
def opening : Event → Option StreamId
  | .sent _ .sendHeaders (.headers h) => some h.streamId
  | _ => none

/-- Events that no window, no stream and no setting depends on. -/
def Quiet : Event → Prop
  | .sent none _ (.goAway _ _ _) | .sent none _ (.ping _ _) | .sent none _ (.reset _ _) => True
  | .received none (.reset _ _) => True
  | .received _ (.settings s) => s.ack = true
  | .received _ (.headers _) | .received _ (.ping _ _) | .received _ (.goAway _ _ _)
  | .received _ (.priority _) | .received _ (.invalid _) => True
  | .streamFailed _ _ => True
  | _ => False

/-- The measures of a history do not see a quiet event. -/
structure Silent (e : Event) : Prop where
  opening : e.opening = none
  conCredit : e.conCredit = 0
  credit : ∀ o, e.credit o = 0
  sentData : e.sentData = 0
  sentOn : ∀ o, e.sentOn o = 0
  conGrant : e.conGrant = 0
  grant : ∀ o, e.grant o = 0
  gotData : e.gotData = 0
  gotOn : ∀ o, e.gotOn o = 0

theorem Quiet.silent {e : Event} (h : e.Quiet) : e.Silent := by
  cases e with
  | sent obj w f =>
      cases obj with
      | some o => cases f <;> exact False.elim h
      | none =>
          cases f <;> first
            | exact False.elim h
            | exact ⟨by cases w <;> rfl, rfl, fun _ => rfl, rfl, fun _ => rfl, rfl, fun _ => rfl,
                rfl, fun _ => rfl⟩
  | received obj f =>
      cases obj <;> cases f <;> first
        | exact False.elim h
        | exact ⟨rfl, rfl, fun _ => rfl, rfl, fun _ => rfl, rfl, fun _ => rfl, rfl, fun _ => rfl⟩
  | failed e => exact False.elim h
  | streamFailed o e =>
      exact ⟨rfl, rfl, fun _ => rfl, rfl, fun _ => rfl, rfl, fun _ => rfl, rfl, fun _ => rfl⟩
  | close => exact False.elim h

end Event

/-- The sum of a measure over a history. -/
def total (f : Event → Nat) (l : List Event) : Nat := (l.map f).sum

@[simp] theorem total_nil (f : Event → Nat) : total f [] = 0 := rfl

@[simp] theorem total_cons (f : Event → Nat) (e : Event) (l : List Event) :
    total f (e :: l) = f e + total f l := rfl

/-- The initial window size that the peer asked for last. -/
def initWindow : List Event → Nat
  | [] => defaultInitialWindowSize
  | .received _ (.settings s) :: l =>
      if s.ack then initWindow l else s.initialWindowSize.getD (initWindow l)
  | _ :: l => initWindow l

/-- The frame size that the peer asked for last. -/
def maxFrame : List Event → Nat
  | [] => defaultMaxFrameSize
  | .received _ (.settings s) :: l =>
      if s.ack then maxFrame l else s.maxFrameSize.getD (maxFrame l)
  | _ :: l => maxFrame l

/-! ## Streams -/

/-- A half of a stream. -/
inductive Half where
  | idle
  | payload
  | closed
  deriving DecidableEq, Repr

/-- A stream of a session. -/
structure Cell where
  id : Nat
  remote : Bool
  recv : Half
  recvWindow : Int
  recvSize : Nat
  send : Half
  sendWindow : Int
  deriving DecidableEq, Repr

namespace Cell

/-- Neither half is open. -/
def Done (s : Cell) : Prop := s.recv = .closed ∧ s.send = .closed

instance (s : Cell) : Decidable s.Done := inferInstanceAs (Decidable (_ ∧ _))

/-- The halves close that are asked to. -/
def close (s : Cell) (recv send : Bool) : Cell :=
  { s with
    recv := if recv then .closed else s.recv
    send := if send then .closed else s.send }

end Cell

/-- The sizes of the live `Capacity` values of a stream. -/
def heldBy (o : Nat) (caps : List Capacity) : Nat :=
  (caps.map fun c => if c.stream = o then c.size else 0).sum

/-- The sizes of all live `Capacity` values. -/
def held (caps : List Capacity) : Nat := (caps.map (·.size)).sum

/-! ## Sessions -/

/-- A session; the names are those of `Connection`. `acking` are the streams whose receive
window a SETTINGS ack still has to shift. -/
structure Session where
  config : ServiceConfig
  server : Bool
  ioClosed : Bool
  draining : Bool
  failed : Bool
  goneAway : Bool
  sendWindow : Int
  recvWindow : Int
  recvSize : Nat
  nextStreamId : Nat
  lastId : Nat
  created : Nat
  cells : Nat → Cell
  streams : List (Nat × Nat)
  activeRemote : Nat
  activeLocal : Nat
  reserved : Nat
  reservations : Nat
  remoteWindowSz : Nat
  remoteFrameSize : Nat
  settingsProcessed : Bool
  acking : List Nat
  ackErrors : List Nat
  caps : List Capacity
  senders : List Nat
  log : List Event

namespace Session

/-- The objects of the map. -/
def values (k : Session) : List Nat := k.streams.map (·.2)

/-- A new event. -/
def push (k : Session) (e : Event) : Session := { k with log := e :: k.log }

/-- A change of one stream. -/
def modify (k : Session) (o : Nat) (f : Cell → Cell) : Session :=
  { k with cells := Function.update k.cells o (f (k.cells o)) }

/-- The io is closed. -/
def ioClose (k : Session) : Session := { k with ioClosed := true, log := .close :: k.log }

/-- The map without a stream. -/
def without (k : Session) (o : Nat) : List (Nat × Nat) := k.streams.eraseP (·.2 == o)

/-- The stream leaves the map when these halves close. -/
def Leaves (k : Session) (o : Nat) (recv send : Bool) : Prop :=
  ((k.cells o).close recv send).Done ∧ o ∈ k.values

instance (k : Session) (o : Nat) (recv send : Bool) : Decidable (k.Leaves o recv send) :=
  inferInstanceAs (Decidable (_ ∧ _))

/-- The last stream of a draining session leaves. -/
def Ends (k : Session) (o : Nat) (recv send : Bool) : Prop :=
  k.Leaves o recv send ∧ k.without o = [] ∧ k.reserved = 0 ∧ k.draining = true

instance (k : Session) (o : Nat) (recv send : Bool) : Decidable (k.Ends o recv send) :=
  inferInstanceAs (Decidable (_ ∧ _))

/-- Halves of a stream close; a stream without an open half leaves the map, and the last
stream of a draining session closes the io. -/
def close (k : Session) (o : Nat) (recv send : Bool) : Session :=
  { k with
    cells := Function.update k.cells o ((k.cells o).close recv send)
    streams := if k.Leaves o recv send then k.without o else k.streams
    activeRemote := if k.Leaves o recv send ∧ (k.cells o).remote = true then k.activeRemote - 1
      else k.activeRemote
    activeLocal := if k.Leaves o recv send ∧ (k.cells o).remote = false then k.activeLocal - 1
      else k.activeLocal
    ioClosed := k.ioClosed || decide (k.Ends o recv send)
    log := if k.Ends o recv send then .close :: k.log else k.log }

/-! ## Streams that are opened -/

/-- A new stream. -/
def newCell (k : Session) (id : Nat) : Cell where
  id := id
  remote := k.server
  recv := .idle
  recvWindow := if k.settingsProcessed then k.config.windowSz else defaultInitialWindowSize
  recvSize := 0
  send := .idle
  sendWindow := k.remoteWindowSz

/-- A stream of the peer. -/
def accept (k : Session) (id : Nat) : Session :=
  { k with
    lastId := id
    created := k.created + 1
    cells := Function.update k.cells k.created (k.newCell id)
    streams := (id, k.created) :: k.streams
    activeRemote := k.activeRemote + 1 }

/-- A stream that is opened here with the headers `h`, on a slot of its own or on a
reserved one. -/
def openLocal (k : Session) (h : Headers) (reserved : Bool) : Session :=
  { k with
    nextStreamId := k.nextStreamId + 2
    created := k.created + 1
    cells := Function.update k.cells k.created
      { k.newCell h.streamId with send := if h.endStream then .closed else .payload }
    streams := (h.streamId, k.created) :: k.streams
    activeLocal := if reserved then k.activeLocal else k.activeLocal + 1
    reserved := if reserved then k.reserved - 1 else k.reserved
    reservations := if reserved then k.reservations - 1 else k.reservations
    log := .sent (some k.created) .sendHeaders (.headers h) :: k.log }

/-! ## Frames that are written -/

/-- The response of a stream. -/
def respond (k : Session) (o : Nat) (h : Headers) : Session :=
  (if h.endStream then k.close o false true
    else k.modify o fun s => { s with send := .payload }).push
      (.sent (some o) .sendResponse (.headers h))

/-- Windows that sent octets are taken from. -/
def spend (k : Session) (o : Nat) (n : Nat) : Session :=
  { k.modify o fun s => { s with sendWindow := s.sendWindow - n } with
    sendWindow := k.sendWindow - n }

/-- A DATA frame within the windows. -/
def chunk (k : Session) (o : Nat) (d : Data) : Session :=
  ((k.push (.sent (some o) .sendPages (.data d))).close o false d.endStream).spend o d.flowLen

/-- The empty DATA frame that ends a stream. -/
def finish (k : Session) (o : Nat) : Session :=
  (k.close o false true).push
    (.sent (some o) .sendPages (.data ⟨(k.cells o).id, [], 0, true⟩))

/-- Trailers. -/
def trailers (k : Session) (o : Nat) (h : Headers) : Session :=
  (k.push (.sent (some o) .sendTrailers (.headers h))).close o false true

/-- RST_STREAM, written for the stream. -/
def reset (k : Session) (o : Nat) (reason : Reason) : Session :=
  (k.push (.sent (some o) .resetSilent (.reset (k.cells o).id reason))).close o true true

/-! ## Receive windows -/

/-- When `Window::update` announces an increment; it may be zero. -/
def announces (max : Nat) (threshold : Nat) (window : Int) (size : Nat) : Prop :=
  ¬(max ≤ window ∨ max - window - size < threshold)

instance (max threshold : Nat) (window : Int) (size : Nat) :
    Decidable (announces max threshold window size) := inferInstanceAs (Decidable (¬_))

/-- The connection window is announced again. -/
def topUp (k : Session) : Session :=
  if announces k.config.connectionWindowSz k.config.connectionWindowSzThreshold k.recvWindow
      k.recvSize then
    { k with
      recvWindow := k.config.connectionWindowSz - k.recvSize
      log := .sent none .connection (.windowUpdate StreamId.con
        (k.config.connectionWindowSz - k.recvWindow - k.recvSize).toNat) :: k.log }
  else k

/-- The window of a stream is announced again. -/
def streamTopUp (k : Session) (o : Nat) : Session :=
  if (k.cells o).recv ≠ .closed ∧ announces k.config.windowSz k.config.windowSzThreshold
      (k.cells o).recvWindow (k.cells o).recvSize then
    (k.modify o fun s => { s with recvWindow := k.config.windowSz - s.recvSize }).push
      (.sent (some o) .windowUpdate (.windowUpdate (k.cells o).id
        (k.config.windowSz - (k.cells o).recvWindow - (k.cells o).recvSize).toNat))
  else k

/-- DATA within the windows. -/
def charge (k : Session) (o : Nat) (d : Data) : Session :=
  { k with
    cells := Function.update k.cells o
      { k.cells o with
        recvWindow := (k.cells o).recvWindow - d.flowLen
        recvSize := (k.cells o).recvSize + d.flowLen }
    recvWindow := k.recvWindow - d.flowLen
    recvSize := k.recvSize + d.flowLen
    caps := k.caps ++ [⟨o, d.flowLen⟩]
    log := .received (some o) (.data d) :: k.log }

/-- DATA that no stream takes: the octets are released at once. -/
def stray (k : Session) (obj : Option Nat) (d : Data) : Session :=
  { k with
    recvWindow := k.recvWindow - d.flowLen
    log := .received obj (.data d) :: k.log }.topUp

/-- DATA beyond the window of its stream. -/
def overrun (k : Session) (o : Nat) (d : Data) : Session :=
  ((k.stray (some o) d).push (.streamFailed o .recvWindowExceeded)).reset o
    StreamError.recvWindowExceeded.reason

/-- Octets of a stream are released; `caps` are the values that are left. -/
def release (k : Session) (o : Nat) (n : Nat) (caps : List Capacity) : Session :=
  let k := ({ k with caps := caps }.modify o fun s =>
    { s with recvSize := s.recvSize - n }).streamTopUp o
  { k with recvSize := k.recvSize - n }.topUp

/-! ## Settings -/

/-- The settings of the peer. -/
def settings (k : Session) (s : Settings) : Session :=
  { k with
    remoteFrameSize := s.maxFrameSize.getD k.remoteFrameSize
    remoteWindowSz := s.initialWindowSize.getD k.remoteWindowSz
    cells := fun o =>
      if o ∈ k.values then
        { k.cells o with
          sendWindow := (k.cells o).sendWindow +
            (s.initialWindowSize.getD k.remoteWindowSz - k.remoteWindowSz : Int) }
      else k.cells o
    log := .sent none .connection (.settings .newAck) :: .received none (.settings s) :: k.log }

/-- The ack of the local settings. -/
def ackBegin (k : Session) (s : Settings) : Session :=
  { k with
    settingsProcessed := true
    acking := k.values
    log := .received none (.settings s) :: k.log }

/-- The difference that the ack makes to a receive window. -/
def shift (k : Session) : Int := (k.config.windowSz : Int) - defaultInitialWindowSize

/-- The ack reaches the stream `o`. -/
def ackOne (k : Session) (o : Nat) (rest : List Nat) : Session :=
  if (k.cells o).recv = .closed ∨ k.shift = 0 then { k with acking := rest }
  else if 2 ^ 31 ≤ (k.cells o).recvWindow + k.shift then
    { k with acking := rest, ackErrors := k.ackErrors ++ [o] }
  else
    ({ k with acking := rest }.modify o fun s =>
      { s with recvWindow := s.recvWindow + k.shift }).streamTopUp o

/-- The dispatcher reports a stream whose window the ack overflowed. -/
def ackFailed (k : Session) (o : Nat) (e : StreamError) (l : List Nat) : Session :=
  (({ k with ackErrors := l }.push (.streamFailed o e)).close o true true).push
    (.sent none .connection (.reset (k.cells o).id e.reason))

/-! ## The end -/

/-- The connection fails: no stream is left. -/
def fail (k : Session) (evs : List Event) (window : Nat → Int) (windowSz frameSize : Nat) :
    Session :=
  { k with
    cells := fun o =>
      if o ∈ k.values then
        { k.cells o with recv := .closed, send := .closed, sendWindow := window o }
      else k.cells o
    streams := []
    activeRemote := 0
    activeLocal := k.reserved
    remoteWindowSz := windowSz
    remoteFrameSize := frameSize
    failed := true
    log := evs ++ k.log }

/-- The session drains. -/
def drain (k : Session) : Session :=
  if k.streams = [] ∧ k.reserved = 0 then { k with draining := true }.ioClose
  else { k with draining := true }

/-- A reservation. -/
def reserve (k : Session) : Session :=
  { k with
    activeLocal := k.activeLocal + 1
    reserved := k.reserved + 1
    reservations := k.reservations + 1 }

/-- A reservation is given back. -/
def unreserve (k : Session) : Session :=
  let k := { k with
    activeLocal := k.activeLocal - 1
    reserved := k.reserved - 1
    reservations := k.reservations - 1 }
  if k.reserved = 0 ∧ k.streams = [] ∧ k.draining = true then k.ioClose else k

/-! ## Steps -/

/-- Events of a failing session: the frame at fault and the error. -/
def FailEvents (k : Session) (evs : List Event) (windowSz frameSize : Nat) : Prop :=
  (evs = [] ∨ ∃ err, evs = [.failed err] ∨ ∃ obj f, evs = [.failed err, .received obj f] ∧
    ∀ o, obj = some o → o ∈ k.values) ∧
  (k.server = true → initWindow k.log = k.remoteWindowSz → maxFrame k.log = k.remoteFrameSize →
    initWindow (evs ++ k.log) = windowSz ∧ maxFrame (evs ++ k.log) = frameSize) ∧
  windowSz < 2 ^ 31

theorem FailEvents.mem {k : Session} {evs : List Event} {windowSz frameSize : Nat}
    (h : k.FailEvents evs windowSz frameSize) : ∀ e ∈ evs, (∃ err, e = .failed err) ∨
      ∃ obj f, e = .received obj f ∧ ∀ o, obj = some o → o ∈ k.values := by
  intro e he
  rcases h.1 with rfl | ⟨err, rfl | ⟨obj, f, rfl, hobj⟩⟩
  · cases he
  · exact .inl ⟨err, List.mem_singleton.mp he⟩
  · rcases List.mem_cons.mp he with rfl | he
    · exact .inl ⟨err, rfl⟩
    · exact .inr ⟨obj, f, List.mem_singleton.mp he, hobj⟩

/-- What is assumed of a run: the streams that a SETTINGS ack finds, and whether the io may be
closed from outside before the session fails. -/
structure Guard where
  ack : Cell → Prop
  shut : Prop

/-- What a session does. -/
inductive Step (G : Guard) (k : Session) : Session → Prop where
  | quiet {e : Event} (he : e.Quiet) : Step G k (k.push e)
  | raise {id : Nat} (hs : k.server = true) (hid : k.lastId < id) :
      Step G k { k with lastId := id }
  | accept {id : Nat} (hs : k.server = true) (hd : k.draining = false)
      (hid : k.lastId < id) (hodd : id % 2 = 1)
      (hmax : ∀ m ∈ k.config.remoteMaxConcurrentStreams, k.activeRemote < m) :
      Step G k (k.accept id)
  | openLocal {h : Headers} {reserved : Bool} (hs : k.server = false) (hf : k.failed = false)
      (hg : k.goneAway = false) (hd : reserved = false → k.draining = false)
      (hid : h.streamId = k.nextStreamId) (hmax : k.nextStreamId + 2 ≤ StreamId.max)
      (hr : reserved = true → 0 < k.reservations) : Step G k (k.openLocal h reserved)
  | close {o : Nat} {recv send : Bool} (ho : o < k.created) (h : send = true → recv = true) :
      Step G k (k.close o recv send)
  | remoteReset {o : Nat} {id : Nat} {r : Reason} (ho : o ∈ k.values) :
      Step G k ((k.push (.received (some o) (.reset id r))).close o true true)
  | recvPayload {o : Nat} (ho : o ∈ k.values) (h : (k.cells o).recv = .idle) :
      Step G k (k.modify o fun s => { s with recv := .payload })
  | interim {o : Nat} {h : Headers} (ho : o < k.created) (hi : (k.cells o).send = .idle)
      (hid : h.streamId = (k.cells o).id) (hend : h.endStream = false) :
      Step G k (k.push (.sent (some o) .sendInformational (.headers h)))
  | respond {o : Nat} {h : Headers} (ho : o < k.created) (hi : (k.cells o).send = .idle)
      (hid : h.streamId = (k.cells o).id) : Step G k (k.respond o h)
  | chunk {o : Nat} {d : Data} (ho : o < k.created) (hp : (k.cells o).send = .payload)
      (hid : d.streamId = (k.cells o).id) (hw : (d.flowLen : Int) ≤ (k.cells o).sendWindow)
      (hc : (d.flowLen : Int) ≤ k.sendWindow) (hm : d.flowLen ≤ k.remoteFrameSize) :
      Step G k (k.chunk o d)
  | finish {o : Nat} (ho : o < k.created) (hp : (k.cells o).send = .payload) :
      Step G k (k.finish o)
  | trailers {o : Nat} {h : Headers} (ho : o < k.created) (hp : (k.cells o).send = .payload)
      (hid : h.streamId = (k.cells o).id) (hend : h.endStream = true) :
      Step G k (k.trailers o h)
  | reset {o : Nat} {r : Reason} (ho : o ∈ k.values) : Step G k (k.reset o r)
  | charge {o : Nat} {d : Data} (ho : o ∈ k.values) (hid : d.streamId = (k.cells o).id)
      (hw : (d.flowLen : Int) ≤ (k.cells o).recvWindow) (hc : (d.flowLen : Int) ≤ k.recvWindow) :
      Step G k (k.charge o d)
  | stray {d : Data} (hid : d.streamId ∉ k.streams.map (·.1))
      (hc : (d.flowLen : Int) ≤ k.recvWindow) : Step G k (k.stray none d)
  | overrun {o : Nat} {d : Data} (ho : o ∈ k.values) (hid : d.streamId = (k.cells o).id)
      (hw : (k.cells o).recvWindow < d.flowLen) (hc : (d.flowLen : Int) ≤ k.recvWindow) :
      Step G k (k.overrun o d)
  | release {o : Nat} {n : Nat} {caps : List Capacity} (ho : o < k.created)
      (hcaps : ∀ p, heldBy p caps + (if p = o then n else 0) = heldBy p k.caps)
      (hheld : held caps + n = held k.caps) (hall : ∀ c ∈ caps, c.stream < k.created) :
      Step G k (k.release o n caps)
  | caps {caps : List Capacity} (hcaps : ∀ p, heldBy p caps = heldBy p k.caps)
      (hheld : held caps = held k.caps) (hall : ∀ c ∈ caps, c.stream < k.created) :
      Step G k { k with caps := caps }
  | conCredit {n : Nat} (hn : k.sendWindow + n < 2 ^ 31) :
      Step G k { k.push (.received none (.windowUpdate 0 n)) with
        sendWindow := k.sendWindow + n }
  | credit {o : Nat} {n : Nat} {id : Nat} (ho : o ∈ k.values) (hid : id = (k.cells o).id)
      (hn : (k.cells o).sendWindow + n < 2 ^ 31) :
      Step G k ((k.push (.received (some o) (.windowUpdate id n))).modify o fun s =>
        { s with sendWindow := s.sendWindow + n })
  | lateCredit {id n : Nat} (h0 : id ≠ 0) (hid : id ∉ k.streams.map (·.1)) :
      Step G k (k.push (.received none (.windowUpdate id n)))
  | badCredit {o : Nat} {n : Nat} {id : Nat} {e : StreamError} (ho : o ∈ k.values)
      (hid : id = (k.cells o).id) :
      Step G k (((k.push (.received (some o) (.windowUpdate id n))).push
        (.streamFailed o e)).reset o e.reason)
  | settings {s : Settings} (hack : s.ack = false) (hw : ∀ v ∈ s.initialWindowSize, v < 2 ^ 31)
      (hn : ∀ o ∈ k.values, (k.cells o).sendWindow +
        (s.initialWindowSize.getD k.remoteWindowSz - k.remoteWindowSz : Int) < 2 ^ 31) :
      Step G k (k.settings s)
  | ackBegin {s : Settings} (hack : s.ack = true) (h : k.settingsProcessed = false) :
      Step G k (k.ackBegin s)
  | ackOne {o : Nat} {rest : List Nat} (h : k.acking = o :: rest) (hG : G.ack (k.cells o)) :
      Step G k (k.ackOne o rest)
  | ackFailed {o : Nat} {e : StreamError} {l : List Nat} (ho : o ∈ k.ackErrors)
      (hl : ∀ p ∈ l, p ∈ k.ackErrors) : Step G k (k.ackFailed o e l)
  | fail {evs : List Event} {window : Nat → Int} {windowSz frameSize : Nat}
      (he : k.FailEvents evs windowSz frameSize) : Step G k (k.fail evs window windowSz frameSize)
  | shut (h : k.failed = true ∨ G.shut) : Step G k k.ioClose
  | drain : Step G k k.drain
  | goneAway : Step G k { k with goneAway := true }
  | reserve (hs : k.server = false) (hf : k.failed = false) (hg : k.goneAway = false)
      (hd : k.draining = false) : Step G k k.reserve
  | unreserve (hs : k.server = false) (hr : 0 < k.reservations) : Step G k k.unreserve
  | senders {l : List Nat} (h : ∀ o ∈ l, o ∈ k.senders ∨
      o < k.created ∧ (k.cells o).send ≠ .idle) : Step G k { k with senders := l }
  | reorder {l : List (Nat × Nat)} (h : l.Perm k.streams) : Step G k { k with streams := l }

/-- Any number of steps. -/
abbrev Steps (G : Guard) : Session → Session → Prop := Relation.ReflTransGen (Step G)

end Session

end NtexH2
