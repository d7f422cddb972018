/-
  Client/Pool.lean --- a pool of client connections (src/client/pool.rs, the calls of
  src/client/simple.rs it uses).

  A call of `client`, `send` or `ready` runs without suspension until it has what it
  wants, or waits: for the connection it is about to establish, or in the queue of the
  pool.  A waiter that is woken looks again.  A caller whose connection is established
  looks again too; that is a new call.

  Connections that have left the pool are not part of it; they still hold its
  callback.
-/
import NtexH2.Connection.CapacityCalls

set_option autoImplicit false

namespace NtexH2

open Connection (Request RequestPoll Start wakeLoop)

/-- `InnerConfig`, as far as the pool decides by it; a lifetime of zero is none. -/
structure InnerConfig where
  minconn : Nat
  maxconn : Nat
  connLifetime : Nat
  maxStreams : Nat
  deriving DecidableEq, Repr

/-! ## The connections of the pool -/

/-- `Connection::is_disconnecting`. -/
def Connection.isDisconnecting (c : Connection) : Bool :=
  if c.ioClosed then false else c.disconnectWhenReady

/-- `SimpleClient`: a connection, with the time it was created. -/
structure SimpleClient where
  con : Connection
  created : Nat

namespace SimpleClient

/-- `SimpleClient::is_ready`. -/
def isReady (e : SimpleClient) : Bool := e.con.canCreateNewStream

/-- `get_client` removes the connection from the pool. -/
def isStale (cfg : InnerConfig) (now : Nat) (e : SimpleClient) : Bool :=
  e.con.ioClosed || e.con.isDisconnecting ||
    (cfg.connLifetime != 0 && decide (now - e.created > cfg.connLifetime))

/-- Less than half of the streams are in use. -/
def isIdle (cfg : InnerConfig) (e : SimpleClient) : Bool :=
  let cap := (e.con.localMaxConcurrentStreams.getD cfg.maxStreams) >>> 1
  e.isReady && decide (e.con.activeLocalStreams ≤ cap)

/-- The place of the `n`th connection that is ready. -/
def nthReady : List SimpleClient → Nat → Option Nat
  | [], _ => none
  | e :: es, n =>
      if e.isReady then
        match n with
        | 0 => some 0
        | n + 1 => (nthReady es n).map (· + 1)
      else (nthReady es n).map (· + 1)

end SimpleClient

/-! ## The pool -/

/-- What a caller asks the pool for. -/
inductive Call where
  | client
  | send (r : Request)
  | ready
  deriving DecidableEq, Repr

/-- `Client`.  `waiters` are the senders in the queue, `channels` what the receivers find,
`calls` what each waiter has asked for.  `connects` counts the tasks of `create_connection`
that run, `held` the clients that woken waiters have got, and have not used for a request
yet. -/
structure Client where
  config : InnerConfig
  connecting : Bool
  connects : Nat
  connections : List SimpleClient
  waiters : List Nat
  channels : List (Nat × Signal)
  count : Nat
  calls : Nat → Call
  held : Nat

namespace Client

/-- `ClientBuilder::build`. -/
def build (config : InnerConfig) : Client := ⟨config, false, 0, [], [], [], 0, fun _ => .ready, 0⟩

/-! ## Waiters -/

/-- `notify`. -/
def notify (p : Client) : Client :=
  { p with
    waiters := (wakeLoop 1 p.waiters p.channels).1
    channels := (wakeLoop 1 p.waiters p.channels).2 }

/-- All waiters are notified. -/
def drainWaiters (p : Client) : Client :=
  { p with
    waiters := []
    channels := p.channels.map fun w => if w.1 ∈ p.waiters then (w.1, .sent) else w }

/-- `Client::wait_for_capacity`, up to its suspension. -/
def waitForCapacity (p : Client) (call : Call) : Client :=
  { p with
    waiters := p.waiters ++ [p.count]
    channels := p.channels ++ [(p.count, .pending)]
    count := p.count + 1
    calls := fun t => if t = p.count then call else p.calls t }

/-- What the waiter `t` finds in its channel. -/
def signal (p : Client) (t : Nat) : Option Signal :=
  (p.channels.find? (·.1 == t)).map (·.2)

/-- The channel of the waiter `t` is gone. -/
def leave (p : Client) (t : Nat) : Client :=
  { p with channels := p.channels.filter (·.1 != t) }

/-- `Waiter::drop`: the queue forgets the waiter, or its notification is passed on. -/
def dropWaiter (p : Client) (t : Nat) : Client :=
  match p.signal t with
  | some .pending =>
      let p := p.leave t
      { p with waiters := p.waiters.filter fun tx => p.channels.any (·.1 == tx) }
  | some .sent => (p.leave t).notify
  | _ => p

/-! ## Connections -/

/-- What happens to the connection at place `i`; every call of its callback notifies a waiter. -/
def onConnection (p : Client) (i : Nat) (a : Connection.Step) : Client :=
  match p.connections[i]? with
  | some e =>
      let con := e.con.step a
      notify^[con.capacityCalls - e.con.capacityCalls]
        { p with connections := p.connections.set i { e with con := con } }
  | none => p

/-- `Client::get_client`: the connections that are left, and the place of the one to use. -/
def getClient (p : Client) (now rand : Nat) : List SimpleClient × Option Nat :=
  let cfg := p.config
  let connections := p.connections.filter fun e => !e.isStale cfg now
  let num := connections.length
  if cfg.minconn > 0 && num < cfg.minconn then (connections, none)
  else
    match connections.findIdx? (·.isIdle cfg) with
    | some i => (connections, some i)
    | none =>
        let available := connections.countP (·.isReady)
        if available > 0 then (connections, SimpleClient.nthReady connections (rand % available))
        else (connections, none)

/-- `Client::create_connection`, up to its suspension: a task is spawned. -/
def createConnection (p : Client) : Client := { p with connects := p.connects + 1 }

/-- `Client::connect`, up to its suspension. -/
def connect (p : Client) (num : Nat) (call : Call) : Client :=
  let cfg := p.config
  if !p.connecting && (num < cfg.maxconn || (cfg.minconn > 0 && num < cfg.minconn)) then
    ({ p with connecting := true } : Client).createConnection
  else p.waitForCapacity call

/-- The end of the task of `create_connection`. -/
def connectEnds (p : Client) : Client :=
  ({ p with
    connecting := false
    connects := p.connects - 1 } : Client).drainWaiters

/-- The task gets a connection. -/
def connected (p : Client) (s : Start) (now : Nat) : Client :=
  ({ p with connections := p.connections ++ [⟨s.init, now⟩] } : Client).connectEnds

/-- The task gets an error, or its time is up. -/
def connectFailed (p : Client) : Client := p.connectEnds

/-- `Client::is_ready`. -/
def isReady (p : Client) : Bool :=
  p.connections.any (·.isReady) ||
    (!p.connecting && decide (p.connections.length < p.config.maxconn))

/-! ## Calls -/

/-- `Client::client`, `Client::send` and `Client::ready`, up to the end or to a suspension;
`woken` says that the caller has been woken. -/
def attempt (p : Client) (woken : Bool) (now rand : Nat) : Call → Client
  | .ready => if p.isReady then p else p.waitForCapacity .ready
  | .client =>
      let r := p.getClient now rand
      let p := { p with connections := r.1 }
      match r.2 with
      | some _ => if woken then { p with held := p.held + 1 } else p
      | none => p.connect r.1.length .client
  | .send req =>
      let r := p.getClient now rand
      let p := { p with connections := r.1 }
      match r.2 with
      | some i => p.onConnection i (.request (some req))
      | none => p.connect r.1.length (.send req)

/-- The waiter `t` runs again; `ready` passes the notification on before it looks. -/
def wake (p : Client) (t : Nat) (now rand : Nat) : Client :=
  match p.signal t with
  | some .sent =>
      match p.calls t with
      | .ready => (p.leave t).notify.attempt true now rand .ready
      | call => (p.leave t).attempt true now rand call
  | _ => p

/-- A request over a client that a woken waiter has got, or a later poll of it as the waiter
`w` of the connection. -/
def sendStep (w : Option Nat) (r : Request) : Connection.Step :=
  match w with
  | none => .request (some r)
  | some w => .pollRequest w (some r)

/-- What the request returns. -/
def sendPoll (c : Connection) (w : Option Nat) (r : Request) : RequestPoll :=
  match w with
  | none => (c.request (some r)).1
  | some w => (c.pollRequest w (some r)).1

/-- `SimpleClient::send` over such a client; the client is used when the request is finished. -/
def sendHeld (p : Client) (i : Nat) (w : Option Nat) (r : Request) : Client :=
  match p.connections[i]? with
  | some e =>
      let p := p.onConnection i (sendStep w r)
      match sendPoll e.con w r with
      | .ready _ => { p with held := p.held - 1 }
      | .waiting _ => p
  | none => p

/-! ## Runs -/

/-- What can happen to a pool. -/
inductive Step where
  | call (call : Call) (now rand : Nat)
  | wake (t : Nat) (now rand : Nat)
  | dropWaiter (t : Nat)
  | connected (s : Start) (now : Nat)
  | connectFailed
  -- a connection of the pool
  | connection (i : Nat) (a : Connection.Step)
  -- a connection that has left the pool calls its callback
  | notify
  -- the clients of woken waiters
  | sendHeld (i : Nat) (w : Option Nat) (r : Request)
  | dropHeld

/-- One step. -/
def step (p : Client) : Step → Client
  | .call call now rand => p.attempt false now rand call
  | .wake t now rand => p.wake t now rand
  | .dropWaiter t => p.dropWaiter t
  | .connected s now => p.connected s now
  | .connectFailed => p.connectFailed
  | .connection i a => p.onConnection i a
  | .notify => p.notify
  | .sendHeld i w r => p.sendHeld i w r
  | .dropHeld => { p with held := p.held - 1 }

/-- When a step can happen. -/
def Enabled (p : Client) : Step → Prop
  | .wake t _ _ => p.signal t = some .sent
  | .connected s _ => 0 < p.connects ∧ s.server = false
  | .connectFailed => 0 < p.connects
  | .connection i a => ∃ e, p.connections[i]? = some e ∧ e.con.Enabled a
  | .sendHeld _ _ _ | .dropHeld => 0 < p.held
  | _ => True

/-- The states of the runs of a pool. -/
inductive Reachable (cfg : InnerConfig) : Client → Prop where
  | build : Reachable cfg (build cfg)
  | step {p : Client} (a : Step) : Reachable cfg p → p.Enabled a → Reachable cfg (p.step a)

/-- The states of the runs whose steps all meet a condition on the state before them. -/
inductive ReachableBy (P : Client → Step → Prop) (cfg : InnerConfig) : Client → Prop where
  | build : ReachableBy P cfg (build cfg)
  | step {p : Client} (a : Step) : ReachableBy P cfg p → p.Enabled a → P p a →
      ReachableBy P cfg (p.step a)

/-- The state at the end of some steps. -/
def after (p : Client) (as : List Step) : Client := as.foldl step p

/-- Each of the steps can happen when its turn comes, and meets the condition. -/
def Allowed (P : Client → Step → Prop) : Client → List Step → Prop
  | _, [] => True
  | p, a :: as => (p.Enabled a ∧ P p a) ∧ Allowed P (p.step a) as

theorem ReachableBy.reachable {P : Client → Step → Prop} {cfg : InnerConfig} {p : Client}
    (h : ReachableBy P cfg p) : Reachable cfg p := by
  induction h with
  | build => exact .build
  | step a _ ha _ ih => exact .step a ih ha

theorem ReachableBy.after {P : Client → Step → Prop} {cfg : InnerConfig} (as : List Step) :
    ∀ {p : Client}, ReachableBy P cfg p → Allowed P p as → ReachableBy P cfg (p.after as) := by
  induction as with
  | nil => exact fun h _ => h
  | cons a as ih => exact fun h ha => ih (.step a h ha.1.1 ha.1.2) ha.2

end Client

end NtexH2
