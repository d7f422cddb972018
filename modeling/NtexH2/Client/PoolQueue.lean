/-
  Client/PoolQueue.lean --- the queue of a pool and the number of its connections
  (src/client/pool.rs, `notify`, `Waiter`, `connect`, `create_connection`).

  The queue holds the waiters that have not been notified, and nobody else.  The number of
  connections is read before a connection is established and grows after it; in between
  the pool only forgets connections, since the flag keeps a second task away.
-/
import NtexH2.Client.Pool
import NtexH2.Connection.Drain

set_option autoImplicit false

namespace NtexH2

open Connection (Request Start wakeLoop)

/-- The connection after a step. -/
def SimpleClient.next (e : SimpleClient) (a : Connection.Step) : SimpleClient :=
  { e with con := e.con.step a }

namespace Client

variable {cfg : InnerConfig} {p p' p'' : Client} {n m t now rand : Nat}

/-! ## The queue -/

/-- Who waits for a pool, as slots without a limit. -/
def line (p : Client) : Slots := ⟨none, 0, p.waiters, p.channels, p.count, 0⟩

/-- Somebody waits without a notification. -/
def Waits (p : Client) : Prop := ∃ t, (t, Signal.pending) ∈ p.channels

/-- The queue and the channels fit together, and nobody in the queue has gone. -/
structure Tidy (p : Client) : Prop where
  line : p.line.Tidy
  alive : ∀ t ∈ p.waiters, (t, Signal.pending) ∈ p.channels

/-- On the way from `p` to `p'` the callback is called `n` times. -/
structure Notified (n : Nat) (p p' : Client) : Prop where
  connections : p'.connections = p.connections
  connecting : p'.connecting = p.connecting
  config : p'.config = p.config
  held : p'.held = p.held
  tidy : p.Tidy → p'.Tidy
  waits : p.Tidy → p'.Waits → p.Waits ∧ signalled p'.channels = signalled p.channels + n

theorem Notified.refl (p : Client) : Notified 0 p p :=
  ⟨rfl, rfl, rfl, rfl, id, fun _ h => ⟨h, rfl⟩⟩

theorem Notified.trans (h : Notified n p p') (h' : Notified m p' p'') : Notified (n + m) p p'' := by
  refine ⟨h'.connections.trans h.connections, h'.connecting.trans h.connecting,
    h'.config.trans h.config, h'.held.trans h.held, h'.tidy ∘ h.tidy, fun ht hw => ?_⟩
  obtain ⟨hw', hs'⟩ := h'.waits (h.tidy ht) hw
  obtain ⟨hw'', hs⟩ := h.waits ht hw'
  refine ⟨hw'', ?_⟩
  rw [hs', hs, Nat.add_assoc]

theorem notified_notify (p : Client) : Notified 1 p p.notify := by
  have hline : p.notify.line = p.line.wake 1 := rfl
  refine ⟨rfl, rfl, rfl, rfl, fun ht => ?_, fun ht hw => Slots.wake_waits ht.line hw⟩
  obtain ⟨hkeys, hsub, -, hlive, -, -, -⟩ := wakeLoop_spec p.waiters 1 p.channels ht.line.keys
    ht.line.nodup ht.line.pending ht.line.live
  refine ⟨hline ▸ ht.line.wake 1, fun t hq => ?_⟩
  have hmem : t ∈ p.channels.map (·.1) :=
    List.mem_map_of_mem (f := (·.1)) (ht.alive t (hsub.subset hq))
  rw [← hkeys] at hmem
  obtain ⟨w, hw, rfl⟩ := List.mem_map.mp hmem
  have hx := hlive w.1 w.2 hq hw
  show (w.1, Signal.pending) ∈ p.notify.channels
  rw [← hx]
  exact hw

theorem notified_iterate (n : Nat) : ∀ p : Client, Notified n p (notify^[n] p) := by
  induction n with
  | zero => exact Notified.refl
  | succ n ih =>
      intro p
      rw [Function.iterate_succ_apply, Nat.add_comm]
      exact (notified_notify p).trans (ih p.notify)

/-- One notification is enough for one waiter. -/
theorem notify_waits (ht : p.Tidy) (h : p.notify.Waits) : 1 < p.waiters.length := by
  have hlen : ∀ (queue : List Nat) (ws : List (Nat × Signal)),
      (wakeLoop 1 queue ws).1.length ≤ queue.length - 1 := by
    intro queue
    induction queue with
    | nil => exact fun ws => Nat.le_refl _
    | cons tx queue ih =>
        intro ws
        unfold wakeLoop
        split
        · cases queue with
          | nil => exact Nat.le_refl _
          | cons tx' queue => exact Nat.le_refl _
        · exact Nat.le_trans (ih ws) (Nat.sub_le _ _)
  obtain ⟨t, hmem⟩ := h
  have hq : t ∈ p.notify.waiters := ((notified_notify p).tidy ht).line.pending t hmem
  have hpos := List.length_pos_of_mem hq
  have hle : p.notify.waiters.length ≤ p.waiters.length - 1 := hlen p.waiters p.channels
  omega

theorem Tidy.drainWaiters (h : p.Tidy) : p.drainWaiters.Tidy ∧ ¬p.drainWaiters.Waits := by
  have hline : p.drainWaiters.line = p.line.resolve .sent := rfl
  refine ⟨⟨hline ▸ h.line.resolve (by decide), fun t ht => by cases ht⟩, fun hw => ?_⟩
  exact Slots.resolve_waits h.line (x := .sent) (by decide) hw

theorem Tidy.waitForCapacity (h : p.Tidy) (call : Call) : (p.waitForCapacity call).Tidy := by
  refine ⟨h.line.enqueue, fun t ht => ?_⟩
  rcases List.mem_append.mp ht with ht | ht
  · exact List.mem_append_left _ (h.alive t ht)
  · rw [List.mem_singleton.mp ht]
    exact List.mem_append_right _ List.mem_cons_self

theorem signal_mem {x : Signal} (h : p.signal t = some x) : (t, x) ∈ p.channels := by
  unfold signal at h
  obtain ⟨w, hw, hx⟩ := Option.map_eq_some_iff.mp h
  have hid : w.1 = t := by simpa using List.find?_some hw
  rw [← hid, ← hx]
  exact List.mem_of_find?_eq_some hw

/-- A waiter that has been notified goes. -/
theorem leave_sent (h : p.Tidy) (hs : p.signal t = some .sent) : (p.leave t).Tidy ∧
    ((p.leave t).Waits → p.Waits) ∧
      signalled p.channels = signalled (p.leave t).channels + 1 := by
  have hmem : (t, Signal.sent) ∈ p.line.waiters := signal_mem hs
  refine ⟨⟨h.line.leave t, fun t' ht' => ?_⟩, fun hw => Slots.leave_waits (s := p.line) hw, ?_⟩
  · have hp := h.alive t' ht'
    have hne : t' ≠ t := by
      rintro rfl
      have := List.inj_on_of_nodup_map h.line.keys hp (signal_mem hs) rfl
      cases this
    exact List.mem_filter.mpr ⟨hp, by simpa using hne⟩
  · have hcount := Slots.signalled_leave h.line hmem
    rw [if_pos rfl] at hcount
    exact hcount

/-- A waiter that has not been notified goes, and the queue forgets it. -/
theorem dropWaiter_pending (h : p.Tidy) (hs : p.signal t = some .pending) :
    (p.dropWaiter t).Tidy ∧ ((p.dropWaiter t).Waits → p.Waits) ∧
      signalled (p.dropWaiter t).channels = signalled p.channels := by
  have hmem : (t, Signal.pending) ∈ p.line.waiters := signal_mem hs
  have heq : p.dropWaiter t = { p.leave t with
      waiters := p.waiters.filter fun tx => (p.leave t).channels.any (·.1 == tx) } := by
    unfold dropWaiter
    rw [hs]
    rfl
  have hleave := h.line.leave t
  rw [heq]
  refine ⟨⟨⟨hleave.keys, hleave.old, ?_, ?_, ?_, ?_⟩, ?_⟩, ?_, ?_⟩
  · exact fun t' ht' => h.line.queueOld t' (List.mem_filter.mp ht').1
  · exact h.line.nodup.filter _
  · intro t' ht'
    have hq : t' ∈ p.waiters := h.line.pending t' (List.mem_filter.mp ht').1
    exact List.mem_filter.mpr ⟨hq, List.any_eq_true.mpr ⟨_, ht', by simp⟩⟩
  · exact fun t' x hq hx => hleave.live t' x (List.mem_filter.mp hq).1 hx
  · intro t' ht'
    obtain ⟨hq, hany⟩ := List.mem_filter.mp ht'
    obtain ⟨w, hw, hid⟩ := List.any_eq_true.mp hany
    have hid' : w.1 = t' := by simpa using hid
    have hx := h.line.live t' w.2 hq (by rw [← hid']; exact (List.mem_filter.mp hw).1)
    rw [← hid', hx.symm]
    exact hw
  · exact fun hw => Slots.leave_waits (s := p.line) (t := t) hw
  · have hcount := Slots.signalled_leave h.line hmem
    rw [if_neg (by decide), Nat.add_zero] at hcount
    exact hcount.symm

/-! ## The connections -/

/-- The connections of the pool are connections of a client. -/
def Genuine (p : Client) : Prop :=
  ∀ e ∈ p.connections, ∃ s : Start, s.server = false ∧ Connection.Reachable s e.con

/-- The queue and the connections are what they should be. -/
structure Sound (p : Client) : Prop where
  tidy : p.Tidy
  genuine : p.Genuine

/-- The pool after a step of one of its connections, before its waiters hear of it. -/
def setNext (p : Client) (i : Nat) (e : SimpleClient) (a : Connection.Step) : Client :=
  { p with connections := p.connections.set i (e.next a) }

theorem onConnection_eq {i : Nat} {e : SimpleClient} (he : p.connections[i]? = some e)
    (a : Connection.Step) : p.onConnection i a =
      notify^[(e.next a).con.capacityCalls - e.con.capacityCalls] (p.setNext i e a) := by
  unfold onConnection
  rw [he]
  rfl

theorem Sound.notified (h : p.Sound) (hn : Notified n p p') : p'.Sound := by
  refine ⟨hn.tidy h.tidy, ?_⟩
  unfold Genuine
  rw [hn.connections]
  exact h.genuine

theorem Sound.setNext (h : p.Sound) {i : Nat} {e : SimpleClient} (he : p.connections[i]? = some e)
    {a : Connection.Step} (ha : e.con.Enabled a) : (p.setNext i e a).Sound := by
  refine ⟨⟨h.tidy.line, h.tidy.alive⟩, fun x hx => ?_⟩
  rcases List.mem_or_eq_of_mem_set hx with hx | rfl
  · exact h.genuine x hx
  · obtain ⟨s, hs, hr⟩ := h.genuine e (List.mem_of_getElem? he)
    exact ⟨s, hs, .step a hr ha⟩

theorem Sound.onConnection (h : p.Sound) {i : Nat} {a : Connection.Step}
    (ha : ∀ e, p.connections[i]? = some e → e.con.Enabled a) : (p.onConnection i a).Sound := by
  cases he : p.connections[i]? with
  | none =>
      unfold Client.onConnection
      rw [he]
      exact h
  | some e =>
      rw [onConnection_eq he]
      exact (h.setNext he (ha e he)).notified (notified_iterate _ _)

theorem enabled_request (hr : p.Genuine) {e : SimpleClient} (he : e ∈ p.connections)
    (w : Option Nat) (r : Request) : e.con.Enabled (sendStep w r) := by
  obtain ⟨s, hs, hreach⟩ := hr e he
  have hserver : e.con.server = false := (Connection.session_server hreach).trans hs
  cases w with
  | none => exact hserver
  | some w => exact hserver

/-- The pool after `get_client`. -/
def cleaned (p : Client) (now rand : Nat) : Client :=
  { p with connections := (p.getClient now rand).1 }

/-- `get_client` leaves the connections that are not stale. -/
theorem getClient_connections (p : Client) (now rand : Nat) : (p.getClient now rand).1 =
    p.connections.filter fun e => !e.isStale p.config now := by
  unfold getClient
  dsimp only
  split
  · rfl
  · split
    · rfl
    · split
      · rfl
      · rfl

theorem Sound.cleaned (h : p.Sound) (now rand : Nat) : (p.cleaned now rand).Sound := by
  refine ⟨⟨h.tidy.line, h.tidy.alive⟩, fun e he => ?_⟩
  have he' : e ∈ (p.getClient now rand).1 := he
  rw [getClient_connections] at he'
  exact h.genuine e (List.mem_filter.mp he').1

/-! ## The queue in a run -/

theorem Sound.waitForCapacity (h : p.Sound) (call : Call) : (p.waitForCapacity call).Sound :=
  ⟨h.tidy.waitForCapacity call, h.genuine⟩

theorem Sound.connect (h : p.Sound) (num : Nat) (call : Call) : (p.connect num call).Sound := by
  unfold Client.connect
  dsimp only
  split
  · exact ⟨⟨h.tidy.line, h.tidy.alive⟩, h.genuine⟩
  · exact h.waitForCapacity call

theorem Sound.attempt (h : p.Sound) (woken : Bool) (now rand : Nat) (call : Call) :
    (p.attempt woken now rand call).Sound := by
  have hcl := h.cleaned now rand
  cases call with
  | ready =>
      show (if p.isReady then p else p.waitForCapacity .ready).Sound
      split
      · exact h
      · exact h.waitForCapacity .ready
  | client =>
      unfold Client.attempt
      dsimp only
      split
      · split
        · exact ⟨⟨h.tidy.line, h.tidy.alive⟩, hcl.genuine⟩
        · exact hcl
      · exact hcl.connect _ .client
  | send r =>
      unfold Client.attempt
      dsimp only
      split
      · exact hcl.onConnection fun e he =>
          enabled_request hcl.genuine (List.mem_of_getElem? he) none r
      · exact hcl.connect _ (.send r)

theorem Sound.leave (h : p.Sound) (hs : p.signal t = some .sent) : (p.leave t).Sound :=
  ⟨(leave_sent h.tidy hs).1, h.genuine⟩

theorem Sound.wake (h : p.Sound) (t now rand : Nat) : (p.wake t now rand).Sound := by
  unfold Client.wake
  split
  · next hs =>
      split
      · exact ((h.leave hs).notified (notified_notify _)).attempt true now rand .ready
      · exact (h.leave hs).attempt true now rand _
  · exact h

theorem Sound.dropWaiter (h : p.Sound) (t : Nat) : (p.dropWaiter t).Sound := by
  cases hs : p.signal t with
  | none =>
      unfold Client.dropWaiter
      rw [hs]
      exact h
  | some x =>
      cases x with
      | pending =>
          refine ⟨(dropWaiter_pending h.tidy hs).1, ?_⟩
          unfold Client.dropWaiter
          rw [hs]
          exact h.genuine
      | sent =>
          unfold Client.dropWaiter
          rw [hs]
          exact (h.leave hs).notified (notified_notify _)
      | dropped =>
          unfold Client.dropWaiter
          rw [hs]
          exact h

theorem Sound.connectEnds (h : p.Sound) : p.connectEnds.Sound :=
  ⟨(Tidy.drainWaiters (p := { p with connecting := false, connects := p.connects - 1 })
    ⟨h.tidy.line, h.tidy.alive⟩).1, h.genuine⟩

theorem Sound.add (h : p.Sound) {s : Start} (hs : s.server = false) (now : Nat) :
    ({ p with connections := p.connections ++ [⟨s.init, now⟩] } : Client).Sound := by
  refine ⟨⟨h.tidy.line, h.tidy.alive⟩, fun e he => ?_⟩
  rcases List.mem_append.mp he with he | he
  · exact h.genuine e he
  · rw [List.mem_singleton.mp he]
    exact ⟨s, hs, .new⟩

theorem Sound.sendHeld (h : p.Sound) (i : Nat) (w : Option Nat) (r : Request) :
    (p.sendHeld i w r).Sound := by
  have hon : (p.onConnection i (sendStep w r)).Sound :=
    h.onConnection fun e he => enabled_request h.genuine (List.mem_of_getElem? he) w r
  unfold Client.sendHeld
  split
  · dsimp only
    split
    · exact ⟨⟨hon.tidy.line, hon.tidy.alive⟩, hon.genuine⟩
    · exact hon
  · exact h

theorem Sound.step (h : p.Sound) {a : Step} (ha : p.Enabled a) : (p.step a).Sound := by
  cases a with
  | call call now rand => exact h.attempt false now rand call
  | wake t now rand => exact h.wake t now rand
  | dropWaiter t => exact h.dropWaiter t
  | connected s now => exact (h.add ha.2 now).connectEnds
  | connectFailed => exact h.connectEnds
  | connection i a =>
      obtain ⟨e, he, ha⟩ := ha
      refine h.onConnection fun e' he' => ?_
      rw [he] at he'
      cases he'
      exact ha
  | notify => exact h.notified (notified_notify p)
  | sendHeld i w r => exact h.sendHeld i w r
  | dropHeld => exact ⟨⟨h.tidy.line, h.tidy.alive⟩, h.genuine⟩

theorem sound_build (cfg : InnerConfig) : (build cfg).Sound := by
  refine ⟨⟨⟨List.nodup_nil, ?_, ?_, List.nodup_nil, ?_, ?_⟩, ?_⟩, ?_⟩
  · exact fun _ h => by cases h
  · exact fun _ h => by cases h
  · exact fun _ h => by cases h
  · exact fun _ _ h => by cases h
  · exact fun _ h => by cases h
  · exact fun _ h => by cases h

theorem sound_of_reachable (h : Reachable cfg p) : p.Sound := by
  induction h with
  | build => exact sound_build cfg
  | step a _ ha ih => exact ih.step ha

/-! ## The number of connections -/

/-- The connections the configuration allows. -/
def limit (cfg : InnerConfig) : Nat := max cfg.maxconn cfg.minconn

/-- At most one task establishes a connection, the flag is set while it runs, and there is room
for its connection. -/
structure Bounded (cfg : InnerConfig) (p : Client) : Prop where
  config : p.config = cfg
  one : p.connects ≤ 1
  flag : p.connecting = true ↔ p.connects = 1
  room : p.connections.length + p.connects ≤ limit cfg

/-- The number of connections does not grow, and no task starts or ends. -/
structure Quiet (p p' : Client) : Prop where
  config : p'.config = p.config
  connecting : p'.connecting = p.connecting
  connects : p'.connects = p.connects
  length : p'.connections.length ≤ p.connections.length

theorem Quiet.refl (p : Client) : Quiet p p := ⟨rfl, rfl, rfl, Nat.le_refl _⟩

theorem Quiet.trans (h : Quiet p p') (h' : Quiet p' p'') : Quiet p p'' :=
  ⟨h'.config.trans h.config, h'.connecting.trans h.connecting, h'.connects.trans h.connects,
    Nat.le_trans h'.length h.length⟩

theorem Bounded.quiet (h : Bounded cfg p) (hq : Quiet p p') : Bounded cfg p' := by
  obtain ⟨h1, h2, h3, h4⟩ := hq
  refine ⟨h1.trans h.config, ?_, ?_, ?_⟩
  · rw [h3]
    exact h.one
  · rw [h2, h3]
    exact h.flag
  · rw [h3]
    have := h.room
    omega

theorem quiet_iterate (n : Nat) : ∀ p : Client, Quiet p (notify^[n] p) := by
  induction n with
  | zero => exact Quiet.refl
  | succ n ih =>
      intro p
      rw [Function.iterate_succ_apply]
      have h1 : Quiet p p.notify := ⟨rfl, rfl, rfl, Nat.le_refl _⟩
      exact h1.trans (ih p.notify)

theorem quiet_onConnection (p : Client) (i : Nat) (a : Connection.Step) :
    Quiet p (p.onConnection i a) := by
  cases he : p.connections[i]? with
  | none =>
      unfold onConnection
      rw [he]
      exact .refl p
  | some e =>
      rw [onConnection_eq he]
      have h1 : Quiet p (p.setNext i e a) :=
        ⟨rfl, rfl, rfl, Nat.le_of_eq List.length_set⟩
      exact h1.trans (quiet_iterate _ _)

theorem quiet_cleaned (p : Client) (now rand : Nat) : Quiet p (p.cleaned now rand) := by
  refine ⟨rfl, rfl, rfl, ?_⟩
  show (p.getClient now rand).1.length ≤ _
  rw [getClient_connections]
  exact List.length_filter_le _ _

/-- A task starts when there is room for a connection. -/
theorem Bounded.connect (h : Bounded cfg p) (call : Call) :
    Bounded cfg (p.connect p.connections.length call) := by
  unfold Client.connect
  dsimp only
  split
  · next hcond =>
      obtain ⟨hflag, hnum⟩ := Bool.and_eq_true_iff.mp hcond
      have hoff : ¬p.connecting = true := by simpa using hflag
      have hnone : p.connects = 0 := by
        have := h.one
        have := h.flag.not.mp hoff
        omega
      have hlen : p.connections.length < limit cfg := by
        rw [← h.config]
        unfold limit
        rcases Bool.or_eq_true_iff.mp hnum with hlt | hlt
        · exact Nat.lt_of_lt_of_le (of_decide_eq_true hlt) (Nat.le_max_left _ _)
        · exact Nat.lt_of_lt_of_le (of_decide_eq_true (Bool.and_eq_true_iff.mp hlt).2)
            (Nat.le_max_right _ _)
      refine ⟨h.config, ?_, ?_, ?_⟩
      · show p.connects + 1 ≤ 1
        omega
      · show true = true ↔ p.connects + 1 = 1
        rw [hnone]
        exact ⟨fun _ => rfl, fun _ => rfl⟩
      · show p.connections.length + (p.connects + 1) ≤ limit cfg
        omega
  · exact h.quiet ⟨rfl, rfl, rfl, Nat.le_refl _⟩

theorem Bounded.attempt (h : Bounded cfg p) (woken : Bool) (now rand : Nat) (call : Call) :
    Bounded cfg (p.attempt woken now rand call) := by
  have hcl := h.quiet (quiet_cleaned p now rand)
  cases call with
  | ready =>
      show Bounded cfg (if p.isReady then p else p.waitForCapacity .ready)
      split
      · exact h
      · exact h.quiet ⟨rfl, rfl, rfl, Nat.le_refl _⟩
  | client =>
      unfold Client.attempt
      dsimp only
      split
      · split
        · exact hcl.quiet ⟨rfl, rfl, rfl, Nat.le_refl _⟩
        · exact hcl
      · exact hcl.connect .client
  | send r =>
      unfold Client.attempt
      dsimp only
      split
      · exact hcl.quiet (quiet_onConnection _ _ _)
      · exact hcl.connect (.send r)

theorem Bounded.wake (h : Bounded cfg p) (t now rand : Nat) : Bounded cfg (p.wake t now rand) := by
  have hleave : Bounded cfg (p.leave t) := h.quiet ⟨rfl, rfl, rfl, Nat.le_refl _⟩
  unfold Client.wake
  split
  · split
    · exact (hleave.quiet (quiet_iterate 1 _)).attempt true now rand .ready
    · exact hleave.attempt true now rand _
  · exact h

theorem quiet_dropWaiter (p : Client) (t : Nat) : Quiet p (p.dropWaiter t) := by
  unfold dropWaiter
  split
  · exact ⟨rfl, rfl, rfl, Nat.le_refl _⟩
  · exact ⟨rfl, rfl, rfl, Nat.le_refl _⟩
  · exact .refl p

/-- The task ends, with a connection or without. -/
theorem Bounded.connectEnds (h : Bounded cfg p) (hpos : 0 < p.connects)
    {es : List SimpleClient} (hes : es.length ≤ p.connections.length + 1) :
    Bounded cfg ({ p with connections := es } : Client).connectEnds := by
  have hone := h.one
  refine ⟨h.config, ?_, ?_, ?_⟩
  · show p.connects - 1 ≤ 1
    omega
  · show false = true ↔ p.connects - 1 = 1
    constructor
    · intro hf
      cases hf
    · intro hf
      omega
  · show es.length + (p.connects - 1) ≤ limit cfg
    have := h.room
    omega

theorem Bounded.step (h : Bounded cfg p) {a : Step} (ha : p.Enabled a) :
    Bounded cfg (p.step a) := by
  cases a with
  | call call now rand => exact h.attempt false now rand call
  | wake t now rand => exact h.wake t now rand
  | dropWaiter t => exact h.quiet (quiet_dropWaiter p t)
  | connected s now =>
      refine h.connectEnds ha.1 (Nat.le_of_eq ?_)
      rw [List.length_append]
      rfl
  | connectFailed => exact h.connectEnds ha (Nat.le_succ _)
  | connection i a => exact h.quiet (quiet_onConnection p i a)
  | notify => exact h.quiet (quiet_iterate 1 p)
  | sendHeld i w r =>
      refine h.quiet ?_
      show Quiet p (p.sendHeld i w r)
      unfold sendHeld
      split
      · dsimp only
        split
        · exact (quiet_onConnection p i (sendStep w r)).trans ⟨rfl, rfl, rfl, Nat.le_refl _⟩
        · exact quiet_onConnection p i (sendStep w r)
      · exact .refl p
  | dropHeld => exact h.quiet ⟨rfl, rfl, rfl, Nat.le_refl _⟩

theorem bounded_of_reachable (h : Reachable cfg p) : Bounded cfg p := by
  induction h with
  | build =>
      exact ⟨rfl, Nat.zero_le 1, ⟨fun h => (by cases h), fun h => (by cases h)⟩, Nat.zero_le _⟩
  | step a _ ha ih => exact ih.step ha

theorem signal_of_mem {x : Signal} (h : p.Tidy) (hm : (t, x) ∈ p.channels) :
    p.signal t = some x := by
  unfold signal
  cases hf : p.channels.find? (·.1 == t) with
  | none =>
      have := List.find?_eq_none.mp hf (t, x) hm
      simp at this
  | some w =>
      have hid : w.1 = t := by simpa using List.find?_some hf
      have hw : w = (t, x) :=
        List.inj_on_of_nodup_map h.line.keys (List.mem_of_find?_eq_some hf) hm hid
      rw [hw]
      rfl

/-- The step is the end of a connect. -/
def EndsConnect : Step → Prop
  | .connected _ _ | .connectFailed => True
  | _ => False

theorem connectEnds_signals (h : p.Sound) (ht : t ∈ p.waiters) :
    p.connectEnds.signal t = some .sent := by
  refine signal_of_mem h.connectEnds.tidy ?_
  have hmap : (t, Signal.sent) ∈ p.channels.map fun w =>
      if w.1 ∈ p.waiters then (w.1, .sent) else w :=
    List.mem_map.mpr ⟨_, h.tidy.alive t ht, if_pos ht⟩
  exact hmap

/-- At most one connect is in progress, and the flag says whether one is; the pool has no more
connections than it may have; and the end of a connect notifies everybody in the queue. -/
theorem pool_size_bound (h : Reachable cfg p) :
    p.connects ≤ 1 ∧ (p.connecting = true ↔ p.connects = 1) ∧
    p.connections.length ≤ max cfg.maxconn cfg.minconn ∧
    ∀ a, p.Enabled a → EndsConnect a →
      (p.step a).waiters = [] ∧ ∀ t ∈ p.waiters, (p.step a).signal t = some .sent := by
  have hb := bounded_of_reachable h
  have hs := sound_of_reachable h
  refine ⟨hb.one, hb.flag, ?_, fun a ha hends => ?_⟩
  · have hroom := hb.room
    unfold limit at hroom
    omega
  · cases a with
    | connected s now => exact ⟨rfl, fun t ht => connectEnds_signals (hs.add ha.2 now) ht⟩
    | connectFailed => exact ⟨rfl, fun t ht => connectEnds_signals hs ht⟩
    | _ => exact False.elim hends

/-- A pool of one connection. -/
def oneConnection : InnerConfig := ⟨1, 1, 0, 100⟩

/-- The connection is about to be established, and a second caller waits for it. -/
theorem pool_size_bound_connecting : ∃ p, Reachable oneConnection p ∧ p.connects = 1 ∧
    p.waiters = [0] ∧ (p.step .connectFailed).signal 0 = some .sent ∧
      p.connections.length ≤ 1 := by
  have h : Reachable oneConnection (((build oneConnection).step (.call .client 0 0)).step
      (.call .client 0 0)) := .step _ (.step _ .build trivial) trivial
  obtain ⟨-, -, hlen, hends⟩ := pool_size_bound h
  exact ⟨_, h, by decide, by decide,
    (hends .connectFailed (by show 0 < _; decide) trivial).2 0 (by decide), hlen⟩

end Client

end NtexH2
