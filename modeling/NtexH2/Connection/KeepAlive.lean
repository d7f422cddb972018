/-
  Connection/KeepAlive.lean --- the keep-alive task of a connection (src/connection.rs, `ping`,
  `recv_pong`).

  The task and the dispatcher share two cells: the payload of the last PING, and the flag
  RECV_PONG.  Whatever the peer sends, the flag says whether the last PING has been acked
  since it was written.
-/
import NtexH2.Connection.Fatal
import NtexH2.Lib.BigEndian

set_option autoImplicit false

namespace NtexH2

/-- Where the task is; `timedOut` is after `notify_timeout`. -/
inductive PingPhase where
  | new
  | sleeping
  | done
  | timedOut
  deriving DecidableEq, Repr

/-- The task, and the cells that it shares with the dispatcher; `pong` is RECV_PONG. -/
structure PingTask where
  phase : PingPhase := .new
  counter : Nat := 0
  pingPayload : Bytes := [0, 0, 0, 0, 0, 0, 0, 0]
  pong : Bool := false
  deriving DecidableEq, Repr

namespace PingTask

/-- `ping`, up to the loop. -/
def start (t : PingTask) (closed : Bool) : PingTask :=
  { t with pong := true, phase := if closed then .done else .sleeping }

/-- A turn of the loop of `ping`, and the payload that it writes. -/
def wake (t : PingTask) (closed : Bool) : PingTask × Option Bytes :=
  if closed then ({ t with phase := .done }, none)
  else if !t.pong then ({ t with phase := .timedOut }, none)
  else
    let counter := (t.counter + 1) % 2 ^ 64
    let payload := Lib.BigEndian.write 8 counter
    ({ t with counter := counter, pong := false, pingPayload := payload }, some payload)

/-- `RecvHalfConnection::recv_pong`. -/
def recvPong (t : PingTask) (payload : Bytes) : PingTask :=
  if payload = t.pingPayload then { t with pong := true } else t

/-- `Dispatcher::call` with a frame, as far as the task is concerned. -/
def hear (t : PingTask) (c : Connection) (f : Frame) : PingTask :=
  match f with
  | .ping true payload => if c.checkFirstFrame f then t.recvPong payload else t
  | _ => t

@[simp] theorem hear_phase (t : PingTask) (c : Connection) (f : Frame) :
    (t.hear c f).phase = t.phase := by
  unfold hear recvPong
  split
  · split
    · split
      · rfl
      · rfl
    · rfl
  · rfl

/-- The PING that the task waits for. -/
def awaited (t : PingTask) : Option Bytes := if t.pong then none else some t.pingPayload

end PingTask

/-- A connection and its keep-alive task. -/
structure KeepAlive where
  con : Connection
  task : PingTask := {}

namespace KeepAlive

/-- What happens next: the task starts, wakes up, or something else happens to the connection. -/
inductive Input where
  | start
  | wake
  | other (a : Connection.Step)

def step (k : KeepAlive) : Input → KeepAlive
  | .start => { k with task := k.task.start k.con.ioClosed }
  | .wake =>
      match k.task.wake k.con.ioClosed with
      | (t, some payload) => ⟨k.con.step (.ping payload), t⟩
      | (t, none) => ⟨k.con, t⟩
  | .other (.receive f) => ⟨k.con.step (.receive f), k.task.hear k.con f⟩
  | .other a => ⟨k.con.step a, k.task⟩

/-- Only the task writes PINGs. -/
def Enabled (k : KeepAlive) : Input → Prop
  | .start => k.task.phase = .new
  | .wake => k.task.phase = .sleeping
  | .other a => k.con.Enabled a ∧ ∀ payload, a ≠ .ping payload

/-- The runs of a connection and its task. -/
inductive Runs (s : Connection.Start) : KeepAlive → Prop where
  | new : Runs s { con := s.init }
  | step {k : KeepAlive} (i : Input) : Runs s k → k.Enabled i → Runs s (k.step i)

end KeepAlive

/-! ## The PING that waits for its ack -/

namespace Event

/-- What an event does to the PING that waits for its ack. -/
def awaits : Event → Option Bytes → Option Bytes
  | .sent _ _ (.ping false payload), _ => some payload
  | .received _ (.ping true payload), w => if w = some payload then none else w
  | _, w => w

theorem awaits_quiet {e : Event} (h : e.arrival = false)
    (hp : ∀ obj w payload, e ≠ .sent obj w (.ping false payload)) (w : Option Bytes) :
    e.awaits w = w := by
  cases e with
  | received obj f => cases h
  | sent obj wr f =>
      cases f with
      | ping ack payload =>
          cases ack with
          | true => rfl
          | false => exact absurd rfl (hp obj wr payload)
      | _ => rfl
  | _ => rfl

end Event

/-- The PING in a history that has been written last, unless its ack has come since. -/
def pending (l : List Event) : Option Bytes := l.foldr Event.awaits none

/-- Only received frames matter as long as no PING is written. -/
theorem pending_append {es : List Event} (l : List Event)
    (hp : ∀ obj w payload, .sent obj w (.ping false payload) ∉ es) :
    pending (es ++ l) = (es.filter Event.arrival).foldr Event.awaits (pending l) := by
  induction es with
  | nil => rfl
  | cons e es ih =>
      have ih' := ih fun obj w payload hm => hp obj w payload (List.mem_cons_of_mem e hm)
      change e.awaits (pending (es ++ l)) = _
      rw [ih']
      cases ha : e.arrival with
      | true =>
          rw [List.filter_cons_of_pos ha]
          rfl
      | false =>
          rw [List.filter_cons_of_neg (by rw [ha]; exact Bool.false_ne_true)]
          refine Event.awaits_quiet ha (fun obj w payload heq => ?_) _
          exact hp obj w payload (heq ▸ List.mem_cons_self)

namespace PingTask

theorem awaited_recvPong (t : PingTask) (payload : Bytes) :
    (t.recvPong payload).awaited = if t.awaited = some payload then none else t.awaited := by
  unfold recvPong awaited
  by_cases hsame : payload = t.pingPayload
  · subst hsame
    rw [if_pos rfl, if_pos rfl]
    cases t.pong with
    | true => rfl
    | false => exact (if_pos rfl).symm
  · rw [if_neg hsame]
    cases t.pong with
    | true => rfl
    | false => exact (if_neg fun h => hsame (Option.some.inj h).symm).symm

/-- A frame does the same to the task as to the history. -/
theorem awaited_hear (t : PingTask) {c : Connection} {f : Frame}
    (h : c.checkFirstFrame f = true) :
    (t.hear c f).awaited = (Event.received none f).awaits t.awaited := by
  cases f with
  | ping ack payload =>
      cases ack with
      | false => rfl
      | true =>
          unfold hear
          dsimp only
          rw [if_pos h]
          exact t.awaited_recvPong payload
  | _ => rfl

end PingTask

namespace Connection

variable {s : Start} {c : Connection}

/-- A step adds to the history. -/
theorem log_step (hr : Reachable s c) {a : Step} (ha : c.Enabled a) :
    ∃ es, (c.step a).log = es ++ c.log := by
  have hsteps := (runs_step ha (finds_anyRun c a) hr.clean).2
  obtain ⟨es, hlog, -⟩ := (hsteps.passes hr.clean.good).log
  exact ⟨es, hlog⟩

/-- What a reaction adds to the history. -/
theorem Reacts.added {c' : Connection} {err : Option ConnectionError} {sent : List Event}
    (h : Reacts c c' err sent) {es : List Event} (hlog : c'.log = es ++ c.log) :
    es.filter Event.pinged = sent ∧ es.filter Event.arrival = [] := by
  have hp : c'.log.filter Event.pinged = sent ++ c.log.filter Event.pinged := h.pings
  have ha : c'.log.filter Event.arrival = c.log.filter Event.arrival := h.arrivals
  rw [hlog] at hp ha
  exact ⟨filter_append_cancel hp, filter_append_cancel (ha.trans (List.nil_append _).symm)⟩

theorem pending_local (hr : Reachable s c) {a : Step} (ha : c.Enabled a) (hl : Local a)
    (hp : ∀ payload, a ≠ .ping payload) : pending (c.step a).log = pending c.log := by
  obtain ⟨es, hlog⟩ := log_step hr ha
  obtain ⟨err, hre⟩ := reacts_local (c := c) hl hp
  obtain ⟨hpings, harr⟩ := hre.added hlog
  rw [hlog, pending_append c.log fun obj w payload hm => ?_, harr]
  · rfl
  · have hm' : .sent obj w (.ping false payload) ∈ es.filter Event.pinged :=
      List.mem_filter.mpr ⟨hm, rfl⟩
    rw [hpings] at hm'
    cases hm'

theorem pending_receive (hr : Reachable s c) {f : Frame} (hf : f.Loads) :
    pending (c.receive f).log = (Event.received none f).awaits (pending c.log) := by
  obtain ⟨es, hlog⟩ := log_step hr (a := .receive f) hf
  change (c.receive f).log = es ++ c.log at hlog
  have hre := reacts_receive c f
  have hp : (c.receive f).log.filter Event.pinged = _ ++ c.log.filter Event.pinged := hre.pings
  have ha : (c.receive f).log.filter Event.arrival =
      [.received (f.streamId.bind c.query) f] ++ c.log.filter Event.arrival := hre.arrivals
  rw [hlog] at hp ha
  have hpings := filter_append_cancel hp
  rw [hlog, pending_append c.log fun obj w payload hm => ?_, filter_append_cancel ha]
  · cases f <;> rfl
  · have hm' : .sent obj w (.ping false payload) ∈ es.filter Event.pinged :=
      List.mem_filter.mpr ⟨hm, rfl⟩
    rw [hpings] at hm'
    split at hm'
    · cases f with
      | ping ack p =>
          cases ack with
          | true => cases hm'
          | false => cases List.mem_singleton.mp hm'
      | _ => cases hm'
    · cases hm'

end Connection

/-! ## Runs -/

namespace KeepAlive

open Connection (Start Reachable)

variable {s : Start} {k : KeepAlive}

/-- What holds of a connection and its task after every step. -/
structure Sound (s : Start) (k : KeepAlive) : Prop where
  run : Reachable s k.con
  fresh : k.task.phase = .new → pending k.con.log = none
  flag : k.task.phase ≠ .new → .failed .missingSettings ∉ k.con.log →
    pending k.con.log = k.task.awaited

theorem Sound.start (h : Sound s k) (hp : k.task.phase = .new) : Sound s (k.step .start) where
  run := h.run
  fresh := fun _ => h.fresh hp
  flag := fun _ _ => h.fresh hp

theorem Sound.wake (h : Sound s k) (hp : k.task.phase = .sleeping) : Sound s (k.step .wake) := by
  have hold : k.task.phase ≠ .new := by
    rw [hp]
    decide
  unfold KeepAlive.step PingTask.wake
  dsimp only
  split
  · -- the io is closed, or the ack has not come, or a PING is written
    next t payload heq =>
      split at heq
      · cases heq
      · split at heq
        · cases heq
        · cases heq
          exact ⟨h.run.step (.ping _) trivial, fun hn => absurd hn hold, fun _ _ => rfl⟩
  · next t heq =>
      split at heq
      · cases heq
        exact ⟨h.run, fun hn => (by cases hn), fun _ hm => h.flag hold hm⟩
      · split at heq
        · cases heq
          exact ⟨h.run, fun hn => (by cases hn), fun _ hm => h.flag hold hm⟩
        · cases heq

theorem Sound.local_step (h : Sound s k) {a : Connection.Step} (ha : k.con.Enabled a)
    (hl : Connection.Local a) (hp : ∀ payload, a ≠ .ping payload) :
    Sound s ⟨k.con.step a, k.task⟩ := by
  obtain ⟨es, hlog⟩ := Connection.log_step h.run ha
  have heq := Connection.pending_local h.run ha hl hp
  refine ⟨h.run.step a ha, fun hn => heq.trans (h.fresh hn), fun hn hm => ?_⟩
  refine heq.trans (h.flag hn fun hm' => hm ?_)
  show .failed .missingSettings ∈ (k.con.step a).log
  rw [hlog]
  exact List.mem_append_right _ hm'

theorem Sound.receive (h : Sound s k) {f : Frame} (hf : f.Loads) :
    Sound s ⟨k.con.receive f, k.task.hear k.con f⟩ := by
  obtain ⟨es, hlog⟩ := Connection.log_step h.run (a := .receive f) hf
  have heq := Connection.pending_receive h.run hf
  refine ⟨h.run.step (.receive f) hf, fun hn => ?_, fun hn hm => ?_⟩
  · -- there is no PING that an ack could be for
    refine heq.trans ?_
    rw [PingTask.hear_phase] at hn
    rw [h.fresh hn]
    cases f with
    | ping ack payload => cases ack <;> rfl
    | _ => rfl
  · have hm' : .failed .missingSettings ∉ k.con.log := fun hx => hm (by
      show _ ∈ (k.con.step (.receive f)).log
      rw [hlog]
      exact List.mem_append_right _ hx)
    have hfirst : k.con.checkFirstFrame f = true := by
      by_contra hfalse
      have hfatal : k.con.fatal f = some .missingSettings := by
        unfold Connection.fatal
        exact if_neg hfalse
      have hfail := Connection.failures_receive k.con f
      rw [hfatal] at hfail
      have hmem : .failed .missingSettings ∈ (k.con.receive f).failures := by
        rw [hfail]
        exact List.mem_cons_self
      exact hm (List.mem_filter.mp hmem).1
    rw [PingTask.hear_phase] at hn
    show pending (k.con.receive f).log = (k.task.hear k.con f).awaited
    rw [heq, h.flag hn hm', PingTask.awaited_hear _ hfirst]

theorem Runs.sound (h : Runs s k) : Sound s k := by
  induction h with
  | new =>
      refine ⟨.new, fun _ => ?_, fun hn => absurd rfl hn⟩
      obtain ⟨-, -, hlog⟩ := Connection.new_window s.server s.config s.secure s.skipStreams
      change s.init.log = _ ∨ ∃ n, s.init.log = _ at hlog
      rcases hlog with hlog | ⟨n, hlog⟩
      · show pending s.init.log = none
        rw [hlog]
        rfl
      · show pending s.init.log = none
        rw [hlog]
        rfl
  | step i _ hi ih =>
      cases i with
      | start => exact ih.start hi
      | wake => exact ih.wake hi
      | other a =>
          obtain ⟨ha, hp⟩ := hi
          cases a with
          | receive f => exact ih.receive ha
          | _ => exact ih.local_step ha trivial hp

/-- The keep-alive task is never misled: whatever the peer sends after its settings, once the task
has started the flag RECV_PONG is set exactly when no PING waits for its ack, and the PING that
waits is the last one.  An ack with another payload proves nothing. -/
theorem pong_heard (h : Runs s k) (hstart : k.task.phase ≠ .new)
    (hfirst : .failed .missingSettings ∉ k.con.log) :
    pending k.con.log = k.task.awaited :=
  h.sound.flag hstart hfirst

theorem Runs.receive (h : Runs s k) {f : Frame} (hf : f.Loads) :
    Runs s (k.step (.other (.receive f))) :=
  h.step _ ⟨hf, fun _ heq => by cases heq⟩

/-- The peer acks another PING than that of the task. -/
theorem pong_heard_stray : ∃ k, Runs Connection.serverStart k ∧ k.task.phase = .timedOut ∧
    pending k.con.log = some [0, 0, 0, 0, 0, 0, 0, 1] := by
  have hset : Frame.Loads (.settings Connection.noSettings) :=
    ⟨fun v hv => (by cases hv), fun v hv => (by cases hv)⟩
  have h0 : Runs Connection.serverStart { con := Connection.serverStart.init } := .new
  have h1 := ((h0.step .start rfl).receive hset).step .wake rfl
  have h2 := (h1.receive (f := .ping true [0, 0, 0, 0, 0, 0, 0, 0]) trivial).step .wake rfl
  exact ⟨_, h2, by decide +kernel, (pong_heard h2 (by decide +kernel) (by decide +kernel)).trans
    (by decide +kernel)⟩

end KeepAlive

end NtexH2
