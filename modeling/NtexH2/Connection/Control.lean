/-
  Connection/Control.lean --- the end of a connection (src/dispatcher.rs, `control`,
  `go_away`, `call_control`; src/control.rs; src/error.rs, `to_goaway`).

  The control service is told once why a connection ends.  A connection that has failed is
  closed, or waits for the answer of its control service; what the service is not told is
  answered with the GOAWAY of the error.
-/
import NtexH2.Connection.Fatal
import NtexH2.Connection.Finished

set_option autoImplicit false

namespace NtexH2

/-! ## Texts -/

/-- The text of a `FrameContinuationError`. -/
def FrameContinuationError.text : FrameContinuationError → String
  | .expected => "Continuation frame is expected"
  | .unexpected => "Continuation frame is unexpected"
  | .unknownStreamId => "Continuation frame's stream id is unexpected"
  | .maxLeftoverSize => "Max left over size"
  | .maxContinuations => "Max count of Continuations"

/-- The text of a `DecoderError` of HPACK. -/
def Hpack.DecoderError.text : Hpack.DecoderError → String
  | .invalidRepresentation => "InvalidRepresentation"
  | .invalidIntegerPrefix => "InvalidIntegerPrefix"
  | .invalidTableIndex => "InvalidTableIndex"
  | .invalidHuffmanCode => "InvalidHuffmanCode"
  | .invalidUtf8 => "InvalidUtf8"
  | .invalidStatusCode => "InvalidStatusCode"
  | .invalidPseudoheader => "InvalidPseudoheader"
  | .invalidMaxDynamicSize => "InvalidMaxDynamicSize"
  | .integerOverflow => "IntegerOverflow"
  | .needMore .unexpectedEndOfStream => "Unexpected end of stream"
  | .needMore .integerUnderflow => "Integer underflow"
  | .needMore .stringUnderflow => "String underflow"

/-- The text of a `FrameError`. -/
def FrameError.text : FrameError → String
  | .badFrameSize => "Invalid frame length"
  | .maxFrameSize => "Frame size exceeded"
  | .tooMuchPadding =>
      "The padding length was larger than the frame-header-specified length of the payload"
  | .tooManyHeaders _ => "Headers frame contains too many headers"
  | .invalidSettingValue => "An invalid setting value was provided"
  | .invalidInitialWindowSize => "Initial window size is above the maximum window size"
  | .invalidPayloadLength =>
      "The payload length specified by the frame header was not the value necessary " ++
        "for the specific frame type"
  | .invalidPayloadAckSettings => "Received a payload with an ACK settings frame"
  | .invalidStreamId => "An invalid stream identifier was provided"
  | .malformedMessage => "A request or response is malformed"
  | .invalidDependencyId => "An invalid stream dependency ID was provided"
  | .invalidPreface => "An invalid preface"
  | .unexpectedPushPromise => "Unexpected push promise"
  | .continuation e => e.text
  | .hpack e => e.text

/-- `ConnectionError::to_goaway`: the reason and the data of the frame. -/
def ConnectionError.toGoaway : ConnectionError → Reason × String
  | .goAway reason => (reason, "")
  | .encoder _ => (.protocolError, "Error during frame encoding")
  | .decoder e => (e.reason, e.text)
  | .missingSettings => (.protocolError, "First frame is not SETTINGS")
  | .unexpectedEnablePush => (.protocolError, "Server enabled push")
  | .unknownStream _ => (.protocolError, "Unknown stream")
  | .invalidStreamId _ => (.protocolError, "An invalid stream identifier was provided")
  | .streamClosed id _ => (.streamClosed, "StreamId(" ++ toString id ++ ") is closed")
  | .unexpectedSettingsAck => (.protocolError, "Received unexpected settings ack")
  | .zeroWindowUpdateValue =>
      (.protocolError, "Zero value for window update frame is not allowed")
  | .windowValueOverflow => (.flowControlError, "Updated value for window is overflowed")
  | .recvWindowExceeded => (.flowControlError, "Connection receive window is exceeded")
  | .streamResetsLimit => (.enhanceYourCalm, "Stream rapid reset count achieved")
  | .keepaliveTimeout => (.noError, "Keep-alive timeout")
  | .settingsTimeout => (.settingsTimeout, "Settings acknowledgment timeout")
  | .readTimeout => (.noError, "Frame read timeout")
  | .writeTimeout => (.noError, "Frame write timeout")

/-! ## The control service -/

/-- A GOAWAY frame: the last stream, the reason and the data. -/
structure GoAwayFrame where
  lastId : StreamId
  reason : Reason
  data : Bytes
  deriving DecidableEq, Repr

/-- The GOAWAY of an error. -/
def ConnectionError.frame (e : ConnectionError) (last : StreamId) : GoAwayFrame :=
  ⟨last, e.toGoaway.1, octets e.toGoaway.2⟩

/-- `Control::Disconnect`. -/
inductive Control where
  | error (lastId : StreamId)
  | protoError (e : ConnectionError) (lastId : StreamId)
  | goAway (frame : GoAwayFrame)
  | peerGone
  deriving DecidableEq, Repr

/-- `Control::ack`. -/
def Control.ack : Control → Option GoAwayFrame
  | .error last => some ⟨last, .internalError, []⟩
  | .protoError e last => some (e.frame last)
  | .goAway _ | .peerGone => none

/-- The dispatcher with the calls of the control service: all of them, and those that have not
returned, with whether the io is closed then. -/
structure Dispatcher where
  con : Connection
  disconnected : Bool
  calls : List Control
  pending : List (Control × Bool)

namespace Dispatcher

/-- `Dispatcher::new`. -/
def new (s : Connection.Start) : Dispatcher := ⟨s.init, false, [], []⟩

/-- A step of the connection. -/
def move (d : Dispatcher) (a : Connection.Step) : Dispatcher := { d with con := d.con.step a }

/-- A frame is written, and the io is closed. -/
def finish (d : Dispatcher) (frame : Option GoAwayFrame) (close : Bool) : Dispatcher :=
  d.move (.control (frame.map fun f => (f.lastId, f.reason, f.data)) close)

/-- `call_control`, up to the answer of the service. -/
def callControl (d : Dispatcher) (pkt : Control) (close : Bool) : Dispatcher :=
  { d with
    disconnected := true
    calls := d.calls ++ [pkt]
    pending := d.pending ++ [(pkt, close)] }

/-- `control`. -/
def control (d : Dispatcher) (pkt : Control) : Dispatcher :=
  if d.disconnected then d.finish pkt.ack true else d.callControl pkt true

/-- `go_away`. -/
def goAway (d : Dispatcher) (pkt : Control) : Dispatcher :=
  if d.disconnected then d else d.callControl pkt false

/-- The rest of `call_control`; the service answers with a frame, or fails. -/
def answer (d : Dispatcher) (i : Nat) (res : Option (Option GoAwayFrame)) : Dispatcher :=
  match d.pending[i]? with
  | none => d
  | some (_, close) =>
      let d := { d with pending := d.pending.eraseIdx i }
      match res with
      | some frame => d.finish frame close
      | none => d.finish (some ⟨d.con.lastId, .internalError, []⟩) true

/-- What can happen to a dispatcher. -/
inductive Input where
  | receive (f : Frame)
  | stop (s : Connection.Stop)
  | publishError
  | readyError
  | answer (i : Nat) (res : Option (Option GoAwayFrame))
  | other (a : Connection.Step)

/-- The control event of a frame. -/
def received (d : Dispatcher) : Frame → Dispatcher
  | .goAway last reason data => d.goAway (.goAway ⟨last, reason, data⟩)
  | _ => d

/-- `Dispatcher::call` with a stop; `c` is the connection before it. -/
def stopped (d : Dispatcher) (c : Connection) : Connection.Stop → Dispatcher
  | .encoder e => d.control (.protoError (.encoder e) d.con.lastId)
  | .decoder e => d.control (.protoError (.decoder e) d.con.lastId)
  | .keepAlive =>
      if c.settingsTimeout then d.control (.protoError .settingsTimeout d.con.lastId)
      else d.control (.protoError .keepaliveTimeout d.con.lastId)
  | .readTimeout => d.control (.protoError .readTimeout d.con.lastId)
  | .writeTimeout => d.control (.protoError .writeTimeout d.con.lastId)
  | .io => d.control .peerGone
  | .service => d

/-- One step: `Dispatcher::call`, `Dispatcher::ready` and `publish` with an error of the publish
service, the answer of the control service, or anything else that happens to the connection. -/
def step (d : Dispatcher) : Input → Dispatcher
  | .receive f =>
      match d.con.fatal f with
      | some e => (d.move (.receive f)).control (.protoError e (d.con.step (.receive f)).lastId)
      | none => (d.move (.receive f)).received f
  | .stop s => (d.move (.stop s)).stopped d.con s
  | .publishError => d.control (.error d.con.lastId)
  | .readyError => (d.move .shutdown).control (.error (d.con.step .shutdown).lastId)
  | .answer i res => d.answer i res
  | .other a => d.move a

/-- The steps of the connection that the dispatcher makes. -/
def Calls : Connection.Step → Prop
  | .receive _ | .stop _ | .control _ _ => True
  | _ => False

def Enabled (d : Dispatcher) : Input → Prop
  | .receive f => d.con.Enabled (.receive f)
  | .other a => d.con.Enabled a ∧ ¬Calls a
  | _ => True

/-- The runs of a dispatcher. -/
inductive Runs (s : Connection.Start) : Dispatcher → Prop where
  | new : Runs s (.new s)
  | step {d : Dispatcher} (a : Input) : Runs s d → d.Enabled a → Runs s (d.step a)

/-! ## One step -/

open Connection (Start Reachable)

variable {s : Start} {d : Dispatcher} {e : ConnectionError} {last : StreamId}

/-- What holds of a dispatcher after every step. -/
structure Sound (s : Start) (d : Dispatcher) : Prop where
  run : Reachable s d.con
  idle : d.disconnected = false → d.calls = [] ∧ d.pending = []
  once : d.calls.length ≤ 1
  waits : d.pending.length ≤ 1
  closes : ∀ e, .failed e ∈ d.con.log →
    d.con.ioClosed = true ∨ ∃ last, d.pending = [(.protoError e last, true)]
  told : ∀ e, .failed e ∈ d.con.log → (∃ last, .protoError e last ∈ d.calls) ∨
    ∃ last, .sent none .connection (.goAway last e.toGoaway.1 (octets e.toGoaway.2)) ∈ d.con.log

theorem failed_mem {c : Connection} : .failed e ∈ c.log ↔ .failed e ∈ c.failures := by
  unfold Connection.failures
  rw [List.mem_filter]
  exact ⟨fun h => ⟨h, rfl⟩, fun h => h.1⟩

/-- What a step of the connection keeps. -/
structure Stays (c c' : Connection) : Prop where
  log : ∀ x ∈ c.log, x ∈ c'.log
  ioClosed : c.ioClosed = true → c'.ioClosed = true

theorem stays_step {c : Connection} (hr : Reachable s c) {a : Connection.Step} (ha : c.Enabled a) :
    Stays c (c.step a) := by
  have hsteps := (Connection.runs_step ha (Connection.finds_anyRun c a) hr.clean).2
  exact ⟨(Connection.recalls_step hr.clean ha).log, (Session.Steps.grows hsteps).ioClosed⟩

/-- A step of the connection that does not fail it. -/
theorem Sound.move (h : Sound s d) {a : Connection.Step} (ha : d.con.Enabled a)
    (hf : (d.con.step a).failures = d.con.failures) : Sound s (d.move a) := by
  have hst := stays_step h.run ha
  have hold : ∀ e, .failed e ∈ (d.con.step a).log → .failed e ∈ d.con.log := by
    intro e he
    rw [failed_mem] at he ⊢
    rwa [← hf]
  refine ⟨h.run.step a ha, h.idle, h.once, h.waits, fun e he => ?_, fun e he => ?_⟩
  · exact (h.closes e (hold e he)).imp_left hst.ioClosed
  · exact (h.told e (hold e he)).imp_right fun ⟨last, hm⟩ => ⟨last, hst.log _ hm⟩

theorem Sound.local_move (h : Sound s d) {a : Connection.Step} (ha : d.con.Enabled a)
    (hl : Connection.Local a) (hstop : ∀ x, a ≠ .stop x) : Sound s (d.move a) := by
  refine h.move ha ?_
  rcases Connection.failures_local (c := d.con) hl with heq | ⟨x, -, rfl, -⟩
  · exact heq
  · exact absurd rfl (hstop x)

theorem Sound.finish (h : Sound s d) (frame : Option GoAwayFrame) (close : Bool) :
    Sound s (d.finish frame close) :=
  h.local_move trivial trivial fun x heq => by cases heq

theorem finish_run (hr : Reachable s d.con) (frame : Option GoAwayFrame) (close : Bool) :
    Reachable s (d.finish frame close).con ∧ Stays d.con (d.finish frame close).con := by
  have ha : d.con.Enabled (.control (frame.map fun f => (f.lastId, f.reason, f.data)) close) :=
    trivial
  exact ⟨hr.step _ ha, stays_step hr ha⟩

theorem finish_failures (d : Dispatcher) (frame : Option GoAwayFrame) (close : Bool) :
    (d.finish frame close).con.failures = d.con.failures := by
  rcases Connection.failures_local (c := d.con)
    (a := .control (frame.map fun f => (f.lastId, f.reason, f.data)) close) trivial with
    heq | ⟨x, -, hno, -⟩
  · exact heq
  · cases hno

theorem finish_closed (d : Dispatcher) (frame : Option GoAwayFrame) :
    (d.finish frame true).con.ioClosed = true := rfl

theorem finish_written (d : Dispatcher) (f : GoAwayFrame) (close : Bool) :
    .sent none .connection (.goAway f.lastId f.reason f.data) ∈
      (d.finish (some f) close).con.log := by
  cases close with
  | false => exact List.mem_cons_self
  | true => exact List.mem_cons_of_mem _ List.mem_cons_self

/-- The control service is called for the first time; no failure is left to be told. -/
theorem Sound.callControl (h : Sound s d) (hd : d.disconnected = false) (pkt : Control)
    (close : Bool) : Sound s (d.callControl pkt close) := by
  obtain ⟨hcalls, hpending⟩ := h.idle hd
  refine ⟨h.run, fun hno => Bool.noConfusion hno, ?_, ?_, fun e he => ?_, fun e he => ?_⟩
  · show (d.calls ++ [pkt]).length ≤ 1
    rw [hcalls]
    exact Nat.le_refl 1
  · show (d.pending ++ [(pkt, close)]).length ≤ 1
    rw [hpending]
    exact Nat.le_refl 1
  · refine .inl ((h.closes e he).resolve_right fun ⟨last, hp⟩ => ?_)
    rw [hpending] at hp
    cases hp
  · refine .inr ((h.told e he).resolve_left fun ⟨last, hm⟩ => ?_)
    rw [hcalls] at hm
    cases hm

theorem Sound.control (h : Sound s d) (pkt : Control) : Sound s (d.control pkt) := by
  unfold Dispatcher.control
  split
  · exact h.finish pkt.ack true
  · next hd => exact h.callControl (Bool.eq_false_iff.mpr hd) pkt true

theorem Sound.goAway (h : Sound s d) (pkt : Control) : Sound s (d.goAway pkt) := by
  unfold Dispatcher.goAway
  split
  · exact h
  · next hd => exact h.callControl (Bool.eq_false_iff.mpr hd) pkt false

/-- A step that fails the connection: the service is told, or the GOAWAY is written. -/
theorem Sound.fails (h : Sound s d) {a : Connection.Step} (ha : d.con.Enabled a)
    (hf : (d.con.step a).failures = .failed e :: d.con.failures) (last : StreamId) :
    Sound s ((d.move a).control (.protoError e last)) := by
  have hst := stays_step h.run ha
  have hrun := h.run.step a ha
  have hcases : ∀ e', .failed e' ∈ (d.con.step a).log → e' = e ∨ .failed e' ∈ d.con.log := by
    intro e' he
    rw [failed_mem, hf] at he
    rcases List.mem_cons.mp he with heq | he
    · exact .inl (Event.failed.inj heq)
    · exact .inr (failed_mem.mpr he)
  unfold Dispatcher.control
  split
  · obtain ⟨hrun', hend⟩ := finish_run (d := d.move a) hrun (some (e.frame last)) true
    have hin : ∀ e', .failed e' ∈ ((d.move a).finish (some (e.frame last)) true).con.log →
        .failed e' ∈ (d.con.step a).log := by
      intro e' he
      rw [failed_mem, finish_failures] at he
      exact failed_mem.mpr he
    refine ⟨hrun', h.idle, h.once, h.waits, fun _ _ => .inl (finish_closed _ _), fun e' he => ?_⟩
    rcases hcases e' (hin e' he) with rfl | hold
    · exact .inr ⟨last, finish_written (d.move a) (e'.frame last) true⟩
    · exact (h.told e' hold).imp_right fun ⟨l, hm⟩ => ⟨l, hend.log _ (hst.log _ hm)⟩
  · next hd =>
      obtain ⟨hcalls, hpending⟩ := h.idle (Bool.eq_false_iff.mpr hd)
      have hp : ((d.move a).callControl (.protoError e last) true).pending =
          [(.protoError e last, true)] := by
        show d.pending ++ [_] = _
        rw [hpending]
        rfl
      have hc : ((d.move a).callControl (.protoError e last) true).calls =
          [.protoError e last] := by
        show d.calls ++ [_] = _
        rw [hcalls]
        rfl
      refine ⟨hrun, fun hno => Bool.noConfusion hno, ?_, ?_, fun e' he => ?_, fun e' he => ?_⟩
      · rw [hc]
        exact Nat.le_refl 1
      · rw [hp]
        exact Nat.le_refl 1
      · rcases hcases e' he with rfl | hold
        · exact .inr ⟨last, hp⟩
        · refine .inl (hst.ioClosed ((h.closes e' hold).resolve_right fun ⟨l, hno⟩ => ?_))
          rw [hpending] at hno
          cases hno
      · rcases hcases e' he with rfl | hold
        · rw [hc]
          exact .inl ⟨last, List.mem_cons_self⟩
        · refine .inr ?_
          obtain ⟨l, hm⟩ := (h.told e' hold).resolve_left fun ⟨l, hno⟩ => by
            rw [hcalls] at hno
            cases hno
          exact ⟨l, hst.log _ hm⟩

/-- The control service answers. -/
theorem Sound.answer (h : Sound s d) (i : Nat) (res : Option (Option GoAwayFrame)) :
    Sound s (d.answer i res) := by
  unfold Dispatcher.answer
  cases hi : d.pending[i]? with
  | none => exact h
  | some p =>
      obtain ⟨pkt, close⟩ := p
      dsimp only
      have hone : d.pending = [(pkt, close)] := by
        have hw := h.waits
        cases hp : d.pending with
        | nil =>
            rw [hp] at hi
            cases hi
        | cons q l =>
            rw [hp] at hi hw
            have hl : l = [] :=
              List.length_eq_zero_iff.mp (Nat.le_zero.mp (Nat.le_of_succ_le_succ hw))
            subst hl
            cases i with
            | zero =>
                cases hi
                rfl
            | succ i => cases hi
      have herase : d.pending.eraseIdx i = [] := by
        rw [hone] at hi ⊢
        cases i with
        | zero => rfl
        | succ i => cases hi
      rw [herase]
      have hdisc : d.disconnected = true := by
        refine Bool.eq_true_of_not_eq_false fun hd => ?_
        rw [(h.idle hd).2] at hone
        cases hone
      -- what is closed by the answer, whatever it is
      have hdone : ∀ (frame : Option GoAwayFrame) (b : Bool), (close = true → b = true) →
          Sound s (({ d with pending := [] } : Dispatcher).finish frame b) := by
        intro frame b hb
        obtain ⟨hrun, hst⟩ := finish_run (d := { d with pending := [] }) h.run frame b
        have hold : ∀ e,
            .failed e ∈ (({ d with pending := [] } : Dispatcher).finish frame b).con.log →
            .failed e ∈ d.con.log := by
          intro e he
          rw [failed_mem, finish_failures] at he
          exact failed_mem.mpr he
        refine ⟨hrun, fun hno => ?_, h.once, Nat.zero_le 1, fun e he => .inl ?_,
          fun e he => ?_⟩
        · have hno' : d.disconnected = false := hno
          rw [hdisc] at hno'
          cases hno'
        · rcases h.closes e (hold e he) with hio | ⟨last, hp⟩
          · exact hst.ioClosed hio
          · rw [hone] at hp
            have hclose : close = true := congrArg (fun l => l.head?.any (·.2)) hp
            rw [hb hclose]
            exact finish_closed _ _
        · exact (h.told e (hold e he)).imp_right fun ⟨last, hm⟩ => ⟨last, hst.log _ hm⟩
      cases res with
      | some frame => exact hdone frame close id
      | none => exact hdone _ true fun _ => rfl

theorem Sound.step (h : Sound s d) {a : Input} (ha : d.Enabled a) : Sound s (d.step a) := by
  cases a with
  | receive f =>
      have hf := Connection.failures_receive d.con f
      unfold Dispatcher.step
      dsimp only
      cases hfatal : d.con.fatal f with
      | some e =>
          rw [hfatal] at hf
          exact h.fails (a := .receive f) ha hf _
      | none =>
          rw [hfatal] at hf
          have hm : Sound s (d.move (.receive f)) := h.move (a := .receive f) ha hf
          dsimp only
          unfold Dispatcher.received
          cases f with
          | goAway l r data => exact hm.goAway _
          | _ => exact hm
  | stop x =>
      have hf := (Connection.reacts_stop d.con x).failures
      unfold Dispatcher.step Dispatcher.stopped
      cases x with
      | keepAlive =>
          dsimp only
          unfold Connection.stopError at hf
          dsimp only at hf
          split
          · next ht =>
              rw [if_pos ht] at hf
              exact h.fails (a := .stop .keepAlive) trivial hf _
          · next ht =>
              rw [if_neg ht] at hf
              exact h.fails (a := .stop .keepAlive) trivial hf _
      | io => exact (h.move (a := .stop .io) trivial hf).control _
      | service => exact h.move (a := .stop .service) trivial hf
      | encoder e => exact h.fails (a := .stop (.encoder e)) trivial hf _
      | decoder e => exact h.fails (a := .stop (.decoder e)) trivial hf _
      | readTimeout => exact h.fails (a := .stop .readTimeout) trivial hf _
      | writeTimeout => exact h.fails (a := .stop .writeTimeout) trivial hf _
  | publishError => exact h.control _
  | readyError =>
      exact (h.local_move (a := .shutdown) trivial trivial fun x hx => by cases hx).control _
  | answer i res => exact h.answer i res
  | other b =>
      refine h.local_move ha.1 ?_ fun x hx => ?_
      · cases b with
        | receive f => exact ha.2 trivial
        | _ => trivial
      · subst hx
        exact ha.2 trivial

/-- The runs of a dispatcher. -/
theorem Runs.sound (h : Runs s d) : Sound s d := by
  induction h with
  | new =>
      have hno : ∀ e, ¬.failed e ∈ (Dispatcher.new s).con.log := by
        intro e he
        unfold Dispatcher.new Connection.Start.init Connection.new at he
        dsimp only at he
        split at he
        · simp at he
        · simp at he
      exact ⟨.new, fun _ => ⟨rfl, rfl⟩, Nat.zero_le 1, Nat.zero_le 1,
        fun e he => absurd he (hno e), fun e he => absurd he (hno e)⟩
  | step a _ ha ih => exact ih.step ha

/-- The control service is called once at most, whatever happens to a connection.  A connection that
has failed is closed, or its one call is about the failure and has not returned; and every failure
is what the service is told of, or is answered with the GOAWAY of its error. -/
theorem failure_handled (h : Runs s d) : Reachable s d.con ∧ d.calls.length ≤ 1 ∧
    ∀ e, .failed e ∈ d.con.log →
      (d.con.ioClosed = true ∨ ∃ last, d.pending = [(.protoError e last, true)]) ∧
      ((∃ last, .protoError e last ∈ d.calls) ∨ ∃ last,
        .sent none .connection (.goAway last e.toGoaway.1 (octets e.toGoaway.2)) ∈ d.con.log) :=
  ⟨h.sound.run, h.sound.once, fun e he => ⟨h.sound.closes e he, h.sound.told e he⟩⟩

/-- A first frame that is not SETTINGS. -/
def early : Input := .receive (.ping false [0, 0, 0, 0, 0, 0, 0, 0])

theorem failure_handled_early : ∃ d, Runs Connection.serverStart d ∧
    d.pending = [(.protoError .missingSettings 0, true)] ∧ d.con.ioClosed = false ∧
      (d.con.ioClosed = true ∨ ∃ last, d.pending = [(.protoError .missingSettings last, true)]) ∧
      (d.answer 0 (some (Control.ack (.protoError .missingSettings 0)))).con.ioClosed = true := by
  have h0 : Runs Connection.serverStart (.new Connection.serverStart) := .new
  have h1 := h0.step early trivial
  exact ⟨_, h1, by decide +kernel, by decide +kernel,
    ((failure_handled h1).2.2 .missingSettings (by decide +kernel)).1, by decide +kernel⟩

end Dispatcher

end NtexH2
