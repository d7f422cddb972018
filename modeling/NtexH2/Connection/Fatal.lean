/-
  Connection/Fatal.lean --- the errors that fail a connection (src/dispatcher.rs,
  `handle_message`, `codec_error`).

  A frame fails the connection with the error that its handler returns, and otherwise only
  a stop of the dispatcher does.  Only a PING is echoed, and only the dispatcher records
  what is received.
-/
import NtexH2.Connection.Messages

set_option autoImplicit false

namespace NtexH2

/-! ## The error of a frame -/

/-- The error of the connection that a received frame is answered with. -/
def Received.fatal : Received → Option ConnectionError
  | .error (.connection e) => some e
  | _ => none

/-- The same for results that are not about a stream. -/
def fatalOf {α : Type} : Except ConnectionError α → Option ConnectionError
  | .error e => some e
  | .ok _ => none

namespace Connection

/-- The error of the connection that a frame causes, past the check of the first one. -/
def dispatchError (c : Connection) : Frame → Option ConnectionError
  | .headers h => (c.recvHeaders h).1.fatal
  | .data d => (c.recvData d).1.fatal
  | .settings s => if s.ack then fatalOf c.recvSettingsAck.1 else fatalOf (c.recvPeerSettings s).1
  | .windowUpdate id n => (c.recvWindowUpdate id n).1.fatal
  | .reset id reason => (c.recvRstStream id reason).1.fatal
  | .invalid f => (c.recvInvalidFrame f).1.fatal
  | .ping _ _ | .goAway _ _ _ | .priority _ => none

/-- The error that a frame fails the connection with. -/
def fatal (c : Connection) (f : Frame) : Option ConnectionError :=
  let c := c.push (.received (f.streamId.bind c.query) f)
  if c.checkFirstFrame f then c.dispatchError f else some .missingSettings

/-! ## Failures in the history -/

variable {c c' : Connection}

theorem uneventful_recvHeaders (c : Connection) (h : Headers) :
    Uneventful c (c.recvHeaders h).2 := by
  rcases stays_recvHeaders (c := c) (s := unfailing) (h := h) trivial fun _ _ _ => trivial with
    hs | ⟨-, hs⟩
  · exact hs.uneventful
  · exact ⟨hs.uneventful.failures, hs.uneventful.pings, hs.uneventful.arrivals⟩

theorem uneventful_recvInvalidFrame (c : Connection) (f : InvalidFrame) :
    Uneventful c (c.recvInvalidFrame f).2 := by
  have hu : Uneventful c c.updateRstCount.2 := .of_past (past_updateRstCount c) rfl rfl rfl
  have hunknown : ∀ (c1 : Connection) (id : StreamId) (r : Reason),
      Uneventful c1 (c1.resetUnknownStream id r).2 := fun c1 id r =>
    (stays_resetUnknownStream (c := c1) (s := unfailing) id r).uneventful
  unfold recvInvalidFrame
  cases c.query f.streamId with
  | some o =>
      dsimp only
      cases hr : c.updateRstCount with
      | mk x c1 =>
          rw [hr] at hu
          cases x with
          | error e => exact hu
          | ok u => exact hu
  | none =>
      dsimp only
      split
      · exact .refl c
      · unfold recvInvalidHeaders
        split
        · exact .refl c
        · split
          · split
            · exact ⟨rfl, rfl, rfl⟩
            · exact ⟨(hunknown _ _ _).failures, (hunknown _ _ _).pings, (hunknown _ _ _).arrivals⟩
          · split
            · exact .refl c
            · exact ⟨(hunknown _ _ _).failures, (hunknown _ _ _).pings, (hunknown _ _ _).arrivals⟩
      · exact hunknown _ _ _

theorem uneventful_recvSettingsAck (c : Connection) : Uneventful c c.recvSettingsAck.2 := by
  unfold recvSettingsAck
  split
  · exact .refl c
  · have h := past_ackStreams ((c.config.windowSz : Int) - defaultInitialWindowSize) c.values
      ([], { c with settingsProcessed := true })
    exact .of_past h rfl rfl rfl

theorem uneventful_recvPeerSettings (c : Connection) (s : Settings) :
    Uneventful c (c.recvPeerSettings s).2 := by
  have hl := past_applyLimits c s
  have hw : Uneventful c ((c.applyLimits s).applyInitialWindow s).2 :=
    .of_past ((past_applyInitialWindow (c.applyLimits s) s).trans hl) rfl rfl rfl
  unfold recvPeerSettings
  split
  · exact .refl c
  · cases hr : (c.applyLimits s).applyInitialWindow s with
    | mk b c1 =>
        rw [hr] at hw
        cases b with
        | false => exact hw
        | true => exact ⟨hw.failures, hw.pings, hw.arrivals⟩

/-! ## What is new in the history -/

/-- The answer to a PING. -/
def echo : Frame → List Event
  | .ping false payload => [.sent none .connection (.ping true payload)]
  | _ => []

/-- The failure that is new in the history, and the PINGs; no received frame is new. -/
structure Reacts (c c' : Connection) (err : Option ConnectionError) (sent : List Event) :
    Prop where
  failures : c'.failures = (err.map Event.failed).toList ++ c.failures
  pings : c'.pings = sent ++ c.pings
  arrivals : c'.arrivals = c.arrivals

theorem Uneventful.reacts (h : Uneventful c c') : Reacts c c' none [] :=
  ⟨h.failures, h.pings, h.arrivals⟩

theorem reacts_protoError {c1 : Connection} (h : Uneventful c c1) (e : ConnectionError) :
    Reacts c (c1.protoError e) (some e) [] where
  failures := by
    rw [failures_protoError c1 e, h.failures]
    rfl
  pings := (uneventful_protoError c1 e).pings.trans h.pings
  arrivals := (uneventful_protoError c1 e).arrivals.trans h.arrivals

theorem reacts_handleMessage {r : Received × Connection} (h : Uneventful c r.2) :
    Reacts c (handleMessage r) r.1.fatal [] := by
  obtain ⟨x, c1⟩ := r
  cases x with
  | ok m => exact h.reacts
  | error e =>
      cases e with
      | connection e => exact reacts_protoError h e
      | stream o e =>
          have hs : Stays unfailing c1 (handleMessage (.error (.stream o e), c1)) :=
            stays_handleMessage (.same rfl) fun e' he => by cases he
          exact (h.trans hs.uneventful).reacts

theorem reacts_settings (c : Connection) (s : Settings) :
    Reacts c (c.dispatch (.settings s)) (c.dispatchError (.settings s)) [] := by
  unfold dispatch dispatchError
  dsimp only
  split
  · have h := uneventful_recvSettingsAck c
    cases hr : c.recvSettingsAck with
    | mk x c1 =>
        rw [hr] at h
        cases x with
        | error e => exact reacts_protoError h e
        | ok errs =>
            exact (h.trans (stays_handleAckErrors (s := unfailing) errs).uneventful).reacts
  · have h := uneventful_recvPeerSettings c s
    cases hr : c.recvPeerSettings s with
    | mk x c1 =>
        rw [hr] at h
        cases x with
        | error e => exact reacts_protoError h e
        | ok u => exact h.reacts

theorem reacts_dispatch (c : Connection) (f : Frame) :
    Reacts c (c.dispatch f) (c.dispatchError f) (echo f) := by
  cases f with
  | headers h => exact reacts_handleMessage (uneventful_recvHeaders c h)
  | data d =>
      have h : Stays unfailing c (c.recvData d).2 := stays_recvData fun _ _ _ => trivial
      exact reacts_handleMessage (r := c.recvData d) h.uneventful
  | settings s => exact reacts_settings c s
  | windowUpdate id n =>
      have h : Stays unfailing c (c.recvWindowUpdate id n).2 := stays_recvWindowUpdate id n
      exact reacts_handleMessage (r := c.recvWindowUpdate id n) h.uneventful
  | reset id r =>
      have h : Stays unfailing c (c.recvRstStream id r).2 := stays_recvRstStream id r
      exact reacts_handleMessage (r := c.recvRstStream id r) h.uneventful
  | ping ack payload =>
      cases ack with
      | true => exact ⟨rfl, rfl, rfl⟩
      | false => exact ⟨rfl, rfl, rfl⟩
  | goAway last r data => exact (stays_recvGoAway (s := unfailing) r last).uneventful.reacts
  | invalid g => exact reacts_handleMessage (uneventful_recvInvalidFrame c g)
  | priority id => exact ⟨rfl, rfl, rfl⟩

/-- A frame fails the connection with its fatal error, or not at all, and only a PING is
echoed. -/
theorem reacts_receive (c : Connection) (f : Frame) :
    Reacts (c.push (.received (f.streamId.bind c.query) f)) (c.receive f) (c.fatal f)
      (if c.checkFirstFrame f then echo f else []) := by
  have hsame : (c.push (.received (f.streamId.bind c.query) f)).checkFirstFrame f =
      c.checkFirstFrame f := rfl
  unfold receive fatal
  dsimp only
  rw [hsame]
  split
  · exact reacts_dispatch _ f
  · exact reacts_protoError (.refl _) _

theorem failures_receive (c : Connection) (f : Frame) :
    (c.receive f).failures = ((c.fatal f).map Event.failed).toList ++ c.failures :=
  (reacts_receive c f).failures

/-- The error of the connection, if it is one. -/
def connectionError : OperationError → Option ConnectionError
  | .connection e => some e
  | _ => none

/-- A stop of the dispatcher fails the connection with its error, or not at all. -/
theorem reacts_stop (c : Connection) (x : Stop) :
    Reacts c (c.step (.stop x)) (connectionError (c.stopError x)) [] := by
  have htimeout : ∀ e r, Reacts c (c.timeout e r) (some e) [] := fun e r =>
    ⟨failures_timeout c e r, (uneventful_timeout c e r).pings, (uneventful_timeout c e r).arrivals⟩
  cases x with
  | encoder e => exact reacts_protoError ((.refl c)) _
  | decoder e => exact reacts_protoError ((.refl c)) _
  | keepAlive =>
      unfold step stop stopError
      dsimp only
      split
      · exact htimeout _ _
      · exact htimeout _ _
  | readTimeout => exact htimeout _ _
  | writeTimeout => exact htimeout _ _
  | io => exact (stays_disconnect (s := unfailing)).uneventful.reacts
  | service =>
      have h := (stays_disconnect (c := c) (s := unfailing)).uneventful
      exact Uneventful.reacts ⟨h.failures, h.pings, h.arrivals⟩

/-- A step that is not the receipt of a frame fails the connection only by a stop of the
dispatcher. -/
theorem failures_local {a : Step} (ha : Local a) : (c.step a).failures = c.failures ∨
    ∃ x e, a = .stop x ∧ c.stopError x = .connection e ∧
      (c.step a).failures = .failed e :: c.failures := by
  by_cases hstop : ∃ x, a = .stop x
  · obtain ⟨x, rfl⟩ := hstop
    have h := (reacts_stop c x).failures
    rw [h]
    cases he : c.stopError x with
    | connection e => exact .inr ⟨x, e, rfl, he, rfl⟩
    | _ => exact .inl rfl
  · by_cases hping : ∃ payload, a = .ping payload
    · obtain ⟨payload, rfl⟩ := hping
      exact .inl rfl
    · refine .inl (Stays.uneventful ?_).failures
      exact stays_step ha trivial (fun x hx => hstop ⟨x, hx⟩) fun p hp => hping ⟨p, hp⟩

/-- A step that is neither the receipt of a frame nor a PING writes no PING. -/
theorem reacts_local {a : Step} (ha : Local a) (hp : ∀ payload, a ≠ .ping payload) :
    ∃ err, Reacts c (c.step a) err [] := by
  by_cases hstop : ∃ x, a = .stop x
  · obtain ⟨x, rfl⟩ := hstop
    exact ⟨_, reacts_stop c x⟩
  · refine ⟨none, (Stays.uneventful ?_).reacts⟩
    exact stays_step ha trivial (fun x hx => hstop ⟨x, hx⟩) fun p heq => absurd heq (hp p)

end Connection

end NtexH2
