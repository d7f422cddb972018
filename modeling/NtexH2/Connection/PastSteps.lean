/-
  Connection/PastSteps.lean --- what the steps of a connection leave in the history.

  The receipt of a frame records the frame, and changes the marks that belong to it;
  every other step leaves them all.
-/
import NtexH2.Connection.Past

set_option autoImplicit false

namespace NtexH2

/-- The id of HEADERS, also of those that the codec refuses. -/
def Frame.headersId : Frame → Option StreamId
  | .headers h => some h.streamId
  | .invalid f => if f.kind = .headers then some f.streamId else none
  | _ => none

namespace Connection

variable {c c' c'' : Connection} {s : Scope}

/-! ## Received messages -/

theorem stays_recvFirstHeaders {o : Obj} {h : Headers} (he : h.endStream = true → s.ends o) :
    Stays s c (c.recvFirstHeaders o h).2 := by
  unfold recvFirstHeaders
  cases announcedLength (c.objs o).contentLength h with
  | error e => exact .same rfl
  | ok cl =>
      dsimp only
      generalize hc1 : c.modify o (fun s => { s with contentLength := cl }) = c1
      have h1 : Stays s c c1 := by
        rw [← hc1]
        exact .same (past_modify c o fun _ => ⟨rfl, rfl, rfl⟩)
      split
      · next hend => exact h1.trans (stays_stateRecvClose (he hend) none)
      · exact h1.trans (stays_stateRecvPayload o)

theorem stays_recvTrailers {o : Obj} {h : Headers} (he : h.endStream = true → s.ends o) :
    Stays s c (c.recvTrailers o h).2 := by
  unfold recvTrailers
  split
  · exact .same rfl
  · split
    · exact .same rfl
    · split
      · next hend => exact stays_stateRecvClose (he hend) none
      · exact .same rfl

/-- HEADERS end the receive half only with END_STREAM. -/
theorem stays_streamRecvHeaders {o : Obj} {h : Headers} (he : h.endStream = true → s.ends o) :
    Stays s c (c.streamRecvHeaders o h).2 := by
  unfold streamRecvHeaders
  split
  · split
    · exact stays_recvFirstHeaders he
    · split
      · exact .same rfl
      · split
        · exact .same rfl
        · exact stays_recvFirstHeaders he
  · exact stays_recvTrailers he
  · exact .same rfl

theorem stays_recvPayload {o : Obj} {d : Data} (he : d.endStream = true → s.ends o) (i : Nat) :
    Stays s c (c.recvPayload o d i).2 := by
  unfold recvPayload
  split
  · dsimp only
    generalize hc1 : c.modify o (fun s => { s with contentLength :=
      (countPayload (c.objs o).contentLength d.payload.length d.endStream).2 }) = c1
    have h1 : Stays s c c1 := by
      rw [← hc1]
      exact .same (past_modify c o fun _ => ⟨rfl, rfl, rfl⟩)
    split
    · exact h1.of_eq (past_dropCapacity c1 i)
    · dsimp only
      split
      · next hend => exact h1.trans (stays_stateRecvClose (he hend) none)
      · exact h1
  · exact .same (past_dropCapacity c i)
  · exact .same (past_dropCapacity c i)

/-- DATA ends it only with END_STREAM. -/
theorem stays_streamRecvData {o : Obj} {d : Data} (he : d.endStream = true → s.ends o) :
    Stays s c (c.streamRecvData o d).2 := by
  unfold streamRecvData
  split
  · exact .same ((past_dataConsumed _ _).trans (past_dataReceived c _))
  · dsimp only
    refine Stays.trans (.same ?_) (stays_recvPayload he _)
    split
    · exact (past_consume _ _ _).trans (past_newCapacity c o _)
    · exact past_newCapacity c o _

/-! ## Received frames -/

/-- The answer to a stream error closes both halves, which any scope allows. -/
theorem stays_lift {o : Obj} {r : Except StreamError (Option Message) × Connection}
    (h : Stays s c r.2) : Stays s c (lift o r).2 := by
  obtain ⟨x, c1⟩ := r
  cases x with
  | error e => exact h
  | ok m => exact h

/-- A reset without a stream touches no half. -/
theorem stays_resetUnknownStream (id : StreamId) (r : Reason) :
    Stays s c (c.resetUnknownStream id r).2 := by
  have h := past_updateRstCount c
  unfold resetUnknownStream
  cases hu : c.updateRstCount with
  | mk x c1 =>
      rw [hu] at h
      cases x with
      | error e => exact .same h
      | ok u => exact .same ((past_addPending _ id).trans ((past_encodeCon c1 rfl rfl).trans h))

/-- A new stream is opened by this end or accepted from the peer. -/
theorem stays_insertStream {id : StreamId} (hn : s.opens ∨ s.accepts id) (remote : Bool) :
    Stays s c (c.insertStream id remote) := by
  refine ⟨Nat.le_succ _, ?_, rfl, .inl rfl, .inl rfl, rfl, .inl rfl, rfl, rfl, ?_, ?_⟩
  · intro p hp
    have hp' : p < c.created + 1 := hp
    show _ ∧ ((c.insertStream id remote).objs p).id = (c.objs p).id ∨
      s.opens ∨ s.accepts ((c.insertStream id remote).objs p).id
    by_cases hpc : p = c.created
    · have hnew : (c.insertStream id remote).objs p = c.newStream id remote := if_pos hpc
      rw [hnew]
      exact .inr hn
    · have hold : (c.insertStream id remote).objs p = c.objs p := if_neg hpc
      exact .inl ⟨Nat.lt_of_le_of_ne (Nat.le_of_lt_succ hp') hpc, congrArg Stream.id hold⟩
  · intro p hp hrecv
    have hp' : p < c.created + 1 := hp
    have hrecv' : ((c.insertStream id remote).objs p).recv.isClosed = true := hrecv
    by_cases hpc : p = c.created
    · have hnew : (c.insertStream id remote).objs p = c.newStream id remote := if_pos hpc
      rw [hnew] at hrecv'
      cases hrecv'
    · have hold : (c.insertStream id remote).objs p = c.objs p := if_neg hpc
      rw [hold] at hrecv'
      exact .inl ⟨Nat.lt_of_le_of_ne (Nat.le_of_lt_succ hp') hpc, hrecv'⟩
  · intro p hp hsend
    have hp' : p < c.created := hp
    have hold : (c.insertStream id remote).objs p = c.objs p := if_neg (Nat.ne_of_lt hp')
    show ((c.insertStream id remote).objs p).send.isClosed = true
    rw [hold]
    exact hsend

/-- The stream of the HEADERS, which may end it at once. -/
theorem stays_acceptStream {h : Headers} (hn : s.accepts h.streamId)
    (he : h.endStream = true → s.ends c.created) :
    Stays s c (c.acceptStream h).2 := by
  unfold acceptStream
  dsimp only
  refine stays_lift (Stays.trans ?_ (stays_streamRecvHeaders he))
  exact Stays.of_eq (Stays.trans (.same (d := c.countStream) rfl)
    (stays_insertStream (.inr hn) true)) rfl

/-- The object that a frame on a stream is for: that of the map, or a new one. -/
def Reaches (c : Connection) (id : StreamId) (o : Obj) : Prop :=
  c.query id = some o ∨ c.query id = none ∧ o = c.created

/-- New HEADERS move the last id, and nothing else that the scope does not allow. -/
theorem stays_recvNewHeaders {h : Headers} (hn : s.accepts h.streamId)
    (he : h.endStream = true → s.ends c.created) :
    Stays s { c with lastId := h.streamId } (c.recvNewHeaders h).2 := by
  have hcount : ({ c with lastId := h.streamId } : Connection).countStream.past =
      ({ c with lastId := h.streamId } : Connection).past := rfl
  unfold recvNewHeaders
  dsimp only
  split
  · exact .same ((past_addPending _ _).trans (past_encodeCon _ rfl rfl))
  · split
    · exact Stays.trans (.same hcount) (stays_resetUnknownStream _ _)
    · split
      · exact Stays.trans (.same hcount) (stays_resetUnknownStream _ _)
      · exact stays_acceptStream hn he

/-- HEADERS that a server has not seen the stream of raise the last id, and nothing else. -/
theorem stays_recvHeaders {h : Headers} (hn : s.accepts h.streamId)
    (he : h.endStream = true → ∀ o, c.Reaches h.streamId o → s.ends o) :
    Stays s c (c.recvHeaders h).2 ∨
      c.lastId < h.streamId ∧ Stays s { c with lastId := h.streamId } (c.recvHeaders h).2 := by
  unfold recvHeaders
  split
  · exact .inl (.same rfl)
  · cases hq : c.query h.streamId with
    | some o => exact .inl (stays_lift (stays_streamRecvHeaders fun hend => he hend o (.inl hq)))
    | none =>
        dsimp only
        split
        · unfold recvClosedHeaders
          split
          · exact .inl (.same rfl)
          · dsimp only
            split
            · exact .inl (.same rfl)
            · exact .inl (.same (past_encodeCon c rfl rfl))
        · split
          · split
            · exact .inl (.same rfl)
            · exact .inl (.same rfl)
          · next hnew =>
              refine .inr ⟨Nat.lt_of_not_le hnew, ?_⟩
              exact stays_recvNewHeaders hn fun hend => he hend _ (.inr ⟨hq, rfl⟩)

/-- HEADERS that the codec refuses raise the last id as well, and open no stream. -/
theorem stays_recvInvalidFrame (f : InvalidFrame) :
    Stays s c (c.recvInvalidFrame f).2 ∨
      c.lastId < f.streamId ∧
        Stays s { c with lastId := f.streamId } (c.recvInvalidFrame f).2 := by
  unfold recvInvalidFrame
  cases c.query f.streamId with
  | some o =>
      have hu := past_updateRstCount c
      dsimp only
      cases hr : c.updateRstCount with
      | mk x c1 =>
          rw [hr] at hu
          cases x with
          | error e => exact .inl (.same hu)
          | ok u => exact .inl (.same hu)
  | none =>
      dsimp only
      split
      · exact .inl (.same rfl)
      · unfold recvInvalidHeaders
        split
        · exact .inl (.same rfl)
        · split
          · split
            · exact .inl (.same rfl)
            · exact .inl (stays_resetUnknownStream _ _)
          · split
            · exact .inl (.same rfl)
            · next hnew =>
                refine .inr ⟨Nat.lt_of_not_le hnew, ?_⟩
                exact Stays.trans (.same (d := { c with lastId := f.streamId }.countStream) rfl)
                  (stays_resetUnknownStream _ _)
      · exact .inl (stays_resetUnknownStream _ _)

/-- DATA ends the half of the stream that it reaches. -/
theorem stays_recvData {d : Data}
    (he : d.endStream = true → ∀ o, c.Reaches d.streamId o → s.ends o) :
    Stays s c (c.recvData d).2 := by
  have hstray : ((c.dataReceived d.flowLen).dataConsumed d.flowLen).past = c.past :=
    (past_dataConsumed _ _).trans (past_dataReceived c _)
  unfold recvData
  split
  · exact .same rfl
  · cases hq : c.query d.streamId with
    | some o => exact stays_lift (stays_streamRecvData fun hend => he hend o (.inl hq))
    | none =>
        dsimp only
        split
        · exact .same hstray
        · split
          · exact .same ((past_encodeCon _ rfl rfl).trans hstray)
          · exact .same rfl

theorem stays_recvWindowUpdate (id : StreamId) (n : Nat) :
    Stays s c (c.recvWindowUpdate id n).2 := by
  have hcon := past_recvConWindowUpdate c n
  unfold recvWindowUpdate
  split
  · cases hr : c.recvConWindowUpdate n with
    | mk x c1 =>
        rw [hr] at hcon
        cases x with
        | error e => exact .same hcon
        | ok u => exact .same hcon
  · cases c.query id with
    | some o =>
        dsimp only
        have hstream := past_streamRecvWindowUpdate c o n
        cases hr : c.streamRecvWindowUpdate o n with
        | mk x c1 =>
            rw [hr] at hstream
            cases x with
            | error e => exact .same hstream
            | ok u => exact .same hstream
    | none =>
        dsimp only
        split
        · exact .same rfl
        · split
          · exact .same rfl
          · exact .same (past_encodeCon c rfl rfl)

/-- RST_STREAM closes both halves. -/
theorem stays_recvRstStream (id : StreamId) (r : Reason) :
    Stays s c (c.recvRstStream id r).2 := by
  unfold recvRstStream
  split
  · exact .same rfl
  · cases c.query id with
    | some o =>
        dsimp only
        generalize hc1 : c.remoteResetStream o r = c1
        have h1 : Stays s c c1 := hc1 ▸ stays_remoteResetStream o r
        split
        · exact h1
        · have hu := past_updateRstCount c1
          cases hr : c1.updateRstCount with
          | mk x c2 =>
              rw [hr] at hu
              cases x with
              | error e => exact h1.of_eq hu
              | ok u => exact h1.of_eq hu
    | none =>
        dsimp only
        cases hp : c.localPendingReset.remove id with
        | mk p b =>
            cases b with
            | false => exact .same rfl
            | true =>
                dsimp only
                have hu := past_updateRstCount { c with localPendingReset := p }
                cases hr : ({ c with localPendingReset := p } : Connection).updateRstCount with
                | mk x c2 =>
                    rw [hr] at hu
                    cases x with
                    | error e => exact .same hu
                    | ok u => exact .same hu

/-! ## Failures -/

/-- A list of changes that all stay within the scope. -/
theorem stays_foldl {α : Type} {f : Connection → α → Connection}
    (h : ∀ c x, Stays s c (f c x)) (l : List α) :
    ∀ c : Connection, Stays s c (l.foldl f c) := by
  induction l with
  | nil => exact fun c => .same rfl
  | cons x l ih =>
      intro c
      rw [List.foldl_cons]
      exact (h c x).trans (ih _)

/-- Streams that fail are closed on both sides. -/
theorem stays_failStreams (err : OperationError) : Stays s c (c.failStreams err) := by
  unfold failStreams
  exact Stays.trans (.same (d := c.clearReadiness.takeStreams) rfl)
    (stays_foldl (fun c o => stays_setFailedStream o err) _ _)

/-- The failure of a connection. -/
theorem stays_fail (hf : s.fails) (e : ConnectionError) (x : Option OperationError) :
    Stays s c { c.push (.failed e) with error := x } :=
  ⟨Nat.le_refl _, fun _ ho => .inl ⟨ho, rfl⟩, rfl, .inr hf, .inl rfl, rfl, .inl rfl, rfl, rfl,
    fun _ ho h => .inl ⟨ho, h⟩, fun _ _ h => h⟩

/-- A protocol error needs a scope that fails. -/
theorem stays_protoError (hf : s.fails) (e : ConnectionError) : Stays s c (c.protoError e) :=
  ((stays_fail hf e _).trans (stays_failStreams _)).of_eq rfl

theorem stays_timeout (hf : s.fails) (e : ConnectionError) (r : Reason) :
    Stays s c (c.timeout e r) := by
  have h := (stays_fail (c := c) hf e (some (.connection e))).trans
    (stays_failStreams (.connection e))
  refine h.of_eq ?_
  unfold timeout
  dsimp only
  rw [past_notifyCapacity, past_ioClose, past_encodeCon]
  · rfl
  · rfl

/-- A function that neither fails the connection nor writes a PING. -/
def unfailing : Scope := ⟨False, False, True, fun _ => True, fun _ => True⟩

/-- The failures of a connection, the last one first. -/
def failures (c : Connection) : List Event := c.log.filter Event.failure

/-- The PINGs that are written and their acks, the last one first. -/
def pings (c : Connection) : List Event := c.log.filter Event.pinged

/-- The frames that are received, the last one first. -/
def arrivals (c : Connection) : List Event := c.log.filter Event.arrival

theorem arrivals_of_kept (h : c'.past.kept = c.past.kept) : c'.arrivals = c.arrivals := by
  have hkept : ∀ l : List Event, (l.filter Event.kept).filter Event.arrival =
      l.filter Event.arrival := by
    intro l
    rw [List.filter_filter]
    refine List.filter_congr fun e _ => ?_
    cases e <;> rfl
  unfold arrivals
  rw [← hkept c'.log, ← hkept c.log]
  exact congrArg _ h

/-- Neither a failure nor a PING nor a received frame is new. -/
structure Uneventful (c c' : Connection) : Prop where
  failures : c'.failures = c.failures
  pings : c'.pings = c.pings
  arrivals : c'.arrivals = c.arrivals

theorem Stays.uneventful (h : Stays unfailing c c') : Uneventful c c' :=
  ⟨h.failures.resolve_right id, h.pings.resolve_right id, arrivals_of_kept h.kept⟩

/-- The past knows what is uneventful. -/
theorem Uneventful.of_past {k : Past} (h : c'.past = k) (hf : k.failures = c.past.failures)
    (hp : k.pings = c.past.pings) (hk : k.kept = c.past.kept) : Uneventful c c' := by
  subst h
  exact ⟨hf, hp, arrivals_of_kept hk⟩

theorem Uneventful.refl (c : Connection) : Uneventful c c := ⟨rfl, rfl, rfl⟩

theorem Uneventful.trans (h : Uneventful c c') (h' : Uneventful c' c'') : Uneventful c c'' :=
  ⟨h'.failures.trans h.failures, h'.pings.trans h.pings, h'.arrivals.trans h.arrivals⟩

theorem uneventful_protoError (c : Connection) (e : ConnectionError) :
    Uneventful { c.push (.failed e) with error := some (.connection e) } (c.protoError e) :=
  Stays.uneventful ((stays_failStreams (.connection e)).of_eq rfl)

theorem uneventful_timeout (c : Connection) (e : ConnectionError) (r : Reason) :
    Uneventful { c.push (.failed e) with error := some (.connection e) } (c.timeout e r) := by
  refine Stays.uneventful ((stays_failStreams (.connection e)).of_eq ?_)
  unfold timeout
  dsimp only
  rw [past_notifyCapacity, past_ioClose, past_encodeCon]
  · rfl
  · rfl

/-- A protocol error is recorded once. -/
theorem failures_protoError (c : Connection) (e : ConnectionError) :
    (c.protoError e).failures = .failed e :: c.failures :=
  (uneventful_protoError c e).failures

/-- So is a timeout. -/
theorem failures_timeout (c : Connection) (e : ConnectionError) (r : Reason) :
    (c.timeout e r).failures = .failed e :: c.failures :=
  (uneventful_timeout c e r).failures

theorem stays_disconnect : Stays s c c.disconnect := by
  have h : Stays s c (({ c with error := some (c.error.getD .disconnected) } :
      Connection).failStreams .disconnected) :=
    Stays.trans (.same (d := { c with error := some (c.error.getD .disconnected) }) rfl)
      (stays_failStreams _)
  unfold disconnect
  dsimp only
  split
  · exact h.of_eq rfl
  · exact h.of_eq rfl

/-- The end of the dispatcher may fail the connection. -/
theorem stays_stop (hf : s.fails) (x : Stop) : Stays s c (c.stop x) := by
  cases x with
  | encoder e => exact stays_protoError hf _
  | decoder e => exact stays_protoError hf _
  | keepAlive =>
      unfold stop
      dsimp only
      split
      · exact stays_timeout hf _ _
      · exact stays_timeout hf _ _
  | readTimeout => exact stays_timeout hf _ _
  | writeTimeout => exact stays_timeout hf _ _
  | io => exact stays_disconnect
  | service =>
      refine Stays.of_eq stays_disconnect ?_
      unfold stop
      dsimp only
      rw [past_ioClose, past_encodeCon]
      · rfl
      · rfl

theorem past_streamFailed (c : Connection) (o : Obj) (e : StreamError) :
    (c.push (.streamFailed o e)).past = c.past :=
  past_push c rfl rfl rfl

/-- The answer to a frame fails the connection only for an error of the connection. -/
theorem stays_handleMessage {r : Received × Connection} (h : Stays s c r.2)
    (hf : ∀ e, r.1 = .error (.connection e) → s.fails) : Stays s c (handleMessage r) := by
  obtain ⟨x, c1⟩ := r
  cases x with
  | ok m => exact h
  | error e =>
      cases e with
      | connection e => exact h.trans (stays_protoError (hf e rfl) e)
      | stream o e =>
          have hpush : Stays s c (c1.push (.streamFailed o e)) :=
            Stays.of_eq h (past_streamFailed c1 o e)
          cases e with
          | reset r => exact hpush.trans (stays_setFailedStream o _)
          | _ => exact hpush.trans (stays_resetSilent o _)

theorem past_setAckErrors (c : Connection) (l : List (Obj × StreamError)) :
    ({ c with ackErrors := l } : Connection).past = c.past := rfl

theorem stays_handleAckErrors (errs : List (Obj × StreamError)) :
    Stays s c (c.handleAckErrors errs) := by
  cases errs with
  | nil => exact .same rfl
  | cons e errs =>
      have h : Stays s c ((c.push (.streamFailed e.1 e.2)).setFailedStream e.1 (.stream e.2)) :=
        Stays.trans (.same (past_streamFailed c e.1 e.2)) (stays_setFailedStream e.1 (.stream e.2))
      refine h.of_eq ?_
      unfold handleAckErrors
      dsimp only
      rw [past_setAckErrors, past_encodeCon]
      · rfl
      · rfl

theorem stays_startDisconnect : Stays s c c.startDisconnect := by
  unfold startDisconnect
  dsimp only
  generalize hc1 : c.clearReadiness = c1
  have h1 : c1.past = c.past := by
    rw [← hc1]
    rfl
  generalize hc2 : (if (c1.server && !c1.disconnectWhenReady && !c1.ioClosed && c1.error.isNone)
    = true then c1.encodeCon (.goAway c1.lastId .noError []) else c1) = c2
  have h2 : c2.past = c.past := by
    rw [← hc2]
    split
    · exact (past_encodeCon c1 rfl rfl).trans h1
    · exact h1
  split
  · exact .same h2
  · exact .same h2

/-- GOAWAY closes the streams above `last` on both sides. -/
theorem stays_recvGoAway (r : Reason) (last : StreamId) : Stays s c (c.recvGoAway r last) := by
  have hloop : ∀ l : List (StreamId × Obj), Stays s c
      (l.foldl (fun c e => c.remoteResetStream e.2 r) { c with goAway := some r }) := by
    intro l
    refine Stays.trans (.same (d := { c with goAway := some r }) rfl) ?_
    exact stays_foldl (fun c e => stays_remoteResetStream e.2 r) l _
  unfold recvGoAway
  dsimp only
  refine Stays.of_eq ?_ (past_notifyCapacity _)
  exact (hloop _).trans stays_startDisconnect

/-! ## Sending -/

theorem stays_sendHalf (o : Obj) (eof : Bool) (h : (c.objs o).send.isClosed = false) :
    Stays s c (if eof then c.stateSendClose o none else c.stateSendPayload o) := by
  split
  · exact stays_stateSendClose o none
  · exact stays_stateSendPayload o h

theorem stays_sendHeaders {o : Obj} {h : Headers} (hs : (c.objs o).send.isClosed = false) :
    Stays s c (c.sendHeaders o h) := by
  unfold sendHeaders
  dsimp only
  generalize hc1 : (if h.endStream = true then c.stateSendClose o none else c.stateSendPayload o)
    = c1
  have h1 : Stays s c c1 := hc1 ▸ stays_sendHalf o h.endStream hs
  refine Stays.of_eq h1 ((past_encode _ rfl rfl).trans ?_)
  split
  · exact past_modify c1 o fun _ => ⟨rfl, rfl, rfl⟩
  · rfl

theorem past_sendInformational (c : Connection) (o : Obj) (status : Nat) (fields : HeaderMap) :
    (c.sendInformational o status fields).2.past = c.past := by
  unfold sendInformational
  split
  · rfl
  · split
    · rfl
    · exact past_encode c rfl rfl

/-- A half that is idle is not closed. -/
theorem checkSendIdle_open {t : Stream} (h : checkSendIdle t = .ok ()) :
    t.send.isClosed = false := by
  unfold checkSendIdle at h
  split at h
  · cases h
  · split at h
    · next hi => rw [hi]; rfl
    · cases h
    · cases h

/-- A response opens or closes the send half of a stream whose send half was open. -/
theorem stays_sendResponse (o : Obj) (status : Nat) (fields : HeaderMap) (eof : Bool) :
    Stays s c (c.sendResponse o status fields eof).2 := by
  unfold sendResponse
  split
  · exact .same rfl
  · next hidle =>
      split
      · exact .same rfl
      · exact Stays.of_eq (stays_sendHalf o eof (checkSendIdle_open hidle)) (past_encode _ rfl rfl)

theorem stays_sendTrailers (o : Obj) (fields : HeaderMap) :
    Stays s c (c.sendTrailers o fields).2 := by
  unfold sendTrailers
  split
  · split
    · exact .same rfl
    · exact Stays.trans (.same (past_encode c rfl rfl)) (stays_stateSendClose o none)
  · exact .same rfl

theorem past_setSendWindow (c : Connection) (w : Window) :
    ({ c with sendWindow := w } : Connection).past = c.past := rfl

theorem past_spendWindows (c : Connection) (o : Obj) (size : Nat) :
    (c.spendWindows o size).past = c.past := by
  unfold spendWindows
  rw [past_setSendWindow, past_note, past_modify, past_note]
  exact fun _ => ⟨rfl, rfl, rfl⟩

theorem stays_sendChunk (c : Connection) (o : Obj) (payload : Bytes) (size : Nat) (last : Bool) :
    Stays s c (c.sendChunk o payload size last) := by
  unfold sendChunk
  dsimp only
  generalize hn : c.note _ .overrun = c0
  have h0 : c0.past = c.past := by rw [← hn, past_note]
  generalize hc1 : c0.encode o .sendPages (.data ⟨(c0.objs o).id, payload, size, last⟩) = c1
  have h1 : Stays s c c1 := .same (by rw [← hc1, past_encode c0 rfl rfl, h0])
  generalize hc2 : (if last then c1.stateSendClose o none else c1) = c2
  have h2 : Stays s c c2 := by
    rw [← hc2]
    split
    · exact h1.trans (stays_stateSendClose o none)
    · exact h1
  exact h2.of_eq (past_spendWindows c2 o size)

/-- What a task of `send_pages` does. -/
theorem stays_sending (o : Obj) : SendRule o (Stays s) (Stays s) where
  refl := fun _ => .same rfl
  done := fun h => h
  andThen := Stays.trans
  writeReady := fun c r => .same (past_writeReady c o r)
  pollSendCapacity := fun c => .same (past_pollSendCapacity c o)
  sendChunk := fun _ payload size => stays_sendChunk _ o payload size false
  lastChunk := fun _ payload size last => stays_sendChunk _ o payload size last

/-- A payload closes it with its last chunk. -/
theorem stays_sendPages (io : Nat → IoTurn) (o : Obj) (data : StreamData) (eof : Bool) :
    Stays s c (c.sendPages io o data eof).2 := by
  unfold sendPages
  split
  · exact .same rfl
  · exact .same rfl
  · split
    · exact .same rfl
    · split
      · split
        · exact Stays.of_eq (stays_stateSendClose o none) (past_encode _ rfl rfl)
        · exact .same rfl
      · exact (stays_sending o).pagesLoop _ _ c data

theorem past_started (r : SendPoll × Connection) : (started r).past = r.2.past := by
  obtain ⟨x, c1⟩ := r
  cases x with
  | ready y => rfl
  | suspended p => rfl

theorem past_settle (i : Nat) (r : SendPoll × Connection) : (settle i r).past = r.2.past := by
  obtain ⟨x, c1⟩ := r
  cases x with
  | ready y => rfl
  | suspended p => rfl

theorem stays_capacityTimeout (o : Obj) : Stays s c (c.capacityTimeout o) := by
  unfold capacityTimeout
  dsimp only
  generalize hc1 : (c.modify o fun t => { t with capacityTimer := false }) = c1
  have h1 : Stays s c c1 := by
    rw [← hc1]
    exact .same (past_modify c o fun _ => ⟨rfl, rfl, rfl⟩)
  split
  · exact h1
  · exact ((h1.trans (stays_resetWith o _ _)).trans (stays_failed o _)).of_eq (past_dropStream _ _)

/-! ## Opening streams -/

/-- A client opens a stream. -/
theorem stays_openStream (ho : s.opens) (r : Request) : Stays s c (c.openStream r).2 := by
  unfold openStream
  split
  · exact .same rfl
  · split
    · exact .same rfl
    · next nextId _ =>
        dsimp only
        generalize hc1 : ({ c with nextStreamId := nextId } : Connection).insertStream
          c.nextStreamId false = c1
        have h1 : Stays s c c1 := by
          rw [← hc1]
          have hnext : Stays s c { c with nextStreamId := nextId } :=
            ⟨Nat.le_refl _, fun _ hp => .inl ⟨hp, rfl⟩, rfl, .inl rfl, .inl rfl, rfl, .inr ho, rfl,
              rfl, fun _ hp h => .inl ⟨hp, h⟩, fun _ _ h => h⟩
          exact hnext.trans (stays_insertStream (.inl ho) _)
        refine h1.trans (stays_sendHeaders ?_)
        rw [← hc1]
        show (if c.created = c.created then _ else _ : Stream).send.isClosed = false
        rw [if_pos rfl]
        rfl

theorem stays_sendRequest (ho : s.opens) (r : Request) : Stays s c (c.sendRequest r).2 := by
  have h : Stays s c (({ c with activeLocalStreams := c.activeLocalStreams + 1 } :
      Connection).openStream r).2 :=
    Stays.trans (.same (d := { c with activeLocalStreams := c.activeLocalStreams + 1 }) rfl)
      (stays_openStream ho r)
  unfold sendRequest
  cases hr : ({ c with activeLocalStreams := c.activeLocalStreams + 1 } :
      Connection).openStream r with
  | mk x c1 =>
      rw [hr] at h
      cases x with
      | ok o => exact h
      | error e => exact Stays.of_eq h (past_releaseLocalStream c1)

theorem stays_request (ho : s.opens) (r : Option Request) : Stays s c (c.request r).2 := by
  unfold request
  split
  · exact .same rfl
  · split
    · cases r with
      | none => exact .same rfl
      | some r =>
          dsimp only
          have h : Stays s c (c.sendRequest r).2 := stays_sendRequest ho r
          cases hr : c.sendRequest r with
          | mk x c1 =>
              rw [hr] at h
              cases x with
              | ok o => exact h
              | error e => exact h
    · exact .same rfl

/-- A request that waited opens its stream. -/
theorem stays_pollRequest (ho : s.opens) (w : Nat) (r : Option Request) :
    Stays s c (c.pollRequest w r).2 := by
  unfold pollRequest
  split
  · exact Stays.trans (.same (d := { c with waiters := c.waiters.filter (·.1 != w) }) rfl)
      (stays_request ho r)
  · exact .same rfl
  · exact .same rfl

theorem past_dropRequest (c : Connection) (w : Nat) : (c.dropRequest w).past = c.past := by
  unfold dropRequest
  split
  · rfl
  · rfl

theorem past_reserveStream (c : Connection) : c.reserveStream.1.past = c.past := by
  unfold reserveStream
  split
  · rfl
  · rfl

theorem past_releaseReservedStream (c : Connection) : c.releaseReservedStream.past = c.past := by
  unfold releaseReservedStream
  dsimp only
  generalize hc1 : c.note (decide (0 < c.reservedStreams)) .reserved = c1
  have h1 : c1.past = c.past := by rw [← hc1, past_note]
  have h2 : (({ c1 with reservedStreams := c1.reservedStreams - 1 } :
      Connection).releaseLocalStream.notifyCapacity).past = c.past := by
    rw [past_notifyCapacity, past_releaseLocalStream]
    exact h1
  split
  · exact h2
  · exact h2

theorem past_reservationDrop (c : Connection) : c.reservationDrop.past = c.past :=
  past_releaseReservedStream { c with reservations := c.reservations - 1 }

theorem stays_sendReservedRequest (ho : s.opens) (r : Request) :
    Stays s c (c.sendReservedRequest r).2 := by
  unfold sendReservedRequest
  split
  · exact .same rfl
  · split
    · exact .same rfl
    · split
      · exact .same rfl
      · have h : Stays s c (c.openStream r).2 := stays_openStream ho r
        cases hr : c.openStream r with
        | mk x c1 =>
            rw [hr] at h
            cases x with
            | error e => exact h
            | ok o => exact Stays.of_eq h (past_note c1 _ .reserved)

theorem stays_reservationSend (ho : s.opens) (r : Request) :
    Stays s c (c.reservationSend r).2 := by
  have h : Stays s c (c.sendReservedRequest r).2 := stays_sendReservedRequest ho r
  unfold reservationSend
  cases hr : c.sendReservedRequest r with
  | mk x c1 =>
      rw [hr] at h
      cases x with
      | ok o => exact h
      | error e => exact Stays.of_eq h (past_releaseReservedStream _)

/-! ## Handles -/

theorem stays_streamDrop (o : Obj) : Stays s c (c.streamDrop o) := by
  unfold streamDrop
  split
  · exact .same rfl
  · exact stays_resetWith o _ _

theorem stays_cancelStream (o : Obj) : Stays s c (c.cancelStream o) := by
  have h : Stays s c (c.reset o .cancel).1 := stays_resetWith o _ _
  unfold cancelStream
  dsimp only
  split
  · exact h.trans stays_startDisconnect
  · exact h

theorem stays_sendStreamDrop (o : Obj) : Stays s c (c.sendStreamDrop o) := by
  unfold sendStreamDrop
  dsimp only
  generalize hc1 : (c.modify o fun t => { t with noResetOnDrop := false }) = c1
  have h1 : Stays s c c1 := by
    rw [← hc1]
    exact .same (past_modify c o fun _ => ⟨rfl, rfl, rfl⟩)
  split
  · exact h1
  · exact h1.trans (stays_cancelStream o)

theorem stays_recvStreamDrop (o : Obj) : Stays s c (c.recvStreamDrop o) := by
  unfold recvStreamDrop
  dsimp only
  refine Stays.trans ?_ (stays_streamDrop o)
  split
  · exact .same rfl
  · exact stays_cancelStream o

/-! ## Settings -/

theorem past_applyLimits (c : Connection) (st : Settings) :
    (c.applyLimits st).past = { c.past with remoteSettings := true } := by
  unfold applyLimits
  cases st.maxHeaderListSize <;> cases st.maxFrameSize <;> (dsimp only; split <;> rfl)

/-- SETTINGS of the peer are marked and answered. -/
theorem past_recvPeerSettings {st : Settings} {u : Unit} (h : (c.recvPeerSettings st).1 = .ok u) :
    (c.recvPeerSettings st).2.past = c.past.answer := by
  unfold recvPeerSettings at h ⊢
  split at h
  · cases h
  · next hpush =>
      rw [if_neg hpush]
      have hw := (past_applyInitialWindow (c.applyLimits st) st).trans (past_applyLimits c st)
      cases hr : (c.applyLimits st).applyInitialWindow st with
      | mk b c1 =>
          rw [hr] at hw h
          cases b with
          | false => cases h
          | true =>
              change c1.past = _ at hw
              have hpush : (c1.encodeCon (.settings .newAck)).past =
                  { c1.past with kept := .sent none .connection (.settings .newAck) ::
                    c1.past.kept } := rfl
              exact hpush.trans (by rw [hw]; rfl)

theorem past_ackStream (upd : Int) (r : List (Obj × StreamError) × Connection) (o : Obj) :
    (ackStream upd r o).2.past = r.2.past := by
  have h := past_updateRecvWindow r.2 o upd
  unfold ackStream
  cases hu : r.2.updateRecvWindow o upd with
  | mk x c1 =>
      rw [hu] at h
      cases x with
      | error e => exact h
      | ok v =>
          cases v with
          | none => exact h
          | some n => exact (past_encodeWindowUpdate c1 o n).trans h

theorem past_ackStreams (upd : Int) (os : List Obj) :
    ∀ r : List (Obj × StreamError) × Connection,
      (os.foldl (ackStream upd) r).2.past = r.2.past := by
  induction os with
  | nil => exact fun r => rfl
  | cons o os ih =>
      intro r
      rw [List.foldl_cons]
      exact (ih _).trans (past_ackStream upd r o)

/-- The ack of the own settings is marked, once. -/
theorem past_recvSettingsAck (h : c.settingsProcessed = false) :
    ∃ errs, c.recvSettingsAck.1 = .ok errs ∧
      c.recvSettingsAck.2.past = { c.past with settingsProcessed := true } := by
  unfold recvSettingsAck
  rw [if_neg (by rw [h]; exact Bool.false_ne_true)]
  exact ⟨_, rfl, past_ackStreams _ _ _⟩

/-! ## The receipt of a frame -/

/-- The first frame has been checked. -/
theorem checkFirstFrame_of {f : Frame} (h : c.remoteSettings = true) :
    c.checkFirstFrame f = true := by
  unfold checkFirstFrame
  rw [h]
  rfl

/-- A frame that may come first is recorded, then dispatched. -/
theorem receive_eq {f : Frame} (h : c.checkFirstFrame f = true) :
    c.receive f = (c.push (.received (f.streamId.bind c.query) f)).dispatch f := by
  have h' : (c.push (.received (f.streamId.bind c.query) f)).checkFirstFrame f = true := h
  unfold receive
  dsimp only
  rw [if_pos h']

/-- What may end when a frame is received: the stream that it names and ends. -/
def hearing (c : Connection) (f : Frame) (fails : Prop) : Scope where
  fails := fails
  pings := True
  opens := False
  accepts := fun id => f.streamId = some id
  ends := fun o => f.endsStream = true ∧ ∃ id, f.streamId = some id ∧ c.Reaches id o

/-- A DATA frame, unless it is an error of the connection. -/
theorem stays_receiveData {d : Data} (fails : Prop) (h : c.remoteSettings = true)
    (hf : ∀ e, ((c.push (.received (c.query d.streamId) (.data d))).recvData d).1 =
      .error (.connection e) → fails) :
    Past.Stays (c.hearing (.data d) fails) (c.past.hear (c.query d.streamId) (.data d))
      (c.receive (.data d)).past := by
  rw [receive_eq (checkFirstFrame_of h)]
  have hends : d.endStream = true → ∀ o, (c.push (.received (c.query d.streamId)
      (.data d))).Reaches d.streamId o → (c.hearing (.data d) fails).ends o :=
    fun hend o ho => ⟨hend, d.streamId, rfl, ho⟩
  exact stays_handleMessage (stays_recvData hends) hf

/-- A WINDOW_UPDATE frame, unless it is an error of the connection. -/
theorem stays_receiveWindowUpdate {id : StreamId} {n : Nat} (fails : Prop)
    (h : c.remoteSettings = true)
    (hf : ∀ e, ((c.push (.received (c.query id) (.windowUpdate id n))).recvWindowUpdate id n).1 =
      .error (.connection e) → fails) :
    Past.Stays (c.hearing (.windowUpdate id n) fails)
      (c.past.hear (c.query id) (.windowUpdate id n)) (c.receive (.windowUpdate id n)).past := by
  rw [receive_eq (checkFirstFrame_of h)]
  exact stays_handleMessage (s := c.hearing (.windowUpdate id n) fails)
    (c := c.push (.received (c.query id) (.windowUpdate id n))) (stays_recvWindowUpdate id n) hf

/-- HEADERS that the server has not seen the stream of raise the last id to their own. -/
theorem stays_receiveNewHeaders {h : Headers} (hr : c.remoteSettings = true)
    (hs : c.server = true) (hid : StreamId.isClientInitiated h.streamId = true)
    (hq : c.query h.streamId = none) (hlt : c.lastId < h.streamId) :
    Past.Stays (c.hearing (.headers h) True)
      { c.past.hear (c.query h.streamId) (.headers h) with lastId := h.streamId }
      (c.receive (.headers h)).past := by
  rw [receive_eq (checkFirstFrame_of hr)]
  have hends : h.endStream = true → (c.hearing (.headers h) True).ends c.created :=
    fun hend => ⟨hend, h.streamId, rfl, .inr ⟨hq, rfl⟩⟩
  have hs1 := stays_recvNewHeaders (c := c.push (.received (c.query h.streamId) (.headers h)))
    (s := c.hearing (.headers h) True) (h := h) rfl hends
  have hnew : (c.push (.received (c.query h.streamId) (.headers h))).recvHeaders h =
      (c.push (.received (c.query h.streamId) (.headers h))).recvNewHeaders h := by
    have hq' : (c.push (.received (c.query h.streamId) (.headers h))).query h.streamId = none := hq
    have hs' : ¬(!(c.push (.received (c.query h.streamId) (.headers h))).server) = true := by
      show ¬(!c.server) = true
      rw [hs]
      exact Bool.false_ne_true
    unfold recvHeaders
    rw [if_neg (by rw [hid]; exact Bool.false_ne_true), hq']
    dsimp only
    rw [if_neg hs']
    exact if_neg (Nat.not_le_of_lt hlt)
  rw [← hnew] at hs1
  exact stays_handleMessage hs1 fun _ _ => trivial

/-- HEADERS may raise the last id to their own. -/
theorem stays_receiveHeaders {h : Headers} (hr : c.remoteSettings = true) :
    ∃ last, (last = c.lastId ∨ last = h.streamId ∧ c.lastId < last) ∧
      Past.Stays (c.hearing (.headers h) True)
        { c.past.hear (c.query h.streamId) (.headers h) with lastId := last }
        (c.receive (.headers h)).past := by
  rw [receive_eq (checkFirstFrame_of hr)]
  have hends : h.endStream = true → ∀ o, (c.push (.received (c.query h.streamId)
      (.headers h))).Reaches h.streamId o → (c.hearing (.headers h) True).ends o :=
    fun hend o ho => ⟨hend, h.streamId, rfl, ho⟩
  rcases stays_recvHeaders (s := c.hearing (.headers h) True) rfl hends with hs | ⟨hlt, hs⟩
  · exact ⟨c.lastId, .inl rfl, stays_handleMessage hs fun _ _ => trivial⟩
  · exact ⟨h.streamId, .inr ⟨rfl, hlt⟩, stays_handleMessage hs fun _ _ => trivial⟩

/-- HEADERS that the codec refuses may raise the last id to their own. -/
theorem stays_receiveInvalid {f : InvalidFrame} (hr : c.remoteSettings = true) :
    ∃ last, (last = c.lastId ∨ last = f.streamId ∧ c.lastId < last) ∧
      Past.Stays (c.hearing (.invalid f) True)
        { c.past.hear (c.query f.streamId) (.invalid f) with lastId := last }
        (c.receive (.invalid f)).past := by
  rw [receive_eq (checkFirstFrame_of hr)]
  rcases stays_recvInvalidFrame (s := c.hearing (.invalid f) True)
    (c := c.push (.received (c.query f.streamId) (.invalid f))) f with hs | ⟨hlt, hs⟩
  · exact ⟨c.lastId, .inl rfl, stays_handleMessage hs fun _ _ => trivial⟩
  · exact ⟨f.streamId, .inr ⟨rfl, hlt⟩, stays_handleMessage hs fun _ _ => trivial⟩

/-- Such HEADERS on an id that a server has not heard of raise the last id. -/
theorem stays_receiveNewInvalid {f : InvalidFrame} (hr : c.remoteSettings = true)
    (hs : c.server = true) (hk : f.kind = .headers)
    (hid : StreamId.isClientInitiated f.streamId = true)
    (hq : c.query f.streamId = none) (hlt : c.lastId < f.streamId) :
    Past.Stays (c.hearing (.invalid f) True)
      { c.past.hear (c.query f.streamId) (.invalid f) with lastId := f.streamId }
      (c.receive (.invalid f)).past := by
  rw [receive_eq (checkFirstFrame_of hr)]
  generalize hc1 : c.push (.received ((Frame.invalid f).streamId.bind c.query) (.invalid f)) = c1
  have hpast : { c.past.hear (c.query f.streamId) (.invalid f) with lastId := f.streamId } =
      ({ c1 with lastId := f.streamId } : Connection).past := by
    rw [← hc1]
    rfl
  have hq1 : c1.query f.streamId = none := hc1 ▸ hq
  have hs1 : ¬(!c1.server) = true := by
    rw [← hc1]
    show ¬(!c.server) = true
    rw [hs]
    exact Bool.false_ne_true
  have hlt1 : ¬c1.lastId ≥ f.streamId := hc1 ▸ Nat.not_le_of_lt hlt
  have hnew : c1.recvInvalidFrame f =
      ({ c1 with lastId := f.streamId } : Connection).countStream.resetUnknownStream f.streamId
        f.error.reason := by
    unfold recvInvalidFrame
    rw [hq1]
    dsimp only
    rw [hk]
    dsimp only
    unfold recvInvalidHeaders
    rw [if_neg (by rw [hid]; exact Bool.false_ne_true), if_neg hs1, if_neg hlt1]
  rw [hpast]
  refine stays_handleMessage (r := c1.recvInvalidFrame f) ?_ fun _ _ => trivial
  rw [hnew]
  exact Stays.trans (.same (d := ({ c1 with lastId := f.streamId } : Connection).countStream) rfl)
    (stays_resetUnknownStream _ _)

/-- A server has heard of the ids of all HEADERS, also of those that the codec refuses. -/
theorem lastId_receive {f : Frame} {id : StreamId} (hr : c.remoteSettings = true)
    (hs : c.server = true) (hf : f.headersId = some id)
    (hid : StreamId.isClientInitiated id = true)
    (hq : c.lastId < id → c.query id = none) : id ≤ (c.receive f).lastId := by
  by_cases hlt : c.lastId < id
  · cases f with
    | headers h =>
        cases hf
        exact Nat.le_of_eq (stays_receiveNewHeaders hr hs hid (hq hlt) hlt).lastId.symm
    | invalid g =>
        obtain ⟨hk, hg⟩ := Option.ite_none_right_eq_some.mp hf
        cases hg
        exact Nat.le_of_eq (stays_receiveNewInvalid hr hs hk hid (hq hlt) hlt).lastId.symm
    | _ => cases hf
  · refine Nat.le_trans (Nat.le_of_not_lt hlt) ?_
    cases f with
    | headers h =>
        obtain ⟨last, hlast, hstays⟩ := stays_receiveHeaders (h := h) hr
        have heq : (c.receive (.headers h)).lastId = last := hstays.lastId
        rcases hlast with rfl | ⟨-, hlt'⟩
        · exact Nat.le_of_eq heq.symm
        · exact heq ▸ Nat.le_of_lt hlt'
    | invalid g =>
        obtain ⟨last, hlast, hstays⟩ := stays_receiveInvalid (f := g) hr
        have heq : (c.receive (.invalid g)).lastId = last := hstays.lastId
        rcases hlast with rfl | ⟨-, hlt'⟩
        · exact Nat.le_of_eq heq.symm
        · exact heq ▸ Nat.le_of_lt hlt'
    | _ => cases hf

/-- The settings of the peer, unless they are an error. -/
theorem past_receiveSettings {st : Settings} {u : Unit} (hack : st.ack = false)
    (h : ((c.push (.received none (.settings st))).recvPeerSettings st).1 = .ok u) :
    (c.receive (.settings st)).past = (c.past.hear none (.settings st)).answer := by
  have hfirst : c.checkFirstFrame (.settings st) = true := by
    show (c.remoteSettings || !st.ack) = true
    rw [hack]
    exact Bool.or_true _
  have hp := past_recvPeerSettings h
  rw [receive_eq hfirst]
  change ((c.push (.received none (.settings st))).dispatch (.settings st)).past = _
  generalize hc1 : c.push (.received none (.settings st)) = c1 at h hp
  have hpast : c1.past = c.past.hear none (.settings st) := by
    rw [← hc1]
    rfl
  unfold dispatch
  dsimp only
  rw [if_neg (by rw [hack]; exact Bool.false_ne_true)]
  cases hr : c1.recvPeerSettings st with
  | mk x c2 =>
      rw [hr] at h hp
      cases x with
      | error e => cases h
      | ok v => exact hp.trans (by rw [hpast])

/-- The first ack of the own settings. -/
theorem stays_receiveAck {st : Settings} (hack : st.ack = true) (hr : c.remoteSettings = true)
    (hp : c.settingsProcessed = false) :
    Past.Stays (c.hearing (.settings st) False)
      { c.past.hear none (.settings st) with settingsProcessed := true }
      (c.receive (.settings st)).past := by
  rw [receive_eq (checkFirstFrame_of hr)]
  change Past.Stays _ _ ((c.push (.received none (.settings st))).dispatch (.settings st)).past
  generalize hc1 : c.push (.received none (.settings st)) = c1
  have hpast : c1.past = c.past.hear none (.settings st) := by
    rw [← hc1]
    rfl
  have hp1 : c1.settingsProcessed = false := (congrArg Past.settingsProcessed hpast).trans hp
  obtain ⟨errs, hok, hack'⟩ := past_recvSettingsAck hp1
  rw [hpast] at hack'
  rw [← hack']
  unfold dispatch
  dsimp only
  rw [if_pos hack]
  cases hc : c1.recvSettingsAck with
  | mk x c2 =>
      rw [hc] at hok
      cases x with
      | error e => cases hok
      | ok errs => exact stays_handleAckErrors errs

/-- A PING, or an ack of one. -/
theorem stays_ping (hp : s.pings) (ack : Bool) (payload : Bytes) :
    Stays s c (c.encodeCon (.ping ack payload)) :=
  ⟨Nat.le_refl _, fun _ ho => .inl ⟨ho, rfl⟩, rfl, .inl rfl, .inr hp, rfl, .inl rfl, rfl, rfl,
    fun _ ho h => .inl ⟨ho, h⟩, fun _ _ h => h⟩

/-- Frames that neither carry payload nor change a window or a setting. -/
def Passing : Frame → Prop
  | .reset _ _ | .ping _ _ | .goAway _ _ _ | .priority _ => True
  | _ => False

/-- Frames that go through their stream stay within the scope of that stream. -/
theorem stays_receivePassing {f : Frame} (hr : c.remoteSettings = true) (hf : Passing f) :
    Past.Stays (c.hearing f True) (c.past.hear (f.streamId.bind c.query) f) (c.receive f).past := by
  rw [receive_eq (checkFirstFrame_of hr)]
  generalize hc1 : c.push (.received (f.streamId.bind c.query) f) = c1
  have hpast : c1.past = c.past.hear (f.streamId.bind c.query) f := by
    rw [← hc1]
    rfl
  rw [← hpast]
  cases f with
  | reset id r =>
      exact stays_handleMessage (stays_recvRstStream id r) fun _ _ => trivial
  | ping ack payload =>
      unfold dispatch
      dsimp only
      split
      · exact .refl _
      · exact stays_ping trivial true payload
  | goAway last r data => exact stays_recvGoAway r last
  | priority id => exact .refl _
  | _ => exact False.elim hf

/-! ## Steps -/

/-- A step that is not the receipt of a frame. -/
def Local : Step → Prop
  | .receive _ => False
  | _ => True

/-- Streams may be opened, a stop of the dispatcher may fail the connection, and the keep-alive
task may write a PING. -/
theorem stays_step {a : Step} (ha : Local a) (ho : s.opens) (hf : ∀ x, a = .stop x → s.fails)
    (hp : ∀ payload, a = .ping payload → s.pings) : Stays s c (c.step a) := by
  cases a with
  | receive f => exact False.elim ha
  | stop x => exact stays_stop (hf x rfl) x
  | shutdown => exact stays_disconnect
  | ackError =>
      exact Stays.trans (.same (past_setAckErrors c [])) (stays_handleAckErrors c.ackErrors)
  | control goAway close =>
      refine .same ?_
      cases goAway <;> cases close <;> rfl
  | sendInformational o status fields => exact .same (past_sendInformational c o status fields)
  | sendResponse o status fields eof => exact stays_sendResponse o status fields eof
  | sendTrailers o fields => exact stays_sendTrailers o fields
  | sendPages io o data eof => exact (stays_sendPages io o data eof).of_eq (past_started _)
  | pollSender io r i =>
      unfold step
      dsimp only
      split
      · next p _ => exact ((stays_sending p.stream).pollSender c).of_eq (past_settle i _)
      · exact .same rfl
  | dropSender i =>
      unfold step
      dsimp only
      split
      · split
        · exact .same (past_cancelCapacityWait _ _)
        · exact .same rfl
      · exact .same rfl
  | pollSendCapacity o => exact .same (past_pollSendCapacity c o)
  | cancelCapacityWait o => exact .same (past_cancelCapacityWait c o)
  | capacityTimeout o => exact stays_capacityTimeout o
  | reset o r => exact stays_resetWith o _ _
  | consume i sz => exact .same (past_consume c i sz)
  | addCapacity i j => exact .same (past_addCapacity c i j)
  | dropCapacity i => exact .same (past_dropCapacity c i)
  | emptyCapacity o => exact .same rfl
  | request r => exact stays_request ho r
  | pollRequest w r => exact stays_pollRequest ho w r
  | dropRequest w => exact .same (past_dropRequest c w)
  | reserve => exact .same (past_reserveStream c)
  | reservationSend r => exact stays_reservationSend ho r
  | reservationDrop => exact .same (past_reservationDrop c)
  | inflight o => exact .same (past_modify c o fun _ => ⟨rfl, rfl, rfl⟩)
  | disconnectOnDrop o => exact .same (past_modify c o fun _ => ⟨rfl, rfl, rfl⟩)
  | streamDrop o => exact stays_streamDrop o
  | sendStreamDrop o => exact stays_sendStreamDrop o
  | recvStreamDrop o => exact stays_recvStreamDrop o
  | takeLocalClose o => exact .same (past_modify c o fun _ => ⟨rfl, rfl, rfl⟩)
  | startDisconnect => exact stays_startDisconnect
  | forceClose => exact .same (past_ioClose c)
  | ping payload => exact stays_ping (hp payload rfl) false payload
  | settingsTimer =>
      refine .same ?_
      unfold step
      dsimp only
      split
      · rfl
      · rfl
  | tick d => exact .same rfl
  | reorder l => exact .same rfl

/-- A connection that may fail, write PINGs and open streams. -/
def atWill : Scope := ⟨True, True, True, fun _ => True, fun _ => False⟩

/-- What the application does stays within the scope of a call at will. -/
theorem stays_local {a : Step} (ha : Local a) : Stays atWill c (c.step a) :=
  stays_step ha trivial (fun _ _ => trivial) fun _ _ => trivial

end Connection

end NtexH2
