/-
  Connection/Past.lean --- what a function of a connection leaves in the history.

  Only the dispatcher records received frames, and only the settings of the peer are
  answered with SETTINGS; no other function touches the marks of the settings.  The
  receive half of a stream closes alone only when a frame ends it.  One relation says
  so, `Stays`, and every function of a connection is shown to be within it.
-/
import NtexH2.Connection.TameReceive
import NtexH2.Session.Ledger

set_option autoImplicit false

namespace NtexH2

namespace Event

/-- The events of the dispatcher and of the settings. -/
def kept : Event → Bool
  | .received _ _ => true
  | .sent _ _ (.settings _) => true
  | _ => false

/-- A frame that is received. -/
def arrival : Event → Bool
  | .received _ _ => true
  | _ => false

/-- A PING or an ack of one that is written. -/
def pinged : Event → Bool
  | .sent _ _ (.ping _ _) => true
  | _ => false

end Event

/-- What is left of a connection when its books and its writing are forgotten. -/
structure Past where
  created : Nat
  ids : Obj → StreamId
  kept : List Event
  failures : List Event
  pings : List Event
  lastId : StreamId
  nextStreamId : StreamId
  settingsProcessed : Bool
  remoteSettings : Bool
  recvClosed : Obj → Bool
  sendClosed : Obj → Bool

/-- What a function may do: fail the connection, write a PING, open a stream, accept the stream of
an id, end the receive half of a stream. -/
structure Scope where
  fails : Prop
  pings : Prop
  opens : Prop
  accepts : StreamId → Prop
  ends : Obj → Prop

namespace Past

/-- A change within a scope. -/
structure Stays (s : Scope) (k k' : Past) : Prop where
  created : k.created ≤ k'.created
  ids : ∀ o < k'.created, o < k.created ∧ k'.ids o = k.ids o ∨ s.opens ∨ s.accepts (k'.ids o)
  kept : k'.kept = k.kept
  failures : k'.failures = k.failures ∨ s.fails
  pings : k'.pings = k.pings ∨ s.pings
  lastId : k'.lastId = k.lastId
  nextStreamId : k'.nextStreamId = k.nextStreamId ∨ s.opens
  settingsProcessed : k'.settingsProcessed = k.settingsProcessed
  remoteSettings : k'.remoteSettings = k.remoteSettings
  recv : ∀ o < k'.created, k'.recvClosed o = true →
    o < k.created ∧ k.recvClosed o = true ∨ k'.sendClosed o = true ∨ s.ends o
  send : ∀ o < k.created, k.sendClosed o = true → k'.sendClosed o = true

/-- A received frame is recorded. -/
def hear (k : Past) (obj : Option Obj) (f : Frame) : Past :=
  { k with kept := .received obj f :: k.kept }

/-- The settings of the peer are marked, and answered with an ack. -/
def answer (k : Past) : Past :=
  { k with
    remoteSettings := true
    kept := .sent none .connection (.settings .newAck) :: k.kept }

variable {s : Scope} {k k' k'' : Past}

theorem Stays.refl (k : Past) : Stays s k k :=
  ⟨Nat.le_refl _, fun _ ho => .inl ⟨ho, rfl⟩, rfl, .inl rfl, .inl rfl, rfl, .inl rfl, rfl, rfl,
    fun _ ho h => .inl ⟨ho, h⟩, fun _ _ h => h⟩

/-- Changes within a scope compose: a stream that is new on the way was opened or accepted there.
-/
theorem Stays.trans (h : Stays s k k') (h' : Stays s k' k'') : Stays s k k'' where
  created := Nat.le_trans h.created h'.created
  ids := by
    intro o ho
    rcases h'.ids o ho with ⟨hlt, heq'⟩ | hnew
    · rcases h.ids o hlt with ⟨hlt, heq⟩ | hnew
      · exact .inl ⟨hlt, heq'.trans heq⟩
      · exact .inr (hnew.imp_right fun hn => heq' ▸ hn)
    · exact .inr hnew
  kept := h'.kept.trans h.kept
  failures := by
    rcases h'.failures with he' | hf
    · exact h.failures.imp_left he'.trans
    · exact .inr hf
  pings := by
    rcases h'.pings with he' | hp
    · exact h.pings.imp_left he'.trans
    · exact .inr hp
  lastId := h'.lastId.trans h.lastId
  nextStreamId := by
    rcases h'.nextStreamId with he' | ho
    · exact h.nextStreamId.imp_left he'.trans
    · exact .inr ho
  settingsProcessed := h'.settingsProcessed.trans h.settingsProcessed
  remoteSettings := h'.remoteSettings.trans h.remoteSettings
  recv := by
    intro o ho hr
    rcases h'.recv o ho hr with ⟨hlt, hr'⟩ | hs | he
    · rcases h.recv o hlt hr' with hold | hs | he
      · exact .inl hold
      · exact .inr (.inl (h'.send o hlt hs))
      · exact .inr (.inr he)
    · exact .inr (.inl hs)
    · exact .inr (.inr he)
  send := fun o ho hs => h'.send o (Nat.lt_of_lt_of_le ho h.created) (h.send o ho hs)

end Past

namespace Connection

variable {c c' c'' : Connection} {s : Scope}

/-- The past of a connection. -/
def past (c : Connection) : Past where
  created := c.created
  ids := fun o => (c.objs o).id
  kept := c.log.filter Event.kept
  failures := c.log.filter Event.failure
  pings := c.log.filter Event.pinged
  lastId := c.lastId
  nextStreamId := c.nextStreamId
  settingsProcessed := c.settingsProcessed
  remoteSettings := c.remoteSettings
  recvClosed := fun o => (c.objs o).recv.isClosed
  sendClosed := fun o => (c.objs o).send.isClosed

/-- A change of a connection within a scope. -/
def Stays (s : Scope) (c c' : Connection) : Prop := Past.Stays s c.past c'.past

theorem Stays.same {d : Connection} (h : d.past = c.past) : Stays s c d := by
  unfold Stays
  rw [h]
  exact .refl _

/-- Changes within a scope compose: a stream that is new on the way was opened or accepted there.
-/
theorem Stays.trans (h : Stays s c c') (h' : Stays s c' c'') : Stays s c c'' :=
  Past.Stays.trans h h'

theorem Stays.of_eq (h : Stays s c c') (he : c''.past = c'.past) : Stays s c c'' :=
  h.trans (.same he)

/-! ## Books -/

/-- A frame that is written, or the io that is closed. -/
theorem past_push (c : Connection) {e : Event} (hk : e.kept = false) (hf : e.failure = false)
    (hp : e.pinged = false) : (c.push e).past = c.past := by
  unfold past push
  congr 1
  · exact List.filter_cons_of_neg (by rw [hk]; exact Bool.false_ne_true)
  · exact List.filter_cons_of_neg (by rw [hf]; exact Bool.false_ne_true)
  · exact List.filter_cons_of_neg (by rw [hp]; exact Bool.false_ne_true)

theorem past_note (c : Connection) (ok : Bool) (a : Anomaly) : (c.note ok a).past = c.past := by
  unfold note
  split
  · rfl
  · rfl

/-- A change of a stream that leaves its halves as they are. -/
theorem past_modify (c : Connection) (o : Obj) {f : Stream → Stream}
    (h : ∀ s, (f s).id = s.id ∧ (f s).recv = s.recv ∧ (f s).send = s.send) :
    (c.modify o f).past = c.past := by
  unfold past modify
  congr 1
  · funext p
    dsimp only
    split
    · rw [(h _).1]
    · rfl
  · funext p
    dsimp only
    split
    · rw [(h _).2.1]
    · rfl
  · funext p
    dsimp only
    split
    · rw [(h _).2.2]
    · rfl

theorem past_ioClose (c : Connection) : c.ioClose.past = c.past := rfl

theorem past_notifyCapacity (c : Connection) : c.notifyCapacity.past = c.past := rfl

theorem past_releaseLocalStream (c : Connection) : c.releaseLocalStream.past = c.past := by
  unfold releaseLocalStream
  dsimp only
  have hn := past_note c (decide (0 < c.activeLocalStreams)) .activeLocal
  generalize c.note (decide (0 < c.activeLocalStreams)) .activeLocal = c1 at hn
  split
  · exact hn
  · exact hn

theorem past_releaseStream (c : Connection) (remote : Bool) :
    (c.releaseStream remote).past = c.past := by
  unfold releaseStream
  split
  · exact past_note c _ _
  · exact past_releaseLocalStream c

theorem past_addPending (c : Connection) (id : StreamId) : (c.addPending id).past = c.past := by
  unfold addPending
  split
  · rfl
  · rfl

theorem past_stopCapacityTimer (c : Connection) (o : Obj) :
    (c.stopCapacityTimer o).past = c.past :=
  past_modify c o fun _ => ⟨rfl, rfl, rfl⟩

theorem past_startCapacityTimer (c : Connection) (o : Obj) :
    (c.startCapacityTimer o).past = c.past := by
  unfold startCapacityTimer
  split
  · exact past_modify c o fun _ => ⟨rfl, rfl, rfl⟩
  · rfl

theorem past_dropStream (c : Connection) (id : StreamId) : (c.dropStream id).past = c.past := by
  unfold dropStream
  cases c.query id with
  | none => exact past_addPending c id
  | some o =>
      dsimp only
      generalize hc1 : ({ c with streams := c.streams.eraseP (·.1 == id) } :
        Connection).stopCapacityTimer o = c1
      have h1 : c1.past = c.past := by
        rw [← hc1, past_stopCapacityTimer]
        rfl
      have h2 := (past_releaseStream c1 (c1.objs o).remote).trans h1
      split
      · exact h2
      · exact (past_addPending _ id).trans h2

theorem past_setWindow (c : Connection) (w : Window) (n : Nat) :
    ({ c with recvWindow := w, recvSize := n } : Connection).past = c.past := rfl

theorem past_dataReceived (c : Connection) (n : Nat) : (c.dataReceived n).past = c.past := by
  unfold dataReceived
  rw [past_setWindow, past_note, past_note]

/-- A frame of the connection that is neither SETTINGS nor a PING is not kept. -/
theorem past_encodeCon (c : Connection) {f : Frame}
    (h : (Event.sent none .connection f).kept = false)
    (hp : (Event.sent none .connection f).pinged = false) : (c.encodeCon f).past = c.past :=
  past_push c h rfl hp

theorem past_encode (c : Connection) {o : Obj} {w : Writer} {f : Frame}
    (h : (Event.sent (some o) w f).kept = false)
    (hp : (Event.sent (some o) w f).pinged = false) : (c.encode o w f).past = c.past :=
  past_push c h rfl hp

theorem past_setRecvWindow (c : Connection) (w : Window) :
    ({ c with recvWindow := w } : Connection).past = c.past := rfl

theorem past_setRecvSize (c : Connection) (n : Nat) :
    ({ c with recvSize := n } : Connection).past = c.past := rfl

theorem past_setCaps (c : Connection) (l : List Capacity) :
    ({ c with caps := l } : Connection).past = c.past := rfl

theorem past_dataConsumed (c : Connection) (n : Nat) : (c.dataConsumed n).past = c.past := by
  unfold dataConsumed
  dsimp only
  rw [past_setRecvWindow]
  split
  · rw [past_encodeCon, past_note, past_setRecvSize, past_note]
    · rfl
    · rfl
  · rw [past_note, past_setRecvSize, past_note]

theorem past_receivedDataAdded (c : Connection) (o : Obj) (n : Nat) :
    (c.receivedDataAdded o n).past = c.past := by
  unfold receivedDataAdded
  dsimp only
  rw [past_dataReceived, past_modify, past_note, past_note]
  exact fun _ => ⟨rfl, rfl, rfl⟩

theorem past_encodeWindowUpdate (c : Connection) (o : Obj) (n : Nat) :
    (c.encodeWindowUpdate o n).past = c.past := by
  unfold encodeWindowUpdate
  dsimp only
  rw [past_encode, past_note]
  · rfl
  · rfl

theorem past_reclaim (c : Connection) (o : Obj) (n : Nat) : (c.reclaim o n).past = c.past := by
  unfold reclaim
  dsimp only
  split
  · rfl
  · generalize decide ((c.objs o).recvWindow.UpdateSafe n (c.config.windowSz : Int)) = b
    split
    · rw [past_encodeWindowUpdate, past_modify, past_note]
      exact fun _ => ⟨rfl, rfl, rfl⟩
    · rw [past_note]

theorem past_receivedDataConsumed (c : Connection) (o : Obj) (n : Nat) :
    (c.receivedDataConsumed o n).past = c.past := by
  unfold receivedDataConsumed
  dsimp only
  rw [past_dataConsumed, past_reclaim, past_modify, past_note]
  exact fun _ => ⟨rfl, rfl, rfl⟩

theorem past_newCapacity (c : Connection) (o : Obj) (n : Nat) :
    (c.newCapacity o n).past = c.past := by
  unfold newCapacity
  rw [past_setCaps]
  split
  · exact past_receivedDataAdded c o n
  · rfl

theorem past_consume (c : Connection) (i n : Nat) : (c.consume i n).past = c.past := by
  unfold consume
  split
  · split
    · rw [past_receivedDataConsumed]
      rfl
    · rfl
  · rfl

theorem past_addCapacity (c : Connection) (i j : Nat) : (c.addCapacity i j).past = c.past := by
  unfold addCapacity
  split
  · split
    · rw [past_setCaps, past_note]
    · rfl
  · rfl

theorem past_dropCapacity (c : Connection) (i : Nat) : (c.dropCapacity i).past = c.past := by
  unfold dropCapacity
  split
  · dsimp only
    split
    · rw [past_receivedDataConsumed]
      rfl
    · rfl
  · rfl

theorem past_updateRecvWindow (c : Connection) (o : Obj) (upd : Int) :
    (c.updateRecvWindow o upd).2.past = c.past := by
  unfold updateRecvWindow
  split
  · rfl
  · split
    · rfl
    · dsimp only
      rw [past_modify, past_note, past_note]
      exact fun _ => ⟨rfl, rfl, rfl⟩

theorem past_updateRstCount (c : Connection) : c.updateRstCount.2.past = c.past := by
  unfold updateRstCount
  dsimp only
  split
  · rfl
  · rfl

theorem past_wakeCapacityWaiter (c : Connection) (o : Obj) :
    (c.wakeCapacityWaiter o).past = c.past := by
  unfold wakeCapacityWaiter
  split
  · rw [past_stopCapacityTimer, past_modify]
    exact fun _ => ⟨rfl, rfl, rfl⟩
  · rfl

theorem past_wakeList (os : List Obj) : ∀ c : Connection,
    (os.foldl wakeCapacityWaiter c).past = c.past := by
  induction os with
  | nil => exact fun c => rfl
  | cons o os ih => exact fun c => (ih _).trans (past_wakeCapacityWaiter c o)

theorem past_streamRecvWindowUpdate (c : Connection) (o : Obj) (n : Nat) :
    (c.streamRecvWindowUpdate o n).2.past = c.past := by
  unfold streamRecvWindowUpdate
  split
  · rfl
  · split
    · rfl
    · dsimp only
      rw [past_wakeCapacityWaiter, past_modify]
      exact fun _ => ⟨rfl, rfl, rfl⟩

theorem past_updateSendWindow (c : Connection) (o : Obj) (upd : Int) :
    (c.updateSendWindow o upd).2.past = c.past := by
  unfold updateSendWindow
  split
  · dsimp only
    rw [past_wakeCapacityWaiter, past_modify, past_note]
    exact fun _ => ⟨rfl, rfl, rfl⟩
  · split
    · split
      · rfl
      · dsimp only
        rw [past_wakeCapacityWaiter, past_modify]
        exact fun _ => ⟨rfl, rfl, rfl⟩
    · rfl

/-- Over the list of the streams, as the initial window moves. -/
theorem past_shiftSendWindows (upd : Int) (os : List Obj) :
    ∀ c : Connection, (shiftSendWindows upd os c).2.past = c.past := by
  induction os with
  | nil => exact fun c => rfl
  | cons o os ih =>
      intro c
      have h := past_updateSendWindow c o upd
      unfold shiftSendWindows
      cases hu : c.updateSendWindow o upd with
      | mk r c1 =>
          rw [hu] at h
          cases r with
          | error e => exact h
          | ok u => exact (ih c1).trans h

theorem past_applyInitialWindow (c : Connection) (st : Settings) :
    (c.applyInitialWindow st).2.past = c.past := by
  unfold applyInitialWindow
  split
  · rfl
  · next val _ =>
      dsimp only
      split
      · rfl
      · exact past_shiftSendWindows _ _ { c with remoteWindowSz := val }

theorem past_recvConWindowUpdate (c : Connection) (n : Nat) :
    (c.recvConWindowUpdate n).2.past = c.past := by
  unfold recvConWindowUpdate
  split
  · rfl
  · split
    · rfl
    · dsimp only
      split
      · exact past_wakeList _ _
      · rfl

/-! ## Tasks that wait -/

theorem past_cancelCapacityWait (c : Connection) (o : Obj) :
    (c.cancelCapacityWait o).past = c.past := by
  unfold cancelCapacityWait
  rw [past_stopCapacityTimer, past_modify]
  exact fun _ => ⟨rfl, rfl, rfl⟩

theorem past_pollSendCapacity (c : Connection) (o : Obj) :
    (c.pollSendCapacity o).2.past = c.past := by
  unfold pollSendCapacity
  split
  · exact past_cancelCapacityWait c o
  · split
    · exact past_cancelCapacityWait c o
    · have hwaker : (c.registerSendWaker o).past = c.past :=
        past_modify c o fun _ => ⟨rfl, rfl, rfl⟩
      refine (past_startCapacityTimer _ o).trans (Eq.trans ?_ hwaker)
      exact past_modify _ o fun _ => ⟨rfl, rfl, rfl⟩

theorem past_writeReady (c : Connection) (o : Obj) (r : IoReady) :
    (c.writeReady o r).2.past = c.past := by
  have hwaker : (c.registerSendWaker o).past = c.past :=
    past_modify _ _ fun _ => ⟨rfl, rfl, rfl⟩
  unfold writeReady
  split
  · rfl
  · cases r with
    | ready => exact hwaker
    | failed => exact hwaker
    | pending => exact hwaker

/-! ## The halves of a stream -/

/-- A half that closes takes the other one with it, or may close. -/
theorem stays_modify (c : Connection) (o : Obj) {f : Stream → Stream}
    (hid : (f (c.objs o)).id = (c.objs o).id)
    (hr : (f (c.objs o)).recv.isClosed = true →
      (c.objs o).recv.isClosed = true ∨ (f (c.objs o)).send.isClosed = true ∨ s.ends o)
    (hs : (c.objs o).send.isClosed = true → (f (c.objs o)).send.isClosed = true) :
    Stays s c (c.modify o f) := by
  refine ⟨Nat.le_refl _, ?_, rfl, .inl rfl, .inl rfl, rfl, .inl rfl, rfl, rfl, ?_, ?_⟩
  · intro p hp
    refine .inl ⟨hp, ?_⟩
    show ((c.modify o f).objs p).id = (c.objs p).id
    by_cases hpo : p = o
    · subst hpo
      rw [modify_self]
      exact hid
    · exact congrArg Stream.id (if_neg hpo)
  · intro p hp hrecv
    by_cases hpo : p = o
    · subst hpo
      have hself : (c.modify p f).objs p = f (c.objs p) := modify_self c p f
      have hrecv' : ((c.modify p f).objs p).recv.isClosed = true := hrecv
      rw [hself] at hrecv'
      rcases hr hrecv' with hold | hsend | hend
      · exact .inl ⟨hp, hold⟩
      · refine .inr (.inl ?_)
        show ((c.modify p f).objs p).send.isClosed = true
        rw [hself]
        exact hsend
      · exact .inr (.inr hend)
    · have hother : (c.modify o f).objs p = c.objs p := if_neg hpo
      have hrecv' : ((c.modify o f).objs p).recv.isClosed = true := hrecv
      rw [hother] at hrecv'
      exact .inl ⟨hp, hrecv'⟩
  · intro p hp hsend
    show ((c.modify o f).objs p).send.isClosed = true
    by_cases hpo : p = o
    · subst hpo
      rw [modify_self]
      exact hs hsend
    · have hother : (c.modify o f).objs p = c.objs p := if_neg hpo
      rw [hother]
      exact hsend

theorem past_reviewState (c : Connection) (o : Obj) : (c.reviewState o).past = c.past := by
  unfold reviewState
  split
  · rw [past_dropStream, past_modify]
    exact fun _ => ⟨rfl, rfl, rfl⟩
  · rfl

/-- A half that is closed here is closed on both sides, or ended by the scope. -/
theorem stays_review (o : Obj) {f : Stream → Stream}
    (hid : (f (c.objs o)).id = (c.objs o).id)
    (hr : (f (c.objs o)).recv.isClosed = true →
      (c.objs o).recv.isClosed = true ∨ (f (c.objs o)).send.isClosed = true ∨ s.ends o)
    (hs : (c.objs o).send.isClosed = true → (f (c.objs o)).send.isClosed = true) :
    Stays s c ((c.modify o f).reviewState o) :=
  (stays_modify c o hid hr hs).of_eq (past_reviewState _ o)

theorem stays_stateSendPayload (o : Obj) (h : (c.objs o).send.isClosed = false) :
    Stays s c (c.stateSendPayload o) :=
  stays_modify c o rfl (fun hr => .inl hr) fun hs => by rw [h] at hs; cases hs

/-- The send half closes; the receive half stays. -/
theorem stays_stateSendClose (o : Obj) (r : Option Reason) : Stays s c (c.stateSendClose o r) :=
  stays_review o rfl (fun _ => .inr (.inl rfl)) fun _ => rfl

theorem stays_stateRecvPayload (o : Obj) : Stays s c (c.stateRecvPayload o) :=
  stays_modify c o rfl (fun hr => by cases hr) fun hs => hs

/-- The receive half closes alone, which the scope must end. -/
theorem stays_stateRecvClose {o : Obj} (h : s.ends o) (r : Option Reason) :
    Stays s c (c.stateRecvClose o r) :=
  stays_review o rfl (fun _ => .inr (.inr h)) fun hs => hs

/-- Both halves close together. -/
theorem stays_resetStream (o : Obj) (r : Option Reason) : Stays s c (c.resetStream o r) :=
  stays_review o rfl (fun _ => .inr (.inl rfl)) fun _ => rfl

theorem stays_remoteResetStream (o : Obj) (r : Reason) : Stays s c (c.remoteResetStream o r) :=
  stays_review o rfl (fun _ => .inr (.inl rfl)) fun _ => rfl

theorem stays_failed (o : Obj) (err : OperationError) : Stays s c (c.failed o err) :=
  stays_review o rfl (fun _ => .inr (.inl (HalfState.closed_now _))) fun _ => HalfState.closed_now _

/-- So do those of a stream that fails. -/
theorem stays_setFailedStream (o : Obj) (err : OperationError) :
    Stays s c (c.setFailedStream o err) :=
  (stays_failed o err).of_eq (past_stopCapacityTimer _ o)

theorem stays_resetSilent (o : Obj) (r : Reason) : Stays s c (c.resetSilent o r).1 := by
  unfold resetSilent
  split
  · exact Stays.trans (.same (past_encode c rfl rfl)) (stays_resetStream o _)
  · exact .same rfl

/-- So do those of a stream that is reset. -/
theorem stays_resetWith (o : Obj) (r : Reason) (err : StreamError) :
    Stays s c (c.resetWith o r err).1 := by
  have h : Stays s c (c.resetSilent o r).1 := stays_resetSilent o r
  unfold resetWith
  dsimp only
  cases hr : c.resetSilent o r with
  | mk c1 b =>
      rw [hr] at h
      cases b with
      | false => exact h
      | true =>
          dsimp only
          split
          · exact h.of_eq (past_modify c1 o fun _ => ⟨rfl, rfl, rfl⟩)
          · exact h

end Connection

end NtexH2
