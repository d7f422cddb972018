/-
  Connection/Mute.lean --- what a stream hears nothing of.

  A function that publishes nothing leaves the receive half of a stream as it is, or
  closes it, and only the functions that reset a stream leave an error behind for
  `take_local_close`.  A receive half is closed without such an error only where the
  caller answers for it.
-/
import NtexH2.Connection.PastSteps
import NtexH2.Connection.ResetLimit

set_option autoImplicit false

namespace NtexH2

namespace Connection

/-- A client counts no streams of its peer. -/
def Uncounted (c : Connection) : Prop := c.server = false ∧ c.streamsCount = 0

/-- What `Mute` is about. -/
def marks (c : Connection) : Nat × (Obj → Stream) × Bool × Nat :=
  (c.created, c.objs, c.server, c.streamsCount)

/-- A change without a message: receive halves stay or close, `P` are the streams that are
closed here while they are open, `Q` are those that the caller answers for, and a new stream has
heard nothing. -/
structure Mute (P Q : Obj → Prop) (c c' : Connection) : Prop where
  created : c.created ≤ c'.created
  recv : ∀ o < c.created,
    (c'.objs o).recv = (c.objs o).recv ∨ (c'.objs o).recv.isClosed = true
  send : ∀ o < c.created, P o → (c.objs o).send.isClosed = true →
    (c'.objs o).send.isClosed = true
  close : ∀ o < c.created, (c'.objs o).localClose = (c.objs o).localClose ∨
    (c'.objs o).localClose = none ∧ Q o ∨ P o ∧ (c.objs o).recv.isClosed = false ∧
      (c'.objs o).recv.isClosed = true ∧ (c'.objs o).send.isClosed = true
  quit : ∀ o < c.created, (c.objs o).recv.isClosed = false → (c'.objs o).recv.isClosed = true →
    (c'.objs o).localClose ≠ none ∨ Q o
  fresh : ∀ o, c.created ≤ o → o < c'.created →
    ((c'.objs o).recv = .idle ∨ (c'.objs o).recv.isClosed = true) ∧
      ((c'.objs o).localClose = none ∨ P o) ∧
      ((c'.objs o).recv.isClosed = true → (c'.objs o).localClose ≠ none ∨ Q o)
  count : c.Uncounted → c'.Uncounted

/-- No stream. -/
def Nobody (_ : Obj) : Prop := False

variable {P Q : Obj → Prop} {c c' c'' : Connection} {o : Obj}

/-- No stream changes. -/
theorem Mute.still (hc : c'.created = c.created) (ho : c'.objs = c.objs)
    (hn : c.Uncounted → c'.Uncounted) : Mute P Q c c' where
  created := Nat.le_of_eq hc.symm
  recv := fun o _ => .inl (by rw [ho])
  send := fun o _ _ h => by rwa [ho]
  close := fun o _ => .inl (by rw [ho])
  quit := by
    intro o _ hopen hcl
    rw [ho, hopen] at hcl
    cases hcl
  fresh := by
    intro o h h'
    rw [hc] at h'
    exact absurd h (Nat.not_le_of_lt h')
  count := hn

/-- Nothing that `Mute` is about has changed. -/
theorem Mute.same (h : c'.marks = c.marks) : Mute P Q c c' := by
  unfold marks at h
  obtain ⟨hc, ho, hs, hn⟩ : c'.created = c.created ∧ c'.objs = c.objs ∧ c'.server = c.server ∧
      c'.streamsCount = c.streamsCount := by
    simpa using h
  exact .still hc ho fun hu => ⟨hs.trans hu.1, hn.trans hu.2⟩

theorem Mute.refl (c : Connection) : Mute P Q c c := .same rfl

/-- A receive half that was closed is closed still. -/
theorem Mute.recv_closed (h : Mute P Q c c') (ho : o < c.created)
    (hcl : (c.objs o).recv.isClosed = true) : (c'.objs o).recv.isClosed = true := by
  rcases h.recv o ho with heq | hcl'
  · rwa [heq]
  · exact hcl'

/-- The error of a closed stream stays, unless the caller answers for it. -/
theorem Mute.keeps (h : Mute P Q c c') (ho : o < c.created)
    (hcl : (c.objs o).recv.isClosed = true) (hl : (c.objs o).localClose ≠ none ∨ Q o) :
    (c'.objs o).localClose ≠ none ∨ Q o := by
  rcases hl with hl | hQ
  · rcases h.close o ho with heq | ⟨-, hQ⟩ | ⟨-, hopen, -⟩
    · exact .inl (heq ▸ hl)
    · exact .inr hQ
    · rw [hcl] at hopen
      cases hopen
  · exact .inr hQ

/-- Silent changes compose: a half that is closed on the way stays closed. -/
theorem Mute.trans (h : Mute P Q c c') (h' : Mute P Q c' c'') : Mute P Q c c'' where
  created := Nat.le_trans h.created h'.created
  recv := by
    intro o ho
    rcases h'.recv o (Nat.lt_of_lt_of_le ho h.created) with heq' | hcl
    · rw [heq']
      exact h.recv o ho
    · exact .inr hcl
  send := fun o ho hP hs => h'.send o (Nat.lt_of_lt_of_le ho h.created) hP (h.send o ho hP hs)
  close := by
    intro o ho
    have ho' := Nat.lt_of_lt_of_le ho h.created
    rcases h'.close o ho' with heq' | hnone | ⟨hP, hopen, hdone⟩
    · rw [heq']
      rcases h.close o ho with heq | hnone | ⟨hP, hopen, hr, hs⟩
      · exact .inl heq
      · exact .inr (.inl hnone)
      · exact .inr (.inr ⟨hP, hopen, h'.recv_closed ho' hr, h'.send o ho' hP hs⟩)
    · exact .inr (.inl hnone)
    · refine .inr (.inr ⟨hP, ?_, hdone⟩)
      cases hcl : (c.objs o).recv.isClosed with
      | false => rfl
      | true =>
          rw [h.recv_closed ho hcl] at hopen
          cases hopen
  quit := by
    intro o ho hopen hcl
    have ho' := Nat.lt_of_lt_of_le ho h.created
    cases hcl' : (c'.objs o).recv.isClosed with
    | false => exact h'.quit o ho' hcl' hcl
    | true => exact h'.keeps ho' hcl' (h.quit o ho hopen hcl')
  fresh := by
    intro o ho ho'
    by_cases hlt : o < c'.created
    · obtain ⟨hr, hl, hq⟩ := h.fresh o ho hlt
      refine ⟨?_, ?_, fun hcl => ?_⟩
      · rcases h'.recv o hlt with heq' | hcl
        · rwa [heq']
        · exact .inr hcl
      · rcases h'.close o hlt with heq' | ⟨hnone, -⟩ | ⟨hP, -⟩
        · rwa [heq']
        · exact .inl hnone
        · exact .inr hP
      · cases hcl' : (c'.objs o).recv.isClosed with
        | false => exact h'.quit o hlt hcl' hcl
        | true => exact h'.keeps hlt hcl' (hq hcl')
    · exact h'.fresh o (Nat.le_of_not_lt hlt) ho'
  count := fun hu => h'.count (h.count hu)

/-- A change of one stream. -/
theorem Mute.modify (c : Connection) (o : Obj) {f : Stream → Stream}
    (hr : (f (c.objs o)).recv = (c.objs o).recv ∨ (f (c.objs o)).recv.isClosed = true ∧
      ((c.objs o).recv.isClosed = true ∨ Q o))
    (hs : P o → (c.objs o).send.isClosed = true → (f (c.objs o)).send.isClosed = true)
    (hl : (f (c.objs o)).localClose = (c.objs o).localClose ∨
      (f (c.objs o)).localClose = none ∧ Q o) : Mute P Q c (c.modify o f) := by
  have hother : ∀ p, p ≠ o → (c.modify o f).objs p = c.objs p := fun p hp => if_neg hp
  refine ⟨Nat.le_refl _, fun p _ => ?_, fun p _ hP => ?_, fun p _ => ?_,
    fun p _ hopen hcl => ?_, fun _ h h' => absurd h (Nat.not_le_of_lt h'), fun hu => hu⟩
  · by_cases hp : p = o
    · subst hp
      rw [modify_self]
      exact hr.imp_right And.left
    · exact .inl (congrArg Stream.recv (hother p hp))
  · by_cases hp : p = o
    · subst hp
      rw [modify_self]
      exact hs hP
    · rw [hother p hp]
      exact fun h => h
  · by_cases hp : p = o
    · subst hp
      rw [modify_self]
      exact hl.imp_right .inl
    · exact .inl (congrArg Stream.localClose (hother p hp))
  · by_cases hp : p = o
    · subst hp
      rw [modify_self] at hcl
      rcases hr with heq | ⟨-, hclosed | hQ⟩
      · rw [heq, hopen] at hcl
        cases hcl
      · rw [hopen] at hclosed
        cases hclosed
      · exact .inr hQ
    · rw [hother p hp, hopen] at hcl
      cases hcl

/-- A change that no receive half and no error shows. -/
theorem Mute.keep (h : Mute P Q c c') (o : Obj) {f : Stream → Stream}
    (hf : ∀ s, (f s).recv = s.recv ∧ (f s).localClose = s.localClose ∧
      ((f s).send = s.send ∨ (f s).send.isClosed = true)) : Mute P Q c (c'.modify o f) := by
  obtain ⟨hr, hl, hs⟩ := hf (c'.objs o)
  refine h.trans (.modify c' o (.inl hr) (fun _ hcl => ?_) (.inl hl))
  rcases hs with heq | hcl'
  · rwa [heq]
  · exact hcl'

/-- Both halves of a stream end, and the caller answers for it if it was open. -/
theorem Mute.shut (h : Mute P Q c c') (o : Obj) (hq : (c'.objs o).recv.isClosed = true ∨ Q o)
    {f : Stream → Stream} (hf : ∀ s, (f s).recv.isClosed = true ∧
      (f s).localClose = s.localClose ∧ (f s).send.isClosed = true) :
    Mute P Q c (c'.modify o f) := by
  obtain ⟨hr, hl, hs⟩ := hf (c'.objs o)
  exact h.trans (.modify c' o (.inr ⟨hr, hq⟩) (fun _ _ => hs) (.inl hl))

/-- Nobody is closed here. -/
theorem Mute.toNobody (h : Mute Nobody Q c c') (hP : ∀ o, ¬P o) : Mute P Q c c' where
  created := h.created
  recv := h.recv
  send := fun o _ ho => absurd ho (hP o)
  close := fun o ho => (h.close o ho).imp_right fun h => h.imp_right fun h => False.elim h.1
  quit := h.quit
  fresh := fun o ho ho' =>
    (h.fresh o ho ho').imp_right fun h => h.imp_left fun h => h.imp_right False.elim
  count := h.count

/-- The caller answers for more. -/
theorem Mute.mono {Q' : Obj → Prop} (h : Mute P Q c c') (hQ : ∀ o, Q o → Q' o) :
    Mute P Q' c c' where
  created := h.created
  recv := h.recv
  send := h.send
  close := fun o ho => (h.close o ho).imp_right fun h => h.imp_left fun h => h.imp_right (hQ o)
  quit := fun o ho hopen hcl => (h.quit o ho hopen hcl).imp_right (hQ o)
  fresh := fun o ho ho' => (h.fresh o ho ho').imp_right fun h => h.imp_right fun h hcl =>
    (h hcl).imp_right (hQ o)
  count := h.count

/-! ## Books -/

/-- An event on the log is no message. -/
theorem Mute.push (h : Mute P Q c c') (e : Event) : Mute P Q c (c'.push e) := h.trans (.same rfl)

theorem Mute.note (h : Mute P Q c c') (ok : Bool) (a : Anomaly) : Mute P Q c (c'.note ok a) := by
  refine h.trans ?_
  unfold Connection.note
  split
  · exact .refl _
  · exact .same rfl

theorem Mute.ioClose (h : Mute P Q c c') : Mute P Q c c'.ioClose := h.trans (.same rfl)

theorem Mute.encodeCon (h : Mute P Q c c') (f : Frame) : Mute P Q c (c'.encodeCon f) := h.push _

theorem Mute.encode (h : Mute P Q c c') (o : Obj) (w : Writer) (f : Frame) :
    Mute P Q c (c'.encode o w f) := h.push _

theorem Mute.setRecv (h : Mute P Q c c') (w : Window) (n : Nat) :
    Mute P Q c { c' with recvWindow := w, recvSize := n } := h.trans (.same rfl)

theorem Mute.setRecvWindow (h : Mute P Q c c') (w : Window) :
    Mute P Q c { c' with recvWindow := w } := h.trans (.same rfl)

theorem Mute.setRecvSize (h : Mute P Q c c') (n : Nat) : Mute P Q c { c' with recvSize := n } :=
  h.trans (.same rfl)

theorem Mute.setSendWindow (h : Mute P Q c c') (w : Window) :
    Mute P Q c { c' with sendWindow := w } := h.trans (.same rfl)

theorem Mute.setCaps (h : Mute P Q c c') (l : List Capacity) : Mute P Q c { c' with caps := l } :=
  h.trans (.same rfl)

theorem mute_stopCapacityTimer (c : Connection) (o : Obj) : Mute P Q c (c.stopCapacityTimer o) :=
  (Mute.refl c).keep o fun _ => ⟨rfl, rfl, .inl rfl⟩

theorem mute_startCapacityTimer (c : Connection) (o : Obj) :
    Mute P Q c (c.startCapacityTimer o) := by
  unfold startCapacityTimer
  split
  · exact (Mute.refl c).keep o fun _ => ⟨rfl, rfl, .inl rfl⟩
  · exact .refl c

theorem mute_releaseLocalStream (c : Connection) : Mute P Q c c.releaseLocalStream := by
  unfold releaseLocalStream
  dsimp only
  have h1 : Mute P Q c (c.note (decide (0 < c.activeLocalStreams)) .activeLocal) :=
    (Mute.refl c).note _ _
  generalize c.note (decide (0 < c.activeLocalStreams)) .activeLocal = c1 at h1
  split
  · exact h1.trans (.same rfl)
  · exact h1.trans (.same rfl)

/-- The counters of the streams are not the streams. -/
theorem mute_releaseStream (c : Connection) (remote : Bool) :
    Mute P Q c (c.releaseStream remote) := by
  unfold releaseStream
  split
  · have h1 : Mute P Q c (c.note (decide (0 < c.activeRemoteStreams)) .activeRemote) :=
      (Mute.refl c).note _ _
    exact h1.trans (.same rfl)
  · exact (mute_releaseLocalStream c).trans (.same rfl)

theorem mute_addPending (c : Connection) (id : StreamId) : Mute P Q c (c.addPending id) := by
  unfold addPending
  split
  · exact .same rfl
  · exact .refl c

/-- A stream that leaves the map keeps what it has heard and what it was left with. -/
theorem mute_dropStream (c : Connection) (id : StreamId) : Mute P Q c (c.dropStream id) := by
  unfold dropStream
  cases c.query id with
  | none => exact mute_addPending c id
  | some o =>
      dsimp only
      generalize hc1 : ({ c with streams := c.streams.eraseP (·.1 == id) } :
        Connection).stopCapacityTimer o = c1
      have h1 : Mute P Q c c1 := by
        rw [← hc1]
        refine Mute.trans ?_ (mute_stopCapacityTimer _ o)
        exact .same rfl
      have h2 := h1.trans (mute_releaseStream c1 (c1.objs o).remote)
      split
      · exact h2.ioClose
      · exact h2.trans (mute_addPending _ id)

theorem mute_dataReceived (c : Connection) (n : Nat) : Mute P Q c (c.dataReceived n) := by
  unfold dataReceived
  exact (((Mute.refl c).note _ _).note _ _).setRecv _ _

theorem mute_dataConsumed (c : Connection) (n : Nat) : Mute P Q c (c.dataConsumed n) := by
  unfold dataConsumed
  dsimp only
  refine Mute.setRecvWindow ?_ _
  split
  · exact ((((Mute.refl c).note _ _).setRecvSize _).note _ _).encodeCon _
  · exact (((Mute.refl c).note _ _).setRecvSize _).note _ _

theorem mute_receivedDataAdded (c : Connection) (o : Obj) (n : Nat) :
    Mute P Q c (c.receivedDataAdded o n) := by
  unfold receivedDataAdded
  dsimp only
  refine Mute.trans ?_ (mute_dataReceived _ n)
  exact (((Mute.refl c).note _ _).note _ _).keep o fun _ => ⟨rfl, rfl, .inl rfl⟩

theorem mute_encodeWindowUpdate (c : Connection) (o : Obj) (n : Nat) :
    Mute P Q c (c.encodeWindowUpdate o n) := by
  unfold encodeWindowUpdate
  exact ((Mute.refl c).note _ _).encode o _ _

theorem mute_reclaim (c : Connection) (o : Obj) (n : Nat) : Mute P Q c (c.reclaim o n) := by
  unfold reclaim
  dsimp only
  split
  · exact .refl c
  · generalize decide ((c.objs o).recvWindow.UpdateSafe n (c.config.windowSz : Int)) = b
    split
    · refine Mute.trans ?_ (mute_encodeWindowUpdate _ o _)
      exact ((Mute.refl c).note b _).keep o fun _ => ⟨rfl, rfl, .inl rfl⟩
    · exact (Mute.refl c).note b _

/-- Octets that are given back open windows and no half. -/
theorem mute_receivedDataConsumed (c : Connection) (o : Obj) (n : Nat) :
    Mute P Q c (c.receivedDataConsumed o n) := by
  unfold receivedDataConsumed
  dsimp only
  refine Mute.trans (Mute.trans ?_ (mute_reclaim _ o _)) (mute_dataConsumed _ n)
  exact ((Mute.refl c).note _ _).keep o fun _ => ⟨rfl, rfl, .inl rfl⟩

theorem mute_newCapacity (c : Connection) (o : Obj) (n : Nat) : Mute P Q c (c.newCapacity o n) := by
  unfold newCapacity
  refine Mute.setCaps ?_ _
  split
  · exact mute_receivedDataAdded c o n
  · exact .refl c

theorem mute_consume (c : Connection) (i n : Nat) : Mute P Q c (c.consume i n) := by
  unfold consume
  split
  · split
    · exact Mute.trans ((Mute.refl c).setCaps _) (mute_receivedDataConsumed _ _ n)
    · exact .refl c
  · exact .refl c

theorem mute_addCapacity (c : Connection) (i j : Nat) : Mute P Q c (c.addCapacity i j) := by
  unfold addCapacity
  split
  · split
    · exact ((Mute.refl c).note _ _).setCaps _
    · exact .refl c
  · exact .refl c

theorem mute_dropCapacity (c : Connection) (i : Nat) : Mute P Q c (c.dropCapacity i) := by
  unfold dropCapacity
  split
  · dsimp only
    split
    · exact Mute.trans ((Mute.refl c).setCaps _) (mute_receivedDataConsumed _ _ _)
    · exact (Mute.refl c).setCaps _
  · exact .refl c

theorem mute_updateRecvWindow (c : Connection) (o : Obj) (upd : Int) :
    Mute P Q c (c.updateRecvWindow o upd).2 := by
  unfold updateRecvWindow
  split
  · exact .refl c
  · split
    · exact .refl c
    · dsimp only
      exact (((Mute.refl c).note _ _).note _ _).keep o fun _ => ⟨rfl, rfl, .inl rfl⟩

theorem mute_updateRstCount (c : Connection) : Mute P Q c c.updateRstCount.2 := by
  have hcount : c.Uncounted → (decay c.streamsCount c.rstCount).1 = 0 := by
    intro hu
    rw [hu.2, decay_small (by decide)]
  unfold updateRstCount
  dsimp only
  split
  · exact .still rfl rfl fun hu => ⟨hu.1, hcount hu⟩
  · exact .still rfl rfl fun hu => ⟨hu.1, hcount hu⟩

theorem mute_wakeCapacityWaiter (c : Connection) (o : Obj) :
    Mute P Q c (c.wakeCapacityWaiter o) := by
  unfold wakeCapacityWaiter
  split
  · refine Mute.trans ?_ (mute_stopCapacityTimer _ o)
    exact (Mute.refl c).keep o fun _ => ⟨rfl, rfl, .inl rfl⟩
  · exact .refl c

/-- A loop. -/
theorem mute_foldl {α : Type} {f : Connection → α → Connection} (l : List α)
    (h : ∀ c, ∀ x ∈ l, Mute P Q c (f c x)) : ∀ c : Connection, Mute P Q c (l.foldl f c) := by
  induction l with
  | nil => exact fun c => .refl c
  | cons x l ih =>
      intro c
      exact (h c x List.mem_cons_self).trans
        (ih (fun c y hy => h c y (List.mem_cons_of_mem x hy)) _)

theorem mute_streamRecvWindowUpdate (c : Connection) (o : Obj) (n : Nat) :
    Mute P Q c (c.streamRecvWindowUpdate o n).2 := by
  unfold streamRecvWindowUpdate
  split
  · exact .refl c
  · split
    · exact .refl c
    · refine Mute.trans ?_ (mute_wakeCapacityWaiter _ o)
      exact (Mute.refl c).keep o fun _ => ⟨rfl, rfl, .inl rfl⟩

theorem mute_updateSendWindow (c : Connection) (o : Obj) (upd : Int) :
    Mute P Q c (c.updateSendWindow o upd).2 := by
  unfold updateSendWindow
  split
  · dsimp only
    refine Mute.trans ?_ (mute_wakeCapacityWaiter _ o)
    exact ((Mute.refl c).note _ _).keep o fun _ => ⟨rfl, rfl, .inl rfl⟩
  · split
    · split
      · exact .refl c
      · refine Mute.trans ?_ (mute_wakeCapacityWaiter _ o)
        exact (Mute.refl c).keep o fun _ => ⟨rfl, rfl, .inl rfl⟩
    · exact .refl c

/-- Over the list of the streams, each of which stays silent. -/
theorem mute_shiftSendWindows (upd : Int) (os : List Obj) :
    ∀ c : Connection, Mute P Q c (shiftSendWindows upd os c).2 := by
  induction os with
  | nil => exact fun c => .refl c
  | cons o os ih =>
      intro c
      have h : Mute P Q c (c.updateSendWindow o upd).2 := mute_updateSendWindow c o upd
      unfold shiftSendWindows
      cases hu : c.updateSendWindow o upd with
      | mk r c1 =>
          rw [hu] at h
          cases r with
          | error e => exact h
          | ok u => exact h.trans (ih c1)

theorem mute_applyLimits (c : Connection) (st : Settings) : Mute P Q c (c.applyLimits st) := by
  unfold applyLimits
  cases st.maxHeaderListSize <;> cases st.maxFrameSize <;>
    (dsimp only; split <;> exact .same rfl)

theorem mute_applyInitialWindow (c : Connection) (st : Settings) :
    Mute P Q c (c.applyInitialWindow st).2 := by
  unfold applyInitialWindow
  split
  · exact .refl c
  · next val _ =>
      dsimp only
      have h1 : Mute P Q c { c with remoteWindowSz := val } := .same rfl
      split
      · exact h1
      · exact h1.trans (mute_shiftSendWindows _ _ _)

/-- SETTINGS of the peer reach no reader. -/
theorem mute_recvPeerSettings (c : Connection) (st : Settings) :
    Mute P Q c (c.recvPeerSettings st).2 := by
  unfold recvPeerSettings
  split
  · exact .refl c
  · have h : Mute P Q c ((c.applyLimits st).applyInitialWindow st).2 :=
      (mute_applyLimits c st).trans (mute_applyInitialWindow _ st)
    cases hr : (c.applyLimits st).applyInitialWindow st with
    | mk b c1 =>
        rw [hr] at h
        cases b with
        | false => exact h
        | true => exact h.encodeCon _

theorem mute_ackStream (upd : Int) (r : List (Obj × StreamError) × Connection) (o : Obj) :
    Mute P Q r.2 (ackStream upd r o).2 := by
  have h : Mute P Q r.2 (r.2.updateRecvWindow o upd).2 := mute_updateRecvWindow r.2 o upd
  unfold ackStream
  cases hu : r.2.updateRecvWindow o upd with
  | mk x c1 =>
      rw [hu] at h
      cases x with
      | error e => exact h
      | ok v =>
          cases v with
          | none => exact h
          | some n => exact h.trans (mute_encodeWindowUpdate c1 o n)

/-- Over the list of the streams, as they are settled by the ack. -/
theorem mute_ackStreams (upd : Int) (os : List Obj) :
    ∀ r : List (Obj × StreamError) × Connection, Mute P Q r.2 (os.foldl (ackStream upd) r).2 := by
  induction os with
  | nil => exact fun r => .refl _
  | cons o os ih => exact fun r => (mute_ackStream upd r o).trans (ih _)

/-- Nor does the ack of the own settings. -/
theorem mute_recvSettingsAck (c : Connection) : Mute P Q c c.recvSettingsAck.2 := by
  unfold recvSettingsAck
  split
  · exact .refl c
  · refine Mute.trans ?_ (mute_ackStreams _ _ _)
    exact .same rfl

theorem mute_recvConWindowUpdate (c : Connection) (n : Nat) :
    Mute P Q c (c.recvConWindowUpdate n).2 := by
  unfold recvConWindowUpdate
  split
  · exact .refl c
  · split
    · exact .refl c
    · next w _ =>
        have h1 : Mute P Q c { c with sendWindow := w } := .same rfl
        dsimp only
        split
        · exact h1.trans (mute_foldl _ (fun c o _ => mute_wakeCapacityWaiter c o) _)
        · exact h1

/-! ## Tasks that wait -/

theorem mute_cancelCapacityWait (c : Connection) (o : Obj) :
    Mute P Q c (c.cancelCapacityWait o) := by
  unfold cancelCapacityWait
  refine Mute.trans ?_ (mute_stopCapacityTimer _ o)
  exact (Mute.refl c).keep o fun _ => ⟨rfl, rfl, .inl rfl⟩

/-- A task that waits for capacity hears of windows only. -/
theorem mute_pollSendCapacity (c : Connection) (o : Obj) :
    Mute P Q c (c.pollSendCapacity o).2 := by
  unfold pollSendCapacity
  split
  · exact mute_cancelCapacityWait c o
  · split
    · exact mute_cancelCapacityWait c o
    · have h1 : Mute P Q c (c.registerSendWaker o) :=
        (Mute.refl c).keep o fun _ => ⟨rfl, rfl, .inl rfl⟩
      refine Mute.trans ?_ (mute_startCapacityTimer _ o)
      exact h1.keep o fun _ => ⟨rfl, rfl, .inl rfl⟩

theorem mute_writeReady (c : Connection) (o : Obj) (r : IoReady) :
    Mute P Q c (c.writeReady o r).2 := by
  have hwaker : Mute P Q c (c.registerSendWaker o) :=
    (Mute.refl c).keep o fun _ => ⟨rfl, rfl, .inl rfl⟩
  unfold writeReady
  split
  · exact .refl c
  · cases r with
    | ready => exact hwaker
    | failed => exact hwaker
    | pending => exact hwaker

/-! ## The halves of a stream -/

/-- The review takes a stream that is done out of the map and changes no half. -/
theorem mute_reviewState (c : Connection) (o : Obj) : Mute P Q c (c.reviewState o) := by
  unfold reviewState
  split
  · refine Mute.trans ?_ (mute_dropStream _ _)
    exact (Mute.refl c).keep o fun _ => ⟨rfl, rfl, .inl rfl⟩
  · exact .refl c

/-- Opens the send half, so no stream may be among those whose send half stays closed. -/
theorem mute_stateSendPayload (c : Connection) (o : Obj) :
    Mute Nobody Q c (c.stateSendPayload o) :=
  .modify c o (.inl rfl) (fun h => False.elim h) (.inl rfl)

/-- Closes the send half and leaves the other. -/
theorem mute_stateSendClose (c : Connection) (o : Obj) (r : Option Reason) :
    Mute P Q c (c.stateSendClose o r) := by
  refine Mute.trans ?_ (mute_reviewState _ o)
  exact (Mute.refl c).keep o fun _ => ⟨rfl, rfl, .inr rfl⟩

section

variable (c : Connection) (o : Obj) (hq : (c.objs o).recv.isClosed = true ∨ Q o)

include hq

/-- `reset_stream` closes both halves; the caller answers for the stream. -/
theorem mute_resetStream (r : Option Reason) : Mute P Q c (c.resetStream o r) := by
  refine Mute.trans ?_ (mute_reviewState _ o)
  exact (Mute.refl c).shut o hq fun _ => ⟨rfl, rfl, rfl⟩

theorem mute_remoteResetStream (r : Reason) : Mute P Q c (c.remoteResetStream o r) := by
  refine Mute.trans ?_ (mute_reviewState _ o)
  exact (Mute.refl c).shut o hq fun _ => ⟨rfl, rfl, rfl⟩

theorem mute_failed (err : OperationError) : Mute P Q c (c.failed o err) := by
  refine Mute.trans ?_ (mute_reviewState _ o)
  exact (Mute.refl c).shut o hq fun _ => ⟨HalfState.closed_now _, rfl, HalfState.closed_now _⟩

/-- A failed stream is closed on both sides, and the error is its record. -/
theorem mute_setFailedStream (err : OperationError) : Mute P Q c (c.setFailedStream o err) :=
  (mute_failed c o hq err).trans (mute_stopCapacityTimer _ o)

/-- A reset by this end leaves no record of its own: the caller answers for the stream. -/
theorem mute_resetSilent (r : Reason) : Mute P Q c (c.resetSilent o r).1 := by
  unfold resetSilent
  split
  · refine Mute.trans ((Mute.refl c).encode o .resetSilent (.reset (c.objs o).id r)) ?_
    exact mute_resetStream (c.encode o .resetSilent (.reset (c.objs o).id r)) o hq _
  · exact .refl c

end

/-- A stream that is reset has no open half. -/
theorem resetSilent_closed (c : Connection) (o : Obj) (r : Reason) :
    ((c.resetSilent o r).1.objs o).recv.isClosed = true ∧
      ((c.resetSilent o r).1.objs o).send.isClosed = true := by
  unfold resetSilent
  split
  · have hend := outline_end (c := c.encode o .resetSilent (.reset (c.objs o).id r)) (o := o)
      (f := fun s => { s with
        recv := .closed (some r)
        send := .closed none
        error := some (.localReset r) }) rfl rfl
    have hside := congrArg (fun k => Outline.sides k o) hend
    dsimp only at hside
    rw [Outline.setSide_self] at hside
    constructor
    · exact congrArg (fun s : Side => s.recv.isClosed) hside
    · exact congrArg (fun s : Side => s.send.isClosed) hside
  · next h =>
      rw [Bool.or_eq_true, not_or, Bool.not_eq_true', Bool.not_eq_true', Bool.not_eq_false,
        Bool.not_eq_false] at h
      exact h

/-- A reset leaves an error behind if and only if the receive half was open. -/
theorem mute_resetWith (c : Connection) {o : Obj} (hP : P o) (r : Reason) (err : StreamError) :
    Mute P Q c (c.resetWith o r err).1 := by
  obtain ⟨hrecv, hsend⟩ := resetSilent_closed c o r
  unfold resetWith
  dsimp only
  cases hopen : (c.objs o).recv.isClosed with
  | true =>
      have h : Mute P Q c (c.resetSilent o r).1 := mute_resetSilent c o (.inl hopen) r
      cases hr : c.resetSilent o r with
      | mk c1 b =>
          rw [hr] at h
          cases b with
          | false => exact h
          | true => exact h
  | false =>
      have h : Mute P (fun p => Q p ∨ p = o) c (c.resetSilent o r).1 :=
        mute_resetSilent c o (.inr (.inr rfl)) r
      cases hr : c.resetSilent o r with
      | mk c1 b =>
          rw [hr] at h hrecv hsend
          cases b with
          | false =>
              -- an open stream is reset
              unfold resetSilent at hr
              rw [hopen] at hr
              cases (Prod.mk.inj hr).2
          | true =>
              show Mute P Q c (c1.modify o fun s => { s with localClose := some err })
              have hself : (c1.modify o fun s => { s with localClose := some err }).objs o =
                  { c1.objs o with localClose := some err } := modify_self c1 o _
              have hother : ∀ p, p ≠ o →
                  (c1.modify o fun s => { s with localClose := some err }).objs p = c1.objs p :=
                fun p hp => if_neg hp
              generalize hc2 : (c1.modify o fun s => { s with localClose := some err }) = c2 at *
              have hcreated : c2.created = c1.created := by
                rw [← hc2]
                rfl
              have hcount : c1.Uncounted → c2.Uncounted := by
                rw [← hc2]
                exact fun hu => hu
              refine ⟨hcreated ▸ h.created, fun p hp => ?_, fun p hp hP' => ?_, fun p hp => ?_,
                fun p hp ho hcl => ?_, fun p hp hp' => ?_, fun hu => hcount (h.count hu)⟩
              · by_cases hpo : p = o
                · subst hpo
                  rw [hself]
                  exact h.recv p hp
                · rw [hother p hpo]
                  exact h.recv p hp
              · by_cases hpo : p = o
                · subst hpo
                  rw [hself]
                  exact fun _ => hsend
                · rw [hother p hpo]
                  exact h.send p hp hP'
              · by_cases hpo : p = o
                · subst hpo
                  rw [hself]
                  exact .inr (.inr ⟨hP, hopen, hrecv, hsend⟩)
                · rw [hother p hpo]
                  refine (h.close p hp).imp_right fun h => h.imp_left fun h => h.imp_right ?_
                  exact fun h => h.resolve_right hpo
              · by_cases hpo : p = o
                · subst hpo
                  rw [hself]
                  exact .inl (Option.some_ne_none err)
                · rw [hother p hpo] at hcl ⊢
                  exact (h.quit p hp ho hcl).imp_right fun h => h.resolve_right hpo
              · rw [hcreated] at hp'
                by_cases hpo : p = o
                · subst hpo
                  rw [hself]
                  exact ⟨(h.fresh p hp hp').1, .inr hP, fun _ => .inl (Option.some_ne_none err)⟩
                · rw [hother p hpo]
                  obtain ⟨h1, h2, h3⟩ := h.fresh p hp hp'
                  exact ⟨h1, h2, fun hcl => (h3 hcl).imp_right fun h => h.resolve_right hpo⟩

/-- A reset leaves the receive half closed, whatever the state before. -/
theorem resetWith_closed (c : Connection) (o : Obj) (r : Reason) (err : StreamError) :
    ((c.resetWith o r err).1.objs o).recv.isClosed = true := by
  obtain ⟨hrecv, -⟩ := resetSilent_closed c o r
  unfold resetWith
  dsimp only
  cases hr : c.resetSilent o r with
  | mk c1 b =>
      rw [hr] at hrecv
      cases b with
      | false => exact hrecv
      | true =>
          dsimp only
          split
          · rw [modify_self]
            exact hrecv
          · exact hrecv

/-- The timer of `send_capacity` leaves its error behind for `take_local_close`. -/
theorem mute_capacityTimeout (c : Connection) {o : Obj} (hP : P o) :
    Mute P Q c (c.capacityTimeout o) := by
  unfold capacityTimeout
  dsimp only
  have h1 : Mute P Q c (c.modify o fun s => { s with capacityTimer := false }) :=
    (Mute.refl c).keep o fun _ => ⟨rfl, rfl, .inl rfl⟩
  split
  · exact h1
  · exact ((h1.trans (mute_resetWith _ hP _ _)).trans
      (mute_failed _ o (.inl (resetWith_closed _ o _ _)) _)).trans (mute_dropStream _ _)

/-! ## Sending -/

theorem mute_sendHalf (c : Connection) (o : Obj) (eof : Bool) :
    Mute Nobody Q c (if eof then c.stateSendClose o none else c.stateSendPayload o) := by
  split
  · exact mute_stateSendClose c o none
  · exact mute_stateSendPayload c o

/-- HEADERS that are sent touch the send half alone. -/
theorem mute_sendHeaders (c : Connection) (o : Obj) (h : Headers) :
    Mute Nobody Q c (c.sendHeaders o h) := by
  unfold sendHeaders
  dsimp only
  refine Mute.encode ?_ o _ _
  have h1 : Mute Nobody Q c
      (if h.endStream then c.stateSendClose o none else c.stateSendPayload o) :=
    mute_sendHalf c o h.endStream
  split
  · exact h1.keep o fun _ => ⟨rfl, rfl, .inl rfl⟩
  · exact h1

theorem mute_sendInformational (c : Connection) (o : Obj) (status : Nat) (fields : HeaderMap) :
    Mute Nobody Q c (c.sendInformational o status fields).2 := by
  unfold sendInformational
  split
  · exact .refl c
  · split
    · exact .refl c
    · exact (Mute.refl c).encode o _ _

/-- So does a response. -/
theorem mute_sendResponse (c : Connection) (o : Obj) (status : Nat) (fields : HeaderMap)
    (eof : Bool) : Mute Nobody Q c (c.sendResponse o status fields eof).2 := by
  unfold sendResponse
  split
  · exact .refl c
  · split
    · exact .refl c
    · exact (mute_sendHalf c o eof).encode o _ _

/-- So do trailers. -/
theorem mute_sendTrailers (c : Connection) (o : Obj) (fields : HeaderMap) :
    Mute Nobody Q c (c.sendTrailers o fields).2 := by
  unfold sendTrailers
  split
  · split
    · exact .refl c
    · exact ((Mute.refl c).encode o _ _).trans (mute_stateSendClose _ o none)
  · exact .refl c

theorem mute_spendWindows (c : Connection) (o : Obj) (size : Nat) :
    Mute Nobody Q c (c.spendWindows o size) := by
  unfold spendWindows
  dsimp only
  refine Mute.setSendWindow (Mute.note ?_ _ _) _
  exact ((Mute.refl c).note _ _).keep o fun _ => ⟨rfl, rfl, .inl rfl⟩

/-- So does every chunk of a payload. -/
theorem mute_sendChunk (c : Connection) (o : Obj) (payload : Bytes) (size : Nat) (last : Bool) :
    Mute Nobody Q c (c.sendChunk o payload size last) := by
  unfold sendChunk
  dsimp only
  generalize hn : c.note _ .overrun = c0
  have h0 : Mute Nobody Q c c0 := hn ▸ (Mute.refl c).note _ _
  generalize hc1 : c0.encode o .sendPages (.data ⟨(c0.objs o).id, payload, size, last⟩) = c1
  have h1 : Mute Nobody Q c c1 := hc1 ▸ h0.encode o _ _
  generalize hc2 : (if last then c1.stateSendClose o none else c1) = c2
  have h2 : Mute Nobody Q c c2 := by
    rw [← hc2]
    split
    · exact h1.trans (mute_stateSendClose c1 o none)
    · exact h1
  exact h2.trans (mute_spendWindows c2 o size)

/-- What a task of `send_pages` does. -/
theorem mute_sending (o : Obj) : SendRule o (Mute Nobody Q) (Mute Nobody Q) where
  refl := .refl
  done := fun h => h
  andThen := Mute.trans
  writeReady := fun c r => mute_writeReady c o r
  pollSendCapacity := fun c => mute_pollSendCapacity c o
  sendChunk := fun _ payload size => mute_sendChunk _ o payload size false
  lastChunk := fun _ payload size last => mute_sendChunk _ o payload size last

/-- So does a payload, chunk after chunk. -/
theorem mute_sendPages (c : Connection) (io : Nat → IoTurn) (o : Obj) (data : StreamData)
    (eof : Bool) : Mute Nobody Q c (c.sendPages io o data eof).2 := by
  unfold sendPages
  split
  · exact .refl c
  · exact .refl c
  · split
    · exact .refl c
    · split
      · split
        · exact (mute_stateSendClose c o none).encode o _ _
        · exact .refl c
      · exact (mute_sending o).pagesLoop _ _ c data

theorem mute_started (r : SendPoll × Connection) : Mute Nobody Q r.2 (started r) := by
  obtain ⟨x, c1⟩ := r
  cases x with
  | ready y => exact .refl _
  | suspended p => exact .same rfl

theorem mute_settle (i : Nat) (r : SendPoll × Connection) : Mute Nobody Q r.2 (settle i r) := by
  obtain ⟨x, c1⟩ := r
  cases x with
  | ready y => exact .same rfl
  | suspended p => exact .same rfl

/-! ## Opening streams -/

/-- A new stream has heard nothing. -/
theorem mute_insertStream (c : Connection) (id : StreamId) (remote : Bool) :
    Mute Nobody Q c (c.insertStream id remote) := by
  have hnew : (c.insertStream id remote).objs c.created = c.newStream id remote := if_pos rfl
  have hold : ∀ p < c.created, (c.insertStream id remote).objs p = c.objs p :=
    fun p hp => if_neg (Nat.ne_of_lt hp)
  refine ⟨Nat.le_succ _, fun p hp => .inl ?_, fun p _ hP => False.elim hP, fun p hp => .inl ?_,
    fun p hp hopen hcl => ?_, fun p hp hp' => ?_, fun hu => hu⟩
  · rw [hold p hp]
  · rw [hold p hp]
  · rw [hold p hp, hopen] at hcl
    cases hcl
  · have heq : p = c.created := Nat.le_antisymm (Nat.le_of_lt_succ hp') hp
    rw [heq, hnew]
    exact ⟨.inl rfl, .inl rfl, fun hcl => Bool.noConfusion hcl⟩

/-- A stream that this end opens has heard nothing, and nobody before it hears of it. -/
theorem mute_openStream (c : Connection) (r : Request) : Mute Nobody Q c (c.openStream r).2 := by
  unfold openStream
  split
  · exact .refl c
  · split
    · exact .refl c
    · next nextId _ =>
        have h1 : Mute Nobody Q c { c with nextStreamId := nextId } := .same rfl
        exact (h1.trans (mute_insertStream _ _ _)).trans (mute_sendHeaders _ _ _)

theorem mute_sendRequest (c : Connection) (r : Request) : Mute Nobody Q c (c.sendRequest r).2 := by
  have h0 : Mute Nobody Q c { c with activeLocalStreams := c.activeLocalStreams + 1 } := .same rfl
  have h := h0.trans (mute_openStream { c with activeLocalStreams := c.activeLocalStreams + 1 } r)
  unfold sendRequest
  cases hr : ({ c with activeLocalStreams := c.activeLocalStreams + 1 } :
      Connection).openStream r with
  | mk x c1 =>
      rw [hr] at h
      cases x with
      | ok o => exact h
      | error e => exact h.trans (mute_releaseLocalStream c1)

theorem mute_request (c : Connection) (r : Option Request) : Mute Nobody Q c (c.request r).2 := by
  unfold request
  split
  · exact .refl c
  · split
    · cases r with
      | none => exact .refl c
      | some r =>
          dsimp only
          have h : Mute Nobody Q c (c.sendRequest r).2 := mute_sendRequest c r
          cases hr : c.sendRequest r with
          | mk x c1 =>
              rw [hr] at h
              cases x with
              | ok o => exact h
              | error e => exact h
    · exact .same rfl

/-- A request that waited opens its stream now. -/
theorem mute_pollRequest (c : Connection) (w : Nat) (r : Option Request) :
    Mute Nobody Q c (c.pollRequest w r).2 := by
  have h1 : Mute Nobody Q c { c with waiters := c.waiters.filter (·.1 != w) } := .same rfl
  unfold pollRequest
  split
  · exact h1.trans (mute_request _ r)
  · exact h1
  · exact .refl c

theorem mute_dropRequest (c : Connection) (w : Nat) : Mute Nobody Q c (c.dropRequest w) := by
  unfold dropRequest
  split
  · exact .same rfl
  · exact .same rfl

theorem mute_reserveStream (c : Connection) : Mute Nobody Q c c.reserveStream.1 := by
  unfold reserveStream
  split
  · exact .refl c
  · exact .same rfl

theorem mute_releaseReservedStream (c : Connection) : Mute Nobody Q c c.releaseReservedStream := by
  unfold releaseReservedStream
  dsimp only
  generalize hc1 : c.note (decide (0 < c.reservedStreams)) .reserved = c1
  have h1 : Mute Nobody Q c c1 := hc1 ▸ (Mute.refl c).note _ _
  have h2 : Mute Nobody Q c { c1 with reservedStreams := c1.reservedStreams - 1 } :=
    h1.trans (.same rfl)
  have h3 := h2.trans (mute_releaseLocalStream _)
  have h4 : Mute Nobody Q c ({ c1 with reservedStreams := c1.reservedStreams - 1 } :
      Connection).releaseLocalStream.notifyCapacity := h3.trans (.same rfl)
  split
  · exact h4.ioClose
  · exact h4

theorem mute_reservationDrop (c : Connection) : Mute Nobody Q c c.reservationDrop := by
  have h1 : Mute Nobody Q c { c with reservations := c.reservations - 1 } := .same rfl
  exact h1.trans (mute_releaseReservedStream _)

theorem mute_sendReservedRequest (c : Connection) (r : Request) :
    Mute Nobody Q c (c.sendReservedRequest r).2 := by
  unfold sendReservedRequest
  split
  · exact .refl c
  · split
    · exact .refl c
    · split
      · exact .refl c
      · have h : Mute Nobody Q c (c.openStream r).2 := mute_openStream c r
        cases hr : c.openStream r with
        | mk x c1 =>
            rw [hr] at h
            cases x with
            | error e => exact h
            | ok o =>
                have h1 : Mute Nobody Q c (c1.note (decide (0 < c1.reservedStreams)) .reserved) :=
                  h.note _ _
                exact h1.trans (.same rfl)

/-- A reserved slot is spent on a stream. -/
theorem mute_reservationSend (c : Connection) (r : Request) :
    Mute Nobody Q c (c.reservationSend r).2 := by
  have h : Mute Nobody Q c (c.sendReservedRequest r).2 := mute_sendReservedRequest c r
  unfold reservationSend
  cases hr : c.sendReservedRequest r with
  | mk x c1 =>
      rw [hr] at h
      have h1 : Mute Nobody Q c { c1 with reservations := c1.reservations - 1 } :=
        h.trans (.same rfl)
      cases x with
      | ok o => exact h1
      | error e => exact h1.trans (mute_releaseReservedStream _)

/-! ## Shutting down -/

/-- A drain tells no reader. -/
theorem mute_startDisconnect (c : Connection) : Mute P Q c c.startDisconnect := by
  unfold startDisconnect
  dsimp only
  generalize hc1 : c.clearReadiness = c1
  have h1 : Mute P Q c c1 := by
    rw [← hc1]
    exact .same rfl
  generalize hc2 : (if c1.server && !c1.disconnectWhenReady && !c1.ioClosed && c1.error.isNone then
    c1.encodeCon (.goAway c1.lastId .noError []) else c1) = c2
  have h2 : Mute P Q c c2 := by
    rw [← hc2]
    split
    · exact h1.encodeCon _
    · exact h1
  have h3 : Mute P Q c { c2 with disconnectWhenReady := true } := h2.trans (.same rfl)
  split
  · exact h3.ioClose
  · exact h3

section

variable (c : Connection) (hQ : ∀ o ∈ c.values, Q o)

include hQ

/-- The failure of the connection is recorded in every stream of the map. -/
theorem mute_failStreams (err : OperationError) : Mute P Q c (c.failStreams err) := by
  unfold failStreams
  have h1 : Mute P Q c c.clearReadiness.takeStreams := .same rfl
  exact h1.trans (mute_foldl _ (fun c o ho => mute_setFailedStream c o (.inr (hQ o ho)) err) _)

theorem mute_fails (e : ConnectionError) :
    Mute P Q c (({ c.push (.failed e) with error := some (.connection e) } :
      Connection).failStreams (.connection e)) := by
  have h1 : Mute P Q c { c.push (.failed e) with error := some (.connection e) } := .same rfl
  exact h1.trans
    (mute_failStreams { c.push (.failed e) with error := some (.connection e) } hQ _)

/-- A protocol error closes every stream of the map. -/
theorem mute_protoError (e : ConnectionError) : Mute P Q c (c.protoError e) :=
  (mute_fails c hQ e).trans (.same rfl)

theorem mute_timeout (e : ConnectionError) (r : Reason) : Mute P Q c (c.timeout e r) :=
  (mute_fails c hQ e).trans (.same rfl)

/-- So does the loss of the io. -/
theorem mute_disconnect : Mute P Q c c.disconnect := by
  have h1 : Mute P Q c { c with error := some (c.error.getD .disconnected) } := .same rfl
  have h2 : Mute P Q c (({ c with error := some (c.error.getD .disconnected) } :
      Connection).failStreams .disconnected) := h1.trans
    (mute_failStreams { c with error := some (c.error.getD .disconnected) } hQ .disconnected)
  unfold disconnect
  dsimp only
  split
  · exact h2.ioClose.trans (.same rfl)
  · refine h2.trans ?_
    exact .same rfl

/-- So does every end of the dispatcher. -/
theorem mute_stop (x : Stop) : Mute P Q c (c.stop x) := by
  cases x with
  | encoder e => exact mute_protoError c hQ _
  | decoder e => exact mute_protoError c hQ _
  | keepAlive =>
      unfold stop
      dsimp only
      split
      · exact mute_timeout c hQ _ _
      · exact mute_timeout c hQ _ _
  | readTimeout => exact mute_timeout c hQ _ _
  | writeTimeout => exact mute_timeout c hQ _ _
  | io => exact mute_disconnect c hQ
  | service =>
      refine (mute_disconnect c hQ).trans ?_
      exact .same rfl

end

/-- GOAWAY closes the streams above `last` that this end opened; the caller answers for these. -/
theorem mute_recvGoAway (c : Connection) (r : Reason) (last : StreamId)
    (hQ : ∀ e ∈ c.streams, (c.objs e.2).remote = false → last < e.1 → Q e.2) :
    Mute P Q c (c.recvGoAway r last) := by
  unfold recvGoAway
  dsimp only
  have h1 : Mute P Q c { c with goAway := some r } := .same rfl
  have h2 := h1.trans (mute_foldl
    (c.streams.filter fun e => !(c.objs e.2).remote && decide (last < e.1))
    (fun c' (e : StreamId × Obj) he => by
      obtain ⟨hmem, hgone⟩ := List.mem_filter.mp he
      rw [Bool.and_eq_true, Bool.not_eq_true'] at hgone
      exact mute_remoteResetStream c' e.2 (.inr (hQ e hmem hgone.1 (of_decide_eq_true hgone.2))) r)
    _)
  refine (h2.trans (mute_startDisconnect _)).trans ?_
  exact .same rfl

/-- The first stream that the ack overflows is reset; the caller answers for it. -/
theorem mute_handleAckErrors (c : Connection) (errs : List (Obj × StreamError))
    (hQ : ∀ e ∈ errs.head?, Q e.1) : Mute P Q c (c.handleAckErrors errs) := by
  cases errs with
  | nil => exact .refl c
  | cons e errs =>
      have h1 : Mute P Q c ((c.push (.streamFailed e.1 e.2)).setFailedStream e.1 (.stream e.2)) :=
        ((Mute.refl c).push (.streamFailed e.1 e.2)).trans
          (mute_setFailedStream _ e.1 (.inr (hQ e rfl)) (.stream e.2))
      exact h1.trans (.same rfl)

/-! ## Handles -/

/-- A handle that is dropped resets a stream that is still open, with an error to take. -/
theorem mute_streamDrop (c : Connection) {o : Obj} (hP : P o) : Mute P Q c (c.streamDrop o) := by
  unfold streamDrop
  split
  · exact .refl c
  · exact mute_resetWith c hP _ _

/-- A cancelled stream is reset with an error to take. -/
theorem mute_cancelStream (c : Connection) {o : Obj} (hP : P o) :
    Mute P Q c (c.cancelStream o) := by
  have h : Mute P Q c (c.reset o .cancel).1 := mute_resetWith c hP _ _
  unfold cancelStream
  dsimp only
  split
  · exact h.trans (mute_startDisconnect _)
  · exact h

theorem mute_sendStreamDrop (c : Connection) {o : Obj} (hP : P o) :
    Mute P Q c (c.sendStreamDrop o) := by
  unfold sendStreamDrop
  dsimp only
  have h1 : Mute P Q c (c.modify o fun s => { s with noResetOnDrop := false }) :=
    (Mute.refl c).keep o fun _ => ⟨rfl, rfl, .inl rfl⟩
  split
  · exact h1
  · exact h1.trans (mute_cancelStream _ hP)

/-- The reader goes, and with it the streams that nobody holds any more. -/
theorem mute_recvStreamDrop (c : Connection) {o : Obj} (hP : P o) :
    Mute P Q c (c.recvStreamDrop o) := by
  unfold recvStreamDrop
  dsimp only
  refine Mute.trans ?_ (mute_streamDrop _ hP)
  split
  · exact .refl c
  · exact mute_cancelStream c hP

/-! ## Steps -/

/-- The stream that a step of the application may reset. -/
def Step.resets : Step → Option Obj
  | .capacityTimeout o | .reset o _ | .streamDrop o | .sendStreamDrop o
  | .recvStreamDrop o => some o
  | _ => none

theorem Step.resets_none {a : Step} (h : a.resets = none) (o : Obj) : ¬a.resets = some o := by
  rw [h]
  exact Option.some_ne_none o ∘ Eq.symm

/-- The streams that a step ends, or takes the error of, and answers for. -/
def Owes (c : Connection) : Step → Obj → Prop
  | .stop _ | .shutdown => fun o => o ∈ c.values
  | .ackError => fun o => ∃ e ∈ c.ackErrors.head?, e.1 = o
  | .takeLocalClose o => fun p => p = o
  | _ => Nobody

/-- A step that is not the receipt of a frame. -/
theorem mute_local (c : Connection) {a : Step} (ha : Local a) :
    Mute (fun o => a.resets = some o) (c.Owes a) c (c.step a) := by
  cases a with
  | receive f => exact False.elim ha
  | stop x => exact mute_stop c (fun _ ho => ho) x
  | shutdown => exact mute_disconnect c fun _ ho => ho
  | ackError =>
      have h1 : Mute (fun o => Step.ackError.resets = some o) (c.Owes .ackError) c
        { c with ackErrors := [] } := .same rfl
      exact h1.trans (mute_handleAckErrors _ c.ackErrors fun e he => ⟨e, he, rfl⟩)
  | control goAway close => cases goAway <;> cases close <;> exact .same rfl
  | capacityTimeout o => exact mute_capacityTimeout c rfl
  | reset o r =>
      exact mute_resetWith (P := fun p => (Step.reset o r).resets = some p) c rfl _ _
  | streamDrop o => exact mute_streamDrop c rfl
  | sendStreamDrop o => exact mute_sendStreamDrop c rfl
  | recvStreamDrop o => exact mute_recvStreamDrop c rfl
  | startDisconnect => exact mute_startDisconnect c
  | pollSendCapacity o => exact mute_pollSendCapacity c o
  | cancelCapacityWait o => exact mute_cancelCapacityWait c o
  | dropSender i =>
      unfold step
      dsimp only
      have h1 : Mute (fun o => (Step.dropSender i).resets = some o) (c.Owes (.dropSender i)) c
        { c with senders := c.senders.eraseIdx i } := .same rfl
      split
      · split
        · exact h1.trans (mute_cancelCapacityWait _ _)
        · exact h1
      · exact .refl c
  | consume i sz => exact mute_consume c i sz
  | addCapacity i j => exact mute_addCapacity c i j
  | dropCapacity i => exact mute_dropCapacity c i
  | emptyCapacity o => exact .same rfl
  | inflight o =>
      exact (Mute.refl c).keep o (f := fun s => { s with noResetOnDrop := true })
        fun _ => ⟨rfl, rfl, .inl rfl⟩
  | disconnectOnDrop o =>
      exact (Mute.refl c).keep o (f := fun s => { s with disconnectOnDrop := true })
        fun _ => ⟨rfl, rfl, .inl rfl⟩
  | takeLocalClose o =>
      exact .modify c o (f := fun s => { s with localClose := none }) (.inl rfl) (fun _ h => h)
        (.inr ⟨rfl, rfl⟩)
  | forceClose => exact (Mute.refl c).ioClose
  | ping payload => exact (Mute.refl c).encodeCon _
  | settingsTimer =>
      unfold step
      dsimp only
      split
      · exact .same rfl
      · exact .refl c
  | tick d => exact .same rfl
  | reorder l => exact .same rfl
  | dropRequest w => exact (mute_dropRequest c w).toNobody (Step.resets_none rfl)
  | reserve => exact (mute_reserveStream c).toNobody (Step.resets_none rfl)
  | reservationDrop => exact (mute_reservationDrop c).toNobody (Step.resets_none rfl)
  | sendInformational o status fields =>
      exact (mute_sendInformational c o status fields).toNobody (Step.resets_none rfl)
  | sendResponse o status fields eof =>
      exact (mute_sendResponse c o status fields eof).toNobody (Step.resets_none rfl)
  | sendTrailers o fields => exact (mute_sendTrailers c o fields).toNobody (Step.resets_none rfl)
  | sendPages io o data eof =>
      exact ((mute_sendPages c io o data eof).trans (mute_started _)).toNobody
        (Step.resets_none rfl)
  | pollSender io r i =>
      refine Mute.toNobody ?_ (Step.resets_none rfl)
      unfold step
      dsimp only
      split
      · next p _ => exact ((mute_sending p.stream).pollSender c).trans (mute_settle i _)
      · exact .refl c
  | request r => exact (mute_request c r).toNobody (Step.resets_none rfl)
  | pollRequest w r => exact (mute_pollRequest c w r).toNobody (Step.resets_none rfl)
  | reservationSend r => exact (mute_reservationSend c r).toNobody (Step.resets_none rfl)

end Connection

end NtexH2
