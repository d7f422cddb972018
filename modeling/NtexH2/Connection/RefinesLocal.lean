/-
  Connection/RefinesLocal.lean --- opening streams, draining and failing are session steps.
-/
import NtexH2.Connection.RefinesSend

set_option autoImplicit false

namespace NtexH2

open Session (Steps)

namespace Connection

variable {G : Session.Guard} {c c' : Connection}

/-! ## New streams -/

theorem eraseP_new {l : List (Nat × Nat)} {id : Nat} (h : id ∉ l.map (·.1)) :
    l.eraseP (·.1 == id) = l := by
  apply List.eraseP_of_forall_not
  intro e he hb
  rw [beq_iff_eq] at hb
  exact h (hb ▸ List.mem_map_of_mem (f := (·.1)) he)

theorem session_insertStream (id : Nat) (remote : Bool) (h : id ∉ c.streams.map (·.1)) :
    (c.insertStream id remote).session = { c.session with
      created := c.created + 1
      cells := Function.update c.session.cells c.created (c.newStream id remote).cell
      streams := (id, c.created) :: c.streams } := by
  have hcells : (fun p => ((c.insertStream id remote).objs p).cell) =
      Function.update c.session.cells c.created (c.newStream id remote).cell := by
    funext p
    by_cases hp : p = c.created
    · subst hp
      simp [insertStream]
    · simp [insertStream, hp, session]
  show ({ c.session with
    created := c.created + 1
    cells := fun p => ((c.insertStream id remote).objs p).cell
    streams := (id, c.created) :: c.streams.eraseP (·.1 == id) } : Session) = _
  rw [hcells, eraseP_new h]

theorem reviewState_of_open {o : Nat} (h : (c.objs o).recv.isClosed = false) :
    c.reviewState o = c := by
  unfold reviewState
  rw [if_neg (by simp [h])]

/-- The head of a stream whose receive half is open. -/
theorem session_sendHeaders {o : Nat} {h : Headers} (hr : (c.objs o).recv = .idle) :
    (c.sendHeaders o h).session =
      ((c.session.modify o fun s => { s with
        send := if h.endStream then .closed else .payload }).push
          (.sent (some o) .sendHeaders (.headers h))) ∧
      (c.sendHeaders o h).anomalies = c.anomalies := by
  unfold sendHeaders
  dsimp only
  generalize hc1 : (if h.endStream = true then c.stateSendClose o none
    else c.stateSendPayload o) = c1
  have h1 : c1.session = (c.session.modify o fun s => { s with
      send := if h.endStream then .closed else .payload }) ∧ c1.anomalies = c.anomalies := by
    rw [← hc1]
    cases h.endStream with
    | true =>
        show (Connection.reviewState _ o).session = _ ∧ (Connection.reviewState _ o).anomalies = _
        rw [reviewState_of_open (by simp [modify, hr, HalfState.isClosed])]
        exact ⟨session_modify rfl, rfl⟩
    | false =>
        refine ⟨?_, rfl⟩
        show (c.stateSendPayload o).session = _
        exact session_modify rfl
  generalize hc2 : (if h.pseudo.method = some (octets "HEAD") then
    c1.modify o fun s => { s with contentLength := .head } else c1) = c2
  have h2 : c2.session = c1.session ∧ c2.anomalies = c1.anomalies := by
    rw [← hc2]
    split
    · exact ⟨session_modify_same rfl, rfl⟩
    · exact ⟨rfl, rfl⟩
  refine ⟨?_, h2.2.trans h1.2⟩
  show c2.session.push _ = _
  rw [h2.1, h1.1]

theorem nextId_eq_some {id next : Nat} (h : StreamId.nextId id = some next) :
    next = id + 2 ∧ id + 2 ≤ StreamId.max := by
  unfold StreamId.nextId at h
  split at h
  · cases h
  · next hle =>
      cases h
      exact ⟨rfl, Nat.le_of_not_lt hle⟩

theorem nextStreamId_new (hc : c.session.Table) (hs : c.server = false) :
    c.nextStreamId ∉ c.streams.map (·.1) := by
  intro hm
  obtain ⟨o, ho, hid⟩ := hc.mem_keys.mp hm
  obtain ⟨hnext, hids⟩ := hc.given hs
  have h1 := hids o (hc.bound o ho)
  have h2 : c.session.nextStreamId = 2 * c.session.created + 1 := hnext
  have h3 := hc.bound o ho
  have h4 : (c.session.cells o).id = c.session.nextStreamId := hid
  omega

/-- A stream that is opened with the headers `hd`. -/
theorem session_open {hd : Headers} (hnew : c.nextStreamId ∉ c.streams.map (·.1))
    (hs : c.server = false) (hid : hd.streamId = c.nextStreamId) :
    ((({ c with nextStreamId := c.nextStreamId + 2 } : Connection).insertStream c.nextStreamId
      false).sendHeaders c.created hd).session = { c.session with
        nextStreamId := c.nextStreamId + 2
        created := c.created + 1
        cells := Function.update c.session.cells c.created (c.session.openCell hd)
        streams := (hd.streamId, c.created) :: c.streams
        log := .sent (some c.created) .sendHeaders (.headers hd) :: c.log } ∧
    ((({ c with nextStreamId := c.nextStreamId + 2 } : Connection).insertStream c.nextStreamId
      false).sendHeaders c.created hd).anomalies = c.anomalies := by
  have hins := session_insertStream (c := { c with nextStreamId := c.nextStreamId + 2 })
    c.nextStreamId false hnew
  generalize hc1 : ({ c with nextStreamId := c.nextStreamId + 2 } : Connection).insertStream
    c.nextStreamId false = c1 at hins
  have hrecv : (c1.objs c.created).recv = .idle := by
    rw [← hc1]
    simp [insertStream, newStream]
  have ha1 : c1.anomalies = c.anomalies := by
    rw [← hc1]
    rfl
  obtain ⟨h1, h2⟩ := session_sendHeaders (c := c1) (h := hd) hrecv
  refine ⟨?_, h2.trans ha1⟩
  have hcell : (({ c with nextStreamId := c.nextStreamId + 2 } : Connection).newStream
      c.nextStreamId false).cell = c.session.newCell hd.streamId := by
    rw [← hs, hid]
    rfl
  rw [h1, hins, hcell]
  unfold Session.modify Session.push
  dsimp only
  rw [Function.update_self, Function.update_idem, hid]
  unfold Session.openCell
  rw [hid]
  rfl

/-- What `open_stream` does: nothing, or a stream. -/
theorem openStream_cases (c : Connection) (r : Request) :
    (∃ e, c.openStream r = (.error e, c)) ∨
    ∃ hd : Headers, hd.streamId = c.nextStreamId ∧ c.nextStreamId + 2 ≤ StreamId.max ∧
      c.openStream r = (.ok c.created,
        (({ c with nextStreamId := c.nextStreamId + 2 } : Connection).insertStream c.nextStreamId
          false).sendHeaders c.created hd) := by
  unfold openStream
  cases hl : c.checkHeaderListSize (c.requestPseudo r) r.fields with
  | error e => exact .inl ⟨e, rfl⟩
  | ok u =>
      cases hn : StreamId.nextId c.nextStreamId with
      | none => exact .inl ⟨_, rfl⟩
      | some next =>
          obtain ⟨rfl, hmax⟩ := nextId_eq_some hn
          exact .inr ⟨_, rfl, hmax, rfl⟩

/-! ## Requests -/

theorem runs_openLocal {hd : Headers} (hs : c.server = false) (hf : c.error = none)
    (hg : c.goAway = none) (hdr : c.disconnectWhenReady = false)
    (hid : hd.streamId = c.nextStreamId) (hmax : c.nextStreamId + 2 ≤ StreamId.max)
    (h1 : c'.session = { c.session with
      nextStreamId := c.nextStreamId + 2
      created := c.created + 1
      cells := Function.update c.session.cells c.created (c.session.openCell hd)
      streams := (hd.streamId, c.created) :: c.streams
      activeLocal := c.activeLocalStreams + 1
      log := .sent (some c.created) .sendHeaders (.headers hd) :: c.log })
    (h2 : c'.anomalies = c.anomalies) : Runs G c c' := by
  refine .step fun hc => ⟨h2.trans hc.anomalies, ?_⟩
  have hstep : Session.Step G c.session (c.session.openLocal hd false) :=
    .openLocal hs (by show c.error.isSome = false; rw [hf]; rfl)
      (by show c.goAway.isSome = false; rw [hg]; rfl) (fun _ => hdr) hid hmax
      (fun h => by cases h)
  rw [h1]
  exact hstep

theorem checkError_none (h : c.checkErrorWithDisconnect = none) :
    c.error = none ∧ c.goAway = none ∧ c.disconnectWhenReady = false := by
  unfold checkErrorWithDisconnect at h
  cases he : c.error with
  | some e =>
      rw [he] at h
      cases h
  | none =>
      rw [he] at h
      cases hg : c.goAway with
      | some r =>
          rw [hg] at h
          cases h
      | none =>
          rw [hg] at h
          cases hd : c.disconnectWhenReady with
          | true =>
              rw [hd] at h
              cases h
          | false => exact ⟨rfl, rfl, rfl⟩

theorem runs_sendRequest (hs : c.server = false) (hch : c.checkErrorWithDisconnect = none)
    (r : Request) : Runs G c (c.sendRequest r).2 := by
  refine .of_clean fun hc => ?_
  obtain ⟨hf, hg, hdr⟩ := checkError_none hch
  unfold sendRequest
  rcases openStream_cases { c with activeLocalStreams := c.activeLocalStreams + 1 } r with
    ⟨e, he⟩ | ⟨hd, hid, hmax, he⟩
  · rw [he]
    obtain ⟨h1, h2⟩ := session_releaseLocalStream
      (c := { c with activeLocalStreams := c.activeLocalStreams + 1 }) (Nat.succ_pos _)
    exact .same h2 h1
  · rw [he]
    obtain ⟨h1, h2⟩ := session_open (c := { c with
      activeLocalStreams := c.activeLocalStreams + 1 }) (nextStreamId_new (c := c) hc.good.table hs)
      hs hid
    exact runs_openLocal hs hf hg hdr hid hmax h1 h2

theorem runs_addWaiter : Runs G c c.addWaiter.2 := .same rfl rfl

theorem runs_request (hs : c.server = false) (r : Option Request) : Runs G c (c.request r).2 := by
  unfold request
  cases hch : c.checkErrorWithDisconnect with
  | some e => exact .refl c
  | none =>
      dsimp only
      split
      · cases r with
        | none => exact .refl c
        | some r =>
            have hr := runs_sendRequest (G := G) hs hch r
            dsimp only
            cases hres : c.sendRequest r with
            | mk x c1 =>
                rw [hres] at hr
                cases x <;> exact hr
      · exact runs_addWaiter

theorem runs_pollRequest (hs : c.server = false) (w : Nat) (r : Option Request) :
    Runs G c (c.pollRequest w r).2 := by
  have hw : Runs G c { c with waiters := c.waiters.filter (·.1 != w) } := .same rfl rfl
  unfold pollRequest
  cases c.signal w with
  | none => exact .refl c
  | some s =>
      cases s with
      | pending => exact .refl c
      | sent =>
          exact hw.trans
            (runs_request (c := { c with waiters := c.waiters.filter (·.1 != w) }) hs r)
      | dropped => exact hw

theorem runs_dropRequest (w : Nat) : Runs G c (c.dropRequest w) := by
  unfold dropRequest
  split
  · exact .same rfl rfl
  · exact .same rfl rfl

/-! ## Reservations -/

theorem runs_reserveStream (hs : c.server = false) : Runs G c c.reserveStream.1 := by
  unfold reserveStream
  split
  · exact .refl c
  · next hn =>
      have hch : c.checkErrorWithDisconnect = none := by
        cases hch : c.checkErrorWithDisconnect with
        | none => rfl
        | some e => simp [hch] at hn
      obtain ⟨hf, hg, hdr⟩ := checkError_none hch
      refine .step fun hc => ⟨hc.anomalies, ?_⟩
      exact Session.Step.reserve hs (by show c.error.isSome = false; rw [hf]; rfl)
        (by show c.goAway.isSome = false; rw [hg]; rfl) hdr

/-- A reservation is given back; the value is gone already. -/
theorem runs_releaseReserved (hs : c.server = false) (hr : 0 < c.reservations) :
    Runs G c
      ({ c with reservations := c.reservations - 1 } : Connection).releaseReservedStream := by
  refine .step fun hc => ?_
  have ht := hc.good.table
  have hres : c.reservedStreams = c.reservations := ht.reserved
  have hact : c.activeLocalStreams = c.streams.length + c.reservedStreams := by
    have : c.activeLocalStreams =
        (if c.server then 0 else c.streams.length) + c.reservedStreams := ht.activeLocal
    rw [hs] at this
    simpa using this
  have hstep : Session.Step G c.session c.session.unreserve := .unreserve hs hr
  unfold releaseReservedStream
  rw [note_anomalies { c with reservations := c.reservations - 1 }
    (decide_eq_true (show 0 < c.reservedStreams by omega))]
  dsimp only
  obtain ⟨h1, h2⟩ := session_releaseLocalStream
    (c := { c with
      reservations := c.reservations - 1
      reservedStreams := c.reservedStreams - 1 }) (by show 0 < c.activeLocalStreams; omega)
  generalize ({ c with
    reservations := c.reservations - 1
    reservedStreams := c.reservedStreams - 1 } : Connection).releaseLocalStream = c1 at h1 h2
  have hcnd : (c1.notifyCapacity.reservedStreams == 0 && c1.notifyCapacity.streams.isEmpty &&
      c1.notifyCapacity.disconnectWhenReady) = true ↔
      c.reservedStreams - 1 = 0 ∧ c.streams = [] ∧ c.disconnectWhenReady = true := by
    have e1 : c1.reservedStreams = c.reservedStreams - 1 := congrArg Session.reserved h1
    have e2 : c1.streams = c.streams := congrArg Session.streams h1
    have e3 : c1.disconnectWhenReady = c.disconnectWhenReady := congrArg Session.draining h1
    show (c1.reservedStreams == 0 && c1.streams.isEmpty && c1.disconnectWhenReady) = true ↔ _
    rw [e1, e2, e3, Bool.and_eq_true, Bool.and_eq_true, beq_iff_eq, List.isEmpty_iff, and_assoc]
  have hs1 : c1.notifyCapacity.session = c1.session := rfl
  unfold Session.unreserve at hstep
  dsimp only at hstep
  by_cases hend : c.reservedStreams - 1 = 0 ∧ c.streams = [] ∧ c.disconnectWhenReady = true
  · have hend' : c.session.reserved - 1 = 0 ∧ c.session.streams = [] ∧
        c.session.draining = true := hend
    rw [if_pos (hcnd.mpr hend)]
    rw [if_pos hend'] at hstep
    refine ⟨h2.trans hc.anomalies, ?_⟩
    show Session.Step G c.session c1.session.ioClose
    rw [h1]
    exact hstep
  · have hend' : ¬(c.session.reserved - 1 = 0 ∧ c.session.streams = [] ∧
        c.session.draining = true) := hend
    rw [if_neg fun h => hend (hcnd.mp h)]
    rw [if_neg hend'] at hstep
    refine ⟨h2.trans hc.anomalies, ?_⟩
    rw [hs1, h1]
    exact hstep

theorem runs_reservationSend (hs : c.server = false) (hr : 0 < c.reservations) (r : Request) :
    Runs G c (c.reservationSend r).2 := by
  refine .of_clean fun hc => ?_
  have hres : c.reservedStreams = c.reservations := hc.good.table.reserved
  have hrel : Runs G c ({ c with reservations := c.reservations - 1 } :
      Connection).releaseReservedStream := runs_releaseReserved hs hr
  unfold reservationSend sendReservedRequest
  cases he : c.error with
  | some e => exact hrel
  | none =>
      cases hio : c.ioClosed with
      | true => exact hrel
      | false =>
        cases hg : c.goAway with
        | some reason => exact hrel
        | none =>
            simp only [Bool.false_eq_true, if_false]
            rcases openStream_cases c r with ⟨e, ho⟩ | ⟨hd, hid, hmax, ho⟩
            · rw [ho]
              exact hrel
            · rw [ho]
              dsimp only
              obtain ⟨h1, h2⟩ := session_open (nextStreamId_new hc.good.table hs) hs hid
              generalize ((({ c with nextStreamId := c.nextStreamId + 2 } :
                Connection).insertStream c.nextStreamId false).sendHeaders c.created hd) = c1
                at h1 h2
              have e1 : c1.reservedStreams = c.reservedStreams := congrArg Session.reserved h1
              have e2 : c1.reservations = c.reservations := congrArg Session.reservations h1
              rw [note_anomalies c1 (decide_eq_true (by rw [e1]; omega))]
              refine .step fun hc => ⟨h2.trans hc.anomalies, ?_⟩
              have hstep : Session.Step G c.session (c.session.openLocal hd true) :=
                .openLocal hs (by show c.error.isSome = false; rw [he]; rfl)
                  (by show c.goAway.isSome = false; rw [hg]; rfl) (fun h => by cases h) hid hmax
                  (fun _ => hr)
              show Session.Step G c.session ({ c1.session with
                reserved := c1.reservedStreams - 1
                reservations := c1.reservations - 1 } : Session)
              rw [e1, e2, h1]
              exact hstep

/-! ## Draining -/

theorem runs_startDisconnect : Runs G c c.startDisconnect := by
  have h1 : Runs G c c.clearReadiness := .same rfl rfl
  unfold startDisconnect
  dsimp only
  generalize hc2 : (if (c.clearReadiness.server && !c.clearReadiness.disconnectWhenReady &&
    !c.clearReadiness.ioClosed && c.clearReadiness.error.isNone) = true then
      c.clearReadiness.encodeCon (.goAway c.clearReadiness.lastId .noError [])
    else c.clearReadiness) = c2
  have h2 : Runs G c.clearReadiness c2 := by
    rw [← hc2]
    split
    · exact runs_quiet trivial
    · exact .refl _
  refine (h1.trans h2).trans (.step fun hc => ?_)
  have hstep : Session.Step G c2.session c2.session.drain := .drain
  unfold Session.drain at hstep
  by_cases hend : c2.streams = [] ∧ c2.reservedStreams = 0
  · have hend' : c2.session.streams = [] ∧ c2.session.reserved = 0 := hend
    rw [if_pos (by simp [hend.1, hend.2])]
    rw [if_pos hend'] at hstep
    exact ⟨hc.anomalies, hstep⟩
  · have hend' : ¬(c2.session.streams = [] ∧ c2.session.reserved = 0) := hend
    rw [if_neg (by simpa using hend)]
    rw [if_neg hend'] at hstep
    exact ⟨hc.anomalies, hstep⟩

theorem runs_ioClose (h : c.session.failed = true ∨ G.shut) : Runs G c c.ioClose :=
  .step fun hc => ⟨hc.anomalies, .shut h⟩

theorem runs_streamDrop {o : Nat} (ho : o < c.created) : Runs G c (c.streamDrop o) := by
  unfold streamDrop
  split
  · exact .refl c
  · exact runs_reset ho .cancel

theorem runs_cancelStream {o : Nat} (ho : o < c.created) : Runs G c (c.cancelStream o) := by
  unfold cancelStream
  dsimp only
  split
  · exact (runs_reset ho .cancel).trans runs_startDisconnect
  · exact runs_reset ho .cancel

theorem runs_sendStreamDrop {o : Nat} (ho : o < c.created) : Runs G c (c.sendStreamDrop o) := by
  have h1 : Runs G c (c.modify o fun s => { s with noResetOnDrop := false }) := runs_flags rfl
  unfold sendStreamDrop
  dsimp only
  split
  · exact h1
  · exact h1.next ho fun ho => runs_cancelStream ho

theorem runs_recvStreamDrop {o : Nat} (ho : o < c.created) : Runs G c (c.recvStreamDrop o) := by
  unfold recvStreamDrop
  dsimp only
  split
  · exact runs_streamDrop ho
  · exact (runs_cancelStream ho).next ho fun ho => runs_streamDrop ho

/-! ## Failing -/

/-- A stream fails after the map was emptied. -/
theorem session_setFailed_nil {o : Nat} (hnil : c.streams = []) (err : OperationError) :
    (c.setFailedStream o err).session = c.session.modify o (fun s => s.close true true) ∧
      (c.setFailedStream o err).anomalies = c.anomalies ∧
      (c.setFailedStream o err).streams = [] := by
  unfold setFailedStream failed
  generalize hc1 : c.modify o (fun s => { s with
    recv := if s.recv.isClosed then s.recv else .closed none
    send := if s.send.isClosed then s.send else .closed none
    error := some err
    failed := true }) = c1
  have h1 : c1.session = c.session.modify o (fun s => s.close true true) := by
    rw [← hc1]
    apply session_modify
    simp only [Stream.cell, Cell.close, half_failed, if_true]
  have h2 : c1.streams = [] ∧ c1.anomalies = c.anomalies := by
    rw [← hc1]
    exact ⟨hnil, rfl⟩
  have h3 : (c1.reviewState o).session = c1.session ∧
      (c1.reviewState o).anomalies = c1.anomalies := by
    unfold reviewState
    split
    · have hq : ∀ id, (c1.modify o fun s => { s with sendCap := false }).query id = none := by
        intro id
        show (c1.streams.find? _).map _ = none
        rw [h2.1]
        rfl
      obtain ⟨h4, h5⟩ := session_dropStream_none (hq (c1.objs o).id)
      exact ⟨h4.trans (session_modify_same rfl), h5⟩
    · exact ⟨rfl, rfl⟩
  have hs : ((c1.reviewState o).stopCapacityTimer o).session = c1.session :=
    (session_modify_same rfl).trans h3.1
  refine ⟨hs.trans h1, h3.2.trans h2.2, ?_⟩
  have : ((c1.reviewState o).stopCapacityTimer o).streams = c1.streams :=
    congrArg Session.streams hs
  exact this.trans h2.1

/-- All streams of a list fail, after the map was emptied. -/
theorem session_failList (err : OperationError) (os : List Nat) :
    ∀ c : Connection, c.streams = [] →
      (os.foldl (fun c o => c.setFailedStream o err) c).session = { c.session with
        cells := fun p => if p ∈ os then (c.session.cells p).close true true
          else c.session.cells p } ∧
      (os.foldl (fun c o => c.setFailedStream o err) c).anomalies = c.anomalies := by
  induction os with
  | nil =>
      intro c _
      refine ⟨?_, rfl⟩
      simp only [List.foldl_nil, List.not_mem_nil, if_false]
  | cons o os ih =>
      intro c hnil
      obtain ⟨e1, e2, e3⟩ := session_setFailed_nil (o := o) hnil err
      obtain ⟨h1, h2⟩ := ih (c.setFailedStream o err) e3
      rw [List.foldl_cons, h1, h2, e1]
      refine ⟨?_, e2⟩
      have hcells : (fun p => if p ∈ os then
          ((c.session.modify o fun s => s.close true true).cells p).close true true
          else (c.session.modify o fun s => s.close true true).cells p) =
          fun p => if p ∈ o :: os then (c.session.cells p).close true true
            else c.session.cells p := by
        funext p
        by_cases hp : p = o
        · subst hp
          simp [Session.modify, Cell.close]
        · simp [Session.modify, hp]
      rw [hcells]
      rfl

/-- The connection fails. -/
theorem session_failStreams (c : Connection) (err : OperationError) :
    (c.failStreams err).session = { c.session with
      cells := fun p => if p ∈ c.session.values then (c.session.cells p).close true true
        else c.session.cells p
      streams := []
      activeRemote := 0
      activeLocal := c.reservedStreams } ∧
      (c.failStreams err).anomalies = c.anomalies := by
  unfold failStreams
  exact session_failList err c.values c.clearReadiness.takeStreams rfl

/-- A failed connection has an error. -/
theorem failed_failStreams {c : Connection} (err : OperationError) (h : c.session.failed = true) :
    (c.failStreams err).session.failed = true := by
  rw [(session_failStreams c err).1]
  exact h

/-- A failing connection, with the events `evs` that it has written on the way. -/
theorem runs_fail {c1 : Connection} (evs : List Event) (err : OperationError)
    (hs : c1.session = { c.session with log := evs ++ c.log, failed := true })
    (ha : c1.anomalies = c.anomalies)
    (he : c.Clean → c.session.FailEvents evs c.remoteWindowSz c.remoteFrameSize) :
    Runs G c (c1.failStreams err) := by
  refine .step fun hc => ?_
  obtain ⟨h1, h2⟩ := session_failStreams c1 err
  refine ⟨h2.trans (ha.trans hc.anomalies), ?_⟩
  have hstep : Session.Step G c.session (c.session.fail evs
      (fun o => (c.session.cells o).sendWindow) c.remoteWindowSz c.remoteFrameSize) := .fail (he hc)
  have hres : c1.reservedStreams = c.session.reserved := congrArg Session.reserved hs
  have hval : c1.session.values = c.session.values := by
    rw [hs]
    rfl
  rw [h1, hres, hval, hs]
  exact hstep

/-- An error of the connection, after the frame at fault was recorded. -/
theorem runs_protoError (e : ConnectionError) : Runs G c (c.protoError e) := by
  have h : Runs G c (({ c.push (.failed e) with
      error := some (.connection e) } : Connection).failStreams (.connection e)) := by
    refine runs_fail [.failed e] _ rfl rfl fun hc => ⟨.inr ⟨e, .inl rfl⟩, ?_, ?_⟩
    · exact fun _ hw hm => ⟨hw, hm⟩
    · exact hc.good.sends.windowSz
  exact h.trans (.same rfl rfl)

/-- An error of the connection, for the frame `f`. -/
theorem runs_protoError_received {obj : Option Nat} {f : Frame} (e : ConnectionError)
    (hobj : ∀ o, obj = some o → o ∈ c.session.values)
    (hf : c.server = true → ∀ s, f = .settings s → s.ack = true) :
    Runs G c ((c.push (.received obj f)).protoError e) := by
  have h : Runs G c (({ (c.push (.received obj f)).push (.failed e) with
      error := some (.connection e) } : Connection).failStreams (.connection e)) := by
    refine runs_fail [.failed e, .received obj f] _ rfl rfl fun hc =>
      ⟨.inr ⟨e, .inr ⟨obj, f, rfl, hobj⟩⟩, ?_, hc.good.sends.windowSz⟩
    intro hs hw hm
    have hnot : ∀ l, initWindow (.received obj f :: l) = initWindow l ∧
        maxFrame (.received obj f :: l) = maxFrame l := by
      intro l
      cases f with
      | settings s =>
          have hack := hf hs s rfl
          simp [initWindow, maxFrame, hack]
      | _ => exact ⟨rfl, rfl⟩
    exact ⟨(hnot _).1.trans hw, (hnot _).2.trans hm⟩
  exact h.trans (.same rfl rfl)

theorem runs_timeout (e : ConnectionError) (r : Reason) : Runs G c (c.timeout e r) := by
  have h : Runs G c (({ c.push (.failed e) with
      error := some (.connection e) } : Connection).failStreams (.connection e)) := by
    refine runs_fail [.failed e] _ rfl rfl fun hc => ⟨.inr ⟨e, .inl rfl⟩, ?_, ?_⟩
    · exact fun _ hw hm => ⟨hw, hm⟩
    · exact hc.good.sends.windowSz
  unfold timeout
  dsimp only
  refine (h.trans ?_).trans (.same rfl rfl)
  exact Runs.trans (runs_quiet (e := .sent none .connection (.goAway _ r [])) trivial)
    (runs_ioClose (.inl (failed_failStreams _ rfl)))

theorem runs_disconnect : Runs G c c.disconnect := by
  have h : Runs G c (({ c with error := some (c.error.getD .disconnected) } :
      Connection).failStreams .disconnected) := by
    refine runs_fail [] _ rfl rfl fun hc => ⟨.inl rfl, ?_, hc.good.sends.windowSz⟩
    exact fun _ hw hm => ⟨hw, hm⟩
  unfold disconnect
  dsimp only
  split
  · exact (h.trans (runs_ioClose (.inl (failed_failStreams _ rfl)))).trans (.same rfl rfl)
  · exact h.trans (.same rfl rfl)

theorem failed_disconnect (c : Connection) : c.disconnect.session.failed = true := by
  unfold disconnect
  dsimp only
  split
  · exact failed_failStreams (c := { c with error := some (c.error.getD .disconnected) }) _ rfl
  · exact failed_failStreams (c := { c with error := some (c.error.getD .disconnected) }) _ rfl

theorem runs_stop (s : Stop) : Runs G c (c.stop s) := by
  unfold stop
  cases s with
  | encoder e => exact runs_protoError _
  | decoder e => exact runs_protoError _
  | keepAlive =>
      dsimp only
      split
      · exact runs_timeout _ _
      · exact runs_timeout _ _
  | readTimeout => exact runs_timeout _ _
  | writeTimeout => exact runs_timeout _ _
  | io => exact runs_disconnect
  | service =>
      refine runs_disconnect.trans (Runs.trans ?_ (runs_ioClose (.inl (failed_disconnect c))))
      exact runs_quiet (e := .sent none .connection (.goAway _ .internalError [])) trivial

end Connection

end NtexH2
