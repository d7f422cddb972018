/-
  Connection/Refines.lean --- a connection is a session.

  `session` forgets the machinery of a connection.  A function of the connection
  that changes nothing else leaves the session as it is; the others are session
  steps, as long as no counter and no window leaves its range, and the invariants
  of the session say that none does.
-/
import NtexH2.Session.Grammar

set_option autoImplicit false

namespace NtexH2

/-- A half without its reason. -/
def HalfState.half : HalfState → Half
  | .idle => .idle
  | .payload => .payload
  | .closed _ => .closed

theorem HalfState.half_closed {h : HalfState} : h.half = .closed ↔ h.isClosed = true := by
  cases h <;> simp [HalfState.half, HalfState.isClosed]

/-- A stream without its machinery. -/
def Stream.cell (s : Stream) : Cell where
  id := s.id
  remote := s.remote
  recv := s.recv.half
  recvWindow := s.recvWindow.size
  recvSize := s.recvSize
  send := s.send.half
  sendWindow := s.sendWindow.size

namespace Connection

/-- The session of a connection. -/
def session (c : Connection) : Session where
  config := c.config
  server := c.server
  ioClosed := c.ioClosed
  draining := c.disconnectWhenReady
  failed := c.error.isSome
  goneAway := c.goAway.isSome
  sendWindow := c.sendWindow.size
  recvWindow := c.recvWindow.size
  recvSize := c.recvSize
  nextStreamId := c.nextStreamId
  lastId := c.lastId
  created := c.created
  cells := fun o => (c.objs o).cell
  streams := c.streams
  activeRemote := c.activeRemoteStreams
  activeLocal := c.activeLocalStreams
  reserved := c.reservedStreams
  reservations := c.reservations
  remoteWindowSz := c.remoteWindowSz
  remoteFrameSize := c.remoteFrameSize
  settingsProcessed := c.settingsProcessed
  acking := []
  ackErrors := c.ackErrors.map (·.1)
  caps := c.caps
  senders := c.senders.map (·.stream)
  log := c.log

end Connection

namespace Session

/-- The invariants of a session. -/
structure Good (k : Session) : Prop where
  table : k.Table
  sends : k.Sends
  credit : k.Credit
  emission : k.Emission
  begins : k.Begins

variable {G : Session.Guard}

theorem Good.step {k k' : Session} (h : k.Good) (hs : Step G k k') : k'.Good :=
  ⟨h.table.step hs, h.sends.step h.table hs, h.credit.step h.table hs,
    h.emission.step h.table hs, h.begins.step h.table hs⟩

theorem Good.steps {k k' : Session} (h : k.Good) (hs : Steps G k k') : k'.Good := by
  induction hs with
  | refl => exact h
  | tail _ hstep ih => exact ih.step hstep

end Session

namespace Connection

open Session (Steps)

/-! ## Clean connections -/

/-- Nothing has gone wrong, and the session is good. -/
structure Clean (c : Connection) : Prop where
  anomalies : c.anomalies = []
  good : c.session.Good

/-- From a clean connection, `c'` is reached by session steps and stays clean. -/
def Runs (G : Session.Guard) (c c' : Connection) : Prop :=
  c.Clean → c'.anomalies = [] ∧ Steps G c.session c'.session

section

variable {G : Session.Guard} {c c' c'' : Connection}

theorem Runs.clean (h : Runs G c c') (hc : c.Clean) : c'.Clean :=
  ⟨(h hc).1, hc.good.steps (h hc).2⟩

theorem Runs.refl (c : Connection) : Runs G c c := fun hc => ⟨hc.anomalies, .refl⟩

theorem Runs.trans (h : Runs G c c') (h' : Runs G c' c'') : Runs G c c'' := by
  intro hc
  obtain ⟨ha, hs⟩ := h' (h.clean hc)
  exact ⟨ha, (h hc).2.trans hs⟩

/-- A function that the session does not see. -/
theorem Runs.same (ha : c'.anomalies = c.anomalies) (hs : c'.session = c.session) :
    Runs G c c' := by
  intro hc
  rw [ha, hs]
  exact ⟨hc.anomalies, .refl⟩

/-- A function that is one step of the session. -/
theorem Runs.step (h : c.Clean → c'.anomalies = [] ∧ Session.Step G c.session c'.session) :
    Runs G c c' :=
  fun hc => ⟨(h hc).1, .single (h hc).2⟩

theorem Runs.of_clean (h : c.Clean → Runs G c c') : Runs G c c' := fun hc => h hc hc

theorem note_anomalies {ok : Bool} {a : Anomaly} (c : Connection) (h : ok = true) :
    c.note ok a = c := by
  unfold note
  rw [if_pos h]

end

/-! ## Streams of the session -/

theorem session_push (c : Connection) (e : Event) : (c.push e).session = c.session.push e := rfl

theorem session_modify {c : Connection} {o : Obj} {f : Stream → Stream} {g : Cell → Cell}
    (h : (f (c.objs o)).cell = g (c.objs o).cell) :
    (c.modify o f).session = c.session.modify o g := by
  have hcells : (fun p => ((c.modify o f).objs p).cell) =
      Function.update (fun p => (c.objs p).cell) o (g (c.objs o).cell) := by
    funext p
    by_cases hp : p = o
    · subst hp
      simpa [modify] using h
    · simp [modify, hp]
  show ({ c.session with cells := fun p => ((c.modify o f).objs p).cell } : Session) = _
  rw [hcells]
  rfl

/-- A change of flags. -/
theorem session_modify_same {c : Connection} {o : Obj} {f : Stream → Stream}
    (h : (f (c.objs o)).cell = (c.objs o).cell) : (c.modify o f).session = c.session := by
  rw [session_modify (g := id) h]
  unfold Session.modify
  rw [id, Function.update_eq_self]

theorem session_addPending (c : Connection) (id : StreamId) :
    (c.addPending id).session = c.session ∧ (c.addPending id).anomalies = c.anomalies := by
  unfold addPending
  split <;> exact ⟨rfl, rfl⟩

/-! ## The map -/

section

variable {c : Connection} (h : c.session.Table)

include h

theorem mem_streams_unique {id : Nat} {o p : Nat} (ho : (id, o) ∈ c.streams)
    (hp : (id, p) ∈ c.streams) : o = p := by
  have h1 : (c.session.cells o).id = id := h.key (id, o) ho
  have h2 : (c.session.cells p).id = id := h.key (id, p) hp
  have hob : o < c.created := h.bound o (List.mem_map_of_mem (f := (·.2)) ho)
  have hpb : p < c.created := h.bound p (List.mem_map_of_mem (f := (·.2)) hp)
  exact h.id_inj hob hpb (h1.trans h2.symm)

theorem query_eq_some_iff {id : Nat} {o : Nat} : c.query id = some o ↔ (id, o) ∈ c.streams := by
  unfold query
  constructor
  · intro hq
    obtain ⟨e, he, rfl⟩ := Option.map_eq_some_iff.mp hq
    have hid : e.1 = id := by simpa using List.find?_some he
    have hm := List.mem_of_find?_eq_some he
    rw [← hid]
    exact hm
  · intro hm
    cases hf : c.streams.find? (·.1 == id) with
    | none =>
        have := List.find?_eq_none.mp hf (id, o) hm
        simp at this
    | some e =>
        have hid : e.1 = id := by simpa using List.find?_some hf
        have he := List.mem_of_find?_eq_some hf
        rw [← hid] at hm
        have : o = e.2 := mem_streams_unique h hm he
        rw [this]
        rfl

/-- A stream of the map is found under its id. -/
theorem query_id {o : Nat} (ho : o ∈ c.session.values) : c.query (c.objs o).id = some o :=
  (query_eq_some_iff h).mpr (h.mem_streams ho)

theorem query_mem {id : Nat} {o : Nat} (hq : c.query id = some o) :
    o ∈ c.session.values ∧ (c.objs o).id = id := by
  have hm := (query_eq_some_iff h).mp hq
  exact ⟨List.mem_map_of_mem (f := (·.2)) hm, h.key (id, o) hm⟩

theorem query_eq_none_iff {id : Nat} :
    c.query id = none ↔ id ∉ c.session.streams.map (·.1) := by
  constructor
  · intro hq hm
    obtain ⟨e, he, rfl⟩ := List.mem_map.mp hm
    have hsome : c.query e.1 = some e.2 := (query_eq_some_iff h).mpr he
    rw [hsome] at hq
    cases hq
  · intro hm
    cases hq : c.query id with
    | none => rfl
    | some o =>
        exact absurd (List.mem_map_of_mem (f := (·.1)) ((query_eq_some_iff h).mp hq)) hm

/-- A stream that has left the map is not found under its id. -/
theorem query_done {o : Nat} (hlt : o < c.created) (ho : o ∉ c.session.values) :
    c.query (c.objs o).id = none := by
  cases hq : c.query (c.objs o).id with
  | none => rfl
  | some p =>
      obtain ⟨hp, hid⟩ := query_mem h hq
      have := h.id_inj (h.bound p hp) hlt hid
      exact absurd (this ▸ hp) ho

theorem eraseP_id {o : Nat} (ho : o ∈ c.session.values) :
    c.streams.eraseP (·.1 == (c.objs o).id) = c.session.without o := by
  have hall : ∀ e ∈ c.streams, (e.1 == (c.objs o).id) = (e.2 == o) := by
    intro e he
    have hb : e.2 < c.created := h.bound e.2 (List.mem_map_of_mem (f := (·.2)) he)
    have hid : (c.session.cells e.2).id = e.1 := h.key e he
    apply Bool.eq_iff_iff.mpr
    rw [beq_iff_eq, beq_iff_eq]
    constructor
    · intro heq
      exact h.id_inj hb (h.bound o ho) (hid.trans heq)
    · intro heq
      rw [← hid, heq]
      rfl
  unfold Session.without
  show c.streams.eraseP _ = c.streams.eraseP _
  generalize c.streams = l at hall
  induction l with
  | nil => rfl
  | cons e l ih =>
      rw [List.eraseP_cons, List.eraseP_cons, hall e List.mem_cons_self,
        ih fun e' he' => hall e' (List.mem_cons_of_mem e he')]

end

/-! ## Streams that close -/

theorem session_releaseLocalStream {c : Connection} (h : 0 < c.activeLocalStreams) :
    c.releaseLocalStream.session = { c.session with activeLocal := c.activeLocalStreams - 1 } ∧
      c.releaseLocalStream.anomalies = c.anomalies := by
  unfold releaseLocalStream
  rw [note_anomalies c (by simpa using h)]
  dsimp only
  split <;> exact ⟨rfl, rfl⟩

/-- The counters of `drop_stream`. -/
theorem session_releaseStream {c : Connection} (remote : Bool)
    (hr : remote = true → 0 < c.activeRemoteStreams)
    (hl : remote = false → 0 < c.activeLocalStreams) :
    (c.releaseStream remote).session = { c.session with
      activeRemote := if remote = true then c.activeRemoteStreams - 1 else c.activeRemoteStreams
      activeLocal := if remote = false then c.activeLocalStreams - 1
        else c.activeLocalStreams } ∧
      (c.releaseStream remote).anomalies = c.anomalies := by
  unfold releaseStream
  cases remote with
  | true =>
      rw [note_anomalies c (by simpa using hr rfl)]
      exact ⟨rfl, rfl⟩
  | false =>
      obtain ⟨h1, h2⟩ := session_releaseLocalStream (hl rfl)
      refine ⟨?_, h2⟩
      show c.releaseLocalStream.session = _
      rw [h1]
      rfl

/-- `drop_stream` for a stream of the map. -/
theorem session_dropStream {c : Connection} {id : StreamId} {o : Nat}
    (hq : c.query id = some o) (hr : (c.objs o).remote = true → 0 < c.activeRemoteStreams)
    (hl : (c.objs o).remote = false → 0 < c.activeLocalStreams) :
    (c.dropStream id).session = { c.session with
      streams := c.streams.eraseP (·.1 == id)
      activeRemote := if (c.objs o).remote = true then c.activeRemoteStreams - 1
        else c.activeRemoteStreams
      activeLocal := if (c.objs o).remote = false then c.activeLocalStreams - 1
        else c.activeLocalStreams
      ioClosed := c.ioClosed || decide (c.streams.eraseP (·.1 == id) = [] ∧
        c.reservedStreams = 0 ∧ c.disconnectWhenReady = true)
      log := if c.streams.eraseP (·.1 == id) = [] ∧ c.reservedStreams = 0 ∧
        c.disconnectWhenReady = true then .close :: c.log else c.log } ∧
      (c.dropStream id).anomalies = c.anomalies := by
  unfold dropStream
  rw [hq]
  dsimp only
  -- the connection without the stream, and its counters
  generalize hc1 :
    ({ c with streams := c.streams.eraseP (·.1 == id) } : Connection).stopCapacityTimer
    o = c1
  have hs1 : c1.session = { c.session with streams := c.streams.eraseP (·.1 == id) } := by
    rw [← hc1]
    exact session_modify_same rfl
  have hremote : (c1.objs o).remote = (c.objs o).remote := by
    rw [← hc1]
    simp [stopCapacityTimer, modify]
  have hact : c1.activeRemoteStreams = c.activeRemoteStreams ∧
      c1.activeLocalStreams = c.activeLocalStreams ∧ c1.anomalies = c.anomalies := by
    rw [← hc1]
    exact ⟨rfl, rfl, rfl⟩
  obtain ⟨h2, h3⟩ := session_releaseStream (c := c1) (c1.objs o).remote
    (by rw [hremote, hact.1]; exact hr) (by rw [hremote, hact.2.1]; exact hl)
  generalize c1.releaseStream (c1.objs o).remote = c2 at h2 h3
  rw [hs1, hremote, hact.1, hact.2.1] at h2
  rw [hact.2.2] at h3
  have hst : c2.streams = c.streams.eraseP (·.1 == id) := congrArg Session.streams h2
  have hre : c2.reservedStreams = c.reservedStreams := congrArg Session.reserved h2
  have hdw : c2.disconnectWhenReady = c.disconnectWhenReady := congrArg Session.draining h2
  rw [hst, hre, hdw]
  by_cases hend : c.streams.eraseP (·.1 == id) = [] ∧ c.reservedStreams = 0 ∧
      c.disconnectWhenReady = true
  · simp only [if_true, hend, and_self, decide_true, Bool.or_true]
    refine ⟨?_, h3⟩
    show ({ c2.session with ioClosed := true, log := .close :: c2.session.log } : Session) = _
    rw [h2]
    simp only [hend]
    rfl
  · have hb : ((c.streams.eraseP (·.1 == id)).isEmpty && c.reservedStreams == 0 &&
        c.disconnectWhenReady) = false := by
      apply Bool.eq_false_iff.mpr
      intro hb
      simp only [Bool.and_eq_true, List.isEmpty_iff, beq_iff_eq] at hb
      exact hend ⟨hb.1.1, hb.1.2, hb.2⟩
    simp only [hb, if_false, hend, decide_false, Bool.or_false, Bool.false_eq_true]
    obtain ⟨h4, h5⟩ := session_addPending c2 id
    rw [h4, h5, h2]
    exact ⟨rfl, h3⟩

theorem session_dropStream_none {c : Connection} {id : StreamId} (hq : c.query id = none) :
    (c.dropStream id).session = c.session ∧ (c.dropStream id).anomalies = c.anomalies := by
  unfold dropStream
  rw [hq]
  exact session_addPending c id

theorem done_iff (s : Stream) : s.cell.Done ↔ (s.recv.isClosed && s.send.isClosed) = true := by
  unfold Cell.Done
  rw [Bool.and_eq_true, ← HalfState.half_closed, ← HalfState.half_closed]
  rfl

/-- A function that closes halves and then reviews the state of its stream. -/
theorem session_review {c : Connection} (h : c.session.Table) {o : Nat} (hlt : o < c.created)
    {f : Stream → Stream} {r w : Bool} (hf : (f (c.objs o)).cell = (c.objs o).cell.close r w) :
    ((c.modify o f).reviewState o).session = c.session.close o r w ∧
      ((c.modify o f).reviewState o).anomalies = c.anomalies := by
  have hobj : (c.modify o f).objs o = f (c.objs o) := by simp [modify]
  have hcells : (c.modify o f).session = { c.session with
      cells := Function.update c.session.cells o ((c.session.cells o).close r w) } :=
    session_modify (g := fun s => s.close r w) hf
  have hid : (f (c.objs o)).id = (c.objs o).id := congrArg Cell.id hf
  have hrem : (f (c.objs o)).remote = (c.objs o).remote := congrArg Cell.remote hf
  have hdone : ((f (c.objs o)).recv.isClosed && (f (c.objs o)).send.isClosed) = true ↔
      ((c.session.cells o).close r w).Done := by
    rw [← done_iff, hf]
    rfl
  unfold reviewState
  rw [hobj]
  by_cases hd : ((c.session.cells o).close r w).Done
  · rw [if_pos (hdone.mpr hd), hid]
    generalize hc1 : (c.modify o f).modify o (fun s => { s with sendCap := false }) = c1
    have hs1 : c1.session = { c.session with
        cells := Function.update c.session.cells o ((c.session.cells o).close r w) } := by
      rw [← hc1, session_modify_same rfl, hcells]
    have hobj1 : (c1.objs o).remote = (c.objs o).remote := by
      rw [← hc1]
      simpa [modify] using hrem
    have hq1 : ∀ id, c1.query id = c.query id := by
      rw [← hc1]
      exact fun _ => rfl
    have hfields : c1.streams = c.streams ∧ c1.activeRemoteStreams = c.activeRemoteStreams ∧
        c1.activeLocalStreams = c.activeLocalStreams ∧ c1.anomalies = c.anomalies ∧
        c1.ioClosed = c.ioClosed ∧ c1.reservedStreams = c.reservedStreams ∧
        c1.disconnectWhenReady = c.disconnectWhenReady ∧ c1.log = c.log := by
      rw [← hc1]
      exact ⟨rfl, rfl, rfl, rfl, rfl, rfl, rfl, rfl⟩
    obtain ⟨e1, e2, e3, e4, e5, e6, e7, e8⟩ := hfields
    by_cases ho : o ∈ c.session.values
    · -- the stream leaves the map
      have hleaves : c.session.Leaves o r w := ⟨hd, ho⟩
      have hlen : 0 < c.streams.length := by
        apply List.length_pos_iff.mpr
        intro hnil
        unfold Session.values at ho
        rw [show c.session.streams = [] from hnil] at ho
        cases ho
      have hrs : (c.objs o).remote = c.server := h.remote o hlt
      have hr : (c1.objs o).remote = true → 0 < c1.activeRemoteStreams := by
        intro hrt
        have ha : c.activeRemoteStreams = if c.server then c.streams.length else 0 :=
          h.activeRemote
        rw [hobj1, hrs] at hrt
        rw [e2, ha, hrt]
        exact hlen
      have hl : (c1.objs o).remote = false → 0 < c1.activeLocalStreams := by
        intro hrt
        have ha : c.activeLocalStreams =
            (if c.server then 0 else c.streams.length) + c.reservedStreams := h.activeLocal
        rw [hobj1, hrs] at hrt
        rw [e3, ha, hrt]
        simp only [Bool.false_eq_true, if_false]
        omega
      have hquery : c1.query (c.objs o).id = some o := by
        rw [hq1]
        exact query_id h ho
      obtain ⟨h1, h2⟩ := session_dropStream hquery hr hl
      refine ⟨?_, h2.trans e4⟩
      rw [h1, hs1, e1, e2, e3, e5, e6, e7, e8, hobj1, eraseP_id h ho]
      have hends : c.session.Ends o r w ↔ c.session.without o = [] ∧ c.reservedStreams = 0 ∧
          c.disconnectWhenReady = true := ⟨fun he => he.2, fun he => ⟨hleaves, he⟩⟩
      unfold Session.close
      simp only [hleaves, true_and, if_true, hends]
      rfl
    · -- it is not in the map
      have hleaves : ¬c.session.Leaves o r w := fun hl => ho hl.2
      have hends : ¬c.session.Ends o r w := fun he => hleaves he.1
      have hquery : c1.query (c.objs o).id = none := by
        rw [hq1]
        exact query_done h hlt ho
      obtain ⟨h1, h2⟩ := session_dropStream_none hquery
      refine ⟨?_, h2.trans e4⟩
      rw [h1, hs1]
      unfold Session.close
      simp only [hleaves, hends, false_and, if_false, decide_false, Bool.or_false]
  · have hleaves : ¬c.session.Leaves o r w := fun hl => hd hl.1
    have hends : ¬c.session.Ends o r w := fun he => hleaves he.1
    rw [if_neg fun hb => hd (hdone.mp hb)]
    refine ⟨?_, rfl⟩
    rw [hcells]
    unfold Session.close
    simp only [hleaves, hends, false_and, if_false, decide_false, Bool.or_false]

end Connection

end NtexH2
