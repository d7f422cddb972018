/-
  Connection/RefinesReceive.lean --- received frames are session steps.

  The history records a frame before the frame is handled.  The frames that change
  a window are recorded and applied in one step; for the others the record is a
  quiet step of its own.
-/
import NtexH2.Connection.RefinesLocal

set_option autoImplicit false

namespace NtexH2

open Session (Steps)

namespace Connection

variable {G : Session.Guard} {c c' : Connection}

/-! ## Results -/

/-- A received frame is handled by session steps, and its error is one of a stream that
exists. -/
structure Handles (G : Session.Guard) (c : Connection) (r : Received × Connection) : Prop where
  runs : Runs G c r.2
  object : c.Clean → ∀ o e, r.1 = .error (.stream o e) → o < r.2.created

theorem Handles.after {r : Received × Connection} (h : Runs G c c') (hr : Handles G c' r) :
    Handles G c r :=
  ⟨h.trans hr.runs, fun hc => hr.object (h.clean hc)⟩

/-- A result that is not an error of a stream. -/
theorem Handles.of_runs {r : Received × Connection} (h : Runs G c r.2)
    (hr : ∀ o e, r.1 ≠ .error (.stream o e)) : Handles G c r :=
  ⟨h, fun _ o e he => absurd he (hr o e)⟩

theorem handles_lift {o : Nat} {r : Except StreamError (Option Message) × Connection}
    (ho : o < c.created) (h : Runs G c r.2) : Handles G c (lift o r) := by
  obtain ⟨x, c1⟩ := r
  cases x with
  | ok item => exact .of_runs h fun o e he => by cases he
  | error e =>
      refine ⟨h, fun hc o' e' he => ?_⟩
      cases he
      exact Nat.lt_of_lt_of_le ho (h.created_le hc)

theorem runs_handleMessage {r : Received × Connection} (h : Handles G c r) :
    Runs G c (handleMessage r) := by
  obtain ⟨x, c1⟩ := r
  refine .of_clean fun hc => ?_
  cases x with
  | ok item => exact h.runs
  | error x =>
      cases x with
      | connection e => exact h.runs.trans (runs_protoError e)
      | stream o e =>
          have ho : o < c1.created := h.object hc o e rfl
          have hq : Runs G c1 (c1.push (.streamFailed o e)) := runs_quiet trivial
          have hreset : Runs G c ((c1.push (.streamFailed o e)).resetSilent o e.reason).1 :=
            h.runs.trans (hq.next ho fun ho => runs_resetSilent ho _)
          cases e with
          | reset r => exact h.runs.trans (hq.next ho fun ho => runs_setFailedStream ho _)
          | _ => exact hreset

theorem runs_updateRstCount : Runs G c c.updateRstCount.2 := by
  unfold updateRstCount
  dsimp only
  split
  · exact .same rfl rfl
  · exact .same rfl rfl

theorem runs_addPending (id : StreamId) : Runs G c (c.addPending id) :=
  .same (session_addPending c id).2 (session_addPending c id).1

theorem handles_resetUnknownStream (id : StreamId) (r : Reason) :
    Handles G c (c.resetUnknownStream id r) := by
  have hu := runs_updateRstCount (G := G) (c := c)
  unfold resetUnknownStream
  cases hres : c.updateRstCount with
  | mk x c1 =>
      rw [hres] at hu
      cases x with
      | error e => exact .of_runs hu fun o e he => by cases he
      | ok u =>
          refine .of_runs ?_ fun o e he => by cases he
          refine hu.trans (Runs.trans ?_ (runs_addPending id))
          exact runs_quiet (e := .sent none .connection (.reset id r)) trivial

/-! ## HEADERS -/

theorem runs_recvFirstHeaders {o : Nat} (ho : o ∈ c.session.values)
    (hi : (c.objs o).recv = .idle) (h : Headers) (hlt : o < c.created) :
    Runs G c (c.recvFirstHeaders o h).2 := by
  unfold recvFirstHeaders
  cases hcl : announcedLength (c.objs o).contentLength h with
  | error e => exact .refl c
  | ok cl =>
      dsimp only
      have h1 : Runs G c (c.modify o fun s => { s with contentLength := cl }) := runs_flags rfl
      split
      · exact h1.next hlt fun hlt => runs_stateRecvClose hlt none
      · refine h1.trans (.step fun hc => ⟨hc.anomalies, ?_⟩)
        have hs : (c.modify o fun s => { s with contentLength := cl }).session = c.session :=
          session_modify_same rfl
        have hp : ((c.modify o fun s => { s with contentLength := cl }).stateRecvPayload
            o).session = (c.modify o fun s => { s with contentLength := cl }).session.modify o
              fun s => { s with recv := .payload } := session_modify rfl
        rw [hp]
        refine .recvPayload ?_ ?_
        · rw [hs]
          exact ho
        · rw [hs]
          exact congrArg HalfState.half hi

theorem runs_recvTrailers {o : Nat} (h : Headers) (hlt : o < c.created) :
    Runs G c (c.recvTrailers o h).2 := by
  unfold recvTrailers
  split
  · exact .refl c
  · split
    · exact .refl c
    · split
      · exact runs_stateRecvClose hlt none
      · exact .refl c

theorem runs_streamRecvHeaders {o : Nat} (ho : o ∈ c.session.values) (hlt : o < c.created)
    (h : Headers) : Runs G c (c.streamRecvHeaders o h).2 := by
  unfold streamRecvHeaders
  cases hr : (c.objs o).recv with
  | idle =>
      dsimp only
      split
      · exact runs_recvFirstHeaders ho hr h hlt
      · split
        · exact .refl c
        · split
          · exact .refl c
          · exact runs_recvFirstHeaders ho hr h hlt
  | payload => exact runs_recvTrailers h hlt
  | closed r => exact .refl c

theorem runs_raise {id : Nat} (hs : c.server = true) (hid : c.lastId < id) :
    Runs G c { c with lastId := id } :=
  .step fun hc => ⟨hc.anomalies, .raise hs hid⟩

theorem isClientInitiated_iff (id : Nat) : StreamId.isClientInitiated id = true ↔ id % 2 = 1 := by
  unfold StreamId.isClientInitiated
  rw [Bool.and_eq_true, bne_iff_ne, bne_iff_ne]
  show (id ≠ 0 ∧ id % 2 ≠ 0) ↔ id % 2 = 1
  omega

/-- A stream of the peer. -/
theorem handles_acceptStream {h : Headers} (hs : c.server = true)
    (hd : c.disconnectWhenReady = false) (hid : c.lastId < h.streamId)
    (hodd : h.streamId % 2 = 1)
    (hmax : ∀ m ∈ c.config.remoteMaxConcurrentStreams, c.activeRemoteStreams < m)
    (hq : c.query h.streamId = none) :
    Handles G c (({ c with lastId := h.streamId } : Connection).acceptStream h) := by
  have hrun : c.Clean → Runs G c
      { ({ c with lastId := h.streamId } : Connection).countStream.insertStream
          h.streamId true with
        activeRemoteStreams := c.activeRemoteStreams + 1 } ∧
      c.created ∈
        ({ ({ c with lastId := h.streamId } : Connection).countStream.insertStream
            h.streamId true with
          activeRemoteStreams := c.activeRemoteStreams + 1 } : Connection).session.values := by
    intro hc
    have hkeys : h.streamId ∉ c.streams.map (·.1) := (query_eq_none_iff hc.good.table).mp hq
    have hins := session_insertStream
      (c := ({ c with lastId := h.streamId } : Connection).countStream) h.streamId true hkeys
    have hsess :
        ({ ({ c with lastId := h.streamId } : Connection).countStream.insertStream
            h.streamId true with
          activeRemoteStreams := c.activeRemoteStreams + 1 } : Connection).session =
          c.session.accept h.streamId := by
      have hcell : (({ c with lastId := h.streamId } : Connection).countStream.newStream
          h.streamId true).cell = c.session.newCell h.streamId := by
        rw [← hs]
        rfl
      rw [hcell] at hins
      show ({ (({ c with lastId := h.streamId } : Connection).countStream.insertStream
          h.streamId true).session with activeRemote := c.activeRemoteStreams + 1 } : Session) = _
      rw [hins]
      rfl
    constructor
    · refine .step fun hc => ⟨hc.anomalies, ?_⟩
      rw [hsess]
      exact .accept hs hd hid hodd hmax
    · rw [hsess]
      exact List.mem_cons_self
  have hall : c.Clean → Handles G c (({ c with lastId := h.streamId } :
      Connection).acceptStream h) := by
    intro hc
    obtain ⟨h1, h2⟩ := hrun hc
    refine Handles.after h1 ?_
    have hlt := Nat.lt_succ_self c.created
    exact handles_lift hlt (runs_streamRecvHeaders h2 hlt h)
  exact ⟨.of_clean fun hc => (hall hc).runs, fun hc => (hall hc).object hc⟩

theorem handles_recvNewHeaders {h : Headers} (hs : c.server = true)
    (hid : c.lastId < h.streamId) (hodd : h.streamId % 2 = 1)
    (hq : c.query h.streamId = none) : Handles G c (c.recvNewHeaders h) := by
  have hr : Runs G c { c with lastId := h.streamId } := runs_raise hs hid
  have hcount : Runs G c ({ c with lastId := h.streamId } : Connection).countStream :=
    hr.trans (.same rfl rfl)
  unfold recvNewHeaders
  dsimp only
  split
  · refine .of_runs ?_ fun o e he => by cases he
    refine hr.trans (Runs.trans ?_ (runs_addPending _))
    exact runs_quiet (e := .sent none .connection (.reset h.streamId .refusedStream)) trivial
  · next hdr =>
      split
      · exact Handles.after hcount (handles_resetUnknownStream _ _)
      · next hmax =>
          cases requestError h.pseudo with
          | some err => exact Handles.after hcount (handles_resetUnknownStream _ _)
          | none =>
              refine handles_acceptStream hs (by simpa using hdr) hid hodd ?_ hq
              intro m hm
              have hno : ¬m ≤ c.activeRemoteStreams := by
                intro hle
                apply hmax
                rw [Option.mem_def.mp hm]
                simpa using hle
              omega

theorem handles_recvHeaders (h : Headers) : Handles G c (c.recvHeaders h) := by
  have hall : c.Clean → Handles G c (c.recvHeaders h) := by
    intro hc
    unfold recvHeaders
    split
    · exact .of_runs (.refl c) fun o e he => by cases he
    · next hcl =>
        have hodd : h.streamId % 2 = 1 := (isClientInitiated_iff _).mp (by simpa using hcl)
        cases hq : c.query h.streamId with
        | some o =>
            obtain ⟨hm, -⟩ := query_mem hc.good.table hq
            have hlt := hc.good.table.bound o hm
            exact handles_lift hlt (runs_streamRecvHeaders hm hlt h)
        | none =>
            dsimp only
            split
            · unfold recvClosedHeaders
              split
              · exact .of_runs (.refl c) fun o e he => by cases he
              · refine .of_runs ?_ fun o e he => by cases he
                dsimp only
                split
                · exact .refl c
                · exact runs_quiet (e := .sent none .connection (.reset h.streamId .streamClosed))
                    trivial
            · next hs =>
                split
                · split
                  · exact .of_runs (.refl c) fun o e he => by cases he
                  · exact .of_runs (.refl c) fun o e he => by cases he
                · next hlast =>
                    exact handles_recvNewHeaders (by simpa using hs) (by
                      have : ¬h.streamId ≤ c.lastId := hlast
                      exact Nat.lt_of_not_le this) hodd hq
  exact ⟨.of_clean fun hc => (hall hc).runs, fun hc => (hall hc).object hc⟩

/-! ## Invalid frames -/

theorem handles_recvInvalidHeaders (id : Nat) (r : Reason) :
    Handles G c (c.recvInvalidHeaders id r) := by
  unfold recvInvalidHeaders
  split
  · exact .of_runs (.refl c) fun o e he => by cases he
  · split
    · split
      · exact .of_runs (.refl c) fun o e he => by cases he
      · exact handles_resetUnknownStream id r
    · next hs =>
        split
        · exact .of_runs (.refl c) fun o e he => by cases he
        · next hlast =>
            have hid : c.lastId < id := Nat.lt_of_not_le hlast
            have hr : Runs G c ({ c with lastId := id } : Connection).countStream :=
              (runs_raise (by simpa using hs) hid).trans (.same rfl rfl)
            exact Handles.after hr (handles_resetUnknownStream id r)

theorem handles_recvInvalidFrame (f : InvalidFrame) : Handles G c (c.recvInvalidFrame f) := by
  have hu := runs_updateRstCount (G := G) (c := c)
  unfold recvInvalidFrame
  cases hq : c.query f.streamId with
  | some o =>
      dsimp only
      cases hres : c.updateRstCount with
      | mk x c1 =>
          rw [hres] at hu
          cases x with
          | error e => exact .of_runs hu fun o e he => by cases he
          | ok u =>
              refine ⟨hu, fun hc o' e' he => ?_⟩
              cases he
              obtain ⟨hm, -⟩ := query_mem hc.good.table hq
              exact Nat.lt_of_lt_of_le (hc.good.table.bound o hm) (hu.created_le hc)
  | none =>
      dsimp only
      cases f.kind with
      | priority => exact .of_runs (.refl c) fun o e he => by cases he
      | headers => exact handles_recvInvalidHeaders _ _
      | _ => exact handles_resetUnknownStream _ _

/-! ## DATA -/

theorem i32_nat {n : Nat} (h : n < 2 ^ 31) : i32 (n : Int) = n :=
  i32_of_range ⟨by omega, by omega⟩

/-- The octets of a DATA frame that no stream takes. -/
theorem session_stray (obj : Option Nat) {d : Data} (hc : c.Clean) (hlen : d.flowLen < 2 ^ 24)
    (hle : (d.flowLen : Int) ≤ c.recvWindow.size) :
    (((c.push (.received obj (.data d))).dataReceived d.flowLen).dataConsumed d.flowLen).session =
      c.session.stray obj d ∧
    (((c.push (.received obj (.data d))).dataReceived d.flowLen).dataConsumed
      d.flowLen).anomalies = c.anomalies := by
  have h1 : c.recvWindow.size < 2 ^ 31 := hc.good.credit.recvWindow_lt
  have h2 : c.recvSize < 2 ^ 31 := hc.good.credit.recvSize_lt
  obtain ⟨hs1, ha1⟩ := session_dataReceived (c := c.push (.received obj (.data d)))
    (n := d.flowLen) hle h1 (by show c.recvSize + d.flowLen < 2 ^ 32; omega)
  generalize (c.push (.received obj (.data d))).dataReceived d.flowLen = c1 at hs1 ha1
  have hsize : c1.recvSize = c.recvSize + d.flowLen := congrArg Session.recvSize hs1
  have hwin : c1.recvWindow.size = c.recvWindow.size - d.flowLen :=
    congrArg Session.recvWindow hs1
  obtain ⟨hs2, ha2⟩ := session_dataConsumed (c := c1) (n := d.flowLen) (by omega) (by omega)
    (by omega) (by omega)
  refine ⟨?_, ha2.trans ha1⟩
  rw [hs2, hs1, hsize, Nat.add_sub_cancel]
  rfl

/-- `received_data_added` when neither the counter nor the window wraps. -/
theorem receivedDataAdded_eq {o n : Nat} (hadd : (c.objs o).recvSize + n < 2 ^ 32)
    (hdec : (c.objs o).recvWindow.DecSafe n) :
    c.receivedDataAdded o n = (c.modify o fun s => { s with
      recvSize := (s.recvSize + n) % 2 ^ 32
      recvWindow := s.recvWindow.dec n }).dataReceived n := by
  unfold receivedDataAdded
  dsimp only
  rw [note_anomalies c (decide_eq_true hadd), note_anomalies c (decide_eq_true hdec)]

/-- A received frame is charged to the stream's window and to the connection's. -/
theorem session_receivedDataAdded {o n : Nat} (hw : (n : Int) ≤ (c.objs o).recvWindow.size)
    (hcw : (n : Int) ≤ c.recvWindow.size) (hlen : n < 2 ^ 24)
    (h1 : (c.objs o).recvWindow.size < 2 ^ 31) (h2 : (c.objs o).recvSize < 2 ^ 31)
    (h3 : c.recvWindow.size < 2 ^ 31) (h4 : c.recvSize < 2 ^ 31) :
    (c.receivedDataAdded o n).session = { c.session with
      cells := Function.update c.session.cells o
        { c.session.cells o with
          recvWindow := (c.objs o).recvWindow.size - n
          recvSize := (c.objs o).recvSize + n }
      recvWindow := c.recvWindow.size - n
      recvSize := c.recvSize + n } ∧
      (c.receivedDataAdded o n).anomalies = c.anomalies := by
  have hdec : (c.objs o).recvWindow.DecSafe n := by
    unfold Window.DecSafe InI32
    omega
  have hadd : (c.objs o).recvSize + n < 2 ^ 32 := by omega
  have hsize : c.recvSize + n < 2 ^ 32 := by omega
  rw [receivedDataAdded_eq hadd hdec]
  have hm : (c.modify o fun s => { s with
      recvSize := (s.recvSize + n) % 2 ^ 32
      recvWindow := s.recvWindow.dec n }).session = c.session.modify o fun s => { s with
        recvWindow := s.recvWindow - n
        recvSize := s.recvSize + n } := by
    apply session_modify
    simp only [Stream.cell, Window.dec_size hdec, Nat.mod_eq_of_lt hadd]
  have ha : (c.modify o fun s => { s with
      recvSize := (s.recvSize + n) % 2 ^ 32
      recvWindow := s.recvWindow.dec n }).anomalies = c.anomalies := rfl
  generalize c.modify o (fun s => { s with
      recvSize := (s.recvSize + n) % 2 ^ 32
      recvWindow := s.recvWindow.dec n }) = c1 at hm ha
  have hs1 : c1.recvWindow.size = c.recvWindow.size := congrArg Session.recvWindow hm
  have hs2 : c1.recvSize = c.recvSize := congrArg Session.recvSize hm
  obtain ⟨hs, ha1⟩ := session_dataReceived (c := c1) (n := n) (by rw [hs1]; exact hcw)
    (by rw [hs1]; exact h3) (by rw [hs2]; exact hsize)
  refine ⟨?_, ha1.trans ha⟩
  rw [hs, hm, hs1, hs2]
  rfl

theorem session_pushCap {s : Session} (h : c.session = s) (cap : Capacity) :
    ({ c with caps := c.caps ++ [cap] } : Connection).session =
      { s with caps := s.caps ++ [cap] } := by
  subst h
  rfl

theorem anomalies_pushCap {l : List Anomaly} (h : c.anomalies = l) (cap : Capacity) :
    ({ c with caps := c.caps ++ [cap] } : Connection).anomalies = l := h

theorem newCapacity_eq {o n : Nat} (hn : n ≠ 0) :
    c.newCapacity o n = { c.receivedDataAdded o n with
      caps := (c.receivedDataAdded o n).caps ++ [⟨o, n⟩] } := by
  unfold newCapacity
  rw [if_pos hn]

theorem newCapacity_zero {o : Nat} : c.newCapacity o 0 = { c with caps := c.caps ++ [⟨o, 0⟩] } := by
  unfold newCapacity
  rw [if_neg (not_not_intro rfl)]

/-- `Capacity::new` for a DATA frame within the windows. -/
theorem session_newCapacity {o n : Nat} (hw : (n : Int) ≤ (c.objs o).recvWindow.size)
    (hcw : (n : Int) ≤ c.recvWindow.size) (hlen : n < 2 ^ 24)
    (h1 : (c.objs o).recvWindow.size < 2 ^ 31) (h2 : (c.objs o).recvSize < 2 ^ 31)
    (h3 : c.recvWindow.size < 2 ^ 31) (h4 : c.recvSize < 2 ^ 31) :
    (c.newCapacity o n).session = { c.session with
      cells := Function.update c.session.cells o
        { c.session.cells o with
          recvWindow := (c.objs o).recvWindow.size - n
          recvSize := (c.objs o).recvSize + n }
      recvWindow := c.recvWindow.size - n
      recvSize := c.recvSize + n
      caps := c.caps ++ [⟨o, n⟩] } ∧
      (c.newCapacity o n).anomalies = c.anomalies := by
  by_cases hz : n = 0
  · subst hz
    rw [newCapacity_zero]
    refine ⟨?_, rfl⟩
    have hcell : ({ c.session.cells o with
        recvWindow := (c.objs o).recvWindow.size - ((0 : Nat) : Int)
        recvSize := (c.objs o).recvSize + 0 } : Cell) = c.session.cells o := by
      simp [session, Stream.cell]
    rw [hcell, Function.update_eq_self]
    simp [session]
  · rw [newCapacity_eq hz]
    obtain ⟨hs, ha⟩ := session_receivedDataAdded hw hcw hlen h1 h2 h3 h4
    exact ⟨session_pushCap hs ⟨o, n⟩, anomalies_pushCap ha ⟨o, n⟩⟩

/-- The part of `recv_data` after the windows are charged. -/
theorem runs_recvPayload {o : Nat} (ho : o < c.created) (d : Data) (i : Nat) :
    Runs G c (c.recvPayload o d i).2 := by
  unfold recvPayload
  cases (c.objs o).recv with
  | idle => exact runs_dropCapacity i
  | closed r => exact runs_dropCapacity i
  | payload =>
      dsimp only
      generalize countPayload (c.objs o).contentLength d.payload.length d.endStream = r
      obtain ⟨x, cl⟩ := r
      have h1 : Runs G c (c.modify o fun s => { s with contentLength := cl }) := runs_flags rfl
      cases x with
      | error e => exact h1.trans (runs_dropCapacity i)
      | ok u =>
          dsimp only
          split
          · exact h1.next ho fun ho => runs_stateRecvClose ho none
          · exact h1

/-- DATA for a stream of the map. -/
theorem runs_streamData {o : Nat} {d : Data} (hm : o ∈ c.session.values)
    (hid : d.streamId = (c.objs o).id) (hlen : d.flowLen < 2 ^ 24)
    (hcw : (d.flowLen : Int) ≤ c.recvWindow.size) :
    Runs G c (handleMessage (lift o ((c.push (.received (some o) (.data d))).streamRecvData o
      d))) := by
  refine .of_clean fun hc => ?_
  have hlt := hc.good.table.bound o hm
  have h1 : (c.objs o).recvWindow.size < 2 ^ 31 := hc.good.credit.high o hlt
  have h2 : (c.objs o).recvSize ≤ c.recvSize := hc.good.credit.cell_recvSize_le hlt
  have h3 : c.recvWindow.size < 2 ^ 31 := hc.good.credit.recvWindow_lt
  have h4 : c.recvSize < 2 ^ 31 := hc.good.credit.recvSize_lt
  unfold streamRecvData
  rw [i32_nat (by omega)]
  by_cases hex : (d.flowLen : Int) > (c.objs o).recvWindow.size
  · -- beyond the window of the stream
    have hex' : (d.flowLen : Int) >
        ((c.push (.received (some o) (.data d))).objs o).recvWindow.size := hex
    rw [if_pos hex']
    obtain ⟨hs, ha⟩ := session_stray (some o) hc hlen hcw
    generalize ((c.push (.received (some o) (.data d))).dataReceived d.flowLen).dataConsumed
      d.flowLen = c1 at hs ha
    refine .step fun hc => ?_
    have hstep : Session.Step G c.session (c.session.overrun o d) := .overrun hm hid hex hcw
    have ht : (c1.push (.streamFailed o .recvWindowExceeded)).session.Table := by
      rw [session_push, hs]
      exact (hc.good.table.stray (some o) d).push rfl
    have hv : o ∈ (c1.push (.streamFailed o .recvWindowExceeded)).session.values := by
      rw [session_push, hs]
      show o ∈ (c.session.stray (some o) d).values
      have hvals : (c.session.stray (some o) d).values = c.session.values := by
        simp only [Session.stray, Session.topUp, Session.values]
        split <;> rfl
      rw [hvals]
      exact hm
    obtain ⟨hr1, hr2, -⟩ := session_resetSilent ht hv StreamError.recvWindowExceeded.reason
    refine ⟨hr2.trans (ha.trans hc.anomalies), ?_⟩
    show Session.Step G c.session (Connection.resetSilent _ o _).1.session
    rw [hr1, session_push, hs]
    exact hstep
  · have hex' : ¬(d.flowLen : Int) >
        ((c.push (.received (some o) (.data d))).objs o).recvWindow.size := hex
    rw [if_neg hex']
    dsimp only
    obtain ⟨hs, ha⟩ := session_newCapacity (c := c.push (.received (some o) (.data d))) (o := o)
      (n := d.flowLen) (by show _ ≤ (c.objs o).recvWindow.size; omega) hcw hlen h1
      (by show (c.objs o).recvSize < _; omega) h3 h4
    have hrun : Runs G c ((c.push (.received (some o) (.data d))).newCapacity o d.flowLen) := by
      refine .step fun hc => ⟨ha.trans hc.anomalies, ?_⟩
      rw [hs]
      exact .charge (o := o) (d := d) hm hid (by show _ ≤ (c.objs o).recvWindow.size; omega) hcw
    generalize hc1 : (c.push (.received (some o) (.data d))).newCapacity o d.flowLen = c1 at hrun
    have hlt1 : o < c1.created := Nat.lt_of_lt_of_le hlt (hrun.created_le hc)
    refine hrun.trans ?_
    generalize hc2 : (if d.flowLen > d.payload.length then c1.consume
      (c.push (.received (some o) (.data d))).caps.length (d.flowLen - d.payload.length)
      else c1) = c2
    have hrun2 : Runs G c1 c2 := by
      rw [← hc2]
      split
      · exact runs_consume _ _
      · exact .refl c1
    refine hrun2.next hlt1 fun hlt2 => ?_
    exact runs_handleMessage (handles_lift hlt2 (runs_recvPayload hlt2 d _))

/-- A DATA frame. -/
theorem runs_data {d : Data} (hl : Frame.Loads (.data d)) :
    Runs G c (handleMessage ((c.push (.received (c.query d.streamId) (.data d))).recvData d)) := by
  refine .of_clean fun hc => ?_
  obtain ⟨-, -, -, hlen⟩ := hl
  unfold recvData
  rw [i32_nat (by omega)]
  by_cases hex : (d.flowLen : Int) > c.recvWindow.size
  · have hex' : (d.flowLen : Int) >
        (c.push (.received (c.query d.streamId) (.data d))).recvWindow.size := hex
    rw [if_pos hex']
    refine runs_protoError_received _ ?_ fun _ s hs => by cases hs
    intro o ho
    exact (query_mem hc.good.table ho).1
  · have hex' : ¬(d.flowLen : Int) >
        (c.push (.received (c.query d.streamId) (.data d))).recvWindow.size := hex
    have hle : (d.flowLen : Int) ≤ c.recvWindow.size := by omega
    rw [if_neg hex']
    have hqp : (c.push (.received (c.query d.streamId) (.data d))).query d.streamId =
      c.query d.streamId := rfl
    rw [hqp]
    cases hq : c.query d.streamId with
    | some o =>
        obtain ⟨hm, hid⟩ := query_mem hc.good.table hq
        exact runs_streamData hm hid.symm hlen hle
    | none =>
        dsimp only
        have hkeys := (query_eq_none_iff hc.good.table).mp hq
        obtain ⟨hs, ha⟩ := session_stray none hc hlen hle
        have hrun : Runs G c (((c.push (.received none (.data d))).dataReceived
            d.flowLen).dataConsumed d.flowLen) := by
          refine .step fun hc => ⟨ha.trans hc.anomalies, ?_⟩
          rw [hs]
          exact .stray hkeys hle
        split
        · exact hrun
        · split
          · exact hrun.trans (runs_quiet (e := .sent none .connection
              (.reset d.streamId .streamClosed)) trivial)
          · refine runs_protoError_received (f := .data d) _ (fun o ho => by cases ho)
              fun _ s hs => by cases hs

/-! ## WINDOW_UPDATE -/

theorem runs_wakeCapacityWaiter (o : Nat) : Runs G c (c.wakeCapacityWaiter o) := by
  unfold wakeCapacityWaiter
  split
  · exact (runs_flags (f := fun s => { s with sendCap := false }) rfl).trans (runs_flags rfl)
  · exact .refl c

theorem runs_wakeList (os : List Nat) : ∀ c : Connection,
    Runs G c (os.foldl wakeCapacityWaiter c) := by
  induction os with
  | nil => exact fun c => .refl c
  | cons o os ih => exact fun c => (runs_wakeCapacityWaiter o).trans (ih _)

theorem inc_eq {w : Window} {n : Nat} (h : -2 ^ 31 ≤ w.size) (hn : n < 2 ^ 31) :
    w.inc (i32 n) = if w.size + n < 2 ^ 31 then some ⟨w.size + n⟩ else none := by
  unfold Window.inc
  rw [i32_nat hn]
  have hiff : InI32 (w.size + n) ↔ w.size + n < 2 ^ 31 := by
    unfold InI32
    omega
  by_cases hlt : w.size + n < 2 ^ 31
  · rw [if_pos hlt, if_pos (hiff.mpr hlt)]
  · rw [if_neg hlt, if_neg fun hi => hlt (hiff.mp hi)]

/-- A WINDOW_UPDATE for the connection. -/
theorem runs_conWindowUpdate {n : Nat} (hn : n < 2 ^ 31) :
    Runs G c (handleMessage ((c.push (.received none (.windowUpdate 0 n))).recvWindowUpdate 0
      n)) := by
  refine .of_clean fun hc => ?_
  have hlow : 0 ≤ c.sendWindow.size := hc.good.sends.conLow
  have herr : ∀ e : ConnectionError,
      Runs G c ((c.push (.received none (.windowUpdate 0 n))).protoError e) := fun e =>
    runs_protoError_received (f := .windowUpdate 0 n) e (fun o ho => by cases ho)
      fun _ s hs => by cases hs
  unfold recvWindowUpdate recvConWindowUpdate
  rw [if_pos (show StreamId.isZero 0 = true from rfl)]
  by_cases hz : n = 0
  · rw [if_pos hz]
    exact herr _
  · rw [if_neg hz, inc_eq (by show _ ≤ c.sendWindow.size; omega) hn]
    by_cases hlt : c.sendWindow.size + n < 2 ^ 31
    · have hlt' : (c.push (.received none (.windowUpdate 0 n))).sendWindow.size + n < 2 ^ 31 := hlt
      rw [if_pos hlt']
      dsimp only
      have hrun : Runs G c { c.push (.received none (.windowUpdate 0 n)) with
          sendWindow := ⟨c.sendWindow.size + n⟩ } :=
        .step fun hc => ⟨hc.anomalies, .conCredit hlt⟩
      refine hrun.trans ?_
      show Runs G _ (if _ then _ else _)
      split
      · exact runs_wakeList _ _
      · exact .refl _
    · have hlt' : ¬(c.push (.received none (.windowUpdate 0 n))).sendWindow.size + n < 2 ^ 31 :=
        hlt
      rw [if_neg hlt']
      exact herr _

/-- A WINDOW_UPDATE for a stream of the map. -/
theorem runs_streamWindowUpdate {o id n : Nat} (hn : n < 2 ^ 31) (hm : o ∈ c.session.values)
    (hid : id = (c.objs o).id) :
    Runs G c (handleMessage (match
      (c.push (.received (some o) (.windowUpdate id n))).streamRecvWindowUpdate o n with
      | (.error e, c) => (.error (.stream o e), c)
      | (.ok _, c) => (.ok none, c))) := by
  refine .of_clean fun hc => ?_
  have hlow : (c.remoteWindowSz : Int) - (2 ^ 31 - 1) ≤ (c.objs o).sendWindow.size :=
    hc.good.sends.low o hm
  have hbad : ∀ e : StreamError, (∀ r, e ≠ .reset r) → Runs G c (handleMessage
      (.error (.stream o e), c.push (.received (some o) (.windowUpdate id n)))) := by
    intro e he
    have ht := (hc.good.table.push (e := .received (some o) (.windowUpdate id n)) rfl).push
      (e := .streamFailed o e) rfl
    obtain ⟨h1, h2, -⟩ := session_resetSilent
      (c := (c.push (.received (some o) (.windowUpdate id n))).push (.streamFailed o e)) ht hm
      e.reason
    have hrun : Runs G c (((c.push (.received (some o) (.windowUpdate id n))).push
        (.streamFailed o e)).resetSilent o e.reason).1 := by
      refine .step fun hc => ⟨h2.trans hc.anomalies, ?_⟩
      rw [h1]
      exact .badCredit hm hid
    cases e with
    | reset r => exact absurd rfl (he r)
    | _ => exact hrun
  unfold streamRecvWindowUpdate
  by_cases hz : n = 0
  · rw [if_pos hz]
    exact hbad _ fun r hr => by cases hr
  · rw [if_neg hz, inc_eq (by show _ ≤ (c.objs o).sendWindow.size; omega) hn]
    by_cases hlt : (c.objs o).sendWindow.size + n < 2 ^ 31
    · have hlt' : ((c.push (.received (some o) (.windowUpdate id n))).objs o).sendWindow.size + n <
        2 ^ 31 := hlt
      rw [if_pos hlt']
      dsimp only
      have hs : ((c.push (.received (some o) (.windowUpdate id n))).modify o fun s => { s with
          sendWindow := ⟨((c.push (.received (some o) (.windowUpdate id n))).objs
            o).sendWindow.size + n⟩ }).session =
          (c.session.push (.received (some o) (.windowUpdate id n))).modify o fun s =>
            { s with sendWindow := s.sendWindow + n } := session_modify rfl
      refine Runs.trans ?_ (runs_wakeCapacityWaiter o)
      refine .step fun hc => ⟨hc.anomalies, ?_⟩
      rw [hs]
      exact .credit hm hid hlt
    · have hlt' : ¬((c.push (.received (some o) (.windowUpdate id n))).objs o).sendWindow.size +
        n < 2 ^ 31 := hlt
      rw [if_neg hlt']
      exact hbad _ fun r hr => by cases hr

/-- A WINDOW_UPDATE frame. -/
theorem runs_windowUpdate {id n : Nat} (hn : n < 2 ^ 31) :
    Runs G c (handleMessage ((c.push (.received (c.query id)
      (.windowUpdate id n))).recvWindowUpdate id n)) := by
  refine .of_clean fun hc => ?_
  by_cases hz : id = 0
  · subst hz
    have hq : c.query 0 = none := by
      apply (query_eq_none_iff hc.good.table).mpr
      intro hm
      obtain ⟨o, ho, hid⟩ := hc.good.table.mem_keys.mp hm
      have := hc.good.table.id_odd (hc.good.table.bound o ho)
      omega
    rw [hq]
    exact runs_conWindowUpdate hn
  · unfold recvWindowUpdate
    have hzero : ¬StreamId.isZero id = true := by
      unfold StreamId.isZero
      simpa using hz
    rw [if_neg hzero]
    have hqp : (c.push (.received (c.query id) (.windowUpdate id n))).query id = c.query id := rfl
    rw [hqp]
    cases hq : c.query id with
    | some o =>
        obtain ⟨hm, hid⟩ := query_mem hc.good.table hq
        exact runs_streamWindowUpdate hn hm hid.symm
    | none =>
        have hkeys := (query_eq_none_iff hc.good.table).mp hq
        have hrun : Runs G c (c.push (.received none (.windowUpdate id n))) :=
          .step fun hc => ⟨hc.anomalies, .lateCredit hz hkeys⟩
        refine hrun.trans (runs_handleMessage ?_)
        dsimp only
        split
        · exact .of_runs (.refl _) fun o e he => by cases he
        · split
          · exact .of_runs (.refl _) fun o e he => by cases he
          · exact .of_runs (runs_quiet (e := .sent none .connection (.reset id .streamClosed))
              trivial) fun o e he => by cases he

/-! ## RST_STREAM and GOAWAY -/

theorem runs_rstStream {id : Nat} {r : Reason} :
    Runs G c (handleMessage ((c.push (.received (c.query id) (.reset id r))).recvRstStream id
      r)) := by
  refine .of_clean fun hc => ?_
  unfold recvRstStream
  have hqp : (c.push (.received (c.query id) (.reset id r))).query id = c.query id := rfl
  by_cases hz : StreamId.isZero id = true
  · rw [if_pos hz]
    exact runs_protoError_received _ (fun o ho => (query_mem hc.good.table ho).1)
      fun _ s hs => by cases hs
  · rw [if_neg hz, hqp]
    cases hq : c.query id with
    | some o =>
        obtain ⟨hm, -⟩ := query_mem hc.good.table hq
        have hlt := hc.good.table.bound o hm
        dsimp only
        have hrun : Runs G c ((c.push (.received (some o) (.reset id r))).remoteResetStream o
            r) := by
          refine .step fun hc => ?_
          obtain ⟨hs, ha⟩ := session_review (c := c.push (.received (some o) (.reset id r)))
            (hc.good.table.push rfl) hlt (f := fun s => { s with
              recv := .closed none
              send := .closed (some r)
              error := some (.remoteReset r) }) (r := true) (w := true) rfl
          refine ⟨ha.trans hc.anomalies, ?_⟩
          show Session.Step G c.session ((Connection.modify _ o _).reviewState o).session
          rw [hs]
          exact .remoteReset hm
        generalize (c.push (.received (some o) (.reset id r))).remoteResetStream o r = c1 at hrun
        have hlt1 : o < c1.created := Nat.lt_of_lt_of_le hlt (hrun.created_le hc)
        refine hrun.trans (runs_handleMessage ?_)
        split
        · exact .of_runs (.refl c1) fun o e he => by cases he
        · have hu := runs_updateRstCount (G := G) (c := c1)
          cases hres : c1.updateRstCount with
          | mk x c2 =>
              rw [hres] at hu
              cases x with
              | error e => exact .of_runs hu fun o e he => by cases he
              | ok u =>
                  refine ⟨hu, fun hc o' e' he => ?_⟩
                  cases he
                  exact Nat.lt_of_lt_of_le hlt1 (hu.created_le hc)
    | none =>
        have hrun : Runs G c (c.push (.received none (.reset id r))) := runs_quiet trivial
        refine hrun.trans (runs_handleMessage ?_)
        dsimp only
        cases hrem : (c.push (.received none (.reset id r))).localPendingReset.remove id with
        | mk p b =>
            cases b with
            | false => exact .of_runs (.refl _) fun o e he => by cases he
            | true =>
                dsimp only
                have hp : Runs G (c.push (.received none (.reset id r)))
                    { c.push (.received none (.reset id r)) with localPendingReset := p } :=
                  .same rfl rfl
                have hu := hp.trans (runs_updateRstCount (G := G))
                cases hres : ({ c.push (.received none (.reset id r)) with
                    localPendingReset := p } : Connection).updateRstCount with
                | mk x c2 =>
                    rw [hres] at hu
                    cases x with
                    | error e => exact .of_runs hu fun o e he => by cases he
                    | ok u => exact .of_runs hu fun o e he => by cases he

theorem runs_resetList {l : List (StreamId × Obj)} (r : Reason) : ∀ c : Connection,
    (∀ e ∈ l, e.2 < c.created) →
      Runs G c (l.foldl (fun c e => c.remoteResetStream e.2 r) c) := by
  induction l with
  | nil => exact fun c _ => .refl c
  | cons e l ih =>
      intro c hl
      have he := hl e List.mem_cons_self
      refine .of_clean fun hc => ?_
      have hrun := runs_remoteResetStream (G := G) he r
      refine hrun.trans (ih _ fun e' he' => ?_)
      exact Nat.lt_of_lt_of_le (hl e' (List.mem_cons_of_mem e he')) (hrun.created_le hc)

theorem runs_recvGoAway (r : Reason) (last : StreamId) : Runs G c (c.recvGoAway r last) := by
  unfold recvGoAway
  dsimp only
  have h1 : Runs G c { c with goAway := some r } := .step fun hc => ⟨hc.anomalies, .goneAway⟩
  refine (h1.trans ?_).trans (.same rfl rfl)
  refine Runs.trans (.of_clean fun hc => runs_resetList r _ ?_) runs_startDisconnect
  intro e he
  exact hc.good.table.bound e.2 (List.mem_map_of_mem (List.mem_filter.mp he).1)

end Connection

end NtexH2
