/-
  Connection/RefinesSend.lean --- what a stream sends are session steps.

  `send_pages` checks the send half when it starts and after every suspension; in
  between it only relies on the windows that it reads before each frame.
-/
import NtexH2.Connection.RefinesStream

set_option autoImplicit false

namespace NtexH2

open Session (Steps)

namespace Session

theorem close_false {k : Session} {o : Nat} (h : ¬(k.cells o).Done) :
    k.close o false false = k := by
  have hcl : (k.cells o).close false false = k.cells o := rfl
  have hleaves : ¬k.Leaves o false false := fun hl => h (hcl ▸ hl.1)
  have hends : ¬k.Ends o false false := fun he => hleaves he.1
  unfold Session.close
  simp only [hleaves, hends, hcl, false_and, if_false, decide_false, Bool.or_false,
    Function.update_eq_self]

theorem chunk_send (k : Session) (o : Nat) (d : Data) :
    ((k.chunk o d).cells o).send = if d.endStream then .closed else (k.cells o).send := by
  simp [Session.chunk, spend, Session.modify, close_cells_self, Cell.close, Session.push]

end Session

namespace Connection

variable {G : Session.Guard} {c c' : Connection}

/-! ## Headers -/

/-- A response is sent while the send half is idle. -/
theorem checkSendIdle_ok {s : Stream} {u : Unit} (h : checkSendIdle s = .ok u) :
    s.cell.send = .idle := by
  unfold checkSendIdle at h
  cases he : s.error with
  | some e =>
      rw [he] at h
      cases h
  | none =>
      rw [he] at h
      cases hs : s.send with
      | idle => simp [Stream.cell, hs, HalfState.half]
      | payload =>
          rw [hs] at h
          cases h
      | closed r =>
          rw [hs] at h
          cases h

/-- An informational response is a quiet event. -/
theorem runs_sendInformational {o : Nat} (ho : o < c.created) (status : Nat) (fields : HeaderMap) :
    Runs G c (c.sendInformational o status fields).2 := by
  unfold sendInformational
  cases hi : checkSendIdle (c.objs o) with
  | error e => exact .refl c
  | ok u =>
      cases hl : c.checkHeaderListSize (.response status) fields with
      | error e => exact .refl c
      | ok u' =>
          exact .step fun hc => ⟨hc.anomalies, .interim ho (checkSendIdle_ok hi) rfl rfl⟩

/-- A response is `respond`, and the close of the half with END_STREAM. -/
theorem runs_sendResponse {o : Nat} (ho : o < c.created) (status : Nat) (fields : HeaderMap)
    (eof : Bool) : Runs G c (c.sendResponse o status fields eof).2 := by
  unfold sendResponse
  cases hi : checkSendIdle (c.objs o) with
  | error e => exact .refl c
  | ok u =>
      cases hl : c.checkHeaderListSize (.response status) fields with
      | error e => exact .refl c
      | ok u' =>
          refine .step fun hc => ?_
          have hstep : Session.Step G c.session (c.session.respond o
              ⟨(c.objs o).id, .response status, fields, eof⟩) :=
            .respond ho (checkSendIdle_ok hi) rfl
          cases eof with
          | true =>
              obtain ⟨hs, ha⟩ := session_review hc.good.table ho
                (f := fun s => { s with send := .closed none, sendCap := false }) (r := false)
                (w := true) rfl
              refine ⟨ha.trans hc.anomalies, ?_⟩
              show Session.Step G c.session (((c.modify o _).reviewState o).session.push _)
              rw [hs]
              exact hstep
          | false =>
              refine ⟨hc.anomalies, ?_⟩
              show Session.Step G c.session ((c.stateSendPayload o).session.push _)
              rw [show (c.stateSendPayload o).session =
                c.session.modify o (fun s => { s with send := .payload }) from session_modify rfl]
              exact hstep

/-- Trailers close the send half. -/
theorem runs_sendTrailers {o : Nat} (ho : o < c.created) (fields : HeaderMap) :
    Runs G c (c.sendTrailers o fields).2 := by
  unfold sendTrailers
  split
  · next hp =>
      cases hl : c.checkHeaderListSize .empty fields with
      | error e => exact .refl c
      | ok u =>
          refine .step fun hc => ?_
          have hcell : (c.session.cells o).send = .payload := congrArg HalfState.half hp
          have ht := hc.good.table.push (e := .sent (some o) .sendTrailers
            (.headers ⟨(c.objs o).id, .empty, fields, true⟩)) rfl
          obtain ⟨hs, ha⟩ := session_review (c := c.encode o .sendTrailers
            (.headers ⟨(c.objs o).id, .empty, fields, true⟩)) ht ho
            (f := fun s => { s with send := .closed none, sendCap := false }) (r := false)
            (w := true) rfl
          refine ⟨ha.trans hc.anomalies, ?_⟩
          show Session.Step G c.session ((Connection.modify _ o _).reviewState o).session
          rw [hs]
          exact .trailers ho hcell rfl rfl
  · exact .refl c

/-! ## Flags of a waiting sender -/

theorem runs_cancelCapacityWait (o : Nat) : Runs G c (c.cancelCapacityWait o) :=
  (runs_flags (f := fun s => { s with waitForCapacity := false }) rfl).trans (runs_flags rfl)

/-- A waiting sender registers itself. -/
theorem startCapacityTimer_flags (c : Connection) (o : Nat) :
    (c.startCapacityTimer o).session = c.session ∧
      (c.startCapacityTimer o).anomalies = c.anomalies := by
  unfold startCapacityTimer
  split
  · exact ⟨session_modify_same rfl, rfl⟩
  · exact ⟨rfl, rfl⟩

/-- A poll changes flags only. -/
theorem pollSendCapacity_flags (c : Connection) (o : Nat) :
    (c.pollSendCapacity o).2.session = c.session ∧
      (c.pollSendCapacity o).2.anomalies = c.anomalies := by
  have hcancel : (c.cancelCapacityWait o).session = c.session := by
    unfold cancelCapacityWait stopCapacityTimer
    rw [session_modify_same rfl, session_modify_same rfl]
  unfold pollSendCapacity
  cases c.senderError o with
  | some e => exact ⟨hcancel, rfl⟩
  | none =>
      dsimp only
      split
      · exact ⟨hcancel, rfl⟩
      · obtain ⟨h1, h2⟩ := startCapacityTimer_flags ((c.registerSendWaker o).modify o fun s =>
          { s with waitForCapacity := true }) o
        refine ⟨h1.trans ?_, h2⟩
        unfold registerSendWaker
        rw [session_modify_same rfl, session_modify_same rfl]

theorem writeReady_flags (c : Connection) (o : Nat) (r : IoReady) :
    (c.writeReady o r).2.session = c.session ∧ (c.writeReady o r).2.anomalies = c.anomalies := by
  have hreg : (c.registerSendWaker o).session = c.session := session_modify_same rfl
  unfold writeReady
  cases c.senderError o with
  | some e => exact ⟨rfl, rfl⟩
  | none => cases r <;> exact ⟨hreg, rfl⟩

/-- A sender that goes on finds its send half open. -/
theorem senderError_none {o : Nat} (h : c.senderError o = none) :
    (c.objs o).cell.send ≠ .closed := by
  unfold senderError at h
  cases he : (c.objs o).error with
  | some e =>
      rw [he] at h
      cases h
  | none =>
      rw [he] at h
      cases hce : c.error with
      | some e =>
          rw [hce] at h
          cases h
      | none =>
          rw [hce] at h
          cases hs : (c.objs o).send with
          | closed r =>
              rw [hs] at h
              cases h
          | idle => simp [Stream.cell, hs, HalfState.half]
          | payload => simp [Stream.cell, hs, HalfState.half]

/-! ## DATA -/

/-- The capacity that is available is the smaller of the two windows, or none. -/
theorem available_eq {o : Nat} (hc : c.Clean) (ho : o ∈ c.session.values) :
    c.availableSendCapacity o =
      min (c.objs o).sendWindow.size.toNat c.sendWindow.size.toNat := by
  have h1 : (c.objs o).sendWindow.size < 2 ^ 31 := hc.good.sends.high o ho
  have h2 : (c.remoteWindowSz : Int) - (2 ^ 31 - 1) ≤ (c.objs o).sendWindow.size :=
    hc.good.sends.low o ho
  have h3 : 0 ≤ c.sendWindow.size := hc.good.sends.conLow
  have h4 : c.sendWindow.size < 2 ^ 31 := hc.good.sends.conHigh
  unfold availableSendCapacity
  rw [Window.windowSize_eq ⟨by omega, by omega⟩, Window.windowSize_eq ⟨by omega, by omega⟩]

/-- The windows of a DATA frame. -/
def spendWindows (c : Connection) (o : Obj) (size : Nat) : Connection :=
  let c := c.note ((c.objs o).sendWindow.DecSafe size) .sendWindow
  let c := c.modify o fun s => { s with sendWindow := s.sendWindow.dec size }
  let c := c.note (c.sendWindow.DecSafe size) .sendWindow
  { c with sendWindow := c.sendWindow.dec size }

/-- Within both windows a chunk is taken from each. -/
theorem spendWindows_eq {o size : Nat} (hdec : (c.objs o).sendWindow.DecSafe size)
    (hdec' : c.sendWindow.DecSafe size) :
    c.spendWindows o size =
      { c.modify o fun s => { s with sendWindow := s.sendWindow.dec size } with
        sendWindow := c.sendWindow.dec size } := by
  unfold spendWindows
  dsimp only
  rw [note_anomalies c (decide_eq_true hdec)]
  generalize hc1 : c.modify o (fun s => { s with sendWindow := s.sendWindow.dec size }) = c1
  have hw : c1.sendWindow = c.sendWindow := by
    rw [← hc1]
    rfl
  rw [note_anomalies c1 (decide_eq_true (by rw [hw]; exact hdec')), hw]

/-- So the session spends as much. -/
theorem session_spendWindows {o size : Nat} (hdec : (c.objs o).sendWindow.DecSafe size)
    (hdec' : c.sendWindow.DecSafe size) :
    (c.spendWindows o size).session = c.session.spend o size ∧
      (c.spendWindows o size).anomalies = c.anomalies := by
  have hs : (c.modify o fun s => { s with sendWindow := s.sendWindow.dec size }).session =
      c.session.modify o fun s => { s with sendWindow := s.sendWindow - size } := by
    apply session_modify
    simp only [Stream.cell, Window.dec_size hdec]
  rw [spendWindows_eq hdec hdec']
  refine ⟨?_, rfl⟩
  show ({ (c.modify o fun s => { s with sendWindow := s.sendWindow.dec size }).session with
    sendWindow := (c.sendWindow.dec size).size } : Session) = _
  rw [Window.dec_size hdec', hs]
  rfl

theorem sendChunk_eq (c : Connection) (o : Obj) (payload : Bytes) (size : Nat) (last : Bool)
    (h : (size : Int) ≤ (c.objs o).sendWindow.size ∧ (size : Int) ≤ c.sendWindow.size ∧
      size ≤ c.remoteFrameSize) :
    c.sendChunk o payload size last =
      (if last = true then (c.encode o .sendPages (.data ⟨(c.objs o).id, payload, size,
        last⟩)).stateSendClose o none
      else c.encode o .sendPages (.data ⟨(c.objs o).id, payload, size, last⟩)).spendWindows o
        size := by
  unfold sendChunk
  rw [note_anomalies c (decide_eq_true h)]
  rfl

/-- The frame, and the end of the stream. -/
theorem session_writeChunk {o : Nat} {d : Data} (hc : c.Clean) (ho : o < c.created)
    (hnd : ¬(c.objs o).cell.Done) :
    (if d.endStream = true then (c.encode o .sendPages (.data d)).stateSendClose o none
      else c.encode o .sendPages (.data d)).session =
        (c.session.push (.sent (some o) .sendPages (.data d))).close o false d.endStream ∧
    (if d.endStream = true then (c.encode o .sendPages (.data d)).stateSendClose o none
      else c.encode o .sendPages (.data d)).anomalies = c.anomalies := by
  have ht1 : (c.encode o .sendPages (.data d)).session.Table := hc.good.table.push rfl
  cases d.endStream with
  | true =>
      exact session_review (c := c.encode o .sendPages (.data d)) ht1 ho
        (f := fun s => { s with send := .closed none, sendCap := false }) (r := false)
        (w := true) rfl
  | false =>
      refine ⟨?_, rfl⟩
      rw [Session.close_false (k := c.session.push _) hnd]
      rfl

/-- A chunk of a payload is one step of the session. -/
theorem session_sendChunk {o : Nat} (payload : Bytes) {size : Nat} (last : Bool) (hc : c.Clean)
    (ho : o < c.created) (hp : (c.objs o).cell.send = .payload)
    (hw : (size : Int) ≤ (c.objs o).sendWindow.size) (hcon : (size : Int) ≤ c.sendWindow.size)
    (hm : size ≤ c.remoteFrameSize) :
    (c.sendChunk o payload size last).session =
      c.session.chunk o ⟨(c.objs o).id, payload, size, last⟩ ∧
      (c.sendChunk o payload size last).anomalies = c.anomalies := by
  have hnd : ¬(c.objs o).cell.Done := fun hd => absurd (hp.symm.trans hd.2) (by decide)
  have hv : o ∈ c.session.values := (hc.good.table.live o ho).mpr hnd
  have h1 : (c.objs o).sendWindow.size < 2 ^ 31 := hc.good.sends.high o hv
  have h4 : c.sendWindow.size < 2 ^ 31 := hc.good.sends.conHigh
  obtain ⟨hs2, ha2⟩ := session_writeChunk (d := ⟨(c.objs o).id, payload, size, last⟩) hc ho hnd
  rw [sendChunk_eq c o payload size last ⟨hw, hcon, hm⟩]
  dsimp only at hs2 ha2
  generalize (if last = true then
    (c.encode o .sendPages (.data ⟨(c.objs o).id, payload, size, last⟩)).stateSendClose o none
    else c.encode o .sendPages (.data ⟨(c.objs o).id, payload, size, last⟩)) = c2 at hs2 ha2 ⊢
  -- the windows are those of before
  have hwin : c2.sendWindow.size = c.sendWindow.size := congrArg Session.sendWindow hs2
  have hcell : (c2.objs o).sendWindow.size = (c.objs o).sendWindow.size := by
    have : (c2.objs o).sendWindow.size = (c2.session.cells o).sendWindow := rfl
    rw [this, hs2, Session.close_cells_self]
    rfl
  have hdec : (c2.objs o).sendWindow.DecSafe size := by
    unfold Window.DecSafe InI32
    omega
  have hdec' : c2.sendWindow.DecSafe size := by
    unfold Window.DecSafe InI32
    omega
  obtain ⟨hs3, ha3⟩ := session_spendWindows hdec hdec'
  refine ⟨hs3.trans ?_, ha3.trans ha2⟩
  rw [hs2]
  rfl

/-- A suspended call belongs to a stream that has sent its head. -/
def Suspends (r : SendPoll × Connection) : Prop :=
  ∀ s, r.1 = .suspended s → s.stream < r.2.created ∧ (r.2.objs s.stream).cell.send ≠ .idle

theorem suspends_ready (x : Except OperationError Unit) (c : Connection) :
    Suspends (.ready x, c) := by
  intro s hs
  cases hs

/-- What a stretch of `send_pages` does. -/
def Sends (G : Session.Guard) (c : Connection) (r : SendPoll × Connection) : Prop :=
  Runs G c r.2 ∧ Suspends r

theorem Sends.after {r : SendPoll × Connection} (h : Runs G c c') (hs : Sends G c' r) :
    Sends G c r := ⟨h.trans hs.1, hs.2⟩

/-- A stream that may send payload. -/
structure Sending (c : Connection) (o : Nat) : Prop where
  clean : c.Clean
  lt : o < c.created
  payload : (c.objs o).cell.send = .payload

theorem Sending.flags {o : Nat} (h : c.Sending o) (hs : c'.session = c.session)
    (ha : c'.anomalies = c.anomalies) : c'.Sending o where
  clean := ⟨ha.trans h.clean.anomalies, hs ▸ h.clean.good⟩
  lt := by
    have : c'.created = c'.session.created := rfl
    rw [this, hs]
    exact h.lt
  payload := by
    have : (c'.objs o).cell = c'.session.cells o := rfl
    rw [this, hs]
    exact h.payload

/-- One turn of the loop: a chunk that fits, or a task that waits. -/
theorem pagesTurn_sends {turn : IoTurn} {o : Nat} {eof : Bool}
    {next : Connection → StreamData → SendPoll × Connection}
    (hnext : ∀ c data, c.Sending o → Sends G c (next c data)) (h : c.Sending o)
    (data : StreamData) : Sends G c (pagesTurn turn o eof next c data) := by
  have hv : o ∈ c.session.values := (h.clean.good.table.live o h.lt).mpr fun hd =>
    absurd (h.payload.symm.trans hd.2) (by decide)
  unfold pagesTurn
  split
  · next hpos =>
      cases turn.writes with
      | false => exact ⟨.refl c, suspends_ready _ c⟩
      | true =>
          have hav := available_eq h.clean hv
          have hsz : c.chunkSize o data ≤ c.availableSendCapacity o := Nat.min_le_left _ _
          have hfr : c.chunkSize o data ≤ c.remoteFrameSize :=
            Nat.le_trans (Nat.min_le_right _ _) (Nat.min_le_right _ _)
          dsimp only
          generalize c.chunkSize o data = size at hsz hfr
          have hw : (size : Int) ≤ (c.objs o).sendWindow.size := by omega
          have hcon : (size : Int) ≤ c.sendWindow.size := by omega
          generalize data.encode size = e
          obtain ⟨payload, rest, done⟩ := e
          obtain ⟨hs, ha⟩ := session_sendChunk payload (eof && done) h.clean
            h.lt h.payload hw hcon hfr
          have hrun : Runs G c (c.sendChunk o payload size (eof && done)) := by
            refine .step fun hc => ⟨ha.trans hc.anomalies, ?_⟩
            rw [hs]
            exact .chunk h.lt h.payload rfl hw hcon hfr
          cases done with
          | true => exact ⟨hrun, suspends_ready _ _⟩
          | false =>
              refine Sends.after hrun (hnext _ _ ⟨hrun.clean h.clean, ?_, ?_⟩)
              · exact Nat.lt_of_lt_of_le h.lt (hrun.created_le h.clean)
              · -- the frame does not end the stream
                have hcell : ((c.sendChunk o payload size (eof && false)).objs o).cell =
                    (c.sendChunk o payload size (eof && false)).session.cells o := rfl
                rw [hcell, hs, Session.chunk_send, Bool.and_false]
                exact h.payload
  · cases hpoll : c.pollSendCapacity o with
    | mk r c1 =>
        have hf := pollSendCapacity_flags c o
        rw [hpoll] at hf
        have hrun : Runs G c c1 := .same hf.2 hf.1
        cases r with
        | ready x =>
            cases x with
            | error e => exact ⟨hrun, suspends_ready _ _⟩
            | ok n => exact Sends.after hrun (hnext _ _ (h.flags hf.1 hf.2))
        | pending =>
            refine ⟨hrun, ?_⟩
            intro s hs
            cases hs
            have h1 := h.flags hf.1 hf.2
            exact ⟨h1.lt, fun hi => absurd (h1.payload.symm.trans hi) (by decide)⟩

/-- The loop, by induction on the fuel that bounds its turns. -/
theorem pagesLoop_sends {io : Nat → IoTurn} {o : Nat} {eof : Bool} (fuel : Nat) :
    ∀ (k : Nat) (c : Connection) (data : StreamData), c.Sending o →
      Sends G c (pagesLoop io o eof fuel k c data) := by
  induction fuel with
  | zero =>
      intro k c data h
      refine ⟨.refl c, ?_⟩
      intro s hs
      cases hs
      exact ⟨h.lt, fun hi => absurd (h.payload.symm.trans hi) (by decide)⟩
  | succ fuel ih =>
      intro k c data h
      have hnext : ∀ c data, c.Sending o → Sends G c (pagesLoop io o eof fuel (k + 1) c data) :=
        fun c data h => ih (k + 1) c data h
      unfold pagesLoop
      cases (io k).pressure with
      | none => exact pagesTurn_sends hnext h data
      | some r =>
          dsimp only
          cases hwr : c.writeReady o r with
          | mk x c1 =>
              have hf := writeReady_flags c o r
              rw [hwr] at hf
              have hrun : Runs G c c1 := .same hf.2 hf.1
              cases x with
              | ready y =>
                  cases y with
                  | error e => exact ⟨hrun, suspends_ready _ _⟩
                  | ok u => exact Sends.after hrun (pagesTurn_sends hnext (h.flags hf.1 hf.2) data)
              | pending =>
                  refine ⟨hrun, ?_⟩
                  intro s hs
                  cases hs
                  have h1 := h.flags hf.1 hf.2
                  exact ⟨h1.lt, fun hi => absurd (h1.payload.symm.trans hi) (by decide)⟩

/-- A payload is a run of chunks. -/
theorem sendPages_sends {io : Nat → IoTurn} {o : Nat} {eof : Bool} (hc : c.Clean)
    (ho : o < c.created) (data : StreamData) : Sends G c (sendPages io c o data eof) := by
  unfold sendPages
  cases hsend : (c.objs o).send with
  | idle => exact ⟨.refl c, suspends_ready _ c⟩
  | closed r => exact ⟨.refl c, suspends_ready _ c⟩
  | payload =>
      have hp : (c.objs o).cell.send = .payload := congrArg HalfState.half hsend
      cases (c.objs o).error with
      | some e => exact ⟨.refl c, suspends_ready _ c⟩
      | none =>
          dsimp only
          split
          · split
            · refine ⟨.step fun hc => ?_, suspends_ready _ _⟩
              obtain ⟨hs, ha⟩ := session_review hc.good.table ho
                (f := fun s => { s with send := .closed none, sendCap := false }) (r := false)
                (w := true) rfl
              refine ⟨ha.trans hc.anomalies, ?_⟩
              show Session.Step G c.session (((c.modify o _).reviewState o).session.push _)
              rw [hs]
              exact .finish ho hp
            · exact ⟨.refl c, suspends_ready _ c⟩
          · exact pagesLoop_sends _ 0 c data ⟨hc, ho, hp⟩

/-- A sender that is polled goes on where it waited. -/
theorem pollSender_sends {io : Nat → IoTurn} {r : IoReady} {s : Sender} (hc : c.Clean)
    (hs : s ∈ c.senders) : Sends G c (pollSender io r c s) := by
  obtain ⟨hlt, hne⟩ := hc.good.table.senders s.stream (List.mem_map_of_mem hs)
  have hsending : c.senderError s.stream = none → c.Sending s.stream := by
    intro he
    refine ⟨hc, hlt, ?_⟩
    have hncl := senderError_none he
    cases hcell : (c.objs s.stream).cell.send with
    | idle => exact absurd hcell hne
    | payload => rfl
    | closed => exact absurd hcell hncl
  have hsusp : ∀ c1 : Connection, c1.session = c.session → Suspends (.suspended s, c1) := by
    intro c1 h1 t ht
    cases ht
    have hcr : c1.created = c1.session.created := rfl
    have hcell : (c1.objs s.stream).cell = c1.session.cells s.stream := rfl
    show s.stream < c1.created ∧ (c1.objs s.stream).cell.send ≠ .idle
    rw [hcr, hcell, h1]
    exact ⟨hlt, hne⟩
  unfold pollSender
  cases s.await with
  | writeReady =>
      dsimp only
      have hf := writeReady_flags c s.stream r
      cases hwr : c.writeReady s.stream r with
      | mk x c1 =>
          rw [hwr] at hf
          have hrun : Runs G c c1 := .same hf.2 hf.1
          cases x with
          | pending => exact ⟨hrun, hsusp c1 hf.1⟩
          | ready y =>
              cases y with
              | error e => exact ⟨hrun, suspends_ready _ _⟩
              | ok u =>
                  have he : c.senderError s.stream = none := by
                    unfold writeReady at hwr
                    cases hse : c.senderError s.stream with
                    | none => rfl
                    | some e =>
                        rw [hse] at hwr
                        cases hwr
                  refine Sends.after hrun ?_
                  exact pagesTurn_sends (fun c data h => pagesLoop_sends _ 1 c data h)
                    ((hsending he).flags hf.1 hf.2) s.data
  | capacity =>
      dsimp only
      have hf := pollSendCapacity_flags c s.stream
      cases hpc : c.pollSendCapacity s.stream with
      | mk x c1 =>
          rw [hpc] at hf
          have hrun : Runs G c c1 := .same hf.2 hf.1
          cases x with
          | pending => exact ⟨hrun, hsusp c1 hf.1⟩
          | ready y =>
              cases y with
              | error e => exact ⟨hrun, suspends_ready _ _⟩
              | ok n =>
                  have he : c.senderError s.stream = none := by
                    unfold pollSendCapacity at hpc
                    cases hse : c.senderError s.stream with
                    | none => rfl
                    | some e =>
                        rw [hse] at hpc
                        cases hpc
                  refine Sends.after hrun ?_
                  exact pagesLoop_sends _ 0 c1 s.data ((hsending he).flags hf.1 hf.2)

/-- The suspended calls after a poll. -/
theorem runs_senders {l : List Sender} (h : ∀ s ∈ l, s ∈ c.senders ∨
    s.stream < c.created ∧ (c.objs s.stream).cell.send ≠ .idle) :
    Runs G c { c with senders := l } := by
  refine .step fun hc => ⟨hc.anomalies, .senders ?_⟩
  intro o ho
  obtain ⟨s, hs, rfl⟩ := List.mem_map.mp ho
  exact (h s hs).imp_left fun hm => List.mem_map_of_mem hm

theorem runs_started {r : SendPoll × Connection} (h : Sends G c r) : Runs G c (started r) := by
  obtain ⟨x, c1⟩ := r
  cases x with
  | ready y => exact h.1
  | suspended s =>
      refine h.1.trans (runs_senders ?_)
      intro t ht
      rcases List.mem_append.mp ht with ht | ht
      · exact .inl ht
      · rw [List.mem_singleton.mp ht]
        exact .inr (h.2 s rfl)

/-- The list of the senders follows the outcome of the poll. -/
theorem runs_settle {r : SendPoll × Connection} (i : Nat) (h : Sends G c r) :
    Runs G c (settle i r) := by
  obtain ⟨x, c1⟩ := r
  cases x with
  | ready y =>
      refine h.1.trans (runs_senders ?_)
      intro t ht
      exact .inl (List.mem_of_mem_eraseIdx ht)
  | suspended s =>
      refine h.1.trans (runs_senders ?_)
      intro t ht
      rcases List.mem_or_eq_of_mem_set ht with ht | rfl
      · exact .inl ht
      · exact .inr (h.2 t rfl)

end Connection

end NtexH2
