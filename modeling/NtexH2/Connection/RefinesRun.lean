/-
  Connection/RefinesRun.lean --- settings, and the runs of a connection.

  A SETTINGS ack visits the streams one after the other; in between, the session
  knows which of them are still to come.  The settings of the peer shift all send
  windows at once, or fail with some of them shifted.
-/
import NtexH2.Connection.RefinesReceive

set_option autoImplicit false

namespace NtexH2

open Session (Steps)

namespace Connection

variable {G : Session.Guard} {c c' : Connection}

/-! ## The ack of the local settings -/

/-- The session in the middle of an ack. -/
def during (c : Connection) (os : List Nat) (errs : List (Obj × StreamError)) : Session :=
  { c.session with
    acking := os
    ackErrors := c.session.ackErrors ++ errs.map (·.1) }

theorem during_nil (c : Connection) : c.during [] [] = c.session := by
  unfold during
  rw [List.map_nil, List.append_nil]
  rfl

/-- The difference that the ack makes. -/
theorem shift_eq (c : Connection) :
    c.session.shift = (c.config.windowSz : Int) - defaultInitialWindowSize := rfl

/-- `update_recv_window`, when the window stays in range. -/
theorem updateRecvWindow_eq {o : Nat} {upd : Int} (hcl : (c.objs o).recv.isClosed = false)
    (hz : upd ≠ 0) {w : Window} (hw : shiftRecvWindow (c.objs o).recvWindow upd = .ok w)
    (hdec : upd < 0 → (c.objs o).recvWindow.DecSafe upd.natAbs)
    (hup : w.UpdateSafe (c.objs o).recvSize c.config.windowSz) :
    c.updateRecvWindow o upd =
      (.ok (w.update (c.objs o).recvSize c.config.windowSz c.config.windowSzThreshold).2,
        c.modify o fun s => { s with
          recvWindow := (w.update (c.objs o).recvSize c.config.windowSz
            c.config.windowSzThreshold).1 }) := by
  have hcond : ¬((c.objs o).recv.isClosed || upd == 0) = true := by
    rw [hcl, Bool.false_or, beq_iff_eq]
    exact hz
  have h1 : (!decide (upd < 0) || decide ((c.objs o).recvWindow.DecSafe upd.natAbs)) = true := by
    by_cases hneg : upd < 0
    · rw [decide_eq_true (hdec hneg), Bool.or_true]
    · rw [decide_eq_false hneg]
      rfl
  unfold updateRecvWindow
  rw [if_neg hcond, hw]
  dsimp only
  rw [note_anomalies c h1, note_anomalies c (decide_eq_true hup)]

/-- The window after the ack, in range. -/
theorem shiftRecvWindow_ok {w : Window} (upd : Int) (h0 : 0 ≤ w.size) (hw : w.size < 2 ^ 31)
    (hlow : -65535 ≤ upd) (hin : w.size + upd < 2 ^ 31) :
    shiftRecvWindow w upd = .ok ⟨w.size + upd⟩ ∧ (upd < 0 → w.DecSafe upd.natAbs) := by
  have hsafe : upd < 0 → w.DecSafe upd.natAbs := by
    intro hneg
    unfold Window.DecSafe InI32
    omega
  refine ⟨?_, hsafe⟩
  unfold shiftRecvWindow
  by_cases hneg : upd < 0
  · have hsz : w.dec upd.natAbs = ⟨w.size + upd⟩ := by
      have hd := Window.dec_size (hsafe hneg)
      have heq : w.size - (upd.natAbs : Int) = w.size + upd := by omega
      rw [heq] at hd
      cases hwd : w.dec upd.natAbs
      rw [hwd] at hd
      exact congrArg Window.mk hd
    rw [if_pos hneg, hsz]
  · have hi : InI32 (w.size + upd) := ⟨by omega, hin⟩
    unfold Window.inc
    rw [if_neg hneg, if_pos hi]

theorem shiftRecvWindow_error {w : Window} {upd : Int} (h0 : 0 ≤ upd)
    (hout : 2 ^ 31 ≤ w.size + upd) : shiftRecvWindow w upd = .error .windowOverflowed := by
  unfold shiftRecvWindow Window.inc
  have hneg : ¬upd < 0 := by omega
  have hi : ¬InI32 (w.size + upd) := fun hi => by
    have := hi.2
    omega
  rw [if_neg hneg, if_neg hi]

theorem modify_modify {o : Obj} {f g h : Stream → Stream} (hfg : ∀ s, g (f s) = h s) :
    (c.modify o f).modify o g = c.modify o h := by
  have hobjs : ((c.modify o f).modify o g).objs = (c.modify o h).objs := by
    funext p
    by_cases hp : p = o
    · simp [modify, hp, hfg]
    · simp [modify, hp]
  show ({ c with objs := ((c.modify o f).modify o g).objs } : Connection) = _
  rw [hobjs]
  rfl

/-- In range, the ack shifts the window and then announces it again. -/
theorem ackStream_eq {o : Nat} {errs : List (Obj × StreamError)} {upd : Int} {w : Window}
    (hcl : (c.objs o).recv.isClosed = false) (hz : upd ≠ 0)
    (hw : shiftRecvWindow (c.objs o).recvWindow upd = .ok w)
    (hdec : upd < 0 → (c.objs o).recvWindow.DecSafe upd.natAbs)
    (hup : w.UpdateSafe (c.objs o).recvSize c.config.windowSz) :
    ackStream upd (errs, c) o =
      (errs, (c.modify o fun s => { s with recvWindow := w }).reclaim o (c.objs o).recvSize) := by
  have hobj : (c.modify o fun s => { s with recvWindow := w }).objs o =
      { c.objs o with recvWindow := w } := by simp [modify]
  have hcfg : (c.modify o fun s => { s with recvWindow := w }).config = c.config := rfl
  unfold ackStream reclaim
  dsimp only
  rw [updateRecvWindow_eq hcl hz hw hdec hup, hobj, hcfg]
  dsimp only
  rw [hcl, if_neg Bool.false_ne_true, note_anomalies _ (decide_eq_true hup), hcfg,
    update_eq hup c.config.windowSzThreshold_lt]
  by_cases ha : Session.announces c.config.windowSz c.config.windowSzThreshold w.size
      (c.objs o).recvSize
  · rw [if_pos ha]
    dsimp only
    rw [modify_modify (h := fun s => { s with
      recvWindow := ⟨(c.config.windowSz : Int) - (c.objs o).recvSize⟩ }) fun s => rfl]
  · rw [if_neg ha]

theorem streamTopUp_acking (k : Session) (o : Nat) (os es : List Nat) :
    ({ k with acking := os, ackErrors := es } : Session).streamTopUp o =
      { k.streamTopUp o with acking := os, ackErrors := es } := by
  unfold Session.streamTopUp
  split
  · rfl
  · rfl

theorem streamTopUp_ackErrors (k : Session) (o : Nat) :
    (k.streamTopUp o).ackErrors = k.ackErrors := by
  unfold Session.streamTopUp
  split
  · rfl
  · rfl

/-- The ack reaches one stream: the errors and the session. -/
theorem session_ackStream {o : Nat} {rest : List Nat} {errs : List (Obj × StreamError)}
    (hlt : o < c.created) (hgood : (c.during (o :: rest) errs).Good) :
    (ackStream c.session.shift (errs, c) o).2.during rest
        (ackStream c.session.shift (errs, c) o).1 =
      (c.during (o :: rest) errs).ackOne o rest ∧
    (ackStream c.session.shift (errs, c) o).2.anomalies = c.anomalies := by
  have hcr := hgood.credit
  obtain ⟨hw0, -⟩ := hcr.waits o hlt (.inr List.mem_cons_self)
  have hw1 : (c.objs o).recvWindow.size < 2 ^ 31 := hcr.high o hlt
  have hw0' : 0 ≤ (c.objs o).recvWindow.size := hw0
  have hsz : (c.objs o).recvSize < 2 ^ 31 :=
    Nat.lt_of_le_of_lt (hcr.cell_recvSize_le hlt) hcr.recvSize_lt
  have hrecv : ((c.during (o :: rest) errs).cells o).recv = .closed ↔
      (c.objs o).recv.isClosed = true := HalfState.half_closed
  have hshift : (c.during (o :: rest) errs).shift = c.session.shift := rfl
  have hlow : -65535 ≤ c.session.shift := by
    rw [shift_eq]
    unfold defaultInitialWindowSize
    omega
  unfold Session.ackOne
  rw [hshift]
  by_cases hno : (c.objs o).recv.isClosed = true ∨ c.session.shift = 0
  · -- nothing to do for a closed half
    have hb : ((c.objs o).recv.isClosed || c.session.shift == 0) = true := by
      rw [Bool.or_eq_true, beq_iff_eq]
      exact hno
    have hu : c.updateRecvWindow o c.session.shift = (.ok none, c) := by
      unfold updateRecvWindow
      rw [if_pos hb]
    unfold ackStream
    rw [hu, if_pos (hno.imp_left hrecv.mpr)]
    exact ⟨rfl, rfl⟩
  · obtain ⟨hcl, hz⟩ := not_or.mp hno
    have hcl' : (c.objs o).recv.isClosed = false := Bool.eq_false_iff.mpr hcl
    rw [if_neg fun hor => hno (hor.imp_left hrecv.mp)]
    by_cases hover : 2 ^ 31 ≤ (c.objs o).recvWindow.size + c.session.shift
    · -- the window overflows, and the stream is remembered
      have hpos : 0 ≤ c.session.shift := by omega
      have hb : ¬((c.objs o).recv.isClosed || c.session.shift == 0) = true := by
        rw [hcl', Bool.false_or, beq_iff_eq]
        exact hz
      have hu : c.updateRecvWindow o c.session.shift = (.error .windowOverflowed, c) := by
        unfold updateRecvWindow
        rw [if_neg hb, shiftRecvWindow_error hpos hover]
      have hover' : 2 ^ 31 ≤ ((c.during (o :: rest) errs).cells o).recvWindow + c.session.shift :=
        hover
      unfold ackStream
      rw [hu, if_pos hover']
      refine ⟨?_, rfl⟩
      unfold during
      rw [List.map_append, ← List.append_assoc]
      rfl
    · have hover' : ¬2 ^ 31 ≤
          ((c.during (o :: rest) errs).cells o).recvWindow + c.session.shift := hover
      obtain ⟨hok, hdec⟩ := shiftRecvWindow_ok c.session.shift hw0' hw1 hlow (by omega)
      have hlow' : min 0 ((c.config.windowSz : Int) - 65535) ≤
          (c.objs o).recvWindow.size + c.session.shift := by
        rw [shift_eq]
        unfold defaultInitialWindowSize
        omega
      have hsafe : (⟨(c.objs o).recvWindow.size + c.session.shift⟩ : Window).UpdateSafe
          (c.objs o).recvSize c.config.windowSz := updateSafe hlow' hsz c.config.windowSz_lt
      have hobj : (c.modify o fun s => { s with
          recvWindow := ⟨(c.objs o).recvWindow.size + c.session.shift⟩ }).objs o =
        { c.objs o with recvWindow := ⟨(c.objs o).recvWindow.size + c.session.shift⟩ } := by
        simp [modify]
      have hm : (c.modify o fun s => { s with
          recvWindow := ⟨(c.objs o).recvWindow.size + c.session.shift⟩ }).session =
        c.session.modify o fun s => { s with recvWindow := s.recvWindow + c.session.shift } :=
        session_modify rfl
      obtain ⟨hs, ha⟩ := session_reclaim (c := c.modify o fun s => { s with
          recvWindow := ⟨(c.objs o).recvWindow.size + c.session.shift⟩ }) (o := o)
        (n := (c.objs o).recvSize) (by rw [hobj]) hsz (by rw [hobj]; exact hlow')
      rw [ackStream_eq hcl' hz hok hdec hsafe, if_neg hover']
      refine ⟨?_, ha⟩
      unfold during
      rw [hs, hm, streamTopUp_ackErrors]
      exact (streamTopUp_acking (c.session.modify o fun s =>
        { s with recvWindow := s.recvWindow + c.session.shift }) o rest
          (c.session.ackErrors ++ errs.map (·.1))).symm

theorem ackOne_frame (k : Session) (o : Nat) (rest : List Nat) :
    (k.ackOne o rest).config = k.config ∧ (k.ackOne o rest).created = k.created ∧
      ∀ p, p ≠ o → (k.ackOne o rest).cells p = k.cells p := by
  unfold Session.ackOne
  split
  · exact ⟨rfl, rfl, fun p _ => rfl⟩
  · split
    · exact ⟨rfl, rfl, fun p _ => rfl⟩
    · unfold Session.streamTopUp
      split
      · refine ⟨rfl, rfl, fun p hp => ?_⟩
        simp [Session.push, Session.modify, Function.update_of_ne hp]
      · refine ⟨rfl, rfl, fun p hp => ?_⟩
        simp [Session.modify, Function.update_of_ne hp]

/-- The ack reaches all streams. -/
theorem runs_ackStreams (upd : Int) (os : List Nat) : ∀ (c : Connection)
    (errs : List (Obj × StreamError)), c.session.shift = upd → c.anomalies = [] →
    (c.during os errs).Good → (∀ o ∈ os, G.ack (c.session.cells o)) →
    (os.foldl (ackStream upd) (errs, c)).2.anomalies = [] ∧
      Steps G (c.during os errs)
        ((os.foldl (ackStream upd) (errs, c)).2.during []
          (os.foldl (ackStream upd) (errs, c)).1) := by
  induction os with
  | nil =>
      intro c errs _ ha _ _
      exact ⟨ha, .refl⟩
  | cons o rest ih =>
      intro c errs hupd ha hgood hG
      have hlt : o < c.created := hgood.table.acking o List.mem_cons_self
      obtain ⟨hs, hanom⟩ := session_ackStream hlt hgood
      have hstep : Session.Step G (c.during (o :: rest) errs)
          ((c.during (o :: rest) errs).ackOne o rest) :=
        .ackOne rfl (hG o List.mem_cons_self)
      have hnodup : o ∉ rest := (List.nodup_cons.mp hgood.credit.acking).1
      obtain ⟨hcfg, -, hcells⟩ := ackOne_frame (c.during (o :: rest) errs) o rest
      rw [hupd] at hs hanom
      rw [← hs] at hstep hcfg hcells
      rw [List.foldl_cons]
      generalize ackStream upd (errs, c) o = r at hs hanom hstep hcfg hcells
      have hupd' : r.2.session.shift = upd := by
        rw [← hupd, shift_eq, shift_eq]
        have hcfg' : r.2.config = c.config := hcfg
        rw [hcfg']
      obtain ⟨h1, h2⟩ := ih r.2 r.1 hupd' (hanom.trans ha) (hgood.step hstep) fun p hp => by
        have hne : p ≠ o := fun h => hnodup (h ▸ hp)
        have heq : r.2.session.cells p = c.session.cells p := hcells p hne
        rw [heq]
        exact hG p (List.mem_cons_of_mem o hp)
      exact ⟨h1, .head hstep h2⟩

theorem session_setFailedStream {o : Nat} (ht : c.session.Table) (hlt : o < c.created)
    (err : OperationError) :
    (c.setFailedStream o err).session = c.session.close o true true ∧
      (c.setFailedStream o err).anomalies = c.anomalies := by
  obtain ⟨hs, ha⟩ := session_review ht hlt (f := fun s => { s with
      recv := if s.recv.isClosed then s.recv else .closed none
      send := if s.send.isClosed then s.send else .closed none
      error := some err
      failed := true }) (r := true) (w := true)
    (by simp only [Stream.cell, Cell.close, half_failed, if_true])
  refine ⟨?_, ha⟩
  rw [← hs]
  exact session_modify_same rfl

/-- The dispatcher reports one error of an ack. -/
theorem session_ackFailed {o : Nat} (ht : c.session.Table) (hlt : o < c.created) (e : StreamError)
    (errs l : List (Obj × StreamError)) :
    (c.handleAckErrors ((o, e) :: errs)).session =
        (c.during [] l).ackFailed o e (errs.map (·.1)) ∧
      (c.handleAckErrors ((o, e) :: errs)).anomalies = c.anomalies := by
  obtain ⟨hs, ha⟩ := session_setFailedStream (c := c.push (.streamFailed o e))
    (ht.push (e := .streamFailed o e) rfl) hlt (.stream e)
  have hid : (((c.push (.streamFailed o e)).setFailedStream o (.stream e)).objs o).id =
      (c.objs o).id := by
    have h1 : (((c.push (.streamFailed o e)).setFailedStream o (.stream e)).session.cells o).id =
        (c.session.cells o).id := by
      rw [hs]
      simp [Session.close, Cell.close, session_push, Session.push]
    exact h1
  refine ⟨?_, ha⟩
  unfold handleAckErrors
  dsimp only
  rw [hid]
  show ({ ((c.push (.streamFailed o e)).setFailedStream o (.stream e)).session.push
      (.sent none .connection (.reset (c.objs o).id e.reason)) with
    ackErrors := errs.map (·.1) } : Session) = _
  rw [hs]
  rfl

/-- The end of an ack: the session knows the errors that are left. -/
theorem steps_ackErrors {k : Session} {errs : List (Obj × StreamError)} (ha : c.anomalies = [])
    (hs : Steps G k (c.during [] errs)) (hgood : (c.during [] errs).Good) :
    (c.handleAckErrors errs).anomalies = [] ∧ Steps G k (c.handleAckErrors errs).session := by
  cases errs with
  | nil =>
      rw [during_nil] at hs
      exact ⟨ha, hs⟩
  | cons x errs =>
      have ht : c.session.Table := { hgood.table with
        ackErrors := fun p hp => hgood.table.ackErrors p (List.mem_append_left _ hp)
        acking := fun p hp => by cases hp }
      have hmem : x.1 ∈ (c.during [] (x :: errs)).ackErrors :=
        List.mem_append_right _ List.mem_cons_self
      obtain ⟨hs', ha'⟩ := session_ackFailed ht (hgood.table.ackErrors x.1 hmem) x.2 errs
        (x :: errs)
      refine ⟨ha'.trans ha, ?_⟩
      rw [hs']
      refine hs.tail (.ackFailed hmem fun p hp => ?_)
      exact List.mem_append_right _ (List.mem_cons_of_mem x.1 hp)

/-- A SETTINGS ack; `G` holds of the streams that it finds. -/
theorem runs_settingsAck {s : Settings} (hack : s.ack = true)
    (hG : c.settingsProcessed = false → ∀ o ∈ c.session.values, G.ack (c.session.cells o)) :
    Runs G c (match (c.push (.received none (.settings s))).recvSettingsAck with
      | (.error e, c) => c.protoError e
      | (.ok errs, c) => c.handleAckErrors errs) := by
  unfold recvSettingsAck
  by_cases hp : c.settingsProcessed = true
  · have hp' : (c.push (.received none (.settings s))).settingsProcessed = true := hp
    rw [if_pos hp']
    exact runs_protoError_received _ (fun o ho => by cases ho) fun _ s' hs' => by
      cases hs'
      exact hack
  · have hp' : ¬(c.push (.received none (.settings s))).settingsProcessed = true := hp
    rw [if_neg hp']
    intro hc
    have hbegin : Session.Step G c.session (c.session.ackBegin s) :=
      .ackBegin hack (Bool.eq_false_iff.mpr hp)
    have hmid : ({ c.push (.received none (.settings s)) with
        settingsProcessed := true } : Connection).during c.session.values [] =
          c.session.ackBegin s := by
      unfold during
      rw [List.map_nil, List.append_nil]
      rfl
    rw [← hmid] at hbegin
    have hgood := hc.good.step hbegin
    obtain ⟨ha, hsteps⟩ := runs_ackStreams (G := G) c.session.shift c.session.values
      { c.push (.received none (.settings s)) with settingsProcessed := true } [] rfl
      hc.anomalies hgood (hG (Bool.eq_false_iff.mpr hp))
    have hrun : Steps G c.session _ := .head hbegin hsteps
    have hgood' := hc.good.steps hrun
    exact steps_ackErrors ha hrun hgood'

/-! ## The settings of the peer -/

/-- Other send windows for some of the streams. -/
def withWindows (k : Session) (os : List Nat) (w : Nat → Int) : Session :=
  { k with cells := fun p => if p ∈ os then { k.cells p with sendWindow := w p } else k.cells p }

theorem withWindows_nil (k : Session) (w : Nat → Int) : withWindows k [] w = k := by
  unfold withWindows
  simp only [List.not_mem_nil, if_false]

theorem withWindows_self (k : Session) (os : List Nat) :
    withWindows k os (fun p => (k.cells p).sendWindow) = k := by
  unfold withWindows
  simp only [ite_self]

theorem withWindows_modify (k : Session) {o : Nat} {os : List Nat} (ho : o ∉ os) (x : Int)
    (w : Nat → Int) :
    withWindows (k.modify o fun s => { s with sendWindow := x }) os w =
      withWindows k (o :: os) fun p => if p = o then x else w p := by
  unfold withWindows Session.modify
  congr 1
  funext p
  by_cases hp : p = o
  · subst hp
    simp [ho]
  · simp [hp]

theorem session_wakeCapacityWaiter (o : Nat) : (c.wakeCapacityWaiter o).session = c.session ∧
    (c.wakeCapacityWaiter o).anomalies = c.anomalies := by
  unfold wakeCapacityWaiter
  split
  · refine ⟨?_, rfl⟩
    unfold stopCapacityTimer
    rw [session_modify_same rfl, session_modify_same rfl]
  · exact ⟨rfl, rfl⟩

/-- The new initial window size reaches one stream. -/
theorem updateSendWindow_cases {o : Nat} {upd : Int} (hlow : -2 ^ 31 ≤ (c.objs o).sendWindow.size)
    (hz : upd ≠ 0) (hneg : -2 ^ 31 < upd) (hin : -2 ^ 31 ≤ (c.objs o).sendWindow.size + upd)
    (hhigh : (c.objs o).sendWindow.size < 2 ^ 31) :
    (∃ c1, c.updateSendWindow o upd = (.ok (), c1) ∧
      c1.session = (c.session.modify o fun s =>
        { s with sendWindow := (c.objs o).sendWindow.size + upd }) ∧
      c1.anomalies = c.anomalies ∧ (c.objs o).sendWindow.size + upd < 2 ^ 31) ∨
    ∃ e, c.updateSendWindow o upd = (.error e, c) ∧
      2 ^ 31 ≤ (c.objs o).sendWindow.size + upd := by
  unfold updateSendWindow
  by_cases hlt : upd < 0
  · have hdec : (c.objs o).sendWindow.DecSafe upd.natAbs := by
      unfold Window.DecSafe InI32
      omega
    rw [if_pos hlt, note_anomalies c (decide_eq_true hdec)]
    obtain ⟨hs, ha⟩ := session_wakeCapacityWaiter (c := c.modify o fun s =>
      { s with sendWindow := s.sendWindow.dec upd.natAbs }) o
    refine .inl ⟨_, rfl, ?_, ha, by omega⟩
    rw [hs]
    apply session_modify
    have heq : (c.objs o).sendWindow.size - (upd.natAbs : Int) =
        (c.objs o).sendWindow.size + upd := by omega
    simp only [Stream.cell, Window.dec_size hdec, heq]
  · have hpos : upd > 0 := by omega
    rw [if_neg hlt, if_pos hpos]
    unfold Window.inc
    by_cases hi : (c.objs o).sendWindow.size + upd < 2 ^ 31
    · have hi' : InI32 ((c.objs o).sendWindow.size + upd) := ⟨hin, hi⟩
      rw [if_pos hi']
      obtain ⟨hs, ha⟩ := session_wakeCapacityWaiter (c := c.modify o fun s =>
        { s with sendWindow := ⟨(c.objs o).sendWindow.size + upd⟩ }) o
      refine .inl ⟨_, rfl, ?_, ha, hi⟩
      rw [hs]
      exact session_modify rfl
    · have hi' : ¬InI32 ((c.objs o).sendWindow.size + upd) := fun h => hi h.2
      rw [if_neg hi']
      exact .inr ⟨_, rfl, by omega⟩

/-- The new initial window size reaches the streams `os`. -/
theorem shiftSendWindows_cases {upd : Int} (hz : upd ≠ 0) (hneg : -2 ^ 31 < upd) (os : List Nat) :
    ∀ c : Connection, os.Nodup → (∀ o ∈ os, -2 ^ 31 ≤ (c.objs o).sendWindow.size ∧
      -2 ^ 31 ≤ (c.objs o).sendWindow.size + upd ∧ (c.objs o).sendWindow.size < 2 ^ 31) →
    (∃ c1, shiftSendWindows upd os c = (true, c1) ∧
      c1.session = withWindows c.session os (fun p => (c.objs p).sendWindow.size + upd) ∧
      c1.anomalies = c.anomalies ∧ ∀ o ∈ os, (c.objs o).sendWindow.size + upd < 2 ^ 31) ∨
    ∃ c1 w, shiftSendWindows upd os c = (false, c1) ∧ c1.session = withWindows c.session os w ∧
      c1.anomalies = c.anomalies ∧ ∃ o ∈ os, 2 ^ 31 ≤ (c.objs o).sendWindow.size + upd := by
  induction os with
  | nil =>
      intro c _ _
      exact .inl ⟨c, rfl, (withWindows_nil _ _).symm, rfl, fun o ho => by cases ho⟩
  | cons o os ih =>
      intro c hnodup hb
      obtain ⟨hno, hnd⟩ := List.nodup_cons.mp hnodup
      obtain ⟨h1, h2, h3⟩ := hb o List.mem_cons_self
      unfold shiftSendWindows
      rcases updateSendWindow_cases h1 hz hneg h2 h3 with ⟨c1, hu, hs, ha, hin⟩ | ⟨e, hu, hout⟩
      · rw [hu]
        dsimp only
        -- the other streams keep their windows
        have hsame : ∀ p, p ≠ o → (c1.objs p).sendWindow.size = (c.objs p).sendWindow.size := by
          intro p hp
          have : (c1.session.cells p).sendWindow = (c.session.cells p).sendWindow := by
            rw [hs]
            simp [Session.modify, hp]
          exact this
        have hne : ∀ p ∈ os, p ≠ o := fun p hp h => hno (h ▸ hp)
        have hb1 : ∀ p ∈ os, -2 ^ 31 ≤ (c1.objs p).sendWindow.size ∧
            -2 ^ 31 ≤ (c1.objs p).sendWindow.size + upd ∧ (c1.objs p).sendWindow.size < 2 ^ 31 := by
          intro p hp
          rw [hsame p (hne p hp)]
          exact hb p (List.mem_cons_of_mem o hp)
        rcases ih c1 hnd hb1 with ⟨c2, hsh, hs2, ha2, hin2⟩ | ⟨c2, w, hsh, hs2, ha2, p, hp, hout⟩
        · refine .inl ⟨c2, hsh, ?_, ha2.trans ha, ?_⟩
          · rw [hs2, hs, withWindows_modify _ hno]
            unfold withWindows
            congr 1
            funext p
            by_cases hp : p = o
            · subst hp
              simp
            · simp [hp, hsame p hp]
          · intro p hp
            rcases List.mem_cons.mp hp with rfl | hp
            · exact hin
            · have := hin2 p hp
              rwa [hsame p (hne p hp)] at this
        · rw [hs, withWindows_modify _ hno] at hs2
          rw [hsame p (hne p hp)] at hout
          exact .inr ⟨c2, _, hsh, hs2, ha2.trans ha, p, List.mem_cons_of_mem o hp, hout⟩
      · rw [hu]
        exact .inr ⟨c, _, rfl, (withWindows_self _ _).symm, rfl, o, List.mem_cons_self, hout⟩

theorem session_applyLimits (s : Settings) :
    (c.applyLimits s).session =
        { c.session with remoteFrameSize := s.maxFrameSize.getD c.remoteFrameSize } ∧
      (c.applyLimits s).anomalies = c.anomalies := by
  unfold applyLimits
  cases s.maxHeaderListSize <;> cases s.maxFrameSize <;> dsimp only <;> split <;>
    exact ⟨rfl, rfl⟩

/-- The windows of the streams after the settings of the peer. -/
theorem applyInitialWindow_cases {k : Session} {s : Settings} (hk : c.session = k)
    (hnodup : k.values.Nodup) (hhigh : ∀ o ∈ k.values, (k.cells o).sendWindow < 2 ^ 31)
    (hlow : ∀ o ∈ k.values, (k.remoteWindowSz : Int) - (2 ^ 31 - 1) ≤ (k.cells o).sendWindow)
    (hsz : k.remoteWindowSz < 2 ^ 31) (hw : ∀ v ∈ s.initialWindowSize, v < 2 ^ 31) :
    (∃ c1, c.applyInitialWindow s = (true, c1) ∧
      c1.session = { withWindows k k.values (fun p => (k.cells p).sendWindow +
          (s.initialWindowSize.getD k.remoteWindowSz - k.remoteWindowSz : Int)) with
        remoteWindowSz := s.initialWindowSize.getD k.remoteWindowSz } ∧
      c1.anomalies = c.anomalies ∧ ∀ o ∈ k.values, (k.cells o).sendWindow +
        (s.initialWindowSize.getD k.remoteWindowSz - k.remoteWindowSz : Int) < 2 ^ 31) ∨
    ∃ c1 w, c.applyInitialWindow s = (false, c1) ∧
      c1.session = { withWindows k k.values w with
        remoteWindowSz := s.initialWindowSize.getD k.remoteWindowSz } ∧
      c1.anomalies = c.anomalies ∧ ∃ o ∈ k.values, 2 ^ 31 ≤ (k.cells o).sendWindow +
        (s.initialWindowSize.getD k.remoteWindowSz - k.remoteWindowSz : Int) := by
  subst hk
  have hzero : withWindows c.session c.session.values
      (fun p => (c.session.cells p).sendWindow + 0) = c.session := by
    simp only [Int.add_zero]
    exact withWindows_self c.session c.session.values
  unfold applyInitialWindow
  cases hval : s.initialWindowSize with
  | none =>
      refine .inl ⟨c, rfl, ?_, rfl, ?_⟩
      · rw [Option.getD_none, Int.sub_self, hzero]
      · intro o ho
        rw [Option.getD_none, Int.sub_self, Int.add_zero]
        exact hhigh o ho
  | some val =>
      have hv : val < 2 ^ 31 := hw val hval
      rw [Option.getD_some]
      dsimp only
      by_cases hz : (val : Int) - c.session.remoteWindowSz = 0
      · have hz' : (val : Int) - c.remoteWindowSz = 0 := hz
        rw [if_pos hz', hz]
        refine .inl ⟨_, rfl, ?_, rfl, ?_⟩
        · rw [hzero]
          rfl
        · intro o ho
          rw [Int.add_zero]
          exact hhigh o ho
      · have hz' : ¬(val : Int) - c.remoteWindowSz = 0 := hz
        rw [if_neg hz']
        have hb : ∀ o ∈ c.session.values, -2 ^ 31 ≤ (c.objs o).sendWindow.size ∧
            -2 ^ 31 ≤ (c.objs o).sendWindow.size + ((val : Int) - c.remoteWindowSz) ∧
              (c.objs o).sendWindow.size < 2 ^ 31 := by
          intro o ho
          have h1 : (c.remoteWindowSz : Int) - (2 ^ 31 - 1) ≤ (c.objs o).sendWindow.size :=
            hlow o ho
          have h2 : (c.objs o).sendWindow.size < 2 ^ 31 := hhigh o ho
          have h3 : c.remoteWindowSz < 2 ^ 31 := hsz
          omega
        rcases shiftSendWindows_cases hz' (by
          have h3 : c.remoteWindowSz < 2 ^ 31 := hsz
          omega) c.session.values { c with remoteWindowSz := val } hnodup hb with
          ⟨c1, h1, h2, h3, h4⟩ | ⟨c1, w, h1, h2, h3, h4⟩
        · exact .inl ⟨c1, h1, h2, h3, h4⟩
        · exact .inr ⟨c1, w, h1, h2, h3, h4⟩

/-- The connection fails with some of the send windows shifted. -/
theorem session_protoError {k : Session} {s : Settings} {w : Nat → Int} {windowSz frameSize : Nat}
    (e : ConnectionError)
    (h : c.session = { withWindows { k.push (.received none (.settings s)) with
      remoteFrameSize := frameSize } k.values w with remoteWindowSz := windowSz }) :
    (c.protoError e).session = k.fail [.failed e, .received none (.settings s)] w windowSz
      frameSize ∧ (c.protoError e).anomalies = c.anomalies := by
  obtain ⟨h1, h2⟩ := session_failStreams { c.push (.failed e) with error := some (.connection e) }
    (.connection e)
  refine ⟨?_, h2⟩
  have hs : ({ c.push (.failed e) with error := some (.connection e) } : Connection).session =
      { c.session with failed := true, log := .failed e :: c.session.log } := rfl
  have hcells : (fun p => if p ∈ k.values then
        (if p ∈ k.values then { k.cells p with sendWindow := w p } else k.cells p).close true true
      else if p ∈ k.values then { k.cells p with sendWindow := w p } else k.cells p) =
      fun p => if p ∈ k.values then
        { k.cells p with recv := .closed, send := .closed, sendWindow := w p } else k.cells p := by
    funext p
    by_cases hp : p ∈ k.values
    · simp only [if_pos hp]
      rfl
    · simp only [if_neg hp]
  have hres : c.reservedStreams = k.reserved := congrArg Session.reserved h
  show (Connection.failStreams _ _).session = _
  rw [h1, hs, h]
  unfold Session.fail
  rw [← hcells]
  show ({ k with
    cells := _, streams := [], activeRemote := 0, activeLocal := c.reservedStreams
    remoteWindowSz := windowSz, remoteFrameSize := frameSize, failed := true
    log := [.failed e, .received none (.settings s)] ++ k.log } : Session) = _
  rw [hres]
  rfl

/-- The settings of the peer. -/
theorem runs_peerSettings {s : Settings} (hack : s.ack = false)
    (hw : ∀ v ∈ s.initialWindowSize, v < 2 ^ 31) :
    Runs G c (match (c.push (.received none (.settings s))).recvPeerSettings s with
      | (.error e, c) => c.protoError e
      | (.ok _, c) => c) := by
  unfold recvPeerSettings
  by_cases hpush : (s.isPushEnabled = some true && !c.server) = true
  · have hpush' : (s.isPushEnabled = some true &&
        !(c.push (.received none (.settings s))).server) = true := hpush
    rw [if_pos hpush']
    refine runs_protoError_received _ (fun o ho => by cases ho) fun hs _ _ => ?_
    simp [hs] at hpush
  · have hpush' : ¬(s.isPushEnabled = some true &&
        !(c.push (.received none (.settings s))).server) = true := hpush
    rw [if_neg hpush']
    refine .step fun hc => ?_
    obtain ⟨hs1, ha1⟩ := session_applyLimits (c := c.push (.received none (.settings s))) s
    generalize (c.push (.received none (.settings s))).applyLimits s = c1 at hs1 ha1
    rcases applyInitialWindow_cases hs1 hc.good.table.nodup hc.good.sends.high hc.good.sends.low
      hc.good.sends.windowSz hw with ⟨c2, h1, h2, h3, h4⟩ | ⟨c2, w, h1, h2, h3, -⟩
    · rw [h1]
      dsimp only
      refine ⟨h3.trans (ha1.trans hc.anomalies), ?_⟩
      have hs : (c2.encodeCon (.settings .newAck)).session = c.session.settings s := by
        show c2.session.push (.sent none .connection (.settings .newAck)) = _
        rw [h2]
        rfl
      rw [hs]
      exact .settings hack hw h4
    · rw [h1]
      dsimp only
      obtain ⟨h4, h5⟩ := session_protoError (k := c.session) (s := s) .windowValueOverflow h2
      refine ⟨h5.trans (h3.trans (ha1.trans hc.anomalies)), ?_⟩
      rw [h4]
      refine .fail ⟨.inr ⟨_, .inr ⟨none, .settings s, rfl, fun o ho => by cases ho⟩⟩, ?_, ?_⟩
      · intro _ hiw hmf
        constructor
        · show (if s.ack then _ else s.initialWindowSize.getD (initWindow c.session.log)) = _
          rw [hack, if_neg Bool.false_ne_true, hiw]
          rfl
        · show (if s.ack then _ else s.maxFrameSize.getD (maxFrame c.session.log)) = _
          rw [hack, if_neg Bool.false_ne_true, hmf]
          rfl
      · cases hval : s.initialWindowSize with
        | none => exact hc.good.sends.windowSz
        | some v => exact hw v hval

/-! ## Frames -/

/-- Frames that are recorded before they are handled. -/
def Separate : Frame → Prop
  | .headers _ | .ping _ _ | .goAway _ _ _ | .priority _ | .invalid _ => True
  | _ => False

theorem runs_record {f : Frame} (hf : Separate f) (obj : Option Obj) :
    Runs G c (c.push (.received obj f)) := by
  apply runs_quiet
  cases f <;> first
    | exact False.elim hf
    | cases obj <;> trivial

/-- A frame; `G` holds of the streams that a SETTINGS ack finds. -/
theorem runs_receive {f : Frame} (hl : f.Loads)
    (hG : ∀ s, f = .settings s → s.ack = true → c.remoteSettings = true →
      c.settingsProcessed = false → ∀ o ∈ c.session.values, G.ack (c.session.cells o)) :
    Runs G c (c.receive f) := by
  refine .of_clean fun hc => ?_
  have hobj : ∀ o, f.streamId.bind c.query = some o → o ∈ c.session.values := by
    intro o ho
    obtain ⟨id, -, hq⟩ := Option.bind_eq_some_iff.mp ho
    exact (query_mem hc.good.table hq).1
  unfold receive
  dsimp only
  by_cases hfirst : (c.push (.received (f.streamId.bind c.query) f)).checkFirstFrame f = true
  · rw [if_pos hfirst]
    unfold dispatch
    cases f with
    | headers h =>
        exact (runs_record (f := .headers h) trivial _).trans
          (runs_handleMessage (handles_recvHeaders h))
    | data d => exact runs_data hl
    | settings s =>
        dsimp only
        by_cases hack : s.ack = true
        · rw [if_pos hack]
          have hr : c.remoteSettings = true := by
            have h : (c.remoteSettings || !s.ack) = true := hfirst
            rw [hack] at h
            simpa using h
          exact runs_settingsAck hack (hG s rfl hack hr)
        · rw [if_neg hack]
          exact runs_peerSettings (Bool.eq_false_iff.mpr hack) hl.1
    | windowUpdate id n => exact runs_windowUpdate hl.2
    | reset id r => exact runs_rstStream
    | ping ack payload =>
        refine (runs_record (f := .ping ack payload) trivial none).trans ?_
        dsimp only
        split
        · exact .refl _
        · exact runs_quiet (e := .sent none .connection (.ping true payload)) trivial
    | goAway last r data =>
        exact (runs_record (f := .goAway last r data) trivial _).trans (runs_recvGoAway r last)
    | invalid g =>
        exact (runs_record (f := .invalid g) trivial _).trans
          (runs_handleMessage (handles_recvInvalidFrame g))
    | priority id => exact runs_record (f := .priority id) trivial _
  · rw [if_neg hfirst]
    refine runs_protoError_received _ hobj fun _ s hs => ?_
    subst hs
    have h : ¬(c.remoteSettings || !s.ack) = true := hfirst
    cases hack : s.ack with
    | true => rfl
    | false =>
        rw [hack] at h
        simp at h

/-! ## Steps -/

/-- The guard at a step: what a SETTINGS ack finds, and a close from outside. -/
def Finds (G : Session.Guard) (c : Connection) : Step → Prop
  | .receive (.settings s) => s.ack = true → c.remoteSettings = true →
      c.settingsProcessed = false → ∀ o ∈ c.session.values, G.ack (c.session.cells o)
  | .control _ close => close = true → c.session.failed = true ∨ G.shut
  | .forceClose => c.session.failed = true ∨ G.shut
  | _ => True

/-- No assumption. -/
def anyRun : Session.Guard := ⟨fun _ => True, True⟩

theorem finds_anyRun (c : Connection) (a : Step) : Finds anyRun c a := by
  unfold Finds
  split
  · exact fun _ _ _ _ _ => trivial
  · exact fun _ => .inr trivial
  · exact .inr trivial
  · trivial

theorem runs_ackErrors : Runs G c ({ c with ackErrors := [] }.handleAckErrors c.ackErrors) := by
  intro hc
  have hmid : ({ c with ackErrors := [] } : Connection).during [] c.ackErrors = c.session := rfl
  refine steps_ackErrors hc.anomalies ?_ ?_
  · rw [hmid]
  · rw [hmid]
    exact hc.good

theorem runs_control (goAway : Option (StreamId × Reason × Bytes)) {close : Bool}
    (hG : close = true → c.session.failed = true ∨ G.shut) :
    Runs G c (c.step (.control goAway close)) := by
  cases goAway with
  | none =>
      show Runs G c (if close then c.ioClose else c)
      split
      · next hclose => exact runs_ioClose (hG hclose)
      · exact .refl c
  | some x =>
      have h1 : Runs G c (c.encodeCon (.goAway x.1 x.2.1 x.2.2)) :=
        runs_quiet (e := .sent none .connection (.goAway x.1 x.2.1 x.2.2)) trivial
      show Runs G c (if close then (c.encodeCon _).ioClose else c.encodeCon _)
      split
      · next hclose => exact h1.trans (runs_ioClose (hG hclose))
      · exact h1

theorem runs_dropSender (i : Nat) : Runs G c (c.step (.dropSender i)) := by
  unfold step
  dsimp only
  cases c.senders[i]? with
  | none => exact .refl c
  | some s =>
      have h1 : Runs G c { c with senders := c.senders.eraseIdx i } :=
        runs_senders fun t ht => .inl (List.mem_of_mem_eraseIdx ht)
      dsimp only
      split
      · exact h1.trans (runs_cancelCapacityWait _)
      · exact h1

theorem runs_pollSender (io : Nat → IoTurn) (r : IoReady) (i : Nat) :
    Runs G c (c.step (.pollSender io r i)) := by
  refine .of_clean fun hc => ?_
  unfold step
  dsimp only
  cases hs : c.senders[i]? with
  | none => exact .refl c
  | some s => exact runs_settle i (pollSender_sends hc (List.mem_of_getElem? hs))

/-- Every step of a connection is a run of its session. -/
theorem runs_step {a : Step} (ha : c.Enabled a) (hG : Finds G c a) : Runs G c (c.step a) := by
  cases a with
  | receive f =>
      refine runs_receive ha fun s hs => ?_
      subst hs
      exact hG
  | stop s => exact runs_stop s
  | shutdown => exact runs_disconnect
  | ackError => exact runs_ackErrors
  | control goAway close => exact runs_control goAway hG
  | sendInformational o status fields => exact runs_sendInformational ha.1 status fields
  | sendResponse o status fields eof => exact runs_sendResponse ha status fields eof
  | sendTrailers o fields => exact runs_sendTrailers ha fields
  | sendPages io o data eof => exact .of_clean fun hc => runs_started (sendPages_sends hc ha data)
  | pollSender io r i => exact runs_pollSender io r i
  | dropSender i => exact runs_dropSender i
  | pollSendCapacity o =>
      exact .same (pollSendCapacity_flags c o).2 (pollSendCapacity_flags c o).1
  | cancelCapacityWait o => exact runs_cancelCapacityWait o
  | capacityTimeout o => exact runs_capacityTimeout ha
  | reset o r => exact runs_reset ha r
  | consume i sz => exact runs_consume i sz
  | addCapacity i j => exact runs_addCapacity i j
  | dropCapacity i => exact runs_dropCapacity i
  | emptyCapacity o => exact runs_emptyCapacity ha
  | request r => exact runs_request ha r
  | pollRequest w r => exact runs_pollRequest ha w r
  | dropRequest w => exact runs_dropRequest w
  | reserve => exact runs_reserveStream ha
  | reservationSend r => exact runs_reservationSend ha.1 ha.2 r
  | reservationDrop => exact runs_releaseReserved ha.1 ha.2
  | inflight o => exact runs_flags rfl
  | disconnectOnDrop o => exact runs_flags rfl
  | streamDrop o => exact runs_streamDrop ha
  | sendStreamDrop o => exact runs_sendStreamDrop ha
  | recvStreamDrop o => exact runs_recvStreamDrop ha
  | takeLocalClose o => exact runs_flags rfl
  | startDisconnect => exact runs_startDisconnect
  | forceClose => exact runs_ioClose hG
  | ping payload => exact runs_quiet (e := .sent none .connection (.ping false payload)) trivial
  | settingsTimer =>
      show Runs G c (if _ then _ else _)
      split
      · exact .same rfl rfl
      · exact .refl c
  | tick d => exact .same rfl rfl
  | reorder l => exact .step fun hc => ⟨hc.anomalies, .reorder ha⟩

/-! ## Runs -/

/-- The first frames of a connection, and its receive window. -/
theorem new_window (server : Bool) (config : ServiceConfig) (secure skipStreams : Bool) :
    (new server config secure skipStreams).recvWindow =
        ⟨defaultInitialWindowSize + total Event.conGrant
          (new server config secure skipStreams).log⟩ ∧
      (new server config secure skipStreams).recvWindow.size ≤
        max (config.connectionWindowSz : Int) defaultInitialWindowSize ∧
      ((new server config secure skipStreams).log =
          [.sent none .connection (.settings config.settings)] ∨
        ∃ n, (new server config secure skipStreams).log =
          [.sent none .connection (.windowUpdate StreamId.con n),
            .sent none .connection (.settings config.settings)]) := by
  have hsafe : (⟨defaultInitialWindowSize⟩ : Window).UpdateSafe 0 config.connectionWindowSz :=
    updateSafe (by show _ ≤ (65535 : Int); omega) (by omega) config.connectionWindowSz_lt
  unfold new
  dsimp only
  rcases Window.update_spec hsafe config.connectionWindowSzThreshold_lt with
    ⟨he, -⟩ | ⟨n, he, h1, h2, -⟩
  · rw [he]
    exact ⟨rfl, Int.le_max_right _ _, .inl rfl⟩
  · rw [he]
    refine ⟨?_, ?_, .inr ⟨n, rfl⟩⟩
    · show Window.mk _ = Window.mk (_ + ((n + 0 : Nat) : Int))
      rw [Nat.add_zero, h2]
    · show (config.connectionWindowSz : Int) - (0 : Nat) ≤ _
      omega

/-- The first frames of a connection are nothing to its streams. -/
structure FirstFrames (l : List Event) : Prop where
  openings : l.filterMap Event.opening = []
  conCredit : total Event.conCredit l = 0
  credit : ∀ o, total (Event.credit o) l = 0
  sentData : total Event.sentData l = 0
  sentOn : ∀ o, total (Event.sentOn o) l = 0
  gotData : total Event.gotData l = 0
  initWindow : initWindow l = defaultInitialWindowSize
  maxFrame : maxFrame l = defaultMaxFrameSize
  lawful : Lawful l
  phase : ∀ o, phase o l = .start
  words : ∀ o, words o l = []

theorem firstFrames {l : List Event} {s : Settings}
    (h : l = [.sent none .connection (.settings s)] ∨
    ∃ n, l = [.sent none .connection (.windowUpdate StreamId.con n),
      .sent none .connection (.settings s)]) : FirstFrames l := by
  rcases h with rfl | ⟨n, rfl⟩
  · refine ⟨rfl, rfl, fun _ => rfl, rfl, fun _ => rfl, rfl, rfl, rfl, ?_, fun _ => rfl, fun _ =>
      rfl⟩
    refine ⟨trivial, Nat.zero_le _, fun o w d he => ?_⟩
    cases he
  · refine ⟨rfl, rfl, fun _ => rfl, rfl, fun _ => rfl, rfl, rfl, rfl, ?_, fun _ => rfl, fun _ =>
      rfl⟩
    refine ⟨⟨trivial, Nat.zero_le _, fun o w d he => ?_⟩, Nat.zero_le _, fun o w d he => ?_⟩
    · cases he
    · cases he

/-- A new connection is clean. -/
theorem new_clean (s : Start) : (new s.server s.config s.secure s.skipStreams).Clean := by
  obtain ⟨hw, hle, hlog⟩ := new_window s.server s.config s.secure s.skipStreams
  have hf := firstFrames hlog
  have hw' : (new s.server s.config s.secure s.skipStreams).recvWindow.size =
      defaultInitialWindowSize + total Event.conGrant
        (new s.server s.config s.secure s.skipStreams).log := congrArg Window.size hw
  have hnone : ∀ {o : Nat} {P : Prop}, o < 0 → P := fun h => absurd h (Nat.not_lt_zero _)
  refine ⟨rfl, ⟨?table, ?sends, ?credit, ?emission, ?begins⟩⟩
  case table =>
    exact
      { bound := fun o ho => by cases ho
        nodup := List.nodup_nil
        key := fun e he => by cases he
        live := fun o ho => hnone ho
        remote := fun o ho => hnone ho
        mono := fun o p _ hp => hnone hp
        heard := fun _ o ho => hnone ho
        given := fun _ => ⟨rfl, fun o ho => hnone ho⟩
        openings := by
          refine hf.openings.trans ?_
          show [] = if s.server then [] else []
          rw [ite_self]
        activeRemote := by
          show 0 = if s.server then 0 else 0
          rw [ite_self]
        activeLocal := by
          show 0 = (if s.server then 0 else 0) + 0
          rw [ite_self]
        reserved := rfl
        unreserved := fun _ => rfl
        limit := fun m _ => Nat.zero_le m
        caps := fun c hc => by cases hc
        senders := fun o ho => by cases ho
        acking := fun o ho => by cases ho
        ackErrors := fun o ho => by cases ho }
  case sends =>
    exact
      { conLow := show (0 : Int) ≤ 65535 by decide
        conHigh := show (65535 : Int) < 2 ^ 31 by decide
        conBound := by
          show (65535 : Int) + total Event.sentData
              (new s.server s.config s.secure s.skipStreams).log ≤
            65535 + total Event.conCredit (new s.server s.config s.secure s.skipStreams).log
          rw [hf.sentData, hf.conCredit]
        con := by
          intro _
          show (65535 : Int) + total Event.sentData
              (new s.server s.config s.secure s.skipStreams).log =
            65535 + total Event.conCredit (new s.server s.config s.secure s.skipStreams).log
          rw [hf.sentData, hf.conCredit]
        stream := fun o ho => by cases ho
        high := fun o ho => by cases ho
        low := fun o ho => by cases ho
        windowSz := show 65535 < 2 ^ 31 by decide
        settings := .inl ⟨hf.initWindow, hf.maxFrame⟩
        fresh := fun o _ => ⟨hf.sentOn o, hf.credit o⟩
        lawful := hf.lawful }
  case credit =>
    exact
      { conLow := by
          show 0 ≤ (new s.server s.config s.secure s.skipStreams).recvWindow.size
          omega
        conBound := by
          show (new s.server s.config s.secure s.skipStreams).recvWindow.size + (0 : Nat) ≤ _
          rw [Int.natCast_zero, Int.add_zero]
          exact hle
        conHeld := rfl
        con := by
          intro _
          show (new s.server s.config s.secure s.skipStreams).recvWindow.size + total Event.gotData
            (new s.server s.config s.secure s.skipStreams).log = _
          rw [hf.gotData, Int.natCast_zero, Int.add_zero]
          exact hw'
        held := fun o ho => hnone ho
        low := fun o ho => hnone ho
        high := fun o ho => hnone ho
        sum := fun o ho => hnone ho
        waits := fun o ho => hnone ho
        acking := List.nodup_nil
        begun := fun h => absurd rfl h }
  case emission =>
    exact
      { sane := fun o => by
          show phase o (new s.server s.config s.secure s.skipStreams).log ≠ .bad
          rw [hf.phase]
          decide
        live := fun o ho => by cases ho
        idle := fun o ho => hnone ho
        payload := fun o ho => hnone ho
        fresh := fun o _ => hf.phase o }
  case begins => exact ⟨fun o _ => hf.words o, fun _ o ho => hnone ho⟩

/-- The invariant of all runs. -/
theorem Reachable.clean {s : Start} {c : Connection} (h : Reachable s c) : c.Clean := by
  induction h with
  | new => exact new_clean s
  | step a _ ha ih => exact (runs_step (G := anyRun) ha (finds_anyRun _ a)).clean ih

end Connection

end NtexH2
