/-
  Connection/RefinesStream.lean --- the methods of a stream are session steps.
-/
import NtexH2.Connection.Refines

set_option autoImplicit false

namespace NtexH2

open Session (Steps)

namespace Session

theorem streamTopUp_recvWindow (k : Session) (o : Nat) :
    (k.streamTopUp o).recvWindow = k.recvWindow := by
  unfold Session.streamTopUp
  split <;> rfl

end Session

namespace Connection

variable {G : Session.Guard} {c c' : Connection}

theorem Runs.created_le (h : Runs G c c') (hc : c.Clean) : c.created ≤ c'.created :=
  (Session.Steps.grows (h hc).2).created

/-- Another function, on an object that exists. -/
theorem Runs.next {c'' : Connection} {o : Nat} (h : Runs G c c') (ho : o < c.created)
    (h' : o < c'.created → Runs G c' c'') : Runs G c c'' :=
  .of_clean fun hc => h.trans (h' (Nat.lt_of_lt_of_le ho (h.created_le hc)))

/-! ## Halves -/

theorem runs_quiet {e : Event} (he : e.Quiet) : Runs G c (c.push e) :=
  .step fun hc => ⟨hc.anomalies, .quiet he⟩

/-- A change of flags. -/
theorem runs_flags {o : Nat} {f : Stream → Stream} (h : (f (c.objs o)).cell = (c.objs o).cell) :
    Runs G c (c.modify o f) :=
  .same rfl (session_modify_same h)

/-- Halves that close are `close` of the session. -/
theorem runs_close {o : Nat} (ho : o < c.created) {f : Stream → Stream} {r w : Bool}
    (hrw : w = true → r = true) (hf : (f (c.objs o)).cell = (c.objs o).cell.close r w) :
    Runs G c ((c.modify o f).reviewState o) := by
  refine .step fun hc => ?_
  obtain ⟨hs, ha⟩ := session_review hc.good.table ho hf
  rw [hs, ha]
  exact ⟨hc.anomalies, .close ho hrw⟩

/-- The receive half closes. -/
theorem runs_stateRecvClose {o : Nat} (ho : o < c.created) (r : Option Reason) :
    Runs G c (c.stateRecvClose o r) :=
  runs_close (r := true) (w := false) ho (fun h => by cases h) rfl

/-- RST_STREAM of the peer closes both halves. -/
theorem runs_remoteResetStream {o : Nat} (ho : o < c.created) (r : Reason) :
    Runs G c (c.remoteResetStream o r) :=
  runs_close (r := true) (w := true) ho (fun _ => rfl) rfl

theorem half_failed (h : HalfState) : (if h.isClosed then h else .closed none).half = .closed := by
  cases h <;> rfl

theorem runs_failed {o : Nat} (ho : o < c.created) (err : OperationError) :
    Runs G c (c.failed o err) := by
  refine runs_close (r := true) (w := true) ho (fun _ => rfl) ?_
  simp only [Stream.cell, Cell.close, half_failed, if_true]

/-- A stream that fails closes both halves. -/
theorem runs_setFailedStream {o : Nat} (ho : o < c.created) (err : OperationError) :
    Runs G c (c.setFailedStream o err) :=
  (runs_failed ho err).trans (runs_flags rfl)

theorem runs_dropStream_done {o : Nat} (ho : o < c.created) (hd : (c.objs o).cell.Done) :
    Runs G c (c.dropStream (c.objs o).id) := by
  refine .of_clean fun hc => ?_
  have hm : o ∉ c.session.values := fun hm => ((hc.good.table.live o ho).mp hm) hd
  obtain ⟨hs, ha⟩ := session_dropStream_none (query_done hc.good.table ho hm)
  exact .same ha hs

/-! ## Resets -/

/-- A stream with an open half is not done. -/
theorem not_done_of_open {s : Stream} (h : (!s.recv.isClosed || !s.send.isClosed) = true) :
    ¬s.cell.Done := by
  rw [done_iff]
  intro hd
  rw [Bool.and_eq_true] at hd
  simp [hd.1, hd.2] at h

/-- The reset of a stream of the map is `reset` of the session. -/
theorem session_resetSilent {o : Nat} (h : c.session.Table) (ho : o ∈ c.session.values)
    (r : Reason) : (c.resetSilent o r).1.session = c.session.reset o r ∧
      (c.resetSilent o r).1.anomalies = c.anomalies ∧ (c.resetSilent o r).2 = true := by
  have hlt := h.bound o ho
  have hop : (!(c.objs o).recv.isClosed || !(c.objs o).send.isClosed) = true := by
    apply Bool.not_eq_false _ |>.mp
    intro hf
    rw [Bool.or_eq_false_iff, Bool.not_eq_false', Bool.not_eq_false'] at hf
    exact ((h.live o hlt).mp ho) ((done_iff _).mpr (by rw [hf.1, hf.2]; rfl))
  unfold resetSilent
  rw [if_pos hop]
  have hp : (c.encode o .resetSilent (.reset (c.objs o).id r)).session.Table :=
    h.push (e := .sent (some o) .resetSilent (.reset (c.objs o).id r)) rfl
  obtain ⟨hs, ha⟩ := session_review (c := c.encode o .resetSilent (.reset (c.objs o).id r)) hp hlt
    (f := fun s => { s with
      recv := .closed (some r)
      send := .closed none
      error := some (.localReset r) }) (r := true) (w := true) rfl
  exact ⟨hs, ha, rfl⟩

/-- Of a stream that is done nothing is written and nothing changes. -/
theorem runs_resetSilent {o : Nat} (ho : o < c.created) (r : Reason) :
    Runs G c (c.resetSilent o r).1 := by
  refine .of_clean fun hc => ?_
  by_cases hm : o ∈ c.session.values
  · obtain ⟨hs, ha, -⟩ := session_resetSilent hc.good.table hm r
    refine .step fun hc => ?_
    rw [hs, ha]
    exact ⟨hc.anomalies, .reset hm⟩
  · have hd : (c.objs o).cell.Done :=
      not_not.mp fun hn => hm ((hc.good.table.live o ho).mpr hn)
    unfold resetSilent
    rw [if_neg fun hop => not_done_of_open hop hd]
    exact .refl c

/-- The record that a reset leaves is no part of the session. -/
theorem runs_resetWith {o : Nat} (ho : o < c.created) (r : Reason) (err : StreamError) :
    Runs G c (c.resetWith o r err).1 := by
  have hr := runs_resetSilent (G := G) ho r
  unfold resetWith
  dsimp only
  cases hres : c.resetSilent o r with
  | mk c1 b =>
      rw [hres] at hr
      cases b with
      | true =>
          dsimp only
          split
          · exact hr.trans (runs_flags rfl)
          · exact hr
      | false => exact hr

theorem runs_reset {o : Nat} (ho : o < c.created) (r : Reason) : Runs G c (c.reset o r).1 :=
  runs_resetWith ho r _

/-- A stream that has failed is done. -/
theorem failed_done {o : Nat} (hc : c.Clean) (ho : o < c.created) (err : OperationError) :
    ((c.failed o err).objs o).cell.Done := by
  obtain ⟨hs, -⟩ := session_review hc.good.table ho (f := fun s => { s with
      recv := if s.recv.isClosed then s.recv else .closed none
      send := if s.send.isClosed then s.send else .closed none
      error := some err
      failed := true }) (r := true) (w := true) (by
        simp only [Stream.cell, Cell.close, half_failed, if_true])
  have hcell : ((c.failed o err).objs o).cell = (c.failed o err).session.cells o := rfl
  rw [hcell]
  unfold failed
  rw [hs, Session.close_cells_self]
  exact ⟨rfl, rfl⟩

theorem runs_capacityTimeout {o : Nat} (ho : o < c.created) : Runs G c (c.capacityTimeout o) := by
  have h1 : Runs G c (c.modify o fun s => { s with capacityTimer := false }) := runs_flags rfl
  unfold capacityTimeout
  dsimp only
  split
  · exact h1
  · refine (h1.next ho fun ho => runs_resetWith ho .cancel .capacityTimeout).next ho fun ho => ?_
    refine .of_clean fun hc => (runs_failed ho (.stream .capacityTimeout)).next ho fun ho' => ?_
    exact runs_dropStream_done ho' (failed_done hc ho _)

/-! ## Windows in their range -/

/-- A window in its range can be topped up without an overflow. -/
theorem updateSafe {w : Window} {cap max : Nat} (hlow : min 0 ((max : Int) - 65535) ≤ w.size)
    (hcap : cap < 2 ^ 31) (hmax : max < 2 ^ 31) : w.UpdateSafe cap max := by
  unfold Window.UpdateSafe InI32
  omega

/-- Within its range `update` is the announcement of the session. -/
theorem update_eq {w : Window} {cap max threshold : Nat} (h : w.UpdateSafe cap max)
    (hthr : threshold < 2 ^ 31) :
    w.update cap max threshold =
      if Session.announces max threshold w.size cap then
        (⟨max - cap⟩, some ((max : Int) - w.size - cap).toNat)
      else (w, none) := by
  rcases Window.update_spec h hthr with ⟨he, hc⟩ | ⟨n, he, h1, h2, h3⟩
  · have hn : ¬Session.announces max threshold w.size cap := not_not.mpr hc
    rw [he, if_neg hn]
  · have hy : Session.announces max threshold w.size cap := by
      unfold Session.announces
      omega
    rw [he, if_pos hy]
    congr 2
    omega

/-- `data_received`, in range. -/
theorem session_dataReceived {n : Nat} (hn : (n : Int) ≤ c.recvWindow.size)
    (hw : c.recvWindow.size < 2 ^ 31) (hs : c.recvSize + n < 2 ^ 32) :
    (c.dataReceived n).session = { c.session with
      recvWindow := c.recvWindow.size - n
      recvSize := c.recvSize + n } ∧ (c.dataReceived n).anomalies = c.anomalies := by
  have hdec : c.recvWindow.DecSafe n := by
    unfold Window.DecSafe InI32
    omega
  unfold dataReceived
  rw [note_anomalies c (by simpa using hdec)]
  dsimp only
  rw [note_anomalies c (by simpa using hs)]
  refine ⟨?_, rfl⟩
  show ({ c.session with
    recvWindow := (c.recvWindow.dec n).size
    recvSize := (c.recvSize + n) % 2 ^ 32 } : Session) = _
  rw [Window.dec_size hdec, Nat.mod_eq_of_lt hs]

/-- `data_consumed`, in range. -/
theorem session_dataConsumed {n : Nat} (hn : n ≤ c.recvSize) (hs : c.recvSize < 2 ^ 32)
    (hr : c.recvSize - n < 2 ^ 31) (hw : 0 ≤ c.recvWindow.size) :
    (c.dataConsumed n).session =
      ({ c.session with recvSize := c.recvSize - n } : Session).topUp ∧
      (c.dataConsumed n).anomalies = c.anomalies := by
  have hu : u32 ((c.recvSize : Int) - n) = c.recvSize - n := by
    rw [u32_of_range (by omega) (by omega)]
    omega
  have hsafe : c.recvWindow.UpdateSafe (c.recvSize - n) c.config.connectionWindowSz :=
    updateSafe (by omega) hr c.config.connectionWindowSz_lt
  unfold dataConsumed
  rw [note_anomalies c (by simpa using hn)]
  dsimp only
  rw [hu, note_anomalies _ (by simpa using hsafe)]
  dsimp only
  rw [update_eq hsafe c.config.connectionWindowSzThreshold_lt]
  unfold Session.topUp
  by_cases ha : Session.announces c.config.connectionWindowSz c.config.connectionWindowSzThreshold
      c.recvWindow.size (c.recvSize - n)
  · have ha' : Session.announces c.session.config.connectionWindowSz
        c.session.config.connectionWindowSzThreshold c.session.recvWindow (c.recvSize - n) := ha
    simp only [ha, ha', if_true]
    exact ⟨rfl, rfl⟩
  · have ha' : ¬Session.announces c.session.config.connectionWindowSz
        c.session.config.connectionWindowSzThreshold c.session.recvWindow (c.recvSize - n) := ha
    rw [if_neg ha, if_neg ha']
    exact ⟨rfl, rfl⟩

/-- The window of a stream, announced again. -/
theorem session_reclaim {o n : Nat} (hsize : (c.objs o).recvSize = n) (hn : n < 2 ^ 31)
    (hlow : min 0 ((c.config.windowSz : Int) - 65535) ≤ (c.objs o).recvWindow.size) :
    (c.reclaim o n).session = c.session.streamTopUp o ∧
      (c.reclaim o n).anomalies = c.anomalies := by
  have hsafe : (c.objs o).recvWindow.UpdateSafe n c.config.windowSz :=
    updateSafe hlow hn c.config.windowSz_lt
  have hrecv : (c.session.cells o).recv = .closed ↔ (c.objs o).recv.isClosed = true :=
    HalfState.half_closed
  have hcw : (c.session.cells o).recvWindow = (c.objs o).recvWindow.size := rfl
  have hcs : (c.session.cells o).recvSize = n := hsize
  unfold reclaim Session.streamTopUp
  dsimp only
  by_cases hcl : (c.objs o).recv.isClosed = true
  · have hnot : ¬((c.session.cells o).recv ≠ .closed ∧ Session.announces c.session.config.windowSz
        c.session.config.windowSzThreshold (c.session.cells o).recvWindow
          (c.session.cells o).recvSize) := fun h => h.1 (hrecv.mpr hcl)
    rw [if_pos hcl, if_neg hnot]
    exact ⟨rfl, rfl⟩
  · rw [if_neg hcl, note_anomalies c (by simpa using hsafe),
      update_eq hsafe c.config.windowSzThreshold_lt]
    by_cases ha : Session.announces c.config.windowSz c.config.windowSzThreshold
        (c.objs o).recvWindow.size n
    · have hyes : (c.session.cells o).recv ≠ .closed ∧ Session.announces c.session.config.windowSz
          c.session.config.windowSzThreshold (c.session.cells o).recvWindow
            (c.session.cells o).recvSize := by
        rw [hcw, hcs]
        exact ⟨fun h => hcl (hrecv.mp h), ha⟩
      rw [if_pos hyes, if_pos ha]
      dsimp only
      unfold encodeWindowUpdate
      have hop : (!((c.modify o fun s => { s with
          recvWindow := ⟨(c.config.windowSz : Int) - n⟩ }).objs o).recv.isClosed) = true := by
        simpa [modify] using hcl
      rw [note_anomalies _ hop]
      dsimp only
      refine ⟨?_, rfl⟩
      have hm : (c.modify o fun s => { s with
          recvWindow := ⟨(c.config.windowSz : Int) - n⟩ }).session =
            c.session.modify o fun s => { s with
              recvWindow := c.session.config.windowSz - s.recvSize } := by
        apply session_modify
        simp only [Stream.cell, hsize]
        rfl
      have hid : ((c.modify o fun s => { s with
          recvWindow := ⟨(c.config.windowSz : Int) - n⟩ }).objs o).id = (c.objs o).id := by
        simp [modify]
      show (Connection.push _ _).session = _
      rw [session_push, hm, hid, hcw, hcs]
      rfl
    · have hno : ¬((c.session.cells o).recv ≠ .closed ∧
          Session.announces c.session.config.windowSz c.session.config.windowSzThreshold
            (c.session.cells o).recvWindow (c.session.cells o).recvSize) := by
        rw [hcw, hcs]
        exact fun h => ha h.2
      rw [if_neg hno, if_neg ha]
      exact ⟨rfl, rfl⟩

/-! ## Capacity -/

/-- `received_data_consumed`, in range. -/
theorem session_receivedDataConsumed {o n : Nat} (hn : n ≤ (c.objs o).recvSize)
    (hle : (c.objs o).recvSize ≤ c.recvSize) (hs : c.recvSize < 2 ^ 31)
    (hw : 0 ≤ c.recvWindow.size)
    (hlow : min 0 ((c.config.windowSz : Int) - 65535) ≤ (c.objs o).recvWindow.size) :
    (c.receivedDataConsumed o n).session = c.session.release o n c.caps ∧
      (c.receivedDataConsumed o n).anomalies = c.anomalies := by
  have hu : u32 (((c.objs o).recvSize : Int) - n) = (c.objs o).recvSize - n := by
    rw [u32_of_range (by omega) (by omega)]
    omega
  unfold receivedDataConsumed
  dsimp only
  rw [note_anomalies c (by simpa using hn), hu]
  generalize hc1 : c.modify o (fun s => { s with recvSize := (c.objs o).recvSize - n }) = c1
  have hs1 : c1.session = c.session.modify o fun s => { s with recvSize := s.recvSize - n } := by
    rw [← hc1]
    exact session_modify rfl
  have hobj : (c1.objs o).recvSize = (c.objs o).recvSize - n ∧
      (c1.objs o).recvWindow = (c.objs o).recvWindow := by
    rw [← hc1]
    simp [modify]
  have hcfg : c1.config = c.config ∧ c1.anomalies = c.anomalies := by
    rw [← hc1]
    exact ⟨rfl, rfl⟩
  obtain ⟨hs2, ha2⟩ := session_reclaim (c := c1) hobj.1 (by omega)
    (by rw [hcfg.1, hobj.2]; exact hlow)
  generalize c1.reclaim o ((c.objs o).recvSize - n) = c2 at hs2 ha2
  have hsize : c2.recvSize = c.recvSize := by
    have : c2.recvSize = c2.session.recvSize := rfl
    rw [this, hs2, Session.streamTopUp_size, hs1]
    rfl
  have hwin : c2.recvWindow.size = c.recvWindow.size := by
    have : c2.recvWindow.size = c2.session.recvWindow := rfl
    rw [this, hs2, Session.streamTopUp_recvWindow, hs1]
    rfl
  obtain ⟨hs3, ha3⟩ := session_dataConsumed (c := c2) (n := n) (by omega) (by omega) (by omega)
    (by omega)
  refine ⟨?_, ha3.trans (ha2.trans hcfg.2)⟩
  rw [hs3, hs2, hs1]
  unfold Session.release
  dsimp only
  rw [Session.streamTopUp_size, hsize]
  rfl

/-- Octets that a `Capacity` value releases. -/
theorem runs_release {o n : Nat} {caps : List Capacity} (ho : o < c.created)
    (hcaps : ∀ p, heldBy p caps + (if p = o then n else 0) = heldBy p c.caps)
    (hheld : held caps + n = held c.caps) (hall : ∀ cap ∈ caps, cap.stream < c.created) :
    Runs G c ({ c with caps := caps }.receivedDataConsumed o n) := by
  refine .step fun hc => ?_
  have hcr := hc.good.credit
  have hsz : (c.objs o).recvSize = heldBy o c.caps := hcr.held o ho
  have hle : (c.objs o).recvSize ≤ c.recvSize := hcr.cell_recvSize_le ho
  have hlt : c.recvSize < 2 ^ 31 := hcr.recvSize_lt
  have hn := hcaps o
  simp only [if_true] at hn
  obtain ⟨hs, ha⟩ := session_receivedDataConsumed (c := { c with caps := caps }) (o := o) (n := n)
    (by show n ≤ (c.objs o).recvSize; omega) hle hlt hcr.conLow (hcr.low o ho)
  rw [hs, ha]
  exact ⟨hc.anomalies, .release ho hcaps hheld hall⟩

theorem heldBy_set {caps : List Capacity} {i : Nat} {cap : Capacity} (h : caps[i]? = some cap)
    (n : Nat) (p : Nat) :
    heldBy p (caps.set i { cap with size := n }) + (if cap.stream = p then cap.size else 0) =
      heldBy p caps + if cap.stream = p then n else 0 := by
  induction caps generalizing i with
  | nil => cases h
  | cons a l ih =>
      cases i with
      | zero =>
          simp only [List.getElem?_cons_zero, Option.some.injEq] at h
          subst h
          simp only [List.set_cons_zero, heldBy, List.map_cons, List.sum_cons]
          split <;> omega
      | succ i =>
          simp only [List.getElem?_cons_succ] at h
          have := ih h
          simp only [List.set_cons_succ, heldBy, List.map_cons, List.sum_cons] at this ⊢
          omega

theorem held_set {caps : List Capacity} {i : Nat} {cap : Capacity} (h : caps[i]? = some cap)
    (n : Nat) :
    held (caps.set i { cap with size := n }) + cap.size = held caps + n := by
  induction caps generalizing i with
  | nil => cases h
  | cons a l ih =>
      cases i with
      | zero =>
          simp only [List.getElem?_cons_zero, Option.some.injEq] at h
          subst h
          simp only [List.set_cons_zero, held, List.map_cons, List.sum_cons]
          omega
      | succ i =>
          simp only [List.getElem?_cons_succ] at h
          have := ih h
          simp only [List.set_cons_succ, held, List.map_cons, List.sum_cons] at this ⊢
          omega

theorem heldBy_eraseIdx {caps : List Capacity} {i : Nat} {cap : Capacity}
    (h : caps[i]? = some cap) (p : Nat) :
    heldBy p (caps.eraseIdx i) + (if cap.stream = p then cap.size else 0) = heldBy p caps := by
  induction caps generalizing i with
  | nil => cases h
  | cons a l ih =>
      cases i with
      | zero =>
          simp only [List.getElem?_cons_zero, Option.some.injEq] at h
          subst h
          simp only [List.eraseIdx_cons_zero, heldBy, List.map_cons, List.sum_cons]
          omega
      | succ i =>
          simp only [List.getElem?_cons_succ] at h
          have := ih h
          simp only [List.eraseIdx_cons_succ, heldBy, List.map_cons, List.sum_cons] at this ⊢
          omega

theorem held_eraseIdx {caps : List Capacity} {i : Nat} {cap : Capacity}
    (h : caps[i]? = some cap) : held (caps.eraseIdx i) + cap.size = held caps := by
  induction caps generalizing i with
  | nil => cases h
  | cons a l ih =>
      cases i with
      | zero =>
          simp only [List.getElem?_cons_zero, Option.some.injEq] at h
          subst h
          simp only [List.eraseIdx_cons_zero, held, List.map_cons, List.sum_cons]
          omega
      | succ i =>
          simp only [List.getElem?_cons_succ] at h
          have := ih h
          simp only [List.eraseIdx_cons_succ, held, List.map_cons, List.sum_cons] at this ⊢
          omega

/-- Octets that are consumed are given back to both windows. -/
theorem runs_consume (i sz : Nat) : Runs G c (c.consume i sz) := by
  refine .of_clean fun hc => ?_
  unfold consume
  cases hcap : c.caps[i]? with
  | none => exact .refl c
  | some cap =>
      have hmem := List.mem_of_getElem? hcap
      dsimp only
      split
      · next hle =>
          have hby := heldBy_set hcap (cap.size - sz)
          have hall := held_set hcap (cap.size - sz)
          refine runs_release (hc.good.table.caps cap hmem) ?_ (by omega) ?_
          · intro p
            have := hby p
            by_cases hp : cap.stream = p
            · simp only [hp, if_true] at this ⊢
              omega
            · simp only [hp, Ne.symm hp, if_false] at this ⊢
              omega
          · intro d hd
            rcases List.mem_or_eq_of_mem_set hd with hd | rfl
            · exact hc.good.table.caps d hd
            · exact hc.good.table.caps cap hmem
      · exact .refl c

/-- A capacity that is dropped gives back what it still holds. -/
theorem runs_dropCapacity (i : Nat) : Runs G c (c.dropCapacity i) := by
  refine .of_clean fun hc => ?_
  unfold dropCapacity
  cases hcap : c.caps[i]? with
  | none => exact .refl c
  | some cap =>
      have hmem := List.mem_of_getElem? hcap
      have hby := heldBy_eraseIdx hcap
      have hall := held_eraseIdx hcap
      have hsub : ∀ d ∈ c.caps.eraseIdx i, d.stream < c.created := fun d hd =>
        hc.good.table.caps d (List.mem_of_mem_eraseIdx hd)
      dsimp only
      split
      · refine runs_release (hc.good.table.caps cap hmem) ?_ hall hsub
        intro p
        have := hby p
        by_cases hp : cap.stream = p
        · simp only [hp, if_true] at this ⊢
          omega
        · simp only [hp, Ne.symm hp, if_false] at this ⊢
          omega
      · next hz =>
          refine .step fun hc => ⟨hc.anomalies, ?_⟩
          have hsame : held (c.caps.eraseIdx i) = held c.caps := by omega
          refine .caps ?_ hsame hsub
          intro p
          have := hby p
          show heldBy p (c.caps.eraseIdx i) = heldBy p c.caps
          split at this <;> omega

theorem runs_emptyCapacity {o : Nat} (ho : o < c.created) : Runs G c (c.emptyCapacity o) := by
  refine .step fun hc => ⟨hc.anomalies, ?_⟩
  refine .caps ?_ ?_ ?_
  · intro p
    show heldBy p (c.caps ++ [⟨o, 0⟩]) = heldBy p c.caps
    rw [heldBy_append]
    simp [heldBy]
  · show held (c.caps ++ [⟨o, 0⟩]) = held c.caps
    rw [held_append]
    simp [held]
  · intro d hd
    rcases List.mem_append.mp hd with hd | hd
    · exact hc.good.table.caps d hd
    · rw [List.mem_singleton.mp hd]
      exact ho

/-- A `Capacity` value takes over another one of its stream. -/
theorem runs_addCapacity (i j : Nat) : Runs G c (c.addCapacity i j) := by
  refine .of_clean fun hc => ?_
  unfold addCapacity
  cases ha : c.caps[i]? with
  | none => exact .refl c
  | some a =>
      cases hb : c.caps[j]? with
      | none => exact .refl c
      | some b =>
          dsimp only
          split
          · next hij =>
              have hset : (c.caps.set i { a with size := a.size + b.size })[j]? = some b := by
                rw [List.getElem?_set_ne hij.1, hb]
              have h1 := held_set ha (a.size + b.size)
              have h2 := held_eraseIdx hset
              have hlt : a.size + b.size < 2 ^ 32 := by
                have h3 := hc.good.credit.recvSize_lt
                have h4 := hc.good.credit.conHeld
                have h5 := held_set ha 0
                have hj : (c.caps.set i { a with size := 0 })[j]? = some b := by
                  rw [List.getElem?_set_ne hij.1, hb]
                have h6 := held_eraseIdx hj
                have h7 : c.session.recvSize = held c.caps := h4
                omega
              rw [note_anomalies c (by simpa using hlt), Nat.mod_eq_of_lt hlt]
              refine .step fun hc => ⟨hc.anomalies, ?_⟩
              refine .caps ?_ ?_ ?_
              · intro p
                have h3 := heldBy_set ha (a.size + b.size) p
                have h4 := heldBy_eraseIdx hset p
                show heldBy p ((c.caps.set i { a with size := a.size + b.size }).eraseIdx j) =
                  heldBy p c.caps
                by_cases hp : b.stream = p
                · have hpa : a.stream = p := hij.2.trans hp
                  rw [if_pos hpa, if_pos hpa] at h3
                  rw [if_pos hp] at h4
                  omega
                · have hpa : a.stream ≠ p := fun ha => hp (hij.2.symm.trans ha)
                  rw [if_neg hpa, if_neg hpa] at h3
                  rw [if_neg hp] at h4
                  omega
              · show held ((c.caps.set i { a with size := a.size + b.size }).eraseIdx j) =
                  held c.caps
                omega
              · intro d hd
                have hd' := List.mem_of_mem_eraseIdx hd
                rcases List.mem_or_eq_of_mem_set hd' with hd' | rfl
                · exact hc.good.table.caps d hd'
                · exact hc.good.table.caps a (List.mem_of_getElem? ha)
          · exact .refl c

end Connection

end NtexH2
