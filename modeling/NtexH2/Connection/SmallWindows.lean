/-
  Connection/SmallWindows.lean --- windows whose threshold is zero (src/config.rs,
  `set_initial_window_size`, `set_initial_connection_window_size`).

  The threshold of a window is a third or a quarter of it, rounded down.  A window
  of a few octets has a threshold of zero, and then an update is announced that
  gives nothing back.
-/
import NtexH2.Connection.Refill
import NtexH2.Connection.ClosedStreams

set_option autoImplicit false

namespace NtexH2

/-- What is asked of the thresholds that the setters compute: each rounds to zero exactly where a
third, or a quarter, of its window does.  The setters divide in `f32`, which is a few octets off
for windows above `2 ^ 24`. -/
structure ServiceConfig.Derived (cfg : ServiceConfig) : Prop where
  threshold : cfg.windowSzThreshold = 0 ↔ cfg.windowSz < 3
  conThreshold : cfg.connectionWindowSzThreshold = 0 ↔ cfg.connectionWindowSz < 4

namespace Session

variable {k : Session}

/-! ## Updates that give nothing back -/

/-- All octets are given back but those that the window has room for. -/
theorem release_empty {o n : Nat} (caps : List Capacity) (hr : (k.cells o).recv ≠ .closed)
    (ht : k.config.windowSzThreshold = 0) (hlt : (k.cells o).recvWindow < k.config.windowSz)
    (heq : (k.cells o).recvWindow + ((k.cells o).recvSize - n : Nat) = k.config.windowSz) :
    .sent (some o) .windowUpdate (.windowUpdate (k.cells o).id 0) ∈ (k.release o n caps).log := by
  have hcell : (k.released o n caps).cells o =
      { k.cells o with recvSize := (k.cells o).recvSize - n } := by
    rw [released_cells, if_pos rfl]
  have hyes : ((k.released o n caps).cells o).recv ≠ .closed ∧
      announces (k.released o n caps).config.windowSz (k.released o n caps).config.windowSzThreshold
        ((k.released o n caps).cells o).recvWindow ((k.released o n caps).cells o).recvSize := by
    rw [hcell]
    refine ⟨hr, ?_⟩
    show announces k.config.windowSz k.config.windowSzThreshold (k.cells o).recvWindow
      ((k.cells o).recvSize - n)
    unfold announces
    omega
  have hzero : ((k.released o n caps).config.windowSz -
      ((k.released o n caps).cells o).recvWindow -
        ((k.released o n caps).cells o).recvSize : Int).toNat = 0 := by
    rw [hcell]
    show ((k.config.windowSz : Int) - (k.cells o).recvWindow -
      ((k.cells o).recvSize - n : Nat)).toNat = 0
    omega
  rw [release_eq]
  have hlog : .sent (some o) .windowUpdate (.windowUpdate (k.cells o).id 0) ∈
      ((k.released o n caps).streamTopUp o).log := by
    unfold streamTopUp
    rw [if_pos hyes, hzero, hcell]
    exact List.mem_cons_self
  unfold topUp
  split
  · exact List.mem_cons_of_mem _ hlog
  · exact hlog

/-- More octets are left than the window has room for. -/
theorem release_none {o n : Nat} (caps : List Capacity) (ht : k.config.windowSzThreshold = 0)
    (hgt : (k.config.windowSz : Int) <
      (k.cells o).recvWindow + ((k.cells o).recvSize - n : Nat)) :
    (k.release o n caps).cells o = { k.cells o with recvSize := (k.cells o).recvSize - n } := by
  have hcell : (k.released o n caps).cells o =
      { k.cells o with recvSize := (k.cells o).recvSize - n } := by
    rw [released_cells, if_pos rfl]
  have hno : ¬announces (k.released o n caps).config.windowSz
      (k.released o n caps).config.windowSzThreshold ((k.released o n caps).cells o).recvWindow
        ((k.released o n caps).cells o).recvSize := by
    rw [hcell]
    show ¬announces k.config.windowSz k.config.windowSzThreshold (k.cells o).recvWindow
      ((k.cells o).recvSize - n)
    unfold announces
    omega
  rw [release_eq]
  have htop : ∀ k : Session, k.topUp.cells = k.cells := by
    intro k
    unfold topUp
    split
    · rfl
    · rfl
  rw [htop]
  unfold streamTopUp
  rw [if_neg fun h => hno h.2, hcell]

/-- The octets of the connection, but those that its window has room for, are given back. -/
theorem release_empty_con {o n : Nat} (caps : List Capacity)
    (ht : k.config.connectionWindowSzThreshold = 0)
    (hlt : k.recvWindow < k.config.connectionWindowSz)
    (heq : k.recvWindow + (k.recvSize - n : Nat) = k.config.connectionWindowSz) :
    .sent none .connection (.windowUpdate StreamId.con 0) ∈ (k.release o n caps).log := by
  have hmid : ((k.released o n caps).streamTopUp o).config = k.config ∧
      ((k.released o n caps).streamTopUp o).recvWindow = k.recvWindow ∧
      ((k.released o n caps).streamTopUp o).recvSize = k.recvSize - n := by
    unfold streamTopUp
    split
    · exact ⟨rfl, rfl, rfl⟩
    · exact ⟨rfl, rfl, rfl⟩
  rw [release_eq]
  generalize (k.released o n caps).streamTopUp o = m at hmid
  obtain ⟨h1, h2, h3⟩ := hmid
  have hyes : announces m.config.connectionWindowSz m.config.connectionWindowSzThreshold
      m.recvWindow m.recvSize := by
    rw [h1, h2, h3]
    unfold announces
    omega
  have hzero : ((m.config.connectionWindowSz : Int) - m.recvWindow - m.recvSize).toNat = 0 := by
    rw [h1, h2, h3]
    omega
  unfold topUp
  rw [if_pos hyes, hzero]
  exact List.mem_cons_self

theorem release_none_con {o n : Nat} (caps : List Capacity)
    (ht : k.config.connectionWindowSzThreshold = 0)
    (hgt : (k.config.connectionWindowSz : Int) < k.recvWindow + (k.recvSize - n : Nat)) :
    (k.release o n caps).recvWindow = k.recvWindow := by
  have hmid : ((k.released o n caps).streamTopUp o).config = k.config ∧
      ((k.released o n caps).streamTopUp o).recvWindow = k.recvWindow ∧
      ((k.released o n caps).streamTopUp o).recvSize = k.recvSize - n := by
    unfold streamTopUp
    split
    · exact ⟨rfl, rfl, rfl⟩
    · exact ⟨rfl, rfl, rfl⟩
  rw [release_eq]
  generalize (k.released o n caps).streamTopUp o = m at hmid
  obtain ⟨h1, h2, h3⟩ := hmid
  have hno : ¬announces m.config.connectionWindowSz m.config.connectionWindowSzThreshold
      m.recvWindow m.recvSize := by
    rw [h1, h2, h3]
    unfold announces
    omega
  unfold topUp
  rw [if_neg hno, h2]

theorem release_fields (k : Session) (o n : Nat) (caps : List Capacity) :
    (k.release o n caps).config = k.config ∧ (k.release o n caps).caps = caps ∧
      (k.release o n caps).created = k.created ∧
      ((k.release o n caps).cells o).recv = (k.cells o).recv := by
  have htop : ∀ k : Session, k.topUp.config = k.config ∧ k.topUp.caps = k.caps ∧
      k.topUp.created = k.created ∧ k.topUp.cells = k.cells := by
    intro k
    unfold topUp
    split
    · exact ⟨rfl, rfl, rfl, rfl⟩
    · exact ⟨rfl, rfl, rfl, rfl⟩
  have hstream : ∀ k : Session, (k.streamTopUp o).config = k.config ∧
      (k.streamTopUp o).caps = k.caps ∧ (k.streamTopUp o).created = k.created ∧
      ((k.streamTopUp o).cells o).recv = (k.cells o).recv := by
    intro k
    unfold streamTopUp
    split
    · refine ⟨rfl, rfl, rfl, ?_⟩
      simp only [Session.push, Session.modify, Function.update_self]
    · exact ⟨rfl, rfl, rfl, rfl⟩
  rw [release_eq]
  obtain ⟨h1, h2, h3, h4⟩ := htop ((k.released o n caps).streamTopUp o)
  obtain ⟨g1, g2, g3, g4⟩ := hstream (k.released o n caps)
  refine ⟨h1.trans g1, h2.trans g2, h3.trans g3, ?_⟩
  rw [h4, g4, released_cells, if_pos rfl]

end Session

namespace Connection

variable {s : Start} {cfg : ServiceConfig} {c : Connection} {z : Nat}

/-! ## Octets one by one -/

/-- A value for each of `z` octets of the first stream. -/
def octetCaps (z : Nat) : List Capacity := List.replicate z ⟨0, 1⟩

theorem held_octetCaps (z : Nat) : held (octetCaps z) = z := by
  simp [held, octetCaps]

theorem heldBy_octetCaps (z : Nat) : heldBy 0 (octetCaps z) = z := by
  simp [heldBy, octetCaps]

theorem sizes_of_octetCaps (h : Reachable s c) (hcaps : c.caps = octetCaps z)
    (h0 : 0 < c.created) : c.recvSize = z ∧ (c.objs 0).recvSize = z := by
  have hcr := h.clean.good.credit
  have h1 : c.recvSize = held c.caps := hcr.conHeld
  have h2 : (c.objs 0).recvSize = heldBy 0 c.caps := hcr.held 0 h0
  rw [hcaps] at h1 h2
  exact ⟨h1.trans (held_octetCaps z), h2.trans (heldBy_octetCaps z)⟩

/-- The first octet is given back. -/
theorem session_dropOctet (h : Reachable s c) (hcaps : c.caps = octetCaps (z + 1))
    (h0 : 0 < c.created) :
    (c.step (.dropCapacity 0)).session = c.session.release 0 1 (octetCaps z) := by
  obtain ⟨hcon, hsize⟩ := sizes_of_octetCaps h hcaps h0
  have hcr := h.clean.good.credit
  have hlt : c.recvSize < 2 ^ 31 := hcr.recvSize_lt
  have hlow : min 0 c.session.shift ≤ (c.objs 0).recvWindow.size := hcr.low 0 h0
  have hget : c.caps[0]? = some ⟨0, 1⟩ := by
    rw [hcaps]
    rfl
  have hrest : c.caps.eraseIdx 0 = octetCaps z := by
    rw [hcaps]
    rfl
  show (c.dropCapacity 0).session = _
  unfold dropCapacity
  rw [hget]
  dsimp only
  rw [if_pos Nat.one_pos, hrest]
  have hrel := session_receivedDataConsumed (c := { c with caps := octetCaps z }) (o := 0) (n := 1)
    (by show 1 ≤ (c.objs 0).recvSize; omega) (by show (c.objs 0).recvSize ≤ c.recvSize; omega)
    hlt hcr.conLow hlow
  exact hrel.1

theorem reachable_dropOctet (h : Reachable s c) : Reachable s (c.step (.dropCapacity 0)) :=
  .step _ h trivial

/-- A stream window with a threshold of zero: the octets are given back one by one, until the
window and the octet that is left make up the configured size. -/
theorem stream_update_empty (ht : s.config.windowSzThreshold = 0) : ∀ (z : Nat) {c : Connection},
    Reachable s c → c.config = s.config → c.caps = octetCaps (z + 2) → 0 < c.created →
    (c.objs 0).recv.isClosed = false →
    (c.objs 0).recvWindow.size + 1 = s.config.windowSz →
    ∃ c' obj w id, Reachable s c' ∧ .sent obj w (.windowUpdate id 0) ∈ c'.log := by
  intro z
  induction z with
  | zero =>
      intro c h hcfg hcaps h0 hr hw
      obtain ⟨-, hsize⟩ := sizes_of_octetCaps h hcaps h0
      have hs := session_dropOctet h hcaps h0
      have hmem := Session.release_empty (k := c.session) (o := 0) (n := 1) (octetCaps 1)
        (fun hcl => by rw [HalfState.half_closed.mp hcl] at hr; cases hr)
        (by show c.config.windowSzThreshold = 0; rw [hcfg]; exact ht)
        (by show (c.objs 0).recvWindow.size < c.config.windowSz; rw [hcfg]; omega)
        (by
          show (c.objs 0).recvWindow.size + ((c.objs 0).recvSize - 1 : Nat) = c.config.windowSz
          rw [hcfg, hsize]
          omega)
      rw [← hs] at hmem
      exact ⟨_, _, _, _, reachable_dropOctet h, hmem⟩
  | succ z ih =>
      intro c h hcfg hcaps h0 hr hw
      obtain ⟨-, hsize⟩ := sizes_of_octetCaps h hcaps h0
      have hs := session_dropOctet h hcaps h0
      have hcell := Session.release_none (k := c.session) (o := 0) (n := 1)
        (octetCaps (z + 2))
        (by show c.config.windowSzThreshold = 0; rw [hcfg]; exact ht)
        (by
          show (c.config.windowSz : Int) <
            (c.objs 0).recvWindow.size + ((c.objs 0).recvSize - 1 : Nat)
          rw [hcfg, hsize]
          omega)
      obtain ⟨g1, g2, g3, g4⟩ := Session.release_fields c.session 0 1 (octetCaps (z + 2))
      rw [← hs] at hcell g1 g2 g3 g4
      refine ih (reachable_dropOctet h) (g1.trans hcfg) g2 (Nat.lt_of_lt_of_eq h0 g3.symm) ?_ ?_
      · cases hcl : ((c.step (.dropCapacity 0)).objs 0).recv.isClosed with
        | false => rfl
        | true =>
            have hcl' := g4.symm.trans (HalfState.half_closed.mpr hcl)
            rw [HalfState.half_closed.mp hcl'] at hr
            cases hr
      · have hwin : ((c.step (.dropCapacity 0)).objs 0).recvWindow.size =
            (c.objs 0).recvWindow.size := congrArg Cell.recvWindow hcell
        rw [hwin]
        exact hw

/-- The same for the connection window. -/
theorem con_update_empty (ht : s.config.connectionWindowSzThreshold = 0) :
    ∀ (z : Nat) {c : Connection}, Reachable s c → c.config = s.config →
    c.caps = octetCaps (z + 2) → 0 < c.created →
    c.recvWindow.size + 1 = s.config.connectionWindowSz →
    ∃ c' obj w id, Reachable s c' ∧ .sent obj w (.windowUpdate id 0) ∈ c'.log := by
  intro z
  induction z with
  | zero =>
      intro c h hcfg hcaps h0 hw
      obtain ⟨hsize, -⟩ := sizes_of_octetCaps h hcaps h0
      have hs := session_dropOctet h hcaps h0
      have hmem := Session.release_empty_con (k := c.session) (o := 0) (n := 1)
        (octetCaps 1)
        (by show c.config.connectionWindowSzThreshold = 0; rw [hcfg]; exact ht)
        (by show c.recvWindow.size < c.config.connectionWindowSz; rw [hcfg]; omega)
        (by
          show c.recvWindow.size + (c.recvSize - 1 : Nat) = c.config.connectionWindowSz
          rw [hcfg, hsize]
          omega)
      rw [← hs] at hmem
      exact ⟨_, _, _, _, reachable_dropOctet h, hmem⟩
  | succ z ih =>
      intro c h hcfg hcaps h0 hw
      obtain ⟨hsize, -⟩ := sizes_of_octetCaps h hcaps h0
      have hs := session_dropOctet h hcaps h0
      have hwin := Session.release_none_con (k := c.session) (o := 0) (n := 1)
        (octetCaps (z + 2))
        (by show c.config.connectionWindowSzThreshold = 0; rw [hcfg]; exact ht)
        (by
          show (c.config.connectionWindowSz : Int) < c.recvWindow.size + (c.recvSize - 1 : Nat)
          rw [hcfg, hsize]
          omega)
      obtain ⟨g1, g2, g3, -⟩ := Session.release_fields c.session 0 1 (octetCaps (z + 2))
      rw [← hs] at hwin g1 g2 g3
      have hwin' : (c.step (.dropCapacity 0)).recvWindow.size = c.recvWindow.size := hwin
      exact ih (reachable_dropOctet h) (g1.trans hcfg) g2 (Nat.lt_of_lt_of_eq h0 g3.symm)
        (hwin'.symm ▸ hw)

/-! ## A client that fetches -/

/-- A client with a configuration. -/
def clientOf (cfg : ServiceConfig) : Start := ⟨false, cfg, false, false⟩

/-- A request, and the head of its response. -/
def fetchRun : List Step :=
  [.receive (.settings noSettings), .request (some ⟨[104], [71], [47], [], true⟩),
    .receive (.headers ⟨1, .response 200, [], false⟩)]

/-- The client takes payload, and has kept a value for each of `z` octets. -/
structure Fetching (cfg : ServiceConfig) (z : Nat) (c : Connection) : Prop where
  reachable : Reachable (clientOf cfg) c
  config : c.config = cfg
  created : 0 < c.created
  streams : c.streams = [(1, 0)]
  recv : (c.objs 0).recv = .payload
  contentLength : (c.objs 0).contentLength = .omitted
  remoteSettings : c.remoteSettings = true
  settingsProcessed : c.settingsProcessed = false
  caps : c.caps = octetCaps z

theorem Fetching.query (h : Fetching cfg z c) : c.query 1 = some 0 := by
  unfold Connection.query
  rw [h.streams]
  rfl

theorem fetching_start (cfg : ServiceConfig) :
    Fetching cfg 0 ((clientOf cfg).init.after fetchRun) ∧
      (((clientOf cfg).init.after fetchRun).objs 0).recvWindow = ⟨65535⟩ ∧
      ((clientOf cfg).init.after fetchRun).recvWindow = (clientOf cfg).init.recvWindow := by
  refine ⟨⟨?_, rfl, Nat.one_pos, rfl, rfl, rfl, rfl, rfl, rfl⟩, rfl, rfl⟩
  refine ((ReachableBy.new (P := anyStep)).after fetchRun ?_).reachable
  refine ⟨⟨noSettings_loads, trivial⟩, ⟨rfl, trivial⟩, ⟨?_, trivial⟩, trivial⟩
  show 1 < 2 ^ 31
  decide

/-- An octet of payload. -/
def octet : Data := ⟨1, [0], 1, false⟩

/-- `data_received` when nothing wraps. -/
theorem dataReceived_safe {n : Nat} (h1 : c.recvWindow.DecSafe n) (h2 : c.recvSize + n < 2 ^ 32) :
    c.dataReceived n = { c with
      recvWindow := c.recvWindow.dec n
      recvSize := (c.recvSize + n) % 2 ^ 32 } := by
  unfold dataReceived
  rw [note_anomalies c (decide_eq_true h1)]
  dsimp only
  rw [note_anomalies c (decide_eq_true h2)]

/-- `Capacity::new` when nothing wraps. -/
theorem newCapacity_safe {o n : Nat} (hn : n ≠ 0) (h1 : (c.objs o).recvWindow.DecSafe n)
    (h2 : (c.objs o).recvSize + n < 2 ^ 32) (h3 : c.recvWindow.DecSafe n)
    (h4 : c.recvSize + n < 2 ^ 32) :
    c.newCapacity o n = { c.modify o fun s => { s with
        recvSize := (s.recvSize + n) % 2 ^ 32
        recvWindow := s.recvWindow.dec n } with
      recvWindow := c.recvWindow.dec n
      recvSize := (c.recvSize + n) % 2 ^ 32
      caps := c.caps ++ [⟨o, n⟩] } := by
  have hcon := dataReceived_safe (c := c.modify o fun s => { s with
    recvSize := (s.recvSize + n) % 2 ^ 32
    recvWindow := s.recvWindow.dec n }) (n := n) h3 h4
  rw [newCapacity_eq hn, receivedDataAdded_eq h2 h1, hcon]
  rfl

/-- An octet within the windows is charged and kept, and nothing else happens. -/
theorem receive_octet_eq (h : Fetching cfg z c) (hw : 1 ≤ (c.objs 0).recvWindow.size)
    (hcw : 1 ≤ c.recvWindow.size) :
    c.step (.receive (.data octet)) =
      ((c.push (.received (some 0) (.data octet))).newCapacity 0 1).modify 0 fun s =>
        { s with contentLength := .omitted } := by
  have hfit : ∀ w : Int, 1 ≤ w → ¬i32 (octet.flowLen : Int) > w := by
    intro w hw
    rw [show i32 (octet.flowLen : Int) = 1 from i32_nat (n := 1) (by decide)]
    omega
  have hcr := h.reachable.clean.good.credit
  have h1 : (c.objs 0).recvWindow.size < 2 ^ 31 := hcr.high 0 h.created
  have h2 : (c.objs 0).recvSize ≤ c.recvSize := hcr.cell_recvSize_le h.created
  have h3 : c.recvWindow.size < 2 ^ 31 := hcr.recvWindow_lt
  have h4 : c.recvSize < 2 ^ 31 := hcr.recvSize_lt
  show c.receive (.data octet) = _
  unfold receive
  have hevent : (Frame.data octet).streamId.bind c.query = some 0 := h.query
  rw [hevent]
  generalize hc1 : c.push (.received (some 0) (.data octet)) = c1
  have hfields : c1.objs = c.objs ∧ c1.recvWindow = c.recvWindow ∧ c1.recvSize = c.recvSize ∧
      c1.query octet.streamId = some 0 ∧ c1.remoteSettings = true := by
    rw [← hc1]
    exact ⟨rfl, rfl, rfl, h.query, h.remoteSettings⟩
  obtain ⟨ho1, hw1, hz1, hq1, hr1⟩ := hfields
  have hobj : (c1.newCapacity 0 1).objs 0 = { c.objs 0 with
      recvSize := ((c.objs 0).recvSize + 1) % 2 ^ 32
      recvWindow := (c.objs 0).recvWindow.dec 1 } := by
    rw [newCapacity_safe Nat.one_ne_zero]
    · simp [modify, ho1]
    · rw [ho1]
      unfold Window.DecSafe InI32
      omega
    · rw [ho1]
      omega
    · rw [hw1]
      unfold Window.DecSafe InI32
      omega
    · omega
  have hfirst : c1.checkFirstFrame (.data octet) = true := by
    unfold checkFirstFrame
    rw [hr1]
    rfl
  dsimp only
  rw [hfirst, if_pos rfl]
  show handleMessage (c1.recvData octet) = _
  unfold recvData
  rw [if_neg (hfit _ (by rw [hw1]; exact hcw)), hq1]
  dsimp only
  unfold streamRecvData
  rw [if_neg (hfit _ (by rw [ho1]; exact hw))]
  dsimp only
  rw [if_neg (by decide)]
  show handleMessage (lift 0 ((c1.newCapacity 0 1).recvPayload 0 octet _)) = _
  unfold recvPayload
  rw [hobj]
  dsimp only
  rw [h.recv, h.contentLength]
  rfl

theorem receive_octet (h : Fetching cfg z c) (hw : 1 ≤ (c.objs 0).recvWindow.size)
    (hcw : 1 ≤ c.recvWindow.size) :
    ∃ c', Fetching cfg (z + 1) c' ∧
      (c'.objs 0).recvWindow.size = (c.objs 0).recvWindow.size - 1 ∧
      c'.recvWindow.size = c.recvWindow.size - 1 := by
  have hreach : Reachable (clientOf cfg) (c.step (.receive (.data octet))) := by
    refine .step _ h.reachable ?_
    show 1 ≠ 0 ∧ 1 < 2 ^ 31 ∧ 1 ≤ 1 ∧ 1 < 2 ^ 24
    decide
  have hcr := h.reachable.clean.good.credit
  have h1 : (c.objs 0).recvWindow.size < 2 ^ 31 := hcr.high 0 h.created
  have h2 : (c.objs 0).recvSize ≤ c.recvSize := hcr.cell_recvSize_le h.created
  have h3 : c.recvWindow.size < 2 ^ 31 := hcr.recvWindow_lt
  have h4 : c.recvSize < 2 ^ 31 := hcr.recvSize_lt
  have hd1 : (c.objs 0).recvWindow.DecSafe 1 := by
    unfold Window.DecSafe InI32
    omega
  have hd2 : c.recvWindow.DecSafe 1 := by
    unfold Window.DecSafe InI32
    omega
  have heq := receive_octet_eq h hw hcw
  have hstream : (c.objs 0).recvSize + 1 < 2 ^ 32 := by omega
  have hcon : c.recvSize + 1 < 2 ^ 32 := by omega
  rw [newCapacity_safe (c := c.push (.received (some 0) (.data octet))) Nat.one_ne_zero hd1 hstream
    hd2 hcon] at heq
  refine ⟨_, ⟨hreach, ?_, ?_, ?_, ?_, ?_, ?_, ?_, ?_⟩, ?_, ?_⟩
  · rw [heq]
    exact h.config
  · rw [heq]
    exact h.created
  · rw [heq]
    exact h.streams
  · rw [heq]
    simpa [modify, push] using h.recv
  · rw [heq]
    simp [modify, push]
  · rw [heq]
    exact h.remoteSettings
  · rw [heq]
    exact h.settingsProcessed
  · rw [heq]
    show c.caps ++ [⟨0, 1⟩] = octetCaps (z + 1)
    rw [h.caps]
    exact List.replicate_succ'.symm
  · rw [heq]
    simpa [modify, push] using Window.dec_size hd1
  · rw [heq]
    exact Window.dec_size hd2

theorem receive_octets (h : Fetching cfg z c) : ∀ n : Nat,
    (n : Int) ≤ (c.objs 0).recvWindow.size → (n : Int) ≤ c.recvWindow.size →
    ∃ c', Fetching cfg (z + n) c' ∧
      (c'.objs 0).recvWindow.size = (c.objs 0).recvWindow.size - n ∧
      c'.recvWindow.size = c.recvWindow.size - n := by
  intro n
  induction n with
  | zero =>
      intro _ _
      exact ⟨c, h, by omega, by omega⟩
  | succ n ih =>
      intro hw hcw
      obtain ⟨c1, hf, hw1, hcw1⟩ := ih (by omega) (by omega)
      obtain ⟨c2, hf2, hw2, hcw2⟩ := receive_octet hf (by omega) (by omega)
      exact ⟨c2, hf2, by omega, by omega⟩

/-! ## Every small window -/

/-- Every written WINDOW_UPDATE has a legal increment. -/
def UpdatesLegal (c : Connection) : Prop :=
  ∀ obj w id n, .sent obj w (.windowUpdate id n) ∈ c.log → 1 ≤ n ∧ n ≤ 2 ^ 31 - 1

theorem updatesLegal_iff : c.UpdatesLegal ↔ c.session.Legal := by
  constructor
  · intro h n hn
    obtain ⟨e, he, hi⟩ := List.mem_filterMap.mp hn
    unfold Event.increment at hi
    split at hi
    · cases hi
      have := h _ _ _ _ he
      omega
    · cases hi
  · intro h obj w id n hm
    have := h n (List.mem_filterMap.mpr ⟨_, hm, rfl⟩)
    omega

/-- The connection window of a new connection. -/
theorem init_window (s : Start) : 65535 ≤ s.init.recvWindow.size ∧
    s.init.recvWindow.size ≤ max (s.config.connectionWindowSz : Int) 65535 := by
  obtain ⟨hw, hle, -⟩ := new_window s.server s.config s.secure s.skipStreams
  refine ⟨?_, hle⟩
  have hsize : s.init.recvWindow.size = ((65535 : Nat) : Int) + total Event.conGrant s.init.log :=
    congrArg Window.size hw
  omega

/-- An empty stream window: the ack lowers the window below zero by the octet that is kept. -/
theorem zero_window_update (hcfg : cfg.windowSz = 0) (ht : cfg.windowSzThreshold = 0) :
    ∃ c' obj w id, Reachable (clientOf cfg) c' ∧ .sent obj w (.windowUpdate id 0) ∈ c'.log := by
  obtain ⟨hf, hw0, hcw0⟩ := fetching_start cfg
  have hcw : 1 ≤ ((clientOf cfg).init.after fetchRun).recvWindow.size := by
    have := (init_window (clientOf cfg)).1
    rw [hcw0]
    omega
  obtain ⟨c, h, hw, -⟩ := receive_octet hf (by rw [hw0]; decide) hcw
  rw [hw0] at hw
  obtain ⟨-, hsize⟩ := sizes_of_octetCaps h.reachable h.caps h.created
  refine ⟨c.step (.receive (.settings .newAck)), some 0, .windowUpdate, (c.objs 0).id,
    .step _ h.reachable ack_loads, ?_⟩
  -- the state in which the ack reaches the stream
  generalize hc1 : ({ c.push (.received none (.settings .newAck)) with settingsProcessed := true } :
    Connection) = c1
  have hfields : c1.objs = c.objs ∧ c1.values = [0] ∧ c1.config = cfg := by
    rw [← hc1]
    refine ⟨rfl, ?_, h.config⟩
    show c.streams.map (·.2) = [0]
    rw [h.streams]
    rfl
  obtain ⟨ho1, hv1, hcfg1⟩ := hfields
  have hrecv : (c1.objs 0).recv.isClosed = false := by
    rw [ho1, h.recv]
    rfl
  have hwin : (c1.objs 0).recvWindow = ⟨65534⟩ := by
    rw [ho1]
    exact congrArg Window.mk hw
  have hsz : (c1.objs 0).recvSize = 1 := by
    rw [ho1]
    exact hsize
  have hack : ackStream (-65535) ([], c1) 0 = _ := ackStream_eq (w := ⟨-1⟩) hrecv
    (by decide) (by rw [hwin]; decide) (fun _ => by rw [hwin]; decide)
    (by rw [hsz, hcfg1, hcfg]; decide)
  rw [hsz] at hack
  have hstep : c.step (.receive (.settings .newAck)) =
      (c1.modify 0 fun s => { s with recvWindow := ⟨-1⟩ }).reclaim 0 1 := by
    show c.receive (.settings .newAck) = _
    unfold receive
    have hfirst : (c.push (.received none (.settings .newAck))).checkFirstFrame
        (.settings .newAck) = true := by
      unfold checkFirstFrame
      rw [show (c.push (.received none (.settings .newAck))).remoteSettings = true from
        h.remoteSettings]
      rfl
    show (if (c.push (.received none (.settings .newAck))).checkFirstFrame (.settings .newAck)
      then _ else _) = _
    rw [hfirst, if_pos rfl]
    have hrec : (c.push (.received none (.settings .newAck))).recvSettingsAck =
        (.ok [], (c1.modify 0 fun s => { s with recvWindow := ⟨-1⟩ }).reclaim 0 1) := by
      have hshift : (c1.config.windowSz : Int) - defaultInitialWindowSize = -65535 := by
        rw [hcfg1, hcfg]
        rfl
      unfold recvSettingsAck
      rw [if_neg (by rw [show (c.push (.received none (.settings .newAck))).settingsProcessed =
        false from h.settingsProcessed]; decide), hc1]
      dsimp only
      rw [hshift, hv1]
      show (Except.ok (ackStream (-65535) ([], c1) 0).1, (ackStream (-65535) ([], c1) 0).2) = _
      rw [hack]
    show (c.push (.received none (.settings .newAck))).dispatch (.settings .newAck) = _
    unfold dispatch
    dsimp only
    rw [if_pos (by decide), hrec]
    rfl
  rw [hstep]
  obtain ⟨hs, -⟩ := session_reclaim (c := c1.modify 0 fun s => { s with recvWindow := ⟨-1⟩ })
    (o := 0) (n := 1) (by simpa [modify] using hsz) (by decide)
    (by
      have hm : ((c1.modify 0 fun s => { s with recvWindow := ⟨-1⟩ }).objs 0).recvWindow =
          ⟨-1⟩ := by
        simp [modify]
      rw [hm]
      show min 0 ((c1.config.windowSz : Int) - 65535) ≤ -1
      rw [hcfg1, hcfg]
      decide)
  show _ ∈ ((c1.modify 0 fun s => { s with recvWindow := ⟨-1⟩ }).reclaim 0 1).session.log
  rw [hs]
  generalize hm : (c1.modify 0 fun s => { s with recvWindow := ⟨-1⟩ }).session = m
  have hcell : (m.cells 0).recv ≠ .closed ∧ (m.cells 0).recvWindow = -1 ∧
      (m.cells 0).recvSize = 1 ∧ (m.cells 0).id = (c.objs 0).id ∧ m.config = cfg := by
    rw [← hm]
    refine ⟨?_, ?_, ?_, ?_, hcfg1⟩
    · intro hcl
      have hcl' := HalfState.half_closed.mp hcl
      have hopen : ((c1.modify 0 fun s => { s with recvWindow := ⟨-1⟩ }).objs 0).recv.isClosed =
          false := by simpa [modify] using hrecv
      rw [hopen] at hcl'
      cases hcl'
    · simp [session, modify, Stream.cell]
    · simpa [session, modify, Stream.cell] using hsz
    · simp [session, modify, Stream.cell, ho1]
  obtain ⟨g1, g2, g3, g4, g5⟩ := hcell
  have hyes : (m.cells 0).recv ≠ .closed ∧ Session.announces m.config.windowSz
      m.config.windowSzThreshold (m.cells 0).recvWindow (m.cells 0).recvSize := by
    rw [g2, g3, g5, hcfg, ht]
    exact ⟨g1, by decide⟩
  unfold Session.streamTopUp
  rw [if_pos hyes, g2, g3, g4, g5, hcfg]
  exact List.mem_cons_self

theorem small_window_update (hd : cfg.Derived) (hlt : cfg.windowSz < 3) :
    ∃ c' obj w id, Reachable (clientOf cfg) c' ∧ .sent obj w (.windowUpdate id 0) ∈ c'.log := by
  have ht : cfg.windowSzThreshold = 0 := hd.threshold.mpr hlt
  by_cases h0 : cfg.windowSz = 0
  · exact zero_window_update h0 ht
  · obtain ⟨hf, hw0, hcw0⟩ := fetching_start cfg
    have hinit := (init_window (clientOf cfg)).1
    obtain ⟨c, h, hw, hcw⟩ := receive_octets hf (65536 - cfg.windowSz)
      (by rw [hw0]; show ((65536 - cfg.windowSz : Nat) : Int) ≤ 65535; omega)
      (by rw [hcw0]; omega)
    rw [hw0] at hw
    have hw' : (c.objs 0).recvWindow.size = 65535 - ((65536 - cfg.windowSz : Nat) : Int) := hw
    refine stream_update_empty (s := clientOf cfg) ht (65534 - cfg.windowSz) h.reachable h.config
      ?_ h.created ?_ ?_
    · rw [h.caps, Nat.zero_add, show 65536 - cfg.windowSz = 65534 - cfg.windowSz + 2 by omega]
    · rw [h.recv]
      rfl
    · show _ = (cfg.windowSz : Int)
      omega

theorem small_conWindow_update (hd : cfg.Derived) (hpos : 0 < cfg.connectionWindowSz)
    (hlt : cfg.connectionWindowSz < 4) :
    ∃ c' obj w id, Reachable (clientOf cfg) c' ∧ .sent obj w (.windowUpdate id 0) ∈ c'.log := by
  have ht : cfg.connectionWindowSzThreshold = 0 := hd.conThreshold.mpr hlt
  obtain ⟨hf, hw0, hcw0⟩ := fetching_start cfg
  obtain ⟨hlow, hhigh⟩ := init_window (clientOf cfg)
  have hhigh' : (clientOf cfg).init.recvWindow.size ≤
    max (cfg.connectionWindowSz : Int) 65535 := hhigh
  obtain ⟨c, h, hw, hcw⟩ := receive_octets hf (65536 - cfg.connectionWindowSz)
    (by rw [hw0]; show ((65536 - cfg.connectionWindowSz : Nat) : Int) ≤ 65535; omega)
    (by rw [hcw0]; omega)
  rw [hcw0] at hcw
  refine con_update_empty (s := clientOf cfg) ht (65534 - cfg.connectionWindowSz) h.reachable
    h.config ?_ h.created ?_
  · rw [h.caps, Nat.zero_add,
      show 65536 - cfg.connectionWindowSz = 65534 - cfg.connectionWindowSz + 2 by omega]
  · show _ = (cfg.connectionWindowSz : Int)
    omega

/-- With the thresholds that the setters compute, every run writes legal WINDOW_UPDATE frames
only, if and only if the stream window is three octets at least, and the connection window four
octets or none. -/
theorem window_updates_legal_iff (hd : cfg.Derived) :
    (∀ server secure skipStreams c, Reachable ⟨server, cfg, secure, skipStreams⟩ c →
      c.UpdatesLegal) ↔
    3 ≤ cfg.windowSz ∧ (cfg.connectionWindowSz = 0 ∨ 4 ≤ cfg.connectionWindowSz) := by
  constructor
  · intro h
    have hno : ¬∃ c' obj w id, Reachable (clientOf cfg) c' ∧
        .sent obj w (.windowUpdate id 0) ∈ c'.log := by
      rintro ⟨c', obj, w, id, hr, hm⟩
      have := (h false false false c' hr obj w id 0 hm).1
      omega
    constructor
    · by_contra hlt
      exact hno (small_window_update hd (by omega))
    · by_contra hlt
      exact hno (small_conWindow_update hd (by omega) (by omega))
  · rintro ⟨h3, h4⟩ server secure skipStreams c hr
    have hthr := hd.threshold
    have hconThr := hd.conThreshold
    have hstep : cfg.Stepped := by
      refine ⟨?_, ?_⟩
      · omega
      · omega
    exact updatesLegal_iff.mpr ((feeds_of_reachable hr).legal hstep (new_feeds _).2)

theorem derived_three : (serverWith 3 1 (by decide) (by decide)).config.Derived :=
  ⟨by decide, by decide⟩

theorem window_updates_legal_iff_three :
    (serverWith 3 1 (by decide) (by decide)).config.Derived ∧
    ∀ server secure skipStreams c,
      Reachable ⟨server, (serverWith 3 1 (by decide) (by decide)).config, secure, skipStreams⟩ c →
        c.UpdatesLegal :=
  ⟨derived_three, (window_updates_legal_iff derived_three).mpr ⟨by decide, by decide⟩⟩

/-- A stream window of one octet: the octet is kept, and nothing of it is consumed. -/
def keptRun : List Step :=
  [.receive (.settings noSettings), .receive (.headers ⟨1, somePseudo, [], false⟩),
    .receive (.settings .newAck), .receive (.data ⟨1, [0], 1, false⟩), .consume 0 0]

theorem keptRun_reachable : Reachable (serverWith 1 0 (by decide) (by decide))
    ((serverWith 1 0 (by decide) (by decide)).init.after keptRun) := by
  refine ((ReachableBy.new (P := anyStep)).after keptRun ?_).reachable
  refine ⟨⟨noSettings_loads, trivial⟩, ⟨?_, trivial⟩, ⟨ack_loads, trivial⟩, ⟨?_, trivial⟩,
    ⟨trivial, trivial⟩, trivial⟩
  · show 1 < 2 ^ 31
    decide
  · show 1 ≠ 0 ∧ 1 < 2 ^ 31 ∧ 1 ≤ 1 ∧ 1 < 2 ^ 24
    decide

/-- The update of a window whose threshold is zero has an increment of zero. -/
theorem window_update_of_zero :
    ¬∀ cfg : ServiceConfig, cfg.windowSzThreshold = cfg.windowSz / 3 →
      cfg.connectionWindowSzThreshold = cfg.connectionWindowSz / 4 →
      ∀ server secure skipStreams c,
        Reachable ⟨server, cfg, secure, skipStreams⟩ c → c.UpdatesLegal := by
  intro h
  have hlegal := h _ rfl rfl true false false _ keptRun_reachable (some 0) .windowUpdate 1 0
    (by decide)
  exact absurd hlegal.1 (by decide)

end Connection

end NtexH2
