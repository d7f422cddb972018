/-
  Session/Sends.lean --- the send windows of a session.

  A send window is what the peer has granted less what was sent.  The peer grants
  by SETTINGS and by WINDOW_UPDATE; the history keeps both.
-/
import NtexH2.Session.Table

set_option autoImplicit false

namespace NtexH2

/-- The law of written DATA, at every point of a history: all octets are within the credit
of the connection, and a DATA frame that is not empty is within the credit of its stream
and the frame size. -/
def Lawful : List Event → Prop
  | [] => True
  | e :: l => Lawful l ∧
      total Event.sentData (e :: l) ≤ defaultInitialWindowSize + total Event.conCredit (e :: l) ∧
      ∀ o w d, e = .sent (some o) w (.data d) → 0 < d.flowLen →
        total (Event.sentOn o) (e :: l) ≤ initWindow l + total (Event.credit o) l ∧
          d.flowLen ≤ maxFrame l

/-- An event that no send window depends on. -/
structure Event.NoSend (e : Event) : Prop where
  conCredit : e.conCredit = 0
  credit : ∀ o, e.credit o = 0
  sentData : e.sentData = 0
  sentOn : ∀ o, e.sentOn o = 0
  initWindow : ∀ l, initWindow (e :: l) = NtexH2.initWindow l
  maxFrame : ∀ l, maxFrame (e :: l) = NtexH2.maxFrame l

/-- A quiet event neither sends DATA nor brings credit. -/
theorem Event.Quiet.noSend {e : Event} (h : e.Quiet) : e.NoSend where
  conCredit := h.silent.conCredit
  credit := h.silent.credit
  sentData := h.silent.sentData
  sentOn := h.silent.sentOn
  initWindow := by
    intro l
    cases e with
    | received obj f =>
        cases f with
        | settings s =>
            have hack : s.ack = true := by cases obj <;> exact h
            simp [NtexH2.initWindow, hack]
        | _ => rfl
    | _ => rfl
  maxFrame := by
    intro l
    cases e with
    | received obj f =>
        cases f with
        | settings s =>
            have hack : s.ack = true := by cases obj <;> exact h
            simp [NtexH2.maxFrame, hack]
        | _ => rfl
    | _ => rfl

theorem Event.noSend_close : Event.close.NoSend :=
  ⟨rfl, fun _ => rfl, rfl, fun _ => rfl, fun _ => rfl, fun _ => rfl⟩

theorem Event.noSend_streamFailed (o : Obj) (e : StreamError) : (Event.streamFailed o e).NoSend :=
  ⟨rfl, fun _ => rfl, rfl, fun _ => rfl, fun _ => rfl, fun _ => rfl⟩

/-- A written frame that is not a DATA frame with octets. -/
theorem Event.noSend_sent {obj : Option Obj} {w : Writer} {f : Frame}
    (h : ∀ d, f = .data d → d.flowLen = 0) : (Event.sent obj w f).NoSend where
  conCredit := rfl
  credit := fun _ => rfl
  sentData := by
    cases f with
    | data d => exact h d rfl
    | _ => rfl
  sentOn := by
    intro o
    cases obj with
    | none => rfl
    | some p =>
        cases f with
        | data d =>
            show (if p = o then d.flowLen else 0) = 0
            rw [h d rfl]
            exact ite_self 0
        | _ => rfl
  initWindow := fun _ => rfl
  maxFrame := fun _ => rfl

/-- A received frame that is neither SETTINGS nor WINDOW_UPDATE. -/
theorem Event.noSend_received {obj : Option Obj} {f : Frame} (hs : ∀ s, f ≠ .settings s)
    (hw : ∀ id n, f ≠ .windowUpdate id n) : (Event.received obj f).NoSend := by
  cases f with
  | settings s => exact absurd rfl (hs s)
  | windowUpdate id n => exact absurd rfl (hw id n)
  | _ => cases obj <;> exact ⟨rfl, fun _ => rfl, rfl, fun _ => rfl, fun _ => rfl, fun _ => rfl⟩

namespace Session

/-- The invariant of the send windows. -/
structure Sends (k : Session) : Prop where
  conLow : 0 ≤ k.sendWindow
  conHigh : k.sendWindow < 2 ^ 31
  conBound : k.sendWindow + total Event.sentData k.log ≤
    defaultInitialWindowSize + total Event.conCredit k.log
  con : k.failed = false → k.sendWindow + total Event.sentData k.log =
    defaultInitialWindowSize + total Event.conCredit k.log
  stream : ∀ o ∈ k.values, (k.cells o).sendWindow + total (Event.sentOn o) k.log =
    k.remoteWindowSz + total (Event.credit o) k.log
  high : ∀ o ∈ k.values, (k.cells o).sendWindow < 2 ^ 31
  low : ∀ o ∈ k.values, (k.remoteWindowSz : Int) - (2 ^ 31 - 1) ≤ (k.cells o).sendWindow
  windowSz : k.remoteWindowSz < 2 ^ 31
  settings : initWindow k.log = k.remoteWindowSz ∧ maxFrame k.log = k.remoteFrameSize ∨
    k.failed = true ∧ k.server = false ∧ k.values = []
  fresh : ∀ o, k.created ≤ o →
    total (Event.sentOn o) k.log = 0 ∧ total (Event.credit o) k.log = 0
  lawful : Lawful k.log

/-! ## Steps that the send windows do not see -/

/-- The send windows stay as they are; streams may leave. -/
structure SendsFrame (k k' : Session) : Prop where
  sendWindow : k'.sendWindow = k.sendWindow
  failed : k'.failed = k.failed
  server : k'.server = k.server
  remoteWindowSz : k'.remoteWindowSz = k.remoteWindowSz
  remoteFrameSize : k'.remoteFrameSize = k.remoteFrameSize
  created : k'.created = k.created
  values : ∀ o ∈ k'.values, o ∈ k.values
  cells : ∀ o ∈ k'.values, (k'.cells o).sendWindow = (k.cells o).sendWindow
  conCredit : total Event.conCredit k'.log = total Event.conCredit k.log
  credit : ∀ o, o ∈ k'.values ∨ k.created ≤ o →
    total (Event.credit o) k'.log = total (Event.credit o) k.log
  sentData : total Event.sentData k'.log = total Event.sentData k.log
  sentOn : ∀ o, total (Event.sentOn o) k'.log = total (Event.sentOn o) k.log
  initWindow : initWindow k'.log = NtexH2.initWindow k.log
  maxFrame : maxFrame k'.log = NtexH2.maxFrame k.log
  lawful : Lawful k.log →
    total Event.sentData k.log ≤ defaultInitialWindowSize + total Event.conCredit k.log →
      Lawful k'.log

/-- No more DATA was sent than the initial window and the credit of the connection allowed. -/
theorem Sends.sent_le {k : Session} (h : k.Sends) :
    total Event.sentData k.log ≤ defaultInitialWindowSize + total Event.conCredit k.log := by
  have h1 := h.conBound
  have h2 := h.conLow
  omega

/-- The frame rule of the send windows. -/
theorem Sends.frame {k k' : Session} (h : k.Sends) (f : SendsFrame k k') : k'.Sends where
  conLow := f.sendWindow ▸ h.conLow
  conHigh := f.sendWindow ▸ h.conHigh
  conBound := by
    rw [f.sendWindow, f.sentData, f.conCredit]
    exact h.conBound
  con := by
    rw [f.failed, f.sendWindow, f.sentData, f.conCredit]
    exact h.con
  stream := by
    intro o ho
    rw [f.cells o ho, f.sentOn, f.credit o (.inl ho), f.remoteWindowSz]
    exact h.stream o (f.values o ho)
  high := by
    intro o ho
    rw [f.cells o ho]
    exact h.high o (f.values o ho)
  low := by
    intro o ho
    rw [f.cells o ho, f.remoteWindowSz]
    exact h.low o (f.values o ho)
  windowSz := f.remoteWindowSz ▸ h.windowSz
  settings := by
    rw [f.initWindow, f.maxFrame, f.remoteWindowSz, f.remoteFrameSize, f.failed, f.server]
    refine h.settings.imp_right fun hs => ⟨hs.1, hs.2.1, ?_⟩
    apply List.eq_nil_iff_forall_not_mem.mpr
    intro o ho
    have hm := f.values o ho
    rw [hs.2.2] at hm
    cases hm
  fresh := by
    intro o ho
    rw [f.created] at ho
    rw [f.sentOn, f.credit o (.inr ho)]
    exact h.fresh o ho
  lawful := f.lawful h.lawful h.sent_le

theorem SendsFrame.refl (k : Session) : SendsFrame k k :=
  ⟨rfl, rfl, rfl, rfl, rfl, rfl, fun _ h => h, fun _ _ => rfl, rfl, fun _ _ => rfl, rfl,
    fun _ => rfl, rfl, rfl, fun h _ => h⟩

/-- Steps that the send windows do not see compose. -/
theorem SendsFrame.trans {k k' k'' : Session} (f : SendsFrame k k') (g : SendsFrame k' k'') :
    SendsFrame k k'' where
  sendWindow := g.sendWindow.trans f.sendWindow
  failed := g.failed.trans f.failed
  server := g.server.trans f.server
  remoteWindowSz := g.remoteWindowSz.trans f.remoteWindowSz
  remoteFrameSize := g.remoteFrameSize.trans f.remoteFrameSize
  created := g.created.trans f.created
  values := fun o ho => f.values o (g.values o ho)
  cells := fun o ho => (g.cells o ho).trans (f.cells o (g.values o ho))
  conCredit := g.conCredit.trans f.conCredit
  credit := by
    intro o ho
    rw [g.credit o (ho.imp_right fun hc => by rw [f.created]; exact hc)]
    exact f.credit o (ho.imp_left (g.values o))
  sentData := g.sentData.trans f.sentData
  sentOn := fun o => (g.sentOn o).trans (f.sentOn o)
  initWindow := g.initWindow.trans f.initWindow
  maxFrame := g.maxFrame.trans f.maxFrame
  lawful := by
    intro hl hc
    refine g.lawful (f.lawful hl hc) ?_
    rw [f.sentData, f.conCredit]
    exact hc

/-- An event without DATA or credit keeps every suffix of the log within its credit. -/
theorem lawful_cons {e : Event} (he : e.NoSend) {l : List Event} (hl : Lawful l)
    (hc : total Event.sentData l ≤ defaultInitialWindowSize + total Event.conCredit l) :
    Lawful (e :: l) := by
  refine ⟨hl, ?_, ?_⟩
  · rw [total_cons, total_cons, he.sentData, he.conCredit]
    omega
  · intro o w d hed hpos
    subst hed
    have := he.sentData
    simp only [Event.sentData] at this
    omega

/-- An event without DATA or credit is put on the log. -/
theorem SendsFrame.push (k : Session) {e : Event} (he : e.NoSend) : SendsFrame k (k.push e) where
  sendWindow := rfl
  failed := rfl
  server := rfl
  remoteWindowSz := rfl
  remoteFrameSize := rfl
  created := rfl
  values := fun _ h => h
  cells := fun _ _ => rfl
  conCredit := by simp [Session.push, he.conCredit]
  credit := fun o _ => by simp [Session.push, he.credit]
  sentData := by simp [Session.push, he.sentData]
  sentOn := fun o => by simp [Session.push, he.sentOn]
  initWindow := he.initWindow _
  maxFrame := he.maxFrame _
  lawful := fun hl hc => lawful_cons he hl hc

/-- A change of other fields. -/
theorem SendsFrame.of_eq {k k' : Session} (h1 : k'.sendWindow = k.sendWindow)
    (h2 : k'.failed = k.failed) (h3 : k'.server = k.server)
    (h4 : k'.remoteWindowSz = k.remoteWindowSz) (h5 : k'.remoteFrameSize = k.remoteFrameSize)
    (h6 : k'.created = k.created) (h7 : ∀ o ∈ k'.values, o ∈ k.values)
    (h8 : ∀ o ∈ k'.values, (k'.cells o).sendWindow = (k.cells o).sendWindow)
    (h9 : k'.log = k.log) : SendsFrame k k' := by
  refine ⟨h1, h2, h3, h4, h5, h6, h7, h8, ?_, ?_, ?_, ?_, ?_, ?_, ?_⟩
  all_goals rw [h9]
  all_goals first
    | exact fun _ => rfl
    | exact fun _ _ => rfl
    | exact fun h _ => h

theorem SendsFrame.modify (k : Session) (o : Nat) {f : Cell → Cell}
    (h : (f (k.cells o)).sendWindow = (k.cells o).sendWindow) : SendsFrame k (k.modify o f) := by
  refine SendsFrame.of_eq rfl rfl rfl rfl rfl rfl (fun _ hp => hp) ?_ rfl
  intro p _
  by_cases hp : p = o
  · subst hp
    simpa [Session.modify] using h
  · simp [Session.modify, hp]

/-- A stream that closes keeps its send window. -/
theorem SendsFrame.close (k : Session) (o : Nat) (r w : Bool) :
    SendsFrame k (k.close o r w) := by
  have hv : ∀ p ∈ (k.close o r w).values, p ∈ k.values := by
    intro p hp
    obtain ⟨e, he, rfl⟩ := List.mem_map.mp hp
    exact List.mem_map_of_mem (close_streams_sub he)
  have hc : ∀ p ∈ (k.close o r w).values,
      ((k.close o r w).cells p).sendWindow = (k.cells p).sendWindow := by
    intro p _
    rw [close_cells]
    split
    · next hp =>
        rw [hp]
        rfl
    · rfl
  by_cases he : k.Ends o r w
  · -- the history has one more event, which no window depends on
    have hlog : (k.close o r w).log = (k.push .close).log := by
      simp only [Session.close, he, if_true]
      rfl
    have hp := SendsFrame.push k Event.noSend_close
    refine ⟨rfl, rfl, rfl, rfl, rfl, rfl, hv, hc, ?_, ?_, ?_, ?_, ?_, ?_, ?_⟩
    all_goals rw [hlog]
    · exact hp.conCredit
    · exact fun p hm => hp.credit p (hm.imp_left (hv p))
    · exact hp.sentData
    · exact hp.sentOn
    · exact hp.initWindow
    · exact hp.maxFrame
    · exact hp.lawful
  · refine SendsFrame.of_eq rfl rfl rfl rfl rfl rfl hv hc ?_
    simp only [Session.close, he, if_false]

theorem SendsFrame.ioClose (k : Session) : SendsFrame k k.ioClose :=
  (SendsFrame.push k Event.noSend_close).trans
    (SendsFrame.of_eq rfl rfl rfl rfl rfl rfl (fun _ h => h) (fun _ _ => rfl) rfl)

/-- WINDOW_UPDATEs that are written are credit for the peer, not for this end. -/
theorem SendsFrame.topUp (k : Session) : SendsFrame k k.topUp := by
  unfold Session.topUp
  split
  · have hp := SendsFrame.push k (e := .sent none .connection (.windowUpdate StreamId.con
      (k.config.connectionWindowSz - k.recvWindow - k.recvSize).toNat))
      (Event.noSend_sent fun d hd => by cases hd)
    refine hp.trans ?_
    exact SendsFrame.of_eq rfl rfl rfl rfl rfl rfl (fun _ h => h) (fun _ _ => rfl) rfl
  · exact SendsFrame.refl k

theorem SendsFrame.streamTopUp (k : Session) (o : Nat) : SendsFrame k (k.streamTopUp o) := by
  unfold Session.streamTopUp
  split
  · refine (SendsFrame.modify k o ?_).trans (SendsFrame.push _ ?_)
    · rfl
    · exact Event.noSend_sent fun d hd => by cases hd
  · exact SendsFrame.refl k

theorem SendsFrame.reset (k : Session) (o : Nat) (r : Reason) : SendsFrame k (k.reset o r) :=
  (SendsFrame.push k (Event.noSend_sent fun d hd => by cases hd)).trans
    (SendsFrame.close _ o true true)

theorem SendsFrame.stray (k : Session) (obj : Option Nat) (d : Data) :
    SendsFrame k (k.stray obj d) := by
  have hp := SendsFrame.push k (e := .received obj (.data d))
    (Event.noSend_received (fun s hs => by cases hs) (fun id n hn => by cases hn))
  refine hp.trans (SendsFrame.trans ?_ (SendsFrame.topUp _))
  exact SendsFrame.of_eq rfl rfl rfl rfl rfl rfl (fun _ h => h) (fun _ _ => rfl) rfl

/-! ## Streams that are opened -/

/-- A new stream starts with the initial window that the peer has set. -/
theorem Sends.insert {k : Session} (h : k.Sends) (ht : k.Table) {s : Cell}
    (hw : s.sendWindow = k.remoteWindowSz) (hf : k.failed = true → k.server = true) :
    (k.insert s).Sends := by
  have hnew : ∀ o ∈ (k.insert s).values, o = k.created ∨
      o ∈ k.values ∧ (k.insert s).cells o = k.cells o := by
    intro o ho
    simp only [values, Session.insert, List.map_cons, List.mem_cons] at ho
    refine ho.imp_right fun hm => ⟨hm, ?_⟩
    have hlt := ht.bound o hm
    exact Function.update_of_ne (by omega) _ _
  have hcell : (k.insert s).cells k.created = s := by simp [Session.insert]
  have hsz := h.windowSz
  exact
    { conLow := h.conLow
      conHigh := h.conHigh
      conBound := h.conBound
      con := h.con
      stream := by
        intro o ho
        rcases hnew o ho with rfl | ⟨hm, hc⟩
        · rw [hcell, hw]
          obtain ⟨h1, h2⟩ := h.fresh k.created (Nat.le_refl _)
          simp only [Session.insert, h1, h2]
        · rw [hc]
          exact h.stream o hm
      high := by
        intro o ho
        rcases hnew o ho with rfl | ⟨hm, hc⟩
        · rw [hcell, hw]
          omega
        · rw [hc]
          exact h.high o hm
      low := by
        intro o ho
        rcases hnew o ho with rfl | ⟨hm, hc⟩
        · rw [hcell, hw]
          simp only [Session.insert]
          omega
        · rw [hc]
          exact h.low o hm
      windowSz := hsz
      settings := by
        refine h.settings.imp_right fun hs => ?_
        have := hf hs.1
        rw [hs.2.1] at this
        cases this
      fresh := fun o ho => h.fresh o (by simp only [Session.insert] at ho; omega)
      lawful := h.lawful }

/-! ## DATA -/

/-- The windows and the history after a DATA frame, before its stream is closed. -/
def written (k : Session) (o : Nat) (d : Data) : Session :=
  (k.push (.sent (some o) .sendPages (.data d))).spend o d.flowLen

/-- DATA within both windows and the frame limit takes its flow-controlled length from each. -/
theorem Sends.written {k : Session} (h : k.Sends) {o : Nat} {d : Data} (ho : o ∈ k.values)
    (hlt : o < k.created)
    (hw : (d.flowLen : Int) ≤ (k.cells o).sendWindow) (hc : (d.flowLen : Int) ≤ k.sendWindow)
    (hm : d.flowLen ≤ k.remoteFrameSize) : (k.written o d).Sends := by
  have hcells : ∀ p, ((k.written o d).cells p).sendWindow =
      if p = o then (k.cells o).sendWindow - d.flowLen else (k.cells p).sendWindow := by
    intro p
    simp only [Session.written, spend, Session.modify, Session.push]
    by_cases hp : p = o
    · simp [hp]
    · simp [hp]
  have hlog : (k.written o d).log = .sent (some o) .sendPages (.data d) :: k.log := rfl
  have hon : ∀ p, total (Event.sentOn p) (k.written o d).log =
      (if p = o then d.flowLen else 0) + total (Event.sentOn p) k.log := by
    intro p
    rw [hlog, total_cons]
    simp only [Event.sentOn, eq_comm]
  have hall : total Event.sentData (k.written o d).log =
      d.flowLen + total Event.sentData k.log := rfl
  have hcon : total Event.conCredit (k.written o d).log = total Event.conCredit k.log := by
    rw [hlog, total_cons]
    simp only [Event.conCredit, Nat.zero_add]
  have hcred : ∀ p, total (Event.credit p) (k.written o d).log =
      total (Event.credit p) k.log := by
    intro p
    rw [hlog, total_cons]
    simp only [Event.credit, Nat.zero_add]
  have hwin : (k.written o d).sendWindow = k.sendWindow - d.flowLen := rfl
  have hset : initWindow k.log = k.remoteWindowSz ∧ maxFrame k.log = k.remoteFrameSize := by
    refine h.settings.resolve_right fun hs => ?_
    rw [hs.2.2] at ho
    cases ho
  have hsz := h.windowSz
  have hstream := h.stream o ho
  have hbound := h.conBound
  exact
    { conLow := by
        rw [hwin]
        omega
      conHigh := by
        have := h.conHigh
        rw [hwin]
        omega
      conBound := by
        rw [hwin, hall, hcon]
        push_cast
        omega
      con := by
        intro hf
        have := h.con hf
        rw [hwin, hall, hcon]
        push_cast
        omega
      stream := by
        intro p hp
        have := h.stream p hp
        rw [hcells, hon, hcred]
        show _ = (k.remoteWindowSz : Int) + total (Event.credit p) k.log
        by_cases hpo : p = o
        · subst hpo
          simp only [if_true]
          push_cast
          omega
        · simp only [hpo, if_false]
          omega
      high := by
        intro p hp
        have := h.high p hp
        rw [hcells]
        split
        · next hpo =>
            subst hpo
            omega
        · exact this
      low := by
        intro p hp
        have := h.low p hp
        rw [hcells]
        show (k.remoteWindowSz : Int) - (2 ^ 31 - 1) ≤ _
        split
        · omega
        · exact this
      windowSz := hsz
      settings := .inl hset
      fresh := by
        intro p hp
        have := h.fresh p hp
        have hpo : p ≠ o := by
          have : k.created ≤ p := hp
          omega
        rw [hon, hcred]
        simp only [hpo, if_false, Nat.zero_add]
        exact this
      lawful := by
        refine ⟨h.lawful, ?_, ?_⟩
        · rw [← hlog, hall, hcon]
          omega
        · intro p w d' he hpos
          cases he
          rw [hset.1, hset.2]
          refine ⟨?_, hm⟩
          show (if o = o then d.flowLen else 0) + total (Event.sentOn o) k.log ≤ _
          simp only [if_true]
          omega }

/-- A DATA frame, with the end of its stream. -/
theorem SendsFrame.chunk (k : Session) (o : Nat) (d : Data) :
    SendsFrame (k.written o d) (k.chunk o d) := by
  have hc := SendsFrame.close (k.push (.sent (some o) .sendPages (.data d))) o false d.endStream
  refine ⟨rfl, rfl, rfl, rfl, rfl, rfl, hc.values, ?_, hc.conCredit, hc.credit, hc.sentData,
    hc.sentOn, hc.initWindow, hc.maxFrame, hc.lawful⟩
  intro p hp
  by_cases hpo : p = o
  · subst hpo
    simp [Session.chunk, Session.written, spend, Session.modify, close_cells_self, Cell.close,
      Session.push]
  · have := hc.cells p hp
    simpa [Session.chunk, Session.written, spend, Session.modify, hpo] using this

/-! ## Credit -/

/-- A WINDOW_UPDATE of the connection that does not overflow its window. -/
theorem Sends.conCredit {k : Session} (h : k.Sends) {n : Nat} (hn : k.sendWindow + n < 2 ^ 31) :
    Sends { k.push (.received none (.windowUpdate 0 n)) with
      sendWindow := k.sendWindow + n } where
  conLow := by
    have := h.conLow
    show 0 ≤ k.sendWindow + n
    omega
  conHigh := hn
  conBound := by
    have := h.conBound
    simp only [Session.push, total_cons, Event.sentData, Event.conCredit, if_true]
    push_cast
    omega
  con := by
    intro hf
    have := h.con hf
    simp only [Session.push, total_cons, Event.sentData, Event.conCredit, if_true]
    push_cast
    omega
  stream := by
    intro o ho
    have := h.stream o ho
    simpa [Session.push, Event.sentOn, Event.credit] using this
  high := h.high
  low := h.low
  windowSz := h.windowSz
  settings := h.settings
  fresh := by
    intro o ho
    have := h.fresh o ho
    simpa [Session.push, Event.sentOn, Event.credit] using this
  lawful := by
    have hle := h.sent_le
    refine ⟨h.lawful, ?_, fun o w d he => by cases he⟩
    simp only [total_cons, Event.sentData, Event.conCredit, if_true]
    omega

/-- Credit of a stream raises what its suffixes may send. -/
theorem lawful_credit {l : List Event} {obj : Option Nat} {id n : Nat} (hl : Lawful l)
    (hc : total Event.sentData l ≤ defaultInitialWindowSize + total Event.conCredit l) :
    Lawful (.received obj (.windowUpdate id n) :: l) := by
  refine ⟨hl, ?_, fun o w d he => by cases he⟩
  simp only [total_cons, Event.sentData]
  omega

/-- A WINDOW_UPDATE of a stream that does not overflow its window. -/
theorem Sends.credit {k : Session} (h : k.Sends) (ht : k.Table) {o n id : Nat}
    (ho : o ∈ k.values) (hid : id = (k.cells o).id) (hn : (k.cells o).sendWindow + n < 2 ^ 31) :
    Sends ((k.push (.received (some o) (.windowUpdate id n))).modify o fun s =>
      { s with sendWindow := s.sendWindow + n }) := by
  have hid0 : id ≠ 0 := by
    have := ht.id_odd (ht.bound o ho)
    omega
  have hcells : ∀ p, (((k.push (.received (some o) (.windowUpdate id n))).modify o fun s =>
      { s with sendWindow := s.sendWindow + n }).cells p).sendWindow =
        (k.cells p).sendWindow + if p = o then (n : Int) else 0 := by
    intro p
    by_cases hp : p = o
    · subst hp
      simp [Session.modify, Session.push]
    · simp [Session.modify, Session.push, hp]
  have hcon : total Event.conCredit (.received (some o) (.windowUpdate id n) :: k.log) =
      total Event.conCredit k.log := by
    simp only [total_cons, Event.conCredit, hid0, if_false, Nat.zero_add]
  have hcred : ∀ p, total (Event.credit p) (.received (some o) (.windowUpdate id n) :: k.log) =
      (if p = o then n else 0) + total (Event.credit p) k.log := by
    intro p
    simp only [total_cons, Event.credit, eq_comm]
  have hsent : ∀ p, total (Event.sentOn p) (.received (some o) (.windowUpdate id n) :: k.log) =
      total (Event.sentOn p) k.log := by
    intro p
    simp only [total_cons, Event.sentOn, Nat.zero_add]
  have hdata : total Event.sentData (.received (some o) (.windowUpdate id n) :: k.log) =
      total Event.sentData k.log := by
    simp only [total_cons, Event.sentData, Nat.zero_add]
  exact
    { conLow := h.conLow
      conHigh := h.conHigh
      conBound := by
        show _ + ((total Event.sentData (_ :: k.log) : Nat) : Int) ≤
          _ + ((total Event.conCredit (_ :: k.log) : Nat) : Int)
        rw [hdata, hcon]
        exact h.conBound
      con := by
        intro hf
        show _ + ((total Event.sentData (_ :: k.log) : Nat) : Int) =
          _ + ((total Event.conCredit (_ :: k.log) : Nat) : Int)
        rw [hdata, hcon]
        exact h.con hf
      stream := by
        intro p hp
        have := h.stream p hp
        rw [hcells]
        show _ + ((total (Event.sentOn p) (_ :: k.log) : Nat) : Int) =
          (k.remoteWindowSz : Int) + ((total (Event.credit p) (_ :: k.log) : Nat) : Int)
        rw [hsent, hcred]
        push_cast
        split <;> omega
      high := by
        intro p hp
        have := h.high p hp
        rw [hcells]
        split
        · next hpo =>
            subst hpo
            exact hn
        · omega
      low := by
        intro p hp
        have := h.low p hp
        rw [hcells]
        show (k.remoteWindowSz : Int) - (2 ^ 31 - 1) ≤ _
        split <;> omega
      windowSz := h.windowSz
      settings := h.settings
      fresh := by
        intro p hp
        have hf := h.fresh p hp
        have hpo : p ≠ o := by
          have := ht.bound o ho
          have : k.created ≤ p := hp
          omega
        show total (Event.sentOn p) (_ :: k.log) = 0 ∧ total (Event.credit p) (_ :: k.log) = 0
        rw [hsent, hcred]
        simp only [hpo, if_false, Nat.zero_add]
        exact hf
      lawful := lawful_credit h.lawful h.sent_le }

/-- A stream that leaves may keep a credit that was not applied. -/
theorem SendsFrame.badCredit {k : Session} (ht : k.Table) {o n id : Nat} {e : StreamError}
    (ho : o ∈ k.values) (hid : id = (k.cells o).id) :
    SendsFrame k (((k.push (.received (some o) (.windowUpdate id n))).push
      (.streamFailed o e)).reset o e.reason) := by
  have hlt := ht.bound o ho
  have hid0 : id ≠ 0 := by
    have := ht.id_odd hlt
    omega
  have hout : o ∉ (((k.push (.received (some o) (.windowUpdate id n))).push
      (.streamFailed o e)).reset o e.reason).values := by
    have htp := (ht.push (e := .received (some o) (.windowUpdate id n)) rfl).push
      (e := .streamFailed o e) rfl
    exact htp.not_mem_reset
  have f := (SendsFrame.push (k.push (.received (some o) (.windowUpdate id n)))
    (Event.noSend_streamFailed o e)).trans (SendsFrame.reset _ o e.reason)
  have hcon : total Event.conCredit (k.push (.received (some o) (.windowUpdate id n))).log =
      total Event.conCredit k.log := by
    simp only [Session.push, total_cons, Event.conCredit, hid0, if_false, Nat.zero_add]
  have hdata : total Event.sentData (k.push (.received (some o) (.windowUpdate id n))).log =
      total Event.sentData k.log := by
    simp only [Session.push, total_cons, Event.sentData, Nat.zero_add]
  exact
    { sendWindow := rfl
      failed := rfl
      server := rfl
      remoteWindowSz := rfl
      remoteFrameSize := rfl
      created := rfl
      values := f.values
      cells := f.cells
      conCredit := f.conCredit.trans hcon
      credit := by
        intro p hp
        rw [f.credit p hp]
        have hpo : o ≠ p := by
          rcases hp with hp | hp
          · exact fun hc => hout (hc ▸ hp)
          · omega
        simp only [Session.push, total_cons, Event.credit, hpo, if_false, Nat.zero_add]
      sentData := f.sentData.trans hdata
      sentOn := by
        intro p
        rw [f.sentOn]
        simp only [Session.push, total_cons, Event.sentOn, Nat.zero_add]
      initWindow := f.initWindow
      maxFrame := f.maxFrame
      lawful := by
        intro hl hc
        refine f.lawful (lawful_credit hl hc) ?_
        rw [hcon, hdata]
        exact hc }

/-! ## Settings and failures -/

/-- SETTINGS shift the window of every stream by the difference of the two initial windows. -/
theorem Sends.settingsStep {k : Session} (h : k.Sends) {s : Settings} (hack : s.ack = false)
    (hw : ∀ v ∈ s.initialWindowSize, v < 2 ^ 31)
    (hn : ∀ o ∈ k.values, (k.cells o).sendWindow +
      (s.initialWindowSize.getD k.remoteWindowSz - k.remoteWindowSz : Int) < 2 ^ 31) :
    (k.settings s).Sends := by
  have hsz : s.initialWindowSize.getD k.remoteWindowSz < 2 ^ 31 := by
    cases hv : s.initialWindowSize with
    | none => exact h.windowSz
    | some v => exact hw v hv
  have hcells : ∀ o ∈ k.values, ((k.settings s).cells o).sendWindow = (k.cells o).sendWindow +
      (s.initialWindowSize.getD k.remoteWindowSz - k.remoteWindowSz : Int) := by
    intro o ho
    simp only [Session.settings, ho, if_true]
  have hmeasure : ∀ f : Event → Nat, (∀ obj t, f (.received obj (.settings t)) = 0) →
      (∀ obj w t, f (.sent obj w (.settings t)) = 0) →
        total f (k.settings s).log = total f k.log := by
    intro f h1 h2
    simp only [Session.settings, total_cons, h1, h2, Nat.zero_add]
  have hcon := hmeasure Event.conCredit (fun _ _ => rfl) (fun _ _ _ => rfl)
  have hdata := hmeasure Event.sentData (fun _ _ => rfl) (fun _ _ _ => rfl)
  have hcred : ∀ o, total (Event.credit o) (k.settings s).log = total (Event.credit o) k.log :=
    fun o => hmeasure (Event.credit o) (fun obj _ => by cases obj <;> rfl) (fun _ _ _ => rfl)
  have hsent : ∀ o, total (Event.sentOn o) (k.settings s).log = total (Event.sentOn o) k.log :=
    fun o => hmeasure (Event.sentOn o) (fun _ _ => rfl) (fun obj _ _ => by cases obj <;> rfl)
  exact
    { conLow := h.conLow
      conHigh := h.conHigh
      conBound := by
        rw [hcon, hdata]
        exact h.conBound
      con := by
        rw [hcon, hdata]
        exact h.con
      stream := by
        intro o ho
        have := h.stream o ho
        rw [hcells o ho, hsent, hcred]
        simp only [Session.settings]
        omega
      high := by
        intro o ho
        rw [hcells o ho]
        exact hn o ho
      low := by
        intro o ho
        have := h.low o ho
        rw [hcells o ho]
        simp only [Session.settings]
        omega
      windowSz := hsz
      settings := by
        refine h.settings.imp (fun hs => ?_) fun hs => hs
        simp only [Session.settings, initWindow, maxFrame, hack]
        rw [hs.1, hs.2]
        exact ⟨rfl, rfl⟩
      fresh := by
        intro o ho
        rw [hsent, hcred]
        exact h.fresh o ho
      lawful := by
        have hle := h.sent_le
        have h1 : Lawful (.received none (.settings s) :: k.log) :=
          ⟨h.lawful, by simpa [Event.sentData, Event.conCredit] using hle,
            fun o w d he => by cases he⟩
        refine ⟨h1, ?_, fun o w d he => by cases he⟩
        simpa [Event.sentData, Event.conCredit] using hle }

/-- What the events of a failure can add to a history. -/
theorem failEvents_measures {k : Session} (ht : k.Table) :
    ∀ {evs : List Event}, (∀ e ∈ evs, (∃ err, e = .failed err) ∨
        ∃ obj f, e = .received obj f ∧ ∀ o, obj = some o → o ∈ k.values) →
      total Event.sentData (evs ++ k.log) = total Event.sentData k.log ∧
      total Event.conCredit k.log ≤ total Event.conCredit (evs ++ k.log) ∧
      (∀ o, total (Event.sentOn o) (evs ++ k.log) = total (Event.sentOn o) k.log) ∧
      (∀ o, k.created ≤ o →
        total (Event.credit o) (evs ++ k.log) = total (Event.credit o) k.log) ∧
      (Lawful k.log → total Event.sentData k.log ≤
        defaultInitialWindowSize + total Event.conCredit k.log → Lawful (evs ++ k.log)) := by
  intro evs
  induction evs with
  | nil => exact fun _ => ⟨rfl, Nat.le_refl _, fun _ => rfl, fun _ _ => rfl, fun hl _ => hl⟩
  | cons e evs ih =>
      intro hevs
      obtain ⟨h1, h2, h3, h4, h5⟩ := ih fun e he => hevs e (List.mem_cons_of_mem _ he)
      have he := hevs e List.mem_cons_self
      have hsd : e.sentData = 0 := by
        rcases he with ⟨err, rfl⟩ | ⟨obj, f, rfl, -⟩ <;> rfl
      have hso : ∀ o, e.sentOn o = 0 := by
        rcases he with ⟨err, rfl⟩ | ⟨obj, f, rfl, -⟩ <;> exact fun _ => rfl
      have hcr : ∀ o, k.created ≤ o → e.credit o = 0 := by
        intro o ho
        rcases he with ⟨err, rfl⟩ | ⟨obj, f, rfl, hobj⟩
        · rfl
        · cases obj with
          | none => rfl
          | some p =>
              have hp : p < k.created := ht.bound p (hobj p rfl)
              have hne : p ≠ o := Nat.ne_of_lt (Nat.lt_of_lt_of_le hp ho)
              cases f with
              | windowUpdate id n => exact if_neg hne
              | _ => rfl
      simp only [List.cons_append, total_cons, hsd, hso, Nat.zero_add]
      refine ⟨h1, by omega, h3, fun o ho => by rw [hcr o ho, h4 o ho, Nat.zero_add], ?_⟩
      intro hl hc
      refine ⟨h5 hl hc, ?_, ?_⟩
      · simp only [total_cons, hsd]
        omega
      · intro o w d hed
        rcases he with ⟨err, rfl⟩ | ⟨obj, f, rfl, -⟩ <;> cases hed

/-- A failed connection sends nothing further, so the windows of its streams no longer matter. -/
theorem Sends.fail {k : Session} (h : k.Sends) (ht : k.Table) {evs : List Event}
    {window : Nat → Int} {windowSz frameSize : Nat} (he : k.FailEvents evs windowSz frameSize) :
    (k.fail evs window windowSz frameSize).Sends := by
  obtain ⟨h1, h2, h3, h4, h5⟩ := failEvents_measures ht he.mem
  have hlog : (k.fail evs window windowSz frameSize).log = evs ++ k.log := rfl
  have hwin : (k.fail evs window windowSz frameSize).sendWindow = k.sendWindow := rfl
  have hnil : (k.fail evs window windowSz frameSize).values = [] := rfl
  exact
    { conLow := h.conLow
      conHigh := h.conHigh
      conBound := by
        have := h.conBound
        rw [hlog, hwin, h1]
        omega
      con := by
        intro hf
        cases hf
      stream := by
        intro o ho
        rw [hnil] at ho
        cases ho
      high := by
        intro o ho
        rw [hnil] at ho
        cases ho
      low := by
        intro o ho
        rw [hnil] at ho
        cases ho
      windowSz := he.2.2
      settings := by
        cases hs : k.server with
        | false => exact .inr ⟨rfl, hs, hnil⟩
        | true =>
            refine .inl ?_
            have hset := h.settings.resolve_right fun hr => by
              rw [hr.2.1] at hs
              cases hs
            exact he.2.1 hs hset.1 hset.2
      fresh := by
        intro o ho
        rw [hlog, h3, h4 o ho]
        exact h.fresh o ho
      lawful := by
        rw [hlog]
        exact h5 h.lawful h.sent_le }

/-! ## Every step -/

/-- Every step keeps the send windows. -/
theorem Sends.step {G : Guard} {k k' : Session} (h : k.Sends) (ht : k.Table)
    (hs : Step G k k') : k'.Sends := by
  have other : ∀ {k' : Session}, k'.sendWindow = k.sendWindow → k'.failed = k.failed →
      k'.server = k.server → k'.remoteWindowSz = k.remoteWindowSz →
      k'.remoteFrameSize = k.remoteFrameSize → k'.created = k.created →
      (∀ o ∈ k'.values, o ∈ k.values) → k'.cells = k.cells → k'.log = k.log → k'.Sends :=
    fun h1 h2 h3 h4 h5 h6 h7 h8 h9 => h.frame
      (SendsFrame.of_eq h1 h2 h3 h4 h5 h6 h7 (fun o _ => by rw [h8]) h9)
  have noData : ∀ {obj w} {f : Frame}, (∀ d, f ≠ .data d) → (Event.sent obj w f).NoSend :=
    fun hf => Event.noSend_sent fun d hd => absurd hd (hf d)
  cases hs with
  | quiet he => exact h.frame (SendsFrame.push k he.noSend)
  | raise hs hid => exact other rfl rfl rfl rfl rfl rfl (fun _ hm => hm) rfl rfl
  | @accept id hs hd hid hodd hmax =>
      have hi := h.insert ht (s := k.newCell id) rfl fun _ => hs
      exact hi.frame (SendsFrame.of_eq rfl rfl rfl rfl rfl rfl (fun _ hm => hm)
        (fun _ _ => rfl) rfl)
  | @openLocal hd reserved hs hf hg hdr hid hmax hr =>
      have hi := h.insert ht (s := k.openCell hd) rfl fun hft => by
        rw [hf] at hft
        cases hft
      refine (hi.frame (SendsFrame.push _ (e := .sent (some k.created) .sendHeaders (.headers hd))
        (noData fun d hd => by cases hd))).frame ?_
      exact SendsFrame.of_eq rfl rfl rfl rfl rfl rfl (fun _ hm => hm) (fun _ _ => rfl) rfl
  | close ho hsr => exact h.frame (SendsFrame.close k _ _ _)
  | remoteReset ho =>
      exact h.frame ((SendsFrame.push k (Event.noSend_received (fun s hs => by cases hs)
        (fun id n hn => by cases hn))).trans (SendsFrame.close _ _ true true))
  | recvPayload ho hi => exact h.frame (SendsFrame.modify k _ rfl)
  | interim ho hi hid hend => exact h.frame (SendsFrame.push k (noData fun d hd => by cases hd))
  | @respond o hd ho hi hid =>
      refine h.frame (SendsFrame.trans ?_ (SendsFrame.push _ (noData fun d hd => by cases hd)))
      split
      · exact SendsFrame.close k o false true
      · exact SendsFrame.modify k o rfl
  | @chunk o d ho hp hid hw hc hm =>
      have hv : o ∈ k.values := (ht.live o ho).mpr fun hd =>
        absurd (hp.symm.trans hd.2) (by decide)
      exact (h.written hv ho hw hc hm).frame (SendsFrame.chunk k o d)
  | @finish o ho hp =>
      refine h.frame ((SendsFrame.close k o false true).trans (SendsFrame.push _ ?_))
      exact Event.noSend_sent fun d hd => by
        cases hd
        rfl
  | trailers ho hp hid hend =>
      exact h.frame ((SendsFrame.push k (noData fun d hd => by cases hd)).trans
        (SendsFrame.close _ _ false true))
  | reset ho => exact h.frame (SendsFrame.reset k _ _)
  | @charge o d ho hid hw hc =>
      refine (h.frame ((SendsFrame.push k (e := .received (some o) (.data d))
        (Event.noSend_received (fun s hs => by cases hs) (fun id n hn => by cases hn))).trans
          (SendsFrame.modify _ o (f := fun s => { s with
            recvWindow := s.recvWindow - d.flowLen
            recvSize := s.recvSize + d.flowLen }) rfl))).frame ?_
      exact SendsFrame.of_eq rfl rfl rfl rfl rfl rfl (fun _ hm => hm) (fun _ _ => rfl) rfl
  | stray hid hc => exact h.frame (SendsFrame.stray k none _)
  | @overrun o d ho hid hw hc =>
      exact h.frame ((SendsFrame.stray k (some o) d).trans
        ((SendsFrame.push _ (Event.noSend_streamFailed o _)).trans (SendsFrame.reset _ o _)))
  | @release o n caps ho hcaps hheld hall =>
      refine h.frame ?_
      unfold Session.release
      refine SendsFrame.trans ?_ (SendsFrame.topUp _)
      have hc : SendsFrame k { k with caps := caps } :=
        SendsFrame.of_eq rfl rfl rfl rfl rfl rfl (fun _ hm => hm) (fun _ _ => rfl) rfl
      have hm := hc.trans (SendsFrame.modify _ o (f := fun s =>
        { s with recvSize := s.recvSize - n }) rfl)
      refine (hm.trans (SendsFrame.streamTopUp _ o)).trans ?_
      exact SendsFrame.of_eq rfl rfl rfl rfl rfl rfl (fun _ hm => hm) (fun _ _ => rfl) rfl
  | caps hcaps hheld hall => exact other rfl rfl rfl rfl rfl rfl (fun _ hm => hm) rfl rfl
  | conCredit hn => exact h.conCredit hn
  | credit ho hid hn => exact h.credit ht ho hid hn
  | lateCredit h0 hid =>
      exact h.frame (SendsFrame.push k ⟨if_neg h0, fun _ => rfl, rfl, fun _ => rfl, fun _ => rfl,
        fun _ => rfl⟩)
  | badCredit ho hid => exact h.frame (SendsFrame.badCredit ht ho hid)
  | settings hack hw hn => exact h.settingsStep hack hw hn
  | @ackBegin s hack hp =>
      have hq : (Event.received none (.settings s)).Quiet := hack
      exact (h.frame (SendsFrame.push k hq.noSend)).frame
        (SendsFrame.of_eq rfl rfl rfl rfl rfl rfl (fun _ hm => hm) (fun _ _ => rfl) rfl)
  | @ackOne o rest ha hG =>
      refine h.frame ?_
      have hrest : SendsFrame k { k with acking := rest } :=
        SendsFrame.of_eq rfl rfl rfl rfl rfl rfl (fun _ hm => hm) (fun _ _ => rfl) rfl
      unfold Session.ackOne
      split
      · exact hrest
      · split
        · exact SendsFrame.of_eq rfl rfl rfl rfl rfl rfl (fun _ hm => hm) (fun _ _ => rfl) rfl
        · exact (hrest.trans (SendsFrame.modify _ o rfl)).trans (SendsFrame.streamTopUp _ o)
  | @ackFailed o e l ho hl =>
      have hrest : SendsFrame k { k with ackErrors := l } :=
        SendsFrame.of_eq rfl rfl rfl rfl rfl rfl (fun _ hm => hm) (fun _ _ => rfl) rfl
      exact h.frame (((hrest.trans (SendsFrame.push _ (Event.noSend_streamFailed o e))).trans
        (SendsFrame.close _ o true true)).trans
          (SendsFrame.push _ (noData fun d hd => by cases hd)))
  | fail he => exact h.fail ht he
  | shut _ => exact h.frame (SendsFrame.ioClose k)
  | drain =>
      have hd : SendsFrame k { k with draining := true } :=
        SendsFrame.of_eq rfl rfl rfl rfl rfl rfl (fun _ hm => hm) (fun _ _ => rfl) rfl
      unfold Session.drain
      split
      · exact h.frame (hd.trans (SendsFrame.ioClose _))
      · exact h.frame hd
  | goneAway => exact other rfl rfl rfl rfl rfl rfl (fun _ hm => hm) rfl rfl
  | reserve hs hf hg hd => exact other rfl rfl rfl rfl rfl rfl (fun _ hm => hm) rfl rfl
  | unreserve hs hr =>
      have hd : SendsFrame k { k with
          activeLocal := k.activeLocal - 1
          reserved := k.reserved - 1
          reservations := k.reservations - 1 } :=
        SendsFrame.of_eq rfl rfl rfl rfl rfl rfl (fun _ hm => hm) (fun _ _ => rfl) rfl
      unfold Session.unreserve
      dsimp only
      split
      · exact h.frame (hd.trans (SendsFrame.ioClose _))
      · exact h.frame hd
  | senders hl => exact other rfl rfl rfl rfl rfl rfl (fun _ hm => hm) rfl rfl
  | reorder hl =>
      exact other rfl rfl rfl rfl rfl rfl (fun o hm => (hl.map _).mem_iff.mp hm) rfl rfl

end Session

end NtexH2
