/-
  Session/Grants.lean --- the receive window of a stream, from its history.

  While the receive half of a stream is open, its window is the initial one and what
  was granted, less what was received.  The initial window is the default one until
  the SETTINGS ack reaches the stream, and the configured one from then on.
-/
import NtexH2.Session.Ledger

set_option autoImplicit false

namespace NtexH2

namespace Session

/-- The initial window of a stream, as its receiver counts it. -/
def base (k : Session) (o : Nat) : Nat :=
  if k.settingsProcessed = true ∧ o ∉ k.acking then k.config.windowSz
  else defaultInitialWindowSize

theorem base_eq {k k' : Session} {o : Nat} (h1 : k'.settingsProcessed = k.settingsProcessed)
    (h2 : k'.acking = k.acking) (h3 : k'.config = k.config) : k'.base o = k.base o := by
  unfold base
  rw [h1, h2, h3]

theorem base_push (k : Session) (e : Event) (o : Nat) : (k.push e).base o = k.base o := rfl

theorem base_modify (k : Session) (p : Nat) (f : Cell → Cell) (o : Nat) :
    (k.modify p f).base o = k.base o := rfl

theorem base_charge (k : Session) (p : Nat) (d : Data) (o : Nat) :
    (k.charge p d).base o = k.base o := rfl

/-- The invariant of the receive windows of streams. -/
structure Grants (k : Session) : Prop where
  fresh : ∀ o, k.created ≤ o →
    total (Event.gotOn o) k.log = 0 ∧ total (Event.grant o) k.log = 0
  books : ∀ o < k.created, (k.cells o).recv ≠ .closed →
    (k.cells o).recvWindow + total (Event.gotOn o) k.log = k.base o + total (Event.grant o) k.log

/-! ## Steps that the windows do not see -/

/-- The receive windows of the streams that stay open are as they were. -/
structure GrantsFrame (k k' : Session) : Prop where
  config : k'.config = k.config
  created : k'.created = k.created
  settingsProcessed : k'.settingsProcessed = k.settingsProcessed
  acking : k'.acking = k.acking
  window : ∀ o, (k'.cells o).recvWindow = (k.cells o).recvWindow
  recv : ∀ o, (k'.cells o).recv ≠ .closed → (k.cells o).recv ≠ .closed
  log : ∀ o, k.created ≤ o ∨ (k'.cells o).recv ≠ .closed →
    total (Event.gotOn o) k'.log = total (Event.gotOn o) k.log ∧
      total (Event.grant o) k'.log = total (Event.grant o) k.log

section

variable {k k' k'' : Session}

theorem Grants.frame (h : k.Grants) (f : GrantsFrame k k') : k'.Grants where
  fresh := by
    intro o ho
    rw [f.created] at ho
    obtain ⟨h1, h2⟩ := f.log o (.inl ho)
    rw [h1, h2]
    exact h.fresh o ho
  books := by
    intro o ho hr
    rw [f.created] at ho
    obtain ⟨h1, h2⟩ := f.log o (.inr hr)
    rw [f.window, h1, h2, base_eq f.settingsProcessed f.acking f.config]
    exact h.books o ho (f.recv o hr)

theorem GrantsFrame.trans (f : GrantsFrame k k') (g : GrantsFrame k' k'') :
    GrantsFrame k k'' where
  config := g.config.trans f.config
  created := g.created.trans f.created
  settingsProcessed := g.settingsProcessed.trans f.settingsProcessed
  acking := g.acking.trans f.acking
  window := fun o => (g.window o).trans (f.window o)
  recv := fun o hr => f.recv o (g.recv o hr)
  log := by
    intro o ho
    obtain ⟨h1, h2⟩ := g.log o (ho.imp_left fun hle => f.created ▸ hle)
    obtain ⟨h1', h2'⟩ := f.log o (ho.imp_right (g.recv o))
    exact ⟨h1.trans h1', h2.trans h2'⟩

/-- A change of other fields. -/
theorem GrantsFrame.other (h1 : k'.config = k.config) (h2 : k'.created = k.created)
    (h3 : k'.settingsProcessed = k.settingsProcessed) (h4 : k'.acking = k.acking)
    (h5 : ∀ o, (k'.cells o).recvWindow = (k.cells o).recvWindow)
    (h6 : ∀ o, (k'.cells o).recv ≠ .closed → (k.cells o).recv ≠ .closed)
    (h7 : k'.log = k.log) : GrantsFrame k k' :=
  ⟨h1, h2, h3, h4, h5, h6, fun o _ => by rw [h7]; exact ⟨rfl, rfl⟩⟩

theorem GrantsFrame.refl (k : Session) : GrantsFrame k k :=
  .other rfl rfl rfl rfl (fun _ => rfl) (fun _ h => h) rfl

theorem GrantsFrame.push (k : Session) {e : Event} (hd : ∀ o, e.gotOn o = 0)
    (hg : ∀ o, e.grant o = 0) : GrantsFrame k (k.push e) := by
  refine ⟨rfl, rfl, rfl, rfl, fun _ => rfl, fun _ h => h, fun o _ => ?_⟩
  simp only [Session.push, total_cons, hd, hg, Nat.zero_add, and_self]

theorem GrantsFrame.modify (k : Session) (o : Nat) {f : Cell → Cell}
    (hw : ∀ s, (f s).recvWindow = s.recvWindow)
    (hr : ∀ s, (f s).recv ≠ .closed → s.recv ≠ .closed) : GrantsFrame k (k.modify o f) := by
  refine .other rfl rfl rfl rfl (fun p => ?_) (fun p => ?_) rfl
  · by_cases hp : p = o
    · subst hp
      simp only [Session.modify, Function.update_self]
      exact hw _
    · simp only [Session.modify, Function.update_of_ne hp]
  · by_cases hp : p = o
    · subst hp
      simp only [Session.modify, Function.update_self]
      exact hr _
    · simp only [Session.modify, Function.update_of_ne hp]
      exact id

theorem Cell.close_recv {s : Cell} {r w : Bool} (h : (s.close r w).recv ≠ .closed) :
    s.recv ≠ .closed := by
  unfold Cell.close at h
  cases r with
  | true => exact absurd rfl h
  | false => exact h

theorem GrantsFrame.close (k : Session) (o : Nat) (r w : Bool) : GrantsFrame k (k.close o r w) := by
  refine ⟨rfl, rfl, rfl, rfl, fun p => ?_, fun p hp => ?_, fun p _ => ?_⟩
  · rw [close_cells]
    split
    · next hp => rw [hp]; rfl
    · rfl
  · rw [close_cells] at hp
    split at hp
    · next hpo =>
        rw [hpo]
        exact Cell.close_recv hp
    · exact hp
  · by_cases hend : k.Ends o r w
    · simp only [Session.close, hend, if_true, total_cons, Event.gotOn, Event.grant, Nat.zero_add,
        and_self]
    · simp only [Session.close, hend, if_false, and_self]

theorem GrantsFrame.ioClose (k : Session) : GrantsFrame k k.ioClose :=
  (GrantsFrame.push k (e := .close) (fun _ => rfl) fun _ => rfl).trans
    (.other rfl rfl rfl rfl (fun _ => rfl) (fun _ h => h) rfl)

theorem GrantsFrame.reset (k : Session) (o : Nat) (r : Reason) : GrantsFrame k (k.reset o r) :=
  (GrantsFrame.push k (e := .sent (some o) .resetSilent (.reset (k.cells o).id r)) (fun _ => rfl)
    fun _ => rfl).trans (.close _ o true true)

theorem GrantsFrame.topUp (k : Session) : GrantsFrame k k.topUp := by
  unfold Session.topUp
  split
  · exact (GrantsFrame.push k (e := .sent none .connection _) (fun _ => rfl) fun _ => rfl).trans
      (.other rfl rfl rfl rfl (fun _ => rfl) (fun _ h => h) rfl)
  · exact .refl k

/-! ## Steps that move a window -/

/-- The window of a stream is announced again. -/
theorem Grants.streamTopUp (h : k.Grants) {o : Nat} (ho : o < k.created) :
    (k.streamTopUp o).Grants := by
  unfold Session.streamTopUp
  split
  · next hcond =>
      have ha := hcond.2
      unfold announces at ha
      constructor
      · intro p hp
        have hne : o ≠ p := Nat.ne_of_lt (Nat.lt_of_lt_of_le ho hp)
        obtain ⟨h1, h2⟩ := h.fresh p hp
        simp only [Session.push, Session.modify, total_cons, Event.gotOn, Event.grant,
          if_neg hne, Nat.zero_add]
        exact ⟨h1, h2⟩
      · intro p hp hr
        by_cases hpo : p = o
        · subst hpo
          have hb := h.books p hp hcond.1
          rw [base_push, base_modify]
          simp only [Session.push, Session.modify, Function.update_self, total_cons, Event.gotOn,
            Event.grant, if_true, Nat.zero_add]
          omega
        · have hne : o ≠ p := fun he => hpo he.symm
          simp only [Session.push, Session.modify, Function.update_of_ne hpo] at hr
          have hb := h.books p hp hr
          rw [base_push, base_modify]
          simp only [Session.push, Session.modify, Function.update_of_ne hpo, total_cons,
            Event.gotOn, Event.grant, if_neg hne, Nat.zero_add]
          exact hb
  · exact h

theorem Grants.charge (h : k.Grants) {o : Nat} (ho : o < k.created) (d : Data) :
    (k.charge o d).Grants := by
  constructor
  · intro p hp
    have hne : o ≠ p := Nat.ne_of_lt (Nat.lt_of_lt_of_le ho hp)
    obtain ⟨h1, h2⟩ := h.fresh p hp
    simp only [Session.charge, total_cons, Event.gotOn, Event.grant, if_neg hne, Nat.zero_add]
    exact ⟨h1, h2⟩
  · intro p hp hr
    by_cases hpo : p = o
    · subst hpo
      simp only [Session.charge, Function.update_self] at hr
      have hb := h.books p hp hr
      rw [base_charge]
      simp only [Session.charge, Function.update_self, total_cons, Event.gotOn, Event.grant,
        if_true, Nat.zero_add]
      omega
    · have hne : o ≠ p := fun he => hpo he.symm
      simp only [Session.charge, Function.update_of_ne hpo] at hr
      have hb := h.books p hp hr
      rw [base_charge]
      simp only [Session.charge, Function.update_of_ne hpo, total_cons, Event.gotOn, Event.grant,
        if_neg hne, Nat.zero_add]
      exact hb

/-- DATA beyond the window of its stream ends the stream. -/
theorem GrantsFrame.overrun {o : Nat} (ho : o < k.created) (d : Data) :
    GrantsFrame k (k.overrun o d) := by
  generalize hk1 : ({ k with
    recvWindow := k.recvWindow - d.flowLen
    log := .received (some o) (.data d) :: k.log } : Session) = k1
  have hf : GrantsFrame k1 (k.overrun o d) := by
    unfold Session.overrun Session.stray
    rw [hk1]
    exact ((GrantsFrame.topUp k1).trans (.push _ (e := .streamFailed o .recvWindowExceeded)
      (fun _ => rfl) fun _ => rfl)).trans (.reset _ o _)
  have hlog : k1.log = .received (some o) (.data d) :: k.log := by rw [← hk1]
  have hcells : k1.cells = k.cells := by rw [← hk1]
  have hcreated : k1.created = k.created := by rw [← hk1]
  refine ⟨hf.config.trans (by rw [← hk1]), hf.created.trans hcreated,
    hf.settingsProcessed.trans (by rw [← hk1]), hf.acking.trans (by rw [← hk1]),
    fun p => (hf.window p).trans (by rw [hcells]), fun p hr => hcells ▸ hf.recv p hr, ?_⟩
  intro p hp
  have hne : o ≠ p := by
    rcases hp with hle | hr
    · exact Nat.ne_of_lt (Nat.lt_of_lt_of_le ho hle)
    · rintro rfl
      refine hr ?_
      show ((_ : Session).close o true true |>.cells o).recv = .closed
      rw [close_cells_self]
      rfl
  obtain ⟨h1, h2⟩ := hf.log p (hp.imp_left fun hle => hcreated ▸ hle)
  rw [h1, h2, hlog, total_cons, total_cons]
  simp only [Event.gotOn, Event.grant, if_neg hne, Nat.zero_add, and_self]

/-- A new stream. -/
theorem Grants.insert (h : k.Grants) (ht : k.Table) {s : Cell}
    (hw : s.recvWindow = if k.settingsProcessed then (k.config.windowSz : Int)
      else defaultInitialWindowSize) : (k.insert s).Grants := by
  constructor
  · exact fun p hp => h.fresh p (Nat.le_of_succ_le hp)
  · intro p hp hr
    have hp' : p < k.created + 1 := hp
    by_cases hpc : p = k.created
    · subst hpc
      obtain ⟨h1, h2⟩ := h.fresh k.created (Nat.le_refl _)
      have hack : k.created ∉ k.acking := fun hm => absurd (ht.acking _ hm) (Nat.lt_irrefl _)
      have hbase : (k.insert s).base k.created =
          if k.settingsProcessed = true then k.config.windowSz else defaultInitialWindowSize := by
        unfold base
        simp only [Session.insert, hack, not_false_eq_true, and_true]
      have hcell : ((k.insert s).cells k.created).recvWindow = s.recvWindow := by
        simp only [Session.insert, Function.update_self]
      rw [hbase, hcell, hw, show (k.insert s).log = k.log from rfl, h1, h2]
      split
      · rfl
      · rfl
    · have hcell : (k.insert s).cells p = k.cells p := by
        simp only [Session.insert, Function.update_of_ne hpc]
      rw [hcell] at hr ⊢
      exact h.books p (Nat.lt_of_le_of_ne (Nat.le_of_lt_succ hp') hpc) hr

theorem GrantsFrame.of_insert {s : Cell} (h1 : k'.config = k.config)
    (h2 : k'.created = k.created + 1) (h3 : k'.settingsProcessed = k.settingsProcessed)
    (h4 : k'.acking = k.acking) (h5 : k'.cells = Function.update k.cells k.created s)
    (h6 : ∀ o, total (Event.gotOn o) k'.log = total (Event.gotOn o) k.log ∧
      total (Event.grant o) k'.log = total (Event.grant o) k.log) :
    GrantsFrame (k.insert s) k' :=
  ⟨h1, h2, h3, h4, fun o => by rw [h5]; rfl, fun o h => by rw [h5] at h; exact h,
    fun o _ => h6 o⟩

/-- The ack of the settings begins: it has not reached a stream yet. -/
theorem Grants.ackBegin (h : k.Grants) (ht : k.Table) {s : Settings}
    (hp : k.settingsProcessed = false) : (k.ackBegin s).Grants := by
  have hlog : ∀ o, total (Event.gotOn o) (k.ackBegin s).log = total (Event.gotOn o) k.log ∧
      total (Event.grant o) (k.ackBegin s).log = total (Event.grant o) k.log := by
    intro o
    simp only [Session.ackBegin, total_cons, Event.gotOn, Event.grant, Nat.zero_add, and_self]
  constructor
  · intro o ho
    rw [(hlog o).1, (hlog o).2]
    exact h.fresh o ho
  · intro o ho hr
    have hlive : o ∈ k.values := by
      refine (ht.live o ho).mpr fun hd => hr ?_
      exact hd.1
    have hold : k.base o = defaultInitialWindowSize := by
      unfold base
      rw [hp]
      rfl
    have hnew : (k.ackBegin s).base o = defaultInitialWindowSize :=
      if_neg fun hc => hc.2 hlive
    have hb := h.books o ho hr
    rw [(hlog o).1, (hlog o).2, hnew, ← hold]
    exact hb

/-- The ack reaches a stream: the difference of the initial windows is below any overflow. -/
theorem Grants.ackOne (h : k.Grants) (ht : k.Table) (hc : k.Credit)
    (hsz : k.config.windowSz ≤ 2 ^ 30) {o : Nat} {rest : List Nat} (ha : k.acking = o :: rest) :
    (k.ackOne o rest).Grants := by
  have hlt : o < k.created := ht.acking o (ha ▸ List.mem_cons_self)
  have hdone : k.settingsProcessed = true := hc.begun (by rw [ha]; exact List.cons_ne_nil _ _)
  have hnot : o ∉ rest := (List.nodup_cons.mp (ha ▸ hc.acking)).1
  have hold : k.base o = defaultInitialWindowSize := by
    refine if_neg fun hcond => hcond.2 ?_
    rw [ha]
    exact List.mem_cons_self
  have hother : ∀ p, p ≠ o → ({ k with acking := rest } : Session).base p = k.base p := by
    intro p hp
    unfold base
    rw [ha]
    simp only [List.mem_cons, hp, false_or]
  have hself : ({ k with acking := rest } : Session).base o = k.config.windowSz :=
    if_pos ⟨hdone, hnot⟩
  obtain ⟨hw0, hw1⟩ := hc.waits o hlt (.inr (ha ▸ List.mem_cons_self))
  unfold Session.ackOne
  split
  · next hskip =>
      refine ⟨h.fresh, fun p hp hr => ?_⟩
      by_cases hpo : p = o
      · subst hpo
        have hzero : k.shift = 0 := hskip.resolve_left hr
        have hb := h.books p hp hr
        rw [hold] at hb
        rw [hself]
        unfold shift at hzero
        show (k.cells p).recvWindow + (total (Event.gotOn p) k.log : Int) =
          (k.config.windowSz : Int) + (total (Event.grant p) k.log : Int)
        omega
      · rw [hother p hpo]
        exact h.books p hp hr
  · next hopen =>
      split
      · next hover =>
          unfold shift defaultInitialWindowSize at *
          omega
      · refine Grants.streamTopUp ?_ (o := o) hlt
        refine ⟨h.fresh, fun p hp hr => ?_⟩
        rw [base_modify]
        by_cases hpo : p = o
        · subst hpo
          have hb := h.books p hp fun hcl => hopen (.inl hcl)
          rw [hold] at hb
          rw [hself]
          simp only [Session.modify, Function.update_self]
          unfold shift
          omega
        · simp only [Session.modify, Function.update_of_ne hpo] at hr ⊢
          rw [hother p hpo]
          exact h.books p hp hr

/-- Events that are no payload and no grant. -/
theorem GrantsFrame.quiet (k : Session) {e : Event} (he : e.Quiet) : GrantsFrame k (k.push e) :=
  .push k he.silent.gotOn he.silent.grant

/-- The failure of a session closes the stream of the frame at fault. -/
theorem GrantsFrame.fail (ht : k.Table) {evs : List Event} {window : Nat → Int}
    {windowSz frameSize : Nat} (he : k.FailEvents evs windowSz frameSize) :
    GrantsFrame k (k.fail evs window windowSz frameSize) := by
  have hcell : ∀ o, ((k.fail evs window windowSz frameSize).cells o).recv ≠ .closed →
      o ∉ k.values ∧ (k.cells o).recv ≠ .closed := by
    intro o hr
    simp only [Session.fail] at hr
    split at hr
    · exact absurd rfl hr
    · next ho => exact ⟨ho, hr⟩
  refine ⟨rfl, rfl, rfl, rfl, fun o => ?_, fun o hr => (hcell o hr).2, fun o ho => ?_⟩
  · simp only [Session.fail]
    split
    · rfl
    · rfl
  · have hnot : o ∉ k.values := by
      rcases ho with hle | hr
      · exact fun hm => absurd (ht.bound o hm) (Nat.not_lt_of_le hle)
      · exact (hcell o hr).1
    have hzero : ∀ e ∈ evs, e.gotOn o = 0 ∧ e.grant o = 0 := by
      intro e hmem
      rcases he.mem e hmem with ⟨err, rfl⟩ | ⟨obj, f, rfl, hobj⟩
      · exact ⟨rfl, rfl⟩
      · refine ⟨?_, rfl⟩
        cases obj with
        | none => rfl
        | some p =>
            have hne : p ≠ o := fun hpo => hnot (hpo ▸ hobj p rfl)
            cases f with
            | data d => exact if_neg hne
            | _ => rfl
    have htotal : ∀ f : Event → Nat, (∀ e ∈ evs, f e = 0) → total f (evs ++ k.log) =
        total f k.log := by
      intro f hf
      rw [total_append, total_eq_zero hf, Nat.zero_add]
    exact ⟨htotal _ fun e hm => (hzero e hm).1, htotal _ fun e hm => (hzero e hm).2⟩

end

/-! ## Every step -/

theorem Grants.step {G : Guard} {k k' : Session} (h : k.Grants) (ht : k.Table) (hc : k.Credit)
    (hsz : k.config.windowSz ≤ 2 ^ 30) (hs : Step G k k') : k'.Grants := by
  have hsame : ∀ {k k' : Session}, k'.config = k.config → k'.created = k.created →
      k'.settingsProcessed = k.settingsProcessed → k'.acking = k.acking → k'.cells = k.cells →
      k'.log = k.log → GrantsFrame k k' :=
    fun h1 h2 h3 h4 h5 h6 => .other h1 h2 h3 h4 (fun o => by rw [h5]) (fun o h => h5 ▸ h) h6
  cases hs with
  | quiet he => exact h.frame (.quiet k he)
  | raise hserver hid => exact h.frame (hsame rfl rfl rfl rfl rfl rfl)
  | @accept id hserver hd hid hodd hmax =>
      exact (h.insert ht (s := k.newCell id) rfl).frame
        (.of_insert rfl rfl rfl rfl rfl fun _ => ⟨rfl, rfl⟩)
  | @openLocal hd reserved hserver hf hg hdr hid hmax hr =>
      refine (h.insert ht (s := k.openCell hd) rfl).frame
        (.of_insert rfl rfl rfl rfl rfl fun o => ?_)
      simp only [Session.openLocal, total_cons, Event.gotOn, Event.grant, Nat.zero_add, and_self]
  | close ho hrw => exact h.frame (.close k _ _ _)
  | @remoteReset o id r ho =>
      exact h.frame ((GrantsFrame.push k (e := .received (some o) (.reset id r)) (fun _ => rfl)
        fun _ => rfl).trans (.close _ o true true))
  | @recvPayload o ho hi =>
      refine h.frame (.other rfl rfl rfl rfl (fun p => ?_) (fun p hr => ?_) rfl)
      · by_cases hp : p = o
        · subst hp
          simp only [Session.modify, Function.update_self]
        · simp only [Session.modify, Function.update_of_ne hp]
      · by_cases hp : p = o
        · rw [hp, hi]
          exact Half.noConfusion
        · simp only [Session.modify, Function.update_of_ne hp] at hr
          exact hr
  | @interim o hd ho hi hid hend =>
      exact h.frame (.push k (e := .sent (some o) .sendInformational (.headers hd)) (fun _ => rfl)
        fun _ => rfl)
  | @respond o hd ho hi hid =>
      refine h.frame (GrantsFrame.trans ?_ (.push _ (e := .sent (some o) .sendResponse
        (.headers hd)) (fun _ => rfl) fun _ => rfl))
      split
      · exact .close k o false true
      · exact .modify k o (fun _ => rfl) fun _ h => h
  | @chunk o d ho hp hid hw hcon hm =>
      have h1 := (GrantsFrame.push k (e := .sent (some o) .sendPages (.data d)) (fun _ => rfl)
        fun _ => rfl).trans (.close _ o false d.endStream)
      have h2 := h1.trans (.modify _ o (f := fun s =>
        { s with sendWindow := s.sendWindow - d.flowLen }) (fun _ => rfl) fun _ h => h)
      exact h.frame (h2.trans (hsame rfl rfl rfl rfl rfl rfl))
  | @finish o ho hp =>
      exact h.frame ((GrantsFrame.close k o false true).trans (.push _ (fun _ => rfl)
        fun _ => rfl))
  | @trailers o hd ho hp hid hend =>
      exact h.frame ((GrantsFrame.push k (e := .sent (some o) .sendTrailers (.headers hd))
        (fun _ => rfl) fun _ => rfl).trans (.close _ o false true))
  | reset ho => exact h.frame (.reset k _ _)
  | charge ho hid hw hcon => exact h.charge (ht.bound _ ho) _
  | @stray d hid hcon =>
      have h1 : GrantsFrame k { k with
          recvWindow := k.recvWindow - d.flowLen
          log := .received none (.data d) :: k.log } :=
        (GrantsFrame.push k (e := .received none (.data d)) (fun _ => rfl) fun _ => rfl).trans
          (hsame rfl rfl rfl rfl rfl rfl)
      exact h.frame (h1.trans (.topUp _))
  | overrun ho hid hw hcon => exact h.frame (.overrun (ht.bound _ ho) _)
  | @release o n caps ho hcaps hheld hall =>
      rw [release_eq]
      have h1 : GrantsFrame k (k.released o n caps) := by
        have h0 : GrantsFrame k { k with caps := caps, recvSize := k.recvSize - n } :=
          hsame rfl rfl rfl rfl rfl rfl
        exact h0.trans (.modify _ o (fun _ => rfl) fun _ h => h)
      exact ((h.frame h1).streamTopUp (h1.created ▸ ho)).frame (.topUp _)
  | caps hcaps hheld hall => exact h.frame (hsame rfl rfl rfl rfl rfl rfl)
  | @conCredit n hn =>
      exact h.frame ((GrantsFrame.push k (e := .received none (.windowUpdate 0 n)) (fun _ => rfl)
        fun _ => rfl).trans (hsame rfl rfl rfl rfl rfl rfl))
  | @credit o n id ho hid hn =>
      exact h.frame ((GrantsFrame.push k (e := .received (some o) (.windowUpdate id n))
        (fun _ => rfl) fun _ => rfl).trans (.modify _ o (fun _ => rfl) fun _ h => h))
  | @lateCredit id n h0 hid =>
      exact h.frame (.push k (e := .received none (.windowUpdate id n)) (fun _ => rfl)
        fun _ => rfl)
  | @badCredit o n id e ho hid =>
      exact h.frame (((GrantsFrame.push k (e := .received (some o) (.windowUpdate id n))
        (fun _ => rfl) fun _ => rfl).trans (.push _ (e := .streamFailed o e) (fun _ => rfl)
          fun _ => rfl)).trans (.reset _ o _))
  | @settings st hack hw hn =>
      have h1 := (GrantsFrame.push k (e := .received none (.settings st)) (fun _ => rfl)
        fun _ => rfl).trans (.push _ (e := .sent none .connection (.settings .newAck))
          (fun _ => rfl) fun _ => rfl)
      refine h.frame (h1.trans (.other rfl rfl rfl rfl (fun o => ?_) (fun o hr => ?_) rfl))
      · simp only [Session.settings, Session.push]
        split
        · rfl
        · rfl
      · simp only [Session.settings] at hr
        split at hr
        · exact hr
        · exact hr
  | ackBegin hack hp => exact h.ackBegin ht hp
  | ackOne ha hG => exact h.ackOne ht hc hsz ha
  | @ackFailed o e l ho hl =>
      have h1 : GrantsFrame k { k with ackErrors := l } := hsame rfl rfl rfl rfl rfl rfl
      have h2 := h1.trans (.push _ (e := .streamFailed o e) (fun _ => rfl) fun _ => rfl)
      exact h.frame ((h2.trans (.close _ o true true)).trans (.push _
        (e := .sent none .connection (.reset (k.cells o).id e.reason)) (fun _ => rfl)
        fun _ => rfl))
  | fail he => exact h.frame (.fail ht he)
  | shut _ => exact h.frame (.ioClose k)
  | drain =>
      have h1 : GrantsFrame k { k with draining := true } := hsame rfl rfl rfl rfl rfl rfl
      unfold Session.drain
      split
      · exact h.frame (h1.trans (.ioClose _))
      · exact h.frame h1
  | goneAway => exact h.frame (hsame rfl rfl rfl rfl rfl rfl)
  | reserve hs hf hg hd => exact h.frame (hsame rfl rfl rfl rfl rfl rfl)
  | unreserve hs hr =>
      unfold Session.unreserve
      dsimp only
      split
      · refine h.frame (GrantsFrame.trans ?_ (.ioClose _))
        exact hsame rfl rfl rfl rfl rfl rfl
      · exact h.frame (hsame rfl rfl rfl rfl rfl rfl)
  | senders hl => exact h.frame (hsame rfl rfl rfl rfl rfl rfl)
  | reorder hl => exact h.frame (hsame rfl rfl rfl rfl rfl rfl)

end Session

end NtexH2
