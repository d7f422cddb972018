/-
  Connection/Replies.lean --- what a received frame does to the streams.

  A frame is taken by at most one stream, which its application is told of.  Otherwise
  the streams that hear of an error have ended, and the stream that the frame names is
  one of them, or has ended before.
-/
import NtexH2.Connection.Messages

set_option autoImplicit false

namespace NtexH2

namespace Session

variable {k k' : Session}

/-! ## The errors of an ack -/

theorem topUp_ackErrors (k : Session) : k.topUp.ackErrors = k.ackErrors := by
  unfold Session.topUp
  split
  · rfl
  · rfl

/-- No window overflows when the settings are answered, if the initial windows are not beyond
2^30. -/
theorem Step.ackErrors_nil {G : Guard} (hg : k.Good) (hsz : k.config.windowSz ≤ 2 ^ 30)
    (h : k.ackErrors = []) (hs : Step G k k') : k'.ackErrors = [] := by
  cases hs with
  | @respond o hd ho hi hid =>
      unfold Session.respond
      split
      · exact h
      · exact h
  | stray hid hc => exact (topUp_ackErrors _).trans h
  | overrun ho hid hw hc => exact (topUp_ackErrors _).trans h
  | @release o n caps ho hcaps hheld hall =>
      rw [release_eq]
      exact ((topUp_ackErrors _).trans (Connection.streamTopUp_ackErrors _ o)).trans h
  | @ackOne o rest ha hG =>
      have hlt : o < k.created := hg.table.acking o (ha ▸ List.mem_cons_self)
      obtain ⟨-, hw⟩ := hg.credit.waits o hlt (.inr (ha ▸ List.mem_cons_self))
      unfold Session.ackOne
      split
      · exact h
      · split
        · next hover =>
            unfold shift defaultInitialWindowSize at hover
            unfold defaultInitialWindowSize at hw
            omega
        · exact (Connection.streamTopUp_ackErrors _ o).trans h
  | ackFailed ho hl =>
      rw [h] at ho
      exact absurd ho List.not_mem_nil
  | drain =>
      unfold Session.drain
      split
      · exact h
      · exact h
  | unreserve hs hr =>
      unfold Session.unreserve
      dsimp only
      split
      · exact h
      · exact h
  | _ => exact h

theorem Steps.ackErrors_nil {G : Guard} (hg : k.Good) (hsz : k.config.windowSz ≤ 2 ^ 30)
    (h : k.ackErrors = []) (hs : Steps G k k') : k'.ackErrors = [] ∧ k'.config = k.config := by
  induction hs with
  | refl => exact ⟨h, rfl⟩
  | tail hsteps hstep ih =>
      obtain ⟨h1, hcfg⟩ := ih
      have hg1 := hg.steps hsteps
      exact ⟨hstep.ackErrors_nil hg1 (hcfg ▸ hsz) h1, (hstep.config_eq hg1.table).trans hcfg⟩

end Session

namespace Connection

variable {P : Obj → Prop} {c c' c1 : Connection} {o : Obj} {f : Frame}

/-! ## Results -/

/-- The result of a received frame, before it is answered.  One stream may have ended without a
word: that of the RST_STREAM which is one too many. -/
inductive Returns (c : Connection) (f : Frame) : Received × Connection → Prop where
  | quiet {c' : Connection} (h : Mute Nobody Nobody c c') (hc : c'.created = c.created)
      (hid : f.isContent = true → ∀ o ∈ c.values, f.streamId ≠ some (c.objs o).id) :
      Returns c f (.ok none, c')
  | told {o : Obj} {m : Message} {c' : Connection} (ho : o ∈ c.values)
      (hid : f.streamId = some (c.objs o).id) (h : Tells c o f m c')
      (hc : c'.created = c.created) : Returns c f (.ok (some (o, m)), c')
  | opened {c1 : Connection} {m : Message} {c' : Connection} (h1 : Mute Nobody Nobody c c1)
      (hc : c1.created = c.created + 1) (hr : (c1.objs c.created).recv = .idle)
      (hs : (c1.objs c.created).remote = c.server)
      (hid : ∀ o ∈ c.values, f.streamId ≠ some (c.objs o).id)
      (h : Tells c1 c.created f m c') (hc' : c'.created = c1.created)
      (hn : f.streamId = some (c'.objs c.created).id) : Returns c f (.ok (some (c.created, m)), c')
  | failed {o : Obj} {e : StreamError} {c' : Connection} (ho : o ∈ c.values)
      (hid : f.streamId = some (c.objs o).id) (h : Mute Nobody (· = o) c c')
      (hc : c'.created = c.created) : Returns c f (.error (.stream o e), c')
  | refused {e : StreamError} {c' : Connection} (h : Mute Nobody Nobody c c')
      (hc : c'.created = c.created + 1) (hn : f.streamId = some (c'.objs c.created).id)
      (hid : ∀ o ∈ c.values, f.streamId ≠ some (c.objs o).id) :
      Returns c f (.error (.stream c.created e), c')
  | broken {e : ConnectionError} {c' : Connection} {Q : Obj → Prop} (h : Mute Nobody Q c c')
      (hq : ∀ o, Q o → ¬c.Uncounted ∧ e = .streamResetsLimit ∧
        ∃ id r, .received (some o) (.reset id r) ∈ c'.log)
      (hc : c'.created = c.created) (hv : ∀ o ∈ c'.values, o ∈ c.values) (hn : c'.values.Nodup)
      (hid : f.isContent = true → c'.values = c.values) : Returns c f (.error (.connection e), c')

theorem created_of_past (h : c'.past = c.past) : c'.created = c.created :=
  congrArg Past.created h

/-- Streams may end, and none is opened. -/
def unopened : Scope := ⟨True, True, False, fun _ => False, fun _ => True⟩

theorem Stays.created_eq (h : Stays unopened c c') : c'.created = c.created := by
  refine Nat.le_antisymm (Nat.le_of_not_lt fun hlt => ?_) h.created
  rcases h.ids c.created hlt with ⟨hlt', -⟩ | hno | hno
  · exact absurd hlt' (Nat.lt_irrefl _)
  · exact hno
  · exact hno

theorem Stays.id_eq (h : Stays unopened c c') (ho : o < c.created) :
    (c'.objs o).id = (c.objs o).id := by
  rcases h.ids o (Nat.lt_of_lt_of_le ho h.created) with ⟨-, heq⟩ | hno | hno
  · exact heq
  · exact False.elim hno
  · exact False.elim hno

/-- Received frames are not forgotten. -/
theorem received_mem {s : Scope} (h : Stays s c c') {obj : Option Obj} {g : Frame}
    (hg : .received obj g ∈ c.log) : .received obj g ∈ c'.log := by
  have hk : Event.received obj g ∈ c.past.kept := List.mem_filter.mpr ⟨hg, rfl⟩
  rw [← h.kept] at hk
  exact (List.mem_filter.mp hk).1

/-- No stream of the map has the id. -/
theorem query_none (ht : c.session.Table) {id : StreamId} (hq : c.query id = none) :
    ∀ o ∈ c.values, some id ≠ some (c.objs o).id := by
  intro o ho heq
  rw [Option.some.inj heq, query_id ht ho] at hq
  cases hq

/-- An error of the connection that leaves the map as it is. -/
theorem Returns.fails (ht : c.session.Table) {e : ConnectionError} (h : Mute Nobody Nobody c c')
    (hc : c'.created = c.created) (hs : c'.streams = c.streams) :
    Returns c f (.error (.connection e), c') := by
  have hv : c'.values = c.values := by
    unfold Connection.values
    rw [hs]
  refine .broken h (fun o ho => False.elim ho) hc (fun o ho => hv ▸ ho) ?_ fun _ => hv
  rw [hv]
  exact ht.nodup

theorem Returns.lift (ho : o ∈ c.values) (hid : f.streamId = some (c.objs o).id)
    {r : Except StreamError (Option Message) × Connection} (h : Yields c o f r)
    (hc : r.2.created = c.created) : Returns c f (lift o r) := by
  cases h with
  | refused h => exact .failed ho hid (h.mono fun _ hn => False.elim hn) hc
  | told h => exact .told ho hid h hc

/-- A result that only counts a reset. -/
theorem returns_resetUnknownStream (ht : c.session.Table) (h : Mute Nobody Nobody c c1)
    (hc : c1.created = c.created) (hs : c1.streams = c.streams) (r : Reason) {id : StreamId}
    (hid : f.isContent = true → ∀ o ∈ c.values, f.streamId ≠ some (c.objs o).id) :
    Returns c f (c1.resetUnknownStream id r) := by
  have hu : Mute Nobody Nobody c c1.updateRstCount.2 := h.trans (mute_updateRstCount c1)
  have hs' : c1.updateRstCount.2.streams = c.streams := (updateRstCount_streams c1).trans hs
  have hc' : c1.updateRstCount.2.created = c.created :=
    (created_of_past (past_updateRstCount c1)).trans hc
  unfold resetUnknownStream
  cases hr : c1.updateRstCount with
  | mk x c2 =>
      rw [hr] at hu hs' hc'
      cases x with
      | error e => exact .fails ht hu hc' hs'
      | ok u =>
          have hadd : ((c2.encodeCon (.reset id r)).addPending id).created = c2.created :=
            created_of_past (past_addPending (c2.encodeCon (.reset id r)) id)
          exact .quiet ((hu.encodeCon _).trans (mute_addPending _ _)) (hadd.trans hc') hid

/-! ## HEADERS -/

/-- Only a server counts streams. -/
theorem mute_countStream {Q : Obj → Prop} (hs : c.server = true) : Mute P Q c c.countStream := by
  refine .still rfl rfl fun hu => ?_
  rw [hu.1] at hs
  cases hs

theorem returns_acceptStream {h : Headers} (hserver : c.server = true) (hs1 : c1.server = true)
    (hid : ∀ o ∈ c.values, some h.streamId ≠ some (c.objs o).id) (h0 : Mute Nobody Nobody c c1)
    (hc : c1.created = c.created) : Returns c (.headers h) (c1.acceptStream h) := by
  unfold acceptStream
  dsimp only
  generalize hc2 : ({ c1.countStream.insertStream h.streamId true with
    activeRemoteStreams := (c1.countStream.insertStream h.streamId true).activeRemoteStreams + 1 } :
      Connection) = c2
  have h1 : Mute Nobody Nobody c1 c1.countStream := mute_countStream hs1
  have h2 : Mute Nobody Nobody c c2 := by
    rw [← hc2]
    exact (h0.trans (h1.trans (mute_insertStream _ _ _))).trans (.same rfl)
  have hcreated : c2.created = c.created + 1 := by
    rw [← hc2, ← hc]
    rfl
  have hrecv : (c2.objs c.created).recv = .idle := by
    rw [← hc2, ← hc]
    show (if c1.created = c1.created then _ else _ : Stream).recv = .idle
    rw [if_pos rfl]
    rfl
  have hside : (c2.objs c.created).remote = c.server := by
    rw [← hc2, ← hc, hserver]
    show (if c1.created = c1.created then _ else _ : Stream).remote = true
    rw [if_pos rfl]
    rfl
  have hsid : (c2.objs c.created).id = h.streamId := by
    rw [← hc2, ← hc]
    show (if c1.created = c1.created then _ else _ : Stream).id = h.streamId
    rw [if_pos rfl]
    rfl
  rw [hc]
  have htakes := yields_streamRecvHeaders c2 c.created h
  have hstays : Stays unopened c2 (c2.streamRecvHeaders c.created h).2 :=
    stays_streamRecvHeaders fun _ => trivial
  generalize c2.streamRecvHeaders c.created h = r at htakes hstays
  have hnew : c.created < c2.created := hcreated ▸ Nat.lt_succ_self _
  have hn : some h.streamId = some (r.2.objs c.created).id :=
    congrArg some (hsid.symm.trans (hstays.id_eq hnew).symm)
  cases htakes with
  | refused h3 => exact .refused (h2.trans h3) (hstays.created_eq.trans hcreated) hn hid
  | told h3 => exact .opened h2 hcreated hrecv hside hid h3 hstays.created_eq hn

theorem returns_recvNewHeaders (ht : c.session.Table) {h : Headers} (hserver : c.server = true)
    (hid : ∀ o ∈ c.values, some h.streamId ≠ some (c.objs o).id) :
    Returns c (.headers h) (c.recvNewHeaders h) := by
  have h0 : Mute Nobody Nobody c { c with lastId := h.streamId } := .same rfl
  have hcount : Mute Nobody Nobody c ({ c with lastId := h.streamId } : Connection).countStream :=
    h0.trans (mute_countStream hserver)
  unfold recvNewHeaders
  dsimp only
  split
  · have hadd := created_of_past (past_addPending
      (({ c with lastId := h.streamId } : Connection).encodeCon
        (.reset h.streamId .refusedStream)) h.streamId)
    exact .quiet ((h0.encodeCon _).trans (mute_addPending _ _)) hadd fun _ => hid
  · split
    · exact returns_resetUnknownStream ht hcount rfl rfl _ fun _ => hid
    · split
      · exact returns_resetUnknownStream ht hcount rfl rfl _ fun _ => hid
      · exact returns_acceptStream hserver hserver hid h0 rfl

theorem returns_recvHeaders (ht : c.session.Table) (h : Headers) :
    Returns c (.headers h) (c.recvHeaders h) := by
  unfold recvHeaders
  split
  · exact .fails ht (.refl c) rfl rfl
  · cases hq : c.query h.streamId with
    | some o =>
        obtain ⟨ho, hid⟩ := query_mem ht hq
        exact Returns.lift (f := .headers h) ho (congrArg some hid.symm)
          (yields_streamRecvHeaders c o h)
          (Stays.created_eq (stays_streamRecvHeaders fun _ => trivial))
    | none =>
        have hid := query_none ht hq
        dsimp only
        split
        · unfold recvClosedHeaders
          split
          · exact .fails ht (.refl c) rfl rfl
          · split
            · exact .quiet (.refl c) rfl fun _ => hid
            · exact .quiet ((Mute.refl c).encodeCon _) rfl fun _ => hid
        · next hserver =>
            have hserver' : c.server = true := by simpa using hserver
            split
            · split
              · exact .quiet (.refl c) rfl fun _ => hid
              · exact .fails ht (.refl c) rfl rfl
            · exact returns_recvNewHeaders ht hserver' hid

theorem returns_recvInvalidFrame (ht : c.session.Table) (g : InvalidFrame) :
    Returns c (.invalid g) (c.recvInvalidFrame g) := by
  have hu : Mute Nobody Nobody c c.updateRstCount.2 := mute_updateRstCount c
  have hs := updateRstCount_streams c
  have hc : c.updateRstCount.2.created = c.created := created_of_past (past_updateRstCount c)
  unfold recvInvalidFrame
  cases hq : c.query g.streamId with
  | some o =>
      obtain ⟨ho, hid⟩ := query_mem ht hq
      dsimp only
      cases hr : c.updateRstCount with
      | mk x c1 =>
          rw [hr] at hu hs hc
          cases x with
          | error e => exact .fails ht hu hc hs
          | ok u =>
              exact .failed ho (congrArg some hid.symm) (hu.mono fun _ hn => False.elim hn) hc
  | none =>
      have hnot : Frame.isContent (.invalid g) = true → ∀ o ∈ c.values,
          Frame.streamId (.invalid g) ≠ some (c.objs o).id := fun _ => query_none ht hq
      dsimp only
      split
      · exact .quiet (.refl c) rfl hnot
      · unfold recvInvalidHeaders
        split
        · exact .fails ht (.refl c) rfl rfl
        · split
          · split
            · exact .quiet (.refl c) rfl hnot
            · exact returns_resetUnknownStream ht (.refl c) rfl rfl _ hnot
          · next hserver =>
              have hserver' : c.server = true := by simpa using hserver
              have h0 : Mute Nobody Nobody c { c with lastId := g.streamId } := .same rfl
              split
              · exact .fails ht (.refl c) rfl rfl
              · exact returns_resetUnknownStream ht (h0.trans (mute_countStream hserver')) rfl rfl _
                  hnot
      · exact returns_resetUnknownStream ht (.refl c) rfl rfl _ hnot

/-! ## Other frames -/

theorem returns_recvData (ht : c.session.Table) (d : Data) :
    Returns c (.data d) (c.recvData d) := by
  have hstray : Mute Nobody Nobody c ((c.dataReceived d.flowLen).dataConsumed d.flowLen) :=
    (mute_dataReceived c _).trans (mute_dataConsumed _ _)
  have hpast : ((c.dataReceived d.flowLen).dataConsumed d.flowLen).created = c.created :=
    created_of_past ((past_dataConsumed _ _).trans (past_dataReceived c _))
  unfold recvData
  split
  · exact .fails ht (.refl c) rfl rfl
  · cases hq : c.query d.streamId with
    | some o =>
        obtain ⟨ho, hid⟩ := query_mem ht hq
        exact Returns.lift (f := .data d) ho (congrArg some hid.symm) (yields_streamRecvData c o d)
          (Stays.created_eq (stays_streamRecvData fun _ => trivial))
    | none =>
        have hid := query_none ht hq
        dsimp only
        split
        · exact .quiet hstray hpast fun _ => hid
        · split
          · exact .quiet (hstray.encodeCon _) hpast fun _ => hid
          · exact .fails ht (.refl c) rfl rfl

theorem recvConWindowUpdate_error {n : Nat} {e : ConnectionError}
    (h : c.recvConWindowUpdate n = (.error e, c1)) : c1 = c := by
  unfold recvConWindowUpdate at h
  split at h
  · exact (Prod.mk.inj h).2.symm
  · split at h
    · exact (Prod.mk.inj h).2.symm
    · cases (Prod.mk.inj h).1

theorem returns_recvWindowUpdate (ht : c.session.Table) (id : StreamId) (n : Nat) :
    Returns c (.windowUpdate id n) (c.recvWindowUpdate id n) := by
  have hnot : Frame.isContent (.windowUpdate id n) = true → ∀ o ∈ c.values,
      Frame.streamId (.windowUpdate id n) ≠ some (c.objs o).id :=
    fun hf => absurd hf Bool.false_ne_true
  have hcon : Mute Nobody Nobody c (c.recvConWindowUpdate n).2 := mute_recvConWindowUpdate c n
  have hc : (c.recvConWindowUpdate n).2.created = c.created :=
    created_of_past (past_recvConWindowUpdate c n)
  unfold recvWindowUpdate
  split
  · cases hr : c.recvConWindowUpdate n with
    | mk x c1 =>
        rw [hr] at hcon hc
        cases x with
        | error e => exact .fails ht hcon hc (by rw [recvConWindowUpdate_error hr])
        | ok u => exact .quiet hcon hc hnot
  · cases hq : c.query id with
    | some o =>
        obtain ⟨ho, hid⟩ := query_mem ht hq
        have h1 : Mute Nobody Nobody c (c.streamRecvWindowUpdate o n).2 :=
          mute_streamRecvWindowUpdate c o n
        have hc1 : (c.streamRecvWindowUpdate o n).2.created = c.created :=
          created_of_past (past_streamRecvWindowUpdate c o n)
        dsimp only
        cases hr : c.streamRecvWindowUpdate o n with
        | mk x c1 =>
            rw [hr] at h1 hc1
            cases x with
            | error e =>
                exact .failed ho (congrArg some hid.symm) (h1.mono fun _ hn => False.elim hn) hc1
            | ok u => exact .quiet h1 hc1 hnot
    | none =>
        dsimp only
        split
        · exact .quiet (.refl c) rfl hnot
        · split
          · exact .fails ht (.refl c) rfl rfl
          · exact .quiet ((Mute.refl c).encodeCon _) rfl hnot

/-- A stream leaves the map when it is reset. -/
theorem remoteResetStream_values (ht : c.session.Table) (ho : o < c.created) (r : Reason) :
    (c.remoteResetStream o r).values.Nodup ∧
      ∀ p ∈ (c.remoteResetStream o r).values, p ∈ c.values := by
  obtain ⟨hs, -⟩ := session_review ht ho (f := fun s => { s with
    recv := .closed none
    send := .closed (some r)
    error := some (.remoteReset r) }) (r := true) (w := true) rfl
  have hv : (c.remoteResetStream o r).session = c.session.close o true true := hs
  have hv' : (c.remoteResetStream o r).values = (c.session.close o true true).values :=
    congrArg Session.values hv
  rw [hv']
  exact ⟨(ht.close ho true true).nodup, fun p hp => ((Session.mem_values_close ht).mp hp).1⟩

/-- A client allows every reset. -/
theorem updateRstCount_counted {e : ConnectionError} (h : c.updateRstCount = (.error e, c1)) :
    ¬c.Uncounted := by
  intro hu
  have hten := (updateRstCount_refused (congrArg Prod.fst h)).2.2.1
  rw [hu.2, decay_small (by decide)] at hten
  exact absurd hten (Nat.not_succ_le_zero 9)

theorem updateRstCount_limit {e : ConnectionError} (h : c.updateRstCount = (.error e, c1)) :
    e = .streamResetsLimit := by
  unfold updateRstCount at h
  dsimp only at h
  split at h
  · cases (Prod.mk.inj h).1
    rfl
  · cases (Prod.mk.inj h).1

theorem returns_recvRstStream (ht : c.session.Table) (id : StreamId) (r : Reason)
    (hlog : .received (c.query id) (.reset id r) ∈ c.log) :
    Returns c (.reset id r) (c.recvRstStream id r) := by
  have hnot : Frame.isContent (.reset id r) = true → ∀ o ∈ c.values,
      Frame.streamId (.reset id r) ≠ some (c.objs o).id := fun hf => absurd hf Bool.false_ne_true
  unfold recvRstStream
  split
  · exact .fails ht (.refl c) rfl rfl
  · cases hq : c.query id with
    | some o =>
        obtain ⟨ho, hid⟩ := query_mem ht hq
        have h1 : ∀ {Q : Obj → Prop}, (c.objs o).recv.isClosed = true ∨ Q o →
            Mute Nobody Q c (c.remoteResetStream o r) :=
          fun hQ => mute_remoteResetStream c o hQ r
        have hkept : Event.received (some o) (.reset id r) ∈ (c.remoteResetStream o r).log :=
          received_mem (stays_remoteResetStream (s := unopened) o r) (hq ▸ hlog)
        have hc1 : (c.remoteResetStream o r).created = c.created :=
          Stays.created_eq (stays_remoteResetStream o r)
        obtain ⟨hn, hsub⟩ := remoteResetStream_values ht (ht.bound o ho) r
        dsimp only
        have hcount : c.Uncounted → (c.remoteResetStream o r).Uncounted :=
          (h1 (Q := (· = o)) (.inr rfl)).count
        generalize c.remoteResetStream o r = c1 at h1 hc1 hn hsub hkept hcount
        split
        · next hdone =>
            rw [Bool.and_eq_true, Bool.and_eq_true] at hdone
            exact .quiet (h1 (.inl hdone.1.2)) hc1 hnot
        · have hc2 : c1.updateRstCount.2.created = c.created :=
            (created_of_past (past_updateRstCount c1)).trans hc1
          have hu : Mute Nobody (· = o) c c1.updateRstCount.2 :=
            (h1 (Q := (· = o)) (.inr rfl)).trans (mute_updateRstCount c1)
          have hkept' : Event.received (some o) (.reset id r) ∈ c1.updateRstCount.2.log :=
            received_mem (.same (s := unopened) (past_updateRstCount c1)) hkept
          have hs := updateRstCount_streams c1
          cases hr : c1.updateRstCount with
          | mk x c2 =>
              rw [hr] at hu hs hc2 hkept'
              have hv : c2.values = c1.values := by
                unfold Connection.values
                rw [hs]
              cases x with
              | error e =>
                  refine .broken hu (fun p hp => ⟨fun hu => updateRstCount_counted hr (hcount hu),
                    updateRstCount_limit hr, id, r, hp ▸ hkept'⟩) hc2
                    (fun p hp => hsub p (hv ▸ hp)) ?_ fun hf => absurd hf Bool.false_ne_true
                  rw [hv]
                  exact hn
              | ok u => exact .failed ho (congrArg some hid.symm) hu hc2
    | none =>
        dsimp only
        cases hrem : c.localPendingReset.remove id with
        | mk p b =>
            cases b with
            | false => exact .quiet (.refl c) rfl hnot
            | true =>
                dsimp only
                have h1 : Mute Nobody Nobody c { c with localPendingReset := p } := .same rfl
                have hu := h1.trans (mute_updateRstCount _)
                have hs := updateRstCount_streams { c with localPendingReset := p }
                have hc := created_of_past (past_updateRstCount { c with localPendingReset := p })
                cases hr : ({ c with localPendingReset := p } : Connection).updateRstCount with
                | mk x c2 =>
                    rw [hr] at hu hs hc
                    cases x with
                    | error e => exact .fails ht hu hc hs
                    | ok u => exact .quiet hu hc hnot

/-! ## Answers -/

/-- Neither half of the stream is open. -/
def Shut (c : Connection) (o : Obj) : Prop :=
  (c.objs o).recv.isClosed = true ∧ (c.objs o).send.isClosed = true

/-- The peer has reset the stream, and the connection has failed on too many resets: the stream
whose reset was the last is not in the map any more when the streams are told. -/
def Silenced (c : Connection) (o : Obj) : Prop :=
  .failed .streamResetsLimit ∈ c.log ∧ ∃ id r, .received (some o) (.reset id r) ∈ c.log

/-- What a received frame does, and the messages that it makes. -/
inductive Reply (c : Connection) (f : Frame) : List (Obj × Message) → Connection → Prop where
  | shut {l : List Obj} {m : Message} {c' : Connection} (hm : m.Fails) (hn : l.Nodup)
      (hl : ∀ o ∈ l, o ∈ c.values ∧ c'.Shut o)
      (h : Mute Nobody (fun o => o ∈ l ∨ ¬c.Uncounted ∧ c'.Silenced o) c c')
      (hc : c'.created = c.created)
      (hid : f.isContent = true → ∀ o ∈ c.values, f.streamId = some (c.objs o).id → o ∈ l) :
      Reply c f (l.map fun o => (o, m)) c'
  | told {o : Obj} {m : Message} {c' : Connection} (ho : o ∈ c.values)
      (hid : f.streamId = some (c.objs o).id) (h : Tells c o f m c')
      (hc : c'.created = c.created) : Reply c f [(o, m)] c'
  | opened {c1 : Connection} {m : Message} {c' : Connection} (h1 : Mute Nobody Nobody c c1)
      (hc : c1.created = c.created + 1) (hr : (c1.objs c.created).recv = .idle)
      (hs : (c1.objs c.created).remote = c.server)
      (hid : ∀ o ∈ c.values, f.streamId ≠ some (c.objs o).id)
      (h : Tells c1 c.created f m c') (hc' : c'.created = c1.created)
      (hn : f.streamId = some (c'.objs c.created).id) : Reply c f [(c.created, m)] c'
  | refused {e : StreamError} {c' : Connection} (h : Mute Nobody (· = c.created) c c')
      (hc : c'.created = c.created + 1) (hn : f.streamId = some (c'.objs c.created).id)
      (hs : c'.Shut c.created)
      (hid : ∀ o ∈ c.values, f.streamId ≠ some (c.objs o).id) : Reply c f [(c.created, .error e)] c'

/-- Both halves end, and the stream leaves the map. -/
theorem modify_shut {f : Stream → Stream} (hr : (f (c.objs o)).recv.isClosed = true)
    (hs : (f (c.objs o)).send.isClosed = true) : ((c.modify o f).reviewState o).Shut o := by
  have hside := congrArg (fun k => Outline.sides k o) (outline_end hr hs)
  dsimp only at hside
  rw [Outline.setSide_self] at hside
  have h1 := congrArg (fun s : Side => s.recv.isClosed) hside
  have h2 := congrArg (fun s : Side => s.send.isClosed) hside
  exact ⟨h1.trans hr, h2.trans hs⟩

theorem setFailedStream_shut (c : Connection) (o : Obj) (err : OperationError) :
    (c.setFailedStream o err).Shut o := by
  have hend : (c.failed o err).Shut o :=
    modify_shut (HalfState.closed_now _) (HalfState.closed_now _)
  have hk : (c.setFailedStream o err).outline = (c.failed o err).outline :=
    outline_stopCapacityTimer _ o
  have hside := congrArg (fun k => Outline.sides k o) hk
  have hr := congrArg (fun s : Side => s.recv.isClosed) hside
  have hs := congrArg (fun s : Side => s.send.isClosed) hside
  exact ⟨hr.trans hend.1, hs.trans hend.2⟩

/-- All streams of the map end when the connection fails. -/
theorem failStreams_shut {c : Connection} (err : OperationError) (ho : o ∈ c.values) :
    (c.failStreams err).Shut o := by
  have hs := (session_failStreams c err).1
  have hcell : ((c.failStreams err).session.cells o) = (c.session.cells o).close true true := by
    rw [hs]
    exact if_pos ho
  constructor
  · exact HalfState.half_closed.mp (congrArg Cell.recv hcell)
  · exact HalfState.half_closed.mp (congrArg Cell.send hcell)

/-- A stream error ends its stream. -/
theorem streamFailed_shut (c : Connection) (o : Obj) (e : StreamError) :
    (handleMessage (.error (.stream o e), c)).Shut o := by
  cases e with
  | reset r => exact setFailedStream_shut _ o _
  | _ => exact resetSilent_closed _ o _

theorem mute_streamFailed (c : Connection) (o : Obj) (e : StreamError) :
    Mute P (· = o) c (handleMessage (.error (.stream o e), c)) := by
  have h : Mute P (· = o) c (c.push (.streamFailed o e)) := (Mute.refl c).push _
  cases e with
  | reset r => exact h.trans (mute_setFailedStream (Q := (· = o)) _ o (.inr rfl) _)
  | _ => exact h.trans (mute_resetSilent (Q := (· = o)) _ o (.inr rfl) _)

theorem stays_streamFailed (c : Connection) (o : Obj) (e : StreamError) :
    Stays unopened c (handleMessage (.error (.stream o e), c)) :=
  stays_handleMessage (s := unopened) (r := (.error (.stream o e), c)) (.same rfl)
    fun _ _ => trivial

theorem silenced_protoError {id : StreamId} {r : Reason}
    (h : .received (some o) (.reset id r) ∈ c.log) :
    (c.protoError .streamResetsLimit).Silenced o := by
  have hfail : .failed .streamResetsLimit ∈ (c.protoError .streamResetsLimit).failures :=
    failures_protoError c _ ▸ List.mem_cons_self
  exact ⟨(List.mem_filter.mp hfail).1, id, r,
    received_mem (stays_protoError (s := unopened) trivial _) h⟩

theorem reply_fails {e : ConnectionError} {Q : Obj → Prop} (h : Mute Nobody Q c c')
    (hq : ∀ o, Q o → ¬c.Uncounted ∧ e = .streamResetsLimit ∧
      ∃ id r, .received (some o) (.reset id r) ∈ c'.log)
    (hc : c'.created = c.created) (hv : ∀ o ∈ c'.values, o ∈ c.values) (hn : c'.values.Nodup)
    (hid : f.isContent = true → c'.values = c.values) :
    Reply c f (c'.disconnects (.connection e)) (c'.protoError e) := by
  have hproto : (c'.protoError e).created = c'.created :=
    Stays.created_eq (stays_protoError trivial e)
  refine .shut trivial hn (fun o ho => ⟨hv o ho, ?_⟩) ((h.mono fun o ho => .inr ?_).trans
    (mute_protoError c' (fun o ho => .inl ho) e)) (hproto.trans hc)
      fun hf o ho _ => (hid hf).symm ▸ ho
  · exact failStreams_shut (c := { c'.push (.failed e) with error := some (.connection e) })
      (.connection e) ho
  · obtain ⟨hn, rfl, id, r, hin⟩ := hq o ho
    exact ⟨hn, silenced_protoError hin⟩

/-- The answer to a frame. -/
theorem reply_handleMessage (ht : c.session.Table) {r : Received × Connection}
    (h : Returns c f r) : Reply c f (publishes r) (handleMessage r) := by
  cases h with
  | quiet h hc hid =>
      exact .shut (l := []) (m := .disconnect .disconnected) trivial List.nodup_nil
        (fun o ho => absurd ho List.not_mem_nil) (h.mono fun _ hn => False.elim hn) hc
        fun hf o ho heq => absurd heq (hid hf o ho)
  | told ho hid h hc => exact .told ho hid h hc
  | opened h1 hc hr hs hid h hc' hn => exact .opened h1 hc hr hs hid h hc' hn
  | @failed o e c' ho hid h hc =>
      refine .shut (l := [o]) (m := .error e) trivial (List.nodup_singleton o) ?_
        ((h.trans (mute_streamFailed c' o e)).mono fun p hp => .inl (List.mem_singleton.mpr hp))
        ((stays_streamFailed c' o e).created_eq.trans hc) ?_
      · intro p hp
        rw [List.mem_singleton.mp hp]
        exact ⟨ho, streamFailed_shut c' o e⟩
      · intro _ p hp heq
        have hpo := ht.id_inj (ht.bound p hp) (ht.bound o ho) (Option.some.inj (heq.symm.trans hid))
        exact List.mem_singleton.mpr hpo
  | @refused e c' h hc hn hid =>
      have hstays := stays_streamFailed c' c.created e
      have hnew : c.created < c'.created := hc ▸ Nat.lt_succ_self _
      refine .refused ((h.mono fun _ hn => False.elim hn).trans (mute_streamFailed c' _ e))
        (hstays.created_eq.trans hc) ?_
        (streamFailed_shut c' _ e) hid
      rw [hn]
      exact congrArg some (hstays.id_eq hnew).symm
  | broken h hq hc hv hn hid => exact reply_fails h hq hc hv hn hid

/-! ## Settings -/

/-- The answer of the peer to our settings ends no stream, unless a window overflows. -/
theorem recvSettingsAck_ok (hc : c.Clean) (hsz : c.config.windowSz ≤ 2 ^ 30)
    (herr : c.ackErrors = []) {s : Settings} (hs : s.ack = true)
    {errs : List (Obj × StreamError)}
    (h : (c.push (.received none (.settings s))).recvSettingsAck = (.ok errs, c1)) : errs = [] := by
  unfold recvSettingsAck at h
  split at h
  · cases (Prod.mk.inj h).1
  · next hp =>
      have hp' : c.session.settingsProcessed = false := Bool.eq_false_iff.mpr hp
      have hbegin : Session.Step anyRun c.session (c.session.ackBegin s) := .ackBegin hs hp'
      have hmid : ({ c.push (.received none (.settings s)) with
          settingsProcessed := true } : Connection).during c.session.values [] =
            c.session.ackBegin s := by
        unfold during
        rw [List.map_nil, List.append_nil]
        rfl
      rw [← hmid] at hbegin
      have hgood := hc.good.step hbegin
      obtain ⟨-, hsteps⟩ := runs_ackStreams (G := anyRun) c.session.shift c.session.values
        { c.push (.received none (.settings s)) with settingsProcessed := true } [] rfl
        hc.anomalies hgood fun _ _ => trivial
      have hnil : c.session.ackErrors = [] := by
        show c.ackErrors.map _ = []
        rw [herr]
        rfl
      have hall : Session.Steps anyRun c.session _ := .head hbegin hsteps
      have hend := (hall.ackErrors_nil hc.good hsz hnil).1
      have hlist := List.map_eq_nil_iff.mp (List.append_eq_nil_iff.mp hend).2
      have heq := congrArg Prod.fst h
      exact (Except.ok.inj heq).symm.trans hlist

theorem updateSendWindow_streams (c : Connection) (o : Obj) (upd : Int) :
    (c.updateSendWindow o upd).2.streams = c.streams := by
  have hwake : ∀ c1 : Connection, (c1.wakeCapacityWaiter o).streams = c1.streams := fun c1 =>
    congrArg Session.streams (session_wakeCapacityWaiter (c := c1) o).1
  have hmod : ∀ (c1 : Connection) (f : Stream → Stream), (c1.modify o f).streams = c1.streams :=
    fun _ _ => rfl
  unfold updateSendWindow
  split
  · refine (hwake _).trans ((hmod _ _).trans ?_)
    unfold note
    split
    · rfl
    · rfl
  · split
    · split
      · rfl
      · exact (hwake _).trans (hmod _ _)
    · rfl

theorem shiftSendWindows_streams (upd : Int) (os : List Obj) : ∀ c : Connection,
    (shiftSendWindows upd os c).2.streams = c.streams := by
  induction os with
  | nil => exact fun _ => rfl
  | cons o os ih =>
      intro c
      have h := updateSendWindow_streams c o upd
      unfold shiftSendWindows
      cases hu : c.updateSendWindow o upd with
      | mk x c1 =>
          rw [hu] at h
          cases x with
          | error e => exact h
          | ok u => exact (ih c1).trans h

theorem recvPeerSettings_streams (c : Connection) (s : Settings) :
    (c.recvPeerSettings s).2.streams = c.streams := by
  have hlimits : (c.applyLimits s).streams = c.streams :=
    congrArg Session.streams (session_applyLimits (c := c) s).1
  have hwindow : ((c.applyLimits s).applyInitialWindow s).2.streams = c.streams := by
    refine Eq.trans ?_ hlimits
    unfold applyInitialWindow
    cases s.initialWindowSize with
    | none => rfl
    | some val =>
        dsimp only
        split
        · rfl
        · exact shiftSendWindows_streams _ _ _
  unfold recvPeerSettings
  split
  · rfl
  · cases hr : (c.applyLimits s).applyInitialWindow s with
    | mk b c1 =>
        rw [hr] at hwindow
        cases b with
        | false => exact hwindow
        | true => exact hwindow

theorem recvPeerSettings_created (c : Connection) (s : Settings) :
    (c.recvPeerSettings s).2.created = c.created := by
  have hwindow : ((c.applyLimits s).applyInitialWindow s).2.created = c.created :=
    congrArg Past.created
      ((past_applyInitialWindow (c.applyLimits s) s).trans (past_applyLimits c s))
  unfold recvPeerSettings
  split
  · rfl
  · cases hr : (c.applyLimits s).applyInitialWindow s with
    | mk b c1 =>
        rw [hr] at hwindow
        cases b with
        | false => exact hwindow
        | true => exact hwindow

theorem recvSettingsAck_created (c : Connection) : c.recvSettingsAck.2.created = c.created := by
  unfold recvSettingsAck
  split
  · rfl
  · exact congrArg Past.created (past_ackStreams _ _ ([], { c with settingsProcessed := true }))

/-! ## GOAWAY -/

theorem Mute.stays_shut {Q : Obj → Prop} (h : Mute (fun _ => True) Q c c') (ho : o < c.created)
    (hs : c.Shut o) :
    c'.Shut o := ⟨h.recv_closed ho hs.1, h.send o ho trivial hs.2⟩

theorem remoteResetStream_shut (c : Connection) (o : Obj) (r : Reason) :
    (c.remoteResetStream o r).Shut o := modify_shut rfl rfl

/-- A GOAWAY of the peer ends the streams that it does not know. -/
theorem resetList_shut (r : Reason) (l : List (StreamId × Obj)) : ∀ c : Connection,
    (∀ e ∈ l, e.2 < c.created) →
      ∀ e ∈ l, (l.foldl (fun c e => c.remoteResetStream e.2 r) c).Shut e.2 := by
  induction l with
  | nil =>
      intro c _ e he
      exact absurd he List.not_mem_nil
  | cons x l ih =>
      intro c hb e he
      have hm : Mute (fun _ => True) (fun _ => True) c (c.remoteResetStream x.2 r) :=
        mute_remoteResetStream c x.2 (.inr trivial) r
      have hb' : ∀ e ∈ l, e.2 < (c.remoteResetStream x.2 r).created := fun e he =>
        Nat.lt_of_lt_of_le (hb e (List.mem_cons_of_mem x he)) hm.created
      rw [List.foldl_cons]
      rcases List.mem_cons.mp he with rfl | he'
      · have hrest : Mute (fun _ => True) (fun _ => True) (c.remoteResetStream e.2 r)
            (l.foldl (fun c e => c.remoteResetStream e.2 r) (c.remoteResetStream e.2 r)) :=
          mute_foldl l (fun c e _ => mute_remoteResetStream c e.2 (.inr trivial) r) _
        exact hrest.stays_shut (Nat.lt_of_lt_of_le (hb e he) hm.created)
          (remoteResetStream_shut c e.2 r)
      · exact ih _ hb' e he'

theorem reply_recvGoAway (ht : c.session.Table) (r : Reason) (last : StreamId) (data : Bytes) :
    Reply c (.goAway last r data)
      ((c.goneStreams last).map fun e => (e.2, .disconnect (.connection (.goAway r))))
      (c.recvGoAway r last) := by
  have hsub : ((c.goneStreams last).map Prod.snd).Sublist c.values :=
    List.Sublist.map Prod.snd List.filter_sublist
  have hmem : ∀ e ∈ c.goneStreams last, e.2 ∈ c.values := fun e he =>
    hsub.subset (List.mem_map_of_mem he)
  have hb : ∀ e ∈ c.goneStreams last, e.2 < ({ c with goAway := some r } : Connection).created :=
    fun e he => ht.bound e.2 (hmem e he)
  have hlist := resetList_shut r (c.goneStreams last) _ hb
  have heq :
      (c.goneStreams last).map (fun e => (e.2, Message.disconnect (.connection (.goAway r)))) =
      ((c.goneStreams last).map Prod.snd).map
        fun o => (o, .disconnect (.connection (.goAway r))) := by
    rw [List.map_map]
    rfl
  rw [heq]
  have hmute : Mute Nobody (· ∈ (c.goneStreams last).map Prod.snd) c (c.recvGoAway r last) :=
    mute_recvGoAway c r last fun e he hl hlast => List.mem_map_of_mem (List.mem_filter.mpr
      ⟨he, by rw [hl, decide_eq_true hlast]; rfl⟩)
  refine .shut trivial (ht.nodup.sublist hsub) (fun o ho => ?_) (hmute.mono fun o ho => .inl ho)
    (Stays.created_eq (stays_recvGoAway r last)) fun hf => absurd hf Bool.false_ne_true
  obtain ⟨e, he, rfl⟩ := List.mem_map.mp ho
  refine ⟨hmem e he, ?_⟩
  have hloop : Mute (fun _ => True) (fun _ => True) { c with goAway := some r }
      ((c.goneStreams last).foldl
      (fun c (e : StreamId × Obj) => c.remoteResetStream e.2 r) { c with goAway := some r }) :=
    mute_foldl _ (fun c (e : StreamId × Obj) _ => mute_remoteResetStream c e.2 (.inr trivial) r) _
  have hnotify : ∀ c1 : Connection, Mute (fun _ => True) (fun _ => True) c1 c1.notifyCapacity :=
    fun _ => .same rfl
  have hrest := (mute_startDisconnect ((c.goneStreams last).foldl
    (fun c (e : StreamId × Obj) => c.remoteResetStream e.2 r) { c with goAway := some r })).trans
      (hnotify _)
  exact hrest.stays_shut (Nat.lt_of_lt_of_le (hb e he) hloop.created) (hlist e he)

/-! ## Frames -/

/-- Nothing is said. -/
theorem Reply.none (h : Mute Nobody Nobody c c') (hc : c'.created = c.created)
    (hf : ¬f.isContent = true) :
    Reply c f [] c' :=
  .shut (l := []) (m := .disconnect .disconnected) trivial List.nodup_nil
    (fun _ ho => absurd ho List.not_mem_nil) (h.mono fun _ hn => False.elim hn) hc
    fun hf' => absurd hf' hf

theorem Reply.of_push {e : Event} {ms : List (Obj × Message)} (h : Reply (c.push e) f ms c') :
    Reply c f ms c' := by
  have hpush : ∀ {Q : Obj → Prop}, Mute Nobody Q c (c.push e) := .same rfl
  cases h with
  | shut hm hn hl h hc hid => exact .shut hm hn hl (hpush.trans h) hc hid
  | told ho hid h hc =>
      obtain ⟨hcar, ht, hn, c1, hm, hrest⟩ := h
      exact .told ho hid ⟨hcar, ht, hn, c1, hpush.trans hm, hrest⟩ hc
  | opened h1 hc hr hs hid h hc' hn => exact .opened (hpush.trans h1) hc hr hs hid h hc' hn
  | refused h hc hn hs hid => exact .refused (hpush.trans h) hc hn hs hid

/-- The connection fails, with its map as it was. -/
theorem Reply.broken (ht : c.session.Table) {e : ConnectionError} (h : Mute Nobody Nobody c c')
    (hc : c'.created = c.created) (hs : c'.streams = c.streams) :
    Reply c f (c'.disconnects (.connection e)) (c'.protoError e) := by
  have hv : c'.values = c.values := by
    unfold Connection.values
    rw [hs]
  refine reply_fails h (fun o ho => False.elim ho) hc (fun o ho => hv ▸ ho) ?_ fun _ => hv
  rw [hv]
  exact ht.nodup

theorem reply_settings (hc : c.Clean) (hsz : c.config.windowSz ≤ 2 ^ 30) (herr : c.ackErrors = [])
    (s : Settings) : Reply c (.settings s)
      ((c.push (.received none (.settings s))).dispatched (.settings s))
      ((c.push (.received none (.settings s))).dispatch (.settings s)) := by
  have ht := hc.good.table
  have hpush : Mute Nobody Nobody c (c.push (.received none (.settings s))) := .same rfl
  unfold dispatched dispatch
  dsimp only
  split
  · next hack =>
      have hm := hpush.trans (mute_recvSettingsAck (c.push (.received none (.settings s))))
      have hcr := recvSettingsAck_created (c.push (.received none (.settings s)))
      cases hr : (c.push (.received none (.settings s))).recvSettingsAck with
      | mk x c1 =>
          rw [hr] at hm hcr
          cases x with
          | error e =>
              refine .broken ht hm hcr ?_
              unfold recvSettingsAck at hr
              split at hr
              · rw [← (Prod.mk.inj hr).2]
                rfl
              · cases (Prod.mk.inj hr).1
          | ok errs =>
              rw [recvSettingsAck_ok hc hsz herr hack hr]
              exact .none hm hcr Bool.false_ne_true
  · have hm := hpush.trans (mute_recvPeerSettings (c.push (.received none (.settings s))) s)
    have hs := recvPeerSettings_streams (c.push (.received none (.settings s))) s
    have hcr := recvPeerSettings_created (c.push (.received none (.settings s))) s
    cases hr : (c.push (.received none (.settings s))).recvPeerSettings s with
    | mk x c1 =>
        rw [hr] at hm hs hcr
        cases x with
        | error e => exact .broken ht hm hcr hs
        | ok u => exact .none hm hcr Bool.false_ne_true

/-- The receipt of a frame. -/
theorem reply_receive (hc : c.Clean) (hsz : c.config.windowSz ≤ 2 ^ 30) (herr : c.ackErrors = [])
    (f : Frame) : Reply c f (c.received f) (c.receive f) := by
  unfold received receive
  dsimp only
  split
  · have ht : (c.push (.received (f.streamId.bind c.query) f)).session.Table :=
      hc.good.table.push (e := .received (f.streamId.bind c.query) f) rfl
    cases f with
    | settings s => exact reply_settings hc hsz herr s
    | headers h => exact (reply_handleMessage ht (returns_recvHeaders ht h)).of_push
    | data d => exact (reply_handleMessage ht (returns_recvData ht d)).of_push
    | windowUpdate id n => exact (reply_handleMessage ht (returns_recvWindowUpdate ht id n)).of_push
    | reset id r => exact (reply_handleMessage ht (returns_recvRstStream ht id r
        List.mem_cons_self)).of_push
    | invalid g => exact (reply_handleMessage ht (returns_recvInvalidFrame ht g)).of_push
    | goAway last r data => exact (reply_recvGoAway ht r last data).of_push
    | ping ack payload =>
        have hpush : Mute Nobody Nobody c (c.push (.received none (.ping ack payload))) := .same rfl
        unfold dispatch
        dsimp only
        split
        · exact .none hpush rfl Bool.false_ne_true
        · exact .none (hpush.encodeCon _) rfl Bool.false_ne_true
    | priority i => exact .none (.same rfl) rfl Bool.false_ne_true
  · exact .broken hc.good.table (.same rfl) rfl rfl

end Connection

end NtexH2
