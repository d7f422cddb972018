/-
  Connection/Drain.lean --- graceful shutdown of a server, and GOAWAY at a client
  (src/connection.rs, `disconnect_when_ready`, `recv_go_away`).
-/
import NtexH2.Connection.Waiters
import NtexH2.Session.Closing

set_option autoImplicit false

namespace NtexH2

namespace Connection

variable {s : Start} {c c' c'' : Connection}

/-! ## Later states -/

/-- A run is a run of the session. -/
theorem steps_after {P : Connection → Step → Prop} (as : List Step) :
    ∀ {c : Connection}, c.Clean → Allowed P c as →
      (c.after as).Clean ∧ Session.Steps anyRun c.session (c.after as).session := by
  induction as with
  | nil => exact fun hc _ => ⟨hc, .refl⟩
  | cons a as ih =>
      intro c hc h
      have hrun := runs_step h.1.1 (finds_anyRun c a)
      obtain ⟨h1, h2⟩ := ih (hrun.clean hc) h.2
      exact ⟨h1, (hrun hc).2.trans h2⟩

/-! ## Waiters that settle -/

/-- Nobody starts to wait on the way from `c` to `c'`. -/
def Settles (c c' : Connection) : Prop :=
  c.slots.Tidy → c'.slots.Tidy ∧ (c'.slots.Waits → c.slots.Waits)

theorem Settles.trans {d : Connection} (h : Settles c d) (h' : Settles d c') : Settles c c' := by
  intro ht
  obtain ⟨h1, h2⟩ := h ht
  obtain ⟨h3, h4⟩ := h' h1
  exact ⟨h3, h2 ∘ h4⟩

theorem Frees.settles (h : Frees c c') : Settles c c' := fun ht => Slots.Freed.settles h ht

theorem Settles.same (h : c'.slots = c.slots) : Settles c c' := (Frees.same h).settles

theorem settles_clearReadiness (c : Connection) : Settles c c.clearReadiness :=
  fun ht => ⟨ht.resolve (by decide), fun hw => absurd hw (Slots.resolve_waits ht (by decide))⟩

theorem settles_failStreams (c : Connection) (err : OperationError) :
    Settles c (c.failStreams err) := by
  have hfold : ∀ (os : List Obj) (c : Connection),
      Frees c (os.foldl (fun c o => c.setFailedStream o err) c) := by
    intro os
    induction os with
    | nil => exact fun c => .same rfl
    | cons o os ih => exact fun c => (frees_setFailedStream o err).trans (ih _)
  have htake : ∀ c : Connection, Settles c c.takeStreams := by
    intro c ht
    exact ⟨⟨ht.keys, ht.old, ht.queueOld, ht.nodup, ht.pending, ht.live⟩, id⟩
  exact ((settles_clearReadiness c).trans (htake _)).trans (hfold _ _).settles

theorem settles_protoError (c : Connection) (e : ConnectionError) : Settles c (c.protoError e) := by
  refine Settles.trans (d := { c.push (.failed e) with error := some (.connection e) })
    (.same rfl) ?_
  exact (settles_failStreams _ _).trans fun ht => ⟨ht.notify, id⟩

theorem settles_timeout (c : Connection) (e : ConnectionError) (r : Reason) :
    Settles c (c.timeout e r) := by
  refine Settles.trans (d := { c.push (.failed e) with error := some (.connection e) })
    (.same rfl) ?_
  exact (settles_failStreams _ _).trans fun ht => ⟨ht.notify, id⟩

theorem settles_disconnect (c : Connection) : Settles c c.disconnect := by
  have h := settles_failStreams { c with error := some (c.error.getD .disconnected) } .disconnected
  unfold disconnect
  dsimp only
  refine Settles.trans (d := { c with error := some (c.error.getD .disconnected) }) (.same rfl) ?_
  refine h.trans ?_
  split
  · exact fun ht => ⟨ht.notify, id⟩
  · exact fun ht => ⟨ht.notify, id⟩

theorem settles_stop (c : Connection) (x : Stop) : Settles c (c.stop x) := by
  cases x with
  | encoder e => exact settles_protoError c _
  | decoder e => exact settles_protoError c _
  | keepAlive =>
      unfold stop
      dsimp only
      split
      · exact settles_timeout c _ _
      · exact settles_timeout c _ _
  | readTimeout => exact settles_timeout c _ _
  | writeTimeout => exact settles_timeout c _ _
  | io => exact settles_disconnect c
  | service => exact (settles_disconnect c).trans (.same rfl)

/-! ## The start of a shutdown -/

/-- The GOAWAY frame of a shutdown: only a server sends it, and only once. -/
def farewell (c : Connection) : List Event :=
  if c.server && !c.disconnectWhenReady && !c.ioClosed && c.error.isNone then
    [.sent none .connection (.goAway c.lastId .noError [])]
  else []

/-- Nothing is left that a shutdown has to wait for. -/
def isIdle (c : Connection) : Bool := c.streams.isEmpty && c.reservedStreams == 0

/-- `disconnect_when_ready`, as a whole. -/
theorem startDisconnect_eq (c : Connection) : c.startDisconnect =
    { c.clearReadiness with
      disconnectWhenReady := true
      ioClosed := c.ioClosed || c.isIdle
      log := (if c.isIdle then [.close] else []) ++ (c.farewell ++ c.log) } := by
  have hclose : ∀ c1 : Connection, (if c1.streams.isEmpty && c1.reservedStreams == 0 then
      c1.ioClose else c1) = { c1 with
        ioClosed := c1.ioClosed || c1.isIdle
        log := (if c1.isIdle then [.close] else []) ++ c1.log } := by
    intro c1
    unfold isIdle
    split
    · next hi =>
        rw [hi, Bool.or_true]
        rfl
    · next hi =>
        rw [Bool.eq_false_iff.mpr hi, Bool.or_false]
        rfl
  have hfare : (if c.clearReadiness.server && !c.clearReadiness.disconnectWhenReady &&
      !c.clearReadiness.ioClosed && c.clearReadiness.error.isNone then
        c.clearReadiness.encodeCon (.goAway c.clearReadiness.lastId .noError [])
      else c.clearReadiness) = { c.clearReadiness with log := c.farewell ++ c.log } := by
    unfold farewell
    split
    · next hg =>
        have hg' : (c.server && !c.disconnectWhenReady && !c.ioClosed && c.error.isNone) =
          true := hg
        rw [if_pos hg']
        rfl
    · next hg =>
        have hg' : ¬(c.server && !c.disconnectWhenReady && !c.ioClosed && c.error.isNone) =
          true := hg
        rw [if_neg hg']
        rfl
  unfold startDisconnect
  dsimp only
  rw [hfare]
  exact hclose { c.clearReadiness with log := c.farewell ++ c.log, disconnectWhenReady := true }

theorem settles_startDisconnect (c : Connection) : Settles c c.startDisconnect := by
  rw [startDisconnect_eq]
  exact (settles_clearReadiness c).trans (.same rfl)

/-- After the start of a shutdown nobody waits for a slot. -/
theorem startDisconnect_waits (ht : c.slots.Tidy) : ¬c.startDisconnect.slots.Waits := by
  rw [startDisconnect_eq]
  exact Slots.resolve_waits ht (by decide)

/-! ## The end of a shutdown -/

/-- Nobody closes the io from outside: neither `force_close`, nor a control call before the
connection has failed. -/
def Undisturbed (c : Connection) : Step → Prop
  | .control _ close => close = true → c.error.isSome = true
  | .forceClose => c.error.isSome = true
  | _ => True

theorem Undisturbed.finds {a : Step} (h : c.Undisturbed a) : Finds Session.undisturbed c a := by
  unfold Undisturbed at h
  unfold Finds
  split at h
  · exact fun hcl => .inl (h hcl)
  · exact .inl h
  · next hne1 hne2 =>
      split
      · exact fun _ _ _ _ _ => trivial
      · next g close => exact absurd rfl (hne1 g close)
      · exact absurd rfl hne2
      · trivial

theorem closes_of_reachable (h : Reachable s c) : c.session.Closes := by
  induction h with
  | new => exact fun _ hk => by cases hk.1
  | @step c a hr ha ih =>
      exact (ih.steps hr.clean.good.table (runs_step ha (finds_anyRun c a) hr.clean).2).2

theorem staysOpen_of_reachable (h : ReachableBy Undisturbed s c) : c.session.StaysOpen := by
  induction h with
  | new => exact fun _ hk => by cases hk
  | @step c a hr ha hp ih =>
      have hc := hr.reachable.clean
      exact (ih.steps hc.good.table id (runs_step ha hp.finds hc).2).2

/-! ## Messages -/

/-- The stream that a result is published for. -/
def subject : Received → Option Obj
  | .ok (some x) => some x.1
  | .error (.stream o _) => some o
  | .ok none | .error (.connection _) => none

/-- The streams that the dispatcher publishes a message for when it gets a frame that does not
fail the connection. -/
def published (c : Connection) : Frame → List Obj
  | .headers h => (subject (c.recvHeaders h).1).toList
  | .data d => (subject (c.recvData d).1).toList
  | .windowUpdate id n => (subject (c.recvWindowUpdate id n).1).toList
  | .reset id reason => (subject (c.recvRstStream id reason).1).toList
  | .invalid g => (subject (c.recvInvalidFrame g).1).toList
  | .goAway last _ _ => (c.streams.filter fun e =>
      !(c.objs e.2).remote && decide (last < e.1)).map (·.2)
  | .settings s =>
      if s.ack then
        match c.recvSettingsAck.1 with
        | .error _ => []
        | .ok errs => errs.map (·.1)
      else []
  | .ping _ _ | .priority _ => []

theorem subject_lift {o p : Obj} {r : Except StreamError (Option Message) × Connection}
    (h : p ∈ (subject (lift o r).1).toList) : p = o := by
  obtain ⟨x, c1⟩ := r
  cases x with
  | error e => exact List.mem_singleton.mp h
  | ok item =>
      cases item with
      | none => cases h
      | some m => exact List.mem_singleton.mp h

theorem subject_resetUnknown {id : StreamId} {r : Reason} {p : Obj} :
    p ∉ (subject (c.resetUnknownStream id r).1).toList := by
  unfold resetUnknownStream
  cases c.updateRstCount with
  | mk x c1 =>
      cases x with
      | error e => exact List.not_mem_nil
      | ok u => exact List.not_mem_nil

/-- HEADERS for an id that is not in the map, at a server that drains. -/
theorem recvHeaders_draining (hs : c.server = true) (hd : c.disconnectWhenReady = true)
    {h : Headers} (hq : c.query h.streamId = none) :
    (∃ e, c.recvHeaders h = (.error (.connection e), c)) ∨
    (h.streamId ≤ c.lastId ∧ c.localPendingReset.isPending h.streamId = true ∧
      c.recvHeaders h = (.ok none, c)) ∨
    (c.lastId < h.streamId ∧ c.recvHeaders h = (.ok none,
      ({ c with lastId := h.streamId }.encodeCon
        (.reset h.streamId .refusedStream)).addPending h.streamId)) := by
  have hns : ¬(!c.server) = true := by
    rw [hs]
    decide
  unfold recvHeaders
  split
  · exact .inl ⟨_, rfl⟩
  · rw [hq]
    dsimp only
    split
    · next hle =>
        split
        · next hp => exact .inr (.inl ⟨hle, hp, rfl⟩)
        · exact .inl ⟨_, rfl⟩
    · next hlt =>
        refine .inr (.inr ⟨Nat.lt_of_not_le hlt, ?_⟩)
        unfold recvNewHeaders
        dsimp only
        rw [if_pos hd]

/-- An invalid HEADERS frame for an id that is not in the map, at a server. -/
theorem recvInvalid_unknown (hs : c.server = true) {f : InvalidFrame} (hk : f.kind = .headers)
    (hq : c.query f.streamId = none) :
    (∃ e c', c.recvInvalidFrame f = (.error (.connection e), c')) ∨
    (c.lastId < f.streamId ∧ ∃ c', c.recvInvalidFrame f = (.ok none, c') ∧
      c'.log = .sent none .connection (.reset f.streamId f.error.reason) :: c.log ∧
      c'.created = c.created) := by
  have hns : ¬(!c.server) = true := by
    rw [hs]
    decide
  unfold recvInvalidFrame
  rw [hq]
  dsimp only
  rw [hk]
  dsimp only
  unfold recvInvalidHeaders
  split
  · exact .inl ⟨_, _, rfl⟩
  · split
    · exact .inl ⟨_, _, rfl⟩
    · next hlt =>
        unfold resetUnknownStream
        generalize hc1 : ({ c with lastId := f.streamId } : Connection).countStream = c1
        have hlog1 : c1.log = c.log ∧ c1.created = c.created := by
          rw [← hc1]
          exact ⟨rfl, rfl⟩
        have hrst : c1.updateRstCount.2.log = c1.log ∧
            c1.updateRstCount.2.created = c1.created := by
          unfold updateRstCount
          dsimp only
          split
          · exact ⟨rfl, rfl⟩
          · exact ⟨rfl, rfl⟩
        cases hp : c1.updateRstCount with
        | mk x c2 =>
            rw [hp] at hrst
            cases x with
            | error e => exact .inl ⟨_, _, rfl⟩
            | ok u =>
                refine .inr ⟨Nat.lt_of_not_le hlt, _, rfl, ?_, ?_⟩
                · rw [addPending_log]
                  show _ :: c2.log = _
                  rw [hrst.1, hlog1.1]
                · show (Connection.addPending _ _).created = _
                  unfold addPending
                  split
                  · exact hrst.2.trans hlog1.2
                  · exact hrst.2.trans hlog1.2

/-- The errors of a SETTINGS ack are errors of streams of the map. -/
theorem ackErrors_mem {errs : List (Obj × StreamError)} (h : c.recvSettingsAck.1 = .ok errs) :
    ∀ x ∈ errs, x.1 ∈ c.values := by
  have hfold : ∀ (upd : Int) (os : List Obj) (r : List (Obj × StreamError) × Connection),
      ∀ x ∈ (os.foldl (ackStream upd) r).1, x ∈ r.1 ∨ x.1 ∈ os := by
    intro upd os
    induction os with
    | nil => exact fun r x hx => .inl hx
    | cons o os ih =>
        intro r x hx
        rcases ih _ x hx with hx | hx
        · unfold ackStream at hx
          split at hx
          · rcases List.mem_append.mp hx with hx | hx
            · exact .inl hx
            · rw [List.mem_singleton.mp hx]
              exact .inr List.mem_cons_self
          · exact .inl hx
          · exact .inl hx
        · exact .inr (List.mem_cons_of_mem o hx)
  unfold recvSettingsAck at h
  split at h
  · cases h
  · cases h
    intro x hx
    rcases hfold _ _ _ x hx with hx | hx
    · cases hx
    · exact hx

section

variable {o : Obj}

/-- A draining server has the stream in its map that a result of HEADERS is published for. -/
theorem query_of_recvHeaders (hs : c.server = true) (hd : c.disconnectWhenReady = true)
    {h : Headers} (ho : o ∈ (subject (c.recvHeaders h).1).toList) :
    c.query h.streamId = some o := by
  cases hq : c.query h.streamId with
  | none =>
      rcases recvHeaders_draining hs hd hq with ⟨e, he⟩ | ⟨-, -, he⟩ | ⟨-, he⟩
      · rw [he] at ho
        cases ho
      · rw [he] at ho
        cases ho
      · rw [he] at ho
        cases ho
  | some p =>
      unfold recvHeaders at ho
      split at ho
      · cases ho
      · rw [hq] at ho
        rw [subject_lift ho]

theorem query_of_recvData {d : Data} (ho : o ∈ (subject (c.recvData d).1).toList) :
    c.query d.streamId = some o := by
  unfold recvData at ho
  split at ho
  · cases ho
  · split at ho
    · next p hq =>
        rw [subject_lift ho]
        exact hq
    · split at ho
      · cases ho
      · split at ho
        · cases ho
        · cases ho

theorem query_of_recvWindowUpdate {id : StreamId} {n : Nat}
    (ho : o ∈ (subject (c.recvWindowUpdate id n).1).toList) : c.query id = some o := by
  unfold recvWindowUpdate at ho
  split at ho
  · cases hp : c.recvConWindowUpdate n with
    | mk x c1 =>
        rw [hp] at ho
        cases x with
        | error e => cases ho
        | ok u => cases ho
  · split at ho
    · next p hq =>
        cases hp : c.streamRecvWindowUpdate p n with
        | mk x c1 =>
            rw [hp] at ho
            cases x with
            | error e =>
                rw [List.mem_singleton.mp ho]
                exact hq
            | ok u => cases ho
    · split at ho
      · cases ho
      · split at ho
        · cases ho
        · cases ho

theorem query_of_recvRstStream {id : StreamId} {r : Reason}
    (ho : o ∈ (subject (c.recvRstStream id r).1).toList) : c.query id = some o := by
  unfold recvRstStream at ho
  split at ho
  · cases ho
  · split at ho
    · next p hq =>
        dsimp only at ho
        split at ho
        · cases ho
        · cases hp : (c.remoteResetStream p r).updateRstCount with
          | mk x c1 =>
              rw [hp] at ho
              cases x with
              | error e => cases ho
              | ok u =>
                  rw [List.mem_singleton.mp ho]
                  exact hq
    · split at ho
      · next q _ =>
          cases hp : ({ c with localPendingReset := q } : Connection).updateRstCount with
          | mk x c1 =>
              rw [hp] at ho
              cases x with
              | error e => cases ho
              | ok u => cases ho
      · cases ho

/-- So has a server the stream of an invalid frame. -/
theorem query_of_recvInvalidFrame (hs : c.server = true) {g : InvalidFrame}
    (ho : o ∈ (subject (c.recvInvalidFrame g).1).toList) : c.query g.streamId = some o := by
  cases hq : c.query g.streamId with
  | none =>
      by_cases hk : g.kind = .headers
      · rcases recvInvalid_unknown hs hk hq with ⟨e, c1, he⟩ | ⟨-, c1, he, -⟩
        · rw [he] at ho
          cases ho
        · rw [he] at ho
          cases ho
      · unfold recvInvalidFrame at ho
        rw [hq] at ho
        dsimp only at ho
        split at ho
        · cases ho
        · next hk' => exact absurd hk' hk
        · exact absurd ho subject_resetUnknown
  | some p =>
      unfold recvInvalidFrame at ho
      rw [hq] at ho
      dsimp only at ho
      cases hp : c.updateRstCount with
      | mk x c1 =>
          rw [hp] at ho
          cases x with
          | error e => cases ho
          | ok u => rw [List.mem_singleton.mp ho]

end

/-- A draining server publishes messages for streams of its map only. -/
theorem published_mem (ht : c.session.Table) (hs : c.server = true)
    (hd : c.disconnectWhenReady = true) {f : Frame} {o : Nat} (h : o ∈ c.published f) :
    o ∈ c.session.values := by
  have hquery : ∀ {id : StreamId}, c.query id = some o → o ∈ c.session.values :=
    fun hq => (query_mem ht hq).1
  cases f with
  | headers hd' => exact hquery (query_of_recvHeaders hs hd (h := hd') h)
  | data d => exact hquery (query_of_recvData (d := d) h)
  | windowUpdate id n => exact hquery (@query_of_recvWindowUpdate c o id n h)
  | reset id r => exact hquery (@query_of_recvRstStream c o id r h)
  | invalid g => exact hquery (query_of_recvInvalidFrame hs (g := g) h)
  | goAway last r data =>
      obtain ⟨e, he, rfl⟩ := List.mem_map.mp h
      exact List.mem_map_of_mem (f := (·.2)) (List.mem_filter.mp he).1
  | settings st =>
      have h' : o ∈ (if st.ack then
          match c.recvSettingsAck.1 with
          | .error _ => []
          | .ok errs => errs.map (·.1)
        else [] : List Obj) := h
      split at h'
      · split at h'
        · cases h'
        · next errs he =>
            obtain ⟨x, hx, rfl⟩ := List.mem_map.mp h'
            exact ackErrors_mem he x hx
      · cases h'
  | ping ack payload => cases h
  | priority id => cases h

/-! ## Graceful shutdown -/

/-- What a shutdown of the server `c` promises for a later state `c'`: there is no second
GOAWAY; no stream is created, no message is published and no HEADERS frame is taken for an id
above the announced one; and the streams of the map are found until both halves are closed. -/
structure Drained (c c' : Connection) : Prop where
  farewell : c'.farewell = []
  created : c'.created = c.created
  ids : ∀ o < c'.created, (c'.objs o).id ≤ c.lastId
  published : ∀ f, ∀ o ∈ c'.published f, (c'.objs o).id ≤ c.lastId
  refused : ∀ h : Headers, c.lastId < h.streamId →
    (∃ e, c'.recvHeaders h = (.error (.connection e), c')) ∨
    (h.streamId ≤ c'.lastId ∧ c'.localPendingReset.isPending h.streamId = true ∧
      c'.recvHeaders h = (.ok none, c')) ∨
    (c'.lastId < h.streamId ∧ c'.recvHeaders h = (.ok none,
      ({ c' with lastId := h.streamId }.encodeCon
        (.reset h.streamId .refusedStream)).addPending h.streamId))
  invalid : ∀ f : InvalidFrame, f.kind = .headers → c.lastId < f.streamId →
    (∃ e c'', c'.recvInvalidFrame f = (.error (.connection e), c'')) ∨
    (c'.lastId < f.streamId ∧ ∃ c'', c'.recvInvalidFrame f = (.ok none, c'') ∧
      c''.log = .sent none .connection (.reset f.streamId f.error.reason) :: c'.log ∧
      c''.created = c'.created)
  serves : ∀ o ∈ c.values, c'.query (c.objs o).id = some o ∨
    ((c'.objs o).recv.isClosed = true ∧ (c'.objs o).send.isClosed = true)

theorem session_server (h : Reachable s c) : c.server = s.server := by
  induction h with
  | new => rfl
  | @step c a hr ha ih =>
      have hg := Session.Steps.grows (runs_step ha (finds_anyRun c a) hr.clean).2
      exact (show (c.step a).server = c.server from hg.server).trans ih

/-- The later states of a server that has started to shut down. -/
theorem drained_after {P : Connection → Step → Prop} (h : Reachable s c) (hs : s.server = true)
    (as : List Step) (ha : Allowed P c.startDisconnect as) :
    Drained c (c.startDisconnect.after as) := by
  have hc := h.clean
  have hrun : Runs anyRun c c.startDisconnect := runs_startDisconnect
  obtain ⟨hc', hsteps⟩ := steps_after as (hrun.clean hc) ha
  have hfst : c.startDisconnect.objs = c.objs ∧ c.startDisconnect.created = c.created ∧
      c.startDisconnect.server = c.server := by
    rw [startDisconnect_eq]
    exact ⟨rfl, rfl, rfl⟩
  have hsrv : c.server = true := (session_server h).trans hs
  have hsrv' : c.startDisconnect.session.server = true := hfst.2.2.trans hsrv
  have hold := Session.Steps.old hsteps (fun _ => draining_startDisconnect c) fun hf => by
    rw [hsrv'] at hf
    cases hf
  have hgrow := Session.Steps.grows hsteps
  generalize c.startDisconnect.after as = c' at *
  have ht := hc'.good.table
  have hs' : c'.server = true := hgrow.server.trans hsrv'
  have hd' : c'.disconnectWhenReady = true := hgrow.draining (draining_startDisconnect c)
  have hcreated : c'.created = c.created := hold.created.trans hfst.2.1
  have hobj : ∀ o < c.created, (c'.objs o).id = (c.objs o).id := by
    intro o ho
    have hid : (c'.objs o).id = (c.startDisconnect.objs o).id :=
      hold.ids o (Nat.lt_of_lt_of_eq ho hfst.2.1.symm)
    rw [hid, hfst.1]
  have hids : ∀ o < c'.created, (c'.objs o).id ≤ c.lastId := by
    intro o ho
    rw [hcreated] at ho
    rw [hobj o ho]
    exact (hc.good.table.heard hsrv o ho).1
  have hquery : ∀ {id : StreamId}, c.lastId < id → c'.query id = none := by
    intro id hid
    cases hq : c'.query id with
    | none => rfl
    | some o =>
        obtain ⟨hm, hoid⟩ := query_mem ht hq
        have := hids o (ht.bound o hm)
        rw [hoid] at this
        exact absurd hid (Nat.not_lt_of_le this)
  refine ⟨?_, hcreated, hids, ?_, ?_, ?_, ?_⟩
  · unfold Connection.farewell
    rw [hd', Bool.not_true, Bool.and_false, Bool.false_and, Bool.false_and]
    rfl
  · exact fun f o ho => hids o (ht.bound o (published_mem ht hs' hd' ho))
  · exact fun hd hlt => recvHeaders_draining hs' hd' (hquery hlt)
  · exact fun f hk hlt => recvInvalid_unknown hs' hk (hquery hlt)
  · intro o ho
    have hlt : o < c.created := hc.good.table.bound o ho
    by_cases hm : o ∈ c'.session.values
    · left
      rw [← hobj o hlt]
      exact query_id ht hm
    · right
      have hdone := not_not.mp fun hn =>
        hm ((ht.live o (Nat.lt_of_lt_of_eq hlt hcreated.symm)).mpr hn)
      exact ⟨HalfState.half_closed.mp hdone.1, HalfState.half_closed.mp hdone.2⟩

/-- The graceful shutdown of a server: its io is closed exactly when it drains, no stream is left
and nothing is reserved; the call that starts it writes one GOAWAY, or none if it was started
before, and leaves the streams as they are; and later states keep its promise. -/
theorem graceful_shutdown (h : ReachableBy Undisturbed s c) (hs : s.server = true) :
    (c.error = none → (c.ioClosed = true ↔
      c.disconnectWhenReady = true ∧ c.streams = [] ∧ c.reservedStreams = 0)) ∧
    c.startDisconnect.log = (if c.isIdle then [.close] else []) ++ (c.farewell ++ c.log) ∧
    c.startDisconnect.objs = c.objs ∧ c.startDisconnect.streams = c.streams ∧
    c.startDisconnect.sendWindow = c.sendWindow ∧ c.startDisconnect.recvWindow = c.recvWindow ∧
    c.startDisconnect.caps = c.caps ∧ c.startDisconnect.senders = c.senders ∧
    ∀ as, Allowed Undisturbed c.startDisconnect as → Drained c (c.startDisconnect.after as) := by
  have hr := h.reachable
  refine ⟨?_, ?_, ?_, ?_, ?_, ?_, ?_, ?_, fun as ha => drained_after hr hs as ha⟩
  · intro he
    have hf : c.session.failed = false := by
      show c.error.isSome = false
      rw [he]
      rfl
    exact ⟨staysOpen_of_reachable h hf, closes_of_reachable hr hf⟩
  · rw [startDisconnect_eq]
  all_goals
    rw [startDisconnect_eq]
    rfl

/-- A server with one open request. -/
def openRun : List Step :=
  [.receive (.settings noSettings), .receive (.headers ⟨1, somePseudo, [], true⟩)]

theorem openRun_reachable : ReachableBy Undisturbed (serverWith 1000 333 (by decide) (by decide))
    ((serverWith 1000 333 (by decide) (by decide)).init.after openRun) := by
  refine ReachableBy.new.after openRun ⟨⟨noSettings_loads, trivial⟩, ⟨?_, trivial⟩, trivial⟩
  show 1 < 2 ^ 31
  decide

/-- The response ends the last stream, and the io is closed. -/
theorem graceful_shutdown_response :
    ∃ c, ReachableBy Undisturbed (serverWith 1000 333 (by decide) (by decide)) c ∧
      c.farewell ≠ [] ∧ c.streams ≠ [] ∧
      Drained c (c.startDisconnect.after [.sendResponse 0 200 [] true]) := by
  refine ⟨_, openRun_reachable, by decide +kernel, by decide +kernel, ?_⟩
  refine (graceful_shutdown openRun_reachable rfl).2.2.2.2.2.2.2.2 _ ⟨⟨?_, trivial⟩, trivial⟩
  show 0 < _
  decide +kernel

end Connection

end NtexH2
