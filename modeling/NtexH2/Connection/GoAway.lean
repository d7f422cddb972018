/-
  Connection/GoAway.lean --- a client that is told to go away (src/connection.rs,
  `recv_go_away`).

  The streams above the announced id fail, the others go on, and no stream is opened
  any more: every call that would open one is refused, whatever it was waiting for.
-/
import NtexH2.Connection.Drain

set_option autoImplicit false

namespace NtexH2

namespace Connection

variable {s : Start} {c c' c'' : Connection}

/-! ## The cells of the streams -/

theorem note_objs (c : Connection) (ok : Bool) (a : Anomaly) : (c.note ok a).objs = c.objs := by
  unfold note
  split
  · rfl
  · rfl

theorem releaseStream_objs (c : Connection) (remote : Bool) :
    (c.releaseStream remote).objs = c.objs := by
  unfold releaseStream
  split
  · exact note_objs c _ .activeRemote
  · unfold releaseLocalStream
    dsimp only
    have hn := note_objs c (decide (0 < c.activeLocalStreams)) .activeLocal
    generalize c.note (decide (0 < c.activeLocalStreams)) .activeLocal = c1 at hn
    split
    · exact hn
    · exact hn

theorem addPending_objs (c : Connection) (id : StreamId) : (c.addPending id).objs = c.objs := by
  unfold addPending
  split
  · rfl
  · rfl

/-- A stream that leaves the map stops its timer, and no other stream changes. -/
theorem dropStream_objs (c : Connection) (id : StreamId) (p : Obj) :
    (c.dropStream id).objs p = c.objs p ∨ c.query id = some p ∧
      (c.dropStream id).objs p = { c.objs p with capacityTimer := false } := by
  unfold dropStream
  cases hq : c.query id with
  | none =>
      left
      exact congrFun (addPending_objs c id) p
  | some o =>
      dsimp only
      generalize hc1 : ({ c with streams := c.streams.eraseP (·.1 == id) } :
        Connection).stopCapacityTimer o = c1
      have hobj : c1.objs p =
          if p = o then { c.objs p with capacityTimer := false } else c.objs p := by
        rw [← hc1]
        rfl
      generalize hc2 : c1.releaseStream (c1.objs o).remote = c2
      have hobj2 : c2.objs p = c1.objs p := by
        rw [← hc2, releaseStream_objs]
      have hres : ∀ c3 : Connection, c3.objs = c2.objs → c3.objs p = c.objs p ∨ some o = some p ∧
          c3.objs p = { c.objs p with capacityTimer := false } := by
        intro c3 h3
        rw [h3, hobj2, hobj]
        by_cases hp : p = o
        · rw [if_pos hp]
          exact .inr ⟨by rw [hp], rfl⟩
        · rw [if_neg hp]
          exact .inl rfl
      split
      · exact hres _ rfl
      · exact hres _ (addPending_objs _ id)

/-- The stream was ended by the peer. -/
def FailedWith (r : Reason) (t : Stream) : Prop :=
  t.error = some (.remoteReset r) ∧ t.recv = .closed none ∧ t.send = .closed (some r)

theorem remoteReset_objs (ht : c.session.Table) {o : Nat} (ho : o ∈ c.session.values) (r : Reason) :
    FailedWith r ((c.remoteResetStream o r).objs o) ∧
      ∀ p, p ≠ o → (c.remoteResetStream o r).objs p = c.objs p := by
  have hq := query_id ht ho
  generalize hst : ({ c.objs o with
    recv := .closed none
    send := .closed (some r)
    error := some (.remoteReset r) } : Stream) = t
  have hfail : FailedWith r t ∧ t.id = (c.objs o).id := by
    rw [← hst]
    exact ⟨⟨rfl, rfl, rfl⟩, rfl⟩
  generalize hc1 : c.modify o (fun s => { s with
    recv := .closed none
    send := .closed (some r)
    error := some (.remoteReset r) }) = c1
  have h1 : ∀ p, c1.objs p = if p = o then t else c.objs p := by
    intro p
    rw [← hc1, ← hst]
    show (if p = o then _ else _) = _
    by_cases hp : p = o
    · subst hp
      rfl
    · rw [if_neg hp, if_neg hp]
  have hq1 : c1.query (c.objs o).id = some o := by
    rw [← hc1]
    exact hq
  have hdef : c.remoteResetStream o r =
      (c1.modify o fun s => { s with sendCap := false }).dropStream
      (c1.objs o).id := by
    unfold remoteResetStream
    rw [hc1]
    unfold reviewState
    rw [if_pos]
    rw [h1 o, if_pos rfl, hfail.1.2.1, hfail.1.2.2]
    rfl
  have hid : (c1.objs o).id = (c.objs o).id := by
    rw [h1 o, if_pos rfl, hfail.2]
  rw [hdef, hid]
  constructor
  · have hmid : FailedWith r ((c1.modify o fun s => { s with sendCap := false }).objs o) := by
      show FailedWith r (if o = o then { c1.objs o with sendCap := false } else c1.objs o)
      rw [if_pos rfl, h1 o, if_pos rfl]
      exact hfail.1
    rcases dropStream_objs (c1.modify o fun s => { s with sendCap := false }) (c.objs o).id o with
      he | ⟨-, he⟩
    · rw [he]
      exact hmid
    · rw [he]
      exact hmid
  · intro p hp
    have hmid : (c1.modify o fun s => { s with sendCap := false }).objs p = c.objs p := by
      show (if p = o then _ else c1.objs p) = _
      rw [if_neg hp, h1 p, if_neg hp]
    rcases dropStream_objs (c1.modify o fun s => { s with sendCap := false }) (c.objs o).id p with
      he | ⟨hqp, -⟩
    · rw [he, hmid]
    · have hqo : some o = some p := hq1.symm.trans hqp
      exact absurd (Option.some.inj hqo).symm hp

theorem remoteReset_values (ht : c.session.Table) {o : Nat} (ho : o ∈ c.session.values) (r : Reason)
    (p : Nat) : p ∈ (c.remoteResetStream o r).session.values ↔ p ∈ c.session.values ∧ p ≠ o := by
  obtain ⟨hs, -⟩ := session_review ht (ht.bound o ho) (f := fun s => { s with
    recv := .closed none
    send := .closed (some r)
    error := some (.remoteReset r) }) (r := true) (w := true) rfl
  have hval : (c.remoteResetStream o r).session.values = c.session.values.erase o := by
    show ((c.modify o _).reviewState o).session.values = _
    rw [hs]
    unfold Session.values
    show (if c.session.Leaves o true true then c.session.without o else c.session.streams).map _ = _
    rw [if_pos ⟨⟨rfl, rfl⟩, ho⟩]
    exact Session.values_without c.session o
  rw [hval, ht.nodup.mem_erase_iff]
  exact And.comm

/-- All streams of a list fail, one after the other. -/
theorem resetList_spec (r : Reason) (l : List (StreamId × Obj)) : ∀ {c : Connection}, c.Clean →
    (l.map (·.2)).Nodup → (∀ e ∈ l, e.2 ∈ c.session.values) →
    (∀ p ∈ l.map (·.2), FailedWith r ((l.foldl (fun c e => c.remoteResetStream e.2 r) c).objs p)) ∧
    (∀ p, p ∉ l.map (·.2) → (l.foldl (fun c e => c.remoteResetStream e.2 r) c).objs p = c.objs p) ∧
    (∀ p, p ∈ (l.foldl (fun c e => c.remoteResetStream e.2 r) c).session.values ↔
      p ∈ c.session.values ∧ p ∉ l.map (·.2)) := by
  induction l with
  | nil =>
      intro c hc hn hl
      refine ⟨fun p hp => absurd hp List.not_mem_nil, fun p _ => rfl, fun p => ?_⟩
      exact ⟨fun h => ⟨h, List.not_mem_nil⟩, fun h => h.1⟩
  | cons e l ih =>
      intro c hc hn hl
      obtain ⟨he, hn'⟩ := List.nodup_cons.mp hn
      have hm := hl e List.mem_cons_self
      have ht := hc.good.table
      obtain ⟨hfail, hsame⟩ := remoteReset_objs ht hm r
      have hval := remoteReset_values ht hm r
      have hrun : Runs anyRun c (c.remoteResetStream e.2 r) :=
        runs_remoteResetStream (ht.bound _ hm) r
      obtain ⟨h1, h2, h3⟩ := ih (hrun.clean hc) hn' fun e' he' => by
        refine (hval e'.2).mpr ⟨hl e' (List.mem_cons_of_mem e he'), fun heq => he ?_⟩
        show e.2 ∈ l.map (·.2)
        rw [← heq]
        exact List.mem_map_of_mem he'
      refine ⟨fun p hp => ?_, fun p hp => ?_, fun p => ?_⟩
      · rcases List.mem_cons.mp hp with rfl | hp
        · show FailedWith r ((l.foldl _ (c.remoteResetStream e.2 r)).objs e.2)
          rw [h2 e.2 he]
          exact hfail
        · exact h1 p hp
      · have hne : p ≠ e.2 := fun heq => hp (heq ▸ List.mem_cons_self)
        show (l.foldl _ (c.remoteResetStream e.2 r)).objs p = c.objs p
        rw [h2 p fun h => hp (List.mem_cons_of_mem _ h), hsame p hne]
      · show p ∈ (l.foldl _ (c.remoteResetStream e.2 r)).session.values ↔ _
        rw [h3, hval]
        constructor
        · rintro ⟨⟨ha, hb⟩, hc'⟩
          exact ⟨ha, fun h => (List.mem_cons.mp h).elim hb hc'⟩
        · rintro ⟨ha, hb⟩
          exact ⟨⟨ha, fun h => hb (h ▸ List.mem_cons_self)⟩, fun h => hb (List.mem_cons_of_mem _ h)⟩

/-- The streams a GOAWAY fails. -/
def above (c : Connection) (last : StreamId) : List (StreamId × Obj) :=
  c.streams.filter fun e => !(c.objs e.2).remote && decide (last < e.1)

/-- The first half of `recv_go_away`. -/
def failAbove (c : Connection) (r : Reason) (last : StreamId) : Connection :=
  (c.above last).foldl (fun c e => c.remoteResetStream e.2 r) { c with goAway := some r }

theorem recvGoAway_eq (c : Connection) (r : Reason) (last : StreamId) :
    c.recvGoAway r last = (c.failAbove r last).startDisconnect.notifyCapacity := rfl

/-! ## Nobody starts to wait -/

theorem settles_foldl {f : Connection → StreamId × Obj → Connection}
    (hf : ∀ (c : Connection) (e : StreamId × Obj), Frees c (f c e)) (l : List (StreamId × Obj)) :
    ∀ c : Connection, Settles c (l.foldl f c) := by
  induction l with
  | nil => exact fun c => .same rfl
  | cons e l ih => exact fun c => (hf c e).settles.trans (ih _)

theorem frees_remoteResetStream (c : Connection) (o : Obj) (r : Reason) :
    Frees c (c.remoteResetStream o r) := frees_review o _

theorem settles_recvGoAway (c : Connection) (r : Reason) (last : StreamId) :
    Settles c (c.recvGoAway r last) := by
  have hfail : Settles c (c.failAbove r last) :=
    Settles.trans (d := { c with goAway := some r }) (.same rfl)
      (settles_foldl (fun c e => frees_remoteResetStream c e.2 r) _ _)
  rw [recvGoAway_eq]
  exact hfail.trans ((settles_startDisconnect _).trans fun ht => ⟨ht.notify, id⟩)

theorem settles_handleMessage {r : Received × Connection} (h : Frees c r.2) :
    Settles c (handleMessage r) := by
  cases r with
  | mk x c1 =>
      cases x with
      | ok item => exact h.settles
      | error e =>
          cases e with
          | connection e => exact h.settles.trans (settles_protoError c1 e)
          | stream o e =>
              have hreset : Frees c ((c1.push (.streamFailed o e)).resetSilent o e.reason).1 :=
                h.trans (Frees.trans (d := c1.push (.streamFailed o e)) (.same rfl)
                  (frees_resetSilent o _))
              cases e with
              | reset r =>
                  exact (h.trans (Frees.trans (d := c1.push (.streamFailed o (.reset r)))
                    (.same rfl)
                    (frees_setFailedStream o _))).settles
              | _ => exact hreset.settles

theorem settles_recvPeerSettings (c : Connection) (st : Settings) :
    Settles c (c.recvPeerSettings st).2 := by
  have hlim : Settles c (c.applyLimits st) := by
    rcases slots_applyLimits c st with he | he
    · exact .same he
    · intro ht
      rw [he]
      refine ⟨(ht.setLimit _).notify, fun hw => absurd hw ?_⟩
      have hd : ({ c.slots with limit := st.maxConcurrentStreams } : Slots).Tidy :=
        ⟨ht.keys, ht.old, ht.queueOld, ht.nodup, ht.pending, ht.live⟩
      exact Slots.resolve_waits hd (by decide)
  unfold recvPeerSettings
  split
  · exact .same rfl
  · have hs := slots_applyInitialWindow (c.applyLimits st) st
    cases hw : (c.applyLimits st).applyInitialWindow st with
    | mk x c2 =>
        rw [hw] at hs
        cases x with
        | false => exact hlim.trans (.same hs)
        | true => exact hlim.trans (.same hs)

theorem settles_receive (c : Connection) (f : Frame) : Settles c (c.receive f) := by
  unfold receive
  dsimp only
  have h0 : Settles c (c.push (.received (f.streamId.bind c.query) f)) := .same rfl
  generalize c.push (.received (f.streamId.bind c.query) f) = c1 at h0
  split
  · refine h0.trans ?_
    unfold dispatch
    cases f with
    | headers hd => exact settles_handleMessage (frees_recvHeaders hd)
    | data d => exact settles_handleMessage (frees_recvData d)
    | settings st =>
        dsimp only
        split
        · have hs := slots_recvSettingsAck c1
          cases hp : c1.recvSettingsAck with
          | mk x c2 =>
              rw [hp] at hs
              cases x with
              | error e => exact Settles.trans (.same hs) (settles_protoError c2 e)
              | ok errs => exact Settles.trans (.same hs) (frees_handleAckErrors errs).settles
        · have hs := settles_recvPeerSettings c1 st
          cases hp : c1.recvPeerSettings st with
          | mk x c2 =>
              rw [hp] at hs
              cases x with
              | error e => exact hs.trans (settles_protoError c2 e)
              | ok u => exact hs
    | windowUpdate id n => exact settles_handleMessage (frees_recvWindowUpdate id n)
    | reset id r => exact settles_handleMessage (frees_recvRstStream id r)
    | ping ack payload =>
        dsimp only
        split
        · exact .same rfl
        · exact .same rfl
    | goAway last r data => exact settles_recvGoAway c1 r last
    | invalid g => exact settles_handleMessage (frees_recvInvalidFrame g)
    | priority id => exact .same rfl
  · exact h0.trans (settles_protoError _ _)

theorem settles_leave (c : Connection) (w : Nat) :
    Settles c { c with waiters := c.waiters.filter (·.1 != w) } :=
  fun ht => ⟨ht.leave w, fun hw => Slots.leave_waits (s := c.slots) (t := w) hw⟩

theorem settles_dropRequest (c : Connection) (w : Nat) : Settles c (c.dropRequest w) := by
  unfold dropRequest
  split
  · refine (settles_leave c w).trans fun ht => ⟨ht.wake 1, fun hw => ?_⟩
    exact (Slots.wake_waits ht hw).1
  · exact settles_leave c w

theorem settles_releaseReserved (c : Connection) : Settles c c.releaseReservedStream := by
  intro ht
  rw [slots_releaseReserved]
  exact ⟨ht.release.notify, Slots.release_waits ht⟩

/-- A reservation that is used opens a stream, or nothing happens. -/
theorem sendReservedRequest_cases (c : Connection) (r : Request) :
    (c.goAway = none ∧ ∃ o, (c.sendReservedRequest r).1 = .ok o ∧
      (c.sendReservedRequest r).2.slots = (c.openStream r).2.slots) ∨
    ∃ e, c.sendReservedRequest r = (.error e, c) := by
  unfold sendReservedRequest
  split
  · exact .inr ⟨_, rfl⟩
  · split
    · exact .inr ⟨_, rfl⟩
    · split
      · exact .inr ⟨_, rfl⟩
      · next hg =>
          rcases openStream_cases c r with ⟨e, he⟩ | ⟨hd, -, -, he⟩
          · rw [he]
            exact .inr ⟨e, rfl⟩
          · rw [he]
            exact .inl ⟨hg, _, rfl, slots_note _ _ .reserved⟩

theorem settles_reservationSend (c : Connection) (r : Request) :
    Settles c (c.reservationSend r).2 := by
  unfold reservationSend
  rcases sendReservedRequest_cases c r with ⟨-, o, ho, hs⟩ | ⟨e, he⟩
  · cases hp : c.sendReservedRequest r with
    | mk x c1 =>
        rw [hp] at ho hs
        cases ho
        exact (frees_openStream r).settles.trans (.same hs)
  · rw [he]
    exact Settles.trans (d := { c with reservations := c.reservations - 1 }) (.same rfl)
      (settles_releaseReserved _)

theorem settles_cancelStream (c : Connection) (o : Obj) : Settles c (c.cancelStream o) := by
  have hreset : Settles c (c.reset o .cancel).1 := (frees_resetWith o _ _).settles
  unfold cancelStream
  dsimp only
  split
  · exact hreset.trans (settles_startDisconnect _)
  · exact hreset

theorem settles_sendStreamDrop (c : Connection) (o : Obj) : Settles c (c.sendStreamDrop o) := by
  unfold sendStreamDrop
  dsimp only
  split
  · exact .same rfl
  · refine Settles.trans ?_ (settles_cancelStream _ o)
    exact .same rfl

theorem settles_recvStreamDrop (c : Connection) (o : Obj) : Settles c (c.recvStreamDrop o) := by
  unfold recvStreamDrop
  dsimp only
  split
  · exact (frees_streamDrop o).settles
  · exact (settles_cancelStream c o).trans (frees_streamDrop o).settles

/-- Steps that may wait for a slot. -/
def Asks : Step → Prop
  | .request _ | .pollRequest _ _ => True
  | _ => False

theorem settles_step {a : Step} (ha : ¬Asks a) : Settles c (c.step a) := by
  cases a with
  | receive f => exact settles_receive c f
  | stop x => exact settles_stop c x
  | shutdown => exact settles_disconnect c
  | dropRequest w => exact settles_dropRequest c w
  | reserve =>
      show Settles c c.reserveStream.1
      unfold reserveStream
      split
      · exact .same rfl
      · exact fun ht => ⟨ht.take, id⟩
  | reservationSend r => exact settles_reservationSend c r
  | reservationDrop =>
      exact Settles.trans (d := { c with reservations := c.reservations - 1 }) (.same rfl)
        (settles_releaseReserved _)
  | sendStreamDrop o => exact settles_sendStreamDrop c o
  | recvStreamDrop o => exact settles_recvStreamDrop c o
  | startDisconnect => exact settles_startDisconnect c
  | request r => exact absurd trivial ha
  | pollRequest w r => exact absurd trivial ha
  | _ =>
      refine Frees.settles (frees_step ?_)
      trivial

/-- A connection that is not healthy refuses every request. -/
theorem request_refused (hu : ¬c.Healthy) (r : Option Request) :
    ∃ e, c.request r = (.ready (.error e), c) := by
  unfold request
  cases he : c.checkErrorWithDisconnect with
  | none => exact absurd he hu
  | some e => exact ⟨e, rfl⟩

/-- A waiter that looks at its channel in a connection that is not healthy. -/
theorem pollRequest_refused (hu : ¬c.Healthy) (w : Nat) (r : Option Request) :
    (∃ e, c.pollRequest w r =
      (.ready (.error e), { c with waiters := c.waiters.filter (·.1 != w) })) ∨
    ((c.signal w = none ∨ c.signal w = some .pending) ∧ c.pollRequest w r = (.waiting w, c)) := by
  unfold pollRequest
  cases hs : c.signal w with
  | none => exact .inr ⟨.inl rfl, rfl⟩
  | some x =>
      cases x with
      | pending => exact .inr ⟨.inr rfl, rfl⟩
      | sent =>
          have hu' : ¬({ c with waiters := c.waiters.filter (·.1 != w) } : Connection).Healthy := hu
          exact .inl (request_refused hu' r)
      | dropped => exact .inl ⟨_, rfl⟩

theorem settles_unhealthy (hu : ¬c.Healthy) (a : Step) : Settles c (c.step a) := by
  cases a with
  | request r =>
      obtain ⟨e, he⟩ := request_refused hu r
      show Settles c (c.request r).2
      rw [he]
      exact .same rfl
  | pollRequest w r =>
      show Settles c (c.pollRequest w r).2
      rcases pollRequest_refused hu w r with ⟨e, he⟩ | ⟨-, he⟩
      · rw [he]
        exact settles_leave c w
      · rw [he]
        exact .same rfl
  | _ => exact settles_step id

theorem tidy_request (ht : c.slots.Tidy) (r : Option Request) : (c.request r).2.slots.Tidy := by
  unfold request
  split
  · exact ht
  · split
    · cases r with
      | none => exact ht
      | some r =>
          have hsend : (c.sendRequest r).2.slots.Tidy := by
            rcases slots_sendRequest c r with h | h
            · exact (Slots.Freed.settles h ht.take).1
            · rw [h]
              exact ht.take.release
          dsimp only
          cases hp : c.sendRequest r with
          | mk x c1 =>
              rw [hp] at hsend
              cases x with
              | error e => exact hsend
              | ok o => exact hsend
    · exact ht.enqueue

theorem tidy_step (ht : c.slots.Tidy) (a : Step) : (c.step a).slots.Tidy := by
  cases a with
  | request r => exact tidy_request ht r
  | pollRequest w r =>
      show (c.pollRequest w r).2.slots.Tidy
      unfold pollRequest
      split
      · exact tidy_request (c := { c with waiters := c.waiters.filter (·.1 != w) }) (ht.leave w) r
      · exact ht.leave w
      · exact ht
  | _ => exact (settles_step id ht).1

theorem tidy_of_reachable (h : Reachable s c) : c.slots.Tidy := by
  induction h with
  | new =>
      refine ⟨List.nodup_nil, ?_, ?_, List.nodup_nil, ?_, ?_⟩
      · exact fun _ h => by cases h
      · exact fun _ h => by cases h
      · exact fun _ h => by cases h
      · exact fun _ _ h => by cases h
  | step a hr ha ih => exact tidy_step ih a

/-- A connection that was told to go away stays so, and nobody starts to wait. -/
theorem settles_after {P : Connection → Step → Prop} (as : List Step) : ∀ {c : Connection},
    c.Clean → ¬c.Healthy → Allowed P c as → Settles c (c.after as) ∧ ¬(c.after as).Healthy := by
  induction as with
  | nil => exact fun _ hu _ => ⟨.same rfl, hu⟩
  | cons a as ih =>
      intro c hc hu ha
      have hrun := runs_step ha.1.1 (finds_anyRun c a)
      have hu' : ¬(c.step a).Healthy :=
        fun hh => hu (hh.of_grows (Session.Steps.grows (hrun hc).2))
      obtain ⟨h1, h2⟩ := ih (hrun.clean hc) hu' ha.2
      exact ⟨(settles_unhealthy hu a).trans h1, h2⟩

/-! ## The streams of a client -/

theorem above_iff (ht : c.session.Table) (hs : c.server = false) (last : StreamId) (p : Nat) :
    p ∈ (c.above last).map (·.2) ↔ p ∈ c.values ∧ last < (c.objs p).id := by
  constructor
  · intro h
    obtain ⟨e, he, rfl⟩ := List.mem_map.mp h
    obtain ⟨hm, hlt⟩ := List.mem_filter.mp he
    have hid : (c.objs e.2).id = e.1 := ht.key e hm
    refine ⟨List.mem_map_of_mem (f := (·.2)) hm, ?_⟩
    rw [hid]
    exact of_decide_eq_true (Bool.and_eq_true _ _ ▸ hlt).2
  · rintro ⟨h, hlt⟩
    obtain ⟨e, he, rfl⟩ := List.mem_map.mp h
    have hid : (c.objs e.2).id = e.1 := ht.key e he
    have hrem : (c.objs e.2).remote = false := (ht.remote e.2 (ht.bound _ h)).trans hs
    refine List.mem_map_of_mem (f := (·.2)) (List.mem_filter.mpr ⟨he, ?_⟩)
    rw [hrem, Bool.not_false, Bool.true_and]
    rw [hid] at hlt
    exact decide_eq_true hlt

/-- What a GOAWAY leaves of the client `c`: the streams above the announced id have failed and
are gone, every other stream is as it was. -/
structure Split (c d : Connection) (r : Reason) (last : StreamId) : Prop where
  failed : ∀ o ∈ c.values, last < (c.objs o).id → FailedWith r (d.objs o)
  kept : ∀ o, ¬(o ∈ c.values ∧ last < (c.objs o).id) → d.objs o = c.objs o
  values : ∀ o, o ∈ d.values ↔ o ∈ c.values ∧ (c.objs o).id ≤ last

theorem split_recvGoAway (hc : c.Clean) (hs : c.server = false) (r : Reason) (last : StreamId) :
    Split c (c.recvGoAway r last) r last := by
  have ht := hc.good.table
  have hn : ((c.above last).map (·.2)).Nodup :=
    (List.filter_sublist.map _).nodup ht.nodup
  have hgo : Runs anyRun c { c with goAway := some r } := .step fun hc => ⟨hc.anomalies, .goneAway⟩
  obtain ⟨h1, h2, h3⟩ := resetList_spec r (c.above last) (hgo.clean hc) hn fun e he =>
    List.mem_map_of_mem (f := (·.2)) (List.mem_filter.mp he).1
  have habove := above_iff ht hs last
  have hobjs : (c.recvGoAway r last).objs = (c.failAbove r last).objs ∧
      (c.recvGoAway r last).values = (c.failAbove r last).values := by
    rw [recvGoAway_eq, startDisconnect_eq]
    exact ⟨rfl, rfl⟩
  refine ⟨?_, ?_, ?_⟩
  · intro o ho hlt
    rw [hobjs.1]
    exact h1 o ((habove o).mpr ⟨ho, hlt⟩)
  · intro o ho
    rw [hobjs.1]
    exact h2 o fun h => ho ((habove o).mp h)
  · intro o
    rw [hobjs.2]
    have h3' : o ∈ (c.failAbove r last).values ↔ o ∈ c.values ∧ o ∉ (c.above last).map (·.2) := h3 o
    rw [h3', habove]
    constructor
    · rintro ⟨ho, hnot⟩
      exact ⟨ho, Nat.le_of_not_lt fun hlt => hnot ⟨ho, hlt⟩⟩
    · rintro ⟨ho, hle⟩
      exact ⟨ho, fun h => absurd h.2 (Nat.not_lt_of_le hle)⟩

/-- What holds of a later state of a client that was told to go away: no stream has been opened,
every call that would open one is refused, and the io is closed when nothing is left. -/
structure Refuses (c c' : Connection) : Prop where
  created : c'.created = c.created
  request : ∀ r, ∃ e, (c'.request r).1 = .ready (.error e)
  waiting : ∀ w ∈ c'.waiters, ∀ r, ∃ e, (c'.pollRequest w.1 r).1 = .ready (.error e)
  reserve : c'.reserveStream = (c', false)
  reservation : ∀ r, ∃ e, (c'.reservationSend r).1 = .error e
  closes : c'.error = none → c'.streams = [] → c'.reservedStreams = 0 → c'.ioClosed = true

theorem signal_of_mem {w : Nat × Signal} (h : w ∈ c.waiters) : c.signal w.1 ≠ none := by
  unfold signal
  intro hn
  have := List.find?_eq_none.mp (Option.map_eq_none_iff.mp hn) w h
  simp at this

/-- The rest of `recv_go_away`, after the reason is stored. -/
theorem runs_goneAway (hc : c.Clean) (r : Reason) (last : StreamId) :
    Runs anyRun { c with goAway := some r } (c.recvGoAway r last) := by
  have hfail : Runs anyRun { c with goAway := some r } (c.failAbove r last) :=
    runs_resetList r _ fun e he =>
      hc.good.table.bound e.2 (List.mem_map_of_mem (List.mem_filter.mp he).1)
  rw [recvGoAway_eq]
  exact (hfail.trans runs_startDisconnect).trans (.same rfl rfl)

theorem refuses_after {P : Connection → Step → Prop} (h : Reachable s c) (hs : c.server = false)
    (r : Reason) (last : StreamId) (as : List Step) (ha : Allowed P (c.recvGoAway r last) as) :
    Refuses c ((c.recvGoAway r last).after as) := by
  have hc := h.clean
  have hset : Runs anyRun c { c with goAway := some r } := .step fun hc => ⟨hc.anomalies, .goneAway⟩
  have hrun := runs_goneAway hc r last
  have hc1 := hrun.clean (hset.clean hc)
  obtain ⟨-, hsteps⟩ := steps_after as hc1 ha
  have hgone := (hrun (hset.clean hc)).2.trans hsteps
  have hold := Session.Steps.old hgone (fun hf => by rw [show _ = _ from hs] at hf; cases hf)
    fun _ => rfl
  have hgrow := Session.Steps.grows hgone
  have hclose := ((closes_of_reachable h).steps hc.good.table ((hset hc).2.trans hgone)).2
  -- nobody waits: the queue is cleared, and no call is queued again
  obtain ⟨hsettles, hu⟩ := settles_after as hc1 (healthy_startDisconnect _) ha
  have htidy := tidy_of_reachable h
  have hwaits : ¬((c.recvGoAway r last).after as).slots.Waits := by
    have hfail : Settles c (c.failAbove r last) :=
      Settles.trans (d := { c with goAway := some r }) (.same rfl)
        (settles_foldl (fun c e => frees_remoteResetStream c e.2 r) _ _)
    intro hw
    have hw' := (hsettles (settles_recvGoAway c r last htidy).1).2 hw
    exact startDisconnect_waits (hfail htidy).1 hw'
  have hdraining : ((c.recvGoAway r last).after as).disconnectWhenReady = true :=
    (Session.Steps.grows hsteps).draining (draining_startDisconnect _)
  generalize (c.recvGoAway r last).after as = c' at *
  have hgoAway : c'.goAway ≠ none := by
    intro hn
    have hsome : c'.goAway.isSome = true := hgrow.goneAway rfl
    rw [hn] at hsome
    cases hsome
  refine ⟨hold.created, ?_, ?_, ?_, ?_, ?_⟩
  · intro r
    obtain ⟨e, he⟩ := request_refused hu r
    exact ⟨e, by rw [he]⟩
  · intro w hw r
    rcases pollRequest_refused hu w.1 r with ⟨e, he⟩ | ⟨hn | hp, -⟩
    · exact ⟨e, by rw [he]⟩
    · exact absurd hn (signal_of_mem hw)
    · exact absurd ⟨w.1, signal_mem hp⟩ hwaits
  · unfold reserveStream
    rw [if_pos]
    rw [Option.isSome_iff_ne_none.mpr hu]
    rfl
  · intro r
    rcases sendReservedRequest_cases c' r with ⟨hn, -⟩ | ⟨e, he⟩
    · exact absurd hn hgoAway
    · refine ⟨e, ?_⟩
      unfold reservationSend
      rw [he]
  · intro he hst hres
    have hf : c'.session.failed = false := by
      show c'.error.isSome = false
      rw [he]
      rfl
    exact hclose hf ⟨hdraining, hst, hres⟩

/-- A GOAWAY splits the streams of a client, and from then on no stream is opened. -/
theorem goAway_splits (h : Reachable s c) (hs : s.server = false) (r : Reason) (last : StreamId) :
    Split c (c.recvGoAway r last) r last ∧
    (∀ data, ∀ o, o ∈ c.published (.goAway last r data) ↔ o ∈ c.values ∧ last < (c.objs o).id) ∧
    ∀ as, Allowed (fun _ _ => True) (c.recvGoAway r last) as →
      Refuses c ((c.recvGoAway r last).after as) := by
  have hcli : c.server = false := (session_server h).trans hs
  refine ⟨split_recvGoAway h.clean hcli r last, ?_, fun as ha => refuses_after h hcli r last as ha⟩
  exact fun _ o => above_iff h.clean.good.table hcli last o

/-- Two slots: two requests take them, a third one waits. -/
def crowdedRun : List Step :=
  [.receive (.settings { noSettings with maxConcurrentStreams := some 2 }),
    .request (some someRequest), .request (some someRequest), .request (some someRequest)]

theorem crowdedRun_allowed : Allowed (fun _ _ => True) clientStart.init crowdedRun := by
  refine ⟨⟨⟨?_, ?_⟩, trivial⟩, ⟨rfl, trivial⟩, ⟨rfl, trivial⟩, ⟨rfl, trivial⟩, trivial⟩
  · exact fun v hv => by cases hv
  · exact fun v hv => by cases hv

theorem crowdedRun_reachable : Reachable clientStart (clientStart.init.after crowdedRun) :=
  (ReachableBy.new.after crowdedRun crowdedRun_allowed).reachable

/-- The second of the two streams fails, and the request that waits is refused. -/
theorem goAway_splits_crowded :
    ∃ c, Reachable clientStart c ∧ c.streams = [(3, 1), (1, 0)] ∧ (0, .pending) ∈ c.waiters ∧
      FailedWith .noError ((c.recvGoAway .noError 1).objs 1) ∧
      (c.recvGoAway .noError 1).values = [0] ∧
      Refuses c ((c.recvGoAway .noError 1).after [.pollRequest 0 (some someRequest)]) := by
  refine ⟨_, crowdedRun_reachable, by decide +kernel, by decide +kernel, ?_, by decide +kernel, ?_⟩
  · exact (goAway_splits crowdedRun_reachable rfl .noError 1).1.failed 1 (by decide +kernel)
      (by decide +kernel)
  · refine (goAway_splits crowdedRun_reachable rfl .noError 1).2.2 _ ⟨⟨?_, trivial⟩, trivial⟩
    show _ = false
    decide +kernel

end Connection

end NtexH2
