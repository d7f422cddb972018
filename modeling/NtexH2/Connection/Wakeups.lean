/-
  Connection/Wakeups.lean --- tasks that wait for send capacity (src/stream.rs,
  `poll_send_capacity`, `wake_capacity_waiter`).

  A task is not woken by the events of other streams, but by what gives its own stream
  capacity or ends it.  On its own stream the task may register its waker again, and
  that is safe while it has not been woken.
-/
import NtexH2.Connection.TameRun

set_option autoImplicit false

namespace NtexH2

namespace Connection

variable {s : Start} {c c' : Connection} {o : Obj} {io : Nat → IoTurn} {eof : Bool}

/-! ## A task and its own stream -/

/-- A task that waits for capacity waits on a stream that is blocked, whether its waker is
registered or not. -/
def Calm (o : Obj) (c : Connection) : Prop :=
  (c.objs o).waitForCapacity = true → c.outline.Blocked o

theorem Calm.safe (h : c.Calm o) : c.outline.Safe o := fun _ hw => h hw

theorem Calm.registerSendWaker (h : c.Calm o) : (c.registerSendWaker o).Calm o := by
  intro hw
  unfold Connection.registerSendWaker at hw ⊢
  rw [modify_self] at hw
  obtain ⟨b1, b2, b3, b4⟩ := h hw
  rw [outline_modify]
  refine ⟨?_, ?_, ?_, b4⟩
  · rw [Outline.setSide_self]
    exact b1
  · rw [Outline.setSide_self]
    exact b2
  · rw [Outline.setSide_self]
    exact b3

theorem Calm.writeReady (h : c.Calm o) (r : IoReady) : (c.writeReady o r).2.Calm o := by
  unfold Connection.writeReady
  split
  · exact h
  · cases r with
    | ready => exact h.registerSendWaker
    | failed => exact h.registerSendWaker
    | pending => exact h.registerSendWaker

theorem calm_cancelCapacityWait (c : Connection) (o : Obj) : (c.cancelCapacityWait o).Calm o := by
  intro hw
  unfold cancelCapacityWait stopCapacityTimer at hw
  rw [modify_self, modify_self] at hw
  cases hw

/-- The task has registered its waker, to be woken when there is capacity. -/
structure Awaits (o : Obj) (c : Connection) : Prop where
  waker : (c.objs o).sendCap = true
  flag : (c.objs o).waitForCapacity = true
  blocked : c.outline.Blocked o

/-- Nothing has ended a stream on which `poll_send_capacity` waits. -/
theorem senderError_open (h : c.senderError o = none) :
    (c.objs o).send.isClosed = false ∧ (c.objs o).error = none ∧ c.error = none := by
  unfold senderError at h
  cases he : (c.objs o).error with
  | some e =>
      rw [he] at h
      cases h
  | none =>
      rw [he] at h
      cases hc : c.error with
      | some e =>
          rw [hc] at h
          cases h
      | none =>
          rw [hc] at h
          cases hs : (c.objs o).send with
          | idle => exact ⟨rfl, rfl, rfl⟩
          | payload => exact ⟨rfl, rfl, rfl⟩
          | closed r =>
              rw [hs] at h
              cases h

theorem startCapacityTimer_side (c : Connection) (o p : Obj) :
    ((c.startCapacityTimer o).objs p).side = (c.objs p).side :=
  congrArg (fun k => Outline.sides k p) (outline_startCapacityTimer c o)

theorem awaits_pollSendCapacity (h : (c.pollSendCapacity o).1 = .pending) :
    (c.pollSendCapacity o).2.Awaits o := by
  unfold pollSendCapacity at h ⊢
  cases he : c.senderError o with
  | some e =>
      rw [he] at h
      cases h
  | none =>
      rw [he] at h
      dsimp only at h ⊢
      by_cases hcap : 0 < c.availableSendCapacity o
      · rw [if_pos hcap] at h
        cases h
      · rw [if_neg hcap]
        obtain ⟨hsend, herr, hrun⟩ := senderError_open he
        have hz : c.availableSendCapacity o = 0 := by omega
        generalize hd : ((c.registerSendWaker o).modify o fun s =>
          { s with waitForCapacity := true }) = d
        have hside : (d.objs o).side = { (c.objs o).side with
            sendCap := true, waitForCapacity := true } := by
          rw [← hd, modify_self]
          unfold Connection.registerSendWaker
          rw [modify_self]
          rfl
        have hcon : d.outline.sendWindow = c.sendWindow ∧ d.outline.error = c.error := by
          rw [← hd]
          exact ⟨rfl, rfl⟩
        have hside' := (startCapacityTimer_side d o o).trans hside
        refine ⟨congrArg Side.sendCap hside', congrArg Side.waitForCapacity hside', ?_⟩
        show (d.startCapacityTimer o).outline.Blocked o
        rw [outline_startCapacityTimer]
        refine ⟨?_, ?_, ?_, hcon.2.trans hrun⟩
        · show min (d.objs o).side.sendWindow.windowSize d.outline.sendWindow.windowSize = 0
          rw [hside, hcon.1]
          exact hz
        · show (d.objs o).side.send.isClosed = false
          rw [hside]
          exact hsend
        · show (d.objs o).side.error = none
          rw [hside]
          exact herr

theorem calm_pollSendCapacity (c : Connection) (o : Obj) : (c.pollSendCapacity o).2.Calm o := by
  cases hp : (c.pollSendCapacity o).1 with
  | pending => exact fun _ => (awaits_pollSendCapacity hp).blocked
  | ready r =>
      unfold pollSendCapacity at hp ⊢
      split
      · exact calm_cancelCapacityWait c o
      · next he =>
          rw [he] at hp
          dsimp only at hp
          split
          · exact calm_cancelCapacityWait c o
          · next hcap =>
              rw [if_neg hcap] at hp
              cases hp

/-- The state of the task, from the outline. -/
theorem task_of_outline (h : c'.outline = c.outline) (p : Obj) :
    (c'.objs p).waitForCapacity = (c.objs p).waitForCapacity ∧
      (c'.objs p).sendCap = (c.objs p).sendCap := by
  have hside : (c'.objs p).side = (c.objs p).side := congrArg (fun k => Outline.sides k p) h
  exact ⟨congrArg Side.waitForCapacity hside, congrArg Side.sendCap hside⟩

theorem reviewState_waitForCapacity (c : Connection) (o p : Obj) :
    ((c.reviewState o).objs p).waitForCapacity = (c.objs p).waitForCapacity := by
  unfold reviewState
  split
  · rw [(task_of_outline (outline_dropStream _ _) p).1]
    unfold modify
    dsimp only
    split
    · rfl
    · rfl
  · rfl

theorem waitForCapacity_setSide {w : Window} {f : Side}
    (h : c'.outline = { c.outline.setSide o f with sendWindow := w }) :
    (c'.objs o).waitForCapacity = f.waitForCapacity := by
  have hside : (c'.objs o).side = f :=
    (congrArg (fun k => Outline.sides k o) h).trans (Outline.setSide_self c.outline o f)
  exact congrArg Side.waitForCapacity hside

theorem spendWindows_waitForCapacity (c : Connection) (o : Obj) (size : Nat) :
    ((c.spendWindows o size).objs o).waitForCapacity = (c.objs o).waitForCapacity :=
  waitForCapacity_setSide (outline_spendWindows c o size)

theorem sendChunk_waitForCapacity (c : Connection) (o : Obj) (payload : Bytes) (size : Nat)
    (last : Bool) : ((c.sendChunk o payload size last).objs o).waitForCapacity =
      (c.objs o).waitForCapacity := by
  obtain ⟨c1, -, hobjs, heq⟩ := sendChunk_parts c o payload size last
  rw [heq, spendWindows_waitForCapacity, ← hobjs]
  split
  · unfold stateSendClose
    rw [reviewState_waitForCapacity, modify_self]
  · rfl

/-- Nobody waits on a stream that has capacity. -/
theorem Calm.idle (h : c.Calm o) (hcap : 0 < c.availableSendCapacity o) :
    (c.objs o).waitForCapacity = false := by
  cases hw : (c.objs o).waitForCapacity with
  | false => rfl
  | true =>
      have hz : c.availableSendCapacity o = 0 := (h hw).capacity
      omega

theorem Calm.sendChunk (h : c.Calm o) (hcap : 0 < c.availableSendCapacity o) (payload : Bytes)
    (size : Nat) (last : Bool) : (c.sendChunk o payload size last).Calm o := by
  intro hw
  rw [sendChunk_waitForCapacity, h.idle hcap] at hw
  cases hw

theorem sending_calm (o : Obj) :
    SendRule o (fun c c' => c.Calm o → c'.Calm o) (fun c c' => c.Calm o → c'.Calm o) where
  refl := fun _ h => h
  done := fun h => h
  andThen := fun h h' hc => h' (h hc)
  writeReady := fun _ r h => h.writeReady r
  pollSendCapacity := fun c _ => calm_pollSendCapacity c o
  sendChunk := fun hcap payload size h => h.sendChunk hcap payload size false
  lastChunk := fun hcap payload size last h => h.sendChunk hcap payload size last

/-- The end of the send half wakes the task. -/
theorem safe_stateSendClose (c : Connection) (o : Obj) (r : Option Reason) :
    (c.stateSendClose o r).outline.Safe o := by
  have h : ((c.stateSendClose o r).objs o).sendCap = false := by
    unfold stateSendClose reviewState
    split
    · rw [(task_of_outline (outline_dropStream _ _) o).2, modify_self]
    · rw [modify_self]
  intro hcap
  cases h.symm.trans hcap

theorem Calm.sendPages (h : c.Calm o) (data : StreamData) (eof : Bool) :
    (c.sendPages io o data eof).2.outline.Safe o := by
  unfold Connection.sendPages
  split
  · exact h.safe
  · exact h.safe
  · split
    · exact h.safe
    · split
      · split
        · dsimp only
          exact safe_stateSendClose c o none
        · exact h.safe
      · exact ((sending_calm o).pagesLoop _ _ c data h).safe

/-- A poll that suspends for want of capacity leaves the task waiting. -/
def LeavesWaiting (o : Obj) (r : SendPoll × Connection) : Prop :=
  ∀ p, r.1 = .suspended p → p.await = .capacity → r.2.Awaits o

theorem leavesWaiting_pagesTurn {turn : IoTurn}
    {next : Connection → StreamData → SendPoll × Connection}
    (hnext : ∀ c data, LeavesWaiting o (next c data)) (c : Connection) (data : StreamData) :
    LeavesWaiting o (pagesTurn turn o eof next c data) := by
  unfold pagesTurn
  split
  · split
    · dsimp only
      split
      · exact fun _ => nofun
      · exact hnext _ _
    · exact fun _ => nofun
  · have ha := awaits_pollSendCapacity (c := c) (o := o)
    cases hp : c.pollSendCapacity o with
    | mk x c1 =>
        rw [hp] at ha
        cases x with
        | pending => exact fun _ _ _ => ha rfl
        | ready y =>
            cases y with
            | error e => exact fun _ => nofun
            | ok n => exact hnext _ _

theorem leavesWaiting_pagesLoop (fuel : Nat) : ∀ (k : Nat) (c : Connection) (data : StreamData),
    LeavesWaiting o (pagesLoop io o eof fuel k c data) := by
  induction fuel with
  | zero =>
      intro k c data p hp
      cases hp
      intro heq
      cases heq
  | succ fuel ih =>
      intro k c data
      have hturn : ∀ c, LeavesWaiting o
          (pagesTurn (io k) o eof (pagesLoop io o eof fuel (k + 1)) c data) :=
        fun c => leavesWaiting_pagesTurn (fun c d => ih (k + 1) c d) c data
      unfold pagesLoop
      cases (io k).pressure with
      | none => exact hturn c
      | some r =>
          dsimp only
          cases c.writeReady o r with
          | mk x c1 =>
              cases x with
              | pending =>
                  intro p hp
                  cases hp
                  intro heq
                  cases heq
              | ready y =>
                  cases y with
                  | error e =>
                      intro p hp
                      cases hp
                  | ok u => exact hturn c1

theorem leavesWaiting_sendPages (c : Connection) (o : Obj) (data : StreamData) (eof : Bool) :
    LeavesWaiting o (c.sendPages io o data eof) := by
  unfold sendPages
  split
  · exact fun _ => nofun
  · exact fun _ => nofun
  · split
    · exact fun _ => nofun
    · split
      · split
        · exact fun _ => nofun
        · exact fun _ => nofun
      · exact leavesWaiting_pagesLoop _ _ c data

theorem leavesWaiting_pollSender {r : IoReady} (c : Connection) (p : Sender) :
    LeavesWaiting p.stream (c.pollSender io r p) := by
  unfold pollSender
  cases hw : p.await with
  | writeReady =>
      dsimp only
      cases c.writeReady p.stream r with
      | mk x c1 =>
          cases x with
          | pending =>
              intro p' hp' hcap
              cases hp'
              rw [hw] at hcap
              cases hcap
          | ready y =>
              cases y with
              | error e => exact fun _ => nofun
              | ok u =>
                  exact leavesWaiting_pagesTurn (fun c d => leavesWaiting_pagesLoop _ _ c d)
                    c1 p.data
  | capacity =>
      dsimp only
      have ha := awaits_pollSendCapacity (c := c) (o := p.stream)
      cases hp : c.pollSendCapacity p.stream with
      | mk x c1 =>
          rw [hp] at ha
          cases x with
          | pending => exact fun _ _ _ => ha rfl
          | ready y =>
              cases y with
              | error e => exact fun _ => nofun
              | ok n => exact leavesWaiting_pagesLoop _ _ c1 p.data

/-! ## Runs -/

/-- The task of the stream polls for capacity in the step, and is told to wait. -/
inductive Polls (c : Connection) (o : Obj) : Step → Prop where
  | capacity : (c.pollSendCapacity o).1 = .pending → Polls c o (.pollSendCapacity o)
  | sendPages {io : Nat → IoTurn} {data : StreamData} {eof : Bool} {p : Sender} :
      (c.sendPages io o data eof).1 = .suspended p → p.await = .capacity →
      Polls c o (.sendPages io o data eof)
  | pollSender {io : Nat → IoTurn} {r : IoReady} {i : Nat} {q p : Sender} :
      c.senders[i]? = some q → q.stream = o → (c.pollSender io r q).1 = .suspended p →
      p.await = .capacity → Polls c o (.pollSender io r i)

/-- The states of the runs in which `poll_send_capacity` has returned `Pending` for the stream, and
the waker of the task has been registered ever since. -/
inductive Registered (s : Start) (o : Obj) : Connection → Prop where
  | polled {c : Connection} {a : Step} : Reachable s c → c.Enabled a → Polls c o a →
      Registered s o (c.step a)
  | later {c : Connection} {a : Step} : Registered s o c → c.Enabled a →
      ((c.step a).objs o).sendCap = true → Registered s o (c.step a)

theorem Registered.reachable (h : Registered s o c) : Reachable s c := by
  induction h with
  | polled h ha _ => exact .step _ h ha
  | later _ ha _ ih => exact .step _ ih ha

theorem Awaits.of_eq (h : c.Awaits o) (hk : c'.outline = c.outline) : c'.Awaits o := by
  obtain ⟨hflag, hwaker⟩ := task_of_outline hk o
  exact ⟨hwaker.trans h.waker, hflag.trans h.flag, hk ▸ h.blocked⟩

/-- The task waits after such a poll. -/
theorem Polls.awaits {a : Step} (h : Polls c o a) : (c.step a).Awaits o := by
  cases h with
  | capacity hp => exact awaits_pollSendCapacity hp
  | @sendPages io data eof p hp hcap =>
      exact (leavesWaiting_sendPages c o data eof p hp hcap).of_eq (outline_started _)
  | @pollSender io r i q p hi ho hp hcap =>
      unfold step
      dsimp only
      rw [hi]
      subst ho
      exact (leavesWaiting_pollSender c q p hp hcap).of_eq (outline_settle i _)

theorem Polls.lt_created {a : Step} (h : Polls c o a) (hc : c.Clean) (ha : c.Enabled a) :
    o < c.created := by
  cases h with
  | capacity _ => exact ha
  | sendPages _ _ => exact ha
  | @pollSender io r i q p hi ho _ _ =>
      have hmem : q.stream ∈ c.session.senders :=
        List.mem_map_of_mem (f := (·.stream)) (List.mem_of_getElem? hi)
      rw [← ho]
      exact (hc.good.table.senders _ hmem).1

/-- What the task itself does on its stream. -/
theorem Calm.step (h : c.Calm o) {a : Step} (ha : c.actor a = some o) :
    (c.step a).outline.Safe o := by
  cases a with
  | sendPages io p data eof =>
      cases ha
      show (started (c.sendPages io o data eof)).outline.Safe o
      rw [outline_started]
      exact h.sendPages data eof
  | pollSendCapacity p =>
      cases ha
      exact (calm_pollSendCapacity c o).safe
  | pollSender io r i =>
      have ha' : c.senders[i]?.map (·.stream) = some o := ha
      obtain ⟨q, hi, rfl⟩ := Option.map_eq_some_iff.mp ha'
      unfold Connection.step
      dsimp only
      rw [hi]
      dsimp only
      rw [outline_settle]
      exact ((sending_calm q.stream).pollSender c h).safe
  | _ => cases ha

/-- A task whose waker is registered waits on a blocked stream, if it waits at all. -/
theorem Registered.calm (h : Registered s o c) : o < c.created ∧ c.Calm o := by
  induction h with
  | @polled c a h ha hp =>
      have hsane : Sane False c := h.clean.sane (settled_of_reachable h) nofun
      have ht := tames_step hsane h.clean ha fun f _ => permits_of_false c f
      exact ⟨Nat.lt_of_lt_of_le (hp.lt_created h.clean ha) ht.created,
        fun _ => hp.awaits.blocked⟩
  | @later c a hreg ha hcap ih =>
      obtain ⟨ho, hcalm⟩ := ih
      have h := hreg.reachable
      have hsane : Sane False c := h.clean.sane (settled_of_reachable h) nofun
      have ht := tames_step hsane h.clean ha fun f _ => permits_of_false c f
      refine ⟨Nat.lt_of_lt_of_le ho ht.created, ?_⟩
      have hsafe : (c.step a).outline.Safe o := by
        by_cases hact : c.actor a = some o
        · exact hcalm.step hact
        · exact ht.safe o ho hact hcalm.safe
      exact fun hw => hsafe hcap hw

/-- No wake-up is lost: whatever happens, a task that waits for capacity and has not been woken
waits on a stream without capacity, whose send half is open, and nothing has failed. -/
theorem capacity_waiters_blocked (h : Registered s o c)
    (hw : (c.objs o).waitForCapacity = true) :
    c.availableSendCapacity o = 0 ∧ (c.objs o).send.isClosed = false ∧
      (c.objs o).error = none ∧ c.error = none := by
  obtain ⟨b1, b2, b3, b4⟩ := h.calm.2 hw
  exact ⟨b1, b2, b3, b4⟩

/-- A request to a server whose peer gives its streams no window, and the head of the response. -/
def closedWindow : List Step :=
  [.receive (.settings ⟨false, none, none, none, some 0, none, none, none⟩),
    .receive (.headers ⟨1, somePseudo, [], true⟩), .sendResponse 0 200 [] false]

theorem closedWindow_reachable : Reachable (serverWith 1000 333 (by decide) (by decide))
    ((serverWith 1000 333 (by decide) (by decide)).init.after closedWindow) := by
  refine ((ReachableBy.new (P := anyStep)).after closedWindow ?_).reachable
  refine ⟨⟨⟨?_, ?_⟩, trivial⟩, ⟨?_, trivial⟩, ⟨?_, trivial⟩, trivial⟩
  · intro v hv
    cases hv
    decide
  · exact fun v hv => (by cases hv)
  · show 1 < 2 ^ 31
    decide
  · show 0 < _
    decide

theorem capacity_waiters_blocked_window :
    ∃ c, Registered (serverWith 1000 333 (by decide) (by decide)) 0 c ∧
      (c.objs 0).waitForCapacity = true ∧ c.availableSendCapacity 0 = 0 := by
  have hreg := Registered.polled closedWindow_reachable (a := .pollSendCapacity 0) (o := 0)
    (by show 0 < _; decide) (.capacity (by decide))
  exact ⟨_, hreg, by decide, (capacity_waiters_blocked hreg (by decide)).1⟩

/-- The task waits, is woken by a WINDOW_UPDATE, and sends without a new poll for capacity; the io
is under back-pressure. -/
def rewaited : List Step :=
  closedWindow ++ [.pollSendCapacity 0, .receive (.windowUpdate 1 10),
    .sendPages (fun _ => ⟨some .pending, true⟩) 0 (.bytes [1, 2, 3]) true]

theorem rewaited_reachable : Reachable (serverWith 1000 333 (by decide) (by decide))
    ((serverWith 1000 333 (by decide) (by decide)).init.after rewaited) := by
  refine ((ReachableBy.new (P := anyStep)).after rewaited ?_).reachable
  refine ⟨⟨⟨?_, ?_⟩, trivial⟩, ⟨?_, trivial⟩, ⟨?_, trivial⟩, ⟨?_, trivial⟩, ⟨?_, trivial⟩,
    ⟨?_, trivial⟩, trivial⟩
  · intro v hv
    cases hv
    decide
  · exact fun v hv => (by cases hv)
  · show 1 < 2 ^ 31
    decide
  · show 0 < _
    decide
  · show 0 < _
    decide
  · show 1 < 2 ^ 31 ∧ 10 < 2 ^ 31
    decide
  · show 0 < _
    decide

/-- A waker that `write_ready` registers may belong to a stream that has capacity, with the flag of
the earlier wait. -/
theorem capacity_waiter_not_blocked :
    ¬∀ (s : Start) (c : Connection) (o : Obj), Reachable s c → o < c.created →
      (c.objs o).waitForCapacity = true → (c.objs o).sendCap = true →
        c.availableSendCapacity o = 0 := by
  intro h
  have hz := h _ _ 0 rewaited_reachable (by decide) (by decide) (by decide)
  exact absurd hz (by decide)

end Connection

end NtexH2
