/-
  Connection/CapacityCalls.lean --- what the owner of a connection is told
  (src/connection.rs, `notify_capacity`).

  A stream that ends frees one slot and the owner is told once; a failure frees the
  slots of all streams at once, and a new limit any number of them, and the owner is
  told once as well.
-/
import NtexH2.Connection.Waiters

set_option autoImplicit false

namespace NtexH2

namespace Connection

open Slots (Freed)

variable {c c' c'' : Connection}

/-! ## Slots that are announced -/

/-- The limit stays, and every slot that gets free on the way is announced. -/
structure Announced (c c' : Connection) : Prop where
  limit : c'.localMaxConcurrentStreams = c.localMaxConcurrentStreams
  calls : c.capacityCalls ≤ c'.capacityCalls
  active : c.activeLocalStreams + c.capacityCalls ≤ c'.activeLocalStreams + c'.capacityCalls

/-- A slot that gets free, without a word. -/
theorem release_eq (s : Slots) : s.release.limit = s.limit ∧ s.release.active = s.active - 1 ∧
    s.release.calls = s.calls := by
  unfold Slots.release
  split
  · exact ⟨rfl, rfl, rfl⟩
  · exact ⟨rfl, rfl, rfl⟩

/-- A slot that gets free with a call is announced; by induction on the slots that get free. -/
theorem Announced.of_freed (h : Freed c.slots c'.slots) : c.Announced c' := by
  have hall : ∀ {s s' : Slots}, Freed s s' → s'.limit = s.limit ∧ s.calls ≤ s'.calls ∧
      s.active + s.calls ≤ s'.active + s'.calls := by
    intro s s' hf
    induction hf with
    | refl => exact ⟨rfl, Nat.le_refl _, Nat.le_refl _⟩
    | @release s1 _ ih =>
        obtain ⟨h1, h2, h3⟩ := ih
        obtain ⟨hlimit, hactive, hcalls⟩ := release_eq s1
        refine ⟨hlimit.trans h1, ?_, ?_⟩
        · show s.calls ≤ s1.release.calls + 1
          omega
        · show s.active + s.calls ≤ s1.release.active + (s1.release.calls + 1)
          omega
  exact ⟨(hall h).1, (hall h).2.1, (hall h).2.2⟩

theorem Announced.of_frees (h : Frees c c') : c.Announced c' := .of_freed h

/-- What is announced on the way adds up. -/
theorem Announced.trans (h : c.Announced c') (h' : c'.Announced c'') : c.Announced c'' :=
  ⟨h'.limit.trans h.limit, Nat.le_trans h.calls h'.calls, Nat.le_trans h.active h'.active⟩

/-- The queue of a connection is none of the owner's business. -/
theorem Announced.clearReadiness (c : Connection) : c.Announced c.clearReadiness :=
  ⟨rfl, Nat.le_refl _, Nat.le_refl _⟩

theorem Announced.notifyCapacity (c : Connection) : c.Announced c.notifyCapacity :=
  ⟨rfl, Nat.le_succ _, Nat.le_succ _⟩

theorem announced_startDisconnect (c : Connection) : c.Announced c.startDisconnect := by
  refine Announced.trans (.clearReadiness c) (.of_frees (.same ?_))
  unfold startDisconnect
  dsimp only
  generalize hc1 : (if c.clearReadiness.server && !c.clearReadiness.disconnectWhenReady &&
    !c.clearReadiness.ioClosed && c.clearReadiness.error.isNone then
      c.clearReadiness.encodeCon (.goAway c.clearReadiness.lastId .noError [])
    else c.clearReadiness) = c1
  have h1 : c1.slots = c.clearReadiness.slots := by
    rw [← hc1]
    split
    · rfl
    · rfl
  rw [← h1]
  split
  · rfl
  · rfl

/-- GOAWAY fails streams one after the other, each with its call. -/
theorem announced_recvGoAway (c : Connection) (reason : Reason) (last : StreamId) :
    c.Announced (c.recvGoAway reason last) := by
  have hfold : ∀ (es : List (StreamId × Obj)) (c : Connection),
      Frees c (es.foldl (fun c e => c.remoteResetStream e.2 reason) c) := by
    intro es
    induction es with
    | nil => exact fun c => .same rfl
    | cons e es ih =>
        intro c
        have h1 : Frees c (c.remoteResetStream e.2 reason) := frees_review e.2 _
        exact h1.trans (ih _)
  have h0 : Frees c { c with goAway := some reason } := .same rfl
  exact ((Announced.of_frees (h0.trans (hfold _ _))).trans (announced_startDisconnect _)).trans
    (.notifyCapacity _)

theorem announced_sendRequest (c : Connection) (r : Request) :
    c.Announced (c.sendRequest r).2 := by
  have htake : c.Announced { c with activeLocalStreams := c.activeLocalStreams + 1 } :=
    ⟨rfl, Nat.le_refl _, Nat.add_le_add_right (Nat.le_succ _) _⟩
  rcases slots_sendRequest c r with h | h
  · exact htake.trans (.of_freed h)
  · obtain ⟨hlimit, hactive, hcalls⟩ := release_eq c.slots.take
    rw [← h] at hlimit hactive hcalls
    refine ⟨hlimit, Nat.le_of_eq hcalls.symm, ?_⟩
    exact Nat.le_of_eq (congrArg₂ (· + ·) hactive.symm hcalls.symm)

theorem announced_request (c : Connection) (r : Option Request) : c.Announced (c.request r).2 := by
  unfold request
  split
  · exact .of_frees (.same rfl)
  · split
    · cases r with
      | none => exact .of_frees (.same rfl)
      | some r =>
          have h := announced_sendRequest c r
          dsimp only
          cases hp : c.sendRequest r with
          | mk x c1 =>
              rw [hp] at h
              cases x with
              | error e => exact h
              | ok o => exact h
    · exact ⟨rfl, Nat.le_refl _, Nat.le_refl _⟩

/-- A request that is opened takes a slot and frees none. -/
theorem announced_pollRequest (c : Connection) (w : Nat) (r : Option Request) :
    c.Announced (c.pollRequest w r).2 := by
  have hleave : c.Announced { c with waiters := c.waiters.filter (·.1 != w) } :=
    ⟨rfl, Nat.le_refl _, Nat.le_refl _⟩
  unfold pollRequest
  split
  · exact hleave.trans (announced_request _ r)
  · exact hleave
  · exact .of_frees (.same rfl)

/-! ## Failures -/

/-- Streams that fail take no call back. -/
theorem calls_failStreams (c : Connection) (err : OperationError) :
    c.capacityCalls ≤ (c.failStreams err).capacityCalls := by
  have hfold : ∀ (os : List Obj) (c : Connection),
      Frees c (os.foldl (fun c o => c.setFailedStream o err) c) := by
    intro os
    induction os with
    | nil => exact fun c => .same rfl
    | cons o os ih => exact fun c => (frees_setFailedStream o err).trans (ih _)
  exact (Announced.of_frees (hfold c.values c.clearReadiness.takeStreams)).calls

/-- A protocol error makes one call after its streams have failed. -/
theorem calls_protoError (c : Connection) (e : ConnectionError) :
    c.capacityCalls < (c.protoError e).capacityCalls :=
  Nat.lt_succ_of_le (calls_failStreams { c.push (.failed e) with error := some (.connection e) } _)

/-- So does a timeout. -/
theorem calls_timeout (c : Connection) (e : ConnectionError) (r : Reason) :
    c.capacityCalls < (c.timeout e r).capacityCalls :=
  Nat.lt_succ_of_le (calls_failStreams { c.push (.failed e) with error := some (.connection e) } _)

/-- So does the loss of the io. -/
theorem calls_disconnect (c : Connection) : c.capacityCalls < c.disconnect.capacityCalls := by
  unfold disconnect
  dsimp only
  generalize hc1 : ({ c with error := some (c.error.getD .disconnected) } :
    Connection).failStreams .disconnected = c1
  have h1 : c.capacityCalls ≤ c1.capacityCalls := by
    rw [← hc1]
    exact calls_failStreams { c with error := some (c.error.getD .disconnected) } _
  split
  · exact Nat.lt_succ_of_le h1
  · exact Nat.lt_succ_of_le h1

/-! ## Steps -/

/-- The first SETTINGS frame sets the limit, or removes it; a later one only sets it. -/
def SetsLimit (c : Connection) (s : Settings) : Prop :=
  s.maxConcurrentStreams.isSome = true ∨ c.remoteSettings = false

instance (c : Connection) (s : Settings) : Decidable (c.SetsLimit s) :=
  inferInstanceAs (Decidable (_ ∨ _))

/-- What a step does to the slots: it announces them, or the connection fails and the owner is
told, or it applies a limit of the peer and the owner is told once. -/
inductive Outcome (c : Connection) (a : Step) (c' : Connection) : Prop where
  | announced (h : c.Announced c')
  | failed (h : ¬c'.Healthy) (hcalls : c.capacityCalls < c'.capacityCalls)
  | limited (s : Settings) (ha : a = .receive (.settings s)) (hack : s.ack = false)
      (hset : c.SetsLimit s)
      (hlimit : c'.localMaxConcurrentStreams = s.maxConcurrentStreams)
      (hactive : c'.activeLocalStreams = c.activeLocalStreams)
      (hcalls : c'.capacityCalls = c.capacityCalls + 1)

/-- A protocol error ends the step with a call, whatever came before. -/
theorem Outcome.protoError {a : Step} (e : ConnectionError)
    (h : c.capacityCalls ≤ c'.capacityCalls) :
    Outcome c a (c'.protoError e) :=
  .failed (healthy_protoError c' e) (Nat.lt_of_le_of_lt h (calls_protoError c' e))

theorem Outcome.timeout {a : Step} (e : ConnectionError) (r : Reason) :
    Outcome c a (c.timeout e r) :=
  .failed (healthy_timeout c e r) (calls_timeout c e r)

/-- The answer to a message frees slots, or the connection fails. -/
theorem Outcome.handleMessage {a : Step} {r : Received × Connection} (h : Frees c r.2) :
    Outcome c a (handleMessage r) := by
  cases r with
  | mk x c1 =>
      cases x with
      | ok item => exact .announced (.of_frees h)
      | error e =>
          cases e with
          | connection e => exact .protoError e (Announced.of_frees h).calls
          | stream o e =>
              have hpush : Frees c (c1.push (.streamFailed o e)) := h.trans (.same rfl)
              have hreset : Frees c ((c1.push (.streamFailed o e)).resetSilent o e.reason).1 :=
                hpush.trans (frees_resetSilent o _)
              cases e with
              | reset r => exact .announced (.of_frees (hpush.trans (frees_setFailedStream o _)))
              | _ => exact .announced (.of_frees hreset)

/-- SETTINGS without a new limit leave the slots. -/
theorem slots_applyLimits_of_not {s : Settings} (h : ¬c.SetsLimit s) :
    (c.applyLimits s).slots = c.slots := by
  have hcond : (s.maxConcurrentStreams.isSome || !c.remoteSettings) = false := by
    simpa [SetsLimit] using h
  unfold applyLimits
  cases s.maxHeaderListSize with
  | none =>
      cases s.maxFrameSize with
      | none =>
          dsimp only
          rw [hcond]
          rfl
      | some frame =>
          dsimp only
          rw [hcond]
          rfl
  | some list =>
      cases s.maxFrameSize with
      | none =>
          dsimp only
          rw [hcond]
          rfl
      | some frame =>
          dsimp only
          rw [hcond]
          rfl

/-- SETTINGS with a new limit are the only ones that reach the slots. -/
theorem slots_recvPeerSettings (c : Connection) (s : Settings) :
    (c.recvPeerSettings s).2.slots = c.slots ∨ c.SetsLimit s ∧
      (c.recvPeerSettings s).2.slots = (c.slots.setLimit s.maxConcurrentStreams).notify := by
  unfold recvPeerSettings
  split
  · exact .inl rfl
  · have hs := slots_applyInitialWindow (c.applyLimits s) s
    have hlim : (c.applyLimits s).slots = c.slots ∨ c.SetsLimit s ∧
        (c.applyLimits s).slots = (c.slots.setLimit s.maxConcurrentStreams).notify := by
      by_cases hset : c.SetsLimit s
      · exact (slots_applyLimits c s).imp_right fun h => ⟨hset, h⟩
      · exact .inl (slots_applyLimits_of_not hset)
    cases hw : (c.applyLimits s).applyInitialWindow s with
    | mk x c1 =>
        rw [hw] at hs
        change c1.slots = _ at hs
        rw [← hs] at hlim
        cases x with
        | false => exact hlim
        | true => exact hlim

/-- A received frame announces what it frees, fails the connection, or sets the limit. -/
theorem outcome_receive (c : Connection) (f : Frame) : Outcome c (.receive f) (c.receive f) := by
  have hcalls : ∀ (o : Option Obj), c.capacityCalls ≤ (c.push (.received o f)).capacityCalls :=
    fun _ => Nat.le_refl _
  have hlift : ∀ {o : Option Obj} {c' : Connection},
      Outcome (c.push (.received o f)) (.receive f) c' → Outcome c (.receive f) c' := by
    intro o c' h
    cases h with
    | announced h => exact .announced ⟨h.limit, h.calls, h.active⟩
    | failed h hcalls => exact .failed h hcalls
    | limited s ha hack hset hlimit hactive hcalls =>
        exact .limited s ha hack hset hlimit hactive hcalls
  unfold receive
  dsimp only
  split
  · refine hlift (o := f.streamId.bind c.query) ?_
    generalize c.push (.received (f.streamId.bind c.query) f) = c1
    unfold dispatch
    cases f with
    | headers hd => exact .handleMessage (frees_recvHeaders hd)
    | data d => exact .handleMessage (frees_recvData d)
    | settings s =>
        dsimp only
        split
        · have hs := slots_recvSettingsAck c1
          cases hp : c1.recvSettingsAck with
          | mk x c2 =>
              rw [hp] at hs
              have hf : Frees c1 c2 := .same hs
              cases x with
              | error e => exact .protoError e (Announced.of_frees hf).calls
              | ok errs => exact .announced (.of_frees (hf.trans (frees_handleAckErrors errs)))
        · next hack =>
            have hs := slots_recvPeerSettings c1 s
            cases hp : c1.recvPeerSettings s with
            | mk x c2 =>
                rw [hp] at hs
                change c2.slots = _ ∨ c1.SetsLimit s ∧ c2.slots = _ at hs
                cases x with
                | error e =>
                    refine .protoError e ?_
                    rcases hs with h | ⟨-, h⟩
                    · exact Nat.le_of_eq (congrArg Slots.calls h).symm
                    · exact Nat.le_trans (Nat.le_succ _)
                        (Nat.le_of_eq (congrArg Slots.calls h).symm)
                | ok u =>
                    rcases hs with h | ⟨hset, h⟩
                    · exact .announced (.of_frees (.same h))
                    · exact .limited s rfl (Bool.eq_false_iff.mpr hack) hset
                        (congrArg Slots.limit h)
                        (congrArg Slots.active h) (congrArg Slots.calls h)
    | windowUpdate id n => exact .handleMessage (frees_recvWindowUpdate id n)
    | reset id r => exact .handleMessage (frees_recvRstStream id r)
    | ping ack payload =>
        dsimp only
        split
        · exact .announced (.of_frees (.same rfl))
        · exact .announced (.of_frees (.same rfl))
    | goAway last r data => exact .announced (announced_recvGoAway c1 r last)
    | invalid g => exact .handleMessage (frees_recvInvalidFrame g)
    | priority id => exact .announced (.of_frees (.same rfl))
  · exact .protoError _ (hcalls _)

/-- The dispatcher ends with a call. -/
theorem outcome_stop (c : Connection) (x : Stop) : Outcome c (.stop x) (c.stop x) := by
  cases x with
  | encoder e => exact .protoError _ (Nat.le_refl _)
  | decoder e => exact .protoError _ (Nat.le_refl _)
  | keepAlive =>
      unfold stop
      dsimp only
      split
      · exact .timeout _ _
      · exact .timeout _ _
  | readTimeout => exact .timeout _ _
  | writeTimeout => exact .timeout _ _
  | io => exact .failed (healthy_disconnect c) (calls_disconnect c)
  | service => exact .failed (healthy_stop c .service) (calls_disconnect c)

theorem announced_reservationDrop (c : Connection) : c.Announced c.reservationDrop := by
  refine .of_freed ?_
  unfold reservationDrop
  rw [slots_releaseReserved]
  exact .release .refl

/-- A reserved request moves its slot to the stream, or gives it back with a call. -/
theorem announced_sendReserved (c : Connection) (r : Request) :
    c.Announced (c.sendReservedRequest r).2 := by
  have hsame : c.Announced c := .of_frees (.same rfl)
  have hopen : c.Announced (c.openStream r).2 := .of_frees (frees_openStream r)
  unfold sendReservedRequest
  split
  · exact hsame
  · split
    · exact hsame
    · split
      · exact hsame
      · cases ho : c.openStream r with
        | mk x c1 =>
            rw [ho] at hopen
            cases x with
            | error e => exact hopen
            | ok o =>
                exact hopen.trans (.of_frees (.same (slots_note c1 _ .reserved)))

theorem announced_reservationSend (c : Connection) (r : Request) :
    c.Announced (c.reservationSend r).2 := by
  have hsend := announced_sendReserved c r
  unfold reservationSend
  cases hp : c.sendReservedRequest r with
  | mk x c1 =>
      rw [hp] at hsend
      cases x with
      | error e => exact hsend.trans (announced_reservationDrop c1)
      | ok o => exact ⟨hsend.limit, hsend.calls, hsend.active⟩

theorem announced_cancelStream (c : Connection) (o : Obj) : c.Announced (c.cancelStream o) := by
  have hreset : c.Announced (c.reset o .cancel).1 := .of_frees (frees_resetWith o _ _)
  unfold cancelStream
  dsimp only
  split
  · exact hreset.trans (announced_startDisconnect _)
  · exact hreset

theorem announced_sendStreamDrop (c : Connection) (o : Obj) :
    c.Announced (c.sendStreamDrop o) := by
  have hflag : c.Announced (c.modify o fun s => { s with noResetOnDrop := false }) :=
    .of_frees (.same rfl)
  unfold sendStreamDrop
  dsimp only
  split
  · exact hflag
  · exact hflag.trans (announced_cancelStream _ o)

/-- Streams that leave with their reader are announced. -/
theorem announced_recvStreamDrop (c : Connection) (o : Obj) :
    c.Announced (c.recvStreamDrop o) := by
  unfold recvStreamDrop
  dsimp only
  split
  · exact .of_frees (frees_streamDrop o)
  · exact (announced_cancelStream c o).trans (.of_frees (frees_streamDrop o))

theorem announced_dropRequest (c : Connection) (w : Nat) : c.Announced (c.dropRequest w) := by
  unfold dropRequest
  split
  · exact ⟨rfl, Nat.le_refl _, Nat.le_refl _⟩
  · exact ⟨rfl, Nat.le_refl _, Nat.le_refl _⟩

theorem announced_reserveStream (c : Connection) : c.Announced c.reserveStream.1 := by
  unfold reserveStream
  split
  · exact .of_frees (.same rfl)
  · exact ⟨rfl, Nat.le_refl _, Nat.add_le_add_right (Nat.le_succ _) _⟩

/-- Every step announces what it frees, fails the connection, or sets the limit. -/
theorem outcome_step (c : Connection) (a : Step) : Outcome c a (c.step a) := by
  cases a with
  | receive f => exact outcome_receive c f
  | stop x => exact outcome_stop c x
  | shutdown => exact .failed (healthy_disconnect c) (calls_disconnect c)
  | request r => exact .announced (announced_request c r)
  | pollRequest w r => exact .announced (announced_pollRequest c w r)
  | dropRequest w => exact .announced (announced_dropRequest c w)
  | reserve => exact .announced (announced_reserveStream c)
  | reservationSend r => exact .announced (announced_reservationSend c r)
  | reservationDrop => exact .announced (announced_reservationDrop c)
  | sendStreamDrop o => exact .announced (announced_sendStreamDrop c o)
  | recvStreamDrop o => exact .announced (announced_recvStreamDrop c o)
  | startDisconnect => exact .announced (announced_startDisconnect c)
  | _ => exact .announced (.of_frees (frees_step trivial))

end Connection

end NtexH2
