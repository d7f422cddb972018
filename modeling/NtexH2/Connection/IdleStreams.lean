/-
  Connection/IdleStreams.lean --- the streams that a connection resets (src/connection.rs).

  RST_STREAM on a stream that nobody has opened makes the peer drop the connection.  A
  connection resets used streams only, except for one branch: a client answers invalid
  HEADERS for an idle stream with a reset.
-/
import NtexH2.Connection.TameRun

set_option autoImplicit false

namespace NtexH2

namespace Connection

variable {s : Start} {c : Connection}

/-- The condition on a step: an invalid frame is HEADERS or PRIORITY, and invalid HEADERS at a
client are for a stream that it has opened, or have an id that no client opens. -/
def InvalidOnUsed (c : Connection) : Step → Prop
  | .receive (.invalid f) => c.InvalidUsed f
  | _ => True

theorem InvalidOnUsed.permits {G : Prop} {a : Step} (h : c.InvalidOnUsed a) {f : Frame}
    (ha : a = .receive f) : Permits G c f := by
  subst ha
  cases f with
  | invalid f => exact fun _ => h
  | _ => trivial

/-- Every stream that was reset is used. -/
def ResetsUsed (c : Connection) : Prop := ∀ id ∈ c.outline.resets, c.Used id

theorem resetsUsed_init (s : Start) : s.init.ResetsUsed := by
  intro id hid
  obtain ⟨e, he, hreset⟩ := List.mem_filterMap.mp hid
  unfold Start.init new at he
  dsimp only at he
  split at he
  · rcases List.mem_cons.mp he with rfl | he
    · cases hreset
    · cases List.mem_singleton.mp he
      cases hreset
  · cases List.mem_singleton.mp he
    cases hreset

theorem ResetsUsed.step (h : c.ResetsUsed) {S : Obj → Prop} {c' : Connection}
    (ht : Tames True S c c') : c'.ResetsUsed := by
  intro id hid
  rcases ht.resets trivial id hid with hold | hused
  · exact ht.used (h id hold)
  · exact hused

theorem resetsUsed_of_reachable (h : ReachableBy InvalidOnUsed s c) (hs : s.skipStreams = false) :
    c.ResetsUsed := by
  induction h with
  | new => exact resetsUsed_init s
  | step a h ha hp ih =>
      have hr := h.reachable
      have hsane : Sane True _ := hr.clean.sane (settled_of_reachable hr) fun _ => hs
      exact ih.step (tames_step hsane hr.clean ha fun f hf => hp.permits hf)

/-- In every run whose invalid frames meet the condition, each RST_STREAM that is written names a
used stream. -/
theorem idle_streams_not_reset (h : ReachableBy InvalidOnUsed s c) (hs : s.skipStreams = false)
    {obj : Option Obj} {w : Writer} {id : StreamId} {r : Reason}
    (hm : .sent obj w (.reset id r) ∈ c.log) :
    id % 2 = 1 ∧ (c.server = true → id ≤ c.lastId) ∧ (c.server = false → id < c.nextStreamId) :=
  resetsUsed_of_reachable h hs id (List.mem_filterMap.mpr ⟨_, hm, rfl⟩)

/-- A client that gets invalid HEADERS for its request. -/
def answeredRun : List Step :=
  [.receive (.settings noSettings), .request (some someRequest),
    .receive (.invalid ⟨.headers, 1, .malformedMessage⟩)]

theorem answeredRun_allowed : Allowed InvalidOnUsed clientStart.init answeredRun := by
  refine ⟨⟨noSettings_loads, trivial⟩, ⟨?_, trivial⟩, ⟨?_, .inl rfl, fun _ _ _ => ?_⟩, trivial⟩
  · show _ = false
    decide
  · show 1 < 2 ^ 31
    decide
  · decide

/-- A server that remembers no stream that was reset. -/
def forgetfulServer : Start := ⟨true, { ServiceConfig.new with resetMax := 0 }, false, false⟩

/-- A request that the server resets before its payload arrives. -/
def lateData : List Step :=
  [.receive (.settings noSettings), .receive (.headers ⟨1, somePseudo, [], false⟩),
    .reset 0 .cancel, .receive (.data ⟨1, [0], 1, true⟩)]

theorem lateData_allowed : Allowed InvalidOnUsed forgetfulServer.init lateData := by
  refine ⟨⟨noSettings_loads, trivial⟩, ⟨?_, trivial⟩, ⟨?_, trivial⟩, ⟨?_, trivial⟩, trivial⟩
  · show 1 < 2 ^ 31
    decide
  · show 0 < _
    decide
  · show 1 ≠ 0 ∧ 1 < 2 ^ 31 ∧ 1 ≤ 1 ∧ 1 < 2 ^ 24
    decide

/-- The client resets its stream for the invalid frame, and the server one that it has let go. -/
theorem idle_streams_not_reset_ended :
    (∃ c, ReachableBy InvalidOnUsed clientStart c ∧
      .sent (some 0) .resetSilent (.reset 1 .protocolError) ∈ c.log ∧ 1 < c.nextStreamId) ∧
    ∃ c, ReachableBy InvalidOnUsed forgetfulServer c ∧
      .sent none .connection (.reset 1 .streamClosed) ∈ c.log ∧ 1 ≤ c.lastId := by
  have hr := (ReachableBy.new (P := InvalidOnUsed)).after answeredRun answeredRun_allowed
  have hm : .sent (some 0) .resetSilent (.reset 1 .protocolError) ∈
      (clientStart.init.after answeredRun).log := by decide +kernel
  have hr' := (ReachableBy.new (P := InvalidOnUsed)).after lateData lateData_allowed
  have hm' : .sent none .connection (.reset 1 .streamClosed) ∈
      (forgetfulServer.init.after lateData).log := by decide +kernel
  exact ⟨⟨_, hr, hm, (idle_streams_not_reset hr rfl hm).2.2 (by decide +kernel)⟩,
    _, hr', hm', (idle_streams_not_reset hr' rfl hm').2.1 (by decide +kernel)⟩

/-! ## Invalid HEADERS for an idle stream -/

theorem updateRstCount_few (h : c.streamsCount < 10) :
    c.updateRstCount = (.ok (), { c with rstCount := (c.rstCount + 1) % 2 ^ 32 }) := by
  have hsmall : ¬c.streamsCount ≥ 10 := Nat.not_le_of_lt h
  unfold updateRstCount
  rw [decay_small (by omega)]
  dsimp only
  rw [decide_eq_false hsmall, Bool.false_and, if_neg Bool.false_ne_true]

/-- The reset is written, unless there are too many of them. -/
theorem resetUnknownStream_few (h : c.streamsCount < 10) (id : StreamId) (r : Reason) :
    (c.resetUnknownStream id r).1 = .ok none ∧
      (c.resetUnknownStream id r).2.outline = c.outline.pushReset id ∧
      .sent none .connection (.reset id r) ∈ (c.resetUnknownStream id r).2.log := by
  unfold resetUnknownStream
  rw [updateRstCount_few h]
  dsimp only
  rw [addPending_log]
  exact ⟨rfl, outline_addPending _ id, List.mem_cons_self ..⟩

/-- A client answers invalid HEADERS for a stream that it does not know with a reset, whether the
stream was ever opened or not. -/
theorem receive_invalid_headers (hs : c.server = false) (hset : c.remoteSettings = true)
    {f : InvalidFrame} (hk : f.kind = .headers)
    (hodd : StreamId.isClientInitiated f.streamId = true) (hq : c.query f.streamId = none)
    (hp : c.localPendingReset.isPending f.streamId = false) (hfew : c.streamsCount < 10) :
    (c.receive (.invalid f)).outline = c.outline.pushReset f.streamId ∧
      .sent none .connection (.reset f.streamId f.error.reason) ∈
        (c.receive (.invalid f)).log := by
  unfold receive
  dsimp only
  generalize hd : c.push (.received ((Frame.invalid f).streamId.bind c.query) (.invalid f)) = d
  have hfirst : d.checkFirstFrame (.invalid f) = true := by
    rw [← hd]
    unfold checkFirstFrame
    rw [show (c.push _).remoteSettings = true from hset, Bool.true_or]
  have hq' : d.query f.streamId = none := by rw [← hd]; exact hq
  have hs' : d.server = false := by rw [← hd]; exact hs
  have hp' : d.localPendingReset.isPending f.streamId = false := by rw [← hd]; exact hp
  have hfew' : d.streamsCount < 10 := by rw [← hd]; exact hfew
  rw [if_pos hfirst]
  unfold dispatch
  dsimp only
  have hrecv : d.recvInvalidFrame f = d.resetUnknownStream f.streamId f.error.reason := by
    unfold recvInvalidFrame
    rw [hq', hk]
    dsimp only
    unfold recvInvalidHeaders
    rw [hodd, hs', hp']
    rfl
  have hk' : d.outline = c.outline := by
    rw [← hd]
    exact outline_push c rfl
  obtain ⟨hok, hout, hlog⟩ := resetUnknownStream_few hfew' f.streamId f.error.reason
  rw [hrecv]
  generalize d.resetUnknownStream f.streamId f.error.reason = r at hok hout hlog
  obtain ⟨res, c1⟩ := r
  cases hok
  exact ⟨hout.trans (by rw [hk']), hlog⟩

/-- Invalid HEADERS for a stream that the client has not opened. -/
def idleHeaders : InvalidFrame := ⟨.headers, 5, .invalidDependencyId⟩

/-- A client whose peer has sent its SETTINGS. -/
def readyClient : Connection := clientStart.init.step (.receive (.settings noSettings))

theorem readyClient_reachable : Reachable clientStart readyClient := .step _ .new noSettings_loads

/-- A client resets an idle stream. -/
theorem idle_stream_reset :
    ¬∀ (s : Start) (c : Connection), s.skipStreams = false → Reachable s c →
      ∀ obj w id r, .sent obj w (.reset id r) ∈ c.log →
        id % 2 = 1 ∧ (c.server = true → id ≤ c.lastId) ∧
          (c.server = false → id < c.nextStreamId) := by
  intro h
  have hr : Reachable clientStart (readyClient.step (.receive (.invalid idleHeaders))) :=
    .step _ readyClient_reachable (show 5 < 2 ^ 31 by decide)
  obtain ⟨hout, hm⟩ := receive_invalid_headers (c := readyClient) (f := idleHeaders)
    (by decide) (by decide) rfl (by decide) (by decide) (by decide) (by decide)
  have hused := h clientStart _ rfl hr none .connection 5 .protocolError hm
  have hlt := hused.2.2 (congrArg Outline.server hout)
  have hnext : (readyClient.step (.receive (.invalid idleHeaders))).nextStreamId = 1 :=
    congrArg Outline.nextStreamId hout
  rw [hnext] at hlt
  exact absurd hlt (by decide)

end Connection

end NtexH2
