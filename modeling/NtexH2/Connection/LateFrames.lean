/-
  Connection/LateFrames.lean --- streams that were opened and are gone
  (src/connection.rs, `recv_headers`, `recv_invalid_frame`, `is_used_id`).

  A server moves its watermark for every HEADERS of its client, also for those it
  refuses, finds malformed, or has as an invalid frame from the codec: none of these
  leaves a stream behind.  The watermarks only grow, so the id is a used one for ever.
-/
import NtexH2.Connection.PastSteps
import NtexH2.Connection.TameRun

set_option autoImplicit false

namespace NtexH2

namespace Connection

variable {s : Start} {c c' : Connection} {id : StreamId}

/-- A stream `id` was opened on the way to `c`: this end has a stream object for it, or its peer
is a client and has sent HEADERS for it, whatever became of them. -/
inductive EverOpened (s : Start) : Connection → StreamId → Prop where
  | created {c : Connection} {o : Obj} (h : Reachable s c) (ho : o < c.created) :
      EverOpened s c (c.objs o).id
  | heard {c : Connection} {f : Frame} {id : StreamId} (h : Reachable s c)
      (hload : f.Loads) (hserver : c.server = true) (hsettings : c.remoteSettings = true)
      (hf : f.headersId = some id) (hodd : id % 2 = 1) : EverOpened s (c.receive f) id
  | later {c : Connection} {id : StreamId} (a : Step) (h : Reachable s c) (ho : EverOpened s c id)
      (ha : c.Enabled a) : EverOpened s (c.step a) id

/-- Every step of a run is tame. -/
theorem Reachable.tames (h : Reachable s c) {a : Step} (ha : c.Enabled a) :
    Tames False (c.Bystander a) c (c.step a) :=
  tames_step (h.clean.sane (settled_of_reachable h) nofun) h.clean ha
    fun f _ => permits_of_false c f

/-- Used ids stay used. -/
theorem Used.step (h : Reachable s c) {a : Step} (ha : c.Enabled a) (hu : c.Used id) :
    (c.step a).Used id :=
  (h.tames ha).used hu

/-- A server has no stream above the last id that it has heard of. -/
theorem query_above (hc : c.Clean) (hs : c.server = true) (hlt : c.lastId < id) :
    c.query id = none := by
  cases hq : c.query id with
  | none => rfl
  | some o =>
      obtain ⟨hm, hid⟩ := query_mem hc.good.table hq
      have hle : (c.objs o).id ≤ c.lastId :=
        (hc.good.table.heard hs o (hc.good.table.bound o hm)).1
      rw [hid] at hle
      exact absurd hlt (Nat.not_lt_of_le hle)

/-- HEADERS of a client make their id a used one. -/
theorem used_receive (h : Reachable s c) {f : Frame} (hload : f.Loads) (hserver : c.server = true)
    (hsettings : c.remoteSettings = true) (hf : f.headersId = some id) (hodd : id % 2 = 1) :
    (c.receive f).Used id := by
  have hside : (c.receive f).server = c.server := (h.tames (a := .receive f) hload).server
  refine ⟨hodd, fun _ => ?_, fun hs => ?_⟩
  · exact lastId_receive hsettings hserver hf ((isClientInitiated_iff id).mpr hodd)
      (query_above h.clean hserver)
  · rw [hside, hserver] at hs
    cases hs

/-- A stream that was opened has a used id, whether it ever had an object or not. -/
theorem EverOpened.used (h : EverOpened s c id) : c.Used id := by
  induction h with
  | created h ho => exact used_of_created h.clean ho
  | heard h hload hserver hsettings hf hodd =>
      exact used_receive h hload hserver hsettings hf hodd
  | later a h _ ha ih => exact ih.step h ha

/-- Late frames for a stream that was opened and is not in the map: the ids of such streams are
used ones, and for a used id that is not in the map, whatever the pending-reset set has kept, none
of these frames fails the connection but a RST_STREAM beyond the limit of resets, and none touches
a stream or the count of received octets. -/
theorem late_frames_tolerated (h : Reachable s c) :
    (EverOpened s c id → c.Used id) ∧
    (c.Used id → c.query id = none →
      (∀ d : Data, d.streamId = id → Frame.Loads (.data d) →
        (d.flowLen : Int) ≤ c.recvWindow.size →
          ∃ c', c.recvData d = (.ok none, c') ∧ SameStreams c c') ∧
      (∀ n, c.recvWindowUpdate id n = (.ok none, c)) ∧
      c.dispatch (.priority id) = c ∧
      ∀ r, ∃ res c', c.recvRstStream id r = (res, c') ∧ SameStreams c c' ∧
        (res = .ok none ∨ res = .error (.connection .streamResetsLimit))) := by
  refine ⟨EverOpened.used, fun hu hq => ?_⟩
  refine ⟨?_, recvWindowUpdate_late hu hq, rfl, recvRstStream_late hu hq⟩
  intro d hid hload hle
  exact recvData_late h.clean (hid ▸ hu) (hid ▸ hq) hload.2.2.2 hle

/-- A server that forgets the streams it has reset at once. -/
def forgetful : Start where
  server := true
  config := { ServiceConfig.new with resetMax := 0 }
  secure := false
  skipStreams := false

/-- A request without a `:method`. -/
def pathOnly : Headers := ⟨3, ⟨none, none, none, some [47], none, none⟩, [], false⟩

/-- Two streams without an object: HEADERS that the codec refuses, and a malformed request. -/
def refusedRun : List Step :=
  [.receive (.settings noSettings), .receive (.invalid ⟨.headers, 1, .malformedMessage⟩),
    .receive (.headers pathOnly)]

theorem refusedRun_reachable :
    Reachable forgetful (forgetful.init.after refusedRun) := by
  refine ((ReachableBy.new (P := anyStep)).after refusedRun ?_).reachable
  refine ⟨⟨noSettings_loads, trivial⟩, ⟨?_, trivial⟩, ⟨?_, trivial⟩, trivial⟩
  · show 1 < 2 ^ 31
    decide
  · show 3 < 2 ^ 31
    decide

theorem refusedRun_opened :
    EverOpened forgetful (forgetful.init.after refusedRun) 1 ∧
      EverOpened forgetful (forgetful.init.after refusedRun) 3 := by
  have h1 : Reachable forgetful (forgetful.init.after [.receive (.settings noSettings)]) :=
    .step (.receive (.settings noSettings)) .new noSettings_loads
  have hload : Frame.Loads (.invalid ⟨.headers, 1, .malformedMessage⟩) := by
    show 1 < 2 ^ 31
    decide
  have hload' : Frame.Loads (.headers pathOnly) := by
    show 3 < 2 ^ 31
    decide
  have h2 := Reachable.step (.receive (.invalid ⟨.headers, 1, .malformedMessage⟩)) h1 hload
  have ho : EverOpened forgetful _ 1 := .heard h1 hload (by decide) (by decide) rfl rfl
  exact ⟨.later (.receive (.headers pathOnly)) h2 ho hload',
    .heard h2 hload' (by decide +kernel) (by decide +kernel) rfl rfl⟩

theorem late_frames_tolerated_refused :
    ∃ c, Reachable forgetful c ∧ c.created = 0 ∧ c.localPendingReset.ids = [] ∧
      ∀ id ∈ [1, 3], EverOpened forgetful c id ∧
        ∃ c', c.recvData ⟨id, [0], 1, false⟩ = (.ok none, c') ∧ SameStreams c c' := by
  refine ⟨_, refusedRun_reachable, by decide +kernel, by decide +kernel, ?_⟩
  intro id hid
  obtain ⟨hused, hlate⟩ := @late_frames_tolerated forgetful _ id refusedRun_reachable
  have hopened : EverOpened forgetful (forgetful.init.after refusedRun) id := by
    rcases List.mem_pair.mp hid with rfl | rfl
    · exact refusedRun_opened.1
    · exact refusedRun_opened.2
  have hq : (forgetful.init.after refusedRun).query id = none := by
    rcases List.mem_pair.mp hid with rfl | rfl
    · decide +kernel
    · decide +kernel
  have hfits : (1 : Int) ≤ (forgetful.init.after refusedRun).recvWindow.size := by decide +kernel
  refine ⟨hopened, (hlate (hused hopened) hq).1 ⟨id, [0], 1, false⟩ rfl ?_ hfits⟩
  rcases List.mem_pair.mp hid with rfl | rfl
  · show 1 ≠ 0 ∧ 1 < 2 ^ 31 ∧ 1 ≤ 1 ∧ 1 < 2 ^ 24
    decide
  · show 3 ≠ 0 ∧ 3 < 2 ^ 31 ∧ 1 ≤ 1 ∧ 1 < 2 ^ 24
    decide

end Connection

end NtexH2
