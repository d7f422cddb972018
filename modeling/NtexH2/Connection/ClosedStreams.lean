/-
  Connection/ClosedStreams.lean --- frames for streams that are not in the map
  (src/connection.rs, `is_used_id`, `recv_data`, `recv_window_update`,
  `recv_rst_stream`).

  Only the watermarks of used ids are asked here.  The pending-reset set forgets ids in
  an order of its own, so nothing depends on what it holds.
-/
import NtexH2.Connection.GoAway

set_option autoImplicit false

namespace NtexH2

namespace Connection

variable {s : Start} {c c' : Connection}

/-! ## Used ids -/

/-- The id of a stream that was opened or refused: the streams of a connection are those of
the client, which a server hears of and a client numbers itself. -/
def Used (c : Connection) (id : StreamId) : Prop :=
  id % 2 = 1 ∧ (c.server = true → id ≤ c.lastId) ∧ (c.server = false → id < c.nextStreamId)

theorem Used.isUsedId {id : StreamId} (h : c.Used id) : c.isUsedId id = true := by
  obtain ⟨hodd, hs, hc⟩ := h
  unfold Connection.isUsedId
  rw [(isClientInitiated_iff id).mpr hodd]
  cases hserver : c.server with
  | true => exact decide_eq_true (hs hserver)
  | false => exact decide_eq_true (hc hserver)

/-- The streams of a connection have used ids. -/
theorem used_of_created (hc : c.Clean) {o : Obj} (ho : o < c.created) :
    c.Used (c.objs o).id := by
  have ht := hc.good.table
  refine ⟨ht.id_odd ho, fun hs => (ht.heard hs o ho).1, fun hs => ?_⟩
  obtain ⟨hnext, hids⟩ := ht.given hs
  have hid : (c.objs o).id = 2 * o + 1 := hids o ho
  have hnext' : c.nextStreamId = 2 * c.created + 1 := hnext
  rw [hid, hnext']
  exact Nat.add_lt_add_right (Nat.mul_lt_mul_of_pos_left ho Nat.two_pos) 1

/-! ## What a late frame leaves alone -/

/-- The streams, the count of received octets and the error are the same. -/
structure SameStreams (c c' : Connection) : Prop where
  objs : c'.objs = c.objs
  streams : c'.streams = c.streams
  error : c'.error = c.error
  recvSize : c'.recvSize = c.recvSize

/-- The streams, in the map and out of it, and the error. -/
def tracked (c : Connection) :
    (Obj → Stream) × List (StreamId × Obj) × Option OperationError :=
  (c.objs, c.streams, c.error)

theorem tracked_note (c : Connection) (ok : Bool) (a : Anomaly) :
    (c.note ok a).tracked = c.tracked := by
  unfold note
  split
  · rfl
  · rfl

theorem tracked_encodeCon (c : Connection) (f : Frame) : (c.encodeCon f).tracked = c.tracked := rfl

theorem tracked_setRecv (c : Connection) (w : Window) (n : Nat) :
    ({ c with recvWindow := w, recvSize := n } : Connection).tracked = c.tracked := rfl

theorem tracked_setRecvWindow (c : Connection) (w : Window) :
    ({ c with recvWindow := w } : Connection).tracked = c.tracked := rfl

theorem tracked_setRecvSize (c : Connection) (n : Nat) :
    ({ c with recvSize := n } : Connection).tracked = c.tracked := rfl

theorem tracked_dataReceived (c : Connection) (n : Nat) :
    (c.dataReceived n).tracked = c.tracked := by
  unfold dataReceived
  rw [tracked_setRecv, tracked_note, tracked_note]

theorem tracked_dataConsumed (c : Connection) (n : Nat) :
    (c.dataConsumed n).tracked = c.tracked := by
  unfold dataConsumed
  dsimp only
  rw [tracked_setRecvWindow]
  split
  · rw [tracked_encodeCon, tracked_note, tracked_setRecvSize, tracked_note]
  · rw [tracked_note, tracked_setRecvSize, tracked_note]

/-- Octets that are released at once. -/
theorem sameStreams_stray (hc : c.Clean) {d : Data} (hlen : d.flowLen < 2 ^ 24)
    (hle : (d.flowLen : Int) ≤ c.recvWindow.size) :
    SameStreams c ((c.dataReceived d.flowLen).dataConsumed d.flowLen) := by
  have h1 : c.recvWindow.size < 2 ^ 31 := hc.good.credit.recvWindow_lt
  have h2 : c.recvSize < 2 ^ 31 := hc.good.credit.recvSize_lt
  obtain ⟨hs1, -⟩ := session_dataReceived (n := d.flowLen) hle h1 (by omega)
  have hsize : (c.dataReceived d.flowLen).recvSize = c.recvSize + d.flowLen :=
    congrArg Session.recvSize hs1
  have hwin : (c.dataReceived d.flowLen).recvWindow.size = c.recvWindow.size - d.flowLen :=
    congrArg Session.recvWindow hs1
  obtain ⟨hs2, -⟩ := session_dataConsumed (c := c.dataReceived d.flowLen) (n := d.flowLen)
    (by omega) (by omega) (by omega) (by omega)
  have htop : ∀ k : Session, k.topUp.recvSize = k.recvSize := by
    intro k
    unfold Session.topUp
    split
    · rfl
    · rfl
  have htracked := (tracked_dataConsumed (c.dataReceived d.flowLen) d.flowLen).trans
    (tracked_dataReceived c d.flowLen)
  refine ⟨congrArg (·.1) htracked, congrArg (·.2.1) htracked, congrArg (·.2.2) htracked, ?_⟩
  · have hrs := congrArg Session.recvSize hs2
    rw [htop] at hrs
    have hrs' : ((c.dataReceived d.flowLen).dataConsumed d.flowLen).recvSize =
        (c.dataReceived d.flowLen).recvSize - d.flowLen := hrs
    rw [hrs', hsize, Nat.add_sub_cancel]

theorem sameStreams_updateRstCount (c : Connection) : SameStreams c c.updateRstCount.2 := by
  unfold updateRstCount
  dsimp only
  split
  · exact ⟨rfl, rfl, rfl, rfl⟩
  · exact ⟨rfl, rfl, rfl, rfl⟩

theorem updateRstCount_error {e : ConnectionError} (h : c.updateRstCount.1 = .error e) :
    e = .streamResetsLimit := by
  unfold updateRstCount at h
  dsimp only at h
  split at h
  · cases h
    rfl
  · cases h

/-! ## Late frames -/

/-- DATA for a stream that is not in the map. -/
theorem recvData_late (hc : c.Clean) {d : Data} (hu : c.Used d.streamId)
    (hq : c.query d.streamId = none) (hlen : d.flowLen < 2 ^ 24)
    (hle : (d.flowLen : Int) ≤ c.recvWindow.size) :
    ∃ c', c.recvData d = (.ok none, c') ∧ SameStreams c c' := by
  have hfit : ¬i32 d.flowLen > c.recvWindow.size := by
    rw [i32_nat (by omega)]
    omega
  have hsame := sameStreams_stray hc hlen hle
  unfold recvData
  rw [if_neg hfit, hq]
  dsimp only
  split
  · exact ⟨_, rfl, hsame⟩
  · rw [hu.isUsedId, Bool.or_true, if_pos rfl]
    exact ⟨_, rfl, hsame.objs, hsame.streams, hsame.error, hsame.recvSize⟩

/-- WINDOW_UPDATE for a stream that is not in the map. -/
theorem recvWindowUpdate_late {id : StreamId} (hu : c.Used id) (hq : c.query id = none)
    (n : Nat) : c.recvWindowUpdate id n = (.ok none, c) := by
  have hz : ¬StreamId.isZero id = true := by
    intro hz
    have h0 : id = 0 := by simpa [StreamId.isZero] using hz
    have hodd := hu.1
    rw [h0] at hodd
    cases hodd
  unfold recvWindowUpdate
  rw [if_neg hz, hq]
  dsimp only
  rw [hu.isUsedId, Bool.or_true, if_pos rfl]

/-- RST_STREAM for a stream that is not in the map. -/
theorem recvRstStream_late {id : StreamId} (hu : c.Used id) (hq : c.query id = none)
    (r : Reason) : ∃ res c', c.recvRstStream id r = (res, c') ∧ SameStreams c c' ∧
      (res = .ok none ∨ res = .error (.connection .streamResetsLimit)) := by
  have hz : ¬StreamId.isZero id = true := by
    intro hz
    have h0 : id = 0 := by simpa [StreamId.isZero] using hz
    have hodd := hu.1
    rw [h0] at hodd
    cases hodd
  unfold recvRstStream
  rw [if_neg hz, hq]
  dsimp only
  cases hrem : c.localPendingReset.remove id with
  | mk p found =>
      cases found with
      | false => exact ⟨_, _, rfl, ⟨rfl, rfl, rfl, rfl⟩, .inl rfl⟩
      | true =>
          dsimp only
          have hsame := sameStreams_updateRstCount { c with localPendingReset := p }
          have herr := fun e =>
            updateRstCount_error (c := { c with localPendingReset := p }) (e := e)
          cases hrst : updateRstCount { c with localPendingReset := p } with
          | mk x c1 =>
              rw [hrst] at hsame herr
              have hs : SameStreams c c1 := ⟨hsame.objs, hsame.streams, hsame.error, hsame.recvSize⟩
              cases x with
              | error e =>
                  cases herr e rfl
                  exact ⟨_, _, rfl, hs, .inr rfl⟩
              | ok u => exact ⟨_, _, rfl, hs, .inl rfl⟩

end Connection

end NtexH2
