/-
  Network/Progress.lean --- flow control does not stop two ends for good.

  When nothing is on the way, nothing was lost and the receiver has released what it got,
  the windows of the sender have room for one more octet.
-/
import NtexH2.Network.Agreement
import NtexH2.Connection.Wakeups

set_option autoImplicit false

namespace NtexH2

/-- Nothing is on the way, and nothing was lost behind the close of an io. -/
def Net.Still (n : Net) : Prop := ∀ p, n.arriving p = [] ∧ n.lost p = []

section

variable {s : Setup} {n : Net} (h : Joined s n) (p : Party)

include h

/-- All that was written has been read. -/
theorem Joined.still (hstill : n.Still) : n.way p = [] := by
  rw [h.way p, (hstill p).1, (hstill p).2]
  rfl

/-- The settings of both ends have been applied when nothing is on the way. -/
theorem Joined.lag_still (hstill : n.Still) : n.lag p = 0 := by
  unfold Net.lag
  split
  · next hlag =>
      obtain ⟨hrem, hproc⟩ := hlag
      -- the answer has arrived
      have hout := (h.answered p.peer).mpr hrem
      rcases (h.fifo p).fate hout with ⟨g, hin, hread⟩ | hway
      · cases hread
        rw [(h.endpoint p).exchange.processed.mpr hin] at hproc
        cases hproc
      · rw [h.still p hstill] at hway
        exact absurd hway List.not_mem_nil
  · rfl

/-- The windows of the receiver are not left empty. -/
theorem Joined.supplied (ha : (s.start p).config.Ample) : (n.ends p).session.Supplied :=
  (Connection.feeds_of_reachable (h.reach p)).supplied ha
    ((Connection.new_feeds (s.start p)).1 ha)

theorem Joined.con_window (ha : (s.start p).config.Ample) (hstill : n.Still)
    (hsize : (n.ends p).recvSize = 0) : 1 ≤ (n.ends p.peer).sendWindow.size := by
  have hopen : 1 ≤ (n.ends p).recvWindow.size := (h.supplied p ha).con hsize
  have heq := h.connection p
  rw [h.still p hstill, h.still p.peer hstill] at heq
  have h1 : load Frame.payload [] = 0 := rfl
  have h2 : load (Frame.increment 0) [] = 0 := rfl
  omega

theorem Joined.stream_window (ha : (s.start p).config.Ample) (hstill : n.Still) {o q : Obj}
    (ho : o ∈ (n.ends p).values) (hq : q ∈ (n.ends p.peer).values)
    (hid : ((n.ends p).objs o).id = ((n.ends p.peer).objs q).id)
    (hopen : ((n.ends p).objs o).recv.isClosed = false)
    (hsize : ((n.ends p).objs o).recvSize = 0) :
    1 ≤ ((n.ends p.peer).objs q).sendWindow.size := by
  have hne : ((n.ends p).session.cells o).recv ≠ .closed := fun hcl => by
    rw [HalfState.half_closed.mp hcl] at hopen
    cases hopen
  have hroom : 1 ≤ ((n.ends p).objs o).recvWindow.size :=
    (h.supplied p ha).stream o ((h.clean p).good.table.bound o ho) hne hsize
  have heq := h.stream p ho hq hid hopen
  rw [h.still p hstill, h.still p.peer hstill, h.lag_still p hstill] at heq
  have h1 : load (Frame.payloadOn ((n.ends p).objs o).id) [] = 0 := rfl
  have h2 : load (Frame.increment ((n.ends p).objs o).id) [] = 0 := rfl
  omega

end

namespace Net

variable {s : Setup} {n : Net} {p : Party} {o q : Obj}

/-- Flow control cannot stop two ends for good: when nothing is on the way, nothing was lost behind
the close of an io, and the receiver has released all octets of the connection and of a stream, the
sender has capacity for at least one more octet on it, and no task that waits for capacity is left
asleep. -/
theorem sender_has_capacity (h : Reachable s n) (hstill : n.Still)
    (ha : (s.start p).config.Ample) (hcon : (n.ends p).recvSize = 0) (ho : o ∈ (n.ends p).values)
    (hq : q ∈ (n.ends p.peer).values)
    (hid : ((n.ends p).objs o).id = ((n.ends p.peer).objs q).id)
    (hopen : ((n.ends p).objs o).recv.isClosed = false)
    (hsize : ((n.ends p).objs o).recvSize = 0) :
    1 ≤ (n.ends p.peer).availableSendCapacity q ∧
      (Connection.Registered (s.start p.peer) q (n.ends p.peer) →
        ((n.ends p.peer).objs q).waitForCapacity = false) := by
  have hj := h.joined
  have hroom : 1 ≤ (n.ends p.peer).availableSendCapacity q := by
    have h1 := hj.con_window p ha hstill hcon
    have h2 := hj.stream_window p ha hstill ho hq hid hopen hsize
    have hs := (hj.clean p.peer).good.sends
    have hc : (n.ends p.peer).sendWindow.size < 2 ^ 31 := hs.conHigh
    have hw : ((n.ends p.peer).objs q).sendWindow.size < 2 ^ 31 := hs.high q hq
    unfold Connection.availableSendCapacity
    rw [Window.windowSize_eq ⟨by omega, hw⟩, Window.windowSize_eq ⟨by omega, hc⟩]
    omega
  refine ⟨hroom, fun hreg => ?_⟩
  by_contra hw
  have hzero := (hreg.calm.2 (Bool.eq_true_of_not_eq_false hw)).1
  change (n.ends p.peer).availableSendCapacity q = 0 at hzero
  omega

/-- A request without payload, until nothing is on the way. -/
def settled : List Move :=
  [.act .client (.request (some Connection.someRequest)),
    .deliver .client (.settings (meetingSetup.settings .server)),
    .deliver .server (.settings (meetingSetup.settings .client)),
    .deliver .server (.windowUpdate 0 4128769), .deliver .server (.headers openingHeaders),
    .deliver .server (.settings .newAck), .deliver .client (.windowUpdate 0 4128769),
    .deliver .client (.settings .newAck)]

theorem settled_reachable : Reachable meetingSetup ((Net.new meetingSetup).after settled) := by
  refine (Reachable.new (s := meetingSetup)).after settled ?_
  refine ⟨⟨trivial, rfl⟩, possible_same rfl ⟨?_, nofun⟩, possible_same rfl ⟨nofun, nofun⟩,
    possible_same rfl ⟨by decide, by decide⟩,
    possible_same rfl (show (1 : Nat) < 2 ^ 31 by decide), possible_same rfl ⟨nofun, nofun⟩,
    possible_same rfl ⟨by decide, by decide⟩, possible_same rfl ⟨nofun, nofun⟩, trivial⟩
  intro v hv
  cases hv
  decide

theorem sender_has_capacity_settled : ∃ n, Reachable meetingSetup n ∧ n.Still ∧
    1 ≤ (n.ends .client).availableSendCapacity 0 := by
  have hstill : ((Net.new meetingSetup).after settled).Still := fun p => by
    cases p <;> decide
  refine ⟨_, settled_reachable, hstill, ?_⟩
  exact (sender_has_capacity settled_reachable hstill (p := .server) (o := 0) (q := 0)
    Connection.ample_small (by decide) (by decide) (by decide) (by decide) (by decide)
    (by decide)).1

end Net

end NtexH2
