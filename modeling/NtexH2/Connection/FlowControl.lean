/-
  Connection/FlowControl.lean --- flow control in every run of a connection.

  The send windows are what the history leaves of the credit of the peer; the
  receive windows and the octets that the application holds never exceed what is
  configured, unless a SETTINGS ack finds a window that was raised before it.
-/
import NtexH2.Connection.RefinesRun

set_option autoImplicit false

namespace NtexH2

/-! ## Windows of a history -/

/-- What a history leaves of the send window of the connection. -/
def conWindow (l : List Event) : Int :=
  (defaultInitialWindowSize + total Event.conCredit l : Nat) - (total Event.sentData l : Int)

/-- What a history leaves of the send window of the stream `o`. -/
def streamWindow (o : Nat) (l : List Event) : Int :=
  (initWindow l + total (Event.credit o) l : Nat) - (total (Event.sentOn o) l : Int)

theorem Lawful.suffix {l l' : List Event} (h : Lawful l) (hs : l' <:+ l) : Lawful l' := by
  induction l with
  | nil =>
      rw [List.suffix_nil.mp hs]
      exact h
  | cons e l ih =>
      rcases List.suffix_cons_iff.mp hs with rfl | hs
      · exact h
      · exact ih h.1 hs

/-- At every point of a lawful history the octets are within the credit. -/
theorem Lawful.conCredit {l : List Event} (h : Lawful l) :
    total Event.sentData l ≤ defaultInitialWindowSize + total Event.conCredit l := by
  cases l with
  | nil => exact Nat.zero_le _
  | cons e l => exact h.2.1

/-- A DATA frame of a lawful history is within the windows and the frame size. -/
theorem Lawful.data {o : Nat} {w : Writer} {d : Data} {l : List Event}
    (h : Lawful (.sent (some o) w (.data d) :: l)) :
    (d.flowLen : Int) ≤ max 0 (streamWindow o l) ∧ (d.flowLen : Int) ≤ conWindow l ∧
      d.flowLen ≤ maxFrame l ∧ (0 < d.flowLen →
        total (Event.sentOn o) (.sent (some o) w (.data d) :: l) ≤
          initWindow l + total (Event.credit o) l) := by
  obtain ⟨-, hcon, hstream⟩ := h
  have hsent : total Event.sentData (.sent (some o) w (.data d) :: l) =
      d.flowLen + total Event.sentData l := rfl
  have hcredit : total Event.conCredit (.sent (some o) w (.data d) :: l) =
      total Event.conCredit l := by
    rw [total_cons]
    exact Nat.zero_add _
  have hon : total (Event.sentOn o) (.sent (some o) w (.data d) :: l) =
      d.flowLen + total (Event.sentOn o) l := by
    rw [total_cons]
    simp [Event.sentOn]
  rw [hsent, hcredit] at hcon
  by_cases hpos : 0 < d.flowLen
  · obtain ⟨h1, h2⟩ := hstream o w d rfl hpos
    rw [hon] at h1 ⊢
    unfold streamWindow conWindow
    refine ⟨?_, ?_, h2, fun _ => h1⟩
    · omega
    · omega
  · have hzero : d.flowLen = 0 := Nat.eq_zero_of_not_pos hpos
    unfold conWindow
    rw [hzero]
    refine ⟨Int.le_max_left _ _, ?_, Nat.zero_le _, fun h => absurd h (Nat.lt_irrefl 0)⟩
    omega

namespace Connection

/-! ## Sending -/

/-- Flow control of what a connection sends: `overrun` records a DATA frame of the loop of
`send_pages` that is larger than a window or the frame size; the windows and the frame size
are those of the history, and every DATA frame of the history is within them. -/
theorem send_windows_respected {s : Start} {c : Connection} (h : Reachable s c) :
    0 ≤ c.sendWindow.size ∧ Anomaly.overrun ∉ c.anomalies ∧
    (c.error = none → c.sendWindow.size = conWindow c.log) ∧
    (∀ o ∈ c.values, (c.objs o).sendWindow.size = streamWindow o c.log ∧
      c.remoteFrameSize = maxFrame c.log) ∧
    (∀ l, l <:+ c.log →
      total Event.sentData l ≤ defaultInitialWindowSize + total Event.conCredit l) ∧
    ∀ o w d l, (.sent (some o) w (.data d) :: l) <:+ c.log →
      (d.flowLen : Int) ≤ max 0 (streamWindow o l) ∧ (d.flowLen : Int) ≤ conWindow l ∧
        d.flowLen ≤ maxFrame l ∧ (0 < d.flowLen →
          total (Event.sentOn o) (.sent (some o) w (.data d) :: l) ≤
            initWindow l + total (Event.credit o) l) := by
  have hc := h.clean
  have hs := hc.good.sends
  refine ⟨hs.conLow, by simp [hc.anomalies], ?_, ?_, ?_, ?_⟩
  · intro he
    have hf : c.session.failed = false := by
      show c.error.isSome = false
      rw [he]
      rfl
    have heq : c.sendWindow.size + total Event.sentData c.log =
        defaultInitialWindowSize + total Event.conCredit c.log := hs.con hf
    unfold conWindow
    omega
  · intro o ho
    have heq : (c.objs o).sendWindow.size + total (Event.sentOn o) c.log =
        c.remoteWindowSz + total (Event.credit o) c.log := hs.stream o ho
    rcases hs.settings with ⟨h1, h2⟩ | ⟨-, -, hv⟩
    · have h1' : initWindow c.log = c.remoteWindowSz := h1
      refine ⟨?_, h2.symm⟩
      unfold streamWindow
      rw [h1']
      omega
    · have ho' : o ∈ c.session.values := ho
      rw [hv] at ho'
      cases ho'
  · exact fun l hl => (hs.lawful.suffix hl).conCredit
  · exact fun o w d l hl => (hs.lawful.suffix hl).data

/-- The send windows never wrap, and neither do the next computations on them: `sendWindow`
records a decrement that leaves the range of its type; the difference of two initial window
sizes is in range, a stream window can be lowered by it, and an increment beyond the range is
reported. -/
theorem send_windows_never_wrap {s : Start} {c : Connection} (h : Reachable s c) :
    Anomaly.sendWindow ∉ c.anomalies ∧
    (∀ v : Nat, v < 2 ^ 31 → InI32 ((v : Int) - c.remoteWindowSz)) ∧
    (0 ≤ c.sendWindow.size ∧ c.sendWindow.size ≤ 2 ^ 31 - 1 ∧
      ∀ n : Nat, n < 2 ^ 31 → c.sendWindow.inc (i32 n) =
        if c.sendWindow.size + n < 2 ^ 31 then some ⟨c.sendWindow.size + n⟩ else none) ∧
    ∀ o ∈ c.values,
      (c.objs o).sendWindow.size = (c.remoteWindowSz + total (Event.credit o) c.log : Nat) -
        (total (Event.sentOn o) c.log : Int) ∧
      -(2 ^ 31 - 1) ≤ (c.objs o).sendWindow.size ∧ (c.objs o).sendWindow.size ≤ 2 ^ 31 - 1 ∧
      (∀ n : Nat, n < 2 ^ 31 → (c.objs o).sendWindow.inc (i32 n) =
        if (c.objs o).sendWindow.size + n < 2 ^ 31 then some ⟨(c.objs o).sendWindow.size + n⟩
        else none) ∧
      ∀ v : Nat, v < 2 ^ 31 →
        (v < c.remoteWindowSz →
          (c.objs o).sendWindow.DecSafe ((v : Int) - c.remoteWindowSz).natAbs) ∧
        (c.remoteWindowSz < v → (c.objs o).sendWindow.inc ((v : Int) - c.remoteWindowSz) =
          if (c.objs o).sendWindow.size + (v - c.remoteWindowSz : Int) < 2 ^ 31 then
            some ⟨(c.objs o).sendWindow.size + (v - c.remoteWindowSz : Int)⟩
          else none) := by
  have hc := h.clean
  have hs := hc.good.sends
  have hsz : c.remoteWindowSz < 2 ^ 31 := hs.windowSz
  have hlow : 0 ≤ c.sendWindow.size := hs.conLow
  have hhigh : c.sendWindow.size < 2 ^ 31 := hs.conHigh
  refine ⟨by simp [hc.anomalies], ?_, ⟨hlow, by omega, ?_⟩, ?_⟩
  · intro v hv
    unfold InI32
    omega
  · exact fun n hn => inc_eq (by omega) hn
  · intro o ho
    have heq : (c.objs o).sendWindow.size + total (Event.sentOn o) c.log =
        c.remoteWindowSz + total (Event.credit o) c.log := hs.stream o ho
    have hlo : (c.remoteWindowSz : Int) - (2 ^ 31 - 1) ≤ (c.objs o).sendWindow.size := hs.low o ho
    have hhi : (c.objs o).sendWindow.size < 2 ^ 31 := hs.high o ho
    refine ⟨by omega, by omega, by omega, ?_, ?_⟩
    · exact fun n hn => inc_eq (by omega) hn
    · intro v hv
      refine ⟨fun hlt => ?_, fun hgt => ?_⟩
      · unfold Window.DecSafe InI32
        omega
      · have hdiff : ((v - c.remoteWindowSz : Nat) : Int) = (v : Int) - c.remoteWindowSz := by
          omega
        have hinc := inc_eq (w := (c.objs o).sendWindow) (n := v - c.remoteWindowSz)
          (by omega) (by omega)
        rw [i32_nat (by omega), hdiff] at hinc
        exact hinc

/-! ## A run -/

/-- A SETTINGS frame without settings. -/
def noSettings : Settings := ⟨false, none, none, none, none, none, none, none⟩

/-- A request. -/
def somePseudo : PseudoHeaders := ⟨some [80], some [104], none, some [47], none, none⟩

/-- A server that is configured with a stream window. -/
def serverWith (size threshold : Nat) (hs : size < 2 ^ 31) (ht : threshold < 2 ^ 31) : Start where
  server := true
  config := ServiceConfig.new.setInitialWindowSize size threshold hs ht
  secure := false
  skipStreams := false

theorem thousand_lt : 1000 < 2 ^ 31 := by decide

theorem threshold_lt : 333 < 2 ^ 31 := by decide

/-- A new connection. -/
def Start.init (s : Start) : Connection := Connection.new s.server s.config s.secure s.skipStreams

/-- A request with an octet of payload that is consumed at once, and the response. -/
def exchange : List Step :=
  [.receive (.settings noSettings), .receive (.headers ⟨1, somePseudo, [], false⟩),
    .receive (.data ⟨1, [0], 1, false⟩), .consume 0 1, .sendResponse 0 200 [] false,
    .sendPages (fun _ => ⟨none, true⟩) 0 (.bytes [1, 2, 3]) true]

/-- Any step is allowed. -/
def anyStep (_ : Connection) (_ : Step) : Prop := True

theorem noSettings_loads : Frame.Loads (.settings noSettings) :=
  ⟨fun v hv => (by cases hv), fun v hv => (by cases hv)⟩

theorem ack_loads : Frame.Loads (.settings .newAck) :=
  ⟨fun v hv => (by cases hv), fun v hv => (by cases hv)⟩

theorem exchange_allowed : Allowed anyStep (serverWith 1000 333 (by decide) (by decide)).init
    exchange := by
  refine ⟨⟨noSettings_loads, trivial⟩, ⟨?_, trivial⟩, ⟨?_, trivial⟩, ⟨trivial, trivial⟩,
    ⟨?_, trivial⟩, ⟨?_, trivial⟩, trivial⟩
  · show 1 < 2 ^ 31
    decide
  · show 1 ≠ 0 ∧ 1 < 2 ^ 31 ∧ 1 ≤ 1 ∧ 1 < 2 ^ 24
    decide
  · show 0 < _
    decide
  · show 0 < _
    decide

theorem send_windows_respected_exchange :
    ∃ c, Reachable (serverWith 1000 333 (by decide) (by decide)) c ∧
      total Event.sentData c.log = 3 ∧ 0 ≤ c.sendWindow.size ∧
        c.sendWindow.size = conWindow c.log := by
  have hr := ((ReachableBy.new (P := anyStep)
    (s := serverWith 1000 333 (by decide) (by decide))).after exchange exchange_allowed).reachable
  exact ⟨_, hr, by decide, (send_windows_respected hr).1,
    (send_windows_respected hr).2.2.1 (by decide)⟩

theorem send_windows_never_wrap_exchange :
    ∃ c, Reachable (serverWith 1000 333 (by decide) (by decide)) c ∧ 0 ∈ c.values ∧
      total (Event.sentOn 0) c.log = 3 ∧
      (c.objs 0).sendWindow.size = (c.remoteWindowSz + total (Event.credit 0) c.log : Nat) -
        (total (Event.sentOn 0) c.log : Int) := by
  have hr := ((ReachableBy.new (P := anyStep)
    (s := serverWith 1000 333 (by decide) (by decide))).after exchange exchange_allowed).reachable
  exact ⟨_, hr, by decide, by decide, ((send_windows_never_wrap hr).2.2.2 0 (by decide)).1⟩

/-! ## Receiving -/

/-- The receive credit is conserved: every received octet that is not given back is in a live
`Capacity` value; `recvSize` and `recvWindow` record a computation that leaves the range of its
type. -/
theorem receive_credit_conserved {s : Start} {c : Connection} (h : Reachable s c) :
    c.recvSize = held c.caps ∧
    (∀ o < c.created, (c.objs o).recvSize = heldBy o c.caps) ∧
    0 ≤ c.recvWindow.size ∧
    c.recvWindow.size + c.recvSize ≤
      max (c.config.connectionWindowSz : Int) defaultInitialWindowSize ∧
    Anomaly.recvSize ∉ c.anomalies ∧ Anomaly.recvWindow ∉ c.anomalies := by
  have hc := h.clean
  have hcr := hc.good.credit
  refine ⟨hcr.conHeld, hcr.held, hcr.conLow, hcr.conBound, ?_, ?_⟩
  · simp [hc.anomalies]
  · simp [hc.anomalies]

theorem receive_credit_conserved_exchange :
    ∃ c, Reachable (serverWith 1000 333 (by decide) (by decide)) c ∧
      total Event.gotData c.log = 1 ∧ c.recvSize = held c.caps := by
  have hr := ((ReachableBy.new (P := anyStep)
    (s := serverWith 1000 333 (by decide) (by decide))).after exchange exchange_allowed).reachable
  exact ⟨_, hr, by decide, (receive_credit_conserved hr).1⟩

/-! ## The configured window -/

/-- A SETTINGS ack that is processed finds no stream with an open receive half whose window
was raised beyond the default one, unless the configured window is not larger than the default
one, or the window overflows and the stream is reset. -/
def AckInBounds (c : Connection) : Step → Prop
  | .receive (.settings s) => s.ack = true → c.remoteSettings = true →
      c.settingsProcessed = false → ∀ o ∈ c.values, (c.objs o).recv.isClosed = false →
        c.config.windowSz ≤ defaultInitialWindowSize ∨
        (c.objs o).recvWindow.size + (c.objs o).recvSize ≤ defaultInitialWindowSize ∨
        2 ^ 31 ≤ (c.objs o).recvWindow.size +
          ((c.config.windowSz : Int) - defaultInitialWindowSize)
  | _ => True

theorem AckInBounds.finds {c : Connection} {a : Step} (h : c.AckInBounds a) :
    Finds (Session.keeping c.config.windowSz) c a := by
  unfold AckInBounds at h
  unfold Finds
  split at h
  · intro hack hr hp o ho
    cases hcl : (c.objs o).recv.isClosed with
    | true => exact .inl (HalfState.half_closed.mpr hcl)
    | false => exact .inr (h hack hr hp o ho hcl)
  · next hne =>
      split
      · next s => exact absurd rfl (hne s)
      · exact fun _ => .inr trivial
      · exact .inr trivial
      · trivial

end Connection

namespace Session

theorem Step.config_eq {G : Guard} {k k' : Session} (ht : k.Table) (hs : Step G k k') :
    k'.config = k.config := by
  have htop : ∀ k : Session, k.topUp.config = k.config := by
    intro k
    unfold topUp
    split
    · rfl
    · rfl
  have hstream : ∀ (k : Session) (o : Nat), (k.streamTopUp o).config = k.config := by
    intro k o
    unfold streamTopUp
    split
    · rfl
    · rfl
  cases hs.credit_cases ht with
  | frame f => exact f.config
  | insert hw hsz f => exact f.config
  | charge ho hw hc hk => exact hk ▸ rfl
  | stray hc f => exact f.config.trans (htop _)
  | release ho hcaps hheld hk =>
      rw [hk, release_eq, htop, hstream]
      rfl
  | caps hcaps hheld hk => exact hk ▸ rfl
  | ackBegin hp hk => exact hk ▸ rfl
  | ackOne ha hG hk => exact hk ▸ (Connection.ackOne_frame k _ _).1

theorem Steps.bounded {n : Nat} {k k' : Session} (hs : Steps (keeping n) k k')
    (hg : k.Good) (hn : k.config.windowSz = n) (hb : k.Bounded) :
    k'.Bounded ∧ k'.config.windowSz = n := by
  induction hs with
  | refl => exact ⟨hb, hn⟩
  | @tail k1 k2 hsteps hstep ih =>
      have hg1 := hg.steps hsteps
      obtain ⟨hb1, hn1⟩ := ih
      have hcfg := hstep.config_eq hg1.table
      rw [← hn1] at hstep
      exact ⟨hb1.step hg1.credit hg1.table hstep, hcfg ▸ hn1⟩

end Session

namespace Connection

/-- In every run whose SETTINGS acks are in bounds, no stream allows the peer more than the
configured window. -/
theorem stream_windows_bounded {s : Start} {c : Connection} (h : ReachableBy AckInBounds s c) :
    ∀ o < c.created, (c.objs o).recvWindow.size + (c.objs o).recvSize ≤
      max (c.config.windowSz : Int) defaultInitialWindowSize := by
  have hb : c.session.Bounded := by
    induction h with
    | new => exact fun o ho => absurd ho (Nat.not_lt_zero o)
    | @step c a hr ha hP ih =>
        have hc := hr.reachable.clean
        exact (Session.Steps.bounded ((runs_step ha hP.finds) hc).2 hc.good rfl ih).1
  exact hb

/-- Octets of payload that are consumed before the ack of the settings. -/
def earlyConsume : List Step :=
  [.receive (.settings noSettings), .receive (.headers ⟨1, somePseudo, [], false⟩),
    .receive (.data ⟨1, [0], 1, false⟩), .consume 0 1, .receive (.settings .newAck)]

theorem earlyConsume_allowed (size threshold : Nat) (hs : size < 2 ^ 31) (ht : threshold < 2 ^ 31) :
    Allowed anyStep (serverWith size threshold hs ht).init earlyConsume := by
  refine ⟨⟨noSettings_loads, trivial⟩, ⟨?_, trivial⟩, ⟨?_, trivial⟩, ⟨trivial, trivial⟩,
    ⟨ack_loads, trivial⟩, trivial⟩
  · show 1 < 2 ^ 31
    decide
  · show 1 ≠ 0 ∧ 1 < 2 ^ 31 ∧ 1 ≤ 1 ∧ 1 < 2 ^ 24
    decide

/-- The window of 200000 octets is announced before the ack, and the ack adds the difference
to it once more. -/
theorem stream_windows_exceeded :
    ¬∀ (s : Start) (c : Connection), Reachable s c → ∀ o < c.created,
      (c.objs o).recv.isClosed = false → (c.objs o).recvWindow.size + (c.objs o).recvSize ≤
        max (c.config.windowSz : Int) defaultInitialWindowSize := by
  intro h
  have hr := ((ReachableBy.new (P := anyStep)
    (s := serverWith 200000 66666 (by decide) (by decide))).after earlyConsume
      (earlyConsume_allowed _ _ _ _)).reachable
  exact absurd (h _ _ hr 0 (by decide) (by decide)) (by decide)

/-- The ack comes before the payload is consumed. -/
def earlyAck : List Step :=
  [.receive (.settings noSettings), .receive (.headers ⟨1, somePseudo, [], false⟩),
    .receive (.data ⟨1, [0], 1, false⟩), .receive (.settings .newAck), .consume 0 1]

theorem earlyAck_allowed : Allowed AckInBounds
    (serverWith 200000 66666 (by decide) (by decide)).init earlyAck := by
  refine ⟨⟨noSettings_loads, nofun⟩, ⟨?_, trivial⟩, ⟨?_, trivial⟩, ⟨ack_loads, ?_⟩,
    ⟨trivial, trivial⟩, trivial⟩
  · show 1 < 2 ^ 31
    decide
  · show 1 ≠ 0 ∧ 1 < 2 ^ 31 ∧ 1 ≤ 1 ∧ 1 < 2 ^ 24
    decide
  · intro _ _ _ o ho _
    cases List.mem_singleton.mp ho
    exact .inr (.inl (by decide))

/-- With the ack before any top-up the window of 200000 octets is not exceeded. -/
theorem stream_windows_bounded_ack :
    ∃ c, ReachableBy AckInBounds (serverWith 200000 66666 (by decide) (by decide)) c ∧
      c.settingsProcessed = true ∧ c.config.windowSz = 200000 ∧
      (c.objs 0).recvWindow.size = 199999 ∧
        (c.objs 0).recvWindow.size + (c.objs 0).recvSize ≤
          max (c.config.windowSz : Int) defaultInitialWindowSize := by
  have hr := (ReachableBy.new (P := AckInBounds)
    (s := serverWith 200000 66666 (by decide) (by decide))).after earlyAck earlyAck_allowed
  exact ⟨_, hr, by decide, by decide, by decide, stream_windows_bounded hr 0 (by decide)⟩

end Connection

end NtexH2
