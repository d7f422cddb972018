/-
  Network/Agreement.lean --- the two ends agree on their windows.

  A stream that both ends hold has a send window on one side and a receive window on
  the other.  They differ by what is on the way, and by the change of the initial
  window as long as only the sender has made it.  So payload is never beyond a window
  when it arrives.
-/
import NtexH2.Network.Joined
import NtexH2.Connection.Refill
import NtexH2.Connection.Streams

set_option autoImplicit false

namespace NtexH2

open Connection (Exceeds)

namespace Net

/-- What the receive windows of an end lag behind the send windows of its peer: the peer applies
the settings that the end has not seen answered. -/
def lag (n : Net) (p : Party) : Int :=
  if (n.ends p.peer).remoteSettings = true ∧ (n.ends p).settingsProcessed = false then
    (n.ends p).config.windowSz - defaultInitialWindowSize
  else 0

end Net

/-- Payload within the windows is not answered with `RecvWindowExceeded`. -/
theorem Connection.not_exceeds_payload (c : Connection) (o : Obj) (d : Data) (i : Nat) :
    ¬Exceeds (lift o (c.recvPayload o d i)).1 := by
  cases hr : (c.objs o).recv with
  | payload => exact not_exceeds_recvPayload hr
  | idle =>
      unfold recvPayload
      rw [hr]
      rintro (hx | ⟨p, hx⟩)
      · cases hx
      · cases hx
  | closed reason =>
      unfold recvPayload
      rw [hr]
      rintro (hx | ⟨p, hx⟩)
      · cases hx
      · cases hx

/-- The initial receive window of the streams of a connection. -/
theorem Connection.session_base (c : Connection) (o : Obj) : c.session.base o =
    if c.settingsProcessed = true then c.config.windowSz else defaultInitialWindowSize :=
  if_congr ⟨fun hc => hc.1, fun hc => ⟨hc, List.not_mem_nil⟩⟩ rfl rfl

section

variable {s : Setup} {n : Net} (h : Joined s n) (p : Party)

include h

/-! ## The initial windows -/

/-- An end has answered the settings of its peer, or has not seen them. -/
theorem Joined.answered : .settings .newAck ∈ outbox (n.ends p).log ↔
    (n.ends p).remoteSettings = true := by
  have hcount := (h.endpoint p).exchange.answers
  rw [← List.count_pos_iff, hcount]
  cases (n.ends p).remoteSettings with
  | true => exact ⟨fun _ => rfl, fun _ => Nat.one_pos⟩
  | false => exact ⟨fun hpos => absurd hpos (Nat.lt_irrefl 0), fun hf => Bool.noConfusion hf⟩

/-- The initial send window that an end knows. -/
theorem Joined.initial : initWindow (n.ends p.peer).log =
    if (n.ends p.peer).remoteSettings = true then (n.ends p).config.windowSz
    else defaultInitialWindowSize := by
  have hnow := (h.endpoint p.peer).exchange.prompt.now
  unfold Answered at hnow
  rw [hnow, if_congr (h.answered p.peer) rfl rfl, Party.peer_peer, s.initialWindow, h.config p]

/-- An answer that has arrived was written. -/
theorem Joined.processed (hp : (n.ends p).settingsProcessed = true) :
    (n.ends p.peer).remoteSettings = true := by
  obtain ⟨f, hf, hread⟩ := h.origin ((h.endpoint p).exchange.processed.mp hp)
  exact (h.answered p.peer).mp (hread.settings ▸ hf)

theorem Joined.base_lag (o : Obj) : ((n.ends p).session.base o : Int) =
    initWindow (n.ends p.peer).log - n.lag p := by
  rw [Connection.session_base, h.initial p]
  unfold Net.lag
  cases hp : (n.ends p).settingsProcessed with
  | true =>
      rw [h.processed p hp]
      simp
  | false =>
      cases hr : (n.ends p.peer).remoteSettings with
      | true => simp
      | false => simp

/-! ## The windows of a stream -/

variable {o q : Obj}

/-- The receive window of an open half, from the frames on the id of the stream. -/
theorem Joined.received (ho : o ∈ (n.ends p).values)
    (hopen : ((n.ends p).objs o).recv.isClosed = false) :
    ((n.ends p).objs o).recvWindow.size +
        load (Frame.payloadOn ((n.ends p).objs o).id) (inbox (n.ends p).log) =
      (n.ends p).session.base o +
        load (Frame.increment ((n.ends p).objs o).id) (outbox (n.ends p).log) := by
  have hlt : o < (n.ends p).session.created := (h.clean p).good.table.bound o ho
  have hne : ((n.ends p).session.cells o).recv ≠ .closed := fun hcl => by
    have := HalfState.half_closed.mp hcl
    rw [hopen] at this
    cases this
  have hbooks := (h.endpoint p).books.grants.books o hlt hne
  rw [Session.gotOn_inbox (h.endpoint p).books.attributed ho,
    Session.grant_outbox (h.clean p).good.table (h.endpoint p).books.labelled hlt] at hbooks
  exact hbooks

/-- The send window of a stream, from the frames on its id. -/
theorem Joined.sent (hq : q ∈ (n.ends p).values) :
    ((n.ends p).objs q).sendWindow.size +
        load (Frame.payloadOn ((n.ends p).objs q).id) (outbox (n.ends p).log) =
      initWindow (n.ends p).log +
        load (Frame.increment ((n.ends p).objs q).id) (inbox (n.ends p).log) := by
  have hs := (h.clean p).good.sends
  have hlt : q < (n.ends p).session.created := (h.clean p).good.table.bound q hq
  have hstream := hs.stream q hq
  have hinit : initWindow (n.ends p).log = (n.ends p).session.remoteWindowSz := by
    rcases hs.settings with ⟨h1, -⟩ | ⟨-, -, hv⟩
    · exact h1
    · have hq' : q ∈ (n.ends p).session.values := hq
      rw [hv] at hq'
      exact absurd hq' List.not_mem_nil
  rw [Session.credit_inbox (h.endpoint p).books.attributed hq,
    Session.sentOn_outbox (h.clean p).good.table (h.endpoint p).books.labelled hlt,
    ← hinit] at hstream
  exact hstream

/-- The two windows of a stream that both ends hold. -/
theorem Joined.stream (ho : o ∈ (n.ends p).values) (hq : q ∈ (n.ends p.peer).values)
    (hid : ((n.ends p).objs o).id = ((n.ends p.peer).objs q).id)
    (hopen : ((n.ends p).objs o).recv.isClosed = false) :
    ((n.ends p).objs o).recvWindow.size = ((n.ends p.peer).objs q).sendWindow.size +
      load (Frame.payloadOn ((n.ends p).objs o).id) (n.way p) +
      load (Frame.increment ((n.ends p).objs o).id) (n.way p.peer) - n.lag p := by
  have hrecv := h.received p ho hopen
  have hsent := h.sent p.peer hq
  have hback := h.loads (fun _ _ => Frame.ReadAs.increment ((n.ends p).objs o).id) p.peer
  rw [Party.peer_peer] at hback
  rw [h.base_lag p o, hback] at hrecv
  have hfifo := h.loads (fun _ _ => Frame.ReadAs.payloadOn ((n.ends p).objs o).id) p
  rw [← hid, hfifo] at hsent
  omega

/-! ## DATA that arrives -/

variable {d : Data} {rest : List Frame} (hw : n.way p = .data d :: rest)

include hw

/-- DATA does not arrive for a half that a frame of the peer has ended. -/
theorem Joined.open_half (ho : o ∈ (n.ends p).values) (hid : ((n.ends p).objs o).id = d.streamId) :
    ((n.ends p).objs o).recv.isClosed = false := by
  by_contra hcl
  obtain ⟨g, hg, hend, hgid⟩ := (h.endpoint p).ended o ho (Bool.eq_true_of_not_eq_false hcl)
  obtain ⟨late, q, w, l, ys, hlog, hl, hq, hdid, hwords⟩ := h.spoken hw trivial nofun
  obtain ⟨g', hg', hread⟩ := Lib.forall₂_right hl hg
  obtain ⟨obj, w', hsent⟩ := mem_outbox.mp (hread.ends hend ▸ hg')
  have hlabel := (h.endpoint p.peer).books.labelled (.sent obj w' g) (by
    show _ ∈ (n.ends p.peer).log
    rw [hlog]
    exact List.mem_append_right _ (List.mem_cons_of_mem _ hsent))
  -- the frame is in the words of the stream, and DATA follows
  have hobj : obj = some q := by
    refine Session.ending_sent (h.clean p.peer).good.table hq hlabel hend ?_
    rw [hgid, hid]
    exact hdid
  have hmem : (w', g) ∈ words q l := mem_words.mpr (hobj ▸ hsent)
  obtain ⟨as, bs, hsplit⟩ := List.append_of_mem hmem
  have hne := (h.clean p.peer).good.emission.sane q
  have hlast := ((spoken_phase hne).sentence hne).2.1
  have hwords' : words q (n.ends p.peer).session.log =
      as ++ (w', g) :: (bs ++ (w, .data d) :: ys) := by
    refine hwords.trans ?_
    rw [hsplit, List.append_assoc]
    rfl
  rcases hlast _ _ _ hwords' hend (w, .data d) (List.mem_append_right _ List.mem_cons_self) with
    hreset | hupdate
  · cases hreset
  · cases hupdate

/-- DATA that arrives is within the window of its stream. -/
theorem Joined.within (hpos : 0 < d.flowLen) (ho : o ∈ (n.ends p).values)
    (hid : ((n.ends p).objs o).id = d.streamId) :
    (d.flowLen : Int) ≤ ((n.ends p).objs o).recvWindow.size := by
  have hrecv := h.received p ho (h.open_half p hw ho hid)
  obtain ⟨late, q, w, l, ys, hlog, hl, hq, hdid, -⟩ := h.spoken hw trivial nofun
  have hqid : ((n.ends p.peer).objs q).id = ((n.ends p).objs o).id :=
    (Option.some.inj hdid).symm.trans hid.symm
  have hsuffix : .sent (some q) w (.data d) :: l <:+ (n.ends p.peer).log := ⟨late, hlog.symm⟩
  have hbooks := (h.endpoint p.peer).books
  -- the sender has been within its window
  obtain ⟨-, -, -, hlawful⟩ := ((h.clean p.peer).good.sends.lawful.suffix hsuffix).data
  have hspent := hlawful hpos
  have hread : load (Frame.payloadOn ((n.ends p.peer).objs q).id) (outbox l) =
      load (Frame.payloadOn ((n.ends p.peer).objs q).id) (inbox (n.ends p).log) :=
    load_read (fun _ _ => Frame.ReadAs.payloadOn _) hl
  rw [total_cons, Session.sentOn_outbox (h.clean p.peer).good.table (fun e he =>
    hbooks.labelled e (hsuffix.subset (List.mem_cons_of_mem _ he))) hq] at hspent
  change _ + load (Frame.payloadOn ((n.ends p.peer).objs q).id) (outbox l) ≤ _ at hspent
  rw [hread] at hspent
  have hself : Event.sentOn q (.sent (some q) w (.data d)) = d.flowLen := if_pos rfl
  rw [hself] at hspent
  -- its initial window is that of the receiver
  have hinit : initWindow l = (n.ends p).session.base o := by
    have hans := (h.endpoint p.peer).exchange.prompt.data _ _ _ _ hsuffix
    have hack : .settings .newAck ∈ outbox l ↔ (n.ends p).settingsProcessed = true := by
      rw [(h.endpoint p).exchange.processed]
      refine ⟨fun hm => ?_, fun hm => ?_⟩
      · obtain ⟨g, hg, hread⟩ := Lib.forall₂_left hl hm
        cases hread
        exact hg
      · obtain ⟨g, hg, hread⟩ := Lib.forall₂_right hl hm
        exact hread.settings ▸ hg
    unfold Answered at hans
    rw [hans, Connection.session_base, if_congr hack rfl rfl, Party.peer_peer, s.initialWindow,
      h.config p]
  -- and its credit was granted
  have hcredit : total (Event.credit q) l ≤
      load (Frame.increment ((n.ends p).objs o).id) (outbox (n.ends p).log) := by
    have hle := Session.credit_le_inbox (k := (n.ends p.peer).session) (o := q) (l := l)
      fun obj f he => hbooks.attributed obj f (hsuffix.subset (List.mem_cons_of_mem _ he))
    refine Nat.le_trans hle ?_
    show load (Frame.increment ((n.ends p.peer).objs q).id) (inbox l) ≤ _
    have hback := h.loads (fun _ _ => Frame.ReadAs.increment ((n.ends p).objs o).id) p.peer
    rw [Party.peer_peer] at hback
    rw [hback, hlog, inbox_append, load_append, hqid]
    have hcons : inbox (.sent (some q) w (.data d) :: l) = inbox l :=
      (inbox_append [.sent (some q) w (.data d)] l).trans (List.append_nil _)
    rw [hcons]
    omega
  have hspent' : d.flowLen + load (Frame.payloadOn ((n.ends p).objs o).id) (inbox (n.ends p).log) ≤
      initWindow l + total (Event.credit q) l := by
    rw [← hqid]
    exact hspent
  rw [hinit] at hspent'
  omega

/-- DATA that arrives and is not empty is not answered with `RecvWindowExceeded`. -/
theorem Joined.not_exceeds (hpos : 0 < d.flowLen) : ¬Exceeds ((n.ends p).recvData d).1 := by
  have hcov := h.covered hw rfl
  have hlen : d.flowLen < 2 ^ 31 := by
    have := (h.clean p).good.credit.recvWindow_lt
    have hrw : (n.ends p).session.recvWindow = (n.ends p).recvWindow.size := rfl
    omega
  unfold Connection.recvData
  rw [if_neg (by rw [Connection.i32_nat hlen]; exact Int.not_lt.mpr hcov)]
  cases hq : (n.ends p).query d.streamId with
  | some o =>
      obtain ⟨ho, hid⟩ := Connection.query_mem (h.clean p).good.table hq
      have hin := h.within p hw hpos ho hid
      dsimp only
      unfold Connection.streamRecvData
      rw [if_neg (by rw [Connection.i32_nat hlen]; exact Int.not_lt.mpr hin)]
      exact Connection.not_exceeds_payload _ o d _
  | none =>
      dsimp only
      rintro (heq | ⟨q, heq⟩)
      · split at heq
        · cases heq
        · split at heq
          · cases heq
          · cases heq
      · split at heq
        · cases heq
        · split at heq
          · cases heq
          · cases heq

end

/-! ## Every run -/

namespace Net

/-- Flow control of two ends in any run: the receive window of a stream that both ends hold is the
send window of the peer, with the DATA and the credit that are on the way, less the change of the
initial window that only the peer has made; the windows of the connection agree without it.  So
DATA that is not empty is never answered with `RecvWindowExceeded`. -/
theorem flow_control_agreement {s : Setup} {n : Net} (h : Reachable s n) (p : Party) :
    (∀ o ∈ (n.ends p).values, ∀ q ∈ (n.ends p.peer).values,
      ((n.ends p).objs o).id = ((n.ends p.peer).objs q).id →
      ((n.ends p).objs o).recv.isClosed = false →
      ((n.ends p).objs o).recvWindow.size = ((n.ends p.peer).objs q).sendWindow.size +
        load (Frame.payloadOn ((n.ends p).objs o).id) (n.way p) +
        load (Frame.increment ((n.ends p).objs o).id) (n.way p.peer) - n.lag p) ∧
    (n.ends p).recvWindow.size = (n.ends p.peer).sendWindow.size +
      load Frame.payload (n.way p) + load (Frame.increment 0) (n.way p.peer) ∧
    ∀ d rest, n.way p = .data d :: rest → 0 < d.flowLen →
      ¬Exceeds ((n.ends p).recvData d).1 :=
  ⟨fun _ ho _ hq hid hopen => h.joined.stream p ho hq hid hopen, h.joined.connection p,
    fun _ _ hw hpos => h.joined.not_exceeds p hw hpos⟩

/-- A client with the default windows, and a server with a smaller one. -/
def meetingStart : Party → Connection.Start
  | .client => Connection.clientStart
  | .server => Connection.serverWith 1000 333 (by norm_num) (by norm_num)

def meetingSetup : Setup where
  start := meetingStart
  client := rfl
  server := rfl
  windowSz := fun p => by cases p <;> decide
  noPush := fun p => by cases p <;> rfl

/-- The head of a request. -/
def openingHeaders : Headers :=
  ⟨1, (meetingStart .client).init.requestPseudo Connection.someRequest, [], false⟩

/-- A request with three octets of payload, which the server has not received when the client knows
the settings of the server. -/
def meeting : List Move :=
  [.act .client (.request (some Connection.someRequest)),
    .act .client (.sendPages (fun _ => ⟨none, true⟩) 0 (.bytes [1, 2, 3]) true),
    .deliver .client (.settings (meetingSetup.settings .server)),
    .deliver .server (.settings (meetingSetup.settings .client)),
    .deliver .server (.windowUpdate 0 4128769), .deliver .server (.headers openingHeaders)]

/-- The next frame arrives as it was sent. -/
theorem possible_same {n : Net} {p : Party} {f : Frame} (hf : (n.arriving p).head? = some f)
    (hl : f.Loads) : n.Possible (.deliver p f) := ⟨⟨f, hf, .same f⟩, hl⟩

theorem meeting_reachable : Reachable meetingSetup ((Net.new meetingSetup).after meeting) := by
  refine (Reachable.new (s := meetingSetup)).after meeting ?_
  refine ⟨⟨trivial, rfl⟩, ⟨trivial, ?_⟩, possible_same rfl ⟨?_, nofun⟩,
    possible_same rfl ⟨nofun, nofun⟩, possible_same rfl ⟨by decide, by decide⟩,
    possible_same rfl (show (1 : Nat) < 2 ^ 31 by decide), trivial⟩
  · show 0 < _
    decide
  · intro v hv
    cases hv
    decide

theorem flow_control_agreement_meeting :
    ∃ n, Reachable meetingSetup n ∧ n.lag .server = 1000 - 65535 ∧
      n.way .server = [.data ⟨1, [1, 2, 3], 3, true⟩, .settings .newAck] ∧
      ((n.ends .server).objs 0).recvWindow.size = ((n.ends .client).objs 0).sendWindow.size +
        load (Frame.payloadOn ((n.ends .server).objs 0).id) (n.way .server) +
        load (Frame.increment ((n.ends .server).objs 0).id) (n.way .client) - n.lag .server ∧
      ¬Exceeds ((n.ends .server).recvData ⟨1, [1, 2, 3], 3, true⟩).1 := by
  have hway : ((Net.new meetingSetup).after meeting).way .server =
      [.data ⟨1, [1, 2, 3], 3, true⟩, .settings .newAck] := by decide
  exact ⟨_, meeting_reachable, by decide, hway,
    (flow_control_agreement meeting_reachable .server).1 0 (by decide) 0 (by decide) (by decide)
      (by decide),
    (flow_control_agreement meeting_reachable .server).2.2 _ _ hway (by decide)⟩

end Net

end NtexH2
