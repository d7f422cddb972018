/-
  Connection/Streams.lean --- the streams of a connection in every run.

  The map and its counters, the frames that are written for a stream, and the ids
  that streams get.
-/
import NtexH2.Connection.FlowControl

set_option autoImplicit false

namespace NtexH2

namespace Connection

variable {s : Start} {c : Connection}

/-! ## The map -/

/-- All streams of the map are of the peer, or all are local. -/
theorem filter_remote (ht : c.session.Table) (b : Bool) :
    (c.streams.filter fun e => (c.objs e.2).remote == b).length =
      if c.server = b then c.streams.length else 0 := by
  have hall : ∀ e ∈ c.streams, (c.objs e.2).remote = c.server := by
    intro e he
    exact ht.remote e.2 (ht.bound e.2 (List.mem_map_of_mem (f := (·.2)) he))
  by_cases hb : c.server = b
  · rw [if_pos hb, List.filter_eq_self.mpr]
    intro e he
    rw [hall e he, hb]
    exact beq_self_eq_true b
  · rw [if_neg hb, List.length_eq_zero_iff, List.filter_eq_nil_iff]
    intro e he
    rw [hall e he, beq_iff_eq]
    exact hb

/-- The counters count the map, reservations are counted, keys are ids, and a stream of the map
has an open half; `activeRemote`, `activeLocal` and `reserved` record a counter that is
decremented at zero. -/
theorem stream_table_invariant (h : Reachable s c) :
    c.activeRemoteStreams = (c.streams.filter fun e => (c.objs e.2).remote == true).length ∧
    c.activeLocalStreams =
      (c.streams.filter fun e => (c.objs e.2).remote == false).length + c.reservedStreams ∧
    c.reservedStreams = c.reservations ∧
    (∀ e ∈ c.streams, (c.objs e.2).id = e.1) ∧
    (∀ e ∈ c.streams, ¬((c.objs e.2).recv.isClosed = true ∧ (c.objs e.2).send.isClosed = true)) ∧
    Anomaly.activeRemote ∉ c.anomalies ∧ Anomaly.activeLocal ∉ c.anomalies ∧
      Anomaly.reserved ∉ c.anomalies := by
  have hc := h.clean
  have ht := hc.good.table
  have h1 : c.activeRemoteStreams = if c.server then c.streams.length else 0 := ht.activeRemote
  have h2 : c.activeLocalStreams = (if c.server then 0 else c.streams.length) +
    c.reservedStreams := ht.activeLocal
  refine ⟨?_, ?_, ht.reserved, ht.key, ?_, ?_⟩
  · rw [filter_remote ht]
    exact h1
  · rw [filter_remote ht, h2]
    cases c.server <;> rfl
  · intro e he hcl
    have hm : e.2 ∈ c.session.values := List.mem_map_of_mem (f := (·.2)) he
    have hlive := (ht.live e.2 (ht.bound e.2 hm)).mp hm
    exact hlive ⟨HalfState.half_closed.mpr hcl.1, HalfState.half_closed.mpr hcl.2⟩
  · simp [hc.anomalies]

theorem stream_table_invariant_exchange :
    ∃ c, Reachable (serverWith 1000 333 (by decide) (by decide)) c ∧ c.streams = [(1, 0)] ∧
      c.activeRemoteStreams = (c.streams.filter fun e => (c.objs e.2).remote == true).length := by
  have hr := ((ReachableBy.new (P := anyStep)
    (s := serverWith 1000 333 (by decide) (by decide))).after exchange exchange_allowed).reachable
  exact ⟨_, hr, by decide, (stream_table_invariant hr).1⟩

/-! ## The frames of a stream -/

/-- What is written for a stream is a sentence; the end of the stream and RST_STREAM are last
words, and after a received RST_STREAM nothing is written; the stream of a client begins with
its request; `closedWindow` records a WINDOW_UPDATE for a closed receive half. -/
theorem emission_grammar (h : Reachable s c) (o : Obj) :
    Sentence (messages (words o c.log)) ∧ EndLast (words o c.log) ∧ ResetLast (words o c.log) ∧
    (∀ pre id r l, c.log = pre ++ .received (some o) (.reset id r) :: l →
      words o c.log = words o l) ∧
    (c.server = false → o < c.created → ∃ hd xs,
      words o c.log = (.sendHeaders, .headers hd) :: xs ∧ hd.streamId = (c.objs o).id) ∧
    Anomaly.closedWindow ∉ c.anomalies := by
  have hc := h.clean
  have hne : phase o c.log ≠ .bad := hc.good.emission.sane o
  obtain ⟨h1, h2, h3⟩ := (spoken_phase hne).sentence hne
  refine ⟨h1, h2, h3, ?_, ?_, by simp [hc.anomalies]⟩
  · intro pre id r l hl
    rw [hl] at hne ⊢
    exact (words_after_reset hne).2
  · intro hs ho
    obtain ⟨hd, xs, hw, hid⟩ := hc.good.begins.head hs o ho
    have hgiven : (c.objs o).id = 2 * o + 1 := (hc.good.table.given hs).2 o ho
    exact ⟨hd, xs, hw, hid.trans hgiven.symm⟩

theorem emission_grammar_exchange :
    ∃ c, Reachable (serverWith 1000 333 (by decide) (by decide)) c ∧
      (words 0 c.log).map (·.1) = [.sendResponse, .sendPages] ∧
        Sentence (messages (words 0 c.log)) := by
  have hr := ((ReachableBy.new (P := anyStep)
    (s := serverWith 1000 333 (by decide) (by decide))).after exchange exchange_allowed).reachable
  exact ⟨_, hr, by decide, (emission_grammar hr 0).1⟩

/-! ## The ids of streams -/

/-- A client that has used its last id opens no stream any more. -/
theorem Exhausted.created_eq {G : Session.Guard} {k k' : Session} (hs : Session.Steps G k k')
    (hg : k.Good) (hserver : k.server = false) (hmax : StreamId.max < k.nextStreamId + 2) :
    k'.created = k.created := by
  induction hs with
  | refl => rfl
  | @tail k1 k2 hsteps hstep ih =>
      have hg1 := hg.steps hsteps
      have hserver1 : k1.server = false := (Session.Steps.grows hsteps).server.trans hserver
      rcases hstep.log_cases hg1.table with f | ⟨id, htrue, -⟩ | ⟨hd, reserved, -, -, hle, -⟩
      · exact f.created.trans ih
      · rw [hserver1] at htrue
        cases htrue
      · have h1 := (hg.table.given hserver).1
        have h2 := (hg1.table.given hserver1).1
        exfalso
        rw [h2, ih, ← h1] at hle
        exact absurd hle (Nat.not_le.mpr hmax)

/-- What `open_stream` answers after the last id. -/
theorem openStream_exhausted {r : Request} (hmax : StreamId.max < c.nextStreamId + 2) :
    c.openStream r = (match c.checkHeaderListSize (c.requestPseudo r) r.fields with
      | .error e => .error e
      | .ok _ => .error .overflowedStreamId, c) := by
  have hnone : StreamId.nextId c.nextStreamId = none := if_pos hmax
  unfold openStream
  cases c.checkHeaderListSize (c.requestPseudo r) r.fields with
  | error e => rfl
  | ok u =>
      dsimp only
      rw [hnone]

/-! ## The last id -/

/-- A client with the default configuration. -/
def clientStart : Start := ⟨false, ServiceConfig.new, false, false⟩

/-- A request without fields. -/
def someRequest : Request := ⟨[], [71], [47], [], false⟩

/-- A client that may open streams without a limit, and whose next id is `id`. -/
structure Asking (id : Nat) (c : Connection) : Prop where
  server : c.server = false
  error : c.error = none
  goAway : c.goAway = none
  draining : c.disconnectWhenReady = false
  limit : c.localMaxConcurrentStreams = none
  headers : c.remoteMaxHeaderListSize = 2 ^ 32 - 1
  next : c.nextStreamId = id
  remote : c.remoteSettings = true

/-- A peer without a limit takes the headers of the request. -/
theorem Asking.check {id : Nat} (h : Asking id c) :
    c.checkHeaderListSize (c.requestPseudo someRequest) someRequest.fields = .ok () := by
  have hsize : (c.requestPseudo someRequest).headerListSize someRequest.fields ≤ 1000 := by
    unfold requestPseudo
    cases c.secure <;> decide
  unfold checkHeaderListSize
  refine if_neg ?_
  rw [h.headers]
  omega

theorem Asking.request {id : Nat} (h : Asking id c) (hmax : id + 2 ≤ StreamId.max) :
    Asking (id + 2) (c.step (.request (some someRequest))) := by
  have hch : c.checkErrorWithDisconnect = none := by
    unfold checkErrorWithDisconnect
    rw [h.error, h.goAway, h.draining]
    rfl
  have hcan : c.canCreateNewStream = true := by
    unfold canCreateNewStream
    rw [h.limit]
  have hlist := h.check
  have hnext : StreamId.nextId ({ c with activeLocalStreams := c.activeLocalStreams + 1 } :
      Connection).nextStreamId = some (id + 2) := by
    unfold StreamId.nextId
    show (if c.nextStreamId + 2 > StreamId.max then none else some (c.nextStreamId + 2)) = _
    rw [h.next, if_neg (Nat.not_lt.mpr hmax)]
  have hstep : c.step (.request (some someRequest)) =
      (({ c with
        activeLocalStreams := c.activeLocalStreams + 1
        nextStreamId := id + 2 } : Connection).insertStream c.nextStreamId false).sendHeaders
          c.created ⟨c.nextStreamId, c.requestPseudo someRequest, [], false⟩ := by
    show (c.request (some someRequest)).2 = _
    unfold Connection.request
    rw [hch]
    dsimp only
    rw [if_pos hcan]
    unfold sendRequest openStream
    rw [show ({ c with activeLocalStreams := c.activeLocalStreams + 1 } :
      Connection).checkHeaderListSize (({ c with activeLocalStreams := c.activeLocalStreams + 1 } :
        Connection).requestPseudo someRequest) someRequest.fields = .ok () from hlist]
    dsimp only
    rw [hnext]
    rfl
  rw [hstep]
  exact ⟨h.server, h.error, h.goAway, h.draining, h.limit, h.headers, rfl, h.remote⟩

/-- A client can use every id but the last two. -/
theorem asking_reachable (n : Nat) (hn : 2 * n + 1 ≤ StreamId.max) :
    ∃ c, Reachable clientStart c ∧ Asking (2 * n + 1) c := by
  induction n with
  | zero =>
      have hr : Reachable clientStart (clientStart.init.step (.receive (.settings noSettings))) :=
        .step _ .new noSettings_loads
      exact ⟨_, hr, by decide, by decide, by decide, by decide, by decide, by decide, by decide,
        by decide⟩
  | succ n ih =>
      obtain ⟨c, hr, ha⟩ := ih (by omega)
      exact ⟨_, .step (.request (some someRequest)) hr ha.server, ha.request (by omega)⟩

/-! ## Every run -/

/-- Ids are never used twice: those of a server are odd and grow, those of a client are 1, 3, 5
and so on.  After the last one no stream is opened; an attempt with a list of headers beyond the
limit of the peer is refused for that, every other one with `overflowedStreamId`. -/
theorem stream_ids_never_reused (h : Reachable s c) :
    (c.server = true →
      (∀ a, c.Enabled a → c.lastId ≤ (c.step a).lastId) ∧
      (∀ o < c.created, (c.objs o).id % 2 = 1 ∧ (c.objs o).id ≤ c.lastId) ∧
      (∀ o p, o < p → p < c.created → (c.objs o).id < (c.objs p).id) ∧
      ∀ m ∈ c.config.remoteMaxConcurrentStreams,
        (c.streams.filter fun e => (c.objs e.2).remote == true).length ≤ m) ∧
    (c.server = false →
      (∀ o < c.created, (c.objs o).id = 2 * o + 1) ∧
      (c.log.filterMap Event.opening).reverse =
        (List.range c.created).map (fun o => 2 * o + 1) ∧
      (StreamId.max < c.nextStreamId + 2 →
        (∀ a, c.Enabled a → (c.step a).created = c.created) ∧
        ∀ r, c.openStream r = (match c.checkHeaderListSize (c.requestPseudo r) r.fields with
          | .error e => .error e
          | .ok _ => .error .overflowedStreamId, c))) := by
  have hc := h.clean
  have ht := hc.good.table
  have hsteps : ∀ a, c.Enabled a →
      Session.Steps anyRun c.session (c.step a).session := fun a ha =>
    ((runs_step ha (finds_anyRun c a)) hc).2
  constructor
  · intro hs
    refine ⟨?_, ?_, ht.mono, ?_⟩
    · exact fun a ha => (Session.Steps.grows (hsteps a ha)).lastId
    · exact fun o ho => (ht.heard hs o ho).symm
    · intro m hm
      have hlim : c.activeRemoteStreams ≤ m := ht.limit m hm
      have hact : c.activeRemoteStreams = if c.server then c.streams.length else 0 :=
        ht.activeRemote
      rw [filter_remote ht]
      rw [hact] at hlim
      exact hlim
  · intro hs
    refine ⟨(ht.given hs).2, ?_, ?_⟩
    · have hopen : c.log.filterMap Event.opening = if c.server then [] else
        ((List.range c.created).map fun o => 2 * o + 1).reverse := ht.openings
      rw [hopen, hs, if_neg Bool.false_ne_true, List.reverse_reverse]
    · intro hmax
      exact ⟨fun a ha => Exhausted.created_eq (hsteps a ha) hc.good hs hmax,
        fun r => openStream_exhausted hmax⟩

/-- A second stream of a peer that leaves an id out. -/
def secondStream : List Step := exchange ++ [.receive (.headers ⟨5, somePseudo, [], false⟩)]

/-- Two requests of a client. -/
def twoRequests : List Step :=
  [.receive (.settings noSettings), .request (some someRequest), .request (some someRequest)]

theorem secondStream_reachable : Reachable (serverWith 1000 333 (by decide) (by decide))
    ((serverWith 1000 333 (by decide) (by decide)).init.after secondStream) := by
  have hr := ((ReachableBy.new (P := anyStep)
    (s := serverWith 1000 333 (by decide) (by decide))).after exchange exchange_allowed).reachable
  have hr' := Reachable.step (.receive (.headers ⟨5, somePseudo, [], false⟩)) hr
    (show (5 : Nat) < 2 ^ 31 by decide)
  unfold secondStream after
  rw [List.foldl_append]
  exact hr'

theorem twoRequests_reachable : Reachable clientStart (clientStart.init.after twoRequests) :=
  .step (.request (some someRequest)) (.step (.request (some someRequest))
    (.step (.receive (.settings noSettings)) .new noSettings_loads) rfl) rfl

/-- A server with two streams, a client with two streams, and a client after its last stream. -/
theorem stream_ids_never_reused_exchange :
    (∃ c, Reachable (serverWith 1000 333 (by decide) (by decide)) c ∧ c.created = 2 ∧
      (c.objs 0).id < (c.objs 1).id ∧ (c.objs 1).id = 5 ∧ (c.objs 1).id ≤ c.lastId) ∧
    (∃ c, Reachable clientStart c ∧ (c.objs 1).id = 3 ∧
      (c.log.filterMap Event.opening).reverse = [1, 3]) ∧
    ∃ c, Reachable clientStart c ∧ c.nextStreamId = StreamId.max ∧
      (∀ a, c.Enabled a → (c.step a).created = c.created) ∧
      c.openStream someRequest = (.error .overflowedStreamId, c) := by
  obtain ⟨hserver, -⟩ := stream_ids_never_reused secondStream_reachable
  obtain ⟨-, hodd, hmono, -⟩ := hserver (by decide)
  obtain ⟨-, hclient⟩ := stream_ids_never_reused twoRequests_reachable
  obtain ⟨hids, hopened, -⟩ := hclient (by decide)
  obtain ⟨c, hr, ha⟩ := asking_reachable (2 ^ 30 - 1) (by decide)
  obtain ⟨-, hlast⟩ := stream_ids_never_reused hr
  obtain ⟨-, -, hexhausted⟩ := hlast ha.server
  obtain ⟨hnone, hfails⟩ := hexhausted (by rw [ha.next]; decide)
  have hfail := hfails someRequest
  rw [ha.check] at hfail
  exact ⟨⟨_, secondStream_reachable, by decide, hmono 0 1 (by decide) (by decide), by decide,
      (hodd 1 (by decide)).2⟩,
    ⟨_, twoRequests_reachable, hids 1 (by decide), hopened⟩, c, hr, ha.next, hnone, hfail⟩

/-- The settings of a peer that takes no header at all. -/
def noHeaders : Settings := { noSettings with maxHeaderListSize := some 0 }

theorem Asking.noHeaders {id : Nat} (h : Asking id c) :
    (c.step (.receive (.settings noHeaders))).server = false ∧
    (c.step (.receive (.settings noHeaders))).nextStreamId = id ∧
    (c.step (.receive (.settings noHeaders))).remoteMaxHeaderListSize = 0 := by
  obtain ⟨c2, hc2⟩ : ∃ c2 : Connection, c2 =
      { c.push (.received none (.settings Connection.noHeaders)) with
        remoteMaxHeaderListSize := 0
        remoteSettings := true } := ⟨_, rfl⟩
  have hlim : (c.push (.received none (.settings Connection.noHeaders))).applyLimits
      Connection.noHeaders = c2 := by
    rw [hc2]
    unfold applyLimits
    dsimp only [Connection.noHeaders, noSettings]
    exact if_neg (by simp [push, h.remote])
  have hpeer : (c.push (.received none (.settings Connection.noHeaders))).recvPeerSettings
      Connection.noHeaders = (.ok (), c2.encodeCon (.settings .newAck)) := by
    unfold recvPeerSettings
    rw [if_neg (by simp [Connection.noHeaders, noSettings, Settings.isPushEnabled]), hlim]
    rfl
  have hstep : c.step (.receive (.settings Connection.noHeaders)) =
      c2.encodeCon (.settings .newAck) := by
    show c.receive (.settings Connection.noHeaders) = _
    unfold receive
    have hfirst : (c.push (.received ((Frame.settings Connection.noHeaders).streamId.bind c.query)
        (.settings Connection.noHeaders))).checkFirstFrame (.settings Connection.noHeaders) =
          true := by
      unfold checkFirstFrame
      exact Bool.or_eq_true_iff.mpr (.inr rfl)
    rw [if_pos hfirst]
    show (c.push (.received none (.settings Connection.noHeaders))).dispatch
      (.settings Connection.noHeaders) = _
    unfold dispatch
    dsimp only
    rw [if_neg (by decide), hpeer]
  rw [hstep, hc2]
  exact ⟨h.server, h.next, rfl⟩

/-- After the last id, a request with a list of headers beyond the limit of the peer is not
refused with `overflowedStreamId`. -/
theorem overflow_not_reported :
    ¬∀ (s : Start) (c : Connection), Reachable s c → c.server = false →
      StreamId.max < c.nextStreamId + 2 → ∀ r, (c.openStream r).1 = .error .overflowedStreamId := by
  intro h
  obtain ⟨c, hr, ha⟩ := asking_reachable (2 ^ 30 - 1) (by decide)
  have hl : Frame.Loads (.settings noHeaders) :=
    ⟨fun v hv => (by cases hv), fun v hv => (by cases hv)⟩
  obtain ⟨h1, h2, h3⟩ := ha.noHeaders
  have hmax : StreamId.max < (c.step (.receive (.settings noHeaders))).nextStreamId + 2 := by
    rw [h2]
    decide
  have hfail := h clientStart _ (.step (.receive (.settings noHeaders)) hr hl) h1 hmax someRequest
  rw [openStream_exhausted hmax] at hfail
  generalize c.step (.receive (.settings noHeaders)) = c' at h3 hfail
  have hlist : c'.checkHeaderListSize (c'.requestPseudo someRequest) someRequest.fields =
      .error (.headerListTooLarge ((c'.requestPseudo someRequest).headerListSize
        someRequest.fields) c'.remoteMaxHeaderListSize) := by
    unfold checkHeaderListSize
    apply if_pos
    rw [h3]
    unfold requestPseudo
    cases c'.secure <;> decide
  rw [hlist] at hfail
  cases hfail

end Connection

end NtexH2
