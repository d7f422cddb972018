/-
  Network/Failures.lean --- what can fail two ends that are joined.

  A frame that arrives fails the connection for five reasons only: too many streams were
  reset, a WINDOW_UPDATE of zero that a window without a threshold announces, a RST_STREAM
  on stream zero, and trailers for a stream that the server has let go: as they are if the
  server does not remember the stream as reset, and in any case if the codec rejects them.
  All other connection errors of the code are for peers that are not this library.
-/
import NtexH2.Network.HalfClose
import NtexH2.Connection.Fatal

set_option autoImplicit false

namespace NtexH2

namespace Connection

variable {c c' : Connection}

/-! ## What is fatal -/

/-- The frames of a peer that speaks as this library does, and the errors of the connection that
they may cause. -/
inductive Blames (c : Connection) : Frame → ConnectionError → Prop where
  | request {h : Headers} : Blames c (.headers h) .streamResetsLimit
  | reset {id : StreamId} {r : Reason} (h0 : id ≠ 0) : Blames c (.reset id r) .streamResetsLimit
  | resetZero {r : Reason} : Blames c (.reset 0 r) (.unknownStream "RST_STREAM-zero")
  | zero : Blames c (.windowUpdate 0 0) .zeroWindowUpdateValue
  | trailers {f : Frame} {h : Headers} (hs : c.server = true) (hq : c.query h.streamId = none)
      (hp : c.localPendingReset.isPending h.streamId = false)
      (hin : f ∈ inbox c.log) (hid : f.headersId = some h.streamId) :
      Blames c (.headers h) (.invalidStreamId
        "Invalid id in received headers frame (stream closed or ID reused)")
  | malformed {g : InvalidFrame} : Blames c (.invalid g) .streamResetsLimit
  -- a stream that was reset and is remembered is no exception here
  | malformedTrailers {f : Frame} {g : InvalidFrame} (hs : c.server = true)
      (hq : c.query g.streamId = none) (hin : f ∈ inbox c.log)
      (hid : f.headersId = some g.streamId) :
      Blames c (.invalid g) (.invalidStreamId
        "Invalid id in received headers frame (stream closed or ID reused)")

variable {e : ConnectionError}

theorem fatal_lift (o : Obj) (r : Except StreamError (Option Message) × Connection) :
    (lift o r).1.fatal = none := by
  obtain ⟨x, c1⟩ := r
  cases x with
  | ok item => rfl
  | error err => rfl

theorem fatal_resetUnknownStream {id : StreamId} {r : Reason}
    (h : (c.resetUnknownStream id r).1.fatal = some e) : e = .streamResetsLimit := by
  unfold resetUnknownStream at h
  cases hr : c.updateRstCount with
  | mk x c1 =>
      rw [hr] at h
      cases x with
      | error e' =>
          cases h
          exact updateRstCount_limit hr
      | ok u => cases h

theorem fatal_recvRstStream {id : StreamId} {r : Reason} (h0 : id ≠ 0)
    (h : (c.recvRstStream id r).1.fatal = some e) : e = .streamResetsLimit := by
  have hzero : ¬StreamId.isZero id = true := fun hz => h0 (eq_of_beq hz)
  unfold recvRstStream at h
  rw [if_neg hzero] at h
  cases hq : c.query id with
  | some o =>
      rw [hq] at h
      dsimp only at h
      split at h
      · cases h
      · split at h
        · next hr =>
            cases h
            exact updateRstCount_limit hr
        · cases h
  | none =>
      rw [hq] at h
      dsimp only at h
      split at h
      · split at h
        · next hr =>
            cases h
            exact updateRstCount_limit hr
        · cases h
      · cases h

theorem fatal_recvNewHeaders {h : Headers} (hf : (c.recvNewHeaders h).1.fatal = some e) :
    e = .streamResetsLimit := by
  unfold recvNewHeaders at hf
  dsimp only at hf
  split at hf
  · cases hf
  · split at hf
    · exact fatal_resetUnknownStream hf
    · split at hf
      · exact fatal_resetUnknownStream hf
      · unfold acceptStream at hf
        dsimp only at hf
        rw [fatal_lift] at hf
        cases hf

/-- WINDOW_UPDATE on an id that is used is fatal only if it is zero for the connection. -/
theorem fatal_recvWindowUpdate {id : StreamId} {n : Nat} (hlt : n < 2 ^ 31)
    (hlow : 0 ≤ c.sendWindow.size) (hw : id = 0 → c.sendWindow.size + n < 2 ^ 31)
    (hu : id ≠ 0 → c.isUsedId id = true) (h : (c.recvWindowUpdate id n).1.fatal = some e) :
    id = 0 ∧ n = 0 ∧ e = .zeroWindowUpdateValue := by
  unfold recvWindowUpdate at h
  split at h
  · next hzero =>
      have hid : id = 0 := eq_of_beq hzero
      by_cases hn : n = 0
      · refine ⟨hid, hn, ?_⟩
        unfold recvConWindowUpdate at h
        rw [if_pos hn] at h
        cases h
        rfl
      · have hok := recvConWindowUpdate_ok hn hlt hlow (hw hid)
        cases hr : c.recvConWindowUpdate n with
        | mk x c1 =>
            rw [hr] at h hok
            cases x with
            | error e' => cases hok
            | ok u => cases h
  · next hzero =>
      have hid : id ≠ 0 := fun hid => hzero (beq_iff_eq.mpr hid)
      cases hq : c.query id with
      | some o =>
          rw [hq] at h
          dsimp only at h
          split at h
          · cases h
          · cases h
      | none =>
          rw [hq] at h
          dsimp only at h
          rw [if_pos (by rw [hu hid, Bool.or_true])] at h
          cases h

/-- DATA within the window of the connection, on an id that is used, is not fatal. -/
theorem fatal_recvData {d : Data} (hw : (d.flowLen : Int) ≤ c.recvWindow.size)
    (hlen : d.flowLen < 2 ^ 31) (hu : c.isUsedId d.streamId = true) :
    (c.recvData d).1.fatal = none := by
  have hne := recvData_stream hw hlen hu
  generalize (c.recvData d).1 = x at hne
  cases x with
  | ok item => rfl
  | error err =>
      cases err with
      | connection e' => exact absurd rfl (hne e')
      | stream o e' => rfl

/-- HEADERS are fatal as one reset too many, or for a stream that the server has let go. -/
theorem fatal_recvHeaders {h : Headers} (hodd : h.streamId % 2 = 1)
    (hclient : c.server = false → h.streamId < c.nextStreamId)
    (hf : (c.recvHeaders h).1.fatal = some e) : e = .streamResetsLimit ∨
      c.server = true ∧ h.streamId ≤ c.lastId ∧ c.query h.streamId = none ∧
        c.localPendingReset.isPending h.streamId = false ∧ e = .invalidStreamId
          "Invalid id in received headers frame (stream closed or ID reused)" := by
  unfold recvHeaders at hf
  rw [isClientInitiated_of_odd hodd] at hf
  cases hq : c.query h.streamId with
  | some o =>
      rw [hq] at hf
      change (lift o _).1.fatal = some e at hf
      rw [fatal_lift] at hf
      cases hf
  | none =>
      rw [hq] at hf
      cases hs : c.server with
      | false =>
          rw [hs] at hf
          change (c.recvClosedHeaders h.streamId).1.fatal = some e at hf
          unfold recvClosedHeaders at hf
          have hused : decide (h.streamId ≥ c.nextStreamId) = false :=
            decide_eq_false (Nat.not_le.mpr (hclient hs))
          rw [hused] at hf
          cases hf
      | true =>
          rw [hs] at hf
          have hno : ¬(!true) = true := Bool.false_ne_true
          rw [if_neg hno] at hf
          dsimp only at hf
          rw [if_neg hno] at hf
          split at hf
          · next hle =>
              split at hf
              · cases hf
              · next hp =>
                  cases hf
                  exact .inr ⟨rfl, hle, rfl, Bool.eq_false_iff.mpr hp, rfl⟩
          · exact .inl (fatal_recvNewHeaders hf)

/-- So are those that the codec has rejected, also for a stream that was reset and is remembered. -/
theorem fatal_recvInvalidFrame {f : InvalidFrame} (hk : f.kind = .headers)
    (hodd : f.streamId % 2 = 1) (hf : (c.recvInvalidFrame f).1.fatal = some e) :
    e = .streamResetsLimit ∨
      c.server = true ∧ f.streamId ≤ c.lastId ∧ c.query f.streamId = none ∧
        e = .invalidStreamId
          "Invalid id in received headers frame (stream closed or ID reused)" := by
  unfold recvInvalidFrame at hf
  cases hq : c.query f.streamId with
  | some o =>
      rw [hq] at hf
      dsimp only at hf
      cases hr : c.updateRstCount with
      | mk x c1 =>
          rw [hr] at hf
          cases x with
          | error e' =>
              cases hf
              exact .inl (updateRstCount_limit hr)
          | ok u => cases hf
  | none =>
      rw [hq, hk] at hf
      dsimp only at hf
      have hno : ¬(!true) = true := Bool.false_ne_true
      unfold recvInvalidHeaders at hf
      rw [isClientInitiated_of_odd hodd, if_neg hno] at hf
      cases hs : c.server with
      | false =>
          rw [hs, if_pos (show (!false) = true from rfl)] at hf
          split at hf
          · cases hf
          · exact .inl (fatal_resetUnknownStream hf)
      | true =>
          rw [hs, if_neg hno] at hf
          split at hf
          · next hle =>
              cases hf
              exact .inr ⟨rfl, hle, rfl, rfl⟩
          · exact .inl (fatal_resetUnknownStream hf)

end Connection

namespace Session

variable {k k' : Session} {G : Guard}

/-! ## The order of requests -/

/-- When a client writes for a stream, it has written for all streams before it. -/
def InTurn (k : Session) : Prop :=
  k.server = false → ∀ o w f l, .sent (some o) w f :: l <:+ k.log → ∀ p < o, words p l ≠ []

theorem InTurn.frame (h : k.InTurn) (hb : k.Begins) (f : LogFrame k k') : k'.InTurn := by
  obtain ⟨evs, hlog, hevs⟩ := f.log
  intro hs
  rw [f.server] at hs
  rw [hlog]
  clear hlog
  induction evs with
  | nil => exact h hs
  | cons e evs ih =>
      have hevs' := fun e' he' => hevs e' (List.mem_cons_of_mem e he')
      intro o w g l hl p hp
      rcases List.suffix_cons_iff.mp hl with heq | hl
      · obtain ⟨rfl, rfl⟩ := List.cons.inj heq
        have ho : o < k.created := hevs _ List.mem_cons_self o w g rfl
        obtain ⟨hd, xs, hw, -⟩ := hb.head hs p (Nat.lt_trans hp ho)
        obtain ⟨ys, hys, -⟩ := words_append (o := p) (l := k.log) hevs'
        show words p (evs ++ k.log) ≠ []
        rw [hys, hw]
        exact List.cons_ne_nil _ _
      · exact ih hevs' o w g l hl p hp

theorem InTurn.step (h : k.InTurn) (hb : k.Begins) (ht : k.Table) (hs : Step G k k') :
    k'.InTurn := by
  rcases hs.log_cases ht with f | ⟨id, hserver, rfl⟩ | ⟨hd, reserved, hserver, hid, -, rfl⟩
  · exact h.frame hb f
  · intro hs'
    have hs'' : k.server = false := hs'
    rw [hserver] at hs''
    cases hs''
  · intro _ o w g l hl p hp
    have hl' : .sent (some o) w g :: l <:+
      .sent (some k.created) .sendHeaders (.headers hd) :: k.log := hl
    rcases List.suffix_cons_iff.mp hl' with heq | hl'
    · cases heq
      obtain ⟨hd', xs, hw, -⟩ := hb.head hserver p hp
      rw [hw]
      exact List.cons_ne_nil _ _
    · exact h hserver o w g l hl' p hp

theorem InTurn.steps (h : k.InTurn) (hg : k.Good) (hs : Steps G k k') : k'.InTurn := by
  induction hs with
  | refl => exact h
  | tail hsteps hstep ih =>
      have hg1 := hg.steps hsteps
      exact ih.step hg1.begins hg1.table hstep

end Session

theorem Connection.Reachable.inTurn {s : Connection.Start} {c : Connection}
    (h : Connection.Reachable s c) : c.session.InTurn := by
  induction h with
  | new =>
      intro _ o w f l hl
      obtain ⟨-, -, hlog⟩ := Connection.new_window s.server s.config s.secure s.skipStreams
      change s.init.log = _ ∨ ∃ n, s.init.log = _ at hlog
      have hmem : .sent (some o) w f ∈ s.init.log := hl.subset List.mem_cons_self
      rcases hlog with hlog | ⟨n, hlog⟩
      · rw [hlog] at hmem
        cases List.mem_singleton.mp hmem
      · rw [hlog] at hmem
        rcases List.mem_cons.mp hmem with heq | hmem
        · cases heq
        · cases List.mem_singleton.mp hmem
  | @step c a hr ha ih =>
      exact ih.steps hr.clean.good (runs_step ha (finds_anyRun c a) hr.clean).2

/-! ## Two ends -/

section

variable {s : Setup} {n : Net} (h : Joined s n) {f : Frame}

include h

/-- When a client writes for a stream, it has written HEADERS on all ids before. -/
theorem Joined.requested {o q : Obj} {w : Writer} {l late : List Event}
    (hlog : (n.ends .client).log = late ++ .sent (some o) w f :: l) (hq : q < o)
    (ho : o < (n.ends .client).created) : ∃ g, .headers g ∈ outbox l ∧ g.streamId = 2 * q + 1 := by
  have hclient : (n.ends .client).server = false := (h.side .client).trans s.client
  have hne := (h.reach .client).inTurn hclient o w f l ⟨late, hlog.symm⟩ q hq
  obtain ⟨hd, xs, hhead, hid⟩ :=
    (h.clean .client).good.begins.head hclient q (Nat.lt_trans hq ho)
  change words q (n.ends .client).log = _ at hhead
  have hlabels := (h.endpoint .client).books.labelled
  change ∀ e ∈ (n.ends .client).log, _ at hlabels
  rw [hlog] at hhead hlabels
  obtain ⟨ys, hys, -⟩ := @Session.words_append q (late ++ [.sent (some o) w f]) l
    (n.ends .client).session.created fun e he q' w' f' heq => by
      subst heq
      have hmem : Event.sent (some q') w' f' ∈ late ++ .sent (some o) w f :: l := by
        have := List.mem_append_left l he
        rwa [List.append_assoc] at this
      exact (hlabels _ hmem).1
  rw [List.append_assoc] at hys
  change words q (late ++ .sent (some o) w f :: l) = _ at hys
  rw [hys] at hhead
  refine ⟨hd, ?_, hid⟩
  -- the first word of the stream is in the older part
  cases hwl : words q l with
  | nil => exact absurd hwl hne
  | cons x xs' =>
      rw [hwl] at hhead
      have hx : x = (.sendHeaders, .headers hd) := (List.cons.inj hhead).1
      exact mem_outbox.mpr ⟨some q, .sendHeaders, mem_words.mp (hwl ▸ hx ▸ List.mem_cons_self)⟩

/-- The last id of a server is that of HEADERS it has received. -/
def Net.Named (n : Net) : Prop :=
  (n.ends .server).lastId = 0 ∨
    ∃ f ∈ inbox (n.ends .server).log, f.headersId = some (n.ends .server).lastId

/-- HEADERS that arrive at a server on an id that it has used follow others on this id. -/
theorem Joined.again (hn : n.Named) {rest : List Frame} (hw : n.way .server = f :: rest)
    {id : StreamId} (hid : f.headersId = some id) (hle : id ≤ (n.ends .server).lastId) :
    ∃ g ∈ inbox (n.ends .server).log, g.headersId = some id := by
  have hclient : (n.ends .client).server = false := (h.side .client).trans s.client
  have ht := (h.clean .client).good.table
  have hgiven : ∀ o < (n.ends .client).created, ((n.ends .client).objs o).id = 2 * o + 1 :=
    (ht.given hclient).2
  obtain ⟨late, obj, w, l, hlog, hl, hlabel⟩ := h.written hw
  obtain ⟨o, rfl, ho, heq⟩ := Session.headers_sent hlabel hid
  have hido : id = 2 * o + 1 := heq.trans (hgiven o ho)
  rcases hn with h0 | ⟨last, hin, hlast⟩
  · rw [h0, hido] at hle
    exact absurd hle (Nat.not_succ_le_zero _)
  · rcases Nat.eq_or_lt_of_le hle with heq' | hlt
    · exact ⟨last, hin, heq' ▸ hlast⟩
    · -- a stream after this one has been requested
      obtain ⟨f', hout, hread⟩ := Lib.forall₂_right hl hin
      obtain ⟨obj', w', hsent⟩ := mem_outbox.mp hout
      obtain ⟨as, bs, hsplit⟩ := List.append_of_mem hsent
      have hlog' : (n.ends .client).log =
          (late ++ .sent (some o) w f :: as) ++ .sent obj' w' f' :: bs := by
        rw [List.append_assoc, List.cons_append, ← hsplit]
        exact hlog
      have hlabel' := (h.endpoint .client).books.labelled (.sent obj' w' f') (by
        show _ ∈ (n.ends .client).log
        rw [hlog']
        exact List.mem_append_right _ List.mem_cons_self)
      obtain ⟨o', rfl, ho', heq''⟩ := Session.headers_sent hlabel' (hread.headersId.trans hlast)
      have hlast' : (n.ends .server).lastId = 2 * o' + 1 := heq''.trans (hgiven o' ho')
      rw [hido, hlast'] at hlt
      have hoo : o < o' := Nat.lt_of_mul_lt_mul_left (Nat.lt_of_succ_lt_succ hlt)
      obtain ⟨g1, hg1, hid1⟩ := h.requested hlog' hoo ho'
      have hold : Frame.headers g1 ∈ outbox l := by
        rw [hsplit, outbox_append]
        exact List.mem_append_left _ (outbox_sent (some o') w' f' bs ▸ List.mem_append_left _ hg1)
      obtain ⟨g2, hg2, hread2⟩ := Lib.forall₂_left hl hold
      exact ⟨g2, hg2, hread2.headersId.symm.trans (congrArg some (hid1.trans hido.symm))⟩

/-- HEADERS of a server are on an id that the client has used. -/
theorem Joined.replied {rest : List Frame} (hw : n.way .client = f :: rest) {id : StreamId}
    (hid : f.headersId = some id) : id < (n.ends .client).nextStreamId := by
  have hserver : (n.ends .server).server = true := (h.side .server).trans s.server
  obtain ⟨late, obj, w, l, -, -, hlabel⟩ := h.written hw
  obtain ⟨o, -, ho, rfl⟩ := Session.headers_sent hlabel hid
  have hle := ((h.clean .server).good.table.heard hserver o ho).1
  exact Nat.lt_of_le_of_lt hle h.heard

/-- The settings of the peer and their answer are not fatal. -/
theorem Joined.fatal_settings {p : Party} {st : Settings} {rest : List Frame}
    (hw : n.way p = .settings st :: rest) (hl : Frame.Loads (.settings st)) :
    (n.ends p).fatal (.settings st) = none := by
  have hfail := Connection.failures_receive (n.ends p) (.settings st)
  have hsame : ((n.ends p).receive (.settings st)).failures = (n.ends p).failures := by
    rcases h.fits_same hw with ⟨rfl, hr⟩ | ⟨rfl, hr, hproc⟩
    · have hc := h.clean p
      obtain ⟨hpast, -⟩ := Connection.log_receiveSettings hc (s.ack p.peer) (s.push p.peer) hl.1
        ((h.endpoint p).unshifted hc hl hr)
      exact congrArg Past.failures hpast
    · have hs := @Connection.stays_receiveAck (n.ends p) .newAck rfl hr hproc
      exact hs.failures.resolve_right id
  rw [hsame] at hfail
  cases hf : (n.ends p).fatal (.settings st) with
  | none => rfl
  | some e =>
      rw [hf] at hfail
      exact absurd (congrArg List.length hfail) (by simp)

/-- The frame that arrives, as it is read, fails the connection for a few reasons only. -/
theorem Joined.blames (hn : n.Named) {p : Party} {rest : List Frame} (hw : n.way p = f :: rest)
    {g : Frame} (hr : f.ReadAs g) (hl : g.Loads) {e : ConnectionError}
    (he : (n.ends p).fatal g = some e) : (n.ends p).Blames g e := by
  have hserver : (n.ends .server).server = true := (h.side .server).trans s.server
  have hclient : (n.ends .client).server = false := (h.side .client).trans s.client
  by_cases hset : ∃ st, g = .settings st
  · obtain ⟨st, rfl⟩ := hset
    refine absurd he ?_
    rw [h.fatal_settings (hr.settings ▸ hw) hl]
    exact Option.some_ne_none e ∘ Eq.symm
  · have hstart : (n.ends p).remoteSettings = true := h.started hw fun heq => by
      rw [heq] at hr
      cases hr
      exact hset ⟨_, rfl⟩
    unfold Connection.fatal at he
    dsimp only at he
    rw [if_pos (Connection.checkFirstFrame_of
      (c := (n.ends p).push (.received (g.streamId.bind (n.ends p).query) g)) hstart)] at he
    have hfit := h.fits hw hr
    cases g with
    | headers g =>
        refine (Connection.fatal_recvHeaders hfit.2 (fun hs => ?_) he).elim ?_ ?_
        · cases p with
          | client => exact h.replied hw hr.headersId
          | server => exact Bool.noConfusion (hserver.symm.trans hs)
        · rintro rfl
          exact .request
        · rintro ⟨hs, hle, hq, hpend, rfl⟩
          cases p with
          | client => exact Bool.noConfusion (hclient.symm.trans hs)
          | server =>
              obtain ⟨x, hin, hid⟩ := h.again hn hw hr.headersId hle
              exact .trailers hs hq hpend hin hid
    | data d =>
        obtain ⟨-, hodd, hu, hwin⟩ := hfit
        refine absurd he ?_
        have hlen : d.flowLen < 2 ^ 31 := Nat.lt_trans hl.2.2.2 (by norm_num)
        have hnone := Connection.fatal_recvData
          (c := (n.ends p).push (.received ((n.ends p).query d.streamId) (.data d))) hwin hlen
          (Connection.isUsedId_of (c := n.ends p) hodd hu)
        exact fun he => Option.some_ne_none e (he.symm.trans hnone)
    | settings st => exact absurd ⟨st, rfl⟩ hset
    | windowUpdate id m =>
        obtain ⟨-, hu, hwin⟩ := hfit
        have hw' : n.way p = .windowUpdate id m :: rest := hr.eq nofun ▸ hw
        obtain ⟨rfl, rfl, rfl⟩ := Connection.fatal_recvWindowUpdate
          (c := (n.ends p).push (.received ((n.ends p).query id) (.windowUpdate id m))) hl.2
          (h.clean p).good.sends.conLow hwin (fun h0 => Connection.isUsedId_of (c := n.ends p)
            (h.used hw' (f := .windowUpdate id m) trivial rfl h0).1 (hu h0)) he
        exact .zero
    | reset id r =>
        by_cases h0 : id = 0
        · subst h0
          cases he
          exact .resetZero
        · obtain rfl := Connection.fatal_recvRstStream h0 he
          exact .reset h0
    | invalid g =>
        obtain ⟨-, hodd, hkind⟩ := hfit
        refine (Connection.fatal_recvInvalidFrame hkind hodd he).elim ?_ ?_
        · rintro rfl
          exact .malformed
        · rintro ⟨hs, hle, hq, rfl⟩
          cases p with
          | client => exact Bool.noConfusion (hclient.symm.trans hs)
          | server =>
              obtain ⟨x, hin, hid⟩ :=
                h.again hn hw (hr.headersId.trans (if_pos hkind)) hle
              exact .malformedTrailers hs hq hin hid
    | ping ack payload => cases he
    | goAway last r data => cases he
    | priority id => cases he

end

namespace Net

variable {s : Setup} {n : Net}

theorem Reachable.named (h : Reachable s n) : n.Named := by
  induction h with
  | new => exact .inl rfl
  | @move n m hr hm ih =>
      have hj := hr.joined
      have hstep : ∀ (q : Party) (a : Connection.Step) (way : Party → List Frame),
          (q = .server → ((n.ends .server).step a).lastId = (n.ends .server).lastId ∧
              inbox (n.ends .server).log ⊆ inbox ((n.ends .server).step a).log ∨
            ∃ f ∈ inbox ((n.ends .server).step a).log,
              f.headersId = some ((n.ends .server).step a).lastId) →
          (({ n with way := way } : Net).advance q a).Named := by
        intro q a way hserver
        unfold Named
        cases q with
        | client => exact ih
        | server =>
            rw [advance_ends]
            rcases hserver rfl with ⟨hlast, hin⟩ | hnew
            · rcases ih with h0 | ⟨f, hf, hid⟩
              · exact .inl (hlast.trans h0)
              · exact .inr ⟨f, hin hf, hlast.symm ▸ hid⟩
            · exact .inr hnew
      cases m with
      | act q a =>
          refine hstep q a n.way fun hq => ?_
          subst hq
          obtain ⟨-, hin, hlast⟩ := (hj.endpoint .server).local_step (hj.clean .server)
            (hj.windowSz .server) hm.2 hm.1
          exact .inl ⟨hlast, fun f hf => hin ▸ hf⟩
      | deliver q g =>
          obtain ⟨⟨f, hf, hr⟩, hg⟩ := hm
          obtain ⟨rest, hw, -⟩ := hj.head hf
          refine hstep q (.receive g) _ fun hq => ?_
          subst hq
          have hears := (hj.endpoint .server).receive (hj.clean .server) (hj.windowSz .server)
            (s.ack _) (s.push _) hg (hj.fits hw hr)
          have hin : inbox ((n.ends .server).step (.receive g)).log = _ := hears.inbox
          rw [hin]
          rcases hears.lastId with heq | hid
          · exact .inl ⟨heq, List.subset_append_left _ _⟩
          · exact .inr ⟨g, List.mem_append_right _ List.mem_cons_self, hid⟩

/-- Why an end may fail: its own dispatcher is stopped, or a frame arrives that is to blame, as the
codec reads it. -/
def Explained (s : Setup) (p : Party) (e : ConnectionError) : Prop :=
  (∃ (c : Connection) (x : Connection.Stop), c.stopError x = .connection e) ∨
    ∃ n g, Reachable s n ∧ (∃ f ∈ (n.arriving p).head?, f.ReadAs g) ∧ (n.ends p).Blames g e

/-- Every failure of two ends that are joined is explained: apart from a stop of its own dispatcher
an end fails by one reset of streams too many, by WINDOW_UPDATE of zero on the connection, by
RST_STREAM on stream 0, or, at a server, by HEADERS that are not the first on the id of a stream
that has been let go, and that the codec rejects or the server does not remember as reset. -/
theorem failures (h : Reachable s n) (p : Party) {e : ConnectionError}
    (he : .failed e ∈ (n.ends p).log) : Explained s p e := by
  have hmem : .failed e ∈ (n.ends p).failures := List.mem_filter.mpr ⟨he, rfl⟩
  clear he
  induction h with
  | new =>
      obtain ⟨-, -, hlog⟩ := Connection.new_window (s.start p).server (s.start p).config
        (s.start p).secure (s.start p).skipStreams
      change (s.start p).init.log = _ ∨ ∃ n, (s.start p).init.log = _ at hlog
      have hin : .failed e ∈ (s.start p).init.log := (List.mem_filter.mp hmem).1
      rcases hlog with hlog | ⟨m, hlog⟩
      · rw [hlog] at hin
        cases List.mem_singleton.mp hin
      · rw [hlog] at hin
        rcases List.mem_cons.mp hin with heq | hin
        · cases heq
        · cases List.mem_singleton.mp hin
  | @move n m hr hm ih =>
      cases m with
      | act q a =>
          unfold Net.move at hmem
          dsimp only at hmem
          rcases Party.eq_or_peer q p with rfl | rfl
          · rw [advance_ends] at hmem
            rcases Connection.failures_local (c := n.ends p) hm.1 with
              heq | ⟨x, e', rfl, hx, heq⟩
            · exact ih (heq ▸ hmem)
            · rw [heq] at hmem
              rcases List.mem_cons.mp hmem with he' | hold
              · cases he'
                exact .inl ⟨_, x, hx⟩
              · exact ih hold
          · rw [advance_ends_peer] at hmem
            exact ih hmem
      | deliver q g =>
          obtain ⟨hnext, hg⟩ := id hm
          obtain ⟨f, hf, hread⟩ := id hnext
          obtain ⟨rest, hw, -⟩ := hr.joined.head hf
          unfold Net.move at hmem
          dsimp only at hmem
          rcases Party.eq_or_peer q p with rfl | rfl
          · rw [advance_ends] at hmem
            change _ ∈ ((n.ends p).receive g).failures at hmem
            rw [Connection.failures_receive] at hmem
            rcases List.mem_append.mp hmem with hnew | hold
            · cases hfatal : (n.ends p).fatal g with
              | none =>
                  rw [hfatal] at hnew
                  cases hnew
              | some e' =>
                  rw [hfatal] at hnew
                  cases List.mem_singleton.mp hnew
                  exact .inr ⟨n, g, hr, hnext,
                    hr.joined.blames hr.named hw hread hg hfatal⟩
            · exact ih hold
          · rw [advance_ends_peer] at hmem
            exact ih hmem

/-- A client and a server as they come. -/
def pairStart : Party → Connection.Start
  | .client => Connection.clientStart
  | .server => ⟨true, ServiceConfig.new, false, false⟩

def pair : Setup where
  start := pairStart
  client := rfl
  server := rfl
  windowSz := fun p => by cases p <;> decide
  noPush := fun p => by cases p <;> rfl

/-- Trailers of 97 fields: a codec takes 96. -/
def longTrailers : HeaderMap := List.replicate 97 ([120], [49])

/-- A request whose trailers arrive when the server has reset the stream, and remembers it; they
have too many fields for its codec. -/
def lateTrailers : List Move :=
  [.act .client (.request (some Connection.someRequest)),
    .act .client (.sendTrailers 0 longTrailers),
    .deliver .server (.settings (pair.settings .client)),
    .deliver .server (.windowUpdate 0 4128769),
    .deliver .server (.headers ⟨1, (pairStart .client).init.requestPseudo Connection.someRequest,
      [], false⟩),
    .act .server (.reset 0 .cancel),
    .deliver .server (.invalid ⟨.headers, 1, .tooManyHeaders 1⟩)]

theorem late_reachable : Reachable pair ((Net.new pair).after lateTrailers) := by
  refine (Reachable.new (s := pair)).after lateTrailers ?_
  refine ⟨⟨trivial, rfl⟩, ⟨trivial, ?_⟩, possible_same (by decide +kernel) ⟨nofun, nofun⟩,
    possible_same (by decide +kernel) ⟨by decide, by decide⟩,
    possible_same (by decide +kernel) (show (1 : Nat) < 2 ^ 31 by decide), ⟨trivial, ?_⟩,
    ⟨⟨.headers ⟨1, .empty, longTrailers, true⟩, by decide +kernel, .rejected _ (.inr rfl)⟩,
      show (1 : Nat) < 2 ^ 31 by decide⟩, trivial⟩
  · show 0 < _
    decide
  · show 0 < _
    decide

theorem failures_late : ∃ n, Reachable pair n ∧
    (n.ends .server).localPendingReset.isPending 1 = true ∧ Explained pair .server
      (.invalidStreamId "Invalid id in received headers frame (stream closed or ID reused)") :=
  ⟨_, late_reachable, by decide +kernel, failures late_reachable .server (by decide +kernel)⟩

end Net

end NtexH2
