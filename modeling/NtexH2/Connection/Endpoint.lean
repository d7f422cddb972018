/-
  Connection/Endpoint.lean --- one end of two connections that are joined.

  What a connection knows of its peer is in the frames it has received.  The books
  of its windows, the streams that its frames are for, and the exchange of the
  settings are kept by every step, as long as a frame that arrives fits: it is one
  that the peer may send at this point.
-/
import NtexH2.Connection.Mail
import NtexH2.Session.Grants
import NtexH2.Connection.FlowControl

set_option autoImplicit false

namespace NtexH2

/-! ## Runs of a session -/

namespace Session

variable {G : Guard} {k k' : Session}

theorem Steps.passes (hs : Steps G k k') (hg : k.Good) : Passes k k' := by
  induction hs with
  | refl => exact .refl k
  | tail hsteps hstep ih => exact ih.trans (hstep.passes (hg.steps hsteps).table)

theorem Steps.grants (hs : Steps G k k') (hg : k.Good) (hsz : k.config.windowSz ≤ 2 ^ 30)
    (h : k.Grants) : k'.Grants ∧ k'.config = k.config := by
  induction hs with
  | refl => exact ⟨h, rfl⟩
  | tail hsteps hstep ih =>
      have hg1 := hg.steps hsteps
      obtain ⟨h1, hcfg⟩ := ih
      refine ⟨h1.step hg1.table hg1.credit ?_ hstep, (hstep.config_eq hg1.table).trans hcfg⟩
      rw [hcfg]
      exact hsz

/-! ## Books -/

/-- The windows of the connection and of the streams are what the history leaves of them, and the
frames of the history name their streams. -/
structure Books (k : Session) : Prop where
  labelled : ∀ e ∈ k.log, e.Labelled k
  attributed : ∀ obj f, .received obj f ∈ k.log → Attributed k obj f
  conRecv : k.recvWindow + total Event.gotData k.log =
    defaultInitialWindowSize + total Event.conGrant k.log
  conSend : k.sendWindow + total Event.sentData k.log =
    defaultInitialWindowSize + total Event.conCredit k.log
  grants : k.Grants

/-- New events keep the books, unless the session fails on payload or on credit. -/
theorem Books.passes (h : k.Books) (hp : Passes k k') (ht : k.Table) (ht' : k'.Table)
    (hgr : k'.Grants)
    (hnew : ∀ obj f, .received obj f ∈ k'.log → .received obj f ∈ k.log ∨ Attributed k obj f)
    (hf : ∀ evs, k'.log = evs ++ k.log → Followed evs) : k'.Books := by
  obtain ⟨evs, hlog, hlabel, hmoves⟩ := hp.log
  obtain ⟨hrecv, hsend⟩ := hmoves (hf evs hlog)
  refine ⟨?_, ?_, ?_, ?_, hgr⟩
  · intro e he
    rw [hlog] at he
    rcases List.mem_append.mp he with he | he
    · exact hlabel e he
    · exact labelled_mono (h.labelled e he) hp.created hp.ids
  · intro obj f he
    rcases hnew obj f he with hold | hat
    · exact (h.attributed obj f hold).mono hp ht ht'
    · exact hat.mono hp ht ht'
  · have := h.conRecv
    rw [hlog, total_append, total_append]
    omega
  · have := h.conSend
    rw [hlog, total_append, total_append]
    omega

end Session

/-! ## New events -/

theorem filter_append_cancel {p : Event → Bool} {es l new : List Event}
    (h : (es ++ l).filter p = new ++ l.filter p) : es.filter p = new := by
  rw [List.filter_append] at h
  exact List.append_cancel_right h

theorem inbox_kept (es : List Event) : inbox (es.filter Event.kept) = inbox es := by
  induction es with
  | nil => rfl
  | cons e es ih =>
      have hsplit := inbox_append [e] es
      rw [List.singleton_append] at hsplit
      cases hk : e.kept with
      | true =>
          have hsplit' := inbox_append [e] (es.filter Event.kept)
          rw [List.singleton_append] at hsplit'
          rw [List.filter_cons_of_pos hk, hsplit, hsplit', ih]
      | false =>
          have hnil : inbox [e] = [] := by
            unfold inbox
            rw [List.filterMap_cons_none (Event.incoming_kept hk)]
            rfl
          rw [List.filter_cons_of_neg (by rw [hk]; exact Bool.false_ne_true), ih, hsplit, hnil,
            List.append_nil]

/-- SETTINGS frames are kept. -/
theorem settings_kept {es : List Event} {s : Settings} (h : .settings s ∈ outbox es) :
    .settings s ∈ outbox (es.filter Event.kept) := by
  obtain ⟨obj, w, he⟩ := mem_outbox.mp h
  exact mem_outbox.mpr ⟨obj, w, List.mem_filter.mpr ⟨he, rfl⟩⟩

theorem count_settings_kept (s : Settings) (es : List Event) :
    (outbox (es.filter Event.kept)).count (.settings s) = (outbox es).count (.settings s) := by
  induction es with
  | nil => rfl
  | cons e es ih =>
      have hsplit := outbox_append [e] es
      rw [List.singleton_append] at hsplit
      cases hk : e.kept with
      | true =>
          have hsplit' := outbox_append [e] (es.filter Event.kept)
          rw [List.singleton_append] at hsplit'
          rw [List.filter_cons_of_pos hk, hsplit, hsplit', List.count_append, List.count_append, ih]
      | false =>
          have hzero : (outbox [e]).count (.settings s) = 0 := by
            refine List.count_eq_zero.mpr fun hm => ?_
            obtain ⟨obj, w, he⟩ := mem_outbox.mp hm
            rw [← List.mem_singleton.mp he] at hk
            cases hk
          rw [List.filter_cons_of_neg (by rw [hk]; exact Bool.false_ne_true), ih, hsplit,
            List.count_append, hzero, Nat.add_zero]

/-! ## The exchange of the settings -/

/-- The initial window of the peer counts from the ack of its settings. -/
def Answered (peer : Settings) (l : List Event) : Prop :=
  initWindow l = if .settings .newAck ∈ outbox l then
    peer.initialWindowSize.getD defaultInitialWindowSize else defaultInitialWindowSize

/-- Now, and whenever DATA was written. -/
structure Prompt (peer : Settings) (l : List Event) : Prop where
  now : Answered peer l
  data : ∀ obj w d l', .sent obj w (.data d) :: l' <:+ l → Answered peer l'

/-- Events that are no part of the exchange. -/
def Event.Aside : Event → Prop
  | .received _ (.settings s) => s.ack = true
  | .sent _ _ (.settings _) => False
  | _ => True

section

variable {peer : Settings} {l : List Event}

theorem initWindow_aside {e : Event} (he : e.Aside) : initWindow (e :: l) = initWindow l := by
  cases e with
  | received obj f =>
      cases f with
      | settings s => exact if_pos he
      | _ => rfl
  | _ => rfl

theorem outbox_aside {e : Event} (he : e.Aside) {s : Settings} :
    .settings s ∈ outbox (e :: l) ↔ .settings s ∈ outbox l := by
  rw [mem_outbox, mem_outbox]
  constructor
  · rintro ⟨obj, w, hm⟩
    rcases List.mem_cons.mp hm with rfl | hm
    · exact False.elim he
    · exact ⟨obj, w, hm⟩
  · rintro ⟨obj, w, hm⟩
    exact ⟨obj, w, List.mem_cons_of_mem e hm⟩

theorem Answered.aside (h : Answered peer l) {e : Event} (he : e.Aside) :
    Answered peer (e :: l) := by
  unfold Answered
  rw [initWindow_aside he, if_congr (outbox_aside he) rfl rfl]
  exact h

theorem Prompt.aside (h : Prompt peer l) {e : Event} (he : e.Aside) : Prompt peer (e :: l) := by
  refine ⟨h.now.aside he, fun obj w d l' hs => ?_⟩
  rcases List.suffix_cons_iff.mp hs with heq | hs
  · cases heq
    exact h.now
  · exact h.data obj w d l' hs

theorem Prompt.asides {es : List Event} (h : Prompt peer l) (hes : ∀ e ∈ es, e.Aside) :
    Prompt peer (es ++ l) := by
  induction es with
  | nil => exact h
  | cons e es ih =>
      exact (ih fun e' he => hes e' (List.mem_cons_of_mem e he)).aside (hes e List.mem_cons_self)

/-- The settings of the peer are answered at once. -/
theorem Prompt.answer (h : Prompt peer l) (hack : peer.ack = false)
    (hnone : .settings .newAck ∉ outbox l) :
    Prompt peer (.sent none .connection (.settings .newAck) ::
      .received none (.settings peer) :: l) := by
  have hdefault : initWindow l = defaultInitialWindowSize := by
    have hnow := h.now
    unfold Answered at hnow
    rw [if_neg hnone] at hnow
    exact hnow
  constructor
  · unfold Answered
    rw [if_pos]
    · show (if peer.ack then initWindow l else peer.initialWindowSize.getD (initWindow l)) = _
      rw [hack, hdefault]
      rfl
    · exact mem_outbox.mpr ⟨none, .connection, List.mem_cons_self⟩
  · intro obj w d l' hs
    rcases List.suffix_cons_iff.mp hs with heq | hs
    · cases heq
    · rcases List.suffix_cons_iff.mp hs with heq | hs
      · cases heq
      · exact h.data obj w d l' hs

end

namespace Connection

/-- The settings that a connection has sent, answered and seen answered. -/
structure Exchange (peer : Settings) (c : Connection) : Prop where
  opening : ∃ rest, outbox c.log = .settings c.config.settings :: rest ∧
    ∀ s, .settings s ∈ rest → s = .newAck
  started : inbox c.log = [] ↔ c.remoteSettings = false
  answers : (outbox c.log).count (.settings .newAck) = if c.remoteSettings then 1 else 0
  processed : c.settingsProcessed = true ↔ .settings .newAck ∈ inbox c.log
  prompt : Prompt peer c.log

/-- The receive half of a stream that is held closes alone only by a frame that ends it. -/
def Ended (c : Connection) : Prop :=
  ∀ o ∈ c.values, (c.objs o).recv.isClosed = true →
    ∃ f ∈ inbox c.log, f.endsStream = true ∧ f.streamId = some (c.objs o).id

/-- A server has used the ids of the HEADERS it has received, also of those that were invalid. -/
def Greeted (c : Connection) : Prop :=
  c.server = true → ∀ f ∈ inbox c.log, ∀ id, f.headersId = some id → id ≤ c.lastId

/-- The invariant of one end; `peer` are the settings of the other one. -/
structure Endpoint (peer : Settings) (c : Connection) : Prop where
  books : c.session.Books
  exchange : Exchange peer c
  ended : Ended c
  greeted : Greeted c

/-- What a step adds: `new` are the frames that are received, and the SETTINGS that are sent. -/
structure Records (c c' : Connection) (new : List Event) : Prop where
  passes : Session.Passes c.session c'.session
  config : c'.config = c.config
  log : ∃ es, c'.log = es ++ c.log ∧ es.filter Event.kept = new

section

variable {peer : Settings} {c c' : Connection} {new : List Event}

theorem Records.filter (h : Records c c' new) {es : List Event} (hlog : c'.log = es ++ c.log) :
    es.filter Event.kept = new := by
  obtain ⟨es', hlog', hnew⟩ := h.log
  rw [hlog'] at hlog
  rw [← List.append_cancel_right hlog, hnew]

theorem Records.inbox (h : Records c c' new) :
    inbox c'.log = NtexH2.inbox c.log ++ NtexH2.inbox new := by
  obtain ⟨es, hlog, hnew⟩ := h.log
  rw [hlog, inbox_append, ← inbox_kept es, hnew]

theorem Records.received (h : Records c c' new) {obj : Option Obj} {f : Frame}
    (he : .received obj f ∈ c'.log) : .received obj f ∈ c.log ∨ .received obj f ∈ new := by
  obtain ⟨es, hlog, hnew⟩ := h.log
  rw [hlog] at he
  rcases List.mem_append.mp he with he | he
  · rw [← hnew]
    exact .inr (List.mem_filter.mpr ⟨he, rfl⟩)
  · exact .inl he

theorem Records.count (h : Records c c' new) (s : Settings) :
    (outbox c'.log).count (.settings s) =
      (outbox c.log).count (.settings s) + (outbox new).count (.settings s) := by
  obtain ⟨es, hlog, hnew⟩ := h.log
  rw [hlog, outbox_append, List.count_append, ← count_settings_kept s es, hnew]

/-- The first frame stays, and only acks follow. -/
theorem Records.opening (h : Records c c' new)
    (hnew : ∀ s, .settings s ∈ outbox new → s = .newAck)
    (hc : ∃ rest, outbox c.log = .settings c.config.settings :: rest ∧
      ∀ s, .settings s ∈ rest → s = .newAck) :
    ∃ rest, outbox c'.log = .settings c'.config.settings :: rest ∧
      ∀ s, .settings s ∈ rest → s = .newAck := by
  obtain ⟨es, hlog, hes⟩ := h.log
  obtain ⟨rest, hrest, hacks⟩ := hc
  refine ⟨rest ++ outbox es, ?_, ?_⟩
  · rw [hlog, outbox_append, hrest, h.config]
    rfl
  · intro s hs
    rcases List.mem_append.mp hs with hs | hs
    · exact hacks s hs
    · exact hnew s (hes ▸ settings_kept hs)

/-- Events that are not kept are no part of the exchange. -/
theorem Records.asides (h : Records c c' new) (hnew : ∀ e ∈ new, e.Aside) (hp : Prompt peer c.log) :
    Prompt peer c'.log := by
  obtain ⟨es, hlog, hes⟩ := h.log
  rw [hlog]
  refine hp.asides fun e he => ?_
  cases hk : e.kept with
  | true => exact hnew e (hes ▸ List.mem_filter.mpr ⟨he, hk⟩)
  | false =>
      cases e with
      | received obj f => cases hk
      | sent obj w f =>
          cases f with
          | settings s => cases hk
          | _ => trivial
      | _ => trivial

/-- A step that is no part of the exchange. -/
theorem Exchange.aside (h : Exchange peer c) (ht : Records c c' new)
    (hr : c'.remoteSettings = c.remoteSettings) (hp : c'.settingsProcessed = c.settingsProcessed)
    (hnew : ∀ e ∈ new, e.Aside) (hsent : ∀ s, .settings s ∉ outbox new)
    (hack : .settings .newAck ∉ NtexH2.inbox new)
    (hfirst : NtexH2.inbox new = [] ∨ c.remoteSettings = true) : Exchange peer c' where
  opening := ht.opening (fun s hs => absurd hs (hsent s)) h.opening
  started := by
    rw [ht.inbox, hr]
    rcases hfirst with hnil | hrem
    · rw [hnil, List.append_nil]
      exact h.started
    · have hne : NtexH2.inbox c.log ≠ [] := fun hnil => by
        have := h.started.mp hnil
        rw [hrem] at this
        cases this
      constructor
      · exact fun hnil => absurd (List.append_eq_nil_iff.mp hnil).1 hne
      · intro hfalse
        rw [hrem] at hfalse
        cases hfalse
  answers := by
    rw [ht.count, List.count_eq_zero.mpr (hsent _), Nat.add_zero, hr]
    exact h.answers
  processed := by
    rw [hp, ht.inbox, List.mem_append]
    exact h.processed.trans ⟨.inl, fun hor => hor.resolve_right hack⟩
  prompt := ht.asides hnew h.prompt

/-- The receive halves within a scope. -/
theorem Ended.stays (h : Ended c) {s : Scope} {k : Past} (hs : Past.Stays s k c'.past)
    (hcr : k.created = c.created) (hrecv : k.recvClosed = c.past.recvClosed)
    (hp : Session.Passes c.session c'.session) (ht' : c'.session.Table)
    (hin : ∀ f ∈ inbox c.log, f ∈ inbox c'.log)
    (hends : ∀ o < c'.created, s.ends o →
      ∃ f ∈ inbox c'.log, f.endsStream = true ∧ f.streamId = some (c'.objs o).id) :
    Ended c' := by
  intro o ho hcl
  have hlt : o < c'.created := ht'.bound o ho
  rcases hs.recv o hlt hcl with ⟨hold, hcl'⟩ | hsend | hend
  · rw [hcr] at hold
    rw [hrecv] at hcl'
    have hmem : o ∈ c.values := by
      rcases hp.values o ho with hmem | hnew
      · exact hmem
      · exact absurd hold (Nat.not_lt_of_le hnew)
    obtain ⟨f, hf, hfe, hfid⟩ := h o hmem hcl'
    have hid : (c'.objs o).id = (c.objs o).id := hp.ids o hold
    exact ⟨f, hin f hf, hfe, hid ▸ hfid⟩
  · have hdone : (c'.session.cells o).Done :=
      ⟨HalfState.half_closed.mpr hcl, HalfState.half_closed.mpr hsend⟩
    exact absurd hdone ((ht'.live o hlt).mp ho)
  · exact hends o hlt hend

/-- A frame that is received. -/
theorem Greeted.hear (h : Greeted c) (hp : Session.Passes c.session c'.session) {f : Frame}
    (hin : NtexH2.inbox c'.log = NtexH2.inbox c.log ++ [f])
    (hf : ∀ id, f.headersId = some id → c.server = true → id ≤ c'.lastId) : Greeted c' := by
  intro hs g hg id hid
  have hs' : c.server = true := hp.server.symm.trans hs
  rw [hin] at hg
  rcases List.mem_append.mp hg with hg | hg
  · exact Nat.le_trans (h hs' g hg id hid) hp.lastId
  · rw [List.mem_singleton.mp hg] at hid
    exact hf id hid hs'

/-! ## A step -/

theorem Records.of_past (hp : Session.Passes c.session c'.session) (hcfg : c'.config = c.config)
    (hk : c'.past.kept = new ++ c.past.kept) : Records c c' new := by
  obtain ⟨es, hlog, -⟩ := hp.log
  have hlog' : c'.log = es ++ c.log := hlog
  refine ⟨hp, hcfg, es, hlog', ?_⟩
  have hk' : c'.log.filter Event.kept = new ++ c.log.filter Event.kept := hk
  rw [hlog'] at hk'
  exact filter_append_cancel hk'

/-- What a step keeps of the session. -/
theorem Clean.advance (hc : c.Clean) (hgr : c.session.Grants) (hsz : c.config.windowSz ≤ 2 ^ 30)
    {a : Step} (ha : c.Enabled a) :
    (c.step a).Clean ∧ Session.Passes c.session (c.step a).session ∧
      (c.step a).session.Grants ∧ (c.step a).config = c.config := by
  have hrun : Runs anyRun c (c.step a) := runs_step ha (finds_anyRun c a)
  have hsteps := (hrun hc).2
  obtain ⟨h1, h2⟩ := hsteps.grants hc.good hsz hgr
  exact ⟨hrun.clean hc, hsteps.passes hc.good, h1, h2⟩

theorem still_of_unkept {e : Event} (h : e.kept = false) : e.gotData = 0 ∧ e.conCredit = 0 := by
  cases e with
  | received obj f => cases h
  | _ => exact ⟨rfl, rfl⟩

/-- A step that is not the receipt of a frame. -/
theorem Endpoint.local_step (h : Endpoint peer c) (hc : c.Clean)
    (hsz : c.config.windowSz ≤ 2 ^ 30) {a : Step} (ha : c.Enabled a) (hl : Local a) :
    Endpoint peer (c.step a) ∧ inbox (c.step a).log = inbox c.log ∧
      (c.step a).lastId = c.lastId := by
  obtain ⟨hc', hp, hgr, hcfg⟩ := hc.advance h.books.grants hsz ha
  have hs : Stays atWill c (c.step a) := stays_local hl
  have hrec : Records c (c.step a) [] := .of_past hp hcfg hs.kept
  have hin : inbox (c.step a).log = inbox c.log := hrec.inbox.trans (List.append_nil _)
  refine ⟨⟨?_, ?_, ?_, ?_⟩, hin, hs.lastId⟩
  · refine h.books.passes hp hc.good.table hc'.good.table hgr (fun obj f he => ?_) ?_
    · exact (hrec.received he).imp_right fun hn => absurd hn List.not_mem_nil
    · intro es hlog
      refine .inr fun e he => still_of_unkept ?_
      have hnil : es.filter Event.kept = [] := hrec.filter hlog
      exact Bool.eq_false_iff.mpr (List.filter_eq_nil_iff.mp hnil e he)
  · exact h.exchange.aside hrec hs.remoteSettings hs.settingsProcessed
      (fun e he => absurd he List.not_mem_nil) (fun s hm => absurd hm List.not_mem_nil)
      List.not_mem_nil (.inl rfl)
  · exact h.ended.stays hs rfl rfl hp hc'.good.table (fun f hf => hin ▸ hf)
      fun o _ ho => False.elim ho
  · intro hserver g hg id hid
    rw [hin] at hg
    exact Nat.le_trans (h.greeted (hp.server.symm.trans hserver) g hg id hid) hp.lastId

/-! ## The receipt of a frame -/

theorem attributed_receive (ht : c.session.Table) {f : Frame}
    (hu : f.Weighs → ∀ id, f.streamId = some id → id ≠ 0 → c.session.Used id) :
    Session.Attributed c.session (f.streamId.bind c.query) f where
  named := by
    intro o ho
    obtain ⟨id, hid, hq⟩ := Option.bind_eq_some_iff.mp ho
    obtain ⟨hm, heq⟩ := query_mem ht hq
    exact ⟨ht.bound o hm, hid.trans (congrArg some heq.symm)⟩
  found := by
    intro _ o ho hid
    rw [hid]
    exact query_id ht ho
  used := hu

/-- The session and the halves after a frame; a frame that changes a window of the connection is
not an error of the connection. -/
theorem Endpoint.heard (h : Endpoint peer c) (hc : c.Clean) (hsz : c.config.windowSz ≤ 2 ^ 30)
    {f : Frame} {fails : Prop} {k : Past} (new : List Event) (hf : f.Loads)
    (hs : Past.Stays (c.hearing f fails) k (c.receive f).past)
    (hcr : k.created = c.created) (hrecv : k.recvClosed = c.past.recvClosed)
    (hfail : k.failures = c.past.failures) (hk : k.kept = new ++ c.past.kept)
    (hnew : NtexH2.inbox new = [f])
    (hobj : ∀ obj g, .received obj g ∈ new → obj = f.streamId.bind c.query)
    (hu : f.Weighs → ∀ id, f.streamId = some id → id ≠ 0 → c.session.Used id)
    (hw : fails → f.payload = 0 ∧ f.increment 0 = 0) :
    (c.receive f).Clean ∧ (c.receive f).session.Books ∧ Ended (c.receive f) ∧
      Records c (c.receive f) new := by
  obtain ⟨hc', hp, hgr, hcfg⟩ := hc.advance h.books.grants hsz (a := .receive f) hf
  change (c.receive f).Clean at hc'
  change Session.Passes c.session (c.receive f).session at hp
  change (c.receive f).session.Grants at hgr
  change (c.receive f).config = c.config at hcfg
  have hrec : Records c (c.receive f) new := .of_past hp hcfg (hs.kept.trans hk)
  have hframe : ∀ {obj g}, .received obj g ∈ new → g = f := fun hm =>
    List.mem_singleton.mp (hnew ▸ mem_inbox.mpr ⟨_, hm⟩)
  have hin : inbox (c.receive f).log = inbox c.log ++ [f] := by rw [hrec.inbox, hnew]
  refine ⟨hc', ?_, ?_, hrec⟩
  · refine h.books.passes hp hc.good.table hc'.good.table hgr (fun obj g he => ?_) ?_
    · refine (hrec.received he).imp_right fun hm => ?_
      rw [hobj obj g hm, hframe hm]
      exact attributed_receive hc.good.table hu
    · intro es hlog
      have hes := hrec.filter hlog
      rcases hs.failures with heq | hfails
      · left
        have hnil : es.filter Event.failure = [] := by
          have hlog' : (c.receive f).log = es ++ c.log := hlog
          refine filter_append_cancel (l := c.log) ?_
          rw [← hlog']
          exact heq.trans hfail
        exact fun e he => Bool.eq_false_iff.mpr (List.filter_eq_nil_iff.mp hnil e he)
      · right
        intro e he
        cases hkept : e.kept with
        | false => exact still_of_unkept hkept
        | true =>
            have hm : e ∈ new := hes ▸ List.mem_filter.mpr ⟨he, hkept⟩
            cases e with
            | received obj g =>
                obtain ⟨h1, h2⟩ := hw hfails
                rw [hframe hm]
                cases f with
                | data d => exact ⟨h1, rfl⟩
                | windowUpdate id n => exact ⟨rfl, h2⟩
                | _ => exact ⟨rfl, rfl⟩
            | _ => exact ⟨rfl, rfl⟩
  · refine h.ended.stays hs hcr hrecv hp hc'.good.table (fun g hg => ?_) fun o ho hend => ?_
    · rw [hin]
      exact List.mem_append_left _ hg
    · obtain ⟨hfe, id, hfid, hreach⟩ := hend
      refine ⟨f, ?_, hfe, ?_⟩
      · rw [hin]
        exact List.mem_append_right _ List.mem_cons_self
      · rcases hreach with hq | ⟨-, hcreated⟩
        · -- the stream that the map has
          obtain ⟨hm, hid⟩ := query_mem hc.good.table hq
          have hsame : ((c.receive f).objs o).id = (c.objs o).id :=
            hp.ids o (hc.good.table.bound o hm)
          rw [hsame, hid]
          exact hfid
        · -- a new stream
          rcases hs.ids o ho with ⟨hlt, -⟩ | hopen | hacc
          · rw [hcr, hcreated] at hlt
            exact absurd hlt (Nat.lt_irrefl _)
          · exact False.elim hopen
          · exact hacc

/-- A frame that the peer may send now. -/
def Fits (peer : Settings) (c : Connection) : Frame → Prop
  | .settings s => s = peer ∧ c.remoteSettings = false ∨
      s = .newAck ∧ c.remoteSettings = true ∧ c.settingsProcessed = false
  | .data d => c.remoteSettings = true ∧ d.streamId % 2 = 1 ∧ c.session.Used d.streamId ∧
      (d.flowLen : Int) ≤ c.recvWindow.size
  | .windowUpdate id n => c.remoteSettings = true ∧ (id ≠ 0 → c.session.Used id) ∧
      (id = 0 → c.sendWindow.size + n < 2 ^ 31)
  | .headers h => c.remoteSettings = true ∧ h.streamId % 2 = 1
  | .invalid f => c.remoteSettings = true ∧ f.streamId % 2 = 1 ∧ f.kind = .headers
  | _ => c.remoteSettings = true

/-- What the receipt of a frame does to the marks of the other side. -/
structure Hears (peer : Settings) (c c' : Connection) (f : Frame) : Prop where
  endpoint : Endpoint peer c'
  inbox : inbox c'.log = NtexH2.inbox c.log ++ [f]
  lastId : c'.lastId = c.lastId ∨ f.headersId = some c'.lastId

/-- The settings of the peer, when no window of a stream overflows. -/
theorem recvPeerSettings_ok (hc : c.Clean) {st : Settings}
    (hpush : st.isPushEnabled ≠ some true)
    (hw : ∀ v ∈ st.initialWindowSize, v < 2 ^ 31)
    (hn : ∀ o ∈ c.session.values, (c.session.cells o).sendWindow +
      (st.initialWindowSize.getD c.session.remoteWindowSz - c.session.remoteWindowSz : Int) <
        2 ^ 31) :
    ∃ c1, (c.push (.received none (.settings st))).recvPeerSettings st = (.ok (), c1) ∧
      c1.session = c.session.settings st := by
  obtain ⟨hs1, -⟩ := session_applyLimits (c := c.push (.received none (.settings st))) st
  have hpush' : ¬(st.isPushEnabled = some true &&
      !(c.push (.received none (.settings st))).server) = true := by
    rw [decide_eq_false hpush]
    exact Bool.false_ne_true
  unfold recvPeerSettings
  rw [if_neg hpush']
  generalize (c.push (.received none (.settings st))).applyLimits st = c1 at hs1
  rcases applyInitialWindow_cases hs1 hc.good.table.nodup hc.good.sends.high hc.good.sends.low
    hc.good.sends.windowSz hw with ⟨c2, h1, h2, -, -⟩ | ⟨c2, w, -, -, -, o, ho, hout⟩
  · rw [h1]
    refine ⟨_, rfl, ?_⟩
    show c2.session.push (.sent none .connection (.settings .newAck)) = _
    rw [h2]
    rfl
  · exact absurd (hn o ho) (Int.not_lt.mpr hout)

theorem log_receiveSettings (hc : c.Clean) {st : Settings} (hack : st.ack = false)
    (hpush : st.isPushEnabled ≠ some true)
    (hw : ∀ v ∈ st.initialWindowSize, v < 2 ^ 31)
    (hn : ∀ o ∈ c.session.values, (c.session.cells o).sendWindow +
      (st.initialWindowSize.getD c.session.remoteWindowSz - c.session.remoteWindowSz : Int) <
        2 ^ 31) :
    (c.receive (.settings st)).past = (c.past.hear none (.settings st)).answer ∧
      (c.receive (.settings st)).log = .sent none .connection (.settings .newAck) ::
        .received none (.settings st) :: c.log := by
  obtain ⟨c1, hok, hs⟩ := recvPeerSettings_ok hc hpush hw hn
  refine ⟨past_receiveSettings hack (u := ()) (by rw [hok]), ?_⟩
  have hfirst : c.checkFirstFrame (.settings st) = true := by
    show (c.remoteSettings || !st.ack) = true
    rw [hack]
    exact Bool.or_true _
  have heq : c.receive (.settings st) = c1 := by
    rw [receive_eq hfirst]
    show (c.push (.received none (.settings st))).dispatch (.settings st) = c1
    unfold dispatch
    dsimp only
    rw [if_neg (by rw [hack]; exact Bool.false_ne_true), hok]
  rw [heq]
  have hlog : c1.session.log = (c.session.settings st).log := by rw [hs]
  exact hlog

/-- No credit has arrived before the settings of the peer, so they overflow no window. -/
theorem Endpoint.unshifted (h : Endpoint peer c) (hc : c.Clean)
    (hl : Frame.Loads (.settings peer)) (hr : c.remoteSettings = false) :
    ∀ o ∈ c.session.values, (c.session.cells o).sendWindow +
      (peer.initialWindowSize.getD c.session.remoteWindowSz - c.session.remoteWindowSz : Int) <
        2 ^ 31 := by
  have hempty : NtexH2.inbox c.log = [] := h.exchange.started.mpr hr
  intro o ho
  have hwin := hc.good.sends.stream o ho
  have hcredit : total (Event.credit o) c.session.log = 0 := by
    have hle := Session.credit_le_inbox (o := o) h.books.attributed
    change total (Event.credit o) c.log ≤ _ at hle
    change total (Event.credit o) c.log = 0
    have hin : inbox c.session.log = [] := hempty
    rw [hin] at hle
    exact Nat.le_zero.mp hle
  have hsize : peer.initialWindowSize.getD c.session.remoteWindowSz < 2 ^ 31 := by
    cases hv : peer.initialWindowSize with
    | none => exact hc.good.sends.windowSz
    | some v => exact hl.1 v hv
  rw [hcredit] at hwin
  omega

/-- The settings of the peer come first, and are answered. -/
theorem Endpoint.receive_settings (h : Endpoint peer c) (hc : c.Clean)
    (hsz : c.config.windowSz ≤ 2 ^ 30) (hack : peer.ack = false)
    (hpush : peer.isPushEnabled ≠ some true)
    (hl : Frame.Loads (.settings peer)) (hr : c.remoteSettings = false) :
    Hears peer c (c.receive (.settings peer)) (.settings peer) := by
  have hnone : .settings .newAck ∉ outbox c.log := by
    refine List.count_eq_zero.mp ?_
    rw [h.exchange.answers, hr]
    rfl
  have hn := h.unshifted hc hl hr
  obtain ⟨hpast, hlog⟩ := log_receiveSettings hc hack hpush hl.1 hn
  have hs : Past.Stays (c.hearing (.settings peer) False)
      (c.past.hear none (.settings peer)).answer (c.receive (.settings peer)).past := by
    rw [hpast]
    exact .refl _
  obtain ⟨-, hbooks, hended, hrec⟩ := h.heard hc hsz
    [.sent none .connection (.settings .newAck), .received none (.settings peer)] hl hs rfl rfl rfl
    rfl rfl
    (fun obj g hm => by
      rcases List.mem_cons.mp hm with heq | hm
      · cases heq
      · cases List.mem_singleton.mp hm
        rfl)
    (fun hw => False.elim hw) fun hf => False.elim hf
  have hin : inbox (c.receive (.settings peer)).log =
      NtexH2.inbox c.log ++ [.settings peer] := hrec.inbox
  have hremote : (c.receive (.settings peer)).remoteSettings = true :=
    congrArg Past.remoteSettings hpast
  have hproc : (c.receive (.settings peer)).settingsProcessed = c.settingsProcessed :=
    congrArg Past.settingsProcessed hpast
  have hgreet : Greeted (c.receive (.settings peer)) :=
    h.greeted.hear hrec.passes hin nofun
  refine ⟨⟨hbooks, ⟨?_, ?_, ?_, ?_, ?_⟩, hended, hgreet⟩, hin, .inl (congrArg Past.lastId hpast)⟩
  · refine hrec.opening (fun s hm => ?_) h.exchange.opening
    cases List.mem_singleton.mp hm
    rfl
  · rw [hin, hremote]
    exact ⟨fun hnil => absurd hnil (List.append_ne_nil_of_right_ne_nil _ (List.cons_ne_nil _ _)),
      fun hfalse => Bool.noConfusion hfalse⟩
  · rw [hrec.count, h.exchange.answers, hr, hremote]
    rfl
  · rw [hproc, hin, List.mem_append]
    refine h.exchange.processed.trans ⟨.inl, fun hor => hor.resolve_right fun hm => ?_⟩
    have heq : Settings.newAck = peer := Frame.settings.inj (List.mem_singleton.mp hm)
    rw [← heq] at hack
    cases hack
  · rw [hlog]
    exact h.exchange.prompt.answer hack hnone

/-- The ack of the settings comes once. -/
theorem Endpoint.receive_ack (h : Endpoint peer c) (hc : c.Clean)
    (hsz : c.config.windowSz ≤ 2 ^ 30) (hl : Frame.Loads (.settings .newAck))
    (hr : c.remoteSettings = true) (hp : c.settingsProcessed = false) :
    Hears peer c (c.receive (.settings .newAck)) (.settings .newAck) := by
  have hack : Settings.newAck.ack = true := rfl
  have hs := stays_receiveAck hack hr hp
  obtain ⟨-, hbooks, hended, hrec⟩ := h.heard hc hsz
    [.received none (.settings .newAck)] hl hs rfl rfl rfl rfl rfl
    (fun obj g hm => by
      cases List.mem_singleton.mp hm
      rfl)
    (fun hw => False.elim hw) fun hf => False.elim hf
  have hin : inbox (c.receive (.settings .newAck)).log =
      NtexH2.inbox c.log ++ [.settings .newAck] := hrec.inbox
  have hremote : (c.receive (.settings .newAck)).remoteSettings = c.remoteSettings :=
    hs.remoteSettings
  have hproc : (c.receive (.settings .newAck)).settingsProcessed = true := hs.settingsProcessed
  have hgreet : Greeted (c.receive (.settings .newAck)) :=
    h.greeted.hear hrec.passes hin nofun
  refine ⟨⟨hbooks, ⟨?_, ?_, ?_, ?_, ?_⟩, hended, hgreet⟩, hin, .inl hs.lastId⟩
  · exact hrec.opening (fun s hm => absurd hm List.not_mem_nil) h.exchange.opening
  · rw [hin, hremote, hr]
    exact ⟨fun hnil => absurd hnil (List.append_ne_nil_of_right_ne_nil _ (List.cons_ne_nil _ _)),
      fun hfalse => Bool.noConfusion hfalse⟩
  · rw [hrec.count, h.exchange.answers, hremote]
    rfl
  · rw [hproc, hin]
    exact ⟨fun _ => List.mem_append_right _ List.mem_cons_self, fun _ => rfl⟩
  · refine hrec.asides (fun e he => ?_) h.exchange.prompt
    rw [List.mem_singleton.mp he]
    rfl

/-- A frame that is not about the settings. -/
theorem Endpoint.receive_other (h : Endpoint peer c) (hc : c.Clean)
    (hsz : c.config.windowSz ≤ 2 ^ 30) {f : Frame} {fails : Prop} (last : StreamId) (hf : f.Loads)
    (hset : ∀ s, f ≠ .settings s) (hr : c.remoteSettings = true)
    (hs : Past.Stays (c.hearing f fails)
      { c.past.hear (f.streamId.bind c.query) f with lastId := last } (c.receive f).past)
    (hu : f.Weighs → ∀ id, f.streamId = some id → id ≠ 0 → c.session.Used id)
    (hw : fails → f.payload = 0 ∧ f.increment 0 = 0)
    (hlast : last = c.lastId ∨ f.headersId = some last)
    (hgreet : ∀ id, f.headersId = some id → c.server = true → id ≤ (c.receive f).lastId) :
    Hears peer c (c.receive f) f := by
  obtain ⟨-, hbooks, hended, hrec⟩ := h.heard hc hsz
    [.received (f.streamId.bind c.query) f] hf hs rfl rfl rfl rfl rfl
    (fun obj g hm => by
      cases List.mem_singleton.mp hm
      rfl) hu hw
  have hin : inbox (c.receive f).log = NtexH2.inbox c.log ++ [f] := hrec.inbox
  have hlast' : (c.receive f).lastId = last := hs.lastId
  refine ⟨⟨hbooks, ?_, hended, ?_⟩, hin, hlast' ▸ hlast⟩
  · refine h.exchange.aside hrec hs.remoteSettings hs.settingsProcessed (fun e he => ?_)
      (fun s hm => absurd hm List.not_mem_nil) (fun hm => ?_) (.inr hr)
    · rw [List.mem_singleton.mp he]
      cases f with
      | settings s => exact absurd rfl (hset s)
      | _ => trivial
    · exact hset _ (List.mem_singleton.mp hm).symm
  · exact h.greeted.hear hrec.passes hin hgreet

/-- DATA within the window of the connection, on an id that is used, is no error of the
connection. -/
theorem recvData_stream {d : Data} (hw : (d.flowLen : Int) ≤ c.recvWindow.size)
    (hlen : d.flowLen < 2 ^ 31) (hu : c.isUsedId d.streamId = true) (e : ConnectionError) :
    (c.recvData d).1 ≠ .error (.connection e) := by
  unfold recvData
  rw [if_neg (by rw [i32_nat hlen]; exact Int.not_lt.mpr hw)]
  cases c.query d.streamId with
  | some o =>
      dsimp only
      intro heq
      cases hres : c.streamRecvData o d with
      | mk x c1 =>
          rw [hres] at heq
          cases x with
          | ok item => cases heq
          | error err => cases heq
  | none =>
      dsimp only
      split
      · exact nofun
      · rw [if_pos (by rw [hu, Bool.or_true])]
        exact nofun

theorem isClientInitiated_of_odd {id : StreamId} (hodd : id % 2 = 1) :
    StreamId.isClientInitiated id = true := by
  have hne : id ≠ 0 := by
    rintro rfl
    cases hodd
  unfold StreamId.isClientInitiated
  rw [hodd]
  simp [hne]

theorem isUsedId_of {id : StreamId} (hodd : id % 2 = 1) (hu : c.session.Used id) :
    c.isUsedId id = true := by
  unfold isUsedId
  rw [isClientInitiated_of_odd hodd]
  cases hs : c.server with
  | true => exact decide_eq_true (hu.1 hs)
  | false => exact decide_eq_true (hu.2 hs)

/-- Credit that the window of the connection can take is no error of the connection. -/
theorem recvConWindowUpdate_ok {n : Nat} (hn : n ≠ 0) (hlt : n < 2 ^ 31)
    (hlow : 0 ≤ c.sendWindow.size) (hw : c.sendWindow.size + n < 2 ^ 31) :
    (c.recvConWindowUpdate n).1 = .ok () := by
  have hinc := inc_eq (w := c.sendWindow) (n := n) (by omega) hlt
  rw [if_pos hw] at hinc
  unfold recvConWindowUpdate
  rw [if_neg hn, hinc]

theorem Endpoint.receive_data (h : Endpoint peer c) (hc : c.Clean)
    (hsz : c.config.windowSz ≤ 2 ^ 30) {d : Data} (hf : Frame.Loads (.data d))
    (hfit : Fits peer c (.data d)) : Hears peer c (c.receive (.data d)) (.data d) := by
  obtain ⟨hr, hodd, hu, hw⟩ := hfit
  have hlen : d.flowLen < 2 ^ 31 := Nat.lt_trans hf.2.2.2 (by norm_num)
  have hs := stays_receiveData (c := c) (d := d) False hr fun e he =>
    recvData_stream (c := c.push (.received (c.query d.streamId) (.data d))) hw hlen
      (isUsedId_of (c := c) hodd hu) e he
  refine h.receive_other hc hsz c.lastId hf (fun s => nofun) hr hs ?_
    (fun hf => False.elim hf) (.inl rfl) nofun
  intro _ id hid _
  cases hid
  exact hu

theorem Endpoint.receive_windowUpdate (h : Endpoint peer c) (hc : c.Clean)
    (hsz : c.config.windowSz ≤ 2 ^ 30) {id : StreamId} {n : Nat}
    (hf : Frame.Loads (.windowUpdate id n)) (hfit : Fits peer c (.windowUpdate id n)) :
    Hears peer c (c.receive (.windowUpdate id n)) (.windowUpdate id n) := by
  obtain ⟨hr, hu, hw⟩ := hfit
  have hlow : 0 ≤ c.sendWindow.size := hc.good.sends.conLow
  -- an increment of zero fails the connection, and changes no window
  have hs : Past.Stays (c.hearing (.windowUpdate id n) (id = 0 → n = 0))
      (c.past.hear (c.query id) (.windowUpdate id n)) (c.receive (.windowUpdate id n)).past :=
    stays_receiveWindowUpdate (id = 0 → n = 0) hr fun e he hid => by
      by_contra hn
      have hok := recvConWindowUpdate_ok (c := c.push (.received (c.query id)
        (.windowUpdate id n))) hn hf.2 hlow (hw hid)
      subst hid
      have hzero : StreamId.isZero 0 = true := rfl
      unfold recvWindowUpdate at he
      rw [if_pos hzero] at he
      cases hres : (c.push (.received (c.query 0) (.windowUpdate 0 n))).recvConWindowUpdate n with
      | mk x c1 =>
          rw [hres] at hok he
          cases x with
          | ok u => cases he
          | error e => cases hok
  refine h.receive_other hc hsz c.lastId hf (fun s => nofun) hr hs ?_ ?_ (.inl rfl) nofun
  · intro _ id' hid h0
    cases hid
    exact hu h0
  · intro hz
    refine ⟨rfl, ?_⟩
    show (if id = 0 then n else 0) = 0
    split
    · next hid => exact hz hid
    · rfl

/-- An id that is new to a server names no stream of its map. -/
theorem query_new (hc : c.Clean) (hserver : c.server = true) {id : StreamId}
    (hlt : c.lastId < id) : c.query id = none := by
  cases hq : c.query id with
  | none => rfl
  | some o =>
      obtain ⟨hm, rfl⟩ := query_mem hc.good.table hq
      have hle := (hc.good.table.heard hserver o (hc.good.table.bound o hm)).1
      exact absurd hle (Nat.not_le_of_lt hlt)

/-- HEADERS that arrive, as they were sent or as an invalid frame. -/
theorem Endpoint.receive_opening (h : Endpoint peer c) (hc : c.Clean)
    (hsz : c.config.windowSz ≤ 2 ^ 30) {f : Frame} {id : StreamId} (hf : f.Loads)
    (hid : f.headersId = some id) (hodd : id % 2 = 1) (hr : c.remoteSettings = true)
    (hs : ∃ last, (last = c.lastId ∨ last = id ∧ c.lastId < last) ∧
      Past.Stays (c.hearing f True) { c.past.hear (f.streamId.bind c.query) f with lastId := last }
        (c.receive f).past) : Hears peer c (c.receive f) f := by
  obtain ⟨last, hlast, hs⟩ := hs
  have hweighs : ¬f.Weighs ∧ f.payload = 0 ∧ f.increment 0 = 0 := by
    cases f with
    | headers g => exact ⟨not_false, rfl, rfl⟩
    | invalid g => exact ⟨not_false, rfl, rfl⟩
    | _ => cases hid
  refine h.receive_other hc hsz last hf (fun s heq => ?_) hr hs
    (fun hw => absurd hw hweighs.1) (fun _ => hweighs.2) ?_ fun id' hid' hserver => ?_
  · rw [heq] at hid
    cases hid
  · rcases hlast with rfl | ⟨rfl, -⟩
    · exact .inl rfl
    · exact .inr hid
  · rw [hid] at hid'
    cases hid'
    exact lastId_receive hr hserver hid (isClientInitiated_of_odd hodd) (query_new hc hserver)

theorem Endpoint.receive_passing (h : Endpoint peer c) (hc : c.Clean)
    (hsz : c.config.windowSz ≤ 2 ^ 30) {f : Frame} (hf : f.Loads) (hpass : Passing f)
    (hr : c.remoteSettings = true) : Hears peer c (c.receive f) f := by
  refine h.receive_other hc hsz c.lastId hf (fun s heq => ?_) hr
    (stays_receivePassing hr hpass) (fun hw => ?_) (fun _ => ?_) (.inl rfl) fun id heq => ?_
  · rw [heq] at hpass
    exact False.elim hpass
  · cases f with
    | data d => exact False.elim hpass
    | windowUpdate id n => exact False.elim hpass
    | _ => exact False.elim hw
  · cases f with
    | data d => exact False.elim hpass
    | windowUpdate id n => exact False.elim hpass
    | _ => exact ⟨rfl, rfl⟩
  · cases f with
    | headers g => exact False.elim hpass
    | invalid g => exact False.elim hpass
    | _ => cases heq

/-- A frame that fits keeps the invariant. -/
theorem Endpoint.receive (h : Endpoint peer c) (hc : c.Clean) (hsz : c.config.windowSz ≤ 2 ^ 30)
    (hack : peer.ack = false) (hpush : peer.isPushEnabled ≠ some true) {f : Frame} (hf : f.Loads)
    (hfit : Fits peer c f) : Hears peer c (c.receive f) f := by
  cases f with
  | settings s =>
      rcases hfit with ⟨rfl, hr⟩ | ⟨rfl, hr, hp⟩
      · exact h.receive_settings hc hsz hack hpush hf hr
      · exact h.receive_ack hc hsz hf hr hp
  | data d => exact h.receive_data hc hsz hf hfit
  | windowUpdate id n => exact h.receive_windowUpdate hc hsz hf hfit
  | headers g =>
      exact h.receive_opening hc hsz hf rfl hfit.2 hfit.1 (stays_receiveHeaders hfit.1)
  | invalid g =>
      obtain ⟨hr, hodd, hkind⟩ := hfit
      exact h.receive_opening hc hsz hf (if_pos hkind) hodd hr (stays_receiveInvalid hr)
  | _ => exact h.receive_passing hc hsz hf trivial hfit

/-- A new connection. -/
theorem endpoint_init (peer : Settings) (s : Start) : Endpoint peer s.init := by
  obtain ⟨hw, -, hlog⟩ := new_window s.server s.config s.secure s.skipStreams
  have hf := firstFrames hlog
  change s.init.log = _ ∨ ∃ n, s.init.log = _ at hlog
  change FirstFrames s.init.log at hf
  have hw' : s.init.recvWindow.size = defaultInitialWindowSize + total Event.conGrant s.init.log :=
    congrArg Window.size hw
  have hevents : ∀ e ∈ s.init.log, e = .sent none .connection (.settings s.config.settings) ∨
      ∃ n, e = .sent none .connection (.windowUpdate StreamId.con n) := by
    intro e he
    rcases hlog with hlog | ⟨n, hlog⟩
    · rw [hlog] at he
      exact .inl (List.mem_singleton.mp he)
    · rw [hlog] at he
      rcases List.mem_cons.mp he with rfl | he
      · exact .inr ⟨n, rfl⟩
      · exact .inl (List.mem_singleton.mp he)
  have hnot : ∀ obj f, .received obj f ∉ s.init.log := by
    intro obj f he
    rcases hevents _ he with heq | ⟨n, heq⟩
    · cases heq
    · cases heq
  have hempty : inbox s.init.log = [] := by
    refine List.eq_nil_iff_forall_not_mem.mpr fun f hf => ?_
    obtain ⟨obj, he⟩ := mem_inbox.mp hf
    exact hnot obj f he
  have hopening : ∃ rest, outbox s.init.log = .settings s.config.settings :: rest ∧
      ∀ st, .settings st ∉ rest := by
    rcases hlog with hlog | ⟨n, hlog⟩
    · rw [hlog]
      exact ⟨[], rfl, fun st => List.not_mem_nil⟩
    · rw [hlog]
      refine ⟨[.windowUpdate StreamId.con n], rfl, fun st hm => ?_⟩
      cases List.mem_singleton.mp hm
  obtain ⟨rest, hout, hrest⟩ := hopening
  have hack : Settings.newAck ≠ s.config.settings := by
    intro heq
    have := s.config.settings_ack
    rw [← heq] at this
    cases this
  have hcount : (outbox s.init.log).count (.settings .newAck) = 0 := by
    refine List.count_eq_zero.mpr fun hm => ?_
    rw [hout] at hm
    rcases List.mem_cons.mp hm with heq | hm
    · exact hack (Frame.settings.inj heq)
    · exact hrest _ hm
  refine ⟨⟨?_, ?_, ?_, ?_, ?_⟩, ⟨?_, ?_, ?_, ?_, ?_⟩, ?_, ?_⟩
  · intro e he
    rcases hevents e he with rfl | ⟨n, rfl⟩
    · trivial
    · rfl
  · exact fun obj f he => absurd he (hnot obj f)
  · show s.init.recvWindow.size + total Event.gotData s.init.log = _
    rw [hf.gotData, hw']
    exact Int.add_zero _
  · show (defaultInitialWindowSize : Int) + total Event.sentData s.init.log =
      defaultInitialWindowSize + total Event.conCredit s.init.log
    rw [hf.sentData, hf.conCredit]
  · refine ⟨fun o _ => ⟨?_, ?_⟩, fun o ho => absurd ho (Nat.not_lt_zero o)⟩
    · refine total_eq_zero fun e he => ?_
      rcases hevents e he with rfl | ⟨n, rfl⟩ <;> rfl
    · refine total_eq_zero fun e he => ?_
      rcases hevents e he with rfl | ⟨n, rfl⟩ <;> rfl
  · exact ⟨rest, hout, fun st hm => absurd hm (hrest st)⟩
  · exact ⟨fun _ => rfl, fun _ => hempty⟩
  · exact hcount
  · rw [hempty]
    exact ⟨fun h => Bool.noConfusion h, fun hm => absurd hm List.not_mem_nil⟩
  · constructor
    · unfold Answered
      rw [hf.initWindow, if_neg (List.count_eq_zero.mp hcount)]
    · intro obj w d l' hs
      rcases hevents _ (hs.subset List.mem_cons_self) with heq | ⟨n, heq⟩
      · cases heq
      · cases heq
  · exact fun o ho => absurd ho List.not_mem_nil
  · intro _ g hg
    rw [hempty] at hg
    exact absurd hg List.not_mem_nil

end

end Connection

end NtexH2
