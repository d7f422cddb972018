/-
  Network/Joined.lean --- what holds of two ends in every run.

  What an end has written is what its peer has read, and what is on the way or lost.
  So every frame fits when it arrives: the settings come first and are answered once,
  payload and credit are on ids that are used, and the connection windows agree.
-/
import NtexH2.Network.Model
import NtexH2.Lib.Channel

set_option autoImplicit false

namespace NtexH2

open Connection (Endpoint Fits Hears Start)

/-- The invariant of two ends. -/
structure Joined (s : Setup) (n : Net) : Prop where
  reach : ∀ p, Connection.Reachable (s.start p) (n.ends p)
  config : ∀ p, (n.ends p).config = (s.start p).config
  side : ∀ p, (n.ends p).server = (s.start p).server
  endpoint : ∀ p, Endpoint (s.settings p.peer) (n.ends p)
  fifo : ∀ p, Lib.Channel Frame.ReadAs (outbox (n.ends p.peer).log) (inbox (n.ends p).log)
    (n.way p)
  lost : ∀ p, n.lost p <:+ n.way p
  heard : (n.ends .server).lastId < (n.ends .client).nextStreamId

section

variable {s : Setup} {n : Net} (h : Joined s n)

include h

theorem Joined.clean (p : Party) : (n.ends p).Clean := (h.reach p).clean

theorem Joined.windowSz (p : Party) : (n.ends p).config.windowSz ≤ 2 ^ 30 := by
  rw [h.config p]
  exact s.windowSz p

theorem Joined.back (p : Party) : Lib.Channel Frame.ReadAs (outbox (n.ends p).log)
    (inbox (n.ends p.peer).log) (n.way p.peer) := by
  have := h.fifo p.peer
  rwa [Party.peer_peer] at this

/-- What is on the way arrives, or is lost; what is lost comes last. -/
theorem Joined.way (p : Party) : n.way p = n.arriving p ++ n.lost p := by
  obtain ⟨l, hl⟩ := h.lost p
  unfold Net.arriving
  rw [← hl, List.length_append, Nat.add_sub_cancel, List.take_left]

/-- The next frame that arrives. -/
theorem Joined.head {p : Party} {f : Frame} (hf : f ∈ (n.arriving p).head?) :
    ∃ rest, n.way p = f :: rest ∧ n.lost p <:+ rest := by
  obtain ⟨l, hl⟩ := List.head?_eq_some_iff.mp hf
  refine ⟨l ++ n.lost p, ?_, List.suffix_append _ _⟩
  rw [h.way p, hl]
  rfl

/-- A measure of frames that the codec does not change. -/
theorem Joined.loads {m : Frame → Nat} (hm : ∀ f g, Frame.ReadAs f g → m f = m g) (p : Party) :
    load m (outbox (n.ends p.peer).log) = load m (inbox (n.ends p).log) + load m (n.way p) :=
  (h.fifo p).sum hm

/-- What has been read was written, and if it is valid as it was read. -/
theorem Joined.origin {p : Party} {f : Frame} (hf : f ∈ inbox (n.ends p).log) :
    ∃ g ∈ outbox (n.ends p.peer).log, g.ReadAs f := (h.fifo p).origin hf

theorem Joined.settings (p : Party) : (n.ends p).config.settings = s.settings p := by
  rw [h.config p]
  rfl

/-! ## The windows of the connection -/

/-- The receive window of an end is the send window of its peer, and what is on the way. -/
theorem Joined.connection (p : Party) :
    (n.ends p).recvWindow.size = (n.ends p.peer).sendWindow.size +
      load Frame.payload (n.way p) + load (Frame.increment 0) (n.way p.peer) := by
  have hrecv : (n.ends p).recvWindow.size + total Event.gotData (n.ends p).log =
      defaultInitialWindowSize + total Event.conGrant (n.ends p).log :=
    (h.endpoint p).books.conRecv
  have hsend : (n.ends p.peer).sendWindow.size + total Event.sentData (n.ends p.peer).log =
      defaultInitialWindowSize + total Event.conCredit (n.ends p.peer).log :=
    (h.endpoint p.peer).books.conSend
  have hgrant : total Event.conGrant (n.ends p).log =
      load (Frame.increment 0) (outbox (n.ends p).log) :=
    Session.conGrant_outbox (h.clean p).good.table (h.endpoint p).books.labelled
  have hback := h.loads (fun _ _ => Frame.ReadAs.increment 0) p.peer
  rw [Party.peer_peer] at hback
  rw [hgrant, hback, gotData_inbox] at hrecv
  rw [sentData_outbox, h.loads (fun _ _ => Frame.ReadAs.payload) p, conCredit_inbox] at hsend
  omega

/-! ## The frame that arrives -/

variable {p : Party} {f : Frame} {rest : List Frame} (hw : n.way p = f :: rest)

include hw

theorem Joined.split : ∃ taken, outbox (n.ends p.peer).log = taken ++ f :: rest ∧
    List.Forall₂ Frame.ReadAs taken (inbox (n.ends p).log) := hw ▸ h.fifo p

/-- The first frame that arrives is the settings of the peer, and all others are acks. -/
theorem Joined.arrives :
    inbox (n.ends p).log = [] ∧ f = .settings (s.settings p.peer) ∨
      inbox (n.ends p).log ≠ [] ∧ ∀ st, f = .settings st → st = .newAck := by
  obtain ⟨rest', hout, hacks⟩ := (h.endpoint p.peer).exchange.opening
  obtain ⟨taken, hsplit, hread⟩ := h.split hw
  rw [hout, h.settings] at hsplit
  generalize inbox (n.ends p).log = inn at hread
  cases hread with
  | nil => exact .inl ⟨rfl, (List.cons.inj hsplit).1.symm⟩
  | cons hfg hread =>
      refine .inr ⟨List.cons_ne_nil _ _, fun st hf => hacks st ?_⟩
      rw [(List.cons.inj hsplit).2, ← hf]
      exact List.mem_append_right _ List.mem_cons_self

/-- The settings of the peer have arrived before any other frame. -/
theorem Joined.started (hf : f ≠ .settings (s.settings p.peer)) :
    (n.ends p).remoteSettings = true := by
  rcases h.arrives hw with ⟨-, heq⟩ | ⟨hne, -⟩
  · exact absurd heq hf
  · cases hr : (n.ends p).remoteSettings with
    | true => rfl
    | false => exact absurd ((h.endpoint p).exchange.started.mpr hr) hne

/-- The settings fit. -/
theorem Joined.fits_settings {st : Settings} (hf : f = .settings st) :
    Fits (s.settings p.peer) (n.ends p) f := by
  rw [hf]
  rcases h.arrives hw with ⟨hnil, heq⟩ | ⟨hne, hacks⟩
  · rw [hf] at heq
    exact .inl ⟨Frame.settings.inj heq, (h.endpoint p).exchange.started.mp hnil⟩
  · have hack : st = .newAck := hacks st hf
    refine .inr ⟨hack, h.started hw fun heq => ?_, ?_⟩
    · rw [hf, hack] at heq
      have := s.ack p.peer
      rw [← Frame.settings.inj heq] at this
      cases this
    · -- an ack is written once
      cases hproc : (n.ends p).settingsProcessed with
      | false => rfl
      | true =>
          have hmem := (h.endpoint p).exchange.processed.mp hproc
          have hcount := (h.endpoint p.peer).exchange.answers
          obtain ⟨taken, hsplit, hread⟩ := h.split hw
          obtain ⟨g, hg, hgf⟩ := Lib.forall₂_right hread hmem
          rw [hsplit, List.count_append, hf, hack, List.count_cons_self] at hcount
          have hpos := List.count_pos_iff.mpr (hgf.settings ▸ hg)
          split at hcount
          · omega
          · omega

/-- A frame that is written for a stream of the peer. -/
theorem Joined.written : ∃ late obj w l, (n.ends p.peer).log = late ++ .sent obj w f :: l ∧
    List.Forall₂ Frame.ReadAs (outbox l) (inbox (n.ends p).log) ∧
    (Event.sent obj w f).Labelled (n.ends p.peer).session := by
  obtain ⟨taken, hsplit, hread⟩ := h.split hw
  obtain ⟨late, obj, w, l, hlog, rfl⟩ := outbox_split hsplit
  refine ⟨late, obj, w, l, hlog, hread, (h.endpoint p.peer).books.labelled _ ?_⟩
  show Event.sent obj w f ∈ (n.ends p.peer).log
  rw [hlog]
  exact List.mem_append_right _ List.mem_cons_self

/-- A frame on a stream, in the words of the stream. -/
theorem Joined.spoken (hf : f.Weighs) (h0 : ∀ m, f ≠ .windowUpdate 0 m) :
    ∃ late o w l ys, (n.ends p.peer).log = late ++ .sent (some o) w f :: l ∧
      List.Forall₂ Frame.ReadAs (outbox l) (inbox (n.ends p).log) ∧
      o < (n.ends p.peer).created ∧
      f.streamId = some ((n.ends p.peer).objs o).id ∧
      words o (n.ends p.peer).log = words o l ++ (w, f) :: ys := by
  obtain ⟨late, obj, w, l, hlog, hl, hlabel⟩ := h.written hw
  have hlabels := (h.endpoint p.peer).books.labelled
  change ∀ e ∈ (n.ends p.peer).log, _ at hlabels
  cases obj with
  | none =>
      cases f with
      | data d => exact False.elim hlabel
      | windowUpdate id m =>
          have hzero : id = 0 := hlabel
          exact absurd (congrArg (Frame.windowUpdate · m) hzero) (h0 m)
      | _ => exact False.elim hf
  | some o =>
      obtain ⟨ho, hfor⟩ := hlabel
      rw [hlog] at hlabels
      obtain ⟨ys, hys⟩ := Session.words_at hlabels
      refine ⟨late, o, w, l, ys, hlog, hl, ho, ?_, hlog ▸ hys⟩
      cases f with
      | data d => exact congrArg some hfor
      | windowUpdate id m => exact congrArg some hfor
      | _ => exact False.elim hf

/-- The id of a frame on a stream has been used. -/
theorem Joined.used (hf : f.Weighs) {id : StreamId} (hfid : f.streamId = some id) (h0 : id ≠ 0) :
    id % 2 = 1 ∧ (n.ends p).session.Used id := by
  obtain ⟨late, o, w, l, ys, hlog, hl, ho, hid, hwords⟩ := h.spoken hw hf fun m heq => by
    rw [heq] at hfid
    exact h0 (Option.some.inj hfid).symm
  have heq : id = ((n.ends p.peer).objs o).id := Option.some.inj (hfid.symm.trans hid)
  have ht := (h.clean p.peer).good.table
  have hodd : id % 2 = 1 := heq ▸ ht.id_odd ho
  refine ⟨hodd, ?_⟩
  have hserver : (n.ends .server).server = true := (h.side .server).trans s.server
  have hclient : (n.ends .client).server = false := (h.side .client).trans s.client
  cases p with
  | client =>
      refine ⟨fun hs => Bool.noConfusion (hclient.symm.trans hs), fun _ => ?_⟩
      rw [heq]
      exact Nat.lt_of_le_of_lt (ht.heard hserver o ho).1 h.heard
  | server =>
      refine ⟨fun _ => ?_, fun hs => Bool.noConfusion (hserver.symm.trans hs)⟩
      obtain ⟨hd, hmem, hhid⟩ := (h.clean .client).good.begins.before hclient ho hf hwords
      have hgiven : ((n.ends .client).objs o).id = 2 * o + 1 := (ht.given hclient).2 o ho
      -- the HEADERS have arrived, in one form or the other
      obtain ⟨g, hin, hread⟩ :=
        Lib.forall₂_left hl (mem_outbox.mpr ⟨some o, .sendHeaders, mem_words.mp hmem⟩)
      have hgid : g.headersId = some id := by
        rw [← hread.headersId, heq]
        exact congrArg some (hhid.trans hgiven.symm)
      exact (h.endpoint .server).greeted hserver g hin id hgid

/-- The connection window covers a DATA frame that arrives. -/
theorem Joined.covered {d : Data} (hf : f = .data d) :
    (d.flowLen : Int) ≤ (n.ends p).recvWindow.size := by
  have heq := h.connection p
  have hlow : 0 ≤ (n.ends p.peer).sendWindow.size := (h.clean p.peer).good.sends.conLow
  rw [hw, hf, load_cons] at heq
  have hpay : Frame.payload (.data d) = d.flowLen := rfl
  rw [hpay] at heq
  omega

/-- HEADERS that arrive are on the id of a stream. -/
theorem Joined.odd {g : Headers} (hf : f = .headers g) : g.streamId % 2 = 1 := by
  obtain ⟨late, obj, w, l, -, -, hlabel⟩ := h.written hw
  rw [hf] at hlabel
  cases obj with
  | none => exact False.elim hlabel
  | some o =>
      obtain ⟨ho, hid⟩ := hlabel
      have hid' : g.streamId = _ := hid
      rw [hid']
      exact (h.clean p.peer).good.table.id_odd ho

/-- A frame fits when it arrives, if it is read as it is. -/
theorem Joined.fits_same : Fits (s.settings p.peer) (n.ends p) f := by
  cases f with
  | settings st => exact h.fits_settings hw rfl
  | data d =>
      have h0 : d.streamId ≠ 0 := by
        obtain ⟨late, o, w, l, ys, -, -, ho, hid, -⟩ := h.spoken hw trivial nofun
        rw [Option.some.inj hid]
        exact Session.id_ne_zero (h.clean p.peer).good.table ho
      obtain ⟨hodd, hu⟩ := h.used hw (f := .data d) trivial rfl h0
      exact ⟨h.started hw nofun, hodd, hu, h.covered hw rfl⟩
  | windowUpdate id m =>
      refine ⟨h.started hw nofun, fun h0 => (h.used hw (f := .windowUpdate id m) trivial rfl h0).2,
        fun hid => ?_⟩
      -- the peer counts the credit in its receive window
      have heq := h.connection p.peer
      have hlt : (n.ends p.peer).recvWindow.size < 2 ^ 31 :=
        (h.clean p.peer).good.credit.recvWindow_lt
      rw [Party.peer_peer, hw, hid, load_cons] at heq
      have hinc : Frame.increment 0 (.windowUpdate 0 m) = m := rfl
      rw [hinc] at heq
      omega
  | headers g => exact ⟨h.started hw nofun, h.odd hw rfl⟩
  | invalid g =>
      obtain ⟨late, obj, w, l, -, -, hlabel⟩ := h.written hw
      cases obj with
      | none => exact False.elim hlabel
      | some o => exact False.elim hlabel.2
  | reset id r => exact h.started hw nofun
  | ping ack payload => exact h.started hw nofun
  | goAway last r data => exact h.started hw nofun
  | priority id => exact h.started hw nofun

/-- So does what the codec makes of it. -/
theorem Joined.fits {g : Frame} (hr : f.ReadAs g) : Fits (s.settings p.peer) (n.ends p) g := by
  cases hr with
  | same => exact h.fits_same hw
  | rejected v he => exact ⟨h.started hw nofun, h.odd hw rfl, rfl⟩

/-- HEADERS from a client are on an id that it has used. -/
theorem Joined.asked {id : StreamId} (hp : p = .server) (hf : f.headersId = some id) :
    id < (n.ends .client).nextStreamId := by
  subst hp
  obtain ⟨late, obj, w, l, -, -, hlabel⟩ := h.written hw
  obtain ⟨o, -, hlt, rfl⟩ := Session.headers_sent hlabel hf
  have hclient : (n.ends .client).server = false := (h.side .client).trans s.client
  have ht := (h.clean .client).good.table
  change o < (n.ends .client).session.created at hlt
  show ((n.ends .client).session.cells o).id < (n.ends .client).session.nextStreamId
  rw [(ht.given hclient).2 o hlt, (ht.given hclient).1]
  exact Nat.succ_lt_succ (Nat.mul_lt_mul_of_pos_left hlt Nat.two_pos)

end

/-! ## Moves -/

/-- A client numbers its streams upwards. -/
theorem Session.Passes.nextStreamId {k k' : Session} (hpass : Session.Passes k k') (ht : k.Table)
    (ht' : k'.Table) (hs : k.server = false) : k.nextStreamId ≤ k'.nextStreamId := by
  have hcreated := hpass.created
  rw [(ht.given hs).1, (ht'.given (hpass.server.trans hs)).1]
  omega

/-- What the two ends are after a step of one of them: `rest` is still on the way to it. -/
theorem Joined.advance {s : Setup} {n : Net} (h : Joined s n) {p : Party} {a : Connection.Step}
    (rest : List Frame) (ha : (n.ends p).Enabled a)
    (he : Endpoint (s.settings p.peer) ((n.ends p).step a))
    (hin : Lib.Channel Frame.ReadAs (outbox (n.ends p.peer).log)
      (inbox ((n.ends p).step a).log) rest) (hlost : n.lost p <:+ rest)
    (hheard : p = .server → ((n.ends p).step a).lastId < (n.ends .client).nextStreamId) :
    Joined s ({ n with way := Function.update n.way p rest }.advance p a) := by
  obtain ⟨hc', hpass, -, hcfg⟩ :=
    (h.clean p).advance (h.endpoint p).books.grants (h.windowSz p) ha
  obtain ⟨es, hlog, -⟩ := hpass.log
  have hnew := @Net.newFrames_append (n.ends p) ((n.ends p).step a) es hlog
  have hdrop := @Net.dropped_newFrames (n.ends p) ((n.ends p).step a) es hlog
  -- the state of either end, and the queues to them
  have hself := Net.advance_ends { n with way := Function.update n.way p rest } p a
  have hpeer := Net.advance_ends_peer { n with way := Function.update n.way p rest } p a
  have hway := Net.advance_way { n with way := Function.update n.way p rest } p a
  have hback := Net.advance_way_peer { n with way := Function.update n.way p rest } p a
  dsimp only at hself hpeer hway hback
  rw [Function.update_self] at hway
  rw [Function.update_of_ne p.peer_ne] at hback
  generalize { n with way := Function.update n.way p rest }.advance p a = n' at *
  refine ⟨fun q => ?_, fun q => ?_, fun q => ?_, fun q => ?_, fun q => ?_, fun q => ?_, ?_⟩
  · rcases Party.eq_or_peer p q with rfl | rfl
    · rw [hself]
      exact .step a (h.reach _) ha
    · rw [hpeer]
      exact h.reach _
  · rcases Party.eq_or_peer p q with rfl | rfl
    · rw [hself, hcfg]
      exact h.config _
    · rw [hpeer]
      exact h.config _
  · rcases Party.eq_or_peer p q with rfl | rfl
    · rw [hself]
      exact hpass.server.trans (h.side _)
    · rw [hpeer]
      exact h.side _
  · rcases Party.eq_or_peer p q with rfl | rfl
    · rw [hself]
      exact he
    · rw [hpeer]
      exact h.endpoint _
  · rcases Party.eq_or_peer p q with rfl | rfl
    · rw [hself, hpeer, hway]
      exact hin
    · rw [Party.peer_peer, hself, hpeer, hback, hnew]
      exact (h.back p).write _
  · unfold Net.lost
    rcases Party.eq_or_peer p q with rfl | rfl
    · rw [hpeer, hway]
      exact hlost
    · rw [Party.peer_peer, hself, hback]
      refine hdrop.trans (List.suffix_append_self_iff.mpr ?_)
      have hl := h.lost p.peer
      unfold Net.lost at hl
      rwa [Party.peer_peer] at hl
  · cases p with
    | client =>
        have hserver : n'.ends .server = n.ends .server := hpeer
        have hclient : (n.ends .client).server = false := (h.side .client).trans s.client
        rw [hserver, hself]
        exact Nat.lt_of_lt_of_le h.heard
          (hpass.nextStreamId (h.clean .client).good.table hc'.good.table hclient)
    | server =>
        have hclient : n'.ends .client = n.ends .client := hpeer
        rw [hclient, hself]
        exact hheard rfl

variable {s : Setup} {n : Net}

theorem joined_new (s : Setup) : Joined s (Net.new s) where
  reach := fun _ => .new
  config := fun _ => rfl
  side := fun _ => rfl
  endpoint := fun p => Connection.endpoint_init _ (s.start p)
  fifo := by
    intro p
    have hempty : inbox (s.start p).init.log = [] :=
      (Connection.endpoint_init (s.settings p.peer) (s.start p)).exchange.started.mpr rfl
    show Lib.Channel _ (outbox (s.start p.peer).init.log) (inbox (s.start p).init.log)
      (outbox (s.start p.peer).init.log)
    rw [hempty]
    exact .new _
  lost := by
    intro p
    have happ := dropped_append (s.start p.peer).init.log []
    rwa [List.append_nil] at happ
  heard := Nat.one_pos

theorem Joined.act (h : Joined s n) {p : Party} {a : Connection.Step} (hl : Connection.Local a)
    (ha : (n.ends p).Enabled a) : Joined s (n.advance p a) := by
  obtain ⟨he, hin, hlast⟩ := (h.endpoint p).local_step (h.clean p) (h.windowSz p) ha hl
  have hself : ({ n with way := Function.update n.way p (n.way p) } : Net) = n := by
    rw [Function.update_eq_self]
  have hj := h.advance (n.way p) ha he (by rw [hin]; exact h.fifo p) (h.lost p) fun hp => by
    subst hp
    rw [hlast]
    exact h.heard
  rwa [hself] at hj

/-- The next frame `f` arrives and is read as `g`. -/
theorem Joined.deliver (h : Joined s n) {p : Party} {f g : Frame} {rest : List Frame}
    (hw : n.way p = f :: rest) (hlost : n.lost p <:+ rest) (hr : f.ReadAs g) (hg : g.Loads) :
    Joined s ({ n with way := Function.update n.way p rest }.advance p (.receive g)) := by
  have hears := (h.endpoint p).receive (h.clean p) (h.windowSz p) (s.ack p.peer)
    (s.push p.peer) hg (h.fits hw hr)
  refine h.advance (a := .receive g) rest hg hears.endpoint ?_ hlost fun hp => ?_
  · show Lib.Channel _ _ (inbox ((n.ends p).receive g).log) rest
    rw [hears.inbox]
    exact (hw ▸ h.fifo p).next hr
  · subst hp
    show ((n.ends .server).receive g).lastId < _
    rcases hears.lastId with heq | hid
    · rw [heq]
      exact h.heard
    · rw [← hr.headersId] at hid
      exact h.asked hw rfl hid

theorem Joined.move (h : Joined s n) {m : Move} (hm : n.Possible m) : Joined s (n.move m) := by
  cases m with
  | act p a => exact h.act hm.1 hm.2
  | deliver p g =>
      obtain ⟨⟨f, hf, hr⟩, hg⟩ := hm
      obtain ⟨rest, hw, hlost⟩ := h.head hf
      have hj := h.deliver hw hlost hr hg
      unfold Net.move
      dsimp only
      rwa [hw]

/-- The invariant of all runs. -/
theorem Net.Reachable.joined (h : Net.Reachable s n) : Joined s n := by
  induction h with
  | new => exact joined_new s
  | move m _ hm ih => exact ih.move hm

end NtexH2
