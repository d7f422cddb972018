/-
  Network/Delivery.lean --- what one end sends is what the application of the other hears.

  Two ends are joined, and their applications are told of what arrives.  The content that
  a stream hears is made of the first HEADERS and DATA frames that the peer has sent on
  its id, in their order and each of them once.  While the stream is open the others are
  still on the way, or lost behind the close of the io of the peer, and when the stream has
  heard the end there are none.
-/
import NtexH2.Network.Agreement
import NtexH2.Connection.Matching

set_option autoImplicit false

namespace NtexH2

open Connection (Delivers Unheard)

/-! ## Messages of a run -/

namespace Net

/-- The messages after a move: an end tells its own application. -/
def hears (n : Net) (ms : Party → List (Obj × Message)) : Move → Party → List (Obj × Message)
  | .act p a => Function.update ms p (ms p ++ (n.ends p).told a)
  | .deliver p f => Function.update ms p (ms p ++ (n.ends p).told (.receive f))

/-- The states of all runs, and what the applications have been told. -/
inductive Told (s : Setup) : Net → (Party → List (Obj × Message)) → Prop where
  | new : Told s (Net.new s) fun _ => []
  | move {n : Net} {ms : Party → List (Obj × Message)} (m : Move) :
      Told s n ms → n.Possible m → Told s (n.move m) (n.hears ms m)

theorem Told.reachable {s : Setup} {n : Net} {ms : Party → List (Obj × Message)}
    (h : Told s n ms) : Reachable s n := by
  induction h with
  | new => exact .new
  | move m _ hm ih => exact .move m ih hm

end Net

/-! ## Frames on one id -/

namespace Session

variable {k : Session} {o : Nat} {l : List Event}

/-- No invalid frame is written. -/
theorem isContent_labelled {obj : Option Obj} {w : Writer} {f : Frame}
    (h : (Event.sent obj w f).Labelled k) : f.isContent = f.isMessage := by
  cases f with
  | invalid g =>
      cases obj with
      | none => exact False.elim h
      | some p => exact False.elim h.2
  | _ => rfl

/-- What is written for a stream are the frames on its id. -/
theorem contentOn_words (ht : k.Table) (hl : ∀ e ∈ l, e.Labelled k) (ho : o < k.created) :
    contentOn (k.cells o).id (outbox l) = (messages (words o l)).map Prod.snd := by
  induction l with
  | nil => rfl
  | cons e l ih =>
      have ih' := ih fun e' he => hl e' (List.mem_cons_of_mem e he)
      by_cases hsent : ∃ obj w f, e = .sent obj w f
      · obtain ⟨obj, w, f, rfl⟩ := hsent
        have hlabel := hl _ List.mem_cons_self
        have hcontent := isContent_labelled hlabel
        rw [outbox_sent, contentOn_append, ih']
        cases obj with
        | none =>
            have hw : words o (.sent none w f :: l) = words o l := rfl
            have hf : f.isContent ≠ true := by
              cases f with
              | headers g => exact False.elim hlabel
              | data d => exact False.elim hlabel
              | invalid g => exact False.elim hlabel
              | _ => exact Bool.false_ne_true
            rw [hw, contentOn_other fun hm => absurd hm hf, List.append_nil]
        | some p =>
            obtain ⟨hp, hfor⟩ := hlabel
            have hid : f.isContent = true → f.streamId = some (k.cells p).id := by
              intro hm
              cases f with
              | headers g => exact congrArg some hfor
              | data d => exact congrArg some hfor
              | invalid g => exact False.elim hfor
              | _ => exact absurd hm Bool.false_ne_true
            rw [words_sent]
            by_cases hpo : p = o
            · subst hpo
              rw [if_pos rfl]
              cases hm : f.isContent with
              | true =>
                  rw [messages_concat _ (y := (w, f)) (hcontent.symm.trans hm),
                    contentOn_single hm (hid hm), List.map_append]
                  rfl
              | false =>
                  rw [messages_other _ (y := (w, f)) (hcontent.symm.trans hm), contentOn_other,
                    List.append_nil]
                  rw [hm]
                  exact fun hf => absurd hf Bool.false_ne_true
            · rw [if_neg hpo, contentOn_other, List.append_nil]
              intro hm heq
              rw [hid hm] at heq
              exact hpo ((id_eq_iff ht hp ho).mp (Option.some.inj heq))
      · have hnone : outbox (e :: l) = outbox l := by
          unfold outbox
          congr 1
          refine List.filterMap_cons_none ?_
          cases e with
          | sent obj w g => exact absurd ⟨obj, w, g, rfl⟩ hsent
          | _ => rfl
        rw [hnone, ih', words_other fun p w f heq => hsent ⟨some p, w, f, heq⟩]

end Session

/-- No HEADERS or DATA follow the frame that ends a stream. -/
theorem EndLast.messages {xs as bs : List Word} {x : Word} (h : EndLast xs)
    (heq : messages xs = as ++ x :: bs) (hx : x.2.endsStream = true) : bs = [] := by
  obtain ⟨l1, l2, rfl, -, h2⟩ := List.filter_eq_append_iff.mp heq
  obtain ⟨l3, l4, rfl, -, -, h4⟩ := List.filter_eq_cons_iff.mp h2
  refine List.eq_nil_iff_forall_not_mem.mpr fun y hy => ?_
  rw [← h4] at hy
  obtain ⟨hmem, hm⟩ := List.mem_filter.mp hy
  have hlast := h (l1 ++ l3) x l4 (by rw [List.append_assoc]) hx y hmem
  generalize y.2 = f at hm hlast
  cases f with
  | headers g =>
      exact hlast.elim (fun hf => absurd hf Bool.false_ne_true)
        fun hf => absurd hf Bool.false_ne_true
  | data d =>
      exact hlast.elim (fun hf => absurd hf Bool.false_ne_true)
        fun hf => absurd hf Bool.false_ne_true
  | _ => exact absurd hm Bool.false_ne_true

section

variable {s : Setup} {n : Net} (h : Joined s n) {p : Party}

include h

/-- HEADERS and DATA are written for a stream. -/
theorem Joined.written_for {f : Frame} (hout : f ∈ outbox (n.ends p).log)
    (hf : f.isContent = true) : ∃ q w, .sent (some q) w f ∈ (n.ends p).log ∧
      q < (n.ends p).created ∧ f.streamId = some ((n.ends p).objs q).id := by
  obtain ⟨obj, w, hsent⟩ := mem_outbox.mp hout
  have hlabel := (h.endpoint p).books.labelled _ hsent
  cases obj with
  | none =>
      cases f with
      | headers g => exact False.elim hlabel
      | data d => exact False.elim hlabel
      | invalid g => exact False.elim hlabel
      | _ => exact absurd hf Bool.false_ne_true
  | some q =>
      obtain ⟨hq, hfor⟩ := hlabel
      refine ⟨q, w, hsent, hq, ?_⟩
      cases f with
      | headers g => exact congrArg some hfor
      | data d => exact congrArg some hfor
      | invalid g => exact False.elim hfor
      | _ => exact absurd hf Bool.false_ne_true

/-- Nothing that was sent on an id follows the end of its stream. -/
theorem Joined.ended {id : StreamId} {fs rest : List Frame}
    (heq : contentOn id (outbox (n.ends p).log) = fs ++ rest) {f : Frame} (hf : f ∈ fs)
    (hend : f.endsStream = true) : rest = [] := by
  have hmem : f ∈ contentOn id (outbox (n.ends p).log) := heq ▸ List.mem_append_left rest hf
  obtain ⟨hout, hon⟩ := List.mem_filter.mp hmem
  obtain ⟨hm, hid⟩ := Bool.and_eq_true_iff.mp hon
  obtain ⟨q, w, hsent, hq, hfid⟩ := h.written_for hout hm
  have hidq : id = ((n.ends p).objs q).id :=
    Option.some.inj ((eq_of_beq hid).symm.trans hfid)
  have hwords := Session.contentOn_words (h.clean p).good.table (h.endpoint p).books.labelled hq
  have hne := (h.clean p).good.emission.sane q
  have hlast := ((spoken_phase hne).sentence hne).2.1
  obtain ⟨as, bs, hsplit⟩ := List.append_of_mem hf
  have hall : (messages (words q (n.ends p).log)).map Prod.snd = as ++ f :: (bs ++ rest) := by
    have := hwords.symm.trans (hidq ▸ heq)
    rw [hsplit, List.append_assoc] at this
    exact this
  obtain ⟨l1, l2, hl, -, h2⟩ := List.map_eq_append_iff.mp hall
  obtain ⟨x, l3, rfl, hxf, h3⟩ := List.map_eq_cons_iff.mp h2
  have hnil : l3 = [] := hlast.messages hl (by rw [hxf]; exact hend)
  rw [hnil] at h3
  exact (List.append_eq_nil_iff.mp h3.symm).2

/-- HEADERS and DATA that have been read are on an id that is used. -/
theorem Joined.spent {f : Frame} (hin : f ∈ inbox (n.ends p).log) (hf : f.isContent = true)
    {id : StreamId} (hid : f.streamId = some id) : (n.ends p).session.Used id := by
  obtain ⟨g, hout, hread⟩ := h.origin hin
  obtain ⟨q, w, -, hq, hgid⟩ := h.written_for hout (hread.isContent.trans hf)
  have heq : id = ((n.ends p.peer).objs q).id :=
    Option.some.inj (hid.symm.trans (hread.streamId.symm.trans hgid))
  have ht := (h.clean p.peer).good.table
  cases p with
  | client =>
      have hserver : (n.ends .server).server = true := (h.side .server).trans s.server
      have hclient : (n.ends .client).server = false := (h.side .client).trans s.client
      refine ⟨fun hs => Bool.noConfusion (hclient.symm.trans hs), fun _ => ?_⟩
      rw [heq]
      exact Nat.lt_of_le_of_lt (ht.heard hserver q hq).1 h.heard
  | server =>
      have hserver : (n.ends .server).server = true := (h.side .server).trans s.server
      have hgreeted : f.headersId = some id → (n.ends .server).session.Used id := fun hh =>
        ⟨fun _ => (h.endpoint .server).greeted hserver f hin id hh,
          fun hs => Bool.noConfusion (hserver.symm.trans hs)⟩
      cases hread with
      | rejected v he => exact hgreeted hid
      | same =>
          cases f with
          | headers g => exact hgreeted hid
          | data d =>
              obtain ⟨obj, hrec⟩ := mem_inbox.mp hin
              have hat := (h.endpoint .server).books.attributed obj (.data d) hrec
              refine hat.used trivial id hid ?_
              rw [heq]
              exact Session.id_ne_zero ht hq
          | invalid g =>
              obtain ⟨obj, w', hsent⟩ := mem_outbox.mp hout
              have hlabel := (h.endpoint .client).books.labelled _ hsent
              exact absurd (Session.isContent_labelled hlabel) (by exact nofun)
          | _ => exact absurd hf Bool.false_ne_true

/-- Nothing has arrived for a stream before it is opened. -/
theorem Joined.unheard {a : Connection.Step} (ha : (n.ends p).Enabled a) :
    Unheard (n.ends p) ((n.ends p).step a) := by
  obtain ⟨hc', hpass, -, -⟩ := (h.clean p).advance (h.endpoint p).books.grants (h.windowSz p) ha
  intro o ho ho'
  refine List.filter_eq_nil_iff.mpr fun f hf hon => ?_
  obtain ⟨hm, hid⟩ := Bool.and_eq_true_iff.mp hon
  exact hpass.unused (h.clean p).good.table hc'.good.table ho ho' (h.spent hf hm (eq_of_beq hid))

/-- A step of an end that receives no frame. -/
theorem Joined.delivers_act {ms : List (Obj × Message)} (hd : (n.ends p).Delivers ms)
    {a : Connection.Step} (hl : Connection.Local a) (ha : (n.ends p).Enabled a) :
    ((n.ends p).step a).Delivers (ms ++ (n.ends p).told a) := by
  obtain ⟨-, hpass, -, -⟩ := (h.clean p).advance (h.endpoint p).books.grants (h.windowSz p) ha
  obtain ⟨-, hin, -⟩ := (h.endpoint p).local_step (h.clean p) (h.windowSz p) ha hl
  exact hd.local_step (Connection.mute_local _ hl) hpass.ids hin (h.unheard ha)
    (Connection.told_local _ hl) (Connection.told_scope (h.clean p).good.table ha hl)

/-- The first frame on the way to an end is delivered. -/
theorem Joined.delivers_frame {ms : List (Obj × Message)} (hd : (n.ends p).Delivers ms)
    (herr : (n.ends p).ackErrors = []) {g : Frame} (hg : n.Possible (.deliver p g)) :
    ((n.ends p).receive g).Delivers (ms ++ (n.ends p).told (.receive g)) := by
  obtain ⟨⟨f, hf, hread⟩, hl⟩ := hg
  obtain ⟨rest, hw, -⟩ := h.head hf
  have ha : (n.ends p).Enabled (.receive g) := hl
  obtain ⟨-, hpass, -, -⟩ := (h.clean p).advance (h.endpoint p).books.grants (h.windowSz p) ha
  have hears := (h.endpoint p).receive (h.clean p) (h.windowSz p) (s.ack p.peer)
    (s.push p.peer) hl (h.fits hw hread)
  exact hd.receive hears.inbox hpass.ids (h.clean p).good.table (h.unheard ha)
    (Connection.reply_receive (h.clean p) (h.windowSz p) herr g)

end

namespace Net

variable {s : Setup} {n : Net} {ms : Party → List (Obj × Message)}

/-- What an end has been told is what its own run tells. -/
theorem Told.ends (h : Told s n ms) (p : Party) :
    Connection.Told (s.start p) (n.ends p) (ms p) := by
  induction h with
  | new => exact .new
  | @move n ms m hrun hm ih =>
      have hstep : ∀ (q : Party) (a : Connection.Step) (way : Party → List Frame),
          (n.ends q).Enabled a → Connection.Told (s.start p)
            (({ n with way := way } : Net).advance q a |>.ends p)
            (Function.update ms q (ms q ++ (n.ends q).told a) p) := by
        intro q a way ha
        rcases Party.eq_or_peer q p with rfl | rfl
        · rw [advance_ends, Function.update_self]
          exact ih.step a ha
        · rw [advance_ends_peer, Function.update_of_ne q.peer_ne]
          exact ih
      cases m with
      | act q a => exact hstep q a n.way hm.2
      | deliver q f => exact hstep q (.receive f) _ hm.2

/-- The invariant of all runs. -/
theorem Told.delivers (h : Told s n ms) (p : Party) : (n.ends p).Delivers (ms p) := by
  induction h with
  | new =>
      exact ⟨fun e he => absurd he List.not_mem_nil, fun o ho => absurd ho (Nat.not_lt_zero o)⟩
  | @move n ms m hrun hm ih =>
      have hj := hrun.reachable.joined
      have herr : (n.ends p).ackErrors = [] := ((hrun.ends p).heard (s.windowSz p)).2.1
      cases m with
      | act q a =>
          unfold Net.move hears
          dsimp only
          rcases Party.eq_or_peer q p with rfl | rfl
          · rw [advance_ends, Function.update_self]
            exact hj.delivers_act ih hm.1 hm.2
          · rw [advance_ends_peer, Function.update_of_ne q.peer_ne]
            exact ih
      | deliver q f =>
          unfold Net.move hears
          dsimp only
          rcases Party.eq_or_peer q p with rfl | rfl
          · rw [advance_ends, Function.update_self]
            exact hj.delivers_frame ih herr hm
          · rw [advance_ends_peer, Function.update_of_ne q.peer_ne]
            exact ih

/-- What has been read on an id begins with the frames `fs`, and all of them are valid: so begins
what was written. -/
theorem read_content {id : StreamId} {out inn way fs late : List Frame}
    (h : Lib.Channel Frame.ReadAs out inn way) (hin : contentOn id inn = fs ++ late)
    (hvalid : ∀ f ∈ fs, ∀ x, f ≠ .invalid x) :
    ∃ late', contentOn id out = fs ++ (late' ++ contentOn id way) ∧
      List.Forall₂ Frame.ReadAs late' late := by
  obtain ⟨taken, hout, hread⟩ := h.filter
    (p := fun f => f.isContent && f.streamId == some id)
    (q := fun f => f.isContent && f.streamId == some id)
    fun f g hfg => by rw [hfg.isContent, hfg.streamId]
  change List.Forall₂ _ taken (contentOn id inn) at hread
  rw [hin] at hread
  have hfs : taken.take fs.length = fs :=
    Lib.forall₂_eq (List.forall₂_take_append taken fs late hread) fun f g hg hfg =>
      hfg.eq (hvalid g hg)
  refine ⟨taken.drop fs.length, ?_, List.forall₂_drop_append taken fs late hread⟩
  rw [← List.append_assoc]
  nth_rewrite 1 [← hfs]
  rw [List.take_append_drop]
  exact hout

/-- The content that the application of a stream hears is made of the first HEADERS and DATA
frames that the peer has sent on the id of the stream, in their order, each of them once and
unchanged.  While the receive half is open the rest is on its way, or lost; after a message that
ends the stream there is none; and nothing is lost before the peer has closed its io. -/
theorem delivery (h : Told s n ms) (p : Party) {o : Obj} (ho : o < (n.ends p).created) :
    ∃ fs rest, contentOn ((n.ends p).objs o).id (outbox (n.ends p.peer).log) = fs ++ rest ∧
      List.Forall₂ Frame.Carries fs (contents (addressed o (ms p))) ∧
      (((n.ends p).objs o).recv.isClosed = false →
        rest = contentOn ((n.ends p).objs o).id (n.arriving p) ++
          contentOn ((n.ends p).objs o).id (n.lost p)) ∧
      ((∃ m ∈ contents (addressed o (ms p)), m.endsStream = true) → rest = []) ∧
      (.close ∉ (n.ends p.peer).log → n.lost p = []) := by
  have hj := h.reachable.joined
  obtain ⟨fs, late, hin, hcarry, hopen⟩ := (h.delivers p).streams o ho
  have hvalid : ∀ f ∈ fs, ∀ x, f ≠ .invalid x := by
    rintro f hf x rfl
    obtain ⟨m, -, hcar⟩ := Lib.forall₂_left hcarry hf
    exact hcar
  obtain ⟨late', hsplit, hlate⟩ := read_content (hj.fifo p) hin hvalid
  refine ⟨fs, _, hsplit, hcarry, fun hop => ?_, ?_, dropped_open⟩
  · rw [hopen hop, List.forall₂_nil_right_iff] at hlate
    rw [hlate, List.nil_append, ← contentOn_append, ← hj.way p]
  · rintro ⟨m, hm, hend⟩
    obtain ⟨f, hf, hcar⟩ := Lib.forall₂_right hcarry hm
    exact hj.ended hsplit hf (hcar.ends.trans hend)

/-- The messages of some moves. -/
def talk (n : Net) (ms : Party → List (Obj × Message)) : List Move → Party → List (Obj × Message)
  | [] => ms
  | m :: l => (n.move m).talk (n.hears ms m) l

theorem Told.after (l : List Move) : ∀ {n : Net} {ms : Party → List (Obj × Message)},
    Told s n ms → n.Allowed l → Told s (n.after l) (n.talk ms l) := by
  induction l with
  | nil => exact fun h _ => h
  | cons m l ih => exact fun h ha => ih (.move m h ha.1) ha.2

/-- A request whose payload is delivered; the server closes its io, and then responds. -/
def conversation : List Move := meeting ++
  [.deliver .server (.data ⟨1, [1, 2, 3], 3, true⟩), .act .server .forceClose,
    .act .server (.sendResponse 0 200 [] true)]

theorem conversation_allowed : (Net.new meetingSetup).Allowed conversation := by
  refine ⟨⟨trivial, rfl⟩, ⟨trivial, ?_⟩, possible_same rfl ⟨?_, nofun⟩,
    possible_same rfl ⟨nofun, nofun⟩, possible_same rfl ⟨by decide, by decide⟩,
    possible_same rfl (show (1 : Nat) < 2 ^ 31 by decide), possible_same rfl ?_,
    ⟨trivial, trivial⟩, ⟨trivial, ?_⟩, trivial⟩
  · show 0 < _
    decide
  · intro v hv
    cases hv
    decide
  · show (1 : Nat) ≠ 0 ∧ 1 < 2 ^ 31 ∧ [1, 2, 3].length ≤ 3 ∧ 3 < 2 ^ 24
    decide
  · show 0 < _
    decide

/-- The server hears the whole request, and the client will not hear the response. -/
theorem delivery_conversation : ∃ n ms, Told meetingSetup n ms ∧
    contents (addressed 0 (ms .server)) =
      [.headers ((n.ends .client).requestPseudo Connection.someRequest) [] false,
        .eofData [1, 2, 3]] ∧
    (∃ fs rest, contentOn 1 (outbox (n.ends .client).log) = fs ++ rest ∧
      List.Forall₂ Frame.Carries fs (contents (addressed 0 (ms .server))) ∧ rest = []) ∧
    contents (addressed 0 (ms .client)) = [] ∧ contentOn 1 (n.lost .client) ≠ [] ∧
    ∃ fs rest, contentOn 1 (outbox (n.ends .server).log) = fs ++ rest ∧
      List.Forall₂ Frame.Carries fs (contents (addressed 0 (ms .client))) ∧
      rest = contentOn 1 (n.arriving .client) ++ contentOn 1 (n.lost .client) := by
  have h : Told meetingSetup _ _ := .after conversation .new conversation_allowed
  obtain ⟨fs, rest, hsplit, hcarry, -, hlast, -⟩ := delivery h .server (o := 0) (by decide)
  obtain ⟨gs, rest', hsplit', hcarry', hopen, -⟩ := delivery h .client (o := 0) (by decide)
  exact ⟨_, _, h, by decide,
    ⟨fs, rest, hsplit, hcarry, hlast ⟨.eofData [1, 2, 3], by decide, rfl⟩⟩,
    by decide, by decide, gs, rest', hsplit', hcarry', hopen rfl⟩

end Net

end NtexH2
