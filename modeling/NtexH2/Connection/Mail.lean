/-
  Connection/Mail.lean --- the frames of a history.

  What a connection has written, and what it has received, are lists of frames,
  the oldest first.  The measures of a history on one of its streams are those of
  its frames on the id of the stream, as far as the frames have found their stream.
  What is written behind the close of the io never leaves it, and of a list of headers
  the codec of the peer may make an invalid frame.
-/
import NtexH2.Connection.PastSteps
import NtexH2.Lib.Channel

set_option autoImplicit false

namespace NtexH2

/-! ## Measures of frames -/

namespace Frame

/-- The octets of a DATA frame. -/
def payload : Frame → Nat
  | .data d => d.flowLen
  | _ => 0

/-- The octets of a DATA frame on the stream `id`. -/
def payloadOn (id : StreamId) : Frame → Nat
  | .data d => if d.streamId = id then d.flowLen else 0
  | _ => 0

/-- The increment of a WINDOW_UPDATE frame on the stream `id`, or on the connection. -/
def increment (id : StreamId) : Frame → Nat
  | .windowUpdate i n => if i = id then n else 0
  | _ => 0

/-- Frames that change a window. -/
def Weighs : Frame → Prop
  | .data _ | .windowUpdate _ _ => True
  | _ => False

/-- What the codec of the receiver makes of a frame: the frame, or an invalid one in place of a
header list that is malformed or over a limit. -/
inductive ReadAs : Frame → Frame → Prop where
  | same (f : Frame) : ReadAs f f
  | rejected (h : Headers) {e : FrameError}
      (he : e = .malformedMessage ∨ e = .tooManyHeaders h.streamId) :
      ReadAs (.headers h) (.invalid ⟨.headers, h.streamId, e⟩)

theorem ReadAs.eq {f g : Frame} (h : ReadAs f g) (hg : ∀ x, g ≠ .invalid x) : f = g := by
  cases h with
  | same => rfl
  | rejected h he => exact absurd rfl (hg _)

theorem ReadAs.settings {f : Frame} {s : Settings} (h : ReadAs f (.settings s)) :
    f = .settings s := h.eq nofun

theorem ReadAs.payload {f g : Frame} (h : ReadAs f g) : f.payload = g.payload := by
  cases h <;> rfl

theorem ReadAs.payloadOn (id : StreamId) {f g : Frame} (h : ReadAs f g) :
    f.payloadOn id = g.payloadOn id := by
  cases h <;> rfl

theorem ReadAs.increment (id : StreamId) {f g : Frame} (h : ReadAs f g) :
    f.increment id = g.increment id := by
  cases h <;> rfl

theorem ReadAs.streamId {f g : Frame} (h : ReadAs f g) : f.streamId = g.streamId := by
  cases h <;> rfl

theorem ReadAs.headersId {f g : Frame} (h : ReadAs f g) : f.headersId = g.headersId := by
  cases h with
  | same => rfl
  | rejected h he => rfl

/-- HEADERS and DATA, and the invalid frames that stand for HEADERS. -/
def isContent : Frame → Bool
  | .headers _ | .data _ | .invalid _ => true
  | _ => false

theorem ReadAs.isContent {f g : Frame} (h : ReadAs f g) : f.isContent = g.isContent := by
  cases h <;> rfl

/-- A frame that ends a stream is read as it is. -/
theorem ReadAs.ends {f g : Frame} (h : ReadAs f g) (hg : g.endsStream = true) : f = g :=
  h.eq fun x hx => by
    rw [hx] at hg
    cases hg

end Frame

/-- The sum of a measure over frames. -/
def load (m : Frame → Nat) (fs : List Frame) : Nat := (fs.map m).sum

theorem load_cons (m : Frame → Nat) (f : Frame) (fs : List Frame) :
    load m (f :: fs) = m f + load m fs := rfl

theorem load_append (m : Frame → Nat) (fs gs : List Frame) :
    load m (fs ++ gs) = load m fs + load m gs := by
  unfold load
  rw [List.map_append, List.sum_append]

/-- The codec changes no measure of the frames that it reads. -/
theorem load_read {m : Frame → Nat} (hm : ∀ f g, Frame.ReadAs f g → m f = m g)
    {fs gs : List Frame} (h : List.Forall₂ Frame.ReadAs fs gs) : load m fs = load m gs :=
  Lib.forall₂_sum hm h

/-! ## The frames of a history -/

namespace Event

/-- The frame that is written. -/
def outgoing : Event → Option Frame
  | .sent _ _ f => some f
  | _ => none

/-- The frame that is received. -/
def incoming : Event → Option Frame
  | .received _ f => some f
  | _ => none

theorem incoming_kept {e : Event} (h : e.kept = false) : e.incoming = none := by
  cases e with
  | received obj f => cases h
  | _ => rfl

end Event

/-- The frames that are written, the oldest first. -/
def outbox (l : List Event) : List Frame := (l.filterMap Event.outgoing).reverse

/-- The frames that are received, the oldest first. -/
def inbox (l : List Event) : List Frame := (l.filterMap Event.incoming).reverse

/-- The frames that are written behind the close of the io, which drops them. -/
def dropped : List Event → List Frame
  | [] => []
  | e :: l => if .close ∈ l then dropped l ++ outbox [e] else []

theorem outbox_append (es l : List Event) : outbox (es ++ l) = outbox l ++ outbox es := by
  unfold outbox
  rw [List.filterMap_append, List.reverse_append]

theorem inbox_append (es l : List Event) : inbox (es ++ l) = inbox l ++ inbox es := by
  unfold inbox
  rw [List.filterMap_append, List.reverse_append]

theorem outbox_sent (obj : Option Obj) (w : Writer) (f : Frame) (l : List Event) :
    outbox (.sent obj w f :: l) = outbox l ++ [f] := outbox_append [.sent obj w f] l

/-- Nothing is dropped by an io that is open. -/
theorem dropped_open {l : List Event} (h : .close ∉ l) : dropped l = [] := by
  cases l with
  | nil => rfl
  | cons e l => exact if_neg fun hl => h (List.mem_cons_of_mem e hl)

/-- What was dropped stays so, and of later frames the last ones are dropped. -/
theorem dropped_append (es l : List Event) : dropped (es ++ l) <:+ dropped l ++ outbox es := by
  induction es with
  | nil =>
      rw [List.nil_append, show outbox [] = [] from rfl, List.append_nil]
  | cons e es ih =>
      have hsplit := outbox_append [e] es
      rw [List.singleton_append] at hsplit
      show (if Event.close ∈ es ++ l then dropped (es ++ l) ++ outbox [e] else []) <:+ _
      split
      · obtain ⟨kept, hkept⟩ := ih
        exact ⟨kept, by rw [hsplit, ← List.append_assoc, hkept, List.append_assoc]⟩
      · exact List.nil_suffix

theorem mem_outbox {f : Frame} {l : List Event} :
    f ∈ outbox l ↔ ∃ obj w, .sent obj w f ∈ l := by
  unfold outbox
  rw [List.mem_reverse, List.mem_filterMap]
  constructor
  · rintro ⟨e, he, hf⟩
    cases e with
    | sent obj w g =>
        cases hf
        exact ⟨obj, w, he⟩
    | _ => cases hf
  · rintro ⟨obj, w, he⟩
    exact ⟨_, he, rfl⟩

theorem mem_inbox {f : Frame} {l : List Event} : f ∈ inbox l ↔ ∃ obj, .received obj f ∈ l := by
  unfold inbox
  rw [List.mem_reverse, List.mem_filterMap]
  constructor
  · rintro ⟨e, he, hf⟩
    cases e with
    | received obj g =>
        cases hf
        exact ⟨obj, he⟩
    | _ => cases hf
  · rintro ⟨obj, he⟩
    exact ⟨_, he, rfl⟩

/-- The point of a history at which a frame was written. -/
theorem outbox_split {l : List Event} : ∀ {as bs : List Frame} {f : Frame},
    outbox l = as ++ f :: bs →
      ∃ late obj w l', l = late ++ .sent obj w f :: l' ∧ outbox l' = as := by
  induction l with
  | nil =>
      intro as bs f h
      exact absurd (congrArg List.length h) (by simp [outbox])
  | cons e l ih =>
      intro as bs f h
      by_cases hsent : ∃ obj w g, e = .sent obj w g
      · obtain ⟨obj, w, g, rfl⟩ := hsent
        rw [outbox_sent] at h
        rcases split_concat h with ⟨h1, rfl, -⟩ | ⟨bs', -, h2⟩
        · exact ⟨[], obj, w, l, rfl, h1⟩
        · obtain ⟨late, obj', w', l', hl, hw⟩ := ih h2
          exact ⟨.sent obj w g :: late, obj', w', l', by rw [hl]; rfl, hw⟩
      · have hnone : outbox (e :: l) = outbox l := by
          unfold outbox
          congr 1
          refine List.filterMap_cons_none ?_
          cases e with
          | sent obj w g => exact absurd ⟨obj, w, g, rfl⟩ hsent
          | _ => rfl
        rw [hnone] at h
        obtain ⟨late, obj, w, l', hl, hw⟩ := ih h
        exact ⟨e :: late, obj, w, l', by rw [hl]; rfl, hw⟩

/-- The words of a stream are frames that are written for it. -/
theorem mem_words {o : Obj} {w : Writer} {f : Frame} {l : List Event} :
    (w, f) ∈ words o l ↔ .sent (some o) w f ∈ l := by
  induction l with
  | nil => exact ⟨fun h => absurd h List.not_mem_nil, fun h => absurd h List.not_mem_nil⟩
  | cons e l ih =>
      rw [List.mem_cons, ← ih]
      by_cases hsent : ∃ p w' f', e = .sent (some p) w' f'
      · obtain ⟨p, w', f', rfl⟩ := hsent
        rw [words_sent]
        by_cases hpo : p = o
        · subst hpo
          rw [if_pos rfl, List.mem_append, List.mem_singleton, or_comm]
          refine or_congr_left ⟨fun heq => ?_, fun heq => ?_⟩
          · cases heq
            rfl
          · cases heq
            rfl
        · rw [if_neg hpo]
          refine ⟨.inr, fun hor => hor.resolve_left fun heq => hpo ?_⟩
          cases heq
          rfl
      · rw [words_other fun p w' f' heq => hsent ⟨p, w', f', heq⟩]
        refine ⟨.inr, fun hor => hor.resolve_left fun heq => hsent ⟨o, w, f, heq.symm⟩⟩

/-! ## Measures of a history -/

theorem total_congr {f g : Event → Nat} {l : List Event} (h : ∀ e ∈ l, f e = g e) :
    total f l = total g l := by
  unfold total
  rw [List.map_congr_left h]

theorem load_outbox (m : Frame → Nat) (l : List Event) :
    load m (outbox l) = total (fun e => e.outgoing.elim 0 m) l := by
  induction l with
  | nil => rfl
  | cons e l ih =>
      have hsplit := outbox_append [e] l
      rw [List.singleton_append] at hsplit
      rw [hsplit, load_append, ih, total_cons, Nat.add_comm]
      congr 1
      cases e with
      | sent obj w f => exact Nat.add_zero _
      | _ => rfl

theorem load_inbox (m : Frame → Nat) (l : List Event) :
    load m (inbox l) = total (fun e => e.incoming.elim 0 m) l := by
  induction l with
  | nil => rfl
  | cons e l ih =>
      have hsplit := inbox_append [e] l
      rw [List.singleton_append] at hsplit
      rw [hsplit, load_append, ih, total_cons, Nat.add_comm]
      congr 1
      cases e with
      | received obj f => exact Nat.add_zero _
      | _ => rfl

theorem sentData_outbox (l : List Event) :
    total Event.sentData l = load Frame.payload (outbox l) := by
  rw [load_outbox]
  refine total_congr fun e _ => ?_
  cases e with
  | sent obj w f => cases f <;> rfl
  | _ => rfl

theorem gotData_inbox (l : List Event) : total Event.gotData l = load Frame.payload (inbox l) := by
  rw [load_inbox]
  refine total_congr fun e _ => ?_
  cases e with
  | received obj f => cases f <;> rfl
  | _ => rfl

theorem conCredit_inbox (l : List Event) :
    total Event.conCredit l = load (Frame.increment 0) (inbox l) := by
  rw [load_inbox]
  refine total_congr fun e _ => ?_
  cases e with
  | received obj f => cases f <;> rfl
  | _ => rfl

theorem total_le {f g : Event → Nat} {l : List Event} (h : ∀ e ∈ l, f e ≤ g e) :
    total f l ≤ total g l := by
  induction l with
  | nil => exact Nat.le_refl _
  | cons e l ih =>
      rw [total_cons, total_cons]
      exact Nat.add_le_add (h e List.mem_cons_self)
        (ih fun e' he => h e' (List.mem_cons_of_mem e he))

namespace Session

variable {k k' : Session} {l : List Event} {o : Nat}

/-! ## Written for a stream -/

theorem id_eq_iff (ht : k.Table) {p : Nat} (hp : p < k.created) (ho : o < k.created) :
    (k.cells p).id = (k.cells o).id ↔ p = o :=
  ⟨ht.id_inj hp ho, fun h => h ▸ rfl⟩

theorem id_ne_zero (ht : k.Table) (ho : o < k.created) : (k.cells o).id ≠ 0 := by
  have := ht.id_odd ho
  omega

theorem sentOn_outbox (ht : k.Table) (hl : ∀ e ∈ l, e.Labelled k) (ho : o < k.created) :
    total (Event.sentOn o) l = load (Frame.payloadOn (k.cells o).id) (outbox l) := by
  rw [load_outbox]
  refine total_congr fun e he => ?_
  have hlabel := hl e he
  cases e with
  | sent obj w f =>
      cases f with
      | data d =>
          cases obj with
          | none => exact False.elim hlabel
          | some p =>
              obtain ⟨hp, hid⟩ := hlabel
              have hid' : d.streamId = (k.cells p).id := hid
              show (if p = o then d.flowLen else 0) =
                if d.streamId = (k.cells o).id then d.flowLen else 0
              rw [hid', if_congr (id_eq_iff ht hp ho) rfl rfl]
      | _ => cases obj <;> rfl
  | _ => rfl

theorem grant_outbox (ht : k.Table) (hl : ∀ e ∈ l, e.Labelled k) (ho : o < k.created) :
    total (Event.grant o) l = load (Frame.increment (k.cells o).id) (outbox l) := by
  rw [load_outbox]
  refine total_congr fun e he => ?_
  have hlabel := hl e he
  cases e with
  | sent obj w f =>
      cases f with
      | windowUpdate i n =>
          cases obj with
          | none =>
              have hid : i = 0 := hlabel
              show 0 = if i = (k.cells o).id then n else 0
              rw [if_neg fun h => id_ne_zero ht ho (h.symm.trans hid)]
          | some p =>
              obtain ⟨hp, hid⟩ := hlabel
              have hid' : i = (k.cells p).id := hid
              show (if p = o then n else 0) = if i = (k.cells o).id then n else 0
              rw [hid', if_congr (id_eq_iff ht hp ho) rfl rfl]
      | _ => cases obj <;> rfl
  | _ => rfl

theorem conGrant_outbox (ht : k.Table) (hl : ∀ e ∈ l, e.Labelled k) :
    total Event.conGrant l = load (Frame.increment 0) (outbox l) := by
  rw [load_outbox]
  refine total_congr fun e he => ?_
  have hlabel := hl e he
  cases e with
  | sent obj w f =>
      cases f with
      | windowUpdate i n =>
          cases obj with
          | none =>
              have hid : i = 0 := hlabel
              show n = if i = 0 then n else 0
              rw [if_pos hid]
          | some p =>
              obtain ⟨hp, hid⟩ := hlabel
              have hid' : i = (k.cells p).id := hid
              show 0 = if i = 0 then n else 0
              rw [if_neg fun h => id_ne_zero ht hp (hid'.symm.trans h)]
      | _ => cases obj <;> rfl
  | _ => rfl

/-- A frame in the words of its stream. -/
theorem words_at {late : List Event} {w : Writer} {f : Frame}
    (hl : ∀ e ∈ late ++ .sent (some o) w f :: l, e.Labelled k) :
    ∃ ys, words o (late ++ .sent (some o) w f :: l) = words o l ++ (w, f) :: ys := by
  have hlate : ∀ e ∈ late, ∀ p w' f', e = .sent (some p) w' f' → p < k.created := by
    intro e he p w' f' heq
    subst heq
    exact (hl _ (List.mem_append_left _ he)).1
  obtain ⟨ys, hys, -⟩ := words_append (o := o) (l := .sent (some o) w f :: l) hlate
  refine ⟨ys, ?_⟩
  rw [hys, words_sent, if_pos rfl, List.append_assoc]
  rfl

/-- A frame that ends a stream was written for it. -/
theorem ending_sent (ht : k.Table) (ho : o < k.created) {obj : Option Obj} {w : Writer} {f : Frame}
    (hlabel : (Event.sent obj w f).Labelled k) (hend : f.endsStream = true)
    (hid : f.streamId = some (k.cells o).id) : obj = some o := by
  cases obj with
  | none =>
      cases f with
      | data d => exact False.elim hlabel
      | headers hd => exact False.elim hlabel
      | _ => cases hend
  | some p =>
      obtain ⟨hp, hfor⟩ := hlabel
      have heq : (k.cells p).id = (k.cells o).id := by
        cases f with
        | data d => exact hfor.symm.trans (Option.some.inj hid)
        | headers hd => exact hfor.symm.trans (Option.some.inj hid)
        | _ => cases hend
      rw [ht.id_inj hp ho heq]

/-- HEADERS are written for a stream, on its id. -/
theorem headers_sent {obj : Option Obj} {w : Writer} {f : Frame} {id : StreamId}
    (hlabel : (Event.sent obj w f).Labelled k) (hid : f.headersId = some id) :
    ∃ o, obj = some o ∧ o < k.created ∧ id = (k.cells o).id := by
  cases obj with
  | none =>
      cases f with
      | headers g => exact False.elim hlabel
      | invalid g => exact False.elim hlabel
      | _ => cases hid
  | some o =>
      obtain ⟨ho, hfor⟩ := hlabel
      refine ⟨o, rfl, ho, ?_⟩
      cases f with
      | headers g => exact (Option.some.inj hid).symm.trans hfor
      | invalid g => exact False.elim hfor
      | _ => cases hid

/-- A client opens a stream before it sends on it. -/
theorem Begins.before (h : k.Begins) (hs : k.server = false) (ho : o < k.created) {w : Writer}
    {f : Frame} {ys : List Word} (hf : f.Weighs) (hw : words o k.log = words o l ++ (w, f) :: ys) :
    ∃ hd, (.sendHeaders, .headers hd) ∈ words o l ∧ hd.streamId = 2 * o + 1 := by
  obtain ⟨hd, xs, hhead, hid⟩ := h.head hs o ho
  refine ⟨hd, ?_, hid⟩
  rw [hhead] at hw
  cases hwl : words o l with
  | nil =>
      rw [hwl] at hw
      have hframe : .headers hd = f := congrArg Prod.snd (List.cons.inj hw).1
      rw [← hframe] at hf
      exact False.elim hf
  | cons x ys' =>
      rw [hwl] at hw
      rw [(List.cons.inj hw).1]
      exact List.mem_cons_self

/-! ## Received for a stream -/

/-- An id that the session has used. -/
def Used (k : Session) (id : StreamId) : Prop :=
  (k.server = true → id ≤ k.lastId) ∧ (k.server = false → id < k.nextStreamId)

/-- A received frame is for the stream that the map has under its id; one that changes a window
is on an id that is used. -/
structure Attributed (k : Session) (obj : Option Obj) (f : Frame) : Prop where
  named : ∀ o, obj = some o → o < k.created ∧ f.streamId = some (k.cells o).id
  found : f.Weighs → ∀ o ∈ k.values, f.streamId = some (k.cells o).id → obj = some o
  used : f.Weighs → ∀ id, f.streamId = some id → id ≠ 0 → k.Used id

/-- A stream is not created on an id that is used. -/
theorem Passes.unused (hp : Passes k k') (ht : k.Table) (ht' : k'.Table) (ho : k.created ≤ o)
    (ho' : o < k'.created) : ¬k.Used (k'.cells o).id := by
  intro hu
  cases hs : k.server with
  | true =>
      exact absurd (hu.1 hs) (Nat.not_le_of_lt (hp.fresh hs o ho ho'))
  | false =>
      have hs' : k'.server = false := hp.server.trans hs
      have h1 : (k'.cells o).id < k.nextStreamId := hu.2 hs
      have h2 := (ht.given hs).1
      have h3 := (ht'.given hs').2 o ho'
      omega

theorem Used.mono {id : StreamId} (h : k.Used id) (hp : Passes k k') (ht : k.Table)
    (ht' : k'.Table) : k'.Used id := by
  refine ⟨fun hs => ?_, fun hs => ?_⟩
  · exact Nat.le_trans (h.1 (hp.server.symm.trans hs)) hp.lastId
  · have hs' : k.server = false := hp.server.symm.trans hs
    have h1 : k.nextStreamId ≤ k'.nextStreamId := by
      rw [(ht.given hs').1, (ht'.given hs).1]
      have := hp.created
      omega
    exact Nat.lt_of_lt_of_le (h.2 hs') h1

theorem Attributed.mono {obj : Option Obj} {f : Frame} (h : Attributed k obj f)
    (hp : Passes k k') (ht : k.Table) (ht' : k'.Table) : Attributed k' obj f where
  named := by
    intro o ho
    obtain ⟨hlt, hid⟩ := h.named o ho
    rw [hp.ids o hlt]
    exact ⟨Nat.lt_of_lt_of_le hlt hp.created, hid⟩
  found := by
    intro hw o ho hid
    rcases hp.values o ho with hold | hnew
    · rw [hp.ids o (ht.bound o hold)] at hid
      exact h.found hw o hold hid
    · have hlt := ht'.bound o ho
      exact absurd (h.used hw _ hid (id_ne_zero ht' hlt)) (hp.unused ht ht' hnew hlt)
  used := fun hw id hid h0 => (h.used hw id hid h0).mono hp ht ht'

theorem gotOn_inbox (hl : ∀ obj f, .received obj f ∈ l → Attributed k obj f) (ho : o ∈ k.values) :
    total (Event.gotOn o) l = load (Frame.payloadOn (k.cells o).id) (inbox l) := by
  rw [load_inbox]
  refine total_congr fun e he => ?_
  cases e with
  | received obj f =>
      have hat := hl obj f he
      cases f with
      | data d =>
          by_cases hid : d.streamId = (k.cells o).id
          · rw [hat.found trivial o ho (congrArg some hid)]
            show (if o = o then d.flowLen else 0) =
              if d.streamId = (k.cells o).id then d.flowLen else 0
            rw [if_pos rfl, if_pos hid]
          · have hzero : Event.gotOn o (.received obj (.data d)) = 0 := by
              cases obj with
              | none => rfl
              | some p =>
                  refine if_neg fun hpo => hid ?_
                  exact Option.some.inj (hpo ▸ (hat.named p rfl).2)
            rw [hzero]
            exact (if_neg hid).symm
      | _ => cases obj <;> rfl
  | _ => rfl

/-- The credit of a stream is on its id. -/
theorem credit_le_inbox (hl : ∀ obj f, .received obj f ∈ l → Attributed k obj f) :
    total (Event.credit o) l ≤ load (Frame.increment (k.cells o).id) (inbox l) := by
  rw [load_inbox]
  refine total_le fun e he => ?_
  cases e with
  | received obj f =>
      have hat := hl obj f he
      cases f with
      | windowUpdate i n =>
          cases obj with
          | none => exact Nat.zero_le _
          | some p =>
              show (if p = o then n else 0) ≤ if i = (k.cells o).id then n else 0
              by_cases hpo : p = o
              · have hid : i = (k.cells o).id := Option.some.inj (hpo ▸ (hat.named p rfl).2)
                rw [if_pos hpo, if_pos hid]
              · rw [if_neg hpo]
                exact Nat.zero_le _
      | _ => cases obj <;> exact Nat.zero_le _
  | _ => exact Nat.zero_le _

theorem credit_inbox (hl : ∀ obj f, .received obj f ∈ l → Attributed k obj f) (ho : o ∈ k.values) :
    total (Event.credit o) l = load (Frame.increment (k.cells o).id) (inbox l) := by
  refine Nat.le_antisymm (credit_le_inbox hl) ?_
  rw [load_inbox]
  refine total_le fun e he => ?_
  cases e with
  | received obj f =>
      have hat := hl obj f he
      cases f with
      | windowUpdate i n =>
          show (if i = (k.cells o).id then n else 0) ≤ _
          by_cases hid : i = (k.cells o).id
          · rw [hat.found trivial o ho (congrArg some hid), if_pos hid]
            exact Nat.le_of_eq (if_pos rfl).symm
          · rw [if_neg hid]
            exact Nat.zero_le _
      | _ => exact Nat.zero_le _
  | _ => exact Nat.zero_le _

end Session

end NtexH2
