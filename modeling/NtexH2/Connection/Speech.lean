/-
  Connection/Speech.lean --- what an application hears of one stream.

  Whatever the peer sends and the application does, a stream hears its content in the
  order of an HTTP message.  It hears of at most one error; by then both of its halves
  are closed, and nothing comes after it.
-/
import NtexH2.Connection.Replies
import NtexH2.Session.Ages

set_option autoImplicit false

namespace NtexH2

/-! ## Content -/

/-- The content of a stream: interim responses, a head, its data, and an end. -/
inductive Content (remote : Bool) : List Message → Half → Prop where
  | nil : Content remote [] .idle
  | snoc {ms : List Message} {m : Message} {h h' : Half} :
      Content remote ms h → Turns remote h m h' → Content remote (ms ++ [m]) h'

theorem Content.all {r : Bool} {ms : List Message} {h : Half} (hc : Content r ms h) :
    ∀ m ∈ ms, ¬m.Fails := by
  induction hc with
  | nil => exact fun m hm => absurd hm List.not_mem_nil
  | snoc hc ht ih =>
      intro m hm
      rcases List.mem_append.mp hm with hm | hm
      · exact ih m hm
      · rw [List.mem_singleton.mp hm]
        exact ht.content

theorem Turns.ends_iff {r : Bool} {h h' : Half} {m : Message} (ht : Turns r h m h') :
    m.endsStream = true ↔ h' = .closed := by
  cases ht <;> simp [Message.endsStream]

/-- The receive half is closed by the last message, and by no other. -/
theorem Content.ends {r : Bool} {ms : List Message} {h : Half} (hc : Content r ms h) :
    (h ≠ .closed → ∀ m ∈ ms, m.endsStream = false) ∧
      (h = .closed → ∃ front last, ms = front ++ [last] ∧ last.endsStream = true ∧
        ∀ m ∈ front, m.endsStream = false) := by
  induction hc with
  | nil =>
      refine ⟨fun _ m hm => absurd hm List.not_mem_nil, ?_⟩
      intro hcl
      cases hcl
  | @snoc ms m h h' hc ht ih =>
      have hfront := ih.1 ht.open
      constructor
      · intro hopen x hx
        rcases List.mem_append.mp hx with hx | hx
        · exact hfront x hx
        · rw [List.mem_singleton.mp hx]
          exact Bool.eq_false_iff.mpr fun he => hopen (ht.ends_iff.mp he)
      · intro hcl
        exact ⟨ms, m, rfl, ht.ends_iff.mpr hcl, hfront⟩

namespace Connection

variable {P Q : Obj → Prop} {c c' : Connection} {o : Obj} {l : List Message}

theorem shut_iff : c.Shut o ↔ (c.session.cells o).Done :=
  and_congr HalfState.half_closed.symm HalfState.half_closed.symm

/-! ## One stream -/

/-- What a stream has heard: its content, and an error that ends it. -/
structure Speech (c : Connection) (o : Obj) (content failure : List Message) : Prop where
  content : ∃ h, Content c.server content h ∧
    ((c.objs o).recv.half = h ∨ (c.objs o).recv.isClosed = true)
  once : failure.length ≤ 1
  fails : ∀ m ∈ failure, m.Fails
  gone : failure ≠ [] → c.Shut o
  pending : (c.objs o).localClose ≠ none → failure = [] ∧ c.Shut o

/-- The messages of a stream. -/
def Speaks (c : Connection) (o : Obj) (l : List Message) : Prop :=
  ∃ content failure, l = content ++ failure ∧ c.Speech o content failure

/-- A stream hears nothing of a change. -/
theorem Speaks.keep (h : c.Speaks o l) (hserver : c'.server = c.server)
    (hrecv : (c'.objs o).recv = (c.objs o).recv ∨ (c'.objs o).recv.isClosed = true)
    (hclose : (c'.objs o).localClose = (c.objs o).localClose ∨ (c'.objs o).localClose = none ∨
      (c.objs o).recv.isClosed = false ∧ c'.Shut o)
    (hshut : c.Shut o → c'.Shut o) : c'.Speaks o l := by
  obtain ⟨content, failure, rfl, hs⟩ := h
  refine ⟨content, failure, rfl, ?_, hs.once, hs.fails, fun hne => hshut (hs.gone hne), ?_⟩
  · obtain ⟨x, hx, hhalf⟩ := hs.content
    refine ⟨x, hserver ▸ hx, ?_⟩
    rcases hrecv with heq | hcl
    · rw [heq]
      exact hhalf
    · exact .inr hcl
  · intro hpend
    rcases hclose with heq | hnone | ⟨hopen, hsh⟩
    · obtain ⟨hnil, hsh⟩ := hs.pending (heq ▸ hpend)
      exact ⟨hnil, hshut hsh⟩
    · exact absurd hnone hpend
    · refine ⟨?_, hsh⟩
      -- an open stream has heard of no error
      by_contra hne
      rw [(hs.gone hne).1] at hopen
      cases hopen

theorem Speaks.mute (h : c.Speaks o l) (hserver : c'.server = c.server) (hm : Mute P Q c c')
    (ho : o < c.created) (hshut : c.Shut o → c'.Shut o) : c'.Speaks o l :=
  h.keep hserver (hm.recv o ho)
    ((hm.close o ho).imp_right fun h => h.imp And.left fun h => ⟨h.2.1, h.2.2⟩) hshut

/-- A stream that has heard nothing. -/
theorem Speaks.fresh (hrecv : (c.objs o).recv = .idle ∨ (c.objs o).recv.isClosed = true)
    (hl : (c.objs o).localClose = none) : c.Speaks o [] := by
  refine ⟨[], [], rfl, ⟨.idle, .nil, hrecv.imp_left half_idle⟩, Nat.zero_le _, ?_, ?_, ?_⟩
  · exact fun m hm => absurd hm List.not_mem_nil
  · exact fun hne => absurd rfl hne
  · exact fun hne => absurd hl hne

/-- The first message of a stream. -/
theorem Speaks.first {m : Message} {h : Half} (ht : Turns c.server .idle m h)
    (hh : (c.objs o).recv.half = h) (hl : (c.objs o).localClose = none) : c.Speaks o [m] := by
  refine ⟨[m], [], rfl, ⟨h, Content.nil.snoc ht, .inl hh⟩, Nat.zero_le _, ?_, ?_, ?_⟩
  · exact fun m hm => absurd hm List.not_mem_nil
  · exact fun hne => absurd rfl hne
  · exact fun hne => absurd hl hne

/-- An open stream hears of its content. -/
theorem Speaks.tells (h : c.Speaks o l) {m : Message} (hserver : c'.server = c.server)
    (ht : Turns c.server (c.objs o).recv.half m (c'.objs o).recv.half)
    (hl : (c'.objs o).localClose = (c.objs o).localClose ∨ (c'.objs o).localClose = none) :
    c'.Speaks o (l ++ [m]) := by
  obtain ⟨content, failure, rfl, hs⟩ := h
  have hopen : ¬(c.objs o).recv.isClosed = true := fun hcl =>
    ht.open (HalfState.half_closed.mpr hcl)
  have hnil : failure = [] := by
    by_contra hne
    exact hopen (hs.gone hne).1
  have hnone : (c.objs o).localClose = none := by
    by_contra hne
    exact hopen (hs.pending hne).2.1
  have hnone' : (c'.objs o).localClose = none := hl.elim (fun heq => heq.trans hnone) id
  subst hnil
  rw [List.append_nil]
  obtain ⟨x, hx, hhalf⟩ := hs.content
  rw [← hhalf.resolve_right hopen] at hx
  refine ⟨content ++ [m], [], (List.append_nil _).symm, ⟨_, hserver ▸ hx.snoc ht, .inl rfl⟩,
    Nat.zero_le _, ?_, ?_, ?_⟩
  · exact fun m hm => absurd hm List.not_mem_nil
  · exact fun hne => absurd rfl hne
  · exact fun hne => absurd hnone' hne

/-- A stream hears of its error. -/
theorem Speaks.failure (h : c.Speaks o l) {m : Message} (hm : m.Fails)
    (hserver : c'.server = c.server) (hlive : ¬c.Shut o ∨ (c.objs o).localClose ≠ none)
    (hshut : c'.Shut o)
    (hl : (c'.objs o).localClose = none) : c'.Speaks o (l ++ [m]) := by
  obtain ⟨content, failure, rfl, hs⟩ := h
  have hnil : failure = [] := by
    rcases hlive with hlive | hpend
    · by_contra hne
      exact hlive (hs.gone hne)
    · exact (hs.pending hpend).1
  subst hnil
  rw [List.append_nil]
  obtain ⟨x, hx, hhalf⟩ := hs.content
  refine ⟨content, [m], rfl, ⟨x, hserver ▸ hx, .inr hshut.1⟩, Nat.le_refl _, ?_, fun _ => hshut, ?_⟩
  · intro m' hm'
    rw [List.mem_singleton.mp hm']
    exact hm
  · exact fun hne => absurd hl hne

/-! ## All streams -/

/-- What the streams of a connection have heard. -/
structure Heard (c : Connection) (ms : List (Obj × Message)) : Prop where
  scope : ∀ e ∈ ms, e.1 < c.created
  speaks : ∀ o < c.created, c.Speaks o (addressed o ms)

/-- Streams stay closed, on the same side of the connection. -/
structure Lasts (c c' : Connection) : Prop where
  server : c'.server = c.server
  shut : ∀ o < c.created, c.Shut o → c'.Shut o

theorem addressed_scope {ms : List (Obj × Message)} {n : Nat} (h : ∀ e ∈ ms, e.1 < n)
    (ho : n ≤ o) : addressed o ms = [] := by
  unfold addressed
  rw [List.filter_eq_nil_iff.mpr, List.map_nil]
  intro e he heq
  have hlt := h e he
  rw [eq_of_beq heq] at hlt
  exact absurd ho (Nat.not_le_of_lt hlt)

theorem Speaks.lasts {ms : List (Obj × Message)} (h : c.Heard ms) (hlast : Lasts c c')
    (hm : Mute P Q c c') (hP : ∀ p, P p → p < c.created) (ho : o < c'.created) :
    c'.Speaks o (addressed o ms) := by
  by_cases hlt : o < c.created
  · exact (h.speaks o hlt).mute hlast.server hm hlt (hlast.shut o hlt)
  · have hle := Nat.le_of_not_lt hlt
    obtain ⟨hr, hl, -⟩ := hm.fresh o hle ho
    rw [addressed_scope h.scope hle]
    exact .fresh hr (hl.resolve_right fun hPo => hlt (hP o hPo))

/-- Nothing is said. -/
theorem Heard.mute {ms : List (Obj × Message)} (h : c.Heard ms) (hlast : Lasts c c')
    (hm : Mute P Q c c') (hP : ∀ p, P p → p < c.created) : c'.Heard ms :=
  ⟨fun e he => Nat.lt_of_lt_of_le (h.scope e he) hm.created,
    fun _ ho => Speaks.lasts h hlast hm hP ho⟩

/-- Streams of the map end, and are told so. -/
theorem Heard.shut {ms : List (Obj × Message)} (h : c.Heard ms) (ht : c.session.Table)
    (hlast : Lasts c c') (hm : Mute Nobody Q c c') {os : List Obj} {m : Message} (hf : m.Fails)
    (hn : os.Nodup) (hos : ∀ o ∈ os, o ∈ c.values ∧ c'.Shut o) :
    c'.Heard (ms ++ os.map fun o => (o, m)) := by
  have hnobody : ∀ p, Nobody p → p < c.created := fun p hp => False.elim hp
  constructor
  · intro e he
    rcases List.mem_append.mp he with he | he
    · exact Nat.lt_of_lt_of_le (h.scope e he) hm.created
    · obtain ⟨o, ho, rfl⟩ := List.mem_map.mp he
      exact Nat.lt_of_lt_of_le (ht.bound o (hos o ho).1) hm.created
  · intro o ho
    rw [addressed_append, addressed_map hn]
    by_cases hmem : o ∈ os
    · rw [if_pos hmem]
      obtain ⟨hv, hsh⟩ := hos o hmem
      have hlt := ht.bound o hv
      have hlive : ¬c.Shut o := fun hs => (ht.live o hlt).mp hv (shut_iff.mp hs)
      refine (h.speaks o hlt).failure hf hlast.server (.inl hlive) hsh ?_
      -- no error is left for a stream that was open
      rcases hm.close o hlt with heq | ⟨hnone, -⟩ | ⟨hno, -⟩
      · obtain ⟨content, failure, -, hs⟩ := h.speaks o hlt
        rw [heq]
        by_contra hne
        exact hlive (hs.pending hne).2
      · exact hnone
      · exact False.elim hno
    · rw [if_neg hmem, List.append_nil]
      exact Speaks.lasts h hlast hm hnobody ho

/-- The other streams, while one takes a frame. -/
theorem Speaks.others {ms : List (Obj × Message)} (h : c.Heard ms) (hlast : Lasts c c')
    {c1 : Connection} (hm : Mute Nobody Q c c1) (hcreated : c'.created = c1.created)
    (hrest : c'.objs o = c1.objs o) (ho : o < c'.created) : c'.Speaks o (addressed o ms) := by
  by_cases hlt : o < c.created
  · refine (h.speaks o hlt).keep hlast.server ?_ ?_ (hlast.shut o hlt)
    · rw [hrest]
      exact hm.recv o hlt
    · rw [hrest]
      rcases hm.close o hlt with heq | ⟨hnone, -⟩ | ⟨hno, -⟩
      · exact .inl heq
      · exact .inr (.inl hnone)
      · exact False.elim hno
  · have hge := Nat.le_of_not_lt hlt
    obtain ⟨hr, hl, -⟩ := hm.fresh o hge (hcreated ▸ ho)
    rw [addressed_scope h.scope hge]
    rw [← hrest] at hr hl
    exact .fresh hr (hl.resolve_right id)

/-- A stream takes a frame. -/
theorem Heard.tells {ms : List (Obj × Message)} (h : c.Heard ms) (hlast : Lasts c c')
    {f : Frame} {m : Message} (ho : o < c.created) (hside : (c.objs o).remote = c.server)
    (ht : Tells c o f m c') : c'.Heard (ms ++ [(o, m)]) := by
  obtain ⟨-, hturns, -, c1, hm, hcreated, hrest, hlocal⟩ := ht
  have hle : c.created ≤ c'.created := hcreated ▸ hm.created
  constructor
  · intro e he
    rcases List.mem_append.mp he with he | he
    · exact Nat.lt_of_lt_of_le (h.scope e he) hle
    · rw [List.mem_singleton.mp he]
      exact Nat.lt_of_lt_of_le ho hle
  · intro p hp
    rw [addressed_append]
    by_cases hpo : p = o
    · subst hpo
      rw [addressed_self]
      refine (h.speaks p ho).tells hlast.server (hside ▸ hturns) ?_
      rw [hlocal]
      rcases hm.close p ho with heq | ⟨hnone, -⟩ | ⟨hno, -⟩
      · exact .inl heq
      · exact .inr hnone
      · exact False.elim hno
    · rw [addressed_other (Ne.symm hpo), List.append_nil]
      exact Speaks.others h hlast hm hcreated (hrest p hpo) hp

/-- A stream of the peer that is told of its first frame. -/
theorem Heard.opens {ms : List (Obj × Message)} (h : c.Heard ms) (hlast : Lasts c c')
    {c1 : Connection} {f : Frame} {m : Message} (h1 : Mute Nobody Nobody c c1)
    (hc : c1.created = c.created + 1) (hr : (c1.objs c.created).recv = .idle)
    (hside : (c1.objs c.created).remote = c.server) (ht : Tells c1 c.created f m c') :
    c'.Heard (ms ++ [(c.created, m)]) := by
  obtain ⟨-, hturns, -, c2, hm, hcreated, hrest, hlocal⟩ := ht
  have hm2 := (h1.mono fun _ hn => False.elim hn).trans hm
  have hnew : c.created < c'.created := by
    rw [hcreated]
    refine Nat.lt_of_lt_of_le ?_ hm.created
    rw [hc]
    exact Nat.lt_succ_self _
  constructor
  · intro e he
    rcases List.mem_append.mp he with he | he
    · exact Nat.lt_trans (h.scope e he) hnew
    · rw [List.mem_singleton.mp he]
      exact hnew
  · intro p hp
    rw [addressed_append]
    by_cases hpo : p = c.created
    · subst hpo
      rw [addressed_self, addressed_scope h.scope (Nat.le_refl _)]
      have hl : (c2.objs c.created).localClose = none :=
        (hm2.fresh _ (Nat.le_refl _) (hcreated ▸ hnew)).2.1.resolve_right id
      rw [half_idle hr, hside, ← hlast.server] at hturns
      exact .first hturns rfl (hlocal.trans hl)
    · rw [addressed_other (Ne.symm hpo), List.append_nil]
      exact Speaks.others h hlast hm2 hcreated (hrest p hpo) hp

/-- A stream of the peer that ends at once. -/
theorem Heard.refuses {ms : List (Obj × Message)} (h : c.Heard ms) (hlast : Lasts c c')
    (hm : Mute Nobody Q c c') {e : StreamError} (hnew : c.created < c'.created)
    (hs : c'.Shut c.created) : c'.Heard (ms ++ [(c.created, .error e)]) := by
  have hnobody : ∀ p, Nobody p → p < c.created := fun p hp => False.elim hp
  constructor
  · intro x hx
    rcases List.mem_append.mp hx with hx | hx
    · exact Nat.lt_trans (h.scope x hx) hnew
    · rw [List.mem_singleton.mp hx]
      exact hnew
  · intro p hp
    rw [addressed_append]
    by_cases hpo : p = c.created
    · subst hpo
      rw [addressed_self, addressed_scope h.scope (Nat.le_refl _)]
      have hl : (c'.objs c.created).localClose = none :=
        (hm.fresh _ (Nat.le_refl _) hnew).2.1.resolve_right id
      refine ⟨[], [.error e], rfl, ⟨.idle, .nil, .inr hs.1⟩, Nat.le_refl _, ?_, fun _ => hs, ?_⟩
      · intro m hm
        rw [List.mem_singleton.mp hm]
        trivial
      · exact fun hne => absurd hl hne
    · rw [addressed_other (Ne.symm hpo), List.append_nil]
      exact Speaks.lasts h hlast hm hnobody hp

/-- The receipt of a frame. -/
theorem Heard.reply {ms new : List (Obj × Message)} (h : c.Heard ms) (ht : c.session.Table)
    (hlast : Lasts c c') {f : Frame} (hr : Reply c f new c') : c'.Heard (ms ++ new) := by
  cases hr with
  | shut hm hn hl h1 hc hid => exact h.shut ht hlast h1 hm hn hl
  | told ho hid h1 hc =>
      have hlt := ht.bound _ ho
      exact h.tells hlast hlt (ht.remote _ hlt) h1
  | opened h1 hc hr hs hid h2 hc' hn => exact h.opens hlast h1 hc hr hs h2
  | refused h1 hc hn hs hid => exact h.refuses hlast h1 (hc ▸ Nat.lt_succ_self _) hs

/-! ## Steps and runs -/

theorem lasts_step (hc : c.Clean) {a : Step} (ha : c.Enabled a) : Lasts c (c.step a) := by
  have hsteps := (runs_step ha (finds_anyRun c a) hc).2
  have hages := Session.Steps.ages hsteps
  refine ⟨(hsteps.passes hc.good).server, fun o ho hs => ?_⟩
  obtain ⟨hr, hw⟩ := shut_iff.mp hs
  exact shut_iff.mpr ⟨hages.recv_closed ho hr, hages.send_closed ho hw⟩

theorem resets_created {a : Step} (ha : c.Enabled a) : ∀ o, a.resets = some o → o < c.created := by
  intro o ho
  cases a <;> simp_all [Step.resets, Enabled]

/-- All streams of the map end when the dispatcher stops. -/
theorem stop_shut (x : Stop) (ho : o ∈ c.values) : (c.stop x).Shut o := by
  have hproto : ∀ e, (c.protoError e).Shut o := fun e =>
    failStreams_shut (c := { c.push (.failed e) with error := some (.connection e) }) _ ho
  have htime : ∀ e r, (c.timeout e r).Shut o := fun e r =>
    failStreams_shut (c := { c.push (.failed e) with error := some (.connection e) }) _ ho
  have hgone : c.disconnect.Shut o := by
    have h := failStreams_shut (c := { c with error := some (c.error.getD .disconnected) })
      .disconnected ho
    unfold disconnect
    dsimp only
    split
    · exact h
    · exact h
  cases x with
  | encoder e => exact hproto _
  | decoder e => exact hproto _
  | keepAlive =>
      unfold stop
      dsimp only
      split
      · exact htime _ _
      · exact htime _ _
  | readTimeout => exact htime _ _
  | writeTimeout => exact htime _ _
  | io => exact hgone
  | service => exact hgone

/-- The error of a reset is told once. -/
theorem Heard.closes {ms : List (Obj × Message)} (h : c.Heard ms)
    (hlast : Lasts c (c.takeLocalClose o)) (ho : o < c.created) :
    (c.takeLocalClose o).Heard (ms ++ c.told (.takeLocalClose o)) := by
  have hother : ∀ p, p ≠ o → (c.takeLocalClose o).objs p = c.objs p := fun p hp => if_neg hp
  have hself : (c.takeLocalClose o).objs o = { c.objs o with localClose := none } := if_pos rfl
  have hquiet : (c.takeLocalClose o).Heard ms := by
    refine ⟨h.scope, fun p hp => ?_⟩
    by_cases hpo : p = o
    · subst hpo
      refine (h.speaks p ho).keep hlast.server (.inl ?_) (.inr (.inl ?_)) (hlast.shut p ho)
      · rw [hself]
      · rw [hself]
    · refine (h.speaks p hp).keep hlast.server (.inl ?_) (.inl ?_) (hlast.shut p hp)
      · rw [hother p hpo]
      · rw [hother p hpo]
  unfold told
  dsimp only
  split
  · cases hl : (c.objs o).localClose with
    | none =>
        rw [Option.toList_none, List.map_nil, List.append_nil]
        exact hquiet
    | some e =>
        have hpend : (c.objs o).localClose ≠ none := by
          rw [hl]
          exact Option.some_ne_none e
        have hsh : c.Shut o := by
          obtain ⟨content, failure, -, hs⟩ := h.speaks o ho
          exact (hs.pending hpend).2
        rw [Option.toList_some, List.map_cons, List.map_nil]
        constructor
        · intro x hx
          rcases List.mem_append.mp hx with hx | hx
          · exact h.scope x hx
          · rw [List.mem_singleton.mp hx]
            exact ho
        · intro p hp
          rw [addressed_append]
          by_cases hpo : p = o
          · subst hpo
            rw [addressed_self]
            refine (h.speaks p ho).failure (m := .error e) trivial hlast.server (.inr hpend)
              (hlast.shut p ho hsh) ?_
            rw [hself]
          · rw [addressed_other (Ne.symm hpo), List.append_nil]
            exact hquiet.speaks p hp
  · rw [List.append_nil]
    exact hquiet

/-- One step. -/
theorem Heard.step {ms : List (Obj × Message)} (h : c.Heard ms) (hc : c.Clean)
    (hsz : c.config.windowSz ≤ 2 ^ 30) (herr : c.ackErrors = []) {a : Step} (ha : c.Enabled a) :
    (c.step a).Heard (ms ++ c.told a) := by
  have ht := hc.good.table
  have hlast := lasts_step hc ha
  have hquiet : Local a → c.told a = [] → (c.step a).Heard (ms ++ c.told a) := by
    intro hl hnil
    rw [hnil, List.append_nil]
    exact h.mute hlast (mute_local c hl) (resets_created ha)
  cases a with
  | receive f => exact h.reply ht hlast (reply_receive hc hsz herr f)
  | stop x =>
      exact h.shut ht hlast (mute_stop c (fun _ ho => ho) x) trivial ht.nodup
        fun o ho => ⟨ho, stop_shut x ho⟩
  | ackError =>
      refine hquiet trivial ?_
      unfold told
      dsimp only
      rw [herr]
      rfl
  | takeLocalClose o => exact h.closes hlast ha
  | _ => exact hquiet trivial rfl

theorem Told.reachable {s : Start} {ms : List (Obj × Message)} (h : Told s c ms) :
    Reachable s c := by
  induction h with
  | new => exact .new
  | step a _ ha ih => exact .step a ih ha

/-- The messages of some steps. -/
def talk (c : Connection) : List Step → List (Obj × Message)
  | [] => []
  | a :: as => c.told a ++ (c.step a).talk as

theorem Told.after {s : Start} (as : List Step) : ∀ {c : Connection} {ms : List (Obj × Message)},
    Told s c ms → Allowed anyStep c as → Told s (c.after as) (ms ++ c.talk as) := by
  induction as with
  | nil =>
      intro c ms h _
      unfold talk
      rw [List.append_nil]
      exact h
  | cons a as ih =>
      intro c ms h ha
      unfold talk
      rw [← List.append_assoc]
      exact ih (.step a h ha.1.1) ha.2

/-- The runs of a connection. -/
theorem Told.heard {s : Start} {ms : List (Obj × Message)} (hsz : s.config.windowSz ≤ 2 ^ 30)
    (h : Told s c ms) : c.Heard ms ∧ c.ackErrors = [] ∧ c.config = s.config ∧
      c.server = s.server := by
  induction h with
  | new =>
      exact ⟨⟨fun e he => absurd he List.not_mem_nil, fun o ho => absurd ho (Nat.not_lt_zero o)⟩,
        rfl, rfl, rfl⟩
  | @step c ms a hrun ha ih =>
      obtain ⟨hheard, herr, hcfg, hserver⟩ := ih
      have hc := hrun.reachable.clean
      have hsz' : c.config.windowSz ≤ 2 ^ 30 := by
        rw [hcfg]
        exact hsz
      have hsteps := (runs_step ha (finds_anyRun c a) hc).2
      have hnil : c.session.ackErrors = [] := List.map_eq_nil_iff.mpr herr
      obtain ⟨hnil', hcfg'⟩ := hsteps.ackErrors_nil hc.good hsz' hnil
      exact ⟨hheard.step hc hsz' herr ha, List.map_eq_nil_iff.mp hnil', hcfg'.trans hcfg,
        (lasts_step hc ha).server.trans hserver⟩

/-- The application of a stream hears its content in order, whatever the peer sends, and then of
one error at most. -/
theorem told_grammar {s : Start} {ms : List (Obj × Message)} (hsz : s.config.windowSz ≤ 2 ^ 30)
    (h : Told s c ms) (o : Obj) : ∃ content failure half,
      addressed o ms = content ++ failure ∧ Content s.server content half ∧
      failure.length ≤ 1 ∧ (∀ m ∈ failure, m.Fails) ∧ (failure ≠ [] → o ∉ c.values) ∧
      (o ∈ c.values → (c.objs o).recv.isClosed = false → (c.objs o).recv.half = half) := by
  obtain ⟨hheard, -, -, hserver⟩ := h.heard hsz
  have ht := h.reachable.clean.good.table
  by_cases ho : o < c.created
  · obtain ⟨content, failure, heq, hs⟩ := hheard.speaks o ho
    obtain ⟨half, hcontent, hhalf⟩ := hs.content
    refine ⟨content, failure, half, heq, hserver ▸ hcontent, hs.once, hs.fails, ?_, ?_⟩
    · exact fun hne hv => (ht.live o ho).mp hv (shut_iff.mp (hs.gone hne))
    · exact fun _ hopen => hhalf.resolve_right (Bool.eq_false_iff.mp hopen)
  · have hle := Nat.le_of_not_lt ho
    refine ⟨[], [], .idle, addressed_scope hheard.scope hle, .nil, Nat.zero_le _, ?_, ?_, ?_⟩
    · exact fun m hm => absurd hm List.not_mem_nil
    · exact fun hne => absurd rfl hne
    · exact fun hv => absurd (ht.bound o hv) ho

/-- A request of two frames, and the reset of its stream. -/
def abortedRun : List Step :=
  [.receive (.settings noSettings), .receive (.headers ⟨1, somePseudo, [], false⟩),
    .receive (.data ⟨1, [7], 1, false⟩), .receive (.reset 1 .cancel)]

theorem abortedRun_allowed : Allowed anyStep (serverWith 1000 333 thousand_lt threshold_lt).init
    abortedRun := by
  refine ⟨⟨noSettings_loads, trivial⟩, ⟨?_, trivial⟩, ⟨?_, trivial⟩, ⟨?_, trivial⟩, trivial⟩
  · show 1 < 2 ^ 31
    decide
  · show (1 : Nat) ≠ 0 ∧ 1 < 2 ^ 31 ∧ [7].length ≤ 1 ∧ 1 < 2 ^ 24
    decide
  · show 1 < 2 ^ 31
    decide

theorem told_grammar_aborted : ∃ c ms, Told (serverWith 1000 333 thousand_lt threshold_lt) c ms ∧
    addressed 0 ms = [.headers somePseudo [] false, .data [7], .error (.reset .cancel)] ∧
      ∃ content failure half, addressed 0 ms = content ++ failure ∧
        Content true content half ∧ failure.length ≤ 1 := by
  have h := Told.after abortedRun .new abortedRun_allowed
  refine ⟨_, _, h, by decide +kernel, ?_⟩
  obtain ⟨content, failure, half, heq, hc, hone, -⟩ := told_grammar (by decide) h 0
  exact ⟨content, failure, half, heq, hc, hone⟩

end Connection

end NtexH2
