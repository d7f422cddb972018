/-
  Session/Emission.lean --- the frames that are written for a stream.

  The frames of one stream drive an automaton: interim headers, the head, payload,
  trailers, and a reset at the end.  `Phase.bad` is never reached.
-/
import NtexH2.Session.Credit

set_option autoImplicit false

namespace NtexH2

/-- How far the frames of a stream have come. -/
inductive Phase where
  | start
  | opened
  | ended
  | reset
  | gone
  | bad
  deriving DecidableEq, Repr

namespace Phase

/-- The stream has neither been reset here nor by the peer. -/
def Open (p : Phase) : Prop := p = .start ∨ p = .opened ∨ p = .ended

/-- A frame that is written for the stream. -/
def onSent : Phase → Writer → Frame → Phase
  | .start, .sendInformational, .headers h => if h.endStream then .bad else .start
  | .start, .sendHeaders, .headers h => if h.endStream then .ended else .opened
  | .start, .sendResponse, .headers h => if h.endStream then .ended else .opened
  | .opened, .sendPages, .data d => if d.endStream then .ended else .opened
  | .opened, .sendTrailers, .headers h => if h.endStream then .ended else .bad
  | .start, .windowUpdate, .windowUpdate _ _ => .start
  | .opened, .windowUpdate, .windowUpdate _ _ => .opened
  | .ended, .windowUpdate, .windowUpdate _ _ => .ended
  | .start, .resetSilent, .reset _ _ => .reset
  | .opened, .resetSilent, .reset _ _ => .reset
  | .ended, .resetSilent, .reset _ _ => .reset
  | _, _, _ => .bad

/-- RST_STREAM is received for the stream. -/
def onReset : Phase → Phase
  | .start | .opened | .ended => .gone
  | _ => .bad

/-- An event, for the stream `o`. -/
def next (o : Nat) (p : Phase) : Event → Phase
  | .sent (some q) w f => if q = o then p.onSent w f else p
  | .received (some q) (.reset _ _) => if q = o then p.onReset else p
  | _ => p

theorem Open.ne_bad {p : Phase} (h : p.Open) : p ≠ .bad := by
  rcases h with h | h | h <;> simp [h]

theorem onSent_windowUpdate {p : Phase} (h : p.Open) (id : StreamId) (n : Nat) :
    p.onSent .windowUpdate (.windowUpdate id n) = p := by
  rcases h with h | h | h <;> rw [h] <;> rfl

theorem onSent_reset {p : Phase} (h : p.Open) (id : StreamId) (r : Reason) :
    p.onSent .resetSilent (.reset id r) = .reset := by
  rcases h with h | h | h <;> rw [h] <;> rfl

theorem onReset_open {p : Phase} (h : p.Open) : p.onReset = .gone := by
  rcases h with h | h | h <;> rw [h] <;> rfl

end Phase

/-- The phase of the stream `o` after a history. -/
def phase (o : Nat) : List Event → Phase
  | [] => .start
  | e :: l => (phase o l).next o e

namespace Session

/-- The invariant of the frames that are written. -/
structure Emission (k : Session) : Prop where
  sane : ∀ o, phase o k.log ≠ .bad
  live : ∀ o ∈ k.values, (phase o k.log).Open
  idle : ∀ o < k.created, (k.cells o).send = .idle → phase o k.log = .start
  payload : ∀ o < k.created, (k.cells o).send = .payload → phase o k.log = .opened
  fresh : ∀ o, k.created ≤ o → phase o k.log = .start

/-! ## Steps that write nothing for a stream -/

/-- No frame is written for a stream; halves may close and streams may leave. -/
structure EmissionFrame (k k' : Session) : Prop where
  created : k'.created = k.created
  values : ∀ o ∈ k'.values, o ∈ k.values
  idle : ∀ o, (k'.cells o).send = .idle → (k.cells o).send = .idle
  payload : ∀ o, (k'.cells o).send = .payload → (k.cells o).send = .payload
  phase : ∀ o, phase o k'.log = NtexH2.phase o k.log

theorem Emission.frame {k k' : Session} (h : k.Emission) (f : EmissionFrame k k') :
    k'.Emission where
  sane := by
    intro o
    rw [f.phase]
    exact h.sane o
  live := by
    intro o ho
    rw [f.phase]
    exact h.live o (f.values o ho)
  idle := by
    intro o ho hi
    rw [f.phase]
    exact h.idle o (f.created ▸ ho) (f.idle o hi)
  payload := by
    intro o ho hp
    rw [f.phase]
    exact h.payload o (f.created ▸ ho) (f.payload o hp)
  fresh := by
    intro o ho
    rw [f.phase]
    exact h.fresh o (f.created ▸ ho)

theorem EmissionFrame.refl (k : Session) : EmissionFrame k k :=
  ⟨rfl, fun _ h => h, fun _ h => h, fun _ h => h, fun _ => rfl⟩

theorem EmissionFrame.trans {k k' k'' : Session} (f : EmissionFrame k k')
    (g : EmissionFrame k' k'') : EmissionFrame k k'' where
  created := g.created.trans f.created
  values := fun o ho => f.values o (g.values o ho)
  idle := fun o hi => f.idle o (g.idle o hi)
  payload := fun o hp => f.payload o (g.payload o hp)
  phase := fun o => (g.phase o).trans (f.phase o)

theorem EmissionFrame.push (k : Session) {e : Event} (he : ∀ o p, Phase.next o p e = p) :
    EmissionFrame k (k.push e) :=
  ⟨rfl, fun _ h => h, fun _ h => h, fun _ h => h, fun o => he o _⟩

theorem EmissionFrame.of_cells {k k' : Session} (h1 : k'.created = k.created)
    (h2 : ∀ o ∈ k'.values, o ∈ k.values) (h3 : k'.cells = k.cells) (h4 : k'.log = k.log) :
    EmissionFrame k k' :=
  ⟨h1, h2, fun o => by rw [h3]; exact id, fun o => by rw [h3]; exact id, fun o => by rw [h4]⟩

theorem EmissionFrame.modify (k : Session) (o : Nat) {f : Cell → Cell}
    (h : (f (k.cells o)).send = (k.cells o).send) : EmissionFrame k (k.modify o f) := by
  have hs : ∀ p, ((k.modify o f).cells p).send = (k.cells p).send := by
    intro p
    by_cases hp : p = o
    · subst hp
      simpa [Session.modify] using h
    · simp [Session.modify, hp]
  exact ⟨rfl, fun _ h => h, fun p => by rw [hs]; exact id, fun p => by rw [hs]; exact id,
    fun _ => rfl⟩

theorem phase_close_log (k : Session) (o : Nat) (r w : Bool) (p : Nat) :
    phase p (k.close o r w).log = phase p k.log := by
  simp only [Session.close]
  split <;> rfl

theorem close_values_sub {k : Session} {o p : Nat} {r w : Bool}
    (hp : p ∈ (k.close o r w).values) : p ∈ k.values := by
  obtain ⟨e, he, rfl⟩ := List.mem_map.mp hp
  exact List.mem_map_of_mem (close_streams_sub he)

theorem EmissionFrame.close (k : Session) (o : Nat) (r w : Bool) :
    EmissionFrame k (k.close o r w) := by
  have hs : ∀ p, ((k.close o r w).cells p).send = (k.cells p).send ∨
      ((k.close o r w).cells p).send = .closed := by
    intro p
    rw [close_cells]
    split
    · next hp =>
        rw [hp]
        cases w with
        | true => exact .inr rfl
        | false => exact .inl rfl
    · exact .inl rfl
  refine ⟨rfl, fun p hp => close_values_sub hp, ?_, ?_, fun p => phase_close_log k o r w p⟩
  · intro p hi
    rcases hs p with h | h
    · exact h ▸ hi
    · rw [h] at hi
      cases hi
  · intro p hi
    rcases hs p with h | h
    · exact h ▸ hi
    · rw [h] at hi
      cases hi

theorem EmissionFrame.ioClose (k : Session) : EmissionFrame k k.ioClose :=
  ⟨rfl, fun _ h => h, fun _ h => h, fun _ h => h, fun _ => rfl⟩

theorem EmissionFrame.topUp (k : Session) : EmissionFrame k k.topUp := by
  unfold Session.topUp
  split
  · exact ⟨rfl, fun _ h => h, fun _ h => h, fun _ h => h, fun _ => rfl⟩
  · exact EmissionFrame.refl k

/-! ## Frames that are written -/

/-- One frame for the stream `o`; the other streams stay as they are. -/
theorem Emission.advance {k k' : Session} (h : k.Emission) {o : Nat} (hlt : o < k.created)
    (hcr : k'.created = k.created) (hv : ∀ p ∈ k'.values, p ∈ k.values)
    (hcells : ∀ p, p ≠ o → (k'.cells p).send = (k.cells p).send)
    (hother : ∀ p, p ≠ o → phase p k'.log = phase p k.log)
    (hbad : phase o k'.log ≠ .bad) (hlive : o ∈ k'.values → (phase o k'.log).Open)
    (hidle : (k'.cells o).send = .idle → phase o k'.log = .start)
    (hpay : (k'.cells o).send = .payload → phase o k'.log = .opened) : k'.Emission where
  sane := by
    intro p
    by_cases hp : p = o
    · exact hp ▸ hbad
    · rw [hother p hp]
      exact h.sane p
  live := by
    intro p hm
    by_cases hp : p = o
    · subst hp
      exact hlive hm
    · rw [hother p hp]
      exact h.live p (hv p hm)
  idle := by
    intro p hlt' hi
    by_cases hp : p = o
    · subst hp
      exact hidle hi
    · rw [hother p hp]
      exact h.idle p (hcr ▸ hlt') (hcells p hp ▸ hi)
  payload := by
    intro p hlt' hi
    by_cases hp : p = o
    · subst hp
      exact hpay hi
    · rw [hother p hp]
      exact h.payload p (hcr ▸ hlt') (hcells p hp ▸ hi)
  fresh := by
    intro p hge
    rw [hcr] at hge
    rw [hother p (by omega)]
    exact h.fresh p hge

theorem phase_sent_of_ne {o p : Nat} {w : Writer} {f : Frame} {l : List Event} (h : p ≠ o) :
    phase p (.sent (some o) w f :: l) = phase p l :=
  if_neg (Ne.symm h)

theorem phase_sent (o : Nat) (w : Writer) (f : Frame) (l : List Event) :
    phase o (.sent (some o) w f :: l) = (phase o l).onSent w f :=
  if_pos rfl

theorem Emission.streamTopUp {k : Session} (h : k.Emission) (ht : k.Table) {o : Nat}
    (hlt : o < k.created) : (k.streamTopUp o).Emission := by
  unfold Session.streamTopUp
  split
  · next ha =>
      have hm : o ∈ k.values := (ht.live o hlt).mpr fun hd => ha.1 hd.1
      have hmod := h.frame (EmissionFrame.modify k o (f := fun s =>
        { s with recvWindow := k.config.windowSz - s.recvSize }) rfl)
      have hph : ∀ n, phase o (.sent (some o) .windowUpdate (.windowUpdate (k.cells o).id n) ::
          k.log) = phase o k.log := by
        intro n
        rw [phase_sent, Phase.onSent_windowUpdate (h.live o hm)]
      refine hmod.advance hlt rfl (fun _ hp => hp) (fun _ _ => rfl)
        (fun p hp => phase_sent_of_ne hp) ?_ ?_ ?_ ?_
      · show phase o (_ :: k.log) ≠ .bad
        rw [hph]
        exact h.sane o
      · intro _
        show (phase o (_ :: k.log)).Open
        rw [hph]
        exact h.live o hm
      · intro hi
        show phase o (_ :: k.log) = _
        rw [hph]
        exact hmod.idle o hlt hi
      · intro hi
        show phase o (_ :: k.log) = _
        rw [hph]
        exact hmod.payload o hlt hi
  · exact h

theorem Emission.reset {k : Session} (h : k.Emission) (ht : k.Table) {o : Nat}
    (ho : o ∈ k.values) (r : Reason) : (k.reset o r).Emission := by
  have hph : phase o (k.reset o r).log = .reset := by
    unfold Session.reset
    rw [phase_close_log]
    show phase o (_ :: k.log) = _
    rw [phase_sent, Phase.onSent_reset (h.live o ho)]
  have hsend : ((k.reset o r).cells o).send = .closed := by
    unfold Session.reset
    rw [close_cells_self]
    rfl
  refine h.advance (ht.bound o ho) rfl (fun p hp => close_values_sub (k := k.push _) hp) ?_ ?_ ?_
    ?_ ?_ ?_
  · intro p hp
    unfold Session.reset
    rw [close_cells_of_ne hp]
    rfl
  · intro p hp
    unfold Session.reset
    rw [phase_close_log]
    exact phase_sent_of_ne hp
  · rw [hph]
    decide
  · exact fun hm => absurd hm ht.not_mem_reset
  · intro hi
    rw [hsend] at hi
    cases hi
  · intro hi
    rw [hsend] at hi
    cases hi

/-- A frame that is written while the send half is open, and closes it at most. -/
theorem Emission.sent {k m : Session} (h : k.Emission) {o : Nat} {w : Writer} {f : Frame}
    (hlt : o < k.created) (hcr : m.created = k.created) (hv : ∀ p ∈ m.values, p ∈ k.values)
    (hcells : ∀ p, p ≠ o → (m.cells p).send = (k.cells p).send)
    (hlog : ∀ p, phase p m.log = phase p (.sent (some o) w f :: k.log))
    (hopen : ((phase o k.log).onSent w f).Open)
    (hidle : (m.cells o).send = .idle → (phase o k.log).onSent w f = .start)
    (hpay : (m.cells o).send = .payload → (phase o k.log).onSent w f = .opened) :
    m.Emission := by
  have hph : phase o m.log = (phase o k.log).onSent w f := by
    rw [hlog, phase_sent]
  refine h.advance hlt hcr hv hcells ?_ ?_ ?_ ?_ ?_
  · intro p hp
    rw [hlog]
    exact phase_sent_of_ne hp
  · rw [hph]
    exact hopen.ne_bad
  · intro _
    rw [hph]
    exact hopen
  · rw [hph]
    exact hidle
  · rw [hph]
    exact hpay

/-! ## One lemma for each action -/

/-- A stream of the peer starts with nothing written for it. -/
theorem Emission.accept {k : Session} (h : k.Emission) (id : Nat) : (k.accept id).Emission := by
  have hcell : ∀ p, p ≠ k.created → (k.accept id).cells p = k.cells p := by
    intro p hp
    simp [Session.accept, hp]
  exact
    { sane := h.sane
      live := by
        intro o ho
        simp only [values, Session.accept, List.map_cons, List.mem_cons] at ho
        rcases ho with rfl | ho
        · exact .inl (h.fresh _ (Nat.le_refl _))
        · exact h.live o ho
      idle := by
        intro o ho hi
        by_cases hoc : o = k.created
        · exact h.fresh o (Nat.le_of_eq hoc.symm)
        · rw [hcell o hoc] at hi
          exact h.idle o (by simp only [Session.accept] at ho; omega) hi
      payload := by
        intro o ho hi
        by_cases hoc : o = k.created
        · subst hoc
          simp [Session.accept, newCell] at hi
        · rw [hcell o hoc] at hi
          exact h.payload o (by simp only [Session.accept] at ho; omega) hi
      fresh := fun o ho => h.fresh o (by simp only [Session.accept] at ho; omega) }

/-- The first frame of a stream of a client opens it, or ends it at once. -/
theorem Emission.openLocal {k : Session} (h : k.Emission) (hd : Headers) (reserved : Bool) :
    (k.openLocal hd reserved).Emission := by
  have hcell : ∀ p, p ≠ k.created → (k.openLocal hd reserved).cells p = k.cells p := by
    intro p hp
    simp [Session.openLocal, hp]
  have hself : ((k.openLocal hd reserved).cells k.created).send =
      if hd.endStream then .closed else .payload := by
    simp [Session.openLocal]
  have hph : phase k.created (k.openLocal hd reserved).log =
      if hd.endStream then .ended else .opened := by
    show phase k.created (_ :: k.log) = _
    rw [phase_sent, h.fresh _ (Nat.le_refl _)]
    rfl
  have hne : ∀ p, p ≠ k.created → phase p (k.openLocal hd reserved).log = phase p k.log :=
    fun p hp => phase_sent_of_ne hp
  exact
    { sane := by
        intro o
        by_cases hoc : o = k.created
        · rw [hoc, hph]
          split <;> decide
        · rw [hne o hoc]
          exact h.sane o
      live := by
        intro o ho
        by_cases hoc : o = k.created
        · rw [hoc, hph]
          split
          · exact .inr (.inr rfl)
          · exact .inr (.inl rfl)
        · rw [hne o hoc]
          simp only [values, Session.openLocal, List.map_cons, List.mem_cons, hoc,
            false_or] at ho
          exact h.live o ho
      idle := by
        intro o ho hi
        by_cases hoc : o = k.created
        · subst hoc
          rw [hself] at hi
          split at hi <;> cases hi
        · rw [hcell o hoc] at hi
          rw [hne o hoc]
          exact h.idle o (by simp only [Session.openLocal] at ho; omega) hi
      payload := by
        intro o ho hi
        by_cases hoc : o = k.created
        · subst hoc
          rw [hself] at hi
          rw [hph]
          split at hi
          · cases hi
          · next he => simp [he]
        · rw [hcell o hoc] at hi
          rw [hne o hoc]
          exact h.payload o (by simp only [Session.openLocal] at ho; omega) hi
      fresh := by
        intro o ho
        simp only [Session.openLocal] at ho
        rw [hne o (by omega)]
        exact h.fresh o (by omega) }

/-- A stream that the peer resets is gone. -/
theorem Emission.remoteReset {k : Session} (h : k.Emission) (ht : k.Table) {o : Nat}
    (ho : o ∈ k.values) (id : Nat) (r : Reason) :
    ((k.push (.received (some o) (.reset id r))).close o true true).Emission := by
  have hph : phase o ((k.push (.received (some o) (.reset id r))).close o true true).log =
      .gone := by
    rw [phase_close_log]
    show (if o = o then (phase o k.log).onReset else _) = _
    simp only [if_true]
    exact Phase.onReset_open (h.live o ho)
  have hsend : (((k.push (.received (some o) (.reset id r))).close o true true).cells o).send =
      .closed := by
    rw [close_cells_self]
    rfl
  refine h.advance (ht.bound o ho) rfl (fun p hp => close_values_sub (k := k.push _) hp) ?_ ?_
    ?_ ?_ ?_ ?_
  · intro p hp
    rw [close_cells_of_ne hp]
    rfl
  · intro p hp
    rw [phase_close_log]
    exact if_neg (Ne.symm hp)
  · rw [hph]
    decide
  · intro hm
    have hp := ht.push (e := .received (some o) (.reset id r)) rfl
    exact absurd ⟨rfl, rfl, rfl⟩ ((mem_values_close hp).mp hm).2
  · intro hi
    rw [hsend] at hi
    cases hi
  · intro hi
    rw [hsend] at hi
    cases hi

/-- Interim HEADERS leave the stream at its start. -/
theorem Emission.interim {k : Session} (h : k.Emission) {o : Nat} {hd : Headers}
    (ho : o < k.created) (hi : (k.cells o).send = .idle) (hend : hd.endStream = false) :
    (k.push (.sent (some o) .sendInformational (.headers hd))).Emission := by
  have hst := h.idle o ho hi
  have hon : (phase o k.log).onSent .sendInformational (.headers hd) = .start := by
    rw [hst]
    simp [Phase.onSent, hend]
  refine h.sent ho rfl (fun _ hm => hm) (fun _ _ => rfl) (fun _ => rfl) ?_ ?_ ?_
  · exact .inl hon
  · exact fun _ => hon
  · intro hp
    rw [show (k.cells o).send = .payload from hp] at hi
    cases hi

/-- The head of a response opens the stream, or ends it. -/
theorem Emission.respond {k : Session} (h : k.Emission) {o : Nat} {hd : Headers}
    (ho : o < k.created) (hi : (k.cells o).send = .idle) : (k.respond o hd).Emission := by
  have hst := h.idle o ho hi
  have hon : (phase o k.log).onSent .sendResponse (.headers hd) =
      if hd.endStream then .ended else .opened := by
    rw [hst]
    rfl
  unfold Session.respond
  cases hend : hd.endStream with
  | true =>
      simp only [if_true]
      refine h.sent ho rfl (fun p hp => close_values_sub (k := k) hp) ?_ ?_ (f := .headers hd)
        (w := .sendResponse) ?_ ?_ ?_
      · intro p hp
        show ((k.close o false true).cells p).send = _
        rw [close_cells_of_ne hp]
      · intro p
        show (phase p (k.close o false true).log).next p _ = (phase p k.log).next p _
        rw [phase_close_log]
      · rw [hon, hend]
        exact .inr (.inr rfl)
      · intro hi'
        have hc : ((k.close o false true).cells o).send = .closed := by
          rw [close_cells_self]
          rfl
        rw [show ((k.close o false true).cells o).send = .idle from hi'] at hc
        cases hc
      · intro hi'
        have hc : ((k.close o false true).cells o).send = .closed := by
          rw [close_cells_self]
          rfl
        rw [show ((k.close o false true).cells o).send = .payload from hi'] at hc
        cases hc
  | false =>
      simp only [Bool.false_eq_true, if_false]
      have hcell : ∀ p, p ≠ o → ((k.modify o fun s => { s with send := .payload }).cells p) =
          k.cells p := by
        intro p hp
        simp [Session.modify, hp]
      have hself : ((k.modify o fun s => { s with send := .payload }).cells o).send =
          .payload := by
        simp [Session.modify]
      refine h.sent ho rfl (fun _ hm => hm) ?_ (fun _ => rfl) ?_ ?_ ?_
      · intro p hp
        exact congrArg Cell.send (hcell p hp)
      · rw [hon, hend]
        exact .inr (.inl rfl)
      · intro hi'
        rw [show ((k.modify o fun s => { s with send := .payload }).cells o).send = .idle
          from hi'] at hself
        cases hself
      · intro _
        rw [hon, hend]
        rfl

/-- Payload is written while the stream is open, and the last of it ends it. -/
theorem Emission.chunk {k : Session} (h : k.Emission) {o : Nat} {d : Data} (ho : o < k.created)
    (hp : (k.cells o).send = .payload) : (k.chunk o d).Emission := by
  have hop := h.payload o ho hp
  have hon : (phase o k.log).onSent .sendPages (.data d) =
      if d.endStream then .ended else .opened := by
    rw [hop]
    rfl
  have hsend : ∀ p, ((k.chunk o d).cells p).send =
      (((k.push (.sent (some o) .sendPages (.data d))).close o false d.endStream).cells
        p).send := by
    intro p
    by_cases hpo : p = o
    · subst hpo
      simp [Session.chunk, spend, Session.modify]
    · simp [Session.chunk, spend, Session.modify, hpo]
  refine h.sent (m := k.chunk o d) ho rfl (fun p hp => close_values_sub (k := k.push _) hp)
    ?_ (fun p => phase_close_log (k.push _) o false d.endStream p) ?_ ?_ ?_
  · intro p hpo
    rw [hsend, close_cells_of_ne hpo]
    rfl
  · rw [hon]
    split
    · exact .inr (.inr rfl)
    · exact .inr (.inl rfl)
  · intro hi
    rw [hsend, close_cells_self] at hi
    have := Cell.send_idle_of_close hi
    rw [show (k.cells o).send = .idle from this] at hp
    cases hp
  · intro hi
    rw [hsend, close_cells_self] at hi
    rw [hon]
    cases hend : d.endStream with
    | false => rfl
    | true =>
        rw [hend] at hi
        cases hi

/-- An empty DATA frame ends the stream behind its payload. -/
theorem Emission.finish {k : Session} (h : k.Emission) {o : Nat} (ho : o < k.created)
    (hp : (k.cells o).send = .payload) : (k.finish o).Emission := by
  have hop := h.payload o ho hp
  have hc : ((k.close o false true).cells o).send = .closed := by
    rw [close_cells_self]
    rfl
  have hon : (phase o k.log).onSent .sendPages (.data ⟨(k.cells o).id, [], 0, true⟩) =
      .ended := by
    rw [hop]
    rfl
  refine h.sent (m := k.finish o) ho rfl (fun p hp => close_values_sub (k := k) hp) ?_ ?_
    (w := .sendPages) (f := .data ⟨(k.cells o).id, [], 0, true⟩) ?_ ?_ ?_
  · intro p hpo
    show ((k.close o false true).cells p).send = _
    rw [close_cells_of_ne hpo]
  · intro p
    show (phase p (k.close o false true).log).next p _ = (phase p k.log).next p _
    rw [phase_close_log]
  · exact .inr (.inr hon)
  · intro hi
    rw [show ((k.close o false true).cells o).send = .idle from hi] at hc
    cases hc
  · intro hi
    rw [show ((k.close o false true).cells o).send = .payload from hi] at hc
    cases hc

/-- Trailers end the stream. -/
theorem Emission.trailers {k : Session} (h : k.Emission) {o : Nat} {hd : Headers}
    (ho : o < k.created) (hp : (k.cells o).send = .payload) (hend : hd.endStream = true) :
    (k.trailers o hd).Emission := by
  have hop := h.payload o ho hp
  have hc : ((k.trailers o hd).cells o).send = .closed := by
    unfold Session.trailers
    rw [close_cells_self]
    rfl
  have hon : (phase o k.log).onSent .sendTrailers (.headers hd) = .ended := by
    rw [hop]
    simp [Phase.onSent, hend]
  refine h.sent (m := k.trailers o hd) ho rfl
    (fun p hp => close_values_sub (k := k.push _) hp) ?_
    (fun p => phase_close_log (k.push _) o false true p) ?_ ?_ ?_
  · intro p hpo
    unfold Session.trailers
    rw [close_cells_of_ne hpo]
    rfl
  · exact .inr (.inr hon)
  · intro hi
    rw [hc] at hi
    cases hi
  · intro hi
    rw [hc] at hi
    cases hi

theorem Emission.charge {k : Session} (h : k.Emission) (o : Nat) (d : Data) :
    (k.charge o d).Emission := by
  have hf : EmissionFrame k (k.push (.received (some o) (.data d))) :=
    EmissionFrame.push k fun _ _ => rfl
  refine (h.frame (hf.trans (EmissionFrame.modify _ o (f := fun s => { s with
        recvWindow := s.recvWindow - d.flowLen
        recvSize := s.recvSize + d.flowLen }) rfl))).frame ?_
  exact EmissionFrame.of_cells rfl (fun _ hm => hm) rfl rfl

theorem Emission.stray {k : Session} (h : k.Emission) (d : Data) : (k.stray none d).Emission := by
  refine h.frame (EmissionFrame.trans ?_ (EmissionFrame.topUp _))
  exact ⟨rfl, fun _ hm => hm, fun _ hi => hi, fun _ hi => hi, fun _ => rfl⟩

/-- Payload beyond the window of a stream is answered with a reset. -/
theorem Emission.overrun {k : Session} (h : k.Emission) (ht : k.Table) {o : Nat}
    (ho : o ∈ k.values) (d : Data) : (k.overrun o d).Emission := by
  have hst : EmissionFrame k (k.stray (some o) d) := by
    refine EmissionFrame.trans ?_ (EmissionFrame.topUp _)
    exact ⟨rfl, fun _ hm => hm, fun _ hi => hi, fun _ hi => hi, fun _ => rfl⟩
  have hfr := hst.trans (EmissionFrame.push _ (e := .streamFailed o .recvWindowExceeded)
    fun _ _ => rfl)
  refine (h.frame hfr).reset ((ht.stray (some o) d).push rfl) ?_ _
  show o ∈ (k.stray (some o) d).values
  have hv : (k.stray (some o) d).values = k.values := by
    simp only [Session.stray, Session.topUp, values]
    split <;> rfl
  rw [hv]
  exact ho

theorem Emission.release {k : Session} (h : k.Emission) (ht : k.Table) {o n : Nat}
    {caps : List Capacity} (ho : o < k.created) (hall : ∀ c ∈ caps, c.stream < k.created) :
    (k.release o n caps).Emission := by
  rw [release_eq]
  have hcs : EmissionFrame k { k with caps := caps, recvSize := k.recvSize - n } :=
    EmissionFrame.of_cells rfl (fun _ hm => hm) rfl rfl
  have hrel : EmissionFrame k (k.released o n caps) :=
    hcs.trans (EmissionFrame.modify _ o (f := fun s =>
      { s with recvSize := s.recvSize - n }) rfl)
  have htc : Table { k with caps := caps, recvSize := k.recvSize - n } :=
    (ht.withCaps hall).window _ _ _ _ _ _ _ _ _ _
  have htr : (k.released o n caps).Table :=
    htc.modify (o := o) (f := fun s => { s with recvSize := s.recvSize - n }) rfl rfl Iff.rfl
      fun hi => hi
  exact ((h.frame hrel).streamTopUp htr ho).frame (EmissionFrame.topUp _)

theorem Emission.badCredit {k : Session} (h : k.Emission) (ht : k.Table) {o : Nat}
    (ho : o ∈ k.values) (id n : Nat) (e : StreamError) :
    (((k.push (.received (some o) (.windowUpdate id n))).push (.streamFailed o e)).reset o
      e.reason).Emission := by
  have hfr : EmissionFrame k ((k.push (.received (some o) (.windowUpdate id n))).push
      (.streamFailed o e)) :=
    (EmissionFrame.push k fun _ _ => rfl).trans (EmissionFrame.push _ fun _ _ => rfl)
  exact (h.frame hfr).reset ((ht.push rfl).push rfl) ho _

theorem Emission.settings {k : Session} (h : k.Emission) (s : Settings) :
    (k.settings s).Emission := by
  have hs : ∀ o, ((k.settings s).cells o).send = (k.cells o).send := by
    intro o
    simp only [Session.settings]
    split <;> rfl
  exact h.frame ⟨rfl, fun _ hm => hm, fun o hi => hs o ▸ hi, fun o hi => hs o ▸ hi,
    fun _ => rfl⟩

/-- The window of a stream moves with the ack, and may be announced. -/
theorem Emission.ackOne {k : Session} (h : k.Emission) (ht : k.Table) {o : Nat} {rest : List Nat}
    (ha : k.acking = o :: rest) : (k.ackOne o rest).Emission := by
  have hlt : o < k.created := ht.acking o (ha ▸ List.mem_cons_self)
  have hrest : EmissionFrame k { k with acking := rest } :=
    EmissionFrame.of_cells rfl (fun _ hm => hm) rfl rfl
  unfold Session.ackOne
  split
  · exact h.frame hrest
  · split
    · exact h.frame (EmissionFrame.of_cells rfl (fun _ hm => hm) rfl rfl)
    · have htm : Table ({ k with acking := rest }.modify o fun s =>
          { s with recvWindow := s.recvWindow + k.shift }) := by
        have htr : Table { k with acking := rest } :=
          { ht with acking := fun p hp => ht.acking p (ha ▸ List.mem_cons_of_mem o hp) }
        exact htr.modify rfl rfl Iff.rfl fun hi => hi
      exact (h.frame (hrest.trans (EmissionFrame.modify _ o rfl))).streamTopUp htm hlt

theorem Emission.ackFailed {k : Session} (h : k.Emission) (o : Nat) (e : StreamError)
    (l : List Nat) : (k.ackFailed o e l).Emission := by
  have hrest : EmissionFrame k { k with ackErrors := l } :=
    EmissionFrame.of_cells rfl (fun _ hm => hm) rfl rfl
  exact h.frame (((hrest.trans (EmissionFrame.push _ (e := .streamFailed o e)
    fun _ _ => rfl)).trans (EmissionFrame.close _ o true true)).trans
      (EmissionFrame.push _ fun _ _ => rfl))

/-- The failure of the session writes nothing; a RST_STREAM at fault has ended its stream. -/
theorem Emission.fail {k : Session} (h : k.Emission) (ht : k.Table) {evs : List Event}
    {window : Nat → Int} {windowSz frameSize : Nat}
    (he : k.FailEvents evs windowSz frameSize) :
    (k.fail evs window windowSz frameSize).Emission := by
  have hsend : ∀ o, ((k.fail evs window windowSz frameSize).cells o).send = .closed ∨
      ((k.fail evs window windowSz frameSize).cells o).send = (k.cells o).send ∧
        o ∉ k.values := by
    intro o
    by_cases ho : o ∈ k.values
    · exact .inl (by simp only [Session.fail, ho, if_true])
    · exact .inr ⟨by simp only [Session.fail, ho, if_false], ho⟩
  have hph : ∀ o, phase o (evs ++ k.log) = phase o k.log ∨
      o ∈ k.values ∧ phase o (evs ++ k.log) = .gone := by
    intro o
    rcases he.1 with rfl | ⟨err, rfl | ⟨obj, f, rfl, hobj⟩⟩
    · exact .inl rfl
    · exact .inl rfl
    · cases obj with
      | none => exact .inl rfl
      | some q =>
          cases f with
          | reset id r =>
              by_cases hq : q = o
              · subst hq
                refine .inr ⟨hobj q rfl, ?_⟩
                show (if q = q then (phase q k.log).onReset else _) = _
                simp only [if_true]
                exact Phase.onReset_open (h.live q (hobj q rfl))
              · exact .inl (if_neg hq)
          | _ => exact .inl rfl
  have hopen : ∀ o < k.created, o ∉ k.values → (k.cells o).send = .closed := by
    intro o ho hm
    exact (not_not.mp fun hd => hm ((ht.live o ho).mpr hd)).2
  exact
    { sane := by
        intro o
        show phase o (evs ++ k.log) ≠ _
        rcases hph o with hp | ⟨-, hp⟩
        · rw [hp]
          exact h.sane o
        · rw [hp]
          decide
      live := by
        intro o ho
        cases ho
      idle := by
        intro o ho hi
        rcases hsend o with hc | ⟨hc, hm⟩
        · rw [hc] at hi
          cases hi
        · rw [hc, hopen o ho hm] at hi
          cases hi
      payload := by
        intro o ho hi
        rcases hsend o with hc | ⟨hc, hm⟩
        · rw [hc] at hi
          cases hi
        · rw [hc, hopen o ho hm] at hi
          cases hi
      fresh := by
        intro o ho
        show phase o (evs ++ k.log) = _
        rcases hph o with hp | ⟨hm, -⟩
        · rw [hp]
          exact h.fresh o ho
        · have := ht.bound o hm
          have : k.created ≤ o := ho
          omega }

theorem Emission.drain {k : Session} (h : k.Emission) : k.drain.Emission := by
  have hd : EmissionFrame k { k with draining := true } :=
    EmissionFrame.of_cells rfl (fun _ hm => hm) rfl rfl
  unfold Session.drain
  split
  · exact h.frame (hd.trans (EmissionFrame.ioClose _))
  · exact h.frame hd

theorem Emission.unreserve {k : Session} (h : k.Emission) : k.unreserve.Emission := by
  have hd : EmissionFrame k { k with
      activeLocal := k.activeLocal - 1
      reserved := k.reserved - 1
      reservations := k.reservations - 1 } :=
    EmissionFrame.of_cells rfl (fun _ hm => hm) rfl rfl
  unfold Session.unreserve
  dsimp only
  split
  · exact h.frame (hd.trans (EmissionFrame.ioClose _))
  · exact h.frame hd

/-! ## Every step -/

/-- Every step keeps the invariant. -/
theorem Emission.step {G : Guard} {k k' : Session} (h : k.Emission) (ht : k.Table)
    (hs : Step G k k') : k'.Emission := by
  have other : ∀ {k' : Session}, k'.created = k.created → (∀ o ∈ k'.values, o ∈ k.values) →
      k'.cells = k.cells → k'.log = k.log → k'.Emission :=
    fun h1 h2 h3 h4 => h.frame (EmissionFrame.of_cells h1 h2 h3 h4)
  cases hs with
  | @quiet e he =>
      refine h.frame (EmissionFrame.push k ?_)
      intro o p
      cases e with
      | sent obj w f =>
          cases obj with
          | none => rfl
          | some q => cases f <;> exact False.elim he
      | received obj f =>
          cases obj with
          | none => rfl
          | some q => cases f <;> first | rfl | exact False.elim he
      | _ => rfl
  | raise hs hid => exact other rfl (fun _ hm => hm) rfl rfl
  | @accept id hs hd hid hodd hmax => exact h.accept id
  | @openLocal hd reserved hs hf hg hdr hid hmax hr => exact h.openLocal hd reserved
  | close ho hsr => exact h.frame (EmissionFrame.close k _ _ _)
  | @remoteReset o id r ho => exact h.remoteReset ht ho id r
  | recvPayload ho hi => exact h.frame (EmissionFrame.modify k _ rfl)
  | @interim o hd ho hi hid hend => exact h.interim ho hi hend
  | @respond o hd ho hi hid => exact h.respond ho hi
  | @chunk o d ho hp hid hw hc hm => exact h.chunk ho hp
  | @finish o ho hp => exact h.finish ho hp
  | @trailers o hd ho hp hid hend => exact h.trailers ho hp hend
  | reset ho => exact h.reset ht ho _
  | @charge o d ho hid hw hc => exact h.charge o d
  | @stray d hid hc => exact h.stray d
  | @overrun o d ho hid hw hc => exact h.overrun ht ho d
  | @release o n caps ho hcaps hheld hall => exact h.release ht ho hall
  | caps hcaps hheld hall => exact other rfl (fun _ hm => hm) rfl rfl
  | conCredit hn =>
      exact h.frame ⟨rfl, fun _ hm => hm, fun _ hi => hi, fun _ hi => hi, fun _ => rfl⟩
  | @credit o n id ho hid hn =>
      exact h.frame ((EmissionFrame.push k fun _ _ => rfl).trans (EmissionFrame.modify _ o rfl))
  | lateCredit h0 hid => exact h.frame (EmissionFrame.push k fun _ _ => rfl)
  | @badCredit o n id e ho hid => exact h.badCredit ht ho id n e
  | @settings s hack hw hn => exact h.settings s
  | ackBegin hack hp =>
      exact h.frame ⟨rfl, fun _ hm => hm, fun _ hi => hi, fun _ hi => hi, fun _ => rfl⟩
  | @ackOne o rest ha hG => exact h.ackOne ht ha
  | @ackFailed o e l ho hl => exact h.ackFailed o e l
  | @fail evs window windowSz frameSize he => exact h.fail ht he
  | shut _ => exact h.frame (EmissionFrame.ioClose k)
  | drain => exact h.drain
  | goneAway => exact other rfl (fun _ hm => hm) rfl rfl
  | reserve hs hf hg hd => exact other rfl (fun _ hm => hm) rfl rfl
  | unreserve hs hr => exact h.unreserve
  | senders hl => exact other rfl (fun _ hm => hm) rfl rfl
  | reorder hl => exact other rfl (fun o hm => (hl.map _).mem_iff.mp hm) rfl rfl

end Session

end NtexH2
