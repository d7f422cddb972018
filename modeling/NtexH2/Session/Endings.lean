/-
  Session/Endings.lean --- how the send half of a stream closes.

  While a stream is in the map, its send half closes with the frame that ends it, and
  in no other way.
-/
import NtexH2.Session.Grammar

set_option autoImplicit false

namespace NtexH2

/-- A stream ends with a frame that says so. -/
theorem onSent_ended {p : Phase} {w : Writer} {f : Frame} (h : p.onSent w f = .ended) :
    f.endsStream = true ∨ p = .ended := by
  rcases onSent_cases (p := p) (w := w) (f := f) (by rw [h]; exact Phase.noConfusion) with
    ⟨hd, -, rfl, rfl, -, heq⟩ | ⟨hd, -, -, rfl, heq⟩ | ⟨d, -, rfl, rfl, heq⟩ |
    ⟨hd, rfl, rfl, rfl, -⟩ | ⟨id, n, -, rfl, heq⟩ | ⟨id, r, -, rfl, heq⟩
  · rw [heq] at h
    cases h
  · rw [heq] at h
    refine .inl (by_contra fun hne => ?_)
    have hne' : ¬hd.endStream = true := hne
    rw [if_neg hne'] at h
    cases h
  · rw [heq] at h
    refine .inl (by_contra fun hne => ?_)
    have hne' : ¬d.endStream = true := hne
    rw [if_neg hne'] at h
    cases h
  · refine .inl (by_contra fun hne => ?_)
    have hne' : ¬hd.endStream = true := hne
    simp [Phase.onSent, hne'] at h
  · exact .inr (heq.symm.trans h)
  · rw [heq] at h
    cases h

/-- A frame that ends the stream has been written. -/
theorem phase_ended {o : Nat} {l : List Event} (h : phase o l = .ended) :
    ∃ x ∈ words o l, x.2.endsStream = true := by
  induction l with
  | nil => cases h
  | cons e l ih =>
      have hnext : (phase o l).next o e = .ended := h
      by_cases hsent : ∃ p w f, e = .sent (some p) w f
      · obtain ⟨p, w, f, rfl⟩ := hsent
        rw [words_sent]
        by_cases hpo : p = o
        · subst hpo
          rw [if_pos rfl]
          rcases onSent_ended ((if_pos rfl).symm.trans hnext) with hend | hp
          · exact ⟨(w, f), List.mem_append_right _ (List.mem_singleton_self _), hend⟩
          · obtain ⟨x, hx, hend⟩ := ih hp
            exact ⟨x, List.mem_append_left _ hx, hend⟩
        · rw [if_neg hpo]
          exact ih ((if_neg hpo).symm.trans hnext)
      · rw [words_other fun p w f heq => hsent ⟨p, w, f, heq⟩]
        refine ih ?_
        cases e with
        | sent obj w f =>
            cases obj with
            | none => exact hnext
            | some p => exact absurd ⟨p, w, f, rfl⟩ hsent
        | received obj f =>
            cases obj with
            | none => exact hnext
            | some p =>
                cases f with
                | reset id r =>
                    by_cases hpo : p = o
                    · have hreset : (phase o l).onReset = .ended := (if_pos hpo).symm.trans hnext
                      unfold Phase.onReset at hreset
                      split at hreset <;> cases hreset
                    · exact (if_neg hpo).symm.trans hnext
                | _ => exact hnext
        | _ => exact hnext

namespace Session

variable {k k' k'' : Session}

/-- A stream of the map whose send half is closed has written its last frame. -/
def Endings (k : Session) : Prop :=
  ∀ o ∈ k.values, (k.cells o).send = .closed → phase o k.log = .ended

/-- No send half closes of the streams that stay. -/
structure KeepsSend (k k' : Session) : Prop where
  values : ∀ o ∈ k'.values, o ∈ k.values
  send : ∀ o ∈ k'.values, (k'.cells o).send = .closed → (k.cells o).send = .closed
  phase : ∀ o ∈ k'.values, phase o k'.log = NtexH2.phase o k.log

theorem Endings.keeps (h : k.Endings) (hk : KeepsSend k k') : k'.Endings := by
  intro o ho hs
  rw [hk.phase o ho]
  exact h o (hk.values o ho) (hk.send o ho hs)

theorem KeepsSend.trans (h : KeepsSend k k') (h' : KeepsSend k' k'') : KeepsSend k k'' where
  values := fun o ho => h.values o (h'.values o ho)
  send := fun o ho hs => h.send o (h'.values o ho) (h'.send o ho hs)
  phase := fun o ho => (h'.phase o ho).trans (h.phase o (h'.values o ho))

theorem KeepsSend.of_cells (hv : ∀ o ∈ k'.values, o ∈ k.values) (hc : k'.cells = k.cells)
    (hl : k'.log = k.log) : KeepsSend k k' where
  values := hv
  send := fun o _ hs => by rwa [hc] at hs
  phase := fun o _ => by rw [hl]

theorem KeepsSend.push (k : Session) {e : Event} (he : ∀ o p, Phase.next o p e = p) :
    KeepsSend k (k.push e) :=
  ⟨fun _ h => h, fun _ _ h => h, fun o _ => he o _⟩

theorem KeepsSend.modify (k : Session) (o : Nat) {f : Cell → Cell}
    (h : (f (k.cells o)).send = (k.cells o).send) : KeepsSend k (k.modify o f) := by
  refine ⟨fun _ hm => hm, fun p _ hs => ?_, fun _ _ => rfl⟩
  by_cases hp : p = o
  · subst hp
    rw [← h]
    simpa [Session.modify] using hs
  · simpa [Session.modify, hp] using hs

/-- Both halves close, or the receive half alone. -/
theorem KeepsSend.close (ht : k.Table) {o : Nat} {r w : Bool} (h : w = true → r = true) :
    KeepsSend k (k.close o r w) := by
  refine ⟨fun p hp => close_values_sub hp, fun p hp hs => ?_, fun p _ => phase_close_log k o r w p⟩
  by_cases hpo : p = o
  · subst hpo
    cases w with
    | false =>
        rw [close_cells_self] at hs
        exact hs
    | true =>
        rw [h rfl] at hp
        exact absurd ⟨rfl, rfl, rfl⟩ ((mem_values_close ht).mp hp).2
  · rwa [close_cells_of_ne hpo] at hs

/-- A frame is written for a stream that leaves with it. -/
theorem KeepsSend.reset (ht : k.Table) {o : Nat} (r : Reason) : KeepsSend k (k.reset o r) := by
  have hne : ∀ p ∈ (k.reset o r).values, p ≠ o := by
    rintro p hp rfl
    exact ht.not_mem_reset hp
  refine ⟨fun p hp => close_values_sub (k := k.push _) hp, fun p hp hs => ?_, fun p hp => ?_⟩
  · unfold Session.reset at hs
    rwa [close_cells_of_ne (hne p hp)] at hs
  · unfold Session.reset
    rw [phase_close_log]
    exact phase_sent_of_ne (hne p hp)

theorem KeepsSend.topUp (k : Session) : KeepsSend k k.topUp := by
  unfold Session.topUp
  split
  · exact ⟨fun _ h => h, fun _ _ h => h, fun _ _ => rfl⟩
  · exact .of_cells (fun _ h => h) rfl rfl

/-- Credit is written for a stream. -/
theorem KeepsSend.streamTopUp (he : k.Emission) (o : Nat) : KeepsSend k (k.streamTopUp o) := by
  unfold Session.streamTopUp
  split
  · refine (KeepsSend.modify k o (f := fun s =>
      { s with recvWindow := k.config.windowSz - s.recvSize }) rfl).trans
        ⟨fun _ h => h, fun _ _ h => h, fun p hp => ?_⟩
    by_cases hpo : p = o
    · subst hpo
      exact (phase_sent p _ _ _).trans (Phase.onSent_windowUpdate (he.live p hp) _ _)
    · exact phase_sent_of_ne hpo
  · exact .of_cells (fun _ h => h) rfl rfl

/-- A frame of the stream `o` that may end it. -/
theorem Endings.sent (h : k.Endings) {o : Nat} {w : Writer} {f : Frame}
    (hv : ∀ p ∈ k'.values, p ∈ k.values)
    (hcells : ∀ p, p ≠ o → (k'.cells p).send = (k.cells p).send)
    (hlog : ∀ p, phase p k'.log = phase p (.sent (some o) w f :: k.log))
    (hend : (k'.cells o).send = .closed → (phase o k.log).onSent w f = .ended) : k'.Endings := by
  intro p hp hs
  rw [hlog]
  by_cases hpo : p = o
  · subst hpo
    rw [phase_sent]
    exact hend hs
  · rw [phase_sent_of_ne hpo]
    rw [hcells p hpo] at hs
    exact h p (hv p hp) hs

/-! ## One lemma for each action -/

/-- A new stream of the peer has its send half open. -/
theorem Endings.accept (h : k.Endings) (id : Nat) : (k.accept id).Endings := by
  intro o ho hs
  by_cases hoc : o = k.created
  · subst hoc
    simp [Session.accept, newCell] at hs
  · have hs' : (k.cells o).send = .closed := by
      simpa [Session.accept, hoc] using hs
    simp only [values, Session.accept, List.map_cons, List.mem_cons, hoc, false_or] at ho
    exact h o ho hs'

/-- The send half of a new stream of a client is closed if its HEADERS end it. -/
theorem Endings.openLocal (h : k.Endings) (he : k.Emission) (hd : Headers) (reserved : Bool) :
    (k.openLocal hd reserved).Endings := by
  intro o ho hs
  by_cases hoc : o = k.created
  · subst hoc
    show phase k.created (_ :: k.log) = _
    rw [phase_sent, he.fresh _ (Nat.le_refl _)]
    have hend : hd.endStream = true := by
      by_contra hne
      simp [Session.openLocal, hne] at hs
    simp [Phase.onSent, hend]
  · have hs' : (k.cells o).send = .closed := by
      simpa [Session.openLocal, hoc] using hs
    simp only [values, Session.openLocal, List.map_cons, List.mem_cons, hoc, false_or] at ho
    exact (phase_sent_of_ne hoc).trans (h o ho hs')

/-- A stream that the peer resets leaves the map. -/
theorem Endings.remoteReset (h : k.Endings) (ht : k.Table) (o id : Nat) (r : Reason) :
    ((k.push (.received (some o) (.reset id r))).close o true true).Endings := by
  have hp := ht.push (e := .received (some o) (.reset id r)) rfl
  have hne : ∀ p ∈ ((k.push (.received (some o) (.reset id r))).close o true true).values,
      p ≠ o := by
    rintro p hm rfl
    exact ((mem_values_close hp).mp hm).2 ⟨rfl, rfl, rfl⟩
  have hpush : KeepsSend (k.push (.received (some o) (.reset id r)))
      ((k.push (.received (some o) (.reset id r))).close o true true) := .close hp fun _ => rfl
  refine h.keeps ⟨hpush.values, hpush.send, fun p hm => ?_⟩
  rw [phase_close_log]
  exact if_neg (hne p hm).symm

theorem Endings.interim (h : k.Endings) {o : Nat} {hd : Headers}
    (hi : (k.cells o).send = .idle) :
    (k.push (.sent (some o) .sendInformational (.headers hd))).Endings := by
  refine h.sent (fun _ hm => hm) (fun _ _ => rfl) (fun _ => rfl) fun hs => ?_
  have hs' : (k.cells o).send = .closed := hs
  rw [hi] at hs'
  cases hs'

/-- The send half closes with the head of a response that ends the stream. -/
theorem Endings.respond (h : k.Endings) (he : k.Emission) {o : Nat} {hd : Headers}
    (ho : o < k.created) (hi : (k.cells o).send = .idle) : (k.respond o hd).Endings := by
  unfold Session.respond
  cases hend : hd.endStream with
  | true =>
      refine h.sent (w := .sendResponse) (f := .headers hd)
        (fun p hp => close_values_sub (k := k) hp)
        (fun p hp => congrArg Cell.send (close_cells_of_ne hp)) ?_ fun _ => ?_
      · intro p
        show (phase p (k.close o false true).log).next p _ = (phase p k.log).next p _
        rw [phase_close_log]
      · rw [he.idle o ho hi]
        simp [Phase.onSent, hend]
  | false =>
      refine h.sent (w := .sendResponse) (f := .headers hd) (fun _ hm => hm) ?_ (fun _ => rfl)
        fun hs => ?_
      · intro p hp
        simp [Session.push, Session.modify, hp]
      · simp [Session.push, Session.modify] at hs

/-- It closes with the last payload. -/
theorem Endings.chunk (h : k.Endings) (he : k.Emission) {o : Nat} {d : Data}
    (ho : o < k.created) (hp : (k.cells o).send = .payload) : (k.chunk o d).Endings := by
  have hsend : ∀ p, ((k.chunk o d).cells p).send =
      (((k.push (.sent (some o) .sendPages (.data d))).close o false d.endStream).cells
        p).send := by
    intro p
    by_cases hpo : p = o
    · subst hpo
      simp [Session.chunk, spend, Session.modify]
    · simp [Session.chunk, spend, Session.modify, hpo]
  refine @Endings.sent k (k.chunk o d) h o _ _
    (fun p hp => close_values_sub (k := k.push _) hp) ?_
    (fun p => phase_close_log (k.push _) o false d.endStream p) fun hs => ?_
  · intro p hpo
    rw [hsend, close_cells_of_ne hpo]
    rfl
  · rw [hsend, close_cells_self] at hs
    rw [he.payload o ho hp]
    cases hend : d.endStream with
    | true => simp [Phase.onSent, hend]
    | false =>
        rw [hend] at hs
        have hs' : (k.cells o).send = .closed := hs
        rw [hp] at hs'
        cases hs'

/-- It closes with an empty DATA frame. -/
theorem Endings.finish (h : k.Endings) (he : k.Emission) {o : Nat} (ho : o < k.created)
    (hp : (k.cells o).send = .payload) : (k.finish o).Endings := by
  refine @Endings.sent k (k.finish o) h o .sendPages (.data ⟨(k.cells o).id, [], 0, true⟩)
    (fun p hp => close_values_sub (k := k) hp)
    (fun p hpo => congrArg Cell.send (close_cells_of_ne hpo)) ?_ fun _ => ?_
  · intro p
    show (phase p (k.close o false true).log).next p _ = (phase p k.log).next p _
    rw [phase_close_log]
  · rw [he.payload o ho hp]
    rfl

/-- It closes with trailers. -/
theorem Endings.trailers (h : k.Endings) (he : k.Emission) {o : Nat} {hd : Headers}
    (ho : o < k.created) (hp : (k.cells o).send = .payload) (hend : hd.endStream = true) :
    (k.trailers o hd).Endings := by
  refine @Endings.sent k (k.trailers o hd) h o _ _
    (fun p hp => close_values_sub (k := k.push _) hp) ?_
    (fun p => phase_close_log (k.push _) o false true p) fun _ => ?_
  · intro p hpo
    unfold Session.trailers
    rw [close_cells_of_ne hpo]
    rfl
  · rw [he.payload o ho hp]
    simp [Phase.onSent, hend]

theorem Endings.charge (h : k.Endings) (o : Nat) (d : Data) : (k.charge o d).Endings := by
  have h1 := (KeepsSend.push k (e := .received (some o) (.data d)) fun _ _ => rfl).trans
    (.modify _ o (f := fun s => { s with
      recvWindow := s.recvWindow - d.flowLen
      recvSize := s.recvSize + d.flowLen }) rfl)
  exact h.keeps (h1.trans (.of_cells (fun _ hm => hm) rfl rfl))

/-- Payload beyond the window of a stream resets it. -/
theorem Endings.overrun (h : k.Endings) (ht : k.Table) (o : Nat) (d : Data) :
    (k.overrun o d).Endings := by
  have hst : KeepsSend k (k.stray (some o) d) := by
    refine KeepsSend.trans ?_ (.topUp _)
    exact ⟨fun _ hm => hm, fun _ _ hs => hs, fun _ _ => rfl⟩
  have hpush := hst.trans (.push _ (e := .streamFailed o .recvWindowExceeded) fun _ _ => rfl)
  exact h.keeps (hpush.trans (.reset ((ht.stray (some o) d).push rfl) _))

/-- Octets that are released may announce credit. -/
theorem Endings.release (h : k.Endings) (he : k.Emission) (o n : Nat) (caps : List Capacity) :
    (k.release o n caps).Endings := by
  rw [release_eq]
  have hrel : KeepsSend k (k.released o n caps) :=
    (@KeepsSend.of_cells k { k with caps := caps, recvSize := k.recvSize - n }
      (fun _ hm => hm) rfl rfl).trans (.modify _ o (f := fun s =>
        { s with recvSize := s.recvSize - n }) rfl)
  have hcs : EmissionFrame k { k with caps := caps, recvSize := k.recvSize - n } :=
    EmissionFrame.of_cells rfl (fun _ hm => hm) rfl rfl
  have hem : (k.released o n caps).Emission := he.frame (hcs.trans
    (EmissionFrame.modify _ o (f := fun s => { s with recvSize := s.recvSize - n }) rfl))
  exact h.keeps ((hrel.trans (.streamTopUp hem o)).trans (.topUp _))

/-- Credit that a stream cannot take resets it. -/
theorem Endings.badCredit (h : k.Endings) (ht : k.Table) (o id n : Nat) (e : StreamError) :
    (((k.push (.received (some o) (.windowUpdate id n))).push (.streamFailed o e)).reset o
      e.reason).Endings := by
  have hpush := (KeepsSend.push k (e := .received (some o) (.windowUpdate id n))
    fun _ _ => rfl).trans (.push _ (e := .streamFailed o e) fun _ _ => rfl)
  exact h.keeps (hpush.trans (.reset ((ht.push rfl).push rfl) _))

theorem Endings.settings (h : k.Endings) (s : Settings) : (k.settings s).Endings := by
  have hs : ∀ o, ((k.settings s).cells o).send = (k.cells o).send := by
    intro o
    simp only [Session.settings]
    split <;> rfl
  exact h.keeps ⟨fun _ hm => hm, fun o _ hi => hs o ▸ hi, fun _ _ => rfl⟩

/-- The ack moves the window of a stream. -/
theorem Endings.ackOne (h : k.Endings) (he : k.Emission) (o : Nat) (rest : List Nat) :
    (k.ackOne o rest).Endings := by
  have hrest : KeepsSend k { k with acking := rest } := .of_cells (fun _ hm => hm) rfl rfl
  unfold Session.ackOne
  split
  · exact h.keeps hrest
  · split
    · exact h.keeps (.of_cells (fun _ hm => hm) rfl rfl)
    · have hmod := hrest.trans (.modify _ o (f := fun s =>
        { s with recvWindow := s.recvWindow + k.shift }) rfl)
      have hrest' : EmissionFrame k { k with acking := rest } :=
        .of_cells rfl (fun _ hm => hm) rfl rfl
      have hem : (({ k with acking := rest } : Session).modify o fun s =>
          { s with recvWindow := s.recvWindow + k.shift }).Emission :=
        he.frame (hrest'.trans (.modify _ o rfl))
      exact h.keeps (hmod.trans (.streamTopUp hem o))

/-- A stream whose window the ack overflows is reset. -/
theorem Endings.ackFailed (h : k.Endings) (ht : k.Table) {o : Nat} {e : StreamError}
    {l : List Nat} (hl : ∀ p ∈ l, p ∈ k.ackErrors) : (k.ackFailed o e l).Endings := by
  have hrest : KeepsSend k { k with ackErrors := l } := .of_cells (fun _ hm => hm) rfl rfl
  have hl' : Table { k with ackErrors := l } :=
    { ht with ackErrors := fun p hp => ht.ackErrors p (hl p hp) }
  have htr : Table ({ k with ackErrors := l }.push (.streamFailed o e)) := hl'.push rfl
  have hpush := hrest.trans (.push _ (e := .streamFailed o e) fun _ _ => rfl)
  exact h.keeps ((hpush.trans (.close htr fun _ => rfl)).trans (.push _ fun _ _ => rfl))

theorem Endings.drain (h : k.Endings) : k.drain.Endings := by
  unfold Session.drain
  split
  · exact h.keeps ⟨fun _ hm => hm, fun _ _ hs => hs, fun _ _ => rfl⟩
  · exact h.keeps (.of_cells (fun _ hm => hm) rfl rfl)

theorem Endings.unreserve (h : k.Endings) : k.unreserve.Endings := by
  unfold Session.unreserve
  dsimp only
  split
  · exact h.keeps ⟨fun _ hm => hm, fun _ _ hs => hs, fun _ _ => rfl⟩
  · exact h.keeps (.of_cells (fun _ hm => hm) rfl rfl)

/-! ## Every step -/

/-- Every step keeps the invariant. -/
theorem Endings.step {G : Guard} (h : k.Endings) (he : k.Emission) (ht : k.Table)
    (hs : Step G k k') : k'.Endings := by
  cases hs with
  | @quiet e hq =>
      refine h.keeps (.push k ?_)
      intro o p
      cases e with
      | sent obj w f =>
          cases obj with
          | none => rfl
          | some q => cases f <;> exact False.elim hq
      | received obj f =>
          cases obj with
          | none => rfl
          | some q => cases f <;> first | rfl | exact False.elim hq
      | _ => rfl
  | @accept id hserver hd hid hodd hmax => exact h.accept id
  | @openLocal hd reserved hserver hf hg hdr hid hmax hr => exact h.openLocal he hd reserved
  | close ho hsr => exact h.keeps (.close ht hsr)
  | @remoteReset o id r ho => exact h.remoteReset ht o id r
  | recvPayload ho hi => exact h.keeps (.modify k _ rfl)
  | @interim o hd ho hi hid hend => exact h.interim hi
  | @respond o hd ho hi hid => exact h.respond he ho hi
  | @chunk o d ho hp hid hw hc hm => exact h.chunk he ho hp
  | @finish o ho hp => exact h.finish he ho hp
  | @trailers o hd ho hp hid hend => exact h.trailers he ho hp hend
  | reset ho => exact h.keeps (.reset ht _)
  | @charge o d ho hid hw hc => exact h.charge o d
  | @stray d hid hc =>
      refine h.keeps (KeepsSend.trans ?_ (.topUp _))
      exact ⟨fun _ hm => hm, fun _ _ hs => hs, fun _ _ => rfl⟩
  | @overrun o d ho hid hw hc => exact h.overrun ht o d
  | @release o n caps ho hcaps hheld hall => exact h.release he o n caps
  | @credit o n id ho hid hn =>
      exact h.keeps ((KeepsSend.push k fun _ _ => rfl).trans (.modify _ o rfl))
  | lateCredit h0 hid => exact h.keeps (.push k fun _ _ => rfl)
  | @badCredit o n id e ho hid => exact h.badCredit ht o id n e
  | @settings s hack hw hn => exact h.settings s
  | @ackOne o rest ha hG => exact h.ackOne he o rest
  | @ackFailed o e l ho hl => exact h.ackFailed ht hl
  | fail hevs => exact fun o ho => absurd ho List.not_mem_nil
  | drain => exact h.drain
  | unreserve hserver hr => exact h.unreserve
  | shut _ => exact h.keeps ⟨fun _ hm => hm, fun _ _ hs => hs, fun _ _ => rfl⟩
  | conCredit hn => exact h.keeps ⟨fun _ hm => hm, fun _ _ hs => hs, fun _ _ => rfl⟩
  | ackBegin hack hp => exact h.keeps ⟨fun _ hm => hm, fun _ _ hs => hs, fun _ _ => rfl⟩
  | reorder hperm =>
      exact h.keeps (.of_cells (fun o ho => (hperm.map Prod.snd).mem_iff.mp ho) rfl rfl)
  | _ => exact h.keeps (.of_cells (fun _ hm => hm) rfl rfl)

end Session

end NtexH2
