/-
  Session/Closing.lean --- a session that drains.

  A session that drains takes no new streams.  Its io is closed when the last stream
  and the last reservation are gone: not before, unless the session fails or somebody
  else closes the io, and not later.
-/
import NtexH2.Session.Table

set_option autoImplicit false

namespace NtexH2

namespace Session

/-- The session drains, and nothing is left. -/
def Closing (k : Session) : Prop := k.draining = true ∧ k.streams = [] ∧ k.reserved = 0

/-- Runs in which nobody else closes the io before the session has failed. -/
def undisturbed : Guard := ⟨fun _ => True, False⟩

/-! ## What a step does to the end -/

/-- Two sessions that are equally far from their end. -/
structure SameEnd (k k' : Session) : Prop where
  ioClosed : k'.ioClosed = k.ioClosed
  draining : k'.draining = k.draining
  failed : k'.failed = k.failed
  streams : k'.streams = [] ↔ k.streams = []
  reserved : k'.reserved = k.reserved

variable {k k' k'' : Session} {G : Guard}

theorem SameEnd.refl (k : Session) : SameEnd k k := ⟨rfl, rfl, rfl, Iff.rfl, rfl⟩

/-- Sessions that are equally far from their end are so along a run. -/
theorem SameEnd.trans {m : Session} (h : SameEnd k m) (h' : SameEnd m k') : SameEnd k k' :=
  ⟨h'.ioClosed.trans h.ioClosed, h'.draining.trans h.draining, h'.failed.trans h.failed,
    h'.streams.trans h.streams, h'.reserved.trans h.reserved⟩

theorem SameEnd.push (k : Session) (e : Event) : SameEnd k (k.push e) :=
  ⟨rfl, rfl, rfl, Iff.rfl, rfl⟩

theorem SameEnd.topUp (k : Session) : SameEnd k k.topUp := by
  unfold Session.topUp
  split
  · exact ⟨rfl, rfl, rfl, Iff.rfl, rfl⟩
  · exact .refl k

theorem SameEnd.streamTopUp (k : Session) (o : Nat) : SameEnd k (k.streamTopUp o) := by
  unfold Session.streamTopUp
  split
  · exact ⟨rfl, rfl, rfl, Iff.rfl, rfl⟩
  · exact .refl k

theorem SameEnd.stray (k : Session) (obj : Option Nat) (d : Data) : SameEnd k (k.stray obj d) := by
  refine SameEnd.trans ?_ (.topUp _)
  exact ⟨rfl, rfl, rfl, Iff.rfl, rfl⟩

/-- What `Closing` asks for is part of `SameEnd`. -/
theorem SameEnd.closing (s : SameEnd k k') : k'.Closing ↔ k.Closing := by
  unfold Closing
  rw [s.draining, s.streams, s.reserved]

/-- What a step does to the end of a session: nothing; nothing, far from the end; a stream or
a reservation goes, and the io is closed if that is the end; the io is closed since this is the
end; the session fails; the io is closed from outside. -/
inductive EndStep (G : Guard) (k k' : Session) : Prop where
  | same (s : SameEnd k k')
  | apart (hio : k'.ioClosed = k.ioClosed) (hf : k'.failed = k.failed) (hk : ¬k.Closing)
      (hk' : ¬k'.Closing)
  | leave (hf : k'.failed = k.failed) (hk : ¬k.Closing)
      (hio : k'.ioClosed = true ↔ k.ioClosed = true ∨ k'.Closing)
  | ends (hk' : k'.Closing) (hio : k'.ioClosed = true)
  | failed (hf : k'.failed = true)
  | shut (h : k.failed = true ∨ G.shut) (hf : k'.failed = k.failed) (hio : k'.ioClosed = true)

/-- A change before the step that leaves the end where it is. -/
theorem EndStep.after (s : SameEnd k k') (h : EndStep G k' k'') : EndStep G k k'' := by
  cases h with
  | same s' => exact .same (s.trans s')
  | apart hio hf hk hk' =>
      exact .apart (hio.trans s.ioClosed) (hf.trans s.failed) (fun h => hk (s.closing.mpr h)) hk'
  | leave hf hk hio =>
      rw [s.ioClosed] at hio
      exact .leave (hf.trans s.failed) (fun h => hk (s.closing.mpr h)) hio
  | ends hk' hio => exact .ends hk' hio
  | failed hf => exact .failed hf
  | shut h hf hio =>
      rw [s.failed] at h
      exact .shut h (hf.trans s.failed) hio

/-- The same after the step. -/
theorem EndStep.before (h : EndStep G k k') (s : SameEnd k' k'') : EndStep G k k'' := by
  cases h with
  | same s' => exact .same (s'.trans s)
  | apart hio hf hk hk' =>
      exact .apart (s.ioClosed.trans hio) (s.failed.trans hf) hk fun h => hk' (s.closing.mp h)
  | leave hf hk hio =>
      refine .leave (s.failed.trans hf) hk ?_
      rw [s.ioClosed, s.closing]
      exact hio
  | ends hk' hio => exact .ends (s.closing.mpr hk') (s.ioClosed.trans hio)
  | failed hf => exact .failed (s.failed.trans hf)
  | shut h hf hio => exact .shut h (s.failed.trans hf) (s.ioClosed.trans hio)

/-- The halves of a stream close. -/
theorem EndStep.close (k : Session) (o : Nat) (r w : Bool) : EndStep G k (k.close o r w) := by
  by_cases hl : k.Leaves o r w
  · refine .leave rfl ?_ ?_
    · rintro ⟨-, hnil, -⟩
      have hm := hl.2
      unfold values at hm
      rw [hnil] at hm
      cases hm
    · show (k.ioClosed || decide (k.Ends o r w)) = true ↔ k.ioClosed = true ∨
        (k.draining = true ∧ (if k.Leaves o r w then k.without o else k.streams) = [] ∧
          k.reserved = 0)
      rw [Bool.or_eq_true, decide_eq_true_iff, if_pos hl]
      constructor
      · rintro (hc | ⟨-, hwo, hr, hd⟩)
        · exact .inl hc
        · exact .inr ⟨hd, hwo, hr⟩
      · rintro (hc | ⟨hd, hwo, hr⟩)
        · exact .inl hc
        · exact .inr ⟨hl, hwo, hr, hd⟩
  · have hends : ¬k.Ends o r w := fun he => hl he.1
    refine .same ⟨?_, rfl, rfl, ?_, rfl⟩
    · show (k.ioClosed || decide (k.Ends o r w)) = k.ioClosed
      rw [decide_eq_false hends, Bool.or_false]
    · show (if k.Leaves o r w then k.without o else k.streams) = [] ↔ k.streams = []
      rw [if_neg hl]

/-- A reset may take the last stream out of the map, which closes the io of a draining session. -/
theorem EndStep.reset (k : Session) (o : Nat) (r : Reason) : EndStep G k (k.reset o r) :=
  .after (.push k _) (.close _ o true true)

theorem not_closing (h : k.draining = false) : ¬k.Closing := by
  intro hk
  rw [hk.1] at h
  cases h

/-- A drain with nothing left closes the io at once. -/
theorem EndStep.drain (k : Session) : EndStep G k k.drain := by
  unfold Session.drain
  split
  · next he => exact .ends ⟨rfl, he.1, he.2⟩ rfl
  · next he =>
      refine .apart rfl rfl ?_ ?_
      · exact fun hk => he hk.2
      · exact fun hk => he hk.2

/-- The last reservation that is given back closes the io of a draining session. -/
theorem EndStep.unreserve (hr : k.reserved ≠ 0) : EndStep G k k.unreserve := by
  unfold Session.unreserve
  dsimp only
  split
  · next he => exact .ends ⟨he.2.2, he.2.1, he.1⟩ rfl
  · next he =>
      refine .apart rfl rfl ?_ ?_
      · exact fun hk => hr hk.2.2
      · exact fun hk => he ⟨hk.2.2, hk.2.1, hk.1⟩

/-- Every step leaves the end where it is, or moves towards it and closes the io on arrival. -/
theorem Step.end_cases (ht : k.Table) (hs : Step G k k') : EndStep G k k' := by
  have hsame : ∀ {k k' : Session}, k'.ioClosed = k.ioClosed → k'.draining = k.draining →
      k'.failed = k.failed → k'.streams = k.streams → k'.reserved = k.reserved → SameEnd k k' :=
    fun h1 h2 h3 h4 h5 => ⟨h1, h2, h3, by rw [h4], h5⟩
  cases hs with
  | quiet he => exact .same (.push k _)
  | raise hs hid => exact .same (hsame rfl rfl rfl rfl rfl)
  | accept hs hd hid hodd hmax =>
      refine .apart rfl rfl (not_closing hd) ?_
      exact fun hk => List.cons_ne_nil _ _ hk.2.1
  | @openLocal hd reserved hs hf hg hdr hid hmax hr =>
      refine .apart rfl rfl ?_ fun hk => List.cons_ne_nil _ _ hk.2.1
      cases reserved with
      | false => exact not_closing (hdr rfl)
      | true =>
          intro hk
          have hpos := hr rfl
          have hz := hk.2.2
          have := ht.reserved
          omega
  | close ho hsr => exact .close k _ _ _
  | remoteReset ho => exact .after (.push k _) (.close _ _ true true)
  | recvPayload ho hi => exact .same (hsame rfl rfl rfl rfl rfl)
  | interim ho hi hid hend => exact .same (.push k _)
  | @respond o hd ho hi hid =>
      unfold Session.respond
      refine EndStep.before ?_ (.push _ _)
      split
      · exact .close k o false true
      · exact .same (hsame rfl rfl rfl rfl rfl)
  | @chunk o d ho hp hid hw hc hm =>
      refine EndStep.before (.after (.push k (.sent (some o) .sendPages (.data d)))
        (.close _ o false d.endStream)) ?_
      exact hsame rfl rfl rfl rfl rfl
  | @finish o ho hp => exact (EndStep.close k o false true).before (.push _ _)
  | @trailers o hd ho hp hid hend => exact .after (.push k _) (.close _ o false true)
  | reset ho => exact .reset k _ _
  | charge ho hid hw hc => exact .same (hsame rfl rfl rfl rfl rfl)
  | stray hid hc => exact .same (.stray k none _)
  | @overrun o d ho hid hw hc =>
      exact .after ((SameEnd.stray k (some o) d).trans (.push _ _)) (.reset _ o _)
  | @release o n caps ho hcaps hheld hall =>
      unfold Session.release
      refine .same (SameEnd.trans ?_ (.topUp _))
      refine SameEnd.trans (m := Session.streamTopUp _ o) ?_ (hsame rfl rfl rfl rfl rfl)
      refine SameEnd.trans ?_ (.streamTopUp _ o)
      exact hsame rfl rfl rfl rfl rfl
  | caps hcaps hheld hall => exact .same (hsame rfl rfl rfl rfl rfl)
  | conCredit hn => exact .same (hsame rfl rfl rfl rfl rfl)
  | credit ho hid hn => exact .same (hsame rfl rfl rfl rfl rfl)
  | lateCredit h0 hid => exact .same (.push k _)
  | @badCredit o n id e ho hid =>
      exact .after ((SameEnd.push k _).trans (.push _ _)) (.reset _ o _)
  | settings hack hw hn => exact .same (hsame rfl rfl rfl rfl rfl)
  | ackBegin hack hp => exact .same (hsame rfl rfl rfl rfl rfl)
  | @ackOne o rest ha hG =>
      unfold Session.ackOne
      split
      · exact .same (hsame rfl rfl rfl rfl rfl)
      · split
        · exact .same (hsame rfl rfl rfl rfl rfl)
        · refine .same (SameEnd.trans ?_ (.streamTopUp _ o))
          exact hsame rfl rfl rfl rfl rfl
  | @ackFailed o e l ho hl =>
      unfold Session.ackFailed
      refine EndStep.before (.after ?_ (.close _ o true true)) (.push _ _)
      exact hsame rfl rfl rfl rfl rfl
  | fail he => exact .failed rfl
  | shut hshut => exact .shut hshut rfl rfl
  | drain => exact .drain k
  | goneAway => exact .same (hsame rfl rfl rfl rfl rfl)
  | reserve hs hf hg hd =>
      refine .apart rfl rfl (not_closing hd) ?_
      exact fun hk => Nat.succ_ne_zero _ hk.2.2
  | unreserve hs hr =>
      refine .unreserve ?_
      have := ht.reserved
      omega
  | senders hl => exact .same (hsame rfl rfl rfl rfl rfl)
  | @reorder l hl =>
      refine .same ⟨rfl, rfl, rfl, ⟨?_, ?_⟩, rfl⟩
      · intro h
        have h' : l = [] := h
        rw [h'] at hl
        exact hl.symm.eq_nil
      · intro h
        rw [h] at hl
        exact hl.eq_nil

/-! ## The io of a session -/

/-- A session at its end has closed its io, as long as it has not failed. -/
def Closes (k : Session) : Prop := k.failed = false → k.Closing → k.ioClosed = true

/-- The io is closed only at the end, as long as the session has not failed. -/
def StaysOpen (k : Session) : Prop := k.failed = false → k.ioClosed = true → k.Closing

/-- The io is closed no later than the session is done. -/
theorem Closes.step (ht : k.Table) (h : k.Closes) (hs : Step G k k') : k'.Closes := by
  intro hf hk
  cases hs.end_cases ht with
  | same s =>
      rw [s.ioClosed]
      exact h (s.failed ▸ hf) (s.closing.mp hk)
  | apart hio hf' hk0 hk' => exact absurd hk hk'
  | leave hf' hk0 hio => exact hio.mpr (.inr hk)
  | ends hk' hio => exact hio
  | failed hf' =>
      rw [hf] at hf'
      cases hf'
  | shut hshut hf' hio => exact hio

/-- Nor is it closed earlier, unless somebody else closes it. -/
theorem StaysOpen.step (ht : k.Table) (h : k.StaysOpen) (hG : ¬G.shut) (hs : Step G k k') :
    k'.StaysOpen := by
  intro hf hc
  cases hs.end_cases ht with
  | same s =>
      rw [s.ioClosed] at hc
      exact s.closing.mpr (h (s.failed ▸ hf) hc)
  | apart hio hf' hk hk' =>
      rw [hio] at hc
      exact absurd (h (hf' ▸ hf) hc) hk
  | leave hf' hk hio =>
      rcases hio.mp hc with hc | hk'
      · exact absurd (h (hf' ▸ hf) hc) hk
      · exact hk'
  | ends hk' hio => exact hk'
  | failed hf' =>
      rw [hf] at hf'
      cases hf'
  | shut hshut hf' hio =>
      rcases hshut with hs | hs
      · rw [hf'] at hf
        rw [hs] at hf
        cases hf
      · exact absurd hs hG

/-- The same of a whole run, by induction on its steps. -/
theorem Closes.steps (ht : k.Table) (h : k.Closes) (hs : Steps G k k') :
    k'.Table ∧ k'.Closes := by
  induction hs with
  | refl => exact ⟨ht, h⟩
  | tail _ hs ih => exact ⟨ih.1.step hs, ih.2.step ih.1 hs⟩

/-- The same of a whole run in which nobody else closes the io. -/
theorem StaysOpen.steps (ht : k.Table) (h : k.StaysOpen) (hG : ¬G.shut) (hs : Steps G k k') :
    k'.Table ∧ k'.StaysOpen := by
  induction hs with
  | refl => exact ⟨ht, h⟩
  | tail _ hs ih => exact ⟨ih.1.step hs, ih.2.step ih.1 hG hs⟩

/-! ## Nothing new -/

/-- On the way no stream was created, and the streams kept their ids. -/
structure Old (k k' : Session) : Prop where
  created : k'.created = k.created
  ids : ∀ o < k.created, (k'.cells o).id = (k.cells o).id

theorem Old.refl (k : Session) : Old k k := ⟨rfl, fun _ _ => rfl⟩

/-- Sessions with the same streams, along a run. -/
theorem Old.trans {m : Session} (h : Old k m) (h' : Old m k') : Old k k' :=
  ⟨h'.created.trans h.created, fun o ho => (h'.ids o (h.created ▸ ho)).trans (h.ids o ho)⟩

theorem Old.cells (hc : k'.created = k.created) (h : k'.cells = k.cells) : Old k k' :=
  ⟨hc, fun o _ => by rw [h]⟩

theorem Old.update {o : Nat} {s : Cell} (hc : k'.created = k.created)
    (h : k'.cells = Function.update k.cells o s) (hs : s.id = (k.cells o).id) : Old k k' := by
  refine ⟨hc, fun p _ => ?_⟩
  rw [h]
  by_cases hp : p = o
  · subst hp
    rw [Function.update_self]
    exact hs
  · rw [Function.update_of_ne hp]

/-- A stream that leaves the map keeps its id. -/
theorem Old.close (k : Session) (o : Nat) (r w : Bool) : Old k (k.close o r w) :=
  .update (o := o) rfl rfl rfl

theorem Old.push (k : Session) (e : Event) : Old k (k.push e) := .cells rfl rfl

/-- So does one that is reset. -/
theorem Old.reset (k : Session) (o : Nat) (r : Reason) : Old k (k.reset o r) :=
  (Old.push k _).trans (.close _ o true true)

theorem Old.topUp (k : Session) : Old k k.topUp := by
  unfold Session.topUp
  split
  · exact .cells rfl rfl
  · exact .refl k

theorem Old.streamTopUp (k : Session) (o : Nat) : Old k (k.streamTopUp o) := by
  unfold Session.streamTopUp
  split
  · exact .update (o := o) rfl rfl rfl
  · exact .refl k

theorem Old.stray (k : Session) (obj : Option Nat) (d : Data) : Old k (k.stray obj d) := by
  refine Old.trans ?_ (.topUp _)
  exact .cells rfl rfl

/-- The streams that a step creates: a server accepts one while it does not drain, a client
opens one before it is told to go away. -/
theorem Step.old {G : Guard} (hs : Step G k k') (hsrv : k.server = true → k.draining = true)
    (hcli : k.server = false → k.goneAway = true) : Old k k' := by
  cases hs with
  | quiet he => exact .cells rfl rfl
  | raise hs hid => exact .cells rfl rfl
  | accept hs hd hid hodd hmax =>
      rw [hsrv hs] at hd
      cases hd
  | openLocal hs hf hg hdr hid hmax hr =>
      rw [hcli hs] at hg
      cases hg
  | close ho hsr => exact .close k _ _ _
  | @remoteReset o id r ho => exact (Old.push k _).trans (.close _ o true true)
  | @recvPayload o ho hi => exact .update (o := o) rfl rfl rfl
  | interim ho hi hid hend => exact .cells rfl rfl
  | @respond o hd ho hi hid =>
      unfold Session.respond
      refine Old.trans ?_ (.push _ _)
      split
      · exact .close k o false true
      · exact .update (o := o) rfl rfl rfl
  | @chunk o d ho hp hid hw hc hm =>
      refine ((Old.push k (.sent (some o) .sendPages (.data d))).trans
        (.close _ o false d.endStream)).trans ?_
      exact .update (o := o) rfl rfl rfl
  | @finish o ho hp => exact (Old.close k o false true).trans (.push _ _)
  | @trailers o hd ho hp hid hend => exact (Old.push k _).trans (.close _ o false true)
  | reset ho => exact .reset k _ _
  | @charge o d ho hid hw hc => exact .update (o := o) rfl rfl rfl
  | stray hid hc => exact .stray k none _
  | @overrun o d ho hid hw hc =>
      exact ((Old.stray k (some o) d).trans (.push _ _)).trans (.reset _ o _)
  | @release o n caps ho hcaps hheld hall =>
      unfold Session.release
      refine Old.trans ?_ (.topUp _)
      refine Old.trans (m := Session.streamTopUp _ o) ?_ (.cells rfl rfl)
      refine Old.trans ?_ (.streamTopUp _ o)
      exact .update (o := o) rfl rfl rfl
  | caps hcaps hheld hall => exact .cells rfl rfl
  | conCredit hn => exact .cells rfl rfl
  | @credit o n id ho hid hn => exact .update (o := o) rfl rfl rfl
  | lateCredit h0 hid => exact .cells rfl rfl
  | @badCredit o n id e ho hid => exact ((Old.push k _).trans (.push _ _)).trans (.reset _ o _)
  | settings hack hw hn =>
      refine ⟨rfl, fun o _ => ?_⟩
      show (if _ then _ else _ : Cell).id = _
      split
      · rfl
      · rfl
  | ackBegin hack hp => exact .cells rfl rfl
  | @ackOne o rest ha hG =>
      unfold Session.ackOne
      split
      · exact .cells rfl rfl
      · split
        · exact .cells rfl rfl
        · refine Old.trans ?_ (.streamTopUp _ o)
          exact .update (o := o) rfl rfl rfl
  | @ackFailed o e l ho hl =>
      unfold Session.ackFailed
      refine Old.trans (Old.trans ?_ (.close _ o true true)) (.push _ _)
      exact .cells rfl rfl
  | fail he =>
      refine ⟨rfl, fun o _ => ?_⟩
      show (if _ then _ else _ : Cell).id = _
      split
      · rfl
      · rfl
  | shut hshut => exact .cells rfl rfl
  | drain =>
      unfold Session.drain
      split
      · exact .cells rfl rfl
      · exact .cells rfl rfl
  | goneAway => exact .cells rfl rfl
  | reserve hs hf hg hd => exact .cells rfl rfl
  | unreserve hs hr =>
      unfold Session.unreserve
      dsimp only
      split
      · exact .cells rfl rfl
      · exact .cells rfl rfl
  | senders hl => exact .cells rfl rfl
  | reorder hl => exact .cells rfl rfl

/-- A session that takes no new streams takes none for the rest of its run. -/
theorem Steps.old {G : Guard} (hs : Steps G k k') (hsrv : k.server = true → k.draining = true)
    (hcli : k.server = false → k.goneAway = true) : Old k k' := by
  induction hs with
  | refl => exact .refl k
  | @tail k1 k2 hs1 hs2 ih =>
      have hg := Steps.grows hs1
      refine ih.trans (hs2.old ?_ ?_)
      · exact fun h => hg.draining (hsrv (hg.server ▸ h))
      · exact fun h => hg.goneAway (hcli (hg.server ▸ h))

end Session

end NtexH2
