/-
  Connection/Finished.lean --- every stream that ends is told.

  When the receive half of a stream is closed, its application has heard the end of the
  message or an error, or the error of a reset still waits for it.  The exceptions are
  streams that a shutdown of the dispatcher ends, streams of a client whose error is taken
  by the handle itself, and on a server the stream whose RST_STREAM is one too many.
-/
import NtexH2.Connection.Matching

set_option autoImplicit false

namespace NtexH2

namespace Connection

variable {P Q : Obj → Prop} {c c' c1 : Connection} {o : Obj} {ms new : List (Obj × Message)}
  {us vs : List Obj}

/-! ## What is left unsaid -/

/-- The streams that a step ends, or takes the error of, without a message. -/
def unsaid (c : Connection) : Step → List Obj
  | .shutdown => c.values
  | .takeLocalClose o => if !(c.objs o).remote && (c.objs o).localClose.isSome then [o] else []
  | _ => []

/-- The runs of a connection, what its application has been told, and the streams of which it
has not been told. -/
inductive Tally (s : Start) : Connection → List (Obj × Message) → List Obj → Prop where
  | new : Tally s s.init [] []
  | step {c : Connection} {ms : List (Obj × Message)} {us : List Obj} (a : Step) :
      Tally s c ms us → c.Enabled a → Tally s (c.step a) (ms ++ c.told a) (us ++ c.unsaid a)

theorem Tally.run {s : Start} (h : Tally s c ms us) : Told s c ms := by
  induction h with
  | new => exact .new
  | step a _ ha ih => exact .step a ih ha

/-- A step without messages. -/
theorem Tally.quiet {s : Start} (h : Tally s c ms us) {a : Step} (ha : c.Enabled a)
    (hm : c.told a = []) (hu : c.unsaid a = []) : Tally s (c.step a) ms us := by
  have hstep := h.step a ha
  rwa [hm, hu, List.append_nil, List.append_nil] at hstep

/-- The application of the stream knows that it has ended, or will find out. -/
def Finished (c : Connection) (o : Obj) (l : List Message) (us : List Obj) : Prop :=
  (∃ m ∈ l, m.endsStream = true ∨ m.Fails) ∨ (c.objs o).localClose ≠ none ∨
    c.server = true ∧ c.Silenced o ∨ o ∈ us

/-- The applications of all streams that have ended know so. -/
def Finishes (c : Connection) (ms : List (Obj × Message)) (us : List Obj) : Prop :=
  ∀ o < c.created, (c.objs o).recv.isClosed = true → c.Finished o (addressed o ms) us

/-- What a step leaves of the history. -/
structure Recalls (c c' : Connection) : Prop where
  server : c'.server = c.server
  log : ∀ e ∈ c.log, e ∈ c'.log

theorem Recalls.silenced (h : Recalls c c') (hs : c.Silenced o) : c'.Silenced o := by
  obtain ⟨hfail, id, r, hreset⟩ := hs
  exact ⟨h.log _ hfail, id, r, h.log _ hreset⟩

theorem Finished.told {l : List Message} {m : Message} (hm : m ∈ l)
    (h : m.endsStream = true ∨ m.Fails) : c.Finished o l us := .inl ⟨m, hm, h⟩

/-- What is known stays known. -/
theorem Finished.keep {l l' : List Message} (h : c.Finished o l us) (hr : Recalls c c')
    (hl : (c.objs o).localClose ≠ none → c'.Finished o (l ++ l') (us ++ vs)) :
    c'.Finished o (l ++ l') (us ++ vs) := by
  rcases h with ⟨m, hm, hend⟩ | hpend | ⟨hserver, hs⟩ | hu
  · exact .told (List.mem_append_left l' hm) hend
  · exact hl hpend
  · exact .inr (.inr (.inl ⟨hr.server.trans hserver, hr.silenced hs⟩))
  · exact .inr (.inr (.inr (List.mem_append_left vs hu)))

/-- A step that ends streams: those that it does not answer for have their error waiting. -/
theorem Finishes.step (h : c.Finishes ms us) (hr : Recalls c c') (hm : Mute P Q c c1)
    (hcr : c'.created = c1.created) (hrest : ∀ p, ¬Q p → c'.objs p = c1.objs p)
    (hQ : ∀ o < c'.created, Q o → (c'.objs o).recv.isClosed = true →
      c'.Finished o (addressed o (ms ++ new)) (us ++ vs)) :
    c'.Finishes (ms ++ new) (us ++ vs) := by
  intro o ho hcl
  by_cases hq : Q o
  · exact hQ o ho hq hcl
  · have hwait : (c1.objs o).localClose ≠ none ∨ Q o →
        c'.Finished o (addressed o (ms ++ new)) (us ++ vs) := by
      intro hl
      refine .inr (.inl ?_)
      rw [hrest o hq]
      exact hl.resolve_right hq
    rw [hrest o hq] at hcl
    by_cases hlt : o < c.created
    · cases hcl0 : (c.objs o).recv.isClosed with
      | false => exact hwait (hm.quit o hlt hcl0 hcl)
      | true =>
          rw [addressed_append] at hwait ⊢
          exact (h o hlt hcl0).keep hr fun hl => hwait (hm.keeps hlt hcl0 (.inl hl))
    · exact hwait ((hm.fresh o (Nat.le_of_not_lt hlt) (hcr ▸ ho)).2.2 hcl)

/-! ## Received frames -/

/-- The receipt of a frame. -/
theorem Finishes.reply {f : Frame} (h : c.Finishes ms us) (hr : Recalls c c')
    (hu : c.server = false → c.Uncounted) (hrep : Reply c f new c') :
    c'.Finishes (ms ++ new) (us ++ []) := by
  have htold : ∀ {o : Obj} {m : Message}, m.endsStream = true ∨ m.Fails →
      c'.Finished o (addressed o (ms ++ [(o, m)])) (us ++ []) := by
    intro o m hm
    rw [addressed_append, addressed_self]
    exact .told (List.mem_append_right _ List.mem_cons_self) hm
  cases hrep with
  | @shut l m _ hm hn hl hmute hc hid =>
      refine h.step hr hmute rfl (fun _ _ => rfl) fun o ho hq _ => ?_
      rw [addressed_append, addressed_map hn]
      rcases hq with hmem | ⟨hcount, hs⟩
      · rw [if_pos hmem]
        exact .told (List.mem_append_right _ List.mem_cons_self) (.inr hm)
      · refine .inr (.inr (.inl ⟨?_, hs⟩))
        rw [hr.server]
        exact Bool.eq_true_of_not_eq_false fun hclient => hcount (hu hclient)
  | @told o m _ ho hid htell hc =>
      obtain ⟨-, hturns, -, c1, hmute, hcreated, hrest, -⟩ := htell
      refine h.step hr hmute hcreated hrest fun p hp hpo hcl => ?_
      subst hpo
      exact htold (.inl (hturns.ends_iff.mpr (HalfState.half_closed.mpr hcl)))
  | @opened c1 m _ h1 hc hrecv hside hid htell hc' hn =>
      obtain ⟨-, hturns, -, c2, hmute, hcreated, hrest, -⟩ := htell
      have hm2 := (h1.mono fun _ hn => False.elim hn).trans hmute
      refine h.step hr hm2 hcreated hrest fun p hp hpo hcl => ?_
      subst hpo
      exact htold (.inl (hturns.ends_iff.mpr (HalfState.half_closed.mpr hcl)))
  | @refused e _ hmute hc hn hs hid =>
      refine h.step hr hmute rfl (fun _ _ => rfl) fun p hp hpo _ => ?_
      subst hpo
      exact htold (.inr trivial)

/-- A client that has counted no stream does not count one. -/
theorem Reply.uncounted {f : Frame} (h : Reply c f new c') (hu : c.Uncounted) : c'.Uncounted := by
  cases h with
  | shut hm hn hl h hc hid => exact h.count hu
  | told ho hid h hc => exact h.count hu
  | opened h1 hc hr hs hid h hc' hn => exact h.count (h1.count hu)
  | refused h hc hn hs hid => exact h.count hu

/-! ## Steps and runs -/

/-- The error of a reset is told to the application of a stream of the peer; a client finds it in
its handle. -/
theorem Finishes.takeLocalClose (h : c.Finishes ms us) (ho : o < c.created)
    (hr : Recalls c (c.takeLocalClose o)) : (c.takeLocalClose o).Finishes
      (ms ++ c.told (.takeLocalClose o)) (us ++ c.unsaid (.takeLocalClose o)) := by
  have hmute : Mute (fun p => (Step.takeLocalClose o).resets = some p) (· = o) c
      (c.takeLocalClose o) := mute_local c (a := .takeLocalClose o) trivial
  have hself : (c.takeLocalClose o).objs o = { c.objs o with localClose := none } := if_pos rfl
  refine h.step hr hmute rfl (fun _ _ => rfl) fun p _ hpo hcl => ?_
  subst hpo
  rw [hself] at hcl
  rw [addressed_append]
  refine (h p ho hcl).keep hr fun hl => ?_
  obtain ⟨e, he⟩ := Option.ne_none_iff_exists'.mp hl
  unfold told unsaid
  dsimp only
  rw [he]
  cases hremote : (c.objs p).remote with
  | true =>
      refine .told (m := .error e) (List.mem_append_right _ ?_) (.inr trivial)
      simp
  | false => exact .inr (.inr (.inr (List.mem_append_right _ List.mem_cons_self)))

/-- One step. -/
theorem Finishes.after_step (h : c.Finishes ms us) (hc : c.Clean)
    (hsz : c.config.windowSz ≤ 2 ^ 30) (herr : c.ackErrors = [])
    (hu : c.server = false → c.Uncounted) {a : Step} (ha : c.Enabled a)
    (hr : Recalls c (c.step a)) :
    (c.step a).Finishes (ms ++ c.told a) (us ++ c.unsaid a) := by
  have ht := hc.good.table
  have hquiet : Local a → (∀ o, ¬c.Owes a o) →
      (c.step a).Finishes (ms ++ c.told a) (us ++ c.unsaid a) := fun hl hno =>
    h.step hr (mute_local c hl) rfl (fun _ _ => rfl) fun o _ hq => absurd hq (hno o)
  cases a with
  | receive f => exact h.reply hr hu (reply_receive hc hsz herr f)
  | stop x =>
      refine h.step hr (mute_local c (a := .stop x) trivial) rfl (fun _ _ => rfl) fun o _ hq _ => ?_
      have hmem : o ∈ c.values := hq
      have hn : c.values.Nodup := ht.nodup
      show Finished _ o (addressed o (ms ++ c.disconnects (c.stopError x))) _
      rw [addressed_append, disconnects, addressed_map hn, if_pos hmem]
      exact .told (List.mem_append_right _ List.mem_cons_self) (.inr trivial)
  | shutdown =>
      refine h.step hr (mute_local c (a := .shutdown) trivial) rfl (fun _ _ => rfl)
        fun o _ hq _ => ?_
      have hmem : o ∈ c.values := hq
      exact .inr (.inr (.inr (List.mem_append_right _ hmem)))
  | ackError =>
      refine hquiet trivial fun o hq => ?_
      obtain ⟨e, he, -⟩ := hq
      rw [herr] at he
      cases he
  | takeLocalClose o => exact h.takeLocalClose ha hr
  | _ => exact hquiet trivial fun _ hq => hq

theorem recalls_step (hc : c.Clean) {a : Step} (ha : c.Enabled a) : Recalls c (c.step a) := by
  have hpass := (runs_step ha (finds_anyRun c a) hc).2.passes hc.good
  refine ⟨hpass.server, fun e he => ?_⟩
  obtain ⟨evs, hlog, -⟩ := hpass.log
  have hlog' : (c.step a).log = evs ++ c.log := hlog
  rw [hlog']
  exact List.mem_append_right evs he

/-- The runs of a connection. -/
theorem Tally.finishes {s : Start} (hsz : s.config.windowSz ≤ 2 ^ 30) (h : Tally s c ms us) :
    c.Finishes ms us ∧ (c.server = false → c.Uncounted) := by
  induction h with
  | new => exact ⟨fun o ho => absurd ho (Nat.not_lt_zero o), fun hs => ⟨hs, rfl⟩⟩
  | @step c ms us a hrun ha ih =>
      obtain ⟨hfin, hu⟩ := ih
      obtain ⟨-, herr, hcfg, -⟩ := hrun.run.heard hsz
      have hc := hrun.run.reachable.clean
      have hr := recalls_step hc ha
      have hsz' : c.config.windowSz ≤ 2 ^ 30 := by
        rw [hcfg]
        exact hsz
      refine ⟨hfin.after_step hc hsz' herr hu ha hr, fun hs => ?_⟩
      have hu' := hu (hr.server.symm.trans hs)
      cases a with
      | receive f => exact (reply_receive hc hsz' herr f).uncounted hu'
      | _ => exact Mute.count (mute_local c (by trivial)) hu'

/-- The application of a stream that has ended has heard its end or an error, or will find the error
of a reset that is not the peer's.  A shutdown of the dispatcher tells no one; a client takes the
error of its reset from the handle; on a server the stream whose RST_STREAM is one too many is
forgotten before the others are told. -/
theorem told_ending {s : Start} (hsz : s.config.windowSz ≤ 2 ^ 30) (h : Tally s c ms us)
    (ho : o < c.created) (hcl : (c.objs o).recv.isClosed = true) :
    (∃ m ∈ addressed o ms, m.endsStream = true ∨ m.Fails) ∨ (c.objs o).localClose ≠ none ∨
      s.server = true ∧ c.Silenced o ∨ o ∈ us := by
  obtain ⟨-, -, -, hserver⟩ := h.run.heard hsz
  have hfin := (h.finishes hsz).1 o ho hcl
  unfold Finished at hfin
  rwa [hserver] at hfin

/-- The streams that some steps leave unsaid. -/
def silence (c : Connection) : List Step → List Obj
  | [] => []
  | a :: as => c.unsaid a ++ (c.step a).silence as

theorem Tally.after {s : Start} (as : List Step) : ∀ {c : Connection} {ms : List (Obj × Message)}
    {us : List Obj}, Tally s c ms us → Allowed anyStep c as →
      Tally s (c.after as) (ms ++ c.talk as) (us ++ c.silence as) := by
  induction as with
  | nil =>
      intro c ms us h _
      unfold talk silence
      rw [List.append_nil, List.append_nil]
      exact h
  | cons a as ih =>
      intro c ms us h ha
      unfold talk silence
      rw [← List.append_assoc, ← List.append_assoc]
      exact ih (.step a h ha.1.1) ha.2

theorem allowed_receives (as : List Step) : ∀ c : Connection,
    (∀ a ∈ as, ∃ f : Frame, a = .receive f ∧ f.Loads) → Allowed anyStep c as := by
  induction as with
  | nil => exact fun _ _ => trivial
  | cons a as ih =>
      intro c h
      obtain ⟨f, rfl, hf⟩ := h a List.mem_cons_self
      exact ⟨⟨hf, trivial⟩, ih _ fun a ha => h a (List.mem_cons_of_mem _ ha)⟩

/-- Ten requests and five resets, the last of which is one too many. -/
def resetBurst : List Step :=
  .receive (.settings noSettings) ::
    ((List.range 10).map (fun i => .receive (.headers ⟨2 * i + 1, somePseudo, [], false⟩)) ++
      (List.range 5).map (fun i => .receive (.reset (2 * i + 1) .cancel)))

theorem resetBurst_allowed (c : Connection) : Allowed anyStep c resetBurst := by
  refine allowed_receives _ c fun a ha => ?_
  rcases List.mem_cons.mp ha with rfl | ha
  · exact ⟨_, rfl, noSettings_loads⟩
  · rcases List.mem_append.mp ha with ha | ha
    · obtain ⟨i, hi, rfl⟩ := List.mem_map.mp ha
      have hlt : i < 10 := List.mem_range.mp hi
      refine ⟨_, rfl, ?_⟩
      show 2 * i + 1 < 2 ^ 31
      omega
    · obtain ⟨i, hi, rfl⟩ := List.mem_map.mp ha
      have hlt : i < 5 := List.mem_range.mp hi
      refine ⟨_, rfl, ?_⟩
      show 2 * i + 1 < 2 ^ 31
      omega

/-- The last reset is not told to its stream; the streams that are left hear of the failure. -/
theorem told_ending_burst :
    ∃ c ms, Tally (serverWith 1000 333 thousand_lt threshold_lt) c ms [] ∧
      addressed 4 ms = [.headers somePseudo [] false] ∧ c.Silenced 4 ∧
      addressed 5 ms = [.headers somePseudo [] false,
        .disconnect (.connection .streamResetsLimit)] := by
  have h := Tally.after resetBurst .new
    (resetBurst_allowed (serverWith 1000 333 thousand_lt threshold_lt).init)
  have hus : [] ++ (serverWith 1000 333 thousand_lt threshold_lt).init.silence resetBurst = [] := by
    decide +kernel
  have hmine : addressed 4 ([] ++
      (serverWith 1000 333 thousand_lt threshold_lt).init.talk resetBurst) =
        [.headers somePseudo [] false] := by
    decide +kernel
  rw [hus] at h
  refine ⟨_, _, h, hmine, ?_, by decide +kernel⟩
  rcases told_ending (by decide) h (o := 4) (by decide +kernel) (by decide +kernel) with
    ⟨m, hm, hend⟩ | hl | ⟨-, hs⟩ | hu
  · rw [hmine] at hm
    rw [List.mem_singleton.mp hm] at hend
    rcases hend with hend | hfail
    · cases hend
    · exact False.elim hfail
  · exact absurd (by decide +kernel) hl
  · exact hs
  · cases hu

end Connection

end NtexH2
