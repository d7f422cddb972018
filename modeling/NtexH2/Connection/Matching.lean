/-
  Connection/Matching.lean --- the frames behind the messages of a stream.

  The content that a stream hears comes from the first HEADERS and DATA frames on its id,
  one frame for each message, and while its receive half is open from all of them; none of
  them is invalid then.
-/
import NtexH2.Connection.Speech

set_option autoImplicit false

namespace NtexH2

/-! ## Frames and messages -/

/-- The HEADERS and DATA frames on an id, invalid HEADERS among them. -/
def contentOn (id : StreamId) (fs : List Frame) : List Frame :=
  fs.filter fun f => f.isContent && f.streamId == some id

theorem contentOn_append (id : StreamId) (fs gs : List Frame) :
    contentOn id (fs ++ gs) = contentOn id fs ++ contentOn id gs := List.filter_append ..

theorem contentOn_single {id : StreamId} {f : Frame} (hf : f.isContent = true)
    (hid : f.streamId = some id) : contentOn id [f] = [f] := by
  simp [contentOn, hf, hid]

theorem contentOn_other {id : StreamId} {f : Frame}
    (h : f.isContent = true → f.streamId ≠ some id) : contentOn id [f] = [] := by
  cases hf : f.isContent with
  | false => simp [contentOn, hf]
  | true => simp [contentOn, h hf]

/-- The messages that tell of no error. -/
def contents (l : List Message) : List Message := l.filter fun m => !m.fails

theorem contents_append (l l' : List Message) : contents (l ++ l') = contents l ++ contents l' :=
  List.filter_append ..

theorem contents_fails {l : List Message} (h : ∀ m ∈ l, m.Fails) : contents l = [] := by
  refine List.filter_eq_nil_iff.mpr fun m hm => ?_
  have hf := Message.fails_iff.mpr (h m hm)
  simp [hf]

theorem contents_content {l : List Message} (h : ∀ m ∈ l, ¬m.Fails) : contents l = l := by
  refine List.filter_eq_self.mpr fun m hm => ?_
  have hf : m.fails ≠ true := fun hf => h m hm (Message.fails_iff.mp hf)
  simp [hf]

theorem addressed_fails {ms : List (Obj × Message)} (h : ∀ e ∈ ms, e.2.Fails) (o : Obj) :
    ∀ m ∈ addressed o ms, m.Fails := by
  intro m hm
  obtain ⟨e, he, rfl⟩ := List.mem_map.mp hm
  exact h e (List.mem_filter.mp he).1

namespace Connection

variable {c c' : Connection} {o : Obj} {ms new : List (Obj × Message)}

/-- The content of a stream comes from the frames on its id. -/
def Matched (c : Connection) (o : Obj) (l : List Message) : Prop :=
  ∃ fs rest, contentOn (c.objs o).id (inbox c.log) = fs ++ rest ∧
    List.Forall₂ Frame.Carries fs (contents l) ∧ ((c.objs o).recv.isClosed = false → rest = [])

/-- Nothing has been received on the id of a new stream. -/
def Unheard (c c' : Connection) : Prop :=
  ∀ o, c.created ≤ o → o < c'.created → contentOn (c'.objs o).id (inbox c.log) = []

/-- A stream that is open has not heard its end. -/
theorem Speaks.unfinished {l : List Message} (h : c.Speaks o l)
    (hop : (c.objs o).recv.isClosed = false) : ∀ m ∈ contents l, m.endsStream = false := by
  obtain ⟨content, failure, rfl, hs⟩ := h
  obtain ⟨half, hcontent, hhalf⟩ := hs.content
  have hne : half ≠ .closed := by
    rw [← hhalf.resolve_right (Bool.eq_false_iff.mp hop)]
    intro hcl
    rw [HalfState.half_closed.mp hcl] at hop
    cases hop
  rw [contents_append, contents_fails hs.fails, List.append_nil, contents_content hcontent.all]
  exact hcontent.ends.1 hne

theorem Matched.fresh (h : contentOn (c.objs o).id (inbox c.log) = []) : c.Matched o [] :=
  ⟨[], [], h, .nil, fun _ => rfl⟩

/-- A step that receives nothing. -/
theorem Matched.keep {l l' : List Message} (h : c.Matched o l)
    (hid : (c'.objs o).id = (c.objs o).id)
    (hin : inbox c'.log = inbox c.log) (hf : ∀ m ∈ l', m.Fails)
    (hrecv : (c'.objs o).recv.isClosed = false → (c.objs o).recv.isClosed = false) :
    c'.Matched o (l ++ l') := by
  obtain ⟨fs, rest, hsplit, hcarry, hopen⟩ := h
  refine ⟨fs, rest, ?_, ?_, fun hop => hopen (hrecv hop)⟩
  · rw [hid, hin]
    exact hsplit
  · rw [contents_append, contents_fails hf, List.append_nil]
    exact hcarry

/-- A frame for other streams, or one that comes too late. -/
theorem Matched.passes {l l' : List Message} (h : c.Matched o l) {f : Frame}
    (hid : (c'.objs o).id = (c.objs o).id) (hin : inbox c'.log = inbox c.log ++ [f])
    (hf : ∀ m ∈ l', m.Fails)
    (hrecv : (c'.objs o).recv.isClosed = false → (c.objs o).recv.isClosed = false ∧
      (f.isContent = true → f.streamId ≠ some (c.objs o).id)) : c'.Matched o (l ++ l') := by
  obtain ⟨fs, rest, hsplit, hcarry, hopen⟩ := h
  refine ⟨fs, rest ++ contentOn (c.objs o).id [f], ?_, ?_, fun hop => ?_⟩
  · rw [hid, hin, contentOn_append, hsplit, List.append_assoc]
  · rw [contents_append, contents_fails hf, List.append_nil]
    exact hcarry
  · obtain ⟨hop', hother⟩ := hrecv hop
    rw [hopen hop', contentOn_other hother]
    rfl

/-- A frame that the stream takes. -/
theorem Matched.takes {l : List Message} (h : c.Matched o l) {f : Frame} {m : Message}
    (hid : (c'.objs o).id = (c.objs o).id) (hin : inbox c'.log = inbox c.log ++ [f])
    (hf : f.streamId = some (c.objs o).id) (hcar : f.Carries m) (hm : ¬m.Fails)
    (hop : (c.objs o).recv.isClosed = false) : c'.Matched o (l ++ [m]) := by
  obtain ⟨fs, rest, hsplit, hcarry, hopen⟩ := h
  have hone : contents [m] = [m] := contents_content fun x hx => List.mem_singleton.mp hx ▸ hm
  refine ⟨fs ++ [f], [], ?_, ?_, fun _ => rfl⟩
  · rw [hid, hin, contentOn_append, hsplit, hopen hop, contentOn_single hcar.isContent hf]
    simp
  · rw [contents_append, hone]
    exact List.rel_append hcarry (.cons hcar .nil)

/-! ## All streams -/

/-- The content of all streams comes from the frames on their ids. -/
structure Delivers (c : Connection) (ms : List (Obj × Message)) : Prop where
  scope : ∀ e ∈ ms, e.1 < c.created
  streams : ∀ o < c.created, c.Matched o (addressed o ms)

/-- The messages of a step that receives no frame. -/
theorem told_local (c : Connection) {a : Step} (ha : Local a) : ∀ e ∈ c.told a, e.2.Fails := by
  intro e he
  cases a with
  | receive f => exact False.elim ha
  | stop x =>
      obtain ⟨o, -, rfl⟩ := List.mem_map.mp he
      trivial
  | ackError =>
      have he' : e ∈ publishesError c.ackErrors := he
      cases herr : c.ackErrors with
      | nil =>
          rw [herr] at he'
          exact absurd he' List.not_mem_nil
      | cons x xs =>
          rw [herr] at he'
          rw [List.mem_singleton.mp he']
          trivial
  | takeLocalClose o =>
      unfold told at he
      dsimp only at he
      split at he
      · obtain ⟨x, -, rfl⟩ := List.mem_map.mp he
        trivial
      · exact absurd he List.not_mem_nil
  | _ => exact absurd he List.not_mem_nil

/-- They are for streams that exist. -/
theorem told_scope (ht : c.session.Table) {a : Step} (hen : c.Enabled a) (ha : Local a) :
    ∀ e ∈ c.told a, e.1 < c.created := by
  intro e he
  cases a with
  | receive f => exact False.elim ha
  | stop x =>
      obtain ⟨o, ho, rfl⟩ := List.mem_map.mp he
      exact ht.bound o ho
  | ackError =>
      have he' : e ∈ publishesError c.ackErrors := he
      cases herr : c.ackErrors with
      | nil =>
          rw [herr] at he'
          exact absurd he' List.not_mem_nil
      | cons x xs =>
          rw [herr] at he'
          rw [List.mem_singleton.mp he']
          refine ht.ackErrors x.1 (List.mem_map_of_mem ?_)
          rw [herr]
          exact List.mem_cons_self
  | takeLocalClose o =>
      unfold told at he
      dsimp only at he
      split at he
      · obtain ⟨x, -, rfl⟩ := List.mem_map.mp he
        exact hen
      · exact absurd he List.not_mem_nil
  | _ => exact absurd he List.not_mem_nil

/-- What is left of a receive half is open if it was. -/
theorem Mute.open_before {P Q : Obj → Prop} (h : Mute P Q c c') (ho : o < c.created)
    (hop : (c'.objs o).recv.isClosed = false) : (c.objs o).recv.isClosed = false := by
  rcases h.recv o ho with heq | hcl
  · rw [← heq]
    exact hop
  · rw [hop] at hcl
    cases hcl

/-- A step that receives no frame. -/
theorem Delivers.local_step (h : c.Delivers ms) {P Q : Obj → Prop} (hm : Mute P Q c c')
    (hids : ∀ o < c.created, (c'.objs o).id = (c.objs o).id) (hin : inbox c'.log = inbox c.log)
    (hnew : Unheard c c') (hfails : ∀ e ∈ new, e.2.Fails) (hscope : ∀ e ∈ new, e.1 < c.created) :
    c'.Delivers (ms ++ new) := by
  constructor
  · intro e he
    rcases List.mem_append.mp he with he | he
    · exact Nat.lt_of_lt_of_le (h.scope e he) hm.created
    · exact Nat.lt_of_lt_of_le (hscope e he) hm.created
  · intro o ho
    by_cases hlt : o < c.created
    · rw [addressed_append]
      exact (h.streams o hlt).keep (hids o hlt) hin (addressed_fails hfails o)
        fun hop => hm.open_before hlt hop
    · have hle := Nat.le_of_not_lt hlt
      have hscope' : ∀ e ∈ ms ++ new, e.1 < c.created := fun e he =>
        (List.mem_append.mp he).elim (h.scope e) (hscope e)
      rw [addressed_scope hscope' hle]
      refine .fresh ?_
      rw [hin]
      exact hnew o hle ho

/-- A stream with an open receive half is in the map. -/
theorem open_live (ht : c.session.Table) (ho : o < c.created)
    (hop : (c.objs o).recv.isClosed = false) : o ∈ c.values := by
  refine (ht.live o ho).mpr fun hdone => ?_
  rw [(shut_iff.mpr hdone).1] at hop
  cases hop

/-- One more message, for a stream that exists by then. -/
theorem Delivers.scope_told (h : c.Delivers ms) (hle : c.created ≤ c'.created)
    (ho : o < c'.created) {m : Message} : ∀ e ∈ ms ++ [(o, m)], e.1 < c'.created := by
  intro e he
  rcases List.mem_append.mp he with he | he
  · exact Nat.lt_of_lt_of_le (h.scope e he) hle
  · rw [List.mem_singleton.mp he]
    exact ho

section

variable {f : Frame} {m : Message} (hin : inbox c'.log = inbox c.log ++ [f])
  (hids : ∀ o < c.created, (c'.objs o).id = (c.objs o).id)

include hin hids

/-- A frame for another stream. -/
theorem Delivers.others (h : c.Delivers ms) (ho : o < c.created)
    (hop : (c'.objs o).recv.isClosed = false → (c.objs o).recv.isClosed = false ∧
      (f.isContent = true → f.streamId ≠ some (c.objs o).id)) :
    c'.Matched o (addressed o ms) := by
  have hpass := @Matched.passes _ _ _ _ [] (h.streams o ho) _ (hids o ho) hin
    (fun m hm => absurd hm List.not_mem_nil) hop
  rwa [List.append_nil] at hpass

/-- Streams of the map end, the one that the frame is for among them. -/
theorem Delivers.shut (h : c.Delivers ms) (ht : c.session.Table) {Q : Obj → Prop}
    (hmute : Mute Nobody Q c c') (hc : c'.created = c.created) {os : List Obj} (hm : m.Fails)
    (hl : ∀ o ∈ os, o ∈ c.values ∧ c'.Shut o)
    (hid : f.isContent = true → ∀ o ∈ c.values, f.streamId = some (c.objs o).id → o ∈ os) :
    c'.Delivers (ms ++ os.map fun o => (o, m)) := by
  have hfails : ∀ e ∈ os.map fun o => (o, m), e.2.Fails := by
    intro e he
    obtain ⟨o, -, rfl⟩ := List.mem_map.mp he
    exact hm
  constructor
  · intro e he
    rw [hc]
    rcases List.mem_append.mp he with he | he
    · exact h.scope e he
    · obtain ⟨o, ho, rfl⟩ := List.mem_map.mp he
      exact ht.bound o (hl o ho).1
  · intro o ho
    have hlt : o < c.created := hc ▸ ho
    rw [addressed_append]
    refine (h.streams o hlt).passes (hids o hlt) hin (addressed_fails hfails o) fun hop => ?_
    have hop' := hmute.open_before hlt hop
    refine ⟨hop', fun hmsg hfid => ?_⟩
    have hsh := (hl o (hid hmsg o (open_live ht hlt hop') hfid)).2.1
    rw [hop] at hsh
    cases hsh

/-- A stream takes the frame. -/
theorem Delivers.tells (h : c.Delivers ms) (ht : c.session.Table) (ho : o ∈ c.values)
    (hid : f.streamId = some (c.objs o).id) (htell : Tells c o f m c')
    (hc : c'.created = c.created) : c'.Delivers (ms ++ [(o, m)]) := by
  obtain ⟨hcar, hturns, -, c1, hmute, hcreated, hrest, -⟩ := htell
  have hlt := ht.bound o ho
  have hop : (c.objs o).recv.isClosed = false := by
    refine Bool.eq_false_iff.mpr fun hcl => ?_
    exact hturns.open (HalfState.half_closed.mpr hcl)
  refine ⟨h.scope_told (Nat.le_of_eq hc.symm) (hc ▸ hlt), fun p hp => ?_⟩
  have hlp : p < c.created := hc ▸ hp
  rw [addressed_append]
  by_cases hpo : p = o
  · subst hpo
    rw [addressed_self]
    exact (h.streams p hlp).takes (hids p hlp) hin hid hcar hturns.content hop
  · rw [addressed_other (Ne.symm hpo), List.append_nil]
    refine h.others hin hids hlp fun hop => ?_
    rw [hrest p hpo] at hop
    refine ⟨hmute.open_before hlp hop, fun _ hfid => hpo ?_⟩
    exact ht.id_inj hlp hlt (Option.some.inj (hfid.symm.trans hid))

/-- The frame is for no stream that existed before. -/
theorem Delivers.strangers (h : c.Delivers ms) (ht : c.session.Table)
    (hid : ∀ o ∈ c.values, f.streamId ≠ some (c.objs o).id) {Q : Obj → Prop} {c2 : Connection}
    (hmute : Mute Nobody Q c c2) (hrest : c'.objs o = c2.objs o) (ho : o < c.created) :
    c'.Matched o (addressed o ms) := by
  refine h.others hin hids ho fun hop => ?_
  rw [hrest] at hop
  have hop' := hmute.open_before ho hop
  exact ⟨hop', fun _ hfid => hid o (open_live ht ho hop') hfid⟩

/-- The frame opens a stream, which takes it. -/
theorem Delivers.opens (h : c.Delivers ms) (ht : c.session.Table) {c1 : Connection}
    (h1 : Mute Nobody Nobody c c1) (hc : c1.created = c.created + 1)
    (hid : ∀ o ∈ c.values, f.streamId ≠ some (c.objs o).id) (htell : Tells c1 c.created f m c')
    (hc' : c'.created = c1.created) (hn : f.streamId = some (c'.objs c.created).id)
    (hnew : Unheard c c') : c'.Delivers (ms ++ [(c.created, m)]) := by
  obtain ⟨hcar, hturns, -, c2, hmute, -, hrest, -⟩ := htell
  have hm2 := (h1.mono fun _ hn => False.elim hn).trans hmute
  have hcc : c'.created = c.created + 1 := hc'.trans hc
  refine ⟨h.scope_told (hcc ▸ Nat.le_succ _) (hcc ▸ Nat.lt_succ_self _), fun p hp => ?_⟩
  rw [addressed_append]
  by_cases hpo : p = c.created
  · subst hpo
    have hnil := hnew c.created (Nat.le_refl _) hp
    rw [addressed_self, addressed_scope h.scope (Nat.le_refl _)]
    have hone : contents [m] = [m] :=
      contents_content fun x hx => List.mem_singleton.mp hx ▸ hturns.content
    refine ⟨[f], [], ?_, ?_, fun _ => rfl⟩
    · rw [hin, contentOn_append, hnil, contentOn_single hcar.isContent hn]
      rfl
    · rw [List.nil_append, hone]
      exact .cons hcar .nil
  · have hlp : p < c.created := by
      rw [hcc] at hp
      exact Nat.lt_of_le_of_ne (Nat.le_of_lt_succ hp) hpo
    rw [addressed_other (Ne.symm hpo), List.append_nil]
    exact h.strangers hin hids ht hid hm2 (hrest p hpo) hlp

/-- The frame opens a stream, which ends at once. -/
theorem Delivers.refuses (h : c.Delivers ms) (ht : c.session.Table) {Q : Obj → Prop}
    (hmute : Mute Nobody Q c c') (hc : c'.created = c.created + 1)
    (hid : ∀ o ∈ c.values, f.streamId ≠ some (c.objs o).id) (hs : c'.Shut c.created)
    (hm : m.Fails) (hnew : Unheard c c') : c'.Delivers (ms ++ [(c.created, m)]) := by
  refine ⟨h.scope_told (hc ▸ Nat.le_succ _) (hc ▸ Nat.lt_succ_self _), fun p hp => ?_⟩
  rw [addressed_append]
  by_cases hpo : p = c.created
  · subst hpo
    have hnil := hnew c.created (Nat.le_refl _) hp
    rw [addressed_self, addressed_scope h.scope (Nat.le_refl _)]
    have hone : contents [m] = [] := contents_fails fun x hx => List.mem_singleton.mp hx ▸ hm
    refine ⟨[], contentOn (c'.objs c.created).id [f], ?_, ?_, fun hop => ?_⟩
    · rw [hin, contentOn_append, hnil]
    · rw [List.nil_append, hone]
      exact .nil
    · rw [hs.1] at hop
      cases hop
  · have hlp : p < c.created := by
      rw [hc] at hp
      exact Nat.lt_of_le_of_ne (Nat.le_of_lt_succ hp) hpo
    rw [addressed_other (Ne.symm hpo), List.append_nil]
    exact h.strangers hin hids ht hid hmute rfl hlp

/-- The receipt of a frame. -/
theorem Delivers.receive (h : c.Delivers ms) (ht : c.session.Table) (hnew : Unheard c c')
    (hr : Reply c f new c') : c'.Delivers (ms ++ new) := by
  cases hr with
  | shut hm hn hl hmute hc hid => exact h.shut hin hids ht hmute hc hm hl hid
  | told ho hid htell hc => exact h.tells hin hids ht ho hid htell hc
  | opened h1 hc hr hs hid htell hc' hn => exact h.opens hin hids ht h1 hc hid htell hc' hn hnew
  | refused hmute hc hn hs hid => exact h.refuses hin hids ht hmute hc hid hs trivial hnew

end

end Connection

end NtexH2
