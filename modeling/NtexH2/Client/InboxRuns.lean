/-
  Client/InboxRuns.lean --- the messages that the handles of a client return.

  One invariant carries the runs: what a handle has returned, what waits in the storage and
  what a task will publish are together all messages of the stream, in their order.
-/
import NtexH2.Client.Inbox

set_option autoImplicit false

namespace NtexH2

open Connection (Start Tally)

namespace ClientRef

variable {k k' : ClientRef} {o : Obj} {i : Inflight} {ms gs new : List (Obj × Message)}
  {us vs qs rs : List Obj}

/-! ## The invariant -/

/-- A handle and its entry. -/
structure Holds (k : ClientRef) (ms gs : List (Obj × Message)) (us qs : List Obj) (o : Obj)
    (i : Inflight) : Prop where
  fifo : addressed o gs ++ i.queue ++ addressed o k.mail = addressed o ms
  last : ∀ m ∈ addressed o gs ++ i.queue, m.isLast = true → i.last = true
  closed : i.last = true → (k.con.objs o).recv.isClosed = true
  taken : o ∈ us → i.last = true ∨ o ∈ qs

/-- All handles. -/
structure Keeps (k : ClientRef) (ms gs : List (Obj × Message)) (us qs : List Obj) : Prop where
  live : ∀ o ∈ k.handles, o < k.con.created
  entry : ∀ o ∈ k.handles, ∃ i, k.storage (k.con.objs o).id = some i ∧ k.Holds ms gs us qs o i
  mail : ∀ e ∈ k.mail, e.2.isDisconnect = true ∧ e.1 < k.con.created
  returned : ∀ e ∈ gs, e.1 < k.con.created
  unsaid : ∀ p ∈ us, p < k.con.created

/-- A step of the connection opens no streams but new ones, and closes what it closes for good. -/
structure Goes (c c' : Connection) : Prop where
  created : c.created ≤ c'.created
  ids : ∀ o < c.created, (c'.objs o).id = (c.objs o).id
  closed : ∀ o < c.created, (c.objs o).recv.isClosed = true → (c'.objs o).recv.isClosed = true

theorem goes_step {c : Connection} (hc : c.Clean) {a : Connection.Step} (ha : c.Enabled a) :
    Goes c (c.step a) := by
  have hsteps := (Connection.runs_step ha (Connection.finds_anyRun c a) hc).2
  have hpass := hsteps.passes hc.good
  refine ⟨hpass.created, hpass.ids, fun o ho hcl => ?_⟩
  exact HalfState.half_closed.mp
    (hsteps.ages.recv_closed ho (HalfState.half_closed.mpr hcl))

theorem entry_ne {c : Connection} (ht : c.session.Table) {o p : Obj} (ho : o < c.created)
    (hp : p < c.created) (hne : p ≠ o) : (c.objs p).id ≠ (c.objs o).id :=
  fun heq => hne (ht.id_inj hp ho heq)

/-! ## Steps of the connection -/

/-- The messages of one stream. -/
theorem Holds.step {c' : Connection} (h : k.Holds ms gs us qs o i) (ho : o < k.con.created)
    (hgo : Goes k.con c') (hheard : c'.Speaks o (addressed o (ms ++ new)))
    (hmail : ∀ e ∈ k.mail, e.2.isDisconnect = true) (hvs : ∀ p ∈ vs, p ∈ rs) {i' : Inflight}
    (hp : Pushed i i' (direct o new)) (hcon : k'.con = c') (hmail' : k'.mail = k.mail ++ late new) :
    k'.Holds (ms ++ new) gs (us ++ vs) (qs ++ rs) o i' := by
  have hord := hheard.ordered
  rw [addressed_append] at hord
  have hsplit : i.queue ++ direct o new ++ (addressed o k.mail ++ addressed o (late new)) =
      i.queue ++ addressed o k.mail ++ addressed o new := by
    rw [addressed_late]
    unfold direct
    by_cases hnil : addressed o k.mail = []
    · have hrest : Ordered (addressed o new) := fun a b hab ⟨m, hm, hf⟩ =>
        hord (addressed o ms ++ a) b (by rw [hab, List.append_assoc])
          ⟨m, List.mem_append_right _ hm, hf⟩
      rw [hnil, List.nil_append, List.append_assoc, hrest.split, List.append_nil]
    · -- a Disconnect is on its way, and nothing comes after it
      obtain ⟨m, hm⟩ := List.exists_mem_of_ne_nil _ hnil
      have hnew : addressed o new = [] := by
        refine hord (addressed o ms) _ rfl ⟨m, ?_, ?_⟩
        · rw [← h.fifo]
          exact List.mem_append_right _ hm
        · obtain ⟨e, he, rfl⟩ := List.mem_map.mp hm
          exact Message.isDisconnect_fails (hmail e (List.mem_filter.mp he).1)
      rw [hnew]
      simp
  have hlast : ∀ m ∈ direct o new, m.isLast = true → (c'.objs o).recv.isClosed = true := by
    intro m hm hl
    refine hheard.closed ?_ hl
    rw [addressed_append]
    exact List.mem_append_right _ (List.mem_filter.mp hm).1
  refine ⟨?_, ?_, ?_, ?_⟩
  · rw [hp.queue, hmail', addressed_append, addressed_append, ← h.fifo, List.append_assoc, hsplit]
    simp
  · intro m hm hl
    rw [hp.queue, ← List.append_assoc] at hm
    rcases List.mem_append.mp hm with hm | hm
    · exact hp.last.mpr (.inl (h.last m hm hl))
    · exact hp.last.mpr (.inr ⟨m, hm, hl⟩)
  · intro hl
    rw [hcon]
    rcases hp.last.mp hl with hl | ⟨m, hm, hl⟩
    · exact hgo.closed o ho (h.closed hl)
    · exact hlast m hm hl
  · intro hu
    rcases List.mem_append.mp hu with hu | hv
    · exact (h.taken hu).imp (fun hl => hp.last.mpr (.inl hl)) (List.mem_append_left rs)
    · exact .inr (List.mem_append_right qs (hvs o hv))

theorem Keeps.step {c' : Connection} (h : k.Keeps ms gs us qs) (ht : c'.session.Table)
    (hgo : Goes k.con c') (hheard : c'.Heard (ms ++ new)) (hvs : ∀ p ∈ vs, p ∈ rs)
    (hbound : ∀ p ∈ vs, p < k.con.created) :
    (({ k with con := c' } : ClientRef).hand new).Keeps (ms ++ new) gs (us ++ vs) (qs ++ rs) := by
  obtain ⟨hcon, hhandles, hmail⟩ := hand_con new { k with con := c' }
  have hlive : ∀ o ∈ k.handles, o < c'.created := fun o ho =>
    Nat.lt_of_lt_of_le (h.live o ho) hgo.created
  have hnew : ∀ e ∈ new, e.1 < c'.created := fun e he =>
    hheard.scope e (List.mem_append_right ms he)
  refine ⟨fun o ho => ?_, fun o ho => ?_, fun e he => ?_, fun e he => ?_, fun p hp => ?_⟩
  · rw [hhandles] at ho
    rw [hcon]
    exact hlive o ho
  · rw [hhandles] at ho
    have hlt := h.live o ho
    obtain ⟨i, hi, hh⟩ := h.entry o ho
    rw [← hgo.ids o hlt] at hi
    obtain ⟨i', hi', hp⟩ := hand_entry new (k := { k with con := c' })
      (fun e he heq => ht.id_inj (hnew e he) (hlive o ho) heq) hi
    refine ⟨i', ?_, hh.step hlt hgo (hheard.speaks o (hlive o ho)) (fun e he => (h.mail e he).1)
      hvs hp hcon hmail⟩
    rw [hcon]
    exact hi'
  · rw [hmail] at he
    rw [hcon]
    rcases List.mem_append.mp he with he | he
    · exact ⟨(h.mail e he).1, Nat.lt_of_lt_of_le (h.mail e he).2 hgo.created⟩
    · obtain ⟨he, hd⟩ := List.mem_filter.mp he
      exact ⟨hd, hnew e he⟩
  · rw [hcon]
    exact Nat.lt_of_lt_of_le (h.returned e he) hgo.created
  · rw [hcon]
    rcases List.mem_append.mp hp with hp | hp
    · exact Nat.lt_of_lt_of_le (h.unsaid p hp) hgo.created
    · exact Nat.lt_of_lt_of_le (hbound p hp) hgo.created

/-! ## Handles -/

theorem Holds.move (h : k.Holds ms gs us qs o i) (hmail : k'.mail = k.mail)
    (hcl : (k.con.objs o).recv.isClosed = true → (k'.con.objs o).recv.isClosed = true) :
    k'.Holds ms gs us qs o i :=
  ⟨by rw [hmail]; exact h.fifo, h.last, fun hl => hcl (h.closed hl), h.taken⟩

/-- A stream that was opened gets its handle. -/
theorem Keeps.opens (h : k.Keeps ms gs us qs) (ht : k.con.session.Table) (ho : o < k.con.created)
    (hnew : o ∉ k.handles) (hms : addressed o ms = []) (hgs : addressed o gs = [])
    (hmail : addressed o k.mail = []) (hus : o ∉ us) : (k.inflight o).Keeps ms gs us qs := by
  have hobjs : ∀ p, ((k.con.inflight o).objs p).id = (k.con.objs p).id ∧
      ((k.con.inflight o).objs p).recv = (k.con.objs p).recv := by
    intro p
    unfold Connection.inflight Connection.modify
    dsimp only
    split
    · exact ⟨rfl, rfl⟩
    · exact ⟨rfl, rfl⟩
  have hmove : ∀ {p : Obj} {i : Inflight}, k.Holds ms gs us qs p i →
      (k.inflight o).Holds ms gs us qs p i := fun {p} {i} hp =>
    hp.move rfl fun hcl => (congrArg HalfState.isClosed (hobjs p).2).trans hcl
  refine ⟨fun p hp => ?_, fun p hp => ?_, h.mail, h.returned, h.unsaid⟩
  · rcases List.mem_cons.mp hp with rfl | hp
    · exact ho
    · exact h.live p hp
  · have hstore : (k.inflight o).storage ((k.inflight o).con.objs p).id =
        Function.update k.storage (k.con.objs o).id (some ⟨none, false⟩) (k.con.objs p).id :=
      congrArg _ (hobjs p).1
    by_cases hpo : p = o
    · subst hpo
      refine ⟨⟨none, false⟩, hstore.trans (Function.update_self ..), ?_, ?_, ?_, ?_⟩
      · show addressed p gs ++ [] ++ addressed p k.mail = addressed p ms
        rw [hgs, hmail, hms]
        rfl
      · intro m hm _
        rw [hgs] at hm
        exact absurd hm List.not_mem_nil
      · exact fun hl => absurd hl Bool.false_ne_true
      · exact fun hu => absurd hu hus
    · have hp' := (List.mem_cons.mp hp).resolve_left hpo
      obtain ⟨i, hi, hh⟩ := h.entry p hp'
      refine ⟨i, ?_, hmove hh⟩
      rw [hstore, Function.update_of_ne (entry_ne ht ho (h.live p hp') hpo)]
      exact hi

/-- The entry of one stream changes. -/
theorem Keeps.update {c' : Connection} {gs' : List (Obj × Message)} {us' : List Obj}
    (h : k.Keeps ms gs us qs) (ht : k.con.session.Table) (ho : o ∈ k.handles) (hgo : Goes k.con c')
    (hgs : ∀ p, p ≠ o → addressed p gs' = addressed p gs) (hret : ∀ e ∈ gs', e.1 < k.con.created)
    (hus : ∀ p, p ≠ o → p ∈ us' → p ∈ us) (hunsaid : ∀ p ∈ us', p < k.con.created)
    (hh : ({ k with con := c' } : ClientRef).Holds ms gs' us' qs o i) :
    (({ k with con := c' } : ClientRef).put (k.con.objs o).id i).Keeps ms gs' us' qs := by
  have hlt := h.live o ho
  refine ⟨fun p hp => Nat.lt_of_lt_of_le (h.live p hp) hgo.created, fun p hp => ?_,
    fun e he => ⟨(h.mail e he).1, Nat.lt_of_lt_of_le (h.mail e he).2 hgo.created⟩,
    fun e he => Nat.lt_of_lt_of_le (hret e he) hgo.created,
    fun p hp => Nat.lt_of_lt_of_le (hunsaid p hp) hgo.created⟩
  have hltp : p < k.con.created := h.live p hp
  show ∃ j, Function.update k.storage (k.con.objs o).id (some i) (c'.objs p).id = some j ∧ _
  rw [hgo.ids p hltp]
  by_cases hpo : p = o
  · subst hpo
    exact ⟨i, Function.update_self .., hh.move rfl fun hcl => hcl⟩
  · obtain ⟨j, hj, hp'⟩ := h.entry p hp
    refine ⟨j, ?_, ?_, ?_, ?_, ?_⟩
    · rw [Function.update_of_ne (entry_ne ht hlt hltp hpo)]
      exact hj
    · rw [hgs p hpo]
      exact hp'.fifo
    · rw [hgs p hpo]
      exact hp'.last
    · exact fun hl => hgo.closed p hltp (hp'.closed hl)
    · exact fun hu => hp'.taken (hus p hpo hu)

/-- A handle is dropped. -/
theorem Keeps.drops (h : k.Keeps ms gs us qs) (ht : k.con.session.Table) (ho : o ∈ k.handles)
    (hgo : Goes k.con (k.con.recvStreamDrop o)) : (k.recvDrop o).Keeps ms gs us qs := by
  have hmem : ∀ p ∈ (k.recvDrop o).handles, p ∈ k.handles ∧ p ≠ o := by
    intro p hp
    obtain ⟨hp, hne⟩ := List.mem_filter.mp hp
    exact ⟨hp, by simpa using hne⟩
  refine ⟨fun p hp => Nat.lt_of_lt_of_le (h.live p (hmem p hp).1) hgo.created, fun p hp => ?_,
    fun e he => ⟨(h.mail e he).1, Nat.lt_of_lt_of_le (h.mail e he).2 hgo.created⟩,
    fun e he => Nat.lt_of_lt_of_le (h.returned e he) hgo.created,
    fun p hp => Nat.lt_of_lt_of_le (h.unsaid p hp) hgo.created⟩
  obtain ⟨hp', hpo⟩ := hmem p hp
  have hlt := h.live p hp'
  obtain ⟨i, hi, hh⟩ := h.entry p hp'
  refine ⟨i, ?_, hh.move rfl (hgo.closed p hlt)⟩
  show Function.update k.storage (k.con.objs o).id none
    ((k.con.recvStreamDrop o).objs p).id = some i
  rw [hgo.ids p hlt, Function.update_of_ne (entry_ne ht (h.live o ho) hlt hpo)]
  exact hi

/-! ## Tasks -/

theorem addressed_middle (o : Obj) (l₁ l₂ : List (Obj × Message)) (e : Obj × Message) :
    addressed o (l₁ ++ e :: l₂) = addressed o l₁ ++ (addressed o [e] ++ addressed o l₂) := by
  rw [addressed_append, addressed_cons]

/-- A Disconnect is published: it is the last message of its stream. -/
theorem Holds.delivered {l₁ l₂ : List (Obj × Message)} {m : Message}
    (h : k.Holds ms gs us qs o i) (hmail : k.mail = l₁ ++ (o, m) :: l₂)
    (hdisc : ∀ e ∈ k.mail, e.2.isDisconnect = true)
    (hspeaks : k.con.Speaks o (addressed o ms)) (hcon : k'.con = k.con)
    (hmail' : k'.mail = l₁ ++ l₂) : k'.Holds ms gs us qs o (i.push m) := by
  have hfifo := h.fifo
  have hord := hspeaks.ordered
  have hmd : m.isDisconnect = true :=
    hdisc (o, m) (hmail ▸ List.mem_append_right l₁ List.mem_cons_self)
  rw [hmail, addressed_middle, addressed_self] at hfifo
  rw [← hfifo] at hord
  have hfirst : addressed o l₁ = [] := by
    by_contra hne
    obtain ⟨x, hx⟩ := List.exists_mem_of_ne_nil _ hne
    have hxf : x.Fails := by
      obtain ⟨e, he, rfl⟩ := List.mem_map.mp hx
      refine Message.isDisconnect_fails (hdisc e ?_)
      rw [hmail]
      exact List.mem_append_left _ (List.mem_filter.mp he).1
    have hnil := hord (addressed o gs ++ i.queue ++ addressed o l₁) ([m] ++ addressed o l₂)
      (by simp) ⟨x, List.mem_append_right _ hx, hxf⟩
    cases hnil
  have hrest : addressed o l₂ = [] :=
    hord (addressed o gs ++ i.queue ++ (addressed o l₁ ++ [m])) (addressed o l₂) (by simp)
      ⟨m, by simp, Message.isDisconnect_fails hmd⟩
  have hm : m.isLast = true := Message.isLast_iff.mpr (.inr (Message.isDisconnect_fails hmd))
  refine ⟨?_, fun _ _ _ => ?_, fun _ => ?_, fun hu => ?_⟩
  · rw [hmail', addressed_append, ← hfifo, hfirst, hrest, Inflight.push_queue]
    simp
  · rw [Inflight.push_last, hm, Bool.or_true]
  · rw [hcon]
    refine hspeaks.closed (m := m) ?_ hm
    rw [← hfifo]
    simp
  · rw [Inflight.push_last, hm, Bool.or_true]
    exact .inl rfl

theorem Keeps.delivers (h : k.Keeps ms gs us qs) (ht : k.con.session.Table)
    (hheard : k.con.Heard ms) (j : Nat) : (k.deliver j).Keeps ms gs us qs := by
  unfold deliver
  cases hj : k.mail[j]? with
  | none => exact h
  | some e =>
      obtain ⟨hlt, hget⟩ := List.getElem?_eq_some_iff.mp hj
      have hmail : k.mail = k.mail.take j ++ e :: k.mail.drop (j + 1) := by
        rw [← hget, List.getElem_cons_drop, List.take_append_drop]
      have herase : k.mail.eraseIdx j = k.mail.take j ++ k.mail.drop (j + 1) :=
        List.eraseIdx_eq_take_drop_succ ..
      have hin : e ∈ k.mail := List.mem_of_getElem? hj
      obtain ⟨hdisc, he⟩ := h.mail e hin
      obtain ⟨p, m⟩ := e
      dsimp only
      rw [herase]
      obtain ⟨hcon, hhandles, hmail'⟩ := publish_con
        (k := { k with mail := k.mail.take j ++ k.mail.drop (j + 1) }) (p, m)
      refine ⟨fun o ho => ?_, fun o ho => ?_, fun e he => ?_, fun e he => ?_, fun q hq => ?_⟩
      · rw [hhandles] at ho
        rw [hcon]
        exact h.live o ho
      · rw [hhandles] at ho
        have hlto := h.live o ho
        obtain ⟨i, hi, hh⟩ := h.entry o ho
        rw [hcon]
        by_cases hpo : p = o
        · subst hpo
          exact ⟨i.push m, publish_self hi, hh.delivered hmail (fun e he => (h.mail e he).1)
            (hheard.speaks p he) hcon hmail'⟩
        · have hother := publish_other (o := o) (e := (p, m))
            (k := { k with mail := k.mail.take j ++ k.mail.drop (j + 1) }) (entry_ne ht hlto he hpo)
          refine ⟨i, hother.trans hi, ?_, hh.last, ?_, hh.taken⟩
          · have hfifo := hh.fifo
            rw [hmail, addressed_middle, addressed_other hpo, List.nil_append] at hfifo
            rw [hmail', addressed_append]
            exact hfifo
          · rw [hcon]
            exact hh.closed
      · rw [hmail', ← herase] at he
        rw [hcon]
        exact h.mail e (List.mem_of_mem_eraseIdx he)
      · rw [hcon]
        exact h.returned e he
      · rw [hcon]
        exact h.unsaid q hq

/-! ## Runs -/

theorem openStream_opens {c c' : Connection} {r : Connection.Request}
    (h : c.openStream r = (.ok o, c')) : o = c.created ∧ o < c'.created := by
  rcases c.openStream_cases r with ⟨e, he⟩ | ⟨hd, -, -, hok⟩
  · rw [he] at h
    cases (Prod.mk.inj h).1
  · rw [hok] at h
    obtain ⟨h1, h2⟩ := Prod.mk.inj h
    obtain rfl := Except.ok.inj h1
    refine ⟨rfl, ?_⟩
    rw [← h2]
    have hm : Connection.Mute Connection.Nobody Connection.Nobody _ _ :=
      Connection.mute_sendHeaders (({ c with nextStreamId := c.nextStreamId + 2 } :
        Connection).insertStream c.nextStreamId false) c.created hd
    exact hm.created

theorem sendRequest_opens {c c' : Connection} {r : Connection.Request}
    (h : c.sendRequest r = (.ok o, c')) : o = c.created ∧ o < c'.created := by
  unfold Connection.sendRequest at h
  cases hopen : ({ c with activeLocalStreams := c.activeLocalStreams + 1 } :
      Connection).openStream r with
  | mk x c1 =>
      rw [hopen] at h
      cases x with
      | error e => cases (Prod.mk.inj h).1
      | ok p =>
          obtain ⟨h1, rfl⟩ := Prod.mk.inj h
          obtain rfl := Except.ok.inj h1
          exact openStream_opens
            (c := { c with activeLocalStreams := c.activeLocalStreams + 1 }) hopen

theorem request_opens {c : Connection} {r : Option Connection.Request}
    (h : (c.request r).1 = .ready (.ok (some o))) :
    o = c.created ∧ o < (c.request r).2.created := by
  unfold Connection.request at h ⊢
  cases hck : c.checkErrorWithDisconnect with
  | some e =>
      rw [hck] at h
      cases h
  | none =>
      rw [hck] at h
      dsimp only at h ⊢
      split at h
      · next hcan =>
          rw [if_pos hcan]
          cases r with
          | none => cases h
          | some r =>
              dsimp only at h ⊢
              cases hs : c.sendRequest r with
              | mk x c1 =>
                  rw [hs] at h
                  cases x with
                  | error e => cases h
                  | ok p =>
                      cases h
                      exact sendRequest_opens hs
      · cases h

theorem reservationSend_opens {c : Connection} {r : Connection.Request}
    (h : (c.reservationSend r).1 = .ok o) :
    o = c.created ∧ o < (c.reservationSend r).2.created := by
  have hcr : ∀ (c : Connection) (b : Bool) (x : Anomaly), (c.note b x).created = c.created := by
    intro c b x
    unfold Connection.note
    split
    · rfl
    · rfl
  unfold Connection.reservationSend at h ⊢
  cases hs : c.sendReservedRequest r with
  | mk x c1 =>
      rw [hs] at h
      cases x with
      | error e => cases h
      | ok p =>
          cases h
          show o = c.created ∧ o < c1.created
          unfold Connection.sendReservedRequest at hs
          split at hs
          · cases (Prod.mk.inj hs).1
          · split at hs
            · cases (Prod.mk.inj hs).1
            · split at hs
              · cases (Prod.mk.inj hs).1
              · cases hopen : c.openStream r with
                | mk y c2 =>
                    rw [hopen] at hs
                    cases y with
                    | error e => cases (Prod.mk.inj hs).1
                    | ok q =>
                        obtain ⟨h1, rfl⟩ := Prod.mk.inj hs
                        obtain rfl := Except.ok.inj h1
                        obtain ⟨h1, h2⟩ := openStream_opens hopen
                        refine ⟨h1, Nat.lt_of_lt_of_le h2 (Nat.le_of_eq ?_)⟩
                        exact (hcr _ _ _).symm

/-- A stream that is opened is new, and no message is published then. -/
theorem opened_new {c : Connection} {a : Connection.Step} (h : opened c a = some o) :
    o = c.created ∧ o < (c.step a).created ∧ c.told a = [] ∧ c.unsaid a = [] := by
  cases a with
  | request r =>
      unfold opened at h
      dsimp only at h
      split at h
      · next o' heq =>
          subst h
          obtain ⟨h1, h2⟩ := request_opens heq
          exact ⟨h1, h2, rfl, rfl⟩
      · cases h
  | pollRequest w r =>
      unfold opened at h
      dsimp only at h
      split at h
      · next o' heq =>
          subst h
          have hstep : c.step (.pollRequest w r) = (c.pollRequest w r).2 := rfl
          rw [hstep]
          unfold Connection.pollRequest at heq ⊢
          split at heq
          · obtain ⟨h1, h2⟩ := request_opens heq
            exact ⟨h1, h2, rfl, rfl⟩
          · cases heq
          · cases heq
      · cases h
  | reservationSend r =>
      unfold opened at h
      dsimp only at h
      split at h
      · next o' heq =>
          cases h
          obtain ⟨h1, h2⟩ := reservationSend_opens heq
          exact ⟨h1, h2, rfl, rfl⟩
      · cases h
  | _ => cases h

/-- Nothing is unsaid of a client but at a shutdown, and in a poll. -/
theorem unsaid_quits {c : Connection} {a : Connection.Step} (h : Own a) :
    ∀ p ∈ c.unsaid a, p ∈ quits c a := by
  intro p hp
  cases a with
  | shutdown => exact hp
  | takeLocalClose o => exact False.elim h
  | _ => exact absurd hp List.not_mem_nil

/-- A step of the connection, with the handle of the stream that it opens. -/
theorem Keeps.stepped {s : Start} (hsz : s.config.windowSz ≤ 2 ^ 30) (h : k.Keeps ms gs us qs)
    (htally : Tally s k.con ms us) {a : Connection.Step} (ha : k.con.Enabled a) (hown : Own a) :
    Tally s (k.step a).con (ms ++ k.con.told a) (us ++ k.con.unsaid a) ∧
      (k.step a).Keeps (ms ++ k.con.told a) gs (us ++ k.con.unsaid a) (qs ++ quits k.con a) := by
  have htally' := htally.step a ha
  have hheard := (htally.run.heard hsz).1
  have hheard' := (htally'.run.heard hsz).1
  have hc := htally.run.reachable.clean
  have ht' := htally'.run.reachable.clean.good.table
  have hbound : ∀ p ∈ k.con.unsaid a, p < k.con.created := by
    intro p hp
    cases a with
    | shutdown => exact hc.good.table.bound p hp
    | takeLocalClose o => exact False.elim hown
    | _ => exact absurd hp List.not_mem_nil
  have hkeeps := h.step ht' (goes_step hc ha) hheard' (unsaid_quits hown) hbound
  obtain ⟨hcon, hhandles, hmail⟩ := hand_con (k.con.told a) { k with con := k.con.step a }
  unfold ClientRef.step
  dsimp only
  cases ho : opened k.con a with
  | none =>
      dsimp only
      rw [hcon]
      exact ⟨htally', hkeeps⟩
  | some o =>
      dsimp only
      obtain ⟨rfl, hlt, htold, hunsaid⟩ := opened_new ho
      have hnot : ∀ p < k.con.created, p ≠ k.con.created := fun p hp => Nat.ne_of_lt hp
      refine ⟨?_, hkeeps.opens ?_ ?_ ?_ ?_ ?_ ?_ ?_⟩
      · show Tally s (Connection.inflight _ _) _ _
        rw [hcon]
        exact htally'.quiet (a := .inflight k.con.created) hlt rfl rfl
      · rw [hcon]
        exact ht'
      · rw [hcon]
        exact hlt
      · rw [hhandles]
        exact fun hin => hnot _ (h.live _ hin) rfl
      · rw [htold, List.append_nil]
        exact Connection.addressed_scope hheard.scope (Nat.le_refl _)
      · exact Connection.addressed_scope h.returned (Nat.le_refl _)
      · rw [hmail]
        refine Connection.addressed_scope (n := k.con.created) (fun e he => ?_) (Nat.le_refl _)
        rw [htold, late, List.filter_nil, List.append_nil] at he
        exact (h.mail e he).2
      · rw [hunsaid, List.append_nil]
        exact fun hin => hnot _ (h.unsaid _ hin) rfl

/-- A poll. -/
theorem Keeps.polls {s : Start} (hs : s.server = false) (hsz : s.config.windowSz ≤ 2 ^ 30)
    (h : k.Keeps ms gs us qs) (htally : Tally s k.con ms us) (ho : o ∈ k.handles)
    (ready : List Bool) : ∃ us', Tally s (k.pollRecv o ready).2.con ms us' ∧
      (k.pollRecv o ready).2.Keeps ms
        (gs ++ (k.pollRecv o ready).1.message.toList.map fun m => (o, m)) us' qs := by
  have hc := htally.run.reachable.clean
  have ht := hc.good.table
  have hlt := h.live o ho
  obtain ⟨i, hi, hh⟩ := h.entry o ho
  have hrefl : Goes k.con k.con := ⟨Nat.le_refl _, fun _ _ => rfl, fun _ _ hcl => hcl⟩
  have hp := polled hi ready
  generalize k.pollRecv o ready = r at hp
  -- a poll that returns nothing, of an entry without messages
  have hempty : ∀ {i' : Inflight}, i.queue = [] → i'.queue = [] → i'.last = i.last →
      (k.put (k.con.objs o).id i').Keeps ms (gs ++ []) us qs := by
    intro i' hq hq' hl
    rw [List.append_nil]
    refine h.update ht ho hrefl (fun _ _ => rfl) h.returned (fun _ _ hin => hin) h.unsaid ?_
    refine ⟨?_, ?_, ?_, ?_⟩
    · rw [hq', ← hq]
      exact hh.fifo
    · rw [hq', ← hq, hl]
      exact hh.last
    · rw [hl]
      exact hh.closed
    · rw [hl]
      exact hh.taken
  cases hp with
  | @message m i' hq hl =>
      have hgs : ∀ p, addressed p (gs ++ [(o, m)]) = addressed p gs ++ addressed p [(o, m)] :=
        fun p => addressed_append p gs _
      refine ⟨us, htally, h.update ht ho hrefl (fun p hpo => ?_) (fun e he => ?_)
        (fun _ _ hin => hin) h.unsaid ?_⟩
      · exact (hgs p).trans (by rw [addressed_other (Ne.symm hpo), List.append_nil])
      · rcases List.mem_append.mp he with he | he
        · exact h.returned e he
        · rw [List.mem_singleton.mp he]
          exact hlt
      · have hall : addressed o (gs ++ [(o, m)]) ++ i'.queue = addressed o gs ++ i.queue := by
          rw [hgs, addressed_self, hq, List.append_assoc]
          rfl
        refine ⟨?_, ?_, ?_, ?_⟩
        · show addressed o (gs ++ [(o, m)]) ++ i'.queue ++ addressed o k.mail = addressed o ms
          rw [hall]
          exact hh.fifo
        · show ∀ x ∈ addressed o (gs ++ [(o, m)]) ++ i'.queue, _
          rw [hall, hl]
          exact hh.last
        · rw [hl]
          exact hh.closed
        · rw [hl]
          exact hh.taken
  | ended hq hq' hl hl' => exact ⟨us, htally, hempty hq hq' (hl'.trans hl.symm)⟩
  | waits hq hq' hl hl' hw => exact ⟨us, htally, hempty hq hq' (hl'.trans hl.symm)⟩
  | @reset i' hq hq' hl' hcl =>
      have hen : k.con.Enabled (.takeLocalClose o) := hlt
      have hgo := goes_step hc hen
      have htold : k.con.told (.takeLocalClose o) = [] := by
        have hremote : (k.con.objs o).remote = false := by
          have hserver := (htally.run.heard hsz).2.2.2
          exact ((ht.remote o hlt).trans hserver).trans hs
        unfold Connection.told
        dsimp only
        rw [hremote, if_neg Bool.false_ne_true]
      have htally' := htally.step (.takeLocalClose o) hen
      rw [htold, List.append_nil] at htally'
      refine ⟨_, htally', ?_⟩
      show ClientRef.Keeps _ ms (gs ++ []) _ qs
      rw [List.append_nil]
      have honly : ∀ p ∈ k.con.unsaid (.takeLocalClose o), p = o := by
        intro p hp
        unfold Connection.unsaid at hp
        dsimp only at hp
        split at hp
        · exact List.mem_singleton.mp hp
        · exact absurd hp List.not_mem_nil
      refine h.update ht ho hgo (fun _ _ => rfl) h.returned (fun p hpo hin => ?_)
        (fun p hin => ?_) ?_
      · exact (List.mem_append.mp hin).resolve_right fun hin => hpo (honly p hin)
      · rcases List.mem_append.mp hin with hin | hin
        · exact h.unsaid p hin
        · rw [honly p hin]
          exact hlt
      · refine ⟨?_, fun _ _ _ => hl', fun _ => hgo.closed o hlt hcl, fun _ => .inl hl'⟩
        rw [hq', ← hq]
        exact hh.fifo

/-- The runs of a client. -/
theorem Runs.keeps {s : Start} (hs : s.server = false) (hsz : s.config.windowSz ≤ 2 ^ 30)
    (h : Runs s k ms gs qs) : ∃ us, Tally s k.con ms us ∧ k.Keeps ms gs us qs := by
  induction h with
  | new =>
      refine ⟨[], .new, ?_, ?_, ?_, ?_, ?_⟩
      all_goals exact fun x hx => absurd hx List.not_mem_nil
  | step a _ ha hown ih =>
      obtain ⟨us, htally, hkeeps⟩ := ih
      exact ⟨_, hkeeps.stepped hsz htally ha hown⟩
  | @deliver k ms gs qs j _ ih =>
      obtain ⟨us, htally, hkeeps⟩ := ih
      have ht := htally.run.reachable.clean.good.table
      refine ⟨us, ?_, hkeeps.delivers ht (htally.run.heard hsz).1 j⟩
      have hcon : (k.deliver j).con = k.con := by
        unfold ClientRef.deliver
        cases k.mail[j]? with
        | none => rfl
        | some e => exact (publish_con e).1
      rw [hcon]
      exact htally
  | poll o ready _ ho ih =>
      obtain ⟨us, htally, hkeeps⟩ := ih
      exact hkeeps.polls hs hsz htally ho ready
  | drop o _ ho ih =>
      obtain ⟨us, htally, hkeeps⟩ := ih
      have hc := htally.run.reachable.clean
      have hen : Connection.Enabled _ (.recvStreamDrop o) := hkeeps.live o ho
      exact ⟨us, htally.quiet (a := .recvStreamDrop o) hen rfl rfl,
        hkeeps.drops hc.good.table ho (goes_step hc hen)⟩

/-- A poll returns the next message that was published for its stream.  It returns `None` only when
the stream has ended and nothing is left but a Disconnect on its way; and it stays pending
only while the stream is open, or such a Disconnect is on its way, or after a shutdown of the
dispatcher. -/
theorem recv_poll {s : Start} (hs : s.server = false) (hsz : s.config.windowSz ≤ 2 ^ 30)
    (h : Runs s k ms gs qs) (ho : o ∈ k.handles) (ready : List Bool) :
    (∀ m, (k.pollRecv o ready).1 = .ready (some m) →
      ∃ rest, addressed o ms = addressed o gs ++ m :: rest) ∧
    ((k.pollRecv o ready).1 = .ready none →
      addressed o ms = addressed o gs ++ addressed o k.mail ∧
        (k.con.objs o).recv.isClosed = true) ∧
    ((k.pollRecv o ready).1 = .pending →
      addressed o ms = addressed o gs ++ addressed o k.mail ∧
        ((k.con.objs o).recv.isClosed = false ∨ addressed o k.mail ≠ [] ∨ o ∈ qs)) := by
  obtain ⟨us, htally, hkeeps⟩ := h.keeps hs hsz
  obtain ⟨i, hi, hh⟩ := hkeeps.entry o ho
  have hall : i.queue = [] → addressed o ms = addressed o gs ++ addressed o k.mail := by
    intro hq
    rw [← hh.fifo, hq, List.append_nil]
  have hp := polled hi ready
  generalize k.pollRecv o ready = r at hp
  cases hp with
  | @message m i' hq hl =>
      refine ⟨fun m' hm => ?_, fun hno => ?_, fun hno => ?_⟩
      · cases hm
        refine ⟨i'.queue ++ addressed o k.mail, ?_⟩
        rw [← hh.fifo, hq]
        simp
      · cases hno
      · cases hno
  | ended hq hq' hl hl' =>
      refine ⟨fun m' hm => ?_, fun _ => ⟨hall hq, hh.closed hl⟩, fun hno => ?_⟩
      · cases hm
      · cases hno
  | reset hq hq' hl' hcl =>
      refine ⟨fun m' hm => ?_, fun _ => ⟨hall hq, hcl⟩, fun hno => ?_⟩
      · cases hm
      · cases hno
  | waits hq hq' hl hl' hw =>
      refine ⟨fun m' hm => ?_, fun hno => ?_, fun _ => ⟨hall hq, ?_⟩⟩
      · cases hm
      · cases hno
      · cases hcl : (k.con.objs o).recv.isClosed with
        | false => exact .inl rfl
        | true =>
            refine .inr ?_
            rcases Connection.told_ending hsz htally (hkeeps.live o ho) hcl with
              ⟨m, hm, hend⟩ | hne | ⟨hserver, -⟩ | hu
            · left
              intro hnil
              rw [hall hq, hnil, List.append_nil] at hm
              have hlast := hh.last m (List.mem_append_left _ hm) (Message.isLast_iff.mpr hend)
              rw [hl] at hlast
              cases hlast
            · exact absurd (hw hcl) hne
            · rw [hs] at hserver
              cases hserver
            · right
              refine (hh.taken hu).resolve_left fun hlast => ?_
              rw [hl] at hlast
              cases hlast

/-- A response with a status. -/
def okPseudo : PseudoHeaders := ⟨none, none, none, none, none, some 200⟩

/-- A request, and its response of two frames. -/
def answered : ClientRef :=
  ((((ClientRef.new Connection.clientStart).step
    (.receive (.settings Connection.noSettings))).step
    (.request (some Connection.someRequest))).step
    (.receive (.headers ⟨1, okPseudo, [], false⟩))).step (.receive (.data ⟨1, [7], 1, true⟩))

theorem answered_runs : ∃ ms, Runs Connection.clientStart answered ms [] [] := by
  have h0 : Runs Connection.clientStart (.new Connection.clientStart) [] [] [] := .new
  have h1 :=
    h0.step (.receive (.settings Connection.noSettings)) Connection.noSettings_loads trivial
  have h2 := h1.step (.request (some Connection.someRequest)) rfl trivial
  have h3 := h2.step (.receive (.headers ⟨1, okPseudo, [], false⟩))
    (by show 1 < 2 ^ 31; decide) trivial
  have h4 := h3.step (.receive (.data ⟨1, [7], 1, true⟩))
    (by show (1 : Nat) ≠ 0 ∧ 1 < 2 ^ 31 ∧ [7].length ≤ 1 ∧ 1 < 2 ^ 24; decide) trivial
  exact ⟨_, h4⟩

theorem recv_poll_answered : ∃ ms gs,
    Runs Connection.clientStart (answered.pollRecv 0 []).2 ms gs [] ∧
      addressed 0 gs = [.headers okPseudo [] false] ∧
      ∃ rest, addressed 0 ms = addressed 0 gs ++ .eofData [7] :: rest := by
  obtain ⟨ms, h⟩ := answered_runs
  have h1 := h.poll 0 [] (by decide +kernel)
  refine ⟨ms, _, h1, by decide +kernel, ?_⟩
  exact (recv_poll rfl (by decide) h1 (by decide +kernel) []).1 (.eofData [7]) (by decide +kernel)

end ClientRef

end NtexH2
