/-
  Session/Ledger.lean --- what a step of a session adds to the history.

  A frame that is written for a stream names it, and a frame that the connection
  writes for itself names none but those it does not know.  The windows of the
  connection move by what is added, unless the session fails on a frame.
-/
import NtexH2.Session.Grammar

set_option autoImplicit false

namespace NtexH2

/-! ## Labels -/

/-- A frame that is written for the stream `id`. -/
def Frame.ForStream (id : Nat) : Frame → Prop
  | .headers h => h.streamId = id
  | .data d => d.streamId = id
  | .windowUpdate i _ => i = id
  | .reset i _ => i = id
  | _ => False

/-- A frame that the connection writes for itself. -/
def Frame.ForConnection : Frame → Prop
  | .settings _ | .ping _ _ | .goAway _ _ _ | .reset _ _ => True
  | .windowUpdate i _ => i = 0
  | _ => False

namespace Event

/-- A written frame is for the stream whose code wrote it. -/
def Labelled (k : Session) : Event → Prop
  | .sent (some o) _ f => o < k.created ∧ f.ForStream (k.cells o).id
  | .sent none _ f => f.ForConnection
  | _ => True

/-- The failure of a connection. -/
def failure : Event → Bool
  | .failed _ => true
  | _ => false

/-- An event that no window of the connection depends on. -/
structure Weightless (e : Event) : Prop where
  gotData : e.gotData = 0
  conGrant : e.conGrant = 0
  sentData : e.sentData = 0
  conCredit : e.conCredit = 0

end Event

theorem total_append (f : Event → Nat) (l m : List Event) :
    total f (l ++ m) = total f l + total f m := by
  unfold total
  rw [List.map_append, List.sum_append]

theorem total_eq_zero {f : Event → Nat} {l : List Event} (h : ∀ e ∈ l, f e = 0) :
    total f l = 0 :=
  List.sum_eq_zero fun n hn => by
    obtain ⟨e, hm, rfl⟩ := List.mem_map.mp hn
    exact h e hm

/-- New events that the windows of the connection follow: none of them is a failure, or none is
DATA or credit of the peer. -/
def Followed (evs : List Event) : Prop :=
  (∀ e ∈ evs, e.failure = false) ∨ ∀ e ∈ evs, e.gotData = 0 ∧ e.conCredit = 0

theorem Followed.append {es es' : List Event} (h : Followed (es' ++ es)) :
    Followed es' ∧ Followed es := by
  rcases h with h | h
  · exact ⟨.inl fun e he => h e (List.mem_append_left _ he),
      .inl fun e he => h e (List.mem_append_right _ he)⟩
  · exact ⟨.inr fun e he => h e (List.mem_append_left _ he),
      .inr fun e he => h e (List.mem_append_right _ he)⟩

namespace Session

/-- The windows of the connection move by the new events. -/
structure Moves (k k' : Session) (evs : List Event) : Prop where
  recv : k'.recvWindow + total Event.gotData evs = k.recvWindow + total Event.conGrant evs
  send : k'.sendWindow + total Event.sentData evs = k.sendWindow + total Event.conCredit evs

/-- What a step leaves of a session, and what it adds to the history. -/
structure Passes (k k' : Session) : Prop where
  server : k'.server = k.server
  created : k.created ≤ k'.created
  ids : ∀ o < k.created, (k'.cells o).id = (k.cells o).id
  values : ∀ o ∈ k'.values, o ∈ k.values ∨ k.created ≤ o
  lastId : k.lastId ≤ k'.lastId
  fresh : k.server = true → ∀ o, k.created ≤ o → o < k'.created →
    k.lastId < (k'.cells o).id
  log : ∃ evs, k'.log = evs ++ k.log ∧ (∀ e ∈ evs, e.Labelled k') ∧
    (Followed evs → Moves k k' evs)

theorem labelled_mono {k k' : Session} {e : Event} (h : e.Labelled k)
    (hc : k.created ≤ k'.created) (hids : ∀ o < k.created, (k'.cells o).id = (k.cells o).id) :
    e.Labelled k' := by
  cases e with
  | sent obj w f =>
      cases obj with
      | none => exact h
      | some o =>
          obtain ⟨ho, hf⟩ := h
          refine ⟨Nat.lt_of_lt_of_le ho hc, ?_⟩
          rw [hids o ho]
          exact hf
  | _ => trivial

theorem Moves.trans {k k' k'' : Session} {es es' : List Event} (h : Moves k k' es)
    (h' : Moves k' k'' es') : Moves k k'' (es' ++ es) := by
  obtain ⟨h1, h2⟩ := h
  obtain ⟨h1', h2'⟩ := h'
  constructor
  · rw [total_append, total_append]
    omega
  · rw [total_append, total_append]
    omega

section

variable {k k' k'' : Session}

theorem Passes.trans (p : Passes k k') (q : Passes k' k'') : Passes k k'' where
  server := q.server.trans p.server
  created := Nat.le_trans p.created q.created
  ids := fun o ho => (q.ids o (Nat.lt_of_lt_of_le ho p.created)).trans (p.ids o ho)
  values := by
    intro o ho
    rcases q.values o ho with ho' | hnew
    · exact p.values o ho'
    · exact .inr (Nat.le_trans p.created hnew)
  lastId := Nat.le_trans p.lastId q.lastId
  fresh := by
    intro hs o ho ho'
    by_cases hlt : o < k'.created
    · rw [q.ids o hlt]
      exact p.fresh hs o ho hlt
    · exact Nat.lt_of_le_of_lt p.lastId
        (q.fresh (p.server.trans hs) o (Nat.le_of_not_lt hlt) ho')
  log := by
    obtain ⟨es, hes, hl, hm⟩ := p.log
    obtain ⟨es', hes', hl', hm'⟩ := q.log
    refine ⟨es' ++ es, ?_, ?_, ?_⟩
    · rw [hes', hes, List.append_assoc]
    · intro e he
      rcases List.mem_append.mp he with he | he
      · exact hl' e he
      · exact labelled_mono (hl e he) q.created q.ids
    · exact fun hf => (hm hf.append.2).trans (hm' hf.append.1)

/-- The map and the ids stay, or streams leave, and events are added. -/
theorem Passes.add {l : List Event} (hs : k'.server = k.server) (hc : k'.created = k.created)
    (hid : ∀ o, (k'.cells o).id = (k.cells o).id) (hv : ∀ o ∈ k'.values, o ∈ k.values)
    (hlast : k.lastId ≤ k'.lastId) (hlog : k'.log = l ++ k.log)
    (hl : ∀ e ∈ l, e.Labelled k) (hm : Followed l → Moves k k' l) : Passes k k' where
  server := hs
  created := Nat.le_of_eq hc.symm
  ids := fun o _ => hid o
  values := fun o ho => .inl (hv o ho)
  lastId := hlast
  fresh := by
    intro _ o ho ho'
    rw [hc] at ho'
    exact absurd ho (Nat.not_le_of_lt ho')
  log := ⟨l, hlog, fun e he => labelled_mono (hl e he) (Nat.le_of_eq hc.symm) fun o _ => hid o,
    hm⟩

theorem Moves.none (hr : k'.recvWindow = k.recvWindow) (hs : k'.sendWindow = k.sendWindow) :
    Moves k k' [] := by
  constructor
  · rw [hr]
    rfl
  · rw [hs]
    rfl

theorem Moves.one {e : Event} (he : e.Weightless) (hr : k'.recvWindow = k.recvWindow)
    (hs : k'.sendWindow = k.sendWindow) : Moves k k' [e] := by
  constructor
  · rw [total_cons, total_cons, he.gotData, he.conGrant, hr]
    rfl
  · rw [total_cons, total_cons, he.sentData, he.conCredit, hs]
    rfl

/-- A change of other fields. -/
theorem Passes.other (hs : k'.server = k.server) (hc : k'.created = k.created)
    (hid : ∀ o, (k'.cells o).id = (k.cells o).id) (hv : ∀ o ∈ k'.values, o ∈ k.values)
    (hlast : k'.lastId = k.lastId) (hlog : k'.log = k.log) (hr : k'.recvWindow = k.recvWindow)
    (hsend : k'.sendWindow = k.sendWindow) : Passes k k' :=
  .add (l := []) hs hc hid hv (Nat.le_of_eq hlast.symm) hlog (fun e he => by cases he)
    fun _ => .none hr hsend

theorem Passes.refl (k : Session) : Passes k k :=
  .other rfl rfl (fun _ => rfl) (fun _ h => h) rfl rfl rfl rfl

theorem Passes.push (k : Session) {e : Event} (hl : e.Labelled k) (he : e.Weightless) :
    Passes k (k.push e) := by
  refine .add (l := [e]) rfl rfl (fun _ => rfl) (fun _ h => h) (Nat.le_refl _) rfl ?_
    fun _ => .one he rfl rfl
  intro e' he'
  rw [List.mem_singleton.mp he']
  exact hl

theorem Passes.modify (k : Session) (o : Nat) {f : Cell → Cell} (hid : ∀ s, (f s).id = s.id) :
    Passes k (k.modify o f) := by
  refine .other rfl rfl ?_ (fun _ h => h) rfl rfl rfl rfl
  intro p
  unfold Session.modify
  by_cases hp : p = o
  · subst hp
    simp only [Function.update_self]
    exact hid _
  · simp only [Function.update_of_ne hp]

theorem Passes.close (k : Session) (o : Nat) (r w : Bool) : Passes k (k.close o r w) := by
  have hv : ∀ p ∈ (k.close o r w).values, p ∈ k.values := by
    intro p hp
    obtain ⟨e, he, rfl⟩ := List.mem_map.mp hp
    exact List.mem_map_of_mem (close_streams_sub he)
  by_cases hend : k.Ends o r w
  · refine .add (l := [.close]) rfl rfl (fun p => close_id k o p r w) hv (Nat.le_refl _) ?_
      (fun e he => ?_) fun _ => .one ⟨rfl, rfl, rfl, rfl⟩ rfl rfl
    · simp only [Session.close, hend, if_true]
      rfl
    · rw [List.mem_singleton.mp he]
      trivial
  · refine .other rfl rfl (fun p => close_id k o p r w) hv rfl ?_ rfl rfl
    simp only [Session.close, hend, if_false]

theorem Passes.ioClose (k : Session) : Passes k k.ioClose :=
  (Passes.push k (e := .close) trivial ⟨rfl, rfl, rfl, rfl⟩).trans
    (.other rfl rfl (fun _ => rfl) (fun _ h => h) rfl rfl rfl rfl)

theorem headers_ne_data (h : Headers) (d : Data) : Frame.headers h ≠ .data d :=
  fun heq => Frame.noConfusion heq

/-- A frame that is written for a stream and carries no payload. -/
theorem Passes.sent (k : Session) {o : Nat} (ho : o < k.created) (w : Writer) {f : Frame}
    (hf : f.ForStream (k.cells o).id) (hd : ∀ d, f ≠ .data d) :
    Passes k (k.push (.sent (some o) w f)) := by
  refine .push k ⟨ho, hf⟩ ⟨rfl, rfl, ?_, rfl⟩
  cases f with
  | data d => exact absurd rfl (hd d)
  | _ => rfl

theorem Passes.reset (k : Session) {o : Nat} (ho : o < k.created) (r : Reason) :
    Passes k (k.reset o r) :=
  (Passes.sent k ho .resetSilent (f := .reset (k.cells o).id r) rfl fun _ => nofun).trans
    (.close _ o true true)

theorem Passes.topUp (k : Session) : Passes k k.topUp := by
  unfold Session.topUp
  split
  · next ha =>
      unfold announces at ha
      refine .add (l := [.sent none .connection _]) rfl rfl (fun _ => rfl) (fun _ h => h)
        (Nat.le_refl _) rfl (fun e he => ?_) fun _ => ⟨?_, ?_⟩
      · rw [List.mem_singleton.mp he]
        rfl
      · simp only [total_cons, total_nil, Event.gotData, Event.conGrant]
        omega
      · simp only [total_cons, total_nil, Event.sentData, Event.conCredit]
  · exact .refl k

theorem Passes.streamTopUp (k : Session) {o : Nat} (ho : o < k.created) :
    Passes k (k.streamTopUp o) := by
  unfold Session.streamTopUp
  split
  · generalize hk1 : (k.modify o fun s =>
      { s with recvWindow := k.config.windowSz - s.recvSize }) = k1
    have h1 : Passes k k1 := by
      rw [← hk1]
      exact .modify k o fun _ => rfl
    refine h1.trans (.sent k1 (Nat.lt_of_lt_of_le ho h1.created) .windowUpdate ?_ fun _ => nofun)
    rw [h1.ids o ho]
    rfl
  · exact .refl k

theorem Passes.stray (k : Session) (obj : Option Nat) (d : Data) : Passes k (k.stray obj d) := by
  refine Passes.trans ?_ (.topUp _)
  refine .add (l := [.received obj (.data d)]) rfl rfl (fun _ => rfl) (fun _ h => h)
    (Nat.le_refl _) rfl (fun e he => ?_) fun _ => ⟨?_, ?_⟩
  · rw [List.mem_singleton.mp he]
    trivial
  · simp only [total_cons, total_nil, Event.gotData, Event.conGrant]
    omega
  · simp only [total_cons, total_nil, Event.sentData, Event.conCredit]

end

/-! ## Events and failures -/

theorem quiet_weightless {e : Event} (he : e.Quiet) : e.Weightless :=
  ⟨he.silent.gotData, he.silent.conGrant, he.silent.sentData, he.silent.conCredit⟩

theorem quiet_labelled {k : Session} {e : Event} (he : e.Quiet) : e.Labelled k := by
  cases e with
  | sent obj w f =>
      cases obj with
      | some o => cases f <;> exact False.elim he
      | none => cases f <;> first | exact False.elim he | trivial
  | _ => trivial

/-- The failure of a session with a frame at fault. -/
theorem Moves.fail {k k' : Session} {evs : List Event} {windowSz frameSize : Nat}
    (he : k.FailEvents evs windowSz frameSize) (hr : k'.recvWindow = k.recvWindow)
    (hs : k'.sendWindow = k.sendWindow) (hf : Followed evs) : Moves k k' evs := by
  rcases he.1 with rfl | ⟨err, rfl | ⟨obj, f, rfl, -⟩⟩
  · exact .none hr hs
  · exact .one ⟨rfl, rfl, rfl, rfl⟩ hr hs
  · rcases hf with hf | hf
    · exact absurd (hf _ List.mem_cons_self) Bool.noConfusion
    · obtain ⟨hg, hc⟩ := hf (.received obj f) (List.mem_cons_of_mem _ List.mem_cons_self)
      constructor
      · rw [total_cons, total_cons, total_cons, total_cons, hg, hr]
        rfl
      · rw [total_cons, total_cons, total_cons, total_cons, hc, hs]
        rfl

theorem Passes.insert {k k' : Session} {s : Cell} (hs : k'.server = k.server)
    (hc : k'.created = k.created + 1) (hcells : k'.cells = Function.update k.cells k.created s)
    (hv : k'.streams = (s.id, k.created) :: k.streams) (hlast : k.lastId ≤ k'.lastId)
    (hnew : k.server = true → k.lastId < s.id) {l : List Event} (hlog : k'.log = l ++ k.log)
    (hl : ∀ e ∈ l, e.Labelled k') (hm : Moves k k' l) : Passes k k' where
  server := hs
  created := hc ▸ Nat.le_succ _
  ids := by
    intro o ho
    rw [hcells, Function.update_of_ne (Nat.ne_of_lt ho)]
  values := by
    intro o ho
    unfold Session.values at ho
    rw [hv, List.map_cons] at ho
    rcases List.mem_cons.mp ho with rfl | ho
    · exact .inr (Nat.le_refl _)
    · exact .inl ho
  lastId := hlast
  fresh := by
    intro hserver o ho ho'
    rw [hc] at ho'
    have heq : o = k.created := Nat.le_antisymm (Nat.le_of_lt_succ ho') ho
    rw [hcells, heq, Function.update_self]
    exact hnew hserver
  log := ⟨l, hlog, hl, fun _ => hm⟩

/-! ## One lemma for each action -/

theorem Passes.openLocal {k : Session} (hserver : k.server = false) (h : Headers)
    (reserved : Bool) : Passes k (k.openLocal h reserved) := by
  refine .insert (s := k.openCell h) (l := [_]) rfl rfl rfl rfl (Nat.le_refl _)
    (fun hs => by rw [hserver] at hs; cases hs) rfl (fun e he => ?_)
    (.one ⟨rfl, rfl, rfl, rfl⟩ rfl rfl)
  rw [List.mem_singleton.mp he]
  refine ⟨Nat.lt_succ_self _, ?_⟩
  show h.streamId = ((k.openLocal h reserved).cells k.created).id
  simp only [Session.openLocal, Function.update_self]
  rfl

/-- The head of a response, with the end of the send half or without it. -/
theorem Passes.respond (k : Session) {o : Nat} {h : Headers} (ho : o < k.created)
    (hid : h.streamId = (k.cells o).id) : Passes k (k.respond o h) := by
  unfold Session.respond
  split
  · have h1 := Passes.close k o false true
    exact h1.trans (.sent _ (Nat.lt_of_lt_of_le ho h1.created) .sendResponse (f := .headers h)
      (hid.trans (h1.ids o ho).symm) (headers_ne_data h))
  · have h1 := Passes.modify k o (f := fun s => { s with send := .payload }) fun _ => rfl
    exact h1.trans (.sent _ (Nat.lt_of_lt_of_le ho h1.created) .sendResponse (f := .headers h)
      (hid.trans (h1.ids o ho).symm) (headers_ne_data h))

/-- Payload is charged to the windows of the stream and of the connection. -/
theorem Passes.chunk (k : Session) {o : Nat} {d : Data} (ho : o < k.created)
    (hid : d.streamId = (k.cells o).id) : Passes k (k.chunk o d) := by
  -- the window is charged next to the frame, and the stream after it
  have h1 : Passes k { k.push (.sent (some o) .sendPages (.data d)) with
      sendWindow := k.sendWindow - d.flowLen } := by
    refine .add (l := [.sent (some o) .sendPages (.data d)]) rfl rfl (fun _ => rfl)
      (fun _ h => h) (Nat.le_refl _) rfl (fun e he => ?_) fun _ => ⟨?_, ?_⟩
    · rw [List.mem_singleton.mp he]
      exact ⟨ho, hid⟩
    · simp only [total_cons, total_nil, Event.gotData, Event.conGrant]
      rfl
    · simp only [total_cons, total_nil, Event.sentData, Event.conCredit]
      omega
  exact (h1.trans (.close _ o false d.endStream)).trans
    (.modify _ o (f := fun s => { s with sendWindow := s.sendWindow - d.flowLen })
      fun _ => rfl)

theorem Passes.finish (k : Session) {o : Nat} (ho : o < k.created) : Passes k (k.finish o) := by
  have h1 := Passes.close k o false true
  exact h1.trans (.push _ ⟨Nat.lt_of_lt_of_le ho h1.created, (h1.ids o ho).symm⟩
    ⟨rfl, rfl, rfl, rfl⟩)

/-- Received payload is charged to the window of the connection. -/
theorem Passes.charge (k : Session) (o : Nat) (d : Data) : Passes k (k.charge o d) := by
  refine .add (l := [.received (some o) (.data d)]) rfl rfl ?_ (fun _ h => h)
    (Nat.le_refl _) rfl (fun e he => ?_) fun _ => ⟨?_, ?_⟩
  · intro p
    simp only [Session.charge]
    by_cases hp : p = o
    · subst hp
      rw [Function.update_self]
    · rw [Function.update_of_ne hp]
  · rw [List.mem_singleton.mp he]
    trivial
  · simp only [Session.charge, total_cons, total_nil, Event.gotData, Event.conGrant]
    omega
  · simp only [Session.charge, total_cons, total_nil, Event.sentData, Event.conCredit]

/-- Payload beyond the window of a stream counts for the connection, and resets the stream. -/
theorem Passes.overrun (k : Session) {o : Nat} (ho : o < k.created) (d : Data) :
    Passes k (k.overrun o d) := by
  have h1 := Passes.stray k (some o) d
  have h2 := h1.trans (.push _ (e := .streamFailed o .recvWindowExceeded) trivial
    ⟨rfl, rfl, rfl, rfl⟩)
  exact h2.trans (.reset _ (Nat.lt_of_lt_of_le ho h2.created) _)

/-- Octets are released, and credit is announced for them. -/
theorem Passes.release (k : Session) {o : Nat} (ho : o < k.created) (n : Nat)
    (caps : List Capacity) : Passes k (k.release o n caps) := by
  rw [release_eq]
  have h1 : Passes k (k.released o n caps) := by
    have h0 : Passes k { k with caps := caps, recvSize := k.recvSize - n } :=
      .other rfl rfl (fun _ => rfl) (fun _ h => h) rfl rfl rfl rfl
    exact h0.trans (.modify _ o fun _ => rfl)
  have h2 := h1.trans (.streamTopUp _ (Nat.lt_of_lt_of_le ho h1.created))
  exact h2.trans (.topUp _)

/-- Credit of the connection adds to its window. -/
theorem Passes.conCredit (k : Session) (n : Nat) :
    Passes k { k.push (.received none (.windowUpdate 0 n)) with
      sendWindow := k.sendWindow + n } := by
  refine .add (l := [.received none (.windowUpdate 0 n)]) rfl rfl (fun _ => rfl)
    (fun _ h => h) (Nat.le_refl _) rfl (fun e he => ?_) fun _ => ⟨rfl, ?_⟩
  · rw [List.mem_singleton.mp he]
    trivial
  · simp only [total_cons, total_nil, Event.sentData, Event.conCredit, if_true]
    omega

theorem Passes.credit {k : Session} (ht : k.Table) {o id : Nat} (ho : o ∈ k.values)
    (hid : id = (k.cells o).id) (n : Nat) :
    Passes k ((k.push (.received (some o) (.windowUpdate id n))).modify o fun s =>
      { s with sendWindow := s.sendWindow + n }) := by
  have hne : id ≠ 0 := by
    have := ht.id_odd (ht.bound o ho)
    omega
  exact (Passes.push k (e := .received (some o) (.windowUpdate id n)) trivial
    ⟨rfl, rfl, rfl, if_neg hne⟩).trans (.modify _ o fun _ => rfl)

/-- Credit that a stream cannot take resets it. -/
theorem Passes.badCredit {k : Session} (ht : k.Table) {o id : Nat} (ho : o ∈ k.values)
    (hid : id = (k.cells o).id) (n : Nat) (e : StreamError) :
    Passes k (((k.push (.received (some o) (.windowUpdate id n))).push (.streamFailed o e)).reset o
      e.reason) := by
  have hne : id ≠ 0 := by
    have := ht.id_odd (ht.bound o ho)
    omega
  have h1 := (Passes.push k (e := .received (some o) (.windowUpdate id n)) trivial
    ⟨rfl, rfl, rfl, if_neg hne⟩).trans (.push _ (e := .streamFailed o e) trivial
      ⟨rfl, rfl, rfl, rfl⟩)
  exact h1.trans (.reset _ (Nat.lt_of_lt_of_le (ht.bound o ho) h1.created) _)

/-- The settings of the peer, with their answer. -/
theorem Passes.settings (k : Session) (s : Settings) : Passes k (k.settings s) := by
  have h1 := (Passes.push k (e := .received none (.settings s)) trivial
    ⟨rfl, rfl, rfl, rfl⟩).trans (.push _ (e := .sent none .connection (.settings .newAck))
      trivial ⟨rfl, rfl, rfl, rfl⟩)
  refine h1.trans (.other rfl rfl (fun o => ?_) (fun _ h => h) rfl rfl rfl rfl)
  simp only [Session.settings, Session.push]
  split
  · rfl
  · rfl

/-- The ack moves the window of a stream. -/
theorem Passes.ackOne {k : Session} (ht : k.Table) {o : Nat} {rest : List Nat}
    (ha : k.acking = o :: rest) : Passes k (k.ackOne o rest) := by
  have ho : o < k.created := ht.acking o (ha ▸ List.mem_cons_self)
  have hrest : Passes k { k with acking := rest } :=
    .other rfl rfl (fun _ => rfl) (fun _ h => h) rfl rfl rfl rfl
  unfold Session.ackOne
  split
  · exact hrest
  · split
    · exact .other rfl rfl (fun _ => rfl) (fun _ h => h) rfl rfl rfl rfl
    · have h1 := hrest.trans (.modify _ o (f := fun s =>
        { s with recvWindow := s.recvWindow + k.shift }) fun _ => rfl)
      exact h1.trans (.streamTopUp _ (Nat.lt_of_lt_of_le ho h1.created))

theorem Passes.ackFailed (k : Session) (o : Nat) (e : StreamError) (l : List Nat) :
    Passes k (k.ackFailed o e l) := by
  have h1 : Passes k { k with ackErrors := l } :=
    .other rfl rfl (fun _ => rfl) (fun _ h => h) rfl rfl rfl rfl
  have h2 := h1.trans (.push _ (e := .streamFailed o e) trivial ⟨rfl, rfl, rfl, rfl⟩)
  exact (h2.trans (.close _ o true true)).trans (.push _
    (e := .sent none .connection (.reset (k.cells o).id e.reason)) trivial
    ⟨rfl, rfl, rfl, rfl⟩)

theorem Passes.fail {k : Session} {evs : List Event} {window : Nat → Int}
    {windowSz frameSize : Nat} (he : k.FailEvents evs windowSz frameSize) :
    Passes k (k.fail evs window windowSz frameSize) := by
  refine .add (l := evs) rfl rfl (fun o => ?_) (fun o ho => by cases ho) (Nat.le_refl _) rfl
    (fun e hmem => ?_) fun hf => .fail he rfl rfl hf
  · simp only [Session.fail]
    split
    · rfl
    · rfl
  · rcases he.mem e hmem with ⟨err, rfl⟩ | ⟨obj, f, rfl, -⟩
    · trivial
    · trivial

theorem Passes.drain (k : Session) : Passes k k.drain := by
  unfold Session.drain
  have h1 : Passes k { k with draining := true } :=
    .other rfl rfl (fun _ => rfl) (fun _ h => h) rfl rfl rfl rfl
  split
  · exact h1.trans (.ioClose _)
  · exact h1

theorem Passes.unreserve (k : Session) : Passes k k.unreserve := by
  unfold Session.unreserve
  dsimp only
  split
  · refine Passes.trans ?_ (.ioClose _)
    exact .other rfl rfl (fun _ => rfl) (fun _ h => h) rfl rfl rfl rfl
  · exact .other rfl rfl (fun _ => rfl) (fun _ h => h) rfl rfl rfl rfl

/-! ## Every step -/

/-- Every step passes. -/
theorem Step.passes {G : Guard} {k k' : Session} (ht : k.Table) (hs : Step G k k') :
    Passes k k' := by
  cases hs with
  | quiet he => exact .push k (quiet_labelled he) (quiet_weightless he)
  | raise hserver hid =>
      exact .add (l := []) rfl rfl (fun _ => rfl) (fun _ h => h) (Nat.le_of_lt hid) rfl
        (fun e he => by cases he) fun _ => .none rfl rfl
  | @accept id hserver hd hid hodd hmax =>
      exact .insert (s := k.newCell id) (l := []) rfl rfl rfl rfl (Nat.le_of_lt hid)
        (fun _ => hid) rfl (fun e he => by cases he) (.none rfl rfl)
  | @openLocal h reserved hserver hf hg hd hid hmax hr => exact .openLocal hserver h reserved
  | close ho h => exact .close k _ _ _
  | @remoteReset o id r ho =>
      exact (Passes.push k (e := .received (some o) (.reset id r)) trivial
        ⟨rfl, rfl, rfl, rfl⟩).trans (.close _ o true true)
  | recvPayload ho hi => exact .modify k _ fun _ => rfl
  | @interim o h ho hi hid hend =>
      exact .sent k ho .sendInformational (f := .headers h) hid (headers_ne_data h)
  | @respond o h ho hi hid => exact .respond k ho hid
  | @chunk o d ho hp hid hw hc hm => exact .chunk k ho hid
  | @finish o ho hp => exact .finish k ho
  | @trailers o h ho hp hid hend =>
      exact (Passes.sent k ho .sendTrailers (f := .headers h) hid (headers_ne_data h)).trans
        (.close _ o false true)
  | reset ho => exact .reset k (ht.bound _ ho) _
  | @charge o d ho hid hw hc => exact .charge k o d
  | stray hid hc => exact .stray k none _
  | @overrun o d ho hid hw hc => exact .overrun k (ht.bound o ho) d
  | @release o n caps ho hcaps hheld hall => exact .release k ho n caps
  | caps hcaps hheld hall => exact .other rfl rfl (fun _ => rfl) (fun _ h => h) rfl rfl rfl rfl
  | @conCredit n hn => exact .conCredit k n
  | @credit o n id ho hid hn => exact .credit ht ho hid n
  | @lateCredit id n h0 hid =>
      exact .push k (e := .received none (.windowUpdate id n)) trivial
        ⟨rfl, rfl, rfl, if_neg h0⟩
  | @badCredit o n id e ho hid => exact .badCredit ht ho hid n e
  | @settings s hack hw hn => exact .settings k s
  | @ackBegin s hack hp =>
      exact (Passes.push k (e := .received none (.settings s)) trivial
        ⟨rfl, rfl, rfl, rfl⟩).trans (.other rfl rfl (fun _ => rfl) (fun _ h => h) rfl rfl rfl rfl)
  | @ackOne o rest ha hG => exact .ackOne ht ha
  | @ackFailed o e l ho hl => exact .ackFailed k o e l
  | @fail evs window windowSz frameSize he => exact .fail he
  | shut _ => exact .ioClose k
  | drain => exact .drain k
  | goneAway => exact .other rfl rfl (fun _ => rfl) (fun _ h => h) rfl rfl rfl rfl
  | reserve hs hf hg hd => exact .other rfl rfl (fun _ => rfl) (fun _ h => h) rfl rfl rfl rfl
  | unreserve hs hr => exact .unreserve k
  | senders hl => exact .other rfl rfl (fun _ => rfl) (fun _ h => h) rfl rfl rfl rfl
  | @reorder l hl =>
      refine .other rfl rfl (fun _ => rfl) (fun o ho => ?_) rfl rfl rfl rfl
      exact (hl.map (·.2)).mem_iff.mp ho

end Session

end NtexH2
