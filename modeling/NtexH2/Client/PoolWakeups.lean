/-
  Client/PoolWakeups.lean --- waiters of a pool and the slots of its connections
  (src/client/pool.rs, `notify`, `wait_for_capacity`).

  A waiter that is queued is not overlooked if the slots of the pool are no more than the
  notifications on their way: those of woken waiters that have not run, and of the clients
  they hold.  One call of the callback wakes one waiter, so this needs that a call frees
  one slot, and that a woken waiter uses one.
-/
import NtexH2.Client.PoolQueue

set_option autoImplicit false

namespace NtexH2

open Connection (Request RequestPoll Start wakeLoop Announced Outcome)

/-! ## The vacancies of a connection -/

namespace SimpleClient

/-- The connection opens streams, and is not closed. -/
def usable (e : SimpleClient) : Bool := e.con.checkErrorWithDisconnect.isNone && !e.con.ioClosed

/-- The free slots; a connection that is ready but cannot be used counts as one, since the next
waiter that looks for a connection removes it or fails on it. -/
def vacancies (e : SimpleClient) : Nat :=
  if e.usable then
    match e.con.localMaxConcurrentStreams with
    | some max => max - e.con.activeLocalStreams
    | none => 0
  else if e.isReady then 1
  else 0

/-- A connection that can be used has a limit. -/
def Limited (e : SimpleClient) : Prop :=
  e.usable = true → e.con.localMaxConcurrentStreams.isSome = true

variable {e e' : SimpleClient}

theorem isReady_some {max : Nat} (h : e.con.localMaxConcurrentStreams = some max) :
    e.isReady = true ↔ e.con.activeLocalStreams < max := by
  unfold isReady Connection.canCreateNewStream
  rw [h]
  exact decide_eq_true_iff

theorem vacancies_usable {max : Nat} (hu : e.usable = true)
    (h : e.con.localMaxConcurrentStreams = some max) :
    e.vacancies = max - e.con.activeLocalStreams := by
  unfold vacancies
  rw [if_pos hu, h]

theorem vacancies_of_not_usable (hu : ¬e.usable = true) :
    e.vacancies = if e.isReady then 1 else 0 := if_neg hu

theorem vacancies_pos (hl : e.Limited) (h : e.isReady = true) : 0 < e.vacancies := by
  by_cases hu : e.usable = true
  · obtain ⟨max, hm⟩ := Option.isSome_iff_exists.mp (hl hu)
    rw [vacancies_usable hu hm]
    exact Nat.sub_pos_of_lt ((isReady_some hm).mp h)
  · rw [vacancies_of_not_usable hu, if_pos h]
    exact Nat.one_pos

theorem unready (h : e.isReady = false) : e.Limited ∧ e.vacancies = 0 := by
  have hlimit : ∃ max, e.con.localMaxConcurrentStreams = some max := by
    cases hl : e.con.localMaxConcurrentStreams with
    | some max => exact ⟨max, rfl⟩
    | none =>
        unfold isReady Connection.canCreateNewStream at h
        rw [hl] at h
        cases h
  obtain ⟨max, hm⟩ := hlimit
  refine ⟨fun _ => by rw [hm]; rfl, ?_⟩
  by_cases hu : e.usable = true
  · rw [vacancies_usable hu hm]
    have hn := (isReady_some hm).not.mp (by rw [h]; exact Bool.false_ne_true)
    omega
  · rw [vacancies_of_not_usable hu, if_neg (by rw [h]; exact Bool.false_ne_true)]

/-- Slots that get free are announced, so the vacancies grow by no more than the calls. -/
theorem vacancies_announced (h : e.con.Announced e'.con) (hu : e'.usable = true → e.usable = true)
    (hl : e.Limited) : e'.Limited ∧
      e'.vacancies ≤ e.vacancies + (e'.con.capacityCalls - e.con.capacityCalls) := by
  obtain ⟨hlimit, hcalls, hactive⟩ := h
  refine ⟨fun hu' => by rw [hlimit]; exact hl (hu hu'), ?_⟩
  by_cases hu' : e'.usable = true
  · obtain ⟨max, hm⟩ := Option.isSome_iff_exists.mp (hl (hu hu'))
    rw [vacancies_usable hu' (hlimit.trans hm), vacancies_usable (hu hu') hm]
    omega
  · rw [vacancies_of_not_usable hu']
    split
    · next hr =>
        by_cases hsame : e'.con.capacityCalls = e.con.capacityCalls
        · have hready : e.isReady = true := by
            cases hm : e.con.localMaxConcurrentStreams with
            | some max =>
                have := (isReady_some (hlimit.trans hm)).mp hr
                exact (isReady_some hm).mpr (by omega)
            | none =>
                unfold isReady Connection.canCreateNewStream
                rw [hm]
          have := vacancies_pos hl hready
          omega
        · omega
    · exact Nat.zero_le _

/-- A request takes a vacancy. -/
theorem vacancies_taken (hu : e.usable = true) (hr : e.isReady = true) (hl : e.Limited)
    (hlimit : e'.con.localMaxConcurrentStreams = e.con.localMaxConcurrentStreams)
    (hcalls : e.con.capacityCalls ≤ e'.con.capacityCalls)
    (hactive : e.con.activeLocalStreams + 1 + e.con.capacityCalls ≤
      e'.con.activeLocalStreams + e'.con.capacityCalls) : e'.Limited ∧
      e'.vacancies + 1 ≤ e.vacancies + (e'.con.capacityCalls - e.con.capacityCalls) := by
  obtain ⟨max, hm⟩ := Option.isSome_iff_exists.mp (hl hu)
  have hlt := (isReady_some hm).mp hr
  refine ⟨fun _ => by rw [hlimit]; exact hl hu, ?_⟩
  rw [vacancies_usable hu hm]
  by_cases hu' : e'.usable = true
  · rw [vacancies_usable hu' (hlimit.trans hm)]
    omega
  · rw [vacancies_of_not_usable hu']
    split
    · next hr' =>
        have := (isReady_some (hlimit.trans hm)).mp hr'
        omega
    · omega

/-- The connection with another limit. -/
def withLimit (e : SimpleClient) (limit : Option Nat) : SimpleClient :=
  { e with con := { e.con with localMaxConcurrentStreams := limit } }

/-- A connection that cannot be used is never used again. -/
theorem usable_next {s : Start} {a : Connection.Step} (hr : Connection.Reachable s e.con)
    (ha : e.con.Enabled a) (hu : (e.next a).usable = true) : e.usable = true := by
  have hgrow := Session.Steps.grows ((Connection.runs_step ha
    (Connection.finds_anyRun e.con a)) hr.clean).2
  obtain ⟨hh, hio⟩ := Bool.and_eq_true_iff.mp hu
  have hhealthy : (e.con.step a).Healthy := Option.isNone_iff_eq_none.mp hh
  have hopen : e.con.ioClosed = false := by
    cases hc : e.con.ioClosed with
    | false => rfl
    | true =>
        have hc' : (e.con.step a).ioClosed = true := hgrow.ioClosed hc
        rw [show (e.next a).con.ioClosed = (e.con.step a).ioClosed from rfl, hc'] at hio
        cases hio
  refine Bool.and_eq_true_iff.mpr ⟨Option.isNone_iff_eq_none.mpr (hhealthy.of_grows hgrow), ?_⟩
  rw [hopen]
  rfl

/-- The vacancies grow by no more than the calls, unless a frame sets the limit of a connection
that can be used. -/
theorem vacancies_next {s : Start} {a : Connection.Step} (hr : Connection.Reachable s e.con)
    (ha : e.con.Enabled a) (hl : e.Limited) :
    ((e.next a).Limited ∧ (e.next a).vacancies ≤
      e.vacancies + ((e.next a).con.capacityCalls - e.con.capacityCalls)) ∨
    ∃ st, a = .receive (.settings st) ∧ st.ack = false ∧ e.con.SetsLimit st ∧ e.usable = true ∧
      (e.next a).con.capacityCalls = e.con.capacityCalls + 1 ∧
      ((e.withLimit st.maxConcurrentStreams).Limited → (e.next a).Limited) ∧
      (e.next a).vacancies ≤ (e.withLimit st.maxConcurrentStreams).vacancies := by
  have hmono := usable_next hr ha
  have hone : ¬(e.next a).usable = true → e.con.capacityCalls < (e.next a).con.capacityCalls →
      (e.next a).Limited ∧ (e.next a).vacancies ≤
        e.vacancies + ((e.next a).con.capacityCalls - e.con.capacityCalls) := by
    intro hu hcalls
    refine ⟨fun hu' => absurd hu' hu, ?_⟩
    rw [vacancies_of_not_usable hu]
    split
    · omega
    · exact Nat.zero_le _
  cases Connection.outcome_step e.con a with
  | announced h => exact .inl (vacancies_announced h hmono hl)
  | failed h hcalls =>
      refine .inl (hone (fun hu => h ?_) hcalls)
      exact Option.isNone_iff_eq_none.mp (Bool.and_eq_true_iff.mp hu).1
  | limited st ha' hack hset hlimit hactive hcalls =>
      by_cases hu : (e.next a).usable = true
      · refine .inr ⟨st, ha', hack, hset, hmono hu, hcalls, fun h _ => ?_, ?_⟩
        · have hs := h (hmono hu)
          rw [show (e.next a).con.localMaxConcurrentStreams = _ from hlimit]
          exact hs
        · have hu0 : (e.withLimit st.maxConcurrentStreams).usable = true := hmono hu
          cases hm : st.maxConcurrentStreams with
          | some max =>
              rw [vacancies_usable hu (hlimit.trans hm),
                vacancies_usable (e := e.withLimit (some max)) (hm ▸ hu0) rfl]
              show max - (e.con.step a).activeLocalStreams ≤ max - e.con.activeLocalStreams
              rw [hactive]
          | none =>
              unfold vacancies
              rw [if_pos hu, show (e.next a).con.localMaxConcurrentStreams = none from
                hlimit.trans hm]
              exact Nat.zero_le _
      · refine .inl (hone hu ?_)
        show e.con.capacityCalls < (e.con.step a).capacityCalls
        omega

end SimpleClient

/-! ## Requests of woken waiters -/

/-- A request that takes no slot of a live connection. -/
def Connection.wastes (c : Connection) (r : Request) : Bool :=
  c.checkErrorWithDisconnect.isSome || (c.canCreateNewStream && (c.ioClosed ||
    decide ((c.requestPseudo r).headerListSize r.fields > c.remoteMaxHeaderListSize) ||
      (StreamId.nextId c.nextStreamId).isNone))

/-- A slot of a live connection is taken on the way from `c` to `c'`. -/
structure Connection.Takes (c c' : Connection) : Prop where
  ready : c.canCreateNewStream = true
  live : c.ioClosed = false
  healthy : c.Healthy
  announced : Announced { c with activeLocalStreams := c.activeLocalStreams + 1 } c'

/-- A request that is not wasted opens a stream, or waits for the connection. -/
theorem Connection.request_takes {c : Connection} {r : Request} (h : c.wastes r = false) :
    (∃ x, (c.request (some r)).1 = .ready x) ∧ c.Takes (c.request (some r)).2 ∨
      c.canCreateNewStream = false ∧ ∃ w, (c.request (some r)).1 = .waiting w := by
  unfold wastes at h
  obtain ⟨hh, hrest⟩ := Bool.or_eq_false_iff.mp h
  have hh' : c.checkErrorWithDisconnect = none := by
    cases hc : c.checkErrorWithDisconnect with
    | none => rfl
    | some e =>
        rw [hc] at hh
        cases hh
  unfold request
  rw [hh']
  dsimp only
  by_cases hcan : c.canCreateNewStream = true
  · rw [if_pos hcan]
    rw [hcan, Bool.true_and] at hrest
    obtain ⟨hrest, hid⟩ := Bool.or_eq_false_iff.mp hrest
    obtain ⟨hio, hsize⟩ := Bool.or_eq_false_iff.mp hrest
    refine .inl ?_
    have hlist : ({ c with activeLocalStreams := c.activeLocalStreams + 1 } :
        Connection).checkHeaderListSize
          (({ c with activeLocalStreams := c.activeLocalStreams + 1 } :
          Connection).requestPseudo r) r.fields = .ok () := by
      unfold checkHeaderListSize
      exact if_neg (of_decide_eq_false hsize)
    have hopen : ∃ o c', ({ c with activeLocalStreams := c.activeLocalStreams + 1 } :
        Connection).openStream r = (.ok o, c') := by
      unfold openStream
      rw [hlist]
      dsimp only
      cases hn : StreamId.nextId c.nextStreamId with
      | none =>
          rw [hn] at hid
          cases hid
      | some next => exact ⟨_, _, rfl⟩
    obtain ⟨o, c', ho⟩ := hopen
    have hfreed :=
      frees_openStream (c := { c with activeLocalStreams := c.activeLocalStreams + 1 }) r
    have hsend : c.sendRequest r = (.ok o, c') := by
      unfold sendRequest
      rw [ho]
    rw [ho] at hfreed
    rw [hsend]
    exact ⟨⟨_, rfl⟩, hcan, hio, hh', .of_freed hfreed⟩
  · rw [if_neg hcan]
    exact .inr ⟨Bool.eq_false_iff.mpr hcan, _, rfl⟩

/-! ## The vacancies of a pool -/

/-- The connections have limits, and their free slots are no more than `n`. -/
structure Covered (es : List SimpleClient) (n : Nat) : Prop where
  limited : ∀ e ∈ es, e.Limited
  enough : (es.map (·.vacancies)).sum ≤ n

section

variable {es : List SimpleClient} {n m : Nat}

theorem Covered.mono (h : Covered es n) (hle : n ≤ m) : Covered es m :=
  ⟨h.limited, Nat.le_trans h.enough hle⟩

theorem covered_of_unready (h : ∀ e ∈ es, e.isReady = false) (n : Nat) : Covered es n := by
  refine ⟨fun e he => (SimpleClient.unready (h e he)).1, ?_⟩
  have hz : ∀ v ∈ es.map (·.vacancies), v = 0 := by
    intro v hv
    obtain ⟨e, he, rfl⟩ := List.mem_map.mp hv
    exact (SimpleClient.unready (h e he)).2
  rw [List.sum_eq_zero hz]
  exact Nat.zero_le n

theorem Covered.filter (h : Covered es n) (q : SimpleClient → Bool) : Covered (es.filter q) n := by
  refine ⟨fun e he => h.limited e (List.mem_filter.mp he).1, Nat.le_trans ?_ h.enough⟩
  clear h
  induction es with
  | nil => exact Nat.le_refl _
  | cons e es ih =>
      rw [List.filter_cons, List.map_cons, List.sum_cons]
      split
      · rw [List.map_cons, List.sum_cons]
        exact Nat.add_le_add_left ih _
      · exact Nat.le_trans ih (Nat.le_add_left _ _)

/-- One connection changes. -/
theorem sum_set {e : SimpleClient} (e' : SimpleClient) :
    ∀ {es : List SimpleClient} {i : Nat}, es[i]? = some e →
    ((es.set i e').map (·.vacancies)).sum + e.vacancies =
      (es.map (·.vacancies)).sum + e'.vacancies := by
  intro es
  induction es with
  | nil =>
      intro i h
      cases h
  | cons e0 es ih =>
      intro i h
      cases i with
      | zero =>
          cases h
          rw [List.set_cons_zero, List.map_cons, List.sum_cons, List.map_cons, List.sum_cons]
          omega
      | succ i =>
          have := ih (i := i) h
          rw [List.set_cons_succ, List.map_cons, List.sum_cons, List.map_cons, List.sum_cons]
          omega

theorem Covered.set {e e' : SimpleClient} {i : Nat} (h : Covered es n) (he : es[i]? = some e)
    (hl : e'.Limited) (hv : e'.vacancies + n ≤ e.vacancies + m) : Covered (es.set i e') m := by
  refine ⟨fun x hx => ?_, ?_⟩
  · rcases List.mem_or_eq_of_mem_set hx with hx | rfl
    · exact h.limited x hx
    · exact hl
  · have := sum_set e' he
    have := h.enough
    omega

/-- Without notifications on their way no connection is ready. -/
theorem Covered.unready (h : Covered es 0) {e : SimpleClient} (he : e ∈ es) :
    e.isReady = false := by
  cases hr : e.isReady with
  | false => rfl
  | true =>
      have hpos := SimpleClient.vacancies_pos (h.limited e he) hr
      have hle : e.vacancies ≤ (es.map (·.vacancies)).sum :=
        List.single_le_sum (fun _ _ => Nat.zero_le _) _ (List.mem_map_of_mem he)
      have := h.enough
      omega

end

namespace Client

variable {cfg : InnerConfig} {p p' p'' : Client} {n m t : Nat}

/-! ## The invariant -/

/-- The notifications on their way: of woken waiters that have not run, and of the clients that
woken waiters hold. -/
def outstanding (p : Client) : Nat := signalled p.channels + p.held

/-- Nobody is overlooked. -/
def Served (p : Client) : Prop :=
  p.Waits → p.connecting = false → Covered p.connections p.outstanding

/-- One notification can be lost. -/
def Spare (p : Client) : Prop :=
  p.Waits → p.connecting = false → Covered p.connections (p.outstanding - 1)

/-- What a request of a woken waiter, or a later poll of it, does with a slot. -/
def wastesPoll (c : Connection) (w : Option Nat) (r : Request) : Bool :=
  match w with
  | none => c.wastes r
  | some w =>
      match c.signal w with
      | some .sent => c.wastes r
      | some .dropped => true
      | _ => false

/-- What a step needs that calls the callback once, or uses up the notification of a woken waiter.
A new limit frees no more slots than there are notifications for, unless one waiter is all there
is; a woken waiter takes a slot of a live connection with its request, unless its notification
can be lost. -/
def PassesOn (p : Client) : Step → Prop
  | .connection i (.receive (.settings st)) => ∀ e, p.connections[i]? = some e →
      st.ack = false → e.con.SetsLimit st → e.usable = true → 1 < p.waiters.length →
        p.connecting = false →
          Covered (p.connections.set i (e.withLimit st.maxConcurrentStreams)) (p.outstanding + 1)
  | .wake t now rand => ∀ r i e, p.calls t = .send r → (p.getClient now rand).2 = some i →
      (p.getClient now rand).1[i]? = some e → e.con.wastes r = true → p.Spare
  | .sendHeld i w r => ∀ e, p.connections[i]? = some e → wastesPoll e.con w r = true → p.Spare
  | .dropHeld => p.Spare
  | _ => True

/-! ## Connections -/

theorem Served.of_notified (hn : Notified n p p') (ht : p.Tidy)
    (h : p'.Waits → p.Waits → p.connecting = false → Covered p.connections (p.outstanding + n)) :
    p'.Served := by
  intro hw hc
  obtain ⟨hw', hs⟩ := hn.waits ht hw
  have hcov := h hw hw' (hn.connecting ▸ hc)
  have hout : p'.outstanding = p.outstanding + n := by
    unfold outstanding
    rw [hs, hn.held]
    omega
  rw [hn.connections, hout]
  exact hcov

/-- A step of a connection, when the slots it leaves are covered. -/
theorem served_onConnection (ht : p.Tidy) {i : Nat} {e : SimpleClient}
    (he : p.connections[i]? = some e) {a : Connection.Step}
    (h : (p.onConnection i a).Waits → p.Waits → p.connecting = false →
      Covered (p.connections.set i (e.next a))
        (p.outstanding + ((e.next a).con.capacityCalls - e.con.capacityCalls))) :
    (p.onConnection i a).Served := by
  rw [onConnection_eq he] at h ⊢
  exact Served.of_notified (notified_iterate _ _) ⟨ht.line, ht.alive⟩ h

/-- A request that is answered announces what it frees. -/
theorem covered_announced {i : Nat} {e : SimpleClient} {a : Connection.Step} {s : Start}
    {es : List SimpleClient} (hr : Connection.Reachable s e.con) (ha : e.con.Enabled a)
    (he : es[i]? = some e) (hann : e.con.Announced (e.con.step a)) (h : Covered es n) :
    Covered (es.set i (e.next a))
      (n + ((e.next a).con.capacityCalls - e.con.capacityCalls)) := by
  have hann' : e.con.Announced (e.next a).con := hann
  obtain ⟨hl, hv⟩ := SimpleClient.vacancies_announced hann' (SimpleClient.usable_next hr ha)
    (h.limited e (List.mem_of_getElem? he))
  exact h.set he hl (by omega)

/-- A request that takes a slot uses up a notification. -/
theorem covered_taken {i : Nat} {e : SimpleClient} {a : Connection.Step} {es : List SimpleClient}
    (he : es[i]? = some e) (ht : e.con.Takes (e.con.step a)) (h : Covered es (n + 1)) :
    Covered (es.set i (e.next a))
      (n + ((e.next a).con.capacityCalls - e.con.capacityCalls)) := by
  have hu : e.usable = true := by
    refine Bool.and_eq_true_iff.mpr ⟨Option.isNone_iff_eq_none.mpr ht.healthy, ?_⟩
    rw [ht.live]
    rfl
  obtain ⟨hlimit, hcalls, hactive⟩ := ht.announced
  obtain ⟨hl, hv⟩ : (e.next a).Limited ∧ _ := SimpleClient.vacancies_taken hu ht.ready
    (h.limited e (List.mem_of_getElem? he)) hlimit hcalls hactive
  exact h.set he hl (by omega)

theorem served_connection (hs : p.Sound) (h : p.Served) {i : Nat} {a : Connection.Step}
    (ha : p.Enabled (.connection i a)) (hp : p.PassesOn (.connection i a)) :
    (p.onConnection i a).Served := by
  obtain ⟨e, he, ha⟩ := ha
  obtain ⟨s, -, hr⟩ := hs.genuine e (List.mem_of_getElem? he)
  refine served_onConnection hs.tidy he fun hw' hw hc => ?_
  have hcov := h hw hc
  rcases SimpleClient.vacancies_next hr ha (hcov.limited e (List.mem_of_getElem? he)) with
    ⟨hl, hv⟩ | ⟨st, rfl, hack, hset, hu, hcalls, hl, hv⟩
  · exact hcov.set he hl (by omega)
  · rw [hcalls, Nat.add_sub_cancel_left]
    have hmany : 1 < p.waiters.length := by
      rw [onConnection_eq he, hcalls, Nat.add_sub_cancel_left] at hw'
      exact notify_waits (p := p.setNext i e (.receive (.settings st)))
        ⟨hs.tidy.line, hs.tidy.alive⟩ hw'
    have hnew := hp e he hack hset hu hmany hc
    have hlt : i < p.connections.length := (List.getElem?_eq_some_iff.mp he).1
    have hat := List.getElem?_set_self (a := e.withLimit st.maxConcurrentStreams) hlt
    have hlim := hl (hnew.limited _ (List.mem_of_getElem? hat))
    have hdone := hnew.set hat hlim (m := p.outstanding + 1) (by omega)
    rw [List.set_set] at hdone
    exact hdone

/-! ## Calls -/

theorem nthReady_spec : ∀ (es : List SimpleClient) (k : Nat), k < es.countP (·.isReady) →
    ∃ i e, SimpleClient.nthReady es k = some i ∧ es[i]? = some e ∧ e.isReady = true := by
  intro es
  induction es with
  | nil =>
      intro k hk
      cases hk
  | cons e es ih =>
      intro k hk
      unfold SimpleClient.nthReady
      by_cases hr : e.isReady = true
      · rw [if_pos hr]
        cases k with
        | zero => exact ⟨0, e, rfl, rfl, hr⟩
        | succ k =>
            rw [List.countP_cons_of_pos hr] at hk
            obtain ⟨i, e', hi, he', hr'⟩ := ih k (Nat.lt_of_succ_lt_succ hk)
            refine ⟨i + 1, e', ?_, he', hr'⟩
            show (SimpleClient.nthReady es k).map (· + 1) = _
            rw [hi]
            rfl
      · rw [if_neg hr]
        rw [List.countP_cons_of_neg hr] at hk
        obtain ⟨i, e', hi, he', hr'⟩ := ih k hk
        refine ⟨i + 1, e', ?_, he', hr'⟩
        rw [hi]
        rfl

/-- `get_client` picks a connection that is ready; it picks none if there is none, or if the pool
is below its minimum. -/
theorem getClient_picks (p : Client) (now rand : Nat) :
    (∃ i e, (p.getClient now rand).2 = some i ∧ (p.getClient now rand).1[i]? = some e ∧
      e.isReady = true) ∨
    (p.getClient now rand).2 = none ∧
      ((0 < p.config.minconn ∧ (p.getClient now rand).1.length < p.config.minconn) ∨
        ∀ e ∈ (p.getClient now rand).1, e.isReady = false) := by
  unfold getClient
  dsimp only
  generalize p.connections.filter (fun e => !e.isStale p.config now) = es
  split
  · next hmin =>
      refine .inr ⟨rfl, .inl ?_⟩
      simpa using hmin
  · cases hf : es.findIdx? (·.isIdle p.config) with
    | some i =>
        obtain ⟨hlt, hidle, -⟩ := List.findIdx?_eq_some_iff_getElem.mp hf
        exact .inl ⟨i, es[i], rfl, List.getElem?_eq_getElem hlt, (Bool.and_eq_true_iff.mp hidle).1⟩
    | none =>
        dsimp only
        split
        · next hpos =>
            obtain ⟨i, e, hi, he, hr⟩ := nthReady_spec es (rand % es.countP (·.isReady))
              (Nat.mod_lt _ hpos)
            exact .inl ⟨i, e, hi, he, hr⟩
        · next hzero =>
            refine .inr ⟨rfl, .inr fun e he => ?_⟩
            have hcount : es.countP (·.isReady) = 0 := Nat.eq_zero_of_not_pos hzero
            exact Bool.eq_false_iff.mpr (List.countP_eq_zero.mp hcount e he)

theorem covered_cleaned (now rand : Nat) (h : Covered p.connections n) :
    Covered (p.cleaned now rand).connections n := by
  show Covered (p.getClient now rand).1 n
  rw [getClient_connections]
  exact h.filter _

/-- A call waits when the pool establishes a connection, or no connection is ready. -/
theorem served_connect (call : Call)
    (h : (0 < p.config.minconn ∧ p.connections.length < p.config.minconn) ∨
      ∀ e ∈ p.connections, e.isReady = false) :
    (p.connect p.connections.length call).Served := by
  unfold connect
  dsimp only
  split
  · intro _ hc
    cases hc
  · next hno =>
      intro _ hc
      have hc' : p.connecting = false := hc
      rcases h with ⟨hpos, hlt⟩ | h
      · exfalso
        apply hno
        rw [hc']
        simp [hpos, hlt]
      · exact covered_of_unready h _

theorem served_ready (h : p.Served) (woken : Bool) (now rand : Nat) :
    (p.attempt woken now rand .ready).Served := by
  show (if p.isReady then p else p.waitForCapacity .ready).Served
  split
  · exact h
  · next hno =>
      refine fun _ _ => covered_of_unready (fun e he => ?_) _
      have hany : p.connections.any (·.isReady) = false := by
        unfold isReady at hno
        exact (Bool.or_eq_false_iff.mp (Bool.eq_false_iff.mpr hno)).1
      exact Bool.eq_false_iff.mpr (List.any_eq_false.mp hany e he)

theorem served_client (woken : Bool) (now rand : Nat)
    (h : p.Waits → p.connecting = false →
      Covered p.connections (p.outstanding + if woken then 1 else 0)) :
    (p.attempt woken now rand .client).Served := by
  unfold attempt
  dsimp only
  rcases getClient_picks p now rand with ⟨i, e, hi, -, -⟩ | ⟨hnone, hfull⟩
  · rw [hi]
    dsimp only
    cases woken with
    | true =>
        show Client.Served { p.cleaned now rand with held := p.held + 1 }
        intro hw hc
        have hout : signalled p.channels + (p.held + 1) = p.outstanding + 1 :=
          (Nat.add_assoc _ _ _).symm
        show Covered (p.cleaned now rand).connections (signalled p.channels + (p.held + 1))
        rw [hout]
        exact covered_cleaned now rand (h hw hc)
    | false => exact fun hw hc => covered_cleaned now rand (h hw hc)
  · rw [hnone]
    exact served_connect (p := p.cleaned now rand) .client hfull

theorem served_send (hs : p.Sound) (h : p.Served) (now rand : Nat) (r : Request) :
    (p.attempt false now rand (.send r)).Served := by
  have hs' := hs.cleaned now rand
  unfold attempt
  dsimp only
  rcases getClient_picks p now rand with ⟨i, e, hi, he, -⟩ | ⟨hnone, hfull⟩
  · rw [hi]
    have he' : (p.cleaned now rand).connections[i]? = some e := he
    have ha := enabled_request hs'.genuine (List.mem_of_getElem? he') none r
    obtain ⟨s, -, hreach⟩ := hs'.genuine e (List.mem_of_getElem? he')
    exact served_onConnection hs'.tidy he' fun _ hw hc => covered_announced hreach ha he'
      (Connection.announced_request _ _) (covered_cleaned now rand (h hw hc))
  · rw [hnone]
    exact served_connect (p := p.cleaned now rand) (.send r) hfull

/-- The request of a woken waiter: its notification is off the count, so the slots of the pool are
covered by one more. -/
theorem served_send_woken (hs : p.Sound) (now rand : Nat) (r : Request)
    (h : p.Waits → p.connecting = false → Covered p.connections (p.outstanding + 1))
    (hp : ∀ i e, (p.getClient now rand).2 = some i → (p.getClient now rand).1[i]? = some e →
      e.con.wastes r = true → p.Waits → p.connecting = false →
        Covered p.connections p.outstanding) :
    (p.attempt true now rand (.send r)).Served := by
  have hs' := hs.cleaned now rand
  unfold attempt
  dsimp only
  rcases getClient_picks p now rand with ⟨i, e, hi, he, hready⟩ | ⟨hnone, hfull⟩
  · rw [hi]
    have he' : (p.cleaned now rand).connections[i]? = some e := he
    have ha := enabled_request hs'.genuine (List.mem_of_getElem? he') none r
    obtain ⟨s, -, hreach⟩ := hs'.genuine e (List.mem_of_getElem? he')
    refine served_onConnection hs'.tidy he' fun _ hw hc => ?_
    cases hwaste : e.con.wastes r with
    | true =>
        exact covered_announced hreach ha he' (Connection.announced_request _ _)
          (covered_cleaned now rand (hp i e hi he hwaste hw hc))
    | false =>
        rcases Connection.request_takes hwaste with ⟨-, htakes⟩ | ⟨hfull, -⟩
        · exact covered_taken he' htakes (covered_cleaned now rand (h hw hc))
        · exact absurd hready (Bool.eq_false_iff.mp hfull)
  · rw [hnone]
    exact served_connect (p := p.cleaned now rand) (.send r) hfull

/-! ## Steps -/

theorem served_wake (hs : p.Sound) (h : p.Served) {now rand : Nat}
    (ha : p.Enabled (.wake t now rand)) (hp : p.PassesOn (.wake t now rand)) :
    (p.wake t now rand).Served := by
  have hsig : p.signal t = some .sent := ha
  obtain ⟨ht, hwaits, hcount⟩ := leave_sent hs.tidy hsig
  have hout : p.outstanding = (p.leave t).outstanding + 1 := by
    show signalled p.channels + p.held = signalled (p.leave t).channels + p.held + 1
    omega
  have hcov : (p.leave t).Waits → (p.leave t).connecting = false →
      Covered (p.leave t).connections ((p.leave t).outstanding + 1) := by
    intro hw hc
    rw [← hout]
    exact h (hwaits hw) hc
  unfold wake
  rw [hsig]
  dsimp only
  cases hcall : p.calls t with
  | ready =>
      exact served_ready (Served.of_notified (notified_notify _) ht fun _ => hcov) true now rand
  | client => exact served_client true now rand hcov
  | send r =>
      refine served_send_woken (hs.leave hsig) now rand r hcov fun i e hi he hwaste hw hc => ?_
      have hspare := hp r i e hcall hi he hwaste (hwaits hw) hc
      rw [hout] at hspare
      exact hspare

theorem served_dropWaiter (hs : p.Sound) (h : p.Served) (t : Nat) : (p.dropWaiter t).Served := by
  have hsame : (∀ x, p.signal t = some x → x = .dropped) → p.dropWaiter t = p := by
    intro hx
    unfold dropWaiter
    cases hsig : p.signal t with
    | none => rfl
    | some x =>
        rw [hx x hsig]
  cases hsig : p.signal t with
  | none =>
      rw [hsame (by rw [hsig]; nofun)]
      exact h
  | some x =>
      cases x with
      | pending =>
          obtain ⟨-, hw, hcount⟩ := dropWaiter_pending hs.tidy hsig
          have hrest : (p.dropWaiter t).connections = p.connections ∧
              (p.dropWaiter t).connecting = p.connecting ∧ (p.dropWaiter t).held = p.held := by
            unfold dropWaiter
            rw [hsig]
            exact ⟨rfl, rfl, rfl⟩
          obtain ⟨h1, h2, h3⟩ := hrest
          intro hw' hc
          unfold outstanding
          rw [h1, hcount, h3]
          exact h (hw hw') (h2 ▸ hc)
      | sent =>
          obtain ⟨ht, hw, hcount⟩ := leave_sent hs.tidy hsig
          have heq : p.dropWaiter t = (p.leave t).notify := by
            unfold dropWaiter
            rw [hsig]
          rw [heq]
          refine Served.of_notified (notified_notify _) ht fun _ hw' hc => ?_
          have hout : (p.leave t).outstanding + 1 = p.outstanding := by
            show signalled (p.leave t).channels + p.held + 1 = signalled p.channels + p.held
            omega
          rw [hout]
          exact h (hw hw') hc
      | dropped =>
          rw [hsame (by rw [hsig]; intro x hx; cases hx; rfl)]
          exact h

/-- After the end of a connect nobody waits. -/
theorem served_connectEnds (h : p.Tidy) : p.connectEnds.Served :=
  fun hw => absurd hw (Tidy.drainWaiters (p := { p with
    connecting := false
    connects := p.connects - 1 }) ⟨h.line, h.alive⟩).2

/-- A poll that is not wasted opens a stream, or goes on waiting for the connection. -/
theorem poll_takes {c : Connection} {w : Option Nat} {r : Request}
    (h : wastesPoll c w r = false) :
    (∃ x, sendPoll c w r = .ready x) ∧ c.Takes (c.step (sendStep w r)) ∨
      ∃ w', sendPoll c w r = .waiting w' := by
  cases w with
  | none => exact (Connection.request_takes h).imp_right And.right
  | some w =>
      have hstay : c.signal w ≠ some .sent → c.signal w ≠ some .dropped →
          ∃ w', sendPoll c (some w) r = .waiting w' := by
        intro h1 h2
        refine ⟨w, ?_⟩
        show (c.pollRequest w (some r)).1 = _
        unfold Connection.pollRequest
        split
        · next hs => exact absurd hs h1
        · next hs => exact absurd hs h2
        · rfl
      unfold wastesPoll at h
      dsimp only at h
      cases hs : c.signal w with
      | none => exact .inr (hstay (by rw [hs]; nofun) (by rw [hs]; nofun))
      | some x =>
          rw [hs] at h
          cases x with
          | pending => exact .inr (hstay (by rw [hs]; nofun) (by rw [hs]; nofun))
          | dropped => cases h
          | sent =>
              have heq : c.pollRequest w (some r) =
                  ({ c with waiters := c.waiters.filter (·.1 != w) } : Connection).request
                    (some r) := by
                unfold Connection.pollRequest
                rw [hs]
              have htakes := Connection.request_takes
                (c := { c with waiters := c.waiters.filter (·.1 != w) }) h
              show (∃ x, (c.pollRequest w (some r)).1 = .ready x) ∧
                c.Takes (c.pollRequest w (some r)).2 ∨ ∃ w', (c.pollRequest w (some r)).1 = _
              rw [heq]
              rcases htakes with ⟨hx, h1, h2, h3, h4⟩ | ⟨-, hw⟩
              · exact .inl ⟨hx, h1, h2, h3, h4.limit, h4.calls, h4.active⟩
              · exact .inr hw

theorem announced_poll (c : Connection) (w : Option Nat) (r : Request) :
    c.Announced (c.step (sendStep w r)) := by
  cases w with
  | none => exact Connection.announced_request c (some r)
  | some w => exact Connection.announced_pollRequest c w (some r)

theorem served_sendHeld (hs : p.Sound) (h : p.Served) {i : Nat} {w : Option Nat} {r : Request}
    (ha : p.Enabled (.sendHeld i w r)) (hp : p.PassesOn (.sendHeld i w r)) :
    (p.sendHeld i w r).Served := by
  have hpos : 0 < p.held := ha
  cases he : p.connections[i]? with
  | none =>
      unfold sendHeld
      rw [he]
      exact h
  | some e =>
      obtain ⟨s, -, hreach⟩ := hs.genuine e (List.mem_of_getElem? he)
      have hen := enabled_request hs.genuine (List.mem_of_getElem? he) w r
      have hn := notified_iterate ((e.next (sendStep w r)).con.capacityCalls -
        e.con.capacityCalls) (p.setNext i e (sendStep w r))
      rw [← onConnection_eq he] at hn
      have hann := announced_poll e.con w r
      -- the slots after the poll, if they are covered by `k` notifications before it
      have hstep : ∀ k, (p.Waits → p.connecting = false → Covered p.connections k) →
          p.Waits → p.connecting = false → Covered (p.connections.set i (e.next (sendStep w r)))
            (k + ((e.next (sendStep w r)).con.capacityCalls - e.con.capacityCalls)) :=
        fun k hk hw hc => covered_announced hreach hen he hann (hk hw hc)
      unfold sendHeld
      rw [he]
      dsimp only
      cases hpoll : sendPoll e.con w r with
      | waiting w' => exact served_onConnection hs.tidy he fun _ => hstep p.outstanding h
      | ready x =>
          intro hw hc
          obtain ⟨hw0, hsig⟩ := hn.waits ⟨hs.tidy.line, hs.tidy.alive⟩ hw
          have hc0 : p.connecting = false := hn.connecting ▸ hc
          have hout : signalled (p.onConnection i (sendStep w r)).channels +
              ((p.onConnection i (sendStep w r)).held - 1) = p.outstanding - 1 +
                ((e.next (sendStep w r)).con.capacityCalls - e.con.capacityCalls) := by
            rw [hsig, hn.held]
            show signalled p.channels + _ + (p.held - 1) = signalled p.channels + p.held - 1 + _
            omega
          show Covered (p.onConnection i (sendStep w r)).connections
            (signalled (p.onConnection i (sendStep w r)).channels +
              ((p.onConnection i (sendStep w r)).held - 1))
          rw [hn.connections, hout]
          cases hwaste : wastesPoll e.con w r with
          | true => exact hstep _ (hp e he hwaste) hw0 hc0
          | false =>
              rcases poll_takes hwaste with ⟨-, htakes⟩ | ⟨w', hwait⟩
              · have hcov := h hw0 hc0
                have hone : p.outstanding = p.outstanding - 1 + 1 := by
                  unfold outstanding
                  omega
                rw [hone] at hcov
                exact covered_taken he htakes hcov
              · rw [hpoll] at hwait
                cases hwait

theorem served_step (hs : p.Sound) (h : p.Served) {a : Step} (ha : p.Enabled a)
    (hp : p.PassesOn a) : (p.step a).Served := by
  cases a with
  | call call now rand =>
      cases call with
      | ready => exact served_ready h false now rand
      | client => exact served_client false now rand h
      | send r => exact served_send hs h now rand r
  | wake t now rand => exact served_wake hs h ha hp
  | dropWaiter t => exact served_dropWaiter hs h t
  | connected s now => exact served_connectEnds (hs.add ha.2 now).tidy
  | connectFailed => exact served_connectEnds hs.tidy
  | connection i a => exact served_connection hs h ha hp
  | notify =>
      exact Served.of_notified (notified_notify p) hs.tidy fun _ hw hc =>
        (h hw hc).mono (Nat.le_succ _)
  | sendHeld i w r => exact served_sendHeld hs h ha hp
  | dropHeld =>
      intro hw hc
      have hpos : 0 < p.held := ha
      have hout : p.outstanding - 1 = signalled p.channels + (p.held - 1) := by
        unfold outstanding
        omega
      have hcov := hp hw hc
      rw [hout] at hcov
      exact hcov

/-! ## Runs -/

theorem served_of_reachable (h : ReachableBy PassesOn cfg p) : p.Served := by
  induction h with
  | build =>
      rintro ⟨_, hw⟩
      cases hw
  | step a hr ha hp ih => exact served_step (sound_of_reachable hr.reachable) ih ha hp

/-- No waiter is overlooked: with no notification on its way, and no connection about to be
established, a waiter in the queue means that no connection of the pool is ready. -/
def NobodyOverlooked (p : Client) : Prop :=
  signalled p.channels = 0 → p.held = 0 → p.connecting = false → p.waiters ≠ [] →
    ∀ e ∈ p.connections, e.isReady = false

/-- In every run in which a new limit frees no more slots than there are notifications for, and
woken waiters use their notification or have one to lose, no waiter of the pool is overlooked. -/
theorem no_waiter_overlooked (h : ReachableBy PassesOn cfg p) : p.NobodyOverlooked := by
  intro hsig hheld hc hq e he
  obtain ⟨t, ht⟩ := List.exists_mem_of_ne_nil _ hq
  have hcov := served_of_reachable h ⟨t, (sound_of_reachable h.reachable).tidy.alive t ht⟩ hc
  have hout : p.outstanding = 0 := by
    unfold outstanding
    omega
  rw [hout] at hcov
  exact hcov.unready he

/-- The settings of a peer that sets its limit. -/
def limitOf (max : Nat) : Settings :=
  { Connection.noSettings with maxConcurrentStreams := some max }

/-- A pool of one connection, whose peer allows one stream; a first request has it, and a second
one waits. -/
def waitingPool : List Step :=
  [.call (.send Connection.someRequest) 0 0, .connected Connection.clientStart 0,
    .call (.send Connection.someRequest) 0 0,
    .connection 0 (.receive (.settings (limitOf 1))),
    .call (.send Connection.someRequest) 0 0]

theorem waitingPool_reachable :
    ReachableBy PassesOn oneConnection ((build oneConnection).after waitingPool) := by
  refine ReachableBy.build.after waitingPool ?_
  refine ⟨⟨trivial, trivial⟩, ⟨⟨by decide +kernel, rfl⟩, trivial⟩, ⟨trivial, trivial⟩,
    ⟨⟨_, rfl, ?_, ?_⟩, ?_⟩, ⟨trivial, trivial⟩, trivial⟩
  · exact fun v hv => by cases hv
  · exact fun v hv => by cases hv
  · exact fun e he hack hset hu hlen => absurd hlen (by decide +kernel)

theorem no_waiter_overlooked_waiting : ∃ p, ReachableBy PassesOn oneConnection p ∧
    p.waiters = [0] ∧ (p.connections.map (·.isReady)) = [false] ∧ p.NobodyOverlooked :=
  ⟨_, waitingPool_reachable, by decide +kernel, by decide +kernel,
    no_waiter_overlooked waitingPool_reachable⟩

/-- A third request waits, the peer raises its limit to three, and the callback wakes the second
one only. -/
theorem waiter_overlooked :
    ¬∀ (cfg : InnerConfig) (p : Client), Reachable cfg p → p.NobodyOverlooked := by
  intro h
  have h1 : Reachable oneConnection (((build oneConnection).after waitingPool).step
      (.call (.send Connection.someRequest) 0 0)) :=
    .step _ waitingPool_reachable.reachable trivial
  have h2 : Reachable oneConnection ((((build oneConnection).after waitingPool).step
      (.call (.send Connection.someRequest) 0 0)).step
        (.connection 0 (.receive (.settings (limitOf 3))))) := by
    refine .step _ h1 ⟨_, rfl, ?_, ?_⟩
    · exact fun v hv => by cases hv
    · exact fun v hv => by cases hv
  have h3 : Reachable oneConnection (((((build oneConnection).after waitingPool).step
      (.call (.send Connection.someRequest) 0 0)).step
        (.connection 0 (.receive (.settings (limitOf 3))))).step (.wake 0 0 0)) :=
    .step _ h2 (show signal _ 0 = some .sent by decide +kernel)
  have hready := h _ _ h3 (by decide +kernel) (by decide +kernel) (by decide +kernel)
    (by decide +kernel)
  exact absurd (List.any_eq_false.mpr fun e he => Bool.eq_false_iff.mp (hready e he))
    (by decide +kernel)

end Client

end NtexH2
