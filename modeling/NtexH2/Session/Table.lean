/-
  Session/Table.lean --- the stream table of a session.

  The map holds the streams that have an open half, the counters count it, and ids
  are given in the order of creation.
-/
import NtexH2.Session.Model
import Mathlib.Data.List.Nodup

set_option autoImplicit false

namespace NtexH2

namespace Session

/-! ## What only grows -/

/-- Counters that only grow and flags that stay set. -/
structure Grows (k k' : Session) : Prop where
  server : k'.server = k.server
  created : k.created ≤ k'.created
  lastId : k.lastId ≤ k'.lastId
  draining : k.draining = true → k'.draining = true
  failed : k.failed = true → k'.failed = true
  goneAway : k.goneAway = true → k'.goneAway = true
  ioClosed : k.ioClosed = true → k'.ioClosed = true

theorem Grows.refl (k : Session) : Grows k k :=
  ⟨rfl, Nat.le_refl _, Nat.le_refl _, id, id, id, id⟩

/-- Growth composes along a run. -/
theorem Grows.trans {k m k' : Session} (f : Grows k m) (g : Grows m k') : Grows k k' :=
  ⟨g.server.trans f.server, Nat.le_trans f.created g.created, Nat.le_trans f.lastId g.lastId,
    g.draining ∘ f.draining, g.failed ∘ f.failed, g.goneAway ∘ f.goneAway,
    g.ioClosed ∘ f.ioClosed⟩

/-- A change of other fields. -/
theorem Grows.other {k k' : Session} (h1 : k'.server = k.server) (h2 : k'.created = k.created)
    (h3 : k'.lastId = k.lastId) (h4 : k'.draining = k.draining) (h5 : k'.failed = k.failed)
    (h6 : k'.goneAway = k.goneAway) (h7 : k'.ioClosed = k.ioClosed) : Grows k k' :=
  ⟨h1, Nat.le_of_eq h2.symm, Nat.le_of_eq h3.symm, fun h => h4.trans h, fun h => h5.trans h,
    fun h => h6.trans h, fun h => h7.trans h⟩

/-- A stream that leaves the map takes no counter of the session back. -/
theorem Grows.close (k : Session) (o : Nat) (r w : Bool) : Grows k (k.close o r w) := by
  refine ⟨rfl, Nat.le_refl _, Nat.le_refl _, id, id, id, fun h => ?_⟩
  show (k.ioClosed || _) = true
  rw [h]
  rfl

theorem Grows.push (k : Session) (e : Event) : Grows k (k.push e) :=
  .other rfl rfl rfl rfl rfl rfl rfl

theorem Grows.reset (k : Session) (o : Nat) (r : Reason) : Grows k (k.reset o r) :=
  (Grows.push k _).trans (.close _ o true true)

theorem Grows.ioClose (k : Session) : Grows k k.ioClose :=
  ⟨rfl, Nat.le_refl _, Nat.le_refl _, id, id, id, fun _ => rfl⟩

theorem Grows.topUp (k : Session) : Grows k k.topUp := by
  unfold Session.topUp
  split
  · exact .other rfl rfl rfl rfl rfl rfl rfl
  · exact .refl k

theorem Grows.streamTopUp (k : Session) (o : Nat) : Grows k (k.streamTopUp o) := by
  unfold Session.streamTopUp
  split
  · exact .other rfl rfl rfl rfl rfl rfl rfl
  · exact .refl k

theorem Grows.stray (k : Session) (obj : Option Nat) (d : Data) : Grows k (k.stray obj d) := by
  refine Grows.trans ?_ (.topUp _)
  exact .other rfl rfl rfl rfl rfl rfl rfl

/-- Every step keeps the side and what only grows, whatever the guard lets the peer do. -/
theorem Step.grows {G : Guard} {k k' : Session} (h : Step G k k') : Grows k k' := by
  cases h with
  | raise hs hid => exact ⟨rfl, Nat.le_refl _, Nat.le_of_lt hid, id, id, id, id⟩
  | accept hs hd hid hodd hmax =>
      exact ⟨rfl, Nat.le_succ _, Nat.le_of_lt hid, id, id, id, id⟩
  | openLocal => exact ⟨rfl, Nat.le_succ _, Nat.le_refl _, id, id, id, id⟩
  | close => exact .close k _ _ _
  | remoteReset => exact (Grows.push k _).trans (.close _ _ true true)
  | @respond o h =>
      simp only [Session.respond]
      split
      · exact (Grows.close k o false true).trans (.push _ _)
      · exact .other rfl rfl rfl rfl rfl rfl rfl
  | @chunk o d =>
      refine Grows.trans ((Grows.push k (.sent (some o) .sendPages (.data d))).trans
        (.close _ o false d.endStream)) ?_
      exact .other rfl rfl rfl rfl rfl rfl rfl
  | @finish o => exact (Grows.close k o false true).trans (.push _ _)
  | trailers => exact (Grows.push k _).trans (.close _ _ false true)
  | reset => exact .reset k _ _
  | stray => exact .stray k none _
  | @overrun o d => exact ((Grows.stray k (some o) d).trans (.push _ _)).trans (.reset _ o _)
  | @release o n caps =>
      have h1 : Grows k ({ k with caps := caps }.modify o fun s =>
          { s with recvSize := s.recvSize - n }) := .other rfl rfl rfl rfl rfl rfl rfl
      have h2 := h1.trans (.streamTopUp _ o)
      unfold Session.release
      dsimp only
      generalize ({ k with caps := caps }.modify o fun s =>
        { s with recvSize := s.recvSize - n }).streamTopUp o = k1 at h2
      have h3 : Grows k1 { k1 with recvSize := k1.recvSize - n } :=
        .other rfl rfl rfl rfl rfl rfl rfl
      exact (h2.trans h3).trans (.topUp _)
  | badCredit => exact ((Grows.push k _).trans (.push _ _)).trans (.reset _ _ _)
  | @ackOne o rest =>
      simp only [Session.ackOne]
      split
      · exact .other rfl rfl rfl rfl rfl rfl rfl
      · split
        · exact .other rfl rfl rfl rfl rfl rfl rfl
        · refine Grows.trans ?_ (.streamTopUp _ o)
          exact .other rfl rfl rfl rfl rfl rfl rfl
  | @ackFailed o e l =>
      refine Grows.trans (Grows.trans (m := { k with ackErrors := l }.push (.streamFailed o e)) ?_
        (.close _ o true true)) ?_
      · exact .other rfl rfl rfl rfl rfl rfl rfl
      · exact .other rfl rfl rfl rfl rfl rfl rfl
  | fail => exact ⟨rfl, Nat.le_refl _, Nat.le_refl _, id, fun _ => rfl, id, id⟩
  | shut _ => exact .ioClose k
  | drain =>
      have hd : Grows k { k with draining := true } :=
        ⟨rfl, Nat.le_refl _, Nat.le_refl _, fun _ => rfl, id, id, id⟩
      unfold Session.drain
      split
      · exact hd.trans (.ioClose _)
      · exact hd
  | goneAway => exact ⟨rfl, Nat.le_refl _, Nat.le_refl _, id, id, fun _ => rfl, id⟩
  | unreserve =>
      unfold Session.unreserve
      dsimp only
      split
      · refine Grows.trans ?_ (.ioClose _)
        exact .other rfl rfl rfl rfl rfl rfl rfl
      · exact .other rfl rfl rfl rfl rfl rfl rfl
  | _ => exact .other rfl rfl rfl rfl rfl rfl rfl

/-- The same of a whole run, by induction on its steps. -/
theorem Steps.grows {G : Guard} {k k' : Session} (h : Steps G k k') : Grows k k' := by
  induction h with
  | refl => exact .refl k
  | tail _ hs ih => exact ih.trans hs.grows

/-! ## The table -/

/-- The invariant of the stream table. -/
structure Table (k : Session) : Prop where
  bound : ∀ o ∈ k.values, o < k.created
  nodup : k.values.Nodup
  key : ∀ e ∈ k.streams, (k.cells e.2).id = e.1
  live : ∀ o < k.created, (o ∈ k.values ↔ ¬(k.cells o).Done)
  remote : ∀ o < k.created, (k.cells o).remote = k.server
  mono : ∀ o p, o < p → p < k.created → (k.cells o).id < (k.cells p).id
  heard : k.server = true → ∀ o < k.created, (k.cells o).id ≤ k.lastId ∧ (k.cells o).id % 2 = 1
  given : k.server = false → k.nextStreamId = 2 * k.created + 1 ∧
    ∀ o < k.created, (k.cells o).id = 2 * o + 1
  openings : k.log.filterMap Event.opening =
    if k.server then [] else ((List.range k.created).map fun o => 2 * o + 1).reverse
  activeRemote : k.activeRemote = if k.server then k.streams.length else 0
  activeLocal : k.activeLocal = (if k.server then 0 else k.streams.length) + k.reserved
  reserved : k.reserved = k.reservations
  unreserved : k.server = true → k.reserved = 0
  limit : ∀ m ∈ k.config.remoteMaxConcurrentStreams, k.activeRemote ≤ m
  caps : ∀ c ∈ k.caps, c.stream < k.created
  senders : ∀ o ∈ k.senders, o < k.created ∧ (k.cells o).send ≠ .idle
  acking : ∀ o ∈ k.acking, o < k.created
  ackErrors : ∀ o ∈ k.ackErrors, o < k.created

/-! ## Consequences -/

section

variable {k : Session} (h : k.Table)

include h

/-- No two streams ever created have the same id: ids grow with the order of creation. -/
theorem Table.id_inj {o p : Nat} (ho : o < k.created) (hp : p < k.created)
    (hid : (k.cells o).id = (k.cells p).id) : o = p := by
  rcases Nat.lt_trichotomy o p with hlt | heq | hgt
  · have := h.mono o p hlt hp
    omega
  · exact heq
  · have := h.mono p o hgt ho
    omega

/-- Streams belong to the client's side of the id space. -/
theorem Table.id_odd {o : Nat} (ho : o < k.created) : (k.cells o).id % 2 = 1 := by
  cases hs : k.server with
  | true => exact (h.heard hs o ho).2
  | false =>
      have := (h.given hs).2 o ho
      omega

/-- A stream in the map is found under its id. -/
theorem Table.mem_streams {o : Nat} (ho : o ∈ k.values) : ((k.cells o).id, o) ∈ k.streams := by
  unfold values at ho
  obtain ⟨e, he, rfl⟩ := List.mem_map.mp ho
  rw [h.key e he]
  exact he

/-- The ids of the map are the ids of its streams. -/
theorem Table.mem_keys {id : Nat} :
    id ∈ k.streams.map (·.1) ↔ ∃ o ∈ k.values, (k.cells o).id = id := by
  constructor
  · intro hid
    obtain ⟨e, he, rfl⟩ := List.mem_map.mp hid
    exact ⟨e.2, List.mem_map_of_mem he, h.key e he⟩
  · rintro ⟨o, ho, rfl⟩
    exact List.mem_map_of_mem (f := (·.1)) (h.mem_streams ho)

end

/-! ## Steps that the table does not see -/

/-- Two sessions with the same table. -/
structure SameTable (k k' : Session) : Prop where
  config : k'.config = k.config
  server : k'.server = k.server
  created : k'.created = k.created
  streams : k'.streams = k.streams
  activeRemote : k'.activeRemote = k.activeRemote
  activeLocal : k'.activeLocal = k.activeLocal
  reserved : k'.reserved = k.reserved
  reservations : k'.reservations = k.reservations
  nextStreamId : k'.nextStreamId = k.nextStreamId
  lastId : k'.lastId = k.lastId
  openings : k'.log.filterMap Event.opening = k.log.filterMap Event.opening
  ids : ∀ o, (k'.cells o).id = (k.cells o).id
  remote : ∀ o, (k'.cells o).remote = (k.cells o).remote
  done : ∀ o, (k'.cells o).Done ↔ (k.cells o).Done
  idle : ∀ o, (k'.cells o).send = .idle → (k.cells o).send = .idle

theorem SameTable.values {k k' : Session} (s : SameTable k k') : k'.values = k.values :=
  congrArg (List.map fun e : Nat × Nat => e.2) s.streams

/-- The frame rule of the table: it depends on the fields of `SameTable` and on the three lists
alone. -/
theorem Table.same {k k' : Session} (h : k.Table) (s : SameTable k k')
    (hcaps : ∀ c ∈ k'.caps, c.stream < k.created)
    (hsenders : ∀ o ∈ k'.senders, o < k.created ∧ (k.cells o).send ≠ .idle)
    (hacking : ∀ o ∈ k'.acking, o < k.created)
    (hack : ∀ o ∈ k'.ackErrors, o < k.created) : k'.Table where
  bound := by
    rw [s.values, s.created]
    exact h.bound
  nodup := by
    rw [s.values]
    exact h.nodup
  key := by
    intro e he
    rw [s.streams] at he
    rw [s.ids]
    exact h.key e he
  live := by
    intro o ho
    rw [s.created] at ho
    rw [s.values, s.done]
    exact h.live o ho
  remote := by
    intro o ho
    rw [s.created] at ho
    rw [s.remote, s.server]
    exact h.remote o ho
  mono := by
    intro o p hop hp
    rw [s.created] at hp
    rw [s.ids, s.ids]
    exact h.mono o p hop hp
  heard := by
    intro hs o ho
    rw [s.server] at hs
    rw [s.created] at ho
    rw [s.ids, s.lastId]
    exact h.heard hs o ho
  given := by
    intro hs
    rw [s.server] at hs
    rw [s.nextStreamId, s.created]
    refine ⟨(h.given hs).1, fun o ho => ?_⟩
    rw [s.ids]
    exact (h.given hs).2 o ho
  openings := by
    rw [s.openings, s.server, s.created]
    exact h.openings
  activeRemote := by
    rw [s.activeRemote, s.server, s.streams]
    exact h.activeRemote
  activeLocal := by
    rw [s.activeLocal, s.server, s.streams, s.reserved]
    exact h.activeLocal
  reserved := by
    rw [s.reserved, s.reservations]
    exact h.reserved
  unreserved := by
    rw [s.server, s.reserved]
    exact h.unreserved
  limit := by
    rw [s.config, s.activeRemote]
    exact h.limit
  caps := by
    rw [s.created]
    exact hcaps
  senders := by
    intro o ho
    obtain ⟨hlt, hne⟩ := hsenders o ho
    rw [s.created]
    exact ⟨hlt, fun hi => hne (s.idle o hi)⟩
  acking := by
    rw [s.created]
    exact hacking
  ackErrors := by
    rw [s.created]
    exact hack

/-- A change of one stream that keeps its id and does not close or revive a half. -/
theorem sameTable_update {k : Session} {o : Nat} {s : Cell} (hid : s.id = (k.cells o).id)
    (hr : s.remote = (k.cells o).remote) (hd : s.Done ↔ (k.cells o).Done)
    (hi : s.send = .idle → (k.cells o).send = .idle) :
    SameTable k { k with cells := Function.update k.cells o s } where
  config := rfl
  server := rfl
  created := rfl
  streams := rfl
  activeRemote := rfl
  activeLocal := rfl
  reserved := rfl
  reservations := rfl
  nextStreamId := rfl
  lastId := rfl
  openings := rfl
  ids := by
    intro p
    by_cases hp : p = o
    · subst hp
      simpa using hid
    · simp [hp]
  remote := by
    intro p
    by_cases hp : p = o
    · subst hp
      simpa using hr
    · simp [hp]
  done := by
    intro p
    by_cases hp : p = o
    · subst hp
      simpa using hd
    · simp [hp]
  idle := by
    intro p
    by_cases hp : p = o
    · subst hp
      simpa using hi
    · simp [hp]

/-- A stream may change anything but its id, its side and whether it is done. -/
theorem Table.update {k : Session} (h : k.Table) {o : Nat} {s : Cell}
    (hid : s.id = (k.cells o).id) (hr : s.remote = (k.cells o).remote)
    (hd : s.Done ↔ (k.cells o).Done) (hi : s.send = .idle → (k.cells o).send = .idle) :
    Table { k with cells := Function.update k.cells o s } :=
  h.same (sameTable_update hid hr hd hi) h.caps h.senders h.acking h.ackErrors

/-- Windows, sizes and settings are not part of the table. -/
theorem Table.push {k : Session} (h : k.Table) {e : Event} (he : e.opening = none) :
    (k.push e).Table :=
  h.same ⟨rfl, rfl, rfl, rfl, rfl, rfl, rfl, rfl, rfl, rfl, by simp [Session.push, he],
    fun _ => rfl, fun _ => rfl, fun _ => Iff.rfl, fun _ hi => hi⟩ h.caps h.senders h.acking
    h.ackErrors

/-- Windows of the connection, the io and the flags are not part of the table. -/
theorem Table.window {k : Session} (h : k.Table) (io dr fl ga sp : Bool) (sw rw : Int)
    (rs rws rfs : Nat) :
    Table { k with
      ioClosed := io, draining := dr, failed := fl, goneAway := ga, settingsProcessed := sp
      sendWindow := sw, recvWindow := rw, recvSize := rs
      remoteWindowSz := rws, remoteFrameSize := rfs } :=
  h.same ⟨rfl, rfl, rfl, rfl, rfl, rfl, rfl, rfl, rfl, rfl, rfl,
    fun _ => rfl, fun _ => rfl, fun _ => Iff.rfl, fun _ hi => hi⟩ h.caps h.senders h.acking
    h.ackErrors

theorem Table.ioClose {k : Session} (h : k.Table) : k.ioClose.Table :=
  (h.push (e := .close) rfl).window true k.draining k.failed k.goneAway k.settingsProcessed
    k.sendWindow k.recvWindow k.recvSize k.remoteWindowSz k.remoteFrameSize

/-- A connection-level WINDOW_UPDATE opens and closes nothing. -/
theorem Table.topUp {k : Session} (h : k.Table) : k.topUp.Table := by
  unfold Session.topUp
  split
  · exact (h.push (e := .sent none .connection _) rfl).window k.ioClosed k.draining k.failed
      k.goneAway k.settingsProcessed k.sendWindow _ k.recvSize k.remoteWindowSz k.remoteFrameSize
  · exact h

/-- Nor does the WINDOW_UPDATE of a stream. -/
theorem Table.streamTopUp {k : Session} (h : k.Table) (o : Nat) : (k.streamTopUp o).Table := by
  unfold Session.streamTopUp
  split
  · refine Table.push ?_ rfl
    exact h.update rfl rfl Iff.rfl fun hi => hi
  · exact h

/-! ## Streams that leave -/

/-- A stream is in the map once, so its removal takes one entry. -/
theorem Table.without_length {k : Session} {o : Nat} (ho : o ∈ k.values) :
    (k.without o).length = k.streams.length - 1 := by
  unfold values at ho
  obtain ⟨e, he, rfl⟩ := List.mem_map.mp ho
  exact List.length_eraseP_of_mem (a := e) he (by simp)

theorem values_without (k : Session) (o : Nat) :
    (k.without o).map (·.2) = k.values.erase o := by
  unfold without values
  rw [List.erase_eq_eraseP' , List.eraseP_map]
  rfl

theorem Cell.close_id (s : Cell) (r w : Bool) : (s.close r w).id = s.id := rfl

/-- A half that closes does not open again. -/
theorem Cell.not_done_of_close {s : Cell} {r w : Bool} (h : ¬(s.close r w).Done) : ¬s.Done := by
  intro hd
  apply h
  unfold Cell.Done at hd ⊢
  unfold Cell.close
  simp [hd.1, hd.2]

theorem Cell.send_idle_of_close {s : Cell} {r w : Bool} (h : (s.close r w).send = .idle) :
    s.send = .idle := by
  cases w with
  | true => simp [Cell.close] at h
  | false => simpa [Cell.close] using h

/-- The streams of the map after halves have closed. -/
theorem mem_values_close {k : Session} (h : k.Table) {o p : Nat} {r w : Bool} :
    p ∈ (k.close o r w).values ↔ p ∈ k.values ∧ ¬(p = o ∧ ((k.cells o).close r w).Done) := by
  unfold values Session.close
  by_cases hl : k.Leaves o r w
  · simp only [hl, if_true]
    rw [values_without, h.nodup.mem_erase_iff]
    have hd := hl.1
    constructor
    · rintro ⟨hne, hp⟩
      exact ⟨hp, fun hc => hne hc.1⟩
    · rintro ⟨hp, hn⟩
      exact ⟨fun hc => hn ⟨hc, hd⟩, hp⟩
  · simp only [hl, if_false]
    constructor
    · intro hp
      refine ⟨hp, ?_⟩
      rintro ⟨rfl, hd⟩
      exact hl ⟨hd, hp⟩
    · exact fun hp => hp.1

/-- The map loses an entry exactly when the stream leaves, which is when both halves have closed.
-/
theorem length_close {k : Session} {o : Nat} {r w : Bool} :
    (k.close o r w).streams.length =
      if k.Leaves o r w then k.streams.length - 1 else k.streams.length := by
  unfold Session.close
  by_cases hl : k.Leaves o r w
  · simp only [hl, if_true]
    exact Table.without_length hl.2
  · simp only [hl, if_false]

theorem close_cells_self (k : Session) (o : Nat) (r w : Bool) :
    (k.close o r w).cells o = (k.cells o).close r w := by
  simp [Session.close]

theorem close_cells_of_ne {k : Session} {o p : Nat} {r w : Bool} (h : p ≠ o) :
    (k.close o r w).cells p = k.cells p := by
  simp [Session.close, h]

/-- Halves close, or nothing happens to a stream. -/
theorem close_cells (k : Session) (o p : Nat) (r w : Bool) :
    (k.close o r w).cells p = if p = o then (k.cells o).close r w else k.cells p := by
  by_cases hp : p = o
  · simp only [hp, if_true]
    exact close_cells_self k o r w
  · simp only [hp, if_false]
    exact close_cells_of_ne hp

theorem close_id (k : Session) (o p : Nat) (r w : Bool) :
    ((k.close o r w).cells p).id = (k.cells p).id := by
  rw [close_cells]
  split
  · next hp => rw [hp, Cell.close_id]
  · rfl

theorem close_remote (k : Session) (o p : Nat) (r w : Bool) :
    ((k.close o r w).cells p).remote = (k.cells p).remote := by
  rw [close_cells]
  split
  · next hp =>
      rw [hp]
      rfl
  · rfl

theorem close_streams_sub {k : Session} {o : Nat} {r w : Bool} {e : Nat × Nat}
    (he : e ∈ (k.close o r w).streams) : e ∈ k.streams := by
  unfold Session.close at he
  by_cases hl : k.Leaves o r w
  · simp only [hl, if_true] at he
    exact List.mem_of_mem_eraseP he
  · simpa only [hl, if_false] using he

theorem close_openings (k : Session) (o : Nat) (r w : Bool) :
    (k.close o r w).log.filterMap Event.opening = k.log.filterMap Event.opening := by
  unfold Session.close
  by_cases he : k.Ends o r w
  · simp only [he, if_true]
    rfl
  · simp only [he, if_false]

/-- Halves of a stream close: it leaves the map, and the counter of its side goes down, when both
are closed. -/
theorem Table.close {k : Session} (h : k.Table) {o : Nat} (ho : o < k.created) (r w : Bool) :
    (k.close o r w).Table where
  bound := fun p hp => h.bound p ((mem_values_close h).mp hp).1
  nodup := by
    unfold values Session.close
    by_cases hl : k.Leaves o r w
    · simp only [hl, if_true]
      rw [values_without]
      exact h.nodup.erase o
    · simp only [hl, if_false]
      exact h.nodup
  key := by
    intro e he
    rw [close_id]
    exact h.key e (close_streams_sub he)
  live := by
    intro p hp
    rw [mem_values_close h, h.live p hp, close_cells]
    by_cases hpo : p = o
    · subst hpo
      simp only [true_and, if_true]
      exact ⟨fun hc => hc.2, fun hc => ⟨Cell.not_done_of_close hc, hc⟩⟩
    · simp [hpo]
  remote := by
    intro p hp
    rw [close_remote]
    exact h.remote p hp
  mono := by
    intro p q hpq hq
    rw [close_id, close_id]
    exact h.mono p q hpq hq
  heard := by
    intro hs p hp
    rw [close_id]
    exact h.heard hs p hp
  given := by
    intro hs
    refine ⟨(h.given hs).1, fun p hp => ?_⟩
    rw [close_id]
    exact (h.given hs).2 p hp
  openings := by
    rw [close_openings]
    exact h.openings
  activeRemote := by
    rw [length_close]
    have hr := h.remote o ho
    have ha := h.activeRemote
    show (if k.Leaves o r w ∧ (k.cells o).remote = true then k.activeRemote - 1
      else k.activeRemote) = if k.server then _ else 0
    rw [hr, ha]
    by_cases hl : k.Leaves o r w <;> cases k.server <;> simp [hl]
  activeLocal := by
    rw [length_close]
    have hr := h.remote o ho
    have ha := h.activeLocal
    show (if k.Leaves o r w ∧ (k.cells o).remote = false then k.activeLocal - 1
      else k.activeLocal) = (if k.server then 0 else _) + k.reserved
    rw [hr, ha]
    by_cases hl : k.Leaves o r w
    · have hpos : 0 < k.streams.length := by
        have hm := hl.2
        unfold values at hm
        exact List.length_pos_iff.mpr fun hnil => by simp [hnil] at hm
      cases k.server <;> simp [hl]
      omega
    · cases k.server <;> simp [hl]
  reserved := h.reserved
  unreserved := h.unreserved
  limit := by
    intro m hm
    have hlim := h.limit m hm
    show (if k.Leaves o r w ∧ (k.cells o).remote = true then k.activeRemote - 1
      else k.activeRemote) ≤ m
    split <;> omega
  caps := h.caps
  senders := by
    intro p hp
    obtain ⟨hlt, hne⟩ := h.senders p hp
    refine ⟨hlt, fun hi => hne ?_⟩
    rw [close_cells] at hi
    split at hi
    · next hpo =>
        rw [hpo]
        exact Cell.send_idle_of_close hi
    · exact hi
  acking := h.acking
  ackErrors := h.ackErrors

/-! ## Streams that are opened -/

/-- A new stream in the map. -/
def insert (k : Session) (s : Cell) : Session :=
  { k with
    created := k.created + 1
    cells := Function.update k.cells k.created s
    streams := (s.id, k.created) :: k.streams }

section

variable {k : Session} (h : k.Table) {s : Cell}

include h

theorem Table.insert_bound : ∀ o ∈ (k.insert s).values, o < k.created + 1 := by
  intro o ho
  simp only [values, Session.insert, List.map_cons, List.mem_cons] at ho
  rcases ho with rfl | ho
  · omega
  · have := h.bound o ho
    omega

theorem Table.insert_nodup : (k.insert s).values.Nodup := by
  simp only [values, Session.insert, List.map_cons, List.nodup_cons]
  exact ⟨fun hm => absurd (h.bound _ hm) (by omega), h.nodup⟩

theorem Table.insert_key : ∀ e ∈ (k.insert s).streams, ((k.insert s).cells e.2).id = e.1 := by
  intro e he
  simp only [Session.insert, List.mem_cons] at he ⊢
  rcases he with rfl | he
  · simp
  · have hlt := h.bound e.2 (List.mem_map_of_mem he)
    rw [Function.update_of_ne (by omega)]
    exact h.key e he

/-- The map holds the streams that are not done, the new one included. -/
theorem Table.insert_live (hs : ¬s.Done) : ∀ o < k.created + 1,
    (o ∈ (k.insert s).values ↔ ¬((k.insert s).cells o).Done) := by
  intro o ho
  simp only [values, Session.insert, List.map_cons, List.mem_cons]
  by_cases hoc : o = k.created
  · subst hoc
    simpa using hs
  · rw [Function.update_of_ne hoc]
    simp only [hoc, false_or]
    exact h.live o (by omega)

theorem Table.insert_remote (hr : s.remote = k.server) :
    ∀ o < k.created + 1, ((k.insert s).cells o).remote = k.server := by
  intro o ho
  simp only [Session.insert]
  by_cases hoc : o = k.created
  · subst hoc
    simpa using hr
  · rw [Function.update_of_ne hoc]
    exact h.remote o (by omega)

/-- The id of the new stream is above every id before it. -/
theorem Table.insert_mono (hid : ∀ o < k.created, (k.cells o).id < s.id) :
    ∀ o p, o < p → p < k.created + 1 →
      ((k.insert s).cells o).id < ((k.insert s).cells p).id := by
  intro o p hop hp
  simp only [Session.insert]
  rw [Function.update_of_ne (by omega : o ≠ k.created)]
  by_cases hpc : p = k.created
  · subst hpc
    simpa using hid o hop
  · rw [Function.update_of_ne hpc]
    exact h.mono o p hop (by omega)

theorem Table.insert_senders : ∀ o ∈ k.senders,
    o < k.created + 1 ∧ ((k.insert s).cells o).send ≠ .idle := by
  intro o ho
  obtain ⟨hlt, hne⟩ := h.senders o ho
  simp only [Session.insert]
  rw [Function.update_of_ne (by omega : o ≠ k.created)]
  exact ⟨by omega, hne⟩

end

/-- HEADERS of the peer open a stream on a server that has room for it. -/
theorem Table.accept {k : Session} (h : k.Table) {id : Nat} (hs : k.server = true)
    (hid : k.lastId < id) (hodd : id % 2 = 1)
    (hmax : ∀ m ∈ k.config.remoteMaxConcurrentStreams, k.activeRemote < m) :
    (k.accept id).Table where
  bound := h.insert_bound (s := k.newCell id)
  nodup := h.insert_nodup (s := k.newCell id)
  key := h.insert_key (s := k.newCell id)
  live := h.insert_live (s := k.newCell id) (by simp [newCell, Cell.Done])
  remote := h.insert_remote (s := k.newCell id) rfl
  mono := h.insert_mono (s := k.newCell id) fun o ho => by
    have := (h.heard hs o ho).1
    simp only [newCell]
    omega
  heard := by
    intro _ o ho
    simp only [Session.accept] at ho ⊢
    by_cases hoc : o = k.created
    · subst hoc
      simpa [newCell] using hodd
    · rw [Function.update_of_ne hoc]
      have := h.heard hs o (by omega)
      exact ⟨by omega, this.2⟩
  given := by
    intro hs'
    rw [show (k.accept id).server = k.server from rfl, hs] at hs'
    cases hs'
  openings := by
    have ho := h.openings
    simp only [hs, if_true] at ho
    simp only [Session.accept, hs, if_true]
    exact ho
  activeRemote := by
    have ha := h.activeRemote
    simp only [hs, if_true] at ha
    simp [Session.accept, hs, ha]
  activeLocal := by
    have ha := h.activeLocal
    simp only [hs, if_true] at ha
    simp [Session.accept, hs, ha]
  reserved := h.reserved
  unreserved := h.unreserved
  limit := by
    intro m hm
    exact hmax m hm
  caps := fun c hc => Nat.lt_succ_of_lt (h.caps c hc)
  senders := h.insert_senders (s := k.newCell id)
  acking := fun o ho => Nat.lt_succ_of_lt (h.acking o ho)
  ackErrors := fun o ho => Nat.lt_succ_of_lt (h.ackErrors o ho)

/-- The stream that is opened with the headers `h`. -/
def openCell (k : Session) (h : Headers) : Cell :=
  { k.newCell h.streamId with send := if h.endStream then .closed else .payload }

/-- A client opens a stream, on a reserved slot or without one. -/
theorem Table.openLocal {k : Session} (ht : k.Table) {h : Headers} {reserved : Bool}
    (hs : k.server = false) (hid : h.streamId = k.nextStreamId)
    (hr : reserved = true → 0 < k.reservations) : (k.openLocal h reserved).Table where
  bound := ht.insert_bound (s := k.openCell h)
  nodup := ht.insert_nodup (s := k.openCell h)
  key := ht.insert_key (s := k.openCell h)
  live := ht.insert_live (s := k.openCell h) (by simp [openCell, newCell, Cell.Done])
  remote := ht.insert_remote (s := k.openCell h) rfl
  mono := ht.insert_mono (s := k.openCell h) fun o ho => by
    obtain ⟨hnext, hids⟩ := ht.given hs
    have hido := hids o ho
    have : (k.openCell h).id = k.nextStreamId := hid
    omega
  heard := by
    intro hs'
    rw [show (k.openLocal h reserved).server = k.server from rfl, hs] at hs'
    cases hs'
  given := by
    intro _
    obtain ⟨hnext, hids⟩ := ht.given hs
    simp only [Session.openLocal]
    refine ⟨by omega, fun o ho => ?_⟩
    by_cases hoc : o = k.created
    · subst hoc
      have : h.streamId = 2 * k.created + 1 := hid.trans hnext
      simpa [newCell] using this
    · rw [Function.update_of_ne hoc]
      exact hids o (by omega)
  openings := by
    have ho := ht.openings
    have hnext : h.streamId = 2 * k.created + 1 := hid.trans (ht.given hs).1
    simp only [hs] at ho
    simp [Session.openLocal, hs, ho, List.range_succ, Event.opening, hnext]
  activeRemote := by
    have ha := ht.activeRemote
    simp only [hs] at ha
    simp only [Session.openLocal, hs]
    exact ha
  activeLocal := by
    have ha := ht.activeLocal
    have hres := ht.reserved
    simp only [hs] at ha
    cases hb : reserved with
    | true =>
        have := hr hb
        simp only [Session.openLocal, hs, List.length_cons]
        simp at ha ⊢
        omega
    | false =>
        simp only [Session.openLocal, hs, List.length_cons]
        simp at ha ⊢
        omega
  reserved := by
    have hres := ht.reserved
    simp only [Session.openLocal]
    split <;> omega
  unreserved := by
    intro hs'
    rw [show (k.openLocal h reserved).server = k.server from rfl, hs] at hs'
    cases hs'
  limit := ht.limit
  caps := fun c hc => Nat.lt_succ_of_lt (ht.caps c hc)
  senders := ht.insert_senders (s := k.openCell h)
  acking := fun o ho => Nat.lt_succ_of_lt (ht.acking o ho)
  ackErrors := fun o ho => Nat.lt_succ_of_lt (ht.ackErrors o ho)

/-! ## All streams at once -/

/-- SETTINGS of the peer change windows and limits and no stream. -/
theorem Table.settings {k : Session} (h : k.Table) (s : Settings) : (k.settings s).Table := by
  refine h.same ⟨rfl, rfl, rfl, rfl, rfl, rfl, rfl, rfl, rfl, rfl, rfl, ?_, ?_, ?_, ?_⟩ h.caps
    h.senders h.acking h.ackErrors
  all_goals
    intro o
    simp only [Session.settings]
    split
  all_goals first | rfl | exact Iff.rfl | exact fun hi => hi

/-- The connection fails: every stream is taken out of the map at once, and its counters go to
zero with it. -/
theorem Table.fail {k : Session} (h : k.Table) {evs : List Event} (window : Nat → Int)
    {windowSz frameSize : Nat} (he : k.FailEvents evs windowSz frameSize) :
    (k.fail evs window windowSz frameSize).Table where
  bound := by
    intro o ho
    simp [values, Session.fail] at ho
  nodup := by simp [values, Session.fail]
  key := by
    intro e he
    simp [Session.fail] at he
  live := by
    intro o ho
    have hl := h.live o ho
    rw [show (k.fail evs window windowSz frameSize).values = [] from rfl]
    simp only [List.not_mem_nil, false_iff, not_not, Session.fail]
    by_cases hm : o ∈ k.values
    · simp only [hm, if_true]
      exact ⟨rfl, rfl⟩
    · simp only [hm, if_false]
      exact not_not.mp fun hd => hm (hl.mpr hd)
  remote := by
    intro o ho
    simp only [Session.fail]
    split <;> exact h.remote o ho
  mono := by
    intro o p hop hp
    have hm := h.mono o p hop hp
    simp only [Session.fail]
    split <;> split <;> exact hm
  heard := by
    intro hs o ho
    have hh := h.heard hs o ho
    simp only [Session.fail]
    split <;> exact hh
  given := by
    intro hs
    obtain ⟨hn, hi⟩ := h.given hs
    refine ⟨hn, fun o ho => ?_⟩
    simp only [Session.fail]
    split <;> exact hi o ho
  openings := by
    have hevs : evs.filterMap Event.opening = [] := by
      apply List.filterMap_eq_nil_iff.mpr
      intro e hmem
      rcases he.mem e hmem with ⟨err, rfl⟩ | ⟨obj, f, rfl, -⟩ <;> rfl
    simp only [Session.fail, List.filterMap_append, hevs, List.nil_append]
    exact h.openings
  activeRemote := by simp [Session.fail]
  activeLocal := by simp [Session.fail]
  reserved := h.reserved
  unreserved := h.unreserved
  limit := fun _ _ => Nat.zero_le _
  caps := h.caps
  senders := by
    intro o ho
    have hs := h.senders o ho
    refine ⟨hs.1, ?_⟩
    simp only [Session.fail]
    split
    · simp
    · exact hs.2
  acking := h.acking
  ackErrors := h.ackErrors

/-- The order in which the map lists its streams means nothing. -/
theorem Table.reorder {k : Session} (h : k.Table) {l : List (Nat × Nat)}
    (hl : l.Perm k.streams) : Table { k with streams := l } := by
  have hv : (l.map fun e : Nat × Nat => e.2).Perm k.values := hl.map _
  exact
    { bound := fun o ho => h.bound o (hv.mem_iff.mp ho)
      nodup := hv.nodup_iff.mpr h.nodup
      key := fun e he => h.key e (hl.mem_iff.mp he)
      live := fun o ho => hv.mem_iff.trans (h.live o ho)
      remote := h.remote
      mono := h.mono
      heard := h.heard
      given := h.given
      openings := h.openings
      activeRemote := by
        show k.activeRemote = if k.server then l.length else 0
        rw [hl.length_eq]
        exact h.activeRemote
      activeLocal := by
        show k.activeLocal = (if k.server then 0 else l.length) + k.reserved
        rw [hl.length_eq]
        exact h.activeLocal
      reserved := h.reserved
      unreserved := h.unreserved
      limit := h.limit
      caps := h.caps
      senders := h.senders
      acking := h.acking
      ackErrors := h.ackErrors }

/-! ## Reservations -/

/-- The counters of reservations change together. -/
theorem Table.counted {k : Session} (h : k.Table) (hs : k.server = false) {a r : Nat}
    (ha : a = k.streams.length + r) :
    Table { k with activeLocal := a, reserved := r, reservations := r } :=
  { h with
    activeLocal := by
      show a = (if k.server then 0 else k.streams.length) + r
      rw [hs]
      exact ha
    reserved := rfl
    unreserved := by
      intro hs'
      rw [show k.server = false from hs] at hs'
      cases hs' }

/-- A slot is reserved: both counters of the client go up. -/
theorem Table.reserve {k : Session} (h : k.Table) (hs : k.server = false) : k.reserve.Table := by
  have ha := h.activeLocal
  have hr := h.reserved
  simp only [hs] at ha
  have := h.counted hs (a := k.activeLocal + 1) (r := k.reserved + 1) (by simp at ha; omega)
  unfold Session.reserve
  rw [← hr]
  exact this

/-- A reserved slot is given back. -/
theorem Table.unreserve {k : Session} (h : k.Table) (hs : k.server = false)
    (hpos : 0 < k.reservations) : k.unreserve.Table := by
  have ha := h.activeLocal
  have hr := h.reserved
  simp only [hs] at ha
  have := h.counted hs (a := k.activeLocal - 1) (r := k.reserved - 1) (by simp at ha; omega)
  unfold Session.unreserve
  rw [← hr]
  dsimp only
  split
  · exact this.ioClose
  · exact this

/-! ## Every step -/

/-- The frame rule for the change of one stream. -/
theorem Table.modify {k : Session} (h : k.Table) {o : Nat} {f : Cell → Cell}
    (hid : (f (k.cells o)).id = (k.cells o).id)
    (hr : (f (k.cells o)).remote = (k.cells o).remote)
    (hd : (f (k.cells o)).Done ↔ (k.cells o).Done)
    (hi : (f (k.cells o)).send = .idle → (k.cells o).send = .idle) : (k.modify o f).Table :=
  h.update hid hr hd hi

/-- A reset closes both halves. -/
theorem Table.reset {k : Session} (h : k.Table) {o : Nat} (ho : o < k.created) (r : Reason) :
    (k.reset o r).Table :=
  (h.push (e := .sent (some o) .resetSilent (.reset (k.cells o).id r)) rfl).close ho true true

theorem Table.not_mem_reset {k : Session} (h : k.Table) {o : Nat} {r : Reason} :
    o ∉ (k.reset o r).values := by
  intro hm
  have hp := h.push (e := .sent (some o) .resetSilent (.reset (k.cells o).id r)) rfl
  exact ((mem_values_close hp).mp hm).2 ⟨rfl, rfl, rfl⟩

/-- DATA for a stream that is gone is charged to the connection alone. -/
theorem Table.stray {k : Session} (h : k.Table) (obj : Option Nat) (d : Data) :
    (k.stray obj d).Table := by
  have hp := h.push (e := .received obj (.data d)) rfl
  exact (hp.window k.ioClosed k.draining k.failed k.goneAway k.settingsProcessed k.sendWindow
    (k.recvWindow - d.flowLen) k.recvSize k.remoteWindowSz k.remoteFrameSize).topUp

/-- DATA is charged to the windows, which the table does not see. -/
theorem Table.charge {k : Session} (h : k.Table) {o : Nat} (ho : o < k.created) (d : Data) :
    (k.charge o d).Table := by
  have hu := h.update (o := o) (s := { k.cells o with
    recvWindow := (k.cells o).recvWindow - d.flowLen
    recvSize := (k.cells o).recvSize + d.flowLen }) rfl rfl Iff.rfl fun hi => hi
  refine hu.same ⟨rfl, rfl, rfl, rfl, rfl, rfl, rfl, rfl, rfl, rfl, rfl, fun _ => rfl,
    fun _ => rfl, fun _ => Iff.rfl, fun _ hi => hi⟩ ?_ hu.senders hu.acking hu.ackErrors
  intro c hc
  simp only [Session.charge, List.mem_append, List.mem_singleton] at hc
  rcases hc with hc | rfl
  · exact h.caps c hc
  · exact ho

theorem Table.withCaps {k : Session} (h : k.Table) {caps : List Capacity}
    (hall : ∀ c ∈ caps, c.stream < k.created) : Table { k with caps := caps } :=
  { h with caps := hall }

/-- Octets that are released are given back to windows, which the table does not see. -/
theorem Table.release {k : Session} (h : k.Table) {o n : Nat} {caps : List Capacity}
    (hall : ∀ c ∈ caps, c.stream < k.created) : (k.release o n caps).Table := by
  have hs := ((h.withCaps hall).modify (o := o) (f := fun s =>
    { s with recvSize := s.recvSize - n }) rfl rfl Iff.rfl fun hi => hi).streamTopUp o
  exact (hs.window _ _ _ _ _ _ _ (_ - n) _ _).topUp

/-- The ack of the settings shifts the window of one stream, or fails that stream. -/
theorem Table.ackOne {k : Session} (h : k.Table) {o : Nat} {rest : List Nat}
    (ha : k.acking = o :: rest) : (k.ackOne o rest).Table := by
  have hacking : ∀ p ∈ rest, p < k.created := fun p hp =>
    h.acking p (ha ▸ List.mem_cons_of_mem o hp)
  have ho : o < k.created := h.acking o (ha ▸ List.mem_cons_self)
  have hrest : Table { k with acking := rest } := { h with acking := hacking }
  unfold Session.ackOne
  split
  · exact hrest
  · split
    · refine { hrest with ackErrors := ?_ }
      intro p hp
      simp only [List.mem_append, List.mem_singleton] at hp
      rcases hp with hp | rfl
      · exact h.ackErrors p hp
      · exact ho
    · exact (hrest.modify (o := o) (f := fun s =>
        { s with recvWindow := s.recvWindow + k.shift }) rfl rfl Iff.rfl fun hi => hi).streamTopUp o

/-- A response opens the send half of a stream of the peer. -/
theorem Table.respond {k : Session} (h : k.Table) {o : Nat} (ho : o < k.created)
    (hi : (k.cells o).send = .idle) (hd : Headers) : (k.respond o hd).Table := by
  unfold Session.respond
  refine Table.push ?_ rfl
  split
  · exact h.close ho false true
  · refine h.modify rfl rfl ?_ ?_
    · simp [Cell.Done, hi]
    · simp

/-- A drain refuses streams to come and keeps those there are. -/
theorem Table.drain {k : Session} (h : k.Table) : k.drain.Table := by
  have hd := h.window k.ioClosed true k.failed k.goneAway k.settingsProcessed k.sendWindow
    k.recvWindow k.recvSize k.remoteWindowSz k.remoteFrameSize
  unfold Session.drain
  split
  · exact hd.ioClose
  · exact hd

/-- Every step keeps the table. -/
theorem Table.step {G : Guard} {k k' : Session} (h : k.Table) (hs : Step G k k') :
    k'.Table := by
  cases hs with
  | quiet he => exact h.push (Event.Quiet.silent he).opening
  | raise hs hid =>
      refine { h with heard := ?_ }
      intro _ o ho
      have := h.heard hs o ho
      exact ⟨Nat.le_of_lt (Nat.lt_of_le_of_lt this.1 hid), this.2⟩
  | accept hs hd hid hodd hmax => exact h.accept hs hid hodd hmax
  | openLocal hs hf hg hd hid hmax hr => exact h.openLocal hs hid hr
  | close ho hsr => exact h.close ho _ _
  | remoteReset ho => exact (h.push rfl).close (h.bound _ ho) true true
  | recvPayload ho hi => exact h.modify rfl rfl (by simp [Cell.Done, hi]) fun hs => hs
  | interim ho hi hid hend => exact h.push rfl
  | respond ho hi hid => exact h.respond ho hi _
  | @chunk o d ho hp hid hw hc hm =>
      have hcl := (h.push (e := .sent (some o) .sendPages (.data d)) rfl).close ho false d.endStream
      have hm := hcl.modify (o := o) (f := fun s =>
        { s with sendWindow := s.sendWindow - d.flowLen }) rfl rfl Iff.rfl fun hi => hi
      exact hm.window _ _ _ _ _ _ _ _ _ _
  | finish ho hp => exact (h.close ho false true).push rfl
  | trailers ho hp hid hend => exact (h.push rfl).close ho false true
  | reset ho => exact h.reset (h.bound _ ho) _
  | charge ho hid hw hc => exact h.charge (h.bound _ ho) _
  | stray hid hc => exact h.stray none _
  | @overrun o d ho hid hw hc =>
      have hst := (h.stray (some o) d).push (e := .streamFailed o .recvWindowExceeded) rfl
      refine hst.reset ?_ _
      have hcr : ((k.stray (some o) d).push
          (.streamFailed o .recvWindowExceeded)).created = k.created := by
        simp only [Session.stray, Session.push, Session.topUp]
        split <;> rfl
      rw [hcr]
      exact h.bound o ho
  | release ho hcaps hheld hall => exact h.release hall
  | caps hcaps hheld hall => exact h.withCaps hall
  | @conCredit n hn =>
      exact (h.push (e := .received none (.windowUpdate 0 n)) rfl).window _ _ _ _ _ _ _ _ _ _
  | credit ho hid hn => exact (h.push rfl).modify rfl rfl Iff.rfl fun hi => hi
  | lateCredit h0 hid => exact h.push rfl
  | badCredit ho hid => exact ((h.push rfl).push rfl).reset (h.bound _ ho) _
  | settings hack hw hn => exact h.settings _
  | @ackBegin s hack hp =>
      have hw := (h.push (e := .received none (.settings s)) rfl).window k.ioClosed k.draining
        k.failed k.goneAway true k.sendWindow k.recvWindow k.recvSize k.remoteWindowSz
        k.remoteFrameSize
      exact { hw with acking := h.bound }
  | ackOne ha hG => exact h.ackOne ha
  | @ackFailed o e l ho hl =>
      have hl' : Table { k with ackErrors := l } :=
        { h with ackErrors := fun p hp => h.ackErrors p (hl p hp) }
      exact ((hl'.push rfl).close (h.ackErrors o ho) true true).push rfl
  | fail he => exact h.fail _ he
  | shut _ => exact h.ioClose
  | drain => exact h.drain
  | goneAway => exact { h with }
  | reserve hs hf hg hd => exact h.reserve hs
  | unreserve hs hr => exact h.unreserve hs hr
  | senders hl =>
      refine { h with senders := ?_ }
      intro o ho
      rcases hl o ho with hm | hm
      · exact h.senders o hm
      · exact hm
  | reorder hl => exact h.reorder hl

end Session

end NtexH2
