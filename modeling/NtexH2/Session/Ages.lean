/-
  Session/Ages.lean --- the halves of a stream only move on.

  A half is idle, then it carries payload, then it is closed.  No step of a session
  takes a half back, so a stream without an open half never comes back to the map.
-/
import NtexH2.Session.Ledger

set_option autoImplicit false

namespace NtexH2

/-- How far a half has come. -/
def Half.rank : Half → Nat
  | .idle => 0
  | .payload => 1
  | .closed => 2

theorem Half.rank_le (h : Half) : h.rank ≤ Half.closed.rank := by
  cases h <;> decide

theorem Half.rank_idle (h : Half) : Half.idle.rank ≤ h.rank := Nat.zero_le _

theorem Half.eq_closed {h : Half} (hr : Half.closed.rank ≤ h.rank) : h = .closed := by
  cases h with
  | idle => exact absurd hr (by decide)
  | payload => exact absurd hr (by decide)
  | closed => rfl

/-- A stream some time later. -/
structure Cell.Ages (s s' : Cell) : Prop where
  remote : s'.remote = s.remote
  recv : s.recv.rank ≤ s'.recv.rank
  send : s.send.rank ≤ s'.send.rank

namespace Cell

variable {s s' s'' : Cell}

theorem Ages.refl (s : Cell) : s.Ages s := ⟨rfl, Nat.le_refl _, Nat.le_refl _⟩

theorem Ages.trans (h : s.Ages s') (h' : s'.Ages s'') : s.Ages s'' :=
  ⟨h'.remote.trans h.remote, Nat.le_trans h.recv h'.recv, Nat.le_trans h.send h'.send⟩

/-- The halves stay as they are. -/
theorem Ages.same (hr : s'.remote = s.remote) (h : s'.recv = s.recv) (h' : s'.send = s.send) :
    s.Ages s' := ⟨hr, by rw [h], by rw [h']⟩

theorem ages_close (s : Cell) (r w : Bool) : s.Ages (s.close r w) where
  remote := rfl
  recv := by
    cases r with
    | true => exact s.recv.rank_le
    | false => exact Nat.le_refl _
  send := by
    cases w with
    | true => exact s.send.rank_le
    | false => exact Nat.le_refl _

end Cell

namespace Session

variable {k k' k'' : Session}

/-- A session some time later. -/
structure Ages (k k' : Session) : Prop where
  created : k.created ≤ k'.created
  cells : ∀ o < k.created, (k.cells o).Ages (k'.cells o)

theorem Ages.refl (k : Session) : Ages k k := ⟨Nat.le_refl _, fun _ _ => .refl _⟩

theorem Ages.trans (h : Ages k k') (h' : Ages k' k'') : Ages k k'' where
  created := Nat.le_trans h.created h'.created
  cells := fun o ho => (h.cells o ho).trans (h'.cells o (Nat.lt_of_lt_of_le ho h.created))

/-- No stream changes, and none is opened. -/
theorem Ages.other (hc : k'.created = k.created) (hcells : k'.cells = k.cells) : Ages k k' :=
  ⟨Nat.le_of_eq hc.symm, fun o _ => by rw [hcells]; exact .refl _⟩

/-- One stream changes. -/
theorem Ages.update {o : Nat} {s : Cell} (hc : k'.created = k.created)
    (hcells : k'.cells = Function.update k.cells o s) (hs : (k.cells o).Ages s) : Ages k k' where
  created := Nat.le_of_eq hc.symm
  cells := by
    intro p _
    rw [hcells]
    by_cases hp : p = o
    · subst hp
      rwa [Function.update_self]
    · rw [Function.update_of_ne hp]
      exact .refl _

/-- A stream is opened. -/
theorem Ages.insert {s : Cell} (hc : k'.created = k.created + 1)
    (hcells : k'.cells = Function.update k.cells k.created s) : Ages k k' where
  created := hc ▸ Nat.le_succ _
  cells := by
    intro p hp
    rw [hcells, Function.update_of_ne (Nat.ne_of_lt hp)]
    exact .refl _

theorem Ages.push (k : Session) (e : Event) : Ages k (k.push e) := .other rfl rfl

theorem Ages.ioClose (k : Session) : Ages k k.ioClose := .other rfl rfl

theorem Ages.modify (k : Session) (o : Nat) {f : Cell → Cell}
    (hf : (k.cells o).Ages (f (k.cells o))) : Ages k (k.modify o f) := .update rfl rfl hf

theorem Ages.close (k : Session) (o : Nat) (r w : Bool) : Ages k (k.close o r w) :=
  .update rfl rfl (Cell.ages_close _ r w)

theorem Ages.reset (k : Session) (o : Nat) (r : Reason) : Ages k (k.reset o r) :=
  (Ages.push k _).trans (.close _ o true true)

theorem Ages.topUp (k : Session) : Ages k k.topUp := by
  unfold Session.topUp
  split
  · exact .other rfl rfl
  · exact .refl k

theorem Ages.streamTopUp (k : Session) (o : Nat) : Ages k (k.streamTopUp o) := by
  unfold Session.streamTopUp
  split
  · exact (Ages.modify k o (.same rfl rfl rfl)).trans (.push _ _)
  · exact .refl k

theorem Ages.stray (k : Session) (obj : Option Nat) (d : Data) : Ages k (k.stray obj d) := by
  refine Ages.trans ?_ (.topUp _)
  exact .other rfl rfl

/-- All streams of the map change. -/
theorem Ages.all {f : Nat → Cell} (hc : k'.created = k.created)
    (hcells : k'.cells = fun o => if o ∈ k.values then f o else k.cells o)
    (hf : ∀ o, (k.cells o).Ages (f o)) : Ages k k' where
  created := Nat.le_of_eq hc.symm
  cells := by
    intro o _
    rw [hcells]
    dsimp only
    split
    · exact hf o
    · exact .refl _

theorem Step.ages {G : Guard} (hs : Step G k k') : Ages k k' := by
  cases hs with
  | quiet he => exact .push k _
  | raise hserver hid => exact .other rfl rfl
  | @accept id hserver hd hid hodd hmax => exact .insert (s := k.newCell id) rfl rfl
  | @openLocal h reserved hserver hf hg hd hid hmax hr =>
      exact .insert (s := k.openCell h) rfl rfl
  | close ho h => exact .close k _ _ _
  | remoteReset ho => exact (Ages.push k _).trans (.close _ _ true true)
  | recvPayload ho hi =>
      refine .modify k _ ⟨rfl, ?_, Nat.le_refl _⟩
      rw [hi]
      exact Half.rank_idle _
  | interim ho hi hid hend => exact .push k _
  | @respond o h ho hi hid =>
      unfold Session.respond
      split
      · exact (Ages.close k o false true).trans (.push _ _)
      · refine (Ages.modify k o ⟨rfl, Nat.le_refl _, ?_⟩).trans (.push _ _)
        rw [hi]
        exact Half.rank_idle _
  | @chunk o d ho hp hid hw hc hm =>
      have h1 := (Ages.push k (.sent (some o) .sendPages (.data d))).trans
        (.close _ o false d.endStream)
      refine h1.trans ?_
      exact (Ages.modify _ o (f := fun s => { s with sendWindow := s.sendWindow - d.flowLen })
        (.same rfl rfl rfl)).trans (.other rfl rfl)
  | finish ho hp => exact (Ages.close k _ false true).trans (.push _ _)
  | trailers ho hp hid hend => exact (Ages.push k _).trans (.close _ _ false true)
  | reset ho => exact .reset k _ _
  | charge ho hid hw hc => exact .update rfl rfl (.same rfl rfl rfl)
  | stray hid hc => exact .stray k none _
  | overrun ho hid hw hc => exact ((Ages.stray k _ _).trans (.push _ _)).trans (.reset _ _ _)
  | @release o n caps ho hcaps hheld hall =>
      rw [release_eq]
      have h0 : Ages k { k with caps := caps, recvSize := k.recvSize - n } := .other rfl rfl
      have h1 : Ages k (k.released o n caps) := h0.trans (.modify _ o (.same rfl rfl rfl))
      exact (h1.trans (.streamTopUp _ o)).trans (.topUp _)
  | caps hcaps hheld hall => exact .other rfl rfl
  | conCredit hn => exact .other rfl rfl
  | credit ho hid hn => exact (Ages.push k _).trans (.modify _ _ (.same rfl rfl rfl))
  | lateCredit h0 hid => exact .push k _
  | badCredit ho hid => exact ((Ages.push k _).trans (.push _ _)).trans (.reset _ _ _)
  | settings hack hw hn => exact .all rfl rfl fun o => .same rfl rfl rfl
  | ackBegin hack hp => exact .other rfl rfl
  | @ackOne o rest ha hG =>
      have hrest : Ages k { k with acking := rest } := .other rfl rfl
      unfold Session.ackOne
      split
      · exact hrest
      · split
        · exact .other rfl rfl
        · exact (hrest.trans (.modify _ o (.same rfl rfl rfl))).trans (.streamTopUp _ o)
  | @ackFailed o e l ho hl =>
      have h1 : Ages k { k with ackErrors := l } := .other rfl rfl
      exact ((h1.trans (.push _ _)).trans (.close _ o true true)).trans (.push _ _)
  | fail he => exact .all rfl rfl fun o => ⟨rfl, Half.rank_le _, Half.rank_le _⟩
  | shut _ => exact .ioClose k
  | drain =>
      unfold Session.drain
      split
      · refine Ages.trans ?_ (.ioClose _)
        exact .other rfl rfl
      · exact .other rfl rfl
  | goneAway => exact .other rfl rfl
  | reserve hs hf hg hd => exact .other rfl rfl
  | unreserve hs hr =>
      unfold Session.unreserve
      dsimp only
      split
      · refine Ages.trans ?_ (.ioClose _)
        exact .other rfl rfl
      · exact .other rfl rfl
  | senders hl => exact .other rfl rfl
  | reorder hl => exact .other rfl rfl

theorem Steps.ages {G : Guard} (hs : Steps G k k') : Ages k k' := by
  induction hs with
  | refl => exact .refl k
  | tail _ hstep ih => exact ih.trans hstep.ages

variable {o : Nat}

/-- A closed receive half stays closed. -/
theorem Ages.recv_closed (h : Ages k k') (ho : o < k.created) (hc : (k.cells o).recv = .closed) :
    (k'.cells o).recv = .closed := Half.eq_closed (hc ▸ (h.cells o ho).recv)

/-- A closed send half stays closed. -/
theorem Ages.send_closed (h : Ages k k') (ho : o < k.created) (hc : (k.cells o).send = .closed) :
    (k'.cells o).send = .closed := Half.eq_closed (hc ▸ (h.cells o ho).send)

/-- A stream that has left the map does not come back. -/
theorem Ages.absent (h : Ages k k') (ht : k.Table) (ht' : k'.Table) (ho : o < k.created)
    (hm : o ∉ k.values) : o ∉ k'.values := by
  have hd : (k.cells o).Done := not_not.mp (mt (ht.live o ho).mpr hm)
  refine mt (ht'.live o (Nat.lt_of_lt_of_le ho h.created)).mp (not_not.mpr ?_)
  exact ⟨h.recv_closed ho hd.1, h.send_closed ho hd.2⟩

end Session

end NtexH2
