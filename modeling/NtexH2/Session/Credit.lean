/-
  Session/Credit.lean --- the receive windows of a session.

  Octets that were received and not released are counted three times: by the live
  `Capacity` values, by their stream and by the connection.  The windows shrink with
  them and are announced again when they are released.
-/
import NtexH2.Session.Sends

set_option autoImplicit false

namespace NtexH2

theorem heldBy_append (o : Nat) (l m : List Capacity) :
    heldBy o (l ++ m) = heldBy o l + heldBy o m := by
  simp [heldBy]

theorem held_append (l m : List Capacity) : held (l ++ m) = held l + held m := by
  simp [held]

/-- What one stream holds is part of what all of them hold. -/
theorem heldBy_le_held (o : Nat) (l : List Capacity) : heldBy o l ≤ held l := by
  induction l with
  | nil => exact Nat.le_refl 0
  | cons c l ih =>
      simp only [heldBy, held, List.map_cons, List.sum_cons] at ih ⊢
      split <;> omega

/-- No octet is held for a stream that was not created. -/
theorem heldBy_eq_zero {o n : Nat} (hno : n ≤ o) : ∀ {l : List Capacity},
    (∀ c ∈ l, c.stream < n) → heldBy o l = 0
  | [], _ => rfl
  | c :: l, h => by
      have hc : c.stream ≠ o := Nat.ne_of_lt (Nat.lt_of_lt_of_le (h c List.mem_cons_self) hno)
      have ih := heldBy_eq_zero hno fun d hd => h d (List.mem_cons_of_mem c hd)
      simp only [heldBy, List.map_cons, List.sum_cons, hc, if_false] at ih ⊢
      omega

namespace Session

/-- A stream whose window the SETTINGS ack has not reached. -/
def Waits (k : Session) (o : Nat) : Prop := k.settingsProcessed = false ∨ o ∈ k.acking

/-- The invariant of the receive windows. -/
structure Credit (k : Session) : Prop where
  conLow : 0 ≤ k.recvWindow
  conBound : k.recvWindow + k.recvSize ≤
    max (k.config.connectionWindowSz : Int) defaultInitialWindowSize
  conHeld : k.recvSize = held k.caps
  con : k.failed = false → k.recvWindow + total Event.gotData k.log =
    defaultInitialWindowSize + total Event.conGrant k.log
  held : ∀ o < k.created, (k.cells o).recvSize = heldBy o k.caps
  low : ∀ o < k.created, min 0 k.shift ≤ (k.cells o).recvWindow
  high : ∀ o < k.created, (k.cells o).recvWindow < 2 ^ 31
  sum : ∀ o < k.created, (k.cells o).recvWindow + (k.cells o).recvSize ≤
    max (defaultInitialWindowSize : Int) (k.config.windowSz + k.shift)
  waits : ∀ o < k.created, k.Waits o → 0 ≤ (k.cells o).recvWindow ∧
    (k.cells o).recvWindow + (k.cells o).recvSize ≤
      max (k.config.windowSz : Int) defaultInitialWindowSize
  acking : k.acking.Nodup
  begun : k.acking ≠ [] → k.settingsProcessed = true

/-! ## Consequences -/

section

variable {k : Session} (h : k.Credit)

include h

/-- What is held of the connection fits in 31 bits, as its window does. -/
theorem Credit.recvSize_lt : k.recvSize < 2 ^ 31 := by
  have h1 := h.conLow
  have h2 := h.conBound
  have h3 := k.config.connectionWindowSz_lt
  unfold defaultInitialWindowSize at h2
  omega

theorem Credit.recvWindow_lt : k.recvWindow < 2 ^ 31 := by
  have h2 := h.conBound
  have h3 := k.config.connectionWindowSz_lt
  unfold defaultInitialWindowSize at h2
  omega

/-- A stream holds no more than the connection. -/
theorem Credit.cell_recvSize_le {o : Nat} (ho : o < k.created) :
    (k.cells o).recvSize ≤ k.recvSize := by
  rw [h.held o ho, h.conHeld]
  exact heldBy_le_held o k.caps

end

/-! ## Steps that the receive windows do not see -/

/-- The receive windows stay as they are. -/
structure CreditFrame (k k' : Session) : Prop where
  config : k'.config = k.config
  recvWindow : k'.recvWindow = k.recvWindow
  recvSize : k'.recvSize = k.recvSize
  caps : k'.caps = k.caps
  created : k'.created = k.created
  settingsProcessed : k'.settingsProcessed = k.settingsProcessed
  acking : k'.acking = k.acking
  cellWindow : ∀ o, (k'.cells o).recvWindow = (k.cells o).recvWindow
  cellSize : ∀ o, (k'.cells o).recvSize = (k.cells o).recvSize
  con : k'.failed = false → k.failed = false ∧
    total Event.gotData k'.log = total Event.gotData k.log ∧
      total Event.conGrant k'.log = total Event.conGrant k.log

/-- The frame rule of the credit. -/
theorem Credit.frame {k k' : Session} (h : k.Credit) (f : CreditFrame k k') : k'.Credit := by
  have hshift : k'.shift = k.shift := by
    unfold shift
    rw [f.config]
  exact
    { conLow := f.recvWindow ▸ h.conLow
      conBound := by
        rw [f.recvWindow, f.recvSize, f.config]
        exact h.conBound
      conHeld := by
        rw [f.recvSize, f.caps]
        exact h.conHeld
      con := by
        intro hf
        obtain ⟨hf', h1, h2⟩ := f.con hf
        rw [f.recvWindow, h1, h2]
        exact h.con hf'
      held := by
        intro o ho
        rw [f.created] at ho
        rw [f.cellSize, f.caps]
        exact h.held o ho
      low := by
        intro o ho
        rw [f.created] at ho
        rw [f.cellWindow, hshift]
        exact h.low o ho
      high := by
        intro o ho
        rw [f.created] at ho
        rw [f.cellWindow]
        exact h.high o ho
      sum := by
        intro o ho
        rw [f.created] at ho
        rw [f.cellWindow, f.cellSize, f.config, hshift]
        exact h.sum o ho
      waits := by
        intro o ho hw
        rw [f.created] at ho
        unfold Waits at hw
        rw [f.settingsProcessed, f.acking] at hw
        rw [f.cellWindow, f.cellSize, f.config]
        exact h.waits o ho hw
      acking := f.acking ▸ h.acking
      begun := by
        rw [f.acking, f.settingsProcessed]
        exact h.begun }

theorem CreditFrame.refl (k : Session) : CreditFrame k k :=
  ⟨rfl, rfl, rfl, rfl, rfl, rfl, rfl, fun _ => rfl, fun _ => rfl, fun h => ⟨h, rfl, rfl⟩⟩

/-- Steps that the windows do not see compose. -/
theorem CreditFrame.trans {k k' k'' : Session} (f : CreditFrame k k') (g : CreditFrame k' k'') :
    CreditFrame k k'' where
  config := g.config.trans f.config
  recvWindow := g.recvWindow.trans f.recvWindow
  recvSize := g.recvSize.trans f.recvSize
  caps := g.caps.trans f.caps
  created := g.created.trans f.created
  settingsProcessed := g.settingsProcessed.trans f.settingsProcessed
  acking := g.acking.trans f.acking
  cellWindow := fun o => (g.cellWindow o).trans (f.cellWindow o)
  cellSize := fun o => (g.cellSize o).trans (f.cellSize o)
  con := by
    intro hf
    obtain ⟨h1, h2, h3⟩ := g.con hf
    obtain ⟨h4, h5, h6⟩ := f.con h1
    exact ⟨h4, h2.trans h5, h3.trans h6⟩

/-- An event that carries neither DATA nor a grant of the connection. -/
theorem CreditFrame.push (k : Session) {e : Event} (hd : e.gotData = 0) (hg : e.conGrant = 0) :
    CreditFrame k (k.push e) :=
  ⟨rfl, rfl, rfl, rfl, rfl, rfl, rfl, fun _ => rfl, fun _ => rfl, fun h =>
    ⟨h, by simp [Session.push, hd], by simp [Session.push, hg]⟩⟩

theorem CreditFrame.modify (k : Session) (o : Nat) {f : Cell → Cell}
    (hw : (f (k.cells o)).recvWindow = (k.cells o).recvWindow)
    (hs : (f (k.cells o)).recvSize = (k.cells o).recvSize) : CreditFrame k (k.modify o f) := by
  refine ⟨rfl, rfl, rfl, rfl, rfl, rfl, rfl, ?_, ?_, fun h => ⟨h, rfl, rfl⟩⟩
  all_goals
    intro p
    by_cases hp : p = o
  · subst hp
    simpa [Session.modify] using hw
  · simp [Session.modify, hp]
  · subst hp
    simpa [Session.modify] using hs
  · simp [Session.modify, hp]

/-- A stream that closes keeps its windows. -/
theorem CreditFrame.close (k : Session) (o : Nat) (r w : Bool) :
    CreditFrame k (k.close o r w) := by
  refine ⟨rfl, rfl, rfl, rfl, rfl, rfl, rfl, ?_, ?_, ?_⟩
  · intro p
    rw [close_cells]
    split
    · next hp =>
        rw [hp]
        rfl
    · rfl
  · intro p
    rw [close_cells]
    split
    · next hp =>
        rw [hp]
        rfl
    · rfl
  · intro hf
    refine ⟨hf, ?_, ?_⟩
    all_goals
      simp only [Session.close]
      split
    all_goals first
      | rfl
      | simp only [total_cons, Event.gotData, Event.conGrant, Nat.zero_add]

theorem CreditFrame.ioClose (k : Session) : CreditFrame k k.ioClose :=
  (CreditFrame.push k (e := .close) rfl rfl).trans
    ⟨rfl, rfl, rfl, rfl, rfl, rfl, rfl, fun _ => rfl, fun _ => rfl, fun h => ⟨h, rfl, rfl⟩⟩

/-- A change of other fields. -/
theorem CreditFrame.of_cells {k k' : Session} (h1 : k'.config = k.config)
    (h2 : k'.recvWindow = k.recvWindow) (h3 : k'.recvSize = k.recvSize) (h4 : k'.caps = k.caps)
    (h5 : k'.created = k.created) (h6 : k'.settingsProcessed = k.settingsProcessed)
    (h7 : k'.acking = k.acking) (h8 : k'.cells = k.cells) (h9 : k'.log = k.log)
    (h10 : k'.failed = k.failed) : CreditFrame k k' :=
  ⟨h1, h2, h3, h4, h5, h6, h7, fun o => by rw [h8], fun o => by rw [h8], fun hf =>
    ⟨h10 ▸ hf, by rw [h9], by rw [h9]⟩⟩

theorem CreditFrame.reset (k : Session) (o : Nat) (r : Reason) : CreditFrame k (k.reset o r) :=
  (CreditFrame.push k (e := .sent (some o) .resetSilent (.reset (k.cells o).id r)) rfl rfl).trans
    (CreditFrame.close _ o true true)

/-! ## Windows that are announced -/

/-- What the connection announces is added to its window and to its grants alike. -/
theorem Credit.topUp {k : Session} (h : k.Credit) : k.topUp.Credit := by
  unfold Session.topUp
  split
  · next ha =>
      unfold announces at ha
      have h1 := h.conLow
      have h2 := h.recvSize_lt
      exact
        { h with
          conLow := by
            show (0 : Int) ≤ k.config.connectionWindowSz - k.recvSize
            omega
          conBound := by
            show (k.config.connectionWindowSz : Int) - k.recvSize + k.recvSize ≤
              max (k.config.connectionWindowSz : Int) defaultInitialWindowSize
            omega
          con := by
            intro hf
            have := h.con hf
            simp only [total_cons, Event.gotData, Event.conGrant]
            push_cast
            omega }
  · exact h

/-- A window may be raised to the configured size. -/
theorem Credit.raised {k : Session} (h : k.Credit) {o : Nat} (hlt : o < k.created)
    (hle : (k.cells o).recvWindow ≤ k.config.windowSz - (k.cells o).recvSize) :
    (k.modify o fun s => { s with recvWindow := k.config.windowSz - s.recvSize }).Credit := by
  have hW := k.config.windowSz_lt
  have hcell : ∀ p, (k.modify o fun s => { s with
      recvWindow := k.config.windowSz - s.recvSize }).cells p =
        if p = o then { k.cells o with
          recvWindow := k.config.windowSz - (k.cells o).recvSize } else k.cells p := by
    intro p
    by_cases hp : p = o
    · subst hp
      simp [Session.modify]
    · simp [Session.modify, hp]
  have hlow := h.low o hlt
  exact
    { h with
      held := by
        intro p hp
        rw [hcell]
        split
        · next hpo =>
            subst hpo
            exact h.held p hp
        · exact h.held p hp
      low := by
        intro p hp
        rw [hcell]
        split
        · exact Int.le_trans hlow hle
        · exact h.low p hp
      high := by
        intro p hp
        rw [hcell]
        split
        · show (k.config.windowSz : Int) - _ < _
          omega
        · exact h.high p hp
      sum := by
        intro p hp
        rw [hcell]
        split
        · show (k.config.windowSz : Int) - (k.cells o).recvSize + (k.cells o).recvSize ≤
            max (defaultInitialWindowSize : Int) (k.config.windowSz + k.shift)
          unfold shift defaultInitialWindowSize
          omega
        · exact h.sum p hp
      waits := by
        intro p hp hw
        have hwp := h.waits p hp hw
        rw [hcell]
        split
        · next hpo =>
            subst hpo
            refine ⟨Int.le_trans hwp.1 hle, ?_⟩
            show (k.config.windowSz : Int) - (k.cells p).recvSize + (k.cells p).recvSize ≤
              max (k.config.windowSz : Int) defaultInitialWindowSize
            omega
        · exact hwp }

/-- The same of a stream. -/
theorem Credit.streamTopUp {k : Session} (h : k.Credit) {o : Nat} (hlt : o < k.created) :
    (k.streamTopUp o).Credit := by
  unfold Session.streamTopUp
  split
  · next ha =>
      have hann := ha.2
      unfold announces at hann
      refine (h.raised hlt (by omega)).frame ?_
      exact CreditFrame.push _ rfl rfl
  · exact h

/-! ## DATA -/

/-- DATA within both windows takes its flow-controlled length from each and adds it to what is
held. -/
theorem Credit.charge {k : Session} (h : k.Credit) {o : Nat} {d : Data}
    (hlt : o < k.created) (hw : (d.flowLen : Int) ≤ (k.cells o).recvWindow)
    (hc : (d.flowLen : Int) ≤ k.recvWindow) : (k.charge o d).Credit := by
  have hcell : ∀ p, (k.charge o d).cells p = if p = o then { k.cells o with
      recvWindow := (k.cells o).recvWindow - d.flowLen
      recvSize := (k.cells o).recvSize + d.flowLen } else k.cells p := by
    intro p
    by_cases hp : p = o
    · subst hp
      simp [Session.charge]
    · simp [Session.charge, hp]
  have hby : ∀ p, heldBy p (k.charge o d).caps =
      heldBy p k.caps + if p = o then d.flowLen else 0 := by
    intro p
    show heldBy p (k.caps ++ [⟨o, d.flowLen⟩]) = _
    rw [heldBy_append]
    simp [heldBy, eq_comm]
  have hwin : (k.charge o d).recvWindow = k.recvWindow - d.flowLen := rfl
  have hsize : (k.charge o d).recvSize = k.recvSize + d.flowLen := rfl
  have hshift : (k.charge o d).shift = k.shift := rfl
  exact
    { conLow := by
        rw [hwin]
        omega
      conBound := by
        have := h.conBound
        rw [hwin, hsize]
        push_cast
        show _ ≤ max (k.config.connectionWindowSz : Int) defaultInitialWindowSize
        omega
      conHeld := by
        rw [hsize, h.conHeld]
        show _ = NtexH2.held (k.caps ++ [⟨o, d.flowLen⟩])
        rw [held_append]
        simp [NtexH2.held]
      con := by
        intro hf
        have := h.con hf
        have hd : total Event.gotData (k.charge o d).log = d.flowLen + total Event.gotData k.log :=
          rfl
        have hg : total Event.conGrant (k.charge o d).log = total Event.conGrant k.log := by
          simp only [Session.charge, total_cons, Event.conGrant, Nat.zero_add]
        rw [hwin, hd, hg]
        push_cast
        omega
      held := by
        intro p hp
        rw [hcell, hby]
        have := h.held p hp
        split
        · next hpo =>
            subst hpo
            show (k.cells p).recvSize + d.flowLen = _
            omega
        · omega
      low := by
        intro p hp
        rw [hcell, hshift]
        split
        · show _ ≤ (k.cells o).recvWindow - d.flowLen
          omega
        · exact h.low p hp
      high := by
        intro p hp
        have := h.high p hp
        rw [hcell]
        split
        · next hpo =>
            subst hpo
            show (k.cells p).recvWindow - d.flowLen < _
            omega
        · exact this
      sum := by
        intro p hp
        have := h.sum p hp
        rw [hcell, hshift]
        show _ ≤ max (defaultInitialWindowSize : Int) (k.config.windowSz + k.shift)
        split
        · next hpo =>
            subst hpo
            push_cast
            omega
        · exact this
      waits := by
        intro p hp hwp
        have := h.waits p hp hwp
        rw [hcell]
        show _ ∧ _ ≤ max (k.config.windowSz : Int) defaultInitialWindowSize
        split
        · next hpo =>
            subst hpo
            push_cast
            omega
        · exact this
      acking := h.acking
      begun := h.begun }

/-- DATA for a stream that is gone passes through the connection's window: it is taken and given
back. -/
theorem Credit.stray {k : Session} (h : k.Credit) {obj : Option Nat} {d : Data}
    (hc : (d.flowLen : Int) ≤ k.recvWindow) : (k.stray obj d).Credit := by
  have hmid : Credit { k with
      recvWindow := k.recvWindow - d.flowLen
      log := .received obj (.data d) :: k.log } :=
    { h with
      conLow := by
        show 0 ≤ k.recvWindow - d.flowLen
        omega
      conBound := by
        have := h.conBound
        show k.recvWindow - d.flowLen + k.recvSize ≤
          max (k.config.connectionWindowSz : Int) defaultInitialWindowSize
        omega
      con := by
        intro hf
        have := h.con hf
        simp only [total_cons, Event.gotData, Event.conGrant, Nat.zero_add]
        push_cast
        omega }
  exact hmid.topUp

/-! ## Octets that are released -/

theorem streamTopUp_recvSize (k : Session) (o n : Nat) :
    { k.streamTopUp o with recvSize := n } = { k with recvSize := n }.streamTopUp o := by
  unfold Session.streamTopUp
  split <;> rfl

theorem streamTopUp_size (k : Session) (o : Nat) : (k.streamTopUp o).recvSize = k.recvSize := by
  unfold Session.streamTopUp
  split <;> rfl

/-- The counters after octets are released, before the windows are announced. -/
def released (k : Session) (o n : Nat) (caps : List Capacity) : Session :=
  { k with caps := caps, recvSize := k.recvSize - n }.modify o fun s =>
    { s with recvSize := s.recvSize - n }

/-- A release takes the octets from both sizes, then tops up the stream and the connection. -/
theorem release_eq (k : Session) (o n : Nat) (caps : List Capacity) :
    k.release o n caps = ((k.released o n caps).streamTopUp o).topUp := by
  unfold Session.release
  dsimp only
  rw [streamTopUp_size, streamTopUp_recvSize]
  rfl

theorem released_cells (k : Session) (o n : Nat) (caps : List Capacity) (p : Nat) :
    (k.released o n caps).cells p = if p = o then { k.cells o with
      recvSize := (k.cells o).recvSize - n } else k.cells p := by
  by_cases hp : p = o
  · subst hp
    simp [released, Session.modify]
  · simp [released, Session.modify, hp]

/-- Octets move from the capacities to the sizes: both sides of the sums go down by as many. -/
theorem Credit.released {k : Session} (h : k.Credit) {o n : Nat} {caps : List Capacity}
    (hcaps : ∀ p, heldBy p caps + (if p = o then n else 0) = heldBy p k.caps)
    (hheld : NtexH2.held caps + n = NtexH2.held k.caps) : (k.released o n caps).Credit := by
  have hcon := h.conHeld
  have hbound := h.conBound
  have hsize : (k.released o n caps).recvSize = k.recvSize - n := rfl
  exact
    { conLow := h.conLow
      conBound := by
        rw [hsize]
        show k.recvWindow + _ ≤ max (k.config.connectionWindowSz : Int) defaultInitialWindowSize
        omega
      conHeld := by
        show k.recvSize - n = NtexH2.held caps
        omega
      con := h.con
      held := by
        intro p hp
        have h1 := h.held p hp
        have h2 := hcaps p
        rw [released_cells]
        show _ = heldBy p caps
        by_cases hpo : p = o
        · subst hpo
          simp only [if_true] at h2 ⊢
          omega
        · simp only [hpo, if_false] at h2 ⊢
          omega
      low := by
        intro p hp
        have := h.low p hp
        rw [released_cells]
        split
        · next hpo =>
            subst hpo
            exact this
        · exact this
      high := by
        intro p hp
        have := h.high p hp
        rw [released_cells]
        split
        · next hpo =>
            subst hpo
            exact this
        · exact this
      sum := by
        intro p hp
        have := h.sum p hp
        rw [released_cells]
        show _ ≤ max (defaultInitialWindowSize : Int) (k.config.windowSz + k.shift)
        split
        · next hpo =>
            subst hpo
            show (k.cells p).recvWindow + (((k.cells p).recvSize - n : Nat) : Int) ≤ _
            omega
        · exact this
      waits := by
        intro p hp hw
        have := h.waits p hp hw
        rw [released_cells]
        show _ ∧ _ ≤ max (k.config.windowSz : Int) defaultInitialWindowSize
        split
        · next hpo =>
            subst hpo
            show 0 ≤ (k.cells p).recvWindow ∧
              (k.cells p).recvWindow + (((k.cells p).recvSize - n : Nat) : Int) ≤ _
            omega
        · exact this
      acking := h.acking
      begun := h.begun }

/-- A capacity that is consumed gives back what it held, no more and no less. -/
theorem Credit.release {k : Session} (h : k.Credit) {o n : Nat} {caps : List Capacity}
    (hlt : o < k.created)
    (hcaps : ∀ p, heldBy p caps + (if p = o then n else 0) = heldBy p k.caps)
    (hheld : NtexH2.held caps + n = NtexH2.held k.caps) : (k.release o n caps).Credit := by
  rw [release_eq]
  exact ((h.released hcaps hheld).streamTopUp hlt).topUp

/-! ## New streams -/

/-- A new stream starts with the window that its peer knows of, and holds nothing. -/
theorem Credit.insert {k : Session} (h : k.Credit) (ht : k.Table) {s : Cell}
    (hw : s.recvWindow = if k.settingsProcessed then (k.config.windowSz : Int)
      else defaultInitialWindowSize) (hsz : s.recvSize = 0) : (k.insert s).Credit := by
  have hW := k.config.windowSz_lt
  have hcell : ∀ p, (k.insert s).cells p = if p = k.created then s else k.cells p := by
    intro p
    by_cases hp : p = k.created
    · subst hp
      simp [Session.insert]
    · simp [Session.insert, hp]
  have hrange : min 0 k.shift ≤ s.recvWindow ∧ s.recvWindow < 2 ^ 31 ∧
      s.recvWindow ≤ max (defaultInitialWindowSize : Int) (k.config.windowSz + k.shift) := by
    rw [hw]
    unfold shift defaultInitialWindowSize
    split <;> omega
  have hwait : (k.insert s).Waits k.created → 0 ≤ s.recvWindow ∧
      s.recvWindow + s.recvSize ≤ max (k.config.windowSz : Int) defaultInitialWindowSize := by
    rintro (hp | hp)
    · rw [hw, hsz, show k.settingsProcessed = false from hp]
      unfold defaultInitialWindowSize
      simp only [Bool.false_eq_true, if_false]
      omega
    · exact absurd (ht.acking _ hp) (by omega)
  have hold : ∀ p, p < (k.insert s).created → p ≠ k.created → p < k.created := by
    intro p hp hne
    have : p < k.created + 1 := hp
    omega
  exact
    { conLow := h.conLow
      conBound := h.conBound
      conHeld := h.conHeld
      con := h.con
      held := by
        intro p hp
        rw [hcell]
        by_cases hpc : p = k.created
        · simp only [hpc, if_true]
          rw [hsz]
          exact (heldBy_eq_zero (Nat.le_refl _) ht.caps).symm
        · simp only [hpc, if_false]
          exact h.held p (hold p hp hpc)
      low := by
        intro p hp
        rw [hcell]
        by_cases hpc : p = k.created
        · simp only [hpc, if_true]
          exact hrange.1
        · simp only [hpc, if_false]
          exact h.low p (hold p hp hpc)
      high := by
        intro p hp
        rw [hcell]
        by_cases hpc : p = k.created
        · simp only [hpc, if_true]
          exact hrange.2.1
        · simp only [hpc, if_false]
          exact h.high p (hold p hp hpc)
      sum := by
        intro p hp
        rw [hcell]
        by_cases hpc : p = k.created
        · simp only [hpc, if_true, hsz]
          rw [show ((0 : Nat) : Int) = 0 from rfl, Int.add_zero]
          exact hrange.2.2
        · simp only [hpc, if_false]
          exact h.sum p (hold p hp hpc)
      waits := by
        intro p hp hwp
        rw [hcell]
        by_cases hpc : p = k.created
        · simp only [hpc, if_true]
          subst hpc
          exact hwait hwp
        · simp only [hpc, if_false]
          exact h.waits p (hold p hp hpc) hwp
      acking := h.acking
      begun := h.begun }

/-! ## The ack of the settings -/

/-- The ack arrives: new streams take the configured window from here on, the old ones wait in
`acking`. -/
theorem Credit.ackBegin {k : Session} (h : k.Credit) (ht : k.Table) {s : Settings}
    (hp : k.settingsProcessed = false) : (k.ackBegin s).Credit := by
  have hf := h.frame (CreditFrame.push k (e := .received none (.settings s)) rfl rfl)
  exact
    { hf with
      waits := fun o ho _ => h.waits o ho (.inl hp)
      acking := ht.nodup
      begun := fun _ => rfl }

/-- The window of a stream moves by the difference that the ack brought into force. -/
theorem Credit.shifted {k : Session} (h : k.Credit) {o : Nat} {rest : List Nat}
    (hlt : o < k.created) (ha : k.acking = o :: rest)
    (hn : (k.cells o).recvWindow + k.shift < 2 ^ 31) :
    Credit ({ k with acking := rest }.modify o fun s =>
      { s with recvWindow := s.recvWindow + k.shift }) := by
  have hcell : ∀ p, ({ k with acking := rest }.modify o fun s =>
      { s with recvWindow := s.recvWindow + k.shift }).cells p =
        if p = o then { k.cells o with recvWindow := (k.cells o).recvWindow + k.shift }
        else k.cells p := by
    intro p
    by_cases hp : p = o
    · subst hp
      simp [Session.modify]
    · simp [Session.modify, hp]
  have hnd : (o :: rest).Nodup := ha ▸ h.acking
  have hbegun : k.settingsProcessed = true := h.begun (by rw [ha]; exact List.cons_ne_nil o rest)
  have hwo := h.waits o hlt (.inr (ha ▸ List.mem_cons_self))
  exact
    { conLow := h.conLow
      conBound := h.conBound
      conHeld := h.conHeld
      con := h.con
      held := by
        intro p hp
        have := h.held p hp
        rw [hcell]
        split
        · next hpo =>
            subst hpo
            exact this
        · exact this
      low := by
        intro p hp
        rw [hcell]
        show min 0 k.shift ≤ _
        split
        · show _ ≤ (k.cells o).recvWindow + k.shift
          omega
        · exact h.low p hp
      high := by
        intro p hp
        rw [hcell]
        split
        · exact hn
        · exact h.high p hp
      sum := by
        intro p hp
        rw [hcell]
        show _ ≤ max (defaultInitialWindowSize : Int) (k.config.windowSz + k.shift)
        split
        · show (k.cells o).recvWindow + k.shift + (k.cells o).recvSize ≤ _
          have h2 := hwo.2
          unfold shift defaultInitialWindowSize at *
          omega
        · exact h.sum p hp
      waits := by
        intro p hp hw
        have hpo : p ≠ o := by
          rintro rfl
          rcases hw with hw | hw
          · rw [show k.settingsProcessed = false from hw] at hbegun
            cases hbegun
          · exact (List.nodup_cons.mp hnd).1 hw
        rw [hcell]
        simp only [hpo, if_false]
        exact h.waits p hp (hw.imp_right fun hm => ha ▸ List.mem_cons_of_mem o hm)
      acking := (List.nodup_cons.mp hnd).2
      begun := fun _ => hbegun }

/-- A stream whose window would overflow keeps it and is failed. -/
theorem Credit.ackRest {k : Session} (h : k.Credit) {o : Nat} {rest l : List Nat}
    (ha : k.acking = o :: rest) : Credit { k with acking := rest, ackErrors := l } :=
  { h with
    waits := fun p hp hw =>
      h.waits p hp (hw.imp_right fun hm => ha ▸ List.mem_cons_of_mem o hm)
    acking := (List.nodup_cons.mp (ha ▸ h.acking)).2
    begun := fun _ => h.begun (by rw [ha]; exact List.cons_ne_nil o rest) }

/-- One stream of the list is settled, either way. -/
theorem Credit.ackOne {k : Session} (h : k.Credit) (ht : k.Table) {o : Nat} {rest : List Nat}
    (ha : k.acking = o :: rest) : (k.ackOne o rest).Credit := by
  have hlt : o < k.created := ht.acking o (ha ▸ List.mem_cons_self)
  unfold Session.ackOne
  split
  · exact h.ackRest ha
  · split
    · exact h.ackRest ha
    · next hn => exact (h.shifted hlt ha (by omega)).streamTopUp hlt

/-! ## Every step -/

/-- What a step can do to the receive windows. -/
inductive CreditStep (G : Guard) (k k' : Session) : Prop where
  | frame (f : CreditFrame k k')
  | insert {s : Cell} (hw : s.recvWindow = if k.settingsProcessed then (k.config.windowSz : Int)
      else defaultInitialWindowSize) (hsz : s.recvSize = 0) (f : CreditFrame (k.insert s) k')
  | charge {o : Nat} {d : Data} (ho : o < k.created)
      (hw : (d.flowLen : Int) ≤ (k.cells o).recvWindow) (hc : (d.flowLen : Int) ≤ k.recvWindow)
      (h : k' = k.charge o d)
  | stray {obj : Option Nat} {d : Data} (hc : (d.flowLen : Int) ≤ k.recvWindow)
      (f : CreditFrame (k.stray obj d) k')
  | release {o n : Nat} {caps : List Capacity} (ho : o < k.created)
      (hcaps : ∀ p, heldBy p caps + (if p = o then n else 0) = heldBy p k.caps)
      (hheld : NtexH2.held caps + n = NtexH2.held k.caps) (h : k' = k.release o n caps)
  | caps {caps : List Capacity} (hcaps : ∀ p, heldBy p caps = heldBy p k.caps)
      (hheld : NtexH2.held caps = NtexH2.held k.caps) (h : k' = { k with caps := caps })
  | ackBegin {s : Settings} (hp : k.settingsProcessed = false) (h : k' = k.ackBegin s)
  | ackOne {o : Nat} {rest : List Nat} (ha : k.acking = o :: rest) (hG : G.ack (k.cells o))
      (h : k' = k.ackOne o rest)

/-- Every step is one of those the receive windows see, or a frame. -/
theorem Step.credit_cases {G : Guard} {k k' : Session} (ht : k.Table)
    (hs : Step G k k') : CreditStep G k k' := by
  have hother : ∀ {k k' : Session}, k'.config = k.config → k'.recvWindow = k.recvWindow →
      k'.recvSize = k.recvSize → k'.caps = k.caps → k'.created = k.created →
      k'.settingsProcessed = k.settingsProcessed → k'.acking = k.acking → k'.cells = k.cells →
      k'.log = k.log → k'.failed = k.failed → CreditStep G k k' :=
    fun h1 h2 h3 h4 h5 h6 h7 h8 h9 h10 =>
      .frame (CreditFrame.of_cells h1 h2 h3 h4 h5 h6 h7 h8 h9 h10)
  cases hs with
  | quiet he => exact .frame (CreditFrame.push k he.silent.gotData he.silent.conGrant)
  | raise hs hid => exact hother rfl rfl rfl rfl rfl rfl rfl rfl rfl rfl
  | @accept id hs hd hid hodd hmax =>
      exact .insert (s := k.newCell id) rfl rfl
        (CreditFrame.of_cells rfl rfl rfl rfl rfl rfl rfl rfl rfl rfl)
  | @openLocal hd reserved hs hf hg hdr hid hmax hr =>
      refine .insert (s := k.openCell hd) rfl rfl ((CreditFrame.push _
        (e := .sent (some k.created) .sendHeaders (.headers hd)) rfl rfl).trans ?_)
      exact CreditFrame.of_cells rfl rfl rfl rfl rfl rfl rfl rfl rfl rfl
  | close ho hsr => exact .frame (CreditFrame.close k _ _ _)
  | remoteReset ho =>
      exact .frame ((CreditFrame.push k rfl rfl).trans (CreditFrame.close _ _ true true))
  | recvPayload ho hi => exact .frame (CreditFrame.modify k _ rfl rfl)
  | interim ho hi hid hend => exact .frame (CreditFrame.push k rfl rfl)
  | @respond o hd ho hi hid =>
      refine .frame (CreditFrame.trans ?_ (CreditFrame.push _ rfl rfl))
      split
      · exact CreditFrame.close k o false true
      · exact CreditFrame.modify k o rfl rfl
  | @chunk o d ho hp hid hw hc hm =>
      refine .frame (((CreditFrame.push k (e := .sent (some o) .sendPages (.data d)) rfl
        rfl).trans (CreditFrame.close _ o false d.endStream)).trans ?_)
      refine (CreditFrame.modify _ o (f := fun s =>
        { s with sendWindow := s.sendWindow - d.flowLen }) rfl rfl).trans ?_
      exact CreditFrame.of_cells rfl rfl rfl rfl rfl rfl rfl rfl rfl rfl
  | finish ho hp =>
      exact .frame ((CreditFrame.close k _ false true).trans (CreditFrame.push _ rfl rfl))
  | trailers ho hp hid hend =>
      exact .frame ((CreditFrame.push k rfl rfl).trans (CreditFrame.close _ _ false true))
  | reset ho => exact .frame (CreditFrame.reset k _ _)
  | charge ho hid hw hc => exact .charge (ht.bound _ ho) hw hc rfl
  | stray hid hc => exact .stray hc (CreditFrame.refl _)
  | @overrun o d ho hid hw hc =>
      exact .stray hc ((CreditFrame.push _ (e := .streamFailed o .recvWindowExceeded) rfl
        rfl).trans (CreditFrame.reset _ o _))
  | release ho hcaps hheld hall => exact .release ho hcaps hheld rfl
  | caps hcaps hheld hall => exact .caps hcaps hheld rfl
  | conCredit hn =>
      exact .frame ((CreditFrame.push k (e := .received none (.windowUpdate 0 _)) rfl rfl).trans
        (CreditFrame.of_cells rfl rfl rfl rfl rfl rfl rfl rfl rfl rfl))
  | credit ho hid hn =>
      exact .frame ((CreditFrame.push k rfl rfl).trans (CreditFrame.modify _ _ rfl rfl))
  | lateCredit h0 hid => exact .frame (CreditFrame.push k rfl rfl)
  | badCredit ho hid =>
      exact .frame (((CreditFrame.push k rfl rfl).trans (CreditFrame.push _ rfl rfl)).trans
        (CreditFrame.reset _ _ _))
  | @settings s hack hw hn =>
      refine .frame ⟨rfl, rfl, rfl, rfl, rfl, rfl, rfl, ?_, ?_, fun hf => ⟨hf, ?_, ?_⟩⟩
      · intro o
        simp only [Session.settings]
        split <;> rfl
      · intro o
        simp only [Session.settings]
        split <;> rfl
      · simp only [Session.settings, total_cons, Event.gotData, Nat.zero_add]
      · simp only [Session.settings, total_cons, Event.conGrant, Nat.zero_add]
  | ackBegin hack hp => exact .ackBegin hp rfl
  | ackOne ha hG => exact .ackOne ha hG rfl
  | @ackFailed o e l ho hl =>
      have hrest : CreditFrame k { k with ackErrors := l } :=
        CreditFrame.of_cells rfl rfl rfl rfl rfl rfl rfl rfl rfl rfl
      exact .frame (((hrest.trans (CreditFrame.push _ (e := .streamFailed o e) rfl rfl)).trans
        (CreditFrame.close _ o true true)).trans (CreditFrame.push _ rfl rfl))
  | fail he =>
      refine .frame ⟨rfl, rfl, rfl, rfl, rfl, rfl, rfl, ?_, ?_, fun hf => by cases hf⟩
      · intro o
        simp only [Session.fail]
        split <;> rfl
      · intro o
        simp only [Session.fail]
        split <;> rfl
  | shut _ => exact .frame (CreditFrame.ioClose k)
  | drain =>
      have hd : CreditFrame k { k with draining := true } :=
        CreditFrame.of_cells rfl rfl rfl rfl rfl rfl rfl rfl rfl rfl
      unfold Session.drain
      split
      · exact .frame (hd.trans (CreditFrame.ioClose _))
      · exact .frame hd
  | goneAway => exact hother rfl rfl rfl rfl rfl rfl rfl rfl rfl rfl
  | reserve hs hf hg hd => exact hother rfl rfl rfl rfl rfl rfl rfl rfl rfl rfl
  | unreserve hs hr =>
      have hd : CreditFrame k { k with
          activeLocal := k.activeLocal - 1
          reserved := k.reserved - 1
          reservations := k.reservations - 1 } :=
        CreditFrame.of_cells rfl rfl rfl rfl rfl rfl rfl rfl rfl rfl
      unfold Session.unreserve
      dsimp only
      split
      · exact .frame (hd.trans (CreditFrame.ioClose _))
      · exact .frame hd
  | senders hl => exact hother rfl rfl rfl rfl rfl rfl rfl rfl rfl rfl
  | reorder hl => exact hother rfl rfl rfl rfl rfl rfl rfl rfl rfl rfl

/-- Every step keeps the credit. -/
theorem Credit.step {G : Guard} {k k' : Session} (h : k.Credit) (ht : k.Table)
    (hs : Step G k k') : k'.Credit := by
  cases hs.credit_cases ht with
  | frame f => exact h.frame f
  | insert hw hsz f => exact (h.insert ht hw hsz).frame f
  | charge ho hw hc hk => exact hk ▸ h.charge ho hw hc
  | stray hc f => exact (h.stray hc).frame f
  | release ho hcaps hheld hk => exact hk ▸ h.release ho hcaps hheld
  | caps hcaps hheld hk =>
      subst hk
      exact
        { h with
          conHeld := h.conHeld.trans hheld.symm
          held := fun p hp => (h.held p hp).trans (hcaps p).symm }
  | ackBegin hp hk => exact hk ▸ h.ackBegin ht hp
  | ackOne ha hG hk => exact hk ▸ h.ackOne ht ha

/-! ## The configured window -/

/-- No stream allows more octets than the configured window or the default one. -/
def Bounded (k : Session) : Prop := ∀ o < k.created,
  (k.cells o).recvWindow + (k.cells o).recvSize ≤
    max (k.config.windowSz : Int) defaultInitialWindowSize

/-- The ack keeps the window of a stream within bounds: the configured window is not larger
than the default one, or the default one has not been raised, or the window overflows and the
stream fails instead. -/
def Keeps (windowSz : Nat) (s : Cell) : Prop :=
  s.recv = .closed ∨ windowSz ≤ defaultInitialWindowSize ∨
    s.recvWindow + s.recvSize ≤ defaultInitialWindowSize ∨
      2 ^ 31 ≤ s.recvWindow + ((windowSz : Int) - defaultInitialWindowSize)

/-- Runs whose acks keep the windows within bounds. -/
def keeping (windowSz : Nat) : Guard := ⟨Keeps windowSz, True⟩

/-- The frame rule of the bound. -/
theorem Bounded.frame {k k' : Session} (h : k.Bounded) (f : CreditFrame k k') : k'.Bounded := by
  intro o ho
  rw [f.created] at ho
  rw [f.cellWindow, f.cellSize, f.config]
  exact h o ho

/-- A top-up of the connection leaves the windows of its streams. -/
theorem Bounded.topUp {k : Session} (h : k.Bounded) : k.topUp.Bounded := by
  unfold Session.topUp
  split
  · exact h
  · exact h

theorem Bounded.streamTopUp {k : Session} (h : k.Bounded) (o : Nat) :
    (k.streamTopUp o).Bounded := by
  unfold Session.streamTopUp
  split
  · intro p hp
    by_cases hpo : p = o
    · subst hpo
      simp only [Session.push, Session.modify, Function.update_self]
      omega
    · simp only [Session.push, Session.modify, Function.update_of_ne hpo]
      exact h p hp
  · exact h

/-- Every step keeps the bound, as long as the ack carries the window that is configured. -/
theorem Bounded.step {k k' : Session} (h : k.Bounded) (hc : k.Credit) (ht : k.Table)
    (hs : Step (keeping k.config.windowSz) k k') : k'.Bounded := by
  cases hs.credit_cases ht with
  | frame f => exact h.frame f
  | @insert s hw hsz f =>
      refine Bounded.frame ?_ f
      intro p hp
      have hp' : p < k.created + 1 := hp
      by_cases hpc : p = k.created
      · subst hpc
        simp only [Session.insert, Function.update_self, hw, hsz]
        split <;> omega
      · simp only [Session.insert, Function.update_of_ne hpc]
        exact h p (by omega)
  | @charge o d ho hw hc' hk =>
      subst hk
      intro p hp
      have := h p hp
      by_cases hpo : p = o
      · subst hpo
        simp only [Session.charge, Function.update_self]
        omega
      · simp only [Session.charge, Function.update_of_ne hpo]
        exact this
  | stray hc' f =>
      refine Bounded.frame ?_ f
      exact Bounded.topUp h
  | @release o n caps ho hcaps hheld hk =>
      subst hk
      rw [release_eq]
      refine Bounded.topUp (Bounded.streamTopUp ?_ o)
      intro p hp
      have := h p hp
      rw [released_cells]
      split
      · next hpo =>
          subst hpo
          show (k.cells p).recvWindow + (((k.cells p).recvSize - n : Nat) : Int) ≤
            max (k.config.windowSz : Int) defaultInitialWindowSize
          omega
      · exact this
  | caps hcaps hheld hk => exact hk ▸ h
  | ackBegin hp hk => exact hk ▸ h
  | @ackOne o rest ha hG hk =>
      subst hk
      have hlt : o < k.created := ht.acking o (ha ▸ List.mem_cons_self)
      obtain ⟨hw0, hwait⟩ := hc.waits o hlt (.inr (ha ▸ List.mem_cons_self))
      unfold Session.ackOne
      split
      · exact h
      · next hno =>
          split
          · exact h
          · next hin =>
              apply Bounded.streamTopUp
              intro p hp
              by_cases hpo : p = o
              · subst hpo
                simp only [Session.modify, Function.update_self]
                have hcl : (k.cells p).recv ≠ .closed := fun hr => hno (.inl hr)
                rcases hG with hr | hsmall | hle | hover
                · exact absurd hr hcl
                all_goals
                  unfold shift defaultInitialWindowSize at *
                  omega
              · simp only [Session.modify, Function.update_of_ne hpo]
                exact h p hp

end Session

end NtexH2
