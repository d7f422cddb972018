/-
  Session/Slots.lean --- requests that wait for a stream slot.

  A client has as many slots as the peer allows streams.  A request that finds no
  slot waits in a queue; a slot that gets free is announced to a waiter, which looks
  again when it runs.  No wake-up is lost if, as long as somebody waits without a
  signal, the free slots are no more than the signals on their way.
-/
import NtexH2.Connection.Dispatcher

set_option autoImplicit false

namespace NtexH2

open Connection (wakeLoop)

/-- The slots of a client: the limit of the peer, the slots in use, the queue, the channels
of those who wait, the number of waiters so far, and how often the owner of the connection
was told that its capacity has changed. -/
structure Slots where
  limit : Option Nat
  active : Nat
  queue : List Nat
  waiters : List (Nat × Signal)
  count : Nat
  calls : Nat

/-- The waiters that have been signalled and have not run. -/
def signalled (ws : List (Nat × Signal)) : Nat := ws.countP (·.2 == .sent)

namespace Slots

/-- Somebody waits without a signal. -/
def Waits (s : Slots) : Prop := ∃ t, (t, Signal.pending) ∈ s.waiters

/-- Nobody waits in vain: there is a limit, and the free slots are no more than the signals. -/
def Served (s : Slots) : Prop :=
  s.Waits → ∃ max, s.limit = some max ∧ max - s.active ≤ signalled s.waiters

/-- The queue and the channels fit together. -/
structure Tidy (s : Slots) : Prop where
  keys : (s.waiters.map (·.1)).Nodup
  old : ∀ w ∈ s.waiters, w.1 < s.count
  queueOld : ∀ t ∈ s.queue, t < s.count
  nodup : s.queue.Nodup
  pending : ∀ t, (t, .pending) ∈ s.waiters → t ∈ s.queue
  live : ∀ t x, t ∈ s.queue → (t, x) ∈ s.waiters → x = .pending

/-! ## The operations -/

/-- Signals for `n` waiters. -/
def wake (s : Slots) (n : Nat) : Slots :=
  { s with
    queue := (wakeLoop n s.queue s.waiters).1
    waiters := (wakeLoop n s.queue s.waiters).2 }

/-- A slot gets free. -/
def release (s : Slots) : Slots :=
  match s.limit with
  | some max => { s with active := s.active - 1 }.wake (max - (s.active - 1))
  | none => { s with active := s.active - 1 }

/-- The owner is told. -/
def notify (s : Slots) : Slots := { s with calls := s.calls + 1 }

/-- A slot is taken. -/
def take (s : Slots) : Slots := { s with active := s.active + 1 }

/-- The whole queue finds the same signal. -/
def resolve (s : Slots) (x : Signal) : Slots :=
  { s with
    queue := []
    waiters := s.waiters.map fun w => if w.1 ∈ s.queue then (w.1, x) else w }

/-- A new limit; everybody looks again. -/
def setLimit (s : Slots) (limit : Option Nat) : Slots := { s with limit := limit }.resolve .sent

/-- A waiter more. -/
def enqueue (s : Slots) : Slots :=
  { s with
    queue := s.queue ++ [s.count]
    waiters := s.waiters ++ [(s.count, .pending)]
    count := s.count + 1 }

/-- A waiter less. -/
def leave (s : Slots) (t : Nat) : Slots := { s with waiters := s.waiters.filter (·.1 != t) }

/-- There is a free slot. -/
def Free (s : Slots) : Prop := ∀ max, s.limit = some max → s.active < max

end Slots

/-! ## Signals -/

section

variable {ws : List (Nat × Signal)} {t : Nat}

/-- The channel `t` gets the signal. -/
def mark (t : Nat) (ws : List (Nat × Signal)) : List (Nat × Signal) :=
  ws.map fun w => if w.1 = t then (t, .sent) else w

theorem keys_mark (t : Nat) (ws : List (Nat × Signal)) : (mark t ws).map (·.1) = ws.map (·.1) := by
  unfold mark
  rw [List.map_map]
  apply List.map_congr_left
  intro w _
  show (if w.1 = t then (t, Signal.sent) else w).1 = w.1
  split
  · next h => exact h.symm
  · rfl

theorem mem_mark_of_ne {p : Nat} {x : Signal} (hp : p ≠ t) : (p, x) ∈ mark t ws ↔ (p, x) ∈ ws := by
  unfold mark
  constructor
  · intro h
    obtain ⟨w, hw, he⟩ := List.mem_map.mp h
    split at he
    · exact absurd (congrArg Prod.fst he).symm hp
    · exact he ▸ hw
  · intro h
    refine List.mem_map.mpr ⟨(p, x), h, ?_⟩
    rw [if_neg hp]

theorem mem_mark_self {x : Signal} (h : (t, x) ∈ mark t ws) : x = .sent := by
  unfold mark at h
  obtain ⟨w, -, he⟩ := List.mem_map.mp h
  split at he
  · exact (congrArg Prod.snd he).symm
  · next hne => exact absurd (congrArg Prod.fst he) hne

theorem mark_of_not_mem (h : t ∉ ws.map (·.1)) : mark t ws = ws := by
  have hid : ∀ w ∈ ws, (if w.1 = t then (t, Signal.sent) else w) = w := by
    intro w hw
    rw [if_neg]
    intro he
    apply h
    rw [← he]
    exact List.mem_map_of_mem (f := (·.1)) hw
  unfold mark
  rw [List.map_congr_left hid, List.map_id']

/-- A channel that waits is signalled: one signal more is on its way. -/
theorem signalled_mark (hk : (ws.map (·.1)).Nodup) (h : (t, .pending) ∈ ws) :
    signalled (mark t ws) = signalled ws + 1 := by
  induction ws with
  | nil => cases h
  | cons w ws ih =>
      obtain ⟨hw, hk'⟩ := List.nodup_cons.mp hk
      rcases List.mem_cons.mp h with rfl | hmem
      · have htail : mark t ws = ws := mark_of_not_mem hw
        have hhead : mark t ((t, .pending) :: ws) = (t, .sent) :: mark t ws := by
          simp [mark]
        rw [hhead, htail]
        simp [signalled]
      · have hne : w.1 ≠ t := by
          intro he
          apply hw
          show w.1 ∈ _
          rw [he]
          exact List.mem_map_of_mem (f := (·.1)) hmem
        have hhead : mark t (w :: ws) = w :: mark t ws := by
          simp [mark, hne]
        have := ih hk' hmem
        rw [hhead]
        unfold signalled at this ⊢
        rw [List.countP_cons, List.countP_cons, this]
        omega

end

/-! ## The queue -/

/-- What `wake_waiters` leaves: the channels are the same, the rest of the queue is a part of
the old one, and if somebody still waits then all the signals were used. -/
theorem wakeLoop_spec : ∀ (queue : List Nat) (n : Nat) (ws : List (Nat × Signal)),
    (ws.map (·.1)).Nodup → queue.Nodup → (∀ t, (t, .pending) ∈ ws → t ∈ queue) →
    (∀ t x, t ∈ queue → (t, x) ∈ ws → x = .pending) →
    (wakeLoop n queue ws).2.map (·.1) = ws.map (·.1) ∧
    (wakeLoop n queue ws).1.Sublist queue ∧
    (∀ t, (t, .pending) ∈ (wakeLoop n queue ws).2 → t ∈ (wakeLoop n queue ws).1) ∧
    (∀ t x, t ∈ (wakeLoop n queue ws).1 → (t, x) ∈ (wakeLoop n queue ws).2 → x = .pending) ∧
    (∀ t, (t, .pending) ∈ (wakeLoop n queue ws).2 → (t, .pending) ∈ ws) ∧
    signalled ws ≤ signalled (wakeLoop n queue ws).2 ∧
    ((wakeLoop n queue ws).1 ≠ [] → signalled (wakeLoop n queue ws).2 = signalled ws + n)
  | [], n, ws, hk, hq, hp, hl => by
      refine ⟨?_, ?_, ?_, ?_, ?_, ?_, ?_⟩
      all_goals unfold wakeLoop
      · rfl
      · exact List.Sublist.refl _
      · exact hp
      · exact hl
      · exact fun _ h => h
      · exact Nat.le_refl _
      · exact fun h => absurd rfl h
  | tx :: queue, 0, ws, hk, hq, hp, hl => by
      refine ⟨?_, ?_, ?_, ?_, ?_, ?_, ?_⟩
      all_goals unfold wakeLoop
      · rfl
      · exact List.Sublist.refl _
      · exact hp
      · exact hl
      · exact fun _ h => h
      · exact Nat.le_refl _
      · exact fun _ => rfl
  | tx :: queue, n + 1, ws, hk, hq, hp, hl => by
      obtain ⟨htx, hq'⟩ := List.nodup_cons.mp hq
      by_cases hany : ws.any (·.1 == tx) = true
      · -- the waiter is there, and waits
        obtain ⟨w, hw, hwt⟩ := List.any_eq_true.mp hany
        have hwt' : w.1 = tx := by simpa using hwt
        have hpend : (tx, .pending) ∈ ws := by
          have hx := hl tx w.2 List.mem_cons_self (by rw [← hwt']; exact hw)
          rw [← hwt', ← hx]
          exact hw
        have hloop : wakeLoop (n + 1) (tx :: queue) ws = wakeLoop n queue (mark tx ws) := by
          conv => lhs; unfold wakeLoop
          rw [if_pos hany]
          rfl
        obtain ⟨h1, h2, h3, h4, h0, h5, h6⟩ := wakeLoop_spec queue n (mark tx ws)
          (by rw [keys_mark]; exact hk) hq'
          (by
            intro t ht
            by_cases hne : t = tx
            · rw [hne] at ht
              cases mem_mark_self ht
            · rcases List.mem_cons.mp (hp t ((mem_mark_of_ne hne).mp ht)) with h | h
              · exact absurd h hne
              · exact h)
          (by
            intro t x ht hx
            have hne : t ≠ tx := fun he => htx (he ▸ ht)
            exact hl t x (List.mem_cons_of_mem _ ht) ((mem_mark_of_ne hne).mp hx))
        rw [hloop]
        rw [keys_mark] at h1
        rw [signalled_mark hk hpend] at h5 h6
        refine ⟨h1, h2.cons tx, h3, h4, fun t ht => ?_, by omega, fun h => ?_⟩
        · have hm := h0 t ht
          by_cases hne : t = tx
          · rw [hne] at hm
            cases mem_mark_self hm
          · exact (mem_mark_of_ne hne).mp hm
        · rw [h6 h]
          omega
      · -- nobody listens any more
        have hgone : ∀ x, (tx, x) ∉ ws := by
          intro x hx
          exact hany (List.any_eq_true.mpr ⟨(tx, x), hx, by simp⟩)
        have hloop : wakeLoop (n + 1) (tx :: queue) ws = wakeLoop (n + 1) queue ws := by
          conv => lhs; unfold wakeLoop
          rw [if_neg hany]
        obtain ⟨h1, h2, h3, h4, h0, h5, h6⟩ := wakeLoop_spec queue (n + 1) ws hk hq'
          (by
            intro t ht
            rcases List.mem_cons.mp (hp t ht) with rfl | h
            · exact absurd ht (hgone _)
            · exact h)
          (fun t x ht hx => hl t x (List.mem_cons_of_mem _ ht) hx)
        rw [hloop]
        exact ⟨h1, h2.cons tx, h3, h4, h0, h5, h6⟩

namespace Slots

variable {s : Slots}

theorem Tidy.wake (h : s.Tidy) (n : Nat) : (s.wake n).Tidy := by
  obtain ⟨h1, h2, h3, h4, -, -, -⟩ := wakeLoop_spec s.queue n s.waiters h.keys h.nodup h.pending
    h.live
  refine ⟨?_, ?_, ?_, ?_, h3, h4⟩
  · show ((wakeLoop n s.queue s.waiters).2.map (·.1)).Nodup
    rw [h1]
    exact h.keys
  · intro w hw
    have hm : w.1 ∈ s.waiters.map (·.1) := by
      rw [← h1]
      exact List.mem_map_of_mem (f := (·.1)) hw
    obtain ⟨w', hw', he⟩ := List.mem_map.mp hm
    have := h.old w' hw'
    rw [← he]
    exact this
  · exact fun t ht => h.queueOld t (h2.subset ht)
  · exact h2.nodup h.nodup

/-- Whoever waits after the signals has waited before, and then all signals were used. -/
theorem wake_waits (h : s.Tidy) {n : Nat} (hw : (s.wake n).Waits) :
    s.Waits ∧ signalled (s.wake n).waiters = signalled s.waiters + n := by
  obtain ⟨-, -, h3, -, h0, -, h6⟩ := wakeLoop_spec s.queue n s.waiters h.keys h.nodup h.pending
    h.live
  obtain ⟨t, ht⟩ := hw
  exact ⟨⟨t, h0 t ht⟩, h6 (List.ne_nil_of_mem (h3 t ht))⟩

theorem release_some {max : Nat} (h : s.limit = some max) :
    s.release = { s with active := s.active - 1 }.wake (max - (s.active - 1)) := by
  unfold Slots.release
  split
  · next max' h' =>
      rw [h] at h'
      cases h'
      rfl
  · next h' =>
      rw [h] at h'
      cases h'

theorem release_none (h : s.limit = none) : s.release = { s with active := s.active - 1 } := by
  unfold Slots.release
  split
  · next max' h' =>
      rw [h] at h'
      cases h'
  · rfl

theorem Tidy.release (h : s.Tidy) : s.release.Tidy := by
  have hd : ({ s with active := s.active - 1 } : Slots).Tidy :=
    ⟨h.keys, h.old, h.queueOld, h.nodup, h.pending, h.live⟩
  unfold Slots.release
  split
  · exact hd.wake _
  · exact hd

theorem Served.release (ht : s.Tidy) (h : s.Served) : s.release.Served := by
  have hd : ({ s with active := s.active - 1 } : Slots).Tidy :=
    ⟨ht.keys, ht.old, ht.queueOld, ht.nodup, ht.pending, ht.live⟩
  unfold Slots.release
  split
  · next max hl =>
      intro hw
      obtain ⟨-, hs⟩ := wake_waits hd hw
      refine ⟨max, hl, ?_⟩
      rw [hs]
      exact Nat.le_add_left _ _
  · next hl =>
      intro hw
      obtain ⟨max, hm, -⟩ := h hw
      rw [hl] at hm
      cases hm

theorem release_waits (h : s.Tidy) (hw : s.release.Waits) : s.Waits := by
  have hd : ({ s with active := s.active - 1 } : Slots).Tidy :=
    ⟨h.keys, h.old, h.queueOld, h.nodup, h.pending, h.live⟩
  unfold Slots.release at hw
  split at hw
  · exact (wake_waits hd hw).1
  · exact hw

theorem Tidy.notify (h : s.Tidy) : s.notify.Tidy :=
  ⟨h.keys, h.old, h.queueOld, h.nodup, h.pending, h.live⟩

theorem Served.notify (h : s.Served) : s.notify.Served := h

theorem Tidy.take (h : s.Tidy) : s.take.Tidy :=
  ⟨h.keys, h.old, h.queueOld, h.nodup, h.pending, h.live⟩

theorem Served.take (h : s.Served) : s.take.Served := by
  intro hw
  obtain ⟨max, hm, hle⟩ := h hw
  refine ⟨max, hm, ?_⟩
  show max - (s.active + 1) ≤ signalled s.waiters
  omega

theorem mem_resolve {x y : Signal} {t : Nat} : (t, y) ∈ (s.resolve x).waiters ↔
    (t ∈ s.queue ∧ y = x ∧ ∃ z, (t, z) ∈ s.waiters) ∨ (t ∉ s.queue ∧ (t, y) ∈ s.waiters) := by
  unfold Slots.resolve
  constructor
  · intro h
    obtain ⟨w, hw, he⟩ := List.mem_map.mp h
    split at he
    · next hq =>
        have h1 : w.1 = t := congrArg Prod.fst he
        have h2 : x = y := congrArg Prod.snd he
        exact .inl ⟨h1 ▸ hq, h2.symm, w.2, h1 ▸ hw⟩
    · next hq =>
        rw [he] at hq hw
        exact .inr ⟨hq, hw⟩
  · rintro (⟨hq, rfl, z, hz⟩ | ⟨hq, hm⟩)
    · refine List.mem_map.mpr ⟨(t, z), hz, ?_⟩
      rw [if_pos hq]
    · refine List.mem_map.mpr ⟨(t, y), hm, ?_⟩
      rw [if_neg hq]

/-- After the queue is resolved nobody waits. -/
theorem resolve_waits {x : Signal} (h : s.Tidy) (hx : x ≠ .pending) : ¬(s.resolve x).Waits := by
  rintro ⟨t, ht⟩
  rcases mem_resolve.mp ht with ⟨-, he, -⟩ | ⟨hq, hm⟩
  · exact hx he.symm
  · exact hq (h.pending t hm)

theorem Tidy.resolve {x : Signal} (h : s.Tidy) (hx : x ≠ .pending) : (s.resolve x).Tidy := by
  have hkeys : (s.resolve x).waiters.map (·.1) = s.waiters.map (·.1) := by
    unfold Slots.resolve
    rw [List.map_map]
    apply List.map_congr_left
    intro w _
    show (if w.1 ∈ s.queue then (w.1, x) else w).1 = w.1
    split
    · rfl
    · rfl
  refine ⟨by rw [hkeys]; exact h.keys, ?_, ?_, List.nodup_nil, ?_, ?_⟩
  · intro w hw
    have hm : w.1 ∈ s.waiters.map (·.1) := by
      rw [← hkeys]
      exact List.mem_map_of_mem (f := (·.1)) hw
    obtain ⟨w', hw', he⟩ := List.mem_map.mp hm
    have := h.old w' hw'
    rw [← he]
    exact this
  · exact fun t ht => by cases ht
  · exact fun t ht => absurd ⟨t, ht⟩ (resolve_waits h hx)
  · exact fun t y ht => by cases ht

theorem Tidy.setLimit (h : s.Tidy) (limit : Option Nat) : (s.setLimit limit).Tidy := by
  have hd : ({ s with limit := limit } : Slots).Tidy :=
    ⟨h.keys, h.old, h.queueOld, h.nodup, h.pending, h.live⟩
  exact hd.resolve (by decide)

theorem Served.setLimit (h : s.Tidy) (limit : Option Nat) : (s.setLimit limit).Served := by
  have hd : ({ s with limit := limit } : Slots).Tidy :=
    ⟨h.keys, h.old, h.queueOld, h.nodup, h.pending, h.live⟩
  exact fun hw => absurd hw (resolve_waits hd (by decide))

theorem Tidy.enqueue (h : s.Tidy) : s.enqueue.Tidy := by
  refine ⟨?_, ?_, ?_, ?_, ?_, ?_⟩
  · show ((s.waiters ++ [(s.count, Signal.pending)]).map (·.1)).Nodup
    rw [List.map_append, List.nodup_append]
    refine ⟨h.keys, List.nodup_singleton _, ?_⟩
    intro a ha b hb he
    obtain ⟨w, hw, rfl⟩ := List.mem_map.mp ha
    have hb' : b = s.count := List.mem_singleton.mp hb
    have := h.old w hw
    omega
  · intro w hw
    show w.1 < s.count + 1
    rcases List.mem_append.mp hw with hw | hw
    · have := h.old w hw
      omega
    · rw [List.mem_singleton.mp hw]
      exact Nat.lt_succ_self _
  · intro t ht
    show t < s.count + 1
    rcases List.mem_append.mp ht with ht | ht
    · have := h.queueOld t ht
      omega
    · rw [List.mem_singleton.mp ht]
      exact Nat.lt_succ_self _
  · show (s.queue ++ [s.count]).Nodup
    rw [List.nodup_append]
    refine ⟨h.nodup, List.nodup_singleton _, ?_⟩
    intro a ha b hb he
    have hb' : b = s.count := List.mem_singleton.mp hb
    have := h.queueOld a ha
    omega
  · intro t ht
    rcases List.mem_append.mp ht with ht | ht
    · exact List.mem_append_left _ (h.pending t ht)
    · have he : t = s.count := congrArg Prod.fst (List.mem_singleton.mp ht)
      rw [he]
      exact List.mem_append_right _ List.mem_cons_self
  · intro t x ht hx
    rcases List.mem_append.mp hx with hx | hx
    · rcases List.mem_append.mp ht with ht | ht
      · exact h.live t x ht hx
      · have := h.old (t, x) hx
        rw [List.mem_singleton.mp ht] at this
        exact absurd this (Nat.lt_irrefl _)
    · exact congrArg Prod.snd (List.mem_singleton.mp hx)

/-- A request waits only when no slot is free. -/
theorem Served.enqueue (hf : ¬s.Free) : s.enqueue.Served := by
  intro _
  simp only [Free, not_forall, Nat.not_lt] at hf
  obtain ⟨max, hm, hle⟩ := hf
  refine ⟨max, hm, ?_⟩
  show max - s.active ≤ _
  omega

theorem Tidy.leave (h : s.Tidy) (t : Nat) : (s.leave t).Tidy := by
  have hsub : (s.leave t).waiters.Sublist s.waiters := List.filter_sublist
  exact ⟨(hsub.map _).nodup h.keys, fun w hw => h.old w (hsub.subset hw), h.queueOld, h.nodup,
    fun t' ht' => h.pending t' (hsub.subset ht'), fun t' x hq hx => h.live t' x hq (hsub.subset hx)⟩

theorem leave_waits {t : Nat} (h : (s.leave t).Waits) : s.Waits := by
  obtain ⟨t', ht'⟩ := h
  exact ⟨t', (List.filter_sublist (l := s.waiters)).subset ht'⟩

/-- The signals that are left when the waiter `t` goes. -/
theorem signalled_leave (h : s.Tidy) {t : Nat} {x : Signal} (hx : (t, x) ∈ s.waiters) :
    signalled s.waiters = signalled (s.leave t).waiters + if x = .sent then 1 else 0 := by
  have hk := h.keys
  unfold Slots.leave
  dsimp only
  clear h
  generalize s.waiters = ws at hk hx
  induction ws with
  | nil => cases hx
  | cons w ws ih =>
      obtain ⟨hw, hk'⟩ := List.nodup_cons.mp hk
      rcases List.mem_cons.mp hx with rfl | hmem
      · have hrest : ws.filter (·.1 != t) = ws := by
          apply List.filter_eq_self.mpr
          intro w' hw'
          have hne : w'.1 ≠ t := by
            intro he
            apply hw
            show t ∈ _
            rw [← he]
            exact List.mem_map_of_mem (f := (·.1)) hw'
          simpa using hne
        rw [List.filter_cons_of_neg (by simp), hrest]
        unfold signalled
        rw [List.countP_cons]
        cases x <;> rfl
      · have hne : w.1 ≠ t := by
          intro he
          apply hw
          show w.1 ∈ _
          rw [he]
          exact List.mem_map_of_mem (f := (·.1)) hmem
        rw [List.filter_cons_of_pos (by simpa using hne)]
        have hi := ih hk' hmem
        unfold signalled at hi ⊢
        rw [List.countP_cons, List.countP_cons, hi]
        omega

theorem leave_eq_self {t : Nat} (h : ∀ x, (t, x) ∉ s.waiters) : s.leave t = s := by
  have hrest : s.waiters.filter (·.1 != t) = s.waiters := by
    apply List.filter_eq_self.mpr
    intro w hw
    have hne : w.1 ≠ t := by
      intro he
      apply h w.2
      rw [← he]
      exact hw
    simpa using hne
  unfold Slots.leave
  rw [hrest]

/-- A waiter without a signal goes. -/
theorem Served.leave (ht : s.Tidy) (h : s.Served) {t : Nat} (hx : (t, .sent) ∉ s.waiters) :
    (s.leave t).Served := by
  intro hw
  obtain ⟨max, hm, hle⟩ := h (leave_waits hw)
  refine ⟨max, hm, ?_⟩
  by_cases hin : ∃ x, (t, x) ∈ s.waiters
  · obtain ⟨x, hmem⟩ := hin
    have hsig := signalled_leave ht hmem
    have hne : x ≠ .sent := fun he => hx (he ▸ hmem)
    rw [if_neg hne] at hsig
    rw [Nat.add_zero] at hsig
    rw [← hsig]
    exact hle
  · rw [leave_eq_self (fun x hxm => hin ⟨x, hxm⟩)]
    exact hle

/-- A signalled waiter takes a slot. -/
theorem Served.serve (ht : s.Tidy) (h : s.Served) {t : Nat} (hx : (t, .sent) ∈ s.waiters) :
    (s.leave t).take.Served := by
  intro hw
  have hsig := signalled_leave ht hx
  rw [if_pos rfl] at hsig
  obtain ⟨max, hm, hle⟩ := h (leave_waits hw)
  refine ⟨max, hm, ?_⟩
  show max - (s.active + 1) ≤ signalled (s.leave t).waiters
  omega

/-- A signalled waiter goes, and its signal is passed on. -/
theorem Served.pass (ht : s.Tidy) (h : s.Served) {t : Nat} (hx : (t, .sent) ∈ s.waiters) :
    ((s.leave t).wake 1).Served := by
  intro hw
  obtain ⟨hw', hs⟩ := wake_waits (ht.leave t) hw
  have hsig := signalled_leave ht hx
  rw [if_pos rfl] at hsig
  obtain ⟨max, hm, hle⟩ := h (leave_waits hw')
  refine ⟨max, hm, ?_⟩
  rw [hs, ← hsig]
  exact hle

/-! ## Streams that end -/

/-- Any number of slots get free, one after the other, and the owner is told of each. -/
inductive Freed (s : Slots) : Slots → Prop where
  | refl : Freed s s
  | release {s' : Slots} (h : Freed s s') : Freed s s'.release.notify

theorem Freed.trans {s' s'' : Slots} (h : Freed s s') (h' : Freed s' s'') : Freed s s'' := by
  induction h' with
  | refl => exact h
  | release _ ih => exact ih.release

theorem Freed.settles {s' : Slots} (hf : Freed s s') (ht : s.Tidy) :
    s'.Tidy ∧ (s'.Waits → s.Waits) := by
  induction hf with
  | refl => exact ⟨ht, id⟩
  | release _ ih => exact ⟨ih.1.release.notify, fun hw => ih.2 (release_waits ih.1 hw)⟩

theorem Freed.keeps {s' : Slots} (hf : Freed s s') (ht : s.Tidy) (h : s.Served) :
    s'.Tidy ∧ s'.Served := by
  induction hf with
  | refl => exact ⟨ht, h⟩
  | release _ ih => exact ⟨ih.1.release.notify, (ih.2.release ih.1).notify⟩

end Slots

end NtexH2
