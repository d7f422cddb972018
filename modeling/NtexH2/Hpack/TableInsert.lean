/-
  Hpack/TableInsert.lean --- indexing a header in the encoder table.

  The two ways a header enters the table.  When its name is new, room is made
  first and the header then takes a cell.  When the name is known, the newest
  slot of the name may be evicted while room is made, with its cell kept for the
  new slot; `evict_push` shows that this is the same as pushing first and making
  room afterwards, so both ways use one specification of `evict`.
-/
import NtexH2.Hpack.TableInvariant

set_option autoImplicit false

namespace NtexH2.Hpack

open Lib Lib.RobinHood Lib.Fifo

variable {S : HttpSyntax}

namespace Table

/-! ## Reserving a cell -/

section Reserve

variable {hash : Name S → Nat} {t : Table S}

/-- A larger array with the same entries keeps the invariant. -/
theorem Linked.regrow (h : t.Linked hash) {k : Nat} {m : List (Option Pos)} (hk3 : 3 ≤ k)
    (hk : k ≤ 63) (hlen : m.length = 2 ^ k) (hload : t.slots.length ≤ usableCapacity (2 ^ k))
    (hperm : (entries m).Perm (entries t.indices)) (horder : CellOrder m) :
    Linked hash { t with mask := 2 ^ k - 1, indices := m } := by
  refine ⟨.inr ⟨k, hk3, hk, hlen, rfl⟩, ?_, h.inserted_lt, h.slotHash, h.newest, h.next, ?_,
    (hperm.map (·.index)).nodup_iff.mpr h.distinct, horder⟩
  · show t.slots.length ≤ usableCapacity m.length
    rw [hlen]
    exact hload
  · intro pos
    exact (hperm.mem_iff).trans (h.cell pos)

theorem cellOrder_replicate (c : Nat) : CellOrder (List.replicate c (none : Option Pos)) := by
  intro p a hp ha
  have : cellAt (List.replicate c (none : Option Pos)) p = none := by
    unfold cellAt
    rw [List.getElem?_replicate]
    split <;> rfl
  rw [this] at ha
  cases ha

theorem entries_replicate (c : Nat) : entries (List.replicate c (none : Option Pos)) = [] := by
  induction c with
  | zero => rfl
  | succ c ih => simp [entries]

/-- `reserve_one` leaves room for a slot; the slots of a table of bounded size are
far too few to make the array too long. -/
theorem reserveOne_spec (h : t.Linked hash) (hsmall : t.slots.length < 2 ^ 59) :
    ∃ m l, t.reserveOne = .ok { t with mask := m, indices := l } ∧
      Linked hash { t with mask := m, indices := l } ∧ l ≠ [] ∧
      t.slots.length < usableCapacity l.length := by
  unfold reserveOne
  by_cases hfull : t.slots.length = t.capacity
  · rw [if_pos hfull]
    by_cases hzero : t.slots.length = 0
    · rw [if_pos hzero]
      have hslots : t.slots = [] := List.length_eq_zero_iff.mp hzero
      refine ⟨8 - 1, List.replicate 8 none, rfl, ?_, by decide, by rw [hzero]; decide⟩
      have hempty : entries t.indices = [] := by
        rw [List.eq_nil_iff_forall_not_mem]
        intro pos hpos
        obtain ⟨i, s, hs, _⟩ := (h.cell pos).mp hpos
        rw [hslots] at hs
        cases hs
      refine h.regrow (k := 3) (Nat.le_refl 3) (by omega) rfl (by rw [hzero]; omega) ?_
        (cellOrder_replicate 8)
      rw [entries_replicate, hempty]
    · rw [if_neg hzero]
      have hne : t.slots ≠ [] := fun h0 => hzero (by rw [h0]; rfl)
      obtain ⟨k, hk3, hk, hlen, hmask⟩ := h.cells_of_slot hne
      have hpow : 2 ^ 3 ≤ 2 ^ k := Nat.pow_le_pow_right (by decide) hk3
      obtain ⟨e, he, hempty⟩ := h.exists_empty (by
        intro h0
        rw [h0, List.length_nil] at hlen
        omega)
      unfold capacity usableCapacity at hfull
      have hk60 : k ≤ 60 := by
        by_contra hcon
        have := Nat.pow_le_pow_right (show 0 < 2 by decide) (show 61 ≤ k by omega)
        omega
      obtain ⟨m, hm, hmlen, hperm, horder⟩ :=
        grow_spec (by omega) hmask hlen h.order (hlen ▸ he) hempty
      have hload : t.slots.length < usableCapacity (2 ^ (k + 1)) := by
        unfold usableCapacity
        rw [Nat.pow_succ]
        omega
      refine ⟨2 ^ (k + 1) - 1, m, hm, ?_, ?_, by rw [hmlen]; exact hload⟩
      · exact h.regrow (by omega) (by omega) hmlen (Nat.le_of_lt hload) hperm horder
      · intro h0
        rw [h0, List.length_nil] at hmlen
        have := Nat.two_pow_pos (k + 1)
        omega
  · rw [if_neg hfull]
    have hload := h.load
    refine ⟨t.mask, t.indices, rfl, h, ?_, by unfold capacity at *; omega⟩
    intro h0
    unfold capacity usableCapacity at *
    rw [h0, List.length_nil] at hload hfull
    omega

end Reserve

/-! ## Searching -/

section Search

variable {hash : Name S → Nat} {t : Table S} {header : Named S}

theorem searchStep_empty {n probe dist : Nat} (hlt : probe < t.indices.length)
    (hcell : cellAt t.indices probe = none) :
    t.searchStep header n probe dist = .ok (.done (.vacant dist probe)) := by
  rw [searchStep, at'_cellAt hlt, hcell, ok_bind]
  rfl

theorem searchStep_closer {n probe dist : Nat} {pos : Pos}
    (hcell : cellAt t.indices probe = some pos)
    (hlt : probeDistance t.mask pos.hash probe < dist) :
    t.searchStep header n probe dist = .ok (.done (.vacant dist probe)) := by
  rw [searchStep, at'_cellAt (lt_length_of_cellAt hcell), hcell, ok_bind]
  simp only [if_pos hlt]
  rfl

theorem searchStep_hit {n probe dist : Nat} {pos : Pos} {s : Slot S}
    (hcell : cellAt t.indices probe = some pos)
    (hge : ¬ probeDistance t.mask pos.hash probe < dist) (hhash : pos.hash = n)
    (hslot : t.slots[t.realIdx pos.index]? = some s) (hname : s.header.name = header.name) :
    t.searchStep header n probe dist = .ok (.done (.occupied pos.index)) := by
  rw [searchStep, at'_cellAt (lt_length_of_cellAt hcell), hcell, ok_bind]
  simp only [if_neg hge, if_pos hhash]
  rw [at'_getElem? hslot, ok_bind, if_pos hname]
  rfl

theorem searchStep_miss {n probe dist : Nat} {pos : Pos} {s : Slot S}
    (hcell : cellAt t.indices probe = some pos)
    (hge : ¬ probeDistance t.mask pos.hash probe < dist)
    (hslot : t.slots[t.realIdx pos.index]? = some s)
    (hne : ¬ (pos.hash = n ∧ s.header.name = header.name)) :
    t.searchStep header n probe dist = .ok (.next (dist + 1)) := by
  rw [searchStep, at'_cellAt (lt_length_of_cellAt hcell), hcell, ok_bind]
  simp only [if_neg hge]
  by_cases hhash : pos.hash = n
  · rw [if_pos hhash, at'_getElem? hslot, ok_bind, if_neg fun h => hne ⟨hhash, h⟩]
    rfl
  · rw [if_neg hhash]
    rfl

/-- The slot a cell leads to. -/
theorem Linked.slot_of_cell (h : t.Linked hash) {p : Nat} {pos : Pos}
    (hp : cellAt t.indices p = some pos) :
    ∃ i s, t.slots[i]? = some s ∧ Oldest t.names i ∧ pos = ⟨t.stored i, s.hash⟩ ∧
      t.realIdx pos.index = i := by
  obtain ⟨i, s, hs, hold, rfl⟩ := (h.cell pos).mp (mem_entries.mpr ⟨p, hp⟩)
  have hi := (List.getElem?_eq_some_iff.mp hs).1
  exact ⟨i, s, hs, hold, rfl, h.realIdx_stored (Nat.le_of_lt hi)⟩

/-- The search of `index_dynamic` either finds the oldest slot of the name, or
finds the cell a new entry has to take. -/
theorem search_spec (h : t.Linked hash) {k : Nat} (hk : k ≤ 63) (hlen : t.indices.length = 2 ^ k)
    (hmask : t.mask = 2 ^ k - 1) :
    (∃ n, t.search header (hash header.name) =
        .ok (.vacant n (wrap (2 ^ k) (hash header.name % 2 ^ k + n))) ∧
      n < 2 ^ k ∧ header.name ∉ t.names ∧
      Passed t.indices (hash header.name % 2 ^ k) n ∧
      Stops t.indices (hash header.name % 2 ^ k) n) ∨
    (∃ i, t.search header (hash header.name) = .ok (.occupied (t.stored i)) ∧
      t.names[i]? = some header.name ∧ Oldest t.names i) := by
  have hpos : 0 < 2 ^ k := Nat.two_pow_pos k
  obtain ⟨e, he, hempty⟩ := h.exists_empty (by
    intro h0
    rw [h0, List.length_nil] at hlen
    omega)
  obtain ⟨d, hd⟩ : ∃ d, d = hash header.name % 2 ^ k := ⟨_, rfl⟩
  have hdc : d < 2 ^ k := hd ▸ Nat.mod_lt _ hpos
  rw [hlen] at he
  -- the walk meets the empty cell after this many steps
  obtain ⟨b, hb⟩ : ∃ b, b = displacement (2 ^ k) d e := ⟨_, rfl⟩
  have hbc : b < 2 ^ k := by
    rw [hb]
    exact wrap_lt (by omega)
  have hbe : wrap (2 ^ k) (d + b) = e := by
    rw [hb]
    unfold displacement wrap
    split_ifs <;> omega
  let Inv : Nat → Nat → Prop := fun n dist => dist = n ∧ Passed t.indices d n ∧
    ∀ m, m < n → ∀ pos i s, cellAt t.indices (wrap (2 ^ k) (d + m)) = some pos →
      t.slots[i]? = some s → pos = ⟨t.stored i, s.hash⟩ → s.header.name ≠ header.name
  let Post : Found → Prop := fun r =>
    (∃ n, r = .vacant n (wrap (2 ^ k) (d + n)) ∧ n < 2 ^ k ∧ header.name ∉ t.names ∧
      Passed t.indices d n ∧ Stops t.indices d n) ∨
    (∃ i, r = .occupied (t.stored i) ∧ t.names[i]? = some header.name ∧ Oldest t.names i)
  have hmain := probeLoop_spec_zero Panic.endless (2 ^ k)
    (t.searchStep header (hash header.name)) Inv Post d b (2 * 2 ^ k + 2) 0
    (Nat.le_of_lt hdc) hbc (by omega) ⟨rfl, fun j hj => by omega, fun m hm => by omega⟩ ?_
  · obtain ⟨r, hr, hpost⟩ := hmain
    have hsearch : t.search header (hash header.name) = .ok r := by
      rw [search, probing, hlen, hmask, desiredPos_eq, ← hd]
      exact hr
    rw [hsearch, ← hd]
    rcases hpost with ⟨n, rfl, hrest⟩ | ⟨i, rfl, hrest⟩
    · exact .inl ⟨n, rfl, hrest⟩
    · exact .inr ⟨i, rfl, hrest⟩
  · intro n dist hn hinv
    obtain ⟨rfl, hpass, hmiss⟩ := hinv
    have hlt : wrap (2 ^ k) (d + dist) < t.indices.length := by
      rw [hlen]
      exact wrap_lt (by omega)
    -- where the search stops there is no slot of the name
    have hvacant : Stops t.indices d dist → header.name ∉ t.names := by
      intro hstop hmem
      obtain ⟨i₀, hi₀⟩ := List.mem_iff_getElem?.mp hmem
      obtain ⟨i, hi, hold⟩ : ∃ i, t.names[i]? = some header.name ∧ Oldest t.names i :=
        exists_oldest hi₀
      obtain ⟨s, hs⟩ : ∃ s, t.slots[i]? = some s := by
        have := (List.getElem?_eq_some_iff.mp hi).1
        rw [names_length] at this
        exact ⟨_, List.getElem?_eq_getElem this⟩
      have hsname : s.header.name = header.name :=
        Option.some.inj ((names_getElem? hs).symm.trans hi)
      obtain ⟨p, hp⟩ := mem_entries.mp ((h.cell _).mpr ⟨i, s, hs, hold, rfl⟩)
      have hpc : p < 2 ^ k := hlen ▸ lt_length_of_cellAt hp
      have hhome : home (2 ^ k) ⟨t.stored i, s.hash⟩ = d := by
        rw [home, h.slotHash i s hs, hsname, hd]
      have hend : wrap (2 ^ k) (d + displacement (2 ^ k) d p) = p := by
        unfold displacement wrap
        split_ifs <;> omega
      rcases Nat.lt_trichotomy (displacement (2 ^ k) d p) dist with hlt' | heq | hgt
      · exact hmiss _ hlt' _ i s (by rw [hend]; exact hp) hs rfl hsname
      · have := hstop ⟨t.stored i, s.hash⟩ (by rw [hlen, ← heq, hend]; exact hp)
        rw [hlen, hhome, ← heq, hend] at this
        exact Nat.lt_irrefl _ this
      · have horder := h.order
        unfold CellOrder at horder
        rw [hlen] at horder
        obtain ⟨b', hb', hle⟩ := horder p _ hpc hp dist (by rw [hhome]; exact hgt)
        rw [hhome] at hb' hle
        have := hstop b' (by rw [hlen]; exact hb')
        rw [hlen] at this
        omega
    rw [mod_eq_wrap (by omega)]
    cases hcell : cellAt t.indices (wrap (2 ^ k) (d + dist)) with
    | none =>
        right
        have hstop : Stops t.indices d dist := by
          intro b' hb'
          rw [hlen, hcell] at hb'
          cases hb'
        exact ⟨_, searchStep_empty hlt hcell,
          .inl ⟨dist, rfl, by omega, hvacant hstop, hpass, hstop⟩⟩
    | some pos =>
        obtain ⟨i, s, hs, hold, hposi, hreal⟩ := h.slot_of_cell hcell
        have hdist : probeDistance t.mask pos.hash (wrap (2 ^ k) (d + dist)) =
            displacement (2 ^ k) (home (2 ^ k) pos) (wrap (2 ^ k) (d + dist)) := by
          rw [hmask]
          exact probeDistance_eq (by omega) (hlen ▸ hlt)
        by_cases hless : probeDistance t.mask pos.hash (wrap (2 ^ k) (d + dist)) < dist
        · right
          have hstop : Stops t.indices d dist := by
            intro b' hb'
            rw [hlen, hcell] at hb'
            cases hb'
            rw [hlen, ← hdist]
            exact hless
          exact ⟨_, searchStep_closer hcell hless,
            .inl ⟨dist, rfl, by omega, hvacant hstop, hpass, hstop⟩⟩
        · have hslot : t.slots[t.realIdx pos.index]? = some s := by rw [hreal]; exact hs
          by_cases hhit : pos.hash = hash header.name ∧ s.header.name = header.name
          · right
            refine ⟨_, searchStep_hit hcell hless hhit.1 hslot hhit.2, .inr ⟨i, ?_, ?_, hold⟩⟩
            · rw [hposi]
            · rw [names_getElem? hs, hhit.2]
          · left
            refine ⟨_, searchStep_miss hcell hless hslot hhit, ?_, rfl, ?_, ?_⟩
            · -- the empty cell is still ahead
              rcases Nat.eq_or_lt_of_le hn with heq | hlt'
              · rw [heq, hbe, hempty] at hcell
                cases hcell
              · exact hlt'
            · intro j hj
              rw [hlen]
              rcases Nat.lt_or_ge j dist with hjd | hjd
              · have := hpass j hjd
                rwa [hlen] at this
              · obtain rfl : j = dist := by omega
                exact ⟨pos, hcell, by rw [← hdist]; omega⟩
            · intro m hm pos' i' s' hc' hs' hpos' hname'
              rcases Nat.lt_or_ge m dist with hmd | hmd
              · exact hmiss m hmd pos' i' s' hc' hs' hpos' hname'
              · obtain rfl : m = dist := by omega
                rw [hcell] at hc'
                cases hc'
                have hi' := (List.getElem?_eq_some_iff.mp hs').1
                have hi := (List.getElem?_eq_some_iff.mp hs).1
                have hidx : t.stored i = t.stored i' :=
                  (congrArg Pos.index (hposi.symm.trans hpos') :)
                obtain rfl := h.stored_inj (Nat.le_of_lt hi) (Nat.le_of_lt hi') hidx
                rw [hs] at hs'
                cases hs'
                refine hhit ⟨?_, hname'⟩
                rw [hposi]
                show s.hash = _
                rw [h.slotHash i s hs, hname']

end Search

/-! ## A known name -/

section Occupied

variable {hash : Name S → Nat} {t : Table S} {header : Named S}

/-- The walk over a chain ends, with a slot of equal value or with the newest slot
of the name. -/
theorem walkChain_spec (h : t.Linked hash) :
    ∀ (fuel i : Nat), i < fuel → t.names[i]? = some header.name →
      (∀ m s, i < m → t.slots[m]? = some s → s.header.name = header.name →
        s.header.valueEq header = false) →
      (∃ j s, t.walkChain header fuel (t.stored i) = .ok (.found j) ∧ t.slots[j]? = some s ∧
        s.header.name = header.name ∧ s.header.valueEq header = true) ∨
      (∃ j s, t.walkChain header fuel (t.stored i) = .ok (.last (t.stored j) j) ∧
        t.slots[j]? = some s ∧ s.header.name = header.name ∧ s.next = none ∧
        ∀ s ∈ t.slots, s.header.name = header.name → s.header.valueEq header = false) := by
  intro fuel
  induction fuel with
  | zero => intro i hi; omega
  | succ fuel ih =>
      intro i hi hname hbehind
      have hilt : i < t.slots.length := by
        rw [← names_length]
        exact (List.getElem?_eq_some_iff.mp hname).1
      obtain ⟨s, hs⟩ : ∃ s, t.slots[i]? = some s := ⟨_, List.getElem?_eq_getElem hilt⟩
      have hsname : s.header.name = header.name :=
        Option.some.inj ((names_getElem? hs).symm.trans hname)
      rw [walkChain, h.realIdx_stored (Nat.le_of_lt hilt), at'_getElem? hs, ok_bind]
      cases hval : s.header.valueEq header with
      | true => exact .inl ⟨i, s, rfl, hs, hsname, hval⟩
      | false =>
          simp only [Bool.false_eq_true, if_false]
          cases hnext : s.next with
          | none =>
              refine .inr ⟨i, s, rfl, hs, hsname, hnext, ?_⟩
              intro s' hs' hname'
              obtain ⟨m, hm⟩ := List.mem_iff_getElem?.mp hs'
              rcases Nat.lt_trichotomy m i with hlt | heq | hgt
              · refine absurd ?_ (h.newest i s hs hnext m hlt)
                rw [names_getElem? hm, names_getElem? hs, hname', hsname]
              · subst heq
                rw [hs] at hm
                cases hm
                exact hval
              · exact hbehind m s' hgt hm hname'
          | some x =>
              obtain ⟨j, rfl, hnn⟩ := h.next i s x hs hnext
              have hji := hnn.1
              refine ih j (by omega) (hnn.2.1.trans hname) ?_
              intro m s' hjm hm hname'
              rcases Nat.lt_trichotomy m i with hlt | heq | hgt
              · refine absurd ?_ (hnn.2.2 m hjm hlt)
                rw [names_getElem? hm, names_getElem? hs, hname', hsname]
              · subst heq
                rw [hs] at hm
                cases hm
                exact hval
              · exact hbehind m s' hgt hm hname'

/-- The new slot takes the place of its predecessor in the chain. -/
def pushLink (t : Table S) (header : Named S) (n index : Nat) : Table S :=
  let t := t.insert header n
  let newReal := t.realIdx index
  if newReal < t.slots.length then
    { t with slots := t.slots.modify newReal fun s =>
        { s with next := some (wrappingSub 0 t.inserted) } }
  else t

theorem pushLink_eq {n j : Nat} (hins : t.inserted < wordSize) (hj : j + 1 < wordSize) :
    t.pushLink header n (t.stored j) = t.pushed header n j t.indices := by
  have hreal : (t.insert header n).realIdx (t.stored j) = j + 1 := by
    show wrappingAdd (wrappingSub j t.inserted) (wrappingAdd t.inserted 1) = j + 1
    rw [← wrappingSub_succ hins]
    exact wrappingAdd_wrappingSub hj (wrappingAdd_lt _ _)
  unfold pushLink
  simp only [hreal]
  by_cases hlt : j + 1 < (t.insert header n).slots.length
  · rw [if_pos hlt]
    rfl
  · rw [if_neg hlt]
    have hlen : t.slots.length ≤ j := by
      simp only [insert, List.length_cons] at hlt
      omega
    unfold pushed
    rw [List.modify_eq_self hlen]
    rfl

/-- Modifying the elements of a list and then dropping the last one. -/
theorem modify_concat {α : Type} (f : α → α) (l : List α) (x : α) (j : Nat) :
    (l ++ [x]).modify j f = l.modify j f ++ [if j = l.length then f x else x] := by
  induction l generalizing j with
  | nil => cases j <;> simp
  | cons a l ih =>
      cases j with
      | zero => simp
      | succ j => simp [ih]

/-- Room made before the push is room made after it: dropping the last slot with
the place of slot `j` kept, and then pushing a slot linked from `j`, is pushing
the slot and then dropping the last one. -/
theorem evict_push {n j : Nat} {ss : List (Slot S)} {s : Slot S} (hins : t.inserted < wordSize)
    (hj : j < wordSize) (hslots : t.slots = ss ++ [s]) (hlen : t.slots.length < wordSize)
    (hsize : s.header.len ≤ t.size)
    (hcount : t.indices.countP (fun p => p.any (·.index == t.stored ss.length)) = 1)
    (hnext : ∀ s, t.slots[j]? = some s → s.next = none) {t₁ : Table S}
    (hevict : (t.pushed header n j t.indices).evict none = .ok t₁) :
    ∃ l, t.evict (some (t.stored j)) = .ok (t.popped ss s l) ∧
      t₁ = (t.popped ss s l).pushed header n j l := by
  obtain ⟨s', hs'⟩ : ∃ s', s' = if j = ss.length then t.linkNew s else s := ⟨_, rfl⟩
  have hheader : s'.header = s.header := by
    rw [hs']
    split <;> rfl
  have hhash : s'.hash = s.hash := by
    rw [hs']
    split <;> rfl
  have hpslots : (t.pushed header n j t.indices).slots =
      (⟨n, header, none⟩ :: ss.modify j t.linkNew) ++ [s'] := by
    simp only [pushed, hslots, modify_concat, hs', List.cons_append]
  have hstored : (t.pushed header n j t.indices).stored
      (⟨n, header, none⟩ :: ss.modify j t.linkNew).length = t.stored ss.length := by
    rw [List.length_cons, List.length_modify]
    exact wrappingSub_succ hins
  -- the two walks over the cells take the same steps
  have hstep : (t.pushed header n j t.indices).evictStep none s' (t.stored ss.length) =
      t.evictStep (some (t.stored j)) s (t.stored ss.length) := by
    funext probe u
    have hcells : (t.pushed header n j t.indices).indices = t.indices := rfl
    have hpmask : (t.pushed header n j t.indices).mask = t.mask := rfl
    rw [evictStep, evictStep, hcells, hpmask]
    congr 1
    funext o
    congr 1
    funext pos
    by_cases hpos : pos.index = t.stored ss.length
    · rw [if_pos hpos, if_pos hpos]
      by_cases hjs : j = ss.length
      · -- the last slot is the one the new slot is linked from
        have hsn : s.next = none := hnext s (by simp [hslots, hjs])
        have hs'n : s'.next = some (wrappingSub 0 (wrappingAdd t.inserted 1)) := by
          rw [hs', if_pos hjs]
          rfl
        have hwrap : wrappingSub 0 (wrappingAdd t.inserted 1) = wrappingSub 0 (t.inserted + 1) := by
          unfold wrappingAdd wrappingSub wordSize at *
          omega
        rw [hs'n, hsn]
        simp only [hpos, hjs, if_true, hwrap]
      · have hs's : s' = s := by rw [hs', if_neg hjs]
        have hne : ¬ some pos.index = some (t.stored j) := by
          rw [hpos]
          intro heq
          have h1 := congrArg (fun x => wrappingAdd x t.inserted) (Option.some.inj heq)
          simp only [stored] at h1
          rw [hslots, List.length_append, List.length_singleton] at hlen
          rw [wrappingAdd_wrappingSub (by omega) hins, wrappingAdd_wrappingSub hj hins] at h1
          exact hjs h1.symm
        rw [hs's]
        cases s.next with
        | some x => rfl
        | none =>
            simp only [if_neg hne, reduceCtorEq, if_false]
    · rw [if_neg hpos, if_neg hpos]
  rw [evict_eq hpslots (by rw [hheader]; exact hsize) (by rw [hstored]; exact hcount),
    hstored, hhash, hstep] at hevict
  rw [evict_eq hslots hsize hcount]
  change Except.map _ (probing t.indices.length (desiredPos t.mask s.hash) ()
    (t.evictStep (some (t.stored j)) s (t.stored ss.length))) = _ at hevict
  cases hprobe : probing t.indices.length (desiredPos t.mask s.hash) ()
      (t.evictStep (some (t.stored j)) s (t.stored ss.length)) with
  | error e => rw [hprobe] at hevict; cases hevict
  | ok l =>
      rw [hprobe] at hevict
      refine ⟨l, rfl, ?_⟩
      simp only [Except.map, Except.ok.injEq] at hevict
      rw [← hevict]
      simp only [popped, pushed, hheader]
      rfl

/-- Making room with the place of slot `j` kept, and pushing afterwards, leaves the
newest headers that fit. -/
theorem convergeLoop_push {n j : Nat} (hj : j < wordSize) :
    ∀ (fuel : Nat) (t : Table S), (t.pushed header n j t.indices).Linked hash →
      (t.pushed header n j t.indices).Sized 0 → header.len ≤ t.maxSize →
      t.inserted < wordSize → (∀ s, t.slots[j]? = some s → s.next = none) →
      t.slots.length < fuel →
      ∃ t', convergeLoop (some (t.stored j)) fuel t = .ok t' ∧
        (t'.pushed header n j t'.indices).Linked hash ∧
        (t'.pushed header n j t'.indices).Sized 0 ∧ t'.size ≤ t'.maxSize ∧
        t'.maxSize = t.maxSize ∧ t'.inserted = t.inserted ∧
        (t'.pushed header n j t'.indices).headers =
          fit Header.len t.maxSize (t.pushed header n j t.indices).headers := by
  intro fuel
  induction fuel with
  | zero => intro t _ _ _ _ _ hfuel; omega
  | succ fuel ih =>
      intro t h hsized hmax hins hnext hfuel
      rw [convergeLoop]
      have hsum : t.size = header.len + total Header.len t.headers := by
        unfold Sized at hsized
        rw [pushed_headers, total_cons, Nat.zero_add] at hsized
        exact hsized
      by_cases hover : t.maxSize < t.size
      · rw [if_pos hover]
        obtain ⟨ss, s, hslots⟩ := Sized.exists_last hsum hmax hover
        have hlen : t.slots.length + 1 < wordSize := by
          have := h.slots_lt
          simpa [pushed] using this
        obtain ⟨s', hlast⟩ : ∃ s', (t.pushed header n j t.indices).slots =
            (⟨n, header, none⟩ :: ss.modify j t.linkNew) ++ [s'] := by
          refine ⟨if j = ss.length then t.linkNew s else s, ?_⟩
          simp only [pushed, hslots, modify_concat, List.cons_append]
        have hstored : (t.pushed header n j t.indices).stored
            (⟨n, header, none⟩ :: ss.modify j t.linkNew).length = t.stored ss.length := by
          rw [List.length_cons, List.length_modify]
          exact wrappingSub_succ hins
        have hcount := h.count_eq_one hlast
        rw [hstored] at hcount
        obtain ⟨l₁, hl₁, hlinked, _, _⟩ := evict_spec h hlast (hsized.last_le hlast)
        obtain ⟨l, hl, heq⟩ := evict_push hins hj hslots (by omega) (Sized.last_le hsum hslots)
          hcount hnext hl₁
        have hsized₁ := hsized.popped hlast l₁
        have hheaders₁ := popped_headers hlast l₁
        rw [heq] at hlinked hsized₁ hheaders₁
        rw [hl, ok_bind]
        obtain ⟨t', ht', hlinked', hsized', hle, hmax', hins', hheaders⟩ :=
          ih (t.popped ss s l) hlinked hsized₁ hmax hins (by
            intro s₀ hs₀
            change ss[j]? = some s₀ at hs₀
            refine hnext s₀ ?_
            rw [hslots, List.getElem?_append_left (List.getElem?_eq_some_iff.mp hs₀).1]
            exact hs₀) (by
            have : t.slots.length = ss.length + 1 := by simp [hslots]
            show ss.length < fuel
            omega)
        refine ⟨t', ht', hlinked', hsized', hle, hmax', hins', ?_⟩
        rw [hheaders]
        have hpop : ((t.popped ss s l).pushed header n j (t.popped ss s l).indices).headers =
          (t.pushed header n j t.indices).headers.dropLast := hheaders₁
        rw [hpop]
        refine (fit_of_gt Header.len ?_).symm
        rw [pushed_headers, total_cons]
        show t.maxSize < _
        omega
      · rw [if_neg hover]
        refine ⟨t, rfl, h, hsized, by omega, rfl, rfl, ?_⟩
        refine (fit_of_le Header.len ?_).symm
        rw [pushed_headers, total_cons]
        omega

/-- Whether the table stores an entry with this name and value. -/
def holds (l : List (Named S)) (header : Named S) : Bool :=
  l.any fun e => e.name == header.name && e.valueEq header

/-- `index_occupied`, started at the oldest slot of the name. -/
theorem indexOccupied_spec (h : t.Linked hash) (hsized : t.Sized 0)
    (hload : header.isSensitive = false → t.slots.length < t.capacity)
    (hfits : header.len ≤ t.maxSize) {i : Nat} (hi : t.names[i]? = some header.name)
    (hold : Oldest t.names i) (statik : Option Nat) :
    (∃ j s, t.indexOccupied header (hash header.name) (t.stored i) statik =
        .ok (.indexed (j + dynOffset) header, t) ∧ t.slots[j]? = some s ∧
        s.header.name = header.name ∧ s.header.valueEq header = true) ∨
    (holds t.headers header = false ∧ header.isSensitive = true ∧
      ∃ j, t.indexOccupied header (hash header.name) (t.stored i) statik =
        .ok (.name (j + dynOffset) header, t) ∧ t.names[j]? = some header.name) ∨
    (holds t.headers header = false ∧ header.isSensitive = false ∧
      ∃ j t', t.indexOccupied header (hash header.name) (t.stored i) statik =
        .ok (.insertedValue (statik.getD (j + dynOffset)) 0, t') ∧
        t.names[j]? = some header.name ∧ t'.Linked hash ∧ t'.Sized 0 ∧ t'.size ≤ t'.maxSize ∧
        t'.maxSize = t.maxSize ∧ t'.headers = fit Header.len t.maxSize (header :: t.headers)) := by
  have hilt : i < t.slots.length := by
    rw [← names_length]
    exact (List.getElem?_eq_some_iff.mp hi).1
  have hchain := walkChain_spec h (t.slots.length + 1) i (by omega) hi (by
    intro m s hm hs hname
    refine absurd ?_ (hold m hm ?_)
    · rw [hi, names_getElem? hs, hname]
    · rw [names_length]
      exact (List.getElem?_eq_some_iff.mp hs).1)
  rcases hchain with ⟨j, s, hwalk, hs, hname, hval⟩ | ⟨j, s, hwalk, hs, hname, hnext, hnone⟩
  · refine .inl ⟨j, s, ?_, hs, hname, hval⟩
    rw [indexOccupied, hwalk, ok_bind]
    rfl
  · right
    have hjlt : j < t.slots.length := (List.getElem?_eq_some_iff.mp hs).1
    have hjname : t.names[j]? = some header.name := by rw [names_getElem? hs, hname]
    have hholds : holds t.headers header = false := by
      unfold holds headers
      rw [List.any_eq_false]
      intro e he
      obtain ⟨s', hs', rfl⟩ := List.mem_map.mp he
      intro hcon
      simp only [Bool.and_eq_true, beq_iff_eq] at hcon
      rw [hnone s' hs' hcon.1] at hcon
      exact absurd hcon.2 (by simp)
    cases hsens : header.isSensitive with
    | true =>
        refine .inl ⟨hholds, rfl, j, ?_, hjname⟩
        rw [indexOccupied, hwalk, ok_bind]
        simp only [hsens, if_true]
        rfl
    | false =>
        refine .inr ⟨hholds, rfl, j, ?_⟩
        have hW := h.slots_lt
        obtain ⟨t₁, ht₁⟩ : ∃ t₁, t₁ = { t with size := t.size + header.len } := ⟨_, rfl⟩
        have hlinked₁ : (t₁.pushed header (hash header.name) j t₁.indices).Linked hash := by
          have hpush : (t.pushed header (hash header.name) j t.indices).Linked hash :=
            h.push (hload hsens) rfl (by
            intro s' hs'
            rw [hs] at hs'
            cases hs'
            exact ⟨hname, h.newest j s hs hnext⟩) (fun _ => hjname) h.order h.distinct (by
            intro pos
            refine ⟨.inl, ?_⟩
            rintro (hpos | ⟨hnot, _⟩)
            · exact hpos
            · exact absurd (List.mem_of_getElem? hjname) hnot)
          rw [ht₁]
          exact ⟨hpush.shape, hpush.load, hpush.inserted_lt, hpush.slotHash, hpush.newest,
            hpush.next, hpush.cell, hpush.distinct, hpush.order⟩
        have hsized₁ : t₁.Sized header.len := by
          rw [ht₁]
          unfold Sized at *
          show t.size + header.len = _ + total Header.len t.headers
          omega
        obtain ⟨t', ht', hlinked', hsized', hle', hmax', hins', hheaders'⟩ :=
          convergeLoop_push (by omega) (t₁.slots.length + 2) t₁ hlinked₁ hsized₁.pushed
            (by rw [ht₁]; exact hfits)
            (by rw [ht₁]; exact h.inserted_lt) (by
              intro s' hs'
              rw [ht₁] at hs'
              change t.slots[j]? = some s' at hs'
              rw [hs] at hs'
              cases hs'
              exact hnext) (by omega)
        refine ⟨t'.pushed header (hash header.name) j t'.indices, ?_, hjname, hlinked', hsized',
          hle', ?_, ?_⟩
        · have hstored : t'.stored j = t.stored j := by
            unfold stored
            rw [hins', ht₁]
          have hjW : j + 1 < wordSize := by
            have := h.capacity_le
            have := hload hsens
            unfold wordSize
            omega
          have hpl : t'.pushLink header (hash header.name) (t'.stored j) =
              t'.pushed header (hash header.name) j t'.indices :=
            pushLink_eq (by rw [hins', ht₁]; exact h.inserted_lt) hjW
          have hupd : t.updateSize header.len (some (t.stored j)) =
              .ok (decide (t₁.maxSize < t₁.size), t') := by
            rw [updateSize, converge]
            rw [ht₁] at ht' ⊢
            change convergeLoop (some (t.stored j)) _ _ = _ at ht'
            rw [ht', ok_bind]
            rfl
          rw [indexOccupied, hwalk, ok_bind]
          simp only [hsens, Bool.false_eq_true, if_false]
          rw [hupd, ok_bind, ← hpl, hstored]
          cases statik with
          | some n => rfl
          | none => rfl
        · show t'.maxSize = t.maxSize
          rw [hmax', ht₁]
        · rw [hheaders', pushed_headers, ht₁]
          rfl

end Occupied

/-! ## A new name -/

section Vacant

variable {hash : Name S → Nat} {t : Table S} {header : Named S}

/-- The last part of `index_vacant`: the new slot and its cell. -/
theorem indexVacant_place {k n : Nat} (hlen : t.indices.length = 2 ^ k)
    (h : t.Linked hash) (hload : t.slots.length < t.capacity) (hnew : header.name ∉ t.names)
    (hpass : Passed t.indices (hash header.name % 2 ^ k) n)
    (hstops : Stops t.indices (hash header.name % 2 ^ k) n) :
    ∃ l, takeCell t.indices (wrap (2 ^ k) (hash header.name % 2 ^ k + n))
        ⟨wrappingSub 0 (wrappingAdd t.inserted 1), hash header.name⟩ = .ok l ∧
      (t.pushed header (hash header.name) t.slots.length l).Linked hash := by
  obtain ⟨x, hx⟩ : ∃ x : Pos, x = ⟨wrappingSub 0 (wrappingAdd t.inserted 1), hash header.name⟩ :=
    ⟨_, rfl⟩
  have hhome : home (2 ^ k) x = hash header.name % 2 ^ k := by rw [hx]; rfl
  obtain ⟨e, he, hempty⟩ := h.exists_empty (by
    intro h0
    have := Nat.two_pow_pos k
    rw [h0, List.length_nil] at hlen
    omega)
  rw [hlen] at he
  rw [← hhome] at hpass hstops
  obtain ⟨l, hl, hllen, hperm, horder⟩ := takeCell_spec hlen h.order he hempty hpass hstops
  have hfresh : x.index ∉ (entries t.indices).map (·.index) := by
    intro hmem
    obtain ⟨pos, hpos, hidx⟩ := List.mem_map.mp hmem
    obtain ⟨i, s, hs, _, rfl⟩ := (h.cell pos).mp hpos
    have hi : i < t.slots.length := (List.getElem?_eq_some_iff.mp hs).1
    have hcap := h.capacity_le
    have hins := h.inserted_lt
    rw [hx] at hidx
    simp only [stored] at hidx
    unfold wrappingAdd wrappingSub wordSize at *
    omega
  have hnodup : ((x :: entries t.indices).map (·.index)).Nodup :=
    List.nodup_cons.mpr ⟨hfresh, h.distinct⟩
  refine ⟨l, ?_, ?_⟩
  · rw [← hx, ← hhome]
    exact hl
  · refine h.push hload (hllen.trans hlen.symm) ?_ (fun hmem => absurd hmem hnew) horder
      ((hperm.map (·.index)).nodup_iff.mpr hnodup) ?_
    · intro s hs
      rw [List.getElem?_eq_none (Nat.le_refl _)] at hs
      cases hs
    · intro pos
      rw [hperm.mem_iff, List.mem_cons, hx]
      constructor
      · rintro (hpos | hpos)
        · exact .inr ⟨hnew, hpos⟩
        · exact .inl hpos
      · rintro (hpos | ⟨_, hpos⟩)
        · exact .inr hpos
        · exact .inl hpos

/-- The cell a new entry takes, after room was made: a search stops where it
stopped before or nearer to home. -/
theorem probe_after_eviction {t' : Table S} {k n : Nat} (hk : k ≤ 63)
    (hlen : t'.indices.length = 2 ^ k) (hmask : t'.mask = 2 ^ k - 1) (h' : t'.Linked hash)
    (hn : n < 2 ^ k) {d : Nat} (hd : d < 2 ^ k) (hpass : Passed t.indices d n)
    (hstops : Stops t.indices d n) (hev : Evicted t t') {b : Bool}
    (hsame : b = false → t'.indices = t.indices) :
    ∃ n', backProbe b t'.mask t'.indices n (wrap (2 ^ k) (d + n)) =
        .ok (wrap (2 ^ k) (d + n')) ∧
      Passed t'.indices d n' ∧ Stops t'.indices d n' := by
  cases b with
  | true =>
      obtain ⟨n', _, hwalk, hpass', hstops'⟩ :=
        walkBack_spec (by omega) hlen h'.order hd n hn (hstops.relaxed hev.length_eq hev.relaxed)
      refine ⟨n', ?_, hpass', hstops'⟩
      rw [hmask]
      exact hwalk
  | false =>
      rw [hsame rfl]
      exact ⟨n, rfl, hpass, hstops⟩

/-- `index_vacant`, at the cell where the search stopped. -/
theorem indexVacant_spec (h : t.Linked hash) (hsized : t.Sized 0)
    (hload : t.slots.length < t.capacity) (hfits : header.len ≤ t.maxSize)
    (hplain : header.isSensitive = false) {k n : Nat} (hk : k ≤ 63)
    (hlen : t.indices.length = 2 ^ k) (hmask : t.mask = 2 ^ k - 1) (hn : n < 2 ^ k)
    (hnew : header.name ∉ t.names) (hpass : Passed t.indices (hash header.name % 2 ^ k) n)
    (hstops : Stops t.indices (hash header.name % 2 ^ k) n) (statik : Option (Nat × Bool)) :
    ∃ t', t.indexVacant header (hash header.name) n
        (wrap (2 ^ k) (hash header.name % 2 ^ k + n)) statik =
        .ok ((match statik with
          | some (m, _) => .insertedValue m 0
          | none => .inserted 0), t') ∧
      t'.Linked hash ∧ t'.Sized 0 ∧ t'.size ≤ t'.maxSize ∧ t'.maxSize = t.maxSize ∧
      t'.headers = fit Header.len t.maxSize (header :: t.headers) := by
  have hd : hash header.name % 2 ^ k < 2 ^ k := Nat.mod_lt _ (Nat.two_pow_pos k)
  obtain ⟨t₁, ht₁⟩ : ∃ t₁, t₁ = { t with size := t.size + header.len } := ⟨_, rfl⟩
  have hlinked₁ : t₁.Linked hash := by
    rw [ht₁]
    exact ⟨h.shape, h.load, h.inserted_lt, h.slotHash, h.newest, h.next, h.cell, h.distinct,
      h.order⟩
  have hsized₁ : t₁.Sized header.len := by
    rw [ht₁]
    unfold Sized at *
    show t.size + header.len = _ + total Header.len t.headers
    omega
  obtain ⟨t₂, ht₂, hlinked₂, hsized₂, hle₂, hev, hheaders₂⟩ :=
    convergeLoop_spec (t₁.slots.length + 2) t₁ hlinked₁ hsized₁ (by rw [ht₁]; exact hfits)
      (by omega)
  have hcells : t₁.indices = t.indices := by rw [ht₁]
  have hlen₂ : t₂.indices.length = 2 ^ k := by rw [hev.length_eq, hcells, hlen]
  have hmask₂ : t₂.mask = 2 ^ k - 1 := by rw [hev.mask_eq, ht₁]; exact hmask
  have hprefix : t₂.headers <+: t.headers := by
    have := fit_prefix_self Header.len (t₁.maxSize - header.len) t₁.headers
    rw [← hheaders₂, ht₁] at this
    exact this
  have hnames₂ : header.name ∉ t₂.names := by
    intro hmem
    obtain ⟨s, hs, hname⟩ := List.mem_map.mp hmem
    have hh : s.header ∈ t.headers := hprefix.subset (List.mem_map.mpr ⟨s, hs, rfl⟩)
    obtain ⟨s', hs', hheader⟩ := List.mem_map.mp hh
    exact hnew (List.mem_map.mpr ⟨s', hs', by rw [hheader]; exact hname⟩)
  have hload₂ : t₂.slots.length < t₂.capacity := by
    have hle := hprefix.length_le
    simp only [headers, List.length_map] at hle
    unfold capacity at *
    rw [hlen₂]
    rw [hlen] at hload
    omega
  have hsame : decide (t₁.maxSize < t₁.size) = false → t₂.indices = t₁.indices := by
    intro hnot
    rw [convergeLoop, if_neg (by simpa using hnot)] at ht₂
    cases ht₂
    rfl
  rw [← hcells] at hpass hstops
  obtain ⟨n', hprobe, hpass', hstops'⟩ :=
    probe_after_eviction hk hlen₂ hmask₂ hlinked₂ hn hd hpass hstops hev hsame
  obtain ⟨l, hl, hlinked'⟩ := indexVacant_place hlen₂ hlinked₂ hload₂ hnames₂ hpass' hstops'
  refine ⟨t₂.pushed header (hash header.name) t₂.slots.length l, ?_, hlinked', hsized₂.pushed,
    hle₂, ?_, ?_⟩
  · have hupd : t.updateSize header.len none = .ok (decide (t₁.maxSize < t₁.size), t₂) := by
      rw [updateSize, converge]
      rw [ht₁] at ht₂ ⊢
      change convergeLoop none _ _ = _ at ht₂
      rw [ht₂, ok_bind]
      rfl
    -- the debug assertion: the cell before is one the search has passed
    have hbefore : n ≠ 0 → ∃ b,
        at' t.indices (wrappingSub (wrap (2 ^ k) (hash header.name % 2 ^ k + n)) 1 &&& t.mask) =
          .ok (some b) := by
      intro hn0
      obtain ⟨b, hb, _⟩ := hpass (n - 1) (by omega)
      rw [hcells, hlen] at hb
      refine ⟨b, ?_⟩
      have hback : wrappingSub (wrap (2 ^ k) (hash header.name % 2 ^ k + n)) 1 &&& t.mask =
          wrap (2 ^ k) (hash header.name % 2 ^ k + (n - 1)) := by
        have hw : wrap (2 ^ k) (hash header.name % 2 ^ k + n) < 2 ^ k := wrap_lt (by omega)
        rw [hmask, wrappingSub_and_mask (by omega) hw (by omega), mod_eq_wrap (by omega)]
        unfold wrap
        split_ifs <;> omega
      rw [hback, at'_cellAt (lt_length_of_cellAt hb), hb]
    have hinsert : t.insertVacant header (hash header.name) n
        (wrap (2 ^ k) (hash header.name % 2 ^ k + n)) =
        .ok (t₂.pushed header (hash header.name) t₂.slots.length l) := by
      rw [insertVacant, hupd, ok_bind]
      simp only [hprobe, ok_bind]
      change takeCell t₂.indices _ _ >>= _ = _
      rw [show (t₂.insert header (hash header.name)).inserted = wrappingAdd t₂.inserted 1 from rfl,
        hl, ok_bind]
      unfold pushed
      rw [List.modify_eq_self (Nat.le_refl _)]
      rfl
    rw [indexVacant]
    simp only [hplain, Bool.false_eq_true, if_false, hinsert]
    by_cases hn0 : n = 0
    · simp only [hn0, ne_eq, not_true_eq_false, if_false]
      cases statik with
      | none => rfl
      | some p => rfl
    · obtain ⟨b, hb⟩ := hbefore hn0
      simp only [hn0, ne_eq, not_false_eq_true, if_true]
      rw [hb]
      cases statik with
      | none => rfl
      | some p => rfl
  · show t₂.maxSize = t.maxSize
    rw [hev.maxSize_eq, ht₁]
  · rw [pushed_headers, hheaders₂, fit_cons Header.len hfits, ht₁]
    rfl

end Vacant

end Table

end NtexH2.Hpack
