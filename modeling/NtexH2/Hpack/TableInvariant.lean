/-
  Hpack/TableInvariant.lean --- the representation invariant of the encoder table.

  Slots of one name form a chain from the oldest to the newest.  The oldest slot
  of every name, and no other, has a cell in `indices`; every slot but the newest
  of its name links to the next newer one.  `Table.Linked` says so in terms of
  slot positions, together with the Robin Hood ordering of the cells and the
  bound on the load.  It does not speak about the table's size: while room is
  made for a header the size already counts that header.
-/
import NtexH2.Hpack.TableCells
import NtexH2.Lib.Fifo

set_option autoImplicit false

namespace NtexH2.Hpack

open Lib Lib.RobinHood Lib.Fifo

variable {S : HttpSyntax}

/-! ## Stored positions -/

theorem wrappingAdd_wrappingSub {i n : Nat} (hi : i < wordSize) (hn : n < wordSize) :
    wrappingAdd (wrappingSub i n) n = i := by
  unfold wrappingAdd wrappingSub wordSize at *
  omega

/-- A stored position does not change when a slot is pushed in front. -/
theorem wrappingSub_succ {i n : Nat} (hn : n < wordSize) :
    wrappingSub (i + 1) (wrappingAdd n 1) = wrappingSub i n := by
  unfold wrappingAdd wrappingSub wordSize at *
  omega

theorem wrappingAdd_lt (a b : Nat) : wrappingAdd a b < wordSize :=
  Nat.mod_lt _ (by decide)

namespace Table

/-- The stored position of the slot at real index `i`. -/
def stored (t : Table S) (i : Nat) : Nat := wrappingSub i t.inserted

/-- The names of the slots, newest first. -/
def names (t : Table S) : List (Name S) := t.slots.map (·.header.name)

/-- The headers of the slots, newest first. -/
def headers (t : Table S) : List (Named S) := t.slots.map (·.header)

/-- The structural invariant of the table. -/
structure Linked (hash : Name S → Nat) (t : Table S) : Prop where
  shape : (t.indices = [] ∧ t.mask = 0) ∨
    ∃ k, 3 ≤ k ∧ k ≤ 63 ∧ t.indices.length = 2 ^ k ∧ t.mask = 2 ^ k - 1
  load : t.slots.length ≤ t.capacity
  inserted_lt : t.inserted < wordSize
  slotHash : ∀ (i : Nat) (s : Slot S), t.slots[i]? = some s → s.hash = hash s.header.name
  newest : ∀ (i : Nat) (s : Slot S), t.slots[i]? = some s → s.next = none → Newest t.names i
  next : ∀ (i : Nat) (s : Slot S) x, t.slots[i]? = some s → s.next = some x →
    ∃ j, x = t.stored j ∧ NextNewer t.names i j
  cell : ∀ pos, pos ∈ entries t.indices ↔
    ∃ i s, t.slots[i]? = some s ∧ Oldest t.names i ∧ pos = ⟨t.stored i, s.hash⟩
  distinct : ((entries t.indices).map (·.index)).Nodup
  order : CellOrder t.indices

/-- The size of the table, with `extra` octets reserved. -/
def Sized (t : Table S) (extra : Nat) : Prop := t.size = extra + total Header.len t.headers

section Basic

variable {hash : Name S → Nat} {t : Table S}

theorem names_getElem? {i : Nat} {s : Slot S} (h : t.slots[i]? = some s) :
    t.names[i]? = some s.header.name := by
  simp [names, h]

theorem names_length : t.names.length = t.slots.length := by simp [names]

theorem Linked.capacity_le (h : t.Linked hash) : t.capacity ≤ 2 ^ 63 := by
  unfold capacity usableCapacity
  rcases h.shape with ⟨h0, _⟩ | ⟨k, _, hk, hlen, _⟩
  · simp [h0]
  · have := Nat.pow_le_pow_right (show 0 < 2 by decide) hk
    omega

theorem Linked.slots_lt (h : t.Linked hash) : t.slots.length < wordSize := by
  have := h.capacity_le
  have := h.load
  unfold wordSize
  omega

theorem Linked.realIdx_stored (h : t.Linked hash) {i : Nat} (hi : i ≤ t.slots.length) :
    t.realIdx (t.stored i) = i :=
  wrappingAdd_wrappingSub (Nat.lt_of_le_of_lt hi h.slots_lt) h.inserted_lt

theorem Linked.stored_inj (h : t.Linked hash) {i j : Nat} (hi : i ≤ t.slots.length)
    (hj : j ≤ t.slots.length) (heq : t.stored i = t.stored j) : i = j := by
  rw [← h.realIdx_stored hi, heq, h.realIdx_stored hj]

/-- A table with a slot has an array of cells. -/
theorem Linked.cells_of_slot (h : t.Linked hash) (hne : t.slots ≠ []) :
    ∃ k, 3 ≤ k ∧ k ≤ 63 ∧ t.indices.length = 2 ^ k ∧ t.mask = 2 ^ k - 1 := by
  rcases h.shape with ⟨h0, _⟩ | hk
  · have hload := h.load
    simp only [capacity, h0, usableCapacity, List.length_nil] at hload
    exact absurd (List.length_eq_zero_iff.mp (by omega)) hne
  · exact hk

/-- There are at most as many entries as slots. -/
theorem Linked.entries_le (h : t.Linked hash) : (entries t.indices).length ≤ t.slots.length := by
  have hsub : ((entries t.indices).map (·.index)) ⊆
      (List.range t.slots.length).map t.stored := by
    intro x hx
    obtain ⟨pos, hpos, rfl⟩ := List.mem_map.mp hx
    obtain ⟨i, s, hs, _, rfl⟩ := (h.cell pos).mp hpos
    have hi := (List.getElem?_eq_some_iff.mp hs).1
    exact List.mem_map.mpr ⟨i, List.mem_range.mpr hi, rfl⟩
  have := (List.subperm_of_subset h.distinct hsub).length_le
  simpa using this

/-- An array of cells is never full. -/
theorem Linked.exists_empty (h : t.Linked hash) (hne : t.indices ≠ []) :
    ∃ e, e < t.indices.length ∧ cellAt t.indices e = none := by
  apply RobinHood.exists_empty
  have hle := h.entries_le
  have hload := h.load
  have hpos : 0 < t.indices.length := List.length_pos_iff.mpr hne
  rcases h.shape with ⟨h0, _⟩ | ⟨k, hk, _, hlen, _⟩
  · exact absurd h0 hne
  · have h8 : 2 ^ 3 ≤ 2 ^ k := Nat.pow_le_pow_right (by decide) hk
    unfold capacity usableCapacity at hload
    omega

end Basic

/-! ## Eviction -/

section Evict

variable {hash : Name S → Nat} {t : Table S} {ss : List (Slot S)} {s : Slot S}

/-- The table after its last slot is gone and its cells are `l`. -/
def popped (t : Table S) (ss : List (Slot S)) (s : Slot S) (l : List (Option Pos)) : Table S :=
  { t with slots := ss, size := t.size - s.header.len, indices := l }

/-- Dropping the last slot keeps the invariant when its cell is dropped, or is
handed to the next newer slot of the name. -/
theorem Linked.popped (h : t.Linked hash) (hslots : t.slots = ss ++ [s])
    {l : List (Option Pos)} (hlen : l.length = t.indices.length) (horder : CellOrder l)
    (hdistinct : ((entries l).map (·.index)).Nodup)
    (hcell : ∀ pos, pos ∈ entries l ↔
      (pos ∈ entries t.indices ∧ pos ≠ ⟨t.stored ss.length, s.hash⟩) ∨
      ∃ j, NextNewer t.names ss.length j ∧ pos = ⟨t.stored j, s.hash⟩) :
    (t.popped ss s l).Linked hash := by
  have hnames : t.names = (t.popped ss s l).names ++ [s.header.name] := by
    simp [names, Table.popped, hslots]
  have hnlen : (t.popped ss s l).names.length = ss.length := by simp [names, Table.popped]
  have hget : ∀ {i : Nat} {s' : Slot S}, ss[i]? = some s' → t.slots[i]? = some s' := by
    intro i s' hi
    rw [hslots, List.getElem?_append_left (List.getElem?_eq_some_iff.mp hi).1]
    exact hi
  have hload : ss.length + 1 ≤ t.capacity := by
    have := h.load
    simpa [hslots] using this
  refine ⟨?_, ?_, h.inserted_lt, fun i s' hi => h.slotHash i s' (hget hi), ?_, ?_, ?_,
    hdistinct, horder⟩
  · rcases h.shape with ⟨h0, hm⟩ | ⟨k, hk3, hk, hk', hm⟩
    · rw [h0] at hlen
      exact .inl ⟨List.length_eq_zero_iff.mp hlen, hm⟩
    · exact .inr ⟨k, hk3, hk, hlen.trans hk', hm⟩
  · show ss.length ≤ usableCapacity l.length
    rw [hlen]
    exact Nat.le_of_succ_le hload
  · intro i s' hi hnext
    have hlt : i < ss.length := (List.getElem?_eq_some_iff.mp hi).1
    have := h.newest i s' (hget hi) hnext
    rwa [hnames, newest_concat (by omega)] at this
  · intro i s' x hi hnext
    have hlt : i < ss.length := (List.getElem?_eq_some_iff.mp hi).1
    obtain ⟨j, hj, hnn⟩ := h.next i s' x (hget hi) hnext
    rw [hnames, nextNewer_concat (by omega)] at hnn
    exact ⟨j, hj, hnn⟩
  · intro pos
    refine (hcell pos).trans ⟨?_, ?_⟩
    · rintro (⟨hpos, hne⟩ | ⟨j, hnn, rfl⟩)
      · obtain ⟨i, s', hi, hold, rfl⟩ := (h.cell pos).mp hpos
        rw [hslots] at hi
        rcases Nat.lt_or_ge i ss.length with hlt | hge
        · rw [List.getElem?_append_left hlt] at hi
          rw [hnames, oldest_concat (by omega)] at hold
          exact ⟨i, s', hi, hold.2, rfl⟩
        · have hi' := (List.getElem?_eq_some_iff.mp hi).1
          rw [List.length_append, List.length_singleton] at hi'
          obtain rfl : i = ss.length := by omega
          rw [List.getElem?_append_right (Nat.le_refl _)] at hi
          simp only [Nat.sub_self, List.getElem?_cons_zero, Option.some.injEq] at hi
          subst hi
          exact absurd rfl hne
      · rw [hnames, ← hnlen, nextNewer_concat_length] at hnn
        obtain ⟨hj, hname, hold⟩ := hnn
        rw [hnlen] at hj
        obtain ⟨s', hs'⟩ : ∃ s', ss[j]? = some s' := ⟨_, List.getElem?_eq_getElem hj⟩
        refine ⟨j, s', hs', hold, ?_⟩
        have hs'name : (t.popped ss s l).names[j]? = some s'.header.name := names_getElem? hs'
        have heq : s.header.name = s'.header.name :=
          Option.some.inj (hname.symm.trans hs'name)
        have hlast : t.slots[ss.length]? = some s := by simp [hslots]
        have hhash : s.hash = s'.hash := by
          rw [h.slotHash _ _ hlast, h.slotHash _ _ (hget hs'), heq]
        rw [hhash]
        rfl
    · rintro ⟨i, s', hi, hold, rfl⟩
      have hlt : i < ss.length := (List.getElem?_eq_some_iff.mp hi).1
      by_cases hname : (t.popped ss s l).names[i]? = some s.header.name
      · right
        refine ⟨i, ?_, ?_⟩
        · rw [hnames, ← hnlen, nextNewer_concat_length]
          exact ⟨by omega, hname, hold⟩
        · have hs'name : (t.popped ss s l).names[i]? = some s'.header.name := names_getElem? hi
          have heq : s.header.name = s'.header.name := Option.some.inj (hname.symm.trans hs'name)
          have hlast : t.slots[ss.length]? = some s := by simp [hslots]
          have hhash : s.hash = s'.hash := by
            rw [h.slotHash _ _ hlast, h.slotHash _ _ (hget hi), heq]
          rw [hhash]
          rfl
      · left
        refine ⟨(h.cell _).mpr ⟨i, s', hget hi, ?_, rfl⟩, ?_⟩
        · rw [hnames, oldest_concat (by omega)]
          exact ⟨hname, hold⟩
        · intro heq
          have hidx : t.stored i = t.stored ss.length := (Pos.mk.injEq .. ▸ heq).1
          have := h.stored_inj (by simp [hslots]; omega) (by simp [hslots]) hidx
          omega

theorem evictStep_other {prevIdx : Option Nat} {posIdx probe : Nat} {pos : Pos}
    (hpos : cellAt t.indices probe = some pos) (hne : pos.index ≠ posIdx) :
    t.evictStep prevIdx s posIdx probe () = .ok (.next ()) := by
  rw [evictStep, at'_cellAt (lt_length_of_cellAt hpos), hpos, ok_bind, unwrap, ok_bind,
    if_neg hne]
  rfl

theorem evictStep_link {prevIdx : Option Nat} {posIdx probe idx : Nat} {pos : Pos}
    (hpos : cellAt t.indices probe = some pos) (heq : pos.index = posIdx)
    (hnext : s.next = some idx) :
    t.evictStep prevIdx s posIdx probe () =
      .ok (.done (t.indices.set probe (some { pos with index := idx }))) := by
  rw [evictStep, at'_cellAt (lt_length_of_cellAt hpos), hpos, ok_bind, unwrap, ok_bind,
    if_pos heq, hnext]
  rfl

theorem evictStep_remove {posIdx probe : Nat} {pos : Pos} {l : List (Option Pos)}
    (hpos : cellAt t.indices probe = some pos) (heq : pos.index = posIdx)
    (hnext : s.next = none)
    (hremove : removePhaseTwo t.mask (t.indices.set probe none) probe = .ok l) :
    t.evictStep none s posIdx probe () = .ok (.done l) := by
  rw [evictStep, at'_cellAt (lt_length_of_cellAt hpos), hpos, ok_bind, unwrap, ok_bind,
    if_pos heq, hnext]
  simp only [reduceCtorEq, if_false]
  rw [hremove]
  rfl

/-- `evict` on a table whose last slot is led to by exactly one cell. -/
theorem evict_eq {prevIdx : Option Nat} (hslots : t.slots = ss ++ [s])
    (hsize : s.header.len ≤ t.size)
    (hcount : t.indices.countP (fun p => p.any (·.index == t.stored ss.length)) = 1) :
    t.evict prevIdx =
      (probing t.indices.length (desiredPos t.mask s.hash) ()
        (t.evictStep prevIdx s (t.stored ss.length))).map (t.popped ss s) := by
  have hne : t.slots.isEmpty = false := by simp [hslots]
  have hlast : t.slots.getLast? = some s := by simp [hslots]
  have hdrop : t.slots.dropLast = ss := by simp [hslots]
  have hidx : wrappingSub (t.slots.length - 1) t.inserted = t.stored ss.length := by
    simp [hslots, stored]
  rw [evict, hne, hlast, hdrop, hidx]
  simp only [assert, Bool.not_false, if_true, ok_bind, unwrap, Nat.not_lt.mpr hsize, if_false,
    hcount, BEq.rfl]
  cases probing t.indices.length (desiredPos t.mask s.hash) ()
    (t.evictStep prevIdx s (t.stored ss.length)) with
  | error e => rfl
  | ok l => rfl

theorem Linked.last_cell (h : t.Linked hash) (hslots : t.slots = ss ++ [s]) :
    ⟨t.stored ss.length, s.hash⟩ ∈ entries t.indices := by
  refine (h.cell _).mpr ⟨ss.length, s, by simp [hslots], ?_, rfl⟩
  have hnames : t.names = ss.map (·.header.name) ++ [s.header.name] := by simp [names, hslots]
  have := oldest_concat_length (l := ss.map (·.header.name)) (x := s.header.name)
  rwa [List.length_map, ← hnames] at this

theorem countP_cells (l : List (Option Pos)) (x : Nat) :
    l.countP (fun p => p.any (·.index == x)) = ((entries l).map (·.index)).count x := by
  induction l with
  | nil => rfl
  | cons o l ih =>
      cases o with
      | none => simpa [entries] using ih
      | some p =>
          rw [List.countP_cons, ih]
          simp [entries, List.count_cons]

theorem Linked.count_eq_one (h : t.Linked hash) (hslots : t.slots = ss ++ [s]) :
    t.indices.countP (fun p => p.any (·.index == t.stored ss.length)) = 1 := by
  rw [countP_cells]
  exact List.count_eq_one_of_mem h.distinct (List.mem_map.mpr ⟨_, h.last_cell hslots, rfl⟩)

/-- Entries with one stored position stand in one cell. -/
theorem Linked.cell_unique (h : t.Linked hash) {p q : Nat} {a b : Pos}
    (hp : cellAt t.indices p = some a) (hq : cellAt t.indices q = some b)
    (hidx : a.index = b.index) : p = q := by
  by_contra hne
  have hperm := (entries_set_none (getElem?_of_cellAt hp)).map (·.index)
  have hnodup := hperm.nodup_iff.mpr h.distinct
  have hq' : cellAt (t.indices.set p none) q = some b := by
    rw [cellAt_set _ (lt_length_of_cellAt hp), if_neg (Ne.symm hne)]
    exact hq
  have hmem : a.index ∈ (entries (t.indices.set p none)).map (·.index) :=
    List.mem_map.mpr ⟨b, mem_entries.mpr ⟨q, hq'⟩, hidx.symm⟩
  exact (List.nodup_cons.mp hnodup).1 hmem

/-- A slot with an older one of its name has no cell. -/
theorem Linked.not_cell_of_nextNewer (h : t.Linked hash) {i j : Nat} (hi : i < t.slots.length)
    (hnn : NextNewer t.names i j) : t.stored j ∉ (entries t.indices).map (·.index) := by
  intro hmem
  obtain ⟨pos, hpos, hidx⟩ := List.mem_map.mp hmem
  obtain ⟨m, s', hs', hold, rfl⟩ := (h.cell pos).mp hpos
  have hm : m < t.slots.length := (List.getElem?_eq_some_iff.mp hs').1
  have hji := hnn.1
  obtain rfl : m = j := h.stored_inj (by omega) (by omega) hidx
  exact hold i hji (by rw [names_length]; exact hi) hnn.2.1.symm

/-- The last slot hands its cell to the next newer slot of its name. -/
theorem Linked.popped_link (h : t.Linked hash) (hslots : t.slots = ss ++ [s]) {p j : Nat}
    (hp : cellAt t.indices p = some ⟨t.stored ss.length, s.hash⟩)
    (hnn : NextNewer t.names ss.length j) :
    (t.popped ss s (t.indices.set p (some ⟨t.stored j, s.hash⟩))).Linked hash ∧
      Relaxed t.indices (t.indices.set p (some ⟨t.stored j, s.hash⟩)) := by
  have hhash : ∀ q, (cellAt (t.indices.set p (some ⟨t.stored j, s.hash⟩)) q).map (·.hash) =
      (cellAt t.indices q).map (·.hash) := by
    intro q
    rw [cellAt_set _ (lt_length_of_cellAt hp)]
    split
    · next heq => rw [heq, hp, Option.map_some, Option.map_some]
    · rfl
  have hperm := entries_set_replace (b := ⟨t.stored j, s.hash⟩) (getElem?_of_cellAt hp)
  have hfresh := h.not_cell_of_nextNewer (by simp [hslots]) hnn
  have hnodup : ((⟨t.stored ss.length, s.hash⟩ ::
      entries (t.indices.set p (some ⟨t.stored j, s.hash⟩))).map (·.index)).Nodup := by
    refine (hperm.map (·.index)).nodup_iff.mpr ?_
    exact List.nodup_cons.mpr ⟨hfresh, h.distinct⟩
  obtain ⟨hout, hdistinct⟩ := List.nodup_cons.mp hnodup
  refine ⟨h.popped hslots (by simp) (h.order.congr (by simp) hhash) hdistinct ?_,
    relaxed_of_hash hhash⟩
  intro pos
  have hmem := hperm.mem_iff (a := pos)
  rw [List.mem_cons, List.mem_cons] at hmem
  constructor
  · intro hpos
    rcases hmem.mp (.inr hpos) with rfl | hold
    · exact .inr ⟨j, hnn, rfl⟩
    · refine .inl ⟨hold, ?_⟩
      rintro rfl
      exact hout (List.mem_map.mpr ⟨_, hpos, rfl⟩)
  · rintro (⟨hold, hne⟩ | ⟨j', hnn', rfl⟩)
    · exact (hmem.mpr (.inr hold)).resolve_left hne
    · obtain rfl := hnn.unique hnn'
      refine (hmem.mpr (.inl rfl)).resolve_left ?_
      intro heq
      have hidx : t.stored j = t.stored ss.length := (Pos.mk.injEq .. ▸ heq).1
      have hj := hnn.1
      have := h.stored_inj (by simp [hslots]; omega) (by simp [hslots]) hidx
      omega

/-- The last slot was the only one of its name and its cell is removed. -/
theorem Linked.popped_remove (h : t.Linked hash) (hslots : t.slots = ss ++ [s]) {p : Nat}
    (hp : cellAt t.indices p = some ⟨t.stored ss.length, s.hash⟩)
    (hnewest : Newest t.names ss.length) {l : List (Option Pos)}
    (hlen : l.length = t.indices.length)
    (hperm : (entries l).Perm (entries (t.indices.set p none))) (horder : CellOrder l) :
    (t.popped ss s l).Linked hash := by
  have hall := (hperm.cons ⟨t.stored ss.length, s.hash⟩).trans
    (entries_set_none (getElem?_of_cellAt hp))
  have hnodup := (hall.map (·.index)).nodup_iff.mpr h.distinct
  obtain ⟨hout, hdistinct⟩ := List.nodup_cons.mp hnodup
  refine h.popped hslots hlen horder hdistinct ?_
  intro pos
  have hmem := hall.mem_iff (a := pos)
  rw [List.mem_cons] at hmem
  constructor
  · intro hpos
    refine .inl ⟨hmem.mp (.inr hpos), ?_⟩
    rintro rfl
    exact hout (List.mem_map.mpr ⟨_, hpos, rfl⟩)
  · rintro (⟨hold, hne⟩ | ⟨j, hnn, _⟩)
    · exact (hmem.mpr hold).resolve_left hne
    · exact absurd hnn.2.1 (hnewest j hnn.1)

/-- `evict` drops the last slot and keeps the invariant. -/
theorem evict_spec (h : t.Linked hash) (hslots : t.slots = ss ++ [s])
    (hsize : s.header.len ≤ t.size) :
    ∃ l, t.evict none = .ok (t.popped ss s l) ∧ (t.popped ss s l).Linked hash ∧
      l.length = t.indices.length ∧ Relaxed t.indices l := by
  obtain ⟨k, hk3, hk, hlen, hmask⟩ := h.cells_of_slot (by simp [hslots])
  obtain ⟨e, he, hempty⟩ := h.exists_empty (by
    intro h0
    have hpos := Nat.two_pow_pos k
    rw [← hlen, h0] at hpos
    exact absurd hpos (Nat.lt_irrefl 0))
  obtain ⟨p, hp⟩ := mem_entries.mp (h.last_cell hslots)
  have hother : ∀ q b, q ≠ p → cellAt t.indices q = some b →
      t.evictStep none s (t.stored ss.length) q () = .ok (.next ()) := by
    intro q b hqp hb
    exact evictStep_other hb fun hidx => hqp (h.cell_unique hb hp hidx)
  have hslot : t.slots[ss.length]? = some s := by simp [hslots]
  rw [evict_eq hslots hsize (h.count_eq_one hslots)]
  have hstart : desiredPos t.mask s.hash = home (2 ^ k) ⟨t.stored ss.length, s.hash⟩ := by
    rw [hmask, desiredPos_eq]
    rfl
  rw [hstart]
  cases hnext : s.next with
  | some x =>
      obtain ⟨j, rfl, hnn⟩ := h.next _ _ _ hslot hnext
      rw [probing_entry hlen h.order hp hother (evictStep_link hp rfl hnext)]
      obtain ⟨hlinked, hrel⟩ := h.popped_link hslots hp hnn
      exact ⟨_, rfl, hlinked, by simp, hrel⟩
  | none =>
      obtain ⟨l, hl, hllen, hperm, horder, hrel⟩ :=
        removePhaseTwo_spec (by omega) hlen h.order hp (hlen ▸ he) hempty
      rw [← hmask] at hl
      rw [probing_entry hlen h.order hp hother (evictStep_remove hp rfl hnext hl)]
      exact ⟨l, rfl, h.popped_remove hslots hp (h.newest _ _ hslot hnext) (hllen.trans hlen.symm)
        hperm horder, hllen.trans hlen.symm, hrel⟩

/-- What making room leaves alone. -/
structure Evicted (t t' : Table S) : Prop where
  mask_eq : t'.mask = t.mask
  inserted_eq : t'.inserted = t.inserted
  maxSize_eq : t'.maxSize = t.maxSize
  length_eq : t'.indices.length = t.indices.length
  relaxed : Relaxed t.indices t'.indices

theorem Evicted.refl (t : Table S) : Evicted t t :=
  ⟨rfl, rfl, rfl, rfl, fun _ a ha => ⟨a, ha, Nat.le_refl _⟩⟩

theorem Evicted.trans {t t' t'' : Table S} (h : Evicted t t') (h' : Evicted t' t'') :
    Evicted t t'' :=
  ⟨h'.mask_eq.trans h.mask_eq, h'.inserted_eq.trans h.inserted_eq,
    h'.maxSize_eq.trans h.maxSize_eq, h'.length_eq.trans h.length_eq,
    h.relaxed.trans h.length_eq h'.relaxed⟩

theorem Sized.popped {extra : Nat} (h : t.Sized extra) (hslots : t.slots = ss ++ [s])
    (l : List (Option Pos)) : (t.popped ss s l).Sized extra := by
  have hlast : t.headers.getLast? = some s.header := by simp [headers, hslots]
  have htotal := total_dropLast_add Header.len hlast
  have hdrop : (t.popped ss s l).headers = t.headers.dropLast := by
    simp [headers, Table.popped, hslots]
  unfold Sized at *
  rw [hdrop]
  show t.size - s.header.len = _
  omega

theorem Sized.last_le {extra : Nat} (h : t.Sized extra) (hslots : t.slots = ss ++ [s]) :
    s.header.len ≤ t.size := by
  have hlast : t.headers.getLast? = some s.header := by simp [headers, hslots]
  have htotal := total_dropLast_add Header.len hlast
  unfold Sized at h
  omega

/-- A table over its bound has a slot, when the reserved octets fit. -/
theorem Sized.exists_last {extra : Nat} (h : t.Sized extra) (hextra : extra ≤ t.maxSize)
    (hover : t.maxSize < t.size) : ∃ ss s, t.slots = ss ++ [s] := by
  rcases List.eq_nil_or_concat t.slots with h0 | ⟨ss, s, hs⟩
  · unfold Sized headers at h
    rw [h0] at h
    simp at h
    omega
  · exact ⟨ss, s, by simpa using hs⟩

theorem popped_headers (hslots : t.slots = ss ++ [s]) (l : List (Option Pos)) :
    (t.popped ss s l).headers = t.headers.dropLast := by
  simp [headers, popped, hslots]

/-- The loop of `converge` ends and leaves the newest slots that fit. -/
theorem convergeLoop_spec {extra : Nat} :
    ∀ (fuel : Nat) (t : Table S), t.Linked hash → t.Sized extra → extra ≤ t.maxSize →
      t.slots.length < fuel →
      ∃ t', convergeLoop none fuel t = .ok t' ∧ t'.Linked hash ∧ t'.Sized extra ∧
        t'.size ≤ t'.maxSize ∧ Evicted t t' ∧
        t'.headers = fit Header.len (t.maxSize - extra) t.headers := by
  intro fuel
  induction fuel with
  | zero => intro t _ _ _ hfuel; omega
  | succ fuel ih =>
      intro t h hsized hextra hfuel
      rw [convergeLoop]
      by_cases hover : t.maxSize < t.size
      · rw [if_pos hover]
        obtain ⟨ss, s, hslots⟩ := hsized.exists_last hextra hover
        obtain ⟨l, hl, hlinked, hlen, hrel⟩ := evict_spec h hslots (hsized.last_le hslots)
        have hstep : Evicted t (t.popped ss s l) := ⟨rfl, rfl, rfl, hlen, hrel⟩
        rw [hl, ok_bind]
        obtain ⟨t', ht', hlinked', hsized', hle, hev, hheaders⟩ :=
          ih (t.popped ss s l) hlinked (hsized.popped hslots l) hextra (by
            have : t.slots.length = ss.length + 1 := by simp [hslots]
            show ss.length < fuel
            omega)
        refine ⟨t', ht', hlinked', hsized', hle, hstep.trans hev, ?_⟩
        rw [hheaders, popped_headers hslots]
        refine (fit_of_gt Header.len ?_).symm
        unfold Sized at hsized
        show t.maxSize - extra < _
        omega
      · rw [if_neg hover]
        refine ⟨t, rfl, h, hsized, by omega, Evicted.refl t, ?_⟩
        refine (fit_of_le Header.len ?_).symm
        unfold Sized at hsized
        omega

end Evict

/-! ## Pushing a slot -/

section Push

variable {hash : Name S → Nat} {t : Table S} {header : Named S}

/-- The link a new slot's predecessor in the chain gets. -/
def linkNew (t : Table S) (s : Slot S) : Slot S :=
  { s with next := some (wrappingSub 0 (wrappingAdd t.inserted 1)) }

/-- The table with a new slot in front, linked from the slot at `j`, if there is
one, and with cells `l`. -/
def pushed (t : Table S) (header : Named S) (hash j : Nat) (l : List (Option Pos)) : Table S :=
  { t with
    inserted := wrappingAdd t.inserted 1
    slots := ⟨hash, header, none⟩ :: t.slots.modify j t.linkNew
    indices := l }

theorem pushed_stored_succ (h : t.Linked hash) (n j i : Nat) (l : List (Option Pos)) :
    (t.pushed header n j l).stored (i + 1) = t.stored i :=
  wrappingSub_succ h.inserted_lt

theorem pushed_names (n j : Nat) (l : List (Option Pos)) :
    (t.pushed header n j l).names = header.name :: t.names := by
  have hmap : (t.slots.modify j t.linkNew).map (·.header.name) =
      t.slots.map (·.header.name) := by
    apply List.ext_getElem?
    intro i
    simp only [List.getElem?_map, List.getElem?_modify]
    cases t.slots[i]? with
    | none => rfl
    | some s => by_cases hij : j = i <;> simp [hij, linkNew]
  simp [names, pushed, hmap]

theorem pushed_headers (n j : Nat) (l : List (Option Pos)) :
    (t.pushed header n j l).headers = header :: t.headers := by
  have hmap : (t.slots.modify j t.linkNew).map (·.header) = t.slots.map (·.header) := by
    apply List.ext_getElem?
    intro i
    simp only [List.getElem?_map, List.getElem?_modify]
    cases t.slots[i]? with
    | none => rfl
    | some s => by_cases hij : j = i <;> simp [hij, linkNew]
  simp [headers, pushed, hmap]

/-- A slot of the pushed table other than the new one. -/
theorem pushed_slot {n j i : Nat} {l : List (Option Pos)} {s' : Slot S}
    (h : (t.pushed header n j l).slots[i + 1]? = some s') :
    ∃ s, t.slots[i]? = some s ∧ s'.hash = s.hash ∧ s'.header = s.header ∧
      s'.next = if i = j then some (wrappingSub 0 (wrappingAdd t.inserted 1)) else s.next := by
  simp only [pushed, List.getElem?_cons_succ, List.getElem?_modify] at h
  cases hs : t.slots[i]? with
  | none => rw [hs] at h; cases h
  | some s =>
      rw [hs] at h
      refine ⟨s, rfl, ?_⟩
      by_cases hij : j = i
      · subst hij
        simp only [if_true, Option.map_eq_map, Option.map_some, Option.some.injEq] at h
        subst h
        simp [linkNew]
      · simp only [hij, if_false, Option.map_eq_map, Option.map_some, Option.some.injEq] at h
        subst h
        simp [Ne.symm hij]

/-- Pushing a slot keeps the invariant, when the newest slot of its name links to
it and, if there is none, the slot gets a cell. -/
theorem Linked.push (h : t.Linked hash) {j : Nat} {l : List (Option Pos)}
    (hload : t.slots.length < t.capacity) (hlen : l.length = t.indices.length)
    (hlink : ∀ s, t.slots[j]? = some s → s.header.name = header.name ∧ Newest t.names j)
    (hname : header.name ∈ t.names → t.names[j]? = some header.name)
    (horder : CellOrder l) (hdistinct : ((entries l).map (·.index)).Nodup)
    (hcell : ∀ pos, pos ∈ entries l ↔ pos ∈ entries t.indices ∨
      (header.name ∉ t.names ∧
        pos = ⟨wrappingSub 0 (wrappingAdd t.inserted 1), hash header.name⟩)) :
    (t.pushed header (hash header.name) j l).Linked hash := by
  have hnames : (t.pushed header (hash header.name) j l).names = header.name :: t.names :=
    pushed_names _ _ _
  have hsucc : ∀ i, (t.pushed header (hash header.name) j l).stored (i + 1) = t.stored i :=
    fun i => pushed_stored_succ h _ _ _ _
  refine ⟨?_, ?_, wrappingAdd_lt _ _, ?_, ?_, ?_, ?_, hdistinct, horder⟩
  · rcases h.shape with ⟨h0, hm⟩ | ⟨k, hk3, hk, hk', hm⟩
    · rw [h0] at hlen
      exact .inl ⟨List.length_eq_zero_iff.mp hlen, hm⟩
    · exact .inr ⟨k, hk3, hk, hlen.trans hk', hm⟩
  · show (_ :: t.slots.modify j t.linkNew).length ≤ usableCapacity l.length
    rw [hlen, List.length_cons, List.length_modify]
    exact hload
  · intro i s' hs'
    cases i with
    | zero =>
        simp only [pushed, List.getElem?_cons_zero, Option.some.injEq] at hs'
        subst hs'
        rfl
    | succ i =>
        obtain ⟨s, hs, hh, hhd, _⟩ := pushed_slot hs'
        rw [hh, hhd]
        exact h.slotHash i s hs
  · intro i s' hs' hnext
    rw [hnames]
    cases i with
    | zero => exact newest_zero
    | succ i =>
        obtain ⟨s, hs, _, _, hn⟩ := pushed_slot hs'
        rw [hnext] at hn
        by_cases hij : i = j
        · rw [if_pos hij] at hn
          cases hn
        · rw [if_neg hij] at hn
          have hnew := h.newest i s hs hn.symm
          rw [newest_cons_succ]
          refine ⟨?_, hnew⟩
          intro hni
          -- two newest slots of one name are one slot
          have hnj := hname (List.mem_of_getElem? hni)
          have hj : j < t.slots.length := by
            rw [← names_length]
            exact (List.getElem?_eq_some_iff.mp hnj).1
          obtain ⟨_, hnewj⟩ := hlink _ (List.getElem?_eq_getElem hj)
          rcases Nat.lt_trichotomy i j with hlt | heq | hgt
          · exact hnewj i hlt (hni.trans hnj.symm)
          · exact hij heq
          · exact hnew j hgt (hnj.trans hni.symm)
  · intro i s' x hs' hnext
    rw [hnames]
    cases i with
    | zero =>
        simp only [pushed, List.getElem?_cons_zero, Option.some.injEq] at hs'
        subst hs'
        cases hnext
    | succ i =>
        obtain ⟨s, hs, _, _, hn⟩ := pushed_slot hs'
        rw [hnext] at hn
        by_cases hij : i = j
        · subst hij
          rw [if_pos rfl] at hn
          obtain ⟨hname', hnew⟩ := hlink s hs
          refine ⟨0, Option.some.inj hn, nextNewer_cons_zero.mpr ⟨?_, hnew⟩⟩
          rw [names_getElem? hs, hname']
        · rw [if_neg hij] at hn
          obtain ⟨m, rfl, hnn⟩ := h.next i s x hs hn.symm
          exact ⟨m + 1, (hsucc m).symm, nextNewer_cons_succ.mpr hnn⟩
  · intro pos
    rw [hnames]
    refine (hcell pos).trans ⟨?_, ?_⟩
    · rintro (hpos | ⟨hnot, rfl⟩)
      · obtain ⟨i, s, hs, hold, rfl⟩ := (h.cell pos).mp hpos
        obtain ⟨s', hs'⟩ :
            ∃ s', (t.pushed header (hash header.name) j l).slots[i + 1]? = some s' := by
          have hi := (List.getElem?_eq_some_iff.mp hs).1
          exact ⟨_, List.getElem?_eq_getElem (by simpa [pushed] using hi)⟩
        obtain ⟨s₀, hs₀, hh, _, _⟩ := pushed_slot hs'
        rw [hs] at hs₀
        cases hs₀
        exact ⟨i + 1, s', hs', oldest_cons_succ.mpr hold, by rw [hh, hsucc]⟩
      · exact ⟨0, _, rfl, oldest_cons_zero.mpr hnot, rfl⟩
    · rintro ⟨i, s', hs', hold, rfl⟩
      cases i with
      | zero =>
          simp only [pushed, List.getElem?_cons_zero, Option.some.injEq] at hs'
          subst hs'
          exact .inr ⟨oldest_cons_zero.mp hold, rfl⟩
      | succ i =>
          obtain ⟨s, hs, hh, _, _⟩ := pushed_slot hs'
          left
          rw [hsucc, hh]
          exact (h.cell _).mpr ⟨i, s, hs, oldest_cons_succ.mp hold, rfl⟩

theorem Sized.pushed {n j : Nat} {l : List (Option Pos)} (h : t.Sized header.len) :
    (t.pushed header n j l).Sized 0 := by
  unfold Sized at *
  rw [pushed_headers, total_cons]
  show t.size = _
  omega

end Push

end Table

end NtexH2.Hpack
