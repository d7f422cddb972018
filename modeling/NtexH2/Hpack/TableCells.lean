/-
  Hpack/TableCells.lean --- the cell array of the encoder table.

  One specification for each loop over `indices`: the backward shift of
  `remove_phase_two`, the forward shift and the backward walk of `index_vacant`,
  and the rebuilding of the array in `grow`.  Each says that the loop ends, that
  no index is out of bounds, which entries the array holds afterwards, and that
  the Robin Hood ordering is kept.
-/
import NtexH2.Hpack.Table

set_option autoImplicit false

namespace NtexH2.Hpack

open Lib Lib.RobinHood

/-! ## Words and positions -/

theorem desiredPos_eq (k h : Nat) : desiredPos (2 ^ k - 1) h = h % 2 ^ k :=
  Nat.and_two_pow_sub_one_eq_mod h k

/-- Subtracting modulo the word size and masking is subtracting around the ring. -/
theorem wrappingSub_and_mask {k a b : Nat} (hk : k ≤ 64) (ha : a < 2 ^ k) (hb : b ≤ 2 ^ k) :
    wrappingSub a b &&& (2 ^ k - 1) = (a + 2 ^ k - b) % 2 ^ k := by
  rw [Nat.and_two_pow_sub_one_eq_mod, wrappingSub, wordSize,
    Nat.mod_mod_of_dvd _ (Nat.pow_dvd_pow 2 hk)]
  obtain ⟨m, hm⟩ : ∃ m, 2 ^ 64 = 2 ^ k + 2 ^ k * m := by
    obtain ⟨d, hd⟩ := Nat.pow_dvd_pow 2 hk
    have hd0 : d ≠ 0 := by
      rintro rfl
      simp at hd
    exact ⟨d - 1, by rw [hd]; cases d with
      | zero => exact absurd rfl hd0
      | succ d => rw [Nat.mul_succ, Nat.add_comm]; rfl⟩
  rw [hm, show a + (2 ^ k + 2 ^ k * m) - b = a + 2 ^ k - b + 2 ^ k * m by omega,
    Nat.add_mul_mod_self_left]

theorem probeDistance_eq {k h p : Nat} (hk : k ≤ 64) (hp : p < 2 ^ k) :
    probeDistance (2 ^ k - 1) h p = displacement (2 ^ k) (h % 2 ^ k) p := by
  have hh : h % 2 ^ k < 2 ^ k := Nat.mod_lt _ (Nat.two_pow_pos k)
  rw [probeDistance, desiredPos_eq, wrappingSub_and_mask hk hp (Nat.le_of_lt hh), displacement,
    mod_eq_wrap (by omega)]

theorem at'_cellAt {α : Type} {l : List (Option α)} {p : Nat} (hp : p < l.length) :
    at' l p = .ok (cellAt l p) := by
  rw [at', List.getElem?_eq_getElem hp]
  simp [cellAt, List.getElem?_eq_getElem hp]

/-- The home position of an entry in an array of `c` cells. -/
def home (c : Nat) (pos : Pos) : Nat := pos.hash % c

theorem home_lt {k : Nat} (pos : Pos) : home (2 ^ k) pos < 2 ^ k :=
  Nat.mod_lt _ (Nat.two_pow_pos k)

/-- The Robin Hood ordering of a cell array. -/
def CellOrder (l : List (Option Pos)) : Prop :=
  RingOrdered l.length (home l.length) (cellAt l)

/-- Only the hash of an entry matters to the ordering. -/
theorem CellOrder.congr {l l' : List (Option Pos)} (h : CellOrder l)
    (hlen : l'.length = l.length)
    (hcell : ∀ p, (cellAt l' p).map (·.hash) = (cellAt l p).map (·.hash)) : CellOrder l' := by
  have hsome : ∀ p a', cellAt l' p = some a' → ∃ a, cellAt l p = some a ∧ a.hash = a'.hash := by
    intro p a' ha'
    have := hcell p
    rw [ha'] at this
    cases hl : cellAt l p with
    | none => rw [hl] at this; cases this
    | some a =>
        rw [hl] at this
        exact ⟨a, rfl, by simpa using this.symm⟩
  have hsome' : ∀ p a, cellAt l p = some a → ∃ a', cellAt l' p = some a' ∧ a'.hash = a.hash := by
    intro p a ha
    have := hcell p
    rw [ha] at this
    cases hl : cellAt l' p with
    | none => rw [hl] at this; cases this
    | some a' =>
        rw [hl] at this
        exact ⟨a', rfl, by simpa using this⟩
  unfold CellOrder at *
  rw [hlen]
  intro p a' hp ha' j hj
  obtain ⟨a, ha, hhash⟩ := hsome p a' ha'
  have hhome : home l.length a' = home l.length a := by simp [home, hhash]
  rw [hhome] at hj ⊢
  obtain ⟨b, hb, hbd⟩ := h p a hp ha j hj
  obtain ⟨b', hb', hbh⟩ := hsome' _ b hb
  refine ⟨b', hb', ?_⟩
  have : home l.length b' = home l.length b := by simp [home, hbh]
  rw [this]
  exact hbd

/-- Nothing moved away from home: every entry stands where one stood before that
was displaced at least as far. -/
def Relaxed (l l' : List (Option Pos)) : Prop :=
  ∀ p a, cellAt l' p = some a → ∃ b, cellAt l p = some b ∧
    displacement l.length (home l.length a) p ≤ displacement l.length (home l.length b) p

theorem Relaxed.trans {l l' l'' : List (Option Pos)} (hlen : l'.length = l.length)
    (h : Relaxed l l') (h' : Relaxed l' l'') : Relaxed l l'' := by
  intro p a ha
  obtain ⟨b, hb, hab⟩ := h' p a ha
  obtain ⟨c, hc, hbc⟩ := h p b hb
  rw [hlen] at hab
  exact ⟨c, hc, Nat.le_trans hab hbc⟩

/-- Replacing stored positions moves nothing. -/
theorem relaxed_of_hash {l l' : List (Option Pos)}
    (hcell : ∀ p, (cellAt l' p).map (·.hash) = (cellAt l p).map (·.hash)) : Relaxed l l' := by
  intro p a ha
  have := hcell p
  rw [ha] at this
  cases hl : cellAt l p with
  | none => rw [hl] at this; cases this
  | some b =>
      rw [hl] at this
      have hhash : a.hash = b.hash := by simpa using this
      exact ⟨b, rfl, by simp [home, hhash]⟩

/-! ## The array as a line -/

section Line

variable {k s : Nat} {l : List (Option Pos)}

/-- The line position of the home of an entry, for a line that starts at `s`. -/
def lineKey (k s : Nat) (pos : Pos) : Nat := cutPos (2 ^ k) s (home (2 ^ k) pos)

/-- The array may be cut before cell `s`. -/
def CellCut (l : List (Option Pos)) (s : Nat) : Prop :=
  Cut l.length (home l.length) (cellAt l) s

/-- Behind an empty cell the array may be cut. -/
theorem cellCut_of_empty {e : Nat} (he : e < l.length) (hempty : cellAt l e = none) :
    CellCut l (wrap l.length (e + 1)) := by
  left
  rw [bendPos_last he]
  exact hempty

theorem CellOrder.line (h : CellOrder l) (hlen : l.length = 2 ^ k) (hs : s < 2 ^ k)
    (hcut : CellCut l s) : Ordered (lineKey k s) (straight (2 ^ k) s (cellAt l)) := by
  unfold CellOrder at h
  unfold CellCut at hcut
  rw [hlen] at h hcut
  exact h.straight hs home_lt hcut

theorem cellOrder_of_line (hlen : l.length = 2 ^ k) (hs : s < 2 ^ k)
    (h : Ordered (lineKey k s) (straight (2 ^ k) s (cellAt l))) : CellOrder l := by
  unfold CellOrder
  rw [hlen]
  exact h.bend hs home_lt

theorem lineKey_lt (hs : s < 2 ^ k) (pos : Pos) : lineKey k s pos < 2 ^ k :=
  cutPos_lt hs (home_lt pos)

/-- On the line, `probe_distance` is the difference to the home cell. -/
theorem probeDistance_bendPos {r : Nat} {pos : Pos} (hk : k ≤ 64) (hs : s < 2 ^ k)
    (hr : r < 2 ^ k) (hle : lineKey k s pos ≤ r) :
    probeDistance (2 ^ k - 1) pos.hash (bendPos (2 ^ k) s r) = r - lineKey k s pos := by
  rw [probeDistance_eq hk (bendPos_lt hs hr)]
  exact displacement_bendPos hs hr (home_lt pos) hle

/-- A line view of an ordered array with an empty cell, the empty cell last. -/
theorem CellOrder.exists_line (h : CellOrder l) (hlen : l.length = 2 ^ k) {e : Nat}
    (he : e < 2 ^ k) (hempty : cellAt l e = none) :
    ∃ s f, s < 2 ^ k ∧ (∀ q, q < 2 ^ k → cellAt l (bendPos (2 ^ k) s q) = f q) ∧
      Ordered (lineKey k s) f ∧ f (2 ^ k - 1) = none ∧ (∀ q, 2 ^ k ≤ q → f q = none) := by
  have hs : wrap (2 ^ k) (e + 1) < 2 ^ k := wrap_lt (by omega)
  have hcut := cellCut_of_empty (hlen ▸ he) hempty
  rw [hlen] at hcut
  refine ⟨_, straight (2 ^ k) _ (cellAt l), hs, ?_, h.line hlen hs hcut, ?_, ?_⟩
  · intro q hq
    rw [straight_of_lt hq]
  · rw [straight_of_lt (by omega), bendPos_last he]
    exact hempty
  · intro q hq
    rw [straight_of_ge hq]

end Line

/-- A walk that starts at the home of an entry and passes all other entries comes
to that entry. -/
theorem probing_entry {ρ : Type} {k p : Nat} {l : List (Option Pos)} {pos : Pos} {r : ρ}
    {body : Nat → Unit → Except Panic (Probe Unit ρ)} (hlen : l.length = 2 ^ k)
    (horder : CellOrder l) (hp : cellAt l p = some pos)
    (hother : ∀ q b, q ≠ p → cellAt l q = some b → body q () = .ok (.next ()))
    (hdone : body p () = .ok (.done r)) :
    probing l.length (home (2 ^ k) pos) () body = .ok r := by
  have hpc : p < 2 ^ k := hlen ▸ lt_length_of_cellAt hp
  have hh : home (2 ^ k) pos < 2 ^ k := home_lt pos
  unfold CellOrder at horder
  rw [hlen] at horder
  obtain ⟨d, hd⟩ : ∃ d, d = displacement (2 ^ k) (home (2 ^ k) pos) p := ⟨_, rfl⟩
  have hdlt : d < 2 ^ k := by
    rw [hd]
    exact wrap_lt (by omega)
  have hend : wrap (2 ^ k) (home (2 ^ k) pos + d) = p := by
    rw [hd]
    unfold displacement wrap
    split_ifs <;> omega
  have hmain := probeLoop_spec_zero Panic.endless (2 ^ k) body
    (fun _ _ => True) (fun r' => r' = r) (home (2 ^ k) pos) d (2 * 2 ^ k + 2) ()
    (Nat.le_of_lt hh) hdlt (by omega) trivial ?_
  · obtain ⟨r', hr', rfl⟩ := hmain
    rw [probing, hlen]
    exact hr'
  · intro j _ hj _
    rw [mod_eq_wrap (by omega)]
    rcases Nat.eq_or_lt_of_le hj with heq | hlt
    · right
      rw [heq, hend]
      exact ⟨r, hdone, rfl⟩
    · left
      obtain ⟨b, hb, _⟩ := horder p pos hpc hp j (hd ▸ hlt)
      refine ⟨(), hother _ b ?_ hb, hlt, trivial⟩
      rw [← hend]
      unfold wrap
      split_ifs <;> omega

/-! ## Backward shift -/

section Shift

variable {k : Nat} {l : List (Option Pos)}

theorem removeStep_none {mask probe : Nat} {s : List (Option Pos) × Nat}
    (hlt : probe < s.1.length) (h : cellAt s.1 probe = none) :
    Table.removeStep mask probe s = .ok (.done s.1) := by
  rw [Table.removeStep, at'_cellAt hlt, h, ok_bind]
  rfl

theorem removeStep_some {mask probe : Nat} {s : List (Option Pos) × Nat} {pos : Pos}
    (hlt : probe < s.1.length) (h : cellAt s.1 probe = some pos) :
    Table.removeStep mask probe s =
      if probeDistance mask pos.hash probe > 0 then
        .ok (.next ((s.1.set s.2 (some pos)).set probe none, probe))
      else .ok (.done s.1) := by
  rw [Table.removeStep, at'_cellAt hlt, h, ok_bind]
  rfl

/-- The array after the first `i` moves of a backward shift into line cell `r`. -/
def Shifted (k s : Nat) (f : Nat → Option Pos) (r i : Nat) (l : List (Option Pos)) : Prop :=
  ∀ q, q < 2 ^ k → cellAt l (bendPos (2 ^ k) s q) =
    if q < r then f q else if q < r + i then f (q + 1) else if q = r + i then none else f q

/-- A backward shift that stopped before an empty cell or an entry at home leaves
the line ordered. -/
theorem Shifted.cellOrder {s r i : Nat} {f : Nat → Option Pos} (hlen : l.length = 2 ^ k)
    (hs : s < 2 ^ k) (hf : Ordered (lineKey k s) f) (hend : ∀ q, 2 ^ k ≤ q → f q = none)
    (hi : r + 1 + i < 2 ^ k) (h : Shifted k s f r i l)
    (hrun : ∀ q, r < q → q ≤ r + i → ∃ a, f q = some a ∧ lineKey k s a < q)
    (hstop : ∀ a, f (r + 1 + i) = some a → r + 1 + i ≤ lineKey k s a) : CellOrder l := by
  apply cellOrder_of_line hlen hs
  have hcells : ∀ q, q < 2 ^ k → straight (2 ^ k) s (cellAt l) q =
      if q < r then f q else if q < r + i then f (q + 1)
      else if q = r + i then none else f q := by
    intro q hq
    rw [straight_of_lt hq]
    exact h q hq
  refine hf.remove (p := r) (m := r + 1 + i) (by omega) ?_ hstop ?_ ?_ ?_ ?_
  · intro q hq hqm
    exact hrun q hq (by omega)
  · intro q hq
    rw [hcells q (by omega), if_pos hq]
  · intro q hq hqm
    rw [hcells q (by omega), if_neg (by omega), if_pos (by omega)]
  · rw [hcells _ (by omega), if_neg (by omega), if_neg (by omega), if_pos (by omega)]
  · intro q hq
    rcases Nat.lt_or_ge q (2 ^ k) with hqc | hqc
    · rw [hcells q hqc, if_neg (by omega), if_neg (by omega), if_neg (by omega)]
    · rw [straight_of_ge hqc, hend q hqc]

/-- A backward shift moves entries towards their homes. -/
theorem Shifted.relaxed {s r i : Nat} {f : Nat → Option Pos} {l₀ : List (Option Pos)} {old : Pos}
    (hlen : l.length = 2 ^ k) (hlen₀ : l₀.length = 2 ^ k) (hs : s < 2 ^ k)
    (hf : Ordered (lineKey k s) f)
    (hcells : ∀ q, q < 2 ^ k → cellAt l₀ (bendPos (2 ^ k) s q) = f q)
    (hold : f r = some old) (h : Shifted k s f r i l)
    (hrun : ∀ q, r < q → q ≤ r + i → ∃ a, f q = some a ∧ lineKey k s a < q) : Relaxed l₀ l := by
  intro p a ha
  have hp : p < 2 ^ k := hlen ▸ lt_length_of_cellAt ha
  obtain ⟨q, rfl, hq⟩ : ∃ q, bendPos (2 ^ k) s q = p ∧ q < 2 ^ k :=
    ⟨cutPos (2 ^ k) s p, bendPos_cutPos hs hp, cutPos_lt hs hp⟩
  rw [h q hq] at ha
  rw [hcells q hq, hlen₀]
  split_ifs at ha with h1 h2 h3
  · exact ⟨a, ha, Nat.le_refl _⟩
  · -- the entry stood in the next cell
    obtain ⟨b, hb⟩ : ∃ b, f q = some b := by
      rcases Nat.eq_or_lt_of_le (Nat.le_of_not_lt h1) with heq | hlt
      · exact ⟨old, heq ▸ hold⟩
      · obtain ⟨b, hb, _⟩ := hrun q hlt (by omega)
        exact ⟨b, hb⟩
    obtain ⟨a', ha', hlt⟩ := hrun (q + 1) (by omega) (by omega)
    rw [ha] at ha'
    cases ha'
    have hkey := hf.key_mono hb ha (Nat.lt_succ_self q)
    have hbq := (hf q b hb).1
    refine ⟨b, hb, ?_⟩
    have hda : displacement (2 ^ k) (home (2 ^ k) a) (bendPos (2 ^ k) s q) = q - lineKey k s a :=
      displacement_bendPos hs hq (home_lt a) (show lineKey k s a ≤ q by omega)
    have hdb : displacement (2 ^ k) (home (2 ^ k) b) (bendPos (2 ^ k) s q) = q - lineKey k s b :=
      displacement_bendPos hs hq (home_lt b) hbq
    omega
  · exact ⟨a, ha, Nat.le_refl _⟩

/-- One more move of the backward shift. -/
theorem Shifted.move {s r i : Nat} {f : Nat → Option Pos} {pos : Pos} (hlen : l.length = 2 ^ k)
    (hs : s < 2 ^ k) (hi : r + 1 + i < 2 ^ k) (h : Shifted k s f r i l)
    (hpos : f (r + 1 + i) = some pos) :
    Shifted k s f r (i + 1) ((l.set (bendPos (2 ^ k) s (r + i)) (some pos)).set
      (bendPos (2 ^ k) s (r + 1 + i)) none) := by
  intro q hq
  rw [cellAt_set _ (by simpa [hlen] using bendPos_lt hs hi),
    cellAt_set _ (by rw [hlen]; exact bendPos_lt hs (by omega)), h q hq]
  simp only [bendPos_inj hs hq hi, bendPos_inj hs hq (show r + i < 2 ^ k by omega)]
  by_cases ha : q = r + 1 + i
  · rw [if_pos ha, if_neg (by omega), if_neg (by omega), if_pos (by omega)]
  · rw [if_neg ha]
    by_cases hb : q = r + i
    · subst hb
      rw [if_pos rfl, if_neg (by omega), if_pos (by omega),
        show r + i + 1 = r + 1 + i by omega, hpos]
    · rw [if_neg hb]
      split_ifs <;> first | rfl | omega

/-- `remove_phase_two` ends, moves entries only, and restores the ordering of the
array from which the entry at `p` was taken. -/
theorem removePhaseTwo_spec (hk : k ≤ 64) (hlen : l.length = 2 ^ k) (horder : CellOrder l)
    {p e : Nat} {old : Pos} (hp : cellAt l p = some old) (he : e < 2 ^ k)
    (hempty : cellAt l e = none) :
    ∃ l', Table.removePhaseTwo (2 ^ k - 1) (l.set p none) p = .ok l' ∧ l'.length = 2 ^ k ∧
      (entries l').Perm (entries (l.set p none)) ∧ CellOrder l' ∧ Relaxed l l' := by
  have hpc : p < 2 ^ k := hlen ▸ lt_length_of_cellAt hp
  obtain ⟨s, f, hsc, hf, hline, hlast, hend⟩ := horder.exists_line hlen he hempty
  obtain ⟨r, hr⟩ : ∃ r, r = cutPos (2 ^ k) s p := ⟨_, rfl⟩
  have hrc : r < 2 ^ k := hr ▸ cutPos_lt hsc hpc
  have hbend : bendPos (2 ^ k) s r = p := by rw [hr, bendPos_cutPos hsc hpc]
  have hfr : f r = some old := by rw [← hf r hrc, hbend, hp]
  have hrlast : r ≠ 2 ^ k - 1 := by
    intro h
    rw [h, hlast] at hfr
    cases hfr
  -- after `i` moves the hole is at line cell `r + i`
  let Inv : Nat → List (Option Pos) × Nat → Prop := fun i st =>
    st.1.length = 2 ^ k ∧ st.2 = bendPos (2 ^ k) s (r + i) ∧
    (entries st.1).Perm (entries (l.set p none)) ∧ Shifted k s f r i st.1 ∧
    (∀ q, r < q → q ≤ r + i → ∃ a, f q = some a ∧ lineKey k s a < q)
  let Post : List (Option Pos) → Prop := fun l' =>
    l'.length = 2 ^ k ∧ (entries l').Perm (entries (l.set p none)) ∧ CellOrder l' ∧ Relaxed l l'
  have hmain := probeLoop_spec_zero Panic.endless (2 ^ k)
    (Table.removeStep (2 ^ k - 1)) Inv Post (p + 1) (2 ^ k - 2 - r) (2 * 2 ^ k + 2)
    (l.set p none, p) (by omega) (by omega) (by omega) ?_ ?_
  · obtain ⟨l', hl', hpost⟩ := hmain
    refine ⟨l', ?_, hpost⟩
    simp only [Table.removePhaseTwo, probing, List.length_set, hlen]
    exact hl'
  · refine ⟨by simp [hlen], by simp [hbend], List.Perm.refl _, ?_, fun q h1 h2 => by omega⟩
    intro q hq
    rw [cellAt_set _ (by omega), ← hbend, hf q hq]
    simp only [bendPos_inj hsc hq hrc]
    split_ifs <;> first | rfl | omega
  · intro i st hi hinv
    obtain ⟨hstlen, hstlast, hperm, hshift, hrun⟩ := hinv
    have hcell : (p + 1 + i) % 2 ^ k = bendPos (2 ^ k) s (r + 1 + i) := by
      rw [mod_eq_wrap (by omega), show p + 1 + i = p + (1 + i) by omega,
        show r + 1 + i = r + (1 + i) by omega, hr]
      exact wrap_home_add hsc hpc (by omega)
    have hlt : bendPos (2 ^ k) s (r + 1 + i) < st.1.length := by
      rw [hstlen]
      exact bendPos_lt hsc (by omega)
    have hcontent : cellAt st.1 (bendPos (2 ^ k) s (r + 1 + i)) = f (r + 1 + i) := by
      rw [hshift _ (by omega), if_neg (by omega), if_neg (by omega), if_neg (by omega)]
    have hstopped : (∀ a, f (r + 1 + i) = some a → r + 1 + i ≤ lineKey k s a) → Post st.1 :=
      fun h => ⟨hstlen, hperm, hshift.cellOrder hstlen hsc hline hend (by omega) hrun h,
        hshift.relaxed hstlen hlen hsc hline hf hfr hrun⟩
    rw [hcell]
    cases hcase : f (r + 1 + i) with
    | none =>
        right
        refine ⟨st.1, removeStep_none hlt (hcontent.trans hcase), hstopped ?_⟩
        intro a ha
        rw [hcase] at ha
        cases ha
    | some pos =>
        have hkey : lineKey k s pos ≤ r + 1 + i := (hline _ _ hcase).1
        have hne : r + 1 + i ≠ 2 ^ k - 1 := by
          intro h
          rw [h, hlast] at hcase
          cases hcase
        have hdist := probeDistance_bendPos hk hsc (r := r + 1 + i) (by omega) hkey
        rw [removeStep_some hlt (hcontent.trans hcase), hdist]
        by_cases hz : r + 1 + i - lineKey k s pos > 0
        · left
          rw [if_pos hz]
          have hhole : cellAt st.1 st.2 = none := by
            rw [hstlast, hshift _ (by omega), if_neg (by omega), if_neg (by omega), if_pos rfl]
          have hholeLt : st.2 < st.1.length := by
            rw [hstlast, hstlen]
            exact bendPos_lt hsc (by omega)
          have hneq : st.2 ≠ bendPos (2 ^ k) s (r + 1 + i) := by
            rw [hstlast, Ne, bendPos_inj hsc (by omega) (by omega)]
            omega
          refine ⟨_, rfl, by omega, by simp [hstlen], ?_, ?_, ?_, ?_⟩
          · rw [show r + (i + 1) = r + 1 + i by omega]
          · refine List.Perm.trans ?_ hperm
            exact entries_move hneq (getElem?_of_cellAt_none hholeLt hhole)
              (getElem?_of_cellAt (hcontent.trans hcase))
          · rw [hstlast]
            exact hshift.move hstlen hsc (by omega) hcase
          · intro q h1 h2
            rcases Nat.lt_or_ge (r + i) q with h3 | h3
            · obtain rfl : q = r + 1 + i := by omega
              exact ⟨pos, hcase, by omega⟩
            · exact hrun q h1 h3
        · right
          rw [if_neg hz]
          refine ⟨st.1, rfl, hstopped ?_⟩
          intro a ha
          rw [hcase] at ha
          cases ha
          omega

end Shift

/-! ## Insertion -/

section Insert

variable {k : Nat} {l : List (Option Pos)}

/-- The cells a search for an entry with home `h` has passed after `n` steps. -/
def Passed (l : List (Option Pos)) (h n : Nat) : Prop :=
  ∀ j, j < n → ∃ b, cellAt l (wrap l.length (h + j)) = some b ∧
    j ≤ displacement l.length (home l.length b) (wrap l.length (h + j))

/-- A cell at which a search stops after `n` steps: it is empty or its entry is
displaced less. -/
def Stops (l : List (Option Pos)) (h n : Nat) : Prop :=
  ∀ b, cellAt l (wrap l.length (h + n)) = some b →
    displacement l.length (home l.length b) (wrap l.length (h + n)) < n

/-- After a relaxation a search stops where it stopped before. -/
theorem Stops.relaxed {l' : List (Option Pos)} {h n : Nat} (hstops : Stops l h n)
    (hlen : l'.length = l.length) (hrel : Relaxed l l') : Stops l' h n := by
  intro b hb
  rw [hlen] at hb ⊢
  obtain ⟨c, hc, hle⟩ := hrel _ b hb
  exact Nat.lt_of_le_of_lt hle (hstops c hc)

theorem shiftStep_none {probe : Nat} {st : List (Option Pos) × Pos}
    (hlt : probe < st.1.length) (h : cellAt st.1 probe = none) :
    Table.shiftStep probe st = .ok (.done (st.1.set probe (some st.2))) := by
  rw [Table.shiftStep, at'_cellAt hlt, h, ok_bind]
  rfl

theorem shiftStep_some {probe : Nat} {st : List (Option Pos) × Pos} {pos : Pos}
    (hlt : probe < st.1.length) (h : cellAt st.1 probe = some pos) :
    Table.shiftStep probe st = .ok (.next (st.1.set probe (some st.2), pos)) := by
  rw [Table.shiftStep, at'_cellAt hlt, h, ok_bind]
  rfl

/-- The array after `x` took line cell `r` and the `i` entries from `r` on moved
one cell forward. -/
def Pushed (k s : Nat) (f : Nat → Option Pos) (x : Pos) (r i : Nat) (l : List (Option Pos)) :
    Prop :=
  ∀ q, q < 2 ^ k → cellAt l (bendPos (2 ^ k) s q) =
    if q < r then f q else if q = r then some x else if q ≤ r + i then f (q - 1) else f q

/-- A forward shift that ended in the empty line cell `r + i` leaves the line
ordered. -/
theorem Pushed.cellOrder {s r i : Nat} {f : Nat → Option Pos} {x : Pos}
    (hlen : l.length = 2 ^ k) (hs : s < 2 ^ k) (hf : Ordered (lineKey k s) f)
    (hend : ∀ q, 2 ^ k ≤ q → f q = none) (hi : r + i < 2 ^ k) (h : Pushed k s f x r i l)
    (hhome : lineKey k s x ≤ r)
    (hwalk : ∀ q, lineKey k s x ≤ q → q < r →
      ∃ b, f q = some b ∧ lineKey k s b ≤ lineKey k s x)
    (hstop : ∀ b, f r = some b → lineKey k s x < lineKey k s b)
    (hrun : ∀ q, r ≤ q → q < r + i → ∃ a, f q = some a) (hempty : f (r + i) = none) :
    CellOrder l := by
  apply cellOrder_of_line hlen hs
  have hcells : ∀ q, q < 2 ^ k → straight (2 ^ k) s (cellAt l) q =
      if q < r then f q else if q = r then some x
      else if q ≤ r + i then f (q - 1) else f q := by
    intro q hq
    rw [straight_of_lt hq]
    exact h q hq
  refine hf.insert (p := r) (m := r + i) (by omega) hhome hwalk hstop hrun hempty ?_ ?_ ?_ ?_
  · intro q hq
    rw [hcells q (by omega), if_pos hq]
  · rw [hcells r (by omega), if_neg (by omega), if_pos rfl]
  · intro q hq hqm
    rw [hcells (q + 1) (by omega), if_neg (by omega), if_neg (by omega), if_pos (by omega)]
    rfl
  · intro q hq
    rcases Nat.lt_or_ge q (2 ^ k) with hqc | hqc
    · rw [hcells q hqc, if_neg (by omega), if_neg (by omega), if_neg (by omega)]
    · rw [straight_of_ge hqc, hend q hqc]

/-- Putting the last moved entry into the next cell. -/
theorem Pushed.put {s r i : Nat} {f : Nat → Option Pos} {x prev : Pos}
    (hlen : l.length = 2 ^ k) (hs : s < 2 ^ k) (hi : r + 1 + i < 2 ^ k)
    (h : Pushed k s f x r i l) (hprev : f (r + i) = some prev) :
    Pushed k s f x r (i + 1) (l.set (bendPos (2 ^ k) s (r + 1 + i)) (some prev)) := by
  intro q hq
  rw [cellAt_set _ (by rw [hlen]; exact bendPos_lt hs hi), h q hq]
  simp only [bendPos_inj hs hq hi]
  by_cases ha : q = r + 1 + i
  · subst ha
    rw [if_pos rfl, if_neg (by omega), if_neg (by omega), if_pos (by omega),
      show r + 1 + i - 1 = r + i by omega, hprev]
  · rw [if_neg ha]
    split_ifs <;> first | rfl | omega

/-- Taking the cell at which the search for `x` stops adds `x` to the entries and
keeps the ordering. -/
theorem takeCell_spec (hlen : l.length = 2 ^ k) (horder : CellOrder l) {e n : Nat} {x : Pos}
    (he : e < 2 ^ k) (hempty : cellAt l e = none)
    (hpass : Passed l (home (2 ^ k) x) n) (hstops : Stops l (home (2 ^ k) x) n) :
    ∃ l', Table.takeCell l (wrap (2 ^ k) (home (2 ^ k) x + n)) x = .ok l' ∧
      l'.length = 2 ^ k ∧ (entries l').Perm (x :: entries l) ∧ CellOrder l' := by
  obtain ⟨s, f, hsc, hf, hline, hlast, hend⟩ := horder.exists_line hlen he hempty
  obtain ⟨d, hd⟩ : ∃ d, d = lineKey k s x := ⟨_, rfl⟩
  have hdc : d < 2 ^ k := hd ▸ lineKey_lt hsc x
  have hxc : home (2 ^ k) x < 2 ^ k := home_lt x
  unfold Passed at hpass
  unfold Stops at hstops
  rw [hlen] at hpass hstops
  have hpos : ∀ j, d + j < 2 ^ k →
      wrap (2 ^ k) (home (2 ^ k) x + j) = bendPos (2 ^ k) s (d + j) := by
    intro j hj
    rw [hd] at hj ⊢
    exact wrap_home_add hsc hxc hj
  -- the search has not crossed the empty cell at the end of the line
  have hdn : d + n < 2 ^ k := by
    by_contra hcon
    obtain ⟨b, hb, _⟩ := hpass (2 ^ k - 1 - d) (by omega)
    rw [hpos _ (by omega), show d + (2 ^ k - 1 - d) = 2 ^ k - 1 by omega,
      hf _ (by omega), hlast] at hb
    cases hb
  obtain ⟨r, hr⟩ : ∃ r, r = d + n := ⟨_, rfl⟩
  have hdisp : ∀ q b, q < 2 ^ k → f q = some b →
      displacement (2 ^ k) (home (2 ^ k) b) (bendPos (2 ^ k) s q) = q - lineKey k s b := by
    intro q b hq hb
    exact displacement_bendPos hsc hq (home_lt b) (hline q b hb).1
  have hwalk : ∀ q, d ≤ q → q < r → ∃ b, f q = some b ∧ lineKey k s b ≤ d := by
    intro q hq hqr
    obtain ⟨b, hb, hbd⟩ := hpass (q - d) (by omega)
    rw [hpos _ (by omega), show d + (q - d) = q by omega] at hb hbd
    rw [hf q (by omega)] at hb
    rw [hdisp q b (by omega) hb] at hbd
    have := (hline q b hb).1
    exact ⟨b, hb, by omega⟩
  have hstop : ∀ b, f r = some b → d < lineKey k s b := by
    intro b hb
    have hlt := hstops b (by rw [hpos n hdn, ← hr, hf r (by omega), hb])
    rw [hpos n hdn, ← hr, hdisp r b (by omega) hb] at hlt
    omega
  have hprobe : wrap (2 ^ k) (home (2 ^ k) x + n) = bendPos (2 ^ k) s r := by
    rw [hpos n hdn, hr]
  have hrc : r < 2 ^ k := by omega
  have hlt : bendPos (2 ^ k) s r < l.length := by
    rw [hlen]
    exact bendPos_lt hsc hrc
  -- after `x` is put at `r`
  have hpush : Pushed k s f x r 0 (l.set (bendPos (2 ^ k) s r) (some x)) := by
    intro q hq
    rw [cellAt_set _ hlt, hf q hq]
    simp only [bendPos_inj hsc hq hrc]
    split_ifs <;> first | rfl | omega
  rw [hprobe, Table.takeCell, at'_cellAt hlt, ok_bind, hf r hrc]
  cases hcase : f r with
  | none =>
      refine ⟨_, rfl, by simp [hlen], ?_, ?_⟩
      · exact entries_set_some (getElem?_of_cellAt_none hlt (by rw [hf r hrc, hcase]))
      · refine hpush.cellOrder (by simp [hlen]) hsc hline hend (by omega) (by omega) ?_ ?_
          (fun q h1 h2 => by omega) hcase
        · rw [← hd]
          exact hwalk
        · rw [← hd]
          exact hstop
  | some prev =>
      have hrlast : r ≠ 2 ^ k - 1 := by
        intro h
        rw [h, hlast] at hcase
        cases hcase
      let Inv : Nat → List (Option Pos) × Pos → Prop := fun i st =>
        st.1.length = 2 ^ k ∧ f (r + i) = some st.2 ∧ Pushed k s f x r i st.1 ∧
        (st.2 :: entries st.1).Perm (x :: entries l) ∧
        (∀ q, r ≤ q → q < r + i + 1 → ∃ a, f q = some a)
      let Post : List (Option Pos) → Prop := fun l' =>
        l'.length = 2 ^ k ∧ (entries l').Perm (x :: entries l) ∧ CellOrder l'
      have hmain := probeLoop_spec_zero Panic.endless (2 ^ k) Table.shiftStep
        Inv Post (bendPos (2 ^ k) s r + 1) (2 ^ k - 2 - r) (2 * 2 ^ k + 2)
        (l.set (bendPos (2 ^ k) s r) (some x), prev) (by omega) (by omega)
        (by omega) ?_ ?_
      · obtain ⟨l', hl', hpost⟩ := hmain
        refine ⟨l', ?_, hpost⟩
        simp only [Table.shiftForward, probing, List.length_set, hlen]
        exact hl'
      · refine ⟨by simp [hlen], hcase, hpush, ?_, ?_⟩
        · exact entries_set_replace (getElem?_of_cellAt (by rw [hf r hrc, hcase]))
        · intro q h1 h2
          obtain rfl : q = r := by omega
          exact ⟨prev, hcase⟩
      · intro i st hi hinv
        obtain ⟨hstlen, hprev, hpushed, hperm, hrun⟩ := hinv
        have hcell : (bendPos (2 ^ k) s r + 1 + i) % 2 ^ k = bendPos (2 ^ k) s (r + 1 + i) := by
          rw [hlen] at hlt
          rw [mod_eq_wrap (by omega), show bendPos (2 ^ k) s r + 1 + i =
            bendPos (2 ^ k) s r + (1 + i) by omega,
            wrap_home_add hsc hlt (by rw [cutPos_bendPos hsc hrc]; omega),
            cutPos_bendPos hsc hrc, show r + 1 + i = r + (1 + i) by omega]
        have hlt' : bendPos (2 ^ k) s (r + 1 + i) < st.1.length := by
          rw [hstlen]
          exact bendPos_lt hsc (by omega)
        have hcontent : cellAt st.1 (bendPos (2 ^ k) s (r + 1 + i)) = f (r + 1 + i) := by
          rw [hpushed _ (by omega), if_neg (by omega), if_neg (by omega), if_neg (by omega)]
        have hput := hpushed.put hstlen hsc (by omega) hprev
        rw [hcell]
        cases hnext : f (r + 1 + i) with
        | none =>
            right
            refine ⟨_, shiftStep_none hlt' (hcontent.trans hnext), by simp [hstlen], ?_, ?_⟩
            · exact (entries_set_some (getElem?_of_cellAt_none hlt'
                (hcontent.trans hnext))).trans hperm
            · refine hput.cellOrder (by simp [hstlen]) hsc hline hend (by omega) (by omega) ?_ ?_
                (fun q h1 h2 => hrun q h1 (by omega)) ?_
              · rw [← hd]
                exact hwalk
              · rw [← hd]
                exact hstop
              · rw [show r + (i + 1) = r + 1 + i by omega, hnext]
        | some next =>
            have hne : r + 1 + i ≠ 2 ^ k - 1 := by
              intro h
              rw [h, hlast] at hnext
              cases hnext
            left
            refine ⟨_, shiftStep_some hlt' (hcontent.trans hnext), by omega, by simp [hstlen],
              ?_, hput, ?_, ?_⟩
            · rw [show r + (i + 1) = r + 1 + i by omega, hnext]
            · exact (entries_set_replace (getElem?_of_cellAt (hcontent.trans hnext))).trans hperm
            · intro q h1 h2
              rcases Nat.lt_or_ge q (r + i + 1) with h3 | h3
              · exact hrun q h1 h3
              · obtain rfl : q = r + 1 + i := by omega
                exact ⟨next, hnext⟩

/-- The backward walk of `index_vacant` finds the cell at which a search from `h`
stops, starting from any later cell at which it would stop. -/
theorem walkBack_spec (hk : k ≤ 64) (hlen : l.length = 2 ^ k) (horder : CellOrder l) {h : Nat}
    (hh : h < 2 ^ k) : ∀ n, n < 2 ^ k → Stops l h n →
    ∃ n', n' ≤ n ∧ Table.walkBack (2 ^ k - 1) l n (wrap (2 ^ k) (h + n)) =
        .ok (wrap (2 ^ k) (h + n')) ∧ Passed l h n' ∧ Stops l h n' := by
  intro n
  induction n with
  | zero =>
      intro _ hstops
      refine ⟨0, Nat.le_refl 0, rfl, ?_, hstops⟩
      intro j hj
      omega
  | succ n ih =>
      intro hn hstops
      have hback : wrappingSub (wrap (2 ^ k) (h + (n + 1))) 1 &&& (2 ^ k - 1)
          = wrap (2 ^ k) (h + n) := by
        have hw : wrap (2 ^ k) (h + (n + 1)) < 2 ^ k := wrap_lt (by omega)
        rw [wrappingSub_and_mask hk hw (by omega), mod_eq_wrap (by omega)]
        unfold wrap
        split_ifs <;> omega
      have hlt : wrap (2 ^ k) (h + n) < l.length := by
        rw [hlen]
        exact wrap_lt (by omega)
      rw [Table.walkBack, hback, at'_cellAt hlt, ok_bind]
      cases hcase : cellAt l (wrap (2 ^ k) (h + n)) with
      | none =>
          obtain ⟨n', hle, hres, hpass, hstop'⟩ := ih (by omega) (by
            intro b hb
            rw [hlen, hcase] at hb
            cases hb)
          exact ⟨n', by omega, hres, hpass, hstop'⟩
      | some pos =>
          have hdist := probeDistance_eq (h := pos.hash) hk (hlen ▸ hlt)
          simp only [hdist]
          by_cases hlt' : displacement (2 ^ k) (pos.hash % 2 ^ k) (wrap (2 ^ k) (h + n)) < n
          · rw [if_pos hlt']
            obtain ⟨n', hle, hres, hpass, hstop'⟩ := ih (by omega) (by
              intro b hb
              rw [hlen, hcase] at hb
              cases hb
              rw [hlen]
              exact hlt')
            exact ⟨n', by omega, hres, hpass, hstop'⟩
          · rw [if_neg hlt']
            refine ⟨n + 1, Nat.le_refl _, rfl, ?_, hstops⟩
            -- the cell before stops nobody, so none before it does
            unfold CellOrder at horder
            rw [hlen] at horder
            intro j hj
            rw [hlen]
            rcases Nat.lt_or_ge j n with hjn | hjn
            · exact horder.walk_before home_lt hh (by omega) hcase (Nat.le_of_not_lt hlt') j hjn
            · obtain rfl : j = n := by omega
              exact ⟨pos, hcase, Nat.le_of_not_lt hlt'⟩

end Insert

/-! ## Growth -/

section Grow

variable {k s : Nat} {l : List (Option Pos)}

theorem reinsertStep_none {mask probe : Nat} {pos : Pos} (hlt : probe < l.length)
    (h : cellAt l probe = none) :
    Table.reinsertStep mask l pos probe () = .ok (.done (l.set probe (some pos))) := by
  rw [Table.reinsertStep, at'_cellAt hlt, h, ok_bind]
  rfl

theorem reinsertStep_some {mask probe : Nat} {pos them : Pos} (hlt : probe < l.length)
    (h : cellAt l probe = some them)
    (hle : probeDistance mask pos.hash probe ≤ probeDistance mask them.hash probe) :
    Table.reinsertStep mask l pos probe () = .ok (.next ()) := by
  rw [Table.reinsertStep, at'_cellAt hlt, h, ok_bind]
  simp only [assert, hle, decide_true, if_true]
  rfl

/-- An ordered array with an empty cell and an entry has an entry at home. -/
theorem exists_ideal (hk : k ≤ 64) (hlen : l.length = 2 ^ k) (horder : CellOrder l) {e p : Nat}
    {a : Pos} (he : e < 2 ^ k) (hempty : cellAt l e = none) (hp : cellAt l p = some a) :
    ∃ q b, cellAt l q = some b ∧ probeDistance (2 ^ k - 1) b.hash q = 0 := by
  obtain ⟨s, f, hsc, hf, hline, _, hend⟩ := horder.exists_line hlen he hempty
  have hpc : p < 2 ^ k := hlen ▸ lt_length_of_cellAt hp
  have hex : ∃ q, (f q).isSome := by
    refine ⟨cutPos (2 ^ k) s p, ?_⟩
    rw [← hf _ (cutPos_lt hsc hpc), bendPos_cutPos hsc hpc, hp]
    rfl
  -- the first entry on the line
  obtain ⟨b, hb⟩ := Option.isSome_iff_exists.mp (Nat.find_spec hex)
  have hqc : Nat.find hex < 2 ^ k := by
    by_contra hcon
    rw [hend _ (Nat.le_of_not_lt hcon)] at hb
    cases hb
  have hhome : lineKey k s b = Nat.find hex := by
    obtain ⟨hle, hwalk⟩ := hline _ _ hb
    rcases Nat.eq_or_lt_of_le hle with heq | hlt
    · exact heq
    · obtain ⟨b', hb', _⟩ := hwalk _ (Nat.le_refl _) hlt
      exact absurd (by rw [hb']; rfl) (Nat.find_min hex hlt)
  refine ⟨bendPos (2 ^ k) s (Nat.find hex), b, (hf _ hqc).trans hb, ?_⟩
  rw [probeDistance_bendPos hk hsc hqc (Nat.le_of_eq hhome), hhome, Nat.sub_self]

/-- `grow` starts its walk at a cell before which the array may be cut. -/
theorem firstIdeal_spec (hk : k ≤ 64) (hlen : l.length = 2 ^ k) (horder : CellOrder l) {e : Nat}
    (he : e < 2 ^ k) (hempty : cellAt l e = none) :
    Table.firstIdeal (2 ^ k - 1) l < 2 ^ k ∧ CellCut l (Table.firstIdeal (2 ^ k - 1) l) := by
  unfold Table.firstIdeal
  cases hfind : (List.range l.length).find? _ with
  | none =>
      simp only [Option.getD_none]
      refine ⟨Nat.two_pow_pos k, .inl ?_⟩
      -- no entry at home, so no entry at all
      cases hc : cellAt l (bendPos l.length 0 (l.length - 1)) with
      | none => rfl
      | some a =>
          exfalso
          obtain ⟨q, b, hb, hz⟩ := exists_ideal hk hlen horder he hempty hc
          have hq := lt_length_of_cellAt hb
          have hno := List.find?_eq_none.mp hfind q (List.mem_range.mpr hq)
          rw [getElem?_of_cellAt hb] at hno
          simp [hz] at hno
  | some q =>
      have hq : q < l.length := List.mem_range.mp (List.mem_of_find?_eq_some hfind)
      have htest := List.find?_some hfind
      simp only [Option.getD_some]
      refine ⟨hlen ▸ hq, .inr ?_⟩
      cases hc : l[q]? with
      | none => rw [hc] at htest; cases htest
      | some o =>
          cases o with
          | none => rw [hc] at htest; cases htest
          | some b =>
              rw [hc] at htest
              simp only [beq_iff_eq] at htest
              refine ⟨b, by simp [cellAt, hc], ?_⟩
              rw [probeDistance_eq hk (hlen ▸ hq)] at htest
              have hh : home (2 ^ k) b < 2 ^ k := home_lt b
              rw [hlen] at hq ⊢
              change displacement (2 ^ k) (home (2 ^ k) b) q = 0 at htest
              unfold displacement wrap at htest
              split_ifs at htest <;> omega

/-- Doubling the array keeps the line position of a home, modulo the old length. -/
theorem lineKey_succ (hs : s < 2 ^ k) (pos : Pos) :
    lineKey (k + 1) s pos = lineKey k s pos ∨
      lineKey (k + 1) s pos = lineKey k s pos + 2 ^ k := by
  unfold lineKey cutPos home
  have hdvd : pos.hash % 2 ^ (k + 1) % 2 ^ k = pos.hash % 2 ^ k :=
    Nat.mod_mod_of_dvd _ (Nat.pow_dvd_pow 2 (Nat.le_succ k))
  have hlt : pos.hash % 2 ^ (k + 1) < 2 ^ (k + 1) := Nat.mod_lt _ (Nat.two_pow_pos _)
  rw [Nat.pow_succ, Nat.mul_comm] at *
  rw [← hdvd]
  generalize pos.hash % (2 * 2 ^ k) = x at *
  generalize 2 ^ k = c at *
  rw [mod_eq_wrap hlt]
  unfold displacement wrap
  split_ifs <;> omega

/-- The rebuilt array after the first `n` cells of the old one.  On the line an
entry has kept its home or moved by the old length, and in either half it does
not stand later than the old cell it came from. -/
structure Rebuilt (k s : Nat) (l : List (Option Pos)) (n : Nat) (m : List (Option Pos)) :
    Prop where
  length : m.length = 2 ^ (k + 1)
  perm : (entries m).Perm (entries ((l.rotate s).take n))
  order : Ordered (lineKey (k + 1) s) (straight (2 ^ (k + 1)) s (cellAt m))
  half : ∀ o, o = 0 ∨ o = 2 ^ k → ∀ r a,
    straight (2 ^ (k + 1)) s (cellAt m) (o + r) = some a → r < 2 ^ k →
    r < n ∧ lineKey (k + 1) s a = lineKey k s a + o

theorem rotate_getElem? (hlen : l.length = 2 ^ k) (hs : s < 2 ^ k) {n : Nat} (hn : n < 2 ^ k) :
    (l.rotate s)[n]? = some (cellAt l (bendPos (2 ^ k) s n)) := by
  have hlt : bendPos (2 ^ k) s n < l.length := by
    rw [hlen]
    exact bendPos_lt hs hn
  rw [List.getElem?_rotate (by omega), hlen, mod_eq_wrap (by omega), Nat.add_comm n s]
  change l[bendPos (2 ^ k) s n]? = _
  rw [List.getElem?_eq_getElem hlt]
  simp [cellAt, List.getElem?_eq_getElem hlt]

theorem rotate_take_succ (hlen : l.length = 2 ^ k) (hs : s < 2 ^ k) {n : Nat} (hn : n < 2 ^ k) :
    (l.rotate s).take (n + 1) = (l.rotate s).take n ++ [cellAt l (bendPos (2 ^ k) s n)] := by
  rw [List.take_add_one, rotate_getElem? hlen hs hn]
  rfl

theorem entries_append (a b : List (Option Pos)) : entries (a ++ b) = entries a ++ entries b := by
  simp [entries]

/-- An entry of the rebuilt array stood in one of the cells visited so far. -/
theorem Rebuilt.old {n : Nat} {m : List (Option Pos)} (h : Rebuilt k s l n m)
    (hlen : l.length = 2 ^ k) (hs : s < 2 ^ k) (hn : n ≤ 2 ^ k) {r : Nat} {a : Pos}
    (ha : straight (2 ^ (k + 1)) s (cellAt m) r = some a) :
    ∃ q, q < n ∧ straight (2 ^ k) s (cellAt l) q = some a := by
  have hmem : a ∈ entries ((l.rotate s).take n) := by
    refine h.perm.mem_iff.mp (mem_entries.mpr ⟨bendPos (2 ^ (k + 1)) s r, ?_⟩)
    unfold straight at ha
    split at ha
    · exact ha
    · cases ha
  obtain ⟨q, hq⟩ := mem_entries.mp hmem
  have hqn : q < n := by
    have := lt_length_of_cellAt hq
    rw [List.length_take] at this
    omega
  refine ⟨q, hqn, ?_⟩
  have hget := getElem?_of_cellAt hq
  rw [List.getElem?_take, if_pos hqn, rotate_getElem? hlen hs (by omega)] at hget
  rw [straight_of_lt (by omega)]
  exact Option.some.inj hget

/-- Moving the next entry over. -/
theorem Rebuilt.insert {n : Nat} {m : List (Option Pos)} {x : Pos} (hk : k + 1 ≤ 64)
    (hlen : l.length = 2 ^ k) (hs : s < 2 ^ k)
    (hline : Ordered (lineKey k s) (straight (2 ^ k) s (cellAt l))) (hn : n < 2 ^ k)
    (h : Rebuilt k s l n m) (hx : cellAt l (bendPos (2 ^ k) s n) = some x) :
    ∃ m', Table.reinsertEntryInOrder (2 ^ (k + 1) - 1) m (some x) = .ok m' ∧
      Rebuilt k s l (n + 1) m' := by
  have hpow : 2 ^ (k + 1) = 2 * 2 ^ k := by rw [Nat.pow_succ, Nat.mul_comm]
  have hs2 : s < 2 ^ (k + 1) := by omega
  have hxline : straight (2 ^ k) s (cellAt l) n = some x := by rw [straight_of_lt hn, hx]
  have hdn : lineKey k s x ≤ n := (hline n x hxline).1
  -- the half in which the new home lies
  obtain ⟨o, ho, hkey⟩ : ∃ o, (o = 0 ∨ o = 2 ^ k) ∧ lineKey (k + 1) s x = lineKey k s x + o := by
    rcases lineKey_succ hs x with h0 | h1
    · exact ⟨0, .inl rfl, h0⟩
    · exact ⟨2 ^ k, .inr rfl, h1⟩
  have hoc : o + n < 2 ^ (k + 1) := by rcases ho with rfl | rfl <;> omega
  -- an entry of that half does not have a later home
  have hbefore : ∀ q b, lineKey (k + 1) s x ≤ q → q ≤ o + n →
      straight (2 ^ (k + 1)) s (cellAt m) q = some b →
      q < o + n ∧ lineKey (k + 1) s b ≤ lineKey (k + 1) s x := by
    intro q b hq hqn hb
    obtain ⟨r, rfl⟩ : ∃ r, q = o + r := ⟨q - o, by omega⟩
    obtain ⟨hrn, hbkey⟩ := h.half o ho r b hb (by omega)
    obtain ⟨q', hq', hb'⟩ := h.old hlen hs (by omega) hb
    have hmono := hline.key_mono hb' hxline hq'
    omega
  have hput : ∀ r, lineKey (k + 1) s x ≤ r → r ≤ o + n →
      straight (2 ^ (k + 1)) s (cellAt m) r = none →
      (∀ q, lineKey (k + 1) s x ≤ q → q < r →
        ∃ b, straight (2 ^ (k + 1)) s (cellAt m) q = some b ∧
          lineKey (k + 1) s b ≤ lineKey (k + 1) s x) →
      Rebuilt k s l (n + 1) (m.set (bendPos (2 ^ (k + 1)) s r) (some x)) := by
    intro r hr hrn hempty hwalk
    have hrc : r < 2 ^ (k + 1) := by omega
    have hlt : bendPos (2 ^ (k + 1)) s r < m.length := by
      rw [h.length]
      exact bendPos_lt hs2 hrc
    have hcell : cellAt m (bendPos (2 ^ (k + 1)) s r) = none := by
      rw [← hempty, straight_of_lt hrc]
    have hcells : ∀ q, straight (2 ^ (k + 1)) s
        (cellAt (m.set (bendPos (2 ^ (k + 1)) s r) (some x))) q =
        if q = r then some x else straight (2 ^ (k + 1)) s (cellAt m) q := by
      intro q
      rcases Nat.lt_or_ge q (2 ^ (k + 1)) with hqc | hqc
      · rw [straight_of_lt hqc, straight_of_lt hqc, cellAt_set _ hlt]
        simp only [bendPos_inj hs2 hqc hrc]
      · rw [straight_of_ge hqc, straight_of_ge hqc, if_neg (by omega)]
    refine ⟨by simp [h.length], ?_, ?_, ?_⟩
    · rw [rotate_take_succ hlen hs hn, hx, entries_append]
      have hp := (entries_set_some (a := x) (getElem?_of_cellAt_none hlt hcell)).trans
        (h.perm.cons x)
      exact hp.trans (List.perm_append_singleton x _).symm
    · refine h.order.insert (p := r) (m := r) (Nat.le_refl r) hr hwalk ?_ ?_ hempty ?_ ?_ ?_ ?_
      · intro b hb
        rw [hempty] at hb
        cases hb
      · intro q h1 h2
        omega
      · intro q hq
        rw [hcells, if_neg (by omega)]
      · rw [hcells, if_pos rfl]
      · intro q h1 h2
        omega
      · intro q hq
        rw [hcells, if_neg (by omega)]
    · intro o' ho' r' a ha hr'
      rw [hcells] at ha
      by_cases heq : o' + r' = r
      · rw [if_pos heq] at ha
        cases ha
        have hoo : o' = o := by rcases ho with rfl | rfl <;> rcases ho' with rfl | rfl <;> omega
        subst hoo
        exact ⟨by omega, hkey⟩
      · rw [if_neg heq] at ha
        obtain ⟨h1, h2⟩ := h.half o' ho' r' a ha hr'
        exact ⟨by omega, h2⟩
  have hmain := probeLoop_spec_zero Panic.endless (2 ^ (k + 1))
    (Table.reinsertStep (2 ^ (k + 1) - 1) m x)
    (fun i _ => ∀ q, lineKey (k + 1) s x ≤ q → q < lineKey (k + 1) s x + i →
        ∃ b, straight (2 ^ (k + 1)) s (cellAt m) q = some b ∧
          lineKey (k + 1) s b ≤ lineKey (k + 1) s x)
    (fun m' => Rebuilt k s l (n + 1) m') (home (2 ^ (k + 1)) x) (n - lineKey k s x)
    (2 * 2 ^ (k + 1) + 2) () (Nat.le_of_lt (home_lt x)) (by omega)
    (by omega) (fun q h1 h2 => by omega) ?_
  · obtain ⟨m', hm', hpost⟩ := hmain
    refine ⟨m', ?_, hpost⟩
    simp only [Table.reinsertEntryInOrder, probing, h.length, desiredPos_eq]
    exact hm'
  · intro i u hi hinv
    have hpos : (home (2 ^ (k + 1)) x + i) % 2 ^ (k + 1) =
        bendPos (2 ^ (k + 1)) s (lineKey (k + 1) s x + i) := by
      have hlt := home_lt (k := k + 1) x
      rw [mod_eq_wrap (by omega)]
      exact wrap_home_add hs2 hlt (show lineKey (k + 1) s x + i < 2 ^ (k + 1) by omega)
    have hlt : bendPos (2 ^ (k + 1)) s (lineKey (k + 1) s x + i) < m.length := by
      rw [h.length]
      exact bendPos_lt hs2 (by omega)
    have hcell : cellAt m (bendPos (2 ^ (k + 1)) s (lineKey (k + 1) s x + i)) =
        straight (2 ^ (k + 1)) s (cellAt m) (lineKey (k + 1) s x + i) := by
      rw [straight_of_lt (by omega)]
    rw [hpos]
    cases hcase : straight (2 ^ (k + 1)) s (cellAt m) (lineKey (k + 1) s x + i) with
    | none =>
        right
        exact ⟨_, reinsertStep_none hlt (hcell.trans hcase),
          hput _ (by omega) (by omega) hcase hinv⟩
    | some them =>
        left
        obtain ⟨hlt', hle⟩ := hbefore _ them (by omega) (by omega) hcase
        have hthem := (h.order _ _ hcase).1
        refine ⟨(), reinsertStep_some hlt (hcell.trans hcase) ?_, by omega, ?_⟩
        · rw [probeDistance_bendPos hk hs2 (by omega) (by omega),
            probeDistance_bendPos hk hs2 (by omega) hthem]
          omega
        · intro q h1 h2
          rcases Nat.lt_or_ge q (lineKey (k + 1) s x + i) with h3 | h3
          · exact hinv q h1 h3
          · obtain rfl : q = lineKey (k + 1) s x + i := by omega
            exact ⟨them, hcase, hle⟩

/-- The array after the first `n` cells were moved over. -/
theorem rebuild_spec (hk : k + 1 ≤ 64) (hlen : l.length = 2 ^ k) (hs : s < 2 ^ k)
    (hline : Ordered (lineKey k s) (straight (2 ^ k) s (cellAt l))) :
    ∀ n, n ≤ 2 ^ k → ∃ m, ((l.rotate s).take n).foldlM
      (Table.reinsertEntryInOrder (2 ^ (k + 1) - 1)) (List.replicate (2 ^ (k + 1)) none) = .ok m ∧
      Rebuilt k s l n m := by
  intro n
  induction n with
  | zero =>
      intro _
      have hnone : ∀ q, straight (2 ^ (k + 1)) s
          (cellAt (List.replicate (2 ^ (k + 1)) (none : Option Pos))) q = none := by
        intro q
        unfold straight cellAt
        split
        · rw [List.getElem?_replicate]
          split <;> rfl
        · rfl
      refine ⟨_, rfl, by simp, by simp [entries], ?_, ?_⟩
      · intro r a ha
        rw [hnone] at ha
        cases ha
      · intro o _ r a ha
        rw [hnone] at ha
        cases ha
  | succ n ih =>
      intro hn
      obtain ⟨m, hm, hre⟩ := ih (by omega)
      rw [rotate_take_succ hlen hs (by omega), List.foldlM_append, hm, ok_bind]
      simp only [List.foldlM_cons, List.foldlM_nil, bind_pure]
      cases hx : cellAt l (bendPos (2 ^ k) s n) with
      | none =>
          refine ⟨m, rfl, hre.length, ?_, hre.order, ?_⟩
          · rw [rotate_take_succ hlen hs (by omega), hx, entries_append]
            simpa [entries] using hre.perm
          · intro o ho r a ha hr
            obtain ⟨h1, h2⟩ := hre.half o ho r a ha hr
            exact ⟨by omega, h2⟩
      | some x => exact hre.insert hk hlen hs hline (by omega) hx

/-- `grow` moves every entry to an array of twice the length. -/
theorem grow_spec {S : HttpSyntax} {t : Table S} (hk : k + 1 ≤ 64) (hmask : t.mask = 2 ^ k - 1)
    (hlen : t.indices.length = 2 ^ k) (horder : CellOrder t.indices) {e : Nat} (he : e < 2 ^ k)
    (hempty : cellAt t.indices e = none) :
    ∃ m, t.grow (t.indices.length * 2) =
        .ok { t with mask := 2 ^ (k + 1) - 1, indices := m } ∧
      m.length = 2 ^ (k + 1) ∧ (entries m).Perm (entries t.indices) ∧ CellOrder m := by
  obtain ⟨hs, hcut⟩ := firstIdeal_spec (by omega) hlen horder he hempty
  obtain ⟨m, hm, hre⟩ := rebuild_spec hk hlen hs (horder.line hlen hs hcut) _ (Nat.le_refl _)
  have hrot : t.indices.rotate (Table.firstIdeal (2 ^ k - 1) t.indices) =
      t.indices.drop (Table.firstIdeal (2 ^ k - 1) t.indices) ++
        t.indices.take (Table.firstIdeal (2 ^ k - 1) t.indices) :=
    List.rotate_eq_drop_append_take (by omega)
  rw [List.take_of_length_le (by simp [hlen])] at hm
  have hperm := hre.perm
  rw [List.take_of_length_le (by simp [hlen])] at hperm
  refine ⟨m, ?_, hre.length, ?_, cellOrder_of_line hre.length (by rw [Nat.pow_succ]; omega)
    hre.order⟩
  · rw [hrot, List.foldlM_append] at hm
    rw [Table.grow, hmask, hlen, show 2 ^ k * 2 = 2 ^ (k + 1) from (Nat.pow_succ 2 k).symm]
    cases hup : (t.indices.drop (Table.firstIdeal (2 ^ k - 1) t.indices)).foldlM
        (Table.reinsertEntryInOrder (2 ^ (k + 1) - 1))
        (List.replicate (2 ^ (k + 1)) none) with
    | error e => rw [hup] at hm; cases hm
    | ok upper =>
        rw [hup, ok_bind] at hm
        rw [ok_bind, hm]
        rfl
  · refine hperm.trans ?_
    rw [hrot, entries_append]
    refine List.perm_append_comm.trans ?_
    rw [← entries_append, List.take_append_drop]

end Grow

end NtexH2.Hpack
