/-
  Lib/RobinHood.lean --- the Robin Hood ordering of an open-addressing table.

  A table of `c` cells is a map from positions to optional entries, and every
  entry has a home position.  The displacement of an entry is its distance from
  home, counted forward and around the end of the table.  The table is ordered
  when the walk from the home of an entry to the entry meets neither an empty
  cell nor an entry of smaller displacement.

  The operations are studied on a straightened table: cut behind an empty cell or
  before an entry at home, the ring becomes a line on which no walk crosses the
  cut, the displacement of an entry is a plain difference, and the ordering says
  that home positions never decrease along a run.  `RingOrdered.straight` and
  `Ordered.bend` go from the ring to the line and back.
-/
import NtexH2.Lib.Probe

set_option autoImplicit false

namespace Lib.RobinHood

variable {α : Type}

/-! ## On the line -/

/-- The ordering on a straightened table: an entry does not stand before its
home, and every cell from its home up to it is taken by an entry whose home is
not later. -/
def Ordered (key : α → Nat) (f : Nat → Option α) : Prop :=
  ∀ r a, f r = some a → key a ≤ r ∧
    ∀ q, key a ≤ q → q < r → ∃ b, f q = some b ∧ key b ≤ key a

section Line

variable {key : α → Nat} {f f' : Nat → Option α}

/-- Homes do not decrease along an ordered table. -/
theorem Ordered.key_mono (h : Ordered key f) {p q : Nat} {a b : α}
    (ha : f p = some a) (hb : f q = some b) (hpq : p < q) : key a ≤ key b := by
  rcases Nat.lt_or_ge p (key b) with hlt | hge
  · exact Nat.le_of_lt (Nat.lt_of_le_of_lt (h p a ha).1 hlt)
  · obtain ⟨a', ha', hle⟩ := (h q b hb).2 p hge hpq
    rw [ha] at ha'
    cases ha'
    exact hle

/-- An entry past an empty cell has its home past that cell. -/
theorem Ordered.key_gt_of_empty (h : Ordered key f) {m q : Nat} {a : α}
    (hm : f m = none) (ha : f q = some a) (hmq : m < q) : m < key a := by
  rcases Nat.lt_or_ge m (key a) with hlt | hge
  · exact hlt
  · obtain ⟨b, hb, _⟩ := (h q a ha).2 m hge hmq
    rw [hm] at hb
    cases hb

/-- Removal with backward shift keeps the ordering.  The entry at `p` goes, the
entries of `(p, m)`, none of them at home, move one cell back, and `m` is the
first cell that is empty or holds an entry at its home. -/
theorem Ordered.remove (h : Ordered key f) {p m : Nat} (hpm : p < m)
    (hrun : ∀ q, p < q → q < m → ∃ a, f q = some a ∧ key a < q)
    (hend : ∀ a, f m = some a → m ≤ key a)
    (hlow : ∀ q, q < p → f' q = f q)
    (hmid : ∀ q, p ≤ q → q + 1 < m → f' q = f (q + 1))
    (hgap : f' (m - 1) = none)
    (hhigh : ∀ q, m ≤ q → f' q = f q) : Ordered key f' := by
  intro r a hr
  rcases Nat.lt_or_ge r p with hrp | hrp
  · -- before the hole nothing moved
    rw [hlow r hrp] at hr
    obtain ⟨hle, hwalk⟩ := h r a hr
    refine ⟨hle, fun q hq hqr => ?_⟩
    rw [hlow q (by omega)]
    exact hwalk q hq hqr
  · rcases Nat.lt_or_ge r (m - 1) with hrm | hrm
    · -- a shifted entry stood at `r + 1`, away from home
      rw [hmid r hrp (by omega)] at hr
      obtain ⟨a', ha', hlt⟩ := hrun (r + 1) (by omega) (by omega)
      rw [hr] at ha'
      cases ha'
      obtain ⟨_, hwalk⟩ := h (r + 1) a hr
      refine ⟨by omega, fun q hq hqr => ?_⟩
      rcases Nat.lt_or_ge q p with hqp | hqp
      · rw [hlow q hqp]
        exact hwalk q hq (by omega)
      · rw [hmid q hqp (by omega)]
        exact hwalk (q + 1) (by omega) (by omega)
    · rcases Nat.eq_or_lt_of_le hrm with heq | hlt
      · rw [← heq, hgap] at hr
        cases hr
      · -- behind `m` no walk reaches back to the shifted run
        have hmr : m ≤ r := by omega
        rw [hhigh r hmr] at hr
        obtain ⟨hle, hwalk⟩ := h r a hr
        have hkey : m ≤ key a := by
          rcases Nat.eq_or_lt_of_le hmr with heq | hlt'
          · subst heq
            exact hend a hr
          · rcases Nat.lt_or_ge m (key a) with hlt'' | hge
            · omega
            · obtain ⟨b, hb, hba⟩ := hwalk m hge hlt'
              exact Nat.le_trans (hend b hb) hba
        refine ⟨hle, fun q hq hqr => ?_⟩
        rw [hhigh q (by omega)]
        exact hwalk q hq hqr

/-- Insertion with forward shift keeps the ordering.  The walk from the home of
`x` up to `p` meets entries whose home is not later; the cell `p` is empty or
holds an entry with a later home; the entries of `[p, m)` move one cell on, into
the first empty cell `m`. -/
theorem Ordered.insert (h : Ordered key f) {p m : Nat} {x : α} (hpm : p ≤ m)
    (hhome : key x ≤ p)
    (hwalk : ∀ q, key x ≤ q → q < p → ∃ b, f q = some b ∧ key b ≤ key x)
    (hstop : ∀ b, f p = some b → key x < key b)
    (hrun : ∀ q, p ≤ q → q < m → ∃ a, f q = some a)
    (hempty : f m = none)
    (hlow : ∀ q, q < p → f' q = f q)
    (hnew : f' p = some x)
    (hmid : ∀ q, p ≤ q → q < m → f' (q + 1) = f q)
    (hhigh : ∀ q, m < q → f' q = f q) : Ordered key f' := by
  -- every entry of the shifted run has a later home than `x`
  have hlater : ∀ q a, p ≤ q → q < m → f q = some a → key x < key a := by
    intro q a hpq hqm ha
    obtain ⟨y, hy⟩ := hrun p (Nat.le_refl p) (by omega)
    have hxy := hstop y hy
    rcases Nat.eq_or_lt_of_le hpq with heq | hlt
    · subst heq
      rw [hy] at ha
      cases ha
      exact hxy
    · exact Nat.lt_of_lt_of_le hxy (h.key_mono hy ha hlt)
  intro r a hr
  rcases Nat.lt_trichotomy r p with hrp | hrp | hrp
  · rw [hlow r hrp] at hr
    obtain ⟨hle, hw⟩ := h r a hr
    refine ⟨hle, fun q hq hqr => ?_⟩
    rw [hlow q (by omega)]
    exact hw q hq hqr
  · subst hrp
    rw [hnew] at hr
    cases hr
    refine ⟨hhome, fun q hq hqr => ?_⟩
    rw [hlow q hqr]
    exact hwalk q hq hqr
  · rcases Nat.lt_or_ge m r with hmr | hmr
    · rw [hhigh r hmr] at hr
      have hkey := h.key_gt_of_empty hempty hr hmr
      obtain ⟨hle, hw⟩ := h r a hr
      refine ⟨hle, fun q hq hqr => ?_⟩
      rw [hhigh q (by omega)]
      exact hw q hq hqr
    · -- a shifted entry stood at `r - 1`
      obtain ⟨s, rfl⟩ : ∃ s, r = s + 1 := ⟨r - 1, by omega⟩
      rw [hmid s (by omega) (by omega)] at hr
      have hx := hlater s a (by omega) (by omega) hr
      obtain ⟨hle, hw⟩ := h s a hr
      refine ⟨by omega, fun q hq hqs => ?_⟩
      rcases Nat.lt_trichotomy q p with hqp | hqp | hqp
      · rw [hlow q hqp]
        exact hw q hq (by omega)
      · subst hqp
        exact ⟨x, hnew, Nat.le_of_lt hx⟩
      · obtain ⟨t, rfl⟩ : ∃ t, q = t + 1 := ⟨q - 1, by omega⟩
        rw [hmid t (by omega) (by omega)]
        rcases Nat.lt_or_ge t (key a) with hta | hta
        · obtain ⟨b, hb⟩ := hrun t (by omega) (by omega)
          exact ⟨b, hb, by have := (h t b hb).1; omega⟩
        · exact hw t hta (by omega)

end Line

/-! ## Around the ring -/

/-- Reduction of a position below `2 * c` into the ring of `c` cells. -/
def wrap (c x : Nat) : Nat := if x < c then x else x - c

theorem wrap_lt {c x : Nat} (h : x < 2 * c) : wrap c x < c := by
  unfold wrap
  split <;> omega

theorem mod_eq_wrap {c x : Nat} (h : x < 2 * c) : x % c = wrap c x := by
  unfold wrap
  split
  · exact Nat.mod_eq_of_lt ‹_›
  · rw [Nat.mod_eq_sub_mod (by omega), Nat.mod_eq_of_lt (by omega)]

/-- Forward distance from `home` to `p`. -/
def displacement (c home p : Nat) : Nat := wrap c (p + c - home)

/-- The ordering on the ring: on the walk of length `displacement` from the home of an
entry every cell is taken by an entry displaced at least as far. -/
def RingOrdered (c : Nat) (home : α → Nat) (g : Nat → Option α) : Prop :=
  ∀ p a, p < c → g p = some a → ∀ j, j < displacement c (home a) p →
    ∃ b, g (wrap c (home a + j)) = some b ∧
      j ≤ displacement c (home b) (wrap c (home a + j))

/-- The ring position of line cell `r`, when the line starts at cell `s`. -/
def bendPos (c s r : Nat) : Nat := wrap c (s + r)

/-- The line cell of ring position `p`, when the line starts at cell `s`. -/
def cutPos (c s p : Nat) : Nat := displacement c s p

/-- The ring as a line of `c` cells that starts at cell `s`. -/
def straight (c s : Nat) (g : Nat → Option α) (r : Nat) : Option α :=
  if r < c then g (bendPos c s r) else none

/-- The ring may be cut before cell `s`: the cell before is empty, or the entry
of `s` is at home. -/
def Cut (c : Nat) (home : α → Nat) (g : Nat → Option α) (s : Nat) : Prop :=
  g (bendPos c s (c - 1)) = none ∨ ∃ a, g s = some a ∧ home a = s

section Ring

variable {c s : Nat} {home : α → Nat} {g : Nat → Option α}

theorem bendPos_lt {r : Nat} (hs : s < c) (hr : r < c) : bendPos c s r < c :=
  wrap_lt (by omega)

theorem cutPos_lt {p : Nat} (hs : s < c) (hp : p < c) : cutPos c s p < c :=
  wrap_lt (by omega)

theorem cutPos_bendPos {r : Nat} (hs : s < c) (hr : r < c) :
    cutPos c s (bendPos c s r) = r := by
  unfold cutPos displacement bendPos wrap
  split_ifs <;> omega

theorem bendPos_cutPos {p : Nat} (hs : s < c) (hp : p < c) :
    bendPos c s (cutPos c s p) = p := by
  unfold cutPos displacement bendPos wrap
  split_ifs <;> omega

theorem bendPos_inj {q r : Nat} (hs : s < c) (hq : q < c) (hr : r < c) :
    bendPos c s q = bendPos c s r ↔ q = r := by
  constructor
  · intro h
    have := congrArg (cutPos c s) h
    rwa [cutPos_bendPos hs hq, cutPos_bendPos hs hr] at this
  · rintro rfl
    rfl

/-- The line that starts behind cell `e` ends with `e`. -/
theorem bendPos_last {e : Nat} (he : e < c) : bendPos c (wrap c (e + 1)) (c - 1) = e := by
  unfold bendPos wrap
  split_ifs <;> omega

theorem straight_of_lt {r : Nat} (hr : r < c) : straight c s g r = g (bendPos c s r) :=
  if_pos hr

theorem straight_of_ge {r : Nat} (hr : c ≤ r) : straight c s g r = none :=
  if_neg (Nat.not_lt.mpr hr)

theorem straight_cutPos {p : Nat} (hs : s < c) (hp : p < c) :
    straight c s g (cutPos c s p) = g p := by
  rw [straight_of_lt (cutPos_lt hs hp), bendPos_cutPos hs hp]

/-- On the line the displacement is the difference to the home cell. -/
theorem displacement_bendPos {r h : Nat} (hs : s < c) (hr : r < c) (hh : h < c)
    (hle : cutPos c s h ≤ r) : displacement c h (bendPos c s r) = r - cutPos c s h := by
  unfold cutPos displacement bendPos wrap at *
  split_ifs at * <;> omega

/-- Walking `j` cells from home is walking `j` cells on the line, as long as the
walk stays on the line. -/
theorem wrap_home_add {j h : Nat} (hs : s < c) (hh : h < c)
    (hj : cutPos c s h + j < c) :
    wrap c (h + j) = bendPos c s (cutPos c s h + j) := by
  unfold cutPos displacement bendPos wrap at *
  split_ifs at * <;> omega

/-- A walk that leaves the end of the line comes back at its start. -/
theorem wrap_home_add_eq_start {h : Nat} (hs : s < c) (hh : h < c) :
    wrap c (h + (c - cutPos c s h)) = s ∨ cutPos c s h = 0 := by
  unfold cutPos displacement wrap
  split_ifs <;> omega

/-- The displacement of an entry that stands before its home on the line. -/
theorem displacement_of_crossing {r h : Nat} (hs : s < c) (hr : r < c) (hh : h < c)
    (hlt : r < cutPos c s h) :
    displacement c h (bendPos c s r) = r + (c - cutPos c s h) := by
  unfold cutPos displacement bendPos wrap at *
  split_ifs at * <;> omega

/-- In an ordered ring no entry stands before its home on a line that starts at a
cut: its walk would meet the empty cell at the end of the line, or the entry at
home at its start. -/
theorem RingOrdered.cut_home_le (h : RingOrdered c home g) (hs : s < c)
    (hhome : ∀ a, home a < c) (hcut : Cut c home g s) {r : Nat} {a : α} (hr : r < c)
    (ha : g (bendPos c s r) = some a) : cutPos c s (home a) ≤ r := by
  by_contra hcon
  have hlt : r < cutPos c s (home a) := Nat.lt_of_not_le hcon
  have hk := cutPos_lt (c := c) hs (hhome a)
  have hd := displacement_of_crossing hs hr (hhome a) hlt
  have hwalk := h (bendPos c s r) a (bendPos_lt hs hr) ha
  rcases hcut with hempty | ⟨b, hb, hbhome⟩
  · obtain ⟨b, hb, _⟩ := hwalk (c - 1 - cutPos c s (home a)) (by omega)
    have hlast : cutPos c s (home a) + (c - 1 - cutPos c s (home a)) = c - 1 := by omega
    rw [wrap_home_add hs (hhome a) (by omega), hlast, hempty] at hb
    cases hb
  · rcases Nat.eq_zero_or_pos r with hr0 | hr0
    · subst hr0
      have : bendPos c s 0 = s := by
        unfold bendPos wrap
        split_ifs <;> omega
      rw [this, hb] at ha
      cases ha
      have : cutPos c s (home a) = 0 := by
        unfold cutPos displacement wrap
        split_ifs <;> omega
      omega
    · obtain ⟨b', hb', hbd⟩ := hwalk (c - cutPos c s (home a)) (by omega)
      rcases wrap_home_add_eq_start hs (hhome a) with hstart | hzero
      · rw [hstart] at hb' hbd
        rw [hb] at hb'
        cases hb'
        have : displacement c (home b) s = 0 := by
          unfold displacement wrap
          split_ifs <;> omega
        omega
      · omega

/-- Cut before cell `s`, an ordered ring is an ordered line. -/
theorem RingOrdered.straight (h : RingOrdered c home g) (hs : s < c)
    (hhome : ∀ a, home a < c) (hcut : Cut c home g s) :
    Ordered (fun a => cutPos c s (home a)) (straight c s g) := by
  intro r a hr
  have hrc : r < c := by
    rcases Nat.lt_or_ge r c with hlt | hge
    · exact hlt
    · rw [straight_of_ge hge] at hr
      cases hr
  rw [straight_of_lt hrc] at hr
  have hle := h.cut_home_le hs hhome hcut hrc hr
  refine ⟨hle, fun q hq hqr => ?_⟩
  simp only at hq
  have hqc : q < c := by omega
  have hd := displacement_bendPos hs hrc (hhome a) hle
  obtain ⟨b, hb, hbd⟩ := h (bendPos c s r) a (bendPos_lt hs hrc) hr
    (q - cutPos c s (home a)) (by omega)
  have hsum : cutPos c s (home a) + (q - cutPos c s (home a)) = q := by omega
  rw [wrap_home_add hs (hhome a) (by omega), hsum] at hb hbd
  refine ⟨b, by rw [straight_of_lt hqc]; exact hb, ?_⟩
  -- displacement at least `q - key a` is a home not after `key a`
  have hble := h.cut_home_le hs hhome hcut hqc hb
  rw [displacement_bendPos hs hqc (hhome b) hble] at hbd
  show cutPos c s (home b) ≤ cutPos c s (home a)
  omega

/-- A ring whose straightening is an ordered line is ordered. -/
theorem Ordered.bend (hs : s < c) (hhome : ∀ a, home a < c)
    (h : Ordered (fun a => cutPos c s (home a)) (straight c s g)) :
    RingOrdered c home g := by
  intro p a hp ha j hj
  have hr := cutPos_lt (c := c) hs hp
  have hline : straight c s g (cutPos c s p) = some a := by
    rw [straight_cutPos hs hp]; exact ha
  obtain ⟨hle, hwalk⟩ := h _ _ hline
  simp only at hle hwalk
  have hd := displacement_bendPos hs hr (hhome a) hle
  rw [bendPos_cutPos hs hp] at hd
  obtain ⟨b, hb, hkey⟩ := hwalk (cutPos c s (home a) + j) (by omega) (by omega)
  have hqc : cutPos c s (home a) + j < c := by omega
  have hble := (h _ _ hb).1
  simp only at hble
  rw [straight_of_lt hqc] at hb
  refine ⟨b, ?_, ?_⟩
  · rw [wrap_home_add hs (hhome a) hqc]
    exact hb
  · rw [wrap_home_add hs (hhome a) hqc, displacement_bendPos hs hqc (hhome b) hble]
    omega

/-- A cell that a walk from `h` may pass is preceded only by such cells. -/
theorem RingOrdered.walk_before (hord : RingOrdered c home g) (hhome : ∀ a, home a < c)
    {h n : Nat} {b : α} (hh : h < c) (hn : n < c) (hb : g (wrap c (h + n)) = some b)
    (hbd : n ≤ displacement c (home b) (wrap c (h + n))) :
    ∀ j, j < n → ∃ b', g (wrap c (h + j)) = some b' ∧
      j ≤ displacement c (home b') (wrap c (h + j)) := by
  intro j hj
  have hp : wrap c (h + n) < c := wrap_lt (by omega)
  have hlt : displacement c (home b) (wrap c (h + n)) < c := by
    have := hhome b
    unfold displacement
    exact wrap_lt (by omega)
  obtain ⟨b', hb', hbd'⟩ := hord _ b hp hb
    (displacement c (home b) (wrap c (h + n)) - n + j) (by omega)
  have hpos : wrap c (home b + (displacement c (home b) (wrap c (h + n)) - n + j))
      = wrap c (h + j) := by
    have := hhome b
    unfold displacement wrap at *
    split_ifs at * <;> omega
  rw [hpos] at hb' hbd'
  exact ⟨b', hb', by omega⟩

end Ring

/-! ## Tables as lists of cells -/

/-- The content of a cell, `none` for an empty cell or a position outside. -/
def cellAt (l : List (Option α)) (p : Nat) : Option α := (l[p]?).join

/-- The entries of a table, in the order of their cells. -/
def entries (l : List (Option α)) : List α := l.filterMap id

section Cells

variable {l : List (Option α)} {i j : Nat} {a b : α}

theorem getElem?_of_cellAt (h : cellAt l i = some a) : l[i]? = some (some a) := by
  unfold cellAt at h
  cases hi : l[i]? with
  | none => rw [hi] at h; cases h
  | some o => rw [hi] at h; simpa using h

theorem getElem?_of_cellAt_none (hi : i < l.length) (h : cellAt l i = none) :
    l[i]? = some none := by
  unfold cellAt at h
  rw [List.getElem?_eq_getElem hi] at h ⊢
  simpa using h

theorem lt_length_of_cellAt (h : cellAt l i = some a) : i < l.length := by
  have := getElem?_of_cellAt h
  exact (List.getElem?_eq_some_iff.mp this).1

theorem cellAt_set (o : Option α) (hi : i < l.length) :
    cellAt (l.set i o) j = if j = i then o else cellAt l j := by
  unfold cellAt
  rw [List.getElem?_set]
  by_cases hij : i = j
  · subst hij
    simp [hi]
  · simp [hij, Ne.symm hij]

theorem mem_entries : a ∈ entries l ↔ ∃ p, cellAt l p = some a := by
  have hmem : a ∈ entries l ↔ some a ∈ l := by simp [entries]
  rw [hmem, List.mem_iff_getElem?]
  constructor
  · rintro ⟨p, hp⟩
    exact ⟨p, by simp [cellAt, hp]⟩
  · rintro ⟨p, hp⟩
    exact ⟨p, getElem?_of_cellAt hp⟩

/-- Filling an empty cell adds its entry. -/
theorem entries_set_some (h : l[i]? = some none) :
    (entries (l.set i (some a))).Perm (a :: entries l) := by
  induction l generalizing i with
  | nil => simp at h
  | cons x l ih =>
      cases i with
      | zero =>
          simp only [List.getElem?_cons_zero, Option.some.injEq] at h
          subst h
          simp [entries]
      | succ i =>
          have hperm := ih (i := i) (by simpa using h)
          cases x with
          | none => simpa [entries] using hperm
          | some x =>
              have h1 := (hperm.cons x).trans (List.Perm.swap a x _)
              simpa [entries] using h1

/-- Clearing a taken cell drops its entry. -/
theorem entries_set_none (h : l[i]? = some (some a)) :
    (a :: entries (l.set i none)).Perm (entries l) := by
  have hi : i < l.length := (List.getElem?_eq_some_iff.mp h).1
  have hclear : (l.set i none)[i]? = some none := by simp [hi]
  have hback := entries_set_some (a := a) hclear
  have hset : (l.set i none).set i (some a) = l := by
    rw [List.set_set]
    have hget : l[i] = some a := by
      rw [List.getElem?_eq_getElem hi] at h
      exact Option.some.inj h
    rw [← hget, List.set_getElem_self]
  rw [hset] at hback
  exact hback.symm

/-- Replacing the entry of a cell. -/
theorem entries_set_replace (h : l[i]? = some (some a)) :
    (a :: entries (l.set i (some b))).Perm (b :: entries l) := by
  have hi : i < l.length := (List.getElem?_eq_some_iff.mp h).1
  have hfill : (entries ((l.set i none).set i (some b))).Perm (b :: entries (l.set i none)) :=
    entries_set_some (by simp [hi])
  rw [List.set_set] at hfill
  calc (a :: entries (l.set i (some b))).Perm (a :: b :: entries (l.set i none)) :=
        hfill.cons a
    _ |>.Perm (b :: a :: entries (l.set i none)) := List.Perm.swap b a _
    _ |>.Perm (b :: entries l) := (entries_set_none h).cons b

/-- Moving an entry to an empty cell. -/
theorem entries_move (hij : i ≠ j) (hi : l[i]? = some none) (hj : l[j]? = some (some a)) :
    (entries ((l.set i (some a)).set j none)).Perm (entries l) := by
  have hj' : (l.set i (some a))[j]? = some (some a) := by
    rw [List.getElem?_set, if_neg hij]
    exact hj
  have h1 := (entries_set_none hj').trans (entries_set_some hi)
  exact h1.cons_inv

/-- A table with fewer entries than cells has an empty cell. -/
theorem exists_empty (h : (entries l).length < l.length) :
    ∃ p, p < l.length ∧ cellAt l p = none := by
  by_contra hcon
  have hfull : ∀ o ∈ l, o.isSome := by
    intro o ho
    obtain ⟨p, hp, rfl⟩ := List.mem_iff_getElem.mp ho
    cases hc : l[p] with
    | some a => rfl
    | none =>
        exact absurd ⟨p, hp, by simp [cellAt, List.getElem?_eq_getElem hp, hc]⟩ hcon
  have hlen : (entries l).length = l.length := by
    simpa [entries, List.length_filterMap_eq_countP, List.countP_eq_length] using hfull
  omega

end Cells

end Lib.RobinHood
