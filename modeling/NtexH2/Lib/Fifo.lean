/-
  Lib/Fifo.lean --- a queue bounded by the total weight of its elements.

  The queue is a list, newest element first.  `fit` pops elements from the back
  while the total weight is over the bound.  The second part is about the equal
  elements of a queue as a chain that leads from the oldest to the newest, and
  about what a push at the front and a pop from the back do to these chains.
-/
import Mathlib.Tactic

set_option autoImplicit false

namespace Lib.Fifo

variable {α : Type} (w : α → Nat)

/-- The weight of a queue. -/
def total (l : List α) : Nat := (l.map w).sum

/-- Pop from the back while the queue is over the bound. -/
def fit (bound : Nat) (l : List α) : List α :=
  if total w l ≤ bound then l else fit bound l.dropLast
termination_by l.length
decreasing_by
  cases l with
  | nil => simp [total] at *
  | cons a l => simp

@[simp] theorem total_nil : total w [] = 0 := rfl

@[simp] theorem total_cons (a : α) (l : List α) : total w (a :: l) = w a + total w l := by
  simp [total]

theorem total_append (l m : List α) : total w (l ++ m) = total w l + total w m := by
  simp [total]

/-- The last element accounts for the weight `dropLast` loses. -/
theorem total_dropLast_add {l : List α} {a : α} (h : l.getLast? = some a) :
    total w l.dropLast + w a = total w l := by
  obtain ⟨m, rfl⟩ := List.getLast?_eq_some_iff.mp h
  simp [total_append]

theorem fit_of_le {bound : Nat} {l : List α} (h : total w l ≤ bound) : fit w bound l = l := by
  rw [fit, if_pos h]

theorem fit_of_gt {bound : Nat} {l : List α} (h : bound < total w l) :
    fit w bound l = fit w bound l.dropLast := by
  rw [fit, if_neg (Nat.not_le.mpr h)]

/-- The result fits. -/
theorem total_fit_le (bound : Nat) (l : List α) : total w (fit w bound l) ≤ bound := by
  induction l using fit.induct w bound with
  | case1 l h => rw [fit_of_le w h]; exact h
  | case2 l h ih => rw [fit_of_gt w (Nat.lt_of_not_le h)]; exact ih

/-- What stays is a prefix of the queue. -/
theorem fit_prefix_self (bound : Nat) (l : List α) : fit w bound l <+: l := by
  induction l using fit.induct w bound with
  | case1 l h => rw [fit_of_le w h]
  | case2 l h ih =>
      rw [fit_of_gt w (Nat.lt_of_not_le h)]
      exact ih.trans (List.dropLast_prefix l)

/-- Popping for two bounds is popping for the lower one. -/
theorem fit_fit (a b : Nat) (l : List α) : fit w a (fit w b l) = fit w (min a b) l := by
  induction l using fit.induct w b with
  | case1 l h =>
      rw [fit_of_le w h]
      rcases Nat.le_total a b with hab | hba
      · rw [Nat.min_eq_left hab]
      · rw [Nat.min_eq_right hba, fit_of_le w h, fit_of_le w (h.trans hba)]
  | case2 l h ih =>
      have hgt := Nat.lt_of_not_le h
      rw [fit_of_gt w hgt, ih, ← fit_of_gt w (lt_of_le_of_lt (Nat.min_le_right a b) hgt)]

/-- A bound that the queue keeps does not matter. -/
theorem fit_min {a : Nat} {l : List α} (h : total w l ≤ a) (b : Nat) :
    fit w (min a b) l = fit w b l := by
  rw [Nat.min_comm, ← fit_fit, fit_of_le w h]

/-- Popping for one bound after the other is popping for the lowest one. -/
theorem foldl_fit (bounds : List Nat) : ∀ {a : Nat} {l : List α}, total w l ≤ a →
    bounds.foldl (fun l b => fit w b l) l = fit w (bounds.foldl min a) l := by
  induction bounds with
  | nil => exact fun h => (fit_of_le w h).symm
  | cons b bounds ih =>
      intro a l h
      have hassoc : ∀ a, bounds.foldl min (min a b) = min a (bounds.foldl min b) :=
        fun a => List.foldl_assoc
      rw [List.foldl_cons, List.foldl_cons, ih (total_fit_le w b l), fit_fit, Nat.min_comm,
        ← hassoc, Nat.min_self, hassoc, fit_min w h]

/-- Pushing an element that fits on its own keeps it at the front. -/
theorem fit_cons {bound : Nat} {a : α} (ha : w a ≤ bound) (l : List α) :
    fit w bound (a :: l) = a :: fit w (bound - w a) l := by
  induction l using fit.induct w (bound - w a) with
  | case1 l h =>
      rw [fit_of_le w h, fit_of_le]
      simp only [total_cons]
      omega
  | case2 l h ih =>
      have hgt : bound < total w (a :: l) := by
        simp only [total_cons]
        omega
      have hne : l ≠ [] := by
        rintro rfl
        simp at h
      rw [fit_of_gt w (Nat.lt_of_not_le h), fit_of_gt w hgt,
        List.dropLast_cons_of_ne_nil hne, ih]

/-- A bound of zero empties a queue without weightless elements. -/
theorem fit_zero (hw : ∀ a, 0 < w a) (l : List α) : fit w 0 l = [] := by
  cases h : fit w 0 l with
  | nil => rfl
  | cons a m =>
      have hle := total_fit_le w 0 l
      rw [h, total_cons] at hle
      have := hw a
      omega

/-! ## Chains of equal elements -/

/-- No element in front of position `i` equals the one at `i`. -/
def Newest (l : List α) (i : Nat) : Prop := ∀ j, j < i → l[j]? ≠ l[i]?

/-- No element behind position `i` equals the one at `i`. -/
def Oldest (l : List α) (i : Nat) : Prop := ∀ j, i < j → j < l.length → l[j]? ≠ l[i]?

/-- `j` is the closest position in front of `i` with an equal element. -/
def NextNewer (l : List α) (i j : Nat) : Prop :=
  j < i ∧ l[j]? = l[i]? ∧ ∀ m, j < m → m < i → l[m]? ≠ l[i]?

section Chains

variable {l : List α} {a x : α} {i j : Nat}

theorem NextNewer.unique {j' : Nat} (h : NextNewer l i j) (h' : NextNewer l i j') : j = j' := by
  rcases Nat.lt_trichotomy j j' with hlt | heq | hgt
  · exact absurd h'.2.1 (h.2.2 j' hlt h'.1)
  · exact heq
  · exact absurd h.2.1 (h'.2.2 j hgt h.1)

/-- At most one element of a chain leads to a given one. -/
theorem NextNewer.inj {i' : Nat} (h : NextNewer l i j) (h' : NextNewer l i' j) : i = i' := by
  rcases Nat.lt_trichotomy i i' with hlt | heq | hgt
  · exact absurd (h.2.1.symm.trans h'.2.1) (h'.2.2 i h.1 hlt)
  · exact heq
  · exact absurd (h'.2.1.symm.trans h.2.1) (h.2.2 i' h'.1 hgt)

/-- An element that is not the oldest of its chain has one that leads to it. -/
theorem exists_nextNewer_of_not_oldest (h : ¬ Oldest l j) :
    ∃ i, i < l.length ∧ NextNewer l i j := by
  classical
  unfold Oldest at h
  push Not at h
  have hex : ∃ i, j < i ∧ i < l.length ∧ l[i]? = l[j]? := h
  obtain ⟨h1, h2, h3⟩ := Nat.find_spec hex
  refine ⟨Nat.find hex, h2, h1, h3.symm, ?_⟩
  intro m hjm hm heq
  exact Nat.find_min hex hm ⟨hjm, by omega, heq.trans h3⟩

/-- Every element has an oldest equal one. -/
theorem exists_oldest (h : l[i]? = some a) : ∃ j, l[j]? = some a ∧ Oldest l j := by
  -- by induction on how far the end of the list is
  obtain ⟨n, hn⟩ : ∃ n, l.length - i = n := ⟨_, rfl⟩
  induction n using Nat.strong_induction_on generalizing i with
  | _ n ih =>
      by_cases hold : Oldest l i
      · exact ⟨i, h, hold⟩
      · unfold Oldest at hold
        push Not at hold
        obtain ⟨j, hij, hj, heq⟩ := hold
        exact ih (l.length - j) (by omega) (heq.trans h) rfl

theorem newest_zero : Newest l 0 := fun j hj => by omega

theorem newest_cons_succ :
    Newest (a :: l) (i + 1) ↔ l[i]? ≠ some a ∧ Newest l i := by
  constructor
  · intro h
    refine ⟨?_, ?_⟩
    · have := h 0 (by omega)
      simpa [eq_comm] using this
    · intro j hj
      have := h (j + 1) (by omega)
      simpa using this
  · rintro ⟨h0, h⟩ j hj
    cases j with
    | zero => simpa [eq_comm] using h0
    | succ j => simpa using h j (by omega)

theorem nextNewer_cons_succ :
    NextNewer (a :: l) (i + 1) (j + 1) ↔ NextNewer l i j := by
  constructor
  · rintro ⟨h1, h2, h3⟩
    refine ⟨by omega, by simpa using h2, ?_⟩
    intro m hm hmi
    simpa using h3 (m + 1) (by omega) (by omega)
  · rintro ⟨h1, h2, h3⟩
    refine ⟨by omega, by simpa using h2, ?_⟩
    intro m hm hmi
    obtain ⟨m, rfl⟩ : ∃ m', m = m' + 1 := ⟨m - 1, by omega⟩
    simpa using h3 m (by omega) (by omega)

theorem nextNewer_cons_zero :
    NextNewer (a :: l) (i + 1) 0 ↔ l[i]? = some a ∧ Newest l i := by
  constructor
  · rintro ⟨_, h2, h3⟩
    refine ⟨by simpa using h2.symm, ?_⟩
    intro m hm
    simpa using h3 (m + 1) (by omega) (by omega)
  · rintro ⟨h1, h2⟩
    refine ⟨by omega, by simpa using h1.symm, ?_⟩
    intro m hm hmi
    obtain ⟨m, rfl⟩ : ∃ m', m = m' + 1 := ⟨m - 1, by omega⟩
    simpa using h2 m (by omega)

theorem oldest_cons_succ : Oldest (a :: l) (i + 1) ↔ Oldest l i := by
  constructor
  · intro h j hij hj
    simpa using h (j + 1) (by omega) (by simpa using hj)
  · intro h j hij hj
    obtain ⟨j, rfl⟩ : ∃ j', j = j' + 1 := ⟨j - 1, by omega⟩
    simpa using h j (by omega) (by simpa using hj)

theorem oldest_cons_zero : Oldest (a :: l) 0 ↔ a ∉ l := by
  constructor
  · intro h ha
    obtain ⟨j, hj⟩ := List.mem_iff_getElem?.mp ha
    have hlt := (List.getElem?_eq_some_iff.mp hj).1
    exact h (j + 1) (by omega) (by simpa using hlt) (by simpa using hj)
  · intro h j hj hlt heq
    obtain ⟨j, rfl⟩ : ∃ j', j = j' + 1 := ⟨j - 1, by omega⟩
    exact h (List.mem_iff_getElem?.mpr ⟨j, by simpa using heq⟩)

private theorem getElem?_concat_lt (h : i < l.length) : (l ++ [x])[i]? = l[i]? :=
  List.getElem?_append_left h

theorem newest_concat (hi : i < l.length) : Newest (l ++ [x]) i ↔ Newest l i := by
  unfold Newest
  refine forall_congr' fun j => forall_congr' fun hj => ?_
  rw [getElem?_concat_lt hi, getElem?_concat_lt (show j < l.length by omega)]

theorem nextNewer_concat (hi : i < l.length) :
    NextNewer (l ++ [x]) i j ↔ NextNewer l i j := by
  unfold NextNewer
  refine and_congr_right fun hj => and_congr ?_ ?_
  · rw [getElem?_concat_lt hi, getElem?_concat_lt (by omega)]
  · refine forall_congr' fun m => forall_congr' fun _ => forall_congr' fun hm => ?_
    rw [getElem?_concat_lt hi, getElem?_concat_lt (show m < l.length by omega)]

theorem oldest_concat (hi : i < l.length) :
    Oldest (l ++ [x]) i ↔ l[i]? ≠ some x ∧ Oldest l i := by
  constructor
  · intro h
    refine ⟨?_, ?_⟩
    · have := h l.length hi (by simp)
      rw [getElem?_concat_lt hi] at this
      simpa [eq_comm] using this
    · intro j hij hj
      have := h j hij (by simp; omega)
      rwa [getElem?_concat_lt hi, getElem?_concat_lt hj] at this
  · rintro ⟨hx, h⟩ j hij hj
    rw [getElem?_concat_lt hi]
    rcases Nat.lt_or_ge j l.length with hlt | hge
    · rw [getElem?_concat_lt hlt]
      exact h j hij hlt
    · obtain rfl : j = l.length := by
        rw [List.length_append, List.length_singleton] at hj
        omega
      simpa [eq_comm] using hx

theorem oldest_concat_length : Oldest (l ++ [x]) l.length := by
  intro j hij hj
  rw [List.length_append, List.length_singleton] at hj
  omega

/-- The element that follows the last one in its chain becomes the oldest when
the last one is popped. -/
theorem nextNewer_concat_length :
    NextNewer (l ++ [x]) l.length j ↔ j < l.length ∧ l[j]? = some x ∧ Oldest l j := by
  have hlast : (l ++ [x])[l.length]? = some x := by simp
  constructor
  · rintro ⟨h1, h2, h3⟩
    rw [hlast, getElem?_concat_lt h1] at h2
    refine ⟨h1, h2, ?_⟩
    intro m hjm hm
    have := h3 m hjm hm
    rwa [hlast, getElem?_concat_lt hm, ← h2] at this
  · rintro ⟨h1, h2, h3⟩
    refine ⟨h1, ?_, ?_⟩
    · rw [hlast, getElem?_concat_lt h1, h2]
    · intro m hjm hm
      rw [hlast, getElem?_concat_lt hm, ← h2]
      exact h3 m hjm hm

end Chains

end Lib.Fifo
