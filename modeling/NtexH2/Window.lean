/-
  Window.lean --- flow-control windows (src/window.rs).

  A window is an `i32` and may be negative.  The arithmetic of the code wraps at
  the ends of its types; `Window.UpdateSafe` says that it does not get there.
-/
import NtexH2.Base
import Mathlib.Tactic.Common

set_option autoImplicit false

namespace NtexH2

/-- The `i32` a computed value is stored as. -/
def i32 (x : Int) : Int := x.bmod (2 ^ 32)

/-- The `u32` a computed value is stored as. -/
def u32 (x : Int) : Nat := (x % 2 ^ 32).toNat

/-- The values of an `i32`. -/
def InI32 (x : Int) : Prop := -2 ^ 31 ≤ x ∧ x < 2 ^ 31

instance (x : Int) : Decidable (InI32 x) := inferInstanceAs (Decidable (_ ∧ _))

theorem i32_of_range {x : Int} (h : InI32 x) : i32 x = x := by
  unfold InI32 at h
  unfold i32
  exact Int.bmod_eq_of_le (by norm_num; omega) (by norm_num; omega)

theorem u32_of_range {x : Int} (h0 : 0 ≤ x) (h : x < 2 ^ 32) : u32 x = x.toNat := by
  unfold u32
  rw [Int.emod_eq_of_lt h0 h]

/-- `Window`. -/
structure Window where
  size : Int
  deriving DecidableEq, Repr

namespace Window

/-- `Window::window_size`. -/
def windowSize (w : Window) : Nat := if w.size < 0 then 0 else u32 w.size

/-- `Window::update`: the window, and the increment to announce. -/
def update (w : Window) (cap : Nat) (maxSize : Int) (thresholdSize : Nat) :
    Window × Option Nat :=
  if w.size ≥ maxSize then (w, none)
  else
    let available := i32 (i32 (maxSize - w.size) - i32 cap)
    if available < i32 thresholdSize then (w, none)
    else (⟨i32 (w.size + available)⟩, some (u32 available))

/-- `Window::inc`. -/
def inc (w : Window) (sz : Int) : Option Window :=
  if InI32 (w.size + sz) then some ⟨w.size + sz⟩ else none

/-- `Window::dec`. -/
def dec (w : Window) (sz : Nat) : Window := ⟨i32 (w.size - i32 sz)⟩

/-- No computation of `Window::update` leaves the range of its type. -/
def UpdateSafe (w : Window) (cap : Nat) (maxSize : Int) : Prop :=
  w.size ≥ maxSize ∨ (InI32 (maxSize - w.size) ∧ InI32 cap ∧ InI32 (maxSize - w.size - cap) ∧
    InI32 (maxSize - cap))

instance (w : Window) (cap : Nat) (maxSize : Int) : Decidable (w.UpdateSafe cap maxSize) :=
  inferInstanceAs (Decidable (_ ∨ _))

/-- `Window::dec` stays in range. -/
def DecSafe (w : Window) (sz : Nat) : Prop := InI32 sz ∧ InI32 (w.size - sz)

instance (w : Window) (sz : Nat) : Decidable (w.DecSafe sz) := inferInstanceAs (Decidable (_ ∧ _))

theorem windowSize_eq {w : Window} (h : InI32 w.size) : w.windowSize = w.size.toNat := by
  unfold windowSize
  unfold InI32 at h
  split
  · omega
  · rw [u32_of_range (by omega) (by omega)]

theorem dec_size {w : Window} {sz : Nat} (h : w.DecSafe sz) : (w.dec sz).size = w.size - sz := by
  unfold dec
  rw [i32_of_range h.1, i32_of_range h.2]

/-- What a safe update does: either nothing, or the window grows by the announced
increment to the configured size less the unconsumed octets. -/
theorem update_spec {w : Window} {cap : Nat} {maxSize : Int} {threshold : Nat}
    (h : w.UpdateSafe cap maxSize) (hthr : threshold < 2 ^ 31) :
    (w.update cap maxSize threshold = (w, none) ∧
      (w.size ≥ maxSize ∨ maxSize - w.size - cap < threshold)) ∨
    ∃ n : Nat, w.update cap maxSize threshold = (⟨maxSize - cap⟩, some n) ∧
      w.size < maxSize ∧ w.size + n = maxSize - cap ∧ threshold ≤ n := by
  unfold update
  by_cases hmax : w.size ≥ maxSize
  · exact .inl ⟨by rw [if_pos hmax], .inl hmax⟩
  · obtain ⟨h1, h2, h3, h4⟩ := h.resolve_left hmax
    have hthr' : i32 (threshold : Int) = threshold := i32_of_range ⟨by omega, by omega⟩
    have havail : i32 (i32 (maxSize - w.size) - i32 (cap : Int)) = maxSize - w.size - cap := by
      rw [i32_of_range h1, i32_of_range h2, i32_of_range h3]
    rw [if_neg hmax]
    simp only [havail, hthr']
    by_cases hlt : maxSize - w.size - cap < threshold
    · exact .inl ⟨by rw [if_pos hlt], .inr hlt⟩
    · refine .inr ⟨(maxSize - w.size - cap).toNat, ?_, by omega, by omega, by omega⟩
      unfold InI32 at h3
      rw [if_neg hlt, u32_of_range (by omega) (by omega),
        show w.size + (maxSize - w.size - cap) = maxSize - cap by omega, i32_of_range h4]

end Window

end NtexH2
