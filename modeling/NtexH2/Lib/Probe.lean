/-
  Lib/Probe.lean --- circular probing loops.

  An open-addressing table walks its cells with a loop that runs a body at the
  current position, moves one cell forward, and starts again from cell zero
  after the last cell.  `probeLoop` is that loop with an iteration bound; a
  loop that does not stop within the bound is the `stuck` error, so a proof
  that the result is `ok` is also a proof that the loop ends.

  `probeLoop_spec` is the invariant rule for such loops.
-/
import Mathlib.Tactic

set_option autoImplicit false

namespace Lib

/-- What one run of a probing body decides. -/
inductive Probe (σ ρ : Type) where
  /-- go on with the next cell, carrying a new loop state -/
  | next (s : σ)
  /-- leave the loop with a result -/
  | done (r : ρ)

/-- Run `body` at `probe`, `probe + 1`, ..., restarting from `0` at `len`.
`stuck` is reported when the iteration bound is used up. -/
def probeLoop {ε σ ρ : Type} (stuck : ε) (len : Nat)
    (body : Nat → σ → Except ε (Probe σ ρ)) : Nat → Nat → σ → Except ε ρ
  | 0, _, _ => .error stuck
  | fuel + 1, probe, s =>
      if probe < len then
        match body probe s with
        | .error e => .error e
        | .ok (.done r) => .ok r
        | .ok (.next s') => probeLoop stuck len body fuel (probe + 1) s'
      else probeLoop stuck len body fuel 0 s

section Rule

variable {ε σ ρ : Type} {stuck : ε} {len : Nat}
variable {body : Nat → σ → Except ε (Probe σ ρ)}

/-- Invariant rule without wrap-around: the invariant is indexed by the
position itself and the loop is known to stop before `len`. -/
theorem probeLoop_linear (Inv : Nat → σ → Prop) (Post : ρ → Prop) (stop : Nat)
    (hstop : stop < len)
    (hstep : ∀ p s, p ≤ stop → Inv p s →
      (∃ s', body p s = .ok (.next s') ∧ p < stop ∧ Inv (p + 1) s') ∨
      (∃ r, body p s = .ok (.done r) ∧ Post r)) :
    ∀ (fuel p : Nat) (s : σ), p ≤ stop → stop - p < fuel → Inv p s →
      ∃ r, probeLoop stuck len body fuel p s = .ok r ∧ Post r := by
  intro fuel
  induction fuel with
  | zero => intro p s _ hfuel _; omega
  | succ fuel ih =>
      intro p s hp hfuel hinv
      have hlt : p < len := by omega
      rcases hstep p s hp hinv with ⟨s', hbody, hps, hinv'⟩ | ⟨r, hbody, hpost⟩
      · obtain ⟨r, hr, hpost⟩ := ih (p + 1) s' (by omega) (by omega) hinv'
        refine ⟨r, ?_, hpost⟩
        simp only [probeLoop, hlt, if_true, hbody]
        exact hr
      · refine ⟨r, ?_, hpost⟩
        simp only [probeLoop, hlt, if_true, hbody]

/-- The invariant rule.  After `k` runs of the body the loop stands at cell
`(start + k) % len` and satisfies `Inv k`; the body is known to stop after at
most `bound < len` further cells. -/
theorem probeLoop_spec (Inv : Nat → σ → Prop) (Post : ρ → Prop)
    (start bound : Nat) (hstart : start ≤ len) (hbound : bound < len)
    (hstep : ∀ k s, k ≤ bound → Inv k s →
      (∃ s', body ((start + k) % len) s = .ok (.next s') ∧ k < bound ∧ Inv (k + 1) s') ∨
      (∃ r, body ((start + k) % len) s = .ok (.done r) ∧ Post r)) :
    ∀ (fuel k : Nat) (s : σ), k ≤ bound → bound - k + 2 ≤ fuel → Inv k s →
      start + k ≤ len →
      ∃ r, probeLoop stuck len body fuel (start + k) s = .ok r ∧ Post r := by
  -- past the end of the table the walk is linear again, shifted by `len - start`
  have hwrapped : ∀ (fuel k : Nat) (s : σ), k ≤ bound → bound - k < fuel →
      Inv k s → start + k = len →
      ∃ r, probeLoop stuck len body fuel 0 s = .ok r ∧ Post r := by
    intro fuel k s hk hfuel hinv hend
    refine probeLoop_linear (fun p s => Inv (k + p) s) Post (bound - k) (by omega) ?_
      fuel 0 s (by omega) (by omega) hinv
    intro p s' hp hinv'
    have hcell : (start + (k + p)) % len = p := by
      rw [← Nat.add_assoc, hend, Nat.add_mod_left, Nat.mod_eq_of_lt (by omega)]
    have hs := hstep (k + p) s' (by omega) hinv'
    rw [hcell] at hs
    rcases hs with ⟨s'', hbody, hlt, hnext⟩ | hdone
    · exact .inl ⟨s'', hbody, by omega, hnext⟩
    · exact .inr hdone
  intro fuel
  induction fuel with
  | zero => intro k s _ hfuel; omega
  | succ fuel ih =>
      intro k s hk hfuel hinv hpos
      rcases Nat.lt_or_ge (start + k) len with hlt | hge
      · have hs := hstep k s hk hinv
        rw [Nat.mod_eq_of_lt hlt] at hs
        rcases hs with ⟨s', hbody, hkb, hinv'⟩ | ⟨r, hbody, hpost⟩
        · obtain ⟨r, hr, hpost⟩ := ih (k + 1) s' (by omega) (by omega) hinv' (by omega)
          refine ⟨r, ?_, hpost⟩
          simp only [probeLoop, hlt, if_true, hbody]
          exact hr
        · refine ⟨r, ?_, hpost⟩
          simp only [probeLoop, hlt, if_true, hbody]
      · have hend : start + k = len := by omega
        obtain ⟨r, hr, hpost⟩ := hwrapped fuel k s hk (by omega) hinv hend
        refine ⟨r, ?_, hpost⟩
        have hnot : ¬ start + k < len := by omega
        simp only [probeLoop, hnot, if_false]
        exact hr

/-- `probeLoop_spec` from the first cell. -/
theorem probeLoop_spec_zero (stuck : ε) (len : Nat) (body : Nat → σ → Except ε (Probe σ ρ))
    (Inv : Nat → σ → Prop) (Post : ρ → Prop)
    (start bound fuel : Nat) (s : σ) (hstart : start ≤ len) (hbound : bound < len)
    (hfuel : bound + 2 ≤ fuel) (hinv : Inv 0 s)
    (hstep : ∀ k s, k ≤ bound → Inv k s →
      (∃ s', body ((start + k) % len) s = .ok (.next s') ∧ k < bound ∧ Inv (k + 1) s') ∨
      (∃ r, body ((start + k) % len) s = .ok (.done r) ∧ Post r)) :
    ∃ r, probeLoop stuck len body fuel start s = .ok r ∧ Post r := by
  have h := @probeLoop_spec _ _ _ stuck len body Inv Post start bound hstart hbound hstep
    fuel 0 s (Nat.zero_le _) (by omega) hinv (by omega)
  rwa [Nat.add_zero] at h

end Rule

end Lib
