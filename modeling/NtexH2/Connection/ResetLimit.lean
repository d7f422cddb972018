/-
  Connection/ResetLimit.lean --- the limit on resets (src/connection.rs,
  `update_rst_count`).

  Two counters are compared, the streams that the peer has opened and the resets it has
  caused, and both are halved when the first one grows too large.  A burst of resets is
  bounded by half of the first counter, as long as the second one does not wrap.
-/
import NtexH2.Connection.Streams

set_option autoImplicit false

namespace NtexH2

namespace Connection

variable {c : Connection}

/-- What changes the counters. -/
inductive LimitStep where
  | opening
  | reset
  deriving DecidableEq, Repr

/-- A stream that the peer opens, or a call of `update_rst_count`. -/
def limitStep (c : Connection) : LimitStep → Connection
  | .opening => c.countStream
  | .reset => c.updateRstCount.2

/-- How many of `n` calls of `update_rst_count` in a row are allowed. -/
def allowedResets : Nat → Connection → Nat
  | 0, _ => 0
  | n + 1, c =>
      match c.updateRstCount with
      | (.ok _, c) => allowedResets n c + 1
      | (.error _, c) => allowedResets n c

/-- What the limit promises of the next call. -/
structure Rationed (c : Connection) : Prop where
  window : c.updateRstCount.2.streamsCount < 1024
  ratio : c.updateRstCount.1 = .ok () →
    c.updateRstCount.2.streamsCount < 10 ∨
      c.updateRstCount.2.rstCount < c.updateRstCount.2.streamsCount / 2

/-- What the limit promises in one state, of the next call and of a burst of calls. -/
structure Limited (c : Connection) : Prop extends Rationed c where
  burst : 10 ≤ c.streamsCount → ∀ n, allowedResets n c ≤ 510

/-- The next call wraps the count of resets while the peer may cause the most of them. -/
def Wraps (c : Connection) : Prop :=
  c.rstCount = 2 ^ 32 - 1 ∧ 1022 ≤ c.streamsCount ∧ c.streamsCount < 1024

/-! ## One call -/

theorem decay_lt (n m : Nat) : (decay n m).1 < 1024 := by
  induction n, m using decay.induct with
  | case1 n m h ih => rwa [decay, if_pos h]
  | case2 n m h =>
      rw [decay, if_neg h]
      exact Nat.lt_of_not_le h

theorem decay_le (n m : Nat) : (decay n m).2 ≤ m := by
  induction n, m using decay.induct with
  | case1 n m h ih =>
      rw [decay, if_pos h]
      exact ih.trans (Nat.shiftRight_le m 1)
  | case2 n m h => rw [decay, if_neg h]

/-- What decays keeps more than half of the window, and loses half of the resets. -/
theorem decay_large {n m : Nat} (h : 1024 ≤ n) :
    512 ≤ (decay n m).1 ∧ (decay n m).2 ≤ m / 2 := by
  induction n, m using decay.induct with
  | case1 n m _ ih =>
      rw [decay, if_pos h]
      have hhalf : n >>> 1 = n / 2 := Nat.shiftRight_one n
      rcases Nat.lt_or_ge (n >>> 1) 1024 with hlt | hge
      · rw [decay_small hlt]
        exact ⟨by dsimp only; omega, (Nat.shiftRight_one m).le⟩
      · refine ⟨(ih hge).1, (ih hge).2.trans ?_⟩
        rw [Nat.shiftRight_one]
        omega
  | case2 n m hn => exact absurd h hn

/-- A call that is allowed. -/
theorem updateRstCount_ok (h : c.updateRstCount.1 = .ok ()) :
    c.updateRstCount.2.streamsCount = (decay c.streamsCount c.rstCount).1 ∧
      c.updateRstCount.2.rstCount = ((decay c.streamsCount c.rstCount).2 + 1) % 2 ^ 32 ∧
      ((decay c.streamsCount c.rstCount).1 < 10 ∨
        ((decay c.streamsCount c.rstCount).2 + 1) % 2 ^ 32 <
          (decay c.streamsCount c.rstCount).1 / 2) := by
  unfold updateRstCount at h ⊢
  dsimp only at h ⊢
  split at h
  · cases h
  · next hlimit =>
      rw [if_neg hlimit]
      refine ⟨rfl, rfl, ?_⟩
      rw [Bool.and_eq_true, decide_eq_true_eq, decide_eq_true_eq, Nat.shiftRight_one] at hlimit
      omega

/-- A call that is refused. -/
theorem updateRstCount_refused {e : ConnectionError} (h : c.updateRstCount.1 = .error e) :
    c.updateRstCount.2.streamsCount = (decay c.streamsCount c.rstCount).1 ∧
      c.updateRstCount.2.rstCount = (decay c.streamsCount c.rstCount).2 ∧
      10 ≤ (decay c.streamsCount c.rstCount).1 ∧
      (decay c.streamsCount c.rstCount).1 / 2 ≤
        ((decay c.streamsCount c.rstCount).2 + 1) % 2 ^ 32 := by
  unfold updateRstCount at h ⊢
  dsimp only at h ⊢
  split at h
  · next hlimit =>
      rw [if_pos hlimit]
      rw [Bool.and_eq_true, decide_eq_true_eq, decide_eq_true_eq, Nat.shiftRight_one] at hlimit
      exact ⟨rfl, rfl, hlimit.1, hlimit.2⟩
  · cases h

theorem updateRstCount_window (c : Connection) : c.updateRstCount.2.streamsCount < 1024 := by
  have hlt := decay_lt c.streamsCount c.rstCount
  cases h : c.updateRstCount.1 with
  | ok u => exact (updateRstCount_ok h).1.symm ▸ hlt
  | error e => exact (updateRstCount_refused h).1.symm ▸ hlt

theorem updateRstCount_ratio (h : c.updateRstCount.1 = .ok ()) :
    c.updateRstCount.2.streamsCount < 10 ∨
      c.updateRstCount.2.rstCount < c.updateRstCount.2.streamsCount / 2 := by
  obtain ⟨hs, hr, hlimit⟩ := updateRstCount_ok h
  rw [hs, hr]
  exact hlimit

/-- The count of resets fits its type. -/
theorem updateRstCount_fits (h : c.rstCount < 2 ^ 32) : c.updateRstCount.2.rstCount < 2 ^ 32 := by
  cases hr : c.updateRstCount.1 with
  | ok u =>
      rw [(updateRstCount_ok hr).2.1]
      exact Nat.mod_lt _ (by decide)
  | error e =>
      rw [(updateRstCount_refused hr).2.1]
      exact (decay_le _ _).trans_lt h

/-! ## Bursts -/

theorem allowedResets_ok {n : Nat} (h : c.updateRstCount.1 = .ok ()) :
    allowedResets (n + 1) c = allowedResets n c.updateRstCount.2 + 1 := by
  rw [allowedResets]
  cases hc : c.updateRstCount with
  | mk r c' =>
      rw [hc] at h
      cases h
      rfl

theorem allowedResets_refused {n : Nat} {e : ConnectionError}
    (h : c.updateRstCount.1 = .error e) :
    allowedResets (n + 1) c = allowedResets n c.updateRstCount.2 := by
  rw [allowedResets]
  cases hc : c.updateRstCount with
  | mk r c' =>
      rw [hc] at h
      cases h
      rfl

/-- Without decay and without a wrap, each allowed call comes closer to half of the streams. -/
theorem allowedResets_steady (n : Nat) : ∀ {c : Connection}, 10 ≤ c.streamsCount →
    c.streamsCount < 1024 → c.rstCount < 2 ^ 32 - 1 →
    allowedResets n c ≤ c.streamsCount / 2 - 1 - c.rstCount := by
  induction n with
  | zero => exact fun _ _ _ => Nat.zero_le _
  | succ n ih =>
      intro c hten hlt hfits
      have hd := decay_small (m := c.rstCount) hlt
      cases hr : c.updateRstCount.1 with
      | ok u =>
          obtain ⟨hs, hcount, hlimit⟩ := updateRstCount_ok hr
          rw [hd] at hs hcount hlimit
          dsimp only at hs hcount hlimit
          rw [Nat.mod_eq_of_lt (by omega)] at hcount hlimit
          have hrest := ih (hs.symm ▸ hten) (hs.symm ▸ hlt) (by omega)
          rw [allowedResets_ok hr]
          omega
      | error e =>
          obtain ⟨hs, hcount, -, -⟩ := updateRstCount_refused hr
          rw [hd] at hs hcount
          dsimp only at hs hcount
          have hrest := ih (hs.symm ▸ hten) (hs.symm ▸ hlt) (hcount.symm ▸ hfits)
          rw [allowedResets_refused hr]
          omega

/-- Up to half of the streams, every call is allowed. -/
theorem allowedResets_free (n : Nat) : ∀ {c : Connection}, c.streamsCount < 1024 →
    c.rstCount + n < c.streamsCount / 2 → allowedResets n c = n := by
  induction n with
  | zero => exact fun _ _ => rfl
  | succ n ih =>
      intro c hlt hroom
      have hd := decay_small (m := c.rstCount) hlt
      cases hr : c.updateRstCount.1 with
      | ok u =>
          obtain ⟨hs, hcount, -⟩ := updateRstCount_ok hr
          rw [hd] at hs hcount
          dsimp only at hs hcount
          rw [Nat.mod_eq_of_lt (by omega)] at hcount
          rw [allowedResets_ok hr, ih (hs.symm ▸ hlt) (by omega)]
      | error e =>
          obtain ⟨-, -, -, hlimit⟩ := updateRstCount_refused hr
          rw [hd] at hlimit
          dsimp only at hlimit
          rw [Nat.mod_eq_of_lt (by omega)] at hlimit
          omega

/-- The call that wraps the count is allowed, and the count starts again. -/
theorem updateRstCount_wraps (hten : 10 ≤ c.streamsCount) (hlt : c.streamsCount < 1024)
    (hmax : c.rstCount = 2 ^ 32 - 1) :
    c.updateRstCount.1 = .ok () ∧ c.updateRstCount.2.streamsCount = c.streamsCount ∧
      c.updateRstCount.2.rstCount = 0 := by
  have hd := decay_small (m := c.rstCount) hlt
  have hzero : (c.rstCount + 1) % 2 ^ 32 = 0 := by omega
  cases hr : c.updateRstCount.1 with
  | ok u =>
      obtain ⟨hs, hcount, -⟩ := updateRstCount_ok hr
      rw [hd] at hs hcount
      exact ⟨rfl, hs, hcount.trans hzero⟩
  | error e =>
      obtain ⟨-, -, -, hlimit⟩ := updateRstCount_refused hr
      rw [hd] at hlimit
      dsimp only at hlimit
      omega

/-- With at least ten streams, a burst is bounded by half of the window. -/
theorem allowedResets_le (hfits : c.rstCount < 2 ^ 32) (hten : 10 ≤ c.streamsCount)
    (hw : ¬c.Wraps) (n : Nat) : allowedResets n c ≤ 510 := by
  cases n with
  | zero => exact Nat.zero_le _
  | succ n =>
      rcases Nat.lt_or_ge c.streamsCount 1024 with hlt | hge
      · rcases Nat.lt_or_ge c.rstCount (2 ^ 32 - 1) with hsmall | hmax
        · have hle := allowedResets_steady (n + 1) hten hlt hsmall
          omega
        · -- the count wraps, so the state is not one of those with the longest bursts
          have hmax : c.rstCount = 2 ^ 32 - 1 := by omega
          obtain ⟨hok, hs, hr⟩ := updateRstCount_wraps hten hlt hmax
          have hle := allowedResets_steady n (hs.symm ▸ hten) (hs.symm ▸ hlt) (by omega)
          rw [allowedResets_ok hok]
          unfold Wraps at hw
          omega
      · -- half of the resets are forgotten, so nothing wraps
        obtain ⟨hmany, hhalf⟩ := decay_large (m := c.rstCount) hge
        have hwindow := decay_lt c.streamsCount c.rstCount
        cases hr : c.updateRstCount.1 with
        | ok u =>
            obtain ⟨hs, hcount, hlimit⟩ := updateRstCount_ok hr
            rw [Nat.mod_eq_of_lt (by omega)] at hcount hlimit
            have hle := allowedResets_steady n (c := c.updateRstCount.2) (by omega) (by omega)
              (by omega)
            rw [allowedResets_ok hr]
            omega
        | error e =>
            obtain ⟨hs, hcount, -, -⟩ := updateRstCount_refused hr
            have hle := allowedResets_steady n (c := c.updateRstCount.2) (by omega) (by omega)
              (by omega)
            rw [allowedResets_refused hr]
            omega

/-- Where the count wraps, one call more is allowed. -/
theorem allowedResets_wraps (hw : c.Wraps) : allowedResets 511 c = 511 := by
  obtain ⟨hmax, hmany, hlt⟩ := hw
  obtain ⟨hok, hs, hr⟩ := updateRstCount_wraps (by omega) hlt hmax
  rw [allowedResets_ok hok, allowedResets_free 510 (by omega) (by omega)]

/-! ## Runs -/

theorem limitStep_fits (a : LimitStep) (h : c.rstCount < 2 ^ 32) :
    (c.limitStep a).rstCount < 2 ^ 32 := by
  cases a with
  | opening => exact h
  | reset => exact updateRstCount_fits h

theorem limitRun_fits (as : List LimitStep) : ∀ {c : Connection}, c.rstCount < 2 ^ 32 →
    (as.foldl limitStep c).rstCount < 2 ^ 32 := by
  induction as with
  | nil => exact fun h => h
  | cons a as ih => exact fun h => ih (limitStep_fits a h)

theorem rationed (c : Connection) : c.Rationed := ⟨updateRstCount_window c, updateRstCount_ratio⟩

/-- In every run the next call is rationed, and bursts are limited in exactly the states in which
the count of resets does not wrap. -/
theorem reset_limit_kept (s : Start) (as : List LimitStep) :
    (as.foldl limitStep s.init).Rationed ∧
      ((as.foldl limitStep s.init).Limited ↔ ¬(as.foldl limitStep s.init).Wraps) := by
  have hfits : (as.foldl limitStep s.init).rstCount < 2 ^ 32 :=
    limitRun_fits as (show 0 < 2 ^ 32 by decide)
  refine ⟨rationed _, ?_, ?_⟩
  · intro h hw
    have hle := h.burst (by unfold Wraps at hw; omega) 511
    rw [allowedResets_wraps hw] at hle
    omega
  · exact fun hw => ⟨rationed _, fun hten n => allowedResets_le hfits hten hw n⟩

/-- Few streams do not limit the resets. -/
theorem resets_counted (n : Nat) : ∀ {c : Connection}, c.streamsCount = 0 → c.rstCount = 0 →
    ((List.replicate n LimitStep.reset).foldl limitStep c).streamsCount = 0 ∧
      ((List.replicate n LimitStep.reset).foldl limitStep c).rstCount = n % 2 ^ 32 := by
  induction n with
  | zero => exact fun hs hr => ⟨hs, hr⟩
  | succ n ih =>
      intro c hs hr
      obtain ⟨hs', hr'⟩ := ih hs hr
      rw [List.replicate_succ', List.foldl_append]
      generalize (List.replicate n LimitStep.reset).foldl limitStep c = c' at hs' hr'
      show c'.updateRstCount.2.streamsCount = 0 ∧ c'.updateRstCount.2.rstCount = _
      have hd := decay_small (n := c'.streamsCount) (m := c'.rstCount) (by omega)
      cases hres : c'.updateRstCount.1 with
      | ok u =>
          obtain ⟨hs2, hr2, -⟩ := updateRstCount_ok hres
          rw [hd] at hs2 hr2
          dsimp only at hs2 hr2
          exact ⟨hs2.trans hs', by omega⟩
      | error e =>
          obtain ⟨-, -, hten, -⟩ := updateRstCount_refused hres
          rw [hd] at hten
          dsimp only at hten
          omega

theorem openings_counted (n : Nat) : ∀ {c : Connection}, c.streamsCount + n < 2 ^ 32 →
    ((List.replicate n LimitStep.opening).foldl limitStep c).streamsCount = c.streamsCount + n ∧
      ((List.replicate n LimitStep.opening).foldl limitStep c).rstCount = c.rstCount := by
  induction n with
  | zero => exact fun _ => ⟨rfl, rfl⟩
  | succ n ih =>
      intro c h
      have hone : c.countStream.streamsCount = c.streamsCount + 1 :=
        Nat.mod_eq_of_lt (show c.streamsCount + 1 < 2 ^ 32 by omega)
      obtain ⟨hs, hr⟩ := ih (c := c.countStream) (by omega)
      exact ⟨hs.trans (by omega), hr⟩

/-- A server with the default configuration. -/
def serverStart : Start := ⟨true, ServiceConfig.new, false, false⟩

/-- After `2 ^ 32 - 1` resets with no stream and then 1023 streams, 511 resets are allowed. -/
theorem reset_limit_wraps :
    ¬∀ (s : Start) (as : List LimitStep), (as.foldl limitStep s.init).Limited := by
  intro h
  obtain ⟨hs, hr⟩ := resets_counted (2 ^ 32 - 1) (c := serverStart.init) rfl rfl
  have hlim := h serverStart
    (List.replicate (2 ^ 32 - 1) .reset ++ List.replicate 1023 .opening)
  rw [List.foldl_append] at hlim
  generalize (List.replicate (2 ^ 32 - 1) LimitStep.reset).foldl limitStep serverStart.init = c'
    at hs hr hlim
  obtain ⟨hs', hr'⟩ := openings_counted 1023 (c := c') (by omega)
  have hw : ((List.replicate 1023 LimitStep.opening).foldl limitStep c').Wraps :=
    ⟨by omega, by omega, by omega⟩
  have hle := hlim.burst (by omega) 511
  rw [allowedResets_wraps hw] at hle
  omega

end Connection

end NtexH2
