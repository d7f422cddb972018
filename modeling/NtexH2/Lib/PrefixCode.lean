/-
  Lib/PrefixCode.lean --- prefix codes read by a finite automaton.

  A code gives every symbol a bit string.  An automaton reads a bit stream in
  chunks; each step may emit one symbol.  A state stands for the bits read since
  the last emitted symbol, its path.  If every step is consistent with the paths,
  no path passes a code word, and the code is prefix free, then the automaton
  reads exactly the streams that are a concatenation of code words followed by a
  padding that no code word starts.
-/
import Mathlib.Tactic

set_option autoImplicit false

namespace Lib.PrefixCode

/-! ## Bit strings of numbers -/

/-- The lowest `n` bits of `v`, most significant bit first. -/
def bits : Nat → Nat → List Bool
  | 0, _ => []
  | n + 1, v => v.testBit n :: bits n v

@[simp] theorem bits_length (n v : Nat) : (bits n v).length = n := by
  induction n with
  | zero => rfl
  | succ n ih => simp [bits, ih]

theorem bits_append (m : Nat) {n b : Nat} (a : Nat) (hb : b < 2 ^ n) :
    bits (m + n) (2 ^ n * a + b) = bits m a ++ bits n b := by
  induction m with
  | zero =>
      -- only the bits below `n` are read
      have hlow : ∀ j, j ≤ n → bits j (2 ^ n * a + b) = bits j b := by
        intro j
        induction j with
        | zero => intro _; rfl
        | succ j ih =>
            intro hj
            rw [bits, bits, ih (by omega), Nat.testBit_two_pow_mul_add a hb, if_pos (by omega)]
      simpa [bits] using hlow n (Nat.le_refl n)
  | succ m ih =>
      rw [show m + 1 + n = (m + n) + 1 by omega, bits, bits, ih,
        Nat.testBit_two_pow_mul_add a hb, if_neg (by omega), Nat.add_sub_cancel,
        List.cons_append]

/-- Splitting a bit string. -/
theorem bits_split (m n v : Nat) :
    bits (m + n) v = bits m (v / 2 ^ n) ++ bits n (v % 2 ^ n) := by
  have h := bits_append m (v / 2 ^ n) (Nat.mod_lt v (Nat.two_pow_pos n))
  rwa [Nat.div_add_mod] at h

theorem bits_inj {n v w : Nat} (hv : v < 2 ^ n) (hw : w < 2 ^ n) (h : bits n v = bits n w) :
    v = w := by
  apply Nat.eq_of_testBit_eq
  intro i
  rcases Nat.lt_or_ge i n with hi | hi
  · -- equal strings have equal bits
    have hbits : ∀ n, bits n v = bits n w → ∀ i, i < n → v.testBit i = w.testBit i := by
      intro n
      induction n with
      | zero => intro _ i hi; omega
      | succ n ih =>
          intro heq i hi
          simp only [bits, List.cons.injEq] at heq
          rcases Nat.lt_or_ge i n with hlt | hge
          · exact ih heq.2 i hlt
          · obtain rfl : i = n := by omega
            exact heq.1
    exact hbits n h i hi
  · rw [Nat.testBit_lt_two_pow (Nat.lt_of_lt_of_le hv (Nat.pow_le_pow_right (by decide) hi)),
      Nat.testBit_lt_two_pow (Nat.lt_of_lt_of_le hw (Nat.pow_le_pow_right (by decide) hi))]

/-- A bit string of ones is the string of the largest number. -/
theorem bits_ones (n : Nat) : bits n (2 ^ n - 1) = List.replicate n true := by
  have hones : ∀ m, m ≤ n → bits m (2 ^ n - 1) = List.replicate m true := by
    intro m
    induction m with
    | zero => intro _; rfl
    | succ m ih =>
        intro hm
        rw [bits, ih (by omega), List.replicate_succ, Nat.testBit_two_pow_sub_one]
        simp only [decide_eq_true (show m < n by omega)]
  exact hones n (Nat.le_refl n)

/-- Whether one number's bits are a prefix of another's. -/
def isPrefix (n v m w : Nat) : Bool := decide (n ≤ m) && w / 2 ^ (m - n) == v

theorem isPrefix_of_isPrefix {n v m w : Nat} (hv : v < 2 ^ n) (hw : w < 2 ^ m)
    (h : bits n v <+: bits m w) : isPrefix n v m w = true := by
  have hle : n ≤ m := by simpa using h.length_le
  have hsplit := bits_split n (m - n) w
  rw [show n + (m - n) = m by omega] at hsplit
  have heq : bits n v = bits n (w / 2 ^ (m - n)) := by
    rw [hsplit] at h
    exact (List.prefix_append_right_inj []).mp
      (by simpa using List.prefix_of_prefix_length_le h (List.prefix_append _ _) (by simp))
      |>.eq_of_length (by simp)
  have hdiv : w / 2 ^ (m - n) < 2 ^ n := by
    rw [Nat.div_lt_iff_lt_mul (Nat.two_pow_pos _), ← Nat.pow_add,
      show n + (m - n) = m by omega]
    exact hw
  simp [isPrefix, hle, bits_inj hv hdiv heq]

/-! ## Codes -/

section Code

variable {α : Type} (code : α → List Bool)

/-- The bit string of a list of symbols. -/
def concat (s : List α) : List Bool := s.flatMap code

@[simp] theorem concat_nil : concat code [] = [] := rfl

@[simp] theorem concat_cons (a : α) (s : List α) :
    concat code (a :: s) = code a ++ concat code s := by
  simp [concat]

/-- No code word is a prefix of another, and none is comparable with `stop`. -/
structure PrefixFree (stop : List Bool) : Prop where
  code_inj : ∀ a b, code a <+: code b → a = b
  not_stop : ∀ a, ¬ code a <+: stop
  stop_not : ∀ a, ¬ stop <+: code a

end Code

/-! ## Automata -/

/-- An automaton that reads chunks of bits and emits symbols. -/
structure Automaton (σ κ α : Type) where
  chunk : κ → List Bool
  step : σ → κ → Option (σ × Option α)

namespace Automaton

variable {σ κ α : Type} (A : Automaton σ κ α)

/-- The state after a list of chunks and the emitted symbols. -/
def run : List κ → σ → Option (σ × List α)
  | [], q => some (q, [])
  | k :: ks, q =>
      match A.step q k with
      | none => none
      | some (q', o) => (run ks q').map fun r => (r.1, o.toList ++ r.2)

/-- The bits of a list of chunks. -/
def input (ks : List κ) : List Bool := ks.flatMap A.chunk

/-- The steps of the automaton are consistent with the paths of its states. -/
structure Reads (code : α → List Bool) (stop : List Bool) (path : σ → List Bool)
    (good : σ → Prop) : Prop where
  emit : ∀ q k q' a, good q → A.step q k = some (q', some a) →
    good q' ∧ path q ++ A.chunk k = code a ++ path q'
  shift : ∀ q k q', good q → A.step q k = some (q', none) →
    good q' ∧ path q ++ A.chunk k = path q'
  halt : ∀ q k, good q → A.step q k = none → stop <+: path q ++ A.chunk k
  inner : ∀ q a, good q → ¬ code a <+: path q

variable {A} {code : α → List Bool} {stop : List Bool} {path : σ → List Bool} {good : σ → Prop}

/-- What was read is what was emitted, and the path of the state reached. -/
theorem Reads.sound (h : A.Reads code stop path good) :
    ∀ (ks : List κ) (q q' : σ) (s : List α), good q → A.run ks q = some (q', s) →
      good q' ∧ path q ++ A.input ks = concat code s ++ path q' := by
  intro ks
  induction ks with
  | nil =>
      intro q q' s hq hrun
      simp only [run, Option.some.injEq, Prod.mk.injEq] at hrun
      obtain ⟨rfl, rfl⟩ := hrun
      exact ⟨hq, by simp [input]⟩
  | cons k ks ih =>
      intro q q' s hq hrun
      have hinput : A.input (k :: ks) = A.chunk k ++ A.input ks := by simp [input]
      rw [run] at hrun
      cases hstep : A.step q k with
      | none => rw [hstep] at hrun; cases hrun
      | some p =>
          obtain ⟨q₁, o⟩ := p
          rw [hstep] at hrun
          obtain ⟨⟨q₂, t⟩, htail, heq⟩ := Option.map_eq_some_iff.mp hrun
          simp only [Prod.mk.injEq] at heq
          obtain ⟨rfl, rfl⟩ := heq
          cases o with
          | none =>
              obtain ⟨hq₁, hpath⟩ := h.shift q k q₁ hq hstep
              obtain ⟨hq', hrest⟩ := ih q₁ q₂ t hq₁ htail
              refine ⟨hq', ?_⟩
              rw [hinput, ← List.append_assoc, hpath, hrest]
              rfl
          | some a =>
              obtain ⟨hq₁, hpath⟩ := h.emit q k q₁ a hq hstep
              obtain ⟨hq', hrest⟩ := ih q₁ q₂ t hq₁ htail
              refine ⟨hq', ?_⟩
              rw [hinput, ← List.append_assoc, hpath, List.append_assoc, hrest]
              simp

/-- A concatenation of code words, followed by a padding that is shorter than
`stop` and that no code word starts, is read to its end. -/
theorem Reads.complete (h : A.Reads code stop path good) (hfree : PrefixFree code stop)
    {pad : List Bool} (hshort : pad.length < stop.length) (hpad : ∀ a, ¬ code a <+: pad) :
    ∀ (ks : List κ) (q : σ) (s : List α), good q →
      path q ++ A.input ks = concat code s ++ pad →
      ∃ q', A.run ks q = some (q', s) ∧ good q' ∧ path q' = pad := by
  intro ks
  induction ks with
  | nil =>
      intro q s hq heq
      have hpath : path q = concat code s ++ pad := by simpa [input] using heq
      cases s with
      | nil => exact ⟨q, rfl, hq, by simpa using hpath⟩
      | cons a s =>
          refine absurd ?_ (h.inner q a hq)
          rw [hpath, concat_cons, List.append_assoc]
          exact List.prefix_append _ _
  | cons k ks ih =>
      intro q s hq heq
      have hinput : A.input (k :: ks) = A.chunk k ++ A.input ks := by simp [input]
      rw [hinput, ← List.append_assoc] at heq
      cases hstep : A.step q k with
      | none =>
          -- the stream would start with the stop word
          exfalso
          have hstop : stop <+: concat code s ++ pad := by
            rw [← heq]
            exact (h.halt q k hq hstep).trans (List.prefix_append _ _)
          cases s with
          | nil =>
              have := hstop.length_le
              simp at this
              omega
          | cons a s =>
              have hcode : code a <+: concat code (a :: s) ++ pad := by
                rw [concat_cons, List.append_assoc]
                exact List.prefix_append _ _
              rcases List.prefix_or_prefix_of_prefix hstop hcode with hle | hle
              · exact hfree.stop_not a hle
              · exact hfree.not_stop a hle
      | some p =>
          obtain ⟨q₁, o⟩ := p
          cases o with
          | none =>
              obtain ⟨hq₁, hpath⟩ := h.shift q k q₁ hq hstep
              rw [hpath] at heq
              obtain ⟨q', hrun, hq', hpad'⟩ := ih q₁ s hq₁ heq
              refine ⟨q', ?_, hq', hpad'⟩
              simp [run, hstep, hrun]
          | some a =>
              obtain ⟨hq₁, hpath⟩ := h.emit q k q₁ a hq hstep
              rw [hpath, List.append_assoc] at heq
              have hcode : code a <+: concat code s ++ pad := by
                rw [← heq]
                exact List.prefix_append _ _
              cases s with
              | nil => exact absurd hcode (hpad a)
              | cons b s =>
                  have hcode' : code b <+: concat code (b :: s) ++ pad := by
                    rw [concat_cons, List.append_assoc]
                    exact List.prefix_append _ _
                  have hab : a = b := by
                    rcases List.prefix_or_prefix_of_prefix hcode hcode' with hle | hle
                    · exact hfree.code_inj a b hle
                    · exact (hfree.code_inj b a hle).symm
                  subst hab
                  rw [concat_cons, List.append_assoc] at heq
                  obtain ⟨q', hrun, hq', hpad'⟩ := ih q₁ s hq₁ (List.append_cancel_left heq)
                  refine ⟨q', ?_, hq', hpad'⟩
                  simp [run, hstep, hrun]

end Automaton

end Lib.PrefixCode
