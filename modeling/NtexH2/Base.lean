/-
  Base.lean --- conventions shared by the whole model.

  Octet strings are lists.  What can panic in the source is explicit: an index
  out of bounds, `unwrap` on `None`, an assertion (debug assertions included), an
  unsigned subtraction below zero.  A loop that does not end is `Panic.endless`.
-/
import Mathlib.Tactic

set_option autoImplicit false

namespace NtexH2

/-- An octet string. -/
abbrev Bytes := List UInt8

/-- The UTF-8 octets of a string constant. -/
def octets (s : String) : Bytes := s.toByteArray.data.toList

/-- Ways in which code can fail without returning. -/
inductive Panic where
  | outOfBounds
  | unwrapNone
  | assertion
  | underflow
  | endless
  deriving DecidableEq, Repr

/-- `usize` has 64 bits. -/
def wordSize : Nat := 2 ^ 64

/-- An `assert!`. -/
def assert (b : Bool) : Except Panic Unit := if b then .ok () else .error .assertion

/-- Indexing of a sequence. -/
def at' {α : Type} (l : List α) (i : Nat) : Except Panic α :=
  match l[i]? with
  | some a => .ok a
  | none => .error .outOfBounds

/-- `Option::unwrap`. -/
def unwrap {α : Type} : Option α → Except Panic α
  | some a => .ok a
  | none => .error .unwrapNone

theorem at'_getElem? {α : Type} {l : List α} {p : Nat} {a : α} (h : l[p]? = some a) :
    at' l p = .ok a := by
  rw [at', h]

theorem ok_bind {ε α β : Type} (a : α) (f : α → Except ε β) : (Except.ok a >>= f) = f a := rfl

/-- A computation that ends without a failure has a first step that does. -/
theorem bind_eq_ok {ε α β : Type} {x : Except ε α} {f : α → Except ε β} {b : β} :
    (x >>= f) = .ok b ↔ ∃ a, x = .ok a ∧ f a = .ok b := by
  cases x with
  | error e =>
      constructor
      · intro h
        cases h
      · rintro ⟨a, h, -⟩
        cases h
  | ok a =>
      constructor
      · intro h
        exact ⟨a, rfl, h⟩
      · rintro ⟨a', h, hf⟩
        cases h
        exact hf

end NtexH2
