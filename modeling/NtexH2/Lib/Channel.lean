/-
  Lib/Channel.lean --- queues between a writer and a reader.

  Messages are read in the order in which they were written, and each of them once.  The
  reader may make something else of a message, within a relation, and of a different type.
-/
import Mathlib.Tactic

set_option autoImplicit false

namespace Lib

variable {α β : Type} {R : α → β → Prop} {a : α} {b : β}

/-! ## Lists that are related -/

/-- Every element of the first list has a counterpart in the second. -/
theorem forall₂_left {l : List α} {m : List β} (h : List.Forall₂ R l m) (ha : a ∈ l) :
    ∃ b ∈ m, R a b := by
  induction h with
  | nil => exact absurd ha List.not_mem_nil
  | @cons x y l m hxy _ ih =>
      rcases List.mem_cons.mp ha with rfl | ha
      · exact ⟨y, List.mem_cons_self, hxy⟩
      · obtain ⟨b, hb, hab⟩ := ih ha
        exact ⟨b, List.mem_cons_of_mem y hb, hab⟩

/-- Every element of the second list has a counterpart in the first. -/
theorem forall₂_right {l : List α} {m : List β} (h : List.Forall₂ R l m) (hb : b ∈ m) :
    ∃ a ∈ l, R a b :=
  forall₂_left (R := fun b a => R a b) h.flip hb

/-- A measure that the relation does not change has the same sum over both. -/
theorem forall₂_sum {f : α → Nat} {g : β → Nat} (hfg : ∀ a b, R a b → f a = g b) {l : List α}
    {m : List β} (h : List.Forall₂ R l m) : (l.map f).sum = (m.map g).sum := by
  induction h with
  | nil => rfl
  | cons hxy _ ih =>
      rw [List.map_cons, List.map_cons, List.sum_cons, List.sum_cons, hfg _ _ hxy, ih]

/-- Lists of one type whose elements are all the same. -/
theorem forall₂_eq {R : α → α → Prop} {l m : List α} (h : List.Forall₂ R l m)
    (heq : ∀ a b, b ∈ m → R a b → a = b) : l = m := by
  induction h with
  | nil => rfl
  | @cons x y l m hxy _ ih =>
      rw [heq x y List.mem_cons_self hxy, ih fun a b hb => heq a b (List.mem_cons_of_mem y hb)]

/-! ## Queues -/

/-- Of the messages that were written the first have been read, as `read`, and the others are
`left`. -/
def Channel (R : α → β → Prop) (written : List α) (read : List β) (left : List α) : Prop :=
  ∃ taken, written = taken ++ left ∧ List.Forall₂ R taken read

namespace Channel

variable {written left : List α} {read : List β}

theorem new (written : List α) : Channel R written [] written := ⟨[], rfl, .nil⟩

theorem write (h : Channel R written read left) (l : List α) :
    Channel R (written ++ l) read (left ++ l) := by
  obtain ⟨taken, rfl, hread⟩ := h
  exact ⟨taken, List.append_assoc .., hread⟩

theorem next (h : Channel R written read (a :: left)) (hab : R a b) :
    Channel R written (read ++ [b]) left := by
  obtain ⟨taken, rfl, hread⟩ := h
  exact ⟨taken ++ [a], (List.append_assoc taken [a] left).symm,
    List.rel_append hread (.cons hab .nil)⟩

/-- What is read was written. -/
theorem origin (h : Channel R written read left) (hb : b ∈ read) : ∃ a ∈ written, R a b := by
  obtain ⟨taken, rfl, hread⟩ := h
  obtain ⟨a, ha, hab⟩ := forall₂_right hread hb
  exact ⟨a, List.mem_append_left left ha, hab⟩

/-- What is written has been read, or is left. -/
theorem fate (h : Channel R written read left) (ha : a ∈ written) :
    (∃ b ∈ read, R a b) ∨ a ∈ left := by
  obtain ⟨taken, rfl, hread⟩ := h
  exact (List.mem_append.mp ha).imp_left (forall₂_left hread)

theorem sum {f : α → Nat} {g : β → Nat} (hfg : ∀ a b, R a b → f a = g b)
    (h : Channel R written read left) :
    (written.map f).sum = (read.map g).sum + (left.map f).sum := by
  obtain ⟨taken, rfl, hread⟩ := h
  rw [List.map_append, List.sum_append, forall₂_sum hfg hread]

/-- The messages of one kind are a queue of their own. -/
theorem filter {p : α → Bool} {q : β → Bool} (hpq : ∀ a b, R a b → p a = q b)
    (h : Channel R written read left) :
    Channel R (written.filter p) (read.filter q) (left.filter p) := by
  obtain ⟨taken, rfl, hread⟩ := h
  refine ⟨taken.filter p, List.filter_append .., ?_⟩
  exact List.rel_filter (fun {a b} hab => iff_of_eq (congrArg (· = true) (hpq a b hab))) hread

end Channel

end Lib
