/-
  Lib/OrderedMap.lean --- finite maps with ordered keys.

  A map is the list of its entries, the least key first; that the keys increase is part
  of the type.  A map can therefore be walked through from its least key on, and what is
  left of it is a map again.
-/
import Mathlib.Tactic

set_option autoImplicit false

namespace Lib

/-- A finite map with ordered keys. -/
@[ext]
structure OrderedMap (κ β : Type) [LT κ] where
  entries : List (κ × β)
  sorted : entries.Pairwise fun a b => a.1 < b.1

namespace OrderedMap

variable {κ β : Type} [LinearOrder κ]

/-! ## Reading -/

def empty : OrderedMap κ β := ⟨[], List.Pairwise.nil⟩

def isEmpty (m : OrderedMap κ β) : Bool := m.entries.isEmpty

/-- The value of the first entry with the key. -/
def find (k : κ) : List (κ × β) → Option β
  | [] => none
  | e :: l => if e.1 = k then some e.2 else find k l

def get? (m : OrderedMap κ β) (k : κ) : Option β := find k m.entries

theorem mem_of_find {k : κ} {v : β} {l : List (κ × β)} (h : find k l = some v) : (k, v) ∈ l := by
  induction l with
  | nil => cases h
  | cons e l ih =>
      rw [find] at h
      split at h
      · rename_i hk
        cases h
        rw [← hk]
        exact List.mem_cons_self
      · exact List.mem_cons_of_mem e (ih h)

/-- Keys are unique, so an entry is what is found under its key. -/
theorem find_of_mem {k : κ} {v : β} {l : List (κ × β)} (hs : l.Pairwise fun a b => a.1 < b.1)
    (h : (k, v) ∈ l) : find k l = some v := by
  induction l with
  | nil => cases h
  | cons e l ih =>
      rw [find]
      rcases List.mem_cons.mp h with rfl | h
      · exact if_pos rfl
      · have hlt := (List.pairwise_cons.mp hs).1 _ h
        rw [if_neg (ne_of_lt hlt), ih hs.of_cons h]

/-- A key has the value of its one entry. -/
theorem get?_eq_some {m : OrderedMap κ β} {k : κ} {v : β} :
    m.get? k = some v ↔ (k, v) ∈ m.entries :=
  ⟨mem_of_find, find_of_mem m.sorted⟩

theorem eq_empty_of_isEmpty {m : OrderedMap κ β} (h : m.isEmpty = true) : m = empty :=
  OrderedMap.ext (List.isEmpty_iff.mp h)

/-! ## Changing a value -/

/-- The entries with another value at the key. -/
def modify (m : OrderedMap κ β) (k : κ) (f : β → β) : OrderedMap κ β :=
  ⟨m.entries.map fun e => if e.1 = k then (e.1, f e.2) else e, by
    refine List.pairwise_map.mpr (m.sorted.imp ?_)
    intro a b hab
    split <;> split <;> exact hab⟩

theorem find_map (k k' : κ) (f : β → β) (l : List (κ × β)) :
    find k' (l.map fun e => if e.1 = k then (e.1, f e.2) else e) =
      if k' = k then (find k' l).map f else find k' l := by
  induction l with
  | nil =>
      rw [List.map_nil, find]
      split
      · rfl
      · rfl
  | cons e l ih =>
      rw [List.map_cons, find, find, ih]
      by_cases hek : e.1 = k
      · rw [if_pos hek]
        by_cases hk' : k' = k
        · simp only [if_pos hk', if_pos (hek.trans hk'.symm), Option.map_some]
        · have hne : e.1 ≠ k' := fun h => hk' (h.symm.trans hek)
          simp only [if_neg hk', if_neg hne]
      · rw [if_neg hek]
        by_cases hk' : k' = k
        · have hne : e.1 ≠ k' := fun h => hek (h.trans hk')
          simp only [if_pos hk', if_neg hne]
        · simp only [if_neg hk']

/-- The value under one key changes, and no other. -/
theorem get?_modify (m : OrderedMap κ β) (k k' : κ) (f : β → β) :
    (m.modify k f).get? k' = if k' = k then (m.get? k').map f else m.get? k' :=
  find_map k k' f m.entries

/-! ## A new entry -/

/-- The entries with one more, in front of the greater keys; an entry of the same key is
replaced. -/
def insertEntry (k : κ) (v : β) : List (κ × β) → List (κ × β)
  | [] => [(k, v)]
  | e :: l =>
      if k < e.1 then (k, v) :: e :: l
      else if e.1 = k then (k, v) :: l
      else e :: insertEntry k v l

theorem mem_insertEntry {k : κ} {v : β} {e : κ × β} {l : List (κ × β)}
    (h : e ∈ insertEntry k v l) : e = (k, v) ∨ e ∈ l := by
  induction l with
  | nil => exact .inl (List.mem_singleton.mp h)
  | cons d l ih =>
      rw [insertEntry] at h
      split at h
      · exact List.mem_cons.mp h
      · split at h
        · rcases List.mem_cons.mp h with h | h
          · exact .inl h
          · exact .inr (List.mem_cons_of_mem d h)
        · rcases List.mem_cons.mp h with h | h
          · exact .inr (h ▸ List.mem_cons_self)
          · exact (ih h).imp_right (List.mem_cons_of_mem d)

/-- A new entry keeps the order of the keys. -/
theorem insertEntry_sorted (k : κ) (v : β) {l : List (κ × β)}
    (h : l.Pairwise fun a b => a.1 < b.1) :
    (insertEntry k v l).Pairwise fun a b => a.1 < b.1 := by
  induction l with
  | nil => exact List.pairwise_singleton _ _
  | cons e l ih =>
      have hfirst := (List.pairwise_cons.mp h).1
      rw [insertEntry]
      split
      · rename_i hlt
        refine h.cons fun d hd => ?_
        rcases List.mem_cons.mp hd with rfl | hd
        · exact hlt
        · exact lt_trans hlt (hfirst d hd)
      · split
        · rename_i heq
          exact h.of_cons.cons fun d hd => lt_of_eq_of_lt heq.symm (hfirst d hd)
        · rename_i hge hne
          refine (ih h.of_cons).cons fun d hd => ?_
          rcases mem_insertEntry hd with rfl | hd
          · exact lt_of_le_of_ne (not_lt.mp hge) hne
          · exact hfirst d hd

theorem find_insertEntry (k k' : κ) (v : β) (l : List (κ × β)) :
    find k' (insertEntry k v l) = if k' = k then some v else find k' l := by
  have hhead : ∀ l, find k' ((k, v) :: l) = if k' = k then some v else find k' l := by
    intro l
    rw [find]
    simp only [eq_comm]
  induction l with
  | nil => exact hhead []
  | cons e l ih =>
      rw [insertEntry]
      split
      · exact hhead (e :: l)
      · split
        · rename_i heq
          rw [hhead, find]
          by_cases hk : k' = k
          · rw [if_pos hk, if_pos hk]
          · rw [if_neg hk, if_neg hk, if_neg fun h => hk (h.symm.trans heq)]
        · rename_i hne
          rw [find, find, ih]
          by_cases hk : k' = k
          · rw [if_pos hk, if_pos hk, if_neg fun h => hne (h.trans hk)]
          · rw [if_neg hk, if_neg hk]

def insert (m : OrderedMap κ β) (k : κ) (v : β) : OrderedMap κ β :=
  ⟨insertEntry k v m.entries, insertEntry_sorted k v m.sorted⟩

/-- A new value is found under its key, and the others as before. -/
theorem get?_insert (m : OrderedMap κ β) (k k' : κ) (v : β) :
    (m.insert k v).get? k' = if k' = k then some v else m.get? k' :=
  find_insertEntry k k' v m.entries

end OrderedMap

end Lib
