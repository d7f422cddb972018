/-
  Hpack/TableRefinement.lean --- the encoder table is a bounded queue of headers.

  `fifoIndex` says what indexing a header does to the list of stored headers,
  without cells, hashes or links.  Every run of `index` and `resize` on the table
  ends without a failure and leaves the list that the same run leaves on the
  queue, and `Table.Sound` holds after it.
-/
import NtexH2.Hpack.TableInsert

set_option autoImplicit false

namespace NtexH2.Hpack

open Lib Lib.RobinHood Lib.Fifo

variable {S : HttpSyntax}

/-! ## The queue -/

/-- Whether `index` looks at the dynamic table at all. -/
def dynamic (maxSize : Nat) (h : Named S) : Bool :=
  !h.skipValueIndex && !((indexStatic h).any (·.2)) && decide (h.len * 4 ≤ maxSize * 3 % wordSize)

/-- What indexing a header does to the queue of stored headers: a header that is
not yet stored, and is neither sensitive nor excluded by `dynamic`, is pushed. -/
def fifoIndex (maxSize : Nat) (l : List (Named S)) (h : Named S) : List (Named S) :=
  if dynamic maxSize h && !h.isSensitive && !Table.holds l h then
    fit Header.len maxSize (h :: l)
  else l

/-- `n` is an index under which the name of `h` can be looked up, next to the
stored headers `l`. -/
def NameAt (l : List (Named S)) (h : Named S) (n : Nat) : Prop :=
  (∃ b, indexStatic h = some (n, b)) ∨
    ∃ j e, n = j + dynOffset ∧ l[j]? = some e ∧ e.name = h.name

/-- `n` is an index under which the name and the value of `h` can be looked up. -/
def EntryAt (l : List (Named S)) (h : Named S) (n : Nat) : Prop :=
  indexStatic h = some (n, true) ∨
    ∃ j e, n = j + dynOffset ∧ l[j]? = some e ∧ e.name = h.name ∧ e.valueEq h = true

/-- What the result of `index` says about the header and the queue before and
after. -/
def Index.Describes (maxSize : Nat) (l l' : List (Named S)) (h : Named S) : Index S → Prop
  | .indexed n e => e = h ∧ l' = l ∧ EntryAt l h n
  | .name n e => e = h ∧ l' = l ∧ NameAt l h n
  | .notIndexed e => e = h ∧ l' = l
  | .inserted i => i = 0 ∧ h.isSensitive = false ∧ h.len ≤ maxSize ∧
      l' = fit Header.len maxSize (h :: l)
  | .insertedValue n i => i = 0 ∧ h.isSensitive = false ∧ h.len ≤ maxSize ∧
      l' = fit Header.len maxSize (h :: l) ∧ NameAt l h n

/-- A result of `Index::new` on the static table. -/
theorem describes_new (maxSize : Nat) (l : List (Named S)) (h : Named S) :
    (Index.new (indexStatic h) h).Describes maxSize l l h := by
  cases hs : indexStatic h with
  | none => exact ⟨rfl, rfl⟩
  | some p =>
      obtain ⟨n, b⟩ := p
      cases b with
      | true => exact ⟨rfl, rfl, .inl hs⟩
      | false => exact ⟨rfl, rfl, .inl ⟨false, hs⟩⟩

/-- Every header counts at least 32 octets. -/
theorem length_le_total (l : List (Named S)) : 32 * l.length ≤ total Header.len l := by
  induction l with
  | nil => simp
  | cons a l ih =>
      rw [total_cons, List.length_cons]
      have := Header.len_ge a
      omega

namespace Table

/-- The full invariant of the table between calls. -/
structure Valid (hash : Name S → Nat) (t : Table S) : Prop where
  linked : t.Linked hash
  sized : t.Sized 0
  size_le : t.size ≤ t.maxSize
  maxSize_lt : t.maxSize < wordSize

section Index

variable {hash : Name S → Nat} {t : Table S}

theorem Valid.slots_lt (h : t.Valid hash) : t.slots.length < 2 ^ 59 := by
  have htotal := length_le_total t.headers
  have hsized := h.sized
  have hle := h.size_le
  have hlt := h.maxSize_lt
  unfold Sized at hsized
  unfold wordSize at hlt
  simp only [headers, List.length_map] at htotal hsized
  omega

/-- A header that is excluded from indexing has a name of the static table. -/
theorem indexStatic_of_skip {h : Named S} (hskip : h.skipValueIndex = true) :
    (indexStatic h).isSome = true := by
  cases h with
  | field name value =>
      simp only [Header.skipValueIndex, List.any_eq_true, beq_iff_eq] at hskip
      obtain ⟨s, hs, hname⟩ := hskip
      have hstd : ∀ s ∈ Header.skipNames, ∃ p ∈ staticFields, p.1 = s := by decide
      obtain ⟨p, hp, rfl⟩ := hstd s hs
      have hfind : (staticFields.find? fun p => name.bytes == octets p.1).isSome = true := by
        rw [List.find?_isSome]
        exact ⟨p, hp, by simp [hname]⟩
      obtain ⟨q, hq⟩ := Option.isSome_iff_exists.mp hfind
      simp [indexStatic, hq]
  | path v =>
      simp only [indexStatic]
      split_ifs <;> rfl
  | authority v | method v | scheme v | protocol v | status v =>
      simp [Header.skipValueIndex] at hskip

/-- A dynamic entry with the name and value of the header. -/
theorem holds_of_slot {h : Named S} {j : Nat} {s : Slot S} (hs : t.slots[j]? = some s)
    (hname : s.header.name = h.name) (hval : s.header.valueEq h = true) :
    holds t.headers h = true := by
  unfold holds headers
  rw [List.any_eq_true]
  exact ⟨s.header, List.mem_map.mpr ⟨s, List.mem_of_getElem? hs, rfl⟩, by simp [hname, hval]⟩

theorem not_holds_of_name {h : Named S} (hname : h.name ∉ t.names) :
    holds t.headers h = false := by
  unfold holds headers
  rw [List.any_eq_false]
  intro e he
  obtain ⟨s, hs, rfl⟩ := List.mem_map.mp he
  intro hcon
  simp only [Bool.and_eq_true, beq_iff_eq] at hcon
  exact hname (List.mem_map.mpr ⟨s, hs, hcon.1⟩)

theorem headers_getElem? {j : Nat} {s : Slot S} (hs : t.slots[j]? = some s) :
    t.headers[j]? = some s.header := by
  simp [headers, hs]

theorem header_of_name {j : Nat} {n : Name S} (hj : t.names[j]? = some n) :
    ∃ e, t.headers[j]? = some e ∧ e.name = n := by
  simp only [names, List.getElem?_map, Option.map_eq_some_iff] at hj
  obtain ⟨s, hs, hn⟩ := hj
  exact ⟨s.header, headers_getElem? hs, hn⟩

/-- What a call of `index` guarantees. -/
structure Indexed (hash : Name S → Nat) (t : Table S) (h : Named S) (idx : Index S)
    (t' : Table S) : Prop where
  valid : t'.Valid hash
  maxSize_eq : t'.maxSize = t.maxSize
  headers_eq : t'.headers = fifoIndex t.maxSize t.headers h
  describes : idx.Describes t.maxSize t.headers t'.headers h

/-- A call that leaves the table alone. -/
theorem Indexed.unchanged (hv : t.Valid hash) {h : Named S} {idx : Index S}
    (hfifo : fifoIndex t.maxSize t.headers h = t.headers)
    (hdesc : idx.Describes t.maxSize t.headers t.headers h) : Indexed hash t h idx t :=
  ⟨hv, rfl, hfifo.symm, hdesc⟩

/-- A call that reserves a cell first. -/
theorem Indexed.reserved {m : Nat} {l : List (Option Pos)} {h : Named S} {idx : Index S}
    {t' : Table S} (hi : Indexed hash { t with mask := m, indices := l } h idx t') :
    Indexed hash t h idx t' :=
  ⟨hi.valid, hi.maxSize_eq, hi.headers_eq, hi.describes⟩

theorem indexSearched_vacant {h : Named S} {n p : Nat} {st : Option (Nat × Bool)}
    (hs : t.search h (hash h.name) = .ok (.vacant n p)) :
    t.indexSearched hash h st = t.indexVacant h (hash h.name) n p st := by
  rw [indexSearched, hs, ok_bind]

theorem indexSearched_occupied {h : Named S} {i : Nat} {st : Option (Nat × Bool)}
    (hs : t.search h (hash h.name) = .ok (.occupied i)) :
    t.indexSearched hash h st = t.indexOccupied h (hash h.name) i (st.map (·.1)) := by
  rw [indexSearched, hs, ok_bind]

/-- The search and the insertion of `index_dynamic`, past `reserve_one`. -/
theorem indexSearched_spec (hv : t.Valid hash) {h : Named S}
    (hdyn : dynamic t.maxSize h = true) (hfits : h.len ≤ t.maxSize)
    (hload : h.isSensitive = false → t.slots.length < t.capacity) (hne : t.indices ≠ []) :
    ∃ idx t', t.indexSearched hash h (indexStatic h) = .ok (idx, t') ∧
      Indexed hash t h idx t' := by
  obtain ⟨k, hk3, hk, hlen, hmask⟩ : ∃ k, 3 ≤ k ∧ k ≤ 63 ∧ t.indices.length = 2 ^ k ∧
      t.mask = 2 ^ k - 1 := by
    rcases hv.linked.shape with ⟨h0, _⟩ | hk
    · exact absurd h0 hne
    · exact hk
  rcases search_spec hv.linked hk hlen hmask with
    ⟨n, hsearch, hn, hnew, hpass, hstops⟩ | ⟨i, hsearch, hi, hold⟩
  · rw [indexSearched_vacant hsearch]
    cases hsens : h.isSensitive with
    | true =>
        refine ⟨Index.new (indexStatic h) h, t, ?_, .unchanged hv ?_ (describes_new _ _ _)⟩
        · simp only [indexVacant, hsens, if_true]
          rfl
        · simp [fifoIndex, hsens]
    | false =>
        obtain ⟨t', ht', hlinked, hsized, hle, hmax, hheaders⟩ :=
          indexVacant_spec hv.linked hv.sized (hload hsens) hfits hsens hk hlen hmask hn hnew
            hpass hstops (indexStatic h)
        have hfifo : fifoIndex t.maxSize t.headers h =
            fit Header.len t.maxSize (h :: t.headers) := by
          simp [fifoIndex, hdyn, hsens, not_holds_of_name hnew]
        refine ⟨_, t', ht', ⟨hlinked, hsized, hle, hmax ▸ hv.maxSize_lt⟩, hmax,
          hheaders.trans hfifo.symm, ?_⟩
        cases hs : indexStatic h with
        | none => exact ⟨rfl, hsens, hfits, hheaders⟩
        | some p => exact ⟨rfl, hsens, hfits, hheaders, .inl ⟨p.2, hs⟩⟩
  · rw [indexSearched_occupied hsearch]
    rcases indexOccupied_spec hv.linked hv.sized hload hfits hi hold
        ((indexStatic h).map (·.1)) with
      ⟨j, s, hres, hs, hname, hval⟩ | ⟨hholds, hsens, j, hres, hj⟩ |
      ⟨hholds, hsens, j, t', hres, hj, hlinked, hsized, hle, hmax, hheaders⟩
    · refine ⟨.indexed (j + dynOffset) h, t, hres, .unchanged hv ?_ ⟨rfl, rfl, .inr ?_⟩⟩
      · simp [fifoIndex, holds_of_slot hs hname hval]
      · exact ⟨j, s.header, rfl, headers_getElem? hs, hname, hval⟩
    · refine ⟨.name (j + dynOffset) h, t, hres, .unchanged hv ?_ ⟨rfl, rfl, .inr ?_⟩⟩
      · simp [fifoIndex, hsens]
      · obtain ⟨e, he, hen⟩ := header_of_name hj
        exact ⟨j, e, rfl, he, hen⟩
    · have hfifo : fifoIndex t.maxSize t.headers h =
          fit Header.len t.maxSize (h :: t.headers) := by
        simp [fifoIndex, hdyn, hsens, hholds]
      refine ⟨.insertedValue _ 0, t', hres, ⟨hlinked, hsized, hle, hmax ▸ hv.maxSize_lt⟩, hmax,
        hheaders.trans hfifo.symm, rfl, hsens, hfits, hheaders, ?_⟩
      cases hs : indexStatic h with
      | none =>
          obtain ⟨e, he, hen⟩ := header_of_name hj
          exact .inr ⟨j, e, rfl, he, hen⟩
      | some p => exact .inl ⟨p.2, hs⟩

/-- `index` never fails, keeps the invariant, and does to the stored headers what
it does to the queue. -/
theorem index_spec (hv : t.Valid hash) (h : Named S) :
    ∃ idx t', t.index hash h = .ok (idx, t') ∧ Indexed hash t h idx t' := by
  cases hskip : h.skipValueIndex with
  | true =>
      refine ⟨Index.new (indexStatic h) h, t, ?_, .unchanged hv ?_ (describes_new _ _ _)⟩
      · simp only [index, hskip, if_true, indexStatic_of_skip hskip]
        rfl
      · simp [fifoIndex, dynamic, hskip]
  | false =>
      by_cases hfull : ∃ n, indexStatic h = some (n, true)
      · obtain ⟨n, hn⟩ := hfull
        refine ⟨.indexed n h, t, ?_, .unchanged hv ?_ ⟨rfl, rfl, .inl hn⟩⟩
        · simp only [index, hskip, hn, Bool.false_eq_true, if_false]
        · simp [fifoIndex, dynamic, hn]
      · -- no full match of the static table
        have hany : (indexStatic h).any (·.2) = false ∧
            t.index hash h = t.indexUnlessLarge hash h (indexStatic h) := by
          simp only [index, hskip, Bool.false_eq_true, if_false]
          cases hs : indexStatic h with
          | none => exact ⟨rfl, rfl⟩
          | some p =>
              obtain ⟨n, b⟩ := p
              cases b with
              | true => exact absurd ⟨n, hs⟩ hfull
              | false => exact ⟨rfl, rfl⟩
        rw [hany.2, indexUnlessLarge]
        by_cases hlarge : h.len * 4 > t.maxSize * 3 % wordSize
        · rw [if_pos hlarge]
          refine ⟨_, t, rfl, .unchanged hv ?_ (describes_new _ _ _)⟩
          simp [fifoIndex, dynamic, Nat.not_le.mpr hlarge]
        · rw [if_neg hlarge]
          have hdyn : dynamic t.maxSize h = true := by
            simp [dynamic, hskip, hany.1, Nat.le_of_not_lt hlarge]
          have hfits : h.len ≤ t.maxSize := by
            have := Nat.mod_le (t.maxSize * 3) wordSize
            omega
          rw [indexDynamic]
          by_cases hroom : h.len + t.size < t.maxSize ∨ ¬ h.isSensitive
          · obtain ⟨m, l, hres, hlinked, hl, hload⟩ := reserveOne_spec hv.linked hv.slots_lt
            rw [if_pos hroom, hres, ok_bind]
            beta_reduce
            rw [if_neg (by simpa using hl)]
            have hv' : Valid hash { t with mask := m, indices := l } :=
              ⟨hlinked, hv.sized, hv.size_le, hv.maxSize_lt⟩
            obtain ⟨idx, t', hrun, hidx⟩ :=
              indexSearched_spec hv' hdyn hfits (fun _ => hload) hl
            exact ⟨idx, t', hrun, hidx.reserved⟩
          · have hsens : h.isSensitive = true := by
              by_contra hcon
              exact hroom (.inr hcon)
            rw [if_neg hroom, ok_bind]
            beta_reduce
            by_cases hempty : t.indices = []
            · rw [if_pos (by simpa using hempty)]
              refine ⟨_, t, rfl, .unchanged hv ?_ (describes_new _ _ _)⟩
              simp [fifoIndex, hsens]
            · rw [if_neg (by simpa using hempty)]
              refine indexSearched_spec hv hdyn hfits (fun hcon => ?_) hempty
              rw [hsens] at hcon
              cases hcon

end Index

/-! ## Creation and resizing -/

section Resize

variable {hash : Name S → Nat} {t : Table S}

theorem nextPowerOfTwo_cases (n : Nat) :
    nextPowerOfTwo n = 0 ∨ ∃ k, k ≤ 63 ∧ nextPowerOfTwo n = 2 ^ k := by
  unfold nextPowerOfTwo
  by_cases hn : n ≤ 2 ^ 63
  · exact .inr ⟨Nat.clog 2 n, Nat.clog_le_of_le_pow hn, if_pos hn⟩
  · exact .inl (if_neg hn)

/-- A table without slots whose cells are empty. -/
theorem linked_empty (mask c inserted size maxSize : Nat)
    (hshape : (c = 0 ∧ mask = 0) ∨ ∃ k, 3 ≤ k ∧ k ≤ 63 ∧ c = 2 ^ k ∧ mask = 2 ^ k - 1)
    (hins : inserted < wordSize) :
    Linked hash (⟨mask, List.replicate c none, [], inserted, size, maxSize⟩ : Table S) := by
  refine ⟨?_, Nat.zero_le _, hins, ?_, ?_, ?_, ?_, ?_, cellOrder_replicate c⟩
  · rcases hshape with ⟨rfl, hm⟩ | ⟨k, hk3, hk, hc, hm⟩
    · exact .inl ⟨rfl, hm⟩
    · exact .inr ⟨k, hk3, hk, by simpa using hc, hm⟩
  · intro i s hs
    cases hs
  · intro i s hs
    cases hs
  · intro i s x hs
    cases hs
  · intro pos
    simp [entries_replicate]
  · simp [entries_replicate]

theorem new_valid (maxSize capacity : Nat) (hmax : maxSize < wordSize) :
    (Table.new S maxSize capacity).Valid hash := by
  unfold Table.new
  by_cases hcap : capacity = 0
  · rw [if_pos hcap]
    exact ⟨linked_empty 0 0 0 0 maxSize (.inl ⟨rfl, rfl⟩) (by decide), rfl, Nat.zero_le _, hmax⟩
  · rw [if_neg hcap]
    refine ⟨linked_empty _ _ 0 0 maxSize (.inr ?_) (by decide), rfl, Nat.zero_le _, hmax⟩
    rcases nextPowerOfTwo_cases (toRawCapacity capacity) with h0 | ⟨k, hk, hpow⟩
    · exact ⟨3, by omega, by omega, by rw [h0]; rfl, by rw [h0]; rfl⟩
    · rcases Nat.lt_or_ge k 3 with hlt | hge
      · have : 2 ^ k ≤ 2 ^ 3 := Nat.pow_le_pow_right (by decide) (by omega)
        have hmx : max (nextPowerOfTwo (toRawCapacity capacity)) 8 = 2 ^ 3 := by
          rw [hpow]
          omega
        exact ⟨3, by omega, by omega, hmx, by rw [hmx]⟩
      · have : 2 ^ 3 ≤ 2 ^ k := Nat.pow_le_pow_right (by decide) hge
        have hmx : max (nextPowerOfTwo (toRawCapacity capacity)) 8 = 2 ^ k := by
          rw [hpow]
          omega
        exact ⟨k, hge, hk, hmx, by rw [hmx]⟩

theorem new_headers (maxSize capacity : Nat) : (Table.new S maxSize capacity).headers = [] := by
  unfold Table.new
  split_ifs <;> rfl

theorem new_maxSize (maxSize capacity : Nat) :
    (Table.new S maxSize capacity).maxSize = maxSize := by
  unfold Table.new
  split_ifs <;> rfl

/-- `resize` never fails and drops the oldest headers over the new bound. -/
theorem resize_spec (hv : t.Valid hash) {n : Nat} (hn : n < wordSize) :
    ∃ t', t.resize n = .ok t' ∧ t'.Valid hash ∧ t'.maxSize = n ∧
      t'.headers = fit Header.len n t.headers := by
  unfold resize
  by_cases hzero : n = 0
  · subst hzero
    refine ⟨_, if_pos rfl, ⟨?_, rfl, Nat.le_refl _, hn⟩, rfl, ?_⟩
    · rw [List.map_const']
      refine linked_empty _ _ 0 0 0 ?_ (by decide)
      rcases hv.linked.shape with ⟨h0, hm⟩ | hk
      · exact .inl ⟨by simp [h0], hm⟩
      · exact .inr hk
    · rw [fit_zero Header.len fun a => by have := Header.len_ge a; omega]
      rfl
  · rw [if_neg hzero]
    have hl := hv.linked
    have hlinked : Linked hash { t with maxSize := n } :=
      ⟨hl.shape, hl.load, hl.inserted_lt, hl.slotHash, hl.newest, hl.next, hl.cell, hl.distinct,
        hl.order⟩
    obtain ⟨t', ht', hlinked', hsized', hle', hev, hheaders⟩ :=
      convergeLoop_spec (t.slots.length + 2) { t with maxSize := n } hlinked hv.sized
        (Nat.zero_le _) (Nat.lt_succ_of_lt (Nat.lt_succ_self _))
    refine ⟨t', ?_, ⟨hlinked', hsized', hle', ?_⟩, hev.maxSize_eq, hheaders⟩
    · rw [converge, ht', ok_bind]
      rfl
    · rw [hev.maxSize_eq]
      exact hn

end Resize

/-! ## Runs -/

/-- A call on the table. -/
inductive Call (S : HttpSyntax) where
  | index (h : Named S)
  | resize (n : UInt64)

/-- The table after a call. -/
def call (hash : Name S → Nat) (t : Table S) : Call S → Except Panic (Table S)
  | .index h => (t.index hash h).map (·.2)
  | .resize n => t.resize n.toNat

/-- The bound and the queue after a call. -/
def fifoCall (q : Nat × List (Named S)) : Call S → Nat × List (Named S)
  | .index h => (q.1, fifoIndex q.1 q.2 h)
  | .resize n => (n.toNat, fit Header.len n.toNat q.2)

theorem call_spec {hash : Name S → Nat} {t : Table S} (hv : t.Valid hash) (c : Call S) :
    ∃ t', t.call hash c = .ok t' ∧ t'.Valid hash ∧
      (t'.maxSize, t'.headers) = fifoCall (t.maxSize, t.headers) c := by
  cases c with
  | index h =>
      obtain ⟨idx, t', ht', hi⟩ := index_spec hv h
      refine ⟨t', ?_, hi.valid, ?_⟩
      · rw [call, ht']
        rfl
      · rw [fifoCall, hi.maxSize_eq, hi.headers_eq]
  | resize n =>
      obtain ⟨t', ht', hvalid, hmax, hheaders⟩ := resize_spec hv (n := n.toNat) n.toNat_lt
      exact ⟨t', ht', hvalid, by rw [fifoCall, hmax, hheaders]⟩

/-- The run of a list of calls. -/
theorem calls_spec {hash : Name S → Nat} (cs : List (Call S)) :
    ∀ t : Table S, t.Valid hash → ∃ t', cs.foldlM (call hash) t = .ok t' ∧ t'.Valid hash ∧
      (t'.maxSize, t'.headers) = cs.foldl fifoCall (t.maxSize, t.headers) := by
  induction cs with
  | nil => exact fun t hv => ⟨t, rfl, hv, rfl⟩
  | cons c cs ih =>
      intro t hv
      obtain ⟨t₁, ht₁, hv₁, hq₁⟩ := call_spec hv c
      obtain ⟨t', ht', hv', hq'⟩ := ih t₁ hv₁
      refine ⟨t', ?_, hv', ?_⟩
      · rw [List.foldlM_cons, ht₁, ok_bind]
        exact ht'
      · rw [List.foldl_cons, ← hq₁]
        exact hq'

/-- The law of the table, in terms of its cells, slots and links: what
`assert_valid_state` would check. -/
structure Sound (t : Table S) : Prop where
  /-- an occupied cell leads to a slot with its hash -/
  cell_slot : ∀ p pos, cellAt t.indices p = some pos →
    ∃ s, t.slots[t.realIdx pos.index]? = some s ∧ s.hash = pos.hash
  /-- every slot is reached once, from a cell or from another slot -/
  reached_once : ∀ i, i < t.slots.length →
    t.indices.countP (fun c => c.any fun pos => t.realIdx pos.index == i) +
      t.slots.countP (fun s => s.next.any fun x => t.realIdx x == i) = 1
  /-- a link leads to a newer slot of the same name -/
  chain : ∀ (i : Nat) (s : Slot S) x, t.slots[i]? = some s → s.next = some x →
    t.realIdx x < i ∧ ∃ s', t.slots[t.realIdx x]? = some s' ∧ s'.header.name = s.header.name
  /-- a cell is found from its desired position past entries displaced as far -/
  probed : ∀ p pos, cellAt t.indices p = some pos → ∀ j, j < probeDistance t.mask pos.hash p →
    ∃ pos', cellAt t.indices ((desiredPos t.mask pos.hash + j) % t.indices.length) = some pos' ∧
      j ≤ probeDistance t.mask pos'.hash ((desiredPos t.mask pos.hash + j) % t.indices.length)
  /-- an array of cells has an empty one -/
  empty_cell : t.indices ≠ [] → ∃ p, p < t.indices.length ∧ cellAt t.indices p = none
  size_eq : t.size = (t.slots.map (·.header.len)).sum
  size_le : t.size ≤ t.maxSize

/-- One position only satisfies the predicate. -/
theorem countP_eq_one {α : Type} {P : α → Bool} {l : List α} {k : Nat} {a : α}
    (ha : l[k]? = some a) (hP : P a = true)
    (honly : ∀ k' a', l[k']? = some a' → P a' = true → k' = k) : l.countP P = 1 := by
  induction l generalizing k with
  | nil => cases ha
  | cons x l ih =>
      rw [List.countP_cons]
      cases k with
      | zero =>
          simp only [List.getElem?_cons_zero, Option.some.injEq] at ha
          subst ha
          have hzero : l.countP P = 0 := by
            rw [List.countP_eq_zero]
            intro b hb hPb
            obtain ⟨k', hk'⟩ := List.mem_iff_getElem?.mp hb
            have := honly (k' + 1) b (by simpa using hk') hPb
            omega
          rw [hzero, if_pos hP]
      | succ k =>
          have hx : P x ≠ true := by
            intro hx
            have := honly 0 x rfl hx
            omega
          rw [if_neg hx]
          refine ih (k := k) (by simpa using ha) ?_
          intro k' a' hk' hPa'
          have := honly (k' + 1) a' (by simpa using hk') hPa'
          omega

section Law

variable {hash : Name S → Nat} {t : Table S}

theorem cell_test {p : Nat} {c : Option Pos} {i : Nat} (hc : t.indices[p]? = some c)
    (htest : (c.any fun pos => t.realIdx pos.index == i) = true) :
    ∃ pos, cellAt t.indices p = some pos ∧ t.realIdx pos.index = i := by
  cases c with
  | none => cases htest
  | some pos =>
      rw [Option.any_some, beq_iff_eq] at htest
      exact ⟨pos, by simp [cellAt, hc], htest⟩

theorem Linked.link_test (h : t.Linked hash) {m : Nat} {s : Slot S} {i : Nat}
    (hs : t.slots[m]? = some s) (htest : (s.next.any fun x => t.realIdx x == i) = true) :
    NextNewer t.names m i := by
  cases hnext : s.next with
  | none => rw [hnext] at htest; cases htest
  | some x =>
      obtain ⟨j, rfl, hnn⟩ := h.next m s x hs hnext
      have hm : m < t.slots.length := (List.getElem?_eq_some_iff.mp hs).1
      have hj := hnn.1
      have hreal := h.realIdx_stored (i := j) (by omega)
      rw [hnext, Option.any_some, hreal, beq_iff_eq] at htest
      rw [← htest]
      exact hnn

/-- Every slot is reached once: the oldest of its name from a cell, any other from
the next older one. -/
theorem Linked.reached_once (h : t.Linked hash) {i : Nat} (hi : i < t.slots.length) :
    t.indices.countP (fun c => c.any fun pos => t.realIdx pos.index == i) +
      t.slots.countP (fun s => s.next.any fun x => t.realIdx x == i) = 1 := by
  obtain ⟨s, hs⟩ : ∃ s, t.slots[i]? = some s := ⟨_, List.getElem?_eq_getElem hi⟩
  have hcellOld : ∀ p pos, cellAt t.indices p = some pos → t.realIdx pos.index = i →
      Oldest t.names i ∧ pos.index = t.stored i := by
    intro p pos hp hreal
    obtain ⟨m, s', _, hold, rfl, hm⟩ := h.slot_of_cell hp
    obtain rfl : m = i := hm.symm.trans hreal
    exact ⟨hold, rfl⟩
  by_cases hold : Oldest t.names i
  · have hcells : t.indices.countP (fun c => c.any fun pos => t.realIdx pos.index == i) = 1 := by
      obtain ⟨p, hp⟩ := mem_entries.mp ((h.cell _).mpr ⟨i, s, hs, hold, rfl⟩)
      refine countP_eq_one (getElem?_of_cellAt hp) ?_ ?_
      · rw [Option.any_some, beq_iff_eq]
        exact h.realIdx_stored (Nat.le_of_lt hi)
      · intro p' c hc htest
        obtain ⟨pos, hpos, hreal⟩ := cell_test hc htest
        exact h.cell_unique hpos hp (hcellOld p' pos hpos hreal).2
    have hlinks : t.slots.countP (fun s => s.next.any fun x => t.realIdx x == i) = 0 := by
      rw [List.countP_eq_zero]
      intro s' hs' htest
      obtain ⟨m, hm⟩ := List.mem_iff_getElem?.mp hs'
      have hnn := h.link_test hm htest
      refine hold m hnn.1 ?_ hnn.2.1.symm
      rw [names_length]
      exact (List.getElem?_eq_some_iff.mp hm).1
    omega
  · have hcells : t.indices.countP (fun c => c.any fun pos => t.realIdx pos.index == i) = 0 := by
      rw [List.countP_eq_zero]
      intro c hc htest
      obtain ⟨p, hp⟩ := List.mem_iff_getElem?.mp hc
      obtain ⟨pos, hpos, hreal⟩ := cell_test hp htest
      exact hold (hcellOld p pos hpos hreal).1
    have hlinks : t.slots.countP (fun s => s.next.any fun x => t.realIdx x == i) = 1 := by
      obtain ⟨m, hm, hnn⟩ := exists_nextNewer_of_not_oldest hold
      rw [names_length] at hm
      obtain ⟨s', hs'⟩ : ∃ s', t.slots[m]? = some s' := ⟨_, List.getElem?_eq_getElem hm⟩
      refine countP_eq_one hs' ?_ ?_
      · cases hnext : s'.next with
        | none => exact absurd hnn.2.1 (h.newest m s' hs' hnext i hnn.1)
        | some x =>
            obtain ⟨j, rfl, hnn'⟩ := h.next m s' x hs' hnext
            obtain rfl := hnn.unique hnn'
            rw [Option.any_some, beq_iff_eq]
            exact h.realIdx_stored (Nat.le_of_lt hi)
      · intro m' s'' hs'' htest
        exact (h.link_test hs'' htest).inj hnn
    omega

theorem Valid.sound (hv : t.Valid hash) : t.Sound := by
  have h := hv.linked
  refine ⟨?_, fun i hi => h.reached_once hi, ?_, ?_, h.exists_empty, ?_, hv.size_le⟩
  · intro p pos hp
    obtain ⟨i, s, hs, _, rfl, hreal⟩ := h.slot_of_cell hp
    exact ⟨s, by rw [hreal]; exact hs, rfl⟩
  · intro i s x hs hnext
    obtain ⟨j, rfl, hnn⟩ := h.next i s x hs hnext
    have hi : i < t.slots.length := (List.getElem?_eq_some_iff.mp hs).1
    have hj := hnn.1
    rw [h.realIdx_stored (by omega)]
    obtain ⟨s', hs'⟩ : ∃ s', t.slots[j]? = some s' := ⟨_, List.getElem?_eq_getElem (by omega)⟩
    refine ⟨hj, s', hs', ?_⟩
    have := hnn.2.1
    rw [names_getElem? hs, names_getElem? hs'] at this
    exact Option.some.inj this
  · intro p pos hp j hj
    have hlt := lt_length_of_cellAt hp
    rcases h.shape with ⟨h0, _⟩ | ⟨k, _, hk, hlen, hmask⟩
    · rw [h0] at hlt
      exact absurd hlt (Nat.not_lt_zero p)
    · have horder := h.order
      unfold CellOrder at horder
      rw [hlen] at horder hlt
      rw [hmask, probeDistance_eq (by omega) hlt] at hj
      obtain ⟨pos', hpos', hle⟩ := horder p pos hlt hp j hj
      have hhome := home_lt (k := k) pos
      have hjk : j < 2 ^ k := Nat.lt_trans hj (wrap_lt (by
        have := Nat.mod_lt pos.hash (Nat.two_pow_pos k)
        omega))
      have hcell : (desiredPos t.mask pos.hash + j) % t.indices.length =
          wrap (2 ^ k) (home (2 ^ k) pos + j) := by
        rw [hmask, desiredPos_eq, hlen]
        exact mod_eq_wrap (by unfold home at hhome; omega)
      rw [hcell, hmask]
      refine ⟨pos', hpos', ?_⟩
      rw [probeDistance_eq (by omega) (wrap_lt (by omega))]
      exact hle
  · have := hv.sized
    unfold Sized total headers at this
    rw [this, List.map_map, Nat.zero_add]
    rfl

end Law

/-- The table refines the bounded queue.  For every initial bound and capacity,
every hash function and every sequence of calls, no call fails, the law of the
table holds at the end, and the stored headers are those of the queue. -/
theorem run_refines_fifo (hash : Name S → Nat) (maxSize capacity : UInt64) (cs : List (Call S)) :
    ∃ t, cs.foldlM (call hash) (Table.new S maxSize.toNat capacity.toNat) = .ok t ∧ t.Sound ∧
      (t.maxSize, t.slots.map (·.header)) = cs.foldl fifoCall (maxSize.toNat, []) := by
  have hnew : (Table.new S maxSize.toNat capacity.toNat).Valid hash :=
    new_valid _ _ maxSize.toNat_lt
  obtain ⟨t, ht, hv, hq⟩ := calls_spec cs _ hnew
  refine ⟨t, ht, hv.sound, ?_⟩
  rw [new_headers, new_maxSize] at hq
  exact hq

end Table

end NtexH2.Hpack
