/-
  Hpack/Repeated.lean --- headers that are encoded again (src/hpack/table.rs).

  An encoder that meets a header it has stored refers to the stored entry and stores
  nothing.  Whether a value is stored is asked with `value_eq`, which knows every kind
  of header but `:status`: a status that is stored is stored again.
-/
import NtexH2.Hpack.Agreement

set_option autoImplicit false

namespace NtexH2.Hpack

open Lib Lib.RobinHood Lib.Fifo

variable {S : HttpSyntax}

/-! ## Equal headers -/

namespace Header

/-- Equal name and equal value. -/
def Same (a b : Named S) : Prop := a.name = b.name ∧ a.valueSlice = b.valueSlice

/-- The header is a `:status`. -/
def isStatus : Named S → Bool
  | .status _ => true
  | _ => false

theorem asStr_inj {a b : StatusCode} (h : a.asStr = b.asStr) : a = b := by
  have ha := StatusCode.fromBytes_asStr a
  rw [h, StatusCode.fromBytes_asStr] at ha
  exact (Option.some.inj ha).symm

theorem Same.unmarked {a b : Named S} (h : a.Same b) : a.unmarked = b.unmarked := by
  have ha := Name.intoEntry_valueSlice a
  rw [h.1, h.2, Name.intoEntry_valueSlice b] at ha
  exact (Except.ok.inj ha).symm

/-- `value_eq` misses nothing but a status. -/
theorem Same.valueEq {a b : Named S} (h : a.Same b) (hs : b.isStatus = false) :
    a.valueEq b = true := by
  obtain ⟨hname, hval⟩ := h
  cases a <;> cases b <;> simp_all [Header.name, Header.valueSlice, Header.valueEq, isStatus]

theorem valueEq_status {a b : Named S} (hs : b.isStatus = true) : a.valueEq b = false := by
  cases b with
  | status v =>
      cases a with
      | _ => rfl
  | _ => cases hs

theorem same_of_valueEq {a b : Named S} (hname : a.name = b.name) (hval : a.valueEq b = true) :
    a.Same b := by
  refine ⟨hname, ?_⟩
  cases a <;> cases b <;> simp_all [Header.name, Header.valueSlice, Header.valueEq]

theorem indexStatic_unmarked (h : Named S) : indexStatic h.unmarked = indexStatic h := by
  cases h with
  | _ => rfl

theorem Same.indexStatic {a b : Named S} (h : a.Same b) :
    Hpack.indexStatic a = Hpack.indexStatic b := by
  rw [← indexStatic_unmarked a, h.unmarked, indexStatic_unmarked]

theorem Same.status {a b : Named S} (h : a.Same b) (hs : b.isStatus = true) : a = b := by
  cases b with
  | status v =>
      cases a with
      | status w => rw [asStr_inj h.2]
      | _ => cases h.1
  | _ => cases hs

theorem exists_reify (h : Named S) : ∃ header : Header S (Option (HeaderName S)),
    header.reify = .ok h := by
  cases h with
  | field n v => exact ⟨.field (some n) v, rfl⟩
  | authority v => exact ⟨.authority v, rfl⟩
  | method v => exact ⟨.method v, rfl⟩
  | scheme v => exact ⟨.scheme v, rfl⟩
  | path v => exact ⟨.path v, rfl⟩
  | protocol v => exact ⟨.protocol v, rfl⟩
  | status v => exact ⟨.status v, rfl⟩

end Header

namespace Table

variable {hash : Name S → Nat} {t t' : Table S} {h : Named S}

/-- No two entries with equal name and equal value. -/
def Distinct (t : Table S) : Prop := t.headers.Pairwise fun a b => ¬a.Same b

/-- The header may be stored: it is not of the `skip_value_index` kind, and small enough. -/
def Indexable (t : Table S) (h : Named S) : Prop :=
  h.skipValueIndex = false ∧ h.len * 4 ≤ t.maxSize * 3 % wordSize

/-- The entries, the size and the bound are the same; the cells may have been moved to a
larger array. -/
structure Unchanged (t t' : Table S) : Prop where
  slots : t'.slots = t.slots
  inserted : t'.inserted = t.inserted
  size : t'.size = t.size
  maxSize : t'.maxSize = t.maxSize

/-- If the table has an entry equal to the header, encoding the header is one reference to
that entry, and the table stays as it is. -/
def Reuses (hash : Name S → Nat) (t : Table S) (h : Named S) : Prop :=
  ∀ j e, t.headers[j]? = some e → e.Same h → t.Indexable h →
    ∃ t', Unchanged t t' ∧ ∀ (header : Header S (Option (HeaderName S))) (last : Option (Index S))
      (dst : Bytes), header.reify = .ok h →
        Encoder.encodeOne hash t last header dst =
          .ok (t', some (.indexed (j + dynOffset) h), dst ++ encodeInt (j + dynOffset) 7 0x80)

/-- The header is a status that could be stored and is. -/
def Missed (t : Table S) (h : Named S) : Prop :=
  h.isStatus = true ∧ t.Indexable h ∧ ∃ e ∈ t.headers, e.Same h

/-- What holds of the table between two headers. -/
structure Tight (hash : Name S → Nat) (t : Table S) : Prop where
  valid : t.Valid hash
  distinct : t.Distinct
  /-- a full match of the static table is not stored -/
  novel : ∀ e ∈ t.headers, (indexStatic e).any (·.2) = false

/-! ## The search for an entry -/

theorem holds_of_same {e : Named S} (he : e ∈ t.headers) (hsame : e.Same h)
    (hs : h.isStatus = false) : holds t.headers h = true := by
  unfold holds
  rw [List.any_eq_true]
  exact ⟨e, he, by simp [hsame.1, hsame.valueEq hs]⟩

/-- The search past `reserve_one` ends at the entry. -/
theorem indexSearched_found (hv : t.Valid hash) (hholds : holds t.headers h = true)
    (hload : h.isSensitive = false → t.slots.length < t.capacity) (hfits : h.len ≤ t.maxSize)
    (st : Option (Nat × Bool)) :
    ∃ j e, t.indexSearched hash h st = .ok (.indexed (j + dynOffset) h, t) ∧
      t.headers[j]? = some e ∧ e.name = h.name ∧ e.valueEq h = true := by
  have hname : h.name ∈ t.names := by
    by_contra hnot
    rw [not_holds_of_name hnot] at hholds
    cases hholds
  have hne : t.slots ≠ [] := by
    intro hnil
    unfold names at hname
    rw [hnil] at hname
    cases hname
  obtain ⟨k, -, hk, hlen, hmask⟩ := hv.linked.cells_of_slot hne
  rcases search_spec hv.linked hk hlen hmask with
    ⟨n, hsearch, hn, hnew, -⟩ | ⟨i, hsearch, hi, hold⟩
  · exact absurd hname hnew
  · rw [indexSearched_occupied hsearch]
    rcases indexOccupied_spec hv.linked hv.sized hload hfits hi hold (st.map (·.1)) with
      ⟨j, s, hres, hs, hn, hval⟩ | ⟨hnot, -⟩ | ⟨hnot, -⟩
    · exact ⟨j, s.header, hres, headers_getElem? hs, hn, hval⟩
    · rw [hholds] at hnot
      cases hnot
    · rw [hholds] at hnot
      cases hnot

/-- `index` finds an entry that `value_eq` accepts. -/
theorem index_found (hv : t.Valid hash) (hidx : t.Indexable h)
    (hstatic : (indexStatic h).any (·.2) = false) (hholds : holds t.headers h = true) :
    ∃ j e t', t.index hash h = .ok (.indexed (j + dynOffset) h, t') ∧ Unchanged t t' ∧
      t.headers[j]? = some e ∧ e.name = h.name ∧ e.valueEq h = true := by
  have hfits : h.len ≤ t.maxSize := by
    have := Nat.mod_le (t.maxSize * 3) wordSize
    have := hidx.2
    omega
  have hindex : t.index hash h = t.indexDynamic hash h (indexStatic h) := by
    have hlarge : ¬h.len * 4 > t.maxSize * 3 % wordSize := Nat.not_lt_of_le hidx.2
    simp only [index, hidx.1, Bool.false_eq_true, if_false]
    cases hs : indexStatic h with
    | none => exact if_neg hlarge
    | some p =>
        obtain ⟨n, b⟩ := p
        cases b with
        | true =>
            rw [hs] at hstatic
            cases hstatic
        | false => exact if_neg hlarge
  have hne : t.indices ≠ [] := by
    intro hnil
    have hload := hv.linked.load
    unfold capacity usableCapacity at hload
    rw [hnil] at hload
    have hslots : t.slots = [] := List.length_eq_zero_iff.mp (Nat.le_zero.mp hload)
    unfold holds headers at hholds
    rw [hslots] at hholds
    cases hholds
  rw [hindex, indexDynamic]
  by_cases hroom : h.len + t.size < t.maxSize ∨ ¬ h.isSensitive
  · obtain ⟨m, l, hres, hlinked, hl, hload⟩ := reserveOne_spec hv.linked hv.slots_lt
    rw [if_pos hroom, hres, ok_bind]
    beta_reduce
    rw [if_neg (by simpa using hl)]
    have hv' : Valid hash { t with mask := m, indices := l } :=
      ⟨hlinked, hv.sized, hv.size_le, hv.maxSize_lt⟩
    obtain ⟨j, e, hrun, he⟩ := indexSearched_found hv' hholds (fun _ => hload) hfits (indexStatic h)
    exact ⟨j, e, _, hrun, ⟨rfl, rfl, rfl, rfl⟩, he⟩
  · rw [if_neg hroom, ok_bind]
    beta_reduce
    rw [if_neg (by simpa using hne)]
    obtain ⟨j, e, hrun, he⟩ := indexSearched_found hv hholds
      (fun hsens => absurd (.inr (by simp [hsens])) hroom) hfits (indexStatic h)
    exact ⟨j, e, t, hrun, ⟨rfl, rfl, rfl, rfl⟩, he⟩

/-- An entry that is the same as another is the other. -/
theorem Distinct.unique (hd : t.Distinct) {i j : Nat} {a b : Named S} (ha : t.headers[i]? = some a)
    (hb : t.headers[j]? = some b) (hsame : a.Same b) : i = j := by
  have hpair := List.pairwise_iff_getElem.mp hd
  obtain ⟨hi, rfl⟩ := List.getElem?_eq_some_iff.mp ha
  obtain ⟨hj, rfl⟩ := List.getElem?_eq_some_iff.mp hb
  rcases Nat.lt_trichotomy i j with hlt | heq | hgt
  · exact absurd hsame (hpair i j hi hj hlt)
  · exact heq
  · exact absurd ⟨hsame.1.symm, hsame.2.symm⟩ (hpair j i hj hi hgt)

/-- A header is reused exactly when `value_eq` does not miss it. -/
theorem Tight.reuses_iff (ht : t.Tight hash) (h : Named S) : t.Reuses hash h ↔ ¬t.Missed h := by
  constructor
  · rintro hre ⟨hs, hidx, e, he, hsame⟩
    obtain ⟨j, hj⟩ := List.mem_iff_getElem?.mp he
    obtain ⟨t', -, hrun⟩ := hre j e hj hsame hidx
    obtain ⟨header, hreify⟩ := Header.exists_reify h
    obtain ⟨idx, t₁, hindex, hi⟩ := index_spec ht.valid h
    have hone := hrun header none [] hreify
    simp only [Encoder.encodeOne, hreify, hindex, ok_bind] at hone
    obtain ⟨out, -, hout⟩ := bind_eq_ok.mp hone
    cases hout
    obtain ⟨-, -, hstat | ⟨i, e', -, -, -, hval⟩⟩ := hi.describes
    · have hnovel := ht.novel e he
      rw [hsame.indexStatic, hstat] at hnovel
      cases hnovel
    · rw [Header.valueEq_status hs] at hval
      cases hval
  · intro hm j e hj hsame hidx
    have hmem : e ∈ t.headers := List.mem_of_getElem? hj
    have hs : h.isStatus = false := by
      by_contra hs
      exact hm ⟨Bool.not_eq_false _ ▸ hs, hidx, e, hmem, hsame⟩
    have hstatic : (indexStatic h).any (·.2) = false := by
      rw [← hsame.indexStatic]
      exact ht.novel e hmem
    obtain ⟨i, e', t', hrun, hun, hi, hname, hval⟩ :=
      index_found ht.valid hidx hstatic (holds_of_same hmem hsame hs)
    have hsame' := Header.same_of_valueEq hname hval
    have hij : i = j := ht.distinct.unique hi hj
      ⟨hsame'.1.trans hsame.1.symm, hsame'.2.trans hsame.2.symm⟩
    subst hij
    refine ⟨t', hun, fun header last dst hreify => ?_⟩
    simp only [Encoder.encodeOne, hreify, hrun, ok_bind, encodeHeader]
    rfl

/-- Indexing a header that is not missed. -/
theorem Tight.index (ht : t.Tight hash) (hm : ¬t.Missed h) {idx : Index S}
    (hi : t.Indexed hash h idx t') : t'.Tight hash := by
  have hheaders := hi.headers_eq
  unfold fifoIndex at hheaders
  split_ifs at hheaders with hcond
  · simp only [Bool.and_eq_true, Bool.not_eq_true', dynamic, decide_eq_true_eq] at hcond
    obtain ⟨⟨⟨⟨hskip, hstatic⟩, hsmall⟩, -⟩, hholds⟩ := hcond
    have hsub : t'.headers.Sublist (h :: t.headers) := by
      rw [hheaders]
      exact (fit_prefix_self Header.len _ _).sublist
    refine ⟨hi.valid, List.Pairwise.sublist hsub ?_, ?_⟩
    · refine List.pairwise_cons.mpr ⟨?_, ht.distinct⟩
      intro e he hsame
      have hsame' : e.Same h := ⟨hsame.1.symm, hsame.2.symm⟩
      cases hs : h.isStatus with
      | true => exact hm ⟨hs, ⟨hskip, hsmall⟩, e, he, hsame'⟩
      | false =>
          rw [holds_of_same he hsame' hs] at hholds
          cases hholds
    · intro e he
      rcases List.mem_cons.mp (hsub.subset he) with rfl | hmem
      · exact hstatic
      · exact ht.novel e hmem
  · refine ⟨hi.valid, ?_, ?_⟩
    · unfold Distinct
      rw [hheaders]
      exact ht.distinct
    · rw [hheaders]
      exact ht.novel

theorem Tight.resize (ht : t.Tight hash) {n : Nat} (hn : n < wordSize) :
    ∃ t', t.resize n = .ok t' ∧ t'.Tight hash := by
  obtain ⟨t', hrun, hv, -, hl⟩ := resize_spec ht.valid hn
  have hsub : t'.headers.Sublist t.headers := by
    rw [hl]
    exact (fit_prefix_self Header.len _ _).sublist
  exact ⟨t', hrun, hv, List.Pairwise.sublist hsub ht.distinct,
    fun e he => ht.novel e (hsub.subset he)⟩

end Table

/-! ## Runs -/

namespace Encoder

/-- The encoders of the runs of `update_max_size` and `encode` whose named headers meet a
condition when their turn comes.  The flag says that a block is being encoded. -/
inductive Reached (hash : Name S → Nat) (P : Table S → Named S → Prop) : Bool → Encoder S → Prop
    where
  | new (maxSize capacity : UInt64) :
      Reached hash P false (Encoder.new S maxSize.toNat capacity.toNat)
  | updateMaxSize {e : Encoder S} (v : UInt64) (h : Reached hash P false e) :
      Reached hash P false (e.updateMaxSize v.toNat)
  | begins {e e' : Encoder S} {dst dst' : Bytes} (h : Reached hash P false e)
      (he : e.encodeSizeUpdates dst = .ok (e', dst')) : Reached hash P true e'
  | header {e : Encoder S} {t' : Table S} {last last' : Option (Index S)}
      {header : Header S (Option (HeaderName S))} {dst dst' : Bytes} (h : Reached hash P true e)
      (hp : ∀ n, header.reify = .ok n → P e.table n)
      (he : encodeOne hash e.table last header dst = .ok (t', last', dst')) :
      Reached hash P true { e with table := t' }
  | ends {e : Encoder S} (h : Reached hash P true e) : Reached hash P false e

section

variable {hash : Name S → Nat} {P : Table S → Named S → Prop} {e e' : Encoder S} {b : Bool}

/-- Each named header of a list meets the condition when its turn comes. -/
def Turns (hash : Name S → Nat) (P : Table S → Named S → Prop) :
    List (Header S (Option (HeaderName S))) → Table S → Prop
  | [], _ => True
  | header :: headers, t => (∀ n, header.reify = .ok n → P t n) ∧
      ∀ last dst t' last' dst', encodeOne hash t last header dst = .ok (t', last', dst') →
        Turns hash P headers t'

theorem Reached.encodeLoop (headers : List (Header S (Option (HeaderName S)))) :
    ∀ {e : Encoder S} {last : Option (Index S)} {dst out : Bytes} {t' : Table S},
      Reached hash P true e → Turns hash P headers e.table →
      Encoder.encodeLoop hash headers e.table last dst = .ok (t', out) →
      Reached hash P true { e with table := t' } := by
  induction headers with
  | nil =>
      intro e last dst out t' h _ hrun
      cases hrun
      exact h
  | cons header headers ih =>
      intro e last dst out t' h hturns hrun
      unfold Encoder.encodeLoop at hrun
      obtain ⟨⟨t₁, last₁, dst₁⟩, hone, hrest⟩ := bind_eq_ok.mp hrun
      exact ih (e := { e with table := t₁ }) (h.header hturns.1 hone)
        (hturns.2 _ _ _ _ _ hone) hrest

/-- A call of `encode` is such a run. -/
theorem Reached.encode (h : Reached hash P false e)
    {headers : List (Header S (Option (HeaderName S)))} {dst out : Bytes}
    (hturns : ∀ e₁ dst₁, e.encodeSizeUpdates dst = .ok (e₁, dst₁) → Turns hash P headers e₁.table)
    (hrun : e.encode hash headers dst = .ok (e', out)) : Reached hash P false e' := by
  unfold Encoder.encode at hrun
  obtain ⟨⟨e₁, dst₁⟩, hbegin, hrun⟩ := bind_eq_ok.mp hrun
  obtain ⟨⟨t', dst₂⟩, hloop, hend⟩ := bind_eq_ok.mp hrun
  cases hend
  exact .ends ((h.begins hbegin).encodeLoop headers (hturns _ _ hbegin) hloop)

theorem tight_sizeUpdates {dst dst' : Bytes} (ht : e.table.Tight hash)
    (hsizes : ∀ v ∈ SizeUpdate.sizes e.sizeUpdate, v ≤ wordSize - 1)
    (he : e.encodeSizeUpdates dst = .ok (e', dst')) :
    e'.table.Tight hash ∧ ∀ v ∈ SizeUpdate.sizes e'.sizeUpdate, v ≤ wordSize - 1 := by
  have hlt : ∀ v ∈ SizeUpdate.sizes e.sizeUpdate, v < wordSize := by
    intro v hv
    exact Nat.lt_of_le_of_lt (hsizes v hv) (by decide)
  obtain ⟨t, sizes⟩ := e
  change t.Tight hash at ht
  unfold encodeSizeUpdates at he
  match sizes, hlt with
  | none, _ =>
      cases he
      exact ⟨ht, hsizes⟩
  | some (.one val), hlt =>
      obtain ⟨t', hrun, ht'⟩ := ht.resize (hlt val (by simp [SizeUpdate.sizes]))
      simp only [hrun, ok_bind] at he
      cases he
      exact ⟨ht', fun v hv => by cases hv⟩
  | some (.two min max), hlt =>
      obtain ⟨t₁, hrun₁, ht₁⟩ := ht.resize (hlt min (by simp [SizeUpdate.sizes]))
      obtain ⟨t', hrun, ht'⟩ := ht₁.resize (hlt max (by simp [SizeUpdate.sizes]))
      simp only [hrun₁, hrun, ok_bind] at he
      cases he
      exact ⟨ht', fun v hv => by cases hv⟩

/-- What encoding a named header does to the table. -/
theorem index_of_encodeOne {t t' : Table S} {last last' : Option (Index S)}
    {header : Header S (Option (HeaderName S))} {h : Named S} {dst dst' : Bytes}
    (ht : t.Valid hash) (hreify : header.reify = .ok h)
    (he : encodeOne hash t last header dst = .ok (t', last', dst')) :
    ∃ idx, t.Indexed hash h idx t' := by
  obtain ⟨idx, t₁, hindex, hi⟩ := Table.index_spec ht h
  simp only [encodeOne, hreify, hindex, ok_bind] at he
  obtain ⟨out, -, hout⟩ := bind_eq_ok.mp he
  cases hout
  exact ⟨idx, hi⟩

theorem tight_encodeOne {t t' : Table S} {last last' : Option (Index S)}
    {header : Header S (Option (HeaderName S))} {dst dst' : Bytes} (ht : t.Tight hash)
    (hp : ∀ n, header.reify = .ok n → ¬t.Missed n)
    (he : encodeOne hash t last header dst = .ok (t', last', dst')) : t'.Tight hash := by
  cases hreify : header.reify with
  | ok h =>
      obtain ⟨idx, hi⟩ := index_of_encodeOne ht.valid hreify he
      exact ht.index (hp h hreify) hi
  | error v =>
      simp only [encodeOne, hreify] at he
      obtain ⟨idx, -, he⟩ := bind_eq_ok.mp he
      obtain ⟨out, -, hout⟩ := bind_eq_ok.mp he
      cases hout
      exact ht

/-- No header of the run is missed, so the table stays tight. -/
theorem Reached.tight (h : Reached hash (fun t n => ¬t.Missed n) b e) :
    e.table.Tight hash ∧ ∀ v ∈ SizeUpdate.sizes e.sizeUpdate, v ≤ wordSize - 1 := by
  induction h with
  | new maxSize capacity =>
      refine ⟨⟨Table.new_valid _ _ maxSize.toNat_lt, ?_, ?_⟩, fun v hv => by cases hv⟩
      · show (Table.new S maxSize.toNat capacity.toNat).headers.Pairwise _
        rw [Table.new_headers]
        exact List.Pairwise.nil
      · show ∀ e ∈ (Table.new S maxSize.toNat capacity.toNat).headers, _
        rw [Table.new_headers]
        exact fun e he => by cases he
  | @updateMaxSize e v h ih =>
      have htable : (e.updateMaxSize v.toNat).table = e.table := by
        unfold Encoder.updateMaxSize
        split <;> split_ifs <;> rfl
      refine ⟨by rw [htable]; exact ih.1, Link.updateMaxSize_sizes ?_ ih.2⟩
      exact Nat.le_sub_one_of_lt v.toNat_lt
  | begins h he ih => exact tight_sizeUpdates ih.1 ih.2 he
  | header h hp he ih => exact ⟨tight_encodeOne ih.1 hp he, ih.2⟩
  | ends h ih => exact ih

/-- In a run that never meets a status it has stored, no header is stored twice; and at every
point of such a run, a stored header is reused unless it is a status. -/
theorem repeated_headers_reused (h : Reached hash (fun t n => ¬t.Missed n) b e) :
    e.table.Distinct ∧ ∀ n, e.table.Reuses hash n ↔ ¬e.table.Missed n :=
  ⟨h.tight.1.distinct, h.tight.1.reuses_iff⟩

end

/-- A status of the dynamic table. -/
def created : Header Link.asciiSyntax (Option (HeaderName Link.asciiSyntax)) :=
  .status ⟨201, Link.created_ge, Link.created_lt⟩

/-- The status, as it is stored. -/
def storedCreated : Named Link.asciiSyntax := .status ⟨201, Link.created_ge, Link.created_lt⟩

theorem created_short : storedCreated.Short :=
  ⟨Link.short_of_length (by decide), Link.short_of_length (by decide)⟩

theorem created_not_missed : ¬(Table.new Link.asciiSyntax 4096 0).Missed storedCreated := by
  rintro ⟨-, -, e, he, -⟩
  cases he

/-- A new encoder that has encoded the status once. -/
theorem created_once (hash : Name Link.asciiSyntax → Nat)
    {P : Table Link.asciiSyntax → Named Link.asciiSyntax → Prop}
    (hp : P (Table.new _ 4096 0) storedCreated) :
    ∃ t, Reached hash P true ⟨t, none⟩ ∧ t.Follows hash ∧ t.maxSize = 4096 ∧
      t.headers = [storedCreated] := by
  have hf := (Link.init_agrees (S := Link.asciiSyntax) hash).follows
  obtain ⟨t, last, o, hrun, hf', hmax, -⟩ := @encodeOne_written _ hash _ none none created
    storedCreated hf (by simp) (.inl rfl) created_short
  have hnew : Reached hash P false (Encoder.new Link.asciiSyntax 4096 0) := .new 4096 0
  have hbegin : (Encoder.new Link.asciiSyntax 4096 0).encodeSizeUpdates [] =
      .ok (Encoder.new Link.asciiSyntax 4096 0, []) := rfl
  obtain ⟨idx, hi⟩ := index_of_encodeOne hf.valid rfl (hrun [])
  refine ⟨t, (hnew.begins hbegin).header (fun n hn => ?_) (hrun []), hf', hmax, ?_⟩
  · cases hn
    exact hp
  · rw [hi.headers_eq]
    decide +kernel

/-- Encoded twice, the status is stored twice, whatever the hash function. -/
theorem status_stored_twice :
    ¬∃ hash : Name Link.asciiSyntax → Nat, ∀ (b : Bool) (e : Encoder Link.asciiSyntax),
      Reached hash (fun _ _ => True) b e → e.table.Distinct ∧ ∀ n, e.table.Reuses hash n := by
  rintro ⟨hash, h⟩
  obtain ⟨t, hr, hf, hmax, hl⟩ := created_once hash (P := fun _ _ => True) trivial
  obtain ⟨t', last, o, hrun, -⟩ := @encodeOne_written _ hash _ none none created
    storedCreated hf (by simp) (.inl rfl) created_short
  obtain ⟨idx, hi⟩ := index_of_encodeOne hf.valid rfl (hrun [])
  have htwice : t'.headers = [storedCreated, storedCreated] := by
    rw [hi.headers_eq, hmax, hl]
    decide +kernel
  have hdist := (h true ⟨t', none⟩ (hr.header (fun _ _ => trivial) (hrun []))).1
  unfold Table.Distinct at hdist
  rw [htwice] at hdist
  exact (List.pairwise_cons.mp hdist).1 storedCreated List.mem_cons_self ⟨rfl, rfl⟩

/-- The status that was encoded once is the one header that will not be reused. -/
theorem repeated_headers_reused_created :
    ∃ t, Reached (fun _ => 0) (fun t n => ¬t.Missed n) true ⟨t, none⟩ ∧
      t.headers = [storedCreated] ∧ t.Distinct ∧
      ∀ n, t.Reuses (fun _ => 0) n ↔ ¬t.Missed n := by
  obtain ⟨t, hr, -, -, hl⟩ := created_once (fun _ => 0) (P := fun t n => ¬t.Missed n)
    created_not_missed
  exact ⟨t, hr, hl, repeated_headers_reused hr⟩

end Encoder

end NtexH2.Hpack
