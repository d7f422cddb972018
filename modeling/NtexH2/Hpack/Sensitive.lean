/-
  Hpack/Sensitive.lean --- what becomes of a header that is marked sensitive.

  It changes no slot of the table, and it is written as a literal that must not be
  indexed, unless a header with the same name and value that is not marked is in one of
  the tables; then its index is written.
-/
import NtexH2.Hpack.EncoderRuns

set_option autoImplicit false

namespace NtexH2.Hpack

variable {S : HttpSyntax}

/-! ## The table -/

namespace Table

variable {hash : Name S → Nat} {t t' : Table S} {h : Named S} {idx : Index S}

theorem indexSearched_sensitive {st : Option (Nat × Bool)} (hsens : h.isSensitive = true)
    (hi : t.indexSearched hash h st = .ok (idx, t')) : t' = t := by
  rw [indexSearched] at hi
  obtain ⟨found, -, hi⟩ := bind_eq_ok.mp hi
  cases found with
  | vacant dist probe =>
      dsimp only at hi
      rw [indexVacant, if_pos hsens] at hi
      cases hi
      rfl
  | occupied index =>
      dsimp only at hi
      rw [indexOccupied] at hi
      obtain ⟨last, -, hi⟩ := bind_eq_ok.mp hi
      cases last with
      | found real =>
          cases hi
          rfl
      | last index real =>
          dsimp only at hi
          rw [if_pos hsens] at hi
          cases hi
          rfl

/-- A sensitive header may make room for cells, but changes no slot. -/
theorem index_sensitive (hv : t.Valid hash) (hsens : h.isSensitive = true)
    (hi : t.index hash h = .ok (idx, t')) : t'.slots = t.slots := by
  have hlarge : ∀ st, t.indexUnlessLarge hash h st = .ok (idx, t') → t'.slots = t.slots := by
    intro st hi
    rw [indexUnlessLarge] at hi
    split at hi
    · cases hi
      rfl
    · have hsearch : ∀ t1 : Table S, t1.slots = t.slots →
          (if t1.indices.isEmpty = true then (pure (Index.new st h, t1) : Except Panic _)
            else t1.indexSearched hash h st) = .ok (idx, t') → t'.slots = t.slots := by
        intro t1 hslots hi
        split at hi
        · cases hi
          exact hslots
        · rw [indexSearched_sensitive hsens hi, hslots]
      rw [indexDynamic] at hi
      split at hi
      · obtain ⟨m, l, hres, -⟩ := reserveOne_spec hv.linked hv.slots_lt
        rw [hres] at hi
        exact hsearch { t with mask := m, indices := l } rfl hi
      · exact hsearch _ rfl hi
  rw [index] at hi
  split at hi
  · obtain ⟨_, -, hi⟩ := bind_eq_ok.mp hi
    cases hi
    rfl
  · split at hi
    · cases hi
      rfl
    · exact hlarge _ hi

end Table

/-! ## The octets -/

/-- A string is appended, or there is no room for its length. -/
def Appends (write : Bytes → Except Panic Bytes) (o : Bytes) : Prop :=
  ∀ dst, write dst = .ok (dst ++ o) ∨ write dst = .error .outOfBounds

/-- A literal of the value, with the never-indexed mark or without it. -/
def LiteralOf (sensitive : Bool) (value o : Bytes) : Prop :=
  ∃ b name, o = b :: (name ++ strOctets value) ∧ Representation.load b =
    .ok (if sensitive then .literalNeverIndexed else .literalWithoutIndexing)

theorem encodeNotIndexed_appends (n : Nat) (value : Bytes) (sensitive : Bool) :
    ∃ o, Appends (encodeNotIndexed n value sensitive) o ∧ LiteralOf sensitive value o := by
  obtain ⟨b, l, hfirst, hb⟩ := encodeInt_first (v := n) (show 4 ≤ 7 by omega)
    (if sensitive then 0b10000 else 0)
  refine ⟨encodeInt n 4 (if sensitive then 0b10000 else 0) ++ strOctets value, fun dst => ?_,
    _, l, ?_, load_literal hb sensitive⟩
  · rw [encodeNotIndexed, ← List.append_assoc]
    exact encodeStr_cases _ _
  · rw [hfirst, List.cons_append]

theorem encodeNotIndexed2_appends (name value : Bytes) (sensitive : Bool) :
    ∃ o, Appends (encodeNotIndexed2 name value sensitive) o ∧ LiteralOf sensitive value o := by
  refine ⟨(if sensitive then 0b10000 else 0) :: (strOctets name ++ strOctets value),
    fun dst => ?_, _, strOctets name, rfl, ?_⟩
  · rw [encodeNotIndexed2]
    rcases encodeStr_cases name (dst ++ [if sensitive then 0b10000 else 0]) with hname | hname
    · rw [hname, ok_bind]
      have hvalue := encodeStr_cases value
        (dst ++ [if sensitive then 0b10000 else 0] ++ strOctets name)
      rw [List.append_assoc, List.append_assoc, List.singleton_append] at hvalue
      rw [List.append_assoc, List.singleton_append]
      exact hvalue
    · rw [hname]
      exact .inr rfl
  · have hload := load_literal (b := 0) (by decide) sensitive
    cases sensitive with
    | true => exact hload
    | false => exact hload

/-- A header with the name and the value of `h`, not marked, in the static table or among the
stored headers `l`. -/
def Known (l : List (Named S)) (h : Named S) : Prop :=
  ∃ e, ((∃ n, getStatic S n = .ok e) ∨ e ∈ l) ∧ e.isSensitive = false ∧ e.name = h.name ∧
    e.valueSlice = h.valueSlice

theorem valueSlice_of_valueEq {a b : Named S} (h : a.valueEq b = true) :
    a.valueSlice = b.valueSlice := by
  cases a <;> cases b <;> simp_all [Header.valueEq, Header.valueSlice]

theorem known_of_entryAt {l : List (Named S)} {h : Named S} {n : Nat}
    (hplain : ∀ e ∈ l, e.isSensitive = false) (hentry : EntryAt l h n) : Known l h := by
  rcases hentry with hstatic | ⟨j, e, -, he, hname, hvalue⟩
  · obtain ⟨-, -, e, hget, hname, hfull⟩ := getStatic_indexStatic hstatic
    refine ⟨e, .inl ⟨n, hget⟩, ?_, hname, ?_⟩
    · rw [hfull rfl]
      cases h <;> rfl
    · rw [hfull rfl]
      cases h <;> rfl
  · exact ⟨e, .inr (List.mem_of_getElem? he), hplain e (List.mem_of_getElem? he), hname,
      valueSlice_of_valueEq hvalue⟩

/-- The octets of a header: those of its index, or a literal that carries its mark; what is
inserted is not marked, and its assertion holds. -/
theorem encodeHeader_appends {t : Table S} {l : List (Named S)} {h : Named S} {idx : Index S}
    {maxSize : Nat} (hd : idx.Describes maxSize l t.headers h) :
    ∃ o, Appends (encodeHeader t idx) o ∧
      (h.isSensitive = true → LiteralOf true h.valueSlice o ∨ ∃ n, EntryAt l h n) := by
  have hstr : ∀ (write : Bytes → Except Panic Bytes) (s : Bytes) (o : Bytes),
      (∀ dst, write dst = encodeStr s (dst ++ o)) → Appends write (o ++ strOctets s) := by
    intro write s o hwrite dst
    rw [hwrite, ← List.append_assoc]
    exact encodeStr_cases _ _
  have hmarked : ∀ {o : Bytes}, LiteralOf h.isSensitive h.valueSlice o →
      h.isSensitive = true → LiteralOf true h.valueSlice o ∨ ∃ n, EntryAt l h n := by
    intro o hliteral hsens
    rw [hsens] at hliteral
    exact .inl hliteral
  cases idx with
  | indexed n e =>
      obtain ⟨rfl, -, hentry⟩ := hd
      exact ⟨encodeInt n 7 0x80, fun dst => .inl rfl, fun _ => .inr ⟨n, hentry⟩⟩
  | name n e =>
      obtain ⟨rfl, -, -⟩ := hd
      obtain ⟨o, happends, hliteral⟩ := encodeNotIndexed_appends n e.valueSlice e.isSensitive
      exact ⟨o, happends, hmarked hliteral⟩
  | notIndexed e =>
      obtain ⟨rfl, -⟩ := hd
      obtain ⟨o, happends, hliteral⟩ :=
        encodeNotIndexed2_appends e.name.asSlice e.valueSlice e.isSensitive
      exact ⟨o, happends, hmarked hliteral⟩
  | inserted i =>
      obtain ⟨rfl, hsens, hfits, hl⟩ := hd
      have hres : t.resolve (.inserted 0) = .ok h := by
        refine resolve_inserted ?_ (.inl rfl)
        rw [hl, Lib.Fifo.fit_cons Header.len hfits]
        rfl
      refine ⟨0b01000000 :: (strOctets h.name.asSlice ++ strOctets h.valueSlice), fun dst => ?_,
        fun hmark => ?_⟩
      · rw [encodeHeader, hres]
        simp only [ok_bind, assert, hsens, Bool.not_false, if_true]
        rcases encodeStr_cases h.name.asSlice (dst ++ [0b01000000]) with hname | hname
        · rw [hname, ok_bind]
          have hvalue := hstr _ h.valueSlice (0b01000000 :: strOctets h.name.asSlice)
            (fun dst => rfl) dst
          rw [List.append_assoc, List.singleton_append]
          exact hvalue
        · rw [hname]
          exact .inr rfl
      · rw [hsens] at hmark
        cases hmark
  | insertedValue n i =>
      obtain ⟨rfl, hsens, hfits, hl, -⟩ := hd
      have hres : t.resolve (.insertedValue n 0) = .ok h := by
        refine resolve_inserted ?_ (.inr ⟨n, rfl⟩)
        rw [hl, Lib.Fifo.fit_cons Header.len hfits]
        rfl
      refine ⟨encodeInt n 6 0b01000000 ++ strOctets h.valueSlice, hstr _ _ _ fun dst => ?_,
        fun hmark => ?_⟩
      · rw [encodeHeader, hres]
        simp only [ok_bind, assert, hsens, Bool.not_false, if_true]
      · rw [hsens] at hmark
        cases hmark

/-- The octets of a nameless value. -/
theorem encodeHeaderWithoutName_appends (t : Table S) (last : Index S) (value : HeaderValue S) :
    ∃ o, Appends (encodeHeaderWithoutName t last value) o ∧
      LiteralOf value.sensitive value.bytes o := by
  cases last with
  | notIndexed e => exact encodeNotIndexed2_appends e.name.asSlice value.bytes value.sensitive
  | indexed n e => exact encodeNotIndexed_appends n value.bytes value.sensitive
  | name n e => exact encodeNotIndexed_appends n value.bytes value.sensitive
  | inserted i => exact encodeNotIndexed_appends (i + dynOffset) value.bytes value.sensitive
  | insertedValue n i => exact encodeNotIndexed_appends (i + dynOffset) value.bytes value.sensitive

theorem Appends.ok {write : Bytes → Except Panic Bytes} {o dst dst' : Bytes}
    (h : Appends write o) (hw : write dst = .ok dst') : dst' = dst ++ o := by
  rcases h dst with hok | herr
  · rw [hok] at hw
    cases hw
    rfl
  · rw [herr] at hw
    cases hw

theorem Appends.fault {write : Bytes → Except Panic Bytes} {o dst : Bytes} {p : Panic}
    (h : Appends write o) (hw : write dst = .error p) : p = .outOfBounds := by
  rcases h dst with hok | herr
  · rw [hok] at hw
    cases hw
  · rw [herr] at hw
    cases hw
    rfl

/-! ## Runs -/

namespace Encoding

variable {hash : Name S → Nat}

/-- The only failures of a move: a nameless header without a name before it, and a string whose
length has no room. -/
theorem Sound.fault {s : Encoding S} (h : s.Sound hash) {m : Move S} {p : Panic}
    (hm : s.move hash m = .error p) : p = .unwrapNone ∨ p = .outOfBounds := by
  cases m with
  | updateMaxSize v => cases hm
  | start =>
      obtain ⟨t, -, hwrite⟩ := encodeSizeUpdates_spec h.valid h.sizes
      rw [move, hwrite] at hm
      cases hm
  | header header =>
      rw [move, Encoder.encodeOne] at hm
      cases hreify : header.reify with
      | ok e =>
          obtain ⟨idx, t', hindex, hi⟩ := Table.index_spec h.valid e
          obtain ⟨o, happends, -⟩ := encodeHeader_appends hi.describes
          rw [hreify] at hm
          simp only [hindex, ok_bind] at hm
          cases hwrite : encodeHeader t' idx s.dst with
          | error p' =>
              rw [hwrite] at hm
              cases hm
              exact .inr (happends.fault hwrite)
          | ok dst =>
              rw [hwrite] at hm
              cases hm
      | error value =>
          rw [hreify] at hm
          cases hlast : s.last with
          | none =>
              rw [hlast] at hm
              cases hm
              exact .inl rfl
          | some last =>
              obtain ⟨o, happends, -⟩ :=
                encodeHeaderWithoutName_appends s.encoder.table last value
              rw [hlast] at hm
              simp only [unwrap, ok_bind] at hm
              cases hwrite : encodeHeaderWithoutName s.encoder.table last value s.dst with
              | error p' =>
                  rw [hwrite] at hm
                  cases hm
                  exact .inr (happends.fault hwrite)
              | ok dst =>
                  rw [hwrite] at hm
                  cases hm

theorem Sound.run_fault (moves : List (Move S)) : ∀ {s : Encoding S} {p : Panic}, s.Sound hash →
    s.run hash moves = .error p → p = .unwrapNone ∨ p = .outOfBounds := by
  induction moves with
  | nil =>
      intro s p h hrun
      cases hrun
  | cons m moves ih =>
      intro s p h hrun
      rw [run_cons] at hrun
      cases hmove : s.move hash m with
      | error p' =>
          rw [hmove] at hrun
          cases hrun
          exact h.fault hmove
      | ok s1 =>
          rw [hmove] at hrun
          exact ih (h.next hmove) hrun

/-- In every run no slot holds a header that is marked sensitive; a sensitive header, with a name
or without one, changes no slot; it is written as a never-indexed literal, unless a header of
its name and value that is not marked is in one of the tables; and no assertion fails. -/
theorem sensitive_kept_out (hash : Name S → Nat) (maxSize capacity : UInt64)
    (moves : List (Move S)) :
    (new S maxSize capacity).run hash moves ≠ .error .assertion ∧
    ∀ s, (new S maxSize capacity).run hash moves = .ok s →
      (∀ slot ∈ s.encoder.table.slots, slot.header.isSensitive = false) ∧
      (∀ header h s', header.reify = .ok h → h.isSensitive = true →
        s.move hash (.header header) = .ok s' →
        s'.encoder.table.slots = s.encoder.table.slots ∧
        ∃ o, s'.dst = s.dst ++ o ∧
          (LiteralOf true h.valueSlice o ∨ Known s.encoder.table.headers h)) ∧
      ∀ header value s', header.reify = .error value → value.sensitive = true →
        s.move hash (.header header) = .ok s' →
        s'.encoder.table.slots = s.encoder.table.slots ∧
        ∃ o, s'.dst = s.dst ++ o ∧ LiteralOf true value.bytes o := by
  have hnew : (new S maxSize capacity).Sound hash := new_sound maxSize capacity
  refine ⟨fun hrun => ?_, fun s hrun => ?_⟩
  · rcases hnew.run_fault moves hrun with hp | hp
    · cases hp
    · cases hp
  · have hs := hnew.after moves hrun
    refine ⟨fun slot hslot => ?_, fun header h s' hreify hsens hmove => ?_,
      fun header value s' hreify hsens hmove => ?_⟩
    · exact hs.plain _ (List.mem_map.mpr ⟨slot, hslot, rfl⟩)
    · obtain ⟨⟨t, last, dst⟩, hone, hs'⟩ := bind_eq_ok.mp hmove
      cases hs'
      rcases encodeOne_table hone with ⟨e, idx, he, hindex, hwrite⟩ | ⟨value, idx, he, -⟩
      · rw [hreify] at he
        cases he
        obtain ⟨idx', t', hindex', hi⟩ := Table.index_spec hs.valid h
        rw [hindex] at hindex'
        cases hindex'
        obtain ⟨o, happends, hkind⟩ := encodeHeader_appends hi.describes
        refine ⟨Table.index_sensitive hs.valid hsens hindex, o, happends.ok hwrite, ?_⟩
        rcases hkind hsens with hliteral | ⟨n, hentry⟩
        · exact .inl hliteral
        · exact .inr (known_of_entryAt hs.plain hentry)
      · rw [hreify] at he
        cases he
    · obtain ⟨⟨t, last, dst⟩, hone, hs'⟩ := bind_eq_ok.mp hmove
      cases hs'
      rcases encodeOne_table hone with ⟨e, idx, he, -⟩ | ⟨value', idx, he, -, rfl, hwrite⟩
      · rw [hreify] at he
        cases he
      · rw [hreify] at he
        cases he
        obtain ⟨o, happends, hliteral⟩ :=
          encodeHeaderWithoutName_appends s.encoder.table idx value
        rw [hsens] at hliteral
        exact ⟨rfl, o, happends.ok hwrite, hliteral⟩

/-- A field that is marked sensitive. -/
def secret : Named Link.asciiSyntax :=
  .field ⟨octets "x-trace", Link.trace_ok⟩ ⟨octets "two", true, Link.two_ok⟩

theorem sensitive_kept_out_secret :
    ∃ s', (new Link.asciiSyntax 4096 0).move (fun _ => 0)
        (.header (.field (some ⟨octets "x-trace", Link.trace_ok⟩)
          ⟨octets "two", true, Link.two_ok⟩)) = .ok s' ∧
      s'.encoder.table.slots = [] ∧
      ∃ o, s'.dst = o ∧ (LiteralOf true secret.valueSlice o ∨ Known [] secret) := by
  obtain ⟨-, hall⟩ := sensitive_kept_out (S := Link.asciiSyntax) (fun _ => 0) 4096 0 []
  obtain ⟨-, hnamed, -⟩ := hall _ rfl
  have hok : ((new Link.asciiSyntax 4096 0).move (fun _ => 0)
      (.header (.field (some ⟨octets "x-trace", Link.trace_ok⟩)
        ⟨octets "two", true, Link.two_ok⟩))).isOk = true := by decide +kernel
  cases hmove : (new Link.asciiSyntax 4096 0).move (fun _ => 0)
      (.header (.field (some ⟨octets "x-trace", Link.trace_ok⟩)
        ⟨octets "two", true, Link.two_ok⟩)) with
  | error p =>
      rw [hmove] at hok
      cases hok
  | ok s' => exact ⟨s', rfl, hnamed _ secret s' rfl rfl hmove⟩

end Encoding

end NtexH2.Hpack
