/-
  Hpack/LongBlocks.lean --- blocks with a string that no decoder reads
  (src/hpack/encoder.rs, src/hpack/table.rs).

  The encoder writes strings whose length the decoder refuses.  The tables hold short
  strings only, so such a string is written out, and its block is longer than it is.
-/
import NtexH2.Hpack.BlockLength

set_option autoImplicit false

namespace NtexH2.Hpack

open Lib.Fifo

variable {S : HttpSyntax}

/-! ## What the tables hold -/

theorem Header.len_eq (h : Named S) : h.len = 32 + h.name.asSlice.length + h.valueSlice.length := by
  cases h <;> rfl

theorem Header.short_of_len {h : Named S} (hlen : h.len ≤ 4096) : h.Short := by
  rw [len_eq] at hlen
  exact ⟨Link.short_of_length (by omega), Link.short_of_length (by omega)⟩

theorem Header.unmarked_len (h : Named S) : h.unmarked.len = h.len := by
  cases h <;> rfl

/-- The entries of the static table are a few octets long. -/
theorem getStatic_len {n : Nat} {e : Named S} (h : getStatic S n = .ok e) : e.len ≤ 4096 := by
  have hnames : ∀ s ∈ standardNames, (octets s).length ≤ 64 := by decide +kernel
  unfold getStatic at h
  split at h
  case h_16 =>
    split at h
    · next hn =>
        cases h
        have hname := hnames _ (List.getElem_mem hn.2)
        show 32 + (octets _).length + (octets "").length ≤ 4096
        rw [show (octets "").length = 0 by decide]
        omega
    · cases h
  all_goals
    cases h
    simp only [staticString, staticField, Header.len]
    decide

/-- So is what an index leads to, if the entries of the dynamic table are. -/
theorem LooksUp.len_le {l : List (Named S)} {n : Nat} {e : Named S} (h : LooksUp l n e)
    (hl : ∀ e ∈ l, e.len ≤ 4096) : e.len ≤ 4096 := by
  have hget := h.2.2 0 0
  rw [DecoderTable.get, if_neg (Nat.ne_of_gt h.1)] at hget
  split at hget
  · cases hstatic : getStatic S n with
    | error p =>
        rw [hstatic] at hget
        cases hget
    | ok e' =>
        rw [hstatic] at hget
        cases hget
        exact getStatic_len hstatic
  · dsimp only at hget
    cases hentry : l[n - 62]? with
    | none =>
        rw [hentry] at hget
        cases hget
    | some e' =>
        rw [hentry] at hget
        cases hget
        exact hl e (List.mem_of_getElem? hentry)

theorem Table.Follows.len_le {hash : Name S → Nat} {t : Table S} (h : t.Follows hash) :
    ∀ e ∈ t.headers, e.len ≤ 4096 := by
  intro e he
  have hle : e.len ≤ total Header.len t.headers :=
    List.single_le_sum (fun _ _ => Nat.zero_le _) _ (List.mem_map_of_mem he)
  exact Nat.le_trans hle (Nat.le_trans h.valid.total_le h.maxSize_le)

/-! ## One header -/

/-- Both strings can be written, if not read. -/
def Header.Writable (h : Named S) : Prop :=
  Hpack.Writable h.name.asSlice ∧ Hpack.Writable h.valueSlice

/-- The octets `o` are written for `h` on top of any buffer; they are many if no decoder can read
the strings. -/
structure Writes (write : Bytes → Except Panic Bytes) (h : Named S) (o : Bytes) : Prop where
  write : ∀ dst, write dst = .ok (dst ++ o)
  long : h.Short ∨ 2 ^ 28 ≤ o.length

section Header

variable {t : Table S} {l : List (Named S)} {h : Named S} {maxSize : Nat} {idx : Index S}

/-- A name that is found in a table is short, so a long string is the value. -/
theorem short_of_name (hl : ∀ e ∈ l, e.len ≤ 4096) {n : Nat} (hname : NameAt l h n) (o : Bytes) :
    h.Short ∨ 2 ^ 28 ≤ (o ++ strOctets h.valueSlice).length := by
  obtain ⟨e, hlook, heq⟩ := hname.looksUp
  have hshort : Short h.name.asSlice := heq ▸ (Header.short_of_len (hlook.len_le hl)).1
  by_cases hvalue : Short h.valueSlice
  · exact .inl ⟨hshort, hvalue⟩
  · have hlen := strOctets_length_ge h.valueSlice
    unfold Short at hvalue
    rw [List.length_append]
    omega

theorem short_of_strings (h : Named S) (o : Bytes) : h.Short ∨
    2 ^ 28 ≤ (o ++ strOctets h.name.asSlice ++ strOctets h.valueSlice).length := by
  have hname := strOctets_length_ge h.name.asSlice
  have hvalue := strOctets_length_ge h.valueSlice
  rw [List.length_append, List.length_append]
  unfold Header.Short Short
  omega

/-- `encode_header` writes a long string out. -/
theorem encodeHeader_writes (hl : ∀ e ∈ l, e.len ≤ 4096) (hplain : ∀ e ∈ l, e.unmarked = e)
    (hw : h.Writable) (hdesc : idx.Describes maxSize l t.headers h) :
    ∃ o, Writes (encodeHeader t idx) h o := by
  cases idx with
  | indexed n e =>
      obtain ⟨rfl, -, hentry⟩ := hdesc
      have hlen := (hentry.looksUp hplain).len_le hl
      rw [Header.unmarked_len] at hlen
      exact ⟨encodeInt n 7 0x80, fun dst => rfl, .inl (Header.short_of_len hlen)⟩
  | name n e =>
      obtain ⟨rfl, -, hname⟩ := hdesc
      refine ⟨_, fun dst => ?_,
        short_of_name hl hname (encodeInt n 4 (if e.isSensitive then 0b10000 else 0))⟩
      · show encodeNotIndexed n e.valueSlice e.isSensitive dst = _
        rw [encodeNotIndexed, encodeStr_writable hw.2, List.append_assoc]
  | notIndexed e =>
      obtain ⟨rfl, -⟩ := hdesc
      refine ⟨_, fun dst => ?_, short_of_strings e [if e.isSensitive then 0b10000 else 0]⟩
      show encodeNotIndexed2 e.name.asSlice e.valueSlice e.isSensitive dst = _
      rw [encodeNotIndexed2, encodeStr_writable hw.1, ok_bind, encodeStr_writable hw.2]
      simp only [List.append_assoc]
  | inserted i =>
      obtain ⟨rfl, hsens, hfits, hl'⟩ := hdesc
      have hres : t.resolve (.inserted 0) = .ok h := by
        refine resolve_inserted ?_ (.inl rfl)
        rw [hl', fit_cons Header.len hfits]
        rfl
      refine ⟨_, fun dst => ?_, short_of_strings h [0b01000000]⟩
      simp only [encodeHeader, hres, ok_bind, assert, hsens, Bool.not_false, if_true]
      rw [encodeStr_writable hw.1, ok_bind, encodeStr_writable hw.2]
      simp only [List.append_assoc]
  | insertedValue n i =>
      obtain ⟨rfl, hsens, hfits, hl', hname⟩ := hdesc
      have hres : t.resolve (.insertedValue n 0) = .ok h := by
        refine resolve_inserted ?_ (.inr ⟨n, rfl⟩)
        rw [hl', fit_cons Header.len hfits]
        rfl
      refine ⟨_, fun dst => ?_, short_of_name hl hname (encodeInt n 6 0b01000000)⟩
      simp only [encodeHeader, hres, ok_bind, assert, hsens, Bool.not_false, if_true]
      rw [encodeStr_writable hw.2, List.append_assoc]

end Header

/-! ## Blocks -/

variable {hash : Name S → Nat}

/-- The headers of a block are written, and a long string among them makes the block long. -/
theorem encodeLoop_writes (headers : List (Header S (Option (HeaderName S)))) :
    ∀ {out : List (Named S)} {t : Table S} {last : Option (Index S)}, t.Follows hash →
      headers.map Header.reify = out.map .ok → (∀ h ∈ out, h.Writable) →
      ∃ t' o, (∀ dst, Encoder.encodeLoop hash headers t last dst = .ok (t', dst ++ o)) ∧
        ((∀ h ∈ out, h.Short) ∨ 2 ^ 28 ≤ o.length) := by
  induction headers with
  | nil =>
      intro out t last _ hreify _
      cases out with
      | cons h out => cases hreify
      | nil =>
          refine ⟨t, [], fun dst => ?_, .inl fun h hmem => absurd hmem List.not_mem_nil⟩
          rw [List.append_nil]
          rfl
  | cons header headers ih =>
      intro out t last hf hreify hw
      cases out with
      | nil => cases hreify
      | cons h out =>
          obtain ⟨hhead, htail⟩ := List.cons.inj hreify
          obtain ⟨hwh, hwout⟩ := List.forall_mem_cons.mp hw
          obtain ⟨idx, t1, hindex, hi⟩ := Table.index_spec hf.valid h
          obtain ⟨o, hwrite, hlong⟩ := encodeHeader_writes hf.len_le hf.plain hwh hi.describes
          obtain ⟨t', o', hrest, hlong'⟩ := @ih out t1 (some idx) (hf.index hi) htail hwout
          refine ⟨t', o ++ o', fun dst => ?_, ?_⟩
          · have hone : Encoder.encodeOne hash t last header dst =
                .ok (t1, some idx, dst ++ o) := by
              simp only [Encoder.encodeOne, hhead, hindex, ok_bind, hwrite]
              rfl
            simp only [Encoder.encodeLoop, hone, ok_bind, hrest, List.append_assoc]
          · rw [List.length_append, List.forall_mem_cons]
            rcases hlong with hshort | hlong
            · rcases hlong' with hshort' | hlong'
              · exact .inl ⟨hshort, hshort'⟩
              · exact .inr (by omega)
            · exact .inr (by omega)

/-- A block of an encoder that a decoder follows. -/
theorem Link.Agrees.encode_writes {k : Link S} (h : k.Agrees hash)
    {headers : List (Header S (Option (HeaderName S)))} {out : List (Named S)}
    (hreify : headers.map Header.reify = out.map .ok) (hw : ∀ h ∈ out, h.Writable) :
    ∃ e block, k.encoder.encode hash headers [] = .ok (e, block) ∧
      ((∀ h ∈ out, h.Short) ∨ 2 ^ 28 ≤ block.length) := by
  obtain ⟨t, o, hsizes, hf, -⟩ := encodeSizeUpdates_written h.follows h.sizes
  obtain ⟨t', o', hloop, hlong⟩ := @encodeLoop_writes _ hash headers _ _ none hf hreify hw
  refine ⟨⟨t', none⟩, o ++ o', ?_, ?_⟩
  · simp only [Encoder.encode, hsizes, ok_bind, hloop, List.nil_append]
    rfl
  · rw [List.length_append]
    exact hlong.imp_right fun hle => Nat.le_trans hle (Nat.le_add_left _ _)

end NtexH2.Hpack
