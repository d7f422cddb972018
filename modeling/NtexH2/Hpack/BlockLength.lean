/-
  Hpack/BlockLength.lean --- how long a block can get (src/hpack/encoder.rs).

  `encode_str` writes the Huffman form of a string, also where it is longer than the string.
  A block takes the Huffman forms of its strings, eleven octets at most for each header, and
  six for the sizes of the table.
-/
import NtexH2.Hpack.EncoderRuns

set_option autoImplicit false

namespace NtexH2.Hpack

variable {S : HttpSyntax}

/-! ## Integers and strings -/

/-- An integer takes one octet for every seven bits, behind the first one. -/
theorem encodeInt_length {v : Nat} (p : Nat) (first : UInt8) (n : Nat)
    (hv : v < 2 ^ (7 * (n + 1))) : (encodeInt v p first).length ≤ n + 2 := by
  unfold encodeInt
  split
  · rw [List.length_singleton]
    omega
  · have htail := encodeIntTail_length (v := v - ((1 <<< p) - 1)) n
      (Nat.lt_of_le_of_lt (Nat.sub_le _ _) hv)
    rw [List.length_cons]
    omega

theorem strOctets_length {s : Bytes} (n : Nat)
    (hs : (Huffman.encoded s).length < 2 ^ (7 * (n + 1))) :
    (strOctets s).length ≤ (Huffman.encoded s).length + (n + 2) := by
  unfold strOctets
  split
  · rw [List.length_singleton]
    omega
  · have hint := encodeInt_length 7 0x80 n hs
    rw [List.length_append]
    omega

theorem strOctets_length_ge (s : Bytes) : (Huffman.encoded s).length ≤ (strOctets s).length := by
  unfold strOctets
  cases s with
  | nil => exact Huffman.encoded_length_le []
  | cons b s =>
      rw [if_neg (by simp), List.length_append]
      exact Nat.le_add_left _ _

/-! ## One header -/

/-- The size of a header, counted with the Huffman forms of its strings. -/
def Header.huffmanLen (h : Named S) : Nat :=
  32 + (Huffman.encoded h.name.asSlice).length + (Huffman.encoded h.valueSlice).length

theorem Header.short_of_huffmanLen {h : Named S} (hlt : h.huffmanLen < 2 ^ 28) : h.Short := by
  unfold huffmanLen at hlt
  refine ⟨?_, ?_⟩
  · unfold Hpack.Short
    omega
  · unfold Hpack.Short
    omega

/-- An index into the tables takes four octets at most. -/
theorem LooksUp.encodeInt_length {l : List (Named S)} {n : Nat} {e : Named S}
    (h : LooksUp l n e) (hlen : l.length < 2 ^ 20) (p : Nat) (first : UInt8) :
    (encodeInt n p first).length ≤ 4 := by
  have hle := h.2.1
  exact Hpack.encodeInt_length p first 2 (by omega)

/-- `encode_header` writes eleven octets at most besides the strings. -/
theorem encodeHeader_length {t : Table S} {l : List (Named S)} {h : Named S} {maxSize : Nat}
    {idx : Index S} {dst dst' : Bytes} (hlen : l.length < 2 ^ 20)
    (hplain : ∀ e ∈ l, e.unmarked = e) (hs : h.Short)
    (hdesc : idx.Describes maxSize l t.headers h) (hw : encodeHeader t idx dst = .ok dst') :
    dst'.length + 21 ≤ dst.length + h.huffmanLen := by
  have hname := strOctets_length 3 hs.1
  have hvalue := strOctets_length 3 hs.2
  unfold Header.huffmanLen
  cases idx with
  | indexed n e =>
      obtain ⟨rfl, hl, hentry⟩ := hdesc
      have hint := (hentry.looksUp hplain).encodeInt_length hlen 7 0x80
      cases hw
      rw [List.length_append]
      omega
  | name n e =>
      obtain ⟨rfl, hl, hat⟩ := hdesc
      obtain ⟨e', hlook, -⟩ := hat.looksUp
      have hint := hlook.encodeInt_length hlen 4 (if e.isSensitive then 0b10000 else 0)
      change encodeNotIndexed n e.valueSlice e.isSensitive dst = .ok dst' at hw
      rw [encodeNotIndexed, encodeStr_spec hs.2] at hw
      cases hw
      rw [List.length_append, List.length_append]
      omega
  | notIndexed e =>
      obtain ⟨rfl, hl⟩ := hdesc
      change encodeNotIndexed2 e.name.asSlice e.valueSlice e.isSensitive dst = .ok dst' at hw
      rw [encodeNotIndexed2, encodeStr_spec hs.1, ok_bind, encodeStr_spec hs.2] at hw
      cases hw
      rw [List.length_append, List.length_append, List.length_append, List.length_singleton]
      omega
  | inserted i =>
      obtain ⟨rfl, hsens, hfits, hl⟩ := hdesc
      have hres : t.resolve (.inserted 0) = .ok h := by
        refine resolve_inserted ?_ (.inl rfl)
        rw [hl, Lib.Fifo.fit_cons Header.len hfits]
        rfl
      simp only [encodeHeader, hres, ok_bind, assert, hsens, Bool.not_false, if_true] at hw
      rw [encodeStr_spec hs.1, ok_bind, encodeStr_spec hs.2] at hw
      cases hw
      rw [List.length_append, List.length_append, List.length_append, List.length_singleton]
      omega
  | insertedValue n i =>
      obtain ⟨rfl, hsens, hfits, hl, hat⟩ := hdesc
      obtain ⟨e', hlook, -⟩ := hat.looksUp
      have hint := hlook.encodeInt_length hlen 6 0b01000000
      have hres : t.resolve (.insertedValue n 0) = .ok h := by
        refine resolve_inserted ?_ (.inr ⟨n, rfl⟩)
        rw [hl, Lib.Fifo.fit_cons Header.len hfits]
        rfl
      simp only [encodeHeader, hres, ok_bind, assert, hsens, Bool.not_false, if_true] at hw
      rw [encodeStr_spec hs.2] at hw
      cases hw
      rw [List.length_append, List.length_append]
      omega

/-! ## Blocks -/

/-- The size of a list, counted with the Huffman forms of its strings. -/
def huffmanListSize (l : List (Named S)) : Nat := (l.map Header.huffmanLen).sum

theorem huffmanListSize_cons (h : Named S) (l : List (Named S)) :
    huffmanListSize (h :: l) = h.huffmanLen + huffmanListSize l := by
  unfold huffmanListSize
  rw [List.map_cons, List.sum_cons]

theorem short_of_huffmanListSize {l : List (Named S)} (hlt : huffmanListSize l < 2 ^ 28) :
    ∀ h ∈ l, h.Short := fun _ hmem =>
  Header.short_of_huffmanLen
    (Nat.lt_of_le_of_lt (List.single_le_sum (fun _ _ => Nat.zero_le _) _ (List.mem_map_of_mem hmem))
      hlt)

variable {hash : Name S → Nat}

/-- Headers that have names. -/
theorem encodeLoop_length (headers : List (Header S (Option (HeaderName S)))) :
    ∀ {out : List (Named S)} {t t' : Table S} {last : Option (Index S)} {dst dst' : Bytes},
      t.Follows hash → headers.map Header.reify = out.map .ok → (∀ h ∈ out, h.Short) →
      Encoder.encodeLoop hash headers t last dst = .ok (t', dst') →
      dst'.length + 21 * out.length ≤ dst.length + huffmanListSize out := by
  induction headers with
  | nil =>
      intro out t t' last dst dst' hf hreify hshort hw
      cases out with
      | cons h out => cases hreify
      | nil =>
          cases hw
          exact Nat.le_refl _
  | cons header headers ih =>
      intro out t t' last dst dst' hf hreify hshort hw
      cases out with
      | nil => cases hreify
      | cons h out =>
          obtain ⟨hhead, htail⟩ := List.cons.inj hreify
          obtain ⟨⟨t1, last1, dst1⟩, hone, hrest⟩ := bind_eq_ok.mp hw
          obtain ⟨idx, t2, hindex, hi⟩ := Table.index_spec hf.valid h
          have hlater := fun h hmem => hshort h (List.mem_cons_of_mem _ hmem)
          rcases Encoding.encodeOne_table hone with
            ⟨e, idx', hok, hindex', hwrite⟩ | ⟨v, idx', herr, -⟩
          · rw [hhead] at hok
            cases hok
            rw [hindex] at hindex'
            cases hindex'
            have hfirst := encodeHeader_length hf.length_lt hf.plain (hshort h List.mem_cons_self)
              hi.describes hwrite
            have hnext := ih (hf.index hi) htail hlater hrest
            rw [huffmanListSize_cons, List.length_cons]
            omega
          · rw [hhead] at herr
            cases herr

/-- The octets of the sizes that are announced. -/
theorem sizes_length (u : Option SizeUpdate) (h : ∀ v ∈ SizeUpdate.sizes u, v ≤ 4096) :
    ((SizeUpdate.sizes u).flatMap (encodeInt · 5 0b00100000)).length ≤ 6 := by
  have hone : ∀ v, v ≤ 4096 → (encodeInt v 5 0b00100000).length ≤ 3 := fun v hv =>
    encodeInt_length 5 0b00100000 1 (by omega)
  match u, h with
  | none, _ => exact Nat.zero_le _
  | some (.one val), h =>
      have hval := hone val (h val List.mem_cons_self)
      rw [SizeUpdate.sizes, List.flatMap_singleton]
      omega
  | some (.two min max), h =>
      have hmin := hone min (h min List.mem_cons_self)
      have hmax := hone max (h max (List.mem_cons_of_mem _ List.mem_cons_self))
      rw [SizeUpdate.sizes, List.flatMap_cons, List.flatMap_singleton, List.length_append]
      omega

/-- A block of an encoder that a decoder follows. -/
theorem Link.Agrees.encode_length {k : Link S} (h : k.Agrees hash)
    {headers : List (Header S (Option (HeaderName S)))} {out : List (Named S)} {e : Encoder S}
    {block : Bytes} (hreify : headers.map Header.reify = out.map .ok)
    (hshort : ∀ h ∈ out, h.Short) (henc : k.encoder.encode hash headers [] = .ok (e, block)) :
    block.length + 21 * out.length ≤ 6 + huffmanListSize out := by
  have hsizes := sizes_length k.encoder.sizeUpdate h.sizes
  obtain ⟨t1, o, hwrite, hf, -⟩ := encodeSizeUpdates_written h.follows h.sizes
  obtain ⟨t2, -, hspec⟩ := Encoding.encodeSizeUpdates_spec h.follows.valid fun v hv =>
    Nat.lt_of_le_of_lt (h.sizes v hv) (by decide)
  have ho : o = (SizeUpdate.sizes k.encoder.sizeUpdate).flatMap (encodeInt · 5 0b00100000) :=
    (congrArg Prod.snd (Except.ok.inj ((hwrite []).symm.trans (hspec [])))).trans rfl
  obtain ⟨⟨e1, dst1⟩, hstart, hrest⟩ := bind_eq_ok.mp henc
  rw [hwrite] at hstart
  cases hstart
  obtain ⟨⟨t', dst'⟩, hloop, hend⟩ := bind_eq_ok.mp hrest
  cases hend
  have hlen := encodeLoop_length headers hf hreify hshort hloop
  rw [List.nil_append, ho] at hlen
  omega

end NtexH2.Hpack
