/-
  Hpack/Agreement.lean --- encoder and decoder agree over whole runs.

  The encoder keeps its headers in a hash table with chains, the decoder in a
  plain deque.  Seen as queues they stay equal: every block is read without an
  error, gives back the headers that were encoded, and leaves both tables with
  the same headers, the same size and the same bound.
-/
import NtexH2.Hpack.Representations

set_option autoImplicit false

namespace NtexH2.Hpack

open Lib.Fifo

variable {S : HttpSyntax}

/-! ## One header -/

theorem Header.unmarked_of_not_sensitive {h : Named S} (hs : h.isSensitive = false) :
    h.unmarked = h := by
  cases h with
  | field name value =>
      obtain ⟨bytes, sensitive, hok⟩ := value
      cases hs
      rfl
  | _ => rfl

/-- Both strings of the header can be written. -/
def Header.Short (h : Named S) : Prop := Hpack.Short h.name.asSlice ∧ Hpack.Short h.valueSlice

/-- The octets `o` are written for `h` on top of any buffer, and are read back. -/
structure Written (write : Bytes → Except Panic Bytes) (h : Named S) (l l' : List (Named S))
    (maxSize : Nat) (o : Bytes) : Prop where
  write : ∀ dst, write dst = .ok (dst ++ o)
  read : ∀ (d : Decoder S) (canResize : Bool),
    Round d canResize l maxSize o [h.unmarked] false l' maxSize

section Header

variable {t : Table S} {l : List (Named S)} {h : Named S} {maxSize : Nat}

/-- `encode_not_indexed` with an index that leads to the name. -/
theorem written_notIndexed {n : Nat} {e : Named S} (hl : LooksUp l n e) (hname : e.name = h.name)
    (hlen : l.length < 2 ^ 20) (hv : Short h.valueSlice) :
    ∃ o, Written (encodeNotIndexed n h.valueSlice h.isSensitive) h l l maxSize o := by
  refine ⟨encodeInt n 4 (if h.isSensitive then 0b10000 else 0) ++ strOctets h.valueSlice, ?_, ?_⟩
  · intro dst
    rw [encodeNotIndexed, encodeStr_spec hv, List.append_assoc]
  · intro d canResize
    have hlit : ReadsLiteral d l maxSize false
        (encodeInt n 4 (if h.isSensitive then 0b10000 else 0) ++ strOctets h.valueSlice) h :=
      readsLiteral_indexed hl hname hlen hv (by split <;> decide)
    obtain ⟨b, o, hfirst, hb⟩ := encodeInt_first (v := n) (show 4 ≤ 7 by omega)
      (if h.isSensitive then 0b10000 else 0)
    rw [hfirst, List.cons_append] at hlit ⊢
    exact round_literal canResize h.isSensitive hb hlit

/-- `encode_not_indexed2`. -/
theorem written_notIndexed2 (hs : h.Short) :
    ∃ o, Written (encodeNotIndexed2 h.name.asSlice h.valueSlice h.isSensitive) h l l maxSize o := by
  refine ⟨(if h.isSensitive then 0b10000 else 0) ::
    (strOctets h.name.asSlice ++ strOctets h.valueSlice), ?_, ?_⟩
  · intro dst
    rw [encodeNotIndexed2, encodeStr_spec hs.1, ok_bind, encodeStr_spec hs.2]
    simp
  · intro d canResize
    have hlit : ReadsLiteral d l maxSize false ((if h.isSensitive then 0b10000 else 0) ::
        (strOctets h.name.asSlice ++ strOctets h.valueSlice)) h :=
      readsLiteral_named hs.1 hs.2 (by split <;> decide)
    have hor : (if h.isSensitive then 0b10000 else 0 : UInt8) =
        (if h.isSensitive then 0b10000 else 0) ||| 0 := by
      cases h.isSensitive <;> rfl
    rw [hor] at hlit ⊢
    exact round_literal canResize h.isSensitive (by decide) hlit

/-- The slot an insertion has just filled. -/
theorem resolve_inserted {i : Nat} {idx : Index S} (hslot : t.headers[i]? = some h)
    (hidx : idx = .inserted i ∨ ∃ n, idx = .insertedValue n i) : t.resolve idx = .ok h := by
  simp only [Table.headers, List.getElem?_map, Option.map_eq_some_iff] at hslot
  obtain ⟨s, hs, rfl⟩ := hslot
  rcases hidx with rfl | ⟨n, rfl⟩
  all_goals
    simp only [Table.resolve, at'_getElem? hs]
    rfl

/-- Whatever `index` decided, `encode_header` writes the header so that the decoder
reads it, and both tables change in the same way. -/
theorem encodeHeader_written {l : List (Named S)} {idx : Index S} (hlen : l.length < 2 ^ 20)
    (hplain : ∀ e ∈ l, e.unmarked = e) (hs : h.Short)
    (hdesc : idx.Describes maxSize l t.headers h) :
    ∃ o, Written (encodeHeader t idx) h l t.headers maxSize o := by
  cases idx with
  | indexed n e =>
      obtain ⟨rfl, hl, hentry⟩ := hdesc
      rw [hl]
      exact ⟨encodeInt n 7 0x80, fun dst => rfl, fun d canResize =>
        round_indexed canResize (hentry.looksUp hplain) hlen⟩
  | name n e =>
      obtain ⟨rfl, hl, hname⟩ := hdesc
      obtain ⟨e', hlook, hname'⟩ := hname.looksUp
      rw [hl]
      exact written_notIndexed hlook hname' hlen hs.2
  | notIndexed e =>
      obtain ⟨rfl, hl⟩ := hdesc
      rw [hl]
      exact written_notIndexed2 hs
  | inserted i =>
      obtain ⟨rfl, hsens, hfits, hl⟩ := hdesc
      have hplainh := Header.unmarked_of_not_sensitive hsens
      have hres : t.resolve (.inserted 0) = .ok h := by
        refine resolve_inserted ?_ (.inl rfl)
        rw [hl, fit_cons Header.len hfits]
        rfl
      refine ⟨0b01000000 :: (strOctets h.name.asSlice ++ strOctets h.valueSlice), ?_, ?_⟩
      · intro dst
        simp only [encodeHeader, hres, ok_bind, assert, hsens, Bool.not_false, if_true]
        rw [encodeStr_spec hs.1, ok_bind, encodeStr_spec hs.2]
        simp
      · intro d canResize
        have hlit : ReadsLiteral d l maxSize true ((0b01000000 ||| 0) ::
            (strOctets h.name.asSlice ++ strOctets h.valueSlice)) h :=
          readsLiteral_named hs.1 hs.2 (by decide)
        have hround := round_incremental canResize (by decide) (by rwa [hplainh]) hlit
        rw [hplainh, ← hl] at hround
        rw [hplainh]
        exact hround
  | insertedValue n i =>
      obtain ⟨rfl, hsens, hfits, hl, hname⟩ := hdesc
      obtain ⟨e', hlook, hname'⟩ := hname.looksUp
      have hplainh := Header.unmarked_of_not_sensitive hsens
      have hres : t.resolve (.insertedValue n 0) = .ok h := by
        refine resolve_inserted ?_ (.inr ⟨n, rfl⟩)
        rw [hl, fit_cons Header.len hfits]
        rfl
      refine ⟨encodeInt n 6 0b01000000 ++ strOctets h.valueSlice, ?_, ?_⟩
      · intro dst
        simp only [encodeHeader, hres, ok_bind, assert, hsens, Bool.not_false, if_true]
        rw [encodeStr_spec hs.2, List.append_assoc]
      · intro d canResize
        have hlit : ReadsLiteral d l maxSize true
            (encodeInt n 6 0b01000000 ++ strOctets h.valueSlice) h :=
          readsLiteral_indexed hlook hname' hlen hs.2 (by decide)
        obtain ⟨b, o, hfirst, hb⟩ := encodeInt_first (v := n) (show 6 ≤ 7 by omega) 0b01000000
        rw [hfirst, List.cons_append] at hlit ⊢
        have hround := round_incremental canResize hb (by rwa [hplainh]) hlit
        rw [hplainh, ← hl] at hround
        rw [hplainh]
        exact hround

end Header

/-! ## A nameless field -/

/-- The name of a field. -/
def Header.fieldName : Named S → Option (HeaderName S)
  | .field n _ => some n
  | _ => none

/-- The header list an encoder is given, every nameless field under the name of the
last named header; `none` if that is not a field of the list. -/
def resolveNames : Option (HeaderName S) → List (Header S (Option (HeaderName S))) →
    Option (List (Named S))
  | _, [] => some []
  | last, header :: headers =>
      match header.reify with
      | .ok h => (resolveNames h.fieldName headers).map (h :: ·)
      | .error value =>
          match last with
          | some n => (resolveNames (some n) headers).map (.field n value :: ·)
          | none => none

/-- Under `last_index` the name `n` is found, next to the stored headers `l`. -/
def Index.Refers (l : List (Named S)) (n : HeaderName S) (idx : Index S) : Prop :=
  (∃ h, idx = .notIndexed h ∧ h.name = .field n) ∨
    ∃ k e, (∀ h, idx ≠ .notIndexed h) ∧ Table.resolveIdx idx = .ok k ∧ LooksUp l k e ∧
      e.name = .field n

/-- The index of a field refers to the name of the field. -/
theorem Index.Describes.refers {maxSize : Nat} {l l' : List (Named S)} {h : Named S}
    {idx : Index S} {n : HeaderName S} (hd : idx.Describes maxSize l l' h)
    (hname : h.name = .field n) : idx.Refers l' n := by
  cases idx with
  | indexed k e =>
      obtain ⟨rfl, rfl, hentry⟩ := hd
      have hat : NameAt l' e k := by
        rcases hentry with hs | ⟨j, e', hk, he, hn, _⟩
        · exact .inl ⟨true, hs⟩
        · exact .inr ⟨j, e', hk, he, hn⟩
      obtain ⟨e', hlook, hn⟩ := hat.looksUp
      exact .inr ⟨k, e', by simp, rfl, hlook, hn.trans hname⟩
  | name k e =>
      obtain ⟨rfl, rfl, hat⟩ := hd
      obtain ⟨e', hlook, hn⟩ := hat.looksUp
      exact .inr ⟨k, e', by simp, rfl, hlook, hn.trans hname⟩
  | notIndexed e =>
      obtain ⟨rfl, rfl⟩ := hd
      exact .inl ⟨e, rfl, hname⟩
  | inserted i =>
      obtain ⟨rfl, _, hfits, rfl⟩ := hd
      refine .inr ⟨0 + dynOffset, h, by simp, rfl, looksUp_dynamic ?_, hname⟩
      rw [fit_cons Header.len hfits]
      rfl
  | insertedValue k i =>
      obtain ⟨rfl, _, hfits, rfl, _⟩ := hd
      refine .inr ⟨0 + dynOffset, h, by simp, rfl, looksUp_dynamic ?_, hname⟩
      rw [fit_cons Header.len hfits]
      rfl

/-- `encode_header_without_name` writes the value under the name `last_index` refers to. -/
theorem encodeHeaderWithoutName_written {t : Table S} {idx : Index S} {n : HeaderName S}
    {value : HeaderValue S} {maxSize : Nat} (hlen : t.headers.length < 2 ^ 20)
    (href : idx.Refers t.headers n) (hs : (Header.field n value : Named S).Short) :
    ∃ o, Written (encodeHeaderWithoutName t idx value) (.field n value) t.headers t.headers
      maxSize o := by
  rcases href with ⟨h, rfl, hname⟩ | ⟨k, e, hne, hidx, hlook, hname⟩
  · obtain ⟨o, hwrite, hread⟩ := @written_notIndexed2 _ t.headers _ maxSize hs
    refine ⟨o, fun dst => ?_, hread⟩
    simp only [encodeHeaderWithoutName, Table.resolve, ok_bind, hname]
    exact hwrite dst
  · obtain ⟨o, hwrite, hread⟩ :=
      @written_notIndexed _ t.headers (.field n value) maxSize _ _ hlook hname hlen hs.2
    refine ⟨o, fun dst => ?_, hread⟩
    rw [← hwrite dst]
    cases idx with
    | notIndexed h => exact absurd rfl (hne h)
    | _ =>
        simp only [encodeHeaderWithoutName, hidx, ok_bind]
        rfl

/-! ## One block -/

section Block

variable {hash : Name S → Nat}

/-- What holds of the encoder's table while the decoder follows it. -/
structure Table.Follows (hash : Name S → Nat) (t : Table S) : Prop where
  valid : t.Valid hash
  plain : ∀ h ∈ t.headers, h.unmarked = h
  maxSize_le : t.maxSize ≤ 4096

theorem Table.Follows.length_lt {t : Table S} (h : t.Follows hash) :
    t.headers.length < 2 ^ 20 := by
  have hlen := length_le_total t.headers
  have hsized := h.valid.sized
  have hle := h.valid.size_le
  have hmax := h.maxSize_le
  unfold Table.Sized at hsized
  omega

/-- Indexing a header keeps what the decoder relies on. -/
theorem Table.Follows.index {t t' : Table S} {h : Named S} {idx : Index S} (hf : t.Follows hash)
    (hi : Table.Indexed hash t h idx t') : t'.Follows hash := by
  refine ⟨hi.valid, ?_, hi.maxSize_eq ▸ hf.maxSize_le⟩
  intro e he
  rw [hi.headers_eq, fifoIndex] at he
  split_ifs at he with hcond
  · rcases List.mem_cons.mp ((fit_prefix_self Header.len _ _).subset he) with rfl | hmem
    · simp only [Bool.and_eq_true, Bool.not_eq_true'] at hcond
      exact Header.unmarked_of_not_sensitive hcond.1.2
    · exact hf.plain e hmem
  · exact hf.plain e he

theorem Table.Follows.resize {t : Table S} {n : Nat} (hf : t.Follows hash) (hn : n ≤ 4096) :
    ∃ t', t.resize n = .ok t' ∧ t'.Follows hash ∧ t'.maxSize = n ∧
      t'.headers = fit Header.len n t.headers := by
  obtain ⟨t', hrun, hv, hmax, hl⟩ := Table.resize_spec hf.valid
    (show n < wordSize by unfold wordSize; omega)
  refine ⟨t', hrun, ⟨hv, ?_, by omega⟩, hmax, hl⟩
  intro e he
  rw [hl] at he
  exact hf.plain e ((fit_prefix_self Header.len _ _).subset he)

/-- One header of a block is written and read back. -/
theorem encodeOne_written {t : Table S} {last : Option (Index S)} {name : Option (HeaderName S)}
    {header : Header S (Option (HeaderName S))} {h : Named S} (hf : t.Follows hash)
    (hlast : ∀ n ∈ name, ∃ idx, last = some idx ∧ idx.Refers t.headers n)
    (hheader : header.reify = .ok h ∨
      ∃ n ∈ name, ∃ v, header.reify = .error v ∧ h = .field n v)
    (hs : h.Short) :
    ∃ t' last' o, (∀ dst, Encoder.encodeOne hash t last header dst = .ok (t', last', dst ++ o)) ∧
      t'.Follows hash ∧ t'.maxSize = t.maxSize ∧
      (∀ n ∈ h.fieldName, ∃ idx, last' = some idx ∧ idx.Refers t'.headers n) ∧
      ∀ (d : Decoder S) (canResize : Bool),
        Round d canResize t.headers t.maxSize o [h.unmarked] false t'.headers t.maxSize := by
  rcases hheader with hreify | ⟨n, hn, v, hreify, rfl⟩
  · obtain ⟨idx, t', hindex, hi⟩ := Table.index_spec hf.valid h
    obtain ⟨o, hwrite, hread⟩ := encodeHeader_written hf.length_lt hf.plain hs hi.describes
    refine ⟨t', some idx, o, fun dst => ?_, hf.index hi, hi.maxSize_eq, ?_, hread⟩
    · simp only [Encoder.encodeOne, hreify, hindex, ok_bind, hwrite]
      rfl
    · intro n hn
      refine ⟨idx, rfl, hi.describes.refers ?_⟩
      cases h with
      | field m v => cases hn; rfl
      | _ => cases hn
  · obtain ⟨idx, rfl, href⟩ := hlast n hn
    obtain ⟨o, hwrite, hread⟩ :=
      @encodeHeaderWithoutName_written _ t _ _ _ t.maxSize hf.length_lt href hs
    refine ⟨t, some idx, o, fun dst => ?_, hf, rfl, ?_, hread⟩
    · simp only [Encoder.encodeOne, hreify, unwrap, ok_bind, hwrite]
      rfl
    · intro m hm
      cases hm
      exact ⟨idx, rfl, href⟩

/-- The headers of a block are written and read back, one round for each. -/
theorem encodeLoop_written (headers : List (Header S (Option (HeaderName S)))) :
    ∀ (t : Table S) (last : Option (Index S)) (name : Option (HeaderName S))
      (out : List (Named S)), t.Follows hash →
      (∀ n ∈ name, ∃ idx, last = some idx ∧ idx.Refers t.headers n) →
      resolveNames name headers = some out → (∀ h ∈ out, h.Short) →
      ∃ t' o, (∀ dst, Encoder.encodeLoop hash headers t last dst = .ok (t', dst ++ o)) ∧
        t'.Follows hash ∧ t'.maxSize = t.maxSize ∧
        ∀ (d : Decoder S) (canResize : Bool) (fuel : Nat) (calls : List (Named S)),
          o.length < fuel →
          (Decode.decodeLoop fuel canResize : Decode S Unit)
              (reading d t.headers t.maxSize ⟨o, 0⟩ calls) =
            .ok () (reading d t'.headers t.maxSize ⟨[], 0⟩ (calls ++ out.map Header.unmarked)) := by
  induction headers with
  | nil =>
      intro t last name out hf _ hres _
      cases hres
      refine ⟨t, [], fun dst => by simp [Encoder.encodeLoop], hf, rfl, ?_⟩
      intro d canResize fuel calls hfuel
      obtain ⟨fuel, rfl⟩ : ∃ n, fuel = n + 1 := ⟨fuel - 1, by simp at hfuel; omega⟩
      rw [Decode.decodeLoop, get_bind, List.map_nil, List.append_nil]
      rfl
  | cons header headers ih =>
      intro t last name out hf hlast hres hshort
      obtain ⟨h, out', rfl, hheader, hres'⟩ : ∃ h out', out = h :: out' ∧
          (header.reify = .ok h ∨ ∃ n ∈ name, ∃ v, header.reify = .error v ∧ h = .field n v) ∧
          resolveNames h.fieldName headers = some out' := by
        rw [resolveNames] at hres
        cases hreify : header.reify with
        | ok h =>
            simp only [hreify, Option.map_eq_some_iff] at hres
            obtain ⟨out', hres', rfl⟩ := hres
            exact ⟨h, out', rfl, .inl rfl, hres'⟩
        | error v =>
            cases name with
            | none => simp only [hreify, reduceCtorEq] at hres
            | some n =>
                simp only [hreify, Option.map_eq_some_iff] at hres
                obtain ⟨out', hres', rfl⟩ := hres
                exact ⟨.field n v, out', rfl, .inr ⟨n, rfl, v, rfl, rfl⟩, hres'⟩
      obtain ⟨t₁, last₁, o₁, hwrite₁, hf₁, hmax₁, hlast₁, hread₁⟩ :=
        encodeOne_written hf hlast hheader (hshort h (by simp))
      obtain ⟨t', o', hwrite', hf', hmax', hread'⟩ := ih t₁ last₁ h.fieldName out' hf₁ hlast₁ hres'
        (fun e he => hshort e (List.mem_cons_of_mem _ he))
      refine ⟨t', o₁ ++ o', fun dst => ?_, hf', hmax'.trans hmax₁, ?_⟩
      · simp only [Encoder.encodeLoop, hwrite₁, ok_bind, hwrite', List.append_assoc]
      · intro d canResize fuel calls hfuel
        have hpos := List.length_pos_iff.mpr (hread₁ d canResize).ne_nil
        rw [List.length_append] at hfuel
        obtain ⟨fuel, rfl⟩ : ∃ n, fuel = n + 1 := ⟨fuel - 1, by omega⟩
        rw [(hread₁ d canResize).decodeLoop, ← hmax₁, hread' d false fuel _ (by omega)]
        simp

end Block

/-! ## Runs -/

/-- The sizes that are announced with the next block. -/
def SizeUpdate.sizes : Option SizeUpdate → List Nat
  | none => []
  | some (.one val) => [val]
  | some (.two min max) => [min, max]

/-- One announced size is one round. -/
theorem Table.Follows.resize_round {hash : Name S → Nat} {t : Table S} {v : Nat}
    (hf : t.Follows hash) (hv : v ≤ 4096) :
    ∃ t', t.resize v = .ok t' ∧ t'.Follows hash ∧ ∀ (d : Decoder S), d.lastMaxUpdate = 4096 →
      Round d true t.headers t.maxSize (encodeInt v 5 0b00100000) [] true t'.headers
        t'.maxSize := by
  obtain ⟨t', hrun, hf', rfl, hl⟩ := hf.resize hv
  refine ⟨t', hrun, hf', fun d hd => ?_⟩
  rw [hl]
  exact round_sizeUpdate (by omega) (by omega)

/-- `encode_size_updates` writes the announced sizes, and the decoder follows. -/
theorem encodeSizeUpdates_written {hash : Name S → Nat} {e : Encoder S}
    (hf : e.table.Follows hash) (hsizes : ∀ v ∈ SizeUpdate.sizes e.sizeUpdate, v ≤ 4096) :
    ∃ t' o, (∀ dst, e.encodeSizeUpdates dst = .ok (⟨t', none⟩, dst ++ o)) ∧ t'.Follows hash ∧
      ∀ (d : Decoder S), d.lastMaxUpdate = 4096 → ∀ (fuel : Nat) (rest : Bytes)
        (calls : List (Named S)), (o ++ rest).length < fuel →
        ∃ fuel', rest.length < fuel' ∧ (Decode.decodeLoop fuel true : Decode S Unit)
              (reading d e.table.headers e.table.maxSize ⟨o ++ rest, 0⟩ calls) =
            Decode.decodeLoop fuel' true (reading d t'.headers t'.maxSize ⟨rest, 0⟩ calls) := by
  obtain ⟨t, sizes⟩ := e
  change t.Follows hash at hf
  match sizes, hsizes with
  | none, _ =>
      refine ⟨t, [], fun dst => by simp [Encoder.encodeSizeUpdates], hf, ?_⟩
      intro d _ fuel rest calls hfuel
      exact ⟨fuel, by simpa using hfuel, rfl⟩
  | some (.one val), hsizes =>
      obtain ⟨t', hrun, hf', hround⟩ := hf.resize_round (hsizes val (by simp [SizeUpdate.sizes]))
      refine ⟨t', encodeInt val 5 0b00100000, fun dst => ?_, hf', ?_⟩
      · simp only [Encoder.encodeSizeUpdates, hrun, ok_bind, encodeSizeUpdate]
        rfl
      · intro d hd fuel rest calls hfuel
        have hpos := List.length_pos_iff.mpr (hround d hd).ne_nil
        rw [List.length_append] at hfuel
        obtain ⟨fuel, rfl⟩ : ∃ n, fuel = n + 1 := ⟨fuel - 1, by omega⟩
        refine ⟨fuel, by omega, ?_⟩
        rw [(hround d hd).decodeLoop, List.append_nil]
  | some (.two min max), hsizes =>
      obtain ⟨t₁, hrun₁, hf₁, hround₁⟩ := hf.resize_round (hsizes min (by simp [SizeUpdate.sizes]))
      obtain ⟨t', hrun, hf', hround⟩ := hf₁.resize_round (hsizes max (by simp [SizeUpdate.sizes]))
      refine ⟨t', encodeInt min 5 0b00100000 ++ encodeInt max 5 0b00100000, fun dst => ?_, hf', ?_⟩
      · simp only [Encoder.encodeSizeUpdates, hrun₁, hrun, ok_bind, encodeSizeUpdate,
          List.append_assoc]
        rfl
      · intro d hd fuel rest calls hfuel
        have hpos₁ := List.length_pos_iff.mpr (hround₁ d hd).ne_nil
        have hpos := List.length_pos_iff.mpr (hround d hd).ne_nil
        rw [List.length_append, List.length_append] at hfuel
        obtain ⟨fuel, rfl⟩ : ∃ n, fuel = n + 1 + 1 := ⟨fuel - 2, by omega⟩
        refine ⟨fuel, by omega, ?_⟩
        rw [List.append_assoc, (hround₁ d hd).decodeLoop, List.append_nil,
          (hround d hd).decodeLoop, List.append_nil]

/-- An encoder, a decoder that is fed with its blocks, and the lists called back so far. -/
structure Link (S : HttpSyntax) where
  encoder : Encoder S
  decoder : Decoder S
  delivered : List (List (Named S))

/-- What a user of the encoder does. -/
inductive Link.Step (S : HttpSyntax) where
  | updateMaxSize (v : Nat)
  | encode (headers : List (Header S (Option (HeaderName S))))

namespace Link

/-- Both sides before the first step. -/
def init (S : HttpSyntax) : Link S := ⟨Encoder.default S, Decoder.default S, []⟩

/-- One step; every encoded block goes to the decoder. -/
def step (hash : Name S → Nat) (k : Link S) : Step S → Except Fault (Link S)
  | .updateMaxSize v => .ok { k with encoder := k.encoder.updateMaxSize v }
  | .encode headers =>
      match k.encoder.encode hash headers [] with
      | .error p => .error (.panic p)
      | .ok (encoder, block) =>
          match k.decoder.decode ⟨block, 0⟩ with
          | .ok _ s => .ok ⟨encoder, s.decoder, k.delivered ++ [s.calls]⟩
          | .error f _ => .error f

/-- A size within the protocol's default; a list whose nameless fields have a name
and whose strings can be written. -/
def Step.Admissible : Step S → Prop
  | .updateMaxSize v => v ≤ 4096
  | .encode headers => ∃ out, resolveNames none headers = some out ∧ ∀ h ∈ out, h.Short

/-- The list a step has to deliver. -/
def Step.headers : Step S → List (List (Named S))
  | .updateMaxSize _ => []
  | .encode headers => ((resolveNames none headers).map (·.map Header.unmarked)).toList

/-- The tables hold the same headers, with the same size and the same bound. -/
structure SameTable (e : Encoder S) (d : Decoder S) : Prop where
  headers : e.table.slots.map (·.header) = d.table.entries
  size : e.table.size = d.table.size
  maxSize : e.table.maxSize = d.table.maxSize

/-- What holds between two steps. -/
structure Agrees (hash : Name S → Nat) (k : Link S) : Prop where
  follows : k.encoder.table.Follows hash
  sizes : ∀ v ∈ SizeUpdate.sizes k.encoder.sizeUpdate, v ≤ 4096
  decoder : k.decoder = ⟨none, 4096, tableOf k.encoder.table.headers k.encoder.table.maxSize, []⟩

theorem Agrees.sameTable {hash : Name S → Nat} {k : Link S} (h : k.Agrees hash) :
    SameTable k.encoder k.decoder := by
  rw [h.decoder]
  refine ⟨rfl, ?_, rfl⟩
  have hsized := h.follows.valid.sized
  unfold Table.Sized at hsized
  rw [hsized, Nat.zero_add]
  rfl

theorem init_agrees (hash : Name S → Nat) : (init S).Agrees hash := by
  refine ⟨⟨Table.new_valid 4096 0 (by decide), ?_, ?_⟩, ?_, ?_⟩
  · intro h hh
    cases hh
  · exact Nat.le_refl _
  · intro v hv
    cases hv
  · rfl

theorem updateMaxSize_sizes {e : Encoder S} {v b : Nat} (hv : v ≤ b)
    (h : ∀ v ∈ SizeUpdate.sizes e.sizeUpdate, v ≤ b) :
    ∀ w ∈ SizeUpdate.sizes (e.updateMaxSize v).sizeUpdate, w ≤ b := by
  obtain ⟨t, sizes⟩ := e
  match sizes, h with
  | none, _ =>
      unfold Encoder.updateMaxSize
      simp only
      split_ifs <;> simp [SizeUpdate.sizes, hv]
  | some (.one old), h =>
      have hold := h old (by simp [SizeUpdate.sizes])
      unfold Encoder.updateMaxSize
      simp only
      split_ifs <;> simp [SizeUpdate.sizes, hv, hold]
  | some (.two min max), h =>
      have hmin := h min (by simp [SizeUpdate.sizes])
      unfold Encoder.updateMaxSize
      simp only
      split_ifs <;> simp [SizeUpdate.sizes, hv, hmin]

/-- One step keeps the agreement and delivers its list. -/
theorem Agrees.step {hash : Name S → Nat} {k : Link S} (h : k.Agrees hash) {s : Step S}
    (hs : s.Admissible) :
    ∃ k', k.step hash s = .ok k' ∧ k'.Agrees hash ∧ k'.delivered = k.delivered ++ s.headers := by
  cases s with
  | updateMaxSize v =>
      refine ⟨_, rfl, ⟨?_, updateMaxSize_sizes hs h.sizes, ?_⟩, by simp [Step.headers]⟩
      all_goals
        have htable : (k.encoder.updateMaxSize v).table = k.encoder.table := by
          unfold Encoder.updateMaxSize
          split <;> split_ifs <;> rfl
        simp only [htable]
      · exact h.follows
      · exact h.decoder
  | encode headers =>
      obtain ⟨out, hres, hshort⟩ := hs
      obtain ⟨t₁, o₁, hwrite₁, hf₁, hread₁⟩ := encodeSizeUpdates_written h.follows h.sizes
      obtain ⟨t', o, hwrite, hf', hmax, hread⟩ := encodeLoop_written headers t₁ none none out hf₁
        (by simp) hres hshort
      have henc : k.encoder.encode hash headers [] = .ok (⟨t', none⟩, o₁ ++ o) := by
        simp only [Encoder.encode, hwrite₁, ok_bind, hwrite, List.nil_append]
        rfl
      have hdec : k.decoder.decode ⟨o₁ ++ o, 0⟩ =
          .ok () (reading k.decoder t'.headers t'.maxSize ⟨[], 0⟩ (out.map Header.unmarked)) := by
        obtain ⟨fuel, hfuel, hfirst⟩ :=
          hread₁ k.decoder (by rw [h.decoder]) ((o₁ ++ o).length + 1) o
          [] (Nat.lt_succ_self _)
        have hstart : (⟨k.decoder.takeSizeUpdate, ⟨o₁ ++ o, 0⟩, []⟩ : DecodeState S) =
            reading k.decoder k.encoder.table.headers k.encoder.table.maxSize ⟨o₁ ++ o, 0⟩ [] := by
          rw [h.decoder]
          rfl
        rw [Decoder.decode, hstart]
        refine hfirst.trans ?_
        rw [hread k.decoder true fuel [] hfuel, hmax, List.nil_append]
      have hstep : k.step hash (.encode headers) = .ok ⟨⟨t', none⟩,
          { k.decoder with table := tableOf t'.headers t'.maxSize, buffer := [] },
          k.delivered ++ [out.map Header.unmarked]⟩ := by
        rw [Link.step, henc]
        simp only [hdec]
        rfl
      refine ⟨_, hstep, ⟨hf', by simp [SizeUpdate.sizes], ?_⟩, ?_⟩
      · rw [h.decoder]
      · simp [Step.headers, hres]

/-- A block is written, read back as the list it was written for, and the agreement is kept. -/
theorem Agrees.encode {hash : Name S → Nat} {k : Link S} (h : k.Agrees hash)
    {headers : List (Header S (Option (HeaderName S)))} {out : List (Named S)}
    (hres : resolveNames none headers = some out) (hshort : ∀ h ∈ out, h.Short) :
    ∃ e block s, k.encoder.encode hash headers [] = .ok (e, block) ∧
      k.decoder.decode ⟨block, 0⟩ = .ok () s ∧ s.calls = out.map Header.unmarked ∧
      (⟨e, s.decoder, []⟩ : Link S).Agrees hash := by
  obtain ⟨k', hstep, hk', hdel⟩ := h.step (s := .encode headers) ⟨out, hres, hshort⟩
  rw [Link.step] at hstep
  cases henc : k.encoder.encode hash headers [] with
  | error p =>
      rw [henc] at hstep
      cases hstep
  | ok r =>
      obtain ⟨e, block⟩ := r
      rw [henc] at hstep
      dsimp only at hstep
      cases hdec : k.decoder.decode ⟨block, 0⟩ with
      | error f s =>
          rw [hdec] at hstep
          cases hstep
      | ok u s =>
          rw [hdec] at hstep
          cases hstep
          have hcalls : [s.calls] = [out.map Header.unmarked] := by
            rw [Step.headers, hres] at hdel
            exact List.append_cancel_left hdel
          exact ⟨e, block, s, rfl, hdec, List.singleton_inj.mp hcalls,
            ⟨hk'.follows, hk'.sizes, hk'.decoder⟩⟩

/-- A run keeps the agreement and delivers the lists of its steps. -/
theorem Agrees.run {hash : Name S → Nat} (steps : List (Step S)) :
    ∀ k : Link S, k.Agrees hash → (∀ s ∈ steps, s.Admissible) →
      ∃ k', steps.foldlM (Link.step hash) k = .ok k' ∧ k'.Agrees hash ∧
        k'.delivered = k.delivered ++ steps.flatMap Step.headers := by
  induction steps with
  | nil => intro k hk _; exact ⟨k, rfl, hk, by simp⟩
  | cons s steps ih =>
      intro k hk hall
      obtain ⟨k₁, hstep, hk₁, hdel₁⟩ := hk.step (hall s (by simp))
      obtain ⟨k', hrest, hk', hdel'⟩ := ih k₁ hk₁ fun s hs => hall s (List.mem_cons_of_mem _ hs)
      refine ⟨k', ?_, hk', ?_⟩
      · rw [List.foldlM_cons, hstep]
        exact hrest
      · rw [hdel', hdel₁, List.flatMap_cons, List.append_assoc]

/-- Encoder and decoder agree after every run: every block is read without an
error, the lists called back are the encoded ones, and the tables are the same. -/
theorem run_agrees (hash : Name S → Nat) (steps : List (Step S))
    (hsteps : ∀ s ∈ steps, s.Admissible) :
    ∃ k, steps.foldlM (step hash) (init S) = .ok k ∧
      k.delivered = steps.flatMap Step.headers ∧ SameTable k.encoder k.decoder := by
  obtain ⟨k, hk, hagrees, hdel⟩ := Agrees.run steps _ (init_agrees hash) hsteps
  exact ⟨k, hk, hdel, hagrees.sameTable⟩

/-! ## A run -/

/-- Lowercase tokens as names, visible ASCII as values, tokens as methods, ASCII as
strings. -/
def asciiSyntax : HttpSyntax where
  headerName b := b ≠ [] ∧ b.all fun c => c = 45 ∨ (97 ≤ c ∧ c ≤ 122) ∨ (48 ≤ c ∧ c ≤ 57)
  headerValue b := b.all fun c => 32 ≤ c ∧ c < 127
  method b := b ≠ [] ∧ b.all fun c => 65 ≤ c ∧ c ≤ 90
  byteString b := b.all (· < 128)
  standard_ok := by decide +kernel
  headerName_ne_nil := by
    intro b hb
    simp only [decide_eq_true_eq] at hb
    exact hb.1
  headerName_ne_colon := by
    intro b hb hcolon
    simp only [decide_eq_true_eq, List.all_eq_true] at hb
    have := hb.2 58 (List.mem_of_head? hcolon)
    revert this
    decide
  value_ok := by decide +kernel
  method_ok := by decide +kernel
  string_ok := by decide +kernel

/-! The texts of the examples are well formed. -/

theorem trace_ok : asciiSyntax.headerName (octets "x-trace") = true := by decide +kernel

theorem one_ok : asciiSyntax.headerValue (octets "one") = true := by decide +kernel

theorem two_ok : asciiSyntax.headerValue (octets "two") = true := by decide +kernel

theorem get_ok : asciiSyntax.method (octets "GET") = true := by decide +kernel

theorem created_ge : 100 ≤ 201 := by decide

theorem created_lt : 201 < 1000 := by decide

/-- Two blocks with a nameless field, a sensitive one and a repeated one, around two
size updates. -/
def sampleSteps : List (Step asciiSyntax) :=
  let name : HeaderName asciiSyntax := ⟨octets "x-trace", trace_ok⟩
  [.encode [.method ⟨octets "GET", get_ok⟩,
     .field (some name) ⟨octets "one", false, one_ok⟩,
     .field none ⟨octets "two", true, two_ok⟩],
   .updateMaxSize 64, .updateMaxSize 128,
   .encode [.status ⟨201, created_ge, created_lt⟩,
     .field (some name) ⟨octets "one", false, one_ok⟩]]

theorem short_of_length {s : Bytes} (h : s.length < 2 ^ 25) : Short s := by
  have := Huffman.encoded_length_le s
  unfold Short
  omega

theorem run_agrees_sampleSteps :
    ∃ k, sampleSteps.foldlM (step fun _ => 0) (init asciiSyntax) = .ok k ∧
      k.delivered = sampleSteps.flatMap Step.headers ∧ SameTable k.encoder k.decoder := by
  refine run_agrees (fun _ => 0) sampleSteps ?_
  have hshort : ∀ h : Named asciiSyntax, h.name.asSlice.length < 2 ^ 25 →
      h.valueSlice.length < 2 ^ 25 → h.Short :=
    fun h hn hv => ⟨short_of_length hn, short_of_length hv⟩
  intro s hs
  simp only [sampleSteps, List.mem_cons, List.not_mem_nil, or_false] at hs
  rcases hs with rfl | rfl | rfl | rfl
  · refine ⟨_, rfl, ?_⟩
    simp only [List.mem_cons, List.not_mem_nil, or_false, forall_eq_or_imp, forall_eq]
    exact ⟨hshort _ (by decide +kernel) (by decide +kernel),
      hshort _ (by decide +kernel) (by decide +kernel),
      hshort _ (by decide +kernel) (by decide +kernel)⟩
  · exact (by decide : 64 ≤ 4096)
  · exact (by decide : 128 ≤ 4096)
  · refine ⟨_, rfl, ?_⟩
    simp only [List.mem_cons, List.not_mem_nil, or_false, forall_eq_or_imp, forall_eq]
    exact ⟨hshort _ (by decide +kernel) (by decide +kernel),
      hshort _ (by decide +kernel) (by decide +kernel)⟩

end Link

end NtexH2.Hpack
