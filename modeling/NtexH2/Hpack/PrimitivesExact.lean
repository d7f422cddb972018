/-
  Hpack/PrimitivesExact.lean --- integers at the limit, and strings.

  `encode_int` writes an integer of any size; `decode_int` stops after five octets.
  What fits into five octets is read back (`Hpack.Primitives`), and what does not is
  refused with `IntegerOverflow`.  For strings this limit is on the length of the
  Huffman form.
-/
import NtexH2.Hpack.Agreement

set_option autoImplicit false

namespace NtexH2.Hpack

variable {S : HttpSyntax}

/-! ## Integers that are too large -/

/-- The octets of an integer that is too large go on behind the last one that is read. -/
theorem decodeIntLoop_long :
    ∀ (left shift ret v : Nat) (c : Cursor) (rest : Bytes), 2 ^ (7 * (left + 1)) ≤ v →
      c.chunk = encodeIntTail v ++ rest →
      decodeIntLoop (left + 1) shift ret c =
        .error (.err .integerOverflow) (c.skip (left + 1)) := by
  intro left
  induction left with
  | zero =>
      intro shift ret v c rest hv hc
      rw [encodeIntTail_more hv, List.cons_append] at hc
      rw [decodeIntLoop_cons hc, if_neg (tail_flag v), if_pos rfl]
  | succ left ih =>
      intro shift ret v c rest hv hc
      have hpow : 2 ^ (7 * (left + 1 + 1)) = 2 ^ (7 * (left + 1)) * 128 := by
        rw [Nat.mul_add 7 (left + 1) 1, Nat.pow_add]
      have hpos : 0 < 2 ^ (7 * (left + 1)) := Nat.two_pow_pos _
      rw [encodeIntTail_more (by omega), List.cons_append] at hc
      have hlarge : 2 ^ (7 * (left + 1)) ≤ v >>> 7 := by
        rw [Nat.shiftRight_eq_div_pow, Nat.le_div_iff_mul_le (by decide)]
        omega
      rw [decodeIntLoop_cons hc, if_neg (tail_flag v), if_neg (Nat.succ_ne_zero left),
        ih _ _ _ _ rest hlarge (skip_one_chunk hc), Cursor.skip_skip, Nat.add_comm 1]

/-- `decode_int` refuses what is too large for five octets. -/
theorem decodeInt_long {p v : Nat} {first : UInt8} {c : Cursor} {rest : Bytes} (hp1 : 1 ≤ p)
    (hp8 : p ≤ 8) (hfirst : first.toNat % 2 ^ p = 0) (hv : 2 ^ 28 + 2 ^ p - 1 ≤ v)
    (hc : c.chunk = encodeInt v p first ++ rest) :
    decodeInt p c = .error (.err .integerOverflow) (c.skip 5) := by
  have hpos := Nat.two_pow_pos p
  rw [encodeInt_large (by omega), List.cons_append] at hc
  rw [decodeInt_cons ⟨hp1, hp8⟩ hc, prefix_octet hp8 hfirst (by omega), if_neg (Nat.lt_irrefl _),
    decodeIntLoop_long 3 0 (2 ^ p - 1) (v - (2 ^ p - 1)) (c.skip 1) rest (by omega)
      (skip_one_chunk hc),
    Cursor.skip_skip]

/-! ## What is read of any octets -/

/-- An integer was read from `n` octets at most, and it is at most `max`; or reading it ended
in an error after at most `n` octets. -/
def ReadsInt (n max : Nat) (c : Cursor) (r : EStateM.Result Fault Cursor Nat) : Prop :=
  ∃ k, k ≤ n ∧ ((∃ v, v ≤ max ∧ r = .ok v (c.skip k)) ∨ ∃ e, r = .error e (c.skip k))

theorem ReadsInt.later {n max k : Nat} {c : Cursor} {r : EStateM.Result Fault Cursor Nat}
    (h : ReadsInt n max (c.skip k) r) : ReadsInt (k + n) max c r := by
  obtain ⟨j, hj, h⟩ := h
  refine ⟨k + j, by omega, ?_⟩
  simp only [Cursor.skip_skip] at h
  exact h

theorem ReadsInt.mono {n n' max max' : Nat} {c : Cursor} {r : EStateM.Result Fault Cursor Nat}
    (h : ReadsInt n max c r) (hn : n ≤ n') (hmax : max ≤ max') : ReadsInt n' max' c r := by
  obtain ⟨k, hk, h⟩ := h
  refine ⟨k, by omega, h.imp_left ?_⟩
  rintro ⟨v, hv, hr⟩
  exact ⟨v, by omega, hr⟩

theorem low_octet (b : UInt8) : (b &&& 0x7f).toNat ≤ 127 := by
  rw [UInt8.toNat_and]
  exact Nat.and_le_right

theorem decodeIntLoop_reads : ∀ (left shift ret : Nat) (c : Cursor),
    ReadsInt left (ret + (2 ^ (7 * left) - 1) * 2 ^ shift) c (decodeIntLoop left shift ret c) := by
  intro left
  induction left with
  | zero => exact fun shift ret c => ⟨0, Nat.le_refl _, .inr ⟨_, rfl⟩⟩
  | succ left ih =>
      intro shift ret c
      cases hc : c.chunk with
      | nil =>
          rw [decodeIntLoop_empty hc]
          exact ⟨0, Nat.zero_le _, .inr ⟨_, rfl⟩⟩
      | cons b rest =>
          obtain ⟨w, hw, hlow⟩ : ∃ w, w = (b &&& 0x7f).toNat ∧ w ≤ 127 := ⟨_, rfl, low_octet b⟩
          -- the octets behind this one count 128 times as much
          have hpow : 2 ^ (7 * (left + 1)) - 1 = 127 + (2 ^ (7 * left) - 1) * 2 ^ 7 := by
            have hpos := Nat.two_pow_pos (7 * left)
            rw [Nat.mul_add 7 left 1, Nat.pow_add]
            omega
          have hshift : w <<< shift ≤ 127 * 2 ^ shift := by
            rw [Nat.shiftLeft_eq]
            exact Nat.mul_le_mul_right _ hlow
          have hbound : ret + w <<< shift + (2 ^ (7 * left) - 1) * 2 ^ (shift + 7) ≤
              ret + (2 ^ (7 * (left + 1)) - 1) * 2 ^ shift := by
            rw [hpow, Nat.add_mul, Nat.add_comm shift 7, Nat.pow_add, ← Nat.mul_assoc]
            omega
          rw [decodeIntLoop_cons hc, ← hw]
          split
          · exact ⟨1, by omega, .inl ⟨_, by omega, rfl⟩⟩
          · split
            · exact ⟨1, by omega, .inr ⟨_, rfl⟩⟩
            · exact (ih _ _ _).later.mono (by omega) hbound

/-- `decode_int` reads five octets at most, and what it returns is bounded. -/
theorem decodeInt_reads (p : Nat) (c : Cursor) :
    ReadsInt 5 (2 ^ 28 + 254) c (decodeInt p c) := by
  by_cases hp : 1 ≤ p ∧ p ≤ 8
  · cases hc : c.chunk with
    | nil =>
        have hrem : c.remaining = 0 := by simp [Cursor.remaining, hc]
        rw [decodeInt]
        simp only [hp, and_self, not_true_eq_false, if_false]
        rw [get_bind]
        simp only [hrem, if_true]
        exact ⟨0, by omega, .inr ⟨_, rfl⟩⟩
    | cons b rest =>
        have hpow : 2 ^ p ≤ 2 ^ 8 := Nat.pow_le_pow_right (by decide) hp.2
        have hmask : b.toNat &&& (2 ^ p - 1) ≤ 2 ^ p - 1 := Nat.and_le_right
        rw [decodeInt_cons hp hc]
        split
        · exact ⟨1, by omega, .inl ⟨_, by omega, rfl⟩⟩
        · exact (decodeIntLoop_reads 4 0 _ (c.skip 1)).later.mono (by omega) (by omega)
  · rw [decodeInt]
    simp only [hp, not_false_eq_true, if_true]
    exact ⟨0, by omega, .inr ⟨_, rfl⟩⟩

/-! ## Reading back -/

/-- Integers and strings are read back exactly.  What `encode_int` wrote is read by
`decode_int`, whatever octets follow, up to the limit of five octets, and refused with
`IntegerOverflow` beyond it; on any octets `decode_int` stops after five and its result is
bounded.  `encode_str` appends the length, with the flag of the Huffman form, and the Huffman
form; `try_decode_string` marks it off, and the marker stands for the string, behind what
an earlier string may have left in the scratch buffer.  With an empty buffer the decoder stays as
it is. -/
theorem primitives_exact :
    (∀ (p v : Nat) (first : UInt8) (c : Cursor) (rest : Bytes), 1 ≤ p → p ≤ 8 →
      first.toNat % 2 ^ p = 0 → c.chunk = encodeInt v p first ++ rest →
      (v < 2 ^ 28 + 2 ^ p - 1 → decodeInt p c = .ok v (c.skip (encodeInt v p first).length)) ∧
      (2 ^ 28 + 2 ^ p - 1 ≤ v → decodeInt p c = .error (.err .integerOverflow) (c.skip 5))) ∧
    (∀ (p : Nat) (c : Cursor), ReadsInt 5 (2 ^ 28 + 254) c (decodeInt p c)) ∧
    (∀ s dst : Bytes, Short s → encodeStr s dst = .ok (dst ++ strOctets s)) ∧
    (∀ (st : DecodeState S) (s rest : Bytes), Short s → st.buf.chunk = strOctets s ++ rest →
      (Decode.tryDecodeString : Decode S StringMarker) st =
        .ok (markerOf st.decoder.buffer s)
          { st with
            decoder :=
              { st.decoder with buffer := if s.isEmpty then st.decoder.buffer else [] }
            buf := st.buf.skip (strOctets s).length }) ∧
    ∀ (st : DecodeState S) (s rest : Bytes), Short s → st.decoder.buffer = [] →
      st.buf.chunk = strOctets s ++ rest →
      ∃ m c', (Decode.tryDecodeString : Decode S StringMarker) st =
          .ok m { st with buf := st.buf.skip (strOctets s).length } ∧
        m.consume st.buf = .ok s c' ∧ c'.chunk = rest := by
  refine ⟨fun p v first c rest hp1 hp8 hfirst hc => ⟨fun hv => ?_, fun hv => ?_⟩, decodeInt_reads,
    fun s dst hs => encodeStr_spec hs dst, fun st s rest hs hc => tryDecodeString_scratch hs hc,
    fun st s rest hs hbuf hc => ?_⟩
  · exact decodeInt_spec hp1 hp8 hfirst hv hc
  · exact decodeInt_long hp1 hp8 hfirst hv hc
  · obtain ⟨m, hm, hrun⟩ := tryDecodeString_spec hs hbuf hc
    obtain ⟨c', hconsume, hrest, -⟩ := hm.consume hc
    exact ⟨m, c', hrun, hconsume, hrest⟩

theorem encodeInt_1337 : encodeInt 1337 5 0 = [31, 154, 10] := by
  rw [encodeInt_large (by decide), encodeIntTail_more (by decide), encodeIntTail_last (by decide)]
  rfl

theorem encodeInt_tooLarge :
    encodeInt (2 ^ 28 + 127) 7 0x80 = [0xff, 0x80, 0x80, 0x80, 0x80, 0x01] := by
  rw [encodeInt_large (by decide), encodeIntTail_more (by decide), encodeIntTail_more (by decide),
    encodeIntTail_more (by decide), encodeIntTail_more (by decide), encodeIntTail_last (by decide)]
  rfl

/-- A number of three octets, the smallest one that is too large, and a string. -/
theorem primitives_exact_sample :
    decodeInt 5 ⟨[31, 154, 10, 7], 0⟩ = .ok 1337 ⟨[31, 154, 10, 7], 3⟩ ∧
    decodeInt 7 ⟨[0xff, 0x80, 0x80, 0x80, 0x80, 0x01], 0⟩ =
      .error (.err .integerOverflow) ⟨[0xff, 0x80, 0x80, 0x80, 0x80, 0x01], 5⟩ ∧
    ∃ m c', (Decode.tryDecodeString : Decode Link.asciiSyntax StringMarker)
        ⟨.default Link.asciiSyntax, ⟨strOctets (octets "www"), 0⟩, []⟩ =
          .ok m ⟨.default Link.asciiSyntax, ⟨strOctets (octets "www"), 4⟩, []⟩ ∧
      m.consume ⟨strOctets (octets "www"), 0⟩ = .ok (octets "www") c' ∧ c'.chunk = [] := by
  obtain ⟨hint, -, -, -, hstr⟩ := primitives_exact (S := Link.asciiSyntax)
  refine ⟨?_, ?_, hstr _ (octets "www") [] (Link.short_of_length (by decide)) rfl
    (List.append_nil _).symm⟩
  · have hread := (hint 5 1337 0 ⟨[31, 154, 10, 7], 0⟩ [7] (by decide) (by decide) rfl
      (by rw [encodeInt_1337]; rfl)).1 (by decide)
    rwa [encodeInt_1337] at hread
  · exact (hint 7 (2 ^ 28 + 127) 0x80 ⟨[0xff, 0x80, 0x80, 0x80, 0x80, 0x01], 0⟩ [] (by decide)
      (by decide) rfl (by rw [encodeInt_tooLarge]; rfl)).2 (by decide)

end NtexH2.Hpack
