/-
  Hpack/LongStrings.lean --- strings that the encoder writes and the decoder refuses.

  `decode_int` reads at most four octets behind the first one.  The encoder has no such
  limit: it writes the length of a string in as many octets as that needs, and a string
  whose Huffman form has 2^28 + 127 octets or more is not read back.
-/
import NtexH2.Hpack.EncoderRuns
import NtexH2.Hpack.Reads

set_option autoImplicit false

namespace NtexH2.Hpack

variable {S : HttpSyntax}

/-! ## Lengths -/

/-- The Huffman form has room for the code words of the symbols. -/
theorem Huffman.encoded_length_ge {n : Nat} {s : Bytes} (h : ∀ b ∈ s, n ≤ (code b).length) :
    n * s.length ≤ 8 * (encoded s).length := by
  obtain ⟨m, -, hbits⟩ := encoded_bits s
  have hwords : ∀ s : Bytes, (∀ b ∈ s, n ≤ (code b).length) →
      n * s.length ≤ (Lib.PrefixCode.concat code s).length := by
    intro s
    induction s with
    | nil => exact fun _ => Nat.le_refl _
    | cons b s ih =>
        intro h
        obtain ⟨hb, hs⟩ := List.forall_mem_cons.mp h
        have hrest := ih hs
        rw [Lib.PrefixCode.concat_cons, List.length_append, List.length_cons, Nat.mul_add,
          Nat.mul_one]
        omega
  have hlen := congrArg List.length hbits
  have hle := hwords s h
  rw [octetBits_length, List.length_append, List.length_replicate] at hlen
  omega

/-- A symbol takes five bits at least. -/
theorem Huffman.code_length_ge (b : UInt8) : 5 ≤ (code b).length := by
  obtain ⟨n, v, -, hcode, hn, -, -⟩ := code_entry b
  rw [hcode, Lib.PrefixCode.bits_length]
  exact hn

/-- The encoder can write the length of the string, and the decoder cannot read it. -/
structure Long (s : Bytes) : Prop where
  unread : 2 ^ 28 + 127 ≤ (Huffman.encoded s).length
  written : (Huffman.encoded s).length < 2 ^ 49

theorem long_of_length {s : Bytes} (hge : 2 ^ 29 ≤ s.length) (hlt : s.length < 2 ^ 46) :
    Long s := by
  have hlow := Huffman.encoded_length_ge fun b (_ : b ∈ s) => Huffman.code_length_ge b
  have hhigh := Huffman.encoded_length_le s
  exact ⟨by omega, by omega⟩

theorem Long.encodeStr {s : Bytes} (h : Long s) (dst : Bytes) :
    encodeStr s dst = .ok (dst ++ strOctets s) :=
  encodeStr_writable h.written dst

/-! ## The decoder -/

namespace Scan

/-- After its last octet an integer must not go on. -/
theorem intTail_long : ∀ (left shift ret v : Nat) (rest b : Bytes), 128 ^ (left + 1) ≤ v →
    intTail left shift ret (encodeIntTail v ++ rest) b =
      .error (.fault (.err .integerOverflow)) b := by
  intro left
  induction left with
  | zero =>
      intro shift ret v rest b hv
      have hoctet : octet .integerUnderflow (encodeIntTail v ++ rest) b =
          .ok (0x80 ||| v.toUInt8, encodeIntTail (v / 128) ++ rest) b := by
        rw [encodeIntTail_more (by omega), Nat.shiftRight_eq_div_pow]
        rfl
      rw [intTail, bind_ok hoctet, if_neg (tail_flag v)]
      rfl
  | succ left ih =>
      intro shift ret v rest b hv
      have hpow : 128 ^ (left + 1 + 1) = 128 ^ (left + 1) * 128 := pow_succ _ _
      have hpos : 0 < 128 ^ (left + 1) := Nat.pos_of_ne_zero (by positivity)
      have hoctet : octet .integerUnderflow (encodeIntTail v ++ rest) b =
          .ok (0x80 ||| v.toUInt8, encodeIntTail (v / 128) ++ rest) b := by
        rw [encodeIntTail_more (by omega), Nat.shiftRight_eq_div_pow]
        rfl
      rw [intTail, bind_ok hoctet, if_neg (tail_flag v)]
      exact ih _ _ _ _ _ ((Nat.le_div_iff_mul_le (by decide)).mpr (by omega))

/-- The length of a long string is refused. -/
theorem string_long {s : Bytes} (h : Long s) (rest b : Bytes) :
    string (strOctets s ++ rest) b = .error (.fault (.err .integerOverflow)) b := by
  have hunread := h.unread
  have hne : s.isEmpty = false := by
    cases s with
    | nil =>
        have hle := Huffman.encoded_length_le ([] : Bytes)
        rw [List.length_nil] at hle
        omega
    | cons c s => rfl
  have hone : encodeIntOneByte (Huffman.encoded s).length 7 = false := by
    rw [encodeIntOneByte, decide_eq_false_iff_not]
    show ¬(Huffman.encoded s).length < 127
    omega
  have hoctets : strOctets s ++ rest = 0xff :: (encodeIntTail ((Huffman.encoded s).length - 127) ++
      (Huffman.encoded s ++ rest)) := by
    unfold strOctets
    rw [hne, if_neg Bool.false_ne_true, encodeInt, hone, if_neg Bool.false_ne_true,
      List.append_assoc]
    rfl
  have hoctet : octet .unexpectedEndOfStream (strOctets s ++ rest) b =
      .ok (0xff, encodeIntTail ((Huffman.encoded s).length - 127) ++
        (Huffman.encoded s ++ rest)) b := by
    rw [hoctets]
    rfl
  have hint : intFrom 7 0xff (encodeIntTail ((Huffman.encoded s).length - 127) ++
      (Huffman.encoded s ++ rest)) b = .error (.fault (.err .integerOverflow)) b := by
    have hfrom : intFrom 7 0xff = intTail 3 0 127 := rfl
    rw [hfrom]
    refine intTail_long 3 0 127 _ _ _ ?_
    have hpow : 128 ^ (3 + 1) = 2 ^ 28 := by norm_num
    omega
  have hframed : framed (strOctets s ++ rest) b = .error (.fault (.err .integerOverflow)) b := by
    rw [framed, bind_ok hoctet, bind_error hint]
  rw [string, bind_error hframed]

end Scan

/-! ## A long path -/

/-- A block that cannot be read at all. -/
theorem decode_of_stop {d : Decoder S} {x b : Bytes} {f : Fault} (hne : x ≠ [])
    (h : Scan.item d.takeSizeUpdate true x d.takeSizeUpdate.buffer = .error (.fault f) b) :
    ∃ s, d.decode ⟨x, 0⟩ = .error f s ∧ s.calls = [] := by
  have hitems : d.items x = [] := by
    unfold Decoder.items
    rw [readItems, h]
  obtain ⟨d', canResize', x', hreads, hends⟩ := decode_reads d x
  rw [hitems] at hreads hends
  cases hreads
  generalize d.decode ⟨x, 0⟩ = r at hends
  cases hends with
  | finished => exact absurd rfl hne
  | stopped _ hscan _ =>
      rw [h] at hscan
      cases hscan
      exact ⟨_, rfl, rfl⟩
  | broken hscan _ =>
      rw [h] at hscan
      cases hscan

variable {v : ByteString S}

/-- A path that is not in the static table is written as a literal. -/
theorem encode_path (hash : Name S → Nat) (hroot : v.bytes ≠ octets "/")
    (hindex : v.bytes ≠ octets "/index.html")
    (hstr : ∀ dst, encodeStr v.bytes dst = .ok (dst ++ strOctets v.bytes)) :
    (Encoder.default S).encode hash [.path v] [] =
      .ok (Encoder.default S, 4 :: strOctets v.bytes) := by
  have hstatic : indexStatic (.path v : Named S) = some (4, false) := by
    unfold indexStatic
    dsimp only
    rw [if_neg hroot, if_neg hindex]
  have htable : (Encoder.default S).table.index hash (.path v : Named S) =
      .ok (.name 4 (.path v), (Encoder.default S).table) := by
    unfold Table.index
    rw [hstatic]
    rfl
  have hone : Encoder.encodeOne hash (Encoder.default S).table none (.path v) [] =
      .ok ((Encoder.default S).table, some (.name 4 (.path v)), 4 :: strOctets v.bytes) := by
    have hwrite : encodeNotIndexed 4 v.bytes false [] = .ok (4 :: strOctets v.bytes) := hstr _
    show ((Encoder.default S).table.index hash (.path v : Named S) >>= _) = _
    rw [htable]
    show (encodeNotIndexed 4 v.bytes false [] >>= _) = _
    rw [hwrite]
    rfl
  show (Encoder.encodeLoop hash [.path v] (Encoder.default S).table none [] >>= _) = _
  rw [Encoder.encodeLoop, hone]
  rfl

/-- A long path is written. -/
theorem encode_longPath (hash : Name S → Nat) (h : Long v.bytes) :
    (Encoder.default S).encode hash [.path v] [] =
      .ok (Encoder.default S, 4 :: strOctets v.bytes) := by
  have hne : ∀ s : String, (octets s).length < 2 ^ 20 → v.bytes ≠ octets s := by
    intro s hs heq
    have hle := Huffman.encoded_length_le v.bytes
    have hge := h.unread
    rw [heq] at hle hge
    omega
  exact encode_path hash (hne _ (by decide)) (hne _ (by decide)) h.encodeStr

/-- A long path is not read. -/
theorem decode_longPath (d : Decoder S) (h : Long v.bytes) :
    ∃ s, d.decode ⟨4 :: strOctets v.bytes, 0⟩ = .error (.err .integerOverflow) s ∧
      s.calls = [] := by
  have hstr : Scan.string (strOctets v.bytes) d.takeSizeUpdate.buffer =
      .error (.fault (.err .integerOverflow)) d.takeSizeUpdate.buffer := by
    have hlong := Scan.string_long h [] d.takeSizeUpdate.buffer
    rwa [List.append_nil] at hlong
  refine decode_of_stop (b := d.takeSizeUpdate.buffer) (List.cons_ne_nil _ _) ?_
  show (Scan.literal d.takeSizeUpdate.table 4 4 >>= fun h => pure (Item.field h false) : Scan _)
    (strOctets v.bytes) d.takeSizeUpdate.buffer = _
  refine Scan.bind_error ?_
  have hint : Scan.intFrom 4 4 (strOctets v.bytes) d.takeSizeUpdate.buffer =
      .ok (4, strOctets v.bytes) d.takeSizeUpdate.buffer := rfl
  have hname : Scan.lookup (d.takeSizeUpdate.table.get 4) (strOctets v.bytes)
      d.takeSizeUpdate.buffer =
      .ok (.path (staticString S "/" (by simp)), strOctets v.bytes) d.takeSizeUpdate.buffer := rfl
  unfold Scan.literal
  rw [Scan.bind_ok hint, if_neg (by decide), Scan.bind_ok hname]
  exact Scan.bind_error hstr

end NtexH2.Hpack
