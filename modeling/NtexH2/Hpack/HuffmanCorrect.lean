/-
  Hpack/HuffmanCorrect.lean --- Huffman coding loses nothing.

  The octets written by `encode` are the code words of the source followed by
  fewer than eight ones, and `decode` reads exactly such strings back.
-/
import NtexH2.Hpack.Huffman

set_option autoImplicit false

namespace NtexH2.Hpack.Huffman

open Lib.PrefixCode

/-! ## The decoder as an automaton -/

/-- The decoder reads half octets. -/
def automaton : Automaton Decoder (Fin 16) UInt8 where
  chunk k := bits 4 k.val
  step d k := (d.decode4 k.val).toOption

/-- The decoder is in a state of the table, and it is final exactly when the bits
read since the last octet can be padding. -/
structure Good (d : Decoder) : Prop where
  state : ∃ p, statePath[d.state]? = some p
  final : d.isFinal = true ↔ ∃ m, m < 8 ∧ path d = List.replicate m true

theorem path_new : path .new = [] := rfl

theorem good_new : Good .new :=
  ⟨⟨(0, 0), rfl⟩, fun _ => ⟨0, by omega, path_new⟩, fun _ => rfl⟩

theorem path_eq {d : Decoder} {p : Nat × Nat} (h : statePath[d.state]? = some p) :
    path d = bits p.1 p.2 := by
  rw [path, h]

theorem path_chunk {d : Decoder} {p : Nat × Nat} (h : statePath[d.state]? = some p) (k : Fin 16) :
    path d ++ automaton.chunk k = bits (p.1 + 4) (p.2 * 16 + k.val) := by
  have := bits_append p.1 p.2 (show k.val < 2 ^ 4 from k.isLt)
  rw [Nat.mul_comm] at this
  rw [path_eq h]
  exact this.symm

/-- A checked entry of the table for a state and an input. -/
theorem entry_of_good {d : Decoder} (h : Good d) (k : Fin 16) :
    ∃ p e, statePath[d.state]? = some p ∧ p.2 < 2 ^ p.1 ∧
      (decodeTable[d.state]?).bind (·[k.val]?) = some e ∧ entryOk p.1 p.2 k.val e = true := by
  obtain ⟨p, hp⟩ := h.state
  obtain ⟨hlt, row, hrow, hok⟩ := rowsOk_spec rows_checked _ _ hp
  obtain ⟨hlen, hentry⟩ := rowOk_spec hok
  have hk : k.val < row.length := by have := k.isLt; omega
  refine ⟨p, row[k.val], hp, hlt, ?_, ?_⟩
  · rw [hrow]
    simp [hk]
  · have := hentry k.val row[k.val] (List.getElem?_eq_getElem hk)
    rwa [Nat.zero_add] at this

/-- What one step of the decoder does. -/
theorem decode4_spec {d : Decoder} (h : Good d) (k : Fin 16) :
    (d.decode4 k.val = .error (.err .invalidHuffmanCode) ∧ eos <+: path d ++ automaton.chunk k) ∨
    ∃ d' o, d.decode4 k.val = .ok (d', o) ∧ Good d' ∧
      path d ++ automaton.chunk k = (o.map code).getD [] ++ path d' := by
  obtain ⟨p, ⟨next, byte, flags⟩, hp, hlt, hentry, hok⟩ := entry_of_good h k
  rw [path_chunk hp k, Decoder.decode4, hentry]
  simp only [entryOk] at hok
  by_cases herr : flags &&& 4 = 4
  · left
    rw [herr, BEq.rfl] at hok
    simp only [Bool.and_eq_true, Nat.ble_eq, beq_iff_eq] at hok
    refine ⟨if_pos herr, ?_⟩
    have hsplit := bits_split 30 (p.1 + 4 - 30) (p.2 * 16 + k.val)
    rw [show 30 + (p.1 + 4 - 30) = p.1 + 4 by omega, hok.2, ← eos_eq] at hsplit
    rw [hsplit]
    exact List.prefix_append _ _
  · right
    have hbeq : (flags &&& 4 == 4) = false := by simpa using herr
    rw [hbeq] at hok
    simp only at hok
    cases hnext : statePath[next]? with
    | none => rw [hnext] at hok; cases hok
    | some p' =>
        rw [hnext] at hok
        obtain ⟨n', v'⟩ := p'
        simp only [Bool.and_eq_true, beq_iff_eq] at hok
        obtain ⟨hfinal, hcase⟩ := hok
        have hv' : v' < 2 ^ n' := (rowsOk_spec rows_checked _ _ hnext).1
        have hpath' : path ⟨next, flags &&& 1 == 1⟩ = bits n' v' := by
          rw [path, hnext]
        refine ⟨⟨next, flags &&& 1 == 1⟩, _, if_neg herr, ⟨⟨_, hnext⟩, ?_⟩, ?_⟩
        rotate_left
        · rw [hpath']
          by_cases hdec : flags &&& 2 = 2
          · rw [hdec, BEq.rfl] at hcase
            simp only at hcase
            cases hword : encodeTable[byte]? with
            | none => rw [hword] at hcase; cases hcase
            | some c =>
                rw [hword] at hcase
                obtain ⟨m, w⟩ := c
                simp only [Bool.and_eq_true, Nat.ble_eq, beq_iff_eq] at hcase
                have hbyte : byte.toUInt8.toNat = byte := by
                  rw [Nat.toUInt8, UInt8.toNat_ofNat']
                  omega
                have hcode : code byte.toUInt8 = bits m w := by rw [code, hbyte, hword]
                rw [if_pos hdec, Option.map_some, Option.getD_some, hcode, hcase.1.2, hcase.2]
                exact bits_append m w hv'
          · have hdec' : (flags &&& 2 == 2) = false := by simpa using hdec
            rw [hdec'] at hcase
            simp only [Bool.and_eq_true, beq_iff_eq] at hcase
            rw [if_neg hdec, Option.map_none, Option.getD_none, hcase.1, hcase.2,
              List.nil_append]
        · rw [hpath', Decoder.isFinal]
          simp only
          rw [hfinal, Bool.and_eq_true, Nat.ble_eq, beq_iff_eq]
          constructor
          · rintro ⟨hn', rfl⟩
            exact ⟨n', by omega, bits_ones n'⟩
          · rintro ⟨m, hm, hbits⟩
            have hlen := congrArg List.length hbits
            rw [bits_length, List.length_replicate] at hlen
            subst hlen
            rw [← bits_ones] at hbits
            exact ⟨by omega, bits_inj hv' (by have := Nat.two_pow_pos n'; omega) hbits⟩

theorem automaton_reads : automaton.Reads code eos path Good := by
  have hstep : ∀ (d : Decoder) (k : Fin 16), automaton.step d k = (d.decode4 k.val).toOption :=
    fun _ _ => rfl
  refine ⟨?_, ?_, ?_, ?_⟩
  · intro d k d' a hd h
    rw [hstep] at h
    rcases decode4_spec hd k with ⟨herr, _⟩ | ⟨d₁, o, hok, hgood, hpath⟩
    · rw [herr] at h
      cases h
    · rw [hok] at h
      simp only [Except.toOption, Option.some.injEq, Prod.mk.injEq] at h
      obtain ⟨rfl, rfl⟩ := h
      exact ⟨hgood, hpath⟩
  · intro d k d' hd h
    rw [hstep] at h
    rcases decode4_spec hd k with ⟨herr, _⟩ | ⟨d₁, o, hok, hgood, hpath⟩
    · rw [herr] at h
      cases h
    · rw [hok] at h
      simp only [Except.toOption, Option.some.injEq, Prod.mk.injEq] at h
      obtain ⟨rfl, rfl⟩ := h
      exact ⟨hgood, hpath⟩
  · intro d k hd h
    rw [hstep] at h
    rcases decode4_spec hd k with ⟨_, heos⟩ | ⟨d₁, o, hok, _⟩
    · exact heos
    · rw [hok] at h
      cases h
  · intro d a hd ha
    obtain ⟨p, hp⟩ := hd.state
    have hlt := (rowsOk_spec rows_checked _ _ hp).1
    obtain ⟨c, hc, hlonger, hpre⟩ :=
      goesOn_spec (innerOk_spec paths_inner p (List.mem_of_getElem? hp))
    obtain ⟨n, v, hentry, hcode, _, _, hv⟩ := code_entry a
    rw [path_eq hp, hcode] at ha
    -- the word would be a proper prefix of the word the path goes on to
    have hle : n ≤ p.1 := by simpa using ha.length_le
    have hpa := isPrefix_of_isPrefix hv hlt ha
    obtain ⟨j, hj⟩ := List.mem_iff_getElem?.mp hc
    have hpc : isPrefix n v c.1 c.2 = true := by
      simp only [isPrefix, Bool.and_eq_true, decide_eq_true_eq, beq_iff_eq] at hpa hpre ⊢
      refine ⟨by omega, ?_⟩
      rw [← hpa.2, ← hpre.2, Nat.div_div_eq_div_mul, ← Nat.pow_add]
      congr 2
      omega
    have hidx : a.toNat = j := by
      by_contra hne
      have := allApart_spec words_apart _ _ _ _ hentry hj hne
      rw [hpc] at this
      cases this
    rw [hidx, hj] at hentry
    cases hentry
    omega

/-! ## Decoding a string -/

/-- The half octets of a string. -/
def nibbles (s : Bytes) : List (Fin 16) :=
  s.flatMap fun b => [⟨b.toNat / 16, by have := b.toNat_lt; omega⟩, ⟨b.toNat % 16, by omega⟩]

theorem nibbles_input (s : Bytes) : automaton.input (nibbles s) = octetBits s := by
  induction s with
  | nil => rfl
  | cons b s ih =>
      have hsplit := bits_split 4 4 b.toNat
      simp only [Automaton.input, nibbles, octetBits, List.flatMap_cons, List.nil_append,
        List.cons_append] at ih ⊢
      rw [ih, show (8 : Nat) = 4 + 4 from rfl, hsplit]
      simp [automaton]

theorem shift_toNat (b : UInt8) : (b >>> 4).toNat = b.toNat / 16 := by
  simp [UInt8.toNat_shiftRight, Nat.shiftRight_eq_div_pow]

theorem mask_toNat (b : UInt8) : (b &&& 0xf).toNat = b.toNat % 16 := by
  rw [UInt8.toNat_and]
  exact Nat.and_two_pow_sub_one_eq_mod b.toNat 4

theorem decodeLoop_run (s : Bytes) :
    ∀ (d d' : Decoder) (out buf : Bytes), automaton.run (nibbles s) d = some (d', out) →
      decodeLoop s d buf = (.ok d', buf ++ out) := by
  induction s with
  | nil =>
      intro d d' out buf h
      simp only [nibbles, List.flatMap_nil, Automaton.run, Option.some.injEq, Prod.mk.injEq] at h
      obtain ⟨rfl, rfl⟩ := h
      simp [decodeLoop]
  | cons b s ih =>
      intro d d' out buf h
      have hstep : ∀ (d : Decoder) (k : Fin 16),
          automaton.step d k = (d.decode4 k.val).toOption := fun _ _ => rfl
      simp only [nibbles, List.flatMap_cons, List.cons_append, List.nil_append,
        Automaton.run, hstep] at h
      rw [decodeLoop, shift_toNat, mask_toNat]
      cases hhi : d.decode4 (b.toNat / 16) with
      | error e => rw [hhi] at h; cases h
      | ok r =>
          obtain ⟨d₁, hi⟩ := r
          rw [hhi] at h
          simp only [Except.toOption] at h
          cases hlo : d₁.decode4 (b.toNat % 16) with
          | error e => rw [hlo] at h; cases h
          | ok r =>
              obtain ⟨d₂, lo⟩ := r
              rw [hlo] at h
              simp only [Option.map_map, Option.map_eq_some_iff, Function.comp, Prod.mk.injEq] at h
              obtain ⟨⟨d₃, rest⟩, hrun, rfl, rfl⟩ := h
              simp only [hlo]
              rw [ih d₂ d₃ rest _ hrun]
              simp

/-- `decode` reads the code words of a string followed by fewer than eight ones. -/
theorem decode_spec {e s : Bytes} {m : Nat} (hm : m < 8)
    (h : octetBits e = concat code s ++ List.replicate m true) (buf : Bytes) :
    decode e buf = (.ok (buf ++ s), []) := by
  obtain ⟨d', hrun, hgood', hpath'⟩ := automaton_reads.complete words_prefixFree
    (by rw [List.length_replicate]; simp [eos]; omega) (code_not_prefix_pad hm)
    (nibbles e) .new s good_new (by rw [path_new, nibbles_input, List.nil_append, h])
  have hfinal : d'.isFinal = true := hgood'.final.mpr ⟨m, hm, hpath'⟩
  rw [decode, decodeLoop_run e .new d' s buf hrun]
  simp [hfinal]

/-! ## Encoding a string -/

/-- The window of the encoder holds the `40 - left` bits of `v` at its upper end;
above the window there may be bits already written out. -/
structure Window (word left v : Nat) : Prop where
  left_le : left ≤ 40
  value : word % 2 ^ 40 = v * 2 ^ left
  lt : v < 2 ^ (40 - left)

/-- Writing out one octet. -/
theorem Window.octet {word left v : Nat} (h : Window word left v) (hleft : left ≤ 32) :
    ((word >>> 32).toUInt8).toNat = v / 2 ^ (32 - left) ∧
      Window ((word <<< 8) % 2 ^ 64) (left + 8) (v % 2 ^ (32 - left)) := by
  have hpow : 2 ^ 32 = 2 ^ (32 - left) * 2 ^ left := by
    rw [← Nat.pow_add, show 32 - left + left = 32 by omega]
  have hvalue := h.value
  have hdiv : word % 2 ^ 40 / 2 ^ 32 = v / 2 ^ (32 - left) := by
    rw [hvalue, hpow]
    exact Nat.mul_div_mul_right v _ (Nat.two_pow_pos left)
  have hmod : word % 2 ^ 32 = v % 2 ^ (32 - left) * 2 ^ left := by
    have h1 : word % 2 ^ 32 = word % 2 ^ 40 % 2 ^ 32 := by omega
    rw [h1, hvalue, hpow, Nat.mul_mod_mul_right]
  refine ⟨?_, by omega, ?_, ?_⟩
  · rw [Nat.toUInt8, UInt8.toNat_ofNat', Nat.shiftRight_eq_div_pow, ← hdiv]
    omega
  · rw [Nat.shiftLeft_eq, Nat.pow_add, ← Nat.mul_assoc, ← hmod]
    omega
  · rw [show 40 - (left + 8) = 32 - left by omega]
    exact Nat.mod_lt _ (Nat.two_pow_pos _)

/-- The inner loop writes whole octets until fewer than eight bits are left. -/
theorem flush_spec :
    ∀ (fuel word left v : Nat) (dst : Bytes), Window word left v → 32 < left + 8 * fuel →
      ∃ word' left' v' e, flush (fuel + 1) word left dst = .ok (word', left', dst ++ e) ∧
        Window word' left' v' ∧ 32 < left' ∧
        bits (40 - left) v = octetBits e ++ bits (40 - left') v' := by
  intro fuel
  induction fuel with
  | zero =>
      intro word left v dst h hfuel
      exact ⟨word, left, v, [], by rw [flush, if_neg (by omega), List.append_nil], h, by omega,
        by simp [octetBits]⟩
  | succ fuel ih =>
      intro word left v dst h hfuel
      by_cases hleft : left ≤ 32
      · obtain ⟨hoctet, hnext⟩ := h.octet hleft
        obtain ⟨word', left', v', e, hrun, hwin, hlast, hbits⟩ :=
          ih _ _ _ (dst ++ [(word >>> 32).toUInt8]) hnext (by omega)
        refine ⟨word', left', v', (word >>> 32).toUInt8 :: e, ?_, hwin, hlast, ?_⟩
        · rw [flush, if_pos hleft, hrun, List.append_assoc]
          rfl
        · have hsplit := bits_split 8 (32 - left) v
          rw [show 8 + (32 - left) = 40 - left by omega] at hsplit
          rw [show 40 - (left + 8) = 32 - left by omega] at hbits
          rw [hsplit, hbits, ← hoctet]
          simp [octetBits]
      · exact ⟨word, left, v, [], by rw [flush, if_neg hleft, List.append_nil], h, by omega,
          by simp [octetBits]⟩

/-- The lower `left` bits of the word are free. -/
theorem Window.or_eq_add {word left v w : Nat} (h : Window word left v) (hw : w < 2 ^ left) :
    word ||| w = word + w := by
  have hleft := h.left_le
  have hpow40 : 2 ^ 40 = 2 ^ (40 - left) * 2 ^ left := by
    rw [← Nat.pow_add, show 40 - left + left = 40 by omega]
  obtain ⟨g, hg⟩ : ∃ g, word = 2 ^ left * g := by
    refine ⟨2 ^ (40 - left) * (word / 2 ^ 40) + v, ?_⟩
    rw [Nat.mul_add, ← Nat.mul_assoc, Nat.mul_comm (2 ^ left) (2 ^ (40 - left)), ← hpow40,
      Nat.mul_comm (2 ^ left) v, ← h.value]
    omega
  rw [hg]
  exact (Nat.two_pow_add_eq_or_of_lt hw g).symm

/-- Adding a code word to the window. -/
theorem Window.add {word left v n w : Nat} (h : Window word left v) (hn : n ≤ left)
    (hw : w < 2 ^ n) :
    Window (word ||| (w <<< (left - n)) % 2 ^ 64) (left - n) (2 ^ n * v + w) := by
  have hleft := h.left_le
  have hpow : 2 ^ left = 2 ^ n * 2 ^ (left - n) := by
    rw [← Nat.pow_add, show n + (left - n) = left by omega]
  have hpow40 : 2 ^ 40 = 2 ^ (40 - left) * 2 ^ left := by
    rw [← Nat.pow_add, show 40 - left + left = 40 by omega]
  have hshift : w * 2 ^ (left - n) < 2 ^ left := by
    rw [hpow]
    exact Nat.mul_lt_mul_of_pos_right hw (Nat.two_pow_pos _)
  have hle40 : 2 ^ left ≤ 2 ^ 40 := Nat.pow_le_pow_right (by decide) hleft
  have hsmall : (w <<< (left - n)) % 2 ^ 64 = w * 2 ^ (left - n) := by
    rw [Nat.shiftLeft_eq, Nat.mod_eq_of_lt (by omega)]
  have hor : word ||| w * 2 ^ (left - n) = word + w * 2 ^ (left - n) := h.or_eq_add hshift
  have hvle : v + 1 ≤ 2 ^ (40 - left) := h.lt
  have hfit : v * 2 ^ left + w * 2 ^ (left - n) < 2 ^ 40 := by
    have hmul := Nat.mul_le_mul_right (2 ^ left) hvle
    rw [← hpow40, Nat.add_mul, Nat.one_mul] at hmul
    omega
  refine ⟨by omega, ?_, ?_⟩
  · have hval := h.value
    have hmodadd : (word + w * 2 ^ (left - n)) % 2 ^ 40 =
        word % 2 ^ 40 + w * 2 ^ (left - n) := by
      rw [← hval] at hfit
      omega
    rw [hsmall, hor, hmodadd, hval, Nat.add_mul, hpow, ← Nat.mul_assoc, Nat.mul_comm v]
  · rw [show 40 - (left - n) = 40 - left + n by omega, Nat.pow_add]
    have hmul := Nat.mul_le_mul_right (2 ^ n) hvle
    rw [Nat.add_mul, Nat.one_mul] at hmul
    rw [Nat.mul_comm (2 ^ n) v]
    omega

theorem octetBits_append (a b : Bytes) : octetBits (a ++ b) = octetBits a ++ octetBits b := by
  simp [octetBits]

/-- The loop of `encode` writes code words; fewer than eight bits stay in the
window. -/
theorem encodeLoop_spec (s : Bytes) :
    ∀ (word left v : Nat) (dst : Bytes), Window word left v → 32 < left →
      ∃ word' left' v' e, encodeLoop s word left dst = .ok (word', left', dst ++ e) ∧
        Window word' left' v' ∧ 32 < left' ∧
        bits (40 - left) v ++ concat code s = octetBits e ++ bits (40 - left') v' := by
  induction s with
  | nil =>
      intro word left v dst h hleft
      exact ⟨word, left, v, [], by rw [encodeLoop, List.append_nil], h, hleft,
        by simp [octetBits]⟩
  | cons b s ih =>
      intro word left v dst h hleft
      obtain ⟨n, w, hentry, hcode, _, hn, hw⟩ := code_entry b
      have hadd := h.add (show n ≤ left by omega) hw
      obtain ⟨word₁, left₁, v₁, e₁, hflush, hwin₁, hleft₁, hbits₁⟩ :=
        flush_spec 5 _ _ _ dst hadd (by omega)
      obtain ⟨word', left', v', e, hrun, hwin, hleft', hbits⟩ :=
        ih word₁ left₁ v₁ (dst ++ e₁) hwin₁ hleft₁
      refine ⟨word', left', v', e₁ ++ e, ?_, hwin, hleft', ?_⟩
      · rw [encodeLoop, at'_getElem? hentry, ok_bind]
        simp only [if_neg (show ¬ left < n by omega)]
        rw [hflush, ok_bind]
        simp only
        rw [hrun, List.append_assoc]
      · have happ := bits_append (40 - left) v hw
        have := h.left_le
        rw [show 40 - left + n = 40 - (left - n) by omega, hbits₁] at happ
        rw [concat_cons, hcode, ← List.append_assoc, ← happ, List.append_assoc, hbits,
          octetBits_append, List.append_assoc]

/-- `encode` appends the code words of the source, padded with ones to a whole
number of octets. -/
theorem encode_spec (s dst : Bytes) :
    ∃ e m, encode s dst = .ok (dst ++ e) ∧ m < 8 ∧
      octetBits e = concat code s ++ List.replicate m true := by
  obtain ⟨word, left, v, e, hrun, hwin, hleft, hbits⟩ :=
    encodeLoop_spec s 0 40 0 dst ⟨Nat.le_refl _, rfl, by decide⟩ (by omega)
  rw [show 40 - 40 = 0 from rfl, bits, List.nil_append] at hbits
  have hle := hwin.left_le
  rw [encode, hrun, ok_bind]
  simp only
  by_cases hfull : left = 40
  · subst hfull
    refine ⟨e, 0, rfl, by omega, ?_⟩
    simpa [bits] using hbits.symm
  · -- the last octet is filled up with ones
    have hones : 2 ^ (left - 32) - 1 < 2 ^ (left - 32) := by
      have := Nat.two_pow_pos (left - 32)
      omega
    have hoctet : (((word ||| ((1 <<< left) - 1)) >>> 32).toUInt8).toNat =
        2 ^ (left - 32) * v + (2 ^ (left - 32) - 1) := by
      have hpow : 2 ^ left = 2 ^ (left - 32) * 2 ^ 32 := by
        rw [← Nat.pow_add, show left - 32 + 32 = left by omega]
      have hpos := Nat.two_pow_pos (left - 32)
      have hvalue := hwin.value
      have hv := hwin.lt
      have hbound : 2 ^ (left - 32) * v + (2 ^ (left - 32) - 1) < 256 := by
        have hmul := Nat.mul_le_mul_left (2 ^ (left - 32)) (show v + 1 ≤ _ from hv)
        rw [← Nat.pow_add, show left - 32 + (40 - left) = 8 by omega, Nat.mul_add,
          Nat.mul_one] at hmul
        omega
      have hsum : word + (2 ^ left - 1) = 2 ^ 40 * (word / 2 ^ 40) +
          (2 ^ 32 * (2 ^ (left - 32) * v + (2 ^ (left - 32) - 1)) + (2 ^ 32 - 1)) := by
        have hexp : 2 ^ 32 * (2 ^ (left - 32) * v + (2 ^ (left - 32) - 1)) + (2 ^ 32 - 1) =
            v * 2 ^ left + (2 ^ left - 1) := by
          rw [hpow, Nat.mul_add, Nat.mul_sub, ← Nat.mul_assoc, Nat.mul_comm (2 ^ 32),
            Nat.mul_comm _ v]
          omega
        rw [hexp, ← hvalue]
        omega
      rw [Nat.toUInt8, UInt8.toNat_ofNat', Nat.shiftRight_eq_div_pow, Nat.one_shiftLeft,
        hwin.or_eq_add (by have := Nat.two_pow_pos left; omega), hsum]
      omega
    refine ⟨e ++ [((word ||| ((1 <<< left) - 1)) >>> 32).toUInt8], left - 32, ?_, by omega, ?_⟩
    · rw [if_pos hfull, ← List.append_assoc]
      rfl
    · rw [octetBits_append, hbits, List.append_assoc, ← bits_ones, ← bits_append _ v hones,
        ← hoctet, show 40 - left + (left - 32) = 8 by omega]
      simp [octetBits]

/-! ## The encoded form -/

theorem octetBits_cons (b : UInt8) (s : Bytes) :
    octetBits (b :: s) = bits 8 b.toNat ++ octetBits s := by
  simp [octetBits]

theorem octetBits_length (s : Bytes) : (octetBits s).length = 8 * s.length := by
  induction s with
  | nil => rfl
  | cons b s ih =>
      rw [octetBits_cons, List.length_append, bits_length, ih, List.length_cons]
      omega

theorem octetBits_inj {a b : Bytes} (h : octetBits a = octetBits b) : a = b := by
  induction a generalizing b with
  | nil =>
      have := congrArg List.length h
      rw [octetBits_length, octetBits_length, List.length_nil] at this
      exact (List.length_eq_zero_iff.mp (by omega)).symm
  | cons x a ih =>
      cases b with
      | nil =>
          have := congrArg List.length h
          rw [octetBits_length, octetBits_length, List.length_nil, List.length_cons] at this
          omega
      | cons y b =>
          rw [octetBits_cons, octetBits_cons] at h
          obtain ⟨hxy, hab⟩ := List.append_inj h (by simp)
          have hx : x.toNat = y.toNat := bits_inj x.toNat_lt y.toNat_lt hxy
          rw [UInt8.toNat_inj.mp hx, ih hab]

/-- A bit string has at most one form with fewer than eight ones of padding. -/
theorem padded_unique {a b : Bytes} {x : List Bool} {m m' : Nat} (hm : m < 8) (hm' : m' < 8)
    (ha : octetBits a = x ++ List.replicate m true)
    (hb : octetBits b = x ++ List.replicate m' true) : a = b := by
  have hla := congrArg List.length ha
  have hlb := congrArg List.length hb
  rw [octetBits_length, List.length_append, List.length_replicate] at hla hlb
  obtain rfl : m = m' := by omega
  exact octetBits_inj (ha.trans hb.symm)

/-- The Huffman form of a string. -/
def encoded (s : Bytes) : Bytes :=
  match encode s [] with
  | .ok e => e
  | .error _ => []

theorem encoded_bits (s : Bytes) :
    ∃ m, m < 8 ∧ octetBits (encoded s) = concat code s ++ List.replicate m true := by
  obtain ⟨e, m, he, hm, hbits⟩ := encode_spec s []
  refine ⟨m, hm, ?_⟩
  rw [encoded, he]
  exact hbits

/-- `encode` appends the Huffman form to any buffer. -/
theorem encode_eq (s dst : Bytes) : encode s dst = .ok (dst ++ encoded s) := by
  obtain ⟨e, m, he, hm, hbits⟩ := encode_spec s dst
  obtain ⟨m', hm', hbits'⟩ := encoded_bits s
  rw [he, padded_unique hm hm' hbits hbits']

/-- The Huffman form is decoded to the string. -/
theorem decode_encoded (s buf : Bytes) : decode (encoded s) buf = (.ok (buf ++ s), []) := by
  obtain ⟨m, hm, hbits⟩ := encoded_bits s
  exact decode_spec hm hbits buf

theorem encoded_length_le (s : Bytes) : (encoded s).length ≤ 4 * s.length + 1 := by
  obtain ⟨m, hm, hbits⟩ := encoded_bits s
  have hwords : ∀ s : Bytes, (concat code s).length ≤ 30 * s.length := by
    intro s
    induction s with
    | nil => simp
    | cons b s ih =>
        obtain ⟨n, v, _, hcode, _, hn, _⟩ := code_entry b
        rw [concat_cons, hcode, List.length_append, bits_length, List.length_cons]
        omega
  have hlen := congrArg List.length hbits
  have := hwords s
  rw [octetBits_length, List.length_append, List.length_replicate] at hlen
  omega

end NtexH2.Hpack.Huffman
