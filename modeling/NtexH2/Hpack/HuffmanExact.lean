/-
  Hpack/HuffmanExact.lean --- Huffman coding is exact (src/hpack/huffman/mod.rs).

  `Hpack.HuffmanCorrect` shows that `decode` reads back what `encode` writes.
  This file is about the rest of the inputs: `decode` accepts nothing but the code
  words of a string followed by fewer than eight ones, so that `encode` writes the
  one form of a string that is accepted.  It also follows the window of `encode`
  octet by octet: what went in is in the window or was written out.
-/
import NtexH2.Hpack.HuffmanCorrect

set_option autoImplicit false

namespace NtexH2.Hpack.Huffman

open Lib.PrefixCode

/-! ## What the decoder accepts -/

/-- An octet string is a Huffman form of `s`: its bits are the code words of `s`
and fewer than eight ones. -/
def Form (s e : Bytes) : Prop :=
  ∃ m, m < 8 ∧ octetBits e = concat code s ++ List.replicate m true

theorem form_encoded (s : Bytes) : Form s (encoded s) := encoded_bits s

theorem Form.unique {s a b : Bytes} (ha : Form s a) (hb : Form s b) : a = b := by
  obtain ⟨m, hm, ha⟩ := ha
  obtain ⟨m', hm', hb⟩ := hb
  exact padded_unique hm hm' ha hb

/-- A loop that ends well is a run of the automaton. -/
theorem run_decodeLoop (s : Bytes) :
    ∀ (d d' : Decoder) (buf buf' : Bytes), decodeLoop s d buf = (.ok d', buf') →
      ∃ out, automaton.run (nibbles s) d = some (d', out) ∧ buf' = buf ++ out := by
  induction s with
  | nil =>
      intro d d' buf buf' h
      simp only [decodeLoop, Prod.mk.injEq, Except.ok.injEq] at h
      obtain ⟨rfl, rfl⟩ := h
      exact ⟨[], rfl, (List.append_nil _).symm⟩
  | cons b s ih =>
      intro d d' buf buf' h
      have hstep : ∀ (d : Decoder) (k : Fin 16),
          automaton.step d k = (d.decode4 k.val).toOption := fun _ _ => rfl
      rw [decodeLoop, shift_toNat, mask_toNat] at h
      cases hhi : d.decode4 (b.toNat / 16) with
      | error e => rw [hhi] at h; cases h
      | ok r =>
          obtain ⟨d₁, hi⟩ := r
          rw [hhi] at h
          simp only at h
          cases hlo : d₁.decode4 (b.toNat % 16) with
          | error e => rw [hlo] at h; cases h
          | ok r =>
              obtain ⟨d₂, lo⟩ := r
              rw [hlo] at h
              obtain ⟨out, hrun, hbuf⟩ := ih d₂ d' _ buf' h
              refine ⟨hi.toList ++ (lo.toList ++ out), ?_, ?_⟩
              · simp only [nibbles, List.flatMap_cons, List.cons_append, List.nil_append,
                  Automaton.run, hstep, hhi, hlo, Except.toOption] at hrun ⊢
                rw [hrun]
                rfl
              · rw [hbuf, List.append_assoc, List.append_assoc]

/-- Only forms of a string are decoded to it. -/
theorem form_of_decode {e s buf : Bytes} (h : (decode e buf).1 = .ok (buf ++ s)) : Form s e := by
  rw [decode] at h
  cases hloop : decodeLoop e .new buf with
  | mk r buf' =>
      rw [hloop] at h
      cases r with
      | error f => cases h
      | ok d =>
          obtain ⟨out, hrun, rfl⟩ := run_decodeLoop e _ d buf buf' hloop
          obtain ⟨hgood, hread⟩ := automaton_reads.sound _ _ _ _ good_new hrun
          simp only at h
          split at h
          · rename_i hfinal
            obtain rfl : out = s := List.append_cancel_left (Except.ok.inj h)
            obtain ⟨m, hm, hpad⟩ := hgood.final.mp hfinal
            refine ⟨m, hm, ?_⟩
            rw [path_new, List.nil_append, nibbles_input, hpad] at hread
            exact hread
          · cases h

/-! ## The window of the encoder -/

/-- The bits in the window that wait to be written out. -/
def pending (word left : Nat) : List Bool := bits (40 - left) (word >>> left)

theorem bits_mod (n v : Nat) : bits n (v % 2 ^ n) = bits n v := by
  have h := bits_split 0 n v
  rw [Nat.zero_add] at h
  exact h.symm

theorem Window.pending {word left v : Nat} (h : Window word left v) :
    pending word left = bits (40 - left) v := by
  have hle := h.left_le
  have hpow : 2 ^ 40 = 2 ^ left * 2 ^ (40 - left) := by
    rw [← Nat.pow_add, show left + (40 - left) = 40 by omega]
  have hshift : (word >>> left) % 2 ^ (40 - left) = v := by
    rw [Nat.shiftRight_eq_div_pow, ← Nat.mod_mul_right_div_self, ← hpow, h.value]
    exact Nat.mul_div_cancel v (Nat.two_pow_pos left)
  rw [Huffman.pending, ← bits_mod, hshift]

theorem Window.free {word left v : Nat} (h : Window word left v) : word % 2 ^ left = 0 := by
  have hdvd : 2 ^ left ∣ 2 ^ 40 := Nat.pow_dvd_pow 2 h.left_le
  rw [← Nat.mod_mod_of_dvd word hdvd, h.value, Nat.mul_mod_left]

/-- The loop of `encode` after the octets `s`: `out` is written and the window has
room for every code word. -/
structure Collected (s out : Bytes) (word left : Nat) : Prop where
  room : 32 < left ∧ left ≤ 40
  free : word % 2 ^ left = 0
  bits : octetBits out ++ pending word left = concat code s

/-- A code word `w` of `n` bits goes into the window without touching what is there,
and without passing the window's lower end. -/
structure Fits (word left n w : Nat) : Prop where
  room : n ≤ left
  below : w <<< (left - n) < 2 ^ left
  bits : pending (word ||| (w <<< (left - n)) % 2 ^ 64) (left - n) = pending word left ++ bits n w

theorem Window.fits {word left v n w : Nat} (h : Window word left v) (hn : n ≤ left)
    (hw : w < 2 ^ n) : Fits word left n w := by
  have hle := h.left_le
  refine ⟨hn, ?_, ?_⟩
  · rw [Nat.shiftLeft_eq, show 2 ^ left = 2 ^ n * 2 ^ (left - n) by
      rw [← Nat.pow_add, show n + (left - n) = left by omega]]
    exact Nat.mul_lt_mul_of_pos_right hw (Nat.two_pow_pos _)
  · rw [(h.add hn hw).pending, h.pending, ← bits_append (40 - left) v hw]
    congr 1
    omega

/-- What the loop of `encode` has done after any string. -/
theorem encodeLoop_collected (s dst : Bytes) :
    ∃ out word left, encodeLoop s 0 40 dst = .ok (word, left, dst ++ out) ∧
      Collected s out word left ∧
      ∀ b : UInt8, ∃ n w, encodeTable[b.toNat]? = some (n, w) ∧ Fits word left n w := by
  obtain ⟨word, left, v, out, hrun, hwin, hleft, hbits⟩ :=
    encodeLoop_spec s 0 40 0 dst ⟨Nat.le_refl _, rfl, by decide⟩ (by omega)
  refine ⟨out, word, left, hrun, ⟨⟨hleft, hwin.left_le⟩, hwin.free, ?_⟩, fun b => ?_⟩
  · rw [hwin.pending, ← hbits]
    rfl
  · obtain ⟨n, w, hentry, _, _, hn, hw⟩ := code_entry b
    exact ⟨n, w, hentry, hwin.fits (by omega) hw⟩

/-! ## Exactness -/

/-- Huffman coding is a bijection of the octet strings onto the accepted forms: the
form `encode` writes is read back, `decode` accepts the forms of a string and nothing
else, each string has one form, and on the way `encode` always has room for the next
code word and keeps every bit in the window or in the output. -/
theorem huffman_exact :
    (∀ s dst buf : Bytes, ∃ e, encode s dst = .ok (dst ++ e) ∧
      decode e buf = (.ok (buf ++ s), [])) ∧
    (∀ s e buf : Bytes, (decode e buf).1 = .ok (buf ++ s) ↔ Form s e) ∧
    (∀ s : Bytes, ∃! e, (decode e []).1 = .ok s) ∧
    ∀ s dst : Bytes, ∃ out word left, encodeLoop s 0 40 dst = .ok (word, left, dst ++ out) ∧
      Collected s out word left ∧
      ∀ b : UInt8, ∃ n w, encodeTable[b.toNat]? = some (n, w) ∧ Fits word left n w := by
  refine ⟨fun s dst buf => ⟨encoded s, encode_eq s dst, decode_encoded s buf⟩,
    fun s e buf => ⟨form_of_decode, fun ⟨m, hm, h⟩ => ?_⟩, fun s => ?_, encodeLoop_collected⟩
  · rw [decode_spec hm h]
  · refine ⟨encoded s, ?_, fun e he => ?_⟩
    · show (decode (encoded s) []).1 = .ok s
      rw [decode_encoded, List.nil_append]
    · exact (form_of_decode he).unique (form_encoded s)

end NtexH2.Hpack.Huffman
