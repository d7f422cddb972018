/-
  Hpack/Primitives.lean --- integers and strings are read back.

  `decode_int` reads what `encode_int` wrote, and `try_decode_string` what
  `encode_str` wrote, whatever octets follow.
-/
import NtexH2.Hpack.HuffmanCorrect
import NtexH2.Hpack.Encoder
import NtexH2.Hpack.Decoder

set_option autoImplicit false

namespace NtexH2.Hpack

open Lib.PrefixCode

variable {S : HttpSyntax}

/-! ## Running state transformers -/

section Run

variable {ε σ α β : Type}

theorem bind_of_ok {x : EStateM ε σ α} {f : α → EStateM ε σ β} {s s' : σ} {a : α}
    (h : x s = .ok a s') : (x >>= f) s = f a s' := by
  show EStateM.bind x f s = f a s'
  rw [EStateM.bind, h]

theorem get_bind (f : σ → EStateM ε σ β) (s : σ) :
    ((get : EStateM ε σ σ) >>= f) s = f s s := rfl

theorem onBuf_of_ok {x : EStateM Fault Cursor α} {s : DecodeState S} {a : α} {c : Cursor}
    (h : x s.buf = .ok a c) :
    (Decode.onBuf x : Decode S α) s = .ok a { s with buf := c } := by
  rw [Decode.onBuf, h]

end Run

/-- The cursor has read the octets `l`. -/
def Cursor.skip (c : Cursor) (n : Nat) : Cursor := { c with pos := c.pos + n }

theorem Cursor.skip_skip (c : Cursor) (m n : Nat) : (c.skip m).skip n = c.skip (m + n) := by
  simp [Cursor.skip, Nat.add_assoc]

theorem Cursor.skip_chunk {c : Cursor} {l rest : Bytes} (h : c.chunk = l ++ rest) :
    (c.skip l.length).chunk = rest := by
  unfold Cursor.skip Cursor.chunk at *
  simp only
  rw [← List.drop_drop, h, List.drop_left]

theorem getU8_of_chunk {c : Cursor} {b : UInt8} {rest : Bytes} (h : c.chunk = b :: rest) :
    Cursor.getU8 c = .ok b (c.skip 1) := by
  rw [Cursor.getU8, h]
  rfl

/-! ## Integers -/

/-- A property of octets, checked on all of them. -/
theorem forall_octet {P : UInt8 → Prop} (h : ∀ n, n < 256 → P (UInt8.ofNat n)) (b : UInt8) :
    P b := by
  have := h b.toNat b.toNat_lt
  rwa [UInt8.ofNat_toNat] at this

theorem tail_octet (v : Nat) : ((0x80 ||| v.toUInt8) &&& 0x7f : UInt8).toNat = v % 128 := by
  have h1 : ∀ b : UInt8, ((0x80 ||| b) &&& 0x7f : UInt8).toNat = b.toNat % 128 :=
    forall_octet (by decide +kernel)
  rw [h1, Nat.toUInt8, UInt8.toNat_ofNat']
  omega

theorem tail_flag (v : Nat) : (0x80 ||| v.toUInt8) &&& 0x80 ≠ (0 : UInt8) := by
  have h1 : ∀ b : UInt8, (0x80 ||| b) &&& 0x80 ≠ (0 : UInt8) := forall_octet (by decide +kernel)
  exact h1 _

theorem last_octet {v : Nat} (h : v < 128) : (v.toUInt8 &&& 0x7f : UInt8).toNat = v := by
  rw [UInt8.toNat_and, Nat.toUInt8, UInt8.toNat_ofNat']
  show v % 256 &&& 2 ^ 7 - 1 = v
  rw [Nat.and_two_pow_sub_one_eq_mod]
  omega

theorem last_flag {v : Nat} (h : v < 128) : v.toUInt8 &&& 0x80 = (0 : UInt8) := by
  have h1 : ∀ b : UInt8, b.toNat < 128 → b &&& 0x80 = (0 : UInt8) :=
    forall_octet (by decide +kernel)
  refine h1 _ ?_
  rw [Nat.toUInt8, UInt8.toNat_ofNat']
  omega

theorem remaining_of_chunk {c : Cursor} {b : UInt8} {x : Bytes} (h : c.chunk = b :: x) :
    ¬c.remaining = 0 := by
  rw [Cursor.remaining, h]
  exact Nat.succ_ne_zero _

theorem skip_one_chunk {c : Cursor} {b : UInt8} {x : Bytes} (h : c.chunk = b :: x) :
    (c.skip 1).chunk = x :=
  Cursor.skip_chunk (l := [b]) h

theorem decodeIntLoop_empty {left shift ret : Nat} {c : Cursor} (h : c.chunk = []) :
    decodeIntLoop (left + 1) shift ret c = .error (.err (.needMore .integerUnderflow)) c := by
  rw [decodeIntLoop, get_bind, if_pos (by rw [Cursor.remaining, h]; rfl)]
  rfl

theorem decodeIntLoop_cons {left shift ret : Nat} {c : Cursor} {b : UInt8} {x : Bytes}
    (h : c.chunk = b :: x) :
    decodeIntLoop (left + 1) shift ret c =
      if b &&& 0x80 = 0 then .ok (ret + (b &&& 0x7f).toNat <<< shift) (c.skip 1)
      else if left = 0 then .error (.err .integerOverflow) (c.skip 1)
      else decodeIntLoop left (shift + 7) (ret + (b &&& 0x7f).toNat <<< shift) (c.skip 1) := by
  rw [decodeIntLoop, get_bind]
  simp only [remaining_of_chunk h, if_false]
  rw [bind_of_ok (getU8_of_chunk h)]
  split
  · rfl
  · split
    · rfl
    · rfl

theorem decodeInt_cons {p : Nat} (hp : 1 ≤ p ∧ p ≤ 8) {c : Cursor} {first : UInt8} {x : Bytes}
    (hc : c.chunk = first :: x) :
    decodeInt p c =
      if first.toNat &&& (2 ^ p - 1) < 2 ^ p - 1 then
        .ok (first.toNat &&& (2 ^ p - 1)) (c.skip 1)
      else decodeIntLoop 4 0 (first.toNat &&& (2 ^ p - 1)) (c.skip 1) := by
  rw [decodeInt]
  simp only [hp.1, hp.2, and_self, not_true_eq_false, if_false]
  rw [get_bind]
  simp only [remaining_of_chunk hc, if_false]
  rw [bind_of_ok (getU8_of_chunk hc)]
  split
  · rfl
  · rfl

theorem encodeIntTail_last {v : Nat} (h : v < 128) : encodeIntTail v = [v.toUInt8] := by
  rw [encodeIntTail, if_neg (by omega)]

theorem encodeIntTail_more {v : Nat} (h : 128 ≤ v) :
    encodeIntTail v = (0x80 ||| v.toUInt8) :: encodeIntTail (v >>> 7) := by
  rw [encodeIntTail, if_pos h]

/-- The last octet of an integer ends the loop. -/
theorem decodeIntLoop_last {left shift ret v : Nat} {c : Cursor} {rest : Bytes} (hv : v < 128)
    (hc : c.chunk = encodeIntTail v ++ rest) :
    decodeIntLoop (left + 1) shift ret c =
      .ok (ret + v <<< shift) (c.skip (encodeIntTail v).length) := by
  rw [encodeIntTail_last hv] at hc ⊢
  rw [decodeIntLoop_cons hc, if_pos (last_flag hv), last_octet hv, List.length_singleton]

/-- The loop of `decode_int` reads what the loop of `encode_int` wrote. -/
theorem decodeIntLoop_spec :
    ∀ (left shift ret v : Nat) (c : Cursor) (rest : Bytes), v < 2 ^ (7 * (left + 1)) →
      c.chunk = encodeIntTail v ++ rest →
      decodeIntLoop (left + 1) shift ret c =
        .ok (ret + v <<< shift) (c.skip (encodeIntTail v).length) := by
  intro left
  induction left with
  | zero =>
      intro shift ret v c rest hv hc
      exact decodeIntLoop_last (by simpa using hv) hc
  | succ left ih =>
      intro shift ret v c rest hv hc
      rcases Nat.lt_or_ge v 128 with hlt | hge
      · exact decodeIntLoop_last hlt hc
      · have hsmall : v >>> 7 < 2 ^ (7 * (left + 1)) := by
          rw [Nat.shiftRight_eq_div_pow, Nat.div_lt_iff_lt_mul (by decide), ← Nat.pow_add]
          exact hv
        rw [encodeIntTail_more hge] at hc ⊢
        rw [decodeIntLoop_cons hc, if_neg (tail_flag v), if_neg (Nat.succ_ne_zero left),
          tail_octet, ih (shift + 7) _ (v >>> 7) (c.skip 1) rest hsmall (skip_one_chunk hc),
          Cursor.skip_skip, List.length_cons, Nat.add_comm 1]
        congr 1
        rw [Nat.shiftRight_eq_div_pow, Nat.shiftLeft_eq, Nat.shiftLeft_eq, Nat.shiftLeft_eq,
          Nat.pow_add, Nat.add_assoc, Nat.mul_comm (2 ^ shift) (2 ^ 7), ← Nat.mul_assoc,
          ← Nat.add_mul]
        congr 2
        omega

/-- The first octet of an integer under the mask. -/
theorem prefix_octet {p w : Nat} {first : UInt8} (hp8 : p ≤ 8) (hfirst : first.toNat % 2 ^ p = 0)
    (hw : w < 2 ^ p) : (first ||| w.toUInt8).toNat &&& (2 ^ p - 1) = w := by
  have hdvd : 2 ^ p ∣ 256 := Nat.pow_dvd_pow 2 hp8
  rw [Nat.and_two_pow_sub_one_eq_mod, UInt8.toNat_or, Nat.or_mod_two_pow, hfirst, Nat.zero_or,
    Nat.toUInt8, UInt8.toNat_ofNat', Nat.mod_mod_of_dvd _ hdvd, Nat.mod_eq_of_lt hw]

theorem encodeInt_small {v p : Nat} (h : v < 2 ^ p - 1) (first : UInt8) :
    encodeInt v p first = [first ||| v.toUInt8] := by
  rw [encodeInt, encodeIntOneByte, Nat.one_shiftLeft, decide_eq_true h, if_pos rfl]

theorem encodeInt_large {v p : Nat} (h : 2 ^ p - 1 ≤ v) (first : UInt8) :
    encodeInt v p first =
      (first ||| (2 ^ p - 1).toUInt8) :: encodeIntTail (v - (2 ^ p - 1)) := by
  rw [encodeInt, encodeIntOneByte, Nat.one_shiftLeft, decide_eq_false (Nat.not_lt.mpr h),
    if_neg Bool.false_ne_true]

/-- `decode_int` reads what `encode_int` wrote and nothing more. -/
theorem decodeInt_spec {p v : Nat} {first : UInt8} {c : Cursor} {rest : Bytes} (hp1 : 1 ≤ p)
    (hp8 : p ≤ 8) (hfirst : first.toNat % 2 ^ p = 0) (hv : v < 2 ^ 28 + 2 ^ p - 1)
    (hc : c.chunk = encodeInt v p first ++ rest) :
    decodeInt p c = .ok v (c.skip (encodeInt v p first).length) := by
  have hpos := Nat.two_pow_pos p
  rcases Nat.lt_or_ge v (2 ^ p - 1) with hsmall | hlarge
  · rw [encodeInt_small hsmall] at hc ⊢
    rw [decodeInt_cons ⟨hp1, hp8⟩ hc, prefix_octet hp8 hfirst (by omega), if_pos hsmall,
      List.length_singleton]
  · rw [encodeInt_large hlarge] at hc ⊢
    rw [decodeInt_cons ⟨hp1, hp8⟩ hc, prefix_octet hp8 hfirst (by omega),
      if_neg (Nat.lt_irrefl _), decodeIntLoop_spec 3 0 (2 ^ p - 1) (v - (2 ^ p - 1)) (c.skip 1)
        rest (by omega) (skip_one_chunk hc),
      Cursor.skip_skip, List.length_cons, Nat.add_comm 1, Nat.shiftLeft_zero]
    congr 1
    omega

/-! ## Strings -/

/-- The octets `encode_str` writes for a string. -/
def strOctets (s : Bytes) : Bytes :=
  if s.isEmpty then [0]
  else encodeInt (Huffman.encoded s).length 7 0x80 ++ Huffman.encoded s

/-- The Huffman form of the string is not longer than an integer can say. -/
def Short (s : Bytes) : Prop := (Huffman.encoded s).length < 2 ^ 28

theorem encodeIntTail_length {v : Nat} : ∀ n, v < 2 ^ (7 * (n + 1)) →
    (encodeIntTail v).length ≤ n + 1 := by
  intro n
  induction n generalizing v with
  | zero =>
      intro hv
      rw [encodeIntTail, if_neg (by simpa using hv)]
      simp
  | succ n ih =>
      intro hv
      rw [encodeIntTail]
      split
      · have hsmall : v >>> 7 < 2 ^ (7 * (n + 1)) := by
          rw [Nat.shiftRight_eq_div_pow, Nat.div_lt_iff_lt_mul (by decide), ← Nat.pow_add]
          exact hv
        have := ih hsmall
        rw [List.length_cons]
        omega
      · simp

theorem setAt_last (a : Bytes) (x b : UInt8) (c : Bytes) :
    setAt (a ++ x :: c) a.length b = .ok (a ++ b :: c) := by
  rw [setAt, if_pos (by simp), List.set_append_right _ _ (Nat.le_refl _), Nat.sub_self]
  rfl

theorem foldlM_range_succ {α : Type} (f : α → Nat → Except Panic α) (a : α) (n : Nat) :
    (List.range (n + 1)).foldlM f a = (List.range n).foldlM f a >>= fun b => f b n := by
  rw [List.range_succ, List.foldlM_append]
  simp

/-- The shifting loop moves the string `e` back by the length of `pad`. -/
theorem shiftOctets_spec (pre e pad : Bytes) :
    ∃ junk, shiftOctets pre.length (pad.length + 1) e.length (pre ++ 0 :: (e ++ pad)) =
        .ok (pre ++ junk ++ e) ∧ junk.length = pad.length + 1 := by
  obtain ⟨orig, horig⟩ : ∃ orig, orig = pre ++ 0 :: (e ++ pad) := ⟨_, rfl⟩
  have hlen : orig.length = pre.length + (pad.length + 1) + e.length := by
    rw [horig]
    simp
    omega
  have hread : ∀ d, d < e.length → orig[pre.length + 1 + d]? = e[d]? := by
    intro d hd
    rw [horig, List.getElem?_append_right (by omega),
      show pre.length + 1 + d - pre.length = d + 1 by omega, List.getElem?_cons_succ,
      List.getElem?_append_left hd]
  -- after `n` rounds the last `n` octets of the string are in place
  have hloop : ∀ n, n ≤ e.length → (List.range n).foldlM
      (fun dst i => do
        let b ← at' dst (pre.length + 1 + (e.length - (i + 1)))
        setAt dst (pre.length + (pad.length + 1) + (e.length - (i + 1))) b) orig =
      .ok (orig.take (pre.length + (pad.length + 1) + (e.length - n)) ++
        e.drop (e.length - n)) := by
    intro n
    induction n with
    | zero =>
        intro _
        rw [Nat.sub_zero, ← hlen, List.take_length, List.drop_length, List.append_nil]
        rfl
    | succ n ih =>
        intro hn
        obtain ⟨d, hd⟩ : ∃ d, e.length - (n + 1) = d := ⟨_, rfl⟩
        have hd' : e.length - n = d + 1 := by omega
        obtain ⟨b, hb⟩ : ∃ b, e[d]? = some b := ⟨_, List.getElem?_eq_getElem (by omega)⟩
        rw [foldlM_range_succ, ih (by omega), ok_bind, hd, hd']
        obtain ⟨y, hy⟩ : ∃ y, orig[pre.length + (pad.length + 1) + d]? = some y :=
          ⟨_, List.getElem?_eq_getElem (by omega)⟩
        have hcell : (orig.take (pre.length + (pad.length + 1) + (d + 1)) ++ e.drop (d + 1))[
            pre.length + 1 + d]? = some b := by
          rw [List.getElem?_append_left (by rw [List.length_take]; omega), List.getElem?_take,
            if_pos (by omega), hread d (by omega), hb]
        have htake : orig.take (pre.length + (pad.length + 1) + (d + 1)) =
            orig.take (pre.length + (pad.length + 1) + d) ++ [y] := by
          rw [show pre.length + (pad.length + 1) + (d + 1) =
            pre.length + (pad.length + 1) + d + 1 by omega, List.take_add_one, hy]
          rfl
        have hpos : (orig.take (pre.length + (pad.length + 1) + d)).length =
            pre.length + (pad.length + 1) + d := by
          rw [List.length_take]
          omega
        have hset := setAt_last (orig.take (pre.length + (pad.length + 1) + d)) y b
          (e.drop (d + 1))
        rw [hpos] at hset
        have hdrop : e.drop d = b :: e.drop (d + 1) := by
          obtain ⟨hlt, hget⟩ := List.getElem?_eq_some_iff.mp hb
          rw [List.drop_eq_getElem_cons hlt, hget]
        rw [at'_getElem? hcell, ok_bind, htake, List.append_assoc, List.singleton_append, hset,
          hdrop]
  refine ⟨(orig.take (pre.length + (pad.length + 1))).drop pre.length, ?_, ?_⟩
  · have hmain := hloop e.length (Nat.le_refl _)
    simp only [Nat.sub_self, Nat.add_zero, List.drop_zero] at hmain
    have hpre : (orig.take (pre.length + (pad.length + 1))).take pre.length = pre := by
      rw [List.take_take, Nat.min_eq_left (by omega), horig, List.take_left]
    rw [shiftOctets, ← horig, hmain]
    congr 2
    conv_lhs => rw [← List.take_append_drop pre.length (orig.take _), hpre]
  · rw [List.length_drop, List.length_take]
    omega

/-- The copying loop puts the head in place. -/
theorem copyHead_spec (pre head junk e : Bytes) (hlen : junk.length = head.length) :
    copyHead pre.length head (pre ++ junk ++ e) = .ok (pre ++ head ++ e) := by
  have hloop : ∀ n, n ≤ head.length → (List.range n).foldlM
      (fun dst i => do setAt dst (pre.length + i) (← at' head i)) (pre ++ junk ++ e) =
      .ok (pre ++ head.take n ++ (junk.drop n ++ e)) := by
    intro n
    induction n with
    | zero =>
        intro _
        simp
        rfl
    | succ n ih =>
        intro hn
        obtain ⟨b, hb⟩ : ∃ b, head[n]? = some b := ⟨_, List.getElem?_eq_getElem (by omega)⟩
        have hlt : n < junk.length := by omega
        rw [foldlM_range_succ, ih (by omega), ok_bind, at'_getElem? hb, ok_bind,
          List.drop_eq_getElem_cons hlt, List.cons_append]
        have hpos : (pre ++ head.take n).length = pre.length + n := by
          rw [List.length_append, List.length_take]
          omega
        have hset := setAt_last (pre ++ head.take n) junk[n] b (junk.drop (n + 1) ++ e)
        rw [hpos] at hset
        rw [hset, List.take_add_one, hb]
        simp
  have hmain := hloop head.length (Nat.le_refl _)
  rw [List.take_length, ← hlen, List.drop_length, List.nil_append] at hmain
  rw [copyHead, ← hlen]
  exact hmain

/-- `encode_str` appends the octets of the string to any buffer, unless the octets of its length
do not fit into the eight that are set aside for them. -/
theorem encodeStr_eq (s dst : Bytes) :
    encodeStr s dst =
      if s.isEmpty = false ∧ 8 < (encodeInt (Huffman.encoded s).length 7 0x80).length then
        .error .outOfBounds
      else .ok (dst ++ strOctets s) := by
  unfold encodeStr strOctets
  cases hempty : s.isEmpty with
  | true => simp
  | false =>
      simp only [Bool.false_eq_true, if_false, true_and]
      rw [Huffman.encode_eq, ok_bind]
      have hlen : (dst ++ [0] ++ Huffman.encoded s).length - (dst.length + 1) =
          (Huffman.encoded s).length := by
        simp
        omega
      simp only [hlen]
      generalize Huffman.encoded s = e at *
      rw [List.append_assoc, List.singleton_append]
      cases hone : encodeIntOneByte e.length 7 with
      | true =>
          simp only [if_true]
          rw [setAt_last, encodeInt, hone, if_pos rfl, if_neg (by simp)]
          rfl
      | false =>
          simp only [Bool.false_eq_true, if_false]
          have hhead : encodeInt e.length 7 0x80 = 0xff :: encodeIntTail (e.length - 127) := by
            rw [encodeInt, hone, if_neg (by simp)]
            rfl
          rw [insertHead]
          by_cases hlong : 8 < (encodeInt e.length 7 0x80).length
          · rw [if_pos hlong]
            simp only [hlong, if_true]
            rfl
          · rw [if_neg hlong, hhead]
            rw [hhead] at hlong
            simp only [List.drop_one, List.tail_cons, if_neg hlong]
            obtain ⟨junk, hshift, hjunk⟩ :=
              shiftOctets_spec dst e (encodeIntTail (e.length - 127))
            have hassoc : dst ++ 0 :: e ++ encodeIntTail (e.length - 127) =
                dst ++ 0 :: (e ++ encodeIntTail (e.length - 127)) := by simp
            rw [hassoc, List.length_cons, hshift]
            simp only [ok_bind]
            rw [copyHead_spec dst _ junk e (by rw [hjunk]; rfl)]
            simp

/-- The length of the string fits into the octets that are set aside for it. -/
def Writable (s : Bytes) : Prop := (Huffman.encoded s).length < 2 ^ 49

theorem encodeStr_writable {s : Bytes} (h : Writable s) (dst : Bytes) :
    encodeStr s dst = .ok (dst ++ strOctets s) := by
  rw [encodeStr_eq, if_neg]
  rintro ⟨-, hlong⟩
  unfold Writable at h
  have htail := encodeIntTail_length (v := (Huffman.encoded s).length - 127) 6 (by omega)
  rw [encodeInt] at hlong
  split at hlong
  · exact absurd hlong (by simp)
  · rw [List.length_cons] at hlong
    have hlow : (1 <<< 7) - 1 = 127 := rfl
    rw [hlow] at hlong
    omega

theorem Short.writable {s : Bytes} (h : Short s) : Writable s := Nat.lt_trans h (by decide)

theorem encodeStr_spec {s : Bytes} (hs : Short s) (dst : Bytes) :
    encodeStr s dst = .ok (dst ++ strOctets s) :=
  encodeStr_writable hs.writable dst

/-- The octets of a string are written, or there is no room for those of its length. -/
theorem encodeStr_cases (s dst : Bytes) :
    encodeStr s dst = .ok (dst ++ strOctets s) ∨ encodeStr s dst = .error .outOfBounds := by
  rw [encodeStr_eq]
  split
  · exact .inr rfl
  · exact .inl rfl

/-! ## Reading a string -/

theorem strOctets_ne_nil (s : Bytes) : strOctets s ≠ [] := by
  unfold strOctets
  split
  · simp
  · unfold encodeInt
    split <;> simp

theorem advance_of_chunk {c : Cursor} {l rest : Bytes} (h : c.chunk = l ++ rest) :
    Cursor.advance l.length c = .ok () (c.skip l.length) := by
  have hle : l.length ≤ c.remaining := by simp [Cursor.remaining, h]
  rw [Cursor.advance, if_pos hle]
  rfl

theorem pos_le_of_chunk {c : Cursor} (h : c.chunk ≠ []) : c.pos ≤ c.bytes.length := by
  by_contra hcon
  exact h (List.drop_eq_nil_of_le (by omega))

/-- A marker that stands for the string `s`, whose octets start at the cursor. -/
structure StringMarker.Marks (m : StringMarker) (s : Bytes) : Prop where
  length : m.offset + m.len = (strOctets s).length
  string : m.string = some s ∨ m.string = none ∧ s = [] ∧ m.len = 0

/-- Consuming a marker gives its string and leaves the octets behind it. -/
theorem StringMarker.Marks.consume {m : StringMarker} {s rest : Bytes} {c : Cursor}
    (h : m.Marks s) (hc : c.chunk = strOctets s ++ rest) :
    ∃ c', m.consume c = .ok s c' ∧ c'.chunk = rest ∧ (c'.pos ≤ c'.bytes.length) := by
  have hlen := h.length
  have hsplit : strOctets s = (strOctets s).take m.offset ++ (strOctets s).drop m.offset :=
    (List.take_append_drop _ _).symm
  have htake : ((strOctets s).take m.offset).length = m.offset := by
    rw [List.length_take]
    omega
  have hdrop : ((strOctets s).drop m.offset).length = m.len := by
    rw [List.length_drop]
    omega
  have hc' : c.chunk = (strOctets s).take m.offset ++ ((strOctets s).drop m.offset ++ rest) := by
    rw [hc, ← List.append_assoc, List.take_append_drop]
  have hadv := advance_of_chunk hc'
  have hskip := Cursor.skip_chunk hc'
  rw [htake] at hadv hskip
  have hne : c.chunk ≠ [] := by
    rw [hc]
    simp [strOctets_ne_nil]
  have hpos := pos_le_of_chunk hne
  have hlenc : c.bytes.length = c.pos + (strOctets s).length + rest.length := by
    have := congrArg List.length hc
    rw [Cursor.chunk, List.length_drop, List.length_append] at this
    omega
  rw [StringMarker.consume, bind_of_ok hadv]
  rcases h.string with hstr | ⟨hstr, rfl, hlen0⟩
  · have hadv' := advance_of_chunk hskip
    rw [hdrop] at hadv'
    refine ⟨(c.skip m.offset).skip m.len, ?_, ?_, ?_⟩
    · simp only [hstr]
      rw [bind_of_ok hadv']
      rfl
    · have := Cursor.skip_chunk hskip
      rwa [hdrop] at this
    · simp only [Cursor.skip]
      omega
  · have hnil : (strOctets ([] : Bytes)).drop m.offset = [] :=
      List.length_eq_zero_iff.mp (by rw [hdrop, hlen0])
    rw [hnil, List.nil_append] at hskip
    refine ⟨⟨rest, 0⟩, ?_, rfl, Nat.zero_le _⟩
    simp only [hstr, hlen0]
    rw [Cursor.take, if_pos ⟨by simp only [Cursor.skip]; omega, Nat.zero_le _⟩, hskip]
    simp

theorem encodeInt_head (v p : Nat) (first : UInt8) :
    ∃ b l, encodeInt v p first = (first ||| b) :: l := by
  unfold encodeInt
  split
  · exact ⟨_, _, rfl⟩
  · exact ⟨_, _, rfl⟩

/-- The marker that `try_decode_string` makes of the string `s` while `b` is in the scratch
buffer. -/
def markerOf (b s : Bytes) : StringMarker :=
  if s.isEmpty then ⟨1, 0, none⟩
  else ⟨(encodeInt (Huffman.encoded s).length 7 0x80).length, (Huffman.encoded s).length,
    some (b ++ s)⟩

theorem marks_markerOf (s : Bytes) : (markerOf [] s).Marks s := by
  unfold markerOf
  cases hempty : s.isEmpty with
  | true =>
      have hnil : s = [] := by simpa using hempty
      refine ⟨?_, .inr ⟨rfl, hnil, rfl⟩⟩
      rw [hnil]
      rfl
  | false =>
      refine ⟨?_, .inl rfl⟩
      simp only [Bool.false_eq_true, if_false, strOctets, hempty, List.length_append]

/-- `try_decode_string` reads what `encode_str` wrote, behind what is in the scratch buffer. -/
theorem tryDecodeString_scratch {st : DecodeState S} {s rest : Bytes} (hs : Short s)
    (hc : st.buf.chunk = strOctets s ++ rest) :
    (Decode.tryDecodeString : Decode S StringMarker) st =
      .ok (markerOf st.decoder.buffer s)
        { st with
          decoder :=
            { st.decoder with buffer := if s.isEmpty then st.decoder.buffer else [] }
          buf := st.buf.skip (strOctets s).length } := by
  rw [Decode.tryDecodeString, get_bind, get_bind]
  cases hempty : s.isEmpty with
  | true =>
      have hoct : strOctets s = [0] := by simp [strOctets, hempty]
      rw [hoct, List.singleton_append] at hc
      have hpeek : peekU8 st.buf = some 0 := by rw [peekU8, hc]; rfl
      have hint : decodeInt 7 st.buf = .ok 0 (st.buf.skip 1) :=
        @decodeInt_spec 7 0 0 _ _ (by omega) (by omega) rfl (by omega) hc
      have hadv : Cursor.advance 0 (st.buf.skip 1) = .ok () (st.buf.skip 1) := by
        rw [Cursor.advance, if_pos (Nat.zero_le _)]
        rfl
      have hoffset : (st.buf.skip 1).pos - st.buf.pos = 1 := Nat.add_sub_cancel_left _ _
      simp only [hpeek]
      rw [bind_of_ok (onBuf_of_ok hint), get_bind]
      simp only [Nat.not_lt_zero, gt_iff_lt, if_false]
      rw [get_bind]
      simp only [show ¬ ((0 : UInt8) &&& 0b10000000 = 0b10000000) by decide, if_false]
      rw [bind_of_ok (onBuf_of_ok hadv), hoct, hoffset, markerOf, hempty]
      rfl
  | false =>
      have hoct : strOctets s =
          encodeInt (Huffman.encoded s).length 7 0x80 ++ Huffman.encoded s := by
        simp [strOctets, hempty]
      obtain ⟨b, l, hhead⟩ := encodeInt_head (Huffman.encoded s).length 7 0x80
      have hpeek : peekU8 st.buf = some (0x80 ||| b) := by
        rw [peekU8, hc, hoct, hhead]
        rfl
      have hflag : (0x80 ||| b) &&& 0b10000000 = (0b10000000 : UInt8) := by
        have h1 : ∀ b : UInt8, (0x80 ||| b) &&& 0b10000000 = (0b10000000 : UInt8) :=
          forall_octet (by decide +kernel)
        exact h1 b
      have hc' : st.buf.chunk = encodeInt (Huffman.encoded s).length 7 0x80 ++
          (Huffman.encoded s ++ rest) := by
        rw [hc, hoct, List.append_assoc]
      have hint := decodeInt_spec (by omega) (by omega) (show (0x80 : UInt8).toNat % 2 ^ 7 = 0 by
        decide) (show (Huffman.encoded s).length < 2 ^ 28 + 2 ^ 7 - 1 by
          unfold Short at hs; omega) hc'
      have hskip := Cursor.skip_chunk hc'
      have hrem : ¬ (Huffman.encoded s).length >
          (st.buf.skip (encodeInt (Huffman.encoded s).length 7 0x80).length).remaining := by
        simp [Cursor.remaining, hskip]
      have hadv := advance_of_chunk hskip
      have hoffset : (st.buf.skip (encodeInt (Huffman.encoded s).length 7 0x80).length).pos -
          st.buf.pos = (encodeInt (Huffman.encoded s).length 7 0x80).length :=
        Nat.add_sub_cancel_left _ _
      simp only [hpeek]
      rw [bind_of_ok (onBuf_of_ok hint), get_bind]
      simp only [hrem, if_false]
      rw [get_bind]
      simp only [hflag, if_true]
      rw [Decode.huffmanString]
      simp only [hskip, List.take_left, Huffman.decode_encoded]
      rw [onBuf_of_ok (S := S) hadv]
      simp only [Cursor.skip_skip]
      rw [hoct, List.length_append, hoffset, markerOf, hempty]
      rfl

/-- `try_decode_string` reads what `encode_str` wrote; only the cursor moves. -/
theorem tryDecodeString_spec {st : DecodeState S} {s rest : Bytes} (hs : Short s)
    (hbuf : st.decoder.buffer = []) (hc : st.buf.chunk = strOctets s ++ rest) :
    ∃ m : StringMarker, m.Marks s ∧ (Decode.tryDecodeString : Decode S StringMarker) st =
      .ok m { st with buf := st.buf.skip (strOctets s).length } := by
  refine ⟨markerOf [] s, marks_markerOf s, ?_⟩
  rw [tryDecodeString_scratch hs hc, hbuf, ite_self, ← hbuf]

end NtexH2.Hpack
