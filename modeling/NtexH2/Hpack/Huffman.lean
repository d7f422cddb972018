/-
  Hpack/Huffman.lean --- Huffman coding of strings (src/hpack/huffman/mod.rs).

  The encoder collects code words in a 40 bit window of a 64 bit word and writes
  out whole octets; the decoder runs the generated table over half octets.  The
  table is checked entry by entry against the code words: every state stands for
  the bits read since the last decoded octet (`statePath`).  The rest is the
  theory of `Lib.PrefixCode`.
-/
import NtexH2.Lib.PrefixCode
import NtexH2.Hpack.Header
import NtexH2.Hpack.HuffmanTable

set_option autoImplicit false

namespace NtexH2.Hpack

/-- How decoding can end early: with an error, or with a panic. -/
inductive Fault where
  | err (e : DecoderError)
  | panic (p : Panic)
  deriving DecidableEq, Repr

namespace Huffman

open Lib.PrefixCode

/-! ## Decoding -/

/-- `Decoder`. -/
structure Decoder where
  state : Nat
  maybeEos : Bool
  deriving DecidableEq, Repr

/-- `Decoder::new`. -/
def Decoder.new : Decoder := ⟨0, false⟩

/-- `Decoder::decode4`: decodes four bits.  The flags are `MAYBE_EOS` (1),
`DECODED` (2) and `ERROR` (4). -/
def Decoder.decode4 (d : Decoder) (input : Nat) : Except Fault (Decoder × Option UInt8) :=
  match (decodeTable[d.state]?).bind (·[input]?) with
  | none => .error (.panic .outOfBounds)
  | some (next, byte, flags) =>
      if flags &&& 4 = 4 then .error (.err .invalidHuffmanCode)
      else .ok (⟨next, flags &&& 1 == 1⟩, if flags &&& 2 = 2 then some byte.toUInt8 else none)

/-- `Decoder::is_final`. -/
def Decoder.isFinal (d : Decoder) : Bool := d.state == 0 || d.maybeEos

/-- The loop of `decode`; decoded octets go to the end of `buf`. -/
def decodeLoop : Bytes → Decoder → Bytes → Except Fault Decoder × Bytes
  | [], d, buf => (.ok d, buf)
  | b :: src, d, buf =>
      match d.decode4 (b >>> 4).toNat with
      | .error e => (.error e, buf)
      | .ok (d, hi) =>
          match d.decode4 (b &&& 0xf).toNat with
          | .error e => (.error e, buf ++ hi.toList)
          | .ok (d, lo) => decodeLoop src d (buf ++ hi.toList ++ lo.toList)

/-- `decode`: the result and what is left in `buf`.  On success `buf` is taken as
a whole, on an error it keeps what was decoded so far. -/
def decode (src buf : Bytes) : Except Fault Bytes × Bytes :=
  match decodeLoop src .new buf with
  | (.error e, buf) => (.error e, buf)
  | (.ok d, buf) =>
      if d.isFinal then (.ok buf, []) else (.error (.err .invalidHuffmanCode), buf)

/-! ## Encoding -/

/-- The inner loop of `encode`: writes whole octets out of the window. -/
def flush : Nat → Nat → Nat → Bytes → Except Panic (Nat × Nat × Bytes)
  | 0, _, _, _ => .error .endless
  | fuel + 1, bits, left, dst =>
      if left ≤ 32 then
        flush fuel ((bits <<< 8) % 2 ^ 64) (left + 8) (dst ++ [(bits >>> 32).toUInt8])
      else .ok (bits, left, dst)

/-- The loop of `encode`. -/
def encodeLoop : Bytes → Nat → Nat → Bytes → Except Panic (Nat × Nat × Bytes)
  | [], bits, left, dst => .ok (bits, left, dst)
  | b :: src, bits, left, dst => do
      let (nbits, code) ← at' encodeTable b.toNat
      if left < nbits then throw .underflow
      let (bits, left, dst) ←
        flush 6 (bits ||| (code <<< (left - nbits)) % 2 ^ 64) (left - nbits) dst
      encodeLoop src bits left dst

/-- `encode`. -/
def encode (src dst : Bytes) : Except Panic Bytes := do
  let (bits, left, dst) ← encodeLoop src 0 40 dst
  if left ≠ 40 then return dst ++ [((bits ||| ((1 <<< left) - 1)) >>> 32).toUInt8]
  else return dst

/-! ## The tables -/

/-- The code word of an octet. -/
def code (b : UInt8) : List Bool :=
  match encodeTable[b.toNat]? with
  | some (n, v) => bits n v
  | none => []

/-- The bits of an octet string. -/
def octetBits (s : Bytes) : List Bool := s.flatMap fun b => bits 8 b.toNat

/-- The end-of-string symbol. -/
def eos : List Bool := List.replicate 30 true

/-- The bits each decoder state stands for: their number and their value. -/
def statePath : List (Nat × Nat) :=
  [(0, 0x0), (1, 0x0), (2, 0x0), (3, 0x0), (4, 0x0), (4, 0x1), (3, 0x1), (4, 0x2), (4, 0x3),
   (2, 0x1), (3, 0x2), (4, 0x4), (4, 0x5), (5, 0xa), (5, 0xb), (3, 0x3), (4, 0x6), (5, 0xc),
   (5, 0xd), (4, 0x7), (5, 0xe), (5, 0xf), (1, 0x1), (2, 0x2), (3, 0x4), (4, 0x8), (5, 0x10),
   (5, 0x11), (4, 0x9), (5, 0x12), (5, 0x13), (3, 0x5), (4, 0xa), (5, 0x14), (5, 0x15), (4, 0xb),
   (5, 0x16), (5, 0x17), (6, 0x2e), (6, 0x2f), (2, 0x3), (3, 0x6), (4, 0xc), (5, 0x18), (6, 0x30),
   (6, 0x31), (5, 0x19), (6, 0x32), (6, 0x33), (4, 0xd), (5, 0x1a), (6, 0x34), (6, 0x35),
   (5, 0x1b), (6, 0x36), (6, 0x37), (3, 0x7), (4, 0xe), (5, 0x1c), (6, 0x38), (6, 0x39),
   (5, 0x1d), (6, 0x3a), (6, 0x3b), (4, 0xf), (5, 0x1e), (6, 0x3c), (6, 0x3d), (5, 0x1f),
   (6, 0x3e), (7, 0x7c), (7, 0x7d), (6, 0x3f), (7, 0x7e), (7, 0x7f), (8, 0xfe), (9, 0x1fc),
   (9, 0x1fd), (8, 0xff), (9, 0x1fe), (10, 0x3fd), (9, 0x1ff), (10, 0x3fe), (11, 0x7fd),
   (10, 0x3ff), (11, 0x7fe), (12, 0xffc), (12, 0xffd), (11, 0x7ff), (12, 0xffe), (12, 0xfff),
   (13, 0x1ffe), (13, 0x1fff), (14, 0x3ffe), (14, 0x3fff), (15, 0x7fff), (16, 0xfffe),
   (17, 0x1fffc), (18, 0x3fff8), (18, 0x3fff9), (19, 0x7fff3), (17, 0x1fffd), (18, 0x3fffa),
   (19, 0x7fff4), (19, 0x7fff5), (18, 0x3fffb), (19, 0x7fff6), (19, 0x7fff7), (20, 0xfffee),
   (20, 0xfffef), (16, 0xffff), (17, 0x1fffe), (18, 0x3fffc), (19, 0x7fff8), (20, 0xffff0),
   (20, 0xffff1), (19, 0x7fff9), (20, 0xffff2), (20, 0xffff3), (18, 0x3fffd), (19, 0x7fffa),
   (20, 0xffff4), (21, 0x1fffe9), (20, 0xffff5), (21, 0x1fffea), (21, 0x1fffeb), (19, 0x7fffb),
   (20, 0xffff6), (21, 0x1fffec), (21, 0x1fffed), (20, 0xffff7), (21, 0x1fffee), (21, 0x1fffef),
   (17, 0x1ffff), (18, 0x3fffe), (19, 0x7fffc), (20, 0xffff8), (21, 0x1ffff0), (21, 0x1ffff1),
   (20, 0xffff9), (21, 0x1ffff2), (21, 0x1ffff3), (19, 0x7fffd), (20, 0xffffa), (21, 0x1ffff4),
   (21, 0x1ffff5), (20, 0xffffb), (21, 0x1ffff6), (22, 0x3fffec), (22, 0x3fffed), (21, 0x1ffff7),
   (22, 0x3fffee), (22, 0x3fffef), (18, 0x3ffff), (19, 0x7fffe), (20, 0xffffc), (21, 0x1ffff8),
   (22, 0x3ffff0), (22, 0x3ffff1), (21, 0x1ffff9), (22, 0x3ffff2), (22, 0x3ffff3), (20, 0xffffd),
   (21, 0x1ffffa), (22, 0x3ffff4), (22, 0x3ffff5), (21, 0x1ffffb), (22, 0x3ffff6), (22, 0x3ffff7),
   (19, 0x7ffff), (20, 0xffffe), (21, 0x1ffffc), (22, 0x3ffff8), (22, 0x3ffff9), (21, 0x1ffffd),
   (22, 0x3ffffa), (23, 0x7ffff5), (22, 0x3ffffb), (23, 0x7ffff6), (23, 0x7ffff7), (20, 0xfffff),
   (21, 0x1ffffe), (22, 0x3ffffc), (23, 0x7ffff8), (23, 0x7ffff9), (22, 0x3ffffd), (23, 0x7ffffa),
   (23, 0x7ffffb), (24, 0xfffff6), (24, 0xfffff7), (21, 0x1fffff), (22, 0x3ffffe), (23, 0x7ffffc),
   (24, 0xfffff8), (25, 0x1fffff0), (25, 0x1fffff1), (24, 0xfffff9), (25, 0x1fffff2),
   (25, 0x1fffff3), (23, 0x7ffffd), (24, 0xfffffa), (25, 0x1fffff4), (25, 0x1fffff5),
   (24, 0xfffffb), (25, 0x1fffff6), (25, 0x1fffff7), (26, 0x3ffffef), (22, 0x3fffff),
   (23, 0x7ffffe), (24, 0xfffffc), (25, 0x1fffff8), (26, 0x3fffff0), (26, 0x3fffff1),
   (25, 0x1fffff9), (26, 0x3fffff2), (26, 0x3fffff3), (24, 0xfffffd), (25, 0x1fffffa),
   (26, 0x3fffff4), (26, 0x3fffff5), (25, 0x1fffffb), (26, 0x3fffff6), (26, 0x3fffff7),
   (23, 0x7fffff), (24, 0xfffffe), (25, 0x1fffffc), (26, 0x3fffff8), (27, 0x7fffff1),
   (26, 0x3fffff9), (27, 0x7fffff2), (27, 0x7fffff3), (25, 0x1fffffd), (26, 0x3fffffa),
   (27, 0x7fffff4), (27, 0x7fffff5), (26, 0x3fffffb), (27, 0x7fffff6), (27, 0x7fffff7),
   (24, 0xffffff), (25, 0x1fffffe), (26, 0x3fffffc), (27, 0x7fffff8), (27, 0x7fffff9),
   (26, 0x3fffffd), (27, 0x7fffffa), (27, 0x7fffffb), (25, 0x1ffffff), (26, 0x3fffffe),
   (27, 0x7fffffc), (27, 0x7fffffd), (26, 0x3ffffff), (27, 0x7fffffe), (27, 0x7ffffff),
   (28, 0xfffffff), (29, 0x1ffffffe), (29, 0x1fffffff)]

/-- The bits a decoder state stands for. -/
def path (d : Decoder) : List Bool :=
  match statePath[d.state]? with
  | some (n, v) => bits n v
  | none => []

/-- No code word of the list is a prefix of another one. -/
def apart (n v : Nat) : List (Nat × Nat) → Bool
  | [] => true
  | (m, w) :: l =>
      match isPrefix n v m w || isPrefix m w n v with
      | true => false
      | false => apart n v l

/-- No two code words of the list are prefixes of each other. -/
def allApart : List (Nat × Nat) → Bool
  | [] => true
  | (n, v) :: l => apart n v l && allApart l

/-- The entry for state path `(n, v)` and input `i` is what the code words say: it
is an error exactly when the end-of-string symbol was read, otherwise the path
and the input are the decoded word, if any, and the path of the next state, and
the state is final exactly when its path is fewer than eight ones. -/
def entryOk (n v i : Nat) (e : Nat × Nat × Nat) : Bool :=
  match e.2.2 &&& 4 == 4 with
  | true => Nat.ble 30 (n + 4) && (v * 16 + i) / 2 ^ (n + 4 - 30) == 2 ^ 30 - 1
  | false =>
      match statePath[e.1]? with
      | none => false
      | some (n', v') =>
          (e.1 == 0 || e.2.2 &&& 1 == 1) == (Nat.ble n' 7 && v' == 2 ^ n' - 1) &&
          match e.2.2 &&& 2 == 2 with
          | false => n + 4 == n' && v * 16 + i == v'
          | true =>
              match encodeTable[e.2.1]? with
              | none => false
              | some (m, w) => Nat.ble e.2.1 255 && n + 4 == m + n' &&
                  v * 16 + i == 2 ^ n' * w + v'

/-- A row of the table, from input `i` on. -/
def rowOk (n v : Nat) : Nat → List (Nat × Nat × Nat) → Bool
  | i, [] => i == 16
  | i, e :: es => entryOk n v i e && rowOk n v (i + 1) es

/-- The rows of the table, with the paths of their states. -/
def rowsOk : List (Nat × Nat) → List (List (Nat × Nat × Nat)) → Bool
  | [], [] => true
  | (n, v) :: ps, r :: rs => Nat.blt v (2 ^ n) && rowOk n v 0 r && rowsOk ps rs
  | _, _ => false

/-- Some code word of the list goes on behind the bits `(n, v)`. -/
def goesOn (n v : Nat) : List (Nat × Nat) → Bool
  | [] => false
  | (m, w) :: l =>
      match Nat.blt n m && isPrefix n v m w with
      | true => true
      | false => goesOn n v l

/-- Every state's path is a proper part of a code word. -/
def innerOk : List (Nat × Nat) → Bool
  | [] => true
  | (n, v) :: ps => goesOn n v encodeTable && innerOk ps

theorem rows_checked : rowsOk statePath decodeTable = true := by decide +kernel

theorem words_apart : allApart encodeTable = true := by decide +kernel

theorem paths_inner : innerOk statePath = true := by decide +kernel

theorem words_bounded :
    (encodeTable.all fun c => Nat.ble 5 c.1 && Nat.ble c.1 30 && Nat.blt c.2 (2 ^ c.1)) = true := by
  decide +kernel

/-! ## What the checks say -/

theorem apart_spec {n v : Nat} {l : List (Nat × Nat)} (h : apart n v l = true) :
    ∀ c ∈ l, isPrefix n v c.1 c.2 = false ∧ isPrefix c.1 c.2 n v = false := by
  induction l with
  | nil => intro c hc; cases hc
  | cons a l ih =>
      obtain ⟨m, w⟩ := a
      rw [apart] at h
      cases hp : isPrefix n v m w || isPrefix m w n v with
      | true => rw [hp] at h; cases h
      | false =>
          rw [hp] at h
          intro c hc
          rcases List.mem_cons.mp hc with rfl | hc
          · simpa using hp
          · exact ih h c hc

theorem allApart_spec {l : List (Nat × Nat)} (h : allApart l = true) :
    ∀ (i j : Nat) (a b : Nat × Nat), l[i]? = some a → l[j]? = some b → i ≠ j →
      isPrefix a.1 a.2 b.1 b.2 = false := by
  induction l with
  | nil => intro i j a b ha; cases ha
  | cons c l ih =>
      obtain ⟨n, v⟩ := c
      rw [allApart, Bool.and_eq_true] at h
      have hfirst := apart_spec h.1
      intro i j a b ha hb hij
      cases i with
      | zero =>
          cases j with
          | zero => exact absurd rfl hij
          | succ j =>
              simp only [List.getElem?_cons_zero, Option.some.injEq] at ha
              subst ha
              exact (hfirst b (List.mem_of_getElem? (by simpa using hb))).1
      | succ i =>
          cases j with
          | zero =>
              simp only [List.getElem?_cons_zero, Option.some.injEq] at hb
              subst hb
              exact (hfirst a (List.mem_of_getElem? (by simpa using ha))).2
          | succ j => exact ih h.2 i j a b (by simpa using ha) (by simpa using hb) (by omega)

/-- The word of an octet, in the table. -/
theorem code_entry (b : UInt8) :
    ∃ n v, encodeTable[b.toNat]? = some (n, v) ∧ code b = bits n v ∧ 5 ≤ n ∧ n ≤ 30 ∧
      v < 2 ^ n := by
  have hlen : encodeTable.length = 257 := by decide +kernel
  have hlt : b.toNat < encodeTable.length := by
    have := b.toNat_lt
    omega
  obtain ⟨c, hc⟩ : ∃ c, encodeTable[b.toNat]? = some c := ⟨_, List.getElem?_eq_getElem hlt⟩
  have hbound := List.all_eq_true.mp words_bounded c (List.mem_of_getElem? hc)
  simp only [Bool.and_eq_true, Nat.ble_eq, Nat.blt_eq] at hbound
  exact ⟨c.1, c.2, hc, by rw [code, hc], hbound.1.1, hbound.1.2, hbound.2⟩

theorem eos_eq : eos = bits 30 (2 ^ 30 - 1) := (bits_ones 30).symm

theorem eos_entry : encodeTable[256]? = some (30, 2 ^ 30 - 1) := by decide

theorem words_prefixFree : PrefixFree code eos := by
  refine ⟨?_, ?_, ?_⟩
  · intro a b hab
    obtain ⟨n, v, ha, hca, _, _, hv⟩ := code_entry a
    obtain ⟨m, w, hb, hcb, _, _, hw⟩ := code_entry b
    rw [hca, hcb] at hab
    by_contra hne
    have hidx : a.toNat ≠ b.toNat := fun h => hne (UInt8.toNat_inj.mp h)
    have := allApart_spec words_apart _ _ _ _ ha hb hidx
    rw [isPrefix_of_isPrefix hv hw hab] at this
    cases this
  · intro a ha'
    obtain ⟨n, v, ha, hca, _, _, hv⟩ := code_entry a
    have hidx : a.toNat ≠ 256 := by have := a.toNat_lt; omega
    have := allApart_spec words_apart _ _ _ _ ha eos_entry hidx
    rw [hca, eos_eq] at ha'
    rw [isPrefix_of_isPrefix hv (by decide) ha'] at this
    cases this
  · intro a ha'
    obtain ⟨n, v, ha, hca, _, _, hv⟩ := code_entry a
    have hidx : 256 ≠ a.toNat := by have := a.toNat_lt; omega
    have := allApart_spec words_apart _ _ _ _ eos_entry ha hidx
    rw [hca, eos_eq] at ha'
    rw [isPrefix_of_isPrefix (by decide) hv ha'] at this
    cases this

/-- Fewer than eight ones start no code word. -/
theorem code_not_prefix_pad {m : Nat} (hm : m < 8) (a : UInt8) :
    ¬ code a <+: List.replicate m true := by
  intro h
  refine words_prefixFree.not_stop a (h.trans ?_)
  refine ⟨List.replicate (30 - m) true, ?_⟩
  rw [List.replicate_append_replicate, show m + (30 - m) = 30 by omega]
  rfl

theorem goesOn_spec {n v : Nat} {l : List (Nat × Nat)} (h : goesOn n v l = true) :
    ∃ c ∈ l, n < c.1 ∧ isPrefix n v c.1 c.2 = true := by
  induction l with
  | nil => cases h
  | cons a l ih =>
      obtain ⟨m, w⟩ := a
      rw [goesOn] at h
      cases hp : Nat.blt n m && isPrefix n v m w with
      | true =>
          rw [Bool.and_eq_true, Nat.blt_eq] at hp
          exact ⟨(m, w), List.mem_cons_self, hp⟩
      | false =>
          rw [hp] at h
          obtain ⟨c, hc, hrest⟩ := ih h
          exact ⟨c, List.mem_cons_of_mem _ hc, hrest⟩

theorem innerOk_spec {l : List (Nat × Nat)} (h : innerOk l = true) :
    ∀ p ∈ l, goesOn p.1 p.2 encodeTable = true := by
  induction l with
  | nil => intro p hp; cases hp
  | cons a l ih =>
      obtain ⟨n, v⟩ := a
      rw [innerOk, Bool.and_eq_true] at h
      intro p hp
      rcases List.mem_cons.mp hp with rfl | hp
      · exact h.1
      · exact ih h.2 p hp

theorem rowOk_spec {n v : Nat} {es : List (Nat × Nat × Nat)} :
    ∀ {i : Nat}, rowOk n v i es = true → es.length + i = 16 ∧
      ∀ (j : Nat) (e : Nat × Nat × Nat), es[j]? = some e → entryOk n v (i + j) e = true := by
  induction es with
  | nil =>
      intro i h
      rw [rowOk, beq_iff_eq] at h
      exact ⟨by simpa using h, fun j e he => by cases he⟩
  | cons a es ih =>
      intro i h
      rw [rowOk, Bool.and_eq_true] at h
      obtain ⟨hlen, hrest⟩ := ih h.2
      refine ⟨by rw [List.length_cons]; omega, ?_⟩
      intro j e he
      cases j with
      | zero =>
          simp only [List.getElem?_cons_zero, Option.some.injEq] at he
          subst he
          exact h.1
      | succ j =>
          have := hrest j e (by simpa using he)
          rwa [show i + 1 + j = i + (j + 1) by omega] at this

theorem rowsOk_spec {ps : List (Nat × Nat)} {rs : List (List (Nat × Nat × Nat))}
    (h : rowsOk ps rs = true) :
    ∀ (q : Nat) (p : Nat × Nat), ps[q]? = some p →
      p.2 < 2 ^ p.1 ∧ ∃ row, rs[q]? = some row ∧ rowOk p.1 p.2 0 row = true := by
  induction ps generalizing rs with
  | nil => intro q p hp; cases hp
  | cons a ps ih =>
      obtain ⟨n, v⟩ := a
      cases rs with
      | nil => cases h
      | cons r rs =>
          rw [rowsOk, Bool.and_eq_true, Bool.and_eq_true, Nat.blt_eq] at h
          intro q p hp
          cases q with
          | zero =>
              simp only [List.getElem?_cons_zero, Option.some.injEq] at hp
              subst hp
              exact ⟨h.1.1, r, rfl, h.1.2⟩
          | succ q =>
              obtain ⟨hlt, row, hrow, hok⟩ := ih h.2 q p (by simpa using hp)
              exact ⟨hlt, row, by simpa using hrow, hok⟩

end Huffman

end NtexH2.Hpack
