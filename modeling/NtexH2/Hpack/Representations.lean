/-
  Hpack/Representations.lean --- every representation is read back.

  For each of the forms in which the encoder writes a header, or a table size:
  the octets it writes, and what the decoder does when it meets them.
-/
import NtexH2.Hpack.Primitives
import NtexH2.Hpack.TableRefinement

set_option autoImplicit false

namespace NtexH2.Hpack

open Lib.Fifo

variable {S : HttpSyntax}

/-! ## The static tables -/

theorem getStatic_field {n : Nat} (h : 15 ≤ n ∧ n - 15 < standardNames.length) (hne : n ≠ 16) :
    getStatic S n =
      .ok (staticField S (getElem standardNames (n - 15) h.2) "" (List.getElem_mem h.2)
        empty_mem) := by
  unfold getStatic
  split
  all_goals first
    | omega
    | exact dif_pos h

/-- The two static tables agree: the index of a name leads to that name, and the
index of a full match to the header. -/
theorem getStatic_indexStatic {h : Named S} {n : Nat} {b : Bool}
    (hs : indexStatic h = some (n, b)) :
    1 ≤ n ∧ n ≤ 61 ∧ ∃ e, getStatic S n = .ok e ∧ e.name = h.name ∧
      (b = true → e = h.unmarked) := by
  cases h with
  | field name value =>
      simp only [indexStatic] at hs
      cases hfind : staticFields.find? fun p => name.bytes == octets p.1 with
      | none => rw [hfind] at hs; cases hs
      | some p =>
          obtain ⟨s, m⟩ := p
          rw [hfind] at hs
          simp only [Option.some.injEq, Prod.mk.injEq] at hs
          obtain ⟨rfl, rfl⟩ := hs
          have hmem := List.mem_of_find?_eq_some hfind
          have hname : name.bytes = octets s := by simpa using List.find?_some hfind
          have hall : ∀ p ∈ staticFields, 15 ≤ p.2 ∧ p.2 ≤ 61 ∧
              standardNames[p.2 - 15]? = some p.1 := by decide +kernel
          obtain ⟨h15, h61, hget⟩ := hall _ hmem
          simp only at h15 h61 hget
          obtain ⟨hlt, hstd⟩ := List.getElem?_eq_some_iff.mp hget
          refine ⟨by omega, h61, ?_⟩
          obtain ⟨nb, hnok⟩ := name
          obtain ⟨vb, vs, hvok⟩ := value
          simp only at hname
          subst hname
          by_cases h16 : m = 16
          · subst h16
            have hs16 : s = "accept-encoding" := by
              rw [← hstd]
              rfl
            subst hs16
            refine ⟨_, rfl, rfl, ?_⟩
            intro hfull
            simp only [BEq.rfl, Bool.true_and, beq_iff_eq] at hfull
            subst hfull
            rfl
          · refine ⟨_, getStatic_field ⟨h15, hlt⟩ h16, ?_, ?_⟩
            · simp only [staticField, Header.name, hstd]
            · intro hfull
              simp [h16] at hfull
  | authority v =>
      simp only [indexStatic, Option.some.injEq, Prod.mk.injEq] at hs
      obtain ⟨rfl, rfl⟩ := hs
      exact ⟨by omega, by omega, _, rfl, rfl, fun h => by cases h⟩
  | protocol v => cases hs
  | method v =>
      obtain ⟨vb, hv⟩ := v
      simp only [indexStatic] at hs
      split_ifs at hs with h1 h2
      all_goals
        simp only [Option.some.injEq, Prod.mk.injEq] at hs
        obtain ⟨rfl, rfl⟩ := hs
      · subst h1
        exact ⟨by omega, by omega, _, rfl, rfl, fun _ => rfl⟩
      · subst h2
        exact ⟨by omega, by omega, _, rfl, rfl, fun _ => rfl⟩
      · exact ⟨by omega, by omega, _, rfl, rfl, fun h => by cases h⟩
  | scheme v =>
      obtain ⟨vb, hv⟩ := v
      simp only [indexStatic] at hs
      split_ifs at hs with h1 h2
      all_goals
        simp only [Option.some.injEq, Prod.mk.injEq] at hs
        obtain ⟨rfl, rfl⟩ := hs
      · subst h1
        exact ⟨by omega, by omega, _, rfl, rfl, fun _ => rfl⟩
      · subst h2
        exact ⟨by omega, by omega, _, rfl, rfl, fun _ => rfl⟩
      · exact ⟨by omega, by omega, _, rfl, rfl, fun h => by cases h⟩
  | path v =>
      obtain ⟨vb, hv⟩ := v
      simp only [indexStatic] at hs
      split_ifs at hs with h1 h2
      all_goals
        simp only [Option.some.injEq, Prod.mk.injEq] at hs
        obtain ⟨rfl, rfl⟩ := hs
      · subst h1
        exact ⟨by omega, by omega, _, rfl, rfl, fun _ => rfl⟩
      · subst h2
        exact ⟨by omega, by omega, _, rfl, rfl, fun _ => rfl⟩
      · exact ⟨by omega, by omega, _, rfl, rfl, fun h => by cases h⟩
  | status v =>
      obtain ⟨code, hge, hlt⟩ := v
      simp only [indexStatic] at hs
      split at hs
      all_goals
        simp only [Option.some.injEq, Prod.mk.injEq] at hs
        obtain ⟨rfl, rfl⟩ := hs
      · exact ⟨by omega, by omega, _, rfl, rfl, fun _ => rfl⟩
      · exact ⟨by omega, by omega, _, rfl, rfl, fun _ => rfl⟩
      · exact ⟨by omega, by omega, _, rfl, rfl, fun _ => rfl⟩
      · exact ⟨by omega, by omega, _, rfl, rfl, fun _ => rfl⟩
      · exact ⟨by omega, by omega, _, rfl, rfl, fun _ => rfl⟩
      · exact ⟨by omega, by omega, _, rfl, rfl, fun _ => rfl⟩
      · exact ⟨by omega, by omega, _, rfl, rfl, fun _ => rfl⟩
      · exact ⟨by omega, by omega, _, rfl, rfl, fun h => by cases h⟩

/-! ## Lookup -/

/-- Index `n` leads to the header `e`, in a table with the entries `l`. -/
def LooksUp (l : List (Named S)) (n : Nat) (e : Named S) : Prop :=
  1 ≤ n ∧ n ≤ 61 + l.length ∧
    ∀ size maxSize, DecoderTable.get ⟨l, size, maxSize⟩ n = .ok e

theorem looksUp_static {l : List (Named S)} {n : Nat} {e : Named S} (h1 : 1 ≤ n) (h61 : n ≤ 61)
    (h : getStatic S n = .ok e) : LooksUp l n e := by
  refine ⟨h1, by omega, fun size maxSize => ?_⟩
  rw [DecoderTable.get, if_neg (by omega), if_pos h61, h]

theorem looksUp_dynamic {l : List (Named S)} {j : Nat} {e : Named S} (h : l[j]? = some e) :
    LooksUp l (j + dynOffset) e := by
  have hj := (List.getElem?_eq_some_iff.mp h).1
  unfold dynOffset
  refine ⟨by omega, by omega, fun size maxSize => ?_⟩
  rw [DecoderTable.get, if_neg (by omega), if_neg (by omega), Nat.add_sub_cancel]
  simp only [h]

/-- An index for the name leads to a header of that name. -/
theorem NameAt.looksUp {l : List (Named S)} {h : Named S} {n : Nat} (hn : NameAt l h n) :
    ∃ e, LooksUp l n e ∧ e.name = h.name := by
  rcases hn with ⟨b, hs⟩ | ⟨j, e, rfl, he, hname⟩
  · obtain ⟨h1, h61, e, he, hname, _⟩ := getStatic_indexStatic hs
    exact ⟨e, looksUp_static h1 h61 he, hname⟩
  · exact ⟨e, looksUp_dynamic he, hname⟩

/-- An index for the header leads to the header without its mark. -/
theorem EntryAt.looksUp {l : List (Named S)} {h : Named S} {n : Nat} (hn : EntryAt l h n)
    (hplain : ∀ e ∈ l, e.unmarked = e) : LooksUp l n h.unmarked := by
  rcases hn with hs | ⟨j, e, rfl, he, hname, hval⟩
  · obtain ⟨h1, h61, e, he, _, hfull⟩ := getStatic_indexStatic hs
    rw [hfull rfl] at he
    exact looksUp_static h1 h61 he
  · have heq := Header.unmarked_eq_of_valueEq hname hval
    rw [hplain e (List.mem_of_getElem? he)] at heq
    exact heq ▸ looksUp_dynamic he

/-! ## The first octet -/

theorem encodeInt_first {v p : Nat} (hp : p ≤ 7) (first : UInt8) :
    ∃ b l, encodeInt v p first = (first ||| b) :: l ∧ b.toNat < 2 ^ p := by
  have hpow : 2 ^ p ≤ 2 ^ 7 := Nat.pow_le_pow_right (by decide) hp
  have hpos := Nat.two_pow_pos p
  unfold encodeInt
  by_cases h : encodeIntOneByte v p = true
  · rw [if_pos h]
    rw [encodeIntOneByte, decide_eq_true_eq, Nat.one_shiftLeft] at h
    refine ⟨_, _, rfl, ?_⟩
    rw [Nat.toUInt8, UInt8.toNat_ofNat']
    omega
  · rw [if_neg h]
    refine ⟨_, _, rfl, ?_⟩
    rw [Nat.toUInt8, UInt8.toNat_ofNat', Nat.one_shiftLeft]
    omega

theorem load_indexed (b : UInt8) : Representation.load (0x80 ||| b) = .ok .indexed := by
  have h : ∀ b : UInt8, (0x80 ||| b) &&& 0b10000000 = (0b10000000 : UInt8) :=
    forall_octet (by decide +kernel)
  rw [Representation.load, if_pos (h b)]

theorem load_incremental {b : UInt8} (hb : b.toNat < 2 ^ 6) :
    Representation.load (0b01000000 ||| b) = .ok .literalWithIndexing := by
  have h : ∀ b : UInt8, b.toNat < 2 ^ 6 →
      (0b01000000 ||| b) &&& 0b10000000 ≠ (0b10000000 : UInt8) ∧
      (0b01000000 ||| b) &&& 0b01000000 = (0b01000000 : UInt8) :=
    forall_octet (by decide +kernel)
  rw [Representation.load, if_neg (h b hb).1, if_pos (h b hb).2]

theorem load_literal {b : UInt8} (hb : b.toNat < 2 ^ 4) (sensitive : Bool) :
    Representation.load ((if sensitive then 0b10000 else 0) ||| b) =
      .ok (if sensitive then .literalNeverIndexed else .literalWithoutIndexing) := by
  have h : ∀ b : UInt8, b.toNat < 2 ^ 4 →
      (0b10000 ||| b) &&& 0b10000000 ≠ (0b10000000 : UInt8) ∧
      (0b10000 ||| b) &&& 0b01000000 ≠ (0b01000000 : UInt8) ∧
      (0b10000 ||| b) &&& 0b11110000 ≠ (0 : UInt8) ∧
      (0b10000 ||| b) &&& 0b11110000 = (0b00010000 : UInt8) ∧
      (0 ||| b) &&& 0b10000000 ≠ (0b10000000 : UInt8) ∧
      (0 ||| b) &&& 0b01000000 ≠ (0b01000000 : UInt8) ∧
      (0 ||| b) &&& 0b11110000 = (0 : UInt8) :=
    forall_octet (by decide +kernel)
  obtain ⟨h1, h2, h3, h4, h5, h6, h7⟩ := h b hb
  cases sensitive with
  | true =>
      simp only [if_true]
      rw [Representation.load, if_neg h1, if_neg h2, if_neg h3, if_pos h4]
  | false =>
      simp only [Bool.false_eq_true, if_false]
      rw [Representation.load, if_neg h5, if_neg h6, if_pos h7]

theorem load_sizeUpdate {b : UInt8} (hb : b.toNat < 2 ^ 5) :
    Representation.load (0b00100000 ||| b) = .ok .sizeUpdate := by
  have h : ∀ b : UInt8, b.toNat < 2 ^ 5 →
      (0b00100000 ||| b) &&& 0b10000000 ≠ (0b10000000 : UInt8) ∧
      (0b00100000 ||| b) &&& 0b01000000 ≠ (0b01000000 : UInt8) ∧
      (0b00100000 ||| b) &&& 0b11110000 ≠ (0 : UInt8) ∧
      (0b00100000 ||| b) &&& 0b11110000 ≠ (0b00010000 : UInt8) ∧
      (0b00100000 ||| b) &&& 0b11100000 = (0b00100000 : UInt8) :=
    forall_octet (by decide +kernel)
  obtain ⟨h1, h2, h3, h4, h5⟩ := h b hb
  rw [Representation.load, if_neg h1, if_neg h2, if_neg h3, if_neg h4, if_pos h5]

/-! ## The decoder's table -/

/-- The table with entries `l` and their size. -/
def tableOf (l : List (Named S)) (maxSize : Nat) : DecoderTable S :=
  ⟨l, total Header.len l, maxSize⟩

theorem dropLast_tableOf {l : List (Named S)} {last : Named S} (maxSize : Nat)
    (h : l.getLast? = some last) :
    (⟨l.dropLast, total Header.len l - last.len, maxSize⟩ : DecoderTable S) =
      tableOf l.dropLast maxSize := by
  have := total_dropLast_add Header.len h
  unfold tableOf
  congr 1
  omega

theorem reserveLoop_spec {len maxSize : Nat} (hlen : len ≤ maxSize) :
    ∀ (fuel : Nat) (l : List (Named S)), l.length < fuel →
      DecoderTable.reserveLoop len fuel (tableOf l maxSize) =
        .ok (tableOf (fit Header.len (maxSize - len) l) maxSize) := by
  intro fuel
  induction fuel with
  | zero => intro l h; omega
  | succ fuel ih =>
      intro l hfuel
      rw [DecoderTable.reserveLoop]
      by_cases hover : total Header.len l + len > maxSize
      · have hne : l ≠ [] := by
          rintro rfl
          simp at hover
          omega
        obtain ⟨last, hlast⟩ : ∃ last, l.getLast? = some last := by
          rw [List.getLast?_eq_some_getLast hne]
          exact ⟨_, rfl⟩
        have htotal := total_dropLast_add Header.len hlast
        have hpos : 0 < l.length := List.length_pos_iff.mpr hne
        have hlast_le : ¬ total Header.len l < last.len := by omega
        simp only [tableOf, hover, if_true, hlast, hlast_le, if_false]
        rw [dropLast_tableOf maxSize hlast, ih _ (by rw [List.length_dropLast]; omega),
          fit_of_gt Header.len (show maxSize - len < total Header.len l by omega)]
        rfl
      · simp only [tableOf, hover, if_false]
        rw [fit_of_le Header.len (by omega)]

/-- Inserting an entry that fits on its own pushes it and drops the oldest ones. -/
theorem insert_tableOf {l : List (Named S)} {e : Named S} {maxSize : Nat}
    (hfits : e.len ≤ maxSize) :
    (tableOf l maxSize).insert e = .ok (tableOf (fit Header.len maxSize (e :: l)) maxSize) := by
  have hloop : DecoderTable.reserve (tableOf l maxSize) e.len = _ :=
    reserveLoop_spec hfits (l.length + 1) l (Nat.lt_succ_self _)
  rw [DecoderTable.insert, hloop, ok_bind]
  have hle := total_fit_le Header.len (maxSize - e.len) l
  have hroom : total Header.len (fit Header.len (maxSize - e.len) l) + e.len ≤ maxSize := by omega
  simp only [tableOf, hroom, if_true]
  rw [fit_cons Header.len hfits, total_cons, Nat.add_comm e.len]
  rfl

theorem consolidateLoop_spec {maxSize : Nat} :
    ∀ (fuel : Nat) (l : List (Named S)), l.length < fuel →
      DecoderTable.consolidateLoop fuel (tableOf l maxSize) =
        .ok (tableOf (fit Header.len maxSize l) maxSize) := by
  intro fuel
  induction fuel with
  | zero => intro l h; omega
  | succ fuel ih =>
      intro l hfuel
      rw [DecoderTable.consolidateLoop]
      by_cases hover : total Header.len l > maxSize
      · have hne : l ≠ [] := by
          rintro rfl
          simp at hover
        obtain ⟨last, hlast⟩ : ∃ last, l.getLast? = some last := by
          rw [List.getLast?_eq_some_getLast hne]
          exact ⟨_, rfl⟩
        have htotal := total_dropLast_add Header.len hlast
        have hpos : 0 < l.length := List.length_pos_iff.mpr hne
        have hlast_le : ¬ total Header.len l < last.len := by omega
        simp only [tableOf, hover, if_true, hlast, hlast_le, if_false]
        rw [dropLast_tableOf maxSize hlast, ih _ (by rw [List.length_dropLast]; omega),
          fit_of_gt Header.len hover]
        rfl
      · simp only [tableOf, hover, if_false]
        rw [fit_of_le Header.len (by omega)]

theorem setMaxSize_tableOf (l : List (Named S)) (maxSize n : Nat) :
    (tableOf l maxSize).setMaxSize n = .ok (tableOf (fit Header.len n l) n) := by
  rw [DecoderTable.setMaxSize]
  exact consolidateLoop_spec _ _ (Nat.lt_succ_self _)

/-! ## Reading a representation -/

theorem consume_of_chunk {c : Cursor} {rest : Bytes} (h : c.chunk = rest)
    (hpos : c.pos ≤ c.bytes.length) : Cursor.consume c = .ok () ⟨rest, 0⟩ := by
  rw [Cursor.consume]
  by_cases hend : c.pos = c.bytes.length
  · rw [if_pos hend]
    have : rest = [] := by
      rw [← h, Cursor.chunk, hend, List.drop_length]
    rw [this]
  · rw [if_neg hend, if_pos hpos, h]

theorem checked_ok {α : Type} {x : Except DecoderError α} {a : α} (h : x = .ok a)
    (st : DecodeState S) : (Decode.checked x : Decode S α) st = .ok a st := by
  subst h
  rfl

theorem guarded_ok {α : Type} {x : Except Panic α} {a : α} (h : x = .ok a)
    (st : DecodeState S) : (Decode.guarded x : Decode S α) st = .ok a st := by
  subst h
  rfl

section Read

variable {d : Decoder S} {l : List (Named S)} {maxSize : Nat} {calls : List (Named S)}
variable {rest : Bytes}

/-- The state of a run: the decoder's table holds `l`, the octets `o` are next. -/
def reading (d : Decoder S) (l : List (Named S)) (maxSize : Nat) (c : Cursor)
    (calls : List (Named S)) : DecodeState S :=
  ⟨{ d with table := tableOf l maxSize, buffer := [] }, c, calls⟩

theorem lookup_reading {n : Nat} {e : Named S} (h : LooksUp l n e) (c : Cursor) :
    (Decode.lookup n : Decode S (Named S)) (reading d l maxSize c calls) =
      .ok e (reading d l maxSize c calls) := by
  have hget : (reading d l maxSize c calls).decoder.table.get n = .ok e := h.2.2 _ _
  rw [Decode.lookup, hget]

theorem onBuf_reading {α : Type} {x : EStateM Fault Cursor α} {a : α} {c c' : Cursor}
    (h : x c = .ok a c') : (Decode.onBuf x : Decode S α) (reading d l maxSize c calls) =
      .ok a (reading d l maxSize c' calls) :=
  onBuf_of_ok h

theorem setPosition_reading (c c' : Cursor) (h : c'.bytes = c.bytes) :
    (Decode.setPosition c.pos : Decode S Unit) (reading d l maxSize c' calls) =
      .ok () (reading d l maxSize c calls) := by
  obtain ⟨bytes, pos⟩ := c
  cases h
  rfl

theorem tryDecodeString_reading {s : Bytes} {c : Cursor} (hs : Short s)
    (hc : c.chunk = strOctets s ++ rest) :
    ∃ m : StringMarker, m.Marks s ∧
      (Decode.tryDecodeString : Decode S StringMarker) (reading d l maxSize c calls) =
        .ok m (reading d l maxSize (c.skip (strOctets s).length) calls) :=
  tryDecodeString_spec hs rfl hc

theorem decodeString_reading {s : Bytes} {c : Cursor} (hs : Short s)
    (hc : c.chunk = strOctets s ++ rest) :
    ∃ c', (Decode.decodeString : Decode S Bytes) (reading d l maxSize c calls) =
        .ok s (reading d l maxSize c' calls) ∧ c'.chunk = rest ∧ c'.pos ≤ c'.bytes.length := by
  obtain ⟨m, hm, hrun⟩ := @tryDecodeString_reading _ d l maxSize calls rest _ _ hs hc
  obtain ⟨c', hcons, hchunk, hpos⟩ := hm.consume hc
  refine ⟨c', ?_, hchunk, hpos⟩
  rw [Decode.decodeString, get_bind]
  refine (bind_of_ok hrun).trans ?_
  refine (bind_of_ok (setPosition_reading c (c.skip _) rfl)).trans ?_
  exact onBuf_reading hcons

/-- A literal with its name written out. -/
theorem decodeLiteralName_reading {h : Named S} {c : Cursor} (hn : Short h.name.asSlice)
    (hv : Short h.valueSlice)
    (hc : c.chunk = strOctets h.name.asSlice ++ (strOctets h.valueSlice ++ rest)) :
    ∃ c', (Decode.decodeLiteralName : Decode S (Named S)) (reading d l maxSize c calls) =
        .ok h.unmarked (reading d l maxSize c' calls) ∧ c'.chunk = rest ∧
        c'.pos ≤ c'.bytes.length := by
  obtain ⟨m, hm, hrun⟩ := @tryDecodeString_reading _ d l maxSize calls _ _ _ hn hc
  obtain ⟨m', hm', hrun'⟩ :=
    @tryDecodeString_reading _ d l maxSize calls _ _ _ hv (Cursor.skip_chunk hc)
  obtain ⟨c₁, hcons, hchunk, _⟩ := hm.consume hc
  obtain ⟨c', hcons', hchunk', hpos'⟩ := hm'.consume hchunk
  refine ⟨c', ?_, hchunk', hpos'⟩
  rw [Decode.decodeLiteralName, get_bind]
  refine (bind_of_ok hrun).trans ?_
  refine (bind_of_ok hrun').trans ?_
  refine (bind_of_ok (setPosition_reading c ((c.skip _).skip _) rfl)).trans ?_
  refine (bind_of_ok (onBuf_reading hcons)).trans ?_
  refine (bind_of_ok (onBuf_reading hcons')).trans ?_
  exact checked_ok (Header.new_asSlice h) _

/-- `decode_literal` reads the header `h` from the octets `o`. -/
def ReadsLiteral (d : Decoder S) (l : List (Named S)) (maxSize : Nat) (index : Bool) (o : Bytes)
    (h : Named S) : Prop :=
  ∀ (rest : Bytes) (calls : List (Named S)) (c : Cursor), c.chunk = o ++ rest →
    ∃ c', (Decode.decodeLiteral index : Decode S (Named S)) (reading d l maxSize c calls) =
      .ok h.unmarked (reading d l maxSize c' calls) ∧ c'.chunk = rest ∧ c'.pos ≤ c'.bytes.length

/-- A literal whose name is looked up. -/
theorem readsLiteral_indexed {n : Nat} {e h : Named S} {index : Bool} {first : UInt8}
    (hl : LooksUp l n e) (hname : e.name = h.name) (hlen : l.length < 2 ^ 20)
    (hv : Short h.valueSlice) (hfirst : first.toNat % 2 ^ (if index then 6 else 4) = 0) :
    ReadsLiteral d l maxSize index
      (encodeInt n (if index then 6 else 4) first ++ strOctets h.valueSlice) h := by
  intro rest calls c hc
  obtain ⟨h1, hle, _⟩ := id hl
  rw [List.append_assoc] at hc
  have hpow : 1 ≤ 2 ^ (if index = true then 6 else 4) := Nat.one_le_two_pow
  have hint := decodeInt_spec (by split <;> omega) (by split <;> omega) hfirst (by omega) hc
  obtain ⟨c', hstr, hchunk, hpos⟩ :=
    @decodeString_reading _ d l maxSize calls _ _ _ hv (Cursor.skip_chunk hc)
  refine ⟨c', ?_, hchunk, hpos⟩
  rw [Decode.decodeLiteral]
  refine (bind_of_ok (onBuf_reading hint)).trans ?_
  simp only [show n ≠ 0 by omega, if_false]
  refine (bind_of_ok (lookup_reading hl _)).trans ?_
  refine (bind_of_ok hstr).trans ?_
  rw [hname]
  exact checked_ok (Name.intoEntry_valueSlice h) _

/-- A literal whose name index is zero. -/
theorem readsLiteral_named {h : Named S} {index : Bool} {first : UInt8}
    (hn : Short h.name.asSlice) (hv : Short h.valueSlice)
    (hfirst : first.toNat % 2 ^ (if index then 6 else 4) = 0) :
    ReadsLiteral d l maxSize index
      (first :: (strOctets h.name.asSlice ++ strOctets h.valueSlice)) h := by
  intro rest calls c hc
  have hpow : 1 ≤ 2 ^ (if index = true then 6 else 4) := Nat.one_le_two_pow
  have hzero : encodeInt 0 (if index then 6 else 4) first = [first] := by
    cases index <;> simp [encodeInt, encodeIntOneByte]
  have hc0 : c.chunk = encodeInt 0 (if index then 6 else 4) first ++
      (strOctets h.name.asSlice ++ (strOctets h.valueSlice ++ rest)) := by
    rw [hzero, hc]
    simp
  have hint := decodeInt_spec (by split <;> omega) (by split <;> omega) hfirst (by omega) hc0
  obtain ⟨c', hlit, hchunk, hpos⟩ :=
    @decodeLiteralName_reading _ d l maxSize calls _ _ _ hn hv (Cursor.skip_chunk hc0)
  refine ⟨c', ?_, hchunk, hpos⟩
  rw [Decode.decodeLiteral]
  refine (bind_of_ok (onBuf_reading hint)).trans ?_
  exact hlit

theorem insertEntry_reading {e : Named S} (hfits : e.len ≤ maxSize) (c : Cursor) :
    (Decode.insertEntry e : Decode S Unit) (reading d l maxSize c calls) =
      .ok () (reading d (fit Header.len maxSize (e :: l)) maxSize c calls) := by
  rw [Decode.insertEntry, get_bind]
  refine (bind_of_ok (guarded_ok (insert_tableOf hfits) _)).trans ?_
  rfl

/-- The end of a round: what was read is forgotten and the header is called back. -/
theorem finish_reading {e : Named S} {c : Cursor} (hc : c.chunk = rest)
    (hpos : c.pos ≤ c.bytes.length) :
    (do Decode.onBuf Cursor.consume; Decode.call e; return false : Decode S Bool)
        (reading d l maxSize c calls) =
      .ok false (reading d l maxSize ⟨rest, 0⟩ (calls ++ [e])) := by
  refine (bind_of_ok (onBuf_reading (consume_of_chunk hc hpos))).trans ?_
  rfl

/-! ## One round -/

/-- In one round the decoder reads the octets `o` and calls back `out`. -/
structure Round (d : Decoder S) (canResize : Bool) (l : List (Named S)) (maxSize : Nat)
    (o : Bytes) (out : List (Named S)) (canResize' : Bool) (l' : List (Named S))
    (maxSize' : Nat) : Prop where
  ne_nil : o ≠ []
  decodeOne : ∀ ty ∈ o.head?, ∀ rest calls, (Decode.decodeOne canResize ty : Decode S Bool)
      (reading d l maxSize ⟨o ++ rest, 0⟩ calls) =
    .ok canResize' (reading d l' maxSize' ⟨rest, 0⟩ (calls ++ out))

theorem round_indexed {n : Nat} {e : Named S} (canResize : Bool) (hl : LooksUp l n e)
    (hlen : l.length < 2 ^ 20) :
    Round d canResize l maxSize (encodeInt n 7 0x80) [e] false l maxSize := by
  obtain ⟨b, o, hfirst⟩ := encodeInt_head n 7 0x80
  refine ⟨by rw [hfirst]; simp, ?_⟩
  intro ty hty rest calls
  rw [hfirst, List.head?_cons, Option.mem_some_iff] at hty
  subst hty
  have hle := hl.2.1
  have hint : decodeInt 7 ⟨encodeInt n 7 0x80 ++ rest, 0⟩ = .ok n _ :=
    decodeInt_spec (by omega) (by omega) (by decide) (by omega) rfl
  have hskip : (Cursor.skip ⟨encodeInt n 7 0x80 ++ rest, 0⟩ _).chunk = rest :=
    Cursor.skip_chunk rfl
  rw [Decode.decodeOne]
  refine (bind_of_ok (checked_ok (load_indexed b) _)).trans ?_
  simp only [Decode.decodeIndexed, bind_assoc]
  refine (bind_of_ok (onBuf_reading hint)).trans ?_
  refine (bind_of_ok (lookup_reading hl _)).trans ?_
  exact finish_reading hskip (by simp [Cursor.skip])

/-- A literal that is added to the table. -/
theorem round_incremental {h : Named S} {b : UInt8} {o : Bytes} (canResize : Bool)
    (hb : b.toNat < 2 ^ 6) (hfits : h.unmarked.len ≤ maxSize)
    (hlit : ReadsLiteral d l maxSize true ((0b01000000 ||| b) :: o) h) :
    Round d canResize l maxSize ((0b01000000 ||| b) :: o) [h.unmarked] false
      (fit Header.len maxSize (h.unmarked :: l)) maxSize := by
  refine ⟨by simp, ?_⟩
  intro ty hty rest calls
  rw [List.head?_cons, Option.mem_some_iff] at hty
  subst hty
  obtain ⟨c', hrun, hchunk, hpos⟩ := hlit rest calls ⟨(0b01000000 ||| b) :: o ++ rest, 0⟩ rfl
  rw [Decode.decodeOne]
  refine (bind_of_ok (checked_ok (load_incremental hb) _)).trans ?_
  refine (bind_of_ok hrun).trans ?_
  refine (bind_of_ok (insertEntry_reading hfits c')).trans ?_
  exact finish_reading hchunk hpos

/-- A literal that is not added to the table. -/
theorem round_literal {h : Named S} {b : UInt8} {o : Bytes} (canResize sensitive : Bool)
    (hb : b.toNat < 2 ^ 4)
    (hlit : ReadsLiteral d l maxSize false
      (((if sensitive then 0b10000 else 0) ||| b) :: o) h) :
    Round d canResize l maxSize (((if sensitive then 0b10000 else 0) ||| b) :: o) [h.unmarked]
      false l maxSize := by
  refine ⟨by simp, ?_⟩
  intro ty hty rest calls
  rw [List.head?_cons, Option.mem_some_iff] at hty
  subst hty
  obtain ⟨c', hrun, hchunk, hpos⟩ :=
    hlit rest calls ⟨((if sensitive then 0b10000 else 0) ||| b) :: o ++ rest, 0⟩ rfl
  rw [Decode.decodeOne]
  refine (bind_of_ok (checked_ok (load_literal hb sensitive) _)).trans ?_
  cases sensitive with
  | true =>
      refine (bind_of_ok hrun).trans ?_
      exact finish_reading hchunk hpos
  | false =>
      refine (bind_of_ok hrun).trans ?_
      exact finish_reading hchunk hpos

theorem processSizeUpdate_reading {n : Nat} {c c' : Cursor} (hn : n ≤ d.lastMaxUpdate)
    (hint : decodeInt 5 c = .ok n c') :
    (Decode.processSizeUpdate : Decode S Unit) (reading d l maxSize c calls) =
      .ok () (reading d (fit Header.len n l) n c' calls) := by
  have hmax : ¬ n > (reading d l maxSize c' calls).decoder.lastMaxUpdate := Nat.not_lt.mpr hn
  rw [Decode.processSizeUpdate]
  refine (bind_of_ok (onBuf_reading hint)).trans ?_
  rw [get_bind]
  simp only [hmax, if_false]
  refine (bind_of_ok (guarded_ok (setMaxSize_tableOf l maxSize n) _)).trans ?_
  rfl

/-- A change of the table size, before the first header of a block. -/
theorem round_sizeUpdate {n : Nat} (hn : n ≤ d.lastMaxUpdate) (hlt : n < 2 ^ 28) :
    Round d true l maxSize (encodeInt n 5 0b00100000) [] true (fit Header.len n l) n := by
  obtain ⟨b, o, hfirst, hb⟩ := encodeInt_first (v := n) (show 5 ≤ 7 by omega) 0b00100000
  refine ⟨by rw [hfirst]; simp, ?_⟩
  intro ty hty rest calls
  rw [hfirst, List.head?_cons, Option.mem_some_iff] at hty
  subst hty
  have hint : decodeInt 5 ⟨encodeInt n 5 0b00100000 ++ rest, 0⟩ = .ok n _ :=
    decodeInt_spec (by omega) (by omega) (by decide) (by omega) rfl
  have hskip : (Cursor.skip ⟨encodeInt n 5 0b00100000 ++ rest, 0⟩ _).chunk = rest :=
    Cursor.skip_chunk rfl
  have hcons := consume_of_chunk hskip (by simp [Cursor.skip])
  rw [Decode.decodeOne, List.append_nil]
  refine (bind_of_ok (checked_ok (load_sizeUpdate hb) _)).trans ?_
  simp only [not_true_eq_false, if_false]
  refine (bind_of_ok (processSizeUpdate_reading hn hint)).trans ?_
  refine (bind_of_ok (onBuf_reading hcons)).trans ?_
  rfl

/-- A round of the loop. -/
theorem Round.decodeLoop {canResize canResize' : Bool} {l' out : List (Named S)} {maxSize' : Nat}
    {o : Bytes} (h : Round d canResize l maxSize o out canResize' l' maxSize') (fuel : Nat) :
    (Decode.decodeLoop (fuel + 1) canResize : Decode S Unit)
        (reading d l maxSize ⟨o ++ rest, 0⟩ calls) =
      Decode.decodeLoop fuel canResize' (reading d l' maxSize' ⟨rest, 0⟩ (calls ++ out)) := by
  obtain ⟨ty, o', rfl⟩ : ∃ ty o', o = ty :: o' := List.exists_cons_of_ne_nil h.ne_nil
  rw [Decode.decodeLoop, get_bind]
  exact bind_of_ok (h.decodeOne ty rfl rest calls)

end Read

end NtexH2.Hpack
