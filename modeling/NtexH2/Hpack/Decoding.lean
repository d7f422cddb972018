/-
  Hpack/Decoding.lean --- the decoder does what the representations say.

  Function by function, the decoder takes the octets that the step parser takes and
  leaves the same scratch buffer.  Where the input ends too early, it also leaves the
  input as it was.
-/
import NtexH2.Hpack.Scan

set_option autoImplicit false

namespace NtexH2.Hpack

variable {S : HttpSyntax}

theorem bind_of_error {ε σ α β : Type} {x : EStateM ε σ α} {f : α → EStateM ε σ β} {s s' : σ}
    {e : ε} (h : x s = .error e s') : (x >>= f) s = .error e s' := by
  show EStateM.bind x f s = _
  rw [EStateM.bind, h]

theorem onBuf_of_error {α : Type} {x : EStateM Fault Cursor α} {s : DecodeState S} {e : Fault}
    {c : Cursor} (h : x s.buf = .error e c) :
    (Decode.onBuf x : Decode S α) s = .error e { s with buf := c } := by
  rw [Decode.onBuf, h]

theorem lookup_of_ok {s : DecodeState S} {index : Nat} {h : Named S}
    (hget : s.decoder.table.get index = .ok h) : Decode.lookup index s = .ok h s := by
  rw [Decode.lookup, hget]

theorem lookup_of_error {s : DecodeState S} {index : Nat} {f : Fault}
    (hget : s.decoder.table.get index = .error f) : Decode.lookup index s = .error f s := by
  rw [Decode.lookup, hget]

/-! ## Integers -/

/-- The loop reads what the step parser reads. -/
theorem decodeIntLoop_scan (left : Nat) : ∀ (shift ret : Nat) (c : Cursor) (b : Bytes),
    match Scan.intTail left shift ret c.chunk b with
    | .ok (v, r) b' => b' = b ∧ ∃ u, c.chunk = u ++ r ∧
        decodeIntLoop (left + 1) shift ret c = .ok v (c.skip u.length)
    | .error e b' => b' = b ∧ ∃ k,
        decodeIntLoop (left + 1) shift ret c = .error e.toFault (c.skip k) := by
  induction left with
  | zero =>
      intro shift ret c b
      rw [Scan.intTail]
      cases hc : c.chunk with
      | nil => exact ⟨rfl, 0, decodeIntLoop_empty hc⟩
      | cons d x =>
          rw [decodeIntLoop_cons hc, Scan.bind_ok (show Scan.octet _ (d :: x) b = .ok (d, x) b
            from rfl)]
          dsimp only
          by_cases hlast : d &&& 0x80 = 0
          · rw [if_pos hlast, if_pos hlast]
            exact ⟨rfl, [d], rfl, rfl⟩
          · rw [if_neg hlast, if_neg hlast, if_pos rfl]
            exact ⟨rfl, 1, rfl⟩
  | succ left ih =>
      intro shift ret c b
      rw [Scan.intTail]
      cases hc : c.chunk with
      | nil => exact ⟨rfl, 0, decodeIntLoop_empty hc⟩
      | cons d x =>
          rw [decodeIntLoop_cons hc, Scan.bind_ok (show Scan.octet _ (d :: x) b = .ok (d, x) b
            from rfl)]
          dsimp only
          by_cases hlast : d &&& 0x80 = 0
          · rw [if_pos hlast, if_pos hlast]
            exact ⟨rfl, [d], rfl, rfl⟩
          · rw [if_neg hlast, if_neg hlast, if_neg (Nat.succ_ne_zero left)]
            have hnext := ih (shift + 7) (ret + (d &&& 0x7f).toNat <<< shift) (c.skip 1) b
            rw [skip_one_chunk hc] at hnext
            generalize Scan.intTail left (shift + 7) _ x b = res at hnext
            cases res with
            | ok vr b' =>
                obtain ⟨hb, u, hu, hrun⟩ := hnext
                refine ⟨hb, d :: u, congrArg (d :: ·) hu, hrun.trans ?_⟩
                rw [Cursor.skip_skip, List.length_cons, Nat.add_comm]
            | error e b' =>
                obtain ⟨hb, k, hrun⟩ := hnext
                refine ⟨hb, 1 + k, hrun.trans ?_⟩
                rw [Cursor.skip_skip]

/-- `decode_int` reads what the step parser reads. -/
theorem decodeInt_scan {p : Nat} (hp : 1 ≤ p ∧ p ≤ 8) {c : Cursor} {first : UInt8} {x : Bytes}
    (hc : c.chunk = first :: x) (b : Bytes) :
    match Scan.intFrom p first x b with
    | .ok (v, r) b' => b' = b ∧ ∃ u, x = u ++ r ∧ decodeInt p c = .ok v (c.skip (u.length + 1))
    | .error e b' => b' = b ∧ ∃ k, decodeInt p c = .error e.toFault (c.skip k) := by
  have hrun := decodeInt_cons hp hc
  unfold Scan.intFrom
  by_cases hsmall : first.toNat &&& (2 ^ p - 1) < 2 ^ p - 1
  · rw [if_pos hsmall] at hrun ⊢
    exact ⟨rfl, [], rfl, hrun⟩
  · rw [if_neg hsmall] at hrun ⊢
    have hnext := decodeIntLoop_scan 3 0 (first.toNat &&& (2 ^ p - 1)) (c.skip 1) b
    rw [skip_one_chunk hc] at hnext
    generalize Scan.intTail 3 0 _ x b = res at hnext
    cases res with
    | ok vr b' =>
        obtain ⟨hb, u, hu, hloop⟩ := hnext
        refine ⟨hb, u, hu, hrun.trans (hloop.trans ?_)⟩
        rw [Cursor.skip_skip, Nat.add_comm]
    | error e b' =>
        obtain ⟨hb, k, hloop⟩ := hnext
        refine ⟨hb, 1 + k, hrun.trans (hloop.trans ?_)⟩
        rw [Cursor.skip_skip]

/-! ## Strings -/

/-- The state with another scratch buffer and another cursor. -/
def DecodeState.moved (s : DecodeState S) (buffer : Bytes) (buf : Cursor) : DecodeState S :=
  { s with decoder := { s.decoder with buffer := buffer }, buf := buf }

/-- The marker of a string that was read from the octets `u`. -/
structure StringMarker.Stands (m : StringMarker) (u text : Bytes) : Prop where
  length : m.offset + m.len = u.length
  string : m.string = some text ∨ m.string = none ∧ u.drop m.offset = text

/-- Consuming a marker gives its string and leaves the octets behind it. -/
theorem StringMarker.Stands.consume {m : StringMarker} {u text r : Bytes} {c : Cursor}
    (h : m.Stands u text) (hc : c.chunk = u ++ r) (hpos : c.pos ≤ c.bytes.length) :
    ∃ c', m.consume c = .ok text c' ∧ c'.chunk = r ∧ c'.pos ≤ c'.bytes.length := by
  have hlen := h.length
  have hhead : (u.take m.offset).length = m.offset := List.length_take_of_le (by omega)
  have htail : (u.drop m.offset).length = m.len := by
    rw [List.length_drop]
    omega
  have hsplit : c.chunk = u.take m.offset ++ (u.drop m.offset ++ r) := by
    rw [hc, ← List.append_assoc, List.take_append_drop]
  have hadv := advance_of_chunk hsplit
  have hskip := Cursor.skip_chunk hsplit
  rw [hhead] at hadv hskip
  have hroom : c.bytes.length = c.pos + u.length + r.length := by
    have hchunk := congrArg List.length hc
    rw [Cursor.chunk, List.length_drop, List.length_append] at hchunk
    omega
  rw [StringMarker.consume, bind_of_ok hadv]
  rcases h.string with hstr | ⟨hstr, htext⟩
  · have hadv' := advance_of_chunk hskip
    have hskip' := Cursor.skip_chunk hskip
    rw [htail] at hadv' hskip'
    refine ⟨(c.skip m.offset).skip m.len, ?_, hskip', ?_⟩
    · rw [hstr]
      exact bind_of_ok hadv'
    · show c.pos + m.offset + m.len ≤ c.bytes.length
      omega
  · rw [hstr]
    have htake : Cursor.take m.len (c.skip m.offset) = .ok text ⟨r, 0⟩ := by
      have hrem : m.len ≤ (c.skip m.offset).remaining := by
        rw [Cursor.remaining, hskip, List.length_append]
        omega
      rw [Cursor.take, if_pos ⟨show c.pos + m.offset ≤ c.bytes.length by omega, hrem⟩, hskip,
        ← htail, List.take_left, List.drop_left, htext]
    exact ⟨⟨r, 0⟩, htake, rfl, Nat.zero_le _⟩

/-- `try_decode_string` reads what the step parser reads; on an error it has only moved the
cursor. -/
theorem tryDecodeString_scan (s : DecodeState S) :
    match Scan.string s.buf.chunk s.decoder.buffer with
    | .ok (text, r) b => ∃ u m, s.buf.chunk = u ++ r ∧ u ≠ [] ∧ m.Stands u text ∧
        Decode.tryDecodeString s = .ok m (s.moved b (s.buf.skip u.length))
    | .error e b =>
        ∃ k, Decode.tryDecodeString s = .error e.toFault (s.moved b (s.buf.skip k)) := by
  unfold Decode.tryDecodeString
  rw [get_bind]
  dsimp only
  rw [get_bind]
  have hstring : Scan.string = (do
      let first ← Scan.octet .unexpectedEndOfStream
      let len ← Scan.intFrom 7 first
      let raw ← Scan.take len
      Scan.text (decide (first &&& 0b10000000 = 0b10000000), raw) : Scan Bytes) := by
    simp only [Scan.string, Scan.framed, bind_assoc, pure_bind]
  rw [hstring]
  cases hc : s.buf.chunk with
  | nil =>
      have hpeek : peekU8 s.buf = none := by rw [peekU8, hc]; rfl
      rw [hpeek]
      exact ⟨0, rfl⟩
  | cons first x =>
      have hpeek : peekU8 s.buf = some first := by rw [peekU8, hc]; rfl
      rw [hpeek, Scan.bind_ok (show Scan.octet _ (first :: x) _ = .ok (first, x) _ from rfl)]
      dsimp only
      have hint := decodeInt_scan (p := 7) (by decide) hc s.decoder.buffer
      cases hres : Scan.intFrom 7 first x s.decoder.buffer with
      | error e b =>
          rw [hres] at hint
          obtain ⟨rfl, k, hdec⟩ := hint
          rw [Scan.bind_error hres, bind_of_error (onBuf_of_error hdec)]
          exact ⟨k, rfl⟩
      | ok vr b =>
          obtain ⟨len, r⟩ := vr
          rw [hres] at hint
          obtain ⟨rfl, u, rfl, hdec⟩ := hint
          rw [Scan.bind_ok hres, bind_of_ok (onBuf_of_ok hdec), get_bind]
          have hskip : (s.buf.skip (u.length + 1)).chunk = r :=
            Cursor.skip_chunk (l := first :: u) hc
          have hrem : (s.buf.skip (u.length + 1)).remaining = r.length := by
            rw [Cursor.remaining, hskip]
          dsimp only
          rw [hrem]
          by_cases hle : len ≤ r.length
          · have htake : Scan.take len r s.decoder.buffer =
                .ok (r.take len, r.drop len) s.decoder.buffer := if_pos hle
            have hraw : (r.take len).length = len := List.length_take_of_le hle
            have hadv : Cursor.advance len (s.buf.skip (u.length + 1)) =
                .ok () (s.buf.skip (u.length + 1 + len)) := by
              have hadv' := advance_of_chunk (hskip.trans (List.take_append_drop len r).symm)
              rwa [hraw, Cursor.skip_skip] at hadv'
            have hall : first :: (u ++ r) = (first :: u ++ r.take len) ++ r.drop len := by
              rw [List.append_assoc, List.take_append_drop, List.cons_append]
            have hlen : (first :: u ++ r.take len).length = u.length + 1 + len := by
              rw [List.length_append, List.length_cons, hraw]
            have hoff : (s.buf.skip (u.length + 1)).pos - s.buf.pos = u.length + 1 := by
              show s.buf.pos + (u.length + 1) - s.buf.pos = _
              omega
            have hdrop : (first :: u ++ r.take len).drop (u.length + 1) = r.take len :=
              List.drop_left
            rw [Scan.bind_ok htake, if_neg (Nat.not_lt_of_le hle), get_bind]
            dsimp only
            rw [hoff]
            by_cases hhuff : first &&& 0b10000000 = 0b10000000
            · rw [if_pos hhuff, decide_eq_true hhuff, Scan.text_huffman]
              unfold Scan.huffman Decode.huffmanString
              dsimp only
              rw [hskip]
              rw [onBuf_of_ok hadv]
              cases hdec : Huffman.decode (r.take len) s.decoder.buffer with
              | mk res b =>
                  cases res with
                  | ok text =>
                      refine ⟨_, ⟨u.length + 1, len, some text⟩, hall, List.cons_ne_nil _ _,
                        ⟨hlen.symm, .inl rfl⟩, ?_⟩
                      rw [hlen]
                      rfl
                  | error f => exact ⟨_, rfl⟩
            · rw [if_neg hhuff, decide_eq_false hhuff, Scan.text_plain]
              refine ⟨_, ⟨u.length + 1, len, none⟩, hall, List.cons_ne_nil _ _,
                ⟨hlen.symm, .inr ⟨rfl, hdrop⟩⟩, ?_⟩
              rw [hlen]
              exact bind_of_ok (onBuf_of_ok hadv)
          · have htake : Scan.take len r s.decoder.buffer =
                .error (.underflow .stringUnderflow) s.decoder.buffer := if_neg hle
            rw [Scan.bind_error htake, if_pos (Nat.lt_of_not_le hle)]
            exact ⟨u.length + 1, rfl⟩

/-- A step of `decode` does what a step parser does on its input. -/
def Tracks {α : Type} (x : Decode S α) (s : DecodeState S) :
    EStateM.Result Stop Bytes (α × Bytes) → Prop
  | .ok (a, r) b => ∃ c, x s = .ok a (s.moved b c) ∧ c.chunk = r ∧ c.pos ≤ c.bytes.length
  | .error e b => ∃ c, x s = .error e.toFault (s.moved b c) ∧
      ∀ n, e = .underflow n → c.bytes = s.buf.bytes

theorem setPosition_moved (s : DecodeState S) (b : Bytes) (k : Nat) :
    (Decode.setPosition s.buf.pos : Decode S Unit) (s.moved b (s.buf.skip k)) =
      .ok () (s.moved b s.buf) := rfl

/-- `decode_string` reads what the step parser reads. -/
theorem decodeString_scan (s : DecodeState S) :
    Tracks Decode.decodeString s (Scan.string s.buf.chunk s.decoder.buffer) := by
  have hrun : Decode.decodeString s = (do
      let marker ← Decode.tryDecodeString
      Decode.setPosition s.buf.pos
      Decode.onBuf marker.consume : Decode S Bytes) s := rfl
  have hstring := tryDecodeString_scan s
  cases hres : Scan.string s.buf.chunk s.decoder.buffer with
  | error e b =>
      rw [hres] at hstring
      obtain ⟨k, htry⟩ := hstring
      exact ⟨s.buf.skip k, hrun.trans (bind_of_error htry), fun n hn => rfl⟩
  | ok tr b =>
      obtain ⟨text, r⟩ := tr
      rw [hres] at hstring
      obtain ⟨u, m, hu, hne, hm, htry⟩ := hstring
      have hpos := pos_le_of_chunk (c := s.buf) (by rw [hu]; simp [hne])
      obtain ⟨c, hconsume, hchunk, hend⟩ := hm.consume hu hpos
      refine ⟨c, ?_, hchunk, hend⟩
      rw [hrun, bind_of_ok htry, bind_of_ok (setPosition_moved s b u.length)]
      exact onBuf_of_ok hconsume

/-! ## Literals -/

/-- A check at the end reads nothing. -/
theorem Tracks.of_checked {α : Type} {x : Decode S α} {s : DecodeState S} {b r : Bytes}
    {c : Cursor} {res : Except DecoderError α}
    (h : x s = (Decode.checked res : Decode S α) (s.moved b c)) (hchunk : c.chunk = r)
    (hpos : c.pos ≤ c.bytes.length) : Tracks x s (Scan.checked res r b) := by
  cases res with
  | ok a => exact ⟨c, h, hchunk, hpos⟩
  | error e => exact ⟨c, h, fun n hn => by cases hn⟩

/-- The part of `decode_literal` for a literal name. -/
theorem decodeLiteralName_scan (s : DecodeState S) :
    Tracks Decode.decodeLiteralName s ((do
      let name ← Scan.string
      let value ← Scan.string
      Scan.checked (Header.new S name value) : Scan (Named S)) s.buf.chunk s.decoder.buffer) := by
  have hrun : Decode.decodeLiteralName s = (do
      let nameMarker ← Decode.tryDecodeString
      let valueMarker ← Decode.tryDecodeString
      Decode.setPosition s.buf.pos
      let name ← Decode.onBuf nameMarker.consume
      let value ← Decode.onBuf valueMarker.consume
      Decode.checked (Header.new S name value) : Decode S (Named S)) s := rfl
  have hname := tryDecodeString_scan s
  cases hres : Scan.string s.buf.chunk s.decoder.buffer with
  | error e b =>
      rw [hres] at hname
      obtain ⟨k, htry⟩ := hname
      rw [Scan.bind_error hres]
      exact ⟨s.buf.skip k, hrun.trans (bind_of_error htry), fun n hn => rfl⟩
  | ok tr b =>
      obtain ⟨name, r⟩ := tr
      rw [hres] at hname
      obtain ⟨u, m, hu, hne, hm, htry⟩ := hname
      rw [Scan.bind_ok hres]
      -- the value is looked for behind the name, and both are consumed from the start
      have hvalue := tryDecodeString_scan (s.moved b (s.buf.skip u.length))
      have hskip : (s.buf.skip u.length).chunk = r := Cursor.skip_chunk hu
      have hstart : (s.moved b (s.buf.skip u.length)).buf.chunk = r := hskip
      rw [hstart] at hvalue
      change match Scan.string r b with
        | .ok (text, r') b' => ∃ u' m', r = u' ++ r' ∧ u' ≠ [] ∧ m'.Stands u' text ∧
            Decode.tryDecodeString (s.moved b (s.buf.skip u.length)) =
              .ok m' (s.moved b' ((s.buf.skip u.length).skip u'.length))
        | .error e b' => ∃ k, Decode.tryDecodeString (s.moved b (s.buf.skip u.length)) =
            .error e.toFault (s.moved b' ((s.buf.skip u.length).skip k)) at hvalue
      cases hres' : Scan.string r b with
      | error e b' =>
          rw [hres'] at hvalue
          obtain ⟨k, htry'⟩ := hvalue
          rw [Scan.bind_error hres']
          refine ⟨(s.buf.skip u.length).skip k, ?_, fun n hn => rfl⟩
          rw [hrun, bind_of_ok htry, bind_of_error htry']
      | ok tr' b' =>
          obtain ⟨value, r'⟩ := tr'
          rw [hres'] at hvalue
          obtain ⟨u', m', hu', hne', hm', htry'⟩ := hvalue
          rw [Scan.bind_ok hres']
          have hpos := pos_le_of_chunk (c := s.buf) (by rw [hu]; simp [hne])
          obtain ⟨c, hconsume, hchunk, hend⟩ := hm.consume hu hpos
          obtain ⟨c', hconsume', hchunk', hend'⟩ := hm'.consume (hchunk.trans hu') hend
          have hback : (Decode.setPosition s.buf.pos : Decode S Unit)
              (s.moved b' ((s.buf.skip u.length).skip u'.length)) = .ok () (s.moved b' s.buf) :=
            rfl
          have hmoved : Decode.decodeLiteralName s =
              (Decode.checked (Header.new S name value) : Decode S (Named S)) (s.moved b' c') := by
            have hfirst : (Decode.onBuf m.consume : Decode S Bytes) (s.moved b' s.buf) =
                .ok name (s.moved b' c) := onBuf_of_ok hconsume
            have hsecond : (Decode.onBuf m'.consume : Decode S Bytes) (s.moved b' c) =
                .ok value (s.moved b' c') := onBuf_of_ok hconsume'
            rw [hrun, bind_of_ok htry, bind_of_ok htry', bind_of_ok hback, bind_of_ok hfirst,
              bind_of_ok hsecond]
          exact .of_checked hmoved hchunk' hend'

/-- `decode_literal` reads what the step parser reads. -/
theorem decodeLiteral_scan {s : DecodeState S} {first : UInt8} {x : Bytes} (index : Bool)
    (hc : s.buf.chunk = first :: x) :
    Tracks (Decode.decodeLiteral index) s
      (Scan.literal s.decoder.table (if index then 6 else 4) first x s.decoder.buffer) := by
  have hp : 1 ≤ (if index then 6 else 4) ∧ (if index then 6 else 4) ≤ 8 := by
    cases index <;> decide
  have hint := decodeInt_scan hp hc s.decoder.buffer
  have hrun : Decode.decodeLiteral index s = (do
      let tableIdx ← Decode.onBuf (decodeInt (if index then 6 else 4))
      if tableIdx = 0 then Decode.decodeLiteralName
      else
        let e ← Decode.lookup tableIdx
        let value ← Decode.decodeString
        Decode.checked (e.name.intoEntry value) : Decode S (Named S)) s := rfl
  unfold Scan.literal
  cases hres : Scan.intFrom (if index then 6 else 4) first x s.decoder.buffer with
  | error e b =>
      rw [hres] at hint
      obtain ⟨rfl, k, hdec⟩ := hint
      rw [Scan.bind_error hres]
      exact ⟨s.buf.skip k, hrun.trans (bind_of_error (onBuf_of_error hdec)), fun n hn => rfl⟩
  | ok vr b =>
      obtain ⟨idx, r⟩ := vr
      rw [hres] at hint
      obtain ⟨rfl, u, rfl, hdec⟩ := hint
      rw [Scan.bind_ok hres]
      rw [bind_of_ok (onBuf_of_ok hdec)] at hrun
      have hskip : (s.buf.skip (u.length + 1)).chunk = r :=
        Cursor.skip_chunk (l := first :: u) hc
      have hmoved : ({ s with buf := s.buf.skip (u.length + 1) } : DecodeState S) =
          s.moved s.decoder.buffer (s.buf.skip (u.length + 1)) := rfl
      rw [hmoved] at hrun
      by_cases hzero : idx = 0
      · rw [if_pos hzero] at hrun ⊢
        have hname := decodeLiteralName_scan (s.moved s.decoder.buffer (s.buf.skip (u.length + 1)))
        rw [show (s.moved s.decoder.buffer (s.buf.skip (u.length + 1))).buf.chunk = r from hskip]
          at hname
        unfold Tracks at hname ⊢
        rw [hrun]
        exact hname
      · rw [if_neg hzero] at hrun ⊢
        cases hget : s.decoder.table.get idx with
        | error f =>
            rw [Scan.bind_error (show Scan.lookup (.error f) r _ = .error (.fault f) _ from rfl)]
            exact ⟨_, hrun.trans (bind_of_error (lookup_of_error hget)), fun n hn => by cases hn⟩
        | ok e =>
            rw [Scan.bind_ok (show Scan.lookup (.ok e) r _ = .ok (e, r) _ from rfl)]
            have hlook : Decode.lookup idx (s.moved s.decoder.buffer (s.buf.skip (u.length + 1))) =
                .ok e (s.moved s.decoder.buffer (s.buf.skip (u.length + 1))) := lookup_of_ok hget
            rw [bind_of_ok hlook] at hrun
            have hstr := decodeString_scan (s.moved s.decoder.buffer (s.buf.skip (u.length + 1)))
            rw [show (s.moved s.decoder.buffer (s.buf.skip (u.length + 1))).buf.chunk = r
              from hskip] at hstr
            change Tracks _ _ (Scan.string r s.decoder.buffer) at hstr
            cases hres' : Scan.string r s.decoder.buffer with
            | error e' b' =>
                rw [hres'] at hstr
                obtain ⟨c, hdecode, hbytes⟩ := hstr
                rw [Scan.bind_error hres']
                exact ⟨c, hrun.trans (bind_of_error hdecode), hbytes⟩
            | ok tr b' =>
                obtain ⟨value, r'⟩ := tr
                rw [hres'] at hstr
                obtain ⟨c, hdecode, hchunk, hend⟩ := hstr
                rw [Scan.bind_ok hres']
                rw [bind_of_ok hdecode] at hrun
                have hlast : Decode.decodeLiteral index s =
                    (Decode.checked (e.name.intoEntry value) : Decode S (Named S))
                      (s.moved b' c) := hrun
                exact .of_checked hlast hchunk hend

/-! ## Representations -/

/-- One round of `decode` on the input `x` does what its representation says. -/
def Performs (d : Decoder S) (canResize : Bool) (ty : UInt8) (x : Bytes) (calls : List (Named S)) :
    EStateM.Result Stop Bytes (Item S × Bytes) → Prop
  | .ok (item, r) b =>
      match item.apply d.table with
      | .ok t => Decode.decodeOne canResize ty ⟨d, ⟨x, 0⟩, calls⟩ =
          .ok (canResize && item.isResize)
            ⟨{ d with table := t, buffer := b }, ⟨r, 0⟩, calls ++ item.headers⟩
      | .error p => ∃ c, Decode.decodeOne canResize ty ⟨d, ⟨x, 0⟩, calls⟩ =
          .error (.panic p) ⟨{ d with buffer := b }, c, calls⟩
  | .error e b => ∃ c, Decode.decodeOne canResize ty ⟨d, ⟨x, 0⟩, calls⟩ =
        .error e.toFault ⟨{ d with buffer := b }, c, calls⟩ ∧
      ∀ n, e = .underflow n → c.bytes = x

section Round

variable {d : Decoder S} {canResize : Bool} {ty : UInt8} {x : Bytes} {calls : List (Named S)}

/-- The round of a representation whose kind is known. -/
def decodeAs (canResize : Bool) : Representation → Decode S Bool
  | .indexed => do
      let entry ← Decode.decodeIndexed
      Decode.onBuf Cursor.consume
      Decode.call entry
      return false
  | .literalWithIndexing => do
      let entry ← Decode.decodeLiteral true
      Decode.insertEntry entry
      Decode.onBuf Cursor.consume
      Decode.call entry
      return false
  | .literalWithoutIndexing | .literalNeverIndexed => do
      let entry ← Decode.decodeLiteral false
      Decode.onBuf Cursor.consume
      Decode.call entry
      return false
  | .sizeUpdate => do
      if ¬ canResize then throw (.err .invalidMaxDynamicSize)
      Decode.processSizeUpdate
      Decode.onBuf Cursor.consume
      return canResize

theorem decodeOne_load {rep : Representation} (hload : Representation.load ty = .ok rep) :
    (Decode.decodeOne canResize ty : Decode S Bool) = decodeAs canResize rep := by
  funext s
  unfold Decode.decodeOne
  rw [hload, bind_of_ok (show (Decode.checked (.ok rep) : Decode S Representation) s = .ok rep s
    from rfl)]
  cases rep <;> rfl

/-- The end of a round that calls a header back. -/
theorem finish_round {s : DecodeState S} {r : Bytes} (hchunk : s.buf.chunk = r)
    (hpos : s.buf.pos ≤ s.buf.bytes.length) (entry : Named S) :
    (do Decode.onBuf Cursor.consume
        Decode.call entry
        return false : Decode S Bool) s =
      .ok false ⟨s.decoder, ⟨r, 0⟩, s.calls ++ [entry]⟩ := by
  rw [bind_of_ok (onBuf_of_ok (consume_of_chunk hchunk hpos))]
  rfl

theorem performs_indexed (hload : Representation.load ty = .ok .indexed) :
    Performs d canResize ty (ty :: x) calls (Scan.item d canResize (ty :: x) d.buffer) := by
  have hone : (Decode.decodeOne canResize ty : Decode S Bool) = _ := decodeOne_load hload
  have hint := decodeInt_scan (p := 7) (by decide) (c := ⟨ty :: x, 0⟩) rfl d.buffer
  unfold Scan.item
  rw [Scan.bind_ok (show Scan.octet _ (ty :: x) _ = .ok (ty, x) _ from rfl), hload,
    Scan.bind_ok
      (show Scan.checked (.ok .indexed) x _ = .ok (Representation.indexed, x) _ from rfl)]
  dsimp only
  cases hres : Scan.intFrom 7 ty x d.buffer with
  | error e b =>
      rw [hres] at hint
      obtain ⟨rfl, k, hdec⟩ := hint
      rw [Scan.bind_error hres]
      refine ⟨Cursor.skip ⟨ty :: x, 0⟩ k, ?_, fun n hn => rfl⟩
      rw [hone]
      exact bind_of_error (bind_of_error (onBuf_of_error hdec))
  | ok vr b =>
      obtain ⟨index, r⟩ := vr
      rw [hres] at hint
      obtain ⟨rfl, u, rfl, hdec⟩ := hint
      rw [Scan.bind_ok hres]
      have hskip : (Cursor.skip ⟨ty :: (u ++ r), 0⟩ (u.length + 1)).chunk = r :=
        Cursor.skip_chunk (l := ty :: u) rfl
      have hindexed : (Decode.decodeIndexed : Decode S (Named S))
          ⟨d, ⟨ty :: (u ++ r), 0⟩, calls⟩ =
          Decode.lookup index ⟨d, Cursor.skip ⟨ty :: (u ++ r), 0⟩ (u.length + 1), calls⟩ := by
        unfold Decode.decodeIndexed
        exact bind_of_ok (onBuf_of_ok hdec)
      cases hget : d.table.get index with
      | error f =>
          rw [lookup_of_error hget] at hindexed
          rw [Scan.bind_error (show Scan.lookup (.error f) r _ = .error (.fault f) _ from rfl)]
          refine ⟨Cursor.skip ⟨ty :: (u ++ r), 0⟩ (u.length + 1), ?_, fun n hn => by cases hn⟩
          rw [hone]
          exact bind_of_error hindexed
      | ok h =>
          rw [lookup_of_ok hget] at hindexed
          rw [Scan.bind_ok (show Scan.lookup (.ok h) r _ = .ok (h, r) _ from rfl)]
          show Decode.decodeOne canResize ty _ = .ok (canResize && false) _
          rw [hone, Bool.and_false]
          refine (bind_of_ok hindexed).trans ?_
          exact finish_round hskip (by
            show 0 + (u.length + 1) ≤ (ty :: (u ++ r)).length
            simp) h

theorem performs_literal {index : Bool} {rep : Representation}
    (hload : Representation.load ty = .ok rep)
    (hrep : rep = .literalWithIndexing ∧ index = true ∨
      (rep = .literalWithoutIndexing ∨ rep = .literalNeverIndexed) ∧ index = false) :
    Performs d canResize ty (ty :: x) calls (Scan.item d canResize (ty :: x) d.buffer) := by
  have hone : (Decode.decodeOne canResize ty : Decode S Bool) = _ := decodeOne_load hload
  have hitem : Scan.item d canResize (ty :: x) d.buffer = (do
      let h ← Scan.literal d.table (if index then 6 else 4) ty
      return .field h index : Scan (Item S)) x d.buffer := by
    unfold Scan.item
    rw [Scan.bind_ok (show Scan.octet _ (ty :: x) _ = .ok (ty, x) _ from rfl), hload,
      Scan.bind_ok (show Scan.checked (.ok rep) x _ = .ok (rep, x) _ from rfl)]
    rcases hrep with ⟨rfl, rfl⟩ | ⟨rfl | rfl, rfl⟩ <;> rfl
  have hlit := decodeLiteral_scan (s := ⟨d, ⟨ty :: x, 0⟩, calls⟩) index rfl
  rw [hitem]
  change Tracks _ _ (Scan.literal d.table (if index then 6 else 4) ty x d.buffer) at hlit
  cases hres : Scan.literal d.table (if index then 6 else 4) ty x d.buffer with
  | error e b =>
      rw [hres] at hlit
      obtain ⟨c, hdec, hbytes⟩ := hlit
      rw [Scan.bind_error hres]
      refine ⟨c, ?_, hbytes⟩
      rw [hone]
      rcases hrep with ⟨rfl, rfl⟩ | ⟨rfl | rfl, rfl⟩
      · exact bind_of_error hdec
      · exact bind_of_error hdec
      · exact bind_of_error hdec
  | ok hr b =>
      obtain ⟨h, r⟩ := hr
      rw [hres] at hlit
      obtain ⟨c, hdec, hchunk, hend⟩ := hlit
      rw [Scan.bind_ok hres]
      show match (Item.field h index).apply d.table with
        | .ok t => _
        | .error p => _
      rw [hone]
      rcases hrep with ⟨rfl, rfl⟩ | ⟨rfl | rfl, rfl⟩
      · -- the header goes into the table
        show match d.table.insert h with
          | .ok t => _
          | .error p => _
        have hinsert : (Decode.insertEntry h : Decode S Unit)
            (DecodeState.moved ⟨d, ⟨ty :: x, 0⟩, calls⟩ b c) =
            match d.table.insert h with
            | .ok t => .ok () ⟨{ d with table := t, buffer := b }, c, calls⟩
            | .error p => .error (.panic p) ⟨{ d with buffer := b }, c, calls⟩ := by
          have hget : (Decode.insertEntry h : Decode S Unit)
              (DecodeState.moved ⟨d, ⟨ty :: x, 0⟩, calls⟩ b c) =
              (do let t ← Decode.guarded (d.table.insert h)
                  modify fun s => { s with decoder := { s.decoder with table := t } } :
                Decode S Unit) (DecodeState.moved ⟨d, ⟨ty :: x, 0⟩, calls⟩ b c) := rfl
          rw [hget]
          cases d.table.insert h with
          | ok t => rfl
          | error p => rfl
        cases hins : d.table.insert h with
        | ok t =>
            rw [hins] at hinsert
            show _ = EStateM.Result.ok (canResize && false) _
            rw [Bool.and_false]
            refine (bind_of_ok hdec).trans ((bind_of_ok hinsert).trans ?_)
            exact finish_round hchunk hend h
        | error p =>
            rw [hins] at hinsert
            exact ⟨c, (bind_of_ok hdec).trans (bind_of_error hinsert)⟩
      · show _ = EStateM.Result.ok (canResize && false) _
        rw [Bool.and_false]
        exact (bind_of_ok hdec).trans (finish_round hchunk hend h)
      · show _ = EStateM.Result.ok (canResize && false) _
        rw [Bool.and_false]
        exact (bind_of_ok hdec).trans (finish_round hchunk hend h)

/-- `process_size_update` with the size it has read. -/
theorem processSizeUpdate_of_ok {s : DecodeState S} {n : Nat} {c : Cursor}
    (hint : decodeInt 5 s.buf = .ok n c) :
    (Decode.processSizeUpdate : Decode S Unit) s =
      if n > s.decoder.lastMaxUpdate then
        .error (.err .invalidMaxDynamicSize) { s with buf := c }
      else
        match s.decoder.table.setMaxSize n with
        | .ok t => .ok () { s with decoder := { s.decoder with table := t }, buf := c }
        | .error p => .error (.panic p) { s with buf := c } := by
  rw [Decode.processSizeUpdate, bind_of_ok (onBuf_of_ok hint), get_bind]
  by_cases hlarge : n > s.decoder.lastMaxUpdate
  · rw [if_pos hlarge, if_pos hlarge]
    rfl
  · rw [if_neg hlarge, if_neg hlarge]
    cases s.decoder.table.setMaxSize n with
    | ok t => rfl
    | error p => rfl

theorem performs_sizeUpdate (hload : Representation.load ty = .ok .sizeUpdate) :
    Performs d canResize ty (ty :: x) calls (Scan.item d canResize (ty :: x) d.buffer) := by
  have hone : (Decode.decodeOne canResize ty : Decode S Bool) = _ := decodeOne_load hload
  have hint := decodeInt_scan (p := 5) (by decide) (c := ⟨ty :: x, 0⟩) rfl d.buffer
  unfold Scan.item
  rw [Scan.bind_ok (show Scan.octet _ (ty :: x) _ = .ok (ty, x) _ from rfl), hload,
    Scan.bind_ok (show Scan.checked (.ok .sizeUpdate) x _ = .ok (Representation.sizeUpdate, x) _
      from rfl)]
  dsimp only
  cases canResize with
  | false =>
      refine ⟨⟨ty :: x, 0⟩, ?_, fun n hn => by cases hn⟩
      rw [hone]
      rfl
  | true =>
      have hround : (decodeAs true .sizeUpdate : Decode S Bool) ⟨d, ⟨ty :: x, 0⟩, calls⟩ =
          (do
            Decode.processSizeUpdate
            Decode.onBuf Cursor.consume
            return true : Decode S Bool) ⟨d, ⟨ty :: x, 0⟩, calls⟩ := rfl
      rw [if_neg (not_not_intro rfl)]
      cases hres : Scan.intFrom 5 ty x d.buffer with
      | error e b =>
          rw [hres] at hint
          obtain ⟨rfl, k, hdec⟩ := hint
          rw [Scan.bind_error hres]
          refine ⟨Cursor.skip ⟨ty :: x, 0⟩ k, ?_, fun n hn => rfl⟩
          rw [hone, hround]
          exact bind_of_error (bind_of_error (onBuf_of_error hdec))
      | ok vr b =>
          obtain ⟨n, r⟩ := vr
          rw [hres] at hint
          obtain ⟨rfl, u, rfl, hdec⟩ := hint
          rw [Scan.bind_ok hres]
          have hskip : (Cursor.skip ⟨ty :: (u ++ r), 0⟩ (u.length + 1)).chunk = r :=
            Cursor.skip_chunk (l := ty :: u) rfl
          have hcons := consume_of_chunk hskip (by
            show 0 + (u.length + 1) ≤ (ty :: (u ++ r)).length
            simp)
          have hsize := processSizeUpdate_of_ok (s := ⟨d, ⟨ty :: (u ++ r), 0⟩, calls⟩) hdec
          by_cases hlarge : n > d.lastMaxUpdate
          · rw [if_pos hlarge] at hsize ⊢
            refine ⟨Cursor.skip ⟨ty :: (u ++ r), 0⟩ (u.length + 1), ?_, fun n hn => by cases hn⟩
            rw [hone, hround]
            exact bind_of_error hsize
          · rw [if_neg hlarge] at hsize ⊢
            dsimp only at hsize
            show match d.table.setMaxSize n with
              | .ok t => _
              | .error p => _
            rw [hone, hround]
            cases hset : d.table.setMaxSize n with
            | ok t =>
                rw [hset] at hsize
                show _ = EStateM.Result.ok (true && true) _
                refine (bind_of_ok hsize).trans ((bind_of_ok (onBuf_of_ok hcons)).trans ?_)
                show _ = EStateM.Result.ok true (⟨_, _, calls ++ []⟩ : DecodeState S)
                rw [List.append_nil]
                rfl
            | error p =>
                rw [hset] at hsize
                exact ⟨_, bind_of_error hsize⟩

/-- A round of `decode` does what the representation at the front of the input says. -/
theorem decodeOne_scan (d : Decoder S) (canResize : Bool) (ty : UInt8) (x : Bytes)
    (calls : List (Named S)) :
    Performs d canResize ty (ty :: x) calls (Scan.item d canResize (ty :: x) d.buffer) := by
  cases hload : Representation.load ty with
  | error e =>
      have hitem : Scan.item d canResize (ty :: x) d.buffer =
          .error (.fault (.err e)) d.buffer := by
        unfold Scan.item
        rw [Scan.bind_ok (show Scan.octet _ (ty :: x) _ = .ok (ty, x) _ from rfl), hload]
        exact Scan.bind_error rfl
      rw [hitem]
      refine ⟨⟨ty :: x, 0⟩, ?_, fun n hn => by cases hn⟩
      unfold Decode.decodeOne
      rw [hload]
      exact bind_of_error rfl
  | ok rep =>
      cases rep with
      | indexed => exact performs_indexed hload
      | literalWithIndexing => exact performs_literal hload (.inl ⟨rfl, rfl⟩)
      | literalWithoutIndexing => exact performs_literal hload (.inr ⟨.inl rfl, rfl⟩)
      | literalNeverIndexed => exact performs_literal hload (.inr ⟨.inr rfl, rfl⟩)
      | sizeUpdate => exact performs_sizeUpdate hload

end Round

end NtexH2.Hpack
