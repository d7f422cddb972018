/-
  Hpack/Scratch.lean --- what a rejected representation leaves behind.

  A representation touches the table only once it is complete, but its Huffman-coded
  strings are decoded into a buffer that the decoder keeps.  A string that is accepted is
  taken out of the buffer; one that breaks off leaves the octets decoded so far, and the
  next Huffman-coded string is written behind them.
-/
import NtexH2.Hpack.HostileInput
import NtexH2.Hpack.Agreement

set_option autoImplicit false

namespace NtexH2.Hpack

variable {S : HttpSyntax}

/-! ## The Huffman decoder and its buffer -/

namespace Huffman

theorem decodeLoop_append (src : Bytes) : ∀ (d : Decoder) (buf : Bytes),
    decodeLoop src d buf = ((decodeLoop src d []).1, buf ++ (decodeLoop src d []).2) := by
  induction src with
  | nil =>
      intro d buf
      rw [decodeLoop, decodeLoop, List.append_nil]
  | cons b src ih =>
      intro d buf
      rw [decodeLoop, decodeLoop]
      cases hhi : d.decode4 (b >>> 4).toNat with
      | error e =>
          dsimp only
          rw [List.append_nil]
      | ok r =>
          obtain ⟨d1, hi⟩ := r
          dsimp only
          cases hlo : d1.decode4 (b &&& 0xf).toNat with
          | error e =>
              dsimp only
              rw [List.nil_append]
          | ok r =>
              obtain ⟨d2, lo⟩ := r
              dsimp only
              rw [ih d2 (buf ++ hi.toList ++ lo.toList), ih d2 ([] ++ hi.toList ++ lo.toList)]
              simp only [List.nil_append, List.append_assoc]

/-- What was in the buffer stays in front of what is decoded. -/
theorem decode_append (src buf : Bytes) :
    decode src buf =
      match decode src [] with
      | (.ok text, _) => (.ok (buf ++ text), [])
      | (.error f, left) => (.error f, buf ++ left) := by
  unfold decode
  rw [decodeLoop_append src .new buf]
  cases hloop : decodeLoop src .new [] with
  | mk r text =>
      cases r with
      | error e => rfl
      | ok d =>
          dsimp only
          split
          · rfl
          · rfl

end Huffman

namespace Scan

/-! ## Step parsers that leave the buffer alone -/

/-- The buffer that a step parser leaves. -/
def bufferOf {α : Type} : EStateM.Result Stop Bytes α → Bytes
  | .ok _ b => b
  | .error _ b => b

/-- The result of a step parser with another buffer. -/
def withBuffer {α : Type} (b : Bytes) : EStateM.Result Stop Bytes α → EStateM.Result Stop Bytes α
  | .ok a _ => .ok a b
  | .error e _ => .error e b

/-- A step parser that takes no notice of the buffer. -/
def Blind {α : Type} (p : Scan α) : Prop := ∀ x b, p x b = withBuffer b (p x [])

variable {α β : Type}

theorem Blind.bind {p : Scan α} {q : α → Scan β} (hp : Blind p) (hq : ∀ a, Blind (q a)) :
    Blind (p >>= q) := by
  intro x b
  cases hres : p x [] with
  | error e b1 =>
      have hb : p x b = .error e b := by
        rw [hp, hres]
        rfl
      rw [bind_error hb, bind_error hres]
      rfl
  | ok ar b1 =>
      obtain ⟨a, r⟩ := ar
      have hb : p x b = .ok (a, r) b := by
        rw [hp, hres]
        rfl
      have hnil : p x [] = .ok (a, r) [] := by
        rw [hp, hres]
        rfl
      rw [bind_ok hb, bind_ok hnil, hq]

theorem blind_pure (a : α) : Blind (pure a : Scan α) := fun _ _ => rfl

theorem blind_stop (e : Stop) : Blind (stop e : Scan α) := fun _ _ => rfl

theorem blind_octet (n : NeedMore) : Blind (octet n) := by
  intro x b
  cases x with
  | nil => rfl
  | cons c x => rfl

theorem blind_take (len : Nat) : Blind (take len) := by
  intro x b
  unfold take
  split
  · rfl
  · rfl

theorem blind_intTail (left : Nat) : ∀ shift ret, Blind (intTail left shift ret) := by
  induction left with
  | zero =>
      intro shift ret
      rw [intTail]
      refine (blind_octet _).bind fun b => ?_
      split
      · exact blind_pure _
      · exact blind_stop _
  | succ left ih =>
      intro shift ret
      rw [intTail]
      refine (blind_octet _).bind fun b => ?_
      split
      · exact blind_pure _
      · exact ih _ _

theorem blind_intFrom (prefixSize : Nat) (first : UInt8) : Blind (intFrom prefixSize first) := by
  unfold intFrom
  dsimp only
  split
  · exact blind_pure _
  · exact blind_intTail _ _ _

theorem blind_framed : Blind framed :=
  (blind_octet _).bind fun _ => (blind_intFrom _ _).bind fun _ => (blind_take _).bind fun _ =>
    blind_pure _

theorem blind_checked (r : Except DecoderError α) : Blind (checked r) := by
  cases r with
  | ok a => exact blind_pure a
  | error e => exact blind_stop _

theorem blind_lookup (r : Except Fault α) : Blind (lookup r) := by
  cases r with
  | ok a => exact blind_pure a
  | error e => exact blind_stop _

/-- Nothing happens to the buffer. -/
theorem Blind.bufferOf {p : Scan α} (h : Blind p) (x b : Bytes) : bufferOf (p x b) = b := by
  rw [h]
  cases p x [] with
  | ok a b' => rfl
  | error e b' => rfl

/-- Behind a step parser that takes no notice of the buffer. -/
theorem Blind.bufferOf_bind {p : Scan α} (h : Blind p) (q : α → Scan β) (x b : Bytes) :
    Scan.bufferOf ((p >>= q) x b) =
      match p x [] with
      | .ok (a, r) _ => Scan.bufferOf (q a r b)
      | .error _ _ => b := by
  have hb := h x b
  cases hres : p x [] with
  | error e b1 =>
      rw [hres] at hb
      rw [bind_error hb]
      rfl
  | ok ar b1 =>
      obtain ⟨a, r⟩ := ar
      rw [hres] at hb
      rw [bind_ok hb]

/-! ## The strings that are handed to the Huffman decoder -/

/-- What the Huffman decoder leaves in the buffer, one string after the other. -/
def scratch (b : Bytes) (raws : List Bytes) : Bytes :=
  raws.foldl (fun b raw => (Huffman.decode raw b).2) b

/-- The Huffman-coded string at the front, and the octets behind a string that is accepted. -/
def stringHands (x : Bytes) : List Bytes × Option Bytes :=
  match framed x [] with
  | .ok ((true, raw), r) _ =>
      match (Huffman.decode raw []).1 with
      | .ok _ => ([raw], some r)
      | .error _ => ([raw], none)
  | .ok ((false, _), r) _ => ([], some r)
  | .error _ _ => ([], none)

/-- The Huffman-coded strings of a literal, up to the first one that is not accepted. -/
def literalHands (t : DecoderTable S) (prefixSize : Nat) (first : UInt8) (x : Bytes) :
    List Bytes :=
  match intFrom prefixSize first x [] with
  | .ok (index, r) _ =>
      if index = 0 then
        (stringHands r).1 ++ match (stringHands r).2 with
          | some r => (stringHands r).1
          | none => []
      else
        match t.get index with
        | .ok _ => (stringHands r).1
        | .error _ => []
  | .error _ _ => []

/-- The Huffman-coded strings of a representation, up to the first one that is not accepted. -/
def itemHands (t : DecoderTable S) : Bytes → List Bytes
  | [] => []
  | ty :: x =>
      match Representation.load ty with
      | .ok .literalWithIndexing => literalHands t 6 ty x
      | .ok .literalWithoutIndexing => literalHands t 4 ty x
      | .ok .literalNeverIndexed => literalHands t 4 ty x
      | .ok .indexed => []
      | .ok .sizeUpdate => []
      | .error _ => []

/-- A string is handed over as `stringHands` says. -/
theorem string_hands (x b : Bytes) :
    match string x b with
    | .ok (_, r) b' => (stringHands x).2 = some r ∧ b' = scratch b (stringHands x).1
    | .error _ b' => (stringHands x).2 = none ∧ b' = scratch b (stringHands x).1 := by
  have hframed := blind_framed x b
  unfold stringHands string
  cases hres : framed x [] with
  | error e b1 =>
      rw [hres] at hframed
      rw [bind_error hframed]
      exact ⟨rfl, rfl⟩
  | ok sr b1 =>
      obtain ⟨⟨coded, raw⟩, r⟩ := sr
      rw [hres] at hframed
      rw [bind_ok hframed]
      cases coded with
      | false =>
          rw [text_plain]
          exact ⟨rfl, rfl⟩
      | true =>
          have hdec := Huffman.decode_append raw b
          rw [text_huffman]
          unfold huffman
          cases hnil : Huffman.decode raw [] with
          | mk res left =>
              rw [hnil] at hdec
              cases res with
              | ok text =>
                  dsimp only at hdec ⊢
                  rw [hdec, hnil]
                  refine ⟨rfl, ?_⟩
                  show [] = (Huffman.decode raw b).2
                  rw [hdec]
              | error f =>
                  dsimp only at hdec ⊢
                  rw [hdec, hnil]
                  refine ⟨rfl, ?_⟩
                  show b ++ left = (Huffman.decode raw b).2
                  rw [hdec]

/-- Behind a string. -/
theorem bufferOf_string_bind (q : Bytes → Scan β) (raws : Bytes → List Bytes)
    (hq : ∀ s r b, bufferOf (q s r b) = scratch b (raws r)) (x b : Bytes) :
    bufferOf ((string >>= q) x b) =
      scratch b ((stringHands x).1 ++ match (stringHands x).2 with
        | some r => raws r
        | none => []) := by
  have hstring := string_hands x b
  unfold scratch
  rw [List.foldl_append]
  cases hres : string x b with
  | error e b1 =>
      rw [hres] at hstring
      obtain ⟨hnone, rfl⟩ := hstring
      rw [bind_error hres, hnone]
      rfl
  | ok sr b1 =>
      obtain ⟨s, r⟩ := sr
      rw [hres] at hstring
      obtain ⟨hsome, rfl⟩ := hstring
      rw [bind_ok hres, hsome, hq]
      rfl

/-- Behind the last string of a representation nothing happens to the buffer. -/
theorem bufferOf_string_last {q : Bytes → Scan β} (hq : ∀ s, Blind (q s)) (x b : Bytes) :
    bufferOf ((string >>= q) x b) = scratch b (stringHands x).1 := by
  rw [bufferOf_string_bind q (fun _ => []) (fun s r b => (hq s).bufferOf r b)]
  cases (stringHands x).2 with
  | none => rw [List.append_nil]
  | some r => rw [List.append_nil]

theorem bufferOf_literal {t : DecoderTable S} {prefixSize : Nat} {first : UInt8}
    {q : Named S → Scan β} (hq : ∀ h, Blind (q h)) (x b : Bytes) :
    bufferOf ((literal t prefixSize first >>= q) x b) =
      scratch b (literalHands t prefixSize first x) := by
  unfold literal literalHands
  rw [bind_assoc, (blind_intFrom _ _).bufferOf_bind]
  cases hres : intFrom prefixSize first x [] with
  | error e b1 => rfl
  | ok ir b1 =>
      obtain ⟨index, r⟩ := ir
      dsimp only
      by_cases hzero : index = 0
      · rw [if_pos hzero, if_pos hzero, bind_assoc]
        refine bufferOf_string_bind _ (fun r => (stringHands r).1) (fun name r b => ?_) r b
        rw [bind_assoc]
        exact bufferOf_string_last (fun value => (blind_checked _).bind hq) r b
      · rw [if_neg hzero, if_neg hzero, bind_assoc]
        cases hget : t.get index with
        | error f => rfl
        | ok e =>
            have hlookup : (lookup (.ok e) : Scan (Named S)) r b = .ok (e, r) b := rfl
            rw [bind_ok hlookup, bind_assoc]
            exact bufferOf_string_last (fun value => (blind_checked _).bind hq) r b

/-- What a representation leaves in the buffer. -/
theorem bufferOf_item (d : Decoder S) (canResize : Bool) (x b : Bytes) :
    bufferOf (item d canResize x b) = scratch b (itemHands d.table x) := by
  cases x with
  | nil => rfl
  | cons ty x =>
      have hoctet : octet .unexpectedEndOfStream (ty :: x) b = .ok (ty, x) b := rfl
      rw [item, itemHands, bind_ok hoctet]
      cases hload : Representation.load ty with
      | error e => rfl
      | ok rep =>
          have hrep : (checked (.ok rep) : Scan Representation) x b = .ok (rep, x) b := rfl
          rw [bind_ok hrep]
          cases rep with
          | indexed =>
              exact ((blind_intFrom _ _).bind fun index => (blind_lookup _).bind fun h =>
                blind_pure _).bufferOf x b
          | literalWithIndexing => exact bufferOf_literal (fun h => blind_pure _) x b
          | literalWithoutIndexing => exact bufferOf_literal (fun h => blind_pure _) x b
          | literalNeverIndexed => exact bufferOf_literal (fun h => blind_pure _) x b
          | sizeUpdate =>
              refine Blind.bufferOf ?_ x b
              dsimp only
              split
              · exact blind_stop _
              · refine (blind_intFrom _ _).bind fun n => ?_
                split
                · exact blind_stop _
                · exact blind_pure _

end Scan

open Scan

/-! ## Two decoders from the outside -/

/-- What a call of `decode` shows: the result, the octets that are left, the headers, and the
table. -/
def outcome : EStateM.Result Fault (DecodeState S) Unit →
    Except Fault Unit × Cursor × List (Named S) × DecoderTable S
  | .ok _ s => (.ok (), s.buf, s.calls, s.decoder.table)
  | .error f s => (.error f, s.buf, s.calls, s.decoder.table)

/-- No later input tells the two decoders apart. -/
def Decoder.Alike (d d' : Decoder S) : Prop :=
  ∀ blocks x, outcome ((d.feed blocks).decode ⟨x, 0⟩) = outcome ((d'.feed blocks).decode ⟨x, 0⟩)

theorem eq_error_of_outcome {res : EStateM.Result Fault (DecodeState S) Unit} {f : Fault}
    (h : (outcome res).1 = .error f) : res = .error f (stateOf res) := by
  cases res with
  | ok u s => cases h
  | error f' s =>
      cases h
      rfl

/-- `:path: /`, with a Huffman-coded value. -/
def probe : Bytes := [0x04, 0x81, 0x63]

/-- The value of the probe is read behind what is in the buffer. -/
theorem item_probe (d : Decoder S) (canResize : Bool) (b : Bytes) :
    Scan.item d canResize probe b =
      (checked ((ByteString.tryFrom S (b ++ octets "/")).map Header.path) >>= fun h =>
        pure (Item.field h false)) [] [] := by
  have hnil : Huffman.decode [0x63] [] = (.ok (octets "/"), []) := by decide +kernel
  have hdec := Huffman.decode_append [0x63] b
  rw [hnil] at hdec
  dsimp only at hdec
  have hframed : framed [0x81, 0x63] b = .ok ((true, [0x63]), []) b := rfl
  have hstring : string [0x81, 0x63] b = .ok (b ++ octets "/", []) [] := by
    rw [string, bind_ok hframed, text_huffman, huffman, hdec]
  have hname : intFrom 4 0x04 [0x81, 0x63] b = .ok (4, [0x81, 0x63]) b := rfl
  have hliteral : literal d.table 4 0x04 [0x81, 0x63] b =
      checked ((ByteString.tryFrom S (b ++ octets "/")).map Header.path) [] [] := by
    rw [literal, bind_ok hname, if_neg (by decide)]
    show (string >>= fun value => checked ((ByteString.tryFrom S value).map Header.path))
      [0x81, 0x63] b = _
    rw [bind_ok hstring]
  show (literal d.table 4 0x04 >>= fun h => pure (Item.field h false)) [0x81, 0x63] b = _
  show EStateM.bind (literal d.table 4 0x04 [0x81, 0x63]) _ b = _
  rw [EStateM.bind, hliteral]
  rfl

theorem takeSizeUpdate_buffer (d : Decoder S) : d.takeSizeUpdate.buffer = d.buffer := by
  unfold Decoder.takeSizeUpdate
  split
  · rfl
  · rfl

/-- The probe shows the buffer. -/
theorem decode_probe {d : Decoder S} (h : S.byteString (d.buffer ++ octets "/") = true) :
    ∃ s, d.decode ⟨probe, 0⟩ = .ok () s ∧ s.calls = [.path ⟨d.buffer ++ octets "/", h⟩] := by
  have hitem : Scan.item d.takeSizeUpdate true probe d.takeSizeUpdate.buffer =
      .ok (.field (.path ⟨d.buffer ++ octets "/", h⟩) false, []) [] := by
    rw [item_probe, takeSizeUpdate_buffer, ByteString.tryFrom, dif_pos h]
    rfl
  exact ⟨_, decode_of_reads (.item hitem rfl (.done _ _ _)), rfl⟩

theorem decode_probe_calls {d : Decoder S} {s : DecodeState S}
    (h : d.decode ⟨probe, 0⟩ = .ok () s) :
    ∃ v, s.calls = [.path v] ∧ v.bytes = d.buffer ++ octets "/" := by
  obtain ⟨canResize', hreads, hs⟩ := reads_of_decode h
  have hcalls : s.calls = (d.items probe).flatMap Item.headers := congrArg DecodeState.calls hs
  have hbuffer := takeSizeUpdate_buffer d
  rw [hcalls, ← hbuffer]
  generalize d.items probe = items at hreads
  generalize s.decoder = d'' at hreads
  generalize d.takeSizeUpdate = d' at hreads
  cases hreads with
  | item hitem happly hrest =>
      rw [item_probe] at hitem
      unfold ByteString.tryFrom at hitem
      split at hitem
      · cases hitem
        cases hrest with
        | done => exact ⟨_, rfl, rfl⟩
        | item hitem' => cases hitem'
      · cases hitem

/-- Decoders are told apart by what is in their buffers. -/
theorem Decoder.Alike.buffer {d d' : Decoder S} (h : d.Alike d')
    (hok : S.byteString (d'.buffer ++ octets "/") = true) : d.buffer = d'.buffer := by
  obtain ⟨s', hs', hcalls'⟩ := decode_probe hok
  have heq : outcome (d.decode ⟨probe, 0⟩) = outcome (d'.decode ⟨probe, 0⟩) := h [] probe
  rw [hs'] at heq
  cases hres : d.decode ⟨probe, 0⟩ with
  | error f s =>
      rw [hres] at heq
      cases congrArg Prod.fst heq
  | ok u s =>
      obtain ⟨v, hcalls, hv⟩ := decode_probe_calls hres
      rw [hres] at heq
      have hsame : s.calls = s'.calls := congrArg (fun o => o.2.2.1) heq
      rw [hcalls, hcalls'] at hsame
      injection hsame with hpath
      injection hpath with hvalue
      rw [hvalue] at hv
      exact List.append_cancel_right hv.symm

/-! ## A rejected representation -/

/-- `decode` reports an error: `good` are the complete representations in front of the failing
one, and decoding these alone leaves the decoder `d'` and calls the same headers back.  The
failing one leaves `d'` as it is if its Huffman-coded strings, decoded on top of what is in the
buffer, leave the buffer as it is; and if they do not, the octets left there are seen later. -/
theorem rejected_traceless (d : Decoder S) (x : Bytes) {e : DecoderError} {s : DecodeState S}
    (h : d.decode ⟨x, 0⟩ = .error (.err e) s) :
    ∃ good bad d' canResize stop b,
      x = good ++ bad ∧ d.decode ⟨good, 0⟩ = .ok () ⟨d', ⟨[], 0⟩, s.calls⟩ ∧
      Reads d.takeSizeUpdate true good (d.items x) d' canResize [] ∧
      Scan.item d' canResize bad d'.buffer = .error stop b ∧ stop.toFault = .err e ∧
      (s.decoder = d' ↔ scratch d'.buffer (itemHands d'.table bad) = d'.buffer) ∧
      (S.byteString (d'.buffer ++ octets "/") = true →
        (s.decoder.Alike d' ↔ scratch d'.buffer (itemHands d'.table bad) = d'.buffer)) := by
  obtain ⟨d', canResize, bad, hreads, hends⟩ := decode_reads d x
  rw [h] at hends
  obtain ⟨good, rfl, hmore⟩ := hreads.append
  have hgood := hmore []
  rw [List.append_nil] at hgood
  generalize hres : EStateM.Result.error (Fault.err e) s = res at hends
  cases hends with
  | finished => cases hres
  | broken hscan happly => cases hres
  | @stopped _ b stop c hne hscan hbytes =>
      have hbuffer := bufferOf_item d' canResize bad d'.buffer
      rw [hscan] at hbuffer
      have hbuffer : b = scratch d'.buffer (itemHands d'.table bad) := hbuffer
      injection hres with hfault hs
      subst hs
      have hstate : ({ d' with buffer := b } : Decoder S) = d' ↔
          scratch d'.buffer (itemHands d'.table bad) = d'.buffer := by
        rw [← hbuffer]
        constructor
        · intro heq
          exact congrArg Decoder.buffer heq
        · rintro rfl
          rfl
      refine ⟨good, bad, d', canResize, stop, b, rfl, decode_of_reads hgood, hgood, hscan,
        hfault.symm, hstate, fun hok => ?_⟩
      constructor
      · intro halike
        exact hbuffer.symm.trans (halike.buffer hok)
      · intro hclean
        rw [hstate.mpr hclean]
        exact fun blocks x => rfl

/-- A field with the name `a` and a Huffman-coded value that breaks off behind an `a`. -/
def brokenOff : Bytes := [0x00, 0x01, 0x61, 0x81, 0x18]

theorem brokenOff_rejected :
    (outcome ((Decoder.default Link.asciiSyntax).decode ⟨brokenOff, 0⟩)).1 =
      .error (.err .invalidHuffmanCode) := by decide +kernel

theorem rejected_traceless_brokenOff :
    ∃ good bad d' canResize stop b, brokenOff = good ++ bad ∧
      (Decoder.default Link.asciiSyntax).decode ⟨good, 0⟩ = .ok () ⟨d', ⟨[], 0⟩,
        (stateOf ((Decoder.default Link.asciiSyntax).decode ⟨brokenOff, 0⟩)).calls⟩ ∧
      Reads (Decoder.default Link.asciiSyntax) true good
        ((Decoder.default Link.asciiSyntax).items brokenOff) d' canResize [] ∧
      Scan.item d' canResize bad d'.buffer = .error stop b ∧
      stop.toFault = .err .invalidHuffmanCode ∧
      ((stateOf ((Decoder.default Link.asciiSyntax).decode ⟨brokenOff, 0⟩)).decoder = d' ↔
        scratch d'.buffer (itemHands d'.table bad) = d'.buffer) ∧
      (Link.asciiSyntax.byteString (d'.buffer ++ octets "/") = true →
        ((stateOf ((Decoder.default Link.asciiSyntax).decode ⟨brokenOff, 0⟩)).decoder.Alike d' ↔
          scratch d'.buffer (itemHands d'.table bad) = d'.buffer)) :=
  rejected_traceless _ brokenOff (eq_error_of_outcome brokenOff_rejected)

/-- The `a` is left in the buffer, and the next path is read as `a/`. -/
theorem rejected_trace :
    let d := Decoder.default Link.asciiSyntax
    let s := stateOf (d.decode ⟨brokenOff, 0⟩)
    d.decode ⟨brokenOff, 0⟩ = .error (.err .invalidHuffmanCode) s ∧
    d.items brokenOff = [] ∧ d.decode ⟨[], 0⟩ = .ok () ⟨d, ⟨[], 0⟩, []⟩ ∧
    (outcome (s.decoder.decode ⟨probe, 0⟩)).2.2.1.map Header.valueSlice = [octets "a/"] ∧
    (outcome (d.decode ⟨probe, 0⟩)).2.2.1.map Header.valueSlice = [octets "/"] ∧
    ¬s.decoder.Alike d := by
  have hdirty : (outcome ((stateOf ((Decoder.default Link.asciiSyntax).decode
      ⟨brokenOff, 0⟩)).decoder.decode ⟨probe, 0⟩)).2.2.1.map Header.valueSlice =
      [octets "a/"] := by decide +kernel
  have hclean : (outcome ((Decoder.default Link.asciiSyntax).decode
      ⟨probe, 0⟩)).2.2.1.map Header.valueSlice = [octets "/"] := by decide +kernel
  refine ⟨eq_error_of_outcome brokenOff_rejected, rfl, rfl, hdirty, hclean, fun halike => ?_⟩
  have heq : outcome (_ : EStateM.Result _ _ _) = outcome _ := halike [] probe
  have hsame := congrArg (fun o => o.2.2.1.map Header.valueSlice) heq
  exact absurd (hdirty.symm.trans (hsame.trans hclean)) (by decide)

end NtexH2.Hpack
