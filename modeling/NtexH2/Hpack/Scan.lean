/-
  Hpack/Scan.lean --- what a representation says, without the cursor.

  The decoder works on a cursor that is advanced, rewound and cut off.  Here it is
  described as a step parser: it takes octets off the front of the input, and the
  scratch buffer of the Huffman decoder is all that it changes.  A step parser stops
  because the input has ended, or because of a fault that more input does not repair.
-/
import NtexH2.Hpack.Representations

set_option autoImplicit false

namespace NtexH2.Hpack

variable {S : HttpSyntax}

/-- Why a step parser stops. -/
inductive Stop where
  | underflow (n : NeedMore)
  | fault (f : Fault)
  deriving DecidableEq, Repr

/-- The error that is reported. -/
def Stop.toFault : Stop → Fault
  | .underflow n => .err (.needMore n)
  | .fault f => f

/-- A step parser: the input is its state, and the scratch buffer is kept on an error. -/
abbrev Scan (α : Type) := StateT Bytes (EStateM Stop Bytes) α

namespace Scan

variable {α β : Type}

/-- The end of a step parser. -/
def stop (e : Stop) : Scan α := fun _ b => .error e b

/-- One octet. -/
def octet (n : NeedMore) : Scan UInt8 := fun x b =>
  match x with
  | [] => .error (.underflow n) b
  | c :: x => .ok (c, x) b

/-- A known number of octets. -/
def take (len : Nat) : Scan Bytes := fun x b =>
  if len ≤ x.length then .ok (x.take len, x.drop len) b
  else .error (.underflow .stringUnderflow) b

/-- A check that reads nothing. -/
def checked (r : Except DecoderError α) : Scan α :=
  match r with
  | .ok a => pure a
  | .error e => stop (.fault (.err e))

/-- A lookup. -/
def lookup (r : Except Fault α) : Scan α :=
  match r with
  | .ok a => pure a
  | .error f => stop (.fault f)

/-- The octets of an integer behind the first one; `left` more may follow the next one. -/
def intTail : Nat → Nat → Nat → Scan Nat
  | left, shift, ret => do
      let b ← octet .integerUnderflow
      let ret := ret + (b &&& 0x7f).toNat <<< shift
      if b &&& 0x80 = 0 then pure ret
      else
        match left with
        | 0 => stop (.fault (.err .integerOverflow))
        | left + 1 => intTail left (shift + 7) ret

/-- An integer whose first octet has been read. -/
def intFrom (prefixSize : Nat) (first : UInt8) : Scan Nat :=
  let mask := 2 ^ prefixSize - 1
  let ret := first.toNat &&& mask
  if ret < mask then pure ret else intTail 3 0 ret

/-- The Huffman decoder. -/
def huffman (raw : Bytes) : Scan Bytes := fun x b =>
  match Huffman.decode raw b with
  | (.ok text, b) => .ok (text, x) b
  | (.error f, b) => .error (.fault f) b

/-- The octets of a string, and whether they are Huffman-coded. -/
def framed : Scan (Bool × Bytes) := do
  let first ← octet .unexpectedEndOfStream
  let len ← intFrom 7 first
  let raw ← take len
  pure (decide (first &&& 0b10000000 = 0b10000000), raw)

/-- What the octets of a string stand for. -/
def text (s : Bool × Bytes) : Scan Bytes := if s.1 then huffman s.2 else pure s.2

theorem text_huffman (raw : Bytes) : text (true, raw) = huffman raw := if_pos rfl

theorem text_plain (raw : Bytes) : text (false, raw) = pure raw := if_neg Bool.false_ne_true

/-- A string. -/
def string : Scan Bytes := framed >>= text

/-- A literal whose first octet has been read. -/
def literal (t : DecoderTable S) (prefixSize : Nat) (first : UInt8) : Scan (Named S) := do
  let index ← intFrom prefixSize first
  if index = 0 then
    let name ← string
    let value ← string
    checked (Header.new S name value)
  else
    let e ← lookup (t.get index)
    let value ← string
    checked (e.name.intoEntry value)

end Scan

/-- What a representation says: a header, which may be inserted into the table, or the size of
the table. -/
inductive Item (S : HttpSyntax) where
  | field (h : Named S) (inserted : Bool)
  | resize (n : Nat)

namespace Item

/-- The headers that are called back. -/
def headers : Item S → List (Named S)
  | .field h _ => [h]
  | .resize _ => []

/-- A size update. -/
def isResize : Item S → Bool
  | .field _ _ => false
  | .resize _ => true

/-- What happens to the table. -/
def apply (t : DecoderTable S) : Item S → Except Panic (DecoderTable S)
  | .field h true => t.insert h
  | .field _ false => .ok t
  | .resize n => t.setMaxSize n

end Item

/-- A representation. -/
def Scan.item (d : Decoder S) (canResize : Bool) : Scan (Item S) := do
  let ty ← octet .unexpectedEndOfStream
  match ← checked (Representation.load ty) with
  | .indexed =>
      let index ← intFrom 7 ty
      let h ← lookup (d.table.get index)
      return .field h false
  | .literalWithIndexing =>
      let h ← literal d.table 6 ty
      return .field h true
  | .literalWithoutIndexing | .literalNeverIndexed =>
      let h ← literal d.table 4 ty
      return .field h false
  | .sizeUpdate =>
      if ¬ canResize then stop (.fault (.err .invalidMaxDynamicSize))
      else
        let n ← intFrom 5 ty
        if n > d.lastMaxUpdate then stop (.fault (.err .invalidMaxDynamicSize))
        else return .resize n

/-! ## Locality -/

namespace Scan

variable {α β : Type}

/-- A step parser looks at no octet that it does not take. -/
structure Local (p : Scan α) : Prop where
  ok : ∀ {x b a r b'}, p x b = .ok (a, r) b' →
    ∃ u, x = u ++ r ∧ ∀ r', p (u ++ r') b = .ok (a, r') b'
  fault : ∀ {x b f b'}, p x b = .error (.fault f) b' → ∀ y, p (x ++ y) b = .error (.fault f) b'

theorem bind_ok {p : Scan α} {q : α → Scan β} {x r b b' : Bytes} {a : α}
    (h : p x b = .ok (a, r) b') : (p >>= q) x b = q a r b' := by
  show EStateM.bind (p x) (fun ar => q ar.1 ar.2) b = _
  rw [EStateM.bind, h]

theorem bind_error {p : Scan α} {q : α → Scan β} {x b b' : Bytes} {e : Stop}
    (h : p x b = .error e b') : (p >>= q) x b = .error e b' := by
  show EStateM.bind (p x) (fun ar => q ar.1 ar.2) b = _
  rw [EStateM.bind, h]

theorem Local.bind {p : Scan α} {q : α → Scan β} (hp : Local p) (hq : ∀ a, Local (q a)) :
    Local (p >>= q) where
  ok := by
    intro x b c r b' h
    cases hres : p x b with
    | error e b1 =>
        rw [bind_error hres] at h
        cases h
    | ok ar b1 =>
        obtain ⟨a, r1⟩ := ar
        rw [bind_ok hres] at h
        obtain ⟨u, rfl, hu⟩ := hp.ok hres
        obtain ⟨v, rfl, hv⟩ := (hq a).ok h
        refine ⟨u ++ v, by rw [List.append_assoc], fun r' => ?_⟩
        rw [List.append_assoc, bind_ok (hu (v ++ r'))]
        exact hv r'
  fault := by
    intro x b f b' h y
    cases hres : p x b with
    | error e b1 =>
        rw [bind_error hres] at h
        cases h
        exact bind_error (hp.fault hres y)
    | ok ar b1 =>
        obtain ⟨a, r1⟩ := ar
        rw [bind_ok hres] at h
        obtain ⟨u, rfl, hu⟩ := hp.ok hres
        rw [List.append_assoc, bind_ok (hu (r1 ++ y))]
        exact (hq a).fault h y

theorem local_pure (a : α) : Local (pure a : Scan α) where
  ok := by
    intro x b c r b' h
    cases h
    exact ⟨[], rfl, fun r' => rfl⟩
  fault := by
    intro x b f b' h
    cases h

theorem local_stop (e : Stop) : Local (stop e : Scan α) where
  ok := by
    intro x b c r b' h
    cases h
  fault := by
    intro x b f b' h y
    cases h
    rfl

theorem local_octet (n : NeedMore) : Local (octet n) where
  ok := by
    intro x b c r b' h
    cases x with
    | nil => cases h
    | cons d x =>
        cases h
        exact ⟨[c], rfl, fun r' => rfl⟩
  fault := by
    intro x b f b' h
    cases x with
    | nil => cases h
    | cons d x => cases h

theorem take_append {u r b : Bytes} : take u.length (u ++ r) b = .ok (u, r) b := by
  unfold take
  rw [if_pos (by rw [List.length_append]; omega), List.take_left, List.drop_left]

theorem local_take (len : Nat) : Local (take len) where
  ok := by
    intro x b c r b' h
    by_cases hle : len ≤ x.length
    · have hlen : (x.take len).length = len := List.length_take_of_le hle
      have hx : take len x b = .ok (x.take len, x.drop len) b := if_pos hle
      rw [hx] at h
      cases h
      refine ⟨x.take len, (List.take_append_drop len x).symm, fun r' => ?_⟩
      have htake := take_append (u := x.take len) (r := r') (b := b)
      rwa [hlen] at htake
    · have hx : take len x b = .error (.underflow .stringUnderflow) b := if_neg hle
      rw [hx] at h
      cases h
  fault := by
    intro x b f b' h
    unfold take at h
    split at h
    · cases h
    · cases h

theorem local_checked (r : Except DecoderError α) : Local (checked r) := by
  cases r with
  | ok a => exact local_pure a
  | error e => exact local_stop _

theorem local_lookup (r : Except Fault α) : Local (lookup r) := by
  cases r with
  | ok a => exact local_pure a
  | error e => exact local_stop _

theorem local_huffman (raw : Bytes) : Local (huffman raw) where
  ok := by
    intro x b c r b' h
    unfold huffman at h ⊢
    split at h
    · cases h
      exact ⟨[], rfl, fun r' => rfl⟩
    · cases h
  fault := by
    intro x b f b' h y
    unfold huffman at h ⊢
    split at h
    · cases h
    · cases h
      rfl

theorem local_intTail (left : Nat) : ∀ shift ret, Local (intTail left shift ret) := by
  induction left with
  | zero =>
      intro shift ret
      rw [intTail]
      refine (local_octet _).bind fun b => ?_
      split
      · exact local_pure _
      · exact local_stop _
  | succ left ih =>
      intro shift ret
      rw [intTail]
      refine (local_octet _).bind fun b => ?_
      split
      · exact local_pure _
      · exact ih _ _

theorem local_intFrom (prefixSize : Nat) (first : UInt8) : Local (intFrom prefixSize first) := by
  unfold intFrom
  dsimp only
  split
  · exact local_pure _
  · exact local_intTail _ _ _

theorem local_framed : Local framed :=
  (local_octet _).bind fun _ => (local_intFrom _ _).bind fun _ => (local_take _).bind fun _ =>
    local_pure _

theorem local_text (s : Bool × Bytes) : Local (text s) := by
  unfold text
  split
  · exact local_huffman _
  · exact local_pure _

theorem local_string : Local string := local_framed.bind local_text

theorem local_literal (t : DecoderTable S) (prefixSize : Nat) (first : UInt8) :
    Local (literal t prefixSize first) := by
  refine (local_intFrom _ _).bind fun index => ?_
  split
  · exact local_string.bind fun name => local_string.bind fun value => local_checked _
  · exact (local_lookup _).bind fun e => local_string.bind fun value => local_checked _

theorem local_item (d : Decoder S) (canResize : Bool) : Local (item d canResize) := by
  refine (local_octet _).bind fun ty => (local_checked _).bind fun rep => ?_
  cases rep with
  | indexed =>
      exact (local_intFrom _ _).bind fun index => (local_lookup _).bind fun h => local_pure _
  | literalWithIndexing => exact (local_literal _ _ _).bind fun h => local_pure _
  | literalWithoutIndexing => exact (local_literal _ _ _).bind fun h => local_pure _
  | literalNeverIndexed => exact (local_literal _ _ _).bind fun h => local_pure _
  | sizeUpdate =>
      dsimp only
      split
      · exact local_stop _
      · refine (local_intFrom _ _).bind fun n => ?_
        split
        · exact local_stop _
        · exact local_pure _

end Scan

end NtexH2.Hpack
