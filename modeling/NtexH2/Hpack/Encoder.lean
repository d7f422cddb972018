/-
  Hpack/Encoder.lean --- the header encoder (src/hpack/encoder.rs).

  A destination buffer is an octet string that the functions extend; `encode_str`
  also rewrites what it has written, octet by octet, when the length of a string
  turns out to need more than one octet.
-/
import NtexH2.Hpack.Huffman
import NtexH2.Hpack.Table

set_option autoImplicit false

namespace NtexH2.Hpack

variable {S : HttpSyntax}

/-! ## Integers and strings -/

/-- `encode_int_one_byte`. -/
def encodeIntOneByte (value prefixBits : Nat) : Bool := decide (value < (1 <<< prefixBits) - 1)

/-- The loop of `encode_int`: seven bits to an octet, lowest first. -/
def encodeIntTail (value : Nat) : Bytes :=
  if 128 ≤ value then (0x80 ||| value.toUInt8) :: encodeIntTail (value >>> 7)
  else [value.toUInt8]
termination_by value
decreasing_by
  rw [Nat.shiftRight_eq_div_pow]
  omega

/-- `encode_int`: the octets written. -/
def encodeInt (value prefixBits : Nat) (firstByte : UInt8) : Bytes :=
  if encodeIntOneByte value prefixBits then [firstByte ||| value.toUInt8]
  else
    let low := (1 <<< prefixBits) - 1
    (firstByte ||| low.toUInt8) :: encodeIntTail (value - low)

/-- Assignment to an element. -/
def setAt (l : Bytes) (i : Nat) (b : UInt8) : Except Panic Bytes :=
  if i < l.length then .ok (l.set i b) else .error .outOfBounds

/-- The loop of `encode_str` that moves the string to make room for its head. -/
def shiftOctets (idx headLen huffLen : Nat) (dst : Bytes) : Except Panic Bytes :=
  (List.range huffLen).foldlM
    (fun dst i => do
      let b ← at' dst (idx + 1 + (huffLen - (i + 1)))
      setAt dst (idx + headLen + (huffLen - (i + 1))) b)
    dst

/-- The loop of `encode_str` that copies the head. -/
def copyHead (idx : Nat) (head dst : Bytes) : Except Panic Bytes :=
  (List.range head.length).foldlM
    (fun dst i => do setAt dst (idx + i) (← at' head i))
    dst

/-- The part of `encode_str` for a string with a long head, which is prepared in a
buffer of eight octets. -/
def insertHead (idx huffLen : Nat) (dst : Bytes) : Except Panic Bytes := do
  let head := encodeInt huffLen 7 0x80
  if 8 < head.length then throw .outOfBounds
  let dst ← shiftOctets idx head.length huffLen (dst ++ head.drop 1)
  copyHead idx head dst

/-- `encode_str`. -/
def encodeStr (val dst : Bytes) : Except Panic Bytes :=
  if val.isEmpty then .ok (dst ++ [0])
  else do
    let idx := dst.length
    let dst ← Huffman.encode val (dst ++ [0])
    let huffLen := dst.length - (idx + 1)
    if encodeIntOneByte huffLen 7 then setAt dst idx (0x80 ||| huffLen.toUInt8)
    else insertHead idx huffLen dst

/-! ## Representations -/

/-- `encode_size_update`. -/
def encodeSizeUpdate (val : Nat) (dst : Bytes) : Bytes := dst ++ encodeInt val 5 0b00100000

/-- `encode_not_indexed`. -/
def encodeNotIndexed (name : Nat) (value : Bytes) (sensitive : Bool) (dst : Bytes) :
    Except Panic Bytes :=
  encodeStr value (dst ++ encodeInt name 4 (if sensitive then 0b10000 else 0))

/-- `encode_not_indexed2`. -/
def encodeNotIndexed2 (name value : Bytes) (sensitive : Bool) (dst : Bytes) :
    Except Panic Bytes := do
  let dst ← encodeStr name (dst ++ [if sensitive then 0b10000 else 0])
  encodeStr value dst

/-- `Encoder::encode_header`. -/
def encodeHeader (t : Table S) (index : Index S) (dst : Bytes) : Except Panic Bytes :=
  match index with
  | .indexed idx _ => .ok (dst ++ encodeInt idx 7 0x80)
  | .name idx _ => do
      let header ← t.resolve index
      encodeNotIndexed idx header.valueSlice header.isSensitive dst
  | .inserted _ => do
      let header ← t.resolve index
      assert (!header.isSensitive)
      let dst ← encodeStr header.name.asSlice (dst ++ [0b01000000])
      encodeStr header.valueSlice dst
  | .insertedValue idx _ => do
      let header ← t.resolve index
      assert (!header.isSensitive)
      encodeStr header.valueSlice (dst ++ encodeInt idx 6 0b01000000)
  | .notIndexed _ => do
      let header ← t.resolve index
      encodeNotIndexed2 header.name.asSlice header.valueSlice header.isSensitive dst

/-- `Encoder::encode_header_without_name`. -/
def encodeHeaderWithoutName (t : Table S) (last : Index S) (value : HeaderValue S) (dst : Bytes) :
    Except Panic Bytes :=
  match last with
  | .notIndexed _ => do
      let header ← t.resolve last
      encodeNotIndexed2 header.name.asSlice value.bytes value.sensitive dst
  | _ => do
      let idx ← Table.resolveIdx last
      encodeNotIndexed idx value.bytes value.sensitive dst

/-! ## Blocks -/

/-- `SizeUpdate`. -/
inductive SizeUpdate where
  | one (val : Nat)
  | two (min max : Nat)
  deriving DecidableEq, Repr

/-- `Encoder`. -/
structure Encoder (S : HttpSyntax) where
  table : Table S
  sizeUpdate : Option SizeUpdate

namespace Encoder

/-- `Encoder::new`. -/
def new (S : HttpSyntax) (maxSize capacity : Nat) : Encoder S :=
  ⟨Table.new S maxSize capacity, none⟩

/-- `Encoder::default`. -/
def default (S : HttpSyntax) : Encoder S := new S 4096 0

/-- `Encoder::update_max_size`. -/
def updateMaxSize (e : Encoder S) (val : Nat) : Encoder S :=
  match e.sizeUpdate with
  | some (.one old) =>
      if val > old then
        if old > e.table.maxSize then { e with sizeUpdate := some (.one val) }
        else { e with sizeUpdate := some (.two old val) }
      else { e with sizeUpdate := some (.one val) }
  | some (.two min _) =>
      if val < min then { e with sizeUpdate := some (.one val) }
      else { e with sizeUpdate := some (.two min val) }
  | none =>
      if val ≠ e.table.maxSize then { e with sizeUpdate := some (.one val) } else e

/-- `Encoder::encode_size_updates`. -/
def encodeSizeUpdates (e : Encoder S) (dst : Bytes) : Except Panic (Encoder S × Bytes) :=
  match e.sizeUpdate with
  | some (.one val) => do
      let t ← e.table.resize val
      return (⟨t, none⟩, encodeSizeUpdate val dst)
  | some (.two min max) => do
      let t ← e.table.resize min
      let t ← t.resize max
      return (⟨t, none⟩, encodeSizeUpdate max (encodeSizeUpdate min dst))
  | none => .ok (e, dst)

/-- One header of `Encoder::encode`; `last` is `last_index`. -/
def encodeOne (hash : Name S → Nat) (t : Table S) (last : Option (Index S))
    (header : Header S (Option (HeaderName S))) (dst : Bytes) :
    Except Panic (Table S × Option (Index S) × Bytes) :=
  match header.reify with
  | .ok header => do
      let (index, t) ← t.index hash header
      let dst ← encodeHeader t index dst
      return (t, some index, dst)
  | .error value => do
      let index ← unwrap last
      let dst ← encodeHeaderWithoutName t index value dst
      return (t, last, dst)

/-- The loop of `Encoder::encode`. -/
def encodeLoop (hash : Name S → Nat) :
    List (Header S (Option (HeaderName S))) → Table S → Option (Index S) → Bytes →
      Except Panic (Table S × Bytes)
  | [], t, _, dst => .ok (t, dst)
  | header :: headers, t, last, dst => do
      let (t, last, dst) ← encodeOne hash t last header dst
      encodeLoop hash headers t last dst

/-- `Encoder::encode`. -/
def encode (hash : Name S → Nat) (e : Encoder S)
    (headers : List (Header S (Option (HeaderName S)))) (dst : Bytes) :
    Except Panic (Encoder S × Bytes) := do
  let (e, dst) ← e.encodeSizeUpdates dst
  let (t, dst) ← encodeLoop hash headers e.table none dst
  return ({ e with table := t }, dst)

end Encoder

end NtexH2.Hpack
