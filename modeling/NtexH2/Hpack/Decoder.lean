/-
  Hpack/Decoder.lean --- the header decoder (src/hpack/decoder.rs).

  Decoding changes its state also where it fails: the cursor has moved, entries
  may be in the table, octets may be left in the scratch buffer.  The functions
  are therefore state transformers that keep the state on an error.  The state
  of `decode` is the decoder, the cursor, and the headers called back so far.
-/
import NtexH2.Hpack.Huffman

set_option autoImplicit false

namespace NtexH2.Hpack

variable {S : HttpSyntax}

/-! ## The cursor -/

/-- `Cursor<&mut Bytes>`. -/
structure Cursor where
  bytes : Bytes
  pos : Nat
  deriving DecidableEq, Repr

namespace Cursor

/-- `Buf::chunk`: the octets not read yet. -/
def chunk (c : Cursor) : Bytes := c.bytes.drop c.pos

/-- `Buf::remaining`. -/
def remaining (c : Cursor) : Nat := c.chunk.length

/-- `Buf::get_u8`. -/
def getU8 : EStateM Fault Cursor UInt8 := fun c =>
  match c.chunk with
  | [] => .error (.panic .outOfBounds) c
  | b :: _ => .ok b { c with pos := c.pos + 1 }

/-- `Buf::advance`. -/
def advance (n : Nat) : EStateM Fault Cursor Unit := fun c =>
  if n ≤ c.remaining then .ok () { c with pos := c.pos + n }
  else .error (.panic .outOfBounds) c

/-- `take`: cuts the octets off the buffer and starts again behind them. -/
def take (n : Nat) : EStateM Fault Cursor Bytes := fun c =>
  if c.pos ≤ c.bytes.length ∧ n ≤ c.remaining then
    .ok (c.chunk.take n) ⟨c.chunk.drop n, 0⟩
  else .error (.panic .outOfBounds) c

/-- `consume`: forgets what was read. -/
def consume : EStateM Fault Cursor Unit := fun c =>
  if c.pos = c.bytes.length then .ok () ⟨[], 0⟩
  else if c.pos ≤ c.bytes.length then .ok () ⟨c.chunk, 0⟩
  else .error (.panic .outOfBounds) c

end Cursor

/-- `peek_u8`. -/
def peekU8 (c : Cursor) : Option UInt8 := c.chunk.head?

/-! ## Integers -/

/-- The loop of `decode_int`; `left` octets may still be read before the limit of
`MAX_BYTES` is reached. -/
def decodeIntLoop : Nat → Nat → Nat → EStateM Fault Cursor Nat
  | 0, _, _ => throw (.panic .endless)
  | left + 1, shift, ret => do
      if (← get).remaining = 0 then throw (.err (.needMore .integerUnderflow))
      let b ← Cursor.getU8
      let ret := ret + (b &&& 0x7f).toNat <<< shift
      if b &&& 0x80 = 0 then return ret
      else if left = 0 then throw (.err .integerOverflow)
      else decodeIntLoop left (shift + 7) ret

/-- `decode_int`. -/
def decodeInt (prefixSize : Nat) : EStateM Fault Cursor Nat := do
  if ¬ (1 ≤ prefixSize ∧ prefixSize ≤ 8) then throw (.err .invalidIntegerPrefix)
  if (← get).remaining = 0 then throw (.err (.needMore .integerUnderflow))
  let mask := 2 ^ prefixSize - 1
  let b ← Cursor.getU8
  let ret := b.toNat &&& mask
  if ret < mask then return ret
  else decodeIntLoop 4 0 ret

/-! ## The table -/

/-- `Table` of the decoder. -/
structure DecoderTable (S : HttpSyntax) where
  entries : List (Named S)
  size : Nat
  maxSize : Nat

/-- A field of the static table. -/
def staticField (S : HttpSyntax) (name value : String) (hn : name ∈ standardNames)
    (hv : value ∈ ["", "gzip, deflate"]) : Named S :=
  .field ⟨octets name, S.standard_ok _ hn⟩ ⟨octets value, false, S.value_ok _ hv⟩

theorem empty_mem : "" ∈ ["", "gzip, deflate"] := List.mem_cons_self

/-- A `ByteString::from_static`. -/
def staticString (S : HttpSyntax) (s : String)
    (h : s ∈ ["", "/", "/index.html", "http", "https"]) : ByteString S :=
  ⟨octets s, S.string_ok _ h⟩

/-- `get_static`. -/
def getStatic (S : HttpSyntax) (idx : Nat) : Except Panic (Named S) :=
  match idx with
  | 1 => .ok (.authority (staticString S "" (by simp)))
  | 2 => .ok (.method ⟨octets "GET", S.method_ok _ (by simp)⟩)
  | 3 => .ok (.method ⟨octets "POST", S.method_ok _ (by simp)⟩)
  | 4 => .ok (.path (staticString S "/" (by simp)))
  | 5 => .ok (.path (staticString S "/index.html" (by simp)))
  | 6 => .ok (.scheme (staticString S "http" (by simp)))
  | 7 => .ok (.scheme (staticString S "https" (by simp)))
  | 8 => .ok (.status ⟨200, by omega, by omega⟩)
  | 9 => .ok (.status ⟨204, by omega, by omega⟩)
  | 10 => .ok (.status ⟨206, by omega, by omega⟩)
  | 11 => .ok (.status ⟨304, by omega, by omega⟩)
  | 12 => .ok (.status ⟨400, by omega, by omega⟩)
  | 13 => .ok (.status ⟨404, by omega, by omega⟩)
  | 14 => .ok (.status ⟨500, by omega, by omega⟩)
  | 16 => .ok (staticField S "accept-encoding" "gzip, deflate" (by simp [standardNames]) (by simp))
  | n =>
      -- the other fields have no value, in the order of the names
      if h : 15 ≤ n ∧ n - 15 < standardNames.length then
        .ok (staticField S standardNames[n - 15] "" (List.getElem_mem h.2) empty_mem)
      else .error .assertion

namespace DecoderTable

/-- `Table::new`. -/
def new (S : HttpSyntax) (maxSize : Nat) : DecoderTable S := ⟨[], 0, maxSize⟩

/-- `Table::get`. -/
def get (t : DecoderTable S) (index : Nat) : Except Fault (Named S) :=
  if index = 0 then .error (.err .invalidTableIndex)
  else if index ≤ 61 then
    match getStatic S index with
    | .ok h => .ok h
    | .error p => .error (.panic p)
  else
    match t.entries[index - 62]? with
    | some e => .ok e
    | none => .error (.err .invalidTableIndex)

/-- The loop of `Table::reserve`. -/
def reserveLoop (len : Nat) : Nat → DecoderTable S → Except Panic (DecoderTable S)
  | 0, _ => .error .endless
  | fuel + 1, t =>
      if t.size + len > t.maxSize then
        match t.entries.getLast? with
        | some last =>
            if t.size < last.len then .error .underflow
            else reserveLoop len fuel
              { t with entries := t.entries.dropLast, size := t.size - last.len }
        | none => .ok t
      else .ok t

/-- `Table::reserve`. -/
def reserve (t : DecoderTable S) (len : Nat) : Except Panic (DecoderTable S) :=
  reserveLoop len (t.entries.length + 1) t

/-- `Table::insert`. -/
def insert (t : DecoderTable S) (entry : Named S) : Except Panic (DecoderTable S) := do
  let t ← t.reserve entry.len
  if t.size + entry.len ≤ t.maxSize then
    return { t with size := t.size + entry.len, entries := entry.detach :: t.entries }
  else return t

/-- The loop of `Table::consolidate`. -/
def consolidateLoop : Nat → DecoderTable S → Except Panic (DecoderTable S)
  | 0, _ => .error .endless
  | fuel + 1, t =>
      if t.size > t.maxSize then
        match t.entries.getLast? with
        | some last =>
            if t.size < last.len then .error .underflow
            else consolidateLoop fuel
              { t with entries := t.entries.dropLast, size := t.size - last.len }
        | none => .error .assertion
      else .ok t

/-- `Table::set_max_size`. -/
def setMaxSize (t : DecoderTable S) (size : Nat) : Except Panic (DecoderTable S) :=
  consolidateLoop (t.entries.length + 1) { t with maxSize := size }

end DecoderTable

/-! ## Representations -/

/-- `Representation`. -/
inductive Representation where
  | indexed
  | literalWithIndexing
  | literalWithoutIndexing
  | literalNeverIndexed
  | sizeUpdate
  deriving DecidableEq, Repr

/-- `Representation::load`. -/
def Representation.load (byte : UInt8) : Except DecoderError Representation :=
  if byte &&& 0b10000000 = 0b10000000 then .ok .indexed
  else if byte &&& 0b01000000 = 0b01000000 then .ok .literalWithIndexing
  else if byte &&& 0b11110000 = 0 then .ok .literalWithoutIndexing
  else if byte &&& 0b11110000 = 0b00010000 then .ok .literalNeverIndexed
  else if byte &&& 0b11100000 = 0b00100000 then .ok .sizeUpdate
  else .error .invalidRepresentation

/-- `StringMarker`. -/
structure StringMarker where
  offset : Nat
  len : Nat
  string : Option Bytes
  deriving DecidableEq, Repr

/-- `StringMarker::consume`. -/
def StringMarker.consume (m : StringMarker) : EStateM Fault Cursor Bytes := do
  Cursor.advance m.offset
  match m.string with
  | some string => do
      Cursor.advance m.len
      return string
  | none => Cursor.take m.len

/-- `Decoder`. -/
structure Decoder (S : HttpSyntax) where
  maxSizeUpdate : Option Nat
  lastMaxUpdate : Nat
  table : DecoderTable S
  buffer : Bytes

/-- The state of a run of `decode`. -/
structure DecodeState (S : HttpSyntax) where
  decoder : Decoder S
  buf : Cursor
  calls : List (Named S)

/-- A step of `decode`. -/
abbrev Decode (S : HttpSyntax) := EStateM Fault (DecodeState S)

namespace Decode

/-- A step on the cursor. -/
def onBuf {α : Type} (x : EStateM Fault Cursor α) : Decode S α := fun s =>
  match x s.buf with
  | .ok a buf => .ok a { s with buf := buf }
  | .error e buf => .error e { s with buf := buf }

/-- A step that may panic. -/
def guarded {α : Type} (x : Except Panic α) : Decode S α :=
  match x with
  | .ok a => pure a
  | .error p => throw (.panic p)

/-- A step that reports a decoding error. -/
def checked {α : Type} (x : Except DecoderError α) : Decode S α :=
  match x with
  | .ok a => pure a
  | .error e => throw (.err e)

/-- A lookup in the table. -/
def lookup (index : Nat) : Decode S (Named S) := fun s =>
  match s.decoder.table.get index with
  | .ok h => .ok h s
  | .error f => .error f s

/-- `Decoder::decode_indexed`. -/
def decodeIndexed : Decode S (Named S) := do
  let index ← onBuf (decodeInt 7)
  lookup index

/-- The Huffman part of `Decoder::try_decode_string`; the cursor moves on also
when decoding fails. -/
def huffmanString (offset len : Nat) : Decode S StringMarker := fun s =>
  let r := Huffman.decode (s.buf.chunk.take len) s.decoder.buffer
  let s := { s with decoder := { s.decoder with buffer := r.2 } }
  match (onBuf (Cursor.advance len) : Decode S Unit) s with
  | .error e s => .error e s
  | .ok _ s =>
      match r.1 with
      | .ok string => .ok ⟨offset, len, some string⟩ s
      | .error e => .error e s

/-- `Decoder::try_decode_string`. -/
def tryDecodeString : Decode S StringMarker := do
  let old := (← get).buf.pos
  match peekU8 (← get).buf with
  | none => throw (.err (.needMore .unexpectedEndOfStream))
  | some hdr =>
      let len ← onBuf (decodeInt 7)
      if len > (← get).buf.remaining then throw (.err (.needMore .stringUnderflow))
      let offset := (← get).buf.pos - old
      if hdr &&& 0b10000000 = 0b10000000 then huffmanString offset len
      else
        onBuf (Cursor.advance len)
        return ⟨offset, len, none⟩

/-- `Cursor::set_position`. -/
def setPosition (pos : Nat) : Decode S Unit :=
  modify fun s => { s with buf := { s.buf with pos := pos } }

/-- `Decoder::decode_string`. -/
def decodeString : Decode S Bytes := do
  let old := (← get).buf.pos
  let marker ← tryDecodeString
  setPosition old
  onBuf marker.consume

/-- The part of `Decoder::decode_literal` for a literal name. -/
def decodeLiteralName : Decode S (Named S) := do
  let old := (← get).buf.pos
  let nameMarker ← tryDecodeString
  let valueMarker ← tryDecodeString
  setPosition old
  let name ← onBuf nameMarker.consume
  let value ← onBuf valueMarker.consume
  checked (Header.new S name value)

/-- `Decoder::decode_literal`. -/
def decodeLiteral (index : Bool) : Decode S (Named S) := do
  let tableIdx ← onBuf (decodeInt (if index then 6 else 4))
  if tableIdx = 0 then decodeLiteralName
  else
    let e ← lookup tableIdx
    let value ← decodeString
    checked (e.name.intoEntry value)

/-- `Decoder::process_size_update`. -/
def processSizeUpdate : Decode S Unit := do
  let newSize ← onBuf (decodeInt 5)
  let s ← get
  if newSize > s.decoder.lastMaxUpdate then throw (.err .invalidMaxDynamicSize)
  let t ← guarded (s.decoder.table.setMaxSize newSize)
  modify fun s => { s with decoder := { s.decoder with table := t } }

/-- The call of `f`. -/
def call (h : Named S) : Decode S Unit := modify fun s => { s with calls := s.calls ++ [h] }

/-- `Table::insert` on the decoder's table. -/
def insertEntry (entry : Named S) : Decode S Unit := do
  let t ← guarded ((← get).decoder.table.insert entry)
  modify fun s => { s with decoder := { s.decoder with table := t } }

/-- The body of the loop of `Decoder::decode`; returns `can_resize`. -/
def decodeOne (canResize : Bool) (ty : UInt8) : Decode S Bool := do
  match ← checked (Representation.load ty) with
  | .indexed =>
      let entry ← decodeIndexed
      onBuf Cursor.consume
      call entry
      return false
  | .literalWithIndexing =>
      let entry ← decodeLiteral true
      insertEntry entry
      onBuf Cursor.consume
      call entry
      return false
  | .literalWithoutIndexing | .literalNeverIndexed =>
      let entry ← decodeLiteral false
      onBuf Cursor.consume
      call entry
      return false
  | .sizeUpdate =>
      if ¬ canResize then throw (.err .invalidMaxDynamicSize)
      processSizeUpdate
      onBuf Cursor.consume
      return canResize

/-- The loop of `Decoder::decode`; every round reads at least one octet. -/
def decodeLoop : Nat → Bool → Decode S Unit
  | 0, _ => throw (.panic .endless)
  | fuel + 1, canResize => do
      match peekU8 (← get).buf with
      | none => return ()
      | some ty => decodeLoop fuel (← decodeOne canResize ty)

end Decode

namespace Decoder

/-- `Decoder::new`. -/
def new (S : HttpSyntax) (size : Nat) : Decoder S := ⟨none, size, DecoderTable.new S size, []⟩

/-- `Decoder::default`. -/
def default (S : HttpSyntax) : Decoder S := new S 4096

/-- The first step of `Decoder::decode`: a queued size update is taken over. -/
def takeSizeUpdate (d : Decoder S) : Decoder S :=
  match d.maxSizeUpdate with
  | some size => { d with maxSizeUpdate := none, lastMaxUpdate := size }
  | none => d

/-- `Decoder::decode`: the result, the decoder, what is left in the buffer, and the
headers called back. -/
def decode (d : Decoder S) (src : Cursor) : EStateM.Result Fault (DecodeState S) Unit :=
  Decode.decodeLoop (src.remaining + 1) true ⟨d.takeSizeUpdate, src, []⟩

end Decoder

end NtexH2.Hpack
