/-
  Hpack/Table.lean --- the encoder's dynamic table (src/hpack/table.rs).

  The table is a deque of slots, newest first, with a Robin Hood hash table
  `indices` over it.  A cell of `indices` and the `next` link of a slot store a
  relative position: the number of insertions is subtracted when it is written
  and added when it is read, both modulo the word size, so a stored position
  stays valid while newer slots are pushed in front.

  Octet counts are natural numbers, positions are words of 64 bits.  A
  `probe_loop` that does not end is `Panic.endless`.
-/
import NtexH2.Lib.RobinHood
import NtexH2.Hpack.Header

set_option autoImplicit false

namespace NtexH2.Hpack

open Lib

/-- `usize::wrapping_add`. -/
def wrappingAdd (a b : Nat) : Nat := (a + b) % wordSize

/-- `usize::wrapping_sub`. -/
def wrappingSub (a b : Nat) : Nat := (a + wordSize - b) % wordSize

/-- `Slot`. -/
structure Slot (S : HttpSyntax) where
  hash : Nat
  header : Named S
  next : Option Nat

/-- `Pos`. -/
structure Pos where
  index : Nat
  hash : Nat
  deriving DecidableEq, Repr

/-- `Table`. -/
structure Table (S : HttpSyntax) where
  mask : Nat
  indices : List (Option Pos)
  slots : List (Slot S)
  inserted : Nat
  size : Nat
  maxSize : Nat

/-- `Index`. -/
inductive Index (S : HttpSyntax) where
  | indexed (idx : Nat) (h : Named S)
  | name (idx : Nat) (h : Named S)
  | inserted (idx : Nat)
  | insertedValue (idx slot : Nat)
  | notIndexed (h : Named S)

/-- `DYN_OFFSET`. -/
def dynOffset : Nat := 62

/-- `usable_capacity`. -/
def usableCapacity (cap : Nat) : Nat := cap - cap / 4

/-- `to_raw_capacity`. -/
def toRawCapacity (n : Nat) : Nat := (n + n / 3) % wordSize

/-- `usize::next_power_of_two`, zero when the result does not fit. -/
def nextPowerOfTwo (n : Nat) : Nat :=
  if n ≤ 2 ^ 63 then 2 ^ Nat.clog 2 n else 0

/-- `desired_pos`. -/
def desiredPos (mask hash : Nat) : Nat := hash &&& mask

/-- `probe_distance`.  Irreducible, so that no unifier counts up to the word size. -/
@[irreducible] def probeDistance (mask hash current : Nat) : Nat :=
  wrappingSub current (desiredPos mask hash) &&& mask

/-- `probe_loop!`, with an iteration bound no terminating run needs to exceed. -/
def probing {σ ρ : Type} (len start : Nat) (s : σ)
    (body : Nat → σ → Except Panic (Probe σ ρ)) : Except Panic ρ :=
  probeLoop .endless len body (2 * len + 2) start s

variable {S : HttpSyntax}

/-- The names the `Header::Field` arms of `index_static` match, with the index
each arm returns. -/
def staticFields : List (String × Nat) :=
  [("accept-charset", 15), ("accept-encoding", 16), ("accept-language", 17),
   ("accept-ranges", 18), ("accept", 19), ("access-control-allow-origin", 20),
   ("age", 21), ("allow", 22), ("authorization", 23), ("cache-control", 24),
   ("content-disposition", 25), ("content-encoding", 26), ("content-language", 27),
   ("content-length", 28), ("content-location", 29), ("content-range", 30),
   ("content-type", 31), ("cookie", 32), ("date", 33), ("etag", 34), ("expect", 35),
   ("expires", 36), ("from", 37), ("host", 38), ("if-match", 39),
   ("if-modified-since", 40), ("if-none-match", 41), ("if-range", 42),
   ("if-unmodified-since", 43), ("last-modified", 44), ("link", 45), ("location", 46),
   ("max-forwards", 47), ("proxy-authenticate", 48), ("proxy-authorization", 49),
   ("range", 50), ("referer", 51), ("refresh", 52), ("retry-after", 53), ("server", 54),
   ("set-cookie", 55), ("strict-transport-security", 56), ("transfer-encoding", 57),
   ("user-agent", 58), ("vary", 59), ("via", 60), ("www-authenticate", 61)]

/-- `index_static`: the static index and whether the value matches as well. -/
def indexStatic : Named S → Option (Nat × Bool)
  | .field name value =>
      match staticFields.find? (fun p => name.bytes == octets p.1) with
      | some (_, n) => some (n, n == 16 && value.bytes == octets "gzip, deflate")
      | none => none
  | .authority _ => some (1, false)
  | .method v =>
      if v.bytes = octets "GET" then some (2, true)
      else if v.bytes = octets "POST" then some (3, true)
      else some (2, false)
  | .scheme v =>
      if v.bytes = octets "http" then some (6, true)
      else if v.bytes = octets "https" then some (7, true)
      else some (6, false)
  | .path v =>
      if v.bytes = octets "/" then some (4, true)
      else if v.bytes = octets "/index.html" then some (5, true)
      else some (4, false)
  | .protocol _ => none
  | .status v =>
      match v.code with
      | 200 => some (8, true)
      | 204 => some (9, true)
      | 206 => some (10, true)
      | 304 => some (11, true)
      | 400 => some (12, true)
      | 404 => some (13, true)
      | 500 => some (14, true)
      | _ => some (8, false)

/-- `Index::new`. -/
def Index.new (v : Option (Nat × Bool)) (e : Named S) : Index S :=
  match v with
  | none => .notIndexed e
  | some (n, true) => .indexed n e
  | some (n, false) => .name n e

namespace Table

/-- `Table::new`. -/
def new (S : HttpSyntax) (maxSize capacity : Nat) : Table S :=
  if capacity = 0 then ⟨0, [], [], 0, 0, maxSize⟩
  else
    let cap := max (nextPowerOfTwo (toRawCapacity capacity)) 8
    ⟨cap - 1, List.replicate cap none, [], 0, 0, maxSize⟩

/-- `Table::capacity`. -/
def capacity (t : Table S) : Nat := usableCapacity t.indices.length

/-- `Table::resolve`. -/
def resolve (t : Table S) : Index S → Except Panic (Named S)
  | .indexed _ h => .ok h
  | .name _ h => .ok h
  | .notIndexed h => .ok h
  | .inserted idx => (at' t.slots idx).map (·.header)
  | .insertedValue _ idx => (at' t.slots idx).map (·.header)

/-- `Table::resolve_idx`. -/
def resolveIdx : Index S → Except Panic Nat
  | .indexed idx _ => .ok idx
  | .name idx _ => .ok idx
  | .inserted idx => .ok (idx + dynOffset)
  | .insertedValue _ slot => .ok (slot + dynOffset)
  | .notIndexed _ => .error .assertion

/-- The slot a stored position stands for. -/
def realIdx (t : Table S) (index : Nat) : Nat := wrappingAdd index t.inserted

/-! ### Storage -/

/-- Loop body of `reinsert_entry_in_order`. -/
def reinsertStep (mask : Nat) (indices : List (Option Pos)) (pos : Pos) (probe : Nat) (_ : Unit) :
    Except Panic (Probe Unit (List (Option Pos))) := do
  match ← at' indices probe with
  | none => return .done (indices.set probe (some pos))
  | some them =>
      assert (probeDistance mask pos.hash probe ≤ probeDistance mask them.hash probe)
      return .next ()

/-- `reinsert_entry_in_order`: the first empty cell from the desired one. -/
def reinsertEntryInOrder (mask : Nat) (indices : List (Option Pos)) :
    Option Pos → Except Panic (List (Option Pos))
  | none => .ok indices
  | some pos =>
      probing indices.length (desiredPos mask pos.hash) () (reinsertStep mask indices pos)

/-- The first cell, if any, whose entry is at its desired position. -/
def firstIdeal (mask : Nat) (indices : List (Option Pos)) : Nat :=
  ((List.range indices.length).find? fun i =>
    match indices[i]? with
    | some (some pos) => probeDistance mask pos.hash i == 0
    | _ => false).getD 0

/-- `Table::grow`. -/
def grow (t : Table S) (newRawCap : Nat) : Except Panic (Table S) := do
  let first := firstIdeal t.mask t.indices
  let mask := newRawCap - 1
  let start := List.replicate newRawCap none
  let upper ← (t.indices.drop first).foldlM (reinsertEntryInOrder mask) start
  let all ← (t.indices.take first).foldlM (reinsertEntryInOrder mask) upper
  return { t with mask := mask, indices := all }

/-- `Table::reserve_one`. -/
def reserveOne (t : Table S) : Except Panic (Table S) :=
  if t.slots.length = t.capacity then
    if t.slots.length = 0 then
      .ok { t with mask := 8 - 1, indices := List.replicate 8 none }
    else t.grow (t.indices.length * 2)
  else .ok t

/-! ### Eviction -/

/-- Loop body of `remove_phase_two`; the state holds the cells and `last_probe`. -/
def removeStep (mask probe : Nat) (s : List (Option Pos) × Nat) :
    Except Panic (Probe (List (Option Pos) × Nat) (List (Option Pos))) := do
  match ← at' s.1 probe with
  | some pos =>
      if probeDistance mask pos.hash probe > 0 then
        return .next ((s.1.set s.2 (some pos)).set probe none, probe)
      else return .done s.1
  | none => return .done s.1

/-- `remove_phase_two`: entries displaced by the removed one move back. -/
def removePhaseTwo (mask : Nat) (indices : List (Option Pos)) (probe : Nat) :
    Except Panic (List (Option Pos)) :=
  probing indices.length (probe + 1) (indices, probe) (removeStep mask)

/-- Loop body of `evict`: `slot` is the dropped slot and `posIdx` its position. -/
def evictStep (t : Table S) (prevIdx : Option Nat) (slot : Slot S) (posIdx probe : Nat)
    (_ : Unit) : Except Panic (Probe Unit (List (Option Pos))) := do
  let pos ← unwrap (← at' t.indices probe)
  if pos.index = posIdx then
    match slot.next with
    | some idx => return .done (t.indices.set probe (some { pos with index := idx }))
    | none =>
        if some pos.index = prevIdx then
          return .done (t.indices.set probe
            (some { pos with index := wrappingSub 0 (t.inserted + 1) }))
        else return .done (← removePhaseTwo t.mask (t.indices.set probe none) probe)
  else return .next ()

/-- `Table::evict`: drops the oldest slot and repairs the cell that leads to it.
With `prevIdx` the evicted slot may be the one the header being inserted links
to; its cell is then kept for the new slot. -/
def evict (t : Table S) (prevIdx : Option Nat) : Except Panic (Table S) := do
  assert (!t.slots.isEmpty)
  let posIdx := wrappingSub (t.slots.length - 1) t.inserted
  let slot ← unwrap t.slots.getLast?
  let slots := t.slots.dropLast
  if t.size < slot.header.len then throw .underflow
  assert (t.indices.countP (fun p => p.any (·.index == posIdx)) == 1)
  let indices ← probing t.indices.length (desiredPos t.mask slot.hash) ()
    (t.evictStep prevIdx slot posIdx)
  return { t with slots := slots, size := t.size - slot.header.len, indices := indices }

/-- The loop of `Table::converge`; each round drops one slot. -/
def convergeLoop (prevIdx : Option Nat) : Nat → Table S → Except Panic (Table S)
  | 0, _ => .error .endless
  | fuel + 1, t =>
      if t.maxSize < t.size then do
        convergeLoop prevIdx fuel (← t.evict prevIdx)
      else .ok t

/-- `Table::converge`: whether a slot was evicted, and the table. -/
def converge (t : Table S) (prevIdx : Option Nat) : Except Panic (Bool × Table S) := do
  let t' ← convergeLoop prevIdx (t.slots.length + 2) t
  return (decide (t.maxSize < t.size), t')

/-- `Table::update_size`. -/
def updateSize (t : Table S) (len : Nat) (prevIdx : Option Nat) :
    Except Panic (Bool × Table S) :=
  { t with size := t.size + len }.converge prevIdx

/-- `Table::resize`. -/
def resize (t : Table S) (size : Nat) : Except Panic (Table S) :=
  let t := { t with maxSize := size }
  if size = 0 then
    .ok { t with size := 0, indices := t.indices.map fun _ => none, slots := [], inserted := 0 }
  else (t.converge none).map (·.2)

/-! ### Insertion -/

/-- `Table::insert`. -/
def insert (t : Table S) (header : Named S) (hash : Nat) : Table S :=
  { t with
    inserted := wrappingAdd t.inserted 1
    slots := ⟨hash, header.detach, none⟩ :: t.slots }

/-- What the walk over a chain of equal names ends with. -/
inductive ChainEnd where
  /-- a slot with the same value, at this real index -/
  | found (realIdx : Nat)
  /-- the last slot of the chain: stored position and real index -/
  | last (index realIdx : Nat)

/-- The loop of `index_occupied` up to the insertion. -/
def walkChain (t : Table S) (header : Named S) : Nat → Nat → Except Panic ChainEnd
  | 0, _ => .error .endless
  | fuel + 1, index => do
      let real := t.realIdx index
      let slot ← at' t.slots real
      if slot.header.valueEq header then return .found real
      else
        match slot.next with
        | some next => walkChain t header fuel next
        | none => return .last index real

/-- `Table::index_occupied`. -/
def indexOccupied (t : Table S) (header : Named S) (hash index : Nat) (statik : Option Nat) :
    Except Panic (Index S × Table S) := do
  match ← t.walkChain header (t.slots.length + 1) index with
  | .found real => return (.indexed (real + dynOffset) header, t)
  | .last index real =>
      if header.isSensitive then return (.name (real + dynOffset) header, t)
      else
        let (_, t) ← t.updateSize header.len (some index)
        let t := t.insert header hash
        let newReal := t.realIdx index
        let t :=
          if newReal < t.slots.length then
            { t with slots := t.slots.modify newReal fun s =>
                { s with next := some (wrappingSub 0 t.inserted) } }
          else t
        match statik with
        | some n => return (.insertedValue n 0, t)
        | none => return (.insertedValue (real + dynOffset) 0, t)

/-- The backward walk of `index_vacant` after an eviction. -/
def walkBack (mask : Nat) (indices : List (Option Pos)) : Nat → Nat → Except Panic Nat
  | 0, probe => .ok probe
  | dist + 1, probe => do
      let back := wrappingSub probe 1 &&& mask
      match ← at' indices back with
      | some pos =>
          if probeDistance mask pos.hash back < dist then walkBack mask indices dist back
          else return probe
      | none => walkBack mask indices dist back

/-- The cell for the new entry; only after an eviction it may be an earlier one. -/
def backProbe (evicted : Bool) (mask : Nat) (indices : List (Option Pos)) (dist probe : Nat) :
    Except Panic Nat :=
  if evicted then walkBack mask indices dist probe else .ok probe

/-- Loop body of the forward shift; the state holds the cells and `prev`. -/
def shiftStep (probe : Nat) (s : List (Option Pos) × Pos) :
    Except Panic (Probe (List (Option Pos) × Pos) (List (Option Pos))) := do
  match ← at' s.1 probe with
  | some p => return .next (s.1.set probe (some s.2), p)
  | none => return .done (s.1.set probe (some s.2))

/-- The forward shift of `index_vacant`. -/
def shiftForward (indices : List (Option Pos)) (probe : Nat) (prev : Pos) :
    Except Panic (List (Option Pos)) :=
  probing indices.length probe (indices, prev) shiftStep

/-- Puts an entry into a cell; what was there moves on to the next empty one. -/
def takeCell (indices : List (Option Pos)) (probe : Nat) (pos : Pos) :
    Except Panic (List (Option Pos)) := do
  match ← at' indices probe with
  | some prev => shiftForward (indices.set probe (some pos)) (probe + 1) prev
  | none => return indices.set probe (some pos)

/-- The part of `index_vacant` that changes the table. -/
def insertVacant (t : Table S) (header : Named S) (hash dist probe : Nat) :
    Except Panic (Table S) := do
  let (evicted, t) ← t.updateSize header.len none
  let probe ← backProbe evicted t.mask t.indices dist probe
  let t := t.insert header hash
  let indices ← takeCell t.indices probe ⟨wrappingSub 0 t.inserted, hash⟩
  return { t with indices := indices }

/-- `Table::index_vacant`. -/
def indexVacant (t : Table S) (header : Named S) (hash dist probe : Nat)
    (statik : Option (Nat × Bool)) : Except Panic (Index S × Table S) := do
  if header.isSensitive then return (Index.new statik header, t)
  else
    if dist ≠ 0 then
      assert (← at' t.indices (wrappingSub probe 1 &&& t.mask)).isSome
    let t ← t.insertVacant header hash dist probe
    match statik with
    | some (n, _) => return (.insertedValue n 0, t)
    | none => return (.inserted 0, t)

/-- What the search of `index_dynamic` ends with. -/
inductive Found where
  | vacant (dist probe : Nat)
  | occupied (index : Nat)

/-- Loop body of the search; the state is `dist`. -/
def searchStep (t : Table S) (header : Named S) (hash probe dist : Nat) :
    Except Panic (Probe Nat Found) := do
  match ← at' t.indices probe with
  | some pos =>
      if probeDistance t.mask pos.hash probe < dist then return .done (.vacant dist probe)
      else if pos.hash = hash then
        let slot ← at' t.slots (t.realIdx pos.index)
        if slot.header.name = header.name then return .done (.occupied pos.index)
        else return .next (dist + 1)
      else return .next (dist + 1)
  | none => return .done (.vacant dist probe)

/-- The search of `index_dynamic`. -/
def search (t : Table S) (header : Named S) (hash : Nat) : Except Panic Found :=
  probing t.indices.length (desiredPos t.mask hash) 0 (t.searchStep header hash)

/-- `Table::index_dynamic` past its reservation; `hash` is `hash_header`. -/
def indexSearched (hash : Name S → Nat) (t : Table S) (header : Named S)
    (statik : Option (Nat × Bool)) : Except Panic (Index S × Table S) := do
  match ← t.search header (hash header.name) with
  | .vacant dist probe => t.indexVacant header (hash header.name) dist probe statik
  | .occupied index => t.indexOccupied header (hash header.name) index (statik.map (·.1))

/-- `Table::index_dynamic`. -/
def indexDynamic (hash : Name S → Nat) (t : Table S) (header : Named S)
    (statik : Option (Nat × Bool)) : Except Panic (Index S × Table S) := do
  let t ←
    if header.len + t.size < t.maxSize ∨ ¬ header.isSensitive then t.reserveOne else .ok t
  if t.indices.isEmpty then return (Index.new statik header, t)
  else t.indexSearched hash header statik

/-- `Table::index` for a header that is no full match of the static table.  The
size comparison is done in words, as in the source. -/
def indexUnlessLarge (hash : Name S → Nat) (t : Table S) (header : Named S)
    (statik : Option (Nat × Bool)) : Except Panic (Index S × Table S) :=
  if header.len * 4 > t.maxSize * 3 % wordSize then .ok (Index.new statik header, t)
  else t.indexDynamic hash header statik

/-- `Table::index`. -/
def index (hash : Name S → Nat) (t : Table S) (header : Named S) :
    Except Panic (Index S × Table S) :=
  let statik := indexStatic header
  if header.skipValueIndex then do
    assert statik.isSome
    return (Index.new statik header, t)
  else
    match statik with
    | some (n, true) => .ok (.indexed n header, t)
    | _ => t.indexUnlessLarge hash header statik

end Table

end NtexH2.Hpack
