/-
  Hpack/Reads.lean --- the representations of a block, one after the other.

  `decode` applies the complete representations at the front of its input, and then ends:
  at the end of the input, at a representation that stops, or at a table that breaks.
-/
import NtexH2.Hpack.Decoding

set_option autoImplicit false

namespace NtexH2.Hpack

variable {S : HttpSyntax}

theorem Scan.item_nil (d : Decoder S) (canResize : Bool) (b : Bytes) :
    Scan.item d canResize [] b = .error (.underflow .unexpectedEndOfStream) b := rfl

/-- A representation has octets. -/
theorem Scan.item_shorter {d : Decoder S} {canResize : Bool} {x r b b' : Bytes} {item : Item S}
    (h : Scan.item d canResize x b = .ok (item, r) b') : r.length < x.length := by
  obtain ⟨u, rfl, hu⟩ := (Scan.local_item d canResize).ok h
  cases u with
  | nil =>
      have hnil := hu []
      rw [List.append_nil, Scan.item_nil] at hnil
      cases hnil
  | cons c u =>
      rw [List.cons_append, List.length_cons, List.length_append]
      omega

/-- The representations at the front of some octets that are read and applied. -/
inductive Reads : Decoder S → Bool → Bytes → List (Item S) → Decoder S → Bool → Bytes → Prop
  | done (d : Decoder S) (canResize : Bool) (x : Bytes) : Reads d canResize x [] d canResize x
  | item {d d' : Decoder S} {canResize canResize' : Bool} {x r b x' : Bytes} {item : Item S}
      {t : DecoderTable S} {items : List (Item S)} :
      Scan.item d canResize x d.buffer = .ok (item, r) b → item.apply d.table = .ok t →
      Reads { d with table := t, buffer := b } (canResize && item.isResize) r items d' canResize'
        x' →
      Reads d canResize x (item :: items) d' canResize' x'

/-- The representations that `fuel` rounds read. -/
def readItems : Nat → Decoder S → Bool → Bytes → List (Item S)
  | 0, _, _, _ => []
  | fuel + 1, d, canResize, x =>
      match Scan.item d canResize x d.buffer with
      | .ok (item, r) b =>
          match item.apply d.table with
          | .ok t => item :: readItems fuel { d with table := t, buffer := b }
              (canResize && item.isResize) r
          | .error _ => []
      | .error _ _ => []

/-- The representations of a block that `decode` reads and applies. -/
def Decoder.items (d : Decoder S) (x : Bytes) : List (Item S) :=
  readItems (x.length + 1) d.takeSizeUpdate true x

/-- No further representation is read and applied. -/
def Ended (d : Decoder S) (canResize : Bool) (x : Bytes) : Prop :=
  ∀ item r b t, Scan.item d canResize x d.buffer = .ok (item, r) b → item.apply d.table ≠ .ok t

theorem ended_nil (d : Decoder S) (canResize : Bool) : Ended d canResize [] := by
  intro item r b t h
  cases h

theorem ended_of_stop {d : Decoder S} {canResize : Bool} {x b : Bytes} {e : Stop}
    (h : Scan.item d canResize x d.buffer = .error e b) : Ended d canResize x := by
  intro item r b' t h'
  rw [h] at h'
  cases h'

/-- How `decode` ends behind the representations it has read. -/
inductive Ends (d : Decoder S) (canResize : Bool) (calls : List (Named S)) :
    Bytes → EStateM.Result Fault (DecodeState S) Unit → Prop
  | finished : Ends d canResize calls [] (.ok () ⟨d, ⟨[], 0⟩, calls⟩)
  | stopped {x b : Bytes} {e : Stop} {c : Cursor} : x ≠ [] →
      Scan.item d canResize x d.buffer = .error e b → (∀ n, e = .underflow n → c.bytes = x) →
      Ends d canResize calls x (.error e.toFault ⟨{ d with buffer := b }, c, calls⟩)
  | broken {x r b : Bytes} {item : Item S} {p : Panic} {c : Cursor} :
      Scan.item d canResize x d.buffer = .ok (item, r) b → item.apply d.table = .error p →
      Ends d canResize calls x (.error (.panic p) ⟨{ d with buffer := b }, c, calls⟩)

theorem Ends.ended {d : Decoder S} {canResize : Bool} {calls : List (Named S)} {x : Bytes}
    {res : EStateM.Result Fault (DecodeState S) Unit} (h : Ends d canResize calls x res) :
    Ended d canResize x := by
  cases h with
  | finished => exact ended_nil d canResize
  | stopped hne hscan hbytes => exact ended_of_stop hscan
  | broken hscan happly =>
      intro item r b t h'
      rw [hscan] at h'
      cases h'
      rw [happly]
      exact nofun

/-- The loop of `decode` reads the representations, and ends. -/
theorem decodeLoop_reads (fuel : Nat) : ∀ (d : Decoder S) (canResize : Bool) (x : Bytes)
    (calls : List (Named S)), x.length < fuel →
    ∃ d' canResize' x', Reads d canResize x (readItems fuel d canResize x) d' canResize' x' ∧
      Ends d' canResize' (calls ++ (readItems fuel d canResize x).flatMap Item.headers) x'
        ((Decode.decodeLoop fuel canResize : Decode S Unit) ⟨d, ⟨x, 0⟩, calls⟩) := by
  induction fuel with
  | zero => exact fun _ _ _ _ h => absurd h (Nat.not_lt_zero _)
  | succ fuel ih =>
      intro d canResize x calls hfuel
      cases x with
      | nil =>
          have hitems : readItems (fuel + 1) d canResize [] = [] := by
            rw [readItems, Scan.item_nil]
          rw [hitems, List.flatMap_nil, List.append_nil]
          exact ⟨d, canResize, [], .done d canResize [], .finished⟩
      | cons ty x =>
          have hround := decodeOne_scan d canResize ty x calls
          have hloop : (Decode.decodeLoop (fuel + 1) canResize : Decode S Unit)
              ⟨d, ⟨ty :: x, 0⟩, calls⟩ =
              (Decode.decodeOne canResize ty >>= fun canResize =>
                Decode.decodeLoop fuel canResize : Decode S Unit) ⟨d, ⟨ty :: x, 0⟩, calls⟩ := rfl
          rw [hloop, readItems]
          cases hscan : Scan.item d canResize (ty :: x) d.buffer with
          | error e b =>
              rw [hscan] at hround
              obtain ⟨c, hone, hbytes⟩ := hround
              rw [bind_of_error hone, List.flatMap_nil, List.append_nil]
              exact ⟨d, canResize, ty :: x, .done _ _ _,
                .stopped (List.cons_ne_nil _ _) hscan hbytes⟩
          | ok ir b =>
              obtain ⟨item, r⟩ := ir
              rw [hscan] at hround
              unfold Performs at hround
              dsimp only at hround ⊢
              cases happly : item.apply d.table with
              | error p =>
                  rw [happly] at hround
                  obtain ⟨c, hone⟩ := hround
                  rw [bind_of_error hone, List.flatMap_nil, List.append_nil]
                  exact ⟨d, canResize, ty :: x, .done _ _ _, .broken hscan happly⟩
              | ok t =>
                  rw [happly] at hround
                  have hshort := Scan.item_shorter hscan
                  obtain ⟨d', canResize', x', hreads, hends⟩ := ih
                    { d with table := t, buffer := b } (canResize && item.isResize) r
                    (calls ++ item.headers) (by omega)
                  dsimp only
                  rw [bind_of_ok hround, List.flatMap_cons, ← List.append_assoc]
                  exact ⟨d', canResize', x', .item hscan happly hreads, hends⟩

/-- `decode` reads the representations of its input, and ends. -/
theorem decode_reads (d : Decoder S) (x : Bytes) :
    ∃ d' canResize' x', Reads d.takeSizeUpdate true x (d.items x) d' canResize' x' ∧
      Ends d' canResize' ((d.items x).flatMap Item.headers) x' (d.decode ⟨x, 0⟩) := by
  have h := decodeLoop_reads (x.length + 1) d.takeSizeUpdate true x [] (Nat.lt_succ_self _)
  rwa [List.nil_append] at h

/-! ## More input and less input -/

section Compare

variable {d d' d'' : Decoder S} {canResize canResize' canResize'' : Bool} {x x' x'' : Bytes}
  {items items' : List (Item S)}

/-- What is read does not depend on the octets behind it. -/
theorem Reads.append (h : Reads d canResize x items d' canResize' x') :
    ∃ u, x = u ++ x' ∧ ∀ y, Reads d canResize (u ++ y) items d' canResize' y := by
  induction h with
  | done d canResize x => exact ⟨[], rfl, fun y => .done d canResize y⟩
  | item hscan happly _ ih =>
      obtain ⟨u, rfl, hu⟩ := ih
      obtain ⟨v, rfl, hv⟩ := (Scan.local_item _ _).ok hscan
      refine ⟨v ++ u, by rw [List.append_assoc], fun y => ?_⟩
      rw [List.append_assoc]
      exact .item (hv (u ++ y)) happly (hu y)

/-- Reading goes on behind what has been read. -/
theorem Reads.rest (h : Reads d canResize x items d' canResize' x')
    (h' : Reads d canResize x items' d'' canResize'' x'') (hend : Ended d'' canResize'' x'') :
    ∃ rest, items' = items ++ rest ∧ Reads d' canResize' x' rest d'' canResize'' x'' := by
  induction h generalizing items' with
  | done d canResize x => exact ⟨items', rfl, h'⟩
  | item hscan happly _ ih =>
      cases h' with
      | done => exact absurd happly (hend _ _ _ _ hscan)
      | item hscan' happly' hrest =>
          rw [hscan] at hscan'
          cases hscan'
          rw [happly] at happly'
          cases happly'
          obtain ⟨rest, rfl, hreads⟩ := ih hrest
          exact ⟨rest, rfl, hreads⟩

/-- Only one way leads to the end. -/
theorem Reads.unique (h : Reads d canResize x items d' canResize' x')
    (hend : Ended d' canResize' x')
    (h' : Reads d canResize x items' d'' canResize'' x'') (hend' : Ended d'' canResize'' x'') :
    items' = items ∧ d'' = d' ∧ canResize'' = canResize' ∧ x'' = x' := by
  obtain ⟨rest, rfl, hrest⟩ := h.rest h' hend'
  cases hrest with
  | done => exact ⟨List.append_nil _, rfl, rfl, rfl⟩
  | item hscan happly _ => exact absurd happly (hend _ _ _ _ hscan)

theorem Reads.trans (h : Reads d canResize x items d' canResize' x')
    (h' : Reads d' canResize' x' items' d'' canResize'' x'') :
    Reads d canResize x (items ++ items') d'' canResize'' x'' := by
  induction h with
  | done => exact h'
  | item hscan happly _ ih => exact .item hscan happly (ih h')

/-- The sizes that the decoder has been told are not changed. -/
theorem Reads.sizes (h : Reads d canResize x items d' canResize' x') :
    d'.maxSizeUpdate = d.maxSizeUpdate ∧ d'.lastMaxUpdate = d.lastMaxUpdate := by
  induction h with
  | done => exact ⟨rfl, rfl⟩
  | item _ _ _ ih => exact ih

/-- `decode` is successful if it reads all of its input. -/
theorem decode_of_reads (h : Reads d.takeSizeUpdate true x items d' canResize' []) :
    d.decode ⟨x, 0⟩ = .ok () ⟨d', ⟨[], 0⟩, items.flatMap Item.headers⟩ := by
  obtain ⟨d'', canResize'', x'', hreads, hends⟩ := decode_reads d x
  obtain ⟨hitems, rfl, rfl, rfl⟩ := h.unique (ended_nil _ _) hreads hends.ended
  rw [hitems] at hends
  generalize d.decode ⟨x, 0⟩ = res at hends
  cases hends with
  | finished => rfl
  | stopped hne _ _ => exact absurd rfl hne
  | broken hscan _ => cases hscan

/-- And only then. -/
theorem reads_of_decode {s : DecodeState S} (h : d.decode ⟨x, 0⟩ = .ok () s) :
    ∃ canResize', Reads d.takeSizeUpdate true x (d.items x) s.decoder canResize' [] ∧
      s = ⟨s.decoder, ⟨[], 0⟩, (d.items x).flatMap Item.headers⟩ := by
  obtain ⟨d', canResize', x', hreads, hends⟩ := decode_reads d x
  rw [h] at hends
  cases hends
  exact ⟨canResize', hreads, rfl⟩

end Compare

end NtexH2.Hpack
