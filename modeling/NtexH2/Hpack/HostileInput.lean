/-
  Hpack/HostileInput.lean --- the decoder's table under any input.

  Whatever octets come, accepted or not, the decoder returns; the size of its table is
  the sum of its entries and stays within the size the decoder was created with, and the
  entries are the headers that were inserted last.
-/
import NtexH2.Hpack.Reads

set_option autoImplicit false

namespace NtexH2.Hpack

open Lib.Fifo

variable {S : HttpSyntax}

/-! ## No panics -/

namespace Huffman

theorem decode4_fault {d : Decoder} (h : Good d) {n : Nat} (hn : n < 16) {f : Fault}
    (hf : d.decode4 n = .error f) : f = .err .invalidHuffmanCode := by
  rcases decode4_spec h ⟨n, hn⟩ with ⟨herr, -⟩ | ⟨d', o, hok, -⟩
  · rw [herr] at hf
    cases hf
    rfl
  · rw [hok] at hf
    cases hf

theorem decode4_good {d d' : Decoder} (h : Good d) {n : Nat} (hn : n < 16) {o : Option UInt8}
    (hd : d.decode4 n = .ok (d', o)) : Good d' := by
  rcases decode4_spec h ⟨n, hn⟩ with ⟨herr, -⟩ | ⟨d', o, hok, hgood, -⟩
  · rw [herr] at hd
    cases hd
  · rw [hok] at hd
    cases hd
    exact hgood

/-- The decoder stays within its table, and fails with a code that is not valid. -/
theorem decodeLoop_fault (s : Bytes) : ∀ {d : Decoder} {buf : Bytes} {f : Fault}, Good d →
    (decodeLoop s d buf).1 = .error f → f = .err .invalidHuffmanCode := by
  induction s with
  | nil =>
      intro d buf f _ h
      cases h
  | cons b s ih =>
      intro d buf f hd h
      have hhigh : (b >>> 4).toNat < 16 := by
        rw [shift_toNat]
        have := b.toNat_lt
        omega
      have hlow : (b &&& 0xf).toNat < 16 := by
        rw [mask_toNat]
        omega
      rw [decodeLoop] at h
      cases hhi : d.decode4 (b >>> 4).toNat with
      | error e =>
          rw [hhi] at h
          cases h
          exact decode4_fault hd hhigh hhi
      | ok r =>
          obtain ⟨d1, hi⟩ := r
          rw [hhi] at h
          dsimp only at h
          have hd1 := decode4_good hd hhigh hhi
          cases hlo : d1.decode4 (b &&& 0xf).toNat with
          | error e =>
              rw [hlo] at h
              cases h
              exact decode4_fault hd1 hlow hlo
          | ok r =>
              obtain ⟨d2, lo⟩ := r
              rw [hlo] at h
              exact ih (decode4_good hd1 hlow hlo) h

theorem decode_fault {src buf buf' : Bytes} {f : Fault} (h : decode src buf = (.error f, buf')) :
    f = .err .invalidHuffmanCode := by
  unfold decode at h
  cases hloop : decodeLoop src .new buf with
  | mk r b =>
      rw [hloop] at h
      cases r with
      | error e =>
          cases h
          exact decodeLoop_fault src good_new (congrArg Prod.fst hloop)
      | ok d =>
          dsimp only at h
          split at h
          · cases h
          · cases h
            rfl

end Huffman

namespace Scan

/-- A step parser does not panic. -/
def Calm {α : Type} (p : Scan α) : Prop :=
  ∀ x b f b', p x b = .error (.fault f) b' → ∃ e, f = .err e

variable {α β : Type}

theorem Calm.bind {p : Scan α} {q : α → Scan β} (hp : Calm p) (hq : ∀ a, Calm (q a)) :
    Calm (p >>= q) := by
  intro x b f b' h
  cases hres : p x b with
  | error e b1 =>
      rw [bind_error hres] at h
      cases h
      exact hp x b f b' hres
  | ok ar b1 =>
      obtain ⟨a, r⟩ := ar
      rw [bind_ok hres] at h
      exact hq a r b1 f b' h

theorem calm_pure (a : α) : Calm (pure a : Scan α) := by
  intro x b f b' h
  cases h

theorem calm_stop (e : DecoderError) : Calm (stop (.fault (.err e)) : Scan α) := by
  intro x b f b' h
  cases h
  exact ⟨e, rfl⟩

theorem calm_octet (n : NeedMore) : Calm (octet n) := by
  intro x b f b' h
  cases x with
  | nil => cases h
  | cons c x => cases h

theorem calm_take (len : Nat) : Calm (take len) := by
  intro x b f b' h
  unfold take at h
  split at h
  · cases h
  · cases h

theorem calm_checked (r : Except DecoderError α) : Calm (checked r) := by
  cases r with
  | ok a => exact calm_pure a
  | error e => exact calm_stop e

theorem calm_intTail (left : Nat) : ∀ shift ret, Calm (intTail left shift ret) := by
  induction left with
  | zero =>
      intro shift ret
      rw [intTail]
      refine (calm_octet _).bind fun b => ?_
      split
      · exact calm_pure _
      · exact calm_stop _
  | succ left ih =>
      intro shift ret
      rw [intTail]
      refine (calm_octet _).bind fun b => ?_
      split
      · exact calm_pure _
      · exact ih _ _

theorem calm_intFrom (prefixSize : Nat) (first : UInt8) : Calm (intFrom prefixSize first) := by
  unfold intFrom
  dsimp only
  split
  · exact calm_pure _
  · exact calm_intTail _ _ _

theorem calm_huffman (raw : Bytes) : Calm (huffman raw) := by
  intro x b f b' h
  unfold huffman at h
  split at h
  · cases h
  · next hdec =>
      cases h
      exact ⟨_, Huffman.decode_fault hdec⟩

theorem calm_string : Calm string := by
  refine Calm.bind ((calm_octet _).bind fun _ => (calm_intFrom _ _).bind fun _ =>
    (calm_take _).bind fun _ => calm_pure _) fun s => ?_
  unfold text
  split
  · exact calm_huffman _
  · exact calm_pure _

/-- The static table has an entry for each of its indices. -/
theorem getStatic_ok {n : Nat} (h1 : 1 ≤ n) (h61 : n ≤ 61) : ∃ h, getStatic S n = .ok h := by
  rcases Nat.lt_or_ge n 17 with hlt | hge
  · interval_cases n <;> exact ⟨_, rfl⟩
  · exact ⟨_, getStatic_field ⟨by omega, show n - 15 < 47 by omega⟩ (by omega)⟩

theorem calm_lookup (t : DecoderTable S) (index : Nat) : Calm (lookup (t.get index)) := by
  unfold DecoderTable.get
  split
  · exact calm_stop _
  · next hne =>
      split
      · next hle =>
          obtain ⟨h, hget⟩ := getStatic_ok (S := S) (Nat.pos_of_ne_zero hne) hle
          rw [hget]
          exact calm_pure h
      · split
        · exact calm_pure _
        · exact calm_stop _

theorem calm_literal (t : DecoderTable S) (prefixSize : Nat) (first : UInt8) :
    Calm (literal t prefixSize first) := by
  refine (calm_intFrom _ _).bind fun index => ?_
  split
  · exact calm_string.bind fun name => calm_string.bind fun value => calm_checked _
  · exact (calm_lookup t index).bind fun e => calm_string.bind fun value => calm_checked _

theorem calm_item (d : Decoder S) (canResize : Bool) : Calm (item d canResize) := by
  refine (calm_octet _).bind fun ty => (calm_checked _).bind fun rep => ?_
  cases rep with
  | indexed =>
      exact (calm_intFrom _ _).bind fun index => (calm_lookup _ _).bind fun h => calm_pure _
  | literalWithIndexing => exact (calm_literal _ _ _).bind fun h => calm_pure _
  | literalWithoutIndexing => exact (calm_literal _ _ _).bind fun h => calm_pure _
  | literalNeverIndexed => exact (calm_literal _ _ _).bind fun h => calm_pure _
  | sizeUpdate =>
      dsimp only
      split
      · exact calm_stop _
      · refine (calm_intFrom _ _).bind fun n => ?_
        split
        · exact calm_stop _
        · exact calm_pure _

end Scan

/-! ## The table -/

theorem reserveLoop_large {len maxSize : Nat} (hlen : maxSize < len) :
    ∀ (fuel : Nat) (l : List (Named S)), l.length < fuel →
      DecoderTable.reserveLoop len fuel (tableOf l maxSize) = .ok (tableOf [] maxSize) := by
  intro fuel
  induction fuel with
  | zero => exact fun l h => absurd h (Nat.not_lt_zero _)
  | succ fuel ih =>
      intro l hfuel
      have hover : total Header.len l + len > maxSize := by omega
      rw [DecoderTable.reserveLoop]
      simp only [tableOf, hover, if_true]
      cases hlast : l.getLast? with
      | none =>
          rw [List.getLast?_eq_none_iff.mp hlast]
      | some last =>
          have htotal := total_dropLast_add Header.len hlast
          have hle : ¬total Header.len l < last.len := by omega
          have hne : l ≠ [] := by
            rintro rfl
            cases hlast
          have hpos : 0 < l.length := List.length_pos_iff.mpr hne
          simp only [hle, if_false]
          rw [dropLast_tableOf maxSize hlast]
          exact ih _ (by rw [List.length_dropLast]; omega)

/-- A header that is too large for the table empties it. -/
theorem insert_tableOf_large {l : List (Named S)} {e : Named S} {maxSize : Nat}
    (hlarge : maxSize < e.len) : (tableOf l maxSize).insert e = .ok (tableOf [] maxSize) := by
  have hloop : DecoderTable.reserve (tableOf l maxSize) e.len = _ :=
    reserveLoop_large hlarge (l.length + 1) l (Nat.lt_succ_self _)
  have hfull : ¬(tableOf ([] : List (Named S)) maxSize).size + e.len ≤
      (tableOf ([] : List (Named S)) maxSize).maxSize := by
    show ¬0 + e.len ≤ maxSize
    omega
  rw [DecoderTable.insert, hloop, ok_bind, if_neg hfull]
  rfl

namespace Item

/-- The bound of the table and the headers that were inserted, newest first, behind one more
representation. -/
def record (r : Nat × List (Named S)) : Item S → Nat × List (Named S)
  | .field h true => if h.len ≤ r.1 then (r.1, h :: r.2) else r
  | .field _ false => r
  | .resize n => (n, r.2)

/-- A representation changes the table as it changes the record. -/
theorem apply_tableOf {l : List (Named S)} {r : Nat × List (Named S)} (hl : l <+: r.2)
    (hfit : total Header.len l ≤ r.1) (item : Item S) :
    ∃ l', item.apply (tableOf l r.1) = .ok (tableOf l' (item.record r).1) ∧
      l' <+: (item.record r).2 ∧ total Header.len l' ≤ (item.record r).1 := by
  cases item with
  | field h inserted =>
      cases inserted with
      | false => exact ⟨l, rfl, hl, hfit⟩
      | true =>
          by_cases hlen : h.len ≤ r.1
          · have hrecord : (Item.field h true).record r = (r.1, h :: r.2) := if_pos hlen
            rw [hrecord]
            refine ⟨_, insert_tableOf hlen, ?_, total_fit_le _ _ _⟩
            exact (fit_prefix_self Header.len _ _).trans (List.cons_prefix_cons.mpr ⟨rfl, hl⟩)
          · have hrecord : (Item.field h true).record r = r := if_neg hlen
            rw [hrecord]
            exact ⟨[], insert_tableOf_large (Nat.lt_of_not_le hlen), List.nil_prefix,
              Nat.zero_le _⟩
  | resize n =>
      exact ⟨_, setMaxSize_tableOf l r.1 n, (fit_prefix_self Header.len _ _).trans hl,
        total_fit_le _ _ _⟩

end Item

namespace Scan

/-- Every result of a step parser satisfies `P`. -/
def Gives {α : Type} (P : α → Prop) (p : Scan α) : Prop :=
  ∀ x b a r b', p x b = .ok (a, r) b' → P a

variable {α β : Type}

theorem Gives.bind {P : β → Prop} {p : Scan α} {q : α → Scan β} (hq : ∀ a, Gives P (q a)) :
    Gives P (p >>= q) := by
  intro x b c r b' h
  cases hres : p x b with
  | error e b1 =>
      rw [bind_error hres] at h
      cases h
  | ok ar b1 =>
      obtain ⟨a, r1⟩ := ar
      rw [bind_ok hres] at h
      exact hq a r1 b1 c r b' h

theorem gives_pure {P : α → Prop} {a : α} (h : P a) : Gives P (pure a : Scan α) := by
  intro x b c r b' hc
  cases hc
  exact h

theorem gives_stop {P : α → Prop} (e : Stop) : Gives P (stop e : Scan α) := by
  intro x b c r b' hc
  cases hc

/-- A size update is within the size that the decoder allows. -/
theorem item_resize_le (d : Decoder S) (canResize : Bool) :
    Gives (fun item : Item S => ∀ n, item = .resize n → n ≤ d.lastMaxUpdate)
      (item d canResize) := by
  refine .bind fun ty => .bind fun rep => ?_
  cases rep with
  | indexed => exact .bind fun index => .bind fun h => gives_pure nofun
  | literalWithIndexing => exact .bind fun h => gives_pure nofun
  | literalWithoutIndexing => exact .bind fun h => gives_pure nofun
  | literalNeverIndexed => exact .bind fun h => gives_pure nofun
  | sizeUpdate =>
      dsimp only
      split
      · exact gives_stop _
      · refine .bind fun n => ?_
        split
        · exact gives_stop _
        · next hle =>
            refine gives_pure fun m hm => ?_
            cases hm
            exact Nat.le_of_not_lt hle

end Scan

/-- What holds of a decoder that was created with the bound `size` and has read the
representations of the record `r`. -/
structure Decoder.Sound (size : Nat) (r : Nat × List (Named S)) (d : Decoder S) : Prop where
  queued : d.maxSizeUpdate = none
  limit : d.lastMaxUpdate = size
  table : d.table = tableOf d.table.entries r.1
  entries : d.table.entries <+: r.2
  fits : total Header.len d.table.entries ≤ r.1
  bound : r.1 ≤ size

theorem Decoder.sound_new (size : Nat) : (Decoder.new S size).Sound size (size, []) :=
  ⟨rfl, rfl, rfl, List.nil_prefix, Nat.zero_le _, Nat.le_refl _⟩

variable {size : Nat} {r : Nat × List (Named S)} {d d' : Decoder S}

/-- The scratch buffer does not matter. -/
theorem Decoder.Sound.scratch (h : d.Sound size r) (b : Bytes) :
    ({ d with buffer := b } : Decoder S).Sound size r :=
  ⟨h.queued, h.limit, h.table, h.entries, h.fits, h.bound⟩

theorem Decoder.Sound.takeSizeUpdate (h : d.Sound size r) : d.takeSizeUpdate = d := by
  unfold Decoder.takeSizeUpdate
  rw [h.queued]

/-- One representation, which never breaks the table. -/
theorem Decoder.Sound.item (h : d.Sound size r) {item : Item S}
    (hle : ∀ n, item = .resize n → n ≤ d.lastMaxUpdate) (b : Bytes) :
    ∃ t, item.apply d.table = .ok t ∧
      ({ d with table := t, buffer := b } : Decoder S).Sound size (item.record r) := by
  obtain ⟨l, happly, hprefix, hfit⟩ := item.apply_tableOf h.entries h.fits
  rw [← h.table] at happly
  refine ⟨_, happly, h.queued, h.limit, rfl, hprefix, hfit, ?_⟩
  cases item with
  | field e inserted =>
      cases inserted with
      | false => exact h.bound
      | true =>
          show (if e.len ≤ r.1 then (r.1, e :: r.2) else r).1 ≤ size
          split
          · exact h.bound
          · exact h.bound
  | resize n => exact (hle n rfl).trans h.limit.le

/-- The representations of a block. -/
theorem Reads.sound {canResize canResize' : Bool} {x x' : Bytes} {items : List (Item S)}
    (h : Reads d canResize x items d' canResize' x') : ∀ {r}, d.Sound size r →
    d'.Sound size (items.foldl (fun r item => item.record r) r) := by
  induction h with
  | done => exact fun h => h
  | item hscan happly _ ih =>
      intro r hd
      obtain ⟨t, happly', hsound⟩ := hd.item (Scan.item_resize_le _ _ _ _ _ _ _ hscan) _
      rw [happly] at happly'
      cases happly'
      exact ih hsound

/-! ## Runs -/

/-- The state that a call of `decode` leaves. -/
def stateOf : EStateM.Result Fault (DecodeState S) Unit → DecodeState S
  | .ok _ s => s
  | .error _ s => s

namespace Decoder

/-- The decoder after some blocks, accepted or not. -/
def feed (d : Decoder S) : List Bytes → Decoder S
  | [] => d
  | x :: blocks => (stateOf (d.decode ⟨x, 0⟩)).decoder.feed blocks

/-- The representations that are read from some blocks. -/
def history (d : Decoder S) : List Bytes → List (Item S)
  | [] => []
  | x :: blocks => d.items x ++ (stateOf (d.decode ⟨x, 0⟩)).decoder.history blocks

/-- One block: the decoder returns, and stays sound. -/
theorem Sound.decode (h : d.Sound size r) (x : Bytes) :
    (∀ p s, d.decode ⟨x, 0⟩ ≠ .error (.panic p) s) ∧
      (stateOf (d.decode ⟨x, 0⟩)).decoder.Sound size
        ((d.items x).foldl (fun r item => item.record r) r) := by
  obtain ⟨d', canResize', x', hreads, hends⟩ := decode_reads d x
  rw [h.takeSizeUpdate] at hreads
  have hd' := hreads.sound h
  generalize d.decode ⟨x, 0⟩ = res at hends
  cases hends with
  | finished => exact ⟨fun p s hp => (by cases hp), hd'⟩
  | @stopped _ b e c hne hscan hbytes =>
      refine ⟨fun p s hp => ?_, hd'.scratch b⟩
      injection hp with hfault
      cases e with
      | underflow n => cases hfault
      | fault f =>
          obtain ⟨err, rfl⟩ := Scan.calm_item _ _ _ _ _ _ hscan
          cases hfault
  | broken hscan happly =>
      obtain ⟨t, hok, -⟩ := hd'.item (Scan.item_resize_le _ _ _ _ _ _ _ hscan) []
      rw [happly] at hok
      cases hok

theorem Sound.feed (blocks : List Bytes) : ∀ {d : Decoder S} {r}, d.Sound size r →
    (d.feed blocks).Sound size ((d.history blocks).foldl (fun r item => item.record r) r) := by
  induction blocks with
  | nil => exact fun h => h
  | cons x blocks ih =>
      intro d r h
      rw [history, List.foldl_append]
      exact ih (h.decode x).2

/-- After any blocks: the next call of `decode` does not panic, the size of the table is the sum
of its entries, within its bound, which is within the size the decoder was created with; the
entries are the ones inserted last, and the indices from 62 on lead to them. -/
theorem table_exact (size : Nat) (blocks : List Bytes) :
    (∀ x p s, ((new S size).feed blocks).decode ⟨x, 0⟩ ≠ .error (.panic p) s) ∧
    ((new S size).feed blocks).table.size =
      total Header.len ((new S size).feed blocks).table.entries ∧
    ((new S size).feed blocks).table.size ≤ ((new S size).feed blocks).table.maxSize ∧
    ((new S size).feed blocks).table.maxSize ≤ size ∧
    ((new S size).feed blocks).table.entries <+:
      (((new S size).history blocks).foldl (fun r item => item.record r) (size, [])).2 ∧
    ∀ i, ((new S size).feed blocks).table.get (62 + i) =
      match ((new S size).feed blocks).table.entries[i]? with
      | some e => .ok e
      | none => .error (.err .invalidTableIndex) := by
  have h := (sound_new (S := S) size).feed blocks
  have hsize : ((new S size).feed blocks).table.size =
      total Header.len ((new S size).feed blocks).table.entries :=
    congrArg DecoderTable.size h.table
  have hmax : ((new S size).feed blocks).table.maxSize = _ := congrArg DecoderTable.maxSize h.table
  refine ⟨fun x => (h.decode x).1, hsize, ?_, ?_, h.entries, fun i => ?_⟩
  · rw [hsize, hmax]
    exact h.fits
  · rw [hmax]
    exact h.bound
  · have hidx : 62 + i - 62 = i := Nat.add_sub_cancel_left 62 i
    cases hget : ((new S size).feed blocks).table.entries[i]? with
    | none => rw [DecoderTable.get, if_neg (by omega), if_neg (by omega), hidx, hget]
    | some e => rw [DecoderTable.get, if_neg (by omega), if_neg (by omega), hidx, hget]

end Decoder

end NtexH2.Hpack
