/-
  Hpack/EncoderRuns.lean --- the encoder, one header at a time.

  `Encoder::encode` announces the sizes of the table and then writes the headers of a
  list.  A run is a list of moves, which may stop in the middle of a block: what holds
  behind every run holds at every point of every block.
-/
import NtexH2.Hpack.Agreement

set_option autoImplicit false

namespace NtexH2.Hpack

open Lib.Fifo

variable {S : HttpSyntax}

/-- Resizing several times: the last bound stays. -/
theorem Table.resizes_spec {hash : Name S → Nat} (sizes : List Nat) : ∀ {t : Table S},
    t.Valid hash → (∀ v ∈ sizes, v < wordSize) →
    ∃ t', sizes.foldlM Table.resize t = .ok t' ∧ t'.Valid hash ∧
      t'.maxSize = sizes.getLast?.getD t.maxSize ∧
      t'.headers = sizes.foldl (fun l n => fit Header.len n l) t.headers := by
  induction sizes with
  | nil => exact fun hv _ => ⟨_, rfl, hv, rfl, rfl⟩
  | cons v sizes ih =>
      intro t hv hlt
      obtain ⟨t1, hrun1, hv1, hmax1, hl1⟩ := Table.resize_spec hv (hlt v List.mem_cons_self)
      obtain ⟨t', hrun, hv', hmax, hl⟩ := ih hv1 fun w hw => hlt w (List.mem_cons_of_mem _ hw)
      refine ⟨t', ?_, hv', ?_, ?_⟩
      · rw [List.foldlM_cons, hrun1]
        exact hrun
      · rw [hmax, hmax1, List.getLast?_cons]
        rfl
      · rw [hl, hl1, List.foldl_cons]

theorem Table.Valid.total_le {hash : Name S → Nat} {t : Table S} (h : t.Valid hash) :
    total Header.len t.headers ≤ t.maxSize := by
  have hsized := h.sized
  have hle := h.size_le
  unfold Table.Sized at hsized
  omega

/-- What a user does with the encoder: `Encoder::encode` is a start and the headers of the list. -/
inductive Move (S : HttpSyntax) where
  | updateMaxSize (v : UInt64)
  | start
  | header (header : Header S (Option (HeaderName S)))

/-- The encoder within a block: `last` is `last_index`, and `dst` is the destination. -/
structure Encoding (S : HttpSyntax) where
  encoder : Encoder S
  last : Option (Index S)
  dst : Bytes

namespace Encoding

/-- A new encoder. -/
def new (S : HttpSyntax) (maxSize capacity : UInt64) : Encoding S :=
  ⟨Encoder.new S maxSize.toNat capacity.toNat, none, []⟩

/-- One move. -/
def move (hash : Name S → Nat) (s : Encoding S) : Move S → Except Panic (Encoding S)
  | .updateMaxSize v => .ok { s with encoder := s.encoder.updateMaxSize v.toNat }
  | .start => do
      let (e, dst) ← s.encoder.encodeSizeUpdates s.dst
      return ⟨e, none, dst⟩
  | .header header => do
      let (t, last, dst) ← Encoder.encodeOne hash s.encoder.table s.last header s.dst
      return ⟨{ s.encoder with table := t }, last, dst⟩

/-- A list of moves. -/
def run (hash : Name S → Nat) (s : Encoding S) (moves : List (Move S)) :
    Except Panic (Encoding S) :=
  moves.foldlM (move hash) s

theorem run_cons (hash : Name S → Nat) (s : Encoding S) (m : Move S) (moves : List (Move S)) :
    s.run hash (m :: moves) = s.move hash m >>= fun s => s.run hash moves := List.foldlM_cons

/-! ## What holds behind every run -/

/-- The invariant of a run. -/
structure Sound (hash : Name S → Nat) (s : Encoding S) : Prop where
  valid : s.encoder.table.Valid hash
  plain : ∀ h ∈ s.encoder.table.headers, h.isSensitive = false
  sizes : ∀ v ∈ SizeUpdate.sizes s.encoder.sizeUpdate, v < wordSize

variable {hash : Name S → Nat}

theorem new_sound (maxSize capacity : UInt64) : (new S maxSize capacity).Sound hash := by
  refine ⟨Table.new_valid _ _ maxSize.toNat_lt, fun h hmem => ?_, nofun⟩
  rw [new, Encoder.new, Table.new_headers] at hmem
  cases hmem

/-- The sizes that are announced are applied. -/
theorem encodeSizeUpdates_spec {e : Encoder S} (hv : e.table.Valid hash)
    (hsizes : ∀ v ∈ SizeUpdate.sizes e.sizeUpdate, v < wordSize) :
    ∃ t, (SizeUpdate.sizes e.sizeUpdate).foldlM Table.resize e.table = .ok t ∧
      ∀ dst, e.encodeSizeUpdates dst =
        .ok (⟨t, none⟩,
          dst ++ (SizeUpdate.sizes e.sizeUpdate).flatMap (encodeInt · 5 0b00100000)) := by
  obtain ⟨t, sizes⟩ := e
  match sizes, hsizes with
  | none, _ =>
      exact ⟨t, rfl, fun dst => by rw [SizeUpdate.sizes, List.flatMap_nil, List.append_nil]; rfl⟩
  | some (.one val), hsizes =>
      obtain ⟨t1, hrun, -⟩ := Table.resize_spec hv (hsizes val List.mem_cons_self)
      refine ⟨t1, ?_, fun dst => ?_⟩
      · rw [SizeUpdate.sizes, List.foldlM_cons, hrun]
        rfl
      · rw [Encoder.encodeSizeUpdates, SizeUpdate.sizes, List.flatMap_cons, List.flatMap_nil,
          List.append_nil]
        simp only [hrun, ok_bind]
        rfl
  | some (.two min max), hsizes =>
      obtain ⟨t1, hrun1, hv1, -⟩ := Table.resize_spec hv (hsizes min List.mem_cons_self)
      obtain ⟨t2, hrun2, -⟩ := Table.resize_spec hv1
        (hsizes max (List.mem_cons_of_mem _ List.mem_cons_self))
      refine ⟨t2, ?_, fun dst => ?_⟩
      · rw [SizeUpdate.sizes, List.foldlM_cons, hrun1, ok_bind, List.foldlM_cons, hrun2]
        rfl
      · rw [Encoder.encodeSizeUpdates, SizeUpdate.sizes, List.flatMap_cons, List.flatMap_cons,
          List.flatMap_nil, List.append_nil, ← List.append_assoc]
        simp only [hrun1, hrun2, ok_bind]
        rfl

theorem updateMaxSize_table (e : Encoder S) (v : Nat) : (e.updateMaxSize v).table = e.table := by
  unfold Encoder.updateMaxSize
  split <;> split_ifs <;> rfl

/-- A header goes through the table, or is nameless. -/
theorem encodeOne_table {t t' : Table S} {last last' : Option (Index S)}
    {header : Header S (Option (HeaderName S))} {dst dst' : Bytes}
    (h : Encoder.encodeOne hash t last header dst = .ok (t', last', dst')) :
    (∃ e idx, header.reify = .ok e ∧ t.index hash e = .ok (idx, t') ∧
      encodeHeader t' idx dst = .ok dst') ∨
    ∃ value idx, header.reify = .error value ∧ last = some idx ∧ t' = t ∧
      encodeHeaderWithoutName t idx value dst = .ok dst' := by
  rw [Encoder.encodeOne] at h
  cases hreify : header.reify with
  | ok e =>
      rw [hreify] at h
      obtain ⟨⟨idx, t1⟩, hindex, h⟩ := bind_eq_ok.mp h
      obtain ⟨dst1, hwrite, h⟩ := bind_eq_ok.mp h
      cases h
      exact .inl ⟨e, idx, rfl, hindex, hwrite⟩
  | error value =>
      rw [hreify] at h
      obtain ⟨idx, hidx, h⟩ := bind_eq_ok.mp h
      obtain ⟨dst1, hwrite, h⟩ := bind_eq_ok.mp h
      cases h
      cases last with
      | none => cases hidx
      | some idx' =>
          cases hidx
          exact .inr ⟨value, idx, rfl, rfl, rfl, hwrite⟩

/-- The table takes no header that is marked sensitive. -/
theorem plain_index {t t' : Table S} {h : Named S} {idx : Index S}
    (hi : Table.Indexed hash t h idx t') (hplain : ∀ e ∈ t.headers, e.isSensitive = false) :
    ∀ e ∈ t'.headers, e.isSensitive = false := by
  intro e he
  rw [hi.headers_eq, fifoIndex] at he
  split_ifs at he with hcond
  · simp only [Bool.and_eq_true, Bool.not_eq_true'] at hcond
    rcases List.mem_cons.mp ((fit_prefix_self Header.len _ _).subset he) with rfl | hmem
    · exact hcond.1.2
    · exact hplain e hmem
  · exact hplain e he

/-- One move. -/
theorem Sound.next {s s' : Encoding S} {m : Move S} (h : s.Sound hash)
    (hm : s.move hash m = .ok s') : s'.Sound hash := by
  cases m with
  | updateMaxSize v =>
      cases hm
      have hbound : ∀ w ∈ SizeUpdate.sizes s.encoder.sizeUpdate, w ≤ wordSize - 1 :=
        fun w hw => Nat.le_sub_one_of_lt (h.sizes w hw)
      have hsizes := Link.updateMaxSize_sizes (e := s.encoder)
        (Nat.le_sub_one_of_lt v.toNat_lt : v.toNat ≤ wordSize - 1) hbound
      refine ⟨?_, ?_, fun w hw => ?_⟩
      · rw [updateMaxSize_table]
        exact h.valid
      · rw [updateMaxSize_table]
        exact h.plain
      · exact lt_of_le_of_lt (hsizes w hw) (by decide)
  | start =>
      obtain ⟨⟨e, dst⟩, hsizes, hs⟩ := bind_eq_ok.mp hm
      cases hs
      obtain ⟨t, hrun, hwrite⟩ := encodeSizeUpdates_spec h.valid h.sizes
      rw [hwrite] at hsizes
      cases hsizes
      obtain ⟨t', hrun', hvalid, -, hl⟩ := Table.resizes_spec _ h.valid h.sizes
      rw [hrun] at hrun'
      cases hrun'
      refine ⟨hvalid, fun e he => ?_, nofun⟩
      rw [hl, foldl_fit Header.len _ h.valid.total_le] at he
      exact h.plain e ((fit_prefix_self Header.len _ _).subset he)
  | header header =>
      obtain ⟨⟨t, last, dst⟩, hone, hs⟩ := bind_eq_ok.mp hm
      cases hs
      rcases encodeOne_table hone with ⟨e, idx, -, hindex, -⟩ | ⟨value, idx, -, -, rfl, -⟩
      · obtain ⟨idx', t', hindex', hi⟩ := Table.index_spec h.valid e
        rw [hindex] at hindex'
        cases hindex'
        exact ⟨hi.valid, plain_index hi h.plain, h.sizes⟩
      · exact ⟨h.valid, h.plain, h.sizes⟩

theorem Sound.after (moves : List (Move S)) : ∀ {s s' : Encoding S}, s.Sound hash →
    s.run hash moves = .ok s' → s'.Sound hash := by
  induction moves with
  | nil =>
      intro s s' h hrun
      cases hrun
      exact h
  | cons m moves ih =>
      intro s s' h hrun
      rw [run_cons] at hrun
      obtain ⟨s1, hmove, hrest⟩ := bind_eq_ok.mp hrun
      exact ih (h.next hmove) hrest

end Encoding

end NtexH2.Hpack
