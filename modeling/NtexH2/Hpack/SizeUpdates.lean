/-
  Hpack/SizeUpdates.lean --- the sizes that are announced with the next block.

  `update_max_size` keeps at most two sizes: the lowest one, where that is below the bound
  of the table, and the last one.  Announcing and applying these has the same effect on
  both tables as applying every size that was asked for.
-/
import NtexH2.Hpack.EncoderRuns

set_option autoImplicit false

namespace NtexH2.Hpack

open Lib.Fifo

variable {S : HttpSyntax}

/-- What the pending update says about the sizes asked for since the last block, next to the
bound `bound` of the table. -/
structure SizeUpdate.Signals (bound : Nat) (asked : List Nat) (u : Option SizeUpdate) : Prop where
  drawn : ∀ w ∈ SizeUpdate.sizes u, w ∈ asked
  lowest : (SizeUpdate.sizes u).foldl min bound = asked.foldl min bound
  last : (SizeUpdate.sizes u).getLast?.getD bound = asked.getLast?.getD bound
  ordered : ∀ low high, u = some (.two low high) → low ≤ high

theorem SizeUpdate.signals_none (bound : Nat) : Signals bound [] none := ⟨nofun, rfl, rfl, nofun⟩

/-- One call of `update_max_size`. -/
theorem SizeUpdate.Signals.update {e : Encoder S} {asked : List Nat}
    (h : Signals e.table.maxSize asked e.sizeUpdate) (v : Nat) :
    Signals e.table.maxSize (asked ++ [v]) (e.updateMaxSize v).sizeUpdate := by
  obtain ⟨t, u⟩ := e
  have hasked : ∀ {w : Nat}, w ∈ asked → w ∈ asked ++ [v] := List.mem_append_left _
  have hv : v ∈ asked ++ [v] := List.mem_append_right _ List.mem_cons_self
  have hlowest := h.lowest
  have hone : (∀ w, asked.foldl min t.maxSize = w → min w v = min t.maxSize v) →
      Signals t.maxSize (asked ++ [v]) (some (.one v)) := by
    intro hmin
    refine ⟨fun w hw => ?_, ?_, ?_, nofun⟩
    · rw [List.mem_singleton.mp hw]
      exact hv
    · rw [List.foldl_append]
      exact (hmin _ rfl).symm
    · rw [List.getLast?_append]
      rfl
  have htwo : ∀ low, low ∈ asked → low ≤ v →
      (∀ w, asked.foldl min t.maxSize = w → min w v = min (min t.maxSize low) v) →
      Signals t.maxSize (asked ++ [v]) (some (.two low v)) := by
    intro low hlow hle hmin
    refine ⟨fun w hw => ?_, ?_, ?_, ?_⟩
    · rcases List.mem_cons.mp hw with rfl | hw
      · exact hasked hlow
      · rw [List.mem_singleton.mp hw]
        exact hv
    · rw [List.foldl_append]
      exact (hmin _ rfl).symm
    · rw [List.getLast?_append]
      rfl
    · intro low' high' heq
      cases heq
      exact hle
  unfold Encoder.updateMaxSize
  match u, h, hlowest with
  | none, h, hlowest =>
      have hlowest : t.maxSize = asked.foldl min t.maxSize := hlowest
      by_cases hsame : v ≠ t.maxSize
      · simp only [if_pos hsame]
        exact hone fun w hw => by rw [← hw, ← hlowest]
      · simp only [if_neg hsame]
        have hbound : v = t.maxSize := not_not.mp hsame
        refine ⟨nofun, ?_, ?_, nofun⟩
        · rw [List.foldl_append, ← hlowest, hbound]
          exact (Nat.min_self _).symm
        · rw [List.getLast?_append, hbound]
          rfl
  | some (.one old), h, hlowest =>
      have hlowest : min t.maxSize old = asked.foldl min t.maxSize := hlowest
      have hold := h.drawn old List.mem_cons_self
      by_cases hgt : v > old
      · by_cases habove : old > t.maxSize
        · simp only [if_pos hgt, if_pos habove]
          exact hone fun w hw => by omega
        · simp only [if_pos hgt, if_neg habove]
          exact htwo old hold (Nat.le_of_lt hgt) fun w hw => by omega
      · simp only [if_neg hgt]
        exact hone fun w hw => by omega
  | some (.two low high), h, hlowest =>
      have hlowest : min (min t.maxSize low) high = asked.foldl min t.maxSize := hlowest
      have hlow := h.drawn low List.mem_cons_self
      have hle := h.ordered low high rfl
      by_cases hlt : v < low
      · simp only [if_pos hlt]
        exact hone fun w hw => by omega
      · simp only [if_neg hlt]
        exact htwo low hlow (Nat.le_of_not_lt hlt) fun w hw => by omega

/-- Any number of calls. -/
theorem SizeUpdate.Signals.updates (vs : List Nat) : ∀ {e : Encoder S} {asked : List Nat},
    Signals e.table.maxSize asked e.sizeUpdate →
    Signals e.table.maxSize (asked ++ vs) (vs.foldl Encoder.updateMaxSize e).sizeUpdate ∧
      (vs.foldl Encoder.updateMaxSize e).table = e.table := by
  induction vs with
  | nil =>
      intro e asked h
      rw [List.append_nil]
      exact ⟨h, rfl⟩
  | cons v vs ih =>
      intro e asked h
      have htable := Encoding.updateMaxSize_table e v
      have hnext := h.update v
      rw [← htable] at hnext
      obtain ⟨hsignals, hsame⟩ := ih hnext
      rw [List.append_assoc, htable] at hsignals
      exact ⟨hsignals, hsame.trans htable⟩

/-- The lowest of some sizes, where it is below the bound. -/
theorem foldl_min_of_min {sizes : List Nat} {m bound : Nat} (hm : sizes.min? = some m)
    (hlt : m < bound) : sizes.foldl min bound = m := by
  obtain ⟨hmem, hle⟩ := List.min?_eq_some_iff.mp hm
  have hfold : (bound :: sizes).min? = some (sizes.foldl min bound) := rfl
  obtain ⟨hmem', hle'⟩ := List.min?_eq_some_iff.mp hfold
  refine Nat.le_antisymm (hle' m (List.mem_cons_of_mem _ hmem)) ?_
  rcases List.mem_cons.mp hmem' with heq | hin
  · rw [heq]
    exact Nat.le_of_lt hlt
  · exact hle _ hin

/-- A bound below the first one is in the list. -/
theorem mem_of_foldl_min {sizes : List Nat} {m bound : Nat} (h : sizes.foldl min bound = m)
    (hlt : m < bound) : m ∈ sizes := by
  have hfold : (bound :: sizes).min? = some (sizes.foldl min bound) := rfl
  obtain ⟨hmem, -⟩ := List.min?_eq_some_iff.mp hfold
  rw [h] at hmem
  exact (List.mem_cons.mp hmem).resolve_left (Nat.ne_of_lt hlt)

/-- The decoder's table under some sizes. -/
theorem setMaxSizes_spec (sizes : List Nat) : ∀ (l : List (Named S)) (maxSize : Nat),
    sizes.foldlM DecoderTable.setMaxSize (tableOf l maxSize) =
      .ok (tableOf (sizes.foldl (fun l n => fit Header.len n l) l)
        (sizes.getLast?.getD maxSize)) := by
  induction sizes with
  | nil => exact fun l maxSize => rfl
  | cons v sizes ih =>
      intro l maxSize
      rw [List.foldlM_cons, setMaxSize_tableOf, ok_bind, ih, List.foldl_cons, List.getLast?_cons]
      rfl

/-- A decoder's table that is in sync. -/
theorem tableOf_of_sameTable {hash : Name S → Nat} {e : Encoder S} {d : Decoder S}
    (hv : e.table.Valid hash) (h : Link.SameTable e d) :
    d.table = tableOf e.table.headers e.table.maxSize := by
  have hsized := hv.sized
  unfold Table.Sized at hsized
  rw [Nat.zero_add] at hsized
  have hentries := h.headers
  have hsize := h.size
  have hmax := h.maxSize
  obtain ⟨m, u, t, b⟩ := d
  obtain ⟨entries, size, maxSize⟩ := t
  dsimp only at hentries hsize hmax ⊢
  rw [tableOf, ← hentries, ← hsize, ← hmax, hsized]
  rfl

/-- Between two blocks the encoder is asked for the sizes `vs`.  What the next block announces
is at most two sizes; the last one is the last one asked for, which is the bound in force if
none is announced; none is below the lowest one asked for, and that is announced where it is
below the bound in force.  Applying these drops the same entries as applying all of `vs`, from
the encoder's table and from a table in sync with it. -/
theorem size_updates_signalled (hash : Name S → Nat) (maxSize capacity : UInt64)
    (moves : List (Move S)) {s : Encoding S}
    (hrun : (Encoding.new S maxSize capacity).run hash moves = .ok s)
    (hblock : s.encoder.sizeUpdate = none) (vs : List UInt64) :
    let asked := vs.map UInt64.toNat
    let e := asked.foldl Encoder.updateMaxSize s.encoder
    let written := SizeUpdate.sizes e.sizeUpdate
    written.length ≤ 2 ∧
    (∀ v, asked.getLast? = some v → written.getLast?.getD s.encoder.table.maxSize = v) ∧
    (∀ m, asked.min? = some m →
      (∀ w ∈ written, m ≤ w) ∧ (m < s.encoder.table.maxSize → m ∈ written)) ∧
    ∃ t, written.foldlM Table.resize s.encoder.table = .ok t ∧
      (∀ headers dst, e.encode hash headers dst =
        (Encoder.encodeLoop hash headers t none
          (dst ++ written.flatMap (encodeInt · 5 0b00100000))).map fun r => (⟨r.1, none⟩, r.2)) ∧
      (∃ t', asked.foldlM Table.resize s.encoder.table = .ok t' ∧
        t.headers = t'.headers ∧ t.maxSize = t'.maxSize) ∧
      ∀ d : Decoder S, Link.SameTable s.encoder d → ∃ dt,
        written.foldlM DecoderTable.setMaxSize d.table = .ok dt ∧
        asked.foldlM DecoderTable.setMaxSize d.table = .ok dt ∧
        dt.entries = t.headers ∧ dt.maxSize = t.maxSize := by
  dsimp only
  have hsound := (Encoding.new_sound maxSize capacity).after moves hrun
  have hvalid := hsound.valid
  generalize hasked : vs.map UInt64.toNat = asked
  have hlt : ∀ v ∈ asked, v < wordSize := by
    rintro v hv
    rw [← hasked] at hv
    obtain ⟨u, -, rfl⟩ := List.mem_map.mp hv
    exact u.toNat_lt
  have hstart : SizeUpdate.Signals s.encoder.table.maxSize [] s.encoder.sizeUpdate := by
    rw [hblock]
    exact SizeUpdate.signals_none _
  obtain ⟨hsignals, htable⟩ := hstart.updates asked
  rw [List.nil_append] at hsignals
  generalize asked.foldl Encoder.updateMaxSize s.encoder = e at hsignals htable
  have hwritten : ∀ w ∈ SizeUpdate.sizes e.sizeUpdate, w < wordSize :=
    fun w hw => hlt w (hsignals.drawn w hw)
  obtain ⟨t, hresize, -, hmax, hheaders⟩ := Table.resizes_spec _ hvalid hwritten
  obtain ⟨t', hresize', -, hmax', hheaders'⟩ := Table.resizes_spec _ hvalid hlt
  have hsame : t.headers = t'.headers := by
    rw [hheaders, hheaders', foldl_fit Header.len _ hvalid.total_le,
      foldl_fit Header.len _ hvalid.total_le, hsignals.lowest]
  have hsameMax : t.maxSize = t'.maxSize := by
    rw [hmax, hmax', hsignals.last]
  refine ⟨?_, fun v hv => ?_, fun m hm => ⟨fun w hw => ?_, fun hlow => ?_⟩, t, hresize,
    fun headers dst => ?_, ⟨t', hresize', hsame, hsameMax⟩, fun d hd => ?_⟩
  · match e.sizeUpdate with
    | none => exact Nat.zero_le _
    | some (.one _) => exact Nat.le_succ _
    | some (.two _ _) => exact Nat.le_refl _
  · rw [hsignals.last, hv]
    rfl
  · exact (List.min?_eq_some_iff.mp hm).2 w (hsignals.drawn w hw)
  · exact mem_of_foldl_min (hsignals.lowest.trans (foldl_min_of_min hm hlow)) hlow
  · rw [← htable] at hvalid hresize
    obtain ⟨t'', hrun', hwrite⟩ := Encoding.encodeSizeUpdates_spec hvalid hwritten
    rw [hresize] at hrun'
    cases hrun'
    rw [Encoder.encode, hwrite]
    simp only [ok_bind]
    cases Encoder.encodeLoop hash headers t none
        (dst ++ (SizeUpdate.sizes e.sizeUpdate).flatMap (encodeInt · 5 0b00100000)) with
    | error p => rfl
    | ok r => rfl
  · rw [tableOf_of_sameTable hvalid hd]
    refine ⟨_, setMaxSizes_spec _ _ _, ?_, hheaders.symm, hmax.symm⟩
    rw [setMaxSizes_spec, ← hheaders, ← hheaders', hsame, hsignals.last]

/-- Three sizes, of which the lowest and the last one are announced. -/
theorem size_updates_signalled_three :
    let s := Encoding.new Link.asciiSyntax 4096 0
    let e := [64, 32, 128].foldl Encoder.updateMaxSize s.encoder
    SizeUpdate.sizes e.sizeUpdate = [32, 128] ∧ (∀ w ∈ SizeUpdate.sizes e.sizeUpdate, 32 ≤ w) ∧
      ∃ t, (SizeUpdate.sizes e.sizeUpdate).foldlM Table.resize s.encoder.table = .ok t ∧
        t.maxSize = 128 := by
  obtain ⟨-, -, hlow, t, hrun, -, ⟨t', hrun', -, hmax⟩, -⟩ :=
    size_updates_signalled (fun _ => 0) 4096 0 []
      (show (Encoding.new Link.asciiSyntax 4096 0).run (fun _ => 0) [] = .ok _ from rfl) rfl
      [64, 32, 128]
  refine ⟨rfl, (hlow 32 rfl).1, t, hrun, ?_⟩
  cases hrun'
  exact hmax

end NtexH2.Hpack
