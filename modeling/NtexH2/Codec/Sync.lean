/-
  Codec/Sync.lean --- the header table after rejected blocks (src/codec/mod.rs,
  `load_hpack`, src/frame/headers.rs, `HeaderBlock::load`).

  A block that is rejected for its own stream is decoded all the same.  A codec with
  limits is compared with one whose limits are looser: as long as the first does not
  fail, both go through the same states.
-/
import NtexH2.Codec.Blocks
import NtexH2.Wire.HeaderList

set_option autoImplicit false

namespace NtexH2

variable {S : HttpSyntax}

open Hpack (Named)
open Lib

/-! ## Looser limits -/

namespace Wire

namespace Loading

variable {n m n' m' : Nat} {s : Loading S}

theorem field_loosen (hn : n ≤ n') {name : Hpack.HeaderName S} {value : Hpack.HeaderValue S}
    (h : (s.field n name value).tooManyHeaders = false) :
    s.field n' name value = s.field n name value := by
  unfold field at h ⊢
  split
  · rfl
  · split
    · rfl
    · next h1 h2 =>
        rw [if_neg h1, if_neg h2] at h
        dsimp only at h ⊢
        split at h
        · cases h
        · next hle =>
            rw [if_neg hle, if_neg (fun hgt => hle (Nat.lt_of_le_of_lt hn hgt))]

theorem store_loosen (hn : n ≤ n') {header : Named S}
    (h : (s.store n header).tooManyHeaders = false) : s.store n' header = s.store n header := by
  cases header with
  | field name value => exact field_loosen hn h
  | _ => rfl

/-- A header that the limits let through is stored in the same way under looser limits. -/
theorem next_loosen (hn : n ≤ n') (hm : m ≤ m') {header : Named S}
    (h : (s.next n m header).tooManyHeaders = false) :
    s.next n' m' header = s.next n m header := by
  unfold next at h ⊢
  dsimp only at h ⊢
  generalize min (s.listSize + header.len) (wordSize - 1) = size at h ⊢
  by_cases hmany : (s.tooManyHeaders || decide (size > m)) = true
  · rw [if_pos hmany, hmany] at h
    cases h
  · obtain ⟨hs, hsize⟩ := Bool.or_eq_false_iff.mp (Bool.eq_false_iff.mpr hmany)
    have hle : ¬size > m := of_decide_eq_false hsize
    have hle' : ¬size > m' := fun hgt => hle (Nat.lt_of_le_of_lt hm hgt)
    rw [hs, decide_eq_false hle, if_neg (by decide)] at h
    rw [hs, decide_eq_false hle, decide_eq_false hle', if_neg (by decide), if_neg (by decide)]
    exact store_loosen hn h

theorem foldl_loosen (hn : n ≤ n') (hm : m ≤ m') (calls : List (Named S)) :
    ∀ s : Loading S, (calls.foldl (next n m) s).tooManyHeaders = false →
      calls.foldl (next n' m') s = calls.foldl (next n m) s := by
  induction calls with
  | nil => exact fun s _ => rfl
  | cons header calls ih =>
      intro s h
      have hfirst : (s.next n m header).tooManyHeaders = false := by
        refine Bool.eq_false_iff.mpr fun hmany => ?_
        rw [List.foldl_cons, (foldl_rejected n m calls _ hmany).1] at h
        cases h
      rw [List.foldl_cons, List.foldl_cons, next_loosen hn hm hfirst]
      exact ih _ h

end Loading

theorem Loading.finish_rejected {frame : Headers S} {l : Loading S} (h : l.tooManyHeaders = true) :
    (l.finish frame).2.isSome = true := by
  unfold finish
  rw [if_pos h]
  split
  · rfl
  · rfl

end Wire

namespace Codec

open Wire (Fault Loading)

variable {c : Codec S} {frame : Wire.Headers S} {src : Bytes}

/-! ## Two codecs -/

/-- A frame that is returned in place of another one: the same, unless that was rejected. -/
def Keeps (f f' : Wire.Frame S) : Prop := (∃ v, f = .invalid v) ∨ f' = f

/-- The codec with other limits for header lists. -/
def loosen (c : Codec S) (n m : Nat) : Codec S :=
  { c with decoderMaxHeaders := n, decoderMaxHeaderListSize := m }

/-- The limits are no tighter than those of the codec. -/
structure Looser (c : Codec S) (n m : Nat) : Prop where
  headers : c.decoderMaxHeaders ≤ n
  listSize : c.decoderMaxHeaderListSize ≤ m

/-- What a codec with looser limits returns, where the codec itself does not fail. -/
def Follows (n m : Nat) (r r' : Except Fault (Option (Wire.Frame S)) × Codec S) : Prop :=
  ∀ o c1, r = (.ok o, c1) →
    c1.Looser n m ∧ ∃ o', r' = (.ok o', c1.loosen n m) ∧ Option.Rel Keeps o o'

variable {n m : Nat}

theorem Keeps.refl (f : Wire.Frame S) : Keeps f f := .inr rfl

theorem blockItem_rejected {error : Option FrameError} {r : Wire.Headers S × Option FrameError}
    (h : r.2.isSome = true) : ∃ v, blockItem error r = .invalid v := by
  obtain ⟨frame, error'⟩ := r
  cases error with
  | some e => exact ⟨_, rfl⟩
  | none =>
      cases error' with
      | some e => exact ⟨_, rfl⟩
      | none => cases h

/-- A block that is within the limits is loaded in the same way under looser ones. -/
theorem blockItem_loosen (hl : c.Looser n m) (error : Option FrameError)
    (frame : Wire.Headers S) (calls : List (Named S)) :
    Keeps (blockItem error ((c.load calls).finish frame))
      (blockItem error (((c.loosen n m).load calls).finish frame)) := by
  cases hmany : (c.load calls).tooManyHeaders with
  | true => exact .inl (blockItem_rejected (Loading.finish_rejected hmany))
  | false =>
      have heq : (c.loosen n m).load calls = c.load calls :=
        Loading.foldl_loosen hl.headers hl.listSize calls _ hmany
      rw [heq]
      exact .refl _

theorem finishBlock_loosen (hl : c.Looser n m) (frame : Wire.Headers S)
    (error : Option FrameError) (src : Bytes) :
    Follows n m (c.finishBlock frame error src) ((c.loosen n m).finishBlock frame error src) := by
  intro o c1 h
  cases hd : c.decoderHpack.decode ⟨src, 0⟩ with
  | error e s =>
      obtain ⟨f, hf⟩ := finishBlock_error hd frame error
      rw [hf] at h
      cases congrArg Prod.fst h
  | ok u s =>
      have hd' : (c.loosen n m).decoderHpack.decode ⟨src, 0⟩ = .ok u s := hd
      rw [finishBlock_ok hd] at h
      cases h
      rw [finishBlock_ok hd']
      exact ⟨⟨hl.headers, hl.listSize⟩, _, rfl, .some (blockItem_loosen hl error frame s.calls)⟩

/-- A block that goes on. -/
theorem Follows.pending (hl : c.Looser n m) (p : Partial) :
    Follows n m (.ok none, { c with pending := some p })
      (.ok none, { c.loosen n m with pending := some p }) := by
  intro o c1 h
  cases h
  exact ⟨⟨hl.headers, hl.listSize⟩, none, rfl, .none⟩

theorem Follows.failed {e : Fault} {c : Codec S}
    {r : Except Fault (Option (Wire.Frame S)) × Codec S} : Follows n m (.error e, c) r := by
  intro o c1 h
  cases congrArg Prod.fst h

theorem decodeHeaders_loosen (hl : c.Looser n m) (head : Wire.Head) (payload : Bytes) :
    Follows n m (c.decodeHeaders head payload) ((c.loosen n m).decodeHeaders head payload) := by
  unfold decodeHeaders
  cases Wire.Headers.loadHead S head payload with
  | error e => exact .failed
  | ok r =>
      obtain ⟨frame, selfDependency, bytes⟩ := r
      dsimp only
      split
      · exact finishBlock_loosen hl _ _ _
      · exact .pending hl _

/-- The limit on the length of a block that is not complete is no tighter either. -/
theorem decodeContinuation_loosen (hl : c.Looser n m) (p : Partial) (head : Wire.Head)
    (fragment : Bytes) :
    Follows n m (c.decodeContinuation p head fragment)
      ((c.loosen n m).decodeContinuation p head fragment) := by
  unfold decodeContinuation
  split
  · exact .failed
  · dsimp only
    generalize hp : (if decide (c.decoderMaxHeaderContinuations > 0) = true then
      { p with count := p.count + 1 } else p) = p1
    have hc : (c.loosen n m).decoderMaxHeaderContinuations = c.decoderMaxHeaderContinuations := rfl
    have hm' : (c.loosen n m).decoderMaxHeaderListSize = m := rfl
    rw [hc, hm', hp]
    split
    · exact .failed
    · split
      · exact .failed
      · next hsize =>
          have hsize' : ¬p1.buf.length + fragment.length > m := fun hgt =>
            hsize (Nat.lt_of_le_of_lt hl.listSize hgt)
          rw [if_neg hsize']
          split
          · exact finishBlock_loosen hl _ _ _
          · exact .pending hl _

theorem loaded_loosen {α : Type} (hl : c.Looser n m) (f : α → Wire.Frame S)
    (x : Except FrameError α) : Follows n m (c.loaded f x) ((c.loosen n m).loaded f x) := by
  cases x with
  | error e => exact .failed
  | ok v =>
      intro o c1 h
      cases h
      exact ⟨hl, _, rfl, .some (.refl _)⟩

/-- A frame, under looser limits. -/
theorem decodeFrame_loosen (hl : c.Looser n m) (bytes : Bytes) :
    Follows n m (c.decodeFrame bytes) ((c.loosen n m).decodeFrame bytes) := by
  have hp : (c.loosen n m).pending = c.pending := rfl
  unfold decodeFrame
  rw [hp]
  split
  · exact .failed
  · dsimp only
    generalize Wire.Head.parse bytes = head
    split
    · exact .failed
    · cases head.kind with
      | settings => exact loaded_loosen hl _ _
      | ping => exact loaded_loosen hl _ _
      | windowUpdate => exact loaded_loosen hl _ _
      | data => exact loaded_loosen hl _ _
      | headers => exact decodeHeaders_loosen hl _ _
      | reset => exact loaded_loosen hl _ _
      | goAway =>
          dsimp only
          split
          · exact .failed
          · exact loaded_loosen hl _ _
      | priority => exact loaded_loosen hl _ _
      | continuation =>
          cases c.pending with
          | none => exact .failed
          | some p =>
              have hl' : Looser { c with pending := none } n m := ⟨hl.headers, hl.listSize⟩
              exact decodeContinuation_loosen hl' p head _
      | unknown =>
          intro o c1 h
          cases h
          exact ⟨hl, none, rfl, .none⟩

/-- The states of two codecs, the second with the looser limits. -/
def Loosened (n m : Nat) (c c' : Codec S) : Prop := c.Looser n m ∧ c' = c.loosen n m

theorem round_loosen {c c' : Codec S} (h : Loosened n m c c') (src : Bytes) :
    (c.round src).Follows (Loosened n m) Keeps (c'.round src) := by
  obtain ⟨hl, rfl⟩ := h
  have hdec : (c.loosen n m).decoder = c.decoder := rfl
  unfold round
  rw [hdec]
  cases c.decoder.decode src with
  | mk res x =>
      obtain ⟨d, rest⟩ := x
      have hl' : Looser { c with decoder := d } n m := ⟨hl.headers, hl.listSize⟩
      cases res with
      | error e => exact .fail
      | ok o =>
          cases o with
          | none => exact .stuck ⟨hl', rfl⟩
          | some bytes =>
              have hframe := decodeFrame_loosen hl' bytes
              show (frameRound rest (decodeFrame { c with decoder := d } bytes)).Follows _ _
                (frameRound rest ((loosen { c with decoder := d } n m).decodeFrame bytes))
              generalize decodeFrame { c with decoder := d } bytes = r at hframe ⊢
              obtain ⟨res, c1⟩ := r
              cases res with
              | error e => exact .fail
              | ok o =>
                  obtain ⟨hl1, o', ho', hrel⟩ := hframe o c1 rfl
                  rw [ho']
                  cases hrel with
                  | none => exact .skip ⟨hl1, rfl⟩
                  | some hk => exact .item hk ⟨hl1, rfl⟩

/-! ## Blocks in sequence -/

/-- The frames that a block may give. -/
inductive Gives (b : Block) : Wire.Frame S → Prop where
  | headers {v : Wire.Headers S} : v.streamId = b.streamId →
      v.isEndStream = b.headers.has Wire.Headers.endStream → Gives b (.headers v)
  | invalid (e : FrameError) : Gives b (.invalid ⟨.headers, b.streamId, e⟩)

theorem gives_blockItem (b : Block) (l : Loading S) :
    Gives b (blockItem b.error (l.finish (.fromHead b.streamId b.flags))) := by
  unfold blockItem
  have hid := l.finish_streamId (.fromHead b.streamId b.flags)
  have hflags := l.finish_flags (.fromHead b.streamId b.flags)
  generalize l.finish (.fromHead b.streamId b.flags) = r at hid hflags
  split
  · rw [hid]
    exact .invalid _
  · refine .headers hid ?_
    unfold Wire.Headers.isEndStream
    rw [hflags]
    exact b.isEndStream

/-- The header table after a block. -/
def tableAfter (d : Hpack.Decoder S) (b : Block) : Hpack.Decoder S :=
  match d.decode ⟨b.content, 0⟩ with
  | .ok _ s => s.decoder
  | .error _ s => s.decoder

/-- Blocks that do not fail are decoded one after the other, each to one frame. -/
theorem run_blocks (blocks : List Block) : ∀ c : Codec S, c.Idle →
    ((reader S).run c (blocks.flatMap (·.octets))).fault = none →
    ((reader S).run c (blocks.flatMap (·.octets))).rest = [] ∧
      ((reader S).run c (blocks.flatMap (·.octets))).state =
        { c with decoderHpack := blocks.foldl tableAfter c.decoderHpack } ∧
      List.Forall₂ Gives blocks ((reader S).run c (blocks.flatMap (·.octets))).items := by
  induction blocks with
  | nil =>
      intro c _ _
      rw [List.flatMap_nil, Incremental.Reader.run_stuck (round_empty c)]
      exact ⟨rfl, rfl, .nil⟩
  | cons b blocks ih =>
      intro c hc hfault
      rw [List.flatMap_cons] at hfault ⊢
      obtain ⟨ha, u, s, hdec⟩ := accepts_of_ok hc b _ hfault
      have hafter : tableAfter c.decoderHpack b = s.decoder := by
        unfold tableAfter
        rw [hdec]
      rw [run_block hc ha hdec] at hfault ⊢
      obtain ⟨hrest, hstate, hitems⟩ := ih { c with decoderHpack := s.decoder }
        ⟨hc.block, hc.frame⟩ hfault
      refine ⟨hrest, ?_, .cons (gives_blockItem b _) hitems⟩
      rw [List.foldl_cons, hafter]
      exact hstate

/-- As long as a codec does not fail on the header blocks it is given, it and a codec with looser
limits have decoded each of them once and in order, to one frame each; their header tables are
those of a decoder that has just decoded the contents of the blocks; and a frame that is not
rejected is the same in both. -/
theorem rejected_blocks_in_sync (c : Codec S) (hc : c.Idle) (n m : Nat) (hl : c.Looser n m)
    (blocks : List Block) (h : (c.feed [] (blocks.flatMap (·.octets))).fault = none) :
    let o := c.feed [] (blocks.flatMap (·.octets))
    let o' := (c.loosen n m).feed [] (blocks.flatMap (·.octets))
    o'.fault = none ∧ o.rest = [] ∧ o'.rest = [] ∧
      o.state.decoderHpack = blocks.foldl tableAfter c.decoderHpack ∧
      o'.state.decoderHpack = blocks.foldl tableAfter c.decoderHpack ∧
      List.Forall₂ Gives blocks o.items ∧ List.Forall₂ Gives blocks o'.items ∧
      List.Forall₂ Keeps o.items o'.items := by
  dsimp only
  rw [feed_eq] at h ⊢
  rw [feed_eq]
  obtain ⟨hfault, hstate, hrest, hkeeps⟩ :=
    (reader S).run_follows (reader S) round_loosen (⟨hl, rfl⟩ : Loosened n m c _) _ h
  obtain ⟨hrest1, hstate1, hitems1⟩ := run_blocks blocks c hc h
  have hc' : (c.loosen n m).Idle := ⟨hc.block, hc.frame⟩
  obtain ⟨hrest2, hstate2, hitems2⟩ := run_blocks blocks (c.loosen n m) hc' hfault
  exact ⟨hfault, hrest1, hrest2, congrArg decoderHpack hstate1, congrArg decoderHpack hstate2,
    hitems1, hitems2, hkeeps⟩

/-- Two blocks.  The first comes in two frames, padded, on a stream that depends on itself, and its
field goes into the table; the second refers to that field. -/
def dependentBlocks : List Block :=
  [{ headers := ⟨[0, 0, 10, 1, 0x28, 0, 0, 0, 1, 2, 0, 0, 0, 1, 16, 0x40, 1, 0, 0], by decide,
       by decide⟩
     padding := [0, 0]
     priority := [0, 0, 0, 1, 16]
     fragment := [0x40, 1]
     continuations := [⟨[0, 0, 3, 9, 4, 0, 0, 0, 1, 97, 1, 98], by decide, by decide⟩]
     kind := by decide
     payload := by decide
     padding_le := by decide
     priority_length := by decide
     continued := List.forall_mem_singleton.mpr (by decide)
     ended := ⟨by decide, show _ = true by decide⟩ },
   { headers := ⟨[0, 0, 1, 1, 5, 0, 0, 0, 3, 0xbe], by decide, by decide⟩
     padding := []
     priority := []
     fragment := [0xbe]
     continuations := []
     kind := by decide
     payload := by decide
     padding_le := by decide
     priority_length := by decide
     continued := fun _ h => nomatch h
     ended := show _ = true by decide }]

theorem rejected_blocks_in_sync_dependent :
    let c : Codec Hpack.Link.asciiSyntax := { default _ with decoderMaxHeaders := 1 }
    let o := c.feed [] (dependentBlocks.flatMap (·.octets))
    let o' := (c.loosen (wordSize - 1) (wordSize - 1)).feed []
      (dependentBlocks.flatMap (·.octets))
    o.fault = none ∧ o.state.decoderHpack = o'.state.decoderHpack ∧
      List.Forall₂ Gives dependentBlocks o.items ∧ List.Forall₂ Keeps o.items o'.items := by
  have hfault : (Codec.feed { default Hpack.Link.asciiSyntax with decoderMaxHeaders := 1 } []
      (dependentBlocks.flatMap (·.octets))).fault = none := by
    decide +kernel
  obtain ⟨_, _, _, h1, h2, h3, _, h4⟩ := rejected_blocks_in_sync
    { default Hpack.Link.asciiSyntax with decoderMaxHeaders := 1 } ⟨rfl, rfl⟩ (wordSize - 1)
    (wordSize - 1) ⟨by decide, by decide⟩ dependentBlocks hfault
  exact ⟨hfault, h1.trans h2.symm, h3, h4⟩

end Codec

end NtexH2
