/-
  Connection/TameReceive.lean --- received frames are tame (src/connection.rs,
  `RecvHalfConnection`, src/dispatcher.rs).

  Most resets of a connection are written here, for streams that it does not know any
  more or has never known.
-/
import NtexH2.Connection.Tame

set_option autoImplicit false

namespace NtexH2

namespace Connection

open Outline (Tame)

variable {G : Prop} {S : Obj → Prop} {c c' c'' : Connection} {o : Obj}

/-! ## Received frames -/

/-- A stream that is not in the map is reset under its id alone. -/
theorem tames_resetUnknownStream {id : StreamId} (hu : G → c.Used id) (r : Reason) :
    Tames G S c (c.resetUnknownStream id r).2 := by
  have hk := outline_updateRstCount c
  unfold resetUnknownStream
  cases hr : c.updateRstCount with
  | mk res c1 =>
      rw [hr] at hk
      cases res with
      | error e => exact .same hk
      | ok u =>
          have h1 : Tames G S c c1 := .same hk
          exact (h1.trans (tames_reset none .connection r fun hG => h1.used (hu hG))).of_eq
            (outline_addPending _ id)

/-- What the handling of a frame finds: open streams are in the map, the streams have used ids,
and the marks of the other side have not moved; `G` needs `UNKNOWN_STREAMS`. -/
structure Sane (G : Prop) (c : Connection) : Prop where
  live : c.Live
  bound : ∀ o ∈ c.values, o < c.created
  key : ∀ e ∈ c.streams, (c.objs e.2).id = e.1
  inj : ∀ o < c.created, ∀ p < c.created, (c.objs o).id = (c.objs p).id → o = p
  used : ∀ o < c.created, c.Used (c.objs o).id
  marks : (c.server = false → c.lastId = 0) ∧ (c.server = true → c.nextStreamId = 1)
  unknown : G → c.unknownStreams = true

theorem Sane.of_eq (h : Sane G c) (hk : c'.outline = c.outline) (hs : c'.streams = c.streams) :
    Sane G c' := by
  have hcreated : c'.created = c.created := congrArg Outline.created hk
  have hserver : c'.server = c.server := congrArg Outline.server hk
  have hlast : c'.lastId = c.lastId := congrArg Outline.lastId hk
  have hnext : c'.nextStreamId = c.nextStreamId := congrArg Outline.nextStreamId hk
  have hid : ∀ o, (c'.objs o).id = (c.objs o).id :=
    fun o => congrArg (fun k => (Outline.sides k o).id) hk
  refine ⟨h.live.of_eq hk hs, fun o ho => ?_, fun e he => ?_, fun o ho p hp heq => ?_,
    fun o ho => ?_, ?_, fun hG => ?_⟩
  · unfold values at ho
    rw [hs] at ho
    rw [hcreated]
    exact h.bound o ho
  · rw [hs] at he
    rw [hid]
    exact h.key e he
  · rw [hcreated] at ho hp
    rw [hid, hid] at heq
    exact h.inj o ho p hp heq
  · rw [hcreated] at ho
    unfold Used
    rw [hid, hserver, hlast, hnext]
    exact h.used o ho
  · rw [hserver, hlast, hnext]
    exact h.marks
  · exact (congrArg Outline.unknownStreams hk).trans (h.unknown hG)

/-- A stream that is found has a used id. -/
theorem Sane.query (h : Sane G c) {id : StreamId} (hq : c.query id = some o) :
    o < c.created ∧ Names G c o := by
  unfold Connection.query at hq
  obtain ⟨e, he, rfl⟩ := Option.map_eq_some_iff.mp hq
  have hlt := h.bound e.2 (List.mem_map.mpr ⟨e, List.mem_of_find?_eq_some he, rfl⟩)
  exact ⟨hlt, fun _ => h.used e.2 hlt⟩

/-- The result of a received frame can be handled. -/
structure Answers (G : Prop) (S : Obj → Prop) (c : Connection) (r : Received × Connection) :
    Prop where
  tames : Tames G S c r.2
  live : ∀ e, r.1 = .error (.connection e) → r.2.Live
  names : ∀ o e, r.1 = .error (.stream o e) → Names G r.2 o

/-- What the control service answers to a tame message is tame. -/
theorem tames_handleMessage {r : Received × Connection} (h : Answers G S c r) :
    Tames G S c (handleMessage r) := by
  obtain ⟨ht, hl, hn⟩ := h
  unfold handleMessage
  split
  · exact ht
  · exact ht.trans (tames_protoError (hl _ rfl) _)
  · next o r c1 =>
      exact ht.trans (Tames.trans (.same (outline_push c1 (e := .streamFailed o (.reset r)) rfl))
        (tames_setFailedStream _ o _))
  · next o e c1 _ =>
      have h1 : Tames G S c1 (c1.push (.streamFailed o e)) := .same (outline_push c1 rfl)
      have hn' : Names G (c1.push (.streamFailed o e)) o := hn o e rfl
      exact ht.trans (h1.trans (tames_resetSilent hn' _))

theorem Answers.quiet {m : Option (Obj × Message)} (h : Tames G S c c') :
    Answers G S c (.ok m, c') := ⟨h, nofun, nofun⟩

/-- A connection error finds the open streams in the map, for `proto_error` to fail them. -/
theorem Answers.failed {e : ConnectionError} (h : Tames G S c c') (hl : c'.Live) :
    Answers G S c (.error (.connection e), c') := ⟨h, fun _ _ => hl, nofun⟩

/-- The result of a method of a stream. -/
theorem Answers.lift {r : Except StreamError (Option Message) × Connection}
    (h : Tames G S c r.2) (ho : o < c.created) (hu : Names G c o) :
    Answers G S c (Connection.lift o r) := by
  obtain ⟨res, c1⟩ := r
  cases res with
  | ok m => exact ⟨h, nofun, nofun⟩
  | error e =>
      refine ⟨h, nofun, fun o' e' heq => ?_⟩
      cases heq
      exact h.names ho hu

/-- A tame change before the answer. -/
theorem Answers.after {r : Received × Connection} (h : Tames G S c c') (h' : Answers G S c' r) :
    Answers G S c r := ⟨h.trans h'.tames, h'.live, h'.names⟩

theorem updateRstCount_streams (c : Connection) : c.updateRstCount.2.streams = c.streams := by
  unfold updateRstCount
  dsimp only
  split
  · rfl
  · rfl

theorem answers_resetUnknownStream {id : StreamId} (hl : c.Live) (hu : G → c.Used id)
    (r : Reason) : Answers G S c (c.resetUnknownStream id r) := by
  refine ⟨tames_resetUnknownStream hu r, fun e he => ?_, fun o e he => ?_⟩
  · have hk := outline_updateRstCount c
    have hs := updateRstCount_streams c
    unfold resetUnknownStream at he ⊢
    cases hr : c.updateRstCount with
    | mk res c1 =>
        rw [hr] at he hk hs
        cases res with
        | error e' => exact hl.of_eq hk hs
        | ok u => cases he
  · unfold resetUnknownStream at he
    cases hr : c.updateRstCount with
    | mk res c1 =>
        rw [hr] at he
        cases res with
        | error e' => cases he
        | ok u => cases he

/-! ## HEADERS -/

/-- A new stream of the peer has a used id from here on. -/
theorem answers_acceptStream {h : Headers} (hu : c.Used h.streamId) :
    Answers G S c (c.acceptStream h) := by
  have h1 : Tames G S c (c.countStream.insertStream h.streamId
      true) := tames_insertStream (c := c.countStream) hu true
  unfold acceptStream
  dsimp only
  refine Answers.after ?_ (Answers.lift (tames_streamRecvHeaders _ _ h) ?_ fun _ => ?_)
  · exact h1.of_eq rfl
  · exact Nat.lt_succ_self _
  · exact h1.fresh c.created (Nat.le_refl _) (Nat.lt_succ_self _)

/-- A stream that is refused was opened by its HEADERS, so its id is used. -/
theorem answers_refuse {id : StreamId} (hl : c.Live) (hu : G → c.Used id) (r : Reason) :
    Answers G S c (c.countStream.resetUnknownStream id r) := by
  have h1 : Tames G S c c.countStream := .same rfl
  have hl1 : c.countStream.Live := hl
  exact Answers.after h1 (answers_resetUnknownStream hl1 hu r)

/-- HEADERS above the last id open a stream, whatever becomes of it. -/
theorem answers_recvNewHeaders {h : Headers} (hs : Sane G c) (hserver : c.server = true)
    (hodd : h.streamId % 2 = 1) (hid : c.lastId < h.streamId) :
    Answers G S c (c.recvNewHeaders h) := by
  have hset : Tames G S c { c with lastId := h.streamId } :=
    tames_setLastId hserver (Nat.le_of_lt hid)
  have hu : ({ c with lastId := h.streamId } : Connection).Used h.streamId :=
    ⟨hodd, fun _ => Nat.le_refl _, fun h => absurd (hserver.symm.trans h) Bool.noConfusion⟩
  have hl : ({ c with lastId := h.streamId } : Connection).Live := hs.live
  unfold recvNewHeaders
  refine Answers.after hset ?_
  generalize ({ c with lastId := h.streamId } : Connection) = c1 at hu hl ⊢
  dsimp only
  split
  · exact .quiet ((tames_reset none .connection .refusedStream fun _ => hu).of_eq
      (outline_addPending _ _))
  · split
    · exact answers_refuse hl (fun _ => hu) _
    · split
      · exact answers_refuse hl (fun _ => hu) _
      · exact answers_acceptStream hu

/-- HEADERS for an id that a client has let go. -/
theorem answers_recvClosedHeaders {id : StreamId} (hs : Sane G c) (hserver : c.server = false)
    (hodd : id % 2 = 1) : Answers G S c (c.recvClosedHeaders id) := by
  unfold recvClosedHeaders
  split
  · exact .failed (.same rfl) hs.live
  · next hno =>
      refine .quiet ?_
      split
      · exact .same rfl
      · refine tames_reset none .connection .streamClosed fun hG => ?_
        rw [hs.unknown hG, Bool.and_true] at hno
        exact ⟨hodd, fun h => absurd (hserver.symm.trans h) Bool.false_ne_true,
          fun _ => Nat.lt_of_not_le fun hle => hno (decide_eq_true hle)⟩

/-- HEADERS are tame. -/
theorem answers_recvHeaders (hs : Sane G c) (h : Headers) :
    Answers G S c (c.recvHeaders h) := by
  unfold recvHeaders
  split
  · exact .failed (.same rfl) hs.live
  · next hci =>
      have hodd : h.streamId % 2 = 1 := by
        rw [Bool.not_eq_true', Bool.not_eq_false] at hci
        exact (isClientInitiated_iff _).mp hci
      cases hq : c.query h.streamId with
      | some o =>
          exact .lift (tames_streamRecvHeaders c o h) (hs.query hq).1 (hs.query hq).2
      | none =>
          dsimp only
          split
          · next hserver =>
              exact answers_recvClosedHeaders hs (by simpa using hserver) hodd
          · next hserver =>
              split
              · split
                · exact .quiet (.same rfl)
                · exact .failed (.same rfl) hs.live
              · next hlt =>
                  exact answers_recvNewHeaders hs (by simpa using hserver) hodd
                    (Nat.lt_of_not_le hlt)

/-! ## Invalid frames -/

/-- The codec reports HEADERS and PRIORITY frames as invalid, and no idle stream of a client gets
invalid HEADERS. -/
def InvalidUsed (c : Connection) (f : InvalidFrame) : Prop :=
  (f.kind = .headers ∨ f.kind = .priority) ∧
    (c.server = false → f.kind = .headers → StreamId.isClientInitiated f.streamId = true →
      f.streamId < c.nextStreamId)

/-- Invalid HEADERS are reset; for an idle id only where `InvalidUsed` is not asked. -/
theorem answers_recvInvalidHeaders (hs : Sane G c) {id : StreamId}
    (hG : G → c.server = false → StreamId.isClientInitiated id = true → id < c.nextStreamId)
    (r : Reason) : Answers G S c (c.recvInvalidHeaders id r) := by
  unfold recvInvalidHeaders
  split
  · exact .failed (.same rfl) hs.live
  · next hci =>
      have hci' : StreamId.isClientInitiated id = true := by
        rw [Bool.not_eq_true', Bool.not_eq_false] at hci
        exact hci
      have hodd : id % 2 = 1 := (isClientInitiated_iff _).mp hci'
      split
      · next hns =>
          have hserver : c.server = false := by simpa using hns
          split
          · exact .quiet (.same rfl)
          · refine answers_resetUnknownStream hs.live (fun hG' => ?_) r
            exact ⟨hodd, fun h => absurd (hserver.symm.trans h) Bool.false_ne_true,
              fun _ => hG hG' hserver hci'⟩
      · next hns =>
          have hserver : c.server = true := by simpa using hns
          split
          · exact .failed (.same rfl) hs.live
          · next hlt =>
              have hset : Tames G S c { c with lastId := id } :=
                tames_setLastId hserver (Nat.le_of_lt (Nat.lt_of_not_le hlt))
              have hu : ({ c with lastId := id } : Connection).Used id :=
                ⟨hodd, fun _ => Nat.le_refl _,
                  fun h => absurd (hserver.symm.trans h) Bool.noConfusion⟩
              have hl : ({ c with lastId := id } : Connection).Live := hs.live
              exact Answers.after hset (answers_refuse hl (fun _ => hu) r)

/-- Invalid frames are tame. -/
theorem answers_recvInvalidFrame (hs : Sane G c) {f : InvalidFrame} (hG : G → c.InvalidUsed f) :
    Answers G S c (c.recvInvalidFrame f) := by
  have hk := outline_updateRstCount c
  have hst := updateRstCount_streams c
  unfold recvInvalidFrame
  cases hq : c.query f.streamId with
  | some o =>
      dsimp only
      cases hr : c.updateRstCount with
      | mk res c1 =>
          rw [hr] at hk hst
          have h1 : Tames G S c c1 := .same hk
          cases res with
          | error e => exact .failed h1 (hs.live.of_eq hk hst)
          | ok u =>
              refine ⟨h1, nofun, fun o' e' heq => ?_⟩
              cases heq
              exact h1.names (hs.query hq).1 (hs.query hq).2
  | none =>
      dsimp only
      split
      · exact .quiet (.same rfl)
      · next hkind =>
          exact answers_recvInvalidHeaders hs (fun hG' h1 h2 => (hG hG').2 h1 hkind h2) _
      · next hp hh =>
          refine answers_resetUnknownStream hs.live (fun hG' => ?_) _
          rcases (hG hG').1 with h | h
          · exact absurd h hh
          · exact absurd h hp

/-! ## DATA, WINDOW_UPDATE and RST_STREAM -/

/-- `is_used_id` is true of used ids only. -/
theorem Sane.of_isUsedId (hs : Sane G c) {id : StreamId} (h0 : id ≠ 0)
    (h : c.isUsedId id = true) : c.Used id := by
  unfold isUsedId at h
  cases hci : StreamId.isClientInitiated id with
  | true =>
      rw [hci] at h
      refine ⟨(isClientInitiated_iff _).mp hci, fun hserver => ?_, fun hserver => ?_⟩
      · rw [hserver] at h
        exact of_decide_eq_true h
      · rw [hserver] at h
        exact of_decide_eq_true h
  | false =>
      -- the marks of the other side are where they started
      rw [hci] at h
      have hpos : 0 < id := Nat.pos_of_ne_zero h0
      cases hserver : c.server with
      | true =>
          rw [hserver] at h
          have hlt : id < c.nextStreamId := of_decide_eq_true h
          rw [hs.marks.2 hserver] at hlt
          exact absurd hlt (Nat.not_lt_of_le hpos)
      | false =>
          rw [hserver] at h
          have hle : id ≤ c.lastId := of_decide_eq_true h
          rw [hs.marks.1 hserver] at hle
          exact absurd hle (Nat.not_le_of_lt hpos)

/-- DATA is tame. -/
theorem answers_recvData (hs : Sane G c) {d : Data} (h0 : d.streamId ≠ 0) :
    Answers G S c (c.recvData d) := by
  have hstray : Tames G S c ((c.dataReceived d.flowLen).dataConsumed d.flowLen) :=
    .same ((outline_dataConsumed _ _).trans (outline_dataReceived c _))
  unfold recvData
  split
  · exact .failed (.same rfl) hs.live
  · cases hq : c.query d.streamId with
    | some o => exact .lift (tames_streamRecvData c o d) (hs.query hq).1 (hs.query hq).2
    | none =>
        dsimp only
        split
        · exact .quiet hstray
        · split
          · next hused =>
              refine .quiet (hstray.trans (tames_reset none .connection .streamClosed fun hG => ?_))
              rw [hs.unknown hG] at hused
              exact hstray.used (hs.of_isUsedId h0 hused)
          · exact .failed (.same rfl) hs.live

/-- WINDOW_UPDATE is tame. -/
theorem answers_recvWindowUpdate (hs : Sane G c) (id : StreamId) (n : Nat) :
    Answers G S c (c.recvWindowUpdate id n) := by
  unfold recvWindowUpdate
  split
  · have h : Tames G S c (c.recvConWindowUpdate n).2 := tames_recvConWindowUpdate hs.live n
    have herr : ∀ e, (c.recvConWindowUpdate n).1 = .error e →
        (c.recvConWindowUpdate n).2 = c := by
      intro e he
      unfold recvConWindowUpdate at he ⊢
      split
      · rfl
      · next hz =>
          rw [if_neg hz] at he
          split at he
          · rfl
          · cases he
    cases hr : c.recvConWindowUpdate n with
    | mk res c1 =>
        rw [hr] at h herr
        cases res with
        | ok u => exact .quiet h
        | error e =>
            have heq : c1 = c := herr e rfl
            rw [heq]
            exact .failed (.same rfl) hs.live
  · cases hq : c.query id with
    | some o =>
        have h : Tames G S c (c.streamRecvWindowUpdate o n).2 := tames_streamRecvWindowUpdate c o n
        dsimp only
        cases hr : c.streamRecvWindowUpdate o n with
        | mk res c1 =>
            rw [hr] at h
            cases res with
            | ok u => exact .quiet h
            | error e =>
                refine ⟨h, nofun, fun o' e' heq => ?_⟩
                cases heq
                exact h.names (hs.query hq).1 (hs.query hq).2
    | none =>
        dsimp only
        split
        · exact .quiet (.same rfl)
        · split
          · exact .failed (.same rfl) hs.live
          · next hno =>
              exact .quiet (tames_reset none .connection .streamClosed fun hG =>
                absurd (hs.unknown hG) hno)

/-- The entry that leaves the map is the one that is found. -/
theorem mem_eraseP_of_ne {α : Type} {q : α → Bool} {a e : α} {l : List α}
    (hf : l.find? q = some a) (he : e ∈ l) (hne : e ≠ a) : e ∈ l.eraseP q := by
  induction l with
  | nil => cases he
  | cons x l ih =>
      cases hq : q x with
      | true =>
          rw [List.find?_cons_of_pos hq] at hf
          rw [List.eraseP_cons_of_pos hq]
          rw [← Option.some.inj hf] at hne
          exact (List.mem_cons.mp he).resolve_left hne
      | false =>
          rw [List.find?_cons_of_neg (by rw [hq]; exact Bool.false_ne_true)] at hf
          rw [List.eraseP_cons_of_neg (by rw [hq]; exact Bool.false_ne_true)]
          rcases List.mem_cons.mp he with rfl | he
          · exact List.mem_cons_self ..
          · exact List.mem_cons_of_mem _ (ih hf he)

theorem releaseStream_streams (c : Connection) (remote : Bool) :
    (c.releaseStream remote).streams = c.streams := by
  unfold releaseStream
  split
  · unfold note
    split
    · rfl
    · rfl
  · unfold releaseLocalStream
    dsimp only
    have hn : (c.note (decide (0 < c.activeLocalStreams)) .activeLocal).streams = c.streams := by
      unfold note
      split
      · rfl
      · rfl
    generalize c.note (decide (0 < c.activeLocalStreams)) .activeLocal = c1 at hn
    split
    · exact hn
    · exact hn

theorem addPending_streams (c : Connection) (id : StreamId) :
    (c.addPending id).streams = c.streams := by
  unfold addPending
  split
  · rfl
  · rfl

/-- The stream is taken out of the map, if it is there. -/
theorem dropStream_streams (c : Connection) (id : StreamId) :
    (c.dropStream id).streams = c.streams.eraseP (·.1 == id) ∨
      c.query id = none ∧ (c.dropStream id).streams = c.streams := by
  unfold dropStream
  cases hqu : c.query id with
  | none => exact .inr ⟨rfl, addPending_streams c id⟩
  | some o =>
      left
      dsimp only
      generalize hc1 : ({ c with streams := c.streams.eraseP (·.1 == id) } :
        Connection).stopCapacityTimer o = c1
      have h1 : c1.streams = c.streams.eraseP (·.1 == id) := by
        rw [← hc1]
        rfl
      have h2 := (releaseStream_streams c1 (c1.objs o).remote).trans h1
      split
      · exact h2
      · exact (addPending_streams _ id).trans h2

/-- The other streams stay in the map. -/
theorem dropStream_mem {id : StreamId} {p : Obj} (hp : p ∈ c.values)
    (hq : c.query id ≠ some p) : p ∈ (c.dropStream id).values := by
  obtain ⟨e, he, rfl⟩ := List.mem_map.mp hp
  have hstreams := dropStream_streams c id
  unfold values
  rcases hstreams with h | ⟨-, h⟩
  · rw [h]
    cases hf : c.streams.find? (·.1 == id) with
    | none =>
        rw [List.eraseP_of_forall_not (fun a ha => List.find?_eq_none.mp hf a ha)]
        exact List.mem_map_of_mem he
    | some a =>
        refine List.mem_map_of_mem (mem_eraseP_of_ne hf he fun heq => hq ?_)
        unfold query
        rw [hf, heq]
        rfl
  · rw [h]
    exact List.mem_map_of_mem he

/-- A stream that its peer resets leaves the map, so those in it stay live. -/
theorem Sane.live_remoteReset (hs : Sane G c) (ho : o < c.created) (r : Reason) :
    (c.remoteResetStream o r).Live := by
  intro p hp hopen
  have hk : (c.remoteResetStream o r).outline = c.outline.setSide o
      { (c.objs o).side with
        recv := .closed none, send := .closed (some r), error := some (.remoteReset r)
        sendCap := false } := outline_end rfl rfl
  have hlt : p < c.created := by
    have hcr : (c.remoteResetStream o r).created = c.created := congrArg Outline.created hk
    rw [← hcr]
    exact hp
  have hside : ((c.remoteResetStream o r).objs p).side = _ :=
    congrArg (fun k => Outline.sides k p) hk
  by_cases hpo : p = o
  · rw [hpo] at hopen hside
    have hsend : ((c.remoteResetStream o r).objs o).send = .closed (some r) :=
      (congrArg Side.send hside).trans (congrArg Side.send (Outline.setSide_self _ o _))
    rw [hsend] at hopen
    cases hopen
  · have hsend : ((c.remoteResetStream o r).objs p).send = (c.objs p).send :=
      (congrArg Side.send hside).trans (congrArg Side.send (Outline.setSide_other _ _ hpo))
    rw [hsend] at hopen
    have hmem := hs.live p hlt hopen
    unfold remoteResetStream reviewState
    generalize hc1 : c.modify o (fun s =>
      { s with recv := .closed none, send := .closed (some r), error := some (.remoteReset r) }) =
        c1
    have hst : c1.streams = c.streams := by
      rw [← hc1]
      rfl
    have hid : (c1.objs o).id = (c.objs o).id := by
      rw [← hc1, modify_self]
    split
    · refine dropStream_mem (c := c1.modify o fun s => { s with sendCap := false }) ?_ ?_
      · show p ∈ c1.streams.map (·.2)
        rw [hst]
        exact hmem
      · intro hq
        obtain ⟨e, he, hep⟩ := Option.map_eq_some_iff.mp hq
        have he1 : c1.streams.find? (·.1 == (c1.objs o).id) = some e := he
        rw [hst] at he1
        have hkey := hs.key e (List.mem_of_find?_eq_some he1)
        have heq : e.1 = (c1.objs o).id := by simpa using List.find?_some he1
        rw [hep, heq, hid] at hkey
        exact hpo (hs.inj p hlt o ho hkey)
    · unfold values
      rw [hst]
      exact hmem

/-- RST_STREAM is tame. -/
theorem answers_recvRstStream (hs : Sane G c) (id : StreamId) (r : Reason) :
    Answers G S c (c.recvRstStream id r) := by
  unfold recvRstStream
  split
  · exact .failed (.same rfl) hs.live
  · cases hq : c.query id with
    | some o =>
        dsimp only
        have h1 : Tames G S c (c.remoteResetStream o r) := tames_remoteResetStream c o r
        have hl := hs.live_remoteReset (hs.query hq).1 r
        generalize c.remoteResetStream o r = c1 at h1 hl
        split
        · exact .quiet h1
        · have hk := outline_updateRstCount c1
          have hst := updateRstCount_streams c1
          cases hr : c1.updateRstCount with
          | mk res c2 =>
              rw [hr] at hk hst
              have h2 : Tames G S c c2 := h1.of_eq hk
              cases res with
              | error e => exact .failed h2 (hl.of_eq hk hst)
              | ok u =>
                  refine ⟨h2, nofun, fun o' e' heq => ?_⟩
                  cases heq
                  exact h2.names (hs.query hq).1 (hs.query hq).2
    | none =>
        dsimp only
        cases c.localPendingReset.remove id with
        | mk p found =>
            cases found with
            | false => exact .quiet (.same rfl)
            | true =>
                dsimp only
                have hk := outline_updateRstCount { c with localPendingReset := p }
                have hst := updateRstCount_streams { c with localPendingReset := p }
                cases hr : ({ c with localPendingReset := p } : Connection).updateRstCount with
                | mk res c1 =>
                    rw [hr] at hk hst
                    have h1 : Tames G S c c1 := .same hk
                    cases res with
                    | error e => exact .failed h1 (hs.live.of_eq hk hst)
                    | ok u => exact .quiet h1

/-! ## SETTINGS and GOAWAY -/

theorem outline_ackStream (upd : Int) (r : List (Obj × StreamError) × Connection) (o : Obj) :
    (ackStream upd r o).2.outline = r.2.outline := by
  have h := outline_updateRecvWindow r.2 o upd
  unfold ackStream
  split
  · next heq =>
      rw [heq] at h
      exact h
  · next val c1 heq =>
      rw [heq] at h
      exact (outline_encodeWindowUpdate c1 o val).trans h
  · next heq =>
      rw [heq] at h
      exact h

/-- The errors of an ack are about the streams it goes through. -/
theorem ackStreams_spec (upd : Int) (os : List Obj) :
    ∀ r : List (Obj × StreamError) × Connection,
      (os.foldl (ackStream upd) r).2.outline = r.2.outline ∧
        ∀ e ∈ (os.foldl (ackStream upd) r).1, e ∈ r.1 ∨ e.1 ∈ os := by
  induction os with
  | nil => exact fun r => ⟨rfl, fun e he => .inl he⟩
  | cons o os ih =>
      intro r
      obtain ⟨h1, h2⟩ := ih (ackStream upd r o)
      refine ⟨h1.trans (outline_ackStream upd r o), fun e he => ?_⟩
      rcases h2 e he with he | he
      · unfold ackStream at he
        split at he
        · rcases List.mem_append.mp he with he | he
          · exact .inl he
          · rw [List.mem_singleton.mp he]
            exact .inr (List.mem_cons_self ..)
        · exact .inl he
        · exact .inl he
      · exact .inr (List.mem_cons_of_mem _ he)

/-- The streams that the ack overflows are in the map and are reset there. -/
theorem tames_handleAckErrors {errs : List (Obj × StreamError)}
    (h : ∀ e ∈ errs, e.1 < c.created ∧ Names G c e.1) : Tames G S c (c.handleAckErrors errs) := by
  unfold handleAckErrors
  split
  · exact .same rfl
  · next o e errs =>
      obtain ⟨ho, hu⟩ := h (o, e) (List.mem_cons_self ..)
      have h1 : Tames G S c ((c.push (.streamFailed o e)).setFailedStream o (.stream e)) :=
        Tames.trans (.same (outline_push c rfl)) (tames_setFailedStream _ o _)
      dsimp only
      generalize (c.push (.streamFailed o e)).setFailedStream o (.stream e) = c1 at h1
      exact h1.trans ((tames_reset none .connection e.reason (h1.names ho hu)).of_eq rfl)

/-- The ack of the settings is tame. -/
theorem tames_settingsAck (hs : Sane G c) :
    Tames G S c (match c.recvSettingsAck with
      | (.error e, c) => c.protoError e
      | (.ok errs, c) => c.handleAckErrors errs) := by
  unfold recvSettingsAck
  split
  · next e c1 heq =>
      split at heq
      · cases heq
        exact tames_protoError hs.live _
      · cases heq
  · next errs c1 heq =>
      split at heq
      · cases heq
      · obtain ⟨hk, herrs⟩ := ackStreams_spec
          ((c.config.windowSz : Int) - defaultInitialWindowSize) c.values
          ([], { c with settingsProcessed := true })
        cases heq
        have h1 : Tames G S c _ := .same hk
        refine h1.trans (tames_handleAckErrors fun e he => ?_)
        have hmem := (herrs e he).resolve_left nofun
        have ho := hs.bound _ hmem
        exact ⟨Nat.lt_of_lt_of_le ho h1.created, h1.names ho fun _ => hs.used _ ho⟩

/-- The limits of the peer change the frame size and nothing else of the outline. -/
theorem applyLimits_spec (c : Connection) (s : Settings) :
    (c.applyLimits s).outline =
      { c.outline with remoteFrameSize := s.maxFrameSize.getD c.remoteFrameSize } ∧
      (c.applyLimits s).streams = c.streams := by
  unfold applyLimits
  dsimp only
  cases s.maxHeaderListSize with
  | none =>
      cases s.maxFrameSize with
      | none =>
          dsimp only
          split
          · exact ⟨rfl, rfl⟩
          · exact ⟨rfl, rfl⟩
      | some v =>
          dsimp only
          split
          · exact ⟨rfl, rfl⟩
          · exact ⟨rfl, rfl⟩
  | some m =>
      cases s.maxFrameSize with
      | none =>
          dsimp only
          split
          · exact ⟨rfl, rfl⟩
          · exact ⟨rfl, rfl⟩
      | some v =>
          dsimp only
          split
          · exact ⟨rfl, rfl⟩
          · exact ⟨rfl, rfl⟩

theorem tames_applyLimits (c : Connection) {s : Settings}
    (hl : ∀ v ∈ s.maxFrameSize, defaultMaxFrameSize ≤ v ∧ v < 2 ^ 24) :
    Tames G S c (c.applyLimits s) := by
  unfold Tames
  rw [(applyLimits_spec c s).1]
  exact
    { (Tame.refl c.outline : Tame G S c.outline c.outline) with
      frameSize := by
        intro hf
        cases hm : s.maxFrameSize with
        | none => exact hf
        | some v =>
            have hv := hl v hm
            exact ⟨Nat.lt_of_lt_of_le (by decide) hv.1, hv.2⟩
      fresh := fun _ h h' => absurd h (Nat.not_le_of_lt h')
      resets := fun _ _ h => .inl h
      safe := fun _ _ _ h => h.of_eq rfl rfl rfl }

/-- The map and the send halves stay. -/
structure SameHalves (c c' : Connection) : Prop where
  created : c'.created = c.created
  streams : c'.streams = c.streams
  send : ∀ o, (c'.objs o).send = (c.objs o).send

theorem SameHalves.trans (h : SameHalves c c') (h' : SameHalves c' c'') : SameHalves c c'' :=
  ⟨h'.created.trans h.created, h'.streams.trans h.streams,
    fun o => (h'.send o).trans (h.send o)⟩

/-- Streams whose halves stay are as live as before. -/
theorem SameHalves.live (h : SameHalves c c') (hl : c.Live) : c'.Live := by
  intro o ho hopen
  rw [h.created] at ho
  rw [h.send] at hopen
  unfold values
  rw [h.streams]
  exact hl o ho hopen

theorem sameHalves_modify (c : Connection) (o : Obj) {f : Stream → Stream}
    (hf : ∀ s, (f s).send = s.send) : SameHalves c (c.modify o f) := by
  refine ⟨rfl, rfl, fun p => ?_⟩
  unfold modify
  dsimp only
  split
  · exact hf _
  · rfl

theorem sameHalves_newWindow (c : Connection) (o : Obj) (g : Window → Window) :
    SameHalves c ((c.modify o fun s => { s with sendWindow := g s.sendWindow }).wakeCapacityWaiter
      o) := by
  have h1 : SameHalves c (c.modify o fun s => { s with sendWindow := g s.sendWindow }) :=
    sameHalves_modify c o fun _ => rfl
  generalize c.modify o (fun s => { s with sendWindow := g s.sendWindow }) = c1 at h1 ⊢
  refine h1.trans ?_
  unfold wakeCapacityWaiter
  split
  · have h2 : SameHalves c1 (c1.modify o fun s => { s with sendCap := false }) :=
      sameHalves_modify c1 o fun _ => rfl
    refine h2.trans ?_
    unfold stopCapacityTimer
    exact sameHalves_modify _ o fun _ => rfl
  · exact ⟨rfl, rfl, fun _ => rfl⟩

theorem sameHalves_updateSendWindow (c : Connection) (o : Obj) (upd : Int) :
    SameHalves c (c.updateSendWindow o upd).2 := by
  have hnote : ∀ ok a, SameHalves c (c.note ok a) := by
    intro ok a
    unfold note
    split
    · exact ⟨rfl, rfl, fun _ => rfl⟩
    · exact ⟨rfl, rfl, fun _ => rfl⟩
  unfold updateSendWindow
  split
  · exact (hnote _ _).trans (sameHalves_newWindow _ o fun w => w.dec _)
  · split
    · split
      · exact ⟨rfl, rfl, fun _ => rfl⟩
      · exact sameHalves_newWindow c o fun _ => _
    · exact ⟨rfl, rfl, fun _ => rfl⟩

theorem sameHalves_shiftSendWindows (upd : Int) (os : List Obj) :
    ∀ c : Connection, SameHalves c (shiftSendWindows upd os c).2 := by
  induction os with
  | nil => exact fun c => ⟨rfl, rfl, fun _ => rfl⟩
  | cons o os ih =>
      intro c
      have h := sameHalves_updateSendWindow c o upd
      unfold shiftSendWindows
      cases hu : c.updateSendWindow o upd with
      | mk r c1 =>
          rw [hu] at h
          cases r with
          | error e => exact h
          | ok u => exact h.trans (ih c1)

/-- A new initial window moves windows and no half. -/
theorem tames_applyInitialWindow (c : Connection) (s : Settings) :
    Tames G S c (c.applyInitialWindow s).2 ∧ SameHalves c (c.applyInitialWindow s).2 := by
  have hset : ∀ v, SameHalves c { c with remoteWindowSz := v } :=
    fun v => ⟨rfl, rfl, fun _ => rfl⟩
  unfold applyInitialWindow
  cases s.initialWindowSize with
  | none => exact ⟨.same rfl, rfl, rfl, fun _ => rfl⟩
  | some v =>
      dsimp only
      split
      · exact ⟨.same rfl, hset v⟩
      · refine ⟨?_, (hset v).trans (sameHalves_shiftSendWindows _ _ _)⟩
        have h1 : Tames G S c { c with remoteWindowSz := v } := .same rfl
        exact h1.trans (tames_shiftSendWindows _ _ _)

/-- SETTINGS of the peer are tame. -/
theorem tames_peerSettings (hs : Sane G c) {s : Settings} (hl : Frame.Loads (.settings s)) :
    Tames G S c (match c.recvPeerSettings s with
      | (.error e, c) => c.protoError e
      | (.ok _, c) => c) := by
  have h1 : Tames G S c (c.applyLimits s) := tames_applyLimits c hl.2
  have hl1 : (c.applyLimits s).Live := by
    obtain ⟨hk, hst⟩ := applyLimits_spec c s
    have hcr : (c.applyLimits s).created = c.created := congrArg Outline.created hk
    have hsend : ∀ o, ((c.applyLimits s).objs o).send = (c.objs o).send :=
      fun o => congrArg (fun k => (Outline.sides k o).send) hk
    exact SameHalves.live ⟨hcr, hst, hsend⟩ hs.live
  obtain ⟨h2, hsame⟩ := tames_applyInitialWindow (G := G) (S := S) (c.applyLimits s) s
  unfold recvPeerSettings
  split
  · next e c1 heq =>
      split at heq
      · cases heq
        exact tames_protoError hs.live _
      · split at heq
        · next c2 hw =>
            rw [hw] at h2 hsame
            cases heq
            exact (h1.trans h2).trans (tames_protoError (hsame.live hl1) _)
        · cases heq
  · next u c1 heq =>
      split at heq
      · cases heq
      · split at heq
        · cases heq
        · next c2 hw =>
            rw [hw] at h2
            cases heq
            exact (h1.trans h2).of_eq (outline_push c2 rfl)

/-- Over the list of the streams that GOAWAY takes away. -/
theorem tames_resetList (r : Reason) (l : List (StreamId × Obj)) : ∀ c : Connection,
    Tames G S c (l.foldl (fun c e => c.remoteResetStream e.2 r) c) := by
  induction l with
  | nil => exact fun c => .same rfl
  | cons e l ih => exact fun c => (tames_remoteResetStream c e.2 r).trans (ih _)

/-- GOAWAY is tame. -/
theorem tames_recvGoAway (c : Connection) (r : Reason) (last : StreamId) :
    Tames G S c (c.recvGoAway r last) := by
  have h1 : Tames G S c { c with goAway := some r } := .same rfl
  exact h1.trans ((tames_resetList r _ _).of_eq (outline_startDisconnect _))

/-! ## The dispatcher -/

/-- The condition on an invalid frame, for the resets. -/
def Permits (G : Prop) (c : Connection) : Frame → Prop
  | .invalid f => G → c.InvalidUsed f
  | _ => True

/-- Every received frame is tame. -/
theorem tames_receive (hs : Sane G c) {f : Frame} (hl : f.Loads) (hp : Permits G c f) :
    Tames G S c (c.receive f) := by
  unfold receive
  dsimp only
  generalize hc1 : c.push (.received (f.streamId.bind c.query) f) = c1
  have hk : c1.outline = c.outline := by
    rw [← hc1]
    exact outline_push c (e := .received (f.streamId.bind c.query) f) rfl
  have h1 : Tames G S c c1 := .same hk
  have hs1 : Sane G c1 := hs.of_eq hk (by rw [← hc1]; rfl)
  refine h1.trans ?_
  split
  · cases f with
    | headers h =>
        unfold dispatch
        exact tames_handleMessage (answers_recvHeaders hs1 h)
    | data d =>
        have h0 : d.streamId ≠ 0 := by
          obtain ⟨h0, -⟩ := hl
          exact h0
        unfold dispatch
        exact tames_handleMessage (answers_recvData hs1 h0)
    | settings s =>
        unfold dispatch
        dsimp only
        split
        · exact tames_settingsAck hs1
        · exact tames_peerSettings hs1 hl
    | windowUpdate id n =>
        unfold dispatch
        exact tames_handleMessage (answers_recvWindowUpdate hs1 id n)
    | reset id r =>
        unfold dispatch
        exact tames_handleMessage (answers_recvRstStream hs1 id r)
    | ping ack payload =>
        unfold dispatch
        dsimp only
        split
        · exact .same rfl
        · exact .same (outline_push c1 rfl)
    | goAway last r data => exact tames_recvGoAway c1 r last
    | invalid f =>
        unfold dispatch
        refine tames_handleMessage (answers_recvInvalidFrame hs1 fun hG => ?_)
        have hp' := hp hG
        rw [← hc1]
        exact hp'
    | priority id => exact .same rfl
  · exact tames_protoError hs1.live _

end Connection

end NtexH2
