/-
  Network/HalfClose.lean --- the two ends agree on which halves are closed.

  A stream that both ends hold has ended at its sender if and only if its receiver knows
  so, or the frame that ends it is still on the way, or was lost behind the close of the
  io of the sender.
-/
import NtexH2.Network.Delivery
import NtexH2.Session.Endings

set_option autoImplicit false

namespace NtexH2

namespace Session

variable {k k' : Session} {G : Guard}

theorem Endings.steps (h : k.Endings) (hg : k.Good) (hs : Steps G k k') : k'.Endings := by
  induction hs with
  | refl => exact h
  | tail hsteps hstep ih =>
      have hg1 := hg.steps hsteps
      exact ih.step hg1.emission hg1.table hstep

end Session

namespace Connection

variable {s : Start} {c : Connection} {o : Obj}

/-- Every send half of the map closes with a frame. -/
theorem Reachable.endings (h : Reachable s c) : c.session.Endings := by
  induction h with
  | new => exact fun o ho => absurd ho List.not_mem_nil
  | @step c a hr ha ih =>
      exact ih.steps hr.clean.good (runs_step ha (finds_anyRun c a) hr.clean).2

end Connection

namespace Net

variable {s : Setup} {n : Net} {p : Party} {o q : Obj} {id : StreamId}

theorem Reachable.told (h : Reachable s n) : ∃ ms, Told s n ms := by
  induction h with
  | new => exact ⟨_, .new⟩
  | move m _ hm ih =>
      obtain ⟨ms, hms⟩ := ih
      exact ⟨_, hms.move m hm⟩

end Net

section

variable {s : Setup} {n : Net} (h : Joined s n) {p : Party} {q : Obj}

include h

/-- The send half of a stream is closed if the frame that ends it has been written. -/
theorem Joined.sent_end {f : Frame} (hout : f ∈ outbox (n.ends p).log) (hend : f.endsStream = true)
    (hq : q < (n.ends p).created) (hid : f.streamId = some ((n.ends p).objs q).id) :
    ((n.ends p).objs q).send.isClosed = true := by
  obtain ⟨obj, w, hsent⟩ := mem_outbox.mp hout
  have hlabel := (h.endpoint p).books.labelled _ hsent
  have hobj := Session.ending_sent (h.clean p).good.table hq hlabel hend hid
  have hword : (w, f) ∈ words q (n.ends p).session.log := mem_words.mpr (hobj ▸ hsent)
  have hem := (h.clean p).good.emission
  have hspoken := spoken_phase (hem.sane q)
  refine HalfState.half_closed.mp ?_
  change ((n.ends p).session.cells q).send = .closed
  cases hs : ((n.ends p).session.cells q).send with
  | idle =>
      rw [hem.idle q hq hs] at hspoken
      rw [hspoken.2.1 _ hword] at hend
      cases hend
  | payload =>
      rw [hem.payload q hq hs] at hspoken
      rw [hspoken.2.1 _ hword] at hend
      cases hend
  | closed => rfl

/-- A closed send half of the map has written the frame that ends it. -/
theorem Joined.end_sent (hq : q ∈ (n.ends p).values)
    (hcl : ((n.ends p).objs q).send.isClosed = true) : ∃ f ∈ outbox (n.ends p).log,
      f.endsStream = true ∧ f.streamId = some ((n.ends p).objs q).id := by
  have hended := (h.reach p).endings q hq (HalfState.half_closed.mpr hcl)
  obtain ⟨⟨w, f⟩, hword, hend⟩ := phase_ended hended
  have hsent : Event.sent (some q) w f ∈ (n.ends p).log := mem_words.mp hword
  obtain ⟨-, hfor⟩ := (h.endpoint p).books.labelled _ hsent
  refine ⟨f, mem_outbox.mpr ⟨some q, w, hsent⟩, hend, ?_⟩
  cases f with
  | headers g => exact congrArg some hfor
  | data d => exact congrArg some hfor
  | _ => exact absurd hend Bool.false_ne_true

end

/-- Content that tells the application nothing, or the end of the stream, closes the receive half
when it arrives. -/
theorem Connection.Delivers.closed_by {c : Connection} {o : Obj} {ms : List (Obj × Message)}
    (hd : c.Delivers ms) (hh : c.Heard ms) (ho : o < c.created) {f : Frame}
    (hin : f ∈ inbox c.log) (hm : f.isContent = true) (hid : f.streamId = some (c.objs o).id)
    (hend : ∀ m, f.Carries m → m.endsStream = true) : (c.objs o).recv.isClosed = true := by
  by_contra hop
  have hop' := Bool.eq_false_iff.mpr hop
  obtain ⟨fs, rest, hsplit, hcarry, hnil⟩ := hd.streams o ho
  have hmem : f ∈ contentOn (c.objs o).id (inbox c.log) :=
    List.mem_filter.mpr ⟨hin, Bool.and_eq_true_iff.mpr ⟨hm, beq_iff_eq.mpr hid⟩⟩
  rw [hsplit, hnil hop', List.append_nil] at hmem
  obtain ⟨m, hmm, hcar⟩ := Lib.forall₂_left hcarry hmem
  have hfalse := (hh.speaks o ho).unfinished hop' m hmm
  rw [hend m hcar] at hfalse
  cases hfalse

/-- What the codec makes of the frame that ends a stream tells the end, or nothing. -/
theorem Frame.ReadAs.tells_end {f g : Frame} (h : f.ReadAs g) (hend : f.endsStream = true)
    {m : Message} (hcar : g.Carries m) : m.endsStream = true := by
  cases h with
  | same => exact hcar.ends.symm.trans hend
  | rejected v he => exact False.elim hcar

/-- A frame that ends a stream is content. -/
theorem Frame.isContent_of_ends {f : Frame} (hend : f.endsStream = true) : f.isContent = true := by
  cases f with
  | headers g => rfl
  | data d => rfl
  | _ => exact absurd hend Bool.false_ne_true

namespace Net

variable {s : Setup} {n : Net} {p : Party} {o q : Obj}

/-- No half-close is lost as long as the io of its sender is open, and none is made up: of a stream
that both ends hold, the send half is closed if and only if the receive half of the peer is, or the
frame that ends the stream is on its way, or it was written behind the close of the io. -/
theorem half_close (h : Reachable s n) (ho : o ∈ (n.ends p).values)
    (hq : q ∈ (n.ends p.peer).values)
    (hid : ((n.ends p).objs o).id = ((n.ends p.peer).objs q).id) :
    (((n.ends p.peer).objs q).send.isClosed = true ↔
      ((n.ends p).objs o).recv.isClosed = true ∨
        (∃ f ∈ n.arriving p, f.endsStream = true ∧
          f.streamId = some ((n.ends p).objs o).id) ∨
        ∃ f ∈ n.lost p, f.endsStream = true ∧ f.streamId = some ((n.ends p).objs o).id) ∧
    (.close ∉ (n.ends p.peer).log → n.lost p = []) := by
  have hj := h.joined
  have hqlt := (hj.clean p.peer).good.table.bound q hq
  have hon : ∀ f ∈ n.way p, f.endsStream = true → f.streamId = some ((n.ends p).objs o).id →
      ((n.ends p.peer).objs q).send.isClosed = true := by
    intro f hway hend hfid
    refine hj.sent_end ?_ hend hqlt (hid ▸ hfid)
    obtain ⟨taken, hout, -⟩ := hj.fifo p
    rw [hout]
    exact List.mem_append_right taken hway
  refine ⟨⟨fun hcl => ?_, ?_⟩, dropped_open⟩
  · obtain ⟨f, hout, hend, hfid⟩ := hj.end_sent hq hcl
    rcases (hj.fifo p).fate hout with ⟨g, hin, hread⟩ | hway
    · obtain ⟨ms, hms⟩ := h.told
      have hheard := ((hms.ends p).heard (s.windowSz p)).1
      refine .inl ((hms.delivers p).closed_by hheard ((hj.clean p).good.table.bound o ho) hin
        (hread.isContent ▸ Frame.isContent_of_ends hend) ?_ fun m => hread.tells_end hend)
      rw [← hread.streamId, hfid, hid]
    · rw [hj.way p] at hway
      exact .inr ((List.mem_append.mp hway).imp (fun hf => ⟨f, hf, hend, hid ▸ hfid⟩)
        fun hf => ⟨f, hf, hend, hid ▸ hfid⟩)
  · rintro (hcl | ⟨f, hf, hend, hfid⟩ | ⟨f, hf, hend, hfid⟩)
    · obtain ⟨g, hin, hend, hgid⟩ := (hj.endpoint p).ended o ho hcl
      obtain ⟨f, hout, hread⟩ := hj.origin hin
      exact hj.sent_end (hread.ends hend ▸ hout) hend hqlt (hid ▸ hgid)
    · exact hon f (hj.way p ▸ List.mem_append_left _ hf) hend hfid
    · exact hon f (hj.way p ▸ List.mem_append_right _ hf) hend hfid

/-- The payload of `meeting` is on its way; the server closes its io, and then responds. -/
def severed : List Move := meeting ++
  [.act .server .forceClose, .act .server (.sendResponse 0 200 [] true)]

theorem severed_reachable : Reachable meetingSetup ((Net.new meetingSetup).after severed) := by
  have hclose : Reachable meetingSetup
      (((Net.new meetingSetup).after meeting).move (.act .server .forceClose)) :=
    meeting_reachable.move _ ⟨trivial, trivial⟩
  refine hclose.move (.act .server (.sendResponse 0 200 [] true)) ⟨trivial, ?_⟩
  show 0 < _
  decide

/-- The end of the request is on its way, and the end of the response is lost. -/
theorem half_close_severed : ∃ n, Reachable meetingSetup n ∧
    (((n.ends .client).objs 0).send.isClosed = true ↔
      ((n.ends .server).objs 0).recv.isClosed = true ∨
        (∃ f ∈ n.arriving .server, f.endsStream = true ∧
          f.streamId = some ((n.ends .server).objs 0).id) ∨
        ∃ f ∈ n.lost .server, f.endsStream = true ∧
          f.streamId = some ((n.ends .server).objs 0).id) ∧
    n.lost .server = [] ∧ ((n.ends .server).objs 0).recv.isClosed = false ∧
    (((n.ends .server).objs 0).send.isClosed = true ↔
      ((n.ends .client).objs 0).recv.isClosed = true ∨
        (∃ f ∈ n.arriving .client, f.endsStream = true ∧
          f.streamId = some ((n.ends .client).objs 0).id) ∨
        ∃ f ∈ n.lost .client, f.endsStream = true ∧
          f.streamId = some ((n.ends .client).objs 0).id) ∧
    ((n.ends .server).objs 0).send.isClosed = true ∧
    ((n.ends .client).objs 0).recv.isClosed = false ∧
    ∀ f ∈ n.arriving .client, f.endsStream = false := by
  have hserver := half_close severed_reachable (p := .server) (o := 0) (q := 0) (by decide)
    (by decide) (by decide)
  have hclient := half_close severed_reachable (p := .client) (o := 0) (q := 0) (by decide)
    (by decide) (by decide)
  exact ⟨_, severed_reachable, hserver.1, hserver.2 (by decide), by decide, hclient.1, by decide,
    by decide, by decide⟩

end Net

end NtexH2
