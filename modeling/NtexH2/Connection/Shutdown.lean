/-
  Connection/Shutdown.lean --- the end of a connection.

  Which frames are handed to the io before it is closed, what a graceful shutdown
  of a server promises, and what a GOAWAY leaves to a client.
-/
import NtexH2.Connection.Streams

set_option autoImplicit false

namespace NtexH2

namespace Connection

variable {s : Start} {c c' c'' : Connection}

/-! ## Frames before the close -/

/-- No frame of a stream that is written on the way from `c` to `c'` comes after a close. -/
def FrameFirst (c c' : Connection) : Prop := ∀ evs, c'.log = evs ++ c.log →
  ∀ xs o w f ys, evs = xs ++ .sent (some o) w f :: ys → Event.close ∉ ys

/-- No close at all. -/
def NoClose (c c' : Connection) : Prop := ∃ ds, Event.close ∉ ds ∧ c'.log = ds ++ c.log

/-- Frames, then at most one close. -/
def CloseLast (c c' : Connection) : Prop := ∃ ds, Event.close ∉ ds ∧
  (c'.log = ds ++ c.log ∨ c'.log = .close :: (ds ++ c.log))

theorem NoClose.of_log (h : c'.log = c.log) : NoClose c c' :=
  ⟨[], List.not_mem_nil, h⟩

theorem NoClose.sent {obj : Option Obj} {w : Writer} {f : Frame}
    (h : c'.log = .sent obj w f :: c.log) : NoClose c c' :=
  ⟨[.sent obj w f], by simp, h⟩

theorem NoClose.closeLast (h : NoClose c c') : CloseLast c c' := by
  obtain ⟨ds, hd, hl⟩ := h
  exact ⟨ds, hd, .inl hl⟩

theorem NoClose.andThen {d : Connection} (h : NoClose c d) (h' : CloseLast d c') :
    CloseLast c c' := by
  obtain ⟨ds, hd, hl⟩ := h
  obtain ⟨ds', hd', hl'⟩ := h'
  have hnot : Event.close ∉ ds' ++ ds := by
    intro hm
    rcases List.mem_append.mp hm with hm | hm
    · exact hd' hm
    · exact hd hm
  refine ⟨ds' ++ ds, hnot, ?_⟩
  rw [hl] at hl'
  rw [List.append_assoc]
  exact hl'

theorem CloseLast.of_eq (h : CloseLast c c') (hl : c''.log = c'.log) : CloseLast c c'' := by
  obtain ⟨ds, hd, h⟩ := h
  rw [← hl] at h
  exact ⟨ds, hd, h⟩

theorem CloseLast.frameFirst (h : CloseLast c c') : FrameFirst c c' := by
  obtain ⟨ds, hd, hl⟩ := h
  intro evs hevs xs o w f ys hsplit hclose
  rcases hl with hl | hl
  · rw [hl] at hevs
    have heq : ds = evs := List.append_cancel_right hevs
    apply hd
    rw [heq, hsplit]
    exact List.mem_append_right xs (List.mem_cons_of_mem _ hclose)
  · have hevs' : (.close :: ds) ++ c.log = evs ++ c.log := by rw [← hevs, hl]; rfl
    have heq : .close :: ds = evs := List.append_cancel_right hevs'
    rw [hsplit] at heq
    cases xs with
    | nil =>
        rw [List.nil_append] at heq
        cases heq
    | cons x xs =>
        rw [List.cons_append] at heq
        have hds : ds = xs ++ .sent (some o) w f :: ys := List.tail_eq_of_cons_eq heq
        apply hd
        rw [hds]
        exact List.mem_append_right xs (List.mem_cons_of_mem _ hclose)

/-! ## Histories of the functions -/

theorem note_log (c : Connection) (ok : Bool) (a : Anomaly) : (c.note ok a).log = c.log := by
  unfold note
  split
  · rfl
  · rfl

theorem releaseLocalStream_log (c : Connection) : c.releaseLocalStream.log = c.log := by
  unfold releaseLocalStream
  dsimp only
  split
  · exact note_log c _ _
  · exact note_log c _ _

theorem releaseStream_log (c : Connection) (remote : Bool) :
    (c.releaseStream remote).log = c.log := by
  unfold releaseStream
  split
  · exact note_log c _ _
  · exact releaseLocalStream_log c

theorem addPending_log (c : Connection) (id : StreamId) : (c.addPending id).log = c.log := by
  unfold addPending
  split
  · rfl
  · rfl

/-- A stream that leaves the map may close the io. -/
theorem dropStream_log (c : Connection) (id : StreamId) :
    (c.dropStream id).log = c.log ∨ (c.dropStream id).log = .close :: c.log := by
  unfold dropStream
  cases c.query id with
  | none => exact .inl (addPending_log c id)
  | some o =>
      dsimp only
      split
      · exact .inr (congrArg (Event.close :: ·) (releaseStream_log _ _))
      · exact .inl ((addPending_log _ id).trans (releaseStream_log _ _))

theorem reviewState_log (c : Connection) (o : Obj) :
    (c.reviewState o).log = c.log ∨ (c.reviewState o).log = .close :: c.log := by
  unfold reviewState
  split
  · exact dropStream_log _ _
  · exact .inl rfl

/-- A frame, and then the end of a half. -/
theorem closeLast_review {d : Connection} {obj : Option Obj} {w : Writer} {f : Frame} {o : Obj}
    (h : d.log = .sent obj w f :: c.log) : CloseLast c (d.reviewState o) := by
  rcases reviewState_log d o with hr | hr
  · exact ⟨[.sent obj w f], by simp, .inl (hr.trans h)⟩
  · exact ⟨[.sent obj w f], by simp, .inr (by rw [hr, h]; rfl)⟩

theorem modify_log (c : Connection) (o : Obj) (f : Stream → Stream) :
    (c.modify o f).log = c.log := rfl

theorem notes_log (c : Connection) (o : Obj) (f : Stream → Stream) (b b' : Bool) (a : Anomaly)
    (g : Connection → Window) :
    ({ ((c.note b a).modify o f).note b' a with
      sendWindow := g (((c.note b a).modify o f).note b' a) } : Connection).log = c.log := by
  show (((c.note b a).modify o f).note b' a).log = c.log
  rw [note_log, modify_log, note_log]

theorem spendWindows_log (c : Connection) (o : Obj) (size : Nat) :
    (c.spendWindows o size).log = c.log :=
  notes_log c o (fun s => { s with sendWindow := s.sendWindow.dec size }) _ _ .sendWindow
    fun c => c.sendWindow.dec size

/-- A DATA frame: the note, the frame, the end of the stream, the windows. -/
theorem sendChunk_log (c : Connection) (o : Obj) (payload : Bytes) (size : Nat) (last : Bool) :
    ∃ c1 : Connection, c1.log = .sent (some o) .sendPages
        (.data ⟨(c1.objs o).id, payload, size, last⟩) :: c.log ∧
      c.sendChunk o payload size last =
        (if last then c1.stateSendClose o none else c1).spendWindows o size := by
  unfold sendChunk
  dsimp only
  generalize hn : c.note _ .overrun = c0
  have h0 : c0.log = c.log := by rw [← hn, note_log]
  refine ⟨c0.encode o .sendPages (.data ⟨(c0.objs o).id, payload, size, last⟩), ?_, rfl⟩
  rw [← h0]
  rfl

theorem sendChunk_closeLast (c : Connection) (o : Obj) (payload : Bytes) (size : Nat)
    (last : Bool) : CloseLast c (c.sendChunk o payload size last) := by
  obtain ⟨c1, hlog, heq⟩ := sendChunk_log c o payload size last
  rw [heq]
  refine CloseLast.of_eq ?_ (spendWindows_log _ o size)
  split
  · exact closeLast_review (d := c1.modify o fun s =>
      { s with send := .closed none, sendCap := false }) hlog
  · exact (NoClose.sent hlog).closeLast

theorem sendChunk_noClose (c : Connection) (o : Obj) (payload : Bytes) (size : Nat) :
    NoClose c (c.sendChunk o payload size false) := by
  obtain ⟨c1, hlog, heq⟩ := sendChunk_log c o payload size false
  rw [heq, if_neg Bool.false_ne_true]
  exact .sent ((spendWindows_log c1 o size).trans hlog)

/-! ## `send_pages` -/

theorem pollSendCapacity_log (c : Connection) (o : Obj) :
    (c.pollSendCapacity o).2.log = c.log :=
  congrArg Session.log (pollSendCapacity_flags c o).1

theorem writeReady_log (c : Connection) (o : Obj) (r : IoReady) :
    (c.writeReady o r).2.log = c.log :=
  congrArg Session.log (writeReady_flags c o r).1

/-- What a task does on its stream while it sends, as the states before and after: `R` for what
the loop goes on from, `Q` for a whole poll. -/
structure SendRule (o : Obj) (R Q : Connection → Connection → Prop) : Prop where
  refl : ∀ c, R c c
  done : ∀ {c c'}, R c c' → Q c c'
  andThen : ∀ {c d c'}, R c d → Q d c' → Q c c'
  writeReady : ∀ c r, R c (c.writeReady o r).2
  pollSendCapacity : ∀ c, R c (c.pollSendCapacity o).2
  sendChunk : ∀ {c}, 0 < c.availableSendCapacity o → ∀ payload size,
    R c (c.sendChunk o payload size false)
  lastChunk : ∀ {c}, 0 < c.availableSendCapacity o → ∀ payload size last,
    Q c (c.sendChunk o payload size last)

section

variable {o : Obj} {R Q : Connection → Connection → Prop} {io : Nat → IoTurn} {eof : Bool}

theorem SendRule.pagesTurn (h : SendRule o R Q) {turn : IoTurn}
    {next : Connection → StreamData → SendPoll × Connection}
    (hnext : ∀ c data, Q c (next c data).2) (c : Connection) (data : StreamData) :
    Q c (pagesTurn turn o eof next c data).2 := by
  unfold Connection.pagesTurn
  split
  · next hcap =>
      split
      · dsimp only
        cases (data.encode (c.chunkSize o data)).2.2 with
        | true =>
            rw [if_pos rfl]
            exact h.lastChunk hcap _ _ _
        | false =>
            rw [if_neg Bool.false_ne_true, Bool.and_false]
            exact h.andThen (h.sendChunk hcap _ _) (hnext _ _)
      · exact h.done (h.refl c)
  · have h1 := h.pollSendCapacity c
    cases hp : c.pollSendCapacity o with
    | mk x c1 =>
        rw [hp] at h1
        cases x with
        | pending => exact h.done h1
        | ready y =>
            cases y with
            | error e => exact h.done h1
            | ok n => exact h.andThen h1 (hnext _ _)

theorem SendRule.pagesLoop (h : SendRule o R Q) (fuel : Nat) :
    ∀ (k : Nat) (c : Connection) (data : StreamData),
      Q c (pagesLoop io o eof fuel k c data).2 := by
  induction fuel with
  | zero => exact fun k c data => h.done (h.refl c)
  | succ fuel ih =>
      intro k c data
      have hturn : ∀ c, Q c
          (Connection.pagesTurn (io k) o eof (Connection.pagesLoop io o eof fuel (k + 1)) c
            data).2 :=
        fun c => h.pagesTurn (fun c d => ih (k + 1) c d) c data
      unfold Connection.pagesLoop
      cases (io k).pressure with
      | none => exact hturn c
      | some r =>
          dsimp only
          have h1 := h.writeReady c r
          cases hp : c.writeReady o r with
          | mk x c1 =>
              rw [hp] at h1
              cases x with
              | pending => exact h.done h1
              | ready y =>
                  cases y with
                  | error e => exact h.done h1
                  | ok u => exact h.andThen h1 (hturn c1)

theorem SendRule.pollSender {p : Sender} (h : SendRule p.stream R Q) {r : IoReady}
    (c : Connection) : Q c (pollSender io r c p).2 := by
  unfold Connection.pollSender
  cases p.await with
  | writeReady =>
      dsimp only
      have h1 := h.writeReady c r
      cases hp : c.writeReady p.stream r with
      | mk x c1 =>
          rw [hp] at h1
          cases x with
          | pending => exact h.done h1
          | ready y =>
              cases y with
              | error e => exact h.done h1
              | ok u =>
                  exact h.andThen h1 (h.pagesTurn (fun c d => h.pagesLoop _ _ c d) c1 p.data)
  | capacity =>
      dsimp only
      have h1 := h.pollSendCapacity c
      cases hp : c.pollSendCapacity p.stream with
      | mk x c1 =>
          rw [hp] at h1
          cases x with
          | pending => exact h.done h1
          | ready y =>
              cases y with
              | error e => exact h.done h1
              | ok n => exact h.andThen h1 (h.pagesLoop _ _ c1 p.data)

end

/-- A task closes the io at most once, and last. -/
theorem sending_closeLast (o : Obj) : SendRule o NoClose CloseLast where
  refl := fun _ => .of_log rfl
  done := NoClose.closeLast
  andThen := NoClose.andThen
  writeReady := fun c r => .of_log (writeReady_log c o r)
  pollSendCapacity := fun c => .of_log (pollSendCapacity_log c o)
  sendChunk := fun _ payload size => sendChunk_noClose _ o payload size
  lastChunk := fun _ payload size last => sendChunk_closeLast _ o payload size last

/-! ## The last stream -/

/-- The stream is the only one left, nothing more is received on it, and nothing is reserved. -/
def LastStream (c : Connection) (o : Obj) : Prop :=
  (c.objs o).recv.isClosed = true ∧ c.streams = [((c.objs o).id, o)] ∧ c.reservedStreams = 0

/-- When the end of the send half closes the io. -/
theorem ends_iff (ht : c.session.Table) (hd : c.disconnectWhenReady = true) {o : Nat} :
    c.session.Ends o false true ↔ c.LastStream o := by
  constructor
  · rintro ⟨⟨hdone, hm⟩, hwo, hres, -⟩
    refine ⟨HalfState.half_closed.mp hdone.1, ?_, hres⟩
    obtain ⟨e, hmem, heo⟩ := List.mem_map.mp hm
    have he : e ∈ c.streams := hmem
    have herase : c.streams.eraseP (·.2 == o) = [] := hwo
    have hlen := List.length_eraseP_of_mem (p := (·.2 == o)) he
      (by rw [heo]; exact beq_self_eq_true o)
    rw [herase] at hlen
    have hpos : 0 < c.streams.length := List.length_pos_of_mem he
    have hone : c.streams.length = 1 := by
      have hz : 0 = c.streams.length - 1 := hlen
      omega
    obtain ⟨x, hx⟩ := List.length_eq_one_iff.mp hone
    have hex : e = x := by
      rw [hx] at he
      exact List.mem_singleton.mp he
    have hkey : (c.objs e.2).id = e.1 := ht.key e he
    rw [hx, ← hex]
    have heo' : e.2 = o := heo
    rw [← heo', hkey]
  · rintro ⟨hrecv, hstreams, hres⟩
    have hval : c.session.values = [o] := by
      show c.streams.map (·.2) = [o]
      rw [hstreams]
      rfl
    refine ⟨⟨⟨?_, rfl⟩, ?_⟩, ?_, hres, hd⟩
    · exact HalfState.half_closed.mpr hrecv
    · rw [hval]
      exact List.mem_singleton_self o
    · show c.streams.eraseP (·.2 == o) = []
      rw [hstreams]
      simp

/-- The history after the end of the send half. -/
theorem stateSendClose_log (ht : c.session.Table) {o : Nat} (hlt : o < c.created) :
    (c.stateSendClose o none).log =
      if c.session.Ends o false true then .close :: c.log else c.log := by
  obtain ⟨hs, -⟩ := session_review ht hlt
    (f := fun s => { s with send := .closed none, sendCap := false }) (r := false) (w := true) rfl
  exact congrArg Session.log hs

/-- A frame that is written after the end of the send half. -/
theorem frameFirst_after_close (ht : c.session.Table) (hd : c.disconnectWhenReady = true) {o : Nat}
    (hlt : o < c.created) {w : Writer} {f : Frame} :
    FrameFirst c ((c.stateSendClose o none).encode o w f) ↔ ¬c.LastStream o := by
  have hlog : ((c.stateSendClose o none).encode o w f).log =
      .sent (some o) w f :: (c.stateSendClose o none).log := rfl
  rw [stateSendClose_log ht hlt] at hlog
  rw [← ends_iff ht hd]
  by_cases he : c.session.Ends o false true
  · rw [if_pos he] at hlog
    refine iff_of_false (fun h => ?_) (not_not_intro he)
    exact h [.sent (some o) w f, .close] hlog [] o w f [.close] rfl List.mem_cons_self
  · rw [if_neg he] at hlog
    exact iff_of_true (NoClose.sent hlog).closeLast.frameFirst he

/-! ## The operations that accept a frame -/

/-- The operations that hand a frame of a stream to the io. -/
def Writes : Step → Prop
  | .sendResponse _ _ _ _ | .sendTrailers _ _ | .sendPages _ _ _ _ | .pollSender _ _ _
  | .request (some _) | .pollRequest _ (some _) | .reservationSend _ | .reset _ _ => True
  | _ => False

/-- The operations that end the send half of the last stream before they write its frame:
`send_response` and `send_pages` without data, both at the end of the stream. -/
def EndsFirst (c : Connection) : Step → Prop
  | .sendResponse o status fields eof => eof = true ∧ checkSendIdle (c.objs o) = .ok () ∧
      c.checkHeaderListSize (.response status) fields = .ok () ∧ c.LastStream o
  | .sendPages _ o data eof => eof = true ∧ data.isEmpty = true ∧ (c.objs o).send = .payload ∧
      (c.objs o).error = none ∧ c.LastStream o
  | _ => False

theorem frameFirst_sendResponse (ht : c.session.Table) (hd : c.disconnectWhenReady = true) {o : Nat}
    (hlt : o < c.created) (status : Nat) (fields : HeaderMap) (eof : Bool) :
    FrameFirst c (c.step (.sendResponse o status fields eof)) ↔
      ¬c.EndsFirst (.sendResponse o status fields eof) := by
  show FrameFirst c (c.sendResponse o status fields eof).2 ↔ ¬(_ ∧ _ ∧ _ ∧ _)
  unfold sendResponse
  have hsame : FrameFirst c c := (NoClose.of_log rfl).closeLast.frameFirst
  cases hi : checkSendIdle (c.objs o) with
  | error e => exact iff_of_true hsame fun h => by cases h.2.1
  | ok u =>
      cases hl : c.checkHeaderListSize (.response status) fields with
      | error e => exact iff_of_true hsame fun h => by cases h.2.2.1
      | ok u' =>
          cases eof with
          | false =>
              refine iff_of_true ?_ fun h => by cases h.1
              exact (NoClose.sent (f := .headers _) rfl).closeLast.frameFirst
          | true =>
              dsimp only
              rw [if_pos rfl, frameFirst_after_close ht hd hlt]
              exact not_congr ⟨fun h => ⟨rfl, rfl, rfl, h⟩, fun h => h.2.2.2⟩

theorem frameFirst_sendPages (ht : c.session.Table) (hd : c.disconnectWhenReady = true)
    {io : Nat → IoTurn} {o : Nat} (hlt : o < c.created) (data : StreamData) (eof : Bool) :
    FrameFirst c (c.step (.sendPages io o data eof)) ↔
      ¬c.EndsFirst (.sendPages io o data eof) := by
  have hstart : ∀ r : SendPoll × Connection, (started r).log = r.2.log := by
    rintro ⟨x, c1⟩
    cases x with
    | ready y => rfl
    | suspended p => rfl
  have hiff : FrameFirst c (c.step (.sendPages io o data eof)) ↔
      FrameFirst c (c.sendPages io o data eof).2 := by
    show FrameFirst c (started (c.sendPages io o data eof)) ↔ _
    unfold FrameFirst
    rw [hstart]
  rw [hiff]
  show _ ↔ ¬(_ ∧ _ ∧ _ ∧ _ ∧ _)
  unfold sendPages
  have hsame : FrameFirst c c := (NoClose.of_log rfl).closeLast.frameFirst
  cases hsend : (c.objs o).send with
  | idle => exact iff_of_true hsame fun h => by cases h.2.2.1
  | closed r => exact iff_of_true hsame fun h => by cases h.2.2.1
  | payload =>
      cases herr : (c.objs o).error with
      | some e => exact iff_of_true hsame fun h => by cases h.2.2.2.1
      | none =>
          dsimp only
          by_cases hempty : data.isEmpty = true
          · rw [if_pos hempty]
            cases eof with
            | false => exact iff_of_true hsame fun h => by cases h.1
            | true =>
                rw [if_pos rfl, frameFirst_after_close ht hd hlt]
                exact not_congr ⟨fun h => ⟨rfl, hempty, rfl, rfl, h⟩, fun h => h.2.2.2.2⟩
          · rw [if_neg hempty]
            exact iff_of_true ((sending_closeLast o).pagesLoop _ _ c data).frameFirst
              fun h => hempty h.2.1

theorem closeLast_sendTrailers (o : Obj) (fields : HeaderMap) :
    CloseLast c (c.sendTrailers o fields).2 := by
  unfold sendTrailers
  split
  · cases c.checkHeaderListSize .empty fields with
    | error e => exact (NoClose.of_log rfl).closeLast
    | ok u =>
        exact closeLast_review (d := (c.encode o .sendTrailers _).modify o fun s =>
          { s with send := .closed none, sendCap := false }) rfl
  · exact (NoClose.of_log rfl).closeLast

theorem closeLast_reset (o : Obj) (r : Reason) : CloseLast c (c.reset o r).1 := by
  have hsilent : CloseLast c (c.resetSilent o r).1 := by
    unfold resetSilent
    split
    · exact closeLast_review (d := (c.encode o .resetSilent _).modify o _) rfl
    · exact (NoClose.of_log rfl).closeLast
  unfold reset resetWith
  dsimp only
  cases hr : c.resetSilent o r with
  | mk c1 b =>
      rw [hr] at hsilent
      cases b with
      | false => exact hsilent
      | true =>
          dsimp only
          split
          · exact hsilent.of_eq rfl
          · exact hsilent

theorem request_draining (hd : c.disconnectWhenReady = true) (r : Option Request) :
    (c.request r).2 = c := by
  unfold request
  cases hch : c.checkErrorWithDisconnect with
  | some e => rfl
  | none =>
      have := (checkError_none hch).2.2
      rw [hd] at this
      cases this

theorem closeLast_pollRequest (hd : c.disconnectWhenReady = true) (w : Nat) (r : Option Request) :
    CloseLast c (c.pollRequest w r).2 := by
  unfold pollRequest
  cases c.signal w with
  | none => exact (NoClose.of_log rfl).closeLast
  | some x =>
      cases x with
      | pending => exact (NoClose.of_log rfl).closeLast
      | sent =>
          have hrun :=
            request_draining (c := { c with waiters := c.waiters.filter (·.1 != w) }) hd r
          dsimp only
          rw [hrun]
          exact (NoClose.of_log rfl).closeLast
      | dropped => exact (NoClose.of_log rfl).closeLast

theorem closeLast_releaseReserved (c : Connection) : CloseLast c c.releaseReservedStream := by
  have hlog : ((c.note (0 < c.reservedStreams) .reserved).releaseLocalStream).log = c.log :=
    (releaseLocalStream_log _).trans (note_log c _ _)
  unfold releaseReservedStream
  dsimp only
  generalize hc1 : ({ c.note (0 < c.reservedStreams) .reserved with
    reservedStreams := (c.note (0 < c.reservedStreams) .reserved).reservedStreams - 1 } :
      Connection).releaseLocalStream.notifyCapacity = c1
  have h1 : c1.log = c.log := by
    rw [← hc1]
    exact (releaseLocalStream_log _).trans (note_log c _ _)
  split
  · exact ⟨[], List.not_mem_nil, .inr (congrArg (Event.close :: ·) h1)⟩
  · exact (NoClose.of_log h1).closeLast

theorem closeLast_reservationSend (hc : c.Clean) (hs : c.server = false) (r : Request) :
    CloseLast c (c.reservationSend r).2 := by
  have hrel : CloseLast c ({ c with reservations := c.reservations - 1 } :
      Connection).releaseReservedStream :=
    NoClose.andThen (d := { c with reservations := c.reservations - 1 }) (.of_log rfl)
      (closeLast_releaseReserved _)
  unfold reservationSend sendReservedRequest
  cases c.error with
  | some e => exact hrel
  | none =>
      dsimp only
      by_cases hio : c.ioClosed = true
      · rw [if_pos hio]
        exact hrel
      · rw [if_neg hio]
        cases c.goAway with
        | some g => exact hrel
        | none =>
            dsimp only
            rcases openStream_cases c r with ⟨e, he⟩ | ⟨hd, hid, -, he⟩
            · rw [he]
              exact hrel
            · rw [he]
              obtain ⟨h1, -⟩ := session_open (nextStreamId_new hc.good.table hs) hs hid
              exact (NoClose.sent ((note_log _ _ _).trans (congrArg Session.log h1))).closeLast

/-- While a connection drains, the frame that an operation accepts is handed to the io before
the operation closes it, but for the two that end the send half of the last stream first. -/
theorem frames_before_close (h : Reachable s c) (hd : c.disconnectWhenReady = true) {a : Step}
    (hw : Writes a) (ha : c.Enabled a) : FrameFirst c (c.step a) ↔ ¬c.EndsFirst a := by
  have hc := h.clean
  have ht := hc.good.table
  cases a with
  | sendResponse o status fields eof => exact frameFirst_sendResponse ht hd ha status fields eof
  | sendPages io o data eof => exact frameFirst_sendPages ht hd ha data eof
  | sendTrailers o fields => exact iff_of_true (closeLast_sendTrailers o fields).frameFirst id
  | pollSender io r i =>
      refine iff_of_true (CloseLast.frameFirst ?_) id
      unfold step
      dsimp only
      cases c.senders[i]? with
      | none => exact (NoClose.of_log rfl).closeLast
      | some p =>
          have hpoll : CloseLast c (c.pollSender io r p).2 :=
            (sending_closeLast p.stream).pollSender c
          dsimp only
          cases hr : c.pollSender io r p with
          | mk x c1 =>
              rw [hr] at hpoll
              cases x with
              | ready y => exact hpoll.of_eq rfl
              | suspended p' => exact hpoll.of_eq rfl
  | request r =>
      cases r with
      | none => exact False.elim hw
      | some r =>
          refine iff_of_true (CloseLast.frameFirst ?_) id
          show CloseLast c (c.request (some r)).2
          rw [request_draining hd]
          exact (NoClose.of_log rfl).closeLast
  | pollRequest w r =>
      cases r with
      | none => exact False.elim hw
      | some r => exact iff_of_true (closeLast_pollRequest hd w (some r)).frameFirst id
  | reservationSend r => exact iff_of_true (closeLast_reservationSend hc ha.1 r).frameFirst id
  | reset o r => exact iff_of_true (closeLast_reset o r).frameFirst id
  | _ => exact False.elim hw

/-- A request without payload, and a shutdown before it is answered. -/
def drainingRun : List Step :=
  [.receive (.settings noSettings), .receive (.headers ⟨1, somePseudo, [], true⟩), .startDisconnect]

theorem drainingRun_reachable : Reachable (serverWith 1000 333 (by decide) (by decide))
    ((serverWith 1000 333 (by decide) (by decide)).init.after drainingRun) := by
  refine ((ReachableBy.new (P := anyStep)).after drainingRun ?_).reachable
  refine ⟨⟨noSettings_loads, trivial⟩, ⟨?_, trivial⟩, ⟨trivial, trivial⟩, trivial⟩
  show 1 < 2 ^ 31
  decide

/-- The response that ends the last stream of a draining server is written after the close. -/
theorem response_after_close :
    ¬∀ (s : Start) (c : Connection) (a : Step), Reachable s c → c.disconnectWhenReady = true →
      Writes a → c.Enabled a → FrameFirst c (c.step a) := by
  intro h
  have hf := h _ _ (.sendResponse 0 200 [] true) drainingRun_reachable (by decide) trivial
    (show 0 < _ by decide)
  exact absurd (hf [.sent (some 0) .sendResponse (.headers ⟨1, .response 200, [], true⟩), .close]
    (by decide) [] 0 .sendResponse (.headers ⟨1, .response 200, [], true⟩) [.close] rfl) (by decide)

/-- With payload to come the response is written first. -/
theorem frames_before_close_response :
    ∃ c, Reachable (serverWith 1000 333 (by decide) (by decide)) c ∧ c.disconnectWhenReady = true ∧
      FrameFirst c (c.step (.sendResponse 0 200 [] false)) :=
  ⟨_, drainingRun_reachable, by decide, (frames_before_close drainingRun_reachable (by decide)
    (a := .sendResponse 0 200 [] false) trivial (show 0 < _ by decide)).mpr fun h => by cases h.1⟩

end Connection

end NtexH2
