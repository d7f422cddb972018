/-
  Connection/FailedSends.lean --- sends that fail (src/stream.rs, `send_informational`,
  `send_response`, `send_trailers`, src/connection.rs, `send_request`,
  `send_reserved_request`, src/client/simple.rs, `StreamReservation::send`).

  A request is counted before its stream exists, and its id is drawn between two checks;
  a send that fails at any point gives back what it has taken and leaves the rest as it was.
-/
import NtexH2.Connection.Streams

set_option autoImplicit false

namespace NtexH2

/-- The frame that is written. -/
def Event.frame : Event → Option Frame
  | .sent _ _ f => some f
  | _ => none

namespace Connection

variable {s : Start} {c c' : Connection} {o : Obj}

/-! ## What a send may leave behind -/

/-- The frames that have been written, the last one first. -/
def sentFrames (c : Connection) : List Frame := c.log.filterMap Event.frame

/-- A codec after the frames that have been written: each of them goes through it once. -/
def codec {σ : Type} (encode : Frame → σ → σ) (start : σ) (c : Connection) : σ :=
  c.sentFrames.foldr encode start

/-- Nothing is written, the ids and the map stay, and so does every stream with its windows. -/
structure Traceless (c c' : Connection) : Prop where
  sentFrames : c'.sentFrames = c.sentFrames
  nextStreamId : c'.nextStreamId = c.nextStreamId
  created : c'.created = c.created
  objs : c'.objs = c.objs
  streams : c'.streams = c.streams
  sendWindow : c'.sendWindow = c.sendWindow
  recvWindow : c'.recvWindow = c.recvWindow
  recvSize : c'.recvSize = c.recvSize

/-- The header table of the encoder stays with the frames. -/
theorem Traceless.codec {σ : Type} (h : Traceless c c') (encode : Frame → σ → σ) (start : σ) :
    c'.codec encode start = c.codec encode start :=
  congrArg (List.foldr encode start) h.sentFrames

theorem Traceless.trans {c'' : Connection} (h : Traceless c c') (h' : Traceless c' c'') :
    Traceless c c'' where
  sentFrames := h'.sentFrames.trans h.sentFrames
  nextStreamId := h'.nextStreamId.trans h.nextStreamId
  created := h'.created.trans h.created
  objs := h'.objs.trans h.objs
  streams := h'.streams.trans h.streams
  sendWindow := h'.sendWindow.trans h.sendWindow
  recvWindow := h'.recvWindow.trans h.recvWindow
  recvSize := h'.recvSize.trans h.recvSize

/-! ## Streams -/

/-- A header list that is sent on a stream. -/
inductive HeaderSend where
  | informational (status : Nat) (fields : HeaderMap)
  | response (status : Nat) (fields : HeaderMap) (eof : Bool)
  | trailers (fields : HeaderMap)

/-- The function of the stream that sends it. -/
def sendOn (c : Connection) (o : Obj) : HeaderSend → Except OperationError Unit × Connection
  | .informational status fields => c.sendInformational o status fields
  | .response status fields eof => c.sendResponse o status fields eof
  | .trailers fields => c.sendTrailers o fields

/-- A send that fails on a stream changes nothing at all. -/
theorem sendOn_error {h : HeaderSend} {e : OperationError} (he : (c.sendOn o h).1 = .error e) :
    (c.sendOn o h).2 = c := by
  cases h with
  | informational status fields =>
      revert he
      show (c.sendInformational o status fields).1 = _ → (c.sendInformational o status fields).2 = c
      unfold sendInformational
      split
      · exact fun _ => rfl
      · split
        · exact fun _ => rfl
        · exact nofun
  | response status fields eof =>
      revert he
      show (c.sendResponse o status fields eof).1 = _ → (c.sendResponse o status fields eof).2 = c
      unfold sendResponse
      split
      · exact fun _ => rfl
      · split
        · exact fun _ => rfl
        · exact nofun
  | trailers fields =>
      revert he
      show (c.sendTrailers o fields).1 = _ → (c.sendTrailers o fields).2 = c
      unfold sendTrailers
      split
      · split
        · exact fun _ => rfl
        · exact nofun
      · exact fun _ => rfl

/-! ## Requests -/

/-- A stream that is not opened takes no id. -/
theorem openStream_error {r : Request} {e : OperationError} (he : (c.openStream r).1 = .error e) :
    (c.openStream r).2 = c := by
  revert he
  unfold openStream
  split
  · exact fun _ => rfl
  · split
    · exact fun _ => rfl
    · exact nofun

/-- A slot that is given back wakes the requests that wait for one. -/
theorem traceless_releaseLocalStream (c : Connection) :
    Traceless c c.releaseLocalStream ∧
      c.releaseLocalStream.activeLocalStreams = c.activeLocalStreams - 1 ∧
      c.releaseLocalStream.reservedStreams = c.reservedStreams ∧
      c.releaseLocalStream.reservations = c.reservations := by
  unfold releaseLocalStream note
  dsimp only
  split
  · split
    · exact ⟨⟨rfl, rfl, rfl, rfl, rfl, rfl, rfl, rfl⟩, rfl, rfl, rfl⟩
    · exact ⟨⟨rfl, rfl, rfl, rfl, rfl, rfl, rfl, rfl⟩, rfl, rfl, rfl⟩
  · split
    · exact ⟨⟨rfl, rfl, rfl, rfl, rfl, rfl, rfl, rfl⟩, rfl, rfl, rfl⟩
    · exact ⟨⟨rfl, rfl, rfl, rfl, rfl, rfl, rfl, rfl⟩, rfl, rfl, rfl⟩

/-- A request that fails gives its slot back. -/
theorem sendRequest_error {r : Request} {e : OperationError} (he : (c.sendRequest r).1 = .error e) :
    Traceless c (c.sendRequest r).2 ∧
      (c.sendRequest r).2.activeLocalStreams = c.activeLocalStreams ∧
      (c.sendRequest r).2.reservedStreams = c.reservedStreams ∧
      (c.sendRequest r).2.reservations = c.reservations := by
  revert he
  unfold sendRequest
  generalize hc1 : ({ c with activeLocalStreams := c.activeLocalStreams + 1 } : Connection) = c1
  have h1 : Traceless c c1 := by
    rw [← hc1]
    exact ⟨rfl, rfl, rfl, rfl, rfl, rfl, rfl, rfl⟩
  cases hopen : c1.openStream r with
  | mk res c2 =>
      cases res with
      | ok o => exact nofun
      | error e' =>
          have h2 : c2 = c1 := by
            have herr := @openStream_error c1 r e' (by rw [hopen])
            rwa [hopen] at herr
          intro _
          dsimp only
          obtain ⟨hrel, hactive, hreserved, hreservations⟩ := traceless_releaseLocalStream c2
          rw [h2] at hrel hactive hreserved hreservations ⊢
          refine ⟨h1.trans hrel, hactive.trans ?_, hreserved.trans ?_, hreservations.trans ?_⟩
          · rw [← hc1]
            exact Nat.add_sub_cancel _ _
          · rw [← hc1]
          · rw [← hc1]

/-! ## Reservations -/

theorem sendReservedRequest_error {r : Request} {e : OperationError}
    (he : (c.sendReservedRequest r).1 = .error e) : (c.sendReservedRequest r).2 = c := by
  revert he
  unfold sendReservedRequest
  split
  · exact fun _ => rfl
  · split
    · exact fun _ => rfl
    · split
      · exact fun _ => rfl
      · cases hopen : c.openStream r with
        | mk res c2 =>
            cases res with
            | ok o => exact nofun
            | error e' =>
                intro _
                have herr := @openStream_error c r e' (by rw [hopen])
                rwa [hopen] at herr

/-- A reservation that is given back: its slot is free again, and the io may be closed. -/
theorem traceless_releaseReservedStream (c : Connection) :
    Traceless c c.releaseReservedStream ∧
      c.releaseReservedStream.activeLocalStreams = c.activeLocalStreams - 1 ∧
      c.releaseReservedStream.reservedStreams = c.reservedStreams - 1 ∧
      c.releaseReservedStream.reservations = c.reservations := by
  unfold releaseReservedStream
  dsimp only
  generalize hc1 : ({ c.note (decide (0 < c.reservedStreams)) .reserved with
    reservedStreams := (c.note (decide (0 < c.reservedStreams)) .reserved).reservedStreams - 1 } :
      Connection) = c1
  have h1 : Traceless c c1 ∧ c1.activeLocalStreams = c.activeLocalStreams ∧
      c1.reservedStreams = c.reservedStreams - 1 ∧ c1.reservations = c.reservations := by
    rw [← hc1]
    unfold note
    split
    · exact ⟨⟨rfl, rfl, rfl, rfl, rfl, rfl, rfl, rfl⟩, rfl, rfl, rfl⟩
    · exact ⟨⟨rfl, rfl, rfl, rfl, rfl, rfl, rfl, rfl⟩, rfl, rfl, rfl⟩
  obtain ⟨hrel, hactive, hreserved, hreservations⟩ := traceless_releaseLocalStream c1
  have h2 : Traceless c1 c1.releaseLocalStream.notifyCapacity :=
    hrel.trans ⟨rfl, rfl, rfl, rfl, rfl, rfl, rfl, rfl⟩
  have hslots : c1.releaseLocalStream.activeLocalStreams = c.activeLocalStreams - 1 ∧
      c1.releaseLocalStream.reservedStreams = c.reservedStreams - 1 ∧
      c1.releaseLocalStream.reservations = c.reservations :=
    ⟨by rw [hactive, h1.2.1], hreserved.trans h1.2.2.1, hreservations.trans h1.2.2.2⟩
  split
  · exact ⟨(h1.1.trans h2).trans ⟨rfl, rfl, rfl, rfl, rfl, rfl, rfl, rfl⟩, hslots⟩
  · exact ⟨h1.1.trans h2, hslots⟩

theorem reservationSend_error {r : Request} {e : OperationError}
    (he : (c.reservationSend r).1 = .error e) :
    Traceless c (c.reservationSend r).2 ∧
      (c.reservationSend r).2.activeLocalStreams = c.activeLocalStreams - 1 ∧
      (c.reservationSend r).2.reservedStreams = c.reservedStreams - 1 ∧
      (c.reservationSend r).2.reservations = c.reservations - 1 := by
  revert he
  unfold reservationSend
  cases hsend : c.sendReservedRequest r with
  | mk res c1 =>
      cases res with
      | ok o => exact nofun
      | error e' =>
          have h1 : c1 = c := by
            have herr := @sendReservedRequest_error c r e' (by rw [hsend])
            rwa [hsend] at herr
          intro _
          dsimp only
          rw [h1]
          have h0 : Traceless c { c with reservations := c.reservations - 1 } :=
            ⟨rfl, rfl, rfl, rfl, rfl, rfl, rfl, rfl⟩
          obtain ⟨hrel, hslots⟩ := traceless_releaseReservedStream
            { c with reservations := c.reservations - 1 }
          exact ⟨h0.trans hrel, hslots⟩

/-! ## Every send -/

/-- Sends that fail leave no trace.  On a stream the state is what it was, and so is what every
later send on the stream does; a request gives back its slot, and a reservation gives back itself
with its slot. -/
theorem failed_sends_traceless (hr : Reachable s c) :
    (∀ o h e, (c.sendOn o h).1 = .error e →
      (c.sendOn o h).2 = c ∧ ∀ h', (c.sendOn o h).2.sendOn o h' = c.sendOn o h') ∧
    (∀ r e, (c.sendRequest r).1 = .error e →
      Traceless c (c.sendRequest r).2 ∧
        (∀ {σ : Type} (encode : Frame → σ → σ) (start : σ),
          (c.sendRequest r).2.codec encode start = c.codec encode start) ∧
        (c.sendRequest r).2.activeLocalStreams = c.activeLocalStreams ∧
        (c.sendRequest r).2.reservedStreams = c.reservedStreams) ∧
    ∀ r e, 0 < c.reservations → (c.reservationSend r).1 = .error e →
      Traceless c (c.reservationSend r).2 ∧
        (∀ {σ : Type} (encode : Frame → σ → σ) (start : σ),
          (c.reservationSend r).2.codec encode start = c.codec encode start) ∧
        (c.reservationSend r).2.reservations + 1 = c.reservations ∧
        (c.reservationSend r).2.reservedStreams + 1 = c.reservedStreams ∧
        (c.reservationSend r).2.activeLocalStreams + 1 = c.activeLocalStreams := by
  have ht := hr.clean.good.table
  have hreserved : c.reservedStreams = c.reservations := ht.reserved
  have hactive : c.activeLocalStreams =
      (if c.server then 0 else c.streams.length) + c.reservedStreams := ht.activeLocal
  refine ⟨fun o h e he => ?_, fun r e he => ?_, fun r e hpos he => ?_⟩
  · have hsame := sendOn_error he
    exact ⟨hsame, fun h' => by rw [hsame]⟩
  · obtain ⟨hc, h1, h2, -⟩ := sendRequest_error he
    exact ⟨hc, hc.codec, h1, h2⟩
  · obtain ⟨hc, h1, h2, h3⟩ := reservationSend_error he
    refine ⟨hc, hc.codec, ?_, ?_, ?_⟩
    · omega
    · omega
    · omega

/-- A client has a reservation, and the peer takes no header at all. -/
def reservedRun : List Step := [.receive (.settings noHeaders), .reserve]

theorem reservedRun_reachable : Reachable clientStart (clientStart.init.after reservedRun) := by
  have hloads : Frame.Loads (.settings noHeaders) :=
    ⟨fun v hv => (by cases hv), fun v hv => (by cases hv)⟩
  refine ((ReachableBy.new (P := anyStep)).after reservedRun ?_).reachable
  refine ⟨⟨hloads, trivial⟩, ⟨?_, trivial⟩, trivial⟩
  show ((new false ServiceConfig.new false false).step (.receive (.settings noHeaders))).server =
    false
  decide

theorem failed_sends_traceless_reserved :
    ∃ c, Reachable clientStart c ∧ (c.reservationSend someRequest).1 =
        .error (.headerListTooLarge 163 0) ∧
      (c.reservationSend someRequest).2.sentFrames = c.sentFrames ∧ c.reservedStreams = 1 ∧
      (c.reservationSend someRequest).2.reservedStreams = 0 := by
  have hfails : ((clientStart.init.after reservedRun).reservationSend someRequest).1 =
      .error (.headerListTooLarge 163 0) := by decide +kernel
  obtain ⟨hc, -, -, hreserved, -⟩ := (failed_sends_traceless reservedRun_reachable).2.2
    someRequest _ (by decide +kernel) hfails
  have hone : (clientStart.init.after reservedRun).reservedStreams = 1 := by decide +kernel
  exact ⟨_, reservedRun_reachable, hfails, hc.sentFrames, hone, by omega⟩

end Connection

end NtexH2
