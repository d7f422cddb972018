/-
  Connection/Messages.lean --- what the application is told (src/dispatcher.rs,
  `handle_message`, `handle_connection_error`, `publish`).

  The messages of a step are those that its code hands to the publish service, in this
  order.  A message that carries a frame moves the receive half of its stream; all other
  messages are the last that is heard of it.
-/
import NtexH2.Connection.Mute
import NtexH2.Connection.ContentLength
import NtexH2.Connection.Endpoint

set_option autoImplicit false

namespace NtexH2

namespace Connection

/-! ## Publishing -/

/-- `Dispatcher::handle_connection_error`, for the streams that are left. -/
def disconnects (c : Connection) (err : OperationError) : List (Obj × Message) :=
  c.values.map fun o => (o, .disconnect err)

/-- The messages of `Dispatcher::handle_message`. -/
def publishes : Received × Connection → List (Obj × Message)
  | (.ok item, _) => item.toList
  | (.error (.connection e), c) => c.disconnects (.connection e)
  | (.error (.stream o e), _) => [(o, .error e)]

/-- The message of the first error of a SETTINGS ack. -/
def publishesError : List (Obj × StreamError) → List (Obj × Message)
  | [] => []
  | (o, e) :: _ => [(o, .error e)]

/-- The messages after a SETTINGS ack. -/
def publishesAck :
    Except ConnectionError (List (Obj × StreamError)) × Connection → List (Obj × Message)
  | (.error e, c) => c.disconnects (.connection e)
  | (.ok errs, _) => publishesError errs

/-- The messages after the settings of the peer. -/
def publishesSettings : Except ConnectionError Unit × Connection → List (Obj × Message)
  | (.error e, c) => c.disconnects (.connection e)
  | (.ok _, _) => []

/-- The streams that a GOAWAY frame of the peer ends. -/
def goneStreams (c : Connection) (last : StreamId) : List (StreamId × Obj) :=
  c.streams.filter fun e => !(c.objs e.2).remote && decide (last < e.1)

/-- The messages for a frame, past the check of the first one. -/
def dispatched (c : Connection) : Frame → List (Obj × Message)
  | .headers h => publishes (c.recvHeaders h)
  | .data d => publishes (c.recvData d)
  | .settings s =>
      if s.ack then publishesAck c.recvSettingsAck else publishesSettings (c.recvPeerSettings s)
  | .windowUpdate id n => publishes (c.recvWindowUpdate id n)
  | .reset id reason => publishes (c.recvRstStream id reason)
  | .goAway last reason _ =>
      (c.goneStreams last).map fun e => (e.2, .disconnect (.connection (.goAway reason)))
  | .invalid f => publishes (c.recvInvalidFrame f)
  | .ping _ _ | .priority _ => []

/-- The messages of `Dispatcher::call` with a frame. -/
def received (c : Connection) (f : Frame) : List (Obj × Message) :=
  let c := c.push (.received (f.streamId.bind c.query) f)
  if c.checkFirstFrame f then c.dispatched f else c.disconnects (.connection .missingSettings)

/-- The error that streams find when the dispatcher stops. -/
def stopError (c : Connection) : Stop → OperationError
  | .encoder e => .connection (.encoder e)
  | .decoder e => .connection (.decoder e)
  | .keepAlive => .connection (if c.settingsTimeout then .settingsTimeout else .keepaliveTimeout)
  | .readTimeout => .connection .readTimeout
  | .writeTimeout => .connection .writeTimeout
  | .io | .service => .disconnected

/-- The messages of a step.  `publish` takes the error of a stream that was reset here once
its call is done; it does so for streams of the peer. -/
def told (c : Connection) : Step → List (Obj × Message)
  | .receive f => c.received f
  | .stop s => c.disconnects (c.stopError s)
  | .ackError => publishesError c.ackErrors
  | .takeLocalClose o =>
      if (c.objs o).remote then (c.objs o).localClose.toList.map fun e => (o, .error e) else []
  | _ => []

/-- The runs of a connection, and what its application has been told. -/
inductive Told (s : Start) : Connection → List (Obj × Message) → Prop where
  | new : Told s s.init []
  | step {c : Connection} {ms : List (Obj × Message)} (a : Step) :
      Told s c ms → c.Enabled a → Told s (c.step a) (ms ++ c.told a)

end Connection

/-- The messages of the stream `o`. -/
def addressed (o : Obj) (ms : List (Obj × Message)) : List Message :=
  (ms.filter (·.1 == o)).map (·.2)

theorem addressed_append (o : Obj) (ms ns : List (Obj × Message)) :
    addressed o (ms ++ ns) = addressed o ms ++ addressed o ns := by
  simp [addressed]

@[simp] theorem addressed_self (o : Obj) (m : Message) : addressed o [(o, m)] = [m] := by
  simp [addressed]

theorem addressed_other {o p : Obj} (h : p ≠ o) (m : Message) : addressed o [(p, m)] = [] := by
  simp [addressed, h]

theorem addressed_map {l : List Obj} (hn : l.Nodup) (m : Message) (o : Obj) :
    addressed o (l.map fun p => (p, m)) = if o ∈ l then [m] else [] := by
  induction l with
  | nil => rfl
  | cons p l ih =>
      obtain ⟨hp, hn⟩ := List.nodup_cons.mp hn
      have hcons := addressed_append o [(p, m)] (l.map fun p => (p, m))
      rw [List.map_cons]
      refine hcons.trans ?_
      rw [ih hn]
      by_cases hpo : p = o
      · subst hpo
        simp [hp]
      · rw [addressed_other hpo]
        simp [Ne.symm hpo]

/-! ## Messages and frames -/

/-- The message has all that the frame has, and ends the stream if the frame does. -/
def Frame.Carries : Frame → Message → Prop
  | .headers h, .headers pseudo fields eof =>
      pseudo = h.pseudo ∧ fields = h.fields ∧ eof = h.endStream
  | .headers h, .trailers fields =>
      h.pseudo.pseudoName = none ∧ fields = h.fields ∧ h.endStream = true
  | .data d, .data payload => payload = d.payload ∧ d.endStream = false
  | .data d, .eofData payload => payload = d.payload ∧ d.endStream = true
  | _, _ => False

/-- A message that tells of an error. -/
def Message.Fails : Message → Prop
  | .error _ | .disconnect _ => True
  | _ => False

def Message.fails : Message → Bool
  | .error _ | .disconnect _ => true
  | _ => false

theorem Message.fails_iff {m : Message} : m.fails = true ↔ m.Fails := by
  cases m with
  | error e => exact ⟨fun _ => trivial, fun _ => rfl⟩
  | disconnect e => exact ⟨fun _ => trivial, fun _ => rfl⟩
  | _ => exact ⟨fun h => absurd h Bool.false_ne_true, fun h => False.elim h⟩

/-- What a message makes of the receive half; interim responses come before the head of a
response. -/
inductive Turns (remote : Bool) : Half → Message → Half → Prop where
  | interim {p : PseudoHeaders} {fields : HeaderMap} (hr : remote = false)
      (hi : p.status.any isInformational = true) :
      Turns remote .idle (.headers p fields false) .idle
  | head {p : PseudoHeaders} {fields : HeaderMap}
      (hi : remote = false → p.status.any isInformational = false) :
      Turns remote .idle (.headers p fields false) .payload
  | whole {p : PseudoHeaders} {fields : HeaderMap}
      (hi : remote = false → p.status.any isInformational = false) :
      Turns remote .idle (.headers p fields true) .closed
  | data {b : Bytes} : Turns remote .payload (.data b) .payload
  | eofData {b : Bytes} : Turns remote .payload (.eofData b) .closed
  | trailers {fields : HeaderMap} : Turns remote .payload (.trailers fields) .closed

theorem Frame.Carries.isContent {f : Frame} {m : Message} (h : f.Carries m) :
    f.isContent = true := by
  cases f with
  | headers g => rfl
  | data d => rfl
  | _ => exact False.elim h

theorem Frame.Carries.ends {f : Frame} {m : Message} (h : f.Carries m) :
    f.endsStream = m.endsStream := by
  cases f with
  | headers g =>
      cases m with
      | headers p fields eof => exact h.2.2.symm
      | trailers fields => exact h.2.2
      | _ => exact False.elim h
  | data d =>
      cases m with
      | data b => exact h.2
      | eofData b => exact h.2
      | _ => exact False.elim h
  | _ => exact False.elim h

theorem Turns.open {r : Bool} {h h' : Half} {m : Message} (ht : Turns r h m h') : h ≠ .closed := by
  cases ht <;> exact Half.noConfusion

theorem Turns.content {r : Bool} {h h' : Half} {m : Message} (ht : Turns r h m h') : ¬m.Fails := by
  cases ht <;> exact id

namespace Connection

variable {Q : Obj → Prop} {c c' c1 : Connection} {o : Obj} {f : Frame} {m : Message}

/-! ## A stream receives a frame -/

/-- The stream `o` takes the frame, and `m` is published for it. -/
structure Tells (c : Connection) (o : Obj) (f : Frame) (m : Message) (c' : Connection) : Prop where
  carries : f.Carries m
  turns : Turns (c.objs o).remote (c.objs o).recv.half m (c'.objs o).recv.half
  count : c.Uncounted → c'.Uncounted
  rest : ∃ c1, Mute Nobody (· = o) c c1 ∧ c'.created = c1.created ∧
    (∀ p, p ≠ o → c'.objs p = c1.objs p) ∧ (c'.objs o).localClose = (c1.objs o).localClose

/-- The result of a method of the stream `o` for the frame. -/
inductive Yields (c : Connection) (o : Obj) (f : Frame) :
    Except StreamError (Option Message) × Connection → Prop where
  | refused {e : StreamError} {c' : Connection} (h : Mute Nobody Nobody c c') :
      Yields c o f (.error e, c')
  | told {m : Message} {c' : Connection} (h : Tells c o f m c') : Yields c o f (.ok (some m), c')

theorem Tells.of_mute (hc : f.Carries m)
    (ht : Turns (c.objs o).remote (c.objs o).recv.half m (c'.objs o).recv.half)
    (h : Mute Nobody (· = o) c c') : Tells c o f m c' :=
  ⟨hc, ht, h.count, c', h, rfl, fun _ _ => rfl, rfl⟩

theorem mute_stateRecvClose (c : Connection) (o : Obj) (r : Option Reason) :
    Mute Nobody (· = o) c (c.stateRecvClose o r) := by
  refine Mute.trans ?_ (mute_reviewState _ o)
  exact .modify c o (.inr ⟨rfl, .inr rfl⟩) (fun h => False.elim h) (.inl rfl)

theorem mute_setLength (c : Connection) (o : Obj) (cl : ContentLength) :
    Mute Nobody Q c (c.modify o fun s => { s with contentLength := cl }) :=
  (Mute.refl c).keep o fun _ => ⟨rfl, rfl, .inl rfl⟩

theorem half_idle {h : HalfState} (hi : h = .idle) : h.half = .idle := by rw [hi]; rfl

theorem half_payload {h : HalfState} (hi : h = .payload) : h.half = .payload := by rw [hi]; rfl

theorem half_closed' {h : HalfState} {r : Option Reason} (hi : h = .closed r) :
    h.half = .closed := by rw [hi]; rfl

/-- The head of a message. -/
theorem yields_recvFirstHeaders {h : Headers} (hrecv : (c.objs o).recv = .idle)
    (hi : (c.objs o).remote = false → h.interim = false) :
    Yields c o (.headers h) (c.recvFirstHeaders o h) := by
  have hok := fun cl => @recvFirstHeaders_ok c o h cl
  unfold recvFirstHeaders at hok ⊢
  cases hcl : announcedLength (c.objs o).contentLength h with
  | error e => exact .refused (.refl c)
  | ok cl =>
      obtain ⟨-, hend, hmore⟩ := hok cl hcl
      rw [hcl] at hend hmore
      dsimp only at hend hmore ⊢
      refine .told ?_
      cases he : h.endStream with
      | true =>
          rw [he] at hend
          have hend' := hend rfl
          rw [if_pos rfl] at hend' ⊢
          refine .of_mute ⟨rfl, rfl, he.symm⟩ ?_
            ((mute_setLength c o cl).trans (mute_stateRecvClose _ o none))
          rw [half_idle hrecv, half_closed' hend']
          exact .whole hi
      | false =>
          rw [he] at hmore
          have hmore' := (hmore rfl).1
          rw [if_neg Bool.false_ne_true] at hmore' ⊢
          refine ⟨⟨rfl, rfl, he.symm⟩, ?_, fun hu => hu, _, mute_setLength c o cl, rfl,
            fun p hp => if_neg hp, ?_⟩
          · rw [half_idle hrecv, half_payload hmore']
            exact .head hi
          · unfold stateRecvPayload
            rw [modify_self]

theorem yields_recvTrailers {h : Headers} (hrecv : (c.objs o).recv = .payload) :
    Yields c o (.headers h) (c.recvTrailers o h) := by
  unfold recvTrailers
  split
  · exact .refused (.refl c)
  · cases hp : h.pseudo.pseudoName with
    | some name => exact .refused (.refl c)
    | none =>
        dsimp only
        cases he : h.endStream with
        | false => exact .refused (.refl c)
        | true =>
            refine .told (.of_mute ⟨hp, rfl, he⟩ ?_ (mute_stateRecvClose c o none))
            rw [half_payload hrecv, half_closed' (stateRecvClose_receive c o none)]
            exact .trailers

theorem yields_streamRecvHeaders (c : Connection) (o : Obj) (h : Headers) :
    Yields c o (.headers h) (c.streamRecvHeaders o h) := by
  cases hrecv : (c.objs o).recv with
  | idle =>
      cases hr : (c.objs o).remote with
      | true =>
          unfold streamRecvHeaders
          rw [hrecv, hr]
          refine yields_recvFirstHeaders hrecv fun hf => ?_
          rw [hr] at hf
          cases hf
      | false =>
          cases he : responseError h with
          | some e =>
              rw [recvHeaders_malformed hrecv hr he]
              exact .refused (.refl c)
          | none =>
              cases hi : h.interim with
              | true =>
                  rw [recvHeaders_interim hrecv hr he hi]
                  have hend := responseError_interim he hi
                  refine .told (.of_mute ⟨rfl, rfl, hend.symm⟩ ?_ (.refl c))
                  rw [half_idle hrecv]
                  exact .interim hr hi
              | false =>
                  rw [recvHeaders_head hrecv (.inr he) hi]
                  exact yields_recvFirstHeaders hrecv fun _ => hi
  | payload =>
      unfold streamRecvHeaders
      rw [hrecv]
      exact yields_recvTrailers hrecv
  | closed r =>
      unfold streamRecvHeaders
      rw [hrecv]
      exact .refused (.refl c)

/-- DATA, after the windows are charged. -/
theorem yields_recvPayload {d : Data} {i : Nat} (h1 : ∀ {Q : Obj → Prop}, Mute Nobody Q c c1)
    (hrecv1 : (c1.objs o).recv = (c.objs o).recv) :
    Yields c o (.data d) (c1.recvPayload o d i) := by
  unfold recvPayload
  cases hrecv : (c1.objs o).recv with
  | idle => exact .refused (h1.trans (mute_dropCapacity c1 i))
  | closed r => exact .refused (h1.trans (mute_dropCapacity c1 i))
  | payload =>
      have hpay : (c.objs o).recv.half = .payload := half_payload (hrecv1 ▸ hrecv)
      dsimp only
      have h2 : ∀ {Q : Obj → Prop}, Mute Nobody Q c _ := fun {Q} => (h1 (Q := Q)).trans
        (mute_setLength c1 o
          (countPayload (c1.objs o).contentLength d.payload.length d.endStream).2)
      generalize hc2 : (c1.modify o fun s => { s with contentLength :=
        (countPayload (c1.objs o).contentLength d.payload.length d.endStream).2 }) = c2 at *
      have hrecv2 : (c2.objs o).recv = .payload := by
        rw [← hc2, modify_self]
        exact hrecv
      cases (countPayload (c1.objs o).contentLength d.payload.length d.endStream).1 with
      | error e => exact .refused (h2.trans (mute_dropCapacity c2 i))
      | ok u =>
          dsimp only
          refine .told ?_
          cases he : d.endStream with
          | true =>
              refine .of_mute ⟨rfl, he⟩ ?_ (h2.trans (mute_stateRecvClose c2 o none))
              rw [hpay]
              exact half_closed' (stateRecvClose_receive c2 o none) ▸ .eofData
          | false =>
              refine .of_mute ⟨rfl, he⟩ ?_ h2
              rw [hpay]
              have hpay2 : (c2.objs o).recv.half = .payload := half_payload hrecv2
              show Turns _ _ _ (c2.objs o).recv.half
              rw [hpay2]
              exact .data

theorem yields_streamRecvData (c : Connection) (o : Obj) (d : Data) :
    Yields c o (.data d) (c.streamRecvData o d) := by
  unfold streamRecvData
  split
  · exact .refused ((mute_dataReceived c _).trans (mute_dataConsumed _ _))
  · dsimp only
    have h1 : ∀ {Q : Obj → Prop}, Mute Nobody Q c (c.newCapacity o d.flowLen) :=
      mute_newCapacity c o _
    have hk1 : (c.newCapacity o d.flowLen).outline = c.outline := outline_newCapacity c o _
    split
    · refine yields_recvPayload (h1.trans (mute_consume _ _ _)) ?_
      exact (sameReceive_of_outline (o := o) ((outline_consume _ _ _).trans hk1)).recv
    · exact yields_recvPayload h1 (sameReceive_of_outline (o := o) hk1).recv

end Connection

end NtexH2
