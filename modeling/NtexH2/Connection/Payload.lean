/-
  Connection/Payload.lean --- what `send_pages` writes.

  The frames are cut by windows that other tasks change between two polls, and at any
  place of a page.  A call is followed over its polls: each of them finds a connection
  of its own.
-/
import NtexH2.Connection.Shutdown

set_option autoImplicit false

namespace NtexH2

/-! ## Cutting the data -/

namespace StreamData

theorem len_eq (d : StreamData) : d.len = d.octets.length := by
  cases d with
  | bytes b => rfl
  | pages l => exact List.length_flatten.symm

/-- The loop over the pages cuts their octets at the size, wherever the pages end. -/
theorem takePages_flatten (l : List Bytes) : ∀ size : Nat,
    (takePages size l).1 = l.flatten.take size ∧
      (takePages size l).2.flatten = l.flatten.drop size := by
  induction l with
  | nil => exact fun size => ⟨(List.take_nil).symm, (List.drop_nil).symm⟩
  | cons page rest ih =>
      intro size
      unfold takePages
      dsimp only
      rw [List.flatten_cons, List.take_append, List.drop_append]
      by_cases hle : page.length ≤ size
      · -- the page is written whole, an empty one too
        rw [if_pos (Nat.min_eq_right hle).symm, Nat.min_eq_right hle, List.take_of_length_le hle,
          List.drop_of_length_le hle, List.nil_append]
        obtain ⟨h1, h2⟩ := ih (size - page.length)
        exact ⟨congrArg (page ++ ·) h1, h2⟩
      · have hlt : size < page.length := Nat.lt_of_not_le hle
        have hzero : size - page.length = 0 := Nat.sub_eq_zero_of_le (Nat.le_of_lt hlt)
        rw [Nat.min_eq_left (Nat.le_of_lt hlt), if_neg (Nat.ne_of_gt hlt), hzero, List.take_zero,
          List.append_nil, List.drop_zero]
        exact ⟨rfl, List.flatten_cons⟩

/-- Both forms of the data are cut alike. -/
theorem encode_octets (d : StreamData) (size : Nat) :
    (d.encode size).1 = d.octets.take size ∧
      (d.encode size).2.1.octets = d.octets.drop size ∧
      (d.encode size).2.2 = decide (d.octets.length ≤ size) := by
  unfold encode
  rw [len_eq]
  by_cases hle : d.octets.length ≤ size
  · rw [if_pos hle, List.take_of_length_le hle, List.drop_of_length_le hle, decide_eq_true hle]
    cases d with
    | bytes b => exact ⟨rfl, rfl, rfl⟩
    | pages l => exact ⟨rfl, rfl, rfl⟩
  · rw [if_neg hle, decide_eq_false hle]
    cases d with
    | bytes b => exact ⟨rfl, rfl, rfl⟩
    | pages l => exact ⟨(takePages_flatten l size).1, (takePages_flatten l size).2, rfl⟩

theorem encode_split (d : StreamData) (size : Nat) :
    (d.encode size).1 ++ (d.encode size).2.1.octets = d.octets := by
  obtain ⟨h1, h2, -⟩ := d.encode_octets size
  rw [h1, h2, List.take_append_drop]

end StreamData

/-- The octets of some DATA frames. -/
def payloads (ds : List Data) : Bytes := ds.flatMap Data.payload

/-- A DATA frame of `send_pages`. -/
def Event.pagesData : Event → Option Data
  | .sent _ .sendPages (.data d) => some d
  | _ => none

namespace Connection

variable {c c' c'' : Connection} {io : Nat → IoTurn} {o : Obj} {eof : Bool} {data : StreamData}

/-- The values that a `SETTINGS_MAX_FRAME_SIZE` of the peer can have, and more. -/
def FrameSize (c : Connection) : Prop := 0 < c.remoteFrameSize ∧ c.remoteFrameSize < 2 ^ 24

/-! ## The frames of a poll -/

/-- The DATA frames of `send_pages` between two states of a poll, in the order they are
written. -/
def written (c c' : Connection) : List Data :=
  (c'.log.take (c'.log.length - c.log.length)).reverse.filterMap Event.pagesData

/-- From `c` to `c'` the frames `ds` are written. -/
def Adds (c c' : Connection) (ds : List Data) : Prop :=
  ∃ es, c'.log = es ++ c.log ∧ es.reverse.filterMap Event.pagesData = ds

theorem Adds.written {ds : List Data} (h : Adds c c' ds) : written c c' = ds := by
  obtain ⟨es, hlog, hds⟩ := h
  unfold Connection.written
  rw [hlog, List.length_append, Nat.add_sub_cancel, List.take_left, hds]

theorem Adds.of_log (h : c'.log = c.log) : Adds c c' [] := ⟨[], h, rfl⟩

theorem Adds.trans {ds ds' : List Data} (h : Adds c c' ds) (h' : Adds c' c'' ds') :
    Adds c c'' (ds ++ ds') := by
  obtain ⟨es, hlog, hds⟩ := h
  obtain ⟨es', hlog', hds'⟩ := h'
  refine ⟨es' ++ es, by rw [hlog', hlog, List.append_assoc], ?_⟩
  rw [List.reverse_append, List.filterMap_append, hds, hds']

theorem adds_review {d : Data} {x : Connection}
    (h : x.log = .sent (some o) .sendPages (.data d) :: c.log) :
    Adds c (x.reviewState o) [d] := by
  rcases reviewState_log x o with hr | hr
  · exact ⟨[_], hr.trans h, rfl⟩
  · exact ⟨[.close, _], hr.trans (congrArg _ h), rfl⟩

/-- A round writes one frame, with its octets behind a length field of their number. -/
theorem sendChunk_adds (c : Connection) (o : Obj) (payload : Bytes) (size : Nat) (last : Bool) :
    ∃ id, Adds c (c.sendChunk o payload size last) [⟨id, payload, size, last⟩] := by
  obtain ⟨c1, hlog, heq⟩ := sendChunk_log c o payload size last
  refine ⟨(c1.objs o).id, ?_⟩
  rw [heq]
  cases last with
  | true =>
      rw [if_pos rfl]
      obtain ⟨es, hes, hds⟩ := adds_review (x := c1.modify o fun s =>
        { s with send := .closed none, sendCap := false }) hlog
      exact ⟨es, (spendWindows_log _ o size).trans hes, hds⟩
  | false =>
      rw [if_neg Bool.false_ne_true]
      exact ⟨[_], (spendWindows_log c1 o size).trans hlog, rfl⟩

theorem note_remoteFrameSize (c : Connection) (ok : Bool) (a : Anomaly) :
    (c.note ok a).remoteFrameSize = c.remoteFrameSize := by
  unfold note
  split
  · rfl
  · rfl

theorem notes_remoteFrameSize (c : Connection) (o : Obj) (f : Stream → Stream) (b b' : Bool)
    (a : Anomaly) (g : Connection → Window) :
    ({ ((c.note b a).modify o f).note b' a with
      sendWindow := g (((c.note b a).modify o f).note b' a) } : Connection).remoteFrameSize =
        c.remoteFrameSize := by
  show (((c.note b a).modify o f).note b' a).remoteFrameSize = c.remoteFrameSize
  rw [note_remoteFrameSize]
  exact note_remoteFrameSize c b a

theorem spendWindows_remoteFrameSize (c : Connection) (o : Obj) (size : Nat) :
    (c.spendWindows o size).remoteFrameSize = c.remoteFrameSize :=
  notes_remoteFrameSize c o (fun s => { s with sendWindow := s.sendWindow.dec size }) _ _
    .sendWindow fun c => c.sendWindow.dec size

theorem sendChunk_remoteFrameSize (c : Connection) (o : Obj) (payload : Bytes) (size : Nat) :
    (c.sendChunk o payload size false).remoteFrameSize = c.remoteFrameSize := by
  have hspent : ∃ c1 : Connection, c1.remoteFrameSize = c.remoteFrameSize ∧
      c.sendChunk o payload size false = c1.spendWindows o size := by
    unfold sendChunk
    dsimp only
    generalize hn : c.note _ .overrun = c0
    have h0 : c0.remoteFrameSize = c.remoteFrameSize := by rw [← hn, note_remoteFrameSize]
    exact ⟨c0.encode o .sendPages (.data ⟨(c0.objs o).id, payload, size, false⟩), h0, rfl⟩
  obtain ⟨c1, h1, heq⟩ := hspent
  rw [heq, spendWindows_remoteFrameSize, h1]

/-! ## What a poll covers -/

/-- A frame that carries octets behind a length field of their number. -/
structure Chunk (d : Data) : Prop where
  length : d.flowLen = d.payload.length
  bound : d.flowLen < 2 ^ 24
  nonempty : d.payload ≠ []

/-- How the frames of some polls stand to the octets of the data: they carry all of them,
a prefix, or what a suspended call has not kept. -/
inductive Covers (data : Bytes) (eof : Bool) : SendPoll → List Data → Prop
  | ok {ds : List Data} {d : Data} : payloads (ds ++ [d]) = data →
      (∀ d ∈ ds, d.endStream = false) → d.endStream = eof →
      Covers data eof (.ready (.ok ())) (ds ++ [d])
  | error {ds : List Data} {e : OperationError} : payloads ds <+: data →
      (∀ d ∈ ds, d.endStream = false) → Covers data eof (.ready (.error e)) ds
  | suspended {ds : List Data} {s : Sender} : payloads ds ++ s.data.octets = data →
      (∀ d ∈ ds, d.endStream = false) → s.eof = eof → s.data.octets ≠ [] →
      Covers data eof (.suspended s) ds

theorem payloads_append (ds ds' : List Data) : payloads (ds ++ ds') = payloads ds ++ payloads ds' :=
  List.flatMap_append

/-- Frames that are written before. -/
theorem Covers.after {xs ys : Bytes} {r : SendPoll} {ds ds' : List Data} (h : Covers ys eof r ds')
    (hx : payloads ds ++ ys = xs) (hds : ∀ d ∈ ds, d.endStream = false) :
    Covers xs eof r (ds ++ ds') := by
  have hall : ∀ {l : List Data}, (∀ d ∈ l, d.endStream = false) →
      ∀ d ∈ ds ++ l, d.endStream = false := by
    intro l hl d hd
    rcases List.mem_append.mp hd with hd | hd
    · exact hds d hd
    · exact hl d hd
  cases h with
  | ok hp hno hd =>
      rw [← List.append_assoc]
      refine .ok ?_ (hall hno) hd
      rw [List.append_assoc, payloads_append, hp, hx]
  | error hp hno =>
      refine .error ?_ (hall hno)
      rw [payloads_append, ← hx]
      exact (List.prefix_append_right_inj _).mpr hp
  | suspended hp hno he hne =>
      refine .suspended ?_ (hall hno) he hne
      rw [payloads_append, List.append_assoc, hp, hx]

/-- A poll that starts with some data: the frames it writes cover the data. -/
def Poured (c : Connection) (data : StreamData) (eof : Bool) (r : SendPoll × Connection) : Prop :=
  ∃ ds, Adds c r.2 ds ∧ (∀ d ∈ ds, Chunk d) ∧ Covers data.octets eof r.1 ds

theorem Poured.of_log {r : SendPoll × Connection} (hlog : c'.log = c.log)
    (h : Poured c' data eof r) : Poured c data eof r := by
  obtain ⟨ds, hw, hch, hcov⟩ := h
  exact ⟨ds, (Adds.of_log hlog).trans hw, hch, hcov⟩

theorem Poured.error {e : OperationError} (hlog : c'.log = c.log) :
    Poured c data eof (.ready (.error e), c') :=
  ⟨[], .of_log hlog, fun _ h => (by cases h), .error (List.nil_prefix) fun _ h => (by cases h)⟩

theorem Poured.suspended {s : Sender} (hlog : c'.log = c.log) (hd : s.data = data)
    (he : s.eof = eof) (hne : data.octets ≠ []) : Poured c data eof (.suspended s, c') := by
  refine ⟨[], .of_log hlog, fun _ h => (by cases h), .suspended ?_ (fun _ h => (by cases h)) he ?_⟩
  · rw [hd]
    rfl
  · rw [hd]
    exact hne

/-! ## Rounds and polls -/

/-- A cut is not empty: there is room in the windows, a frame has room, and data is left. -/
theorem chunkSize_pos (hf : c.FrameSize) (hcap : 0 < c.availableSendCapacity o)
    (hne : data.octets ≠ []) : 0 < c.chunkSize o data := by
  have hlen : 0 < data.len := by
    rw [data.len_eq]
    exact List.length_pos_iff.mpr hne
  exact Nat.lt_min.mpr ⟨hcap, Nat.lt_min.mpr ⟨hlen, hf.1⟩⟩

theorem chunkSize_le_len : c.chunkSize o data ≤ data.octets.length := by
  rw [← data.len_eq]
  exact Nat.le_trans (Nat.min_le_right _ _) (Nat.min_le_left _ _)

theorem chunkSize_lt (hf : c.FrameSize) : c.chunkSize o data < 2 ^ 24 :=
  Nat.lt_of_le_of_lt (Nat.le_trans (Nat.min_le_right _ _) (Nat.min_le_right _ _)) hf.2

section

variable {turn : IoTurn} {next : Connection → StreamData → SendPoll × Connection}

theorem pagesTurn_refused (hcap : 0 < c.availableSendCapacity o) (hwr : turn.writes = false) :
    pagesTurn turn o eof next c data = (.ready (.error .disconnected), c) := by
  unfold pagesTurn
  rw [if_pos hcap, hwr]
  rfl

theorem pagesTurn_writes (hcap : 0 < c.availableSendCapacity o) (hwr : turn.writes = true) :
    pagesTurn turn o eof next c data =
      if (data.encode (c.chunkSize o data)).2.2 then
        (.ready (.ok ()), c.sendChunk o (data.encode (c.chunkSize o data)).1 (c.chunkSize o data)
          (eof && (data.encode (c.chunkSize o data)).2.2))
      else next (c.sendChunk o (data.encode (c.chunkSize o data)).1 (c.chunkSize o data)
        (eof && (data.encode (c.chunkSize o data)).2.2))
          (data.encode (c.chunkSize o data)).2.1 := by
  unfold pagesTurn
  rw [if_pos hcap, if_pos hwr]

end

theorem poured_turn {turn : IoTurn} {next : Connection → StreamData → SendPoll × Connection}
    (hnext : ∀ c data, c.FrameSize → data.octets ≠ [] → Poured c data eof (next c data))
    (hf : c.FrameSize) (hne : data.octets ≠ []) :
    Poured c data eof (pagesTurn turn o eof next c data) := by
  by_cases hcap : 0 < c.availableSendCapacity o
  · cases hwr : turn.writes with
    | false =>
        rw [pagesTurn_refused hcap hwr]
        exact .error rfl
    | true =>
        rw [pagesTurn_writes hcap hwr]
        obtain ⟨h1, h2, h3⟩ := data.encode_octets (c.chunkSize o data)
        have hsplit := data.encode_split (c.chunkSize o data)
        have hlen : c.chunkSize o data = (data.encode (c.chunkSize o data)).1.length := by
          rw [h1, List.length_take, Nat.min_eq_left chunkSize_le_len]
        have hnonempty : (data.encode (c.chunkSize o data)).1 ≠ [] := by
          rw [← List.length_pos_iff, ← hlen]
          exact chunkSize_pos hf hcap hne
        obtain ⟨id, hw⟩ := sendChunk_adds c o (data.encode (c.chunkSize o data)).1
          (c.chunkSize o data) (eof && (data.encode (c.chunkSize o data)).2.2)
        have hchunk : ∀ last, Chunk ⟨id, (data.encode (c.chunkSize o data)).1,
            c.chunkSize o data, last⟩ := fun last => ⟨hlen, chunkSize_lt hf, hnonempty⟩
        cases hlast : (data.encode (c.chunkSize o data)).2.2 with
        | true =>
            -- nothing is left: the last frame, with the end of the stream
            rw [if_pos rfl]
            rw [hlast, Bool.and_true] at hw
            rw [Bool.and_true]
            have hall : (data.encode (c.chunkSize o data)).2.1.octets = [] := by
              rw [hlast] at h3
              rw [h2]
              exact List.drop_of_length_le (of_decide_eq_true h3.symm)
            rw [hall, List.append_nil] at hsplit
            refine ⟨[] ++ [_], hw, fun d hd => ?_, .ok ?_ (fun _ h => (by cases h)) rfl⟩
            · rw [List.mem_singleton.mp hd]
              exact hchunk eof
            · exact (List.append_nil _).trans hsplit
        | false =>
            rw [if_neg Bool.false_ne_true]
            rw [hlast, Bool.and_false] at hw
            rw [Bool.and_false]
            have hleft : (data.encode (c.chunkSize o data)).2.1.octets ≠ [] := by
              rw [hlast] at h3
              rw [h2]
              intro hnil
              exact of_decide_eq_false h3.symm (List.drop_eq_nil_iff.mp hnil)
            have hf' : (c.sendChunk o (data.encode (c.chunkSize o data)).1
                (c.chunkSize o data) false).FrameSize := by
              unfold FrameSize
              rw [sendChunk_remoteFrameSize]
              exact hf
            obtain ⟨ds, hwds, hch, hcov⟩ := hnext _ _ hf' hleft
            refine ⟨[_] ++ ds, hw.trans hwds, fun d hd => ?_, hcov.after ?_ fun d hd => ?_⟩
            · rcases List.mem_append.mp hd with hd | hd
              · rw [List.mem_singleton.mp hd]
                exact hchunk false
              · exact hch d hd
            · rw [show payloads [_] = _ from List.append_nil _]
              exact hsplit
            · rw [List.mem_singleton.mp hd]
  · unfold pagesTurn
    rw [if_neg hcap]
    have hlog := pollSendCapacity_log c o
    have hfr : (c.pollSendCapacity o).2.remoteFrameSize = c.remoteFrameSize :=
      congrArg Session.remoteFrameSize (pollSendCapacity_flags c o).1
    cases hp : c.pollSendCapacity o with
    | mk x c1 =>
        rw [hp] at hlog hfr
        cases x with
        | pending => exact .suspended hlog rfl rfl hne
        | ready y =>
            cases y with
            | error e => exact .error hlog
            | ok n =>
                refine .of_log hlog (hnext c1 data ?_ hne)
                rw [FrameSize, hfr]
                exact hf

/-- The loop, by the rounds that are left. -/
theorem poured_loop (fuel : Nat) : ∀ (k : Nat) (c : Connection) (data : StreamData),
    c.FrameSize → data.octets ≠ [] →
      Poured c data eof (pagesLoop io o eof fuel k c data) := by
  induction fuel with
  | zero => exact fun k c data hf hne => .suspended rfl rfl rfl hne
  | succ fuel ih =>
      intro k c data hf hne
      have hturn : ∀ c, c.FrameSize → Poured c data eof
          (pagesTurn (io k) o eof (pagesLoop io o eof fuel (k + 1)) c data) :=
        fun c hf => poured_turn (fun c d => ih (k + 1) c d) hf hne
      unfold pagesLoop
      cases (io k).pressure with
      | none => exact hturn c hf
      | some r =>
          dsimp only
          have hlog := writeReady_log c o r
          have hfr : (c.writeReady o r).2.remoteFrameSize = c.remoteFrameSize :=
            congrArg Session.remoteFrameSize (writeReady_flags c o r).1
          cases hp : c.writeReady o r with
          | mk x c1 =>
              rw [hp] at hlog hfr
              cases x with
              | pending => exact .suspended hlog rfl rfl hne
              | ready y =>
                  cases y with
                  | error e => exact .error hlog
                  | ok u =>
                      refine .of_log hlog (hturn c1 ?_)
                      rw [FrameSize, hfr]
                      exact hf

theorem poured_poll {r : IoReady} (s : Sender) (hf : c.FrameSize) (hne : s.data.octets ≠ []) :
    Poured c s.data s.eof (pollSender io r c s) := by
  unfold pollSender
  cases s.await with
  | writeReady =>
      dsimp only
      have hlog := writeReady_log c s.stream r
      have hfr : (c.writeReady s.stream r).2.remoteFrameSize = c.remoteFrameSize :=
        congrArg Session.remoteFrameSize (writeReady_flags c s.stream r).1
      cases hp : c.writeReady s.stream r with
      | mk x c1 =>
          rw [hp] at hlog hfr
          cases x with
          | pending => exact .suspended hlog rfl rfl hne
          | ready y =>
              cases y with
              | error e => exact .error hlog
              | ok u =>
                  refine .of_log hlog (poured_turn (fun c d => poured_loop _ _ c d) ?_ hne)
                  rw [FrameSize, hfr]
                  exact hf
  | capacity =>
      dsimp only
      have hlog := pollSendCapacity_log c s.stream
      have hfr : (c.pollSendCapacity s.stream).2.remoteFrameSize = c.remoteFrameSize :=
        congrArg Session.remoteFrameSize (pollSendCapacity_flags c s.stream).1
      cases hp : c.pollSendCapacity s.stream with
      | mk x c1 =>
          rw [hp] at hlog hfr
          cases x with
          | pending => exact .suspended hlog rfl rfl hne
          | ready y =>
              cases y with
              | error e => exact .error hlog
              | ok n =>
                  refine .of_log hlog (poured_loop _ _ c1 s.data ?_ hne)
                  rw [FrameSize, hfr]
                  exact hf

/-! ## Two forms of the same octets -/

/-- Polls that differ in the form of the data at most. -/
inductive Alike : SendPoll → SendPoll → Prop
  | ready (r : Except OperationError Unit) : Alike (.ready r) (.ready r)
  | suspended {o : Obj} {x y : StreamData} {eof : Bool} {await : Await} :
      x.octets = y.octets → Alike (.suspended ⟨o, x, eof, await⟩) (.suspended ⟨o, y, eof, await⟩)

theorem Alike.ready_iff {x y : SendPoll} (h : Alike x y) (r : Except OperationError Unit) :
    x = .ready r ↔ y = .ready r := by
  cases h with
  | ready r' => exact Iff.rfl
  | suspended _ =>
      constructor
      · intro h
        cases h
      · intro h
        cases h

variable {x y : StreamData}

theorem encode_alike (hxy : x.octets = y.octets) (size : Nat) :
    (x.encode size).1 = (y.encode size).1 ∧
      (x.encode size).2.1.octets = (y.encode size).2.1.octets ∧
      (x.encode size).2.2 = (y.encode size).2.2 := by
  obtain ⟨hx1, hx2, hx3⟩ := x.encode_octets size
  obtain ⟨hy1, hy2, hy3⟩ := y.encode_octets size
  rw [hx1, hx2, hx3, hy1, hy2, hy3, hxy]
  exact ⟨rfl, rfl, rfl⟩

/-- The same state, and results that are alike. -/
def Agrees (r r' : SendPoll × Connection) : Prop := Alike r.1 r'.1 ∧ r.2 = r'.2

/-- What follows a frame. -/
theorem agrees_chunk {next : Connection → StreamData → SendPoll × Connection} (c1 : Connection)
    (hnext : ∀ c x y, x.octets = y.octets → Agrees (next c x) (next c y))
    (hxy : x.octets = y.octets) (last : Bool) :
    Agrees (if last then (.ready (.ok ()), c1) else next c1 x)
      (if last then (.ready (.ok ()), c1) else next c1 y) := by
  cases last with
  | true => exact ⟨.ready _, rfl⟩
  | false => exact hnext c1 x y hxy

theorem agrees_turn {turn : IoTurn} {next : Connection → StreamData → SendPoll × Connection}
    (hnext : ∀ c x y, x.octets = y.octets → Agrees (next c x) (next c y))
    (hxy : x.octets = y.octets) :
    Agrees (pagesTurn turn o eof next c x) (pagesTurn turn o eof next c y) := by
  by_cases hcap : 0 < c.availableSendCapacity o
  · cases hwr : turn.writes with
    | false =>
        rw [pagesTurn_refused hcap hwr, pagesTurn_refused hcap hwr]
        exact ⟨.ready _, rfl⟩
    | true =>
        have hsize : c.chunkSize o x = c.chunkSize o y := by
          unfold chunkSize
          rw [x.len_eq, y.len_eq, hxy]
        obtain ⟨h1, h2, h3⟩ := encode_alike hxy (c.chunkSize o y)
        rw [pagesTurn_writes hcap hwr, pagesTurn_writes hcap hwr, hsize, h1, h3]
        exact agrees_chunk _ hnext h2 _
  · unfold pagesTurn
    rw [if_neg hcap, if_neg hcap]
    cases c.pollSendCapacity o with
    | mk p c1 =>
        cases p with
        | pending => exact ⟨.suspended hxy, rfl⟩
        | ready q =>
            cases q with
            | error e => exact ⟨.ready _, rfl⟩
            | ok n => exact hnext c1 x y hxy

theorem agrees_loop (fuel : Nat) : ∀ (k : Nat) (c : Connection) (x y : StreamData),
    x.octets = y.octets →
      Agrees (pagesLoop io o eof fuel k c x) (pagesLoop io o eof fuel k c y) := by
  induction fuel with
  | zero => exact fun k c x y hxy => ⟨.suspended hxy, rfl⟩
  | succ fuel ih =>
      intro k c x y hxy
      unfold pagesLoop
      cases (io k).pressure with
      | none => exact agrees_turn (ih (k + 1)) hxy
      | some r =>
          dsimp only
          cases c.writeReady o r with
          | mk p c1 =>
              cases p with
              | pending => exact ⟨.suspended hxy, rfl⟩
              | ready q =>
                  cases q with
                  | error e => exact ⟨.ready _, rfl⟩
                  | ok u => exact agrees_turn (ih (k + 1)) hxy

theorem agrees_poll (io : Nat → IoTurn) (r : IoReady) {await : Await}
    (hxy : x.octets = y.octets) :
    Agrees (pollSender io r c ⟨o, x, eof, await⟩) (pollSender io r c ⟨o, y, eof, await⟩) := by
  unfold pollSender
  dsimp only
  rw [x.len_eq, y.len_eq, hxy]
  cases await with
  | writeReady =>
      dsimp only
      cases c.writeReady o r with
      | mk p c1 =>
          cases p with
          | pending => exact ⟨.suspended hxy, rfl⟩
          | ready q =>
              cases q with
              | error e => exact ⟨.ready _, rfl⟩
              | ok u => exact agrees_turn (agrees_loop _ _) hxy
  | capacity =>
      dsimp only
      cases c.pollSendCapacity o with
      | mk p c1 =>
          cases p with
          | pending => exact ⟨.suspended hxy, rfl⟩
          | ready q =>
              cases q with
              | error e => exact ⟨.ready _, rfl⟩
              | ok n => exact agrees_loop _ _ c1 x y hxy

theorem agrees_sendPages (io : Nat → IoTurn) (eof : Bool) (hxy : x.octets = y.octets) :
    Agrees (sendPages io c o x eof) (sendPages io c o y eof) := by
  unfold sendPages
  rw [StreamData.isEmpty, StreamData.isEmpty, x.len_eq, y.len_eq, hxy]
  cases (c.objs o).send with
  | idle => exact ⟨.ready _, rfl⟩
  | closed r => exact ⟨.ready _, rfl⟩
  | payload =>
      dsimp only
      cases (c.objs o).error with
      | some e => exact ⟨.ready _, rfl⟩
      | none =>
          dsimp only
          split
          · split
            · exact ⟨.ready _, rfl⟩
            · exact ⟨.ready _, rfl⟩
          · exact agrees_loop _ _ c x y hxy

/-! ## A call over its polls -/

/-- A later poll of a call: the connection it finds, with the windows, the frame size and
the errors of that time, and what the io does. -/
structure Turn where
  connection : Connection
  io : Nat → IoTurn
  ready : IoReady

/-- The polls of a suspended call, until it returns; `ds` is written already. -/
def resume : SendPoll → List Data → List Turn → SendPoll × List Data
  | .suspended s, ds, t :: ts =>
      let r := pollSender t.io t.ready t.connection s
      resume r.1 (ds ++ written t.connection r.2) ts
  | r, ds, _ => (r, ds)

/-- A call of `send_pages`: what its last poll gives, and the frames it has written. -/
def sendAll (io : Nat → IoTurn) (c : Connection) (o : Obj) (data : StreamData) (eof : Bool)
    (ts : List Turn) : SendPoll × List Data :=
  let r := sendPages io c o data eof
  resume r.1 (written c r.2) ts

theorem resume_ready (r : Except OperationError Unit) (ds : List Data) (ts : List Turn) :
    resume (.ready r) ds ts = (.ready r, ds) := by
  cases ts with
  | nil => rfl
  | cons t ts => rfl

/-- Every poll of a suspended call covers what the polls before it have left. -/
theorem covers_resume {xs : Bytes} (ts : List Turn) (hts : ∀ t ∈ ts, t.connection.FrameSize) :
    ∀ {r : SendPoll} {ds : List Data}, (∀ d ∈ ds, Chunk d) → Covers xs eof r ds →
      (∀ d ∈ (resume r ds ts).2, Chunk d) ∧
        Covers xs eof (resume r ds ts).1 (resume r ds ts).2 := by
  induction ts with
  | nil =>
      intro r ds hch hcov
      cases r with
      | ready r => exact ⟨hch, hcov⟩
      | suspended s => exact ⟨hch, hcov⟩
  | cons t ts ih =>
      intro r ds hch hcov
      cases r with
      | ready r => exact ⟨hch, hcov⟩
      | suspended s =>
          cases hcov with
          | suspended hp hno he hne =>
              have hpoll : Poured t.connection s.data s.eof
                  (pollSender t.io t.ready t.connection s) :=
                poured_poll s (hts t (List.mem_cons_self ..)) hne
              obtain ⟨ds', hadds, hch', hcov'⟩ := hpoll
              rw [he] at hcov'
              unfold resume
              dsimp only
              rw [hadds.written]
              refine ih (fun t ht => hts t (List.mem_cons_of_mem _ ht)) (fun d hd => ?_)
                (hcov'.after hp hno)
              rcases List.mem_append.mp hd with hd | hd
              · exact hch d hd
              · exact hch' d hd

theorem agrees_resume (ts : List Turn) : ∀ {r r' : SendPoll} (ds : List Data), Alike r r' →
    (resume r ds ts).2 = (resume r' ds ts).2 ∧ Alike (resume r ds ts).1 (resume r' ds ts).1 := by
  induction ts with
  | nil =>
      intro r r' ds h
      cases h with
      | ready r => exact ⟨rfl, .ready r⟩
      | suspended hxy => exact ⟨rfl, .suspended hxy⟩
  | cons t ts ih =>
      intro r r' ds h
      cases h with
      | ready r => exact ⟨rfl, .ready r⟩
      | suspended hxy =>
          obtain ⟨ha, heq⟩ := agrees_poll t.io t.ready (c := t.connection) hxy
          unfold resume
          dsimp only
          rw [heq]
          exact ih _ ha

/-- The first poll: an empty payload is a frame only at the end of the stream. -/
theorem sendPages_first (io : Nat → IoTurn) (o : Obj) (data : StreamData) (eof : Bool)
    (hf : c.FrameSize) :
    Poured c data eof (sendPages io c o data eof) ∨
      (data.octets = [] ∧ (sendPages io c o data eof).1 = .ready (.ok ()) ∧
        ((eof = false ∧ Adds c (sendPages io c o data eof).2 []) ∨
          (eof = true ∧ ∃ id, Adds c (sendPages io c o data eof).2 [⟨id, [], 0, true⟩]))) := by
  unfold sendPages
  cases (c.objs o).send with
  | idle => exact .inl (.error rfl)
  | closed r => exact .inl (.error rfl)
  | payload =>
      dsimp only
      cases (c.objs o).error with
      | some e => exact .inl (.error rfl)
      | none =>
          dsimp only
          rw [StreamData.isEmpty, data.len_eq]
          by_cases hnil : data.octets = []
          · rw [hnil, if_pos (show (([] : Bytes).length == 0) = true from rfl)]
            refine .inr ⟨rfl, ?_⟩
            cases eof with
            | false => exact ⟨rfl, .inl ⟨rfl, .of_log rfl⟩⟩
            | true =>
                refine ⟨rfl, .inr ⟨rfl, (c.objs o).id, ?_⟩⟩
                -- the half is closed first, and the io may be closed with it
                rcases reviewState_log (c.modify o fun s =>
                  { s with send := .closed none, sendCap := false }) o with hr | hr
                · exact ⟨[_], congrArg _ hr, rfl⟩
                · exact ⟨[_, .close], congrArg _ hr, rfl⟩
          · rw [if_neg (fun h => hnil (List.eq_nil_of_length_eq_zero (beq_iff_eq.mp h)))]
            exact .inl (poured_loop _ _ c data hf hnil)

/-- The frames of a call cover its data; only an empty payload is a frame without octets. -/
theorem sendAll_covers (io : Nat → IoTurn) (o : Obj) (data : StreamData) (eof : Bool)
    (hf : c.FrameSize) (ts : List Turn)
    (hts : ∀ t ∈ ts, t.connection.FrameSize) :
    ((∀ d ∈ (sendAll io c o data eof ts).2, Chunk d) ∧
      Covers data.octets eof (sendAll io c o data eof ts).1 (sendAll io c o data eof ts).2) ∨
    (data.octets = [] ∧ (sendAll io c o data eof ts).1 = .ready (.ok ()) ∧
      ((eof = false ∧ (sendAll io c o data eof ts).2 = []) ∨
        (eof = true ∧ ∃ id, (sendAll io c o data eof ts).2 = [⟨id, [], 0, true⟩]))) := by
  unfold sendAll
  dsimp only
  rcases sendPages_first io o data eof hf with
    ⟨ds, hadds, hch, hcov⟩ | ⟨hnil, hok, hds⟩
  · rw [hadds.written]
    exact .inl (covers_resume ts hts hch hcov)
  · rw [hok, resume_ready]
    rcases hds with ⟨he, hadds⟩ | ⟨he, id, hadds⟩
    · exact .inr ⟨hnil, rfl, .inl ⟨he, hadds.written⟩⟩
    · exact .inr ⟨hnil, rfl, .inr ⟨he, id, hadds.written⟩⟩

/-- The end of the stream is on the last frame, if it is asked for. -/
theorem endStream_iff (ds : List Data) {d : Data} (hno : ∀ d ∈ ds, d.endStream = false)
    (hd : d.endStream = eof) (i : Nat) (x : Data) (hx : (ds ++ [d])[i]? = some x) :
    x.endStream = true ↔ eof = true ∧ i + 1 = (ds ++ [d]).length := by
  rw [List.length_append, List.length_singleton]
  by_cases hi : i < ds.length
  · rw [List.getElem?_append_left hi] at hx
    have hfalse : x.endStream = false := hno x (List.mem_of_getElem? hx)
    rw [hfalse]
    constructor
    · intro h
      cases h
    · rintro ⟨-, h⟩
      omega
  · rw [List.getElem?_append_right (Nat.le_of_not_lt hi)] at hx
    have hzero : i - ds.length = 0 := by
      have hlt := (List.getElem?_eq_some_iff.mp hx).1
      rw [List.length_singleton] at hlt
      omega
    rw [hzero] at hx
    have hxd : d = x := Option.some.inj hx
    rw [← hxd, hd]
    constructor
    · exact fun h => ⟨h, by omega⟩
    · exact fun h => h.1

/-- A call of `send_pages` over any polls: the length field of every frame is the number of
octets behind it, a call that returns `Ok` has written the data with the end of the stream on
its last frame, one that returns an error a prefix without the end, and nothing depends on
how the octets are kept. -/
theorem sendPages_preserves_payload (io : Nat → IoTurn) (c : Connection) (o : Obj)
    (data : StreamData) (eof : Bool) (ts : List Turn) (hf : c.FrameSize)
    (hts : ∀ t ∈ ts, t.connection.FrameSize) :
    (∀ d ∈ (sendAll io c o data eof ts).2,
      d.flowLen = d.payload.length ∧ d.flowLen < 2 ^ 24) ∧
    ((sendAll io c o data eof ts).1 = .ready (.ok ()) →
      payloads (sendAll io c o data eof ts).2 = data.octets ∧
      (∀ d ∈ (sendAll io c o data eof ts).2, d.payload = [] → data.octets = []) ∧
      (eof = true → (sendAll io c o data eof ts).2 ≠ []) ∧
      ∀ i d, (sendAll io c o data eof ts).2[i]? = some d →
        (d.endStream = true ↔ eof = true ∧ i + 1 = (sendAll io c o data eof ts).2.length)) ∧
    (∀ e, (sendAll io c o data eof ts).1 = .ready (.error e) →
      payloads (sendAll io c o data eof ts).2 <+: data.octets ∧
        ∀ d ∈ (sendAll io c o data eof ts).2, d.endStream = false) ∧
    ∀ data', data'.octets = data.octets →
      (sendAll io c o data' eof ts).2 = (sendAll io c o data eof ts).2 ∧
        ∀ r, (sendAll io c o data' eof ts).1 = .ready r ↔
          (sendAll io c o data eof ts).1 = .ready r := by
  have hsame : ∀ data', data'.octets = data.octets →
      (sendAll io c o data' eof ts).2 = (sendAll io c o data eof ts).2 ∧
        ∀ r, (sendAll io c o data' eof ts).1 = .ready r ↔
          (sendAll io c o data eof ts).1 = .ready r := by
    intro data' hdata
    obtain ⟨ha, heq⟩ := agrees_sendPages io eof (c := c) (o := o) hdata
    unfold sendAll
    dsimp only
    rw [heq]
    obtain ⟨h1, h2⟩ := agrees_resume ts (written c (sendPages io c o data eof).2) ha
    exact ⟨h1, h2.ready_iff⟩
  have hcov := sendAll_covers io o data eof hf ts hts
  generalize (sendAll io c o data eof ts).1 = r at hcov hsame ⊢
  generalize (sendAll io c o data eof ts).2 = ds at hcov hsame ⊢
  rcases hcov with ⟨hch, hcov⟩ | ⟨hnil, hok, hds⟩
  · refine ⟨fun d hd => ⟨(hch d hd).length, (hch d hd).bound⟩, ?_, ?_, hsame⟩
    · intro hok
      cases hcov with
      | ok hp hno hd =>
          refine ⟨hp, fun d hd hnil => absurd hnil (hch d hd).nonempty, fun _ => by simp, ?_⟩
          exact fun i x hx => endStream_iff _ hno hd i x hx
      | error _ _ => cases hok
      | suspended _ _ _ _ => cases hok
    · intro e he
      cases hcov with
      | ok _ _ _ => cases he
      | error hp hno => exact ⟨hp, hno⟩
      | suspended _ _ _ _ => cases he
  · refine ⟨?_, fun _ => ?_, ?_, hsame⟩
    · rcases hds with ⟨-, rfl⟩ | ⟨-, id, rfl⟩
      · exact fun d hd => (by cases hd)
      · intro d hd
        rw [List.mem_singleton.mp hd]
        exact ⟨rfl, Nat.two_pow_pos 24⟩
    · rcases hds with ⟨rfl, rfl⟩ | ⟨rfl, id, rfl⟩
      · exact ⟨hnil.symm, fun d hd => (by cases hd), fun h => (by cases h),
          fun i d hd => (by cases hd)⟩
      · exact ⟨hnil.symm, fun _ _ _ => hnil, fun _ => List.cons_ne_nil _ _,
          endStream_iff [] (fun d hd => (by cases hd)) rfl⟩
    · intro e he
      rw [hok] at he
      cases he

/-- The call has returned `Ok`. -/
def SendPoll.isOk : SendPoll → Bool
  | .ready (.ok _) => true
  | _ => false

theorem SendPoll.eq_ok : ∀ {r : SendPoll}, r.isOk = true → r = .ready (.ok ())
  | .ready (.ok ()), _ => rfl

/-- A stream that has sent its response. -/
def responding : Connection :=
  (serverWith 1000 333 thousand_lt threshold_lt).init.after (exchange.take 5)

/-- Two octets go before the connection window is spent, in the middle of a page. -/
theorem sendPages_preserves_payload_cut :
    (sendAll (fun _ => ⟨none, true⟩) { responding with sendWindow := ⟨2⟩ } 0
      (.pages [[1], [], [2, 3]]) true [⟨responding, fun _ => ⟨none, true⟩, .ready⟩]).2.map
        Data.payload = [[1, 2], [3]] ∧
    payloads (sendAll (fun _ => ⟨none, true⟩) { responding with sendWindow := ⟨2⟩ } 0
      (.pages [[1], [], [2, 3]]) true [⟨responding, fun _ => ⟨none, true⟩, .ready⟩]).2 =
        [1, 2, 3] := by
  have hf : FrameSize responding := by
    unfold FrameSize
    decide
  have hspent : FrameSize { responding with sendWindow := ⟨2⟩ } := by
    unfold FrameSize
    decide
  refine ⟨by decide, ((sendPages_preserves_payload (fun _ => ⟨none, true⟩)
    { responding with sendWindow := ⟨2⟩ } 0 (.pages [[1], [], [2, 3]]) true
    [⟨responding, fun _ => ⟨none, true⟩, .ready⟩] hspent ?_).2.1
      (SendPoll.eq_ok (by decide))).1⟩
  intro t ht
  rw [List.mem_singleton.mp ht]
  exact hf

end Connection

end NtexH2
