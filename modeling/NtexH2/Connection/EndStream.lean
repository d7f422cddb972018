/-
  Connection/EndStream.lean --- the end of a stream on HEADERS or on DATA (src/stream.rs,
  `recv_headers`, `recv_data`).

  A message without content ends on its header list or on an empty DATA frame behind it.
  Both ways check the content-length; only the first knows that the length of a `304`
  response describes a body that is left out.
-/
import NtexH2.Connection.ContentLength
import NtexH2.Connection.TameRun
import NtexH2.Connection.Streams

set_option autoImplicit false

namespace NtexH2

/-- The same header list, with or without the end of the stream. -/
def Headers.ending (h : Headers) (eof : Bool) : Headers := { h with endStream := eof }

/-- An empty DATA frame at the end of a stream. -/
structure Data.Ends (d : Data) : Prop where
  payload : d.payload = []
  flowLen : d.flowLen = 0
  endStream : d.endStream = true

namespace Connection

variable {c c' c0 : Connection} {o : Obj} {h : Headers} {d : Data}

/-! ## The two ways -/

/-- The header list with the end of the stream. -/
def recvWhole (c : Connection) (o : Obj) (h : Headers) :
    Except StreamError (Option Message) × Connection :=
  c.streamRecvHeaders o (h.ending true)

/-- The header list without the end of the stream, and then DATA if the list is accepted. -/
def recvSplit (c : Connection) (o : Obj) (h : Headers) (d : Data) :
    Except StreamError (Option Message) × Connection :=
  match c.streamRecvHeaders o (h.ending false) with
  | (.error e, c) => (.error e, c)
  | (.ok _, c) => c.streamRecvData o d

/-- What has been received is accepted. -/
def Accepted (r : Except StreamError (Option Message) × Connection) : Prop := ∃ m, r.1 = .ok m

/-- The receive windows of a stream and of its connection are the same, with what they lack. -/
structure SameWindows (o : Obj) (c c' : Connection) : Prop where
  recvWindow : (c'.objs o).recvWindow = (c.objs o).recvWindow
  recvSize : (c'.objs o).recvSize = (c.objs o).recvSize
  conRecvWindow : c'.recvWindow = c.recvWindow
  conRecvSize : c'.recvSize = c.recvSize

/-- The receive sides of a stream and of its connection are the same. -/
structure AlikeReceive (o : Obj) (c c' : Connection) : Prop extends SameWindows o c c' where
  recv : (c'.objs o).recv = (c.objs o).recv

/-- The two ways make no difference: both or none are accepted, and if they are they leave the same
receive side. -/
def Indifferent (c : Connection) (o : Obj) (h : Headers) (d : Data) : Prop :=
  (Accepted (c.recvWhole o h) ↔ Accepted (c.recvSplit o h d)) ∧
    (Accepted (c.recvWhole o h) → AlikeReceive o (c.recvWhole o h).2 (c.recvSplit o h d).2)

/-- The header list is a `304` response with a length that is not zero, which the stream counts: the
length of a body that is left out. -/
structure Describes (s : Stream) (h : Headers) : Prop where
  wellFormed : s.remote = true ∨ responseError (h.ending true) = none
  counted : s.contentLength ≠ .head
  status : h.pseudo.status = some 304
  length : ∃ value n, HeaderMap.get h.fields (octets "content-length") = some value ∧
    parseU64 value = some (n + 1)

/-! ## The windows -/

theorem SameWindows.trans {c'' : Connection} (h : SameWindows o c c')
    (h' : SameWindows o c' c'') : SameWindows o c c'' where
  recvWindow := h'.recvWindow.trans h.recvWindow
  recvSize := h'.recvSize.trans h.recvSize
  conRecvWindow := h'.conRecvWindow.trans h.conRecvWindow
  conRecvSize := h'.conRecvSize.trans h.conRecvSize

theorem SameWindows.symm (h : SameWindows o c c') : SameWindows o c' c where
  recvWindow := h.recvWindow.symm
  recvSize := h.recvSize.symm
  conRecvWindow := h.conRecvWindow.symm
  conRecvSize := h.conRecvSize.symm

theorem sameWindows_modify (c : Connection) (o p : Obj) {f : Stream → Stream}
    (h : ∀ s, (f s).recvWindow = s.recvWindow ∧ (f s).recvSize = s.recvSize) :
    SameWindows o c (c.modify p f) := by
  have hobj : (c.modify p f).objs o = if o = p then f (c.objs o) else c.objs o := rfl
  refine ⟨?_, ?_, rfl, rfl⟩
  · rw [hobj]
    split
    · exact (h _).1
    · rfl
  · rw [hobj]
    split
    · exact (h _).2
    · rfl

theorem sameWindows_releaseStream (c : Connection) (o : Obj) (remote : Bool) :
    SameWindows o c (c.releaseStream remote) := by
  have hnote : ∀ (ok : Bool) (a : Anomaly), SameWindows o c (c.note ok a) := by
    intro ok a
    unfold note
    split <;> exact ⟨rfl, rfl, rfl, rfl⟩
  unfold releaseStream
  split
  · exact (hnote _ _).trans ⟨rfl, rfl, rfl, rfl⟩
  · unfold releaseLocalStream
    dsimp only
    refine (hnote (decide (0 < c.activeLocalStreams)) .activeLocal).trans ?_
    split <;> exact ⟨rfl, rfl, rfl, rfl⟩

theorem sameWindows_addPending (c : Connection) (o : Obj) (id : StreamId) :
    SameWindows o c (c.addPending id) := by
  unfold addPending
  split <;> exact ⟨rfl, rfl, rfl, rfl⟩

theorem sameWindows_dropStream (c : Connection) (o : Obj) (id : StreamId) :
    SameWindows o c (c.dropStream id) := by
  unfold dropStream
  cases c.query id with
  | none => exact sameWindows_addPending c o id
  | some p =>
      dsimp only
      generalize hc1 : ({ c with streams := c.streams.eraseP (·.1 == id) } :
        Connection).stopCapacityTimer p = c1
      have hstop : SameWindows o { c with streams := c.streams.eraseP (·.1 == id) } c1 := by
        rw [← hc1]
        exact sameWindows_modify _ o p (f := fun s => { s with capacityTimer := false })
          fun _ => ⟨rfl, rfl⟩
      have h1 : SameWindows o c c1 :=
        ⟨hstop.recvWindow, hstop.recvSize, hstop.conRecvWindow, hstop.conRecvSize⟩
      have h2 := h1.trans (sameWindows_releaseStream c1 o (c1.objs p).remote)
      split
      · exact h2.trans ⟨rfl, rfl, rfl, rfl⟩
      · exact h2.trans (sameWindows_addPending _ o id)

theorem sameWindows_stateRecvClose (c : Connection) (o : Obj) (r : Option Reason) :
    SameWindows o c (c.stateRecvClose o r) := by
  have h1 : SameWindows o c (c.modify o fun s => { s with recv := .closed r }) :=
    sameWindows_modify c o o fun _ => ⟨rfl, rfl⟩
  unfold stateRecvClose reviewState
  split
  · exact (h1.trans (sameWindows_modify _ o o (f := fun s => { s with sendCap := false })
      fun _ => ⟨rfl, rfl⟩)).trans (sameWindows_dropStream _ o _)
  · exact h1

/-! ## The content-length -/

/-- A length that is accepted with the end of the stream is accepted without it. -/
theorem announcedLength_open {cl cl' : ContentLength}
    (hok : announcedLength cl (h.ending true) = .ok cl') :
    announcedLength cl (h.ending false) = .ok cl' := by
  unfold announcedLength at hok ⊢
  split
  · next hcl => rwa [if_pos hcl] at hok
  · next hcl =>
      rw [if_neg hcl] at hok
      have hfields : (h.ending true).fields = (h.ending false).fields := rfl
      rw [hfields] at hok
      cases hget : HeaderMap.get (h.ending false).fields (octets "content-length") with
      | none => rwa [hget] at hok
      | some value =>
          rw [hget] at hok
          dsimp only at hok ⊢
          cases hv : parseU64 value with
          | none => rwa [hv] at hok
          | some n =>
              rw [hv] at hok
              dsimp only at hok ⊢
              split at hok
              · cases hok
              · rw [if_neg (by exact Bool.false_ne_true)]
                exact hok

/-- A length that is accepted without the end of the stream is accepted with it, unless octets are
still to come. -/
theorem announcedLength_ended {cl cl' : ContentLength}
    (hok : announcedLength cl (h.ending false) = .ok cl') (hzero : ∀ n, cl' ≠ .remaining (n + 1)) :
    announcedLength cl (h.ending true) = .ok cl' := by
  cases hend : announcedLength cl (h.ending true) with
  | ok cl'' =>
      rw [announcedLength_open hend] at hok
      exact hok
  | error e =>
      exfalso
      unfold announcedLength at hok hend
      split at hend
      · cases hend
      · next hcl =>
          rw [if_neg hcl] at hok
          have hfields : (h.ending false).fields = (h.ending true).fields := rfl
          rw [hfields] at hok
          cases hget : HeaderMap.get (h.ending true).fields (octets "content-length") with
          | none =>
              rw [hget] at hend
              cases hend
          | some value =>
              rw [hget] at hok hend
              dsimp only at hok hend
              cases hv : parseU64 value with
              | none =>
                  rw [hv] at hok
                  cases hok
              | some n =>
                  rw [hv] at hok hend
                  dsimp only at hok hend
                  rw [if_neg (by exact Bool.false_ne_true)] at hok
                  cases hok
                  cases n with
                  | zero => cases hend
                  | succ n => exact hzero n rfl

/-- The length of a body that is left out is counted as if it came. -/
theorem Describes.announced {s : Stream} (hd : Describes s h) :
    ∃ n, announcedLength s.contentLength (h.ending true) = .ok (.remaining (n + 1)) := by
  obtain ⟨value, n, hget, hv⟩ := hd.length
  refine ⟨n, ?_⟩
  unfold announcedLength
  rw [if_neg hd.counted]
  have hfields : HeaderMap.get (h.ending true).fields (octets "content-length") = some value := hget
  have hstatus : (h.ending true).pseudo.status = some 304 := hd.status
  rw [hfields]
  dsimp only
  rw [hv, hstatus]
  rfl

theorem describes_of_announced {s : Stream} {n : Nat}
    (hfresh : s.contentLength = .omitted ∨ s.contentLength = .head)
    (hpass : s.remote = true ∨ responseError (h.ending true) = none)
    (hok : announcedLength s.contentLength (h.ending true) = .ok (.remaining (n + 1))) :
    Describes s h := by
  unfold announcedLength at hok
  split at hok
  · next hcl =>
      rw [hcl] at hok
      cases hok
  · next hcl =>
      cases hget : HeaderMap.get (h.ending true).fields (octets "content-length") with
      | none =>
          rw [hget, hfresh.resolve_right hcl] at hok
          cases hok
      | some value =>
          rw [hget] at hok
          dsimp only at hok
          cases hv : parseU64 value with
          | none =>
              rw [hv] at hok
              cases hok
          | some m =>
              rw [hv] at hok
              dsimp only at hok
              split at hok
              · cases hok
              · next hcond =>
                  cases hok
                  refine ⟨hpass, hcl, ?_, value, n, hget, hv⟩
                  refine Classical.byContradiction fun hne => hcond ?_
                  rw [bne_iff_ne.mpr (show (h.ending true).pseudo.status ≠ some 304 from hne)]
                  rfl

/-! ## The header list -/

/-- The end of the stream matters for the checks of a response only if it is interim. -/
theorem responseError_ending (hi : h.interim = false) (eof eof' : Bool) :
    responseError (h.ending eof) = responseError (h.ending eof') := by
  unfold responseError
  have hpseudo : ∀ b, (h.ending b).pseudo = h.pseudo := fun _ => rfl
  rw [hpseudo, hpseudo]
  cases hs : h.pseudo.status with
  | none => rfl
  | some status =>
      have hno : isInformational status = false := by
        have hi' := hi
        unfold Headers.interim at hi'
        rw [hs] at hi'
        exact hi'
      dsimp only
      rw [hno, Bool.false_and, Bool.false_and]

/-- A list that passes the checks is taken for the head of the message, both ways. -/
theorem recvHeaders_pass (hrecv : (c.objs o).recv = .idle)
    (hpass : (c.objs o).remote = true ∨ responseError (h.ending true) = none) (eof : Bool) :
    c.streamRecvHeaders o (h.ending eof) = c.recvFirstHeaders o (h.ending eof) := by
  cases hr : (c.objs o).remote with
  | true =>
      unfold streamRecvHeaders
      rw [hrecv]
      dsimp only
      rw [hr, if_pos rfl]
  | false =>
      have hok := hpass.resolve_left (by rw [hr]; exact Bool.false_ne_true)
      have hi : h.interim = false := by
        refine Bool.eq_false_iff.mpr fun hi => ?_
        have hend : (h.ending true).endStream = false := responseError_interim hok hi
        cases hend
      refine recvHeaders_head hrecv (.inr ?_) hi
      rw [responseError_ending hi eof true]
      exact hok

/-- DATA does not come before the head of a message. -/
theorem recvData_early (hrecv : (c.objs o).recv = .idle) (d : Data) :
    ¬Accepted (c.streamRecvData o d) := by
  by_cases hwin : i32 d.flowLen > (c.objs o).recvWindow.size
  · unfold streamRecvData
    rw [if_pos hwin]
    exact nofun
  · have hadm : c.Admits o (.data d) := Int.not_lt.mp hwin
    have herr : (c.streamRecvData o d).1 = .error (.idle "DATA framed received") :=
      deliver_early hrecv hadm
    rintro ⟨m, hm⟩
    rw [herr] at hm
    cases hm

/-- A list that does not pass the checks is rejected both ways: an interim response leaves the
stream idle. -/
theorem rejected_of_not_pass (hrecv : (c.objs o).recv = .idle)
    (hpass : ¬((c.objs o).remote = true ∨ responseError (h.ending true) = none)) (d : Data) :
    ¬Accepted (c.recvWhole o h) ∧ ¬Accepted (c.recvSplit o h d) := by
  have hr : (c.objs o).remote = false := Bool.eq_false_iff.mpr fun hr => hpass (.inl hr)
  obtain ⟨e, he⟩ := Option.ne_none_iff_exists'.mp fun hnone => hpass (.inr hnone)
  have hwhole : c.recvWhole o h = (.error e, c) := recvHeaders_malformed hrecv hr he
  refine ⟨by rw [hwhole]; exact nofun, ?_⟩
  unfold recvSplit
  cases he' : responseError (h.ending false) with
  | some e' =>
      rw [recvHeaders_malformed hrecv hr he']
      exact nofun
  | none =>
      have hi : (h.ending false).interim = true := by
        cases hi : h.interim with
        | true => exact hi
        | false =>
            rw [responseError_ending hi true false, he'] at he
            cases he
      rw [recvHeaders_interim hrecv hr he' hi]
      exact recvData_early hrecv d

/-! ## The end of the message -/

/-- The header list with the end of the stream. -/
theorem recvWhole_accepted {cl : ContentLength} (hrecv : (c.objs o).recv = .idle)
    (hpass : (c.objs o).remote = true ∨ responseError (h.ending true) = none)
    (hok : announcedLength (c.objs o).contentLength (h.ending true) = .ok cl) :
    Accepted (c.recvWhole o h) ∧ ((c.recvWhole o h).2.objs o).recv = .closed none ∧
      SameWindows o c (c.recvWhole o h).2 := by
  unfold recvWhole
  rw [recvHeaders_pass hrecv hpass]
  obtain ⟨hfst, hclosed, -⟩ := recvFirstHeaders_ok hok
  refine ⟨⟨_, hfst⟩, hclosed rfl, ?_⟩
  unfold recvFirstHeaders
  rw [hok]
  exact (sameWindows_modify c o o (f := fun s => { s with contentLength := cl })
    fun _ => ⟨rfl, rfl⟩).trans (sameWindows_stateRecvClose _ o none)

theorem recvWhole_rejected {e : StreamError} (hrecv : (c.objs o).recv = .idle)
    (hpass : (c.objs o).remote = true ∨ responseError (h.ending true) = none)
    (herr : announcedLength (c.objs o).contentLength (h.ending true) = .error e) :
    ¬Accepted (c.recvWhole o h) := by
  unfold recvWhole
  rw [recvHeaders_pass hrecv hpass]
  unfold recvFirstHeaders
  rw [herr]
  exact nofun

/-- Only the octets that are still to come stand in the way of the empty DATA frame. -/
theorem countPayload_empty (cl : ContentLength) :
    (∃ n, cl = .remaining (n + 1) ∧ (countPayload cl 0 true).1 = .error .wrongPayloadLength) ∨
      (∀ n, cl ≠ .remaining (n + 1)) ∧ countPayload cl 0 true = (.ok (), cl) := by
  cases cl with
  | remaining n =>
      cases n with
      | zero => exact .inr ⟨nofun, rfl⟩
      | succ n => exact .inl ⟨n, rfl, rfl⟩
  | head => exact .inr ⟨nofun, rfl⟩
  | omitted => exact .inr ⟨nofun, rfl⟩

/-- The header list and then the empty DATA frame. -/
theorem recvSplit_ok {cl : ContentLength} (hrecv : (c.objs o).recv = .idle)
    (hwin : 0 ≤ (c.objs o).recvWindow.size) (hd : d.Ends)
    (hpass : (c.objs o).remote = true ∨ responseError (h.ending true) = none)
    (hok : announcedLength (c.objs o).contentLength (h.ending false) = .ok cl) :
    ∃ c1 i, c.recvSplit o h d = c1.recvPayload o d i ∧ (c1.objs o).recv = .payload ∧
      (c1.objs o).contentLength = cl ∧ SameWindows o c c1 := by
  unfold recvSplit
  rw [recvHeaders_pass hrecv hpass]
  unfold recvFirstHeaders
  rw [hok]
  dsimp only
  rw [if_neg (show ¬(h.ending false).endStream = true from Bool.false_ne_true)]
  generalize hc1 : (c.modify o fun s => { s with contentLength := cl }).stateRecvPayload o = c1
  have hobj : c1.objs o = { c.objs o with contentLength := cl, recv := .payload } := by
    rw [← hc1, stateRecvPayload, modify_self, modify_self]
  have h1 : SameWindows o c c1 := by
    rw [← hc1]
    exact (sameWindows_modify c o o (f := fun s => { s with contentLength := cl })
      fun _ => ⟨rfl, rfl⟩).trans (sameWindows_modify _ o o
        (f := fun s => { s with recv := .payload })
        fun _ => ⟨rfl, rfl⟩)
  refine ⟨{ c1 with caps := c1.caps ++ [⟨o, 0⟩] }, c1.caps.length, ?_, ?_, ?_,
    h1.trans ⟨rfl, rfl, rfl, rfl⟩⟩
  · have hle : ¬i32 (0 : Nat) > (c1.objs o).recvWindow.size := by
      rw [hobj]
      exact Int.not_lt.mpr hwin
    unfold streamRecvData newCapacity
    rw [hd.flowLen, hd.payload, if_neg hle]
    rfl
  · exact congrArg Stream.recv hobj
  · exact congrArg Stream.contentLength hobj

theorem recvSplit_accepted {cl : ContentLength} (hrecv : (c.objs o).recv = .idle)
    (hwin : 0 ≤ (c.objs o).recvWindow.size) (hd : d.Ends)
    (hpass : (c.objs o).remote = true ∨ responseError (h.ending true) = none)
    (hok : announcedLength (c.objs o).contentLength (h.ending false) = .ok cl)
    (hzero : ∀ n, cl ≠ .remaining (n + 1)) :
    Accepted (c.recvSplit o h d) ∧ ((c.recvSplit o h d).2.objs o).recv = .closed none ∧
      SameWindows o c (c.recvSplit o h d).2 := by
  obtain ⟨c1, i, heq, hrecv1, hcl1, h1⟩ := recvSplit_ok hrecv hwin hd hpass hok
  have hcount : countPayload (c1.objs o).contentLength d.payload.length d.endStream =
      (.ok (), cl) := by
    rw [hcl1, hd.payload, hd.endStream]
    rcases countPayload_empty cl with ⟨n, hn, -⟩ | ⟨-, hcount⟩
    · exact absurd hn (hzero n)
    · exact hcount
  rw [heq]
  obtain ⟨hfst, hclosed, -⟩ := recvPayload_ok (i := i) hrecv1 hcount
  refine ⟨⟨_, hfst⟩, hclosed hd.endStream, ?_⟩
  unfold recvPayload
  rw [hrecv1]
  dsimp only
  rw [hcount]
  dsimp only
  rw [if_pos hd.endStream]
  exact (h1.trans (sameWindows_modify c1 o o (f := fun s => { s with contentLength := cl })
    fun _ => ⟨rfl, rfl⟩)).trans (sameWindows_stateRecvClose _ o none)

theorem recvSplit_rejected {n : Nat} (hrecv : (c.objs o).recv = .idle)
    (hwin : 0 ≤ (c.objs o).recvWindow.size) (hd : d.Ends)
    (hpass : (c.objs o).remote = true ∨ responseError (h.ending true) = none)
    (hok : announcedLength (c.objs o).contentLength (h.ending false) = .ok (.remaining (n + 1))) :
    ¬Accepted (c.recvSplit o h d) := by
  obtain ⟨c1, i, heq, hrecv1, hcl1, -⟩ := recvSplit_ok hrecv hwin hd hpass hok
  have hcount : countPayload (c1.objs o).contentLength d.payload.length d.endStream =
      (.error .wrongPayloadLength, .remaining (n + 1)) := by
    rw [hcl1, hd.payload, hd.endStream]
    rfl
  rw [heq]
  rintro ⟨m, hm⟩
  rw [recvPayload_error hrecv1 hcount] at hm
  cases hm

/-- Where the end of a stream is carried makes no difference, unless the header list describes the
length of a body that is left out. -/
theorem indifferent_iff_of_fresh (hf : c.Fresh o) (hwin : 0 ≤ (c.objs o).recvWindow.size)
    (hd : d.Ends) : Indifferent c o h d ↔ ¬Describes (c.objs o) h := by
  obtain ⟨hrecv, hfresh⟩ := hf
  constructor
  · intro hind hdesc
    obtain ⟨n, hok⟩ := hdesc.announced
    obtain ⟨hacc, -, -⟩ := recvWhole_accepted hrecv hdesc.wellFormed hok
    exact recvSplit_rejected hrecv hwin hd hdesc.wellFormed (announcedLength_open hok)
      (hind.1.mp hacc)
  · intro hdesc
    by_cases hpass : (c.objs o).remote = true ∨ responseError (h.ending true) = none
    · cases hend : announcedLength (c.objs o).contentLength (h.ending true) with
      | error e =>
          -- without the end of the stream the list may be accepted, but then octets are to come
          have hwhole := recvWhole_rejected hrecv hpass hend
          refine ⟨iff_of_false hwhole ?_, fun hacc => absurd hacc hwhole⟩
          cases hopen : announcedLength (c.objs o).contentLength (h.ending false) with
          | error e' =>
              unfold recvSplit
              rw [recvHeaders_pass hrecv hpass]
              unfold recvFirstHeaders
              rw [hopen]
              exact nofun
          | ok cl =>
              rcases countPayload_empty cl with ⟨n, rfl, -⟩ | ⟨hzero, -⟩
              · exact recvSplit_rejected hrecv hwin hd hpass hopen
              · rw [announcedLength_ended hopen hzero] at hend
                cases hend
      | ok cl =>
          have hzero : ∀ n, cl ≠ .remaining (n + 1) := by
            rintro n rfl
            exact hdesc (describes_of_announced hfresh hpass hend)
          obtain ⟨hacc, hrecv1, hwin1⟩ := recvWhole_accepted hrecv hpass hend
          obtain ⟨hacc', hrecv2, hwin2⟩ :=
            recvSplit_accepted hrecv hwin hd hpass (announcedLength_open hend) hzero
          exact ⟨iff_of_true hacc hacc', fun _ =>
            ⟨hwin1.symm.trans hwin2, hrecv2.trans hrecv1.symm⟩⟩
    · obtain ⟨hwhole, hsplit⟩ := rejected_of_not_pass hrecv hpass d
      exact ⟨iff_of_false hwhole hsplit, fun hacc => absurd hacc hwhole⟩

/-- Where the end of a stream is carried makes no difference, for every stream of every run that
waits for the head of its message, unless that head describes the length of a body that is left
out. -/
theorem end_of_stream_indifferent {s : Start} (hr : Reachable s c) (ho : o < c.created)
    (hrecv : (c.objs o).recv = .idle) (hwin : 0 ≤ (c.objs o).recvWindow.size) (hd : d.Ends) :
    Indifferent c o h d ↔ ¬Describes (c.objs o) h := by
  refine indifferent_iff_of_fresh ⟨hrecv, ?_⟩ hwin hd
  cases hcl : (c.objs o).contentLength with
  | omitted => exact .inl rfl
  | head => exact .inr rfl
  | remaining n => exact absurd hcl (hr.unread ho hrecv n)

/-- A client that has sent a request. -/
def askedRun : List Step := [.receive (.settings noSettings), .request (some someRequest)]

theorem askedRun_reachable : Reachable clientStart (clientStart.init.after askedRun) := by
  refine ((ReachableBy.new (P := anyStep)).after askedRun ?_).reachable
  refine ⟨⟨noSettings_loads, trivial⟩, ⟨?_, trivial⟩, trivial⟩
  show ((new false ServiceConfig.new false false).step (.receive (.settings noSettings))).server =
    false
  decide

/-- A `304` response to the request, with the length of the body that it leaves out. -/
def notModified : Headers :=
  ⟨1, .response 304, [(octets "content-length", octets "5")], true⟩

/-- An empty DATA frame at the end of the stream. -/
def lastData : Data := ⟨1, [], 0, true⟩

theorem end_of_stream_indifferent_ok :
    Indifferent (clientStart.init.after askedRun) 0 (⟨1, .response 200, [], true⟩ : Headers)
      lastData := by
  refine (end_of_stream_indifferent askedRun_reachable (by decide) (by decide) (by decide)
    ⟨rfl, rfl, rfl⟩).mpr fun hd => ?_
  have h := hd.status
  cases h

/-- The response is accepted with the end of the stream, and its end alone is not. -/
theorem end_of_stream_matters :
    ¬∀ (s : Start) (c : Connection) (o : Obj) (h : Headers) (d : Data), Reachable s c →
      o < c.created → (c.objs o).recv = .idle → 0 ≤ (c.objs o).recvWindow.size →
      0 ≤ c.recvWindow.size → d.Ends →
        (Accepted (c.recvWhole o h) ↔ Accepted (c.recvSplit o h d)) := by
  intro h
  have hiff := h clientStart _ 0 notModified lastData askedRun_reachable (by decide) (by decide)
    (by decide) (by decide) ⟨rfl, rfl, rfl⟩
  have hwhole : ((clientStart.init.after askedRun).recvWhole 0 notModified).1 =
      .ok (some (.headers (.response 304) notModified.fields true)) := by decide +kernel
  have hsplit : ((clientStart.init.after askedRun).recvSplit 0 notModified lastData).1 =
      .error .wrongPayloadLength := by decide +kernel
  obtain ⟨m, hm⟩ := hiff.mp ⟨_, hwhole⟩
  rw [hsplit] at hm
  cases hm

end Connection

end NtexH2
