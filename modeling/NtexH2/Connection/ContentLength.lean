/-
  Connection/ContentLength.lean --- the content-length of a message (src/stream.rs,
  `StreamRef::recv_headers`, `StreamRef::recv_data`).

  The frames of a stream are delivered one after the other; between two of them the
  rest of the connection may do anything but receive on this stream.
-/
import NtexH2.Connection.LengthGrammar
import NtexH2.Connection.Outline

set_option autoImplicit false

namespace NtexH2

/-! ## Messages as the peer sends them -/

/-- An interim response. -/
def Headers.interim (h : Headers) : Bool := h.pseudo.status.any isInformational

/-- A frame that is delivered to a stream. -/
inductive Delivery where
  | headers (h : Headers)
  | data (d : Data)

namespace Delivery

/-- The frame ends the stream. -/
def endStream : Delivery → Bool
  | .headers h => h.endStream
  | .data d => d.endStream

/-- The octets of the content in a frame, without padding. -/
def octets : Delivery → Nat
  | .headers _ => 0
  | .data d => d.payload.length

/-- The head of a message, if the frame can be one. -/
def head : Delivery → Option Headers
  | .headers h => if h.interim then none else some h
  | .data _ => none

end Delivery

/-- The head of a message: its first header list that is not an interim response. -/
def messageHead (fs : List Delivery) : Option Headers := fs.findSome? Delivery.head

/-- The content-length that the head of a message gives. -/
def messageLength (fs : List Delivery) : Option Nat :=
  (messageHead fs).bind fun h =>
    (HeaderMap.get h.fields (octets "content-length")).bind parseU64

/-- The octets of the content so far. -/
def contentOctets (fs : List Delivery) : Nat := (fs.map Delivery.octets).sum

/-- The frame `f` ends the content that comes after the frames `fs`: DATA at the end of the
stream, a header list after the head, or the head itself unless it is a `304`. -/
def EndsContent (fs : List Delivery) : Delivery → Prop
  | .data d => d.endStream = true
  | .headers h => messageHead fs ≠ none ∨ h.endStream = true ∧ h.pseudo.status ≠ some 304

/-- The message ends the stream. -/
def Message.endsStream : Message → Bool
  | .headers _ _ eof => eof
  | .eofData _ => true
  | .trailers _ => true
  | _ => false

/-- The errors of a content-length. -/
def StreamError.ofLength : StreamError → Bool
  | .wrongPayloadLength | .invalidContentLength => true
  | _ => false

theorem StreamError.ne_wrong {e : StreamError} (h : e.ofLength = false) :
    e ≠ .wrongPayloadLength := by
  rintro rfl
  cases h

theorem messageHead_snoc (fs : List Delivery) (f : Delivery) :
    messageHead (fs ++ [f]) = (messageHead fs).or f.head := by
  unfold messageHead
  rw [List.findSome?_append]
  congr 1
  cases hf : f.head with
  | none => simp [List.findSome?, hf]
  | some h => simp [List.findSome?, hf]

theorem contentOctets_snoc (fs : List Delivery) (f : Delivery) :
    contentOctets (fs ++ [f]) = contentOctets fs + f.octets := by
  unfold contentOctets
  rw [List.map_append, List.sum_append]
  exact congrArg _ (Nat.add_zero _)

namespace Connection

variable {c c' c0 : Connection} {o : Obj} {fs : List Delivery} {f : Delivery}

/-! ## Delivery -/

/-- `StreamRef::recv_headers` or `StreamRef::recv_data`. -/
def deliver (c : Connection) (o : Obj) : Delivery → Except StreamError (Option Message) × Connection
  | .headers h => c.streamRecvHeaders o h
  | .data d => c.streamRecvData o d

/-- What the connection has seen to before it delivers a frame: DATA fits into the window of the
stream, and the head of a request has no status. -/
def Admits (c : Connection) (o : Obj) : Delivery → Prop
  | .headers h => (c.objs o).remote = true → (c.objs o).recv = .idle → h.pseudo.status = none
  | .data d => i32 d.flowLen ≤ (c.objs o).recvWindow.size

/-- What only the receiving side of a stream changes. -/
structure SameReceive (o : Obj) (c c' : Connection) : Prop where
  contentLength : (c'.objs o).contentLength = (c.objs o).contentLength
  recv : (c'.objs o).recv = (c.objs o).recv

/-- The frames `fs` are delivered and accepted one after the other, and the next one finds `c`. -/
inductive Accepts (o : Obj) (c0 : Connection) : List Delivery → Connection → Prop
  | nil {c : Connection} : SameReceive o c0 c → Accepts o c0 [] c
  | snoc {fs : List Delivery} {f : Delivery} {m : Option Message} {c c' : Connection} :
      Accepts o c0 fs c → c.Admits o f → (c.deliver o f).1 = .ok m →
      SameReceive o (c.deliver o f).2 c' → Accepts o c0 (fs ++ [f]) c'

theorem sameReceive_of_outline (h : c'.outline = c.outline) : SameReceive o c c' where
  contentLength := congrArg (fun k => (Outline.sides k o).contentLength) h
  recv := congrArg (fun k => (Outline.sides k o).recv) h

/-- The end of the receive half. -/
theorem stateRecvClose_receive (c : Connection) (o : Obj) (r : Option Reason) :
    ((c.stateRecvClose o r).objs o).recv = .closed r := by
  unfold stateRecvClose reviewState
  generalize hc1 : c.modify o (fun s => { s with recv := .closed r }) = c1
  have h1 : (c1.objs o).recv = .closed r := by
    rw [← hc1, modify_self]
  split
  · have hs := sameReceive_of_outline (o := o)
      (outline_dropStream (c1.modify o fun s => { s with sendCap := false }) (c1.objs o).id)
    rw [hs.recv, modify_self]
    exact h1
  · exact h1

/-! ## The head of a message -/

/-- What `recv_headers` counts with after the head `h`, when `n` octets have come. -/
inductive Counts (start : ContentLength) (h : Headers) (n : Nat) : ContentLength → Prop
  | head : start = .head → Counts start h n .head
  | omitted : start = .omitted → HeaderMap.get h.fields (NtexH2.octets "content-length") = none →
      Counts start h n .omitted
  | remaining {v : Bytes} {total : Nat} : start = .omitted →
      HeaderMap.get h.fields (NtexH2.octets "content-length") = some v →
      parseU64 v = some total → n ≤ total → Counts start h n (.remaining (total - n))

/-- How the state of a stream stands to the frames it has accepted. -/
inductive Phase (start : ContentLength) (fs : List Delivery) :
    ContentLength → HalfState → Prop
  | idle : messageHead fs = none → contentOctets fs = 0 → fs.any Delivery.endStream = false →
      Phase start fs start .idle
  | payload {h : Headers} {cl : ContentLength} : messageHead fs = some h →
      fs.any Delivery.endStream = false → Counts start h (contentOctets fs) cl →
      Phase start fs cl .payload
  | closed {cl : ContentLength} {r : Option Reason} : fs.any Delivery.endStream = true →
      Phase start fs cl (.closed r)

/-- The checks of a response have errors of their own. -/
theorem responseError_ofLength {h : Headers} {e : StreamError} (he : responseError h = some e) :
    e.ofLength = false := by
  unfold responseError at he
  repeat' split at he
  all_goals cases he
  all_goals rfl

theorem responseError_interim {h : Headers} (he : responseError h = none) (hi : h.interim = true) :
    h.endStream = false := by
  unfold responseError at he
  unfold Headers.interim at hi
  cases hs : h.pseudo.status with
  | none =>
      rw [hs] at hi
      cases hi
  | some status =>
      rw [hs] at he hi
      dsimp only at he
      have hi' : isInformational status = true := hi
      cases hend : h.endStream with
      | false => rfl
      | true =>
          rw [hend, hi', Bool.true_or, Bool.true_and, if_pos (rfl : true = true)] at he
          repeat' split at he
          all_goals cases he

/-- The head of a message, past the checks of a response. -/
theorem recvHeaders_head {h : Headers} (hrecv : (c.objs o).recv = .idle)
    (hpass : (c.objs o).remote = true ∨ responseError h = none) (hi : h.interim = false) :
    c.streamRecvHeaders o h = c.recvFirstHeaders o h := by
  unfold streamRecvHeaders
  rw [hrecv]
  dsimp only
  cases hr : (c.objs o).remote with
  | true => rfl
  | false =>
      rw [hr] at hpass
      rw [if_neg Bool.false_ne_true, hpass.resolve_left Bool.false_ne_true]
      dsimp only
      rw [if_neg (show ¬(h.pseudo.status.any isInformational) = true from fun h' =>
        Bool.false_ne_true (hi.symm.trans h'))]

theorem recvHeaders_malformed {h : Headers} {e : StreamError} (hrecv : (c.objs o).recv = .idle)
    (hr : (c.objs o).remote = false) (he : responseError h = some e) :
    c.streamRecvHeaders o h = (.error e, c) := by
  unfold streamRecvHeaders
  rw [hrecv]
  dsimp only
  rw [hr, if_neg Bool.false_ne_true, he]

theorem recvHeaders_interim {h : Headers} (hrecv : (c.objs o).recv = .idle)
    (hr : (c.objs o).remote = false) (he : responseError h = none) (hi : h.interim = true) :
    c.streamRecvHeaders o h = (.ok (some (.headers h.pseudo h.fields false)), c) := by
  unfold streamRecvHeaders
  rw [hrecv]
  dsimp only
  rw [hr, if_neg Bool.false_ne_true, he]
  dsimp only
  rw [if_pos (show (h.pseudo.status.any isInformational) = true from hi)]

theorem recvFirstHeaders_ok {h : Headers} {cl : ContentLength}
    (hcl : announcedLength (c.objs o).contentLength h = .ok cl) :
    (c.recvFirstHeaders o h).1 = .ok (some (.headers h.pseudo h.fields h.endStream)) ∧
      (h.endStream = true → ((c.recvFirstHeaders o h).2.objs o).recv = .closed none) ∧
      (h.endStream = false → ((c.recvFirstHeaders o h).2.objs o).recv = .payload ∧
        ((c.recvFirstHeaders o h).2.objs o).contentLength = cl) := by
  unfold recvFirstHeaders
  rw [hcl]
  dsimp only
  cases h.endStream with
  | true =>
      refine ⟨rfl, fun _ => ?_, fun h => (by cases h)⟩
      exact stateRecvClose_receive _ o none
  | false =>
      refine ⟨rfl, fun h => (by cases h), fun _ => ?_⟩
      rw [if_neg Bool.false_ne_true, stateRecvPayload, modify_self, modify_self]
      exact ⟨rfl, rfl⟩

/-! ## The content -/

/-- DATA that fits is charged to the windows, and then counted. -/
theorem recvData_counted {d : Data} (hadm : c.Admits o (.data d)) :
    ∃ c1 i, SameReceive o c c1 ∧ c.streamRecvData o d = c1.recvPayload o d i := by
  unfold streamRecvData
  rw [if_neg (Int.not_lt.mpr hadm)]
  dsimp only
  refine ⟨_, _, ?_, rfl⟩
  apply sameReceive_of_outline
  split
  · rw [outline_consume, outline_newCapacity]
  · exact outline_newCapacity c o d.flowLen

theorem recvPayload_ok {d : Data} {i : Nat} {l : ContentLength}
    (hrecv : (c.objs o).recv = .payload)
    (hcount : countPayload (c.objs o).contentLength d.payload.length d.endStream = (.ok (), l)) :
    (c.recvPayload o d i).1 =
        .ok (some (if d.endStream then .eofData d.payload else .data d.payload)) ∧
      (d.endStream = true → ((c.recvPayload o d i).2.objs o).recv = .closed none) ∧
      (d.endStream = false → ((c.recvPayload o d i).2.objs o).recv = .payload ∧
        ((c.recvPayload o d i).2.objs o).contentLength = l) := by
  unfold recvPayload
  rw [hrecv]
  dsimp only
  rw [hcount]
  dsimp only
  cases d.endStream with
  | true =>
      refine ⟨rfl, fun _ => ?_, fun h => (by cases h)⟩
      exact stateRecvClose_receive _ o none
  | false =>
      refine ⟨rfl, fun h => (by cases h), fun _ => ?_⟩
      rw [if_neg Bool.false_ne_true, modify_self]
      exact ⟨hrecv, rfl⟩

theorem recvPayload_error {d : Data} {i : Nat} {l : ContentLength} {e : StreamError}
    (hrecv : (c.objs o).recv = .payload)
    (hcount : countPayload (c.objs o).contentLength d.payload.length d.endStream =
      (.error e, l)) : (c.recvPayload o d i).1 = .error e := by
  unfold recvPayload
  rw [hrecv]
  dsimp only
  rw [hcount]

/-! ## Accepted frames -/

theorem any_snoc {b : Bool} (h : fs.any Delivery.endStream = false) (hf : f.endStream = b) :
    (fs ++ [f]).any Delivery.endStream = b := by
  rw [List.any_append, h, Bool.false_or, List.any_cons, hf]
  exact Bool.or_false b

/-- What the head of a message leaves to count. -/
theorem counts_announced {start cl : ContentLength} {h : Headers}
    (hstart : start = .omitted ∨ start = .head) (hcl : announcedLength start h = .ok cl) :
    Counts start h 0 cl := by
  unfold announcedLength at hcl
  rcases hstart with rfl | rfl
  · rw [if_neg (by decide)] at hcl
    cases hget : HeaderMap.get h.fields (octets "content-length") with
    | none =>
        rw [hget] at hcl
        cases hcl
        exact .omitted rfl hget
    | some v =>
        rw [hget] at hcl
        dsimp only at hcl
        cases hparse : parseU64 v with
        | none =>
            rw [hparse] at hcl
            cases hcl
        | some n =>
            rw [hparse] at hcl
            dsimp only at hcl
            split at hcl
            · cases hcl
            · cases hcl
              exact .remaining rfl hget hparse (Nat.zero_le n)
  · rw [if_pos rfl] at hcl
    cases hcl
    exact .head rfl

/-- What is left after a payload that fits. -/
theorem counts_payload {start cl cl' : ContentLength} {h : Headers} {n len : Nat} {eof : Bool}
    (hc : Counts start h n cl) (hok : countPayload cl len eof = (.ok (), cl')) :
    Counts start h (n + len) cl' := by
  unfold countPayload at hok
  cases hc with
  | head hs =>
      dsimp only at hok
      cases hok' : (len != 0) with
      | true =>
          rw [hok'] at hok
          cases hok
      | false =>
          rw [hok'] at hok
          cases hok
          exact .head hs
  | omitted hs hget =>
      cases hok
      exact .omitted hs hget
  | @remaining v total hs hget hparse hle =>
      dsimp only at hok
      split at hok
      · next hlen =>
          obtain ⟨-, rfl⟩ := Prod.mk.inj hok
          rw [Nat.sub_sub]
          exact .remaining hs hget hparse (by omega)
      · cases (Prod.mk.inj hok).1

/-- Nothing is accepted after the end. -/
theorem deliver_closed {r : Option Reason} (hrecv : (c.objs o).recv = .closed r)
    (hadm : c.Admits o f) : (c.deliver o f).1 = .error .closed := by
  cases f with
  | headers h =>
      show (c.streamRecvHeaders o h).1 = _
      unfold streamRecvHeaders
      rw [hrecv]
  | data d =>
      obtain ⟨c1, i, hs, heq⟩ := recvData_counted hadm
      show (c.streamRecvData o d).1 = _
      rw [heq]
      unfold recvPayload
      rw [hs.recv, hrecv]

/-- No content comes before the head. -/
theorem deliver_early {d : Data} (hrecv : (c.objs o).recv = .idle)
    (hadm : c.Admits o (.data d)) :
    (c.deliver o (.data d)).1 = .error (.idle "DATA framed received") := by
  obtain ⟨c1, i, hs, heq⟩ := recvData_counted hadm
  show (c.streamRecvData o d).1 = _
  rw [heq]
  unfold recvPayload
  rw [hs.recv, hrecv]

theorem deliver_trailers {h : Headers} (hrecv : (c.objs o).recv = .payload) :
    c.deliver o (.headers h) = c.recvTrailers o h := by
  show c.streamRecvHeaders o h = _
  unfold streamRecvHeaders
  rw [hrecv]

theorem recvTrailers_short {h : Headers} {n : Nat}
    (hcl : (c.objs o).contentLength = .remaining (n + 1)) :
    c.recvTrailers o h = (.error .wrongPayloadLength, c) := by
  unfold recvTrailers
  rw [hcl]

/-- Trailers after the content: they end the stream, or they are malformed. -/
theorem recvTrailers_cases {h : Headers}
    (hcl : ∀ n, (c.objs o).contentLength = .remaining n → n = 0) :
    (h.endStream = true ∧ (c.recvTrailers o h).1 = .ok (some (.trailers h.fields)) ∧
      ((c.recvTrailers o h).2.objs o).recv = .closed none) ∨
    ∃ e, (c.recvTrailers o h).1 = .error e ∧ e.ofLength = false := by
  unfold recvTrailers
  split
  · next n hn => exact absurd (hcl _ hn) (Nat.succ_ne_zero n)
  · cases h.pseudo.pseudoName with
    | some name => exact .inr ⟨_, rfl, rfl⟩
    | none =>
        cases h.endStream with
        | true => exact .inl ⟨rfl, rfl, stateRecvClose_receive c o none⟩
        | false => exact .inr ⟨_, rfl, rfl⟩

/-- An interim response comes to a client. -/
theorem interim_local {h : Headers} (hrecv : (c.objs o).recv = .idle)
    (hadm : c.Admits o (.headers h)) (hi : h.interim = true) : (c.objs o).remote = false := by
  cases hr : (c.objs o).remote with
  | false => rfl
  | true =>
      have hstatus := hadm hr hrecv
      unfold Headers.interim at hi
      rw [hstatus] at hi
      cases hi

/-- The head of a message, or an interim response before it. -/
theorem deliver_head {h : Headers} {m : Option Message} (hrecv : (c.objs o).recv = .idle)
    (hok : (c.deliver o (.headers h)).1 = .ok m) :
    (c.objs o).remote = true ∨ responseError h = none := by
  cases hr : (c.objs o).remote with
  | true => exact .inl rfl
  | false =>
      right
      cases he : responseError h with
      | none => rfl
      | some e =>
          have heq : c.deliver o (.headers h) = (.error e, c) := recvHeaders_malformed hrecv hr he
          rw [heq] at hok
          cases hok

/-- One accepted frame. -/
theorem phase_deliver {start : ContentLength} {m : Option Message}
    (hstart : start = .omitted ∨ start = .head)
    (hph : Phase start fs (c.objs o).contentLength (c.objs o).recv) (hadm : c.Admits o f)
    (hok : (c.deliver o f).1 = .ok m) :
    Phase start (fs ++ [f]) ((c.deliver o f).2.objs o).contentLength
      ((c.deliver o f).2.objs o).recv := by
  generalize hcl : (c.objs o).contentLength = cl at hph
  generalize hrecv : (c.objs o).recv = recv at hph
  cases hph with
  | closed _ =>
      rw [deliver_closed hrecv hadm] at hok
      cases hok
  | idle hhead hsum hend =>
      cases f with
      | data d =>
          rw [deliver_early hrecv hadm] at hok
          cases hok
      | headers h =>
          have hpass := deliver_head hrecv hok
          have hsum' : contentOctets (fs ++ [.headers h]) = 0 := by
            rw [contentOctets_snoc, hsum]
            rfl
          cases hi : h.interim with
          | true =>
              -- the stream stays idle
              have hr := interim_local hrecv hadm hi
              rw [hr] at hpass
              have he := hpass.resolve_left Bool.false_ne_true
              have heq : c.deliver o (.headers h) =
                (.ok (some (.headers h.pseudo h.fields false)), c) :=
                  recvHeaders_interim hrecv hr he hi
              rw [heq, hcl, hrecv]
              refine .idle ?_ hsum' (any_snoc hend (responseError_interim he hi))
              rw [messageHead_snoc, hhead, Delivery.head, if_pos hi]
              rfl
          | false =>
              have heq : c.deliver o (.headers h) = c.recvFirstHeaders o h :=
                recvHeaders_head hrecv hpass hi
              rw [heq] at hok ⊢
              cases hann : announcedLength (c.objs o).contentLength h with
              | error e =>
                  unfold recvFirstHeaders at hok
                  rw [hann] at hok
                  cases hok
              | ok cl' =>
                  obtain ⟨-, hclosed, hopen⟩ := recvFirstHeaders_ok hann
                  rw [hcl] at hann
                  cases hes : h.endStream with
                  | true =>
                      rw [hclosed hes]
                      exact .closed (any_snoc hend hes)
                  | false =>
                      rw [(hopen hes).1, (hopen hes).2]
                      refine .payload (h := h) ?_ (any_snoc hend hes) ?_
                      · rw [messageHead_snoc, hhead, Delivery.head,
                          if_neg (fun h' => Bool.false_ne_true (hi.symm.trans h'))]
                        rfl
                      · rw [hsum']
                        exact counts_announced hstart hann
  | @payload h0 _ hhead hend hcount =>
      cases f with
      | headers h =>
          rw [deliver_trailers hrecv] at hok ⊢
          have hdone : ∀ n, (c.objs o).contentLength = .remaining n → n = 0 := by
            intro n hn
            cases n with
            | zero => rfl
            | succ n =>
                rw [recvTrailers_short hn] at hok
                cases hok
          rcases recvTrailers_cases (h := h) hdone with ⟨hes, -, hclosed⟩ | ⟨e, he, -⟩
          · rw [hclosed]
            exact .closed (any_snoc hend hes)
          · rw [he] at hok
            cases hok
      | data d =>
          obtain ⟨c1, i, hs, heq⟩ := recvData_counted hadm
          have heq' : c.deliver o (.data d) = c1.recvPayload o d i := heq
          rw [heq'] at hok ⊢
          have hrecv1 : (c1.objs o).recv = .payload := hs.recv.trans hrecv
          cases hct : countPayload (c1.objs o).contentLength d.payload.length d.endStream with
          | mk res cl' =>
              cases res with
              | error e =>
                  rw [recvPayload_error hrecv1 hct] at hok
                  cases hok
              | ok u =>
                  obtain ⟨-, hclosed, hopen⟩ := recvPayload_ok (i := i) hrecv1 hct
                  rw [hs.contentLength, hcl] at hct
                  cases hes : d.endStream with
                  | true =>
                      rw [hclosed hes]
                      exact .closed (any_snoc hend hes)
                  | false =>
                      rw [(hopen hes).1, (hopen hes).2]
                      refine .payload (h := h0) ?_ (any_snoc hend hes) ?_
                      · rw [messageHead_snoc, hhead]
                        rfl
                      · rw [contentOctets_snoc]
                        exact counts_payload hcount hct

/-- A stream that has received nothing: the request was HEAD, or nothing is known. -/
def Fresh (c : Connection) (o : Obj) : Prop :=
  (c.objs o).recv = .idle ∧
    ((c.objs o).contentLength = .omitted ∨ (c.objs o).contentLength = .head)

theorem phase_of_accepts (hf : c0.Fresh o) (hacc : Accepts o c0 fs c) :
    Phase (c0.objs o).contentLength fs (c.objs o).contentLength (c.objs o).recv := by
  induction hacc with
  | nil hs =>
      rw [hs.recv, hs.contentLength, hf.1]
      exact .idle rfl rfl rfl
  | snoc _ hadm hok hs ih =>
      rw [hs.recv, hs.contentLength]
      exact phase_deliver hf.2 ih hadm hok

/-! ## The verdict on a frame -/

/-- The frame is looked at for its octets: the stream has not ended before it, and the head of a
response is well formed. -/
def Judged (c : Connection) (o : Obj) (fs : List Delivery) (f : Delivery) : Prop :=
  fs.any Delivery.endStream = false ∧ ∀ h, f = .headers h → messageHead fs = none →
    (c.objs o).remote = false → responseError h = none

/-- How a frame is answered on a stream that is no response to HEAD: a message that ends the
stream has its length, or is a `304` without content; the frame with the wrong length is told
from the others; and there is none without a length. -/
structure Verdict (c : Connection) (o : Obj) (fs : List Delivery) (f : Delivery) : Prop where
  ended : ∀ n, messageLength (fs ++ [f]) = some n → ∀ m, (c.deliver o f).1 = .ok (some m) →
    m.endsStream = true → contentOctets (fs ++ [f]) = n ∨
      messageHead fs = none ∧ ∃ h, f = .headers h ∧ h.endStream = true ∧
        h.pseudo.status = some 304
  wrong : ∀ n, messageLength (fs ++ [f]) = some n →
    ((c.deliver o f).1 = .error .wrongPayloadLength ↔ c.Judged o fs f ∧
      (n < contentOctets (fs ++ [f]) ∨ contentOctets (fs ++ [f]) < n ∧ EndsContent fs f))
  never : messageLength (fs ++ [f]) = none → (c.deliver o f).1 ≠ .error .wrongPayloadLength

/-- No length is announced so far. -/
theorem Verdict.of_none (hl : messageLength (fs ++ [f]) = none)
    (hr : (c.deliver o f).1 ≠ .error .wrongPayloadLength) : Verdict c o fs f where
  ended := fun n hn => (by rw [hl] at hn; cases hn)
  wrong := fun n hn => (by rw [hl] at hn; cases hn)
  never := fun _ => hr

/-- Another error. -/
theorem Verdict.of_error {e : StreamError} (hr : (c.deliver o f).1 = .error e)
    (he : e ≠ .wrongPayloadLength) (hj : ¬c.Judged o fs f) : Verdict c o fs f where
  ended := fun n _ m hm => (by rw [hr] at hm; cases hm)
  wrong := by
    intro n _
    rw [hr]
    constructor
    · intro h
      exact absurd (Except.error.inj h) he
    · exact fun h => absurd h.1 hj
  never := by
    intro _ h
    rw [hr] at h
    exact he (Except.error.inj h)

/-- A frame of a message of known length. -/
theorem Verdict.of_some {n : Nat} (hl : messageLength (fs ++ [f]) = some n)
    (hj : c.Judged o fs f)
    (hended : ∀ m, (c.deliver o f).1 = .ok (some m) → m.endsStream = true →
      contentOctets (fs ++ [f]) = n)
    (hwrong : (c.deliver o f).1 = .error .wrongPayloadLength ↔
      n < contentOctets (fs ++ [f]) ∨ contentOctets (fs ++ [f]) < n ∧ EndsContent fs f) :
    Verdict c o fs f where
  ended := by
    intro n' hn' m hm hends
    rw [hl] at hn'
    cases hn'
    exact .inl (hended m hm hends)
  wrong := by
    intro n' hn'
    rw [hl] at hn'
    cases hn'
    rw [hwrong]
    exact ⟨fun h => ⟨hj, h⟩, fun h => h.2⟩
  never := fun hnone => (by rw [hl] at hnone; cases hnone)

theorem messageLength_of_head {h : Headers} (hh : messageHead fs = some h) :
    messageLength fs = (HeaderMap.get h.fields (octets "content-length")).bind parseU64 := by
  unfold messageLength
  rw [hh]
  rfl

/-- The head of a message. -/
theorem verdict_head {h : Headers} (hstart : (c.objs o).contentLength = .omitted)
    (hhead : messageHead fs = none) (hsum : contentOctets fs = 0)
    (hend : fs.any Delivery.endStream = false)
    (hpass : (c.objs o).remote = true ∨ responseError h = none) (hi : h.interim = false)
    (heq : c.deliver o (.headers h) = c.recvFirstHeaders o h) : Verdict c o fs (.headers h) := by
  have hhead' : messageHead (fs ++ [.headers h]) = some h := by
    rw [messageHead_snoc, hhead, Delivery.head,
      if_neg (fun h' => Bool.false_ne_true (hi.symm.trans h'))]
    rfl
  have hsum' : contentOctets (fs ++ [.headers h]) = 0 := by
    rw [contentOctets_snoc, hsum]
    rfl
  have hj : c.Judged o fs (.headers h) := by
    refine ⟨hend, fun h' hh' _ hr => ?_⟩
    cases hh'
    rw [hr] at hpass
    exact hpass.resolve_left Bool.false_ne_true
  have hlen := messageLength_of_head hhead'
  have hopen : (c.objs o).contentLength ≠ .head := by
    rw [hstart]
    decide
  cases hget : HeaderMap.get h.fields (octets "content-length") with
  | none =>
      rw [hget] at hlen
      refine .of_none hlen ?_
      rw [heq, (recvFirstHeaders_ok (announcedLength_absent hopen hget)).1]
      intro h'
      cases h'
  | some v =>
      rw [hget] at hlen
      dsimp only [Option.bind] at hlen
      cases hparse : parseU64 v with
      | none =>
          rw [hparse] at hlen
          refine .of_none hlen ?_
          rw [heq]
          unfold recvFirstHeaders
          rw [announcedLength_invalid hopen hget hparse]
          intro h'
          cases h'
      | some n =>
          rw [hparse] at hlen
          have hann := announcedLength_number hopen hget hparse
          split at hann
          · next hw =>
              -- the message has no content
              have hr : (c.deliver o (.headers h)).1 = .error .wrongPayloadLength := by
                rw [heq]
                unfold recvFirstHeaders
                rw [hann]
              simp only [Bool.and_eq_true, bne_iff_ne, ne_eq] at hw
              obtain ⟨⟨hes, hn⟩, h304⟩ := hw
              refine ⟨fun n' _ m hm => ?_, fun n' hn' => ?_, fun hnone => ?_⟩
              · rw [hr] at hm
                cases hm
              · rw [hlen] at hn'
                cases hn'
                rw [hr, hsum']
                exact ⟨fun _ => ⟨hj, .inr ⟨Nat.pos_of_ne_zero hn, .inr ⟨hes, h304⟩⟩⟩, fun _ => rfl⟩
              · rw [hlen] at hnone
                cases hnone
          · next hw =>
              have hr : (c.deliver o (.headers h)).1 =
                  .ok (some (.headers h.pseudo h.fields h.endStream)) := by
                rw [heq, (recvFirstHeaders_ok hann).1]
              simp only [Bool.and_eq_true, bne_iff_ne, ne_eq, not_and, not_not] at hw
              refine ⟨fun n' hn' m hm hends => ?_, fun n' hn' => ?_, fun hnone => ?_⟩
              · rw [hlen] at hn'
                cases hn'
                rw [hr] at hm
                cases hm
                have hes : h.endStream = true := hends
                by_cases hn : n = 0
                · exact .inl (hsum'.trans hn.symm)
                · exact .inr ⟨hhead, h, rfl, hes, hw ⟨hes, hn⟩⟩
              · rw [hlen] at hn'
                cases hn'
                rw [hr, hsum']
                constructor
                · intro h'
                  cases h'
                · rintro ⟨-, hlt | ⟨hlt, hne | ⟨hes, h304⟩⟩⟩
                  · exact absurd hlt (Nat.not_lt_zero n)
                  · exact absurd hhead hne
                  · exact absurd (hw ⟨hes, Nat.ne_of_gt hlt⟩) h304
              · rw [hlen] at hnone
                cases hnone

/-- A frame before the head of the message has come, or the head. -/
theorem verdict_idle (hstart : (c.objs o).contentLength = .omitted)
    (hrecv : (c.objs o).recv = .idle) (hadm : c.Admits o f) (hhead : messageHead fs = none)
    (hsum : contentOctets fs = 0) (hend : fs.any Delivery.endStream = false) :
    Verdict c o fs f := by
  have hnone : f.head = none → messageLength (fs ++ [f]) = none := by
    intro hf
    unfold messageLength
    rw [messageHead_snoc, hhead, hf]
    rfl
  cases f with
  | data d =>
      refine .of_none (hnone rfl) ?_
      rw [deliver_early hrecv hadm]
      exact nofun
  | headers h =>
      by_cases hpass : (c.objs o).remote = true ∨ responseError h = none
      · cases hi : h.interim with
        | false =>
            exact verdict_head hstart hhead hsum hend hpass hi (recvHeaders_head hrecv hpass hi)
        | true =>
            have hr := interim_local hrecv hadm hi
            rw [hr] at hpass
            have heq : c.deliver o (.headers h) =
              (.ok (some (.headers h.pseudo h.fields false)), c) :=
                recvHeaders_interim hrecv hr (hpass.resolve_left Bool.false_ne_true) hi
            refine .of_none (hnone (if_pos hi)) ?_
            rw [heq]
            exact nofun
      · rw [not_or] at hpass
        have hr : (c.objs o).remote = false := Bool.not_eq_true _ ▸ hpass.1
        cases he : responseError h with
        | none => exact absurd he hpass.2
        | some e =>
            have heq : c.deliver o (.headers h) = (.error e, c) := recvHeaders_malformed hrecv hr he
            refine .of_error (by rw [heq]) (StreamError.ne_wrong (responseError_ofLength he))
              fun hj => ?_
            have hnone := hj.2 h rfl hhead hr
            rw [he] at hnone
            cases hnone

/-- When a payload has the wrong length. -/
theorem countPayload_remaining_error (rem len : Nat) (eof : Bool) :
    (∃ cl, countPayload (.remaining rem) len eof = (.error .wrongPayloadLength, cl)) ↔
      rem < len ∨ len < rem ∧ eof = true := by
  unfold countPayload
  dsimp only
  by_cases hle : len ≤ rem
  · rw [if_pos hle]
    by_cases heof : eof = true ∧ len < rem
    · have hne : (rem - len != 0) = true := bne_iff_ne.mpr (by omega)
      rw [heof.1, hne]
      exact ⟨fun _ => .inr ⟨heof.2, rfl⟩, fun _ => ⟨_, rfl⟩⟩
    · have hand : (eof && (rem - len != 0)) = false := by
        cases eof with
        | false => rfl
        | true =>
            have hnot : ¬len < rem := fun h => heof ⟨rfl, h⟩
            have hz : rem - len = 0 := by omega
            rw [hz]
            rfl
      rw [hand, if_neg Bool.false_ne_true]
      constructor
      · rintro ⟨cl, h⟩
        cases (Prod.mk.inj h).1
      · rintro (h | h)
        · omega
        · exact absurd ⟨h.2, h.1⟩ heof
  · rw [if_neg hle]
    exact ⟨fun _ => .inl (Nat.lt_of_not_le hle), fun _ => ⟨_, rfl⟩⟩

/-- A header list after the head of a message of known length. -/
theorem verdict_trailers {h h0 : Headers} {total : Nat} (hrecv : (c.objs o).recv = .payload)
    (hhead : messageHead fs = some h0) (hj : c.Judged o fs (.headers h))
    (hlen : messageLength (fs ++ [.headers h]) = some total) (hle : contentOctets fs ≤ total)
    (hcl : (c.objs o).contentLength = .remaining (total - contentOctets fs)) :
    Verdict c o fs (.headers h) := by
  have hsum : contentOctets (fs ++ [.headers h]) = contentOctets fs :=
    contentOctets_snoc fs (.headers h)
  have hafter : EndsContent fs (.headers h) := .inl (by rw [hhead]; exact nofun)
  have hcase : total - contentOctets fs = 0 ∨ 0 < total - contentOctets fs := by omega
  rcases hcase with hz | hpos
  · -- the content is complete
    rw [hz] at hcl
    have hdone : ∀ n, (c.objs o).contentLength = .remaining n → n = 0 := by
      intro n hn
      rw [hcl] at hn
      cases hn
      rfl
    refine .of_some hlen hj (fun _ _ _ => by omega) ?_
    rw [deliver_trailers hrecv, hsum]
    have hnot : ¬(total < contentOctets fs ∨
        contentOctets fs < total ∧ EndsContent fs (.headers h)) := by omega
    rcases recvTrailers_cases (h := h) hdone with ⟨-, hr, -⟩ | ⟨e, hr, he⟩
    · rw [hr]
      exact ⟨nofun, fun h => absurd h hnot⟩
    · rw [hr]
      exact ⟨fun h => absurd (Except.error.inj h) (StreamError.ne_wrong he), fun h => absurd h hnot⟩
  · obtain ⟨k, hk⟩ : ∃ k, total - contentOctets fs = k + 1 := ⟨_, (Nat.sub_one_add_one
      (Nat.ne_of_gt hpos)).symm⟩
    rw [hk] at hcl
    have hr : (c.deliver o (.headers h)).1 = .error .wrongPayloadLength := by
      rw [deliver_trailers hrecv, recvTrailers_short hcl]
    refine .of_some hlen hj (fun m hm => ?_) ?_
    · rw [hr] at hm
      cases hm
    · rw [hr, hsum]
      exact ⟨fun _ => .inr ⟨by omega, hafter⟩, fun _ => rfl⟩

/-- A payload of a message of known length. -/
theorem verdict_content {d : Data} {total : Nat} (hrecv : (c.objs o).recv = .payload)
    (hadm : c.Admits o (.data d)) (hj : c.Judged o fs (.data d))
    (hlen : messageLength (fs ++ [.data d]) = some total) (hle : contentOctets fs ≤ total)
    (hcl : (c.objs o).contentLength = .remaining (total - contentOctets fs)) :
    Verdict c o fs (.data d) := by
  have hsum : contentOctets (fs ++ [.data d]) = contentOctets fs + d.payload.length :=
    contentOctets_snoc fs (.data d)
  obtain ⟨c1, i, hs, heq⟩ := recvData_counted hadm
  have heq' : c.deliver o (.data d) = c1.recvPayload o d i := heq
  have hrecv1 : (c1.objs o).recv = .payload := hs.recv.trans hrecv
  have hcl1 : (c1.objs o).contentLength = .remaining (total - contentOctets fs) :=
    hs.contentLength.trans hcl
  have hiff := countPayload_remaining_error (total - contentOctets fs) d.payload.length
    d.endStream
  have hends : EndsContent fs (.data d) ↔ d.endStream = true := Iff.rfl
  have hover : total < contentOctets fs + d.payload.length ↔
      total - contentOctets fs < d.payload.length := by omega
  have hunder : contentOctets fs + d.payload.length < total ↔
      d.payload.length < total - contentOctets fs := by omega
  rw [← hcl1] at hiff
  cases hct : countPayload (c1.objs o).contentLength d.payload.length d.endStream with
  | mk res cl' =>
      rw [hct] at hiff
      cases res with
      | ok u =>
          have hr := (recvPayload_ok (i := i) hrecv1 hct).1
          have hnot : ¬(total - contentOctets fs < d.payload.length ∨
              d.payload.length < total - contentOctets fs ∧ d.endStream = true) := by
            intro h
            obtain ⟨cl, h⟩ := hiff.mpr h
            cases (Prod.mk.inj h).1
          refine .of_some hlen hj (fun m hm hm' => ?_) ?_
          · rw [heq', hr] at hm
            cases hm
            cases hes : d.endStream with
            | true =>
                have h1 : ¬total - contentOctets fs < d.payload.length :=
                  fun h => hnot (.inl h)
                have h2 : ¬d.payload.length < total - contentOctets fs :=
                  fun h => hnot (.inr ⟨h, hes⟩)
                omega
            | false =>
                rw [hes] at hm'
                cases hm'
          · rw [heq', hr, hsum, hends, hover, hunder]
            exact ⟨nofun, fun h => absurd h hnot⟩
      | error e =>
          have hr := recvPayload_error (i := i) hrecv1 hct
          have he : e = .wrongPayloadLength := by
            rw [hcl1] at hct
            unfold countPayload at hct
            dsimp only at hct
            split at hct
            · have h1 := (Prod.mk.inj hct).1
              split at h1
              · exact (Except.error.inj h1).symm
              · cases h1
            · exact (Except.error.inj (Prod.mk.inj hct).1).symm
          rw [he] at hr hiff
          have hyes := hiff.mp ⟨cl', rfl⟩
          refine .of_some hlen hj (fun m hm => ?_) ?_
          · rw [heq', hr] at hm
            cases hm
          · rw [heq', hr, hsum, hends, hover, hunder]
            exact ⟨fun _ => hyes, fun _ => rfl⟩

/-- A frame after the head of the message. -/
theorem verdict_payload {h0 : Headers} (hrecv : (c.objs o).recv = .payload)
    (hadm : c.Admits o f) (hhead : messageHead fs = some h0)
    (hend : fs.any Delivery.endStream = false)
    (hcount : Counts .omitted h0 (contentOctets fs) (c.objs o).contentLength) :
    Verdict c o fs f := by
  have hhead' : messageHead (fs ++ [f]) = some h0 := by
    rw [messageHead_snoc, hhead]
    rfl
  have hlen := messageLength_of_head hhead'
  have hj : c.Judged o fs f := by
    refine ⟨hend, fun h _ hnone _ => ?_⟩
    rw [hhead] at hnone
    cases hnone
  generalize hcl : (c.objs o).contentLength = cl at hcount
  cases hcount with
  | head hs => cases hs
  | omitted _ hget =>
      rw [hget] at hlen
      refine .of_none hlen ?_
      cases f with
      | headers h =>
          rw [deliver_trailers hrecv]
          rcases recvTrailers_cases (c := c) (o := o) (h := h)
            (fun n hn => (by rw [hcl] at hn; cases hn)) with ⟨-, hr, -⟩ | ⟨e, hr, he⟩
          · rw [hr]
            exact nofun
          · rw [hr]
            exact fun h => StreamError.ne_wrong he (Except.error.inj h)
      | data d =>
          obtain ⟨c1, i, hs, heq⟩ := recvData_counted hadm
          have heq' : c.deliver o (.data d) = c1.recvPayload o d i := heq
          rw [heq', (recvPayload_ok (l := .omitted) (hs.recv.trans hrecv)
            (by rw [hs.contentLength, hcl]; rfl)).1]
          exact nofun
  | @remaining v total _ hget hparse hle =>
      have hlen' : messageLength (fs ++ [f]) = some total := by
        rw [hlen, hget]
        exact hparse
      cases f with
      | headers h => exact verdict_trailers hrecv hhead hj hlen' hle hcl
      | data d => exact verdict_content hrecv hadm hj hlen' hle hcl

/-- A frame at any time. -/
theorem verdict_of_phase
    (hph : Phase .omitted fs (c.objs o).contentLength (c.objs o).recv) (hadm : c.Admits o f) :
    Verdict c o fs f := by
  generalize hcl : (c.objs o).contentLength = cl at hph
  generalize hrecv : (c.objs o).recv = recv at hph
  cases hph with
  | idle hhead hsum hend => exact verdict_idle hcl hrecv hadm hhead hsum hend
  | payload hhead hend hcount =>
      rw [← hcl] at hcount
      exact verdict_payload hrecv hadm hhead hend hcount
  | closed hany =>
      refine .of_error (deliver_closed hrecv hadm) nofun fun hj => ?_
      rw [hj.1] at hany
      cases hany

/-! ## Responses to HEAD -/

/-- How a frame is answered on a stream that is a response to HEAD: no payload is taken, the
content-length has no errors, and no field of a header list makes a difference. -/
structure HeadVerdict (c : Connection) (o : Obj) (f : Delivery) : Prop where
  rejected : ∀ d, f = .data d → d.payload ≠ [] → ∃ e, (c.deliver o f).1 = .error e
  noError : ∀ e, (c.deliver o f).1 = .error e → e.ofLength = false
  ignored : ∀ h fields, f = .headers h →
    (c.deliver o (.headers { h with fields := fields })).2 = (c.deliver o f).2 ∧
      ∀ e, (c.deliver o (.headers { h with fields := fields })).1 = .error e ↔
        (c.deliver o f).1 = .error e

/-- The head of a response to HEAD. -/
theorem recvFirstHeaders_head (hcl : (c.objs o).contentLength = .head) (h : Headers) :
    c.recvFirstHeaders o h = (.ok (some (.headers h.pseudo h.fields h.endStream)),
      if h.endStream then (c.modify o fun s => { s with contentLength := .head }).stateRecvClose o
        none
      else (c.modify o fun s => { s with contentLength := .head }).stateRecvPayload o) := by
  unfold recvFirstHeaders announcedLength
  rw [hcl, if_pos rfl]

theorem recvHeaders_fields {h : Headers} (fields : HeaderMap)
    (hhead : (c.objs o).recv = .idle → (c.objs o).contentLength = .head) :
    (c.streamRecvHeaders o { h with fields := fields }).2 = (c.streamRecvHeaders o h).2 ∧
      ∀ e, (c.streamRecvHeaders o { h with fields := fields }).1 = .error e ↔
        (c.streamRecvHeaders o h).1 = .error e := by
  have hmal : responseError { h with fields := fields } = responseError h := rfl
  unfold streamRecvHeaders
  cases hrecv : (c.objs o).recv with
  | idle =>
      dsimp only
      rw [hmal, recvFirstHeaders_head (hhead hrecv), recvFirstHeaders_head (hhead hrecv)]
      cases (c.objs o).remote with
      | true => exact ⟨rfl, fun e => ⟨nofun, nofun⟩⟩
      | false =>
          rw [if_neg Bool.false_ne_true, if_neg Bool.false_ne_true]
          cases responseError h with
          | some e => exact ⟨rfl, fun e => Iff.rfl⟩
          | none =>
              dsimp only
              split
              · exact ⟨rfl, fun e => ⟨nofun, nofun⟩⟩
              · exact ⟨rfl, fun e => ⟨nofun, nofun⟩⟩
  | payload =>
      dsimp only
      unfold recvTrailers
      split
      · exact ⟨rfl, fun e => Iff.rfl⟩
      · dsimp only
        cases h.pseudo.pseudoName with
        | some name => exact ⟨rfl, fun e => Iff.rfl⟩
        | none =>
            cases h.endStream with
            | true => exact ⟨rfl, fun e => ⟨nofun, nofun⟩⟩
            | false => exact ⟨rfl, fun e => Iff.rfl⟩
  | closed r => exact ⟨rfl, fun e => Iff.rfl⟩

theorem headVerdict_of_phase
    (hph : Phase .head fs (c.objs o).contentLength (c.objs o).recv) (hadm : c.Admits o f) :
    HeadVerdict c o f := by
  have hidle : (c.objs o).recv = .idle → (c.objs o).contentLength = .head := by
    intro hrecv
    rw [hrecv] at hph
    generalize (c.objs o).contentLength = cl at hph
    cases hph with
    | idle _ _ _ => rfl
  have hignored : ∀ h fields, f = .headers h →
      (c.deliver o (.headers { h with fields := fields })).2 = (c.deliver o f).2 ∧
        ∀ e, (c.deliver o (.headers { h with fields := fields })).1 = .error e ↔
          (c.deliver o f).1 = .error e := by
    rintro h fields rfl
    exact recvHeaders_fields fields hidle
  suffices hres : (∀ e, (c.deliver o f).1 = .error e → e.ofLength = false) ∧
      ∀ d, f = .data d → d.payload ≠ [] → ∃ e, (c.deliver o f).1 = .error e from
    ⟨hres.2, hres.1, hignored⟩
  have hfixed : ∀ {e : StreamError}, e.ofLength = false → (c.deliver o f).1 = .error e →
      (∀ e, (c.deliver o f).1 = .error e → e.ofLength = false) ∧
        ∀ d, f = .data d → d.payload ≠ [] → ∃ e, (c.deliver o f).1 = .error e := by
    intro e he hr
    rw [hr]
    refine ⟨fun e' h => ?_, fun _ _ _ => ⟨e, rfl⟩⟩
    cases h
    exact he
  generalize hcl : (c.objs o).contentLength = cl at hph
  generalize hrecv : (c.objs o).recv = recv at hph
  cases hph with
  | closed _ => exact hfixed rfl (deliver_closed hrecv hadm)
  | idle _ _ _ =>
      cases f with
      | data d => exact hfixed rfl (deliver_early hrecv hadm)
      | headers h =>
          refine ⟨fun e he => ?_, nofun⟩
          have he' : (c.streamRecvHeaders o h).1 = .error e := he
          unfold streamRecvHeaders at he'
          rw [hrecv, recvFirstHeaders_head hcl] at he'
          dsimp only at he'
          split at he'
          · cases he'
          · cases hmal : responseError h with
            | some e' =>
                rw [hmal] at he'
                cases he'
                exact responseError_ofLength hmal
            | none =>
                rw [hmal] at he'
                dsimp only at he'
                split at he'
                · cases he'
                · cases he'
  | payload _ _ hcount =>
      cases hcount with
      | omitted hs _ => cases hs
      | remaining hs _ _ _ => cases hs
      | head _ =>
          cases f with
          | headers h =>
              refine ⟨fun e he => ?_, nofun⟩
              rw [deliver_trailers hrecv] at he
              rcases recvTrailers_cases (h := h) (c := c) (o := o)
                (fun n hn => (by rw [hcl] at hn; cases hn)) with ⟨-, hr, -⟩ | ⟨e', hr, he'⟩
              · rw [hr] at he
                cases he
              · rw [hr] at he
                cases he
                exact he'
          | data d =>
              obtain ⟨c1, i, hs, heq⟩ := recvData_counted hadm
              have heq' : c.deliver o (.data d) = c1.recvPayload o d i := heq
              have hrecv1 : (c1.objs o).recv = .payload := hs.recv.trans hrecv
              have hcl1 : (c1.objs o).contentLength = .head := hs.contentLength.trans hcl
              by_cases hnil : d.payload = []
              · rw [heq', (recvPayload_ok (l := .head) hrecv1 (by rw [hcl1, hnil]; rfl)).1]
                refine ⟨nofun, fun d' hd hne => ?_⟩
                cases hd
                exact absurd hnil hne
              · have hlen : (d.payload.length != 0) = true :=
                  bne_iff_ne.mpr (fun h => hnil (List.eq_nil_of_length_eq_zero h))
                refine hfixed (e := .nonEmptyPayload) rfl ?_
                rw [heq', recvPayload_error (l := .head) hrecv1
                  (by rw [hcl1, countPayload, hlen]; rfl)]

/-! ## Messages of any stream -/

/-- A stream of the peer starts without a length. -/
theorem fresh_insertStream (c : Connection) (id : StreamId) (remote : Bool) :
    (c.insertStream id remote).Fresh c.created ∧
      ((c.insertStream id remote).objs c.created).contentLength = .omitted := by
  have hobj : (c.insertStream id remote).objs c.created = c.newStream id remote := if_pos rfl
  unfold Fresh
  rw [hobj]
  exact ⟨⟨rfl, .inl rfl⟩, rfl⟩

theorem stateSendClose_receive (hrecv : (c.objs o).recv = .idle) (r : Option Reason) :
    ((c.stateSendClose o r).objs o).recv = .idle ∧
      ((c.stateSendClose o r).objs o).contentLength = (c.objs o).contentLength := by
  unfold stateSendClose
  rw [reviewState_of_open (by rw [modify_self]; exact congrArg HalfState.isClosed hrecv),
    modify_self]
  exact ⟨hrecv, rfl⟩

/-- The stream of a request expects no content if the method is HEAD. -/
theorem fresh_sendHeaders {h : Headers} (hrecv : (c.objs o).recv = .idle)
    (hcl : (c.objs o).contentLength = .omitted) :
    (c.sendHeaders o h).Fresh o ∧
      (((c.sendHeaders o h).objs o).contentLength = .head ↔
        h.pseudo.method = some (octets "HEAD")) := by
  unfold sendHeaders
  dsimp only
  generalize hc1 : (if h.endStream = true then c.stateSendClose o none
    else c.stateSendPayload o) = c1
  have h1 : (c1.objs o).recv = .idle ∧ (c1.objs o).contentLength = .omitted := by
    rw [← hc1]
    split
    · obtain ⟨h1, h2⟩ := stateSendClose_receive hrecv none
      exact ⟨h1, h2.trans hcl⟩
    · rw [stateSendPayload, modify_self]
      exact ⟨hrecv, hcl⟩
  by_cases hm : h.pseudo.method = some (octets "HEAD")
  · rw [if_pos hm]
    have hobj : ((c1.modify o fun s => { s with contentLength := .head }).encode o .sendHeaders
        (.headers h)).objs o = { c1.objs o with contentLength := .head } :=
      modify_self c1 o fun s => { s with contentLength := .head }
    unfold Fresh
    rw [hobj]
    exact ⟨⟨h1.1, .inr rfl⟩, fun _ => hm, fun _ => rfl⟩
  · rw [if_neg hm]
    have hobj : (c1.encode o .sendHeaders (.headers h)).objs o = c1.objs o := rfl
    unfold Fresh
    rw [hobj, h1.2]
    exact ⟨⟨h1.1, .inl rfl⟩, nofun, fun h => absurd h hm⟩

/-- How a stream starts: it is a new stream of the peer, or the request of a client has been sent
on it; `head` says that this request is HEAD. -/
inductive Opened : Obj → Bool → Connection → Prop
  | peer (c : Connection) (id : StreamId) : Opened c.created false (c.insertStream id true)
  | client (c : Connection) (id : StreamId) (h : Headers) :
      Opened c.created (decide (h.pseudo.method = some (octets "HEAD")))
        ((c.insertStream id false).sendHeaders c.created h)

theorem Opened.fresh {head : Bool} (h : Opened o head c0) :
    c0.Fresh o ∧ (head = false → (c0.objs o).contentLength = .omitted) ∧
      (head = true → (c0.objs o).contentLength = .head) := by
  cases h with
  | peer c id =>
      obtain ⟨hf, hcl⟩ := fresh_insertStream c id true
      exact ⟨hf, fun _ => hcl, nofun⟩
  | client c id h =>
      obtain ⟨hf, hcl⟩ := fresh_insertStream c id false
      obtain ⟨hf', hiff⟩ := fresh_sendHeaders (h := h) hf.1 hcl
      refine ⟨hf', fun hd => ?_, fun hd => hiff.mpr (of_decide_eq_true hd)⟩
      exact hf'.2.resolve_right fun hh => of_decide_eq_false hd (hiff.mp hh)

/-- The content-length of a message is enforced on every stream, for every sequence of frames
and whatever happens between them: `fs` are accepted, and `f` comes next. -/
theorem content_length_enforced {head : Bool} (ho : Opened o head c0) (hacc : Accepts o c0 fs c)
    (hadm : c.Admits o f) :
    (head = false → Verdict c o fs f) ∧ (head = true → HeadVerdict c o f) := by
  obtain ⟨hf, hno, hyes⟩ := ho.fresh
  have hph := phase_of_accepts hf hacc
  refine ⟨fun hd => ?_, fun hd => ?_⟩
  · rw [hno hd] at hph
    exact verdict_of_phase hph hadm
  · rw [hyes hd] at hph
    exact headVerdict_of_phase hph hadm

/-- A request of a client. -/
def someGet : Headers := ⟨1, ⟨some [71], none, none, none, none, none⟩, [], true⟩

/-- A client that has opened a stream. -/
def asked : Connection := (clientStart.init.insertStream 1 false).sendHeaders 0 someGet

/-- A header list that ends the stream and announces five octets, without a status. -/
def noStatus : Headers := ⟨1, .empty, [(octets "content-length", octets "5")], true⟩

/-- A malformed response is not told from its length. -/
theorem wrong_length_not_told :
    ¬∀ (c0 c : Connection) (o : Obj) (fs : List Delivery) (f : Delivery) (n : Nat),
      Opened o false c0 → Accepts o c0 fs c → c.Admits o f →
      messageLength (fs ++ [f]) = some n → contentOctets (fs ++ [f]) < n → EndsContent fs f →
        (c.deliver o f).1 = .error .wrongPayloadLength := by
  intro h
  have hwrong := h asked asked 0 [] (.headers noStatus) 5 (.client clientStart.init 1 someGet)
    (.nil ⟨rfl, rfl⟩) (fun hr => (by cases hr)) (by decide) (by decide) (.inr ⟨rfl, nofun⟩)
  have hmissing : (asked.deliver 0 (.headers noStatus)).1 = .error (.missingPseudo "status") := rfl
  rw [hmissing] at hwrong
  cases hwrong

/-- A server that has a stream of the peer. -/
def heard : Connection := (serverWith 1000 333 thousand_lt threshold_lt).init.insertStream 1 true

/-- A request that announces three octets. -/
def threeOctets : Headers := ⟨1, somePseudo, [(octets "content-length", octets "3")], false⟩

/-- Two octets and five of padding, and the stream ends. -/
theorem content_length_enforced_short :
    ((heard.deliver 0 (.headers threeOctets)).2.deliver 0 (.data ⟨1, [0, 0], 7, true⟩)).1 =
      .error .wrongPayloadLength := by
  have ho : Opened 0 false heard := .peer (serverWith 1000 333 (by decide) (by decide)).init 1
  have hacc : Accepts 0 heard ([] ++ [.headers threeOctets])
      (heard.deliver 0 (.headers threeOctets)).2 :=
    .snoc (.nil ⟨rfl, rfl⟩) (fun _ _ => rfl) rfl ⟨rfl, rfl⟩
  have hadm : (heard.deliver 0 (.headers threeOctets)).2.Admits 0
      (.data ⟨1, [0, 0], 7, true⟩) := by
    show i32 7 ≤ _
    decide
  refine (((content_length_enforced ho hacc hadm).1 rfl).wrong 3 (by decide)).mpr ?_
  exact ⟨⟨by decide, nofun⟩, .inr ⟨by decide, rfl⟩⟩

end Connection

end NtexH2
