/-
  Client/Inbox.lean --- the receiving half of a client's stream (src/client/stream.rs).

  The messages of a stream wait in the storage of the client until its handle is polled.
  A Disconnect is published by a task of its own, which runs at any later time.  The handle
  returns all messages of its stream, each once and in their order; it returns `None` only
  when the stream has ended, and it stays pending only while more is to come.
-/
import NtexH2.Connection.Finished
import NtexH2.Connection.RefinesLocal

set_option autoImplicit false

namespace NtexH2

open Connection (Request RequestPoll Start)

/-! ## Queues -/

/-- The kinds of messages that `Inflight::push` takes for the final one. -/
def Message.isLast : Message → Bool
  | .headers _ _ eof => eof
  | .data _ => false
  | .eofData _ | .trailers _ | .error _ | .disconnect _ => true

/-- `MessageKind::Disconnect`. -/
def Message.isDisconnect : Message → Bool
  | .disconnect _ => true
  | _ => false

/-- The messages of a stream that were not polled: one, or a queue. -/
inductive Response where
  | one (m : Message)
  | many (ms : List Message)
  deriving DecidableEq, Repr

structure Inflight where
  response : Option Response
  /-- The final message is received -/
  last : Bool
  deriving DecidableEq, Repr

namespace Inflight

/-- `Inflight::pop`. -/
def pop (i : Inflight) : Option Message × Inflight :=
  match i.response with
  | none => (none, i)
  | some (.one m) => (some m, { i with response := none })
  | some (.many ms) =>
      (ms.head?, { i with response := if ms.tail.isEmpty then none else some (.many ms.tail) })

/-- `Inflight::push`. -/
def push (i : Inflight) (m : Message) : Inflight where
  last := i.last || m.isLast
  response :=
    match i.response with
    | some (.one m') => some (.many [m', m])
    | some (.many ms) => some (.many (ms ++ [m]))
    | none => some (.one m)

/-- The messages in their order. -/
def queue (i : Inflight) : List Message :=
  match i.response with
  | none => []
  | some (.one m) => [m]
  | some (.many ms) => ms

theorem pop_fst (i : Inflight) : i.pop.1 = i.queue.head? := by
  unfold pop queue
  cases i.response with
  | none => rfl
  | some r => cases r <;> rfl

@[simp] theorem pop_last (i : Inflight) : i.pop.2.last = i.last := by
  unfold pop
  cases i.response with
  | none => rfl
  | some r => cases r <;> rfl

@[simp] theorem pop_queue (i : Inflight) : i.pop.2.queue = i.queue.tail := by
  unfold pop queue
  cases hr : i.response with
  | none =>
      dsimp only
      rw [hr]
      rfl
  | some r =>
      cases r with
      | one m => rfl
      | many ms =>
          dsimp only
          cases htail : ms.tail with
          | nil => rfl
          | cons m ms' => rfl

@[simp] theorem push_last (i : Inflight) (m : Message) :
    (i.push m).last = (i.last || m.isLast) := rfl

@[simp] theorem push_queue (i : Inflight) (m : Message) : (i.push m).queue = i.queue ++ [m] := by
  unfold push queue
  cases i.response with
  | none => rfl
  | some r => cases r <;> rfl

end Inflight

/-! ## The client -/

/-- The result of a poll. -/
inductive RecvPoll where
  | ready (m : Option Message)
  | pending
  deriving DecidableEq, Repr

/-- The message that a poll returns. -/
def RecvPoll.message : RecvPoll → Option Message
  | .ready m => m
  | .pending => none

/-- The connection of a client with its storage, the handles that have not been dropped, and the
messages of tasks that have not run. -/
structure ClientRef where
  con : Connection
  storage : StreamId → Option Inflight
  handles : List Obj
  mail : List (Obj × Message)

namespace ClientRef

/-- A new client; the storage is empty. -/
def new (s : Start) : ClientRef := ⟨s.init, fun _ => none, [], []⟩

/-- The entry of an id. -/
def put (k : ClientRef) (id : StreamId) (i : Inflight) : ClientRef :=
  { k with storage := Function.update k.storage id (some i) }

/-- `HandleService::call`; a message for an unknown stream is ignored. -/
def publish (k : ClientRef) (e : Obj × Message) : ClientRef :=
  match k.storage (k.con.objs e.1).id with
  | some i => k.put (k.con.objs e.1).id (i.push e.2)
  | none => k

/-- The messages of a step: `Dispatcher::handle_connection_error` leaves them to a task. -/
def hand (k : ClientRef) (ms : List (Obj × Message)) : ClientRef :=
  ms.foldl (fun k e => if e.2.isDisconnect then { k with mail := k.mail ++ [e] } else k.publish e) k

/-- The stream that a step opens. -/
def opened (c : Connection) : Connection.Step → Option Obj
  | .request r =>
      match (c.request r).1 with
      | .ready (.ok o) => o
      | _ => none
  | .pollRequest w r =>
      match (c.pollRequest w r).1 with
      | .ready (.ok o) => o
      | _ => none
  | .reservationSend r =>
      match (c.reservationSend r).1 with
      | .ok o => some o
      | .error _ => none
  | _ => none

/-- `InflightStorage::inflight`, with the handle that it gives. -/
def inflight (k : ClientRef) (o : Obj) : ClientRef :=
  { k.put (k.con.objs o).id ⟨none, false⟩ with
    con := k.con.inflight o
    handles := o :: k.handles }

/-- A step of the connection. -/
def step (k : ClientRef) (a : Connection.Step) : ClientRef :=
  let k' := { k with con := k.con.step a }.hand (k.con.told a)
  match opened k.con a with
  | some o => k'.inflight o
  | none => k'

/-- The steps of the connection that only the storage and the handle make. -/
def Own : Connection.Step → Prop
  | .inflight _ | .takeLocalClose _ | .recvStreamDrop _ => False
  | _ => True

/-- A task publishes its next message. -/
def deliver (k : ClientRef) (i : Nat) : ClientRef :=
  match k.mail[i]? with
  | some e => { k with mail := k.mail.eraseIdx i }.publish e
  | none => k

/-- `RecvStream::local_close`. -/
def localClose (k : ClientRef) (o : Obj) (i : Inflight) : Bool × Inflight × ClientRef :=
  let s := k.con.objs o
  let b := s.recv.isClosed && s.localClose.isSome
  (b, { i with last := b },
    if s.recv.isClosed then { k with con := k.con.takeLocalClose o } else k)

/-- The loop of `RecvStream::poll_recv` over the waiter, whose answers are given. -/
def watch (k : ClientRef) (o : Obj) (i : Inflight) : List Bool → RecvPoll × Inflight × ClientRef
  | true :: ready =>
      match k.localClose o i with
      | (true, i, k) => (.ready none, i, k)
      | (false, i, k) =>
          if (k.con.objs o).recv.isClosed || k.con.ioClosed then (.pending, i, k)
          else watch k o i ready
  | _ => (.pending, i, k)

/-- `RecvStream::poll_recv`. -/
def pollRecv (k : ClientRef) (o : Obj) (ready : List Bool) : RecvPoll × ClientRef :=
  let id := (k.con.objs o).id
  match k.storage id with
  | none => (.ready none, k)
  | some i =>
      match i.pop with
      | (some m, i) => (.ready (some m), k.put id i)
      | (none, i) =>
          if i.last then (.ready none, k.put id i)
          else
            match k.localClose o i with
            | (true, i, k) => (.ready none, k.put id i)
            | (false, i, k) =>
                match k.watch o i ready with
                | (r, i, k) => (r, k.put id i)

/-- `RecvStream::drop`. -/
def recvDrop (k : ClientRef) (o : Obj) : ClientRef where
  con := k.con.recvStreamDrop o
  storage := Function.update k.storage (k.con.objs o).id none
  handles := k.handles.filter (· != o)
  mail := k.mail

/-- The streams that a shutdown of the dispatcher ends. -/
def quits (c : Connection) : Connection.Step → List Obj
  | .shutdown => c.values
  | _ => []

/-- The runs of a client: what was published or left to a task, what the handles have returned, and
the streams that a shutdown has ended. -/
inductive Runs (s : Start) :
    ClientRef → List (Obj × Message) → List (Obj × Message) → List Obj → Prop where
  | new : Runs s (.new s) [] [] []
  | step {k : ClientRef} {ms gs : List (Obj × Message)} {qs : List Obj} (a : Connection.Step) :
      Runs s k ms gs qs → k.con.Enabled a → Own a →
        Runs s (k.step a) (ms ++ k.con.told a) gs (qs ++ quits k.con a)
  | deliver {k : ClientRef} {ms gs : List (Obj × Message)} {qs : List Obj} (i : Nat) :
      Runs s k ms gs qs → Runs s (k.deliver i) ms gs qs
  | poll {k : ClientRef} {ms gs : List (Obj × Message)} {qs : List Obj} (o : Obj)
      (ready : List Bool) : Runs s k ms gs qs → o ∈ k.handles →
        Runs s (k.pollRecv o ready).2 ms
          (gs ++ (k.pollRecv o ready).1.message.toList.map fun m => (o, m)) qs
  | drop {k : ClientRef} {ms gs : List (Obj × Message)} {qs : List Obj} (o : Obj) :
      Runs s k ms gs qs → o ∈ k.handles → Runs s (k.recvDrop o) ms gs qs

/-! ## Polls -/

variable {k k' : ClientRef} {o : Obj} {i : Inflight} {ms gs new : List (Obj × Message)}
  {us qs : List Obj}

theorem modify_same {c : Connection} {f : Stream → Stream} (h : f (c.objs o) = c.objs o) :
    c.modify o f = c := by
  have hobjs : (fun p => if p = o then f (c.objs p) else c.objs p) = c.objs := by
    funext p
    by_cases hp : p = o
    · rw [if_pos hp, hp, h]
    · exact if_neg hp
  unfold Connection.modify
  rw [hobjs]

theorem takeLocalClose_none {c : Connection} (h : (c.objs o).localClose = none) :
    c.takeLocalClose o = c := by
  refine modify_same ?_
  rw [← h]

/-- The receive half is open, or no error waits. -/
def Waits (c : Connection) (o : Obj) : Prop :=
  (c.objs o).recv.isClosed = true → (c.objs o).localClose = none

theorem localClose_waits (h : Waits k.con o) :
    k.localClose o i = (false, { i with last := false }, k) := by
  unfold localClose
  dsimp only
  cases hcl : (k.con.objs o).recv.isClosed with
  | false => rfl
  | true =>
      rw [takeLocalClose_none (h hcl), h hcl]
      rfl

theorem localClose_taken (hcl : (k.con.objs o).recv.isClosed = true)
    (hne : (k.con.objs o).localClose ≠ none) : k.localClose o i =
      (true, { i with last := true }, { k with con := k.con.takeLocalClose o }) := by
  have hsome : (k.con.objs o).localClose.isSome = true := Option.isSome_iff_ne_none.mpr hne
  unfold localClose
  dsimp only
  rw [hcl, hsome]
  rfl

/-- Nothing comes of the waiter: no error is left once the first look has found none. -/
theorem watch_waits (h : Waits k.con o) (hl : i.last = false) (ready : List Bool) :
    k.watch o i ready = (.pending, i, k) := by
  have hi : ({ i with last := false } : Inflight) = i := by rw [← hl]
  induction ready with
  | nil => rfl
  | cons b ready ih =>
      cases b with
      | false => rfl
      | true =>
          unfold watch
          rw [localClose_waits h, hi]
          dsimp only
          split
          · rfl
          · exact ih

/-- What a poll does. -/
inductive Polled (k : ClientRef) (o : Obj) (i : Inflight) : RecvPoll × ClientRef → Prop where
  | message {m : Message} {i' : Inflight} (hq : i.queue = m :: i'.queue) (hl : i'.last = i.last) :
      Polled k o i (.ready (some m), k.put (k.con.objs o).id i')
  | ended {i' : Inflight} (hq : i.queue = []) (hq' : i'.queue = []) (hl : i.last = true)
      (hl' : i'.last = true) : Polled k o i (.ready none, k.put (k.con.objs o).id i')
  | reset {i' : Inflight} (hq : i.queue = []) (hq' : i'.queue = []) (hl' : i'.last = true)
      (hcl : (k.con.objs o).recv.isClosed = true) : Polled k o i (.ready none,
        ({ k with con := k.con.takeLocalClose o } : ClientRef).put (k.con.objs o).id i')
  | waits {i' : Inflight} (hq : i.queue = []) (hq' : i'.queue = []) (hl : i.last = false)
      (hl' : i'.last = false) (hw : Waits k.con o) :
      Polled k o i (.pending, k.put (k.con.objs o).id i')

theorem polled (hi : k.storage (k.con.objs o).id = some i) (ready : List Bool) :
    Polled k o i (k.pollRecv o ready) := by
  have hfst := i.pop_fst
  have hlast := i.pop_last
  have hqueue := i.pop_queue
  unfold pollRecv
  dsimp only
  rw [hi]
  dsimp only
  cases hp : i.pop with
  | mk m i1 =>
      rw [hp] at hfst hlast hqueue
      dsimp only at hfst hlast hqueue
      cases m with
      | some m =>
          obtain ⟨q, hq⟩ := List.head?_eq_some_iff.mp hfst.symm
          rw [hq, List.tail_cons] at hqueue
          exact .message (by rw [hq, hqueue]) hlast
      | none =>
          have hnil : i.queue = [] := List.head?_eq_none_iff.mp hfst.symm
          rw [hnil, List.tail_nil] at hqueue
          dsimp only
          cases hl : i1.last with
          | true => exact .ended hnil hqueue (hlast.symm.trans hl) hl
          | false =>
              rw [if_neg Bool.false_ne_true]
              by_cases hw : Waits k.con o
              · have hi1 : ({ i1 with last := false } : Inflight) = i1 := by rw [← hl]
                rw [localClose_waits hw, hi1]
                dsimp only
                rw [watch_waits hw hl]
                exact .waits hnil hqueue (hlast.symm.trans hl) hl hw
              · obtain ⟨hcl, hne⟩ := Classical.not_imp.mp hw
                rw [localClose_taken hcl hne]
                exact .reset hnil hqueue rfl hcl

end ClientRef

/-! ## Order -/

/-- Nothing comes after a message that fails. -/
def Ordered (l : List Message) : Prop := ∀ a b, l = a ++ b → (∃ m ∈ a, m.Fails) → b = []

theorem Message.isLast_iff {m : Message} : m.isLast = true ↔ m.endsStream = true ∨ m.Fails := by
  cases m <;> simp [Message.isLast, Message.endsStream, Message.Fails]

theorem Message.isDisconnect_fails {m : Message} (h : m.isDisconnect = true) : m.Fails := by
  cases m with
  | disconnect e => trivial
  | _ => cases h

/-- A Disconnect is the last message, so it may be late. -/
theorem Ordered.split {l : List Message} (h : Ordered l) :
    l.filter (fun m => !m.isDisconnect) ++ l.filter Message.isDisconnect = l := by
  induction l with
  | nil => rfl
  | cons m l ih =>
      have hrest : Ordered l := fun a b hab ⟨x, hx, hf⟩ =>
        h (m :: a) b (by rw [hab]; rfl) ⟨x, List.mem_cons_of_mem m hx, hf⟩
      cases hd : m.isDisconnect with
      | true =>
          have hnil : l = [] :=
            h [m] l rfl ⟨m, List.mem_cons_self, Message.isDisconnect_fails hd⟩
          simp [hnil, hd]
      | false => simpa [hd] using ih hrest

namespace Connection

variable {c : Connection} {o : Obj} {l : List Message}

theorem Speaks.ordered (h : c.Speaks o l) : Ordered l := by
  obtain ⟨content, failure, rfl, hs⟩ := h
  obtain ⟨half, hcontent, -⟩ := hs.content
  rintro a b hab ⟨m, hm, hf⟩
  rcases List.append_eq_append_iff.mp hab with ⟨t, rfl, hfail⟩ | ⟨t, hcont, rfl⟩
  · cases t with
    | nil =>
        rw [List.append_nil] at hm
        exact absurd hf (hcontent.all m hm)
    | cons x t =>
        have hlen := hs.once
        rw [hfail] at hlen
        simp only [List.cons_append, List.length_cons, List.length_append] at hlen
        exact List.length_eq_zero_iff.mp (by omega)
  · rw [hcont] at hcontent
    exact absurd hf (hcontent.all m (List.mem_append_left t hm))

/-- A stream that has heard its last message is closed. -/
theorem Speaks.closed (h : c.Speaks o l) {m : Message} (hm : m ∈ l) (hl : m.isLast = true) :
    (c.objs o).recv.isClosed = true := by
  obtain ⟨content, failure, rfl, hs⟩ := h
  obtain ⟨half, hcontent, hhalf⟩ := hs.content
  rcases List.mem_append.mp hm with hm | hm
  · have hend : m.endsStream = true :=
      (Message.isLast_iff.mp hl).resolve_right (hcontent.all m hm)
    have hclosed : half = .closed := by
      by_contra hne
      rw [hcontent.ends.1 hne m hm] at hend
      cases hend
    rcases hhalf with heq | hcl
    · exact HalfState.half_closed.mp (heq.trans hclosed)
    · exact hcl
  · exact (hs.gone (List.ne_nil_of_mem hm)).1

end Connection

namespace ClientRef

variable {k k' : ClientRef} {o : Obj} {i : Inflight} {ms gs new : List (Obj × Message)}
  {us qs : List Obj}

/-! ## The storage -/

theorem addressed_cons (e : Obj × Message) (new : List (Obj × Message)) :
    addressed o (e :: new) = addressed o [e] ++ addressed o new := addressed_append o [e] new

/-- The messages of a step that are published at once. -/
def direct (o : Obj) (new : List (Obj × Message)) : List Message :=
  (addressed o new).filter fun m => !m.isDisconnect

/-- The messages of a step that are left to a task. -/
def late (new : List (Obj × Message)) : List (Obj × Message) := new.filter (·.2.isDisconnect)

theorem addressed_late (o : Obj) (new : List (Obj × Message)) :
    addressed o (late new) = (addressed o new).filter Message.isDisconnect := by
  unfold addressed late
  rw [List.filter_map, List.filter_filter, List.filter_filter]
  congr 2
  funext e
  exact Bool.and_comm _ _

theorem publish_con (e : Obj × Message) : (k.publish e).con = k.con ∧
    (k.publish e).handles = k.handles ∧ (k.publish e).mail = k.mail := by
  unfold publish
  cases k.storage (k.con.objs e.1).id <;> exact ⟨rfl, rfl, rfl⟩

/-- A message of the stream goes to its entry. -/
theorem publish_self {m : Message} (hi : k.storage (k.con.objs o).id = some i) :
    (k.publish (o, m)).storage (k.con.objs o).id = some (i.push m) := by
  unfold publish
  dsimp only
  rw [hi]
  exact Function.update_self ..

/-- A message of another stream does not. -/
theorem publish_other {e : Obj × Message} (hid : (k.con.objs e.1).id ≠ (k.con.objs o).id) :
    (k.publish e).storage (k.con.objs o).id = k.storage (k.con.objs o).id := by
  unfold publish
  cases k.storage (k.con.objs e.1).id with
  | none => rfl
  | some j => exact Function.update_of_ne (Ne.symm hid) ..

/-- The entry of a stream after some messages. -/
structure Pushed (i i' : Inflight) (l : List Message) : Prop where
  queue : i'.queue = i.queue ++ l
  last : i'.last = true ↔ i.last = true ∨ ∃ m ∈ l, m.isLast = true

theorem Pushed.refl (i : Inflight) : Pushed i i [] := by
  refine ⟨(List.append_nil _).symm, .inl, ?_⟩
  rintro (h | ⟨m, hm, -⟩)
  · exact h
  · exact absurd hm List.not_mem_nil

theorem Pushed.push {i' : Inflight} {l : List Message} {m : Message}
    (h : Pushed (i.push m) i' l) : Pushed i i' (m :: l) := by
  refine ⟨?_, ?_⟩
  · rw [h.queue, Inflight.push_queue, List.append_assoc]
    rfl
  · rw [h.last, Inflight.push_last, Bool.or_eq_true, or_assoc]
    simp

theorem hand_con (new : List (Obj × Message)) : ∀ k : ClientRef, (k.hand new).con = k.con ∧
    (k.hand new).handles = k.handles ∧ (k.hand new).mail = k.mail ++ late new := by
  induction new with
  | nil => exact fun k => ⟨rfl, rfl, (List.append_nil _).symm⟩
  | cons e new ih =>
      intro k
      obtain ⟨h1, h2, h3⟩ := ih (if e.2.isDisconnect then { k with mail := k.mail ++ [e] }
        else k.publish e)
      refine ⟨h1.trans ?_, h2.trans ?_, h3.trans ?_⟩
      · split
        · rfl
        · exact (publish_con e).1
      · split
        · rfl
        · exact (publish_con e).2.1
      · cases hd : e.2.isDisconnect with
        | true => simp [late, hd]
        | false => simp [late, hd, (publish_con (k := k) e).2.2]

theorem hand_entry (new : List (Obj × Message)) : ∀ {k : ClientRef} {i : Inflight},
    (∀ e ∈ new, (k.con.objs e.1).id = (k.con.objs o).id → e.1 = o) →
      k.storage (k.con.objs o).id = some i →
        ∃ i', (k.hand new).storage (k.con.objs o).id = some i' ∧ Pushed i i' (direct o new) := by
  induction new with
  | nil => exact fun _ hi => ⟨_, hi, .refl _⟩
  | cons e new ih =>
      intro k i hinj hi
      have hrest : ∀ e ∈ new, (k.con.objs e.1).id = (k.con.objs o).id → e.1 = o :=
        fun e he => hinj e (List.mem_cons_of_mem _ he)
      obtain ⟨p, m⟩ := e
      have hcons : direct o ((p, m) :: new) =
          (addressed o [(p, m)]).filter (fun m => !m.isDisconnect) ++ direct o new := by
        unfold direct
        rw [addressed_cons, List.filter_append]
      rw [hcons]
      cases hd : m.isDisconnect with
      | true =>
          have hnil : (addressed o [(p, m)]).filter (fun m => !m.isDisconnect) = [] := by
            by_cases hpo : p = o
            · subst hpo
              simp [hd]
            · rw [addressed_other hpo]
              rfl
          obtain ⟨i', hi', hp⟩ := ih (k := { k with mail := k.mail ++ [(p, m)] }) hrest hi
          refine ⟨i', ?_, hnil ▸ hp⟩
          unfold hand at hi' ⊢
          rw [List.foldl_cons, hd, if_pos rfl]
          exact hi'
      | false =>
          have hfold : (k.hand ((p, m) :: new)) = (k.publish (p, m)).hand new := by
            unfold hand
            rw [List.foldl_cons, hd, if_neg Bool.false_ne_true]
          have hcon : (k.publish (p, m)).con = k.con := (publish_con _).1
          rw [hfold]
          by_cases hpo : p = o
          · subst hpo
            have hone : (addressed p [(p, m)]).filter (fun m => !m.isDisconnect) = [m] := by
              simp [hd]
            obtain ⟨i', hi', hp⟩ := ih (k := k.publish (p, m)) (by rw [hcon]; exact hrest)
              (by rw [hcon]; exact publish_self hi)
            rw [hcon] at hi'
            rw [hone]
            exact ⟨i', hi', hp.push⟩
          · have hid : (k.con.objs p).id ≠ (k.con.objs o).id :=
              fun heq => hpo (hinj (p, m) List.mem_cons_self heq)
            obtain ⟨i', hi', hp⟩ := ih (k := k.publish (p, m)) (by rw [hcon]; exact hrest)
              (by rw [hcon]; exact (publish_other hid).trans hi)
            rw [hcon] at hi'
            rw [addressed_other hpo]
            exact ⟨i', hi', hp⟩

end ClientRef

end NtexH2
