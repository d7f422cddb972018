/-
  Network/KeepAlive.lean --- the keep-alive tasks of two ends.

  Each end may run the task.  A PING is on its way until it arrives, and its ack from then on;
  there is one, on the way or lost behind the close of an io, exactly when the task waits
  for it.  So while both ios are open a task times out only when the peer, or what it wrote,
  is late, and never because an ack was lost or mistaken.
-/
import NtexH2.Network.Agreement
import NtexH2.Connection.KeepAlive

set_option autoImplicit false

namespace NtexH2

/-! ## PINGs among frames -/

/-- The payload of a PING, or of an ack of one. -/
def Frame.pingOf (ack : Bool) : Frame → Option Bytes
  | .ping a payload => if a = ack then some payload else none
  | _ => none

/-- The payloads of the PINGs, or of their acks. -/
def carried (ack : Bool) (fs : List Frame) : List Bytes := fs.filterMap (Frame.pingOf ack)

theorem carried_append (ack : Bool) (fs gs : List Frame) :
    carried ack (fs ++ gs) = carried ack fs ++ carried ack gs :=
  List.filterMap_append

/-- The codec changes no PING. -/
theorem Frame.ReadAs.carried {f g : Frame} (h : f.ReadAs g) (ack : Bool) :
    carried ack [f] = carried ack [g] := by
  cases h <;> rfl

theorem carried_pinged (ack : Bool) (es : List Event) :
    carried ack (outbox (es.filter Event.pinged)) = carried ack (outbox es) := by
  induction es with
  | nil => rfl
  | cons e es ih =>
      have hsplit : outbox (e :: es) = outbox es ++ outbox [e] := outbox_append [e] es
      cases he : e.pinged with
      | true =>
          have hsplit' := outbox_append [e] (es.filter Event.pinged)
          rw [List.filter_cons_of_pos he]
          change carried ack (outbox ([e] ++ es.filter Event.pinged)) = _
          rw [hsplit', hsplit, carried_append, carried_append, ih]
      | false =>
          have hnone : carried ack (outbox [e]) = [] := by
            cases e with
            | sent obj w f =>
                cases f with
                | ping a payload => cases he
                | _ => rfl
            | _ => rfl
          rw [List.filter_cons_of_neg (by rw [he]; exact Bool.false_ne_true), ih, hsplit,
            carried_append, hnone, List.append_nil]

namespace Net

/-- The PINGs of an end that have been written and not read, as themselves or as acks. -/
def unread (n : Net) (p : Party) : List Bytes :=
  carried true (n.way p) ++ carried false (n.way p.peer)

/-- The PINGs of an end that are on the way, as themselves or as acks; those that arrive first
come first. -/
def outstanding (n : Net) (p : Party) : List Bytes :=
  carried true (n.arriving p) ++ carried false (n.arriving p.peer)

/-- The PINGs of an end that are lost behind the close of an io, as themselves or as acks. -/
def gone (n : Net) (p : Party) : List Bytes :=
  carried true (n.lost p) ++ carried false (n.lost p.peer)

/-- What is not read is on the way, or lost. -/
theorem unread_perm {s : Setup} {n : Net} (h : Joined s n) (p : Party) :
    (n.unread p).Perm (n.outstanding p ++ n.gone p) := by
  unfold unread outstanding gone
  rw [h.way p, h.way p.peer, carried_append, carried_append, List.append_assoc, List.append_assoc]
  refine List.Perm.append_left _ ?_
  rw [← List.append_assoc, ← List.append_assoc]
  exact List.Perm.append_right _ List.perm_append_comm

/-- Nothing is lost while both ios are open. -/
theorem gone_open {n : Net} {p : Party} (h : .close ∉ (n.ends p).log)
    (hpeer : .close ∉ (n.ends p.peer).log) : n.gone p = [] := by
  have h1 : n.lost p = [] := dropped_open hpeer
  have h2 : n.lost p.peer = [] := by
    unfold lost
    rw [Party.peer_peer]
    exact dropped_open h
  unfold gone
  rw [h1, h2]
  rfl

/-- The PINGs among the new frames are those of the history. -/
theorem carried_newFrames {c c' : Connection} {es sent : List Event} (hlog : c'.log = es ++ c.log)
    (hp : c'.pings = sent ++ c.pings) (ack : Bool) :
    carried ack (newFrames c c') = carried ack (outbox sent) := by
  have hfilter : es.filter Event.pinged = sent := by
    have hp' : c'.log.filter Event.pinged = sent ++ c.log.filter Event.pinged := hp
    rw [hlog] at hp'
    exact filter_append_cancel hp'
  have hnew : newFrames c c' = outbox es := by
    unfold newFrames
    rw [hlog, outbox_append, List.drop_left]
  rw [hnew, ← hfilter, carried_pinged]

end Net

/-! ## Two ends and their tasks -/

/-- Two ends that are joined, and the keep-alive task of each. -/
structure Watched where
  net : Net
  tasks : Party → PingTask

namespace Watched

/-- What happens next: a task starts, a task wakes up, or another move of the two ends. -/
inductive Input where
  | start (p : Party)
  | wake (p : Party)
  | other (m : Move)

def new (s : Setup) : Watched := ⟨Net.new s, fun _ => {}⟩

/-- The task of an end. -/
def setTask (w : Watched) (p : Party) (t : PingTask) : Watched :=
  { w with tasks := Function.update w.tasks p t }

def step (w : Watched) : Input → Watched
  | .start p => w.setTask p ((w.tasks p).start (w.net.ends p).ioClosed)
  | .wake p =>
      match (w.tasks p).wake (w.net.ends p).ioClosed with
      | (t, some payload) => { w with net := w.net.move (.act p (.ping payload)) }.setTask p t
      | (t, none) => w.setTask p t
  | .other (.act p a) => { w with net := w.net.move (.act p a) }
  | .other (.deliver p f) => { w with net := w.net.move (.deliver p f) }.setTask p
      ((w.tasks p).hear (w.net.ends p) f)

/-- Only the tasks write PINGs. -/
def Possible (w : Watched) : Input → Prop
  | .start p => (w.tasks p).phase = .new
  | .wake p => (w.tasks p).phase = .sleeping
  | .other m => w.net.Possible m ∧ ∀ p payload, m ≠ .act p (.ping payload)

/-- The states of all runs. -/
inductive Reachable (s : Setup) : Watched → Prop where
  | new : Reachable s (Watched.new s)
  | step {w : Watched} (i : Input) : Reachable s w → w.Possible i → Reachable s (w.step i)

/-! ## What is not read -/

/-- The PINGs that are not read are those that the tasks wait for. -/
structure Sound (s : Setup) (w : Watched) : Prop where
  run : Net.Reachable s w.net
  fresh : ∀ p, (w.tasks p).phase = .new → w.net.unread p = []
  flight : ∀ p, (w.tasks p).phase ≠ .new →
    w.net.unread p = (w.tasks p).awaited.toList

variable {s : Setup} {w : Watched} {p : Party}

/-- The task of one end moves on, and what is on the way with it. -/
theorem Sound.update (h : Sound s w) {n : Net} {t : PingTask} (hrun : Net.Reachable s n)
    (hpeer : n.unread p.peer = w.net.unread p.peer)
    (hfresh : t.phase = .new → n.unread p = [])
    (hflight : t.phase ≠ .new → n.unread p = t.awaited.toList) :
    Sound s ({ w with net := n }.setTask p t) := by
  have hself : ({ w with net := n }.setTask p t).tasks p = t := Function.update_self _ _ _
  have hother : ({ w with net := n }.setTask p t).tasks p.peer = w.tasks p.peer :=
    Function.update_of_ne (Party.peer_ne p) _ _
  refine ⟨hrun, fun q hq => ?_, fun q hq => ?_⟩
  · rcases Party.eq_or_peer p q with rfl | rfl
    · rw [hself] at hq
      exact hfresh hq
    · rw [hother] at hq
      exact hpeer.trans (h.fresh _ hq)
  · rcases Party.eq_or_peer p q with rfl | rfl
    · rw [hself] at hq ⊢
      exact hflight hq
    · rw [hother] at hq ⊢
      exact hpeer.trans (h.flight _ hq)

theorem Sound.start (h : Sound s w) (hp : (w.tasks p).phase = .new) :
    Sound s (w.step (.start p)) :=
  h.update h.run rfl (fun _ => h.fresh p hp) fun _ => h.fresh p hp

/-- The frames that an end writes when it moves on its own. -/
theorem unread_advance {n : Net} (hr : Connection.Reachable (s.start p) (n.ends p))
    {a : Connection.Step} (ha : (n.ends p).Enabled a) {sent : List Event}
    (hp : ((n.ends p).step a).pings = sent ++ (n.ends p).pings) :
    (n.advance p a).unread p = n.unread p ++ carried false (outbox sent) ∧
      (n.advance p a).unread p.peer =
        carried true (n.way p.peer) ++ carried true (outbox sent) ++ carried false (n.way p) := by
  obtain ⟨es, hlog⟩ := Connection.log_step hr ha
  unfold Net.unread
  rw [Party.peer_peer, Net.advance_way, Net.advance_way_peer, carried_append, carried_append,
    Net.carried_newFrames hlog hp, Net.carried_newFrames hlog hp, List.append_assoc]
  exact ⟨rfl, rfl⟩

theorem Sound.act (h : Sound s w) {a : Connection.Step}
    (hm : w.net.Possible (.act p a)) (hping : ∀ payload, a ≠ .ping payload) :
    Sound s (w.step (.other (.act p a))) := by
  have hj := h.run.joined
  obtain ⟨err, hre⟩ := Connection.reacts_local (c := w.net.ends p) hm.1 hping
  obtain ⟨h1, h2⟩ := unread_advance (hj.reach p) hm.2 hre.pings
  have hout : ∀ q, (w.net.advance p a).unread q = w.net.unread q := by
    intro q
    rcases Party.eq_or_peer p q with rfl | rfl
    · exact h1.trans (List.append_nil _)
    · refine h2.trans ?_
      unfold Net.unread
      rw [Party.peer_peer]
      exact congrArg (· ++ _) (List.append_nil _)
  refine ⟨h.run.move _ hm, fun q hq => ?_, fun q hq => ?_⟩
  · exact (hout q).trans (h.fresh q hq)
  · exact (hout q).trans (h.flight q hq)

/-- A PING is written only when none is unread. -/
theorem Sound.wake (h : Sound s w) (hp : (w.tasks p).phase = .sleeping) :
    Sound s (w.step (.wake p)) := by
  have hold : (w.tasks p).phase ≠ .new := by
    rw [hp]
    decide
  have hflight := h.flight p hold
  have hstay : ∀ t : PingTask, t.awaited = (w.tasks p).awaited → t.phase ≠ .new →
      Sound s (w.setTask p t) := fun t ht hn =>
    h.update h.run rfl (fun hq => absurd hq hn) fun _ => by rw [ht, hflight]
  unfold Watched.step PingTask.wake
  dsimp only
  split
  · next t payload heq =>
      split at heq
      · cases heq
      · split at heq
        · cases heq
        · next hpong =>
            cases heq
            have hnone : (w.tasks p).awaited = none := by
              unfold PingTask.awaited
              exact if_pos (by simpa using hpong)
            rw [hnone] at hflight
            have hj := h.run.joined
            obtain ⟨h1, h2⟩ := @unread_advance _ _ w.net (hj.reach p) (.ping _) trivial
              [.sent none .connection (.ping false _)] rfl
            refine h.update (h.run.move (.act p (.ping _)) ⟨trivial, trivial⟩) ?_
              (fun hq => absurd hq hold) fun _ => ?_
            · refine h2.trans ?_
              unfold Net.unread
              rw [Party.peer_peer]
              exact congrArg (· ++ _) (List.append_nil _)
            · refine h1.trans ?_
              rw [hflight]
              rfl
  · next t heq =>
      split at heq
      · cases heq
        exact hstay _ rfl (by exact nofun)
      · split at heq
        · cases heq
          exact hstay _ rfl (by exact nofun)
        · cases heq

/-- A PING that arrives is echoed, and nothing else is. -/
theorem carried_echo (f : Frame) {first : Bool} (hfirst : ∀ ack x, f = .ping ack x → first = true) :
    carried false (outbox (if first then Connection.echo f else [])) = [] ∧
      carried true (outbox (if first then Connection.echo f else [])) = carried false [f] := by
  cases f with
  | ping ack payload =>
      rw [if_pos (hfirst ack payload rfl)]
      cases ack with
      | true => exact ⟨rfl, rfl⟩
      | false => exact ⟨rfl, rfl⟩
  | _ =>
      split
      · exact ⟨rfl, rfl⟩
      · exact ⟨rfl, rfl⟩

/-- A PING stays unread when it arrives, now as an ack; an ack does not. -/
theorem unread_deliver {n : Net} (hj : Joined s n) {f g : Frame} {rest : List Frame}
    (hw : n.way p = f :: rest) (hr : f.ReadAs g) (hg : g.Loads)
    (hfirst : ∀ ack x, g = .ping ack x → (n.ends p).checkFirstFrame g = true) :
    n.unread p = carried true [g] ++ (n.move (.deliver p g)).unread p ∧
      (n.move (.deliver p g)).unread p.peer = n.unread p.peer := by
  have hmove : n.move (.deliver p g) =
      { n with way := Function.update n.way p rest }.advance p (.receive g) := by
    unfold Net.move
    dsimp only
    rw [hw]
    rfl
  have hway : ({ n with way := Function.update n.way p rest } : Net).way p = rest :=
    Function.update_self _ _ _
  have hback : ({ n with way := Function.update n.way p rest } : Net).way p.peer = n.way p.peer :=
    Function.update_of_ne (Party.peer_ne p) _ _
  obtain ⟨h1, h2⟩ := unread_advance (s := s) (p := p) (a := .receive g)
    (n := { n with way := Function.update n.way p rest }) (hj.reach p) hg
    (Connection.reacts_receive (n.ends p) g).pings
  obtain ⟨hnone, hecho⟩ := carried_echo g hfirst
  have hcons : ∀ ack, carried ack (n.way p) = carried ack [g] ++ carried ack rest := fun ack => by
    rw [hw, ← hr.carried, ← carried_append]
    rfl
  rw [hmove, h1, h2]
  dsimp only at hway hback ⊢
  unfold Net.unread
  dsimp only
  rw [hnone, hecho, hway, hback, Party.peer_peer, hcons, hcons, List.append_nil,
    List.append_assoc, List.append_assoc]
  exact ⟨rfl, rfl⟩

/-- A PING arrives and its ack is unread, or an ack arrives and is the one that the task waits
for. -/
theorem Sound.deliver (h : Sound s w) {g : Frame} (hm : w.net.Possible (.deliver p g)) :
    Sound s (w.step (.other (.deliver p g))) := by
  have hj := h.run.joined
  obtain ⟨⟨f, hf, hr⟩, hg⟩ := id hm
  obtain ⟨rest, hw, -⟩ := hj.head hf
  have hfirst : ∀ ack payload, g = .ping ack payload →
      (w.net.ends p).checkFirstFrame g = true := fun ack payload heq => by
    have hsame : f = g := hr.eq fun x hx => by
      rw [heq] at hx
      cases hx
    refine Connection.checkFirstFrame_of (hj.started hw ?_)
    rw [hsame, heq]
    exact nofun
  obtain ⟨h1, h2⟩ := unread_deliver hj hw hr hg hfirst
  refine h.update (h.run.move _ hm) h2 (fun hq => ?_) fun hq => ?_
  · rw [PingTask.hear_phase] at hq
    rw [h.fresh p hq] at h1
    exact (List.append_eq_nil_iff.mp h1.symm).2
  · rw [PingTask.hear_phase] at hq
    rw [h.flight p hq] at h1
    cases g with
    | ping ack payload =>
        rw [PingTask.awaited_hear _ (hfirst ack payload rfl)]
        cases ack with
        | false => exact h1.symm
        | true =>
            change _ = [payload] ++ _ at h1
            change _ = (if (w.tasks p).awaited = some payload then none else _).toList
            cases ha : (w.tasks p).awaited with
            | none =>
                rw [ha] at h1
                cases h1
            | some x =>
                rw [ha] at h1
                obtain ⟨hx, hrest⟩ := List.cons.inj h1
                rw [hx, if_pos rfl]
                exact hrest.symm
    | _ => exact h1.symm

/-- The first frames are no PINGs. -/
theorem carried_init (s : Connection.Start) (ack : Bool) :
    carried ack (outbox s.init.log) = [] := by
  obtain ⟨-, -, hlog⟩ := Connection.new_window s.server s.config s.secure s.skipStreams
  change s.init.log = _ ∨ ∃ n, s.init.log = _ at hlog
  rcases hlog with hlog | ⟨n, hlog⟩
  · rw [hlog]
    rfl
  · rw [hlog]
    rfl

theorem Reachable.sound (h : Reachable s w) : Sound s w := by
  induction h with
  | new =>
      refine ⟨.new, fun p _ => ?_, fun p hn => absurd rfl hn⟩
      refine (congrArg (· ++ _) (carried_init _ true)).trans ?_
      exact carried_init _ false
  | step i _ hi ih =>
      cases i with
      | start p => exact ih.start hi
      | wake p => exact ih.wake hi
      | other m =>
          cases m with
          | act p a => exact ih.act hi.1 fun payload heq => hi.2 p payload (by rw [heq])
          | deliver p f => exact ih.deliver hi.1

/-- A peer that is joined is never taken for dead because of an ack that was lost or mistaken while
the ios are open: once the task of an end has started, RECV_PONG is set exactly when none of its
PINGs and no ack of one is on the way or lost, and otherwise there is one, that of the last PING;
and none is lost before an end has closed its io. -/
theorem one_in_flight (h : Reachable s w) (hstart : (w.tasks p).phase ≠ .new) :
    ((w.tasks p).pong = true ∧ w.net.outstanding p = [] ∧ w.net.gone p = [] ∨
      (w.tasks p).pong = false ∧
        w.net.outstanding p ++ w.net.gone p = [(w.tasks p).pingPayload]) ∧
    (.close ∉ (w.net.ends p).log → .close ∉ (w.net.ends p.peer).log → w.net.gone p = []) := by
  refine ⟨?_, Net.gone_open⟩
  have hperm := Net.unread_perm h.sound.run.joined p
  rw [h.sound.flight p hstart] at hperm
  unfold PingTask.awaited at hperm
  cases hpong : (w.tasks p).pong with
  | true =>
      rw [hpong] at hperm
      obtain ⟨h1, h2⟩ := List.append_eq_nil_iff.mp (List.nil_perm.mp hperm)
      exact .inl ⟨rfl, h1, h2⟩
  | false =>
      rw [hpong] at hperm
      exact .inr ⟨rfl, (List.singleton_perm.mp hperm).symm⟩

theorem Reachable.arrive (h : Reachable s w) {f : Frame}
    (hf : (w.net.arriving p).head? = some f) (hl : f.Loads) :
    Reachable s (w.step (.other (.deliver p f))) :=
  h.step _ ⟨Net.possible_same hf hl, fun _ _ => nofun⟩

/-- A client that has written its first PING, and a server that has answered it: the ack is on the
way, or it is lost if the server has closed its io. -/
theorem one_in_flight_answered : ∃ w w' : Watched, Reachable Net.meetingSetup w ∧
    Reachable Net.meetingSetup w' ∧
    w.net.outstanding .client = [[0, 0, 0, 0, 0, 0, 0, 1]] ∧ w.net.gone .client = [] ∧
    carried true (w.net.arriving .client) = [[0, 0, 0, 0, 0, 0, 0, 1]] ∧
    w'.net.outstanding .client ++ w'.net.gone .client = [[0, 0, 0, 0, 0, 0, 0, 1]] ∧
    w'.net.outstanding .client = [] := by
  have h0 : Reachable Net.meetingSetup (new Net.meetingSetup) := .new
  have h1 := (h0.step (.start .client) rfl).step (.wake .client) rfl
  have h2 := h1.arrive (p := .server) (f := .settings (Net.meetingSetup.settings .client)) rfl
    ⟨fun v hv => (by cases hv), fun v hv => (by cases hv)⟩
  have h3 := h2.arrive (p := .server) (f := .windowUpdate 0 4128769) rfl ⟨by decide, by decide⟩
  have h4 := h3.arrive (p := .server) (f := .ping false [0, 0, 0, 0, 0, 0, 0, 1]) rfl trivial
  have h4' := (h3.step (.other (.act .server .forceClose))
    ⟨⟨trivial, trivial⟩, fun _ _ => nofun⟩).arrive (p := .server)
      (f := .ping false [0, 0, 0, 0, 0, 0, 0, 1]) rfl trivial
  obtain ⟨hfirst, hopen⟩ := one_in_flight h4 (p := .client) (by decide +kernel)
  obtain ⟨hfirst', -⟩ := one_in_flight h4' (p := .client) (by decide +kernel)
  have hgone := hopen (by decide +kernel) (by decide +kernel)
  refine ⟨_, _, h4, h4', ?_, hgone, by decide +kernel, ?_, by decide +kernel⟩
  · rcases hfirst with ⟨hpong, -⟩ | ⟨-, hout⟩
    · exact absurd hpong (by decide +kernel)
    · rw [hgone, List.append_nil] at hout
      exact hout.trans (by decide +kernel)
  · rcases hfirst' with ⟨hpong, -⟩ | ⟨-, hout⟩
    · exact absurd hpong (by decide +kernel)
    · exact hout.trans (by decide +kernel)

end Watched

end NtexH2
