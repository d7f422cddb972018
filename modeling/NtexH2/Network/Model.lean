/-
  Network/Model.lean --- a client and a server that are joined.

  Each end is a connection, and what it writes is on its way to the other end in a
  queue.  A move is a step of one end that is not the receipt of a frame, or the
  delivery of the first frame of a queue; the moves come in any order.  The codec of the
  receiver may reject a list of headers, and what an end writes after it has closed its
  io is lost: it stays at the end of the queue.
-/
import NtexH2.Connection.Endpoint

set_option autoImplicit false

namespace NtexH2

/-- The two ends. -/
inductive Party where
  | client
  | server
  deriving DecidableEq, Repr

namespace Party

/-- The other end. -/
def peer : Party → Party
  | .client => .server
  | .server => .client

@[simp] theorem peer_peer (p : Party) : p.peer.peer = p := by
  cases p <;> rfl

theorem peer_ne (p : Party) : p.peer ≠ p := by
  cases p <;> decide

theorem eq_or_peer (p q : Party) : q = p ∨ q = p.peer := by
  cases p <;> cases q <;> decide

end Party

/-- How the two ends start.  `ServiceConfig::new` forbids push, and nothing allows it again. -/
structure Setup where
  start : Party → Connection.Start
  client : (start .client).server = false
  server : (start .server).server = true
  windowSz : ∀ p, (start p).config.windowSz ≤ 2 ^ 30
  noPush : ∀ p, (start p).config.settings.enablePush = some 0

/-- The settings of an end. -/
def Setup.settings (s : Setup) (p : Party) : Settings := (s.start p).config.settings

theorem Setup.ack (s : Setup) (p : Party) : (s.settings p).ack = false :=
  (s.start p).config.settings_ack

theorem Setup.push (s : Setup) (p : Party) : (s.settings p).isPushEnabled ≠ some true := by
  unfold Settings.isPushEnabled settings
  rw [s.noPush p]
  decide

/-- The initial window that the settings of an end stand for. -/
theorem Setup.initialWindow (s : Setup) (p : Party) :
    (s.settings p).initialWindowSize.getD defaultInitialWindowSize =
      (s.start p).config.windowSz := by
  unfold settings
  rcases (s.start p).config.settings_window with h | ⟨h, hw⟩
  · rw [h]
    rfl
  · rw [h, hw]
    rfl

/-- The two ends, and the frames that are written for each of them and have not been read, the
oldest first. -/
structure Net where
  ends : Party → Connection
  way : Party → List Frame

/-- What happens next.  A frame is delivered as the codec of the receiver reads it. -/
inductive Move where
  | act (p : Party) (a : Connection.Step)
  | deliver (p : Party) (f : Frame)

namespace Net

/-- The first frames of both ends are on their way. -/
def new (s : Setup) : Net where
  ends := fun p => (s.start p).init
  way := fun p => outbox (s.start p.peer).init.log

/-- The frames that are new in the second state. -/
def newFrames (c c' : Connection) : List Frame := (outbox c'.log).drop (outbox c.log).length

/-- An end takes a step, and what it writes is on the way to its peer. -/
def advance (n : Net) (p : Party) (a : Connection.Step) : Net where
  ends := Function.update n.ends p ((n.ends p).step a)
  way := Function.update n.way p.peer
    (n.way p.peer ++ newFrames (n.ends p) ((n.ends p).step a))

/-- One move. -/
def move (n : Net) : Move → Net
  | .act p a => n.advance p a
  | .deliver p f =>
      { n with way := Function.update n.way p (n.way p).tail }.advance p (.receive f)

section

variable (n : Net) (p : Party) (a : Connection.Step)

@[simp] theorem advance_ends : (n.advance p a).ends p = (n.ends p).step a :=
  Function.update_self _ _ _

@[simp] theorem advance_ends_peer : (n.advance p a).ends p.peer = n.ends p.peer :=
  Function.update_of_ne p.peer_ne _ _

@[simp] theorem advance_way : (n.advance p a).way p = n.way p :=
  Function.update_of_ne p.peer_ne.symm _ _

@[simp] theorem advance_way_peer : (n.advance p a).way p.peer =
    n.way p.peer ++ newFrames (n.ends p) ((n.ends p).step a) :=
  Function.update_self _ _ _

end

/-- The frames for an end that its peer has written behind the close of its io. -/
def lost (n : Net) (p : Party) : List Frame := dropped (n.ends p.peer).log

/-- The frames on the way to an end that will arrive. -/
def arriving (n : Net) (p : Party) : List Frame :=
  (n.way p).take ((n.way p).length - (n.lost p).length)

/-- When a move can happen: a frame that arrives is the next one, as the codec reads it. -/
def Possible (n : Net) : Move → Prop
  | .act p a => Connection.Local a ∧ (n.ends p).Enabled a
  | .deliver p f => (∃ g ∈ (n.arriving p).head?, g.ReadAs f) ∧ f.Loads

/-- The states of all runs. -/
inductive Reachable (s : Setup) : Net → Prop where
  | new : Reachable s (Net.new s)
  | move {n : Net} (m : Move) : Reachable s n → n.Possible m → Reachable s (n.move m)

/-- The state at the end of some moves. -/
def after (n : Net) (ms : List Move) : Net := ms.foldl move n

/-- Each of the moves can happen when its turn comes. -/
def Allowed : Net → List Move → Prop
  | _, [] => True
  | n, m :: ms => n.Possible m ∧ Allowed (n.move m) ms

theorem Reachable.after {s : Setup} (ms : List Move) :
    ∀ {n : Net}, Reachable s n → n.Allowed ms → Reachable s (n.after ms) := by
  induction ms with
  | nil => exact fun h _ => h
  | cons m ms ih => exact fun h ha => ih (.move m h ha.1) ha.2

theorem newFrames_append {c c' : Connection} {es : List Event} (h : c'.log = es ++ c.log) :
    outbox c'.log = outbox c.log ++ newFrames c c' := by
  unfold newFrames
  rw [h, outbox_append, List.drop_left]

/-- What was lost stays so, and of the new frames the last ones are lost. -/
theorem dropped_newFrames {c c' : Connection} {es : List Event} (h : c'.log = es ++ c.log) :
    dropped c'.log <:+ dropped c.log ++ newFrames c c' := by
  have hnew := newFrames_append h
  rw [h, outbox_append, List.append_cancel_left_eq] at hnew
  rw [h, ← hnew]
  exact dropped_append es c.log

end Net

end NtexH2
