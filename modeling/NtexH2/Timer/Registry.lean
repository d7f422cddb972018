/-
  Timer/Registry.lean --- the registry of capacity timers (src/timer.rs).

  A stream that waits for capacity registers with a thread-local timer.  The timer
  keeps, for each stream, the tick at which it expires, and for each tick the streams that
  expire then; a task drives it, once a second, as long as there is something to wait for.
  Every stream also has a flag that says whether it is registered.  The three are
  changed separately.

  Streams are compared by identity; here they are the elements of any type.  A `HashSet`
  is a list, since the order in which it is drained is of no consequence.  Times are
  seconds, which fill a `u32` after more than a century.
-/
import NtexH2.Base
import NtexH2.Lib.OrderedMap

set_option autoImplicit false

namespace NtexH2.Timer

open Lib

variable {α : Type} [DecidableEq α]

/-! ## The storage -/

/-- `CAP`. -/
def cap : Nat := 4

/-- `InnerMut`. -/
structure InnerMut (α : Type) where
  cache : List (List α)
  streams : α → Option Nat
  notifications : OrderedMap Nat (List α)

/-- `HashSet::remove`. -/
def removeItem (io : α) (items : List α) : List α := items.filter fun x => x ≠ io

namespace InnerMut

/-- The storage at first. -/
def new : InnerMut α := ⟨[], fun _ => none, .empty⟩

/-- `InnerMut::unregister`. -/
def unregister (s : InnerMut α) (io : α) : InnerMut α :=
  match s.streams io with
  | none => s
  | some id =>
      { s with
        streams := Function.update s.streams io none
        notifications := s.notifications.modify id (removeItem io) }

/-- The part of `register` that inserts the key. -/
def insertKey (s : InnerMut α) (hnd : Nat) (io : α) : InnerMut α :=
  match s.notifications.get? hnd with
  | some _ => { s with notifications := s.notifications.modify hnd (·.insert io) }
  | none =>
      { s with
        cache := s.cache.tail
        notifications := s.notifications.insert hnd ((s.cache.headD []).insert io) }

/-- The part of `register` that removes the stream from another bucket. -/
def removeOther (s : InnerMut α) (hnd : Nat) (io : α) : InnerMut α :=
  match s.streams io with
  | some key =>
      if key ≠ hnd then { s with notifications := s.notifications.modify key (removeItem io) }
      else s
  | none => s

/-- The part of `register` that changes the storage. -/
def register (s : InnerMut α) (hnd : Nat) (io : α) : InnerMut α :=
  let s := (s.insertKey hnd io).removeOther hnd io
  { s with streams := Function.update s.streams io (some hnd) }

end InnerMut

/-- The inner loop of the driver: `items` is drained of the bucket `key`. -/
def drain (key : Nat) : List α → (α → Option Nat) → List α → (α → Option Nat) × List α
  | [], streams, expired => (streams, expired)
  | io :: items, streams, expired =>
      match streams io with
      | some hnd =>
          if hnd = key then drain key items (Function.update streams io none) (expired ++ [io])
          -- taken out and put back
          else drain key items streams expired
      | none => drain key items streams expired

/-- The loop of the driver that collects the expired streams, bucket after bucket.  A drained
bucket goes to the cache. -/
def expireLoop (current : Nat) : (l : List (Nat × List α)) →
    (l.Pairwise fun a b => a.1 < b.1) → List (List α) → (α → Option Nat) → List α →
    InnerMut α × List α
  | [], h, cache, streams, expired => (⟨cache, streams, ⟨[], h⟩⟩, expired)
  | (key, items) :: l, h, cache, streams, expired =>
      if key ≤ current then
        let r := drain key items streams expired
        expireLoop current l h.of_cons (if cache.length ≤ cap then cache ++ [[]] else cache) r.1 r.2
      else (⟨cache, streams, ⟨(key, items) :: l, h⟩⟩, expired)

/-- What the driver takes out of the storage at the tick `current`, and what it leaves. -/
def InnerMut.expire (s : InnerMut α) (current : Nat) : InnerMut α × List α :=
  expireLoop current s.notifications.entries s.notifications.sorted s.cache s.streams []

/-! ## The registry -/

/-- The thread-local `TIMER`, the `CAPACITY_TIMER` flags of the streams, and the driver's tasks:
those that were spawned and not polled yet, and those in their loop, which own a
`TimerGuard`. -/
structure Registry (α : Type) where
  running : Bool
  current : Nat
  storage : InnerMut α
  capacityTimer : α → Bool
  spawned : Nat
  looping : Nat

namespace Registry

/-- A thread without streams. -/
def new : Registry α := ⟨false, 0, .new, fun _ => false, 0, 0⟩

/-- `unregister`. -/
def unregister (r : Registry α) (io : α) : Registry α :=
  { r with storage := r.storage.unregister io }

/-- `register`; `clock` is the time since `base` in seconds. -/
def register (r : Registry α) (timeout clock : Nat) (io : α) : Registry α :=
  let current := if r.running then r.current else clock
  let r :=
    { r with current := current, storage := r.storage.register (current + timeout) io }
  if r.running then r else { r with running := true, spawned := r.spawned + 1 }

/-- `insert_flag(CAPACITY_TIMER)` and `remove_flag(CAPACITY_TIMER)`. -/
def setFlag (r : Registry α) (io : α) (b : Bool) : Registry α :=
  { r with capacityTimer := Function.update r.capacityTimer io b }

/-- `StreamRef::start_capacity_timer`; `timeout` is `capacity_timeout` of the configuration. -/
def startCapacityTimer (r : Registry α) (timeout : Option Nat) (clock : Nat) (io : α) :
    Registry α :=
  if r.capacityTimer io then r
  else
    match timeout with
    | some seconds => (r.setFlag io true).register seconds clock io
    | none => r

/-- `StreamRef::stop_capacity_timer`. -/
def stopCapacityTimer (r : Registry α) (io : α) : Registry α :=
  if r.capacityTimer io then (r.setFlag io false).unregister io else r

/-- `StreamRef::capacity_timeout`, as far as timers are concerned: if the stream still waits, it
leaves its connection, which stops its timer. -/
def capacityTimeout (r : Registry α) (drops : Bool) (io : α) : Registry α :=
  let r := r.setFlag io false
  if drops then r.stopCapacityTimer io else r

/-- A timeout clears the flag of its stream, and the stream's own timer has then nothing to stop. -/
theorem capacityTimeout_eq (r : Registry α) (drops : Bool) (io : α) :
    r.capacityTimeout drops io = r.setFlag io false := by
  have hflag : (r.setFlag io false).capacityTimer io = false := Function.update_self _ _ _
  unfold capacityTimeout
  dsimp only
  split
  · rw [stopCapacityTimer, hflag, if_neg Bool.false_ne_true]
  · rfl

/-- `TimerGuard::drop`: the maps are taken, and then each stream that was registered stops
its timer.  There is nothing left that it could be unregistered from. -/
def dropGuard (r : Registry α) : Registry α :=
  { r with
    running := false
    storage := { r.storage with streams := fun _ => none, notifications := .empty }
    capacityTimer := fun io =>
      if (r.storage.streams io).isSome then false else r.capacityTimer io }

/-- One round of the driver, after its sleep; `drops` says of the expired streams which ones still
wait for capacity. -/
def tick (r : Registry α) (drops : α → Bool) : Registry α × List α :=
  let current := r.current
  let e := r.storage.expire current
  let stop := e.1.notifications.isEmpty
  let r :=
    { r with
      current := current + 1
      storage := e.1
      running := if stop then false else r.running }
  let r := e.2.foldl (fun r io => r.capacityTimeout (drops io) io) r
  if stop then ({ r.dropGuard with looping := r.looping - 1 }, e.2) else (r, e.2)

end Registry

/-! ## Runs -/

/-- What can happen to the registry. -/
inductive Step (α : Type) where
  /-- a stream starts its timer -/
  | start (timeout : Option Nat) (clock : Nat) (io : α)
  /-- a stream whose timer runs is registered once more -/
  | restart (timeout clock : Nat) (io : α)
  /-- a stream stops its timer -/
  | stop (io : α)
  /-- the driver's task is polled for the first time -/
  | poll
  /-- the driver wakes up -/
  | tick (drops : α → Bool)
  /-- the driver's task is dropped -/
  | cancel

/-- What is seen of a run: registrations, their ends, and the passing of time. -/
inductive Event (α : Type) where
  | registered (io : α) (timeout : Nat)
  | unregistered (io : α)
  | ticked
  | fired (io : α)
  | cleared
  deriving DecidableEq

namespace Registry

/-- A step is possible.  A task that was never polled has no guard. -/
def Enabled (r : Registry α) : Step α → Prop
  | .start _ _ _ | .stop _ => True
  | .restart _ _ io => r.capacityTimer io = true
  | .poll => 0 < r.spawned
  | .tick _ | .cancel => 0 < r.looping

instance (r : Registry α) (a : Step α) : Decidable (r.Enabled a) :=
  match a with
  | .start _ _ _ | .stop _ => .isTrue trivial
  | .restart _ _ io => inferInstanceAs (Decidable (r.capacityTimer io = true))
  | .poll => inferInstanceAs (Decidable (0 < r.spawned))
  | .tick _ | .cancel => inferInstanceAs (Decidable (0 < r.looping))

def step (r : Registry α) : Step α → Registry α × List (Event α)
  | .start timeout clock io =>
      (r.startCapacityTimer timeout clock io,
        if r.capacityTimer io then [] else timeout.toList.map (.registered io))
  | .restart timeout clock io => (r.register timeout clock io, [.registered io timeout])
  | .stop io => (r.stopCapacityTimer io, if r.capacityTimer io then [.unregistered io] else [])
  | .poll => ({ r with spawned := r.spawned - 1, looping := r.looping + 1 }, [])
  | .tick drops => ((r.tick drops).1, .ticked :: (r.tick drops).2.map .fired)
  | .cancel => ({ r.dropGuard with looping := r.looping - 1 }, [.cleared])

/-- The registries that a thread reaches, with what was seen on the way. -/
inductive Runs : Registry α → List (Event α) → Prop
  | init : Runs .new []
  | step {r : Registry α} {log : List (Event α)} (a : Step α) :
      Runs r log → r.Enabled a → Runs (r.step a).1 (log ++ (r.step a).2)

end Registry

end NtexH2.Timer
