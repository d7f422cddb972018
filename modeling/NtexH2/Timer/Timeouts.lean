/-
  Timer/Timeouts.lean --- what a timeout does to the streams of a connection.

  The registry's model says of a timeout that it clears the flag of its own stream.  In the
  connection a timeout may reset the stream, fail it and drop it, which stops the timer of
  the stream found under its id.  That is the stream itself: no timeout stops the timer of
  another stream, and in particular not of one that expired in the same round.
-/
import NtexH2.Connection.GoAway
import NtexH2.Connection.TameReceive
import NtexH2.Timer.Consistency

set_option autoImplicit false

namespace NtexH2

namespace Connection

/-- The flags of the streams of a connection. -/
def timers (c : Connection) : Obj → Bool := fun p => (c.objs p).capacityTimer

theorem startCapacityTimer_timers (c : Connection) (o : Obj) :
    (c.startCapacityTimer o).timers =
      if c.config.capacityTimeout.isSome then Function.update c.timers o true else c.timers := by
  unfold startCapacityTimer
  split
  · funext p
    show (if p = o then { c.objs p with capacityTimer := true } else c.objs p).capacityTimer = _
    rw [Function.update_apply]
    split
    · rfl
    · rfl
  · rfl

theorem stopCapacityTimer_timers (c : Connection) (o : Obj) :
    (c.stopCapacityTimer o).timers = Function.update c.timers o false := by
  funext p
  show (if p = o then { c.objs p with capacityTimer := false } else c.objs p).capacityTimer = _
  rw [Function.update_apply]
  split
  · rfl
  · rfl

/-! ## Changes of one stream -/

/-- No other stream is found in the map under the id of the stream. -/
def Sole (c : Connection) (o : Obj) : Prop := ∀ e ∈ c.streams, e.1 = (c.objs o).id → e.2 = o

/-- From `c` to `c'` only the stream `o` changes, which keeps its id and does not start its timer;
the map may lose streams. -/
structure OnlyOf (o : Obj) (c c' : Connection) : Prop where
  others : ∀ p, p ≠ o → c'.objs p = c.objs p
  id : (c'.objs o).id = (c.objs o).id
  timer : (c.objs o).capacityTimer = false → (c'.objs o).capacityTimer = false
  streams : ∀ e ∈ c'.streams, e ∈ c.streams

variable {o : Obj} {c c' c'' : Connection}

theorem OnlyOf.refl (o : Obj) (c : Connection) : OnlyOf o c c :=
  ⟨fun _ _ => rfl, rfl, fun h => h, fun _ h => h⟩

theorem OnlyOf.trans (h : OnlyOf o c c') (h' : OnlyOf o c' c'') : OnlyOf o c c'' where
  others := fun p hp => (h'.others p hp).trans (h.others p hp)
  id := h'.id.trans h.id
  timer := fun ht => h'.timer (h.timer ht)
  streams := fun e he => h.streams e (h'.streams e he)

theorem OnlyOf.sole (h : OnlyOf o c c') (hs : c.Sole o) : c'.Sole o :=
  fun e he heq => hs e (h.streams e he) (heq.trans h.id)

/-- One change after another. -/
theorem OnlyOf.next (h : OnlyOf o c c') (hs : c.Sole o) (h' : c'.Sole o → OnlyOf o c' c'') :
    OnlyOf o c c'' :=
  h.trans (h' (h.sole hs))

theorem onlyOf_modify {f : Stream → Stream} (hid : ∀ s, (f s).id = s.id)
    (ht : ∀ s, s.capacityTimer = false → (f s).capacityTimer = false) :
    OnlyOf o c (c.modify o f) where
  others := fun p hp => if_neg hp
  id := by
    show (if o = o then f (c.objs o) else c.objs o).id = _
    rw [if_pos rfl, hid]
  timer := fun h => by
    show (if o = o then f (c.objs o) else c.objs o).capacityTimer = false
    rw [if_pos rfl]
    exact ht _ h
  streams := fun _ h => h

/-- The stream that is dropped under the id of `o` is `o`. -/
theorem onlyOf_dropStream (hs : c.Sole o) : OnlyOf o c (c.dropStream (c.objs o).id) where
  others := fun p hp => by
    rcases dropStream_objs c (c.objs o).id p with h | ⟨hq, -⟩
    · exact h
    · obtain ⟨e, he, rfl⟩ := Option.map_eq_some_iff.mp hq
      have hkey : e.1 = (c.objs o).id := by simpa using List.find?_some he
      exact absurd (hs e (List.mem_of_find?_eq_some he) hkey) hp
  id := by
    rcases dropStream_objs c (c.objs o).id o with h | ⟨-, h⟩
    · rw [h]
    · rw [h]
  timer := fun ht => by
    rcases dropStream_objs c (c.objs o).id o with h | ⟨-, h⟩
    · rw [h]
      exact ht
    · rw [h]
  streams := fun e he => by
    rcases dropStream_streams c (c.objs o).id with h | ⟨-, h⟩
    · rw [h] at he
      exact List.mem_of_mem_eraseP he
    · rw [h] at he
      exact he

theorem onlyOf_reviewState (hs : c.Sole o) : OnlyOf o c (c.reviewState o) := by
  unfold reviewState
  split
  · have hmod : OnlyOf o c (c.modify o fun s => { s with sendCap := false }) :=
      onlyOf_modify (fun _ => rfl) fun _ h => h
    refine hmod.next hs fun hs' => ?_
    rw [← hmod.id]
    exact onlyOf_dropStream hs'
  · exact .refl o c

theorem onlyOf_resetStream (hs : c.Sole o) (reason : Option Reason) :
    OnlyOf o c (c.resetStream o reason) := by
  refine OnlyOf.next (onlyOf_modify ?_ ?_) hs onlyOf_reviewState
  · exact fun _ => rfl
  · exact fun _ h => h

theorem onlyOf_failed (hs : c.Sole o) (err : OperationError) : OnlyOf o c (c.failed o err) := by
  refine OnlyOf.next (onlyOf_modify ?_ ?_) hs onlyOf_reviewState
  · exact fun _ => rfl
  · exact fun _ h => h

theorem onlyOf_resetWith (hs : c.Sole o) (reason : Reason) (err : StreamError) :
    OnlyOf o c (c.resetWith o reason err).1 := by
  have hsilent : OnlyOf o c (c.resetSilent o reason).1 := by
    unfold resetSilent
    split
    · have henc : OnlyOf o c (c.encode o .resetSilent (.reset (c.objs o).id reason)) :=
        ⟨fun _ _ => rfl, rfl, fun h => h, fun _ h => h⟩
      exact henc.next hs fun hs' => onlyOf_resetStream hs' _
    · exact .refl o c
  unfold resetWith
  dsimp only
  generalize c.resetSilent o reason = r at hsilent
  obtain ⟨c1, b⟩ := r
  cases b with
  | true =>
      refine hsilent.trans ?_
      dsimp only
      split
      · exact onlyOf_modify (fun _ => rfl) fun _ h => h
      · exact .refl o c1
  | false => exact hsilent

/-! ## Timeouts -/

/-- A timeout clears the flag of its stream and no other. -/
theorem capacityTimeout_of_sole (hs : c.Sole o) :
    (c.capacityTimeout o).timers = Function.update c.timers o false := by
  have hclear : OnlyOf o c (c.modify o fun s => { s with capacityTimer := false }) :=
    onlyOf_modify (fun _ => rfl) fun _ _ => rfl
  have hoff : ((c.modify o fun s => { s with capacityTimer := false }).objs o).capacityTimer =
      false := by
    show (if o = o then { c.objs o with capacityTimer := false } else c.objs o).capacityTimer =
      false
    rw [if_pos rfl]
  have hrest : OnlyOf o (c.modify o fun s => { s with capacityTimer := false })
      (c.capacityTimeout o) := by
    have hs' := hclear.sole hs
    unfold capacityTimeout
    dsimp only
    generalize c.modify o (fun s => { s with capacityTimer := false }) = c1 at hs'
    split
    · exact .refl o c1
    · exact ((onlyOf_resetWith hs' _ _).next hs' fun h => onlyOf_failed h _).next hs'
        onlyOf_dropStream
  funext p
  rw [Function.update_apply]
  by_cases hp : p = o
  · rw [if_pos hp, hp]
    exact hrest.timer hoff
  · rw [if_neg hp]
    exact congrArg Stream.capacityTimer ((hclear.trans hrest).others p hp)

theorem Reachable.sole {s : Start} (h : Reachable s c) (ho : o < c.created) : c.Sole o := by
  intro e he hid
  have ht := h.clean.good.table
  have hkey : (c.objs e.2).id = e.1 := ht.key e he
  exact ht.id_inj (ht.bound e.2 (List.mem_map_of_mem he)) ho (hkey.trans hid)

end Connection

namespace Timer.Registry

variable {c : Connection} {r : Registry Obj}

/-- A stream that starts its timer is flagged in the connection as in the registry. -/
theorem startCapacityTimer_flags (hr : r.capacityTimer = c.timers) (clock : Nat) (o : Obj) :
    (r.startCapacityTimer c.config.capacityTimeout clock o).capacityTimer =
      (c.startCapacityTimer o).timers := by
  rw [Connection.startCapacityTimer_timers, ← hr]
  unfold startCapacityTimer
  cases hflag : r.capacityTimer o with
  | true =>
      rw [if_pos rfl, Function.update_eq_self_iff.mpr hflag.symm, ite_self]
  | false =>
      rw [if_neg Bool.false_ne_true]
      cases c.config.capacityTimeout with
      | none => rfl
      | some timeout => exact (register_fields (r.setFlag o true) timeout clock o).2.1

theorem stopCapacityTimer_flags (hr : r.capacityTimer = c.timers) (o : Obj) :
    (r.stopCapacityTimer o).capacityTimer = (c.stopCapacityTimer o).timers := by
  rw [Connection.stopCapacityTimer_timers, ← hr]
  unfold stopCapacityTimer
  cases hflag : r.capacityTimer o with
  | true => rfl
  | false =>
      rw [if_neg Bool.false_ne_true]
      exact (Function.update_eq_self_iff.mpr hflag.symm).symm

/-- In every connection that is reached, a timeout does to the flags what the registry's model says:
the flag of its own stream is cleared, and no other changes. -/
theorem capacityTimeout_flags {s : Connection.Start} {o : Obj} (h : Connection.Reachable s c)
    (ho : o < c.created) (hr : r.capacityTimer = c.timers) (drops : Bool) :
    (r.capacityTimeout drops o).capacityTimer = (c.capacityTimeout o).timers := by
  rw [Connection.capacityTimeout_of_sole (h.sole ho), ← hr, capacityTimeout_eq]
  rfl

end Timer.Registry

end NtexH2
