/-
  Connection/Lifecycle.lean --- the life of a stream.

  Whatever the peer, the application and the timers do, and in any order: the halves of
  a stream move on and never back, its id stays, and once it has left the map it is gone
  for good.  Later streams have larger ids, so no id is used twice.
-/
import NtexH2.Session.Ages
import NtexH2.Connection.Endpoint
import NtexH2.Connection.ResetLimit

set_option autoImplicit false

namespace NtexH2

namespace Connection

variable {s : Start} {c : Connection} {as : List Step} {o : Obj}

/-- The steps of a run, for its session. -/
theorem Reachable.steps_after : ∀ {c : Connection}, Reachable s c → Allowed anyStep c as →
    Reachable s (c.after as) ∧ Session.Steps anyRun c.session (c.after as).session := by
  induction as with
  | nil => exact fun h _ => ⟨h, .refl⟩
  | cons a as ih =>
      intro c h ha
      obtain ⟨hr, hsteps⟩ := ih (.step a h ha.1.1) ha.2
      exact ⟨hr, (runs_step ha.1.1 (finds_anyRun c a) h.clean).2.trans hsteps⟩

/-- In any run from any reachable state, a stream keeps its id and its side, its halves only move
on from idle over payload to closed, it does not come back to the map, and the streams that are
opened have larger ids than all before. -/
theorem lifecycle (h : Reachable s c) (ha : Allowed anyStep c as) (ho : o < c.created) :
    ((c.after as).objs o).id = (c.objs o).id ∧
      ((c.after as).objs o).remote = (c.objs o).remote ∧
      (c.objs o).recv.half.rank ≤ ((c.after as).objs o).recv.half.rank ∧
      (c.objs o).send.half.rank ≤ ((c.after as).objs o).send.half.rank ∧
      (o ∉ c.values → o ∉ (c.after as).values) ∧
      ∀ p, c.created ≤ p → p < (c.after as).created →
        (c.objs o).id < ((c.after as).objs p).id := by
  obtain ⟨hr, hsteps⟩ := h.steps_after ha
  have hg := h.clean.good
  have hg' := hr.clean.good
  have hages := hsteps.ages
  have hcell : (c.session.cells o).Ages ((c.after as).session.cells o) := hages.cells o ho
  have hid : ((c.after as).objs o).id = (c.objs o).id := (hsteps.passes hg).ids o ho
  refine ⟨hid, hcell.remote, hcell.recv, hcell.send, hages.absent hg.table hg'.table ho, ?_⟩
  intro p hp hp'
  rw [← hid]
  exact hg'.table.mono o p (Nat.lt_of_lt_of_le ho hp) hp'

/-- A request. -/
def askedFirst : List Step :=
  [.receive (.settings noSettings), .receive (.headers ⟨1, somePseudo, [], false⟩)]

/-- Its stream is reset, and another request follows. -/
def askedAgain : List Step :=
  [.receive (.reset 1 .cancel), .receive (.headers ⟨7, somePseudo, [], false⟩)]

theorem askedFirst_allowed : Allowed anyStep serverStart.init askedFirst := by
  refine ⟨⟨noSettings_loads, trivial⟩, ⟨?_, trivial⟩, trivial⟩
  show 1 < 2 ^ 31
  decide

theorem askedAgain_allowed : Allowed anyStep (serverStart.init.after askedFirst) askedAgain := by
  refine ⟨⟨?_, trivial⟩, ⟨?_, trivial⟩, trivial⟩
  · show 1 < 2 ^ 31
    decide
  · show 7 < 2 ^ 31
    decide

theorem lifecycle_asked : ∃ c, Reachable serverStart c ∧ Allowed anyStep c askedAgain ∧
    0 ∉ (c.after askedAgain).values ∧ (c.objs 0).recv.half.rank = 1 ∧
    (c.objs 0).recv.half.rank ≤ ((c.after askedAgain).objs 0).recv.half.rank ∧
    (c.objs 0).id < ((c.after askedAgain).objs 1).id := by
  have hr := (Reachable.new.steps_after askedFirst_allowed).1
  obtain ⟨-, -, hrecv, -, -, hid⟩ := lifecycle hr askedAgain_allowed (o := 0) (by decide)
  exact ⟨_, hr, askedAgain_allowed, by decide +kernel, by decide, hrecv,
    hid 1 (by decide) (by decide +kernel)⟩

end Connection

end NtexH2
