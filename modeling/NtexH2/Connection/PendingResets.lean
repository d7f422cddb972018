/-
  Connection/PendingResets.lean --- the streams that were reset (src/connection.rs,
  `Pending`).

  `Pending` keeps a set of ids, and a queue of the same ids with the times at which they
  were added.  Ids leave the queue at its front, unless they are removed by name; an id that
  was added stays until enough other ids, or enough time, have come behind it.
-/
import NtexH2.Connection.Stream

set_option autoImplicit false

namespace NtexH2

namespace Pending

/-- A call of `Pending::add` or `Pending::remove`. -/
inductive Call where
  | add (id : StreamId) (now : Nat)
  | remove (id : StreamId)
  deriving DecidableEq, Repr

/-- The id of a call. -/
def Call.id : Call → StreamId
  | .add id _ => id
  | .remove id => id

/-- The id that a call adds. -/
def Call.added? : Call → Option StreamId
  | .add id _ => some id
  | .remove _ => none

/-- The time of a call, where it reads the clock. -/
def Call.time? : Call → Option Nat
  | .add _ now => some now
  | .remove _ => none

/-- One call. -/
def call (config : ServiceConfig) (p : Pending) : Call → Pending
  | .add id now => p.add id config now
  | .remove id => (p.remove id).1

/-- The calls of a run, from the empty set. -/
def run (config : ServiceConfig) (calls : List Call) : Pending := calls.foldl (call config) ⟨[], []⟩

variable {config : ServiceConfig} {p : Pending} {ids : List StreamId}
  {queue : List (StreamId × Nat)} {id : StreamId} {now : Nat}

/-! ## The set and the queue -/

/-- The ids of the queue. -/
def queued (p : Pending) : List StreamId := p.queue.map (·.1)

/-- The set holds the ids of the queue, each once. -/
structure Matches (p : Pending) : Prop where
  nodup : p.queued.Nodup
  set : p.ids.Nodup
  ids : ∀ id, id ∈ p.ids ↔ id ∈ p.queued

/-- What holds of the set and the queue at a time after the last call. -/
structure Ordered (resetMax now : Nat) (p : Pending) : Prop extends Matches p where
  length_le : p.queue.length ≤ resetMax
  sorted : (p.queue.map (·.2)).Pairwise (· ≤ ·)
  past : ∀ item ∈ p.queue, item.2 ≤ now

theorem queued_eraseP (queue : List (StreamId × Nat)) (id : StreamId) :
    (queue.eraseP (·.1 == id)).map (·.1) = (queue.map (·.1)).erase id := by
  induction queue with
  | nil => rfl
  | cons item queue ih =>
      rw [List.map_cons, List.erase_cons, List.eraseP_cons]
      cases item.1 == id with
      | true => rfl
      | false => exact congrArg (item.1 :: ·) ih

/-- The id is taken out of both. -/
theorem Matches.erase (h : p.Matches) (id : StreamId) :
    Matches ⟨p.ids.erase id, p.queue.eraseP (·.1 == id)⟩ where
  nodup := by
    show ((p.queue.eraseP _).map _).Nodup
    rw [queued_eraseP]
    exact h.nodup.erase id
  set := h.set.erase id
  ids x := by
    show x ∈ p.ids.erase id ↔ x ∈ (p.queue.eraseP _).map _
    rw [queued_eraseP, h.set.mem_erase_iff, h.ids x]
    exact (h.nodup.mem_erase_iff (l := p.queued)).symm

/-- An id that is not in the set is not in the queue. -/
theorem Matches.eraseP_absent (h : p.Matches) (hid : id ∉ p.ids) :
    p.queue.eraseP (·.1 == id) = p.queue := by
  refine List.eraseP_of_forall_not fun item hitem hkey => hid ((h.ids id).mpr ?_)
  exact List.mem_map.mpr ⟨item, hitem, eq_of_beq hkey⟩

/-- The front of the queue is taken out of both. -/
theorem Matches.pop {item : StreamId × Nat} (h : Matches ⟨ids, item :: queue⟩) :
    Matches ⟨ids.erase item.1, queue⟩ := by
  have herase := h.erase item.1
  dsimp only at herase
  rwa [List.eraseP_cons, beq_self_eq_true] at herase

/-- A new id is put at the back of the queue. -/
theorem Matches.push (h : p.Matches) (hid : id ∉ p.ids) (now : Nat) :
    Matches ⟨p.ids.insert id, p.queue ++ [(id, now)]⟩ where
  nodup := by
    show ((p.queue ++ [(id, now)]).map _).Nodup
    rw [List.map_append, List.map_singleton, List.nodup_append]
    refine ⟨h.nodup, List.nodup_singleton id, fun a ha b hb hab => hid ((h.ids id).mpr ?_)⟩
    have hid' : a = id := hab.trans (List.mem_singleton.mp hb)
    exact hid' ▸ ha
  set := h.set.insert
  ids x := by
    show x ∈ p.ids.insert id ↔ x ∈ (p.queue ++ [(id, now)]).map _
    rw [List.mem_insert_iff, List.map_append, List.mem_append, List.map_singleton,
      List.mem_singleton, h.ids x]
    exact or_comm

/-! ## The loops -/

theorem dropOld_queue (maxTime : Nat) (ids : List StreamId) (queue : List (StreamId × Nat)) :
    (dropOld maxTime ids queue).queue = queue.dropWhile (·.2 < maxTime) := by
  induction queue generalizing ids with
  | nil => rfl
  | cons item queue ih =>
      rw [dropOld, List.dropWhile_cons]
      by_cases hold : item.2 < maxTime
      · rw [if_pos hold, if_pos (decide_eq_true hold)]
        exact ih _
      · rw [if_neg hold, if_neg (by rwa [decide_eq_true_eq])]

theorem dropOld_matches (maxTime : Nat) (h : Matches ⟨ids, queue⟩) :
    (dropOld maxTime ids queue).Matches := by
  induction queue generalizing ids with
  | nil => exact h
  | cons item queue ih =>
      rw [dropOld]
      split
      · exact ih h.pop
      · exact h

theorem shrink_queue (resetMax : Nat) (ids : List StreamId) (queue : List (StreamId × Nat)) :
    (shrink resetMax ids queue).queue = queue.drop (queue.length + 1 - resetMax) := by
  induction queue generalizing ids with
  | nil => exact List.drop_nil.symm
  | cons item queue ih =>
      rw [shrink, List.length_cons]
      by_cases hfull : queue.length + 1 ≥ resetMax
      · rw [if_pos hfull, ih, Nat.succ_sub hfull, List.drop_succ_cons]
      · rw [if_neg hfull, Nat.sub_eq_zero_of_le (by omega), List.drop_zero]

theorem shrink_matches (resetMax : Nat) (h : Matches ⟨ids, queue⟩) :
    (shrink resetMax ids queue).Matches := by
  induction queue generalizing ids with
  | nil => exact h
  | cons item queue ih =>
      rw [shrink]
      split
      · exact ih h.pop
      · exact h

/-! ## One call -/

/-- The part of the queue that a call of `add` keeps, before it makes room. -/
def fresh (config : ServiceConfig) (p : Pending) (id : StreamId) (now : Nat) :
    List (StreamId × Nat) :=
  (p.queue.eraseP (·.1 == id)).dropWhile (·.2 + config.resetDuration < now)

theorem fresh_sublist (config : ServiceConfig) (p : Pending) (id : StreamId) (now : Nat) :
    (p.fresh config id now).Sublist p.queue :=
  (List.dropWhile_sublist _).trans List.eraseP_sublist

/-- `add` puts the id behind the youngest entries that are left. -/
theorem Matches.add (h : p.Matches) (hpos : 1 ≤ config.resetMax) (id : StreamId) (now : Nat) :
    (p.add id config now).Matches ∧
      (p.add id config now).queue =
        (p.fresh config id now).drop ((p.fresh config id now).length + 1 - config.resetMax) ++
          [(id, now)] := by
  unfold Pending.add
  rw [if_neg (Nat.ne_of_gt hpos)]
  dsimp only
  -- the id is taken out first
  have hout : ∃ p1 : Pending, (if p.ids.contains id then
      (⟨p.ids.erase id, p.queue.eraseP (·.1 == id)⟩ : Pending) else p) = p1 ∧ p1.Matches ∧
      id ∉ p1.ids ∧ p1.queue = p.queue.eraseP (·.1 == id) := by
    by_cases hin : id ∈ p.ids
    · refine ⟨_, if_pos (List.contains_iff_mem.mpr hin), h.erase id, ?_, rfl⟩
      exact fun hmem => (h.set.mem_erase_iff.mp hmem).1 rfl
    · exact ⟨p, if_neg (by rwa [List.contains_iff_mem]), h, hin, (h.eraseP_absent hin).symm⟩
  obtain ⟨p1, heq, hp1, hid1, hq1⟩ := hout
  rw [heq]
  -- then the old ids
  have hold : ∃ p2 : Pending, (if config.resetDuration ≤ now then
      dropOld (now - config.resetDuration) p1.ids p1.queue else p1) = p2 ∧ p2.Matches ∧
      p2.queue = p.fresh config id now := by
    unfold fresh
    rw [← hq1]
    by_cases htime : config.resetDuration ≤ now
    · refine ⟨_, if_pos htime, dropOld_matches _ hp1, ?_⟩
      rw [dropOld_queue]
      congr 1
      funext item
      exact decide_eq_decide.mpr (by omega)
    · refine ⟨p1, if_neg htime, hp1, ?_⟩
      cases hqueue : p1.queue with
      | nil => rfl
      | cons item queue =>
          rw [List.dropWhile_cons_of_neg]
          rw [decide_eq_true_eq]
          omega
  obtain ⟨p2, heq2, hp2, hq2⟩ := hold
  rw [heq2, ← hq2, ← shrink_queue config.resetMax p2.ids p2.queue]
  refine ⟨(shrink_matches config.resetMax hp2).push (fun hmem => ?_) now, rfl⟩
  -- what is left of the queue does not hold the id
  have hqueue := ((shrink_matches config.resetMax hp2).ids id).mp hmem
  unfold queued at hqueue
  rw [shrink_queue, hq2] at hqueue
  obtain ⟨item, hitem, hkey⟩ := List.mem_map.mp hqueue
  have hfresh := (List.dropWhile_sublist _).subset ((List.drop_sublist _ _).subset hitem)
  rw [← hq1] at hfresh
  exact hid1 ((hp1.ids id).mpr (List.mem_map.mpr ⟨item, hfresh, hkey⟩))

theorem Matches.remove (h : p.Matches) (id : StreamId) :
    (p.remove id).1.Matches ∧ (p.remove id).1.queue = p.queue.eraseP (·.1 == id) := by
  unfold Pending.remove
  by_cases hin : id ∈ p.ids
  · rw [if_pos (List.contains_iff_mem.mpr hin)]
    exact ⟨h.erase id, rfl⟩
  · rw [if_neg (by rwa [List.contains_iff_mem])]
    exact ⟨h, (h.eraseP_absent hin).symm⟩

theorem ordered_nil (resetMax now : Nat) : Ordered resetMax now ⟨[], []⟩ where
  nodup := List.nodup_nil
  set := List.nodup_nil
  ids _ := Iff.rfl
  length_le := Nat.zero_le _
  sorted := .nil
  past := nofun

/-- A later time, and fewer entries. -/
theorem Ordered.of_sublist {p' : Pending} {resetMax now now' : Nat} (h : p.Ordered resetMax now)
    (hp' : p'.Matches) (hsub : p'.queue.Sublist p.queue) (hle : now ≤ now') :
    p'.Ordered resetMax now' where
  toMatches := hp'
  length_le := hsub.length_le.trans h.length_le
  sorted := h.sorted.sublist (hsub.map _)
  past item hitem := (h.past item (hsub.subset hitem)).trans hle

theorem Ordered.add (h : p.Ordered config.resetMax now) (hpos : 1 ≤ config.resetMax)
    (id : StreamId) {now' : Nat} (hle : now ≤ now') :
    (p.add id config now').Ordered config.resetMax now' := by
  obtain ⟨hmatch, hqueue⟩ := h.toMatches.add hpos id now'
  have hsub := (List.drop_sublist ((p.fresh config id now').length + 1 - config.resetMax)
    (p.fresh config id now')).trans (fresh_sublist config p id now')
  have hpast := fun item hitem => (h.past item (hsub.subset hitem)).trans hle
  refine ⟨hmatch, ?_, ?_, ?_⟩
  · rw [hqueue, List.length_append, List.length_drop, List.length_singleton]
    omega
  · rw [hqueue, List.map_append, List.pairwise_append]
    refine ⟨h.sorted.sublist (hsub.map _), List.pairwise_singleton _ _, fun a ha b hb => ?_⟩
    obtain ⟨item, hitem, rfl⟩ := List.mem_map.mp ha
    rw [List.mem_singleton.mp hb]
    exact hpast item hitem
  · intro item hitem
    rw [hqueue, List.mem_append, List.mem_singleton] at hitem
    rcases hitem with hitem | rfl
    · exact hpast item hitem
    · exact Nat.le_refl _

/-! ## An id that was added -/

/-- The id is in the queue with its time, and only ids of `others` are behind it. -/
def Holds (p : Pending) (id : StreamId) (time : Nat) (others : Finset StreamId) : Prop :=
  ∃ front back, p.queue = front ++ (id, time) :: back ∧ ∀ item ∈ back, item.1 ∈ others

/-- What is behind the id is no more than what was added behind it. -/
theorem Holds.length_back {others : Finset StreamId} {front back : List (StreamId × Nat)}
    {time : Nat} (h : p.Matches) (hq : p.queue = front ++ (id, time) :: back)
    (hback : ∀ item ∈ back, item.1 ∈ others) {other : StreamId} (hnot : other ∉ back.map (·.1)) :
    back.length + 1 ≤ (insert other others).card := by
  have hnodup : (other :: back.map (·.1)).Nodup := by
    have hall := h.nodup
    unfold queued at hall
    rw [hq, List.map_append, List.map_cons] at hall
    exact List.nodup_cons.mpr ⟨hnot, (List.nodup_cons.mp hall.of_append_right).2⟩
  rw [← List.length_map (f := (·.1)), ← List.length_cons (a := other),
    ← List.toFinset_card_of_nodup hnodup]
  refine Finset.card_le_card fun x hx => ?_
  rw [List.mem_toFinset, List.mem_cons] at hx
  rcases hx with rfl | hx
  · exact Finset.mem_insert_self ..
  · obtain ⟨item, hitem, rfl⟩ := List.mem_map.mp hx
    exact Finset.mem_insert_of_mem (hback item hitem)

/-- Another id is taken out in front of the id, or behind it. -/
theorem Holds.erase {others : Finset StreamId} {time : Nat} (h : p.Holds id time others)
    {other : StreamId} (hne : other ≠ id) :
    ∃ front back, p.queue.eraseP (·.1 == other) = front ++ (id, time) :: back ∧
      ∀ item ∈ back, item.1 ∈ others := by
  obtain ⟨front, back, hq, hback⟩ := h
  rw [hq, List.eraseP_append]
  by_cases hfront : front.any (·.1 == other)
  · rw [if_pos hfront]
    exact ⟨_, back, rfl, hback⟩
  · rw [if_neg hfront, List.eraseP_cons, show (id == other) = false from beq_eq_false_iff_ne.mpr
      hne.symm]
    exact ⟨front, _, rfl, fun item hitem => hback item (List.mem_of_mem_eraseP hitem)⟩

theorem Holds.remove {others : Finset StreamId} {time : Nat} (h : p.Holds id time others)
    (hp : p.Matches) {other : StreamId} (hne : other ≠ id) :
    (p.remove other).1.Holds id time others := by
  obtain ⟨front, back, hq, hback⟩ := h.erase hne
  exact ⟨front, back, (hp.remove other).2.trans hq, hback⟩

/-- Another id that comes soon enough leaves the id in the queue, while there is room. -/
theorem Holds.add {others : Finset StreamId} {time : Nat} (h : p.Holds id time others)
    (hp : p.Matches) (hpos : 1 ≤ config.resetMax) {other : StreamId} (hne : other ≠ id)
    (hsoon : now ≤ time + config.resetDuration)
    (hroom : (insert other others).card < config.resetMax) :
    (p.add other config now).Holds id time (insert other others) := by
  obtain ⟨front, back, hq, hback⟩ := h.erase hne
  -- the entry is young enough to stop the loop over old ids
  have hfresh : p.fresh config other now =
      front.dropWhile (·.2 + config.resetDuration < now) ++ (id, time) :: back := by
    unfold fresh
    rw [hq, List.dropWhile_append]
    split
    · next hempty =>
        rw [List.isEmpty_iff.mp hempty, List.nil_append, List.dropWhile_cons_of_neg]
        rw [decide_eq_true_eq]
        exact Nat.not_lt.mpr hsoon
    · rfl
  -- and the loop that makes room stops in front of it
  have hp' := hp.erase other
  have hnot : other ∉ back.map (·.1) := by
    intro hmem
    have hall : other ∈ (p.queue.eraseP (·.1 == other)).map (·.1) := by
      rw [hq, List.map_append, List.map_cons]
      exact List.mem_append_right _ (List.mem_cons_of_mem _ hmem)
    rw [queued_eraseP] at hall
    exact (hp.nodup.mem_erase_iff.mp hall).1 rfl
  have hlen := Holds.length_back hp' hq hback hnot
  have hdrop : (p.fresh config other now).length + 1 - config.resetMax ≤
      (front.dropWhile (·.2 + config.resetDuration < now)).length := by
    rw [hfresh, List.length_append, List.length_cons]
    omega
  rw [hfresh] at hdrop
  have hqueue := (hp.add hpos other now).2
  rw [hfresh, List.drop_append_of_le_length hdrop, List.append_assoc, List.cons_append] at hqueue
  refine ⟨_, back ++ [(other, now)], hqueue, ?_⟩
  intro item hitem
  rw [List.mem_append, List.mem_singleton] at hitem
  rcases hitem with hitem | rfl
  · exact Finset.mem_insert_of_mem (hback item hitem)
  · exact Finset.mem_insert_self ..

theorem Holds.isPending {others : Finset StreamId} {time : Nat} (h : p.Holds id time others)
    (hp : p.Matches) : p.isPending id = true := by
  obtain ⟨front, back, hq, -⟩ := h
  refine List.contains_iff_mem.mpr ((hp.ids id).mpr (List.mem_map.mpr ⟨(id, time), ?_, rfl⟩))
  rw [hq]
  exact List.mem_append_right _ List.mem_cons_self

/-! ## Runs -/

/-- The distinct ids that some calls add. -/
def addedBy (calls : List Call) : Finset StreamId := (calls.filterMap Call.added?).toFinset

/-- The times of some calls. -/
def times (calls : List Call) : List Nat := calls.filterMap Call.time?

theorem times_append (calls calls' : List Call) :
    times (calls ++ calls') = times calls ++ times calls' := List.filterMap_append

/-- A run keeps the set and the queue in order. -/
theorem Ordered.run (hpos : 1 ≤ config.resetMax) (calls : List Call) :
    ∀ {p : Pending} {now : Nat}, p.Ordered config.resetMax now →
      (times calls).Pairwise (· ≤ ·) → (∀ t ∈ times calls, now ≤ t) →
      ∃ now', (calls.foldl (call config) p).Ordered config.resetMax now' := by
  induction calls with
  | nil => exact fun h _ _ => ⟨_, h⟩
  | cons c calls ih =>
      intro p now h hmono hpast
      cases c with
      | add id t =>
          have htimes : (t :: times calls).Pairwise (· ≤ ·) := hmono
          rw [List.pairwise_cons] at htimes
          exact ih (h.add hpos id (hpast t List.mem_cons_self)) htimes.2 htimes.1
      | remove id =>
          obtain ⟨hmatch, hqueue⟩ := h.toMatches.remove id
          exact ih (h.of_sublist hmatch (hqueue ▸ List.eraseP_sublist) (Nat.le_refl now)) hmono
            hpast

/-- While nobody names the id, it stays in the queue until there is no room or no time left. -/
theorem Holds.run (hpos : 1 ≤ config.resetMax) {time : Nat} (calls : List Call) :
    ∀ {p : Pending} {others : Finset StreamId}, p.Matches → p.Holds id time others →
      (∀ c ∈ calls, c.id ≠ id) → (∀ t ∈ times calls, t ≤ time + config.resetDuration) →
      (others ∪ addedBy calls).card < config.resetMax →
      ∃ others', (calls.foldl (call config) p).Holds id time others' ∧
        (calls.foldl (call config) p).Matches := by
  induction calls with
  | nil => exact fun hp h _ _ _ => ⟨_, h, hp⟩
  | cons c calls ih =>
      intro p others hp h hother hsoon hroom
      have hne := hother c List.mem_cons_self
      have hother' := fun c hc => hother c (List.mem_cons_of_mem _ hc)
      cases c with
      | add other t =>
          have hadded : addedBy (.add other t :: calls) = insert other (addedBy calls) :=
            List.toFinset_cons
          rw [hadded, Finset.union_insert, ← Finset.insert_union] at hroom
          have hfits := (Finset.card_le_card Finset.subset_union_left).trans_lt hroom
          have hnext := h.add hp hpos hne (hsoon t List.mem_cons_self) hfits
          exact ih (hp.add hpos other t).1 hnext hother'
            (fun t ht => hsoon t (List.mem_cons_of_mem _ ht)) hroom
      | remove other =>
          exact ih (hp.remove other).1 (h.remove hp hne) hother' hsoon hroom

/-- Without room nothing is kept. -/
theorem run_disabled (hzero : config.resetMax = 0) (calls : List Call) :
    run config calls = ⟨[], []⟩ := by
  unfold run
  induction calls with
  | nil => rfl
  | cons c calls ih =>
      rw [List.foldl_cons]
      have hone : call config ⟨[], []⟩ c = ⟨[], []⟩ := by
        cases c with
        | add id now => exact if_pos hzero
        | remove id => rfl
      rw [hone]
      exact ih

/-- The set and the queue hold the most recent ids: at most `reset_max` of them, in order of
time, each once; and an id stays unless `reset_max` others came after it, or one came more than
`reset_duration` later. -/
theorem recent_resets_pending (config : ServiceConfig) (calls : List Call)
    (hmono : (times calls).Pairwise (· ≤ ·)) :
    (config.resetMax = 0 → ∀ id, (run config calls).isPending id = false) ∧
    (1 ≤ config.resetMax →
      (run config calls).queued.Nodup ∧ (run config calls).queue.length ≤ config.resetMax ∧
      ((run config calls).queue.map (·.2)).Pairwise (· ≤ ·) ∧
      (∀ id, id ∈ (run config calls).ids ↔ id ∈ (run config calls).queued) ∧
      ∀ before id time behind, calls = before ++ .add id time :: behind →
        (∀ c ∈ behind, c.id ≠ id) →
        (run config calls).isPending id = true ∨ config.resetMax ≤ (addedBy behind).card ∨
          ∃ t ∈ times behind, time + config.resetDuration < t) := by
  refine ⟨fun hzero id => by rw [run_disabled hzero]; rfl, fun hpos => ?_⟩
  obtain ⟨now, h⟩ := (ordered_nil config.resetMax 0).run hpos calls hmono fun _ _ => Nat.zero_le _
  refine ⟨h.nodup, h.length_le, h.sorted, h.ids, ?_⟩
  rintro before id time behind rfl hother
  by_cases hroom : config.resetMax ≤ (addedBy behind).card
  · exact .inr (.inl hroom)
  by_cases hsoon : ∃ t ∈ times behind, time + config.resetDuration < t
  · exact .inr (.inr hsoon)
  -- the id is added at the back of the queue, and stays there
  rw [times_append] at hmono
  obtain ⟨now', hbefore⟩ := (ordered_nil config.resetMax 0).run hpos before
    (List.pairwise_append.mp hmono).1 fun _ _ => Nat.zero_le _
  obtain ⟨hmatch, hqueue⟩ := hbefore.toMatches.add hpos id time
  have hholds : ((before.foldl (call config) ⟨[], []⟩).add id config time).Holds id time ∅ :=
    ⟨_, [], hqueue, nofun⟩
  push Not at hsoon
  obtain ⟨others, hstays, hend⟩ := hholds.run hpos behind hmatch hother hsoon
    (by rw [Finset.empty_union]; omega)
  refine .inl ?_
  unfold run
  rw [List.foldl_append, List.foldl_cons]
  exact hstays.isPending hend

/-- An id that is added again, with another id behind it that is removed. -/
def refreshedCalls : List Call := [.add 1 0, .add 3 10, .add 1 20, .remove 3, .add 5 50]

theorem recent_resets_pending_refreshed :
    (run ServiceConfig.new refreshedCalls).queued.Nodup ∧
      (run ServiceConfig.new refreshedCalls).isPending 1 = true := by
  obtain ⟨-, h⟩ := recent_resets_pending ServiceConfig.new refreshedCalls (by decide)
  obtain ⟨hnodup, -, -, -, hrecent⟩ := h (by decide)
  refine ⟨hnodup, ?_⟩
  rcases hrecent [.add 1 0, .add 3 10] 1 20 [.remove 3, .add 5 50] rfl (by decide) with h | h | h
  · exact h
  · exact absurd h (by decide)
  · exact absurd h (by decide)

end Pending

end NtexH2
