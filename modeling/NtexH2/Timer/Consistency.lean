/-
  Timer/Consistency.lean --- the timer registry is consistent.

  Whatever streams start and stop their timers, and however often the driver ends and
  starts again: between steps the map of streams and the buckets are inverse to each other, the
  flags say who is registered, and one driver runs if anyone is.  Seen from outside, a timer
  fires for the last registration of its stream, which has not ended in between, and not before
  its time has passed.
-/
import NtexH2.Timer.Registry

set_option autoImplicit false

namespace NtexH2.Timer

open Lib

variable {α : Type}

/-! ## Buckets -/

/-- The stream is in the bucket. -/
def InBucket (m : OrderedMap Nat (List α)) (a : α) (h : Nat) : Prop :=
  ∃ items, m.get? h = some items ∧ a ∈ items

theorem not_inBucket_empty (a : α) (h : Nat) : ¬InBucket .empty a h := by
  rintro ⟨items, hget, -⟩
  cases hget

theorem inBucket_newItem {m : OrderedMap Nat (List α)} {hnd h : Nat} {io a : α}
    (hget : m.get? hnd = none) :
    InBucket (m.insert hnd [io]) a h ↔ InBucket m a h ∨ a = io ∧ h = hnd := by
  unfold InBucket
  rw [OrderedMap.get?_insert]
  by_cases hk : h = hnd
  · rw [if_pos hk, hk, hget]
    simp
  · rw [if_neg hk]
    simp [hk]

/-- The map and the buckets are inverse to each other, and the sets in the cache are empty. -/
structure InnerMut.Sound (s : InnerMut α) : Prop where
  inverse : ∀ a h, InBucket s.notifications a h ↔ s.streams a = some h
  cache : ∀ items ∈ s.cache, items = []

theorem InnerMut.sound_new : (new : InnerMut α).Sound where
  inverse := fun a h => iff_of_false (not_inBucket_empty a h) (by rintro ⟨⟩)
  cache := fun _ h => absurd h List.not_mem_nil

variable [DecidableEq α]

theorem mem_removeItem {a io : α} {items : List α} :
    a ∈ removeItem io items ↔ a ∈ items ∧ a ≠ io := by
  rw [removeItem, List.mem_filter, decide_eq_true_eq]

theorem inBucket_removeItem {m : OrderedMap Nat (List α)} {key h : Nat} {io a : α} :
    InBucket (m.modify key (removeItem io)) a h ↔ InBucket m a h ∧ ¬(a = io ∧ h = key) := by
  unfold InBucket
  rw [OrderedMap.get?_modify]
  by_cases hk : h = key
  · rw [if_pos hk]
    cases m.get? h with
    | none => simp
    | some items => simp [mem_removeItem, hk]
  · rw [if_neg hk]
    simp [hk]

theorem inBucket_insertItem {m : OrderedMap Nat (List α)} {hnd h : Nat} {io a : α}
    {items : List α} (hget : m.get? hnd = some items) :
    InBucket (m.modify hnd (·.insert io)) a h ↔ InBucket m a h ∨ a = io ∧ h = hnd := by
  unfold InBucket
  rw [OrderedMap.get?_modify]
  by_cases hk : h = hnd
  · rw [if_pos hk, hk, hget]
    simp [or_comm]
  · rw [if_neg hk]
    simp [hk]

/-! ## The storage -/

namespace InnerMut

variable {s : InnerMut α}

theorem Sound.unregister (hs : s.Sound) (io : α) : (s.unregister io).Sound := by
  unfold InnerMut.unregister
  cases hio : s.streams io with
  | none => exact hs
  | some id =>
      refine ⟨fun a h => ?_, hs.cache⟩
      simp only
      rw [inBucket_removeItem, hs.inverse, Function.update_apply]
      by_cases ha : a = io
      · rw [if_pos ha, ha, hio]
        simp [eq_comm]
      · rw [if_neg ha]
        simp [ha]

theorem unregister_streams (s : InnerMut α) (io : α) :
    (s.unregister io).streams = Function.update s.streams io none := by
  unfold InnerMut.unregister
  cases hio : s.streams io with
  | none => exact (Function.update_eq_self_iff.mpr hio.symm).symm
  | some id => rfl

theorem insertKey_streams (s : InnerMut α) (hnd : Nat) (io : α) :
    (s.insertKey hnd io).streams = s.streams := by
  unfold insertKey
  split
  · rfl
  · rfl

theorem Sound.insertKey (hs : s.Sound) (hnd : Nat) (io a : α) (h : Nat) :
    InBucket (s.insertKey hnd io).notifications a h ↔
      InBucket s.notifications a h ∨ a = io ∧ h = hnd := by
  unfold InnerMut.insertKey
  split
  · rename_i items hget
    exact inBucket_insertItem hget
  · rename_i hget
    -- a set that comes from the cache is empty
    have hempty : s.cache.headD [] = [] := by
      cases hc : s.cache with
      | nil => rfl
      | cons items l =>
          rw [List.headD_cons]
          exact hs.cache items (hc ▸ List.mem_cons_self)
    simp only [hempty]
    exact inBucket_newItem hget

theorem Sound.insertKey_cache (hs : s.Sound) (hnd : Nat) (io : α) :
    ∀ items ∈ (s.insertKey hnd io).cache, items = [] := by
  unfold InnerMut.insertKey
  split
  · exact hs.cache
  · exact fun items h => hs.cache items (List.mem_of_mem_tail h)

theorem Sound.register (hs : s.Sound) (hnd : Nat) (io : α) : (s.register hnd io).Sound := by
  have hstreams := insertKey_streams s hnd io
  have hbucket := hs.insertKey hnd io
  have hcache := hs.insertKey_cache hnd io
  unfold InnerMut.register removeOther
  generalize s.insertKey hnd io = s1 at hstreams hbucket hcache
  rw [hstreams]
  cases hio : s.streams io with
  | none =>
      refine ⟨fun a h => ?_, hcache⟩
      simp only
      rw [hbucket, hs.inverse, hstreams, Function.update_apply]
      by_cases ha : a = io
      · rw [if_pos ha, ha, hio]
        simp [eq_comm]
      · rw [if_neg ha]
        simp [ha]
  | some key =>
      by_cases hkey : key = hnd
      · -- registered for the same tick
        simp only [ne_eq, hkey, not_true_eq_false, if_false]
        refine ⟨fun a h => ?_, hcache⟩
        simp only
        rw [hbucket, hs.inverse, hstreams, Function.update_apply]
        by_cases ha : a = io
        · rw [if_pos ha, ha, hio, hkey]
          simp [eq_comm]
        · rw [if_neg ha]
          simp [ha]
      · simp only [ne_eq, hkey, not_false_eq_true, if_true]
        refine ⟨fun a h => ?_, hcache⟩
        simp only
        rw [inBucket_removeItem, hbucket, hs.inverse, Function.update_apply]
        by_cases ha : a = io
        · rw [if_pos ha, ha, hio]
          simp only [true_and, Option.some.injEq]
          constructor
          · rintro ⟨h1 | h1, h2⟩
            · exact absurd h1.symm h2
            · exact h1.symm
          · rintro rfl
            exact ⟨.inr rfl, fun h => hkey h.symm⟩
        · rw [if_neg ha]
          simp [ha]

theorem register_streams (s : InnerMut α) (hnd : Nat) (io : α) :
    (s.register hnd io).streams = Function.update s.streams io (some hnd) := by
  have hstreams := insertKey_streams s hnd io
  unfold InnerMut.register removeOther
  generalize s.insertKey hnd io = s1 at hstreams
  rw [← hstreams]
  split
  · split
    · rfl
    · rfl
  · rfl

end InnerMut

/-! ## Expiry -/

/-- Draining a bucket takes out the streams that are registered for it. -/
theorem drain_spec (key : Nat) (items : List α) :
    ∀ (streams : α → Option Nat) (expired : List α), ∃ out,
      (drain key items streams expired).2 = expired ++ out ∧ out.Nodup ∧
      (∀ a, a ∈ out ↔ a ∈ items ∧ streams a = some key) ∧
      ∀ a, (drain key items streams expired).1 a =
        if a ∈ items ∧ streams a = some key then none else streams a := by
  induction items with
  | nil =>
      intro streams expired
      exact ⟨[], (List.append_nil _).symm, List.nodup_nil, by simp, by simp [drain]⟩
  | cons io items ih =>
      intro streams expired
      rw [drain]
      by_cases hio : streams io = some key
      · obtain ⟨out, hout, hnodup, hmem, hrest⟩ :=
          ih (Function.update streams io none) (expired ++ [io])
        simp only [hio, if_true]
        have hnot : io ∉ out := by
          rw [hmem, Function.update_self]
          rintro ⟨-, ⟨⟩⟩
        refine ⟨io :: out, by rw [hout, List.append_assoc]; rfl, List.nodup_cons.mpr ⟨hnot, hnodup⟩,
          fun a => ?_, fun a => ?_⟩
        · rw [List.mem_cons, List.mem_cons, hmem, Function.update_apply]
          by_cases ha : a = io
          · simp [ha, hio]
          · simp [ha]
        · rw [hrest, Function.update_apply]
          by_cases ha : a = io
          · simp [ha, hio]
          · simp [ha]
      · -- not registered for this bucket
        obtain ⟨out, hout, hnodup, hmem, hrest⟩ := ih streams expired
        have hskip : ∀ a, a ∈ items ∧ streams a = some key ↔
            a ∈ io :: items ∧ streams a = some key := by
          intro a
          rw [List.mem_cons]
          constructor
          · exact fun h => ⟨.inr h.1, h.2⟩
          · rintro ⟨rfl | h, ha⟩
            · exact absurd ha hio
            · exact ⟨h, ha⟩
        simp only [hskip] at hmem hrest
        cases hs : streams io with
        | none => exact ⟨out, hout, hnodup, hmem, hrest⟩
        | some hnd =>
            have hne : hnd ≠ key := fun h => hio (by rw [hs, h])
            simp only [hne, if_false]
            exact ⟨out, hout, hnodup, hmem, hrest⟩

/-- Out of the registrations `regs` the driver has collected those that are due, and `s` is what is
left. -/
structure Collected (regs : α → Option Nat) (current : Nat) (s : InnerMut α)
    (expired : List α) : Prop where
  sound : s.Sound
  left : ∀ a, s.streams a = (regs a).filter (current < ·)
  nodup : expired.Nodup
  mem : ∀ a, a ∈ expired ↔ ∃ h, regs a = some h ∧ h ≤ current

/-- The loop of the driver, on buckets that hold exactly the registrations `regs`. -/
theorem expireLoop_collects (current : Nat) (l : List (Nat × List α)) :
    ∀ (hl : l.Pairwise fun a b => a.1 < b.1) (cache : List (List α)) (regs : α → Option Nat)
      (expired : List α),
    (∀ a h, (∃ items, (h, items) ∈ l ∧ a ∈ items) ↔ regs a = some h) →
    (∀ items ∈ cache, items = []) →
    ∃ out, (expireLoop current l hl cache regs expired).2 = expired ++ out ∧
      Collected regs current (expireLoop current l hl cache regs expired).1 out := by
  induction l with
  | nil =>
      intro hl cache regs expired hregs hcache
      have hnone : ∀ a, regs a = none := by
        intro a
        cases ha : regs a with
        | none => rfl
        | some h =>
            obtain ⟨items, hmem, -⟩ := (hregs a h).mpr ha
            cases hmem
      obtain rfl : regs = fun _ => none := funext hnone
      refine ⟨[], (List.append_nil _).symm, ⟨⟨fun a h => ?_, hcache⟩, fun _ => rfl, List.nodup_nil,
        fun a => ?_⟩⟩
      · exact iff_of_false (not_inBucket_empty a h) (by rintro ⟨⟩)
      · simp
  | cons e l ih =>
      obtain ⟨key, items⟩ := e
      intro hl cache regs expired hregs hcache
      have hlater := (List.pairwise_cons.mp hl).1
      rw [expireLoop]
      by_cases hkey : key ≤ current
      · rw [if_pos hkey]
        obtain ⟨out, hout, hnodup, hmem, hrest⟩ := drain_spec key items regs expired
        -- the first bucket holds the registrations of its key
        have hitems : ∀ a, a ∈ items ∧ regs a = some key ↔ regs a = some key := by
          intro a
          refine and_iff_right_of_imp fun ha => ?_
          obtain ⟨items', hin, ha'⟩ := (hregs a key).mpr ha
          rcases List.mem_cons.mp hin with heq | hin
          · cases heq
            exact ha'
          · exact absurd (hlater _ hin) (lt_irrefl _)
        simp only [hitems] at hmem hrest
        generalize drain key items regs expired = r at hout hrest
        obtain ⟨regs', expired'⟩ := r
        dsimp only at hout hrest ⊢
        have hregs' : ∀ a h, (∃ items, (h, items) ∈ l ∧ a ∈ items) ↔ regs' a = some h := by
          intro a h
          rw [hrest]
          constructor
          · rintro ⟨items', hin, ha⟩
            have hreg := (hregs a h).mp ⟨items', List.mem_cons_of_mem _ hin, ha⟩
            have hlt := hlater _ hin
            rw [if_neg (by rw [hreg, Option.some.injEq]; exact ne_of_gt hlt), hreg]
          · split
            · rintro ⟨⟩
            · rename_i hne
              intro hreg
              obtain ⟨items', hin, ha⟩ := (hregs a h).mpr hreg
              rcases List.mem_cons.mp hin with heq | hin
              · cases heq
                exact absurd hreg hne
              · exact ⟨items', hin, ha⟩
        have hcache' : ∀ items ∈ (if cache.length ≤ cap then cache ++ [[]] else cache),
            items = [] := by
          intro items hin
          split at hin
          · rcases List.mem_append.mp hin with hin | hin
            · exact hcache items hin
            · exact List.mem_singleton.mp hin
          · exact hcache items hin
        obtain ⟨out', hout', hcoll⟩ := ih hl.of_cons _ regs' expired' hregs' hcache'
        refine ⟨out ++ out', by rw [hout', hout, List.append_assoc], hcoll.sound, fun a => ?_, ?_,
          fun a => ?_⟩
        · rw [hcoll.left, hrest]
          split
          · rename_i ha
            rw [ha, Option.filter_some, if_neg (by simpa using hkey)]
            rfl
          · rfl
        · refine List.nodup_append.mpr ⟨hnodup, hcoll.nodup, ?_⟩
          rintro a ha b hb rfl
          obtain ⟨h, hreg, -⟩ := (hcoll.mem a).mp hb
          rw [hrest, if_pos ((hmem a).mp ha)] at hreg
          cases hreg
        · rw [List.mem_append, hmem, hcoll.mem, hrest]
          constructor
          · rintro (ha | ⟨h, ha, hle⟩)
            · exact ⟨key, ha, hkey⟩
            · split at ha
              · cases ha
              · exact ⟨h, ha, hle⟩
          · rintro ⟨h, ha, hle⟩
            by_cases hk : regs a = some key
            · exact .inl hk
            · exact .inr ⟨h, by rw [if_neg hk]; exact ha, hle⟩
      · -- this bucket and all behind it are later
        rw [if_neg hkey]
        have hlate : ∀ a h, regs a = some h → current < h := by
          intro a h ha
          obtain ⟨items', hin, -⟩ := (hregs a h).mpr ha
          rcases List.mem_cons.mp hin with heq | hin
          · cases heq
            exact not_le.mp hkey
          · exact lt_trans (not_le.mp hkey) (hlater _ hin)
        refine ⟨[], (List.append_nil _).symm, ⟨fun a h => ?_, hcache⟩, fun a => ?_, List.nodup_nil,
          fun a => ?_⟩
        · rw [← hregs]
          simp only [InBucket, OrderedMap.get?_eq_some]
        · cases ha : regs a with
          | none => exact ha
          | some h =>
              rw [Option.filter_some, if_pos (decide_eq_true (hlate a h ha))]
              exact ha
        · refine iff_of_false List.not_mem_nil ?_
          rintro ⟨h, ha, hle⟩
          exact absurd (hlate a h ha) (not_lt.mpr hle)

theorem InnerMut.Sound.expire {s : InnerMut α} (hs : s.Sound) (current : Nat) :
    Collected s.streams current (s.expire current).1 (s.expire current).2 := by
  obtain ⟨out, hout, hcoll⟩ := expireLoop_collects current s.notifications.entries
    s.notifications.sorted s.cache s.streams [] (fun a h => by
      rw [← hs.inverse]
      simp only [InBucket, OrderedMap.get?_eq_some]) hs.cache
  rw [List.nil_append] at hout
  rw [← hout] at hcoll
  exact hcoll

/-! ## The registry -/

namespace Registry

/-- The storage is sound, the flags say who is registered, and one driver runs if anyone is. -/
structure Sound (r : Registry α) : Prop where
  storage : r.storage.Sound
  flag : ∀ a, r.capacityTimer a = (r.storage.streams a).isSome
  idle : r.running = false → ∀ a, r.storage.streams a = none
  driver : r.spawned + r.looping = if r.running then 1 else 0

variable {r : Registry α}

omit [DecidableEq α] in
theorem sound_new : (new : Registry α).Sound where
  storage := InnerMut.sound_new
  flag := fun _ => rfl
  idle := fun _ _ => rfl
  driver := rfl

omit [DecidableEq α] in
/-- The registry without a driver has no streams. -/
theorem Sound.running_of_streams (hr : r.Sound) {a : α} {h : Nat}
    (ha : r.storage.streams a = some h) : r.running = true := by
  cases hrun : r.running with
  | true => rfl
  | false =>
      rw [hr.idle hrun a] at ha
      cases ha

/-- The tick at which a registration expires that is made now. -/
def handle (r : Registry α) (timeout clock : Nat) : Nat :=
  (if r.running then r.current else clock) + timeout

theorem register_fields (r : Registry α) (timeout clock : Nat) (io : α) :
    (r.register timeout clock io).storage = r.storage.register (r.handle timeout clock) io ∧
    (r.register timeout clock io).capacityTimer = r.capacityTimer ∧
    (r.register timeout clock io).running = true ∧
    (r.register timeout clock io).current = (if r.running then r.current else clock) ∧
    (r.register timeout clock io).looping = r.looping ∧
    (r.register timeout clock io).spawned = if r.running then r.spawned else r.spawned + 1 := by
  unfold register handle
  cases r.running with
  | true => simp
  | false => simp

/-- A stream is registered, once its flag is set. -/
theorem Sound.register (hr : r.Sound) (timeout clock : Nat) (io : α) :
    ((r.setFlag io true).register timeout clock io).Sound := by
  obtain ⟨hstorage, hflag, hrun, -, hlooping, hspawned⟩ :=
    register_fields (r.setFlag io true) timeout clock io
  refine ⟨?_, fun a => ?_, fun h => ?_, ?_⟩
  · rw [hstorage]
    exact hr.storage.register _ io
  · rw [hflag, hstorage, InnerMut.register_streams]
    show Function.update r.capacityTimer io true a =
      (Function.update r.storage.streams io (some _) a).isSome
    rw [Function.update_apply, Function.update_apply]
    split
    · rfl
    · exact hr.flag a
  · rw [hrun] at h
    cases h
  · have hdriver := hr.driver
    rw [hrun, hlooping, hspawned]
    show (if r.running then r.spawned else r.spawned + 1) + r.looping = 1
    cases hrun' : r.running with
    | true =>
        rw [hrun', if_pos rfl] at hdriver
        rw [if_pos rfl, hdriver]
    | false =>
        rw [hrun', if_neg Bool.false_ne_true] at hdriver
        rw [if_neg Bool.false_ne_true]
        omega

theorem setFlag_self {io : α} {b : Bool} (h : r.capacityTimer io = b) : r.setFlag io b = r := by
  rw [setFlag, Function.update_eq_self_iff.mpr h.symm]

theorem Sound.startCapacityTimer (hr : r.Sound) (timeout : Option Nat) (clock : Nat) (io : α) :
    (r.startCapacityTimer timeout clock io).Sound := by
  unfold Registry.startCapacityTimer
  split
  · exact hr
  · split
    · exact hr.register _ clock io
    · exact hr

theorem stopCapacityTimer_streams (hr : r.Sound) (io : α) :
    (r.stopCapacityTimer io).storage.streams = Function.update r.storage.streams io none := by
  unfold stopCapacityTimer
  split
  · exact InnerMut.unregister_streams _ io
  · rename_i hflag
    rw [hr.flag io, Option.not_isSome_iff_eq_none] at hflag
    exact (Function.update_eq_self_iff.mpr hflag.symm).symm

theorem Sound.stopCapacityTimer (hr : r.Sound) (io : α) : (r.stopCapacityTimer io).Sound := by
  have hstreams := stopCapacityTimer_streams hr io
  unfold Registry.stopCapacityTimer at hstreams ⊢
  split
  · rename_i hflag
    rw [if_pos hflag] at hstreams
    refine ⟨hr.storage.unregister io, fun a => ?_, fun h a => ?_, hr.driver⟩
    · rw [hstreams]
      show Function.update r.capacityTimer io false a = _
      rw [Function.update_apply, Function.update_apply]
      split
      · rfl
      · exact hr.flag a
    · rw [hstreams, Function.update_apply, hr.idle h, ite_self]
  · exact hr

/-! ## The driver -/

theorem foldl_capacityTimeout (drops : α → Bool) (l : List α) : ∀ r : Registry α,
    l.foldl (fun r io => r.capacityTimeout (drops io) io) r =
      { r with capacityTimer := fun a => if a ∈ l then false else r.capacityTimer a } := by
  induction l with
  | nil =>
      intro r
      simp
  | cons io l ih =>
      intro r
      rw [List.foldl_cons, capacityTimeout_eq, ih, setFlag]
      congr 1
      funext a
      show (if a ∈ l then false else Function.update r.capacityTimer io false a) = _
      rw [Function.update_apply]
      by_cases ha : a = io
      · simp [ha]
      · simp [ha]

omit [DecidableEq α] in
/-- The guard leaves nobody registered. -/
theorem dropGuard_sound (hr : r.Sound) {n : Nat} (hn : r.spawned + n = 0) :
    ({ r.dropGuard with looping := n } : Registry α).Sound where
  storage :=
    { inverse := fun a h => iff_of_false (not_inBucket_empty a h) (by rintro ⟨⟩)
      cache := hr.storage.cache }
  flag := fun a => by
    show (if (r.storage.streams a).isSome then false else r.capacityTimer a) = false
    rw [hr.flag a]
    split
    · rfl
    · rename_i h
      exact Bool.eq_false_iff.mpr h
  idle := fun _ _ => rfl
  driver := hn

omit [DecidableEq α] in
/-- A driver that loops is the only one. -/
theorem Sound.only (hr : r.Sound) (h : 0 < r.looping) :
    r.running = true ∧ r.spawned = 0 ∧ r.looping = 1 := by
  have hdriver := hr.driver
  cases hrun : r.running with
  | true =>
      rw [hrun, if_pos rfl] at hdriver
      exact ⟨rfl, by omega, by omega⟩
  | false =>
      rw [hrun, if_neg Bool.false_ne_true] at hdriver
      omega

/-- The registry behind a round of the driver, before it ends or sleeps again. -/
def ticked (r : Registry α) : Registry α :=
  { r with
    current := r.current + 1
    storage := (r.storage.expire r.current).1
    capacityTimer := fun a =>
      if a ∈ (r.storage.expire r.current).2 then false else r.capacityTimer a }

theorem Sound.ticked (hr : r.Sound) : r.ticked.Sound := by
  have hcoll := hr.storage.expire r.current
  refine ⟨hcoll.sound, fun a => ?_, fun h a => ?_, hr.driver⟩
  · show (if a ∈ (r.storage.expire r.current).2 then false else r.capacityTimer a) = _
    rw [show r.ticked.storage.streams a = _ from hcoll.left a, hr.flag]
    by_cases ha : a ∈ (r.storage.expire r.current).2
    · obtain ⟨h, hreg, hle⟩ := (hcoll.mem a).mp ha
      rw [if_pos ha, hreg, Option.filter_some, if_neg (by simpa using hle)]
      rfl
    · rw [if_neg ha]
      cases hreg : r.storage.streams a with
      | none => rfl
      | some h =>
          have hlate : r.current < h := by
            by_contra hle
            exact ha ((hcoll.mem a).mpr ⟨h, hreg, not_lt.mp hle⟩)
          rw [Option.filter_some, if_pos (decide_eq_true hlate)]
  · show (r.storage.expire r.current).1.streams a = none
    rw [hcoll.left, hr.idle h]
    rfl

/-- A round of the driver. -/
theorem tick_eq (r : Registry α) (drops : α → Bool) :
    r.tick drops =
      if (r.storage.expire r.current).1.notifications.isEmpty then
        ({ ({ r.ticked with running := false } : Registry α).dropGuard with
            looping := r.looping - 1 }, (r.storage.expire r.current).2)
      else (r.ticked, (r.storage.expire r.current).2) := by
  unfold tick
  dsimp only
  rw [foldl_capacityTimeout]
  split
  · rfl
  · rfl

theorem tick_fired (r : Registry α) (drops : α → Bool) :
    (r.tick drops).2 = (r.storage.expire r.current).2 := by
  rw [tick_eq]
  split
  · rfl
  · rfl

theorem Sound.tick (hr : r.Sound) (hlooping : 0 < r.looping) (drops : α → Bool) :
    (r.tick drops).1.Sound := by
  have ht := hr.ticked
  obtain ⟨-, hspawned, hone⟩ := hr.only hlooping
  rw [tick_eq]
  split
  · -- `dropGuard` looks neither at the flag nor at the tasks
    have hguard := dropGuard_sound ht (n := r.looping - 1) (by
      show r.spawned + (r.looping - 1) = 0
      omega)
    exact hguard
  · exact ht

theorem Sound.step (hr : r.Sound) {a : Step α} (ha : r.Enabled a) : (r.step a).1.Sound := by
  cases a with
  | start timeout clock io => exact hr.startCapacityTimer timeout clock io
  | restart timeout clock io =>
      have h := hr.register timeout clock io
      rw [setFlag_self ha] at h
      exact h
  | stop io => exact hr.stopCapacityTimer io
  | poll =>
      refine ⟨hr.storage, hr.flag, hr.idle, ?_⟩
      have hdriver := hr.driver
      have hpos : 0 < r.spawned := ha
      show r.spawned - 1 + (r.looping + 1) = if r.running then 1 else 0
      omega
  | tick drops => exact hr.tick ha drops
  | cancel =>
      obtain ⟨-, hspawned, hone⟩ := hr.only ha
      exact dropGuard_sound hr (by omega)

theorem Runs.sound {log : List (Event α)} (h : r.Runs log) : r.Sound := by
  induction h with
  | init => exact sound_new
  | step a _ ha ih => exact ih.step ha

end Registry

/-! ## What is seen -/

/-- The event ends the registration of the stream. -/
def Ends (a : α) : Event α → Prop
  | .registered io _ | .unregistered io | .fired io => io = a
  | .ticked => False
  | .cleared => True

/-- The last registration of the stream has not ended, and `n` ticks have passed since. -/
def Live (a : α) (timeout n : Nat) (log : List (Event α)) : Prop :=
  ∃ older since, log = older ++ .registered a timeout :: since ∧ (∀ e ∈ since, ¬Ends a e) ∧
    since.count .ticked = n

/-- The timer of the stream may fire: its last registration, which has not ended, is more ticks old
than its timeout says. -/
def Due (a : α) (log : List (Event α)) : Prop := ∃ timeout n, Live a timeout n log ∧ timeout < n

/-- Timers fire only when they are due. -/
def FiresDue (log : List (Event α)) : Prop :=
  ∀ before a after, log = before ++ .fired a :: after → Due a before

/-- Between two firings of a timer it is registered again. -/
def FiresOnce (log : List (Event α)) : Prop :=
  ∀ before a between after, log = before ++ .fired a :: (between ++ .fired a :: after) →
    ∃ timeout, .registered a timeout ∈ between

variable {log es : List (Event α)} {a : α} {timeout n : Nat}

theorem live_registered (a : α) (timeout : Nat) (log : List (Event α)) :
    Live a timeout 0 (log ++ [.registered a timeout]) :=
  ⟨log, [], rfl, fun _ h => absurd h List.not_mem_nil, rfl⟩

theorem Live.append (h : Live a timeout n log) (es : List (Event α)) (hes : ∀ e ∈ es, ¬Ends a e) :
    Live a timeout (n + es.count .ticked) (log ++ es) := by
  obtain ⟨older, since, rfl, hsince, rfl⟩ := h
  refine ⟨older, since ++ es, by rw [List.append_assoc, List.cons_append], fun e he => ?_,
    List.count_append⟩
  rcases List.mem_append.mp he with he | he
  · exact hsince e he
  · exact hes e he

omit [DecidableEq α] in
/-- An event in a longer log is an event of the log or one of those behind it. -/
theorem append_eq_cons {before after : List (Event α)} {e : Event α}
    (h : log ++ es = before ++ e :: after) :
    (∃ rest, log = before ++ e :: rest) ∨ ∃ mid, before = log ++ mid ∧ es = mid ++ e :: after := by
  rcases List.append_eq_append_iff.mp h with ⟨mid, hbefore, hes⟩ | ⟨mid, hlog, hrest⟩
  · exact .inr ⟨mid, hbefore, hes⟩
  · cases mid with
    | nil => exact .inr ⟨[], by rw [hlog, List.append_nil, List.append_nil], hrest.symm⟩
    | cons d mid =>
        rw [List.cons_append] at hrest
        cases hrest
        exact .inl ⟨mid, hlog⟩

theorem FiresDue.quiet (h : FiresDue log) (hes : ∀ a, .fired a ∉ es) : FiresDue (log ++ es) := by
  intro before a after heq
  rcases append_eq_cons heq with ⟨rest, hlog⟩ | ⟨mid, -, hmid⟩
  · exact h before a rest hlog
  · refine absurd ?_ (hes a)
    rw [hmid]
    exact List.mem_append_right mid List.mem_cons_self

theorem FiresDue.fired (h : FiresDue log) (ha : Due a log) : FiresDue (log ++ [.fired a]) := by
  intro before b after heq
  rcases append_eq_cons heq with ⟨rest, hlog⟩ | ⟨mid, hbefore, hmid⟩
  · exact h before b rest hlog
  · cases mid with
    | nil =>
        cases hmid
        rw [hbefore, List.append_nil]
        exact ha
    | cons d mid => simp at hmid

/-- Several timers that are due fire one after the other. -/
theorem FiresDue.all {l : List α} (h : FiresDue log) (hl : l.Nodup) (hdue : ∀ a ∈ l, Due a log) :
    FiresDue (log ++ l.map .fired) := by
  induction l generalizing log with
  | nil =>
      rw [List.map_nil, List.append_nil]
      exact h
  | cons a l ih =>
      obtain ⟨ha, hl⟩ := List.nodup_cons.mp hl
      rw [List.map_cons, ← List.singleton_append, ← List.append_assoc]
      refine ih (h.fired (hdue a List.mem_cons_self)) hl fun b hb => ?_
      obtain ⟨timeout, n, hlive, hlt⟩ := hdue b (List.mem_cons_of_mem a hb)
      refine ⟨timeout, _, hlive.append [.fired a] fun e he => ?_, Nat.lt_add_right _ hlt⟩
      rw [List.mem_singleton.mp he]
      rintro rfl
      exact ha hb

theorem FiresDue.once (h : FiresDue log) : FiresOnce log := by
  intro before a between after heq
  obtain ⟨timeout, -, ⟨older, since, hlive, hsince, -⟩, -⟩ :=
    h (before ++ .fired a :: between) a after (by rw [heq, List.append_assoc]; rfl)
  -- the registration is not in front of the first firing
  rcases append_eq_cons hlive with ⟨rest, hbefore⟩ | ⟨mid, -, hmid⟩
  · have hrest : since = rest ++ .fired a :: between := by
      rw [hbefore, List.append_assoc, List.cons_append] at hlive
      exact (List.cons.inj (List.append_cancel_left hlive)).2.symm
    refine absurd rfl (hsince (.fired a) ?_)
    rw [hrest]
    exact List.mem_append_right rest List.mem_cons_self
  · cases mid with
    | nil => cases hmid
    | cons d mid =>
        refine ⟨timeout, ?_⟩
        rw [List.cons_append] at hmid
        rw [(List.cons.inj hmid).2]
        exact List.mem_append_right mid List.mem_cons_self

/-! ## Registrations and what is seen of them -/

namespace Registry

/-- Who is registered has a registration in the log that has not ended, and the tick at which it
expires is the time it was made plus its timeout. -/
def Accounts (r : Registry α) (log : List (Event α)) : Prop :=
  ∀ a h, r.storage.streams a = some h →
    ∃ timeout n, Live a timeout n log ∧ h + n = r.current + timeout

variable {r : Registry α}

theorem Accounts.quiet (h : r.Accounts log) {r' : Registry α} (hcurrent : r'.current = r.current)
    (hstreams : ∀ a h, r'.storage.streams a = some h →
      r.storage.streams a = some h ∧ ∀ e ∈ es, ¬Ends a e)
    (hticks : es.count .ticked = 0) : r'.Accounts (log ++ es) := by
  intro a k ha
  obtain ⟨hreg, hes⟩ := hstreams a k ha
  obtain ⟨timeout, n, hlive, heq⟩ := h a k hreg
  refine ⟨timeout, _, hlive.append es hes, ?_⟩
  rw [hticks, Nat.add_zero, hcurrent]
  exact heq

/-- A stream is registered. -/
theorem Accounts.register (h : r.Accounts log) (hr : r.Sound) (timeout clock : Nat) (io : α) :
    ((r.setFlag io true).register timeout clock io).Accounts
      (log ++ [.registered io timeout]) := by
  obtain ⟨hstorage, -, -, hcurrent, -, -⟩ := register_fields (r.setFlag io true) timeout clock io
  intro a k ha
  rw [hstorage, InnerMut.register_streams, Function.update_apply] at ha
  rw [hcurrent]
  show ∃ timeout' n, _ ∧ k + n = (if r.running then r.current else clock) + timeout'
  by_cases hio : a = io
  · rw [if_pos hio, Option.some.injEq] at ha
    rw [hio]
    refine ⟨timeout, 0, live_registered io timeout log, ?_⟩
    rw [← ha]
    rfl
  · -- another stream is registered, so that the time goes on
    rw [if_neg hio] at ha
    rw [if_pos (hr.running_of_streams ha)]
    obtain ⟨timeout', n, hlive, heq⟩ := h a k ha
    refine ⟨timeout', _, hlive.append [.registered io timeout] fun e he => ?_, heq⟩
    rw [List.mem_singleton.mp he]
    exact fun h => hio h.symm

/-- A round of the driver: the timers that fire are due, and the others go on. -/
theorem Accounts.ticked (h : r.Accounts log) (hr : r.Sound) (hf : FiresDue log) :
    FiresDue (log ++ .ticked :: (r.storage.expire r.current).2.map .fired) ∧
      r.ticked.Accounts (log ++ .ticked :: (r.storage.expire r.current).2.map .fired) := by
  have hcoll := hr.storage.expire r.current
  have hsplit : log ++ .ticked :: (r.storage.expire r.current).2.map .fired =
      log ++ [.ticked] ++ (r.storage.expire r.current).2.map .fired := by
    rw [List.append_assoc, List.singleton_append]
  have hlive : ∀ a k, r.storage.streams a = some k →
      ∃ timeout n, Live a timeout (n + 1) (log ++ [.ticked]) ∧ k + n = r.current + timeout := by
    intro a k ha
    obtain ⟨timeout, n, hlive, heq⟩ := h a k ha
    refine ⟨timeout, n, hlive.append [.ticked] fun e he => ?_, heq⟩
    rw [List.mem_singleton.mp he]
    exact id
  rw [hsplit]
  refine ⟨FiresDue.all (hf.quiet fun a ha => ?_) hcoll.nodup fun a ha => ?_, fun a k ha => ?_⟩
  · cases List.mem_singleton.mp ha
  · obtain ⟨k, hreg, hle⟩ := (hcoll.mem a).mp ha
    obtain ⟨timeout, n, hlive, heq⟩ := hlive a k hreg
    exact ⟨timeout, n + 1, hlive, by omega⟩
  · rw [show r.ticked.storage.streams a = _ from hcoll.left a, Option.filter_eq_some_iff] at ha
    obtain ⟨timeout, n, hlive, heq⟩ := hlive a k ha.1
    refine ⟨timeout, _, hlive.append _ fun e he => ?_, ?_⟩
    · obtain ⟨b, hb, rfl⟩ := List.mem_map.mp he
      rintro rfl
      obtain ⟨k', hreg, hle⟩ := (hcoll.mem b).mp hb
      rw [ha.1, Option.some.injEq] at hreg
      have hlate := of_decide_eq_true ha.2
      omega
    · have hcount : ((r.storage.expire r.current).2.map Event.fired).count .ticked = 0 := by
        refine List.count_eq_zero.mpr fun hmem => ?_
        obtain ⟨b, -, hb⟩ := List.mem_map.mp hmem
        cases hb
      rw [hcount]
      show k + (n + 1 + 0) = r.current + 1 + timeout
      omega

/-- The guard leaves nobody to account for. -/
theorem accounts_dropGuard {r' : Registry α} (hr' : r'.storage = r.dropGuard.storage) :
    r'.Accounts log := by
  intro a k ha
  rw [hr'] at ha
  cases ha

theorem Accounts.step (h : r.Accounts log) (hr : r.Sound) (hf : FiresDue log) {a : Step α}
    (ha : r.Enabled a) :
    FiresDue (log ++ (r.step a).2) ∧ (r.step a).1.Accounts (log ++ (r.step a).2) := by
  cases a with
  | start timeout clock io =>
      show FiresDue (log ++ if r.capacityTimer io then [] else _) ∧
        (r.startCapacityTimer timeout clock io).Accounts
          (log ++ if r.capacityTimer io then [] else _)
      unfold startCapacityTimer
      cases hflag : r.capacityTimer io with
      | true =>
          simp only [if_true, List.append_nil]
          exact ⟨hf, h⟩
      | false =>
          simp only [Bool.false_eq_true, if_false]
          cases timeout with
          | none =>
              simp only [Option.toList_none, List.map_nil, List.append_nil]
              exact ⟨hf, h⟩
          | some timeout =>
              refine ⟨hf.quiet fun b hb => ?_, ?_⟩
              · cases List.mem_singleton.mp hb
              · exact h.register hr timeout clock io
  | restart timeout clock io =>
      have hacc := h.register hr timeout clock io
      rw [setFlag_self ha] at hacc
      refine ⟨hf.quiet fun b hb => ?_, hacc⟩
      cases List.mem_singleton.mp hb
  | stop io =>
      have hstreams := stopCapacityTimer_streams hr io
      show FiresDue (log ++ if r.capacityTimer io then [.unregistered io] else []) ∧
        (r.stopCapacityTimer io).Accounts
          (log ++ if r.capacityTimer io then [.unregistered io] else [])
      unfold stopCapacityTimer at hstreams ⊢
      cases hflag : r.capacityTimer io with
      | true =>
          simp only [hflag, if_true] at hstreams ⊢
          refine ⟨hf.quiet fun b hb => ?_, h.quiet rfl (fun a k ha => ?_) rfl⟩
          · cases List.mem_singleton.mp hb
          · rw [hstreams, Function.update_apply] at ha
            split at ha
            · cases ha
            · rename_i hne
              refine ⟨ha, fun e he => ?_⟩
              rw [List.mem_singleton.mp he]
              exact fun h => hne h.symm
      | false =>
          simp only [Bool.false_eq_true, if_false, List.append_nil]
          exact ⟨hf, h⟩
  | poll =>
      refine ⟨hf.quiet fun b hb => absurd hb List.not_mem_nil, h.quiet rfl (fun a k ha => ?_) rfl⟩
      exact ⟨ha, fun e he => absurd he List.not_mem_nil⟩
  | tick drops =>
      obtain ⟨hfires, hacc⟩ := h.ticked hr hf
      have hfired := tick_fired r drops
      show FiresDue (log ++ .ticked :: (r.tick drops).2.map .fired) ∧
        (r.tick drops).1.Accounts (log ++ .ticked :: (r.tick drops).2.map .fired)
      rw [hfired]
      refine ⟨hfires, ?_⟩
      rw [tick_eq]
      split
      · exact accounts_dropGuard (r := r.ticked) rfl
      · exact hacc
  | cancel =>
      refine ⟨hf.quiet fun b hb => ?_, accounts_dropGuard (r := r) rfl⟩
      cases List.mem_singleton.mp hb

theorem Runs.accounts (h : r.Runs log) : FiresDue log ∧ r.Accounts log := by
  induction h with
  | init =>
      refine ⟨fun before a after heq => ?_, fun a k ha => by cases ha⟩
      simp at heq
  | step a hrun ha ih => exact ih.2.step hrun.sound ih.1 ha

end Registry

open Registry

/-- The timer registry is consistent.  In every run, between steps: a stream is in the bucket of a
tick exactly if the map sends it to that tick; its flag is set exactly if it is in the map; the
driver, and one of it only, runs if the map is not empty.  And in the log of every run a timer
fires only for the last registration of its stream, when this has neither been ended nor replaced
and is more ticks old than its timeout; between two firings of a timer it is registered again. -/
theorem registry_consistent {r : Registry α} {log : List (Event α)} (h : r.Runs log) :
    (∀ a k, InBucket r.storage.notifications a k ↔ r.storage.streams a = some k) ∧
    (∀ a, r.capacityTimer a = true ↔ r.storage.streams a ≠ none) ∧
    ((∃ a, r.storage.streams a ≠ none) → r.running = true ∧ r.spawned + r.looping = 1) ∧
    FiresDue log ∧ FiresOnce log := by
  have hr := h.sound
  refine ⟨hr.storage.inverse, fun a => ?_, fun ⟨a, ha⟩ => ?_, h.accounts.1, h.accounts.1.once⟩
  · rw [hr.flag, Option.isSome_iff_ne_none]
  · obtain ⟨k, ha⟩ := Option.ne_none_iff_exists'.mp ha
    have hrun := hr.running_of_streams ha
    refine ⟨hrun, ?_⟩
    rw [hr.driver, hrun, if_pos rfl]

/-- Two streams; the first one expires after two rounds, and the second one stops. -/
theorem registry_consistent_two :
    ∃ r : Registry Nat, r.storage.streams 3 = none ∧ r.capacityTimer 3 = false ∧
      r.capacityTimer 4 = false ∧ r.running = true ∧
      (∀ a k, InBucket r.storage.notifications a k ↔ r.storage.streams a = some k) ∧
      (∀ a, r.capacityTimer a = true ↔ r.storage.streams a ≠ none) ∧
      ((∃ a, r.storage.streams a ≠ none) → r.running = true ∧ r.spawned + r.looping = 1) ∧
      FiresDue [.registered 3 1, .ticked, .registered 4 5, .ticked, .fired 3, .unregistered 4] ∧
      FiresOnce [.registered 3 1, .ticked, .registered 4 5, .ticked, .fired 3, .unregistered 4] :=
  ⟨_, rfl, rfl, rfl, rfl, registry_consistent
    (((((Runs.init.step (.start (some 1) 7 3) trivial).step .poll (by decide)).step
      (.tick fun _ => true) (by decide)).step (.start (some 5) 0 4) trivial).step
      (.tick fun _ => true) (by decide) |>.step (.stop 4) trivial)⟩

end NtexH2.Timer
