/-
  Connection/Refill.lean --- the windows that a connection gives to its peer
  (src/window.rs, `Window::update`; src/stream.rs, `received_data_consumed`,
  `update_recv_window`; src/connection.rs, `data_consumed`).

  A window is announced again when it has fallen below the configured size by the
  threshold.  Whoever releases octets looks at the threshold afterwards, so a window
  whose octets are all released is never left empty.
-/
import NtexH2.Connection.FlowControl

set_option autoImplicit false

namespace NtexH2

/-- The increment of a written WINDOW_UPDATE. -/
def Event.increment : Event → Option Nat
  | .sent _ _ (.windowUpdate _ n) => some n
  | _ => none

/-- The windows are not empty, and a threshold is at most half of its window. -/
structure ServiceConfig.Ample (cfg : ServiceConfig) : Prop where
  window : 1 ≤ cfg.windowSz
  threshold : 2 * cfg.windowSzThreshold ≤ cfg.windowSz
  conWindow : 1 ≤ cfg.connectionWindowSz
  conThreshold : 2 * cfg.connectionWindowSzThreshold ≤ cfg.connectionWindowSz

/-- An update of a window reaches a threshold that is not zero; a connection window that is
configured as zero is never updated. -/
structure ServiceConfig.Stepped (cfg : ServiceConfig) : Prop where
  threshold : 1 ≤ cfg.windowSzThreshold
  conThreshold : cfg.connectionWindowSz = 0 ∨ 1 ≤ cfg.connectionWindowSzThreshold

namespace Session

variable {G : Guard} {k k' m : Session}

/-! ## Windows that are refilled -/

/-- The connection can receive an octet once all its octets are released. -/
def Open (k : Session) : Prop := k.recvSize = 0 → 1 ≤ k.recvWindow

/-- The stream can receive an octet once all its octets are released, while its receive half
is open. -/
def OpenAt (k : Session) (o : Nat) : Prop :=
  (k.cells o).recv ≠ .closed → (k.cells o).recvSize = 0 → 1 ≤ (k.cells o).recvWindow

/-- No window is left empty. -/
structure Supplied (k : Session) : Prop where
  con : k.Open
  stream : ∀ o < k.created, k.OpenAt o

/-- The increments of the written WINDOW_UPDATE frames are legal. -/
def Legal (k : Session) : Prop :=
  ∀ n ∈ k.log.filterMap Event.increment, 1 ≤ n ∧ n < 2 ^ 31

/-- On the way from `k` to `k'` no window is left empty and no illegal increment is written. -/
structure Feeds (k k' : Session) : Prop where
  config : k'.config = k.config
  supplied : k.config.Ample → k.Supplied → k'.Supplied
  legal : k.config.Stepped → k.Legal → k'.Legal

theorem Feeds.refl (k : Session) : Feeds k k := ⟨rfl, fun _ h => h, fun _ h => h⟩

theorem Feeds.trans (f : Feeds k m) (g : Feeds m k') : Feeds k k' where
  config := g.config.trans f.config
  supplied ha hs := g.supplied (f.config ▸ ha) (f.supplied ha hs)
  legal hp hl := g.legal (f.config ▸ hp) (f.legal hp hl)

/-! ## Steps that the receive windows do not see -/

/-- The receive side of a stream is the same, or its receive half has closed. -/
def SameWindow (s s' : Cell) : Prop :=
  s'.recvWindow = s.recvWindow ∧ s'.recvSize = s.recvSize ∧ (s.recv = .closed → s'.recv = .closed)

theorem OpenAt.same {o : Nat} (h : k.OpenAt o) (hs : SameWindow (k.cells o) (k'.cells o)) :
    k'.OpenAt o := by
  obtain ⟨hw, hz, hc⟩ := hs
  intro hr h0
  rw [hw]
  exact h (fun hcl => hr (hc hcl)) (hz ▸ h0)

theorem Feeds.frame (h1 : k'.config = k.config) (h2 : k'.created = k.created)
    (h3 : k'.recvWindow = k.recvWindow) (h4 : k'.recvSize = k.recvSize)
    (h5 : ∀ o, SameWindow (k.cells o) (k'.cells o))
    (h6 : k'.log.filterMap Event.increment = k.log.filterMap Event.increment) : Feeds k k' where
  config := h1
  supplied _ hs :=
    ⟨by
      unfold Open
      rw [h3, h4]
      exact hs.con, fun o ho => (hs.stream o (h2 ▸ ho)).same (h5 o)⟩
  legal _ hl := by
    unfold Legal
    rw [h6]
    exact hl

theorem SameWindow.refl (s : Cell) : SameWindow s s := ⟨rfl, rfl, id⟩

theorem Feeds.of_eq (h1 : k'.config = k.config) (h2 : k'.created = k.created)
    (h3 : k'.recvWindow = k.recvWindow) (h4 : k'.recvSize = k.recvSize)
    (h5 : k'.cells = k.cells) (h6 : k'.log = k.log) : Feeds k k' :=
  .frame h1 h2 h3 h4 (fun _ => h5 ▸ .refl _) (by rw [h6])

theorem Feeds.push (k : Session) {e : Event} (he : e.increment = none) : Feeds k (k.push e) :=
  .frame rfl rfl rfl rfl (fun _ => .refl _) (List.filterMap_cons_none he)

theorem sameWindow_update {o : Nat} {s : Cell} (hs : SameWindow (k.cells o) s) (p : Nat) :
    SameWindow (k.cells p) (Function.update k.cells o s p) := by
  by_cases hp : p = o
  · subst hp
    rw [Function.update_self]
    exact hs
  · rw [Function.update_of_ne hp]
    exact .refl _

theorem Feeds.modify (k : Session) (o : Nat) {f : Cell → Cell}
    (hf : SameWindow (k.cells o) (f (k.cells o))) : Feeds k (k.modify o f) :=
  .frame rfl rfl rfl rfl (sameWindow_update hf) rfl

theorem sameWindow_close (s : Cell) (r w : Bool) : SameWindow s (s.close r w) := by
  refine ⟨rfl, rfl, fun hc => ?_⟩
  cases r with
  | true => rfl
  | false => exact hc

theorem Feeds.close (k : Session) (o : Nat) (r w : Bool) : Feeds k (k.close o r w) := by
  refine .frame rfl rfl rfl rfl (sameWindow_update (sameWindow_close _ r w)) ?_
  show (if k.Ends o r w then Event.close :: k.log else k.log).filterMap Event.increment = _
  split
  · exact List.filterMap_cons_none rfl
  · rfl

theorem Feeds.ioClose (k : Session) : Feeds k k.ioClose :=
  (Feeds.push k (e := .close) rfl).trans (.of_eq rfl rfl rfl rfl rfl rfl)

theorem Feeds.reset (k : Session) (o : Nat) (r : Reason) : Feeds k (k.reset o r) :=
  (Feeds.push k rfl).trans (.close _ o true true)

/-! ## Announcements -/

/-- A written increment is the threshold at least, and no larger than the window. -/
theorem announces_pos {max threshold size : Nat} {window : Int} (hpos : 1 ≤ threshold)
    (h : announces max threshold window size) (hle : (max : Int) - window < 2 ^ 31) :
    1 ≤ ((max : Int) - window - size).toNat ∧ ((max : Int) - window - size).toNat < 2 ^ 31 := by
  unfold announces at h
  omega

/-- A window with nothing unreleased is announced, or is large enough. -/
theorem open_of_not_announces {max threshold : Nat} {window : Int} (h1 : 1 ≤ max)
    (h2 : 2 * threshold ≤ max) (h : ¬announces max threshold window 0) : 1 ≤ window := by
  unfold announces at h
  omega

theorem Legal.push {e : Event} (h : k.Legal) (he : ∀ n, e.increment = some n → 1 ≤ n ∧ n < 2 ^ 31) :
    Legal (k.push e) := by
  intro n hn
  cases hi : e.increment with
  | none =>
      rw [show (k.push e).log.filterMap Event.increment = _ from List.filterMap_cons_none hi] at hn
      exact h n hn
  | some v =>
      rw [show (k.push e).log.filterMap Event.increment = _ from List.filterMap_cons_some hi] at hn
      rcases List.mem_cons.mp hn with rfl | hn
      · exact he n hi
      · exact h n hn

theorem Legal.topUp (h : k.Legal) (hp : k.config.Stepped) (hw : 0 ≤ k.recvWindow) :
    k.topUp.Legal := by
  unfold Session.topUp
  split
  · next ha =>
      refine Legal.push (k := k) h fun n hn => ?_
      cases hn
      have hlt := k.config.connectionWindowSz_lt
      rcases hp.conThreshold with h0 | hpos
      · unfold announces at ha
        omega
      · exact announces_pos hpos ha (by omega)
  · exact h

theorem Legal.streamTopUp {o : Nat} (h : k.Legal) (hp : k.config.Stepped) (hc : k.Credit)
    (ho : o < k.created) : (k.streamTopUp o).Legal := by
  unfold Session.streamTopUp
  split
  · next ha =>
      refine Legal.push (k := k) h fun n hn => ?_
      cases hn
      have hlt := k.config.windowSz_lt
      have hlow := hc.low o ho
      refine announces_pos hp.threshold ha.2 ?_
      unfold shift defaultInitialWindowSize at hlow
      omega
  · exact h

theorem open_topUp (ha : k.config.Ample) : k.topUp.Open := by
  unfold Session.topUp
  split
  · intro h0
    have h0' : k.recvSize = 0 := h0
    show 1 ≤ (k.config.connectionWindowSz : Int) - k.recvSize
    have := ha.conWindow
    omega
  · next hn =>
      intro h0
      rw [h0] at hn
      exact open_of_not_announces ha.conWindow ha.conThreshold hn

theorem openAt_topUp {o : Nat} (h : k.OpenAt o) : k.topUp.OpenAt o := by
  unfold Session.topUp
  split
  · exact h
  · exact h

theorem openAt_streamTopUp (ha : k.config.Ample) (o : Nat) : (k.streamTopUp o).OpenAt o := by
  unfold Session.streamTopUp
  split
  · unfold OpenAt
    simp only [Session.push, Session.modify, Function.update_self]
    intro _ h0
    rw [h0]
    have := ha.window
    omega
  · next hn =>
      intro hr h0
      have hno : ¬announces k.config.windowSz k.config.windowSzThreshold (k.cells o).recvWindow
          (k.cells o).recvSize := fun h => hn ⟨hr, h⟩
      rw [h0] at hno
      exact open_of_not_announces ha.window ha.threshold hno

theorem openAt_streamTopUp_ne {o p : Nat} (hp : p ≠ o) (h : k.OpenAt p) :
    (k.streamTopUp o).OpenAt p := by
  refine h.same ?_
  unfold Session.streamTopUp
  split
  · simp only [Session.push, Session.modify, Function.update_of_ne hp]
    exact .refl _
  · exact .refl _

theorem open_streamTopUp {o : Nat} (h : k.Open) : (k.streamTopUp o).Open := by
  unfold Session.streamTopUp
  split
  · exact h
  · exact h

/-! ## Octets that come and go -/

theorem Feeds.insert (k : Session) {s : Cell} (hw : s.recvWindow = if k.settingsProcessed then
    (k.config.windowSz : Int) else defaultInitialWindowSize) : Feeds k (k.insert s) := by
  refine ⟨rfl, fun ha hs => ⟨hs.con, fun o ho => ?_⟩, fun _ hl => hl⟩
  have ho' : o < k.created + 1 := ho
  by_cases hoc : o = k.created
  · subst hoc
    unfold OpenAt
    simp only [Session.insert, Function.update_self]
    intro _ _
    have := ha.window
    rw [hw]
    unfold defaultInitialWindowSize
    split
    · omega
    · omega
  · refine (hs.stream o (by omega)).same ?_
    simp only [Session.insert, Function.update_of_ne hoc]
    exact .refl _

theorem Feeds.charge (k : Session) (o : Nat) (d : Data) : Feeds k (k.charge o d) := by
  refine ⟨rfl, fun _ hs => ⟨?_, fun p hp => ?_⟩, fun _ hl => ?_⟩
  · intro h0
    have h0' : k.recvSize + d.flowLen = 0 := h0
    have := hs.con (by omega)
    show 1 ≤ k.recvWindow - d.flowLen
    omega
  · by_cases hpo : p = o
    · subst hpo
      unfold OpenAt
      simp only [Session.charge, Function.update_self]
      intro hr h0
      have := hs.stream p hp hr (by omega)
      omega
    · refine (hs.stream p hp).same ?_
      simp only [Session.charge, Function.update_of_ne hpo]
      exact .refl _
  · exact Legal.push (k := k) hl fun n hn => by cases hn

theorem Feeds.stray {obj : Option Nat} {d : Data}
    (hle : (d.flowLen : Int) ≤ k.recvWindow) : Feeds k (k.stray obj d) := by
  refine ⟨?_, fun ha hs => ⟨open_topUp ha, fun o ho => ?_⟩, fun hp hl => ?_⟩
  · unfold Session.stray Session.topUp
    split
    · rfl
    · rfl
  · have hcreated : (k.stray obj d).created = k.created := by
      unfold Session.stray Session.topUp
      split
      · rfl
      · rfl
    exact openAt_topUp (hs.stream o (hcreated ▸ ho))
  · refine Legal.topUp (Legal.push (k := k) hl fun n hn => by cases hn) hp ?_
    show 0 ≤ k.recvWindow - d.flowLen
    omega

theorem Feeds.release (hc : k.Credit) {o n : Nat} {caps : List Capacity} (ho : o < k.created)
    (hcaps : ∀ p, heldBy p caps + (if p = o then n else 0) = heldBy p k.caps)
    (hheld : held caps + n = held k.caps) : Feeds k (k.release o n caps) := by
  have hcfg : ∀ k : Session, k.topUp.config = k.config ∧ k.topUp.created = k.created := by
    intro k
    unfold Session.topUp
    split
    · exact ⟨rfl, rfl⟩
    · exact ⟨rfl, rfl⟩
  have hcfg' : ∀ k : Session, (k.streamTopUp o).config = k.config ∧
      (k.streamTopUp o).created = k.created ∧ (k.streamTopUp o).recvWindow = k.recvWindow := by
    intro k
    unfold Session.streamTopUp
    split
    · exact ⟨rfl, rfl, rfl⟩
    · exact ⟨rfl, rfl, rfl⟩
  rw [release_eq]
  have hmid := hc.released hcaps hheld
  refine ⟨?_, fun ha hs => ⟨open_topUp ?_, fun p hp => openAt_topUp ?_⟩, fun hp hl => ?_⟩
  · rw [(hcfg _).1, (hcfg' _).1]
    rfl
  · rw [(hcfg' _).1]
    exact ha
  · rw [(hcfg _).2, (hcfg' _).2.1] at hp
    by_cases hpo : p = o
    · subst hpo
      exact openAt_streamTopUp (k := k.released p n caps) ha p
    · refine openAt_streamTopUp_ne hpo ((hs.stream p hp).same ?_)
      rw [released_cells, if_neg hpo]
      exact .refl _
  · refine Legal.topUp (Legal.streamTopUp hl hp hmid ho) ?_ ?_
    · rw [(hcfg' _).1]
      exact hp
    · rw [(hcfg' _).2.2]
      exact hc.conLow

theorem Feeds.ackOne (hc : k.Credit) (ht : k.Table) {o : Nat} {rest : List Nat}
    (ha : k.acking = o :: rest) : Feeds k (k.ackOne o rest) := by
  have ho : o < k.created := ht.acking o (ha ▸ List.mem_cons_self)
  unfold Session.ackOne
  split
  · exact .of_eq rfl rfl rfl rfl rfl rfl
  · split
    · exact .of_eq rfl rfl rfl rfl rfl rfl
    · next hn =>
        have hmid := hc.shifted ho ha (by omega)
        generalize hm : ({ k with acking := rest }.modify o fun s =>
          { s with recvWindow := s.recvWindow + k.shift }) = m at hmid
        have hfield : m.config = k.config ∧ m.created = k.created ∧ m.log = k.log ∧
            m.recvWindow = k.recvWindow ∧ m.recvSize = k.recvSize := by
          subst hm
          exact ⟨rfl, rfl, rfl, rfl, rfl⟩
        have hne : ∀ p, p ≠ o → m.cells p = k.cells p := by
          intro p hp
          subst hm
          exact Function.update_of_ne hp _ _
        obtain ⟨h1, h2, h3, h4, h5⟩ := hfield
        have hup : (m.streamTopUp o).config = m.config ∧
            (m.streamTopUp o).created = m.created := by
          unfold Session.streamTopUp
          split
          · exact ⟨rfl, rfl⟩
          · exact ⟨rfl, rfl⟩
        refine ⟨hup.1.trans h1, fun hA hs => ⟨open_streamTopUp ?_, fun p hp => ?_⟩, fun hp hl => ?_⟩
        · unfold Open
          rw [h4, h5]
          exact hs.con
        · rw [hup.2, h2] at hp
          by_cases hpo : p = o
          · subst hpo
            exact openAt_streamTopUp (h1 ▸ hA) p
          · refine openAt_streamTopUp_ne hpo ((hs.stream p hp).same ?_)
            rw [hne p hpo]
            exact .refl _
        · refine Legal.streamTopUp ?_ (h1 ▸ hp) hmid (h2 ▸ ho)
          unfold Legal
          rw [h3]
          exact hl

/-! ## Every step -/

theorem Step.feeds (hc : k.Credit) (ht : k.Table) (hs : Step G k k') : Feeds k k' := by
  have hother : ∀ {k k' : Session}, k'.config = k.config → k'.created = k.created →
      k'.recvWindow = k.recvWindow → k'.recvSize = k.recvSize → k'.cells = k.cells →
      k'.log = k.log → Feeds k k' := fun h1 h2 h3 h4 h5 h6 => .of_eq h1 h2 h3 h4 h5 h6
  cases hs with
  | @quiet e he =>
      refine .push k ?_
      cases e with
      | sent obj w f => cases obj <;> cases f <;> first | exact False.elim he | rfl
      | received obj f => rfl
      | failed e => rfl
      | streamFailed o e => rfl
      | close => rfl
  | raise hs hid => exact hother rfl rfl rfl rfl rfl rfl
  | @accept id hs hd hid hodd hmax =>
      exact (Feeds.insert k (s := k.newCell id) rfl).trans (hother rfl rfl rfl rfl rfl rfl)
  | @openLocal hd reserved hs hf hg hdr hid hmax hr =>
      refine ((Feeds.insert k (s := k.openCell hd) rfl).trans (Feeds.push _
        (e := .sent (some k.created) .sendHeaders (.headers hd)) rfl)).trans ?_
      exact hother rfl rfl rfl rfl rfl rfl
  | close ho hsr => exact .close k _ _ _
  | @remoteReset o id r ho => exact (Feeds.push k rfl).trans (.close _ o true true)
  | @recvPayload o ho hi =>
      refine .modify k o ⟨rfl, rfl, fun hcl => ?_⟩
      rw [hi] at hcl
      cases hcl
  | interim ho hi hid hend => exact .push k rfl
  | @respond o hd ho hi hid =>
      unfold Session.respond
      refine Feeds.trans ?_ (.push _ rfl)
      split
      · exact .close k o false true
      · exact .modify k o ⟨rfl, rfl, id⟩
  | @chunk o d ho hp hid hw hle hm =>
      refine ((Feeds.push k (e := .sent (some o) .sendPages (.data d)) rfl).trans
        (.close _ o false d.endStream)).trans ?_
      refine (Feeds.modify _ o (f := fun s => { s with sendWindow := s.sendWindow - d.flowLen })
        ⟨rfl, rfl, id⟩).trans ?_
      exact hother rfl rfl rfl rfl rfl rfl
  | @finish o ho hp => exact (Feeds.close k o false true).trans (.push _ rfl)
  | @trailers o hd ho hp hid hend => exact (Feeds.push k rfl).trans (.close _ o false true)
  | reset ho => exact .reset k _ _
  | charge ho hid hw hle => exact .charge k _ _
  | stray hid hle => exact .stray hle
  | @overrun o d ho hid hw hle =>
      exact ((Feeds.stray hle).trans (.push _ rfl)).trans (.reset _ o _)
  | release ho hcaps hheld hall => exact .release hc ho hcaps hheld
  | caps hcaps hheld hall => exact hother rfl rfl rfl rfl rfl rfl
  | @conCredit n hn =>
      exact (Feeds.push k (e := .received none (.windowUpdate 0 n)) rfl).trans
        (hother rfl rfl rfl rfl rfl rfl)
  | @credit o n id ho hid hn =>
      exact (Feeds.push k (e := .received (some o) (.windowUpdate id n)) rfl).trans
        (.modify _ o ⟨rfl, rfl, fun h => h⟩)
  | lateCredit h0 hid => exact .push k rfl
  | @badCredit o n id e ho hid =>
      exact ((Feeds.push k (e := .received (some o) (.windowUpdate id n)) rfl).trans
        (.push _ (e := .streamFailed o e) rfl)).trans (.reset _ o _)
  | @settings s hack hw hn =>
      refine .frame rfl rfl rfl rfl (fun o => ?_) rfl
      show SameWindow _ (if _ then _ else _)
      split
      · exact ⟨rfl, rfl, id⟩
      · exact .refl _
  | @ackBegin s hack hp =>
      exact (Feeds.push k (e := .received none (.settings s)) rfl).trans
        (hother rfl rfl rfl rfl rfl rfl)
  | ackOne ha hG => exact .ackOne hc ht ha
  | @ackFailed o e l ho hl =>
      have hrest : Feeds k { k with ackErrors := l } := hother rfl rfl rfl rfl rfl rfl
      exact ((hrest.trans (.push _ (e := .streamFailed o e) rfl)).trans
        (.close _ o true true)).trans
          (.push _ (e := .sent none .connection (.reset (k.cells o).id e.reason)) rfl)
  | @fail evs window windowSz frameSize he =>
      refine .frame rfl rfl rfl rfl (fun o => ?_) ?_
      · show SameWindow _ (if _ then _ else _)
        split
        · exact ⟨rfl, rfl, fun _ => rfl⟩
        · exact .refl _
      · show (evs ++ k.log).filterMap Event.increment = _
        rw [List.filterMap_append, List.filterMap_eq_nil_iff.mpr, List.nil_append]
        intro e hm
        rcases he.mem e hm with ⟨err, rfl⟩ | ⟨obj, f, rfl, -⟩
        · rfl
        · rfl
  | shut hshut => exact .ioClose k
  | drain =>
      unfold Session.drain
      split
      · exact Feeds.trans (m := { k with draining := true }) (hother rfl rfl rfl rfl rfl rfl)
          (.ioClose _)
      · exact hother rfl rfl rfl rfl rfl rfl
  | goneAway => exact hother rfl rfl rfl rfl rfl rfl
  | reserve hs hf hg hd => exact hother rfl rfl rfl rfl rfl rfl
  | unreserve hs hr =>
      unfold Session.unreserve
      dsimp only
      split
      · exact Feeds.trans (m := { k with
          activeLocal := k.activeLocal - 1
          reserved := k.reserved - 1
          reservations := k.reservations - 1 }) (hother rfl rfl rfl rfl rfl rfl) (.ioClose _)
      · exact hother rfl rfl rfl rfl rfl rfl
  | senders hl => exact hother rfl rfl rfl rfl rfl rfl
  | reorder hl => exact hother rfl rfl rfl rfl rfl rfl

theorem Steps.feeds (hs : Steps G k k') (hg : k.Good) : Feeds k k' := by
  induction hs with
  | refl => exact .refl k
  | @tail k1 k2 hs1 hs2 ih =>
      have hg1 := hg.steps hs1
      exact ih.trans (hs2.feeds hg1.credit hg1.table)

end Session

namespace Connection

variable {s : Start} {c : Connection}

/-! ## Every run -/

/-- The first WINDOW_UPDATE of a connection raises its window to the configured size. -/
theorem new_feeds (s : Start) :
    (s.config.Ample → s.init.session.Supplied) ∧ s.init.session.Legal := by
  have hsafe : (⟨defaultInitialWindowSize⟩ : Window).UpdateSafe 0 s.config.connectionWindowSz :=
    updateSafe (by show _ ≤ (65535 : Int); omega) (by omega) s.config.connectionWindowSz_lt
  have hlt := s.config.connectionWindowSz_lt
  rcases Window.update_spec hsafe s.config.connectionWindowSzThreshold_lt with
    ⟨he, -⟩ | ⟨n, he, h1, h2, -⟩
  · have hw : s.init.recvWindow = ⟨defaultInitialWindowSize⟩ := congrArg Prod.fst he
    have hlog : s.init.log = [.sent none .connection (.settings s.config.settings)] := by
      unfold Start.init new
      dsimp only
      rw [he]
    refine ⟨fun _ => ⟨fun _ => ?_, fun o ho => absurd ho (Nat.not_lt_zero o)⟩, fun n hn => ?_⟩
    · show 1 ≤ s.init.recvWindow.size
      rw [hw]
      decide
    · have hn' : n ∈ s.init.log.filterMap Event.increment := hn
      rw [hlog] at hn'
      cases hn'
  · have hw : s.init.recvWindow = ⟨(s.config.connectionWindowSz : Int) - (0 : Nat)⟩ :=
      congrArg Prod.fst he
    have hlog : s.init.log = [.sent none .connection (.windowUpdate StreamId.con n),
        .sent none .connection (.settings s.config.settings)] := by
      unfold Start.init new
      dsimp only
      rw [he]
    have h1' : (65535 : Int) < s.config.connectionWindowSz := h1
    have h2' : (65535 : Int) + n = s.config.connectionWindowSz - (0 : Nat) := h2
    refine ⟨fun _ => ⟨fun _ => ?_, fun o ho => absurd ho (Nat.not_lt_zero o)⟩, fun m hm => ?_⟩
    · show 1 ≤ s.init.recvWindow.size
      rw [hw]
      show 1 ≤ (s.config.connectionWindowSz : Int) - (0 : Nat)
      omega
    · have hm' : m ∈ s.init.log.filterMap Event.increment := hm
      rw [hlog] at hm'
      have hmn : m = n := List.mem_singleton.mp hm'
      omega

theorem feeds_of_reachable (h : Reachable s c) : Session.Feeds s.init.session c.session := by
  induction h with
  | new => exact .refl _
  | @step c a hr ha ih =>
      exact ih.trans (Session.Steps.feeds (runs_step (G := anyRun) ha (finds_anyRun c a)
        hr.clean).2 hr.clean.good)

/-- The receive side never stalls: a window whose octets are all released has room for one
more octet. -/
theorem receive_never_stalls (h : Reachable s c) (ha : s.config.Ample) :
    (c.recvSize = 0 → 1 ≤ c.recvWindow.size) ∧
    ∀ o ∈ c.values, (c.objs o).recv.isClosed = false → (c.objs o).recvSize = 0 →
      1 ≤ (c.objs o).recvWindow.size := by
  have hs := (feeds_of_reachable h).supplied ha ((new_feeds s).1 ha)
  refine ⟨hs.con, fun o ho hr h0 => ?_⟩
  refine hs.stream o (h.clean.good.table.bound o ho) ?_ h0
  intro hcl
  have hcl' : (c.objs o).recv.isClosed = true := HalfState.half_closed.mp hcl
  rw [hr] at hcl'
  cases hcl'

theorem ample_small : (serverWith 1000 333 (by decide) (by decide)).config.Ample :=
  ⟨by decide, by decide, by decide, by decide⟩

theorem receive_never_stalls_exchange :
    ∃ c, Reachable (serverWith 1000 333 (by decide) (by decide)) c ∧ 0 ∈ c.values ∧
      total (Event.gotOn 0) c.log = 1 ∧ 1 ≤ (c.objs 0).recvWindow.size := by
  have hr := ((ReachableBy.new (P := anyStep)
    (s := serverWith 1000 333 (by decide) (by decide))).after exchange exchange_allowed).reachable
  exact ⟨_, hr, by decide, by decide,
    (receive_never_stalls hr ample_small).2 0 (by decide) (by decide) (by decide)⟩

/-! ## Empty DATA -/

/-- An empty DATA frame of a stream. -/
def emptyData (c : Connection) (o : Obj) (eof : Bool) : Data := ⟨(c.objs o).id, [], 0, eof⟩

/-- A frame is answered with `RecvWindowExceeded`, for the connection or for a stream. -/
def Exceeds (r : Received) : Prop :=
  r = .error (.connection .recvWindowExceeded) ∨ ∃ o, r = .error (.stream o .recvWindowExceeded)

theorem countPayload_error {cl : ContentLength} {len : Nat} {eof : Bool} {e : StreamError}
    (h : (countPayload cl len eof).1 = .error e) :
    e = .wrongPayloadLength ∨ e = .nonEmptyPayload := by
  cases cl with
  | omitted => cases h
  | head =>
      have h' : (if len != 0 then .error .nonEmptyPayload else .ok () : Except StreamError Unit) =
        .error e := h
      split at h'
      · cases h'
        exact .inr rfl
      · cases h'
  | remaining n =>
      unfold countPayload at h
      dsimp only at h
      split at h
      · dsimp only at h
        split at h
        · cases h
          exact .inl rfl
        · cases h
      · cases h
        exact .inl rfl

theorem not_exceeds_recvPayload {o : Obj} {d : Data} {i : Nat} (hp : (c.objs o).recv = .payload) :
    ¬Exceeds (lift o (c.recvPayload o d i)).1 := by
  unfold recvPayload
  rw [hp]
  dsimp only
  cases hr : (countPayload (c.objs o).contentLength d.payload.length d.endStream).1 with
  | error e =>
      rintro (hx | ⟨p, hx⟩)
      · cases hx
      · cases hx
        rcases countPayload_error hr with he | he
        · cases he
        · cases he
  | ok u =>
      rintro (hx | ⟨p, hx⟩)
      · cases hx
      · cases hx

theorem emptyData_len (c : Connection) (o : Obj) (eof : Bool) :
    i32 ((c.emptyData o eof).flowLen : Int) = 0 := i32_nat (n := 0) (by decide)

/-- An empty DATA frame reaches its stream. -/
theorem recvData_emptyData (h : Reachable s c) {o : Obj} (ho : o ∈ c.values) (eof : Bool) :
    c.recvData (c.emptyData o eof) = lift o (c.streamRecvData o (c.emptyData o eof)) := by
  have hlow : 0 ≤ c.recvWindow.size := h.clean.good.credit.conLow
  have hcon : ¬i32 ((c.emptyData o eof).flowLen : Int) > c.recvWindow.size := by
    rw [emptyData_len]
    omega
  have hq : c.query (c.emptyData o eof).streamId = some o := query_id h.clean.good.table ho
  unfold recvData
  rw [if_neg hcon, hq]

theorem exceeds_emptyData (h : Reachable s c) {o : Obj} (ho : o ∈ c.values)
    (hw : (c.objs o).recvWindow.size < 0) (eof : Bool) :
    Exceeds (c.recvData (c.emptyData o eof)).1 := by
  rw [recvData_emptyData h ho]
  unfold streamRecvData
  rw [emptyData_len, if_pos hw]
  exact .inr ⟨o, rfl⟩

/-- Empty DATA needs no window if and only if the window of the stream is not negative. -/
theorem emptyData_accepted_iff (h : Reachable s c) {o : Obj} (ho : o ∈ c.values)
    (hp : (c.objs o).recv = .payload) (eof : Bool) :
    ¬Exceeds (c.recvData (c.emptyData o eof)).1 ↔ 0 ≤ (c.objs o).recvWindow.size := by
  constructor
  · intro hne
    by_contra hneg
    have hneg' : (c.objs o).recvWindow.size < 0 := by omega
    exact hne (exceeds_emptyData h ho hneg' eof)
  · intro hw
    rw [recvData_emptyData h ho]
    unfold streamRecvData
    rw [emptyData_len, if_neg (by omega)]
    exact not_exceeds_recvPayload (c := c.newCapacity o 0) hp

/-- Octets of payload that are not consumed, and the ack of a smaller window. -/
def shrunkRun : List Step :=
  [.receive (.settings noSettings), .receive (.headers ⟨1, somePseudo, [], false⟩),
    .receive (.data ⟨1, [0, 0, 0, 0], 4, false⟩), .receive (.settings .newAck)]

theorem shrunkRun_reachable : Reachable (serverWith 3 1 (by decide) (by decide))
    ((serverWith 3 1 (by decide) (by decide)).init.after shrunkRun) := by
  refine ((ReachableBy.new (P := anyStep)).after shrunkRun ?_).reachable
  refine ⟨⟨noSettings_loads, trivial⟩, ⟨?_, trivial⟩, ⟨?_, trivial⟩, ⟨ack_loads, trivial⟩, trivial⟩
  · show 1 < 2 ^ 31
    decide
  · show 1 ≠ 0 ∧ 1 < 2 ^ 31 ∧ 4 ≤ 4 ∧ 4 < 2 ^ 24
    decide

/-- The window is negative after the ack, and the end of the stream is taken for an excess. -/
theorem emptyData_refused :
    ¬∀ (s : Start) (c : Connection), Reachable s c → ∀ o ∈ c.values,
      (c.objs o).recv = .payload → ∀ eof, ¬Exceeds (c.recvData (c.emptyData o eof)).1 := by
  intro h
  have hne := h _ _ shrunkRun_reachable 0 (by decide) (by decide) true
  exact absurd (exceeds_emptyData shrunkRun_reachable (by decide) (by decide) true) hne

theorem emptyData_accepted_iff_shrunk :
    ∃ c, Reachable (serverWith 3 1 (by decide) (by decide)) c ∧ 0 ∈ c.values ∧
      (c.objs 0).recv = .payload ∧
        (¬Exceeds (c.recvData (c.emptyData 0 true)).1 ↔ 0 ≤ (c.objs 0).recvWindow.size) :=
  ⟨_, shrunkRun_reachable, by decide, by decide,
    emptyData_accepted_iff shrunkRun_reachable (by decide) (by decide) true⟩

end Connection

end NtexH2
