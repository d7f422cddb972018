/-
  Session/Grammar.lean --- the sentences that are written for a stream.

  A history in which a stream has not gone bad reads as a sentence: interim
  headers, the head, payload, trailers.  The end of the stream and a reset are
  last words.
-/
import NtexH2.Session.Emission

set_option autoImplicit false

namespace NtexH2

/-! ## Frames of a sentence -/

namespace Frame

/-- HEADERS and DATA. -/
def isMessage : Frame → Bool
  | .headers _ | .data _ => true
  | _ => false

/-- The frame carries END_STREAM. -/
def endsStream : Frame → Bool
  | .headers h => h.endStream
  | .data d => d.endStream
  | _ => false

def isReset : Frame → Bool
  | .reset _ _ => true
  | _ => false

def isWindowUpdate : Frame → Bool
  | .windowUpdate _ _ => true
  | _ => false

end Frame

/-- A frame, and the function that wrote it. -/
abbrev Word := Writer × Frame

/-- What is written for the stream `o`, the oldest frame first. -/
def words (o : Nat) : List Event → List Word
  | [] => []
  | .sent (some p) w f :: l => if p = o then words o l ++ [(w, f)] else words o l
  | _ :: l => words o l

theorem words_sent (o p : Nat) (w : Writer) (f : Frame) (l : List Event) :
    words o (.sent (some p) w f :: l) =
      if p = o then words o l ++ [(w, f)] else words o l := rfl

theorem words_other {o : Nat} {e : Event} (h : ∀ p w f, e ≠ .sent (some p) w f) (l : List Event) :
    words o (e :: l) = words o l := by
  cases e with
  | sent obj w f =>
      cases obj with
      | none => rfl
      | some p => exact absurd rfl (h p w f)
  | _ => rfl

/-- The HEADERS and DATA frames. -/
def messages (l : List Word) : List Word := l.filter (·.2.isMessage)

/-- HEADERS of `send_informational`. -/
def IsInterim (x : Word) : Prop := ∃ h, x = (.sendInformational, .headers h)

/-- HEADERS that open a stream or answer a request. -/
def IsHead (x : Word) : Prop :=
  ∃ h, x = (.sendHeaders, .headers h) ∨ x = (.sendResponse, .headers h)

/-- DATA of `send_pages`. -/
def IsPayload (x : Word) : Prop := ∃ d, x = (.sendPages, .data d)

/-- HEADERS of `send_trailers`. -/
def IsTrailers (x : Word) : Prop := ∃ h, x = (.sendTrailers, .headers h)

/-- The start of interim headers, head, payload, trailers. -/
def Sentence (xs : List Word) : Prop :=
  ∃ interim rest, xs = interim ++ rest ∧ (∀ x ∈ interim, IsInterim x) ∧
    (rest = [] ∨ ∃ head payload trailers, rest = head :: (payload ++ trailers) ∧ IsHead head ∧
      (∀ x ∈ payload, IsPayload x) ∧ (trailers = [] ∨ ∃ t, trailers = [t] ∧ IsTrailers t))

/-- Nothing but RST_STREAM and WINDOW_UPDATE follows END_STREAM. -/
def EndLast (xs : List Word) : Prop := ∀ as x bs, xs = as ++ x :: bs → x.2.endsStream = true →
  ∀ y ∈ bs, y.2.isReset = true ∨ y.2.isWindowUpdate = true

/-- Nothing follows RST_STREAM. -/
def ResetLast (xs : List Word) : Prop := ∀ as x bs, xs = as ++ x :: bs → x.2.isReset = true →
  bs = []

/-! ## One more word -/

/-- How a list with one more word splits. -/
theorem split_concat {α : Type} {xs as bs : List α} {x y : α} (h : xs ++ [y] = as ++ x :: bs) :
    (xs = as ∧ y = x ∧ bs = []) ∨ ∃ bs', bs = bs' ++ [y] ∧ xs = as ++ x :: bs' := by
  rcases List.eq_nil_or_concat bs with rfl | ⟨bs', z, rfl⟩
  · obtain ⟨h1, h2⟩ := List.append_inj' h rfl
    exact .inl ⟨h1, List.head_eq_of_cons_eq h2, rfl⟩
  · have h' : xs ++ [y] = (as ++ x :: bs') ++ [z] := by rw [h]; simp
    obtain ⟨h1, h2⟩ := List.append_inj' h' rfl
    have hz : y = z := List.head_eq_of_cons_eq h2
    subst hz
    exact .inr ⟨bs', List.concat_eq_append, h1⟩

theorem EndLast.concat {xs : List Word} (h : EndLast xs) {y : Word}
    (hy : (∀ x ∈ xs, x.2.endsStream = false) ∨ y.2.isReset = true ∨ y.2.isWindowUpdate = true) :
    EndLast (xs ++ [y]) := by
  intro as x bs heq hx z hz
  rcases split_concat heq with ⟨-, -, rfl⟩ | ⟨bs', rfl, rfl⟩
  · cases hz
  · rcases List.mem_append.mp hz with hz | hz
    · exact h as x bs' rfl hx z hz
    · rw [List.mem_singleton.mp hz]
      rcases hy with hy | hy
      · have := hy x (List.mem_append_right as List.mem_cons_self)
        rw [hx] at this
        cases this
      · exact hy

theorem EndLast.of_none {xs : List Word} (h : ∀ x ∈ xs, x.2.endsStream = false) : EndLast xs := by
  intro as x bs heq hx
  have := h x (heq ▸ List.mem_append_right as List.mem_cons_self)
  rw [hx] at this
  cases this

theorem ResetLast.of_none {xs : List Word} (h : ∀ x ∈ xs, x.2.isReset = false) :
    ResetLast xs := by
  intro as x bs heq hx
  have := h x (heq ▸ List.mem_append_right as List.mem_cons_self)
  rw [hx] at this
  cases this

theorem ResetLast.concat {xs : List Word} (h : ∀ x ∈ xs, x.2.isReset = false) (y : Word) :
    ResetLast (xs ++ [y]) := by
  intro as x bs heq hx
  rcases split_concat heq with ⟨-, -, rfl⟩ | ⟨bs', rfl, rfl⟩
  · rfl
  · have := h x (List.mem_append_right as List.mem_cons_self)
    rw [hx] at this
    cases this

theorem messages_concat (xs : List Word) {y : Word} (hy : y.2.isMessage = true) :
    messages (xs ++ [y]) = messages xs ++ [y] := by
  simp [messages, hy]

theorem messages_other (xs : List Word) {y : Word} (hy : y.2.isMessage = false) :
    messages (xs ++ [y]) = messages xs := by
  simp [messages, hy]

/-! ## Sentences of the phases -/

/-- What is known of the words in each phase. -/
def Spoken : Phase → List Word → Prop
  | .start, xs => (∀ x ∈ messages xs, IsInterim x) ∧ (∀ x ∈ xs, x.2.endsStream = false) ∧
      ∀ x ∈ xs, x.2.isReset = false
  | .opened, xs => (∃ interim head payload, messages xs = interim ++ head :: payload ∧
      (∀ x ∈ interim, IsInterim x) ∧ IsHead head ∧ ∀ x ∈ payload, IsPayload x) ∧
      (∀ x ∈ xs, x.2.endsStream = false) ∧ ∀ x ∈ xs, x.2.isReset = false
  | .ended, xs | .gone, xs => Sentence (messages xs) ∧ EndLast xs ∧ ∀ x ∈ xs, x.2.isReset = false
  | .reset, xs => Sentence (messages xs) ∧ EndLast xs ∧ ResetLast xs
  | .bad, _ => True

theorem sentence_interim {xs : List Word} (h : ∀ x ∈ xs, IsInterim x) : Sentence xs :=
  ⟨xs, [], (List.append_nil xs).symm, h, .inl rfl⟩

theorem sentence_opened {interim payload : List Word} {head : Word}
    (hi : ∀ x ∈ interim, IsInterim x) (hh : IsHead head) (hp : ∀ x ∈ payload, IsPayload x) :
    Sentence (interim ++ head :: payload) :=
  ⟨interim, head :: payload, rfl, hi, .inr ⟨head, payload, [], by rw [List.append_nil], hh, hp,
    .inl rfl⟩⟩

theorem sentence_trailers {interim payload : List Word} {head t : Word}
    (hi : ∀ x ∈ interim, IsInterim x) (hh : IsHead head) (hp : ∀ x ∈ payload, IsPayload x)
    (ht : IsTrailers t) : Sentence ((interim ++ head :: payload) ++ [t]) :=
  ⟨interim, head :: (payload ++ [t]), by simp, hi, .inr ⟨head, payload, [t], rfl, hh, hp,
    .inr ⟨t, rfl, ht⟩⟩⟩

/-- Every phase but the bad one is a sentence. -/
theorem Spoken.sentence {p : Phase} {xs : List Word} (h : Spoken p xs) (hp : p ≠ .bad) :
    Sentence (messages xs) ∧ EndLast xs ∧ ResetLast xs := by
  cases p with
  | start => exact ⟨sentence_interim h.1, .of_none h.2.1, .of_none h.2.2⟩
  | opened =>
      obtain ⟨⟨interim, head, payload, hm, hi, hh, hpay⟩, hend, hres⟩ := h
      rw [hm]
      exact ⟨sentence_opened hi hh hpay, .of_none hend, .of_none hres⟩
  | ended => exact ⟨h.1, h.2.1, .of_none h.2.2⟩
  | gone => exact ⟨h.1, h.2.1, .of_none h.2.2⟩
  | reset => exact h
  | bad => exact absurd rfl hp

/-- The words that a phase allows. -/
theorem onSent_cases {p : Phase} {w : Writer} {f : Frame} (h : p.onSent w f ≠ .bad) :
    (∃ hd, p = .start ∧ w = .sendInformational ∧ f = .headers hd ∧ hd.endStream = false ∧
      p.onSent w f = .start) ∨
    (∃ hd, p = .start ∧ (w = .sendHeaders ∨ w = .sendResponse) ∧ f = .headers hd ∧
      p.onSent w f = if hd.endStream then .ended else .opened) ∨
    (∃ d, p = .opened ∧ w = .sendPages ∧ f = .data d ∧
      p.onSent w f = if d.endStream then .ended else .opened) ∨
    (∃ hd, p = .opened ∧ w = .sendTrailers ∧ f = .headers hd ∧ p.onSent w f = .ended) ∨
    (∃ id n, p.Open ∧ f = .windowUpdate id n ∧ p.onSent w f = p) ∨
    ∃ id r, p.Open ∧ f = .reset id r ∧ p.onSent w f = .reset := by
  unfold Phase.onSent at h ⊢
  split at h
  · next hd =>
      have hend : hd.endStream = false := by
        cases he : hd.endStream with
        | false => rfl
        | true => exact absurd (by rw [if_pos he]) h
      refine .inl ⟨hd, rfl, rfl, rfl, hend, ?_⟩
      rw [hend]
      rfl
  · next hd => exact .inr (.inl ⟨hd, rfl, .inl rfl, rfl, rfl⟩)
  · next hd => exact .inr (.inl ⟨hd, rfl, .inr rfl, rfl, rfl⟩)
  · next d => exact .inr (.inr (.inl ⟨d, rfl, rfl, rfl, rfl⟩))
  · next hd =>
      have hend : hd.endStream = true := by
        cases he : hd.endStream with
        | true => rfl
        | false => exact absurd (by rw [he]; rfl) h
      refine .inr (.inr (.inr (.inl ⟨hd, rfl, rfl, rfl, ?_⟩)))
      rw [hend]
      rfl
  · next id n => exact .inr (.inr (.inr (.inr (.inl ⟨id, n, .inl rfl, rfl, rfl⟩))))
  · next id n => exact .inr (.inr (.inr (.inr (.inl ⟨id, n, .inr (.inl rfl), rfl, rfl⟩))))
  · next id n => exact .inr (.inr (.inr (.inr (.inl ⟨id, n, .inr (.inr rfl), rfl, rfl⟩))))
  · next id r => exact .inr (.inr (.inr (.inr (.inr ⟨id, r, .inl rfl, rfl, rfl⟩))))
  · next id r => exact .inr (.inr (.inr (.inr (.inr ⟨id, r, .inr (.inl rfl), rfl, rfl⟩))))
  · next id r => exact .inr (.inr (.inr (.inr (.inr ⟨id, r, .inr (.inr rfl), rfl, rfl⟩))))
  · exact absurd rfl h

theorem forall_concat {P : Word → Prop} {xs : List Word} {y : Word} (h : ∀ x ∈ xs, P x) (hy : P y) :
    ∀ x ∈ xs ++ [y], P x := by
  intro x hx
  rcases List.mem_append.mp hx with hx | hx
  · exact h x hx
  · rw [List.mem_singleton.mp hx]
    exact hy

/-- One more frame is written. -/
theorem Spoken.sent {p : Phase} {xs : List Word} (h : Spoken p xs) {w : Writer} {f : Frame}
    (hne : p.onSent w f ≠ .bad) : Spoken (p.onSent w f) (xs ++ [(w, f)]) := by
  rcases onSent_cases hne with ⟨hd, rfl, rfl, rfl, hend, hp⟩ | ⟨hd, rfl, hw, rfl, hp⟩ |
    ⟨d, rfl, rfl, rfl, hp⟩ | ⟨hd, rfl, rfl, rfl, hp⟩ | ⟨id, n, ho, rfl, hp⟩ | ⟨id, r, ho, rfl, hp⟩
  · -- interim headers
    rw [hp]
    obtain ⟨hi, he, hr⟩ := h
    refine ⟨?_, forall_concat he hend, forall_concat hr rfl⟩
    rw [messages_concat _ rfl]
    exact forall_concat hi ⟨hd, rfl⟩
  · -- the head
    rw [hp]
    obtain ⟨hi, he, hr⟩ := h
    have hh : IsHead (w, .headers hd) := by
      rcases hw with rfl | rfl
      · exact ⟨hd, .inl rfl⟩
      · exact ⟨hd, .inr rfl⟩
    cases hend : hd.endStream with
    | false =>
        refine ⟨⟨messages xs, _, [], messages_concat _ rfl, hi, hh, fun x hx => by cases hx⟩,
          forall_concat he hend, forall_concat hr rfl⟩
    | true =>
        refine ⟨?_, (EndLast.of_none he).concat (.inl he), forall_concat hr rfl⟩
        rw [messages_concat _ rfl]
        exact sentence_opened hi hh fun x hx => by cases hx
  · -- payload
    rw [hp]
    obtain ⟨⟨interim, head, payload, hm, hi, hh, hpay⟩, he, hr⟩ := h
    have hm' : messages (xs ++ [(Writer.sendPages, Frame.data d)]) =
        interim ++ head :: (payload ++ [(Writer.sendPages, Frame.data d)]) := by
      rw [messages_concat _ rfl, hm]
      simp
    have hpay' := forall_concat hpay (y := (Writer.sendPages, Frame.data d)) ⟨d, rfl⟩
    cases hend : d.endStream with
    | false =>
        exact ⟨⟨interim, head, _, hm', hi, hh, hpay'⟩, forall_concat he hend,
          forall_concat hr rfl⟩
    | true =>
        refine ⟨?_, (EndLast.of_none he).concat (.inl he), forall_concat hr rfl⟩
        rw [hm']
        exact sentence_opened hi hh hpay'
  · -- trailers
    rw [hp]
    obtain ⟨⟨interim, head, payload, hm, hi, hh, hpay⟩, he, hr⟩ := h
    refine ⟨?_, (EndLast.of_none he).concat (.inl he), forall_concat hr rfl⟩
    rw [messages_concat _ rfl, hm]
    exact sentence_trailers hi hh hpay ⟨hd, rfl⟩
  · -- WINDOW_UPDATE
    rw [hp]
    have hm := messages_other xs (y := (w, Frame.windowUpdate id n)) rfl
    rcases ho with rfl | rfl | rfl
    · obtain ⟨hi, he, hr⟩ := h
      exact ⟨hm ▸ hi, forall_concat he rfl, forall_concat hr rfl⟩
    · obtain ⟨ho, he, hr⟩ := h
      exact ⟨hm ▸ ho, forall_concat he rfl, forall_concat hr rfl⟩
    · obtain ⟨hs, he, hr⟩ := h
      exact ⟨hm ▸ hs, he.concat (.inr (.inr rfl)), forall_concat hr rfl⟩
  · -- RST_STREAM
    rw [hp]
    have hm := messages_other xs (y := (w, Frame.reset id r)) rfl
    have hall := h.sentence (by rcases ho with rfl | rfl | rfl <;> decide)
    have hres : ∀ x ∈ xs, x.2.isReset = false := by
      rcases ho with rfl | rfl | rfl
      · exact h.2.2
      · exact h.2.2
      · exact h.2.2
    refine ⟨?_, hall.2.1.concat (.inr (.inl rfl)), .concat hres _⟩
    rw [hm]
    exact hall.1

/-- RST_STREAM is received. -/
theorem Spoken.received {p : Phase} {xs : List Word} (h : Spoken p xs) (hne : p.onReset ≠ .bad) :
    Spoken p.onReset xs := by
  cases p with
  | start => exact ⟨(h.sentence (by decide)).1, (h.sentence (by decide)).2.1, h.2.2⟩
  | opened => exact ⟨(h.sentence (by decide)).1, (h.sentence (by decide)).2.1, h.2.2⟩
  | ended => exact h
  | reset => exact absurd rfl hne
  | gone => exact absurd rfl hne
  | bad => exact absurd rfl hne

theorem Phase.next_bad (o : Nat) (e : Event) : Phase.next o .bad e = .bad := by
  unfold Phase.next
  split
  · split
    · rfl
    · rfl
  · split
    · rfl
    · rfl
  · rfl

/-- Before a history that is not bad there is none that is. -/
theorem phase_ne_bad_of_suffix {o : Nat} {l l' : List Event} (h : phase o l ≠ .bad)
    (hs : l' <:+ l) : phase o l' ≠ .bad := by
  induction l with
  | nil =>
      rw [List.suffix_nil.mp hs]
      exact h
  | cons e l ih =>
      rcases List.suffix_cons_iff.mp hs with rfl | hs
      · exact h
      · refine ih (fun hb => h ?_) hs
        show (phase o l).next o e = .bad
        rw [hb]
        exact Phase.next_bad o e

/-- The words of a history that has not gone bad. -/
theorem spoken_phase {o : Nat} {l : List Event} (h : phase o l ≠ .bad) :
    Spoken (phase o l) (words o l) := by
  induction l with
  | nil =>
      have hno : ∀ {P : Word → Prop}, ∀ x ∈ ([] : List Word), P x := fun x hx => by cases hx
      exact ⟨hno, hno, hno⟩
  | cons e l ih =>
      have hl := ih (phase_ne_bad_of_suffix h (List.suffix_cons e l))
      have hnext : phase o (e :: l) = (phase o l).next o e := rfl
      rw [hnext] at h ⊢
      unfold Phase.next at h ⊢
      split
      · next q w f =>
          rw [words_sent]
          by_cases hq : q = o
          · simp only [hq, if_true] at h ⊢
            exact hl.sent h
          · simp only [hq, if_false] at h ⊢
            exact hl
      · next q id r =>
          rw [words_other fun p w f he => by cases he]
          by_cases hq : q = o
          · simp only [hq, if_true] at h ⊢
            exact hl.received h
          · simp only [hq, if_false] at h ⊢
            exact hl
      · next h1 h2 =>
          rw [words_other fun p w f he => h1 p w f he]
          exact hl

/-! ## After a received reset -/

/-- After RST_STREAM is received for a stream, nothing is written for it. -/
theorem words_after_reset {o : Nat} {id : StreamId} {r : Reason} {pre l : List Event}
    (h : phase o (pre ++ .received (some o) (.reset id r) :: l) ≠ .bad) :
    phase o (pre ++ .received (some o) (.reset id r) :: l) = .gone ∧
      words o (pre ++ .received (some o) (.reset id r) :: l) = words o l := by
  induction pre with
  | nil =>
      have hp : phase o (.received (some o) (.reset id r) :: l) = (phase o l).onReset := by
        show Phase.next o _ _ = _
        unfold Phase.next
        exact if_pos rfl
      rw [List.nil_append] at h ⊢
      refine ⟨?_, rfl⟩
      rw [hp] at h ⊢
      cases hl : phase o l <;> rw [hl] at h <;> first
        | rfl
        | exact absurd rfl h
  | cons e pre ih =>
      rw [List.cons_append] at h ⊢
      obtain ⟨hg, hw⟩ := ih (phase_ne_bad_of_suffix h (List.suffix_cons e _))
      have hnext : phase o (e :: (pre ++ .received (some o) (.reset id r) :: l)) =
          Phase.next o .gone e := by
        show Phase.next o _ e = _
        rw [hg]
      rw [hnext] at h ⊢
      unfold Phase.next at h ⊢
      split
      · next q w f =>
          by_cases hq : q = o
          · simp only [hq, if_true] at h
            exact absurd rfl h
          · rw [words_sent, if_neg hq, if_neg hq]
            exact ⟨rfl, hw⟩
      · next q id' r' =>
          rw [words_other fun p w f he => by cases he]
          by_cases hq : q = o
          · simp only [hq, if_true] at h
            exact absurd rfl h
          · rw [if_neg hq]
            exact ⟨rfl, hw⟩
      · next h1 h2 =>
          rw [words_other fun p w f he => h1 p w f he]
          exact ⟨rfl, hw⟩

/-! ## The first word -/

namespace Session

/-- New events are written for streams that exist. -/
structure LogFrame (k k' : Session) : Prop where
  created : k'.created = k.created
  server : k'.server = k.server
  log : ∃ evs, k'.log = evs ++ k.log ∧ ∀ e ∈ evs, ∀ o w f, e = .sent (some o) w f → o < k.created

theorem LogFrame.of_eq {k k' : Session} (hc : k'.created = k.created) (hs : k'.server = k.server)
    (hl : k'.log = k.log) : LogFrame k k' :=
  ⟨hc, hs, [], hl, fun e he => by cases he⟩

theorem LogFrame.modify (k : Session) (o : Nat) (f : Cell → Cell) : LogFrame k (k.modify o f) :=
  .of_eq rfl rfl rfl

theorem LogFrame.refl (k : Session) : LogFrame k k := .of_eq rfl rfl rfl

theorem LogFrame.trans {k k' k'' : Session} (f : LogFrame k k') (g : LogFrame k' k'') :
    LogFrame k k'' := by
  obtain ⟨es, hes, hf⟩ := f.log
  obtain ⟨es', hes', hg⟩ := g.log
  refine ⟨g.created.trans f.created, g.server.trans f.server, es' ++ es, ?_, ?_⟩
  · rw [hes', hes, List.append_assoc]
  · intro e he o w fr heq
    rcases List.mem_append.mp he with he | he
    · exact f.created ▸ hg e he o w fr heq
    · exact hf e he o w fr heq

theorem LogFrame.push (k : Session) {e : Event}
    (he : ∀ o w f, e = .sent (some o) w f → o < k.created) : LogFrame k (k.push e) := by
  refine ⟨rfl, rfl, [e], rfl, ?_⟩
  intro e' he' o w f heq
  rw [List.mem_singleton.mp he'] at heq
  exact he o w f heq

/-- An event that is not written for a stream. -/
theorem LogFrame.other (k : Session) {e : Event} (he : ∀ o w f, e ≠ .sent (some o) w f) :
    LogFrame k (k.push e) :=
  .push k fun o w f heq => absurd heq (he o w f)

/-- A frame that is written for a stream. -/
theorem LogFrame.sent (k : Session) {o : Nat} (ho : o < k.created) (w : Writer) (f : Frame) :
    LogFrame k (k.push (.sent (some o) w f)) :=
  .push k fun o' w' f' heq => by
    cases heq
    exact ho

/-- Another frame for a stream that has existed before. -/
theorem LogFrame.andSent {k k' : Session} (f : LogFrame k k') {o : Nat} (ho : o < k.created)
    (w : Writer) (fr : Frame) : LogFrame k (k'.push (.sent (some o) w fr)) :=
  f.trans (.sent k' (f.created ▸ ho) w fr)

theorem LogFrame.close (k : Session) (o : Nat) (r w : Bool) : LogFrame k (k.close o r w) := by
  refine ⟨rfl, rfl, ?_⟩
  simp only [Session.close]
  split
  · refine ⟨[.close], rfl, fun e he o w f heq => ?_⟩
    rw [List.mem_singleton.mp he] at heq
    cases heq
  · exact ⟨[], rfl, fun e he => by cases he⟩

theorem LogFrame.ioClose (k : Session) : LogFrame k k.ioClose :=
  (LogFrame.other k (e := .close) fun o w f heq => by cases heq).trans (.of_eq rfl rfl rfl)

theorem LogFrame.reset (k : Session) {o : Nat} (ho : o < k.created) (r : Reason) :
    LogFrame k (k.reset o r) :=
  (LogFrame.sent k ho .resetSilent (.reset (k.cells o).id r)).trans (.close _ o true true)

theorem LogFrame.topUp (k : Session) : LogFrame k k.topUp := by
  unfold Session.topUp
  split
  · exact (LogFrame.other k (e := .sent none .connection _) fun o w f heq => by cases heq).trans
      (.of_eq rfl rfl rfl)
  · exact .refl k

theorem LogFrame.streamTopUp (k : Session) {o : Nat} (ho : o < k.created) :
    LogFrame k (k.streamTopUp o) := by
  unfold Session.streamTopUp
  split
  · exact (LogFrame.modify k o _).andSent ho _ _
  · exact .refl k

theorem LogFrame.stray (k : Session) (obj : Option Nat) (d : Data) :
    LogFrame k (k.stray obj d) := by
  refine ((LogFrame.other k (e := .received obj (.data d)) fun o w f heq => by cases heq).trans
    ?_).trans (.topUp _)
  exact .of_eq rfl rfl rfl

/-- Every step but the opening of a stream. -/
theorem Step.log_cases {G : Guard} {k k' : Session} (ht : k.Table) (hs : Step G k k') :
    LogFrame k k' ∨ (∃ id, k.server = true ∧ k' = k.accept id) ∨
      ∃ h reserved, k.server = false ∧ h.streamId = 2 * k.created + 1 ∧
        k.nextStreamId + 2 ≤ StreamId.max ∧ k' = k.openLocal h reserved := by
  cases hs with
  | @quiet e he =>
      refine .inl (.other k fun o w f heq => ?_)
      subst heq
      cases f <;> exact he
  | raise hs hid => exact .inl (.of_eq rfl rfl rfl)
  | @accept id hs hd hid hodd hmax => exact .inr (.inl ⟨id, hs, rfl⟩)
  | @openLocal h reserved hs hf hg hd hid hmax hr =>
      exact .inr (.inr ⟨h, reserved, hs, hid.trans (ht.given hs).1, hmax, rfl⟩)
  | close ho hrw => exact .inl (.close k _ _ _)
  | remoteReset ho =>
      exact .inl ((LogFrame.other k fun o w f heq => by cases heq).trans (.close _ _ true true))
  | recvPayload ho hi => exact .inl (.of_eq rfl rfl rfl)
  | interim ho hi hid hend => exact .inl (.sent k ho _ _)
  | @respond o h ho hi hid =>
      refine .inl ?_
      unfold Session.respond
      split
      · exact (LogFrame.close k o false true).andSent ho _ _
      · exact (LogFrame.modify k o _).andSent ho _ _
  | @chunk o d ho hp hid hw hc hm =>
      refine .inl (((LogFrame.sent k ho .sendPages (.data d)).trans
        (.close _ o false d.endStream)).trans ?_)
      exact .of_eq rfl rfl rfl
  | @finish o ho hp => exact .inl ((LogFrame.close k o false true).andSent ho _ _)
  | @trailers o h ho hp hid hend =>
      exact .inl ((LogFrame.sent k ho .sendTrailers (.headers h)).trans (.close _ o false true))
  | reset ho => exact .inl (.reset k (ht.bound _ ho) _)
  | @charge o d ho hid hw hc =>
      exact .inl ((LogFrame.other k (e := .received (some o) (.data d)) fun o w f heq => by
        cases heq).trans (.of_eq rfl rfl rfl))
  | stray hid hc => exact .inl (.stray k none _)
  | @overrun o d ho hid hw hc =>
      have h1 := LogFrame.stray k (some o) d
      have h2 := h1.trans (LogFrame.other _ (e := .streamFailed o .recvWindowExceeded)
        fun o w f heq => by cases heq)
      exact .inl (h2.trans (.reset _ (h2.created ▸ ht.bound o ho) _))
  | @release o n caps ho hcaps hheld hall =>
      refine .inl ?_
      rw [release_eq]
      have h1 : LogFrame k (k.released o n caps) := .of_eq rfl rfl rfl
      exact (h1.trans (.streamTopUp _ ho)).trans (.topUp _)
  | caps hcaps hheld hall => exact .inl (.of_eq rfl rfl rfl)
  | @conCredit n hn =>
      exact .inl ((LogFrame.other k (e := .received none (.windowUpdate 0 n)) fun o w f heq => by
        cases heq).trans (.of_eq rfl rfl rfl))
  | @credit o n id ho hid hn =>
      exact .inl ((LogFrame.other k (e := .received (some o) (.windowUpdate id n))
        fun o w f heq => by cases heq).trans (.of_eq rfl rfl rfl))
  | lateCredit h0 hid => exact .inl (.other k fun o w f heq => by cases heq)
  | @badCredit o n id e ho hid =>
      have h1 := (LogFrame.other k (e := .received (some o) (.windowUpdate id n))
        fun o w f heq => by cases heq).trans (LogFrame.other _ (e := .streamFailed o e)
          fun o w f heq => by cases heq)
      exact .inl (h1.trans (.reset _ (h1.created ▸ ht.bound o ho) _))
  | @settings s hack hw hn =>
      have h1 := (LogFrame.other k (e := .received none (.settings s))
        fun o w f heq => by cases heq).trans (LogFrame.other _
          (e := .sent none .connection (.settings .newAck)) fun o w f heq => by cases heq)
      exact .inl (h1.trans (.of_eq rfl rfl rfl))
  | @ackBegin s hack hp =>
      exact .inl ((LogFrame.other k (e := .received none (.settings s)) fun o w f heq => by
        cases heq).trans (.of_eq rfl rfl rfl))
  | @ackOne o rest ha hG =>
      have ho : o < k.created := ht.acking o (ha ▸ List.mem_cons_self)
      refine .inl ?_
      unfold Session.ackOne
      split
      · exact .of_eq rfl rfl rfl
      · split
        · exact .of_eq rfl rfl rfl
        · have h1 : LogFrame k ({ k with acking := rest }.modify o fun s =>
              { s with recvWindow := s.recvWindow + k.shift }) := .of_eq rfl rfl rfl
          exact h1.trans (.streamTopUp _ (h1.created ▸ ho))
  | @ackFailed o e l ho hl =>
      have h1 : LogFrame k { k with ackErrors := l } := .of_eq rfl rfl rfl
      exact .inl (((h1.trans (.other _ (e := .streamFailed o e) fun o w f heq => by
        cases heq)).trans (.close _ o true true)).trans (.other _ fun o w f heq => by cases heq))
  | @fail evs window windowSz frameSize he =>
      refine .inl ⟨rfl, rfl, evs, rfl, fun e hmem o w f heq => ?_⟩
      rcases he.mem e hmem with ⟨err, rfl⟩ | ⟨obj, f', rfl, -⟩
      · cases heq
      · cases heq
  | shut _ => exact .inl (.ioClose k)
  | drain =>
      refine .inl ?_
      unfold Session.drain
      have h1 : LogFrame k { k with draining := true } := .of_eq rfl rfl rfl
      split
      · exact h1.trans (.ioClose _)
      · exact h1
  | goneAway => exact .inl (.of_eq rfl rfl rfl)
  | reserve hs hf hg hd => exact .inl (.of_eq rfl rfl rfl)
  | unreserve hs hr =>
      refine .inl ?_
      unfold Session.unreserve
      dsimp only
      split
      · refine LogFrame.trans ?_ (.ioClose _)
        exact .of_eq rfl rfl rfl
      · exact .of_eq rfl rfl rfl
  | senders hl => exact .inl (.of_eq rfl rfl rfl)
  | reorder hl => exact .inl (.of_eq rfl rfl rfl)

/-- Nothing is written for a stream before it is created, and the stream of a client begins
with its request. -/
structure Begins (k : Session) : Prop where
  fresh : ∀ o, k.created ≤ o → words o k.log = []
  head : k.server = false → ∀ o < k.created, ∃ h xs,
    words o k.log = (.sendHeaders, .headers h) :: xs ∧ h.streamId = 2 * o + 1

theorem words_append {o : Nat} {evs l : List Event} {n : Nat}
    (h : ∀ e ∈ evs, ∀ p w f, e = .sent (some p) w f → p < n) :
    ∃ ys, words o (evs ++ l) = words o l ++ ys ∧ (n ≤ o → ys = []) := by
  induction evs with
  | nil => exact ⟨[], (List.append_nil _).symm, fun _ => rfl⟩
  | cons e evs ih =>
      obtain ⟨ys, hys, hnil⟩ := ih fun e' he' => h e' (List.mem_cons_of_mem e he')
      rw [List.cons_append]
      by_cases hsent : ∃ p w f, e = .sent (some p) w f
      · obtain ⟨p, w, f, rfl⟩ := hsent
        have hp := h _ List.mem_cons_self p w f rfl
        rw [words_sent]
        by_cases hpo : p = o
        · rw [if_pos hpo, hys]
          refine ⟨ys ++ [(w, f)], List.append_assoc _ _ _, fun hle => ?_⟩
          exact absurd (hpo ▸ hp) (Nat.not_lt.mpr hle)
        · rw [if_neg hpo]
          exact ⟨ys, hys, hnil⟩
      · rw [words_other fun p w f heq => hsent ⟨p, w, f, heq⟩]
        exact ⟨ys, hys, hnil⟩

theorem Begins.frame {k k' : Session} (h : k.Begins) (f : LogFrame k k') : k'.Begins := by
  obtain ⟨evs, hlog, hevs⟩ := f.log
  constructor
  · intro o ho
    rw [f.created] at ho
    obtain ⟨ys, hys, hnil⟩ := words_append (o := o) (l := k.log) hevs
    rw [hlog, hys, h.fresh o ho, hnil ho]
    rfl
  · intro hs o ho
    rw [f.created] at ho
    rw [f.server] at hs
    obtain ⟨hd, xs, hw, hid⟩ := h.head hs o ho
    obtain ⟨ys, hys, -⟩ := words_append (o := o) (l := k.log) hevs
    exact ⟨hd, xs ++ ys, by rw [hlog, hys, hw]; rfl, hid⟩

theorem Begins.step {G : Guard} {k k' : Session} (h : k.Begins) (ht : k.Table)
    (hs : Step G k k') : k'.Begins := by
  rcases hs.log_cases ht with f | ⟨id, hserver, rfl⟩ | ⟨hd, reserved, hserver, hid, -, rfl⟩
  · exact h.frame f
  · constructor
    · intro o ho
      exact h.fresh o (Nat.le_of_succ_le ho)
    · intro hs
      have hs' : k.server = false := hs
      rw [hserver] at hs'
      cases hs'
  · have hw : ∀ o, words o (k.openLocal hd reserved).log =
        if k.created = o then words o k.log ++ [(.sendHeaders, .headers hd)]
        else words o k.log := fun o => words_sent o k.created .sendHeaders (.headers hd) k.log
    constructor
    · intro o ho
      have ho' : k.created + 1 ≤ o := ho
      rw [hw, if_neg (by omega)]
      exact h.fresh o (by omega)
    · intro _ o ho
      have ho' : o < k.created + 1 := ho
      rw [hw]
      by_cases hoc : k.created = o
      · rw [if_pos hoc, h.fresh o (by omega)]
        exact ⟨hd, [], rfl, by rw [hid, hoc]⟩
      · rw [if_neg hoc]
        exact h.head hserver o (by omega)

end Session

end NtexH2
