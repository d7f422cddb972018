/-
  Lib/Incremental.lean --- readers that take their input in pieces.

  A reader looks at the input it has, and in one round takes an item off its front,
  takes something off that is no item, fails, or asks for more.  If what a round does
  does not depend on input it has not looked at, then a stream gives the same items
  however it is cut.
-/
import Mathlib.Tactic

set_option autoImplicit false

namespace Lib.Incremental

/-- What a round does: the next state, and what is left of the input. -/
inductive Round (σ α β ε : Type) where
  | stuck (s : σ)
  | fail (e : ε) (s : σ) (rest : List α)
  | item (b : β) (s : σ) (rest : List α)
  | skip (s : σ) (rest : List α)

namespace Round

variable {σ α β ε : Type}

/-- The same round, with more input behind what it has looked at; nothing is said of a round
that asks for more. -/
def append (more : List α) : Round σ α β ε → Round σ α β ε
  | .stuck s => .stuck s
  | .fail e s rest => .fail e s (rest ++ more)
  | .item b s rest => .item b s (rest ++ more)
  | .skip s rest => .skip s (rest ++ more)

/-- The input that is left, if the reader goes on. -/
def left? : Round σ α β ε → Option (List α)
  | .item _ _ rest => some rest
  | .skip _ rest => some rest
  | _ => none

/-- The round asks for more. -/
def Stuck (r : Round σ α β ε) : Prop := ∃ s, r = .stuck s

/-- A round that does what another one does, up to the states and the items, unless that one
fails. -/
inductive Follows {τ γ : Type} (R : σ → τ → Prop) (K : β → γ → Prop) :
    Round σ α β ε → Round τ α γ ε → Prop where
  | stuck {s : σ} {t : τ} : R s t → Follows R K (.stuck s) (.stuck t)
  | fail {e : ε} {s : σ} {rest : List α} {r : Round τ α γ ε} : Follows R K (.fail e s rest) r
  | item {b : β} {b' : γ} {s : σ} {t : τ} {rest : List α} : K b b' → R s t →
      Follows R K (.item b s rest) (.item b' t rest)
  | skip {s : σ} {t : τ} {rest : List α} : R s t → Follows R K (.skip s rest) (.skip t rest)

end Round

/-- A reader: it goes on with less, later input does not change a round, and a round that asked for
more is not changed by having asked. -/
structure Reader (σ α β ε : Type) where
  round : σ → List α → Round σ α β ε
  shorter : ∀ {s src rest}, (round s src).left? = some rest → rest.length < src.length
  append : ∀ {s src}, ¬(round s src).Stuck → ∀ more,
    round s (src ++ more) = (round s src).append more
  again : ∀ {s src s'}, round s src = .stuck s' → ∀ more,
    round s' (src ++ more) = round s (src ++ more)

/-- What a reader has done: the items, the failure that ended it, its state, and what is left. -/
structure Outcome (σ α β ε : Type) where
  items : List β
  fault : Option ε
  state : σ
  rest : List α

namespace Outcome

variable {σ α β ε : Type}

/-- The outcome with earlier items. -/
def after (bs : List β) (o : Outcome σ α β ε) : Outcome σ α β ε := { o with items := bs ++ o.items }

/-- Two outcomes that agree, except for the input left behind a failure. -/
structure Agrees (o o' : Outcome σ α β ε) : Prop where
  items : o.items = o'.items
  fault : o.fault = o'.fault
  state : o.state = o'.state
  rest : o'.fault = none → o.rest = o'.rest

theorem Agrees.refl (o : Outcome σ α β ε) : Agrees o o := ⟨rfl, rfl, rfl, fun _ => rfl⟩

theorem Agrees.after {o o' : Outcome σ α β ε} (h : Agrees o o') (bs : List β) :
    Agrees (o.after bs) (o'.after bs) :=
  ⟨congrArg (bs ++ ·) h.items, h.fault, h.state, h.rest⟩

end Outcome

namespace Reader

variable {σ α β ε : Type} (m : Reader σ α β ε)

/-- Rounds until the reader asks for more or fails. -/
def run (s : σ) (src : List α) : Outcome σ α β ε :=
  match _h : m.round s src with
  | .stuck s' => ⟨[], none, s', src⟩
  | .fail e s' rest => ⟨[], some e, s', rest⟩
  | .item b s' rest => (run s' rest).after [b]
  | .skip s' rest => run s' rest
termination_by src.length
decreasing_by
  · exact m.shorter (by rw [_h]; rfl)
  · exact m.shorter (by rw [_h]; rfl)

variable {m} {s s' : σ} {src rest : List α}

theorem run_stuck (h : m.round s src = .stuck s') : m.run s src = ⟨[], none, s', src⟩ := by
  rw [run]
  split <;> rename_i heq <;> rw [h] at heq <;> cases heq
  rfl

theorem run_fail {e : ε} (h : m.round s src = .fail e s' rest) :
    m.run s src = ⟨[], some e, s', rest⟩ := by
  rw [run]
  split <;> rename_i heq <;> rw [h] at heq <;> cases heq
  rfl

theorem run_item {b : β} (h : m.round s src = .item b s' rest) :
    m.run s src = (m.run s' rest).after [b] := by
  rw [run]
  split <;> rename_i heq <;> rw [h] at heq <;> cases heq
  rfl

theorem run_skip (h : m.round s src = .skip s' rest) : m.run s src = m.run s' rest := by
  rw [run]
  split <;> rename_i heq <;> rw [h] at heq <;> cases heq
  rfl

/-- A run depends on the state through its first round only. -/
theorem run_congr (h : m.round s src = m.round s' src) : m.run s src = m.run s' src := by
  cases hr : m.round s' src with
  | stuck s'' => rw [run_stuck hr, run_stuck (h.trans hr)]
  | fail e s'' rest => rw [run_fail hr, run_fail (h.trans hr)]
  | item b s'' rest => rw [run_item hr, run_item (h.trans hr)]
  | skip s'' rest => rw [run_skip hr, run_skip (h.trans hr)]

variable (m)

/-- The rest of a run, when more input comes. -/
def resume (o : Outcome σ α β ε) (more : List α) : Outcome σ α β ε :=
  match o.fault with
  | some _ => { o with rest := o.rest ++ more }
  | none => (m.run o.state (o.rest ++ more)).after o.items

theorem resume_after (bs : List β) (o : Outcome σ α β ε) (more : List α) :
    m.resume (o.after bs) more = (m.resume o more).after bs := by
  obtain ⟨items, fault, state, rest⟩ := o
  cases fault with
  | some e => rfl
  | none =>
      show (m.run state (rest ++ more)).after (bs ++ items) = _
      unfold Outcome.after resume
      dsimp only
      unfold Outcome.after
      rw [List.append_assoc]

/-- A run over two pieces is a run over the first, and then the rest of it. -/
theorem run_append (s : σ) (src more : List α) :
    m.run s (src ++ more) = m.resume (m.run s src) more := by
  induction hn : src.length using Nat.strongRecOn generalizing s src with
  | ind n ih =>
      subst hn
      cases hr : m.round s src with
      | stuck s' =>
          rw [run_stuck hr]
          have hagain := m.again hr more
          show _ = (m.run s' (src ++ more)).after []
          rw [run_congr hagain]
          rfl
      | fail e s' rest =>
          have happ := m.append (by rw [hr]; exact nofun) more
          rw [hr] at happ
          rw [run_fail hr, run_fail happ]
          rfl
      | item b s' rest =>
          have happ := m.append (by rw [hr]; exact nofun) more
          rw [hr] at happ
          have hlt : rest.length < src.length := m.shorter (by rw [hr]; rfl)
          rw [run_item hr, run_item happ, ih rest.length hlt s' rest rfl, resume_after]
      | skip s' rest =>
          have happ := m.append (by rw [hr]; exact nofun) more
          rw [hr] at happ
          have hlt : rest.length < src.length := m.shorter (by rw [hr]; rfl)
          rw [run_skip hr, run_skip happ, ih rest.length hlt s' rest rfl]

/-- A run without a failure ends where the reader asks for more. -/
theorem run_settled (s : σ) (src : List α) (h : (m.run s src).fault = none) :
    m.round (m.run s src).state (m.run s src).rest = .stuck (m.run s src).state := by
  induction hn : src.length using Nat.strongRecOn generalizing s src with
  | ind n ih =>
      subst hn
      cases hr : m.round s src with
      | stuck s' =>
          have hagain := m.again hr []
          rw [List.append_nil, hr] at hagain
          rw [run_stuck hr]
          exact hagain
      | fail e s' rest =>
          rw [run_fail hr] at h
          cases h
      | item b s' rest =>
          have hlt : rest.length < src.length := m.shorter (by rw [hr]; rfl)
          rw [run_item hr] at h ⊢
          exact ih rest.length hlt s' rest h rfl
      | skip s' rest =>
          have hlt : rest.length < src.length := m.shorter (by rw [hr]; rfl)
          rw [run_skip hr] at h ⊢
          exact ih rest.length hlt s' rest h rfl

/-- Round by round, a reader follows another one until that fails. -/
theorem run_follows {τ γ : Type} (m' : Reader τ α γ ε) {R : σ → τ → Prop} {K : β → γ → Prop}
    (hround : ∀ {s t}, R s t → ∀ src, (m.round s src).Follows R K (m'.round t src))
    {s : σ} {t : τ} (h : R s t) (src : List α) (hfault : (m.run s src).fault = none) :
    (m'.run t src).fault = none ∧ R (m.run s src).state (m'.run t src).state ∧
      (m'.run t src).rest = (m.run s src).rest ∧
      List.Forall₂ K (m.run s src).items (m'.run t src).items := by
  induction hn : src.length using Nat.strongRecOn generalizing s t src with
  | ind n ih =>
      subst hn
      have hf := hround h src
      cases hr : m.round s src with
      | stuck s' =>
          rw [hr] at hf
          cases hr' : m'.round t src <;> rw [hr'] at hf <;> cases hf
          next t' hR =>
            rw [run_stuck hr, run_stuck hr']
            exact ⟨rfl, hR, rfl, .nil⟩
      | fail e s' rest =>
          rw [run_fail hr] at hfault
          cases hfault
      | item b s' rest =>
          rw [hr] at hf
          cases hr' : m'.round t src <;> rw [hr'] at hf <;> cases hf
          next b' t' hK hR =>
            have hlt : rest.length < src.length := m.shorter (by rw [hr]; rfl)
            rw [run_item hr] at hfault ⊢
            rw [run_item hr']
            obtain ⟨h1, h2, h3, h4⟩ := ih rest.length hlt hR rest hfault rfl
            exact ⟨h1, h2, h3, .cons hK h4⟩
      | skip s' rest =>
          rw [hr] at hf
          cases hr' : m'.round t src <;> rw [hr'] at hf <;> cases hf
          next t' hR =>
            have hlt : rest.length < src.length := m.shorter (by rw [hr]; rfl)
            rw [run_skip hr] at hfault ⊢
            rw [run_skip hr']
            exact ih rest.length hlt hR rest hfault rfl

/-- A run over each piece as it comes, until one fails. -/
def feedAll : List (List α) → σ → List α → Outcome σ α β ε
  | [], s, buf => ⟨[], none, s, buf⟩
  | piece :: pieces, s, buf =>
      let o := m.run s (buf ++ piece)
      match o.fault with
      | some _ => o
      | none => (feedAll pieces o.state o.rest).after o.items

/-- However the input is cut, the outcome is that of the whole. -/
theorem feedAll_agrees (pieces : List (List α)) :
    ∀ (s : σ) (buf : List α), m.round s buf = .stuck s →
      (m.feedAll pieces s buf).Agrees (m.run s (buf ++ pieces.flatten)) := by
  induction pieces with
  | nil =>
      intro s buf h
      rw [List.flatten_nil, List.append_nil, run_stuck h]
      exact .refl _
  | cons piece pieces ih =>
      intro s buf _
      rw [List.flatten_cons, ← List.append_assoc, run_append]
      unfold feedAll resume
      dsimp only
      have hsettled := m.run_settled s (buf ++ piece)
      generalize m.run s (buf ++ piece) = o at hsettled
      obtain ⟨items, fault, state, rest⟩ := o
      cases fault with
      | some e => exact ⟨rfl, rfl, rfl, nofun⟩
      | none => exact (ih state rest (hsettled rfl)).after items

end Reader

end Lib.Incremental
