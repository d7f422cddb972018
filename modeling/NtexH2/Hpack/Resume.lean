/-
  Hpack/Resume.lean --- a block that arrives in pieces.

  `decode` applies the complete representations of a piece and leaves the octets of the
  one that is cut off; it is read again with the next piece in front of which they are
  put.  What is not left is the scratch buffer: a Huffman-coded name that was complete
  has been taken out of it together with what was there before, and the second reading
  no longer finds that.
-/
import NtexH2.Hpack.Scratch

set_option autoImplicit false

namespace NtexH2.Hpack

variable {S : HttpSyntax}

/-- A header that is parsed from a name has that name. -/
theorem Header.new_name {name value : Bytes} {h : Named S}
    (hnew : Header.new S name value = .ok h) :
    h.name.asSlice = name := by
  cases name with
  | nil => cases hnew
  | cons c rest =>
      rw [Header.new] at hnew
      split at hnew
      · next hc =>
          subst hc
          have hmap : ∀ {α : Type} {x : Except DecoderError α} {f : α → Named S} {n : Bytes},
              x.map f = .ok h → (∀ a, (f a).name.asSlice = n) → h.name.asSlice = n := by
            intro α x f n hx hf
            cases x with
            | error e => cases hx
            | ok a =>
                cases hx
                exact hf a
          split at hnew
          · next hrest =>
              subst hrest
              exact hmap hnew fun a => show octets ":authority" = 58 :: octets "authority" by decide
          split at hnew
          · next hrest =>
              subst hrest
              exact hmap hnew fun a => show octets ":method" = 58 :: octets "method" by decide
          split at hnew
          · next hrest =>
              subst hrest
              exact hmap hnew fun a => show octets ":scheme" = 58 :: octets "scheme" by decide
          split at hnew
          · next hrest =>
              subst hrest
              exact hmap hnew fun a => show octets ":path" = 58 :: octets "path" by decide
          split at hnew
          · next hrest =>
              subst hrest
              exact hmap hnew fun a => show octets ":protocol" = 58 :: octets "protocol" by decide
          split at hnew
          · next hrest =>
              subst hrest
              exact hmap hnew fun a => show octets ":status" = 58 :: octets "status" by decide
          · cases hnew
      · obtain ⟨n, hn, hnew⟩ := bind_eq_ok.mp hnew
        obtain ⟨v, hv, hnew⟩ := bind_eq_ok.mp hnew
        unfold HeaderName.fromLowercase at hn
        split at hn
        · cases hn
          cases hnew
          rfl
        · cases hn

namespace Scan

variable {α β : Type}

/-- What a step parser reads stays the same in front of more octets. -/
theorem Local.extend {p : Scan α} (h : Local p) {x r b b' : Bytes} {a : α}
    (hp : p x b = .ok (a, r) b') (y : Bytes) : p (x ++ y) b = .ok (a, r ++ y) b' := by
  obtain ⟨u, rfl, hu⟩ := h.ok hp
  rw [List.append_assoc]
  exact hu (r ++ y)

/-- What is read does not depend on the buffer. -/
theorem Blind.ok {p : Scan α} (h : Blind p) {x r b b' : Bytes} {a : α}
    (hp : p x b = .ok (a, r) b') (b'' : Bytes) : p x b'' = .ok (a, r) b'' := by
  rw [h] at hp ⊢
  cases hnil : p x [] with
  | error e b1 =>
      rw [hnil] at hp
      cases hp
  | ok ar b1 =>
      rw [hnil] at hp
      cases hp
      rfl

/-- Whether a size update is allowed matters for size updates only. -/
theorem item_resizable (d : Decoder S) (x b : Bytes) :
    Scan.item d false x b = .error (.fault (.err .invalidMaxDynamicSize)) b ∨
      ∀ canResize, Scan.item d canResize x b = Scan.item d false x b ∧
        ∀ item r b', Scan.item d false x b = .ok (item, r) b' → item.isResize = false := by
  cases x with
  | nil => exact .inr fun canResize => ⟨rfl, fun item r b' h => by cases h⟩
  | cons ty x =>
      have hoctet : octet .unexpectedEndOfStream (ty :: x) b = .ok (ty, x) b := rfl
      have hfield : ∀ (p : Scan (Named S)) (inserted : Bool),
          Gives (fun item : Item S => item.isResize = false)
            (p >>= fun h => pure (Item.field h inserted)) :=
        fun p inserted => .bind fun h => gives_pure rfl
      simp only [item, bind_ok hoctet]
      cases hload : Representation.load ty with
      | error e => exact .inr fun canResize => ⟨rfl, fun item r b' h => by cases h⟩
      | ok rep =>
          have hrep : (checked (.ok rep) : Scan Representation) x b = .ok (rep, x) b := rfl
          simp only [bind_ok hrep]
          cases rep with
          | indexed =>
              exact .inr fun canResize => ⟨rfl, fun item r b' h =>
                (Gives.bind fun index => hfield _ false) _ _ _ _ _ h⟩
          | literalWithIndexing =>
              exact .inr fun canResize => ⟨rfl, fun item r b' => hfield _ true _ _ _ _ _⟩
          | literalWithoutIndexing =>
              exact .inr fun canResize => ⟨rfl, fun item r b' => hfield _ false _ _ _ _ _⟩
          | literalNeverIndexed =>
              exact .inr fun canResize => ⟨rfl, fun item r b' => hfield _ false _ _ _ _ _⟩
          | sizeUpdate => exact .inl rfl

/-! ## A literal that is cut off -/

theorem checked_underflow {r : Except DecoderError α} {x b b' : Bytes} {n : NeedMore} :
    (checked r) x b ≠ .error (.underflow n) b' := by
  cases r with
  | ok a => exact nofun
  | error e => exact nofun

/-- A string that is cut off has handed nothing to the Huffman decoder. -/
theorem stringHands_underflow {x b b' : Bytes} {n : NeedMore}
    (h : string x b = .error (.underflow n) b') : (stringHands x).1 = [] := by
  have hframed := blind_framed x b
  unfold stringHands
  unfold string at h
  cases hres : framed x [] with
  | error e b1 => rfl
  | ok sr b1 =>
      obtain ⟨⟨coded, raw⟩, r⟩ := sr
      rw [hres] at hframed
      rw [bind_ok hframed] at h
      cases coded with
      | false => cases h
      | true =>
          rw [text_huffman, huffman] at h
          split at h
          · cases h
          · cases h

/-- A Huffman-coded string that is accepted: it is read behind what is in the buffer, also in
front of more octets, and leaves an empty buffer. -/
theorem stringHands_text {x r b b' name : Bytes} (h : string x b = .ok (name, r) b')
    (hne : (stringHands x).1 ≠ []) :
    ∃ text, ∀ y b, string (x ++ y) b = .ok (b ++ text, r ++ y) [] := by
  have hframed := blind_framed x b
  unfold stringHands at hne
  unfold string at h
  cases hres : framed x [] with
  | error e b1 =>
      rw [hres] at hne
      exact absurd rfl hne
  | ok sr b1 =>
      obtain ⟨⟨coded, raw⟩, r1⟩ := sr
      rw [hres] at hne hframed
      cases coded with
      | false => exact absurd rfl hne
      | true =>
          rw [bind_ok hframed, text_huffman, huffman] at h
          have hdec := Huffman.decode_append raw b
          cases hnil : Huffman.decode raw [] with
          | mk res left =>
              rw [hnil] at hdec
              cases res with
              | error f =>
                  rw [hdec] at h
                  cases h
              | ok text =>
                  rw [hdec] at h
                  cases h
                  refine ⟨text, fun y b2 => ?_⟩
                  have hmore := local_framed.extend (blind_framed.ok hres b2) y
                  have hdec2 := Huffman.decode_append raw b2
                  rw [hnil] at hdec2
                  rw [string, bind_ok hmore, text_huffman, huffman, hdec2]

/-- A literal that is cut off behind a Huffman-coded name: the buffer is empty then, and read
again with more octets the literal has a name that starts with what is in the buffer. -/
theorem literal_cut {t : DecoderTable S} {prefixSize : Nat} {first : UInt8} {x b b' : Bytes}
    {n : NeedMore} (h : literal t prefixSize first x b = .error (.underflow n) b')
    (hne : literalHands t prefixSize first x ≠ []) :
    b' = [] ∧ ∃ text, ∀ y b e r b', literal t prefixSize first (x ++ y) b = .ok (e, r) b' →
      e.name.asSlice = b ++ text := by
  have hint := blind_intFrom prefixSize first x b
  unfold literalHands at hne
  rw [literal] at h
  cases hres : intFrom prefixSize first x [] with
  | error e b1 =>
      rw [hres] at hne
      exact absurd rfl hne
  | ok ir b1 =>
      obtain ⟨index, r⟩ := ir
      rw [hres] at hne hint
      rw [bind_ok hint] at h
      dsimp only at hne
      by_cases hzero : index = 0
      · subst hzero
        rw [if_pos rfl] at h hne
        cases hname : string r b with
        | error e b2 =>
            rw [bind_error hname] at h
            cases h
            have hnone := string_hands r b
            rw [hname] at hnone
            rw [stringHands_underflow hname, hnone.1] at hne
            exact absurd rfl hne
        | ok nr b2 =>
            obtain ⟨name, r2⟩ := nr
            have hsome := string_hands r b
            rw [hname] at hsome
            rw [bind_ok hname] at h
            cases hvalue : string r2 b2 with
            | ok vr b3 =>
                obtain ⟨value, r3⟩ := vr
                rw [bind_ok hvalue] at h
                exact absurd h checked_underflow
            | error e b3 =>
                rw [bind_error hvalue] at h
                cases h
                rw [hsome.1] at hne
                dsimp only at hne
                rw [stringHands_underflow hvalue, List.append_nil] at hne
                obtain ⟨text, htext⟩ := stringHands_text hname hne
                have hempty : b2 = [] := by
                  have hagain := htext [] b
                  rw [List.append_nil, List.append_nil, hname] at hagain
                  injection hagain
                have hleft := bufferOf_string_last (q := fun _ => (pure () : Scan Unit))
                  (fun _ => blind_pure ()) r2 b2
                rw [bind_error hvalue, stringHands_underflow hvalue] at hleft
                refine ⟨hleft.trans hempty, text, fun y b4 e r4 b5 hmore => ?_⟩
                rw [literal, bind_ok ((local_intFrom _ _).extend
                  ((blind_intFrom _ _).ok hres b4) y), if_pos rfl, bind_ok (htext y b4)] at hmore
                cases hvalue' : string (r2 ++ y) [] with
                | error e b6 =>
                    rw [bind_error hvalue'] at hmore
                    cases hmore
                | ok vr b6 =>
                    obtain ⟨value, r6⟩ := vr
                    rw [bind_ok hvalue'] at hmore
                    cases hnew : Header.new S (b4 ++ text) value with
                    | error e =>
                        rw [hnew] at hmore
                        cases hmore
                    | ok h =>
                        rw [hnew] at hmore
                        cases hmore
                        exact Header.new_name hnew
      · rw [if_neg hzero] at h hne
        cases hget : t.get index with
        | error f =>
            rw [hget] at hne
            exact absurd rfl hne
        | ok e =>
            rw [hget] at h hne
            have hlookup : (lookup (.ok e) : Scan (Named S)) r b = .ok (e, r) b := rfl
            rw [bind_ok hlookup] at h
            cases hvalue : string r b with
            | ok vr b3 =>
                obtain ⟨value, r3⟩ := vr
                rw [bind_ok hvalue] at h
                exact absurd h checked_underflow
            | error e b3 =>
                rw [bind_error hvalue] at h
                cases h
                exact absurd (stringHands_underflow hvalue) hne

/-- The same for a representation. -/
theorem item_cut {d : Decoder S} {canResize : Bool} {x b b' : Bytes} {n : NeedMore}
    (h : item d canResize x b = .error (.underflow n) b') (hne : itemHands d.table x ≠ []) :
    b' = [] ∧ ∃ text, ∀ canResize y b i r b', item d canResize (x ++ y) b = .ok (i, r) b' →
      ∃ e inserted, i = .field e inserted ∧ e.name.asSlice = b ++ text := by
  cases x with
  | nil => exact absurd rfl hne
  | cons ty x =>
      have hoctet : ∀ x b, octet .unexpectedEndOfStream (ty :: x) b = .ok (ty, x) b :=
        fun _ _ => rfl
      rw [itemHands] at hne
      simp only [item, List.cons_append, bind_ok (hoctet _ _)] at h ⊢
      have hliteral : ∀ (prefixSize : Nat) (inserted : Bool),
          (literal d.table prefixSize ty >>= fun e => pure (Item.field e inserted)) x b =
            .error (.underflow n) b' → literalHands d.table prefixSize ty x ≠ [] →
          b' = [] ∧ ∃ text, ∀ y b i r b', (literal d.table prefixSize ty >>= fun e =>
            pure (Item.field e inserted)) (x ++ y) b = .ok (i, r) b' →
            ∃ e inserted, i = .field e inserted ∧ e.name.asSlice = b ++ text := by
        intro prefixSize inserted herr hhands
        cases hlit : literal d.table prefixSize ty x b with
        | ok er b1 =>
            rw [bind_ok hlit] at herr
            cases herr
        | error e b1 =>
            rw [bind_error hlit] at herr
            cases herr
            obtain ⟨hempty, text, htext⟩ := literal_cut hlit hhands
            refine ⟨hempty, text, fun y b2 i r b3 hok => ?_⟩
            cases hlit' : literal d.table prefixSize ty (x ++ y) b2 with
            | error e b4 =>
                rw [bind_error hlit'] at hok
                cases hok
            | ok er b4 =>
                obtain ⟨e, r4⟩ := er
                rw [bind_ok hlit'] at hok
                cases hok
                exact ⟨e, inserted, rfl, htext _ _ _ _ _ hlit'⟩
      cases hload : Representation.load ty with
      | error e =>
          rw [hload] at hne
          exact absurd rfl hne
      | ok rep =>
          have hrep : ∀ x b, (checked (.ok rep) : Scan Representation) x b = .ok (rep, x) b :=
            fun _ _ => rfl
          rw [hload] at hne h
          simp only [bind_ok (hrep _ _)] at h ⊢
          cases rep with
          | indexed => exact absurd rfl hne
          | sizeUpdate => exact absurd rfl hne
          | literalWithIndexing =>
              obtain ⟨hempty, text, htext⟩ := hliteral 6 true h hne
              exact ⟨hempty, text, fun _ => htext⟩
          | literalWithoutIndexing =>
              obtain ⟨hempty, text, htext⟩ := hliteral 4 false h hne
              exact ⟨hempty, text, fun _ => htext⟩
          | literalNeverIndexed =>
              obtain ⟨hempty, text, htext⟩ := hliteral 4 false h hne
              exact ⟨hempty, text, fun _ => htext⟩

/-- The buffer behind strings that are accepted. -/
def emptied (b : Bytes) : List Bytes → Bytes
  | [] => b
  | _ :: _ => []

theorem emptied_of_ne {raws : List Bytes} (b : Bytes) (h : raws ≠ []) : emptied b raws = [] := by
  cases raws with
  | nil => exact absurd rfl h
  | cons raw raws => rfl

theorem emptied_append (b : Bytes) (raws raws' : List Bytes) :
    emptied b (raws ++ raws') = emptied (emptied b raws) raws' := by
  cases raws with
  | nil => rfl
  | cons raw raws =>
      cases raws' with
      | nil => rfl
      | cons raw' raws' => rfl

theorem emptied_eq_nil (b : Bytes) (raws : List Bytes) :
    emptied b raws = [] ↔ b = [] ∨ raws ≠ [] := by
  cases raws with
  | nil => exact ⟨Or.inl, fun h => h.resolve_right fun hne => hne rfl⟩
  | cons raw raws => exact ⟨fun _ => .inr (List.cons_ne_nil _ _), fun _ => rfl⟩

/-- A representation that is cut off leaves the buffer alone, or empties it. -/
theorem item_left {d : Decoder S} {canResize : Bool} {x b b' : Bytes} {n : NeedMore}
    (h : item d canResize x b = .error (.underflow n) b') :
    b' = emptied b (itemHands d.table x) := by
  have hbuffer := bufferOf_item d canResize x b
  rw [h] at hbuffer
  have hbuffer : b' = scratch b (itemHands d.table x) := hbuffer
  by_cases hhands : itemHands d.table x = []
  · rw [hbuffer, hhands]
    rfl
  · rw [emptied_of_ne b hhands]
    exact (item_cut h hhands).1

end Scan

/-! ## Where a block is cut -/

/-- Reading has come to the end, or into a representation that is cut off. -/
def CutOff (d : Decoder S) (canResize : Bool) (x : Bytes) : Prop :=
  x = [] ∨ ∃ n b, Scan.item d canResize x d.buffer = .error (.underflow n) b

section Cuts

variable {d d' d'' : Decoder S} {canResize canResize' canResize'' : Bool} {x x' b b' : Bytes}
  {items items' : List (Item S)} {n : NeedMore}

theorem CutOff.ended (h : CutOff d canResize x) : Ended d canResize x := by
  rcases h with rfl | ⟨n, b, hscan⟩
  · exact ended_nil d canResize
  · exact ended_of_stop hscan

/-- A block that is read to its end stops behind each of its pieces, and goes on with the next
one. -/
theorem Reads.cut (h : Reads d canResize x items d'' canResize'' []) : ∀ p q, x = p ++ q →
    ∃ items1 items2 d1 canResize1 left, items = items1 ++ items2 ∧
      Reads d canResize p items1 d1 canResize1 left ∧ CutOff d1 canResize1 left ∧
      Reads d1 canResize1 (left ++ q) items2 d'' canResize'' [] := by
  generalize hend : ([] : Bytes) = x' at h
  induction h with
  | done d canResize x =>
      rintro p q rfl
      obtain ⟨rfl, rfl⟩ := List.append_eq_nil_iff.mp hend.symm
      exact ⟨[], [], d, canResize, [], rfl, .done _ _ _, .inl rfl, .done _ _ _⟩
  | @item d d' canResize canResize' x r b x' item t items hscan happly hrest ih =>
      rintro p q rfl
      cases hp : Scan.item d canResize p d.buffer with
      | error e b1 =>
          cases e with
          | underflow n =>
              exact ⟨[], item :: items, d, canResize, p, rfl, .done _ _ _, .inr ⟨n, b1, hp⟩,
                .item hscan happly (hend ▸ hrest)⟩
          | fault f =>
              rw [(Scan.local_item d canResize).fault hp q] at hscan
              cases hscan
      | ok ir b1 =>
          obtain ⟨item', r'⟩ := ir
          have hmore := (Scan.local_item d canResize).extend hp q
          rw [hscan] at hmore
          cases hmore
          obtain ⟨items1, items2, d1, canResize1, left, rfl, hreads, hcut, hgo⟩ :=
            ih hend r' q rfl
          exact ⟨item :: items1, items2, d1, canResize1, left, rfl, .item hp happly hreads,
            hcut, hend ▸ hgo⟩

/-- A call of `decode` allows a size update again. -/
theorem underflow_resizable (h : Scan.item d canResize x b = .error (.underflow n) b') :
    Scan.item d true x b = .error (.underflow n) b' := by
  cases canResize with
  | true => exact h
  | false =>
      rcases Scan.item_resizable d x b with hfault | hsame
      · rw [hfault] at h
        cases h
      · rw [(hsame true).1, h]

theorem CutOff.resizable (h : CutOff d canResize x) : CutOff d true x := by
  rcases h with hnil | ⟨n, b, hscan⟩
  · exact .inl hnil
  · exact .inr ⟨n, b, underflow_resizable hscan⟩

theorem Reads.resizable (h : Reads d canResize x items d' canResize' x')
    (hcut : CutOff d' canResize' x') :
    ∃ canResize'', Reads d true x items d' canResize'' x' ∧ CutOff d' canResize'' x' := by
  cases canResize with
  | true => exact ⟨canResize', h, hcut⟩
  | false =>
      cases h with
      | done => exact ⟨true, .done _ _ _, hcut.resizable⟩
      | item hscan happly hrest =>
          rcases Scan.item_resizable d x d.buffer with hfault | hsame
          · rw [hfault] at hscan
            cases hscan
          · have hresize := (hsame true).2 _ _ _ hscan
            rw [Bool.false_and] at hrest
            refine ⟨canResize', .item ((hsame true).1.trans hscan) happly ?_, hcut⟩
            rw [hresize, Bool.and_false]
            exact hrest

theorem items_of_reads (h : Reads d.takeSizeUpdate true x items d' canResize' x')
    (hend : Ended d' canResize' x') : d.items x = items := by
  obtain ⟨d1, canResize1, x1, hreads, hends⟩ := decode_reads d x
  exact (h.unique hend hreads hends.ended).1

/-- `decode` asks for more if the input is cut off, and leaves the octets of the representation
that is cut off. -/
theorem decode_of_cut (h : Reads d.takeSizeUpdate true x items d' canResize' x') (hne : x' ≠ [])
    (hscan : Scan.item d' canResize' x' d'.buffer = .error (.underflow n) b) :
    ∃ c : Cursor, c.bytes = x' ∧ d.decode ⟨x, 0⟩ =
      .error (.err (.needMore n)) ⟨{ d' with buffer := b }, c, items.flatMap Item.headers⟩ := by
  obtain ⟨d1, canResize1, x1, hreads, hends⟩ := decode_reads d x
  obtain ⟨hitems, rfl, rfl, rfl⟩ := h.unique (ended_of_stop hscan) hreads hends.ended
  rw [hitems] at hends
  generalize d.decode ⟨x, 0⟩ = res at hends
  cases hends with
  | finished => exact absurd rfl hne
  | stopped _ hscan' hbytes =>
      rw [hscan] at hscan'
      cases hscan'
      exact ⟨_, hbytes n rfl, rfl⟩
  | broken hscan' _ =>
      rw [hscan] at hscan'
      cases hscan'

end Cuts

/-! ## The buffer at a cut -/

namespace Scan

/-- A string that is accepted leaves the buffer alone, or empties it. -/
theorem string_left {x r b b' text : Bytes} (h : string x b = .ok (text, r) b') :
    b' = emptied b (stringHands x).1 := by
  by_cases hhands : (stringHands x).1 = []
  · have hstring := string_hands x b
    rw [h, hhands] at hstring
    rw [hhands, hstring.2]
    rfl
  · obtain ⟨coded, hcoded⟩ := stringHands_text h hhands
    have hagain := hcoded [] b
    rw [List.append_nil, List.append_nil, h] at hagain
    rw [emptied_of_ne b hhands]
    injection hagain

theorem literal_left {t : DecoderTable S} {prefixSize : Nat} {first : UInt8} {x r b b' : Bytes}
    {e : Named S} (h : literal t prefixSize first x b = .ok (e, r) b') :
    b' = emptied b (literalHands t prefixSize first x) := by
  have hint := blind_intFrom prefixSize first x b
  unfold literalHands
  rw [literal] at h
  have hlast : ∀ {q : Bytes → Scan (Named S)} {r0 b0 : Bytes}, (∀ s, Blind (q s)) →
      (string >>= q) r0 b0 = .ok (e, r) b' →
      b' = emptied b0 (stringHands r0).1 := by
    intro q r0 b0 hq hbind
    cases hstring : string r0 b0 with
    | error e b1 =>
        rw [bind_error hstring] at hbind
        cases hbind
    | ok sr b1 =>
        obtain ⟨s, r1⟩ := sr
        rw [bind_ok hstring] at hbind
        have hbuffer := (hq s).bufferOf r1 b1
        rw [hbind] at hbuffer
        rw [← string_left hstring]
        exact hbuffer
  cases hres : intFrom prefixSize first x [] with
  | error e b1 =>
      rw [hres] at hint
      rw [bind_error hint] at h
      cases h
  | ok ir b1 =>
      obtain ⟨index, r1⟩ := ir
      rw [hres] at hint
      rw [bind_ok hint] at h
      dsimp only
      by_cases hzero : index = 0
      · subst hzero
        rw [if_pos rfl] at h ⊢
        cases hname : string r1 b with
        | error e b2 =>
            rw [bind_error hname] at h
            cases h
        | ok nr b2 =>
            obtain ⟨name, r2⟩ := nr
            have hsome := string_hands r1 b
            rw [hname] at hsome
            rw [bind_ok hname] at h
            rw [hsome.1, emptied_append, ← string_left hname]
            exact hlast (fun value => blind_checked _) h
      · rw [if_neg hzero] at h ⊢
        cases hget : t.get index with
        | error f =>
            rw [hget] at h
            cases h
        | ok e =>
            rw [hget] at h
            have hlookup : (lookup (.ok e) : Scan (Named S)) r1 b = .ok (e, r1) b := rfl
            rw [bind_ok hlookup] at h
            exact hlast (fun value => blind_checked _) h

theorem item_read {d : Decoder S} {canResize : Bool} {x r b b' : Bytes} {i : Item S}
    (h : item d canResize x b = .ok (i, r) b') :
    b' = emptied b (itemHands d.table x) := by
  have hbuffer := bufferOf_item d canResize x b
  rw [h] at hbuffer
  have hbuffer : b' = scratch b (itemHands d.table x) := hbuffer
  by_cases hhands : itemHands d.table x = []
  · rw [hbuffer, hhands]
    rfl
  · rw [emptied_of_ne b hhands]
    cases x with
    | nil => exact absurd rfl hhands
    | cons ty x =>
        have hoctet : octet .unexpectedEndOfStream (ty :: x) b = .ok (ty, x) b := rfl
        have hliteral : ∀ (prefixSize : Nat) (inserted : Bool),
            (literal d.table prefixSize ty >>= fun e => pure (Item.field e inserted)) x b =
              .ok (i, r) b' → literalHands d.table prefixSize ty x ≠ [] → b' = [] := by
          intro prefixSize inserted hok hne
          cases hlit : literal d.table prefixSize ty x b with
          | error e b1 =>
              rw [bind_error hlit] at hok
              cases hok
          | ok er b1 =>
              rw [bind_ok hlit] at hok
              cases hok
              exact (literal_left hlit).trans (emptied_of_ne b hne)
        rw [itemHands] at hhands
        rw [item, bind_ok hoctet] at h
        cases hload : Representation.load ty with
        | error e =>
            rw [hload] at hhands
            exact absurd rfl hhands
        | ok rep =>
            have hrep : (checked (.ok rep) : Scan Representation) x b = .ok (rep, x) b := rfl
            rw [hload] at h hhands
            rw [bind_ok hrep] at h
            cases rep with
            | indexed => exact absurd rfl hhands
            | sizeUpdate => exact absurd rfl hhands
            | literalWithIndexing => exact hliteral 6 true h hhands
            | literalWithoutIndexing => exact hliteral 4 false h hhands
            | literalNeverIndexed => exact hliteral 4 false h hhands

end Scan

open Scan

/-- The Huffman-coded strings in the complete representations of some octets, and those in the
representation behind them. -/
def readHands : Nat → Decoder S → Bool → Bytes → List Bytes × List Bytes
  | 0, _, _, _ => ([], [])
  | fuel + 1, d, canResize, x =>
      match Scan.item d canResize x d.buffer with
      | .ok (item, r) b =>
          match item.apply d.table with
          | .ok t =>
              let hands := readHands fuel { d with table := t, buffer := b }
                (canResize && item.isResize) r
              (itemHands d.table x ++ hands.1, hands.2)
          | .error _ => ([], itemHands d.table x)
      | .error _ _ => ([], itemHands d.table x)

/-- The same for the octets that `decode` is given. -/
def Decoder.hands (d : Decoder S) (x : Bytes) : List Bytes × List Bytes :=
  readHands (x.length + 1) d.takeSizeUpdate true x

theorem readHands_spec (fuel : Nat) : ∀ (d : Decoder S) (canResize : Bool) (x : Bytes),
    x.length < fuel → ∃ d' canResize' x',
      Reads d canResize x (readItems fuel d canResize x) d' canResize' x' ∧
      Ended d' canResize' x' ∧
      (d'.buffer = [] ↔ d.buffer = [] ∨ (readHands fuel d canResize x).1 ≠ []) ∧
      (readHands fuel d canResize x).2 = itemHands d'.table x' := by
  induction fuel with
  | zero => exact fun _ _ _ h => absurd h (Nat.not_lt_zero _)
  | succ fuel ih =>
      intro d canResize x hfuel
      rw [readItems, readHands]
      cases hscan : Scan.item d canResize x d.buffer with
      | error e b =>
          exact ⟨d, canResize, x, .done _ _ _, ended_of_stop hscan, emptied_eq_nil _ [], rfl⟩
      | ok ir b =>
          obtain ⟨item, r⟩ := ir
          dsimp only
          cases happly : item.apply d.table with
          | error p =>
              refine ⟨d, canResize, x, .done _ _ _, fun item' r' b' t h => ?_,
                emptied_eq_nil _ [], rfl⟩
              rw [hscan] at h
              cases h
              rw [happly]
              intro heq
              cases heq
          | ok t =>
              have hshort := Scan.item_shorter hscan
              obtain ⟨d', canResize', x', hreads, hend, hbuffer, hhands⟩ := ih
                { d with table := t, buffer := b } (canResize && item.isResize) r (by omega)
              refine ⟨d', canResize', x', .item hscan happly hreads, hend, ?_, hhands⟩
              rw [hbuffer, ← emptied_eq_nil, ← emptied_eq_nil, emptied_append, item_read hscan]

/-! ## Pieces -/

namespace Decoder

/-- What is in the buffer survives a cut behind the octets `x`: nothing is in it when the
incomplete representation starts, or no Huffman-coded name of that is complete. -/
def Keeps (d : Decoder S) (x : Bytes) : Prop :=
  d.buffer = [] ∨ (d.hands x).1 ≠ [] ∨ (d.hands x).2 = []

/-- One call of `decode`: the complete representations are applied and their headers called
back; the octets behind them are left, which are none, or make an incomplete representation. -/
def Halts (d : Decoder S) (x : Bytes) (s : DecodeState S) : Prop :=
  ∃ done d' canResize, x = done ++ s.buf.bytes ∧
    Reads d.takeSizeUpdate true done (d.items x) d' canResize [] ∧
    s.calls = (d.items x).flatMap Item.headers ∧
    ((s.buf.bytes = [] ∧ d.decode ⟨x, 0⟩ = .ok () s) ∨
      ∃ n b, Scan.item d' canResize s.buf.bytes d'.buffer = .error (.underflow n) b ∧
        d.decode ⟨x, 0⟩ = .error (.err (.needMore n)) s)

/-- The pieces of a block, given to `decode` one after the other behind what the call before
has left: each call halts, and together they call back the headers and end with the table. -/
def Resumes : Decoder S → Bytes → List Bytes → List (Named S) → DecoderTable S → Prop
  | d, left, [], calls, t => left = [] ∧ calls = [] ∧ d.table = t
  | d, left, p :: pieces, calls, t => ∃ s later, d.Halts (left ++ p) s ∧ calls = s.calls ++ later ∧
      Resumes s.decoder s.buf.bytes pieces later t

end Decoder

section Pieces

variable {d d' d'' : Decoder S} {canResize canResize' canResize'' : Bool}
  {x x' done left : Bytes} {items rest : List (Item S)}

theorem keeps_iff (h : Reads d.takeSizeUpdate true x items d' canResize' x')
    (hcut : CutOff d' canResize' x') :
    d.Keeps x ↔ d'.buffer = [] ∨ itemHands d'.table x' = [] := by
  obtain ⟨d1, canResize1, x1, hreads, hend, hbuffer, hhands⟩ :=
    readHands_spec (x.length + 1) d.takeSizeUpdate true x (Nat.lt_succ_self _)
  obtain ⟨-, rfl, -, rfl⟩ := h.unique hcut.ended hreads hend
  rw [hbuffer, ← hhands, takeSizeUpdate_buffer, or_assoc]
  rfl

theorem Decoder.Halts.state {s : DecodeState S} (h : d.Halts x s) :
    s = stateOf (d.decode ⟨x, 0⟩) := by
  obtain ⟨_, _, _, -, -, -, ⟨-, hres⟩ | ⟨n, b, -, hres⟩⟩ := h
  · rw [hres]
    rfl
  · rw [hres]
    rfl

theorem takeSizeUpdate_taken (d : Decoder S) : d.takeSizeUpdate.maxSizeUpdate = none := by
  unfold Decoder.takeSizeUpdate
  split
  · rfl
  · next hnone => exact hnone

theorem takeSizeUpdate_of_none (h : d.maxSizeUpdate = none) : d.takeSizeUpdate = d := by
  unfold Decoder.takeSizeUpdate
  rw [h]

theorem Reads.finished (h : Reads d canResize x items d' canResize' [])
    (hcut : CutOff d canResize x) : x = [] ∧ d' = d := by
  cases h with
  | done => exact ⟨rfl, rfl⟩
  | item hscan _ _ =>
      rcases hcut with rfl | ⟨n, b, hcutscan⟩
      · cases hscan
      · rw [hcutscan] at hscan
        cases hscan

/-- A call of `decode` on a piece. -/
theorem halts_of_cut (h : Reads d.takeSizeUpdate true x items d' canResize' x')
    (hcut : CutOff d' canResize' x') :
    ∃ s, d.Halts x s ∧ s.buf.bytes = x' ∧ s.calls = items.flatMap Item.headers ∧
      s.decoder = { d' with buffer := emptied d'.buffer (itemHands d'.table x') } := by
  have hitems := items_of_reads h hcut.ended
  obtain ⟨done, rfl, hdone⟩ := h.append
  have hgood := hdone []
  rw [List.append_nil, ← hitems] at hgood
  by_cases hne : x' = []
  · subst hne
    exact ⟨_, ⟨done, d', canResize', rfl, hgood, by rw [hitems], .inl ⟨rfl, decode_of_reads h⟩⟩,
      rfl, rfl, rfl⟩
  · obtain ⟨n, b, hscan⟩ := hcut.resolve_left hne
    obtain ⟨c, rfl, hdec⟩ := decode_of_cut h hne hscan
    refine ⟨_, ⟨done, d', canResize', rfl, hgood, by rw [hitems], .inr ⟨n, b, hscan, hdec⟩⟩,
      rfl, rfl, ?_⟩
    rw [item_left hscan]

/-- Behind a cut at which the buffer was lost, the name of the next header is not the one that
it would have been. -/
theorem not_resumes {text : Bytes} (hbuffer : d.buffer = []) (hqueued : d.takeSizeUpdate = d)
    {h : Named S} {tail : List (Named S)} {t : DecoderTable S}
    (hname : h.name.asSlice ≠ text) : ∀ (pieces : List Bytes) (x : Bytes), x ≠ [] →
    (∀ canResize y b i r b', Scan.item d canResize (x ++ y) b = .ok (i, r) b' →
      ∃ e inserted, i = .field e inserted ∧ e.name.asSlice = b ++ text) →
    ¬d.Resumes x pieces (h :: tail) t := by
  intro pieces
  induction pieces with
  | nil => exact fun x hne _ hres => hne hres.1
  | cons p pieces ih =>
      rintro x hne hcut ⟨s, later, ⟨done, d', canResize, hx, hreads, hscalls, hends⟩, hcalls, hgo⟩
      rw [hqueued] at hreads
      generalize d.items (x ++ p) = items at hreads hscalls
      cases hreads with
      | done =>
          -- the representation is still not complete, and the buffer stays empty
          have hbytes : s.buf.bytes = x ++ p := hx.symm
          have hxp : x ++ p ≠ [] := fun hnil => hne (List.append_eq_nil_iff.mp hnil).1
          rcases hends with ⟨hnil, -⟩ | ⟨n, b, hscan, hdec⟩
          · exact hxp (hbytes.symm.trans hnil)
          rw [hbytes] at hscan hgo
          have hstart : Reads d.takeSizeUpdate true (x ++ p) [] d true (x ++ p) := by
            rw [hqueued]
            exact .done _ _ _
          obtain ⟨c, -, hdec'⟩ := decode_of_cut hstart hxp hscan
          rw [hdec] at hdec'
          injection hdec' with _ hs
          have hleft := item_left hscan
          have hempty : b = [] := hleft.trans ((emptied_eq_nil _ _).mpr (.inl hbuffer))
          have hsame : s.decoder = d := by
            rw [hs, hempty, ← hbuffer]
          rw [hscalls] at hcalls
          rw [hsame, ← show h :: tail = later from hcalls] at hgo
          refine ih (x ++ p) hxp (fun canResize y b i r b' hok => ?_) hgo
          rw [List.append_assoc] at hok
          exact hcut canResize (p ++ y) b i r b' hok
      | item hscan happly hrest =>
          have hmore := (Scan.local_item d true).extend hscan s.buf.bytes
          rw [← hx] at hmore
          obtain ⟨e, inserted, rfl, hename⟩ := hcut _ _ _ _ _ _ hmore
          rw [hscalls] at hcalls
          injection hcalls with he
          rw [he, hename, hbuffer] at hname
          exact hname rfl

/-- Pieces resume exactly if the buffer survives each cut. -/
theorem resumes_iff {d0 : Decoder S} : ∀ (pieces : List Bytes) {d : Decoder S} {canResize : Bool}
    {done left : Bytes} {items rest : List (Item S)},
    Reads d0.takeSizeUpdate true done items d.takeSizeUpdate canResize left →
    Reads d.takeSizeUpdate canResize (left ++ pieces.flatten) rest d'' canResize'' [] →
    (pieces = [] → left = [] ∧ d.table = d''.table) →
    (d.Resumes left pieces (rest.flatMap Item.headers) d''.table ↔
      ∀ pre post, pieces = pre ++ post → pre ≠ [] → d0.Keeps (done ++ pre.flatten)) := by
  intro pieces
  induction pieces with
  | nil =>
      intro d canResize done left items rest hdone hrest hend
      obtain ⟨rfl, htable⟩ := hend rfl
      have hnil : rest = [] := by
        rw [List.nil_append, List.flatten_nil] at hrest
        cases hrest with
        | done => rfl
        | item hscan => cases hscan
      subst hnil
      refine ⟨fun _ pre post hpre hne => ?_, fun _ => ⟨rfl, rfl, htable⟩⟩
      exact absurd (List.append_eq_nil_iff.mp hpre.symm).1 hne
  | cons p pieces ih =>
      intro d canResize done left items rest hdone hrest hend
      rw [List.flatten_cons, ← List.append_assoc] at hrest
      obtain ⟨items1, items2, d1, canResize1, left1, rfl, hreads, hcut, hgo⟩ :=
        hrest.cut _ _ rfl
      obtain ⟨canResize2, hreads2, hcut2⟩ := hreads.resizable hcut
      obtain ⟨s, hhalts, hbytes, hcalls, hdecoder⟩ := halts_of_cut hreads2 hcut2
      -- the same from the start of the block
      have hdone1 : Reads d0.takeSizeUpdate true (done ++ p) (items ++ items1) d1 canResize1
          left1 := by
        obtain ⟨u, rfl, hu⟩ := hdone.append
        rw [List.append_assoc]
        exact (hu (left ++ p)).trans hreads
      have hkeeps := keeps_iff hdone1 hcut
      have hnone : d1.maxSizeUpdate = none := hdone1.sizes.1.trans (takeSizeUpdate_taken d0)
      have hqueued := takeSizeUpdate_of_none hnone
      rw [List.flatMap_append, ← hcalls]
      have hhead : d.Resumes left (p :: pieces) (s.calls ++ items2.flatMap Item.headers) d''.table ↔
          s.decoder.Resumes left1 pieces (items2.flatMap Item.headers) d''.table := by
        constructor
        · rintro ⟨s', later, hhalts', hlater, hres⟩
          obtain rfl : s' = s := hhalts'.state.trans hhalts.state.symm
          rw [List.append_cancel_left hlater, ← hbytes]
          exact hres
        · intro hres
          exact ⟨s, _, hhalts, rfl, hbytes.symm ▸ hres⟩
      rw [hhead]
      by_cases hkeep : d0.Keeps (done ++ p)
      · have hsame : s.decoder = d1 := by
          rcases hkeeps.mp hkeep with hempty | hhands
          · rw [hdecoder, (emptied_eq_nil _ _).mpr (.inl hempty), ← hempty]
          · rw [hdecoder, hhands]
            rfl
        have hleft : pieces = [] → left1 = [] ∧ d1.table = d''.table := by
          rintro rfl
          rw [List.flatten_nil, List.append_nil] at hgo
          obtain ⟨hnil, hd⟩ := hgo.finished hcut
          exact ⟨hnil, by rw [hd]⟩
        have hnext := ih (d := d1) (hqueued.symm ▸ hdone1) (hqueued.symm ▸ hgo) hleft
        rw [hsame, hnext]
        constructor
        · intro hall pre post hpre hne
          cases pre with
          | nil => exact absurd rfl hne
          | cons p' pre =>
              injection hpre with hp hpre
              subst hp
              rw [List.flatten_cons, ← List.append_assoc]
              by_cases hpn : pre = []
              · rw [hpn, List.flatten_nil, List.append_nil]
                exact hkeep
              · exact hall pre post hpre hpn
        · intro hall pre post hpre hne
          have hp := hall (p :: pre) post (by rw [hpre]; rfl) (List.cons_ne_nil _ _)
          rwa [List.flatten_cons, ← List.append_assoc] at hp
      · have hlost := mt hkeeps.mpr hkeep
        rw [not_or] at hlost
        constructor
        · intro hres
          exfalso
          have hne : left1 ≠ [] := fun hnil => hlost.2 (by rw [hnil, itemHands])
          obtain ⟨n, b, hscan⟩ := hcut.resolve_left hne
          obtain ⟨-, text, htext⟩ := item_cut hscan hlost.2
          generalize hx : left1 ++ pieces.flatten = x at hgo
          cases hgo with
          | done => exact hne (List.append_eq_nil_iff.mp hx).1
          | item hscan' happly hrest' =>
              subst hx
              obtain ⟨e, inserted, rfl, hename⟩ := htext _ _ _ _ _ _ hscan'
              have hname : e.name.asSlice ≠ text := by
                rw [hename]
                exact fun hsame => hlost.1 (List.append_left_eq_self.mp hsame)
              rw [hdecoder] at hres
              exact not_resumes (d := { d1 with buffer := _ }) (emptied_of_ne _ hlost.2)
                (takeSizeUpdate_of_none hnone) hname pieces left1 hne htext hres
        · intro hall
          have hp := hall [p] pieces rfl (List.cons_ne_nil _ _)
          rw [List.flatten_cons, List.flatten_nil, List.append_nil] at hp
          exact absurd hp hkeep

end Pieces

section Whole

variable {d : Decoder S} {x : Bytes} {s : DecodeState S}

theorem halts_of_decode (h : d.decode ⟨x, 0⟩ = .ok () s) : d.Halts x s ∧ s.buf.bytes = [] := by
  obtain ⟨canResize, hreads, hs⟩ := reads_of_decode h
  have hbytes : s.buf.bytes = [] := congrArg (fun s => s.buf.bytes) hs
  refine ⟨⟨x, s.decoder, canResize, ?_, hreads, congrArg DecodeState.calls hs, .inl ⟨hbytes, h⟩⟩,
    hbytes⟩
  rw [hbytes, List.append_nil]

/-- A call that leaves nothing is successful. -/
theorem Decoder.Halts.ok (h : d.Halts x s) (hnil : s.buf.bytes = []) :
    d.decode ⟨x, 0⟩ = .ok () s := by
  obtain ⟨done, d', canResize, hx, hreads, -, ⟨-, hres⟩ | ⟨n, b, -, hres⟩⟩ := h
  · exact hres
  · rw [hnil, List.append_nil] at hx
    subst hx
    rw [decode_of_reads hreads] at hres
    cases hres

theorem keeps_nil (d : Decoder S) : d.Keeps [] := .inr (.inr rfl)

theorem keeps_whole (h : d.decode ⟨x, 0⟩ = .ok () s) : d.Keeps x := by
  obtain ⟨canResize, hreads, -⟩ := reads_of_decode h
  exact (keeps_iff hreads (.inl rfl)).mpr (.inr rfl)

/-- The pieces of a block. -/
theorem resumes_of_decode (h : d.decode ⟨x, 0⟩ = .ok () s) (pieces : List Bytes)
    (hx : pieces.flatten = x) :
    d.Resumes [] pieces s.calls s.decoder.table ↔
      ∀ pre post, pieces = pre ++ post → d.Keeps pre.flatten := by
  obtain ⟨canResize, hreads, hs⟩ := reads_of_decode h
  have hcalls : s.calls = (d.items x).flatMap Item.headers := congrArg DecodeState.calls hs
  subst hx
  have hend : pieces = [] → ([] : Bytes) = [] ∧ d.table = s.decoder.table := by
    rintro rfl
    obtain ⟨-, hd⟩ := hreads.finished (.inl rfl)
    refine ⟨rfl, ?_⟩
    rw [hd]
    unfold Decoder.takeSizeUpdate
    split
    · rfl
    · rfl
  rw [hcalls, resumes_iff pieces (.done d.takeSizeUpdate true []) hreads hend]
  constructor
  · intro hall pre post hpre
    by_cases hne : pre = []
    · rw [hne]
      exact keeps_nil d
    · exact hall pre post hpre hne
  · exact fun hall pre post hpre _ => hall pre post hpre

end Whole

/-- A block that `decode` accepts as a whole, cut somewhere: the first call halts, with some of
the headers.  The second call, with the octets that are left and the rest of the block, ends as
decoding at once does exactly if the buffer survives the cut; and for any number of pieces it is
the same. -/
theorem decode_resumes (d : Decoder S) (block : Bytes) {s : DecodeState S}
    (h : d.decode ⟨block, 0⟩ = .ok () s) :
    (∀ p q, block = p ++ q → ∃ s1 later, d.Halts p s1 ∧ s.calls = s1.calls ++ later) ∧
    (∀ p q, block = p ++ q →
      ((∃ s1 s2, d.Halts p s1 ∧ s1.decoder.decode ⟨s1.buf.bytes ++ q, 0⟩ = .ok () s2 ∧
        s.calls = s1.calls ++ s2.calls ∧ s2.decoder.table = s.decoder.table) ↔ d.Keeps p)) ∧
    ∀ pieces : List Bytes, pieces.flatten = block →
      (d.Resumes [] pieces s.calls s.decoder.table ↔
        ∀ pre post, pieces = pre ++ post → d.Keeps pre.flatten) := by
  refine ⟨?_, ?_, resumes_of_decode h⟩
  · rintro p q rfl
    obtain ⟨canResize, hreads, hs⟩ := reads_of_decode h
    obtain ⟨items1, items2, d1, canResize1, left, hitems, hfirst, hcut, -⟩ := hreads.cut p q rfl
    obtain ⟨s1, hhalts, -, hcalls, -⟩ := halts_of_cut hfirst hcut
    refine ⟨s1, items2.flatMap Item.headers, hhalts, ?_⟩
    rw [hcalls, ← List.flatMap_append, ← hitems]
    exact congrArg DecodeState.calls hs
  · rintro p q rfl
    have htwo := resumes_of_decode h [p, q] (by rw [List.flatten_cons, List.flatten_cons,
      List.flatten_nil, List.append_nil])
    have hsplit : (∀ pre post, [p, q] = pre ++ post → d.Keeps pre.flatten) ↔ d.Keeps p := by
      constructor
      · intro hall
        have hp := hall [p] [q] rfl
        rwa [List.flatten_cons, List.flatten_nil, List.append_nil] at hp
      · rintro hp pre post hpre
        match pre, hpre with
        | [], _ => exact keeps_nil d
        | [_], rfl =>
            rw [List.flatten_cons, List.flatten_nil, List.append_nil]
            exact hp
        | [_, _], rfl =>
            rw [List.flatten_cons, List.flatten_cons, List.flatten_nil, List.append_nil]
            exact keeps_whole h
    rw [← hsplit, ← htwo]
    constructor
    · rintro ⟨s1, s2, hfirst, hsecond, hcalls, htable⟩
      obtain ⟨hhalts, hnil⟩ := halts_of_decode hsecond
      exact ⟨s1, s2.calls, hfirst, hcalls, s2, [], hhalts, (List.append_nil _).symm, hnil, rfl,
        htable⟩
    · rintro ⟨s1, later, hfirst, hcalls, s2, later2, hsecond, hlater, hnil, rfl, htable⟩
      rw [List.append_nil] at hlater
      exact ⟨s1, s2, hfirst, hsecond.ok hnil, hlater ▸ hcalls, htable⟩

theorem eq_ok_of_outcome {res : EStateM.Result Fault (DecodeState S) Unit}
    (h : (outcome res).1 = .ok ()) : res = .ok () (stateOf res) := by
  cases res with
  | ok u s => rfl
  | error f s => cases h

/-- A decoder whose buffer still holds the `a` of a string that broke off. -/
def soiled : Decoder Link.asciiSyntax :=
  (stateOf ((Decoder.default Link.asciiSyntax).decode ⟨brokenOff, 0⟩)).decoder

/-- A field whose name is a Huffman-coded `b`, up to its value. -/
def namePiece : Bytes := [0x00, 0x81, 0x8f]

/-- The value of that field. -/
def valuePiece : Bytes := [0x01, 0x63]

theorem pieces_accepted : (outcome (soiled.decode ⟨namePiece ++ valuePiece, 0⟩)).1 = .ok () := by
  decide +kernel

theorem decode_resumes_soiled :
    (∀ p q, namePiece ++ valuePiece = p ++ q → ∃ s1 later, soiled.Halts p s1 ∧
      (stateOf (soiled.decode ⟨namePiece ++ valuePiece, 0⟩)).calls = s1.calls ++ later) ∧
    (∀ p q, namePiece ++ valuePiece = p ++ q →
      ((∃ s1 s2, soiled.Halts p s1 ∧
        s1.decoder.decode ⟨s1.buf.bytes ++ q, 0⟩ = .ok () s2 ∧
        (stateOf (soiled.decode ⟨namePiece ++ valuePiece, 0⟩)).calls = s1.calls ++ s2.calls ∧
        s2.decoder.table =
          (stateOf (soiled.decode ⟨namePiece ++ valuePiece, 0⟩)).decoder.table) ↔
        soiled.Keeps p)) ∧
    ∀ pieces : List Bytes, pieces.flatten = namePiece ++ valuePiece →
      (soiled.Resumes [] pieces (stateOf (soiled.decode ⟨namePiece ++ valuePiece, 0⟩)).calls
        (stateOf (soiled.decode ⟨namePiece ++ valuePiece, 0⟩)).decoder.table ↔
        ∀ pre post, pieces = pre ++ post → soiled.Keeps pre.flatten) :=
  decode_resumes soiled _ (eq_ok_of_outcome pieces_accepted)

/-- At once the field has the name `ab`, cut behind its name it has the name `b`. -/
theorem resumed_name_differs :
    let s := stateOf (soiled.decode ⟨namePiece ++ valuePiece, 0⟩)
    let s1 := stateOf (soiled.decode ⟨namePiece, 0⟩)
    let s2 := stateOf (s1.decoder.decode ⟨s1.buf.bytes ++ valuePiece, 0⟩)
    soiled.decode ⟨namePiece ++ valuePiece, 0⟩ = .ok () s ∧
    s.calls.map (fun h => h.name.asSlice) = [octets "ab"] ∧
    s1.calls.map (fun h => h.name.asSlice) = [] ∧ s1.buf.bytes = namePiece ∧
    s2.calls.map (fun h => h.name.asSlice) = [octets "b"] ∧
    ¬∃ s1 s2, soiled.Halts namePiece s1 ∧
      s1.decoder.decode ⟨s1.buf.bytes ++ valuePiece, 0⟩ = .ok () s2 ∧
      s.calls = s1.calls ++ s2.calls ∧ s2.decoder.table = s.decoder.table := by
  have hwhole : (stateOf (soiled.decode ⟨namePiece ++ valuePiece, 0⟩)).calls.map
      (fun h => h.name.asSlice) = [octets "ab"] := by decide +kernel
  have hfirst : (stateOf (soiled.decode ⟨namePiece, 0⟩)).calls.map (fun h => h.name.asSlice) =
      [] := by decide +kernel
  have hsecond : (stateOf ((stateOf (soiled.decode ⟨namePiece, 0⟩)).decoder.decode
      ⟨(stateOf (soiled.decode ⟨namePiece, 0⟩)).buf.bytes ++ valuePiece, 0⟩)).calls.map
      (fun h => h.name.asSlice) = [octets "b"] := by decide +kernel
  refine ⟨eq_ok_of_outcome pieces_accepted, hwhole, hfirst, by decide +kernel, hsecond, ?_⟩
  rintro ⟨s1, s2, hhalts, hok, hcalls, -⟩
  have hs1 := hhalts.state
  subst hs1
  have hs2 : s2 = stateOf _ := congrArg stateOf hok.symm
  rw [hs2] at hcalls
  have hnames := congrArg (List.map fun h => h.name.asSlice) hcalls
  rw [List.map_append, hwhole, hfirst, hsecond] at hnames
  exact absurd hnames (by decide)

end NtexH2.Hpack
