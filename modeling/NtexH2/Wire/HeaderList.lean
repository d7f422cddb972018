/-
  Wire/HeaderList.lean --- header lists that are loaded as they were written
  (src/frame/headers.rs, `HeaderBlock::load`).

  The pseudo-headers come first, each at most once, and then the fields.  A list of
  that form, without fields that belong to a connection and within the limits, is loaded
  without an error.
-/
import NtexH2.Wire.Headers
import NtexH2.Hpack.Agreement

set_option autoImplicit false

namespace NtexH2.Wire

open Hpack (HeaderName HeaderValue Header Named)

variable {S : HttpSyntax}

/-! ## The list that is encoded -/

/-- The pseudo-headers that are there. -/
def PseudoHeaders.list (pseudo : PseudoHeaders S) : List (Named S) :=
  pseudo.method.toList.map .method ++ pseudo.scheme.toList.map .scheme ++
    pseudo.authority.toList.map .authority ++ pseudo.path.toList.map .path ++
    pseudo.protocol.toList.map .protocol ++ pseudo.status.toList.map .status

/-- The fields as headers. -/
def HeaderMap.list (m : HeaderMap S) : List (Named S) := m.map fun f => .field f.1 f.2

/-- The header list of a HEADERS frame. -/
def headerList (pseudo : PseudoHeaders S) (fields : HeaderMap S) : List (Named S) :=
  pseudo.list ++ HeaderMap.list fields

/-- Values do not keep their sensitive mark on the wire. -/
def HeaderMap.unmarked (m : HeaderMap S) : HeaderMap S :=
  m.map fun f => (f.1, { f.2 with sensitive := false })

theorem resolveNames_append (l : List (Header S (Option (HeaderName S)))) (out : List (Named S))
    (h : l.map Header.reify = out.map .ok) : ∀ name,
    Hpack.resolveNames name l = some out := by
  induction l generalizing out with
  | nil =>
      intro name
      cases out with
      | nil => rfl
      | cons o out => cases h
  | cons header l ih =>
      intro name
      cases out with
      | nil => cases h
      | cons o out =>
          obtain ⟨hhead, htail⟩ := List.cons.inj h
          rw [Hpack.resolveNames, hhead]
          dsimp only
          rw [ih out htail]
          rfl

/-- All the headers have names. -/
theorem reify_headerIter (pseudo : PseudoHeaders S) (fields : HeaderMap S) :
    (headerIter pseudo fields).map Header.reify = (headerList pseudo fields).map .ok := by
  unfold headerIter headerList PseudoHeaders.list HeaderMap.list
  simp only [List.map_append, List.map_map]
  rfl

theorem resolveNames_headerIter (pseudo : PseudoHeaders S) (fields : HeaderMap S) :
    Hpack.resolveNames none (headerIter pseudo fields) = some (headerList pseudo fields) :=
  resolveNames_append _ _ (reify_headerIter pseudo fields) none

theorem PseudoHeaders.unmarked_list (pseudo : PseudoHeaders S) :
    pseudo.list.map Header.unmarked = pseudo.list := by
  unfold list
  simp only [List.map_append, List.map_map]
  rfl

theorem HeaderMap.unmarked_list (m : HeaderMap S) :
    (HeaderMap.list m).map Header.unmarked = HeaderMap.list m.unmarked := by
  unfold list unmarked
  rw [List.map_map, List.map_map]
  rfl

theorem headerList_unmarked (pseudo : PseudoHeaders S) (fields : HeaderMap S) :
    (headerList pseudo fields).map Header.unmarked = headerList pseudo fields.unmarked := by
  unfold headerList
  rw [List.map_append, pseudo.unmarked_list, HeaderMap.unmarked_list]

theorem HeaderMap.values_unmarked (m : HeaderMap S) (name : HeaderName S) :
    m.unmarked.values name = (m.values name).map fun v => { v with sensitive := false } := by
  unfold values unmarked
  rw [List.filter_map, List.map_map, List.map_map]
  rfl

/-! ## The order of the fields -/

/-- A field is counted among the values of its name. -/
theorem HeaderMap.count_values (m : HeaderMap S) (f : HeaderName S × HeaderValue S) :
    (m.values f.1).count f.2 = m.count f := by
  unfold values
  induction m with
  | nil => rfl
  | cons g m ih =>
      rw [List.filter_cons, List.count_cons, ← ih]
      by_cases hname : g.1 = f.1
      · have hbeq : (g == f) = (g.2 == f.2) := by
          rw [Bool.eq_iff_iff, beq_iff_eq, beq_iff_eq, Prod.ext_iff]
          exact and_iff_right hname
        rw [if_pos (beq_iff_eq.mpr hname), List.map_cons, List.count_cons, hbeq]
      · have hbeq : (g == f) = false := by
          rw [beq_eq_false_iff_ne]
          exact fun h => hname (congrArg Prod.fst h)
        rw [if_neg (fun h => hname (beq_iff_eq.mp h)), hbeq]
        rfl

/-- Iteration gives each field as often as it is in the map. -/
theorem MapOrder.iter_perm (order : MapOrder S) (m : HeaderMap S) : (order.iter m).Perm m := by
  refine List.perm_iff_count.mpr fun f => ?_
  rw [← HeaderMap.count_values, ← HeaderMap.count_values, order.values_iter]

/-! ## Loading -/

/-- The sizes of a list of headers. -/
def listSize (l : List (Named S)) : Nat := (l.map Header.len).sum

theorem listSize_append (l l' : List (Named S)) :
    listSize (l ++ l') = listSize l + listSize l' := by
  unfold listSize
  rw [List.map_append, List.sum_append]

/-- The size does not depend on the order of the fields, nor on the marks of their values. -/
theorem listSize_iter (order : MapOrder S) (pseudo : PseudoHeaders S) (fields : HeaderMap S) :
    listSize (headerList pseudo (order.iter fields).unmarked) =
      listSize (headerList pseudo fields) := by
  have hperm : ((order.iter fields).map fun f => Header.len (.field f.1 f.2 : Named S)).sum =
      (fields.map fun f => Header.len (.field f.1 f.2 : Named S)).sum :=
    ((order.iter_perm fields).map _).sum_eq
  unfold headerList HeaderMap.unmarked HeaderMap.list
  rw [listSize_append, listSize_append]
  unfold listSize
  rw [List.map_map, List.map_map, List.map_map]
  exact congrArg _ hperm

/-- A field that may be sent: it does not belong to a connection. -/
def Sendable (name : HeaderName S) (value : HeaderValue S) : Prop :=
  (Loading.connectionNames.any fun n => name.bytes == octets n) = false ∧
    (name.bytes == octets "te" &&
      value.bytes.map Loading.toLowercase != octets "trailers") = false

namespace Loading

variable {n m : Nat} {s : Loading S}

theorem setPseudo_listSize (s : Loading S) (x : Nat) (taken : Bool) (pseudo : PseudoHeaders S) :
    ({ s with listSize := x } : Loading S).setPseudo taken pseudo =
      { s.setPseudo taken pseudo with listSize := x } := by
  unfold setPseudo
  split
  · rfl
  · split
    · rfl
    · rfl

theorem field_listSize (n : Nat) (s : Loading S) (x : Nat) (name : HeaderName S)
    (value : HeaderValue S) :
    ({ s with listSize := x } : Loading S).field n name value =
      { s.field n name value with listSize := x } := by
  unfold field
  split
  · rfl
  · split
    · rfl
    · dsimp only
      split
      · rfl
      · rfl

/-- How a header is stored does not depend on the size so far. -/
theorem store_listSize (n : Nat) (s : Loading S) (x : Nat) (header : Named S) :
    ({ s with listSize := x } : Loading S).store n header =
      { s.store n header with listSize := x } := by
  cases header with
  | field name value => exact field_listSize n s x name value
  | _ => exact setPseudo_listSize s x _ _

theorem foldl_store_listSize (n x : Nat) (l : List (Named S)) : ∀ s : Loading S,
    l.foldl (store n) { s with listSize := x } = { l.foldl (store n) s with listSize := x } := by
  induction l with
  | nil => exact fun _ => rfl
  | cons header l ih =>
      intro s
      rw [List.foldl_cons, List.foldl_cons, store_listSize, ih]

theorem setPseudo_tooMany (s : Loading S) (taken : Bool) (pseudo : PseudoHeaders S) :
    (s.setPseudo taken pseudo).tooManyHeaders = s.tooManyHeaders := by
  unfold setPseudo
  split
  · rfl
  · split
    · rfl
    · rfl

theorem store_rejected (h : s.tooManyHeaders = true) (header : Named S) :
    (s.store n header).tooManyHeaders = true := by
  cases header with
  | field name value =>
      show (s.field n name value).tooManyHeaders = true
      unfold field
      split
      · exact h
      · split
        · exact h
        · dsimp only
          split
          · rfl
          · exact h
  | _ => exact (setPseudo_tooMany s _ _).trans h

theorem foldl_store_rejected (l : List (Named S)) : ∀ s : Loading S, s.tooManyHeaders = true →
    (l.foldl (store n) s).tooManyHeaders = true := by
  induction l with
  | nil => exact fun s h => h
  | cons header l ih => exact fun s h => ih _ (store_rejected h header)

/-- A list within the limit on its size is stored header by header. -/
theorem foldl_within (l : List (Named S)) : ∀ s : Loading S, s.listSize + Wire.listSize l ≤ m →
    (l.foldl (store n) s).tooManyHeaders = false →
    ∃ k, l.foldl (next n m) s = { l.foldl (store n) s with listSize := k } := by
  induction l with
  | nil => exact fun s _ _ => ⟨s.listSize, rfl⟩
  | cons header l ih =>
      intro s hsize hmany
      have hs : s.tooManyHeaders = false := by
        refine Bool.eq_false_iff.mpr fun h => ?_
        rw [foldl_store_rejected (header :: l) s h] at hmany
        cases hmany
      have hcons : Wire.listSize (header :: l) = header.len + Wire.listSize l := rfl
      have hle : min (s.listSize + header.len) (wordSize - 1) ≤ s.listSize + header.len :=
        Nat.min_le_left _ _
      have hnext : s.next n m header =
          { s.store n header with listSize := min (s.listSize + header.len) (wordSize - 1) } := by
        unfold next
        dsimp only
        rw [hs, decide_eq_false (by omega), if_neg (by decide), ← store_listSize]
        obtain ⟨pseudo, fields, reg, malformed, many, num, size⟩ := s
        cases hs
        rfl
      have hmany' : (l.foldl (store n) { s.store n header with
          listSize := min (s.listSize + header.len) (wordSize - 1) }).tooManyHeaders = false := by
        rw [foldl_store_listSize]
        exact hmany
      obtain ⟨k, hk⟩ := ih _ (by dsimp only; omega) hmany'
      rw [foldl_store_listSize] at hk
      rw [List.foldl_cons, hnext]
      exact ⟨k, hk⟩

/-- The pseudo-headers are stored. -/
theorem foldl_pseudo (n : Nat) (pseudo : PseudoHeaders S) :
    pseudo.list.foldl (store n) (start S) = { start S with pseudo := pseudo } := by
  obtain ⟨method, scheme, authority, path, protocol, status⟩ := pseudo
  cases method <;> cases scheme <;> cases authority <;> cases path <;> cases protocol <;>
    cases status <;> rfl

/-- The fields are stored, in their order. -/
theorem foldl_fields (fields : HeaderMap S) : ∀ s : Loading S,
    s.numFields + fields.length ≤ n → (∀ f ∈ fields, Sendable f.1 f.2) →
    ∃ reg num, (HeaderMap.list fields).foldl (store n) s =
      { s with fields := s.fields ++ fields, reg := reg, numFields := num } := by
  induction fields with
  | nil =>
      intro s _ _
      refine ⟨s.reg, s.numFields, ?_⟩
      rw [List.append_nil]
      rfl
  | cons f fields ih =>
      intro s hnum hsend
      obtain ⟨hf, hfields⟩ := List.forall_mem_cons.mp hsend
      rw [List.length_cons] at hnum
      have hstore : s.store n (.field f.1 f.2) =
          { s with fields := s.fields ++ [f], reg := true, numFields := s.numFields + 1 } := by
        show s.field n f.1 f.2 = _
        unfold field
        rw [hf.1, hf.2, if_neg Bool.false_ne_true, if_neg Bool.false_ne_true]
        dsimp only
        rw [if_neg (by omega)]
      obtain ⟨reg, num, hrest⟩ := ih (s.store n (.field f.1 f.2))
        (by rw [hstore]; dsimp only; omega) hfields
      refine ⟨reg, num, ?_⟩
      show (HeaderMap.list fields).foldl (store n) (s.store n (.field f.1 f.2)) = _
      rw [hrest, hstore]
      dsimp only
      rw [List.append_assoc, List.singleton_append]

/-- A list of pseudo-headers and fields that is within the limits is loaded. -/
theorem foldl_headerList {pseudo : PseudoHeaders S} {fields : HeaderMap S}
    (hn : fields.length ≤ n) (hm : Wire.listSize (headerList pseudo fields) ≤ m)
    (hsend : ∀ f ∈ fields, Sendable f.1 f.2) :
    ∃ reg num size, (headerList pseudo fields).foldl (next n m) (start S) =
      ⟨pseudo, fields, reg, false, false, num, size⟩ := by
  obtain ⟨reg, num, hfields⟩ := @foldl_fields _ n fields { start S with pseudo := pseudo }
    (by rw [show (start S).numFields = 0 from rfl, Nat.zero_add]; exact hn) hsend
  have hstore : (headerList pseudo fields).foldl (store n) (start S) =
      ⟨pseudo, fields, reg, false, false, num, 0⟩ := by
    unfold headerList
    rw [List.foldl_append, foldl_pseudo]
    exact hfields
  have hsize : (start S).listSize + Wire.listSize (headerList pseudo fields) ≤ m := by
    rw [show (start S).listSize = 0 from rfl, Nat.zero_add]
    exact hm
  obtain ⟨size, hk⟩ := @foldl_within _ n _ _ (start S) hsize (by rw [hstore])
  rw [hstore] at hk
  exact ⟨reg, num, size, hk⟩

theorem store_same (s : Loading S) (header : Named S) :
    (s.store n header).listSize = s.listSize := by
  have h := congrArg (fun t : Loading S => t.listSize) (store_listSize n s s.listSize header)
  exact h

/-- The sizes are added up, also behind a limit. -/
theorem foldl_listSize (l : List (Named S)) : ∀ s : Loading S, s.listSize < wordSize →
    (l.foldl (next n m) s).listSize = min (s.listSize + Wire.listSize l) (wordSize - 1) := by
  induction l with
  | nil =>
      intro s hs
      show s.listSize = min (s.listSize + 0) (wordSize - 1)
      omega
  | cons header l ih =>
      intro s hs
      have hcons : Wire.listSize (header :: l) = header.len + Wire.listSize l := rfl
      have hnext : (s.next n m header).listSize =
          min (s.listSize + header.len) (wordSize - 1) := by
        unfold next
        dsimp only
        split
        · rfl
        · exact store_same _ header
      have hpos : 0 < wordSize := by decide
      rw [List.foldl_cons, ih _ (by rw [hnext]; omega), hnext, hcons]
      omega

theorem setPseudo_malformed {taken : Bool} {pseudo : PseudoHeaders S}
    (h : s.malformed = true) : (s.setPseudo taken pseudo).malformed = true := by
  unfold setPseudo
  split
  · rfl
  · split
    · rfl
    · exact h

/-- A malformed list stays malformed. -/
theorem store_malformed (h : s.malformed = true) (header : Named S) :
    (s.store n header).malformed = true := by
  cases header with
  | field name value =>
      show (s.field n name value).malformed = true
      unfold field
      split
      · rfl
      · split
        · rfl
        · dsimp only
          split
          · exact h
          · exact h
  | _ => exact setPseudo_malformed h

theorem foldl_store_malformed (l : List (Named S)) : ∀ s : Loading S, s.malformed = true →
    (l.foldl (store n) s).malformed = true := by
  induction l with
  | nil => exact fun s h => h
  | cons header l ih => exact fun s h => ih _ (store_malformed h header)

/-- Once a list has too many headers, nothing changes any more but the size. -/
theorem next_rejected (hs : s.tooManyHeaders = true) (n m : Nat) (h : Named S) :
    (s.next n m h).tooManyHeaders = true ∧ (s.next n m h).malformed = s.malformed := by
  unfold next
  dsimp only
  rw [hs, Bool.true_or, if_pos rfl]
  exact ⟨rfl, rfl⟩

theorem foldl_rejected (n m : Nat) (calls : List (Named S)) : ∀ s : Loading S,
    s.tooManyHeaders = true → (calls.foldl (next n m) s).tooManyHeaders = true ∧
      (calls.foldl (next n m) s).malformed = s.malformed := by
  induction calls with
  | nil => exact fun s hs => ⟨hs, rfl⟩
  | cons h calls ih =>
      intro s hs
      obtain ⟨hmany, hmal⟩ := next_rejected hs n m h
      obtain ⟨hmany', hmal'⟩ := ih _ hmany
      exact ⟨hmany', hmal'.trans hmal⟩

/-- A list over the limit is rejected, and is not malformed for that. -/
theorem foldl_over (l : List (Named S)) : ∀ s : Loading S,
    (l.foldl (store n) s).malformed = false → s.listSize < wordSize → s.listSize ≤ m →
    m < min (s.listSize + Wire.listSize l) (wordSize - 1) →
    (l.foldl (next n m) s).tooManyHeaders = true ∧
      (l.foldl (next n m) s).malformed = false := by
  induction l with
  | nil =>
      intro s _ _ hle hlt
      have hnil : Wire.listSize ([] : List (Named S)) = 0 := rfl
      omega
  | cons header l ih =>
      intro s hmal hs hle hlt
      have hcons : Wire.listSize (header :: l) = header.len + Wire.listSize l := rfl
      have hgood : s.malformed = false := by
        refine Bool.eq_false_iff.mpr fun h => ?_
        rw [foldl_store_malformed (header :: l) s h] at hmal
        cases hmal
      rw [List.foldl_cons]
      by_cases hmany : s.tooManyHeaders = true
      · obtain ⟨h1, h2⟩ := next_rejected hmany n m header
        obtain ⟨h1', h2'⟩ := foldl_rejected n m l _ h1
        exact ⟨h1', h2'.trans (h2.trans hgood)⟩
      · have hfalse := Bool.eq_false_iff.mpr hmany
        by_cases hover : min (s.listSize + header.len) (wordSize - 1) > m
        · have hnext : (s.next n m header).tooManyHeaders = true ∧
              (s.next n m header).malformed = s.malformed := by
            unfold next
            dsimp only
            rw [hfalse, decide_eq_true hover, Bool.or_true, if_pos rfl]
            exact ⟨rfl, rfl⟩
          obtain ⟨h1', h2'⟩ := foldl_rejected n m l _ hnext.1
          exact ⟨h1', h2'.trans (hnext.2.trans hgood)⟩
        · have hnext : s.next n m header =
              { s.store n header with
                listSize := min (s.listSize + header.len) (wordSize - 1) } := by
            unfold next
            dsimp only
            rw [hfalse, decide_eq_false hover, Bool.or_false, if_neg Bool.false_ne_true,
              ← store_listSize]
            obtain ⟨pseudo, fields, reg, malformed, many, num, size⟩ := s
            cases hfalse
            rfl
          have hpos : 0 < wordSize := by decide
          rw [hnext]
          refine ih _ ?_ (by dsimp only; omega) (by dsimp only; omega) (by dsimp only; omega)
          rw [foldl_store_listSize]
          exact hmal

/-- A list of pseudo-headers and fields is rejected exactly if it is over the limit on its
size. -/
theorem headerList_rejected_iff {pseudo : PseudoHeaders S} {fields : HeaderMap S}
    (hn : fields.length ≤ n) (hm : m < wordSize - 1) (hsend : ∀ f ∈ fields, Sendable f.1 f.2) :
    ((headerList pseudo fields).foldl (next n m) (start S)).malformed = false ∧
      (((headerList pseudo fields).foldl (next n m) (start S)).tooManyHeaders = true ↔
        m < Wire.listSize (headerList pseudo fields)) := by
  by_cases hover : m < Wire.listSize (headerList pseudo fields)
  · obtain ⟨reg, num, hfields⟩ := @foldl_fields _ n fields { start S with pseudo := pseudo }
      (by rw [show (start S).numFields = 0 from rfl, Nat.zero_add]; exact hn) hsend
    have hstore : ((headerList pseudo fields).foldl (store n) (start S)).malformed = false := by
      unfold headerList
      rw [List.foldl_append, foldl_pseudo, hfields]
      rfl
    have hlimit : m < min ((start S).listSize + Wire.listSize (headerList pseudo fields))
        (wordSize - 1) := by
      rw [show (start S).listSize = 0 from rfl, Nat.zero_add]
      omega
    obtain ⟨hmany, hmal⟩ := @foldl_over _ n m _ (start S) hstore (show 0 < wordSize by decide)
      (Nat.zero_le _) hlimit
    exact ⟨hmal, iff_of_true hmany hover⟩
  · obtain ⟨reg, num, size, hfold⟩ := foldl_headerList hn (Nat.le_of_not_lt hover) hsend
    rw [hfold]
    exact ⟨rfl, iff_of_false Bool.false_ne_true hover⟩

/-! ## Lists that are not rejected -/

/-- A list that has too many headers at no point is stored header by header. -/
theorem foldl_kept (l : List (Named S)) : ∀ s : Loading S,
    (l.foldl (next n m) s).tooManyHeaders = false →
    ∃ k, l.foldl (next n m) s = { l.foldl (store n) s with listSize := k } := by
  induction l with
  | nil => exact fun s _ => ⟨s.listSize, rfl⟩
  | cons header l ih =>
      intro s hmany
      rw [List.foldl_cons] at hmany ⊢
      have hs' : (s.next n m header).tooManyHeaders = false := by
        refine Bool.eq_false_iff.mpr fun h => ?_
        rw [(foldl_rejected n m l _ h).1] at hmany
        cases hmany
      have hnext : ∃ x, s.next n m header = { s.store n header with listSize := x } := by
        refine ⟨min (s.listSize + header.len) (wordSize - 1), ?_⟩
        unfold next at hs' ⊢
        dsimp only at hs' ⊢
        split at hs'
        · next hover =>
            rw [hover] at hs'
            cases hs'
        · next hover =>
            have hfalse := Bool.eq_false_iff.mpr hover
            rw [if_neg hover, hfalse, ← store_listSize]
            obtain ⟨pseudo, fields, reg, malformed, many, num, size⟩ := s
            cases (Bool.or_eq_false_iff.mp hfalse).1
            rfl
      obtain ⟨x, hx⟩ := hnext
      rw [hx] at hmany ⊢
      obtain ⟨k, hk⟩ := ih _ hmany
      rw [foldl_store_listSize] at hk
      exact ⟨k, hk⟩

/-- Fields that are neither malformed nor too many are stored, in their order. -/
theorem foldl_stored (fields : HeaderMap S) : ∀ s : Loading S,
    ((HeaderMap.list fields).foldl (store n) s).malformed = false →
    ((HeaderMap.list fields).foldl (store n) s).tooManyHeaders = false →
    ((HeaderMap.list fields).foldl (store n) s).pseudo = s.pseudo ∧
      ((HeaderMap.list fields).foldl (store n) s).fields = s.fields ++ fields := by
  induction fields with
  | nil => exact fun s _ _ => ⟨rfl, (List.append_nil _).symm⟩
  | cons f fields ih =>
      intro s hmal hmany
      have hcons : (HeaderMap.list (f :: fields)).foldl (store n) s =
          (HeaderMap.list fields).foldl (store n) (s.field n f.1 f.2) := rfl
      rw [hcons] at hmal hmany ⊢
      have hgood : (s.field n f.1 f.2).malformed = false := by
        refine Bool.eq_false_iff.mpr fun h => ?_
        rw [foldl_store_malformed _ _ h] at hmal
        cases hmal
      have hfew : (s.field n f.1 f.2).tooManyHeaders = false := by
        refine Bool.eq_false_iff.mpr fun h => ?_
        rw [foldl_store_rejected _ _ h] at hmany
        cases hmany
      have hfield : (s.field n f.1 f.2).pseudo = s.pseudo ∧
          (s.field n f.1 f.2).fields = s.fields ++ [f] := by
        unfold field at hgood hfew ⊢
        dsimp only at hgood hfew ⊢
        split_ifs at hgood hfew ⊢
        exact ⟨rfl, rfl⟩
      obtain ⟨h1, h2⟩ := ih _ hmal hmany
      rw [hfield.1] at h1
      rw [hfield.2, List.append_assoc] at h2
      exact ⟨h1, h2⟩

/-- A list that is neither malformed nor too large is loaded as it is. -/
theorem foldl_loaded {pseudo : PseudoHeaders S} {fields : HeaderMap S}
    (hmal : ((headerList pseudo fields).foldl (next n m) (start S)).malformed = false)
    (hmany : ((headerList pseudo fields).foldl (next n m) (start S)).tooManyHeaders = false) :
    ((headerList pseudo fields).foldl (next n m) (start S)).pseudo = pseudo ∧
      ((headerList pseudo fields).foldl (next n m) (start S)).fields = fields := by
  obtain ⟨k, hk⟩ := foldl_kept (headerList pseudo fields) (start S) hmany
  have hsplit : (headerList pseudo fields).foldl (store n) (start S) =
      (HeaderMap.list fields).foldl (store n) { start S with pseudo := pseudo } := by
    unfold headerList
    rw [List.foldl_append, foldl_pseudo]
  rw [hk, hsplit] at hmal hmany ⊢
  exact foldl_stored fields { start S with pseudo := pseudo } hmal hmany

end Loading

end NtexH2.Wire
