/-
  Connection/LengthGrammar.lean --- which content-lengths are accepted (src/stream.rs).

  `parse_u64` reads decimal digits into a `u64` and gives up beyond nineteen octets.
  With nineteen digits no step of its loop leaves the `u64`, so that the loop computes the
  value of the digits.  The empty string has no digit that could be refused: it is
  read as zero.
-/
import NtexH2.Connection.StreamRef

set_option autoImplicit false

namespace NtexH2

/-! ## Digits -/

/-- `u8::is_ascii_digit`. -/
def isAsciiDigit (d : UInt8) : Bool := 48 ≤ d.toNat && d.toNat ≤ 57

/-- The value of a digit. -/
def digitValue (d : UInt8) : Nat := d.toNat - 48

/-- The value of a string of digits, the most significant one first. -/
def decimal (src : Bytes) : Nat := Nat.ofDigits 10 (src.reverse.map digitValue)

theorem decimal_concat (src : Bytes) (d : UInt8) :
    decimal (src ++ [d]) = decimal src * 10 + digitValue d := by
  rw [decimal, List.reverse_append, List.reverse_singleton, List.singleton_append, List.map_cons,
    Nat.ofDigits_cons, ← decimal, Nat.mul_comm, Nat.add_comm]

theorem digitValue_lt {d : UInt8} (h : isAsciiDigit d = true) : digitValue d < 10 := by
  simp only [isAsciiDigit, Bool.and_eq_true, decide_eq_true_eq] at h
  unfold digitValue
  omega

/-- A number of `n` digits is below `10 ^ n`. -/
theorem decimal_lt {src : Bytes} (h : ∀ d ∈ src, isAsciiDigit d = true) :
    decimal src < 10 ^ src.length := by
  have hdigits : ∀ x ∈ src.reverse.map digitValue, x < 10 := by
    intro x hx
    obtain ⟨d, hd, rfl⟩ := List.mem_map.mp hx
    exact digitValue_lt (h d (List.mem_reverse.mp hd))
  have hlt := Nat.ofDigits_lt_base_pow_length (by decide) hdigits
  rwa [List.length_map, List.length_reverse] at hlt

/-- Numbers of nineteen digits fit into a `u64`. -/
theorem decimal_lt_word (src : Bytes) (hlen : src.length ≤ 19)
    (h : ∀ d ∈ src, isAsciiDigit d = true) : decimal src < 2 ^ 64 :=
  calc decimal src < 10 ^ src.length := decimal_lt h
    _ ≤ 10 ^ 19 := Nat.pow_le_pow_right (by decide) hlen
    _ ≤ 2 ^ 64 := by decide

/-! ## The loop -/

/-- The loop of `parse_u64` in the arithmetic of `u64`. -/
def parseLoop : Bytes → UInt64 → Option UInt64
  | [], ret => some ret
  | d :: src, ret =>
      if isAsciiDigit d then parseLoop src (ret * 10 + (d - 48).toUInt64) else none

/-- `parse_u64` in the arithmetic of `u64`. -/
def parseU64Word (src : Bytes) : Option UInt64 :=
  if src.length > 19 then none else parseLoop src 0

/-- One round of the loop that stays within the `u64`. -/
theorem parseStep_toNat {ret : UInt64} {d : UInt8} (hd : isAsciiDigit d = true)
    (h : ret.toNat * 10 + digitValue d < 2 ^ 64) :
    (ret * 10 + (d - 48).toUInt64).toNat = ret.toNat * 10 + digitValue d := by
  simp only [isAsciiDigit, Bool.and_eq_true, decide_eq_true_eq] at hd
  have hle : (48 : UInt8) ≤ d := UInt8.le_iff_toNat_le.mpr hd.1
  have hsub : (d - 48).toUInt64.toNat = digitValue d := by
    rw [UInt8.toNat_toUInt64, UInt8.toNat_sub_of_le d 48 hle]
    rfl
  have hten : (10 : UInt64).toNat = 10 := rfl
  rw [UInt64.toNat_add, UInt64.toNat_mul, hsub, hten, Nat.mod_eq_of_lt (a := ret.toNat * 10)
    (by omega), Nat.mod_eq_of_lt h]

/-- After the digits `seen` the loop holds their value; it goes on to the value of all digits,
and ends at the first octet that is no digit. -/
theorem parseLoop_decimal (src : Bytes) : ∀ (seen : Bytes) (ret : UInt64),
    ret.toNat = decimal seen → (∀ d ∈ seen, isAsciiDigit d = true) →
    (seen ++ src).length ≤ 19 →
    (parseLoop src ret).map UInt64.toNat =
      if src.all isAsciiDigit then some (decimal (seen ++ src)) else none := by
  induction src with
  | nil =>
      intro seen ret hret _ _
      rw [parseLoop, List.all_nil, if_pos rfl, List.append_nil, ← hret]
      rfl
  | cons d src ih =>
      intro seen ret hret hseen hlen
      rw [parseLoop, List.all_cons]
      cases hd : isAsciiDigit d with
      | false =>
          rw [if_neg Bool.false_ne_true, Bool.false_and, if_neg Bool.false_ne_true]
          rfl
      | true =>
          have hseen' : ∀ x ∈ seen ++ [d], isAsciiDigit x = true := by
            intro x hx
            rcases List.mem_append.mp hx with hx | hx
            · exact hseen x hx
            · rw [List.mem_singleton.mp hx]
              exact hd
          have hlen' : (seen ++ [d] ++ src).length ≤ 19 := by
            rw [List.append_assoc]
            exact hlen
          have hlt := decimal_lt_word (seen ++ [d]) (by
            rw [List.length_append] at hlen'
            omega) hseen'
          rw [decimal_concat, ← hret] at hlt
          have hstep := parseStep_toNat hd hlt
          rw [hret, ← decimal_concat] at hstep
          rw [if_pos rfl, ih (seen ++ [d]) _ hstep hseen' hlen', List.append_assoc,
            List.singleton_append, Bool.true_and]

/-! ## The grammar -/

/-- No step of the loop leaves the `u64`, neither the multiplication nor the addition. -/
def NoOverflow (src : Bytes) : Prop :=
  ∀ seen d rest, src = seen ++ d :: rest →
    decimal seen * 10 < 2 ^ 64 ∧ decimal seen * 10 + digitValue d < 2 ^ 64

/-- `v` is the content-length that the octets spell. -/
structure SpellsLength (src : Bytes) (v : Nat) : Prop where
  nonempty : src ≠ []
  short : src.length ≤ 19
  digits : ∀ d ∈ src, isAsciiDigit d = true
  value : v = decimal src
  noOverflow : NoOverflow src

theorem noOverflow_of_digits {src : Bytes} (hlen : src.length ≤ 19)
    (h : ∀ d ∈ src, isAsciiDigit d = true) : NoOverflow src := by
  rintro seen d rest rfl
  have hlt : decimal (seen ++ [d]) < 2 ^ 64 := by
    refine decimal_lt_word _ ?_ fun x hx => h x ?_
    · simp only [List.length_append, List.length_cons, List.length_nil] at hlen ⊢
      omega
    · rw [← List.singleton_append, ← List.append_assoc]
      exact List.mem_append_left rest hx
  rw [decimal_concat] at hlt
  exact ⟨by omega, hlt⟩

/-- What the loop computes on any string. -/
theorem parseU64Word_decimal (src : Bytes) :
    (parseU64Word src).map UInt64.toNat =
      if src.length ≤ 19 ∧ src.all isAsciiDigit = true then some (decimal src) else none := by
  unfold parseU64Word
  by_cases hlen : src.length ≤ 19
  · rw [if_neg (by omega), parseLoop_decimal src [] 0 rfl (fun d hd => absurd hd List.not_mem_nil)
      hlen, List.nil_append]
    simp only [hlen, true_and]
  · rw [if_pos (by omega), if_neg fun h => hlen h.1]
    rfl

theorem parseU64Word_eq_some {src : Bytes} {v : UInt64} :
    parseU64Word src = some v ↔
      (src.length ≤ 19 ∧ ∀ d ∈ src, isAsciiDigit d = true) ∧ v.toNat = decimal src := by
  have hmap : parseU64Word src = some v ↔
      (parseU64Word src).map UInt64.toNat = some v.toNat := by
    cases parseU64Word src with
    | none => simp
    | some w => simp [UInt64.toNat_inj]
  rw [hmap, parseU64Word_decimal, ← List.all_eq_true]
  split
  · rename_i h
    rw [Option.some.injEq, eq_comm, and_iff_right h]
  · rename_i h
    constructor
    · intro hnone
      cases hnone
    · intro hand
      exact absurd hand.1 h

/-- The natural numbers of the model do not hide an overflow. -/
theorem parseU64_word (src : Bytes) : parseU64 src = (parseU64Word src).map UInt64.toNat := by
  have hloop : ∀ (src seen : Bytes), src.foldlM (fun ret d =>
      if 48 ≤ d.toNat ∧ d.toNat ≤ 57 then some (ret * 10 + (d.toNat - 48)) else none)
        (decimal seen) =
      if src.all isAsciiDigit then some (decimal (seen ++ src)) else none := by
    intro src
    induction src with
    | nil =>
        intro seen
        rw [List.all_nil, if_pos rfl, List.append_nil]
        rfl
    | cons d src ih =>
        intro seen
        rw [List.foldlM_cons, List.all_cons]
        by_cases hd : isAsciiDigit d = true
        · have hnext := ih (seen ++ [d])
          rw [decimal_concat, List.append_assoc, List.singleton_append] at hnext
          have hrange := hd
          simp only [isAsciiDigit, Bool.and_eq_true, decide_eq_true_eq] at hrange
          rw [if_pos hrange, hd, Bool.true_and]
          exact hnext
        · have hrange : ¬(48 ≤ d.toNat ∧ d.toNat ≤ 57) := by
            simpa only [isAsciiDigit, Bool.and_eq_true, decide_eq_true_eq] using hd
          rw [if_neg hrange, Bool.eq_false_of_not_eq_true hd, Bool.false_and,
            if_neg Bool.false_ne_true]
          rfl
  rw [parseU64Word_decimal, parseU64]
  by_cases hlen : src.length ≤ 19
  · have hrun := hloop src []
    rw [List.nil_append] at hrun
    rw [if_neg (by omega)]
    simp only [hlen, true_and]
    exact hrun
  · rw [if_pos (by omega), if_neg fun h => hlen h.1]

/-- `parse_u64` accepts the strings of one to nineteen digits, with their value, and no step
overflows; the only string on which it does not keep to this is the empty one. -/
theorem parseU64_grammar_iff (src : Bytes) :
    (∀ v : UInt64, parseU64Word src = some v ↔ SpellsLength src v.toNat) ↔ src ≠ [] := by
  constructor
  · rintro h rfl
    exact ((h 0).mp rfl).nonempty rfl
  · intro hne v
    rw [parseU64Word_eq_some]
    constructor
    · rintro ⟨⟨hlen, hdigits⟩, hv⟩
      exact ⟨hne, hlen, hdigits, hv, noOverflow_of_digits hlen hdigits⟩
    · intro h
      exact ⟨⟨h.short, h.digits⟩, h.value⟩

/-- The empty string is read as zero. -/
theorem empty_length_accepted :
    ¬∀ (src : Bytes) (v : UInt64), parseU64Word src = some v ↔ SpellsLength src v.toNat :=
  fun h => ((h [] 0).mp rfl).nonempty rfl

namespace Connection

theorem announcedLength_absent {cl : ContentLength} {h : Headers} (hcl : cl ≠ .head)
    (hget : HeaderMap.get h.fields (octets "content-length") = none) :
    announcedLength cl h = .ok cl := by
  rw [announcedLength, if_neg hcl, hget]

theorem announcedLength_invalid {cl : ContentLength} {h : Headers} {value : Bytes}
    (hcl : cl ≠ .head) (hget : HeaderMap.get h.fields (octets "content-length") = some value)
    (hparse : parseU64 value = none) : announcedLength cl h = .error .invalidContentLength := by
  simp only [announcedLength, if_neg hcl, hget, hparse]

theorem announcedLength_number {cl : ContentLength} {h : Headers} {value : Bytes} {v : Nat}
    (hcl : cl ≠ .head) (hget : HeaderMap.get h.fields (octets "content-length") = some value)
    (hparse : parseU64 value = some v) : announcedLength cl h =
      if h.endStream && v != 0 && h.pseudo.status != some 304 then .error .wrongPayloadLength
      else .ok (.remaining v) := by
  simp only [announcedLength, if_neg hcl, hget, hparse]

end Connection

end NtexH2
