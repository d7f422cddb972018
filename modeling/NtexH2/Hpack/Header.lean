/-
  Hpack/Header.lean --- header fields as HPACK sees them (src/hpack/header.rs).

  `HeaderName`, `HeaderValue`, `Method` and `ByteString` are types of other
  crates (ntex_http, ntex_bytes).  A value of such a type is an octet string
  that the type's parser accepts, and its printed form is that octet string.
  Which octet strings a parser accepts is a parameter, `HttpSyntax`; the model
  relies on nothing but its fields.

  An `HttpSyntax` says that the constants this crate names are accepted, and
  that a header name is neither empty nor starts with a colon: header names are
  RFC 9110 tokens.
-/
import NtexH2.Base

set_option autoImplicit false

namespace NtexH2

/-- The `header::*` constants of the static table, in the order of their HPACK
index, starting with index 15. -/
def standardNames : List String :=
  ["accept-charset", "accept-encoding", "accept-language", "accept-ranges", "accept",
   "access-control-allow-origin", "age", "allow", "authorization", "cache-control",
   "content-disposition", "content-encoding", "content-language", "content-length",
   "content-location", "content-range", "content-type", "cookie", "date", "etag",
   "expect", "expires", "from", "host", "if-match", "if-modified-since",
   "if-none-match", "if-range", "if-unmodified-since", "last-modified", "link",
   "location", "max-forwards", "proxy-authenticate", "proxy-authorization", "range",
   "referer", "refresh", "retry-after", "server", "set-cookie",
   "strict-transport-security", "transfer-encoding", "user-agent", "vary", "via",
   "www-authenticate"]

/-- The octet strings the parsers of ntex_http and ntex_bytes accept. -/
structure HttpSyntax where
  /-- `HeaderName::from_lowercase` -/
  headerName : Bytes → Bool
  /-- `HeaderValue::from_shared` -/
  headerValue : Bytes → Bool
  /-- `Method::from_bytes` -/
  method : Bytes → Bool
  /-- `ByteString::try_from`, valid UTF-8 -/
  byteString : Bytes → Bool
  standard_ok : ∀ s ∈ standardNames, headerName (octets s) = true
  headerName_ne_nil : ∀ b, headerName b = true → b ≠ []
  headerName_ne_colon : ∀ b, headerName b = true → b.head? ≠ some 58
  value_ok : ∀ s ∈ ["", "gzip, deflate"], headerValue (octets s) = true
  method_ok : ∀ s ∈ ["GET", "POST", "HEAD", "CONNECT"], method (octets s) = true
  string_ok : ∀ s ∈ ["", "/", "/index.html", "http", "https"], byteString (octets s) = true

namespace Hpack

/-- `ntex_http::HeaderName`. -/
structure HeaderName (S : HttpSyntax) where
  bytes : Bytes
  ok : S.headerName bytes = true
  deriving DecidableEq

/-- `ntex_http::HeaderValue`: octets and the sensitive mark. -/
structure HeaderValue (S : HttpSyntax) where
  bytes : Bytes
  sensitive : Bool
  ok : S.headerValue bytes = true
  deriving DecidableEq

/-- `ntex_http::Method`. -/
structure Method (S : HttpSyntax) where
  bytes : Bytes
  ok : S.method bytes = true
  deriving DecidableEq

/-- `ntex_bytes::ByteString`. -/
structure ByteString (S : HttpSyntax) where
  bytes : Bytes
  ok : S.byteString bytes = true
  deriving DecidableEq

/-- `ntex_http::StatusCode`: a number of three digits. -/
structure StatusCode where
  code : Nat
  ge : 100 ≤ code
  lt : code < 1000
  deriving DecidableEq

/-- `StatusCode::as_str`. -/
def StatusCode.asStr (s : StatusCode) : Bytes :=
  [(48 + s.code / 100).toUInt8, (48 + s.code / 10 % 10).toUInt8, (48 + s.code % 10).toUInt8]

/-- `StatusCode::from_bytes`: exactly three digits, the first one not zero. -/
def StatusCode.fromBytes : Bytes → Option StatusCode
  | [a, b, c] =>
      if h : 49 ≤ a.toNat ∧ a.toNat ≤ 57 ∧ 48 ≤ b.toNat ∧ b.toNat ≤ 57 ∧
          48 ≤ c.toNat ∧ c.toNat ≤ 57 then
        some ⟨(a.toNat - 48) * 100 + (b.toNat - 48) * 10 + (c.toNat - 48), by omega, by omega⟩
      else none
  | _ => none

/-- Reading back the printed status gives the status. -/
theorem StatusCode.fromBytes_asStr (s : StatusCode) : fromBytes s.asStr = some s := by
  obtain ⟨code, hge, hlt⟩ := s
  have ha : (48 + code / 100).toUInt8.toNat = 48 + code / 100 := by
    rw [Nat.toUInt8, UInt8.toNat_ofNat']; omega
  have hb : (48 + code / 10 % 10).toUInt8.toNat = 48 + code / 10 % 10 := by
    rw [Nat.toUInt8, UInt8.toNat_ofNat']; omega
  have hc : (48 + code % 10).toUInt8.toNat = 48 + code % 10 := by
    rw [Nat.toUInt8, UInt8.toNat_ofNat']; omega
  simp only [asStr, fromBytes, ha, hb, hc]
  rw [dif_pos (by omega)]
  simp only [Option.some.injEq, StatusCode.mk.injEq]
  omega

/-- `Header<T>`; `N` is the type of a field's name. -/
inductive Header (S : HttpSyntax) (N : Type) where
  | field (name : N) (value : HeaderValue S)
  | authority (v : ByteString S)
  | method (v : Method S)
  | scheme (v : ByteString S)
  | path (v : ByteString S)
  | protocol (v : ByteString S)
  | status (v : StatusCode)
  deriving DecidableEq

/-- `Name`. -/
inductive Name (S : HttpSyntax) where
  | field (name : HeaderName S)
  | authority
  | method
  | scheme
  | path
  | protocol
  | status
  deriving DecidableEq

/-- A header with a complete name. -/
abbrev Named (S : HttpSyntax) := Header S (HeaderName S)

variable {S : HttpSyntax}

namespace Header

/-- `Header::reify`: a repeated name is reported with its value. -/
def reify : Header S (Option (HeaderName S)) → Except (HeaderValue S) (Named S)
  | .field (some n) value => .ok (.field n value)
  | .field none value => .error value
  | .authority v => .ok (.authority v)
  | .method v => .ok (.method v)
  | .scheme v => .ok (.scheme v)
  | .path v => .ok (.path v)
  | .protocol v => .ok (.protocol v)
  | .status v => .ok (.status v)

/-- `Header::detach` drops a larger source buffer; the octets stay the same. -/
def detach (h : Named S) : Named S := h

/-- `Header::len`. -/
def len : Named S → Nat
  | .field name value => 32 + name.bytes.length + value.bytes.length
  | .authority v => 32 + 10 + v.bytes.length
  | .method v => 32 + 7 + v.bytes.length
  | .scheme v => 32 + 7 + v.bytes.length
  | .path v => 32 + 5 + v.bytes.length
  | .protocol v => 32 + 9 + v.bytes.length
  | .status _ => 32 + 7 + 3

/-- `Header::name`. -/
def name : Named S → Name S
  | .field name _ => .field name
  | .authority _ => .authority
  | .method _ => .method
  | .scheme _ => .scheme
  | .path _ => .path
  | .protocol _ => .protocol
  | .status _ => .status

/-- `Header::value_slice`. -/
def valueSlice : Named S → Bytes
  | .field _ value => value.bytes
  | .authority v => v.bytes
  | .scheme v => v.bytes
  | .path v => v.bytes
  | .protocol v => v.bytes
  | .method v => v.bytes
  | .status v => v.asStr

/-- `Header::value_eq`; equality of header values ignores the sensitive mark. -/
def valueEq : Named S → Named S → Bool
  | .field _ a, .field _ b => a.bytes == b.bytes
  | .authority a, .authority b => a.bytes == b.bytes
  | .scheme a, .scheme b => a.bytes == b.bytes
  | .path a, .path b => a.bytes == b.bytes
  | .protocol a, .protocol b => a.bytes == b.bytes
  | .method a, .method b => a.bytes == b.bytes
  | _, _ => false

/-- `Header::is_sensitive`. -/
def isSensitive : Named S → Bool
  | .field _ value => value.sensitive
  | _ => false

/-- The field names of `Header::skip_value_index`. -/
def skipNames : List String :=
  ["age", "authorization", "content-length", "etag", "if-modified-since",
   "if-none-match", "location", "cookie", "set-cookie"]

/-- `Header::skip_value_index`. -/
def skipValueIndex : Named S → Bool
  | .field name _ => skipNames.any fun s => name.bytes == octets s
  | .path _ => true
  | _ => false

theorem len_ge (h : Named S) : 32 ≤ h.len := by
  cases h <;> simp only [len] <;> omega

/-- The header without its sensitive mark. -/
def unmarked : Named S → Named S
  | .field name value => .field name { value with sensitive := false }
  | h => h

/-- Equal names and equal values leave only the sensitive mark open. -/
theorem unmarked_eq_of_valueEq {a b : Named S} (hname : a.name = b.name)
    (hval : a.valueEq b = true) : a.unmarked = b.unmarked := by
  cases a <;> cases b <;> simp_all [name, valueEq, unmarked]
  all_goals
    rename_i v w
    cases v
    cases w
    simp_all

end Header

/-! ## Parsing of decoded names and values -/

/-- `NeedMore`. -/
inductive NeedMore where
  | unexpectedEndOfStream
  | integerUnderflow
  | stringUnderflow
  deriving DecidableEq, Repr

/-- `DecoderError`. -/
inductive DecoderError where
  | invalidRepresentation
  | invalidIntegerPrefix
  | invalidTableIndex
  | invalidHuffmanCode
  | invalidUtf8
  | invalidStatusCode
  | invalidPseudoheader
  | invalidMaxDynamicSize
  | integerOverflow
  | needMore (n : NeedMore)
  deriving DecidableEq, Repr

/-- `HeaderName::from_lowercase`, with the crate's error conversion. -/
def HeaderName.fromLowercase (S : HttpSyntax) (b : Bytes) : Except DecoderError (HeaderName S) :=
  if h : S.headerName b = true then .ok ⟨b, h⟩ else .error .invalidUtf8

/-- `HeaderValue::from_shared`; a parsed value is not marked sensitive. -/
def HeaderValue.fromShared (S : HttpSyntax) (b : Bytes) : Except DecoderError (HeaderValue S) :=
  if h : S.headerValue b = true then .ok ⟨b, false, h⟩ else .error .invalidUtf8

/-- `Method::from_bytes`. -/
def Method.fromBytes (S : HttpSyntax) (b : Bytes) : Except DecoderError (Method S) :=
  if h : S.method b = true then .ok ⟨b, h⟩ else .error .invalidUtf8

/-- `ByteString::try_from`. -/
def ByteString.tryFrom (S : HttpSyntax) (b : Bytes) : Except DecoderError (ByteString S) :=
  if h : S.byteString b = true then .ok ⟨b, h⟩ else .error .invalidUtf8

/-- `StatusCode::from_bytes`, with the error the caller reports. -/
def StatusCode.parse (e : DecoderError) (b : Bytes) : Except DecoderError StatusCode :=
  match StatusCode.fromBytes b with
  | some s => .ok s
  | none => .error e

/-- `Header::new`. -/
def Header.new (S : HttpSyntax) (name value : Bytes) : Except DecoderError (Named S) :=
  match name with
  | [] => .error (.needMore .unexpectedEndOfStream)
  | c :: rest =>
      if c = 58 then
        if rest = octets "authority" then (ByteString.tryFrom S value).map .authority
        else if rest = octets "method" then (Method.fromBytes S value).map .method
        else if rest = octets "scheme" then (ByteString.tryFrom S value).map .scheme
        else if rest = octets "path" then (ByteString.tryFrom S value).map .path
        else if rest = octets "protocol" then (ByteString.tryFrom S value).map .protocol
        else if rest = octets "status" then (StatusCode.parse .invalidUtf8 value).map .status
        else .error .invalidPseudoheader
      else do
        let n ← HeaderName.fromLowercase S (c :: rest)
        let v ← HeaderValue.fromShared S value
        return .field n v

/-- `Name::into_entry`. -/
def Name.intoEntry (n : Name S) (value : Bytes) : Except DecoderError (Named S) :=
  match n with
  | .field name => (HeaderValue.fromShared S value).map (.field name)
  | .authority => (ByteString.tryFrom S value).map .authority
  | .method => (Method.fromBytes S value).map .method
  | .scheme => (ByteString.tryFrom S value).map .scheme
  | .path => (ByteString.tryFrom S value).map .path
  | .protocol => (ByteString.tryFrom S value).map .protocol
  | .status => (StatusCode.parse .invalidStatusCode value).map .status

/-- `Name::as_slice`. -/
def Name.asSlice : Name S → Bytes
  | .field name => name.bytes
  | .authority => octets ":authority"
  | .method => octets ":method"
  | .scheme => octets ":scheme"
  | .path => octets ":path"
  | .protocol => octets ":protocol"
  | .status => octets ":status"

/-- A header is read back from its printed name and value. -/
theorem Header.new_asSlice (h : Named S) :
    Header.new S h.name.asSlice h.valueSlice = .ok h.unmarked := by
  cases h with
  | field name value =>
      obtain ⟨bytes, hname⟩ := name
      obtain ⟨c, rest, rfl⟩ : ∃ c rest, bytes = c :: rest := by
        cases bytes with
        | nil => exact absurd rfl (S.headerName_ne_nil _ hname)
        | cons c rest => exact ⟨c, rest, rfl⟩
      have hc : c ≠ 58 := by
        intro hc
        exact S.headerName_ne_colon _ hname (by simp [hc])
      simp [Header.new, Header.name, Name.asSlice, Header.valueSlice, hc,
        HeaderName.fromLowercase, HeaderValue.fromShared, hname, value.ok, Header.unmarked]
      rfl
  | authority v => simp [Header.new, Header.name, Name.asSlice, Header.valueSlice,
      show octets ":authority" = 58 :: octets "authority" by decide,
      ByteString.tryFrom, v.ok, Header.unmarked, Except.map]
  | method v => simp [Header.new, Header.name, Name.asSlice, Header.valueSlice,
      show octets ":method" = 58 :: octets "method" by decide,
      show octets "method" ≠ octets "authority" by decide,
      Method.fromBytes, v.ok, Header.unmarked, Except.map]
  | scheme v => simp [Header.new, Header.name, Name.asSlice, Header.valueSlice,
      show octets ":scheme" = 58 :: octets "scheme" by decide,
      show octets "scheme" ≠ octets "authority" by decide,
      show octets "scheme" ≠ octets "method" by decide,
      ByteString.tryFrom, v.ok, Header.unmarked, Except.map]
  | path v => simp [Header.new, Header.name, Name.asSlice, Header.valueSlice,
      show octets ":path" = 58 :: octets "path" by decide,
      show octets "path" ≠ octets "authority" by decide,
      show octets "path" ≠ octets "method" by decide,
      show octets "path" ≠ octets "scheme" by decide,
      ByteString.tryFrom, v.ok, Header.unmarked, Except.map]
  | protocol v => simp [Header.new, Header.name, Name.asSlice, Header.valueSlice,
      show octets ":protocol" = 58 :: octets "protocol" by decide,
      show octets "protocol" ≠ octets "authority" by decide,
      show octets "protocol" ≠ octets "method" by decide,
      show octets "protocol" ≠ octets "scheme" by decide,
      show octets "protocol" ≠ octets "path" by decide,
      ByteString.tryFrom, v.ok, Header.unmarked, Except.map]
  | status v => simp [Header.new, Header.name, Name.asSlice, Header.valueSlice,
      show octets ":status" = 58 :: octets "status" by decide,
      show octets "status" ≠ octets "authority" by decide,
      show octets "status" ≠ octets "method" by decide,
      show octets "status" ≠ octets "scheme" by decide,
      show octets "status" ≠ octets "path" by decide,
      show octets "status" ≠ octets "protocol" by decide,
      StatusCode.parse, StatusCode.fromBytes_asStr, Header.unmarked, Except.map]

/-- A value read under the name of a header gives the header back. -/
theorem Name.intoEntry_valueSlice (h : Named S) :
    h.name.intoEntry h.valueSlice = .ok h.unmarked := by
  cases h with
  | field name value =>
      simp [Header.name, Name.intoEntry, Header.valueSlice, HeaderValue.fromShared,
        value.ok, Header.unmarked, Except.map]
  | status v =>
      simp [Header.name, Name.intoEntry, Header.valueSlice, StatusCode.parse,
        StatusCode.fromBytes_asStr, Header.unmarked, Except.map]
  | method v =>
      simp [Header.name, Name.intoEntry, Header.valueSlice, Method.fromBytes, v.ok,
        Header.unmarked, Except.map]
  | authority v | scheme v | path v | protocol v =>
      simp [Header.name, Name.intoEntry, Header.valueSlice, ByteString.tryFrom, v.ok,
        Header.unmarked, Except.map]

end Hpack

end NtexH2
