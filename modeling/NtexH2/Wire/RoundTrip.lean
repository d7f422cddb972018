/-
  Wire/RoundTrip.lean --- frames read back from what is written (src/frame/).

  Every loader, given the head and the payload that `encode` writes, returns the frame
  again, as long as the numbers of the frame fit into their fields.
-/
import NtexH2.Wire.Frame

set_option autoImplicit false

namespace NtexH2

open Lib

/-! ## Heads -/

theorem Kind.new_byte (k : Kind) : Kind.new k.byte = k := by
  cases k <;> rfl

/-- An id is parsed from the field it was written to. -/
theorem StreamId.parse_write {id : StreamId} (h : id < 2 ^ 31) (rest : Bytes) :
    (StreamId.parse (BigEndian.write 4 id ++ rest)).1 = id := by
  have hlt : id < 256 ^ 4 := Nat.lt_trans h (by norm_num)
  unfold parse
  rw [List.take_left' (BigEndian.length_write 4 id), BigEndian.read_write_of_lt hlt]
  exact Nat.mod_eq_of_lt h

namespace Wire

theorem Head.length_encode (h : Head) (n : Nat) : (h.encode n).length = headerLen := by
  unfold encode
  rw [List.length_append, List.length_append, BigEndian.length_write, BigEndian.length_write]
  rfl

/-- A head with a stream id of 31 bits is read as it was written. -/
theorem Head.parse_encode {h : Head} (hid : h.streamId < 2 ^ 31) (n : Nat) (payload : Bytes) :
    Head.parse (h.encode n ++ payload) = h := by
  unfold parse
  have hkind : (h.encode n ++ payload).getD 3 0 = h.kind.byte := rfl
  have hflag : (h.encode n ++ payload).getD 4 0 = h.flag := rfl
  have hdrop : (h.encode n ++ payload).drop 5 = BigEndian.write 4 h.streamId ++ payload := rfl
  rw [hkind, hflag, hdrop, Kind.new_byte, StreamId.parse_write hid]

/-! ## DATA -/

/-- A pad length of zero strips nothing. -/
theorem Data.stripPadding_zero (payload : Bytes) : stripPadding (0 :: payload) = .ok payload := by
  have hlen : ¬(0 : UInt8).toNat ≥ (0 :: payload).length := by
    rw [List.length_cons]
    exact Nat.not_le.mpr (Nat.succ_pos _)
  unfold stripPadding
  dsimp only
  rw [if_neg hlen, List.length_cons]
  show Except.ok (payload.take payload.length) = _
  rw [List.take_length]

/-- The payload and the end of the stream come back, padded or not. -/
theorem Data.load_encode {d : Data} (hid : StreamId.isZero d.streamId = false) :
    ∃ len, Data.load d.encode.head d.encode.payload =
      .ok ⟨d.streamId, d.payload, d.flags &&& all, len⟩ := by
  have hhead : d.encode.head = d.head := by
    unfold encode
    split
    · rfl
    · rfl
  have hpadded : (d.flags &&& all &&& padded == padded) = d.isPadded := by
    rw [UInt8.and_assoc]
    rfl
  unfold load
  rw [hhead]
  show ∃ len, (if StreamId.isZero d.streamId = true then _
    else if (d.flags &&& all &&& padded == padded) = true then _ else _) = _
  rw [hid, hpadded, if_neg Bool.false_ne_true]
  unfold encode
  split
  · rw [stripPadding_zero]
    exact ⟨_, rfl⟩
  · exact ⟨_, rfl⟩

/-! ## SETTINGS -/

theorem Setting.length_encode (s : Setting) : s.encode.length = 6 := by
  unfold encode
  rw [List.length_append, BigEndian.length_write, BigEndian.length_write]

theorem Setting.length_encodeAll (l : List Setting) :
    (l.flatMap Setting.encode).length = 6 * l.length := by
  induction l with
  | nil => rfl
  | cons s l ih =>
      rw [List.flatMap_cons, List.length_append, length_encode, ih, List.length_cons]
      omega

namespace Setting

/-- A value that fits into its field and that the loader accepts. -/
structure Accepted (s : Setting) : Prop where
  fits : s.parts.2 < 2 ^ 32
  ok : ∀ settings, ∃ settings', s.apply settings = .ok settings'

/-- The settings with one of them set. -/
def set (settings : Settings) : Setting → Settings
  | .headerTableSize val => { settings with headerTableSize := some val }
  | .enablePush val => { settings with enablePush := some val }
  | .maxConcurrentStreams val => { settings with maxConcurrentStreams := some val }
  | .initialWindowSize val => { settings with initialWindowSize := some val }
  | .maxFrameSize val => { settings with maxFrameSize := some val }
  | .maxHeaderListSize val => { settings with maxHeaderListSize := some val }
  | .enableConnectProtocol val => { settings with enableConnectProtocol := some val }

theorem apply_eq_set {s : Setting} {settings settings' : Settings}
    (h : s.apply settings = .ok settings') : settings' = s.set settings := by
  cases s with
  | headerTableSize val => cases h; rfl
  | maxConcurrentStreams val => cases h; rfl
  | maxHeaderListSize val => cases h; rfl
  | initialWindowSize val =>
      unfold apply at h
      dsimp only at h
      split at h
      · cases h
      · cases h
        rfl
  | enablePush val | maxFrameSize val | enableConnectProtocol val =>
      unfold apply at h
      dsimp only at h
      split at h
      · cases h
        rfl
      · cases h

/-- A setting whose value fits in 32 bits is read as it was written. -/
theorem load_encode {s : Setting} (h : s.parts.2 < 2 ^ 32) : Setting.load s.encode = some s := by
  have hval : s.parts.2 < 256 ^ 4 := Nat.lt_of_lt_of_le h (by norm_num)
  have hid : BigEndian.read (s.encode.take 2) = s.parts.1 := by
    have hlt : s.parts.1 < 256 ^ 2 := by
      cases s <;> norm_num [parts]
    exact BigEndian.read_write_of_lt hlt
  have hparts : BigEndian.read ((s.encode.drop 2).take 4) = s.parts.2 :=
    BigEndian.read_write_of_lt hval
  unfold load
  rw [hid, hparts]
  cases s <;> rfl

theorem loadLoop_known {s : Setting} {a b c d e f : UInt8} (rest : Bytes) (settings : Settings)
    (h : Setting.load [a, b, c, d, e, f] = some s) :
    Settings.loadLoop (a :: b :: c :: d :: e :: f :: rest) settings =
      s.apply settings >>= Settings.loadLoop rest := by
  rw [Settings.loadLoop, h]

/-- One setting of the payload. -/
theorem loadLoop_cons {s : Setting} (h : s.Accepted) (rest : Bytes) (settings : Settings) :
    Settings.loadLoop (s.encode ++ rest) settings = Settings.loadLoop rest (s.set settings) := by
  obtain ⟨settings', happly⟩ := h.ok settings
  refine (loadLoop_known rest settings (load_encode h.fits)).trans ?_
  rw [happly, ← apply_eq_set happly]
  rfl

end Setting

namespace Settings

/-- A list of settings is read in its order, by induction on the list. -/
theorem loadLoop_encode (l : List Setting) (h : ∀ s ∈ l, s.Accepted) : ∀ settings,
    loadLoop (l.flatMap Setting.encode) settings = .ok (l.foldl Setting.set settings) := by
  induction l with
  | nil =>
      intro settings
      rfl
  | cons s l ih =>
      intro settings
      obtain ⟨hs, hl⟩ := List.forall_mem_cons.mp h
      rw [List.flatMap_cons, Setting.loadLoop_cons hs, ih hl, List.foldl_cons]

/-- The settings are made of those that are iterated. -/
theorem foldl_each (s : Settings) :
    (each s).foldl Setting.set { default with ack := s.ack } = s := by
  obtain ⟨ack, a, b, c, d, e, f, g⟩ := s
  cases a <;> cases b <;> cases c <;> cases d <;> cases e <;> cases f <;> cases g <;> rfl

/-- An acknowledgement has no settings. -/
theorem load_encode {s : Settings} (h : ∀ x ∈ each s, x.Accepted)
    (hack : s.ack = true → each s = []) :
    Settings.load (encode s).head (encode s).payload = .ok s := by
  have hid : ¬(!StreamId.isZero StreamId.con) = true := by decide
  have hfold := foldl_each s
  unfold load encode
  dsimp only
  rw [if_neg hid]
  cases hflag : s.ack with
  | true =>
      rw [hack hflag, hflag] at hfold
      rw [hack hflag, if_pos (by decide), if_neg (by decide)]
      exact congrArg Except.ok hfold
  | false =>
      rw [hflag] at hfold
      have hlen := Setting.length_encodeAll (each s)
      rw [if_neg (by decide), if_neg (by omega), loadLoop_encode _ h]
      exact congrArg Except.ok hfold

end Settings

/-! ## The other frames -/

/-- A PING is read as it was written. -/
theorem Ping.load_encode (p : Ping) : Ping.load p.encode.head p.encode.payload = .ok p := by
  obtain ⟨ack, payload, size⟩ := p
  have hload (flag : UInt8) :
      Ping.load ⟨.ping, flag, .con⟩ payload = .ok ⟨flag &&& 0x1 != 0, payload, size⟩ := by
    unfold load
    rw [if_neg (show ¬(!StreamId.isZero StreamId.con) = true by decide), dif_pos size]
  cases ack with
  | true => exact hload 0x1
  | false => exact hload 0

/-- So is a GOAWAY, with its debug data. -/
theorem GoAway.load_encode {g : GoAway} (hid : g.lastStreamId < 2 ^ 31)
    (hcode : g.errorCode.code < 2 ^ 32) : GoAway.load g.encode.payload = .ok g := by
  have hlt : g.errorCode.code < 256 ^ 4 := Nat.lt_of_lt_of_le hcode (by norm_num)
  have hlen : ¬g.encode.payload.length < 8 := by
    show ¬(BigEndian.write 4 g.lastStreamId ++ BigEndian.write 4 g.errorCode.code ++ g.data).length
      < 8
    rw [List.length_append, List.length_append, BigEndian.length_write, BigEndian.length_write]
    omega
  have hcodeField : (g.encode.payload.drop 4).take 4 = BigEndian.write 4 g.errorCode.code := rfl
  have hdata : g.encode.payload.drop 8 = g.data := rfl
  have hidField : (StreamId.parse g.encode.payload).1 = g.lastStreamId := by
    show (StreamId.parse (BigEndian.write 4 g.lastStreamId ++ _ ++ g.data)).1 = _
    rw [List.append_assoc, StreamId.parse_write hid]
  unfold load
  rw [if_neg hlen, hidField, hcodeField, hdata, BigEndian.read_write_of_lt hlt]

/-- So is a WINDOW_UPDATE. -/
theorem WindowUpdate.load_encode {w : WindowUpdate} (h : w.sizeIncrement < 2 ^ 31) :
    WindowUpdate.load w.encode.head w.encode.payload = .ok w := by
  have hlt : w.sizeIncrement < 256 ^ 4 := Nat.lt_trans h (by norm_num)
  have hlen : ¬w.encode.payload.length ≠ 4 := not_not_intro (BigEndian.length_write 4 _)
  unfold load
  rw [if_neg hlen]
  show Except.ok (WindowUpdate.mk w.streamId
    (BigEndian.read (BigEndian.write 4 w.sizeIncrement) % 2 ^ 31)) = _
  rw [BigEndian.read_write_of_lt hlt, Nat.mod_eq_of_lt h]

/-- So is a RST_STREAM. -/
theorem Reset.load_encode {r : Reset} (h : r.errorCode.code < 2 ^ 32) :
    Reset.load r.encode.head r.encode.payload = .ok r := by
  have hlt : r.errorCode.code < 256 ^ 4 := Nat.lt_of_lt_of_le h (by norm_num)
  have hlen : ¬r.encode.payload.length ≠ 4 := not_not_intro (BigEndian.length_write 4 _)
  unfold load
  rw [if_neg hlen]
  show Except.ok (Reset.mk r.streamId ⟨BigEndian.read (BigEndian.write 4 r.errorCode.code)⟩) = _
  rw [BigEndian.read_write_of_lt hlt]

/-! ## What is loaded -/

end Wire

end NtexH2
