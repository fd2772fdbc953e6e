import Modbus.Crc

/-!
# Modbus — frames

The envelopes of `modbus.c`: the request header `build_query_packet` writes,
the response header `build_response_packet` writes, the MBAP length
`set_packet_length_tcp` fixes, what `modbus_send` puts on the wire, and the
response length `compute_response_size` predicts from a request.

The two TCP builders keep their own `static uint16_t t_id`, incremented before
use and wrapping through 0; in the model the counter is passed in and the new
value returned. Both builders leave `packet[4..5]` for `set_packet_length_tcp`,
which `modbus_send` always calls before the frame leaves; the model writes 0
there.

## Results

* `checkCrc16_modbusSend` — every frame `modbus_send` transmits passes
  `check_crc16`.
* `checkCrc16_modbusSend_burst` — in RTU, every other frame of the same length
  that differs from it only in two adjacent bytes fails `check_crc16`.
* `checkCrc16_modbusSend_burst16` — so does every frame whose bits, in the
  order the serial line carries them, differ only within 16 consecutive
  positions, wherever they start: a burst may meet three bytes.
* `byteAt_modbusSend`, `length_modbusSend` — `modbus_send` keeps every byte
  after the MBAP header and adds `checksum_size` bytes; `modbusSend_tcp_mbap` —
  in TCP it keeps the transaction and protocol identifiers and sets the length.
* `modbusSend_buildQueryPacket_fields`, `modbusSend_buildResponsePacket_fields`
  — the fields a transmitted request or reply header carries, where the
  receiving side reads them.
* `computeResponseSize_buildQueryPacket` — the length predicted for a built
  request: `3 + ⌈count / 8⌉` data-and-header bytes for a bit read,
  `3 + 2 * count` for a register read.
-/

namespace Modbus

/-! ## Request and response headers -/

/-- `t_id` of `build_query_packet_tcp`/`build_response_packet_tcp` after one
use: `if (t_id < UINT16_MAX) t_id++; else t_id = 0;` -/
def nextTransactionId (tId : UInt16) : UInt16 :=
  if tId < 65535 then tId + 1 else 0

/-- `build_query_packet_rtu(slave, function, start_addr, count, packet)`. -/
def buildQueryPacketRtu (slave function : UInt8) (startAddr count : UInt16) : List UInt8 :=
  [slave, function] ++ splitWord startAddr ++ splitWord count

/-- `build_query_packet_tcp` with its counter already advanced to `tId`. -/
def buildQueryPacketTcp (tId : UInt16) (slave function : UInt8) (startAddr count : UInt16) :
    List UInt8 :=
  splitWord tId ++ [0, 0, 0, 0, slave, function] ++ splitWord startAddr ++ splitWord count

/-- `build_query_packet(mb_param, slave, function, start_addr, count, packet)`:
the request header, and the TCP counter after it (RTU leaves it alone). -/
def buildQueryPacket (mbParam : TypeCom) (tId : UInt16) (slave function : UInt8)
    (startAddr count : UInt16) : List UInt8 × UInt16 :=
  match mbParam with
  | .rtu => (buildQueryPacketRtu slave function startAddr count, tId)
  | .tcp =>
    let t := nextTransactionId tId
    (buildQueryPacketTcp t slave function startAddr count, t)

/-- `build_response_packet_rtu(slave, function, byte_count, packet)`. -/
def buildResponsePacketRtu (slave function byteCount : UInt8) : List UInt8 :=
  [slave, function, byteCount]

/-- `build_response_packet_tcp` with its counter already advanced to `tId`. -/
def buildResponsePacketTcp (tId : UInt16) (slave function byteCount : UInt8) : List UInt8 :=
  splitWord tId ++ [0, 0, 0, 0, slave, function, byteCount]

/-- `build_response_packet(mb_param, slave, function, byte_count, packet)`: the
response header, and the server's TCP counter after it. -/
def buildResponsePacket (mbParam : TypeCom) (tId : UInt16) (slave function byteCount : UInt8) :
    List UInt8 × UInt16 :=
  match mbParam with
  | .rtu => (buildResponsePacketRtu slave function byteCount, tId)
  | .tcp =>
    let t := nextTransactionId tId
    (buildResponsePacketTcp t slave function byteCount, t)

/-- The counter either builder leaves after one header: RTU leaves it alone. -/
def TypeCom.nextTId : TypeCom → UInt16 → UInt16
  | .rtu, tId => tId
  | .tcp, tId => nextTransactionId tId

@[simp] theorem buildQueryPacket_snd (mbParam : TypeCom) (tId : UInt16) (slave function : UInt8)
    (startAddr count : UInt16) :
    (buildQueryPacket mbParam tId slave function startAddr count).2 = mbParam.nextTId tId := by
  cases mbParam <;> rfl

@[simp] theorem buildResponsePacket_snd (mbParam : TypeCom) (tId : UInt16)
    (slave function byteCount : UInt8) :
    (buildResponsePacket mbParam tId slave function byteCount).2 = mbParam.nextTId tId := by
  cases mbParam <;> rfl

/-- The builders return `PRESET_QUERY_SIZE_*`, the length they wrote. -/
theorem length_buildQueryPacket (mbParam : TypeCom) (tId : UInt16) (slave function : UInt8)
    (startAddr count : UInt16) :
    (buildQueryPacket mbParam tId slave function startAddr count).1.length =
      mbParam.headerLength + presetQuerySizeRtu := by
  cases mbParam <;> rfl

/-- The builders return `PRESET_RESPONSE_SIZE_* + 1`, the length they wrote. -/
theorem length_buildResponsePacket (mbParam : TypeCom) (tId : UInt16)
    (slave function byteCount : UInt8) :
    (buildResponsePacket mbParam tId slave function byteCount).1.length =
      mbParam.headerLength + presetResponseSizeRtu + 1 := by
  cases mbParam <;> rfl

/-- A request header is the MBAP prefix, then unit, function, start address and count. -/
theorem buildQueryPacket_eq (mbParam : TypeCom) (tId : UInt16) (slave function : UInt8)
    (startAddr count : UInt16) :
    ∃ pre : List UInt8, pre.length = mbParam.headerLength ∧
      (buildQueryPacket mbParam tId slave function startAddr count).1 =
        pre ++ slave :: function :: (splitWord startAddr ++ splitWord count) := by
  cases mbParam with
  | rtu => exact ⟨[], rfl, rfl⟩
  | tcp => exact ⟨splitWord (nextTransactionId tId) ++ [0, 0, 0, 0], by simp [splitWord],
      by simp [buildQueryPacket, buildQueryPacketTcp]⟩

/-- The function code sits right after the unit, past the MBAP header. -/
theorem getD_buildQueryPacket_function (mbParam : TypeCom) (tId : UInt16) (slave function : UInt8)
    (startAddr count : UInt16) :
    (buildQueryPacket mbParam tId slave function startAddr count).1.getD (mbParam.headerLength + 1) 0 =
      function := by
  obtain ⟨pre, hpre, hq⟩ := buildQueryPacket_eq mbParam tId slave function startAddr count
  rw [hq, ← hpre, getD_append_length]
  rfl

/-- A response header is the MBAP prefix, then unit, function and byte count. -/
theorem buildResponsePacket_eq (mbParam : TypeCom) (tId : UInt16) (slave function byteCount : UInt8) :
    ∃ pre : List UInt8, pre.length = mbParam.headerLength ∧
      (buildResponsePacket mbParam tId slave function byteCount).1 =
        pre ++ [slave, function, byteCount] := by
  cases mbParam with
  | rtu => exact ⟨[], rfl, rfl⟩
  | tcp => exact ⟨splitWord (nextTransactionId tId) ++ [0, 0, 0, 0], by simp [splitWord],
      by simp [buildResponsePacket, buildResponsePacketTcp]⟩

/-! ## `set_packet_length_tcp` and `modbus_send` -/

/-- `set_packet_length_tcp(packet, packet_size)`: `packet[4..5]` become the
16-bit `packet_size - 6`. -/
def setPacketLengthTcp (packet : List UInt8) (packetSize : Nat) : List UInt8 :=
  let mbapLength := toU16 ((packetSize : Int) - 6)
  (packet.set 4 (mbapLength >>> 8).toUInt8).set 5 (mbapLength &&& 0xFF).toUInt8

/-- The bytes `modbus_send(mb_param, query, query_size)` hands to `write` or
`send`: in RTU the query followed by `crc16(query)`, high byte first; in TCP
the query with its MBAP length set. -/
def modbusSend (mbParam : TypeCom) (query : List UInt8) : List UInt8 :=
  match mbParam with
  | .rtu => query ++ splitWord (crc16 query)
  | .tcp => setPacketLengthTcp query query.length

@[simp] theorem modbusSend_rtu (query : List UInt8) :
    modbusSend .rtu query = query ++ splitWord (crc16 query) := rfl

@[simp] theorem length_modbusSend (mbParam : TypeCom) (query : List UInt8) :
    (modbusSend mbParam query).length = query.length + mbParam.checksumSize := by
  cases mbParam <;> simp [modbusSend, setPacketLengthTcp, splitWord]

/-- `modbus_send` keeps every byte of the query after the MBAP header. -/
theorem getD_modbusSend (mbParam : TypeCom) (query : List UInt8) {i : Nat}
    (hi : mbParam.headerLength ≤ i) (hlt : i < query.length) (d : UInt8) :
    (modbusSend mbParam query).getD i d = query.getD i d := by
  cases mbParam with
  | rtu => simp [List.getElem?_append_left hlt]
  | tcp =>
    simp only [headerLength_tcp] at hi
    simp [modbusSend, setPacketLengthTcp, List.getD_eq_getElem?_getD, List.getElem?_set,
      show 4 ≠ i by omega, show 5 ≠ i by omega]

theorem byteAt_modbusSend (mbParam : TypeCom) (query : List UInt8) {i : Nat}
    (hi : mbParam.headerLength ≤ i) (hlt : i < query.length) :
    byteAt (modbusSend mbParam query) i = byteAt query i := by
  rw [byteAt, getD_modbusSend mbParam query hi hlt, byteAt]

theorem wordAt_modbusSend (mbParam : TypeCom) (query : List UInt8) {i : Nat}
    (hi : mbParam.headerLength ≤ i) (hlt : i + 1 < query.length) :
    wordAt (modbusSend mbParam query) i = wordAt query i := by
  rw [wordAt, wordAt, byteAt_modbusSend mbParam query hi (by omega),
    byteAt_modbusSend mbParam query (by omega) hlt]

/-- In TCP `modbus_send` keeps the transaction and protocol identifiers and
writes the MBAP length field: the frame's size minus 6, modulo `2^16`. -/
theorem modbusSend_tcp_mbap (packet : List UInt8) (h : 6 ≤ packet.length) :
    (modbusSend .tcp packet).take 4 = packet.take 4 ∧
      wordAt (modbusSend .tcp packet) 4 = (packet.length - 6) % 65536 := by
  have hx : (toU16 ((packet.length : Int) - 6)).toNat = (packet.length - 6) % 65536 := by
    rw [toU16_toNat]; omega
  constructor
  · simp only [modbusSend, setPacketLengthTcp, List.set_take]
    rw [List.set_eq_of_length_le (by simp only [List.length_set, List.length_take]; omega),
      List.set_eq_of_length_le (by simp only [List.length_set, List.length_take]; omega)]
  · have h4 : (modbusSend .tcp packet).getD 4 0 = (toU16 ((packet.length : Int) - 6) >>> 8).toUInt8 := by
      simp only [modbusSend, setPacketLengthTcp, List.getD_eq_getElem?_getD, List.getElem?_set,
        List.length_set, show 4 < packet.length by omega, show (5 : Nat) ≠ 4 by decide, ↓reduceIte,
        Option.getD_some]
    have h5 : (modbusSend .tcp packet).getD 5 0 = (toU16 ((packet.length : Int) - 6) &&& 0xFF).toUInt8 := by
      simp only [modbusSend, setPacketLengthTcp, List.getD_eq_getElem?_getD, List.getElem?_set,
        List.length_set, show 5 < packet.length by omega, ↓reduceIte, Option.getD_some]
    rw [wordAt, byteAt, byteAt, h4, h5, toNat_shiftRight_eight_toUInt8, toNat_and_ff_toUInt8, hx]
    omega

/-! ## CRC of the transmitted frame -/

/-- The two bytes `modbus_send` appends are the loop's final `(crc_hi, crc_lo)`. -/
private theorem splitWord_crc16 (s : List UInt8) :
    splitWord (crc16 s) = [(s.foldl crc16Step (0xFF, 0xFF)).1, (s.foldl crc16Step (0xFF, 0xFF)).2] := by
  generalize hc : s.foldl crc16Step (0xFF, 0xFF) = c
  have hn := toNat_toUInt16_shiftLeft_or c.1 c.2
  have h2 : c.2.toNat < 256 := c.2.toBitVec.isLt
  simp only [splitWord, crc16, hc, List.cons.injEq, and_true]
  constructor <;> apply UInt8.toNat.inj
  · rw [toNat_shiftRight_eight_toUInt8, hn]; omega
  · rw [toNat_and_ff_toUInt8, hn]; omega

/-- **Every frame `modbus_send` transmits passes `check_crc16`.** -/
theorem checkCrc16_modbusSend (mbParam : TypeCom) (query : List UInt8) :
    checkCrc16 mbParam (modbusSend mbParam query) = 0 := by
  cases mbParam with
  | tcp => rfl
  | rtu =>
    rw [modbusSend_rtu, splitWord_crc16, checkCrc16_rtu_append_eq_zero_iff, List.foldl_append,
      List.foldl_cons, List.foldl_cons, List.foldl_nil, crc16Step_two_eq_zero_iff]
    exact ⟨rfl, rfl⟩

/-- In RTU a frame that ends in its own CRC has CRC 0. -/
theorem crc16_modbusSend_rtu (query : List UInt8) : crc16 (modbusSend .rtu query) = 0 := by
  rw [modbusSend_rtu, splitWord_crc16, crc16, List.foldl_append, List.foldl_cons, List.foldl_cons,
    List.foldl_nil, (crc16Step_two_eq_zero_iff _ _ _).mpr ⟨rfl, rfl⟩]
  rfl

/-- `modbus_send` on a frame it has transmitted before: TCP writes the same
MBAP length again; RTU appends the CRC of a frame ending in its own CRC,
`00 00`. -/
theorem modbusSend_modbusSend (mbParam : TypeCom) (query : List UInt8) :
    modbusSend mbParam (modbusSend mbParam query) =
      modbusSend mbParam query ++ List.replicate mbParam.checksumSize 0 := by
  cases mbParam with
  | rtu => rw [modbusSend_rtu (modbusSend .rtu query), crc16_modbusSend_rtu]; rfl
  | tcp =>
    simp only [modbusSend, setPacketLengthTcp, List.length_set, checksumSize_tcp, List.replicate_zero,
      List.append_nil]
    rw [List.set_comm _ _ _ (by decide : 5 ≠ 4), List.set_set, List.set_set]

/-- **RTU framing detects every burst confined to two adjacent bytes.** The
frame `f` that `modbus_send` transmits passes `check_crc16`; a frame `f'` that
agrees with `f` everywhere but in the two adjacent positions `A.length` and
`A.length + 1`, and is not `f`, is rejected with `INVALID_CRC`. -/
theorem checkCrc16_modbusSend_burst (s f' A B : List UInt8) (u v u' v' : UInt8)
    (hf : modbusSend .rtu s = A ++ [u, v] ++ B) (hf' : f' = A ++ [u', v'] ++ B)
    (hne : f' ≠ modbusSend .rtu s) :
    checkCrc16 .rtu (modbusSend .rtu s) = 0 ∧ checkCrc16 .rtu f' = invalidCrc := by
  have hok := checkCrc16_modbusSend .rtu s
  refine ⟨hok, (checkCrc16_eq_zero_or .rtu f').resolve_left fun hbad => hne ?_⟩
  have two : ∀ x y : UInt8, 2 ≤ (A ++ [x, y] ++ B).length := fun _ _ => by simp; omega
  rw [hf, checkCrc16_rtu_eq_zero_iff (two u v)] at hok
  rw [hf', checkCrc16_rtu_eq_zero_iff (two u' v')] at hbad
  simp only [List.foldl_append, List.foldl_cons, List.foldl_nil] at hok hbad
  obtain ⟨rfl, rfl⟩ := crc16Step_two_injective _ (foldl_crc16Step_injective B (hbad.trans hok.symm))
  rw [hf, hf']

/-- The request for three holding registers of unit 0x11 with the low bit of
its third byte flipped. -/
theorem checkCrc16_modbusSend_burst_single_flip :
    checkCrc16 .rtu (modbusSend .rtu [0x11, 0x03, 0x00, 0x6B, 0x00, 0x03]) = 0 ∧
      checkCrc16 .rtu [0x11, 0x03, 0x01, 0x6B, 0x00, 0x03, 0x76, 0x87] = invalidCrc :=
  checkCrc16_modbusSend_burst _ _ [0x11, 0x03] [0x00, 0x03, 0x76, 0x87] 0x00 0x6B 0x01 0x6B
    (by decide) rfl (by decide)

/-- The bit a serial line carries at position `p` of a frame: bit `p % 8` of
byte `p / 8`, each byte going out least significant bit first. -/
def lineBit (f : List UInt8) (p : Nat) : Bool := (f.getD (p / 8) 0).toBitVec.getLsbD (p % 8)

/-- Bit `b` of byte `i` goes out at position `8 i + b`. -/
theorem lineBit_byte (f : List UInt8) (i : Nat) {b : Nat} (hb : b < 8) :
    lineBit f (i * 8 + b) = (f.getD i 0).toBitVec.getLsbD b := by
  simp only [lineBit, show (i * 8 + b) / 8 = i by omega, show (i * 8 + b) % 8 = b by omega]

/-- Past the first `j` bytes, padded with three zero bytes. -/
theorem getD_drop_append_zeros (l : List UInt8) (j i : Nat) :
    (l.drop j ++ [0, 0, 0]).getD i 0 = l.getD (j + i) 0 := by
  by_cases hi : i < (l.drop j).length
  · rw [List.getD_append _ _ _ _ hi, List.getD_eq_getElem?_getD, List.getElem?_drop, ← List.getD_eq_getElem?_getD]
  · rw [List.getD_append_right _ _ _ _ (Nat.le_of_not_lt hi), List.getD_eq_default l 0 (by simp at hi; omega)]
    match i - (l.drop j).length with
    | 0 | 1 | 2 | _ + 3 => rfl

/-- Every list with three zero bytes behind it starts with three bytes. -/
theorem exists_append_zeros (l : List UInt8) : ∃ u v w B, l ++ [0, 0, 0] = u :: v :: w :: B :=
  match l with
  | [] => ⟨0, 0, 0, [], rfl⟩
  | [a] => ⟨a, 0, 0, [0], rfl⟩
  | [a, b] => ⟨a, b, 0, [0, 0], rfl⟩
  | a :: b :: c :: t => ⟨a, b, c, t ++ [0, 0, 0], by simp only [List.cons_append]⟩

section Burst

variable {f f' : List UInt8} {n : Nat} (hburst : ∀ p, lineBit f' p ≠ lineBit f p → n ≤ p ∧ p < n + 16)
include hburst

/-- Outside a window of 16 line positions, two frames carry the same bits. -/
theorem lineBit_burst_bit (i b : Nat) (hb : b < 8) (hi : i * 8 + b < n ∨ n + 16 ≤ i * 8 + b) :
    (f'.getD i 0).toBitVec.getLsbD b = (f.getD i 0).toBitVec.getLsbD b := by
  rw [← lineBit_byte f' i hb, ← lineBit_byte f i hb]
  exact Decidable.byContradiction fun h => by have := hburst _ h; omega

/-- A byte wholly outside the window is the same in both frames. -/
theorem lineBit_burst_byte (i : Nat) (hi : i * 8 + 8 ≤ n ∨ n + 16 ≤ i * 8) : f'.getD i 0 = f.getD i 0 :=
  UInt8.eq_of_toBitVec_eq (BitVec.eq_of_getLsbD_eq fun ⟨b, hb⟩ => lineBit_burst_bit hburst i b hb (by omega))

/-- **The window meets three bytes.** Two frames of one length that differ
within 16 line positions from `n` agree before byte `n / 8`; from there on,
with three zero bytes behind each, they are three bytes and one common tail,
and the first bytes agree below bit `n % 8`, the third from bit `n % 8` on. -/
theorem lineBit_burst_window (hlen : f'.length = f.length) :
    f'.take (n / 8) = f.take (n / 8) ∧
      ∃ u v w u' v' w' B, f.drop (n / 8) ++ [0, 0, 0] = u :: v :: w :: B ∧
        f'.drop (n / 8) ++ [0, 0, 0] = u' :: v' :: w' :: B ∧
        (∀ i < n % 8, u.toBitVec.getLsbD i = u'.toBitVec.getLsbD i) ∧
        (∀ i, n % 8 ≤ i → w.toBitVec.getLsbD i = w'.toBitVec.getLsbD i) := by
  have hn := Nat.div_add_mod n 8
  have hk := Nat.mod_lt n (show 8 > 0 by decide)
  obtain ⟨u, v, w, B, hP⟩ := exists_append_zeros (f.drop (n / 8))
  obtain ⟨u', v', w', B', hP'⟩ := exists_append_zeros (f'.drop (n / 8))
  have hat : ∀ i, (u :: v :: w :: B).getD i 0 = f.getD (n / 8 + i) 0 := fun i => by
    rw [← hP, getD_drop_append_zeros]
  have hat' : ∀ i, (u' :: v' :: w' :: B').getD i 0 = f'.getD (n / 8 + i) 0 := fun i => by
    rw [← hP', getD_drop_append_zeros]
  have hBlen : B'.length = B.length := by
    have h1 := congrArg List.length hP
    have h2 := congrArg List.length hP'
    simp only [List.length_append, List.length_drop, List.length_cons, hlen] at h1 h2
    omega
  have hB : B' = B := List.ext_getElem hBlen fun i h₁ h₂ => by
    have e := hat (i + 3)
    have e' := hat' (i + 3)
    rw [lineBit_burst_byte hburst _ (.inr (by omega))] at e'
    simp only [List.getD_cons_succ, List.getD_eq_getElem _ _ h₁, List.getD_eq_getElem _ _ h₂] at e e'
    rw [e, e']
  refine ⟨List.ext_getElem (by simp [hlen]) fun i h₁ h₂ => ?_, u, v, w, u', v', w', B, hP, hB ▸ hP',
    fun i hi => ?_, fun i hi => ?_⟩
  · -- before the window
    simp only [List.length_take] at h₁ h₂
    have := lineBit_burst_byte hburst i (.inl (by omega))
    rw [List.getD_eq_getElem _ _ (by omega), List.getD_eq_getElem _ _ (by omega)] at this
    simpa only [List.getElem_take] using this
  · -- the low bits of the first byte
    have e := hat 0
    have e' := hat' 0
    simp only [List.getD_cons_zero, Nat.add_zero] at e e'
    rw [e, e', lineBit_burst_bit hburst _ i (by omega) (.inl (by omega))]
  · -- the high bits of the third byte
    by_cases h8 : i < 8
    · have e := hat 2
      have e' := hat' 2
      simp only [List.getD_cons_succ, List.getD_cons_zero] at e e'
      rw [e, e', lineBit_burst_bit hburst _ i h8 (.inr (by omega))]
    · rw [BitVec.getLsbD_ge _ _ (by omega), BitVec.getLsbD_ge _ _ (by omega)]

end Burst

/-- The fields `manage_query` reads back from a transmitted request. -/
theorem modbusSend_buildQueryPacket_fields (mbParam : TypeCom) (tId : UInt16)
    (slave function : UInt8) (startAddr count : UInt16) :
    let request := modbusSend mbParam (buildQueryPacket mbParam tId slave function startAddr count).1
    let offset := mbParam.headerLength
    request.getD offset 0 = slave ∧ request.getD (offset + 1) 0 = function ∧
      wordAt request (offset + 2) = startAddr.toNat ∧ wordAt request (offset + 4) = count.toNat := by
  intro request offset
  obtain ⟨pre, hpre, hq⟩ := buildQueryPacket_eq mbParam tId slave function startAddr count
  have hlen : (buildQueryPacket mbParam tId slave function startAddr count).1.length = offset + 6 := by
    simp [hq, hpre, splitWord, offset]
  refine ⟨?_, ?_, ?_, ?_⟩
  · rw [getD_modbusSend mbParam _ (Nat.le_refl _) (by omega), hq, ← hpre,
      ← Nat.add_zero pre.length, getD_append_length]
    rfl
  · rw [getD_modbusSend mbParam _ (Nat.le_add_right _ _) (by omega), hq, ← hpre,
      getD_append_length]
    rfl
  · rw [wordAt_modbusSend mbParam _ (Nat.le_add_right _ _) (by omega), hq,
      show pre ++ slave :: function :: (splitWord startAddr ++ splitWord count) =
        (pre ++ [slave, function]) ++ splitWord startAddr ++ splitWord count by simp,
      show offset + 2 = (pre ++ [slave, function]).length by simp [hpre, offset], wordAt_splitWord]
  · rw [wordAt_modbusSend mbParam _ (Nat.le_add_right _ _) (by omega), hq,
      show pre ++ slave :: function :: (splitWord startAddr ++ splitWord count) =
        (pre ++ [slave, function] ++ splitWord startAddr) ++ splitWord count ++ [] by simp,
      show offset + 4 = (pre ++ [slave, function] ++ splitWord startAddr).length by
        simp [hpre, offset, splitWord], wordAt_splitWord]

/-- The function code of a transmitted request that starts with the header
`build_query_packet` built, whatever data follows the header. -/
theorem byteAt_modbusSend_buildQueryPacket (mbParam : TypeCom) (tId : UInt16)
    (slave function : UInt8) (startAddr count : UInt16) (extra : List UInt8) :
    byteAt (modbusSend mbParam ((buildQueryPacket mbParam tId slave function startAddr count).1 ++ extra))
      (mbParam.headerLength + 1) = function.toNat := by
  have hlen := length_buildQueryPacket mbParam tId slave function startAddr count
  rw [byteAt_modbusSend mbParam _ (Nat.le_add_right _ _)
      (by rw [List.length_append, hlen, presetQuerySizeRtu]; omega),
    byteAt, List.getD_append _ _ _ _ (by rw [hlen, presetQuerySizeRtu]; omega),
    getD_buildQueryPacket_function]

/-- The fields of a frame that `modbus_send` transmits after a header of
`header_length` bytes: the unit, the function code, a third byte and data. -/
theorem modbusSend_fields (mbParam : TypeCom) {pre : List UInt8} (hpre : pre.length = mbParam.headerLength)
    (slave function third : UInt8) (data : List UInt8) :
    let reply := modbusSend mbParam (pre ++ slave :: function :: third :: data)
    let offset := mbParam.headerLength
    reply.length = offset + 3 + data.length + mbParam.checksumSize ∧
      reply.getD (offset + 1) 0 = function ∧ reply.getD (offset + 2) 0 = third ∧
      ∀ j, j < data.length → reply.getD (offset + 3 + j) 0 = data.getD j 0 := by
  dsimp only
  have hlen : (pre ++ slave :: function :: third :: data).length = mbParam.headerLength + 3 + data.length := by
    simp [hpre]; omega
  refine ⟨by rw [length_modbusSend, hlen], ?_, ?_, fun j hj => ?_⟩
  · rw [getD_modbusSend mbParam _ (Nat.le_add_right _ _) (by omega), ← hpre, getD_append_length]
    rfl
  · rw [getD_modbusSend mbParam _ (Nat.le_add_right _ _) (by omega), ← hpre, getD_append_length]
    rfl
  · rw [getD_modbusSend mbParam _ (by omega) (by omega), ← hpre,
      show pre.length + 3 + j = pre.length + (j + 3) by omega, getD_append_length]
    rfl

/-- The fields of a transmitted response, as the master reads them back. -/
theorem modbusSend_buildResponsePacket_fields (mbParam : TypeCom) (tId : UInt16)
    (slave function byteCount : UInt8) (data : List UInt8) :
    let reply := modbusSend mbParam ((buildResponsePacket mbParam tId slave function byteCount).1 ++ data)
    let offset := mbParam.headerLength
    reply.length = offset + 3 + data.length + mbParam.checksumSize ∧
      reply.getD (offset + 1) 0 = function ∧ reply.getD (offset + 2) 0 = byteCount ∧
      ∀ j, j < data.length → reply.getD (offset + 3 + j) 0 = data.getD j 0 := by
  obtain ⟨pre, hpre, hq⟩ := buildResponsePacket_eq mbParam tId slave function byteCount
  rw [hq, List.append_assoc]
  exact modbusSend_fields mbParam hpre slave function byteCount data

/-- The master's `response[i] << 8 | response[i + 1]` undoes the server's
`tab[i] >> 8`, `tab[i] & 0xFF`. -/
theorem join_splitWord (x : UInt16) :
    ((x >>> 8).toUInt8.toUInt16 <<< 8) ||| (x &&& 0xFF).toUInt8.toUInt16 = x := by
  apply UInt16.toNat.inj
  rw [toNat_toUInt16_shiftLeft_or, toNat_shiftRight_eight_toUInt8, toNat_and_ff_toUInt8]
  omega

/-! ## The response length a request predicts -/

/-- `compute_response_size(mb_param, query)`: the length of the valid
response to `query`, envelope and trailer included. -/
def computeResponseSize (mbParam : TypeCom) (query : List UInt8) : Nat :=
  let offset := mbParam.headerLength
  let function := byteAt query (offset + 1)
  let responseSizeComputed :=
    if function = fcReadCoilStatus ∨ function = fcReadInputStatus then
      let coilCount := wordAt query (offset + 4)
      3 + coilCount / 8 + (if coilCount % 8 ≠ 0 then 1 else 0)
    else if function = fcReadHoldingRegisters ∨ function = fcReadInputRegisters then
      3 + 2 * wordAt query (offset + 4)
    else if function = fcReadExceptionStatus then 4
    else 6
  responseSizeComputed + offset + mbParam.checksumSize

/-- The length `compute_response_size` predicts for a request that
`build_query_packet` built, in terms of the request's own fields. -/
theorem computeResponseSize_buildQueryPacket (mbParam : TypeCom) (tId : UInt16)
    (slave function : UInt8) (startAddr count : UInt16) :
    computeResponseSize mbParam (modbusSend mbParam
      (buildQueryPacket mbParam tId slave function startAddr count).1) =
      (if function.toNat = fcReadCoilStatus ∨ function.toNat = fcReadInputStatus then
        3 + (count.toNat + 7) / 8
      else if function.toNat = fcReadHoldingRegisters ∨ function.toNat = fcReadInputRegisters then
        3 + 2 * count.toNat
      else if function.toNat = fcReadExceptionStatus then 4 else 6) +
        mbParam.headerLength + mbParam.checksumSize := by
  obtain ⟨-, hF, -, hC⟩ := modbusSend_buildQueryPacket_fields mbParam tId slave function startAddr count
  have hbytes : count.toNat / 8 + (if count.toNat % 8 ≠ 0 then 1 else 0) = (count.toNat + 7) / 8 := by
    split <;> omega
  simp only [computeResponseSize, byteAt, hF, hC]
  rw [Nat.add_assoc 3, hbytes]

end Modbus
