import Modbus.Basic

/-!
# Modbus — CRC-16

`crc16` is the table-driven loop of `modbus.c`: two 256-byte tables indexed by
`crc_hi ^ byte`, one giving the new high byte (XOR-ed with the old low byte),
one the new low byte. `check_crc16` recomputes it over all but the last two
bytes of a frame and compares it with those two bytes.

`crcRef` is the bitwise reflected Modbus register of the spec (§4.1): start at
`0xFFFF`; per byte, XOR it into the low byte, then eight times shift right and
XOR `0xA001` if the dropped bit was 1. The code's `crc_hi` holds the register's
low byte and `crc_lo` its high byte, so `crc16` returns the register with its
bytes swapped — which `modbus_send` then transmits high byte first, i.e. the
register's low byte first.

Two facts about the tables carry everything: each entry is a byte of eight
shift steps of its index (`tableCrc_shifts`, checked once over all 256
indices), and the shift step is linear over GF(2) (`crcShift_xor`). From them:

* `crc16_eq_crcRef_swap` — the table-driven loop computes the byte-swapped
  bitwise register, for every byte string.
* `tableCrcLo_injective` — `table_crc_lo` is a permutation: linearity plus its
  only zero being at index 0.
* `checkCrc16_rtu_eq_zero_iff` — a frame passes `check_crc16` exactly when the
  loop run over the whole frame, trailer included, ends at `(0, 0)`.
* `crc16Step_two_injective`, `foldl_crc16Step_injective` — two consecutive
  bytes are determined by the state after them, and the state before a common
  suffix by the state after it; these give burst detection in `Modbus.Frame`.
-/

namespace Modbus

/-! ## The code's CRC -/

/-- `table_crc_hi`. -/
def tableCrcHi : List UInt8 :=
[
  0x00, 0xC1, 0x81, 0x40, 0x01, 0xC0, 0x80, 0x41, 0x01, 0xC0,
  0x80, 0x41, 0x00, 0xC1, 0x81, 0x40, 0x01, 0xC0, 0x80, 0x41,
  0x00, 0xC1, 0x81, 0x40, 0x00, 0xC1, 0x81, 0x40, 0x01, 0xC0,
  0x80, 0x41, 0x01, 0xC0, 0x80, 0x41, 0x00, 0xC1, 0x81, 0x40,
  0x00, 0xC1, 0x81, 0x40, 0x01, 0xC0, 0x80, 0x41, 0x00, 0xC1,
  0x81, 0x40, 0x01, 0xC0, 0x80, 0x41, 0x01, 0xC0, 0x80, 0x41,
  0x00, 0xC1, 0x81, 0x40, 0x01, 0xC0, 0x80, 0x41, 0x00, 0xC1,
  0x81, 0x40, 0x00, 0xC1, 0x81, 0x40, 0x01, 0xC0, 0x80, 0x41,
  0x00, 0xC1, 0x81, 0x40, 0x01, 0xC0, 0x80, 0x41, 0x01, 0xC0,
  0x80, 0x41, 0x00, 0xC1, 0x81, 0x40, 0x00, 0xC1, 0x81, 0x40,
  0x01, 0xC0, 0x80, 0x41, 0x01, 0xC0, 0x80, 0x41, 0x00, 0xC1,
  0x81, 0x40, 0x01, 0xC0, 0x80, 0x41, 0x00, 0xC1, 0x81, 0x40,
  0x00, 0xC1, 0x81, 0x40, 0x01, 0xC0, 0x80, 0x41, 0x01, 0xC0,
  0x80, 0x41, 0x00, 0xC1, 0x81, 0x40, 0x00, 0xC1, 0x81, 0x40,
  0x01, 0xC0, 0x80, 0x41, 0x00, 0xC1, 0x81, 0x40, 0x01, 0xC0,
  0x80, 0x41, 0x01, 0xC0, 0x80, 0x41, 0x00, 0xC1, 0x81, 0x40,
  0x00, 0xC1, 0x81, 0x40, 0x01, 0xC0, 0x80, 0x41, 0x01, 0xC0,
  0x80, 0x41, 0x00, 0xC1, 0x81, 0x40, 0x01, 0xC0, 0x80, 0x41,
  0x00, 0xC1, 0x81, 0x40, 0x00, 0xC1, 0x81, 0x40, 0x01, 0xC0,
  0x80, 0x41, 0x00, 0xC1, 0x81, 0x40, 0x01, 0xC0, 0x80, 0x41,
  0x01, 0xC0, 0x80, 0x41, 0x00, 0xC1, 0x81, 0x40, 0x01, 0xC0,
  0x80, 0x41, 0x00, 0xC1, 0x81, 0x40, 0x00, 0xC1, 0x81, 0x40,
  0x01, 0xC0, 0x80, 0x41, 0x01, 0xC0, 0x80, 0x41, 0x00, 0xC1,
  0x81, 0x40, 0x00, 0xC1, 0x81, 0x40, 0x01, 0xC0, 0x80, 0x41,
  0x00, 0xC1, 0x81, 0x40, 0x01, 0xC0, 0x80, 0x41, 0x01, 0xC0,
  0x80, 0x41, 0x00, 0xC1, 0x81, 0x40]

/-- `table_crc_lo`. -/
def tableCrcLo : List UInt8 :=
[
  0x00, 0xC0, 0xC1, 0x01, 0xC3, 0x03, 0x02, 0xC2, 0xC6, 0x06,
  0x07, 0xC7, 0x05, 0xC5, 0xC4, 0x04, 0xCC, 0x0C, 0x0D, 0xCD,
  0x0F, 0xCF, 0xCE, 0x0E, 0x0A, 0xCA, 0xCB, 0x0B, 0xC9, 0x09,
  0x08, 0xC8, 0xD8, 0x18, 0x19, 0xD9, 0x1B, 0xDB, 0xDA, 0x1A,
  0x1E, 0xDE, 0xDF, 0x1F, 0xDD, 0x1D, 0x1C, 0xDC, 0x14, 0xD4,
  0xD5, 0x15, 0xD7, 0x17, 0x16, 0xD6, 0xD2, 0x12, 0x13, 0xD3,
  0x11, 0xD1, 0xD0, 0x10, 0xF0, 0x30, 0x31, 0xF1, 0x33, 0xF3,
  0xF2, 0x32, 0x36, 0xF6, 0xF7, 0x37, 0xF5, 0x35, 0x34, 0xF4,
  0x3C, 0xFC, 0xFD, 0x3D, 0xFF, 0x3F, 0x3E, 0xFE, 0xFA, 0x3A,
  0x3B, 0xFB, 0x39, 0xF9, 0xF8, 0x38, 0x28, 0xE8, 0xE9, 0x29,
  0xEB, 0x2B, 0x2A, 0xEA, 0xEE, 0x2E, 0x2F, 0xEF, 0x2D, 0xED,
  0xEC, 0x2C, 0xE4, 0x24, 0x25, 0xE5, 0x27, 0xE7, 0xE6, 0x26,
  0x22, 0xE2, 0xE3, 0x23, 0xE1, 0x21, 0x20, 0xE0, 0xA0, 0x60,
  0x61, 0xA1, 0x63, 0xA3, 0xA2, 0x62, 0x66, 0xA6, 0xA7, 0x67,
  0xA5, 0x65, 0x64, 0xA4, 0x6C, 0xAC, 0xAD, 0x6D, 0xAF, 0x6F,
  0x6E, 0xAE, 0xAA, 0x6A, 0x6B, 0xAB, 0x69, 0xA9, 0xA8, 0x68,
  0x78, 0xB8, 0xB9, 0x79, 0xBB, 0x7B, 0x7A, 0xBA, 0xBE, 0x7E,
  0x7F, 0xBF, 0x7D, 0xBD, 0xBC, 0x7C, 0xB4, 0x74, 0x75, 0xB5,
  0x77, 0xB7, 0xB6, 0x76, 0x72, 0xB2, 0xB3, 0x73, 0xB1, 0x71,
  0x70, 0xB0, 0x50, 0x90, 0x91, 0x51, 0x93, 0x53, 0x52, 0x92,
  0x96, 0x56, 0x57, 0x97, 0x55, 0x95, 0x94, 0x54, 0x9C, 0x5C,
  0x5D, 0x9D, 0x5F, 0x9F, 0x9E, 0x5E, 0x5A, 0x9A, 0x9B, 0x5B,
  0x99, 0x59, 0x58, 0x98, 0x88, 0x48, 0x49, 0x89, 0x4B, 0x8B,
  0x8A, 0x4A, 0x4E, 0x8E, 0x8F, 0x4F, 0x8D, 0x4D, 0x4C, 0x8C,
  0x44, 0x84, 0x85, 0x45, 0x87, 0x47, 0x46, 0x86, 0x82, 0x42,
  0x43, 0x83, 0x41, 0x81, 0x80, 0x40]

/-- One pass of `crc16`'s loop on the pair `(crc_hi, crc_lo)`:
`i = crc_hi ^ *buffer++; crc_hi = crc_lo ^ table_crc_hi[i]; crc_lo = table_crc_lo[i];` -/
def crc16Step (crc : UInt8 × UInt8) (b : UInt8) : UInt8 × UInt8 :=
  let i := (crc.1 ^^^ b).toNat
  (crc.2 ^^^ tableCrcHi.getD i 0, tableCrcLo.getD i 0)

/-- `crc16(buffer, buffer_length)` over the `buffer_length` bytes `buffer`
(every call in `modbus.c` passes a length far below `2^16`). -/
def crc16 (buffer : List UInt8) : UInt16 :=
  let crc := buffer.foldl crc16Step (0xFF, 0xFF)
  (crc.1.toUInt16 <<< 8) ||| crc.2.toUInt16

/-- `check_crc16(mb_param, msg, msg_size)` on the `msg_size` bytes `msg`: in
RTU, `0` when `crc16(msg, msg_size - 2)` equals
`(msg[msg_size - 2] << 8) | msg[msg_size - 1]` and `INVALID_CRC` otherwise;
in TCP, always `0` (the CRC is left to the lower layers). -/
def checkCrc16 (mbParam : TypeCom) (msg : List UInt8) : Int :=
  match mbParam with
  | .tcp => 0
  | .rtu =>
    let crcCalc := crc16 (msg.take (msg.length - 2))
    let crcReceived :=
      ((msg.getD (msg.length - 2) 0).toUInt16 <<< 8) ||| (msg.getD (msg.length - 1) 0).toUInt16
    if crcCalc = crcReceived then 0 else invalidCrc

/-! ## The bitwise register of the spec -/

/-- One step of the reflected register: shift right, and XOR `0xA001` if the
dropped bit was 1. -/
def crcShift (r : BitVec 16) : BitVec 16 :=
  if r.getLsbD 0 then (r >>> 1) ^^^ 0xA001#16 else r >>> 1

/-- `n` shift steps. -/
def crcShifts : Nat → BitVec 16 → BitVec 16
  | 0, r => r
  | n + 1, r => crcShifts n (crcShift r)

/-- One byte into the register: XOR it into the low byte, then eight steps. -/
def crcRegByte (r : BitVec 16) (b : UInt8) : BitVec 16 :=
  crcShifts 8 (r ^^^ (0#8 ++ b.toBitVec))

/-- `R(s)`: the register after the bytes `s`, started at `0xFFFF`. -/
def crcRef (s : List UInt8) : UInt16 := ⟨s.foldl crcRegByte 0xFFFF#16⟩

/-! ## Linearity of the shift step -/

theorem crcShift_xor (a b : BitVec 16) : crcShift (a ^^^ b) = crcShift a ^^^ crcShift b := by
  have cancel : ∀ x y p : BitVec 16, (x ^^^ p) ^^^ (y ^^^ p) = x ^^^ y := fun x y p => by
    rw [BitVec.xor_assoc, BitVec.xor_comm y p, ← BitVec.xor_assoc p, BitVec.xor_self,
      BitVec.zero_xor]
  simp only [crcShift, BitVec.getLsbD_xor, BitVec.ushiftRight_xor_distrib]
  cases a.getLsbD 0 <;> cases b.getLsbD 0 <;>
    simp only [Bool.xor_false, Bool.xor_true, Bool.not_false, Bool.not_true, Bool.false_eq_true,
      ite_true, ite_false, cancel, BitVec.xor_assoc]
  rw [BitVec.xor_comm (b >>> 1)]

theorem crcShifts_xor (n : Nat) (a b : BitVec 16) :
    crcShifts n (a ^^^ b) = crcShifts n a ^^^ crcShifts n b := by
  induction n generalizing a b with
  | zero => rfl
  | succ n ih => simp only [crcShifts, crcShift_xor, ih]

/-- While the dropped bits are 0 the register only shifts. -/
theorem crcShifts_of_low_zero (k : Nat) (r : BitVec 16) (h : ∀ i < k, r.getLsbD i = false) :
    crcShifts k r = r >>> k := by
  induction k generalizing r with
  | zero => simp [crcShifts]
  | succ k ih =>
    have h0 : crcShift r = r >>> 1 := by simp [crcShift, h 0 (by omega)]
    rw [crcShifts, h0, ih _ (fun i hi => by simpa [Nat.add_comm] using h (i + 1) (by omega)),
      ← BitVec.shiftRight_add, Nat.add_comm]

/-- Eight steps move a high byte down unchanged. -/
theorem crcShifts_high (x : BitVec 8) : crcShifts 8 (x ++ 0#8) = 0#8 ++ x := by
  rw [crcShifts_of_low_zero 8 _ (fun i hi => by rw [BitVec.getLsbD_append]; simp [hi])]
  ext i
  simp only [BitVec.getLsbD_ushiftRight, BitVec.getLsbD_append]
  by_cases h : (i : Nat) < 8
  · simp [h, Nat.add_sub_cancel_left]
  · simp [h, Nat.add_sub_cancel_left, BitVec.getLsbD_ge x i (by omega)]

/-! ## The tables are eight shift steps of their index -/

set_option maxRecDepth 10000 in
private theorem tables_eq_shifts :
    (List.range 256).map (fun i => crcShifts 8 (0#8 ++ BitVec.ofNat 8 i)) =
      List.zipWith (fun lo hi => lo.toBitVec ++ hi.toBitVec) tableCrcLo tableCrcHi := by
  decide

set_option maxRecDepth 10000 in
@[simp] theorem tableCrcHi_length : tableCrcHi.length = 256 := rfl

set_option maxRecDepth 10000 in
@[simp] theorem tableCrcLo_length : tableCrcLo.length = 256 := rfl

theorem tableCrc_shifts (i : UInt8) :
    crcShifts 8 (0#8 ++ i.toBitVec) =
      (tableCrcLo.getD i.toNat 0).toBitVec ++ (tableCrcHi.getD i.toNat 0).toBitVec := by
  have hi : i.toNat < 256 := i.toBitVec.isLt
  have h := congrArg (fun l => l.getD i.toNat 0) tables_eq_shifts
  have h1 : i.toNat < ((List.range 256).map (fun i => crcShifts 8 (0#8 ++ BitVec.ofNat 8 i))).length := by
    simpa using hi
  have h2 : i.toNat < (List.zipWith (fun lo hi => lo.toBitVec ++ hi.toBitVec) tableCrcLo tableCrcHi).length := by
    rw [List.length_zipWith, tableCrcLo_length, tableCrcHi_length]; simpa using hi
  simp only [List.getD_eq_getElem _ _ h1, List.getD_eq_getElem _ _ h2, List.getElem_map,
    List.getElem_range, List.getElem_zipWith] at h
  rw [List.getD_eq_getElem _ _ (by rw [tableCrcLo_length]; exact hi),
    List.getD_eq_getElem _ _ (by rw [tableCrcHi_length]; exact hi), ← h]
  simp [UInt8.toNat]

/-! ## The table-driven loop computes the swapped register -/

private theorem append_inj {x₁ x₂ y₁ y₂ : BitVec 8} (h : x₁ ++ y₁ = x₂ ++ y₂) :
    x₁ = x₂ ∧ y₁ = y₂ := by
  constructor <;> ext i
  · have := congrArg (fun z => z.getLsbD (i + 8)) h
    simp only [BitVec.getLsbD_append] at this
    simpa using this
  · have := congrArg (fun z => z.getLsbD i) h
    simp only [BitVec.getLsbD_append] at this
    simpa [i.isLt] using this

/-- A byte through the register, with `crc_lo` as its high byte and `crc_hi`
as its low byte, is a pass of the loop. -/
theorem crcRegByte_crc16Step (c : UInt8 × UInt8) (b : UInt8) :
    crcRegByte (c.2.toBitVec ++ c.1.toBitVec) b =
      (crc16Step c b).2.toBitVec ++ (crc16Step c b).1.toBitVec := by
  have split : (c.2.toBitVec ++ c.1.toBitVec) ^^^ (0#8 ++ b.toBitVec) =
      (c.2.toBitVec ++ 0#8) ^^^ (0#8 ++ (c.1 ^^^ b).toBitVec) := by
    simp only [BitVec.xor_append, BitVec.xor_zero, BitVec.zero_xor]
    rfl
  rw [crcRegByte, split, crcShifts_xor, crcShifts_high, tableCrc_shifts, BitVec.xor_append,
    BitVec.zero_xor]
  rfl

theorem foldl_crcRegByte (s : List UInt8) (c : UInt8 × UInt8) :
    s.foldl crcRegByte (c.2.toBitVec ++ c.1.toBitVec) =
      (s.foldl crc16Step c).2.toBitVec ++ (s.foldl crc16Step c).1.toBitVec := by
  induction s generalizing c with
  | nil => rfl
  | cons b s ih => simp only [List.foldl_cons, crcRegByte_crc16Step, ih]

private theorem toUInt16_toBitVec (x : UInt8) : x.toUInt16.toBitVec = x.toBitVec.setWidth 16 := by
  apply BitVec.eq_of_toNat_eq
  have := x.toBitVec.isLt
  simp [UInt8.toUInt16, UInt8.toNat]
  omega

/-- `(x << 8) | y` on two bytes is their concatenation. -/
theorem toUInt16_shiftLeft_or (x y : UInt8) :
    (x.toUInt16 <<< 8) ||| y.toUInt16 = ⟨x.toBitVec ++ y.toBitVec⟩ := by
  apply UInt16.eq_of_toBitVec_eq
  show (x.toUInt16.toBitVec <<< (8#16 % 16#16)) ||| y.toUInt16.toBitVec = _
  rw [toUInt16_toBitVec, toUInt16_toBitVec, BitVec.shiftLeft_eq',
    show (8#16 % 16#16).toNat = 8 from rfl]
  ext i
  simp only [BitVec.getLsbD_or, BitVec.getLsbD_shiftLeft, BitVec.getLsbD_setWidth,
    BitVec.getLsbD_append]
  by_cases h : (i : Nat) < 8
  · simp [h]
  · simp [h, BitVec.getLsbD_ge y.toBitVec i (by omega), show (i : Nat) - 8 < 16 by omega]

/-- Swapping the bytes of a concatenation. -/
private theorem swap_append (x y : BitVec 8) :
    (((⟨x ++ y⟩ : UInt16) &&& 0xFF) <<< 8) ||| ((⟨x ++ y⟩ : UInt16) >>> 8) = ⟨y ++ x⟩ := by
  apply UInt16.eq_of_toBitVec_eq
  show (((x ++ y) &&& 255#16) <<< (8#16 % 16#16)) ||| ((x ++ y) >>> (8#16 % 16#16)) = y ++ x
  rw [BitVec.shiftLeft_eq', BitVec.ushiftRight_eq', show (8#16 % 16#16).toNat = 8 from rfl]
  ext i
  simp only [BitVec.getLsbD_or, BitVec.getLsbD_shiftLeft, BitVec.getLsbD_and,
    BitVec.getLsbD_ushiftRight, BitVec.getLsbD_append]
  by_cases h : (i : Nat) < 8
  · simp [h, Nat.add_sub_cancel_left]
  · have hx : x.getLsbD i = false := BitVec.getLsbD_ge x i (by omega)
    have h255 : Nat.testBit 255 ((i : Nat) - 8) = true := by
      rw [show (255 : Nat) = 2 ^ 8 - 1 from rfl, Nat.testBit_two_pow_sub_one]
      simp only [decide_eq_true_eq]
      omega
    simp [h, Nat.add_sub_cancel_left, hx, show (i : Nat) - 8 < 8 by omega,
      show (i : Nat) - 8 < 16 by omega, BitVec.getLsbD_ofNat,
      h255]

/-- **The table-driven CRC is the bitwise register with its bytes swapped**,
for every byte string. -/
theorem crc16_eq_crcRef_swap (s : List UInt8) :
    crc16 s = ((crcRef s &&& 0xFF) <<< 8) ||| (crcRef s >>> 8) := by
  have h := foldl_crcRegByte s (0xFF, 0xFF)
  rw [show (0xFF : UInt8).toBitVec ++ (0xFF : UInt8).toBitVec = 0xFFFF#16 from rfl] at h
  rw [crcRef, h, swap_append, crc16, toUInt16_shiftLeft_or]

/-! ## `table_crc_lo` is a permutation -/

private theorem xor_right_cancel {x y b : UInt8} (h : x ^^^ b = y ^^^ b) : x = y := by
  apply UInt8.eq_of_toBitVec_eq
  have h' : x.toBitVec ^^^ b.toBitVec = y.toBitVec ^^^ b.toBitVec := congrArg UInt8.toBitVec h
  simpa [BitVec.xor_assoc] using congrArg (· ^^^ b.toBitVec) h'

private theorem xor_left_cancel {x y b : UInt8} (h : b ^^^ x = b ^^^ y) : x = y := by
  apply UInt8.eq_of_toBitVec_eq
  have h' : b.toBitVec ^^^ x.toBitVec = b.toBitVec ^^^ y.toBitVec := congrArg UInt8.toBitVec h
  simpa [← BitVec.xor_assoc] using congrArg (b.toBitVec ^^^ ·) h'

private theorem xor_self (x : UInt8) : x ^^^ x = 0 := UInt8.eq_of_toBitVec_eq BitVec.xor_self

private theorem eq_of_xor_eq_zero {x y : UInt8} (h : x ^^^ y = 0) : x = y :=
  xor_right_cancel (h.trans (xor_self y).symm)

/-- The table entries of an index, as bit vectors. -/
private theorem tableCrc_getD_xor (a b : UInt8) :
    tableCrcLo.getD (a ^^^ b).toNat 0 = tableCrcLo.getD a.toNat 0 ^^^ tableCrcLo.getD b.toNat 0 ∧
      tableCrcHi.getD (a ^^^ b).toNat 0 = tableCrcHi.getD a.toNat 0 ^^^ tableCrcHi.getD b.toNat 0 := by
  have h := tableCrc_shifts (a ^^^ b)
  rw [show 0#8 ++ (a ^^^ b).toBitVec = (0#8 ++ a.toBitVec) ^^^ (0#8 ++ b.toBitVec) by
      rw [BitVec.xor_append, BitVec.xor_zero]; rfl,
    crcShifts_xor, tableCrc_shifts, tableCrc_shifts, BitVec.xor_append] at h
  obtain ⟨hlo, hhi⟩ := append_inj h
  exact ⟨UInt8.eq_of_toBitVec_eq hlo.symm, UInt8.eq_of_toBitVec_eq hhi.symm⟩

/-- `table_crc_lo` is linear over GF(2). -/
theorem tableCrcLo_xor (a b : UInt8) :
    tableCrcLo.getD (a ^^^ b).toNat 0 = tableCrcLo.getD a.toNat 0 ^^^ tableCrcLo.getD b.toNat 0 :=
  (tableCrc_getD_xor a b).1

/-- `table_crc_hi` is linear over GF(2). -/
theorem tableCrcHi_xor (a b : UInt8) :
    tableCrcHi.getD (a ^^^ b).toNat 0 = tableCrcHi.getD a.toNat 0 ^^^ tableCrcHi.getD b.toNat 0 :=
  (tableCrc_getD_xor a b).2

private theorem zero_not_mem_tableCrcLo_tail : (0 : UInt8) ∉ tableCrcLo.tail := by decide

@[simp] theorem tableCrcLo_zero : tableCrcLo.getD 0 0 = 0 := rfl
@[simp] theorem tableCrcHi_zero : tableCrcHi.getD 0 0 = 0 := rfl

/-- The only zero of `table_crc_lo` is at index 0. -/
theorem tableCrcLo_eq_zero_iff (i : UInt8) : tableCrcLo.getD i.toNat 0 = 0 ↔ i = 0 := by
  constructor
  · intro h
    rcases hi : i.toNat with _ | n
    · exact UInt8.toNat.inj (by simpa using hi)
    · rw [hi] at h
      have hn : n < tableCrcLo.tail.length := by
        have := i.toBitVec.isLt; simp [UInt8.toNat] at hi; simp; omega
      have hmem := List.getElem_mem hn
      have htail : tableCrcLo.getD (n + 1) 0 = tableCrcLo.tail.getD n 0 := by
        rw [show tableCrcLo = 0 :: tableCrcLo.tail from rfl]; rfl
      rw [← List.getD_eq_getElem _ 0 hn, ← htail, h] at hmem
      exact absurd hmem zero_not_mem_tableCrcLo_tail
  · rintro rfl; rfl

theorem tableCrcLo_injective {a b : UInt8}
    (h : tableCrcLo.getD a.toNat 0 = tableCrcLo.getD b.toNat 0) : a = b := by
  apply eq_of_xor_eq_zero
  rw [← tableCrcLo_eq_zero_iff, tableCrcLo_xor, h, xor_self]

/-! ## What `check_crc16` accepts -/

private theorem xor_zero (x : UInt8) : x ^^^ 0 = x := UInt8.eq_of_toBitVec_eq BitVec.xor_zero

private theorem shiftLeft_eight_or (a b : Nat) (hb : b < 256) : a <<< 8 ||| b = a * 256 + b := by
  replace hb : b < 2 ^ 8 := hb
  apply Nat.eq_of_testBit_eq
  intro j
  rw [Nat.testBit_or, Nat.testBit_shiftLeft, show a * 256 + b = 2 ^ 8 * a + b by omega,
    Nat.testBit_mul_pow_two_add a hb]
  by_cases hj : j < 8
  · simp [hj]
  · have : b.testBit j = false := testBit_eq_false_of_lt_two_pow hb (by omega)
    simp [hj, this]
    omega

/-- `(x << 8) | y` on two bytes, as a number. -/
theorem toNat_toUInt16_shiftLeft_or (x y : UInt8) :
    ((x.toUInt16 <<< 8) ||| y.toUInt16).toNat = x.toNat * 256 + y.toNat := by
  rw [toUInt16_shiftLeft_or]
  exact shiftLeft_eight_or _ _ y.toBitVec.isLt

theorem crc16Step_injective {c c' : UInt8 × UInt8} (b : UInt8)
    (h : crc16Step c b = crc16Step c' b) : c = c' := by
  simp only [crc16Step, Prod.mk.injEq] at h
  have h1 : c.1 = c'.1 := xor_right_cancel (tableCrcLo_injective h.2)
  rw [h1] at h
  exact Prod.ext h1 (xor_right_cancel h.1)

/-- The state before a common run of bytes is determined by the state after it. -/
theorem foldl_crc16Step_injective (B : List UInt8) {c c' : UInt8 × UInt8}
    (h : B.foldl crc16Step c = B.foldl crc16Step c') : c = c' := by
  induction B generalizing c c' with
  | nil => exact h
  | cons b B ih => exact crc16Step_injective b (ih h)

/-- Two consecutive bytes are determined by the state after them. -/
theorem crc16Step_two_injective (c : UInt8 × UInt8) {u v u' v' : UInt8}
    (h : crc16Step (crc16Step c u) v = crc16Step (crc16Step c u') v') : u = u' ∧ v = v' := by
  simp only [crc16Step, Prod.mk.injEq] at h
  obtain ⟨h1, h2⟩ := h
  have hidx := tableCrcLo_injective h2
  rw [hidx] at h1
  have hu : u = u' := xor_left_cancel (tableCrcLo_injective (xor_right_cancel h1))
  subst hu
  exact ⟨rfl, xor_left_cancel hidx⟩

/-- The loop ends two bytes later at `(0, 0)` exactly when those bytes are
`crc_hi`, `crc_lo`. -/
theorem crc16Step_two_eq_zero_iff (c : UInt8 × UInt8) (a b : UInt8) :
    crc16Step (crc16Step c a) b = (0, 0) ↔ a = c.1 ∧ b = c.2 := by
  have hc : crc16Step (crc16Step c c.1) c.2 = (0, 0) := by
    simp only [crc16Step, xor_self, UInt8.toNat_zero, tableCrcHi_zero, tableCrcLo_zero, xor_zero]
  constructor
  · intro h
    exact crc16Step_two_injective c (h.trans hc.symm)
  · rintro ⟨rfl, rfl⟩
    exact hc

theorem checkCrc16_rtu_append_eq_zero_iff (p : List UInt8) (a b : UInt8) :
    checkCrc16 .rtu (p ++ [a, b]) = 0 ↔ (p ++ [a, b]).foldl crc16Step (0xFF, 0xFF) = (0, 0) := by
  rw [List.foldl_append, List.foldl_cons, List.foldl_cons, List.foldl_nil,
    crc16Step_two_eq_zero_iff]
  have hlen : (p ++ [a, b]).length - 2 = p.length := by simp
  have hlen1 : (p ++ [a, b]).length - 1 = p.length + 1 := by simp
  have ha : (p ++ [a, b]).getD p.length 0 = a := by
    simp [List.getD_append_right, List.getElem_append_right]
  have hb : (p ++ [a, b]).getD (p.length + 1) 0 = b := by
    simp [List.getD_append_right, List.getElem_append_right, Nat.add_sub_cancel_left]
  simp only [checkCrc16, hlen, hlen1, ha, hb, List.take_left', crc16]
  generalize List.foldl crc16Step (255, 255) p = c
  have hne : invalidCrc ≠ 0 := by decide
  by_cases hEq : (c.1.toUInt16 <<< 8 ||| c.2.toUInt16) = (a.toUInt16 <<< 8 ||| b.toUInt16)
  · have h := congrArg UInt16.toNat hEq
    rw [toNat_toUInt16_shiftLeft_or, toNat_toUInt16_shiftLeft_or] at h
    have : c.2.toNat < 256 := c.2.toBitVec.isLt
    have : b.toNat < 256 := b.toBitVec.isLt
    simp only [hEq, if_true, true_iff]
    exact ⟨UInt8.toNat.inj (by omega), UInt8.toNat.inj (by omega)⟩
  · simp only [hEq, if_false, hne, false_iff]
    rintro ⟨rfl, rfl⟩
    exact hEq rfl

private theorem exists_append_pair {f : List UInt8} (h : 2 ≤ f.length) :
    ∃ p a b, f = p ++ [a, b] := by
  rcases List.eq_nil_or_concat f with rfl | ⟨q, b, rfl⟩
  · simp at h
  rcases List.eq_nil_or_concat q with rfl | ⟨p, a, rfl⟩
  · simp at h
  exact ⟨p, a, b, by simp⟩

/-- **What `check_crc16` accepts**: an RTU frame passes exactly when the loop
run over the whole frame, trailer included, ends at `(0, 0)`. -/
theorem checkCrc16_rtu_eq_zero_iff {f : List UInt8} (h : 2 ≤ f.length) :
    checkCrc16 .rtu f = 0 ↔ f.foldl crc16Step (0xFF, 0xFF) = (0, 0) := by
  obtain ⟨p, a, b, rfl⟩ := exists_append_pair h
  exact checkCrc16_rtu_append_eq_zero_iff p a b

/-- `check_crc16` returns `0` or `INVALID_CRC`. -/
theorem checkCrc16_eq_zero_or (mbParam : TypeCom) (msg : List UInt8) :
    checkCrc16 mbParam msg = 0 ∨ checkCrc16 mbParam msg = invalidCrc := by
  cases mbParam with
  | tcp => exact .inl rfl
  | rtu => simp only [checkCrc16]; split <;> simp

/-- In RTU a frame of two bytes is its own trailer over nothing: it passes
only as `FF FF`, the CRC of no bytes. -/
theorem checkCrc16_rtu_pair (a b : UInt8) (hb : b.toNat ≠ 0xFF) :
    checkCrc16 .rtu [a, b] = invalidCrc := by
  have hne : crc16 [] ≠ (a.toUInt16 <<< 8) ||| b.toUInt16 := fun h => by
    have h' := congrArg UInt16.toNat h
    rw [toNat_toUInt16_shiftLeft_or, show (crc16 []).toNat = 65535 from rfl] at h'
    have : b.toNat < 256 := b.toBitVec.isLt
    omega
  exact if_neg hne

/-! ## Bursts of up to 16 bits -/

theorem crcShifts_add (m n : Nat) (x : BitVec 16) : crcShifts (m + n) x = crcShifts n (crcShifts m x) := by
  induction m generalizing x with
  | zero => rw [Nat.zero_add]; rfl
  | succ m ih => rw [Nat.succ_add]; exact ih (crcShift x)

theorem crcShift_eq_zero {x : BitVec 16} (h : crcShift x = 0#16) : x = 0#16 := by
  unfold crcShift at h
  split at h
  · -- `0xA001` sets bit 15, which the shift leaves clear
    have h15 := congrArg (fun y => y.getLsbD 15) h
    simp only [BitVec.getLsbD_xor, BitVec.getLsbD_ushiftRight, BitVec.getLsbD_zero,
      BitVec.getLsbD_ge x 16 (Nat.le_refl _)] at h15
    exact absurd h15 (by decide)
  · rename_i h0
    apply BitVec.eq_of_getLsbD_eq
    intro ⟨i, hi⟩
    cases i with
    | zero => simpa using h0
    | succ i =>
      have := congrArg (fun y => y.getLsbD i) h
      simpa [BitVec.getLsbD_ushiftRight, Nat.add_comm] using this

theorem crcShifts_eq_zero (n : Nat) {x : BitVec 16} (h : crcShifts n x = 0#16) : x = 0#16 := by
  induction n generalizing x with
  | zero => exact h
  | succ n ih => exact crcShift_eq_zero (ih h)

theorem crcRegByte_xor (r r' : BitVec 16) (b b' : UInt8) :
    crcRegByte (r ^^^ r') (b ^^^ b') = crcRegByte r b ^^^ crcRegByte r' b' := by
  have hz : 0#8 ++ (b ^^^ b').toBitVec = (0#8 ++ b.toBitVec) ^^^ (0#8 ++ b'.toBitVec) := by
    rw [BitVec.xor_append, BitVec.xor_self]; rfl
  simp only [crcRegByte, ← crcShifts_xor, hz]
  congr 1
  ac_rfl


/-- A byte in the low half of the register. -/
theorem getLsbD_zero_append (x : BitVec 8) (i : Nat) : (0#8 ++ x).getLsbD i = (decide (i < 8) && x.getLsbD i) := by
  rw [BitVec.getLsbD_append]
  by_cases h : i < 8 <;> simp [h]

/-- `k` steps undo a shift left by `k` of a register whose top `k` bits are clear. -/
theorem crcShifts_shiftLeft (k : Nat) (x : BitVec 16) (hx : ∀ i, 16 - k ≤ i → x.getLsbD i = false) :
    crcShifts k (x <<< k) = x := by
  rw [crcShifts_of_low_zero k _ (fun i hi => by simp [BitVec.getLsbD_shiftLeft, hi])]
  apply BitVec.eq_of_getLsbD_eq
  intro ⟨i, hi⟩
  simp only [BitVec.getLsbD_ushiftRight, BitVec.getLsbD_shiftLeft, Nat.add_sub_cancel_left]
  by_cases h : k + i < 16
  · simp [h]
  · simp [h, hx i (by omega)]

/-- Three bytes as the 16 bits the line carries from bit `k` of the first:
the first's bits from `k` on, then the second's, then the third's below `k`. -/
def lineWindow (k : Nat) (du dv dw : UInt8) : BitVec 16 :=
  (0#8 ++ du.toBitVec) >>> k ^^^ (0#8 ++ dv.toBitVec) <<< (8 - k) ^^^ (0#8 ++ dw.toBitVec) <<< (16 - k)

section Window

variable {k : Nat} (hk : k < 8) {du dv dw : UInt8} (hu : ∀ i < k, du.toBitVec.getLsbD i = false)
  (hw : ∀ i, k ≤ i → dw.toBitVec.getLsbD i = false)
include hk hu hw

/-- From the cleared register, three bytes whose first has its bits below `k`
clear and whose last has its bits from `k` on clear leave the register the
window of the line, shifted `24 - k` times. -/
theorem crcRegByte_three_lineWindow :
    crcRegByte (crcRegByte (crcRegByte 0#16 du) dv) dw = crcShifts (24 - k) (lineWindow k du dv dw) := by
  have hX : crcShifts 24 (0#8 ++ du.toBitVec) = crcShifts (24 - k) ((0#8 ++ du.toBitVec) >>> k) := by
    have e := crcShifts_add k (24 - k) (0#8 ++ du.toBitVec)
    rw [Nat.add_sub_cancel' (by omega)] at e
    rw [e, crcShifts_of_low_zero k _ (fun i hi => by
      simp only [getLsbD_zero_append, hu i hi, Bool.and_false])]
  have hY : crcShifts 16 (0#8 ++ dv.toBitVec) = crcShifts (24 - k) ((0#8 ++ dv.toBitVec) <<< (8 - k)) := by
    have e := crcShifts_add (8 - k) 16 ((0#8 ++ dv.toBitVec) <<< (8 - k))
    rw [show 8 - k + 16 = 24 - k by omega] at e
    rw [e, crcShifts_shiftLeft (8 - k) _ (fun i hi => by
      simp only [getLsbD_zero_append, show ¬i < 8 by omega, decide_False, Bool.false_and])]
  have hZ : crcShifts 8 (0#8 ++ dw.toBitVec) = crcShifts (24 - k) ((0#8 ++ dw.toBitVec) <<< (16 - k)) := by
    have e := crcShifts_add (16 - k) 8 ((0#8 ++ dw.toBitVec) <<< (16 - k))
    rw [show 16 - k + 8 = 24 - k by omega] at e
    rw [e, crcShifts_shiftLeft (16 - k) _ (fun i hi => by
      simp only [getLsbD_zero_append, hw i (by omega), Bool.and_false])]
  simp only [crcRegByte, BitVec.zero_xor, crcShifts_xor, ← crcShifts_add, Nat.reduceAdd, hX, hY, hZ, lineWindow]

/-- A clear window is three zero bytes: each of its bits is one bit of one
of them. -/
theorem lineWindow_eq_zero (h : lineWindow k du dv dw = 0#16) : du = 0 ∧ dv = 0 ∧ dw = 0 := by
  have bit : ∀ j, (lineWindow k du dv dw).getLsbD j = false := fun j => by rw [h, BitVec.getLsbD_zero]
  have zero : ∀ j, (0 : UInt8).toBitVec.getLsbD j = false := fun j => BitVec.getLsbD_zero
  refine ⟨?_, ?_, ?_⟩ <;> refine UInt8.eq_of_toBitVec_eq (BitVec.eq_of_getLsbD_eq fun ⟨i, hi⟩ => ?_) <;>
    rw [zero]
  · by_cases hik : i < k
    · exact hu i hik
    have hb := bit (i - k)
    simp only [lineWindow, BitVec.getLsbD_xor, BitVec.getLsbD_ushiftRight, BitVec.getLsbD_shiftLeft,
      getLsbD_zero_append, Nat.add_sub_cancel' (Nat.le_of_not_lt hik), hi, show i - k < 8 - k by omega,
      show i - k < 16 - k by omega] at hb
    simpa using hb
  · have hb := bit (i + 8 - k)
    simp only [lineWindow, BitVec.getLsbD_xor, BitVec.getLsbD_ushiftRight, BitVec.getLsbD_shiftLeft,
      getLsbD_zero_append, show k + (i + 8 - k) = i + 8 by omega, show i + 8 - k - (8 - k) = i by omega,
      show ¬i + 8 - k < 8 - k by omega, show i + 8 - k < 16 - k by omega, show ¬i + 8 < 8 by omega,
      show i + 8 - k < 16 by omega, hi] at hb
    simpa using hb
  · by_cases hik : k ≤ i
    · exact hw i hik
    have hb := bit (i + 16 - k)
    simp only [lineWindow, BitVec.getLsbD_xor, BitVec.getLsbD_ushiftRight, BitVec.getLsbD_shiftLeft,
      getLsbD_zero_append, show k + (i + 16 - k) = i + 16 by omega, show i + 16 - k - (8 - k) = i + 8 by omega,
      show i + 16 - k - (16 - k) = i by omega, show ¬i + 16 - k < 16 - k by omega,
      show i + 16 - k < 16 by omega, show ¬i + 16 < 8 by omega, show ¬i + 8 < 8 by omega, hi] at hb
    simpa using hb

/-- **Three bytes in a 16-bit window.** From the cleared register, three
such bytes leave the register clear only when all three are 0. -/
theorem crcRegByte_three_eq_zero (h : crcRegByte (crcRegByte (crcRegByte 0#16 du) dv) dw = 0#16) :
    du = 0 ∧ dv = 0 ∧ dw = 0 :=
  lineWindow_eq_zero hk hu hw (crcShifts_eq_zero (24 - k) (crcRegByte_three_lineWindow hk hu hw ▸ h))

end Window

/-- **Three bytes determined in a 16-bit window.** From one state, three
bytes that agree with three others below bit `k` of the first and from bit
`k` on of the last, and leave the same state, are those three. -/
theorem crc16Step_three_injective (c : UInt8 × UInt8) {k : Nat} (hk : k < 8) {u v w u' v' w' : UInt8}
    (hu : ∀ i < k, u.toBitVec.getLsbD i = u'.toBitVec.getLsbD i)
    (hw : ∀ i, k ≤ i → w.toBitVec.getLsbD i = w'.toBitVec.getLsbD i)
    (h : crc16Step (crc16Step (crc16Step c u) v) w = crc16Step (crc16Step (crc16Step c u') v') w') :
    u = u' ∧ v = v' ∧ w = w' := by
  have h3 : ∀ a b d, crcRegByte (crcRegByte (crcRegByte (c.2.toBitVec ++ c.1.toBitVec) a) b) d =
      (crc16Step (crc16Step (crc16Step c a) b) d).2.toBitVec ++
        (crc16Step (crc16Step (crc16Step c a) b) d).1.toBitVec := fun a b d => foldl_crcRegByte [a, b, d] c
  -- the differences of the bytes take the cleared register back to itself
  have h0 : crcRegByte (crcRegByte (crcRegByte ((c.2.toBitVec ++ c.1.toBitVec) ^^^
      (c.2.toBitVec ++ c.1.toBitVec)) (u ^^^ u')) (v ^^^ v')) (w ^^^ w') = 0#16 := by
    rw [crcRegByte_xor, crcRegByte_xor, crcRegByte_xor, h3, h3, h, BitVec.xor_self]
  rw [BitVec.xor_self] at h0
  have hx : ∀ a b : UInt8, ∀ i, a.toBitVec.getLsbD i = b.toBitVec.getLsbD i → (a ^^^ b).toBitVec.getLsbD i = false :=
    fun a b i hab => by
      rw [show (a ^^^ b).toBitVec = a.toBitVec ^^^ b.toBitVec from rfl, BitVec.getLsbD_xor, hab, Bool.xor_self]
  obtain ⟨hu', hv', hw'⟩ := crcRegByte_three_eq_zero hk (fun i hi => hx u u' i (hu i hi))
    (fun i hi => hx w w' i (hw i hi)) h0
  exact ⟨eq_of_xor_eq_zero hu', eq_of_xor_eq_zero hv', eq_of_xor_eq_zero hw'⟩

end Modbus
