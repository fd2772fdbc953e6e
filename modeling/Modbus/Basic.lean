import Mathlib.Data.List.GetD
import Mathlib.Data.Nat.Defs
import Mathlib.Algebra.Group.Nat.Basic

/-!
# Modbus — constants, transports and return codes

The part of `modbus.h` that `modbus.c` reads. The header is not in the
repository, so each constant below is modelled from the spec; where the spec
is silent the value is the one the code itself fixes (the byte layouts that
`build_query_packet_*` and `build_response_packet_*` write).

A handle (`modbus_param_t`) reaches the modelled code only through its
transport `type_com` and the two lengths `modbus_init_rtu`/`modbus_init_tcp`
derive from it, so the model's handle is a `TypeCom`; the descriptor and the
debug flag change no byte and no return value modelled here, and the
error-handling mode only what `error_treat` does, which a session of master
and server takes as a parameter.

C's `int` arguments are `Int`; a conversion to `uint8_t`/`uint16_t` keeps the
value modulo `2^8`/`2^16` (`toU8`, `toU16`), and a byte of a buffer read as
an `int` is its `toNat`.
-/

namespace Modbus

/-! ## Constants of `modbus.h` -/

/-- Modelled from the spec: `MAX_PACKET_SIZE = 260` (§6). -/
def maxPacketSize : Nat := 260

/-- Modelled from the spec: `HEADER_LENGTH_RTU = 0` (§6). -/
def headerLengthRtu : Nat := 0

/-- Modelled from the spec: `CHECKSUM_SIZE_RTU = 2` (§6). -/
def checksumSizeRtu : Nat := 2

/-- Modelled from the spec: `HEADER_LENGTH_TCP = 6` (§6). -/
def headerLengthTcp : Nat := 6

/-- Modelled from the spec: `CHECKSUM_SIZE_TCP = 0` (§6). -/
def checksumSizeTcp : Nat := 0

/-- Modelled from the spec: the RTU request header is six bytes (§4.2), so
`PRESET_QUERY_SIZE_RTU = 6`. -/
def presetQuerySizeRtu : Nat := 6

/-- Modelled from the spec: the MBAP request header is twelve bytes (§4.2), so
`PRESET_QUERY_SIZE_TCP = 12`. -/
def presetQuerySizeTcp : Nat := 12

/-- Modelled from the spec: a read response is unit, function and byte count
before its data (§4.3), which `build_response_packet_rtu` writes at
`packet[0..2]` and returns as `PRESET_RESPONSE_SIZE_RTU + 1`. -/
def presetResponseSizeRtu : Nat := 2

/-- Modelled from the spec: as `presetResponseSizeRtu`, after the six MBAP
bytes; `build_response_packet_tcp` writes up to `packet[8]`. -/
def presetResponseSizeTcp : Nat := 8

/-- Modelled from the spec: the holding-register read cap of §4.5. -/
def maxReadHoldRegs : Int := 125

/-- Modelled from the spec: the input-register read cap of §4.5. -/
def maxReadInputRegs : Int := 125

/-- Modelled from the spec: the write-multiple-registers cap of §4.5. -/
def maxWriteRegs : Int := 123

/-- Modelled from the spec: the write-multiple-coils cap of §4.5. -/
def maxWriteCoils : Int := 1968

/-- `ON`, the value of a set coil. -/
def ON : UInt8 := 1

/-- `OFF`, the value of a cleared coil. -/
def OFF : UInt8 := 0

/-- `TRUE`, what `read_io_status` stores for a set bit: C's truth value 1. -/
def TRUE : UInt8 := 1

/-- `FALSE`, what `read_io_status` stores for a clear bit: C's truth value 0. -/
def FALSE : UInt8 := 0

/-! ## Function codes (spec §4.3; `FC_REPORT_SLAVE_ID` is Modbus's `0x11`) -/

def fcReadCoilStatus : Nat := 0x01
def fcReadInputStatus : Nat := 0x02
def fcReadHoldingRegisters : Nat := 0x03
def fcReadInputRegisters : Nat := 0x04
def fcForceSingleCoil : Nat := 0x05
def fcPresetSingleRegister : Nat := 0x06
def fcReadExceptionStatus : Nat := 0x07
def fcForceMultipleCoils : Nat := 0x0F
def fcPresetMultipleRegisters : Nat := 0x10
def fcReportSlaveId : Nat := 0x11

/-! ## Return codes

Modelled from the spec (§6): the library's errors are distinct negative
integers, disjoint from the negated Modbus exception codes `-1 .. -11`. -/

def commTimeOut : Int := -0x0C
def portSocketFailure : Int := -0x0D
def selectFailure : Int := -0x0E
def tooManyDatas : Int := -0x0F
def invalidCrc : Int := -0x10
def invalidExceptionCode : Int := -0x11
def connectionClosed : Int := -0x12

/-- `NB_TAB_ERROR_MSG`: exception codes below it have a message in
`TAB_ERROR_MSG` and are returned negated. -/
def nbTabErrorMsg : Nat := 12

/-! ## Transports -/

/-- `type_com`: the serial framing or the TCP (MBAP) framing. -/
inductive TypeCom
  | rtu
  | tcp
  deriving DecidableEq, Repr

/-- `mb_param->header_length` as `modbus_init_rtu`/`modbus_init_tcp` set it. -/
def TypeCom.headerLength : TypeCom → Nat
  | .rtu => headerLengthRtu
  | .tcp => headerLengthTcp

/-- `mb_param->checksum_size` as `modbus_init_rtu`/`modbus_init_tcp` set it. -/
def TypeCom.checksumSize : TypeCom → Nat
  | .rtu => checksumSizeRtu
  | .tcp => checksumSizeTcp

@[simp] theorem headerLength_rtu : TypeCom.rtu.headerLength = 0 := rfl
@[simp] theorem headerLength_tcp : TypeCom.tcp.headerLength = 6 := rfl
@[simp] theorem checksumSize_rtu : TypeCom.rtu.checksumSize = 2 := rfl
@[simp] theorem checksumSize_tcp : TypeCom.tcp.checksumSize = 0 := rfl

/-- Header and trailer together take at most six bytes. -/
theorem headerLength_add_checksumSize_le (mbParam : TypeCom) :
    mbParam.headerLength + mbParam.checksumSize ≤ 6 := by
  cases mbParam <;> decide

/-! ## C conversions and buffer reads -/

/-- An `int` stored into a `uint8_t`: its value modulo `2^8`. -/
def toU8 (x : Int) : UInt8 := UInt8.ofNat (x % 256).toNat

/-- An `int` stored into a `uint16_t`: its value modulo `2^16`. -/
def toU16 (x : Int) : UInt16 := UInt16.ofNat (x % 65536).toNat

/-- `buf[i]` read as an `int`. -/
def byteAt (buf : List UInt8) (i : Nat) : Nat := (buf.getD i 0).toNat

/-- The big-endian field `(buf[i] << 8) + buf[i + 1]`. -/
def wordAt (buf : List UInt8) (i : Nat) : Nat := byteAt buf i * 256 + byteAt buf (i + 1)

/-- `buf[0 .. n)` of a buffer whose every byte is given. -/
def prefixOf (buf : Nat → UInt8) (n : Nat) : List UInt8 :=
  (List.range n).map buf

/-- The two bytes `x >> 8`, `x & 0x00ff` that the builders write for a
16-bit field. -/
def splitWord (x : UInt16) : List UInt8 := [(x >>> 8).toUInt8, (x &&& 0xFF).toUInt8]

theorem byteAt_lt (buf : List UInt8) (i : Nat) : byteAt buf i < 256 :=
  (buf.getD i 0).toBitVec.isLt

theorem toU8_toNat (x : Int) : (toU8 x).toNat = (x % 256).toNat := by
  have h0 : 0 ≤ x % 256 := Int.emod_nonneg x (by decide)
  have h1 : x % 256 < 256 := Int.emod_lt_of_pos x (by decide)
  show (x % 256).toNat % 256 = _
  omega

theorem toU16_toNat (x : Int) : (toU16 x).toNat = (x % 65536).toNat := by
  have h0 : 0 ≤ x % 65536 := Int.emod_nonneg x (by decide)
  have h1 : x % 65536 < 65536 := Int.emod_lt_of_pos x (by decide)
  show (x % 65536).toNat % 65536 = _
  omega

theorem toU8_natCast_toNat (n : Nat) : (toU8 (n : Int)).toNat = n % 256 := by
  rw [toU8_toNat]; omega

/-- A `uint16_t` widened to `int` and stored back is unchanged. -/
theorem toU16_toNat_cast (x : UInt16) : toU16 (x.toNat : Int) = x := by
  apply UInt16.toNat.inj
  rw [toU16_toNat]
  have : x.toNat < 65536 := x.toNat_lt_size
  omega

@[simp] theorem toNat_shiftRight_eight_toUInt8 (x : UInt16) :
    (x >>> 8).toUInt8.toNat = x.toNat / 256 := by
  show (x.toBitVec >>> (8#16 % 16#16)).toNat % 256 = x.toBitVec.toNat / 256
  rw [BitVec.ushiftRight_eq', BitVec.toNat_ushiftRight, Nat.shiftRight_eq_div_pow,
    show (8#16 % 16#16).toNat = 8 from rfl]
  have := x.toBitVec.isLt
  omega

@[simp] theorem toNat_and_ff_toUInt8 (x : UInt16) :
    (x &&& 0xFF).toUInt8.toNat = x.toNat % 256 := by
  show (x.toBitVec &&& 255#16).toNat % 256 = x.toBitVec.toNat % 256
  rw [BitVec.toNat_and, BitVec.toNat_ofNat, show (255 % 2 ^ 16 : Nat) = 2 ^ 8 - 1 from rfl,
    Nat.and_pow_two_sub_one_eq_mod]
  omega

/-- A byte written after `pre` is read back at `pre.length`. -/
@[simp] theorem byteAt_append_cons (pre post : List UInt8) (b : UInt8) :
    byteAt (pre ++ b :: post) pre.length = b.toNat := by
  simp [byteAt, List.getD_append_right, List.getElem_append_right]

/-- The byte at `pre.length + i` of `pre ++ post` is `post`'s byte `i`. -/
theorem getD_append_length (pre post : List UInt8) (i : Nat) (d : UInt8) :
    (pre ++ post).getD (pre.length + i) d = post.getD i d := by
  rw [List.getD_append_right _ _ _ _ (Nat.le_add_right _ _), Nat.add_sub_cancel_left]

theorem enum_map_range {α : Type} (n : Nat) (f : Nat → α) :
    ((List.range n).map f).enum = (List.range n).map fun i => (i, f i) := by
  apply List.ext_getElem (by simp)
  intro i h₁ h₂
  simp [List.getElem_enum]

theorem map_getD_range {α : Type} (l : List α) (d : α) :
    (List.range l.length).map (fun j => l.getD j d) = l := by
  apply List.ext_getElem (by simp)
  intro i h₁ h₂
  simp [List.getD_eq_getElem?_getD, List.getElem?_eq_getElem h₂]

/-- A 16-bit field written by `splitWord` is read back by `wordAt`. -/
theorem wordAt_splitWord (pre post : List UInt8) (x : UInt16) :
    wordAt (pre ++ splitWord x ++ post) pre.length = x.toNat := by
  have hsplit : pre ++ splitWord x ++ post =
      pre ++ (x >>> 8).toUInt8 :: ((x &&& 0xFF).toUInt8 :: post) := by
    simp [splitWord]
  have h0 : byteAt (pre ++ splitWord x ++ post) pre.length = x.toNat / 256 := by
    rw [hsplit, byteAt_append_cons, toNat_shiftRight_eight_toUInt8]
  have h1 : byteAt (pre ++ splitWord x ++ post) (pre.length + 1) = x.toNat % 256 := by
    have := byteAt_append_cons (pre ++ [(x >>> 8).toUInt8]) post (x &&& 0xFF).toUInt8
    rw [List.length_append, List.length_singleton, List.append_assoc, List.singleton_append,
      toNat_and_ff_toUInt8] at this
    rw [hsplit, this]
  rw [wordAt, h0, h1]
  omega

/-! ## Bits of a byte -/

/-- A number below `2 ^ n` has no bit at `n` or above. -/
theorem testBit_eq_false_of_lt_two_pow {x n : Nat} (hx : x < 2 ^ n) {t : Nat} (ht : n ≤ t) :
    x.testBit t = false :=
  Nat.testBit_lt_two_pow (Nat.lt_of_lt_of_le hx (Nat.pow_le_pow_right (by decide) ht))

theorem toNat_shiftLeft_toUInt8 (t : UInt8) {s : Nat} (hs : s < 8) :
    (t <<< s.toUInt8).toNat = t.toNat * 2 ^ s % 256 := by
  show (t.toBitVec <<< (s.toUInt8 % 8).toBitVec).toNat = _
  rw [BitVec.shiftLeft_eq', BitVec.toNat_shiftLeft, Nat.shiftLeft_eq]
  have : (s.toUInt8 % 8).toBitVec.toNat = s := by
    show s % 256 % 8 = s
    omega
  rw [this]
  rfl

/-- The mask `1 << j` of bit `j`. -/
theorem toNat_one_shiftLeft_toUInt8 {j : Nat} (hj : j < 8) : (1 <<< j.toUInt8 : UInt8).toNat = 2 ^ j := by
  rw [toNat_shiftLeft_toUInt8 1 hj, Nat.mod_eq_of_lt]
  · exact Nat.one_mul _
  · show 1 * 2 ^ j < 256
    have : 2 ^ j ≤ 2 ^ 7 := Nat.pow_le_pow_right (by decide) (by omega)
    omega

/-- `x & (1 << j)` is nonzero exactly when bit `j` of `x` is set. -/
theorem and_shiftLeft_one_ne_zero (x : UInt8) {j : Nat} (hj : j < 8) :
    x &&& (1 <<< j.toUInt8) ≠ 0 ↔ x.toNat.testBit j = true := by
  have hm := toNat_one_shiftLeft_toUInt8 hj
  constructor
  · intro h
    have h' : (x &&& (1 <<< j.toUInt8)).toNat ≠ 0 := fun h0 => h (UInt8.toNat.inj h0)
    rw [UInt8.and_toNat, hm] at h'
    obtain ⟨i, hi⟩ := Nat.ne_zero_implies_bit_true h'
    rw [Nat.testBit_and, Nat.testBit_two_pow] at hi
    simp only [Bool.and_eq_true, decide_eq_true_eq] at hi
    exact hi.2 ▸ hi.1
  · intro h h0
    have h' := congrArg UInt8.toNat h0
    rw [UInt8.and_toNat, hm] at h'
    have := congrArg (Nat.testBit · j) h'
    simp only [Nat.testBit_and, Nat.testBit_two_pow_self, h, Bool.and_self] at this
    exact absurd this (by simp)

/-- Bit `g` of `b | (t << s)`, for a truth value `t` and `s < 8`. -/
theorem testBit_or_shiftLeft (b t : UInt8) (ht : t.toNat ≤ 1) {s : Nat} (hs : s < 8) (g : Nat) :
    (b ||| (t <<< s.toUInt8)).toNat.testBit g =
      (b.toNat.testBit g || (decide (g = s) && decide (t.toNat = 1))) := by
  have hor : (b ||| (t <<< s.toUInt8)).toNat = b.toNat ||| (t <<< s.toUInt8).toNat :=
    BitVec.toNat_or _ _
  rw [hor, Nat.testBit_or, toNat_shiftLeft_toUInt8 t hs]
  congr 1
  have h2 : 2 ^ s ≤ 2 ^ 7 := Nat.pow_le_pow_right (by decide) (by omega)
  rcases Nat.le_one_iff_eq_zero_or_eq_one.mp ht with h | h
  · rw [h]; simp [h]
  · rw [h, Nat.one_mul, Nat.mod_eq_of_lt (by omega), Nat.testBit_two_pow]
    simp [eq_comm]

/-- Bit `g` of `b & ~(1 << s)`: bit `s` cleared, every other bit of `b` kept. -/
theorem testBit_and_not_shiftLeft (b : UInt8) {s : Nat} (hs : s < 8) (g : Nat) :
    (b &&& ~~~(1 <<< s.toUInt8)).toNat.testBit g = (b.toNat.testBit g && !decide (g = s)) := by
  have hy : (1 <<< s.toUInt8 : UInt8).toBitVec.getLsbD g = decide (g = s) := by
    rw [← BitVec.testBit_toNat, show (1 <<< s.toUInt8 : UInt8).toBitVec.toNat = 2 ^ s from
      toNat_one_shiftLeft_toUInt8 hs, Nat.testBit_two_pow]
    simp [eq_comm]
  show (b.toBitVec &&& ~~~(1 <<< s.toUInt8).toBitVec).toNat.testBit g = (b.toBitVec.toNat.testBit g && _)
  rw [BitVec.testBit_toNat, BitVec.testBit_toNat, BitVec.getLsbD_and, BitVec.getLsbD_not, hy]
  by_cases hg : g < 8
  · simp [hg]
  · simp [hg, BitVec.getLsbD_ge _ _ (by omega : 8 ≤ g)]

theorem toNat_or_shiftLeft_lt (b t : UInt8) (ht : t.toNat ≤ 1) {s : Nat} (hs : s < 8)
    (hb : b.toNat < 2 ^ s) : (b ||| (t <<< s.toUInt8)).toNat < 2 ^ (s + 1) := by
  apply Nat.lt_pow_two_of_testBit
  intro g hg
  rw [testBit_or_shiftLeft b t ht hs, testBit_eq_false_of_lt_two_pow hb (by omega)]
  simp; omega

end Modbus
