import Modbus.Receive

/-!
# Modbus — the master operations

`modbus_check_response` and the public master calls over it: the four reads,
the four writes and `report_slave_id`. Each call builds its request with
`build_query_packet`, transmits it with `modbus_send`, reads the reply with
`receive_msg` at the length `compute_response_size` predicts, and decodes it.

Two locals are read before they are written on some paths: the `response_size`
of `modbus_check_response`, when the first wait times out, and the caller's
`response[MAX_PACKET_SIZE]`, past the bytes received. Their initial contents are
explicit inputs of the model (`MasterEnv`), so a result that depends on them
shows as such and is not assumed away. `modbus_send` is taken to write the
whole frame, so `query_ret > 0` always holds.

## Results

* `modbusCheckResponse_accepts` — once a byte of the reply has arrived, a
  non-negative return means the bytes received are a frame of exactly
  `compute_response_size(q)` bytes, or a frame of
  `header_length + 3 + checksum_size` bytes cut off by a timeout, and
  `check_crc16` accepts them; a negated exception code `-k` means the latter,
  with `0x80 + q`'s function code and `k` in place.
* `readHoldingRegisters_other_unit` — nothing else of the reply is compared
  with the request: a reply from another unit is accepted.
* `readIoStatus_frame`, `readRegResponse_frame` — on a complete frame that
  passes the check, the reads return the byte count (halved for registers)
  and decode the data bytes after the header.
* `computeResponseSize_exceeds_maxPacketSize` — the bit reads with a count
  above 2040 and the register reads with a negative count predict a reply
  longer than `MAX_PACKET_SIZE`.
* `masterOperations_exception` — every operation returns `-k` on the exception
  frame for its request when the predicted reply is longer than that frame;
  `readStatus_exception_count_zero` — with count 0 it is not, and the frame is
  decoded as data.
* `readStatus_within_count` — the bit reads write `data_dest` only below the
  count and return a negative code, 0 or the count.
* `readHoldingRegisters_byte_count_overrun` — the register reads write as many
  entries as the reply's byte count announces: a reply of the predicted length
  that announces one register more makes the call write past the count.
* `readHoldingRegisters_stale_response_size` — when no byte arrives, the
  return value depends on the uninitialised `response_size`.
-/

namespace Modbus

/-! ## The master's environment -/

/-- What a master call does not choose: the reply and how it is split into
reads, and the initial contents of the uninitialised `response_size` of
`modbus_check_response` and of the caller's `response` buffer. -/
structure MasterEnv where
  peer : Peer
  chunks : List Nat
  responseSize : Int
  response : Nat → UInt8

/-- One call of a master operation: the frame `modbus_send` transmits, the
return value, the writes to `data_dest` in order (index and value), and the
counter of `build_query_packet_tcp` afterwards. -/
structure MasterCall (α : Type) where
  sent : List UInt8
  ret : Int
  dest : List (Nat × α)
  tId : UInt16

/-- `response[i]` after `receive_msg` stored `msg` from `response[0]` on. -/
def overlay (msg : List UInt8) (stale : Nat → UInt8) (i : Nat) : UInt8 :=
  msg.getD i (stale i)

/-- The bytes `receive_msg` stored are what the buffer holds up to their count. -/
theorem prefixOf_overlay (msg : List UInt8) (stale : Nat → UInt8) :
    prefixOf (overlay msg stale) msg.length = msg := by
  apply List.ext_getElem (by simp [prefixOf])
  intro i h _
  simp [prefixOf, overlay, List.getD_eq_getElem?_getD, List.getElem?_eq_getElem (by simpa [prefixOf] using h)]

theorem overlay_lt {msg : List UInt8} (stale : Nat → UInt8) {i : Nat} (h : i < msg.length) :
    (overlay msg stale i).toNat = byteAt msg i := by
  simp [overlay, byteAt, List.getD_eq_getElem?_getD, List.getElem?_eq_getElem h]

theorem overlay_of_lt {msg : List UInt8} (stale : Nat → UInt8) {i : Nat} (h : i < msg.length) :
    overlay msg stale i = msg.getD i 0 := by
  simp [overlay, List.getD_eq_getElem?_getD, List.getElem?_eq_getElem h]

/-! ## `modbus_check_response` -/

/-- The `switch (response[offset + 1])` of `modbus_check_response` on a good
response: the value it returns. -/
def responseValue (mbParam : TypeCom) (response : Nat → UInt8) (responseSize : Int) : Int :=
  let offset := mbParam.headerLength
  let byte (i : Nat) : Nat := (response i).toNat
  let function := byte (offset + 1)
  if function = fcReadCoilStatus ∨ function = fcReadInputStatus then byte (offset + 2)
  else if function = fcReadHoldingRegisters ∨ function = fcReadInputRegisters then
    byte (offset + 2) / 2
  else if function = fcForceMultipleCoils ∨ function = fcPresetMultipleRegisters then
    byte (offset + 4) * 256 + byte (offset + 5)
  else if function = fcReportSlaveId then responseSize
  else 1

/-- `modbus_check_response` after `ret = receive_msg(...)`, with `response_size`
and `response` as that call left them. The branches `ret == COMM_TIME_OUT` and
`else` both return `ret`. On an exception frame whose code has no message the
source calls `free(s_error)` on its stack array `s_error` before the
`return INVALID_EXCEPTION_CODE` this definition gives: `checkResponseAborts`
names that branch, from which the call does not return. -/
def checkResponse (mbParam : TypeCom) (query : List UInt8) (ret responseSize : Int)
    (response : Nat → UInt8) : Int :=
  let offset := mbParam.headerLength
  let byte (i : Nat) : Nat := (response i).toNat
  let crc := checkCrc16 mbParam (prefixOf response responseSize.toNat)
  if ret = 0 then
    if crc ≠ 0 then crc else responseValue mbParam response responseSize
  else if ret = commTimeOut ∧ responseSize = offset + 3 + mbParam.checksumSize then
    if crc ≠ 0 then crc
    else if 0x80 + byteAt query (offset + 1) = byte (offset + 1) then
      if byte (offset + 2) < nbTabErrorMsg then -(byte (offset + 2) : Int) else invalidExceptionCode
    else responseSize
  else ret

/-- `modbus_check_response(mb_param, query, response)`: the return value and
`response` afterwards. `response_size` keeps its initial value when the first
wait fails. -/
def modbusCheckResponse (mbParam : TypeCom) (query : List UInt8) (env : MasterEnv) :
    Int × (Nat → UInt8) :=
  let r := receiveMsg mbParam (some (computeResponseSize mbParam query)) env.peer env.chunks
  let response := overlay (r.msg?.getD []) env.response
  let responseSize : Int := match r.msg? with
    | some msg => msg.length
    | none => env.responseSize
  (checkResponse mbParam query r.code responseSize response, response)

/-- Whether the tail of `modbus_check_response` calls `error_treat`, with `ret`,
`response_size` and `response` as `receive_msg` left them: `check_crc16` does on
a CRC mismatch, the exception test on an exception frame (its code below
`NB_TAB_ERROR_MSG` or not), and the last tests on a timeout that is no
exception frame's; `receive_msg` has already done so for a failed `read` or
`select` and for `TOO_MANY_DATAS`. Only a closed connection goes untreated. -/
def checkResponseTreats (mbParam : TypeCom) (query : List UInt8) (ret responseSize : Int)
    (response : Nat → UInt8) : Bool :=
  let offset := mbParam.headerLength
  let crc := checkCrc16 mbParam (prefixOf response responseSize.toNat)
  if ret = 0 then crc ≠ 0
  else if ret = commTimeOut ∧ responseSize = offset + 3 + mbParam.checksumSize then
    crc ≠ 0 ∨ 0x80 + byteAt query (offset + 1) = (response (offset + 1)).toNat
  else ret ≠ connectionClosed

/-- A timeout after a reply that is not as long as an exception frame is
treated. -/
theorem checkResponseTreats_timeOut (mbParam : TypeCom) (query : List UInt8) {responseSize : Int}
    (hsize : responseSize ≠ mbParam.headerLength + 3 + mbParam.checksumSize) (response : Nat → UInt8) :
    checkResponseTreats mbParam query commTimeOut responseSize response = true := by
  simp only [checkResponseTreats, show commTimeOut ≠ 0 by decide, hsize, and_false, if_false]
  decide

/-- Whether `modbus_check_response(mb_param, query, response)` calls `error_treat`. -/
def modbusCheckResponseTreats (mbParam : TypeCom) (query : List UInt8) (env : MasterEnv) : Bool :=
  let r := receiveMsg mbParam (some (computeResponseSize mbParam query)) env.peer env.chunks
  let response := overlay (r.msg?.getD []) env.response
  let responseSize : Int := match r.msg? with
    | some msg => msg.length
    | none => env.responseSize
  checkResponseTreats mbParam query r.code responseSize response

/-- Whether `modbus_check_response` reaches `free(s_error)` on its stack
array `s_error`: a timeout after as many bytes as an exception frame, whose
CRC passes and whose function code is the query's with 0x80 added, with an
exception code of `NB_TAB_ERROR_MSG` or more. `free` of a pointer that
`malloc` did not return is undefined behaviour: the call does not come back
with a value. -/
def checkResponseAborts (mbParam : TypeCom) (query : List UInt8) (ret responseSize : Int)
    (response : Nat → UInt8) : Bool :=
  let offset := mbParam.headerLength
  ret = commTimeOut ∧ responseSize = offset + 3 + mbParam.checksumSize ∧
    checkCrc16 mbParam (prefixOf response responseSize.toNat) = 0 ∧
    0x80 + byteAt query (offset + 1) = (response (offset + 1)).toNat ∧
    nbTabErrorMsg ≤ (response (offset + 2)).toNat

/-- Whether `modbus_check_response(mb_param, query, response)` reaches
`free(s_error)`. -/
def modbusCheckResponseAborts (mbParam : TypeCom) (query : List UInt8) (env : MasterEnv) : Bool :=
  let r := receiveMsg mbParam (some (computeResponseSize mbParam query)) env.peer env.chunks
  let response := overlay (r.msg?.getD []) env.response
  let responseSize : Int := match r.msg? with
    | some msg => msg.length
    | none => env.responseSize
  checkResponseAborts mbParam query r.code responseSize response

/-! ## Reads -/

/-- The inner loop of `read_io_status` on `temp`: masks `bit = 0x01, …, 0x80`
while `processed < count`; `bits` masks are left, so `bit` is
`1 << (8 - bits)`. -/
def readIoStatusByte (temp : UInt8) (count : Int) : (bits processed : Nat) → List UInt8
  | 0, _ => []
  | bits + 1, processed =>
    if (processed : Int) < count then
      (if temp &&& (1 <<< (7 - bits).toUInt8) ≠ 0 then TRUE else FALSE) ::
        readIoStatusByte temp count bits (processed + 1)
    else []

/-- The outer loop of `read_io_status` over the bytes `temp = response[3 + i]`:
the values it writes to `data_dest[pos]`, where `pos` and `processed` count up
together. -/
def readIoStatusBits (count : Int) : List UInt8 → Nat → List UInt8
  | [], _ => []
  | temp :: temps, processed =>
    let out := readIoStatusByte temp count 8 processed
    out ++ readIoStatusBits count temps (processed + out.length)

/-- `read_io_status(mb_param, slave, function, start_addr, count, data_dest)`. -/
def readIoStatus (mbParam : TypeCom) (tId : UInt16) (slave function startAddr count : Int)
    (env : MasterEnv) : MasterCall UInt8 :=
  let p := buildQueryPacket mbParam tId (toU8 slave) (toU8 function) (toU16 startAddr) (toU16 count)
  let query := modbusSend mbParam p.1
  let r := modbusCheckResponse mbParam query env
  let temps := (List.range r.1.toNat).map fun j => r.2 (3 + mbParam.headerLength + j)
  ⟨query, r.1, (readIoStatusBits count temps 0).enum, p.2⟩

/-- `read_coil_status` and `read_input_status`: `read_io_status`, with a
positive status replaced by `count`. -/
def readStatus (function : Nat) (mbParam : TypeCom) (tId : UInt16) (slave startAddr count : Int)
    (env : MasterEnv) : MasterCall UInt8 :=
  let call := readIoStatus mbParam tId slave function startAddr count env
  { call with ret := if 0 < call.ret then count else call.ret }

/-- `read_coil_status(mb_param, slave, start_addr, count, data_dest)`. -/
def readCoilStatus : TypeCom → UInt16 → Int → Int → Int → MasterEnv → MasterCall UInt8 :=
  readStatus fcReadCoilStatus

/-- `read_input_status(mb_param, slave, start_addr, count, data_dest)`. -/
def readInputStatus : TypeCom → UInt16 → Int → Int → Int → MasterEnv → MasterCall UInt8 :=
  readStatus fcReadInputStatus

/-- `read_reg_response(mb_param, data_dest, query)`: the return value and the
values written to `data_dest[0 ..)`. -/
def readRegResponse (mbParam : TypeCom) (query : List UInt8) (env : MasterEnv) :
    Int × List UInt16 :=
  let r := modbusCheckResponse mbParam query env
  let offset := mbParam.headerLength
  (r.1, (List.range r.1.toNat).map fun i =>
    ((r.2 (offset + 3 + 2 * i)).toUInt16 <<< 8) ||| (r.2 (offset + 4 + 2 * i)).toUInt16)

/-- `read_registers(mb_param, slave, function, start_addr, count, data_dest)`. -/
def readRegisters (mbParam : TypeCom) (tId : UInt16) (slave function startAddr count : Int)
    (env : MasterEnv) : MasterCall UInt16 :=
  let p := buildQueryPacket mbParam tId (toU8 slave) (toU8 function) (toU16 startAddr) (toU16 count)
  let query := modbusSend mbParam p.1
  let r := readRegResponse mbParam query env
  ⟨query, r.1, r.2.enum, p.2⟩

/-- `read_holding_registers` and `read_input_registers`: `read_registers`
with `count` capped at `maxCount`. -/
def readRegistersCapped (maxCount : Int) (function : Nat) (mbParam : TypeCom) (tId : UInt16)
    (slave startAddr count : Int) (env : MasterEnv) : MasterCall UInt16 :=
  readRegisters mbParam tId slave function startAddr (if count > maxCount then maxCount else count) env

/-- `read_holding_registers(mb_param, slave, start_addr, count, data_dest)`. -/
def readHoldingRegisters : TypeCom → UInt16 → Int → Int → Int → MasterEnv → MasterCall UInt16 :=
  readRegistersCapped maxReadHoldRegs fcReadHoldingRegisters

/-- `read_input_registers(mb_param, slave, start_addr, count, data_dest)`. -/
def readInputRegisters : TypeCom → UInt16 → Int → Int → Int → MasterEnv → MasterCall UInt16 :=
  readRegistersCapped maxReadInputRegs fcReadInputRegisters

/-- The inner loop of `read_io_status` writes bits `8 - bits, 8 - bits + 1, …`
of `temp`, as many as fit below `count`. -/
theorem readIoStatusByte_eq (temp : UInt8) (count : Int) :
    ∀ (bits processed : Nat), bits ≤ 8 →
      readIoStatusByte temp count bits processed =
        (List.range (min bits (count.toNat - processed))).map fun k =>
          if temp.toNat.testBit (8 - bits + k) then TRUE else FALSE := by
  intro bits
  induction bits with
  | zero => intro _ _; simp [readIoStatusByte]
  | succ bits ih =>
    intro p hb
    simp only [readIoStatusByte]
    split
    · rename_i hp
      rw [ih (p + 1) (by omega), show min (bits + 1) (count.toNat - p) =
        min bits (count.toNat - (p + 1)) + 1 by omega, List.range_succ_eq_map, List.map_cons,
        List.map_map]
      congr 1
      · simp only [if_congr (and_shiftLeft_one_ne_zero temp (show 7 - bits < 8 by omega)) rfl rfl,
          show 8 - (bits + 1) + 0 = 7 - bits by omega]
      · apply List.map_congr_left
        intro k _
        simp only [Function.comp, show 8 - (bits + 1) + (k + 1) = 8 - bits + k by omega]
    · rename_i hp
      rw [show count.toNat - p = 0 by omega]
      simp

/-- The outer loop of `read_io_status`: value `m` is bit `m % 8` of byte
`m / 8`, for the first `count - processed` values the bytes hold. -/
theorem readIoStatusBits_eq (count : Int) :
    ∀ (temps : List UInt8) (processed : Nat),
      readIoStatusBits count temps processed =
        (List.range (min (8 * temps.length) (count.toNat - processed))).map fun m =>
          if (temps.getD (m / 8) 0).toNat.testBit (m % 8) then TRUE else FALSE := by
  intro temps
  induction temps with
  | nil => intro _; simp [readIoStatusBits]
  | cons temp temps ih =>
    intro p
    simp only [readIoStatusBits, readIoStatusByte_eq temp count 8 p (Nat.le_refl _),
      List.length_map, List.length_range, ih, List.length_cons, Nat.sub_self, Nat.zero_add]
    by_cases h8 : 8 ≤ count.toNat - p
    · rw [show min 8 (count.toNat - p) = 8 by omega,
        show min (8 * (temps.length + 1)) (count.toNat - p) =
          8 + min (8 * temps.length) (count.toNat - (p + 8)) by omega,
        List.range_add, List.map_append, List.map_map]
      congr 1
      · apply List.map_congr_left
        intro m hm
        have := List.mem_range.mp hm
        simp [Nat.div_eq_of_lt this, Nat.mod_eq_of_lt this]
    · rw [show min 8 (count.toNat - p) = count.toNat - p by omega,
        show count.toNat - (p + (count.toNat - p)) = 0 by omega,
        show min (8 * (temps.length + 1)) (count.toNat - p) = count.toNat - p by omega]
      simp only [Nat.min_zero, List.range_zero, List.map_nil, List.append_nil]
      apply List.map_congr_left
      intro m hm
      have := List.mem_range.mp hm
      simp [Nat.div_eq_of_lt (show m < 8 by omega), Nat.mod_eq_of_lt (show m < 8 by omega)]

/-! ## Writes -/

/-- `preset_response(mb_param, query)`. -/
def presetResponse (mbParam : TypeCom) (query : List UInt8) (env : MasterEnv) : Int :=
  (modbusCheckResponse mbParam query env).1

/-- `set_single(mb_param, slave, function, addr, value)`. -/
def setSingle (mbParam : TypeCom) (tId : UInt16) (slave function addr value : Int)
    (env : MasterEnv) : MasterCall Unit :=
  let p := buildQueryPacket mbParam tId (toU8 slave) (toU8 function) (toU16 addr) (toU16 value)
  let query := modbusSend mbParam p.1
  ⟨query, presetResponse mbParam query env, [], p.2⟩

/-- `force_single_coil(mb_param, slave, coil_addr, state)`. -/
def forceSingleCoil (mbParam : TypeCom) (tId : UInt16) (slave coilAddr state : Int)
    (env : MasterEnv) : MasterCall Unit :=
  setSingle mbParam tId slave fcForceSingleCoil coilAddr (if state ≠ 0 then 0xFF00 else state) env

/-- `preset_single_register(mb_param, slave, reg_addr, value)`. -/
def presetSingleRegister (mbParam : TypeCom) (tId : UInt16) (slave regAddr value : Int)
    (env : MasterEnv) : MasterCall Unit :=
  setSingle mbParam tId slave fcPresetSingleRegister regAddr value env

/-- The `while ((bit & 0xFF) && (coil_check++ < coil_count))` loop of
`force_multiple_coils` on one query byte: `bits` masks are left, so `bit` is
`1 << (8 - bits)`; once the mask leaves the byte the test short-circuits and
`coil_check` is not incremented. Returns the byte, `coil_check` and `pos`. -/
def forceMultipleCoilsByte (coilCount : Int) (dataSrc : List UInt8) :
    (bits : Nat) → (byte : UInt8) → (coilCheck : Int) → (pos : Nat) → UInt8 × Int × Nat
  | 0, byte, coilCheck, pos => (byte, coilCheck, pos)
  | bits + 1, byte, coilCheck, pos =>
    let bit : UInt8 := 1 <<< (7 - bits).toUInt8
    if coilCheck < coilCount then
      let byte := if dataSrc.getD pos 0 ≠ 0 then byte ||| bit else byte &&& ~~~bit
      forceMultipleCoilsByte coilCount dataSrc bits byte (coilCheck + 1) (pos + 1)
    else (byte, coilCheck + 1, pos)

/-- The `for (i = 0; i < byte_count; i++)` loop of `force_multiple_coils`: the
`n` bytes it writes after the byte count, each started at 0. -/
def forceMultipleCoilsData (coilCount : Int) (dataSrc : List UInt8) :
    (n : Nat) → (coilCheck : Int) → (pos : Nat) → List UInt8
  | 0, _, _ => []
  | n + 1, coilCheck, pos =>
    let s := forceMultipleCoilsByte coilCount dataSrc 8 0 coilCheck pos
    s.1 :: forceMultipleCoilsData coilCount dataSrc n s.2.1 s.2.2

@[simp] theorem length_forceMultipleCoilsData (coilCount : Int) (dataSrc : List UInt8) :
    ∀ (n : Nat) (coilCheck : Int) (pos : Nat),
      (forceMultipleCoilsData coilCount dataSrc n coilCheck pos).length = n
  | 0, _, _ => rfl
  | n + 1, _, _ => by
    rw [forceMultipleCoilsData, List.length_cons, length_forceMultipleCoilsData coilCount dataSrc n]

/-- The request `force_multiple_coils` hands to `modbus_send`, and the TCP
counter after it. `data_src` is read at `pos < coil_count` only. -/
def forceMultipleCoilsQuery (mbParam : TypeCom) (tId : UInt16) (slave startAddr coilCount : Int)
    (dataSrc : List UInt8) : List UInt8 × UInt16 :=
  let coilCount := if coilCount > maxWriteCoils then maxWriteCoils else coilCount
  let p := buildQueryPacket mbParam tId (toU8 slave) (toU8 fcForceMultipleCoils) (toU16 startAddr)
    (toU16 coilCount)
  let byteCount : Int := coilCount.tdiv 8 + (if coilCount.tmod 8 ≠ 0 then 1 else 0)
  (p.1 ++ toU8 byteCount :: forceMultipleCoilsData coilCount dataSrc byteCount.toNat 0 0, p.2)

/-- `force_multiple_coils(mb_param, slave, start_addr, coil_count, data_src)`. -/
def forceMultipleCoils (mbParam : TypeCom) (tId : UInt16) (slave startAddr coilCount : Int)
    (dataSrc : List UInt8) (env : MasterEnv) : MasterCall Unit :=
  let q := forceMultipleCoilsQuery mbParam tId slave startAddr coilCount dataSrc
  let query := modbusSend mbParam q.1
  ⟨query, presetResponse mbParam query env, [], q.2⟩

/-- The request `preset_multiple_registers` hands to `modbus_send`, and the TCP
counter after it. `data_src` is read at `i < reg_count` only. -/
def presetMultipleRegistersQuery (mbParam : TypeCom) (tId : UInt16) (slave startAddr regCount : Int)
    (dataSrc : List UInt16) : List UInt8 × UInt16 :=
  let regCount := if regCount > maxWriteRegs then maxWriteRegs else regCount
  let p := buildQueryPacket mbParam tId (toU8 slave) (toU8 fcPresetMultipleRegisters)
    (toU16 startAddr) (toU16 regCount)
  (p.1 ++ toU8 (regCount * 2) ::
    (List.range regCount.toNat).flatMap (fun i => splitWord (dataSrc.getD i 0)), p.2)

/-- The register bytes `preset_multiple_registers` writes: two per register. -/
theorem length_flatMap_splitWord (f : Nat → UInt16) :
    ∀ m : Nat, ((List.range m).flatMap fun i => splitWord (f i)).length = 2 * m
  | 0 => rfl
  | m + 1 => by
    rw [List.range_succ, List.flatMap_append, List.length_append, length_flatMap_splitWord f m]
    simp [splitWord]
    omega

/-- `preset_multiple_registers(mb_param, slave, start_addr, reg_count, data_src)`. -/
def presetMultipleRegisters (mbParam : TypeCom) (tId : UInt16) (slave startAddr regCount : Int)
    (dataSrc : List UInt16) (env : MasterEnv) : MasterCall Unit :=
  let q := presetMultipleRegistersQuery mbParam tId slave startAddr regCount dataSrc
  let query := modbusSend mbParam q.1
  ⟨query, presetResponse mbParam query env, [], q.2⟩

/-- `report_slave_id(mb_param, slave, data_dest)`: the request header without
its last four bytes; the reply's bytes from `response[offset]` on are copied
to `data_dest[offset]` on. -/
def reportSlaveId (mbParam : TypeCom) (tId : UInt16) (slave : Int) (env : MasterEnv) :
    MasterCall UInt8 :=
  let p := buildQueryPacket mbParam tId (toU8 slave) (toU8 fcReportSlaveId) 0 0
  let query := modbusSend mbParam (p.1.take (p.1.length - 4))
  let r := modbusCheckResponse mbParam query env
  let offset := mbParam.headerLength
  ⟨query, r.1, ((List.range r.1.toNat).map fun j => r.2 (offset + j)).enumFrom offset, p.2⟩

/-! ## What the master accepts -/

theorem checkCrc16_ne_zero {mbParam : TypeCom} {msg : List UInt8} (h : checkCrc16 mbParam msg ≠ 0) :
    checkCrc16 mbParam msg = invalidCrc :=
  (checkCrc16_eq_zero_or mbParam msg).resolve_left h

theorem responseValue_nonneg (mbParam : TypeCom) (response : Nat → UInt8) {responseSize : Int}
    (h : 0 ≤ responseSize) : 0 ≤ responseValue mbParam response responseSize := by
  simp only [responseValue]; split_ifs <;> omega

theorem computeResponseSize_pos (mbParam : TypeCom) (query : List UInt8) :
    0 < computeResponseSize mbParam query := by
  simp only [computeResponseSize]; split_ifs <;> omega

/-- No reply is predicted shorter than an exception frame. -/
theorem exceptionLength_le_computeResponseSize (mbParam : TypeCom) (query : List UInt8) :
    mbParam.headerLength + 3 + mbParam.checksumSize ≤ computeResponseSize mbParam query := by
  simp only [computeResponseSize]; split_ifs <;> omega

/-- `modbus_check_response` when the stream starts with a frame of the
predicted length, within `MAX_PACKET_SIZE`, that passes `check_crc16`: the
switch on the frame's function code gives the result, and the buffer holds
the frame. -/
theorem modbusCheckResponse_complete (mbParam : TypeCom) (query : List UInt8) (env : MasterEnv)
    (hle : computeResponseSize mbParam query ≤ env.peer.bytes.length)
    (hfit : computeResponseSize mbParam query ≤ maxPacketSize)
    (hcrc : checkCrc16 mbParam (env.peer.bytes.take (computeResponseSize mbParam query)) = 0) :
    let f := env.peer.bytes.take (computeResponseSize mbParam query)
    modbusCheckResponse mbParam query env =
      (responseValue mbParam (overlay f env.response) f.length, overlay f env.response) := by
  simp only [modbusCheckResponse, receiveMsg_some_complete mbParam (computeResponseSize_pos mbParam query)
    env.peer env.chunks hle hfit, Option.getD_some, checkResponse, if_true, Int.toNat_ofNat,
    prefixOf_overlay, hcrc, ne_eq, not_true_eq_false, if_false]

/-- What `checkResponse` accepts from a read that stored `msg` and returned
`ret`, 0 or an error code. -/
theorem checkResponse_accepts (mbParam : TypeCom) (query msg : List UInt8) {ret : Int}
    (stale : Nat → UInt8) (hret : ret = 0 ∨ ret ≤ commTimeOut) :
    let out := checkResponse mbParam query ret msg.length (overlay msg stale)
    let offset := mbParam.headerLength
    (0 ≤ out → checkCrc16 mbParam msg = 0 ∧ (ret = 0 ∨
        (ret = commTimeOut ∧ msg.length = offset + 3 + mbParam.checksumSize ∧
          (byteAt msg (offset + 1) ≠ 0x80 + byteAt query (offset + 1) ∨ byteAt msg (offset + 2) = 0)))) ∧
    (∀ k : Nat, 0 < k → k < nbTabErrorMsg → out = -k →
      ret = commTimeOut ∧ msg.length = offset + 3 + mbParam.checksumSize ∧ checkCrc16 mbParam msg = 0 ∧
        byteAt msg (offset + 1) = 0x80 + byteAt query (offset + 1) ∧ byteAt msg (offset + 2) = k) := by
  have hinv : invalidCrc < -12 := by decide
  have hexc : invalidExceptionCode < -12 := by decide
  have hto : commTimeOut = -12 := rfl
  have h12 : nbTabErrorMsg = 12 := rfl
  simp only [checkResponse, Int.toNat_ofNat, prefixOf_overlay]
  by_cases hcrc : checkCrc16 mbParam msg = 0
  case neg =>
    -- every branch that checks the CRC returns `INVALID_CRC`
    have hne : invalidCrc ≠ 0 := by decide
    rw [checkCrc16_ne_zero hcrc]
    simp only [hne, ne_eq, not_false_eq_true, if_true]
    by_cases h0 : ret = 0
    · rw [if_pos h0]
      exact ⟨fun h => by omega, fun k _ _ h => by omega⟩
    · have := hret.resolve_left h0
      rw [if_neg h0]
      split <;> exact ⟨fun h => by omega, fun k _ _ h => by omega⟩
  simp only [hcrc, ne_eq, not_true_eq_false, if_false, true_and]
  by_cases h0 : ret = 0
  · -- a complete frame: the decoded value is not negative
    have := responseValue_nonneg mbParam (overlay msg stale) (Int.ofNat_nonneg msg.length)
    rw [if_pos h0]
    exact ⟨fun _ => .inl h0, fun k _ _ h => by omega⟩
  have : ret ≤ commTimeOut := hret.resolve_left h0
  rw [if_neg h0]
  by_cases h1 : ret = commTimeOut ∧ (msg.length : Int) = mbParam.headerLength + 3 + mbParam.checksumSize
  case neg =>
    rw [if_neg h1]
    exact ⟨fun h => by omega, fun k _ _ h => by omega⟩
  obtain ⟨hto, hlen⟩ := h1
  have hlen' : msg.length = mbParam.headerLength + 3 + mbParam.checksumSize := by omega
  rw [if_pos ⟨hto, hlen⟩, overlay_lt _ (by omega), overlay_lt _ (by omega)]
  by_cases hfn : 128 + byteAt query (mbParam.headerLength + 1) = byteAt msg (mbParam.headerLength + 1)
  case neg =>
    -- a short frame that is no exception
    rw [if_neg hfn]
    exact ⟨fun _ => .inr ⟨hto, hlen', .inl (Ne.symm hfn)⟩, fun k _ _ h => by omega⟩
  rw [if_pos hfn]
  by_cases hk : byteAt msg (mbParam.headerLength + 2) < nbTabErrorMsg
  · -- an exception frame with a code below `NB_TAB_ERROR_MSG`
    rw [if_pos hk]
    exact ⟨fun h => .inr ⟨hto, hlen', .inr (by omega)⟩, fun k _ _ h => ⟨hto, hlen', hfn.symm, by omega⟩⟩
  · rw [if_neg hk]
    exact ⟨fun h => by omega, fun k _ _ h => by omega⟩

/-- `modbus_check_response` on a reply that is exactly a frame of the
predicted length, within `MAX_PACKET_SIZE`, that passes `check_crc16`. -/
theorem modbusCheckResponse_frame (mbParam : TypeCom) (query : List UInt8) (env : MasterEnv)
    (hlen : env.peer.bytes.length = computeResponseSize mbParam query)
    (hfit : env.peer.bytes.length ≤ maxPacketSize) (hcrc : checkCrc16 mbParam env.peer.bytes = 0) :
    modbusCheckResponse mbParam query env =
      (responseValue mbParam (overlay env.peer.bytes env.response) env.peer.bytes.length,
        overlay env.peer.bytes env.response) := by
  have h := modbusCheckResponse_complete mbParam query env (Nat.le_of_eq hlen.symm) (hlen ▸ hfit)
    (by rw [← hlen, List.take_length]; exact hcrc)
  rwa [← hlen, List.take_length] at h

/-- `read_io_status` on a reply that is exactly a frame of the predicted length
that passes `check_crc16`, with function code 1 or 2 and a byte count `k` the
frame covers: it returns `k` and unpacks the `k` bytes after the header. -/
theorem readIoStatus_frame (mbParam : TypeCom) (tId : UInt16) (slave function startAddr count : Int)
    (env : MasterEnv) (k : Nat)
    (hlen : env.peer.bytes.length = computeResponseSize mbParam
      (readIoStatus mbParam tId slave function startAddr count env).sent)
    (hfit : env.peer.bytes.length ≤ maxPacketSize) (hcrc : checkCrc16 mbParam env.peer.bytes = 0)
    (hfn : byteAt env.peer.bytes (mbParam.headerLength + 1) = fcReadCoilStatus ∨
      byteAt env.peer.bytes (mbParam.headerLength + 1) = fcReadInputStatus)
    (hk : byteAt env.peer.bytes (mbParam.headerLength + 2) = k)
    (hkl : mbParam.headerLength + 3 + k ≤ env.peer.bytes.length) :
    (readIoStatus mbParam tId slave function startAddr count env).ret = k ∧
      (readIoStatus mbParam tId slave function startAddr count env).dest =
        (readIoStatusBits count ((List.range k).map fun j =>
          env.peer.bytes.getD (mbParam.headerLength + 3 + j) 0) 0).enum := by
  have hvalue : responseValue mbParam (overlay env.peer.bytes env.response) env.peer.bytes.length = k := by
    simp only [responseValue, overlay_lt _ (show mbParam.headerLength + 1 < env.peer.bytes.length by omega),
      overlay_lt _ (show mbParam.headerLength + 2 < env.peer.bytes.length by omega), hk]
    rw [if_pos hfn]
  have htemps : ((List.range k).map fun j => overlay env.peer.bytes env.response (3 + mbParam.headerLength + j)) =
      (List.range k).map fun j => env.peer.bytes.getD (mbParam.headerLength + 3 + j) 0 :=
    List.map_congr_left fun j hj => by
      rw [overlay_of_lt _ (by have := List.mem_range.mp hj; omega), Nat.add_comm 3]
  dsimp only [readIoStatus] at hlen ⊢
  simp only [modbusCheckResponse_frame mbParam _ env hlen hfit hcrc, hvalue, Int.toNat_ofNat, htemps,
    and_self]

/-- The switch of `modbus_check_response` on a frame of function code 3 or 4:
half the frame's byte count. -/
theorem responseValue_registers (mbParam : TypeCom) {bytes : List UInt8} (stale : Nat → UInt8)
    (size : Int) (hl : mbParam.headerLength + 2 < bytes.length)
    (hfn : byteAt bytes (mbParam.headerLength + 1) = fcReadHoldingRegisters ∨
      byteAt bytes (mbParam.headerLength + 1) = fcReadInputRegisters) :
    responseValue mbParam (overlay bytes stale) size =
      (byteAt bytes (mbParam.headerLength + 2) / 2 : Nat) := by
  have h12 : ¬(byteAt bytes (mbParam.headerLength + 1) = fcReadCoilStatus ∨
      byteAt bytes (mbParam.headerLength + 1) = fcReadInputStatus) := by
    simp only [fcReadCoilStatus, fcReadInputStatus, fcReadHoldingRegisters, fcReadInputRegisters] at hfn ⊢
    omega
  simp only [responseValue, overlay_lt _ (show mbParam.headerLength + 1 < bytes.length by omega),
    overlay_lt _ hl]
  rw [if_neg h12, if_pos hfn]
  omega

/-- `read_reg_response` on a reply that is exactly a frame of the predicted
length that passes `check_crc16`, with function code 3 or 4 and a byte count
`2 * k` the frame covers: it returns `k` and joins the `k` byte pairs after
the header, high byte first. -/
theorem readRegResponse_frame (mbParam : TypeCom) (query : List UInt8) (env : MasterEnv) (k : Nat)
    (hlen : env.peer.bytes.length = computeResponseSize mbParam query)
    (hfit : env.peer.bytes.length ≤ maxPacketSize) (hcrc : checkCrc16 mbParam env.peer.bytes = 0)
    (hfn : byteAt env.peer.bytes (mbParam.headerLength + 1) = fcReadHoldingRegisters ∨
      byteAt env.peer.bytes (mbParam.headerLength + 1) = fcReadInputRegisters)
    (hk : byteAt env.peer.bytes (mbParam.headerLength + 2) = 2 * k)
    (hkl : mbParam.headerLength + 3 + 2 * k ≤ env.peer.bytes.length) :
    readRegResponse mbParam query env = ((k : Int), (List.range k).map fun i =>
      ((env.peer.bytes.getD (mbParam.headerLength + 3 + 2 * i) 0).toUInt16 <<< 8) |||
        (env.peer.bytes.getD (mbParam.headerLength + 4 + 2 * i) 0).toUInt16) := by
  have hvalue : responseValue mbParam (overlay env.peer.bytes env.response) env.peer.bytes.length = k := by
    rw [responseValue_registers mbParam _ _ (by omega) hfn, hk]
    omega
  simp only [readRegResponse, modbusCheckResponse_frame mbParam _ env hlen hfit hcrc, hvalue,
    Int.toNat_ofNat, Prod.mk.injEq, true_and]
  apply List.map_congr_left
  intro i hi
  have := List.mem_range.mp hi
  rw [overlay_of_lt _ (by omega), overlay_of_lt _ (by omega)]

/-- `read_reg_response` on a reply that is exactly a frame of the predicted
length that passes `check_crc16`, with function code 3 or 4: it returns half
the frame's byte count and writes as many registers, whatever `query` asked
for. -/
theorem readRegResponse_frame_count (mbParam : TypeCom) (query : List UInt8) (env : MasterEnv)
    (hlen : env.peer.bytes.length = computeResponseSize mbParam query)
    (hfit : env.peer.bytes.length ≤ maxPacketSize) (hcrc : checkCrc16 mbParam env.peer.bytes = 0)
    (hfn : byteAt env.peer.bytes (mbParam.headerLength + 1) = fcReadHoldingRegisters ∨
      byteAt env.peer.bytes (mbParam.headerLength + 1) = fcReadInputRegisters) :
    let k := byteAt env.peer.bytes (mbParam.headerLength + 2) / 2
    (readRegResponse mbParam query env).1 = k ∧ (readRegResponse mbParam query env).2.length = k := by
  have hl : mbParam.headerLength + 2 < env.peer.bytes.length := by
    have := exceptionLength_le_computeResponseSize mbParam query
    omega
  simp only [readRegResponse, modbusCheckResponse_frame mbParam _ env hlen hfit hcrc,
    responseValue_registers mbParam _ _ hl hfn, Int.toNat_ofNat, List.length_map, List.length_range,
    and_self]

/-- `modbus_check_response` on a reply of at least one byte, fewer than
`compute_response_size(query)`, and not of the length of an exception frame:
it returns the code of the silence after the reply. -/
theorem modbusCheckResponse_short (mbParam : TypeCom) (query : List UInt8) (env : MasterEnv)
    (hbytes : env.peer.bytes ≠ []) (hlt : env.peer.bytes.length < computeResponseSize mbParam query)
    (hfit : env.peer.bytes.length ≤ maxPacketSize)
    (hexc : env.peer.bytes.length ≠ mbParam.headerLength + 3 + mbParam.checksumSize) :
    (modbusCheckResponse mbParam query env).1 = silenceCode env.peer.silence := by
  have hne : silenceCode env.peer.silence ≠ 0 := Int.ne_of_lt (silenceCode_neg _)
  have hlen : ¬((env.peer.bytes.length : Int) = mbParam.headerLength + 3 + mbParam.checksumSize) := by
    omega
  simp only [modbusCheckResponse, receiveMsg_some_short mbParam (computeResponseSize_pos mbParam query)
    env.peer env.chunks hbytes hlt hfit, checkResponse, if_neg hne, hlen, and_false, if_false]

/-! ## How much a read writes -/

/-- **Bit reads stay within their count.** For either transport, every
function code, unit, start address, count `c ≥ 0` and every reply:
`read_io_status` writes `data_dest` only below `c`, since its inner loop
stops at `processed < count`, and `read_coil_status` and `read_input_status`
return a negative code, 0 or `c`. -/
theorem readStatus_within_count (function : Nat) (mbParam : TypeCom) (tId : UInt16)
    (slave startAddr count : Int) (hc : 0 ≤ count) (env : MasterEnv) :
    let call := readStatus function mbParam tId slave startAddr count env
    (∀ p ∈ call.dest, p.1 < count) ∧ (call.ret < 0 ∨ call.ret ≤ count) := by
  intro call
  refine ⟨fun p hp => ?_, ?_⟩
  · have hlt := List.fst_lt_of_mem_enum hp
    simp only [readIoStatusBits_eq, List.length_map, List.length_range] at hlt
    omega
  · show (if 0 < _ then count else _) < 0 ∨ (if 0 < _ then count else _) ≤ count
    split <;> omega

/-- Three coils in RTU from a silent peer. -/
theorem readStatus_within_count_three :
    0 ≤ (3 : Int) ∧
      let call := readStatus fcReadCoilStatus .rtu 0 1 0 3 ⟨⟨[], .timeOut⟩, [], 0, fun _ => 0⟩
      (∀ p ∈ call.dest, (p.1 : Int) < 3) ∧ (call.ret < 0 ∨ call.ret ≤ 3) :=
  ⟨by decide, readStatus_within_count fcReadCoilStatus .rtu 0 1 0 3 (by decide) _⟩

/-- **The reply's byte count, not the request, sets how many registers are
written.** For either transport, every count `n ≤ 125` that
`read_holding_registers` sends unclamped, and a reply of the predicted length
with function code 3 that passes `check_crc16` but whose byte count announces
`n + 1` registers: the call returns `n + 1` and writes `data_dest[0 .. n]`,
one entry past the `n` it asked for. -/
theorem readHoldingRegisters_byte_count_overrun (mbParam : TypeCom) (tId : UInt16)
    (slave startAddr : Int) (n : Nat) (hn : n ≤ 125) (hdr data : List UInt8)
    (hhdr : hdr.length = mbParam.headerLength) (hdata : data.length = 2 * n) (unit : UInt8)
    (silence : Silence) (chunks : List Nat) (responseSize : Int) (stale : Nat → UInt8) :
    let reply := modbusSend mbParam (hdr ++ unit :: 3 :: toU8 (2 * n + 2) :: data)
    let call := readHoldingRegisters mbParam tId slave startAddr n
      ⟨⟨reply, silence⟩, chunks, responseSize, stale⟩
    call.ret = n + 1 ∧ call.dest.map Prod.fst = List.range (n + 1) := by
  intro reply call
  obtain ⟨hlen, hfn, hbc, -⟩ := modbusSend_fields mbParam hhdr unit 3 (toU8 (2 * n + 2)) data
  have hn16 : (toU16 (n : Int)).toNat = n := by rw [toU16_toNat]; omega
  have hsize : reply.length = computeResponseSize mbParam (modbusSend mbParam
      (buildQueryPacket mbParam tId (toU8 slave) (toU8 fcReadHoldingRegisters) (toU16 startAddr)
        (toU16 n)).1) := by
    rw [hlen, computeResponseSize_buildQueryPacket, hn16, hdata,
      show (toU8 fcReadHoldingRegisters).toNat = 3 from rfl, if_neg (by decide), if_pos (.inl rfl)]
    omega
  have hfit : reply.length ≤ maxPacketSize := by
    have := headerLength_add_checksumSize_le mbParam
    rw [hlen, hdata, maxPacketSize]
    omega
  obtain ⟨hret, hdest⟩ := readRegResponse_frame_count mbParam _
    ⟨⟨reply, silence⟩, chunks, responseSize, stale⟩ hsize hfit (checkCrc16_modbusSend mbParam _)
    (by rw [byteAt, hfn]; exact .inl rfl)
  have hk : byteAt reply (mbParam.headerLength + 2) / 2 = n + 1 := by
    rw [byteAt, hbc, toU8_toNat]; omega
  dsimp only at hret hdest
  rw [hk] at hret hdest
  have hcap : ¬((n : Int) > maxReadHoldRegs) := by rw [maxReadHoldRegs]; omega
  simp only [call, readHoldingRegisters, readRegistersCapped, readRegisters, if_neg hcap]
  refine ⟨by rw [hret]; push_cast; rfl, ?_⟩
  rw [List.enum_map_fst, hdest]

/-- One register asked for in RTU; the reply announces two. -/
theorem readHoldingRegisters_byte_count_overrun_one :
    let reply := modbusSend .rtu [0x01, 0x03, 0x04, 0x00, 0x07]
    let call := readHoldingRegisters .rtu 0 1 0 1 ⟨⟨reply, .timeOut⟩, [], 0, fun _ => 0⟩
    call.ret = 2 ∧ call.dest.map Prod.fst = [0, 1] :=
  readHoldingRegisters_byte_count_overrun .rtu 0 1 0 1 (by decide) [] [0x00, 0x07] rfl rfl 1 .timeOut []
    0 (fun _ => 0)

/-! ## The length the master expects -/

/-- **Reads can expect more than `MAX_PACKET_SIZE`.** For either transport,
every unit and start address: `read_coil_status` applies no cap, so a count
from 2041 to 65535 makes `compute_response_size` predict more than
`MAX_PACKET_SIZE` bytes; and a negative count passes the cap of
`read_holding_registers`, whose request then carries it modulo `2^16`, so a
count from -65408 to -1 does too. -/
theorem computeResponseSize_exceeds_maxPacketSize (mbParam : TypeCom) (tId : UInt16)
    (slave startAddr c d : Int) (hc : 2041 ≤ c ∧ c ≤ 65535) (hd : -65408 ≤ d ∧ d < 0)
    (env env' : MasterEnv) :
    maxPacketSize < computeResponseSize mbParam (readCoilStatus mbParam tId slave startAddr c env).sent ∧
      maxPacketSize <
        computeResponseSize mbParam (readHoldingRegisters mbParam tId slave startAddr d env').sent := by
  have hframe : 2 ≤ mbParam.headerLength + mbParam.checksumSize := by cases mbParam <;> decide
  have hcap : ¬(d > maxReadHoldRegs) := by rw [maxReadHoldRegs]; omega
  simp only [readCoilStatus, readStatus, readIoStatus, readHoldingRegisters, readRegistersCapped,
    readRegisters, if_neg hcap, computeResponseSize_buildQueryPacket, toU16_toNat,
    show (toU8 fcReadCoilStatus).toNat = 1 from rfl, show (toU8 fcReadHoldingRegisters).toNat = 3 from rfl]
  constructor
  · rw [if_pos (.inl rfl), maxPacketSize]
    omega
  · rw [if_neg (by decide), if_pos (.inl rfl), maxPacketSize]
    omega

/-- `read_coil_status(1, 0, 65535)` and `read_holding_registers(1, 0, -1)` in
RTU. -/
theorem computeResponseSize_exceeds_maxPacketSize_rtu :
    (2041 ≤ (65535 : Int) ∧ (65535 : Int) ≤ 65535) ∧ (-65408 ≤ (-1 : Int) ∧ (-1 : Int) < 0) ∧
      maxPacketSize < computeResponseSize .rtu
        (readCoilStatus .rtu 0 1 0 65535 ⟨⟨[], .timeOut⟩, [], 0, fun _ => 0⟩).sent ∧
      maxPacketSize < computeResponseSize .rtu
        (readHoldingRegisters .rtu 0 1 0 (-1) ⟨⟨[], .timeOut⟩, [], 0, fun _ => 0⟩).sent :=
  ⟨by decide, by decide, computeResponseSize_exceeds_maxPacketSize .rtu 0 1 0 65535 (-1) (by decide)
    (by decide) _ _⟩

/-! ## Exception replies -/

/-- The switch of `modbus_check_response` on a function code it does not
list, such as that of an exception frame: 1. -/
theorem responseValue_unlisted (mbParam : TypeCom) (response : Nat → UInt8) (size : Int)
    (hfn : 0x80 ≤ (response (mbParam.headerLength + 1)).toNat) :
    responseValue mbParam response size = 1 := by
  simp only [responseValue, fcReadCoilStatus, fcReadInputStatus, fcReadHoldingRegisters,
    fcReadInputRegisters, fcForceMultipleCoils, fcPresetMultipleRegisters, fcReportSlaveId]
  rw [if_neg (by omega), if_neg (by omega), if_neg (by omega), if_neg (by omega)]

/-- **An exception frame is recognised when a longer reply is expected.** For
either transport, every request whose function code is below `0x80` and whose
predicted reply is longer than an exception frame, and every code
`0 < k < NB_TAB_ERROR_MSG`: the exception frame `[unit, 0x80 + function, k]`,
after any MBAP header and with the RTU trailer, followed by a timeout, makes
`modbus_check_response` return `-k`. -/
theorem modbusCheckResponse_exception (mbParam : TypeCom) (query hdr : List UInt8)
    (hhdr : hdr.length = mbParam.headerLength) (unit : UInt8) (k : Nat) (hk : 0 < k ∧ k < nbTabErrorMsg)
    (hlt : mbParam.headerLength + 3 + mbParam.checksumSize < computeResponseSize mbParam query)
    (hfn : byteAt query (mbParam.headerLength + 1) < 0x80)
    (chunks : List Nat) (responseSize : Int) (stale : Nat → UInt8) :
    let reply := modbusSend mbParam
      (hdr ++ [unit, toU8 (0x80 + byteAt query (mbParam.headerLength + 1) : Nat), toU8 k])
    (modbusCheckResponse mbParam query ⟨⟨reply, .timeOut⟩, chunks, responseSize, stale⟩).1 = -k := by
  intro reply
  obtain ⟨hlen, hfnR, hkR, -⟩ : reply.length = mbParam.headerLength + 3 + 0 + mbParam.checksumSize ∧
      reply.getD (mbParam.headerLength + 1) 0 = toU8 (0x80 + byteAt query (mbParam.headerLength + 1) : Nat) ∧
      reply.getD (mbParam.headerLength + 2) 0 = toU8 k ∧ _ :=
    modbusSend_fields mbParam hhdr unit _ (toU8 k) []
  rw [Nat.add_zero] at hlen
  have hne : reply ≠ [] := List.ne_nil_of_length_pos (by rw [hlen]; omega)
  have hfit : reply.length ≤ maxPacketSize := by
    have := headerLength_add_checksumSize_le mbParam
    rw [hlen, maxPacketSize]
    omega
  have h12 : nbTabErrorMsg = 12 := rfl
  have hbyte1 : (overlay reply stale (mbParam.headerLength + 1)).toNat =
      0x80 + byteAt query (mbParam.headerLength + 1) := by
    rw [overlay_lt _ (by omega), byteAt, hfnR, toU8_natCast_toNat]
    omega
  have hbyte2 : (overlay reply stale (mbParam.headerLength + 2)).toNat = k := by
    rw [overlay_lt _ (by omega), byteAt, hkR, toU8_natCast_toNat]
    omega
  have hcrc : checkCrc16 mbParam reply = 0 := checkCrc16_modbusSend mbParam _
  have hto : commTimeOut ≠ 0 := by decide
  simp only [modbusCheckResponse, receiveMsg_some_short mbParam (computeResponseSize_pos mbParam query)
    ⟨reply, .timeOut⟩ chunks hne (by rw [hlen]; exact hlt) hfit, Option.getD_some, checkResponse,
    silenceCode, Int.toNat_ofNat, prefixOf_overlay, hcrc, hbyte1, hbyte2, if_neg hto, ne_eq,
    not_true_eq_false, if_false, true_and, if_true, if_pos hk.2]
  rw [if_pos (by rw [hlen]; push_cast; rfl)]

/-- **An exception frame is read as data when no longer reply is expected.**
For either transport, every unit, start address, any MBAP header and any
exception code: with count 0 the predicted reply is exactly as long as an
exception frame, so `receive_msg` completes on it and the switch of
`modbus_check_response` returns 1. On the exception frame for its function
code, `read_coil_status` then returns its count 0, and
`read_holding_registers` returns 1 and writes `data_dest[0]`. -/
theorem readStatus_exception_count_zero (mbParam : TypeCom) (tId : UInt16) (slave startAddr : Int)
    (hdr : List UInt8) (hhdr : hdr.length = mbParam.headerLength) (unit k : UInt8)
    (chunks : List Nat) (responseSize : Int) (stale : Nat → UInt8) :
    let env := fun function : UInt8 =>
      (⟨⟨modbusSend mbParam (hdr ++ [unit, function, k]), .timeOut⟩, chunks, responseSize, stale⟩ :
        MasterEnv)
    (readCoilStatus mbParam tId slave startAddr 0 (env 0x81)).ret = 0 ∧
      (readHoldingRegisters mbParam tId slave startAddr 0 (env 0x83)).ret = 1 ∧
      (readHoldingRegisters mbParam tId slave startAddr 0 (env 0x83)).dest.map Prod.fst = [0] := by
  intro env
  have hcheck : ∀ function : UInt8, 0x80 ≤ function.toNat → ∀ query, computeResponseSize mbParam query =
      mbParam.headerLength + 3 + mbParam.checksumSize →
      (modbusCheckResponse mbParam query (env function)).1 = 1 := fun function hf query hq => by
    obtain ⟨hlen, hfn, -, -⟩ := modbusSend_fields mbParam hhdr unit function k []
    have := headerLength_add_checksumSize_le mbParam
    rw [modbusCheckResponse_frame mbParam query (env function) (by rw [hlen, hq]; rfl)
      (by rw [hlen, maxPacketSize, List.length_nil]; omega) (checkCrc16_modbusSend mbParam _)]
    exact responseValue_unlisted mbParam _ _ (by
      rw [overlay_lt _ (by rw [hlen]; omega), byteAt, hfn]; exact hf)
  have hcap : ¬((0 : Int) > maxReadHoldRegs) := by decide
  simp only [readCoilStatus, readStatus, readIoStatus, readHoldingRegisters, readRegistersCapped,
    readRegisters, readRegResponse, if_neg hcap]
  have hzero : (toU16 0).toNat = 0 := rfl
  rw [hcheck 0x81 (by decide) _
      (by rw [computeResponseSize_buildQueryPacket, if_pos (.inl rfl), hzero]; omega),
    hcheck 0x83 (by decide) _
      (by rw [computeResponseSize_buildQueryPacket, if_neg (by decide), if_pos (.inl rfl), hzero]; omega)]
  exact ⟨rfl, rfl, rfl⟩

/-- Exception 2 from unit 1 in RTU, to both reads with count 0. -/
theorem readStatus_exception_count_zero_rtu :
    ([] : List UInt8).length = TypeCom.rtu.headerLength ∧
      let env := fun function : UInt8 =>
        (⟨⟨modbusSend .rtu [0x01, function, 0x02], .timeOut⟩, [], 0, fun _ => 0⟩ : MasterEnv)
      (readCoilStatus .rtu 0 1 0 0 (env 0x81)).ret = 0 ∧
        (readHoldingRegisters .rtu 0 1 0 0 (env 0x83)).ret = 1 ∧
        (readHoldingRegisters .rtu 0 1 0 0 (env 0x83)).dest.map Prod.fst = [0] :=
  ⟨rfl, readStatus_exception_count_zero .rtu 0 1 0 [] rfl 1 2 [] 0 (fun _ => 0)⟩

/-- A peer that answers with the exception frame `[unit, 0x80 + function, k]`
after the MBAP header `hdr` (with the RTU trailer) and then stays silent. -/
def exceptionPeer (mbParam : TypeCom) (hdr : List UInt8) (unit : UInt8) (function k : Nat) : Peer :=
  ⟨modbusSend mbParam (hdr ++ [unit, toU8 (0x80 + function : Nat), toU8 k]), .timeOut⟩

/-- `compute_response_size` of a write or of `report_slave_id`: the six bytes
of an echo. -/
theorem computeResponseSize_of_write (mbParam : TypeCom) (query : List UInt8)
    (h5 : fcForceSingleCoil ≤ byteAt query (mbParam.headerLength + 1))
    (h7 : byteAt query (mbParam.headerLength + 1) ≠ fcReadExceptionStatus) :
    computeResponseSize mbParam query = 6 + mbParam.headerLength + mbParam.checksumSize := by
  simp only [computeResponseSize, fcReadCoilStatus, fcReadInputStatus, fcReadHoldingRegisters,
    fcReadInputRegisters, fcForceSingleCoil, fcReadExceptionStatus] at h5 h7 ⊢
  rw [if_neg (by omega), if_neg (by omega), if_neg h7]

section Exceptions

variable (mbParam : TypeCom) {hdr : List UInt8} (hhdr : hdr.length = mbParam.headerLength) (unit : UInt8)
  {k : Nat} (hk : 0 < k ∧ k < nbTabErrorMsg) (chunks : List Nat) (responseSize : Int) (stale : Nat → UInt8)

include hhdr hk in
theorem modbusCheckResponse_exceptionPeer (query : List UInt8) (function : Nat) (hf : function < 0x80)
    (hb : byteAt query (mbParam.headerLength + 1) = function)
    (hlt : mbParam.headerLength + 3 + mbParam.checksumSize < computeResponseSize mbParam query) :
    (modbusCheckResponse mbParam query
      ⟨exceptionPeer mbParam hdr unit function k, chunks, responseSize, stale⟩).1 = -k := by
  have h := modbusCheckResponse_exception mbParam query hdr hhdr unit k hk hlt (by rw [hb]; exact hf)
    chunks responseSize stale
  rw [hb] at h
  exact h

include hhdr hk in
theorem readStatus_exceptionPeer (tId : UInt16) (slave a c : Int) {function : Nat}
    (hfn : function = fcReadCoilStatus ∨ function = fcReadInputStatus) (hc : c % 65536 ≠ 0) :
    let call := readStatus function mbParam tId slave a c
      ⟨exceptionPeer mbParam hdr unit function k, chunks, responseSize, stale⟩
    call.ret = -k ∧ call.dest = [] := by
  have hF : (toU8 function).toNat = function := by
    rw [toU8_natCast_toNat]; rcases hfn with rfl | rfl <;> rfl
  have hr := modbusCheckResponse_exceptionPeer mbParam hhdr unit hk chunks responseSize stale
    (modbusSend mbParam (buildQueryPacket mbParam tId (toU8 slave) (toU8 function) (toU16 a) (toU16 c)).1)
    function (by rcases hfn with rfl | rfl <;> decide)
    (by rw [byteAt, (modbusSend_buildQueryPacket_fields mbParam tId _ _ _ _).2.1, hF])
    (by rw [computeResponseSize_buildQueryPacket, hF, if_pos hfn, toU16_toNat]; omega)
  have hk0 : (-(k : Int)).toNat = 0 := by omega
  simp only [readStatus, readIoStatus, hr, hk0]
  exact ⟨if_neg (by omega), rfl⟩

include hhdr hk in
theorem readRegistersCapped_exceptionPeer (maxCount : Int) (hmax : 0 < maxCount ∧ maxCount < 65536)
    (tId : UInt16) (slave a c : Int) {function : Nat}
    (hfn : function = fcReadHoldingRegisters ∨ function = fcReadInputRegisters) (hc : c % 65536 ≠ 0) :
    let call := readRegistersCapped maxCount function mbParam tId slave a c
      ⟨exceptionPeer mbParam hdr unit function k, chunks, responseSize, stale⟩
    call.ret = -k ∧ call.dest = [] := by
  have hF : (toU8 function).toNat = function := by
    rw [toU8_natCast_toNat]; rcases hfn with rfl | rfl <;> rfl
  have hc' : ((if c > maxCount then maxCount else c) % 65536) ≠ 0 := by split <;> omega
  have hr := modbusCheckResponse_exceptionPeer mbParam hhdr unit hk chunks responseSize stale
    (modbusSend mbParam (buildQueryPacket mbParam tId (toU8 slave) (toU8 function) (toU16 a)
      (toU16 (if c > maxCount then maxCount else c))).1)
    function (by rcases hfn with rfl | rfl <;> decide)
    (by rw [byteAt, (modbusSend_buildQueryPacket_fields mbParam tId _ _ _ _).2.1, hF])
    (by rw [computeResponseSize_buildQueryPacket, hF, if_neg (by rcases hfn with rfl | rfl <;> decide),
      if_pos hfn, toU16_toNat]; omega)
  have hk0 : (-(k : Int)).toNat = 0 := by omega
  simp only [readRegistersCapped, readRegisters, readRegResponse, hr, hk0]
  exact ⟨trivial, rfl⟩

include hhdr hk in
theorem setSingle_exceptionPeer (tId : UInt16) (slave addr value : Int) {function : Nat}
    (hfn : function = fcForceSingleCoil ∨ function = fcPresetSingleRegister) :
    (setSingle mbParam tId slave function addr value
      ⟨exceptionPeer mbParam hdr unit function k, chunks, responseSize, stale⟩).ret = -k := by
  have hb : byteAt (modbusSend mbParam (buildQueryPacket mbParam tId (toU8 slave) (toU8 function)
      (toU16 addr) (toU16 value)).1) (mbParam.headerLength + 1) = function := by
    rw [byteAt, (modbusSend_buildQueryPacket_fields mbParam tId _ _ _ _).2.1, toU8_natCast_toNat]
    rcases hfn with rfl | rfl <;> rfl
  exact modbusCheckResponse_exceptionPeer mbParam hhdr unit hk chunks responseSize stale _ function
    (by rcases hfn with rfl | rfl <;> decide) hb
    (by rw [computeResponseSize_of_write mbParam _ (by rw [hb]; rcases hfn with rfl | rfl <;> decide)
      (by rw [hb]; rcases hfn with rfl | rfl <;> decide)]; omega)

include hhdr hk in
theorem forceMultipleCoils_exceptionPeer (tId : UInt16) (slave a n : Int) (dataSrc : List UInt8) :
    (forceMultipleCoils mbParam tId slave a n dataSrc
      ⟨exceptionPeer mbParam hdr unit fcForceMultipleCoils k, chunks, responseSize, stale⟩).ret = -k := by
  have hb : byteAt (modbusSend mbParam (forceMultipleCoilsQuery mbParam tId slave a n dataSrc).1)
      (mbParam.headerLength + 1) = fcForceMultipleCoils := byteAt_modbusSend_buildQueryPacket _ _ _ _ _ _ _
  exact modbusCheckResponse_exceptionPeer mbParam hhdr unit hk chunks responseSize stale _
    fcForceMultipleCoils (by decide) hb
    (by rw [computeResponseSize_of_write mbParam _ (by rw [hb]; decide) (by rw [hb]; decide)]; omega)

include hhdr hk in
theorem presetMultipleRegisters_exceptionPeer (tId : UInt16) (slave a n : Int) (dataSrc : List UInt16) :
    (presetMultipleRegisters mbParam tId slave a n dataSrc
      ⟨exceptionPeer mbParam hdr unit fcPresetMultipleRegisters k, chunks, responseSize, stale⟩).ret =
      -k := by
  have hb : byteAt (modbusSend mbParam (presetMultipleRegistersQuery mbParam tId slave a n dataSrc).1)
      (mbParam.headerLength + 1) = fcPresetMultipleRegisters :=
    byteAt_modbusSend_buildQueryPacket _ _ _ _ _ _ _
  exact modbusCheckResponse_exceptionPeer mbParam hhdr unit hk chunks responseSize stale _
    fcPresetMultipleRegisters (by decide) hb
    (by rw [computeResponseSize_of_write mbParam _ (by rw [hb]; decide) (by rw [hb]; decide)]; omega)

include hhdr hk in
theorem reportSlaveId_exceptionPeer (tId : UInt16) (slave : Int) :
    let call := reportSlaveId mbParam tId slave
      ⟨exceptionPeer mbParam hdr unit fcReportSlaveId k, chunks, responseSize, stale⟩
    call.ret = -k ∧ call.dest = [] := by
  have hlen := length_buildQueryPacket mbParam tId (toU8 slave) (toU8 fcReportSlaveId) 0 0
  rw [presetQuerySizeRtu] at hlen
  have hb : byteAt (modbusSend mbParam ((buildQueryPacket mbParam tId (toU8 slave) (toU8 fcReportSlaveId)
      0 0).1.take ((buildQueryPacket mbParam tId (toU8 slave) (toU8 fcReportSlaveId) 0 0).1.length - 4)))
      (mbParam.headerLength + 1) = fcReportSlaveId := by
    rw [byteAt_modbusSend _ _ (Nat.le_add_right _ _) (by rw [List.length_take, hlen]; omega), byteAt,
      List.getD_eq_getElem?_getD, List.getElem?_take_of_lt (by omega), ← List.getD_eq_getElem?_getD,
      getD_buildQueryPacket_function]
    rfl
  have hr := modbusCheckResponse_exceptionPeer mbParam hhdr unit hk chunks responseSize stale _
    fcReportSlaveId (by decide) hb
    (by rw [computeResponseSize_of_write mbParam _ (by rw [hb]; decide) (by rw [hb]; decide)]; omega)
  have hk0 : (-(k : Int)).toNat = 0 := by omega
  simp only [reportSlaveId, hr, hk0]
  exact ⟨trivial, rfl⟩

end Exceptions

/-- **Every master operation recognises its exception frame.** For either
transport, every exception code `0 < k < NB_TAB_ERROR_MSG` and all arguments,
with a read count that is not 0 modulo 65536: when the peer answers each
request with the exception frame for its function code and then stays silent,
every operation returns `-k`, and no read writes `data_dest`. -/
theorem masterOperations_exception (mbParam : TypeCom) {hdr : List UInt8}
    (hhdr : hdr.length = mbParam.headerLength) (unit : UInt8) {k : Nat} (hk : 0 < k ∧ k < nbTabErrorMsg)
    (chunks : List Nat) (responseSize : Int) (stale : Nat → UInt8) (tId : UInt16) (slave a c : Int)
    (hc : c % 65536 ≠ 0) (value n : Int) (coils : List UInt8) (regs : List UInt16) :
    let env := fun function : Nat =>
      (⟨exceptionPeer mbParam hdr unit function k, chunks, responseSize, stale⟩ : MasterEnv)
    let rc := readCoilStatus mbParam tId slave a c (env fcReadCoilStatus)
    let ri := readInputStatus mbParam tId slave a c (env fcReadInputStatus)
    let rh := readHoldingRegisters mbParam tId slave a c (env fcReadHoldingRegisters)
    let rr := readInputRegisters mbParam tId slave a c (env fcReadInputRegisters)
    let rs := reportSlaveId mbParam tId slave (env fcReportSlaveId)
    (rc.ret = -k ∧ rc.dest = []) ∧ (ri.ret = -k ∧ ri.dest = []) ∧
      (rh.ret = -k ∧ rh.dest = []) ∧ (rr.ret = -k ∧ rr.dest = []) ∧
      (forceSingleCoil mbParam tId slave a value (env fcForceSingleCoil)).ret = -k ∧
      (presetSingleRegister mbParam tId slave a value (env fcPresetSingleRegister)).ret = -k ∧
      (forceMultipleCoils mbParam tId slave a n coils (env fcForceMultipleCoils)).ret = -k ∧
      (presetMultipleRegisters mbParam tId slave a n regs (env fcPresetMultipleRegisters)).ret = -k ∧
      (rs.ret = -k ∧ rs.dest = []) :=
  ⟨readStatus_exceptionPeer mbParam hhdr unit hk chunks responseSize stale tId slave a c (.inl rfl) hc,
    readStatus_exceptionPeer mbParam hhdr unit hk chunks responseSize stale tId slave a c (.inr rfl) hc,
    readRegistersCapped_exceptionPeer mbParam hhdr unit hk chunks responseSize stale _ (by decide)
      tId slave a c (.inl rfl) hc,
    readRegistersCapped_exceptionPeer mbParam hhdr unit hk chunks responseSize stale _ (by decide)
      tId slave a c (.inr rfl) hc,
    setSingle_exceptionPeer mbParam hhdr unit hk chunks responseSize stale tId slave a _ (.inl rfl),
    setSingle_exceptionPeer mbParam hhdr unit hk chunks responseSize stale tId slave a _ (.inr rfl),
    forceMultipleCoils_exceptionPeer mbParam hhdr unit hk chunks responseSize stale tId slave a n coils,
    presetMultipleRegisters_exceptionPeer mbParam hhdr unit hk chunks responseSize stale tId slave a n regs,
    reportSlaveId_exceptionPeer mbParam hhdr unit hk chunks responseSize stale tId slave⟩

/-- Exception 2 from unit 1 in RTU, to every operation on address 0 with
count 1. -/
theorem masterOperations_exception_rtu :
    ([] : List UInt8).length = TypeCom.rtu.headerLength ∧ (0 < 2 ∧ 2 < nbTabErrorMsg) ∧
      (1 : Int) % 65536 ≠ 0 ∧
      let env := fun function : Nat =>
        (⟨exceptionPeer .rtu [] 1 function 2, [], 0, fun _ => 0⟩ : MasterEnv)
      let rc := readCoilStatus .rtu 0 1 0 1 (env fcReadCoilStatus)
      let ri := readInputStatus .rtu 0 1 0 1 (env fcReadInputStatus)
      let rh := readHoldingRegisters .rtu 0 1 0 1 (env fcReadHoldingRegisters)
      let rr := readInputRegisters .rtu 0 1 0 1 (env fcReadInputRegisters)
      let rs := reportSlaveId .rtu 0 1 (env fcReportSlaveId)
      (rc.ret = -2 ∧ rc.dest = []) ∧ (ri.ret = -2 ∧ ri.dest = []) ∧
        (rh.ret = -2 ∧ rh.dest = []) ∧ (rr.ret = -2 ∧ rr.dest = []) ∧
        (forceSingleCoil .rtu 0 1 0 1 (env fcForceSingleCoil)).ret = -2 ∧
        (presetSingleRegister .rtu 0 1 0 1 (env fcPresetSingleRegister)).ret = -2 ∧
        (forceMultipleCoils .rtu 0 1 0 1 [1] (env fcForceMultipleCoils)).ret = -2 ∧
        (presetMultipleRegisters .rtu 0 1 0 1 [7] (env fcPresetMultipleRegisters)).ret = -2 ∧
        (rs.ret = -2 ∧ rs.dest = []) :=
  ⟨rfl, by decide, by decide,
    masterOperations_exception .rtu (rfl : ([] : List UInt8).length = _) 1 (by decide) [] 0 (fun _ => 0)
      0 1 0 1 (by decide) 1 1 [1] [7]⟩

/-! ## When `error_treat` runs -/

/-- What `error_treat` is called for, read off the value returned: every
negative code but `CONNECTION_CLOSED`, and the 0 of an exception frame with
code 0. -/
theorem checkResponseTreats_iff (mbParam : TypeCom) (query : List UInt8) {ret : Int}
    (hret : ret = 0 ∨ ret ≤ commTimeOut) {responseSize : Int} (hsize : ret = 0 → 0 ≤ responseSize)
    (response : Nat → UInt8) :
    checkResponseTreats mbParam query ret responseSize response = true ↔
      let out := checkResponse mbParam query ret responseSize response
      (out < 0 ∧ out ≠ connectionClosed) ∨ (out = 0 ∧ ret = commTimeOut) := by
  have hto : commTimeOut = -12 := rfl
  have hcc : connectionClosed = -18 := rfl
  have hinv : invalidCrc = -16 := rfl
  have hexc : invalidExceptionCode = -17 := rfl
  have h12 : nbTabErrorMsg = 12 := rfl
  simp only [checkResponseTreats, checkResponse]
  have hL : (0 : Int) < mbParam.headerLength + 3 + mbParam.checksumSize := by omega
  have hne : invalidCrc ≠ 0 := by decide
  have hcrc := checkCrc16_eq_zero_or mbParam (prefixOf response responseSize.toNat)
  by_cases h0 : ret = 0
  · -- a complete frame: `INVALID_CRC`, or a decoded value that is not negative
    have := responseValue_nonneg mbParam response (hsize h0)
    simp only [if_pos h0]
    rcases hcrc with hcrc | hcrc <;> rw [hcrc]
    · simp only [ne_eq, not_true_eq_false, decide_False, if_false, Bool.false_eq_true, false_iff]
      omega
    · simp only [hne, ne_eq, not_false_eq_true, decide_True, if_true, true_iff]
      omega
  simp only [if_neg h0]
  by_cases h1 : ret = commTimeOut ∧ responseSize = mbParam.headerLength + 3 + mbParam.checksumSize
  · -- a timeout after as many bytes as an exception frame has
    obtain ⟨ht, hs⟩ := h1
    simp only [if_pos (And.intro ht hs)]
    rcases hcrc with hcrc | hcrc <;> rw [hcrc]
    · simp only [ne_eq, not_true_eq_false, if_false, false_or, decide_eq_true_eq]
      split_ifs with hfn hk
      · simp only [hfn, true_iff]; omega
      · simp only [hfn, true_iff]; omega
      · simp only [hfn, false_iff]; omega
    · simp only [hne, ne_eq, not_false_eq_true, true_or, decide_True, if_true, true_iff]
      omega
  · -- any other failure of `receive_msg` is returned as it is
    simp only [if_neg h1, decide_eq_true_eq]
    omega

/-- `checkResponse` gives `INVALID_EXCEPTION_CODE` exactly on the branch
that frees `s_error`, when `ret` is not that code itself. -/
theorem checkResponseAborts_iff (mbParam : TypeCom) (query : List UInt8) {ret : Int}
    (hret : ret ≠ invalidExceptionCode) {responseSize : Int} (hsize : ret = 0 → 0 ≤ responseSize)
    (response : Nat → UInt8) :
    checkResponseAborts mbParam query ret responseSize response = true ↔
      checkResponse mbParam query ret responseSize response = invalidExceptionCode := by
  have hexc : invalidExceptionCode = -17 := rfl
  have hto : commTimeOut = -12 := rfl
  have h12 : nbTabErrorMsg = 12 := rfl
  have hne : invalidCrc ≠ 0 := by decide
  have hL : (0 : Int) < mbParam.headerLength + 3 + mbParam.checksumSize := by omega
  simp only [checkResponseAborts, checkResponse, decide_eq_true_eq]
  rcases checkCrc16_eq_zero_or mbParam (prefixOf response responseSize.toNat) with hcrc | hcrc <;>
    rw [hcrc]
  · by_cases h0 : ret = 0
    · -- a complete frame decodes to a value that is not negative
      have := responseValue_nonneg mbParam response (hsize h0)
      simp only [if_pos h0, ne_eq, not_true_eq_false, if_false]
      omega
    by_cases h1 : ret = commTimeOut ∧ responseSize = mbParam.headerLength + 3 + mbParam.checksumSize
    · simp only [if_neg h0, if_pos h1, h1, ne_eq, not_true_eq_false, if_false, true_and]
      split_ifs <;> omega
    · simp only [if_neg h0, if_neg h1]
      omega
  · -- a CRC mismatch is reported as such, and the abort needs a good CRC
    have hinv : invalidCrc = -16 := rfl
    simp only [hne, and_false, false_and, false_iff, ne_eq, not_false_eq_true, if_true]
    split_ifs <;> omega

/-- **`modbus_check_response` calls `error_treat` exactly on the errors it
reports.** For either transport, every request and every environment (the
stream, its chunking and the uninitialised `response_size` and `response`):
the model's `INVALID_EXCEPTION_CODE` stands exactly for the branch that frees
the stack array `s_error`, from which the call does not return; and when it
returns, `error_treat`, which flushes the serial line in RTU and may reconnect
in TCP, has run exactly when the call returns a negative code other than
`CONNECTION_CLOSED`, or returns 0 after a timeout, which only an exception
frame with code 0 gives. -/
theorem modbusCheckResponseTreats_iff (mbParam : TypeCom) (query : List UInt8) (env : MasterEnv) :
    let ret := (modbusCheckResponse mbParam query env).1
    (modbusCheckResponseAborts mbParam query env = true ↔ ret = invalidExceptionCode) ∧
      (modbusCheckResponseAborts mbParam query env = false →
        (modbusCheckResponseTreats mbParam query env = true ↔
          (ret < 0 ∧ ret ≠ connectionClosed) ∨
            (ret = 0 ∧ (receiveMsg mbParam (some (computeResponseSize mbParam query)) env.peer
              env.chunks).code = commTimeOut))) := by
  have hpos := computeResponseSize_pos mbParam query
  have hpos' : ∀ n, some (computeResponseSize mbParam query) = some n → 0 < n :=
    fun _ h => Option.some_inj.mp h ▸ hpos
  refine ⟨checkResponseAborts_iff mbParam query
      (receiveMsg_code_ne_invalidExceptionCode mbParam _ env.peer env.chunks hpos') (fun h0 => ?_) _,
    fun _ => checkResponseTreats_iff mbParam query (receiveMsg_code_cases mbParam _ env.peer env.chunks hpos')
      (fun h0 => ?_) _⟩
  all_goals
    obtain ⟨hm, -⟩ := receiveMsg_some_code_zero mbParam hpos env.peer env.chunks h0
    simp only [hm]
    omega

/-- On a line silent from the first wait, `*msg_size` is never written: the
call reaches `free(s_error)` on what the uninitialised `response_size` and
`response` hold. -/
theorem modbusCheckResponseAborts_silent (mbParam : TypeCom) (query : List UInt8) (chunks : List Nat)
    (responseSize : Int) (response : Nat → UInt8) :
    modbusCheckResponseAborts mbParam query ⟨⟨[], .timeOut⟩, chunks, responseSize, response⟩ =
      checkResponseAborts mbParam query commTimeOut responseSize response :=
  rfl

/-- A reply that arrived does not reach `free(s_error)` when it is as long as
the call expects, or not as long as an exception frame: the branch needs a
timeout after exactly that many bytes. -/
theorem modbusCheckResponseAborts_eq_false (mbParam : TypeCom) (query : List UInt8) (env : MasterEnv)
    (hne : env.peer.bytes ≠ [])
    (hlen : computeResponseSize mbParam query ≤ env.peer.bytes.length ∨
      env.peer.bytes.length ≠ mbParam.headerLength + 3 + mbParam.checksumSize) :
    modbusCheckResponseAborts mbParam query env = false := by
  by_cases hc : (receiveMsg mbParam (some (computeResponseSize mbParam query)) env.peer env.chunks).code =
    commTimeOut
  · obtain ⟨hm, hlt, -⟩ := receiveMsg_some_timeOut mbParam (computeResponseSize_pos mbParam query) env.peer
      env.chunks hne hc
    simp only [modbusCheckResponseAborts, checkResponseAborts, hm, decide_eq_false_iff_not]
    exact fun h => by omega
  · simp only [modbusCheckResponseAborts, checkResponseAborts, hc, false_and, decide_False]

/-- A complete frame that passes `check_crc16` goes through without `error_treat`. -/
theorem modbusCheckResponseTreats_complete (mbParam : TypeCom) (query : List UInt8) (env : MasterEnv)
    (hle : computeResponseSize mbParam query ≤ env.peer.bytes.length)
    (hfit : computeResponseSize mbParam query ≤ maxPacketSize)
    (hcrc : checkCrc16 mbParam (env.peer.bytes.take (computeResponseSize mbParam query)) = 0) :
    modbusCheckResponseTreats mbParam query env = false := by
  simp only [modbusCheckResponseTreats, receiveMsg_some_complete mbParam (computeResponseSize_pos mbParam query)
    env.peer env.chunks hle hfit, Option.getD_some, checkResponseTreats, if_true, Int.toNat_ofNat,
    prefixOf_overlay, hcrc, ne_eq, not_true_eq_false, decide_False]

/-! ## A silent peer -/

/-- With a silent peer, the result of `read_holding_registers(1, 0, 1)` is
decided by the uninitialised `response_size` and `response`: `COMM_TIME_OUT`
when `response_size` held 0, and exception 2, which no peer sent, when it held
5 over a buffer holding the frame `01 83 02 C0 F1`. -/
theorem readHoldingRegisters_stale_response_size :
    let env : Int → MasterEnv := fun responseSize =>
      ⟨⟨[], .timeOut⟩, [], responseSize, fun i => [0x01, 0x83, 0x02, 0xC0, 0xF1].getD i 0⟩
    (readHoldingRegisters .rtu 0 1 0 1 (env 0)).ret = commTimeOut ∧
      (readHoldingRegisters .rtu 0 1 0 1 (env 5)).ret = -2 := by
  decide

end Modbus
