import Modbus.Receive

/-!
# Modbus — the server side

`modbus_listen` reads a request with `receive_msg` in `MSG_SIZE_UNDEFINED`
mode and checks its CRC; `manage_query` serves it from a `modbus_mapping_t`
and transmits the reply.

`manage_query` indexes each table through its pointer with the request's
16-bit address and makes no range check, so a table is modelled as the memory
from the pointer on, `Nat → UInt8` or `Nat → UInt16`: the entries below the
declared length, and whatever follows them. Its local `response` buffer is
transmitted unwritten for the function codes it does not serve; its initial
contents are an input of the model.

## Results

* `manageQuery_map` — `manage_query` leaves the map as it is, or, for
  function code 5, sets the coil at the request's address to `ON` or `OFF`.
* `manageQuery_buildQueryPacket_status`, `manageQuery_buildQueryPacket_registers`
  — the reply to a read request that `build_query_packet` built: its byte
  count, and the entries it carries, from the address's low byte on for a
  bit read.
* `responseIoStatusLoop_testBit` — over entries that are 0 or 1, bit `g % 8`
  of packed byte `g / 8` is set exactly when `g < count` and entry
  `address + g` is 1.
* `modbusListen_buildQueryPacket` — a request of function code 1 to 5 is read
  whole and passes the CRC check, under every chunking.
* `modbusListen_multiWrite` — so is a write of several coils or registers
  whose byte count fits.
* `manageQuery_unserved` — every other function code leaves the map and is
  answered with the unwritten header of the local `response` buffer.
* `manageQuery_buildQueryPacket_forceSingleCoil` — a single-coil write sets
  the coil and is answered with the request passed through `modbus_send` once
  more.
* `manageQuery_reads_past_declared_length` — a read of coil 0 from a map whose
  tables are all declared empty passes `modbus_listen` and is answered with
  data, taken from the memory past the empty coil table.
-/

namespace Modbus

/-! ## The register map -/

/-- `modbus_mapping_t`: the four tables and their declared lengths. -/
structure ModbusMapping where
  nbCoilStatus : Nat
  tabCoilStatus : Nat → UInt8
  nbInputStatus : Nat
  tabInputStatus : Nat → UInt8
  nbHoldingRegisters : Nat
  tabHoldingRegisters : Nat → UInt16
  nbInputRegisters : Nat
  tabInputRegisters : Nat → UInt16

/-- The map after `tab_coil_status[address] = value`. -/
def ModbusMapping.setCoil (m : ModbusMapping) (address : Nat) (value : UInt8) : ModbusMapping :=
  { m with tabCoilStatus := fun i => if i = address then value else m.tabCoilStatus i }

/-! ## `response_io_status` -/

/-- The loop of `response_io_status`: `count` more entries from
`tab_io_status[i]` on, with `shift` bits already in `byte`; the bytes it
writes. `byte |= tab_io_status[i] << shift` keeps the low eight bits. -/
def responseIoStatusLoop (tab : Nat → UInt8) : (count i shift : Nat) → (byte : UInt8) → List UInt8
  | 0, _, shift, byte => if shift ≠ 0 then [byte] else []
  | count + 1, i, shift, byte =>
    let byte := byte ||| (tab i <<< shift.toUInt8)
    if shift = 7 then byte :: responseIoStatusLoop tab count (i + 1) 0 0
    else responseIoStatusLoop tab count (i + 1) (shift + 1) byte

/-- `response_io_status(address, count, tab_io_status, response, offset)`: the
bytes it writes from `response[offset]` on. Its `address` is a `uint8_t`. -/
def responseIoStatus (address : UInt8) (count : UInt16) (tab : Nat → UInt8) : List UInt8 :=
  responseIoStatusLoop tab count.toNat address.toNat 0 0

/-- The register loop of `manage_query`: `tab[i] >> 8` and `tab[i] & 0xFF` for
`i = address, …, address + count - 1`. -/
def responseRegisters (tab : Nat → UInt16) (address count : Nat) : List UInt8 :=
  (List.range count).flatMap fun k => splitWord (tab (address + k))

theorem responseRegisters_succ (tab : Nat → UInt16) (address count : Nat) :
    responseRegisters tab address (count + 1) =
      responseRegisters tab address count ++ splitWord (tab (address + count)) := by
  simp [responseRegisters, List.range_succ, List.flatMap_append]

@[simp] theorem length_responseRegisters (tab : Nat → UInt16) (address count : Nat) :
    (responseRegisters tab address count).length = 2 * count := by
  induction count with
  | zero => rfl
  | succ n ih => rw [responseRegisters_succ, List.length_append, ih]; simp [splitWord]; omega

/-- Register `address + i` sits at bytes `2i` and `2i + 1`, high byte first. -/
theorem responseRegisters_getD (tab : Nat → UInt16) (address : Nat) {count i : Nat}
    (hi : i < count) :
    (responseRegisters tab address count).getD (2 * i) 0 = (tab (address + i) >>> 8).toUInt8 ∧
      (responseRegisters tab address count).getD (2 * i + 1) 0 = (tab (address + i) &&& 0xFF).toUInt8 := by
  induction count with
  | zero => omega
  | succ n ih =>
    rw [responseRegisters_succ]
    rcases Nat.lt_succ_iff_lt_or_eq.mp hi with hlt | rfl
    · have hl := length_responseRegisters tab address n
      rw [List.getD_append _ _ _ _ (by omega), List.getD_append _ _ _ _ (by omega)]
      exact ih hlt
    · have hl := length_responseRegisters tab address i
      constructor
      · rw [← hl, ← Nat.add_zero (responseRegisters tab address i).length, getD_append_length]
        rfl
      · rw [← hl, getD_append_length]
        rfl

/-- The loop writes one byte per eight entries, counting the `shift` bits
already in `byte`. -/
theorem length_responseIoStatusLoop (tab : Nat → UInt8) :
    ∀ (count i shift : Nat) (byte : UInt8), shift < 8 →
      (responseIoStatusLoop tab count i shift byte).length = (shift + count + 7) / 8
  | 0, _, shift, _, hs => by
    simp only [responseIoStatusLoop]
    split <;> simp only [List.length_singleton, List.length_nil] <;> omega
  | count + 1, i, shift, byte, hs => by
    simp only [responseIoStatusLoop]
    split
    · rw [List.length_cons, length_responseIoStatusLoop tab count (i + 1) 0 0 (by decide)]; omega
    · rw [length_responseIoStatusLoop tab count (i + 1) (shift + 1) _ (by omega)]; omega

/-- What the loop of `response_io_status` writes, bit by bit: with `shift`
bits already in `byte` and `count` entries from `tab[i]` on, each `ON` or `OFF`,
bit `g` of the bytes written is bit `g` of `byte` below `shift`, then the
entries in order, then 0 to the end of the last byte. -/
theorem responseIoStatusLoop_testBit (tab : Nat → UInt8) :
    ∀ (count i shift : Nat) (byte : UInt8), (∀ k, i ≤ k → k < i + count → (tab k).toNat ≤ 1) →
      shift < 8 → byte.toNat < 2 ^ shift → ∀ g, g < 8 * ((shift + count + 7) / 8) →
        ((responseIoStatusLoop tab count i shift byte).getD (g / 8) 0).toNat.testBit (g % 8) =
          if g < shift then byte.toNat.testBit g
          else decide (g < shift + count ∧ (tab (i + (g - shift))).toNat = 1) := by
  intro count
  induction count with
  | zero =>
    intro i shift byte _ hs hb g hg
    have hg8 : g < 8 := by omega
    have h0 : shift ≠ 0 := by omega
    simp only [responseIoStatusLoop, if_pos h0, Nat.div_eq_of_lt hg8, Nat.mod_eq_of_lt hg8,
      List.getD_cons_zero]
    split
    · rfl
    · rename_i hgs
      rw [testBit_eq_false_of_lt_two_pow hb (Nat.le_of_not_lt hgs)]
      simp [hgs]
  | succ count ih =>
    intro i shift byte htab hs hb g hg
    have hti := htab i (Nat.le_refl _) (by omega)
    have htab' : ∀ k, i + 1 ≤ k → k < i + 1 + count → (tab k).toNat ≤ 1 :=
      fun k h1 h2 => htab k (by omega) (by omega)
    have hbit := testBit_or_shiftLeft byte (tab i) hti hs
    simp only [responseIoStatusLoop]
    split
    · -- the byte is full
      rename_i h7
      subst h7
      by_cases hg8 : g < 8
      · rw [Nat.div_eq_of_lt hg8, Nat.mod_eq_of_lt hg8, List.getD_cons_zero, hbit]
        by_cases hg7 : g < 7
        · simp [hg7, show g ≠ 7 by omega]
        · have : g = 7 := by omega
          subst this
          rw [Nat.testBit_lt_two_pow hb]
          simp
      · have hg' : g / 8 = (g - 8) / 8 + 1 := by omega
        rw [hg', List.getD_cons_succ, show g % 8 = (g - 8) % 8 by omega,
          ih (i + 1) 0 0 htab' (by decide) (by decide) (g - 8) (by omega)]
        simp only [Nat.not_lt_zero, if_false, show ¬ g < 7 by omega]
        congr 1
        simp only [show i + 1 + (g - 8 - 0) = i + (g - 7) by omega]
        apply propext; constructor <;> (rintro ⟨h1, h2⟩; exact ⟨by omega, h2⟩)
    · -- one more bit in the byte
      rw [ih (i + 1) (shift + 1) _ htab' (by omega) (toNat_or_shiftLeft_lt byte (tab i) hti hs hb) g
        (by omega), hbit]
      by_cases hgs : g < shift
      · simp [hgs, show g < shift + 1 by omega, show g ≠ shift by omega]
      · by_cases hge : g = shift
        · subst hge
          rw [Nat.testBit_lt_two_pow hb]
          simp
        · simp only [show ¬ g < shift + 1 by omega, hgs, if_false,
            show i + 1 + (g - (shift + 1)) = i + (g - shift) by omega,
            show (g < shift + 1 + count) = (g < shift + (count + 1)) by apply propext; omega]

/-! ## `manage_query` and `modbus_listen` -/

/-- `manage_query(mb_param, query, query_size, mb_mapping)`: the frame it
transmits, the map afterwards and the server's TCP counter afterwards.
`query` holds the `query_size` bytes received; `response` is what the
uninitialised `response[MAX_PACKET_SIZE]` held. -/
def manageQuery (mbParam : TypeCom) (tId : UInt16) (query : List UInt8)
    (mbMapping : ModbusMapping) (response : Nat → UInt8) :
    List UInt8 × ModbusMapping × UInt16 :=
  let offset := mbParam.headerLength
  let slave := query.getD offset 0
  let function := query.getD (offset + 1) 0
  let address := wordAt query (offset + 2)
  let count := wordAt query (offset + 4)
  if function.toNat = fcReadCoilStatus ∨ function.toNat = fcReadInputStatus then
    let byteCount := count / 8 + (if count % 8 ≠ 0 then 1 else 0)
    let p := buildResponsePacket mbParam tId slave function (toU8 byteCount)
    let tab := if function.toNat = fcReadCoilStatus then mbMapping.tabCoilStatus
      else mbMapping.tabInputStatus
    (modbusSend mbParam (p.1 ++ responseIoStatus (toU8 address) (toU16 count) tab), mbMapping, p.2)
  else if function.toNat = fcReadHoldingRegisters ∨ function.toNat = fcReadInputRegisters then
    let p := buildResponsePacket mbParam tId slave function (toU8 (2 * count))
    let tab := if function.toNat = fcReadHoldingRegisters then mbMapping.tabHoldingRegisters
      else mbMapping.tabInputRegisters
    (modbusSend mbParam (p.1 ++ responseRegisters tab address count), mbMapping, p.2)
  else if function.toNat = fcForceSingleCoil then
    let data := count
    let mbMapping :=
      if data = 0xFF00 then mbMapping.setCoil address ON
      else if data = 0 then mbMapping.setCoil address OFF
      else mbMapping
    (modbusSend mbParam query, mbMapping, tId)
  else (modbusSend mbParam (prefixOf response offset), mbMapping, tId)

/-- `modbus_listen(mb_param, query, query_size)`: the code it returns and the
bytes it stores in `query`, `*query_size` of them. -/
def modbusListen (mbParam : TypeCom) (peer : Peer) (chunks : List Nat) : Received :=
  let r := receiveMsg mbParam none peer chunks
  if r.code = 0 then { r with code := checkCrc16 mbParam (r.msg?.getD []) } else r

/-- Whether `modbus_listen` calls `error_treat`: `receive_msg` does on a failed
`read`, on `TOO_MANY_DATAS` and on a failed `select`, and `check_crc16` on a
CRC mismatch; a timeout and a closed connection are returned untreated. -/
def modbusListenTreats (mbParam : TypeCom) (peer : Peer) (chunks : List Nat) : Bool :=
  let r := receiveMsg mbParam none peer chunks
  if r.code = 0 then checkCrc16 mbParam (r.msg?.getD []) ≠ 0
  else r.code = portSocketFailure ∨ r.code = selectFailure ∨ r.code = tooManyDatas

/-- A request `modbus_listen` accepts went through without `error_treat`. -/
theorem modbusListenTreats_of_code_zero {mbParam : TypeCom} {peer : Peer} {chunks : List Nat}
    (h : (modbusListen mbParam peer chunks).code = 0) : modbusListenTreats mbParam peer chunks = false := by
  simp only [modbusListen] at h
  by_cases h0 : (receiveMsg mbParam none peer chunks).code = 0
  · rw [if_pos h0] at h
    simp only [modbusListenTreats, if_pos h0, decide_eq_false_iff_not, not_not]
    exact h
  · rw [if_neg h0] at h
    exact absurd h h0

/-! ## What `manage_query` does to the map -/

/-- `manage_query` leaves the map as it is, or, for function code 5, sets the
coil at the request's address to `ON` or `OFF`. -/
theorem manageQuery_map (mbParam : TypeCom) (tId : UInt16) (query : List UInt8)
    (mbMapping : ModbusMapping) (response : Nat → UInt8) :
    (manageQuery mbParam tId query mbMapping response).2.1 = mbMapping ∨
      (byteAt query (mbParam.headerLength + 1) = fcForceSingleCoil ∧ ∃ v, (v = ON ∨ v = OFF) ∧
        (manageQuery mbParam tId query mbMapping response).2.1 =
          mbMapping.setCoil (wordAt query (mbParam.headerLength + 2)) v) := by
  by_cases h5 : byteAt query (mbParam.headerLength + 1) = fcForceSingleCoil
  · have h14 : ¬(byteAt query (mbParam.headerLength + 1) = fcReadCoilStatus ∨
        byteAt query (mbParam.headerLength + 1) = fcReadInputStatus) ∧
        ¬(byteAt query (mbParam.headerLength + 1) = fcReadHoldingRegisters ∨
        byteAt query (mbParam.headerLength + 1) = fcReadInputRegisters) := by
      rw [h5]; decide
    unfold byteAt at h5 h14
    simp only [manageQuery, if_neg h14.1, if_neg h14.2, if_pos h5]
    split_ifs
    · exact .inr ⟨h5, ON, .inl rfl, rfl⟩
    · exact .inr ⟨h5, OFF, .inr rfl, rfl⟩
    · exact .inl rfl
  · -- every other function code returns the map it was given
    left
    unfold byteAt at h5
    simp only [manageQuery, if_neg h5]
    split_ifs <;> rfl

/-- `manage_query` on a register read, function code 3 or 4. -/
theorem manageQuery_registers (mbParam : TypeCom) (tId : UInt16) (query : List UInt8)
    (mbMapping : ModbusMapping) (response : Nat → UInt8)
    (hfn : byteAt query (mbParam.headerLength + 1) = fcReadHoldingRegisters ∨
      byteAt query (mbParam.headerLength + 1) = fcReadInputRegisters) :
    let offset := mbParam.headerLength
    let count := wordAt query (offset + 4)
    let p := buildResponsePacket mbParam tId (query.getD offset 0) (query.getD (offset + 1) 0)
      (toU8 (2 * count))
    let tab := if byteAt query (offset + 1) = fcReadHoldingRegisters then
      mbMapping.tabHoldingRegisters else mbMapping.tabInputRegisters
    manageQuery mbParam tId query mbMapping response =
      (modbusSend mbParam (p.1 ++ responseRegisters tab (wordAt query (offset + 2)) count), mbMapping, p.2) := by
  unfold byteAt at hfn
  have h12 : ¬((query.getD (mbParam.headerLength + 1) 0).toNat = fcReadCoilStatus ∨
      (query.getD (mbParam.headerLength + 1) 0).toNat = fcReadInputStatus) := by
    simp only [fcReadCoilStatus, fcReadInputStatus, fcReadHoldingRegisters, fcReadInputRegisters] at hfn ⊢
    omega
  simp only [manageQuery, if_neg h12, if_pos hfn, byteAt]

/-! ## Requests that `build_query_packet` built -/

/-- `manage_query` on a bit read that `build_query_packet` built: the reply
carries `⌈count / 8⌉` bytes, packed from entry `address % 256` on. -/
theorem manageQuery_buildQueryPacket_status (mbParam : TypeCom) (tId tIdS : UInt16)
    (slave function : UInt8) (address count : UInt16) (mbMapping : ModbusMapping)
    (response : Nat → UInt8)
    (hfn : function.toNat = fcReadCoilStatus ∨ function.toNat = fcReadInputStatus) :
    let tab := if function.toNat = fcReadCoilStatus then mbMapping.tabCoilStatus
      else mbMapping.tabInputStatus
    let p := buildResponsePacket mbParam tIdS slave function (toU8 ((count.toNat + 7) / 8 : Nat))
    manageQuery mbParam tIdS (modbusSend mbParam
        (buildQueryPacket mbParam tId slave function address count).1) mbMapping response =
      (modbusSend mbParam (p.1 ++ responseIoStatusLoop tab count.toNat (address.toNat % 256) 0 0),
        mbMapping, p.2) := by
  obtain ⟨hS, hF, hA, hC⟩ := modbusSend_buildQueryPacket_fields mbParam tId slave function address count
  have hbytes : count.toNat / 8 + (if count.toNat % 8 ≠ 0 then 1 else 0) = (count.toNat + 7) / 8 := by
    split <;> omega
  simp only [manageQuery, hS, hF, hA, hC, if_pos hfn, responseIoStatus, toU16_toNat_cast,
    toU8_natCast_toNat, hbytes]

/-- `manage_query` on a register read that `build_query_packet` built: the
reply carries `count` registers from entry `address` on. -/
theorem manageQuery_buildQueryPacket_registers (mbParam : TypeCom) (tId tIdS : UInt16)
    (slave function : UInt8) (address count : UInt16) (mbMapping : ModbusMapping)
    (response : Nat → UInt8)
    (hfn : function.toNat = fcReadHoldingRegisters ∨ function.toNat = fcReadInputRegisters) :
    let tab := if function.toNat = fcReadHoldingRegisters then mbMapping.tabHoldingRegisters
      else mbMapping.tabInputRegisters
    let p := buildResponsePacket mbParam tIdS slave function (toU8 (2 * count.toNat : Nat))
    manageQuery mbParam tIdS (modbusSend mbParam
        (buildQueryPacket mbParam tId slave function address count).1) mbMapping response =
      (modbusSend mbParam (p.1 ++ responseRegisters tab address.toNat count.toNat), mbMapping, p.2) := by
  obtain ⟨hS, hF, hA, hC⟩ := modbusSend_buildQueryPacket_fields mbParam tId slave function address count
  have hq := manageQuery_registers mbParam tIdS
    (modbusSend mbParam (buildQueryPacket mbParam tId slave function address count).1) mbMapping response
    (by simp only [byteAt, hF]; exact hfn)
  simp only [byteAt, hS, hF, hA, hC] at hq
  rw [hq]
  rfl

/-- `manage_query` on a single-coil write that `build_query_packet` built: the
coil at the address is set to `ON` for `0xFF00` and to `OFF` for 0, and left
for any other value; the reply is the request passed through `modbus_send`
once more. -/
theorem manageQuery_buildQueryPacket_forceSingleCoil (mbParam : TypeCom) (tId tIdS : UInt16)
    (slave : UInt8) (address value : UInt16) (mbMapping : ModbusMapping) (response : Nat → UInt8) :
    let request := modbusSend mbParam
      (buildQueryPacket mbParam tId slave (toU8 fcForceSingleCoil) address value).1
    manageQuery mbParam tIdS request mbMapping response =
      (request ++ List.replicate mbParam.checksumSize 0,
        if value.toNat = 0xFF00 then mbMapping.setCoil address.toNat ON
        else if value.toNat = 0 then mbMapping.setCoil address.toNat OFF else mbMapping, tIdS) := by
  intro request
  obtain ⟨-, hF, hA, hC⟩ :=
    modbusSend_buildQueryPacket_fields mbParam tId slave (toU8 fcForceSingleCoil) address value
  have h5 : (toU8 fcForceSingleCoil).toNat = fcForceSingleCoil := rfl
  have hecho : modbusSend mbParam request = request ++ List.replicate mbParam.checksumSize 0 :=
    modbusSend_modbusSend mbParam _
  simp only [manageQuery, hF, hA, hC, h5, hecho, if_true,
    if_neg (by decide : ¬(fcForceSingleCoil = fcReadCoilStatus ∨ fcForceSingleCoil = fcReadInputStatus)),
    if_neg (by decide :
      ¬(fcForceSingleCoil = fcReadHoldingRegisters ∨ fcForceSingleCoil = fcReadInputRegisters))]

/-- `modbus_listen` on a stream that starts with a frame `modbus_send`
transmitted, when the engine discovers the frame's length: it stores the
frame and accepts its CRC. -/
theorem modbusListen_modbusSend (mbParam : TypeCom) (query rest : List UInt8) (silence : Silence)
    (chunks : List Nat) (htarget : recvTarget mbParam (modbusSend mbParam query ++ rest) .function
      (mbParam.headerLength + 2) = (modbusSend mbParam query).length)
    (hpos : 0 < (modbusSend mbParam query).length)
    (hfit : (modbusSend mbParam query).length ≤ maxPacketSize) :
    modbusListen mbParam ⟨modbusSend mbParam query ++ rest, silence⟩ chunks =
      ⟨0, some (modbusSend mbParam query)⟩ := by
  have hrecv := receiveMsg_none_target mbParam ⟨modbusSend mbParam query ++ rest, silence⟩ chunks
    htarget hpos (by rw [List.length_append]; omega) hfit
  rw [List.take_left] at hrecv
  simp only [modbusListen, hrecv, Option.getD_some, checkCrc16_modbusSend, if_true]

/-- **`modbus_listen` reads every request of function code 1 to 5 whole.**
For either transport, under every chunking and whatever follows it on the
stream, the server stores exactly the request `build_query_packet` built and
`modbus_send` transmitted, and its CRC passes. -/
theorem modbusListen_buildQueryPacket (mbParam : TypeCom) (tId : UInt16) (slave function : UInt8)
    (startAddr count : UInt16) (hfn : function.toNat ≤ fcForceSingleCoil) (rest : List UInt8)
    (silence : Silence) (chunks : List Nat) :
    let request := modbusSend mbParam (buildQueryPacket mbParam tId slave function startAddr count).1
    modbusListen mbParam ⟨request ++ rest, silence⟩ chunks = ⟨0, some request⟩ := by
  have hlen := length_buildQueryPacket mbParam tId slave function startAddr count
  have := headerLength_add_checksumSize_le mbParam
  refine modbusListen_modbusSend mbParam _ rest silence chunks
    (recvTarget_buildQueryPacket mbParam tId slave function startAddr count hfn rest) ?_ ?_
  · rw [length_modbusSend, hlen, presetQuerySizeRtu]; omega
  · rw [length_modbusSend, hlen, presetQuerySizeRtu, maxPacketSize]; omega

/-- The request for three holding registers of unit 0x11, read in chunks
of 1, 2 and 3 bytes, with the start of a next request behind it. -/
theorem modbusListen_buildQueryPacket_three_holding_registers :
    modbusListen .rtu ⟨modbusSend .rtu (buildQueryPacket .rtu 0 0x11 0x03 0x6B 0x03).1 ++ [0x11, 0x03],
      .timeOut⟩ [1, 2, 3] = ⟨0, some (modbusSend .rtu (buildQueryPacket .rtu 0 0x11 0x03 0x6B 0x03).1)⟩ :=
  modbusListen_buildQueryPacket .rtu 0 0x11 0x03 0x6B 0x03 (by decide) [0x11, 0x03] .timeOut [1, 2, 3]

/-- `manage_query` on a function code it does not serve, none of 1 to 5: the
map is left as it is, and the reply is the first `header_length` bytes of its
local `response` buffer, never written, passed through `modbus_send`. -/
theorem manageQuery_unserved (mbParam : TypeCom) (tId : UInt16) (query : List UInt8)
    (mbMapping : ModbusMapping) (response : Nat → UInt8)
    (hfn : byteAt query (mbParam.headerLength + 1) = 0 ∨
      fcForceSingleCoil < byteAt query (mbParam.headerLength + 1)) :
    manageQuery mbParam tId query mbMapping response =
      (modbusSend mbParam (prefixOf response mbParam.headerLength), mbMapping, tId) := by
  have h : ¬(byteAt query (mbParam.headerLength + 1) = fcReadCoilStatus ∨
      byteAt query (mbParam.headerLength + 1) = fcReadInputStatus) ∧
      ¬(byteAt query (mbParam.headerLength + 1) = fcReadHoldingRegisters ∨
      byteAt query (mbParam.headerLength + 1) = fcReadInputRegisters) ∧
      ¬byteAt query (mbParam.headerLength + 1) = fcForceSingleCoil := by
    simp only [fcReadCoilStatus, fcReadInputStatus, fcReadHoldingRegisters, fcReadInputRegisters,
      fcForceSingleCoil] at hfn ⊢
    omega
  unfold byteAt at h
  simp only [manageQuery, if_neg h.1, if_neg h.2.1, if_neg h.2.2]

/-- **`modbus_listen` reads every write of several coils or registers whole**
whose byte count `b` counts the bytes after it, while `b` and the trailer fit a
`uint8_t` and the request fits `MAX_PACKET_SIZE`: under every chunking and
whatever follows it on the stream, and its CRC passes. -/
theorem modbusListen_multiWrite (mbParam : TypeCom) (tId : UInt16) (slave function : UInt8)
    (startAddr count : UInt16)
    (hfn : function.toNat = fcForceMultipleCoils ∨ function.toNat = fcPresetMultipleRegisters)
    (b : UInt8) (data : List UInt8) (hb : b.toNat = data.length)
    (hsize : data.length + mbParam.checksumSize < 256)
    (hfit : mbParam.headerLength + 7 + data.length + mbParam.checksumSize ≤ maxPacketSize)
    (rest : List UInt8) (silence : Silence) (chunks : List Nat) :
    let request := modbusSend mbParam
      ((buildQueryPacket mbParam tId slave function startAddr count).1 ++ b :: data)
    modbusListen mbParam ⟨request ++ rest, silence⟩ chunks = ⟨0, some request⟩ := by
  have hlen : (modbusSend mbParam
      ((buildQueryPacket mbParam tId slave function startAddr count).1 ++ b :: data)).length =
      mbParam.headerLength + 7 + data.length + mbParam.checksumSize := by
    rw [length_modbusSend, List.length_append, length_buildQueryPacket, List.length_cons,
      presetQuerySizeRtu]
    omega
  exact modbusListen_modbusSend mbParam _ rest silence chunks
    (recvTarget_multiWrite mbParam tId slave function startAddr count hfn b data hb hsize rest)
    (by omega) (hlen ▸ hfit)

/-- A read of coil 0 from a map whose four tables are declared empty passes
`modbus_listen`, and `manage_query` answers it with data, not an exception:
the coil byte is whatever the memory past the empty table holds. -/
theorem manageQuery_reads_past_declared_length :
    let empty : ModbusMapping := ⟨0, fun _ => OFF, 0, fun _ => OFF, 0, fun _ => 0, 0, fun _ => 0⟩
    let query : List UInt8 := [0x01, 0x01, 0x00, 0x00, 0x00, 0x01, 0xFD, 0xCA]
    modbusListen .rtu ⟨query, .timeOut⟩ [] = ⟨0, some query⟩ ∧
      (manageQuery .rtu 0 query empty (fun _ => 0)).1 = [0x01, 0x01, 0x01, 0x00, 0x51, 0x88] ∧
      (manageQuery .rtu 0 query { empty with tabCoilStatus := fun _ => ON } (fun _ => 0)).1 =
        [0x01, 0x01, 0x01, 0x01, 0x90, 0x48] := by
  decide

end Modbus
