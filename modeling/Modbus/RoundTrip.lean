import Modbus.Master
import Modbus.Server

/-!
# Modbus — master and server together

A transaction: the master operation transmits its request, `modbus_listen`
reads it on the server, `manage_query` serves it, and the master operation
reads the reply.

## Results

* `readStatus_round_trip` — a bit read of up to 2000 entries completes: the
  reply has the predicted length, the master returns the count and stores the
  entries from the address's low byte on.
* `readRegistersCapped_round_trip` — a register read within the cap completes:
  the master returns the count and stores the entries from the address on.
* `forceSingleCoil_round_trip` — a single-coil write sets the coil and is
  answered with the request and `checksum_size` zero bytes; the master
  returns 1.
* `forceMultipleCoils_unanswered`, `presetMultipleRegisters_unanswered` — a
  write of several coils or registers is read whole by the server but not
  carried out, and its reply is the unwritten header of a local buffer: the
  master returns the code of the silence after it.
* `readCoilStatus_address_256` — a coil read at address 256 is served from
  entry 0: `response_io_status` takes the address as a `uint8_t`.
* `modbusListen_presetSingleRegister_cut`, `modbusListen_preset_single_register`
  — every request `preset_single_register` transmits is cut after the function
  code under every chunking, and in RTU rejected with `INVALID_CRC`:
  `compute_query_size_header` gives function code 6 no header.
* `reportSlaveId_rtu_rejected`, `reportSlaveId_tcp_unanswered` —
  `report_slave_id` never gets an answer: in RTU `modbus_listen` cuts the
  request after the function code and rejects it, in TCP `manage_query`
  does not serve function code 0x11 and the master returns the silence's code.
* `manageQuery_transactionId_after_echo` — after a single-coil write, which
  the server echoes without advancing its counter, the reply to the master's
  next request carries an older transaction identifier than the request.
* `manageQuery_force_single_coil_echo` — in RTU the reply to
  `force_single_coil` is the request with its CRC and a second CRC after it,
  two bytes longer than `compute_response_size` expects.
-/

namespace Modbus

/-! ## Reads that complete -/

/-- **Unpacking what `response_io_status` packed gives the entries back.** The
bytes the loop of `response_io_status` packs from `c` entries, each `ON` or
`OFF`, read by the loops of `read_io_status` with the same count: LSB first,
entry `i` is bit `i % 8` of byte `i / 8`. -/
theorem readIoStatusBits_responseIoStatusLoop (tab : Nat → UInt8) (address : Nat) (c : Int)
    (htab : ∀ i, i < c.toNat → tab (address + i) = ON ∨ tab (address + i) = OFF) :
    readIoStatusBits c (responseIoStatusLoop tab c.toNat address 0 0) 0 =
      (List.range c.toNat).map fun i => tab (address + i) := by
  have hbits := responseIoStatusLoop_testBit tab c.toNat address 0 0
    (fun k h1 h2 => by
      obtain ⟨i, rfl⟩ : ∃ i, k = address + i := ⟨k - address, by omega⟩
      rcases htab i (by omega) with h | h <;> rw [h] <;> decide)
    (by decide) (by decide)
  have hlen := length_responseIoStatusLoop tab c.toNat address 0 0 (by decide)
  rw [Nat.zero_add] at hlen
  rw [readIoStatusBits_eq, hlen, Nat.sub_zero, show min (8 * ((c.toNat + 7) / 8)) c.toNat = c.toNat by omega]
  apply List.map_congr_left
  intro m hm
  have hm' : m < c.toNat := List.mem_range.mp hm
  rw [hbits m (by omega)]
  simp only [Nat.not_lt_zero, if_false, Nat.zero_add, Nat.sub_zero, hm', true_and]
  rcases htab m hm' with h | h <;> simp only [h] <;> rfl

/-- **A bit read served by `manage_query`.** For either transport and every
count `0 ≤ c ≤ 2000`: `manage_query` leaves the map and advances its counter
once, and its reply is a frame of the predicted length that passes
`check_crc16`; when the entries read are `ON` or `OFF`, on it
`read_coil_status` or `read_input_status` returns the count and the entries
from the address's low byte on, under every timing and chunking. -/
theorem readStatus_served (mbParam : TypeCom) (function : Nat)
    (hfn : function = fcReadCoilStatus ∨ function = fcReadInputStatus)
    (tId tIdS : UInt16) (slave a c : Int) (hc : 0 ≤ c) (hc' : c ≤ 2000)
    (mbMapping : ModbusMapping) (stale : Nat → UInt8) :
    let request := modbusSend mbParam
      (buildQueryPacket mbParam tId (toU8 slave) (toU8 function) (toU16 a) (toU16 c)).1
    let served := manageQuery mbParam tIdS request mbMapping stale
    let tab := if function = fcReadCoilStatus then mbMapping.tabCoilStatus
      else mbMapping.tabInputStatus
    served.2 = (mbMapping, mbParam.nextTId tIdS) ∧
      served.1.length = computeResponseSize mbParam request ∧ served.1.length ≤ maxPacketSize ∧
      checkCrc16 mbParam served.1 = 0 ∧
      ((∀ i, i < c.toNat → tab ((toU16 a).toNat % 256 + i) = ON ∨ tab ((toU16 a).toNat % 256 + i) = OFF) →
      ∀ silence chunks responseSize response,
        readStatus function mbParam tId slave a c ⟨⟨served.1, silence⟩, chunks, responseSize, response⟩ =
          ⟨request, c, (List.range c.toNat).map fun i => (i, tab ((toU16 a).toNat % 256 + i)),
            mbParam.nextTId tId⟩) := by
  intro request served tab
  have hF8 : (toU8 function).toNat = function := by
    rw [toU8_natCast_toNat]; rcases hfn with rfl | rfl <;> rfl
  have hc16 : (toU16 c).toNat = c.toNat := by rw [toU16_toNat]; omega
  -- the reply the server transmits: the header, then the entries packed into `L`
  have hreply := manageQuery_buildQueryPacket_status mbParam tId tIdS (toU8 slave) (toU8 function)
    (toU16 a) (toU16 c) mbMapping stale (by rw [hF8]; exact hfn)
  simp only [hF8, hc16] at hreply
  have hR : served.1 = modbusSend mbParam ((buildResponsePacket mbParam tIdS (toU8 slave)
      (toU8 function) (toU8 ((c.toNat + 7) / 8 : Nat))).1 ++
        responseIoStatusLoop tab c.toNat ((toU16 a).toNat % 256) 0 0) :=
    congrArg Prod.fst hreply
  obtain ⟨hlen, hfnR, hbc, hdata⟩ := hR ▸ modbusSend_buildResponsePacket_fields mbParam tIdS
    (toU8 slave) (toU8 function) (toU8 ((c.toNat + 7) / 8 : Nat))
    (responseIoStatusLoop tab c.toNat ((toU16 a).toNat % 256) 0 0)
  have hL := length_responseIoStatusLoop tab c.toNat ((toU16 a).toNat % 256) 0 0 (by decide)
  rw [Nat.zero_add] at hL
  rw [hL] at hlen hdata
  have hsize : served.1.length = computeResponseSize mbParam request := by
    rw [hlen, computeResponseSize_buildQueryPacket, hF8, hc16, if_pos hfn]
    omega
  have hfit : served.1.length ≤ maxPacketSize := by
    have := headerLength_add_checksumSize_le mbParam
    rw [maxPacketSize]; omega
  have hcrc : checkCrc16 mbParam served.1 = 0 := by rw [hR]; exact checkCrc16_modbusSend mbParam _
  refine ⟨by rw [congrArg Prod.snd hreply, buildResponsePacket_snd], hsize, hfit, hcrc,
    fun htab silence chunks responseSize response => ?_⟩
  -- the master reads it
  obtain ⟨hret, hdest⟩ := readIoStatus_frame mbParam tId slave function a c
    ⟨⟨served.1, silence⟩, chunks, responseSize, response⟩ ((c.toNat + 7) / 8) hsize
    hfit hcrc
    (by rw [byteAt, hfnR, hF8]; exact hfn)
    (by rw [byteAt, hbc, toU8_natCast_toNat]; omega)
    (show _ ≤ served.1.length by omega)
  have htemps : ((List.range ((c.toNat + 7) / 8)).map fun j =>
      served.1.getD (mbParam.headerLength + 3 + j) 0) =
      responseIoStatusLoop tab c.toNat ((toU16 a).toNat % 256) 0 0 := by
    rw [← map_getD_range (responseIoStatusLoop tab c.toNat ((toU16 a).toNat % 256) 0 0) 0, hL]
    exact List.map_congr_left fun j hj => hdata j (List.mem_range.mp hj)
  rw [htemps, readIoStatusBits_responseIoStatusLoop tab _ c htab, enum_map_range] at hdest
  simp only [readStatus, hret, hdest, buildQueryPacket_snd, MasterCall.mk.injEq, true_and, and_true]
  exact ⟨rfl, by split <;> omega, buildQueryPacket_snd _ _ _ _ _ _⟩

/-- **Bit read round trip.** For either transport, every map, unit, start
address `a` and count `0 ≤ c ≤ 2000`, with the entries read each `ON` or
`OFF`: the reply `manage_query` transmits to the request `read_coil_status` or
`read_input_status` sends has exactly `compute_response_size(request)` bytes,
and reading it under every chunking the master returns `c` and sets
`data_dest[i]` to the table's entry at `A % 256 + i`, where `A` is the
request's address: `response_io_status` takes the address as a `uint8_t`. -/
theorem readStatus_round_trip (mbParam : TypeCom) (function : Nat)
    (hfn : function = fcReadCoilStatus ∨ function = fcReadInputStatus)
    (tId tIdS : UInt16) (slave a c : Int) (hc : 0 ≤ c) (hc' : c ≤ 2000)
    (mbMapping : ModbusMapping) (stale : Nat → UInt8) (silence : Silence) (chunks : List Nat)
    (responseSize : Int) (response : Nat → UInt8)
    (htab : ∀ i, i < c.toNat →
      let tab := if function = fcReadCoilStatus then mbMapping.tabCoilStatus
        else mbMapping.tabInputStatus
      tab ((toU16 a).toNat % 256 + i) = ON ∨ tab ((toU16 a).toNat % 256 + i) = OFF) :
    let request := modbusSend mbParam
      (buildQueryPacket mbParam tId (toU8 slave) (toU8 function) (toU16 a) (toU16 c)).1
    let reply := (manageQuery mbParam tIdS request mbMapping stale).1
    let tab := if function = fcReadCoilStatus then mbMapping.tabCoilStatus
      else mbMapping.tabInputStatus
    let call := readStatus function mbParam tId slave a c
      ⟨⟨reply, silence⟩, chunks, responseSize, response⟩
    call.sent = request ∧ reply.length = computeResponseSize mbParam request ∧ call.ret = c ∧
      call.dest = (List.range c.toNat).map fun i => (i, tab ((toU16 a).toNat % 256 + i)) := by
  intro request reply tab call
  obtain ⟨-, hsize, -, -, hcall⟩ := readStatus_served mbParam function hfn tId tIdS slave a c hc hc'
    mbMapping stale
  rw [show call = _ from hcall htab silence chunks responseSize response]
  exact ⟨rfl, hsize, rfl, rfl⟩

/-- Three coils from address 2 of unit 1 in RTU, against a coil table that
alternates `ON` and `OFF`. -/
theorem readStatus_round_trip_three_coils :
    let m : ModbusMapping :=
      ⟨8, fun i => if i % 2 = 0 then ON else OFF, 0, fun _ => OFF, 0, fun _ => 0, 0, fun _ => 0⟩
    let request := modbusSend .rtu
      (buildQueryPacket .rtu 0 (toU8 1) (toU8 fcReadCoilStatus) (toU16 2) (toU16 3)).1
    let reply := (manageQuery .rtu 0 request m (fun _ => 0)).1
    let call := readStatus fcReadCoilStatus .rtu 0 1 2 3 ⟨⟨reply, .timeOut⟩, [], 0, fun _ => 0⟩
    reply.length = computeResponseSize .rtu request ∧ call.ret = 3 ∧
      call.dest = [(0, ON), (1, OFF), (2, ON)] := by
  intro m request reply call
  obtain ⟨-, hlen, hret, hdest⟩ := readStatus_round_trip .rtu fcReadCoilStatus (.inl rfl) 0 0 1 2 3
    (by decide) (by decide) m (fun _ => 0) .timeOut [] 0 (fun _ => 0)
    (fun i _ => by rw [if_pos rfl]; dsimp only; split <;> decide)
  exact ⟨hlen, hret, hdest.trans (by decide)⟩

/-- **A register read served by `manage_query`.** For either transport and
every count `0 ≤ n ≤ 125`: `manage_query` leaves the map and advances its
counter once, its reply is a frame of the predicted length that passes
`check_crc16`, and on it `read_registers` returns `n` and the entries from the
address on, high byte first. -/
theorem readRegisters_served (mbParam : TypeCom) (function : Nat)
    (hfn : function = fcReadHoldingRegisters ∨ function = fcReadInputRegisters)
    (tId tIdS : UInt16) (slave a n : Int) (hn : 0 ≤ n) (hn' : n ≤ 125)
    (mbMapping : ModbusMapping) (stale : Nat → UInt8) :
    let request := modbusSend mbParam
      (buildQueryPacket mbParam tId (toU8 slave) (toU8 function) (toU16 a) (toU16 n)).1
    let served := manageQuery mbParam tIdS request mbMapping stale
    let tab := if function = fcReadHoldingRegisters then mbMapping.tabHoldingRegisters
      else mbMapping.tabInputRegisters
    served.2 = (mbMapping, mbParam.nextTId tIdS) ∧
      served.1.length = computeResponseSize mbParam request ∧ served.1.length ≤ maxPacketSize ∧
      checkCrc16 mbParam served.1 = 0 ∧
      ∀ silence chunks responseSize response,
        readRegisters mbParam tId slave function a n ⟨⟨served.1, silence⟩, chunks, responseSize, response⟩ =
          ⟨request, n, (List.range n.toNat).map fun i => (i, tab ((toU16 a).toNat + i)),
            mbParam.nextTId tId⟩ := by
  intro request served tab
  have hF8 : (toU8 function).toNat = function := by
    rw [toU8_natCast_toNat]; rcases hfn with rfl | rfl <;> rfl
  have hn16 : (toU16 n).toNat = n.toNat := by rw [toU16_toNat]; omega
  -- the reply the server transmits
  have hreply := manageQuery_buildQueryPacket_registers mbParam tId tIdS (toU8 slave) (toU8 function)
    (toU16 a) (toU16 n) mbMapping stale (by rw [hF8]; exact hfn)
  simp only [hF8, hn16] at hreply
  have hR : served.1 = modbusSend mbParam ((buildResponsePacket mbParam tIdS (toU8 slave)
      (toU8 function) (toU8 (2 * n.toNat : Nat))).1 ++ responseRegisters tab (toU16 a).toNat n.toNat) :=
    congrArg Prod.fst hreply
  obtain ⟨hlen, hfnR, hbc, hdata⟩ := hR ▸ modbusSend_buildResponsePacket_fields mbParam tIdS
    (toU8 slave) (toU8 function) (toU8 (2 * n.toNat : Nat)) (responseRegisters tab (toU16 a).toNat n.toNat)
  rw [length_responseRegisters] at hlen hdata
  have hsize : served.1.length = computeResponseSize mbParam request := by
    rw [hlen, computeResponseSize_buildQueryPacket, hF8, hn16,
      if_neg (by rcases hfn with rfl | rfl <;> decide), if_pos hfn]
    omega
  have hfit : served.1.length ≤ maxPacketSize := by
    have := headerLength_add_checksumSize_le mbParam
    rw [maxPacketSize]; omega
  have hcrc : checkCrc16 mbParam served.1 = 0 := by rw [hR]; exact checkCrc16_modbusSend mbParam _
  refine ⟨by rw [congrArg Prod.snd hreply, buildResponsePacket_snd], hsize, hfit, hcrc,
    fun silence chunks responseSize response => ?_⟩
  -- the master reads it
  have hread := readRegResponse_frame mbParam request ⟨⟨served.1, silence⟩, chunks, responseSize, response⟩
    n.toNat hsize hfit hcrc (by rw [byteAt, hfnR, hF8]; exact hfn) (by rw [byteAt, hbc, toU8_natCast_toNat]; omega)
    (show _ ≤ served.1.length by omega)
  simp only [readRegisters]
  rw [show readRegResponse mbParam _ _ = _ from hread, Int.toNat_of_nonneg hn, enum_map_range,
    buildQueryPacket_snd]
  congr 1
  apply List.map_congr_left
  intro i hi
  have hi' : i < n.toNat := List.mem_range.mp hi
  obtain ⟨hhi, hlo⟩ := responseRegisters_getD tab (toU16 a).toNat hi'
  rw [hdata (2 * i) (by omega),
    show mbParam.headerLength + 4 + 2 * i = mbParam.headerLength + 3 + (2 * i + 1) by omega,
    hdata (2 * i + 1) (by omega), hhi, hlo, join_splitWord]

/-- **Register read round trip.** For either transport, every map, unit,
start address `a`, and count `0 ≤ c` within the cap `maxCount ≤ 125` of
`read_holding_registers` or `read_input_registers`: the reply `manage_query`
transmits has exactly `compute_response_size(request)` bytes, and reading it
under every chunking the master returns `c` and sets `data_dest[i]` to the
table's entry at `A + i`, where `A` is the request's address. -/
theorem readRegistersCapped_round_trip (mbParam : TypeCom) (maxCount : Int) (function : Nat)
    (hfn : function = fcReadHoldingRegisters ∨ function = fcReadInputRegisters)
    (tId tIdS : UInt16) (slave a c : Int) (hc : 0 ≤ c) (hmax : c ≤ maxCount) (hmax' : maxCount ≤ 125)
    (mbMapping : ModbusMapping) (stale : Nat → UInt8) (silence : Silence) (chunks : List Nat)
    (responseSize : Int) (response : Nat → UInt8) :
    let request := modbusSend mbParam
      (buildQueryPacket mbParam tId (toU8 slave) (toU8 function) (toU16 a) (toU16 c)).1
    let reply := (manageQuery mbParam tIdS request mbMapping stale).1
    let tab := if function = fcReadHoldingRegisters then mbMapping.tabHoldingRegisters
      else mbMapping.tabInputRegisters
    let call := readRegistersCapped maxCount function mbParam tId slave a c
      ⟨⟨reply, silence⟩, chunks, responseSize, response⟩
    call.sent = request ∧ reply.length = computeResponseSize mbParam request ∧ call.ret = c ∧
      call.dest = (List.range c.toNat).map fun i => (i, tab ((toU16 a).toNat + i)) := by
  intro request reply tab call
  obtain ⟨-, hsize, -, -, hcall⟩ := readRegisters_served mbParam function hfn tId tIdS slave a c hc
    (by omega) mbMapping stale
  have hcap : call = readRegisters mbParam tId slave function a c
      ⟨⟨reply, silence⟩, chunks, responseSize, response⟩ := by
    simp only [call, readRegistersCapped, gt_iff_lt, if_neg (Int.not_lt.mpr hmax)]
  rw [hcap, hcall silence chunks responseSize response]
  exact ⟨rfl, hsize, rfl, rfl⟩

/-- Two holding registers from address 1 of unit 1 in TCP. -/
theorem readRegistersCapped_round_trip_two_registers :
    let m : ModbusMapping :=
      ⟨0, fun _ => OFF, 0, fun _ => OFF, 4, fun i => 0x1234 + i.toUInt16, 0, fun _ => 0⟩
    let request := modbusSend .tcp
      (buildQueryPacket .tcp 0 (toU8 1) (toU8 fcReadHoldingRegisters) (toU16 1) (toU16 2)).1
    let reply := (manageQuery .tcp 0 request m (fun _ => 0)).1
    let call := readHoldingRegisters .tcp 0 1 1 2 ⟨⟨reply, .timeOut⟩, [], 0, fun _ => 0⟩
    reply.length = computeResponseSize .tcp request ∧ call.ret = 2 ∧
      call.dest = [(0, 0x1235), (1, 0x1236)] := by
  intro m request reply call
  obtain ⟨-, hlen, hret, hdest⟩ := readRegistersCapped_round_trip .tcp maxReadHoldRegs
    fcReadHoldingRegisters (.inl rfl) 0 0 1 1 2 (by decide) (by decide) (by decide) m (fun _ => 0)
    .timeOut [] 0 (fun _ => 0)
  exact ⟨hlen, hret, hdest.trans (by decide)⟩

/-! ## Reads at an address above 255 -/

/-- `read_coil_status(1, 256, 1)` in RTU against a coil table of 257 entries
whose entry 256 is `ON`: the server packs entry 0, and the master returns 1
with `data_dest[0] = OFF`. -/
theorem readCoilStatus_address_256 :
    let m : ModbusMapping :=
      ⟨257, fun i => if i = 256 then ON else OFF, 0, fun _ => OFF, 0, fun _ => 0, 0, fun _ => 0⟩
    let request := (readCoilStatus .rtu 0 1 256 1 ⟨⟨[], .timeOut⟩, [], 0, fun _ => 0⟩).sent
    let reply := (manageQuery .rtu 0 request m (fun _ => 0)).1
    let call := readCoilStatus .rtu 0 1 256 1 ⟨⟨reply, .timeOut⟩, [], 0, fun _ => 0⟩
    m.tabCoilStatus 256 = ON ∧ call.ret = 1 ∧ call.dest = [(0, OFF)] := by
  decide

/-! ## Requests the server reads -/

/-- **Every request `preset_single_register` transmits is cut.** For either
transport, every unit, register address and value, under every chunking and
whatever follows on the stream: `compute_query_size_header` gives function
code 6 no header bytes, so `modbus_listen` stores only the unit and the
function code after the MBAP header. In RTU their CRC check fails, since
`crc16` of nothing is `FFFF` and the function code is 6; in TCP it passes and
the rest of the request stays in the stream. -/
theorem modbusListen_presetSingleRegister_cut (mbParam : TypeCom) (tId : UInt16) (slave regAddr value : Int)
    (rest : List UInt8) (silence : Silence) (chunks : List Nat) :
    let request := modbusSend mbParam (buildQueryPacket mbParam tId (toU8 slave)
      (toU8 fcPresetSingleRegister) (toU16 regAddr) (toU16 value)).1
    modbusListen mbParam ⟨request ++ rest, silence⟩ chunks =
      ⟨match mbParam with | .rtu => invalidCrc | .tcp => 0,
        some (request.take (mbParam.headerLength + 2))⟩ := by
  intro request
  have hlen := length_buildQueryPacket mbParam tId (toU8 slave) (toU8 fcPresetSingleRegister)
    (toU16 regAddr) (toU16 value)
  have hsent : request.length = mbParam.headerLength + 6 + mbParam.checksumSize := by
    rw [length_modbusSend, hlen, presetQuerySizeRtu]
  have hbound := headerLength_add_checksumSize_le mbParam
  have htarget := recvTarget_headerless mbParam _ rest (by rw [hlen, presetQuerySizeRtu]; omega)
    (by rw [getD_buildQueryPacket_function]; rfl)
  have hrecv := receiveMsg_none_target mbParam ⟨request ++ rest, silence⟩ chunks htarget (by omega)
    (by rw [List.length_append]; omega) (by rw [maxPacketSize]; omega)
  rw [List.take_append_of_le_length (by omega)] at hrecv
  simp only [modbusListen, hrecv, Option.getD_some, if_true]
  cases mbParam with
  | tcp => rfl
  | rtu =>
    -- the two bytes stored are the unit and the function code 6
    have htake : request.take 2 = [toU8 slave, toU8 fcPresetSingleRegister] := by
      simp [request, buildQueryPacket, buildQueryPacketRtu]
    show (⟨checkCrc16 .rtu (request.take 2), _⟩ : Received) = _
    rw [htake, checkCrc16_rtu_pair _ _ (by decide)]

/-- The request `preset_single_register(1, 0, 0)` transmits in RTU: under every
chunking `receive_msg` stops after its first two bytes, and `modbus_listen`
rejects them with `INVALID_CRC`. -/
theorem modbusListen_preset_single_register (chunks : List Nat) :
    (presetSingleRegister .rtu 0 1 0 0 ⟨⟨[], .timeOut⟩, [], 0, fun _ => 0⟩).sent =
        [0x01, 0x06, 0x00, 0x00, 0x00, 0x00, 0x89, 0xCA] ∧
      modbusListen .rtu ⟨[0x01, 0x06, 0x00, 0x00, 0x00, 0x00, 0x89, 0xCA], .timeOut⟩ chunks =
        ⟨invalidCrc, some [0x01, 0x06]⟩ := by
  obtain ⟨hc, hm⟩ := receiveMsg_spec .rtu none
    ⟨[0x01, 0x06, 0x00, 0x00, 0x00, 0x00, 0x89, 0xCA], .timeOut⟩ chunks (fun _ h => nomatch h)
  have hspec : receiveSpec .rtu none ⟨[0x01, 0x06, 0x00, 0x00, 0x00, 0x00, 0x89, 0xCA], .timeOut⟩ =
      ⟨0, some [0x01, 0x06]⟩ := by decide
  rw [hspec] at hc hm
  refine ⟨by decide, ?_⟩
  simp only [modbusListen, hm (by decide)]
  decide

/-! ## Reports of the unit's id -/

/-- **`report_slave_id` is rejected in RTU.** For every unit, under every
chunking and whatever follows on the stream: the request is the unit and
function code 0x11 with their CRC, `compute_query_size_header` gives 0x11
no header bytes, so `modbus_listen` stores the unit and the function code
only and rejects them with `INVALID_CRC`. -/
theorem reportSlaveId_rtu_rejected (tId : UInt16) (slave : Int) (env : MasterEnv) (rest : List UInt8)
    (silence : Silence) (chunks : List Nat) :
    let request := (reportSlaveId .rtu tId slave env).sent
    request = modbusSend .rtu [toU8 slave, toU8 fcReportSlaveId] ∧
      modbusListen .rtu ⟨request ++ rest, silence⟩ chunks =
        ⟨invalidCrc, some [toU8 slave, toU8 fcReportSlaveId]⟩ := by
  intro request
  have hreq : request = modbusSend .rtu [toU8 slave, toU8 fcReportSlaveId] := rfl
  refine ⟨hreq, ?_⟩
  have htarget := recvTarget_headerless .rtu [toU8 slave, toU8 fcReportSlaveId] rest (by simp) rfl
  rw [hreq]
  have hrecv := receiveMsg_none_target .rtu ⟨modbusSend .rtu [toU8 slave, toU8 fcReportSlaveId] ++ rest,
    silence⟩ chunks htarget (by decide) (by simp) (by decide)
  have htake : (modbusSend .rtu [toU8 slave, toU8 fcReportSlaveId] ++ rest).take 2 =
      [toU8 slave, toU8 fcReportSlaveId] := by simp
  simp only [headerLength_rtu, Nat.zero_add, htake] at hrecv
  simp only [modbusListen, hrecv, Option.getD_some, if_true,
    checkCrc16_rtu_pair (toU8 slave) (toU8 fcReportSlaveId) (by decide)]

/-- **`report_slave_id` is never answered in TCP.** For every unit, both
counters, every map and every stale reply buffer: `modbus_listen` reads the
request whole, `manage_query` serves no function code above 5 and sends the
unwritten MBAP header of its buffer, and that reply is shorter than the 12
bytes `compute_response_size` predicts, so the master returns the code of
the silence after it and copies nothing. -/
theorem reportSlaveId_tcp_unanswered (tId tIdS : UInt16) (slave : Int) (rest : List UInt8)
    (silenceS : Silence) (chunksS : List Nat) (mbMapping : ModbusMapping) (stale : Nat → UInt8)
    (silence : Silence) (chunks : List Nat) (responseSize : Int) (response : Nat → UInt8) :
    let request := modbusSend .tcp
      (splitWord (nextTransactionId tId) ++ [0, 0, 0, 0, toU8 slave, toU8 fcReportSlaveId])
    let served := manageQuery .tcp tIdS request mbMapping stale
    let call := reportSlaveId .tcp tId slave ⟨⟨served.1, silence⟩, chunks, responseSize, response⟩
    call.sent = request ∧ modbusListen .tcp ⟨request ++ rest, silenceS⟩ chunksS = ⟨0, some request⟩ ∧
      served = (modbusSend .tcp (prefixOf stale 6), mbMapping, tIdS) ∧
      call.ret = silenceCode silence ∧ call.dest = [] := by
  intro request served call
  have hq : (splitWord (nextTransactionId tId) ++
      [0, 0, 0, 0, toU8 slave, toU8 fcReportSlaveId]).length = 8 := rfl
  have hlen : request.length = 8 := by rw [length_modbusSend, hq]; rfl
  have hfn : byteAt request 7 = fcReportSlaveId := by
    rw [byteAt_modbusSend .tcp _ (by decide) (by rw [hq]; decide)]
    rfl
  have hserved : served = (modbusSend .tcp (prefixOf stale 6), mbMapping, tIdS) :=
    manageQuery_unserved .tcp tIdS request mbMapping stale (.inr (by rw [headerLength_tcp, hfn]; decide))
  have hsize : computeResponseSize .tcp request = 12 := by
    simp only [computeResponseSize, headerLength_tcp, hfn, checksumSize_tcp]
    rfl
  have hret : (modbusCheckResponse .tcp request
      ⟨⟨served.1, silence⟩, chunks, responseSize, response⟩).1 = silenceCode silence := by
    rw [hserved]
    exact modbusCheckResponse_short .tcp request _
      (List.ne_nil_of_length_pos (by rw [length_modbusSend]; simp [prefixOf]))
      (by simp [hsize, prefixOf]) (by simp [prefixOf, maxPacketSize]) (by simp [prefixOf])
  have hsent : call.sent = request := rfl
  have hnone : (silenceCode silence).toNat = 0 := by
    have := silenceCode_neg silence
    omega
  simp only [call, reportSlaveId] at hsent ⊢
  rw [hsent, hret, hnone]
  refine ⟨rfl, modbusListen_modbusSend .tcp _ rest silenceS chunksS ?_ (by rw [hlen]; decide)
    (by rw [hlen]; decide), hserved, rfl, rfl⟩
  rw [recvTarget_headerless .tcp
    (splitWord (nextTransactionId tId) ++ [0, 0, 0, 0, toU8 slave, toU8 fcReportSlaveId]) rest
    (by rw [hq]; decide) rfl]
  exact hlen.symm

/-! ## Writes -/

/-- **A single-coil write served by `manage_query`.** For either transport:
`manage_query` sets the coil at the request's address to `ON` when the state is
nonzero and to `OFF` otherwise, keeps its counter, and echoes the request
followed by `checksum_size` zero bytes; the request is as long as the reply the
master predicts, and on the echo `force_single_coil` returns 1. -/
theorem forceSingleCoil_served (mbParam : TypeCom) (tId tIdS : UInt16) (slave a state : Int)
    (mbMapping : ModbusMapping) (stale : Nat → UInt8) :
    let request := modbusSend mbParam (buildQueryPacket mbParam tId (toU8 slave)
      (toU8 fcForceSingleCoil) (toU16 a) (toU16 (if state ≠ 0 then 0xFF00 else state))).1
    manageQuery mbParam tIdS request mbMapping stale =
        (request ++ List.replicate mbParam.checksumSize 0,
          mbMapping.setCoil (toU16 a).toNat (if state ≠ 0 then ON else OFF), tIdS) ∧
      computeResponseSize mbParam request = request.length ∧ request.length ≤ maxPacketSize ∧
      checkCrc16 mbParam request = 0 ∧
      ∀ silence chunks responseSize response,
        forceSingleCoil mbParam tId slave a state
          ⟨⟨request ++ List.replicate mbParam.checksumSize 0, silence⟩, chunks, responseSize, response⟩ =
          ⟨request, 1, [], mbParam.nextTId tId⟩ := by
  intro request
  have hserved := manageQuery_buildQueryPacket_forceSingleCoil mbParam tId tIdS (toU8 slave) (toU16 a)
    (toU16 (if state ≠ 0 then 0xFF00 else state)) mbMapping stale
  have hlen : request.length = mbParam.headerLength + 6 + mbParam.checksumSize := by
    simp only [request, length_modbusSend, length_buildQueryPacket, presetQuerySizeRtu]
  have hsize : computeResponseSize mbParam request = request.length := by
    rw [computeResponseSize_buildQueryPacket, hlen]
    rw [show (toU8 fcForceSingleCoil).toNat = 5 from rfl, if_neg (by decide), if_neg (by decide),
      if_neg (by decide)]
    omega
  have hcrc : checkCrc16 mbParam request = 0 := checkCrc16_modbusSend mbParam _
  have hmap : (if (toU16 (if state ≠ 0 then 0xFF00 else state)).toNat = 0xFF00 then
      mbMapping.setCoil (toU16 a).toNat ON
      else if (toU16 (if state ≠ 0 then 0xFF00 else state)).toNat = 0 then
        mbMapping.setCoil (toU16 a).toNat OFF else mbMapping) =
      mbMapping.setCoil (toU16 a).toNat (if state ≠ 0 then ON else OFF) := by
    by_cases hs : state = 0
    · simp only [hs, ne_eq, not_true_eq_false, if_false]
      rfl
    · simp only [hs, ne_eq, not_false_eq_true, if_true]
      rfl
  have hbound := headerLength_add_checksumSize_le mbParam
  refine ⟨by rw [hserved, hmap], hsize, by rw [hlen, maxPacketSize]; omega, hcrc,
    fun silence chunks responseSize response => ?_⟩
  -- the master reads the request's length off the echo
  have htake : (request ++ List.replicate mbParam.checksumSize 0).take
      (computeResponseSize mbParam request) = request := by
    rw [hsize, List.take_left]
  have hcheck := modbusCheckResponse_complete mbParam request
    ⟨⟨request ++ List.replicate mbParam.checksumSize 0, silence⟩, chunks, responseSize, response⟩
    (by rw [hsize, List.length_append]; omega) (show _ ≤ 260 by omega) (by rw [htake]; exact hcrc)
  have hfn : byteAt request (mbParam.headerLength + 1) = fcForceSingleCoil := by
    obtain ⟨-, hF, -, -⟩ := modbusSend_buildQueryPacket_fields mbParam tId (toU8 slave)
      (toU8 fcForceSingleCoil) (toU16 a) (toU16 (if state ≠ 0 then 0xFF00 else state))
    rw [byteAt, hF]
    rfl
  have hret : (modbusCheckResponse mbParam request
      ⟨⟨request ++ List.replicate mbParam.checksumSize 0, silence⟩, chunks, responseSize, response⟩).1 = 1 := by
    rw [hcheck]
    dsimp only
    rw [htake]
    simp only [responseValue, overlay_lt _ (show mbParam.headerLength + 1 < request.length by omega), hfn]
    rw [if_neg (by decide), if_neg (by decide), if_neg (by decide), if_neg (by decide)]
  simp only [forceSingleCoil, setSingle, presetResponse, hret, buildQueryPacket_snd]

/-- **Single-coil write round trip.** For either transport, every map, unit,
coil address `a` and `state`: the map `manage_query` leaves has coil `A`, the
request's address, set to `ON` when `state ≠ 0` and to `OFF` otherwise; the
reply it transmits is the request followed by `checksum_size` zero bytes (in
RTU the CRC of a frame ending in its own CRC); and reading it under every
chunking the master returns 1. `compute_response_size` is the request's
length, so in RTU the two extra bytes stay in the stream. -/
theorem forceSingleCoil_round_trip (mbParam : TypeCom) (tId tIdS : UInt16) (slave a state : Int)
    (mbMapping : ModbusMapping) (stale : Nat → UInt8) (silence : Silence) (chunks : List Nat)
    (responseSize : Int) (response : Nat → UInt8) :
    let request := modbusSend mbParam (buildQueryPacket mbParam tId (toU8 slave)
      (toU8 fcForceSingleCoil) (toU16 a) (toU16 (if state ≠ 0 then 0xFF00 else state))).1
    let served := manageQuery mbParam tIdS request mbMapping stale
    let call := forceSingleCoil mbParam tId slave a state
      ⟨⟨served.1, silence⟩, chunks, responseSize, response⟩
    call.sent = request ∧ computeResponseSize mbParam request = request.length ∧
      served.1 = request ++ List.replicate mbParam.checksumSize 0 ∧
      served.2.1 = mbMapping.setCoil (toU16 a).toNat (if state ≠ 0 then ON else OFF) ∧
      call.ret = 1 := by
  intro request served call
  obtain ⟨hserved, hsize, -, -, hcall⟩ := forceSingleCoil_served mbParam tId tIdS slave a state mbMapping stale
  have hcall' : call = ⟨request, 1, [], mbParam.nextTId tId⟩ := by
    simp only [call, served, hserved, hcall]
  rw [hcall', show served = _ from hserved]
  exact ⟨rfl, hsize, rfl, rfl, rfl⟩

/-- `force_single_coil(1, 0, 1)` in RTU: the request passes `modbus_listen`;
`manage_query` echoes it with its CRC and `modbus_send` appends the CRC of
that, `00 00`, so the reply has 10 bytes where `compute_response_size`
expects 8. The master reads 8 of them and returns 1; two stay in the stream. -/
theorem manageQuery_force_single_coil_echo :
    let m : ModbusMapping := ⟨1, fun _ => OFF, 0, fun _ => OFF, 0, fun _ => 0, 0, fun _ => 0⟩
    let request := (forceSingleCoil .rtu 0 1 0 1 ⟨⟨[], .timeOut⟩, [], 0, fun _ => 0⟩).sent
    let reply := (manageQuery .rtu 0 request m (fun _ => 0)).1
    modbusListen .rtu ⟨request, .timeOut⟩ [] = ⟨0, some request⟩ ∧
      reply = request ++ [0x00, 0x00] ∧ computeResponseSize .rtu request = 8 ∧
      (forceSingleCoil .rtu 0 1 0 1 ⟨⟨reply, .timeOut⟩, [], 0, fun _ => 0⟩).ret = 1 := by
  decide

/-! ## Writes of several coils or registers -/

/-- A write of several coils or registers, function code 15 or 16, whose byte
count counts the bytes after it: `modbus_listen` reads it whole, `manage_query`
leaves the map and answers with the unwritten header of its `response` buffer,
and `modbus_check_response` on that reply returns the silence's code. -/
theorem multiWrite_unanswered (mbParam : TypeCom) (tId tIdS : UInt16) (slave function : UInt8)
    (startAddr count : UInt16)
    (hfn : function.toNat = fcForceMultipleCoils ∨ function.toNat = fcPresetMultipleRegisters)
    (b : UInt8) (data : List UInt8) (hb : b.toNat = data.length)
    (hsize : data.length + mbParam.checksumSize < 256)
    (hfit : mbParam.headerLength + 7 + data.length + mbParam.checksumSize ≤ maxPacketSize)
    (rest : List UInt8) (silenceS : Silence) (chunksS : List Nat)
    (mbMapping : ModbusMapping) (stale : Nat → UInt8) (silence : Silence) (chunks : List Nat)
    (responseSize : Int) (response : Nat → UInt8) :
    let request := modbusSend mbParam
      ((buildQueryPacket mbParam tId slave function startAddr count).1 ++ b :: data)
    let reply := modbusSend mbParam (prefixOf stale mbParam.headerLength)
    modbusListen mbParam ⟨request ++ rest, silenceS⟩ chunksS = ⟨0, some request⟩ ∧
      manageQuery mbParam tIdS request mbMapping stale = (reply, mbMapping, tIdS) ∧
      (modbusCheckResponse mbParam request ⟨⟨reply, silence⟩, chunks, responseSize, response⟩).1 =
        silenceCode silence := by
  intro request reply
  have hF := byteAt_modbusSend_buildQueryPacket mbParam tId slave function startAddr count (b :: data)
  have hbig : fcForceSingleCoil < function.toNat := by
    rcases hfn with h | h <;> rw [h] <;> decide
  have hbound := headerLength_add_checksumSize_le mbParam
  have hreply : reply.length = mbParam.headerLength + mbParam.checksumSize := by
    simp only [reply, length_modbusSend, prefixOf, List.length_map, List.length_range]
  have hsize6 : computeResponseSize mbParam request = 6 + mbParam.headerLength + mbParam.checksumSize := by
    have h14 : ¬(function.toNat = fcReadCoilStatus ∨ function.toNat = fcReadInputStatus) ∧
        ¬(function.toNat = fcReadHoldingRegisters ∨ function.toNat = fcReadInputRegisters) ∧
        ¬function.toNat = fcReadExceptionStatus := by
      rcases hfn with h | h <;> rw [h] <;> decide
    simp only [computeResponseSize, hF, if_neg h14.1, if_neg h14.2.1, if_neg h14.2.2]
  refine ⟨modbusListen_multiWrite mbParam tId slave function startAddr count hfn b data hb hsize hfit
    rest silenceS chunksS, manageQuery_unserved mbParam tIdS request mbMapping stale (.inr (hF ▸ hbig)), ?_⟩
  have hpos : 0 < reply.length := by rw [hreply]; cases mbParam <;> decide
  exact modbusCheckResponse_short mbParam request ⟨⟨reply, silence⟩, chunks, responseSize, response⟩
    (List.ne_nil_of_length_pos hpos) (show reply.length < _ by omega)
    (show reply.length ≤ 260 by omega) (show reply.length ≠ _ by omega)

/-- The request `force_multiple_coils` hands to `modbus_send` for a count
`n ≥ 0`: the header `build_query_packet` builds for function code 15 and
the clamped count, then a byte count that counts the bytes after it, which
fit a `uint8_t` with the trailer and `MAX_PACKET_SIZE` with the rest. -/
theorem forceMultipleCoilsQuery_multiWrite (mbParam : TypeCom) (tId : UInt16) (slave a n : Int)
    (dataSrc : List UInt8) (hn : 0 ≤ n) :
    ∃ count b data, b.toNat = data.length ∧ data.length + mbParam.checksumSize < 256 ∧
      mbParam.headerLength + 7 + data.length + mbParam.checksumSize ≤ maxPacketSize ∧
      (forceMultipleCoilsQuery mbParam tId slave a n dataSrc).1 =
        (buildQueryPacket mbParam tId (toU8 slave) (toU8 fcForceMultipleCoils) (toU16 a) count).1 ++
          b :: data := by
  -- the clamped coil count `c` and the byte count `k` it gives
  obtain ⟨c, hc, hc0⟩ : ∃ c : Int, (if n > maxWriteCoils then maxWriteCoils else n) = c ∧
      0 ≤ c ∧ c ≤ 1968 := ⟨_, rfl, by unfold maxWriteCoils; split <;> omega⟩
  obtain ⟨k, hk, hk0⟩ : ∃ k : Int, c.tdiv 8 + (if c.tmod 8 ≠ 0 then 1 else 0) = k ∧
      0 ≤ k ∧ k ≤ 246 := ⟨_, rfl, by
        rw [Int.tdiv_eq_ediv hc0.1 (by decide), Int.tmod_eq_emod hc0.1 (by decide)]; split <;> omega⟩
  have hbound := headerLength_add_checksumSize_le mbParam
  refine ⟨toU16 c, toU8 k, forceMultipleCoilsData c dataSrc k.toNat 0 0,
    by rw [toU8_toNat, length_forceMultipleCoilsData]; omega, by rw [length_forceMultipleCoilsData]; omega,
    by rw [length_forceMultipleCoilsData, maxPacketSize]; omega, ?_⟩
  simp only [forceMultipleCoilsQuery, hc, hk]

/-- The request `preset_multiple_registers` hands to `modbus_send` for a
count `n ≥ 0`: the header for function code 16 and the clamped count, then
a byte count that counts the bytes after it, within the same bounds. -/
theorem presetMultipleRegistersQuery_multiWrite (mbParam : TypeCom) (tId : UInt16) (slave a n : Int)
    (dataSrc : List UInt16) (hn : 0 ≤ n) :
    ∃ count b data, b.toNat = data.length ∧ data.length + mbParam.checksumSize < 256 ∧
      mbParam.headerLength + 7 + data.length + mbParam.checksumSize ≤ maxPacketSize ∧
      (presetMultipleRegistersQuery mbParam tId slave a n dataSrc).1 =
        (buildQueryPacket mbParam tId (toU8 slave) (toU8 fcPresetMultipleRegisters) (toU16 a) count).1 ++
          b :: data := by
  -- the clamped register count `c`
  obtain ⟨c, hc, hc0⟩ : ∃ c : Int, (if n > maxWriteRegs then maxWriteRegs else n) = c ∧
      0 ≤ c ∧ c ≤ 123 := ⟨_, rfl, by unfold maxWriteRegs; split <;> omega⟩
  have hbound := headerLength_add_checksumSize_le mbParam
  refine ⟨toU16 c, toU8 (c * 2), (List.range c.toNat).flatMap fun i => splitWord (dataSrc.getD i 0),
    by rw [toU8_toNat, length_flatMap_splitWord]; omega, by rw [length_flatMap_splitWord]; omega,
    by rw [length_flatMap_splitWord, maxPacketSize]; omega, ?_⟩
  simp only [presetMultipleRegistersQuery, hc]

/-- **A write of several coils is never acknowledged.** For either transport,
every map, unit, start address, coil count `0 ≤ n` and source array:
`modbus_listen` reads the request `force_multiple_coils` transmits whole, under
every chunking; `manage_query` leaves the map as it is (function code 15 is
not implemented) and answers with the unwritten header of its `response`
buffer; and reading that reply, under every chunking, `force_multiple_coils`
returns the code of the silence after it, `COMM_TIME_OUT` if the peer times
out. -/
theorem forceMultipleCoils_unanswered (mbParam : TypeCom) (tId tIdS : UInt16) (slave a n : Int)
    (dataSrc : List UInt8) (hn : 0 ≤ n) (rest : List UInt8) (silenceS : Silence) (chunksS : List Nat)
    (mbMapping : ModbusMapping) (stale : Nat → UInt8) (silence : Silence) (chunks : List Nat)
    (responseSize : Int) (response : Nat → UInt8) :
    let request := modbusSend mbParam (forceMultipleCoilsQuery mbParam tId slave a n dataSrc).1
    let served := manageQuery mbParam tIdS request mbMapping stale
    let call := forceMultipleCoils mbParam tId slave a n dataSrc
      ⟨⟨served.1, silence⟩, chunks, responseSize, response⟩
    call.sent = request ∧ modbusListen mbParam ⟨request ++ rest, silenceS⟩ chunksS = ⟨0, some request⟩ ∧
      served = (modbusSend mbParam (prefixOf stale mbParam.headerLength), mbMapping, tIdS) ∧
      call.ret = silenceCode silence := by
  intro request served call
  obtain ⟨count, b, data, hb, hsize, hfit, hq⟩ := forceMultipleCoilsQuery_multiWrite mbParam tId slave a n
    dataSrc hn
  obtain ⟨hlisten, hserved, hret⟩ := multiWrite_unanswered mbParam tId tIdS (toU8 slave)
    (toU8 fcForceMultipleCoils) (toU16 a) count (.inl rfl) b data hb hsize hfit
    rest silenceS chunksS mbMapping stale silence chunks responseSize response
  rw [← hq] at hlisten hserved hret
  refine ⟨rfl, hlisten, hserved, ?_⟩
  show (modbusCheckResponse mbParam request ⟨⟨served.1, silence⟩, chunks, responseSize, response⟩).1 = _
  rw [show served = _ from hserved]
  exact hret

/-- Three coils from address 0 of unit 1 in RTU, against a peer that falls
silent after the reply. -/
theorem forceMultipleCoils_unanswered_three :
    let m : ModbusMapping := ⟨8, fun _ => OFF, 0, fun _ => OFF, 0, fun _ => 0, 0, fun _ => 0⟩
    let request := modbusSend .rtu (forceMultipleCoilsQuery .rtu 0 1 0 3 [1, 0, 1]).1
    let served := manageQuery .rtu 0 request m (fun _ => 0)
    (forceMultipleCoils .rtu 0 1 0 3 [1, 0, 1] ⟨⟨served.1, .timeOut⟩, [], 0, fun _ => 0⟩).ret =
      commTimeOut :=
  (forceMultipleCoils_unanswered .rtu 0 0 1 0 3 [1, 0, 1] (by decide) [] .timeOut [] _ (fun _ => 0)
    .timeOut [] 0 (fun _ => 0)).2.2.2

/-- **A write of several registers is never acknowledged.** For either
transport, every map, unit, start address, register count `0 ≤ n` and source
array: `modbus_listen` reads the request `preset_multiple_registers` transmits
whole, under every chunking; `manage_query` leaves the map as it is (function
code 16 is not implemented) and answers with the unwritten header of its
`response` buffer; and reading that reply, under every chunking,
`preset_multiple_registers` returns the code of the silence after it. -/
theorem presetMultipleRegisters_unanswered (mbParam : TypeCom) (tId tIdS : UInt16) (slave a n : Int)
    (dataSrc : List UInt16) (hn : 0 ≤ n) (rest : List UInt8) (silenceS : Silence) (chunksS : List Nat)
    (mbMapping : ModbusMapping) (stale : Nat → UInt8) (silence : Silence) (chunks : List Nat)
    (responseSize : Int) (response : Nat → UInt8) :
    let request := modbusSend mbParam (presetMultipleRegistersQuery mbParam tId slave a n dataSrc).1
    let served := manageQuery mbParam tIdS request mbMapping stale
    let call := presetMultipleRegisters mbParam tId slave a n dataSrc
      ⟨⟨served.1, silence⟩, chunks, responseSize, response⟩
    call.sent = request ∧ modbusListen mbParam ⟨request ++ rest, silenceS⟩ chunksS = ⟨0, some request⟩ ∧
      served = (modbusSend mbParam (prefixOf stale mbParam.headerLength), mbMapping, tIdS) ∧
      call.ret = silenceCode silence := by
  intro request served call
  obtain ⟨count, b, data, hb, hsize, hfit, hq⟩ := presetMultipleRegistersQuery_multiWrite mbParam tId slave a
    n dataSrc hn
  obtain ⟨hlisten, hserved, hret⟩ := multiWrite_unanswered mbParam tId tIdS (toU8 slave)
    (toU8 fcPresetMultipleRegisters) (toU16 a) count (.inr rfl) b data hb hsize hfit
    rest silenceS chunksS mbMapping stale silence chunks responseSize response
  rw [← hq] at hlisten hserved hret
  refine ⟨rfl, hlisten, hserved, ?_⟩
  show (modbusCheckResponse mbParam request ⟨⟨served.1, silence⟩, chunks, responseSize, response⟩).1 = _
  rw [show served = _ from hserved]
  exact hret

/-- Two registers from address 4 of unit 1 in TCP, against a peer that falls
silent after the reply. -/
theorem presetMultipleRegisters_unanswered_two :
    let m : ModbusMapping := ⟨0, fun _ => OFF, 0, fun _ => OFF, 8, fun _ => 0, 0, fun _ => 0⟩
    let request := modbusSend .tcp (presetMultipleRegistersQuery .tcp 0 1 4 2 [0x1234, 0x5678]).1
    let served := manageQuery .tcp 0 request m (fun _ => 0)
    (presetMultipleRegisters .tcp 0 1 4 2 [0x1234, 0x5678] ⟨⟨served.1, .timeOut⟩, [], 0, fun _ => 0⟩).ret =
      commTimeOut :=
  (presetMultipleRegisters_unanswered .tcp 0 0 1 4 2 [0x1234, 0x5678] (by decide) [] .timeOut [] _
    (fun _ => 0) .timeOut [] 0 (fun _ => 0)).2.2.2

/-! ## Transaction identifiers -/

/-- **After a single-coil write, TCP replies carry the wrong transaction
identifier.** For every map, reply buffer and peer: a fresh master's
`force_single_coil(1, 0, 1)` goes out with transaction identifier 1, and a fresh
server echoes it without advancing its own counter; the master's next request,
`read_coil_status(1, 0, 1)`, goes out with identifier 2, and the server answers
it with identifier 1. -/
theorem manageQuery_transactionId_after_echo (mbMapping : ModbusMapping) (stale : Nat → UInt8)
    (env env' : MasterEnv) :
    let write := forceSingleCoil .tcp 0 1 0 1 env
    let echo := manageQuery .tcp 0 write.sent mbMapping stale
    let read := readCoilStatus .tcp write.tId 1 0 1 env'
    let reply := manageQuery .tcp echo.2.2 read.sent echo.2.1 stale
    write.sent.take 2 = [0, 1] ∧ echo.1.take 2 = [0, 1] ∧ read.sent.take 2 = [0, 2] ∧
      reply.1.take 2 = [0, 1] := by
  intro write echo read reply
  have hread : read = readCoilStatus .tcp 1 1 0 1 env' := rfl
  have hreply : reply = manageQuery .tcp 0 (readCoilStatus .tcp 1 1 0 1 env').sent echo.2.1 stale := rfl
  rw [hreply, hread]
  exact ⟨rfl, rfl, rfl, rfl⟩

end Modbus
