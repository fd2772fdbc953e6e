import Modbus.Session

/-!
# Modbus — which requests keep the frame

`Session.run_valid` starts each transaction on a quiet line and follows the
requests the map answers. This module follows every request a master sends,
served or not: what the server does with it, what the map becomes over a
whole run, and what the line holds afterwards.

The server reads a read, a coil write or a multiple write whole. It answers
the function codes it implements, and the others with the `header_length`
bytes of a `response` buffer nothing wrote, which the master reads whole,
short of what it expects. `compute_query_size_header` gives
`report_slave_id` and `preset_single_register` no header bytes, so
`receive_msg` stops after the function code: in RTU the two bytes fail
`check_crc16` and `error_treat` flushes the line; in TCP the eight bytes of
a `report_slave_id` are the whole request, and of a
`preset_single_register` the server's loop reads the last four in its next
turn, times out on the silent line and drops them. So from a line with
nothing waiting for the server, every request within its buffers and the
declared tables is taken whole, and over every run the map follows the
machine over the map alone.

One request leaves bytes behind: in RTU, `manage_query` answers
`force_single_coil` by echoing the request, CRC included, and
`modbus_send` appends a CRC of the echo; the master reads the frame it
expects, and the two zero bytes of the second CRC wait for its next call
(the source notes that the echo "works only in TCP mode").

The master reads a short reply whole, times out and calls `error_treat`.
With `RECONNECT_ON_ERROR`, which `modbus_init_tcp` sets, a TCP session ends
there: at the first request the server does not serve.

Where the C code does not come back, `Session.step` goes on with a value:
`modbus_check_response` frees its stack array `s_error` on a timeout after
an exception frame of an invalid code, and when the line is silent from the
first wait `response_size` is never written and that frame is whatever the
master's stack holds. `Session.stepAborts` names those transactions.

## Results

* `serverHandles_inBounds` — the server takes every request within bounds
  whole, in either transport, and the map becomes the one it means.
* `Session.run_inBounds` — over every run of such requests from a line with
  nothing waiting for the server, the map is the map of the run over the map
  alone, reached by writes of `ON` or `OFF` to declared coils only.
* `Session.step_unservedTcp` — a request no server serves, from a quiet
  line, in either transport: the map and the server's counter stay and the
  line is quiet again, unless the master reconnects in TCP.
* `Session.step_keepsFrame` — every request but an RTU `force_single_coil`,
  reads within their limits, leaves a quiet line quiet or ends a TCP session
  that reconnects; `Session.run_keepsFrame` over every run of them.
* `Session.run_reconnects` — a TCP session with `RECONNECT_ON_ERROR` ends
  exactly when one of its requests is one the server does not serve.
* `Session.step_presetSingleRegister` — `preset_single_register` is never
  served, and leaves a quiet line quiet.
* `Session.stepAborts_keepsFrame` — among the requests that keep the frame,
  the master reaches `free(s_error)` exactly on the RTU requests the server
  rejects without a reply, when its uninitialised `response_size` and
  `response` hold an exception frame of an invalid code.
* `Session.forceSingleCoil_rtu_unread` — in RTU a coil write from a quiet
  line leaves the bytes `[0, 0]` waiting for the master.
-/

namespace Modbus

/-! ## What the server reads -/

/-- The server reads a request whose function code has no header bytes up to
the function code, and checks those bytes alone: in TCP they pass, in RTU
they carry no CRC. -/
theorem modbusListen_headerless (mbParam : TypeCom) (query : List UInt8)
    (hlen : mbParam.headerLength + 1 < query.length)
    (hfn : computeQuerySizeHeader (query.getD (mbParam.headerLength + 1) 0) = 0) (chunks : List Nat) :
    let msg := (modbusSend mbParam query).take (mbParam.headerLength + 2)
    modbusListen mbParam ⟨modbusSend mbParam query, .timeOut⟩ chunks = ⟨checkCrc16 mbParam msg, some msg⟩ ∧
      modbusListenTreats mbParam ⟨modbusSend mbParam query, .timeOut⟩ chunks = decide (checkCrc16 mbParam msg ≠ 0) := by
  intro msg
  have htarget := recvTarget_headerless mbParam query [] hlen hfn
  rw [List.append_nil] at htarget
  have hbound := headerLength_add_checksumSize_le mbParam
  have h := receiveMsg_none_target mbParam ⟨modbusSend mbParam query, .timeOut⟩ chunks htarget
    (Nat.succ_pos _) (by rw [length_modbusSend]; omega) (by unfold maxPacketSize; omega)
  simp only [modbusListen, modbusListenTreats, h, Option.getD_some, if_true, and_true]

/-- In RTU what the server reads of such a request, the unit and the function
code, fails the CRC check unless the function code is 0xFF, and
`error_treat` is called. -/
theorem modbusListen_headerless_rtu (query : List UInt8) (hlen : 1 < query.length)
    (hfn : computeQuerySizeHeader (query.getD 1 0) = 0) (hff : (query.getD 1 0).toNat ≠ 0xFF)
    (chunks : List Nat) :
    (modbusListen .rtu ⟨modbusSend .rtu query, .timeOut⟩ chunks).code ≠ 0 ∧
      modbusListenTreats .rtu ⟨modbusSend .rtu query, .timeOut⟩ chunks = true := by
  obtain ⟨hl, ht⟩ := modbusListen_headerless .rtu query hlen hfn chunks
  obtain ⟨x0, x1, t, rfl⟩ : ∃ x0 x1 t, query = x0 :: x1 :: t :=
    match query, hlen with
    | x0 :: x1 :: t, _ => ⟨x0, x1, t, rfl⟩
  have hcrc : checkCrc16 .rtu ((modbusSend .rtu (x0 :: x1 :: t)).take (TypeCom.rtu.headerLength + 2)) =
      invalidCrc := checkCrc16_rtu_pair x0 x1 hff
  rw [hl, ht, hcrc]
  exact ⟨show invalidCrc ≠ 0 by decide, by decide⟩

/-! ## TCP: the frame of a request -/

/-- A TCP request as it goes out: transaction identifier, protocol identifier
0, length 6, unit, function, and the two words. -/
theorem modbusSend_tcp_buildQueryPacket (tId : UInt16) (slave function : UInt8) (startAddr count : UInt16) :
    modbusSend .tcp (buildQueryPacket .tcp tId slave function startAddr count).1 =
      splitWord (nextTransactionId tId) ++ [0, 0, 0, 6, slave, function] ++ splitWord startAddr ++
        splitWord count := by
  simp only [modbusSend, setPacketLengthTcp, buildQueryPacket, buildQueryPacketTcp, splitWord,
    List.cons_append, List.nil_append, List.length_cons, List.length_nil, List.set_cons_succ, List.set_cons_zero]
  rfl

/-! ## What the server does with each request -/

/-- The server reads a message it does not serve whole: it answers with the
`header_length` bytes of a `response` buffer nothing wrote, and a CRC. -/
theorem serverHandles_unserved_whole (mbParam : TypeCom) (server : ErrorHandling) (e : StepEnv)
    {bytes : List UInt8} (mapping : ModbusMapping) (tId : UInt16)
    (hlisten : modbusListen mbParam ⟨bytes, .timeOut⟩ e.serverChunks = ⟨0, some bytes⟩)
    (hfn : fcForceSingleCoil < byteAt bytes (mbParam.headerLength + 1)) :
    serverHandles mbParam server e bytes mapping tId =
      some ([], modbusSend mbParam (prefixOf e.serverResponse mbParam.headerLength), [], mapping, tId) := by
  rw [serverHandles_whole server e mapping tId hlisten,
    manageQuery_unserved mbParam tId bytes mapping e.serverResponse (.inr hfn)]

/-- An RTU request whose function code has no header bytes: the server
rejects the unit and the function code it reads and flushes the line. -/
theorem serverHandles_headerless_rtu (server : ErrorHandling) (e : StepEnv) (query : List UInt8)
    (hlen : 1 < query.length) (hfn : computeQuerySizeHeader (query.getD 1 0) = 0)
    (hff : (query.getD 1 0).toNat ≠ 0xFF) (mapping : ModbusMapping) (tId : UInt16) :
    serverHandles .rtu server e (modbusSend .rtu query) mapping tId = some ([], [], [], mapping, tId) := by
  obtain ⟨hcode, htreat⟩ := modbusListen_headerless_rtu query hlen hfn hff e.serverChunks
  exact serverHandles_of_turn (serverTurn_rejected_rtu server _ mapping tId hcode htreat)

/-- **`preset_single_register` over TCP.** The server reads the request's
first eight bytes, up to the function code, and answers function code 6,
which it does not serve, with its unwritten header; the next turn of its loop
reads the last four bytes, times out on the silent line and drops them. -/
theorem serverHandles_presetSingleRegister_tcp (server : ErrorHandling) (e : StepEnv) (tId : UInt16)
    (slave regAddr value : Int) (mapping : ModbusMapping) (tIdS : UInt16) :
    serverHandles .tcp server e ((Request.presetSingleRegister slave regAddr value).sent .tcp tId) mapping tIdS =
      some ([], modbusSend .tcp (prefixOf e.serverResponse 6), [], mapping, tIdS) := by
  let q := (buildQueryPacket .tcp tId (toU8 slave) (toU8 fcPresetSingleRegister) (toU16 regAddr) (toU16 value)).1
  have hsent : (Request.presetSingleRegister slave regAddr value).sent .tcp tId = modbusSend .tcp q := rfl
  have hl := (modbusListen_headerless .tcp q (by rw [length_buildQueryPacket]; decide) rfl e.serverChunks).1
  -- function code 6, which `manage_query` does not serve
  have hfn : fcForceSingleCoil < byteAt ((modbusSend .tcp q).take (TypeCom.tcp.headerLength + 2)) 7 := by
    simp only [q, modbusSend_tcp_buildQueryPacket, byteAt, splitWord, List.cons_append, List.nil_append,
      headerLength_tcp, Nat.reduceAdd, List.take, List.getD_cons_succ, List.getD_cons_zero]
    decide
  -- the last four bytes, which the server's next turn drops
  have hdrop : (modbusSend .tcp q).drop ((modbusSend .tcp q).take (TypeCom.tcp.headerLength + 2)).length =
      splitWord (toU16 regAddr) ++ splitWord (toU16 value) := by
    simp only [q, modbusSend_tcp_buildQueryPacket]; rfl
  have hturn := @serverTurn_short .tcp server (e.loopChunks 3) (e.loopResponse 3)
    (splitWord (toU16 regAddr) ++ splitWord (toU16 value)) (List.cons_ne_nil _ _) (show 4 < 8 by decide) mapping tIdS
  simp only [splitWord, List.cons_append, List.nil_append] at hturn
  rw [hsent]
  simp only [serverHandles, serverTurn_accepted server e.serverResponse mapping tIdS hl,
    manageQuery_unserved .tcp tIdS _ mapping e.serverResponse (.inr hfn), hdrop, splitWord, List.cons_append,
    List.nil_append, List.length_cons, List.length_nil, Nat.reduceAdd, serverDrain, hturn, serverDrain_nil,
    Option.map_some', List.append_nil]
  rfl

/-- The requests no server serves, in either transport:
`preset_single_register`, `report_slave_id`, and the multiple writes, of a
count of at least 0. -/
def Request.UnservedTcp : Request → Prop
  | .presetSingleRegister .. | .reportSlaveId _ => True
  | .forceMultipleCoils _ _ n _ | .presetMultipleRegisters _ _ n _ => 0 ≤ n
  | _ => False

instance (op : Request) : Decidable op.UnservedTcp := by
  cases op <;> unfold Request.UnservedTcp <;> infer_instance

/-- The requests whose function code `compute_query_size_header` gives no
header bytes: `preset_single_register` and `report_slave_id`. -/
def Request.Headerless : Request → Prop
  | .presetSingleRegister .. | .reportSlaveId _ => True
  | _ => False

instance (op : Request) : Decidable op.Headerless := by
  cases op <;> unfold Request.Headerless <;> infer_instance

/-- A request of function code 1 to 5 is read whole, and answered by
`manage_query`. -/
theorem serverHandles_request (mbParam : TypeCom) (server : ErrorHandling) (e : StepEnv) (tId : UInt16)
    (slave function : UInt8) (startAddr count : UInt16) (hfn : function.toNat ≤ fcForceSingleCoil)
    (mapping : ModbusMapping) (tIdS : UInt16) :
    let request := modbusSend mbParam (buildQueryPacket mbParam tId slave function startAddr count).1
    let served := manageQuery mbParam tIdS request mapping e.serverResponse
    serverHandles mbParam server e request mapping tIdS = some ([], served.1, [], served.2.1, served.2.2) :=
  serverHandles_whole server e mapping tIdS
    (modbusListen_request mbParam tId slave function startAddr count hfn e.serverChunks)

/-- A multiple write of a count of at least 0 is read whole, and not served. -/
theorem serverHandles_multiWrite (mbParam : TypeCom) (server : ErrorHandling) (e : StepEnv) (tId : UInt16)
    (slave function : UInt8) (startAddr count : UInt16)
    (hfn : function.toNat = fcForceMultipleCoils ∨ function.toNat = fcPresetMultipleRegisters)
    (b : UInt8) (data : List UInt8) (hb : b.toNat = data.length)
    (hsize : data.length + mbParam.checksumSize < 256)
    (hfit : mbParam.headerLength + 7 + data.length + mbParam.checksumSize ≤ maxPacketSize)
    (mapping : ModbusMapping) (tIdS : UInt16) :
    serverHandles mbParam server e
        (modbusSend mbParam ((buildQueryPacket mbParam tId slave function startAddr count).1 ++ b :: data))
        mapping tIdS =
      some ([], modbusSend mbParam (prefixOf e.serverResponse mbParam.headerLength), [], mapping, tIdS) := by
  obtain ⟨hl, hq, -⟩ := multiWrite_unanswered mbParam tId tIdS slave function startAddr count hfn b data hb
    hsize hfit [] .timeOut e.serverChunks mapping e.serverResponse .timeOut [] 0 (fun _ => 0)
  rw [List.append_nil] at hl
  rw [serverHandles_whole server e mapping tIdS hl, hq]

/-- `report_slave_id` over TCP: its eight bytes are the whole request, which
the server does not serve. -/
theorem serverHandles_reportSlaveId_tcp (server : ErrorHandling) (e : StepEnv) (tId : UInt16) (slave : Int)
    (mapping : ModbusMapping) (tIdS : UInt16) :
    serverHandles .tcp server e ((Request.reportSlaveId slave).sent .tcp tId) mapping tIdS =
      some ([], modbusSend .tcp (prefixOf e.serverResponse 6), [], mapping, tIdS) := by
  have hsent : (Request.reportSlaveId slave).sent .tcp tId = modbusSend .tcp
      (splitWord (nextTransactionId tId) ++ [0, 0, 0, 0, toU8 slave, toU8 fcReportSlaveId]) := rfl
  obtain ⟨hl, -⟩ := modbusListen_headerless .tcp (splitWord (nextTransactionId tId) ++
    [0, 0, 0, 0, toU8 slave, toU8 fcReportSlaveId]) (show 7 < 8 by decide) rfl e.serverChunks
  rw [List.take_of_length_le (by rw [length_modbusSend]; exact Nat.le_refl 8), ← hsent] at hl
  exact serverHandles_unserved_whole .tcp server e mapping tIdS hl (by rw [hsent]; exact show 5 < 17 by decide)

/-- **What the server sends back for a request no server serves**, from a
line with nothing else waiting for it: in RTU nothing for the function codes
without header bytes, which it rejects, flushing the line; otherwise the
`header_length` bytes of a `response` buffer nothing wrote, and a CRC.
Nothing is left waiting for it, and the map and its counter stay. -/
theorem serverHandles_unservedTcp (mbParam : TypeCom) (server : ErrorHandling) (e : StepEnv) (tId : UInt16)
    {op : Request} (hop : op.UnservedTcp) (mapping : ModbusMapping) (tIdS : UInt16) :
    serverHandles mbParam server e (op.sent mbParam tId) mapping tIdS =
      some ([], if mbParam = .rtu ∧ op.Headerless then []
        else modbusSend mbParam (prefixOf e.serverResponse mbParam.headerLength), [], mapping, tIdS) := by
  cases op with
  | presetSingleRegister slave regAddr value =>
    cases mbParam with
    | tcp =>
      rw [if_neg fun h => nomatch h.1]
      exact serverHandles_presetSingleRegister_tcp server e tId slave regAddr value mapping tIdS
    | rtu =>
      rw [if_pos ⟨rfl, trivial⟩]
      exact serverHandles_headerless_rtu server e (buildQueryPacket .rtu tId (toU8 slave)
        (toU8 fcPresetSingleRegister) (toU16 regAddr) (toU16 value)).1 (by rw [length_buildQueryPacket]; decide)
        rfl (show (toU8 fcPresetSingleRegister).toNat ≠ 0xFF by decide) mapping tIdS
  | reportSlaveId slave =>
    cases mbParam with
    | tcp =>
      rw [if_neg fun h => nomatch h.1]
      exact serverHandles_reportSlaveId_tcp server e tId slave mapping tIdS
    | rtu =>
      rw [if_pos ⟨rfl, trivial⟩]
      exact serverHandles_headerless_rtu server e [toU8 slave, toU8 fcReportSlaveId] (Nat.lt_succ_self 1) rfl
        (show (toU8 fcReportSlaveId).toNat ≠ 0xFF by decide) mapping tIdS
  | forceMultipleCoils slave a n dataSrc =>
    obtain ⟨count, b, data, hb, hsize, hfit, hq⟩ :=
      forceMultipleCoilsQuery_multiWrite mbParam tId slave a n dataSrc hop
    simp only [Request.Headerless, and_false, ↓reduceIte]
    exact (congrArg (fun q => serverHandles mbParam server e (modbusSend mbParam q) mapping tIdS) hq).trans
      (serverHandles_multiWrite mbParam server e tId (toU8 slave) (toU8 fcForceMultipleCoils) (toU16 a) count
        (.inl rfl) b data hb hsize hfit mapping tIdS)
  | presetMultipleRegisters slave a n dataSrc =>
    obtain ⟨count, b, data, hb, hsize, hfit, hq⟩ :=
      presetMultipleRegistersQuery_multiWrite mbParam tId slave a n dataSrc hop
    simp only [Request.Headerless, and_false, ↓reduceIte]
    exact (congrArg (fun q => serverHandles mbParam server e (modbusSend mbParam q) mapping tIdS) hq).trans
      (serverHandles_multiWrite mbParam server e tId (toU8 slave) (toU8 fcPresetMultipleRegisters) (toU16 a)
        count (.inr rfl) b data hb hsize hfit mapping tIdS)
  | readCoilStatus | readInputStatus | readHoldingRegisters | readInputRegisters | forceSingleCoil =>
    exact hop.elim

/-- A register read whose count `read_holding_registers` or
`read_input_registers` caps at 125. -/
theorem capped_count_bounds (c : Int) (hc : 0 ≤ c) :
    0 ≤ (if c > 125 then 125 else c) ∧ (if c > 125 then 125 else c) ≤ 125 := by
  split <;> omega

/-- A request of function code 1 to 5 that leaves the map as `m'`. -/
theorem serverHandles_read (mbParam : TypeCom) (server : ErrorHandling) (e : StepEnv) (tId : UInt16)
    (slave function : UInt8) (startAddr count : UInt16) (hfn : function.toNat ≤ fcForceSingleCoil)
    (mapping : ModbusMapping) (tIdS : UInt16) {m' : ModbusMapping}
    (hmap : (manageQuery mbParam tIdS (modbusSend mbParam
      (buildQueryPacket mbParam tId slave function startAddr count).1) mapping e.serverResponse).2.1 = m') :
    ∃ reply tId', serverHandles mbParam server e
      (modbusSend mbParam (buildQueryPacket mbParam tId slave function startAddr count).1) mapping tIdS =
        some ([], reply, [], m', tId') :=
  ⟨_, _, by rw [← hmap]; exact (serverHandles_request mbParam server e tId slave function startAddr count hfn
    mapping tIdS)⟩

/-- The requests the server takes in either transport within its buffers and
the declared tables: those a TCP session serves as the map alone does, and
those no server serves. -/
def Request.InBounds (m : ModbusMapping) (op : Request) : Prop := op.Valid .tcp m ∨ op.UnservedTcp

instance (m : ModbusMapping) (op : Request) : Decidable (op.InBounds m) :=
  inferInstanceAs (Decidable (_ ∨ _))

/-- Such a request writes at most a declared coil, with `ON` or `OFF`. -/
theorem Request.coilWrites_of_inBounds {m : ModbusMapping} {op : Request} (hop : op.InBounds m) :
    m.CoilWrites (op.apply m) := by
  rcases hop with hop | hop
  · exact Request.coilWrites_apply hop
  · cases op <;> first | exact .refl m | exact hop.elim

theorem Request.inBounds_of_coilWrites {m m' : ModbusMapping} (h : m.CoilWrites m') (op : Request) :
    op.InBounds m' ↔ op.InBounds m := by
  rw [Request.InBounds, Request.InBounds, Request.valid_of_coilWrites .tcp h]

/-- **The server takes every request within bounds whole**, in either
transport, under every chunking and with either error handling: nothing is
left waiting for it, no later turn replies, and the map becomes the map the
request means. -/
theorem serverHandles_inBounds (mbParam : TypeCom) (server : ErrorHandling) (e : StepEnv) (tId : UInt16)
    {m : ModbusMapping} {op : Request} (hop : op.InBounds m) (tIdS : UInt16) :
    ∃ reply tId', serverHandles mbParam server e (op.sent mbParam tId) m tIdS =
      some ([], reply, [], op.apply m, tId') := by
  rcases hop with hop | hop
  · cases op with
    | readCoilStatus slave a c =>
      obtain ⟨-, -, hc, hc', -⟩ := hop
      obtain ⟨hserved, -⟩ := readStatus_served mbParam _ (.inl rfl) tId tIdS slave a c hc hc' m e.serverResponse
      exact serverHandles_read mbParam server e tId _ _ _ _ (by decide) m tIdS (congrArg Prod.fst hserved)
    | readInputStatus slave a c =>
      obtain ⟨-, -, hc, hc', -⟩ := hop
      obtain ⟨hserved, -⟩ := readStatus_served mbParam _ (.inr rfl) tId tIdS slave a c hc hc' m e.serverResponse
      exact serverHandles_read mbParam server e tId _ _ _ _ (by decide) m tIdS (congrArg Prod.fst hserved)
    | readHoldingRegisters slave a c =>
      obtain ⟨hn, hn'⟩ := capped_count_bounds c hop.2.2.1
      obtain ⟨hserved, -⟩ := readRegisters_served mbParam _ (.inl rfl) tId tIdS slave a _ hn hn' m
        e.serverResponse
      exact serverHandles_read mbParam server e tId _ _ _ _ (by decide) m tIdS (congrArg Prod.fst hserved)
    | readInputRegisters slave a c =>
      obtain ⟨hn, hn'⟩ := capped_count_bounds c hop.2.2.1
      obtain ⟨hserved, -⟩ := readRegisters_served mbParam _ (.inr rfl) tId tIdS slave a _ hn hn' m
        e.serverResponse
      exact serverHandles_read mbParam server e tId _ _ _ _ (by decide) m tIdS (congrArg Prod.fst hserved)
    | forceSingleCoil slave a state =>
      obtain ⟨-, ha, ha', -⟩ := hop
      have h16 : (toU16 a).toNat = a.toNat := by rw [toU16_toNat]; omega
      obtain ⟨hserved, -⟩ := forceSingleCoil_served mbParam tId tIdS slave a state m e.serverResponse
      exact serverHandles_read mbParam server e tId _ _ _ _ (by decide) m tIdS (by rw [hserved, h16]; rfl)
    | presetSingleRegister | forceMultipleCoils | presetMultipleRegisters | reportSlaveId => exact hop.elim
  · have h := serverHandles_unservedTcp mbParam server e tId hop m tIdS
    cases op <;> first | exact ⟨_, _, h⟩ | exact hop.elim

/-! ## The map over every run -/

/-- A transaction of a request within bounds, from a line with nothing
waiting for the server: nothing waits for it afterwards, and the map is the
map the request means, whatever the master reads. -/
theorem Session.step_inBounds {mbParam : TypeCom} {master server : ErrorHandling} {e : StepEnv}
    {op : Request} {s s' : Session} {a : Answer} (hs : s.toServer = []) (hop : op.InBounds s.mapping)
    (h : s.step mbParam master server e op = some (s', a)) :
    s'.toServer = [] ∧ s'.mapping = op.apply s.mapping := by
  obtain ⟨reply, replies, hh⟩ := Session.step_server h
  obtain ⟨reply', tId', hh'⟩ := serverHandles_inBounds mbParam server e s.masterTId hop s.serverTId
  rw [hs, List.nil_append, hh'] at hh
  simp only [Option.some.injEq, Prod.mk.injEq] at hh
  exact ⟨hh.1.symm, hh.2.2.2.1.symm⟩

/-- **The map over every run.** From a line with nothing waiting for the
server, every run of requests within bounds that keeps its connection, in
either transport, whatever the master has left unread, each transaction's
chunking and buffers and the error handling of either end: nothing waits
for the server after it, and its map is the map of the run over the map
alone, reached by writes of `ON` or `OFF` to declared coils only, so no
write reaches past the coil table. -/
theorem Session.run_inBounds (mbParam : TypeCom) (master server : ErrorHandling) :
    ∀ (steps : List (Request × StepEnv)) (s : Session), s.toServer = [] →
      (∀ p ∈ steps, p.1.InBounds s.mapping) → ∀ {s' : Session} {answers : List Answer},
      Session.run mbParam master server steps s = some (s', answers) →
        s'.toServer = [] ∧ s'.mapping = (runMap s.mapping (steps.map Prod.fst)).1 ∧
          s.mapping.CoilWrites s'.mapping
  | [], s, hs, _, s', answers, h => by
    obtain ⟨rfl, -⟩ := Prod.mk.inj (Option.some.inj h)
    exact ⟨hs, rfl, .refl _⟩
  | (op, e) :: steps, s, hs, hv, s', answers, h => by
    simp only [Session.run] at h
    split at h
    · exact absurd h (by simp only [reduceCtorEq, not_false_eq_true])
    · rename_i s₁ a hstep
      split at h
      · exact absurd h (by simp only [reduceCtorEq, not_false_eq_true])
      · rename_i s₂ as hrun
        obtain ⟨rfl, -⟩ := Prod.mk.inj (Option.some.inj h)
        have hop := hv (op, e) (List.mem_cons_self _ _)
        obtain ⟨hs₁, hm₁⟩ := Session.step_inBounds hs hop hstep
        have hcw : s.mapping.CoilWrites s₁.mapping := hm₁ ▸ Request.coilWrites_of_inBounds hop
        obtain ⟨hs₂, hm₂, hcw₂⟩ := Session.run_inBounds mbParam master server steps s₁ hs₁
          (fun p hp => (Request.inBounds_of_coilWrites hcw p.1).mpr (hv p (List.mem_cons_of_mem _ hp))) hrun
        exact ⟨hs₂, by rw [hm₂, hm₁]; rfl, hcw.trans hcw₂⟩

/-- A register write, which no server serves, a coil write and a read of
eight coils on a new TCP map with `NOP_ON_ERROR` on both ends. -/
theorem Session.run_inBounds_write_then_read :
    (Session.fresh.toServer = [] ∧
      ∀ p ∈ [(Request.presetSingleRegister 1 0 7, StepEnv.quiet), (Request.forceSingleCoil 1 3 1, StepEnv.quiet),
        (Request.readCoilStatus 1 0 8, StepEnv.quiet)], p.1.InBounds Session.fresh.mapping) ∧
    ∃ s' answers, Session.run .tcp .nopOnError .nopOnError
        [(.presetSingleRegister 1 0 7, StepEnv.quiet), (.forceSingleCoil 1 3 1, StepEnv.quiet),
          (.readCoilStatus 1 0 8, StepEnv.quiet)] Session.fresh = some (s', answers) ∧
      s'.toServer = [] ∧
      s'.mapping = (runMap Session.fresh.mapping [.presetSingleRegister 1 0 7, .forceSingleCoil 1 3 1,
        .readCoilStatus 1 0 8]).1 ∧ Session.fresh.mapping.CoilWrites s'.mapping := by
  have h : Session.run .tcp .nopOnError .nopOnError
      [(.presetSingleRegister 1 0 7, StepEnv.quiet), (.forceSingleCoil 1 3 1, StepEnv.quiet),
        (.readCoilStatus 1 0 8, StepEnv.quiet)] Session.fresh = some (_, _) := rfl
  exact ⟨⟨rfl, by decide⟩, _, _, h, Session.run_inBounds .tcp .nopOnError .nopOnError _ _ rfl (by decide) h⟩

/-! ## Requests the server does not serve -/

/-- The reply to a request the server does not serve: its unwritten header
and, in RTU, a CRC. -/
theorem length_modbusSend_prefixOf (mbParam : TypeCom) (response : Nat → UInt8) :
    (modbusSend mbParam (prefixOf response mbParam.headerLength)).length =
      mbParam.headerLength + mbParam.checksumSize := by
  rw [length_modbusSend, prefixOf, List.length_map, List.length_range]

/-- **A request the server does not serve.** The server answers it with the
`header_length` bytes of a `response` buffer nothing wrote, and a CRC,
on a line with nothing waiting for the master, which reads the reply whole,
short of what it expects. It times out and calls `error_treat`: in TCP with
`RECONNECT_ON_ERROR` the session ends; otherwise nothing waits for it. -/
theorem Session.step_unserved (mbParam : TypeCom) (master server : ErrorHandling) (e : StepEnv)
    (op : Request) {s : Session} (hm : s.toMaster = []) {toServer : List UInt8}
    (hh : serverHandles mbParam server e (s.toServer ++ op.sent mbParam s.masterTId) s.mapping s.serverTId =
      some (toServer, modbusSend mbParam (prefixOf e.serverResponse mbParam.headerLength), [], s.mapping,
        s.serverTId)) :
    ∃ a, s.step mbParam master server e op =
      if mbParam = .tcp ∧ master = .reconnectOnError then none
      else some (⟨mbParam.nextTId s.masterTId, s.serverTId, s.mapping, toServer, []⟩, a) := by
  -- the short reply, which the master reads whole and times out on
  have hbound := headerLength_add_checksumSize_le mbParam
  have hlen := length_modbusSend_prefixOf mbParam e.serverResponse
  have hsize := exceptionLength_le_computeResponseSize mbParam (op.sent mbParam s.masterTId)
  have hrecv := receiveMsg_some_short mbParam (computeResponseSize_pos mbParam (op.sent mbParam s.masterTId))
    ⟨modbusSend mbParam (prefixOf e.serverResponse mbParam.headerLength), .timeOut⟩ e.masterChunks
    (List.ne_nil_of_length_pos (by rw [hlen]; cases mbParam <;> decide)) (by rw [hlen]; omega)
    (by rw [hlen, maxPacketSize]; omega)
  have htreat : modbusCheckResponseTreats mbParam (op.sent mbParam s.masterTId)
      ⟨⟨modbusSend mbParam (prefixOf e.serverResponse mbParam.headerLength), .timeOut⟩, e.masterChunks,
        e.responseSize, e.masterResponse⟩ = true := by
    simp only [modbusCheckResponseTreats, hrecv, silenceCode]
    exact checkResponseTreats_timeOut mbParam _ (by rw [hlen]; omega) _
  refine ⟨(op.call mbParam s.masterTId ⟨⟨modbusSend mbParam (prefixOf e.serverResponse mbParam.headerLength),
    .timeOut⟩, e.masterChunks, e.responseSize, e.masterResponse⟩).2.1, ?_⟩
  rw [Session.step_eq mbParam master server e op hh]
  simp only [hm, List.nil_append, hrecv, htreat, Option.getD_some, List.drop_length, afterCall_true_nil]
  split_ifs <;> rfl

/-- **A request the RTU server rejects.** When `modbus_listen` fails and
`error_treat` flushes the line, the server sends nothing; the master times
out on the empty line, and the session is quiet again. -/
theorem Session.step_rejected_rtu (master server : ErrorHandling) (e : StepEnv) (op : Request) {s : Session}
    (hs : s.Synced)
    (hh : serverHandles .rtu server e (op.sent .rtu s.masterTId) s.mapping s.serverTId =
      some ([], [], [], s.mapping, s.serverTId)) :
    ∃ a, s.step .rtu master server e op = some (⟨s.masterTId, s.serverTId, s.mapping, [], []⟩, a) := by
  have hrecv : receiveMsg .rtu (some (computeResponseSize .rtu (op.sent .rtu s.masterTId))) ⟨[], .timeOut⟩
      e.masterChunks = ⟨commTimeOut, none⟩ := rfl
  rw [Session.step_eq .rtu master server e op (by rw [hs.1, List.nil_append]; exact hh)]
  simp only [hs.2, List.nil_append, hrecv, afterCall_rtu, ite_self, Option.getD_none, List.length_nil,
    List.drop_zero, Option.map_some', List.append_nil]
  exact ⟨_, rfl⟩

/-- **A request no server serves, from a quiet line**, in either transport:
the map and the server's counter stay and the line is quiet again, unless
the master reconnects in TCP. -/
theorem Session.step_unservedTcp (mbParam : TypeCom) (master server : ErrorHandling) (e : StepEnv)
    {s : Session} (hs : s.Synced) {op : Request} (hop : op.UnservedTcp) :
    ∃ a, s.step mbParam master server e op =
      if mbParam = .tcp ∧ master = .reconnectOnError then none
      else some (⟨mbParam.nextTId s.masterTId, s.serverTId, s.mapping, [], []⟩, a) := by
  have hh := serverHandles_unservedTcp mbParam server e s.masterTId hop s.mapping s.serverTId
  split_ifs at hh with hr
  · obtain ⟨rfl, -⟩ := hr
    obtain ⟨a, h⟩ := Session.step_rejected_rtu master server e op hs hh
    exact ⟨a, by rw [h, if_neg fun h => nomatch h.1]; rfl⟩
  · exact Session.step_unserved mbParam master server e op hs.2 (by rw [hs.1, List.nil_append]; exact hh)

/-! ## Requests that keep the frame -/

/-- The requests the server answers from a quiet line with the frame the
master expects and nothing more: the reads within the limits the reply fits,
and `force_single_coil` in TCP. -/
def Request.Answered (mbParam : TypeCom) : Request → Prop
  | .readCoilStatus _ _ c | .readInputStatus _ _ c => 0 ≤ c ∧ c ≤ 2000
  | .readHoldingRegisters _ _ c | .readInputRegisters _ _ c => 0 ≤ c
  | .forceSingleCoil .. => mbParam = .tcp
  | _ => False

instance (mbParam : TypeCom) (op : Request) : Decidable (op.Answered mbParam) := by
  cases op <;> unfold Request.Answered <;> infer_instance

/-- The requests that leave a quiet line quiet: all but `force_single_coil`
in RTU, with the reads within the limits the server's reply fits. -/
def Request.KeepsFrame (mbParam : TypeCom) : Request → Prop
  | .readCoilStatus _ _ c | .readInputStatus _ _ c => 0 ≤ c ∧ c ≤ 2000
  | .readHoldingRegisters _ _ c | .readInputRegisters _ _ c => 0 ≤ c
  | .forceSingleCoil .. => mbParam = .tcp
  | .presetSingleRegister .. => True
  | .forceMultipleCoils _ _ n _ | .presetMultipleRegisters _ _ n _ => 0 ≤ n
  | .reportSlaveId _ => True

instance (mbParam : TypeCom) (op : Request) : Decidable (op.KeepsFrame mbParam) := by
  cases op <;> unfold Request.KeepsFrame <;> infer_instance

/-- The server reads a request for a function code it serves whole and
answers it with the frame the master expects. -/
theorem Session.step_served_synced (mbParam : TypeCom) (master server : ErrorHandling) (e : StepEnv)
    (op : Request) {s : Session} (hs : s.Synced) {request : List UInt8}
    (hlisten : modbusListen mbParam ⟨request, .timeOut⟩ e.serverChunks = ⟨0, some request⟩)
    (hsent : op.sent mbParam s.masterTId = request)
    (hlen : (manageQuery mbParam s.serverTId request s.mapping e.serverResponse).1.length =
      computeResponseSize mbParam request)
    (hfit : (manageQuery mbParam s.serverTId request s.mapping e.serverResponse).1.length ≤ maxPacketSize)
    (hcrc : checkCrc16 mbParam (manageQuery mbParam s.serverTId request s.mapping e.serverResponse).1 = 0) :
    ∃ s' a, s.step mbParam master server e op = some (s', a) ∧ s'.Synced :=
  ⟨_, _, Session.step_of_served mbParam master server e op hs hlisten hsent (List.append_nil _).symm hlen
    hfit hcrc, rfl, rfl⟩

/-- **The server serves an answered request** in one turn: it reads the
request whole and replies with a frame of the length the master predicts,
which passes `check_crc16`. -/
theorem Request.served_of_answered {mbParam : TypeCom} {op : Request} (hop : op.Answered mbParam) (e : StepEnv)
    (tId tIdS : UInt16) (m : ModbusMapping) :
    ∃ request, modbusListen mbParam ⟨request, .timeOut⟩ e.serverChunks = ⟨0, some request⟩ ∧
      op.sent mbParam tId = request ∧
      (manageQuery mbParam tIdS request m e.serverResponse).1.length = computeResponseSize mbParam request ∧
      (manageQuery mbParam tIdS request m e.serverResponse).1.length ≤ maxPacketSize ∧
      checkCrc16 mbParam (manageQuery mbParam tIdS request m e.serverResponse).1 = 0 := by
  cases op with
  | readCoilStatus slave a c =>
    obtain ⟨-, hsize, hfit, hcrc, -⟩ := readStatus_served mbParam _ (.inl rfl) tId tIdS slave a c hop.1 hop.2 m
      e.serverResponse
    exact ⟨_, modbusListen_request mbParam tId _ _ _ _ (by decide) e.serverChunks, rfl, hsize, hfit, hcrc⟩
  | readInputStatus slave a c =>
    obtain ⟨-, hsize, hfit, hcrc, -⟩ := readStatus_served mbParam _ (.inr rfl) tId tIdS slave a c hop.1 hop.2 m
      e.serverResponse
    exact ⟨_, modbusListen_request mbParam tId _ _ _ _ (by decide) e.serverChunks, rfl, hsize, hfit, hcrc⟩
  | readHoldingRegisters slave a c =>
    obtain ⟨hn, hn'⟩ := capped_count_bounds c hop
    obtain ⟨-, hsize, hfit, hcrc, -⟩ := readRegisters_served mbParam _ (.inl rfl) tId tIdS slave a _ hn hn' m
      e.serverResponse
    exact ⟨_, modbusListen_request mbParam tId _ _ _ _ (by decide) e.serverChunks, rfl, hsize, hfit, hcrc⟩
  | readInputRegisters slave a c =>
    obtain ⟨hn, hn'⟩ := capped_count_bounds c hop
    obtain ⟨-, hsize, hfit, hcrc, -⟩ := readRegisters_served mbParam _ (.inr rfl) tId tIdS slave a _ hn hn' m
      e.serverResponse
    exact ⟨_, modbusListen_request mbParam tId _ _ _ _ (by decide) e.serverChunks, rfl, hsize, hfit, hcrc⟩
  | forceSingleCoil slave a state =>
    obtain rfl : mbParam = .tcp := hop
    obtain ⟨hserved, hsize, hfit, hcrc, -⟩ := forceSingleCoil_served .tcp tId tIdS slave a state m e.serverResponse
    rw [checksumSize_tcp, List.replicate_zero, List.append_nil] at hserved
    exact ⟨_, modbusListen_request .tcp tId _ _ _ _ (by decide) e.serverChunks, rfl, by rw [hserved]; exact hsize.symm,
      by rw [hserved]; exact hfit, by rw [hserved]; exact hcrc⟩
  | presetSingleRegister | forceMultipleCoils | presetMultipleRegisters | reportSlaveId => exact hop.elim

/-- **An answered request leaves a quiet line quiet**, under every chunking
and every stale buffer, and with either error handling. -/
theorem Session.step_answered (mbParam : TypeCom) (master server : ErrorHandling) (e : StepEnv)
    {s : Session} (hs : s.Synced) {op : Request} (hop : op.Answered mbParam) :
    ∃ s' a, s.step mbParam master server e op = some (s', a) ∧ s'.Synced := by
  obtain ⟨request, hl, hsent, hlen, hfit, hcrc⟩ := Request.served_of_answered hop e s.masterTId s.serverTId
    s.mapping
  exact Session.step_served_synced mbParam master server e op hs hl hsent hlen hfit hcrc

/-- A request that keeps the frame is answered, or served by no server. -/
theorem Request.answered_or_unservedTcp {mbParam : TypeCom} {op : Request} (hop : op.KeepsFrame mbParam) :
    op.Answered mbParam ∨ op.UnservedTcp := by
  cases op <;> first | exact .inl hop | exact .inr hop

/-- A step that ends quiet unless the master reconnects in TCP. -/
theorem Session.quiet_or_reconnect {mbParam : TypeCom} {master : ErrorHandling} {r : Option (Session × Answer)}
    {s' : Session} (hs' : s'.Synced)
    (h : ∃ a, r = if mbParam = .tcp ∧ master = .reconnectOnError then none else some (s', a)) :
    (∃ s'' a, r = some (s'', a) ∧ s''.Synced) ∨ (mbParam = .tcp ∧ master = .reconnectOnError ∧ r = none) := by
  obtain ⟨a, rfl⟩ := h
  by_cases hc : mbParam = .tcp ∧ master = .reconnectOnError
  · exact .inr ⟨hc.1, hc.2, if_pos hc⟩
  · exact .inl ⟨s', a, if_neg hc, hs'⟩

/-- **Every request that keeps the frame leaves a quiet line quiet**, under
every chunking and every stale buffer, whether the server serves it or not;
unless the master reconnects in TCP on a short reply. -/
theorem Session.step_keepsFrame (mbParam : TypeCom) (master server : ErrorHandling) (e : StepEnv)
    {s : Session} (hs : s.Synced) {op : Request} (hop : op.KeepsFrame mbParam) :
    (∃ s' a, s.step mbParam master server e op = some (s', a) ∧ s'.Synced) ∨
      (mbParam = .tcp ∧ master = .reconnectOnError ∧ s.step mbParam master server e op = none) := by
  rcases Request.answered_or_unservedTcp hop with hop | hop
  · exact .inl (Session.step_answered mbParam master server e hs hop)
  · exact Session.quiet_or_reconnect ⟨rfl, rfl⟩ (Session.step_unservedTcp mbParam master server e hs hop)

theorem Request.not_unservedTcp_of_answered {mbParam : TypeCom} {op : Request} (h : op.Answered mbParam) :
    ¬op.UnservedTcp := by
  cases op <;> first | exact id | exact h.elim

/-- With `RECONNECT_ON_ERROR`, which `modbus_init_tcp` sets, a request the
TCP server does not serve ends the session: the master times out on the
short reply and `error_treat` closes the connection. -/
theorem Session.step_reconnects (server : ErrorHandling) (e : StepEnv) {s : Session} (hs : s.Synced)
    {op : Request} (hop : op.UnservedTcp) : s.step .tcp .reconnectOnError server e op = none := by
  obtain ⟨a, h⟩ := Session.step_unservedTcp .tcp .reconnectOnError server e hs hop
  rw [h, if_pos ⟨rfl, rfl⟩]

/-- **A TCP session with `RECONNECT_ON_ERROR` lasts until the first request
the server does not serve.** From a quiet line, over every run of answered
and unserved requests, whatever the server's error handling, each
transaction's chunking and buffers: the run ends with a reconnection exactly
when one of its requests is unserved. -/
theorem Session.run_reconnects (server : ErrorHandling) :
    ∀ (steps : List (Request × StepEnv)) (s : Session), s.Synced →
      (∀ p ∈ steps, p.1.Answered .tcp ∨ p.1.UnservedTcp) →
      (Session.run .tcp .reconnectOnError server steps s = none ↔ ∃ p ∈ steps, p.1.UnservedTcp)
  | [], s, _, _ => by simp only [Session.run, List.not_mem_nil, false_and, exists_false, reduceCtorEq]
  | (op, e) :: steps, s, hs, hv => by
    rcases hv (op, e) (List.mem_cons_self _ _) with hop | hop
    · obtain ⟨s', a, hstep, hs'⟩ := Session.step_answered .tcp .reconnectOnError server e hs hop
      have ih := Session.run_reconnects server steps s' hs' (fun p hp => hv p (List.mem_cons_of_mem _ hp))
      simp only [List.mem_cons, exists_eq_or_imp]
      rw [or_iff_right (Request.not_unservedTcp_of_answered hop), ← ih]
      cases hrun : Session.run .tcp .reconnectOnError server steps s' <;>
        simp only [Session.run, hstep, hrun, reduceCtorEq]
    · simp only [Session.run, Session.step_reconnects server e hs hop]
      exact iff_of_true trivial ⟨(op, e), List.mem_cons_self _ _, hop⟩

/-- A TCP run of a read, a `report_slave_id` and a read ends at the second
request. -/
theorem Session.run_reconnects_reportSlaveId :
    Session.fresh.Synced ∧
    (∀ p ∈ [(Request.readCoilStatus 1 0 8, StepEnv.quiet), (Request.reportSlaveId 1, StepEnv.quiet),
      (Request.readHoldingRegisters 1 0 2, StepEnv.quiet)], p.1.Answered .tcp ∨ p.1.UnservedTcp) ∧
    (Session.run .tcp .reconnectOnError .nopOnError
        [(.readCoilStatus 1 0 8, StepEnv.quiet), (.reportSlaveId 1, StepEnv.quiet),
          (.readHoldingRegisters 1 0 2, StepEnv.quiet)] Session.fresh = none ↔
      ∃ p ∈ [(Request.readCoilStatus 1 0 8, StepEnv.quiet), (Request.reportSlaveId 1, StepEnv.quiet),
        (Request.readHoldingRegisters 1 0 2, StepEnv.quiet)], p.1.UnservedTcp) :=
  ⟨⟨rfl, rfl⟩, by decide, Session.run_reconnects .nopOnError _ _ ⟨rfl, rfl⟩ (by decide)⟩

/-! ## `preset_single_register` is never served -/

/-- A step that ends in `s'` unless the master reconnects in TCP. -/
theorem Session.some_or_reconnect {mbParam : TypeCom} {master : ErrorHandling} {r : Option (Session × Answer)}
    {s' : Session} (h : ∃ a, r = if mbParam = .tcp ∧ master = .reconnectOnError then none else some (s', a)) :
    (∃ a, r = some (s', a)) ∨ (mbParam = .tcp ∧ master = .reconnectOnError ∧ r = none) := by
  obtain ⟨a, rfl⟩ := h
  by_cases hc : mbParam = .tcp ∧ master = .reconnectOnError
  · exact .inr ⟨hc.1, hc.2, if_pos hc⟩
  · exact .inl ⟨a, if_neg hc⟩

/-- **`preset_single_register` is never served.** From a quiet line, in
either transport, under every chunking and buffer and with either error
handling on the server: the map and the server's counter stay as they were,
and the line is quiet again, unless the master reconnects in TCP. In TCP the
server reads eight bytes, answers function code 6, which `manage_query` does
not implement, with its unwritten header, and its loop's next
`modbus_listen` reads the last four bytes, times out and drops them; in RTU
the unit and the function code fail `check_crc16` and `error_treat`
flushes the line. -/
theorem Session.step_presetSingleRegister (mbParam : TypeCom) (master server : ErrorHandling) (e : StepEnv)
    {s : Session} (hs : s.Synced) (slave regAddr value : Int) :
    (∃ s' a, s.step mbParam master server e (.presetSingleRegister slave regAddr value) = some (s', a) ∧
        s'.Synced ∧ s'.mapping = s.mapping ∧ s'.serverTId = s.serverTId) ∨
      (mbParam = .tcp ∧ master = .reconnectOnError ∧
        s.step mbParam master server e (.presetSingleRegister slave regAddr value) = none) := by
  rcases Session.some_or_reconnect (@Session.step_unservedTcp mbParam master server e s hs
    (.presetSingleRegister slave regAddr value) trivial) with ⟨a, h⟩ | h
  · exact .inl ⟨_, a, h, ⟨rfl, rfl⟩, rfl, rfl⟩
  · exact .inr h

/-- A register write on a new TCP map with `NOP_ON_ERROR` on both ends. -/
theorem Session.step_presetSingleRegister_fresh :
    Session.fresh.Synced ∧
    ((∃ s' a, Session.fresh.step .tcp .nopOnError .nopOnError StepEnv.quiet (.presetSingleRegister 1 0 7) =
        some (s', a) ∧ s'.Synced ∧ s'.mapping = Session.fresh.mapping ∧ s'.serverTId = Session.fresh.serverTId) ∨
      (TypeCom.tcp = .tcp ∧ ErrorHandling.nopOnError = .reconnectOnError ∧
        Session.fresh.step .tcp .nopOnError .nopOnError StepEnv.quiet (.presetSingleRegister 1 0 7) = none)) :=
  ⟨⟨rfl, rfl⟩, Session.step_presetSingleRegister .tcp .nopOnError .nopOnError StepEnv.quiet ⟨rfl, rfl⟩ 1 0 7⟩

/-! ## Where the master does not come back -/

theorem Request.not_headerless_of_answered {mbParam : TypeCom} {op : Request} (h : op.Answered mbParam) :
    ¬op.Headerless := by
  cases op <;> first | exact id | exact h.elim

/-- A transaction whose reply arrived, as long as the master expects it or
not as long as an exception frame: the master does not reach `free(s_error)`. -/
theorem Session.stepAborts_of_reply {mbParam : TypeCom} {server : ErrorHandling} {e : StepEnv}
    {op : Request} {s : Session} (hm : s.toMaster = []) {toServer reply replies : List UInt8}
    {mapping : ModbusMapping} {tId : UInt16}
    (hh : serverHandles mbParam server e (s.toServer ++ op.sent mbParam s.masterTId) s.mapping s.serverTId =
      some (toServer, reply, replies, mapping, tId))
    (hne : reply ≠ [])
    (hlen : computeResponseSize mbParam (op.sent mbParam s.masterTId) ≤ reply.length ∨
      reply.length ≠ mbParam.headerLength + 3 + mbParam.checksumSize) :
    s.stepAborts mbParam server e op = false := by
  simp only [Session.stepAborts, hh, hm, List.nil_append]
  exact modbusCheckResponseAborts_eq_false mbParam _ _ hne hlen

/-- A transaction whose reply is nothing: the master reaches `free(s_error)`
on what its uninitialised `response_size` and `response` hold. -/
theorem Session.stepAborts_silent {mbParam : TypeCom} {server : ErrorHandling} {e : StepEnv}
    {op : Request} {s : Session} (hm : s.toMaster = []) {toServer replies : List UInt8}
    {mapping : ModbusMapping} {tId : UInt16}
    (hh : serverHandles mbParam server e (s.toServer ++ op.sent mbParam s.masterTId) s.mapping s.serverTId =
      some (toServer, [], replies, mapping, tId)) :
    s.stepAborts mbParam server e op =
      checkResponseAborts mbParam (op.sent mbParam s.masterTId) commTimeOut e.responseSize e.masterResponse := by
  simp only [Session.stepAborts, hh, hm, List.nil_append]
  exact modbusCheckResponseAborts_silent mbParam _ _ _ _

/-- **Where the master does not come back.** From a quiet line, for every
request that keeps the frame, under every chunking and with either error
handling on the server: the master's `modbus_check_response` reaches
`free(s_error)` exactly on an RTU `preset_single_register` or
`report_slave_id`, which the server rejects without a reply, when its
uninitialised `response_size` and `response` hold an exception frame whose
CRC passes, whose function code is the request's plus 0x80 and whose
exception code is `NB_TAB_ERROR_MSG` or more. Every other transaction of
`Session.run_keepsFrame` comes back as `Session.step` says. -/
theorem Session.stepAborts_keepsFrame (mbParam : TypeCom) (server : ErrorHandling) (e : StepEnv)
    {s : Session} (hs : s.Synced) {op : Request} (hop : op.KeepsFrame mbParam) :
    s.stepAborts mbParam server e op = true ↔
      mbParam = .rtu ∧ op.Headerless ∧
        checkResponseAborts mbParam (op.sent mbParam s.masterTId) commTimeOut e.responseSize
          e.masterResponse = true := by
  rcases Request.answered_or_unservedTcp hop with hop | hop
  · -- the server replies with the frame the master expects
    obtain ⟨request, hl, hsent, hlen, -, -⟩ := Request.served_of_answered hop e s.masterTId s.serverTId
      s.mapping
    have hh : serverHandles mbParam server e (s.toServer ++ op.sent mbParam s.masterTId) s.mapping s.serverTId =
        some ([], (manageQuery mbParam s.serverTId request s.mapping e.serverResponse).1, [],
          (manageQuery mbParam s.serverTId request s.mapping e.serverResponse).2.1,
          (manageQuery mbParam s.serverTId request s.mapping e.serverResponse).2.2) := by
      rw [hs.1, List.nil_append, hsent]
      exact serverHandles_whole server e s.mapping s.serverTId hl
    have hpos := computeResponseSize_pos mbParam request
    rw [Session.stepAborts_of_reply hs.2 hh (List.ne_nil_of_length_pos (by omega)) (.inl (by rw [hsent]; omega))]
    exact iff_of_false Bool.false_ne_true fun h => Request.not_headerless_of_answered hop h.2.1
  · -- no server serves it: the reply is its unwritten header, or nothing
    have hh : serverHandles mbParam server e (s.toServer ++ op.sent mbParam s.masterTId) s.mapping s.serverTId =
        serverHandles mbParam server e (op.sent mbParam s.masterTId) s.mapping s.serverTId := by
      rw [hs.1, List.nil_append]
    rw [serverHandles_unservedTcp mbParam server e s.masterTId hop s.mapping s.serverTId] at hh
    split_ifs at hh with hr
    · obtain ⟨rfl, hhd⟩ := hr
      rw [Session.stepAborts_silent hs.2 hh]
      exact ⟨fun h => ⟨rfl, hhd, h⟩, fun h => h.2.2⟩
    · have hlen := length_modbusSend_prefixOf mbParam e.serverResponse
      have hbound := headerLength_add_checksumSize_le mbParam
      rw [Session.stepAborts_of_reply hs.2 hh (List.ne_nil_of_length_pos (by rw [hlen]; cases mbParam <;> decide))
        (.inr (by omega))]
      exact iff_of_false Bool.false_ne_true fun h => hr ⟨h.1, h.2.1⟩

/-- An RTU `preset_single_register` from a new map, when the master's stack
holds the exception frame `01 86 0C` and its CRC, and the uninitialised
`response_size` is 5. -/
theorem Session.stepAborts_presetSingleRegister_rtu :
    Session.fresh.stepAborts .rtu .nopOnError
      ⟨[], fun _ => 0, [], 5, fun i => (modbusSend .rtu [1, 0x86, 12]).getD i 0, fun _ => [], fun _ _ => 0⟩
      (.presetSingleRegister 1 0 7) = true :=
  (@Session.stepAborts_keepsFrame .rtu .nopOnError _ Session.fresh ⟨rfl, rfl⟩ (.presetSingleRegister 1 0 7)
    trivial).2 ⟨rfl, trivial, by decide⟩

/-! ## RTU: the echo of a coil write -/

/-- **In RTU a coil write leaves two bytes behind.** From a quiet line, the
server sets the coil and the master returns 1, and the two zero bytes of the
CRC `modbus_send` appends to the echo wait for the master's next call. -/
theorem Session.forceSingleCoil_rtu_unread (master server : ErrorHandling) (e : StepEnv) {s : Session}
    (hs : s.Synced) (slave a state : Int) (ha : 0 ≤ a) (ha' : a < 65536) :
    s.step .rtu master server e (.forceSingleCoil slave a state) =
      some (⟨s.masterTId, s.serverTId, s.mapping.setCoil a.toNat (if state ≠ 0 then ON else OFF), [],
        [0, 0]⟩, .written 1) :=
  Session.step_forceSingleCoil .rtu master server e hs slave a state ha ha'

/-- Coil 3 of a new map set from a quiet RTU line. -/
theorem Session.forceSingleCoil_rtu_unread_coil_three :
    Session.fresh.Synced ∧ (0 : Int) ≤ 3 ∧ (3 : Int) < 65536 ∧
    Session.fresh.step .rtu .reconnectOnError .reconnectOnError StepEnv.quiet (.forceSingleCoil 1 3 1) =
      some (⟨0, 0, Session.fresh.mapping.setCoil (3 : Int).toNat (if (1 : Int) ≠ 0 then ON else OFF), [],
        [0, 0]⟩, .written 1) :=
  ⟨⟨rfl, rfl⟩, by decide, by decide,
    Session.forceSingleCoil_rtu_unread .reconnectOnError .reconnectOnError _ ⟨rfl, rfl⟩ 1 3 1 (by decide)
      (by decide)⟩

end Modbus
