import Modbus.RoundTrip
import Mathlib.Logic.Function.Iterate

/-!
# Modbus — a session of master and server

A master and a server on one line. The master calls one of its operations,
which transmits a request through `modbus_send`; the server's loop calls
`modbus_listen` and, when it returns 0, `manage_query`, and then listens
again; the master's operation reads the reply. Each end keeps what it was
sent and has not read, and `error_treat` acts on it when a call runs it: in
RTU it flushes it, in TCP with `RECONNECT_ON_ERROR` it reconnects, which ends
the session here, and with `NOP_ON_ERROR` it leaves it. The static `t_id`
counters of the two builders start at 0 and belong to the session.

A transaction takes every byte one end sent to have arrived when the other
reads, and the line to be silent after it. The server's loop does not wait
for the master: after the turn that reads the request, its next
`modbus_listen` reads what that turn left, on the silent line, and so on
until nothing waits for it (`serverDrain`). How each end's reads are split,
and the uninitialised buffers of both, are free. Where the master's
`modbus_check_response` frees its stack array `s_error` the C code does not
come back; `Session.step` goes on with the model's value there, and
`Session.stepAborts` names those transactions.

Over it stands a machine over the map alone: a read returns its table's
entries, a coil write sets the coil. The session refines it for the requests
that are served as their senders expect, within the declared tables;
`Modbus.Framing` follows every other request.

## Results

* `Session.step_eq` — a transaction is the server's handling of what waits
  for it, then the master's call on the reply.
* `Session.step_of_served` — a transaction on a quiet line whose request
  the server accepts and whose reply starts with a frame the master accepts.
* `Session.step_valid` — each valid request from a quiet line with a
  well-formed map is answered as the map alone answers it.
* `Session.run_valid` — every run of valid requests from there returns the
  answers of the run over the map alone and ends in its map, with nothing
  waiting; the master's counter steps once per request, the server's once
  per read.
-/

namespace Modbus

/-! ## Requests and answers -/

/-- A call of a master operation, with its arguments. -/
inductive Request
  | readCoilStatus (slave startAddr count : Int)
  | readInputStatus (slave startAddr count : Int)
  | readHoldingRegisters (slave startAddr count : Int)
  | readInputRegisters (slave startAddr count : Int)
  | forceSingleCoil (slave coilAddr state : Int)
  | presetSingleRegister (slave regAddr value : Int)
  | forceMultipleCoils (slave startAddr coilCount : Int) (dataSrc : List UInt8)
  | presetMultipleRegisters (slave startAddr regCount : Int) (dataSrc : List UInt16)
  | reportSlaveId (slave : Int)

/-- What a master operation returns, with what it writes to `data_dest`. -/
inductive Answer
  | bits (ret : Int) (dest : List (Nat × UInt8))
  | registers (ret : Int) (dest : List (Nat × UInt16))
  | written (ret : Int)
  deriving DecidableEq, Repr

/-- The call: the frame it transmits, its answer, and the master's counter after it. -/
def Request.call (mbParam : TypeCom) (tId : UInt16) (env : MasterEnv) :
    Request → List UInt8 × Answer × UInt16
  | .readCoilStatus slave a c =>
    let k := Modbus.readCoilStatus mbParam tId slave a c env
    (k.sent, .bits k.ret k.dest, k.tId)
  | .readInputStatus slave a c =>
    let k := Modbus.readInputStatus mbParam tId slave a c env
    (k.sent, .bits k.ret k.dest, k.tId)
  | .readHoldingRegisters slave a c =>
    let k := Modbus.readHoldingRegisters mbParam tId slave a c env
    (k.sent, .registers k.ret k.dest, k.tId)
  | .readInputRegisters slave a c =>
    let k := Modbus.readInputRegisters mbParam tId slave a c env
    (k.sent, .registers k.ret k.dest, k.tId)
  | .forceSingleCoil slave a state =>
    let k := Modbus.forceSingleCoil mbParam tId slave a state env
    (k.sent, .written k.ret, k.tId)
  | .presetSingleRegister slave a value =>
    let k := Modbus.presetSingleRegister mbParam tId slave a value env
    (k.sent, .written k.ret, k.tId)
  | .forceMultipleCoils slave a n dataSrc =>
    let k := Modbus.forceMultipleCoils mbParam tId slave a n dataSrc env
    (k.sent, .written k.ret, k.tId)
  | .presetMultipleRegisters slave a n dataSrc =>
    let k := Modbus.presetMultipleRegisters mbParam tId slave a n dataSrc env
    (k.sent, .written k.ret, k.tId)
  | .reportSlaveId slave =>
    let k := Modbus.reportSlaveId mbParam tId slave env
    (k.sent, .bits k.ret k.dest, k.tId)

/-- The frame a request goes out as, which no reply changes. -/
def Request.sent (mbParam : TypeCom) (tId : UInt16) (op : Request) : List UInt8 :=
  (op.call mbParam tId ⟨⟨[], .timeOut⟩, [], 0, fun _ => 0⟩).1

@[simp] theorem Request.call_fst (mbParam : TypeCom) (tId : UInt16) (env : MasterEnv) (op : Request) :
    (op.call mbParam tId env).1 = op.sent mbParam tId := by
  cases op <;> rfl

@[simp] theorem Request.call_tId (mbParam : TypeCom) (tId : UInt16) (env : MasterEnv) (op : Request) :
    (op.call mbParam tId env).2.2 = mbParam.nextTId tId := by
  cases op <;> simp only [Request.call, Modbus.readCoilStatus, Modbus.readInputStatus, readStatus,
    readIoStatus, Modbus.readHoldingRegisters, Modbus.readInputRegisters, readRegistersCapped,
    readRegisters, Modbus.forceSingleCoil, Modbus.presetSingleRegister, setSingle,
    Modbus.forceMultipleCoils, forceMultipleCoilsQuery, Modbus.presetMultipleRegisters,
    presetMultipleRegistersQuery, Modbus.reportSlaveId, buildQueryPacket_snd]

/-! ## The session -/

/-- `error_handling_t`: `RECONNECT_ON_ERROR`, the default, or `NOP_ON_ERROR`. -/
inductive ErrorHandling
  | reconnectOnError
  | nopOnError
  deriving DecidableEq, Repr

/-- `error_treat` on one end of the line, for the bytes that end has received
and not read: in RTU `tcflush(fd, TCIOFLUSH)` discards them; in TCP with
`RECONNECT_ON_ERROR` the connection is closed and opened again, which ends the
session (`none`); with `NOP_ON_ERROR` nothing changes. -/
def errorTreat (mbParam : TypeCom) (errorHandling : ErrorHandling) (unread : List UInt8) :
    Option (List UInt8) :=
  match mbParam, errorHandling with
  | .rtu, _ => some []
  | .tcp, .reconnectOnError => none
  | .tcp, .nopOnError => some unread

/-- The bytes an end has not read after a call, which `error_treat` handles
when the call made it run. -/
def afterCall (mbParam : TypeCom) (errorHandling : ErrorHandling) (treated : Bool)
    (unread : List UInt8) : Option (List UInt8) :=
  if treated then errorTreat mbParam errorHandling unread else some unread

@[simp] theorem afterCall_false (mbParam : TypeCom) (errorHandling : ErrorHandling) (unread : List UInt8) :
    afterCall mbParam errorHandling false unread = some unread := rfl

/-- In RTU `error_treat` flushes what is unread. -/
theorem afterCall_rtu (errorHandling : ErrorHandling) (treated : Bool) (unread : List UInt8) :
    afterCall .rtu errorHandling treated unread = some (if treated then [] else unread) := by
  cases treated <;> rfl

/-- When `error_treat` runs on an end with nothing unread, that end is left
with nothing unread, unless it closes a TCP connection. -/
theorem afterCall_true_nil (mbParam : TypeCom) (errorHandling : ErrorHandling) :
    afterCall mbParam errorHandling true [] =
      if mbParam = .tcp ∧ errorHandling = .reconnectOnError then none else some [] := by
  cases mbParam <;> cases errorHandling <;> rfl

/-- A master and a server on one line, between two transactions. -/
structure Session where
  /-- The static `t_id` of `build_query_packet_tcp`. -/
  masterTId : UInt16
  /-- The static `t_id` of `build_response_packet_tcp`. -/
  serverTId : UInt16
  mapping : ModbusMapping
  /-- The bytes the master has sent and the server has not read. -/
  toServer : List UInt8
  /-- The bytes the server has sent and the master has not read. -/
  toMaster : List UInt8

/-- What one transaction does not choose: how each end's reads are split, the
uninitialised `response` of `manage_query`, and the uninitialised
`response_size` and `response` of the master's call; and for the server
loop's later turns, by the number of turns left after each, how its reads
are split and what `response` held. -/
structure StepEnv where
  serverChunks : List Nat
  serverResponse : Nat → UInt8
  masterChunks : List Nat
  responseSize : Int
  masterResponse : Nat → UInt8
  loopChunks : Nat → List Nat
  loopResponse : Nat → Nat → UInt8

/-- A transaction whose reads each take what has arrived, over zeroed
buffers. -/
def StepEnv.quiet : StepEnv := ⟨[], fun _ => 0, [], 0, fun _ => 0, fun _ => [], fun _ _ => 0⟩

/-! ## The server's loop -/

/-- One turn of the server's loop on the bytes waiting for it:
`modbus_listen`, and `manage_query` on the message when it returns 0. What
the turn left unread, after `error_treat` when `modbus_listen` ran it, with
the reply, the map and the counter; `none` when `error_treat` reconnects. -/
def serverTurn (mbParam : TypeCom) (server : ErrorHandling) (chunks : List Nat) (response : Nat → UInt8)
    (bytes : List UInt8) (mapping : ModbusMapping) (tId : UInt16) :
    Option (List UInt8 × List UInt8 × ModbusMapping × UInt16) :=
  let listened := modbusListen mbParam ⟨bytes, .timeOut⟩ chunks
  let query := listened.msg?.getD []
  (afterCall mbParam server (modbusListenTreats mbParam ⟨bytes, .timeOut⟩ chunks)
    (bytes.drop query.length)).map fun unread =>
      (unread, if listened.code = 0 then manageQuery mbParam tId query mapping response
        else ([], mapping, tId))

/-- The loop's later turns on the silent line, at most `fuel` of them, until
no byte waits: what is left, the replies in order, the map and the counter. -/
def serverDrain (mbParam : TypeCom) (server : ErrorHandling) (chunks : Nat → List Nat)
    (response : Nat → Nat → UInt8) :
    Nat → List UInt8 → ModbusMapping → UInt16 → Option (List UInt8 × List UInt8 × ModbusMapping × UInt16)
  | 0, bytes, mapping, tId => some (bytes, [], mapping, tId)
  | _ + 1, [], mapping, tId => some ([], [], mapping, tId)
  | fuel + 1, b :: bytes, mapping, tId =>
    match serverTurn mbParam server (chunks fuel) (response fuel) (b :: bytes) mapping tId with
    | none => none
    | some (unread, reply, mapping, tId) =>
      (serverDrain mbParam server chunks response fuel unread mapping tId).map
        fun (left, replies, mapping, tId) => (left, reply ++ replies, mapping, tId)

/-- What the server does with the bytes waiting for it once a request has
arrived: the turn that reads it, then at most one later turn for each byte
that turn left. What is left, the reply to the request, the replies of the
later turns, the map and the counter. -/
def serverHandles (mbParam : TypeCom) (server : ErrorHandling) (e : StepEnv) (bytes : List UInt8)
    (mapping : ModbusMapping) (tId : UInt16) :
    Option (List UInt8 × List UInt8 × List UInt8 × ModbusMapping × UInt16) :=
  match serverTurn mbParam server e.serverChunks e.serverResponse bytes mapping tId with
  | none => none
  | some (unread, reply, mapping, tId) =>
    (serverDrain mbParam server e.loopChunks e.loopResponse unread.length unread mapping tId).map
      fun (left, replies, mapping, tId) => (left, reply, replies, mapping, tId)

@[simp] theorem serverDrain_nil (mbParam : TypeCom) (server : ErrorHandling) (chunks : Nat → List Nat)
    (response : Nat → Nat → UInt8) (fuel : Nat) (mapping : ModbusMapping) (tId : UInt16) :
    serverDrain mbParam server chunks response fuel [] mapping tId = some ([], [], mapping, tId) := by
  cases fuel <;> rfl

/-- A turn on bytes from which `modbus_listen` reads a message and accepts it. -/
theorem serverTurn_accepted {mbParam : TypeCom} (server : ErrorHandling) {chunks : List Nat}
    (response : Nat → UInt8) {bytes msg : List UInt8} (mapping : ModbusMapping) (tId : UInt16)
    (h : modbusListen mbParam ⟨bytes, .timeOut⟩ chunks = ⟨0, some msg⟩) :
    serverTurn mbParam server chunks response bytes mapping tId =
      some (bytes.drop msg.length, manageQuery mbParam tId msg mapping response) := by
  simp only [serverTurn, h, modbusListenTreats_of_code_zero (by rw [h]), afterCall_false,
    Option.getD_some, if_true, Option.map_some']

/-- An RTU turn whose message `modbus_listen` rejects and treats: the line is
flushed, and nothing is sent. -/
theorem serverTurn_rejected_rtu (server : ErrorHandling) {chunks : List Nat} (response : Nat → UInt8)
    {bytes : List UInt8} (mapping : ModbusMapping) (tId : UInt16)
    (hcode : (modbusListen .rtu ⟨bytes, .timeOut⟩ chunks).code ≠ 0)
    (htreat : modbusListenTreats .rtu ⟨bytes, .timeOut⟩ chunks = true) :
    serverTurn .rtu server chunks response bytes mapping tId = some ([], [], mapping, tId) := by
  simp only [serverTurn, htreat, afterCall_rtu, if_true, if_neg hcode, Option.map_some']

/-- A turn on fewer bytes than a unit and a function code: `modbus_listen`
reads them all and times out, which `error_treat` is not called for, and the
turn drops them. -/
theorem serverTurn_short (mbParam : TypeCom) (server : ErrorHandling) (chunks : List Nat)
    (response : Nat → UInt8) {bytes : List UInt8} (hne : bytes ≠ [])
    (hlt : bytes.length < mbParam.headerLength + 2) (mapping : ModbusMapping) (tId : UInt16) :
    serverTurn mbParam server chunks response bytes mapping tId = some ([], [], mapping, tId) := by
  simp only [serverTurn, modbusListen, modbusListenTreats, silenceCode,
    receiveMsg_none_short mbParam ⟨bytes, .timeOut⟩ chunks hne hlt, if_neg (show commTimeOut ≠ 0 by decide),
    Option.getD_some, List.drop_length]
  rfl

/-- A turn that leaves nothing waiting is all the server does. -/
theorem serverHandles_of_turn {mbParam : TypeCom} {server : ErrorHandling} {e : StepEnv}
    {bytes reply : List UInt8} {mapping mapping' : ModbusMapping} {tId tId' : UInt16}
    (h : serverTurn mbParam server e.serverChunks e.serverResponse bytes mapping tId =
      some ([], reply, mapping', tId')) :
    serverHandles mbParam server e bytes mapping tId = some ([], reply, [], mapping', tId') := by
  simp only [serverHandles, h, List.length_nil, serverDrain_nil, Option.map_some']

/-- The server reads the bytes waiting for it whole, as one message it
accepts. -/
theorem serverHandles_whole {mbParam : TypeCom} (server : ErrorHandling) (e : StepEnv) {bytes : List UInt8}
    (mapping : ModbusMapping) (tId : UInt16)
    (h : modbusListen mbParam ⟨bytes, .timeOut⟩ e.serverChunks = ⟨0, some bytes⟩) :
    let served := manageQuery mbParam tId bytes mapping e.serverResponse
    serverHandles mbParam server e bytes mapping tId = some ([], served.1, [], served.2.1, served.2.2) :=
  serverHandles_of_turn (by rw [serverTurn_accepted server _ mapping tId h, List.drop_length])

/-! ## Transactions -/

/-- One transaction. The master transmits the request; the server handles
what waits for it (`serverHandles`); the master operation reads the reply to
the request from the bytes waiting for it, and the replies of the server's
later turns wait behind what it left. `none` when `error_treat` reconnects. -/
def Session.step (mbParam : TypeCom) (master server : ErrorHandling) (e : StepEnv) (op : Request)
    (s : Session) : Option (Session × Answer) :=
  let sent := op.sent mbParam s.masterTId
  match serverHandles mbParam server e (s.toServer ++ sent) s.mapping s.serverTId with
  | none => none
  | some (toServer, reply, replies, mapping, serverTId) =>
    let toMaster := s.toMaster ++ reply
    let env : MasterEnv := ⟨⟨toMaster, .timeOut⟩, e.masterChunks, e.responseSize, e.masterResponse⟩
    let call := op.call mbParam s.masterTId env
    let received := receiveMsg mbParam (some (computeResponseSize mbParam sent)) env.peer env.chunks
    (afterCall mbParam master (modbusCheckResponseTreats mbParam sent env)
      (toMaster.drop (received.msg?.getD []).length)).map fun toMaster =>
        (⟨call.2.2, serverTId, mapping, toServer, toMaster ++ replies⟩, call.2.1)

/-- Whether the master's `modbus_check_response` in the transaction reaches
`free(s_error)`, on what `Session.step` gives it to read. The master does not
come back from there; `Session.step` goes on with the model's value
`INVALID_EXCEPTION_CODE`. -/
def Session.stepAborts (mbParam : TypeCom) (server : ErrorHandling) (e : StepEnv) (op : Request)
    (s : Session) : Bool :=
  let sent := op.sent mbParam s.masterTId
  match serverHandles mbParam server e (s.toServer ++ sent) s.mapping s.serverTId with
  | none => false
  | some (_, reply, _) =>
    modbusCheckResponseAborts mbParam sent
      ⟨⟨s.toMaster ++ reply, .timeOut⟩, e.masterChunks, e.responseSize, e.masterResponse⟩

/-- A run of transactions, each with its own environment; the answers in order. -/
def Session.run (mbParam : TypeCom) (master server : ErrorHandling) :
    List (Request × StepEnv) → Session → Option (Session × List Answer)
  | [], s => some (s, [])
  | (op, e) :: steps, s =>
    match s.step mbParam master server e op with
    | none => none
    | some (s', a) =>
      match Session.run mbParam master server steps s' with
      | none => none
      | some (s'', as) => some (s'', a :: as)

/-- No byte is waiting on either side. -/
def Session.Synced (s : Session) : Prop := s.toServer = [] ∧ s.toMaster = []

instance (s : Session) : Decidable s.Synced := inferInstanceAs (Decidable (_ ∧ _))

/-- **What a transaction does**, once the server has handled the bytes
waiting for it: the master's call reads behind what was waiting for it, and
`error_treat` acts on what it leaves; the server's later replies wait behind. -/
theorem Session.step_eq (mbParam : TypeCom) (master server : ErrorHandling) (e : StepEnv) (op : Request)
    {s : Session} {toServer reply replies : List UInt8} {mapping : ModbusMapping} {serverTId : UInt16}
    (h : serverHandles mbParam server e (s.toServer ++ op.sent mbParam s.masterTId) s.mapping s.serverTId =
      some (toServer, reply, replies, mapping, serverTId)) :
    let env : MasterEnv := ⟨⟨s.toMaster ++ reply, .timeOut⟩, e.masterChunks, e.responseSize, e.masterResponse⟩
    s.step mbParam master server e op =
      (afterCall mbParam master (modbusCheckResponseTreats mbParam (op.sent mbParam s.masterTId) env)
        ((s.toMaster ++ reply).drop ((receiveMsg mbParam (some (computeResponseSize mbParam
          (op.sent mbParam s.masterTId))) env.peer env.chunks).msg?.getD []).length)).map fun toMaster =>
        (⟨mbParam.nextTId s.masterTId, serverTId, mapping, toServer, toMaster ++ replies⟩,
          (op.call mbParam s.masterTId env).2.1) := by
  simp only [Session.step, h, Request.call_tId]

/-- What a transaction leaves on the server's side is what the server's
handling of the bytes waiting for it left. -/
theorem Session.step_server {mbParam : TypeCom} {master server : ErrorHandling} {e : StepEnv}
    {op : Request} {s s' : Session} {a : Answer} (h : s.step mbParam master server e op = some (s', a)) :
    ∃ reply replies, serverHandles mbParam server e (s.toServer ++ op.sent mbParam s.masterTId) s.mapping
      s.serverTId = some (s'.toServer, reply, replies, s'.mapping, s'.serverTId) := by
  match hs : serverHandles mbParam server e (s.toServer ++ op.sent mbParam s.masterTId) s.mapping
      s.serverTId with
  | none => simp only [Session.step, hs, reduceCtorEq] at h
  | some (toServer, reply, replies, mapping, serverTId) =>
    rw [Session.step_eq mbParam master server e op hs] at h
    obtain ⟨_, -, h⟩ := Option.map_eq_some'.mp h
    obtain ⟨rfl, -⟩ := Prod.mk.inj h
    exact ⟨reply, replies, rfl⟩

/-! ## The map -/

/-- The coil and input status tables hold `ON` or `OFF` in every entry
they declare: `response_io_status` ORs an entry into its byte unmasked. -/
structure ModbusMapping.WellFormed (m : ModbusMapping) : Prop where
  coilStatus : ∀ i < m.nbCoilStatus, m.tabCoilStatus i = ON ∨ m.tabCoilStatus i = OFF
  inputStatus : ∀ i < m.nbInputStatus, m.tabInputStatus i = ON ∨ m.tabInputStatus i = OFF

instance (m : ModbusMapping) : Decidable m.WellFormed :=
  decidable_of_iff (_ ∧ _) ⟨fun ⟨h1, h2⟩ => ⟨h1, h2⟩, fun ⟨h1, h2⟩ => ⟨h1, h2⟩⟩

/-- `modbus_mapping_new(mb_mapping, nb_coil_status, nb_input_status,
nb_holding_registers, nb_input_registers)` when every `malloc` succeeds:
each table holds its declared number of zeroed entries, and past its end lies
what `heap` holds there. -/
def modbusMappingNew (nbCoilStatus nbInputStatus nbHoldingRegisters nbInputRegisters : Nat)
    (heap : ModbusMapping) : ModbusMapping where
  nbCoilStatus := nbCoilStatus
  tabCoilStatus i := if i < nbCoilStatus then 0 else heap.tabCoilStatus i
  nbInputStatus := nbInputStatus
  tabInputStatus i := if i < nbInputStatus then 0 else heap.tabInputStatus i
  nbHoldingRegisters := nbHoldingRegisters
  tabHoldingRegisters i := if i < nbHoldingRegisters then 0 else heap.tabHoldingRegisters i
  nbInputRegisters := nbInputRegisters
  tabInputRegisters i := if i < nbInputRegisters then 0 else heap.tabInputRegisters i

/-- A session on a new map of eight coils, eight inputs and four registers of
each kind over a zeroed heap, with both counters at 0 and nothing waiting. -/
def Session.fresh : Session :=
  ⟨0, 0, modbusMappingNew 8 8 4 4 ⟨0, fun _ => 0, 0, fun _ => 0, 0, fun _ => 0, 0, fun _ => 0⟩, [], []⟩

/-- `m'` is `m` after writes of `ON` or `OFF` to declared coils: the declared
lengths, the input status table, both register tables and the memory past
the coil table are as they were. -/
structure ModbusMapping.CoilWrites (m m' : ModbusMapping) : Prop where
  nbCoilStatus : m'.nbCoilStatus = m.nbCoilStatus
  nbInputStatus : m'.nbInputStatus = m.nbInputStatus
  nbHoldingRegisters : m'.nbHoldingRegisters = m.nbHoldingRegisters
  nbInputRegisters : m'.nbInputRegisters = m.nbInputRegisters
  tabInputStatus : m'.tabInputStatus = m.tabInputStatus
  tabHoldingRegisters : m'.tabHoldingRegisters = m.tabHoldingRegisters
  tabInputRegisters : m'.tabInputRegisters = m.tabInputRegisters
  tabCoilStatus : ∀ i, m'.tabCoilStatus i = m.tabCoilStatus i ∨ m'.tabCoilStatus i = ON ∨
    m'.tabCoilStatus i = OFF
  undeclared : ∀ i, m.nbCoilStatus ≤ i → m'.tabCoilStatus i = m.tabCoilStatus i

theorem ModbusMapping.CoilWrites.refl (m : ModbusMapping) : m.CoilWrites m :=
  ⟨rfl, rfl, rfl, rfl, rfl, rfl, rfl, fun _ => .inl rfl, fun _ _ => rfl⟩

theorem ModbusMapping.CoilWrites.trans {m m' m'' : ModbusMapping} (h : m.CoilWrites m')
    (h' : m'.CoilWrites m'') : m.CoilWrites m'' where
  nbCoilStatus := h'.nbCoilStatus.trans h.nbCoilStatus
  nbInputStatus := h'.nbInputStatus.trans h.nbInputStatus
  nbHoldingRegisters := h'.nbHoldingRegisters.trans h.nbHoldingRegisters
  nbInputRegisters := h'.nbInputRegisters.trans h.nbInputRegisters
  tabInputStatus := h'.tabInputStatus.trans h.tabInputStatus
  tabHoldingRegisters := h'.tabHoldingRegisters.trans h.tabHoldingRegisters
  tabInputRegisters := h'.tabInputRegisters.trans h.tabInputRegisters
  tabCoilStatus i := by
    rcases h'.tabCoilStatus i with h1 | h1
    · rw [h1]; exact h.tabCoilStatus i
    · exact .inr h1
  undeclared i hi := (h'.undeclared i (h.nbCoilStatus ▸ hi)).trans (h.undeclared i hi)

theorem ModbusMapping.CoilWrites.setCoil (m : ModbusMapping) {address : Nat} (ha : address < m.nbCoilStatus)
    {value : UInt8} (hv : value = ON ∨ value = OFF) : m.CoilWrites (m.setCoil address value) :=
  ⟨rfl, rfl, rfl, rfl, rfl, rfl, rfl, fun i => by
    simp only [ModbusMapping.setCoil]
    split
    · exact .inr hv
    · exact .inl rfl,
    fun i hi => if_neg (by omega)⟩

/-- Writing coils keeps a map well formed. -/
theorem ModbusMapping.WellFormed.of_coilWrites {m m' : ModbusMapping} (hwf : m.WellFormed)
    (h : m.CoilWrites m') : m'.WellFormed where
  coilStatus i hi := by
    rcases h.tabCoilStatus i with h1 | h1
    · rw [h1]; exact hwf.coilStatus i (h.nbCoilStatus ▸ hi)
    · exact h1
  inputStatus i hi := by
    rw [h.tabInputStatus]; exact hwf.inputStatus i (h.nbInputStatus ▸ hi)

/-! ## What a session is for

The machine over the map alone that a session is meant to implement: a read
returns its table's entries from the start address on, a coil write sets the
coil, and nothing else changes the map. -/

/-- The entries `tab[start_addr + i]` for `i < count`, each with its index in
`data_dest`. -/
def tableRead {α : Type} (tab : Nat → α) (startAddr count : Int) : List (Nat × α) :=
  (List.range count.toNat).map fun i => (i, tab (startAddr.toNat + i))

/-- The answer a request is meant to get from the map. -/
def Request.answer (m : ModbusMapping) : Request → Answer
  | .readCoilStatus _ a c => .bits c (tableRead m.tabCoilStatus a c)
  | .readInputStatus _ a c => .bits c (tableRead m.tabInputStatus a c)
  | .readHoldingRegisters _ a c => .registers c (tableRead m.tabHoldingRegisters a c)
  | .readInputRegisters _ a c => .registers c (tableRead m.tabInputRegisters a c)
  | _ => .written 1

/-- The map after a request. -/
def Request.apply (m : ModbusMapping) : Request → ModbusMapping
  | .forceSingleCoil _ a state => m.setCoil a.toNat (if state ≠ 0 then ON else OFF)
  | _ => m

/-- The reads, which `manage_query` answers with a packet from
`build_response_packet` and so a step of its counter. -/
def Request.isRead : Request → Bool
  | .readCoilStatus .. | .readInputStatus .. | .readHoldingRegisters .. | .readInputRegisters .. => true
  | _ => false

/-- The run over the map alone: the map after the requests, and their answers. -/
def runMap (m : ModbusMapping) : List Request → ModbusMapping × List Answer
  | [] => (m, [])
  | op :: ops => ((runMap (op.apply m) ops).1, op.answer m :: (runMap (op.apply m) ops).2)
/-- The requests a session serves as the map alone does, within the declared
tables: a read of at most 2000 bits from a start address below 256
(`response_io_status` takes the address as a `uint8_t`), a read of at most
125 registers from a 16-bit address, and, in TCP only, a write of a declared
coil: `manage_query` echoes the request with its CRC, and in RTU
`modbus_send` appends a second one. -/
def Request.Valid (mbParam : TypeCom) (m : ModbusMapping) : Request → Prop
  | .readCoilStatus _ a c => 0 ≤ a ∧ a < 256 ∧ 0 ≤ c ∧ c ≤ 2000 ∧ a + c ≤ m.nbCoilStatus
  | .readInputStatus _ a c => 0 ≤ a ∧ a < 256 ∧ 0 ≤ c ∧ c ≤ 2000 ∧ a + c ≤ m.nbInputStatus
  | .readHoldingRegisters _ a c => 0 ≤ a ∧ a < 65536 ∧ 0 ≤ c ∧ c ≤ 125 ∧ a + c ≤ m.nbHoldingRegisters
  | .readInputRegisters _ a c => 0 ≤ a ∧ a < 65536 ∧ 0 ≤ c ∧ c ≤ 125 ∧ a + c ≤ m.nbInputRegisters
  | .forceSingleCoil _ a _ => mbParam = .tcp ∧ 0 ≤ a ∧ a < 65536 ∧ a < m.nbCoilStatus
  | _ => False

instance (mbParam : TypeCom) (m : ModbusMapping) (op : Request) : Decidable (op.Valid mbParam m) := by
  cases op <;> unfold Request.Valid <;> infer_instance

/-- A valid request writes at most a declared coil, with `ON` or `OFF`. -/
theorem Request.coilWrites_apply {mbParam : TypeCom} {m : ModbusMapping} {op : Request}
    (hop : op.Valid mbParam m) : m.CoilWrites (op.apply m) := by
  cases op
  case forceSingleCoil _ a state =>
    exact .setCoil m (by have := hop.2.1; have := hop.2.2.2; omega) (by split <;> simp only [true_or, or_true])
  all_goals exact .refl m

/-- Validity reads only the declared lengths, which coil writes keep. -/
theorem Request.valid_of_coilWrites (mbParam : TypeCom) {m m' : ModbusMapping} (h : m.CoilWrites m')
    (op : Request) : op.Valid mbParam m' ↔ op.Valid mbParam m := by
  cases op <;> simp only [Request.Valid, h.nbCoilStatus, h.nbInputStatus, h.nbHoldingRegisters,
    h.nbInputRegisters]

/-! ## One transaction -/

/-- **A transaction on a quiet line.** When nothing is waiting on either side
and the server reads the request whole and accepts it, and its reply starts
with a frame of the predicted length that passes `check_crc16`: the
transaction is the server's `manage_query` on the request and the master's
call on that reply, and what is left waiting is the rest of the reply. -/
theorem Session.step_of_served (mbParam : TypeCom) (master server : ErrorHandling) (e : StepEnv)
    (op : Request) {s : Session} (hs : s.Synced) {request frame rest : List UInt8}
    (hlisten : modbusListen mbParam ⟨request, .timeOut⟩ e.serverChunks = ⟨0, some request⟩)
    (hsent : op.sent mbParam s.masterTId = request)
    (hreply : (manageQuery mbParam s.serverTId request s.mapping e.serverResponse).1 = frame ++ rest)
    (hlen : frame.length = computeResponseSize mbParam request)
    (hfit : frame.length ≤ maxPacketSize) (hcrc : checkCrc16 mbParam frame = 0) :
    let served := manageQuery mbParam s.serverTId request s.mapping e.serverResponse
    let call := op.call mbParam s.masterTId
      ⟨⟨frame ++ rest, .timeOut⟩, e.masterChunks, e.responseSize, e.masterResponse⟩
    s.step mbParam master server e op =
      some (⟨mbParam.nextTId s.masterTId, served.2.2, served.2.1, [], rest⟩, call.2.1) := by
  intro served call
  obtain ⟨h1, h2⟩ := hs
  have hh : serverHandles mbParam server e (s.toServer ++ op.sent mbParam s.masterTId) s.mapping s.serverTId =
      some ([], frame ++ rest, [], served.2.1, served.2.2) := by
    rw [h1, List.nil_append, hsent, ← hreply]
    exact serverHandles_whole server e s.mapping s.serverTId hlisten
  have hle : computeResponseSize mbParam request ≤ (frame ++ rest).length := by
    rw [List.length_append]; omega
  have htake : (frame ++ rest).take (computeResponseSize mbParam request) = frame := by
    rw [← hlen, List.take_left]
  have hrecv := receiveMsg_some_complete mbParam (computeResponseSize_pos mbParam _)
    ⟨frame ++ rest, .timeOut⟩ e.masterChunks hle (hlen ▸ hfit)
  have hct := modbusCheckResponseTreats_complete mbParam request
    ⟨⟨frame ++ rest, .timeOut⟩, e.masterChunks, e.responseSize, e.masterResponse⟩ hle (hlen ▸ hfit)
    (by rw [htake]; exact hcrc)
  rw [Session.step_eq mbParam master server e op hh]
  simp only [h2, hsent, List.nil_append, hct, hrecv, htake, afterCall_false, Option.getD_some,
    List.drop_left, Option.map_some', List.append_nil]

/-- The server reads a request of function code 1 to 5 whole off a line that
carries nothing else. -/
theorem modbusListen_request (mbParam : TypeCom) (tId : UInt16) (slave function : UInt8)
    (startAddr count : UInt16) (hfn : function.toNat ≤ fcForceSingleCoil) (chunks : List Nat) :
    let request := modbusSend mbParam (buildQueryPacket mbParam tId slave function startAddr count).1
    modbusListen mbParam ⟨request, .timeOut⟩ chunks = ⟨0, some request⟩ := by
  have hlen := length_buildQueryPacket mbParam tId slave function startAddr count
  have := headerLength_add_checksumSize_le mbParam
  have h := modbusListen_modbusSend mbParam _ [] .timeOut chunks
    (recvTarget_buildQueryPacket mbParam tId slave function startAddr count hfn [])
    (by rw [length_modbusSend, hlen, presetQuerySizeRtu]; omega)
    (by rw [length_modbusSend, hlen, presetQuerySizeRtu, maxPacketSize]; omega)
  rwa [List.append_nil] at h

/-- The session after a transaction served as the map alone would serve it. -/
def Session.served (mbParam : TypeCom) (op : Request) (s : Session) : Session :=
  ⟨mbParam.nextTId s.masterTId, if op.isRead then mbParam.nextTId s.serverTId else s.serverTId,
    op.apply s.mapping, [], []⟩

/-- **A coil write on a quiet line.** The server sets the coil and echoes
the request, and the master returns 1; what is left waiting for the master is
the echo's tail, `checksum_size` zero bytes: none in TCP, and in RTU the
two bytes of the CRC `modbus_send` appends to the request's own. -/
theorem Session.step_forceSingleCoil (mbParam : TypeCom) (master server : ErrorHandling) (e : StepEnv)
    {s : Session} (hs : s.Synced) (slave a state : Int) (ha : 0 ≤ a) (ha' : a < 65536) :
    s.step mbParam master server e (.forceSingleCoil slave a state) =
      some (⟨mbParam.nextTId s.masterTId, s.serverTId,
        s.mapping.setCoil a.toNat (if state ≠ 0 then ON else OFF), [],
        List.replicate mbParam.checksumSize 0⟩, .written 1) := by
  have h16 : (toU16 a).toNat = a.toNat := by rw [toU16_toNat]; omega
  obtain ⟨hserved, hsize, hfit, hcrc, hcall⟩ := forceSingleCoil_served mbParam s.masterTId s.serverTId
    slave a state s.mapping e.serverResponse
  have hl := modbusListen_request mbParam s.masterTId (toU8 slave) (toU8 fcForceSingleCoil) (toU16 a)
    (toU16 (if state ≠ 0 then 0xFF00 else state)) (by decide) e.serverChunks
  rw [Session.step_of_served mbParam master server e (.forceSingleCoil slave a state) hs hl rfl
    (congrArg Prod.fst hserved) hsize.symm hfit hcrc, hserved]
  simp only [Request.call, hcall, h16]

/-- A bit read from a quiet line, within the limits of `readStatus_served` and
a start address below 256, of entries that are each `ON` or `OFF`: the
map is read, and both counters step. -/
theorem Session.step_readStatus (mbParam : TypeCom) (master server : ErrorHandling) (e : StepEnv)
    {s : Session} (hs : s.Synced) (function : Nat)
    (hfn : function = fcReadCoilStatus ∨ function = fcReadInputStatus) (op : Request) (slave a c : Int)
    (hcall : ∀ env, op.call mbParam s.masterTId env =
      let k := readStatus function mbParam s.masterTId slave a c env
      (k.sent, .bits k.ret k.dest, k.tId))
    (ha : 0 ≤ a) (ha' : a < 256) (hc : 0 ≤ c) (hc' : c ≤ 2000)
    (htab : ∀ i, i < c.toNat →
      let tab := if function = fcReadCoilStatus then s.mapping.tabCoilStatus else s.mapping.tabInputStatus
      tab (a.toNat + i) = ON ∨ tab (a.toNat + i) = OFF) :
    let tab := if function = fcReadCoilStatus then s.mapping.tabCoilStatus else s.mapping.tabInputStatus
    s.step mbParam master server e op = some (⟨mbParam.nextTId s.masterTId, mbParam.nextTId s.serverTId,
      s.mapping, [], []⟩, .bits c (tableRead tab a c)) := by
  intro tab
  have h256 : (toU16 a).toNat % 256 = a.toNat := by rw [toU16_toNat]; omega
  obtain ⟨hserved, hsize, hfit, hcrc, hk⟩ := readStatus_served mbParam function hfn s.masterTId s.serverTId
    slave a c hc hc' s.mapping e.serverResponse
  have hl := modbusListen_request mbParam s.masterTId (toU8 slave) (toU8 function) (toU16 a) (toU16 c)
    (by rcases hfn with rfl | rfl <;> decide) e.serverChunks
  rw [Session.step_of_served mbParam master server e op hs hl (by rw [Request.sent, hcall]; rfl)
    (List.append_nil _).symm hsize hfit hcrc, hcall, List.append_nil,
    hk (fun i hi => by simp only [h256]; exact htab i hi), hserved]
  simp only [tableRead, h256]

/-- A register read from a quiet line of at most 125 registers from a 16-bit
address: the map is read, and both counters step. -/
theorem Session.step_readRegisters (mbParam : TypeCom) (master server : ErrorHandling) (e : StepEnv)
    {s : Session} (hs : s.Synced) (function : Nat)
    (hfn : function = fcReadHoldingRegisters ∨ function = fcReadInputRegisters) (op : Request)
    (slave a c : Int)
    (hcall : ∀ env, op.call mbParam s.masterTId env =
      let k := readRegisters mbParam s.masterTId slave function a c env
      (k.sent, .registers k.ret k.dest, k.tId))
    (ha : 0 ≤ a) (ha' : a < 65536) (hc : 0 ≤ c) (hc' : c ≤ 125) :
    let tab := if function = fcReadHoldingRegisters then s.mapping.tabHoldingRegisters
      else s.mapping.tabInputRegisters
    s.step mbParam master server e op = some (⟨mbParam.nextTId s.masterTId, mbParam.nextTId s.serverTId,
      s.mapping, [], []⟩, .registers c (tableRead tab a c)) := by
  intro tab
  have h16 : (toU16 a).toNat = a.toNat := by rw [toU16_toNat]; omega
  obtain ⟨hserved, hsize, hfit, hcrc, hk⟩ := readRegisters_served mbParam function hfn s.masterTId
    s.serverTId slave a c hc hc' s.mapping e.serverResponse
  have hl := modbusListen_request mbParam s.masterTId (toU8 slave) (toU8 function) (toU16 a) (toU16 c)
    (by rcases hfn with rfl | rfl <;> decide) e.serverChunks
  rw [Session.step_of_served mbParam master server e op hs hl (by rw [Request.sent, hcall]; rfl)
    (List.append_nil _).symm hsize hfit hcrc, hcall, List.append_nil, hk, hserved]
  simp only [tableRead, h16]

/-- **A valid transaction on a quiet line.** From a state with nothing
waiting and a well-formed map, each valid request is answered as the map
alone answers it, and the session moves to `Session.served`, quiet again. -/
theorem Session.step_valid (mbParam : TypeCom) (master server : ErrorHandling) (e : StepEnv)
    {s : Session} (hs : s.Synced) (hwf : s.mapping.WellFormed) {op : Request}
    (hop : op.Valid mbParam s.mapping) :
    s.step mbParam master server e op = some (s.served mbParam op, op.answer s.mapping) := by
  cases op with
  | readCoilStatus slave a c =>
    obtain ⟨ha, ha', hc, hc', hnb⟩ := hop
    exact Session.step_readStatus mbParam master server e hs _ (.inl rfl) _ slave a c (fun _ => rfl)
      ha ha' hc hc' (fun i _ => hwf.coilStatus _ (by omega))
  | readInputStatus slave a c =>
    obtain ⟨ha, ha', hc, hc', hnb⟩ := hop
    exact Session.step_readStatus mbParam master server e hs _ (.inr rfl) _ slave a c (fun _ => rfl)
      ha ha' hc hc' (fun i _ => hwf.inputStatus _ (by omega))
  | readHoldingRegisters slave a c =>
    obtain ⟨ha, ha', hc, hc', -⟩ := hop
    have hcap : (if c > maxReadHoldRegs then maxReadHoldRegs else c) = c := if_neg (by
      rw [maxReadHoldRegs]; omega)
    exact Session.step_readRegisters mbParam master server e hs _ (.inl rfl) _ slave a c
      (fun _ => by simp only [Request.call, Modbus.readHoldingRegisters, readRegistersCapped, hcap])
      ha ha' hc hc'
  | readInputRegisters slave a c =>
    obtain ⟨ha, ha', hc, hc', -⟩ := hop
    have hcap : (if c > maxReadInputRegs then maxReadInputRegs else c) = c := if_neg (by
      rw [maxReadInputRegs]; omega)
    exact Session.step_readRegisters mbParam master server e hs _ (.inr rfl) _ slave a c
      (fun _ => by simp only [Request.call, Modbus.readInputRegisters, readRegistersCapped, hcap])
      ha ha' hc hc'
  | forceSingleCoil slave a state =>
    obtain ⟨rfl, ha, ha', -⟩ := hop
    exact Session.step_forceSingleCoil .tcp master server e hs slave a state ha ha'
  | _ => exact hop.elim

/-! ## Runs -/

/-- **The session refines the map.** From a state where nothing is waiting
and the map is well formed, every run of valid requests, under every chunking
of either end's reads, every uninitialised buffer and either error handling,
returns the answers the map alone gives and ends in the map it ends in, with
nothing waiting; the master's counter has stepped once for each request, and
the server's once for each read. -/
theorem Session.run_valid (mbParam : TypeCom) (master server : ErrorHandling) :
    ∀ (steps : List (Request × StepEnv)) (s : Session), s.Synced → s.mapping.WellFormed →
      (∀ p ∈ steps, p.1.Valid mbParam s.mapping) →
      Session.run mbParam master server steps s =
        some (⟨mbParam.nextTId^[steps.length] s.masterTId,
          mbParam.nextTId^[(steps.map Prod.fst).countP Request.isRead] s.serverTId,
          (runMap s.mapping (steps.map Prod.fst)).1, [], []⟩, (runMap s.mapping (steps.map Prod.fst)).2)
  | [], ⟨_, _, _, _, _⟩, ⟨h1, h2⟩, _, _ => by
    dsimp only at h1 h2
    rw [h1, h2]; rfl
  | (op, e) :: steps, s, hs, hwf, hv => by
    have hop := hv (op, e) (List.mem_cons_self _ _)
    have hcw := Request.coilWrites_apply hop
    have ih := Session.run_valid mbParam master server steps (s.served mbParam op) ⟨rfl, rfl⟩
      (hwf.of_coilWrites hcw)
      (fun p hp => (Request.valid_of_coilWrites mbParam hcw p.1).mpr (hv p (List.mem_cons_of_mem _ hp)))
    simp only [Session.run, Session.step_valid mbParam master server e hs hwf hop, ih, runMap,
      List.map_cons, List.length_cons, List.countP_cons, Function.iterate_succ_apply]
    cases hr : op.isRead <;> simp only [Session.served, hr] <;> rfl

/-- A coil write, then a read of eight coils, of a new map on a TCP line. -/
theorem Session.run_valid_write_then_read :
    let steps := [(Request.forceSingleCoil 1 3 1, StepEnv.quiet), (Request.readCoilStatus 1 0 8, StepEnv.quiet)]
    (Session.fresh.Synced ∧ Session.fresh.mapping.WellFormed ∧
      ∀ p ∈ steps, p.1.Valid .tcp Session.fresh.mapping) ∧
      Session.run .tcp .reconnectOnError .reconnectOnError steps Session.fresh =
        some (⟨TypeCom.tcp.nextTId^[steps.length] 0,
          TypeCom.tcp.nextTId^[(steps.map Prod.fst).countP Request.isRead] 0,
          (runMap Session.fresh.mapping (steps.map Prod.fst)).1, [], []⟩,
          (runMap Session.fresh.mapping (steps.map Prod.fst)).2) :=
  ⟨⟨⟨rfl, rfl⟩, by decide, by decide⟩,
    Session.run_valid .tcp .reconnectOnError .reconnectOnError _ _ ⟨rfl, rfl⟩ (by decide) (by decide)⟩

end Modbus
