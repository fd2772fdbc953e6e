import Modbus.Frame

/-!
# Modbus — the receive engine

`receive_msg` reads one frame. With a known size (a master awaiting a
response) it reads exactly that many bytes. With `MSG_SIZE_UNDEFINED` (a
server awaiting a request) it discovers the length in three states: in
`FUNCTION` it reads up to the function code, and `compute_query_size_header`
says how many header bytes follow; in `BYTE` `compute_query_size_data` says
how many data and trailer bytes follow; in `COMPLETE` it stops. Every read
asks for `size_to_read` bytes and may get fewer; between reads `WAIT_DATA()`
waits for the descriptor.

The peer is modelled by the bytes that arrive in time and by what the stream
does after them (`Silence`); how the OS splits those bytes into `read`
results is a list of chunk sizes, each clamped to between 1 and
`size_to_read` and to the bytes waiting. Timing enters only through where
the peer falls silent: a wait with bytes pending succeeds, a wait with none
times out.

`recvTarget` reads off the stream the length at which the engine stops, and
`receiveSpec` says what it returns from that length alone.

## Results

* `receiveLoop_spec` — from every reachable loop state, under every chunking,
  the loop returns what `receiveSpec` says, the bytes stored included unless
  the code is `TOO_MANY_DATAS` (an induction over the reads with the loop
  invariant `RecvInv`).
* `receiveMsg_spec` — the same for the whole call.
* `receiveMsg_chunking_invariant` — two runs that differ only in how the
  bytes are split into reads return the same code, and unless it is
  `TOO_MANY_DATAS`, the same `*msg_size` and the same bytes.
* `receiveMsg_tooManyDatas_stored` — `TOO_MANY_DATAS` is returned only after a
  read stored a byte at `msg[MAX_PACKET_SIZE]` or beyond.
* `receiveMsg_some_complete` — with a known size `n` within `MAX_PACKET_SIZE`,
  a stream that holds at least `n` bytes gives its first `n`, under every
  chunking.
* `recvTarget_buildQueryPacket`, `recvTarget_multiWrite`, `receiveMsg_none_target`
  — in `MSG_SIZE_UNDEFINED` mode a request of function code 1 to 5, or a
  write of several coils or registers whose byte count fits, is read whole,
  under every chunking and whatever follows it.
-/

namespace Modbus

/-! ## The peer -/

/-- What the stream does once the bytes that arrive in time are used up. -/
inductive Silence
  /-- `select` returns 0. -/
  | timeOut
  /-- `select` reports the descriptor ready and `read` returns 0. -/
  | closed
  /-- `select` reports the descriptor ready and `read` returns -1. -/
  | readError
  /-- `select` returns -1 with an `errno` other than `EINTR`. -/
  | selectError
  deriving DecidableEq, Repr

/-- The peer's side of one call: the bytes that arrive in time, then silence. -/
structure Peer where
  bytes : List UInt8
  silence : Silence
  deriving DecidableEq, Repr

/-- The code `receive_msg` returns when the stream falls silent mid-frame. -/
def silenceCode : Silence → Int
  | .timeOut => commTimeOut
  | .closed => connectionClosed
  | .readError => portSocketFailure
  | .selectError => selectFailure

/-- `WAIT_DATA()`: `none` when `select` reports the descriptor ready, otherwise
the code it returns. Its `EINTR` branch re-arms and waits again, which changes
nothing observable here. -/
def waitData (rest : List UInt8) (silence : Silence) : Option Int :=
  match rest, silence with
  | [], .timeOut => some commTimeOut
  | [], .selectError => some selectFailure
  | _, _ => none

/-! ## The engine -/

/-- `enum { FUNCTION, BYTE, COMPLETE }`. -/
inductive RecvState
  | function
  | byte
  | complete
  deriving DecidableEq, Repr

/-- `compute_query_size_header(function)`: the header bytes after the function
code of a request. -/
def computeQuerySizeHeader (function : UInt8) : Nat :=
  if function.toNat ≤ fcForceSingleCoil then 4
  else if function.toNat = fcForceMultipleCoils ∨ function.toNat = fcPresetMultipleRegisters then 5
  else 0

/-- `compute_query_size_data(mb_param, msg)`: the data bytes announced by a
multi-write's byte count, plus the trailer, summed in a `uint8_t`. -/
def computeQuerySizeData (mbParam : TypeCom) (msg : List UInt8) : Nat :=
  let function := byteAt msg (mbParam.headerLength + 1)
  let byte :=
    if function = fcForceMultipleCoils ∨ function = fcPresetMultipleRegisters then
      byteAt msg (mbParam.headerLength + 6)
    else 0
  (byte + mbParam.checksumSize) % 256

/-- The locals of `receive_msg` at the top of its loop, and the bytes the peer
has sent that are not read yet. -/
structure RecvLoop where
  /-- `msg[0 .. *msg_size)`. -/
  msg : List UInt8
  msgSizeComputed : Nat
  sizeToRead : Nat
  state : RecvState
  rest : List UInt8

/-- What `receive_msg` leaves: its return code, and the bytes stored from
`msg[0]` on, whose count is `*msg_size` (`none` when the first wait fails
before `*msg_size` is assigned). -/
structure Received where
  code : Int
  msg? : Option (List UInt8)
  deriving DecidableEq, Repr

/-- How many bytes `read(fd, p_msg, size_to_read)` returns: the chunk, clamped
to between 1 and `size_to_read` and to the bytes waiting. -/
def readCount (sizeToRead : Nat) (rest : List UInt8) (chunk : Nat) : Nat :=
  min (max chunk 1) (min sizeToRead rest.length)

/-- What `receive_msg` returns when `read` gives no byte: -1 on a failed
stream, else 0, `Connection closed`. -/
def readFailureCode (rest : List UInt8) (silence : Silence) : Int :=
  match rest, silence with
  | [], .readError => portSocketFailure
  | _, _ => connectionClosed

/-- The step after a read: `size_to_read = msg_size_computed - *msg_size` while
the message is incomplete, else the `switch (state)`. Returns the new
`msg_size_computed`, `size_to_read` and `state`. -/
def recvAdvance (mbParam : TypeCom) (msg : List UInt8) (msgSizeComputed : Nat)
    (state : RecvState) : Nat × Nat × RecvState :=
  if msg.length < msgSizeComputed then (msgSizeComputed, msgSizeComputed - msg.length, state)
  else
    match state with
    | .function =>
      let sizeToRead := computeQuerySizeHeader (msg.getD (mbParam.headerLength + 1) 0)
      (msgSizeComputed + sizeToRead, sizeToRead, .byte)
    | .byte =>
      let sizeToRead := computeQuerySizeData mbParam msg
      (msgSizeComputed + sizeToRead, sizeToRead, .complete)
    | .complete => (msgSizeComputed, 0, .complete)

/-- The `while (select_ret)` loop of `receive_msg`, entered after a wait that
succeeded. Each pass reads at least one byte or returns, so `fuel` beyond
the bytes left is never exhausted (`receiveLoop_spec`). -/
def receiveLoop (mbParam : TypeCom) (silence : Silence) : Nat → List Nat → RecvLoop → Received
  | 0, _, r => ⟨connectionClosed, some r.msg⟩
  | fuel + 1, chunks, r =>
    let n := readCount r.sizeToRead r.rest (chunks.headD r.sizeToRead)
    if n = 0 then ⟨readFailureCode r.rest silence, some r.msg⟩
    else
      let msg := r.msg ++ r.rest.take n
      let rest := r.rest.drop n
      if maxPacketSize < msg.length then ⟨tooManyDatas, some msg⟩
      else
        let (msgSizeComputed, sizeToRead, state) :=
          recvAdvance mbParam msg r.msgSizeComputed r.state
        if 0 < sizeToRead then
          match waitData rest silence with
          | some code => ⟨code, some msg⟩
          | none => receiveLoop mbParam silence fuel chunks.tail
              ⟨msg, msgSizeComputed, sizeToRead, state, rest⟩
        else ⟨0, some msg⟩

/-- `receive_msg(mb_param, msg_size_computed, msg, msg_size)`, with
`MSG_SIZE_UNDEFINED` as `none`. -/
def receiveMsg (mbParam : TypeCom) (msgSizeComputed : Option Nat) (peer : Peer)
    (chunks : List Nat) : Received :=
  let (computed, state) : Nat × RecvState :=
    match msgSizeComputed with
    | none => (mbParam.headerLength + 2, .function)
    | some n => (n, .complete)
  match waitData peer.bytes peer.silence with
  | some code => ⟨code, none⟩
  | none => receiveLoop mbParam peer.silence (peer.bytes.length + 1) chunks
      ⟨[], computed, computed, state, peer.bytes⟩

/-! ## What the engine reads, off the stream -/

/-- The length at which the engine stops, from state `state` with
`msg_size_computed = computed`, when the stream holds `bytes`. -/
def recvTarget (mbParam : TypeCom) (bytes : List UInt8) (state : RecvState) (computed : Nat) :
    Nat :=
  match state with
  | .complete => computed
  | .byte => computed + computeQuerySizeData mbParam (bytes.take computed)
  | .function =>
    let h := computeQuerySizeHeader ((bytes.take computed).getD (mbParam.headerLength + 1) 0)
    if h = 0 then computed
    else computed + h + computeQuerySizeData mbParam (bytes.take (computed + h))

/-- What the engine returns once it stops at `target` or the stream runs dry:
`TOO_MANY_DATAS` if it got past `MAX_PACKET_SIZE` first (the bytes stored then
depend on the chunking; the prefix up to the stop is recorded), `0` with the
frame, or the silence's code with every byte that arrived. -/
def recvOutcome (silence : Silence) (bytes : List UInt8) (target : Nat) : Received :=
  if maxPacketSize < min target bytes.length then
    ⟨tooManyDatas, some (bytes.take (min target bytes.length))⟩
  else if target ≤ bytes.length then ⟨0, some (bytes.take target)⟩
  else ⟨silenceCode silence, some bytes⟩

/-- What `receive_msg` returns, computed from the stream alone. -/
def receiveSpec (mbParam : TypeCom) (msgSizeComputed : Option Nat) (peer : Peer) : Received :=
  match waitData peer.bytes peer.silence with
  | some code => ⟨code, none⟩
  | none =>
    recvOutcome peer.silence peer.bytes <|
      match msgSizeComputed with
      | none => recvTarget mbParam peer.bytes .function (mbParam.headerLength + 2)
      | some n => n

/-- `out` is what `spec` says: the same code, and unless that code is
`TOO_MANY_DATAS`, the same bytes. -/
def Received.Matches (out spec : Received) : Prop :=
  out.code = spec.code ∧ (spec.code ≠ tooManyDatas → out = spec)

theorem Received.Matches.refl (r : Received) : r.Matches r := ⟨rfl, fun _ => rfl⟩

/-! ## Small facts -/

theorem recvTarget_ge (mbParam : TypeCom) (bytes : List UInt8) (state : RecvState)
    (computed : Nat) : computed ≤ recvTarget mbParam bytes state computed := by
  cases state <;> simp only [recvTarget] <;> (try split) <;> omega

theorem readCount_le (s : Nat) (rest : List UInt8) (c : Nat) :
    readCount s rest c ≤ s ∧ readCount s rest c ≤ rest.length := by
  unfold readCount; omega

theorem readCount_pos {s : Nat} {rest : List UInt8} (c : Nat) (hs : 0 < s) (hr : rest ≠ []) :
    0 < readCount s rest c := by
  have := List.length_pos.mpr hr
  unfold readCount; omega

/-- The silence's code, when the stream is used up mid-frame. -/
theorem recvOutcome_short (silence : Silence) (bytes : List UInt8) {target : Nat}
    (hlt : bytes.length < target) (hfit : bytes.length ≤ maxPacketSize) :
    recvOutcome silence bytes target = ⟨silenceCode silence, some bytes⟩ := by
  simp only [recvOutcome, Nat.min_eq_right (Nat.le_of_lt hlt), if_neg (Nat.not_lt.mpr hfit),
    if_neg (Nat.not_le.mpr hlt)]

/-- The frame, when the stream reaches the target within `MAX_PACKET_SIZE`. -/
theorem recvOutcome_reach (silence : Silence) (bytes : List UInt8) {target : Nat}
    (hle : target ≤ bytes.length) (hfit : target ≤ maxPacketSize) :
    recvOutcome silence bytes target = ⟨0, some (bytes.take target)⟩ := by
  simp only [recvOutcome, Nat.min_eq_left hle, if_neg (Nat.not_lt.mpr hfit), if_pos hle]

theorem recvOutcome_tooMany (silence : Silence) (bytes : List UInt8) {target : Nat}
    (h : maxPacketSize < min target bytes.length) :
    (recvOutcome silence bytes target).code = tooManyDatas := by
  simp [recvOutcome, h]

/-- A wait that fails on the used-up stream returns the silence's code. -/
theorem waitData_eq_some {rest : List UInt8} {silence : Silence} {code : Int}
    (h : waitData rest silence = some code) : rest = [] ∧ code = silenceCode silence := by
  cases rest <;> cases silence <;> simp_all [waitData, silenceCode]

theorem waitData_of_ne_nil {rest : List UInt8} (silence : Silence) (h : rest ≠ []) :
    waitData rest silence = none := by
  cases rest with
  | nil => exact absurd rfl h
  | cons _ _ => rfl

theorem silenceCode_neg (silence : Silence) : silenceCode silence < 0 := by
  cases silence <;> decide

/-- A read that returns nothing on a ready, used-up stream returns the silence's code. -/
theorem readFailureCode_of_ready {silence : Silence} (h : waitData [] silence = none) :
    readFailureCode [] silence = silenceCode silence := by
  cases silence <;> simp_all [waitData, readFailureCode, silenceCode]

/-! ## The loop invariant -/

/-- The invariant of `receive_msg`'s loop on a stream `bytes`: the bytes stored
and the bytes left make up the stream, `size_to_read` is what is missing to
`msg_size_computed` and is positive, nothing has been stored past
`MAX_PACKET_SIZE`, and the last wait succeeded. -/
structure RecvInv (silence : Silence) (bytes : List UInt8) (r : RecvLoop) : Prop where
  stream : r.msg ++ r.rest = bytes
  size : r.msg.length + r.sizeToRead = r.msgSizeComputed
  pos : 0 < r.sizeToRead
  fits : r.msg.length ≤ maxPacketSize
  ready : waitData r.rest silence = none

/-- At a phase boundary the `switch (state)` keeps the stopping length: it either
stops there, or asks for more with the same target. -/
theorem recvAdvance_target (mbParam : TypeCom) (bytes : List UInt8) (state : RecvState)
    (computed : Nat) (hlen : (bytes.take computed).length = computed) :
    let a := recvAdvance mbParam (bytes.take computed) computed state
    a.1 = computed + a.2.1 ∧ (a.2.1 = 0 → recvTarget mbParam bytes state computed = computed) ∧
      (0 < a.2.1 → recvTarget mbParam bytes a.2.2 a.1 = recvTarget mbParam bytes state computed) := by
  simp only [recvAdvance, hlen, Nat.lt_irrefl, if_false]
  cases state with
  | function =>
    simp only [recvTarget, List.take_take, Nat.min_self]
    split <;> simp_all
  | byte => simp [recvTarget]
  | complete => simp [recvTarget]

/-- After a read that leaves the first `c ≤ msg_size_computed` bytes of the
stream stored, the step either stops exactly at the stopping length or asks for
more with the same stopping length. -/
theorem recvAdvance_spec (mbParam : TypeCom) (bytes : List UInt8) (state : RecvState)
    {c computed : Nat} (hlen : (bytes.take c).length = c) (hc : c ≤ computed) :
    let a := recvAdvance mbParam (bytes.take c) computed state
    c + a.2.1 = a.1 ∧ (a.2.1 = 0 → recvTarget mbParam bytes state computed = c) ∧
      (0 < a.2.1 → recvTarget mbParam bytes a.2.2 a.1 = recvTarget mbParam bytes state computed) := by
  rcases Nat.lt_or_eq_of_le hc with hlt | rfl
  · simp only [recvAdvance, hlen, hlt, if_true]
    exact ⟨by omega, fun h => absurd h (by omega), fun _ => trivial⟩
  · obtain ⟨h1, h2, h3⟩ := recvAdvance_target mbParam bytes state c hlen
    exact ⟨h1.symm, h2, h3⟩

/-- **The loop refines `recvOutcome`.** From every state satisfying the
invariant, under every chunking, the loop returns what `recvOutcome` says for
the stopping length the stream determines. -/
theorem receiveLoop_spec (mbParam : TypeCom) (silence : Silence) (bytes : List UInt8) :
    ∀ (fuel : Nat) (chunks : List Nat) (r : RecvLoop), RecvInv silence bytes r →
      r.rest.length < fuel →
      (receiveLoop mbParam silence fuel chunks r).Matches
        (recvOutcome silence bytes (recvTarget mbParam bytes r.state r.msgSizeComputed)) := by
  intro fuel
  induction fuel with
  | zero => intro _ _ _ h; omega
  | succ fuel ih =>
    intro chunks r inv hfuel
    have htarget := recvTarget_ge mbParam bytes r.state r.msgSizeComputed
    by_cases hnil : r.rest = []
    · -- nothing waits: the read fails with the silence's code
      have hbytes : r.msg = bytes := by simpa [hnil] using inv.stream
      have hready : waitData [] silence = none := hnil ▸ inv.ready
      have hlen := congrArg List.length hbytes
      rw [recvOutcome_short silence bytes (by have := inv.size; have := inv.pos; omega)
        (hbytes ▸ inv.fits)]
      simp only [receiveLoop, hnil, readCount, List.length_nil, Nat.min_zero, if_true,
        readFailureCode_of_ready hready, hbytes]
      exact Received.Matches.refl _
    · dsimp only [receiveLoop]
      have hnpos := readCount_pos (chunks.headD r.sizeToRead) inv.pos hnil
      obtain ⟨hns, hnr⟩ := readCount_le r.sizeToRead r.rest (chunks.headD r.sizeToRead)
      generalize readCount r.sizeToRead r.rest (chunks.headD r.sizeToRead) = n at hnpos hns hnr ⊢
      have hsize := inv.size
      have hmsg : r.msg ++ r.rest.take n = bytes.take (r.msg.length + n) := by
        rw [← inv.stream, List.take_append]
      have hblen : bytes.length = r.msg.length + r.rest.length := by rw [← inv.stream]; simp
      have hlen : (bytes.take (r.msg.length + n)).length = r.msg.length + n := by
        simp; omega
      have hdrop : bytes.take (r.msg.length + n) ++ r.rest.drop n = bytes := by
        rw [← hmsg, List.append_assoc, List.take_append_drop, inv.stream]
      rw [if_neg (by omega), hmsg]
      by_cases htoo : maxPacketSize < (bytes.take (r.msg.length + n)).length
      · -- stored past `MAX_PACKET_SIZE`
        rw [if_pos htoo]
        have hcode := @recvOutcome_tooMany silence bytes
          (recvTarget mbParam bytes r.state r.msgSizeComputed) (by omega)
        exact ⟨hcode.symm, fun h => absurd hcode h⟩
      · rw [if_neg htoo]
        obtain ⟨hsum, hstop, hgo⟩ :=
          @recvAdvance_spec mbParam bytes r.state _ r.msgSizeComputed hlen (by omega)
        generalize recvAdvance mbParam (bytes.take (r.msg.length + n)) r.msgSizeComputed r.state = a
          at hsum hstop hgo ⊢
        obtain ⟨c', s', st'⟩ := a
        dsimp only at hsum hstop hgo ⊢
        by_cases hs : 0 < s'
        · rw [if_pos hs, ← hgo hs]
          split
          · -- the wait fails on the used-up stream
            rename_i code hw
            obtain ⟨hr, rfl⟩ := waitData_eq_some hw
            rw [hr, List.append_nil] at hdrop
            have hbl : bytes.length = r.msg.length + n := by rw [← hlen, hdrop]
            have hT := recvTarget_ge mbParam bytes st' c'
            rw [recvOutcome_short silence bytes (by omega) (by omega), hdrop]
            exact Received.Matches.refl _
          · -- the loop goes on
            rename_i hw
            exact ih _ _ ⟨hdrop, by dsimp only; omega, hs, by dsimp only; omega, hw⟩
              (by dsimp only; simp; omega)
        · -- the frame is complete
          rw [if_neg hs, hstop (by omega), recvOutcome_reach silence bytes (by omega) (by omega)]
          exact Received.Matches.refl _

/-! ## The whole call -/

/-- **`receive_msg` refines `receiveSpec`**: for every stream, every way of
splitting it into reads, and every positive known size or
`MSG_SIZE_UNDEFINED`. -/
theorem receiveMsg_spec (mbParam : TypeCom) (msgSizeComputed : Option Nat) (peer : Peer)
    (chunks : List Nat) (hpos : ∀ n, msgSizeComputed = some n → 0 < n) :
    (receiveMsg mbParam msgSizeComputed peer chunks).Matches
      (receiveSpec mbParam msgSizeComputed peer) := by
  have start : ∀ (computed : Nat) (state : RecvState), 0 < computed →
      (match waitData peer.bytes peer.silence with
        | some code => (⟨code, none⟩ : Received)
        | none => receiveLoop mbParam peer.silence (peer.bytes.length + 1) chunks
            ⟨[], computed, computed, state, peer.bytes⟩).Matches
      (match waitData peer.bytes peer.silence with
        | some code => ⟨code, none⟩
        | none => recvOutcome peer.silence peer.bytes
            (recvTarget mbParam peer.bytes state computed)) := by
    intro computed state hc
    split
    · exact Received.Matches.refl _
    · rename_i hw
      exact receiveLoop_spec mbParam peer.silence peer.bytes _ chunks _
        ⟨rfl, by simp, hc, by simp [maxPacketSize], hw⟩ (by simp)
  cases msgSizeComputed with
  | none => exact start _ .function (by omega)
  | some n => exact start n .complete (hpos n rfl)

theorem receiveMsg_chunking_invariant (mbParam : TypeCom) (msgSizeComputed : Option Nat)
    (peer : Peer) (chunks₁ chunks₂ : List Nat) (hpos : ∀ n, msgSizeComputed = some n → 0 < n) :
    (receiveMsg mbParam msgSizeComputed peer chunks₁).code =
        (receiveMsg mbParam msgSizeComputed peer chunks₂).code ∧
      ((receiveMsg mbParam msgSizeComputed peer chunks₁).code ≠ tooManyDatas →
        (receiveMsg mbParam msgSizeComputed peer chunks₁).msg? =
          (receiveMsg mbParam msgSizeComputed peer chunks₂).msg?) := by
  obtain ⟨hc₁, hm₁⟩ := receiveMsg_spec mbParam msgSizeComputed peer chunks₁ hpos
  obtain ⟨hc₂, hm₂⟩ := receiveMsg_spec mbParam msgSizeComputed peer chunks₂ hpos
  refine ⟨hc₁.trans hc₂.symm, fun h => ?_⟩
  rw [hm₁ (hc₁ ▸ h), hm₂ (hc₁ ▸ h)]

/-- Byte-at-a-time and all-at-once reads of the eleven-byte reply to a read
of three holding registers agree. -/
theorem receiveMsg_chunking_invariant_eleven_bytes :
    let peer : Peer := ⟨[0x11, 0x03, 0x06, 0xAE, 0x41, 0x56, 0x52, 0x43, 0x40, 0x49, 0xAD], .timeOut⟩
    (receiveMsg .rtu (some 11) peer [1, 1, 1, 1, 1]).code = (receiveMsg .rtu (some 11) peer []).code ∧
      ((receiveMsg .rtu (some 11) peer [1, 1, 1, 1, 1]).code ≠ tooManyDatas →
        (receiveMsg .rtu (some 11) peer [1, 1, 1, 1, 1]).msg? = (receiveMsg .rtu (some 11) peer []).msg?) :=
  receiveMsg_chunking_invariant _ _ _ _ _ (fun n h => by cases h; decide)

private theorem silenceCode_ne_tooManyDatas (silence : Silence) : silenceCode silence ≠ tooManyDatas := by
  cases silence <;> decide

private theorem readFailureCode_ne_tooManyDatas (rest : List UInt8) (silence : Silence) :
    readFailureCode rest silence ≠ tooManyDatas := by
  unfold readFailureCode; split <;> decide

/-- `TOO_MANY_DATAS` comes only after a read stored a byte at
`msg[MAX_PACKET_SIZE]` or beyond. -/
theorem receiveLoop_tooManyDatas_stored (mbParam : TypeCom) (silence : Silence) :
    ∀ (fuel : Nat) (chunks : List Nat) (r : RecvLoop),
      (receiveLoop mbParam silence fuel chunks r).code = tooManyDatas →
        ∃ msg, (receiveLoop mbParam silence fuel chunks r).msg? = some msg ∧
          maxPacketSize < msg.length := by
  intro fuel
  induction fuel with
  | zero => intro _ _ h; exact absurd h (by simp only [receiveLoop]; decide)
  | succ fuel ih =>
    intro chunks r
    dsimp only [receiveLoop]
    split
    · exact fun h => absurd h (readFailureCode_ne_tooManyDatas _ _)
    split
    · exact fun _ => ⟨_, rfl, ‹_›⟩
    split
    · split
      · rename_i hw
        exact fun h => absurd ((waitData_eq_some hw).2 ▸ h) (silenceCode_ne_tooManyDatas _)
      · exact ih _ _
    · exact fun h => absurd h (by dsimp only; decide)

theorem receiveMsg_tooManyDatas_stored (mbParam : TypeCom) (msgSizeComputed : Option Nat)
    (peer : Peer) (chunks : List Nat)
    (h : (receiveMsg mbParam msgSizeComputed peer chunks).code = tooManyDatas) :
    ∃ msg, (receiveMsg mbParam msgSizeComputed peer chunks).msg? = some msg ∧
      maxPacketSize < msg.length := by
  revert h
  cases msgSizeComputed <;> dsimp only [receiveMsg] <;> split
  all_goals first
    | (rename_i hw; exact fun h => absurd ((waitData_eq_some hw).2 ▸ h) (silenceCode_ne_tooManyDatas _))
    | exact receiveLoop_tooManyDatas_stored mbParam _ _ _ _

set_option maxRecDepth 4000 in
/-- An RTU write-multiple-coils request whose byte count is 253: the engine
aims at `7 + 253 + 2 = 262` bytes, and under every chunking it stores past
`msg[MAX_PACKET_SIZE]` before it returns `TOO_MANY_DATAS`. -/
theorem receiveMsg_byte_count_253 (chunks : List Nat) :
    let peer : Peer := ⟨[0x01, 0x0F, 0x00, 0x00, 0x07, 0xE8, 0xFD] ++ List.replicate 255 0, .timeOut⟩
    (receiveMsg .rtu none peer chunks).code = tooManyDatas ∧
      ∃ msg, (receiveMsg .rtu none peer chunks).msg? = some msg ∧ maxPacketSize < msg.length := by
  intro peer
  have hspec : (receiveSpec .rtu none peer).code = tooManyDatas := by decide
  have hcode := (receiveMsg_spec .rtu none peer chunks (fun _ h => nomatch h)).1.trans hspec
  exact ⟨hcode, receiveMsg_tooManyDatas_stored _ _ _ _ hcode⟩

/-! ## A read of known size -/

theorem silenceCode_le (silence : Silence) : silenceCode silence ≤ commTimeOut := by
  cases silence <;> decide

theorem silenceCode_eq_commTimeOut {silence : Silence} (h : silenceCode silence = commTimeOut) :
    silence = .timeOut := by
  cases silence <;> first | rfl | exact absurd h (by decide)

/-- Every code `receive_msg` returns is 0 or one of the library's errors. -/
theorem receiveMsg_code_cases (mbParam : TypeCom) (msgSizeComputed : Option Nat) (peer : Peer)
    (chunks : List Nat) (hpos : ∀ n, msgSizeComputed = some n → 0 < n) :
    (receiveMsg mbParam msgSizeComputed peer chunks).code = 0 ∨
      (receiveMsg mbParam msgSizeComputed peer chunks).code ≤ commTimeOut := by
  rw [(receiveMsg_spec mbParam msgSizeComputed peer chunks hpos).1]
  unfold receiveSpec recvOutcome
  split
  · rename_i hw
    exact .inr ((waitData_eq_some hw).2 ▸ silenceCode_le _)
  · split_ifs
    · exact .inr (by dsimp only; decide)
    · exact .inl rfl
    · exact .inr (silenceCode_le _)

/-- `receive_msg` never returns `INVALID_EXCEPTION_CODE`. -/
theorem receiveMsg_code_ne_invalidExceptionCode (mbParam : TypeCom) (msgSizeComputed : Option Nat)
    (peer : Peer) (chunks : List Nat) (hpos : ∀ n, msgSizeComputed = some n → 0 < n) :
    (receiveMsg mbParam msgSizeComputed peer chunks).code ≠ invalidExceptionCode := by
  have hs : ∀ silence, silenceCode silence ≠ invalidExceptionCode := fun s => by cases s <;> decide
  rw [(receiveMsg_spec mbParam msgSizeComputed peer chunks hpos).1]
  unfold receiveSpec recvOutcome
  split
  · rename_i hw
    rw [(waitData_eq_some hw).2]
    exact hs _
  · split_ifs
    · exact show tooManyDatas ≠ invalidExceptionCode by decide
    · exact show (0 : Int) ≠ invalidExceptionCode by decide
    · exact hs _

/-- With a known size `n`, a call that returns 0 stored exactly the first `n`
bytes of the stream. -/
theorem receiveMsg_some_code_zero (mbParam : TypeCom) {n : Nat} (hn : 0 < n) (peer : Peer)
    (chunks : List Nat) (h : (receiveMsg mbParam (some n) peer chunks).code = 0) :
    (receiveMsg mbParam (some n) peer chunks).msg? = some (peer.bytes.take n) ∧
      n ≤ peer.bytes.length := by
  obtain ⟨hc, hm⟩ := receiveMsg_spec mbParam (some n) peer chunks (fun _ h => Option.some_inj.mp h ▸ hn)
  rw [h] at hc
  rw [hm (by rw [← hc]; decide)]
  unfold receiveSpec at hc ⊢
  split at hc
  · rename_i hw
    exact absurd hc.symm (Int.ne_of_lt ((waitData_eq_some hw).2 ▸ silenceCode_neg _))
  · simp only [recvOutcome] at hc ⊢
    split_ifs at hc ⊢ with h1 h2
    · exact absurd hc (by dsimp only; decide)
    · exact ⟨rfl, h2⟩
    · exact absurd hc.symm (Int.ne_of_lt (silenceCode_neg _))

/-- With a known size `n` and a byte pending at the first wait, a call that
times out stored every byte that arrived, fewer than `n`. -/
theorem receiveMsg_some_timeOut (mbParam : TypeCom) {n : Nat} (hn : 0 < n) (peer : Peer)
    (chunks : List Nat) (hbytes : peer.bytes ≠ [])
    (h : (receiveMsg mbParam (some n) peer chunks).code = commTimeOut) :
    (receiveMsg mbParam (some n) peer chunks).msg? = some peer.bytes ∧
      peer.bytes.length < n ∧ peer.silence = .timeOut := by
  obtain ⟨hc, hm⟩ := receiveMsg_spec mbParam (some n) peer chunks (fun _ h => Option.some_inj.mp h ▸ hn)
  rw [h] at hc
  rw [hm (by rw [← hc]; decide)]
  unfold receiveSpec at hc ⊢
  rw [waitData_of_ne_nil _ hbytes] at hc ⊢
  simp only [recvOutcome] at hc ⊢
  split_ifs at hc ⊢ with h1 h2
  · exact absurd hc (by dsimp only; decide)
  · exact absurd hc (by dsimp only; decide)
  · exact ⟨rfl, Nat.lt_of_not_le h2, silenceCode_eq_commTimeOut hc.symm⟩

theorem receiveMsg_some_complete (mbParam : TypeCom) {n : Nat} (hn : 0 < n) (peer : Peer)
    (chunks : List Nat) (hle : n ≤ peer.bytes.length) (hfit : n ≤ maxPacketSize) :
    receiveMsg mbParam (some n) peer chunks = ⟨0, some (peer.bytes.take n)⟩ := by
  have hbytes : peer.bytes ≠ [] := fun h => by rw [h] at hle; simp at hle; omega
  have hspec : receiveSpec mbParam (some n) peer = ⟨0, some (peer.bytes.take n)⟩ := by
    simp only [receiveSpec, waitData_of_ne_nil _ hbytes]
    exact recvOutcome_reach _ _ hle hfit
  obtain ⟨hc, hm⟩ := receiveMsg_spec mbParam (some n) peer chunks
    (fun _ h => Option.some_inj.mp h ▸ hn)
  rw [hspec] at hc hm
  exact hm (by dsimp only; decide)

/-- With a known size `n`, a stream that holds fewer bytes, at least one, gives
them all with the code of the silence after them, under every chunking. -/
theorem receiveMsg_some_short (mbParam : TypeCom) {n : Nat} (hn : 0 < n) (peer : Peer)
    (chunks : List Nat) (hbytes : peer.bytes ≠ []) (hlt : peer.bytes.length < n)
    (hfit : peer.bytes.length ≤ maxPacketSize) :
    receiveMsg mbParam (some n) peer chunks = ⟨silenceCode peer.silence, some peer.bytes⟩ := by
  have hspec : receiveSpec mbParam (some n) peer = ⟨silenceCode peer.silence, some peer.bytes⟩ := by
    simp only [receiveSpec, waitData_of_ne_nil _ hbytes]
    exact recvOutcome_short _ _ hlt hfit
  obtain ⟨hc, hm⟩ := receiveMsg_spec mbParam (some n) peer chunks
    (fun _ h => Option.some_inj.mp h ▸ hn)
  rw [hspec] at hc hm
  exact hm (silenceCode_ne_tooManyDatas peer.silence)

/-- Once the first wait succeeds, every path assigns `*msg_size`. -/
theorem receiveLoop_stored (mbParam : TypeCom) (silence : Silence) :
    ∀ (fuel : Nat) (chunks : List Nat) (r : RecvLoop),
      ∃ msg, (receiveLoop mbParam silence fuel chunks r).msg? = some msg := by
  intro fuel
  induction fuel with
  | zero => exact fun _ _ => ⟨_, rfl⟩
  | succ fuel ih =>
    intro chunks r
    dsimp only [receiveLoop]
    split
    · exact ⟨_, rfl⟩
    split
    · exact ⟨_, rfl⟩
    split
    · split
      · exact ⟨_, rfl⟩
      · exact ih _ _
    · exact ⟨_, rfl⟩

/-- When a byte is pending at the first wait, `*msg_size` is assigned. -/
theorem receiveMsg_stored (mbParam : TypeCom) (msgSizeComputed : Option Nat) {peer : Peer}
    (chunks : List Nat) (hbytes : peer.bytes ≠ []) :
    ∃ msg, (receiveMsg mbParam msgSizeComputed peer chunks).msg? = some msg := by
  cases msgSizeComputed <;> simp only [receiveMsg, waitData_of_ne_nil _ hbytes] <;>
    exact receiveLoop_stored _ _ _ _ _

/-! ## Requests the engine reads whole -/

/-- A byte of a transmitted frame from the header on, as the engine reads it
off the stream. -/
theorem getD_take_modbusSend_append (mbParam : TypeCom) (query rest : List UInt8) {i m : Nat}
    (hi : mbParam.headerLength ≤ i) (him : i < m) (hq : i < query.length) :
    ((modbusSend mbParam query ++ rest).take m).getD i 0 = query.getD i 0 := by
  have hlen : i < (modbusSend mbParam query).length := by rw [length_modbusSend]; omega
  rw [List.getD_eq_getElem?_getD, List.getElem?_take_of_lt him, List.getElem?_append_left hlen,
    ← List.getD_eq_getElem?_getD, getD_modbusSend mbParam query hi hq]

/-- The length `receive_msg` discovers in `MSG_SIZE_UNDEFINED` mode for a
request of function code 1 to 5 that `build_query_packet` built, whatever
follows it on the stream: the whole request. -/
theorem recvTarget_buildQueryPacket (mbParam : TypeCom) (tId : UInt16) (slave function : UInt8)
    (startAddr count : UInt16) (hfn : function.toNat ≤ fcForceSingleCoil) (rest : List UInt8) :
    let request := modbusSend mbParam (buildQueryPacket mbParam tId slave function startAddr count).1
    recvTarget mbParam (request ++ rest) .function (mbParam.headerLength + 2) = request.length := by
  intro request
  have hplen : (buildQueryPacket mbParam tId slave function startAddr count).1.length =
      mbParam.headerLength + 6 := by
    rw [length_buildQueryPacket]; rfl
  have hF : ∀ m, mbParam.headerLength + 1 < m →
      ((request ++ rest).take m).getD (mbParam.headerLength + 1) 0 = function := fun m hm => by
    rw [getD_take_modbusSend_append mbParam _ rest (by omega) hm (by omega),
      getD_buildQueryPacket_function]
  have h15 : ¬(function.toNat = fcForceMultipleCoils ∨ function.toNat = fcPresetMultipleRegisters) := by
    simp only [fcForceSingleCoil, fcForceMultipleCoils, fcPresetMultipleRegisters] at hfn ⊢
    omega
  have := headerLength_add_checksumSize_le mbParam
  simp only [recvTarget, hF _ (by omega : mbParam.headerLength + 1 < mbParam.headerLength + 2),
    computeQuerySizeHeader, if_pos hfn, if_neg (show (4 : Nat) ≠ 0 by decide), computeQuerySizeData,
    byteAt, hF (mbParam.headerLength + 2 + 4) (by omega), if_neg h15]
  simp only [request, length_modbusSend, hplen]
  omega

/-- The length `receive_msg` discovers in `MSG_SIZE_UNDEFINED` mode for a
write of several coils or registers: the header `build_query_packet` built,
function code 15 or 16, then a byte count `b` and the `b` bytes it counts.
While the count and the trailer fit a `uint8_t`, it is the whole request. -/
theorem recvTarget_multiWrite (mbParam : TypeCom) (tId : UInt16) (slave function : UInt8)
    (startAddr count : UInt16)
    (hfn : function.toNat = fcForceMultipleCoils ∨ function.toNat = fcPresetMultipleRegisters)
    (b : UInt8) (data : List UInt8) (hb : b.toNat = data.length)
    (hsize : data.length + mbParam.checksumSize < 256) (rest : List UInt8) :
    let request := modbusSend mbParam
      ((buildQueryPacket mbParam tId slave function startAddr count).1 ++ b :: data)
    recvTarget mbParam (request ++ rest) .function (mbParam.headerLength + 2) = request.length := by
  intro request
  have hplen : (buildQueryPacket mbParam tId slave function startAddr count).1.length =
      mbParam.headerLength + 6 := by
    rw [length_buildQueryPacket]; rfl
  have hqlen : ((buildQueryPacket mbParam tId slave function startAddr count).1 ++ b :: data).length =
      mbParam.headerLength + 7 + data.length := by
    rw [List.length_append, hplen, List.length_cons]; omega
  have hF : ∀ m, mbParam.headerLength + 1 < m →
      ((request ++ rest).take m).getD (mbParam.headerLength + 1) 0 = function := fun m hm => by
    rw [getD_take_modbusSend_append mbParam _ rest (by omega) hm (by omega),
      List.getD_append _ _ _ _ (by omega), getD_buildQueryPacket_function]
  have hB : ∀ m, mbParam.headerLength + 6 < m →
      ((request ++ rest).take m).getD (mbParam.headerLength + 6) 0 = b := fun m hm => by
    rw [getD_take_modbusSend_append mbParam _ rest (by omega) hm (by omega), ← hplen,
      List.getD_append_right _ _ _ _ (Nat.le_refl _), Nat.sub_self, List.getD_cons_zero]
  have h5 : ¬function.toNat ≤ fcForceSingleCoil := by
    simp only [fcForceSingleCoil, fcForceMultipleCoils, fcPresetMultipleRegisters] at hfn ⊢
    omega
  simp only [recvTarget, hF _ (by omega : mbParam.headerLength + 1 < mbParam.headerLength + 2),
    computeQuerySizeHeader, if_neg h5, if_pos hfn, if_neg (show (5 : Nat) ≠ 0 by decide),
    computeQuerySizeData, byteAt, hF (mbParam.headerLength + 2 + 5) (by omega),
    hB (mbParam.headerLength + 2 + 5) (by omega), hb, Nat.mod_eq_of_lt hsize]
  simp only [request, length_modbusSend, hqlen]
  omega

/-- The length `receive_msg` discovers in `MSG_SIZE_UNDEFINED` mode for a
transmitted request whose function code `compute_query_size_header` gives no
header bytes: only the unit and the function code, whatever follows. -/
theorem recvTarget_headerless (mbParam : TypeCom) (query rest : List UInt8)
    (hlen : mbParam.headerLength + 1 < query.length)
    (hfn : computeQuerySizeHeader (query.getD (mbParam.headerLength + 1) 0) = 0) :
    recvTarget mbParam (modbusSend mbParam query ++ rest) .function (mbParam.headerLength + 2) =
      mbParam.headerLength + 2 := by
  simp only [recvTarget, getD_take_modbusSend_append mbParam query rest (Nat.le_add_right _ 1)
    (Nat.lt_succ_self _) hlen, hfn, if_true]

/-- In `MSG_SIZE_UNDEFINED` mode, when the stream holds the length `n` the engine
discovers, within `MAX_PACKET_SIZE`, `receive_msg` returns 0 and stores the
first `n` bytes, under every chunking. -/
theorem receiveMsg_none_target (mbParam : TypeCom) (peer : Peer) (chunks : List Nat) {n : Nat}
    (htarget : recvTarget mbParam peer.bytes .function (mbParam.headerLength + 2) = n)
    (hpos : 0 < n) (hle : n ≤ peer.bytes.length) (hfit : n ≤ maxPacketSize) :
    receiveMsg mbParam none peer chunks = ⟨0, some (peer.bytes.take n)⟩ := by
  have hspec : receiveSpec mbParam none peer = ⟨0, some (peer.bytes.take n)⟩ := by
    have hne : peer.bytes ≠ [] := List.ne_nil_of_length_pos (by omega)
    simp only [receiveSpec, waitData_of_ne_nil peer.silence hne, htarget]
    exact recvOutcome_reach peer.silence _ hle hfit
  have hm := (receiveMsg_spec mbParam none peer chunks (fun _ h => nomatch h)).2
  rw [hspec] at hm
  exact hm (show (0 : Int) ≠ tooManyDatas by decide)

/-- In `MSG_SIZE_UNDEFINED` mode, when the stream falls silent before the
unit and the function code: `receive_msg` stores every byte that arrived and
returns the silence's code, under every chunking. -/
theorem receiveMsg_none_short (mbParam : TypeCom) (peer : Peer) (chunks : List Nat)
    (hne : peer.bytes ≠ []) (hlt : peer.bytes.length < mbParam.headerLength + 2) :
    receiveMsg mbParam none peer chunks = ⟨silenceCode peer.silence, some peer.bytes⟩ := by
  have hspec : receiveSpec mbParam none peer = ⟨silenceCode peer.silence, some peer.bytes⟩ := by
    have := headerLength_add_checksumSize_le mbParam
    simp only [receiveSpec, waitData_of_ne_nil peer.silence hne]
    exact recvOutcome_short peer.silence _
      (Nat.lt_of_lt_of_le hlt (recvTarget_ge mbParam _ .function _)) (by unfold maxPacketSize; omega)
  have hm := (receiveMsg_spec mbParam none peer chunks (fun _ h => nomatch h)).2
  rw [hspec] at hm
  exact hm (silenceCode_ne_tooManyDatas peer.silence)

end Modbus
