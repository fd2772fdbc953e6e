import Modbus.Master

/-!
# Modbus — coil bits packed and unpacked

`force_multiple_coils` packs the coils it writes eight to a byte, least
significant bit first. Three helpers that `modbus.c` exports to embedders undo
and redo that packing over a table of `ON`/`OFF` entries:
`set_bits_from_bytes(dest, address, nb_bits, tab_byte)` sets `dest[address + i]`
from bit `i % 8` of `tab_byte[i / 8]`, `set_bits_from_byte(dest, address,
value)` sets eight entries from one byte, and `get_byte_from_bits(src,
address, nb_bits)` ORs `src[address + i] << i` into a byte for
`i < nb_bits ≤ 8`.

The table is memory, `Nat → UInt8`, as the server's tables are. Both helpers
take their address as a `uint16_t`, but `set_bits_from_bytes` indexes `dest[i]`
with an `int` `i` that runs up to `address + nb_bits`: entries written above
`0xFFFF` cannot be addressed by `get_byte_from_bits`, whose address argument
wraps.

## Results

* `forceMultipleCoilsData_testBit` — bit `t` of the `k`-th data byte of
  `force_multiple_coils` is set exactly when coil `8k + t` is below the count
  and its source byte is nonzero: the `coil_check++` of the loop condition is
  skipped at every byte edge, so each byte starts at coil `8k`.
* `setBitsFromBytesLoop_apply` — what `set_bits_from_bytes` leaves in every
  entry: the range written, and everything else unchanged.
* `getByteFromBitsLoop_testBit` — the bits `get_byte_from_bits` gathers.
* `forceMultipleCoils_bits_round_trip` — for every count up to
  `MAX_WRITE_COILS` and every source, the request carries `⌈N / 8⌉` packed
  bytes, `set_bits_from_bytes` unpacks them into `ON` for exactly the nonzero
  sources and touches nothing else, and `get_byte_from_bits` packs each byte
  back while its address stays below `0x10000`.
* `setBitsFromByte_round_trip` — `set_bits_from_byte(dest, address, value)`
  leaves the table `set_bits_from_bytes(dest, address, 8, {value})` leaves,
  and `get_byte_from_bits(dest, address, 8)` reads `value` back.
* `getByteFromBits_address_wrap` — from address `0xFFFF` the second byte's
  address wraps to 7, and `get_byte_from_bits` reads entries never written.
-/

namespace Modbus

/-! ## The helpers -/

/-- The loop of `set_bits_from_bytes`: `n` more entries from `dest[i]` on, where
`shift` is the bit of `tab_byte[(i - address) / 8]` it tests, `(shift + 1) % 8`
after each entry. -/
def setBitsFromBytesLoop (address : Nat) (tabByte : List UInt8) :
    (n i shift : Nat) → (dest : Nat → UInt8) → Nat → UInt8
  | 0, _, _, dest => dest
  | n + 1, i, shift, dest =>
    let value := if tabByte.getD ((i - address) / 8) 0 &&& (1 <<< shift.toUInt8) ≠ 0 then ON else OFF
    setBitsFromBytesLoop address tabByte n (i + 1) ((shift + 1) % 8)
      (fun j => if j = i then value else dest j)

/-- `set_bits_from_bytes(dest, address, nb_bits, tab_byte)`: `dest` afterwards. -/
def setBitsFromBytes (dest : Nat → UInt8) (address nbBits : UInt16) (tabByte : List UInt8) :
    Nat → UInt8 :=
  setBitsFromBytesLoop address.toNat tabByte nbBits.toNat address.toNat 0 dest

/-- The loop of `set_bits_from_byte`: `n` more entries from `dest[address + i]`
on, each from bit `i` of `value`. -/
def setBitsFromByteLoop (address : Nat) (value : UInt8) : (n i : Nat) → (dest : Nat → UInt8) → Nat → UInt8
  | 0, _, dest => dest
  | n + 1, i, dest =>
    let bit := if value &&& (1 <<< i.toUInt8) ≠ 0 then ON else OFF
    setBitsFromByteLoop address value n (i + 1) (fun j => if j = address + i then bit else dest j)

/-- `set_bits_from_byte(dest, address, value)`: `dest` afterwards. -/
def setBitsFromByte (dest : Nat → UInt8) (address : UInt16) (value : UInt8) : Nat → UInt8 :=
  setBitsFromByteLoop address.toNat value 8 0 dest

/-- The loop of `get_byte_from_bits`: `value |= src[address + i] << i` for `n` more
`i`. The shift is of an `int`, and storing it into the `uint8_t` `value` keeps
its low eight bits, which is the `uint8_t` shift for `i < 8`. -/
def getByteFromBitsLoop (src : Nat → UInt8) (address : Nat) : (n i : Nat) → (value : UInt8) → UInt8
  | 0, _, value => value
  | n + 1, i, value =>
    getByteFromBitsLoop src address n (i + 1) (value ||| (src (address + i) <<< i.toUInt8))

/-- `get_byte_from_bits(src, address, nb_bits)`: `nb_bits` above 8 is cut to 8
(after a message), a negative one runs the loop not at all. -/
def getByteFromBits (src : Nat → UInt8) (address : UInt16) (nbBits : Int) : UInt8 :=
  let nbBits := if nbBits > 8 then 8 else nbBits
  getByteFromBitsLoop src address.toNat nbBits.toNat 0 0

/-! ## Packing in `force_multiple_coils` -/

/-- The inner loop of `force_multiple_coils` on one byte, with `bits` masks left
and the bits below `8 - bits` already written: bit `t` above them ends up set
exactly when coil `coil_check + (t - (8 - bits))` is below the count and its
source is nonzero; when all `bits` coils are below the count, `coil_check` and
`pos` both advance by `bits`. -/
theorem forceMultipleCoilsByte_spec (coilCount : Int) (dataSrc : List UInt8) :
    ∀ (bits : Nat) (byte : UInt8) (coilCheck : Int) (pos : Nat), bits ≤ 8 →
      byte.toNat < 2 ^ (8 - bits) →
      let s := forceMultipleCoilsByte coilCount dataSrc bits byte coilCheck pos
      (∀ t, t < 8 → s.1.toNat.testBit t =
        if t < 8 - bits then byte.toNat.testBit t
        else decide (coilCheck + (t - (8 - bits) : Nat) < coilCount ∧
          dataSrc.getD (pos + (t - (8 - bits))) 0 ≠ 0)) ∧
      (coilCheck + bits ≤ coilCount → s.2.1 = coilCheck + bits ∧ s.2.2 = pos + bits) := by
  intro bits
  induction bits with
  | zero =>
    intro byte c p _ _
    simp only [forceMultipleCoilsByte]
    exact ⟨fun t ht => (if_pos (by omega)).symm, fun _ => ⟨by simp, rfl⟩⟩
  | succ bits ih =>
    intro byte c p hb hbyte
    have hj : 7 - bits < 8 := by omega
    simp only [forceMultipleCoilsByte]
    split
    · -- coil `coil_check` is written into bit `7 - bits`
      rename_i hc
      obtain ⟨byte', hbyte'⟩ : ∃ b : UInt8, b = if dataSrc.getD p 0 ≠ 0 then byte ||| 1 <<< (7 - bits).toUInt8
          else byte &&& ~~~(1 <<< (7 - bits).toUInt8) := ⟨_, rfl⟩
      rw [← hbyte']
      have hlow : byte.toNat.testBit (7 - bits) = false :=
        testBit_eq_false_of_lt_two_pow hbyte (by omega)
      have hbit : ∀ t, byte'.toNat.testBit t =
          if t = 7 - bits then decide (dataSrc.getD p 0 ≠ 0) else byte.toNat.testBit t := by
        intro t
        rw [hbyte']
        split
        · rename_i hs
          rw [testBit_or_shiftLeft byte 1 (by decide) hj]
          by_cases ht : t = 7 - bits <;> simp [ht, hs, -List.getD_eq_getElem?_getD]
        · rename_i hs
          rw [testBit_and_not_shiftLeft byte hj]
          by_cases ht : t = 7 - bits <;> simp [ht, hs, hlow, -List.getD_eq_getElem?_getD]
      have hbound : byte'.toNat < 2 ^ (8 - bits) := by
        apply Nat.lt_pow_two_of_testBit
        intro t ht
        rw [hbit, if_neg (by omega)]
        exact testBit_eq_false_of_lt_two_pow hbyte (by omega)
      obtain ⟨ih1, ih2⟩ := ih byte' (c + 1) (p + 1) (by omega) hbound
      refine ⟨fun t ht => ?_, fun h => ?_⟩
      · rw [ih1 t ht]
        by_cases hlt : t < 7 - bits
        · rw [if_pos (by omega), if_pos (by omega), hbit, if_neg (by omega)]
        · by_cases heq : t = 7 - bits
          · subst heq
            rw [if_pos (by omega), if_neg (by omega), hbit, if_pos rfl,
              show 7 - bits - (8 - (bits + 1)) = 0 by omega, Nat.add_zero]
            simp [hc, -List.getD_eq_getElem?_getD]
          · have e : t - (8 - (bits + 1)) = t - (8 - bits) + 1 := by omega
            rw [if_neg (by omega), if_neg (by omega), e]
            generalize t - (8 - bits) = s
            rw [show p + (s + 1) = p + 1 + s by omega, show c + ((s + 1 : Nat) : Int) = c + 1 + s by omega]
      · obtain ⟨h1, h2⟩ := ih2 (by omega)
        exact ⟨by rw [h1]; omega, by rw [h2]; omega⟩
    · -- the count is reached: the byte keeps its low bits and `coil_check` one more
      rename_i hc
      refine ⟨fun t ht => ?_, fun h => by omega⟩
      split
      · rfl
      · rw [testBit_eq_false_of_lt_two_pow hbyte (by omega)]
        simp only [Bool.false_eq, decide_eq_false_iff_not, not_and]
        omega

/-- **The packed data bytes.** Started at coil `c` with `coil_check = pos = c`,
and with every byte but the last full, bit `t` of byte `k` is coil
`c + 8k + t`. -/
theorem forceMultipleCoilsData_testBit (coilCount : Int) (dataSrc : List UInt8) :
    ∀ (m c : Nat), (c : Int) + 8 * m ≤ coilCount + 7 → ∀ k t, k < m → t < 8 →
      ((forceMultipleCoilsData coilCount dataSrc m c c).getD k 0).toNat.testBit t =
        decide (((c + 8 * k + t : Nat) : Int) < coilCount ∧ dataSrc.getD (c + 8 * k + t) 0 ≠ 0) := by
  intro m
  induction m with
  | zero => intro _ _ _ _ hk; omega
  | succ m ih =>
    intro c hc k t hk ht
    obtain ⟨hbits, hnext⟩ := forceMultipleCoilsByte_spec coilCount dataSrc 8 0 c c (Nat.le_refl _)
      (by decide)
    simp only [forceMultipleCoilsData]
    cases k with
    | zero =>
      rw [List.getD_cons_zero, hbits t ht, if_neg (by omega), show t - (8 - 8) = t by omega,
        Nat.mul_zero, Nat.add_zero, Int.natCast_add]
    | succ k =>
      obtain ⟨h1, h2⟩ := hnext (by omega)
      rw [List.getD_cons_succ, h1, h2, show (c : Int) + ((8 : Nat) : Int) = ((c + 8 : Nat) : Int) by push_cast; rfl,
        ih (c + 8) (by push_cast; omega) k t (by omega) ht,
        show c + 8 + 8 * k + t = c + 8 * (k + 1) + t by omega]

/-! ## Unpacking and repacking -/

/-- What `set_bits_from_bytes` leaves in entry `j`, started `d` entries after
`address`: the bit of `tab_byte` for `j - address` inside the range it writes,
the old entry outside. -/
theorem setBitsFromBytesLoop_apply (address : Nat) (tabByte : List UInt8) :
    ∀ (n d : Nat) (dest : Nat → UInt8) (j : Nat),
      setBitsFromBytesLoop address tabByte n (address + d) (d % 8) dest j =
        if address + d ≤ j ∧ j < address + d + n then
          (if (tabByte.getD ((j - address) / 8) 0).toNat.testBit ((j - address) % 8) then ON else OFF)
        else dest j := by
  intro n
  induction n with
  | zero => intro d dest j; rw [if_neg (by omega)]; rfl
  | succ n ih =>
    intro d dest j
    simp only [setBitsFromBytesLoop]
    rw [show address + d + 1 = address + (d + 1) by omega, show (d % 8 + 1) % 8 = (d + 1) % 8 by omega,
      ih (d + 1)]
    by_cases hj : j = address + d
    · subst hj
      have hout : ¬(address + (d + 1) ≤ address + d ∧ address + d < address + (d + 1) + n) := by omega
      have hin : address + d ≤ address + d ∧ address + d < address + d + (n + 1) := by omega
      simp only [hout, hin, and_self, if_false, if_true, Nat.add_sub_cancel_left]
      exact if_congr (and_shiftLeft_one_ne_zero _ (Nat.mod_lt d (by decide))) rfl rfl
    · have hin : (address + (d + 1) ≤ j ∧ j < address + (d + 1) + n) ↔
          (address + d ≤ j ∧ j < address + d + (n + 1)) := by omega
      simp only [hin, hj, if_false]

/-- What `set_bits_from_byte` leaves in entry `j`: bit `j - address` of the
value inside the eight entries it writes, the old entry outside. -/
theorem setBitsFromByteLoop_apply (address : Nat) (value : UInt8) :
    ∀ (n i : Nat) (dest : Nat → UInt8) (j : Nat), i + n ≤ 8 →
      setBitsFromByteLoop address value n i dest j =
        if address + i ≤ j ∧ j < address + i + n then
          (if value.toNat.testBit (j - address) then ON else OFF)
        else dest j := by
  intro n
  induction n with
  | zero => intro i dest j _; rw [if_neg (by omega)]; rfl
  | succ n ih =>
    intro i dest j hn
    simp only [setBitsFromByteLoop]
    rw [ih (i + 1) _ j (by omega)]
    by_cases hj : j = address + i
    · subst hj
      have hout : ¬(address + (i + 1) ≤ address + i ∧ address + i < address + (i + 1) + n) := by omega
      have hin : address + i ≤ address + i ∧ address + i < address + i + (n + 1) := by omega
      simp only [hout, hin, and_self, if_false, if_true, Nat.add_sub_cancel_left]
      exact if_congr (and_shiftLeft_one_ne_zero _ (by omega)) rfl rfl
    · have hin : (address + (i + 1) ≤ j ∧ j < address + (i + 1) + n) ↔
          (address + i ≤ j ∧ j < address + i + (n + 1)) := by omega
      simp only [hin, hj, if_false]

/-- Bit `g` of the byte `get_byte_from_bits` gathers from `ON`/`OFF` entries:
set in the starting value, or entry `address + g` among those read is `ON`. -/
theorem getByteFromBitsLoop_testBit (src : Nat → UInt8) (address : Nat) :
    ∀ (n i : Nat) (value : UInt8), i + n ≤ 8 →
      (∀ t, i ≤ t → t < i + n → (src (address + t)).toNat ≤ 1) → ∀ g,
      (getByteFromBitsLoop src address n i value).toNat.testBit g =
        (value.toNat.testBit g || decide (i ≤ g ∧ g < i + n ∧ (src (address + g)).toNat = 1)) := by
  intro n
  induction n with
  | zero =>
    intro i value _ _ g
    have hnone : ¬(i ≤ g ∧ g < i + 0 ∧ (src (address + g)).toNat = 1) := by omega
    simp only [getByteFromBitsLoop, decide_eq_false hnone, Bool.or_false]
  | succ n ih =>
    intro i value hn hsrc g
    simp only [getByteFromBitsLoop]
    rw [ih (i + 1) _ (by omega) (fun t h1 h2 => hsrc t (by omega) (by omega)),
      testBit_or_shiftLeft value _ (hsrc i (Nat.le_refl _) (by omega)) (by omega)]
    by_cases hg : g = i
    · subst hg; simp
    · have hin : (i + 1 ≤ g ∧ g < i + 1 + n ∧ (src (address + g)).toNat = 1) ↔
          (i ≤ g ∧ g < i + (n + 1) ∧ (src (address + g)).toNat = 1) := by omega
      simp only [hg, decide_False, Bool.false_and, Bool.or_false, decide_eq_decide.mpr hin]

/-! ## The round trip -/

/-- **Coil bits packed by `force_multiple_coils` unpack and repack.** For either
transport, every unit and start address, every count `N ≤ MAX_WRITE_COILS`,
every source of `N` bytes, every table and every address `a`: the request's
byte count is `⌈N / 8⌉` and as many data bytes follow it, bit `t` of byte `k`
set exactly when coil `8k + t` is below `N` and its source is nonzero;
`set_bits_from_bytes(dest, a, N, data)` sets `dest[a + i]` to `ON` exactly for
the nonzero sources and leaves every other entry; and
`get_byte_from_bits(dest, a + 8k, min(8, N - 8k))` gives byte `k` back whenever
`a + 8k` fits its `uint16_t` address. -/
theorem forceMultipleCoils_bits_round_trip (mbParam : TypeCom) (tId : UInt16) (slave startAddr : Int)
    (N : Nat) (hN : (N : Int) ≤ maxWriteCoils) (src : List UInt8) (hsrc : src.length = N)
    (dest : Nat → UInt8) (a : UInt16) :
    let q := (forceMultipleCoilsQuery mbParam tId slave startAddr N src).1
    let data := q.drop (mbParam.headerLength + 7)
    let dest' := setBitsFromBytes dest a (toU16 N) data
    byteAt q (mbParam.headerLength + 6) = (N + 7) / 8 ∧ data.length = (N + 7) / 8 ∧
      (∀ k t, k < (N + 7) / 8 → t < 8 →
        (data.getD k 0).toNat.testBit t = decide (8 * k + t < N ∧ src.getD (8 * k + t) 0 ≠ 0)) ∧
      (∀ i, i < N → (dest' (a.toNat + i) = ON ↔ src.getD i 0 ≠ 0)) ∧
      (∀ j, j < a.toNat ∨ a.toNat + N ≤ j → dest' j = dest j) ∧
      (∀ k, k < (N + 7) / 8 → a.toNat + 8 * k < 65536 →
        getByteFromBits dest' (toU16 (a.toNat + 8 * k : Nat)) (min 8 ((N : Int) - 8 * k)) =
          data.getD k 0) := by
  intro q data dest'
  have hc : ¬((N : Int) > maxWriteCoils) := by omega
  have hN' : N ≤ 1968 := by rw [maxWriteCoils] at hN; omega
  have hk : (N : Int).tdiv 8 + (if (N : Int).tmod 8 ≠ 0 then 1 else 0) = (((N + 7) / 8 : Nat) : Int) := by
    rw [Int.tdiv_eq_ediv (by omega) (by decide), Int.tmod_eq_emod (by omega) (by decide)]
    split <;> omega
  obtain ⟨pre, hpre, hq⟩ : ∃ pre : List UInt8, pre.length = mbParam.headerLength + 6 ∧
      q = pre ++ toU8 (((N + 7) / 8 : Nat) : Int) :: forceMultipleCoilsData N src ((N + 7) / 8) 0 0 :=
    ⟨_, length_buildQueryPacket mbParam tId (toU8 slave) (toU8 fcForceMultipleCoils) (toU16 startAddr)
      (toU16 N), by simp only [q, forceMultipleCoilsQuery, if_neg hc, hk, Int.toNat_ofNat]⟩
  have hdata : data = forceMultipleCoilsData N src ((N + 7) / 8) 0 0 := by
    rw [show data = q.drop (mbParam.headerLength + 7) from rfl, hq, ← List.singleton_append,
      ← List.append_assoc, List.drop_left' (by simp [hpre])]
  -- the packed bytes
  have hpack : ∀ k t, k < (N + 7) / 8 → t < 8 →
      (data.getD k 0).toNat.testBit t = decide (8 * k + t < N ∧ src.getD (8 * k + t) 0 ≠ 0) := by
    intro k t hk ht
    rw [hdata]
    simpa only [Nat.zero_add, Int.ofNat_lt] using
      forceMultipleCoilsData_testBit N src ((N + 7) / 8) 0 (by omega) k t hk ht
  -- the table `set_bits_from_bytes` leaves
  have hset : ∀ j, dest' j = if a.toNat ≤ j ∧ j < a.toNat + N then
      (if (data.getD ((j - a.toNat) / 8) 0).toNat.testBit ((j - a.toNat) % 8) then ON else OFF)
      else dest j := by
    intro j
    have h16 : (toU16 (N : Int)).toNat = N := by rw [toU16_toNat]; omega
    have := setBitsFromBytesLoop_apply a.toNat data N 0 dest j
    rw [Nat.add_zero, Nat.zero_mod] at this
    rw [← this, ← h16]
    rfl
  have hentry : ∀ i, i < N → dest' (a.toNat + i) = if src.getD i 0 ≠ 0 then ON else OFF := by
    intro i hi
    rw [hset, if_pos (by omega), Nat.add_sub_cancel_left,
      hpack (i / 8) (i % 8) (by omega) (Nat.mod_lt _ (by decide)), Nat.div_add_mod]
    simp [hi]
  refine ⟨?_, by rw [hdata, length_forceMultipleCoilsData], hpack, fun i hi => ?_,
    fun j hj => by rw [hset, if_neg (by omega)], fun k hk ha => ?_⟩
  · rw [hq, show mbParam.headerLength + 6 = pre.length from hpre.symm, byteAt_append_cons,
      toU8_natCast_toNat]
    omega
  · rw [hentry i hi]
    by_cases hs : src.getD i 0 ≠ 0
    · rw [if_pos hs]; exact iff_of_true rfl hs
    · rw [if_neg hs]; exact iff_of_false (by decide) hs
  · -- `get_byte_from_bits` reads back byte `k`
    have hn : min 8 ((N : Int) - 8 * k) = ((min 8 (N - 8 * k) : Nat) : Int) := by omega
    have haddr : (toU16 ((a.toNat + 8 * k : Nat) : Int)).toNat = a.toNat + 8 * k := by
      rw [toU16_toNat]; omega
    simp only [getByteFromBits, hn, if_neg (show ¬(((min 8 (N - 8 * k) : Nat) : Int) > 8) by omega),
      Int.toNat_ofNat, haddr]
    apply UInt8.toNat.inj
    apply Nat.eq_of_testBit_eq
    intro g
    rw [getByteFromBitsLoop_testBit dest' _ _ 0 0 (by omega) (fun t _ ht => by
      rw [Nat.add_assoc, hentry _ (by omega)]; split <;> decide) g,
      show (0 : UInt8).toNat = 0 from rfl, Nat.zero_testBit, Bool.false_or]
    by_cases hin : g < 8 ∧ 8 * k + g < N
    · rw [hpack k g hk hin.1, Nat.add_assoc, hentry _ hin.2]
      have hg' : g < min 8 (N - 8 * k) := by omega
      by_cases hs : src.getD (8 * k + g) 0 = 0 <;>
        simp [hs, hin, hg', ON, OFF, -List.getD_eq_getElem?_getD]
    · -- past the coils read, both bits are clear
      have hbyte : (data.getD k 0).toNat.testBit g = false := by
        by_cases hg : g < 8
        · rw [hpack k g hk hg]
          exact decide_eq_false (by omega)
        · have h256 : (data.getD k 0).toNat < 2 ^ 8 := (data.getD k 0).toBitVec.isLt
          exact testBit_eq_false_of_lt_two_pow h256 (by omega)
      rw [hbyte]
      exact decide_eq_false (by omega)

/-- Three coils, `ON`, `OFF`, `ON`, packed into `0x05` and read back. -/
theorem forceMultipleCoils_bits_round_trip_three :
    let data := (forceMultipleCoilsQuery .rtu 0 1 0 3 [1, 0, 1]).1.drop 7
    data = [0x05] ∧
      getByteFromBits (setBitsFromBytes (fun _ => OFF) 0 (toU16 3) data) (toU16 (0 + 8 * 0 : Nat))
        (min 8 (3 - 8 * 0)) = data.getD 0 0 := by
  obtain ⟨-, -, -, -, -, hget⟩ := forceMultipleCoils_bits_round_trip .rtu 0 1 0 3 (by decide) [1, 0, 1] rfl
    (fun _ => OFF) 0
  exact ⟨by decide, hget 0 (by decide) (by decide)⟩

/-- **`set_bits_from_byte` is `set_bits_from_bytes` on one byte, and
`get_byte_from_bits` reads it back.** For every table, address and value,
`set_bits_from_byte(dest, address, value)` leaves the table
`set_bits_from_bytes(dest, address, 8, {value})` leaves, and
`get_byte_from_bits(dest, address, 8)` on it returns `value`. -/
theorem setBitsFromByte_round_trip (dest : Nat → UInt8) (address : UInt16) (value : UInt8) :
    setBitsFromByte dest address value = setBitsFromBytes dest address 8 [value] ∧
      getByteFromBits (setBitsFromByte dest address value) address 8 = value := by
  have hset : ∀ j, setBitsFromByte dest address value j =
      if address.toNat ≤ j ∧ j < address.toNat + 8 then
        (if value.toNat.testBit (j - address.toNat) then ON else OFF) else dest j := fun j =>
    setBitsFromByteLoop_apply address.toNat value 8 0 dest j (by decide)
  refine ⟨funext fun j => ?_, ?_⟩
  · have h := setBitsFromBytesLoop_apply address.toNat [value] 8 0 dest j
    rw [Nat.add_zero, Nat.zero_mod] at h
    rw [hset, show setBitsFromBytes dest address 8 [value] j = _ from h]
    by_cases hin : address.toNat ≤ j ∧ j < address.toNat + 8
    · rw [if_pos hin, if_pos hin, Nat.div_eq_of_lt (by omega), Nat.mod_eq_of_lt (by omega)]
      rfl
    · rw [if_neg hin, if_neg hin]
  · apply UInt8.toNat.inj
    apply Nat.eq_of_testBit_eq
    intro g
    simp only [getByteFromBits, show ¬((8 : Int) > 8) by decide, if_false, show (8 : Int).toNat = 8 from rfl]
    rw [getByteFromBitsLoop_testBit _ address.toNat 8 0 0 (by decide) (fun t _ ht => by
      rw [hset, if_pos (by omega)]; split <;> decide) g,
      show (0 : UInt8).toNat = 0 from rfl, Nat.zero_testBit, Bool.false_or]
    by_cases hg : g < 8
    · rw [hset, if_pos (by omega), Nat.add_sub_cancel_left]
      by_cases hb : value.toNat.testBit g <;> simp [hb, hg, ON, OFF]
    · have h256 : value.toNat < 2 ^ 8 := value.toBitVec.isLt
      rw [testBit_eq_false_of_lt_two_pow h256 (by omega)]
      exact decide_eq_false (by omega)

/-- Nine coils unpacked at address `0xFFFF`, the ninth `ON`: it lands at
`dest[0x10007]`, but `get_byte_from_bits(dest, 0xFFFF + 8, 1)` is called at
address 7 and returns 0 instead of the packed `0x01`. -/
theorem getByteFromBits_address_wrap :
    let data := (forceMultipleCoilsQuery .rtu 0 1 0 9 [0, 0, 0, 0, 0, 0, 0, 0, 1]).1.drop 7
    let dest := setBitsFromBytes (fun _ => OFF) 65535 (toU16 9) data
    data = [0x00, 0x01] ∧ dest (65535 + 8) = ON ∧
      getByteFromBits dest (toU16 (65535 + 8 * 1 : Nat)) (min 8 (9 - 8 * 1)) = 0x00 := by
  decide

end Modbus
