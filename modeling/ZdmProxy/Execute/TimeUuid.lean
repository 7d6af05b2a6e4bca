import ZdmProxy.Lib.Calls

/-!
# Time UUIDs

`timeUuidGeneratorImpl` (`timeuuid.go`) generates the version-1 UUIDs that stand for `now()`
calls: the number of 100-nanosecond intervals since the Gregorian epoch 1582-10-15T00:00Z, the
low bits of an atomic counter as the clock sequence, and a node id drawn once per generator.

A clock reading is Go's `time.Time` as `getTime` reads it, Unix seconds and the nanosecond
within the second. `getTime` computes on `time.Duration`, a 64-bit integer whose differences,
products and sums wrap; the wrap-around is explicit here (`wrapInt64`). The masks and shifts
that `newTimeUuid` applies to its `int64` timestamp are, in two's complement, remainders and
floor divisions by powers of two, and are written so. The two statements of Go that clear and
set the version bits of byte 6, and the two that clear and set the variant bits of byte 8, are
`stampVersion` and `stampVariant`.

The fields of the result are read as RFC 4122 lays them out (`UuidFields`). Uniqueness is a
property of the generator under concurrent calls: the only shared state is the counter, so a
call is modelled by its two steps, the atomic increment and the reading of the clock, and any
interleaving of the steps of many calls is a run of `GeneratorStep`.
-/

namespace ZdmProxy.Execute

/-- `time.Time` as `getTime` reads it: `Unix()` and `Nanosecond()`. -/
structure Time where
  unixSeconds : Int
  nanosecond : Nat
  nanosecond_lt : nanosecond < 1000000000

/-- `gregorianCalendarTime`: 1582-10-15T00:00:00Z. -/
def gregorianCalendarTime : Time := ⟨-12219292800, 0, by decide⟩

/-- The `int64` a mathematical integer wraps to. -/
def wrapInt64 (value : Int) : Int := (value + 2 ^ 63) % 2 ^ 64 - 2 ^ 63

/-- `getTime`: the 100-nanosecond intervals since the Gregorian epoch, counted apart for the
seconds and the nanoseconds so that the nanoseconds of the whole span never overflow. -/
def getTime (nowUtc : Time) : Int :=
  let nowSeconds := nowUtc.unixSeconds
  let nowNanoseconds : Int := nowUtc.nanosecond
  let gregorianSeconds := gregorianCalendarTime.unixSeconds
  let gregorianNanoseconds : Int := gregorianCalendarTime.nanosecond
  -- `time.Second / 100` is ten million nanoseconds
  let timestampSeconds := wrapInt64 (wrapInt64 (nowSeconds - gregorianSeconds) * 10000000)
  let timestampNanoseconds := (wrapInt64 (nowNanoseconds - gregorianNanoseconds)).tdiv 100
  wrapInt64 (timestampSeconds + timestampNanoseconds)

/-- `binary.BigEndian.PutUint32`. -/
def putUint32 (value : UInt32) : List UInt8 :=
  [(value >>> 24).toUInt8, (value >>> 16).toUInt8, (value >>> 8).toUInt8, value.toUInt8]

/-- `binary.BigEndian.PutUint16`. -/
def putUint16 (value : UInt16) : List UInt8 := [(value >>> 8).toUInt8, value.toUInt8]

/-- `uuid[6] &= 0x0F; uuid[6] |= 0x10`: version 1. -/
def stampVersion (byte : UInt8) : UInt8 := (byte &&& 0x0F) ||| 0x10

/-- `uuid[8] &= 0x3F; uuid[8] |= 0x80`: the IETF variant. -/
def stampVariant (byte : UInt8) : UInt8 := (byte &&& 0x3F) ||| 0x80

/-- `newTimeUuid`: the three timestamp fields, the clock sequence and the node id, big-endian,
with the version and variant bits stamped over the high timestamp and clock sequence bytes. -/
def newTimeUuid (now : Int) (clockSeq : UInt16) (nodeId : Vector UInt8 6) : List UInt8 :=
  let timeLow : UInt32 := .ofNat (now % 2 ^ 32).toNat
  let timeMid : UInt16 := .ofNat (now / 2 ^ 32 % 2 ^ 16).toNat
  let timeHi : UInt16 := .ofNat (now / 2 ^ 48 % 2 ^ 12).toNat
  putUint32 timeLow ++ putUint16 timeMid ++
    [stampVersion (timeHi >>> 8).toUInt8, timeHi.toUInt8,
      stampVariant (clockSeq >>> 8).toUInt8, clockSeq.toUInt8] ++ nodeId.toList

/-! ## The fields of a version-1 UUID

The fields are read as RFC 4122 lays them out. -/

namespace UuidFields

/-- The `index`-th byte as a number. -/
def byte (uuid : List UInt8) (index : Nat) : Nat := (uuid.getD index 0).toNat

/-- The 60-bit timestamp: the low nibble of byte 6 and byte 7, then bytes 4 and 5, then bytes 0
to 3, most significant first. -/
def timestamp (uuid : List UInt8) : Nat :=
  byte uuid 6 % 16 * 2 ^ 56 + byte uuid 7 * 2 ^ 48 + byte uuid 4 * 2 ^ 40 +
    byte uuid 5 * 2 ^ 32 + byte uuid 0 * 2 ^ 24 + byte uuid 1 * 2 ^ 16 + byte uuid 2 * 2 ^ 8 +
    byte uuid 3

/-- The version: the high nibble of byte 6. -/
def version (uuid : List UInt8) : Nat := byte uuid 6 / 16

/-- The variant bits: the two high bits of byte 8, `0b10` for the IETF variant. -/
def variant (uuid : List UInt8) : Nat := byte uuid 8 / 64

/-- The 14-bit clock sequence: the low six bits of byte 8 and byte 9. -/
def clockSequence (uuid : List UInt8) : Nat := byte uuid 8 % 64 * 256 + byte uuid 9

/-- The node id: bytes 10 to 15. -/
def node (uuid : List UInt8) : List UInt8 := uuid.drop 10

end UuidFields

/-- The whole 100-nanosecond intervals from the Gregorian epoch to a later reading. -/
def intervalsSinceGregorian (now : Time) : Int :=
  ((now.unixSeconds - gregorianCalendarTime.unixSeconds) * 1000000000 + now.nanosecond) / 100

/-! ## Stamps and bytes -/

theorem toNat_stampVersion (byte : UInt8) : (stampVersion byte).toNat = 16 + byte.toNat % 16 := by
  have lowBits : byte.toNat &&& 15 = byte.toNat % 16 := Nat.and_two_pow_sub_one_eq_mod _ 4
  have setBit : 2 ^ 4 * 1 + byte.toNat % 16 = 2 ^ 4 * 1 ||| byte.toNat % 16 :=
    Nat.two_pow_add_eq_or_of_lt (Nat.mod_lt _ (by decide)) 1
  have stamped : (stampVersion byte).toNat = byte.toNat &&& 15 ||| 16 := by
    simp [stampVersion, UInt8.toNat_or, UInt8.toNat_and]
  rw [stamped, lowBits, Nat.lor_comm]
  simpa using setBit.symm

theorem toNat_stampVariant (byte : UInt8) : (stampVariant byte).toNat = 128 + byte.toNat % 64 := by
  have lowBits : byte.toNat &&& 63 = byte.toNat % 64 := Nat.and_two_pow_sub_one_eq_mod _ 6
  have setBit : 2 ^ 7 * 1 + byte.toNat % 64 = 2 ^ 7 * 1 ||| byte.toNat % 64 :=
    Nat.two_pow_add_eq_or_of_lt (by omega) 1
  have stamped : (stampVariant byte).toNat = byte.toNat &&& 63 ||| 128 := by
    simp [stampVariant, UInt8.toNat_or, UInt8.toNat_and]
  rw [stamped, lowBits, Nat.lor_comm]
  simpa using setBit.symm

/-- The bytes of a big-endian `uint32` put back together. -/
theorem putUint32_value (value : UInt32) :
    (putUint32 value).map UInt8.toNat = [value.toNat / 2 ^ 24 % 256, value.toNat / 2 ^ 16 % 256,
      value.toNat / 2 ^ 8 % 256, value.toNat % 256] := by
  simp [putUint32, UInt32.toNat_toUInt8, UInt32.toNat_shiftRight, Nat.shiftRight_eq_div_pow]

theorem putUint16_value (value : UInt16) :
    (putUint16 value).map UInt8.toNat = [value.toNat / 2 ^ 8 % 256, value.toNat % 256] := by
  simp [putUint16, UInt16.toNat_toUInt8, UInt16.toNat_shiftRight, Nat.shiftRight_eq_div_pow]

/-! ## The timestamp of a clock reading -/

theorem wrapInt64_of_lt {value : Int} (low : -2 ^ 63 ≤ value) (high : value < 2 ^ 63) :
    wrapInt64 value = value := by
  unfold wrapInt64
  rw [Int.emod_eq_of_lt (by omega) (by omega)]
  omega

/-- From the Gregorian epoch to the 60-bit limit no `Duration` wraps, and `getTime` counts the
whole 100-nanosecond intervals. -/
theorem getTime_eq {now : Time} (after : gregorianCalendarTime.unixSeconds ≤ now.unixSeconds)
    (below : intervalsSinceGregorian now < 2 ^ 60) : getTime now = intervalsSinceGregorian now := by
  have nanos := now.nanosecond_lt
  -- a second is ten million intervals, so the intervals split into seconds and nanoseconds
  have split : intervalsSinceGregorian now =
      (now.unixSeconds - gregorianCalendarTime.unixSeconds) * 10000000 +
        (now.nanosecond : Int) / 100 := by
    unfold intervalsSinceGregorian
    omega
  have seconds : wrapInt64 (now.unixSeconds - gregorianCalendarTime.unixSeconds) =
      now.unixSeconds - gregorianCalendarTime.unixSeconds := wrapInt64_of_lt (by omega) (by omega)
  have scaled : wrapInt64 ((now.unixSeconds - gregorianCalendarTime.unixSeconds) * 10000000) =
      (now.unixSeconds - gregorianCalendarTime.unixSeconds) * 10000000 :=
    wrapInt64_of_lt (by omega) (by omega)
  have nanoseconds : (wrapInt64 ((now.nanosecond : Int) - (0 : Nat))).tdiv 100 =
      (now.nanosecond : Int) / 100 := by
    rw [Int.natCast_zero, Int.sub_zero, wrapInt64_of_lt (by omega) (by omega),
      Int.tdiv_eq_ediv_of_nonneg (by omega)]
  have total : wrapInt64 ((now.unixSeconds - gregorianCalendarTime.unixSeconds) * 10000000 +
      (now.nanosecond : Int) / 100) = intervalsSinceGregorian now := by
    rw [← split]
    exact wrapInt64_of_lt (by omega) (by omega)
  simp only [getTime]
  rw [seconds, scaled, show gregorianCalendarTime.nanosecond = 0 from rfl, nanoseconds, total]

/-! ## The fields of `newTimeUuid` -/

theorem UuidFields.byte_eq_getD (uuid : List UInt8) (index : Nat) :
    UuidFields.byte uuid index = (uuid.map UInt8.toNat).getD index 0 := by
  simp [UuidFields.byte, List.getD_eq_getElem?_getD]
  cases uuid[index]? <;> rfl

/-- The bytes of the timestamp's three pieces, put back together in the order of the timestamp
field, are the pieces. -/
theorem timestamp_bytes_recombine (low mid high : Nat) (lowFits : low < 2 ^ 32)
    (midFits : mid < 2 ^ 16) (highFits : high < 2 ^ 12) :
    high / 2 ^ 8 % 16 * 2 ^ 56 + high % 256 * 2 ^ 48 + mid / 2 ^ 8 % 256 * 2 ^ 40 +
      mid % 256 * 2 ^ 32 + low / 2 ^ 24 % 256 * 2 ^ 24 + low / 2 ^ 16 % 256 * 2 ^ 16 +
      low / 2 ^ 8 % 256 * 2 ^ 8 + low % 256 = low + mid * 2 ^ 32 + high * 2 ^ 48 := by
  omega

/-- A 60-bit timestamp is its low 32 bits, its next 16 bits and its high 12 bits. -/
theorem toNat_timestamp_pieces {now : Int} (after : 0 ≤ now) (below : now < 2 ^ 60) :
    (now % 2 ^ 32).toNat + (now / 2 ^ 32 % 2 ^ 16).toNat * 2 ^ 32 +
      (now / 2 ^ 48 % 2 ^ 12).toNat * 2 ^ 48 = now.toNat := by
  omega

section Fields

variable (seq : UInt16) (node : Vector UInt8 6)

/-- The bytes of `newTimeUuid` as numbers: the timestamp's low 32 bits, its next 16 bits, its
12 high bits under the version, the clock sequence under the variant, and the node id. -/
theorem newTimeUuid_bytes (now : Int) :
    (newTimeUuid now seq node).map UInt8.toNat =
      [(now % 2 ^ 32).toNat / 2 ^ 24 % 256, (now % 2 ^ 32).toNat / 2 ^ 16 % 256,
        (now % 2 ^ 32).toNat / 2 ^ 8 % 256, (now % 2 ^ 32).toNat % 256,
        (now / 2 ^ 32 % 2 ^ 16).toNat / 2 ^ 8 % 256, (now / 2 ^ 32 % 2 ^ 16).toNat % 256,
        16 + (now / 2 ^ 48 % 2 ^ 12).toNat / 2 ^ 8 % 16, (now / 2 ^ 48 % 2 ^ 12).toNat % 256,
        128 + seq.toNat / 2 ^ 8 % 64, seq.toNat % 256] ++ node.toList.map UInt8.toNat := by
  have lowFits : (now % 2 ^ 32).toNat < 2 ^ 32 := by omega
  have midFits : (now / 2 ^ 32 % 2 ^ 16).toNat < 2 ^ 16 := by omega
  have highFits : (now / 2 ^ 48 % 2 ^ 12).toNat < 2 ^ 16 := by omega
  simp [newTimeUuid, putUint32, putUint16, toNat_stampVersion, toNat_stampVariant,
    UInt32.toNat_toUInt8, UInt32.toNat_shiftRight, Nat.shiftRight_eq_div_pow,
    UInt16.toNat_toUInt8, UInt16.toNat_shiftRight]
  omega

theorem length_newTimeUuid (now : Int) : (newTimeUuid now seq node).length = 16 := by
  simpa using congrArg List.length (newTimeUuid_bytes seq node now)

/-- A timestamp in the 60-bit range is the UUID's timestamp field. -/
theorem timestamp_newTimeUuid {now : Int} (after : 0 ≤ now) (below : now < 2 ^ 60) :
    UuidFields.timestamp (newTimeUuid now seq node) = now.toNat := by
  simp only [UuidFields.timestamp, UuidFields.byte_eq_getD, newTimeUuid_bytes, List.cons_append,
    List.getD_cons_succ, List.getD_cons_zero, Nat.add_mod_left, Nat.mod_mod]
  rw [timestamp_bytes_recombine _ _ _ (by omega) (by omega) (by omega),
    toNat_timestamp_pieces after below]

theorem version_newTimeUuid (now : Int) : UuidFields.version (newTimeUuid now seq node) = 1 := by
  simp only [UuidFields.version, UuidFields.byte_eq_getD, newTimeUuid_bytes]
  simp

theorem variant_newTimeUuid (now : Int) : UuidFields.variant (newTimeUuid now seq node) = 2 := by
  simp only [UuidFields.variant, UuidFields.byte_eq_getD, newTimeUuid_bytes]
  simp
  omega

theorem clockSequence_newTimeUuid (now : Int) :
    UuidFields.clockSequence (newTimeUuid now seq node) = seq.toNat % 2 ^ 14 := by
  simp only [UuidFields.clockSequence, UuidFields.byte_eq_getD, newTimeUuid_bytes]
  simp
  omega

theorem node_newTimeUuid (now : Int) : UuidFields.node (newTimeUuid now seq node) = node.toList := by
  apply List.map_injective_iff.mpr (fun _ _ same => UInt8.toNat_inj.mp same)
  rw [UuidFields.node, List.map_drop, newTimeUuid_bytes]
  simp

end Fields

/-! ## The generator under concurrent calls -/

/-- `timeUuidGeneratorImpl`: the node id drawn when the generator is made, and the counter whose
low bits are the clock sequences. -/
structure TimeUuidGenerator where
  nodeID : Vector UInt8 6
  clockSeq : UInt32

/-- `GetTimeUuid` with `getTimeAndClockSeq`, for a call no other call interleaves with: the
atomic increment, then the clock reading `now`. -/
def TimeUuidGenerator.getTimeUuid (generator : TimeUuidGenerator) (now : Time) :
    TimeUuidGenerator × List UInt8 :=
  let clockSeq := generator.clockSeq + 1
  ({ generator with clockSeq := clockSeq },
    newTimeUuid (getTime now) clockSeq.toUInt16 generator.nodeID)

/-- Where a `GetTimeUuid` call is: before its atomic increment, holding the clock sequence the
increment gave it, or returned with its UUID. `order` is the position of the call's increment
among all increments: a history variable of the proofs, which the code does not keep. -/
inductive UuidCall where
  | started
  | counted (order : Nat) (clockSeq : UInt16)
  | returned (order : Nat) (uuid : List UInt8)

/-- The generator, the number of increments so far and the calls in flight. -/
structure GeneratorSystem where
  generator : TimeUuidGenerator
  increments : Nat
  calls : List UuidCall

/-- A new generator with no call. -/
def GeneratorSystem.initial (generator : TimeUuidGenerator) : GeneratorSystem :=
  ⟨generator, 0, []⟩

/-- One step of one call: a call starts, increments the shared counter atomically, or reads the
clock, at any reading, and builds its UUID from what it holds. Any interleaving of concurrent
calls is a sequence of these steps. -/
inductive GeneratorStep : GeneratorSystem → GeneratorSystem → Prop
  | start (system : GeneratorSystem) :
      GeneratorStep system { system with calls := system.calls ++ [.started] }
  | increment (system : GeneratorSystem) (before after : List UuidCall) :
      system.calls = before ++ .started :: after →
      GeneratorStep system
        { generator := { system.generator with clockSeq := system.generator.clockSeq + 1 }
          increments := system.increments + 1
          calls := before ++
            .counted system.increments (system.generator.clockSeq + 1).toUInt16 :: after }
  | readClock (system : GeneratorSystem) (before after : List UuidCall) (order : Nat)
      (clockSeq : UInt16) (now : Time) :
      system.calls = before ++ .counted order clockSeq :: after →
      GeneratorStep system
        { system with
          calls := before ++
            .returned order (newTimeUuid (getTime now) clockSeq system.generator.nodeID) :: after }

/-- The systems reachable from a generator. -/
def GeneratorSystem.Reachable (generator : TimeUuidGenerator) (system : GeneratorSystem) : Prop :=
  Relation.ReflTransGen GeneratorStep (GeneratorSystem.initial generator) system

/-- The clock sequence that the `order`-th increment gives a call, from a counter at `start`. -/
def UuidCall.Issued (start : UInt32) (increments : Nat) : UuidCall → Prop
  | .started => True
  | .counted order clockSeq =>
      order < increments ∧ clockSeq.toNat = (start.toNat + order + 1) % 2 ^ 16
  | .returned order uuid =>
      order < increments ∧ UuidFields.clockSequence uuid = (start.toNat + order + 1) % 2 ^ 14

/-- The position of a call's increment, once it has made it. -/
def UuidCall.order? : UuidCall → Option Nat
  | .started => none
  | .counted order _ => some order
  | .returned order _ => some order

/-- The positions of the increments that the calls in flight have made. -/
def orders (calls : List UuidCall) : List Nat := calls.filterMap UuidCall.order?

@[simp] theorem orders_nil : orders [] = [] := rfl

@[simp] theorem orders_append (first second : List UuidCall) :
    orders (first ++ second) = orders first ++ orders second :=
  List.filterMap_append

@[simp] theorem orders_cons_started (calls : List UuidCall) :
    orders (.started :: calls) = orders calls := rfl

@[simp] theorem orders_cons_counted (order : Nat) (clockSeq : UInt16) (calls : List UuidCall) :
    orders (.counted order clockSeq :: calls) = order :: orders calls := rfl

@[simp] theorem orders_cons_returned (order : Nat) (uuid : List UInt8) (calls : List UuidCall) :
    orders (.returned order uuid :: calls) = order :: orders calls := rfl

/-- The invariant of the generator: the counter has moved by one per increment, no two calls
hold the same increment, and every call holds the clock sequence of its increment. -/
structure GeneratorInvariant (start : TimeUuidGenerator) (system : GeneratorSystem) : Prop where
  nodeID : system.generator.nodeID = start.nodeID
  counter : system.generator.clockSeq.toNat = (start.clockSeq.toNat + system.increments) % 2 ^ 32
  ordersNodup : (orders system.calls).Nodup
  issued : ∀ call ∈ system.calls, call.Issued start.clockSeq system.increments

/-- A call keeps its clock sequence while others increment. -/
theorem UuidCall.Issued.succ {start : UInt32} {increments : Nat} {call : UuidCall}
    (issued : call.Issued start increments) : call.Issued start (increments + 1) := by
  cases call with
  | started => trivial
  | counted order clockSeq => exact ⟨Nat.lt_succ_of_lt issued.1, issued.2⟩
  | returned order uuid => exact ⟨Nat.lt_succ_of_lt issued.1, issued.2⟩

namespace GeneratorInvariant

variable {start : TimeUuidGenerator} {system : GeneratorSystem}

/-- The increment gives the call the clock sequence of the counter it leaves. -/
theorem counted_issued (invariant : GeneratorInvariant start system) :
    (UuidCall.counted system.increments (system.generator.clockSeq + 1).toUInt16).Issued
      start.clockSeq (system.increments + 1) := by
  have counter := invariant.counter
  refine ⟨Nat.lt_succ_self _, ?_⟩
  rw [UInt32.toNat_toUInt16, UInt32.toNat_add, counter]
  simp only [UInt32.reduceToNat]
  omega

/-- Every increment a call holds has been made. -/
theorem lt_of_mem_orders (invariant : GeneratorInvariant start system) {order : Nat}
    (held : order ∈ orders system.calls) : order < system.increments := by
  obtain ⟨call, present, isOrder⟩ := List.mem_filterMap.mp held
  have issued := invariant.issued call present
  cases call with
  | started => cases isOrder
  | counted order' clockSeq => exact Option.some_inj.mp isOrder ▸ issued.1
  | returned order' uuid => exact Option.some_inj.mp isOrder ▸ issued.1

/-- Every step of the system keeps the invariant. -/
theorem step (invariant : GeneratorInvariant start system) {next : GeneratorSystem}
    (systemStep : GeneratorStep system next) : GeneratorInvariant start next := by
  cases systemStep with
  | start =>
    refine ⟨invariant.nodeID, invariant.counter, ?_, ?_⟩
    · simpa using invariant.ordersNodup
    intro call present
    rcases List.mem_append.mp present with old | isNew
    · exact invariant.issued call old
    · rw [List.mem_singleton.mp isNew]
      trivial
  | increment before after split =>
    refine ⟨invariant.nodeID, ?_, ?_, ?_⟩
    · have counter := invariant.counter
      show (system.generator.clockSeq + 1).toNat = _
      rw [UInt32.toNat_add, counter]
      simp only [UInt32.reduceToNat]
      omega
    -- the new increment is past every one held, so it is held once
    · have fresh : system.increments ∉ orders system.calls := fun held =>
        Nat.lt_irrefl _ (invariant.lt_of_mem_orders held)
      have nodup := invariant.ordersNodup
      rw [split] at fresh nodup
      simp only [orders_append, orders_cons_started] at fresh nodup
      simp only [orders_append, orders_cons_counted, List.nodup_middle, List.nodup_cons]
      exact ⟨fresh, nodup⟩
    · have issued := invariant.issued
      rw [split] at issued
      exact Calls.forall_mem_replace issued (fun _ issued => issued.succ) invariant.counted_issued
  | readClock before after order clockSeq now split =>
    refine ⟨invariant.nodeID, invariant.counter, ?_, ?_⟩
    · have nodup := invariant.ordersNodup
      rw [split] at nodup
      simpa using nodup
    have issued := invariant.issued
    rw [split] at issued
    have counted : (UuidCall.counted order clockSeq).Issued start.clockSeq system.increments :=
      issued _ (List.mem_append_right _ List.mem_cons_self)
    refine Calls.forall_mem_replace issued (fun _ issued => issued) ⟨counted.1, ?_⟩
    rw [clockSequence_newTimeUuid, counted.2]
    omega

/-- Two calls at different positions hold different increments. -/
theorem order_ne (invariant : GeneratorInvariant start system) {i j : Nat} (different : i ≠ j)
    {first second : UuidCall} (atFirst : system.calls[i]? = some first)
    (atSecond : system.calls[j]? = some second) {order₁ order₂ : Nat}
    (ordered₁ : first.order? = some order₁) (ordered₂ : second.order? = some order₂) :
    order₁ ≠ order₂ := by
  have pairwise := List.pairwise_iff_getElem.mp (List.pairwise_filterMap.mp invariant.ordersNodup)
  obtain ⟨inFirst, rfl⟩ := List.getElem?_eq_some_iff.mp atFirst
  obtain ⟨inSecond, rfl⟩ := List.getElem?_eq_some_iff.mp atSecond
  rcases Nat.lt_or_gt_of_ne different with earlier | later
  · exact pairwise i j inFirst inSecond earlier order₁ ordered₁ order₂ ordered₂
  · exact (pairwise j i inSecond inFirst later order₂ ordered₂ order₁ ordered₁).symm

/-- Two returned calls whose increments lie in one window of 2^14 increments returned different
UUIDs: their clock sequences differ, whatever the clock read. -/
theorem uuid_ne_of_window (invariant : GeneratorInvariant start system) {i j : Nat}
    (different : i ≠ j) {order₁ order₂ window : Nat} {uuid₁ uuid₂ : List UInt8}
    (first : system.calls[i]? = some (.returned order₁ uuid₁))
    (second : system.calls[j]? = some (.returned order₂ uuid₂))
    (inWindow₁ : window ≤ order₁ ∧ order₁ < window + 2 ^ 14)
    (inWindow₂ : window ≤ order₂ ∧ order₂ < window + 2 ^ 14) : uuid₁ ≠ uuid₂ := by
  have distinct := invariant.order_ne different first second rfl rfl
  have issued₁ := invariant.issued _ (List.mem_of_getElem? first)
  have issued₂ := invariant.issued _ (List.mem_of_getElem? second)
  intro same
  have sequences := congrArg UuidFields.clockSequence same
  rw [issued₁.2, issued₂.2] at sequences
  omega

theorem initial (generator : TimeUuidGenerator) :
    GeneratorInvariant generator (GeneratorSystem.initial generator) :=
  ⟨rfl, by simp [GeneratorSystem.initial], List.nodup_nil, fun _ present => by cases present⟩

/-- Every reachable system keeps the invariant. -/
theorem of_reachable (reachable : system.Reachable start) : GeneratorInvariant start system := by
  induction reachable with
  | refl => exact initial start
  | tail _ systemStep inductionHypothesis => exact inductionHypothesis.step systemStep

end GeneratorInvariant

/-- A UUID of a clock reading from the Gregorian epoch on and inside 60 bits is a version-1,
IETF-variant UUID of the reading's 100-ns intervals, the clock sequence's low 14 bits and the
node; and in every interleaving of calls on one generator, calls among 2^14 consecutive
increments return pairwise different UUIDs, whatever the clock readings. -/
theorem timeUuid_fields_and_window_unique (now : Time) (seq : UInt16) (node : Vector UInt8 6)
    (after : gregorianCalendarTime.unixSeconds ≤ now.unixSeconds)
    (below : intervalsSinceGregorian now < 2 ^ 60) :
    (UuidFields.version (newTimeUuid (getTime now) seq node) = 1 ∧
      UuidFields.variant (newTimeUuid (getTime now) seq node) = 2 ∧
      UuidFields.timestamp (newTimeUuid (getTime now) seq node) =
        (intervalsSinceGregorian now).toNat ∧
      UuidFields.clockSequence (newTimeUuid (getTime now) seq node) = seq.toNat % 2 ^ 14 ∧
      UuidFields.node (newTimeUuid (getTime now) seq node) = node.toList) ∧
    ∀ (generator : TimeUuidGenerator) (system : GeneratorSystem), system.Reachable generator →
      ∀ (i j window order₁ order₂ : Nat) (uuid₁ uuid₂ : List UInt8), i ≠ j →
        system.calls[i]? = some (.returned order₁ uuid₁) →
        system.calls[j]? = some (.returned order₂ uuid₂) →
        window ≤ order₁ ∧ order₁ < window + 2 ^ 14 →
        window ≤ order₂ ∧ order₂ < window + 2 ^ 14 → uuid₁ ≠ uuid₂ := by
  have intervals := getTime_eq after below
  have nonnegative : 0 ≤ getTime now := by
    rw [intervals, intervalsSinceGregorian]
    have := now.nanosecond_lt
    omega
  refine ⟨⟨version_newTimeUuid _ _ _, variant_newTimeUuid _ _ _, ?_,
    clockSequence_newTimeUuid _ _ _, node_newTimeUuid _ _ _⟩, ?_⟩
  · rw [timestamp_newTimeUuid seq node nonnegative (intervals ▸ below), intervals]
  · intro generator system reachable i j window order₁ order₂ uuid₁ uuid₂ different first second
      inWindow₁ inWindow₂
    exact (GeneratorInvariant.of_reachable reachable).uuid_ne_of_window different first second
      inWindow₁ inWindow₂

/-- The instant of the generator's test, 2021-11-09T18:13:32.7053706Z, with clock sequence 123 and
node 00:02:04:06:07:08. -/
def specificTime : Time := ⟨1636481612, 705370600, by decide⟩

/-- The generator's test: the UUID is bf928f8a-4188-11ec-807b-000204060708. -/
example : newTimeUuid (getTime specificTime) 123 #v[0, 2, 4, 6, 7, 8] =
    [0xbf, 0x92, 0x8f, 0x8a, 0x41, 0x88, 0x11, 0xec, 0x80, 0x7b, 0, 2, 4, 6, 7, 8] := by
  decide

theorem timeUuid_fields_and_window_unique_specificTime :
    gregorianCalendarTime.unixSeconds ≤ specificTime.unixSeconds ∧
      intervalsSinceGregorian specificTime < 2 ^ 60 ∧
      UuidFields.timestamp (newTimeUuid (getTime specificTime) 123 #v[0, 2, 4, 6, 7, 8]) =
        (intervalsSinceGregorian specificTime).toNat := by
  have after : gregorianCalendarTime.unixSeconds ≤ specificTime.unixSeconds := by decide
  have below : intervalsSinceGregorian specificTime < 2 ^ 60 := by decide
  exact ⟨after, below,
    (timeUuid_fields_and_window_unique specificTime 123 #v[0, 2, 4, 6, 7, 8] after below).1.2.2.1⟩

end ZdmProxy.Execute
