import ItDmaProgram.Bytes

/-!
# The descriptor codec

The six descriptor dataclasses of `it_dma_program.py` and their `to_bytes`, as the source
computes them: the 16-bit control field of `make_control`, the 16-byte image of `pack_desc16`,
the `(addr & 0xFFFFFFF0) | (z & 0xF)` pointer of `pack_ptr_with_z`, and the custom 32-byte
packing of the two Immediate descriptors, which put their pointer at offset 4 and the IT header
at offsets 8 and 12.

A descriptor is a closed sum over the six dataclasses. Each dataclass keeps every field of the
source with its default, `size` included: a hand-built descriptor may carry any size, and the
validator reads it.

* `ITDescriptor.toBytes`, with `length_toBytes` (16 bytes for the `pack_desc16` kinds, 32 for
  the Immediate ones) and `quadletAt_toBytes_zero` (the first quadlet is `reqCount | control << 16`).
* `packPtrWithZ_eq`: the packed pointer is the address cut to bits 31..4 plus `z % 16`.
-/

namespace ItDmaProgram

/-! ## Control field constants -/

/-- `ITCmd`: the command codes in bits 15..12 of the control field. -/
inductive ITCmd where
  | outputMore
  | outputLast
  | storeValue
  deriving DecidableEq, Repr

/-- `ITKey`: bits 10..8. -/
inductive ITKey where
  | standard
  | immediate
  | store
  deriving DecidableEq, Repr

/-- `ITIrq`: bits 5..4. -/
inductive ITIrq where
  | none
  | always
  deriving DecidableEq, Repr

/-- `ITBranch`: bits 3..2. -/
inductive ITBranch where
  | never
  | always
  deriving DecidableEq, Repr

/-- `ITWait`: bits 1..0. -/
inductive ITWait where
  | never
  deriving DecidableEq, Repr

/-- The `IntEnum` values. -/
def ITCmd.toNat : ITCmd → Nat
  | .outputMore => 0x0
  | .outputLast => 0x1
  | .storeValue => 0x8

/-- The `IntEnum` values. -/
def ITKey.toNat : ITKey → Nat
  | .standard => 0x0
  | .immediate => 0x2
  | .store => 0x6

/-- The `IntEnum` values. -/
def ITIrq.toNat : ITIrq → Nat
  | .none => 0x0
  | .always => 0x3

/-- The `IntEnum` values. -/
def ITBranch.toNat : ITBranch → Nat
  | .never => 0x0
  | .always => 0x3

/-- The `IntEnum` values. -/
def ITWait.toNat : ITWait → Nat
  | .never => 0x0

/-- `ITIrq.ALWAYS if flag else ITIrq.NONE`, as every descriptor computes its interrupt bits. -/
def ITIrq.ofBool (flag : Bool) : ITIrq := if flag then .always else .none

/-- `make_control`: the 16-bit control field
`[15:12]=cmd, [11]=s, [10:8]=key, [5:4]=i, [3:2]=b, [1:0]=w`. -/
def makeControl (cmd : ITCmd) (statusWrite : Bool) (key : ITKey) (irq : ITIrq)
    (branch : ITBranch) (wait : ITWait) : Nat :=
  let s := if statusWrite then 1 else 0
  let control := ((cmd.toNat &&& 0xF) <<< 12) ||| ((s &&& 0x1) <<< 11) ||| ((key.toNat &&& 0x7) <<< 8)
  let control := control ||| ((irq.toNat &&& 0x3) <<< 4) ||| ((branch.toNat &&& 0x3) <<< 2) |||
    (wait.toNat &&& 0x3)
  control &&& 0xFFFF

/-! ## Packing -/

/-- `pack_desc16`: `struct.pack("<HHIIHH", …)` of the masked fields. -/
def packDesc16 (reqCount control dataAddress branchAddressWithZ resCount transferStatus : Nat) :
    List UInt8 :=
  leBytes 2 (reqCount &&& 0xFFFF) ++ leBytes 2 (control &&& 0xFFFF) ++
    leBytes 4 (dataAddress &&& 0xFFFFFFFF) ++ leBytes 4 (branchAddressWithZ &&& 0xFFFFFFFF) ++
    leBytes 2 (resCount &&& 0xFFFF) ++ leBytes 2 (transferStatus &&& 0xFFFF)

/-- `pack_ptr_with_z`: the address in bits 31..4, `z` in the low nibble. -/
def packPtrWithZ (addr z : Nat) : Nat := (addr &&& 0xFFFFFFF0) ||| (z &&& 0xF)

/-- `build_it_header_q0`: the first IT header quadlet (speed, tag, channel, tcode, sy). -/
def buildItHeaderQ0 (speed tag channel sy tcode : Nat) : Nat :=
  let q0 := ((speed &&& 0x7) <<< 16) ||| ((tag &&& 0x3) <<< 14) ||| ((channel &&& 0x3F) <<< 8)
  let q0 := q0 ||| ((tcode &&& 0xF) <<< 4) ||| (sy &&& 0xF)
  q0 &&& 0xFFFFFFFF

/-- `build_it_header_q1`: `dataLength` in bits 31..16. -/
def buildItHeaderQ1 (dataLengthBytes : Nat) : Nat :=
  ((dataLengthBytes &&& 0xFFFF) <<< 16) &&& 0xFFFFFFFF

/-! ## The six descriptors -/

/-- `StoreValue`: STORE_VALUE, writes `store_value` to `store_address`; its skip pointer is
followed when the cycle is lost. -/
structure StoreValue where
  size : Nat := 16
  storeValue : Nat := 0
  storeAddress : Nat := 0
  skipAddress : Nat := 0
  skipZ : Nat := 0
  irq : Bool := false
  deriving DecidableEq, Repr

/-- `OutputMoreImmediate`: the IT header carried inline, with a skip pointer. -/
structure OutputMoreImmediate where
  size : Nat := 32
  itQ0 : Nat := 0
  itQ1 : Nat := 0
  skipAddress : Nat := 0
  skipZ : Nat := 0
  irqOnSkip : Bool := false
  deriving DecidableEq, Repr

/-- `OutputLastImmediate`: a terminal carrying the IT header inline, with a branch pointer. -/
structure OutputLastImmediate where
  size : Nat := 32
  itQ0 : Nat := 0
  itQ1 : Nat := 0
  branchAddress : Nat := 0
  branchZ : Nat := 0
  writeStatus : Bool := true
  irqOnComplete : Bool := false
  deriving DecidableEq, Repr

/-- `OutputMore`: a scatter-gather fragment. -/
structure OutputMore where
  size : Nat := 16
  reqCount : Nat := 0
  dataAddress : Nat := 0
  deriving DecidableEq, Repr

/-- `OutputLast`: the terminal fragment, with a branch pointer. -/
structure OutputLast where
  size : Nat := 16
  reqCount : Nat := 0
  dataAddress : Nat := 0
  branchAddress : Nat := 0
  branchZ : Nat := 0
  writeStatus : Bool := true
  irqOnComplete : Bool := false
  deriving DecidableEq, Repr

/-- `OutputLastSkip`: a zero-length terminal, with a branch pointer. -/
structure OutputLastSkip where
  size : Nat := 16
  branchAddress : Nat := 0
  branchZ : Nat := 0
  irqOnComplete : Bool := false
  deriving DecidableEq, Repr

/-- `ITDescriptor`: one of the six dataclasses. -/
inductive ITDescriptor where
  | storeValue (d : StoreValue)
  | outputMoreImmediate (d : OutputMoreImmediate)
  | outputLastImmediate (d : OutputLastImmediate)
  | outputMore (d : OutputMore)
  | outputLast (d : OutputLast)
  | outputLastSkip (d : OutputLastSkip)
  deriving DecidableEq, Repr

namespace ITDescriptor

/-- The `size` field. -/
def size : ITDescriptor → Nat
  | .storeValue d => d.size
  | .outputMoreImmediate d => d.size
  | .outputLastImmediate d => d.size
  | .outputMore d => d.size
  | .outputLast d => d.size
  | .outputLastSkip d => d.size

/-- The control field each `to_bytes` passes to `make_control`. -/
def control : ITDescriptor → Nat
  | .storeValue d => makeControl .storeValue false .store (.ofBool d.irq) .never .never
  | .outputMoreImmediate d => makeControl .outputMore false .immediate (.ofBool d.irqOnSkip) .never .never
  | .outputLastImmediate d =>
    makeControl .outputLast d.writeStatus .immediate (.ofBool d.irqOnComplete) .always .never
  | .outputMore _ => makeControl .outputMore false .standard .none .never .never
  | .outputLast d => makeControl .outputLast d.writeStatus .standard (.ofBool d.irqOnComplete) .always .never
  | .outputLastSkip d => makeControl .outputLast true .standard (.ofBool d.irqOnComplete) .always .never

/-- What the source writes in the reqCount position of the first quadlet, before the
16-bit mask: `store_value` for STORE_VALUE, 8 for the Immediate ones, 0 for the skip terminal. -/
def reqCount : ITDescriptor → Nat
  | .storeValue d => d.storeValue
  | .outputMoreImmediate _ => 8
  | .outputLastImmediate _ => 8
  | .outputMore d => d.reqCount
  | .outputLast d => d.reqCount
  | .outputLastSkip _ => 0

/-- The branch or skip pointer word the codec packs (0 where `OutputMore` reserves it). -/
def pointerWord : ITDescriptor → Nat
  | .storeValue d => packPtrWithZ d.skipAddress d.skipZ
  | .outputMoreImmediate d => packPtrWithZ d.skipAddress d.skipZ
  | .outputLastImmediate d => packPtrWithZ d.branchAddress d.branchZ
  | .outputMore _ => 0
  | .outputLast d => packPtrWithZ d.branchAddress d.branchZ
  | .outputLastSkip d => packPtrWithZ d.branchAddress d.branchZ

/-- `struct.pack("<IIII", reqCount | control << 16, pointer, it_q0, it_q1) + 16 zero bytes`: the
custom packing of the two Immediate descriptors. -/
def packImmediate (control pointer itQ0 itQ1 : Nat) : List UInt8 :=
  leBytes 4 ((8 &&& 0xFFFF) ||| ((control &&& 0xFFFF) <<< 16)) ++ leBytes 4 pointer ++
    leBytes 4 (itQ0 &&& 0xFFFFFFFF) ++ leBytes 4 (itQ1 &&& 0xFFFFFFFF) ++ List.replicate 16 0

/-- `to_bytes`. -/
def toBytes (d : ITDescriptor) : List UInt8 :=
  match d with
  | .storeValue s =>
    packDesc16 (s.storeValue &&& 0xFFFF) d.control s.storeAddress d.pointerWord 0 0
  | .outputMoreImmediate o => packImmediate d.control d.pointerWord o.itQ0 o.itQ1
  | .outputLastImmediate o => packImmediate d.control d.pointerWord o.itQ0 o.itQ1
  | .outputMore o => packDesc16 o.reqCount d.control o.dataAddress 0 0 0
  | .outputLast o => packDesc16 o.reqCount d.control o.dataAddress d.pointerWord 0 0
  | .outputLastSkip _ => packDesc16 0 d.control 0 d.pointerWord 0 0

/-- `isinstance(d, StoreValue)`. -/
def isStoreValue : ITDescriptor → Bool
  | .storeValue _ => true
  | _ => false

/-- The two Immediate descriptors, which occupy 32 bytes. -/
def isImmediate : ITDescriptor → Bool
  | .outputMoreImmediate _ | .outputLastImmediate _ => true
  | _ => false

/-- Where the codec puts the branch or skip pointer: the second quadlet of the two Immediate
descriptors, the third of the others. -/
def pointerOffset : ITDescriptor → Nat
  | .outputMoreImmediate _ | .outputLastImmediate _ => 4
  | _ => 8

/-- The 32-bit words of `to_bytes`, in order. -/
def words (d : ITDescriptor) : List Nat :=
  let w0 := d.reqCount % 65536 + 65536 * d.control
  match d with
  | .storeValue s => [w0, s.storeAddress, d.pointerWord, 0]
  | .outputMoreImmediate o => [w0, d.pointerWord, o.itQ0, o.itQ1, 0, 0, 0, 0]
  | .outputLastImmediate o => [w0, d.pointerWord, o.itQ0, o.itQ1, 0, 0, 0, 0]
  | .outputMore o => [w0, o.dataAddress, 0, 0]
  | .outputLast o => [w0, o.dataAddress, d.pointerWord, 0]
  | .outputLastSkip _ => [w0, 0, d.pointerWord, 0]

end ITDescriptor

/-! ## What the bytes are -/

theorem makeControl_lt (cmd : ITCmd) (s : Bool) (key : ITKey) (irq : ITIrq) (branch : ITBranch)
    (wait : ITWait) : makeControl cmd s key irq branch wait < 65536 := by
  simp only [makeControl, land_0xFFFF]
  exact Nat.mod_lt _ (by decide)

theorem ITDescriptor.control_lt (d : ITDescriptor) : d.control < 65536 := by
  cases d <;> apply makeControl_lt

/-- The packed pointer: the address cut to bits 31..4, and `z` modulo 16 in the low nibble. -/
theorem packPtrWithZ_eq (addr z : Nat) : packPtrWithZ addr z = addr % 4294967296 / 16 * 16 + z % 16 := by
  have hz : z % 2 ^ 4 < 2 ^ 4 := Nat.mod_lt _ (by decide)
  rw [packPtrWithZ, land_0xFFFFFFF0, land_0xF, Nat.mul_comm _ 16, show (16 : Nat) = 2 ^ 4 from rfl]
  exact (Nat.mul_add_lt_is_or hz _).symm

theorem packPtrWithZ_lt (addr z : Nat) : packPtrWithZ addr z < 4294967296 := by
  rw [packPtrWithZ_eq]; omega

/-- The address bits of a packed pointer. -/
theorem packPtrWithZ_land_0xFFFFFFF0 (addr z : Nat) :
    packPtrWithZ addr z &&& 0xFFFFFFF0 = addr % 4294967296 / 16 * 16 := by
  rw [land_0xFFFFFFF0, packPtrWithZ_eq]; omega

/-- The Z nibble of a packed pointer. -/
theorem packPtrWithZ_land_0xF (addr z : Nat) : packPtrWithZ addr z &&& 0xF = z % 16 := by
  rw [land_0xF, packPtrWithZ_eq]; omega

theorem ITDescriptor.pointerWord_lt (d : ITDescriptor) : d.pointerWord < 4294967296 := by
  cases d <;> simp only [pointerWord, packPtrWithZ_lt]; norm_num

theorem packDesc16_eq (r c a b s t : Nat) : packDesc16 r c a b s t =
    quadlets [r % 65536 + 65536 * (c % 65536), a, b, s % 65536 + 65536 * (t % 65536)] := by
  simp only [packDesc16, land_0xFFFF, land_0xFFFFFFFF, quadlets_cons, quadlets_nil, List.append_nil,
    List.append_assoc, ← leBytes_two_append_two, leBytes_two_mod, leBytes_four_mod]

theorem ITDescriptor.packImmediate_eq (c p q0 q1 : Nat) : packImmediate c p q0 q1 =
    quadlets [8 + 65536 * (c % 65536), p, q0, q1, 0, 0, 0, 0] := by
  have h0 : (8 &&& 0xFFFF) ||| ((c &&& 0xFFFF) <<< 16) = 8 + 65536 * (c % 65536) := by
    have h8 : (8 : Nat) < 2 ^ 16 := by decide
    rw [land_0xFFFF, land_0xFFFF, Nat.shiftLeft_eq, Nat.or_comm, Nat.mul_comm,
      show 8 % 65536 = 8 from rfl, ← Nat.mul_add_lt_is_or h8]
    omega
  simp only [packImmediate, h0, land_0xFFFFFFFF, quadlets_cons, quadlets_nil, List.append_nil,
    List.append_assoc, leBytes_four_mod]
  rfl

/-- Every descriptor's bytes are the run of its words. -/
theorem ITDescriptor.toBytes_eq_quadlets (d : ITDescriptor) : d.toBytes = quadlets d.words := by
  have hc := d.control_lt
  cases d <;> simp only [toBytes, words, reqCount, packDesc16_eq, packImmediate_eq,
    Nat.mod_eq_of_lt hc, land_0xFFFF, Nat.zero_mod, Nat.mod_mod, Nat.mul_zero, Nat.add_zero]

@[simp] theorem ITDescriptor.length_toBytes (d : ITDescriptor) :
    d.toBytes.length = if d.isImmediate then 32 else 16 := by
  cases d <;> simp [toBytes_eq_quadlets, words, isImmediate]

/-- The IT header's first quadlet: the fields cut to their widths and summed at their offsets, as
they occupy disjoint bits. -/
theorem buildItHeaderQ0_eq (speed tag channel sy tcode : Nat) :
    buildItHeaderQ0 speed tag channel sy tcode =
      65536 * (speed % 8) + 16384 * (tag % 4) + 256 * (channel % 64) + 16 * (tcode % 16) + sy % 16 := by
  simp only [buildItHeaderQ0, land_0x7, land_0x3, land_0x3F, land_0xF, land_0xFFFFFFFF,
    Nat.shiftLeft_eq, Nat.reducePow]
  rw [@or_eq_add_of_lt (speed % 8 * 65536) (tag % 4 * 16384) 16 (by simp only [Nat.reducePow]; omega)
      (by simp only [Nat.reducePow]; omega),
    @or_eq_add_of_lt _ (channel % 64 * 256) 14 (by simp only [Nat.reducePow]; omega)
      (by simp only [Nat.reducePow]; omega),
    @or_eq_add_of_lt _ (tcode % 16 * 16) 8 (by simp only [Nat.reducePow]; omega)
      (by simp only [Nat.reducePow]; omega),
    @or_eq_add_of_lt _ (sy % 16) 4 (by simp only [Nat.reducePow]; omega)
      (by simp only [Nat.reducePow]; omega)]
  omega

/-- The IT header's second quadlet carries the data length, cut to 16 bits, in its upper half. -/
theorem buildItHeaderQ1_eq (dataLengthBytes : Nat) :
    buildItHeaderQ1 dataLengthBytes = dataLengthBytes % 65536 * 65536 := by
  simp only [buildItHeaderQ1, land_0xFFFF, land_0xFFFFFFFF, Nat.shiftLeft_eq]
  omega

/-- The first word of every descriptor: the reqCount position, cut to 16 bits, under the
control. -/
theorem ITDescriptor.words_zero (d : ITDescriptor) :
    d.words[0]? = some (d.reqCount % 65536 + 65536 * d.control) := by
  cases d <;> rfl

/-- Word `k` of a descriptor, read back from its own bytes. -/
theorem ITDescriptor.quadletAt_toBytes (d : ITDescriptor) {k w : Nat} (hk : d.words[k]? = some w) :
    quadletAt d.toBytes (4 * k) = w % 4294967296 := by
  have h : quadlets d.words <+: d.toBytes.drop 0 := by
    rw [List.drop_zero, toBytes_eq_quadlets]
  simpa using quadletAt_of_drop_quadlets h hk

/-- What a reader finds in an encoded descriptor: the first quadlet is the reqCount position,
cut to 16 bits, under the control word; the quadlet at `pointerOffset` is the pointer word; and
the fourth quadlet of an OUTPUT_MORE-Immediate is its `it_q1`. -/
theorem ITDescriptor.decode (d : ITDescriptor) {bs : List UInt8} {off : Nat}
    (h : d.toBytes <+: bs.drop off) :
    quadletAt bs off = d.reqCount % 65536 + 65536 * d.control ∧
    quadletAt bs (off + d.pointerOffset) = d.pointerWord ∧
    ∀ o, d = .outputMoreImmediate o → quadletAt bs (off + 12) = o.itQ1 % 4294967296 := by
  rw [toBytes_eq_quadlets] at h
  have h0 : quadletAt bs off = (d.reqCount % 65536 + 65536 * d.control) % 4294967296 := by
    simpa using quadletAt_of_drop_quadlets h d.words_zero
  have hp : quadletAt bs (off + d.pointerOffset) = d.pointerWord % 4294967296 := by
    cases d <;> first
      | exact @quadletAt_of_drop_quadlets _ _ _ 1 _ h rfl
      | exact @quadletAt_of_drop_quadlets _ _ _ 2 _ h rfl
  have hc := d.control_lt
  refine ⟨by rw [h0]; omega, by rw [hp, Nat.mod_eq_of_lt d.pointerWord_lt], fun o ho => ?_⟩
  subst ho
  exact @quadletAt_of_drop_quadlets _ _ _ 3 _ h rfl

end ItDmaProgram
