import ItDmaProgram.Codec

/-!
# The program builder

`ITProgramBuilder` and its two construction calls, `add_data_packet` and `add_nodata_packet`,
as the source runs them. A builder owns the list of blocks, the running CIP data-block counter
`dbc` and the payload cursor `payload_offset`; the base address, the payload area at
`base + 0x10000` and the sentinel slot at `base + 0xFF00` are fixed when it is created.

A Python method that raises keeps every mutation made before the raise. The construction
calls therefore return the result (a block, or the exception) together with the builder as
the call leaves it, also when it raised: `add_data_packet` advances `dbc` and the payload
cursor before its fragment checks, and `add_nodata_packet` allocates its payload before it
asks for the sample rate's FDF.

* `DescriptorBlock.zValue`: the block's size in 16-byte units, rounded up.
* `fragmentLoop`: the scatter-gather loop of `add_data_packet`.
* `addDataPacket_eq`, `addNodataPacket_eq`: each call in terms of named pieces (`dataBlock`,
  `nodataBlock`, `advanceData`), and `addDataPacket_cases`: everything `add_data_packet` can do.
-/

namespace ItDmaProgram

/-- `Speed`: the isochronous speed code. -/
inductive Speed where
  | s100
  | s200
  | s400
  | s800
  deriving DecidableEq, Repr

/-- The `IntEnum` values. -/
def Speed.toNat : Speed → Nat
  | .s100 => 0
  | .s200 => 1
  | .s400 => 2
  | .s800 => 3

theorem Speed.toNat_lt (s : Speed) : s.toNat < 4 := by
  cases s <;> decide

/-- `SkipStrategy`: where a lost cycle's skip pointer leads. -/
inductive SkipStrategy where
  | next
  | self
  | sentinel
  deriving DecidableEq, Repr

/-- `BLOCK_SIZE`: 16 bytes per descriptor block. -/
def blockSize : Nat := 16

/-- `DescriptorBlock`: the descriptors of one packet and the address of the first. -/
structure DescriptorBlock where
  descriptors : List ITDescriptor := []
  address : Nat := 0
  deriving DecidableEq, Repr

namespace DescriptorBlock

/-- `z_value`: the total size of the descriptors in 16-byte units, rounded up. -/
def zValue (blk : DescriptorBlock) : Nat := ((blk.descriptors.map ITDescriptor.size).sum + 15) / 16

/-- `to_bytes`: the descriptors' bytes, in order. -/
def toBytes (blk : DescriptorBlock) : List UInt8 := (blk.descriptors.map ITDescriptor.toBytes).flatten

end DescriptorBlock

/-- The exceptions a construction call can raise. -/
inductive ITError where
  /-- `ValueError` from `fdf_for_rate` -/
  | unsupportedSampleRate (sampleRate : Nat)
  /-- `ZeroDivisionError` from `payload_len // fragments` -/
  | zeroDivision
  /-- `ValueError` from the fragment alignment check -/
  | unalignedFragment (fragSize : Nat)
  deriving DecidableEq, Repr

/-- The exception's text. -/
def ITError.message : ITError → String
  | .unsupportedSampleRate r => s!"Unsupported sample rate for FDF: {r}"
  | .zeroDivision => "integer division or modulo by zero"
  | .unalignedFragment s => s!"Fragment size {s} not 4-byte aligned!"

/-- `fdf_for_rate`: the AM824 FDF code of a sample rate (IEC 61883-6). -/
def fdfForRate (sampleRate : Nat) : Except ITError Nat :=
  match sampleRate with
  | 32000 => .ok 0x03
  | 44100 => .ok 0x00
  | 48000 => .ok 0x02
  | 88200 => .ok 0x01
  | 96000 => .ok 0x04
  | 176400 => .ok 0x05
  | 192000 => .ok 0x06
  | r => .error (.unsupportedSampleRate r)

/-- The only exception `fdf_for_rate` raises names the rate. -/
theorem fdfForRate_error {sampleRate : Nat} {e : ITError} (h : fdfForRate sampleRate = .error e) :
    e = .unsupportedSampleRate sampleRate := by
  unfold fdfForRate at h
  split at h <;> cases h
  rfl

/-- The state of an `ITProgramBuilder`. -/
structure ITProgramBuilder where
  baseAddress : Nat
  channel : Nat
  speed : Speed
  sampleRate : Nat
  skipStrategy : SkipStrategy
  blocks : List DescriptorBlock
  dbc : Nat
  payloadOffset : Nat
  deriving DecidableEq, Repr

namespace ITProgramBuilder

/-- `__init__`: an empty program. -/
def new (baseAddress channel : Nat) (speed : Speed) (sampleRate : Nat)
    (skipStrategy : SkipStrategy) : ITProgramBuilder :=
  { baseAddress, channel, speed, sampleRate, skipStrategy, blocks := [], dbc := 0, payloadOffset := 0 }

/-- `payload_base`, set once by `__init__`. -/
def payloadBase (b : ITProgramBuilder) : Nat := b.baseAddress + 0x10000

/-- `sentinel_addr`, set once by `__init__`. -/
def sentinelAddr (b : ITProgramBuilder) : Nat := b.baseAddress + 0xFF00

/-- `_next_block_address`: the base for the first block, else right after the last one. -/
def nextBlockAddress (b : ITProgramBuilder) : Nat :=
  match b.blocks.getLast? with
  | none => b.baseAddress
  | some last => last.address + last.zValue * blockSize

theorem nextBlockAddress_of_getLast? {b : ITProgramBuilder} {last : DescriptorBlock}
    (h : b.blocks.getLast? = some last) : b.nextBlockAddress = last.address + last.zValue * blockSize := by
  simp [nextBlockAddress, h]

/-- `_alloc_payload`: hand out `size` bytes at the cursor, and advance the cursor by `size`
rounded up to 16 (`(size + 15) & ~15`). -/
def allocPayload (b : ITProgramBuilder) (size : Nat) : Nat × ITProgramBuilder :=
  (b.payloadBase + b.payloadOffset, { b with payloadOffset := b.payloadOffset + (size + 15) / 16 * 16 })

end ITProgramBuilder

/-- The scatter-gather loop of `add_data_packet`: `n` OUTPUT_MORE fragments of `size` bytes,
the first at `currentAddr`, each starting where the previous one ends; and the address after
the last one. -/
def fragmentLoop : Nat → Nat → Nat → List ITDescriptor × Nat
  | 0, _, currentAddr => ([], currentAddr)
  | n + 1, size, currentAddr =>
    let loop := fragmentLoop n size (currentAddr + size)
    (.outputMore { reqCount := size, dataAddress := currentAddr } :: loop.1, loop.2)

namespace ITProgramBuilder

/-- `add_data_packet`: an optional STORE_VALUE, the OUTPUT_MORE-Immediate IT header,
`fragments - 1` OUTPUT_MORE fragments and the OUTPUT_LAST fragment carrying the remainder. -/
def addDataPacket (b : ITProgramBuilder) (samples channels fragments : Nat) (storeVal : Option Nat)
    (irq : Bool) : Except ITError DescriptorBlock × ITProgramBuilder :=
  let audioBytes := samples * channels * 4
  let payloadLen := 8 + audioBytes
  let itQ0 := buildItHeaderQ0 b.speed.toNat 1 b.channel 0 0xA
  let itQ1 := buildItHeaderQ1 payloadLen
  match fdfForRate b.sampleRate with
  | .error e => (.error e, b)
  | .ok _ =>
    let b := { b with dbc := (b.dbc + samples) &&& 0xFF }
    let store : List ITDescriptor := match storeVal with
      | none => []
      | some v => [.storeValue { storeValue := v, storeAddress := b.payloadBase - 4 }]
    let (payloadAddr, b) := b.allocPayload payloadLen
    let header : ITDescriptor := .outputMoreImmediate { itQ0, itQ1 }
    if fragments = 0 then (.error .zeroDivision, b) else
    let fragSize := payloadLen / fragments
    let remSize := payloadLen % fragments
    if fragSize % 4 ≠ 0 then (.error (.unalignedFragment fragSize), b) else
    let (mores, currentAddr) := fragmentLoop (fragments - 1) fragSize payloadAddr
    let last : ITDescriptor :=
      .outputLast { reqCount := fragSize + remSize, dataAddress := currentAddr, irqOnComplete := irq }
    let block : DescriptorBlock :=
      { descriptors := store ++ header :: mores ++ [last], address := b.nextBlockAddress }
    (.ok block, { b with blocks := b.blocks ++ [block] })

/-- `add_nodata_packet`: the IT header and an 8-byte OUTPUT_LAST. The `channels` argument only
feeds a CIP quadlet the source computes and drops. -/
def addNodataPacket (b : ITProgramBuilder) (channels : Nat) (irq : Bool) :
    Except ITError DescriptorBlock × ITProgramBuilder :=
  let payloadLen := 8
  let (payloadAddr, b) := b.allocPayload payloadLen
  let itQ0 := buildItHeaderQ0 b.speed.toNat 1 b.channel 0 0xA
  let itQ1 := buildItHeaderQ1 payloadLen
  match fdfForRate b.sampleRate with
  | .error e => (.error e, b)
  | .ok _ =>
    let block : DescriptorBlock :=
      { descriptors := [.outputMoreImmediate { itQ0, itQ1 },
          .outputLast { reqCount := payloadLen, dataAddress := payloadAddr, irqOnComplete := irq }],
        address := b.nextBlockAddress }
    (.ok block, { b with blocks := b.blocks ++ [block] })

/-! ## What a construction call does -/

/-- The descriptors `add_data_packet` puts before the header: a STORE_VALUE writing `v` to
`storeAddress`, when a value is given. -/
def storeDescriptors (storeVal : Option Nat) (storeAddress : Nat) : List ITDescriptor :=
  match storeVal with
  | none => []
  | some v => [.storeValue { storeValue := v, storeAddress }]

/-- The block a successful `add_data_packet` appends. -/
def dataBlock (b : ITProgramBuilder) (samples channels fragments : Nat) (storeVal : Option Nat)
    (irq : Bool) : DescriptorBlock :=
  let payloadLen := 8 + samples * channels * 4
  let fragSize := payloadLen / fragments
  let loop := fragmentLoop (fragments - 1) fragSize (b.payloadBase + b.payloadOffset)
  { descriptors := storeDescriptors storeVal (b.payloadBase - 4) ++
      .outputMoreImmediate
        { itQ0 := buildItHeaderQ0 b.speed.toNat 1 b.channel 0 0xA
          itQ1 := buildItHeaderQ1 payloadLen } :: loop.1 ++
      [.outputLast
        { reqCount := fragSize + payloadLen % fragments
          dataAddress := loop.2
          irqOnComplete := irq }]
    address := b.nextBlockAddress }

/-- The block a successful `add_nodata_packet` appends. -/
def nodataBlock (b : ITProgramBuilder) (irq : Bool) : DescriptorBlock :=
  { descriptors :=
      [.outputMoreImmediate
        { itQ0 := buildItHeaderQ0 b.speed.toNat 1 b.channel 0 0xA
          itQ1 := buildItHeaderQ1 8 },
       .outputLast
        { reqCount := 8
          dataAddress := b.payloadBase + b.payloadOffset
          irqOnComplete := irq }]
    address := b.nextBlockAddress }

/-- The builder after `add_data_packet` has advanced the counter and allocated the payload. -/
def advanceData (b : ITProgramBuilder) (samples channels : Nat) : ITProgramBuilder :=
  { b with dbc := (b.dbc + samples) % 256,
           payloadOffset := b.payloadOffset + (8 + samples * channels * 4 + 15) / 16 * 16 }

@[simp] theorem payloadBase_advanceData (b : ITProgramBuilder) (s c : Nat) :
    (b.advanceData s c).payloadBase = b.payloadBase := rfl

@[simp] theorem nextBlockAddress_advanceData (b : ITProgramBuilder) (s c : Nat) :
    (b.advanceData s c).nextBlockAddress = b.nextBlockAddress := rfl

/-- `add_data_packet` in terms of its named pieces. -/
theorem addDataPacket_eq (b : ITProgramBuilder) (samples channels fragments : Nat)
    (storeVal : Option Nat) (irq : Bool) :
    b.addDataPacket samples channels fragments storeVal irq =
      match fdfForRate b.sampleRate with
      | .error e => (.error e, b)
      | .ok _ =>
        if fragments = 0 then (.error .zeroDivision, b.advanceData samples channels)
        else if (8 + samples * channels * 4) / fragments % 4 ≠ 0 then
          (.error (.unalignedFragment ((8 + samples * channels * 4) / fragments)),
            b.advanceData samples channels)
        else (.ok (b.dataBlock samples channels fragments storeVal irq),
          { (b.advanceData samples channels) with
            blocks := b.blocks ++ [b.dataBlock samples channels fragments storeVal irq] }) := by
  unfold addDataPacket
  split
  · rfl
  · by_cases hf : fragments = 0
    · simp [hf, advanceData, allocPayload]
    by_cases hq : (8 + samples * channels * 4) / fragments % 4 = 0
    · cases storeVal <;> simp [hf, hq, advanceData, allocPayload, dataBlock, storeDescriptors,
        nextBlockAddress, payloadBase]
    · simp [hf, hq, advanceData, allocPayload]

/-- Everything `add_data_packet` can do: raise on an unsupported rate and change nothing; raise
on the fragment count or size after advancing the counter and the payload cursor; or append
`dataBlock`. -/
theorem addDataPacket_cases (b : ITProgramBuilder) (samples channels fragments : Nat)
    (storeVal : Option Nat) (irq : Bool) :
    (∃ e, b.addDataPacket samples channels fragments storeVal irq = (.error e, b)) ∨
    (∃ e, b.addDataPacket samples channels fragments storeVal irq =
      (.error e, b.advanceData samples channels)) ∨
    ((∃ fdf, fdfForRate b.sampleRate = .ok fdf) ∧ 0 < fragments ∧
      (8 + samples * channels * 4) / fragments % 4 = 0 ∧
      b.addDataPacket samples channels fragments storeVal irq =
        (.ok (b.dataBlock samples channels fragments storeVal irq),
          { (b.advanceData samples channels) with
            blocks := b.blocks ++ [b.dataBlock samples channels fragments storeVal irq] })) := by
  rw [addDataPacket_eq]
  rcases fdfForRate b.sampleRate with e | fdf
  · exact .inl ⟨e, rfl⟩
  · by_cases hf : fragments = 0
    · exact .inr (.inl ⟨.zeroDivision, by simp [hf]⟩)
    by_cases hq : (8 + samples * channels * 4) / fragments % 4 = 0
    · exact .inr (.inr ⟨⟨fdf, rfl⟩, Nat.pos_of_ne_zero hf, hq, by simp [hf, hq]⟩)
    · exact .inr (.inl ⟨.unalignedFragment ((8 + samples * channels * 4) / fragments), by simp [hf, hq]⟩)

/-- `add_nodata_packet` in terms of its named pieces. -/
theorem addNodataPacket_eq (b : ITProgramBuilder) (channels : Nat) (irq : Bool) :
    b.addNodataPacket channels irq =
      match fdfForRate b.sampleRate with
      | .error e => (.error e, { b with payloadOffset := b.payloadOffset + 16 })
      | .ok _ => (.ok (b.nodataBlock irq),
        { b with payloadOffset := b.payloadOffset + 16, blocks := b.blocks ++ [b.nodataBlock irq] }) := by
  unfold addNodataPacket
  split <;> simp_all [allocPayload, nodataBlock, nextBlockAddress, payloadBase]

end ITProgramBuilder

/-! ## The fragment loop -/

/-- The loop's fragments in closed form: fragment `k` covers `size` bytes from
`currentAddr + k * size`. -/
theorem fragmentLoop_fst (n size currentAddr : Nat) : (fragmentLoop n size currentAddr).1 =
    (List.range n).map fun k => .outputMore { reqCount := size, dataAddress := currentAddr + k * size } := by
  induction n generalizing currentAddr with
  | zero => rfl
  | succ n ih =>
    rw [fragmentLoop, ih, List.range_succ_eq_map]
    simp [Nat.succ_mul, Nat.add_assoc, Nat.add_comm size]

/-- The loop makes OUTPUT_MOREs only. -/
theorem mem_fragmentLoop {n size a : Nat} {d : ITDescriptor} (hd : d ∈ (fragmentLoop n size a).1) :
    ∃ o, d = .outputMore o := by
  rw [fragmentLoop_fst] at hd
  obtain ⟨k, -, rfl⟩ := List.mem_map.mp hd
  exact ⟨_, rfl⟩

/-- The loop ends `n * size` bytes after it started. -/
theorem fragmentLoop_snd (n size currentAddr : Nat) :
    (fragmentLoop n size currentAddr).2 = currentAddr + n * size := by
  induction n generalizing currentAddr with
  | zero => simp [fragmentLoop]
  | succ n ih => rw [fragmentLoop, ih, Nat.succ_mul]; omega

end ItDmaProgram
