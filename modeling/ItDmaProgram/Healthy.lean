import ItDmaProgram.Validate
import ItDmaProgram.Diagnoser
import ItDmaProgram.Regions
import ItDmaProgram.Ring

/-!
# Programs that pass validation

`pack_ptr_with_z` keeps only the low four bits of `z_value`. A block of 16 slots or more is
therefore reached through a pointer whose Z nibble is not its size, and at 16 slots the nibble
is 0, which a controller reads as the end of the program. The builder checks no size. What keeps
`z_value` small is `validate`'s limit of eight OUTPUT_MOREs per block: a block the construction
calls build takes at most three slots besides its OUTPUT_MOREs (a STORE_VALUE, the second half of
the Immediate header, the OUTPUT_LAST).

* `validate_z_exact`: in a program that passes `validate`, every block takes 3 to 11 slots, and
  every branch and skip pointer of the finalized ring carries its target's `z_value` whole.
* `fetch_exact`: through every branch pointer of such a program, and every skip pointer under
  `NEXT` and `SELF`, a controller fetching `Z` slots from the pointer's address reads exactly
  the bytes of the target block.
* `descriptorReport_validated`: on such a program, on a nonzero base with the ring, and the
  sentinel when it is used, below `2 ^ 32`, the analyzer's report on the first slot of every
  descriptor says the branch looks valid for an OUTPUT_LAST or a STORE_VALUE and says nothing
  more for the others. Every slot of the image is such a first slot or the zeroed second half
  of an Immediate (`ITProgramBuilder.Inv.slot_cases`), so on no slot does the analyzer report a
  fault.
-/

namespace ItDmaProgram

/-! ## The slots of a built block -/

@[simp] theorem ITDescriptor.countsAsMore_unlink (d : ITDescriptor) :
    d.unlink.countsAsMore = d.countsAsMore := by
  cases d <;> rfl

/-- A block takes at least 3 slots, and at most 3 more than it has OUTPUT_MOREs. -/
def DescriptorBlock.SlotBound (blk : DescriptorBlock) : Prop :=
  3 ≤ blk.zValue ∧ blk.zValue ≤ (blk.descriptors.filter ITDescriptor.countsAsMore).length + 3

theorem DescriptorBlock.slotBound_unlink (blk : DescriptorBlock) :
    blk.unlink.SlotBound ↔ blk.SlotBound := by
  rw [SlotBound, SlotBound, zValue_unlink]
  simp [unlink, List.filter_map, Function.comp_def]

theorem countsAsMore_fragmentLoop (n size a : Nat) :
    ((fragmentLoop n size a).1.filter ITDescriptor.countsAsMore).length = n := by
  rw [List.filter_eq_self.mpr fun d hd => by obtain ⟨o, rfl⟩ := mem_fragmentLoop hd; rfl,
    fragmentLoop_fst, List.length_map, List.length_range]

/-- A DATA block has its `fragments` OUTPUT_MOREs (the header and the `fragments - 1` fragments)
and takes `fragments + 2` slots, one more with a STORE_VALUE. -/
theorem dataBlock_slotBound (b : ITProgramBuilder) (s c f : Nat) (sv : Option Nat) (irq : Bool) :
    (b.dataBlock s c f sv irq).SlotBound := by
  have hsum := sum_size_fragmentLoop (f - 1) ((8 + s * c * 4) / f) (b.payloadBase + b.payloadOffset)
  have hmore := countsAsMore_fragmentLoop (f - 1) ((8 + s * c * 4) / f) (b.payloadBase + b.payloadOffset)
  cases sv <;> simp only [DescriptorBlock.SlotBound, DescriptorBlock.zValue, ITProgramBuilder.dataBlock,
    ITProgramBuilder.storeDescriptors, List.map_append, List.map_cons, List.map_nil, List.sum_append,
    List.sum_cons, List.sum_nil, List.filter_append, List.filter_cons, List.filter_nil,
    List.length_append, List.length_cons, List.length_nil, hsum, hmore] <;>
    simp [ITDescriptor.size, ITDescriptor.countsAsMore] <;> omega

theorem nodataBlock_slotBound (b : ITProgramBuilder) (irq : Bool) : (b.nodataBlock irq).SlotBound := by
  simp [DescriptorBlock.SlotBound, ITProgramBuilder.nodataBlock, DescriptorBlock.zValue,
    ITDescriptor.size, ITDescriptor.countsAsMore]

theorem slotBound_run (base channel : Nat) (speed : Speed) (rate : Nat) (strategy : SkipStrategy)
    (calls : List Call) :
    ∀ blk ∈ ((ITProgramBuilder.new base channel speed rate strategy).run calls).blocks, blk.SlotBound :=
  ITProgramBuilder.forall_blocks_run DescriptorBlock.slotBound_unlink
    (fun b s c f sv irq _ => dataBlock_slotBound b s c f sv irq) nodataBlock_slotBound
    (by simp [ITProgramBuilder.new]) calls

/-- In a program that passes validation every block takes 3 to 11 slots. -/
theorem zValue_of_validate {base channel : Nat} {speed : Speed} {rate : Nat} {strategy : SkipStrategy}
    {calls : List Call}
    (hvalid : ((ITProgramBuilder.new base channel speed rate strategy).run calls).validate = []) :
    ∀ blk ∈ ((ITProgramBuilder.new base channel speed rate strategy).run calls).blocks,
      3 ≤ blk.zValue ∧ blk.zValue ≤ 11 := by
  intro blk hblk
  have hmore : ¬8 < (blk.descriptors.filter ITDescriptor.countsAsMore).length :=
    fun h => (validate_eq_nil_iff _).mp hvalid blk hblk (.inr (.inl h))
  have hbound := slotBound_run base channel speed rate strategy calls blk hblk
  exact ⟨hbound.1, by have := hbound.2; omega⟩

/-- In a program that passes validation every block is at an aligned address. -/
theorem ITProgramBuilder.address_of_validate {b : ITProgramBuilder} (hvalid : b.validate = []) :
    ∀ blk ∈ b.blocks, blk.address % 16 = 0 := fun blk h => by
  by_contra hne
  exact (validate_eq_nil_iff _).mp hvalid blk h (.inr (.inr (.inr hne)))

/-- Blocks at aligned addresses lie on an aligned base, as they follow it in whole slots. -/
theorem ITProgramBuilder.Inv.base_aligned {b : ITProgramBuilder} (h : b.Inv)
    (haddr : ∀ blk ∈ b.blocks, blk.address % 16 = 0) {i : Nat} {blk : DescriptorBlock}
    (hblk : b.blocks[i]? = some blk) : b.baseAddress % 16 = 0 := by
  obtain ⟨hi, rfl⟩ := List.getElem?_eq_some_iff.mp hblk
  have h0 := h.chained.address_getElem hi
  have h1 := haddr _ (List.getElem_mem hi)
  omega

/-! ## The Z nibbles -/

/-- Block `i` of the finalized ring is a block of the program linked to its successor, and
block `i + 1` of the ring, the first after the last, has that successor's address and
`z_value`. -/
theorem ITProgramBuilder.finalizeRing_getElem? {b : ITProgramBuilder} {i : Nat} {blk : DescriptorBlock}
    (hblk : b.finalizeRing.2.blocks[i]? = some blk) :
    ∃ blk₀ nb₀ nb, blk₀ ∈ b.blocks ∧ nb₀ ∈ b.blocks ∧ blk = blk₀.link (b.skipTarget blk₀ nb₀) nb₀ ∧
      b.finalizeRing.2.blocks[(i + 1) % b.finalizeRing.2.blocks.length]? = some nb ∧
      nb.address = nb₀.address ∧ nb.zValue = nb₀.zValue := by
  simp only [finalizeRing_eq] at hblk ⊢
  have hi : i < b.blocks.length := by simpa using (List.getElem?_eq_some_iff.mp hblk).1
  obtain ⟨nb₀, hnb⟩ := b.exists_getElem?_succ (List.getElem?_eq_getElem hi)
  obtain ⟨nnb, hnnb⟩ := b.exists_getElem?_succ hnb
  rw [b.linkRing_getElem? (List.getElem?_eq_getElem hi) hnb] at hblk
  refine ⟨_, nb₀, nb₀.link (b.skipTarget nb₀ nnb) nnb, List.getElem_mem hi, List.getElem?_mem hnb,
    (Option.some.inj hblk).symm, ?_, DescriptorBlock.address_link _ _ _, DescriptorBlock.zValue_link _ _ _⟩
  rw [length_linkRing, b.linkRing_getElem? hnb hnnb]

/-- In a program that passes validation every block of the finalized ring takes 3 to 11 slots. -/
theorem zValue_finalizeRing_of_validate {base channel : Nat} {speed : Speed} {rate : Nat}
    {strategy : SkipStrategy} {calls : List Call}
    (hvalid : ((ITProgramBuilder.new base channel speed rate strategy).run calls).validate = []) :
    ∀ blk ∈ ((ITProgramBuilder.new base channel speed rate strategy).run calls).finalizeRing.2.blocks,
      3 ≤ blk.zValue ∧ blk.zValue ≤ 11 := fun blk hblk => by
  obtain ⟨i, hi⟩ := List.getElem?_of_mem hblk
  obtain ⟨blk₀, -, -, hm, -, rfl, -⟩ := ITProgramBuilder.finalizeRing_getElem? hi
  rw [DescriptorBlock.zValue_link]
  exact zValue_of_validate hvalid blk₀ hm

/-- **A program that passes validation has exact Z nibbles.** After any calls on a new builder,
if `validate` reports nothing, every block of the finalized ring takes 3 to 11 slots. The Z
nibble of every OUTPUT_LAST's branch pointer is then the `z_value` of the block it branches to,
and that of every skip pointer is the `z_value` of the skip target: the next block under `NEXT`,
the block itself under `SELF`, and 1 under `SENTINEL`. -/
theorem validate_z_exact (base channel : Nat) (speed : Speed) (rate : Nat) (strategy : SkipStrategy)
    (calls : List Call) :
    let b := (ITProgramBuilder.new base channel speed rate strategy).run calls
    let blocks := b.finalizeRing.2.blocks
    b.validate = [] →
    ∀ (i : Nat) (blk : DescriptorBlock), blocks[i]? = some blk →
      3 ≤ blk.zValue ∧ blk.zValue ≤ 11 ∧
      ∀ d ∈ blk.descriptors,
        (d.isOutputLast → some (d.pointerWord &&& 0xF) =
          blocks[(i + 1) % blocks.length]?.map DescriptorBlock.zValue) ∧
        (d.hasSkip → some (d.pointerWord &&& 0xF) =
          match b.skipStrategy with
          | .next => blocks[(i + 1) % blocks.length]?.map DescriptorBlock.zValue
          | .self => some blk.zValue
          | .sentinel => some 1) := by
  intro b blocks hvalid i blk hblk
  have hz := zValue_of_validate hvalid
  obtain ⟨blk₀, nb₀, nb, hm, hmnb, rfl, hnext, -, hzv⟩ := ITProgramBuilder.finalizeRing_getElem? hblk
  have hzb := hz _ hm
  have hznb := hz _ hmnb
  rw [hnext, Option.map_some', hzv, DescriptorBlock.zValue_link]
  refine ⟨hzb.1, hzb.2, fun d hd => ⟨fun hl => ?_, fun hs => ?_⟩⟩
  · obtain ⟨d₀, -, rfl⟩ := List.mem_map.mp hd
    rw [ITDescriptor.isOutputLast_link] at hl
    cases d₀ <;> simp [ITDescriptor.isOutputLast] at hl
    rw [ITDescriptor.pointerWord_link, packPtrWithZ_land_0xF, Nat.mod_eq_of_lt (by omega)]
  · rw [DescriptorBlock.pointerWord_of_hasSkip hd hs, packPtrWithZ_land_0xF]
    cases hst : b.skipStrategy <;> simp only [ITProgramBuilder.skipTarget, hst] <;>
      rw [Nat.mod_eq_of_lt (by omega)]

/-- A DATA packet with a STORE_VALUE in two fragments, then a NO-DATA packet, under `SENTINEL`:
the program passes validation, and its pointers carry Z nibbles 5, 3 and 1. -/
theorem validate_z_exact_store_nodata :
    let b := (ITProgramBuilder.new 0x80000000 0 .s400 48000 .sentinel).run
      [.addDataPacket 8 2 2 (some 7) false, .addNodataPacket 8 true]
    let blocks := b.finalizeRing.2.blocks
    b.validate = [] ∧
    ∀ (i : Nat) (blk : DescriptorBlock), blocks[i]? = some blk →
      3 ≤ blk.zValue ∧ blk.zValue ≤ 11 ∧
      ∀ d ∈ blk.descriptors,
        (d.isOutputLast → some (d.pointerWord &&& 0xF) =
          blocks[(i + 1) % blocks.length]?.map DescriptorBlock.zValue) ∧
        (d.hasSkip → some (d.pointerWord &&& 0xF) =
          match b.skipStrategy with
          | .next => blocks[(i + 1) % blocks.length]?.map DescriptorBlock.zValue
          | .self => some blk.zValue
          | .sentinel => some 1) :=
  ⟨by decide, validate_z_exact 0x80000000 0 .s400 48000 .sentinel _ (by decide)⟩

/-- Without the limit the nibble wraps: one DATA packet of 6 stereo samples in 14 fragments of
4 bytes takes 16 slots, `validate` reports it, and the branch pointer back to it carries Z = 0. -/
theorem validate_reports_z_wrap :
    let b := (ITProgramBuilder.new 0x80000000 0 .s400 48000 .next).run [.addDataPacket 6 2 14 none false]
    b.validate = ["Block 0: Too many OUTPUT_MORE descriptors (14)"] ∧
      b.blocks.map DescriptorBlock.zValue = [16] ∧ quadletAt b.finalizeRing.1 248 &&& 0xF = 0 := by
  decide

/-! ## What the controller fetches -/

/-- The descriptor block a controller fetches through a branch or skip pointer word, from an image
loaded at `base`: `Z` 16-byte slots from the pointer's address bits. -/
def fetchBlock (image : List UInt8) (base ptr : Nat) : List UInt8 :=
  (image.drop ((ptr &&& 0xFFFFFFF0) - base)).take (16 * (ptr &&& 0xF))

/-- Through a pointer with a block's address as address bits and its `z_value` as Z nibble, the
controller fetches that block's bytes from the image of blocks chained from `base`. -/
theorem fetchBlock_of_chained {base : Nat} {bs : List DescriptorBlock} (h : Chained base bs)
    (hb : ∀ blk ∈ bs, blk.Built) {j : Nat} {nb : DescriptorBlock} (hj : bs[j]? = some nb) {ptr : Nat}
    (haddr : ptr &&& 0xFFFFFFF0 = nb.address) (hz : ptr &&& 0xF = nb.zValue) :
    fetchBlock (bs.map DescriptorBlock.toBytes).flatten base ptr = nb.toBytes := by
  rw [fetchBlock, haddr, hz, ← (hb nb (List.getElem?_mem hj)).length_toBytes]
  exact (List.prefix_iff_eq_take.mp (h.toBytes_at_address hb hj)).symm

/-- Through a block's pointer the controller fetches the block's bytes, from an image laid out
under the layout invariant on an aligned base below `2 ^ 32`, whose blocks take fewer than 16
slots. -/
theorem ITProgramBuilder.Inv.fetchBlock_pointer {r : ITProgramBuilder} (h : r.Inv)
    (haligned : r.baseAddress % 16 = 0) (hbelow : r.nextBlockAddress ≤ 2 ^ 32)
    (hz : ∀ blk ∈ r.blocks, blk.zValue < 16) {i : Nat} {blk : DescriptorBlock} (hblk : r.blocks[i]? = some blk) :
    fetchBlock (r.blocks.map DescriptorBlock.toBytes).flatten r.baseAddress (packPtrWithZ blk.address blk.zValue) =
      blk.toBytes := by
  have hmem := List.getElem?_mem hblk
  exact fetchBlock_of_chained h.chained h.built hblk (h.addressBits haligned hbelow hmem _)
    (by rw [packPtrWithZ_land_0xF, Nat.mod_eq_of_lt (hz _ hmem)])

/-- **A program that passes validation is fetched block by block.** After any calls on a new
builder, if `validate` reports nothing and the ring lies below `2 ^ 32`, then through the branch
pointer of every block of the finalized ring the controller fetches exactly the bytes of the next
block, the first after the last; and through every skip pointer exactly those of the next block
under `NEXT`, and of the block itself under `SELF`. -/
theorem fetch_exact (base channel : Nat) (speed : Speed) (rate : Nat) (strategy : SkipStrategy)
    (calls : List Call) :
    let b := (ITProgramBuilder.new base channel speed rate strategy).run calls
    let blocks := b.finalizeRing.2.blocks
    let image := b.finalizeRing.1
    b.validate = [] → b.nextBlockAddress ≤ 2 ^ 32 →
    ∀ (i : Nat) (blk : DescriptorBlock), blocks[i]? = some blk →
      some (fetchBlock image base blk.branchWord) =
        blocks[(i + 1) % blocks.length]?.map DescriptorBlock.toBytes ∧
      ∀ d ∈ blk.descriptors, d.hasSkip →
        (b.skipStrategy = .next → some (fetchBlock image base d.pointerWord) =
          blocks[(i + 1) % blocks.length]?.map DescriptorBlock.toBytes) ∧
        (b.skipStrategy = .self → fetchBlock image base d.pointerWord = blk.toBytes) := by
  intro b blocks image hvalid hbelow i blk hblk
  have hinv : b.Inv := (ITProgramBuilder.inv_new _ _ _ _ _).run calls
  have hb : b.baseAddress = base := by simp [b, ITProgramBuilder.new]
  obtain ⟨blk₀, nb₀, nb, hm, -, rfl, hnext, hna, hnz⟩ := ITProgramBuilder.finalizeRing_getElem? hblk
  obtain ⟨i₀, hi₀⟩ := List.getElem?_of_mem hm
  have haligned := hinv.base_aligned (ITProgramBuilder.address_of_validate hvalid) hi₀
  -- Through the pointer of any block of the ring the controller fetches that block.
  have hfetch : ∀ {j : Nat} {x : DescriptorBlock}, blocks[j]? = some x →
      fetchBlock image base (packPtrWithZ x.address x.zValue) = x.toBytes := fun hx => by
    have hz := zValue_finalizeRing_of_validate hvalid
    have hfin : b.finalizeRing.2.Inv := hinv.apply .finalizeRing
    have := hfin.fetchBlock_pointer (by rwa [ITProgramBuilder.baseAddress_finalizeRing])
      (by rwa [ITProgramBuilder.nextBlockAddress_finalizeRing]) (fun y hy => by have := (hz y hy).2; omega) hx
    rwa [ITProgramBuilder.baseAddress_finalizeRing, hb, ← ITProgramBuilder.finalizeRing_fst] at this
  have hnextBytes : some (fetchBlock image base (packPtrWithZ nb₀.address nb₀.zValue)) =
      blocks[(i + 1) % blocks.length]?.map DescriptorBlock.toBytes := by
    rw [hnext, Option.map_some', ← hna, ← hnz, hfetch hnext]
  refine ⟨?_, fun d hd hs => ⟨fun hst => ?_, fun hst => ?_⟩⟩
  · rw [((hinv.built _ hm).branchWord_link _ nb₀).2, hnextBytes]
  · rw [DescriptorBlock.pointerWord_of_hasSkip hd hs, ITProgramBuilder.skipTarget, hst, hnextBytes]
  · rw [DescriptorBlock.pointerWord_of_hasSkip hd hs]
    rw [ITProgramBuilder.skipTarget, hst] at hblk ⊢
    simpa only [DescriptorBlock.address_link, DescriptorBlock.zValue_link] using hfetch hblk

/-- A DATA packet with a STORE_VALUE in two fragments, then a NO-DATA packet, under `SELF`: every
pointer leads the controller to exactly a block of the ring. -/
theorem fetch_exact_self_skip :
    let b := (ITProgramBuilder.new 0x80000000 0 .s400 48000 .self).run
      [.addDataPacket 8 2 2 (some 7) false, .addNodataPacket 8 true]
    let blocks := b.finalizeRing.2.blocks
    let image := b.finalizeRing.1
    ∀ (i : Nat) (blk : DescriptorBlock), blocks[i]? = some blk →
      some (fetchBlock image 0x80000000 blk.branchWord) =
        blocks[(i + 1) % blocks.length]?.map DescriptorBlock.toBytes ∧
      ∀ d ∈ blk.descriptors, d.hasSkip →
        (b.skipStrategy = .next → some (fetchBlock image 0x80000000 d.pointerWord) =
          blocks[(i + 1) % blocks.length]?.map DescriptorBlock.toBytes) ∧
        (b.skipStrategy = .self → fetchBlock image 0x80000000 d.pointerWord = blk.toBytes) :=
  fetch_exact 0x80000000 0 .s400 48000 .self _ (by decide) (by decide)

/-! ## The analyzer on a program that passes validation -/

/-- The verdict on the first slot of a descriptor, in a program whose blocks take 3 to 11 slots
at aligned addresses, on a nonzero base, with the ring and the sentinel below `2 ^ 32`. -/
theorem ITProgramBuilder.Inv.firstSlot_verdict {b : ITProgramBuilder} (h : b.Inv) (hnamed : b.HeadersNamed)
    (hz : ∀ blk ∈ b.blocks, 3 ≤ blk.zValue ∧ blk.zValue ≤ 11)
    (haddr : ∀ blk ∈ b.blocks, blk.address % 16 = 0) (hbase : b.baseAddress ≠ 0)
    (hbelow : b.nextBlockAddress ≤ 2 ^ 32) (hsent : b.skipStrategy = .sentinel → b.sentinelAddr < 2 ^ 32)
    {i j : Nat} {blk : DescriptorBlock} {d : ITDescriptor} (hblk : b.blocks[i]? = some blk)
    (hd : blk.descriptors[j]? = some d) :
    let image := b.finalizeRing.1
    let off := blk.address - b.baseAddress + ((blk.descriptors.take j).map ITDescriptor.size).sum
    (descriptorReport (quadletAt image off) (quadletAt image (off + 4)) (quadletAt image (off + 8))).drop 2 =
      if d.isOutputLast || d.isStoreValue then ["✅ Branch address looks valid."] else [] := by
  intro image off
  have hmem := List.getElem?_mem hblk
  have haligned := h.base_aligned haddr hblk
  have hle : ∀ blk ∈ b.blocks, b.baseAddress ≤ blk.address := h.chained.le_address
  have hbits : ∀ blk ∈ b.blocks, ∀ z, packPtrWithZ blk.address z &&& 0xFFFFFFF0 = blk.address :=
    fun blk hm z => h.addressBits haligned hbelow hm z
  obtain ⟨nb, hnb⟩ := b.exists_getElem?_succ hblk
  have hmnb := List.getElem?_mem hnb
  set skip := b.skipTarget blk nb with hskip
  have hpre := h.toBytes_at_offset hblk hnb hd
  have hq0 := (ITDescriptor.decode _ hpre).1
  rw [ITDescriptor.toBytes_eq_quadlets] at hpre
  have hq8 : ∀ w, (d.link skip nb).words[2]? = some w → quadletAt image (off + 8) = w % 4294967296 :=
    fun w hw => @quadletAt_of_drop_quadlets _ _ _ 2 _ hpre hw
  have hbuilt : d.Built := (h.built blk hmem).1 d (List.getElem?_mem hd)
  rw [hq0]
  cases d with
  | storeValue s =>
    rw [hq8 (packPtrWithZ skip.1 skip.2) rfl, Nat.mod_eq_of_lt (packPtrWithZ_lt _ _)]
    have hzb := hz blk hmem
    have hznb := hz nb hmnb
    refine descriptorReport_valid _ ?_ ?_
    all_goals
      cases hst : b.skipStrategy
      all_goals simp only [hskip, ITProgramBuilder.skipTarget, hst, packPtrWithZ_land_0xF,
        hbits _ hmnb, hbits _ hmem]
    all_goals first
      | omega
      | have := hle nb hmnb; omega
      | have := hle _ hmem; omega
      | have := hsent hst
        rw [packPtrWithZ_land_0xFFFFFFF0]
        simp only [ITProgramBuilder.sentinelAddr] at this ⊢
        omega
  | outputMoreImmediate o =>
    have ho := hnamed blk hmem _ (List.getElem?_mem hd) o.itQ0 rfl
    rw [hq8 o.itQ0 rfl]
    refine descriptorReport_z_zero _ ?_ ?_
    · rw [ho, buildItHeaderQ0_eq, land_0xF]
      omega
    · rw [ITDescriptor.control_link, ITDescriptor.control, makeControl_cmd]
      decide
  | outputMore o =>
    rw [hq8 0 rfl]
    refine descriptorReport_z_zero _ (by simp) ?_
    rw [ITDescriptor.control_link, ITDescriptor.control, makeControl_cmd]
    decide
  | outputLast o =>
    rw [hq8 (packPtrWithZ nb.address nb.zValue) rfl, Nat.mod_eq_of_lt (packPtrWithZ_lt _ _)]
    have hznb := hz nb hmnb
    refine descriptorReport_valid _ ?_ ?_
    · rw [packPtrWithZ_land_0xF]
      omega
    · rw [hbits _ hmnb]
      have := hle nb hmnb
      omega
  | outputLastImmediate _ | outputLastSkip _ => exact hbuilt.elim

/-- The second slot of a 32-byte descriptor is zero, which the analyzer reports on as an
OUTPUT_MORE of reqCount 0 with a Z of 0, and nothing more. -/
theorem ITProgramBuilder.Inv.secondSlot_report {b : ITProgramBuilder} (h : b.Inv) {i j : Nat}
    {blk : DescriptorBlock} {d : ITDescriptor} (hblk : b.blocks[i]? = some blk)
    (hd : blk.descriptors[j]? = some d) (hsize : d.size = 32) :
    let image := b.finalizeRing.1
    let off := blk.address - b.baseAddress + ((blk.descriptors.take j).map ITDescriptor.size).sum
    (descriptorReport (quadletAt image (off + 16)) (quadletAt image (off + 16 + 4))
      (quadletAt image (off + 16 + 8))).drop 2 = [] := by
  intro image off
  obtain ⟨nb, hnb⟩ := b.exists_getElem?_succ hblk
  have hpre := h.toBytes_at_offset hblk hnb hd
  rw [ITDescriptor.toBytes_eq_quadlets] at hpre
  have hbuilt : d.Built := (h.built blk (List.getElem?_mem hblk)).1 d (List.getElem?_mem hd)
  cases d with
  | outputMoreImmediate o =>
    rw [show off + 16 = off + 4 * 4 from rfl, show off + 4 * 4 + 4 = off + 4 * 5 by omega,
      show off + 4 * 4 + 8 = off + 4 * 6 by omega, @quadletAt_of_drop_quadlets _ _ _ 4 0 hpre rfl,
      @quadletAt_of_drop_quadlets _ _ _ 5 0 hpre rfl, @quadletAt_of_drop_quadlets _ _ _ 6 0 hpre rfl]
    decide
  | storeValue _ | outputMore _ | outputLast _ => simp_all [ITDescriptor.Built, ITDescriptor.size]
  | outputLastImmediate _ | outputLastSkip _ => exact hbuilt.elim

/-- On every slot of the image of a program as in `ITProgramBuilder.Inv.firstSlot_verdict`, the
report says nothing past its two first lines, or that the branch looks valid. -/
theorem ITProgramBuilder.Inv.slot_verdict {b : ITProgramBuilder} (h : b.Inv) (hnamed : b.HeadersNamed)
    (hz : ∀ blk ∈ b.blocks, 3 ≤ blk.zValue ∧ blk.zValue ≤ 11)
    (haddr : ∀ blk ∈ b.blocks, blk.address % 16 = 0) (hbase : b.baseAddress ≠ 0)
    (hbelow : b.nextBlockAddress ≤ 2 ^ 32) (hsent : b.skipStrategy = .sentinel → b.sentinelAddr < 2 ^ 32)
    {k : Nat} (hk : k < b.finalizeRing.1.length / 16) :
    let image := b.finalizeRing.1
    let r := (descriptorReport (quadletAt image (16 * k)) (quadletAt image (16 * k + 4))
      (quadletAt image (16 * k + 8))).drop 2
    r = [] ∨ r = ["✅ Branch address looks valid."] := by
  dsimp only
  obtain ⟨i, j, blk, d, hblk, hd, hslot | ⟨hslot, hsize⟩⟩ := h.slot_cases hk
  · have hfirst := h.firstSlot_verdict hnamed hz haddr hbase hbelow hsent hblk hd
    dsimp only at hfirst
    rw [hslot, hfirst]
    split <;> simp
  · rw [hslot]
    exact .inl (h.secondSlot_report hblk hd hsize)

/-- **The analyzer reports no fault on a program that passes validation.** Take any program
built on a nonzero base that passes `validate`, with the ring below `2 ^ 32`, and also the
sentinel under `SENTINEL`, and the bytes `finalize_ring` returns for it. On the dump entry of a
descriptor's first slot, the analyzer's report goes on past its two first lines only for an
OUTPUT_LAST or a STORE_VALUE, whose pointer has a nonzero Z and a nonzero address, to say that
the branch looks valid; an OUTPUT_MORE-Immediate's `br` is its IT header, with sy 0. Every slot of
the image is such a first slot or the zeroed second half of an Immediate, so on every slot the
report says nothing past its two first lines or that the branch looks valid: never that memory
is uninitialized, and never that a branch address is null. -/
theorem descriptorReport_validated (base channel : Nat) (speed : Speed) (rate : Nat)
    (strategy : SkipStrategy) (calls : List Call) (hbase : base ≠ 0) :
    let b := (ITProgramBuilder.new base channel speed rate strategy).run calls
    let image := b.finalizeRing.1
    b.validate = [] → b.nextBlockAddress ≤ 2 ^ 32 → (b.skipStrategy = .sentinel → b.sentinelAddr < 2 ^ 32) →
    (∀ (i j : Nat) (blk : DescriptorBlock) (d : ITDescriptor), b.blocks[i]? = some blk →
      blk.descriptors[j]? = some d →
      let off := blk.address - base + ((blk.descriptors.take j).map ITDescriptor.size).sum
      (descriptorReport (quadletAt image off) (quadletAt image (off + 4)) (quadletAt image (off + 8))).drop 2 =
        if d.isOutputLast || d.isStoreValue then ["✅ Branch address looks valid."] else []) ∧
    ∀ k < image.length / 16,
      let r := (descriptorReport (quadletAt image (16 * k)) (quadletAt image (16 * k + 4))
        (quadletAt image (16 * k + 8))).drop 2
      r = [] ∨ r = ["✅ Branch address looks valid."] := by
  intro b image hvalid hbelow hsent
  have hinv : b.Inv := (ITProgramBuilder.inv_new _ _ _ _ _).run calls
  have hb : b.baseAddress = base := by simp [b, ITProgramBuilder.new]
  have hnamed : b.HeadersNamed := (ITProgramBuilder.headersNamed_new _ _ _ _ _).run calls
  have haddr := ITProgramBuilder.address_of_validate hvalid
  have hz := zValue_of_validate hvalid
  have hb0 : b.baseAddress ≠ 0 := hb ▸ hbase
  refine ⟨fun i j blk d hblk hd => ?_, fun k hk => hinv.slot_verdict hnamed hz haddr hb0 hbelow hsent hk⟩
  have hfirst := hinv.firstSlot_verdict hnamed hz haddr hb0 hbelow hsent hblk hd
  rwa [hb] at hfirst

/-- The STORE_VALUE of a DATA packet under `SENTINEL`, first in the image: its skip pointer is the
sentinel `0x8000FF00` with Z = 1, and the analyzer says the branch looks valid. -/
theorem descriptorReport_validated_store_value :
    let image := ((ITProgramBuilder.new 0x80000000 0 .s400 48000 .sentinel).run
      [.addDataPacket 8 2 2 (some 7) false, .addNodataPacket 8 true]).finalizeRing.1
    (descriptorReport (quadletAt image 0) (quadletAt image 4) (quadletAt image 8)).drop 2 =
      ["✅ Branch address looks valid."] :=
  (descriptorReport_validated 0x80000000 0 .s400 48000 .sentinel
    [.addDataPacket 8 2 2 (some 7) false, .addNodataPacket 8 true] (by decide) (by decide) (by decide)
    (by decide)).1 0 0
    ⟨[.storeValue { storeValue := 7, storeAddress := 0x8000FFFC },
      .outputMoreImmediate { itQ0 := 0x240A0, itQ1 := 0x480000 },
      .outputMore { reqCount := 36, dataAddress := 0x80010000 },
      .outputLast { reqCount := 36, dataAddress := 0x80010024 }], 0x80000000⟩
    (.storeValue { storeValue := 7, storeAddress := 0x8000FFFC }) (by decide) (by decide)

end ItDmaProgram
