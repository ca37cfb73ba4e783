import ItDmaProgram.Builder

/-!
# The ring linker

`finalize_ring` closes the block list into a ring. For block `i` of `N` it takes the successor
`blocks[(i + 1) % N]` and the skip target of the builder's strategy, then walks the block's
descriptors: a STORE_VALUE or OUTPUT_MORE-Immediate gets the skip target as its skip pointer,
an `OutputLast` or `OutputLastSkip` gets the successor as its branch pointer. The tests are
`isinstance` tests, and `OutputLastImmediate` passes none of them, so its branch pointer is
never written. The result is the concatenation of the blocks' bytes.

The model takes descriptors as values. Python would let a hand-built block list hold one
descriptor object in two places, which the loop would then set twice, the later assignment
winning; the builder never shares one.

* `linkRing_getElem?`: block `i` after linking, in terms of block `i` and its successor.
* `pointerWord_link`: the pointer word each kind of descriptor ends up with.
-/

namespace ItDmaProgram

namespace ITProgramBuilder

/-- The skip target `(skip_addr, skip_z)` of `block` under the builder's strategy. -/
def skipTarget (b : ITProgramBuilder) (block nextBlock : DescriptorBlock) : Nat × Nat :=
  match b.skipStrategy with
  | .next => (nextBlock.address, nextBlock.zValue)
  | .self => (block.address, block.zValue)
  | .sentinel => (b.sentinelAddr, 1)

end ITProgramBuilder

/-- The descriptors whose skip pointer `finalize_ring` sets: STORE_VALUE and
OUTPUT_MORE-Immediate. -/
def ITDescriptor.hasSkip : ITDescriptor → Bool
  | .storeValue _ | .outputMoreImmediate _ => true
  | _ => false

/-- The body of the descriptor loop of `finalize_ring`. -/
def ITDescriptor.link (skip : Nat × Nat) (nextBlock : DescriptorBlock) : ITDescriptor → ITDescriptor
  | .storeValue d => .storeValue { d with skipAddress := skip.1, skipZ := skip.2 }
  | .outputMoreImmediate d => .outputMoreImmediate { d with skipAddress := skip.1, skipZ := skip.2 }
  | .outputLast d =>
    .outputLast { d with branchAddress := nextBlock.address, branchZ := nextBlock.zValue }
  | .outputLastSkip d =>
    .outputLastSkip { d with branchAddress := nextBlock.address, branchZ := nextBlock.zValue }
  | d => d

/-- One block after the descriptor loop. -/
def DescriptorBlock.link (block : DescriptorBlock) (skip : Nat × Nat) (nextBlock : DescriptorBlock) :
    DescriptorBlock :=
  { block with descriptors := block.descriptors.map (ITDescriptor.link skip nextBlock) }

namespace ITProgramBuilder

/-- The blocks after the loop of `finalize_ring` (the index `(i + 1) % N` is always in range,
so the default of `getD` is never read). -/
def linkRing (b : ITProgramBuilder) : List DescriptorBlock :=
  let count := b.blocks.length
  b.blocks.mapIdx fun i block =>
    let nextBlock := b.blocks.getD ((i + 1) % count) block
    block.link (b.skipTarget block nextBlock) nextBlock

/-- `finalize_ring`: link every block and return the program's bytes. -/
def finalizeRing (b : ITProgramBuilder) : List UInt8 × ITProgramBuilder :=
  if b.blocks = [] then ([], b) else
  let blocks := b.linkRing
  ((blocks.map DescriptorBlock.toBytes).flatten, { b with blocks })

end ITProgramBuilder

/-! ## What linking changes -/

@[simp] theorem ITDescriptor.size_link (skip : Nat × Nat) (nb : DescriptorBlock) (d : ITDescriptor) :
    (d.link skip nb).size = d.size := by
  cases d <;> rfl

@[simp] theorem ITDescriptor.control_link (skip : Nat × Nat) (nb : DescriptorBlock) (d : ITDescriptor) :
    (d.link skip nb).control = d.control := by
  cases d <;> rfl

@[simp] theorem DescriptorBlock.descriptors_link (skip : Nat × Nat) (nb blk : DescriptorBlock) :
    (blk.link skip nb).descriptors = blk.descriptors.map (ITDescriptor.link skip nb) := rfl

@[simp] theorem DescriptorBlock.address_link (skip : Nat × Nat) (nb blk : DescriptorBlock) :
    (blk.link skip nb).address = blk.address := rfl

@[simp] theorem DescriptorBlock.zValue_link (skip : Nat × Nat) (nb blk : DescriptorBlock) :
    (blk.link skip nb).zValue = blk.zValue := by
  simp [link, zValue, Function.comp_def]

@[simp] theorem DescriptorBlock.length_link (skip : Nat × Nat) (nb blk : DescriptorBlock) :
    (blk.link skip nb).descriptors.length = blk.descriptors.length := by
  simp [link]

/-- The pointer word a descriptor carries after the loop. -/
theorem ITDescriptor.pointerWord_link (skip : Nat × Nat) (nb : DescriptorBlock) (d : ITDescriptor) :
    (d.link skip nb).pointerWord =
      match d with
      | .storeValue _ | .outputMoreImmediate _ => packPtrWithZ skip.1 skip.2
      | .outputLast _ | .outputLastSkip _ => packPtrWithZ nb.address nb.zValue
      | .outputLastImmediate _ | .outputMore _ => d.pointerWord := by
  cases d <;> rfl

/-- The loop's `isinstance` tests pass over an `OutputLastImmediate` terminal, so its branch
pointer keeps what it had: a one-block ring of a single `OutputLastImmediate` at `0x80000000`
(`z_value` 2) comes out of `finalize_ring` unchanged, with branch word 0 where closing the ring
takes `pack_ptr_with_z(0x80000000, 2) = 0x80000002`. -/
theorem finalizeRing_skips_outputLastImmediate :
    let blk : DescriptorBlock := { descriptors := [.outputLastImmediate {}], address := 0x80000000 }
    let b : ITProgramBuilder :=
      { ITProgramBuilder.new 0x80000000 0 .s400 48000 .next with blocks := [blk] }
    b.finalizeRing.2.blocks = [blk] ∧
    blk.descriptors.map ITDescriptor.pointerWord = [0] ∧
    packPtrWithZ blk.address blk.zValue = 0x80000002 := by
  decide

namespace ITProgramBuilder

@[simp] theorem length_linkRing (b : ITProgramBuilder) : b.linkRing.length = b.blocks.length := by
  simp [linkRing]

/-- Block `i` after linking: block `i`, linked to its successor `(i + 1) % N`. -/
theorem linkRing_getElem? (b : ITProgramBuilder) {i : Nat} {blk nb : DescriptorBlock}
    (hblk : b.blocks[i]? = some blk) (hnb : b.blocks[(i + 1) % b.blocks.length]? = some nb) :
    b.linkRing[i]? = some (blk.link (b.skipTarget blk nb) nb) := by
  simp [linkRing, hblk, hnb, List.getD_eq_getElem?_getD]

/-- A block of the ring has a successor. -/
theorem exists_getElem?_succ (b : ITProgramBuilder) {i : Nat} {blk : DescriptorBlock}
    (hblk : b.blocks[i]? = some blk) : ∃ nb, b.blocks[(i + 1) % b.blocks.length]? = some nb := by
  have hi : i < b.blocks.length := (List.getElem?_eq_some_iff.mp hblk).1
  exact ⟨_, List.getElem?_eq_getElem (Nat.mod_lt _ (by omega))⟩

/-- `finalize_ring` for every builder, the empty one included. -/
theorem finalizeRing_eq (b : ITProgramBuilder) :
    b.finalizeRing = ((b.linkRing.map DescriptorBlock.toBytes).flatten, { b with blocks := b.linkRing }) := by
  unfold finalizeRing
  split
  · next h => cases b; simp_all [linkRing]
  · rfl

end ITProgramBuilder

end ItDmaProgram
