import ItDmaProgram.Encoding

/-!
# The memory a program makes the controller touch

A finalized program sends the controller to four kinds of memory: the descriptor ring from the
base address to the next block address; each packet's payload buffer, which its fragments
cover; the status word `[payload_base - 4, payload_base)` every STORE_VALUE writes; and, under
`SENTINEL`, the 16-byte sentinel slot the skip pointers lead to. `__init__` fixes the sentinel
slot at `base + 0xFF00` and the payload area at `base + 0x10000`, and `_alloc_payload` hands out
the payload buffers one after another from there.

Nothing keeps the ring below the sentinel slot, the status word or the payload area, and
`to_bytes` writes every address modulo `2 ^ 32`, so the regions are disjoint only while the ring
fits below the regions after it and the payload area ends within the 32-bit address space:
`regions_disjoint` proves they are then, and `regions_overlap_long_ring` is a one-packet ring of
4081 slots that runs over the sentinel slot.

* `ITProgramBuilder.PayloadInv`: the payload buffers lie one after another in the payload area
  below the cursor, each tiled by its block's fragments, and every STORE_VALUE writes the
  status word; every call keeps it.
-/

namespace ItDmaProgram

/-- Byte ranges `[lo, hi)` that share no byte. -/
def RangesDisjoint (r s : Nat × Nat) : Prop := r.2 ≤ s.1 ∨ s.2 ≤ r.1

instance : DecidableRel RangesDisjoint := fun r s => inferInstanceAs (Decidable (r.2 ≤ s.1 ∨ s.2 ≤ r.1))

/-- The payload buffer of a block: the payload length from its first fragment's data address. -/
def DescriptorBlock.payloadRegion (blk : DescriptorBlock) : Nat × Nat :=
  match blk.fragments.head? with
  | some (_, addr) => (addr, addr + blk.payloadLength)
  | none => (0, 0)

/-- The address a STORE_VALUE writes its value to. -/
def ITDescriptor.storeAddress? : ITDescriptor → Option Nat
  | .storeValue d => some d.storeAddress
  | _ => none

/-- Every STORE_VALUE of the block writes to `a`. -/
def DescriptorBlock.StoresTo (a : Nat) (blk : DescriptorBlock) : Prop :=
  ∀ d ∈ blk.descriptors, ∀ x, d.storeAddress? = some x → x = a

/-- The memory the program makes the controller touch, from the lowest address up: the
descriptor ring, the sentinel slot under `SENTINEL`, the status word when a block has a
STORE_VALUE, and the blocks' payload buffers. -/
def ITProgramBuilder.regions (b : ITProgramBuilder) : List (Nat × Nat) :=
  (b.baseAddress, b.nextBlockAddress) ::
    ((if b.skipStrategy = .sentinel then [(b.sentinelAddr, b.sentinelAddr + 16)] else []) ++
    ((if b.blocks.any fun blk => blk.descriptors.any ITDescriptor.isStoreValue then
        [(b.payloadBase - 4, b.payloadBase)] else []) ++
      b.blocks.map DescriptorBlock.payloadRegion))

/-! ## Fragments that tile a buffer -/

theorem tiles_sum {a e : Nat} {frags : List (Nat × Nat)} (h : tiles a frags e = true) :
    a + (frags.map Prod.fst).sum = e := by
  induction frags generalizing a with
  | nil => simpa [tiles] using h
  | cons p rest ih =>
    simp only [tiles, Bool.and_eq_true, beq_iff_eq] at h
    have := ih h.2
    simp only [List.map_cons, List.sum_cons]
    omega

/-- A block whose fragments tile `[a, e)` has `[a, e)` as its payload buffer. -/
theorem DescriptorBlock.payloadRegion_of_tiles {blk : DescriptorBlock} {a e : Nat}
    (h : tiles a blk.fragments e = true) (hne : blk.fragments ≠ []) : blk.payloadRegion = (a, e) := by
  have hsum := tiles_sum h
  rw [payloadRegion, payloadLength]
  cases hf : blk.fragments with
  | nil => exact absurd hf hne
  | cons p rest =>
    rw [hf] at h hsum
    obtain ⟨len, addr⟩ := p
    simp only [tiles, Bool.and_eq_true, beq_iff_eq] at h
    simp only [List.head?_cons, h.1, Prod.mk.injEq, true_and]
    exact hsum

@[simp] theorem DescriptorBlock.fragments_unlink (blk : DescriptorBlock) : blk.unlink.fragments = blk.fragments := by
  simp [fragments, unlink, List.filterMap_map, Function.comp_def]

@[simp] theorem DescriptorBlock.payloadRegion_unlink (blk : DescriptorBlock) :
    blk.unlink.payloadRegion = blk.payloadRegion := by
  simp [payloadRegion, payloadLength]

@[simp] theorem ITDescriptor.storeAddress?_unlink (d : ITDescriptor) : d.unlink.storeAddress? = d.storeAddress? := by
  cases d <;> rfl

@[simp] theorem DescriptorBlock.storesTo_unlink (a : Nat) (blk : DescriptorBlock) :
    blk.unlink.StoresTo a ↔ blk.StoresTo a := by
  simp [StoresTo, unlink]

namespace ITProgramBuilder

theorem payloadRegion_dataBlock (b : ITProgramBuilder) (s c f : Nat) (sv : Option Nat) (irq : Bool)
    (hf : 0 < f) : (b.dataBlock s c f sv irq).payloadRegion =
      (b.payloadBase + b.payloadOffset, b.payloadBase + b.payloadOffset + (8 + s * c * 4)) :=
  DescriptorBlock.payloadRegion_of_tiles (tiles_dataBlock b s c f sv irq hf) (by simp [fragments_dataBlock])

theorem payloadRegion_nodataBlock (b : ITProgramBuilder) (irq : Bool) :
    (b.nodataBlock irq).payloadRegion = (b.payloadBase + b.payloadOffset, b.payloadBase + b.payloadOffset + 8) :=
  rfl

theorem dataBlock_storesTo (b : ITProgramBuilder) (s c f : Nat) (sv : Option Nat) (irq : Bool) :
    (b.dataBlock s c f sv irq).StoresTo (b.payloadBase - 4) := by
  intro d hd x hx
  simp only [dataBlock, List.mem_append, List.mem_cons, List.not_mem_nil, or_false] at hd
  rcases hd with ((hd | rfl | hd) | rfl)
  · cases sv <;> simp_all [storeDescriptors, ITDescriptor.storeAddress?]
  · cases hx
  · obtain ⟨o, rfl⟩ := mem_fragmentLoop hd
    cases hx
  · cases hx

theorem nodataBlock_storesTo (b : ITProgramBuilder) (irq : Bool) (a : Nat) : (b.nodataBlock irq).StoresTo a := by
  intro d hd x hx
  simp only [nodataBlock, List.mem_cons, List.not_mem_nil, or_false] at hd
  rcases hd with rfl | rfl <;> cases hx

/-! ## The payload invariant -/

/-- What every builder reached from `new` keeps of its payload buffers. -/
structure PayloadInv (b : ITProgramBuilder) : Prop where
  /-- the payload buffers follow one another -/
  sorted : (b.blocks.map DescriptorBlock.payloadRegion).Pairwise fun r s => r.2 ≤ s.1
  /-- each lies in the payload area, below the cursor -/
  inside : ∀ blk ∈ b.blocks,
    b.payloadBase ≤ blk.payloadRegion.1 ∧ blk.payloadRegion.2 ≤ b.payloadBase + b.payloadOffset
  /-- each is tiled by its block's fragments -/
  tiled : ∀ blk ∈ b.blocks, tiles blk.payloadRegion.1 blk.fragments blk.payloadRegion.2 = true
  /-- every STORE_VALUE writes the status word -/
  store : ∀ blk ∈ b.blocks, blk.StoresTo (b.payloadBase - 4)

theorem payloadInv_new (base channel : Nat) (speed : Speed) (rate : Nat) (strategy : SkipStrategy) :
    (new base channel speed rate strategy).PayloadInv :=
  ⟨by simp [new], by simp [new], by simp [new], by simp [new]⟩

/-- The invariant reads the program only up to the linker's fields, and survives the cursor
moving on. -/
theorem PayloadInv.of_unlink {b b' : ITProgramBuilder} (h : b.PayloadInv)
    (hb : b'.unlink.blocks = b.unlink.blocks) (ha : b'.baseAddress = b.baseAddress)
    (hoff : b.payloadOffset ≤ b'.payloadOffset) : b'.PayloadInv := by
  have hbase : b'.payloadBase = b.payloadBase := by simp only [payloadBase, ha]
  have hmap : b'.blocks.map DescriptorBlock.payloadRegion = b.blocks.map DescriptorBlock.payloadRegion := by
    simpa [List.map_map, Function.comp_def] using congrArg (List.map DescriptorBlock.payloadRegion) hb
  refine ⟨hmap ▸ h.sorted, fun blk hblk => ?_, forall_blocks_of_unlink (by simp) hb h.tiled, ?_⟩
  · have := @forall_blocks_of_unlink (fun blk => b.payloadBase ≤ blk.payloadRegion.1 ∧
      blk.payloadRegion.2 ≤ b.payloadBase + b.payloadOffset) (fun _ => by simp) b b' hb h.inside blk hblk
    rw [hbase]
    omega
  · rw [hbase]
    exact forall_blocks_of_unlink (DescriptorBlock.storesTo_unlink _) hb h.store

/-- Appending a block whose buffer starts at the cursor, with the cursor moved past it. -/
theorem PayloadInv.append {b b' : ITProgramBuilder} {blk : DescriptorBlock} (h : b.PayloadInv)
    (hb : b'.blocks = b.blocks ++ [blk]) (hbase : b'.payloadBase = b.payloadBase)
    (hstart : blk.payloadRegion.1 = b.payloadBase + b.payloadOffset)
    (hend : blk.payloadRegion.2 ≤ b.payloadBase + b'.payloadOffset) (hoff : b.payloadOffset ≤ b'.payloadOffset)
    (htiled : tiles blk.payloadRegion.1 blk.fragments blk.payloadRegion.2 = true)
    (hstore : blk.StoresTo (b.payloadBase - 4)) : b'.PayloadInv := by
  have hall : ∀ {P : DescriptorBlock → Prop}, (∀ x ∈ b.blocks, P x) → P blk → ∀ x ∈ b'.blocks, P x := by
    intro P hl hr x hx
    rw [hb, List.mem_append, List.mem_singleton] at hx
    rcases hx with hx | rfl
    exacts [hl x hx, hr]
  refine ⟨?_, hall (fun x hx => ?_) ?_, hall h.tiled htiled, hbase ▸ hall h.store hstore⟩
  · rw [hb, List.map_append, List.pairwise_append]
    refine ⟨h.sorted, List.pairwise_singleton _ _, fun r hr s hs => ?_⟩
    obtain ⟨x, hx, rfl⟩ := List.mem_map.mp hr
    rw [List.mem_singleton.mp hs, hstart]
    exact (h.inside x hx).2
  · have := h.inside x hx
    rw [hbase]
    omega
  · rw [hbase]
    omega

theorem PayloadInv.apply {b : ITProgramBuilder} (h : b.PayloadInv) (c : Call) : (b.apply c).PayloadInv := by
  rcases apply_cases b c with ⟨hb, ha, hoff⟩ | ⟨s, ch, f, sv, irq, hf, -, hc⟩ | ⟨irq, hc⟩
  · exact h.of_unlink hb ha hoff
  · have hreg := payloadRegion_dataBlock b s ch f sv irq hf
    refine h.append (by rw [hc]) (by rw [hc]; rfl) (by rw [hreg]) ?_ (by rw [hc]; simp [advanceData])
      (by rw [hreg]; exact tiles_dataBlock b s ch f sv irq hf) (dataBlock_storesTo b s ch f sv irq)
    rw [hreg, hc]
    simp only [advanceData]
    omega
  · have hreg := payloadRegion_nodataBlock b irq
    refine h.append (by rw [hc]) (by rw [hc]; rfl) (by rw [hreg]) (by rw [hreg, hc]; dsimp only; omega)
      (by rw [hc]; dsimp only; omega) ?_ (nodataBlock_storesTo b irq _)
    rw [hreg]
    simp [tiles, DescriptorBlock.fragments, nodataBlock, ITDescriptor.payloadFragment]

theorem PayloadInv.run {b : ITProgramBuilder} (h : b.PayloadInv) (cs : List Call) : (b.run cs).PayloadInv := by
  induction cs generalizing b with
  | nil => exact h
  | cons c cs ih => exact ih (h.apply c)

end ITProgramBuilder

/-! ## Disjointness -/

theorem pairwise_ite_append {c : Prop} [Decidable c] {r : Nat × Nat} {l : List (Nat × Nat)}
    (hr : c → ∀ s ∈ l, r.2 ≤ s.1) (hl : l.Pairwise fun r s => r.2 ≤ s.1) :
    ((if c then [r] else []) ++ l).Pairwise fun r s => r.2 ≤ s.1 := by
  split
  · exact List.Pairwise.cons (hr ‹_›) hl
  · exact hl

theorem forall_mem_ite_append {c : Prop} [Decidable c] {r : Nat × Nat} {l : List (Nat × Nat)}
    {P : Nat × Nat → Prop} (hr : c → P r) (hl : ∀ s ∈ l, P s) :
    ∀ s ∈ (if c then [r] else []) ++ l, P s := by
  split <;> simp_all

namespace ITProgramBuilder

/-- A ring that ends below the sentinel slot when there is one, below the status word when there
is one, and below the payload area, and payload buffers in the payload area that follow one
another, make regions that follow one another. -/
theorem regions_sorted {b : ITProgramBuilder}
    (hsentinel : b.skipStrategy = .sentinel → b.nextBlockAddress ≤ b.sentinelAddr)
    (hstatus : (b.blocks.any fun blk => blk.descriptors.any ITDescriptor.isStoreValue) →
      b.nextBlockAddress ≤ b.payloadBase - 4)
    (hpayload : b.nextBlockAddress ≤ b.payloadBase)
    (hpay : ∀ r ∈ b.blocks.map DescriptorBlock.payloadRegion, b.payloadBase ≤ r.1)
    (hsorted : (b.blocks.map DescriptorBlock.payloadRegion).Pairwise fun r s => r.2 ≤ s.1) :
    b.regions.Pairwise fun r s => r.2 ≤ s.1 := by
  have hs : b.sentinelAddr = b.baseAddress + 0xFF00 := rfl
  have hpb : b.payloadBase = b.baseAddress + 0x10000 := rfl
  unfold regions
  refine List.Pairwise.cons ?_ (pairwise_ite_append (fun _ => ?_) (pairwise_ite_append (fun _ => hpay) hsorted))
  · exact forall_mem_ite_append hsentinel
      (forall_mem_ite_append hstatus fun r hr => hpayload.trans (hpay r hr))
  · exact forall_mem_ite_append (fun _ => by dsimp only; omega) fun r hr => by have := hpay r hr; omega

/-- A ring that ends below the payload area, and payload buffers that end at or below `top`, make
regions that end at or below `top`. -/
theorem regions_le {b : ITProgramBuilder} {top : Nat} (hpayload : b.nextBlockAddress ≤ b.payloadBase)
    (htop : b.payloadBase ≤ top) (hpay : ∀ r ∈ b.blocks.map DescriptorBlock.payloadRegion, r.2 ≤ top) :
    ∀ r ∈ b.regions, r.2 ≤ top := by
  have hs : b.sentinelAddr = b.baseAddress + 0xFF00 := rfl
  have hpb : b.payloadBase = b.baseAddress + 0x10000 := rfl
  unfold regions
  exact List.forall_mem_cons.mpr ⟨by dsimp only; omega, forall_mem_ite_append (fun _ => by dsimp only; omega)
    (forall_mem_ite_append (fun _ => by dsimp only; omega) hpay)⟩

/-- Linking the ring changes no region. -/
theorem regions_finalizeRing (b : ITProgramBuilder) : b.finalizeRing.2.regions = b.regions := by
  have h : b.finalizeRing.2.blocks.map DescriptorBlock.unlink = b.blocks.map DescriptorBlock.unlink := by
    simpa only [blocks_unlink] using congrArg ITProgramBuilder.blocks b.unlink_finalizeRing
  have hpay : b.finalizeRing.2.blocks.map DescriptorBlock.payloadRegion = b.blocks.map DescriptorBlock.payloadRegion := by
    simpa only [List.map_map, Function.comp_def, DescriptorBlock.payloadRegion_unlink] using
      congrArg (List.map DescriptorBlock.payloadRegion) h
  have hstore : (b.finalizeRing.2.blocks.any fun blk => blk.descriptors.any ITDescriptor.isStoreValue) =
      (b.blocks.any fun blk => blk.descriptors.any ITDescriptor.isStoreValue) := by
    simpa only [List.any_map, Function.comp_def, DescriptorBlock.unlink, ITDescriptor.isStoreValue_unlink] using
      congrArg (List.any · fun blk => blk.descriptors.any ITDescriptor.isStoreValue) h
  simp only [regions, nextBlockAddress_finalizeRing, hpay, hstore]
  rw [finalizeRing_eq]
  rfl

end ITProgramBuilder

/-- The regions lie in the 32-bit address space, where the image's address words name them
unchanged, and are pairwise disjoint; each payload buffer is tiled by its block's fragments, and
every STORE_VALUE writes the status word. -/
def ITProgramBuilder.MemorySeparated (b : ITProgramBuilder) : Prop :=
  (∀ r ∈ b.regions, r.2 ≤ 2 ^ 32) ∧
  b.regions.Pairwise RangesDisjoint ∧
  (∀ blk ∈ b.blocks, tiles blk.payloadRegion.1 blk.fragments blk.payloadRegion.2 = true) ∧
  (∀ blk ∈ b.blocks, blk.StoresTo (b.payloadBase - 4))

/-- **Memory regions are disjoint** while the ring fits. After any calls on a new builder whose
ring ends at or below `sentinel_addr` under `SENTINEL`, at or below the status word when a block
has a STORE_VALUE, and at or below the payload area, and whose payload area ends within the
32-bit address space, the finalized program's descriptor ring, sentinel slot, status word and
payload buffers lie in that space and share no byte. -/
theorem regions_disjoint (base channel : Nat) (speed : Speed) (rate : Nat) (strategy : SkipStrategy)
    (calls : List Call) :
    let b := (ITProgramBuilder.new base channel speed rate strategy).run calls
    (b.skipStrategy = .sentinel → b.nextBlockAddress ≤ b.sentinelAddr) →
    ((b.blocks.any fun blk => blk.descriptors.any ITDescriptor.isStoreValue) →
      b.nextBlockAddress ≤ b.payloadBase - 4) →
    b.nextBlockAddress ≤ b.payloadBase → b.payloadBase + b.payloadOffset ≤ 2 ^ 32 →
    b.finalizeRing.2.MemorySeparated := by
  intro b hsentinel hstatus hpayload hbelow
  have hinv : b.PayloadInv := (ITProgramBuilder.payloadInv_new _ _ _ _ _).run calls
  have hp : b.finalizeRing.2.PayloadInv := hinv.apply .finalizeRing
  have hpay : ∀ r ∈ b.blocks.map DescriptorBlock.payloadRegion,
      b.payloadBase ≤ r.1 ∧ r.2 ≤ b.payloadBase + b.payloadOffset := by
    intro r hr
    obtain ⟨blk, hblk, rfl⟩ := List.mem_map.mp hr
    exact hinv.inside blk hblk
  rw [ITProgramBuilder.MemorySeparated, ITProgramBuilder.regions_finalizeRing]
  refine ⟨ITProgramBuilder.regions_le hpayload (by omega) fun r hr => (hpay r hr).2.trans hbelow,
    (ITProgramBuilder.regions_sorted hsentinel hstatus hpayload (fun r hr => (hpay r hr).1)
      hinv.sorted).imp Or.inl, hp.tiled, hp.store⟩

/-- Four DATA packets with a STORE_VALUE each, under `SENTINEL`: a ring of 16 slots. -/
theorem regions_disjoint_four_packets :
    ((ITProgramBuilder.new 0x80000000 0 .s400 48000 .sentinel).run
        (List.replicate 4 (.addDataPacket 8 2 1 (some 1) false))).finalizeRing.2.MemorySeparated :=
  regions_disjoint 0x80000000 0 .s400 48000 .sentinel _ (fun _ => by decide) (fun _ => by decide)
    (by decide) (by decide)

/-! ## A ring that runs over the sentinel slot -/

/-- The loop's OUTPUT_MORE descriptors are 16 bytes each. -/
theorem sum_size_fragmentLoop (n size a : Nat) :
    ((fragmentLoop n size a).1.map ITDescriptor.size).sum = 16 * n := by
  induction n generalizing a with
  | zero => rfl
  | succ n ih =>
    simp only [fragmentLoop, List.map_cons, List.sum_cons, ih]
    simp only [ITDescriptor.size]
    omega

/-- A DATA block without a STORE_VALUE is `fragments + 2` slots long: the 32-byte header and one
slot per fragment. -/
theorem zValue_dataBlock (b : ITProgramBuilder) (s c f : Nat) (irq : Bool) (hf : 0 < f) :
    (b.dataBlock s c f none irq).zValue = f + 2 := by
  simp only [DescriptorBlock.zValue, ITProgramBuilder.dataBlock, ITProgramBuilder.storeDescriptors,
    List.nil_append, List.map_append, List.map_cons, List.map_nil, List.sum_append, List.sum_cons,
    List.sum_nil, sum_size_fragmentLoop]
  simp only [ITDescriptor.size]
  omega

/-- Under `SENTINEL`, a ring that ends past `sentinel_addr` runs over the sentinel slot. -/
theorem ITProgramBuilder.regions_overlap_of_long_ring {b : ITProgramBuilder} (hs : b.skipStrategy = .sentinel)
    (hlong : b.sentinelAddr < b.nextBlockAddress) : ¬b.regions.Pairwise RangesDisjoint := by
  intro h
  have hmem : (b.sentinelAddr, b.sentinelAddr + 16) ∈ ((if b.skipStrategy = .sentinel then
      [(b.sentinelAddr, b.sentinelAddr + 16)] else []) ++
      ((if b.blocks.any fun blk => blk.descriptors.any ITDescriptor.isStoreValue then
        [(b.payloadBase - 4, b.payloadBase)] else []) ++ b.blocks.map DescriptorBlock.payloadRegion)) := by
    simp [hs]
  have hdisj := List.rel_of_pairwise_cons h hmem
  simp only [RangesDisjoint, sentinelAddr] at hdisj hlong
  omega

/-- One DATA packet of 4077 mono samples in 4079 fragments of 4 bytes under `SENTINEL`: the block
is 4081 slots long, so the ring `[base, base + 0xFF10)` runs over the sentinel slot
`[base + 0xFF00, base + 0xFF10)`. -/
theorem regions_overlap_long_ring :
    ¬((ITProgramBuilder.new 0x80000000 0 .s400 48000 .sentinel).run
        [.addDataPacket 4077 1 4079 none false]).finalizeRing.2.regions.Pairwise RangesDisjoint := by
  have hrun : (ITProgramBuilder.new 0x80000000 0 .s400 48000 .sentinel).run
      [.addDataPacket 4077 1 4079 none false] =
      { (ITProgramBuilder.new 0x80000000 0 .s400 48000 .sentinel).advanceData 4077 1 with
        blocks := [(ITProgramBuilder.new 0x80000000 0 .s400 48000 .sentinel).dataBlock 4077 1 4079 none false] } := by
    rw [ITProgramBuilder.run_cons, ITProgramBuilder.run_nil, ITProgramBuilder.apply,
      ITProgramBuilder.addDataPacket_eq,
      show fdfForRate (ITProgramBuilder.new 0x80000000 0 .s400 48000 .sentinel).sampleRate = .ok 2 from rfl]
    simp
    rfl
  rw [hrun]
  refine ITProgramBuilder.regions_overlap_of_long_ring (by rw [ITProgramBuilder.finalizeRing_eq]; rfl) ?_
  rw [ITProgramBuilder.nextBlockAddress_finalizeRing, ITProgramBuilder.sentinelAddr,
    ITProgramBuilder.baseAddress_finalizeRing]
  refine Nat.lt_of_lt_of_eq ?_ (Eq.symm (ITProgramBuilder.nextBlockAddress_of_getLast? rfl))
  rw [List.getLast_singleton, zValue_dataBlock _ _ _ _ _ (by decide)]
  decide

end ItDmaProgram
