import ItDmaProgram.Layout

/-!
# Ring closure

The controller follows the branch pointer of each block's terminal descriptor: it takes the
pointer's address bits (`ptr & 0xFFFFFFF0`) and runs the block found there. `followBranch`
models that lookup over the block list and `ringWalk` iterates it from block 0.

For a program built on an aligned base and lying below `2 ^ 32`, `finalize_ring` makes the
walk a single cycle through all blocks (`ring_closure`): block addresses are distinct, the
terminal of block `i` points at block `(i + 1) % N`, and the skip pointers follow the
strategy. The sentinel is the exception the address width forces: its address is
`base + 0xFF00`, which can lie past `2 ^ 32` when the ring does not, and the pointer then
carries it modulo `2 ^ 32`.
-/

namespace ItDmaProgram

/-- The pointer word of the block's terminal (last) descriptor. -/
def DescriptorBlock.branchWord (blk : DescriptorBlock) : Nat :=
  (blk.descriptors.getLast?.map ITDescriptor.pointerWord).getD 0

/-- The block the controller runs after block `i`: the first block at the address bits of
block `i`'s branch pointer. -/
def followBranch (bs : List DescriptorBlock) (i : Nat) : Option Nat :=
  bs[i]?.bind fun blk => bs.findIdx? fun nb => nb.address == blk.branchWord &&& 0xFFFFFFF0

/-- The block the controller runs after `k` branches from block 0. -/
def ringWalk (bs : List DescriptorBlock) : Nat → Option Nat
  | 0 => some 0
  | k + 1 => (ringWalk bs k).bind (followBranch bs)

/-! ## Chained blocks have increasing addresses -/

theorem Chained.le_address {a : Nat} {bs : List DescriptorBlock} (h : Chained a bs) :
    ∀ blk ∈ bs, a ≤ blk.address := by
  induction bs generalizing a with
  | nil => simp
  | cons blk bs ih =>
    rintro x (_ | ⟨_, hx⟩)
    · exact h.1.ge
    · exact le_trans (Nat.le_add_right _ _) (ih h.2 x hx)

/-- With every block at least 16 bytes, chained addresses increase strictly. -/
theorem Chained.pairwise_lt {a : Nat} {bs : List DescriptorBlock} (h : Chained a bs)
    (hpos : ∀ blk ∈ bs, 0 < blk.zValue) : bs.Pairwise (·.address < ·.address) := by
  induction bs generalizing a with
  | nil => exact .nil
  | cons blk bs ih =>
    refine .cons (fun x hx => ?_) (ih h.2 fun x hx => hpos x (.tail _ hx))
    have := h.2.le_address x hx
    have := hpos blk (.head _)
    have := h.1
    omega

/-- In a list of strictly increasing addresses, block `j` is the first at its address. -/
theorem findIdx?_address {bs : List DescriptorBlock} (hlt : bs.Pairwise (·.address < ·.address))
    {j : Nat} (hj : j < bs.length) :
    bs.findIdx? (fun nb => nb.address == bs[j].address) = some j := by
  rw [List.findIdx?_eq_some_iff_getElem]
  refine ⟨hj, by simp, fun k hk => ?_⟩
  have := List.pairwise_iff_getElem.mp hlt k j (by omega) hj hk
  simp only [beq_iff_eq]
  omega

/-- A walk whose every step goes to the next block modulo `N` reaches block `k % N` after `k` steps. -/
theorem ringWalk_eq_mod {bs : List DescriptorBlock}
    (hstep : ∀ i < bs.length, followBranch bs i = some ((i + 1) % bs.length)) (hne : bs ≠ []) (k : Nat) :
    ringWalk bs k = some (k % bs.length) := by
  have hpos : 0 < bs.length := List.length_pos.mpr hne
  induction k with
  | zero => simp [ringWalk]
  | succ k ih =>
    rw [ringWalk, ih, Option.some_bind, hstep _ (Nat.mod_lt _ hpos), Nat.add_mod, Nat.mod_mod,
      ← Nat.add_mod]

/-- A block ends inside the span of a chained list. -/
theorem Chained.address_add_le {a : Nat} {bs : List DescriptorBlock} (h : Chained a bs) {i : Nat}
    (hi : i < bs.length) : bs[i].address + 16 * bs[i].zValue ≤ a + 16 * totalZ bs := by
  induction bs generalizing a i with
  | nil => simp at hi
  | cons blk bs ih =>
    cases i with
    | zero => simp only [List.getElem_cons_zero, h.1, totalZ_cons]; omega
    | succ i =>
      have := ih h.2 (i := i) (by simpa using hi)
      simp only [List.getElem_cons_succ, totalZ_cons]
      omega

/-! ## What the linker leaves in a built program -/

@[simp] theorem ITDescriptor.hasSkip_link {skip : Nat × Nat} {nb : DescriptorBlock} {d : ITDescriptor} :
    (d.link skip nb).hasSkip = d.hasSkip := by
  cases d <;> rfl

/-- The terminal of a linked built block branches to the successor it was linked to. -/
theorem DescriptorBlock.Built.branchWord_link {blk : DescriptorBlock} (hb : blk.Built) (skip : Nat × Nat)
    (nb : DescriptorBlock) :
    (∃ ol, (blk.link skip nb).descriptors.getLast? = some (.outputLast ol)) ∧
    (blk.link skip nb).branchWord = packPtrWithZ nb.address nb.zValue := by
  obtain ⟨d, hl, hd⟩ := hb.2
  cases d with
  | outputLast ol =>
    simp only [DescriptorBlock.branchWord, DescriptorBlock.link, List.getLast?_map, hl, Option.map_some']
    exact ⟨⟨_, rfl⟩, rfl⟩
  | _ => simp [ITDescriptor.isOutputLast] at hd

/-- A skip-carrying descriptor of a linked block points at the skip target. -/
theorem DescriptorBlock.pointerWord_of_hasSkip {blk nb : DescriptorBlock} {skip : Nat × Nat}
    {d : ITDescriptor} (hd : d ∈ (blk.link skip nb).descriptors) (hs : d.hasSkip) :
    d.pointerWord = packPtrWithZ skip.1 skip.2 := by
  obtain ⟨d₀, -, rfl⟩ := List.mem_map.mp hd
  rw [ITDescriptor.hasSkip_link] at hs
  cases d₀ <;> simp [ITDescriptor.hasSkip] at hs <;> rfl

namespace ITProgramBuilder

/-- In a program below `2 ^ 32` on an aligned base, every block address is its own address bits. -/
theorem Inv.addressBits {b : ITProgramBuilder} (h : b.Inv) (haligned : b.baseAddress % 16 = 0)
    (hbelow : b.nextBlockAddress ≤ 2 ^ 32) {blk : DescriptorBlock} (hmem : blk ∈ b.blocks) (z : Nat) :
    packPtrWithZ blk.address z &&& 0xFFFFFFF0 = blk.address := by
  obtain ⟨i, hi, rfl⟩ := List.getElem_of_mem hmem
  have hend := h.chained.address_add_le hi
  have hpos := (h.built _ hmem).zValue_pos
  have haddr := h.chained.address_getElem hi
  rw [h.nextBlockAddress_eq] at hbelow
  rw [packPtrWithZ_land_0xFFFFFFF0]
  omega

/-- Block `i` of the linked ring: a block of the program linked to another, its successor, which
the ring holds at index `(i + 1) % N`. -/
theorem linkRing_getElem?_cases {b : ITProgramBuilder} {i : Nat} {blk : DescriptorBlock}
    (hblk : b.linkRing[i]? = some blk) : ∃ blk₀ nb₀, blk₀ ∈ b.blocks ∧ nb₀ ∈ b.blocks ∧
      blk = blk₀.link (b.skipTarget blk₀ nb₀) nb₀ ∧
      b.linkRing[(i + 1) % b.blocks.length]?.map DescriptorBlock.address = some nb₀.address := by
  have hi : i < b.blocks.length := by simpa using (List.getElem?_eq_some_iff.mp hblk).1
  obtain ⟨nb₀, hnb⟩ := b.exists_getElem?_succ (List.getElem?_eq_getElem hi)
  obtain ⟨nb₁, hnb₁⟩ := b.exists_getElem?_succ hnb
  obtain ⟨hj, hnbj⟩ := List.getElem?_eq_some_iff.mp hnb
  refine ⟨_, nb₀, List.getElem_mem hi, hnbj ▸ List.getElem_mem hj, ?_, ?_⟩
  · rw [b.linkRing_getElem? (List.getElem?_eq_getElem hi) hnb] at hblk
    exact (Option.some.inj hblk).symm
  · simp [b.linkRing_getElem? hnb hnb₁]

/-- Under the invariant the linked ring's addresses increase strictly. -/
theorem Inv.linkRing_sorted {b : ITProgramBuilder} (h : b.Inv) :
    b.linkRing.Pairwise (·.address < ·.address) := by
  have hfin : b.finalizeRing.2.Inv := h.apply .finalizeRing
  rw [finalizeRing_eq] at hfin
  exact hfin.chained.pairwise_lt fun blk hblk => (hfin.built blk hblk).zValue_pos

/-- Under the invariant, on an aligned base and below `2 ^ 32`, block `i` of the linked ring
branches to block `(i + 1) % N`. -/
theorem Inv.followBranch_linkRing {b : ITProgramBuilder} (h : b.Inv) (haligned : b.baseAddress % 16 = 0)
    (hbelow : b.nextBlockAddress ≤ 2 ^ 32) {i : Nat} (hi : i < b.linkRing.length) :
    followBranch b.linkRing i = some ((i + 1) % b.linkRing.length) := by
  obtain ⟨blk₀, nb₀, hm₀, hmn, heq, hnext⟩ := linkRing_getElem?_cases (List.getElem?_eq_getElem hi)
  obtain ⟨nb, hnbget, haddr⟩ := Option.map_eq_some'.mp hnext
  obtain ⟨hj, hnbj⟩ := List.getElem?_eq_some_iff.mp hnbget
  rw [length_linkRing, followBranch, List.getElem?_eq_getElem hi, Option.some_bind, heq,
    ((h.built _ hm₀).branchWord_link _ nb₀).2, h.addressBits haligned hbelow hmn, ← haddr, ← hnbj,
    findIdx?_address h.linkRing_sorted hj]

end ITProgramBuilder

/-- The ring `finalize_ring` links from `b`: distinct block addresses; block `i` ends in an
OUTPUT_LAST whose branch pointer's address bits are the address of block `(i + 1) % N`; the walk
along branch pointers from block 0 visits blocks `0, 1, …, N - 1` and is back at block 0 after
`N` steps; and the skip pointer of every STORE_VALUE and OUTPUT_MORE-Immediate of block `i` has
as address bits the address of block `(i + 1) % N` under `NEXT`, of block `i` under `SELF`, and
`sentinel_addr % 2 ^ 32` with Z nibble 1 under `SENTINEL`. -/
def RingClosure (b : ITProgramBuilder) : Prop :=
  let blocks := b.finalizeRing.2.blocks
  let N := blocks.length
  (blocks.map DescriptorBlock.address).Nodup ∧
  (∀ i blk, blocks[i]? = some blk →
    (∃ ol, blk.descriptors.getLast? = some (.outputLast ol)) ∧
    blocks[(i + 1) % N]?.map DescriptorBlock.address = some (blk.branchWord &&& 0xFFFFFFF0)) ∧
  (∀ k < N, ringWalk blocks k = some k) ∧ ringWalk blocks N = some 0 ∧
  (∀ i blk, blocks[i]? = some blk → ∀ d ∈ blk.descriptors, d.hasSkip →
    some (d.pointerWord &&& 0xFFFFFFF0) =
      (match b.skipStrategy with
        | .next => blocks[(i + 1) % N]?.map DescriptorBlock.address
        | .self => some blk.address
        | .sentinel => some (b.sentinelAddr % 2 ^ 32)) ∧
    (b.skipStrategy = .sentinel → d.pointerWord &&& 0xF = 1))

/-- **Ring closure**, with the sentinel taken modulo `2 ^ 32`: after any calls on a new builder
with an aligned base that leave a non-empty program below `2 ^ 32`, the ring closes. -/
theorem ring_closure (base channel : Nat) (speed : Speed) (rate : Nat) (strategy : SkipStrategy)
    (calls : List Call) (haligned : base % 16 = 0)
    (hne : ((ITProgramBuilder.new base channel speed rate strategy).run calls).blocks ≠ [])
    (hbelow : ((ITProgramBuilder.new base channel speed rate strategy).run calls).nextBlockAddress ≤ 2 ^ 32) :
    RingClosure ((ITProgramBuilder.new base channel speed rate strategy).run calls) := by
  set b := (ITProgramBuilder.new base channel speed rate strategy).run calls
  have hinv : b.Inv := (ITProgramBuilder.inv_new _ _ _ _ _).run calls
  have hbase : b.baseAddress = base := by simp [b, ITProgramBuilder.new]
  have hbits : ∀ {blk : DescriptorBlock}, blk ∈ b.blocks → ∀ z,
      packPtrWithZ blk.address z &&& 0xFFFFFFF0 = blk.address :=
    fun hm z => hinv.addressBits (hbase ▸ haligned) hbelow hm z
  have hstep : ∀ i < b.linkRing.length, followBranch b.linkRing i = some ((i + 1) % b.linkRing.length) :=
    fun _ hi => hinv.followBranch_linkRing (hbase ▸ haligned) hbelow hi
  have hN : b.linkRing ≠ [] := by simpa [← List.length_pos] using List.length_pos.mpr hne
  simp only [RingClosure, ITProgramBuilder.finalizeRing_eq]
  refine ⟨List.pairwise_map.mpr (hinv.linkRing_sorted.imp Nat.ne_of_lt), fun i blk hblk => ?_,
    fun k hk => by rw [ringWalk_eq_mod hstep hN, Nat.mod_eq_of_lt hk],
    by rw [ringWalk_eq_mod hstep hN, Nat.mod_self], fun i blk hblk d hd hs => ?_⟩
  · obtain ⟨blk₀, nb₀, hm₀, hmn, rfl, hnext⟩ := ITProgramBuilder.linkRing_getElem?_cases hblk
    obtain ⟨hlast, hword⟩ := (hinv.built _ hm₀).branchWord_link (b.skipTarget blk₀ nb₀) nb₀
    exact ⟨hlast, by rw [ITProgramBuilder.length_linkRing, hnext, hword, hbits hmn]⟩
  · obtain ⟨blk₀, nb₀, hm₀, hmn, rfl, hnext⟩ := ITProgramBuilder.linkRing_getElem?_cases hblk
    rw [DescriptorBlock.pointerWord_of_hasSkip hd hs]
    cases hst : b.skipStrategy with
    | next => simp [ITProgramBuilder.skipTarget, hst, hbits hmn, hnext]
    | self => simp [ITProgramBuilder.skipTarget, hst, hbits hm₀]
    | sentinel =>
      simp only [ITProgramBuilder.skipTarget, hst, ITProgramBuilder.sentinelAddr,
        packPtrWithZ_land_0xFFFFFFF0, packPtrWithZ_land_0xF, hbase]
      refine ⟨congrArg some ?_, fun _ => trivial⟩
      omega

/-- The scenario of the spec: four DATA packets of 8 stereo samples from `0x80000000`. -/
theorem ring_closure_four_packets :
    0x80000000 % 16 = 0 ∧
    ((ITProgramBuilder.new 0x80000000 0 .s400 48000 .next).run
      (List.replicate 4 (.addDataPacket 8 2 1 none false))).blocks ≠ [] ∧
    ((ITProgramBuilder.new 0x80000000 0 .s400 48000 .next).run
      (List.replicate 4 (.addDataPacket 8 2 1 none false))).nextBlockAddress ≤ 2 ^ 32 ∧
    RingClosure ((ITProgramBuilder.new 0x80000000 0 .s400 48000 .next).run
      (List.replicate 4 (.addDataPacket 8 2 1 none false))) :=
  ⟨by decide, by decide, by decide,
    ring_closure 0x80000000 0 .s400 48000 .next _ (by decide) (by decide) (by decide)⟩

/-- The sentinel past `2 ^ 32`: on the aligned base `0xFFFFFF00` one DATA packet lies below
`2 ^ 32`, but `sentinel_addr = 0x1_0000_FE00` does not, and its skip pointer carries `0xFE00`. -/
theorem ring_closure_sentinel_wraps :
    let b := (ITProgramBuilder.new 0xFFFFFF00 0 .s400 48000 .sentinel).run [.addDataPacket 8 2 1 none false]
    b.baseAddress % 16 = 0 ∧ b.blocks ≠ [] ∧ b.nextBlockAddress ≤ 2 ^ 32 ∧
    ∃ blk ∈ b.finalizeRing.2.blocks, ∃ d ∈ blk.descriptors, d.hasSkip ∧
      d.pointerWord &&& 0xFFFFFFF0 ≠ b.sentinelAddr := by
  decide

end ItDmaProgram
