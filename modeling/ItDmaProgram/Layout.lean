import ItDmaProgram.Run
import Mathlib.Algebra.Order.BigOperators.Group.List

/-!
# The layout of a built program

A builder reached from `ITProgramBuilder.new` by any calls keeps two facts, bundled in
`ITProgramBuilder.Inv`: its blocks are chained from the base address (each block starts where
the previous one ends, `address + 16 * z_value`), and each block has the shape the
construction calls give it (descriptors of the builder's four kinds at their default sizes,
ending in an OUTPUT_LAST). Both facts read the program only up to the linker's fields, so
`finalize_ring` keeps them as well as the construction calls do.

From the invariant, `layout_agreement`: every descriptor's encoding is as long as its `size`
field, block `i` is encoded in `16 * z_value` bytes at offset `address - base` of the image
`finalize_ring` returns, and the image is as long as the blocks' sizes together.
-/

namespace ItDmaProgram

/-! ## Chained blocks -/

/-- The blocks lie one after the other from address `a` on. -/
def Chained : Nat → List DescriptorBlock → Prop
  | _, [] => True
  | a, blk :: rest => blk.address = a ∧ Chained (a + 16 * blk.zValue) rest

/-- The size of a block list in 16-byte units. -/
def totalZ (bs : List DescriptorBlock) : Nat := (bs.map DescriptorBlock.zValue).sum

@[simp] theorem totalZ_nil : totalZ [] = 0 := rfl

@[simp] theorem totalZ_cons (blk : DescriptorBlock) (bs : List DescriptorBlock) :
    totalZ (blk :: bs) = blk.zValue + totalZ bs := by simp [totalZ]

@[simp] theorem totalZ_append (bs cs : List DescriptorBlock) : totalZ (bs ++ cs) = totalZ bs + totalZ cs := by
  simp [totalZ]

theorem totalZ_mul_sixteen (bs : List DescriptorBlock) :
    16 * totalZ bs = (bs.map fun blk => 16 * blk.zValue).sum := by
  induction bs with
  | nil => rfl
  | cons blk bs ih => simp only [totalZ_cons, List.map_cons, List.sum_cons, ← ih]; ring

@[simp] theorem totalZ_map_unlink (bs : List DescriptorBlock) : totalZ (bs.map DescriptorBlock.unlink) = totalZ bs := by
  simp [totalZ, Function.comp_def]

theorem chained_append {a : Nat} {bs : List DescriptorBlock} {blk : DescriptorBlock} :
    Chained a (bs ++ [blk]) ↔ Chained a bs ∧ blk.address = a + 16 * totalZ bs := by
  induction bs generalizing a with
  | nil => simp [Chained]
  | cons c bs ih =>
    rw [List.cons_append]
    simp only [Chained, ih, totalZ_cons, Nat.mul_add, Nat.add_assoc, and_assoc]

theorem chained_map_unlink {a : Nat} {bs : List DescriptorBlock} :
    Chained a (bs.map DescriptorBlock.unlink) ↔ Chained a bs := by
  induction bs generalizing a with
  | nil => rfl
  | cons blk bs ih => simp [Chained, ih]

/-- Block `i` of a chained list starts after the blocks before it. -/
theorem Chained.address_getElem {a : Nat} {bs : List DescriptorBlock} (h : Chained a bs) {i : Nat}
    (hi : i < bs.length) : bs[i].address = a + 16 * totalZ (bs.take i) := by
  induction bs generalizing a i with
  | nil => simp at hi
  | cons blk bs ih =>
    cases i with
    | zero => simpa using h.1
    | succ i => rw [List.getElem_cons_succ, ih h.2, List.take_succ_cons, totalZ_cons]; ring

/-- Blocks chained from an aligned address are aligned. -/
theorem Chained.address_aligned {a : Nat} {bs : List DescriptorBlock} (h : Chained a bs) (ha : a % 16 = 0) :
    ∀ blk ∈ bs, blk.address % 16 = 0 := by
  intro blk hblk
  obtain ⟨i, hi, rfl⟩ := List.getElem_of_mem hblk
  rw [h.address_getElem hi]
  omega

/-! ## Blocks the builder makes -/

/-- A descriptor of a kind the builder creates, at that kind's default size. -/
def ITDescriptor.Built : ITDescriptor → Prop
  | .storeValue d => d.size = 16
  | .outputMoreImmediate d => d.size = 32
  | .outputMore d => d.size = 16
  | .outputLast d => d.size = 16
  | .outputLastImmediate _ | .outputLastSkip _ => False

/-- An `OutputLast`. -/
def ITDescriptor.isOutputLast : ITDescriptor → Bool
  | .outputLast _ => true
  | _ => false

/-- A block the builder creates: built descriptors, ending in an OUTPUT_LAST. -/
def DescriptorBlock.Built (blk : DescriptorBlock) : Prop :=
  (∀ d ∈ blk.descriptors, d.Built) ∧ ∃ d, blk.descriptors.getLast? = some d ∧ d.isOutputLast

namespace ITDescriptor

theorem Built.length_toBytes {d : ITDescriptor} (h : d.Built) : d.toBytes.length = d.size := by
  cases d <;> simp_all [Built, isImmediate, size]

theorem Built.size_eq {d : ITDescriptor} (h : d.Built) : d.size = 16 * (d.size / 16) := by
  cases d <;> simp_all [Built, size]

@[simp] theorem built_link {skip : Nat × Nat} {nb : DescriptorBlock} {d : ITDescriptor} :
    (d.link skip nb).Built ↔ d.Built := by
  cases d <;> rfl

@[simp] theorem built_unlink {d : ITDescriptor} : d.unlink.Built ↔ d.Built := by
  cases d <;> rfl

@[simp] theorem isOutputLast_link {skip : Nat × Nat} {nb : DescriptorBlock} {d : ITDescriptor} :
    (d.link skip nb).isOutputLast = d.isOutputLast := by
  cases d <;> rfl

@[simp] theorem isOutputLast_unlink {d : ITDescriptor} : d.unlink.isOutputLast = d.isOutputLast := by
  cases d <;> rfl

end ITDescriptor

namespace DescriptorBlock

/-- A built block is `16 * z_value` bytes, the sum of its descriptors' sizes. -/
theorem Built.sum_size {blk : DescriptorBlock} (h : blk.Built) :
    (blk.descriptors.map ITDescriptor.size).sum = 16 * blk.zValue := by
  have hsum : ∀ ds : List ITDescriptor, (∀ d ∈ ds, d.Built) →
      (ds.map ITDescriptor.size).sum = 16 * ((ds.map ITDescriptor.size).sum / 16) := by
    intro ds hds
    induction ds with
    | nil => rfl
    | cons d ds ih =>
      have hd := (hds d (by simp)).size_eq
      have := ih fun d' hd' => hds d' (by simp [hd'])
      simp only [List.map_cons, List.sum_cons]
      omega
  have := hsum _ h.1
  simp only [zValue]
  omega

theorem Built.length_toBytes {blk : DescriptorBlock} (h : blk.Built) : blk.toBytes.length = 16 * blk.zValue := by
  rw [← h.sum_size, toBytes, List.length_flatten, List.map_map]
  congr 1
  exact List.map_congr_left fun d hd => (h.1 d hd).length_toBytes

theorem Built.zValue_pos {blk : DescriptorBlock} (h : blk.Built) : 0 < blk.zValue := by
  obtain ⟨d, hl, hd⟩ := h.2
  have hmem := List.mem_of_getLast?_eq_some hl
  have h16 : 16 ≤ d.size := by
    have := h.1 d hmem
    cases d <;> simp_all [ITDescriptor.Built, ITDescriptor.isOutputLast, ITDescriptor.size]
  have := List.le_sum_of_mem (List.mem_map_of_mem ITDescriptor.size hmem)
  simp only [zValue]
  omega

/-- Any map that keeps every descriptor's shape keeps the block's. -/
theorem built_map {f : ITDescriptor → ITDescriptor} (hb : ∀ d, (f d).Built ↔ d.Built)
    (hl : ∀ d, (f d).isOutputLast = d.isOutputLast) {blk : DescriptorBlock} (a : Nat) :
    (DescriptorBlock.mk (blk.descriptors.map f) a).Built ↔ blk.Built := by
  simp only [Built, List.mem_map, List.getLast?_map, forall_exists_index, and_imp,
    forall_apply_eq_imp_iff₂, hb, Option.map_eq_some', exists_exists_and_eq_and, hl]

@[simp] theorem built_unlink {blk : DescriptorBlock} : blk.unlink.Built ↔ blk.Built :=
  built_map (fun _ => ITDescriptor.built_unlink) (fun _ => ITDescriptor.isOutputLast_unlink) _

@[simp] theorem built_link {skip : Nat × Nat} {nb blk : DescriptorBlock} : (blk.link skip nb).Built ↔ blk.Built :=
  built_map (fun _ => ITDescriptor.built_link) (fun _ => ITDescriptor.isOutputLast_link) _

end DescriptorBlock

theorem dataBlock_built (b : ITProgramBuilder) (s c f : Nat) (sv : Option Nat) (irq : Bool) :
    (b.dataBlock s c f sv irq).Built := by
  refine ⟨fun d hd => ?_, ⟨_, List.getLast?_concat _, rfl⟩⟩
  simp only [ITProgramBuilder.dataBlock, fragmentLoop_fst, List.mem_append, List.mem_cons,
    List.mem_map, List.mem_singleton, List.not_mem_nil, or_false] at hd
  rcases hd with ((hd | rfl | ⟨k, -, rfl⟩) | rfl)
  · cases sv <;> simp_all [ITProgramBuilder.storeDescriptors, ITDescriptor.Built]
  all_goals rfl

theorem nodataBlock_built (b : ITProgramBuilder) (irq : Bool) : (b.nodataBlock irq).Built := by
  refine ⟨fun d hd => ?_, by simp [ITProgramBuilder.nodataBlock, ITDescriptor.isOutputLast]⟩
  simp only [ITProgramBuilder.nodataBlock, List.mem_cons, List.mem_singleton, List.not_mem_nil,
    or_false] at hd
  rcases hd with rfl | rfl <;> rfl

/-! ## The invariant -/

namespace ITProgramBuilder

/-- What every builder reached from `new` keeps. -/
structure Inv (b : ITProgramBuilder) : Prop where
  /-- the blocks lie one after the other from the base address -/
  chained : Chained b.baseAddress b.blocks
  /-- every block has the shape the construction calls give it -/
  built : ∀ blk ∈ b.blocks, blk.Built

theorem inv_new (base channel : Nat) (speed : Speed) (rate : Nat) (strategy : SkipStrategy) :
    (new base channel speed rate strategy).Inv :=
  ⟨trivial, by simp [new]⟩

/-- Under the invariant, the next block goes right after all the blocks so far. -/
theorem Inv.nextBlockAddress_eq {b : ITProgramBuilder} (h : b.Inv) :
    b.nextBlockAddress = b.baseAddress + 16 * totalZ b.blocks := by
  have hc := h.chained
  rcases List.eq_nil_or_concat b.blocks with hb | ⟨bs, last, hb⟩
  · simp [nextBlockAddress, hb]
  · rw [List.concat_eq_append] at hb
    rw [hb, chained_append] at hc
    rw [nextBlockAddress_of_getLast? (by rw [hb, List.getLast?_concat]), hc.2, hb, totalZ_append,
      totalZ_cons, totalZ_nil, blockSize]
    ring

/-- The invariant reads the program only up to the linker's fields. -/
theorem Inv.of_unlink {b b' : ITProgramBuilder} (h : b.Inv) (hb : b'.unlink.blocks = b.unlink.blocks)
    (ha : b'.baseAddress = b.baseAddress) : b'.Inv := by
  refine ⟨?_, forall_blocks_of_unlink (fun _ => DescriptorBlock.built_unlink) hb h.built⟩
  simp only [blocks_unlink] at hb
  rw [ha, ← chained_map_unlink, hb, chained_map_unlink]
  exact h.chained

/-- Appending a built block at the next block address keeps the invariant. -/
theorem Inv.append {b b' : ITProgramBuilder} {blk : DescriptorBlock} (h : b.Inv) (hblk : blk.Built)
    (haddr : blk.address = b.nextBlockAddress) (hb : b'.blocks = b.blocks ++ [blk])
    (ha : b'.baseAddress = b.baseAddress) : b'.Inv := by
  refine ⟨?_, fun x hx => ?_⟩
  · rw [hb, ha, chained_append, haddr, h.nextBlockAddress_eq]
    exact ⟨h.chained, rfl⟩
  · rw [hb, List.mem_append, List.mem_singleton] at hx
    rcases hx with hx | rfl
    · exact h.built x hx
    · exact hblk

theorem Inv.apply {b : ITProgramBuilder} (h : b.Inv) (c : Call) : (b.apply c).Inv := by
  rcases apply_cases b c with ⟨hb, ha, -⟩ | ⟨s, ch, f, sv, irq, -, -, hc⟩ | ⟨irq, hc⟩
  · exact h.of_unlink hb ha
  · exact h.append (dataBlock_built b s ch f sv irq) rfl (by rw [hc]) (by rw [hc]; rfl)
  · exact h.append (nodataBlock_built b irq) rfl (by rw [hc]) (by rw [hc])

theorem Inv.run {b : ITProgramBuilder} (h : b.Inv) (cs : List Call) : (b.run cs).Inv := by
  induction cs generalizing b with
  | nil => exact h
  | cons c cs ih => exact ih (h.apply c)

theorem finalizeRing_fst (b : ITProgramBuilder) :
    b.finalizeRing.1 = (b.finalizeRing.2.blocks.map DescriptorBlock.toBytes).flatten := by
  rw [finalizeRing_eq]

@[simp] theorem baseAddress_finalizeRing (b : ITProgramBuilder) :
    b.finalizeRing.2.baseAddress = b.baseAddress := by
  rw [finalizeRing_eq]

end ITProgramBuilder

/-! ## Where each block's bytes are -/

/-- Under the chaining from `a`, block `i + 1` starts right after block `i`. -/
theorem Chained.address_succ {a : Nat} {bs : List DescriptorBlock} (h : Chained a bs) {i : Nat}
    (hi : i + 1 < bs.length) :
    bs[i + 1].address = bs[i].address + 16 * bs[i].zValue := by
  rw [h.address_getElem hi, h.address_getElem (by omega), List.take_succ,
    List.getElem?_eq_getElem (by omega)]
  simp only [totalZ_append, Option.toList_some, totalZ_cons, totalZ_nil]
  ring

/-- The bytes of built blocks: block `i` is `16 * z_value` bytes, so it sits after the
`16 * z_value` bytes of each block before it. -/
theorem toBytes_prefix_drop {bs : List DescriptorBlock} (hb : ∀ blk ∈ bs, blk.Built) {i : Nat}
    (hi : i < bs.length) :
    bs[i].toBytes <+: (bs.map DescriptorBlock.toBytes).flatten.drop (16 * totalZ (bs.take i)) := by
  have hlen : (bs.map DescriptorBlock.toBytes).map List.length = bs.map fun blk => 16 * blk.zValue :=
    by simp only [List.map_map]; exact List.map_congr_left fun blk hblk => (hb blk hblk).length_toBytes
  have hoff : 16 * totalZ (bs.take i) = (((bs.map DescriptorBlock.toBytes).map List.length).take i).sum := by
    rw [hlen, ← List.map_take, totalZ_mul_sixteen]
  rw [hoff, List.drop_sum_flatten, List.drop_eq_getElem_cons (by simpa using hi), List.flatten_cons,
    List.getElem_map]
  exact List.prefix_append _ _

/-- Block `blk` of blocks chained from `a` is encoded at offset `blk.address - a`. -/
theorem Chained.toBytes_at_address {a : Nat} {bs : List DescriptorBlock} (h : Chained a bs)
    (hb : ∀ blk ∈ bs, blk.Built) {i : Nat} {blk : DescriptorBlock} (hi : bs[i]? = some blk) :
    blk.toBytes <+: (bs.map DescriptorBlock.toBytes).flatten.drop (blk.address - a) := by
  obtain ⟨hlt, rfl⟩ := List.getElem?_eq_some_iff.mp hi
  rw [h.address_getElem hlt, Nat.add_sub_cancel_left]
  exact toBytes_prefix_drop hb hlt

theorem length_flatten_toBytes {bs : List DescriptorBlock} (hb : ∀ blk ∈ bs, blk.Built) :
    (bs.map DescriptorBlock.toBytes).flatten.length = (bs.map fun blk => 16 * blk.zValue).sum := by
  rw [List.length_flatten, List.map_map]
  congr 1
  exact List.map_congr_left fun blk hblk => (hb blk hblk).length_toBytes

/-- Under the invariant, the bytes `finalize_ring` returns run from the base address to the next
block address. -/
theorem ITProgramBuilder.Inv.base_add_length_finalizeRing {b : ITProgramBuilder} (h : b.Inv) :
    b.baseAddress + b.finalizeRing.1.length = b.nextBlockAddress := by
  have h' : b.finalizeRing.2.Inv := h.apply .finalizeRing
  rw [ITProgramBuilder.finalizeRing_fst, length_flatten_toBytes h'.built, ← totalZ_mul_sixteen,
    ← ITProgramBuilder.baseAddress_finalizeRing, ← h'.nextBlockAddress_eq,
    ITProgramBuilder.nextBlockAddress_finalizeRing]

/-! ## Every slot of the image -/

/-- The piece of a list of sizes that holds a position below their sum. -/
theorem exists_getElem_take_sum {l : List Nat} {p : Nat} (hp : p < l.sum) :
    ∃ (j : Nat) (h : j < l.length), (l.take j).sum ≤ p ∧ p < (l.take j).sum + l[j] := by
  induction l generalizing p with
  | nil => simp at hp
  | cons a l ih =>
    by_cases ha : p < a
    · exact ⟨0, by simp, by simp, by simpa using ha⟩
    · obtain ⟨j, hj, h1, h2⟩ := @ih (p - a) (by simp only [List.sum_cons] at hp; omega)
      refine ⟨j + 1, by simpa using hj, ?_, ?_⟩ <;> simp only [List.take_succ_cons, List.sum_cons,
        List.getElem_cons_succ] <;> omega

theorem ITDescriptor.Built.size_cases {d : ITDescriptor} (h : d.Built) : d.size = 16 ∨ d.size = 32 := by
  cases d <;> simp_all [ITDescriptor.Built, ITDescriptor.size]

/-- Built descriptors fill whole 16-byte slots. -/
theorem sum_size_mod_sixteen {ds : List ITDescriptor} (h : ∀ d ∈ ds, d.Built) :
    (ds.map ITDescriptor.size).sum % 16 = 0 := by
  induction ds with
  | nil => rfl
  | cons d ds ih =>
    have hd := (h d (List.mem_cons_self _ _)).size_cases
    have := ih fun d' hd' => h d' (List.mem_cons_of_mem _ hd')
    simp only [List.map_cons, List.sum_cons]
    omega

/-- Every 16-byte slot of the bytes `finalize_ring` returns is the first slot of a descriptor, or
the second slot of a 32-byte one. -/
theorem ITProgramBuilder.Inv.slot_cases {b : ITProgramBuilder} (h : b.Inv) {k : Nat}
    (hk : k < b.finalizeRing.1.length / 16) :
    ∃ (i j : Nat) (blk : DescriptorBlock) (d : ITDescriptor), b.blocks[i]? = some blk ∧
      blk.descriptors[j]? = some d ∧
      (16 * k = blk.address - b.baseAddress + ((blk.descriptors.take j).map ITDescriptor.size).sum ∨
        16 * k = blk.address - b.baseAddress + ((blk.descriptors.take j).map ITDescriptor.size).sum + 16 ∧
          d.size = 32) := by
  have hlen := h.base_add_length_finalizeRing
  rw [h.nextBlockAddress_eq] at hlen
  obtain ⟨i, hi, hz1, hz2⟩ := @exists_getElem_take_sum (b.blocks.map DescriptorBlock.zValue) k
    (by rw [totalZ] at hlen; omega)
  rw [List.length_map] at hi
  rw [← List.map_take] at hz1 hz2
  rw [List.getElem_map] at hz2
  have haddr := h.chained.address_getElem hi
  have hbuilt := h.built _ (List.getElem_mem hi)
  have hsum := hbuilt.sum_size
  obtain ⟨j, hj, hs1, hs2⟩ := @exists_getElem_take_sum (b.blocks[i].descriptors.map ITDescriptor.size)
    (16 * (k - totalZ (b.blocks.take i))) (by rw [totalZ] at haddr; rw [hsum, totalZ]; omega)
  rw [List.length_map] at hj
  rw [← List.map_take] at hs1 hs2
  rw [List.getElem_map] at hs2
  have hd := hbuilt.1 _ (List.getElem_mem hj)
  have hmod := @sum_size_mod_sixteen (b.blocks[i].descriptors.take j)
    fun d hd' => hbuilt.1 d (List.mem_of_mem_take hd')
  refine ⟨i, j, _, _, List.getElem?_eq_getElem hi, List.getElem?_eq_getElem hj, ?_⟩
  rw [haddr]
  simp only [totalZ] at hs1 hs2 ⊢
  rcases hd.size_cases with h16 | h32 <;> omega

/-- **Layout agreement.** After any calls on a new builder with base `base` (construction calls
that return or raise, `finalize_ring` calls and strategy changes in any order), the blocks that
`finalize_ring` returns bytes for start at `base` and follow one another by `16 * z_value`
bytes; every descriptor is encoded in `size` bytes and every block in `16 * z_value` bytes;
block `i` is encoded at offset `address - base` of the returned bytes, whose length is the sum
of the blocks' sizes; and with an aligned base every block address is aligned. -/
theorem layout_agreement (base channel : Nat) (speed : Speed) (rate : Nat) (strategy : SkipStrategy)
    (calls : List Call) :
    let b := (ITProgramBuilder.new base channel speed rate strategy).run calls
    let image := b.finalizeRing.1
    let blocks := b.finalizeRing.2.blocks
    (∀ h : 0 < blocks.length, blocks[0].address = base) ∧
    (∀ i (h : i + 1 < blocks.length), blocks[i + 1].address = blocks[i].address + 16 * blocks[i].zValue) ∧
    (∀ blk ∈ blocks, ∀ d ∈ blk.descriptors, d.toBytes.length = d.size) ∧
    (∀ blk ∈ blocks, blk.toBytes.length = 16 * blk.zValue) ∧
    (∀ i (h : i < blocks.length), blocks[i].toBytes <+: image.drop (blocks[i].address - base)) ∧
    image.length = (blocks.map fun blk => 16 * blk.zValue).sum ∧
    (base % 16 = 0 → ∀ blk ∈ blocks, blk.address % 16 = 0) := by
  intro b image blocks
  have hinv : b.finalizeRing.2.Inv := ((ITProgramBuilder.inv_new _ _ _ _ _).run calls).apply .finalizeRing
  have hbase : b.finalizeRing.2.baseAddress = base := by simp [b, ITProgramBuilder.new]
  have himage : image = (blocks.map DescriptorBlock.toBytes).flatten := ITProgramBuilder.finalizeRing_fst b
  have hc : Chained base blocks := hbase ▸ hinv.chained
  have hbuilt : ∀ blk ∈ blocks, blk.Built := hinv.built
  refine ⟨fun h => by simpa using hc.address_getElem h, fun i h => hc.address_succ h,
    fun blk hblk d hd => (hbuilt blk hblk |>.1 d hd).length_toBytes,
    fun blk hblk => (hbuilt blk hblk).length_toBytes,
    fun i h => himage ▸ hc.toBytes_at_address hbuilt (List.getElem?_eq_getElem h),
    himage ▸ length_flatten_toBytes hbuilt, fun h => hc.address_aligned h⟩

end ItDmaProgram
