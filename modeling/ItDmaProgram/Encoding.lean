import ItDmaProgram.Layout
import ItDmaProgram.Packets

/-!
# What the encoded program says

A reader of the bytes `finalize_ring` returns (the controller, or a tool reading a dump) finds
each descriptor at its offset in the image and reads its fields back: the reqCount in the low
half of the first quadlet, the IT header's data length in the upper half of an
OUTPUT_MORE-Immediate's fourth quadlet, and the branch or skip pointer at `pointerOffset`.

`pack_desc16`, `build_it_header_q1` and `pack_ptr_with_z` cut every field to its width with a
mask, and the builder checks no width, so what the reader gets back is the model's value cut to
its field. `encoding_fidelity` says exactly that for every program the builder makes:
reqCount and data length modulo `2 ^ 16`, pointer address bits as the target address modulo
`2 ^ 32` with its low nibble cleared, and the Z nibble as the target's `z_value` modulo 16. The
values come back whole exactly when they fit; `encoding_fidelity_unaligned_base` is a program
on an unaligned base whose branch pointer loses the base's low bits.

`encoding_it_header` reads the IT header's first quadlet back: every packet names the builder's
speed and its channel cut to six bits, with tag 1 and tcode `0xA`.
-/

namespace ItDmaProgram

/-! ## The IT header agrees with the payload -/

/-- The `it_q1` of an OUTPUT_MORE-Immediate. -/
def ITDescriptor.headerQ1 : ITDescriptor → Option Nat
  | .outputMoreImmediate o => some o.itQ1
  | _ => none

/-- The block's IT header announces the block's payload length. -/
def DescriptorBlock.HeaderAgrees (blk : DescriptorBlock) : Prop :=
  ∀ d ∈ blk.descriptors, ∀ q, d.headerQ1 = some q → q = buildItHeaderQ1 blk.payloadLength

namespace ITDescriptor

@[simp] theorem payloadFragment_link (skip : Nat × Nat) (nb : DescriptorBlock) (d : ITDescriptor) :
    (d.link skip nb).payloadFragment = d.payloadFragment := by
  cases d <;> rfl

@[simp] theorem payloadFragment_unlink (d : ITDescriptor) : d.unlink.payloadFragment = d.payloadFragment := by
  cases d <;> rfl

@[simp] theorem headerQ1_link (skip : Nat × Nat) (nb : DescriptorBlock) (d : ITDescriptor) :
    (d.link skip nb).headerQ1 = d.headerQ1 := by
  cases d <;> rfl

@[simp] theorem headerQ1_unlink (d : ITDescriptor) : d.unlink.headerQ1 = d.headerQ1 := by
  cases d <;> rfl

@[simp] theorem reqCount_link (skip : Nat × Nat) (nb : DescriptorBlock) (d : ITDescriptor) :
    (d.link skip nb).reqCount = d.reqCount := by
  cases d <;> rfl

@[simp] theorem pointerOffset_link (skip : Nat × Nat) (nb : DescriptorBlock) (d : ITDescriptor) :
    (d.link skip nb).pointerOffset = d.pointerOffset := by
  cases d <;> rfl

end ITDescriptor

namespace DescriptorBlock

/-- Rewriting the descriptors without touching their fragments or IT headers keeps the
agreement. -/
theorem headerAgrees_map {f : ITDescriptor → ITDescriptor}
    (hf : ∀ d, (f d).payloadFragment = d.payloadFragment) (hq : ∀ d, (f d).headerQ1 = d.headerQ1)
    (blk : DescriptorBlock) :
    HeaderAgrees { blk with descriptors := blk.descriptors.map f } ↔ blk.HeaderAgrees := by
  have hlen : payloadLength { blk with descriptors := blk.descriptors.map f } = blk.payloadLength := by
    simp only [payloadLength, fragments, List.filterMap_map, Function.comp_def, hf]
  simp only [HeaderAgrees, hlen, List.forall_mem_map, hq]

@[simp] theorem headerAgrees_link (skip : Nat × Nat) (nb blk : DescriptorBlock) :
    (blk.link skip nb).HeaderAgrees ↔ blk.HeaderAgrees :=
  headerAgrees_map (ITDescriptor.payloadFragment_link skip nb) (ITDescriptor.headerQ1_link skip nb) blk

@[simp] theorem headerAgrees_unlink (blk : DescriptorBlock) : blk.unlink.HeaderAgrees ↔ blk.HeaderAgrees :=
  headerAgrees_map ITDescriptor.payloadFragment_unlink ITDescriptor.headerQ1_unlink blk

@[simp] theorem payloadLength_link (skip : Nat × Nat) (nb blk : DescriptorBlock) :
    (blk.link skip nb).payloadLength = blk.payloadLength := by
  simp [payloadLength, fragments, link, List.filterMap_map, Function.comp_def]

end DescriptorBlock

namespace ITProgramBuilder

/-- Of the fragment loop's descriptors none is an Immediate one. -/
theorem headerQ1_fragmentLoop {n size a : Nat} {d : ITDescriptor} (hd : d ∈ (fragmentLoop n size a).1) :
    d.headerQ1 = none := by
  obtain ⟨o, rfl⟩ := mem_fragmentLoop hd
  rfl

theorem dataBlock_headerAgrees (b : ITProgramBuilder) (s c f : Nat) (sv : Option Nat) (irq : Bool)
    (hf : 0 < f) : (b.dataBlock s c f sv irq).HeaderAgrees := by
  rw [DescriptorBlock.HeaderAgrees, payloadLength_dataBlock b s c f sv irq hf]
  intro d hd q hq
  have hstore : ∀ d ∈ storeDescriptors sv (b.payloadBase - 4), d.headerQ1 = none := by
    cases sv <;> simp [storeDescriptors, ITDescriptor.headerQ1]
  simp only [dataBlock, List.mem_append, List.mem_cons, List.not_mem_nil, or_false] at hd
  rcases hd with ((hd | rfl | hd) | rfl)
  · simp [hstore d hd] at hq
  · exact (Option.some.inj hq).symm
  · simp [headerQ1_fragmentLoop hd] at hq
  · cases hq

theorem nodataBlock_headerAgrees (b : ITProgramBuilder) (irq : Bool) : (b.nodataBlock irq).HeaderAgrees := by
  rw [DescriptorBlock.HeaderAgrees, payloadLength_nodataBlock]
  intro d hd q hq
  simp only [nodataBlock, List.mem_cons, List.not_mem_nil, or_false] at hd
  rcases hd with rfl | rfl <;> simp_all [ITDescriptor.headerQ1]

/-- Every block's IT header announces the block's payload length. -/
def HeadersAgree (b : ITProgramBuilder) : Prop := ∀ blk ∈ b.blocks, blk.HeaderAgrees

theorem headersAgree_new (base channel : Nat) (speed : Speed) (rate : Nat) (strategy : SkipStrategy) :
    (new base channel speed rate strategy).HeadersAgree :=
  fun _ h => by simp [new] at h

theorem HeadersAgree.run {b : ITProgramBuilder} (h : b.HeadersAgree) (cs : List Call) : (b.run cs).HeadersAgree :=
  forall_blocks_run DescriptorBlock.headerAgrees_unlink dataBlock_headerAgrees nodataBlock_headerAgrees h cs

end ITProgramBuilder

/-! ## The IT header names the builder's speed and channel -/

/-- The `it_q0` of an OUTPUT_MORE-Immediate. -/
def ITDescriptor.headerQ0 : ITDescriptor → Option Nat
  | .outputMoreImmediate o => some o.itQ0
  | _ => none

/-- Every IT header quadlet 0 in the block is `q`. -/
def DescriptorBlock.HeaderQ0Is (q : Nat) (blk : DescriptorBlock) : Prop :=
  ∀ d ∈ blk.descriptors, ∀ q', d.headerQ0 = some q' → q' = q

@[simp] theorem ITDescriptor.headerQ0_unlink (d : ITDescriptor) : d.unlink.headerQ0 = d.headerQ0 := by
  cases d <;> rfl

theorem DescriptorBlock.headerQ0Is_unlink (q : Nat) (blk : DescriptorBlock) :
    blk.unlink.HeaderQ0Is q ↔ blk.HeaderQ0Is q := by
  simp [HeaderQ0Is, unlink]

namespace ITProgramBuilder

/-- The header `add_data_packet` and `add_nodata_packet` build:
`build_it_header_q0(int(self.speed), 1, self.channel)`. -/
theorem dataBlock_headerQ0Is (b : ITProgramBuilder) (s c f : Nat) (sv : Option Nat) (irq : Bool) :
    (b.dataBlock s c f sv irq).HeaderQ0Is (buildItHeaderQ0 b.speed.toNat 1 b.channel 0 0xA) := by
  intro d hd q hq
  simp only [dataBlock, List.mem_append, List.mem_cons, List.not_mem_nil, or_false] at hd
  rcases hd with ((hd | rfl | hd) | rfl)
  · cases sv <;> simp_all [storeDescriptors, ITDescriptor.headerQ0]
  · exact (Option.some.inj hq).symm
  · obtain ⟨o, rfl⟩ := mem_fragmentLoop hd
    cases hq
  · cases hq

theorem nodataBlock_headerQ0Is (b : ITProgramBuilder) (irq : Bool) :
    (b.nodataBlock irq).HeaderQ0Is (buildItHeaderQ0 b.speed.toNat 1 b.channel 0 0xA) := by
  intro d hd q hq
  simp only [nodataBlock, List.mem_cons, List.not_mem_nil, or_false] at hd
  rcases hd with rfl | rfl <;> simp_all [ITDescriptor.headerQ0]

/-- Every IT header quadlet 0 in the program is the one built from the builder's speed and
channel. -/
def HeadersNamed (b : ITProgramBuilder) : Prop :=
  ∀ blk ∈ b.blocks, blk.HeaderQ0Is (buildItHeaderQ0 b.speed.toNat 1 b.channel 0 0xA)

theorem headersNamed_new (base channel : Nat) (speed : Speed) (rate : Nat) (strategy : SkipStrategy) :
    (new base channel speed rate strategy).HeadersNamed :=
  fun _ h => by simp [new] at h

theorem HeadersNamed.apply {b : ITProgramBuilder} (h : b.HeadersNamed) (c : Call) :
    (b.apply c).HeadersNamed := by
  obtain ⟨hch, hsp⟩ := channel_speed_apply b c
  rw [HeadersNamed, hch, hsp]
  rcases apply_cases b c with ⟨hb, -, -⟩ | ⟨s, ch, f, sv, irq, -, -, hc⟩ | ⟨irq, hc⟩
  · exact forall_blocks_of_unlink (DescriptorBlock.headerQ0Is_unlink _) hb h
  · simpa [hc, or_imp, forall_and] using ⟨h, dataBlock_headerQ0Is b s ch f sv irq⟩
  · simpa [hc, or_imp, forall_and] using ⟨h, nodataBlock_headerQ0Is b irq⟩

theorem HeadersNamed.run {b : ITProgramBuilder} (h : b.HeadersNamed) (cs : List Call) :
    (b.run cs).HeadersNamed := by
  induction cs generalizing b with
  | nil => exact h
  | cons c cs ih => exact ih (h.apply c)

end ITProgramBuilder

/-! ## Where each descriptor is -/

/-- Descriptor `j` of a block of built descriptors sits after the `size` bytes of each
descriptor before it. -/
theorem DescriptorBlock.toBytes_at_offset {blk : DescriptorBlock} (hb : ∀ d ∈ blk.descriptors, d.Built)
    {j : Nat} {d : ITDescriptor} (hj : blk.descriptors[j]? = some d) :
    d.toBytes <+: blk.toBytes.drop ((blk.descriptors.take j).map ITDescriptor.size).sum := by
  obtain ⟨hlt, rfl⟩ := List.getElem?_eq_some_iff.mp hj
  have hlen : (blk.descriptors.map ITDescriptor.toBytes).map List.length =
      blk.descriptors.map ITDescriptor.size := by
    simp only [List.map_map]
    exact List.map_congr_left fun d hd => (hb d hd).length_toBytes
  rw [toBytes, List.map_take, ← hlen, List.drop_sum_flatten,
    List.drop_eq_getElem_cons (by simpa using hlt), List.flatten_cons, List.getElem_map]
  exact List.prefix_append _ _

/-! ## Reading the program back -/

/-- What a reader of the bytes `finalize_ring` returns finds for descriptor `j` of block `i`,
whose successor is `nb`, at the offset `address - base` plus the sizes of the descriptors before
it: the low 16 bits of the first quadlet are its reqCount modulo `2 ^ 16`; the data length of an
OUTPUT_MORE-Immediate is the block's payload length modulo `2 ^ 16`; and its pointer word is the
target's address modulo `2 ^ 32` with the low nibble cleared, plus the target's Z modulo 16, the
target being the strategy's skip target for a skip pointer and the successor for a branch. -/
def EncodingFidelity (b : ITProgramBuilder) : Prop :=
  let image := b.finalizeRing.1
  ∀ i j blk nb d, b.blocks[i]? = some blk → b.blocks[(i + 1) % b.blocks.length]? = some nb →
    blk.descriptors[j]? = some d →
    let off := blk.address - b.baseAddress + ((blk.descriptors.take j).map ITDescriptor.size).sum
    quadletAt image off % 65536 = d.reqCount % 65536 ∧
    (∀ o, d = .outputMoreImmediate o →
      quadletAt image (off + 12) / 65536 = blk.payloadLength % 65536) ∧
    (d.hasSkip → quadletAt image (off + d.pointerOffset) =
      (b.skipTarget blk nb).1 % 4294967296 / 16 * 16 + (b.skipTarget blk nb).2 % 16) ∧
    (d.isOutputLast → quadletAt image (off + d.pointerOffset) =
      nb.address % 4294967296 / 16 * 16 + nb.zValue % 16)

/-- The linked descriptor `j` of block `i` sits in the image at the offset `EncodingFidelity`
reads it from. -/
theorem ITProgramBuilder.Inv.toBytes_at_offset {b : ITProgramBuilder} (h : b.Inv) {i j : Nat}
    {blk nb : DescriptorBlock} {d : ITDescriptor} (hblk : b.blocks[i]? = some blk)
    (hnb : b.blocks[(i + 1) % b.blocks.length]? = some nb) (hd : blk.descriptors[j]? = some d) :
    (d.link (b.skipTarget blk nb) nb).toBytes <+: b.finalizeRing.1.drop
      (blk.address - b.baseAddress + ((blk.descriptors.take j).map ITDescriptor.size).sum) := by
  have h' : b.finalizeRing.2.Inv := h.apply .finalizeRing
  have hlinked : b.finalizeRing.2.blocks[i]? = some (blk.link (b.skipTarget blk nb) nb) := by
    rw [finalizeRing_eq]
    exact b.linkRing_getElem? hblk hnb
  have hblock := (h'.chained.toBytes_at_address h'.built hlinked).drop
    (((blk.descriptors.take j).map ITDescriptor.size).sum)
  have hdesc := @DescriptorBlock.toBytes_at_offset _ (h'.built _ (List.getElem?_mem hlinked)).1 j
    (d.link (b.skipTarget blk nb) nb) (by simp [hd])
  have hsizes : ((blk.link (b.skipTarget blk nb) nb).descriptors.take j).map ITDescriptor.size =
      (blk.descriptors.take j).map ITDescriptor.size := by
    simp [Function.comp_def]
  rw [hsizes] at hdesc
  simp only [DescriptorBlock.address_link, ITProgramBuilder.baseAddress_finalizeRing,
    List.drop_drop, ← ITProgramBuilder.finalizeRing_fst] at hblock
  exact hdesc.trans hblock

/-- **Encoding fidelity**, up to the field widths: after any calls on a new builder, the bytes
`finalize_ring` returns give back every descriptor's reqCount, every IT header's data length
and every pointer's target, each cut to its field by the codec's masks. -/
theorem encoding_fidelity (base channel : Nat) (speed : Speed) (rate : Nat) (strategy : SkipStrategy)
    (calls : List Call) :
    EncodingFidelity ((ITProgramBuilder.new base channel speed rate strategy).run calls) := by
  set b := (ITProgramBuilder.new base channel speed rate strategy).run calls
  have hinv : b.Inv := (ITProgramBuilder.inv_new _ _ _ _ _).run calls
  have hheaders : b.HeadersAgree := (ITProgramBuilder.headersAgree_new _ _ _ _ _).run calls
  unfold EncodingFidelity
  intro image i j blk nb d hblk hnb hd off
  obtain ⟨hreq, hptr, hq1⟩ := (d.link (b.skipTarget blk nb) nb).decode (hinv.toBytes_at_offset hblk hnb hd)
  rw [ITDescriptor.pointerOffset_link, ITDescriptor.pointerWord_link] at hptr
  rw [ITDescriptor.reqCount_link] at hreq
  refine ⟨by rw [hreq]; omega, fun o ho => ?_, fun hs => ?_, fun hl => ?_⟩
  · subst ho
    have hagree := hheaders blk (List.getElem?_mem hblk) _ (List.getElem?_mem hd) o.itQ1 rfl
    rw [hq1 _ rfl]
    simp only [hagree, buildItHeaderQ1_eq]
    omega
  · cases d <;> simp [ITDescriptor.hasSkip] at hs <;> simp only [hptr, packPtrWithZ_eq]
  · cases d <;> simp [ITDescriptor.isOutputLast] at hl
    simp only [hptr, packPtrWithZ_eq]

/-- **Every packet's IT header names the builder's speed and channel.** After any calls on a new
builder, the third quadlet of every OUTPUT_MORE-Immediate in the bytes `finalize_ring` returns is
the first quadlet of its packet's IT header. A reader finds in it the builder's speed in bits
18..16, tag 1, the channel in bits 13..8, tcode `0xA` and sy 0, and nothing above bit 18.
`build_it_header_q0` cuts the channel to six bits, so a builder made for channel 64 or above
sends on the channel's low six bits. -/
theorem encoding_it_header (base channel : Nat) (speed : Speed) (rate : Nat) (strategy : SkipStrategy)
    (calls : List Call) :
    let b := (ITProgramBuilder.new base channel speed rate strategy).run calls
    ∀ (i j : Nat) (blk : DescriptorBlock) (o : OutputMoreImmediate), b.blocks[i]? = some blk →
      blk.descriptors[j]? = some (.outputMoreImmediate o) →
      let q := quadletAt b.finalizeRing.1
        (blk.address - base + ((blk.descriptors.take j).map ITDescriptor.size).sum + 8)
      q >>> 19 = 0 ∧ (q >>> 16) &&& 0x7 = speed.toNat ∧ (q >>> 14) &&& 0x3 = 1 ∧
        (q >>> 8) &&& 0x3F = channel % 64 ∧ (q >>> 4) &&& 0xF = 0xA ∧ q &&& 0xF = 0 := by
  intro b i j blk o hblk hd q
  have hinv : b.Inv := (ITProgramBuilder.inv_new _ _ _ _ _).run calls
  have hb : b.baseAddress = base := by simp [b, ITProgramBuilder.new]
  obtain ⟨hch, hsp⟩ := ITProgramBuilder.channel_speed_run (.new base channel speed rate strategy) calls
  have hnamed : b.HeadersNamed := (ITProgramBuilder.headersNamed_new _ _ _ _ _).run calls
  have ho : o.itQ0 = buildItHeaderQ0 speed.toNat 1 channel 0 0xA := by
    have := hnamed blk (List.getElem?_mem hblk) _ (List.getElem?_mem hd) o.itQ0 rfl
    rwa [hch, hsp] at this
  obtain ⟨nb, hnb⟩ := b.exists_getElem?_succ hblk
  have hpre := hinv.toBytes_at_offset hblk hnb hd
  rw [ITDescriptor.toBytes_eq_quadlets, hb] at hpre
  have hq : q = o.itQ0 % 4294967296 := @quadletAt_of_drop_quadlets _ _ _ 2 _ hpre rfl
  have hs := speed.toNat_lt
  rw [hq, ho, buildItHeaderQ0_eq]
  simp only [Nat.shiftRight_eq_div_pow, land_0x7, land_0x3, land_0x3F, land_0xF, Nat.reducePow]
  omega

/-- A builder made for channel 65: its one DATA packet's IT header carries channel 1. -/
theorem encoding_it_header_channel_65 :
    let q := quadletAt ((ITProgramBuilder.new 0x80000000 65 .s400 48000 .next).run
      [.addDataPacket 8 2 1 none false]).finalizeRing.1 8
    q >>> 19 = 0 ∧ (q >>> 16) &&& 0x7 = 2 ∧ (q >>> 14) &&& 0x3 = 1 ∧ (q >>> 8) &&& 0x3F = 1 ∧
      (q >>> 4) &&& 0xF = 0xA ∧ q &&& 0xF = 0 :=
  encoding_it_header 0x80000000 65 .s400 48000 .next [.addDataPacket 8 2 1 none false] 0 0
    ⟨[.outputMoreImmediate { itQ0 := 0x241A0, itQ1 := 0x480000 },
      .outputLast { reqCount := 72, dataAddress := 0x80010000 }], 0x80000000⟩
    { itQ0 := 0x241A0, itQ1 := 0x480000 } (by decide) (by decide)

/-- On base 8, one DATA packet in one fragment: the block sits at 8 with `z_value` 3, so the
OUTPUT_LAST in its bytes 32 to 47 branches back to it, but the pointer word at byte 40 reads 3,
not `8 + 3`. -/
theorem encoding_fidelity_unaligned_base :
    let b := (ITProgramBuilder.new 8 0 .s400 48000 .next).run [.addDataPacket 8 2 1 none false]
    b.blocks.map (fun blk => (blk.address, blk.zValue)) = [(8, 3)] ∧
    quadletAt b.finalizeRing.1 40 = 3 := by
  decide

end ItDmaProgram
