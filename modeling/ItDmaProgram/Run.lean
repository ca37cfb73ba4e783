import ItDmaProgram.Linker

/-!
# Runs of calls, and why linking does not depend on history

A client drives one builder through a sequence of calls: the two construction calls, which
may raise (the client catches the exception and goes on with the builder as the call left
it), `finalize_ring`, and assignments to `skip_strategy`. `ITProgramBuilder.run` is that
sequence.

`finalize_ring` writes only pointer fields, and writes all of those it ever writes; the
construction calls and the address and `z_value` computations never read them. So the
program a client ends with does not depend on where, or how often, it finalized on the way.
The frame argument is phrased with `unlink`, which clears exactly the fields the linker
writes: every call commutes with it, and `finalize_ring` only sees the unlinked program.
`forall_blocks_run` carries through every run any block property that the linker cannot see
and that every block a construction call appends has.
-/

namespace ItDmaProgram

/-- A call a client makes on the builder. -/
inductive Call where
  | addDataPacket (samples channels fragments : Nat) (storeVal : Option Nat) (irq : Bool)
  | addNodataPacket (channels : Nat) (irq : Bool)
  | finalizeRing
  /-- the assignment `builder.skip_strategy = s` -/
  | setSkipStrategy (s : SkipStrategy)
  deriving DecidableEq, Repr

namespace ITProgramBuilder

/-- The builder after one call, whether the call returned or raised. -/
def apply (b : ITProgramBuilder) : Call → ITProgramBuilder
  | .addDataPacket samples channels fragments storeVal irq =>
    (b.addDataPacket samples channels fragments storeVal irq).2
  | .addNodataPacket channels irq => (b.addNodataPacket channels irq).2
  | .finalizeRing => b.finalizeRing.2
  | .setSkipStrategy s => { b with skipStrategy := s }

/-- The builder after a sequence of calls. -/
def run (b : ITProgramBuilder) : List Call → ITProgramBuilder
  | [] => b
  | c :: cs => (b.apply c).run cs

@[simp] theorem run_nil (b : ITProgramBuilder) : b.run [] = b := rfl

@[simp] theorem run_cons (b : ITProgramBuilder) (c : Call) (cs : List Call) :
    b.run (c :: cs) = (b.apply c).run cs := rfl

end ITProgramBuilder

/-! ## The fields the linker writes -/

/-- The descriptor with the pointer fields `finalize_ring` writes cleared. -/
def ITDescriptor.unlink : ITDescriptor → ITDescriptor
  | .storeValue d => .storeValue { d with skipAddress := 0, skipZ := 0 }
  | .outputMoreImmediate d => .outputMoreImmediate { d with skipAddress := 0, skipZ := 0 }
  | .outputLast d => .outputLast { d with branchAddress := 0, branchZ := 0 }
  | .outputLastSkip d => .outputLastSkip { d with branchAddress := 0, branchZ := 0 }
  | d => d

/-- The block with the pointer fields `finalize_ring` writes cleared. -/
def DescriptorBlock.unlink (blk : DescriptorBlock) : DescriptorBlock :=
  { blk with descriptors := blk.descriptors.map ITDescriptor.unlink }

/-- The builder with the pointer fields `finalize_ring` writes cleared. -/
def ITProgramBuilder.unlink (b : ITProgramBuilder) : ITProgramBuilder :=
  { b with blocks := b.blocks.map DescriptorBlock.unlink }

namespace ITDescriptor

@[simp] theorem unlink_link (skip : Nat × Nat) (nb : DescriptorBlock) (d : ITDescriptor) :
    (d.link skip nb).unlink = d.unlink := by
  cases d <;> rfl

@[simp] theorem link_unlink (skip : Nat × Nat) (nb : DescriptorBlock) (d : ITDescriptor) :
    d.unlink.link skip nb = d.link skip nb := by
  cases d <;> rfl

@[simp] theorem size_unlink (d : ITDescriptor) : d.unlink.size = d.size := by
  cases d <;> rfl

@[simp] theorem unlink_unlink (d : ITDescriptor) : d.unlink.unlink = d.unlink := by
  cases d <;> rfl

@[simp] theorem isStoreValue_unlink (d : ITDescriptor) : d.unlink.isStoreValue = d.isStoreValue := by
  cases d <;> rfl

/-- The loop reads of the successor only its address and `z_value`. -/
theorem link_congr (skip : Nat × Nat) {nb nb' : DescriptorBlock} (ha : nb.address = nb'.address)
    (hz : nb.zValue = nb'.zValue) (d : ITDescriptor) : d.link skip nb = d.link skip nb' := by
  cases d <;> simp [link, ha, hz]

end ITDescriptor

namespace DescriptorBlock

@[simp] theorem address_unlink (blk : DescriptorBlock) : blk.unlink.address = blk.address := rfl

@[simp] theorem zValue_unlink (blk : DescriptorBlock) : blk.unlink.zValue = blk.zValue := by
  simp [unlink, zValue, Function.comp_def]

@[simp] theorem unlink_unlink (blk : DescriptorBlock) : blk.unlink.unlink = blk.unlink := by
  simp [unlink, Function.comp_def]

@[simp] theorem unlink_link (blk nb : DescriptorBlock) (skip : Nat × Nat) :
    (blk.link skip nb).unlink = blk.unlink := by
  simp [unlink, link, Function.comp_def]

/-- Linking an unlinked block to an unlinked successor is linking the block. -/
theorem unlink_link_unlink (blk nb : DescriptorBlock) (skip : Nat × Nat) :
    blk.unlink.link skip nb.unlink = blk.link skip nb := by
  have h : ∀ d : ITDescriptor, d.unlink.link skip nb.unlink = d.link skip nb := fun d => by
    rw [ITDescriptor.link_unlink]
    exact ITDescriptor.link_congr skip (address_unlink nb) (zValue_unlink nb) d
  show DescriptorBlock.mk ((blk.descriptors.map ITDescriptor.unlink).map (ITDescriptor.link skip nb.unlink))
    blk.address = DescriptorBlock.mk (blk.descriptors.map (ITDescriptor.link skip nb)) blk.address
  rw [List.map_map]
  exact congrArg (DescriptorBlock.mk · _) (List.map_congr_left fun d _ => h d)

end DescriptorBlock

namespace ITProgramBuilder

@[simp] theorem blocks_unlink (b : ITProgramBuilder) : b.unlink.blocks = b.blocks.map DescriptorBlock.unlink := rfl

@[simp] theorem nextBlockAddress_unlink (b : ITProgramBuilder) : b.unlink.nextBlockAddress = b.nextBlockAddress := by
  simp only [nextBlockAddress, blocks_unlink, List.getLast?_map]
  cases b.blocks.getLast? <;> simp [unlink]

theorem skipTarget_unlink (b : ITProgramBuilder) (blk nb : DescriptorBlock) :
    b.unlink.skipTarget blk.unlink nb.unlink = b.skipTarget blk nb := by
  simp [skipTarget, unlink, sentinelAddr]

/-- Linking reads the program only through its unlinked form. -/
theorem linkRing_unlink (b : ITProgramBuilder) : b.unlink.linkRing = b.linkRing := by
  apply List.ext_getElem?
  intro i
  rcases hblk : b.blocks[i]? with _ | blk
  · have : b.blocks.length ≤ i := List.getElem?_eq_none_iff.mp hblk
    rw [List.getElem?_eq_none (by simpa using this), List.getElem?_eq_none (by simpa using this)]
  · obtain ⟨nb, hnb⟩ := b.exists_getElem?_succ hblk
    have hblk' : b.unlink.blocks[i]? = some blk.unlink := by simp [hblk]
    have hnb' : b.unlink.blocks[(i + 1) % b.unlink.blocks.length]? = some nb.unlink := by simp [hnb]
    rw [linkRing_getElem? _ hblk' hnb', linkRing_getElem? _ hblk hnb, skipTarget_unlink,
      DescriptorBlock.unlink_link_unlink]

/-- Linking changes nothing but the fields it writes. -/
theorem unlink_linkRing (b : ITProgramBuilder) : b.linkRing.map DescriptorBlock.unlink = b.unlink.blocks := by
  apply List.ext_getElem?
  intro i
  rcases hblk : b.blocks[i]? with _ | blk
  · have : b.blocks.length ≤ i := List.getElem?_eq_none_iff.mp hblk
    rw [List.getElem?_eq_none (by simpa using this), List.getElem?_eq_none (by simpa using this)]
  · obtain ⟨nb, hnb⟩ := b.exists_getElem?_succ hblk
    simp [linkRing_getElem? _ hblk hnb, hblk]

theorem finalizeRing_unlink (b : ITProgramBuilder) : b.unlink.finalizeRing = b.finalizeRing := by
  simp only [finalizeRing_eq, linkRing_unlink]
  rfl

theorem unlink_finalizeRing (b : ITProgramBuilder) : b.finalizeRing.2.unlink = b.unlink := by
  simp only [finalizeRing_eq, unlink, unlink_linkRing, blocks_unlink]

@[simp] theorem nextBlockAddress_finalizeRing (b : ITProgramBuilder) :
    b.finalizeRing.2.nextBlockAddress = b.nextBlockAddress := by
  rw [← nextBlockAddress_unlink, unlink_finalizeRing, nextBlockAddress_unlink]

@[simp] theorem dataBlock_unlink (b : ITProgramBuilder) (s c f : Nat) (sv : Option Nat) (irq : Bool) :
    b.unlink.dataBlock s c f sv irq = b.dataBlock s c f sv irq := by
  simp only [dataBlock, nextBlockAddress_unlink]
  rfl

@[simp] theorem nodataBlock_unlink (b : ITProgramBuilder) (irq : Bool) :
    b.unlink.nodataBlock irq = b.nodataBlock irq := by
  simp only [nodataBlock, nextBlockAddress_unlink]
  rfl

/-- The construction calls read the program only through its unlinked form. -/
theorem unlink_apply_unlink (b : ITProgramBuilder) (c : Call) : (b.unlink.apply c).unlink = (b.apply c).unlink := by
  have hr : b.unlink.sampleRate = b.sampleRate := rfl
  cases c with
  | addDataPacket s c f sv irq =>
    simp only [apply, addDataPacket_eq, hr, dataBlock_unlink]
    split
    · simp [unlink, Function.comp_def]
    · split_ifs <;> simp [unlink, advanceData, Function.comp_def]
  | addNodataPacket c irq =>
    simp only [apply, addNodataPacket_eq, hr, nodataBlock_unlink]
    split <;> simp [unlink, Function.comp_def]
  | finalizeRing => simp only [apply, finalizeRing_unlink]
  | setSkipStrategy s => simp [apply, unlink, Function.comp_def]

theorem unlink_run_unlink (b : ITProgramBuilder) (cs : List Call) :
    (b.unlink.run cs).unlink = (b.run cs).unlink := by
  induction cs generalizing b with
  | nil => simp [unlink, Function.comp_def, DescriptorBlock.unlink]
  | cons c cs ih => rw [run_cons, run_cons, ← ih, unlink_apply_unlink, ih]

/-- Everything one call can do to the builder, as far as the program's layout goes: keep the
program up to the linker's fields (relinking it, changing the strategy, or raising after moving
the cursor forward), or append the block a construction call builds at the current cursor. -/
theorem apply_cases (b : ITProgramBuilder) (c : Call) :
    ((b.apply c).unlink.blocks = b.unlink.blocks ∧ (b.apply c).baseAddress = b.baseAddress ∧
      b.payloadOffset ≤ (b.apply c).payloadOffset) ∨
    (∃ s ch f sv irq, 0 < f ∧ (8 + s * ch * 4) / f % 4 = 0 ∧
      b.apply c = { (b.advanceData s ch) with blocks := b.blocks ++ [b.dataBlock s ch f sv irq] }) ∨
    (∃ irq, b.apply c =
      { b with payloadOffset := b.payloadOffset + 16, blocks := b.blocks ++ [b.nodataBlock irq] }) := by
  cases c with
  | addDataPacket s ch f sv irq =>
    rcases addDataPacket_cases b s ch f sv irq with ⟨e, h⟩ | ⟨e, h⟩ | ⟨-, hf, hq, h⟩
    · exact .inl ⟨by simp [apply, h], by simp [apply, h], by simp [apply, h]⟩
    · exact .inl ⟨by simp [apply, h, advanceData, unlink], by simp [apply, h, advanceData],
        by simp [apply, h, advanceData]⟩
    · exact .inr (.inl ⟨s, ch, f, sv, irq, hf, hq, by simp [apply, h]⟩)
  | addNodataPacket ch irq =>
    simp only [apply, addNodataPacket_eq]
    split
    · exact .inl ⟨by simp [unlink], rfl, by simp⟩
    · exact .inr (.inr ⟨irq, rfl⟩)
  | finalizeRing =>
    refine .inl ⟨by rw [apply, unlink_finalizeRing], by simp [apply, finalizeRing_eq], by
      simp [apply, finalizeRing_eq]⟩
  | setSkipStrategy st => exact .inl ⟨rfl, rfl, le_refl _⟩

/-- A property of blocks that does not see the linker's fields holds of every block of a builder
whose unlinked program is that of a builder where it holds. -/
theorem forall_blocks_of_unlink {P : DescriptorBlock → Prop} (hP : ∀ blk, P blk.unlink ↔ P blk)
    {b b' : ITProgramBuilder} (hb : b'.unlink.blocks = b.unlink.blocks) (h : ∀ blk ∈ b.blocks, P blk) :
    ∀ blk ∈ b'.blocks, P blk := by
  intro blk hblk
  simp only [blocks_unlink] at hb
  obtain ⟨blk₀, hmem, heq⟩ := List.mem_map.mp (hb ▸ List.mem_map_of_mem DescriptorBlock.unlink hblk)
  rw [← hP, ← heq, hP]
  exact h blk₀ hmem

/-- A block property that does not see the linker's fields, and that every block a construction
call appends has, holds of every block after any calls. -/
theorem forall_blocks_run {P : DescriptorBlock → Prop} (hP : ∀ blk, P blk.unlink ↔ P blk)
    (hdata : ∀ (b : ITProgramBuilder) s ch f sv irq, 0 < f → P (b.dataBlock s ch f sv irq))
    (hnodata : ∀ (b : ITProgramBuilder) irq, P (b.nodataBlock irq)) {b : ITProgramBuilder}
    (h : ∀ blk ∈ b.blocks, P blk) (cs : List Call) : ∀ blk ∈ (b.run cs).blocks, P blk := by
  induction cs generalizing b with
  | nil => exact h
  | cons c cs ih =>
    refine ih ?_
    rcases apply_cases b c with ⟨hb, -, -⟩ | ⟨s, ch, f, sv, irq, hf, -, hc⟩ | ⟨irq, hc⟩
    · exact forall_blocks_of_unlink hP hb h
    · simpa [hc, or_imp, forall_and] using ⟨h, hdata b s ch f sv irq hf⟩
    · simpa [hc, or_imp, forall_and] using ⟨h, hnodata b irq⟩

@[simp] theorem baseAddress_apply (b : ITProgramBuilder) (c : Call) : (b.apply c).baseAddress = b.baseAddress := by
  rcases apply_cases b c with ⟨-, h, -⟩ | ⟨s, ch, f, sv, irq, -, -, h⟩ | ⟨irq, h⟩ <;> simp [h, advanceData]

@[simp] theorem baseAddress_run (b : ITProgramBuilder) (cs : List Call) : (b.run cs).baseAddress = b.baseAddress := by
  induction cs generalizing b with
  | nil => rfl
  | cons c cs ih => simp [ih]

/-- No call changes the channel or the speed `__init__` set. -/
theorem channel_speed_apply (b : ITProgramBuilder) (c : Call) :
    (b.apply c).channel = b.channel ∧ (b.apply c).speed = b.speed := by
  cases c with
  | addDataPacket s ch f sv irq =>
    rcases addDataPacket_cases b s ch f sv irq with ⟨e, h⟩ | ⟨e, h⟩ | ⟨-, -, -, h⟩ <;>
      simp [apply, h, advanceData]
  | addNodataPacket ch irq =>
    simp only [apply, addNodataPacket_eq]
    split <;> exact ⟨rfl, rfl⟩
  | finalizeRing => simp [apply, finalizeRing_eq]
  | setSkipStrategy s => exact ⟨rfl, rfl⟩

theorem channel_speed_run (b : ITProgramBuilder) (cs : List Call) :
    (b.run cs).channel = b.channel ∧ (b.run cs).speed = b.speed := by
  induction cs generalizing b with
  | nil => exact ⟨rfl, rfl⟩
  | cons c cs ih =>
    obtain ⟨hc, hs⟩ := channel_speed_apply b c
    exact ⟨(ih _).1.trans hc, (ih _).2.trans hs⟩

/-- Dropping the intermediate `finalize_ring` calls leaves the unlinked program as it is. -/
theorem unlink_run_filter (b : ITProgramBuilder) (cs : List Call) :
    (b.run cs).unlink = (b.run (cs.filter (· != .finalizeRing))).unlink := by
  induction cs generalizing b with
  | nil => rfl
  | cons c cs ih =>
    by_cases hc : c = .finalizeRing
    · subst hc
      rw [run_cons, ← unlink_run_unlink, apply, unlink_finalizeRing, unlink_run_unlink, ih]
      rfl
    · rw [List.filter_cons_of_pos (by simpa using hc), run_cons, run_cons, ih]

/-- **Linking is history-independent.** Finalizing at the end of any sequence of calls, with
`finalize_ring` calls and strategy changes anywhere in it, gives the same bytes and the same
builder as finalizing once, at the end, after the same calls without the intermediate
`finalize_ring`s; in particular `finalize_ring` is idempotent. -/
theorem finalizeRing_history_independent (b : ITProgramBuilder) (cs : List Call) :
    (b.run cs).finalizeRing = (b.run (cs.filter (· != .finalizeRing))).finalizeRing ∧
    b.finalizeRing.2.finalizeRing = b.finalizeRing := by
  constructor
  · rw [← finalizeRing_unlink, unlink_run_filter, finalizeRing_unlink]
  · rw [← finalizeRing_unlink, unlink_finalizeRing, finalizeRing_unlink]

end ITProgramBuilder

end ItDmaProgram
