import ItDmaProgram.Regions

/-!
# The packets a program sends

What an IT program is for: a list of packets, each a data length behind its IT header, possibly
a status value to store before it, and an interrupt on completion or none. The caller asks for
them one construction call at a time, and `packetsOf` says which calls give one: a DATA packet
when the sample rate is supported and the payload splits into quadlet-multiple fragments, a
NO-DATA packet when the rate is supported. Raising calls, `finalize_ring` and changes of the
skip strategy ask for nothing.

`DescriptorBlock.packet` reads the packet a descriptor block sends: the bytes its fragments
move, the value of a leading STORE_VALUE, and the interrupt bits of its terminal descriptor.

* `ring_packets`: the finalized ring of any run sends exactly the packets the calls asked for, in
  call order, one block each.
-/

namespace ItDmaProgram

/-- One packet of the program: the length of what follows the IT header (the CIP header and the
samples), the value a STORE_VALUE writes before it, if any, and whether its completion
interrupts. -/
structure Packet where
  dataLength : Nat
  storeValue : Option Nat
  irq : Bool
  deriving DecidableEq, Repr

/-- The packets a run of calls asks of a builder at sample rate `rate`: one for each construction
call that returns, in call order. -/
def packetsOf (rate : Nat) : List Call → List Packet
  | [] => []
  | .addDataPacket s c f sv irq :: cs =>
    (if (fdfForRate rate).isOk ∧ f ≠ 0 ∧ (8 + s * c * 4) / f % 4 = 0 then [⟨8 + s * c * 4, sv, irq⟩]
      else []) ++ packetsOf rate cs
  | .addNodataPacket _ irq :: cs => (if (fdfForRate rate).isOk then [⟨8, none, irq⟩] else []) ++ packetsOf rate cs
  | .finalizeRing :: cs | .setSkipStrategy _ :: cs => packetsOf rate cs

theorem packetsOf_cons (rate : Nat) (c : Call) (cs : List Call) :
    packetsOf rate (c :: cs) = packetsOf rate [c] ++ packetsOf rate cs := by
  cases c <;> simp [packetsOf]

/-- A DATA packet with no fragments raises and asks for nothing. -/
example : packetsOf 48000 [.addDataPacket 8 2 0 none false, .addDataPacket 8 2 2 (some 7) true,
    .finalizeRing, .addNodataPacket 8 false] = [⟨72, some 7, true⟩, ⟨8, none, false⟩] := by
  decide

/-- The value a STORE_VALUE writes. -/
def ITDescriptor.storeValue? : ITDescriptor → Option Nat
  | .storeValue d => some d.storeValue
  | _ => none

/-- The interrupt-on-completion bit of a terminal descriptor. -/
def ITDescriptor.interrupts : ITDescriptor → Bool
  | .outputLastImmediate d => d.irqOnComplete
  | .outputLast d => d.irqOnComplete
  | .outputLastSkip d => d.irqOnComplete
  | _ => false

/-- The packet a descriptor block sends. -/
def DescriptorBlock.packet (blk : DescriptorBlock) : Packet :=
  { dataLength := blk.payloadLength
    storeValue := blk.descriptors.head?.bind ITDescriptor.storeValue?
    irq := blk.descriptors.any ITDescriptor.interrupts }

/-! ## The packet of a block -/

theorem ITDescriptor.storeValue?_unlink (d : ITDescriptor) : d.unlink.storeValue? = d.storeValue? := by
  cases d <;> rfl

theorem ITDescriptor.interrupts_unlink (d : ITDescriptor) : d.unlink.interrupts = d.interrupts := by
  cases d <;> rfl

/-- The linker's fields are no part of the packet. -/
theorem DescriptorBlock.packet_unlink (blk : DescriptorBlock) : blk.unlink.packet = blk.packet := by
  rw [packet, packet, payloadLength, payloadLength, fragments_unlink]
  simp only [unlink, List.head?_map, Option.bind_map, List.any_map, Function.comp_def,
    ITDescriptor.storeValue?_unlink, ITDescriptor.interrupts_unlink]

namespace ITProgramBuilder

theorem packet_dataBlock (b : ITProgramBuilder) (s c f : Nat) (sv : Option Nat) (irq : Bool) (hf : 0 < f) :
    (b.dataBlock s c f sv irq).packet = ⟨8 + s * c * 4, sv, irq⟩ := by
  have hmore : ((fragmentLoop (f - 1) ((8 + s * c * 4) / f) (b.payloadBase + b.payloadOffset)).1.any
      ITDescriptor.interrupts) = false :=
    List.any_eq_false.mpr fun d hd => by obtain ⟨o, rfl⟩ := mem_fragmentLoop hd; exact Bool.false_ne_true
  rw [DescriptorBlock.packet, payloadLength_dataBlock b s c f sv irq hf]
  cases sv <;> simp [dataBlock, storeDescriptors, ITDescriptor.storeValue?, ITDescriptor.interrupts, hmore]

theorem packet_nodataBlock (b : ITProgramBuilder) (irq : Bool) :
    (b.nodataBlock irq).packet = ⟨8, none, irq⟩ := by
  rw [DescriptorBlock.packet, payloadLength_nodataBlock]
  simp [nodataBlock, ITDescriptor.storeValue?, ITDescriptor.interrupts]

/-! ## The packets over a run -/

theorem sampleRate_apply (b : ITProgramBuilder) (c : Call) : (b.apply c).sampleRate = b.sampleRate := by
  cases c with
  | addDataPacket s ch f sv irq =>
    rcases addDataPacket_cases b s ch f sv irq with ⟨e, h⟩ | ⟨e, h⟩ | ⟨-, -, -, h⟩ <;>
      simp [apply, h, advanceData]
  | addNodataPacket ch irq =>
    simp only [apply, addNodataPacket_eq]
    split <;> rfl
  | finalizeRing => simp [apply, finalizeRing_eq]
  | setSkipStrategy st => rfl

/-- Linking the ring changes no packet. -/
theorem packets_finalizeRing (b : ITProgramBuilder) :
    b.finalizeRing.2.blocks.map DescriptorBlock.packet = b.blocks.map DescriptorBlock.packet := by
  have h := congrArg (List.map DescriptorBlock.packet) b.unlink_linkRing
  simp only [List.map_map, blocks_unlink, Function.comp_def, DescriptorBlock.packet_unlink] at h
  simp [finalizeRing_eq, h]

/-- One call appends the packet it asks for, if any, to those the blocks send. -/
theorem packets_apply (b : ITProgramBuilder) (c : Call) :
    (b.apply c).blocks.map DescriptorBlock.packet =
      b.blocks.map DescriptorBlock.packet ++ packetsOf b.sampleRate [c] := by
  cases c with
  | addDataPacket s ch f sv irq =>
    simp only [apply, addDataPacket_eq, packetsOf, List.append_nil]
    rcases fdfForRate b.sampleRate with e | fdf <;> simp only [Except.isOk, Except.toBool, ↓reduceIte]
    · simp
    · by_cases hf : f = 0
      · simp [hf, advanceData]
      · by_cases hq : (8 + s * ch * 4) / f % 4 = 0
        · simp [hf, hq, packet_dataBlock b s ch f sv irq (Nat.pos_of_ne_zero hf)]
        · simp [hf, hq, advanceData]
  | addNodataPacket ch irq =>
    simp only [apply, addNodataPacket_eq, packetsOf, List.append_nil]
    split <;> simp_all [Except.isOk, Except.toBool, packet_nodataBlock]
  | finalizeRing => simp [apply, packets_finalizeRing, packetsOf]
  | setSkipStrategy st => simp [apply, packetsOf]

theorem packets_run (b : ITProgramBuilder) (cs : List Call) :
    (b.run cs).blocks.map DescriptorBlock.packet =
      b.blocks.map DescriptorBlock.packet ++ packetsOf b.sampleRate cs := by
  induction cs generalizing b with
  | nil => simp [packetsOf]
  | cons c cs ih => rw [run_cons, ih, packets_apply, sampleRate_apply, packetsOf_cons _ c cs, List.append_assoc]

end ITProgramBuilder

/-- **The ring sends the packets asked for.** After any calls on a new builder, returning or
raising, the finalized ring has one block for each DATA or NO-DATA call that returned, in call
order, and each block sends that call's packet: its data length, the value its STORE_VALUE
writes, and its interrupt bit. Raising calls, earlier `finalize_ring` calls and changes of the
skip strategy leave no trace in what is sent. -/
theorem ring_packets (base channel : Nat) (speed : Speed) (rate : Nat) (strategy : SkipStrategy)
    (calls : List Call) :
    ((ITProgramBuilder.new base channel speed rate strategy).run calls).finalizeRing.2.blocks.map
      DescriptorBlock.packet = packetsOf rate calls := by
  rw [ITProgramBuilder.packets_finalizeRing, ITProgramBuilder.packets_run]
  simp [ITProgramBuilder.new]

end ItDmaProgram
