import ItDmaProgram.Readback
import ItDmaProgram.Schedule

/-!
# The controller running the ring

What the program is written for: an OHCI isochronous transmit context started at a command
pointer. In a cycle in which it sends, the controller fetches the `Z` slots the pointer names,
runs the descriptors it reads there, and takes the branch word of the last one as its next
command pointer. In a skipped cycle it sends nothing and takes the skip pointer of the block's
first descriptor instead. `controllerRun` is that loop over a run of cycles, seen from the
packets it sends. The controller is the reader the program is written for, not a function of the
source.

* `controllerRun_replicate`, `controllerRun_self`, `controllerRun_next`: on a ring whose blocks
  are read back from their pointers and branch one to the next, the controller runs the blocks in
  ring order; a skipped cycle keeps its block under `SELF` and drops it under `NEXT`.
* `controller_sends_packets`: started at the first block of a validated program, the controller
  sends the packets the calls asked for, in call order, over and over.
* `controller_skipped_cycles`: with cycles skipped, it loses none of them under `SELF`, and exactly
  those of the skipped cycles under `NEXT`.
-/
namespace ItDmaProgram

/-- The command pointer that runs a block: its address, with its `z_value` in the low nibble. -/
def DescriptorBlock.pointer (blk : DescriptorBlock) : Nat := packPtrWithZ blk.address blk.zValue

/-- The block the controller runs through the pointer word `ptr`: the descriptors it reads in the
`Z` slots it fetches from the pointer's address bits, at that address. -/
def fetchDescriptors (image : List UInt8) (base ptr : Nat) : Option DescriptorBlock :=
  (decodeImage (fetchBlock image base ptr)).map fun ds => { descriptors := ds, address := ptr &&& 0xFFFFFFF0 }

/-- The pointer word the controller follows when it skips a block's cycle: the skip pointer of
the block's first descriptor. -/
def DescriptorBlock.skipWord (blk : DescriptorBlock) : Nat :=
  (blk.descriptors.head?.map ITDescriptor.pointerWord).getD 0

/-- The controller over a run of cycles, each skipped (`true`) or not, from the command pointer
`ptr`: the blocks it sends. In a cycle it sends, it runs the block the pointer names and goes on
at the block's branch word; in a skipped cycle it sends nothing and goes on at the block's skip
word. It stops at a pointer whose slots do not read back. -/
def controllerRun (image : List UInt8) (base : Nat) : List Bool → Nat → List DescriptorBlock
  | [], _ => []
  | skip :: cycles, ptr =>
    match fetchDescriptors image base ptr with
    | some blk =>
      if skip then controllerRun image base cycles blk.skipWord
      else blk :: controllerRun image base cycles blk.branchWord
    | none => []

/-- The command pointer a host writes to start the program: that of its first block. -/
def ITProgramBuilder.commandPtr (b : ITProgramBuilder) : Nat :=
  (b.blocks.head?.map DescriptorBlock.pointer).getD 0

/-- Block `t` of a ring run round and round: block `t` modulo the ring's length. -/
def cycleAt (ring : List DescriptorBlock) (h : 0 < ring.length) (t : Nat) : DescriptorBlock :=
  ring.get ⟨t % ring.length, Nat.mod_lt _ h⟩

theorem getElem?_cycleAt {ring : List DescriptorBlock} (h : 0 < ring.length) (t : Nat) :
    ring[t % ring.length]? = some (cycleAt ring h t) :=
  List.getElem?_eq_getElem _

theorem cycleAt_succ {ring : List DescriptorBlock} (h : 0 < ring.length) {t : Nat} {blk : DescriptorBlock}
    (hblk : ring[(t % ring.length + 1) % ring.length]? = some blk) : blk = cycleAt ring h (t + 1) := by
  rw [Nat.mod_add_mod, getElem?_cycleAt h] at hblk
  exact (Option.some.inj hblk).symm

/-! ## Running a ring -/

section Ring

variable {image : List UInt8} {base : Nat} {ring : List DescriptorBlock} {h : 0 < ring.length}
  (hfetch : ∀ t, fetchDescriptors image base (cycleAt ring h t).pointer = some (cycleAt ring h t))
  (hbranch : ∀ t, (cycleAt ring h t).branchWord = (cycleAt ring h (t + 1)).pointer)
include hfetch hbranch

/-- **With no cycle skipped, the controller runs a ring in order.** If through the pointer of
every block of `ring` the controller reads that block back, and every block branches to the
next, the first after the last, then `n` cycles from block `t` run blocks `t`, `t + 1`, … of the
ring run round and round. -/
theorem controllerRun_replicate (n t : Nat) :
    controllerRun image base (List.replicate n false) (cycleAt ring h t).pointer =
      (List.range' t n).map (cycleAt ring h) := by
  induction n generalizing t with
  | zero => rfl
  | succ n ih => simp only [List.replicate_succ, controllerRun, hfetch, hbranch, ih, List.range'_succ,
      List.map_cons, Bool.false_eq_true, ↓reduceIte]

/-- **Under `SELF` no packet is lost.** If moreover every block skips to itself, then whatever
cycles are skipped, the controller sends the blocks in ring order, one for each cycle it does not
skip. -/
theorem controllerRun_self (hskip : ∀ t, (cycleAt ring h t).skipWord = (cycleAt ring h t).pointer)
    (cycles : List Bool) (t : Nat) :
    controllerRun image base cycles (cycleAt ring h t).pointer =
      (List.range' t (cycles.count false)).map (cycleAt ring h) := by
  induction cycles generalizing t with
  | nil => rfl
  | cons skip cycles ih =>
    cases skip
    · simp only [controllerRun, hfetch, hbranch, ih, List.count_cons_self, List.range'_succ, List.map_cons,
        Bool.false_eq_true, ↓reduceIte]
    · simp only [controllerRun, hfetch, hskip, ih, ↓reduceIte, List.count_cons_of_ne Bool.false_ne_true]

/-- **Under `NEXT` a skipped cycle drops its block.** If moreover every block skips to the next,
then the controller sends, in each cycle `t` it does not skip, block `t` of the ring run round
and round: the blocks of the skipped cycles are never sent. -/
theorem controllerRun_next (hskip : ∀ t, (cycleAt ring h t).skipWord = (cycleAt ring h (t + 1)).pointer)
    (cycles : List Bool) (t : Nat) :
    controllerRun image base cycles (cycleAt ring h t).pointer =
      (cycles.enumFrom t).filterMap fun p => if p.2 then none else some (cycleAt ring h p.1) := by
  induction cycles generalizing t with
  | nil => rfl
  | cons skip cycles ih =>
    cases skip <;> simp only [controllerRun, hfetch, hbranch, hskip, ih, List.enumFrom_cons,
      List.filterMap_cons, Bool.false_eq_true, ↓reduceIte]

end Ring

/-! ## The ring of a validated program -/

/-- Through a block's pointer the controller reads back a block of an image laid out under the
layout invariant, on an aligned base below `2 ^ 32`, whose descriptors fit and whose blocks take
fewer than 16 slots. -/
theorem ITProgramBuilder.Inv.fetchDescriptors_pointer {r : ITProgramBuilder} (h : r.Inv)
    (haligned : r.baseAddress % 16 = 0) (hbelow : r.nextBlockAddress ≤ 2 ^ 32)
    (hfits : ∀ blk ∈ r.blocks, ∀ d ∈ blk.descriptors, d.Fits) (hz : ∀ blk ∈ r.blocks, blk.zValue < 16)
    {i : Nat} {blk : DescriptorBlock} (hblk : r.blocks[i]? = some blk) :
    fetchDescriptors (r.blocks.map DescriptorBlock.toBytes).flatten r.baseAddress blk.pointer = some blk := by
  have hmem := List.getElem?_mem hblk
  have hall : ∀ d ∈ blk.descriptors, d.Fits ∧ d.Built := fun d hd => ⟨hfits _ hmem d hd, (h.built _ hmem).1 d hd⟩
  rw [fetchDescriptors, DescriptorBlock.pointer, h.fetchBlock_pointer haligned hbelow hz hblk,
    h.addressBits haligned hbelow hmem, DescriptorBlock.toBytes,
    decodeImage_flatten fun d hd => (hall d hd).1,
    List.map_congr_left fun d hd => (hall d hd).2.canonical_eq, List.map_id']
  rfl

/-- A block whose first descriptor has a skip pointer, so that the controller has somewhere to go
when it skips the block's cycle. -/
def DescriptorBlock.SkipsFirst (blk : DescriptorBlock) : Prop :=
  ∃ d, blk.descriptors.head? = some d ∧ d.hasSkip

theorem ITDescriptor.hasSkip_unlink (d : ITDescriptor) : d.unlink.hasSkip = d.hasSkip := by
  cases d <;> rfl

theorem DescriptorBlock.skipsFirst_unlink (blk : DescriptorBlock) : blk.unlink.SkipsFirst ↔ blk.SkipsFirst := by
  simp [SkipsFirst, unlink, ITDescriptor.hasSkip_unlink]

/-- Every block of a program starts with its STORE_VALUE or its header, which both skip. -/
theorem ITProgramBuilder.skipsFirst_run (base channel : Nat) (speed : Speed) (rate : Nat)
    (strategy : SkipStrategy) (calls : List Call) :
    ∀ blk ∈ ((ITProgramBuilder.new base channel speed rate strategy).run calls).blocks, blk.SkipsFirst :=
  forall_blocks_run DescriptorBlock.skipsFirst_unlink
    (fun b s c f sv irq _ => by cases sv <;> exact ⟨_, rfl, rfl⟩) (fun b irq => ⟨_, rfl, rfl⟩)
    (by simp [ITProgramBuilder.new]) calls

/-- Block `i` of a finalized ring branches to block `i + 1`, the first after the last, and skips
to its skip target: block `i + 1` under `NEXT`, itself under `SELF`. -/
theorem ITProgramBuilder.Inv.words_finalizeRing {b : ITProgramBuilder} (h : b.Inv)
    (hskips : ∀ blk ∈ b.blocks, blk.SkipsFirst) {i : Nat} {blk : DescriptorBlock}
    (hblk : b.finalizeRing.2.blocks[i]? = some blk) :
    ∃ nb, b.finalizeRing.2.blocks[(i + 1) % b.finalizeRing.2.blocks.length]? = some nb ∧
      blk.branchWord = nb.pointer ∧ (b.skipStrategy = .next → blk.skipWord = nb.pointer) ∧
      (b.skipStrategy = .self → blk.skipWord = blk.pointer) := by
  obtain ⟨blk₀, nb₀, nb, hm, -, rfl, hnext, ha, hz⟩ := ITProgramBuilder.finalizeRing_getElem? hblk
  obtain ⟨d, hd, hs⟩ := hskips blk₀ hm
  have hskip : (blk₀.link (b.skipTarget blk₀ nb₀) nb₀).skipWord =
      packPtrWithZ (b.skipTarget blk₀ nb₀).1 (b.skipTarget blk₀ nb₀).2 := by
    have hd' : (blk₀.link (b.skipTarget blk₀ nb₀) nb₀).descriptors.head? =
        some (d.link (b.skipTarget blk₀ nb₀) nb₀) := by
      simp [DescriptorBlock.link, hd]
    rw [DescriptorBlock.skipWord, hd', Option.map_some', Option.getD_some,
      DescriptorBlock.pointerWord_of_hasSkip (List.mem_of_mem_head? hd') (by rwa [ITDescriptor.hasSkip_link])]
  refine ⟨nb, hnext, by rw [((h.built _ hm).branchWord_link _ nb₀).2, DescriptorBlock.pointer, ha, hz],
    fun hst => ?_, fun hst => ?_⟩
  · rw [hskip, ITProgramBuilder.skipTarget, hst, DescriptorBlock.pointer, ha, hz]
  · rw [hskip, ITProgramBuilder.skipTarget, hst, DescriptorBlock.pointer, DescriptorBlock.address_link,
      DescriptorBlock.zValue_link]

/-- The finalized ring of a validated program, as the controller sees it. Through the pointer of
every block it reads that block back; every block branches to the next and skips to its skip
target; the host starts it at the first block; and block `t` of the ring run round and round
sends packet `t` of those the calls asked for, modulo their number. -/
theorem ITProgramBuilder.ring_of_validate (base channel : Nat) (speed : Speed) (rate : Nat)
    (strategy : SkipStrategy) (calls : List Call) :
    let b := (ITProgramBuilder.new base channel speed rate strategy).run calls
    let ring := b.finalizeRing.2.blocks
    let packets := packetsOf rate calls
    b.validate = [] → b.nextBlockAddress ≤ 2 ^ 32 → b.payloadBase + b.payloadOffset < 2 ^ 32 →
    (b.skipStrategy = .sentinel → b.sentinelAddr < 2 ^ 32) → (∀ c ∈ calls, c.Fits16) →
    ∀ hN : 0 < packets.length, ∃ h : 0 < ring.length,
      (∀ t, fetchDescriptors b.finalizeRing.1 base (cycleAt ring h t).pointer = some (cycleAt ring h t)) ∧
      (∀ t, (cycleAt ring h t).branchWord = (cycleAt ring h (t + 1)).pointer) ∧
      (b.skipStrategy = .next → ∀ t, (cycleAt ring h t).skipWord = (cycleAt ring h (t + 1)).pointer) ∧
      (b.skipStrategy = .self → ∀ t, (cycleAt ring h t).skipWord = (cycleAt ring h t).pointer) ∧
      b.finalizeRing.2.commandPtr = (cycleAt ring h 0).pointer ∧
      ∀ t, (cycleAt ring h t).packet = packets.get ⟨t % packets.length, Nat.mod_lt _ hN⟩ := by
  intro b ring packets hvalid hbelow hpay hsent hcalls hN
  have hinv : b.Inv := (ITProgramBuilder.inv_new _ _ _ _ _).run calls
  have hfin : b.finalizeRing.2.Inv := hinv.apply .finalizeRing
  have hb : b.baseAddress = base := by simp [b, ITProgramBuilder.new]
  have hpackets : ring.map DescriptorBlock.packet = packets := by
    rw [ITProgramBuilder.packets_finalizeRing, ITProgramBuilder.packets_run]
    simp [ITProgramBuilder.new, packets]
  have hlen : ring.length = packets.length := by rw [← hpackets, List.length_map]
  have h0 : 0 < ring.length := hlen ▸ hN
  have hz : ∀ blk ∈ ring, blk.zValue < 16 := fun blk hblk => by
    have := (zValue_finalizeRing_of_validate hvalid blk hblk).2
    omega
  have haligned : b.finalizeRing.2.baseAddress % 16 = 0 := by
    obtain ⟨blk₀, -, -, hm, -⟩ := ITProgramBuilder.finalizeRing_getElem? (List.getElem?_eq_getElem h0)
    obtain ⟨k, hk⟩ := List.getElem?_of_mem hm
    rw [ITProgramBuilder.baseAddress_finalizeRing]
    exact hinv.base_aligned (ITProgramBuilder.address_of_validate hvalid) hk
  have hwords := fun t => hinv.words_finalizeRing (skipsFirst_run base channel speed rate strategy calls)
    (getElem?_cycleAt h0 t)
  refine ⟨h0, fun t => ?_, fun t => ?_, fun hst t => ?_, fun hst t => ?_, ?_, fun t => ?_⟩
  · have := hfin.fetchDescriptors_pointer haligned (by rwa [ITProgramBuilder.nextBlockAddress_finalizeRing])
      (fits_finalizeRing base channel speed rate strategy calls hvalid hbelow hpay hsent hcalls) hz
      (getElem?_cycleAt h0 t)
    rwa [ITProgramBuilder.baseAddress_finalizeRing, hb, ← ITProgramBuilder.finalizeRing_fst] at this
  · obtain ⟨nb, hnb, hbw, -⟩ := hwords t
    rw [hbw, cycleAt_succ h0 hnb]
  · obtain ⟨nb, hnb, -, hsk, -⟩ := hwords t
    rw [hsk hst, cycleAt_succ h0 hnb]
  · obtain ⟨-, -, -, -, hsk⟩ := hwords t
    exact hsk hst
  · rw [ITProgramBuilder.commandPtr, List.head?_eq_getElem?, List.getElem?_eq_getElem h0]
    rfl
  · simp only [cycleAt, List.get_eq_getElem, ← hpackets, List.getElem_map, hlen]

/-! ## What the controller sends -/

/-- **The controller sends the packets asked for, over and over.** After any calls on a new
builder as in `ITProgramBuilder.fits_finalizeRing`, that asked for at least one packet, a
controller started at the first block of the finalized ring sends, in `n` cycles none of which
is skipped, the packets the calls asked for in call order, starting again from the first after
the last. -/
theorem controller_sends_packets (base channel : Nat) (speed : Speed) (rate : Nat)
    (strategy : SkipStrategy) (calls : List Call) :
    let b := (ITProgramBuilder.new base channel speed rate strategy).run calls
    let packets := packetsOf rate calls
    b.validate = [] → b.nextBlockAddress ≤ 2 ^ 32 → b.payloadBase + b.payloadOffset < 2 ^ 32 →
    (b.skipStrategy = .sentinel → b.sentinelAddr < 2 ^ 32) → (∀ c ∈ calls, c.Fits16) →
    ∀ (hN : 0 < packets.length) (n : Nat),
      (controllerRun b.finalizeRing.1 base (List.replicate n false) b.finalizeRing.2.commandPtr).map
        DescriptorBlock.packet = (List.range n).map fun k => packets.get ⟨k % packets.length, Nat.mod_lt _ hN⟩ := by
  intro b packets hvalid hbelow hpay hsent hcalls hN n
  obtain ⟨h, hfetch, hbranch, -, -, hcmd, hpacket⟩ := ITProgramBuilder.ring_of_validate base channel speed rate
    strategy calls hvalid hbelow hpay hsent hcalls hN
  rw [hcmd, controllerRun_replicate hfetch hbranch n 0, List.map_map, List.range_eq_range']
  exact List.map_congr_left fun k _ => hpacket k

/-- A DATA packet with a STORE_VALUE in two fragments, then a NO-DATA packet: in five cycles the
controller sends the DATA packet, the NO-DATA packet, then both again and the DATA packet once
more. -/
theorem controller_sends_packets_five_cycles :
    let b := (ITProgramBuilder.new 0x80000000 0 .s400 48000 .next).run
      [.addDataPacket 8 2 2 (some 7) false, .addNodataPacket 8 true]
    let packets := packetsOf 48000 [.addDataPacket 8 2 2 (some 7) false, .addNodataPacket 8 true]
    ∃ hN : 0 < packets.length,
      (controllerRun b.finalizeRing.1 0x80000000 (List.replicate 5 false) b.finalizeRing.2.commandPtr).map
        DescriptorBlock.packet = (List.range 5).map fun k => packets.get ⟨k % packets.length, Nat.mod_lt _ hN⟩ :=
  ⟨by decide, controller_sends_packets 0x80000000 0 .s400 48000 .next _ (by decide) (by decide) (by decide)
    (by decide) (by decide) (by decide) 5⟩

/-- **What a skipped cycle costs.** After any calls on a new builder as in
`ITProgramBuilder.fits_finalizeRing`, that asked for at least one packet, take a controller
started at the first block of the finalized ring, and any run of cycles, each skipped or not.
Under `SELF` it loses no packet: it sends the packets asked for in call order, over and over, one
in each cycle it does not skip. Under `NEXT` a skipped cycle drops its packet: in each cycle `t`
it does not skip, it sends packet `t` modulo their number. -/
theorem controller_skipped_cycles (base channel : Nat) (speed : Speed) (rate : Nat)
    (strategy : SkipStrategy) (calls : List Call) :
    let b := (ITProgramBuilder.new base channel speed rate strategy).run calls
    let packets := packetsOf rate calls
    b.validate = [] → b.nextBlockAddress ≤ 2 ^ 32 → b.payloadBase + b.payloadOffset < 2 ^ 32 →
    (b.skipStrategy = .sentinel → b.sentinelAddr < 2 ^ 32) → (∀ c ∈ calls, c.Fits16) →
    ∀ (hN : 0 < packets.length) (cycles : List Bool),
      (b.skipStrategy = .self →
        (controllerRun b.finalizeRing.1 base cycles b.finalizeRing.2.commandPtr).map DescriptorBlock.packet =
          (List.range (cycles.count false)).map fun k => packets.get ⟨k % packets.length, Nat.mod_lt _ hN⟩) ∧
      (b.skipStrategy = .next →
        (controllerRun b.finalizeRing.1 base cycles b.finalizeRing.2.commandPtr).map DescriptorBlock.packet =
          cycles.enum.filterMap fun p =>
            if p.2 then none else some (packets.get ⟨p.1 % packets.length, Nat.mod_lt _ hN⟩)) := by
  intro b packets hvalid hbelow hpay hsent hcalls hN cycles
  obtain ⟨h, hfetch, hbranch, hnext, hself, hcmd, hpacket⟩ := ITProgramBuilder.ring_of_validate base channel
    speed rate strategy calls hvalid hbelow hpay hsent hcalls hN
  refine ⟨fun hst => ?_, fun hst => ?_⟩
  · rw [hcmd, controllerRun_self hfetch hbranch (hself hst) cycles 0, List.map_map, List.range_eq_range']
    exact List.map_congr_left fun k _ => hpacket k
  · rw [hcmd, controllerRun_next hfetch hbranch (hnext hst) cycles 0, List.map_filterMap, ← List.enum]
    refine List.filterMap_congr fun p _ => ?_
    split <;> simp [hpacket]

/-- Three cycles, the second skipped, over a DATA packet and a NO-DATA packet. Under `SELF` the
controller sends the DATA packet, then the NO-DATA packet. -/
theorem controller_skipped_cycles_self :
    let b := (ITProgramBuilder.new 0x80000000 0 .s400 48000 .self).run
      [.addDataPacket 8 2 2 (some 7) false, .addNodataPacket 8 true]
    let packets := packetsOf 48000 [.addDataPacket 8 2 2 (some 7) false, .addNodataPacket 8 true]
    ∃ hN : 0 < packets.length,
      (b.skipStrategy = .self →
        (controllerRun b.finalizeRing.1 0x80000000 [false, true, false] b.finalizeRing.2.commandPtr).map
          DescriptorBlock.packet =
          (List.range ([false, true, false].count false)).map fun k =>
            packets.get ⟨k % packets.length, Nat.mod_lt _ hN⟩) ∧
      (b.skipStrategy = .next →
        (controllerRun b.finalizeRing.1 0x80000000 [false, true, false] b.finalizeRing.2.commandPtr).map
          DescriptorBlock.packet =
          [false, true, false].enum.filterMap fun p =>
            if p.2 then none else some (packets.get ⟨p.1 % packets.length, Nat.mod_lt _ hN⟩)) :=
  ⟨by decide, controller_skipped_cycles 0x80000000 0 .s400 48000 .self _ (by decide) (by decide) (by decide)
    (by decide) (by decide) (by decide) [false, true, false]⟩

end ItDmaProgram
