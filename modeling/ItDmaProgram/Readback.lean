import ItDmaProgram.Decode
import ItDmaProgram.Healthy

/-!
# A validated program is written whole

`to_bytes` masks every field to the width it writes: reqCount and `store_value` to 16 bits,
addresses and the IT header quadlets to 32 bits, a pointer's address to bits 31..4 and its Z to
bits 3..0. A program loses nothing to those masks when `validate` passes, the ring and the
payload area lie below `2 ^ 32`, so does the sentinel slot under `SENTINEL`, and every DATA
packet's payload and STORE_VALUE value fit 16 bits. Its image then reads back, a descriptor at a
time, as exactly the ring `finalize_ring` built.

* `ITProgramBuilder.fits_finalizeRing`: every descriptor of such a program's ring fits.
* `decodeImage_of_validate`: the image of such a program reads back as its ring's descriptors.
-/

namespace ItDmaProgram

/-! ## The calls' own bounds -/

/-- A call whose DATA packet payload, the 8-byte CIP header and its samples, fits the 16-bit
reqCount and data length fields, and whose STORE_VALUE value, if it has one, fits 16 bits. -/
def Call.Fits16 : Call → Prop
  | .addDataPacket s c _ sv _ => 8 + s * c * 4 < 2 ^ 16 ∧ sv.getD 0 < 2 ^ 16
  | .addNodataPacket _ _ | .finalizeRing | .setSkipStrategy _ => True

instance : (c : Call) → Decidable c.Fits16
  | .addDataPacket .. => inferInstanceAs (Decidable (_ ∧ _))
  | .addNodataPacket .. | .finalizeRing | .setSkipStrategy _ => inferInstanceAs (Decidable True)

/-- The value a STORE_VALUE writes; 0 for the other descriptors. -/
def ITDescriptor.storedValue : ITDescriptor → Nat
  | .storeValue d => d.storeValue
  | _ => 0

/-- A block whose payload and STORE_VALUE values fit 16 bits. -/
def DescriptorBlock.Narrow (blk : DescriptorBlock) : Prop :=
  blk.payloadLength < 2 ^ 16 ∧ ∀ d ∈ blk.descriptors, d.storedValue < 2 ^ 16

@[simp] theorem ITDescriptor.storedValue_unlink (d : ITDescriptor) : d.unlink.storedValue = d.storedValue := by
  cases d <;> rfl

theorem DescriptorBlock.narrow_unlink (blk : DescriptorBlock) : blk.unlink.Narrow ↔ blk.Narrow := by
  rw [Narrow, Narrow, payloadLength, payloadLength, fragments_unlink]
  simp [unlink]

namespace ITProgramBuilder

theorem dataBlock_narrow (b : ITProgramBuilder) (s c f : Nat) (sv : Option Nat) (irq : Bool) (hf : 0 < f)
    (hcall : (Call.addDataPacket s c f sv irq).Fits16) : (b.dataBlock s c f sv irq).Narrow := by
  obtain ⟨hlen, hsv⟩ := hcall
  refine ⟨by rwa [payloadLength_dataBlock b s c f sv irq hf], fun d hd => ?_⟩
  simp only [dataBlock, List.mem_append, List.mem_cons, List.not_mem_nil, or_false] at hd
  rcases hd with ((hd | rfl | hd) | rfl)
  · cases sv <;> simp_all [storeDescriptors, ITDescriptor.storedValue]
  · exact Nat.two_pow_pos 16
  · obtain ⟨o, rfl⟩ := mem_fragmentLoop hd
    exact Nat.two_pow_pos 16
  · exact Nat.two_pow_pos 16

theorem nodataBlock_narrow (b : ITProgramBuilder) (irq : Bool) : (b.nodataBlock irq).Narrow := by
  refine ⟨by rw [payloadLength_nodataBlock]; decide, fun d hd => ?_⟩
  simp only [nodataBlock, List.mem_cons, List.not_mem_nil, or_false] at hd
  rcases hd with rfl | rfl <;> exact Nat.two_pow_pos 16

/-- As `forall_blocks_run`, for a block property that a DATA packet's block has when its call
satisfies `Q`, over calls that all satisfy it. -/
theorem forall_blocks_run_of_calls {P : DescriptorBlock → Prop} {Q : Call → Prop}
    (hP : ∀ blk, P blk.unlink ↔ P blk)
    (hdata : ∀ (b : ITProgramBuilder) s ch f sv irq, 0 < f → Q (.addDataPacket s ch f sv irq) →
      P (b.dataBlock s ch f sv irq))
    (hnodata : ∀ (b : ITProgramBuilder) irq, P (b.nodataBlock irq)) {b : ITProgramBuilder}
    (h : ∀ blk ∈ b.blocks, P blk) {cs : List Call} (hcs : ∀ c ∈ cs, Q c) :
    ∀ blk ∈ (b.run cs).blocks, P blk := by
  induction cs generalizing b with
  | nil => exact h
  | cons c cs ih =>
    rw [List.forall_mem_cons] at hcs
    refine ih ?_ hcs.2
    cases c with
    | addDataPacket s ch f sv irq =>
      rcases addDataPacket_cases b s ch f sv irq with ⟨e, he⟩ | ⟨e, he⟩ | ⟨-, hf, -, he⟩
      · simpa [apply, he] using h
      · simpa [apply, he, advanceData] using h
      · simpa [apply, he, or_imp, forall_and] using ⟨h, hdata b s ch f sv irq hf hcs.1⟩
    | addNodataPacket ch irq =>
      simp only [apply, addNodataPacket_eq]
      split
      · exact h
      · simpa [or_imp, forall_and] using ⟨h, hnodata b irq⟩
    | finalizeRing => exact forall_blocks_of_unlink hP (by rw [apply, unlink_finalizeRing]) h
    | setSkipStrategy st => exact h

end ITProgramBuilder

/-! ## Where the fields come from -/

/-- Fragments that tile `[a, e)` lie inside it. -/
theorem mem_tiles {a e : Nat} {frags : List (Nat × Nat)} (h : tiles a frags e = true) :
    ∀ p ∈ frags, a ≤ p.2 ∧ p.2 + p.1 ≤ e := by
  induction frags generalizing a with
  | nil => simp
  | cons q rest ih =>
    obtain ⟨len, addr⟩ := q
    simp only [tiles, Bool.and_eq_true, beq_iff_eq] at h
    have hsum := tiles_sum h.2
    rintro p (_ | ⟨_, hp⟩)
    · simp only [h.1]
      omega
    · have := ih h.2 p hp
      omega

/-- A block of a program under the layout invariant, with aligned blocks of 3 to 11 slots, ring
below `2 ^ 32`: a pointer to it fits. -/
theorem ITProgramBuilder.Inv.ptrFits {b : ITProgramBuilder} (h : b.Inv)
    (haddr : ∀ blk ∈ b.blocks, blk.address % 16 = 0) (hz : ∀ blk ∈ b.blocks, 3 ≤ blk.zValue ∧ blk.zValue ≤ 11)
    (hbelow : b.nextBlockAddress ≤ 2 ^ 32) {blk : DescriptorBlock} (hmem : blk ∈ b.blocks) :
    PtrFits blk.address blk.zValue := by
  obtain ⟨i, hi, rfl⟩ := List.getElem_of_mem hmem
  have hend := h.chained.address_add_le hi
  have hzb := hz _ hmem
  rw [← h.nextBlockAddress_eq] at hend
  exact ⟨haddr _ hmem, by omega, by omega⟩

/-- A built descriptor, once linked, fits when its own fields do and the pointers it is given
fit. -/
theorem ITDescriptor.fits_link {d : ITDescriptor} {skip : Nat × Nat} {nb : DescriptorBlock} (hbuilt : d.Built)
    (hstore : ∀ s, d = .storeValue s → s.storeValue < 2 ^ 16 ∧ s.storeAddress < 2 ^ 32)
    (hheader : ∀ o, d = .outputMoreImmediate o → o.itQ0 < 2 ^ 32 ∧ o.itQ1 < 2 ^ 32)
    (hfrag : ∀ p, d.payloadFragment = some p → p.1 < 2 ^ 16 ∧ p.2 < 2 ^ 32)
    (hskip : PtrFits skip.1 skip.2) (hnb : PtrFits nb.address nb.zValue) : (d.link skip nb).Fits := by
  cases d with
  | storeValue s => exact ⟨hbuilt, (hstore s rfl).1, (hstore s rfl).2, hskip⟩
  | outputMoreImmediate o => exact ⟨hbuilt, (hheader o rfl).1, (hheader o rfl).2, hskip⟩
  | outputMore o => exact ⟨hbuilt, hfrag _ rfl⟩
  | outputLast o => exact ⟨hbuilt, (hfrag _ rfl).1, (hfrag _ rfl).2, hnb⟩
  | outputLastImmediate _ | outputLastSkip _ => exact hbuilt.elim

/-! ## No field is cut -/

/-- **A validated program fits the widths it is written in.** After any calls on a new builder,
whose DATA packets have payloads and STORE_VALUE values of 16 bits, if `validate` reports
nothing, the ring and the payload area lie below `2 ^ 32`, and so does the sentinel slot under
`SENTINEL`, then every descriptor of the finalized ring fits: the masks of `to_bytes` cut no
bit of it. -/
theorem ITProgramBuilder.fits_finalizeRing (base channel : Nat) (speed : Speed) (rate : Nat)
    (strategy : SkipStrategy) (calls : List Call) :
    let b := (ITProgramBuilder.new base channel speed rate strategy).run calls
    b.validate = [] → b.nextBlockAddress ≤ 2 ^ 32 → b.payloadBase + b.payloadOffset < 2 ^ 32 →
    (b.skipStrategy = .sentinel → b.sentinelAddr < 2 ^ 32) → (∀ c ∈ calls, c.Fits16) →
    ∀ blk ∈ b.finalizeRing.2.blocks, ∀ d ∈ blk.descriptors, d.Fits := by
  intro b hvalid hbelow hpay hsent hcalls blk hblk d hd
  have hinv : b.Inv := (ITProgramBuilder.inv_new _ _ _ _ _).run calls
  have hpinv : b.PayloadInv := (ITProgramBuilder.payloadInv_new _ _ _ _ _).run calls
  have hnamed : b.HeadersNamed := (ITProgramBuilder.headersNamed_new _ _ _ _ _).run calls
  have hagree : b.HeadersAgree := (ITProgramBuilder.headersAgree_new _ _ _ _ _).run calls
  have hnarrow : ∀ blk ∈ b.blocks, blk.Narrow :=
    forall_blocks_run_of_calls DescriptorBlock.narrow_unlink dataBlock_narrow
      (fun b irq => nodataBlock_narrow b irq) (by simp [ITProgramBuilder.new]) hcalls
  have haddr := address_of_validate hvalid
  have hptr : ∀ {x}, x ∈ b.blocks → PtrFits x.address x.zValue :=
    fun hx => hinv.ptrFits haddr (zValue_of_validate hvalid) hbelow hx
  obtain ⟨i, hi⟩ := List.getElem?_of_mem hblk
  obtain ⟨blk₀, nb₀, -, hm, hmnb, rfl, -⟩ := finalizeRing_getElem? hi
  obtain ⟨d₀, hd₀, rfl⟩ := List.mem_map.mp hd
  simp only [Nat.reducePow] at hpay
  refine ITDescriptor.fits_link ((hinv.built _ hm).1 _ hd₀) (fun s hs => ?_) (fun o ho => ?_)
    (fun p hp => ?_) ?_ (hptr hmnb)
  · -- a STORE_VALUE writes a 16-bit value to the status word under the payload area
    subst hs
    have ha := hpinv.store blk₀ hm _ hd₀ s.storeAddress rfl
    exact ⟨(hnarrow blk₀ hm).2 _ hd₀, by rw [ha]; omega⟩
  · -- the IT header quadlets are masked to 32 bits when built
    subst ho
    rw [hnamed blk₀ hm _ hd₀ o.itQ0 rfl, hagree blk₀ hm _ hd₀ o.itQ1 rfl, buildItHeaderQ0_eq,
      buildItHeaderQ1_eq]
    constructor <;> omega
  · -- a fragment lies in its block's payload buffer, inside the payload area
    have htile := hpinv.tiled blk₀ hm
    obtain ⟨hlo, hhi⟩ := mem_tiles htile p (List.mem_filterMap.mpr ⟨d₀, hd₀, hp⟩)
    have hsum := tiles_sum htile
    have hin := hpinv.inside blk₀ hm
    have hlen := (hnarrow blk₀ hm).1
    rw [DescriptorBlock.payloadLength] at hlen
    constructor <;> omega
  · -- the skip target is a block of the ring or the sentinel slot
    obtain ⟨j, hj⟩ := List.getElem?_of_mem hm
    have hbase := hinv.base_aligned haddr hj
    cases hst : b.skipStrategy <;> simp only [skipTarget, hst]
    · exact hptr hmnb
    · exact hptr hm
    · exact ⟨by rw [sentinelAddr]; omega, hsent hst, by decide⟩

/-- **The image of a validated program reads back whole.** After any calls on a new builder as
in `ITProgramBuilder.fits_finalizeRing`, reading the bytes `finalize_ring` returns from their
start, a descriptor at a time, 32 bytes where the key is IMMEDIATE and 16 elsewhere, gives
exactly the descriptors of the ring, block after block. -/
theorem decodeImage_of_validate (base channel : Nat) (speed : Speed) (rate : Nat)
    (strategy : SkipStrategy) (calls : List Call) :
    let b := (ITProgramBuilder.new base channel speed rate strategy).run calls
    b.validate = [] → b.nextBlockAddress ≤ 2 ^ 32 → b.payloadBase + b.payloadOffset < 2 ^ 32 →
    (b.skipStrategy = .sentinel → b.sentinelAddr < 2 ^ 32) → (∀ c ∈ calls, c.Fits16) →
    decodeImage b.finalizeRing.1 = some (b.finalizeRing.2.blocks.flatMap DescriptorBlock.descriptors) :=
  fun hvalid hbelow hpay hsent hcalls =>
    ((ITProgramBuilder.inv_new _ _ _ _ _).run calls).decodeImage_finalizeRing
      (ITProgramBuilder.fits_finalizeRing base channel speed rate strategy calls hvalid hbelow hpay hsent
        hcalls)

/-- A DATA packet with a STORE_VALUE in two fragments, then a NO-DATA packet, under `SENTINEL`:
the image reads back as the ring's six descriptors. -/
theorem decodeImage_store_nodata :
    let b := (ITProgramBuilder.new 0x80000000 0 .s400 48000 .sentinel).run
      [.addDataPacket 8 2 2 (some 7) false, .addNodataPacket 8 true]
    decodeImage b.finalizeRing.1 = some (b.finalizeRing.2.blocks.flatMap DescriptorBlock.descriptors) :=
  decodeImage_of_validate 0x80000000 0 .s400 48000 .sentinel _ (by decide) (by decide) (by decide)
    (by decide) (by decide)

end ItDmaProgram
