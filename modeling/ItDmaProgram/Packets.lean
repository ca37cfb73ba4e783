import ItDmaProgram.Run

/-!
# What a construction call does with its payload, and what a failed one leaves behind

`add_data_packet` hands the packet's payload of `L = 8 + samples * channels * 4` bytes (CIP
header and audio) to the controller in `fragments` pieces: `fragments - 1` OUTPUT_MORE pieces
of `L / fragments` bytes and an OUTPUT_LAST piece that also carries the remainder `L % fragments`.

* `addDataPacket_fragmentation`: with a supported sample rate and at least one fragment, the
  call raises exactly when `L / fragments` is not a multiple of 4, and otherwise its pieces are
  quadlet multiples, add up to `L`, and tile the buffer `_alloc_payload` handed out.
* `addDataPacket_raised`, `addNodataPacket_raised`: what a call that raised leaves behind. The
  blocks are untouched, but the DBC counter and the payload cursor have moved unless the call
  failed on the sample rate before touching them.
* `counters_of_calls`: over any run, the payload cursor and the DBC counter are the sums of what
  each call allocates and counts, raising calls included.
-/

namespace ItDmaProgram

/-! ## Payload fragments -/

/-- The `(req_count, data_address)` of a descriptor that moves payload bytes from memory: an
OUTPUT_MORE or an OUTPUT_LAST. -/
def ITDescriptor.payloadFragment : ITDescriptor → Option (Nat × Nat)
  | .outputMore d => some (d.reqCount, d.dataAddress)
  | .outputLast d => some (d.reqCount, d.dataAddress)
  | _ => none

/-- The payload fragments of a block, in order. -/
def DescriptorBlock.fragments (blk : DescriptorBlock) : List (Nat × Nat) :=
  blk.descriptors.filterMap ITDescriptor.payloadFragment

/-- `tiles a frags e`: the fragments, each a `(length, address)`, cover `[a, e)`, each one
starting where the previous one ends. -/
def tiles : Nat → List (Nat × Nat) → Nat → Bool
  | a, [], e => a == e
  | a, (len, addr) :: rest, e => addr == a && tiles (a + len) rest e

/-- The loop's fragments all have the loop's size. -/
theorem fragmentLoop_lengths (n size a : Nat) :
    ((fragmentLoop n size a).1.filterMap ITDescriptor.payloadFragment).map Prod.fst =
      List.replicate n size := by
  induction n generalizing a with
  | zero => rfl
  | succ n ih => simp [fragmentLoop, ITDescriptor.payloadFragment, ih, List.replicate_succ]

/-- The loop's fragments are laid end to end from where the loop starts. -/
theorem tiles_fragmentLoop (n size a e : Nat) (rest : List (Nat × Nat)) :
    tiles a ((fragmentLoop n size a).1.filterMap ITDescriptor.payloadFragment ++ rest) e =
      tiles (a + n * size) rest e := by
  induction n generalizing a with
  | zero => simp [fragmentLoop]
  | succ n ih =>
    simp only [fragmentLoop, List.filterMap_cons, ITDescriptor.payloadFragment, List.cons_append,
      tiles, beq_self_eq_true, Bool.true_and, List.append_eq, ih, Nat.add_assoc]
    rw [Nat.succ_mul, Nat.add_comm (n * size)]

/-- The fragments of the block `add_data_packet` builds: the loop's, then the OUTPUT_LAST one
right after them. -/
theorem fragments_dataBlock (b : ITProgramBuilder) (s c f : Nat) (sv : Option Nat) (irq : Bool) :
    (b.dataBlock s c f sv irq).fragments =
      (fragmentLoop (f - 1) ((8 + s * c * 4) / f) (b.payloadBase + b.payloadOffset)).1.filterMap
          ITDescriptor.payloadFragment ++
        [((8 + s * c * 4) / f + (8 + s * c * 4) % f,
          b.payloadBase + b.payloadOffset + (f - 1) * ((8 + s * c * 4) / f))] := by
  cases sv <;>
    simp [DescriptorBlock.fragments, ITProgramBuilder.dataBlock, ITProgramBuilder.storeDescriptors,
      ITDescriptor.payloadFragment, fragmentLoop_snd]

/-- The payload length of a block: the bytes its fragments move. -/
def DescriptorBlock.payloadLength (blk : DescriptorBlock) : Nat := (blk.fragments.map Prod.fst).sum

/-- The pieces of a data packet: `fragments - 1` of the fragment size and the remainder piece. -/
theorem fragmentLengths_dataBlock (b : ITProgramBuilder) (s c f : Nat) (sv : Option Nat) (irq : Bool) :
    (b.dataBlock s c f sv irq).fragments.map Prod.fst =
      List.replicate (f - 1) ((8 + s * c * 4) / f) ++ [(8 + s * c * 4) / f + (8 + s * c * 4) % f] := by
  simp [fragments_dataBlock, fragmentLoop_lengths]

/-- The pieces of a data packet add up to its payload length. -/
theorem payloadLength_dataBlock (b : ITProgramBuilder) (s c f : Nat) (sv : Option Nat) (irq : Bool)
    (hf : 0 < f) : (b.dataBlock s c f sv irq).payloadLength = 8 + s * c * 4 := by
  have hsplit := Nat.div_add_mod (8 + s * c * 4) f
  rw [DescriptorBlock.payloadLength, fragmentLengths_dataBlock, List.sum_append, List.sum_replicate,
    smul_eq_mul, List.sum_singleton]
  obtain ⟨g, rfl⟩ : ∃ g, f = g + 1 := ⟨f - 1, by omega⟩
  rw [Nat.add_sub_cancel, Nat.succ_mul] at *
  omega

/-- The pieces of a data packet are laid end to end over the buffer `_alloc_payload` hands out. -/
theorem tiles_dataBlock (b : ITProgramBuilder) (s c f : Nat) (sv : Option Nat) (irq : Bool)
    (hf : 0 < f) :
    tiles (b.payloadBase + b.payloadOffset) (b.dataBlock s c f sv irq).fragments
      (b.payloadBase + b.payloadOffset + (8 + s * c * 4)) = true := by
  obtain ⟨g, rfl⟩ : ∃ g, f = g + 1 := ⟨f - 1, by omega⟩
  have hsplit := Nat.div_add_mod (8 + s * c * 4) (g + 1)
  rw [fragments_dataBlock, Nat.add_sub_cancel, tiles_fragmentLoop]
  simp only [tiles, beq_self_eq_true, Bool.true_and, beq_iff_eq]
  simp only [Nat.succ_mul] at hsplit
  omega

/-- A NO-DATA packet moves its 8 CIP header bytes. -/
theorem payloadLength_nodataBlock (b : ITProgramBuilder) (irq : Bool) :
    (b.nodataBlock irq).payloadLength = 8 := rfl

/-- The remainder piece is a quadlet multiple when the others are: the payload length is. -/
theorem mod_fragments_aligned (samples channels fragments : Nat)
    (hq : (8 + samples * channels * 4) / fragments % 4 = 0) :
    (8 + samples * channels * 4) % fragments % 4 = 0 := by
  have hsplit := Nat.div_add_mod (8 + samples * channels * 4) fragments
  have hmul : 4 ∣ fragments * ((8 + samples * channels * 4) / fragments) :=
    Dvd.dvd.mul_left (Nat.dvd_of_mod_eq_zero hq) _
  omega

/-- With a quadlet-multiple fragment size, every piece of a data packet is a quadlet multiple. -/
theorem fragments_aligned_dataBlock (b : ITProgramBuilder) (s c f : Nat) (sv : Option Nat) (irq : Bool)
    (hq : (8 + s * c * 4) / f % 4 = 0) : ∀ p ∈ (b.dataBlock s c f sv irq).fragments, p.1 % 4 = 0 := by
  intro p hp
  have hmem := fragmentLengths_dataBlock b s c f sv irq ▸ List.mem_map_of_mem Prod.fst hp
  simp only [List.mem_append, List.mem_replicate, List.mem_singleton] at hmem
  have := mod_fragments_aligned s c f hq
  omega

/-- The fragmentation law of one `add_data_packet` call, `L` being the payload length: the
call raises exactly when the fragment size `L / fragments` is not a multiple of 4, and then
with the fragment-size `ValueError`; otherwise the block's payload pieces are `fragments - 1`
of `L / fragments` bytes and a last one of `L / fragments + L % fragments`, all quadlet
multiples adding up to `L`, laid end to end over the `L` bytes `_alloc_payload` handed out. -/
def FragmentationConservation (b : ITProgramBuilder) (samples channels fragments : Nat)
    (storeVal : Option Nat) (irq : Bool) : Prop :=
  let payloadLen := 8 + samples * channels * 4
  let fragSize := payloadLen / fragments
  let payloadAddr := (b.allocPayload payloadLen).1
  let call := b.addDataPacket samples channels fragments storeVal irq
  (∀ e, call.1 = .error e ↔ fragSize % 4 ≠ 0 ∧ e = .unalignedFragment fragSize) ∧
  (∀ blk, call.1 = .ok blk →
    blk.fragments.map Prod.fst =
      List.replicate (fragments - 1) fragSize ++ [fragSize + payloadLen % fragments] ∧
    (∀ p ∈ blk.fragments, p.1 % 4 = 0) ∧
    (blk.fragments.map Prod.fst).sum = payloadLen ∧
    tiles payloadAddr blk.fragments (payloadAddr + payloadLen))

/-- **Fragmentation conservation** holds for every call with a supported sample rate and at
least one fragment. -/
theorem addDataPacket_fragmentation (b : ITProgramBuilder) (samples channels fragments : Nat)
    (storeVal : Option Nat) (irq : Bool) (hrate : ∃ fdf, fdfForRate b.sampleRate = .ok fdf)
    (hfragments : 1 ≤ fragments) :
    FragmentationConservation b samples channels fragments storeVal irq := by
  obtain ⟨fdf, hfdf⟩ := hrate
  have hf : fragments ≠ 0 := Nat.one_le_iff_ne_zero.mp hfragments
  unfold FragmentationConservation
  intro payloadLen fragSize payloadAddr call
  by_cases hq : fragSize % 4 = 0
  · have hcall : call.1 = .ok (b.dataBlock samples channels fragments storeVal irq) := by
      simp [call, ITProgramBuilder.addDataPacket_eq, hfdf, hf, hq, fragSize, payloadLen]
    refine ⟨fun e => by simp [hcall, hq], fun blk hblk => ?_⟩
    obtain rfl : b.dataBlock samples channels fragments storeVal irq = blk := by simpa [hcall] using hblk
    exact ⟨fragmentLengths_dataBlock b samples channels fragments storeVal irq,
      fragments_aligned_dataBlock b samples channels fragments storeVal irq hq,
      payloadLength_dataBlock b samples channels fragments storeVal irq hfragments,
      tiles_dataBlock b samples channels fragments storeVal irq hfragments⟩
  · have hcall : call.1 = .error (.unalignedFragment fragSize) := by
      simp [call, ITProgramBuilder.addDataPacket_eq, hfdf, hf, hq, fragSize, payloadLen]
    exact ⟨fun e => by simp [hcall, hq, eq_comm], fun blk hblk => by simp [hcall] at hblk⟩

/-- Two stereo frames of 8 samples in two fragments of 36 bytes. -/
theorem addDataPacket_fragmentation_two_fragments :
    (∃ fdf, fdfForRate (ITProgramBuilder.new 0x80000000 0 .s400 48000 .next).sampleRate = .ok fdf) ∧
    1 ≤ 2 ∧
    FragmentationConservation (ITProgramBuilder.new 0x80000000 0 .s400 48000 .next) 8 2 2 none false :=
  ⟨⟨2, rfl⟩, by decide,
    addDataPacket_fragmentation (ITProgramBuilder.new 0x80000000 0 .s400 48000 .next) 8 2 2 none false
      ⟨2, rfl⟩ (by decide)⟩

/-! ## Failed calls -/

/-- What a raising `add_data_packet` leaves behind: the builder as it was when the sample rate
was the cause, and otherwise, when the fragment count or size was, the builder with the DBC
counter and the payload cursor advanced. The blocks are untouched either way. -/
theorem addDataPacket_raised (b : ITProgramBuilder) (s c f : Nat) (sv : Option Nat) (irq : Bool)
    {e : ITError} (h : (b.addDataPacket s c f sv irq).1 = .error e) :
    ((e = .unsupportedSampleRate b.sampleRate ∧ (b.addDataPacket s c f sv irq).2 = b) ∨
      ((e = .zeroDivision ∨ e = .unalignedFragment ((8 + s * c * 4) / f)) ∧
        (b.addDataPacket s c f sv irq).2 = b.advanceData s c)) ∧
    (b.addDataPacket s c f sv irq).2.blocks = b.blocks := by
  rw [ITProgramBuilder.addDataPacket_eq] at h ⊢
  rcases hr : fdfForRate b.sampleRate with e' | fdf
  · rw [hr] at h
    cases h
    exact ⟨.inl ⟨fdfForRate_error hr, rfl⟩, rfl⟩
  · simp only [hr] at h ⊢
    split_ifs at h ⊢ <;> cases h
    · exact ⟨.inr ⟨.inl rfl, rfl⟩, rfl⟩
    · exact ⟨.inr ⟨.inr rfl, rfl⟩, rfl⟩

/-- A raising `add_nodata_packet` failed on the sample rate, after allocating its payload. -/
theorem addNodataPacket_raised (b : ITProgramBuilder) (c : Nat) (irq : Bool) {e : ITError}
    (h : (b.addNodataPacket c irq).1 = .error e) :
    e = .unsupportedSampleRate b.sampleRate ∧
    (b.addNodataPacket c irq).2 = { b with payloadOffset := b.payloadOffset + 16 } := by
  rw [ITProgramBuilder.addNodataPacket_eq] at h ⊢
  rcases hr : fdfForRate b.sampleRate with e' | fdf <;> rw [hr] at h
  · cases h
    exact ⟨fdfForRate_error hr, rfl⟩
  · cases h

/-- Raising calls that move the builder on: `add_data_packet` with no fragments raises
`ZeroDivisionError` after counting its 8 samples and allocating its 72 payload bytes (80 once
rounded), and `add_nodata_packet` at an unsupported rate raises after allocating its 8 bytes. -/
theorem raising_calls_move_builder :
    (ITProgramBuilder.new 0x80000000 0 .s400 48000 .next).addDataPacket 8 2 0 none false =
      (.error .zeroDivision,
        { ITProgramBuilder.new 0x80000000 0 .s400 48000 .next with dbc := 8, payloadOffset := 80 }) ∧
    (ITProgramBuilder.new 0x80000000 0 .s400 44000 .next).addNodataPacket 8 false =
      (.error (.unsupportedSampleRate 44000),
        { ITProgramBuilder.new 0x80000000 0 .s400 44000 .next with payloadOffset := 16 }) :=
  ⟨rfl, rfl⟩

/-! ## The counters over a run -/

/-- The payload bytes a call takes from the cursor, on a builder whose sample rate `fdf_for_rate`
accepts (`rateOk`) or rejects: a DATA packet its payload rounded up to 16 bytes once past the rate
check, whether it then returns or raises; a NO-DATA packet 16 bytes, before its rate check. -/
def Call.allocated (rateOk : Bool) : Call → Nat
  | .addDataPacket s c _ _ _ => if rateOk then (8 + s * c * 4 + 15) / 16 * 16 else 0
  | .addNodataPacket _ _ => 16
  | .finalizeRing | .setSkipStrategy _ => 0

/-- The samples a call adds to the DBC counter: a DATA packet's, once past the rate check. -/
def Call.counted (rateOk : Bool) : Call → Nat
  | .addDataPacket s _ _ _ _ => if rateOk then s else 0
  | .addNodataPacket _ _ | .finalizeRing | .setSkipStrategy _ => 0

namespace ITProgramBuilder

/-- One call leaves the sample rate, moves the payload cursor by what it allocates, and adds to
the DBC counter, modulo 256, what it counts. -/
theorem counters_apply (b : ITProgramBuilder) (c : Call) (hdbc : b.dbc < 256) :
    let ok := (fdfForRate b.sampleRate).isOk
    (b.apply c).sampleRate = b.sampleRate ∧
      (b.apply c).payloadOffset = b.payloadOffset + c.allocated ok ∧
      (b.apply c).dbc = (b.dbc + c.counted ok) % 256 := by
  cases c with
  | addDataPacket s ch f sv irq =>
    simp only [apply, addDataPacket_eq, Call.allocated, Call.counted]
    rcases fdfForRate b.sampleRate with e | fdf <;> simp only [Except.isOk, Except.toBool, ↓reduceIte]
    · simp [Nat.mod_eq_of_lt hdbc]
    · split_ifs <;> simp [advanceData]
  | addNodataPacket ch irq =>
    simp only [apply, addNodataPacket_eq, Call.allocated, Call.counted]
    split <;> simp [Nat.mod_eq_of_lt hdbc]
  | finalizeRing => simp [apply, finalizeRing_eq, Call.allocated, Call.counted, Nat.mod_eq_of_lt hdbc]
  | setSkipStrategy st => simp [apply, Call.allocated, Call.counted, Nat.mod_eq_of_lt hdbc]

/-- Over a run, the payload cursor moves by what the calls allocate and the DBC counter by what
they count, modulo 256. -/
theorem counters_run (b : ITProgramBuilder) (calls : List Call) (hdbc : b.dbc < 256) :
    let ok := (fdfForRate b.sampleRate).isOk
    (b.run calls).payloadOffset = b.payloadOffset + (calls.map (Call.allocated ok)).sum ∧
      (b.run calls).dbc = (b.dbc + (calls.map (Call.counted ok)).sum) % 256 := by
  induction calls generalizing b with
  | nil => simp [Nat.mod_eq_of_lt hdbc]
  | cons c cs ih =>
    obtain ⟨hrate, hoff, hd⟩ := counters_apply b c hdbc
    obtain ⟨ih1, ih2⟩ := ih (b.apply c) (by rw [hd]; exact Nat.mod_lt _ (by decide))
    dsimp only at ih1 ih2 hoff hd ⊢
    rw [hrate] at ih1 ih2
    rw [run_cons, ih1, ih2, hoff, hd, List.map_cons, List.sum_cons, List.map_cons, List.sum_cons]
    omega

end ITProgramBuilder

/-- **The counters count every call that got past the rate check.** After any calls on a new
builder, returning or raising, the payload cursor `payload_offset` is the sum of the 16-rounded
payloads of the DATA packets, when the sample rate is supported, and of 16 bytes for every
NO-DATA packet, supported rate or not; and the DBC counter is the number of samples of the DATA
packets, when the rate is supported, modulo 256. A DATA packet that raises on its fragments has
counted its samples and taken its payload all the same. -/
theorem counters_of_calls (base channel : Nat) (speed : Speed) (rate : Nat) (strategy : SkipStrategy)
    (calls : List Call) :
    let b := (ITProgramBuilder.new base channel speed rate strategy).run calls
    let ok := (fdfForRate rate).isOk
    b.payloadOffset = (calls.map (Call.allocated ok)).sum ∧ b.dbc = (calls.map (Call.counted ok)).sum % 256 := by
  have h := ITProgramBuilder.counters_run (ITProgramBuilder.new base channel speed rate strategy) calls
    (by simp [ITProgramBuilder.new])
  simpa [ITProgramBuilder.new] using h

end ItDmaProgram
