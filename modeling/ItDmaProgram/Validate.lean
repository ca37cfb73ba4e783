import ItDmaProgram.Layout

/-!
# The validator

`ITProgramBuilder.validate` is defined twice in the source, and the later definition is the one
that runs: four checks per block, on the position of a STORE_VALUE, the number of OUTPUT_MORE
descriptors, the presence of an OUTPUT_LAST and the alignment of the block's address. The
earlier, shadowed definition (`validateShadowed`) has a fifth check, on the size of the
Immediate descriptors.

The checks test presence with `any`, not position: a block with a STORE_VALUE first and another
one later, or with an OUTPUT_LAST that is not its last descriptor, passes. The OUTPUT_LAST check
leaves `OutputLastImmediate` out of the family, the slip `finalize_ring` makes too, so a block
whose only terminal is one is reported as missing its OUTPUT_LAST.

* `validateBlock_ne_nil_iff`, `validateBlockShadowed_ne_nil_iff`: the findings of each definition
  for a block, against conditions stated without the source's scans.
* `validate_exact`: on blocks without an `OutputLastImmediate`, the running definition reports a
  block exactly when it breaks one of the four rules it checks, and the shadowed one when it
  breaks one of them or holds a mis-sized Immediate descriptor.
* `validate_built`: on every program the builder produces from an aligned base, the only rule
  a block can break is the one on the number of OUTPUT_MOREs, and the two definitions agree.
-/

namespace ItDmaProgram

/-- `isinstance(d, (OutputMore, OutputMoreImmediate))`: what the validator counts. -/
def ITDescriptor.countsAsMore : ITDescriptor → Bool
  | .outputMore _ | .outputMoreImmediate _ => true
  | _ => false

/-- `isinstance(d, (OutputLast, OutputLastSkip))`: what the validator takes for an OUTPUT_LAST. -/
def ITDescriptor.countsAsLast : ITDescriptor → Bool
  | .outputLast _ | .outputLastSkip _ => true
  | _ => false

/-- The body of the loop of the `validate` that runs, for block `i`. -/
def validateBlock (i : Nat) (block : DescriptorBlock) : List String :=
  let hasStore := block.descriptors.any ITDescriptor.isStoreValue
  let moreCount := (block.descriptors.filter ITDescriptor.countsAsMore).length
  let hasLast := block.descriptors.any ITDescriptor.countsAsLast
  (if hasStore && !(block.descriptors.head?.map ITDescriptor.isStoreValue).getD false then
    [s!"Block {i}: STORE_VALUE is not first descriptor"] else []) ++
  (if moreCount > 8 then [s!"Block {i}: Too many OUTPUT_MORE descriptors ({moreCount})"] else []) ++
  (if !hasLast then [s!"Block {i}: Missing OUTPUT_LAST descriptor"] else []) ++
  (if block.address % 16 ≠ 0 then
    [s!"Block {i}: Address 0x{hexUpper block.address} not 16-byte aligned"] else [])

/-- The body of the loop of the shadowed `validate`: the same four checks, then the size of
every Immediate descriptor. -/
def validateBlockShadowed (i : Nat) (block : DescriptorBlock) : List String :=
  let hasStore := block.descriptors.any ITDescriptor.isStoreValue
  let moreCount := (block.descriptors.filter ITDescriptor.countsAsMore).length
  let hasLast := block.descriptors.any ITDescriptor.countsAsLast
  (if hasStore && !(block.descriptors.head?.map ITDescriptor.isStoreValue).getD false then
    [s!"Block {i}: STORE_VALUE is not first descriptor"] else []) ++
  (if moreCount > 8 then [s!"Block {i}: Too many OUTPUT_MORE descriptors ({moreCount})"] else []) ++
  (if !hasLast then [s!"Block {i}: Missing OUTPUT_LAST descriptor"] else []) ++
  (if block.address % 16 ≠ 0 then
    [s!"Block {i}: Address 0x{hexUpper block.address} not 16-byte aligned"] else []) ++
  ((block.descriptors.filter fun d => d.isImmediate && d.size != 32).map fun d =>
    s!"Block {i}: Immediate descriptor size mismatch ({d.size})")

/-- `validate`, the later definition, which is the one that runs. -/
def ITProgramBuilder.validate (b : ITProgramBuilder) : List String :=
  (b.blocks.mapIdx validateBlock).flatten

/-- `validate`, the earlier definition, shadowed by the later one. -/
def ITProgramBuilder.validateShadowed (b : ITProgramBuilder) : List String :=
  (b.blocks.mapIdx validateBlockShadowed).flatten

/-- The shadowed definition reports what the running one does, then the size mismatches. -/
theorem validateBlockShadowed_eq (i : Nat) (block : DescriptorBlock) :
    validateBlockShadowed i block = validateBlock i block ++
      (block.descriptors.filter fun d => d.isImmediate && d.size != 32).map fun d =>
        s!"Block {i}: Immediate descriptor size mismatch ({d.size})" := by
  simp only [validateBlockShadowed, validateBlock, List.append_assoc]

/-- The OUTPUT_LAST family of the spec: `OutputLast`, `OutputLastImmediate` and `OutputLastSkip`. -/
def ITDescriptor.isOutputLastFamily : ITDescriptor → Bool
  | .outputLast _ | .outputLastImmediate _ | .outputLastSkip _ => true
  | _ => false

/-- `OutputLastImmediate`, the member of the OUTPUT_LAST family the validator does not count. -/
def ITDescriptor.isOutputLastImmediate : ITDescriptor → Bool
  | .outputLastImmediate _ => true
  | _ => false

/-- The spec's five rules a block can break: a STORE_VALUE anywhere but first; more than 8
OUTPUT_MORE-family descriptors; no OUTPUT_LAST-family descriptor at the end; an unaligned address;
an Immediate descriptor whose size is not 32. -/
def BreaksSpecRules (block : DescriptorBlock) : Prop :=
  (∃ j d, 0 < j ∧ block.descriptors[j]? = some d ∧ d.isStoreValue) ∨
  8 < (block.descriptors.filter ITDescriptor.countsAsMore).length ∨
  (¬∃ d, block.descriptors.getLast? = some d ∧ d.isOutputLastFamily) ∨
  block.address % 16 ≠ 0 ∨
  (∃ d ∈ block.descriptors, d.isImmediate ∧ d.size ≠ 32)

/-- The four coded rules a block breaks, stated without the source's scans: a STORE_VALUE
somewhere but not first; more than 8 OUTPUT_MORE or OUTPUT_MORE-Immediate descriptors; no
OUTPUT_LAST or `OutputLastSkip` anywhere; an unaligned address. -/
def BreaksCodedRules (block : DescriptorBlock) : Prop :=
  ((∃ d ∈ block.descriptors, d.isStoreValue) ∧ ∀ d, block.descriptors.head? = some d → ¬d.isStoreValue) ∨
  8 < (block.descriptors.filter ITDescriptor.countsAsMore).length ∨
  (∀ d ∈ block.descriptors, ¬d.countsAsLast) ∨
  block.address % 16 ≠ 0

/-- The four rules the running validator checks, in the spec's terms: a STORE_VALUE somewhere but
not first; more than 8 OUTPUT_MORE-family descriptors; no OUTPUT_LAST-family descriptor anywhere;
an unaligned address. -/
def BreaksCheckedRules (block : DescriptorBlock) : Prop :=
  ((∃ d ∈ block.descriptors, d.isStoreValue) ∧ ∀ d, block.descriptors.head? = some d → ¬d.isStoreValue) ∨
  8 < (block.descriptors.filter ITDescriptor.countsAsMore).length ∨
  (∀ d ∈ block.descriptors, ¬d.isOutputLastFamily) ∨
  block.address % 16 ≠ 0

/-- Apart from `OutputLastImmediate`, the validator counts the OUTPUT_LAST family. -/
theorem ITDescriptor.isOutputLastFamily_eq (d : ITDescriptor) :
    d.isOutputLastFamily = (d.countsAsLast || d.isOutputLastImmediate) := by
  cases d <;> rfl

/-- On a block without an `OutputLastImmediate`, the rules the validator checks are the coded ones. -/
theorem breaksCheckedRules_iff {block : DescriptorBlock}
    (h : ∀ d ∈ block.descriptors, d.isOutputLastImmediate = false) :
    BreaksCheckedRules block ↔ BreaksCodedRules block := by
  have hlast : (∀ d ∈ block.descriptors, ¬d.isOutputLastFamily) ↔ ∀ d ∈ block.descriptors, ¬d.countsAsLast :=
    forall₂_congr fun d hd => by rw [ITDescriptor.isOutputLastFamily_eq, h d hd, Bool.or_false]
  rw [BreaksCheckedRules, BreaksCodedRules, hlast]

theorem ite_singleton_ne_nil {c : Prop} [Decidable c] (s : String) :
    (if c then [s] else []) ≠ [] ↔ c := by
  split <;> simp_all

theorem append_ne_nil_iff {xs ys : List String} : xs ++ ys ≠ [] ↔ xs ≠ [] ∨ ys ≠ [] := by
  cases xs <;> simp

/-- The STORE_VALUE check, without the scan: there is a STORE_VALUE, and the first descriptor is
none. -/
theorem storeNotFirst_iff (ds : List ITDescriptor) :
    (ds.any ITDescriptor.isStoreValue && !(ds.head?.map ITDescriptor.isStoreValue).getD false) = true ↔
      (∃ d ∈ ds, d.isStoreValue) ∧ ∀ d, ds.head? = some d → ¬d.isStoreValue := by
  cases ds <;> simp

/-- The running validator reports block `i` exactly when the block breaks a coded rule. -/
theorem validateBlock_ne_nil_iff (i : Nat) (block : DescriptorBlock) :
    validateBlock i block ≠ [] ↔ BreaksCodedRules block := by
  simp only [validateBlock, BreaksCodedRules, append_ne_nil_iff, ite_singleton_ne_nil,
    storeNotFirst_iff, Bool.not_eq_true', List.any_eq_false, gt_iff_lt, or_assoc]

/-- The running validator passes a program exactly when no block breaks a coded rule. -/
theorem validate_eq_nil_iff (b : ITProgramBuilder) :
    b.validate = [] ↔ ∀ blk ∈ b.blocks, ¬BreaksCodedRules blk := by
  have h : ∀ i blk, validateBlock i blk = [] ↔ ¬BreaksCodedRules blk := fun i blk => by
    rw [← validateBlock_ne_nil_iff i blk, not_not]
  rw [ITProgramBuilder.validate, List.flatten_eq_nil_iff]
  constructor
  · intro H blk hblk
    obtain ⟨i, hi, rfl⟩ := List.getElem_of_mem hblk
    exact (h i _).mp (H _ (List.mem_mapIdx.mpr ⟨i, hi, rfl⟩))
  · intro H l hl
    obtain ⟨i, hi, rfl⟩ := List.mem_mapIdx.mp hl
    exact (h i _).mpr (H _ (List.getElem_mem hi))

/-- The shadowed validator reports block `i` exactly when the block breaks a coded rule or holds
an Immediate descriptor whose size is not 32. -/
theorem validateBlockShadowed_ne_nil_iff (i : Nat) (block : DescriptorBlock) :
    validateBlockShadowed i block ≠ [] ↔
      BreaksCodedRules block ∨ ∃ d ∈ block.descriptors, d.isImmediate ∧ d.size ≠ 32 := by
  rw [validateBlockShadowed_eq, append_ne_nil_iff, validateBlock_ne_nil_iff]
  simp

/-- Without mis-sized Immediate descriptors the shadowed definition reports the same. -/
theorem validateBlockShadowed_of_sizes {i : Nat} {block : DescriptorBlock}
    (hsize : ∀ d ∈ block.descriptors, d.isImmediate → d.size = 32) :
    validateBlockShadowed i block = validateBlock i block := by
  rw [validateBlockShadowed_eq, List.filter_eq_nil_iff.mpr, List.map_nil, List.append_nil]
  intro d hd
  by_cases hi : d.isImmediate = true
  · simp [hi, hsize d hd hi]
  · simp [hi]

/-- Without mis-sized Immediate descriptors the two definitions of `validate` agree. -/
theorem ITProgramBuilder.validateShadowed_eq_validate (b : ITProgramBuilder)
    (hsize : ∀ blk ∈ b.blocks, ∀ d ∈ blk.descriptors, d.isImmediate → d.size = 32) :
    b.validateShadowed = b.validate := by
  simp only [ITProgramBuilder.validateShadowed, ITProgramBuilder.validate]
  congr 1
  apply List.ext_getElem?
  intro i
  simp only [List.getElem?_mapIdx]
  cases h : b.blocks[i]? with
  | none => rfl
  | some blk => simp [validateBlockShadowed_of_sizes (hsize blk (List.getElem?_mem h))]

/-- **The validator is exact on the rules it checks.** In every program, the `validate` that runs
reports each block `i` that holds no `OutputLastImmediate` exactly when the block breaks one of
the four rules it checks, and the shadowed definition exactly when it breaks one of them or holds
an Immediate descriptor whose size is not 32. When no block holds an `OutputLastImmediate`, the
program passes exactly when no block breaks one. -/
theorem validate_exact (b : ITProgramBuilder) :
    (∀ i blk, b.blocks[i]? = some blk → (∀ d ∈ blk.descriptors, d.isOutputLastImmediate = false) →
      (validateBlock i blk ≠ [] ↔ BreaksCheckedRules blk) ∧
      (validateBlockShadowed i blk ≠ [] ↔
        BreaksCheckedRules blk ∨ ∃ d ∈ blk.descriptors, d.isImmediate ∧ d.size ≠ 32)) ∧
    ((∀ blk ∈ b.blocks, ∀ d ∈ blk.descriptors, d.isOutputLastImmediate = false) →
      (b.validate = [] ↔ ∀ blk ∈ b.blocks, ¬BreaksCheckedRules blk)) := by
  refine ⟨fun i blk _ h => ?_, fun h => ?_⟩
  · rw [breaksCheckedRules_iff h]
    exact ⟨validateBlock_ne_nil_iff i blk, validateBlockShadowed_ne_nil_iff i blk⟩
  · rw [validate_eq_nil_iff]
    exact forall₂_congr fun blk hblk => by rw [breaksCheckedRules_iff (h blk hblk)]

/-- A hand-built block at address 8 whose OUTPUT_MORE-Immediate has size 16: the running
`validate` reports its address, and the shadowed one its size as well. -/
theorem validate_exact_unaligned_block :
    let blk : DescriptorBlock := { descriptors := [.outputMoreImmediate { size := 16 }, .outputLast {}], address := 8 }
    let b : ITProgramBuilder := { ITProgramBuilder.new 0 0 .s400 48000 .next with blocks := [blk] }
    ((validateBlock 0 blk ≠ [] ↔ BreaksCheckedRules blk) ∧
      (validateBlockShadowed 0 blk ≠ [] ↔
        BreaksCheckedRules blk ∨ ∃ d ∈ blk.descriptors, d.isImmediate ∧ d.size ≠ 32)) ∧
    (b.validate = [] ↔ ∀ blk ∈ b.blocks, ¬BreaksCheckedRules blk) := by
  intro blk b
  exact ⟨(validate_exact b).1 0 blk rfl (by decide), (validate_exact b).2 (by decide)⟩

/-- A STORE_VALUE first and another after the OUTPUT_LAST: the block breaks the spec's rules
(a STORE_VALUE at position 2, a block ending in a STORE_VALUE), and `validate` passes it. -/
theorem validate_misses_second_store_value :
    let blk : DescriptorBlock := { descriptors := [.storeValue {}, .outputLast {}, .storeValue {}] }
    BreaksSpecRules blk ∧ { ITProgramBuilder.new 0 0 .s400 48000 .next with blocks := [blk] }.validate = [] :=
  ⟨.inl ⟨2, _, by decide, rfl, rfl⟩, by decide⟩


/-! ## Validating built programs -/

/-- No STORE_VALUE after the first descriptor. -/
def DescriptorBlock.StoreOnlyFirst (blk : DescriptorBlock) : Prop :=
  ∀ d ∈ blk.descriptors.tail, d.isStoreValue = false

theorem DescriptorBlock.storeOnlyFirst_unlink (blk : DescriptorBlock) :
    blk.unlink.StoreOnlyFirst ↔ blk.StoreOnlyFirst := by
  simp [StoreOnlyFirst, unlink, ← List.map_tail]

theorem dataBlock_storeOnlyFirst (b : ITProgramBuilder) (s c f : Nat) (sv : Option Nat) (irq : Bool) :
    (b.dataBlock s c f sv irq).StoreOnlyFirst := by
  intro d hd
  cases sv <;> simp only [ITProgramBuilder.dataBlock, ITProgramBuilder.storeDescriptors, List.nil_append,
    List.singleton_append, List.cons_append, List.tail_cons, List.mem_cons, List.mem_append,
    List.mem_singleton, List.not_mem_nil, or_false] at hd
  · rcases hd with hd | rfl
    · obtain ⟨o, rfl⟩ := mem_fragmentLoop hd
      rfl
    · rfl
  · rcases hd with rfl | hd | rfl
    · rfl
    · obtain ⟨o, rfl⟩ := mem_fragmentLoop hd
      rfl
    · rfl

theorem nodataBlock_storeOnlyFirst (b : ITProgramBuilder) (irq : Bool) : (b.nodataBlock irq).StoreOnlyFirst := by
  simp [DescriptorBlock.StoreOnlyFirst, ITProgramBuilder.nodataBlock, ITDescriptor.isStoreValue]

/-- An OUTPUT_LAST is of the spec's OUTPUT_LAST family and is what the validator counts as one. -/
theorem ITDescriptor.family_of_isOutputLast {d : ITDescriptor} (h : d.isOutputLast) :
    d.isOutputLastFamily ∧ d.countsAsLast := by
  cases d <;> first | exact ⟨rfl, rfl⟩ | cases h

namespace DescriptorBlock

/-- The Immediate descriptors of a built block have size 32. -/
theorem Built.immediate_size {blk : DescriptorBlock} (hb : blk.Built) :
    ∀ d ∈ blk.descriptors, d.isImmediate → d.size = 32 := by
  intro d hd hi
  have := hb.1 d hd
  cases d <;> first | exact this | exact this.elim | cases hi

/-- A built block with no STORE_VALUE after its first descriptor, at an aligned address, breaks
the spec's rules only by having more than 8 OUTPUT_MOREs. -/
theorem Built.breaksSpecRules_iff {blk : DescriptorBlock} (hb : blk.Built) (hs : blk.StoreOnlyFirst)
    (ha : blk.address % 16 = 0) :
    BreaksSpecRules blk ↔ 8 < (blk.descriptors.filter ITDescriptor.countsAsMore).length := by
  obtain ⟨l, hl, hlast⟩ := hb.2
  have hstore : ¬∃ j d, 0 < j ∧ blk.descriptors[j]? = some d ∧ d.isStoreValue := by
    rintro ⟨_ | j, d, hj, hd, hsv⟩
    · exact absurd hj (lt_irrefl 0)
    · rw [← List.getElem?_tail] at hd
      simp [hs d (List.getElem?_mem hd)] at hsv
  have hfamily : ∃ d, blk.descriptors.getLast? = some d ∧ d.isOutputLastFamily :=
    ⟨l, hl, (ITDescriptor.family_of_isOutputLast hlast).1⟩
  have himm : ¬∃ d ∈ blk.descriptors, d.isImmediate ∧ d.size ≠ 32 :=
    fun ⟨d, hd, hi, hsz⟩ => hsz (hb.immediate_size d hd hi)
  unfold BreaksSpecRules
  constructor
  · rintro (h | h | h | h | h)
    exacts [absurd h hstore, h, absurd hfamily h, absurd ha h, absurd h himm]
  · exact fun h => .inr (.inl h)

/-- The same block breaks the coded rules only by having more than 8 OUTPUT_MOREs. -/
theorem Built.breaksCodedRules_iff {blk : DescriptorBlock} (hb : blk.Built) (hs : blk.StoreOnlyFirst)
    (ha : blk.address % 16 = 0) :
    BreaksCodedRules blk ↔ 8 < (blk.descriptors.filter ITDescriptor.countsAsMore).length := by
  obtain ⟨l, hl, hlast⟩ := hb.2
  have hstore : ¬((∃ d ∈ blk.descriptors, d.isStoreValue) ∧
      ∀ d, blk.descriptors.head? = some d → ¬d.isStoreValue) := by
    rintro ⟨⟨d, hd, hsv⟩, hhead⟩
    unfold StoreOnlyFirst at hs
    cases hds : blk.descriptors with
    | nil => simp [hds] at hd
    | cons d₀ ds =>
      rw [hds] at hd hs hhead
      rcases List.mem_cons.mp hd with rfl | hd
      · exact hhead d rfl hsv
      · simp [hs d hd] at hsv
  have hterminal : ¬∀ d ∈ blk.descriptors, ¬d.countsAsLast := fun h =>
    h l (List.mem_of_getLast?_eq_some hl) (ITDescriptor.family_of_isOutputLast hlast).2
  unfold BreaksCodedRules
  constructor
  · rintro (h | h | h | h)
    exacts [absurd h hstore, h, absurd h hterminal, absurd ha h]
  · exact fun h => .inr (.inl h)

end DescriptorBlock

/-- **The validator on built programs.** After any calls on a new builder with an aligned base,
every block keeps the spec's rules but possibly the one on the number of OUTPUT_MOREs, the two
definitions of `validate` agree, and the program passes exactly when no block has more than 8
OUTPUT_MOREs. -/
theorem validate_built (base channel : Nat) (speed : Speed) (rate : Nat) (strategy : SkipStrategy)
    (calls : List Call) (haligned : base % 16 = 0) :
    let b := (ITProgramBuilder.new base channel speed rate strategy).run calls
    (∀ blk ∈ b.blocks, BreaksSpecRules blk ↔ 8 < (blk.descriptors.filter ITDescriptor.countsAsMore).length) ∧
    b.validateShadowed = b.validate ∧
    (b.validate = [] ↔ ∀ blk ∈ b.blocks, (blk.descriptors.filter ITDescriptor.countsAsMore).length ≤ 8) := by
  intro b
  have hinv : b.Inv := (ITProgramBuilder.inv_new _ _ _ _ _).run calls
  have hstore : ∀ blk ∈ b.blocks, blk.StoreOnlyFirst :=
    ITProgramBuilder.forall_blocks_run DescriptorBlock.storeOnlyFirst_unlink
      (fun b s c f sv irq _ => dataBlock_storeOnlyFirst b s c f sv irq) nodataBlock_storeOnlyFirst
      (by simp [ITProgramBuilder.new]) calls
  have haddr : ∀ blk ∈ b.blocks, blk.address % 16 = 0 :=
    hinv.chained.address_aligned (by simpa [b, ITProgramBuilder.new] using haligned)
  refine ⟨fun blk hblk => (hinv.built blk hblk).breaksSpecRules_iff (hstore blk hblk) (haddr blk hblk),
    b.validateShadowed_eq_validate fun blk hblk => (hinv.built blk hblk).immediate_size, ?_⟩
  rw [validate_eq_nil_iff]
  refine forall₂_congr fun blk hblk => ?_
  rw [(hinv.built blk hblk).breaksCodedRules_iff (hstore blk hblk) (haddr blk hblk), not_lt]

/-- A DATA packet of 8 stereo samples in 9 fragments of 8 bytes: the one finding. -/
theorem validate_built_nine_fragments :
    let b := (ITProgramBuilder.new 0x80000000 0 .s400 48000 .next).run [.addDataPacket 8 2 9 none false]
    b.validate = ["Block 0: Too many OUTPUT_MORE descriptors (9)"] ∧ 0x80000000 % 16 = 0 ∧
    ((∀ blk ∈ b.blocks, BreaksSpecRules blk ↔ 8 < (blk.descriptors.filter ITDescriptor.countsAsMore).length) ∧
      b.validateShadowed = b.validate ∧
      (b.validate = [] ↔ ∀ blk ∈ b.blocks, (blk.descriptors.filter ITDescriptor.countsAsMore).length ≤ 8)) :=
  ⟨by decide, by decide, validate_built 0x80000000 0 .s400 48000 .next _ (by decide)⟩

end ItDmaProgram
