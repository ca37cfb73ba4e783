import ItDmaProgram.Layout

/-!
# Reading descriptors back

`to_bytes` keeps everything a descriptor's fields hold, as long as they fit the widths it writes
them in. There is one exception. An `OutputLastSkip` is written exactly as the zero-length
`OutputLast` with status write on and the same branch, so no reader can tell the two apart.

`decodeWords` reads a descriptor from its words the way the OHCI layout lays one out: the command
and the key in the control half of the first word name the kind, and the other words are the
kind's fields. It is the reader the codec is written for, not a function of the source.

* `decodeWords_words`: a fitting descriptor's words decode to it, and an `OutputLastSkip`'s to the
  `OutputLast` it is written as.
* `toBytes_eq_iff`: two fitting descriptors have the same bytes exactly when they agree once an
  `OutputLastSkip` is read as that `OutputLast`.

`decodeStream` reads a run of descriptors as the controller walks a block: the key of each
first word says whether the descriptor takes 32 bytes or 16, so the layout needs no other
framing.

* `decodeImage_flatten`: the bytes of fitting descriptors, one after another, read back as them.
* `ITProgramBuilder.Inv.decodeImage_finalizeRing`: the image of a finalized program reads back as
  the descriptors of its ring, in order, once its fields fit.
-/

namespace ItDmaProgram

/-! ## The control word -/

theorem ITCmd.toNat_lt (c : ITCmd) : c.toNat < 16 := by cases c <;> decide
theorem ITKey.toNat_lt (k : ITKey) : k.toNat < 8 := by cases k <;> decide
theorem ITIrq.toNat_lt (i : ITIrq) : i.toNat < 4 := by cases i <;> decide
theorem ITBranch.toNat_lt (b : ITBranch) : b.toNat < 4 := by cases b <;> decide
theorem ITWait.toNat_lt (w : ITWait) : w.toNat < 4 := by cases w; decide

theorem land_0x1 (n : Nat) : n &&& 0x1 = n % 2 := Nat.and_pow_two_sub_one_eq_mod n 1

/-- `make_control`'s fields fit their widths, so its or-ing is a sum. -/
theorem makeControl_eq (cmd : ITCmd) (s : Bool) (key : ITKey) (irq : ITIrq) (branch : ITBranch)
    (wait : ITWait) : makeControl cmd s key irq branch wait =
      4096 * cmd.toNat + 2048 * (if s then 1 else 0) + 256 * key.toNat + 16 * irq.toNat +
        4 * branch.toNat + wait.toNat := by
  have hc := cmd.toNat_lt
  have hk := key.toNat_lt
  have hi := irq.toNat_lt
  have hb := branch.toNat_lt
  have hw := wait.toNat_lt
  have hs : (if s then 1 else 0) < 2 := by cases s <;> decide
  simp only [makeControl, land_0xF, land_0x1, land_0x7, land_0x3, land_0xFFFF, Nat.shiftLeft_eq,
    Nat.mod_eq_of_lt hc, Nat.mod_eq_of_lt hk, Nat.mod_eq_of_lt hi, Nat.mod_eq_of_lt hb,
    Nat.mod_eq_of_lt hw, Nat.mod_eq_of_lt hs, Nat.reducePow]
  rw [@or_eq_add_of_lt (cmd.toNat * 4096) ((if s then 1 else 0) * 2048) 12
      (by simp only [Nat.reducePow]; omega) (by simp only [Nat.reducePow]; omega),
    @or_eq_add_of_lt _ (key.toNat * 256) 11 (by simp only [Nat.reducePow]; omega)
      (by simp only [Nat.reducePow]; omega),
    @or_eq_add_of_lt _ (irq.toNat * 16) 8 (by simp only [Nat.reducePow]; omega)
      (by simp only [Nat.reducePow]; omega),
    @or_eq_add_of_lt _ (branch.toNat * 4) 4 (by simp only [Nat.reducePow]; omega)
      (by simp only [Nat.reducePow]; omega),
    @or_eq_add_of_lt _ wait.toNat 2 (by simp only [Nat.reducePow]; omega)
      (by simp only [Nat.reducePow]; omega)]
  omega

/-- The key `make_control` packs in bits 10..8. -/
theorem makeControl_key_bits (cmd : ITCmd) (s : Bool) (key : ITKey) (irq : ITIrq) (branch : ITBranch)
    (wait : ITWait) : makeControl cmd s key irq branch wait / 256 % 8 = key.toNat := by
  have := key.toNat_lt
  have := irq.toNat_lt
  have := branch.toNat_lt
  have := wait.toNat_lt
  rw [makeControl_eq]
  split <;> omega

/-! ## Descriptors whose fields fit -/

/-- A pointer `pack_ptr_with_z` writes whole: a 16-byte aligned address below `2 ^ 32`, and a Z
below 16. -/
def PtrFits (addr z : Nat) : Prop := addr % 16 = 0 ∧ addr < 2 ^ 32 ∧ z < 16

/-- A descriptor whose `size` is its kind's and whose fields fit the widths `to_bytes` writes them
in. -/
def ITDescriptor.Fits : ITDescriptor → Prop
  | .storeValue d => d.size = 16 ∧ d.storeValue < 2 ^ 16 ∧ d.storeAddress < 2 ^ 32 ∧
      PtrFits d.skipAddress d.skipZ
  | .outputMoreImmediate d => d.size = 32 ∧ d.itQ0 < 2 ^ 32 ∧ d.itQ1 < 2 ^ 32 ∧
      PtrFits d.skipAddress d.skipZ
  | .outputLastImmediate d => d.size = 32 ∧ d.itQ0 < 2 ^ 32 ∧ d.itQ1 < 2 ^ 32 ∧
      PtrFits d.branchAddress d.branchZ
  | .outputMore d => d.size = 16 ∧ d.reqCount < 2 ^ 16 ∧ d.dataAddress < 2 ^ 32
  | .outputLast d => d.size = 16 ∧ d.reqCount < 2 ^ 16 ∧ d.dataAddress < 2 ^ 32 ∧
      PtrFits d.branchAddress d.branchZ
  | .outputLastSkip d => d.size = 16 ∧ PtrFits d.branchAddress d.branchZ

instance (addr z : Nat) : Decidable (PtrFits addr z) := inferInstanceAs (Decidable (_ ∧ _ ∧ _))

instance : (d : ITDescriptor) → Decidable d.Fits
  | .storeValue _ => inferInstanceAs (Decidable (_ ∧ _ ∧ _ ∧ _))
  | .outputMoreImmediate _ => inferInstanceAs (Decidable (_ ∧ _ ∧ _ ∧ _))
  | .outputLastImmediate _ => inferInstanceAs (Decidable (_ ∧ _ ∧ _ ∧ _))
  | .outputMore _ => inferInstanceAs (Decidable (_ ∧ _ ∧ _))
  | .outputLast _ => inferInstanceAs (Decidable (_ ∧ _ ∧ _ ∧ _))
  | .outputLastSkip _ => inferInstanceAs (Decidable (_ ∧ _))

/-- The descriptor its bytes describe: an `OutputLastSkip` is the zero-length `OutputLast`, with
status write on, that it is written as. -/
def ITDescriptor.canonical : ITDescriptor → ITDescriptor
  | .outputLastSkip d =>
    .outputLast
      { reqCount := 0, dataAddress := 0, branchAddress := d.branchAddress, branchZ := d.branchZ,
        writeStatus := true, irqOnComplete := d.irqOnComplete }
  | d => d

/-! ## The reader -/

/-- The descriptor of control half-word `control`, reqCount half-word `req` and words `w1`, `w2`,
`w3`: the command in bits 15..12 and the key in bits 10..8 name the kind, the status bit is bit
11 and the interrupt bits are 5..4; a pointer word holds an address in bits 31..4 and Z in bits
3..0. -/
def decodeFields (control req w1 w2 w3 : Nat) : Option ITDescriptor :=
  let cmd := control / 4096
  let key := control / 256 % 8
  let s := control / 2048 % 2 == 1
  let irq := control / 16 % 4 == 3
  if cmd = 8 ∧ key = 6 then
    some (.storeValue
      { storeValue := req, storeAddress := w1, skipAddress := w2 / 16 * 16, skipZ := w2 % 16,
        irq := irq })
  else if cmd = 0 ∧ key = 2 then
    some (.outputMoreImmediate
      { itQ0 := w2, itQ1 := w3, skipAddress := w1 / 16 * 16, skipZ := w1 % 16, irqOnSkip := irq })
  else if cmd = 1 ∧ key = 2 then
    some (.outputLastImmediate
      { itQ0 := w2, itQ1 := w3, branchAddress := w1 / 16 * 16, branchZ := w1 % 16, writeStatus := s,
        irqOnComplete := irq })
  else if cmd = 0 ∧ key = 0 then some (.outputMore { reqCount := req, dataAddress := w1 })
  else if cmd = 1 ∧ key = 0 then
    some (.outputLast
      { reqCount := req, dataAddress := w1, branchAddress := w2 / 16 * 16, branchZ := w2 % 16,
        writeStatus := s, irqOnComplete := irq })
  else none

/-- The descriptor a run of 32-bit words encodes. -/
def decodeWords : List Nat → Option ITDescriptor
  | w0 :: w1 :: w2 :: w3 :: _ => decodeFields (w0 / 65536) (w0 % 65536) w1 w2 w3
  | _ => none

/-- A pointer that fits is read back from the word `pack_ptr_with_z` makes of it. -/
theorem packPtrWithZ_decode {addr z : Nat} (h : PtrFits addr z) :
    packPtrWithZ addr z / 16 * 16 = addr ∧ packPtrWithZ addr z % 16 = z := by
  obtain ⟨ha, hlt, hz⟩ := h
  rw [packPtrWithZ_eq]
  constructor <;> omega

/-- The first word splits back into the control half-word and the reqCount half-word. -/
theorem decodeWords_first (r c w1 w2 w3 : Nat) (rest : List Nat) :
    decodeWords ((r % 65536 + 65536 * c) :: w1 :: w2 :: w3 :: rest) = decodeFields c (r % 65536) w1 w2 w3 := by
  simp only [decodeWords]
  congr 1 <;> omega

/-- **Reading back.** The words of a descriptor whose fields fit decode to it, and those of an
`OutputLastSkip` to the `OutputLast` it is written as. -/
theorem decodeWords_words {d : ITDescriptor} (hd : d.Fits) : decodeWords d.words = some d.canonical := by
  cases d with
  | storeValue s =>
    obtain ⟨size, v, a, sa, sz, irq⟩ := s
    obtain ⟨rfl, hv, -, hp⟩ := hd
    obtain ⟨hpa, hpz⟩ := packPtrWithZ_decode hp
    simp only [ITDescriptor.words, decodeWords_first]
    cases irq <;> simp_all [decodeFields, ITDescriptor.control, ITDescriptor.reqCount, ITDescriptor.pointerWord,
      makeControl_eq, ITIrq.ofBool, ITCmd.toNat, ITKey.toNat, ITIrq.toNat, ITBranch.toNat, ITWait.toNat,
      ITDescriptor.canonical]
  | outputMoreImmediate o =>
    obtain ⟨size, q0, q1, sa, sz, irq⟩ := o
    obtain ⟨rfl, -, -, hp⟩ := hd
    obtain ⟨hpa, hpz⟩ := packPtrWithZ_decode hp
    simp only [ITDescriptor.words, decodeWords_first]
    cases irq <;> simp_all [decodeFields, ITDescriptor.control, ITDescriptor.reqCount, ITDescriptor.pointerWord,
      makeControl_eq, ITIrq.ofBool, ITCmd.toNat, ITKey.toNat, ITIrq.toNat, ITBranch.toNat, ITWait.toNat,
      ITDescriptor.canonical]
  | outputLastImmediate o =>
    obtain ⟨size, q0, q1, ba, bz, ws, irq⟩ := o
    obtain ⟨rfl, -, -, hp⟩ := hd
    obtain ⟨hpa, hpz⟩ := packPtrWithZ_decode hp
    simp only [ITDescriptor.words, decodeWords_first]
    cases ws <;> cases irq <;> simp_all [decodeFields, ITDescriptor.control, ITDescriptor.reqCount,
      ITDescriptor.pointerWord, makeControl_eq, ITIrq.ofBool, ITCmd.toNat, ITKey.toNat, ITIrq.toNat,
      ITBranch.toNat, ITWait.toNat, ITDescriptor.canonical]
  | outputMore o =>
    obtain ⟨size, r, a⟩ := o
    obtain ⟨rfl, hr, -⟩ := hd
    simp only [ITDescriptor.words, decodeWords_first]
    simp_all [decodeFields, ITDescriptor.control, ITDescriptor.reqCount, makeControl_eq, ITCmd.toNat,
      ITKey.toNat, ITIrq.toNat, ITBranch.toNat, ITWait.toNat, ITDescriptor.canonical]
  | outputLast o =>
    obtain ⟨size, r, a, ba, bz, ws, irq⟩ := o
    obtain ⟨rfl, hr, -, hp⟩ := hd
    obtain ⟨hpa, hpz⟩ := packPtrWithZ_decode hp
    simp only [ITDescriptor.words, decodeWords_first]
    cases ws <;> cases irq <;> simp_all [decodeFields, ITDescriptor.control, ITDescriptor.reqCount,
      ITDescriptor.pointerWord, makeControl_eq, ITIrq.ofBool, ITCmd.toNat, ITKey.toNat, ITIrq.toNat,
      ITBranch.toNat, ITWait.toNat, ITDescriptor.canonical]
  | outputLastSkip o =>
    obtain ⟨size, ba, bz, irq⟩ := o
    obtain ⟨rfl, hp⟩ := hd
    obtain ⟨hpa, hpz⟩ := packPtrWithZ_decode hp
    simp only [ITDescriptor.words, decodeWords_first]
    cases irq <;> simp_all [decodeFields, ITDescriptor.control, ITDescriptor.reqCount,
      ITDescriptor.pointerWord, makeControl_eq, ITIrq.ofBool, ITCmd.toNat, ITKey.toNat, ITIrq.toNat,
      ITBranch.toNat, ITWait.toNat, ITDescriptor.canonical]

/-! ## Bytes back to descriptors -/

/-- Four little-endian bytes give back a word below `2 ^ 32`. -/
theorem leBytes_four_inj {a b : Nat} (ha : a < 2 ^ 32) (hb : b < 2 ^ 32)
    (h : leBytes 4 a = leBytes 4 b) : a = b := by
  have h' := congrArg ofLE h
  simp only [ofLE_leBytes, Nat.reducePow] at h' ha hb
  omega

/-- A run of words below `2 ^ 32` is read back from its bytes. -/
theorem quadlets_inj {ws vs : List Nat} (hws : ∀ w ∈ ws, w < 2 ^ 32) (hvs : ∀ v ∈ vs, v < 2 ^ 32)
    (h : quadlets ws = quadlets vs) : ws = vs := by
  induction ws generalizing vs with
  | nil =>
    have hlen := congrArg List.length h
    simp only [length_quadlets, List.length_nil, Nat.mul_zero] at hlen
    exact (List.length_eq_zero.mp (by omega)).symm
  | cons w ws ih =>
    cases vs with
    | nil => simpa using congrArg List.length h
    | cons v vs =>
      simp only [List.forall_mem_cons] at hws hvs
      obtain ⟨h₁, h₂⟩ := List.append_inj h (by simp)
      rw [leBytes_four_inj hws.1 hvs.1 h₁, ih hws.2 hvs.2 h₂]

/-- Every word of a fitting descriptor is below `2 ^ 32`. -/
theorem ITDescriptor.words_lt {d : ITDescriptor} (hd : d.Fits) : ∀ w ∈ d.words, w < 2 ^ 32 := by
  have h0 : d.reqCount % 65536 + 65536 * d.control < 2 ^ 32 := by
    have := d.control_lt
    simp only [Nat.reducePow]
    omega
  have hp : d.pointerWord < 2 ^ 32 := d.pointerWord_lt
  cases d <;> simp_all [Fits, words]

/-- An `OutputLastSkip` has the bytes of the `OutputLast` it is read as. -/
theorem ITDescriptor.toBytes_canonical (d : ITDescriptor) : d.canonical.toBytes = d.toBytes := by
  cases d <;> rfl

/-- **No two descriptors share their bytes**, but for the `OutputLastSkip` that is written as an
`OutputLast`: fitting descriptors have the same bytes exactly when they are read as the same
one. -/
theorem toBytes_eq_iff {d₁ d₂ : ITDescriptor} (hd₁ : d₁.Fits) (hd₂ : d₂.Fits) :
    d₁.toBytes = d₂.toBytes ↔ d₁.canonical = d₂.canonical := by
  constructor
  · intro h
    rw [ITDescriptor.toBytes_eq_quadlets, ITDescriptor.toBytes_eq_quadlets] at h
    have hw := quadlets_inj (ITDescriptor.words_lt hd₁) (ITDescriptor.words_lt hd₂) h
    refine Option.some.inj ?_
    calc some d₁.canonical = decodeWords d₁.words := (decodeWords_words hd₁).symm
      _ = decodeWords d₂.words := by rw [hw]
      _ = some d₂.canonical := decodeWords_words hd₂
  · intro h
    rw [← ITDescriptor.toBytes_canonical d₁, h, ITDescriptor.toBytes_canonical]

/-- A skip terminal and the zero-length `OutputLast` with status write on and its branch are
the same bytes. -/
theorem toBytes_eq_iff_skip_alias :
    (ITDescriptor.outputLastSkip { branchAddress := 0x1000, branchZ := 2 }).Fits ∧
    (ITDescriptor.outputLast
      { reqCount := 0, dataAddress := 0, branchAddress := 0x1000, branchZ := 2,
        writeStatus := true }).Fits ∧
    (ITDescriptor.outputLastSkip { branchAddress := 0x1000, branchZ := 2 }).toBytes =
      (ITDescriptor.outputLast
        { reqCount := 0, dataAddress := 0, branchAddress := 0x1000, branchZ := 2,
          writeStatus := true }).toBytes :=
  ⟨by decide, by decide, (toBytes_eq_iff (by decide) (by decide)).mpr rfl⟩

/-! ## Reading a run of descriptors -/

/-- The number of words the descriptor whose first word is `w0` takes: eight when the key in its
control half-word is IMMEDIATE, four otherwise. -/
def wordCount (w0 : Nat) : Nat := if w0 / 65536 / 256 % 8 = 2 then 8 else 4

/-- The descriptors a run of words encodes, read one after another from its first word, at most
`fuel` of them. -/
def decodeStream : Nat → List Nat → Option (List ITDescriptor)
  | _, [] => some []
  | 0, _ :: _ => none
  | fuel + 1, w0 :: ws => do
    let d ← decodeWords (w0 :: ws)
    let ds ← decodeStream fuel ((w0 :: ws).drop (wordCount w0))
    pure (d :: ds)

/-- The 32-bit words of an image, four little-endian bytes each. -/
def wordsOf : List UInt8 → List Nat
  | a :: b :: c :: d :: rest => ofLE [a, b, c, d] :: wordsOf rest
  | _ => []

/-- The descriptors of an image: its words read as a run of descriptors. -/
def decodeImage (image : List UInt8) : Option (List ITDescriptor) :=
  decodeStream (wordsOf image).length (wordsOf image)

/-- A descriptor's first word announces how many words it takes. -/
theorem ITDescriptor.length_words (d : ITDescriptor) :
    d.words.length = wordCount (d.reqCount % 65536 + 65536 * d.control) := by
  have hfirst : (d.reqCount % 65536 + 65536 * d.control) / 65536 = d.control := by omega
  rw [wordCount, hfirst]
  cases d <;> simp only [words, control, makeControl_key_bits, ITKey.toNat] <;> rfl

theorem decodeWords_append {ws : List Nat} (h : 4 ≤ ws.length) (rest : List Nat) :
    decodeWords (ws ++ rest) = decodeWords ws := by
  match ws, h with
  | _ :: _ :: _ :: _ :: _, _ => rfl

/-- A fitting descriptor at the head of a run is read back, and the reader goes on right after
it. -/
theorem decodeStream_words_append {d : ITDescriptor} (hd : d.Fits) (fuel : Nat) (rest : List Nat) :
    decodeStream (fuel + 1) (d.words ++ rest) = (decodeStream fuel rest).map (d.canonical :: ·) := by
  have hlen := d.length_words
  have hdec : decodeWords (d.words ++ rest) = some d.canonical := by
    rw [decodeWords_append (by rw [hlen, wordCount]; split <;> omega), decodeWords_words hd]
  have h0 := d.words_zero
  cases hws : d.words with
  | nil => simp [hws] at h0
  | cons w0 tl =>
    rw [hws] at hdec hlen h0
    obtain rfl : w0 = _ := by simpa using h0
    rw [List.cons_append, decodeStream, ← List.cons_append, hdec, List.drop_left' hlen]
    cases decodeStream fuel rest <;> rfl

/-- A run of fitting descriptors is read back whole, given a read for each. -/
theorem decodeStream_flatMap_words {ds : List ITDescriptor} (hds : ∀ d ∈ ds, d.Fits) {fuel : Nat}
    (hfuel : ds.length ≤ fuel) :
    decodeStream fuel (ds.flatMap ITDescriptor.words) = some (ds.map ITDescriptor.canonical) := by
  induction ds generalizing fuel with
  | nil => cases fuel <;> rfl
  | cons d ds ih =>
    obtain ⟨fuel, rfl⟩ : ∃ f, fuel = f + 1 := ⟨fuel - 1, by simp at hfuel; omega⟩
    simp only [List.forall_mem_cons] at hds
    rw [List.flatMap_cons, decodeStream_words_append hds.1,
      ih hds.2 (by simpa using hfuel), Option.map_some', List.map_cons]

/-- The words of a run of quadlets are its words below `2 ^ 32`. -/
theorem wordsOf_quadlets (ws : List Nat) : wordsOf (quadlets ws) = ws.map (· % 2 ^ 32) := by
  induction ws with
  | nil => rfl
  | cons w ws ih =>
    obtain ⟨a, b, c, e, h⟩ : ∃ a b c e, leBytes 4 w = [a, b, c, e] := ⟨_, _, _, _, rfl⟩
    have hv := ofLE_leBytes 4 w
    rw [h] at hv
    rw [quadlets_cons, h, List.map_cons, ← ih]
    show wordsOf (a :: b :: c :: e :: quadlets ws) = _
    simp only [wordsOf, hv, Nat.reducePow]

/-- Every descriptor takes a word at least. -/
theorem length_le_flatMap_words (ds : List ITDescriptor) :
    ds.length ≤ (ds.flatMap ITDescriptor.words).length := by
  induction ds with
  | nil => exact Nat.le_refl 0
  | cons d ds ih =>
    rw [List.flatMap_cons, List.length_append, d.length_words, wordCount, List.length_cons]
    split <;> omega

theorem quadlets_flatMap (ds : List ITDescriptor) :
    (ds.map ITDescriptor.toBytes).flatten = quadlets (ds.flatMap ITDescriptor.words) := by
  induction ds with
  | nil => rfl
  | cons d ds ih =>
    simp only [List.map_cons, List.flatten_cons, List.flatMap_cons, ih, d.toBytes_eq_quadlets,
      quadlets, List.map_append, List.flatten_append]

/-- The bytes of a run of fitting descriptors are read back as those descriptors, an
`OutputLastSkip` as the `OutputLast` it is written as. -/
theorem decodeImage_flatten {ds : List ITDescriptor} (hds : ∀ d ∈ ds, d.Fits) :
    decodeImage (ds.map ITDescriptor.toBytes).flatten = some (ds.map ITDescriptor.canonical) := by
  have hws : (ds.flatMap ITDescriptor.words).map (· % 2 ^ 32) = ds.flatMap ITDescriptor.words :=
    (List.map_congr_left fun w hw => by
      obtain ⟨d, hd, hw⟩ := List.mem_flatMap.mp hw
      exact Nat.mod_eq_of_lt (ITDescriptor.words_lt (hds d hd) w hw)).trans (List.map_id _)
  rw [decodeImage, quadlets_flatMap, wordsOf_quadlets, hws]
  exact decodeStream_flatMap_words hds (length_le_flatMap_words ds)

/-- The builder makes no `OutputLastSkip`, so a built descriptor is read back as itself. -/
theorem ITDescriptor.Built.canonical_eq {d : ITDescriptor} (h : d.Built) : d.canonical = d := by
  cases d <;> first | rfl | exact h.elim

/-! ## The image of a program -/

/-- **The image of a program reads back as its descriptors.** For a builder under the layout
invariant, if every descriptor of the finalized ring fits the widths `to_bytes` writes it in,
then reading the bytes `finalize_ring` returns from their start, a descriptor at a time, 32
bytes where the key is IMMEDIATE and 16 elsewhere, gives exactly the descriptors of the ring's
blocks, in order. -/
theorem ITProgramBuilder.Inv.decodeImage_finalizeRing {b : ITProgramBuilder} (h : b.Inv)
    (hfits : ∀ blk ∈ b.finalizeRing.2.blocks, ∀ d ∈ blk.descriptors, d.Fits) :
    decodeImage b.finalizeRing.1 = some (b.finalizeRing.2.blocks.flatMap DescriptorBlock.descriptors) := by
  have hbuilt : ∀ blk ∈ b.finalizeRing.2.blocks, blk.Built := (h.apply .finalizeRing).built
  have himage : b.finalizeRing.1 =
      ((b.finalizeRing.2.blocks.flatMap DescriptorBlock.descriptors).map ITDescriptor.toBytes).flatten := by
    rw [ITProgramBuilder.finalizeRing_fst]
    simp only [List.flatMap, List.map_flatten, List.flatten_flatten, List.map_map]
    rfl
  have hall : ∀ d ∈ b.finalizeRing.2.blocks.flatMap DescriptorBlock.descriptors, d.Fits ∧ d.Built :=
    fun d hd => by
      obtain ⟨blk, hblk, hd⟩ := List.mem_flatMap.mp hd
      exact ⟨hfits blk hblk d hd, (hbuilt blk hblk).1 d hd⟩
  rw [himage, decodeImage_flatten fun d hd => (hall d hd).1,
    List.map_congr_left fun d hd => (hall d hd).2.canonical_eq, List.map_id']

end ItDmaProgram
