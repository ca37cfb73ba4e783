import ItDmaProgram.Encoding

/-!
# The log analyzer's descriptor report

`analyze_it_log` reads a trace of the controller and, once it has resolved the descriptor index
the controller failed at, reports on that index's dump entry `(ctl, dat, br)`: the control
quadlet, the data quadlet and the branch quadlet of a 16-byte slot. It decodes the command and
key from the upper half of `ctl` to name the descriptor, prints the reqCount from the lower half,
and checks the Z nibble and the address bits of `br`.

The analyzer depends only on the byte layout the codec writes. A 16-byte descriptor has its
pointer in the third quadlet, which is what the analyzer reads as `br`; an Immediate descriptor
has its pointer in the second quadlet and the IT header's first quadlet in the third.

* `descriptorReport_dumpEntry`: on every descriptor's first slot, the analyzer names the
  descriptor's command family and prints its reqCount, and its `br` is the packed pointer for a
  16-byte descriptor but the IT header for an Immediate one.
* `descriptorReport_names_image`: reading the bytes `finalize_ring` returns for any program,
  the analyzer names each descriptor and its reqCount.
-/

namespace ItDmaProgram

/-- The analyzer's name for a descriptor of command `cmd` and key `key`. -/
def descName (cmd key : Nat) : String :=
  if cmd = 0 ∧ key = 0 then "OUTPUT_MORE"
  else if cmd = 0 ∧ key = 2 then "OUTPUT_MORE-Immediate"
  else if cmd = 1 ∧ key = 0 then "OUTPUT_LAST"
  else if cmd = 1 ∧ key = 2 then "OUTPUT_LAST-Immediate"
  else if cmd = 8 ∧ key = 6 then "STORE_VALUE"
  else "UNKNOWN"

/-- The `if desc:` branch of `analyze_it_log`: the report on the dump entry `(ctl, dat, br)` of
the failing descriptor index. -/
def descriptorReport (dVal dDat dBr : Nat) : List String :=
  let reqCount := dVal &&& 0xFFFF
  let control := (dVal >>> 16) &&& 0xFFFF
  let brZ := dBr &&& 0xF
  let brAddr := dBr &&& 0xFFFFFFF0
  let descCmd := (control >>> 12) &&& 0xF
  let descKey := (control >>> 8) &&& 0x7
  [s!"Descriptor Content: ctl=0x{hexPad 8 dVal} dat=0x{hexPad 8 dDat} br=0x{hexPad 8 dBr}",
    s!"Type: {descName descCmd descKey} (ResCount/ReqCount={reqCount})"] ++
  if dVal = 0xDEDEDEDE then ["❌ FAULT: Uninitialized Memory (0xDE pattern). Descriptor not written!"]
  else if brZ = 0 then
    if descCmd = 1 then ["ℹ️  Branch Z=0. Context stopped naturally (if intended)."] else []
  else if brAddr = 0 then
    if descCmd = 0 ∧ descKey = 0 then ["✅ Standard OUTPUT_MORE (branch ignored)."]
    else ["❌ FAULT: Null Branch Address with Z!=0. Context has nowhere to go!"] ++
      if descCmd = 0 ∧ descKey = 2 then
        ["   (This is the \x27skipAddress\x27 for OUTPUT_MORE-Immediate. Cycle was likely lost/skipped, but recovery address is NULL.)"]
      else []
  else ["✅ Branch address looks valid."]

/-- The dump entry of a descriptor's first 16-byte slot: its quadlets at offsets 0, 4 and 8. -/
def ITDescriptor.dumpEntry (d : ITDescriptor) : Nat × Nat × Nat :=
  (quadletAt d.toBytes 0, quadletAt d.toBytes 4, quadletAt d.toBytes 8)

/-- The command family of a descriptor, in the analyzer's words. -/
def ITDescriptor.familyName : ITDescriptor → String
  | .storeValue _ => "STORE_VALUE"
  | .outputMoreImmediate _ => "OUTPUT_MORE-Immediate"
  | .outputLastImmediate _ => "OUTPUT_LAST-Immediate"
  | .outputMore _ => "OUTPUT_MORE"
  | .outputLast _ | .outputLastSkip _ => "OUTPUT_LAST"

/-- The analyzer's decoding of the command field is the inverse of `make_control`'s. -/
theorem makeControl_cmd (cmd : ITCmd) (s : Bool) (key : ITKey) (irq : ITIrq) (branch : ITBranch)
    (wait : ITWait) : (makeControl cmd s key irq branch wait >>> 12) &&& 0xF = cmd.toNat := by
  cases cmd <;> cases s <;> cases key <;> cases irq <;> cases branch <;> cases wait <;> rfl

/-- The analyzer's decoding of the key field is the inverse of `make_control`'s. -/
theorem makeControl_key (cmd : ITCmd) (s : Bool) (key : ITKey) (irq : ITIrq) (branch : ITBranch)
    (wait : ITWait) : (makeControl cmd s key irq branch wait >>> 8) &&& 0x7 = key.toNat := by
  cases cmd <;> cases s <;> cases key <;> cases irq <;> cases branch <;> cases wait <;> rfl

/-- The analyzer names every descriptor's control field with the descriptor's family. -/
theorem ITDescriptor.descName_control (d : ITDescriptor) :
    descName ((d.control >>> 12) &&& 0xF) ((d.control >>> 8) &&& 0x7) = d.familyName := by
  cases d <;> simp only [control, makeControl_cmd, makeControl_key] <;> rfl

@[simp] theorem ITDescriptor.familyName_link (skip : Nat × Nat) (nb : DescriptorBlock) (d : ITDescriptor) :
    (d.link skip nb).familyName = d.familyName := by
  cases d <;> rfl

/-- The analyzer's Type line on a first quadlet the codec wrote: the descriptor's family and its
reqCount cut to 16 bits. -/
theorem descriptorReport_type (d : ITDescriptor) (dat br : Nat) :
    (descriptorReport (d.reqCount % 65536 + 65536 * d.control) dat br)[1]? =
      some s!"Type: {d.familyName} (ResCount/ReqCount={d.reqCount % 65536})" := by
  have hc := d.control_lt
  have hreq : (d.reqCount % 65536 + 65536 * d.control) &&& 0xFFFF = d.reqCount % 65536 := by
    rw [land_0xFFFF]
    omega
  have hctl : ((d.reqCount % 65536 + 65536 * d.control) >>> 16) &&& 0xFFFF = d.control := by
    rw [land_0xFFFF, Nat.shiftRight_eq_div_pow]
    omega
  simp only [descriptorReport, hreq, hctl, d.descName_control, List.cons_append,
    List.getElem?_cons_succ, List.getElem?_cons_zero]

/-- What the analyzer makes of a descriptor's first slot: it names the descriptor's command
family and prints the reqCount the codec wrote; the `br` it checks is the packed pointer of a
16-byte descriptor, but the IT header's first quadlet of an Immediate one. -/
theorem descriptorReport_dumpEntry (d : ITDescriptor) :
    (descriptorReport d.dumpEntry.1 d.dumpEntry.2.1 d.dumpEntry.2.2)[1]? =
      some s!"Type: {d.familyName} (ResCount/ReqCount={d.reqCount % 65536})" ∧
    (d.isImmediate = false → d.dumpEntry.2.2 = d.pointerWord) ∧
    (∀ o, d = .outputMoreImmediate o → d.dumpEntry.2.2 = o.itQ0 % 4294967296) ∧
    (∀ o, d = .outputLastImmediate o → d.dumpEntry.2.2 = o.itQ0 % 4294967296) := by
  have h0 : d.dumpEntry.1 = d.reqCount % 65536 + 65536 * d.control :=
    (d.decode (by rw [List.drop_zero])).1
  have hbr : ∀ w, d.words[2]? = some w → d.dumpEntry.2.2 = w % 4294967296 :=
    fun w hw => d.quadletAt_toBytes hw
  refine ⟨?_, fun hi => ?_, fun o ho => by subst ho; exact hbr _ rfl,
    fun o ho => by subst ho; exact hbr _ rfl⟩
  · rw [h0, descriptorReport_type]
  · rw [hbr d.pointerWord (by cases d <;> first | rfl | simp [ITDescriptor.isImmediate] at hi),
      Nat.mod_eq_of_lt d.pointerWord_lt]

/-- An OUTPUT_MORE-Immediate with the builder's IT header and a null skip pointer with Z = 3:
the analyzer reads the IT header `0x000240A0` as `br`, finds Z = 0 and says nothing about the
pointer, while its checks run on the skip pointer the codec packed report the null address. -/
theorem descriptorReport_reads_header_as_skip :
    let d : ITDescriptor := .outputMoreImmediate
      { itQ0 := buildItHeaderQ0 2 1 0 0 0xA, itQ1 := buildItHeaderQ1 72, skipZ := 3 }
    d.dumpEntry = (0x02000008, 3, 0x240A0) ∧ d.pointerWord = 3 ∧
    descriptorReport 0x02000008 3 0x240A0 =
      ["Descriptor Content: ctl=0x02000008 dat=0x00000003 br=0x000240A0",
        "Type: OUTPUT_MORE-Immediate (ResCount/ReqCount=8)"] ∧
    "❌ FAULT: Null Branch Address with Z!=0. Context has nowhere to go!" ∈
      descriptorReport 0x02000008 3 d.pointerWord := by
  decide


/-- **The analyzer names every descriptor of a built image.** After any calls on a new builder,
the analyzer's report on the first quadlet of any descriptor in the bytes `finalize_ring`
returns, whatever `dat` and `br` it is given with it, names the descriptor's kind and prints its
reqCount cut to 16 bits. -/
theorem descriptorReport_names_image (base channel : Nat) (speed : Speed) (rate : Nat)
    (strategy : SkipStrategy) (calls : List Call) :
    let b := (ITProgramBuilder.new base channel speed rate strategy).run calls
    ∀ (i j : Nat) (blk : DescriptorBlock) (d : ITDescriptor), b.blocks[i]? = some blk →
      blk.descriptors[j]? = some d → ∀ dat br,
      (descriptorReport (quadletAt b.finalizeRing.1
        (blk.address - b.baseAddress + ((blk.descriptors.take j).map ITDescriptor.size).sum)) dat br)[1]? =
        some s!"Type: {d.familyName} (ResCount/ReqCount={d.reqCount % 65536})" := by
  intro b i j blk d hblk hd dat br
  have hinv : b.Inv := (ITProgramBuilder.inv_new _ _ _ _ _).run calls
  obtain ⟨nb, hnb⟩ := b.exists_getElem?_succ hblk
  have hfirst := ((d.link (b.skipTarget blk nb) nb).decode (hinv.toBytes_at_offset hblk hnb hd)).1
  rw [hfirst, descriptorReport_type, ITDescriptor.familyName_link, ITDescriptor.reqCount_link]

/-! ## The verdict lines -/

/-- No control word is `0xDEDE`: its command field would be `0xD`, which is no `ITCmd`. -/
theorem makeControl_ne_0xDEDE (cmd : ITCmd) (s : Bool) (key : ITKey) (irq : ITIrq) (branch : ITBranch)
    (wait : ITWait) : makeControl cmd s key irq branch wait ≠ 0xDEDE := by
  intro h
  have hcmd := makeControl_cmd cmd s key irq branch wait
  rw [h] at hcmd
  cases cmd <;> exact absurd hcmd (by decide)

/-- No descriptor's first quadlet is the `0xDEDEDEDE` fill the analyzer takes for unwritten
memory. -/
theorem ITDescriptor.firstQuadlet_ne_uninit (d : ITDescriptor) :
    d.reqCount % 65536 + 65536 * d.control ≠ 0xDEDEDEDE := by
  have hc : d.control ≠ 0xDEDE := by cases d <;> apply makeControl_ne_0xDEDE
  have := d.control_lt
  omega

/-- The analyzer's `(ctl >> 16) & 0xFFFF` on a first quadlet the codec wrote is the control word. -/
theorem ITDescriptor.firstQuadlet_control (d : ITDescriptor) :
    ((d.reqCount % 65536 + 65536 * d.control) >>> 16) &&& 0xFFFF = d.control := by
  have := d.control_lt
  rw [land_0xFFFF, Nat.shiftRight_eq_div_pow]
  omega

/-- Past its two first lines, the report on a descriptor's first quadlet with a `br` that has a
Z nibble and address bits says that the branch looks valid. -/
theorem descriptorReport_valid (d : ITDescriptor) {dat br : Nat} (hz : br &&& 0xF ≠ 0)
    (ha : br &&& 0xFFFFFFF0 ≠ 0) :
    (descriptorReport (d.reqCount % 65536 + 65536 * d.control) dat br).drop 2 =
      ["✅ Branch address looks valid."] := by
  simp only [descriptorReport, d.firstQuadlet_ne_uninit, hz, ha, if_false, List.cons_append,
    List.nil_append, List.drop_succ_cons, List.drop_zero]

/-- Past its two first lines, the report on a descriptor's first quadlet with a `br` whose Z is 0
says nothing, unless the command is OUTPUT_LAST. -/
theorem descriptorReport_z_zero (d : ITDescriptor) {dat br : Nat} (hz : br &&& 0xF = 0)
    (hcmd : (d.control >>> 12) &&& 0xF ≠ 1) :
    (descriptorReport (d.reqCount % 65536 + 65536 * d.control) dat br).drop 2 = [] := by
  simp only [descriptorReport, d.firstQuadlet_ne_uninit, d.firstQuadlet_control, hz, hcmd, if_false,
    if_true, List.cons_append, List.nil_append, List.drop_succ_cons, List.drop_zero]

end ItDmaProgram
