import ItDmaProgram.Diagnoser
import ItDmaProgram.LogScan
import Mathlib.Algebra.BigOperators.Ring.List

/-!
# The log analyzer

The second half of `analyze_it_log`, over what the scan of the trace found. Without events the
report is one line. Otherwise the analyzer takes as its target the first critical event (one
that is dead or carries a code outside `0x00`, `0x02`, `0x11`), or else the last event, and
prints what the event says. Then, if the target's command pointer and the base address are both
truthy, it masks the pointer's Z nibble off, takes the offset from the base, and reports on the
descriptor index `offset // 16`: the index itself, a note when the dump entry before it looks
like the first half of an Immediate descriptor, and the report of `Diagnoser` on its own dump
entry.

* `analyzeItLog_zero_skips_deep_diagnosis`: a command pointer or a base address of `0` skips the
  deep diagnosis as a missing one does, since `if cmd_ptr and base_address` tests truthiness.
* `analyzeItLog_slot`: a command pointer into slot `k` of a dumped image, with any Z nibble,
  resolves to index `k`; the second-half note then reads bits 10..8 of slot `k - 1`'s first
  quadlet, which are reqCount bits, not the key.
* `analyzeItLog_immediate_second_half` and `analyzeItLog_note_after_reqCount`: on the images the
  builder produces, the note is missing at the second half of every OUTPUT_MORE-Immediate, and
  present after every descriptor whose reqCount has 2 in those bits.
-/

namespace ItDmaProgram

/-! ## The event lines -/

/-- `EVENT_CODE_NAMES.get(code, f"Unknown(0x{code:X})")`. -/
def eventCodeName (code : Nat) : String :=
  match code with
  | 0x00 => "evt_no_status"
  | 0x02 => "ack_complete"
  | 0x06 => "evt_descriptor_read"
  | 0x07 => "evt_data_read"
  | 0x0A => "evt_timeout"
  | 0x0E => "evt_unknown"
  | 0x0F => "evt_flushed"
  | 0x11 => "ack_pending"
  | 0x21 => "evt_skip_overflow"
  | _ => s!"Unknown(0x{hexUpper code})"

/-- `dead or is_error_code`: the event is dead, or its code is not one of `0x00`, `0x02`, `0x11`. -/
def LogEvent.isCritical (ev : LogEvent) : Bool :=
  ev.dead || ev.code.any fun code => !([0x00, 0x02, 0x11] : List Nat).contains code

/-- `critical_ev`: the first critical event. -/
def LogScan.critical? (s : LogScan) : Option LogEvent := s.events.find? LogEvent.isCritical

/-- `target_ev`: the critical event, or else the last event. There is none only without events,
where `analyze_it_log` has already returned. -/
def LogScan.target? (s : LogScan) : Option LogEvent := s.critical?.orElse fun _ => s.events.getLast?

/-- `"-" * 60`. -/
def dashes : String := String.mk (List.replicate 60 '-')

/-- The lines on the target's event code. -/
def codeReport : Option Nat → List String
  | none => []
  | some code =>
    let name := eventCodeName code
    s!"Event Code: 0x{hexUpper code} ({name})" ::
      if code = 0x0A then ["Diagnosis: Timeout (Cycle Lost?). Hardware stuck or skip overflow."]
      else if code = 0x21 then ["Diagnosis: Skip Processing Overflow."]
      else []

/-- The report up to the deep diagnosis: the event count, whether a critical event was found, the
target's stripped line, its code, its command pointer when truthy, and its dead flag. -/
def LogScan.basicReport (s : LogScan) (target : LogEvent) : List String :=
  let count := s.events.length
  let found := if s.critical?.isSome then "Yes" else "No"
  let line := String.mk (stripSpaces target.line)
  [s!"Analyzing Log ({count} events found)...", dashes, s!"Critical Event Found: {found}",
    s!"Log Line: {line}"] ++ codeReport target.code ++
  (match target.cmdPtr with
    | some (p + 1) => [s!"CommandPtr: 0x{hexPad 8 (p + 1)}"]
    | _ => []) ++
  if target.dead then ["Context Status: DEAD (Hardware halted)"] else []

/-! ## The deep diagnosis -/

/-- The note on index `idx` when the dump entry of `idx - 1` has key 2 in bits 10..8 of its `ctl`.
Index 0 has none: `descriptors.get(-1)` finds nothing, as the dumped indices are `\d+`. -/
def secondHalfNote : Nat → (Nat → Option (Nat × Nat × Nat)) → List String
  | 0, _ => []
  | prev + 1, descriptors =>
    match descriptors prev with
    | some (pCtl, _, _) =>
      if (pCtl >>> 8) &&& 0x7 = 2 then
        [s!"ℹ️  Note: This index is the second half of descriptor {prev} (IMMEDIATE)."]
      else []
    | none => []

/-- The report on the failing descriptor index `idx`. -/
def indexReport (idx : Nat) (descriptors : Nat → Option (Nat × Nat × Nat)) : List String :=
  s!"Failure at Descriptor Index: {idx}" :: secondHalfNote idx descriptors ++
    match descriptors idx with
    | some (dVal, dDat, dBr) => descriptorReport dVal dDat dBr
    | none => ["⚠️  Descriptor dump not found for this index."]

/-- The body of `if cmd_ptr and base_address:`: the offset of the masked command pointer from the
base, checked for sign and alignment, as a descriptor index. -/
def resolveCmdPtr (cmdPtr baseAddress : Nat) (descriptors : Nat → Option (Nat × Nat × Nat)) :
    List String :=
  let cmdPtrAddr := cmdPtr &&& 0xFFFFFFF0
  if cmdPtrAddr < baseAddress then
    [s!"⚠️  CmdPtr (0x{hexUpper cmdPtr}) is before Base Address (0x{hexUpper baseAddress})!"]
  else
    let offset := cmdPtrAddr - baseAddress
    if offset % 16 ≠ 0 then
      [s!"⚠️  CmdPtr illegal alignment (offset={offset}). Must be 16-byte aligned."]
    else indexReport (offset / 16) descriptors

/-- `if cmd_ptr and base_address:`, Python truthiness: both present and nonzero. -/
def deepDiagnosis : Option Nat → Option Nat → (Nat → Option (Nat × Nat × Nat)) → List String
  | some (p + 1), some (b + 1), descriptors => resolveCmdPtr (p + 1) (b + 1) descriptors
  | _, _, _ => ["Cannot perform deep diagnosis (missing Base Address or CmdPtr)."]

/-- What `analyze_it_log` returns after the loop over the lines. -/
def analysisReport (s : LogScan) : List String :=
  match s.target? with
  | none => ["No relevant IT DMA events found."]
  | some target =>
    s.basicReport target ++ [dashes, "Deep Diagnosis:"] ++
      deepDiagnosis target.cmdPtr s.baseAddress s.descriptors

/-- `analyze_it_log`. -/
def analyzeItLog (logText : String) : List String := analysisReport (scanLog logText)

theorem analysisReport_of_target {s : LogScan} {target : LogEvent} (h : s.target? = some target) :
    analysisReport s = s.basicReport target ++ [dashes, "Deep Diagnosis:"] ++
      deepDiagnosis target.cmdPtr s.baseAddress s.descriptors := by
  rw [analysisReport, h]

/-! ## Resolving the command pointer -/

/-- With a nonzero command pointer and base address, the analyzer resolves the pointer. -/
theorem deepDiagnosis_of_ne_zero {p b : Nat} (hp : p ≠ 0) (hb : b ≠ 0)
    (descriptors : Nat → Option (Nat × Nat × Nat)) :
    deepDiagnosis (some p) (some b) descriptors = resolveCmdPtr p b descriptors := by
  obtain ⟨p, rfl⟩ := Nat.exists_eq_succ_of_ne_zero hp
  obtain ⟨b, rfl⟩ := Nat.exists_eq_succ_of_ne_zero hb
  rfl

/-- A command pointer or a base address of `0` is taken for a missing one. -/
theorem deepDiagnosis_of_zero {p b : Nat} (h : p = 0 ∨ b = 0)
    (descriptors : Nat → Option (Nat × Nat × Nat)) :
    deepDiagnosis (some p) (some b) descriptors =
      ["Cannot perform deep diagnosis (missing Base Address or CmdPtr)."] := by
  rcases h with rfl | rfl
  · rfl
  · cases p <;> rfl

/-- A Z nibble on an aligned address is added to it. -/
theorem or_nibble {a z : Nat} (ha : a % 16 = 0) (hz : z < 16) : a ||| z = a + z := by
  have h : a = 2 ^ 4 * (a / 16) := by omega
  rw [h, ← Nat.mul_add_lt_is_or hz]

/-- A command pointer into slot `k` of a program on an aligned base below `2 ^ 32`, with any Z
nibble, resolves to index `k`: the mask clears the nibble, and the offset is `16 * k`. -/
theorem resolveCmdPtr_slot {base k z : Nat} (haligned : base % 16 = 0) (hz : z < 16)
    (hbelow : base + 16 * k < 2 ^ 32) (descriptors : Nat → Option (Nat × Nat × Nat)) :
    resolveCmdPtr ((base + 16 * k) ||| z) base descriptors = indexReport k descriptors := by
  have haddr : ((base + 16 * k) ||| z) &&& 0xFFFFFFF0 = base + 16 * k := by
    rw [or_nibble (by omega) hz, land_0xFFFFFFF0]
    omega
  simp only [resolveCmdPtr, haddr, show ¬base + 16 * k < base by omega, if_false,
    Nat.add_sub_cancel_left, Nat.mul_mod_right, ne_eq, not_true_eq_false,
    Nat.mul_div_cancel_left k (by decide : 0 < 16)]

/-- After a dump entry whose `ctl` has a key other than 2 in bits 10..8, the analyzer gives no
second-half note. -/
theorem secondHalfNote_of_key {prev pCtl dat br : Nat} {descriptors : Nat → Option (Nat × Nat × Nat)}
    (h : descriptors prev = some (pCtl, dat, br)) (hkey : (pCtl >>> 8) &&& 0x7 ≠ 2) :
    secondHalfNote (prev + 1) descriptors = [] := by
  simp only [secondHalfNote, h, hkey, if_false]

/-- The first quadlet of an Immediate descriptor, reqCount 8 under its control word, has key 0 in
bits 10..8: they are bits 10..8 of the reqCount. -/
theorem key_immediate_first_quadlet (control : Nat) : ((8 + 65536 * control) >>> 8) &&& 0x7 = 0 := by
  rw [Nat.shiftRight_eq_div_pow, land_0x7]
  omega

/-- **A zero is a missing input.** For every trace whose target event carries a command pointer
and in which a base address was found, if either is `0` the analyzer prints only that it cannot
perform the deep diagnosis, as it prints when one of them is missing: `if cmd_ptr and base_address`
tests truthiness, not presence. -/
theorem analyzeItLog_zero_skips_deep_diagnosis (text : String) (ev : LogEvent) (p base : Nat)
    (htarget : (scanLog text).target? = some ev) (hp : ev.cmdPtr = some p)
    (hbase : (scanLog text).baseAddress = some base) (hzero : p = 0 ∨ base = 0) :
    analyzeItLog text = (scanLog text).basicReport ev ++
      [dashes, "Deep Diagnosis:", "Cannot perform deep diagnosis (missing Base Address or CmdPtr)."] := by
  rw [analyzeItLog, analysisReport_of_target htarget, hp, hbase, deepDiagnosis_of_zero hzero,
    List.append_assoc]
  rfl

/-- A halted context with CommandPtr `0`: both inputs are extracted, and the report neither prints
the pointer nor resolves it. -/
theorem analyzeItLog_halted_zero_cmdPtr :
    analyzeItLog "ctx dead=1 CommandPtr=0x00000000\nbase=0x80000000" =
      ["Analyzing Log (1 events found)...", dashes, "Critical Event Found: Yes",
        "Log Line: ctx dead=1 CommandPtr=0x00000000", "Context Status: DEAD (Hardware halted)",
        dashes, "Deep Diagnosis:", "Cannot perform deep diagnosis (missing Base Address or CmdPtr)."] :=
  (analyzeItLog_zero_skips_deep_diagnosis _ ⟨none, some 0, true, "ctx dead=1 CommandPtr=0x00000000".toList⟩
    0 0x80000000 (by decide) rfl (by decide) (.inl rfl)).trans (by decide)

/-! ## Slots of a built image -/

/-- A trace that dumps every 16-byte slot of an image on a nonzero aligned base below `2 ^ 32`,
stopped in slot `k` with any Z nibble: the analyzer resolves index `k`, gives the note as the key
bits of slot `k - 1`'s first quadlet say, and reports on slot `k`'s dump entry. -/
theorem analyzeItLog_slot {text : String} {ev : LogEvent} {image : List UInt8} {base k z : Nat}
    (hbase : base ≠ 0) (haligned : base % 16 = 0) (hbelow : base + image.length ≤ 2 ^ 32)
    (hk : k < image.length / 16) (hz : z < 16) (htarget : (scanLog text).target? = some ev)
    (hcmd : ev.cmdPtr = some ((base + 16 * k) ||| z)) (hbaseAddr : (scanLog text).baseAddress = some base)
    (hdumps : ∀ t < image.length / 16, (scanLog text).descriptors t =
      some (quadletAt image (16 * t), quadletAt image (16 * t + 4), quadletAt image (16 * t + 8))) :
    analyzeItLog text = (scanLog text).basicReport ev ++
      [dashes, "Deep Diagnosis:", s!"Failure at Descriptor Index: {k}"] ++
      secondHalfNote k (scanLog text).descriptors ++
      descriptorReport (quadletAt image (16 * k)) (quadletAt image (16 * k + 4))
        (quadletAt image (16 * k + 8)) := by
  rw [analyzeItLog, analysisReport_of_target htarget, hcmd, hbaseAddr,
    deepDiagnosis_of_ne_zero (by rw [or_nibble (by omega) hz]; omega) hbase,
    resolveCmdPtr_slot haligned hz (by omega), indexReport, hdumps k hk]
  simp only [List.append_assoc, List.cons_append, List.nil_append]

/-- Under the invariant on an aligned base, descriptor `j` of block `i` fills the image from an
aligned offset on, and the first quadlet there is its reqCount under its control word. -/
theorem ITProgramBuilder.Inv.descriptor_slot {b : ITProgramBuilder} (h : b.Inv)
    (haligned : b.baseAddress % 16 = 0) {i j : Nat} {blk : DescriptorBlock} {d : ITDescriptor}
    (hblk : b.blocks[i]? = some blk) (hd : blk.descriptors[j]? = some d) :
    let off := blk.address - b.baseAddress + ((blk.descriptors.take j).map ITDescriptor.size).sum
    off % 16 = 0 ∧ d.size ≤ b.finalizeRing.1.length - off ∧
      quadletAt b.finalizeRing.1 off = d.reqCount % 65536 + 65536 * d.control := by
  intro off
  obtain ⟨nb, hnb⟩ := b.exists_getElem?_succ hblk
  have hpre := h.toBytes_at_offset hblk hnb hd
  have hbuilt := (h.built blk (List.getElem?_mem hblk)).1 d (List.getElem?_mem hd)
  have hlen := hpre.length_le
  rw [List.length_drop, (ITDescriptor.built_link.mpr hbuilt).length_toBytes,
    ITDescriptor.size_link] at hlen
  have hfirst := ((d.link _ nb).decode hpre).1
  rw [ITDescriptor.reqCount_link, ITDescriptor.control_link] at hfirst
  obtain ⟨hi, rfl⟩ := List.getElem?_eq_some_iff.mp hblk
  have haddr := h.chained.address_getElem hi
  have hsizes : 16 ∣ ((b.blocks[i].descriptors.take j).map ITDescriptor.size).sum :=
    List.dvd_sum fun n hn => by
      obtain ⟨d, hd, rfl⟩ := List.mem_map.mp hn
      exact ⟨_, ((h.built _ (List.getElem_mem hi)).1 d (List.mem_of_mem_take hd)).size_eq⟩
  exact ⟨by omega, hlen, hfirst⟩

/-- **The second half of an OUTPUT_MORE-Immediate gets no note.** Take any program built on a
nonzero aligned base and lying below `2 ^ 32`, any OUTPUT_MORE-Immediate in it, and a trace whose
target event's command pointer is the slot `k` of the Immediate's second 16 bytes with any Z
nibble, whose base address is the program's, and whose dumps hold every slot of the image. Then
the analyzer resolves index `k` and reports on its dump entry, without the second-half note: it
tests bits 10..8 of the whole first quadlet of slot `k - 1`, the reqCount `8`, and not the key
field in the control half, which the descriptor report decodes from bits 26..24. -/
theorem analyzeItLog_immediate_second_half (base channel : Nat) (speed : Speed) (rate : Nat)
    (strategy : SkipStrategy) (calls : List Call) (hbase : base ≠ 0) (haligned : base % 16 = 0)
    (i j : Nat) (blk : DescriptorBlock) (o : OutputMoreImmediate) (z : Nat) (text : String)
    (ev : LogEvent) :
    let b := (ITProgramBuilder.new base channel speed rate strategy).run calls
    let image := b.finalizeRing.1
    let k := (blk.address - base + ((blk.descriptors.take j).map ITDescriptor.size).sum) / 16 + 1
    b.nextBlockAddress ≤ 2 ^ 32 → b.blocks[i]? = some blk →
    blk.descriptors[j]? = some (.outputMoreImmediate o) → z < 16 →
    (scanLog text).target? = some ev → ev.cmdPtr = some ((base + 16 * k) ||| z) →
    (scanLog text).baseAddress = some base →
    (∀ t < image.length / 16, (scanLog text).descriptors t =
      some (quadletAt image (16 * t), quadletAt image (16 * t + 4), quadletAt image (16 * t + 8))) →
    analyzeItLog text = (scanLog text).basicReport ev ++
      [dashes, "Deep Diagnosis:", s!"Failure at Descriptor Index: {k}"] ++
      descriptorReport (quadletAt image (16 * k)) (quadletAt image (16 * k + 4))
        (quadletAt image (16 * k + 8)) := by
  intro b image k hbelow hblk hd hz htarget hcmd hbaseAddr hdumps
  have hinv : b.Inv := (ITProgramBuilder.inv_new _ _ _ _ _).run calls
  have hb : b.baseAddress = base := by simp [b, ITProgramBuilder.new]
  obtain ⟨hal, hsize, hfirst⟩ := hinv.descriptor_slot (hb ▸ haligned) hblk hd
  rw [hb] at hal hsize hfirst
  rw [show b.finalizeRing.1 = image from rfl] at hsize hfirst
  set off := blk.address - base + ((blk.descriptors.take j).map ITDescriptor.size).sum
  have hk : k = off / 16 + 1 := rfl
  have h32 : (ITDescriptor.outputMoreImmediate o).size = 32 :=
    (hinv.built blk (List.getElem?_mem hblk)).1 _ (List.getElem?_mem hd)
  have hreq : (ITDescriptor.outputMoreImmediate o).reqCount % 65536 = 8 := rfl
  have hprev := hdumps (off / 16) (by omega)
  rw [show 16 * (off / 16) = off by omega, hfirst, hreq] at hprev
  rw [analyzeItLog_slot hbase haligned (hb ▸ hinv.base_add_length_finalizeRing ▸ hbelow) (by omega)
    hz htarget hcmd hbaseAddr hdumps, hk,
    secondHalfNote_of_key hprev (by rw [key_immediate_first_quadlet]; decide), List.append_nil]

/-- One DATA packet on base `0x80000000`: its OUTPUT_MORE-Immediate fills slots 0 and 1. A trace
stopped in slot 1 gets index 1 and the zeroed second half's dump entry, and no note. -/
theorem analyzeItLog_one_packet_second_half :
    analyzeItLog ("ctx dead=1 CommandPtr=0x80000013\nbase=0x80000000\n" ++
      "IT: @0 ctl=0x02000008 dat=0x80000003 br=0x000240A0\n" ++
      "IT: @1 ctl=0x00000000 dat=0x00000000 br=0x00000000\n" ++
      "IT: @2 ctl=0x180C0048 dat=0x80010000 br=0x80000003") =
      ["Analyzing Log (1 events found)...", dashes, "Critical Event Found: Yes",
        "Log Line: ctx dead=1 CommandPtr=0x80000013", "CommandPtr: 0x80000013",
        "Context Status: DEAD (Hardware halted)", dashes, "Deep Diagnosis:",
        "Failure at Descriptor Index: 1",
        "Descriptor Content: ctl=0x00000000 dat=0x00000000 br=0x00000000",
        "Type: OUTPUT_MORE (ResCount/ReqCount=0)"] :=
  (analyzeItLog_immediate_second_half 0x80000000 0 .s400 48000 .next [.addDataPacket 8 2 1 none false]
    (by decide) (by decide) 0 0
    ⟨[.outputMoreImmediate { itQ0 := 0x240A0, itQ1 := 0x480000 },
      .outputLast { reqCount := 72, dataAddress := 0x80010000 }], 0x80000000⟩
    { itQ0 := 0x240A0, itQ1 := 0x480000 } 3 _
    ⟨none, some 0x80000013, true, "ctx dead=1 CommandPtr=0x80000013".toList⟩
    (by decide) (by decide) rfl (by decide) (by decide) (by decide) (by decide)
    (by decide)).trans (by decide)

/-- **The note can fall on the start of a descriptor.** In any program built on a nonzero aligned
base below `2 ^ 32`, take a descriptor whose reqCount has 2 in bits 10..8, such as the OUTPUT_LAST
of a 64-sample stereo DATA packet, whose 520 bytes are `0x208`, and a trace stopped in the slot `k`
right after the descriptor's first slot, dumped as before. The descriptor is a 16-byte one, so
slot `k` starts whatever follows it; yet the analyzer calls index `k` the second half of an
Immediate descriptor `k - 1`. -/
theorem analyzeItLog_note_after_reqCount (base channel : Nat) (speed : Speed) (rate : Nat)
    (strategy : SkipStrategy) (calls : List Call) (hbase : base ≠ 0) (haligned : base % 16 = 0)
    (i j : Nat) (blk : DescriptorBlock) (d : ITDescriptor) (z : Nat) (text : String)
    (ev : LogEvent) :
    let b := (ITProgramBuilder.new base channel speed rate strategy).run calls
    let image := b.finalizeRing.1
    let k := (blk.address - base + ((blk.descriptors.take j).map ITDescriptor.size).sum) / 16 + 1
    b.nextBlockAddress ≤ 2 ^ 32 → b.blocks[i]? = some blk → blk.descriptors[j]? = some d →
    ((d.reqCount % 65536) >>> 8) &&& 0x7 = 2 → k < image.length / 16 → z < 16 →
    (scanLog text).target? = some ev → ev.cmdPtr = some ((base + 16 * k) ||| z) →
    (scanLog text).baseAddress = some base →
    (∀ t < image.length / 16, (scanLog text).descriptors t =
      some (quadletAt image (16 * t), quadletAt image (16 * t + 4), quadletAt image (16 * t + 8))) →
    d.size = 16 ∧ analyzeItLog text = (scanLog text).basicReport ev ++
      [dashes, "Deep Diagnosis:", s!"Failure at Descriptor Index: {k}",
        s!"ℹ️  Note: This index is the second half of descriptor {k - 1} (IMMEDIATE)."] ++
      descriptorReport (quadletAt image (16 * k)) (quadletAt image (16 * k + 4))
        (quadletAt image (16 * k + 8)) := by
  intro b image k hbelow hblk hd hkey hk hz htarget hcmd hbaseAddr hdumps
  have hinv : b.Inv := (ITProgramBuilder.inv_new _ _ _ _ _).run calls
  have hb : b.baseAddress = base := by simp [b, ITProgramBuilder.new]
  have hbuilt : d.Built := (hinv.built blk (List.getElem?_mem hblk)).1 d (List.getElem?_mem hd)
  obtain ⟨hal, -, hfirst⟩ := hinv.descriptor_slot (hb ▸ haligned) hblk hd
  rw [hb] at hal hfirst
  rw [show b.finalizeRing.1 = image from rfl] at hfirst
  set off := blk.address - base + ((blk.descriptors.take j).map ITDescriptor.size).sum
  have hk' : k = off / 16 + 1 := rfl
  have hprev := hdumps (off / 16) (by omega)
  rw [show 16 * (off / 16) = off by omega, hfirst] at hprev
  have hnote : ((d.reqCount % 65536 + 65536 * d.control) >>> 8) &&& 0x7 = 2 := by
    simp only [Nat.shiftRight_eq_div_pow, land_0x7, Nat.reducePow] at hkey ⊢
    omega
  refine ⟨?_, ?_⟩
  · cases d with
    | outputMoreImmediate o =>
      exact absurd hkey (by rw [show (ITDescriptor.outputMoreImmediate o).reqCount = 8 from rfl]; decide)
    | outputLastImmediate _ | outputLastSkip _ => exact hbuilt.elim
    | storeValue _ | outputMore _ | outputLast _ => exact hbuilt
  · rw [analyzeItLog_slot hbase haligned (hb ▸ hinv.base_add_length_finalizeRing ▸ hbelow) hk
      hz htarget hcmd hbaseAddr hdumps, hk']
    simp only [secondHalfNote, hprev, hnote, if_true, Nat.add_sub_cancel, List.append_assoc,
      List.cons_append, List.nil_append, List.singleton_append]

/-- One 64-sample stereo DATA packet, then a NO-DATA packet, on base `0x80000000`: the first block's
OUTPUT_LAST in slot 2 has reqCount `0x208`, and a trace stopped at the second block, in slot 3,
gets the note that index 3 is the second half of descriptor 2. -/
theorem analyzeItLog_second_block_note :
    analyzeItLog ("ctx dead=1 CommandPtr=0x80000033\nbase=0x80000000\n" ++
      "IT: @0 ctl=0x02000008 dat=0x80000033 br=0x000240A0\n" ++
      "IT: @1 ctl=0x00000000 dat=0x00000000 br=0x00000000\n" ++
      "IT: @2 ctl=0x180C0208 dat=0x80010000 br=0x80000033\n" ++
      "IT: @3 ctl=0x02000008 dat=0x80000003 br=0x000240A0\n" ++
      "IT: @4 ctl=0x00000000 dat=0x00000000 br=0x00000000\n" ++
      "IT: @5 ctl=0x180C0008 dat=0x80010210 br=0x80000003") =
      ["Analyzing Log (1 events found)...", dashes, "Critical Event Found: Yes",
        "Log Line: ctx dead=1 CommandPtr=0x80000033", "CommandPtr: 0x80000033",
        "Context Status: DEAD (Hardware halted)", dashes, "Deep Diagnosis:",
        "Failure at Descriptor Index: 3",
        "ℹ️  Note: This index is the second half of descriptor 2 (IMMEDIATE).",
        "Descriptor Content: ctl=0x02000008 dat=0x80000003 br=0x000240A0",
        "Type: OUTPUT_MORE-Immediate (ResCount/ReqCount=8)"] :=
  (analyzeItLog_note_after_reqCount 0x80000000 0 .s400 48000 .next
    [.addDataPacket 64 2 1 none false, .addNodataPacket 2 false] (by decide) (by decide) 0 1
    ⟨[.outputMoreImmediate { itQ0 := 0x240A0, itQ1 := 0x2080000 },
      .outputLast { reqCount := 520, dataAddress := 0x80010000 }], 0x80000000⟩
    (.outputLast { reqCount := 520, dataAddress := 0x80010000 }) 3 _
    ⟨none, some 0x80000033, true, "ctx dead=1 CommandPtr=0x80000033".toList⟩
    (by decide) (by decide) rfl (by decide) (by decide) (by decide) (by decide) (by decide)
    (by decide) (by decide)).2.trans rfl

end ItDmaProgram
