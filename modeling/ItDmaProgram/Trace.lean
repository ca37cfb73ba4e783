import ItDmaProgram.Analyzer
import ItDmaProgram.Healthy

/-!
# The trace of a halted program

The analyzer run on a trace of the builder's own program. A context that halted in slot `k` of a
finalized image leaves three kinds of lines: one with the dead flag and the command pointer,
`dead=1 CommandPtr=0x{:08X}`, one with the base address, `base=0x{:08X}`, and one dump line per
16-byte slot of the image, in the analyzer's own `Descriptor Content` format. The loop over the
lines reads all three back: the halted line is the first event and a critical one, the base
line gives the base address, and the dump lines fill the dictionary.

A line of the report is an alarm when it is a fault (`❌`) or a warning (`⚠️`). Every line the
report can hold besides the deep diagnosis, and the two first lines of every descriptor report,
start otherwise; so on a program that passes `validate` the analyzer raises none.

* `scanLog_haltTrace`: what the loop over the lines keeps of such a trace.
* `analyzeItLog_no_false_alarm`: the analyzer names slot `k` and raises no alarm.
-/

namespace ItDmaProgram

/-! ## Writing the trace -/

/-- The line of a halted context: the dead flag, then the command pointer. -/
def haltLine (cmdPtr : Nat) : String := s!"dead=1 CommandPtr=0x{hexPad 8 cmdPtr}"

/-- The line giving the program's base address. -/
def baseLine (base : Nat) : String := s!"base=0x{hexPad 8 base}"

/-- A dump line for every 16-byte slot of an image, with the slot's first three quadlets. -/
def imageDump (image : List UInt8) : List String :=
  (List.range (image.length / 16)).map fun t =>
    dumpLine t (quadletAt image (16 * t)) (quadletAt image (16 * t + 4)) (quadletAt image (16 * t + 8))

/-- The trace of a context halted with command pointer `cmdPtr` in the image of a program at
`base`. -/
def haltTrace (cmdPtr base : Nat) (image : List UInt8) : String :=
  logText (haltLine cmdPtr :: baseLine base :: imageDump image)

theorem haltLine_toList (p : Nat) :
    (haltLine p).toList = "dead=1 CommandPtr=0x".toList ++ (hexPad 8 p).toList := by
  simp only [haltLine, String.toList, String.data_append, show (toString "").data = [] from rfl,
    List.append_nil]
  rfl

theorem baseLine_toList (b : Nat) : (baseLine b).toList = "base=0x".toList ++ (hexPad 8 b).toList := by
  simp only [baseLine, String.toList, String.data_append, show (toString "").data = [] from rfl,
    List.append_nil]
  rfl

/-- A test that every character of a literal and every upper-case hex digit pass passes every
character of the literal followed by `{:0wX}` digits. -/
theorem forall_mem_append_hexPad {P : Char → Bool} {v : Bool} {pre : List Char}
    (hpre : ∀ c ∈ pre, P c = v) (hhex : ∀ k < 16, P (Nat.digitChar k).toUpper = v) (w n : Nat) :
    ∀ c ∈ pre ++ (hexPad w n).toList, P c = v := by
  intro c hc
  rcases List.mem_append.mp hc with hc | hc
  · exact hpre c hc
  · obtain ⟨k, hk, rfl⟩ := mem_hexPad hc
    exact hhex k hk

/-- The lines of a halted program's trace hold no line boundary. -/
theorem haltTrace_noBreak (cmdPtr base : Nat) (image : List UInt8) :
    ∀ l ∈ haltLine cmdPtr :: baseLine base :: imageDump image, ∀ c ∈ l.toList, isLineBreak c = false := by
  have hhex : ∀ k < 16, isLineBreak (Nat.digitChar k).toUpper = false := fun k hk => (digitChar_hex k hk).2.2
  intro l hl
  rcases List.mem_cons.mp hl with rfl | hl
  · rw [haltLine_toList]
    exact forall_mem_append_hexPad (by decide) hhex 8 cmdPtr
  rcases List.mem_cons.mp hl with rfl | hl
  · rw [baseLine_toList]
    exact forall_mem_append_hexPad (by decide) hhex 8 base
  · obtain ⟨t, -, rfl⟩ := List.mem_map.mp hl
    exact dumpLine_noBreak _ _ _ _

/-! ## Reading the lines back -/

/-- `0x[0-9a-fA-F]+` reads back `{:0wX}` digits that end the line. -/
theorem matchHex_hexPad_end (w n : Nat) : matchHex ('0' :: 'x' :: (hexPad w n).toList) = some (n, []) := by
  simpa using @matchHex_hexPad w n [] fun _ h => nomatch h

/-- A literal matched under `re.I` takes a character of the text for each of its own. -/
theorem matchWord_some {w cs r : List Char} (h : matchWord w cs = some r) :
    ∀ p ∈ w, ∃ c ∈ cs, caseMatch p c = true := by
  induction w generalizing cs with
  | nil => intro p hp; cases hp
  | cons q w ih =>
    cases cs with
    | nil => cases h
    | cons c cs =>
      simp only [matchWord] at h
      split at h
      · next hq =>
        intro p hp
        rcases List.mem_cons.mp hp with rfl | hp
        · exact ⟨c, List.mem_cons_self c cs, hq⟩
        · obtain ⟨d, hd, hpd⟩ := ih h p hp
          exact ⟨d, List.mem_cons_of_mem c hd, hpd⟩
      · cases h

/-- `pat_base` matches nowhere in a line without an `s`. -/
theorem search_baseAt_eq_none {cs : List Char} (h : ∀ c ∈ cs, caseMatch 's' c = false)
    (prev : Option Char) : search baseAt prev cs = none := by
  have hat : ∀ {cs' : List Char}, (∀ c ∈ cs', caseMatch 's' c = false) → ∀ p, baseAt p cs' = none := by
    intro cs' h' p
    cases hw : matchWord "base".toList cs' with
    | none => unfold baseAt; rw [hw]; rfl
    | some r =>
      obtain ⟨c, hc, hs⟩ := matchWord_some hw 's' (by decide)
      exact absurd (h' c hc) (by simp [hs])
  induction cs generalizing prev with
  | nil => exact hat h prev
  | cons c cs ih =>
    simp only [search, hat h, Option.orElse_none]
    exact ih (fun d hd => h d (List.mem_cons_of_mem c hd)) _

/-- `pat_dead` matches the halted line at its start. -/
theorem search_deadAt_haltLine (p : Nat) : search deadAt none (haltLine p).toList = some () := by
  rw [haltLine_toList]
  exact search_of_some rfl

/-- `pat_cmdp` matches the halted line after the dead flag and reads back the command pointer. -/
theorem search_cmdPtrAt_haltLine (p : Nat) : search cmdPtrAt none (haltLine p).toList = some p := by
  have hsep : matchSep ('=' :: '0' :: 'x' :: (hexPad 8 p).toList) = some ('0' :: 'x' :: (hexPad 8 p).toList) :=
    rfl
  have hword : matchWord "commandptr".toList ("CommandPtr=0x".toList ++ (hexPad 8 p).toList) =
      some ('=' :: '0' :: 'x' :: (hexPad 8 p).toList) := rfl
  have hat : cmdPtrAt (some ' ') ("CommandPtr=0x".toList ++ (hexPad 8 p).toList) = some p := by
    rw [cmdPtrAt, hword, Option.some_bind, cmdPtrValue, hsep, Option.some_bind, matchHex_hexPad_end]
    rfl
  have hskip : ∀ r, search cmdPtrAt none ("dead=1 ".toList ++ r) = search cmdPtrAt (some ' ') r :=
    fun _ => rfl
  rw [haltLine_toList, show "dead=1 CommandPtr=0x".toList = "dead=1 ".toList ++ "CommandPtr=0x".toList
    from rfl, List.append_assoc, hskip]
  exact search_of_some hat

/-- `pat_base` finds nothing in the halted line. -/
theorem search_baseAt_haltLine (p : Nat) : search baseAt none (haltLine p).toList = none := by
  rw [haltLine_toList]
  exact search_baseAt_eq_none (forall_mem_append_hexPad (by decide) (by decide) 8 p) none

/-- `pat_base` reads back the base line. -/
theorem search_baseAt_baseLine (b : Nat) : search baseAt none (baseLine b).toList = some b := by
  have hword : matchWord "base".toList ("base=0x".toList ++ (hexPad 8 b).toList) =
      some ('=' :: '0' :: 'x' :: (hexPad 8 b).toList) := rfl
  have hat : baseAt none ("base=0x".toList ++ (hexPad 8 b).toList) = some b := by
    rw [baseAt, hword]
    show (matchHex ('0' :: 'x' :: (hexPad 8 b).toList)).map Prod.fst = some b
    rw [matchHex_hexPad_end]
    rfl
  rw [baseLine_toList]
  exact search_of_some hat

/-! ## The loop over the lines -/

/-- After the dump lines of an image, the dictionary holds every slot's entry. -/
theorem descriptors_imageDump (image : List UInt8) (s : LogScan) {t : Nat}
    (ht : t < image.length / 16) :
    (((imageDump image).map String.toList).foldl scanLine s).descriptors t =
      some (quadletAt image (16 * t), quadletAt image (16 * t + 4), quadletAt image (16 * t + 8)) := by
  have hfind : ((List.range (image.length / 16)).reverse.find? fun t' => t' = t) = some t := by
    have hsome : ((List.range (image.length / 16)).reverse.find? fun t' => t' = t).isSome :=
      List.find?_isSome.mpr ⟨t, List.mem_reverse.mpr (List.mem_range.mpr ht), by simp⟩
    obtain ⟨x, hx⟩ := Option.isSome_iff_exists.mp hsome
    have hxt := List.find?_some hx
    rw [hx, of_decide_eq_true hxt]
  have hread : ((imageDump image).map String.toList).reverse.filterMap (search descAt none) =
      ((List.range (image.length / 16)).map fun t =>
        (t, quadletAt image (16 * t), quadletAt image (16 * t + 4), quadletAt image (16 * t + 8))).reverse := by
    have hdump : ∀ t, search descAt none (dumpLine t (quadletAt image (16 * t)) (quadletAt image (16 * t + 4))
        (quadletAt image (16 * t + 8))).toList =
          some (t, quadletAt image (16 * t), quadletAt image (16 * t + 4), quadletAt image (16 * t + 8)) :=
      fun t => search_descAt_dumpLine _ _ _ _
    rw [imageDump, List.map_map, List.filterMap_reverse, List.filterMap_map, ← List.filterMap_eq_map]
    simp only [Function.comp_def, hdump]
  rw [descriptors_foldl_scanLine, hread, ← List.map_reverse, List.find?_map]
  simp only [Function.comp_def, hfind, Option.map_some']
  rfl

/-- What the loop over a halted program's trace keeps: the halted line as the target event, with
its command pointer, the base address of the second line, and every slot's dump entry. -/
theorem scanLog_haltTrace (cmdPtr base : Nat) (image : List UInt8) :
    let s := scanLog (haltTrace cmdPtr base image)
    (∃ ev, s.target? = some ev ∧ ev.cmdPtr = some cmdPtr) ∧ s.baseAddress = some base ∧
      ∀ t < image.length / 16, s.descriptors t =
        some (quadletAt image (16 * t), quadletAt image (16 * t + 4), quadletAt image (16 * t + 8)) := by
  set s1 := scanLine ⟨[], fun _ => none, none⟩ (haltLine cmdPtr).toList
  have hs : scanLog (haltTrace cmdPtr base image) =
      ((baseLine base).toList :: (imageDump image).map String.toList).foldl scanLine s1 := by
    simp only [s1, haltTrace, scanLog_logText _ (haltTrace_noBreak cmdPtr base image), List.map_cons,
      List.foldl_cons]
  have hev : s1.events = [⟨search eventAt none (haltLine cmdPtr).toList, some cmdPtr, true,
      (haltLine cmdPtr).toList⟩] := by
    simp only [s1, scanLine, search_cmdPtrAt_haltLine, search_deadAt_haltLine, Option.isSome_some,
      Bool.or_true, if_true, List.nil_append]
  have hbase : (scanLine s1 (baseLine base).toList).baseAddress = some base := by
    rw [baseAddress_scanLine, baseAddress_scanLine, search_baseAt_haltLine, search_baseAt_baseLine]
    rfl
  have hrest := events_foldl_scanLine_eq ((baseLine base).toList :: (imageDump image).map String.toList) s1
  intro s
  refine ⟨⟨⟨search eventAt none (haltLine cmdPtr).toList, some cmdPtr, true, (haltLine cmdPtr).toList⟩,
    ?_, rfl⟩, ?_, fun t ht => ?_⟩
  · simp only [s, LogScan.target?, LogScan.critical?, hs, hrest, hev, List.singleton_append,
      List.find?_cons, LogEvent.isCritical, Bool.true_or]
    rfl
  · rw [show s = _ from hs, List.foldl_cons]
    rw [baseAddress_foldl_scanLine_eq, hbase]
    rfl
  · rw [show s = _ from hs, List.foldl_cons]
    exact descriptors_imageDump image _ ht

/-! ## Alarms -/

/-- A line the analyzer prints as a fault (`❌`) or as a warning (`⚠️`). -/
def isAlarm (l : String) : Bool := l.toList.head? == some '❌' || l.toList.head? == some '⚠'

theorem codeReport_not_alarm (code : Option Nat) : ∀ l ∈ codeReport code, isAlarm l = false := by
  cases code with
  | none => intro l hl; cases hl
  | some c =>
    simp only [codeReport, List.mem_cons]
    rintro l (rfl | hl)
    · rfl
    · split_ifs at hl <;> simp only [List.mem_singleton, List.not_mem_nil] at hl <;> subst hl <;> rfl

/-- The report up to the deep diagnosis raises no alarm. -/
theorem basicReport_not_alarm (s : LogScan) (ev : LogEvent) :
    ∀ l ∈ s.basicReport ev, isAlarm l = false := by
  intro l hl
  simp only [LogScan.basicReport, List.mem_append, List.mem_cons, List.mem_singleton] at hl
  rcases hl with (((rfl | rfl | rfl | rfl | hl) | hl) | hl) | hl
  · rfl
  · rfl
  · rfl
  · rfl
  · cases hl
  · exact codeReport_not_alarm _ l hl
  all_goals
    split at hl <;> simp only [List.mem_singleton, List.not_mem_nil] at hl
    subst hl
    rfl

theorem secondHalfNote_not_alarm (k : Nat) (ds : Nat → Option (Nat × Nat × Nat)) :
    ∀ l ∈ secondHalfNote k ds, isAlarm l = false := by
  intro l hl
  simp only [secondHalfNote] at hl
  split at hl
  · cases hl
  · split at hl
    · split_ifs at hl <;> simp only [List.mem_singleton, List.not_mem_nil] at hl
      subst hl
      rfl
    · cases hl

/-- The two first lines of a descriptor report, its content and its type, are no alarm. -/
theorem descriptorReport_take_not_alarm (dVal dDat dBr : Nat) :
    ∀ l ∈ (descriptorReport dVal dDat dBr).take 2, isAlarm l = false := by
  simp only [descriptorReport, List.cons_append, List.take_succ_cons, List.take_zero, List.mem_cons,
    List.mem_singleton]
  rintro l (rfl | rfl | h)
  · rfl
  · rfl
  · cases h

/-! ## No false alarm -/

/-- **The analyzer raises no false alarm on a program that passes validation.** Take any
program built on a nonzero base that passes `validate`, with the ring below `2 ^ 32`, and also
the sentinel under `SENTINEL`, and any slot `k` of the bytes `finalize_ring` returns for it. The
trace of a context halted there, with any Z nibble, and of the program's base and every slot of
its image, is read back whole. The analyzer names slot `k` as the failing index, and no line of
its report is a fault or a warning: the pointer is after the base and aligned, the slot is
dumped, and its report is one of the verdicts `descriptorReport_validated` allows. -/
theorem analyzeItLog_no_false_alarm (base channel : Nat) (speed : Speed) (rate : Nat)
    (strategy : SkipStrategy) (calls : List Call) (hbase : base ≠ 0) (k z : Nat) :
    let b := (ITProgramBuilder.new base channel speed rate strategy).run calls
    let image := b.finalizeRing.1
    let report := analyzeItLog (haltTrace ((base + 16 * k) ||| z) base image)
    b.validate = [] → b.nextBlockAddress ≤ 2 ^ 32 → (b.skipStrategy = .sentinel → b.sentinelAddr < 2 ^ 32) →
    k < image.length / 16 → z < 16 →
    s!"Failure at Descriptor Index: {k}" ∈ report ∧ ∀ l ∈ report, isAlarm l = false := by
  intro b image report hvalid hbelow hsent hk hz
  have hinv : b.Inv := (ITProgramBuilder.inv_new _ _ _ _ _).run calls
  have hb : b.baseAddress = base := by simp [b, ITProgramBuilder.new]
  have hnamed : b.HeadersNamed := (ITProgramBuilder.headersNamed_new _ _ _ _ _).run calls
  have haddr := ITProgramBuilder.address_of_validate hvalid
  obtain ⟨i, j, blk, d, hblk, -⟩ := hinv.slot_cases hk
  have haligned : base % 16 = 0 := hb ▸ hinv.base_aligned haddr hblk
  obtain ⟨⟨ev, htarget, hcmd⟩, hbaseAddr, hdumps⟩ := scanLog_haltTrace ((base + 16 * k) ||| z) base image
  have hverdict := hinv.slot_verdict hnamed (zValue_of_validate hvalid) haddr (hb ▸ hbase) hbelow hsent hk
  have hreport := analyzeItLog_slot hbase haligned (hb ▸ hinv.base_add_length_finalizeRing ▸ hbelow) hk hz
    htarget hcmd hbaseAddr hdumps
  rw [← List.take_append_drop 2 (descriptorReport _ _ _)] at hreport
  rw [show report = _ from hreport]
  refine ⟨List.mem_append_left _ (List.mem_append_left _ (List.mem_append_right _ (by simp))),
    fun l hl => ?_⟩
  simp only [List.mem_append] at hl
  rcases hl with ((hl | hl) | hl) | hl | hl
  · exact basicReport_not_alarm _ _ l hl
  · simp only [List.mem_cons, List.not_mem_nil, or_false] at hl
    rcases hl with rfl | rfl | rfl <;> rfl
  · exact secondHalfNote_not_alarm _ _ l hl
  · exact descriptorReport_take_not_alarm _ _ _ l hl
  · rcases hverdict with h | h <;> rw [h] at hl <;>
      simp only [List.mem_singleton, List.not_mem_nil] at hl
    subst hl
    rfl

/-- A DATA packet and a NO-DATA packet: a context halted in slot 2, the DATA packet's
OUTPUT_LAST, is reported there and with no alarm. -/
theorem analyzeItLog_no_false_alarm_output_last :
    let image := ((ITProgramBuilder.new 0x80000000 0 .s400 48000 .next).run
      [.addDataPacket 8 2 1 none false, .addNodataPacket 8 false]).finalizeRing.1
    let report := analyzeItLog (haltTrace 0x80000023 0x80000000 image)
    "Failure at Descriptor Index: 2" ∈ report ∧ ∀ l ∈ report, isAlarm l = false :=
  analyzeItLog_no_false_alarm 0x80000000 0 .s400 48000 .next
    [.addDataPacket 8 2 1 none false, .addNodataPacket 8 false] (by decide) 2 3 (by decide) (by decide)
    (by decide) (by decide) (by decide)

end ItDmaProgram
