import HesaiSdk.Library.Transition
import HesaiSdk.UdpParser.ParserClass
import HesaiSdk.UdpParser.Udp25Layout
import HesaiSdk.UdpParser.Udp26Returns

/-! Without a calibration no packet is decoded, whatever the memory of the parser held. -/

namespace HesaiSdk.Parsing

open Library Library.BufferRead Library.TextStream Library.Transition Lidar UdpProtocol

inductive GateCall (Pt : Type) where
  | loadCorrectionFile (f : CorrectionFile)
  | loadCorrectionString (stack : LoadMemory) (memory : List UInt8)
  | decodePacket (frame : LidarDecodedFrame Pt) (packet : UdpPacket)

namespace ParserClass

variable {Pt : Type} (C : ParserClass Pt)

def failed {σ : Type} (loaded : σ × ℤ) : Option σ := if loaded.2 = 0 then none else some loaded.1

def step (p : C.State) : GateCall Pt → Option C.State
  | .loadCorrectionFile f => (C.loadCorrectionFile f p).bind failed
  | .loadCorrectionString stack memory => (C.loadCorrectionString stack memory p).bind failed
  | .decodePacket frame packet => some (C.decodePacket p frame packet).val.parser

/-- After any packets and failing loads a packet is rejected, and leaves everything as it was. -/
def NeverDecodes (memory : C.State) : Prop :=
  ∀ (calls : List (GateCall Pt)) (p : C.State), exec C.step calls (C.construct memory) = some p →
    ∀ frame packet, (C.decodePacket p frame packet).val = ⟨-1, p, frame⟩

/-- The flag decides alone whether packets are decoded, and only a load that succeeds changes it. -/
structure Gated (clears : Bool) : Prop where
  constructs : ∀ memory, C.getCorrectionFile (C.construct memory) = (!clears && C.getCorrectionFile memory)
  rejects : ∀ p frame packet, C.getCorrectionFile p = false → (C.decodePacket p frame packet).val = ⟨-1, p, frame⟩
  accepts : ∀ p frame, C.getCorrectionFile p = true → ∃ packet, (C.decodePacket p frame packet).val.ret = 0
  keepsFile : ∀ f p q ret, C.loadCorrectionFile f p = some (q, ret) → ret ≠ 0 →
    C.getCorrectionFile q = C.getCorrectionFile p
  keepsString : ∀ stack memory p q ret, C.loadCorrectionString stack memory p = some (q, ret) → ret ≠ 0 →
    C.getCorrectionFile q = C.getCorrectionFile p

section Run

variable {C} {clears : Bool} (h : C.Gated clears)

include h

lemma Gated.step {p q : C.State} {call : GateCall Pt} (hstep : C.step p call = some q)
    (hp : C.getCorrectionFile p = false) : C.getCorrectionFile q = false := by
  have hfailed {loaded : Option (C.State × ℤ)} (hload : loaded.bind failed = some q) :
      ∃ ret, loaded = some (q, ret) ∧ ret ≠ 0 := by
    obtain ⟨⟨r, ret⟩, hloaded, hret⟩ := Option.bind_eq_some_iff.mp hload
    rw [failed] at hret
    split_ifs at hret with hzero
    obtain rfl := Option.some.inj hret
    exact ⟨ret, hloaded, hzero⟩
  cases call with
  | loadCorrectionFile f =>
    obtain ⟨ret, hload, hret⟩ := hfailed hstep
    rw [h.keepsFile f p q ret hload hret, hp]
  | loadCorrectionString stack memory =>
    obtain ⟨ret, hload, hret⟩ := hfailed hstep
    rw [h.keepsString stack memory p q ret hload hret, hp]
  | decodePacket frame packet =>
    have hq : (C.decodePacket p frame packet).val.parser = q := Option.some.inj hstep
    rw [← hq, h.rejects p frame packet hp, hp]

lemma Gated.run {p q : C.State} {calls : List (GateCall Pt)} (hrun : exec C.step calls p = some q)
    (hp : C.getCorrectionFile p = false) : C.getCorrectionFile q = false :=
  reaches_invariant (P := fun p => C.getCorrectionFile p = false) (fun _ _ _ _ hp hstep => h.step hstep hp)
    (reaches_of_exec hrun) hp

lemma Gated.neverDecodes_iff [Inhabited Pt] (memory : C.State) :
    C.NeverDecodes memory ↔ clears = true ∨ C.getCorrectionFile memory = false := by
  have hclosed : clears = true ∨ C.getCorrectionFile memory = false ↔
      C.getCorrectionFile (C.construct memory) = false := by
    rw [h.constructs]
    cases clears <;> simp
  rw [hclosed]
  constructor
  · intro hnever
    by_contra hopen
    obtain ⟨packet, hret⟩ := h.accepts (C.construct memory) default (Bool.eq_true_of_not_eq_false hopen)
    rw [hnever [] (C.construct memory) rfl default packet] at hret
    exact absurd hret (by decide : ¬(-1 : ℤ) = 0)
  · intro hconstruct calls p hrun frame packet
    exact h.rejects p frame packet (h.run hrun hconstruct)

end Run

end ParserClass

section Laws

variable {σ : Type} {f : CorrectionFile} {p q : σ} {ret : ℤ}

lemma loadFile_keeps {loadCorrectionString : LoadMemory → List UInt8 → σ → Option (σ × ℤ)} {flag : σ → Bool}
    (hstring : ∀ stack memory p q ret, loadCorrectionString stack memory p = some (q, ret) → ret ≠ 0 →
      flag q = flag p) (hload : loadFile loadCorrectionString f p = some (q, ret)) (hret : ret ≠ 0) :
    flag q = flag p := by
  rw [loadFile] at hload
  cases hcontents : f.contents with
  | none =>
    rw [hcontents] at hload
    rw [(Prod.mk.inj (Option.some.inj hload)).1]
  | some bytes =>
    rw [hcontents] at hload
    exact hstring _ _ _ _ _ hload hret

lemma keeps_of_some (flag : σ → Bool) {loaded : σ × ℤ} (hkeeps : loaded.2 ≠ 0 → flag loaded.1 = flag p)
    (hload : some loaded = some (q, ret)) (hret : ret ≠ 0) : flag q = flag p := by
  obtain rfl := Option.some.inj hload
  exact hkeeps hret

lemma GeneralParser.loadCorrectionString_ret {stack : LoadMemory} {memory : List UInt8} {p q : GeneralParser}
    (h : p.loadCorrectionString stack memory = some (q, ret)) : ret = 0 := by
  simp only [GeneralParser.loadCorrectionString, Option.bind_eq_bind, Option.bind_eq_some_iff, Option.pure_def,
    Option.some_inj, Prod.mk.injEq] at h
  obtain ⟨text, -, loaded, hloaded, -, rfl⟩ := h
  obtain ⟨lines, -, rfl⟩ := Option.map_eq_some_iff.mp hloaded
  rfl

lemma inheritedLoad_ret {toGeneralParser : σ → GeneralParser} {withGeneralParser : σ → GeneralParser → σ}
    {stack : LoadMemory} {memory : List UInt8}
    (h : inheritedLoad toGeneralParser withGeneralParser stack memory p = some (q, ret)) : ret = 0 := by
  obtain ⟨loaded, hloaded, hq⟩ := Option.map_eq_some_iff.mp h
  rw [← (Prod.mk.inj hq).2]
  exact GeneralParser.loadCorrectionString_ret hloaded

lemma EtParser.loadCorrectionString_ret {load : CorrectionData → EtParser ETCorrections →
      Option (EtParser ETCorrections × ℤ)} {stack : LoadMemory} {memory : List UInt8} {p q : EtParser ETCorrections}
    (h : p.loadCorrectionString load stack memory = some (q, ret)) : ret = 0 := by
  simp only [EtParser.loadCorrectionString, Option.bind_eq_bind, Option.bind_eq_some_iff] at h
  obtain ⟨⟨r, ret'⟩, -, h⟩ := h
  dsimp only at h
  split_ifs at h with hret'
  · exact (Prod.mk.inj (Option.some.inj h)).2.symm
  · obtain ⟨text, -, h⟩ := Option.bind_eq_some_iff.mp h
    obtain ⟨lines, -, hloaded⟩ := Option.map_eq_some_iff.mp h
    exact (Prod.mk.inj hloaded).2.symm

end Laws

section Classes

variable (env : Environment) {Pt : Type}

lemma delimited_empty : Delimited env (UdpPacket.ofBytes [0xEE, 0xFF]) := ⟨rfl, rfl⟩

lemma gated_inheriting {σ : Type} {construct : σ → σ} {toGeneralParser : σ → GeneralParser}
    {withGeneralParser : σ → GeneralParser → σ}
    {decodePacket : σ → LidarDecodedFrame Pt → UdpPacket → Logged DecodeEvent (Decoded σ Pt)}
    (hconstruct : ∀ memory, (toGeneralParser (construct memory)).getCorrectionFile =
      (toGeneralParser memory).getCorrectionFile)
    (hrejects : ∀ p frame packet, (toGeneralParser p).getCorrectionFile = false →
      (decodePacket p frame packet).val = ⟨-1, p, frame⟩)
    (haccepts : ∀ p frame, (toGeneralParser p).getCorrectionFile = true →
      ∃ packet, (decodePacket p frame packet).val.ret = 0) :
    (inheritingClass Pt construct toGeneralParser withGeneralParser decodePacket).Gated false := by
  have hstring : ∀ stack memory p q ret, inheritedLoad toGeneralParser withGeneralParser stack memory p =
      some (q, ret) → ret ≠ 0 → (toGeneralParser q).getCorrectionFile = (toGeneralParser p).getCorrectionFile :=
    fun _ _ _ _ _ hload hne => absurd (inheritedLoad_ret hload) hne
  constructor
  case constructs => exact fun memory => (hconstruct memory).trans (Bool.true_and _).symm
  case rejects => exact hrejects
  case accepts => exact haccepts
  case keepsFile => exact fun _ _ _ _ => loadFile_keeps hstring
  case keepsString => exact hstring

lemma gated_general {decodePacket : GeneralParser → LidarDecodedFrame Pt → UdpPacket →
      Logged DecodeEvent (Decoded GeneralParser Pt)}
    (hrejects : ∀ p frame packet, p.getCorrectionFile = false →
      (decodePacket p frame packet).val = ⟨-1, p, frame⟩)
    (haccepts : ∀ p frame, p.getCorrectionFile = true → ∃ packet, (decodePacket p frame packet).val.ret = 0) :
    (generalClass Pt decodePacket).Gated false :=
  gated_inheriting (fun _ => rfl) hrejects haccepts

lemma gated_et {Corrections : Type} {constructCorrections : Corrections → Corrections}
    {loadCorrectionFile : CorrectionFile → EtParser Corrections → Option (EtParser Corrections × ℤ)}
    {loadCorrectionString : LoadMemory → List UInt8 → EtParser Corrections → Option (EtParser Corrections × ℤ)}
    {decodePacket : EtParser Corrections → LidarDecodedFrame Pt → UdpPacket →
      Logged DecodeEvent (Decoded (EtParser Corrections) Pt)}
    (hret : ∀ p frame packet, (decodePacket p frame packet).val.ret = 0 ↔
      p.getCorrectionFile = true ∧ Delimited env packet)
    (hrejects : ∀ p frame packet, p.getCorrectionFile = false →
      (decodePacket p frame packet).val = ⟨-1, p, frame⟩)
    (hfile : ∀ f p q ret, loadCorrectionFile f p = some (q, ret) → ret ≠ 0 →
      q.getCorrectionFile = p.getCorrectionFile)
    (hstring : ∀ stack memory p q ret, loadCorrectionString stack memory p = some (q, ret) → ret ≠ 0 →
      q.getCorrectionFile = p.getCorrectionFile) :
    (etClass Pt constructCorrections loadCorrectionFile loadCorrectionString decodePacket).Gated true where
  constructs _ := rfl
  rejects := hrejects
  accepts p frame hp := ⟨_, (hret p frame _).mpr ⟨hp, delimited_empty env⟩⟩
  keepsFile := hfile
  keepsString := hstring

/-- The 2.5 and 2.6 parsers take a text that is not binary for a table of angles, and no load of a string fails. -/
lemma gated_etLoaded {constructCorrections : ETCorrections → ETCorrections}
    {load : CorrectionData → EtParser ETCorrections → Option (EtParser ETCorrections × ℤ)}
    {decodePacket : EtParser ETCorrections → LidarDecodedFrame Pt → UdpPacket →
      Logged DecodeEvent (Decoded (EtParser ETCorrections) Pt)}
    (hret : ∀ p frame packet, (decodePacket p frame packet).val.ret = 0 ↔
      p.getCorrectionFile = true ∧ Delimited env packet)
    (hrejects : ∀ p frame packet, p.getCorrectionFile = false →
      (decodePacket p frame packet).val = ⟨-1, p, frame⟩) :
    (etClass Pt constructCorrections (loadFile (EtParser.loadCorrectionString load))
      (EtParser.loadCorrectionString load) decodePacket).Gated true := by
  have hstring : ∀ stack memory p q ret, EtParser.loadCorrectionString load stack memory p = some (q, ret) →
      ret ≠ 0 → q.getCorrectionFile = p.getCorrectionFile :=
    fun _ _ _ _ _ hload hne => absurd (EtParser.loadCorrectionString_ret hload) hne
  exact gated_et env hret hrejects (fun _ _ _ _ => loadFile_keeps hstring) hstring

end Classes

section Loaders

variable {data : CorrectionData}

lemma Udp24Parser.keeps_of_failed {p : EtParser ETCorrectionsV4} (h : (loadCorrectionString data p).2 ≠ 0) :
    (loadCorrectionString data p).1.getCorrectionFile = p.getCorrectionFile := by
  rw [loadCorrectionString] at h ⊢
  dsimp only at h ⊢
  split_ifs at h ⊢ with hdelimited hversion hrefused
  · rfl
  · exact absurd rfl h
  · rfl
  · rfl

lemma Udp24Parser.csv_keeps (contents : Option (List Char)) (p : EtParser ETCorrectionsV4) :
    (loadCorrectionStringCsv contents p).1.getCorrectionFile = p.getCorrectionFile := by
  cases contents with
  | none => rfl
  | some text =>
    rw [loadCorrectionStringCsv]
    cases (getlines '\n' text).tail.mapM ETCorrectionsV4.readRow <;> rfl

lemma Udp24Parser.file_keeps_of_failed {f : CorrectionFile} {p : EtParser ETCorrectionsV4}
    (h : (loadCorrectionFile f p).2 ≠ 0) :
    (loadCorrectionFile f p).1.getCorrectionFile = p.getCorrectionFile := by
  rw [loadCorrectionFile] at h ⊢
  split_ifs at h ⊢ with hshort hbin hcsv
  · rfl
  · cases hcontents : f.contents with
    | none => rfl
    | some bytes =>
      rw [hcontents] at h
      dsimp only at h ⊢
      split_ifs at h ⊢ with hret
      · exact absurd rfl h
      · exact keeps_of_failed hret
  · dsimp only at h ⊢
    split_ifs at h ⊢ with hret
    · exact absurd rfl h
    · exact csv_keeps _ p
  · rfl

lemma Udp43Parser.keeps_of_failed {p : Udp43Parser} (h : (p.loadCorrectionString data).2 ≠ 0) :
    (p.loadCorrectionString data).1.getCorrectionFile = p.getCorrectionFile := by
  obtain ⟨-, heq⟩ | ⟨-, -, heq⟩ | ⟨-, -, heq⟩ := p.loadCorrectionString_cases data
  · rw [heq]
  · rw [heq]
  · exact absurd (congrArg Prod.snd heq) h

lemma Udp47Parser.keeps_of_failed {p : Udp47Parser} (h : (p.loadCorrectionString data).2 ≠ 0) :
    (p.loadCorrectionString data).1.getCorrectionFile = p.getCorrectionFile := by
  obtain ⟨-, heq⟩ | ⟨-, -, heq⟩ | ⟨-, -, heq⟩ := p.loadCorrectionString_cases data
  · rw [heq]
  · rw [heq]
  · exact absurd (congrArg Prod.snd heq) h

lemma Udp72Parser.dat_of_failed {p : Udp72Parser} (h : (p.loadCorrectionDatData data).2 ≠ 0) :
    (p.loadCorrectionDatData data).1 = p := by
  rw [loadCorrectionDatData] at h ⊢
  dsimp only at h ⊢
  split_ifs at h ⊢ with hdelimited h0 h1
  · exact absurd rfl h
  · exact absurd rfl h
  · rfl
  · rfl

lemma Udp72Parser.csv_keeps_of_failed {stack : LoadMemory} {text : List Char} {p : Udp72Parser}
    (h : (p.loadCorrectionCsvData stack text).2 ≠ 0) :
    (p.loadCorrectionCsvData stack text).1.getCorrectionFile = p.getCorrectionFile := by
  rw [loadCorrectionCsvData] at h ⊢
  split at h
  · exact absurd rfl h
  · rfl

lemma Udp72Parser.keeps_of_failed {stack : LoadMemory} {memory : List UInt8} {p q : Udp72Parser} {ret : ℤ}
    (hload : p.loadCorrectionString stack memory = some (q, ret)) (hret : ret ≠ 0) :
    q.getCorrectionFile = p.getCorrectionFile := by
  rw [loadCorrectionString] at hload
  dsimp only at hload
  split_ifs at hload with hdat
  · exact absurd (Prod.mk.inj (Option.some.inj hload)).2.symm hret
  · obtain ⟨text, -, htext⟩ := Option.map_eq_some_iff.mp hload
    have hfailed : ((p.loadCorrectionDatData (memoryAt memory)).1.loadCorrectionCsvData stack text).2 ≠ 0 := by
      rw [htext]
      exact hret
    have hkeeps := csv_keeps_of_failed hfailed
    rw [htext, dat_of_failed hdat] at hkeeps
    exact hkeeps

end Loaders

/-- The parsers that have a flag of their own, which their constructor clears. -/
def ParserType.clearsFlag : ParserType → Bool
  | .udp24 | .udp25 | .udp26 | .udp43 | .udp47 => true
  | .udpP40 | .udpP64 | .udp14 | .udp31 | .udp32 | .udp61 | .udp72 => false

section Gates

variable (env : Environment) (Pt : Type)

lemma gated_udp43 : (udp43Class env Pt).Gated true := by
  have hstring : ∀ (stack : LoadMemory) memory p q ret,
      some (Udp43Parser.loadCorrectionString (memoryAt memory) p) = some (q, ret) → ret ≠ 0 →
        q.getCorrectionFile = p.getCorrectionFile :=
    fun _ _ _ _ _ => keeps_of_some (fun p : Udp43Parser => p.getCorrectionFile) Udp43Parser.keeps_of_failed
  constructor
  case constructs => exact fun _ => rfl
  case rejects => exact fun _ _ _ => rejected_val
  case accepts =>
    intro p frame hp
    have hpacket : ¬Udp43Parser.EndsFrame (UdpPacket.ofBytes [0xEE, 0xFF]) p :=
      fun h => absurd h.2.1 (by decide)
    exact ⟨_, (Udp43Parser.decodePacket_ret hpacket).mpr ⟨hp, delimited_empty env⟩⟩
  case keepsFile => exact fun _ _ _ _ => loadFile_keeps hstring
  case keepsString => exact hstring

lemma gated_udp47 : (udp47Class env Pt).Gated true := by
  have hstring : ∀ (stack : LoadMemory) memory p q ret,
      some (Udp47Parser.loadCorrectionString (memoryAt memory) p) = some (q, ret) → ret ≠ 0 →
        q.getCorrectionFile = p.getCorrectionFile :=
    fun _ _ _ _ _ => keeps_of_some (fun p : Udp47Parser => p.getCorrectionFile) Udp47Parser.keeps_of_failed
  constructor
  case constructs => exact fun _ => rfl
  case rejects => exact fun _ _ _ => rejected_val
  case accepts => exact fun _ _ hp => ⟨_, (afterTests_ret rfl).mpr ⟨hp, delimited_empty env⟩⟩
  case keepsFile => exact fun _ _ _ _ => loadFile_keeps hstring
  case keepsString => exact hstring

lemma gated_udp72 : (udp72Class env Pt).Gated false where
  constructs _ := (Bool.true_and _).symm
  rejects _ _ _ := rejected_val
  accepts _ _ hp := ⟨_, Udp72Parser.decodePacket_ret.mpr ⟨hp, delimited_empty env⟩⟩
  keepsFile _ _ _ _ := loadFile_keeps fun _ _ _ _ _ => Udp72Parser.keeps_of_failed
  keepsString _ _ _ _ _ := Udp72Parser.keeps_of_failed

lemma gated (parserType : ParserType) : (parserClass env Pt parserType).Gated parserType.clearsFlag := by
  cases parserType with
  | udpP40 =>
    exact gated_general (fun _ _ _ => rejected_val)
      fun _ _ hp => ⟨UdpPacket.ofBytes [0xFF, 0xEE], UdpP40Parser.decodePacket_ret.mpr ⟨hp, rfl, rfl⟩⟩
  | udpP64 =>
    exact gated_general (fun _ _ _ => rejected_val)
      fun _ _ hp => ⟨_, UdpP64Parser.decodePacket_ret.mpr ⟨hp, delimited_empty env⟩⟩
  | udp14 =>
    exact gated_inheriting (fun _ => rfl) (fun _ _ _ => rejected_val)
      fun _ _ hp => ⟨_, Udp14Parser.decodePacket_ret.mpr ⟨hp, delimited_empty env⟩⟩
  | udp24 =>
    exact gated_et env (fun _ _ _ => EtParser.guarded_ret rfl) (fun _ _ _ => rejected_val)
      (fun _ _ _ _ => keeps_of_some (fun p : EtParser ETCorrectionsV4 => p.getCorrectionFile)
        Udp24Parser.file_keeps_of_failed)
      (fun _ _ _ _ _ => keeps_of_some (fun p : EtParser ETCorrectionsV4 => p.getCorrectionFile)
        Udp24Parser.keeps_of_failed)
  | udp25 => exact gated_etLoaded env (fun _ _ _ => Udp25Parser.decodePacket_ret) fun _ _ _ => rejected_val
  | udp26 => exact gated_etLoaded env (fun _ _ _ => Udp26Parser.decodePacket_ret) fun _ _ _ => rejected_val
  | udp31 =>
    exact gated_general (fun _ _ _ => rejected_val)
      fun _ _ hp => ⟨_, Udp31Parser.decodePacket_ret.mpr ⟨hp, delimited_empty env⟩⟩
  | udp32 =>
    exact gated_inheriting (fun _ => rfl) (fun _ _ _ => rejected_val)
      fun _ _ hp => ⟨_, Udp32Parser.decodePacket_ret.mpr ⟨hp, delimited_empty env⟩⟩
  | udp43 => exact gated_udp43 env Pt
  | udp47 => exact gated_udp47 env Pt
  | udp61 =>
    exact gated_general (fun _ _ _ => rejected_val)
      fun _ _ hp => ⟨_, Udp61Parser.decodePacket_ret.mpr ⟨hp, delimited_empty env⟩⟩
  | udp72 => exact gated_udp72 env Pt

end Gates

/-- No packet is decoded before a calibration is loaded, where the constructor clears the flag or the memory happened
to be clear, and nowhere else. -/
theorem neverDecodes_iff_cleared (env : Environment) {Pt : Type} [Inhabited Pt] (parserType : ParserType)
    (memory : (parserClass env Pt parserType).State) :
    (parserClass env Pt parserType).NeverDecodes memory ↔
      parserType.clearsFlag = true ∨ (parserClass env Pt parserType).getCorrectionFile memory = false :=
  (gated env Pt parserType).neverDecodes_iff memory

/-- The parser of the XT lidars in memory whose byte at the flag is not zero. -/
theorem udp61_decodes_uncalibrated :
    ¬∀ (parserType : ParserType) (memory : (parserClass default LidarPointXYZICRT parserType).State),
      (parserClass default LidarPointXYZICRT parserType).NeverDecodes memory := by
  intro h
  let memory : GeneralParser := { (default : GeneralParser) with getCorrectionFile := true }
  have hnever : (parserClass default LidarPointXYZICRT .udp61).NeverDecodes memory := h .udp61 memory
  obtain hclears | hmemory := ((gated default LidarPointXYZICRT .udp61).neverDecodes_iff memory).mp hnever
  · exact absurd hclears (by decide)
  · exact absurd (show true = false from hmemory) (by decide)

end HesaiSdk.Parsing
