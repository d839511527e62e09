import HesaiSdk.UdpParser.Udp47Parser

/-! What a rejected calibration file leaves behind in the parsers of the AT128 and of the ATX. -/

namespace HesaiSdk.Parsing

open Library UdpProtocol

namespace Udp47Parser

/-- The channel number is a byte: only the division can be refused. -/
lemma refused_iff (data : CorrectionData) :
    (ATXCorrectionsHeader.read data).refused = true ↔ (ATXCorrectionsHeader.read data).angleDivision = 0 := by
  have hchannels : ¬atxLaserNum < (ATXCorrectionsHeader.read data).channelNumber := by
    have hbyte := (data 6).toNat_lt
    show ¬512 < (data 6).toNat
    omega
  rw [ATXCorrectionsHeader.refused, decide_eq_true_iff]
  exact or_iff_right hchannels

lemma storeHeader_eq_iff {p : Udp47Parser} {h : ATXCorrectionsHeader} :
    ({ p with corrections := p.corrections.storeHeader h } : Udp47Parser) = p ↔
      p.corrections.version = h.version ∧ p.corrections.angleDivision = h.angleDivision := by
  constructor
  · intro heq
    have hcorrections := congrArg Udp47Parser.corrections heq
    exact ⟨(congrArg ATXCorrections.version hcorrections).symm,
      (congrArg ATXCorrections.angleDivision hcorrections).symm⟩
  · rintro ⟨hversion, hdivision⟩
    rw [ATXCorrections.storeHeader, ← hversion, ← hdivision]

end Udp47Parser

lemma Udp43Parser.frameNumber_eq_iff {p : Udp43Parser} {n : ℕ} :
    ({ p with corrections := { p.corrections with frameNumber := n } } : Udp43Parser) = p ↔
      p.corrections.frameNumber = n := by
  constructor
  · intro heq
    exact (congrArg (fun q => PandarATCorrections.frameNumber (Udp43Parser.corrections q)) heq).symm
  · intro heq
    rw [← heq]

/-- A rejected file leaves the parser as it was exactly if it is rejected before its header is stored, or its header
is the one in force: the same version and a division that was 0 already, the same number of mirror fields. -/
theorem rejected_keeps_iff (data : CorrectionData) (p : Udp47Parser) (q : Udp43Parser) :
    ((p.loadCorrectionString data).2 = -1 → ((p.loadCorrectionString data).1 = p ↔
        ¬(data.isDelimited = true ∧ (ATXCorrectionsHeader.read data).known = true) ∨
          p.corrections.version = data.version ∧ p.corrections.angleDivision = 0)) ∧
      ((q.loadCorrectionString data).2 = -1 → ((q.loadCorrectionString data).1 = q ↔
        ¬(data.isDelimited = true ∧ data.version = 5) ∨
          q.corrections.frameNumber = (PandarATCorrectionsHeader.read data).frameNumber)) := by
  constructor
  · intro hret
    obtain ⟨hother, heq⟩ | ⟨hfile, hrefused, heq⟩ | ⟨-, -, heq⟩ := p.loadCorrectionString_cases data
    · rw [heq]
      exact iff_of_true rfl (Or.inl hother)
    · rw [heq, Udp47Parser.storeHeader_eq_iff, (Udp47Parser.refused_iff data).mp hrefused]
      exact ⟨Or.inr, fun h => h.resolve_left (not_not_intro hfile)⟩
    · rw [heq] at hret
      contradiction
  · intro hret
    obtain ⟨hother, heq⟩ | ⟨hfile, -, heq⟩ | ⟨-, -, heq⟩ := q.loadCorrectionString_cases data
    · rw [heq]
      exact iff_of_true rfl (Or.inl hother)
    · rw [heq, Udp43Parser.frameNumber_eq_iff]
      exact ⟨Or.inr, fun h => h.resolve_left (not_not_intro hfile)⟩
    · rw [heq] at hret
      contradiction

def atxFile (division : UInt8) : CorrectionData := fun o => [0xEE, 0xFF, 0, 1, 0, 0, 1, division].getD o 0

def atFile (frames : UInt8) : CorrectionData := fun o => [0xEE, 0xFF, 0, 5, 0, 0, frames].getD o 0

/-- Parsers that hold a good file. One with another header puts its header in force, and is without effect when it
comes again; one without the delimiter never has one. -/
theorem rejected_keeps_loaded :
    let p := ((default : Udp47Parser).loadCorrectionString (atxFile 1)).1
    let q := ((default : Udp43Parser).loadCorrectionString (atFile 3)).1
    let p' := (p.loadCorrectionString (atxFile 0)).1
    let q' := (q.loadCorrectionString (atFile 9)).1
    (p' ≠ p ∧ q' ≠ q) ∧
      ((p'.loadCorrectionString (atxFile 0)).1 = p' ∧ (q'.loadCorrectionString (atFile 9)).1 = q') ∧
      (p.loadCorrectionString fun _ => 0).1 = p ∧ (q.loadCorrectionString fun _ => 0).1 = q := by
  intro p q p' q'
  have hother : ¬CorrectionData.isDelimited (fun _ => 0) = true := by decide
  have hknown : (atxFile 0).isDelimited = true ∧ (ATXCorrectionsHeader.read (atxFile 0)).known = true := by
    decide +kernel
  have hfile : (atFile 9).isDelimited = true ∧ (atFile 9).version = 5 := by decide +kernel
  refine ⟨⟨fun hp => ?_, fun hq => ?_⟩, ⟨?_, ?_⟩, ?_, ?_⟩
  · obtain hnot | ⟨-, hdivision⟩ := ((rejected_keeps_iff (atxFile 0) p q).1 rfl).mp hp
    · exact hnot hknown
    · exact absurd hdivision (by decide +kernel)
  · obtain hnot | hframes := ((rejected_keeps_iff (atFile 9) p q).2 rfl).mp hq
    · exact hnot hfile
    · exact absurd hframes (by decide +kernel)
  · exact ((rejected_keeps_iff (atxFile 0) p' q').1 rfl).mpr (Or.inr ⟨rfl, rfl⟩)
  · exact ((rejected_keeps_iff (atFile 9) p' q').2 rfl).mpr (Or.inr rfl)
  · exact ((rejected_keeps_iff (fun _ => 0) p q).1 rfl).mpr (Or.inl fun h => hother h.1)
  · exact ((rejected_keeps_iff (fun _ => 0) p q).2 rfl).mpr (Or.inl fun h => hother h.1)

/-- After a good file, a division of 0 and nine mirror fields come into force. -/
theorem rejected_in_force :
    (¬∀ (data : CorrectionData) (p : Udp47Parser),
        (p.loadCorrectionString data).2 = -1 → (p.loadCorrectionString data).1 = p) ∧
      ¬∀ (data : CorrectionData) (p : Udp43Parser),
        (p.loadCorrectionString data).2 = -1 → (p.loadCorrectionString data).1 = p := by
  constructor
  · intro h
    have hstays := h (atxFile 0) ((default : Udp47Parser).loadCorrectionString (atxFile 1)).1 rfl
    have hdivision := congrArg (fun p => p.corrections.angleDivision) hstays
    exact absurd hdivision (by decide +kernel)
  · intro h
    have hstays := h (atFile 9) ((default : Udp43Parser).loadCorrectionString (atFile 3)).1 rfl
    have hframes := congrArg (fun p => p.corrections.frameNumber) hstays
    exact absurd hframes (by decide +kernel)

end HesaiSdk.Parsing
