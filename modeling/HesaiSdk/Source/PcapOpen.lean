import HesaiSdk.Source.PcapSource

/-! `PcapSource::Open` after any use of the object. -/

namespace HesaiSdk.Source

open Library.ByteLayout Lidar

/-- The contents of the files that can be opened. -/
abbrev Files := String → Option (List UInt8)

structure PathSource where
  source : PcapSource
  pcapPath : String

inductive SourceCall where
  | setPcapPath (path : String)
  | openPath (files : Files)
  | next (packet : UdpPacket)
  | close

namespace PathSource

/-- The constructor leaves the headers and the payload as the memory had them. -/
def construct (memory : PcapSource) (path : String) : PathSource where
  source := { memory with
    isOpened := false
    fileData := []
    fpos := 0
    pcapUdpHeader := ⟨0, 0, 0, 0⟩
    tcpCallback := false
    isPcapEnd := false }
  pcapPath := path

def openPath (s : PathSource) (files : Files) : Bool × PathSource :=
  let opened := s.source.openFile (files s.pcapPath)
  (opened.1, { s with source := opened.2 })

def call (s : PathSource) : SourceCall → PathSource
  | .setPcapPath path => { s with pcapPath := path }
  | .openPath files => (s.openPath files).2
  | .next packet => { s with source := (s.source.next packet).source }
  | .close => { s with source := s.source.close }

/-- What a history leaves of it: the path, and the header that was read last. -/
def kept (s : PathSource) : String × PcapHeader := (s.pcapPath, s.source.pcapHeader)

def headerOf (data : List UInt8) : PcapHeader :=
  PcapHeader.readAt (overlay (data.take sizeofPcapHeader) fun _ => 0) 0

def keep : String × PcapHeader → SourceCall → String × PcapHeader
  | (_, header), .setPcapPath path => (path, header)
  | (path, header), .openPath files =>
    match files path with
    | none => (path, header)
    | some data => (path, if data.length < sizeofPcapHeader then header else headerOf data)
  | last, .next _ => last
  | last, .close => last

/-- The answer is that of the file at the path, and a source that is open stands behind the header. -/
def DecidedByFile (s : PathSource) (files : Files) : Prop :=
  ((s.openPath files).1 = true ↔ ∃ data, files s.pcapPath = some data ∧ sizeofPcapHeader ≤ data.length ∧
    (headerOf data).magicNumber = pcapMagicNumber) ∧
    ((s.openPath files).1 = true → (s.openPath files).2.source.fpos = sizeofPcapHeader)

end PathSource

namespace PcapSource

variable {s : PcapSource} {packet : UdpPacket}

lemma ethernet_pcapHeader : (s.ethernet packet).source.pcapHeader = s.pcapHeader := by
  obtain ⟨-, u, hsource⟩ := ethernet_walked packet s
  rw [hsource]

lemma read_pcapHeader {n : ℕ} {bytes : List UInt8} {t : PcapSource} (h : s.read n = some (bytes, t)) :
    t.pcapHeader = s.pcapHeader := by
  rw [read] at h
  split_ifs at h
  obtain ⟨-, rfl⟩ := Prod.mk.inj (Option.some.inj h)
  rfl

lemma readFrame_pcapHeader : (s.readFrame packet).source.pcapHeader = s.pcapHeader := by
  rw [readFrame]
  split_ifs
  · split
    · rfl
    · rename_i t h
      obtain ⟨⟨bytes, u⟩, hread, rfl⟩ := Option.map_eq_some_iff.mp h
      have hkept : u.pcapHeader = s.pcapHeader := read_pcapHeader hread
      exact ethernet_pcapHeader.trans hkept
  · split
    · rfl
    · rename_i t h
      rw [move] at h
      split_ifs at h
      obtain rfl := Option.some.inj h
      rfl

lemma next_pcapHeader : (s.next packet).source.pcapHeader = s.pcapHeader := by
  rw [next]
  split_ifs
  · rfl
  · split
    · rfl
    · rename_i t h
      obtain ⟨⟨bytes, u⟩, hread, rfl⟩ := Option.map_eq_some_iff.mp h
      have hkept : u.pcapHeader = s.pcapHeader := read_pcapHeader hread
      exact readFrame_pcapHeader.trans hkept

lemma openFile_short {data : List UInt8} (h : data.length < sizeofPcapHeader) : s.openFile (some data) =
    (s.pcapHeader.magicNumber == pcapMagicNumber, { s.close with isOpened := true, fileData := data }) := by
  have hread : ({ s.close with isOpened := true, fileData := data } : PcapSource).read sizeofPcapHeader = none :=
    if_pos (h.trans_eq (Nat.zero_add _).symm)
  simp only [openFile, hread]
  rfl

lemma openFile_whole {data : List UInt8} (h : ¬data.length < sizeofPcapHeader) : s.openFile (some data) =
    ((PathSource.headerOf data).magicNumber == pcapMagicNumber,
      { s.close with
        isOpened := true
        fileData := data
        fpos := sizeofPcapHeader
        pcapHeader := PathSource.headerOf data }) := by
  have hread : ({ s.close with isOpened := true, fileData := data } : PcapSource).read sizeofPcapHeader =
      some (data.take sizeofPcapHeader,
        { s.close with isOpened := true, fileData := data, fpos := sizeofPcapHeader }) :=
    if_neg fun hlt => h (hlt.trans_eq (Nat.zero_add _))
  simp only [openFile, hread]
  rfl

end PcapSource

namespace PathSource

variable {s : PathSource} {files : Files}

lemma kept_call (c : SourceCall) : (s.call c).kept = keep s.kept c := by
  cases c with
  | setPcapPath path => rfl
  | openPath files =>
    have hopen : (s.call (.openPath files)).kept =
        (s.pcapPath, (s.source.openFile (files s.pcapPath)).2.pcapHeader) := rfl
    rw [hopen, kept, keep]
    cases files s.pcapPath with
    | none => rfl
    | some data =>
      by_cases h : data.length < sizeofPcapHeader
      · rw [PcapSource.openFile_short h]
        exact congrArg (Prod.mk _) (if_pos h).symm
      · rw [PcapSource.openFile_whole h]
        exact congrArg (Prod.mk _) (if_neg h).symm
  | next packet => exact congrArg (Prod.mk _) PcapSource.next_pcapHeader
  | close => rfl

lemma kept_foldl (history : List SourceCall) : (history.foldl call s).kept = history.foldl keep s.kept := by
  induction history generalizing s with
  | nil => rfl
  | cons c history ih => rw [List.foldl_cons, List.foldl_cons, ih, kept_call]

lemma decidedByFile_iff : s.DecidedByFile files ↔
    ¬((∃ data, files s.pcapPath = some data ∧ data.length < sizeofPcapHeader) ∧
      s.source.pcapHeader.magicNumber = pcapMagicNumber) := by
  have hopen : s.openPath files = ((s.source.openFile (files s.pcapPath)).1,
      ⟨(s.source.openFile (files s.pcapPath)).2, s.pcapPath⟩) := rfl
  rw [DecidedByFile, hopen]
  cases files s.pcapPath with
  | none =>
    refine iff_of_true ⟨iff_of_false Bool.false_ne_true ?_, fun h => absurd h Bool.false_ne_true⟩ ?_
    · rintro ⟨data, hdata, -⟩
      exact absurd hdata.symm (Option.some_ne_none data)
    · rintro ⟨⟨data, hdata, -⟩, -⟩
      exact absurd hdata.symm (Option.some_ne_none data)
  | some data =>
    by_cases h : data.length < sizeofPcapHeader
    · have hnone : ¬∃ data', some data = some data' ∧ sizeofPcapHeader ≤ data'.length ∧
          (headerOf data').magicNumber = pcapMagicNumber := by
        rintro ⟨data', hdata, hlen, -⟩
        obtain rfl := Option.some.inj hdata
        exact absurd hlen (Nat.not_le.mpr h)
      rw [PcapSource.openFile_short h]
      constructor
      · rintro ⟨hopened, -⟩ ⟨-, hmagic⟩
        exact hnone (hopened.mp (beq_iff_eq.mpr hmagic))
      · intro hmagic
        have hfalse : ¬(s.source.pcapHeader.magicNumber == pcapMagicNumber) = true := fun heq =>
          hmagic ⟨⟨data, rfl, h⟩, beq_iff_eq.mp heq⟩
        exact ⟨iff_of_false hfalse hnone, fun heq => absurd heq hfalse⟩
    · rw [PcapSource.openFile_whole h]
      refine iff_of_true ⟨⟨fun heq => ⟨data, rfl, Nat.le_of_not_lt h, beq_iff_eq.mp heq⟩, ?_⟩, fun _ => rfl⟩ ?_
      · rintro ⟨data', hdata, -, hmagic⟩
        obtain rfl := Option.some.inj hdata
        exact beq_iff_eq.mpr hmagic
      · rintro ⟨⟨data', hdata, hshort⟩, -⟩
        obtain rfl := Option.some.inj hdata
        exact h hshort

section Histories

variable (memory : PcapSource) (path : String) (history : List SourceCall) (files : Files)

def after : PathSource := history.foldl call (construct memory path)

lemma kept_after : (after memory path history).kept = history.foldl keep (path, memory.pcapHeader) :=
  kept_foldl history

/-- After any history the file alone decides, but for one too short for a header while the header kept
from before has the magic number. -/
theorem after_decidedByFile_iff : (after memory path history).DecidedByFile files ↔
    ¬((∃ data, files (history.foldl keep (path, memory.pcapHeader)).1 = some data ∧
        data.length < sizeofPcapHeader) ∧
      (history.foldl keep (path, memory.pcapHeader)).2.magicNumber = pcapMagicNumber) := by
  rw [← kept_after]
  exact decidedByFile_iff

/-- A recording is opened, and then a file that is empty. -/
theorem not_decidedByFile_empty : ¬∀ memory path history files, (after memory path history).DecidedByFile files := by
  intro h
  let files : Files := fun path => some (if path = "recorded.pcap" then PcapHeader.recorded.bytes else [])
  let history : List SourceCall := [.openPath files, .setPcapPath "empty.pcap"]
  have hdecided := h default "recorded.pcap" history files
  have hpos : ((after default "recorded.pcap" history).openPath files).1 = true ∧
      ((after default "recorded.pcap" history).openPath files).2.source.fpos = 0 := by
    decide +kernel
  exact absurd (hpos.2.symm.trans (hdecided.2 hpos.1)) (by decide)

end Histories

end PathSource

end HesaiSdk.Source
