import HesaiSdk.Library.TextStream
import HesaiSdk.UdpParser.Udp32Parser

/-! The channel configuration of the QT128, and what decoding looks up with it. -/

namespace HesaiSdk.Parsing

open Library Library.TextStream Lidar UdpProtocol UdpProtocol.V32

def HS_LIDAR_QT128_LASER_NUM : ℕ := 128

/-- The table has a list for each loop, with an entry for each laser. -/
structure PandarQTChannelConfig where
  majorVersion : UInt8
  minVersion : UInt8
  laserNum : UInt8
  blockNum : UInt8
  channelConfigTable : List (List ℤ)
  hashValue : List Char
  isChannelConfigObtained : Bool
deriving Inhabited, DecidableEq

namespace PandarQTChannelConfig

def resize {α : Type} [Inhabited α] (n : ℕ) (v : List α) : List α := v.take n ++ List.replicate (n - v.length) default

def resizeTable (loopNum laserNum : ℕ) (table : List (List ℤ)) : List (List ℤ) :=
  (resize loopNum table).map (resize laserNum)

def storeLine (i : ℕ) (fields : List ℤ) (table : List (List ℤ)) : List (List ℤ) :=
  table.mapIdx fun j column => column.set i (fields.getD j 0)

/-- The loop over the lasers; a line is only looked at if there is a loop. -/
def storeLines (loopNum : ℕ) : ℕ → List (List Char) → List (List ℤ) → Option (List (List ℤ) × ℤ)
  | _, [], table => some (table, 0)
  | i, line :: lines, table =>
    let channelLine := getlines ',' line
    if 0 < loopNum ∧ channelLine.length ≠ loopNum then some (table, -1)
    else do
      let fields ← (channelLine.take loopNum).mapM stoi
      storeLines loopNum (i + 1) lines (storeLine i fields table)

/-- `LoadChannelConfigString` on the characters before the terminating zero; none where a field is missing or
`stoi` throws. -/
def loadChannelConfigString (text : List Char) (c : PandarQTChannelConfig) : Option (PandarQTChannelConfig × ℤ) := do
  let line (n : ℕ) : List (List Char) := getlines ',' (nthGetline '\n' text n)
  let cleared := { c with isChannelConfigObtained := false }
  let delimiter ← (line 0)[0]?
  if delimiter = ['E', 'E', 'F', 'F'] ∨ delimiter = ['e', 'e', 'f', 'f'] then
    let majorVersion ← (line 0)[1]?.bind stoi
    let minVersion ← (line 0)[2]?.bind stoi
    let laserNum ← (line 1)[1]?.bind stoi
    let blockNum ← (line 1)[3]?.bind stoi
    let numbered := { cleared with
      majorVersion := UInt8.ofInt majorVersion
      minVersion := UInt8.ofInt minVersion
      laserNum := UInt8.ofInt laserNum
      blockNum := UInt8.ofInt blockNum }
    if numbered.laserNum ≤ 0 ∨ numbered.blockNum ≤ 0 then some (numbered, -1)
    else
      let lasers := numbered.laserNum.toNat
      let loopNum := (line 2).length
      let stored ← storeLines loopNum 0 ((List.range lasers).map fun i => nthGetline '\n' text (3 + i))
        (resizeTable loopNum lasers c.channelConfigTable)
      if stored.2 = 0 then
        some ({ numbered with
          channelConfigTable := stored.1
          hashValue := nthGetline '\n' text (3 + lasers)
          isChannelConfigObtained := true }, 0)
      else some ({ numbered with channelConfigTable := stored.1 }, stored.2)
  else some (cleared, -1)

structure Filled (c : PandarQTChannelConfig) : Prop where
  obtained : c.isChannelConfigObtained = true
  laserNum_pos : 0 < c.laserNum.toNat
  length_row : ∀ row ∈ c.channelConfigTable, row.length = c.laserNum.toNat

variable {c c' : PandarQTChannelConfig} {text : List Char} {table table' : List (List ℤ)} {lasers : ℕ}

lemma length_resize {α : Type} [Inhabited α] (n : ℕ) (v : List α) : (resize n v).length = n := by
  rw [resize, List.length_append, List.length_take, List.length_replicate]
  omega

lemma resizeTable_length_row (loopNum lasers : ℕ) (table : List (List ℤ)) :
    ∀ row ∈ resizeTable loopNum lasers table, row.length = lasers := by
  intro row hrow
  obtain ⟨old, -, rfl⟩ := List.mem_map.mp hrow
  exact length_resize lasers old

lemma storeLine_length_row {i : ℕ} {fields : List ℤ} (h : ∀ row ∈ table, row.length = lasers) :
    ∀ row ∈ storeLine i fields table, row.length = lasers := by
  intro row hrow
  obtain ⟨j, hj, rfl⟩ := List.mem_mapIdx.mp hrow
  rw [List.length_set]
  exact h _ (List.getElem_mem hj)

lemma storeLines_length_row {loopNum i : ℕ} {lines : List (List Char)} {ret : ℤ}
    (h : ∀ row ∈ table, row.length = lasers) (hstore : storeLines loopNum i lines table = some (table', ret)) :
    ∀ row ∈ table', row.length = lasers := by
  induction lines generalizing i table with
  | nil =>
    cases hstore
    exact h
  | cons line lines ih =>
    rw [storeLines] at hstore
    split_ifs at hstore
    · cases hstore
      exact h
    · obtain ⟨fields, -, hrest⟩ := Option.bind_eq_some_iff.mp hstore
      exact ih (storeLine_length_row h) hrest

lemma filled_of_load (h : c.loadChannelConfigString text = some (c', 0)) : c'.Filled := by
  rw [loadChannelConfigString] at h
  obtain ⟨delimiter, -, h⟩ := Option.bind_eq_some_iff.mp h
  split_ifs at h
  · obtain ⟨majorVersion, -, h⟩ := Option.bind_eq_some_iff.mp h
    obtain ⟨minVersion, -, h⟩ := Option.bind_eq_some_iff.mp h
    obtain ⟨laserNum, -, h⟩ := Option.bind_eq_some_iff.mp h
    obtain ⟨blockNum, -, h⟩ := Option.bind_eq_some_iff.mp h
    dsimp only at h
    split_ifs at h with hnone
    · cases h
    · obtain ⟨⟨table, ret⟩, hstore, h⟩ := Option.bind_eq_some_iff.mp h
      dsimp only at h
      split_ifs at h with hret
      · cases h
        constructor
        case obtained => rfl
        case laserNum_pos => exact UInt8.lt_iff_toNat_lt.mp (UInt8.not_le.mp fun hle => hnone (Or.inl hle))
        case length_row => exact storeLines_length_row (resizeTable_length_row _ _ _) hstore
      · cases h
        exact absurd rfl hret
  · cases h

end PandarQTChannelConfig

/-- `m_vChannelConfigTable[loopIndex]`, `m_vChannelConfigTable[loopIndex][j]` and the call of
`GetFiretimesCorrection`. -/
inductive ChannelAccess where
  | configRow (loopIndex : ℕ)
  | configEntry (loopIndex j : ℕ)
  | firetime (loopIndex : ℕ) (laserId : ℤ)
deriving DecidableEq

def ChannelAccess.Inside (table : List (List ℤ)) : ChannelAccess → Prop
  | configRow loopIndex => loopIndex < table.length
  | configEntry loopIndex j => ∃ row, table[loopIndex]? = some row ∧ j < row.length
  | firetime _ laserId => 0 ≤ laserId ∧ laserId < HS_LIDAR_QT128_LASER_NUM

namespace Udp32Parser

section Access

variable (p : Udp32Parser) (h : BodyHeader)

def withChannelConfig (c : PandarQTChannelConfig) : Udp32Parser := { p with
  channelConfigTable := fun loopIndex j => (c.channelConfigTable.getD loopIndex []).getD j 0
  channelConfigSize := fun loopIndex => (c.channelConfigTable.getD loopIndex []).length
  isChannelConfigObtained := c.isChannelConfigObtained }

/-- The guard compares the number of the block with the length of the row. -/
def readLaserId (loopIndex i j : ℕ) : Logged ChannelAccess ℤ :=
  if hasSelfDefine h ∧ p.isChannelConfigObtained then do
    note (.configRow loopIndex)
    if i < p.channelConfigSize loopIndex then do
      note (.configEntry loopIndex j)
      pure (p.channelConfigTable loopIndex j - 1)
    else pure j
  else pure j

def readFireTime (motorSpeed : UInt16) (modeFlag returnMode : UInt8) (i j : ℕ) : Logged ChannelAccess (Option ℚ) := do
  let loopIndex := loopIndex modeFlag returnMode i
  let laserId ← p.readLaserId h loopIndex i j
  if p.getFiretimeFile then do
    note (.firetime loopIndex laserId)
    pure (some (p.getFiretimesCorrection laserId motorSpeed.toNat loopIndex))
  else pure none

variable {p h}

lemma readLaserId_val {loopIndex i j : ℕ} : (p.readLaserId h loopIndex i j).val = p.laserId h loopIndex i j := by
  rw [readLaserId, laserId]
  split_ifs <;> simp_all

end Access

section Bounds

variable (env : Environment) (packet : UdpPacket)

def modeFlagOf (h : BodyHeader) : UInt8 := (readU8 env packet (tailOffset h + 5)).val

def returnModeOf (h : BodyHeader) : UInt8 := (readU8 env packet (tailOffset h + 12)).val

/-- The accesses of `DecodePacket` to both tables, block by block. -/
def channelAccesses (p : Udp32Parser) : List ChannelAccess :=
  let h := (readHeader env packet).val
  let motorSpeed := (readU16 env packet (tailOffset h + 13)).val
  if p.getCorrectionFile = true ∧ Delimited env packet then
    (List.range h.blockNum.toNat).flatMap fun i => (List.range h.laserNum.toNat).flatMap fun j =>
      (p.readFireTime h motorSpeed (modeFlagOf env packet h) (returnModeOf env packet h) i j).log
  else []

/-- The file covers a packet: its lasers, the loops that its blocks ask for, and, if there are firetimes, those have
an entry for every laser that is looked up. -/
def Covers (c : PandarQTChannelConfig) (firetimes : Bool) (h : BodyHeader) (modeFlag returnMode : UInt8) : Prop :=
  h.laserNum.toNat ≤ c.laserNum.toNat ∧ ∀ i < h.blockNum.toNat,
    ∃ row, c.channelConfigTable[loopIndex modeFlag returnMode i]? = some row ∧ (firetimes = true →
      if i < c.laserNum.toNat then ∀ j < h.laserNum.toNat, 1 ≤ row.getD j 0 ∧ row.getD j 0 ≤ HS_LIDAR_QT128_LASER_NUM
      else h.laserNum.toNat ≤ HS_LIDAR_QT128_LASER_NUM)

variable {env packet} {p : Udp32Parser} {h : BodyHeader} {c : PandarQTChannelConfig}

lemma withChannelConfig_size {loopIndex : ℕ} {row : List ℤ} (hrow : c.channelConfigTable[loopIndex]? = some row) :
    (p.withChannelConfig c).channelConfigSize loopIndex = row.length ∧
      ∀ j, (p.withChannelConfig c).channelConfigTable loopIndex j = row.getD j 0 := by
  have hget : c.channelConfigTable.getD loopIndex [] = row := by
    rw [List.getD_eq_getElem?_getD, hrow]
    rfl
  exact ⟨congrArg List.length hget, fun j => congrArg (List.getD · j 0) hget⟩

lemma inside_readLaserId_iff (hc : c.Filled) (hself : hasSelfDefine h = true) {loopIndex i j : ℕ} :
    AllLog (ChannelAccess.Inside c.channelConfigTable) ((p.withChannelConfig c).readLaserId h loopIndex i j) ↔
      ∃ row, c.channelConfigTable[loopIndex]? = some row ∧ (i < c.laserNum.toNat → j < c.laserNum.toNat) := by
  rw [readLaserId, if_pos ⟨hself, hc.obtained⟩, allLog_bind, allLog_note, ChannelAccess.Inside]
  constructor
  · rintro ⟨hloop, hentry⟩
    have hrow := List.getElem?_eq_getElem hloop
    have hlength := hc.length_row _ (List.getElem_mem hloop)
    refine ⟨_, hrow, fun hi => ?_⟩
    rw [(withChannelConfig_size hrow).1, hlength, if_pos hi, allLog_bind, allLog_note] at hentry
    obtain ⟨row, hrow', hj⟩ := hentry.1
    obtain rfl := Option.some.inj (hrow.symm.trans hrow')
    exact hlength ▸ hj
  · rintro ⟨row, hrow, hj⟩
    obtain ⟨hloop, rfl⟩ := List.getElem?_eq_some_iff.mp hrow
    have hlength := hc.length_row _ (List.getElem_mem hloop)
    refine ⟨hloop, ?_⟩
    rw [(withChannelConfig_size hrow).1, hlength]
    split_ifs with hi
    · rw [allLog_bind, allLog_note]
      exact ⟨⟨_, hrow, hlength.symm ▸ hj hi⟩, allLog_pure _⟩
    · exact allLog_pure _

lemma laserId_of_row (hc : c.Filled) (hself : hasSelfDefine h = true) {loopIndex i j : ℕ} {row : List ℤ}
    (hrow : c.channelConfigTable[loopIndex]? = some row) :
    (p.withChannelConfig c).laserId h loopIndex i j = if i < c.laserNum.toNat then row.getD j 0 - 1 else j := by
  have hlength := hc.length_row row (List.mem_of_getElem? hrow)
  rw [laserId, (withChannelConfig_size hrow).1, (withChannelConfig_size hrow).2, hlength]
  simp only [hself, hc.obtained, withChannelConfig, true_and]

lemma inside_unit_iff (hc : c.Filled) (hself : hasSelfDefine h = true) {motorSpeed : UInt16}
    {modeFlag returnMode : UInt8} {i j : ℕ} :
    AllLog (ChannelAccess.Inside c.channelConfigTable)
        ((p.withChannelConfig c).readFireTime h motorSpeed modeFlag returnMode i j) ↔
      ∃ row, c.channelConfigTable[loopIndex modeFlag returnMode i]? = some row ∧
        (i < c.laserNum.toNat → j < c.laserNum.toNat) ∧ (p.getFiretimeFile = true →
          if i < c.laserNum.toNat then 1 ≤ row.getD j 0 ∧ row.getD j 0 ≤ HS_LIDAR_QT128_LASER_NUM
          else j < HS_LIDAR_QT128_LASER_NUM) := by
  have hfile : (p.withChannelConfig c).getFiretimeFile = p.getFiretimeFile := rfl
  have hfire {row : List ℤ} (hrow : c.channelConfigTable[loopIndex modeFlag returnMode i]? = some row) :
      AllLog (ChannelAccess.Inside c.channelConfigTable) (if p.getFiretimeFile then do
        note (.firetime (loopIndex modeFlag returnMode i)
          ((p.withChannelConfig c).laserId h (loopIndex modeFlag returnMode i) i j))
        pure (some ((p.withChannelConfig c).getFiretimesCorrection
          ((p.withChannelConfig c).laserId h (loopIndex modeFlag returnMode i) i j) motorSpeed.toNat
          (loopIndex modeFlag returnMode i)))
        else pure none) ↔ (p.getFiretimeFile = true →
          if i < c.laserNum.toNat then 1 ≤ row.getD j 0 ∧ row.getD j 0 ≤ HS_LIDAR_QT128_LASER_NUM
          else j < HS_LIDAR_QT128_LASER_NUM) := by
    rw [laserId_of_row hc hself hrow]
    by_cases hget : p.getFiretimeFile = true
    · rw [if_pos hget, allLog_bind, allLog_note, and_iff_left (allLog_pure _), forall_prop_of_true hget,
        ChannelAccess.Inside]
      split_ifs <;> omega
    · rw [if_neg hget]
      exact iff_of_true (allLog_pure _) fun hget' => absurd hget' hget
  rw [readFireTime, allLog_bind, readLaserId_val, inside_readLaserId_iff hc hself, hfile]
  constructor
  · rintro ⟨⟨row, hrow, hj⟩, hlog⟩
    exact ⟨row, hrow, hj, (hfire hrow).mp hlog⟩
  · rintro ⟨row, hrow, hj, hlog⟩
    exact ⟨⟨row, hrow, hj⟩, (hfire hrow).mpr hlog⟩

lemma inside_units_iff (hc : c.Filled) (hself : hasSelfDefine h = true) {motorSpeed : UInt16}
    {modeFlag returnMode : UInt8} (hblock : h.blockNum.toNat ≠ 0) (hlaser : h.laserNum.toNat ≠ 0) :
    (∀ i < h.blockNum.toNat, ∀ j < h.laserNum.toNat, AllLog (ChannelAccess.Inside c.channelConfigTable)
        ((p.withChannelConfig c).readFireTime h motorSpeed modeFlag returnMode i j)) ↔
      Covers c p.getFiretimeFile h modeFlag returnMode := by
  simp only [inside_unit_iff hc hself]
  constructor
  · intro hunits
    constructor
    · -- the first block is looked up in any row, which has an entry at least
      obtain ⟨row, -, hentry, -⟩ := hunits 0 (Nat.pos_of_ne_zero hblock) (h.laserNum.toNat - 1) (by omega)
      have hlast := hentry hc.laserNum_pos
      omega
    · intro i hi
      obtain ⟨row, hrow, -⟩ := hunits i hi 0 (Nat.pos_of_ne_zero hlaser)
      refine ⟨row, hrow, fun hget => ?_⟩
      have hentry (j : ℕ) (hj : j < h.laserNum.toNat) :
          if i < c.laserNum.toNat then 1 ≤ row.getD j 0 ∧ row.getD j 0 ≤ HS_LIDAR_QT128_LASER_NUM
          else j < HS_LIDAR_QT128_LASER_NUM := by
        obtain ⟨row', hrow', -, hfire⟩ := hunits i hi j hj
        obtain rfl := Option.some.inj (hrow.symm.trans hrow')
        exact hfire hget
      split_ifs at hentry ⊢ with hguard
      · exact hentry
      · have hlast := hentry (h.laserNum.toNat - 1) (by omega)
        omega
  · rintro ⟨hlasers, hblocks⟩ i hi j hj
    obtain ⟨row, hrow, hentry⟩ := hblocks i hi
    refine ⟨row, hrow, fun _ => hj.trans_le hlasers, fun hget => ?_⟩
    have hfire := hentry hget
    split_ifs at hfire ⊢
    · exact hfire j hj
    · exact hj.trans_le hfire

/-- For a text that is accepted, decoding stays inside of both tables exactly if the file covers the packet. -/
theorem channelAccesses_inside_iff (env : Environment) (packet : UdpPacket) (text : List Char)
    (c c' : PandarQTChannelConfig) (hload : c.loadChannelConfigString text = some (c', 0)) (p : Udp32Parser)
    (hself : hasSelfDefine (readHeader env packet).val = true) :
    let h := (readHeader env packet).val
    (∀ a ∈ channelAccesses env packet (p.withChannelConfig c'), a.Inside c'.channelConfigTable) ↔
      (p.getCorrectionFile = true ∧ Delimited env packet → h.blockNum.toNat ≠ 0 → h.laserNum.toNat ≠ 0 →
        Covers c' p.getFiretimeFile h (modeFlagOf env packet h) (returnModeOf env packet h)) := by
  intro h
  have hc := PandarQTChannelConfig.filled_of_load hload
  have hgate : (p.withChannelConfig c').getCorrectionFile = p.getCorrectionFile := rfl
  simp only [channelAccesses, hgate]
  by_cases haccepted : p.getCorrectionFile = true ∧ Delimited env packet
  · rw [if_pos haccepted, forall_prop_of_true haccepted]
    simp only [List.forall_mem_flatMap, List.mem_range]
    constructor
    · intro hinside hblock hlaser
      exact (inside_units_iff hc hself hblock hlaser).mp hinside
    · intro hcovers i hi j hj
      exact (inside_units_iff hc hself (Nat.ne_zero_of_lt hi) (Nat.ne_zero_of_lt hj)).mpr
        (hcovers (Nat.ne_zero_of_lt hi) (Nat.ne_zero_of_lt hj)) i hi j hj
  · rw [if_neg haccepted]
    exact iff_of_true (List.forall_mem_nil _) fun haccepted' => absurd haccepted' haccepted

end Bounds

section Inputs

def oneLaserText : List Char :=
  ['E', 'E', 'F', 'F', ',', '1', ',', '0', '\n', ',', '1', ',', ',', '1', '\n', '1', ',', '1', '\n', '1', ',', '1',
    '\n', '0']

def oneLaserConfig : PandarQTChannelConfig := ⟨1, 0, 1, 1, [[1], [1]], ['0'], true⟩

def selfDefinePacket (laserNum : UInt8) : UdpPacket :=
  UdpPacket.ofBytes [0xEE, 0xFF, 3, 2, 0, 0, laserNum, 1, 0, 4, 0, 0x40]

def firetimesParser : Udp32Parser := { (default : Udp32Parser) with
  getCorrectionFile := true
  getFiretimeFile := true }

lemma oneLaserText_accepted : (default : PandarQTChannelConfig).loadChannelConfigString oneLaserText =
    some (oneLaserConfig, 0) := by
  decide +kernel

/-- Two blocks of three lasers, the loops 0 and 1. -/
def twoLoopsText : List Char :=
  ['E', 'E', 'F', 'F', ',', '1', ',', '0', '\n', ',', '3', ',', ',', '2', '\n', '1', ',', '2', '\n', '1', ',', '2',
    '\n', '1', ',', '3', '\n', '3', ',', '2', '\n', '0']

def twoLoopsConfig : PandarQTChannelConfig := ⟨1, 0, 3, 2, [[1, 1, 3], [2, 3, 2]], ['0'], true⟩

def twoLoopsPacket : UdpPacket := UdpPacket.ofBytes [0xEE, 0xFF, 3, 2, 0, 0, 3, 2, 0, 4, 0, 0x40]

lemma twoLoopsText_accepted : (default : PandarQTChannelConfig).loadChannelConfigString twoLoopsText =
    some (twoLoopsConfig, 0) := by
  decide +kernel

theorem channelAccesses_inside_twoLoops :
    (.configEntry 0 2 ∈ channelAccesses default twoLoopsPacket (firetimesParser.withChannelConfig twoLoopsConfig) ∧
      .configEntry 1 2 ∈ channelAccesses default twoLoopsPacket (firetimesParser.withChannelConfig twoLoopsConfig)) ∧
    ∀ a ∈ channelAccesses default twoLoopsPacket (firetimesParser.withChannelConfig twoLoopsConfig),
      a.Inside twoLoopsConfig.channelConfigTable := by
  refine ⟨by decide +kernel, ?_⟩
  refine (channelAccesses_inside_iff default twoLoopsPacket twoLoopsText default twoLoopsConfig
    twoLoopsText_accepted firetimesParser (by decide)).mpr fun _ _ _ => ⟨by decide, fun i hi => ?_⟩
  -- the first block is of the loop 1, the second of the loop 0
  have hlt : i < 2 := hi
  interval_cases i
  · exact ⟨[2, 3, 2], by decide, by decide⟩
  · exact ⟨[1, 1, 3], by decide, by decide⟩

/-- A packet of two lasers: the guard lets the second entry of a row with one entry pass. -/
theorem channelAccesses_inside_not : ¬∀ (env : Environment) (packet : UdpPacket) (text : List Char)
    (c c' : PandarQTChannelConfig), c.loadChannelConfigString text = some (c', 0) → ∀ p : Udp32Parser,
    p.getFiretimeFile = true → hasSelfDefine (readHeader env packet).val = true →
      ∀ a ∈ channelAccesses env packet (p.withChannelConfig c'), a.Inside c'.channelConfigTable := by
  intro h
  obtain ⟨row, hrow, hentry⟩ := h default (selfDefinePacket 2) oneLaserText default oneLaserConfig
    oneLaserText_accepted firetimesParser rfl (by decide) (.configEntry 1 1) (by decide +kernel)
  cases hrow
  exact absurd hentry (by decide)

end Inputs

end Udp32Parser

end HesaiSdk.Parsing
