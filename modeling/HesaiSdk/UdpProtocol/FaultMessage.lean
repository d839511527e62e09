import HesaiSdk.UdpProtocol.PacketBytes

/-! The fault messages of the AT128 and of the ATX, and what the caller is told of them. -/

namespace HesaiSdk.UdpProtocol

open Library Library.ByteLayout Lidar

structure FaultMessageInfo43 where
  faultCodeType : UInt8
  rollingCounter : UInt8
  tdmDataIndicate : UInt8
  timeDivisionMultiplexing : Fin 27 → UInt8
  softwareId : UInt16
  softwareVersion : UInt16
  hardwareVersion : UInt16
  btVersion : UInt16
  heatingState : UInt8
  highTempertureShutdownState : UInt8
  reversed : Fin 3 → UInt8

structure FaultMessageInfo47 where
  tdmDataIndicate : UInt8
  timeDivisionMultiplexing : Fin 14 → UInt8
  internalFaultId : UInt8
  faultIndicate : Fin 8 → UInt8
  customerId : UInt8
  softwareVersion : UInt8
  iterationVersion : UInt8
  reversed : Fin 17 → UInt8

/-- The member that was written last. -/
inductive FaultMessageUnionInfo where
  | fault43 (info : FaultMessageInfo43)
  | fault47 (info : FaultMessageInfo47)

structure FaultMessageInfo where
  faultPraseVersion : UInt8
  version : UInt8
  utcTime : Fin 6 → UInt8
  timestamp : UInt32
  totalTime : ℚ
  operateState : UInt8
  faultState : UInt8
  totalFaultcodeNum : UInt8
  faultcodeId : UInt8
  faultcode : UInt32
  unionInfo : FaultMessageUnionInfo

section Reading

variable (mem : ℕ → UInt8)

def uint16At (o : ℕ) : UInt16 := UInt16.ofNat (leNat (bytesAt mem o 2))

def uint32At (o : ℕ) : UInt32 := UInt32.ofNat (leNat (bytesAt mem o 4))

/-- `big_to_native` of the field at `o`. -/
def bigUint32At (o : ℕ) : UInt32 := UInt32.ofNat (beNat (bytesAt mem o 4))

def arrayAt (n o : ℕ) : Fin n → UInt8 := fun i => mem (o + i)

variable {mem} {o : ℕ}

lemma uint16At_of_holds {x : UInt16} (h : Holds mem o (leBytes 2 x.toNat)) : uint16At mem o = x := by
  have hx : x.toNat < 256 ^ 2 := x.toNat_lt
  rw [uint16At, bytesAt_of_holds h (length_leBytes 2 _), leNat_leBytes_of_lt hx, UInt16.ofNat_toNat]

lemma uint32At_of_holds {x : UInt32} (h : Holds mem o (leBytes 4 x.toNat)) : uint32At mem o = x := by
  have hx : x.toNat < 256 ^ 4 := x.toNat_lt
  rw [uint32At, bytesAt_of_holds h (length_leBytes 4 _), leNat_leBytes_of_lt hx, UInt32.ofNat_toNat]

lemma bigUint32At_of_holds {x : UInt32} (h : Holds mem o (beBytes 4 x.toNat)) : bigUint32At mem o = x := by
  have hx : x.toNat < 256 ^ 4 := x.toNat_lt
  rw [bigUint32At, bytesAt_of_holds h (length_beBytes 4 _), beNat_beBytes_of_lt hx, UInt32.ofNat_toNat]

lemma arrayAt_of_holds {n : ℕ} {f : Fin n → UInt8} (h : Holds mem o (List.ofFn f)) : arrayAt mem n o = f := by
  have hbytes := bytesAt_of_holds h (w := n) List.length_ofFn
  funext i
  have hi := congrArg (fun l => l[i.val]?) hbytes
  simpa [bytesAt, arrayAt] using hi

end Reading

/-- `GetMicroLidarTimeU64` of both fault messages, with the timestamp in the byte order of the host. -/
def faultMicroTime (env : Environment) (utcTime : Fin 6 → UInt8) (timestamp : UInt32) : UInt64 :=
  if utcTime 0 ≠ 0 then
    let year := (utcTime 0).toNat
    calendarMicroTime env (if 200 ≤ year then year - 100 else year : ℕ) (utcTime 1) (utcTime 2) (utcTime 3) (utcTime 4)
      (utcTime 5) timestamp
  else unixMicroTime (UInt32.ofNat (beNat [utcTime 2, utcTime 3, utcTime 4, utcTime 5])) timestamp

/-- What a message tells, with its numbers not yet in the byte order of the wire. -/
structure FaultMessageVersion43 where
  sob : UInt16
  versionInfo : UInt8
  utcTime : Fin 6 → UInt8
  timeStamp : UInt32
  operateState : UInt8
  faultState : UInt8
  faultCodeType : UInt8
  rollingCounter : UInt8
  totalFaultCodeNum : UInt8
  faultCodeId : UInt8
  faultCode : UInt32
  timeDivisionMultiplexing : Fin 27 → UInt8
  softwareId : UInt16
  softwareVersion : UInt16
  hardwareVersion : UInt16
  btVersion : UInt16
  heatingState : UInt8
  lidarHighTempState : UInt8
  reversed : Fin 3 → UInt8
  crc : UInt32
  cycberSecurity : Fin 32 → UInt8

structure FaultMessageVersion47 where
  versionInfo : UInt8
  utcTime : Fin 6 → UInt8
  timeStamp : UInt32
  operateState : UInt8
  faultState : UInt8
  totalFaultCodeNum : UInt8
  faultCodeId : UInt8
  faultCode : UInt32
  tdmDataIndicate : UInt8
  timeDivisionMultiplexing : Fin 14 → UInt8
  internalFaultId : UInt8
  faultIndicate : Fin 8 → UInt8
  customerId : UInt8
  softwareVersion : UInt8
  iterationVersion : UInt8
  reversed : Fin 17 → UInt8
  e2eHeader : Fin 12 → UInt8
  cycberSecurity : Fin 24 → UInt8

namespace FaultMessageVersion43

/-- `FaultMessageVersion4_3::ParserFaultMessage` on the bytes that the struct lies over. -/
def parserFaultMessage (env : Environment) (mem : ℕ → UInt8) : FaultMessageInfo where
  faultPraseVersion := 0x43
  version := mem 2
  utcTime := arrayAt mem 6 3
  timestamp := bigUint32At mem 9
  totalTime := (faultMicroTime env (arrayAt mem 6 3) (bigUint32At mem 9)).toNat / kMicrosecondToSecond
  operateState := mem 13
  faultState := mem 14
  totalFaultcodeNum := mem 17
  faultcodeId := mem 18
  faultcode := bigUint32At mem 19
  unionInfo := .fault43
    { faultCodeType := mem 15
      rollingCounter := mem 16
      tdmDataIndicate := mem 23
      timeDivisionMultiplexing := arrayAt mem 27 23
      softwareId := uint16At mem 50
      softwareVersion := uint16At mem 52
      hardwareVersion := uint16At mem 54
      btVersion := uint16At mem 56
      heatingState := mem 58
      highTempertureShutdownState := mem 59
      reversed := arrayAt mem 3 60 }

variable (m : FaultMessageVersion43)

def encode : List UInt8 :=
  leBytes 2 m.sob.toNat ++ [m.versionInfo] ++ List.ofFn m.utcTime ++ beBytes 4 m.timeStamp.toNat ++
  [m.operateState, m.faultState, m.faultCodeType, m.rollingCounter, m.totalFaultCodeNum, m.faultCodeId] ++
  beBytes 4 m.faultCode.toNat ++ List.ofFn m.timeDivisionMultiplexing ++ leBytes 2 m.softwareId.toNat ++
  leBytes 2 m.softwareVersion.toNat ++ leBytes 2 m.hardwareVersion.toNat ++ leBytes 2 m.btVersion.toNat ++
  [m.heatingState, m.lidarHighTempState] ++ List.ofFn m.reversed ++ leBytes 4 m.crc.toNat ++
  List.ofFn m.cycberSecurity

lemma length_encode : m.encode.length = kFaultMessageLength := by
  simp [encode, kFaultMessageLength]

def info (env : Environment) : FaultMessageInfo where
  faultPraseVersion := 0x43
  version := m.versionInfo
  utcTime := m.utcTime
  timestamp := m.timeStamp
  totalTime := (faultMicroTime env m.utcTime m.timeStamp).toNat / kMicrosecondToSecond
  operateState := m.operateState
  faultState := m.faultState
  totalFaultcodeNum := m.totalFaultCodeNum
  faultcodeId := m.faultCodeId
  faultcode := m.faultCode
  unionInfo := .fault43
    { faultCodeType := m.faultCodeType
      rollingCounter := m.rollingCounter
      tdmDataIndicate := m.timeDivisionMultiplexing 0
      timeDivisionMultiplexing := m.timeDivisionMultiplexing
      softwareId := m.softwareId
      softwareVersion := m.softwareVersion
      hardwareVersion := m.hardwareVersion
      btVersion := m.btVersion
      heatingState := m.heatingState
      highTempertureShutdownState := m.lidarHighTempState
      reversed := m.reversed }

variable {m} {mem : ℕ → UInt8}

lemma parserFaultMessage_of_holds (env : Environment) (h : Holds mem 0 m.encode) :
    parserFaultMessage env mem = m.info env := by
  simp only [encode, List.append_assoc, holds_append, length_leBytes, length_beBytes, List.length_ofFn,
    List.length_cons, List.length_nil, Nat.reduceAdd, holds_cons] at h
  obtain ⟨-, ⟨hversion, -⟩, hutc, htime, ⟨hoperate, hstate, htype, hcounter, hnum, hid, -⟩, hcode, htdm, hsoftware,
    hsoftwareVersion, hhardware, hbt, ⟨hheating, htemperature, -⟩, hreversed, -, -⟩ := h
  have htdm' := arrayAt_of_holds htdm
  have hindicate : mem 23 = m.timeDivisionMultiplexing 0 := congrFun htdm' 0
  rw [parserFaultMessage, arrayAt_of_holds hutc, bigUint32At_of_holds htime, bigUint32At_of_holds hcode, htdm',
    uint16At_of_holds hsoftware, uint16At_of_holds hsoftwareVersion, uint16At_of_holds hhardware,
    uint16At_of_holds hbt, arrayAt_of_holds hreversed, hindicate, hversion, hoperate, hstate, htype, hcounter, hnum,
    hid, hheating, htemperature]
  rfl

end FaultMessageVersion43

section Lens

inductive LensDirtyState where
  | undefineData
  | lensNormal
  | passable
  | unPassable
deriving DecidableEq, Inhabited

def LENS_AZIMUTH_AREA_NUM : ℕ := 12

def LENS_ELEVATION_AREA_NUM : ℕ := 8

def LensDirtyState.code : LensDirtyState → ℕ
  | undefineData => 2
  | lensNormal => 0
  | passable => 1
  | unPassable => 3

def LensDirtyState.ofCode : ℕ → LensDirtyState
  | 0 => lensNormal
  | 1 => passable
  | 3 => unPassable
  | _ => undefineData

namespace FaultMessageVersion43

/-- The area is shifted to the top of its word, and down again. -/
def parserLensDirtyState (mem : ℕ → UInt8) (i j : ℕ) : LensDirtyState :=
  let rawdata := uint16At mem (23 + (3 + i * 2))
  let lensDirtyStateTemp := rawdata <<< UInt16.ofNat ((LENS_ELEVATION_AREA_NUM - j - 1) * 2)
  let lensDirtyStateTemp1 := lensDirtyStateTemp >>> UInt16.ofNat ((LENS_ELEVATION_AREA_NUM - 1) * 2)
  if mem 23 = 1 then .ofCode lensDirtyStateTemp1.toNat else .undefineData

def parserTemperature (mem : ℕ → UInt8) : ℚ := (uint16At mem (23 + 1)).toNat / 10

end FaultMessageVersion43

/-- The multiplexed data of a message on the dirt of the lens. -/
structure LensReport where
  temperature : UInt16
  states : ℕ → ℕ → LensDirtyState

namespace LensReport

variable (r : LensReport)

def word (i : ℕ) : ℕ := Nat.ofDigits 4 ((List.range LENS_ELEVATION_AREA_NUM).map fun j => (r.states i j).code)

def encode : List UInt8 := [1] ++ leBytes 2 r.temperature.toNat ++ leTable 2 LENS_AZIMUTH_AREA_NUM r.word

variable {r}

lemma code_lt : ∀ state : LensDirtyState, state.code < 4 := by
  intro state
  cases state <;> decide

lemma word_lt (i : ℕ) : r.word i < 256 ^ 2 := by
  have hlt := Nat.ofDigits_lt_base_pow_length (b := 4)
    (l := (List.range LENS_ELEVATION_AREA_NUM).map fun j => (r.states i j).code) (by decide) fun d hd => by
      obtain ⟨j, -, rfl⟩ := List.mem_map.mp hd
      exact code_lt _
  rwa [List.length_map, List.length_range] at hlt

lemma shifted_area (w : UInt16) {j : ℕ} (hj : j < LENS_ELEVATION_AREA_NUM) :
    ((w <<< UInt16.ofNat ((LENS_ELEVATION_AREA_NUM - j - 1) * 2)) >>>
      UInt16.ofNat ((LENS_ELEVATION_AREA_NUM - 1) * 2)).toNat = w.toNat / 4 ^ j % 4 := by
  have hw := w.toNat_lt
  rw [LENS_ELEVATION_AREA_NUM] at hj ⊢
  interval_cases j <;>
    simp [UInt16.toNat_shiftLeft, UInt16.toNat_shiftRight, Nat.shiftLeft_eq, Nat.shiftRight_eq_div_pow] <;> omega

lemma parser_of_holds {mem : ℕ → UInt8} (h : Holds mem 23 r.encode) :
    FaultMessageVersion43.parserTemperature mem = r.temperature.toNat / 10 ∧
      ∀ i < LENS_AZIMUTH_AREA_NUM, ∀ j < LENS_ELEVATION_AREA_NUM,
        FaultMessageVersion43.parserLensDirtyState mem i j = r.states i j := by
  simp only [encode, List.append_assoc, holds_append, length_leBytes, List.length_cons, List.length_nil, holds_cons,
    Nat.reduceAdd] at h
  obtain ⟨⟨hindicate, -⟩, htemperature, hwords⟩ := h
  refine ⟨by rw [FaultMessageVersion43.parserTemperature, uint16At_of_holds htemperature], fun i hi j hj => ?_⟩
  have hword : (uint16At mem (23 + (3 + i * 2))).toNat = r.word i := by
    have hentry := leNat_of_leTable hwords hi (word_lt i)
    rw [uint16At, ← Nat.add_assoc, Nat.mul_comm i, hentry, UInt16.toNat_ofNat_of_lt' (word_lt i)]
  have hcode : ∀ d ∈ (List.range LENS_ELEVATION_AREA_NUM).map fun j => (r.states i j).code, d < 4 := by
    intro d hd
    obtain ⟨k, -, rfl⟩ := List.mem_map.mp hd
    exact code_lt _
  have harea := digit_ofDigits hcode (j := j) (by simpa using hj)
  simp only [FaultMessageVersion43.parserLensDirtyState, if_pos hindicate, shifted_area _ hj, hword, word, harea,
    List.getElem_map, List.getElem_range]
  cases r.states i j <;> rfl

end LensReport

/-- Every area of the lens is told apart, and the temperature with it; other multiplexed data give no state. -/
theorem FaultMessageVersion43.lens_roundTrip (m : FaultMessageVersion43) (mem : ℕ → UInt8) (h : Holds mem 0 m.encode) :
    (m.timeDivisionMultiplexing 0 ≠ 1 → ∀ i j, parserLensDirtyState mem i j = .undefineData) ∧
      ∀ r : LensReport, List.ofFn m.timeDivisionMultiplexing = r.encode →
        parserTemperature mem = r.temperature.toNat / 10 ∧
          ∀ i < LENS_AZIMUTH_AREA_NUM, ∀ j < LENS_ELEVATION_AREA_NUM, parserLensDirtyState mem i j = r.states i j := by
  simp only [encode, List.append_assoc, holds_append, length_leBytes, length_beBytes, List.length_ofFn,
    List.length_cons, List.length_nil, Nat.reduceAdd] at h
  obtain ⟨-, -, -, -, -, -, htdm, -⟩ := h
  have hindicate : mem 23 = m.timeDivisionMultiplexing 0 := congrFun (arrayAt_of_holds htdm) 0
  constructor
  · intro hother i j
    rw [parserLensDirtyState, hindicate]
    exact if_neg hother
  · intro r hr
    rw [hr] at htdm
    exact r.parser_of_holds htdm

/-- Each row of areas has its own pattern. -/
def sampleLens : LensReport where
  temperature := 345
  states i j := .ofCode (i + j)

def sampleFault43 : FaultMessageVersion43 where
  sob := 0xEEDD
  versionInfo := 3
  utcTime := fun _ => 0
  timeStamp := 0x01020304
  operateState := 1
  faultState := 2
  faultCodeType := 1
  rollingCounter := 9
  totalFaultCodeNum := 1
  faultCodeId := 1
  faultCode := 0x00B00103
  timeDivisionMultiplexing i := sampleLens.encode.getD i 0
  softwareId := 1
  softwareVersion := 2
  hardwareVersion := 3
  btVersion := 4
  heatingState := 0
  lidarHighTempState := 0
  reversed := fun _ => 0
  crc := 0
  cycberSecurity := fun _ => 0

theorem FaultMessageVersion43.lens_roundTrip_example :
    let mem := overlay sampleFault43.encode fun _ => 0
    parserTemperature mem = 345 / 10 ∧
      ∀ i < LENS_AZIMUTH_AREA_NUM, ∀ j < LENS_ELEVATION_AREA_NUM, parserLensDirtyState mem i j = .ofCode (i + j) :=
  (FaultMessageVersion43.lens_roundTrip sampleFault43 _ (holds_overlay _)).2 sampleLens (by decide)

end Lens

namespace FaultMessageVersion47

/-- `FaultMessageVersion4_7::ParserFaultMessage`, which leaves the fault code as the host reads it. -/
def parserFaultMessage (env : Environment) (mem : ℕ → UInt8) : FaultMessageInfo where
  faultPraseVersion := 0x47
  version := mem 0
  utcTime := arrayAt mem 6 1
  timestamp := uint32At mem 7
  totalTime := (faultMicroTime env (arrayAt mem 6 1) (uint32At mem 7)).toNat / kMicrosecondToSecond
  operateState := mem 11
  faultState := mem 12
  totalFaultcodeNum := mem 13
  faultcodeId := mem 14
  faultcode := uint32At mem 15
  unionInfo := .fault47
    { tdmDataIndicate := mem 19
      timeDivisionMultiplexing := arrayAt mem 14 20
      internalFaultId := mem 34
      faultIndicate := arrayAt mem 8 35
      customerId := mem 43
      softwareVersion := mem 44
      iterationVersion := mem 45
      reversed := arrayAt mem 17 46 }

variable (m : FaultMessageVersion47)

def encode : List UInt8 :=
  [m.versionInfo] ++ List.ofFn m.utcTime ++ leBytes 4 m.timeStamp.toNat ++
  [m.operateState, m.faultState, m.totalFaultCodeNum, m.faultCodeId] ++ leBytes 4 m.faultCode.toNat ++
  [m.tdmDataIndicate] ++ List.ofFn m.timeDivisionMultiplexing ++ [m.internalFaultId] ++
  List.ofFn m.faultIndicate ++ [m.customerId, m.softwareVersion, m.iterationVersion] ++
  List.ofFn m.reversed ++ List.ofFn m.e2eHeader ++ List.ofFn m.cycberSecurity

lemma length_encode : m.encode.length = kFaultMessageLength := by
  simp [encode, kFaultMessageLength]

def info (env : Environment) : FaultMessageInfo where
  faultPraseVersion := 0x47
  version := m.versionInfo
  utcTime := m.utcTime
  timestamp := m.timeStamp
  totalTime := (faultMicroTime env m.utcTime m.timeStamp).toNat / kMicrosecondToSecond
  operateState := m.operateState
  faultState := m.faultState
  totalFaultcodeNum := m.totalFaultCodeNum
  faultcodeId := m.faultCodeId
  faultcode := m.faultCode
  unionInfo := .fault47
    { tdmDataIndicate := m.tdmDataIndicate
      timeDivisionMultiplexing := m.timeDivisionMultiplexing
      internalFaultId := m.internalFaultId
      faultIndicate := m.faultIndicate
      customerId := m.customerId
      softwareVersion := m.softwareVersion
      iterationVersion := m.iterationVersion
      reversed := m.reversed }

variable {m} {mem : ℕ → UInt8}

lemma parserFaultMessage_of_holds (env : Environment) (h : Holds mem 0 m.encode) :
    parserFaultMessage env mem = m.info env := by
  simp only [encode, List.append_assoc, holds_append, length_leBytes, List.length_ofFn, List.length_cons,
    List.length_nil, Nat.reduceAdd, holds_cons] at h
  obtain ⟨⟨hversion, -⟩, hutc, htime, ⟨hoperate, hstate, hnum, hid, -⟩, hcode, ⟨hindicate, -⟩, htdm, ⟨hinternal, -⟩,
    hfault, ⟨hcustomer, hsoftware, hiteration, -⟩, hreversed, -, -⟩ := h
  rw [parserFaultMessage, arrayAt_of_holds hutc, uint32At_of_holds htime, uint32At_of_holds hcode,
    arrayAt_of_holds htdm, arrayAt_of_holds hfault, arrayAt_of_holds hreversed, hversion, hoperate, hstate, hnum, hid,
    hindicate, hinternal, hcustomer, hsoftware, hiteration]
  rfl

end FaultMessageVersion47

inductive FaultMessage where
  | version43 (m : FaultMessageVersion43)
  | version47 (m : FaultMessageVersion47)

namespace FaultMessage

def encode : FaultMessage → List UInt8
  | version43 m => m.encode
  | version47 m => m.encode

def info (env : Environment) : FaultMessage → FaultMessageInfo
  | version43 m => m.info env
  | version47 m => m.info env

lemma length_encode (m : FaultMessage) : m.encode.length = kFaultMessageLength := by
  cases m with
  | version43 m => exact m.length_encode
  | version47 m => exact m.length_encode

variable (m : FaultMessage) (packet : UdpPacket)

/-- The packet that a datagram with the message becomes. -/
def writeTo : UdpPacket :=
  { packet with
    buffer := fun i => m.encode.getD i (packet.buffer i)
    packetLen := m.encode.length }

lemma holds_writeTo (env : Environment) : Holds (byteAt env (m.writeTo packet)) 0 m.encode := by
  refine holds_of_getElem fun i hi => ?_
  have hlength := m.length_encode
  rw [kFaultMessageLength] at hlength
  have hbuf : i < kBufSize := by
    rw [kBufSize]
    omega
  have hwritten : (m.writeTo packet).buffer ⟨i, hbuf⟩ = m.encode[i] := by
    simp only [writeTo, List.getD_eq_getElem?_getD, List.getElem?_eq_getElem hi, Option.getD_some]
  rw [Nat.zero_add, byteAt, dif_pos hbuf, hwritten]

end FaultMessage

end HesaiSdk.UdpProtocol
