import HesaiSdk.Library.MessageStream
import HesaiSdk.Library.TextWriter
import HesaiSdk.Ptc.Encoding

/-! The commands that `PtcClient` sends, and what a device is told by them. The mutex of `QueryCommand` brings those of
several threads one after the other. -/

namespace HesaiSdk.Ptc

open Library.ByteLayout Library.MessageStream Library.TextStream

def kPTCGetPTPLockOffset : UInt8 := 0x3a

def kPTCGetLidarStatus : UInt8 := 0x09

def kPTCGetPTPDiagnostics : UInt8 := 0x06

def kPTCGetLidarCalibration : UInt8 := 0x05

def kPTCGetLidarFiretimes : UInt8 := 0xA9

def kPTCGetLidarChannelConfig : UInt8 := 0xA8

def kPTCSetNet : UInt8 := 0x21

def kPTCSetDestinationIPandPort : UInt8 := 0x20

def kPTCSetReturnMode : UInt8 := 0x1E

def kPTCSetSyncAngle : UInt8 := 0x18

def kPTCSetStandbyMode : UInt8 := 0x1C

def kPTCSetSpinSpeed : UInt8 := 0x17

def kPTCSetTemFpgaRegister : UInt32 := 0x00010031

def kPTCSetFpgaRegister : UInt8 := 0x0D

/-- The arguments of `QueryCommand`. -/
structure Request where
  u8Cmd : UInt8
  byteStreamIn : List UInt8
deriving DecidableEq

/-- The bytes that `Send` hands to the connection. -/
def Request.sent (v : PtcVersion) (r : Request) : List UInt8 :=
  (ptcStreamEncode v r.byteStreamIn r.u8Cmd).take (sentLength v r.byteStreamIn)

section Push

def pushU16 (n : UInt16) : List UInt8 := [(n >>> 8).toUInt8, n.toUInt8]

def pushU32 (n : UInt32) : List UInt8 := [(n >>> 24).toUInt8, (n >>> 16).toUInt8, (n >>> 8).toUInt8, n.toUInt8]

/-- The numbers between the points; none where `stoi` throws. -/
def pushAddress (address : List Char) : Option (List UInt8) :=
  (getlines '.' address).mapM fun byte => (stoi byte).map UInt8.ofInt

lemma beNat_pushU16 (n : UInt16) : beNat (pushU16 n) = n.toNat := by
  have hn := n.toNat_lt
  simp [pushU16, beNat, Nat.shiftRight_eq_div_pow]
  omega

lemma beNat_pushU32 (n : UInt32) : beNat (pushU32 n) = n.toNat := by
  have hn := n.toNat_lt
  simp [pushU32, beNat, Nat.shiftRight_eq_div_pow]
  omega

end Push

namespace PtcClient

def getPTPDiagnostics (queryType : UInt8) : Request := ⟨kPTCGetPTPDiagnostics, [queryType]⟩

def getPTPLockOffset : Request := ⟨kPTCGetPTPLockOffset, []⟩

def getLidarStatus : Request := ⟨kPTCGetLidarStatus, []⟩

def getCorrectionInfo : Request := ⟨kPTCGetLidarCalibration, []⟩

def getFiretimesInfo : Request := ⟨kPTCGetLidarFiretimes, []⟩

def getChannelConfigInfo : Request := ⟨kPTCGetLidarChannelConfig, []⟩

def setNet (ip mask getway : List Char) (vlanFlag : UInt8) (vlanId : UInt16) : Option Request := do
  let ip ← pushAddress ip
  let mask ← pushAddress mask
  let getway ← pushAddress getway
  pure ⟨kPTCSetNet, ip ++ mask ++ getway ++ [vlanFlag] ++ pushU16 vlanId⟩

def setDesIpandPort (des : List Char) (port gpsPort : UInt16) : Option Request := do
  let des ← pushAddress des
  pure ⟨kPTCSetDestinationIPandPort, des ++ pushU16 port ++ pushU16 gpsPort⟩

def setReturnMode (returnMode : UInt8) : Request := ⟨kPTCSetReturnMode, [returnMode]⟩

def setSyncAngle (enableFlag : UInt8) (syncAngle : UInt16) : Request :=
  ⟨kPTCSetSyncAngle, enableFlag :: pushU16 syncAngle⟩

def setTmbFPGARegister (address data : UInt32) : Request :=
  ⟨0xff, pushU32 kPTCSetTemFpgaRegister ++ pushU32 address ++ pushU32 data⟩

def setFPGARegister (address data : UInt32) : Request := ⟨kPTCSetFpgaRegister, pushU32 address ++ pushU32 data⟩

def setStandbyMode (standbyMode : UInt32) : Request := ⟨kPTCSetStandbyMode, [standbyMode.toUInt8]⟩

def setSpinSpeed (speed : UInt32) : Request := ⟨kPTCSetSpinSpeed, [(speed >>> 8).toUInt8, speed.toUInt8]⟩

end PtcClient

structure IpAddress where
  first : UInt8
  second : UInt8
  third : UInt8
  fourth : UInt8
deriving DecidableEq

namespace IpAddress

variable (a : IpAddress)

def bytes : List UInt8 := [a.first, a.second, a.third, a.fourth]

def text : List Char := writeFields '.' (a.bytes.map fun b => writeNat b.toNat)

lemma ofInt_toNat (b : UInt8) : UInt8.ofInt b.toNat = b := by
  have hb := b.toNat_lt
  have hmod : ((b.toNat : ℤ) % 2 ^ 8).toNat = b.toNat := by omega
  rw [UInt8.ofInt, hmod]
  exact UInt8.ofNat_toNat

lemma pushAddress_text : pushAddress a.text = some a.bytes := by
  have hlines : getlines '.' a.text = a.bytes.map fun b => writeNat b.toNat := by
    refine getlines_writeFields (fun field hfield => ?_) fun last hlast => ?_
    · obtain ⟨b, -, rfl⟩ := List.mem_map.mp hfield
      exact (digits_writeNat b.toNat).notMem (by decide)
    · obtain ⟨b, -, rfl⟩ := List.mem_map.mp (List.mem_of_getLast? hlast)
      exact writeNat_ne_nil b.toNat
  have hbyte (b : UInt8) : (stoi (writeNat b.toNat)).map UInt8.ofInt = some b := by
    rw [stoi_writeNat (by have hb := b.toNat_lt; omega), Option.map_some, ofInt_toNat]
  rw [pushAddress, hlines]
  simp only [bytes, List.map_cons, List.map_nil, List.mapM_cons, List.mapM_nil, hbyte]
  rfl

end IpAddress

/-- What a device is told. -/
inductive Instruction where
  | getPTPDiagnostics (queryType : UInt8)
  | getPTPLockOffset
  | getLidarStatus
  | getCorrectionInfo
  | getFiretimesInfo
  | getChannelConfigInfo
  | setNet (ip mask getway : IpAddress) (vlanFlag : UInt8) (vlanId : UInt16)
  | setDesIpandPort (des : IpAddress) (port gpsPort : UInt16)
  | setReturnMode (returnMode : UInt8)
  | setSyncAngle (enableFlag : UInt8) (syncAngle : UInt16)
  | setTmbFPGARegister (address data : UInt32)
  | setFPGARegister (address data : UInt32)
  | setStandbyMode (standbyMode : UInt8)
  | setSpinSpeed (speed : UInt16)
deriving DecidableEq

namespace Instruction

/-- The call that tells it. -/
def request : Instruction → Option Request
  | getPTPDiagnostics queryType => PtcClient.getPTPDiagnostics queryType
  | getPTPLockOffset => PtcClient.getPTPLockOffset
  | getLidarStatus => PtcClient.getLidarStatus
  | getCorrectionInfo => PtcClient.getCorrectionInfo
  | getFiretimesInfo => PtcClient.getFiretimesInfo
  | getChannelConfigInfo => PtcClient.getChannelConfigInfo
  | setNet ip mask getway vlanFlag vlanId => PtcClient.setNet ip.text mask.text getway.text vlanFlag vlanId
  | setDesIpandPort des port gpsPort => PtcClient.setDesIpandPort des.text port gpsPort
  | setReturnMode returnMode => PtcClient.setReturnMode returnMode
  | setSyncAngle enableFlag syncAngle => PtcClient.setSyncAngle enableFlag syncAngle
  | setTmbFPGARegister address data => PtcClient.setTmbFPGARegister address data
  | setFPGARegister address data => PtcClient.setFPGARegister address data
  | setStandbyMode standbyMode => PtcClient.setStandbyMode standbyMode.toUInt32
  | setSpinSpeed speed => PtcClient.setSpinSpeed speed.toUInt32

def u16At (bytes : List UInt8) (o : ℕ) : UInt16 := UInt16.ofNat (beNat ((bytes.drop o).take 2))

def u32At (bytes : List UInt8) (o : ℕ) : UInt32 := UInt32.ofNat (beNat ((bytes.drop o).take 4))

def addressAt (bytes : List UInt8) (o : ℕ) : IpAddress :=
  ⟨bytes.getD o 0, bytes.getD (o + 1) 0, bytes.getD (o + 2) 0, bytes.getD (o + 3) 0⟩

/-- A request as a device reads it, by its command and the length of its payload. -/
def ofRequest (r : Request) : Option Instruction :=
  let bytes := r.byteStreamIn
  let told : Option (ℕ × Instruction) :=
    if r.u8Cmd = kPTCGetPTPDiagnostics then some (1, getPTPDiagnostics (bytes.getD 0 0))
    else if r.u8Cmd = kPTCGetPTPLockOffset then some (0, getPTPLockOffset)
    else if r.u8Cmd = kPTCGetLidarStatus then some (0, getLidarStatus)
    else if r.u8Cmd = kPTCGetLidarCalibration then some (0, getCorrectionInfo)
    else if r.u8Cmd = kPTCGetLidarFiretimes then some (0, getFiretimesInfo)
    else if r.u8Cmd = kPTCGetLidarChannelConfig then some (0, getChannelConfigInfo)
    else if r.u8Cmd = kPTCSetNet then
      some (15, setNet (addressAt bytes 0) (addressAt bytes 4) (addressAt bytes 8) (bytes.getD 12 0) (u16At bytes 13))
    else if r.u8Cmd = kPTCSetDestinationIPandPort then
      some (8, setDesIpandPort (addressAt bytes 0) (u16At bytes 4) (u16At bytes 6))
    else if r.u8Cmd = kPTCSetReturnMode then some (1, setReturnMode (bytes.getD 0 0))
    else if r.u8Cmd = kPTCSetSyncAngle then some (3, setSyncAngle (bytes.getD 0 0) (u16At bytes 1))
    else if r.u8Cmd = 0xff ∧ u32At bytes 0 = kPTCSetTemFpgaRegister then
      some (12, setTmbFPGARegister (u32At bytes 4) (u32At bytes 8))
    else if r.u8Cmd = kPTCSetFpgaRegister then some (8, setFPGARegister (u32At bytes 0) (u32At bytes 4))
    else if r.u8Cmd = kPTCSetStandbyMode then some (1, setStandbyMode (bytes.getD 0 0))
    else if r.u8Cmd = kPTCSetSpinSpeed then some (2, setSpinSpeed (u16At bytes 0))
    else none
  told.bind fun t => if bytes.length = t.1 then some t.2 else none

lemma u16At_push (pre rest : List UInt8) (n : UInt16) : u16At (pre ++ (pushU16 n ++ rest)) pre.length = n := by
  have htake : (pushU16 n ++ rest).take 2 = pushU16 n := rfl
  rw [u16At, List.drop_left, htake, beNat_pushU16]
  exact UInt16.ofNat_toNat

lemma u32At_push (pre rest : List UInt8) (n : UInt32) : u32At (pre ++ (pushU32 n ++ rest)) pre.length = n := by
  have htake : (pushU32 n ++ rest).take 4 = pushU32 n := rfl
  rw [u32At, List.drop_left, htake, beNat_pushU32]
  exact UInt32.ofNat_toNat

lemma ofRequest_request (i : Instruction) : ∃ r, i.request = some r ∧ ofRequest r = some i ∧
    r.byteStreamIn.length ≤ 15 := by
  cases i with
  | getPTPDiagnostics queryType => exact ⟨_, rfl, rfl, Nat.le_of_ble_eq_true rfl⟩
  | getPTPLockOffset => exact ⟨_, rfl, rfl, Nat.le_of_ble_eq_true rfl⟩
  | getLidarStatus => exact ⟨_, rfl, rfl, Nat.le_of_ble_eq_true rfl⟩
  | getCorrectionInfo => exact ⟨_, rfl, rfl, Nat.le_of_ble_eq_true rfl⟩
  | getFiretimesInfo => exact ⟨_, rfl, rfl, Nat.le_of_ble_eq_true rfl⟩
  | getChannelConfigInfo => exact ⟨_, rfl, rfl, Nat.le_of_ble_eq_true rfl⟩
  | setNet ip mask getway vlanFlag vlanId =>
    let pre := ip.bytes ++ mask.bytes ++ getway.bytes ++ [vlanFlag]
    refine ⟨⟨kPTCSetNet, pre ++ (pushU16 vlanId ++ [])⟩, ?_, ?_, Nat.le_of_ble_eq_true rfl⟩
    · simp only [request, PtcClient.setNet, IpAddress.pushAddress_text]
      rfl
    · have hid : u16At (pre ++ (pushU16 vlanId ++ [])) 13 = vlanId := u16At_push pre [] vlanId
      exact congrArg (fun id => some (setNet ip mask getway vlanFlag id)) hid
  | setDesIpandPort des port gpsPort =>
    let pre := des.bytes ++ pushU16 port
    refine ⟨⟨kPTCSetDestinationIPandPort, pre ++ (pushU16 gpsPort ++ [])⟩, ?_, ?_, Nat.le_of_ble_eq_true rfl⟩
    · simp only [request, PtcClient.setDesIpandPort, IpAddress.pushAddress_text]
      rfl
    · have hport : u16At (pre ++ (pushU16 gpsPort ++ [])) 4 = port := u16At_push des.bytes _ port
      have hgps : u16At (pre ++ (pushU16 gpsPort ++ [])) 6 = gpsPort := u16At_push pre [] gpsPort
      exact congrArg₂ (fun port gpsPort => some (setDesIpandPort des port gpsPort)) hport hgps
  | setReturnMode returnMode => exact ⟨_, rfl, rfl, Nat.le_of_ble_eq_true rfl⟩
  | setSyncAngle enableFlag syncAngle =>
    have hangle : u16At (enableFlag :: pushU16 syncAngle) 1 = syncAngle := u16At_push [enableFlag] [] syncAngle
    exact ⟨_, rfl, congrArg (fun angle => some (setSyncAngle enableFlag angle)) hangle, Nat.le_of_ble_eq_true rfl⟩
  | setTmbFPGARegister address data =>
    let bytes := pushU32 kPTCSetTemFpgaRegister ++ pushU32 address ++ pushU32 data
    have haddress : u32At bytes 4 = address := u32At_push (pushU32 kPTCSetTemFpgaRegister) _ address
    have hdata : u32At bytes 8 = data := u32At_push (pushU32 kPTCSetTemFpgaRegister ++ pushU32 address) [] data
    refine ⟨_, rfl, ?_, Nat.le_of_ble_eq_true rfl⟩
    exact congrArg₂ (fun address data => some (setTmbFPGARegister address data)) haddress hdata
  | setFPGARegister address data =>
    have haddress : u32At (pushU32 address ++ pushU32 data) 0 = address := u32At_push [] _ address
    have hdata : u32At (pushU32 address ++ pushU32 data) 4 = data := u32At_push (pushU32 address) [] data
    refine ⟨_, rfl, ?_, Nat.le_of_ble_eq_true rfl⟩
    exact congrArg₂ (fun address data => some (setFPGARegister address data)) haddress hdata
  | setStandbyMode standbyMode =>
    have hmode : standbyMode.toUInt32.toUInt8 = standbyMode := UInt8.toUInt8_toUInt32 standbyMode
    exact ⟨_, rfl, congrArg (fun mode => some (setStandbyMode mode)) hmode, Nat.le_of_ble_eq_true rfl⟩
  | setSpinSpeed speed =>
    have hhigh : (speed.toUInt32 >>> 8).toUInt8 = (speed >>> 8).toUInt8 := by
      rw [← UInt8.toNat_inj]
      simp
    have hlow : speed.toUInt32.toUInt8 = speed.toUInt8 := by
      rw [← UInt8.toNat_inj]
      simp
    have hspeed : u16At [(speed.toUInt32 >>> 8).toUInt8, speed.toUInt32.toUInt8] 0 = speed := by
      rw [hhigh, hlow]
      exact u16At_push [] [] speed
    exact ⟨_, rfl, congrArg (fun speed => some (setSpinSpeed speed)) hspeed, Nat.le_of_ble_eq_true rfl⟩

end Instruction

section Stream

variable {v : PtcVersion} {r : Request}

/-- The request in front of a stream, by the fields of its header. -/
def readRequest (v : PtcVersion) (stream : List UInt8) : Option (Request × List UInt8) :=
  let payload := stream.drop v.headerSize
  let len := payloadLenOf v stream
  if v.headerSize ≤ stream.length ∧ isValidIdentifier v stream = true ∧ len ≤ payload.length
  then some (⟨cmdOf v stream, payload.take len⟩, payload.drop len)
  else none

def readInstruction (v : PtcVersion) (stream : List UInt8) : Option (Instruction × List UInt8) :=
  (readRequest v stream).bind fun first => (Instruction.ofRequest first.1).map (·, first.2)

def readInstructions (v : PtcVersion) (stream : List UInt8) : Option (List Instruction) :=
  readAll (readInstruction v) stream.length stream

lemma Request.sent_of_fits (hlen : v.headerSize + r.byteStreamIn.length < 65536) :
    r.sent v = ptcStreamEncode v r.byteStreamIn r.u8Cmd := by
  have hlength : (ptcStreamEncode v r.byteStreamIn r.u8Cmd).length = v.headerSize + r.byteStreamIn.length := by
    rw [ptcStreamEncode, List.length_append, PtcHeader.length_bytes]
  rw [sent, sentLength, Nat.mod_eq_of_lt hlen, ← hlength, List.take_length]

lemma Request.readRequest_sent (hlen : v.headerSize + r.byteStreamIn.length < 65536) (rest : List UInt8) :
    readRequest v (r.sent v ++ rest) = some (r, rest) := by
  let h := PtcHeader.init r.u8Cmd r.byteStreamIn.length
  have hsent : r.sent v ++ rest = h.bytes v ++ (r.byteStreamIn ++ rest) := by
    rw [sent_of_fits hlen, ptcStreamEncode, List.append_assoc]
  have hinit : h.payloadLen = r.byteStreamIn.length := Nat.mod_eq_of_lt (by omega)
  have hpayload : payloadLenOf v (h.bytes v ++ (r.byteStreamIn ++ rest)) = r.byteStreamIn.length := by
    rw [payloadLenOf_append (by omega), hinit]
  have hdrop : (h.bytes v ++ (r.byteStreamIn ++ rest)).drop v.headerSize = r.byteStreamIn ++ rest := by
    rw [← PtcHeader.length_bytes v h, List.drop_left]
  have hsize : v.headerSize ≤ (h.bytes v ++ (r.byteStreamIn ++ rest)).length := by
    rw [List.length_append, PtcHeader.length_bytes]
    exact Nat.le_add_right _ _
  have hfits : r.byteStreamIn.length ≤ (r.byteStreamIn ++ rest).length := by
    rw [List.length_append]
    exact Nat.le_add_right _ _
  rw [hsent, readRequest]
  simp only [hdrop, hpayload]
  rw [if_pos ⟨hsize, isValidIdentifier_append, hfits⟩, cmdOf_append, List.take_left, List.drop_left]
  rfl

lemma Instruction.spells (v : PtcVersion) (i : Instruction) :
    ∃ r, i.request = some r ∧ Spells (readInstruction v) i (r.sent v) := by
  obtain ⟨r, hr, hi, hshort⟩ := i.ofRequest_request
  have hlen : v.headerSize + r.byteStreamIn.length < 65536 := by
    have hsize : v.headerSize ≤ 12 := by cases v <;> decide
    omega
  refine ⟨r, hr, ?_, fun rest => ?_⟩
  · rw [Request.sent_of_fits hlen, ptcStreamEncode]
    exact bytes_append_ne_nil v _ _
  · rw [readInstruction, Request.readRequest_sent hlen, Option.bind_some, hi, Option.map_some]

/-- Whatever commands are sent one after the other, the stream tells the device these commands, and no others. -/
theorem readInstructions_sent (v : PtcVersion) (instructions : List Instruction) :
    ∃ requests, instructions.mapM Instruction.request = some requests ∧
      readInstructions v (requests.flatMap (Request.sent v)) = some instructions := by
  have hspells : ∃ requests, instructions.mapM Instruction.request = some requests ∧
      List.Forall₂ (Spells (readInstruction v)) instructions (requests.map (Request.sent v)) := by
    induction instructions with
    | nil => exact ⟨[], rfl, List.Forall₂.nil⟩
    | cons i instructions ih =>
      obtain ⟨requests, hrequests, hall⟩ := ih
      obtain ⟨r, hr, hspell⟩ := i.spells v
      refine ⟨r :: requests, ?_, List.Forall₂.cons hspell hall⟩
      rw [List.mapM_cons, hr, hrequests]
      rfl
  obtain ⟨requests, hrequests, hall⟩ := hspells
  refine ⟨requests, hrequests, ?_⟩
  rw [readInstructions, List.flatMap_def]
  exact Spells.readAll_flatten hall (Spells.length_le hall)

end Stream

end HesaiSdk.Ptc
