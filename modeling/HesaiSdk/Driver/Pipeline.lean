import HesaiSdk.Driver.Run
import Mathlib.Data.Fintype.BigOperators

/-! `Run` beside the parser thread and the handle threads that compute the points. -/

namespace HesaiSdk.Driver

open Library Lidar UdpProtocol Parsing

/-- Where `Run` stands. A packet that splits the frame is kept in `again` if it starts the next one. -/
inductive RunPc where
  | head
  | push (packet : UdpPacket) (first : Bool)
  | count (packet : UdpPacket) (first : Bool)
  | wait (again : Option UdpPacket)
  | zero (again : Option UdpPacket)
  | publish (again : Option UdpPacket)
  | reopen (packet : UdpPacket)
  | clearDecoded
  | clearHandle (i : ℕ)
  | update

/-- A packet index in the hands of a thread: taken from its queue, or computed and not yet counted. -/
inductive Hand where
  | idle
  | popped (packetIndex : ℕ)
  | computed
deriving DecidableEq

structure Handle where
  packetBuffer : List ℕ
  hand : Hand
deriving DecidableEq

/-- A frame as the point cloud callback gets it, beside what the sequential run has computed. -/
structure Published (Pt : Type) where
  frame : LidarDecodedFrame Pt
  packets : List UdpPacket
  again : Option UdpPacket
  sequential : ℕ → Pt
  writes : ℕ → ℕ

/-- `n` is `handle_thread_count_`. The last four fields only record: the points as they would be if
each packet were computed when it is pushed, how often each slot is written in the frame, the indices
dropped, and the frames published. -/
structure Pipeline (σ Pt Fault : Type) (n : ℕ) where
  main : RunState σ Pt Fault
  pc : RunPc
  decodedPacketsBuffer : List ℕ
  computePacketNum : ℕ
  parser : Hand
  nUDPCount : ℕ
  handles : Fin n → Handle
  sequential : ℕ → Pt
  writes : ℕ → ℕ
  dropped : List ℕ
  published : List (Published Pt)

inductive Action (n : ℕ) where
  | main (fetch : Fetch)
  | parser
  | handle (i : Fin n)

namespace Pipeline

variable {σ Pt Fault : Type} {n : ℕ}

def start (main : RunState σ Pt Fault) (computePacketNum : ℕ) : Pipeline σ Pt Fault n where
  main := main
  pc := .head
  decodedPacketsBuffer := []
  computePacketNum := computePacketNum
  parser := .idle
  nUDPCount := 0
  handles _ := ⟨[], .idle⟩
  sequential := main.frame.points
  writes _ := 0
  dropped := []
  published := []

def appended (s : Pipeline σ Pt Fault n) : Pipeline σ Pt Fault n :=
  { s with pc := if kMaxPacketNumPerFrame ≤ s.main.packetIndex then .clearDecoded else .head }

def restart (s : Pipeline σ Pt Fault n) (pc : RunPc) : Pipeline σ Pt Fault n :=
  { s with main := s.main.restart, pc := pc, sequential := s.main.frame.points, writes := fun _ => 0 }

variable (env : Environment) (P : Parser σ Pt Fault) (device : DeviceFilter)

def compute (k : ℕ) (s : Pipeline σ Pt Fault n) : Pipeline σ Pt Fault n :=
  let points := s.main.udpParser.computeXYZI P s.main.frame k
  { s with
    main := { s.main with frame := { s.main.frame with points := points.val } }
    writes := fun i => s.writes i + points.log.count (.point i) }

def frameNumAdd (s : Pipeline σ Pt Fault n) : Pipeline σ Pt Fault n :=
  { s with computePacketNum := (s.computePacketNum + 1) % 2 ^ 32 }

def publishFrame (again : Option UdpPacket) (s : Pipeline σ Pt Fault n) : Pipeline σ Pt Fault n :=
  if kMinPointsOfOneFrame < s.main.frame.pointsNum then
    { s with published := s.published ++
      [⟨s.main.frame, s.main.udpPacketFrame, again, s.sequential, s.writes⟩] }
  else s

def decodePacket (packet : UdpPacket) (s : Pipeline σ Pt Fault n) : Pipeline σ Pt Fault n :=
  let d := (s.main.decode env P packet).val
  let s := { s with main := d.2 }
  if d.1 ≠ 0 then s
  else if d.2.frame.scanComplete then
    { s with
      main := d.2.endFrame
      pc := .wait (if d.2.frame.packetNum ≠ d.2.packetIndex then some packet else none) }
  else if d.2.frame.packetNum ≠ d.2.packetIndex then { s with pc := .push packet false }
  else s.appended

def mainStep (fetch : Fetch) (s : Pipeline σ Pt Fault n) : Option (Pipeline σ Pt Fault n) :=
  match s.pc with
  | .head =>
    match device.classify s.main.packetIndex fetch with
    | .skip => some s
    | .fault packet => some { s with main := (s.main.parseFault P packet).val }
    | .decode packet => some (s.decodePacket env P packet)
  | .push packet first =>
    -- `push_back` of the ring waits for room
    if s.decodedPacketsBuffer.length < kPacketBufferSize then
      some { s with
        decodedPacketsBuffer := s.decodedPacketsBuffer ++ [s.main.packetIndex]
        sequential := (s.main.udpParser.computeXYZI P { s.main.frame with points := s.sequential }
          s.main.packetIndex).val
        pc := .count packet first }
    else none
  | .count packet first =>
    let s := { s with main := s.main.count packet }
    some (if first then { s with pc := .head } else s.appended)
  | .wait again =>
    some (if s.computePacketNum = s.main.packetIndex then { s with pc := .zero again } else s)
  | .zero again => some { s with computePacketNum := 0, pc := .publish again }
  | .publish again => some ((s.publishFrame again).restart (match again with
      | some packet => .reopen packet
      | none => .head))
  | .reopen packet => some { s with main := (s.main.decode env P packet).val.2, pc := .push packet true }
  | .clearDecoded => some { s with
      decodedPacketsBuffer := []
      pc := if 1 < n then .clearHandle 0 else .update }
  | .clearHandle i => some { s with
      handles := fun j => if j.val = i then { s.handles j with packetBuffer := [] } else s.handles j
      pc := if i + 1 < n then .clearHandle (i + 1) else .update }
  | .update => some (s.restart .head)

def dispatch (k : ℕ) (i : Fin n) (s : Pipeline σ Pt Fault n) : Pipeline σ Pt Fault n :=
  let pushed := (s.handles i).packetBuffer ++ [k]
  let full := kPacketBufferSize < pushed.length
  { s with
    handles := Function.update s.handles i { s.handles i with
      packetBuffer := if full then pushed.tail else pushed }
    dropped := if full then s.dropped ++ pushed.head?.toList else s.dropped
    nUDPCount := i + 1
    parser := .idle }

def parserStep (s : Pipeline σ Pt Fault n) : Option (Pipeline σ Pt Fault n) :=
  match s.parser with
  | .idle =>
    match s.decodedPacketsBuffer with
    | [] => none
    | k :: rest => some { s with decodedPacketsBuffer := rest, parser := .popped k }
  | .popped k =>
    if h : n < 2 then some { s.compute P k with parser := .computed }
    else
      let i : Fin n := ⟨s.nUDPCount % n, Nat.mod_lt _ (by omega)⟩
      -- a handle thread with an index in its hands holds its mutex
      if (s.handles i).hand = .idle then some (s.dispatch k i) else none
  | .computed => some { s.frameNumAdd with parser := .idle }

def handleStep (i : Fin n) (s : Pipeline σ Pt Fault n) : Option (Pipeline σ Pt Fault n) :=
  let put (hand : Hand) (packetBuffer : List ℕ) := Function.update s.handles i ⟨packetBuffer, hand⟩
  match (s.handles i).hand with
  | .idle =>
    match (s.handles i).packetBuffer with
    | [] => none
    | k :: rest => some { s with handles := put (.popped k) rest }
  | .popped k => some { s.compute P k with handles := put .computed (s.handles i).packetBuffer }
  | .computed => some { s.frameNumAdd with handles := put .idle (s.handles i).packetBuffer }

def step (s : Pipeline σ Pt Fault n) : Action n → Option (Pipeline σ Pt Fault n)
  | .main fetch => s.mainStep env P device fetch
  | .parser => s.parserStep P
  | .handle i => s.handleStep P i

section DecodePacket

variable {env P} {s : Pipeline σ Pt Fault n} {packet : UdpPacket}

lemma decodePacket_of_ret_ne (h : (s.main.decode env P packet).val.1 ≠ 0) :
    s.decodePacket env P packet = { s with main := (s.main.decode env P packet).val.2 } := by
  simp only [decodePacket]
  rw [if_pos h]

lemma decodePacket_of_scanComplete (h0 : (s.main.decode env P packet).val.1 = 0)
    (hscan : (s.main.decode env P packet).val.2.frame.scanComplete = true) :
    s.decodePacket env P packet = { s with
      main := (s.main.decode env P packet).val.2.endFrame
      pc := .wait (if (s.main.decode env P packet).val.2.frame.packetNum ≠
          (s.main.decode env P packet).val.2.packetIndex then some packet else none) } := by
  simp only [decodePacket]
  rw [if_neg (not_not.mpr h0), if_pos hscan]

lemma decodePacket_of_stored (h0 : (s.main.decode env P packet).val.1 = 0)
    (hscan : (s.main.decode env P packet).val.2.frame.scanComplete = false)
    (hne : (s.main.decode env P packet).val.2.frame.packetNum ≠ (s.main.decode env P packet).val.2.packetIndex) :
    s.decodePacket env P packet = { s with
      main := (s.main.decode env P packet).val.2
      pc := .push packet false } := by
  simp only [decodePacket]
  rw [if_neg (not_not.mpr h0), if_neg (Bool.eq_false_iff.mp hscan), if_pos hne]

end DecodePacket

end Pipeline

end HesaiSdk.Driver
