import HesaiSdk.Lidar.Recording

/-! Recordings one after the other: `StartRecordPcap` and `StopRecordPcap` on one thread, beside the receive
thread and the dumping thread. A call is followed statement by statement. -/

namespace HesaiSdk.Lidar

open Container Source Library.Transition

/-- The thread of the calls stands before the next statement: in `StartRecordPcap`, with the flag set, before
`dumping_ = false` (`enabled`), `join` (`closing`), `ofs_.open` (`opening`) and `dumping_ = true` (`starting`);
in `StopRecordPcap`, with the flag cleared, before `dumping_ = false` (`disabled`) and `join` (`stopping`). -/
inductive ControlPoint where
  | idle
  | enabled
  | closing
  | opening
  | starting
  | disabled
  | stopping
deriving DecidableEq

def ControlPoint.inStart : ControlPoint → Bool
  | enabled | closing | opening | starting => true
  | _ => false

def ControlPoint.inStop : ControlPoint → Bool
  | disabled | stopping => true
  | _ => false

inductive DumpingThread where
  | none
  | running
  | returned
deriving DecidableEq

/-- A packet, and the recording in which the receive thread found `is_record_pcap_` true for it. -/
structure Accepted where
  packet : PandarPacket
  session : ℕ
deriving Inhabited

/-- The members that record. A session begins where `StartRecordPcap` sets the flag; `ofs` is the session
whose file is open. The last four fields only record: the session that is on, how many of them have had their
files closed, what was accepted, and what was written to which file. -/
structure SessionRecorder where
  isRecordPcap : Bool
  dumping : Bool
  dumpingThread : DumpingThread
  ofs : Option ℕ
  packetsCache : BlockingRing Accepted (32 * 1024)
  tested : Option Accepted
  control : ControlPoint
  session : ℕ
  ended : ℕ
  accepted : List Accepted
  written : List (ℕ × Accepted)

inductive SessionAction where
  | test (packet : UdpPacket)
  | dump
  | startRecordPcap
  | stopRecordPcap
  | clearDumping
  | join
  | openFile (good : Bool)
  | startDumping
  | write
  | leave

namespace SessionRecorder

lemma cache_pos : 0 < 32 * 1024 := by decide

def start (memory : Fin (32 * 1024) → Accepted) : SessionRecorder where
  isRecordPcap := false
  dumping := false
  dumpingThread := .none
  ofs := none
  packetsCache := BlockingRing.start cache_pos memory
  tested := none
  control := .idle
  session := 0
  ended := 0
  accepted := []
  written := []

def acceptedNow (port : UInt16) (packet : UdpPacket) (s : SessionRecorder) : Option Accepted :=
  if s.isRecordPcap then (Recorder.dumped port packet).map fun pkt => ⟨pkt, s.session⟩ else none

/-- The test of `RecieveUdpThread` behind its switch. -/
def test (port : UInt16) (packet : UdpPacket) (s : SessionRecorder) : Option SessionRecorder :=
  if s.tested.isSome then none
  else some { s with
    tested := s.acceptedNow port packet
    accepted := s.accepted ++ (s.acceptedNow port packet).toList }

def dump (s : SessionRecorder) : Option SessionRecorder :=
  s.tested.bind fun pkt => (s.packetsCache.push pkt).map fun cache => { s with packetsCache := cache, tested := none }

def startRecordPcap (s : SessionRecorder) : Option SessionRecorder :=
  if s.control = .idle then some { s with isRecordPcap := true, control := .enabled, session := s.session + 1 }
  else none

def stopRecordPcap (s : SessionRecorder) : Option SessionRecorder :=
  if s.control = .idle then some { s with isRecordPcap := false, control := .disabled } else none

def clearDumping (s : SessionRecorder) : Option SessionRecorder :=
  match s.control with
  | .enabled => some { s with dumping := false, control := .closing }
  | .disabled => some { s with dumping := false, control := .stopping }
  | _ => none

/-- `join` waits for a dumping thread that has not returned; then the file is closed. -/
def join (s : SessionRecorder) : Option SessionRecorder :=
  if s.dumpingThread = .running then none
  else
    match s.control with
    | .closing => some { s with dumpingThread := .none, ofs := none, control := .opening, ended := s.session - 1 }
    | .stopping => some { s with dumpingThread := .none, ofs := none, control := .idle, ended := s.session }
    | _ => none

/-- A file that does not open throws in `Save`, whose result nobody reads. -/
def openFile (good : Bool) (s : SessionRecorder) : Option SessionRecorder :=
  if s.control = .opening then
    if good then some { s with ofs := some s.session, control := .starting } else some { s with control := .idle }
  else none

def startDumping (s : SessionRecorder) : Option SessionRecorder :=
  if s.control = .starting then some { s with dumping := true, dumpingThread := .running, control := .idle } else none

def write (s : SessionRecorder) : Option SessionRecorder :=
  if s.dumpingThread = .running then
    s.packetsCache.popFront.map fun r => { s with
      packetsCache := r.2
      written := s.written ++ (s.ofs.map fun session => (session, r.1)).toList }
  else none

/-- The loop of the dumping thread ends when `dumping_` is false and the cache is empty. -/
def leave (s : SessionRecorder) : Option SessionRecorder :=
  if s.dumpingThread = .running ∧ s.dumping = false ∧ s.packetsCache.ring.empty then
    some { s with dumpingThread := .returned }
  else none

def step (port : UInt16) (s : SessionRecorder) : SessionAction → Option SessionRecorder
  | .test packet => s.test port packet
  | .dump => s.dump
  | .startRecordPcap => s.startRecordPcap
  | .stopRecordPcap => s.stopRecordPcap
  | .clearDumping => s.clearDumping
  | .join => s.join
  | .openFile good => s.openFile good
  | .startDumping => s.startDumping
  | .write => s.write
  | .leave => s.leave

/-- `StartRecordPcap` on its own. -/
def startCall (good : Bool) : List SessionAction :=
  [.startRecordPcap, .clearDumping, .join, .openFile good] ++ if good then [.startDumping] else []

def Attended (s : SessionRecorder) : Prop :=
  s.control.inStart = false → s.isRecordPcap = true → s.dumpingThread = .running ∧ s.dumping = true

/-- But for the time inside `StartRecordPcap`: while the flag is set there is a dumping thread, nothing lets
it leave its loop, and it takes a packet from the cache whenever there is one. -/
def Drained (s : SessionRecorder) : Prop :=
  s.control.inStart = false → s.isRecordPcap = true → s.dumpingThread = .running ∧ s.dumping = true ∧
    (s.packetsCache.ring.notEmpty = true → ∃ t, s.write = some t)

section Steps

variable {port : UInt16} {s t : SessionRecorder} {a : SessionAction} {packet : UdpPacket} {good : Bool}

lemma test_eq (h : s.test port packet = some t) : s.tested = none ∧ t = { s with
    tested := s.acceptedNow port packet
    accepted := s.accepted ++ (s.acceptedNow port packet).toList } := by
  rw [test] at h
  split_ifs at h with hbusy
  exact ⟨Option.not_isSome_iff_eq_none.mp hbusy, (Option.some.inj h).symm⟩

lemma dump_eq (h : s.dump = some t) : ∃ pkt cache, s.tested = some pkt ∧ s.packetsCache.push pkt = some cache ∧
    t = { s with packetsCache := cache, tested := none } := by
  obtain ⟨pkt, hpkt, h⟩ := Option.bind_eq_some_iff.mp h
  obtain ⟨cache, hpush, rfl⟩ := Option.map_eq_some_iff.mp h
  exact ⟨pkt, cache, hpkt, hpush, rfl⟩

lemma startRecordPcap_eq (h : s.startRecordPcap = some t) : s.control = .idle ∧
    t = { s with isRecordPcap := true, control := .enabled, session := s.session + 1 } := by
  rw [startRecordPcap] at h
  split_ifs at h with hidle
  exact ⟨hidle, (Option.some.inj h).symm⟩

lemma stopRecordPcap_eq (h : s.stopRecordPcap = some t) : s.control = .idle ∧
    t = { s with isRecordPcap := false, control := .disabled } := by
  rw [stopRecordPcap] at h
  split_ifs at h with hidle
  exact ⟨hidle, (Option.some.inj h).symm⟩

lemma clearDumping_eq (h : s.clearDumping = some t) :
    s.control = .enabled ∧ t = { s with dumping := false, control := .closing } ∨
      s.control = .disabled ∧ t = { s with dumping := false, control := .stopping } := by
  rw [clearDumping] at h
  split at h
  · exact Or.inl ⟨by assumption, (Option.some.inj h).symm⟩
  · exact Or.inr ⟨by assumption, (Option.some.inj h).symm⟩
  · exact absurd h.symm (Option.some_ne_none t)

lemma join_eq (h : s.join = some t) : s.dumpingThread ≠ .running ∧
    (s.control = .closing ∧
        t = { s with dumpingThread := .none, ofs := none, control := .opening, ended := s.session - 1 } ∨
      s.control = .stopping ∧
        t = { s with dumpingThread := .none, ofs := none, control := .idle, ended := s.session }) := by
  rw [join] at h
  split_ifs at h with hrun
  split at h
  · exact ⟨hrun, Or.inl ⟨by assumption, (Option.some.inj h).symm⟩⟩
  · exact ⟨hrun, Or.inr ⟨by assumption, (Option.some.inj h).symm⟩⟩
  · exact absurd h.symm (Option.some_ne_none t)

lemma openFile_eq (h : s.openFile good = some t) : s.control = .opening ∧
    (good = true ∧ t = { s with ofs := some s.session, control := .starting } ∨
      good = false ∧ t = { s with control := .idle }) := by
  rw [openFile] at h
  split_ifs at h with hopening hgood
  · exact ⟨hopening, Or.inl ⟨hgood, (Option.some.inj h).symm⟩⟩
  · exact ⟨hopening, Or.inr ⟨Bool.eq_false_iff.mpr hgood, (Option.some.inj h).symm⟩⟩

lemma startDumping_eq (h : s.startDumping = some t) : s.control = .starting ∧
    t = { s with dumping := true, dumpingThread := .running, control := .idle } := by
  rw [startDumping] at h
  split_ifs at h with hstarting
  exact ⟨hstarting, (Option.some.inj h).symm⟩

lemma write_eq (h : s.write = some t) : s.dumpingThread = .running ∧ ∃ pkt cache,
    s.packetsCache.popFront = some (pkt, cache) ∧ t = { s with
      packetsCache := cache
      written := s.written ++ (s.ofs.map fun session => (session, pkt)).toList } := by
  rw [write] at h
  split_ifs at h with hrun
  obtain ⟨⟨pkt, cache⟩, hpop, rfl⟩ := Option.map_eq_some_iff.mp h
  exact ⟨hrun, pkt, cache, hpop, rfl⟩

lemma leave_eq (h : s.leave = some t) :
    (s.dumpingThread = .running ∧ s.dumping = false ∧ s.packetsCache.ring.empty = true) ∧
      t = { s with dumpingThread := .returned } := by
  rw [leave] at h
  split_ifs at h with hleave
  exact ⟨hleave, (Option.some.inj h).symm⟩

end Steps

/-- What the calls keep, whether or not the files open. -/
structure Consistent (s : SessionRecorder) : Prop where
  inStart : s.control.inStart = true → s.isRecordPcap = true ∧ s.ended < s.session
  inStop : s.control.inStop = true → s.isRecordPcap = false
  joined : s.control = .opening ∨ s.control = .starting → s.dumpingThread = .none
  opened : s.control = .starting → s.ofs = some s.session
  returned : s.dumpingThread = .returned → s.control = .closing ∨ s.control = .stopping
  dumping : s.dumpingThread = .running → (s.dumping = false ↔ s.control = .closing ∨ s.control = .stopping)
  running : s.dumpingThread = .running → ∃ k, s.ofs = some k ∧ s.ended < k ∧
    (s.control.inStart = false ∧ k = s.session ∨ (s.control = .enabled ∨ s.control = .closing) ∧ k + 1 = s.session)
  ended_le : s.ended ≤ s.session

variable {port : UInt16} {s t : SessionRecorder} {a : SessionAction}

lemma consistent_start (memory : Fin (32 * 1024) → Accepted) : (start memory).Consistent where
  inStart := nofun
  inStop := nofun
  joined := fun h => h.elim nofun nofun
  opened := nofun
  returned := nofun
  dumping := nofun
  running := nofun
  ended_le := Nat.le_refl 0

lemma not_returned_of_idle (hs : s.Consistent) (hidle : s.control = .idle) : s.dumpingThread ≠ .returned := by
  intro hret
  have h := hs.returned hret
  rw [hidle] at h
  exact h.elim nofun nofun

lemma running_of_idle (hs : s.Consistent) (hidle : s.control = .idle) (hrun : s.dumpingThread = .running) :
    s.dumping ≠ false ∧ s.ofs = some s.session ∧ s.ended < s.session := by
  have hdumping := hs.dumping hrun
  obtain ⟨k, hk, hended, hside⟩ := hs.running hrun
  rw [hidle] at hdumping hside
  refine ⟨fun h => (hdumping.mp h).elim nofun nofun, ?_⟩
  rcases hside with ⟨-, rfl⟩ | ⟨h, -⟩
  · exact ⟨hk, hended⟩
  · exact h.elim nofun nofun

lemma startRecordPcap_consistent (hs : s.Consistent) (h : s.startRecordPcap = some t) : t.Consistent := by
  obtain ⟨hidle, rfl⟩ := startRecordPcap_eq h
  have hnot := not_returned_of_idle hs hidle
  refine ⟨fun _ => ⟨rfl, Nat.lt_succ_of_le hs.ended_le⟩, nofun, fun h => h.elim nofun nofun, nofun,
    fun hret => absurd hret hnot, fun hrun => ?_, fun hrun => ?_, hs.ended_le.trans (Nat.le_succ _)⟩
  · exact iff_of_false (running_of_idle hs hidle hrun).1 fun h => h.elim nofun nofun
  · obtain ⟨-, hofs, hended⟩ := running_of_idle hs hidle hrun
    exact ⟨s.session, hofs, hended, Or.inr ⟨Or.inl rfl, rfl⟩⟩

lemma stopRecordPcap_consistent (hs : s.Consistent) (h : s.stopRecordPcap = some t) : t.Consistent := by
  obtain ⟨hidle, rfl⟩ := stopRecordPcap_eq h
  have hnot := not_returned_of_idle hs hidle
  refine ⟨nofun, fun _ => rfl, fun h => h.elim nofun nofun, nofun, fun hret => absurd hret hnot, fun hrun => ?_,
    fun hrun => ?_, hs.ended_le⟩
  · exact iff_of_false (running_of_idle hs hidle hrun).1 fun h => h.elim nofun nofun
  · obtain ⟨-, hofs, hended⟩ := running_of_idle hs hidle hrun
    exact ⟨s.session, hofs, hended, Or.inl ⟨rfl, rfl⟩⟩

lemma clearDumping_consistent (hs : s.Consistent) (h : s.clearDumping = some t) : t.Consistent := by
  obtain ⟨henabled, rfl⟩ | ⟨hdisabled, rfl⟩ := clearDumping_eq h
  · refine ⟨fun _ => hs.inStart (by rw [henabled]; rfl), nofun, fun h => h.elim nofun nofun, nofun,
      fun _ => Or.inl rfl, fun _ => iff_of_true rfl (Or.inl rfl), fun hrun => ?_, hs.ended_le⟩
    obtain ⟨k, hk, hended, hside⟩ := hs.running hrun
    rw [henabled] at hside
    rcases hside with ⟨h, -⟩ | ⟨-, hsession⟩
    · exact absurd h nofun
    · exact ⟨k, hk, hended, Or.inr ⟨Or.inr rfl, hsession⟩⟩
  · refine ⟨nofun, fun _ => hs.inStop (by rw [hdisabled]; rfl), fun h => h.elim nofun nofun, nofun,
      fun _ => Or.inr rfl, fun _ => iff_of_true rfl (Or.inr rfl), fun hrun => ?_, hs.ended_le⟩
    obtain ⟨k, hk, hended, hside⟩ := hs.running hrun
    rw [hdisabled] at hside
    rcases hside with ⟨-, hsession⟩ | ⟨h, -⟩
    · exact ⟨k, hk, hended, Or.inl ⟨rfl, hsession⟩⟩
    · exact h.elim nofun nofun

lemma join_consistent (hs : s.Consistent) (h : s.join = some t) : t.Consistent := by
  obtain ⟨-, ⟨hclosing, rfl⟩ | ⟨-, rfl⟩⟩ := join_eq h
  · obtain ⟨hflag, hlt⟩ := hs.inStart (by rw [hclosing]; rfl)
    have hsession : s.session - 1 < s.session := Nat.sub_lt (Nat.zero_lt_of_lt hlt) Nat.one_pos
    exact ⟨fun _ => ⟨hflag, hsession⟩, nofun, fun _ => rfl, nofun, nofun, nofun, nofun, hsession.le⟩
  · exact ⟨nofun, nofun, fun h => h.elim nofun nofun, nofun, nofun, nofun, nofun, Nat.le_refl _⟩

lemma openFile_consistent {good : Bool} (hs : s.Consistent) (h : s.openFile good = some t) : t.Consistent := by
  obtain ⟨hopening, hfile⟩ := openFile_eq h
  have hnone := hs.joined (Or.inl hopening)
  have hreturned : ¬s.dumpingThread = .returned := fun hret => absurd (hnone.symm.trans hret) nofun
  have hrunning : ¬s.dumpingThread = .running := fun hrun => absurd (hnone.symm.trans hrun) nofun
  obtain ⟨-, rfl⟩ | ⟨-, rfl⟩ := hfile
  · exact ⟨fun _ => hs.inStart (by rw [hopening]; rfl), nofun, fun _ => hnone, fun _ => rfl,
      fun hret => absurd hret hreturned, fun hrun => absurd hrun hrunning, fun hrun => absurd hrun hrunning,
      hs.ended_le⟩
  · exact ⟨nofun, nofun, fun h => h.elim nofun nofun, nofun, fun hret => absurd hret hreturned,
      fun hrun => absurd hrun hrunning, fun hrun => absurd hrun hrunning, hs.ended_le⟩

lemma startDumping_consistent (hs : s.Consistent) (h : s.startDumping = some t) : t.Consistent := by
  obtain ⟨hstarting, rfl⟩ := startDumping_eq h
  obtain ⟨-, hlt⟩ := hs.inStart (by rw [hstarting]; rfl)
  exact ⟨nofun, nofun, fun h => h.elim nofun nofun, nofun, nofun,
    fun _ => iff_of_false nofun fun h => h.elim nofun nofun,
    fun _ => ⟨s.session, hs.opened hstarting, hlt, Or.inl ⟨rfl, rfl⟩⟩, hs.ended_le⟩

lemma leave_consistent (hs : s.Consistent) (h : s.leave = some t) : t.Consistent := by
  obtain ⟨⟨hrun, hdumping, -⟩, rfl⟩ := leave_eq h
  have hcontrol := (hs.dumping hrun).mp hdumping
  refine ⟨hs.inStart, hs.inStop, fun hjoined => ?_, hs.opened, fun _ => hcontrol, nofun, nofun, hs.ended_le⟩
  exact absurd ((hs.joined hjoined).symm.trans hrun) nofun

lemma step_consistent (hs : s.Consistent) (h : s.step port a = some t) : t.Consistent := by
  cases a with
  | test packet =>
    obtain ⟨-, rfl⟩ := test_eq h
    exact ⟨hs.1, hs.2, hs.3, hs.4, hs.5, hs.6, hs.7, hs.8⟩
  | dump =>
    obtain ⟨pkt, cache, -, -, rfl⟩ := dump_eq h
    exact ⟨hs.1, hs.2, hs.3, hs.4, hs.5, hs.6, hs.7, hs.8⟩
  | startRecordPcap => exact startRecordPcap_consistent hs h
  | stopRecordPcap => exact stopRecordPcap_consistent hs h
  | clearDumping => exact clearDumping_consistent hs h
  | join => exact join_consistent hs h
  | openFile good => exact openFile_consistent hs h
  | startDumping => exact startDumping_consistent hs h
  | write =>
    obtain ⟨-, pkt, cache, -, rfl⟩ := write_eq h
    exact ⟨hs.1, hs.2, hs.3, hs.4, hs.5, hs.6, hs.7, hs.8⟩
  | leave => exact leave_consistent hs h

def Opens : SessionAction → Prop
  | .openFile good => good = true
  | _ => True

lemma write_of_running (hrun : s.dumpingThread = .running) (hsome : s.packetsCache.ring.notEmpty = true) :
    s.write = some { s with
      packetsCache := { s.packetsCache with
        ring := s.packetsCache.ring.popFront.2
        popped := s.packetsCache.popped ++ [s.packetsCache.ring.popFront.1] }
      written := s.written ++ (s.ofs.map fun session => (session, s.packetsCache.ring.popFront.1)).toList } := by
  rw [write, if_pos hrun, BlockingRing.popFront, if_pos hsome]
  rfl

lemma drained_of_attended (hs : s.Attended) : s.Drained := by
  intro hout hflag
  obtain ⟨hrun, hdumping⟩ := hs hout hflag
  exact ⟨hrun, hdumping, fun hsome => ⟨_, write_of_running hrun hsome⟩⟩

lemma step_attended (hc : s.Consistent) (hs : s.Attended) (ha : Opens a) (h : s.step port a = some t) :
    t.Attended := by
  intro hout hflag
  cases a with
  | test packet =>
    obtain ⟨-, rfl⟩ := test_eq h
    exact hs hout hflag
  | dump =>
    obtain ⟨pkt, cache, -, -, rfl⟩ := dump_eq h
    exact hs hout hflag
  | startRecordPcap =>
    obtain ⟨-, rfl⟩ := startRecordPcap_eq h
    exact absurd hout nofun
  | stopRecordPcap =>
    obtain ⟨-, rfl⟩ := stopRecordPcap_eq h
    exact absurd hflag nofun
  | clearDumping =>
    obtain ⟨-, rfl⟩ | ⟨hdisabled, rfl⟩ := clearDumping_eq h
    · exact absurd hout nofun
    · exact absurd (hflag.symm.trans (hc.inStop (by rw [hdisabled]; rfl))) nofun
  | join =>
    obtain ⟨-, ⟨-, rfl⟩ | ⟨hstopping, rfl⟩⟩ := join_eq h
    · exact absurd hout nofun
    · exact absurd (hflag.symm.trans (hc.inStop (by rw [hstopping]; rfl))) nofun
  | openFile good =>
    obtain ⟨-, ⟨-, rfl⟩ | ⟨hfailed, -⟩⟩ := openFile_eq h
    · exact absurd hout nofun
    · exact absurd (hfailed.symm.trans ha) nofun
  | startDumping =>
    obtain ⟨-, rfl⟩ := startDumping_eq h
    exact ⟨rfl, rfl⟩
  | write =>
    obtain ⟨-, pkt, cache, -, rfl⟩ := write_eq h
    exact hs hout hflag
  | leave =>
    obtain ⟨⟨-, hdumping, -⟩, rfl⟩ := leave_eq h
    exact absurd ((hs hout hflag).2.symm.trans hdumping) nofun

variable (memory : Fin (32 * 1024) → Accepted)

lemma consistent_of_reaches {C : SessionRecorder → SessionAction → Prop} (h : Reaches (step port) C (start memory) s) :
    s.Consistent :=
  reaches_invariant (fun _ _ _ _ hs h => step_consistent hs h) h (consistent_start memory)

lemma reaches_drained (h : Reaches (step port) (fun _ a => Opens a) (start memory) s) : s.Drained := by
  refine drained_of_attended (reaches_invariant (P := fun s => s.Consistent ∧ s.Attended) (fun _ _ _ ha hs h => ?_) h
    ⟨consistent_start memory, fun _ hflag => absurd hflag nofun⟩).2
  exact ⟨step_consistent hs.1 h, step_attended hs.1 hs.2 ha h⟩

/-- The call that could not open its file returns with the flag set and without a dumping thread. -/
lemma not_drained_of_openFile (hs : s.Consistent) (h : s.step port (.openFile false) = some t) : ¬t.Drained := by
  obtain ⟨hopening, ⟨hgood, -⟩ | ⟨-, rfl⟩⟩ := openFile_eq h
  · exact absurd hgood nofun
  · have hnone := hs.joined (Or.inl hopening)
    intro hdrained
    have hrun := (hdrained rfl (hs.inStart (by rw [hopening]; rfl)).1).1
    exact absurd (hnone.symm.trans hrun) nofun

/-- In every run there is a dumping thread between the calls while the flag is set, just when every
`StartRecordPcap` opens its file. -/
theorem drained_iff (actions : List SessionAction) (h : exec (step port) actions (start memory) = some s) :
    (∀ done t, done <+: actions → exec (step port) done (start memory) = some t → t.Drained) ↔
      .openFile false ∉ actions := by
  constructor
  · rintro hdrained hmem
    obtain ⟨done, rest, rfl⟩ := List.append_of_mem hmem
    rw [List.append_cons, exec_append] at h
    obtain ⟨t, ht, -⟩ := Option.bind_eq_some_iff.mp h
    have hfailed := ht
    rw [exec_append] at hfailed
    obtain ⟨u, hu, hut⟩ := Option.bind_eq_some_iff.mp hfailed
    obtain ⟨v, hv, hvt⟩ := Option.bind_eq_some_iff.mp hut
    obtain rfl := Option.some.inj hvt
    have hprefix : done ++ [.openFile false] <+: done ++ .openFile false :: rest :=
      ⟨rest, (List.append_cons done _ rest).symm⟩
    exact not_drained_of_openFile (consistent_of_reaches memory (reaches_of_exec hu)) hv (hdrained _ _ hprefix ht)
  · rintro hopens done t ⟨rest, rfl⟩ ht
    refine reaches_drained memory (reaches_of_exec_forall (fun a ha => ?_) ht)
    cases a with
    | openFile good =>
      cases good
      · exact absurd (List.mem_append_left rest ha) hopens
      · rfl
    | _ => trivial

theorem drained_iff_started : ∃ s, exec (step 2368) (startCall true) (start fun _ => default) = some s ∧
    s.control = .idle ∧ s.isRecordPcap = true ∧ s.Drained := by
  obtain ⟨s, hs⟩ : ∃ s, exec (step 2368) (startCall true) (start fun _ => default) = some s := ⟨_, rfl⟩
  have hcall : s.control = .idle ∧ s.isRecordPcap = true := by
    obtain rfl := Option.some.inj hs
    exact ⟨rfl, rfl⟩
  have hopens : .openFile false ∉ startCall true := by simp [startCall]
  exact ⟨s, hs, hcall.1, hcall.2, (drained_iff _ _ hs).mpr hopens _ s (List.prefix_refl _) hs⟩

section Returning

/-- The steps of a call that opens its file, and those of the dumping thread. -/
def OfCall : SessionAction → Prop
  | .clearDumping | .join | .openFile true | .startDumping | .write | .leave => True
  | _ => False

def Returns (port : UInt16) (s : SessionRecorder) : Prop :=
  ∃ actions t, (∀ a ∈ actions, OfCall a) ∧ exec (step port) actions s = some t ∧ t.control = .idle ∧
    t.dumpingThread = .running

lemma returns_of_step {u : SessionRecorder} (ha : OfCall a) (h : s.step port a = some u) (hu : u.Returns port) :
    s.Returns port := by
  obtain ⟨actions, t, hactions, ht, hreturned⟩ := hu
  refine ⟨a :: actions, t, List.forall_mem_cons.mpr ⟨ha, hactions⟩, ?_, hreturned⟩
  rw [exec, h]
  exact ht

lemma returns_of_starting (h : s.control = .starting) : s.Returns port :=
  returns_of_step (a := .startDumping) trivial (if_pos h) ⟨[], _, nofun, rfl, rfl, rfl⟩

lemma returns_of_opening (h : s.control = .opening) : s.Returns port :=
  returns_of_step (a := .openFile true) trivial (if_pos h) (returns_of_starting rfl)

lemma returns_of_joinable (h : s.control = .closing) (hrun : s.dumpingThread ≠ .running) : s.Returns port := by
  have hjoin : s.join = some { s with
      dumpingThread := .none, ofs := none, control := .opening, ended := s.session - 1 } := by
    rw [join, if_neg hrun, h]
  exact returns_of_step (a := .join) trivial hjoin (returns_of_opening rfl)

lemma returns_of_drain {n : ℕ} (h : s.control = .closing) (hdumping : s.dumping = false)
    (hrun : s.dumpingThread = .running) (hsize : s.packetsCache.ring.size = n) : s.Returns port := by
  induction n generalizing s with
  | zero =>
    have hleave : s.leave = some { s with dumpingThread := .returned } :=
      if_pos ⟨hrun, hdumping, beq_iff_eq.mpr hsize⟩
    exact returns_of_step (a := .leave) trivial hleave (returns_of_joinable h nofun)
  | succ n ih =>
    have hsome : s.packetsCache.ring.notEmpty = true := Ring.notEmpty_iff.mpr (hsize ▸ Nat.succ_pos n)
    have hwrite := write_of_running hrun hsome
    exact returns_of_step (a := .write) trivial hwrite (ih h hdumping hrun (Nat.sub_eq_of_eq_add hsize))

lemma returns_of_closing (h : s.control = .closing) (hdumping : s.dumpingThread = .running → s.dumping = false) :
    s.Returns port := by
  by_cases hrun : s.dumpingThread = .running
  · exact returns_of_drain h (hdumping hrun) hrun rfl
  · exact returns_of_joinable h hrun

/-- A call of `StartRecordPcap` whose file opens comes to its end, whatever the receive thread waits for. -/
theorem startRecordPcap_returns (hs : s.Consistent) (hin : s.control.inStart = true) : s.Returns port := by
  cases hcontrol : s.control with
  | enabled =>
    have hclear : s.clearDumping = some { s with dumping := false, control := .closing } := by
      rw [clearDumping, hcontrol]
    exact returns_of_step (a := .clearDumping) trivial hclear (returns_of_closing rfl fun _ => rfl)
  | closing => exact returns_of_closing hcontrol fun hrun => (hs.dumping hrun).mpr (Or.inl hcontrol)
  | opening => exact returns_of_opening hcontrol
  | starting => exact returns_of_starting hcontrol
  | idle | disabled | stopping => exact absurd (hcontrol ▸ hin) nofun

end Returning

/-- The state between two calls after a `StartRecordPcap` that failed, with `n` packets in the cache. -/
structure Failed (n : ℕ) (s : SessionRecorder) : Prop where
  control : s.control = .idle
  flag : s.isRecordPcap = true
  dumpingThread : s.dumpingThread = .none
  tested : s.tested = none
  size : s.packetsCache.ring.size = n

def oneByte : UdpPacket := { (default : UdpPacket) with packetLen := 1 }

lemma failed_succ {n : ℕ} (hs : s.Failed n) (hn : n < 32 * 1024) :
    ∃ t, exec (step port) [.test oneByte, .dump] s = some t ∧ t.Failed (n + 1) := by
  obtain ⟨hcontrol, hflag, hthread, htested, hsize⟩ := hs
  have hroom : s.packetsCache.ring.notFull = true := Ring.notFull_iff.mpr (hsize.trans_lt hn)
  let pkt : Accepted := ⟨PandarPacket.ofUdpPacket oneByte port.toNat, s.session⟩
  have hnow : s.acceptedNow port oneByte = some pkt := by
    rw [acceptedNow, if_pos hflag]
    rfl
  have htest : s.step port (.test oneByte) = some { s with tested := some pkt, accepted := s.accepted ++ [pkt] } := by
    show s.test port oneByte = _
    rw [test, htested, hnow]
    rfl
  have hpush : s.packetsCache.push pkt = some { s.packetsCache with
      ring := s.packetsCache.ring.pushBack hroom pkt
      pushed := s.packetsCache.pushed ++ [pkt] } := dif_pos hroom
  refine ⟨{ s with
    packetsCache := { s.packetsCache with
      ring := s.packetsCache.ring.pushBack hroom pkt
      pushed := s.packetsCache.pushed ++ [pkt] }
    tested := none
    accepted := s.accepted ++ [pkt] }, ?_, ⟨hcontrol, hflag, hthread, rfl, congrArg (· + 1) hsize⟩⟩
  rw [exec, htest]
  show ((s.packetsCache.push pkt).map _).bind some = _
  rw [hpush]
  rfl

lemma failed_fill {n : ℕ} (hs : s.Failed 0) (hn : n ≤ 32 * 1024) :
    ∃ actions t, exec (step port) actions s = some t ∧ t.Failed n := by
  induction n with
  | zero => exact ⟨[], s, rfl, hs⟩
  | succ n ih =>
    obtain ⟨actions, t, ht, hfailed⟩ := ih (Nat.le_of_succ_le hn)
    obtain ⟨u, hu, hnext⟩ : ∃ u, exec (step port) [.test oneByte, .dump] t = some u ∧ u.Failed (n + 1) :=
      failed_succ hfailed hn
    refine ⟨actions ++ [.test oneByte, .dump], u, ?_, hnext⟩
    rw [exec_append, ht]
    exact hu

/-- A file that does not open, and then as many packets as the cache holds. -/
theorem full_undrained : ∃ actions s, exec (step 2368) actions (start fun _ => default) = some s ∧
    s.control = .idle ∧ s.isRecordPcap = true ∧ s.packetsCache.ring.full = true ∧ s.dumpingThread = .none := by
  obtain ⟨s, hs⟩ : ∃ s, exec (step 2368) (startCall false) (start fun _ => default) = some s := ⟨_, rfl⟩
  have hfailed : s.Failed 0 := by
    obtain rfl := Option.some.inj hs
    exact ⟨rfl, rfl, rfl, rfl, rfl⟩
  obtain ⟨actions, t, ht, hcontrol, hflag, hthread, -, hsize⟩ := failed_fill hfailed (le_refl (32 * 1024))
  refine ⟨startCall false ++ actions, t, ?_, hcontrol, hflag, ?_, hthread⟩
  · rw [exec_append, hs]
    exact ht
  · rw [Ring.full, hsize]
    rfl

end SessionRecorder

end HesaiSdk.Lidar
