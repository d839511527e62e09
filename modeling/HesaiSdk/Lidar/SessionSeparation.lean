import HesaiSdk.Lidar.RecordSession

/-! Which packets the file of a recording holds. -/

namespace HesaiSdk.Lidar

open Container Source Library.Transition

namespace SessionRecorder

def acceptedIn (s : SessionRecorder) (k : ℕ) : List Accepted := s.accepted.filter (·.session = k)

def fileOf (s : SessionRecorder) (k : ℕ) : List Accepted := (s.written.filter (·.1 = k)).map Prod.snd

/-- A file holds packets accepted in its session, in their order, and all of them once it is closed. -/
def Separated (s : SessionRecorder) : Prop :=
  ∀ k, s.fileOf k <+: s.acceptedIn k ∧ (k ≤ s.ended → s.fileOf k = s.acceptedIn k)

/-- The steps that mix no sessions. Nothing is accepted in a session whose file does not open; no packet of
a new session is dumped while the thread of the one before is running; and no dumping thread leaves its loop
while a packet of its session is tested but not dumped. -/
def Unmixed (port : UInt16) (s : SessionRecorder) : SessionAction → Prop
  | .test packet => (s.acceptedNow port packet).isSome = true → s.control = .idle → s.dumpingThread = .running
  | .dump => ∀ pkt, s.tested = some pkt → s.dumpingThread = .running → s.ofs = some pkt.session
  | .openFile good => good = true ∨ ∀ pkt ∈ s.accepted, pkt.session ≠ s.session
  | .leave => ∀ pkt, s.tested = some pkt → s.ofs ≠ some pkt.session
  | _ => True

/-- Nothing accepted is lost, whatever the steps: it is in the file that was open, in the cache, or at `Dump`. -/
structure Lossless (s : SessionRecorder) : Prop where
  cache : s.packetsCache.Lossless
  accepted : s.accepted = s.packetsCache.pushed ++ s.tested.toList
  popped : s.packetsCache.popped = s.written.map Prod.snd

def pending (s : SessionRecorder) : List Accepted := s.packetsCache.ring.contents ++ s.tested.toList

/-- Where the packets of the sessions may be. -/
structure Sorted (s : SessionRecorder) : Prop where
  own : ∀ w ∈ s.written, w.1 = w.2.session
  cached : s.dumpingThread = .running → ∀ pkt ∈ s.packetsCache.ring.contents, s.ofs = some pkt.session
  held : s.dumpingThread = .running → ∀ pkt ∈ s.tested, s.ofs = some pkt.session ∨ pkt.session = s.session
  waiting : s.dumpingThread ≠ .running → ∀ pkt ∈ s.pending, pkt.session = s.session ∧ s.control.inStart = true

variable {port : UInt16} {s t : SessionRecorder} {a : SessionAction} {packet : UdpPacket} {pkt : Accepted}

lemma acceptedNow_eq_some (h : s.acceptedNow port packet = some pkt) :
    s.isRecordPcap = true ∧ pkt.session = s.session := by
  rw [acceptedNow] at h
  split_ifs at h with hflag
  obtain ⟨p, -, rfl⟩ := Option.map_eq_some_iff.mp h
  exact ⟨hflag, rfl⟩

lemma control_cases (c : ControlPoint) : c = .idle ∨ c.inStart = true ∨ c.inStop = true := by
  cases c <;> decide

def movesPacket : SessionAction → Bool
  | .test _ | .dump | .write => true
  | _ => false

lemma packets_kept (ha : movesPacket a = false) (h : s.step port a = some t) : t.packetsCache = s.packetsCache ∧
    t.tested = s.tested ∧ t.accepted = s.accepted ∧ t.written = s.written := by
  cases a with
  | test packet => exact absurd ha nofun
  | dump => exact absurd ha nofun
  | write => exact absurd ha nofun
  | startRecordPcap =>
    obtain ⟨-, rfl⟩ := startRecordPcap_eq h
    exact ⟨rfl, rfl, rfl, rfl⟩
  | stopRecordPcap =>
    obtain ⟨-, rfl⟩ := stopRecordPcap_eq h
    exact ⟨rfl, rfl, rfl, rfl⟩
  | clearDumping =>
    obtain ⟨-, rfl⟩ | ⟨-, rfl⟩ := clearDumping_eq h
    all_goals exact ⟨rfl, rfl, rfl, rfl⟩
  | join =>
    obtain ⟨-, ⟨-, rfl⟩ | ⟨-, rfl⟩⟩ := join_eq h
    all_goals exact ⟨rfl, rfl, rfl, rfl⟩
  | openFile good =>
    obtain ⟨-, ⟨-, rfl⟩ | ⟨-, rfl⟩⟩ := openFile_eq h
    all_goals exact ⟨rfl, rfl, rfl, rfl⟩
  | startDumping =>
    obtain ⟨-, rfl⟩ := startDumping_eq h
    exact ⟨rfl, rfl, rfl, rfl⟩
  | leave =>
    obtain ⟨-, rfl⟩ := leave_eq h
    exact ⟨rfl, rfl, rfl, rfl⟩

lemma lossless_kept (hs : s.Lossless) (ha : movesPacket a = false) (h : s.step port a = some t) : t.Lossless := by
  obtain ⟨hcache, htested, haccepted, hwritten⟩ := packets_kept ha h
  refine ⟨?_, ?_, ?_⟩
  · rw [hcache]
    exact hs.cache
  · rw [haccepted, hcache, htested]
    exact hs.accepted
  · rw [hcache, hwritten]
    exact hs.popped

lemma step_lossless (hc : s.Consistent) (hs : s.Lossless) (h : s.step port a = some t) : t.Lossless := by
  cases a with
  | test packet =>
    obtain ⟨hnone, rfl⟩ := test_eq h
    have haccepted := hs.accepted
    rw [hnone, Option.toList_none, List.append_nil] at haccepted
    exact ⟨hs.cache, congrArg (· ++ _) haccepted, hs.popped⟩
  | dump =>
    obtain ⟨pkt, cache, hpkt, hpush, rfl⟩ := dump_eq h
    obtain ⟨hin, hout⟩ := BlockingRing.push_lists hpush
    refine ⟨BlockingRing.push_lossless hs.cache hpush, ?_, hout.trans hs.popped⟩
    rw [hs.accepted, hpkt, hin, Option.toList_none, List.append_nil, Option.toList_some]
  | write =>
    obtain ⟨hrun, pkt, cache, hpop, rfl⟩ := write_eq h
    obtain ⟨hin, hout⟩ := BlockingRing.popFront_lists hpop
    obtain ⟨k, hk, -, -⟩ := hc.running hrun
    refine ⟨BlockingRing.popFront_lossless hs.cache hpop, ?_, ?_⟩
    · rw [hin]
      exact hs.accepted
    · rw [hout, hs.popped, hk, Option.map_some, Option.toList_some, List.map_append, List.map_singleton]
  | _ => exact lossless_kept hs rfl h

lemma accepted_eq (hs : s.Lossless) : s.accepted = s.written.map Prod.snd ++ s.pending := by
  rw [hs.accepted, ← hs.cache, hs.popped, pending, List.append_assoc]

lemma mem_accepted_of_pending (hs : s.Lossless) (h : pkt ∈ s.pending) : pkt ∈ s.accepted := by
  rw [accepted_eq hs]
  exact List.mem_append_right _ h

lemma test_sorted (hc : s.Consistent) (hs : s.Sorted) (ha : s.Unmixed port (.test packet))
    (h : s.test port packet = some t) : t.Sorted := by
  obtain ⟨-, rfl⟩ := test_eq h
  refine ⟨hs.own, hs.cached, fun _ pkt hpkt => Or.inr (acceptedNow_eq_some hpkt).2, fun hrun pkt hpkt => ?_⟩
  rcases List.mem_append.mp hpkt with hcached | htested
  · exact hs.waiting hrun pkt (List.mem_append_left _ hcached)
  · have hnow : s.acceptedNow port packet = some pkt := Option.mem_toList.mp htested
    obtain ⟨hflag, hsession⟩ := acceptedNow_eq_some hnow
    refine ⟨hsession, ?_⟩
    rcases control_cases s.control with hidle | hstart | hstop
    · exact absurd (ha (Option.isSome_of_eq_some hnow) hidle) hrun
    · exact hstart
    · exact absurd (hflag.symm.trans (hc.inStop hstop)) nofun

lemma dump_sorted (hs : s.Sorted) (ha : s.Unmixed port .dump) (h : s.dump = some t) : t.Sorted := by
  obtain ⟨pkt, cache, hpkt, hpush, rfl⟩ := dump_eq h
  have hcontents := BlockingRing.contents_push hpush
  refine ⟨hs.own, fun hrun p hp => ?_, nofun, fun hrun p hp => ?_⟩
  · rcases List.mem_append.mp (hcontents ▸ hp) with hold | hnew
    · exact hs.cached hrun p hold
    · obtain rfl := List.mem_singleton.mp hnew
      exact ha p hpkt hrun
  · refine hs.waiting hrun p ?_
    rw [pending, hpkt, Option.toList_some, ← hcontents]
    exact (List.mem_append.mp hp).resolve_right nofun

lemma write_sorted (hs : s.Sorted) (h : s.write = some t) : t.Sorted := by
  obtain ⟨hrun, pkt, cache, hpop, rfl⟩ := write_eq h
  have hcontents := BlockingRing.contents_popFront hpop
  refine ⟨fun w hw => ?_, fun _ p hp => ?_, hs.held, fun hstopped => absurd hrun hstopped⟩
  · rcases List.mem_append.mp hw with hold | hnew
    · exact hs.own w hold
    · obtain ⟨k, hk, rfl⟩ := Option.map_eq_some_iff.mp (Option.mem_toList.mp hnew)
      have hfront := hs.cached hrun pkt (hcontents ▸ List.mem_cons_self)
      exact Option.some.inj (hk.symm.trans hfront)
  · exact hs.cached hrun p (hcontents ▸ List.mem_cons_of_mem _ hp)

lemma startRecordPcap_sorted (hc : s.Consistent) (hs : s.Sorted) (h : s.startRecordPcap = some t) : t.Sorted := by
  obtain ⟨hidle, rfl⟩ := startRecordPcap_eq h
  have hin : s.control.inStart = false := by rw [hidle]; rfl
  refine ⟨hs.own, hs.cached, fun hrun pkt hpkt => Or.inl ?_, fun hrun pkt hpkt => ?_⟩
  · have hcurrent := (running_of_idle hc hidle hrun).2.1
    rcases hs.held hrun pkt hpkt with hown | hsession
    · exact hown
    · rw [hsession]
      exact hcurrent
  · exact absurd (hin.symm.trans (hs.waiting hrun pkt hpkt).2) nofun

lemma stopRecordPcap_sorted (hs : s.Sorted) (h : s.stopRecordPcap = some t) : t.Sorted := by
  obtain ⟨hidle, rfl⟩ := stopRecordPcap_eq h
  have hin : s.control.inStart = false := by rw [hidle]; rfl
  exact ⟨hs.own, hs.cached, hs.held, fun hrun pkt hpkt => absurd (hin.symm.trans (hs.waiting hrun pkt hpkt).2) nofun⟩

lemma clearDumping_sorted (hs : s.Sorted) (h : s.clearDumping = some t) : t.Sorted := by
  obtain ⟨henabled, rfl⟩ | ⟨hdisabled, rfl⟩ := clearDumping_eq h
  · exact ⟨hs.own, hs.cached, hs.held, fun hrun pkt hpkt => ⟨(hs.waiting hrun pkt hpkt).1, rfl⟩⟩
  · have hin : s.control.inStart = false := by rw [hdisabled]; rfl
    exact ⟨hs.own, hs.cached, hs.held,
      fun hrun pkt hpkt => absurd (hin.symm.trans (hs.waiting hrun pkt hpkt).2) nofun⟩

lemma join_sorted (hs : s.Sorted) (h : s.join = some t) : t.Sorted := by
  obtain ⟨hrun, ⟨-, rfl⟩ | ⟨hstopping, rfl⟩⟩ := join_eq h
  · exact ⟨hs.own, nofun, nofun, fun _ pkt hpkt => ⟨(hs.waiting hrun pkt hpkt).1, rfl⟩⟩
  · have hin : s.control.inStart = false := by rw [hstopping]; rfl
    exact ⟨hs.own, nofun, nofun, fun _ pkt hpkt => absurd (hin.symm.trans (hs.waiting hrun pkt hpkt).2) nofun⟩

lemma openFile_sorted {good : Bool} (hc : s.Consistent) (hl : s.Lossless) (hs : s.Sorted)
    (ha : s.Unmixed port (.openFile good)) (h : s.openFile good = some t) : t.Sorted := by
  obtain ⟨hopening, hfile⟩ := openFile_eq h
  have hrun : s.dumpingThread ≠ .running := by
    rw [hc.joined (Or.inl hopening)]
    exact nofun
  obtain ⟨-, rfl⟩ | ⟨hfailed, rfl⟩ := hfile
  · exact ⟨hs.own, fun h => absurd h hrun, fun h => absurd h hrun,
      fun _ pkt hpkt => ⟨(hs.waiting hrun pkt hpkt).1, rfl⟩⟩
  · refine ⟨hs.own, hs.cached, hs.held, fun _ pkt hpkt => ?_⟩
    have hnone := ha.resolve_left fun hgood => absurd (hfailed.symm.trans hgood) nofun
    exact absurd (hs.waiting hrun pkt hpkt).1 (hnone pkt (mem_accepted_of_pending hl hpkt))

lemma startDumping_sorted (hc : s.Consistent) (hs : s.Sorted) (h : s.startDumping = some t) : t.Sorted := by
  obtain ⟨hstarting, rfl⟩ := startDumping_eq h
  have hrun : s.dumpingThread ≠ .running := by
    rw [hc.joined (Or.inr hstarting)]
    exact nofun
  refine ⟨hs.own, fun _ pkt hpkt => ?_, fun _ pkt hpkt => Or.inr ?_, fun h => absurd rfl h⟩
  · rw [(hs.waiting hrun pkt (List.mem_append_left _ hpkt)).1]
    exact hc.opened hstarting
  · exact (hs.waiting hrun pkt (List.mem_append_right _ (Option.mem_toList.mpr hpkt))).1

lemma leave_sorted (hc : s.Consistent) (hs : s.Sorted) (ha : s.Unmixed port .leave) (h : s.leave = some t) :
    t.Sorted := by
  obtain ⟨⟨hrun, -, hempty⟩, rfl⟩ := leave_eq h
  have hcontents : s.packetsCache.ring.contents = [] := by
    rw [← List.length_eq_zero_iff, Ring.length_contents]
    exact beq_iff_eq.mp hempty
  refine ⟨hs.own, nofun, nofun, fun _ pkt hpkt => ?_⟩
  have htested : s.tested = some pkt := by
    rcases List.mem_append.mp hpkt with hcached | htested
    · exact absurd (hcontents ▸ hcached) List.not_mem_nil
    · exact Option.mem_toList.mp htested
  have hsession := (hs.held hrun pkt htested).resolve_left (ha pkt htested)
  obtain ⟨k, hk, -, ⟨-, hside⟩ | ⟨hcall, -⟩⟩ := hc.running hrun
  · exact absurd (hk.trans (congrArg some (hside.trans hsession.symm))) (ha pkt htested)
  · refine ⟨hsession, ?_⟩
    rcases hcall with hcall | hcall
    · exact congrArg ControlPoint.inStart hcall
    · exact congrArg ControlPoint.inStart hcall

lemma step_sorted (hc : s.Consistent) (hl : s.Lossless) (hs : s.Sorted) (ha : s.Unmixed port a)
    (h : s.step port a = some t) : t.Sorted := by
  cases a with
  | test packet => exact test_sorted hc hs ha h
  | dump => exact dump_sorted hs ha h
  | startRecordPcap => exact startRecordPcap_sorted hc hs h
  | stopRecordPcap => exact stopRecordPcap_sorted hs h
  | clearDumping => exact clearDumping_sorted hs h
  | join => exact join_sorted hs h
  | openFile good => exact openFile_sorted hc hl hs ha h
  | startDumping => exact startDumping_sorted hc hs h
  | write => exact write_sorted hs h
  | leave => exact leave_sorted hc hs ha h

lemma ended_lt_of_pending (hc : s.Consistent) (hs : s.Sorted) (h : pkt ∈ s.pending) : s.ended < pkt.session := by
  by_cases hrun : s.dumpingThread = .running
  · obtain ⟨k, hk, hended, hside⟩ := hc.running hrun
    have hown (hopen : s.ofs = some pkt.session) : s.ended < pkt.session :=
      Option.some.inj (hk.symm.trans hopen) ▸ hended
    rcases List.mem_append.mp h with hcached | htested
    · exact hown (hs.cached hrun pkt hcached)
    · rcases hs.held hrun pkt (Option.mem_toList.mp htested) with hopen | hsession
      · exact hown hopen
      · rcases hside with ⟨-, hside⟩ | ⟨-, hside⟩ <;> omega
  · obtain ⟨hsession, hin⟩ := hs.waiting hrun pkt h
    exact hsession ▸ (hc.inStart hin).2

lemma separated (hc : s.Consistent) (hl : s.Lossless) (hs : s.Sorted) : s.Separated := by
  intro k
  have hfile : s.fileOf k = (s.written.map Prod.snd).filter (·.session = k) := by
    rw [fileOf, List.filter_map]
    refine congrArg (List.map Prod.snd) (List.filter_congr fun w hw => ?_)
    rw [hs.own w hw]
    rfl
  have haccepted : s.acceptedIn k = s.fileOf k ++ s.pending.filter (·.session = k) := by
    rw [acceptedIn, accepted_eq hl, List.filter_append, hfile]
  refine ⟨haccepted ▸ List.prefix_append _ _, fun hended => ?_⟩
  have hnone : s.pending.filter (·.session = k) = [] := by
    rw [List.filter_eq_nil_iff]
    intro pkt hpkt
    have hlt := ended_lt_of_pending hc hs hpkt
    rw [decide_eq_true_eq]
    omega
  rw [haccepted, hnone, List.append_nil]

variable (memory : Fin (32 * 1024) → Accepted)

lemma lossless_start : (start memory).Lossless := ⟨rfl, rfl, rfl⟩

lemma sorted_start : (start memory).Sorted := ⟨nofun, nofun, nofun, fun _ _ h => absurd h nofun⟩

/-- In every run without a step that mixes sessions, every file holds what its session accepted. -/
theorem reaches_separated (h : Reaches (step port) (Unmixed port) (start memory) s) : s.Separated := by
  have hall : s.Consistent ∧ s.Lossless ∧ s.Sorted := by
    refine reaches_invariant (P := fun s => s.Consistent ∧ s.Lossless ∧ s.Sorted) (fun s a t ha hs h => ?_) h
      ⟨consistent_start memory, lossless_start memory, sorted_start memory⟩
    obtain ⟨hc, hl, hsorted⟩ := hs
    exact ⟨step_consistent hc h, step_lossless hc hl h, step_sorted hc hl hsorted ha h⟩
  exact separated hall.1 hall.2.1 hall.2.2

theorem reaches_separated_stopped : ∃ s, Reaches (step 2368) (Unmixed 2368) (start fun _ => default) s ∧
    s.ended = 1 ∧ s.written.length = 1 ∧ s.Separated := by
  have h : Reaches (step 2368) (Unmixed 2368) (start fun _ => default) _ :=
    Relation.ReflTransGen.refl
      |>.tail ⟨.startRecordPcap, trivial, rfl⟩
      |>.tail ⟨.clearDumping, trivial, rfl⟩
      |>.tail ⟨.join, trivial, rfl⟩
      |>.tail ⟨.openFile true, Or.inl rfl, rfl⟩
      |>.tail ⟨.startDumping, trivial, rfl⟩
      |>.tail ⟨.test oneByte, fun _ _ => rfl, rfl⟩
      |>.tail ⟨.dump, fun pkt hpkt _ => congrArg (Option.map Accepted.session) hpkt, rfl⟩
      |>.tail ⟨.write, trivial, rfl⟩
      |>.tail ⟨.stopRecordPcap, trivial, rfl⟩
      |>.tail ⟨.clearDumping, trivial, rfl⟩
      |>.tail ⟨.leave, nofun, rfl⟩
      |>.tail ⟨.join, trivial, rfl⟩
  exact ⟨_, h, rfl, rfl, reaches_separated _ h⟩

/-- A packet that passed the test in the first recording is dumped after `StopRecordPcap`. -/
def lateDump : List SessionAction :=
  startCall true ++ [.test oneByte, .stopRecordPcap, .clearDumping, .leave, .join, .dump] ++ startCall true ++ [.write]

theorem not_separated_late : ∃ s, exec (step 2368) lateDump (start fun _ => default) = some s ∧
    (∃ w ∈ s.written, w.2.session < w.1) ∧ ¬s.Separated := by
  obtain ⟨s, hs⟩ : ∃ s, exec (step 2368) lateDump (start fun _ => default) = some s := ⟨_, rfl⟩
  have hfacts : s.ended = 1 ∧ (s.fileOf 1).length = 0 ∧ (s.acceptedIn 1).length = 1 ∧
      s.written.map (fun w => (w.1, w.2.session)) = [(2, 1)] := by
    obtain rfl := Option.some.inj hs
    exact ⟨rfl, rfl, rfl, rfl⟩
  obtain ⟨hended, hfile, haccepted, hwritten⟩ := hfacts
  refine ⟨s, hs, ?_, fun hseparated => ?_⟩
  · obtain ⟨w, hw, hpair⟩ := List.mem_map.mp (hwritten ▸ List.mem_singleton_self (2, 1))
    obtain ⟨hfirst, hsecond⟩ := Prod.mk.inj hpair
    exact ⟨w, hw, by omega⟩
  · have heq := congrArg List.length ((hseparated 1).2 hended.ge)
    rw [hfile, haccepted] at heq
    exact absurd heq (by decide)

end SessionRecorder

end HesaiSdk.Lidar
