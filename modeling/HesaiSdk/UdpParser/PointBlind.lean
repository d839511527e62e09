import HesaiSdk.UdpParser.Dispatch

/-! Decoding a packet does not look at the points of the frame. -/

namespace HesaiSdk.Parsing

open Library Lidar UdpProtocol

def Decoded.withPoints {σ Pt : Type} (d : Decoded σ Pt) (points : ℕ → Pt) : Decoded σ Pt :=
  { d with frame := { d.frame with points := points } }

/-- It neither reads nor writes the points. -/
def IgnoresPoints {σ Pt : Type} (decode : LidarDecodedFrame Pt → Logged DecodeEvent (Decoded σ Pt)) : Prop :=
  ∀ frame points, (decode { frame with points := points }).val = (decode frame).val.withPoints points

def PointBlind {σ Pt Fault : Type} (P : Parser σ Pt Fault) : Prop :=
  ∀ p packet, IgnoresPoints fun frame => P.decodePacket p frame packet

section Tests

variable {σ Pt : Type} {env : Environment} {packet : UdpPacket} {getCorrectionFile : Bool} {p : σ}
  {body : LidarDecodedFrame Pt → Logged DecodeEvent (Decoded σ Pt)}

lemma ignoresPoints_reject : IgnoresPoints (reject p : LidarDecodedFrame Pt → Logged DecodeEvent (Decoded σ Pt)) :=
  fun _ _ => rfl

lemma IgnoresPoints.ite {c : Prop} [Decidable c] {other : LidarDecodedFrame Pt → Logged DecodeEvent (Decoded σ Pt)}
    (hbody : IgnoresPoints body) (hother : IgnoresPoints other) :
    IgnoresPoints fun frame => if c then body frame else other frame := by
  intro frame points
  by_cases h : c
  · simp only [if_pos h]
    exact hbody frame points
  · simp only [if_neg h]
    exact hother frame points

/-- What is read before the frame is not the frame. -/
lemma IgnoresPoints.bind {H : Type} {read : Logged DecodeEvent H}
    {k : H → LidarDecodedFrame Pt → Logged DecodeEvent (Decoded σ Pt)} (hk : IgnoresPoints (k read.val)) :
    IgnoresPoints fun frame => read >>= fun h => k h frame := by
  intro frame points
  rw [val_bind, val_bind]
  exact hk frame points

lemma IgnoresPoints.afterTests (hbody : IgnoresPoints body) : IgnoresPoints fun frame =>
    if getCorrectionFile = false then reject p frame else afterDelimiter env packet p frame (body frame) :=
  ignoresPoints_reject.ite (.bind (ignoresPoints_reject.ite hbody))

end Tests

section Classes

variable {env : Environment} {packet : UdpPacket} {Pt : Type}

lemma Udp14Parser.ignoresPoints {p : Udp14Parser} :
    IgnoresPoints fun frame : LidarDecodedFrame Pt => p.decodePacket env packet frame :=
  .afterTests (.bind fun _ _ => rfl)

lemma Udp61Parser.ignoresPoints {p : GeneralParser} :
    IgnoresPoints fun frame : LidarDecodedFrame Pt => decodePacket env packet p frame :=
  .afterTests (.bind fun _ _ => rfl)

lemma Udp72Parser.ignoresPoints {p : Udp72Parser} :
    IgnoresPoints fun frame : LidarDecodedFrame Pt => p.decodePacket env packet frame :=
  .afterTests (.bind fun _ _ => rfl)

lemma UdpP40Parser.ignoresPoints {p : GeneralParser} :
    IgnoresPoints fun frame : LidarDecodedFrame Pt => decodePacket env packet p frame := by
  refine ignoresPoints_reject.ite
    (.bind (ignoresPoints_reject.ite (.bind (ignoresPoints_reject.ite fun _ _ => ?_))))
  simp only [decodeBody, val_bind, val_pure]
  rfl

lemma UdpP64Parser.ignoresPoints {p : GeneralParser} :
    IgnoresPoints fun frame : LidarDecodedFrame Pt => decodePacket env packet p frame := by
  refine .afterTests (.bind fun _ _ => ?_)
  simp only [decodeBody, val_bind, val_pure]
  rfl

lemma Udp31Parser.ignoresPoints {p : GeneralParser} :
    IgnoresPoints fun frame : LidarDecodedFrame Pt => decodePacket env packet p frame := by
  refine .afterTests (.bind fun _ _ => ?_)
  simp only [decodeBody, val_bind, val_pure]
  rfl

lemma Udp32Parser.ignoresPoints {p : Udp32Parser} :
    IgnoresPoints fun frame : LidarDecodedFrame Pt => decodePacket env packet p frame := by
  refine .afterTests (.bind fun _ _ => ?_)
  simp only [decodeBody, val_bind, val_pure]
  rfl

lemma Udp43Parser.ignoresPoints {p : Udp43Parser} :
    IgnoresPoints fun frame : LidarDecodedFrame Pt => p.decodePacket env packet frame := by
  refine ignoresPoints_reject.ite (.ite (fun _ _ => rfl) (.bind (ignoresPoints_reject.ite (.bind fun _ _ => ?_))))
  simp only [decodeBody, val_bind, val_pure]
  rfl

lemma Udp47Parser.ignoresPoints {p : Udp47Parser} :
    IgnoresPoints fun frame : LidarDecodedFrame Pt => p.decodePacket env packet frame := by
  refine .afterTests (.bind fun _ _ => ?_)
  simp only [decodeBody, val_bind, val_pure]
  rfl

lemma EtParser.decodeMessage_withPoints {Corrections : Type} {p : EtParser Corrections} {m : EtMessage}
    {walk : (ℕ → PointDecodeData) → Logged DecodeEvent (ℕ → PointDecodeData)} {frame : LidarDecodedFrame Pt}
    {points : ℕ → Pt} : (decodeMessage env packet m p { frame with points := points } walk).val =
      (decodeMessage env packet m p frame walk).val.withPoints points := by
  simp only [decodeMessage, val_bind, val_pure]
  rfl

lemma Udp24Parser.ignoresPoints {p : EtParser ETCorrectionsV4} :
    IgnoresPoints fun frame : LidarDecodedFrame Pt => decodePacket env packet p frame :=
  .afterTests (.bind fun _ _ => EtParser.decodeMessage_withPoints)

lemma Udp25Parser.ignoresPoints {p : EtParser ETCorrections} :
    IgnoresPoints fun frame : LidarDecodedFrame Pt => decodePacket env packet p frame :=
  .afterTests (.bind fun _ _ => EtParser.decodeMessage_withPoints)

lemma Udp26Parser.ignoresPoints {p : EtParser ETCorrections} :
    IgnoresPoints fun frame : LidarDecodedFrame Pt => decodePacket env packet p frame :=
  .afterTests (.bind fun _ _ => EtParser.decodeMessage_withPoints)

end Classes

section Dispatch

variable {Pt Fault : Type}

variable [Point Pt] (env : Environment) (faultMessage43 faultMessage47 : UdpPacket → Fault → Fault)

end Dispatch

section UdpParser

variable {σ Pt Fault : Type} {P : Parser σ Pt Fault}

/-- Neither do the tests in front of the parser and the synchronization behind it. -/
lemma UdpParser.ignoresPoints (h : PointBlind P) (env : Environment) (u : UdpParser σ) (packet : UdpPacket) :
    IgnoresPoints fun frame => u.decodePacket env P frame packet := by
  intro frame points
  by_cases hlen : packet.packetLen < 6
  · simp only [decodePacket, if_pos hlen]
    rfl
  · simp only [decodePacket, if_neg hlen]
    cases u.parser with
    | none => rfl
    | some parser =>
      simp only [val_bind, val_pure, h parser packet frame points]
      rfl

end UdpParser

end HesaiSdk.Parsing
