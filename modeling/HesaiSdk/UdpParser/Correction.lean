import HesaiSdk.Library.TextStream
import HesaiSdk.UdpParser.GeneralParser

/-! `LoadCorrectionString` of the mechanical lidars. -/

namespace HesaiSdk.Parsing

open Library.TextStream

def MAX_LASER_NUM : ℤ := 512

/-- What the arrays of the stack frame hold, and `elevation` and `azimuth` at the row that is counted. -/
structure LoadMemory where
  elevationList : ℕ → ℚ
  azimuthList : ℕ → ℚ
  elevation : ℕ → ℚ
  azimuth : ℕ → ℚ
deriving Inhabited

structure CorrectionLists where
  lineCount : ℕ
  elevationList : ℕ → ℚ
  azimuthList : ℕ → ℚ

/-- A row; lines of less than three fields are skipped, and a row under another id only counts. -/
def readRow (memory : LoadMemory) (lists : CorrectionLists) (line : List Char) : CorrectionLists :=
  match getlines ',' line with
  | idField :: elevationField :: azimuthField :: _ =>
    let lineCount := lists.lineCount + 1
    let elevation := (readFloat elevationField).getD (memory.elevation lineCount)
    let azimuth := (readFloat azimuthField).getD (memory.azimuth lineCount)
    let laserId := (readInt idField).getD 0
    if MAX_LASER_NUM < laserId ∨ laserId ≤ 0 then { lists with lineCount := lineCount }
    else if laserId ≠ lineCount then { lists with lineCount := lineCount }
    else
      { lineCount := lineCount
        elevationList := Function.update lists.elevationList (laserId - 1).toNat elevation
        azimuthList := Function.update lists.azimuthList (laserId - 1).toNat azimuth }
  | _ => lists

/-- The lines behind the header: `Laser id,Elevation,Azimuth`, with a line `EEFF` before it or not. There is no
first field to look at in an empty first line. -/
def dataLines (text : List Char) : Option (List (List Char)) :=
  match getlines '\n' text with
  | [] => none
  | first :: lines =>
    match getlines ',' first with
    | [] => none
    | field :: _ => some (if field = ['E', 'E', 'F', 'F'] ∨ field = ['e', 'e', 'f', 'f'] then lines.tail else lines)

structure LoadedCorrection where
  ret : ℤ
  size : ℕ
  parser : Calibration

/-- `LoadCorrectionString` on the characters before the terminating zero; none where it is undefined. -/
def loadCorrectionString (memory : LoadMemory) (text : List Char) (p : Calibration) : Option LoadedCorrection :=
  (dataLines text).map fun lines =>
    let lists := lines.foldl (readRow memory) ⟨0, memory.elevationList, memory.azimuthList⟩
    { ret := 0
      size := lists.lineCount
      parser := { p with
        elevationCorrection := lists.elevationList
        azimuthCollection := lists.azimuthList
        getCorrectionFile := true } }

end HesaiSdk.Parsing
