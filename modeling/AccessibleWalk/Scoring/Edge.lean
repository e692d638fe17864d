/-
Scoring one edge, given as a row of a table: the column `edge_id` names the edge and the other columns are tags. A way
tagged as steps is scored as stairs. With the wheelchair model the slope and the accessibility of the edge are read from
columns of their own, whatever the mode.
-/
import AccessibleWalk.Reluctance.Engine
import AccessibleWalk.Scoring.Config
import AccessibleWalk.Table.Row
import AccessibleWalk.Way.Import

namespace AccessibleWalk

/-- what can stop a scoring run -/
inductive ScoringError where
  | configuration (error : ConfigError)
  | invalidEdge (edge reason : String)
  | tag (error : TagError)
  | reluctance (error : ReluctanceError)
  | record (error : RecordError)
  | file (reason : String)
  deriving DecidableEq

/-- what is wrong with a record, in words -/
def RecordError.message : RecordError → String
  | .unequalLengths => "a record has more or fewer fields than the header"
  | .notUtf8 => "a record is not valid UTF-8"
  | .unnamed => "the header is not valid UTF-8"

def ScoringError.message : ScoringError → String
  | .configuration e => "failure reading run configuration: " ++ e.message
  | .invalidEdge edge reason => "invalid edge '" ++ edge ++ "': " ++ reason
  | .tag e => "failure parsing OSM tag: " ++ e.message
  | .reluctance e => "failure computing reluctance: " ++ e.message
  | .record e => "failure reading or writing CSV: " ++ e.message
  | .file reason => "failure reading configuration: " ++ reason

namespace Row

def edgeColumn : String := "edge_id"

def slopeColumn : String := "max_slope"

def wheelchairColumn : String := "wheelchair"

/-- the columns that are tags -/
def tags (row : Row) : WayTags := WayTags.ofList (row.columns.entries.filter fun c => c.1 != edgeColumn)

end Row

/-- an edge with its reluctance -/
structure ScoredEdge where
  edge : String
  reluctance : Binary64
  deriving DecidableEq

/-- what edges are scored by -/
structure Scorer where
  tables : ImpactTables
  preferences : RoutingPreferences
  config : ScoringConfig
  mode : TravelMode
  wheelchair : Bool

namespace Scorer

/-- the scorer of a run: the standard tables, and the preferences that the configuration describes -/
def ofConfig (config : ScoringConfig) (mode : TravelMode) (wheelchair : Bool) : Scorer where
  tables := .standard
  preferences := config.routing.preferences
  config := config
  mode := mode
  wheelchair := wheelchair

/-- the slope of an edge; no tag is no slope -/
def slope (tags : WayTags) : Except String Binary64 :=
  match tags.get? Row.slopeColumn with
  | none => .ok 0
  | some raw =>
    (Binary64.ofLiteral raw).mapError fun e =>
      "could not parse " ++ Row.slopeColumn ++ " value '" ++ raw ++ "': " ++ e.message

/-- the reluctance of an edge with these tags and facts -/
def reluctance (scorer : Scorer) (edge : String) (tags : WayTags) (sheet : Sheet) : Except ScoringError Binary64 :=
  let stairs := sheet.get .highway == some Highway.steps
  if scorer.wheelchair then
    match slope tags with
    | .error reason => .error (.invalidEdge edge reason)
    | .ok slope => .ok (scorer.preferences.wheelchairReluctance slope (!tags.isFalse Row.wheelchairColumn) stairs)
  else
    (scorer.preferences.reluctance scorer.tables scorer.mode scorer.config.walkingBike stairs sheet).mapError .reluctance

/-- scores one row -/
def score (scorer : Scorer) (row : Row) : Except ScoringError ScoredEdge :=
  match row.find? Row.edgeColumn with
  | none => .error (.invalidEdge "<unknown>" ("row is missing the '" ++ Row.edgeColumn ++ "' column"))
  | some edge =>
    let tags := row.tags
    match tags.sheet scorer.config.ignoreTagErrors with
    | .error e => .error (.invalidEdge edge (ScoringError.tag e).message)
    | .ok sheet => (scorer.reluctance edge tags sheet).map (ScoredEdge.mk edge)

/-- once the facts of a named edge are known, only its reluctance can fail -/
theorem score_of_sheet {scorer : Scorer} {row : Row} {edge : String} {sheet : Sheet}
    (hedge : row.find? Row.edgeColumn = some edge)
    (hsheet : row.tags.sheet scorer.config.ignoreTagErrors = .ok sheet) :
    scorer.score row = (scorer.reluctance edge row.tags sheet).map (ScoredEdge.mk edge) := by
  simp only [score, hedge, hsheet]

end Scorer

namespace ScoredEdge

def toDocument (e : ScoredEdge) : Document :=
  .record [("edge_id", .text e.edge), ("reluctance", .real e.reluctance)]

/-- both fields must be there -/
def decode : Decoder ScoredEdge := fun dialect d => do
  let fields : List (Decode.Field (Option String × Option Binary64)) :=
    [
      .of "edge_id" Decode.text fun v e => (some v, e.2),
      .of "reluctance" Decode.number fun v e => (e.1, some v)]
  match ← Decode.record fields false (none, none) dialect d with
  | (some edge, some reluctance) => .ok ⟨edge, reluctance⟩
  | _ => .error .misfit

end ScoredEdge

end AccessibleWalk
