/-
Scoring a table of edges, row after row in the order of the table, up to the first row that cannot be read or scored.
The rows scored before it are kept.
-/
import AccessibleWalk.Scoring.Edge
import AccessibleWalk.Table.CsvReader
import AccessibleWalk.Table.CsvWriter

namespace AccessibleWalk

/-- the edges scored, and what stopped the run if something did -/
structure ScoringRun where
  scored : List ScoredEdge
  failure : Option ScoringError

namespace Scorer

/-- scores rows up to the first failure -/
def scoreAll (scorer : Scorer) : List (Except RecordError Row) → ScoringRun
  | [] => ⟨[], none⟩
  | .error e :: _ => ⟨[], some (.record e)⟩
  | .ok row :: rest =>
    match scorer.score row with
    | .error e => ⟨[], some e⟩
    | .ok edge =>
      let run := scorer.scoreAll rest
      ⟨edge :: run.scored, run.failure⟩

/-- scores the rows of a CSV text -/
def scoreCsv (scorer : Scorer) (bytes : List UInt8) : ScoringRun := scorer.scoreAll (Csv.rows bytes)

end Scorer

namespace ScoringRun

/-- how many edges were scored, or what stopped the run -/
def result (run : ScoringRun) : Except ScoringError Nat :=
  match run.failure with
  | none => .ok run.scored.length
  | some e => .error e

/-- the scored edges as CSV; without any there is no header either -/
def csv (run : ScoringRun) : String :=
  match run.scored with
  | [] => ""
  | edges =>
    let header := Csv.writeRecord ["edge_id".toList, "reluctance".toList]
    let records := edges.flatMap fun e => Csv.writeRecord [e.edge.toList, Layout.csv.write e.reluctance]
    String.ofList (header ++ records)

end ScoringRun

end AccessibleWalk
