/-
Scoring a table is scoring its records in order. A record is scored if it is a row and the row is scored; otherwise it
refuses, for the reason that it is no row or for the reason that the row is not scored. A run takes the records one by
one, keeps their scores, and stops at the first one that refuses, whatever comes after it.

- `scoreAll_cons_of_scores`, `scoreAll_cons_of_refuses`: a step.
- `scoreAll_append`: a run over records that are scored, by induction on them, whatever follows.
- `scored_or_refused`: records are scored, all of them, or there is a first one that refuses.
- `rows_csv`: what a run writes is read back as its scores.
- `score_in_order`: how runs end, and what they leave.
-/
import Mathlib.Data.List.Forall2
import AccessibleWalk.Proofs.Table.ReadBack
import AccessibleWalk.Scoring.Run

namespace AccessibleWalk

namespace Scorer

variable {scorer : Scorer} {record : Except RecordError Row} {edge : ScoredEdge} {e : ScoringError}

/-! ## Records -/

/-- the record is a row, and this is its score -/
def Scores (scorer : Scorer) (record : Except RecordError Row) (edge : ScoredEdge) : Prop :=
  ∃ row, record = .ok row ∧ scorer.score row = .ok edge

/-- the record is no row, or a row that is not scored, for this reason -/
def Refuses (scorer : Scorer) (record : Except RecordError Row) (e : ScoringError) : Prop :=
  (∃ fault, record = .error fault ∧ e = .record fault) ∨ ∃ row, record = .ok row ∧ scorer.score row = .error e

theorem scores_or_refuses (scorer : Scorer) (record : Except RecordError Row) :
    (∃ edge, scorer.Scores record edge) ∨ ∃ e, scorer.Refuses record e := by
  cases record with
  | error fault => exact .inr ⟨_, .inl ⟨fault, rfl, rfl⟩⟩
  | ok row =>
    cases h : scorer.score row with
    | ok edge => exact .inl ⟨edge, row, rfl, h⟩
    | error e => exact .inr ⟨e, .inr ⟨row, rfl, h⟩⟩

/-! ## Runs -/

/-- **A step** keeps the score of the record and goes on. -/
theorem scoreAll_cons_of_scores (h : scorer.Scores record edge) (rest : List (Except RecordError Row)) :
    scorer.scoreAll (record :: rest) = ⟨edge :: (scorer.scoreAll rest).scored, (scorer.scoreAll rest).failure⟩ := by
  obtain ⟨row, rfl, hscore⟩ := h
  simp only [scoreAll, hscore]

/-- **Or it stops.** -/
theorem scoreAll_cons_of_refuses (h : scorer.Refuses record e) (rest : List (Except RecordError Row)) :
    scorer.scoreAll (record :: rest) = ⟨[], some e⟩ := by
  rcases h with ⟨fault, rfl, rfl⟩ | ⟨row, rfl, hscore⟩
  · rfl
  · simp only [scoreAll, hscore]

/-- **A run** puts the scores before what follows. -/
theorem scoreAll_append {before : List (Except RecordError Row)} {edges : List ScoredEdge}
    (h : List.Forall₂ scorer.Scores before edges) (rest : List (Except RecordError Row)) :
    scorer.scoreAll (before ++ rest) =
      ⟨edges ++ (scorer.scoreAll rest).scored, (scorer.scoreAll rest).failure⟩ := by
  induction h with
  | nil => rfl
  | cons hrecord _ ih => rw [List.cons_append, scoreAll_cons_of_scores hrecord, ih]; rfl

theorem exists_forall₂_scores {records : List (Except RecordError Row)}
    (h : ∀ record ∈ records, ∃ edge, scorer.Scores record edge) :
    ∃ edges, List.Forall₂ scorer.Scores records edges := by
  induction records with
  | nil => exact ⟨[], .nil⟩
  | cons record records ih =>
    obtain ⟨⟨edge, hedge⟩, hrest⟩ := List.forall_mem_cons.1 h
    obtain ⟨edges, hedges⟩ := ih hrest
    exact ⟨edge :: edges, .cons hedge hedges⟩

/-- **All are scored, or there is a first one that refuses.** -/
theorem scored_or_refused (scorer : Scorer) (records : List (Except RecordError Row)) :
    (∀ record ∈ records, ∃ edge, scorer.Scores record edge) ∨
      ∃ before record after e, records = before ++ record :: after ∧
        (∀ r ∈ before, ∃ edge, scorer.Scores r edge) ∧ scorer.Refuses record e := by
  induction records with
  | nil => exact .inl nofun
  | cons record records ih =>
    rcases scorer.scores_or_refuses record with hscores | ⟨e, hrefuses⟩
    · rcases ih with hall | ⟨before, first, after, e, rfl, hbefore, hfirst⟩
      · exact .inl (List.forall_mem_cons.2 ⟨hscores, hall⟩)
      · exact .inr ⟨record :: before, first, after, e, rfl, List.forall_mem_cons.2 ⟨hscores, hbefore⟩, hfirst⟩
    · exact .inr ⟨[], record, records, e, rfl, nofun, hrefuses⟩

theorem scoreAll_of_scored {records : List (Except RecordError Row)} {edges : List ScoredEdge}
    (h : List.Forall₂ scorer.Scores records edges) : scorer.scoreAll records = ⟨edges, none⟩ := by
  have hrun := scoreAll_append h []
  rw [List.append_nil] at hrun
  rw [hrun, scoreAll, List.append_nil]

theorem scoreAll_of_refused {before : List (Except RecordError Row)} {edges : List ScoredEdge}
    (h : List.Forall₂ scorer.Scores before edges) (hrefuses : scorer.Refuses record e)
    (after : List (Except RecordError Row)) : scorer.scoreAll (before ++ record :: after) = ⟨edges, some e⟩ := by
  rw [scoreAll_append h, scoreAll_cons_of_refuses hrefuses, List.append_nil]

/-! ## Results -/

section Results

variable {records before after : List (Except RecordError Row)}

theorem result_of_scored (h : ∀ record ∈ records, ∃ edge, scorer.Scores record edge) :
    (scorer.scoreAll records).result = .ok records.length := by
  obtain ⟨edges, hedges⟩ := exists_forall₂_scores h
  rw [scoreAll_of_scored hedges, hedges.length_eq]
  rfl

theorem result_of_refused (hbefore : ∀ r ∈ before, ∃ edge, scorer.Scores r edge) (hrefuses : scorer.Refuses record e) :
    (scorer.scoreAll (before ++ record :: after)).result = .error e := by
  obtain ⟨edges, hedges⟩ := exists_forall₂_scores hbefore
  rw [scoreAll_of_refused hedges hrefuses]
  rfl

/-- **A run succeeds exactly if all records are scored**, and counts them. -/
theorem result_eq_ok_iff {n : Nat} : (scorer.scoreAll records).result = .ok n ↔
    n = records.length ∧ ∀ record ∈ records, ∃ edge, scorer.Scores record edge := by
  constructor
  · intro h
    rcases scorer.scored_or_refused records with hall | ⟨before, record, after, e, rfl, hbefore, hrefuses⟩
    · rw [result_of_scored hall] at h
      exact ⟨(Except.ok.inj h).symm, hall⟩
    · rw [result_of_refused hbefore hrefuses] at h
      cases h
  · rintro ⟨rfl, hall⟩
    exact result_of_scored hall

/-- **It fails exactly for the first record that refuses.** -/
theorem result_eq_error_iff : (scorer.scoreAll records).result = .error e ↔
    ∃ before record after, records = before ++ record :: after ∧
      (∀ r ∈ before, ∃ edge, scorer.Scores r edge) ∧ scorer.Refuses record e := by
  constructor
  · intro h
    rcases scorer.scored_or_refused records with hall | ⟨before, record, after, e', rfl, hbefore, hrefuses⟩
    · rw [result_of_scored hall] at h
      cases h
    · rw [result_of_refused hbefore hrefuses] at h
      cases h
      exact ⟨before, record, after, rfl, hbefore, hrefuses⟩
  · rintro ⟨before, record, after, rfl, hbefore, hrefuses⟩
    exact result_of_refused hbefore hrefuses

end Results

end Scorer

/-! ## What is written -/

namespace ScoredEdge

def columns : List (List Char) := ["edge_id".toList, "reluctance".toList]

/-- an edge as a record -/
def fields (edge : ScoredEdge) : List (List Char) := [edge.edge.toList, Layout.csv.write edge.reluctance]

/-- an edge as a row -/
def row (edge : ScoredEdge) : Row :=
  .ofPairs [("edge_id", edge.edge), ("reluctance", String.ofList (Layout.csv.write edge.reluctance))]

theorem ofPairs_fields (edge : ScoredEdge) :
    Row.ofPairs ((columns.map String.ofList).zip (edge.fields.map String.ofList)) = edge.row := by
  simp [columns, fields, row]

theorem isLine_columns : Csv.IsLine columns := Csv.isLine_cons_cons _ _ _

theorem isLine_fields (edge : ScoredEdge) : Csv.IsLine edge.fields := Csv.isLine_cons_cons _ _ _

end ScoredEdge

namespace ScoringRun

open ScoredEdge (columns)

theorem csv_of_ne_nil {run : ScoringRun} (h : run.scored ≠ []) :
    run.csv = String.ofList ((columns :: run.scored.map ScoredEdge.fields).flatMap Csv.writeRecord) := by
  unfold csv
  split
  · next hscored => exact absurd hscored h
  · rw [List.flatMap_cons, List.flatMap_map]
    rfl

/-- the text starts with the name of a column, and not with the mark -/
theorem withoutMark_columns (table : List (List (List Char))) :
    Csv.withoutMark (Csv.encode ((columns :: table).flatMap Csv.writeRecord)) =
      Csv.encode ((columns :: table).flatMap Csv.writeRecord) := by
  have hcolumns : Csv.encode (Csv.writeRecord columns) = 0x65 :: (Csv.encode (Csv.writeRecord columns)).tail := by decide
  rw [List.flatMap_cons, Csv.encode_append, hcolumns]
  rfl

/-- **What a run writes is read back as its scores**, one row each, in their order. -/
theorem rows_csv (run : ScoringRun) :
    Csv.rows run.csv.toUTF8.data.toList = run.scored.map fun edge => .ok edge.row := by
  by_cases hscored : run.scored = []
  · rw [csv, hscored]
    rfl
  · have hlines : ∀ fields ∈ columns :: run.scored.map ScoredEdge.fields, Csv.IsLine fields :=
      List.forall_mem_cons.2 ⟨ScoredEdge.isLine_columns, List.forall_mem_map.2 fun edge _ => edge.isLine_fields⟩
    have hwidth : ∀ fields ∈ run.scored.map ScoredEdge.fields, fields.length = columns.length :=
      List.forall_mem_map.2 fun _ _ => rfl
    rw [csv_of_ne_nil hscored, Csv.toUTF8_ofList, Csv.rows_written _ _ hlines hwidth (withoutMark_columns _),
      List.map_map]
    exact List.map_congr_left fun edge _ => congrArg Except.ok edge.ofPairs_fields

end ScoringRun

/-! ## Tables -/

namespace Scorer

/-- a run over records that scores them in order -/
structure InOrder (scorer : Scorer) (records : List (Except RecordError Row)) (run : ScoringRun) : Prop where
  /-- it succeeds exactly if all records are scored, and counts them -/
  succeeds : ∀ n, run.result = .ok n ↔ n = records.length ∧ ∀ record ∈ records, ∃ edge, scorer.Scores record edge
  /-- then its output is their scores, one for each record, in the order of the records -/
  output : ∀ n, run.result = .ok n → List.Forall₂ scorer.Scores records run.scored
  /-- it fails exactly for the first record that refuses, whatever comes after it -/
  fails : ∀ e, run.result = .error e ↔ ∃ before record after, records = before ++ record :: after ∧
    (∀ r ∈ before, ∃ edge, scorer.Scores r edge) ∧ scorer.Refuses record e
  /-- then its output is the scores of the records before -/
  kept : ∀ e, run.result = .error e → ∃ before record after, records = before ++ record :: after ∧
    List.Forall₂ scorer.Scores before run.scored ∧ scorer.Refuses record e
  /-- the written output is the scores, a row each -/
  written : Csv.rows run.csv.toUTF8.data.toList = run.scored.map fun edge => .ok edge.row

theorem inOrder_scoreAll (scorer : Scorer) (records : List (Except RecordError Row)) :
    scorer.InOrder records (scorer.scoreAll records) where
  succeeds _ := result_eq_ok_iff
  output n h := by
    obtain ⟨edges, hedges⟩ := exists_forall₂_scores (result_eq_ok_iff.1 h).2
    rw [scoreAll_of_scored hedges]
    exact hedges
  fails _ := result_eq_error_iff
  kept e h := by
    obtain ⟨before, record, after, rfl, hbefore, hrefuses⟩ := result_eq_error_iff.1 h
    obtain ⟨edges, hedges⟩ := exists_forall₂_scores hbefore
    rw [scoreAll_of_refused hedges hrefuses]
    exact ⟨before, record, after, rfl, hedges, hrefuses⟩
  written := (scorer.scoreAll records).rows_csv

/-- **Scoring a table is scoring its records in order**, whatever the configuration, the mode and the wheelchair flag,
and whether the records are given or read from a text. -/
theorem score_in_order (config : ScoringConfig) (mode : TravelMode) (wheelchair : Bool) :
    (∀ records, (ofConfig config mode wheelchair).InOrder records ((ofConfig config mode wheelchair).scoreAll records)) ∧
      ∀ bytes, (ofConfig config mode wheelchair).InOrder (Csv.rows bytes)
        ((ofConfig config mode wheelchair).scoreCsv bytes) :=
  ⟨inOrder_scoreAll _, fun bytes => inOrder_scoreAll _ (Csv.rows bytes)⟩

/-- of a record that is no row and a row that buses do not use, the first one counts -/
example : ((ofConfig {} .bus false).scoreAll [.ok (.ofPairs [("edge_id", "1")]), .error .notUtf8]).result =
      .error (.reluctance (.invalidMode .bus)) ∧
    ((ofConfig {} .bus false).scoreAll [.error .notUtf8, .ok (.ofPairs [("edge_id", "1")])]).result =
      .error (.record .notUtf8) := by
  decide +kernel

end Scorer

end AccessibleWalk
