/-
Which rows are scored, and how the others fail. A row fails for one of four reasons, which count in this order: it
names no edge, a number tag is no finite number, the slope for a wheelchair is no number, or streets are not scored
for the mode. Lenient scoring forgives the second reason only, and stairs are scored for every mode. A row that names
no edge is refused under the name `<unknown>`, which does not say so by itself: an edge may be called that.

- `find?_tags`: the tags of a row whose column names stay distinct are its columns.
- `score_of_fault`, `score_of_readable`: the number tags come first.
- `score_outcome`: every reason, exactly, and a score where there is none.
-/
import AccessibleWalk.Proofs.Scoring.ColumnOrder
import AccessibleWalk.Proofs.Way.FirstFailure

namespace AccessibleWalk

/-! ## Rows -/

namespace Row

/-- names that differ still differ without blanks around them and in small letters -/
def NamesDistinct (row : Row) : Prop := (row.columns.entries.map fun c => Text.lower (Text.trim c.1)).Nodup

instance (row : Row) : Decidable row.NamesDistinct := inferInstanceAs (Decidable (List.Nodup _))

/-- the value, without blanks around it, of the column that is the tag with this key; a blank one is none -/
def tag? (row : Row) (key : String) : Option String := row.tagEntries.lookup key

/-- the first number tag, in slot order, that is no finite number, with what is wrong with it -/
def fault? (row : Row) : Option TagError :=
  Slot.numbers.findSome? fun s =>
    (row.tag? s.key).bind fun raw => (numberFault? raw).map (TagError.unreadable .number raw)

/-- the kind of way that the highway tag says, the first known one if it lists several -/
def kind? (row : Row) : Option Highway := (row.tag? Slot.highway.key).bind Category.firstLabel?

theorem stored?_spec {pair : String × String} {e : String × String} (h : WayTags.stored? pair = some e) :
    e = (Text.lower (Text.trim pair.1), Text.trim pair.2) ∧ e.2 ≠ "" := by
  unfold WayTags.stored? at h
  split_ifs at h with hblank
  rw [← Option.some.inj h]
  exact ⟨rfl, by simpa using hblank⟩

/-- the keys of the entries are names of columns -/
theorem keys_sublist (pairs : List (String × String)) :
    ((pairs.filterMap WayTags.stored?).map Prod.fst).Sublist (pairs.map fun c => Text.lower (Text.trim c.1)) := by
  induction pairs with
  | nil => exact .slnil
  | cons pair rest ih =>
    cases h : WayTags.stored? pair with
    | none => rw [List.filterMap_cons_none h, List.map_cons]; exact ih.cons _
    | some e =>
      rw [List.filterMap_cons_some h, List.map_cons, List.map_cons, (stored?_spec h).1]
      exact ih.cons_cons _

theorem NamesDistinct.settled {row : Row} (h : row.NamesDistinct) (key : String) : Settled row.tagEntries key :=
  settled_of_nodup (h.sublist ((keys_sublist _).trans (List.filter_sublist.map _))) key

/-- **What is found under a key is the column that is the tag.** -/
theorem find?_tags {row : Row} (h : row.NamesDistinct) (key : String) : row.tags.byKey.find? key = row.tag? key := by
  rw [tags, WayTags.find?_ofList]
  exact ((h.settled key).lookup_eq_of_perm (List.reverse_perm _).symm).symm

/-- tags are trimmed and not blank -/
theorem trim_of_tag? {row : Row} {key raw : String} (h : row.tag? key = some raw) : Text.trim raw = raw ∧ raw ≠ "" := by
  obtain ⟨pair, -, hpair⟩ := List.mem_filterMap.1 (mem_of_lookup h)
  obtain ⟨he, hne⟩ := stored?_spec hpair
  have hraw : raw = Text.trim pair.2 := congrArg Prod.snd he
  exact ⟨by rw [hraw, Text.trim_trim], hne⟩

/-- the first failure of a strict import is the first fault among the number tags -/
theorem findSome?_failureAt? {row : Row} (h : row.NamesDistinct) :
    Slot.all.findSome? row.tags.failureAt? = row.fault? := by
  have hslot (s : Slot) (hs : s ∈ Slot.numbers) : row.tags.failureAt? s =
      (row.tag? s.key).bind fun raw => (numberFault? raw).map (TagError.unreadable .number raw) := by
    rw [WayTags.failureAt?, find?_tags h, Slot.mem_numbers_iff.1 hs]
    cases hraw : row.tag? s.key with
    | none => rw [Option.bind_none, Option.bind_none]
    | some raw =>
      obtain ⟨htrim, hne⟩ := trim_of_tag? hraw
      rw [Option.bind_some, Option.bind_some, Content.failure?_number htrim hne]
  rw [WayTags.findSome?_failureAt?, fault?]
  rw [← List.head?_filterMap, ← List.head?_filterMap, List.filterMap_congr hslot]

/-- there is a fault exactly if some number tag is no finite number -/
theorem isSome_fault?_iff {row : Row} :
    row.fault?.isSome ↔ ∃ s ∈ Slot.numbers, ∃ raw, row.tag? s.key = some raw ∧
      ∀ x, Binary64.ofLiteral raw = .ok x → x.isFinite = false := by
  simp only [fault?, List.findSome?_isSome_iff, Option.isSome_bind, Option.any_eq_true, Option.isSome_map,
    isSome_numberFault?_iff]

/-- the kind of way is what an import puts into its slot -/
theorem facts_highway {row : Row} (h : row.NamesDistinct) : row.tags.facts.get .highway = row.kind? := by
  rw [kind?]
  cases hraw : row.tag? Slot.highway.key with
  | none => exact WayTags.get_facts_of_read (WayTags.read_of_absent ((find?_tags h _).trans hraw))
  | some raw => exact WayTags.get_facts_of_read (WayTags.read_of_find? ((find?_tags h _).trans hraw))

end Row

/-! ## Modes -/

/-- streets are scored for these modes -/
def TravelMode.streets : List TravelMode := [.walk, .bicycle, .car]

/-- **Stairs are scored for every mode**, and other edges for the modes of the streets. -/
theorem RoutingPreferences.reluctance_cases (preferences : RoutingPreferences) (tables : ImpactTables)
    (mode : TravelMode) (walkingBike stairs : Bool) (sheet : Sheet) :
    (stairs = true ∧
      preferences.reluctance tables mode walkingBike stairs sheet = .ok (preferences.walk.get .stairsReluctance)) ∨
    (stairs = false ∧ mode ∈ TravelMode.streets ∧
      ∃ x, preferences.reluctance tables mode walkingBike stairs sheet = .ok x) ∨
    (stairs = false ∧ mode ∉ TravelMode.streets ∧
      preferences.reluctance tables mode walkingBike stairs sheet = .error (.invalidMode mode)) := by
  unfold reluctance
  cases stairs with
  | true => exact .inl ⟨rfl, rfl⟩
  | false =>
    refine .inr ?_
    cases mode with
    | walk =>
      refine .inl ⟨rfl, by decide, ?_⟩
      cases walkingBike <;> exact ⟨_, rfl⟩
    | bicycle | car => exact .inl ⟨rfl, by decide, _, rfl⟩
    | _ => exact .inr ⟨rfl, by decide, rfl⟩

/-! ## Rows that name an edge -/

namespace Scorer

variable {scorer : Scorer} {row : Row} {edge : String}

/-- the number tags do not stop this row -/
def Reads (scorer : Scorer) (row : Row) : Prop := scorer.config.ignoreTagErrors = true ∨ row.fault? = none

/-- the slope of the row is no number -/
def SlopeUnreadable (row : Row) : Prop :=
  ∃ raw, row.tag? Row.slopeColumn = some raw ∧ ∀ x, Binary64.ofLiteral raw ≠ .ok x

theorem score_of_unnamed (h : row.find? Row.edgeColumn = none) :
    scorer.score row = .error (.invalidEdge "<unknown>" "row is missing the 'edge_id' column") := by
  have htext : "row is missing the '" ++ Row.edgeColumn ++ "' column" = "row is missing the 'edge_id' column" := by
    decide +kernel
  simp only [score, h, htext]

section Named

variable (hrow : row.NamesDistinct) (hedge : row.find? Row.edgeColumn = some edge)
include hrow hedge

/-- **A strict scorer stops at the first number tag** that is no finite number. -/
theorem score_of_fault (hstrict : scorer.config.ignoreTagErrors = false) {e : TagError} (he : row.fault? = some e) :
    scorer.score row = .error (.invalidEdge edge (ScoringError.tag e).message) := by
  have hsheet : row.tags.sheet false = .error e := by rw [WayTags.sheet_strict, Row.findSome?_failureAt? hrow, he]
  simp only [score, hedge, hstrict, hsheet]

/-- **Otherwise the facts are known**, and only the scoring itself can fail. -/
theorem score_of_reads (hreads : scorer.Reads row) :
    scorer.score row = (scorer.reluctance edge row.tags row.tags.facts).map (ScoredEdge.mk edge) := by
  have hsheet : row.tags.sheet scorer.config.ignoreTagErrors = .ok row.tags.facts := by
    cases hmode : scorer.config.ignoreTagErrors with
    | true => exact row.tags.sheet_lenient
    | false =>
      have hnone := hreads.resolve_left (by simp [hmode])
      rw [WayTags.sheet_strict, Row.findSome?_failureAt? hrow, hnone]
  exact score_of_sheet hedge hsheet

/-- without a wheelchair the tags themselves are not looked at again -/
theorem score_of_walker (hreads : scorer.Reads row) (hw : scorer.wheelchair = false) :
    scorer.score row = ((scorer.preferences.reluctance scorer.tables scorer.mode scorer.config.walkingBike
      (row.kind? == some Highway.steps) row.tags.facts).mapError .reluctance).map (ScoredEdge.mk edge) := by
  rw [score_of_reads hrow hedge hreads, reluctance, hw, Row.facts_highway hrow]
  rfl

omit hedge in
/-- the slope is the number in its column, no column being no slope -/
theorem slope_tags : slope row.tags =
    match row.tag? Row.slopeColumn with
    | none => .ok 0
    | some raw => (Binary64.ofLiteral raw).mapError fun e =>
        "could not parse max_slope value '" ++ raw ++ "': " ++ e.message := by
  have hplain : Row.slopeColumn.toList.all Text.isPlain = true := by decide
  have hlower : Text.lower Row.slopeColumn = Row.slopeColumn := Text.lower_of_isPlain (List.all_eq_true.1 hplain)
  have htext : "could not parse " ++ Row.slopeColumn ++ " value '" = "could not parse max_slope value '" := by
    decide +kernel
  rw [slope, WayTags.get?, hlower, Row.find?_tags hrow]
  cases row.tag? Row.slopeColumn with
  | none => rfl
  | some raw => simp only [htext]

/-- a wheelchair is scored by any slope that is a number -/
theorem score_of_slope (hreads : scorer.Reads row) (hw : scorer.wheelchair = true) (hslope : ¬ SlopeUnreadable row) :
    ∃ x, scorer.score row = .ok ⟨edge, x⟩ := by
  have hx : ∃ x, slope row.tags = .ok x := by
    rw [slope_tags hrow]
    cases hraw : row.tag? Row.slopeColumn with
    | none => exact ⟨_, rfl⟩
    | some raw =>
      cases hx : Binary64.ofLiteral raw with
      | ok x => exact ⟨x, by simp only [hx]; rfl⟩
      | error e => exact absurd ⟨raw, hraw, fun x => by rw [hx]; exact nofun⟩ hslope
  obtain ⟨x, hx⟩ := hx
  rw [score_of_reads hrow hedge hreads, reluctance, hw, hx]
  exact ⟨_, rfl⟩

theorem score_of_slope_error (hreads : scorer.Reads row) (hw : scorer.wheelchair = true) {raw : String}
    (hraw : row.tag? Row.slopeColumn = some raw) {e : LiteralError} (he : Binary64.ofLiteral raw = .error e) :
    scorer.score row =
      .error (.invalidEdge edge ("could not parse max_slope value '" ++ raw ++ "': " ++ e.message)) := by
  have hslope := slope_tags hrow
  simp only [hraw, he] at hslope
  rw [score_of_reads hrow hedge hreads, reluctance, hw, hslope]
  rfl

end Named

/-! ## Texts -/

theorem head?_append {text : String} {c : Char} (h : text.toList.head? = some c) (more : String) :
    (text ++ more).toList.head? = some c := by
  rw [String.toList_append, List.head?_append, h, Option.some_or]

/-- failures of number tags and of slopes are told apart by how their texts start -/
theorem head?_message_tag (e : TagError) : (ScoringError.tag e).message.toList.head? = some 'f' :=
  head?_append (by decide) e.message

theorem head?_slope_text (raw : String) (e : LiteralError) :
    ("could not parse max_slope value '" ++ raw ++ "': " ++ e.message).toList.head? = some 'c' :=
  head?_append (head?_append (head?_append (by decide) raw) "': ") e.message

/-! ## Verdicts -/

/-- why a row with this edge is answered as it is -/
inductive Verdict (scorer : Scorer) (row : Row) (edge : String) : Except ScoringError ScoredEdge → Prop where
  | fault {e : TagError} (strict : scorer.config.ignoreTagErrors = false) (first : row.fault? = some e) :
      Verdict scorer row edge (.error (.invalidEdge edge (ScoringError.tag e).message))
  | slope {raw : String} {e : LiteralError} (reads : scorer.Reads row) (wheelchair : scorer.wheelchair = true)
      (tag : row.tag? Row.slopeColumn = some raw) (literal : Binary64.ofLiteral raw = .error e) :
      Verdict scorer row edge
        (.error (.invalidEdge edge ("could not parse max_slope value '" ++ raw ++ "': " ++ e.message)))
  | wheelchair (x : Binary64) (reads : scorer.Reads row) (wheelchair : scorer.wheelchair = true)
      (slope : ¬ SlopeUnreadable row) : Verdict scorer row edge (.ok ⟨edge, x⟩)
  | stairs (reads : scorer.Reads row) (walker : scorer.wheelchair = false) (kind : row.kind? = some .steps) :
      Verdict scorer row edge (.ok ⟨edge, scorer.preferences.walk.get .stairsReluctance⟩)
  | street (x : Binary64) (reads : scorer.Reads row) (walker : scorer.wheelchair = false)
      (kind : row.kind? ≠ some .steps) (mode : scorer.mode ∈ TravelMode.streets) :
      Verdict scorer row edge (.ok ⟨edge, x⟩)
  | mode (reads : scorer.Reads row) (walker : scorer.wheelchair = false) (kind : row.kind? ≠ some .steps)
      (mode : scorer.mode ∉ TravelMode.streets) :
      Verdict scorer row edge (.error (.reluctance (.invalidMode scorer.mode)))

/-- **Every row that names an edge has a verdict.** -/
theorem verdict_score (hrow : row.NamesDistinct) (hedge : row.find? Row.edgeColumn = some edge) :
    Verdict scorer row edge (scorer.score row) := by
  by_cases hreads : scorer.Reads row
  · cases hw : scorer.wheelchair with
    | true =>
      by_cases hslope : SlopeUnreadable row
      · obtain ⟨raw, hraw, hx⟩ := hslope
        cases he : Binary64.ofLiteral raw with
        | ok x => exact absurd he (hx x)
        | error e => rw [score_of_slope_error hrow hedge hreads hw hraw he]; exact .slope hreads hw hraw he
      · obtain ⟨x, hx⟩ := score_of_slope hrow hedge hreads hw hslope
        rw [hx]
        exact .wheelchair x hreads hw hslope
    | false =>
      rw [score_of_walker hrow hedge hreads hw]
      rcases scorer.preferences.reluctance_cases scorer.tables scorer.mode scorer.config.walkingBike
        (row.kind? == some Highway.steps) row.tags.facts with ⟨hkind, hx⟩ | ⟨hkind, hmode, x, hx⟩ | ⟨hkind, hmode, hx⟩
      · rw [hx]; exact .stairs hreads hw (eq_of_beq hkind)
      · rw [hx]; exact .street x hreads hw (ne_of_beq_false hkind) hmode
      · rw [hx]; exact .mode hreads hw (ne_of_beq_false hkind) hmode
  · rw [Reads, not_or, Bool.not_eq_true] at hreads
    obtain ⟨e, he⟩ := Option.ne_none_iff_exists'.1 hreads.2
    rw [score_of_fault hrow hedge hreads.1 he]
    exact .fault hreads.1 he

/-! ## Rows -/

/-- how a row is answered, failure by failure -/
structure Outcome (scorer : Scorer) (row : Row) : Prop where
  /-- only a row without a column for the edge is refused for that -/
  unnamed : scorer.score row = .error (.invalidEdge "<unknown>" "row is missing the 'edge_id' column") ↔
    row.find? "edge_id" = none
  /-- an edge is refused as unknown for that alone, unless it is called so -/
  unknown : row.find? "edge_id" ≠ some "<unknown>" →
    ((∃ reason, scorer.score row = .error (.invalidEdge "<unknown>" reason)) ↔ row.find? "edge_id" = none)
  /-- a strict scorer refuses an edge for the first number tag that is no finite number, and for no other tag -/
  fault : ∀ edge, row.find? "edge_id" = some edge →
    ((∃ e, row.fault? = some e ∧ scorer.score row = .error (.invalidEdge edge (ScoringError.tag e).message)) ↔
      scorer.config.ignoreTagErrors = false ∧
        ∃ s ∈ [Slot.width, .ressautMax, .ressautMin, .travHTrt], ∃ raw, row.tag? s.key = some raw ∧
          ∀ x, Binary64.ofLiteral raw = .ok x → x.isFinite = false)
  /-- a wheelchair is refused for a slope that is no number, and for nothing else -/
  slope : ∀ edge, row.find? "edge_id" = some edge → scorer.Reads row → scorer.wheelchair = true →
    ((∃ reason, scorer.score row = .error (.invalidEdge edge reason)) ↔
      ∃ raw, row.tag? "max_slope" = some raw ∧ ∀ x, Binary64.ofLiteral raw ≠ .ok x)
  /-- a walker, a rider or a driver is refused for the mode, and for nothing else -/
  mode : ∀ edge, row.find? "edge_id" = some edge → scorer.Reads row → scorer.wheelchair = false →
    (scorer.score row = .error (.reluctance (.invalidMode scorer.mode)) ↔
      scorer.mode ∉ [TravelMode.walk, .bicycle, .car] ∧ row.kind? ≠ some Highway.steps)
  /-- what is not refused is scored -/
  scored : ∀ edge, row.find? "edge_id" = some edge → scorer.Reads row →
    (scorer.wheelchair = true → ¬ ∃ raw, row.tag? "max_slope" = some raw ∧ ∀ x, Binary64.ofLiteral raw ≠ .ok x) →
    (scorer.wheelchair = false → scorer.mode ∈ [TravelMode.walk, .bicycle, .car] ∨ row.kind? = some Highway.steps) →
    ∃ x, scorer.score row = .ok ⟨edge, x⟩
  /-- stairs have one reluctance, whatever the mode -/
  stairs : ∀ edge, row.find? "edge_id" = some edge → scorer.Reads row → scorer.wheelchair = false →
    row.kind? = some Highway.steps → scorer.score row = .ok ⟨edge, scorer.preferences.walk.get .stairsReluctance⟩

section Fields

variable (hrow : row.NamesDistinct) (hedge : row.find? Row.edgeColumn = some edge)
include hrow hedge

/-- an edge that is refused is refused under its own name, and not for its column -/
theorem edge_of_score {name reason : String} (h : scorer.score row = .error (.invalidEdge name reason)) :
    name = edge ∧ reason ≠ "row is missing the 'edge_id' column" := by
  have hhead (text : String) (ht : text.toList.head? ≠ some 'r') : text ≠ "row is missing the 'edge_id' column" := by
    rintro rfl
    exact ht (by decide)
  have hv : Verdict scorer row edge (scorer.score row) := verdict_score hrow hedge
  rw [h] at hv
  cases hv with
  | fault strict first => exact ⟨rfl, hhead _ (by rw [head?_message_tag]; decide)⟩
  | slope reads wheelchair tag literal => exact ⟨rfl, hhead _ (by rw [head?_slope_text]; decide)⟩

theorem score_fault_iff : (∃ e, row.fault? = some e ∧
      scorer.score row = .error (.invalidEdge edge (ScoringError.tag e).message)) ↔
    scorer.config.ignoreTagErrors = false ∧ row.fault?.isSome := by
  constructor
  · rintro ⟨e, he, hscore⟩
    refine ⟨?_, by rw [he]; rfl⟩
    have hv : Verdict scorer row edge (scorer.score row) := verdict_score hrow hedge
    rw [hscore] at hv
    generalize hresult : (Except.error (.invalidEdge edge (ScoringError.tag e).message)
      : Except ScoringError ScoredEdge) = result at hv
    cases hv with
    | fault strict first => exact strict
    | slope reads wheelchair tag literal =>
      have htext := (ScoringError.invalidEdge.inj (Except.error.inj hresult)).2
      have hhead := head?_message_tag e
      rw [htext, head?_slope_text] at hhead
      exact absurd hhead (by decide)
    | wheelchair => cases hresult
    | stairs => cases hresult
    | street => cases hresult
    | mode => cases hresult
  · rintro ⟨hstrict, hsome⟩
    obtain ⟨e, he⟩ := Option.isSome_iff_exists.1 hsome
    exact ⟨e, he, score_of_fault hrow hedge hstrict he⟩

variable (hreads : scorer.Reads row)
include hreads

theorem score_slope_iff (hw : scorer.wheelchair = true) :
    (∃ reason, scorer.score row = .error (.invalidEdge edge reason)) ↔ SlopeUnreadable row := by
  constructor
  · rintro ⟨reason, hscore⟩
    by_contra hslope
    obtain ⟨x, hx⟩ := score_of_slope hrow hedge hreads hw hslope
    rw [hx] at hscore
    cases hscore
  · rintro ⟨raw, hraw, hx⟩
    cases he : Binary64.ofLiteral raw with
    | ok x => exact absurd he (hx x)
    | error e => exact ⟨_, score_of_slope_error hrow hedge hreads hw hraw he⟩

theorem score_mode_iff (hw : scorer.wheelchair = false) :
    scorer.score row = .error (.reluctance (.invalidMode scorer.mode)) ↔
      scorer.mode ∉ TravelMode.streets ∧ row.kind? ≠ some Highway.steps := by
  have hv : Verdict scorer row edge (scorer.score row) := verdict_score hrow hedge
  generalize scorer.score row = result at hv
  cases hv with
  | fault strict first => simp [Reads, strict, first] at hreads
  | slope reads wheelchair => rw [hw] at wheelchair; cases wheelchair
  | wheelchair x reads wheelchair => rw [hw] at wheelchair; cases wheelchair
  | stairs reads walker kind => exact ⟨nofun, fun h => absurd kind h.2⟩
  | street x reads walker kind mode => exact ⟨nofun, fun h => absurd mode h.1⟩
  | mode reads walker kind mode => exact ⟨fun _ => ⟨mode, kind⟩, fun _ => rfl⟩

theorem score_scored (hslope : scorer.wheelchair = true → ¬ SlopeUnreadable row)
    (hmode : scorer.wheelchair = false → scorer.mode ∈ TravelMode.streets ∨ row.kind? = some Highway.steps) :
    ∃ x, scorer.score row = .ok ⟨edge, x⟩ := by
  have hv : Verdict scorer row edge (scorer.score row) := verdict_score hrow hedge
  generalize scorer.score row = result at hv
  cases hv with
  | fault strict first => simp [Reads, strict, first] at hreads
  | slope reads wheelchair tag literal =>
    exact absurd ⟨_, tag, fun x => by rw [literal]; exact nofun⟩ (hslope wheelchair)
  | wheelchair x => exact ⟨x, rfl⟩
  | stairs => exact ⟨_, rfl⟩
  | street x => exact ⟨x, rfl⟩
  | mode reads walker kind mode => exact absurd (hmode walker) (by simp [mode, kind])

theorem score_stairs (hw : scorer.wheelchair = false) (hkind : row.kind? = some Highway.steps) :
    scorer.score row = .ok ⟨edge, scorer.preferences.walk.get .stairsReluctance⟩ := by
  have hv : Verdict scorer row edge (scorer.score row) := verdict_score hrow hedge
  generalize scorer.score row = result at hv
  cases hv with
  | fault strict first => simp [Reads, strict, first] at hreads
  | slope reads wheelchair => rw [hw] at wheelchair; cases wheelchair
  | wheelchair x reads wheelchair => rw [hw] at wheelchair; cases wheelchair
  | stairs => rfl
  | street x reads walker kind => exact absurd hkind kind
  | mode reads walker kind => exact absurd hkind kind

end Fields

/-- **No failure is swallowed or invented.** Rows whose column names stay distinct have this outcome, whatever the
tables, the preferences, the configuration, the mode and the wheelchair flag. -/
theorem score_outcome (scorer : Scorer) (row : Row) (h : row.NamesDistinct) : scorer.Outcome row where
  unnamed := by
    refine ⟨fun hscore => ?_, score_of_unnamed⟩
    by_contra hne
    obtain ⟨edge, hedge⟩ := Option.ne_none_iff_exists'.1 hne
    exact (edge_of_score h hedge hscore).2 rfl
  unknown hcalled := by
    refine ⟨?_, fun hnone => ⟨_, score_of_unnamed hnone⟩⟩
    rintro ⟨reason, hscore⟩
    by_contra hne
    obtain ⟨edge, hedge⟩ := Option.ne_none_iff_exists'.1 hne
    have hname : "<unknown>" = edge := (edge_of_score h hedge hscore).1
    exact hcalled (hname ▸ hedge)
  fault edge hedge := (score_fault_iff h hedge).trans (and_congr_right' Row.isSome_fault?_iff)
  slope edge hedge := score_slope_iff h hedge
  mode edge hedge := score_mode_iff h hedge
  scored edge hedge := score_scored h hedge
  stairs edge hedge := score_stairs h hedge

/-- stairs with two unreadable heights; the first number tag is the width all the same -/
def unreadableStairs : Row :=
  ⟨⟨[("edge_id", "12"), ("wgt:ressaut_max", "inf"), ("Highway", "track;steps"), (" width ", "1m20")], by decide⟩⟩

/-- a bus rides on them if the scorer is lenient -/
theorem score_unreadableStairs : unreadableStairs.NamesDistinct ∧
    unreadableStairs.fault? = some (.unreadable .number "1m20" "invalid float literal") ∧
    (Scorer.mk .standard {} {} .walk true).Outcome unreadableStairs ∧
    (Scorer.mk .standard {} { ignoreTagErrors := true } .bus false).Outcome unreadableStairs := by
  have hrow : unreadableStairs.NamesDistinct := by decide +kernel
  exact ⟨hrow, by decide +kernel, score_outcome _ _ hrow, score_outcome _ _ hrow⟩

/-- an edge whose name is what edges without a name are called, with a width that cannot be read -/
def calledUnknown : Row := ⟨⟨[("edge_id", "<unknown>"), ("width", "abc")], by decide⟩⟩

/-- it is refused for its width, under a name that says it had none -/
theorem score_calledUnknown : calledUnknown.NamesDistinct ∧
    ¬((∃ reason, (Scorer.mk .standard {} {} .walk false).score calledUnknown =
        .error (.invalidEdge "<unknown>" reason)) ↔
      calledUnknown.find? "edge_id" = none) := by
  have hrow : calledUnknown.NamesDistinct := by decide +kernel
  have hedge : calledUnknown.find? Row.edgeColumn = some "<unknown>" := by decide
  have hfault : calledUnknown.fault? = some (.unreadable .number "abc" "invalid float literal") := by decide +kernel
  refine ⟨hrow, fun hiff => ?_⟩
  have hnone := hiff.1 ⟨_, score_of_fault hrow hedge rfl hfault⟩
  exact absurd (hedge.symm.trans hnone) nofun

end Scorer

end AccessibleWalk
