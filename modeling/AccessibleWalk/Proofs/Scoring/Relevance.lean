/-
What a score takes from a row. Of all columns only the one that names the edge and those that are tags of a slot, or
of a wheelchair, have a say, and of a tag column neither the blanks around its name and value nor the capitals of its
name do. A wheelchair user does not even see most of the slots.

- `score_of_agree`: rows that agree in the columns that count.
- `score_of_respelled`: rows with other spellings of their tag columns.
- `reluctance_of_wheelchair`: what is left for wheelchairs.
- `score_relevant`: all of it together.

Two rows are compared by the entries that their columns make, since columns of both may come in any order.
-/
import AccessibleWalk.Proofs.Scoring.NonNegative
import AccessibleWalk.Proofs.Scoring.Outcome
import AccessibleWalk.Proofs.Text.Capitals

namespace AccessibleWalk

/-! ## Entries of a row -/

namespace Row

theorem find?_eq_some_iff {row : Row} {column value : String} :
    row.find? column = some value ↔ (column, value) ∈ row.columns.entries :=
  (settled_of_nodup row.columns.nodup column).lookup_eq_some_iff value

/-- the tag that a column makes, if it makes one -/
def tagOf? (c : String × String) : Option (String × String) := if c.1 = edgeColumn then none else WayTags.stored? c

theorem tagEntries_eq_filterMap (row : Row) : row.tagEntries = row.columns.entries.filterMap tagOf? := by
  rw [tagEntries, List.filterMap_filter]
  refine List.filterMap_congr fun c _ => ?_
  unfold tagOf?
  by_cases h : c.1 = edgeColumn <;> simp [h]

/-- a tag is made by a column that has a value -/
theorem mem_tagEntries {row : Row} {e : String × String} :
    e ∈ row.tagEntries ↔ ∃ column value, row.find? column = some value ∧ tagOf? (column, value) = some e := by
  rw [tagEntries_eq_filterMap, List.mem_filterMap]
  constructor
  · rintro ⟨⟨column, value⟩, hmem, he⟩
    exact ⟨column, value, find?_eq_some_iff.2 hmem, he⟩
  · rintro ⟨column, value, hfind, he⟩
    exact ⟨(column, value), find?_eq_some_iff.1 hfind, he⟩

/-- a tag has the key of its column -/
theorem key_of_tagOf? {column value key v : String} (h : tagOf? (column, value) = some (key, v)) :
    Text.lower (Text.trim column) = key := by
  unfold tagOf? at h
  split_ifs at h
  exact (congrArg Prod.fst (stored?_spec h).1).symm

/-- **Rows with the same tags under a key** are read alike there, if the first one has at most one such tag. -/
theorem get?_congr {row row' : Row} {key : String} (hlower : Text.lower key = key)
    (hsettled : Settled row.tagEntries key)
    (h : ∀ v, (key, v) ∈ row.tagEntries ↔ (key, v) ∈ row'.tagEntries) : row.tags.get? key = row'.tags.get? key := by
  have hsettled' : Settled row'.tagEntries key := fun v w hv hw => hsettled v w ((h v).2 hv) ((h w).2 hw)
  apply Option.ext
  intro v
  rw [WayTags.get?, WayTags.get?, hlower, tags, tags, WayTags.find?_ofList_eq_some_iff hsettled,
    WayTags.find?_ofList_eq_some_iff hsettled']
  exact h v

end Row

/-! ## Columns that count -/

namespace Scorer

/-- a column that counts: the one that names the edge, and those that are tags of the score -/
def Regards (scorer : Scorer) (column : String) : Prop :=
  column = Row.edgeColumn ∨ Text.lower (Text.trim column) ∈ scorer.keys

instance (scorer : Scorer) (column : String) : Decidable (scorer.Regards column) :=
  inferInstanceAs (Decidable (_ ∨ _))

variable {scorer : Scorer} {row row' : Row}

/-- a row has the tags of the score from the columns that count -/
theorem mem_tagEntries_of_agree (h : ∀ column, scorer.Regards column → row.find? column = row'.find? column)
    {key v : String} (hkey : key ∈ scorer.keys) (hv : (key, v) ∈ row.tagEntries) : (key, v) ∈ row'.tagEntries := by
  obtain ⟨column, value, hfind, he⟩ := Row.mem_tagEntries.1 hv
  have hcounts : scorer.Regards column := by
    refine .inr ?_
    rw [Row.key_of_tagOf? he]
    exact hkey
  exact Row.mem_tagEntries.2 ⟨column, value, (h column hcounts).symm.trans hfind, he⟩

/-- **Other columns do not count**: rows that agree in the columns that do have one score, whatever columns one of
them has in addition, lacks, or fills otherwise. -/
theorem score_of_agree (hrow : row.NamesDistinct)
    (h : ∀ column, scorer.Regards column → row.find? column = row'.find? column) :
    scorer.score row = scorer.score row' := by
  refine score_congr (h _ (.inl rfl)) fun key hkey => ?_
  refine Row.get?_congr (lower_of_mem_keys hkey) (hrow.settled key) fun v => ?_
  constructor
  · exact mem_tagEntries_of_agree h hkey
  · exact mem_tagEntries_of_agree (fun column hcolumn => (h column hcolumn).symm) hkey

end Scorer

/-! ## Spellings of columns -/

namespace Row

/-- the same column, or a tag column with capitals of ASCII in other places of its name and with other blanks around
name and value -/
def Respells (c d : String × String) : Prop :=
  c = d ∨ (Text.lower (Text.trim c.1) ≠ edgeColumn ∧ Text.SameButCapitals (Text.trim c.1) (Text.trim d.1) ∧
    Text.trim c.2 = Text.trim d.2)

instance (c d : String × String) : Decidable (Respells c d) := inferInstanceAs (Decidable (_ ∨ _))

theorem lower_edgeColumn : Text.lower (Text.trim edgeColumn) = edgeColumn := by decide +kernel

variable {c d : String × String}

/-- what names the edge has one spelling -/
theorem Respells.names_edge_iff (h : Respells c d) (edge : String) :
    c = (edgeColumn, edge) ↔ d = (edgeColumn, edge) := by
  rcases h with rfl | ⟨hne, hname, -⟩
  · exact Iff.rfl
  · constructor
    · rintro rfl
      exact absurd lower_edgeColumn hne
    · rintro rfl
      rw [Text.lower_congr hname] at hne
      exact absurd lower_edgeColumn hne

/-- **Spellings of a column make one tag.** -/
theorem Respells.tagOf?_eq (h : Respells c d) : tagOf? c = tagOf? d := by
  rcases h with rfl | ⟨hne, hname, hvalue⟩
  · rfl
  · have hlower := Text.lower_congr hname
    have hc : c.1 ≠ edgeColumn := fun he => hne (by rw [he]; exact lower_edgeColumn)
    have hd : d.1 ≠ edgeColumn := fun he => hne (by rw [hlower, he]; exact lower_edgeColumn)
    rw [tagOf?, tagOf?, if_neg hc, if_neg hd, WayTags.stored?, WayTags.stored?, hlower, hvalue]

/-- the columns of one row are spellings of those of the other, in any order -/
def Respelled (row row' : Row) : Prop :=
  ∃ columns, List.Forall₂ Respells row.columns.entries columns ∧ columns.Perm row'.columns.entries

/-- spellings name the same edge, column by column -/
theorem names_edge_iff_of_forall₂ {columns columns' : List (String × String)}
    (h : List.Forall₂ Respells columns columns')
    (edge : String) : (edgeColumn, edge) ∈ columns ↔ (edgeColumn, edge) ∈ columns' := by
  induction h with
  | nil => exact Iff.rfl
  | cons hc _ ih => simp only [List.mem_cons, ih, eq_comm (a := (edgeColumn, edge)), hc.names_edge_iff]

/-- and make the same tags -/
theorem filterMap_tagOf?_of_forall₂ {columns columns' : List (String × String)}
    (h : List.Forall₂ Respells columns columns') : columns.filterMap tagOf? = columns'.filterMap tagOf? := by
  induction h with
  | nil => rfl
  | cons hc _ ih => rw [List.filterMap_cons, List.filterMap_cons, hc.tagOf?_eq, ih]

variable {row row' : Row}

theorem Respelled.find?_edge (h : row.Respelled row') : row.find? edgeColumn = row'.find? edgeColumn := by
  obtain ⟨columns, hspell, hperm⟩ := h
  apply Option.ext
  intro edge
  rw [find?_eq_some_iff, find?_eq_some_iff, names_edge_iff_of_forall₂ hspell, hperm.mem_iff]

theorem Respelled.tagEntries_perm (h : row.Respelled row') : row.tagEntries.Perm row'.tagEntries := by
  obtain ⟨columns, hspell, hperm⟩ := h
  rw [tagEntries_eq_filterMap, tagEntries_eq_filterMap, filterMap_tagOf?_of_forall₂ hspell]
  exact hperm.filterMap tagOf?

end Row

namespace Scorer

variable {scorer : Scorer} {row row' : Row}

/-- **Spellings do not count**: a row with other spellings of its tag columns has the same score. -/
theorem score_of_respelled (hrow : row.NamesDistinct) (h : row.Respelled row') :
    scorer.score row = scorer.score row' := by
  refine score_congr h.find?_edge fun key hkey => ?_
  exact Row.get?_congr (lower_of_mem_keys hkey) (hrow.settled key) fun v => h.tagEntries_perm.mem_iff

/-! ## Wheelchairs -/

/-- what an import succeeds with are the facts of the tags -/
theorem eq_facts_of_sheet {tags : WayTags} {lenient : Bool} {sheet : Sheet} (h : tags.sheet lenient = .ok sheet) :
    sheet = tags.facts := by
  cases lenient with
  | true => exact Except.ok.inj (h.symm.trans tags.sheet_lenient)
  | false =>
    rw [WayTags.sheet_strict] at h
    split at h
    · cases h
    · exact (Except.ok.inj h).symm

/-- **A wheelchair is scored by three tags**, whatever the mode. -/
theorem reluctance_of_wheelchair (scorer : Scorer) (hrow : row.NamesDistinct) (hw : scorer.wheelchair = true)
    {e : ScoredEdge}
    (h : scorer.score row = .ok e) :
    ∃ slope, Scorer.slope row.tags = .ok slope ∧ e.reluctance = scorer.preferences.wheelchairReluctance slope
      (!((row.tag? "wheelchair").bind flagOf? == some false)) (row.kind? == some Highway.steps) := by
  obtain ⟨sheet, hsheet, hscore⟩ := exists_of_score h
  have hplain : Text.lower Row.wheelchairColumn = Row.wheelchairColumn := by decide +kernel
  have haccess : row.tags.isFalse Row.wheelchairColumn = ((row.tag? "wheelchair").bind flagOf? == some false) := by
    rw [WayTags.isFalse, WayTags.get?, hplain, Row.find?_tags hrow]
    rfl
  rw [reluctance, hw, if_pos rfl, eq_facts_of_sheet hsheet, Row.facts_highway hrow, haccess] at hscore
  cases hslope : slope row.tags with
  | error reason => rw [hslope] at hscore; cases hscore
  | ok slope =>
    rw [hslope] at hscore
    exact ⟨slope, rfl, (Except.ok.inj hscore).symm⟩

theorem wheelchair_of_agree (hrow : row.NamesDistinct) (hrow' : row'.NamesDistinct) (hw : scorer.wheelchair = true)
    (h : ∀ key ∈ ["highway", "max_slope", "wheelchair"], row.tag? key = row'.tag? key)
    (mode mode' : TravelMode) {e e' : ScoredEdge}
    (he : { scorer with mode := mode }.score row = .ok e) (he' : { scorer with mode := mode' }.score row' = .ok e') :
    e.reluctance = e'.reluctance := by
  have hhighway : row.tag? "highway" = row'.tag? "highway" := h _ (by decide)
  have hslopes : row.tag? "max_slope" = row'.tag? "max_slope" := h _ (by decide)
  have haccess : row.tag? "wheelchair" = row'.tag? "wheelchair" := h _ (by decide)
  have hkind : row.kind? = row'.kind? := congrArg (Option.bind · Category.firstLabel?) hhighway
  have hslope : slope row.tags = slope row'.tags := by
    rw [slope_tags hrow, slope_tags hrow', Row.slopeColumn, hslopes]
  obtain ⟨x, hx, hreluctance⟩ := reluctance_of_wheelchair { scorer with mode := mode } hrow hw he
  obtain ⟨x', hx', hreluctance'⟩ := reluctance_of_wheelchair { scorer with mode := mode' } hrow' hw he'
  have hsame : x = x' := Except.ok.inj (hx.symm.trans (hslope.trans hx'))
  rw [hreluctance, hreluctance', hsame, haccess, hkind]

/-! ## All of it -/

/-- **Only relevant columns matter.** For a row whose column names stay distinct, the whole answer stays the same
whatever is put into, taken from or changed in columns that do not count, and however its tag columns are spelled. Two
rows for wheelchairs that agree in three tags have one reluctance in every mode, once they are scored. -/
theorem score_relevant (scorer : Scorer) {row : Row} (hrow : row.NamesDistinct) (row' : Row) :
    ((∀ column, column = "edge_id" ∨ Text.lower (Text.trim column) ∈ scorer.keys →
      row.find? column = row'.find? column) → scorer.score row = scorer.score row') ∧
    (row.Respelled row' → scorer.score row = scorer.score row') ∧
    (scorer.wheelchair = true → row'.NamesDistinct →
      (∀ key ∈ ["highway", "max_slope", "wheelchair"], row.tag? key = row'.tag? key) →
      ∀ mode mode' e e', { scorer with mode := mode }.score row = .ok e →
        { scorer with mode := mode' }.score row' = .ok e' → e.reluctance = e'.reluctance) :=
  ⟨score_of_agree hrow, score_of_respelled hrow,
    fun hw hrow' h mode mode' _ _ => wheelchair_of_agree hrow hrow' hw h mode mode'⟩

/-- steep stairs with a column that is no tag of a score -/
def steepRow : Row :=
  ⟨⟨[("edge_id", "7"), ("Max_Slope", " 0.1"), ("colour", "red"), ("highway", "steps")], by decide⟩⟩

/-- another colour, and a note -/
def steepRowNoted : Row :=
  ⟨⟨[("edge_id", "7"), ("Max_Slope", " 0.1"), ("colour", "blue"), ("highway", "steps"), ("note", "slippery")],
    by decide⟩⟩

/-- other spellings -/
def steepRowRespelled : Row :=
  ⟨⟨[("edge_id", "7"), ("max_SLOPE\t", "0.1"), (" Colour", "red "), ("HIGHWAY", " steps")], by decide⟩⟩

/-- another edge, of which a wheelchair user sees nothing else -/
def narrowSteepRow : Row :=
  ⟨⟨[("edge_id", "8"), ("width", "0.5"), ("highway", "steps"), ("max_slope", "0.1")], by decide⟩⟩

theorem score_steepRow : steepRow.NamesDistinct ∧
    (ofConfig {} .walk true).score steepRow = (ofConfig {} .walk true).score steepRowNoted ∧
    (ofConfig {} .walk true).score steepRow = (ofConfig {} .walk true).score steepRowRespelled ∧
    ∃ x y, (ofConfig {} .walk true).score steepRow = .ok ⟨"7", x⟩ ∧
      (ofConfig {} .ferry true).score narrowSteepRow = .ok ⟨"8", y⟩ ∧ x = y := by
  have hrow : steepRow.NamesDistinct := by decide +kernel
  have hnarrow : narrowSteepRow.NamesDistinct := by decide +kernel
  obtain ⟨hcolumns, -, -⟩ := score_relevant (ofConfig {} .walk true) hrow steepRowNoted
  obtain ⟨-, hspellings, -⟩ := score_relevant (ofConfig {} .walk true) hrow steepRowRespelled
  obtain ⟨-, -, hwheelchair⟩ := score_relevant (ofConfig {} .walk true) hrow narrowSteepRow
  refine ⟨hrow, hcolumns fun column hcolumn => ?_, hspellings ⟨_, ?_, List.Perm.refl _⟩, ?_⟩
  · have hcolour : column ≠ "colour" := by
      rintro rfl
      exact absurd hcolumn (by decide +kernel)
    have hnote : column ≠ "note" := by
      rintro rfl
      exact absurd hcolumn (by decide +kernel)
    apply Option.ext
    intro value
    rw [Row.find?_eq_some_iff, Row.find?_eq_some_iff]
    simp only [steepRow, steepRowNoted, List.mem_cons, Prod.mk.injEq, hcolour, hnote, false_and, false_or]
  · have hspells : ∀ c ∈ steepRow.columns.entries.zip steepRowRespelled.columns.entries, Row.Respells c.1 c.2 := by
      decide +kernel
    exact List.forall₂_iff_zip.2 ⟨rfl, fun h => hspells _ h⟩
  · have hslope (row : Row) (h : row.tag? "max_slope" = some "0.1") : ¬ SlopeUnreadable row := by
      rintro ⟨raw, hraw, hx⟩
      obtain rfl := Option.some.inj (h.symm.trans hraw)
      have hliteral : Binary64.ofLiteral "0.1" = .ok 0.1 := by decide +kernel
      exact hx _ hliteral
    have hentries : steepRow.tagEntries = [("max_slope", "0.1"), ("colour", "red"), ("highway", "steps")] := by
      decide +kernel
    have hentries' : narrowSteepRow.tagEntries = [("width", "0.5"), ("highway", "steps"), ("max_slope", "0.1")] := by
      decide +kernel
    have hscored : ∃ x, (ofConfig {} .walk true).score steepRow = .ok ⟨"7", x⟩ := by
      refine score_of_slope hrow (by decide) (.inr ?_) rfl (hslope _ ?_)
      · simp only [Row.fault?, Row.tag?, hentries]
        decide +kernel
      · rw [Row.tag?, hentries]
        decide
    have hscored' : ∃ y, (ofConfig {} .ferry true).score narrowSteepRow = .ok ⟨"8", y⟩ := by
      refine score_of_slope hnarrow (by decide) (.inr ?_) rfl (hslope _ ?_)
      · simp only [Row.fault?, Row.tag?, hentries']
        decide +kernel
      · rw [Row.tag?, hentries']
        decide
    have hsame : ∀ key ∈ ["highway", "max_slope", "wheelchair"], steepRow.tag? key = narrowSteepRow.tag? key := by
      simp only [Row.tag?, hentries, hentries']
      decide
    obtain ⟨x, hx⟩ := hscored
    obtain ⟨y, hy⟩ := hscored'
    exact ⟨x, y, hx, hy, hwheelchair rfl hnarrow hsame .walk .ferry _ _ hx hy⟩

end Scorer

end AccessibleWalk
