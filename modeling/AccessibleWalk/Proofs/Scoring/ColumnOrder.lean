/-
Scoring and the order of columns. A row has no order of its own: its columns are put in as they happen to come. Where
no tag that is read is in dispute, the score is the same for every order. Where columns that fall on one tag disagree
about it, the one that comes last decides, and the same row is scored one way or the other by chance: a row that says
of an edge that it is stairs may be refused as if it had not said so. That is a defect and no rule: a score should
follow from its row.

- `score_congr`: a score depends on nothing but the edge and the tags that it is read from.
- `settled_iff_tags`: a tag does not depend on the order of columns exactly if no columns disagree about it.
- `score_perm`: without such columns the order does not change the score.
- `score_disputed`: with them it may, down to whether the row is scored at all.
-/
import AccessibleWalk.Proofs.Category.Labels
import AccessibleWalk.Proofs.Way.Lookup
import AccessibleWalk.Proofs.Way.SlotReads
import AccessibleWalk.Scoring.Edge

namespace AccessibleWalk

/-! ## Tags of a row -/

namespace Row

/-- the tags that the columns make, in their order -/
def tagEntries (row : Row) : List (String × String) :=
  (row.columns.entries.filter fun c => c.1 != edgeColumn).filterMap WayTags.stored?

/-- the same columns with the same values -/
def Reordered (row row' : Row) : Prop := row.columns.entries.Perm row'.columns.entries

theorem Reordered.find?_eq {row row' : Row} (h : row.Reordered row') (column : String) :
    row.find? column = row'.find? column :=
  (settled_of_nodup row.columns.nodup column).lookup_eq_of_perm h

/-- an order of the tags comes from an order of the columns -/
theorem exists_reordered {row : Row} {pairs : List (String × String)}
    (hp : (row.columns.entries.filter fun c => c.1 != edgeColumn).Perm pairs) :
    ∃ row' : Row, row.Reordered row' ∧ row'.tags = WayTags.ofList pairs := by
  have hall : row.columns.entries.Perm (pairs ++ row.columns.entries.filter fun c => !(c.1 != edgeColumn)) :=
    (List.filter_append_perm _ _).symm.trans (hp.append_right _)
  refine ⟨⟨⟨_, (hall.map Prod.fst).nodup_iff.1 row.columns.nodup⟩⟩, hall, ?_⟩
  have hpairs : pairs.filter (fun c => c.1 != edgeColumn) = pairs :=
    List.filter_eq_self.2 fun c hc => (List.mem_filter.1 (hp.mem_iff.2 hc)).2
  rw [tags, List.filter_append, hpairs, List.filter_filter]
  simp

/-- **A tag is the same for every order of the columns exactly if no columns disagree about it.** -/
theorem settled_iff_tags (row : Row) (key : String) :
    Settled row.tagEntries key ↔
      ∀ row' : Row, row.Reordered row' → row.tags.byKey.find? key = row'.tags.byKey.find? key := by
  rw [tagEntries, WayTags.settled_iff]
  constructor
  · intro h row' hp
    exact h _ (hp.filter _)
  · intro h pairs hp
    obtain ⟨row', hrow, htags⟩ := exists_reordered hp
    rw [← htags]
    exact h row' hrow

theorem Reordered.get?_eq {row row' : Row} (h : row.Reordered row') {key : String}
    (hkey : Settled row.tagEntries (Text.lower key)) : row.tags.get? key = row'.tags.get? key :=
  (row.settled_iff_tags _).1 hkey row' h

end Row

/-! ## Scores -/

namespace Scorer

/-- the tags that a score is read from; a wheelchair has two more -/
def keys (scorer : Scorer) : List String :=
  Slot.all.map Slot.key ++ if scorer.wheelchair then [Row.slopeColumn, Row.wheelchairColumn] else []

theorem lower_of_mem_keys {scorer : Scorer} {key : String} (h : key ∈ scorer.keys) : Text.lower key = key := by
  rcases List.mem_append.1 h with h | h
  · obtain ⟨s, -, rfl⟩ := List.mem_map.1 h
    exact s.lower_key
  · split at h
    · have hplain : ∀ k ∈ [Row.slopeColumn, Row.wheelchairColumn], k.toList.all Text.isPlain = true := by decide
      exact Text.lower_of_isPlain (List.all_eq_true.1 (hplain key h))
    · cases h

/-- beside the facts of the edge, its tags for wheelchairs count -/
theorem reluctance_congr {scorer : Scorer} {tags tags' : WayTags}
    (h : ∀ key ∈ scorer.keys, tags.get? key = tags'.get? key) (edge : String) (sheet : Sheet) :
    scorer.reluctance edge tags sheet = scorer.reluctance edge tags' sheet := by
  unfold reluctance
  cases hw : scorer.wheelchair with
  | false => rfl
  | true =>
    have hslope : tags.get? Row.slopeColumn = tags'.get? Row.slopeColumn := h _ (by simp [keys, hw])
    have haccess : tags.get? Row.wheelchairColumn = tags'.get? Row.wheelchairColumn := h _ (by simp [keys, hw])
    simp only [slope, hslope, WayTags.isFalse, haccess]

/-- **A score is read from the edge and the tags with these keys.** -/
theorem score_congr {scorer : Scorer} {row row' : Row} (hedge : row.find? Row.edgeColumn = row'.find? Row.edgeColumn)
    (h : ∀ key ∈ scorer.keys, row.tags.get? key = row'.tags.get? key) : scorer.score row = scorer.score row' := by
  have hread (s : Slot) : row.tags.read s = row'.tags.read s := by
    have hs : s.key ∈ scorer.keys := List.mem_append_left _ (List.mem_map_of_mem s.mem_all)
    rw [WayTags.read, WayTags.read, ← WayTags.get?_key, ← WayTags.get?_key, h s.key hs]
  have hsheet : row.tags.sheet = row'.tags.sheet := funext fun lenient => WayTags.sheet_congr hread lenient
  simp only [score, hedge, hsheet, reluctance_congr h]

/-- **The order of columns does not change a score**, be it a number or an error, if no columns disagree about a tag
that the score is read from. -/
theorem score_perm {scorer : Scorer} {row row' : Row} (hrow : row.Reordered row')
    (hsettled : ∀ key ∈ scorer.keys, Settled row.tagEntries key) : scorer.score row = scorer.score row' := by
  refine score_congr (hrow.find?_eq Row.edgeColumn) fun key hkey => hrow.get?_eq ?_
  rw [lower_of_mem_keys hkey]
  exact hsettled key hkey

/-- a row with two spellings of a width on which they agree -/
def twoSpellings : Row := ⟨⟨[("edge_id", "7"), ("Width", "0.5"), ("max_slope", "0.09"), (" width", "0.5 ")], by decide⟩⟩

def twoSpellingsTurned : Row := ⟨⟨twoSpellings.columns.entries.reverse, by decide⟩⟩

theorem score_twoSpellings :
    twoSpellings.Reordered twoSpellingsTurned ∧
      (∀ key ∈ (ofConfig {} .walk true).keys, Settled twoSpellings.tagEntries key) ∧
      (ofConfig {} .walk true).score twoSpellings = (ofConfig {} .walk true).score twoSpellingsTurned := by
  have hrow : twoSpellings.Reordered twoSpellingsTurned := (List.reverse_perm _).symm
  have hentries : twoSpellings.tagEntries = [("width", "0.5"), ("max_slope", "0.09"), ("width", "0.5")] := by
    decide +kernel
  have hsettled : ∀ key ∈ (ofConfig {} .walk true).keys, Settled twoSpellings.tagEntries key := by
    rw [hentries]
    decide
  exact ⟨hrow, hsettled, score_perm hrow hsettled⟩

/-! ## Columns that disagree -/

/-- a bus rides on no edge but stairs -/
def bus : Scorer := ⟨.standard, {}, {}, .bus, false⟩

/-- what a row says of its way is all that a bus asks for -/
theorem isOk_score_bus {row : Row} (edge : String) (kind : Highway) (hedge : row.find? Row.edgeColumn = some edge)
    (hkind : row.tags.byKey.find? Slot.highway.key = some (Category.label kind))
    (honly : ∀ e ∈ row.tagEntries, e.1 = Slot.highway.key) : (bus.score row).isOk = (kind == .steps) := by
  have hothers (k : Slot) (hk : k ≠ .highway) : row.tags.byKey.find? k.key = none := by
    rw [Row.tags, WayTags.find?_ofList, List.lookup_eq_none_iff]
    intro e he
    have hne : k.key ≠ e.1 := fun h => hk (Slot.key_injective (h.trans (honly e (List.mem_reverse.1 he))))
    exact bne_iff_ne.2 hne
  have hsheet : row.tags.sheet false = .ok (Sheet.empty.put .highway (some kind)) := by
    refine WayTags.sheet_of_reads (fun k => ?_) false
    by_cases hk : Slot.highway = k
    · subst hk
      rw [WayTags.read_of_find? hkind, Sheet.get_put_self]
      exact congrArg Except.ok (Category.firstLabel?_label kind)
    · rw [WayTags.read_of_absent (hothers k (Ne.symm hk)), Sheet.get_put_of_ne hk]
      rfl
  simp only [score, hedge, bus, hsheet, reluctance, RoutingPreferences.reluctance, Sheet.get_put_self]
  cases kind <;> rfl

/-- a row that says of its way that it is stairs, and in another spelling that it is a footway -/
def footwayLast : Row := ⟨⟨[("edge_id", "1"), ("highway", "steps"), ("Highway", "footway")], by decide⟩⟩

/-- the same row in another order -/
def stepsLast : Row := ⟨⟨[("edge_id", "1"), ("Highway", "footway"), ("highway", "steps")], by decide⟩⟩

theorem score_disputed :
    footwayLast.Reordered stepsLast ∧ (bus.score footwayLast).isOk = false ∧ (bus.score stepsLast).isOk = true := by
  refine ⟨by unfold Row.Reordered; decide, ?_, ?_⟩
  · exact isOk_score_bus "1" .footway (by decide) (by decide +kernel) (by decide +kernel)
  · exact isOk_score_bus "1" .steps (by decide) (by decide +kernel) (by decide +kernel)

end Scorer

end AccessibleWalk
