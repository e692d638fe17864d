/-
Tags that list values of a category between semicolons. Such a tag is read as the values whose labels stand among its
entries, each once and in the order in which they first come; blanks around an entry do not count, and an entry that is
no label is passed over.

- `Text.pieces_append`, `Text.pieces_intercalate`: texts are cut where they were joined.
- `mem_ofLabels_iff`, `pairwise_ofLabels`: what is read, and in which order.
- `ofLabels_append`: the second half of a tag adds what is new in it.
- `ofLabels_spaced`: values are read back from their labels.
- `categories_read_lists`: all of this, of every category.
-/
import Mathlib.Data.List.Induction
import AccessibleWalk.Proofs.Category.Labels

namespace AccessibleWalk

/-! ## Cutting texts -/

namespace Text

variable {separator : Char}

/-- texts are cut as lists are -/
theorem pieces_eq_splitOn (separator : Char) (cs : List Char) : pieces separator cs = cs.splitOn separator := by
  induction cs with
  | nil => rfl
  | cons c rest ih =>
    rw [List.splitOn_cons_eq_if_modifyHead, ← ih, pieces]
    by_cases hc : c = separator
    · simp [hc]
    · obtain ⟨piece, more, hpieces⟩ := List.exists_cons_of_ne_nil (pieces_ne_nil separator rest)
      simp [hc, hpieces]

/-- **Two texts with a separator between them** are cut there. -/
theorem pieces_append (cs ds : List Char) :
    pieces separator (cs ++ separator :: ds) = pieces separator cs ++ pieces separator ds := by
  simp only [pieces_eq_splitOn]
  exact List.splitOn_append_cons_self cs ds

/-- **Texts without separators** are cut where they were joined. -/
theorem pieces_intercalate {texts : List (List Char)} (h : ∀ cs ∈ texts, separator ∉ cs) (hne : texts ≠ []) :
    pieces separator ([separator].intercalate texts) = texts := by
  rw [pieces_eq_splitOn]
  exact List.splitOn_intercalate separator h hne

/-- blanks around a text without blanks are trimmed -/
theorem trimChars_spaced {before cs after : List Char} (hbefore : ∀ c ∈ before, isBlank c = true)
    (hcs : ∀ c ∈ cs, isBlank c = false) (hafter : ∀ c ∈ after, isBlank c = true) :
    trimChars (before ++ cs ++ after) = cs := by
  unfold trimChars
  rw [List.append_assoc, List.dropWhile_append_of_pos hbefore]
  cases cs with
  | nil =>
    have hall : after.dropWhile isBlank = [] := List.dropWhile_eq_nil_iff.2 hafter
    simp [hall]
  | cons c rest =>
    have hfirst : isBlank c = false := hcs c List.mem_cons_self
    have hback : ∀ d ∈ after.reverse, isBlank d = true := fun d hd => hafter d (List.mem_reverse.1 hd)
    have hlast : (c :: rest).reverse.dropWhile isBlank = (c :: rest).reverse := by
      rw [List.dropWhile_eq_self_iff]
      intro hlength
      simpa using hcs _ (List.mem_reverse.1 (List.getElem_mem hlength))
    rw [List.cons_append, List.dropWhile_cons_of_neg (by simp [hfirst]), ← List.cons_append, List.reverse_append,
      List.dropWhile_append_of_pos hback, hlast, List.reverse_reverse]

end Text

/-! ## First places -/

section FirstPlaces

variable {α β : Type} [BEq α] [LawfulBEq α]

/-- a value at the end is kept if it is new -/
theorem eraseDups_concat (l : List α) (a : α) :
    (l ++ [a]).eraseDups = if l.contains a then l.eraseDups else l.eraseDups ++ [a] := by
  rw [List.eraseDups_append, List.removeAll]
  by_cases h : a ∈ l
  · simp [h]
  · simp [h, List.eraseDups_cons]

theorem eraseDups_filter (p : α → Bool) (l : List α) : (l.filter p).eraseDups = l.eraseDups.filter p := by
  induction l using List.reverseRecOn with
  | nil => rfl
  | append_singleton l a ih =>
    cases ha : p a with
    | true => by_cases hl : a ∈ l <;> simp [eraseDups_concat, ih, ha, hl]
    | false => by_cases hl : a ∈ l <;> simp [eraseDups_concat, ih, ha, hl]

theorem eraseDups_of_nodup {l : List α} (h : l.Nodup) : l.eraseDups = l := by
  induction l with
  | nil => rfl
  | cons a rest ih =>
    obtain ⟨ha, hrest⟩ := List.nodup_cons.1 h
    have hothers : (rest.filter fun b => !b == a) = rest := by
      rw [List.filter_eq_self]
      intro b hb
      have hne : b ≠ a := fun hba => ha (hba ▸ hb)
      simpa using hne
    rw [List.eraseDups_cons, hothers, ih hrest]

/-- **What is read off a list** is ordered by first places, where every value is read from one spelling only. -/
theorem pairwise_eraseDups_filterMap [BEq β] [LawfulBEq β] {read : β → Option α} {write : α → β}
    (h : ∀ b a, read b = some a ↔ write a = b) (l : List β) :
    (l.filterMap read).eraseDups.Pairwise fun a a' => l.idxOf (write a) < l.idxOf (write a') := by
  -- the list grows at its end, where the place of what was read before does not change
  induction l using List.reverseRecOn with
  | nil => exact .nil
  | append_singleton l b ih =>
    have hold : ∀ a ∈ (l.filterMap read).eraseDups, write a ∈ l := by
      intro a ha
      obtain ⟨c, hc, hread⟩ := List.mem_filterMap.1 (List.mem_eraseDups.1 ha)
      rwa [(h c a).1 hread]
    have hkept : (l.filterMap read).eraseDups.Pairwise fun a a' =>
        (l ++ [b]).idxOf (write a) < (l ++ [b]).idxOf (write a') := by
      refine ih.imp_of_mem ?_
      intro a a' ha ha' hlt
      rwa [List.idxOf_append_of_mem (hold a ha), List.idxOf_append_of_mem (hold a' ha')]
    rw [List.filterMap_append]
    cases hb : read b with
    | none => simpa [hb] using hkept
    | some new =>
      rw [List.filterMap_cons_some hb, List.filterMap_nil, eraseDups_concat]
      split_ifs with hknown
      · exact hkept
      · rw [List.pairwise_append]
        refine ⟨hkept, List.pairwise_singleton _ _, ?_⟩
        intro a ha a' ha'
        rw [List.mem_singleton.1 ha', (h b new).1 hb, List.idxOf_append_of_mem (hold a ha)]
        have hnew : b ∉ l := by
          intro hmem
          exact hknown (List.contains_iff_mem.2 (List.mem_filterMap.2 ⟨b, hmem, hb⟩))
        have hplace := List.idxOf_lt_length_of_mem (hold a ha)
        simp [List.idxOf_append, hnew, hplace]

end FirstPlaces

/-! ## Reading values -/

namespace Category

variable {α : Type} [Category α]

theorem ofLabels_eq (raw : String) : (ofLabels raw : List α) = ((entries raw).filterMap ofLabel?).eraseDups := by
  rw [ofLabels, entries, List.filterMap_map]
  rfl

/-- a tag of two halves has the entries of both -/
theorem entries_append (a b : String) : entries (a ++ ";" ++ b) = entries a ++ entries b := by
  have htext : (a ++ ";" ++ b).toList = a.toList ++ ';' :: b.toList := by simp
  rw [entries, htext, Text.pieces_append, List.map_append, entries, entries]

/-- **The second half of a tag adds what is new in it.** -/
theorem ofLabels_append (a b : String) :
    (ofLabels (a ++ ";" ++ b) : List α) = ofLabels a ++ (ofLabels b).filter fun c => !(ofLabels a).contains c := by
  simp only [ofLabels_eq, entries_append, List.filterMap_append, List.eraseDups_append, List.removeAll,
    eraseDups_filter]
  congr 2
  funext c
  simp [List.mem_eraseDups]

/-- a value as an entry of a tag, with blanks around its label -/
structure Spaced (α : Type) where
  before : List Char
  value : α
  after : List Char
  before_blank : ∀ c ∈ before, Text.isBlank c = true
  after_blank : ∀ c ∈ after, Text.isBlank c = true

def Spaced.text (s : Spaced α) : String := String.ofList (s.before ++ (label s.value).toList ++ s.after)

variable [LawfulCategory α]

/-- **The values that are read** are those whose labels are entries. -/
theorem mem_ofLabels_iff {raw : String} {c : α} : c ∈ ofLabels raw ↔ label c ∈ entries raw := by
  rw [ofLabels_eq, List.mem_eraseDups, List.mem_filterMap]
  constructor
  · rintro ⟨entry, hentry, hread⟩
    rwa [ofLabel?_eq_some_iff.1 hread]
  · intro hentry
    exact ⟨label c, hentry, LawfulCategory.ofLabel?_label c⟩

/-- **They stand in the order** in which their labels first come. -/
theorem pairwise_ofLabels (raw : String) :
    (ofLabels raw : List α).Pairwise fun c d => (entries raw).idxOf (label c) < (entries raw).idxOf (label d) := by
  rw [ofLabels_eq]
  exact pairwise_eraseDups_filterMap (fun _ _ => ofLabel?_eq_some_iff) (entries raw)

namespace Spaced

variable (s : Spaced α)

theorem trim_text : Text.trimChars s.text.toList = (label s.value).toList := by
  rw [text, String.toList_ofList]
  exact Text.trimChars_spaced s.before_blank (fun c hc => (LawfulCategory.label_plain s.value c hc).1) s.after_blank

theorem separator_notMem : ';' ∉ s.text.toList := by
  have hblank : ∀ cs : List Char, (∀ c ∈ cs, Text.isBlank c = true) → ';' ∉ cs := by
    intro cs hcs hmem
    exact absurd (hcs ';' hmem) (by decide)
  simp only [text, String.toList_ofList, List.mem_append, not_or]
  refine ⟨⟨hblank _ s.before_blank, ?_⟩, hblank _ s.after_blank⟩
  intro hmem
  exact (LawfulCategory.label_plain s.value ';' hmem).2 rfl

end Spaced

/-- the entries of a tag that was made of labels are the labels -/
theorem entries_spaced {items : List (Spaced α)} (hne : items ≠ []) :
    entries (";".intercalate (items.map Spaced.text)) = items.map fun s => label s.value := by
  have htext : (";".intercalate (items.map Spaced.text)).toList =
      [';'].intercalate (items.map fun s => s.text.toList) := by
    simp [String.toList_intercalate, Function.comp_def]
  rw [entries, htext, Text.pieces_intercalate (by simp [Spaced.separator_notMem]) (by simpa using hne), List.map_map]
  simp [Function.comp_def, Spaced.trim_text]

/-- **Values are read back from their labels**, whatever blanks stand around them. -/
theorem ofLabels_spaced {items : List (Spaced α)} (h : (items.map Spaced.value).Nodup) :
    ofLabels (";".intercalate (items.map Spaced.text)) = items.map Spaced.value := by
  rw [ofLabels_eq]
  by_cases hne : items = []
  · subst hne
    have hempty : entries "" = [""] := rfl
    simp [hempty, ofLabel?_empty]
  · have hread : (items.map fun s => label s.value).filterMap ofLabel? = items.map Spaced.value := by
      simp [List.filterMap_map, LawfulCategory.ofLabel?_label, List.filterMap_eq_map']
    rw [entries_spaced hne, hread, eraseDups_of_nodup h]

end Category

open Category (ofLabels entries label Spaced)

/-- the laws of reading several values from one tag -/
structure ReadsLists (α : Type) [Category α] : Prop where
  /-- the values are those whose labels are entries -/
  mem_iff : ∀ (raw : String) (c : α), c ∈ ofLabels raw ↔ label c ∈ entries raw
  nodup : ∀ raw : String, (ofLabels raw : List α).Nodup
  /-- they are ordered by the first places of their labels -/
  ordered : ∀ raw : String,
    (ofLabels raw : List α).Pairwise fun c d => (entries raw).idxOf (label c) < (entries raw).idxOf (label d)
  /-- the second half of a tag adds what is new in it -/
  append : ∀ a b : String,
    (ofLabels (a ++ ";" ++ b) : List α) = ofLabels a ++ (ofLabels b).filter fun c => !(ofLabels a).contains c
  /-- different values are read back from their labels, whatever blanks stand around them -/
  spaced : ∀ items : List (Spaced α), (items.map Spaced.value).Nodup →
    ofLabels (";".intercalate (items.map Spaced.text)) = items.map Spaced.value

/-- the laws hold where labels are good spellings -/
theorem LawfulCategory.readsLists (α : Type) [Category α] [LawfulCategory α] : ReadsLists α where
  mem_iff _ _ := Category.mem_ofLabels_iff
  nodup raw := by
    refine (Category.pairwise_ofLabels raw).imp ?_
    rintro c _ hlt rfl
    exact lt_irrefl _ hlt
  ordered := Category.pairwise_ofLabels
  append := Category.ofLabels_append
  spaced _ := Category.ofLabels_spaced

/-- **Every category is read from lists.** A tag with several entries is read as the values whose labels are among its
entries, once each and in the order in which they first come. Joined tags are read one after the other, the second
adding what is new in it, and different values are read back from their labels. -/
theorem categories_read_lists :
    ReadsLists Surface ∧ ReadsLists Smoothness ∧ ReadsLists Highway ∧ ReadsLists Footway ∧ ReadsLists BevEtat ∧
      ReadsLists InclineDirection := by
  refine ⟨?_, ?_, ?_, ?_, ?_, ?_⟩
  all_goals exact LawfulCategory.readsLists _

/-- unknown entries, blanks, a repeat, and a name that is no label -/
example : (ofLabels " asphalt;lava;;concrete_lanes; gravel ;asphalt;concrete:lane" : List Surface) =
    [.asphalt, .gravel, .concreteLanes] := by
  decide

end AccessibleWalk
