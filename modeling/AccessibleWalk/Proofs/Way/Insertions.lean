/-
The tags of a way, seen from the insertions that made them. Nothing but the insertions counts: a key is found with
what was said of it last, and an insertion that says nothing leaves everything as it was.

- `Dictionary.same_iff`, `Dictionary.size_eq_card`: dictionaries are told apart by look-ups, and count their names.
- `get?_insert`: one insertion.
- `get?_ofList_eq_some_iff`, `get?_ofList_eq_none_iff`: what a run of insertions finds.
- `size_ofList`, `same_ofList_iff`: how many tags there are, and which runs make the same tags.
- `ofList_meaning`: all of this together.
-/
import Mathlib.Data.Finset.Card
import Mathlib.Data.List.Induction
import AccessibleWalk.Proofs.Way.Lookup

namespace AccessibleWalk

/-! ## Dictionaries -/

namespace Dictionary

variable {a b : Dictionary} {name text : String}

def names (d : Dictionary) : Finset String := (d.entries.map Prod.fst).toFinset

theorem find?_eq_some_iff (d : Dictionary) : d.find? name = some text ↔ (name, text) ∈ d.entries :=
  (settled_of_nodup d.nodup name).lookup_eq_some_iff text

theorem mem_names_iff (d : Dictionary) : name ∈ d.names ↔ (d.find? name).isSome := by
  rw [names, List.mem_toFinset, Option.isSome_iff_exists, List.mem_map]
  constructor
  · rintro ⟨e, he, rfl⟩
    exact ⟨e.2, d.find?_eq_some_iff.2 he⟩
  · rintro ⟨text, htext⟩
    exact ⟨(name, text), d.find?_eq_some_iff.1 htext, rfl⟩

/-- **Names are counted once each.** -/
theorem size_eq_card (d : Dictionary) : d.size = d.names.card := by
  rw [names, List.toFinset_card_of_nodup d.nodup, List.length_map, size]

theorem names_congr (h : ∀ name, a.find? name = b.find? name) : a.names = b.names := by
  ext name
  rw [mem_names_iff, mem_names_iff, h name]

theorem names_put (d : Dictionary) (name text : String) : (d.put name text).names = insert name d.names := by
  ext other
  rw [Finset.mem_insert, mem_names_iff, mem_names_iff]
  by_cases h : name = other
  · simp [h]
  · simp [h, Ne.symm h]

/-- **Dictionaries are equal** if every name is found alike in both. -/
theorem same_iff : a.same b = true ↔ ∀ name, a.find? name = b.find? name := by
  simp only [same, Bool.and_eq_true, beq_iff_eq, List.all_eq_true]
  constructor
  · rintro ⟨hsize, hentries⟩
    have hfound : ∀ name text, a.find? name = some text → b.find? name = some text := by
      intro name text h
      exact hentries _ (a.find?_eq_some_iff.1 h)
    -- with as many names, the second has no further ones
    have hnames : a.names = b.names := by
      apply Finset.eq_of_subset_of_card_le
      · intro name hname
        obtain ⟨text, htext⟩ := Option.isSome_iff_exists.1 (a.mem_names_iff.1 hname)
        rw [mem_names_iff, hfound name text htext]
        rfl
      · rw [← size_eq_card, ← size_eq_card, hsize]
    intro name
    cases h : a.find? name with
    | some text => exact (hfound name text h).symm
    | none =>
      have hother : name ∉ b.names := by
        rw [← hnames, mem_names_iff, h]
        exact Bool.false_ne_true
      rw [mem_names_iff, Option.not_isSome_iff_eq_none] at hother
      exact hother.symm
  · intro h
    refine ⟨by rw [size_eq_card, size_eq_card, names_congr h], ?_⟩
    rintro ⟨name, text⟩ he
    rw [← h name]
    exact a.find?_eq_some_iff.2 he

end Dictionary

/-! ## Insertions -/

namespace WayTags

/-- the insertion says something of the key -/
def Says (key : String) (pair : String × String) : Prop :=
  Text.trim pair.2 ≠ "" ∧ Text.lower (Text.trim pair.1) = Text.lower key

instance (key : String) : DecidablePred (Says key) := fun _ => inferInstanceAs (Decidable (_ ∧ _))

/-- **An insertion** decides the keys of which it says something and leaves the others alone. -/
theorem get?_insert (tags : WayTags) (pair : String × String) (key : String) :
    (tags.insert pair.1 pair.2).get? key = if Says key pair then some (Text.trim pair.2) else tags.get? key := by
  rw [get?, find?_insert, stored?]
  by_cases hblank : Text.trim pair.2 = ""
  · simp [Says, hblank, get?]
  · by_cases hkey : Text.lower (Text.trim pair.1) = Text.lower key
    · simp [Says, hblank, hkey]
    · have hother : (Text.lower key == Text.lower (Text.trim pair.1)) = false := beq_false_of_ne (Ne.symm hkey)
      simp [Says, hblank, hkey, List.lookup_cons, hother, get?]

theorem ofList_concat (pairs : List (String × String)) (pair : String × String) :
    ofList (pairs ++ [pair]) = (ofList pairs).insert pair.1 pair.2 := by
  simp [ofList, List.foldl_append]

/-- what is found is what was said last -/
theorem get?_ofList (pairs : List (String × String)) (key : String) :
    (ofList pairs).get? key =
      (pairs.reverse.find? fun pair => decide (Says key pair)).map fun pair => Text.trim pair.2 := by
  induction pairs using List.reverseRecOn with
  | nil => rfl
  | append_singleton pairs pair ih =>
    rw [ofList_concat, get?_insert, List.reverse_concat, List.find?_cons]
    by_cases hpair : Says key pair
    · simp [hpair]
    · simp [hpair, ih]

/-- **A key is found with what was said of it last.** -/
theorem get?_ofList_eq_some_iff {pairs : List (String × String)} {key v : String} :
    (ofList pairs).get? key = some v ↔
      ∃ before pair after, pairs = before ++ pair :: after ∧ Says key pair ∧ Text.trim pair.2 = v ∧
        ∀ later ∈ after, ¬Says key later := by
  rw [get?_ofList, Option.map_eq_some_iff]
  constructor
  · rintro ⟨pair, hfind, hv⟩
    obtain ⟨hpair, after, before, hsplit, hafter⟩ := List.find?_eq_some_iff_append.1 hfind
    refine ⟨before.reverse, pair, after.reverse, ?_, by simpa using hpair, hv, by simpa using hafter⟩
    simpa using congrArg List.reverse hsplit
  · rintro ⟨before, pair, after, rfl, hpair, hv, hafter⟩
    refine ⟨pair, ?_, hv⟩
    rw [List.find?_eq_some_iff_append]
    exact ⟨by simpa using hpair, after.reverse, before.reverse, by simp, by simpa using hafter⟩

/-- a key is absent if nothing was said of it -/
theorem get?_ofList_eq_none_iff {pairs : List (String × String)} {key : String} :
    (ofList pairs).get? key = none ↔ ∀ pair ∈ pairs, ¬Says key pair := by
  simp [get?_ofList]

/-- the keys of which something is said, in small letters -/
def saidKeys (pairs : List (String × String)) : Finset String :=
  ((pairs.filter fun pair => Text.trim pair.2 ≠ "").map fun pair => Text.lower (Text.trim pair.1)).toFinset

theorem names_ofList (pairs : List (String × String)) : (ofList pairs).byKey.names = saidKeys pairs := by
  induction pairs using List.reverseRecOn with
  | nil => simp [ofList, empty, Dictionary.names, Dictionary.empty, saidKeys]
  | append_singleton pairs pair ih =>
    by_cases hblank : Text.trim pair.2 = ""
    · rw [ofList_concat, insert_of_blank (by simpa using hblank), ih]
      simp [saidKeys, hblank]
    · have hput : ((ofList pairs).insert pair.1 pair.2).byKey =
          (ofList pairs).byKey.put (Text.lower (Text.trim pair.1)) (Text.trim pair.2) := by
        simp [insert, hblank]
      rw [ofList_concat, hput, Dictionary.names_put, ih]
      ext key
      simp [saidKeys, hblank]

/-- **Tags are counted by their keys**, once each. -/
theorem size_ofList (pairs : List (String × String)) : (ofList pairs).size = (saidKeys pairs).card := by
  rw [size, Dictionary.size_eq_card, names_ofList]

/-- **A blank insertion makes no difference**, wherever it stands. -/
theorem ofList_filter_blank (pairs : List (String × String)) :
    ofList (pairs.filter fun pair => Text.trim pair.2 ≠ "") = ofList pairs := by
  induction pairs using List.reverseRecOn with
  | nil => rfl
  | append_singleton pairs pair ih =>
    by_cases hblank : Text.trim pair.2 = ""
    · rw [ofList_concat, insert_of_blank (by simpa using hblank)]
      simpa [hblank] using ih
    · simpa [hblank, ofList_concat] using congrArg (fun tags => tags.insert pair.1 pair.2) ih

/-- names are stored in small letters, so asking finds them all -/
theorem find?_ofList_of_not_lower {name : String} (h : ∀ key, Text.lower key ≠ name) (pairs : List (String × String)) :
    (ofList pairs).byKey.find? name = none := by
  rw [← Option.not_isSome_iff_eq_none, ← Dictionary.mem_names_iff, names_ofList, saidKeys]
  simp [h]

/-- **Insertions make the same tags** if every key is found alike. -/
theorem same_ofList_iff {pairs pairs' : List (String × String)} :
    (ofList pairs).same (ofList pairs') = true ↔ ∀ key, (ofList pairs).get? key = (ofList pairs').get? key := by
  rw [same, Dictionary.same_iff]
  constructor
  · intro h key
    exact h (Text.lower key)
  · intro h name
    by_cases hname : ∃ key, Text.lower key = name
    · obtain ⟨key, rfl⟩ := hname
      exact h key
    · have hnone := find?_ofList_of_not_lower (not_exists.1 hname)
      rw [hnone, hnone]

/-! ## Truth -/

theorem flagOf?_eq_true_iff {raw : String} : flagOf? raw = some true ↔ raw ∈ ["yes", "true", "1"] := by
  simp only [flagOf?, List.mem_cons, List.not_mem_nil, or_false]
  split_ifs with hyes hno
  · simp [hyes]
  · simp [hyes]
  · simp [hyes]

theorem flagOf?_eq_false_iff {raw : String} : flagOf? raw = some false ↔ raw ∈ ["no", "false", "0"] := by
  simp only [flagOf?, List.mem_cons, List.not_mem_nil, or_false]
  split_ifs with hyes hno
  · rcases hyes with rfl | rfl | rfl <;> simp
  · simp [hno]
  · simp [hno]

theorem isTrue_iff {tags : WayTags} {key : String} :
    tags.isTrue key = true ↔ ∃ v ∈ ["yes", "true", "1"], tags.get? key = some v := by
  simp only [isTrue, beq_iff_eq, Option.bind_eq_some_iff, flagOf?_eq_true_iff, and_comm]

theorem isFalse_iff {tags : WayTags} {key : String} :
    tags.isFalse key = true ↔ ∃ v ∈ ["no", "false", "0"], tags.get? key = some v := by
  simp only [isFalse, beq_iff_eq, Option.bind_eq_some_iff, flagOf?_eq_false_iff, and_comm]

/-! ## All laws -/

/-- **What insertions mean.** A key is found with the value that was said of it last, without the blanks around it,
and it is absent if nothing was said of it; blank insertions say nothing and might as well not be there. There are as
many tags as keys of which something was said. A tag says yes or no if its value is one of three words each. Two runs
of insertions make the same tags exactly if every key is found alike. -/
theorem ofList_meaning :
    (∀ (pairs : List (String × String)) (key v : String), (ofList pairs).get? key = some v ↔
      ∃ before pair after, pairs = before ++ pair :: after ∧ Says key pair ∧ Text.trim pair.2 = v ∧
        ∀ later ∈ after, ¬Says key later) ∧
    (∀ (pairs : List (String × String)) (key : String),
      (ofList pairs).get? key = none ↔ ∀ pair ∈ pairs, ¬Says key pair) ∧
    (∀ pairs : List (String × String), ofList (pairs.filter fun pair => Text.trim pair.2 ≠ "") = ofList pairs) ∧
    (∀ pairs : List (String × String), (ofList pairs).size = (saidKeys pairs).card) ∧
    (∀ (pairs : List (String × String)) (key : String),
      ((ofList pairs).isTrue key = true ↔ ∃ v ∈ ["yes", "true", "1"], (ofList pairs).get? key = some v) ∧
      ((ofList pairs).isFalse key = true ↔ ∃ v ∈ ["no", "false", "0"], (ofList pairs).get? key = some v)) ∧
    ∀ pairs pairs' : List (String × String),
      (ofList pairs).same (ofList pairs') = true ↔ ∀ key, (ofList pairs).get? key = (ofList pairs').get? key := by
  refine ⟨?_, ?_, ?_, ?_, ?_, ?_⟩
  · exact fun pairs key v => get?_ofList_eq_some_iff
  · exact fun pairs key => get?_ofList_eq_none_iff
  · exact ofList_filter_blank
  · exact size_ofList
  · exact fun pairs key => ⟨isTrue_iff, isFalse_iff⟩
  · exact fun pairs pairs' => same_ofList_iff

/-- three names of one key, of which the blank one says nothing -/
example : (ofList [("Width", "2"), ("WIDTH\u2003", " 0.9 m "), (" width", "\t")]).get? "wIdTh" = some "0.9 m" := by
  decide +kernel

end WayTags

end AccessibleWalk
