/-
Tags found among pairs. Putting pairs in one after the other keeps, of all that fall on one key, the last one: blanks
and capitals of a key do not count, so pairs with different names can fall on one key, and a blank value falls on
none.

- `find?_ofList`: what is found under a key is the last entry with it.
- `lookup_eq_of_perm`: where all entries with a key agree, their order does not matter.
- `settled_iff`: where two of them disagree, it does.
-/
import Mathlib.Data.List.Nodup
import Mathlib.Data.List.Perm.Basic
import AccessibleWalk.Way.Tags

namespace AccessibleWalk

/-! ## Entries that agree -/

section Entries

variable {α β : Type}

/-- all entries with the key have one value -/
def Settled (entries : List (α × β)) (key : α) : Prop :=
  ∀ v w : β, (key, v) ∈ entries → (key, w) ∈ entries → v = w

theorem Settled.perm {entries entries' : List (α × β)} {key : α} (h : Settled entries key)
    (hp : entries.Perm entries') : Settled entries' key :=
  fun v w hv hw => h v w (hp.mem_iff.2 hv) (hp.mem_iff.2 hw)

theorem settled_of_nodup {entries : List (α × β)} (h : (entries.map Prod.fst).Nodup) (key : α) :
    Settled entries key := by
  intro v w hv hw
  exact congrArg Prod.snd (List.inj_on_of_nodup_map h hv hw rfl)

theorem settled_iff_forall_mem {entries : List (α × β)} {key : α} :
    Settled entries key ↔ ∀ e ∈ entries, ∀ f ∈ entries, e.1 = key → f.1 = key → e.2 = f.2 := by
  constructor
  · rintro h ⟨_, v⟩ he ⟨_, w⟩ hf rfl rfl
    exact h v w he hf
  · intro h v w hv hw
    exact h _ hv _ hw rfl rfl

variable [DecidableEq α]

instance [DecidableEq β] (entries : List (α × β)) (key : α) : Decidable (Settled entries key) :=
  decidable_of_iff _ settled_iff_forall_mem.symm

theorem mem_of_lookup {entries : List (α × β)} {key : α} {v : β} (h : entries.lookup key = some v) :
    (key, v) ∈ entries := by
  obtain ⟨before, after, rfl, -⟩ := List.lookup_eq_some_iff.1 h
  exact List.mem_append_right before List.mem_cons_self

/-- looking up a settled key finds any of its entries -/
theorem Settled.lookup_eq_some_iff {entries : List (α × β)} {key : α} (h : Settled entries key) (v : β) :
    entries.lookup key = some v ↔ (key, v) ∈ entries := by
  refine ⟨mem_of_lookup, fun hv => ?_⟩
  cases hw : entries.lookup key with
  | none =>
    have := List.lookup_eq_none_iff.1 hw (key, v) hv
    simp at this
  | some w => exact congrArg some (h w v (mem_of_lookup hw) hv)

theorem Settled.lookup_eq_of_perm {entries entries' : List (α × β)} {key : α} (h : Settled entries key)
    (hp : entries.Perm entries') : entries.lookup key = entries'.lookup key := by
  apply Option.ext
  intro v
  rw [h.lookup_eq_some_iff, (h.perm hp).lookup_eq_some_iff, hp.mem_iff]

end Entries

/-! ## Tags from pairs -/

namespace WayTags

/-- the entry that a pair makes: both parts without the blanks around them, the key in small letters; a blank value
makes none -/
def stored? (pair : String × String) : Option (String × String) :=
  if (Text.trim pair.2).isEmpty then none else some (Text.lower (Text.trim pair.1), Text.trim pair.2)

theorem find?_insert (tags : WayTags) (pair : String × String) (key : String) :
    (tags.insert pair.1 pair.2).byKey.find? key = ((stored? pair).toList.lookup key).or (tags.byKey.find? key) := by
  by_cases hblank : (Text.trim pair.2).isEmpty
  · rw [insert_of_blank hblank, stored?, if_pos hblank]
    rfl
  · rw [stored?, if_neg hblank, insert, if_neg hblank, Option.toList_some]
    by_cases hk : key = Text.lower (Text.trim pair.1)
    · subst hk
      rw [Dictionary.find?_put_self, List.lookup_cons_self]
      rfl
    · rw [Dictionary.find?_put_of_ne (Ne.symm hk), List.lookup_cons, beq_false_of_ne hk]
      rfl

/-- what a run of insertions finds: the last entry with the key, or else what was there -/
theorem find?_foldl_insert (pairs : List (String × String)) (tags : WayTags) (key : String) :
    (pairs.foldl (fun tags p => tags.insert p.1 p.2) tags).byKey.find? key =
      ((pairs.filterMap stored?).reverse.lookup key).or (tags.byKey.find? key) := by
  induction pairs generalizing tags with
  | nil => rfl
  | cons pair rest ih =>
    rw [List.foldl_cons, ih, find?_insert, ← Option.or_assoc, ← List.lookup_append]
    cases h : stored? pair with
    | none => rw [List.filterMap_cons_none h, Option.toList_none, List.append_nil]
    | some e => rw [List.filterMap_cons_some h, List.reverse_cons, Option.toList_some]

/-- **The last entry counts.** -/
theorem find?_ofList (pairs : List (String × String)) (key : String) :
    (ofList pairs).byKey.find? key = (pairs.filterMap stored?).reverse.lookup key := by
  rw [ofList, find?_foldl_insert]
  exact Option.or_none

/-- **A settled key is found in any order of the pairs.** -/
theorem find?_ofList_eq_some_iff {pairs : List (String × String)} {key : String}
    (h : Settled (pairs.filterMap stored?) key) (v : String) :
    (ofList pairs).byKey.find? key = some v ↔ (key, v) ∈ pairs.filterMap stored? := by
  rw [find?_ofList, (h.perm (List.reverse_perm _).symm).lookup_eq_some_iff, List.mem_reverse]

theorem find?_ofList_perm {pairs pairs' : List (String × String)} (hp : pairs.Perm pairs') {key : String}
    (h : Settled (pairs.filterMap stored?) key) : (ofList pairs).byKey.find? key = (ofList pairs').byKey.find? key := by
  apply Option.ext
  intro v
  have hp' := hp.filterMap stored?
  rw [find?_ofList_eq_some_iff h, find?_ofList_eq_some_iff (h.perm hp'), hp'.mem_iff]

/-- any entry is found in some order of the pairs -/
theorem exists_perm_find?_ofList {pairs : List (String × String)} {key v : String}
    (h : (key, v) ∈ pairs.filterMap stored?) :
    ∃ pairs' : List (String × String), pairs.Perm pairs' ∧ (ofList pairs').byKey.find? key = some v := by
  obtain ⟨pair, hmem, hpair⟩ := List.mem_filterMap.1 h
  obtain ⟨before, after, rfl⟩ := List.append_of_mem hmem
  refine ⟨(before ++ after) ++ [pair], ?_, ?_⟩
  · exact List.perm_middle.trans (List.perm_append_singleton pair _).symm
  · rw [find?_ofList, List.filterMap_append, List.filterMap_cons_some hpair, List.reverse_append, List.lookup_append]
    simp

/-- **Order matters exactly where entries disagree.** -/
theorem settled_iff (pairs : List (String × String)) (key : String) :
    Settled (pairs.filterMap stored?) key ↔
      ∀ pairs' : List (String × String), pairs.Perm pairs' →
        (ofList pairs).byKey.find? key = (ofList pairs').byKey.find? key := by
  constructor
  · intro h pairs' hp
    exact find?_ofList_perm hp h
  · intro h v w hv hw
    obtain ⟨p, hp, hfv⟩ := exists_perm_find?_ofList hv
    obtain ⟨q, hq, hfw⟩ := exists_perm_find?_ofList hw
    have : some v = some w := by rw [← hfv, ← hfw, ← h p hp, h q hq]
    exact Option.some.inj this

end WayTags

end AccessibleWalk
