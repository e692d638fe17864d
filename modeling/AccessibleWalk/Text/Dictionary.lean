/-
Texts by name, each name at most once. Looking up a name finds what was put in last under it; the entries keep the order
in which their names were last put in.
-/
namespace AccessibleWalk

/-- a finite map from texts to texts -/
structure Dictionary where
  entries : List (String × String)
  /-- a name stands for one text -/
  nodup : (entries.map Prod.fst).Nodup

namespace Dictionary

def empty : Dictionary := ⟨[], List.nodup_nil⟩

def find? (d : Dictionary) (name : String) : Option String := d.entries.lookup name

/-- the entries with other names -/
def others (d : Dictionary) (name : String) : List (String × String) := d.entries.filter fun e => e.1 != name

theorem nodup_append_others (d : Dictionary) (name text : String) :
    ((d.others name ++ [(name, text)]).map Prod.fst).Nodup := by
  have h : ((d.others name).map Prod.fst).Nodup := d.nodup.sublist (List.filter_sublist.map _)
  simp only [List.map_append, List.nodup_append]
  exact ⟨h, by simp, by simp [others]⟩

/-- puts a text under a name, in place of the one that is there -/
def put (d : Dictionary) (name text : String) : Dictionary :=
  ⟨d.others name ++ [(name, text)], d.nodup_append_others name text⟩

/-- puts in one pair after the other -/
def ofPairs (pairs : List (String × String)) : Dictionary := pairs.foldl (fun d p => d.put p.1 p.2) empty

def size (d : Dictionary) : Nat := d.entries.length

def isEmpty (d : Dictionary) : Bool := d.entries.isEmpty

/-- the same names with the same texts -/
def same (a b : Dictionary) : Bool := a.size == b.size && a.entries.all fun e => b.find? e.1 == some e.2

/-! ## Look-ups -/

@[simp] theorem find?_empty (name : String) : empty.find? name = none := rfl

theorem lookup_others_self (d : Dictionary) (name : String) : (d.others name).lookup name = none := by
  rw [List.lookup_eq_none_iff]
  intro e he
  have h : e.1 ≠ name := by simpa using (List.mem_filter.1 he).2
  simpa using Ne.symm h

theorem lookup_others_of_ne {name other : String} (h : name ≠ other) (d : Dictionary) :
    (d.others name).lookup other = d.entries.lookup other := by
  unfold others
  induction d.entries with
  | nil => rfl
  | cons e rest ih =>
    obtain ⟨k, text⟩ := e
    by_cases hk : k = name
    · subst hk
      have hne : (other == k) = false := by simpa using Ne.symm h
      simp [List.lookup_cons, ih, hne]
    · simp [hk, List.lookup_cons, ih]

@[simp] theorem find?_put_self (d : Dictionary) (name text : String) : (d.put name text).find? name = some text := by
  simp [find?, put, List.lookup_append, lookup_others_self]

@[simp] theorem find?_put_of_ne {name other : String} (h : name ≠ other) (d : Dictionary) (text : String) :
    (d.put name text).find? other = d.find? other := by
  have : (other == name) = false := by simpa using Ne.symm h
  simp [find?, put, List.lookup_append, lookup_others_of_ne h, this]

end Dictionary

end AccessibleWalk
