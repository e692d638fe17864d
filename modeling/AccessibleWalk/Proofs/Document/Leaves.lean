/-
The leaves of documents: what holds of every value in a document that is no container. Fit documents are those that come
out of a text; plain ones are those that a text holds as they are.
-/
import AccessibleWalk.Document.Basic

namespace AccessibleWalk.Document

mutual

/-- do all leaves of a document hold what is asked of them? -/
def leaves (p : Document → Bool) : Document → Bool
  | .list items => leavesOfItems p items
  | .record fields => leavesOfFields p fields
  | leaf => p leaf

def leavesOfItems (p : Document → Bool) : List Document → Bool
  | [] => true
  | d :: rest => leaves p d && leavesOfItems p rest

def leavesOfFields (p : Document → Bool) : List (String × Document) → Bool
  | [] => true
  | (_, d) :: rest => leaves p d && leavesOfFields p rest

end

/-- integers have 64 bits, with a sign or without, and reals are finite -/
def isFit : Document → Bool
  | .integer i => decide (-0x8000000000000000 ≤ i ∧ i ≤ 0xFFFFFFFFFFFFFFFF)
  | .real x => x.isFinite
  | _ => true

/-- a fit value, which stands for itself -/
def isPlain : Document → Bool
  | .unfit | .misnamed _ | .fault => false
  | leaf => leaf.isFit

variable {p : Document → Bool}

@[simp] theorem leaves_list (items : List Document) : leaves p (.list items) = items.all (leaves p) := by
  rw [leaves]
  induction items with
  | nil => rfl
  | cons d rest ih => rw [leavesOfItems, ih, List.all_cons]

@[simp] theorem leaves_record (fields : List (String × Document)) :
    leaves p (.record fields) = fields.all fun field => leaves p field.2 := by
  rw [leaves]
  induction fields with
  | nil => rfl
  | cons field rest ih => rw [leavesOfFields, ih, List.all_cons]

mutual

/-- what holds of the leaves may be weakened -/
theorem leaves_mono {q : Document → Bool} (h : ∀ leaf, p leaf = true → q leaf = true) {d : Document}
    (hd : d.leaves p = true) : d.leaves q = true := by
  cases d with
  | list items => exact leavesOfItems_mono h hd
  | record fields => exact leavesOfFields_mono h hd
  | _ => exact h _ hd

theorem leavesOfItems_mono {q : Document → Bool} (h : ∀ leaf, p leaf = true → q leaf = true) {items : List Document}
    (hd : leavesOfItems p items = true) : leavesOfItems q items = true := by
  cases items with
  | nil => rfl
  | cons d rest =>
    obtain ⟨hfirst, hrest⟩ := Bool.and_eq_true_iff.1 hd
    exact Bool.and_eq_true_iff.2 ⟨leaves_mono h hfirst, leavesOfItems_mono h hrest⟩

theorem leavesOfFields_mono {q : Document → Bool} (h : ∀ leaf, p leaf = true → q leaf = true)
    {fields : List (String × Document)} (hd : leavesOfFields p fields = true) : leavesOfFields q fields = true := by
  cases fields with
  | nil => rfl
  | cons field rest =>
    obtain ⟨hfirst, hrest⟩ := Bool.and_eq_true_iff.1 hd
    exact Bool.and_eq_true_iff.2 ⟨leaves_mono h hfirst, leavesOfFields_mono h hrest⟩

end

@[simp] theorem leaves_isPlain_real (x : Binary64) : leaves isPlain (.real x) = x.isFinite := rfl

end AccessibleWalk.Document
