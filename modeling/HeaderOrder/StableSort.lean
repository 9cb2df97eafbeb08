/-!
# Stable sorting

Items are sorted by inserting them one after the other, the last item first, each in front of the
first item that it may precede.  Items of which each may precede the other so keep their order.

For an order that is transitive and total the result is that of the merge sort of the core library,
whose laws therefore hold here: `stableSort_eq_mergeSort`.
-/

namespace HeaderOrder

variable {α : Type}

/-- Insert an item in front of the first item that it may precede. -/
def insertSorted (le : α → α → Bool) (item : α) : List α → List α
  | [] => [item]
  | other :: rest =>
      if le item other then item :: other :: rest else other :: insertSorted le item rest

/-- Sort items by an order, stably. -/
def stableSort (le : α → α → Bool) (items : List α) : List α :=
  items.foldr (insertSorted le) []

@[simp] theorem stableSort_nil (le : α → α → Bool) : stableSort le [] = [] := rfl

@[simp] theorem stableSort_cons (le : α → α → Bool) (item : α) (items : List α) :
    stableSort le (item :: items) = insertSorted le item (stableSort le items) := rfl

/-- An insertion passes the items that must stand before. -/
theorem insertSorted_append (le : α → α → Bool) (item : α) (before after : List α)
    (must : ∀ other ∈ before, le item other = false) :
    insertSorted le item (before ++ after) = before ++ insertSorted le item after := by
  induction before with
  | nil => rfl
  | cons other rest ih =>
      have here : le item other = false := must other (List.mem_cons_self ..)
      rw [List.cons_append, insertSorted, here, if_neg Bool.false_ne_true, List.cons_append,
        ih fun later member => must later (List.mem_cons_of_mem _ member)]

/-- An insertion goes to the front of items that may all stand after. -/
theorem insertSorted_of_le (le : α → α → Bool) (item : α) (items : List α)
    (may : ∀ other ∈ items, le item other = true) :
    insertSorted le item items = item :: items := by
  cases items with
  | nil => rfl
  | cons other rest => rw [insertSorted, if_pos (may other (List.mem_cons_self ..))]

/-- For a transitive and total order, the stable sort is the merge sort. -/
theorem stableSort_eq_mergeSort (le : α → α → Bool)
    (trans : ∀ a b c, le a b = true → le b c = true → le a c = true)
    (total : ∀ a b, (le a b || le b a) = true) (items : List α) :
    stableSort le items = items.mergeSort le := by
  induction items with
  | nil => simp
  | cons item rest ih =>
      obtain ⟨before, after, whole, others, must⟩ := List.mergeSort_cons trans total item rest
      have sorted := List.pairwise_mergeSort trans total (item :: rest)
      rw [whole, List.pairwise_append, List.pairwise_cons] at sorted
      have passed : ∀ other ∈ before, le item other = false := fun other member => by
        simpa using must other member
      rw [stableSort_cons, ih, others, whole, insertSorted_append le item before after passed,
        insertSorted_of_le le item after sorted.2.1.1]

end HeaderOrder
