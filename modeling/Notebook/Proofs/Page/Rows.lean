import Mathlib.Algebra.Order.BigOperators.Group.List
import Mathlib.Data.List.Infix
import Notebook.Proofs.Page.Layout

/-! # Rows of tags are as few as can be

A row takes every tag that still fits. So the rows that are left never begin before those of another division of
the same tags, and no division has fewer rows.
-/

namespace Notebook

open Text

def FitsPage (row : List Text) : Prop := row.length = 1 ∨ rowWidth row ≤ pageWidth

instance (row : List Text) : Decidable (FitsPage row) :=
  inferInstanceAs (Decidable (row.length = 1 ∨ rowWidth row ≤ pageWidth))

/-- A division of tags into consecutive groups of which each fits. -/
structure IsDivision (rows : List (List Text)) (tags : List Text) : Prop where
  flatten : rows.flatten = tags
  fits : ∀ row ∈ rows, FitsPage row

/-! ## Widths -/

theorem length_tagRow (row : List Text) :
    (tagRow row).length = (row.map List.length).sum + 2 * (row.length - 1) := by
  induction row with
  | nil => rfl
  | cons first rest ih =>
    cases rest with
    | nil => simp [tagRow_singleton]
    | cons second rest =>
      rw [tagRow_cons_cons, List.length_append, List.length_append, ih]
      simp only [List.map_cons, List.sum_cons, List.length_cons, List.length_nil]
      omega

theorem rowWidth_le_of_sublist {some more : List Text} (h : some.Sublist more) : rowWidth some ≤ rowWidth more := by
  have hsum : (some.map List.length).sum ≤ (more.map List.length).sum := (h.map _).sum_le_sum (by simp)
  have hlength := h.length_le
  simp only [rowWidth, headerLine, List.length_cons, length_tagRow]
  omega

/-! ## The first row -/

theorem fillRows_eq (row rest : List Text) :
    ∃ taken left, fillRows row rest = (row ++ taken) :: rowsOf left ∧ rest = taken ++ left ∧
      ∀ tag ∈ left.head?, pageWidth < rowWidth (row ++ taken ++ [tag]) := by
  fun_induction fillRows row rest with
  | case1 row => exact ⟨[], [], by simp [rowsOf], rfl, by simp⟩
  | case2 row tag rest _ ih =>
    obtain ⟨taken, left, hrows, rfl, hwide⟩ := ih
    exact ⟨tag :: taken, left, by simpa using hrows, rfl, by simpa using hwide⟩
  | case3 row tag rest hwide _ => exact ⟨[], tag :: rest, by simp [rowsOf], rfl, by simpa using hwide⟩

theorem fits_of_mem_fillRows {row rest r : List Text} (hrow : FitsPage row) (h : r ∈ fillRows row rest) :
    FitsPage r := by
  fun_induction fillRows row rest with
  | case1 row => exact List.mem_singleton.1 h ▸ hrow
  | case2 row tag rest hfits ih => exact ih (.inr hfits) h
  | case3 row tag rest _ ih =>
    rcases List.mem_cons.1 h with rfl | h
    · exact hrow
    · exact ih (.inl rfl) h

theorem isDivision_rowsOf (tags : List Text) : IsDivision (rowsOf tags) tags := by
  refine ⟨flatten_rowsOf tags, fun row hrow => ?_⟩
  cases tags with
  | nil => cases hrow
  | cons tag rest => exact fits_of_mem_fillRows (.inl rfl) hrow

/-! ## No division has fewer rows -/

/-- Tags that begin inside of a group that fits are in one row up to the end of the group at least. -/
theorem rowsOf_append {row front : List Text} (hrow : FitsPage row) (hfront : front <:+ row) (hne : front ≠ [])
    (rest : List Text) : ∃ first left, rowsOf (front ++ rest) = first :: rowsOf left ∧ left <:+ rest := by
  obtain ⟨tag, more, rfl⟩ := List.exists_cons_of_ne_nil hne
  obtain ⟨taken, left, hrows, hrest, hwide⟩ := fillRows_eq [tag] (more ++ rest)
  refine ⟨[tag] ++ taken, left, hrows, ?_⟩
  rcases List.append_eq_append_iff.1 hrest with ⟨added, rfl, rfl⟩ | ⟨missed, rfl, rfl⟩
  · exact List.suffix_append added left
  · cases missed with
    | nil => exact List.suffix_refl rest
    | cons next missed =>
      -- The next tag is in a group that fits together with those of the row, and so it fits into the row.
      have hinside : ([tag] ++ taken ++ [next]).Sublist row := by
        refine List.Sublist.trans ?_ hfront.sublist
        simp
      have hlength := hinside.length_le
      have hwidth := rowWidth_le_of_sublist hinside
      have htoo := hwide next (by simp)
      rcases hrow with hone | hfits
      · simp [hone] at hlength
      · omega

/-- The tags that are left never reach back before the same number of groups of another division. -/
theorem length_rowsOf_le {rows : List (List Text)} {tags : List Text} (hrows : ∀ row ∈ rows, FitsPage row)
    (htags : tags <:+ rows.flatten) : (rowsOf tags).length ≤ rows.length := by
  induction rows generalizing tags with
  | nil => simp [List.suffix_nil.1 htags, rowsOf]
  | cons row rows ih =>
    obtain ⟨hrow, hrows⟩ := List.forall_mem_cons.1 hrows
    have hpast {left : List Text} (hleft : left <:+ rows.flatten) : (rowsOf left).length ≤ rows.length :=
      ih hrows hleft
    rw [List.flatten_cons] at htags
    rcases List.suffix_or_suffix_of_suffix htags (List.suffix_append row rows.flatten) with hlate | ⟨front, rfl⟩
    · exact (hpast hlate).trans (Nat.le_succ _)
    · cases front with
      | nil => exact (hpast (List.suffix_refl _)).trans (Nat.le_succ _)
      | cons tag more =>
        have hfront : tag :: more <:+ row := ((List.suffix_append_inj_of_length_eq rfl).1 htags).1
        obtain ⟨first, left, hrowsOf, hleft⟩ := rowsOf_append hrow hfront (by simp) rows.flatten
        rw [hrowsOf, List.length_cons, List.length_cons]
        exact Nat.succ_le_succ (hpast hleft)

/-- Tags are packed into rows of consecutive tags, in order and without loss, of which only those of one tag can be
wider than the page, and no division of the tags into such rows has fewer. -/
theorem packTags_is_fewest (tags : List Text) :
    ∃ rows : List (List Text), packTags tags = rows.map tagRow ∧ (∀ row ∈ rows, row ≠ []) ∧
      rows.flatten = tags.filter (· ≠ []) ∧
      (∀ row ∈ rows, 1 < row.length → (headerLine (tagRow row)).length ≤ pageWidth) ∧
      ∀ others, IsDivision others (tags.filter (· ≠ [])) → (packTags tags).length ≤ others.length := by
  have hdivision := isDivision_rowsOf (tags.filter (· ≠ []))
  refine ⟨rowsOf (tags.filter (· ≠ [])), rfl, fun row => ne_nil_of_mem_rowsOf, hdivision.flatten, ?_, ?_⟩
  · intro row hrow hmany
    exact (hdivision.fits row hrow).resolve_left (Nat.ne_of_gt hmany)
  · intro others hothers
    rw [packTags, List.length_map]
    exact length_rowsOf_le hothers.fits (hothers.flatten ▸ List.suffix_refl _)

def wideTags : List Text := [List.replicate 40 'a', [], List.replicate 36 'b', ['c'], List.replicate 90 'd']

theorem packTags_is_fewest_wide :
    IsDivision [[List.replicate 40 'a'], [List.replicate 36 'b', ['c']], [List.replicate 90 'd']]
        (wideTags.filter (· ≠ [])) ∧
      (packTags wideTags).map List.length = [78, 1, 90] ∧ (packTags wideTags).length ≤ 3 := by
  have hothers : IsDivision [[List.replicate 40 'a'], [List.replicate 36 'b', ['c']], [List.replicate 90 'd']]
      (wideTags.filter (· ≠ [])) := ⟨by decide, by decide⟩
  obtain ⟨_, -, -, -, -, hfewest⟩ := packTags_is_fewest wideTags
  exact ⟨hothers, by decide, hfewest _ hothers⟩

end Notebook
