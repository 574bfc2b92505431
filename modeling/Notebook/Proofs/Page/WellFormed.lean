import Mathlib.Data.List.Flatten
import Notebook.Proofs.Page.Draft

/-! # Well-formed notes

What every note has that was read from a page, and what becomes of such a note when it is written and
read once more.
-/

namespace Notebook

open Text

namespace Note

@[mk_iff]
structure WellFormed (n : Note) : Prop where
  path : n.path.IsInline
  path_divider : isDivider n.path = false
  tags : ∀ tag ∈ n.tags, IsTag tag
  tags_nodup : n.tags.Nodup
  fields : ∀ f ∈ n.fields, f.IsWritable
  fields_distinct : n.fields.Pairwise fun f g => f.same g = false
  directive : ∃ text, n.directive = .read text
  directive_newline : '\n' ∉ n.directive.written
  directive_equals : '=' ∉ n.directive.written
  lines : ∀ line ∈ n.lines, '\n' ∉ line ∧ isHeaderLine line = false

instance (n : Note) : Decidable n.WellFormed := decidable_of_iff' _ n.wellFormed_iff

theorem WellFormed.newline {n : Note} (h : n.WellFormed) : ∀ line ∈ n.writtenLines, '\n' ∉ line :=
  newline_not_mem_writtenLines h.path.newline h.directive_newline h.tags h.fields
    fun line hline => (h.lines line hline).1

/-! ## What is read back -/

def tagRows (n : Note) : List (List Text) := rowsOf (n.tags.filter (· ≠ []))

namespace WellFormed

variable {n : Note}

theorem flatten_tagRows (h : n.WellFormed) : n.tagRows.flatten = n.tags := by
  rw [tagRows, flatten_rowsOf, List.filter_eq_self]
  exact fun tag htag => by simpa using (h.tags tag htag).ne_nil

theorem mem_tagRows (h : n.WellFormed) {row : List Text} (hrow : row ∈ n.tagRows) :
    row ≠ [] ∧ ∀ tag ∈ row, IsTag tag := by
  refine ⟨ne_nil_of_mem_rowsOf hrow, fun tag htag => h.tags tag ?_⟩
  rw [← h.flatten_tagRows]
  exact List.mem_flatten.2 ⟨row, hrow, htag⟩

theorem takeContent_directive (h : n.WellFormed) {m : Note} (hpath : m.path ≠ []) :
    m.takeContent (Text.trim ('@' :: n.directive.written))
      = if isDivider ('@' :: n.directive.written) then m else { m with directive := n.directive } := by
  obtain ⟨text, htext⟩ := h.directive
  have hequals := h.directive_equals
  rw [htext] at hequals ⊢
  have htrim := Directive.trim_written_read text
  have hat : Text.trim ('@' :: (Directive.read text).written) = '@' :: (Directive.read text).written := by
    have := trim_append_cons (c := '@') (by decide) [] (Directive.read text).written
    rw [List.nil_append] at this
    rw [this, trimEnd_eq_self htrim]
    rfl
  rw [hat]
  split
  · rename_i hdivider
    simp [takeContent, hdivider]
  · rename_i hdivider
    rw [takeContent_item hpath (List.cons_ne_nil _ _) (by simpa using hdivider), HeaderItem.read_directive hequals,
      trimStart_eq_self htrim, Directive.read_written_read]
    rfl

/-- Read back are the tags on the rows that look like tags, all fields, and the lines from the first that
is not blank. -/
theorem reread_eq (h : n.WellFormed) (hpath : n.path ≠ []) :
    ∃ d, n.reread = { n with
        lines := (n.lines.map withoutReturn).dropWhile Text.isBlank
        tags := (n.tagRows.filter isTagRow).flatten
        directive := d } ∧
      ((∀ row ∈ n.tagRows, isTagRow row = true) →
        d = if isDivider ('@' :: n.directive.written) then .insert else n.directive) := by
  have hnamed : (blank []).takeContent n.path.trim = blank n.path := by
    rw [h.path.trimmed, takeContent_path rfl hpath h.path_divider]
    rfl
  let directed : Note :=
    ⟨n.path, [], [], [], if isDivider ('@' :: n.directive.written) then .insert else n.directive⟩
  have hdirected : (blank n.path).takeContent (Text.trim ('@' :: n.directive.written)) = directed := by
    have hblank : (blank n.path).path ≠ [] := hpath
    rw [h.takeContent_directive hblank]
    simp only [directed]
    split <;> rfl
  have hdetails : n.details.map Text.trim
      = n.tagRows.map tagRow ++ n.fields.map fun f => (fieldLine (nameWidth n.fields) f).trim := by
    rw [details, List.map_append, packTags, ← tagRows, List.map_map, List.map_map]
    congr 1
    exact List.map_congr_left fun row hrow =>
      (isInline_tagRow (h.mem_tagRows hrow).1 (h.mem_tagRows hrow).2).trimmed
  have hnew : (directed.tags ++ n.tagRows.flatten).Nodup := by
    rw [h.flatten_tagRows]
    exact h.tags_nodup
  obtain ⟨d, hrows, hd⟩ := foldl_takeContent_rows directed hpath (fun row hrow => (h.mem_tagRows hrow).1)
    (fun row hrow => (h.mem_tagRows hrow).2) hnew
  refine ⟨d, ?_, hd⟩
  have hfields := foldl_takeContent_fields ⟨n.path, [], (n.tagRows.filter isTagRow).flatten, [], d⟩ hpath
    (nameWidth n.fields) h.fields h.fields_distinct
  rw [reread, List.map_cons, List.foldl_cons, hnamed, List.map_cons, List.foldl_cons, hdirected, hdetails,
    List.foldl_append, hrows]
  exact congrArg (fun m : Note => { m with lines := (n.lines.map withoutReturn).dropWhile Text.isBlank }) hfields

end WellFormed

/-! ## Notes that are read back as they are -/

/-- Nothing in the written form of a note is taken for something else. -/
@[mk_iff]
structure IsUnambiguous (n : Note) : Prop where
  path_ne_nil : n.path ≠ []
  rows : ∀ row ∈ packTags n.tags, row.head? ≠ some '@' ∧ isDivider row = false
  directive : isDivider ('@' :: n.directive.written) = false
  line_return : ∀ line ∈ n.lines, line.getLast? ≠ some '\r'
  first_line : ∀ line ∈ n.lines.head?, line.isBlank = false

instance (n : Note) : Decidable n.IsUnambiguous := decidable_of_iff' _ n.isUnambiguous_iff

theorem forall_isTagRow {n : Note} :
    (∀ row ∈ n.tagRows, isTagRow row = true) ↔
      ∀ row ∈ packTags n.tags, row.head? ≠ some '@' ∧ isDivider row = false := by
  rw [packTags, ← tagRows, List.forall_mem_map]
  simp [isTagRow]

theorem forall_of_flatten_filter {p : List Text → Bool} {rows : List (List Text)}
    (hne : ∀ row ∈ rows, row ≠ []) (h : (rows.filter p).flatten.length = rows.flatten.length) :
    ∀ row ∈ rows, p row = true := by
  induction rows with
  | nil => simp
  | cons row rest ih =>
    have hle : (rest.filter p).flatten.length ≤ rest.flatten.length :=
      List.filter_sublist.flatten.length_le
    have hrow := List.length_pos_iff.2 (hne row (by simp))
    have hrest : ∀ r ∈ rest, r ≠ [] := fun r hr => hne r (by simp [hr])
    by_cases hp : p row = true
    · rw [List.filter_cons_of_pos hp, List.flatten_cons, List.flatten_cons, List.length_append,
        List.length_append, Nat.add_left_cancel_iff] at h
      simp only [List.forall_mem_cons]
      exact ⟨hp, ih hrest h⟩
    · rw [List.filter_cons_of_neg hp, List.flatten_cons, List.length_append] at h
      omega

theorem reread_lines_iff {ls : List Text} :
    (ls.map withoutReturn).dropWhile Text.isBlank = ls ↔
      (∀ line ∈ ls, line.getLast? ≠ some '\r') ∧ ∀ line ∈ ls.head?, line.isBlank = false := by
  have hmap : ls.map withoutReturn = ls ↔ ∀ line ∈ ls, line.getLast? ≠ some '\r' := by
    conv_lhs => rhs; rw [← List.map_id ls]
    rw [List.map_inj_left]
    simp only [id_eq, withoutReturn_eq_self]
  have hdrop : ls.dropWhile Text.isBlank = ls ↔ ∀ line ∈ ls.head?, line.isBlank = false := by
    cases ls with
    | nil => simp
    | cons line rest => simp [List.dropWhile_eq_self_iff]
  constructor
  · intro h
    have hall : (ls.map withoutReturn).dropWhile Text.isBlank = ls.map withoutReturn :=
      (List.dropWhile_suffix _).eq_of_length (by rw [h, List.length_map])
    have hlines : ls.map withoutReturn = ls := by rw [← hall, h]
    rw [hlines] at h
    exact ⟨hmap.1 hlines, hdrop.1 h⟩
  · rintro ⟨hreturn, hfirst⟩
    rw [hmap.2 hreturn, hdrop.2 hfirst]

theorem WellFormed.reread_eq_self_iff {n : Note} (h : n.WellFormed) (hpath : n.path ≠ []) :
    n.reread = n ↔ n.IsUnambiguous := by
  obtain ⟨d, hreread, hd⟩ := h.reread_eq hpath
  rw [hreread]
  constructor
  · intro heq
    have hrows : ∀ row ∈ n.tagRows, isTagRow row = true := by
      apply forall_of_flatten_filter fun row hrow => (h.mem_tagRows hrow).1
      rw [h.flatten_tagRows]
      exact congrArg (fun m : Note => m.tags.length) heq
    have hdirective : isDivider ('@' :: n.directive.written) = false := by
      by_contra hdivider
      rw [Bool.not_eq_false] at hdivider
      have hinsert : n.directive = .insert := by
        rw [← congrArg Note.directive heq]
        exact (hd hrows).trans (if_pos hdivider)
      rw [hinsert] at hdivider
      exact absurd hdivider (by decide)
    obtain ⟨hreturn, hfirst⟩ := reread_lines_iff.1 (congrArg Note.lines heq)
    exact ⟨hpath, forall_isTagRow.1 hrows, hdirective, hreturn, hfirst⟩
  · intro hplain
    have hrows := forall_isTagRow.2 hplain.rows
    have htags : (n.tagRows.filter isTagRow).flatten = n.tags := by
      rw [List.filter_eq_self.2 hrows, h.flatten_tagRows]
    rw [reread_lines_iff.2 ⟨hplain.line_return, hplain.first_line⟩, htags, hd hrows, hplain.directive]
    rfl

end Note

end Notebook
