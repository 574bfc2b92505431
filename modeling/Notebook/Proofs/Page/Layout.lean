import Notebook.Proofs.Merging
import Notebook.Proofs.Page.Header

/-! # Contents of headers are taken as they are laid out -/

namespace Notebook

open Text

/-! ## Rows -/

theorem flatten_fillRows (row rest : List Text) : (fillRows row rest).flatten = row ++ rest := by
  fun_induction fillRows row rest with
  | case1 row => simp
  | case2 row tag rest _ ih => rw [ih, List.append_assoc, List.singleton_append]
  | case3 row tag rest _ ih => rw [List.flatten_cons, ih, List.singleton_append]

theorem ne_nil_of_mem_fillRows {row rest r : List Text} (hrow : row ≠ []) (h : r ∈ fillRows row rest) :
    r ≠ [] := by
  fun_induction fillRows row rest with
  | case1 row =>
    rw [List.mem_singleton.1 h]
    exact hrow
  | case2 row tag rest _ ih => exact ih (by simp) h
  | case3 row tag rest _ ih =>
    rcases List.mem_cons.1 h with rfl | h
    · exact hrow
    · exact ih (by simp) h

theorem flatten_rowsOf (tags : List Text) : (rowsOf tags).flatten = tags := by
  cases tags with
  | nil => rfl
  | cons tag rest => exact flatten_fillRows [tag] rest

theorem ne_nil_of_mem_rowsOf {tags row : List Text} (h : row ∈ rowsOf tags) : row ≠ [] := by
  cases tags with
  | nil => simp [rowsOf] at h
  | cons tag rest => exact ne_nil_of_mem_fillRows (List.cons_ne_nil _ _) h

/-! ## The text of a row -/

theorem tagRow_singleton (tag : Text) : tagRow [tag] = tag := joined_singleton ..

theorem tagRow_cons_cons (first second : Text) (rest : List Text) :
    tagRow (first :: second :: rest) = first ++ [',', ' '] ++ tagRow (second :: rest) := joined_cons_cons ..

theorem head?_tagRow (first : Text) (rest : List Text) (hfirst : first ≠ []) :
    (tagRow (first :: rest)).head? = first.head? := by
  obtain ⟨c, front, rfl⟩ := List.exists_cons_of_ne_nil hfirst
  cases rest with
  | nil => rw [tagRow_singleton]
  | cons second rest =>
    rw [tagRow_cons_cons]
    rfl

theorem tagRow_ne_nil {row : List Text} (hne : row ≠ []) (h : ∀ tag ∈ row, tag ≠ []) :
    tagRow row ≠ [] := by
  obtain ⟨first, rest, rfl⟩ := List.exists_cons_of_ne_nil hne
  intro hnil
  have := head?_tagRow first rest (h first (by simp))
  rw [hnil, List.head?_nil, eq_comm, List.head?_eq_none_iff] at this
  exact h first (by simp) this

theorem getLast?_tagRow {row : List Text} (hne : row ≠ []) (h : ∀ tag ∈ row, tag ≠ []) :
    (tagRow row).getLast? = (row.getLast hne).getLast? := by
  induction row with
  | nil => exact absurd rfl hne
  | cons first rest ih =>
    cases rest with
    | nil => rw [tagRow_singleton, List.getLast_singleton]
    | cons second rest =>
      have hrest : ∀ tag ∈ second :: rest, tag ≠ [] := fun tag htag => h tag (.tail _ htag)
      have hne' : second :: rest ≠ [] := List.cons_ne_nil _ _
      rw [tagRow_cons_cons, List.getLast?_append_of_ne_nil _ (tagRow_ne_nil hne' hrest), ih hne' hrest,
        List.getLast_cons hne']

theorem isInline_tagRow {row : List Text} (hne : row ≠ []) (h : ∀ tag ∈ row, IsTag tag) :
    (tagRow row).IsInline := by
  obtain ⟨first, rest, rfl⟩ := List.exists_cons_of_ne_nil hne
  refine ⟨trim_eq_self (fun c hc => ?_) fun c hc => ?_, fun hnewline => ?_⟩
  · have hfirst := h first (by simp)
    rw [head?_tagRow _ _ hfirst.ne_nil] at hc
    exact head?_of_trim_eq hfirst.inline.trimmed hc
  · rw [getLast?_tagRow hne fun tag htag => (h tag htag).ne_nil] at hc
    exact getLast?_of_trim_eq (h _ (List.getLast_mem _)).inline.trimmed hc
  · rcases mem_joined hnewline with hsep | ⟨tag, htag, hc⟩
    · simp at hsep
    · exact (h tag htag).inline.newline hc

theorem equals_not_mem_tagRow {row : List Text} (h : ∀ tag ∈ row, IsTag tag) : '=' ∉ tagRow row := by
  intro hmem
  rcases mem_joined hmem with hsep | ⟨tag, htag, hc⟩
  · simp at hsep
  · exact (h tag htag).equals hc

def isTagRow (row : List Text) : Bool := (tagRow row).head? ≠ some '@' && !isDivider (tagRow row)

theorem isTagRow_of_tags {row : List Text} (hne : row ≠ []) (htags : ∀ tag ∈ row, IsTag tag)
    (hat : ∀ tag ∈ row, tag.head? ≠ some '@') (hdivider : ∀ tag ∈ row, isDivider tag = false) :
    isTagRow row = true := by
  obtain ⟨first, rest, rfl⟩ := List.exists_cons_of_ne_nil hne
  have hhead : (tagRow (first :: rest)).head? ≠ some '@' := by
    rw [head?_tagRow first rest (htags first (by simp)).ne_nil]
    exact hat first (by simp)
  have hrow : isDivider (tagRow (first :: rest)) = false := by
    cases rest with
    | nil =>
      rw [tagRow_singleton]
      exact hdivider first (by simp)
    | cons second rest =>
      rw [tagRow_cons_cons]
      exact isDivider_eq_false (c := ',') (d := ' ') (by simp) (by simp) (by decide)
  simp [isTagRow, hhead, hrow]

/-! ## Taking contents -/

theorem HeaderItem.addTo_keeps (n : Note) (item : HeaderItem) :
    (item.addTo n).path = n.path ∧ (item.addTo n).lines = n.lines := by
  cases item with
  | field f =>
    simp only [addTo, Note.addField]
    split <;> exact ⟨rfl, rfl⟩
  | directive d => exact ⟨rfl, rfl⟩
  | tags ts =>
    rw [addTo, Note.foldl_addTag]
    exact ⟨rfl, rfl⟩

namespace Note

def takeContent (n : Note) (content : Text) : Note :=
  if content = [] || isDivider content then n
  else if n.path = [] then { n with path := content }
  else (HeaderItem.read content).addTo n

theorem takeContent_path {n : Note} {content : Text} (hpath : n.path = []) (hne : content ≠ [])
    (hdivider : isDivider content = false) : n.takeContent content = { n with path := content } := by
  simp [takeContent, hpath, hne, hdivider]

theorem takeContent_item {n : Note} {content : Text} (hpath : n.path ≠ []) (hne : content ≠ [])
    (hdivider : isDivider content = false) : n.takeContent content = (HeaderItem.read content).addTo n := by
  simp [takeContent, hpath, hne, hdivider]

/-! ### Tags -/

theorem foldl_addTag_new {n : Note} {parts row : List Text} (hparts : parts.map Text.trim = row)
    (hrow : ∀ tag ∈ row, tag ≠ []) (hnew : (n.tags ++ row).Nodup) :
    parts.foldl addTag n = { n with tags := n.tags ++ row } := by
  induction parts generalizing n row with
  | nil =>
    subst hparts
    simp
  | cons part rest ih =>
    rw [List.map_cons] at hparts
    subst hparts
    have hpart : part.trim ∉ n.tags := fun hmem =>
      (List.nodup_append.1 hnew).2.2 _ hmem _ (by simp) rfl
    have hadd : n.addTag part = { n with tags := n.tags ++ [part.trim] } := by
      rw [addTag, if_neg (hrow _ (by simp)), addTo, if_neg hpart]
    rw [List.foldl_cons, hadd, ih rfl (fun tag htag => hrow tag (by simp [htag])) (by simpa using hnew)]
    simp

theorem takeContent_row {n : Note} {row : List Text} (hpath : n.path ≠ []) (hne : row ≠ [])
    (htags : ∀ tag ∈ row, IsTag tag) (hnew : (n.tags ++ row).Nodup) (hat : (tagRow row).head? ≠ some '@')
    (hdivider : isDivider (tagRow row) = false) :
    n.takeContent (tagRow row) = { n with tags := n.tags ++ row } := by
  rw [takeContent_item hpath (tagRow_ne_nil hne fun tag htag => (htags tag htag).ne_nil) hdivider,
    HeaderItem.read_tags (equals_not_mem_tagRow htags) hat]
  obtain ⟨first, rest, rfl⟩ := List.exists_cons_of_ne_nil hne
  rw [tagRow, pieces_joined rfl rfl first fun tag htag => (htags tag htag).separators]
  apply foldl_addTag_new _ (fun tag htag => (htags tag htag).ne_nil) hnew
  have htrim : ∀ tag ∈ first :: rest, tag.trim = tag := fun tag htag => (htags tag htag).inline.trimmed
  rw [List.map_cons, List.map_map, htrim first (by simp)]
  congr 1
  conv_rhs => rw [← List.map_id rest]
  apply List.map_congr_left
  intro tag htag
  exact (trim_cons_blank rfl tag).trans (htrim tag (by simp [htag]))

/-- A row of tags that looks like a divider or a directive adds no tag. -/
theorem takeContent_lost {n : Note} {row : List Text} (hpath : n.path ≠ []) (hne : row ≠ [])
    (htags : ∀ tag ∈ row, IsTag tag)
    (hlost : (tagRow row).head? = some '@' ∨ isDivider (tagRow row) = true) :
    ∃ d, n.takeContent (tagRow row) = { n with directive := d } := by
  by_cases hdivider : isDivider (tagRow row) = true
  · exact ⟨n.directive, by simp [takeContent, hdivider]⟩
  · have hequals := equals_not_mem_tagRow htags
    have hnil : tagRow row ≠ [] := tagRow_ne_nil hne fun tag htag => (htags tag htag).ne_nil
    rw [takeContent_item hpath hnil (by simpa using hdivider)]
    obtain ⟨rest, hrest⟩ := List.head?_eq_some_iff.1 (hlost.resolve_right hdivider)
    rw [hrest] at hequals ⊢
    rw [HeaderItem.read_directive fun hmem => hequals (.tail _ hmem)]
    exact ⟨_, rfl⟩

theorem foldl_takeContent_rows {rows : List (List Text)} (n : Note) (hpath : n.path ≠ [])
    (hrows : ∀ row ∈ rows, row ≠ []) (htags : ∀ row ∈ rows, ∀ tag ∈ row, IsTag tag)
    (hnew : (n.tags ++ rows.flatten).Nodup) :
    ∃ d, (rows.map tagRow).foldl takeContent n
        = { n with tags := n.tags ++ (rows.filter isTagRow).flatten, directive := d } ∧
      ((∀ row ∈ rows, isTagRow row = true) → d = n.directive) := by
  induction rows generalizing n with
  | nil => exact ⟨n.directive, by simp, fun _ => rfl⟩
  | cons row rest ih =>
    have hne := hrows row (by simp)
    have hrow := htags row (by simp)
    rw [List.flatten_cons, ← List.append_assoc] at hnew
    have hrest (m : Note) (hpath : m.path ≠ []) (hm : (m.tags ++ rest.flatten).Nodup) :=
      ih m hpath (fun r hr => hrows r (by simp [hr])) (fun r hr => htags r (by simp [hr])) hm
    rw [List.map_cons, List.foldl_cons]
    by_cases hkept : isTagRow row = true
    · obtain ⟨hat, hdivider⟩ : (tagRow row).head? ≠ some '@' ∧ isDivider (tagRow row) = false := by
        simpa [isTagRow] using hkept
      rw [takeContent_row hpath hne hrow (List.nodup_append.1 hnew).1 hat hdivider]
      obtain ⟨d, hfold, hd⟩ := hrest { n with tags := n.tags ++ row } hpath hnew
      refine ⟨d, ?_, fun hall => hd fun r hr => hall r (by simp [hr])⟩
      rw [hfold, List.filter_cons_of_pos hkept, List.flatten_cons, List.append_assoc]
    · have hlost : (tagRow row).head? = some '@' ∨ isDivider (tagRow row) = true := by
        simp only [isTagRow, Bool.and_eq_true, decide_eq_true_eq, Bool.not_eq_true', not_and] at hkept
        by_cases hat : (tagRow row).head? = some '@'
        · exact .inl hat
        · exact .inr (by simpa using hkept hat)
      -- The row may have been read as a directive, so nothing is said of the one in the end.
      obtain ⟨e, he⟩ := takeContent_lost hpath hne hrow hlost
      have hsub : (n.tags ++ rest.flatten).Nodup := by
        rw [List.append_assoc] at hnew
        exact hnew.sublist ((List.sublist_append_right row rest.flatten).append_left n.tags)
      obtain ⟨d, hfold, -⟩ := hrest { n with directive := e } hpath hsub
      refine ⟨d, ?_, fun hall => absurd (hall row (by simp)) hkept⟩
      rw [he, hfold, List.filter_cons_of_neg hkept]

/-! ### Fields -/

theorem addField_new {n : Note} {f : Field} (h : ∀ g ∈ n.fields, g.same f = false) :
    n.addField f = { n with fields := n.fields ++ [f] } := by
  rw [addField, if_neg]
  simpa using h

theorem trim_fieldLine (width : Nat) (f : Field) :
    (fieldLine width f).trim
      = trimStart (f.1.padded width ++ [' ']) ++ '=' :: trimEnd (' ' :: f.2.written) := by
  have h : fieldLine width f = (f.1.padded width ++ [' ']) ++ '=' :: (' ' :: f.2.written) := by
    simp [fieldLine]
  rw [h, trim_append_cons rfl]

theorem equals_not_mem_padded {name : Text} (h : '=' ∉ name) (width : Nat) :
    '=' ∉ trimStart (name.padded width ++ [' ']) := by
  intro hmem
  have hmem := (List.dropWhile_suffix _).subset hmem
  simp [padded, h, List.mem_replicate] at hmem

theorem isDivider_fieldLine {f : Field} (h : '=' ∉ f.1) (width : Nat) :
    isDivider (fieldLine width f).trim = false := by
  rw [trim_fieldLine]
  have hname := equals_not_mem_padded h width
  generalize trimStart (f.1.padded width ++ [' ']) = front at hname
  have hback : trimEnd (' ' :: f.2.written) <+: ' ' :: f.2.written := List.rdropWhile_prefix ..
  generalize trimEnd (' ' :: f.2.written) = back at hback
  cases front with
  | cons c front =>
    refine isDivider_eq_false (c := c) (d := '=') (by simp) (by simp) ?_
    rintro rfl
    simp at hname
  | nil =>
    cases back with
    | nil => rfl
    | cons d back =>
      obtain rfl : d = ' ' := (List.cons_prefix_cons.1 hback).1
      exact isDivider_eq_false (c := ' ') (d := '=') (by simp) (by simp) (by decide)

theorem read_fieldLine {f : Field} (h : f.IsWritable) (width : Nat) :
    HeaderItem.read (fieldLine width f).trim = .field f := by
  rw [trim_fieldLine, HeaderItem.read_field (equals_not_mem_padded h.equals width), trim_trimStart,
    trim_append_blanks (by simp [isBlankChar]), trim_padded, h.name.trimmed, ← FieldValue.read_trim,
    trim_trimEnd, trim_cons_blank rfl, FieldValue.read_trim, FieldValue.read_written h.value]

theorem takeContent_field {n : Note} {f : Field} (hpath : n.path ≠ []) (h : f.IsWritable)
    (hnew : ∀ g ∈ n.fields, g.same f = false)
    (width : Nat) :
    n.takeContent (fieldLine width f).trim = { n with fields := n.fields ++ [f] } := by
  have hne : (fieldLine width f).trim ≠ [] := by
    rw [trim_fieldLine]
    simp
  rw [takeContent_item hpath hne (isDivider_fieldLine h.equals width), read_fieldLine h, HeaderItem.addTo,
    addField_new hnew]

theorem foldl_takeContent_fields {fields : List Field} (n : Note) (hpath : n.path ≠ []) (width : Nat)
    (hfields : ∀ f ∈ fields, f.IsWritable)
    (hnew : (n.fields ++ fields).Pairwise fun f g => f.same g = false) :
    (fields.map fun f => (fieldLine width f).trim).foldl takeContent n
      = { n with fields := n.fields ++ fields } := by
  induction fields generalizing n with
  | nil => simp
  | cons f rest ih =>
    have hf : ∀ g ∈ n.fields, g.same f = false := fun g hg =>
      (List.pairwise_append.1 hnew).2.2 g hg f (by simp)
    rw [List.map_cons, List.foldl_cons, takeContent_field hpath (hfields f (by simp)) hf,
      ih { n with fields := n.fields ++ [f] } hpath (fun g hg => hfields g (by simp [hg])) (by simpa using hnew)]
    simp

end Note

end Notebook
