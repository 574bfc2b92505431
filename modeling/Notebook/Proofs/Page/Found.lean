import Notebook.Proofs.Page.Gathering
import Notebook.Proofs.Page.WellFormed

/-! # Whatever is found on a page is well formed -/

namespace Notebook

open Text

/-! ## Parts of a header -/

theorem FieldValue.isWritable_read {literal : Text} (h : '\n' ∉ literal) :
    (FieldValue.read literal).IsWritable := by
  unfold FieldValue.read
  cases hnumber : readNumber? literal.trim with
  | none => exact ⟨isInline_trim h, hnumber⟩
  | some x => exact (Option.filter_eq_some_iff.1 hnumber).2

theorem isTag_trim {tag : Text} (hne : tag.trim ≠ []) (hnewline : '\n' ∉ tag) (hequals : '=' ∉ tag)
    (hseparators : ∀ c ∈ tag, HeaderItem.isTagSeparator c = false) : IsTag tag.trim where
  inline := isInline_trim hnewline
  ne_nil := hne
  separators := fun c hc => hseparators c (mem_of_mem_trim hc)
  equals := fun hmem => hequals (mem_of_mem_trim hmem)

namespace Note.WellFormed

variable {n : Note}

theorem addField (h : n.WellFormed) {f : Field} (hf : f.IsWritable) : (n.addField f).WellFormed := by
  unfold Note.addField
  split
  · exact h
  · rename_i hnew
    refine { h with
      fields := List.forall_mem_append.2 ⟨h.fields, by simpa using hf⟩
      fields_distinct := List.pairwise_append.2 ⟨h.fields_distinct, by simp, ?_⟩ }
    intro g hg k hk
    rw [List.mem_singleton.1 hk]
    simp only [List.any_eq_true, not_exists, not_and, Bool.not_eq_true] at hnew
    exact hnew g hg

theorem foldl_addField (h : n.WellFormed) {fields : List Field} (hfields : ∀ f ∈ fields, f.IsWritable) :
    (fields.foldl Note.addField n).WellFormed := by
  induction fields generalizing n with
  | nil => exact h
  | cons f rest ih => exact ih (h.addField (hfields f (by simp))) fun g hg => hfields g (by simp [hg])

theorem addTag (h : n.WellFormed) {tag : Text} (htag : tag.trim ≠ [] → IsTag tag.trim) :
    (n.addTag tag).WellFormed := by
  unfold Note.addTag
  split
  · exact h
  rename_i hne
  unfold addTo
  split
  · exact h
  · rename_i hnew
    exact { h with
      tags := List.forall_mem_append.2 ⟨h.tags, by simpa using htag hne⟩
      tags_nodup := List.nodup_append.2 ⟨h.tags_nodup, by simp, by
        intro a ha b hb
        rw [List.mem_singleton.1 hb]
        exact ne_of_mem_of_not_mem ha hnew⟩ }

theorem foldl_addTag (h : n.WellFormed) {tags : List Text}
    (htags : ∀ tag ∈ tags, tag.trim ≠ [] → IsTag tag.trim) :
    (tags.foldl Note.addTag n).WellFormed := by
  induction tags generalizing n with
  | nil => exact h
  | cons tag rest ih => exact ih (h.addTag (htags tag (by simp))) fun t ht => htags t (by simp [ht])

theorem withDirective (h : n.WellFormed) {text : Text} (hnewline : '\n' ∉ text) (hequals : '=' ∉ text) :
    { n with directive := .read text }.WellFormed :=
  { h with
    directive := ⟨text, rfl⟩
    directive_newline := fun hmem => (Directive.mem_written_read hmem).elim hnewline (by decide)
    directive_equals := fun hmem => (Directive.mem_written_read hmem).elim hequals (by decide) }

theorem addItem (h : n.WellFormed) {content : Text} (hcontent : '\n' ∉ content) :
    ((HeaderItem.read content).addTo n).WellFormed := by
  by_cases hequals : '=' ∈ content
  · obtain ⟨⟨name, value⟩, hcut⟩ : ∃ cut, content.cutAt? (· = '=') = some cut := by
      rw [← Option.isSome_iff_exists, Option.isSome_iff_ne_none, Ne, cutAt?_eq_none]
      exact fun hnone => by simpa using hnone _ hequals
    obtain ⟨c, rfl, hc, hname⟩ := of_cutAt?_eq_some hcut
    obtain rfl : c = '=' := by simpa using hc
    have hname : '=' ∉ name := fun hmem => by simpa using hname _ hmem
    rw [List.mem_append, List.mem_cons, not_or, not_or] at hcontent
    rw [HeaderItem.read_field hname]
    exact h.addField ⟨isInline_trim hcontent.1, fun hmem => hname (mem_of_mem_trim hmem),
      FieldValue.isWritable_read hcontent.2.2⟩
  by_cases hat : content.head? = some '@'
  · obtain ⟨rest, rfl⟩ := List.head?_eq_some_iff.1 hat
    rw [List.mem_cons, not_or] at hequals hcontent
    rw [HeaderItem.read_directive hequals.2]
    have hsuffix : trimStart rest <:+ rest := List.dropWhile_suffix _
    exact h.withDirective (fun hmem => hcontent.2 (hsuffix.subset hmem)) fun hmem =>
      hequals.2 (hsuffix.subset hmem)
  · rw [HeaderItem.read_tags hequals hat]
    refine h.foldl_addTag fun tag htag hne => isTag_trim hne ?_ ?_ ?_
    · exact fun hmem => hcontent (mem_pieces htag _ hmem).1
    · exact fun hmem => hequals (mem_pieces htag _ hmem).1
    · exact fun c hc => (mem_pieces htag c hc).2

theorem addLine (h : n.WellFormed) {line : Text} (hnewline : '\n' ∉ line) (hline : isHeaderLine line = false) :
    { n with lines := n.lines ++ [line] }.WellFormed :=
  { h with lines := List.forall_mem_append.2 ⟨h.lines, by simp [hnewline, hline]⟩ }

theorem join (h : n.WellFormed) {other : Note} (hother : other.WellFormed) : (n.join other).WellFormed := by
  have hlines : ∀ line ∈ mergedLines n.lines other.lines, '\n' ∉ line ∧ isHeaderLine line = false := by
    unfold mergedLines
    split
    · exact h.lines
    · simp only [List.mem_append, List.mem_cons]
      rintro line (hline | rfl | hline)
      · exact h.lines line hline
      · exact ⟨by simp, rfl⟩
      · exact hother.lines line hline
  have hjoined : { n with lines := mergedLines n.lines other.lines }.WellFormed := { h with lines := hlines }
  have htags : ∀ tag ∈ other.tags, tag.trim ≠ [] → IsTag tag.trim := by
    intro tag htag _
    rw [(hother.tags tag htag).inline.trimmed]
    exact hother.tags tag htag
  exact (hjoined.foldl_addTag htags).foldl_addField hother.fields

theorem blank : (Note.blank []).WellFormed where
  path := by decide
  path_divider := rfl
  tags := by simp [Note.blank]
  tags_nodup := by simp [Note.blank]
  fields := by simp [Note.blank]
  fields_distinct := by simp [Note.blank]
  directive := ⟨[], rfl⟩
  directive_newline := List.not_mem_nil
  directive_equals := List.not_mem_nil
  lines := by simp [Note.blank]

end Note.WellFormed

/-! ## Notes -/

/-- What is true of every note on a page. Where there is no path there is nothing else in the header. -/
structure Note.IsFound (n : Note) : Prop extends n.WellFormed where
  unnamed : n.path = [] → n.tags = [] ∧ n.fields = [] ∧ n.directive = .insert

theorem Note.IsFound.blank : (Note.blank []).IsFound :=
  ⟨Note.WellFormed.blank, fun _ => ⟨rfl, rfl, rfl⟩⟩

theorem Note.IsFound.join {n other : Note} (h : n.IsFound) (hother : other.IsFound) (hpath : n.path = other.path) :
    (n.join other).IsFound := by
  refine ⟨h.toWellFormed.join hother.toWellFormed, fun hnil => ?_⟩
  rw [join_path] at hnil
  obtain ⟨htags, hfields, hdirective⟩ := h.unnamed hnil
  obtain ⟨hothertags, hotherfields, -⟩ := hother.unnamed (hpath ▸ hnil)
  simp [join_eq, htags, hfields, hdirective, hothertags, hotherfields]

namespace Draft

theorem takeText_isFound {d : Draft} (h : d.note.IsFound) {line : Text} (hnewline : '\n' ∉ line)
    (hline : isHeaderLine line = false) : (d.takeText line).note.IsFound := by
  have hadd : { d.note with lines := d.note.lines ++ [line] }.IsFound :=
    ⟨h.toWellFormed.addLine hnewline hline, h.unnamed⟩
  unfold takeText
  cases d.stage with
  | preamble => exact h
  | header | body =>
    dsimp only
    split
    · exact h
    · exact hadd

theorem takeHeader_isFound {d : Draft} (h : d.note.IsFound) {content : Text} (hcontent : content.IsInline) :
    (d.takeHeader content).note.IsFound := by
  unfold takeHeader
  split
  · exact h
  rename_i hne
  split
  · exact h
  rename_i hdivider
  split
  · exact ⟨{ h.toWellFormed with path := hcontent, path_divider := by simpa using hdivider },
      fun hnil => absurd hnil hne⟩
  · rename_i hpath
    refine ⟨h.toWellFormed.addItem hcontent.newline, fun hnil => absurd hnil ?_⟩
    rwa [(HeaderItem.addTo_keeps ..).1]

theorem take_isFound {d : Draft} (h : d.note.IsFound) {line : Text} (hnewline : '\n' ∉ line) :
    (d.take line).note.IsFound := by
  cases hline : isHeaderLine line with
  | false =>
    unfold take
    rw [PageLine.read_of_isHeaderLine_eq_false hline]
    exact takeText_isFound h hnewline hline
  | true =>
    obtain ⟨rest, rfl, hrest⟩ := isHeaderLine_iff.1 hline
    unfold take
    rw [PageLine.read_backslash hrest]
    exact takeHeader_isFound h (isInline_trim fun hmem => hnewline (.tail _ hmem))

theorem finish_isFound {d : Draft} (h : d.note.IsFound) : ∀ n ∈ d.finish.toList, n.IsFound := by
  unfold finish
  split
  · simp
  · simpa using h

theorem through_isFound {d : Draft} (h : d.note.IsFound) {ls : List Text} (hls : ∀ line ∈ ls, '\n' ∉ line) :
    (∀ n ∈ (d.through ls).1, n.IsFound) ∧ (d.through ls).2.note.IsFound := by
  induction ls generalizing d with
  | nil => exact ⟨by simp [through], h⟩
  | cons line rest ih =>
    have hrest : ∀ l ∈ rest, '\n' ∉ l := fun l hl => hls l (by simp [hl])
    have hline := hls line (by simp)
    rw [through]
    split
    · obtain ⟨hnotes, hlast⟩ := ih (take_isFound Note.IsFound.blank hline (d := start)) hrest
      refine ⟨fun n hn => ?_, hlast⟩
      exact (List.mem_append.1 hn).elim (finish_isFound h n) (hnotes n)
    · exact ih (take_isFound h hline) hrest

end Draft

theorem notesOnLines_isFound {ls : List Text} (hls : ∀ line ∈ ls, '\n' ∉ line) :
    ∀ n ∈ notesOnLines ls, n.IsFound := by
  obtain ⟨hnotes, hlast⟩ := Draft.through_isFound (d := .start) Note.IsFound.blank hls
  intro n hn
  exact (List.mem_append.1 hn).elim (hnotes n) (Draft.finish_isFound hlast n)

/-! ## Pages -/

theorem foldl_joinTo?_isFound {found : List Note} {path : Text}
    (hfound : ∀ n ∈ found, n.IsFound ∧ n.path = path) {earlier : Option Note}
    (hearlier : ∀ n ∈ earlier, n.IsFound ∧ n.path = path) :
    ∀ n ∈ found.foldl Note.joinTo? earlier, n.IsFound ∧ n.path = path := by
  induction found generalizing earlier with
  | nil => exact hearlier
  | cons m rest ih =>
    have hm := hfound m (by simp)
    refine ih (fun n hn => hfound n (by simp [hn])) ?_
    cases earlier with
    | none =>
      intro n hn
      obtain rfl := Option.some.inj hn
      exact hm
    | some e =>
      have he := hearlier e rfl
      intro n hn
      obtain rfl := Option.some.inj hn
      exact ⟨he.1.join hm.1 (he.2.trans hm.2.symm), by rw [Note.join_path, he.2]⟩

theorem Notes.IsKeyed.gather_isFound {notes gathered : Notes} (hkeyed : notes.IsKeyed)
    (hnotes : ∀ path n, notes.get? path = some n → n.IsFound) {found : List Note} (hfound : ∀ n ∈ found, n.IsFound)
    (h : notes.gather found = .ok gathered) :
    gathered.IsKeyed ∧ ∀ path n, gathered.get? path = some n → n.IsFound := by
  obtain ⟨gathered', hgathered, hkeyed', hget⟩ := hkeyed.gather_eq found
  obtain rfl : gathered' = gathered := Except.ok.inj (hgathered.symm.trans h)
  refine ⟨hkeyed', fun path n hn => ?_⟩
  have hnew : ∀ m ∈ found.filter (·.path = path), m.IsFound ∧ m.path = path := by
    intro m hm
    obtain ⟨hmem, hpath⟩ := List.mem_filter.1 hm
    exact ⟨hfound m hmem, by simpa using hpath⟩
  have hearlier : ∀ m ∈ notes.get? path, m.IsFound ∧ m.path = path :=
    fun m hm => ⟨hnotes path m hm, hkeyed path m hm⟩
  rw [hget] at hn
  exact (foldl_joinTo?_isFound hnew hearlier n hn).1

theorem readPage_isFound {page : Text} {m : Notes} (h : readPage page = .ok m) :
    m.IsKeyed ∧ ∀ path n, m.get? path = some n → n.IsFound := by
  refine Notes.isKeyed_empty.gather_isFound ?_ ?_ h
  · intro path n hn
    cases hn
  · exact notesOnLines_isFound fun line => newline_not_mem_of_mem_lines

end Notebook
