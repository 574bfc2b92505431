import Notebook.Page.Draft
import Notebook.Proofs.Page.Layout

/-! # What a draft becomes over the lines of a page -/

namespace Notebook

open Text

@[simp] theorem Note.foldl_takeContent_lines (n : Note) (contents : List Text) :
    (contents.foldl takeContent n).lines = n.lines := by
  induction contents generalizing n with
  | nil => rfl
  | cons content rest ih =>
    rw [List.foldl_cons, ih, takeContent]
    split
    · rfl
    split
    · rfl
    · exact (HeaderItem.addTo_keeps n _).2

namespace Draft

/-! ## Lines one after the other -/

theorem through_append (d : Draft) (ls more : List Text) :
    d.through (ls ++ more)
      = ((d.through ls).1 ++ ((d.through ls).2.through more).1, ((d.through ls).2.through more).2) := by
  induction ls generalizing d with
  | nil => rfl
  | cons line rest ih =>
    rw [List.cons_append, through, through]
    split <;> simp [ih]

/-- The draft after one more line, which a new one takes if it is refused. -/
def next (d : Draft) (line : Text) : Draft := (if d.refuses line then start else d).take line

theorem through_last (d : Draft) (ls : List Text) : (d.through ls).2 = ls.foldl next d := by
  induction ls generalizing d with
  | nil => rfl
  | cons line rest ih =>
    rw [through, List.foldl_cons, next]
    split <;> exact ih _

theorem through_silent {d mid last : Draft} {ls more : List Text} (hls : d.through ls = ([], mid))
    (hmore : mid.through more = ([], last)) : d.through (ls ++ more) = ([], last) := by
  rw [through_append, hls, hmore]
  rfl

theorem through_refused {d : Draft} {line : Text} (h : d.refuses line = true) (rest : List Text) :
    d.through (line :: rest)
      = (d.finish.toList ++ (start.through (line :: rest)).1, (start.through (line :: rest)).2) := by
  have hstart : start.refuses line = false := rfl
  conv_lhs => rw [through]
  rw [if_pos h, through, hstart]
  rfl

/-! ## Header lines -/

theorem take_headerLine (n : Note) (content : Text) :
    take ⟨.header, n⟩ (withoutReturn (headerLine content)) = ⟨.header, n.takeContent content.trim⟩ := by
  unfold take
  rw [PageLine.read_headerLine]
  dsimp only
  unfold takeHeader Note.takeContent
  by_cases hnil : content.trim = []
  · simp [hnil]
  by_cases hdivider : isDivider content.trim = true
  · simp [hdivider]
  · by_cases hpath : n.path = [] <;> simp [hnil, hdivider, hpath]

theorem through_headerLines (n : Note) (contents : List Text) :
    through ⟨.header, n⟩ (contents.map fun content => withoutReturn (headerLine content))
      = ([], ⟨.header, (contents.map Text.trim).foldl Note.takeContent n⟩) := by
  induction contents generalizing n with
  | nil => rfl
  | cons content rest ih =>
    rw [List.map_cons, through, take_headerLine, ih (n.takeContent content.trim)]
    rfl

/-! ## Text -/

theorem take_text (n : Note) {line : Text} (h : isHeaderLine line = false) :
    take ⟨.body, n⟩ line =
      if n.lines = [] && line.isBlank then ⟨.body, n⟩
      else ⟨.body, { n with lines := n.lines ++ [line] }⟩ := by
  unfold take
  rw [PageLine.read_of_isHeaderLine_eq_false h]
  rfl

theorem through_more_text (n : Note) {ls : List Text} (hne : n.lines ≠ [])
    (hls : ∀ line ∈ ls, isHeaderLine line = false) :
    through ⟨.body, n⟩ ls = ([], ⟨.body, { n with lines := n.lines ++ ls }⟩) := by
  induction ls generalizing n with
  | nil => simp [through]
  | cons line rest ih =>
    have hline := hls line (by simp)
    have hrefuses : refuses ⟨.body, n⟩ line = false := by simp [refuses, hline]
    rw [through, hrefuses, take_text n hline]
    simp [hne, ih { n with lines := n.lines ++ [line] } (by simp) fun l hl => hls l (by simp [hl])]

theorem through_text (n : Note) {ls : List Text} (hnil : n.lines = [])
    (hls : ∀ line ∈ ls, isHeaderLine line = false) :
    through ⟨.body, n⟩ ls = ([], ⟨.body, { n with lines := ls.dropWhile Text.isBlank }⟩) := by
  induction ls with
  | nil => rw [through, List.dropWhile_nil, ← hnil]
  | cons line rest ih =>
    have hline := hls line (by simp)
    have hrest : ∀ l ∈ rest, isHeaderLine l = false := fun l hl => hls l (by simp [hl])
    have hrefuses : refuses ⟨.body, n⟩ line = false := by simp [refuses, hline]
    rw [through, hrefuses, take_text n hline]
    by_cases hblank : line.isBlank = true
    · simp [hnil, hblank, ih hrest]
    · simp [hnil, hblank, through_more_text { n with lines := [line] } (by simp) hrest]

end Draft

/-! ## Written notes -/

/-- A note as it is read back from its written form. -/
def Note.reread (n : Note) : Note :=
  { (n.path :: ('@' :: n.directive.written) :: n.details).map Text.trim |>.foldl takeContent (blank []) with
    lines := (n.lines.map withoutReturn).dropWhile Text.isBlank }

namespace Draft

theorem through_details (n m : Note) :
    through ⟨.header, m⟩
        ((if n.tags = [] && n.fields = [] then [] else ['\\'] :: n.details.map headerLine).map withoutReturn)
      = ([], ⟨.header, (n.details.map Text.trim).foldl Note.takeContent m⟩) := by
  split
  · rename_i hnone
    obtain ⟨htags, hfields⟩ : n.tags = [] ∧ n.fields = [] := by simpa using hnone
    have hdetails : n.details = [] := by simp [Note.details, htags, hfields, packTags, rowsOf]
    rw [hdetails]
    rfl
  · have hempty : take ⟨.header, m⟩ ['\\'] = ⟨.header, m⟩ := rfl
    rw [List.map_cons, List.map_map, through]
    exact congrArg (fun d => through d _) hempty |>.trans (through_headerLines m n.details)

theorem through_body (m : Note) (hnil : m.lines = []) {ls : List Text}
    (hls : ∀ line ∈ ls, isHeaderLine line = false) :
    through ⟨.header, m⟩ ([] :: ls) = ([], ⟨.body, { m with lines := ls.dropWhile Text.isBlank }⟩) := by
  have htake : take ⟨.header, m⟩ [] = ⟨.body, m⟩ := by
    have hblank : Text.isBlank [] = true := rfl
    simp [take, PageLine.read, takeText, hnil, hblank]
  have hrefuses : refuses ⟨.header, m⟩ [] = false := rfl
  rw [through, hrefuses, htake]
  exact through_text m hnil hls

theorem through_divider : start.through [withoutReturn dividerLine] = ([], ⟨.header, Note.blank []⟩) := by
  decide +kernel

theorem through_writtenLines {n : Note} (h : ∀ line ∈ n.lines, isHeaderLine line = false) :
    start.through (n.writtenLines.map withoutReturn) = ([], ⟨.body, n.reread⟩) := by
  have htext : ∀ line ∈ n.lines.map withoutReturn, isHeaderLine line = false := by
    intro line hline
    obtain ⟨line, hmem, rfl⟩ := List.mem_map.1 hline
    exact isHeaderLine_withoutReturn (h line hmem)
  have hsplit : n.writtenLines.map withoutReturn =
      [withoutReturn dividerLine] ++
        ([n.path, '@' :: n.directive.written].map (fun content => withoutReturn (headerLine content)) ++
          ((if n.tags = [] && n.fields = [] then [] else ['\\'] :: n.details.map headerLine).map withoutReturn ++
            ([] :: n.lines.map withoutReturn))) := by
    simp [Note.writtenLines, Note.headerLines, withoutReturn]
  rw [hsplit]
  refine through_silent through_divider ?_
  refine through_silent (through_headerLines (Note.blank []) _) ?_
  refine through_silent (through_details n _) ?_
  refine through_body _ ?_ htext
  rw [Note.foldl_takeContent_lines, Note.foldl_takeContent_lines]
  rfl

theorem through_written {notes : List Note} (h : ∀ n ∈ notes, ∀ line ∈ n.lines, isHeaderLine line = false)
    {d : Draft} (hd : d = start ∨ d.stage = .body) {ls : List Text}
    (hls : ls = notes.flatMap fun n => n.writtenLines.map withoutReturn) :
    (d.through ls).1 ++ (d.through ls).2.finish.toList = d.finish.toList ++ notes.map Note.reread := by
  -- Between two notes the draft is the note before, in its text, where a divider is refused.
  induction notes generalizing d ls with
  | nil =>
    rw [hls]
    simp [through]
  | cons n rest ih =>
    have hrest := ih (fun m hm => h m (by simp [hm])) (d := ⟨.body, n.reread⟩) (.inr rfl) rfl
    generalize hmore : (rest.flatMap fun n => n.writtenLines.map withoutReturn) = more at hrest
    rw [List.flatMap_cons, hmore] at hls
    have hstart : start.through ls = through ⟨.body, n.reread⟩ more := by
      rw [hls, through_append, through_writtenLines (h n (by simp)), List.nil_append]
    have hagain : d.through ls
        = (d.finish.toList ++ (through ⟨.body, n.reread⟩ more).1, (through ⟨.body, n.reread⟩ more).2) := by
      rw [← hstart]
      rcases hd with rfl | hbody
      · rfl
      · obtain ⟨tail, htail⟩ : ∃ tail, ls = withoutReturn dividerLine :: tail := ⟨_, hls⟩
        have hheader : isHeaderLine (withoutReturn dividerLine) = true := by decide +kernel
        rw [htail]
        apply through_refused
        simp [refuses, hbody, hheader]
    rw [hagain, List.append_assoc, hrest]
    rfl

end Draft

/-! ## Written pages -/

theorem newline_not_mem_headerLine {content : Text} (h : '\n' ∉ content) : '\n' ∉ headerLine content := by
  simp [headerLine, h]

theorem newline_not_mem_details {n : Note} (htags : ∀ tag ∈ n.tags, IsTag tag)
    (hfields : ∀ f ∈ n.fields, f.IsWritable) {content : Text} (h : content ∈ n.details) :
    '\n' ∉ content := by
  rcases List.mem_append.1 h with hpacked | hfield
  · obtain ⟨row, hrow, rfl⟩ := List.mem_map.1 hpacked
    refine (isInline_tagRow (ne_nil_of_mem_rowsOf hrow) fun tag htag => htags tag ?_).newline
    have hflat : tag ∈ (rowsOf (n.tags.filter (· ≠ []))).flatten := List.mem_flatten.2 ⟨row, hrow, htag⟩
    rw [flatten_rowsOf] at hflat
    exact (List.mem_filter.1 hflat).1
  · obtain ⟨f, hf, rfl⟩ := List.mem_map.1 hfield
    have hname := (hfields f hf).name.newline
    have hvalue := (FieldValue.isInline_written (hfields f hf).value).newline
    simp [fieldLine, padded, hname, hvalue, List.mem_replicate]

theorem newline_not_mem_writtenLines {n : Note} (hpath : '\n' ∉ n.path)
    (hdirective : '\n' ∉ n.directive.written) (htags : ∀ tag ∈ n.tags, IsTag tag)
    (hfields : ∀ f ∈ n.fields, f.IsWritable) (hlines : ∀ line ∈ n.lines, '\n' ∉ line) :
    ∀ line ∈ n.writtenLines, '\n' ∉ line := by
  intro line hline
  simp only [Note.writtenLines, Note.headerLines, List.mem_append, List.mem_cons, List.not_mem_nil,
    or_false] at hline
  rcases hline with ((rfl | rfl | rfl) | hdetails) | rfl | hline
  · decide +kernel
  · exact newline_not_mem_headerLine hpath
  · exact newline_not_mem_headerLine (by simp [hdirective])
  · split at hdetails
    · simp at hdetails
    rcases List.mem_cons.1 hdetails with rfl | hdetails
    · decide
    · obtain ⟨content, hcontent, rfl⟩ := List.mem_map.1 hdetails
      exact newline_not_mem_headerLine (newline_not_mem_details htags hfields hcontent)
  · simp
  · exact hlines line hline

/-- Each note that was written is found as it is read back. -/
theorem notesOnLines_written {notes : List Note}
    (h : ∀ n ∈ notes, ∀ line ∈ n.lines, isHeaderLine line = false)
    (hnewline : ∀ n ∈ notes, ∀ line ∈ n.writtenLines, '\n' ∉ line) :
    notesOnLines (Text.lines (notes.flatMap Note.written)) = notes.map Note.reread := by
  have hlines : Text.lines (notes.flatMap Note.written)
      = notes.flatMap fun n => n.writtenLines.map withoutReturn := by
    have hflat : notes.flatMap Note.written = ofLines (notes.flatMap Note.writtenLines) ++ [] := by
      simp only [ofLines, List.flatMap_assoc, List.append_nil]
      rfl
    have hmem : ∀ line ∈ notes.flatMap Note.writtenLines, '\n' ∉ line := by
      intro line hline
      obtain ⟨n, hn, hline⟩ := List.mem_flatMap.1 hline
      exact hnewline n hn line hline
    rw [hflat, lines_ofLines_append hmem, lines, List.append_nil, List.map_flatMap]
  have hthrough := Draft.through_written h (.inl rfl) rfl
  rw [notesOnLines, hlines]
  exact hthrough

end Notebook
