import Mathlib.Tactic.SplitIfs
import Notebook.Proofs.Page.FirstLine
import Notebook.Proofs.Page.Parts

/-! # Which lines of text are kept

A line of text is kept if the header lines last above it are not all blank. A blank one that comes right
after text ends the note there and begins none, so that what follows it is lost up to the next header.
-/

namespace Notebook

/-! ## Lines under a header -/

def opensHeader (line : Text) : Bool :=
  match PageLine.read line with
  | .header content => content ≠ []
  | .text _ => false

/-- Whether some lines end with a header that is not blank and its text so far. -/
def IsHeaded (above : List Text) : Prop :=
  ∃ front opening header text, above = front ++ opening :: (header ++ text) ∧ opensHeader opening = true ∧
    (∀ line ∈ header, isHeaderLine line = true) ∧ ∀ line ∈ text, isHeaderLine line = false

theorem isHeaderLine_of_opensHeader {line : Text} (h : opensHeader line = true) : isHeaderLine line = true := by
  unfold opensHeader at h
  unfold isHeaderLine
  split at h <;> simp_all

def Stage.next (stage : Stage) (line : Text) : Stage :=
  if isHeaderLine line then
    if opensHeader line || stage = .header then .header else .preamble
  else if stage = .preamble then .preamble else .body

namespace Draft

theorem stage_takeHeader (d : Draft) (content : Text) :
    (d.takeHeader content).stage = if content = [] then d.stage else .header := by
  unfold takeHeader
  split_ifs <;> rfl

theorem stage_next (d : Draft) (line : Text) : (d.next line).stage = d.stage.next line := by
  unfold next refuses Stage.next opensHeader take
  cases hread : PageLine.read line with
  | text t =>
    have hline : isHeaderLine line = false := by simp [isHeaderLine, hread]
    simp only [hline, takeText]
    cases hd : d.stage <;> simp [hd] <;> split <;> simp
  | header content =>
    have hline : isHeaderLine line = true := by simp [isHeaderLine, hread]
    simp only [hline, stage_takeHeader]
    by_cases hcontent : content = [] <;> cases hd : d.stage <;> simp [hcontent, hd, start]

theorem stage_last (ls : List Text) : (start.through ls).2.stage = ls.foldl Stage.next .preamble := by
  rw [through_last]
  exact (List.foldl_hom Draft.stage fun d line => (stage_next d line).symm).symm

end Draft

namespace Stage

theorem next_of_opensHeader (stage : Stage) {line : Text} (h : opensHeader line = true) :
    stage.next line = .header := by
  simp [next, h, isHeaderLine_of_opensHeader h]

theorem foldl_header {header : List Text} (h : ∀ line ∈ header, isHeaderLine line = true) :
    header.foldl next .header = .header := by
  induction header with
  | nil => rfl
  | cons line rest ih =>
    have hline : next .header line = .header := by simp [next, h line (by simp)]
    rw [List.foldl_cons, hline]
    exact ih fun l hl => h l (.tail _ hl)

theorem foldl_text {stage : Stage} (hstage : stage ≠ .preamble) {text : List Text}
    (h : ∀ line ∈ text, isHeaderLine line = false) : text.foldl next stage ≠ .preamble := by
  induction text generalizing stage with
  | nil => exact hstage
  | cons line rest ih =>
    refine ih ?_ fun l hl => h l (.tail _ hl)
    simp [next, h line (by simp), hstage]

/-- Where a header goes on, a line that opened it stands above header lines only. -/
theorem of_foldl_eq_header {ls : List Text} (h : ls.foldl next .preamble = .header) :
    ∃ front opening header, ls = front ++ opening :: header ∧ opensHeader opening = true ∧
      ∀ line ∈ header, isHeaderLine line = true := by
  induction ls using List.reverseRecOn with
  | nil => cases h
  | append_singleton ls line ih =>
    rw [List.foldl_append, List.foldl_cons, List.foldl_nil, next] at h
    split_ifs at h with hline hopen
    by_cases hopens : opensHeader line = true
    · exact ⟨ls, line, [], rfl, hopens, by simp⟩
    · obtain ⟨front, opening, header, rfl, hopening, hheader⟩ := ih (by simpa [hopens] using hopen)
      refine ⟨front, opening, header ++ [line], by simp, hopening, fun l hl => ?_⟩
      rcases List.mem_append.1 hl with hl | hl
      · exact hheader l hl
      · rwa [List.mem_singleton.1 hl]

theorem isHeaded_of_foldl_ne_preamble {ls : List Text} (h : ls.foldl next .preamble ≠ .preamble) : IsHeaded ls := by
  induction ls using List.reverseRecOn with
  | nil => exact absurd rfl h
  | append_singleton ls line ih =>
    cases hline : isHeaderLine line with
    | true =>
      have hheader : (ls ++ [line]).foldl next .preamble = .header := by
        rw [List.foldl_append, List.foldl_cons, List.foldl_nil, next, if_pos hline] at h ⊢
        split_ifs at h ⊢ with hopen
        · rfl
        · exact absurd rfl h
      obtain ⟨front, opening, header, heq, hopening, hall⟩ := of_foldl_eq_header hheader
      exact ⟨front, opening, header, [], by simpa using heq, hopening, hall, by simp⟩
    | false =>
      have hbefore : ls.foldl next .preamble ≠ .preamble := by
        intro hpreamble
        simp [next, hline, hpreamble] at h
      obtain ⟨front, opening, header, text, rfl, hopening, hheader, htext⟩ := ih hbefore
      refine ⟨front, opening, header, text ++ [line], by simp, hopening, hheader, fun l hl => ?_⟩
      rcases List.mem_append.1 hl with hl | hl
      · exact htext l hl
      · rwa [List.mem_singleton.1 hl]

end Stage

theorem stage_ne_preamble_iff (ls : List Text) :
    (Draft.start.through ls).2.stage ≠ .preamble ↔ IsHeaded ls := by
  rw [Draft.stage_last]
  refine ⟨Stage.isHeaded_of_foldl_ne_preamble, ?_⟩
  rintro ⟨front, opening, header, text, rfl, hopening, hheader, htext⟩
  rw [List.foldl_append, List.foldl_cons, Stage.next_of_opensHeader _ hopening, List.foldl_append,
    Stage.foldl_header hheader]
  exact Stage.foldl_text (by simp) htext

/-! ## Notes on lines -/

namespace Draft

/-- The text of the note in progress. -/
def heldLines (d : Draft) : List Text := if d.stage = .preamble then [] else d.note.lines

theorem flatMap_finish (d : Draft) : d.finish.toList.flatMap Note.lines = d.heldLines := by
  unfold finish heldLines
  split <;> simp

theorem takeHeader_lines (d : Draft) (content : Text) : (d.takeHeader content).note.lines = d.note.lines := by
  unfold takeHeader
  split_ifs
  · rfl
  · rfl
  · rfl
  · exact (HeaderItem.addTo_keeps ..).2

theorem heldLines_take_header {d : Draft} (hd : d.stage = .preamble → d = start) {line : Text}
    (h : isHeaderLine line = true) : (d.take line).heldLines = d.heldLines := by
  obtain ⟨content, hread⟩ : ∃ content, PageLine.read line = .header content := by
    unfold isHeaderLine at h
    split at h
    · exact ⟨_, ‹_›⟩
    · cases h
  rw [take, hread]
  dsimp only
  unfold heldLines
  rw [stage_takeHeader, takeHeader_lines]
  by_cases hstage : d.stage = .preamble
  · have hnone : d.note.lines = [] := by rw [hd hstage]; rfl
    simp [hnone]
  · rw [if_neg hstage, if_neg]
    split_ifs
    · exact hstage
    · simp

theorem mem_heldLines_take_text {d : Draft} {line : Text} (h : isHeaderLine line = false) {l : Text}
    (hl : l.isBlank = false) :
    l ∈ (d.take line).heldLines ↔ l ∈ d.heldLines ∨ l = line ∧ d.stage ≠ .preamble := by
  rw [take, PageLine.read_of_isHeaderLine_eq_false h]
  unfold takeText heldLines
  cases hd : d.stage with
  | preamble => simp [hd]
  | header | body =>
    dsimp only
    split
    · rename_i hblank
      have hne : l ≠ line := by
        rintro rfl
        simp [hl] at hblank
      simp [hne]
    · simp

end Draft

theorem text_notesOnLines (ls : List Text) :
    (notesOnLines ls).flatMap Note.lines =
      (Draft.start.through ls).1.flatMap Note.lines ++ (Draft.start.through ls).2.heldLines := by
  simp only [notesOnLines, List.flatMap_append, Draft.flatMap_finish]

theorem text_notesOnLines_concat (ls : List Text) (line : Text) :
    (notesOnLines (ls ++ [line])).flatMap Note.lines = (Draft.start.through ls).1.flatMap Note.lines ++
      ((if (Draft.start.through ls).2.refuses line then (Draft.start.through ls).2.heldLines else []) ++
        ((Draft.start.through ls).2.next line).heldLines) := by
  rw [text_notesOnLines, Draft.through_append]
  simp only [Draft.through, Draft.next]
  split <;> simp [Draft.flatMap_finish]

theorem mem_notesOnLines_concat {ls : List Text} {line l : Text} (hl : l.isBlank = false) :
    l ∈ (notesOnLines (ls ++ [line])).flatMap Note.lines ↔
      l ∈ (notesOnLines ls).flatMap Note.lines ∨ l = line ∧ isHeaderLine line = false ∧ IsHeaded ls := by
  rw [text_notesOnLines_concat, text_notesOnLines, ← stage_ne_preamble_iff]
  have hstart := @Draft.eq_start_of_preamble ls
  generalize (Draft.start.through ls).2 = last at hstart ⊢
  simp only [List.mem_append]
  cases hline : isHeaderLine line with
  | false =>
    have hrefuses : last.refuses line = false := by simp [Draft.refuses, hline]
    simp [hrefuses, Draft.next, Draft.mem_heldLines_take_text hline hl, or_assoc]
  | true =>
    unfold Draft.next
    split
    · have hnone : Draft.start.heldLines = [] := rfl
      simp [Draft.heldLines_take_header (d := .start) (fun _ => rfl) hline, hnone]
    · simp [Draft.heldLines_take_header hstart hline]

theorem mem_notesOnLines_iff {ls : List Text} {line : Text} (hline : line.isBlank = false) :
    line ∈ (notesOnLines ls).flatMap Note.lines ↔
      isHeaderLine line = false ∧ ∃ above below, ls = above ++ line :: below ∧ IsHeaded above := by
  induction ls using List.reverseRecOn with
  | nil => simp [notesOnLines, Draft.through, Draft.finish, Draft.start]
  | append_singleton ls last ih =>
    rw [mem_notesOnLines_concat hline, ih]
    constructor
    · rintro (⟨htext, above, below, rfl, habove⟩ | ⟨rfl, htext, hheaded⟩)
      · exact ⟨htext, above, below ++ [last], by simp, habove⟩
      · exact ⟨htext, ls, [], rfl, hheaded⟩
    · rintro ⟨htext, above, below, heq, habove⟩
      cases below using List.reverseRecOn with
      | nil =>
        obtain ⟨rfl, hlast⟩ := List.append_inj' heq rfl
        obtain rfl := List.singleton_inj.1 hlast
        exact .inr ⟨rfl, htext, habove⟩
      | append_singleton below other =>
        rw [← List.cons_append, ← List.append_assoc] at heq
        exact .inl ⟨htext, above, below, List.append_inj_left' heq rfl, habove⟩

/-! ## Where lines come from -/

namespace Draft

theorem mem_take_lines {d : Draft} {next line : Text} (h : line ∈ (d.take next).note.lines) :
    line = next ∨ line ∈ d.note.lines := by
  cases hnext : isHeaderLine next with
  | false =>
    rw [take, PageLine.read_of_isHeaderLine_eq_false hnext] at h
    unfold takeText at h
    cases hd : d.stage with
    | preamble =>
      simp only [hd] at h
      exact .inr h
    | header | body =>
      simp only [hd] at h
      split at h
      · exact .inr h
      · simpa [or_comm] using h
  | true =>
    obtain ⟨rest, rfl, hrest⟩ := isHeaderLine_iff.1 hnext
    rw [take, PageLine.read_backslash hrest] at h
    rw [takeHeader_lines] at h
    exact .inr h

theorem mem_finish_lines {d : Draft} {n : Note} (hn : n ∈ d.finish.toList) {line : Text} (h : line ∈ n.lines) :
    line ∈ d.note.lines := by
  unfold finish at hn
  split at hn
  · simp at hn
  · rw [Option.mem_toList] at hn
    rwa [Option.some.inj hn]

theorem mem_through_lines {d : Draft} {ls : List Text} {line : Text}
    (h : (∃ n ∈ (d.through ls).1, line ∈ n.lines) ∨ line ∈ (d.through ls).2.note.lines) :
    line ∈ ls ∨ line ∈ d.note.lines := by
  induction ls generalizing d with
  | nil => simpa [through] using h
  | cons next rest ih =>
    have hrest {e : Draft} (hmem : line ∈ rest ∨ line ∈ (e.take next).note.lines) :
        line ∈ next :: rest ∨ line ∈ e.note.lines := by
      rcases hmem with hmem | hmem
      · exact .inl (.tail _ hmem)
      · exact (mem_take_lines hmem).imp_left fun heq => by simp [heq]
    rw [through] at h
    split at h
    · have hnone : line ∉ start.note.lines := List.not_mem_nil
      rcases h with ⟨n, hn, hline⟩ | hline
      · rcases List.mem_append.1 hn with hn | hn
        · exact .inr (mem_finish_lines hn hline)
        · exact .inl ((hrest (ih (.inl ⟨n, hn, hline⟩))).resolve_right hnone)
      · exact .inl ((hrest (ih (.inr hline))).resolve_right hnone)
    · exact hrest (ih h)

end Draft

theorem mem_of_mem_notesOnLines {ls : List Text} {n : Note} (hn : n ∈ notesOnLines ls) {line : Text}
    (h : line ∈ n.lines) : line ∈ ls := by
  have hnone : line ∉ Draft.start.note.lines := List.not_mem_nil
  rcases List.mem_append.1 hn with hn | hn
  · exact (Draft.mem_through_lines (.inl ⟨n, hn, h⟩)).resolve_right hnone
  · exact (Draft.mem_through_lines (.inr (Draft.mem_finish_lines hn h))).resolve_right hnone

/-! ## Pages -/

theorem Note.mem_join_lines {n other : Note} {line : Text} (hline : line.isBlank = false) :
    line ∈ (n.join other).lines ↔ line ∈ n.lines ∨ line ∈ other.lines := by
  have hne : line ≠ [] := by
    rintro rfl
    cases hline
  rw [Note.join_lines, mergedLines]
  split
  · rename_i heq
    simp [heq]
  · simp [hne]

theorem mem_foldl_join_lines {first : Note} {rest : List Note} {line : Text} (hline : line.isBlank = false) :
    line ∈ (rest.foldl Note.join first).lines ↔ ∃ n ∈ first :: rest, line ∈ n.lines := by
  induction rest generalizing first with
  | nil => simp
  | cons m rest ih => simp [ih, Note.mem_join_lines hline, or_assoc]

theorem mem_readPage_lines {page : Text} {notes : Notes} (h : readPage page = .ok notes) {line : Text}
    (hline : line.isBlank = false) :
    (∃ n ∈ notes.toList, line ∈ n.lines) ↔ line ∈ (notesOnLines page.lines).flatMap Note.lines := by
  obtain ⟨read, hread, -, hget⟩ := readPage_eq page
  obtain rfl : read = notes := Except.ok.inj (hread.symm.trans h)
  have hjoined (path : Text) : (∃ n, read.get? path = some n ∧ line ∈ n.lines) ↔
      ∃ n ∈ (notesOnLines page.lines).filter (·.path = path), line ∈ n.lines := by
    rw [hget]
    cases (notesOnLines page.lines).filter (·.path = path) with
    | nil => simp
    | cons first rest =>
      have hfold : (first :: rest).foldl Note.joinTo? none = some (rest.foldl Note.join first) :=
        Note.foldl_joinTo?_some first rest
      rw [hfold, ← mem_foldl_join_lines hline]
      simp
  rw [List.mem_flatMap]
  constructor
  · rintro ⟨n, hn, hmem⟩
    obtain ⟨path, hpath⟩ := Notes.mem_toList.1 hn
    obtain ⟨m, hm, hm'⟩ := (hjoined path).1 ⟨n, hpath, hmem⟩
    exact ⟨m, (List.mem_filter.1 hm).1, hm'⟩
  · rintro ⟨m, hm, hmem⟩
    obtain ⟨n, hn, hmem'⟩ := (hjoined m.path).2 ⟨m, List.mem_filter.2 ⟨hm, by simp⟩, hmem⟩
    exact ⟨n, Notes.mem_toList.2 ⟨m.path, hn⟩, hmem'⟩

/-- A line that is not blank is in the text of a note exactly if it is no header line and stands under a
header somewhere on the page. -/
theorem mem_lines_iff_headed (page : Text) :
    ∃ notes, readPage page = .ok notes ∧ ∀ line, line.isBlank = false →
      ((∃ n ∈ notes.toList, line ∈ n.lines) ↔
        isHeaderLine line = false ∧ ∃ above below, page.lines = above ++ line :: below ∧ IsHeaded above) := by
  obtain ⟨notes, hread, -, -⟩ := readPage_eq page
  refine ⟨notes, hread, fun line hline => ?_⟩
  rw [mem_readPage_lines hread hline]
  exact mem_notesOnLines_iff hline

def interrupted : Text := "\\ p\nOne.\n\\\nTwo.\n".toList

theorem readPage_interrupted :
    readPage interrupted = .ok (.single ['p'] ⟨['p'], ["One.".toList], [], [], .insert⟩) := by
  decide +kernel

theorem mem_lines_iff_headed_interrupted :
    Text.isBlank "One.".toList = false ∧
      ∃ notes, readPage interrupted = .ok notes ∧ ∃ n ∈ notes.toList, "One.".toList ∈ n.lines := by
  obtain ⟨notes, hread, hkept⟩ := mem_lines_iff_headed interrupted
  have hblank : Text.isBlank "One.".toList = false := by decide
  refine ⟨hblank, notes, hread, (hkept _ hblank).2 ⟨by decide, ["\\ p".toList], _, rfl, ?_⟩⟩
  exact ⟨[], "\\ p".toList, [], [], rfl, by decide +kernel, by simp, by simp⟩

/-- The line under the blank header line is in no note, though there is a header above it. -/
theorem text_after_header_not_kept :
    ¬∀ page notes, readPage page = .ok notes → ∀ above opening between line below,
      page.lines = above ++ opening :: (between ++ line :: below) → opensHeader opening = true →
        isHeaderLine line = false → line.isBlank = false → ∃ n ∈ notes.toList, line ∈ n.lines := by
  intro h
  obtain ⟨n, hn, hline⟩ := h interrupted _ readPage_interrupted [] "\\ p".toList ["One.".toList, ['\\']]
    "Two.".toList [] rfl (by decide +kernel) (by decide) (by decide)
  obtain ⟨path, hpath⟩ := Notes.mem_toList.1 hn
  rw [Notes.get?_single] at hpath
  split at hpath
  · obtain rfl := Option.some.inj hpath
    exact absurd hline (by decide)
  · cases hpath

end Notebook
