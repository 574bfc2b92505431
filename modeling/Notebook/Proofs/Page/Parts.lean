import Notebook.Proofs.Page.Draft
import Notebook.Proofs.Page.Gathering
import Notebook.Proofs.Text.Utf8

/-! # Pages that are read in parts

A page can be parted where no note is in progress, and where a header line begins the next note. Read one
after the other the parts hold what the whole page does.
-/

namespace Notebook

/-! ## Parts of a page -/

namespace Draft

theorem take_eq_start {d : Draft} (h : d.stage = .preamble → d = start) {line : Text}
    (hstage : (d.take line).stage = .preamble) : d.take line = start := by
  unfold take at *
  split at hstage
  · unfold takeText at *
    cases hd : d.stage with
    | preamble => simpa [hd] using h hd
    | header | body => split_ifs at hstage <;> simp_all
  · unfold takeHeader at *
    split_ifs at hstage
    · simpa [*] using h hstage

theorem eq_start_of_preamble {ls : List Text} (h : (start.through ls).2.stage = .preamble) :
    (start.through ls).2 = start := by
  rw [through_last] at h ⊢
  refine List.foldlRecOn ls next (motive := fun d => d.stage = .preamble → d = start) (fun _ => rfl) ?_ h
  intro d hd line _
  unfold next
  split
  · exact take_eq_start fun _ => rfl
  · exact take_eq_start hd

end Draft

/-- Whether the next lines do not depend on those before them. -/
def StartsAnew (before ls : List Text) : Prop :=
  (Draft.start.through before).2.stage = .preamble ∨
    (Draft.start.through before).2.stage = .body ∧ ∀ line ∈ ls.head?, isHeaderLine line = true

instance (before ls : List Text) : Decidable (StartsAnew before ls) :=
  inferInstanceAs (Decidable ((Draft.start.through before).2.stage = .preamble ∨
    (Draft.start.through before).2.stage = .body ∧ ∀ line ∈ ls.head?, isHeaderLine line = true))

theorem notesOnLines_append {before ls : List Text} (h : StartsAnew before ls) :
    notesOnLines (before ++ ls) = notesOnLines before ++ notesOnLines ls := by
  have hstart : Draft.start.finish = none := rfl
  unfold StartsAnew at h
  simp only [notesOnLines, Draft.through_append]
  rcases h with hpreamble | ⟨hbody, hheader⟩
  · rw [Draft.eq_start_of_preamble hpreamble]
    simp [hstart]
  · cases ls with
    | nil => simp [Draft.through, hstart]
    | cons line rest =>
      have hrefused : (Draft.start.through before).2.refuses line = true := by
        simp [Draft.refuses, hbody, hheader line rfl]
      rw [Draft.through_refused hrefused]
      simp

theorem notesOnLines_flatten {pages : List Text} (hended : ∀ page ∈ pages.dropLast, page.IsEnded)
    (h : ∀ i, (hi : i < pages.length) → StartsAnew (Text.lines (pages.take i).flatten) pages[i].lines) :
    notesOnLines (Text.lines pages.flatten) = pages.flatMap fun page => notesOnLines page.lines := by
  induction pages using List.reverseRecOn with
  | nil => rfl
  | append_singleton pages last ih =>
    rw [List.dropLast_concat] at hended
    have hlast : StartsAnew (Text.lines pages.flatten) last.lines := by
      simpa using h pages.length (by simp)
    have hpages : notesOnLines (Text.lines pages.flatten) = pages.flatMap fun page => notesOnLines page.lines := by
      refine ih (fun page hpage => hended page ((List.dropLast_prefix pages).subset hpage)) fun i hi => ?_
      have hbefore := h i (by rw [List.length_append]; omega)
      rwa [List.take_append_of_le_length (by omega), List.getElem_append_left hi] at hbefore
    have hlines : Text.lines (pages ++ [last]).flatten = Text.lines pages.flatten ++ last.lines := by
      rw [Text.lines_flatten (by rwa [List.dropLast_concat]), List.flatMap_append, ← Text.lines_flatten]
      · simp
      · exact fun page hpage => hended page ((List.dropLast_prefix pages).subset hpage)
    rw [hlines, notesOnLines_append hlast, hpages]
    simp

theorem notesOnLines_preamble {front : List Text}
    (h : ∀ line ∈ front, isHeaderLine line = false ∨ PageLine.read line = .header []) (ls : List Text) :
    notesOnLines (front ++ ls) = notesOnLines ls := by
  have htake {line : Text} (hline : isHeaderLine line = false ∨ PageLine.read line = .header []) :
      Draft.start.take line = .start := by
    rcases hline with hline | hline
    · rw [Draft.take, PageLine.read_of_isHeaderLine_eq_false hline]
      rfl
    · rw [Draft.take, hline]
      rfl
  have hthrough : Draft.start.through front = ([], .start) := by
    induction front with
    | nil => rfl
    | cons line rest ih =>
      rw [Draft.through, if_neg (by simp [Draft.refuses, Draft.start]), htake (h line (by simp))]
      exact ih fun l hl => h l (.tail _ hl)
  rw [notesOnLines, notesOnLines, Draft.through_append, hthrough]
  rfl

/-! ## Files in turn -/

/-- The notes on some lines, gathered with those of earlier ones. -/
def Notes.collect (notes : Notes) (ls : List Text) : Except Failure Notes := notes.gather (notesOnLines ls)

def FileReading.result (r : FileReading) : Except Failure Notes :=
  match r.failure with
  | none => .ok r.notes
  | some e => .error e

def gatherInTurn (quiet : Bool) (notes : Notes) (files : List (Text × List UInt8)) : Except Failure Notes :=
  files.foldlM (fun notes file => (gatherFile file.1 (.bytes file.2) quiet notes).result) notes

theorem decodedLines_eq (ls : List (List UInt8)) :
    decodedLines ls = ((ls.takeWhile fun line => (Utf8.decode? line).isSome).filterMap Utf8.decode?,
      ls.any fun line => (Utf8.decode? line).isNone) := by
  induction ls with
  | nil => rfl
  | cons line rest ih =>
    rw [decodedLines]
    cases hline : Utf8.decode? line with
    | none => simp [hline]
    | some t => simp [hline, ih]

theorem decodedLines_of_map {ls : List (List UInt8)} {ts : List Text} (h : ls.map Utf8.decode? = ts.map some) :
    decodedLines ls = (ts, false) := by
  induction ls generalizing ts with
  | nil => simpa [decodedLines] using h
  | cons line rest ih =>
    cases ts with
    | nil => simp at h
    | cons t ts =>
      obtain ⟨hline, hrest⟩ : Utf8.decode? line = some t ∧ rest.map Utf8.decode? = ts.map some := by simpa using h
      rw [decodedLines, hline, ih hrest]

theorem gatherFile_result {content : List UInt8} {page : Text} (h : Utf8.decode? content = some page)
    (name : Text) (quiet : Bool) (notes : Notes) :
    (gatherFile name (.bytes content) quiet notes).result = notes.collect page.lines := by
  simp only [gatherFile, decodedLines_of_map (Utf8.map_decode?_lines h), gatherFrom, Notes.collect]
  cases notes.gather (notesOnLines page.lines) <;> rfl

theorem gatherInTurn_eq {files : List (Text × List UInt8)} {pages : List Text}
    (h : files.map (fun file => Utf8.decode? file.2) = pages.map some) (quiet : Bool) (notes : Notes) :
    gatherInTurn quiet notes files = notes.gather (pages.flatMap fun page => notesOnLines page.lines) := by
  induction files generalizing pages notes with
  | nil =>
    obtain rfl : pages = [] := by simpa using h.symm
    rfl
  | cons file rest ih =>
    obtain ⟨page, pages, rfl⟩ : ∃ page more, pages = page :: more := by cases pages <;> simp_all
    obtain ⟨hfile, hrest⟩ : Utf8.decode? file.2 = some page ∧
        rest.map (fun file => Utf8.decode? file.2) = pages.map some := by simpa using h
    rw [gatherInTurn, List.foldlM_cons, gatherFile_result hfile, List.flatMap_cons, Notes.gather,
      List.foldlM_append]
    exact bind_congr fun first => ih hrest first

/-! ## Parts and wholes -/

theorem Notes.IsKeyed.collect_append {notes : Notes} (h : notes.IsKeyed) {before ls : List Text}
    (hanew : StartsAnew before ls) :
    ∃ first whole, notes.collect before = .ok first ∧ first.collect ls = .ok whole ∧
      notes.collect (before ++ ls) = .ok whole := by
  obtain ⟨first, hfirst, hkeyed, -⟩ := h.gather_eq (notesOnLines before)
  obtain ⟨whole, hwhole, -, -⟩ := hkeyed.gather_eq (notesOnLines ls)
  refine ⟨first, whole, hfirst, hwhole, ?_⟩
  rw [Notes.collect, notesOnLines_append hanew, Notes.gather, List.foldlM_append]
  exact bind_eq_ok.2 ⟨first, hfirst, hwhole⟩

theorem gatherFile_illFormed {notes : Notes} (h : notes.IsKeyed) {content : List UInt8}
    (hbad : ∃ line ∈ Utf8.lines content, Utf8.decode? line = none) (name : Text) (quiet : Bool) :
    let ls := ((Utf8.lines content).takeWhile fun line => (Utf8.decode? line).isSome).filterMap Utf8.decode?
    (gatherFile name (.bytes content) quiet notes).failure = some (.file .notUtf8) ∧
      notes.gather (Draft.start.through ls).1 = .ok (gatherFile name (.bytes content) quiet notes).notes := by
  intro ls
  obtain ⟨gathered, hgathered, -, -⟩ := h.gather_eq (Draft.start.through ls).1
  have hany : ((Utf8.lines content).any fun line => (Utf8.decode? line).isNone) = true := by simpa using hbad
  have hreading : gatherFile name (.bytes content) quiet notes
      = gatherFrom notes quiet (Draft.start.through ls).1 (some (.file .notUtf8)) := by
    simp only [gatherFile, decodedLines_eq, hany, if_true]
    rfl
  rw [hreading, gatherFrom, hgathered]
  exact ⟨rfl, rfl⟩

/-- Lines that start anew can be collected apart from those before them, and so can files that are read in
turn; what stands before the first header line does not count. Of a file with an ill-formed line the notes
finished before that line are kept, and the one that it stands in is not. -/
theorem collect_in_parts :
    (∀ (notes : Notes) (before ls : List Text), notes.IsKeyed → StartsAnew before ls →
      ∃ first whole, notes.collect before = .ok first ∧ first.collect ls = .ok whole ∧
        notes.collect (before ++ ls) = .ok whole) ∧
    (∀ (quiet : Bool) (files : List (Text × List UInt8)) (pages : List Text),
      files.map (fun file => Utf8.decode? file.2) = pages.map some →
      (∀ page ∈ pages.dropLast, page.IsEnded) →
      (∀ i, (hi : i < pages.length) → StartsAnew (Text.lines (pages.take i).flatten) pages[i].lines) →
      ∃ notes, readPage pages.flatten = .ok notes ∧ gatherInTurn quiet .empty files = .ok notes) ∧
    (∀ (notes : Notes) (front ls : List Text),
      (∀ line ∈ front, isHeaderLine line = false ∨ PageLine.read line = .header []) →
      notes.collect (front ++ ls) = notes.collect ls) ∧
    ∀ (name : Text) (quiet : Bool) (notes : Notes) (content : List UInt8), notes.IsKeyed →
      (∃ line ∈ Utf8.lines content, Utf8.decode? line = none) →
      let reading := gatherFile name (.bytes content) quiet notes
      let ls := ((Utf8.lines content).takeWhile fun line => (Utf8.decode? line).isSome).filterMap Utf8.decode?
      reading.failure = some (.file .notUtf8) ∧
        ∃ finished, notesOnLines ls = finished ++ (Draft.start.through ls).2.finish.toList ∧
          notes.gather finished = .ok reading.notes := by
  refine ⟨fun notes before ls hkeyed hanew => hkeyed.collect_append hanew,
    fun quiet files pages hfiles hended hanew => ?_, fun notes front ls hfront => ?_,
    fun name quiet notes content hkeyed hbad => ?_⟩
  · obtain ⟨notes, hread, -, -⟩ := readPage_eq pages.flatten
    refine ⟨notes, hread, ?_⟩
    rw [gatherInTurn_eq hfiles, ← notesOnLines_flatten hended hanew]
    exact hread
  · rw [Notes.collect, notesOnLines_preamble hfront]
    rfl
  · obtain ⟨hfailure, hgathered⟩ := gatherFile_illFormed hkeyed hbad name quiet
    exact ⟨hfailure, _, rfl, hgathered⟩

def firstPage : Text := "Notes.\n\\ p\n\nOne.\n".toList

def secondPage : Text := "\\ p\n\nTwo.\n".toList

/-- Both pages in one file, and then a line that is ill formed. -/
def brokenFile : List UInt8 := Utf8.encode (firstPage ++ secondPage) ++ [0xFF]

def firstNote : Note := ⟨['p'], ["One.".toList], [], [], .insert⟩

theorem collect_in_parts_pair :
    StartsAnew firstPage.lines secondPage.lines ∧
      (∃ first whole, Notes.empty.collect firstPage.lines = .ok first ∧ first.collect secondPage.lines = .ok whole ∧
        Notes.empty.collect (firstPage.lines ++ secondPage.lines) = .ok whole) ∧
      (∃ notes, readPage (firstPage ++ secondPage) = .ok notes ∧
        gatherInTurn true .empty [("a".toList, Utf8.encode firstPage), ("b".toList, Utf8.encode secondPage)]
          = .ok notes) ∧
      Notes.empty.collect firstPage.lines = Notes.empty.collect firstPage.lines.tail ∧
      (gatherFile "c".toList (.bytes brokenFile) true .empty).failure = some (.file .notUtf8) ∧
      (gatherFile "c".toList (.bytes brokenFile) true .empty).notes = .single ['p'] firstNote := by
  obtain ⟨hparts, hfiles, hfront, hbroken⟩ := collect_in_parts
  have hanew : StartsAnew firstPage.lines secondPage.lines := by decide +kernel
  refine ⟨hanew, hparts .empty _ _ Notes.isKeyed_empty hanew, ?_,
    hfront .empty ["Notes.".toList] firstPage.lines.tail (by decide +kernel), ?_⟩
  · exact hfiles true [("a".toList, Utf8.encode firstPage), ("b".toList, Utf8.encode secondPage)]
      [firstPage, secondPage] (by decide +kernel) (by decide +kernel) (by decide +kernel)
  · obtain ⟨hfailure, finished, hfound, hgathered⟩ := hbroken "c".toList true .empty brokenFile
      Notes.isKeyed_empty ⟨[0xFF], by decide +kernel⟩
    refine ⟨hfailure, ?_⟩
    generalize hls : ((Utf8.lines brokenFile).takeWhile fun line => (Utf8.decode? line).isSome).filterMap
      Utf8.decode? = ls at hfound
    have hread : ls = firstPage.lines ++ secondPage.lines := by
      rw [← hls]
      decide +kernel
    have hboth : notesOnLines ls = [firstNote] ++ (Draft.start.through ls).2.finish.toList := by
      rw [hread]
      decide +kernel
    obtain rfl : finished = [firstNote] := List.append_cancel_right (hfound.symm.trans hboth)
    exact (Except.ok.inj hgathered).symm

end Notebook
