import Notebook.Proofs.Page.Parts
import Notebook.Proofs.Store.Faults
import Notebook.Store.Rows

/-! # Notes that are joined have one path

Whoever joins two notes has found them under one path. That joining is refused for different paths is
therefore never seen, neither where pages are read nor where notes are saved.
-/

namespace Notebook

/-! ## Pages -/

namespace Notes

/-- What some files, read one after the other, leave gathered. They may be missing or broken. -/
inductive IsGathered : Notes → Prop where
  | empty : IsGathered .empty
  | file {notes : Notes} (name : Text) (file : PageFile) (quiet : Bool) :
      IsGathered notes → IsGathered (gatherFile name file quiet notes).notes

variable {notes : Notes}

theorem IsKeyed.gatherFrom (h : notes.IsKeyed) (quiet : Bool) (found : List Note) (failure : Option Failure) :
    (gatherFrom notes quiet found failure).notes.IsKeyed ∧
      (gatherFrom notes quiet found failure).failure = failure := by
  obtain ⟨gathered, hgathered, hkeyed, -⟩ := h.gather_eq found
  unfold Notebook.gatherFrom
  rw [hgathered]
  exact ⟨hkeyed, rfl⟩

theorem IsKeyed.gatherFile (h : notes.IsKeyed) (name : Text) (file : PageFile) (quiet : Bool) :
    (gatherFile name file quiet notes).notes.IsKeyed ∧
      ∀ e ∈ (gatherFile name file quiet notes).failure, ∃ problem, e = .file problem := by
  unfold Notebook.gatherFile
  cases file with
  | missing => exact ⟨h, by simp⟩
  | directory | closed problem => exact ⟨h, by simp⟩
  | bytes content =>
    dsimp only
    split
    · obtain ⟨hkeyed, hfailure⟩ :=
        h.gatherFrom quiet (Draft.start.through (decodedLines (Utf8.lines content)).1).1 (some (.file .notUtf8))
      exact ⟨hkeyed, by simp [hfailure]⟩
    · obtain ⟨hkeyed, hfailure⟩ :=
        h.gatherFrom quiet (notesOnLines (decodedLines (Utf8.lines content)).1) none
      exact ⟨hkeyed, by simp [hfailure]⟩

theorem IsGathered.isKeyed (h : notes.IsGathered) : notes.IsKeyed := by
  induction h with
  | empty => exact isKeyed_empty
  | file name file quiet _ ih => exact (ih.gatherFile name file quiet).1

end Notes

theorem gatherInTurn_succeeds {notes : Notes} (h : notes.IsKeyed) {files : List (Text × List UInt8)}
    (hvalid : ∀ file ∈ files, (Utf8.decode? file.2).isSome) (quiet : Bool) :
    ∃ gathered, gatherInTurn quiet notes files = .ok gathered := by
  induction files generalizing notes with
  | nil => exact ⟨notes, rfl⟩
  | cons file rest ih =>
    obtain ⟨page, hpage⟩ := Option.isSome_iff_exists.1 (hvalid file (by simp))
    obtain ⟨first, hfirst, hkeyed, -⟩ := h.gather_eq (notesOnLines page.lines)
    obtain ⟨gathered, hgathered⟩ := ih hkeyed fun f hf => hvalid f (by simp [hf])
    refine ⟨gathered, ?_⟩
    rw [gatherInTurn, List.foldlM_cons, gatherFile_result hpage, Notes.collect, hfirst]
    exact hgathered

/-! ## Stores -/

theorem Store.save_ne_incompatibleMerge (s : Store) (around : Surroundings) (notes : Notes) (path other : Text) :
    (s.save around notes).result ≠ .error (.incompatibleMerge path other) := by
  intro h
  obtain ⟨b, hout, -, -⟩ := save_eq_error h
  obtain ⟨_, n, mid, -, -, hfail⟩ := Saving.saveAll_eq_error hout
  rcases Saving.save_eq_error hfail with hfault | ⟨-, hadd, -, -⟩
  · exact hfault.ne_incompatibleMerge path other rfl
  · cases hadd

/-- Every page can be read, and so can all valid files one after the other. Whatever files were read before, and
whatever is in a store and in a batch, no two notes are joined that have different paths. -/
theorem joins_are_compatible :
    (∀ page, ∃ notes, readPage page = .ok notes) ∧
    (∀ (quiet : Bool) (files : List (Text × List UInt8)), (∀ file ∈ files, (Utf8.decode? file.2).isSome) →
      ∃ notes, gatherInTurn quiet .empty files = .ok notes) ∧
    (∀ (notes : Notes), notes.IsGathered → ∀ name file quiet path other,
      (gatherFile name file quiet notes).failure ≠ some (.incompatibleMerge path other)) ∧
    ∀ (s : Store) around notes path other,
      (s.save around notes).result ≠ .error (.incompatibleMerge path other) := by
  refine ⟨fun page => ?_, fun quiet files hvalid => ?_, fun notes hgathered name file quiet path other h => ?_,
    Store.save_ne_incompatibleMerge⟩
  · obtain ⟨notes, hread, -, -⟩ := readPage_eq page
    exact ⟨notes, hread⟩
  · exact gatherInTurn_succeeds Notes.isKeyed_empty hvalid quiet
  · obtain ⟨problem, hproblem⟩ := (hgathered.isKeyed.gatherFile name file quiet).2 _ h
    cases hproblem

def doubled : Store :=
  let s := (Store.empty false true).withRecord (.integer 1) (.text ['p']) (.text "One.\n".toList)
  let s := s.withRecord (.integer 2) (.text ['p']) (.text "Two.\n".toList)
  s.withTag (.integer 9) (.text "stray".toList) .null

/-- A note under a key that is not its path, which is moved to a path in use. -/
def misplaced : Notes := .ofList [("key".toList, ⟨['q'], ["Three.".toList], [], [], .rename ['p']⟩)]

theorem joins_are_compatible_doubled :
    (∃ notes, gatherInTurn true .empty [("a".toList, Utf8.encode firstPage), ("b".toList, Utf8.encode secondPage)]
      = .ok notes) ∧
    (∀ path other, (gatherFile "c".toList (.bytes brokenFile) true .empty).failure
      ≠ some (.incompatibleMerge path other)) ∧
    (doubled.save ⟨.free, none, []⟩ misplaced).result = .ok ⟨0, 1, 0, 0, 1, 1⟩ ∧
    ∀ path other, (doubled.save ⟨.free, none, []⟩ misplaced).result ≠ .error (.incompatibleMerge path other) := by
  obtain ⟨-, hfiles, hfile, hsave⟩ := joins_are_compatible
  exact ⟨hfiles true _ (by decide +kernel), hfile .empty .empty _ _ _, by decide +kernel, hsave _ _ _⟩

end Notebook
