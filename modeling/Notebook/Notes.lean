import Notebook.Note
import Notebook.PathOrder

/-! # Notes by key

A collection of notes, each under a key, which is the path of the note unless a caller chose another.
The entries are in rising order of the keys, so equal collections have equal entries.
-/

namespace Notebook

/-! ## Entries -/

def Rising (entries : List (Text × Note)) : Prop :=
  entries.Pairwise fun a b => a.1.before b.1

def putEntry (key : Text) (note : Note) : List (Text × Note) → List (Text × Note)
  | [] => [(key, note)]
  | (k, n) :: rest =>
    if k = key then (key, note) :: rest
    else if key.before k then (key, note) :: (k, n) :: rest
    else (k, n) :: putEntry key note rest

theorem mem_putEntry {key : Text} {note : Note} {entries : List (Text × Note)} {e : Text × Note}
    (h : e ∈ putEntry key note entries) : e = (key, note) ∨ e ∈ entries := by
  fun_induction putEntry key note entries with
  | case1 => simpa using h
  | case2 n rest => simp only [List.mem_cons] at h ⊢; exact h.imp_right .inr
  | case3 k n rest _ _ => simpa using h
  | case4 k n rest _ _ ih =>
    simp only [List.mem_cons] at h ⊢
    rcases h with h | h
    · exact .inr (.inl h)
    · exact (ih h).imp_right .inr

theorem rising_putEntry {key : Text} {note : Note} {entries : List (Text × Note)}
    (h : Rising entries) : Rising (putEntry key note entries) := by
  unfold Rising at *
  fun_induction putEntry key note entries with
  | case1 => simp
  | case2 n rest => simpa using h
  | case3 k n rest _ hk =>
    refine List.pairwise_cons.2 ⟨fun e he => ?_, h⟩
    rcases List.mem_cons.1 he with rfl | he
    · exact hk
    · exact Text.before_trans hk ((List.pairwise_cons.1 h).1 e he)
  | case4 k n rest hne hk ih =>
    obtain ⟨h₁, h₂⟩ := List.pairwise_cons.1 h
    refine List.pairwise_cons.2 ⟨fun e he => ?_, ih h₂⟩
    rcases mem_putEntry he with rfl | he
    · exact (Text.before_or_before hne).resolve_right hk
    · exact h₁ e he

/-! ## Collections -/

structure Notes where
  entries : List (Text × Note)
  rising : Rising entries

namespace Notes

instance : DecidableEq Notes := fun a b =>
  if h : a.entries = b.entries then isTrue (by cases a; cases b; simp_all)
  else isFalse fun e => h (congrArg entries e)

def empty : Notes := ⟨[], .nil⟩

instance : Inhabited Notes := ⟨empty⟩

def get? (notes : Notes) (key : Text) : Option Note := notes.entries.lookup key

def put (notes : Notes) (key : Text) (note : Note) : Notes :=
  ⟨putEntry key note notes.entries, rising_putEntry notes.rising⟩

def ofList (entries : List (Text × Note)) : Notes := entries.foldl (fun ns e => ns.put e.1 e.2) empty

def keys (notes : Notes) : List Text := notes.entries.map (·.1)

def toList (notes : Notes) : List Note := notes.entries.map (·.2)

def size (notes : Notes) : Nat := notes.entries.length

def wordCount (notes : Notes) : Nat := (notes.toList.flatMap Note.words).length

def inPathOrder (notes : Notes) : List Note := (sortPaths notes.keys).filterMap notes.get?

end Notes

end Notebook
