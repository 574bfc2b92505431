import Notebook.Proofs.Store.Refinement
import Notebook.Proofs.Store.Session
import Notebook.Proofs.Store.Steps

/-! # No stored version is lost

Whatever happens in a session, a note that could once be read can still be read, or else its dated copy
stands in the archive. Only a saved text that writes gets around the archive.
-/

namespace Notebook

/-! ## In a batch -/

/-- How a batch goes on from `b`: the archive grows, and every note that is no longer read is in what was
added. -/
def Batch.Keeps (stamp : Text) (b b' : Batch) : Prop :=
  ∃ added, b'.archived = b.archived ++ added ∧ ∀ path n, b.store.contents path = .ok (some n) →
    b'.store.contents path = .ok (some n) ∨ (n.stamped stamp).written <:+: added

namespace Kept

/-- How a session goes on from `k` with some stamps: its archive grows, and if it `reads` only, every note that is
no longer read is in what was added. -/
def Keeps (reads : Prop) (stamps : List Text) (k k' : Kept) : Prop :=
  ∃ added, k'.archive = k.archive ++ added ∧ (reads → ∀ path n, k.store.noteAt? .free path = .ok (some n) →
    k'.store.noteAt? .free path = .ok (some n) ∨
      ∃ stamp ∈ stamps, (n.stamped stamp).written <:+: added)

theorem Keeps.trans {first second : Prop} {a b c : Kept} {stamps more : List Text} (hab : a.Keeps first stamps b)
    (hbc : b.Keeps second more c) : a.Keeps (first ∧ second) (stamps ++ more) c := by
  obtain ⟨earlier, hearlier, hab⟩ := hab
  obtain ⟨later, hlater, hbc⟩ := hbc
  refine ⟨earlier ++ later, by rw [hlater, hearlier, List.append_assoc], fun hreads path n hn => ?_⟩
  rcases hab hreads.1 path n hn with hn | ⟨stamp, hstamp, hn⟩
  · refine (hbc hreads.2 path n hn).imp_right ?_
    rintro ⟨stamp, hstamp, hn⟩
    exact ⟨stamp, by simp [hstamp], hn.trans (List.suffix_append ..).isInfix⟩
  · exact .inr ⟨stamp, by simp [hstamp], hn.trans (List.prefix_append ..).isInfix⟩

section

variable [Engine]

end

end Kept

end Notebook
