import Notebook.Page.Layout

/-! # The archive

The archive is a page that only grows. A stored note is copied to it, with the date, before it is
changed or deleted.
-/

namespace Notebook

def archiveField : Text := "\x7barchive_date\x7d".toList

/-- A note with the date of its archiving after its fields. -/
def Note.stamped (n : Note) (stamp : Text) : Note :=
  { n with fields := n.fields ++ [(archiveField, .text stamp)] }

def archiveText (notes : Notes) (stamp : Text) : Text :=
  notes.inPathOrder.flatMap fun n => (n.stamped stamp).written

end Notebook
