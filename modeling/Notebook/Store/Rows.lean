import Notebook.Store.Tables

/-! # Stores made by others

A store may hold rows that were not written by saving notes. Its columns have types all the same.
-/

namespace Notebook

namespace Store

/-- Adds a row of records; without an id it gets the next one. -/
def withRecord (s : Store) (id path text : Cell) : Store :=
  let n := match id.inIntegerColumn with
    | .integer n => n
    | _ => s.nextId
  { s with
    records := placeRecord ⟨n, path.inTextColumn, text.inTextColumn⟩ s.records
    rising := rising_placeRecord s.rising }

def withTag (s : Store) (id name value : Cell) : Store :=
  { s with tags := s.tags ++ [⟨id.inIntegerColumn, name.inTextColumn, value⟩] }

def withConfig (s : Store) (category name value : Cell) : Store :=
  { s with config := s.config ++ [⟨category.inTextColumn, name.inTextColumn, value.inTextColumn⟩] }

end Store

end Notebook
