import Notebook.Proofs.Store.Saving
import Notebook.Proofs.Store.Statements
import Notebook.Store.Opening

/-! # Sessions

A session is a run of operations on a store and its archive. Each may meet other surroundings and end in
any way.
-/

namespace Notebook

structure Kept where
  store : Store
  archive : Text

inductive Operation where
  /-- Saving a batch, whose tables may not be let go in the end. What a failed attempt to write the archive left
  there is `torn`. -/
  | save (around : Surroundings) (notes : Notes) (torn : Text) (refusal : Option Failure)
  | search (hold : Hold) (r : Request)
  | saveQuery (hold : Hold) (name query : Text)
  | removeQuery (hold : Hold) (name : Text)
  | reopen (hold : Hold)

/-- What an attempt to write the archive may have left there although it failed. -/
def Saved.torn (saved : Saved) (left : Text) : Text :=
  match saved.result with
  | .error (.file _) => left
  | _ => []

namespace Kept

variable [Engine]

def after (k : Kept) : Operation → Kept
  | .save around notes torn refusal =>
    let saved := k.store.saveAndCommit around notes refusal
    { store := saved.store
      archive := k.archive ++ saved.archived ++ saved.torn torn }
  | .search hold r => { k with store := (k.store.search hold r).store }
  | .saveQuery hold name query => { k with store := (k.store.saveQuery hold name query).store }
  | .removeQuery hold name => { k with store := (k.store.removeQuery hold name).store }
  | .reopen hold =>
    match (StorePlace.store k.store).openStore hold with
    | .ok s => { k with store := s }
    | .error _ => k

def run (k : Kept) (ops : List Operation) : Kept := ops.foldl after k

end Kept

/-! ## Sessions whose saved texts read -/

section

variable [Engine]

end

end Notebook
