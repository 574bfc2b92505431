import Notebook.Main
import Notebook.Proofs.Notes
import Notebook.Proofs.Store.Contents
import Notebook.Proofs.Store.Changes
import Notebook.Proofs.Store.Saving
import Notebook.Proofs.Store.Refinement
import Notebook.Proofs.Store.Session
import Notebook.Proofs.Store.Steps
import Notebook.Proofs.Directive
import Notebook.Proofs.Number.Plain
import Notebook.Proofs.Page.Draft
import Notebook.Proofs.Page.Found
import Notebook.Proofs.Page.Rereading
import Notebook.Proofs.Page.RoundTrip
import Notebook.Proofs.Store.NothingLost
import Notebook.Proofs.Store.Atomic
import Notebook.Proofs.Store.Soundness
import Notebook.Proofs.Query.Terms
import Notebook.Proofs.Store.Conjunction
import Notebook.Proofs.Families
import Notebook.Proofs.Page.FirstLine
import Notebook.Proofs.Store.Balance
import Notebook.Proofs.Store.Agreement
import Notebook.Proofs.Page.KeptText
import Notebook.Proofs.Store.Replay
import Notebook.Proofs.Store.Independence
import Notebook.Proofs.Store.Resaving
import Notebook.Proofs.Compatibility
import Notebook.Proofs.Pattern.WholeWords
import Notebook.Proofs.Query.QuoteRuns
import Notebook.Proofs.Union
import Notebook.Proofs.Entries
import Notebook.Proofs.Store.JoinedRows
import Notebook.Proofs.Page.Rows
import Notebook.Proofs.Query.Accounting
import Notebook.Proofs.Query.FieldTerms
import Notebook.Proofs.Store.SearchFaults
import Notebook.Proofs.Readable.Sizes
import Notebook.Proofs.Readable.Counts
import Notebook.Proofs.Command.Summary
