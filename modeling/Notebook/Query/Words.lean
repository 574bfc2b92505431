import Notebook.Text.Alphanumeric
import Notebook.Text.Basic

/-! # Phrases as search expressions

A phrase is searched for word by word: in any case, with any blanks between its words, and not as a part of
longer words.
-/

namespace Notebook

def specialChars : Text := "\\.+*?()|[]\x7b\x7d^$#&-~".toList

def escapedLetter (c : Char) : Text := if c ∈ specialChars then ['\\', c] else [c]

def blanksPattern : Text := "\\s+".toList

/-- A phrase with its runs of blanks and its special characters made expressions. -/
def phraseBody : Text → Text
  | [] => []
  | c :: rest =>
    if Text.isBlankChar c then
      (if rest.head?.any Text.isBlankChar then [] else blanksPattern) ++ phraseBody rest
    else escapedLetter c ++ phraseBody rest

def edgeFor (c : Option Char) : Text := if c.any isWordPart then "\\b".toList else []

def wordPattern (t : Text) : Text := edgeFor t.head? ++ phraseBody t ++ edgeFor t.getLast?

/-- The expression that finds a phrase anywhere. -/
def phrasePattern (t : Text) : Text := "(?i)".toList ++ wordPattern t

def rootPattern (t : Text) : Text := "(?i)^".toList ++ wordPattern t

end Notebook
