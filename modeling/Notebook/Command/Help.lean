import Notebook.Command.Arguments

/-! # What the command says about itself -/

namespace Notebook

def versionLine : Text := "notepath 0.1.0".toList

namespace Choice

def valueName : Choice → String
  | root => " <PART>"
  | path | text => " <PHRASE>..."
  | tag => " <WORD>..."
  | field => " <X=Y>..."
  | nameQuery | query | removeQuery => " <NAME>"
  | saveNotes => " <FILE>..."
  | _ => ""

def explanation : Choice → String
  | database => "Print SQLite engine details and where notepath keeps its files"
  | pathsOnly => "Print only the paths of matching notes"
  | json => "Print matching notes as JSON"
  | root => "Notes whose path begins with these words"
  | path => "Notes whose path contains these words"
  | text => "Notes whose text contains these words"
  | tag => "Notes with this tag"
  | field => "Notes with a matching field, e.g. \"year>=1980\", \"author has asimov\", \"isbn re ^0\""
  | nameQuery => "Save this search under a name"
  | query => "Run the search saved under this name"
  | listQueries => "List the names of saved searches"
  | removeQuery => "Remove the search saved under this name"
  | saveNotes => "Save the notes in these files into the database"
  | help => "Print help"
  | version => "Print version"

def helpColumn : Nat := 30

def helpLine (c : Choice) : Text :=
  let name := "  -".toList ++ c.short :: ", --".toList ++ c.long.toList ++ c.valueName.toList
  Text.padded helpColumn name ++ c.explanation.toList

end Choice

def helpLines : List Text :=
  ["Move notes between text files and a SQLite database".toList, [],
    "Usage: notepath [OPTIONS]".toList, [], "Options:".toList] ++ Choice.all.map Choice.helpLine

end Notebook
