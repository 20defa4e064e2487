import MachineArgs.Toml.Statement

/-!
# Configuration documents

The table that the statements of a configuration file make. Entries in front of the first header
belong to the document itself, entries behind a header to the table that it opens.
-/

namespace MachineArgs.Toml

/-- A header with the entries behind it. -/
structure Section where
  /-- The header adds a table to an array. -/
  isElement : Bool
  /-- The key of the header. -/
  key : Key
  /-- The entries behind it. -/
  pairs : List (Key × Value)

/-- The entries in front of the first header, and the sections behind them. -/
def sections : List Statement → List (Key × Value) × List Section
  | [] => ([], [])
  | .pair key v :: ss =>
    let (pairs, rest) := sections ss
    ((key, v) :: pairs, rest)
  | .header isElement key :: ss =>
    let (pairs, rest) := sections ss
    ([], { isElement, key, pairs } :: rest)

/-- Adds a section to a document. -/
def Section.addTo (s : Section) (es : Entries) : Option Entries :=
  if s.isElement then es.openElement s.key s.pairs else es.openTable s.key s.pairs

/-- The entries of a document by its statements, if these agree with each other. -/
def Entries.ofStatements? (ss : List Statement) : Option Entries := do
  let (pairs, rest) := sections ss
  let es ← Entries.defineAll [] pairs
  rest.foldlM (fun es s ↦ s.addTo es) es

/-- The entries of a document by its text. -/
def Entries.ofText? (text : String) : Option Entries := do
  let ss ← Statement.ofText? text
  Entries.ofStatements? ss

end MachineArgs.Toml
