import DegreeAudit.Export.Report

/-!
# Reading reports back

A report says in its counts how many names each of its lists has, so the names can be taken out
again by counting lines, whatever they look like. Only a name with a line break defeats this.
-/

namespace DegreeAudit.Report

def textLines (text : String) : List String :=
  ((text.toList.splitOn '\n').map String.ofList).dropLast

def after? (beginning line : String) : Option String :=
  if beginning.toList.isPrefixOf line.toList then
    some (String.ofList (line.toList.drop beginning.toList.length))
  else none

def number? (digits : String) : Option Nat :=
  if digits.isEmpty ∨ !digits.toList.all Char.isDigit then none
  else some (Nat.ofDigitChars 10 digits.toList 0)

def count? (label line : String) : Option Nat := (after? label line).bind number?

def names? (count : Nat) (lines : List String) : Option (List String × List String) :=
  match count, lines with
  | 0, first :: second :: third :: rest =>
    if first = "" ∧ second = "" ∧ third = placeholder then some ([], rest) else none
  | count + 1, first :: rest =>
    if first = "" ∧ count + 1 ≤ rest.length then
      ((rest.take (count + 1)).mapM (after? bullet)).map fun names => (names, rest.drop (count + 1))
    else none
  | _, _ => none

/-- The lists of names and their headings, for the numbers of names that the counts give. -/
def lists? (completed pending : Nat) (lines : List String) : Option Progress := do
  let afterHeading (heading : String) : List String → Option (List String)
    | line :: rest => if line = heading then some rest else none
    | [] => none
  let (completedNames, lines) ← names? completed (← afterHeading completedHeading lines)
  let lines ← afterHeading pendingHeading (← afterHeading "" lines)
  let (pendingNames, lines) ← names? pending lines
  if lines.isEmpty then some ⟨pendingNames, completedNames⟩ else none

def read? (text : String) : Option Report :=
  match textLines text with
  | first :: second :: total :: completed :: pending :: blank :: rest =>
    if first = title ∧ second = "" ∧ blank = "" then do
      let progress ← lists? (← count? completedLabel completed) (← count? pendingLabel pending) rest
      return ⟨← count? totalLabel total, progress⟩
    else none
  | _ => none

end DegreeAudit.Report
