import DuplicateLogic.Analyzer
import DuplicateLogic.Report.Style
import DuplicateLogic.Report.Table

/-! # The report as text

Findings and parse errors are shown in a table each, followed by a summary and the number of
files. -/

namespace DuplicateLogic.Report

/-- Where a finding is, with the place it refers to on a line of its own. -/
def locationText (finding : Finding) : String :=
  let place := finding.file.display ++ ":" ++ toString finding.start.line ++ ":" ++
    toString finding.start.column
  match finding.related? with
  | none => place
  | some related =>
      place ++ "\n(" ++ related.message ++ " at " ++ toString related.place.line ++ ":" ++
        toString related.place.column ++ ")"

/-- The table of findings under a title; nothing when there are none. -/
def findingsText (color : Bool) (title : String) (findings : List Finding) : String :=
  if findings.isEmpty then
    ""
  else
    "\n" ++ paint color [.bold, .underlined] title ++ "\n" ++
      table ["Rule ID", "Message", "Location", "Severity"]
        (findings.map fun finding =>
          [finding.rule, finding.message, locationText finding, finding.severity]) ++ "\n"

/-- The table of parse errors; nothing when there are none. -/
def parseErrorsText (color : Bool) (errors : List ParseError) : String :=
  if errors.isEmpty then
    ""
  else
    "\n" ++ paint color [.bold, .underlined, .red] "Parse Errors" ++ "\n" ++
      table ["File", "Error"]
        (errors.map fun failure => [failure.file.display, failure.error]) ++ "\n"

/-- A count with its label, red unless it is zero. -/
def pill (color : Bool) (label : String) (count : Nat) : String :=
  let styles : List Style := if count = 0 then [.green] else [.bold, .red]
  label ++ ": " ++ paint color styles (toString count)

/-- How many findings are of a category. -/
def countCategory (category : Category) (findings : List Finding) : Nat :=
  (findings.filter fun finding => finding.category == category.text).length

/-- The line with the counts by category. -/
def summaryText (color : Bool) (result : Analysis) : String :=
  pill color "Bugs" (countCategory .bug result.findings) ++ "  " ++
    pill color "Code Smells" (countCategory .codeSmell result.findings) ++ "  " ++
    pill color "Parse Errors" result.parseErrors.length ++ "\n"

/-- The line with the number of files and findings. -/
def statsText (color : Bool) (result : Analysis) : String :=
  let count (value : Nat) : String := paint color [.bold] (toString value)
  paint color [.dimmed]
    ("Analyzed " ++ count result.filesAnalyzed ++ " files, " ++ count result.findings.length ++
      " findings") ++ "\n"

/-- The whole report. -/
def reportText (color : Bool) (result : Analysis) : String :=
  if result.findings.isEmpty && result.parseErrors.isEmpty then
    paint color [.green] "✓ All clean! No duplicated logic found." ++ "\n" ++
      statsText color result
  else
    findingsText color "Duplicated Logic" result.findings ++
      parseErrorsText color result.parseErrors ++ "\n" ++ summaryText color result ++
      statsText color result

end DuplicateLogic.Report
