import DegreeAudit.Curriculum.Progress

/-!
# The progress report

A Markdown page with three counts and two lists of component names. A list without names shows a
placeholder line instead. Names are written as they are, so a name with a line break runs over
several lines.
-/

namespace DegreeAudit

/-- What a report tells: how many components there are, and which are completed and pending. -/
structure Report where
  total : Nat
  progress : Progress

namespace Report

def ofComponents (components : List Component) (progress : Progress) : Report :=
  ⟨components.length, progress⟩

def placeholder : String := "_nenhum componente_"

def bullet : String := "- "

def title : String := "# Integralização curricular"

def totalLabel : String := "- Componentes: "

def completedLabel : String := "- Concluídos: "

def pendingLabel : String := "- Pendentes: "

def completedHeading : String := "## Concluídos"

def pendingHeading : String := "## Pendentes"

/-- The lines below a heading: a blank one, then a bullet for each name, or the placeholder set off
by blanks. -/
def sectionLines (names : List String) : List String :=
  if names.isEmpty then ["", "", placeholder] else "" :: names.map (bullet ++ ·)

def lines (r : Report) : List String :=
  [title, "",
    totalLabel ++ toString r.total,
    completedLabel ++ toString r.progress.completed.length,
    pendingLabel ++ toString r.progress.pending.length, "",
    completedHeading] ++ sectionLines r.progress.completed ++
  ["", pendingHeading] ++ sectionLines r.progress.pending

def render (r : Report) : String := String.join (r.lines.map (· ++ "\n"))

end Report

end DegreeAudit
