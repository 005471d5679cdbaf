import DegreeAudit.Html.Rules.Body

/-!
# Rules in tables, selections and templates

A table takes its own parts and nothing else: a part that is left out is opened, one that is out of
place closes what stands in its way, and everything else goes in front of the table. A selection
takes options and their groups. A template takes what its first content calls for.
-/

namespace DegreeAudit.Html.Rules

open Build

/-- Deals with a token by the rules of the body, content going in front of the table. -/
def fosterInBody (token : Token) : Build Outcome := do
  modify fun c => { c with fostering := true }
  let outcome ← inBody token
  modify fun c => { c with fostering := false }
  return outcome

def clearToTable : Build Unit := popTo (·.isHtml ["table", "template", "html"])

def clearToRows : Build Unit := popTo (·.isHtml ["tbody", "tfoot", "thead", "template", "html"])

def clearToRow : Build Unit := popTo (·.isHtml ["tr", "template", "html"])

/-- Opens a part of a table that is left out and looks at the token again. -/
def implyPart (clear : Build Unit) (name : String) (mode : Mode) : Build Outcome := do
  clear
  discard <| openImplied name
  again mode

def tableStart (tag : Tag) : Build Outcome := do
  match tag.name with
  | "caption" =>
    clearToTable
    hideFormatting
    discard <| openTag tag
    enter .inCaption
  | "colgroup" =>
    clearToTable
    discard <| openTag tag
    enter .inColumnGroup
  | "col" => implyPart clearToTable "colgroup" .inColumnGroup
  | "tbody" | "tfoot" | "thead" =>
    clearToTable
    discard <| openTag tag
    enter .inTableBody
  | "td" | "th" | "tr" => implyPart clearToTable "tbody" .inTableBody
  | "table" =>
    if ← namedInScope TagGroup.table ["table"] then
      popNamed "table"
      again (← fittingMode)
    else done
  | "style" | "script" | "template" => headContent tag
  | "input" => if isHiddenInput tag then insertVoid tag else fosterInBody (.startTag tag)
  | "form" =>
    if !(← isOpen "template") && (← get).form.isNone then
      let id ← insertElement ⟨.html, tag.name, tag.attributes⟩
      modify fun c => { c with form := some id }
    done
  | _ => fosterInBody (.startTag tag)

def inTable : Token → Build Outcome
  | .character c => do
    if ← currentIs TagGroup.fosterTargets then
      modify fun b => { b with returnMode := b.mode }
      again .inTableText
    else fosterInBody (.character c)
  | .comment => do
    appendComment
    done
  | .doctype _ => done
  | .startTag tag => tableStart tag
  | .endTag name =>
    if name = "table" then do
      if ← namedInScope TagGroup.table ["table"] then
        popNamed "table"
        enter (← fittingMode)
      else done
    else if TagGroup.tableParts.contains name || name == "body" || name == "html" then done
    else if name = "template" then templateEnd
    else fosterInBody (.endTag name)
  | .ended => inBody .ended

def fosterText : List Char → Build Unit
  | [] => pure ()
  | c :: rest => do
    discard <| fosterInBody (.character c)
    fosterText rest

def keepText : List Char → Build Unit
  | [] => pure ()
  | c :: rest => do
    appendText c
    keepText rest

/-- The rules for text between the parts of a table: blanks stay, and a text with anything else goes
in front of the table as a whole. -/
def inTableText : Token → Build Outcome
  | .character c => do
    if c != '\x00' then modify fun b => { b with pendingText := c :: b.pendingText }
    done
  | .doctype _ => done
  | _ => do
    let pending := (← get).pendingText.reverse
    modify fun b => { b with pendingText := [] }
    if pending.any (!isBlank ·) then fosterText pending else keepText pending
    again (← get).returnMode

def closeCaption (next : Build Outcome) : Build Outcome := do
  if ← namedInScope TagGroup.table ["caption"] then
    closeImpliedHere
    popNamed "caption"
    clearFormatting
    next
  else done

def inCaption : Token → Build Outcome
  | .startTag tag =>
    if TagGroup.tableParts.contains tag.name then closeCaption (again .inTable)
    else inBody (.startTag tag)
  | .endTag name =>
    if name = "caption" then closeCaption (enter .inTable)
    else if name = "table" then closeCaption (again .inTable)
    else if TagGroup.tableParts.contains name || name == "body" || name == "html" then done
    else inBody (.endTag name)
  | token => inBody token

def inColumnGroup (token : Token) : Build Outcome := do
  let leave (next : Build Outcome) : Build Outcome := do
    if ← currentIs ["colgroup"] then
      pop
      next
    else done
  match token with
  | .character c =>
    if isBlank c then
      appendText c
      done
    else leave (again .inTable)
  | .comment =>
    appendComment
    done
  | .doctype _ => done
  | .startTag tag =>
    match tag.name with
    | "html" => rootAgain tag
    | "col" => insertVoid tag
    | "template" => headContent tag
    | _ => leave (again .inTable)
  | .endTag name =>
    match name with
    | "colgroup" => leave (enter .inTable)
    | "col" => done
    | "template" => templateEnd
    | _ => leave (again .inTable)
  | .ended => inBody .ended

def inTableBody : Token → Build Outcome
  | .startTag tag => do
    if tag.name = "tr" then
      clearToRows
      discard <| openTag tag
      enter .inRow
    else if tag.name = "td" ∨ tag.name = "th" then implyPart clearToRows "tr" .inRow
    else if TagGroup.tableParts.contains tag.name then leaveRows
    else inTable (.startTag tag)
  | .endTag name => do
    if ["tbody", "tfoot", "thead"].contains name then
      if ← namedInScope TagGroup.table [name] then
        clearToRows
        pop
        enter .inTable
      else done
    else if name = "table" then leaveRows
    else if TagGroup.tableParts.contains name || name == "body" || name == "html" then done
    else inTable (.endTag name)
  | token => inTable token
where
  /-- Closes the group of rows and looks at the token again in the table. -/
  leaveRows : Build Outcome := do
    if ← namedInScope TagGroup.table ["table", "tbody", "tfoot"] then
      clearToRows
      pop
      again .inTable
    else done

def inRow : Token → Build Outcome
  | .startTag tag => do
    if tag.name = "td" ∨ tag.name = "th" then
      clearToRow
      discard <| openTag tag
      hideFormatting
      enter .inCell
    else if TagGroup.tableParts.contains tag.name then leaveRow (again .inTableBody)
    else inTable (.startTag tag)
  | .endTag name => do
    if name = "tr" then leaveRow (enter .inTableBody)
    else if name = "table" then leaveRow (again .inTableBody)
    else if ["tbody", "tfoot", "thead"].contains name then
      if ← namedInScope TagGroup.table [name] then leaveRow (again .inTableBody) else done
    else if TagGroup.tableParts.contains name || name == "body" || name == "html" then done
    else inTable (.endTag name)
  | token => inTable token
where
  /-- Closes the row and answers what to do with the token then. -/
  leaveRow (next : Build Outcome) : Build Outcome := do
    if ← namedInScope TagGroup.table ["tr"] then
      clearToRow
      pop
      next
    else done

def closeCell : Build Unit := do
  closeImpliedHere
  popPast (·.isHtml ["td", "th"])
  clearFormatting

def inCell : Token → Build Outcome
  | .startTag tag => do
    if TagGroup.tableParts.contains tag.name then
      if ← namedInScope TagGroup.table ["td", "th"] then
        closeCell
        again .inRow
      else done
    else inBody (.startTag tag)
  | .endTag name => do
    if name = "td" ∨ name = "th" then
      if ← namedInScope TagGroup.table [name] then
        closeImpliedHere
        popNamed name
        clearFormatting
        enter .inRow
      else done
    else if ["table", "tbody", "tfoot", "thead", "tr"].contains name then
      if ← namedInScope TagGroup.table [name] then
        closeCell
        again .inRow
      else done
    else if TagGroup.tableParts.contains name || name == "body" || name == "html" then done
    else inBody (.endTag name)
  | token => inBody token

/-- Closes the open selection and answers what to do with the token then. -/
def closeSelect (next : Mode → Build Outcome) : Build Outcome := do
  if ← namedInScope TagGroup.select ["select"] then
    popNamed "select"
    next (← fittingMode)
  else done

def inSelect : Token → Build Outcome
  | .character c => do
    if c != '\x00' then appendText c
    done
  | .comment => do
    appendComment
    done
  | .doctype _ => done
  | .startTag tag => do
    match tag.name with
    | "html" => rootAgain tag
    | "option" =>
      if ← currentIs ["option"] then pop
      discard <| openTag tag
      done
    | "optgroup" =>
      if ← currentIs ["option"] then pop
      if ← currentIs ["optgroup"] then pop
      discard <| openTag tag
      done
    | "select" => closeSelect enter
    | "input" | "keygen" | "textarea" => closeSelect again
    | "script" | "template" => headContent tag
    | _ => done
  | .endTag name => do
    match name with
    | "optgroup" =>
      let c ← get
      match c.openElements with
      | option :: group :: _ =>
        if (c.bench.elementAt option).isHtml ["option"] &&
            (c.bench.elementAt group).isHtml ["optgroup"] then pop
      | _ => pure ()
      if ← currentIs ["optgroup"] then pop
      done
    | "option" =>
      if ← currentIs ["option"] then pop
      done
    | "select" => closeSelect enter
    | "template" => templateEnd
    | _ => done
  | .ended => inBody .ended

/-- The rules in a selection inside a table: a part of the table ends it. -/
def inSelectInTable : Token → Build Outcome
  | .startTag tag => do
    if ["caption", "table", "tbody", "tfoot", "thead", "tr", "td", "th"].contains tag.name then
      popNamed "select"
      again (← fittingMode)
    else inSelect (.startTag tag)
  | .endTag name => do
    if ["caption", "table", "tbody", "tfoot", "thead", "tr", "td", "th"].contains name then
      if ← namedInScope TagGroup.table [name] then
        popNamed "select"
        again (← fittingMode)
      else done
    else inSelect (.endTag name)
  | token => inSelect token

/-- Makes a mode that of the template and looks at the token again under it. -/
def templateAs (mode : Mode) : Build Outcome := do
  setTemplateMode mode
  again mode

def inTemplate : Token → Build Outcome
  | .character c => inBody (.character c)
  | .comment => inBody .comment
  | .doctype _ => done
  | .startTag tag =>
    if TagGroup.headContent.contains tag.name then headContent tag
    else
      match tag.name with
      | "caption" | "colgroup" | "tbody" | "tfoot" | "thead" => templateAs .inTable
      | "col" => templateAs .inColumnGroup
      | "tr" => templateAs .inTableBody
      | "td" | "th" => templateAs .inRow
      | _ => templateAs .inBody
  | .endTag name => if name = "template" then templateEnd else done
  | .ended => endInTemplate

end DegreeAudit.Html.Rules
