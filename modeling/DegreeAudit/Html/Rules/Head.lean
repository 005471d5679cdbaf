import DegreeAudit.Html.Construction

/-!
# Rules up to the head

How the frame of a page comes about, whether the page writes it or not: the root, the head and what
belongs into it. Content that belongs into the head is dealt with by the same rules wherever it
stands.
-/

namespace DegreeAudit.Html.Rules

open Build

def isBlank (c : Char) : Bool := isTagSpace c || c == '\r'

def openRoot (attributes : List (String × String)) : Build Unit := do
  let id ← createElement ⟨.html, "html", attributes⟩
  onBench (·.append 0 id)
  onOpen (id :: ·)

/-- A start tag of the root when there is one: it only adds attributes. -/
def rootAgain (tag : Tag) : Build Outcome := do
  if !(← isOpen "template") then
    match (← get).openElements.getLast? with
    | some root => addMissingAttributes root tag.attributes
    | none => pure ()
  done

def leaveTemplateMode : Build Unit :=
  modify fun c => { c with templateModes := c.templateModes.tail }

def setTemplateMode (mode : Mode) : Build Unit :=
  modify fun c => { c with templateModes := mode :: c.templateModes.tail }

def closeTemplate : Build Unit := do
  popNamed "template"
  clearFormatting
  leaveTemplateMode

def initial : Token → Build Outcome
  | .character c => if isBlank c then done else do
    modify fun b => { b with quirky := true }
    again .beforeHtml
  | .comment => done
  | .doctype quirky => do
    modify fun b => { b with quirky }
    enter .beforeHtml
  | _ => do
    modify fun b => { b with quirky := true }
    again .beforeHtml

def beforeHtml (token : Token) : Build Outcome := do
  let leaveOut : Build Outcome := do
    openRoot []
    again .beforeHead
  match token with
  | .character c => if isBlank c then done else leaveOut
  | .comment | .doctype _ => done
  | .startTag tag =>
    if tag.name = "html" then
      openRoot tag.attributes
      enter .beforeHead
    else leaveOut
  | .endTag name => if ["head", "body", "html", "br"].contains name then leaveOut else done
  | .ended => leaveOut

def beforeHead (token : Token) : Build Outcome := do
  let openHead (tag : Tag) : Build Unit := do
    let id ← openTag tag
    modify fun b => { b with head := some id }
  let leaveOut : Build Outcome := do
    openHead ⟨"head", [], false⟩
    again .inHead
  match token with
  | .character c => if isBlank c then done else leaveOut
  | .comment => do
    appendComment
    done
  | .doctype _ => done
  | .startTag tag =>
    if tag.name = "html" then rootAgain tag
    else if tag.name = "head" then
      openHead tag
      enter .inHead
    else leaveOut
  | .endTag name => if ["head", "body", "html", "br"].contains name then leaveOut else done
  | .ended => leaveOut

def headContent (tag : Tag) : Build Outcome := do
  match tag.name with
  | "title" => openText tag (.references tag.name)
  | "noframes" | "style" | "noscript" => openText tag (.raw tag.name)
  | "script" => openText tag (.script .plain)
  | "template" =>
    discard <| openTag tag
    hideFormatting
    forbidFrameset
    modify fun c => { c with templateModes := .inTemplate :: c.templateModes }
    enter .inTemplate
  | _ => insertVoid tag

def templateEnd : Build Outcome := do
  if ← isOpen "template" then
    closeImplied TagGroup.thoroughImpliedEnd ""
    closeTemplate
    enter (← fittingMode)
  else done

def inHead (token : Token) : Build Outcome := do
  let leave : Build Outcome := do
    pop
    again .afterHead
  match token with
  | .character c =>
    if isBlank c then
      appendText c
      done
    else leave
  | .comment => do
    appendComment
    done
  | .doctype _ => done
  | .startTag tag =>
    if tag.name = "html" then rootAgain tag
    else if TagGroup.headContent.contains tag.name || tag.name == "noscript" then headContent tag
    else if tag.name = "head" then done
    else leave
  | .endTag name =>
    if name = "head" then
      pop
      enter .afterHead
    else if name = "template" then templateEnd
    else if ["body", "html", "br"].contains name then leave
    else done
  | .ended => leave

def afterHead (token : Token) : Build Outcome := do
  let leaveOut : Build Outcome := do
    discard <| openImplied "body"
    again .inBody
  match token with
  | .character c =>
    if isBlank c then
      appendText c
      done
    else leaveOut
  | .comment => do
    appendComment
    done
  | .doctype _ => done
  | .startTag tag =>
    if tag.name = "html" then rootAgain tag
    else if tag.name = "body" then
      discard <| openTag tag
      forbidFrameset
      enter .inBody
    else if tag.name = "frameset" then
      discard <| openTag tag
      enter .inFrameset
    else if TagGroup.headContent.contains tag.name then
      match (← get).head with
      | some head =>
        onOpen (head :: ·)
        let outcome ← headContent tag
        onOpen (·.filter (· != head))
        return outcome
      | none => headContent tag
    else if tag.name = "head" then done
    else leaveOut
  | .endTag name =>
    if name = "template" then templateEnd
    else if ["body", "html", "br"].contains name then leaveOut
    else done
  | .ended => leaveOut

end DegreeAudit.Html.Rules
