import DegreeAudit.Html.Rules.Head

/-!
# Rules in the body

How the content of a page nests: blocks end paragraphs, list items and headings end each other,
formatting is resumed inside blocks, forms do not nest, and an end tag closes what it names if that
is still within reach.
-/

namespace DegreeAudit.Html.Rules

open Build

def isHiddenInput (tag : Tag) : Bool :=
  tag.attributes.any fun given => given.1 == "type" && given.2.toLower == "hidden"

/-- The page's end inside templates closes them one by one. -/
def endInTemplate : Build Outcome := do
  if ← isOpen "template" then
    closeTemplate
    again (← fittingMode)
  else done

/-- The body, if it is open right inside the root. -/
def openBody? : Build (Option PartId) := do
  let c ← get
  return match c.openElements.reverse with
    | _ :: body :: _ => if (c.bench.elementAt body).isHtml ["body"] then some body else none
    | _ => none

def openBlock (tag : Tag) : Build Outcome := do
  closeParagraphInButton
  discard <| openTag tag
  done

/-- Closes an element that is within reach, with what may be left open in it. -/
def closeWithin (boundary : Element → Bool) (name : String) : Build Outcome := do
  if ← namedInScope boundary [name] then
    closeImpliedHere
    popNamed name
  done

def openItem (names : List String) (tag : Tag) : Build Outcome := do
  forbidFrameset
  let c ← get
  let passes (e : Element) :=
    !e.isHtml names && (!TagGroup.isSpecial e || e.isHtml ["address", "div", "p"])
  match c.openElements.dropWhile fun id => passes (c.bench.elementAt id) with
  | id :: _ =>
    let e := c.bench.elementAt id
    if e.isHtml names then
      closeImplied TagGroup.impliedEnd e.name
      popNamed e.name
  | [] => pure ()
  openBlock tag

def openLink (tag : Tag) : Build Outcome := do
  let isLink : Formatting → Bool
    | .element _ other => other.name == "a"
    | .marker => false
  match (← visibleFormatting).find? isLink with
  | some (.element id _) =>
    untangle "a"
    forgetFormatting id
    onOpen (·.filter (· != id))
  | _ => pure ()
  resumeFormatting
  openFormatting tag

def openForeign (vocabulary : Vocabulary) (tag : Tag) : Build Outcome := do
  let id ← insertElement ⟨vocabulary, tag.name, tag.attributes⟩
  if !tag.selfClosing then onOpen (id :: ·)
  done

/-- Puts an element without content among words. -/
def insertInline (tag : Tag) : Build Outcome := do
  resumeFormatting
  if !(tag.name == "input" && isHiddenInput tag) then forbidFrameset
  insertVoid tag

def openSelect (tag : Tag) : Build Outcome := do
  resumeFormatting
  discard <| openTag tag
  forbidFrameset
  let inTable := [Mode.inTable, .inCaption, .inTableBody, .inRow, .inCell].contains (← get).mode
  enter (if inTable then .inSelectInTable else .inSelect)

/-- A frameset replaces a body in which nothing was shown yet. -/
def openFrameset (tag : Tag) : Build Outcome := do
  if (← get).framesetAllowed then
    match ← openBody? with
    | some body =>
      onBench (·.detach body)
      onOpen fun ids => ids.drop (ids.length - 1)
      discard <| openTag tag
      enter .inFrameset
    | none => done
  else done

/-- Opens a form unless one is open; inside a template forms are not remembered. -/
def openForm (tag : Tag) : Build Outcome := do
  let inTemplate ← isOpen "template"
  if (← get).form.isSome && !inTemplate then done
  else
    closeParagraphInButton
    let id ← openTag tag
    if !inTemplate then modify fun c => { c with form := some id }
    done

def bodyStart (tag : Tag) : Build Outcome := do
  let name := tag.name
  if name = "html" then rootAgain tag
  else if TagGroup.headContent.contains name then headContent tag
  else if name = "body" then
    match ← openBody? with
    | some body =>
      if !(← isOpen "template") then
        forbidFrameset
        addMissingAttributes body tag.attributes
      done
    | none => done
  else if name = "frameset" then openFrameset tag
  else if TagGroup.blocks.contains name || name == "p" then openBlock tag
  else if TagGroup.headings.contains name then
    closeParagraphInButton
    if ← currentIs TagGroup.headings then pop
    discard <| openTag tag
    done
  else if name = "pre" ∨ name = "listing" then
    closeParagraphInButton
    discard <| openTag tag
    modify fun c => { c with skipLineFeed := true }
    forbidFrameset
    done
  else if name = "form" then openForm tag
  else if name = "li" then openItem ["li"] tag
  else if name = "dd" ∨ name = "dt" then openItem ["dd", "dt"] tag
  else if name = "plaintext" then
    closeParagraphInButton
    discard <| openTag tag
    modify fun c => { c with textMode := .plain }
    done
  else if name = "button" then
    if ← namedInScope TagGroup.ordinary ["button"] then
      closeImpliedHere
      popNamed "button"
    resumeFormatting
    discard <| openTag tag
    forbidFrameset
    done
  else if name = "a" then openLink tag
  else if TagGroup.formatting.contains name then
    resumeFormatting
    openFormatting tag
  else if name = "nobr" then
    resumeFormatting
    if ← namedInScope TagGroup.ordinary ["nobr"] then
      untangle "nobr"
      resumeFormatting
    openFormatting tag
  else if TagGroup.embedded.contains name then
    resumeFormatting
    discard <| openTag tag
    hideFormatting
    forbidFrameset
    done
  else if name = "table" then
    if !(← get).quirky then closeParagraphInButton
    discard <| openTag tag
    forbidFrameset
    enter .inTable
  else if TagGroup.voidInline.contains name then insertInline tag
  else if ["param", "source", "track"].contains name then insertVoid tag
  else if name = "hr" then
    closeParagraphInButton
    forbidFrameset
    insertVoid tag
  else if name = "image" then insertInline { tag with name := "img" }
  else if name = "textarea" then
    modify fun c => { c with skipLineFeed := true }
    forbidFrameset
    openText tag (.references name)
  else if name = "xmp" then
    closeParagraphInButton
    resumeFormatting
    forbidFrameset
    openText tag (.raw name)
  else if name = "iframe" then
    forbidFrameset
    openText tag (.raw name)
  else if name = "noembed" ∨ name = "noscript" then openText tag (.raw name)
  else if name = "select" then openSelect tag
  else if name = "optgroup" ∨ name = "option" then
    if ← currentIs ["option"] then pop
    resumeFormatting
    discard <| openTag tag
    done
  else if name = "rb" ∨ name = "rtc" then
    if ← namedInScope TagGroup.ordinary ["ruby"] then closeImpliedHere
    discard <| openTag tag
    done
  else if name = "rp" ∨ name = "rt" then
    if ← namedInScope TagGroup.ordinary ["ruby"] then closeImplied TagGroup.impliedEnd "rtc"
    discard <| openTag tag
    done
  else if name = "math" then
    resumeFormatting
    openForeign .math tag
  else if name = "svg" then
    resumeFormatting
    openForeign .svg tag
  else if TagGroup.tableParts.contains name || name == "frame" || name == "head" then done
  else
    resumeFormatting
    discard <| openTag tag
    done

def formEnd : Build Outcome := do
  if ← isOpen "template" then
    if ← namedInScope TagGroup.ordinary ["form"] then
      closeImpliedHere
      popNamed "form"
    done
  else
    match (← get).form with
    | none => done
    | some form =>
      modify fun c => { c with form := none }
      if ← inScope TagGroup.ordinary fun id _ => id == form then
        closeImpliedHere
        onOpen (·.filter (· != form))
      done

def bodyEnd (name : String) : Build Outcome := do
  if name = "template" then templateEnd
  else if name = "body" then
    if ← namedInScope TagGroup.ordinary ["body"] then enter .afterBody else done
  else if name = "html" then
    if ← namedInScope TagGroup.ordinary ["body"] then again .afterBody else done
  else if TagGroup.closedAsBlocks.contains name then closeWithin TagGroup.ordinary name
  else if name = "form" then formEnd
  else if name = "p" then
    if !(← namedInScope TagGroup.button ["p"]) then discard <| openImplied "p"
    closeParagraph
    done
  else if name = "li" ∨ name = "dd" ∨ name = "dt" then
    let boundary := if name = "li" then TagGroup.listItem else TagGroup.ordinary
    if ← namedInScope boundary [name] then
      closeImplied TagGroup.impliedEnd name
      popNamed name
    done
  else if TagGroup.headings.contains name then
    if ← namedInScope TagGroup.ordinary TagGroup.headings then
      closeImpliedHere
      popPast (·.isHtml TagGroup.headings)
    done
  else if TagGroup.formatting.contains name || name == "a" || name == "nobr" then
    untangle name
    done
  else if TagGroup.embedded.contains name then
    if ← namedInScope TagGroup.ordinary [name] then
      closeImpliedHere
      popNamed name
      clearFormatting
    done
  else if name = "br" then insertInline ⟨"br", [], false⟩
  else
    closeOrdinary name
    done

def inBody : Token → Build Outcome
  | .character c =>
    if c = '\x00' then done else do
    resumeFormatting
    if !isBlank c then forbidFrameset
    appendText c
    done
  | .comment => do
    appendComment
    done
  | .doctype _ => done
  | .startTag tag => bodyStart tag
  | .endTag name => bodyEnd name
  | .ended => do
    if (← get).templateModes.isEmpty then done else endInTemplate

def text : Token → Build Outcome
  | .character c => do
    appendText c
    done
  | .ended => do
    pop
    again (← get).returnMode
  | .endTag _ => do
    pop
    enter (← get).returnMode
  | _ => done

/-- The rules after the body: anything but blanks goes back into it. -/
def afterBody : Token → Build Outcome
  | .character c => if isBlank c then inBody (.character c) else again .inBody
  | .comment => do
    appendCommentTo ((← get).openElements.getLast?.getD 0)
    done
  | .doctype _ => done
  | .startTag tag => if tag.name = "html" then rootAgain tag else again .inBody
  | .endTag name => if name = "html" then enter .afterAfterBody else again .inBody
  | .ended => done

def afterAfterBody : Token → Build Outcome
  | .character c => if isBlank c then inBody (.character c) else again .inBody
  | .comment | .doctype _ | .ended => done
  | .startTag tag => if tag.name = "html" then rootAgain tag else again .inBody
  | .endTag _ => again .inBody

def inFrameset : Token → Build Outcome
  | .character c => do
    if isBlank c then appendText c
    done
  | .comment => do
    appendComment
    done
  | .startTag tag =>
    match tag.name with
    | "html" => rootAgain tag
    | "frameset" => do
      discard <| openTag tag
      done
    | "frame" => insertVoid tag
    | "noframes" => headContent tag
    | _ => done
  | .endTag "frameset" => do
    if (← get).openElements.length = 1 then done
    else
      pop
      if ← currentIs ["frameset"] then done else enter .afterFrameset
  | _ => done

def afterFrameset : Token → Build Outcome
  | .character c => do
    if isBlank c then appendText c
    done
  | .comment => do
    appendComment
    done
  | .startTag tag =>
    match tag.name with
    | "html" => rootAgain tag
    | "noframes" => headContent tag
    | _ => done
  | .endTag "html" => enter .afterAfterFrameset
  | _ => done

def afterAfterFrameset : Token → Build Outcome
  | .character c => if isBlank c then inBody (.character c) else done
  | .startTag tag =>
    match tag.name with
    | "html" => rootAgain tag
    | "noframes" => headContent tag
    | _ => done
  | _ => done

end DegreeAudit.Html.Rules
