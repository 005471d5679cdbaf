import DegreeAudit.Html.Rules.Table

/-!
# Which rules apply

Each token is dealt with by the rules of the mode in force, or by the rules for other vocabularies
when the innermost open element belongs to one. Rules that leave a token to another mode are
followed until one has dealt with it; every such step closes an element or moves on among the modes,
so a few steps more than there are open elements are enough.
-/

namespace DegreeAudit.Html.Rules

open Build

def ofMode : Mode → Token → Build Outcome
  | .initial => initial
  | .beforeHtml => beforeHtml
  | .beforeHead => beforeHead
  | .inHead => inHead
  | .afterHead => afterHead
  | .inBody => inBody
  | .text => text
  | .inTable => inTable
  | .inTableText => inTableText
  | .inCaption => inCaption
  | .inColumnGroup => inColumnGroup
  | .inTableBody => inTableBody
  | .inRow => inRow
  | .inCell => inCell
  | .inSelect => inSelect
  | .inSelectInTable => inSelectInTable
  | .inTemplate => inTemplate
  | .afterBody => afterBody
  | .inFrameset => inFrameset
  | .afterFrameset => afterFrameset
  | .afterAfterBody => afterAfterBody
  | .afterAfterFrameset => afterAfterFrameset

def inMode (token : Token) : Build Outcome := do ofMode (← get).mode token

def isForeign (token : Token) : Build Bool := do
  if (← get).openElements.isEmpty then return false
  let e ← current
  if e.vocabulary == .html then return false
  return match token with
    | .ended => false
    | .character _ => !(e.isTextPoint || e.isHtmlPoint)
    | .startTag tag =>
      !(e.isTextPoint && !(["mglyph", "malignmark"].contains tag.name)) && !e.isHtmlPoint &&
        !(e.vocabulary == .math && e.name == "annotation-xml" && tag.name == "svg")
    | _ => true

/-- Leaves the other vocabulary and deals with a token by the rules of the mode in force. -/
def breakOut (token : Token) : Build Outcome := do
  popTo fun e => e.vocabulary == .html || e.isTextPoint || e.isHtmlPoint
  inMode token

/-- Closes the nearest element of a name in the other vocabulary; an element of HTML in between
takes the end tag by its own rules. -/
def foreignEnd (name : String) : Build Outcome := do
  let c ← get
  let inner := c.openElements.takeWhile fun id =>
    (c.bench.elementAt id).vocabulary != .html && (c.bench.elementAt id).name != name
  let outer := c.openElements.drop inner.length
  match outer with
  | id :: rest =>
    if rest.isEmpty then done
    else if (c.bench.elementAt id).vocabulary == .html && !inner.isEmpty then inMode (.endTag name)
    else
      onOpen fun _ => rest
      done
  | [] => done

def foreign : Token → Build Outcome
  | .character c => do
    if c = '\x00' then appendText replacement
    else
      if !isBlank c then forbidFrameset
      appendText c
    done
  | .comment => do
    appendComment
    done
  | .startTag tag => do
    let coloured := tag.attributes.any fun given => ["color", "face", "size"].contains given.1
    if TagGroup.foreignBreakers.contains tag.name || (tag.name == "font" && coloured) then
      breakOut (.startTag tag)
    else openForeign (← current).vocabulary tag
  | .endTag name =>
    if name = "br" ∨ name = "p" then breakOut (.endTag name) else foreignEnd name
  | _ => done

def dealWith (token : Token) : (steps : Nat) → Build Unit
  | 0 => pure ()
  | steps + 1 => do
    let outcome ← if ← isForeign token then foreign token else inMode token
    match outcome with
    | .done => pure ()
    | .again => dealWith token steps

/-- Deals with a token. A line feed right after certain start tags does not count. -/
def take (token : Token) : Build Unit := do
  let c ← get
  modify fun c => { c with skipLineFeed := false }
  if !(c.skipLineFeed && token == .character '\n') then
    dealWith token (2 * c.openElements.length + 64)

def takeAll : List Token → Build Unit
  | [] => pure ()
  | token :: rest => do
    take token
    takeAll rest

end DegreeAudit.Html.Rules
