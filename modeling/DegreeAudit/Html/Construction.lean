import DegreeAudit.Html.Lexeme
import DegreeAudit.Html.TagGroup

/-!
# A page under construction

What is remembered while the tokens of a page are turned into elements: the elements that are open,
innermost first, the formatting that is to be resumed, the rule book in force and what it returns
to. The operations here are the steps that the rule books share: opening and closing elements,
finding the place for new content, resuming formatting, and untangling formatting that overlaps with
blocks.
-/

namespace DegreeAudit.Html

inductive Mode where
  | initial
  | beforeHtml
  | beforeHead
  | inHead
  | afterHead
  | inBody
  | text
  | inTable
  | inTableText
  | inCaption
  | inColumnGroup
  | inTableBody
  | inRow
  | inCell
  | inSelect
  | inSelectInTable
  | inTemplate
  | afterBody
  | inFrameset
  | afterFrameset
  | afterAfterBody
  | afterAfterFrameset
deriving DecidableEq, Repr, Inhabited

/-- Formatting that is in force: an element and its tag, or a marker that hides what is before it.
-/
inductive Formatting where
  | marker
  | element (id : PartId) (tag : Tag)

def Formatting.isMarker : Formatting → Bool
  | marker => true
  | element _ _ => false

def Formatting.isFor (id : PartId) : Formatting → Bool
  | marker => false
  | element other _ => other == id

/-- The state of a page under construction. Lists of elements and formatting have the latest first.
-/
structure Construction where
  bench : Workbench
  openElements : List PartId
  formatting : List Formatting
  mode : Mode
  returnMode : Mode
  templateModes : List Mode
  head : Option PartId
  form : Option PartId
  framesetAllowed : Bool
  quirky : Bool
  fostering : Bool
  skipLineFeed : Bool
  pendingText : List Char
  textMode : TextMode

def Construction.start : Construction where
  bench := .empty
  openElements := []
  formatting := []
  mode := .initial
  returnMode := .initial
  templateModes := []
  head := none
  form := none
  framesetAllowed := true
  quirky := false
  fostering := false
  skipLineFeed := false
  pendingText := []
  textMode := .markup

/-- Work on a page. -/
abbrev Build := StateM Construction

/-- Whether a token is dealt with or has to be looked at again under the mode now in force. -/
inductive Outcome where
  | done
  | again
deriving DecidableEq

namespace Build

def done : Build Outcome := pure .done

def again (mode : Mode) : Build Outcome := do
  modify fun c => { c with mode }
  pure .again

def enter (mode : Mode) : Build Outcome := do
  modify fun c => { c with mode }
  pure .done

def elementAt (id : PartId) : Build Element := do return (← get).bench.elementAt id

def current : Build Element := do
  let c ← get
  return match c.openElements with
    | id :: _ => c.bench.elementAt id
    | [] => ⟨.html, "", []⟩

/-- Whether the innermost open element is one of these HTML elements. -/
def currentIs (names : List String) : Build Bool := do return (← current).isHtml names

def onBench (change : Workbench → Workbench) : Build Unit :=
  modify fun c => { c with bench := change c.bench }

def onOpen (change : List PartId → List PartId) : Build Unit :=
  modify fun c => { c with openElements := change c.openElements }

def onFormatting (change : List Formatting → List Formatting) : Build Unit :=
  modify fun c => { c with formatting := change c.formatting }

def pop : Build Unit := onOpen List.tail

/-- Leaves elements open from the first on that satisfies a condition. -/
def popTo (stop : Element → Bool) : Build Unit := do
  let bench := (← get).bench
  onOpen (·.dropWhile fun id => !stop (bench.elementAt id))

/-- Closes elements up to and including the first that satisfies a condition. -/
def popPast (stop : Element → Bool) : Build Unit := do
  popTo stop
  pop

def popNamed (name : String) : Build Unit := popPast (·.isHtml [name])

/-- Whether some open element satisfies a condition before a boundary is met. -/
def inScope (boundary : Element → Bool) (target : PartId → Element → Bool) : Build Bool := do
  let c ← get
  let outside := c.openElements.dropWhile fun id =>
    !target id (c.bench.elementAt id) && !boundary (c.bench.elementAt id)
  return outside.head?.any fun id => target id (c.bench.elementAt id)

/-- Whether one of these HTML elements is open before a boundary is met. -/
def namedInScope (boundary : Element → Bool) (names : List String) : Build Bool :=
  inScope boundary fun _ e => e.isHtml names

/-- Whether an HTML element of the name is open at all. -/
def isOpen (name : String) : Build Bool := do
  let c ← get
  return c.openElements.any fun id => (c.bench.elementAt id).isHtml [name]

/-- Closes elements that may be left open, except those of one name. -/
def closeImplied (names : List String) (except : String) : Build Unit :=
  popTo fun e => !e.isHtml names || e.isHtml [except]

def closeImpliedHere : Build Unit := closeImplied TagGroup.impliedEnd ""

def closeParagraph : Build Unit := do
  closeImplied TagGroup.impliedEnd "p"
  popNamed "p"

/-- Closes a paragraph that is open inside the nearest button. -/
def closeParagraphInButton : Build Unit := do
  if ← namedInScope TagGroup.button ["p"] then closeParagraph

inductive Place where
  | inside (holder : PartId)
  | beside (table outer : PartId)

/-- The place in front of the innermost table, or inside a template that is nearer. -/
def fosterPlace (bench : Workbench) : List PartId → Place
  | [] => .inside 0
  | [root] => .inside (bench.contentHolder root)
  | id :: outer :: rest =>
    if (bench.elementAt id).isHtml ["template"] then .inside (bench.contentHolder id)
    else if (bench.elementAt id).isHtml ["table"] then .beside id outer
    else fosterPlace bench (outer :: rest)

/-- The place for content that would go into a target: its end, unless it is part of a table that
does not take it. -/
def placeIn (target : PartId) : Build Place := do
  let c ← get
  if c.fostering && (c.bench.elementAt target).isHtml TagGroup.fosterTargets then
    return fosterPlace c.bench c.openElements
  else return .inside (c.bench.contentHolder target)

def place : Build Place := do
  match (← get).openElements with
  | id :: _ => placeIn id
  | [] => return .inside 0

def putAt (place : Place) (id : PartId) : Build Unit :=
  onBench fun w =>
    match place with
    | .inside holder => w.append holder id
    | .beside table outer =>
      if (w.parent? table).isSome then w.insertBefore table id else w.append outer id

def appendText (ch : Char) : Build Unit := do
  let place ← place
  onBench fun w =>
    match place with
    | .inside holder => w.appendChar holder ch
    | .beside table outer =>
      if (w.parent? table).isSome then w.insertCharBefore table ch else w.appendChar outer ch

def appendComment : Build Unit := do
  let id := (← get).bench.fresh
  onBench (·.add .comment)
  putAt (← place) id

def appendCommentTo (holder : PartId) : Build Unit := do
  let id := (← get).bench.fresh
  onBench fun w => (w.add .comment).append holder id

/-- Lays an element on the bench without putting it anywhere. -/
def createElement (e : Element) : Build PartId := do
  let id := (← get).bench.fresh
  onBench (·.addElement e)
  return id

def insertElement (e : Element) : Build PartId := do
  let place ← place
  let id ← createElement e
  putAt place id
  return id

/-- Puts the HTML element of a tag where content comes next and opens it. -/
def openTag (tag : Tag) : Build PartId := do
  let id ← insertElement ⟨.html, tag.name, tag.attributes⟩
  onOpen (id :: ·)
  return id

/-- Opens an HTML element that the page leaves out. -/
def openImplied (name : String) : Build PartId := openTag ⟨name, [], false⟩

/-- Puts the HTML element of a tag where content comes next; it holds nothing. -/
def insertVoid (tag : Tag) : Build Outcome := do
  discard <| insertElement ⟨.html, tag.name, tag.attributes⟩
  done

/-- Opens the element of a tag whose text is read in a mode of its own. -/
def openText (tag : Tag) (textMode : TextMode) : Build Outcome := do
  discard <| openTag tag
  modify fun c => { c with textMode, returnMode := c.mode, mode := .text }
  done

def forbidFrameset : Build Unit := modify fun c => { c with framesetAllowed := false }

def addMissingAttributes (id : PartId) (attributes : List (String × String)) : Build Unit :=
  onBench fun w => w.update id fun slot =>
    match slot with
    | ⟨.element e, parent, children⟩ =>
      let missing := attributes.filter fun given => !e.attributes.any (·.1 == given.1)
      ⟨.element { e with attributes := e.attributes ++ missing }, parent, children⟩
    | slot => slot

/-- The formatting that no marker hides. -/
def visibleFormatting : Build (List Formatting) := do
  return (← get).formatting.takeWhile (!·.isMarker)

def forgetFormatting (id : PartId) : Build Unit := onFormatting (·.filter (!·.isFor id))

def clearFormatting : Build Unit :=
  onFormatting fun entries => (entries.dropWhile (!·.isMarker)).tail

/-- Hides the formatting in force from what is opened now. -/
def hideFormatting : Build Unit := onFormatting (.marker :: ·)

/-- Opens one more element for each entry, earliest first, and answers the new entries, latest
first. -/
def reopen : List Formatting → List Formatting → Build (List Formatting)
  | [], reopened => return reopened
  | .marker :: rest, reopened => reopen rest reopened
  | .element _ tag :: rest, reopened => do
    let id ← openTag tag
    reopen rest (.element id tag :: reopened)

/-- Resumes formatting that was closed with the element around it. -/
def resumeFormatting : Build Unit := do
  let c ← get
  let closed : Formatting → Bool
    | .marker => false
    | .element id _ => !c.openElements.contains id
  let reopened ← reopen (c.formatting.takeWhile closed).reverse []
  modify fun c' => { c' with formatting := reopened ++ c.formatting.dropWhile closed }

def sameTag (tag : Tag) : Formatting → Bool
  | .marker => false
  | .element _ other =>
    other.name == tag.name && other.attributes.length == tag.attributes.length &&
      tag.attributes.all other.attributes.contains

/-- Opens a formatting element; of more than three alike the earliest is forgotten. -/
def openFormatting (tag : Tag) : Build Outcome := do
  let alike := (← visibleFormatting).filter (sameTag tag)
  if 3 ≤ alike.length then
    match alike.getLast? with
    | some (.element id _) => forgetFormatting id
    | _ => pure ()
  let id ← openTag tag
  onFormatting (.element id tag :: ·)
  done

/-- Closes the nearest element of an end tag's name, unless an element with rules of its own is
nearer. -/
def closeOrdinary (name : String) : Build Unit := do
  let c ← get
  let rest := c.openElements.dropWhile fun id =>
    let e := c.bench.elementAt id
    !e.isHtml [name] && !TagGroup.isSpecial e
  match rest with
  | id :: outer => if (c.bench.elementAt id).isHtml [name] then onOpen fun _ => outer
  | [] => pure ()

/-- What is carried along while the elements between a formatting element and a block are gone
through: the outermost part so far, the elements that stay open, and the copy after which the
formatting resumes. -/
structure Untangling where
  last : PartId
  kept : List PartId
  resumeAfter : Option PartId

/-- Copies the elements between a formatting element and a block, innermost first, each around the
one before; beyond the third, and without formatting, they are only closed. -/
def copyBetween : List PartId → (count : Nat) → Untangling → Build Untangling
  | [], _, u => return u
  | id :: rest, count, u => do
    let entry := (← get).formatting.find? (·.isFor id)
    match entry with
    | some (.element _ tag) =>
      if 3 < count then
        forgetFormatting id
        copyBetween rest (count + 1) u
      else
        let copy ← createElement ⟨.html, tag.name, tag.attributes⟩
        onFormatting (·.map fun e => if e.isFor id then .element copy tag else e)
        onBench (·.append copy u.last)
        let resumeAfter := match u.resumeAfter with
          | none => some copy
          | some earlier => some earlier
        copyBetween rest (count + 1) ⟨copy, u.kept ++ [copy], resumeAfter⟩
    | _ => copyBetween rest (count + 1) u

/-- Replaces a formatting entry, or moves it to just after the entry of another element. -/
def placeEntry (id : PartId) (entry : Formatting) (resumeAfter : Option PartId)
    (entries : List Formatting) : List Formatting :=
  match resumeAfter with
  | none => entries.map fun e => if e.isFor id then entry else e
  | some other =>
    (entries.flatMap fun e => if e.isFor other then [entry, e] else [e]).filter (!·.isFor id)

/-- One round of untangling a formatting element from the blocks inside it; answers whether another
may be needed. -/
def untangleOnce (name : String) : Build Bool := do
  let found := (← visibleFormatting).find? fun
    | .element _ tag => tag.name == name
    | .marker => false
  match found with
  | some (.element id tag) =>
    let c ← get
    let inner := c.openElements.takeWhile (· != id)
    match c.openElements.dropWhile (· != id) with
    | [] =>
      forgetFormatting id
      return false
    | _ :: outer =>
      if !(← inScope TagGroup.ordinary fun other _ => other == id) then return false
      let isBlock (other : PartId) := TagGroup.isSpecial (c.bench.elementAt other)
      match inner.reverse.find? isBlock with
      | none =>
        onOpen fun _ => outer
        forgetFormatting id
        return false
      | some block =>
        let deeper := inner.takeWhile (· != block)
        let between := (inner.dropWhile (· != block)).tail
        let u ← copyBetween between 1 ⟨block, [], none⟩
        onBench (·.detach u.last)
        putAt (← placeIn (outer.head?.getD 0)) u.last
        let copy ← createElement ⟨.html, tag.name, tag.attributes⟩
        onBench fun w => (w.moveChildren block copy).append block copy
        onFormatting (placeEntry id (.element copy tag) u.resumeAfter)
        onOpen fun _ => deeper ++ copy :: block :: u.kept ++ outer
        return true
  | _ =>
    closeOrdinary name
    return false

/-- Untangles a formatting element in at most the given number of rounds. -/
def untangleRounds (name : String) : (rounds : Nat) → Build Unit
  | 0 => pure ()
  | rounds + 1 => do if ← untangleOnce name then untangleRounds name rounds

/-- Closes a formatting element, splitting it where it overlaps with blocks. -/
def untangle (name : String) : Build Unit := do
  let c ← get
  match c.openElements with
  | id :: _ =>
    if (c.bench.elementAt id).isHtml [name] && !c.formatting.any (·.isFor id) then pop
    else untangleRounds name 8
  | [] => untangleRounds name 8

/-- The mode for the elements that are open, given innermost first. -/
def modeFor (c : Construction) : List PartId → Mode
  | [] => .inBody
  | id :: outer =>
    let e := c.bench.elementAt id
    let last := outer.isEmpty
    if e.vocabulary != .html then modeFor c outer
    else
      match e.name with
      | "select" =>
        let around := outer.find? fun id => (c.bench.elementAt id).isHtml ["template", "table"]
        if around.any fun id => (c.bench.elementAt id).isHtml ["table"] then .inSelectInTable
        else .inSelect
      | "td" | "th" => if last then modeFor c outer else .inCell
      | "tr" => .inRow
      | "tbody" | "thead" | "tfoot" => .inTableBody
      | "caption" => .inCaption
      | "colgroup" => .inColumnGroup
      | "table" => .inTable
      | "template" => c.templateModes.head?.getD .inBody
      | "head" => if last then modeFor c outer else .inHead
      | "body" => .inBody
      | "frameset" => .inFrameset
      | "html" => if c.head.isSome then .afterHead else .beforeHead
      | _ => modeFor c outer

def fittingMode : Build Mode := do
  let c ← get
  return modeFor c c.openElements

end Build

end DegreeAudit.Html
