import DegreeAudit.Html.Workbench

/-!
# Groups of elements

The sets of HTML elements that the rules of page construction treat alike, and the boundaries at
which a search among the open elements stops.
-/

namespace DegreeAudit.Html.TagGroup

def headings : List String := ["h1", "h2", "h3", "h4", "h5", "h6"]

/-- Elements that belong into the head of a page wherever they stand. -/
def headContent : List String := [
  "base", "basefont", "bgsound", "link", "meta", "noframes", "script", "style", "template", "title"]

def blocks : List String := [
  "address", "article", "aside", "blockquote", "center", "details", "dialog", "dir", "div", "dl",
  "fieldset", "figcaption", "figure", "footer", "header", "hgroup", "main", "menu", "nav", "ol",
  "section", "summary", "ul"]

/-- Elements whose end tags close them as blocks. -/
def closedAsBlocks : List String := blocks ++ ["button", "listing", "pre"]

/-- Elements of formatting, links apart. -/
def formatting : List String := [
  "b", "big", "code", "em", "font", "i", "s", "small", "strike", "strong", "tt", "u"]

/-- Elements that formatting does not reach into. -/
def embedded : List String := ["applet", "marquee", "object"]

/-- Elements without content that stand among words. -/
def voidInline : List String := ["area", "br", "embed", "img", "keygen", "wbr", "input"]

/-- Parts of a table that stand for nothing outside one. -/
def tableParts : List String := [
  "caption", "col", "colgroup", "tbody", "td", "tfoot", "th", "thead", "tr"]

/-- Elements whose misplaced content goes in front of the table. -/
def fosterTargets : List String := ["table", "tbody", "tfoot", "thead", "tr"]

def impliedEnd : List String := [
  "dd", "dt", "li", "option", "optgroup", "p", "rb", "rp", "rt", "rtc"]

/-- Elements that may be left open where a template ends. -/
def thoroughImpliedEnd : List String := impliedEnd ++ [
  "caption", "colgroup", "tbody", "td", "tfoot", "th", "thead", "tr"]

/-- Elements with rules of their own, at which an unmatched end tag stops. -/
def special : List String := [
  "address", "applet", "area", "article", "aside", "base", "basefont", "bgsound", "blockquote",
  "body", "br", "button", "caption", "center", "col", "colgroup", "dd", "details", "dir", "div",
  "dl", "dt", "embed", "fieldset", "figcaption", "figure", "footer", "form", "frame", "frameset",
  "h1", "h2", "h3", "h4", "h5", "h6", "head", "header", "hgroup", "hr", "html", "iframe", "img",
  "input", "isindex", "li", "link", "listing", "main", "marquee", "menu", "meta", "nav", "noembed",
  "noframes", "noscript", "object", "ol", "p", "param", "plaintext", "pre", "script", "section",
  "select", "source", "style", "summary", "table", "tbody", "td", "template", "textarea", "tfoot",
  "th", "thead", "title", "tr", "track", "ul", "wbr", "xmp"]

/-- HTML elements that end foreign content. -/
def foreignBreakers : List String := [
  "b", "big", "blockquote", "body", "br", "center", "code", "dd", "div", "dl", "dt", "em", "embed",
  "h1", "h2", "h3", "h4", "h5", "h6", "head", "hr", "i", "img", "li", "listing", "menu", "meta",
  "nobr", "ol", "p", "pre", "ruby", "s", "small", "span", "strong", "strike", "sub", "sup",
  "table", "tt", "u", "ul", "var"]

def isSpecial (e : Element) : Bool := e.isHtml special || e.isTextPoint || e.isHtmlPoint

/-- The boundary of the ordinary scope. -/
def ordinary (e : Element) : Bool :=
  e.isHtml ["applet", "caption", "html", "table", "td", "th", "marquee", "object", "template"] ||
    e.isTextPoint || e.isHtmlPoint

def listItem (e : Element) : Bool := ordinary e || e.isHtml ["ol", "ul"]

/-- The boundary inside which a paragraph is looked for. -/
def button (e : Element) : Bool := ordinary e || e.isHtml ["button"]

def table (e : Element) : Bool := e.isHtml ["html", "table", "template"]

/-- The boundary inside which a selection is looked for: anything but options and their groups. -/
def select (e : Element) : Bool := !e.isHtml ["optgroup", "option"]

end DegreeAudit.Html.TagGroup
