import DegreeAudit.Html.Node
import DegreeAudit.Text.Blank

/-!
# Labels

What a reader sees of a part of a page: its texts without the blanks around them, those that are
blank left out, joined by single spaces. Words keep their order, and none is lost or run into its
neighbour.
-/

namespace DegreeAudit

/-- The texts that are not blank, trimmed and joined by spaces. -/
def labelOfTexts (texts : List (List Char)) : List Char :=
  Text.joinSpaced ((texts.map Text.trim).filter (!·.isEmpty))

def Html.Node.label (node : Html.Node) : String :=
  String.ofList (labelOfTexts (node.texts.map String.toList))

end DegreeAudit
