/-!
# Words that choose

Some choices are made by a word out of a fixed few. What is told of a word that is none of them is
the same everywhere.
-/

namespace DegreeAudit.Text

def unknownWord : String := "Matching variant not found"

end DegreeAudit.Text
