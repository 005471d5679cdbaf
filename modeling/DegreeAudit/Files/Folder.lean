/-!
# Folders

What a folder holds, at every depth: each place under it is empty, a file with a text, or a folder.
Places are lists of names, so that two paths to one place are told apart only where paths are read.
The one way to change a folder is `put`, which changes one place and no other.
-/

namespace DegreeAudit

/-- A place under a folder, by the names that lead to it. -/
abbrev Place := List String

inductive Entry where
  | file (text : String)
  | folder
deriving DecidableEq, Repr

/-- A folder, by what stands at the places under it. -/
structure Folder where
  entries : List (Place × Entry)
deriving DecidableEq, Repr

namespace Folder

def empty : Folder := ⟨[]⟩

def listed? (place : Place) : List (Place × Entry) → Option Entry
  | [] => none
  | old :: rest => if old.1 = place then some old.2 else listed? place rest

/-- Lists an entry for a place, in the stead of the one that was listed. -/
def list (place : Place) (entry : Entry) : List (Place × Entry) → List (Place × Entry)
  | [] => [(place, entry)]
  | old :: rest => if old.1 = place then (place, entry) :: rest else old :: list place entry rest

theorem listed?_list (place other : Place) (entry : Entry) (entries : List (Place × Entry)) :
    listed? other (list place entry entries) =
      if other = place then some entry else listed? other entries := by
  induction entries with
  | nil => grind [list, listed?]
  | cons old rest ih => grind [list, listed?]

/-- What stands at a place; the folder itself stands at the place without names. -/
def get? (f : Folder) (place : Place) : Option Entry :=
  if place.isEmpty then some .folder else listed? place f.entries

/-- Puts an entry at a place, in the stead of what stood there. -/
def put (f : Folder) (place : Place) (entry : Entry) : Folder := ⟨list place entry f.entries⟩

/-- After putting an entry, it stands at its place and every other place is as it was. -/
theorem get?_put {f : Folder} {place : Place} {entry : Entry} (h : place ≠ []) (other : Place) :
    (f.put place entry).get? other = if other = place then some entry else f.get? other := by
  unfold get? put
  by_cases hother : other = []
  · subst hother
    simp [Ne.symm h]
  · simp [hother, listed?_list]

end Folder

end DegreeAudit
