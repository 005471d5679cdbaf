import DegreeAudit.Files.Folder

/-!
# Writing by path

A path is read against a folder, name by name: `.` stays, `..` goes back, and every name but the
last must lead to a folder that is there. The folder is the top of what paths reach, so going back
from it stays in it. A path that ends in a slash, or in one of the two dotted names, means a folder.
`write` puts a text into the file that a path means and `make` a new folder; what fails leaves
everything as it was.
-/

namespace DegreeAudit.Folder

inductive Fault where
  | missing
  | taken
  | notFolder
  | isFolder
  | nameTooLong
  | nul
deriving DecidableEq, Repr

def Fault.message : Fault → String
  | missing => "No such file or directory (os error 2)"
  | taken => "File exists (os error 17)"
  | notFolder => "Not a directory (os error 20)"
  | isFolder => "Is a directory (os error 21)"
  | nameTooLong => "File name too long (os error 36)"
  | nul => "file name contained an unexpected NUL byte"

def maxName : Nat := 255

def maxPath : Nat := 4095

def names (path : String) : List String :=
  ((path.toList.splitOnP (· == '/')).filter (!·.isEmpty)).map String.ofList

/-- What stands under a name in the folder at a place. -/
def look (f : Folder) (place : Place) (name : String) : Except Fault (Option Entry) :=
  if maxName < name.utf8ByteSize then .error .nameTooLong else .ok (f.get? (place ++ [name]))

def enter (f : Folder) (place : Place) (name : String) : Except Fault Place :=
  if name = "." then .ok place
  else if name = ".." then .ok place.dropLast
  else
    (f.look place name).bind fun
      | none => .error .missing
      | some (.file _) => .error .notFolder
      | some .folder => .ok (place ++ [name])

/-- Goes through names one by one. -/
def walk (f : Folder) (place : Place) : List String → Except Fault Place
  | [] => .ok place
  | name :: rest => (f.enter place name).bind fun place => f.walk place rest

def endsInFolder (path : String) : Bool :=
  path.toList.getLast? == some '/' || [none, some ".", some ".."].contains (names path).getLast?

/-- The folder in which a path ends, and the name it has there, if the path is not too long. -/
def locate (f : Folder) (path : String) : Except Fault (Place × Option String) :=
  if path.toList.contains '\x00' then .error .nul
  else if path.isEmpty then .error .missing
  else if maxPath < path.utf8ByteSize then .error .nameTooLong
  else (f.walk [] (names path).dropLast).map fun place => (place, (names path).getLast?)

/-- Writes a text into the file that a path means, whatever it held before. -/
def write (f : Folder) (path text : String) : Except Fault Folder :=
  (f.locate path).bind fun
    | (place, some name) =>
      if endsInFolder path then .error .isFolder
      else
        (f.look place name).bind fun
          | some .folder => .error .isFolder
          | _ => .ok (f.put (place ++ [name]) (.file text))
    | (_, none) => .error .isFolder

def make (f : Folder) (path : String) : Except Fault Folder :=
  (f.locate path).bind fun
    | (place, some name) =>
      if name = "." ∨ name = ".." then .error .taken
      else
        (f.look place name).bind fun
          | some _ => .error .taken
          | none => .ok (f.put (place ++ [name]) .folder)
    | (_, none) => .error .taken

end DegreeAudit.Folder
