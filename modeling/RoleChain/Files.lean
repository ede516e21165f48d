import RoleChain.Failure
import RoleChain.Text.Lines

/-!
Paths and the files a run can read. A path is kept without empty and single-dot parts; double dots
stay. What stands at a path, and why nothing can be read there, is for the system to say.
-/
namespace RoleChain

/-- Where a path starts: at the working directory, at the root, or at the root that two slashes
name. -/
inductive Anchor where
  | here
  | root
  | doubleRoot
  deriving DecidableEq

structure Path where
  anchor : Anchor
  parts : List String
  deriving DecidableEq

namespace Path

/-- The pieces of a text between its slashes. -/
def pieces : List Char → List (List Char)
  | [] => [[]]
  | c :: rest =>
    if c = '/' then [] :: pieces rest
    else match pieces rest with
      | [] => [[c]]
      | piece :: more => (c :: piece) :: more

/-- Whether a piece of a path says nothing. -/
def isIdle (piece : String) : Bool := piece == "" || piece == "."

def anchorOf : List Char → Anchor
  | '/' :: '/' :: '/' :: _ => .root
  | '/' :: '/' :: _ => .doubleRoot
  | '/' :: _ => .root
  | _ => .here

def ofString (s : String) : Path where
  anchor := anchorOf s.toList
  parts := ((pieces s.toList).map String.ofList).filter fun piece => !isIdle piece

def text (p : Path) : String :=
  let body := "/".intercalate p.parts
  match p.anchor with
  | .here => if p.parts.isEmpty then "." else body
  | .root => "/" ++ body
  | .doubleRoot => "//" ++ body

def literal (p : Path) : String := "PosixPath(" ++ Text.quoted p.text ++ ")"

end Path

/-- Why a file could not be read: its path cannot be told to the system, or the system reports a
failure. -/
inductive FileError where
  | nul
  | system (error : SystemError)

/-- The files of a system at one moment: what a reader is given at each path, the bytes of the file
or the failure that the system reports. -/
structure Files where
  look : Path → Except SystemError (List UInt8)

namespace Files

def empty : Files := ⟨fun path => .error (.notFound path.text)⟩

def read (files : Files) (path : Path) : Except FileError (List UInt8) :=
  if '\x00' ∈ path.text.toList then .error .nul else (files.look path).mapError .system

end Files

namespace Text

/-- The text of a file: UTF-8 with every line end as a line feed. -/
def ofFile (content : List UInt8) : Except Utf8Refusal String :=
  (decodeUtf8 content).map fun chars => String.ofList (lineFeeds chars)

end Text

end RoleChain
