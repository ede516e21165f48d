import RoleChain.Files

/-!
A tree of files, as a system that holds them. Everything stands under the names that lead to it from
the root. The working directory is among the temporary files, under a name that no path can spell;
of what is in the directories that every root holds only the null device is known.
-/
namespace RoleChain

/-- What stands at a name. A device takes what is written and keeps nothing. -/
inductive Entry where
  | file (content : List UInt8)
  | directory
  | device
  deriving DecidableEq

/-- Entries, each under the names that lead to it. -/
structure FileTree where
  entries : List (List String × Entry)

inductive PathError where
  | notFound
  | notDirectory
  | isDirectory
  | nameTooLong
  | alreadyExists
  deriving DecidableEq

def PathError.report (path : String) : PathError → SystemError
  | notFound => .notFound path
  | notDirectory => .atPath 20 "Not a directory" path
  | isDirectory => .atPath 21 "Is a directory" path
  | nameTooLong => .atPath 36 "File name too long" path
  | alreadyExists => .atPath 17 "File exists" path

namespace FileTree

/-- The names that lead to the working directory. -/
def here : List String := ["tmp", ""]

/-- The directories of a root, besides those on the way to what is known. -/
def standardNames : List String :=
  ["bin", "etc", "home", "lib", "mnt", "opt", "proc", "root", "run", "sbin", "srv", "sys", "usr",
    "var"]

def empty : FileTree where
  entries := [(["tmp"], .directory), (here, .directory), (["dev"], .directory),
      (["dev", "null"], .device)] ++ standardNames.map fun name => ([name], .directory)

def entry? (t : FileTree) (names : List String) : Option Entry :=
  if names.isEmpty then some .directory
  else (t.entries.find? (fun e => decide (e.1 = names))).map Prod.snd

def remove (t : FileTree) (names : List String) : FileTree :=
  ⟨t.entries.filter fun e => decide (e.1 ≠ names)⟩

def put (t : FileTree) (names : List String) (entry : Entry) : FileTree :=
  ⟨(names, entry) :: (t.remove names).entries⟩

def maxName : Nat := 255

/-- The length in bytes from which a path is too long. -/
def pathLimit : Nat := 4096

/-- The names that a name leads to from a directory. -/
def follow (names : List String) (name : String) : List String :=
  if name = ".." then names.dropLast else names ++ [name]

/-- Walks along names from where others lead to, through directories only. -/
def walk (t : FileTree) : List String → List String → Except PathError (List String)
  | reached, [] => .ok reached
  | reached, name :: rest =>
    match t.entry? reached with
    | none => .error .notFound
    | some .directory =>
      if maxName < name.utf8ByteSize then .error .nameTooLong
      else t.walk (follow reached name) rest
    | some _ => .error .notDirectory

/-- Where a path starts. -/
def origin (path : Path) : List String := if path.anchor = .here then here else []

def locate (t : FileTree) (path : Path) : Except PathError (List String) :=
  if pathLimit ≤ path.text.utf8ByteSize then .error .nameTooLong
  else t.walk (origin path) path.parts

def bytes (t : FileTree) (path : Path) : Except PathError (List UInt8) := do
  match t.entry? (← t.locate path) with
  | none => throw .notFound
  | some .directory => throw .isDirectory
  | some .device => return []
  | some (.file content) => return content

def files (t : FileTree) : Files :=
  ⟨fun path => (t.bytes path).mapError fun error => error.report path.text⟩

/-- The names at which a path may put a file: no directory stands there, and one above. -/
def place (t : FileTree) (path : Path) : Except PathError (List String × Option Entry) := do
  let names ← t.locate path
  match t.entry? names, t.entry? names.dropLast with
  | some .directory, _ => throw .isDirectory
  | entry, some .directory => return (names, entry)
  | _, none => throw .notFound
  | _, some _ => throw .notDirectory

/-- Writes a file in place of one that was there. -/
def write (t : FileTree) (path : Path) (content : List UInt8) : Except PathError FileTree := do
  match ← t.place path with
  | (_, some .device) => return t
  | (names, _) => return t.put names (.file content)

def removeFile (t : FileTree) (path : Path) : Except PathError FileTree := do
  match ← t.place path with
  | (_, none) => throw .notFound
  | (names, some _) => return t.remove names

/-- Makes the directories that names lead to from others; the last must not be there yet. -/
def makeFrom (t : FileTree) : List String → List String → Except PathError FileTree
  | _, [] => .error .alreadyExists
  | reached, name :: rest =>
    if maxName < name.utf8ByteSize then .error .nameTooLong
    else
      let names := follow reached name
      match t.entry? names with
      | some .directory => t.makeFrom names rest
      | some _ => .error (if rest.isEmpty then .alreadyExists else .notDirectory)
      | none =>
        let t := t.put names .directory
        if rest.isEmpty then .ok t else t.makeFrom names rest

/-- Makes a directory, and those above it that are not there. -/
def makeDirectory (t : FileTree) (path : Path) : Except PathError FileTree :=
  if pathLimit ≤ path.text.utf8ByteSize then .error .nameTooLong
  else t.makeFrom (origin path) path.parts

/-- Changes the tree at a path, which must be one that a system can be told. -/
def change (path : Path) (act : Except PathError FileTree) : Except Failure FileTree :=
  if '\x00' ∈ path.text.toList then .error .embeddedNul
  else act.mapError fun error => .system (error.report path.text)

end FileTree

end RoleChain
