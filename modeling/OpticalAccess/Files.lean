import OpticalAccess.Frame

/-!
# Files

The files that a node finds in its working directory. A path is looked up component by component;
names of files may themselves have directories in them.
-/

namespace OpticalAccess

inductive FileError where
  | notFound
  | notDirectory
  | isDirectory
  | nameTooLong
  | nulByte
  | notText
  | other (reason : String)
  deriving DecidableEq, Repr

def FileError.message : FileError → String
  | notFound => "No such file or directory (os error 2)"
  | notDirectory => "Not a directory (os error 20)"
  | isDirectory => "Is a directory (os error 21)"
  | nameTooLong => "File name too long (os error 36)"
  | nulByte => "file name contained an unexpected NUL byte"
  | notText => "stream did not contain valid UTF-8"
  | other reason => reason

structure Files where
  entries : List (String × Bytes)

namespace Files

inductive Entry where
  | outside
  | directory (path : List String)
  | file (content : Bytes)

/-- The components of a name, without those that stand for the directory itself. -/
def components (path : String) : List String :=
  (path.splitOn "/").filter fun part => part ≠ "" ∧ part ≠ "."

def maxName : Nat := 255

def maxPath : Nat := 4095

def enter (files : Files) (directory : List String) (name : String) : Except FileError Entry :=
  if name = ".." then
    .ok (if directory.isEmpty then .outside else .directory directory.dropLast)
  else if maxName < name.utf8ByteSize then .error .nameTooLong
  else
    let path := directory ++ [name]
    match files.entries.find? fun e => components e.1 = path with
    | some (_, content) => .ok (.file content)
    | none =>
      if files.entries.any fun e => path.isPrefixOf (components e.1) then .ok (.directory path)
      else .error .notFound

def walk (files : Files) : Entry → List String → Except FileError Entry
  | entry, [] => .ok entry
  | .file _, _ :: _ => .error .notDirectory
  | .outside, name :: rest => if name = ".." then files.walk .outside rest else .error .notFound
  | .directory path, name :: rest => do walk files (← files.enter path name) rest

def find (files : Files) (path : String) : Except FileError Entry :=
  if path.contains '\x00' then .error .nulByte
  else if path.isEmpty then .error .notFound
  else if maxPath < path.utf8ByteSize then .error .nameTooLong
  else do
    let root : Entry := if path.startsWith "/" then .outside else .directory []
    match ← files.walk root (components path) with
    | .file content =>
      let parts := path.splitOn "/"
      if parts.getLast? = some "" ∨ parts.getLast? = some "." then .error .notDirectory
      else .ok (.file content)
    | directory => .ok directory

def readText (files : Files) (path : String) : Except FileError String := do
  match ← files.find path with
  | .outside | .directory _ => throw .isDirectory
  | .file content =>
    match String.fromUTF8? content.toByteArray with
    | some s => return s
    | none => throw .notText

end Files
end OpticalAccess
