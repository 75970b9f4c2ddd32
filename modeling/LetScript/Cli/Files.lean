import LetScript.Text.Basic

/-!
# Files

The folder in which a command runs: a tree of files, addressed by paths.  A path is followed name
by name, so that it can fail half-way, and nothing is known of the folders around the tree except
that they are folders.
-/

namespace LetScript.Cli

/-- Why a path leads to no file that can be read. -/
inductive FileError where
  /-- A name on the path does not exist. -/
  | missing
  /-- A name on the path, but not the last one, is that of a file. -/
  | notFolder
  /-- The path leads to a folder. -/
  | folder
  /-- The path, or a name on it, is longer than a file system takes. -/
  | tooLong
  /-- The path holds a zero byte. -/
  | invalid
  /-- Another reason, in the words of the system, and whether the file had been opened by then. -/
  | system (opened : Bool) (reason : Text)
deriving DecidableEq

/-- Whether the file could be opened, but not read. -/
def FileError.opened : FileError → Bool
  | folder => true
  | system opened _ => opened
  | _ => false

/-- What is wrong, without the path. -/
def FileError.reason : FileError → Text
  | missing => "no such file or directory"
  | notFolder => "not a directory"
  | folder => "is a directory"
  | tooLong => "file name too long"
  | invalid => "invalid argument"
  | system _ reason => reason

/-- The full wording, for a given path. -/
def FileError.text (path : Text) (e : FileError) : Text :=
  (if e.opened then "read " else "open ") ++ path ++ ": " ++ e.reason

/-! ## Paths -/

/-- The byte between the names of a path. -/
def slash : UInt8 := 0x2F

/-- The pieces between slashes; `n` slashes make `n + 1` pieces. -/
def splitSlashes : List UInt8 → List (List UInt8)
  | [] => [[]]
  | b :: rest =>
    if b = slash then [] :: splitSlashes rest
    else
      match splitSlashes rest with
      | name :: names => (b :: name) :: names
      | [] => [[b]]

/-- The names on a path; two slashes have an empty name between them. -/
def pathNames (path : Text) : List Text := (splitSlashes path.bytes).map Text.mk

/-- Whether a name on a path stays where it is. -/
def staysHere (name : Text) : Bool := name.isEmpty || name = ("." : Text)

/-- Whether a path starts at the root of the file system and not in the current folder. -/
def isAbsolute (path : Text) : Bool := path.bytes.head? = some slash

/-! ## The tree -/

/-- A tree of files, each with the names that lead to it. -/
structure Files where
  /-- The names and the content of each file. -/
  entries : List (List Text × Text)

/-- Where a path has led so far. -/
inductive Place where
  /-- A folder of the tree, with the names that lead to it. -/
  | folder (names : List Text)
  /-- A file of the tree, with its content. -/
  | file (content : Text)
  /-- A folder around the tree. -/
  | outside
deriving DecidableEq

namespace Files

/-- The tree of files with these paths and contents. -/
def ofList (files : List (Text × Text)) : Files :=
  ⟨files.map fun (path, content) => ((pathNames path).filter (!staysHere ·), content)⟩

/-- The place at the end of these names, if there is one. -/
def find (fs : Files) (names : List Text) : Except FileError Place :=
  match fs.entries.lookup names with
  | some content => .ok (.file content)
  | none =>
    if fs.entries.any fun e => names.isPrefixOf e.1 then .ok (.folder names) else .error .missing

/-- Go on from a place by one name of a path. -/
def follow (fs : Files) (place : Place) (name : Text) : Except FileError Place :=
  match place with
  | .file _ => .error .notFolder
  | .folder names =>
    if staysHere name then .ok place
    else if name = (".." : Text) then .ok (if names.isEmpty then .outside else .folder names.dropLast)
    else if name.size > 255 then .error .tooLong
    else fs.find (names ++ [name])
  | .outside =>
    if staysHere name || name = (".." : Text) then .ok .outside
    else if name.size > 255 then .error .tooLong
    else .error .missing

/-- The content of the file to which a path leads. -/
def read (fs : Files) (path : Text) : Except FileError Text :=
  if path.bytes.contains 0 then .error .invalid
  else if path.isEmpty then .error .missing
  else if path.size > 4095 then .error .tooLong
  else do
    let start := if isAbsolute path then Place.outside else Place.folder []
    match ← (pathNames path).foldlM fs.follow start with
    | .file content => .ok content
    | _ => .error .folder

end Files

end LetScript.Cli
