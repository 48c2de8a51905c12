import Cosmac.Text.Quoted
import Cosmac.Text.Utf8

/-!
# Files

A directory tree as a list of named entries, and the paths into it. `Files.read` and
`Files.checkWritable` fail as a file system does, and `FileError.message` words the failure.
-/

set_option autoImplicit false

namespace Cosmac

/-! ### Paths -/

/-- Where a path starts. -/
inductive PathStart where
  /-- At the current directory. -/
  | here
  /-- At the root. -/
  | root
  /-- At the root, which two slashes name as well and which is then shown with both. -/
  | doubleRoot
  deriving DecidableEq, Repr

namespace PathStart

/-- Where a text starts as a path. Three and more slashes are as good as one. -/
def ofChars : List Char → PathStart
  | '/' :: '/' :: '/' :: _ => root
  | '/' :: '/' :: _ => doubleRoot
  | '/' :: _ => root
  | _ => here

/-- The slashes of a start. -/
def toText : PathStart → String
  | here => ""
  | root => "/"
  | doubleRoot => "//"

end PathStart

/-- A path: where it starts and its components. -/
structure Path where
  /-- Where the path starts. -/
  start : PathStart
  /-- The names from the first directory to the last. -/
  parts : List String
  deriving DecidableEq, Repr

namespace Path

/-- Reads a path. Empty components and single points mean nothing. -/
def ofString (text : String) : Path :=
  ⟨.ofChars text.toList, (text.splitOn "/").filter fun part ↦ part ≠ "" ∧ part ≠ "."⟩

/-- The text of a path; the empty path is a single point. -/
def toText (path : Path) : String :=
  if path.start = .here ∧ path.parts.isEmpty then "."
  else path.start.toText ++ "/".intercalate path.parts

end Path

/-! ### Sizes -/

/-- Whether a surrogate without a partner stands for a single byte of a name. -/
def standsForByte (unit : Nat) : Bool :=
  0xDC80 ≤ unit && unit ≤ 0xDCFF

/-- The number of bytes of a name. -/
def byteCount (text : String) : Nat :=
  ((Text.symbols text.toList).map fun
    | .char c => c.utf8Size
    | .surrogate _ => 1).foldr (· + ·) 0

/-- The size of the longest name of a directory's entry, in bytes. -/
def maxNameSize : Nat := 255

/-- The size of the longest path, in bytes. -/
def maxPathSize : Nat := 4095

/-! ### Failures -/

/-- Why a file cannot be read or written. -/
inductive FileFailure where
  | notFound
  | notADirectory
  | isADirectory
  /-- The path or one of its names is too long. -/
  | nameTooLong
  /-- The path holds a NUL character, which no file name does. -/
  | nulCharacter
  /-- The path holds a surrogate, which no bytes stand for. -/
  | unencodable (cause : Text.SurrogateError)
  deriving DecidableEq, Repr

/-- A failure together with the path, as it was given. -/
structure FileError where
  /-- What went wrong. -/
  failure : FileFailure
  /-- The path as it was given. -/
  path : String
  deriving DecidableEq, Repr

/-- The wording of a file error. -/
def FileError.message (e : FileError) : String :=
  match e.failure with
  | .notFound => "[Errno 2] No such file or directory: " ++ Text.quoted e.path
  | .notADirectory => "[Errno 20] Not a directory: " ++ Text.quoted e.path
  | .isADirectory => "[Errno 21] Is a directory: " ++ Text.quoted e.path
  | .nameTooLong => "[Errno 36] File name too long: " ++ Text.quoted e.path
  | .nulCharacter => "embedded null byte"
  | .unencodable cause => cause.message

/-- Whether a text is no path at all, whatever files there are. -/
def FileFailure.isMisuse : FileFailure → Bool
  | nulCharacter | unencodable _ => true
  | notFound | notADirectory | isADirectory | nameTooLong => false

/-! ### Directory trees -/

/-- What a name in a directory stands for. -/
inductive FileEntry where
  | file (bytes : Array UInt8)
  | directory
  deriving DecidableEq, Repr

/-- A tree of files and the directory from which relative paths start. -/
structure Files where
  /-- The names that lead from the root to the current directory. -/
  current : List String
  /-- The entries, each under the names that lead to it from the root, the latest first. -/
  entries : List (List String × FileEntry)

/-- The result of following names through a tree. -/
inductive Walk where
  /-- The names lead to this entry. -/
  | found (entry : FileEntry)
  /-- The names lead to no entry. -/
  | missing
  /-- A file stands where a directory is needed. -/
  | blocked
  /-- A name is too long for any directory. -/
  | tooLong
  deriving DecidableEq, Repr

namespace Files

/-- The tree that holds nothing but the current directory. -/
def empty (current : List String) : Files :=
  ⟨current, []⟩

/-- The entry under the given names, if there is one. The root, the current directory, and whatever
holds an entry are directories without being listed. -/
def entryAt? (files : Files) (names : List String) : Option FileEntry :=
  match files.entries.find? fun entry ↦ entry.1 = names with
  | some entry => some entry.2
  | none =>
    if names.isPrefixOf files.current ∨
        files.entries.any (fun entry ↦ names.isPrefixOf entry.1) then
      some .directory
    else none

/-- Follows names from a directory, whose own names are given with the innermost first. The root is
its own parent. -/
def walk (files : Files) (here : List String) : List String → Walk
  | [] =>
    match files.entryAt? here.reverse with
    | some entry => .found entry
    | none => .missing
  | name :: rest =>
    match files.entryAt? here.reverse with
    | some .directory =>
      if maxNameSize < byteCount name then .tooLong
      else walk files (if name = ".." then here.drop 1 else name :: here) rest
    | some (.file _) => .blocked
    | none => .missing

/-- Where a path starts, the innermost name first. -/
def start (files : Files) (path : Path) : List String :=
  if path.start = .here then files.current.reverse else []

/-- What is wrong with a text as a path, whatever files there are. -/
def pathFlaw? (text : String) : Option FileFailure :=
  match Text.unencodable? standsForByte 0 (Text.symbols text.toList) with
  | some cause => some (.unencodable cause)
  | none =>
    if text.contains '\x00' then some .nulCharacter
    else if maxPathSize < byteCount text then some .nameTooLong
    else none

/-- Follows a text that is used as a path as it stands. The empty text leads nowhere, and a final
slash demands a directory. -/
def follow (files : Files) (text : String) : Walk :=
  let path := Path.ofString text
  if text = "" then .missing
  else
    match files.walk (files.start path) path.parts with
    | .found (.file bytes) =>
      if text.endsWith "/" ∨ text.endsWith "/." then .blocked else .found (.file bytes)
    | other => other

/-- The content of the file at a path. -/
def read (files : Files) (path : String) : Except FileError (Array UInt8) :=
  match pathFlaw? path with
  | some failure => .error ⟨failure, path⟩
  | none =>
    match files.follow path with
    | .found (.file bytes) => .ok bytes
    | .found .directory => .error ⟨.isADirectory, path⟩
    | .missing => .error ⟨.notFound, path⟩
    | .blocked => .error ⟨.notADirectory, path⟩
    | .tooLong => .error ⟨.nameTooLong, path⟩

/-- The names that a path stands for in a tree without links: two points take back a name. -/
def namesOf (files : Files) (path : Path) : List String :=
  (path.parts.foldl (fun here name ↦ if name = ".." then here.drop 1 else name :: here)
    (files.start path)).reverse

/-- The name of the entry of the current directory that a path names, unless there is one
already. -/
def newName? (files : Files) (path : Path) : Option String :=
  let names := files.namesOf path
  match names.getLast? with
  | some name =>
    if names.dropLast = files.current ∧ (files.entryAt? names).isNone then some name else none
  | none => none

/-- Stores an entry at a path. -/
def insert (files : Files) (path : Path) (entry : FileEntry) : Files :=
  let names := files.namesOf path
  { files with entries := (names, entry) :: files.entries.filter fun other ↦ other.1 ≠ names }

/-- Whether a file can be written at a path: its directory exists, and it is not itself one. -/
def checkWritable (files : Files) (text : String) : Except FileError Unit :=
  let path := Path.ofString text
  match pathFlaw? text with
  | some failure => .error ⟨failure, text⟩
  | none =>
    match files.follow text with
    | .found (.file _) => .ok ()
    | .found .directory => .error ⟨.isADirectory, text⟩
    | .blocked => .error ⟨.notADirectory, text⟩
    | .tooLong => .error ⟨.nameTooLong, text⟩
    | .missing =>
      match files.walk (files.start path) path.parts.dropLast with
      | .found .directory => .ok ()
      | _ => .error ⟨.notFound, text⟩

end Files

end Cosmac
