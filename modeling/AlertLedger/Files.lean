/-
# Files

What a run finds on the disk and what it leaves there: directories, files of bytes, and files that
hold a store. Every file is kept under the names that lead to it from the root, and a path is
followed name by name, through directories only.

What a path says about the directory above it is a matter of its text alone (`Files.above?`).
-/
import AlertLedger.Store.File
import AlertLedger.Store.Image
import AlertLedger.Text.Split

namespace AlertLedger

/-- Why a file cannot be read or a directory cannot be made. -/
inductive FileFault where
  | notFound
  | alreadyExists
  | notDirectory
  | isDirectory
  | notText
  | nameTooLong
  | zeroInName
deriving DecidableEq, Repr

/-- The wording of the fault. -/
def FileFault.message : FileFault → String
  | .notFound => "No such file or directory (os error 2)"
  | .alreadyExists => "File exists (os error 17)"
  | .notDirectory => "Not a directory (os error 20)"
  | .isDirectory => "Is a directory (os error 21)"
  | .notText => "stream did not contain valid UTF-8"
  | .nameTooLong => "File name too long (os error 36)"
  | .zeroInName => "file name contained an unexpected NUL byte"

/-- What lies at a place. -/
inductive FileNode where
  | directory
  | plain (bytes : List UInt8)
  | store (t : Tables)
deriving DecidableEq

/-- The files, and the names that lead from the root to the directory where relative paths
start. -/
structure Files where
  here : List String := []
  nodes : SortedMap String FileNode := .empty

namespace Files

/-- The slash between the names of a path. -/
def slash : Char := '/'

/-- A name has at most so many bytes. -/
def maxNameSize : Nat := 255

/-- A path has at most so many bytes. -/
def maxPathSize : Nat := 4095

/-! ## Paths -/

/-- Whether a part of a path at a position names nothing: empty parts do not, and a dot only at the
start of a path. -/
def isIdle (position : Nat) (part : String) : Bool :=
  part == "" || (part == "." && position > 0)

/-- Leaves out the parts at the end of a path that name nothing. -/
def trimParts (parts : List String) : List String :=
  ((parts.zipIdx.reverse.dropWhile fun (part, i) => isIdle i part).reverse).map (·.1)

/-- The path of the directory above, if there is one. That of a single name is empty. -/
def above? (path : String) : Option String :=
  match trimParts (Text.split slash path) with
  | [] => none
  | parts =>
    let rooted := path.startsWith "/"
    let rest := trimParts parts.dropLast
    some (if rest.isEmpty && rooted then "/" else Text.join slash rest)

/-- A path and those of the directories above it, at most as many as there is fuel. -/
def upwards : (fuel : Nat) → String → List String
  | 0, _ => []
  | fuel + 1, path =>
    if path.isEmpty then []
    else path :: match above? path with
      | some up => upwards fuel up
      | none => []

/-- The directories that lead to a path, from the nearest on. -/
def directoriesTo (path : String) : List String :=
  match above? path with
  | some up => upwards (Text.split slash up).length up
  | none => []

/-! ## Looking -/

/-- What lies at the end of a chain of names. The root is a directory. -/
def node? (f : Files) (names : List String) : Option FileNode :=
  if names.isEmpty then some .directory else f.nodes.find? (Text.join slash names)

/-- Follows parts of a path from a place. What has parts after it must be a directory. That a name
is too long shows when its turn comes. -/
def follow (f : Files) (names : List String) : List String → Except FileFault (List String)
  | [] => .ok names
  | part :: rest =>
    if part == "" || part == "." then follow f names rest
    else if part == ".." then follow f names.dropLast rest
    else
      let names := names ++ [part]
      if part.utf8ByteSize > maxNameSize then .error .nameTooLong
      else if rest.isEmpty then .ok names
      else match f.node? names with
        | some .directory => follow f names rest
        | some _ => .error .notDirectory
        | none => .error .notFound

/-- The names that lead from the root to where a path leads. -/
def locate (f : Files) (path : String) : Except FileFault (List String) :=
  if path.toList.any (·.toNat == 0) then .error .zeroInName
  else if path.utf8ByteSize > maxPathSize then .error .nameTooLong
  else if path.isEmpty then .error .notFound
  else f.follow (if path.startsWith "/" then [] else f.here) (Text.split slash path)

/-- What lies at the end of a path. -/
def look (f : Files) (path : String) : Except FileFault FileNode := do
  match f.node? (← f.locate path) with
  | some n => .ok n
  | none => .error .notFound

/-- Whether a path leads to a directory. -/
def isDirectory (f : Files) (path : String) : Bool :=
  match f.look path with
  | .ok .directory => true
  | _ => false

/-- The bytes in a file. Those of a store are its image. -/
def bytesOf : FileNode → Except FileFault (List UInt8)
  | .directory => .error .isDirectory
  | .plain bytes => .ok bytes
  | .store t => .ok t.image

/-- The text in the file at the end of a path. -/
def readText (f : Files) (path : String) : Except FileFault String := do
  match Text.decode? (← bytesOf (← f.look path)) with
  | some text => .ok text
  | none => .error .notText

/-! ## Changing -/

/-- The files with something at the end of a chain of names. -/
def place (f : Files) (names : List String) (n : FileNode) : Files :=
  { f with nodes := f.nodes.insert (Text.join slash names) n }

/-- Makes a directory at the end of a path, where there must be nothing. -/
def makeDirectory (f : Files) (path : String) : Except FileFault Files := do
  let names ← f.locate path
  match f.node? names with
  | none => .ok (f.place names .directory)
  | some _ => .error .alreadyExists

/-- Makes the directory at the end of the first of some paths, and before it, where they are
missing, those of the others. A directory that is there already will do. -/
def makeDirectories (f : Files) : (paths : List String) → Except FileFault Unit × Files
  | [] => (.ok (), f)
  | path :: above =>
    let settle (f : Files) (e : FileFault) :=
      (if f.isDirectory path then Except.ok () else Except.error e, f)
    match f.makeDirectory path with
    | .ok f => (.ok (), f)
    | .error .notFound =>
      match f.makeDirectories above with
      | (.error e, f) => (.error e, f)
      | (.ok (), f) =>
        match f.makeDirectory path with
        | .ok f => (.ok (), f)
        | .error e => settle f e
    | .error e => settle f e

/-! ## Stores -/

/-- What a store finds at the end of a path. A file without content is taken for a new one. -/
def storeFile (f : Files) (path : String) : StoreFile :=
  match f.locate path with
  | .error _ => .unusable
  | .ok names =>
    match f.node? names with
    | none => .absent
    | some .directory => .unusable
    | some (.plain bytes) => if bytes.isEmpty then .absent else .unusable
    | some (.store t) => .holding t

/-- The files with the tables of a store at the end of a path. -/
def putStore (f : Files) (path : String) (t : Tables) : Files :=
  match f.locate path with
  | .ok names => f.place names (.store t)
  | .error _ => f

end Files

end AlertLedger
