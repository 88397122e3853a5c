import ClusterDeploy.Files.Disk
import ClusterDeploy.Files.Path
/-!
# A tree of files

Folders and files at absolute places, and the operations the program performs on them: reading,
creating folders, and replacing a file by way of a temporary one. The disk may refuse each step that
the tree allows. There are no links, so a place has one name; paths that lead through a linked
folder, or to a linked file, are not covered.
-/
namespace ClusterDeploy

inductive FileNode where
  | folder
  | file (content : List UInt8)
  deriving DecidableEq, Repr

/-- What stands where. The root is always a folder, and the first entry for a place counts. -/
structure FileTree where
  entries : List (Place × FileNode) := []
  /-- The temporary files, the latest first: the folder of each and what it holds. Their names are
  random, so no path leads to one. -/
  temporaries : List (Place × List UInt8) := []
  /-- The folder that relative paths start from. -/
  home : Place := []
  deriving Repr

namespace FileTree

def node? (t : FileTree) (p : Place) : Option FileNode :=
  if p = [] then some .folder else (t.entries.find? fun e => e.1 == p).map (·.2)

def put (t : FileTree) (p : Place) (n : FileNode) : FileTree :=
  { t with entries := (p, n) :: t.entries.filter fun e => e.1 != p }

/-- Walks down from a place. Every component but the last must be a folder that exists. -/
def walk (t : FileTree) : Place → List String → Except IoFault Place
  | at_, [] => .ok at_
  | at_, name :: more =>
    match t.node? at_ with
    | none => .error .notFound
    | some (.file _) => .error .notADirectory
    | some .folder => t.walk (if name = ".." then at_.dropLast else at_ ++ [name]) more

/-- The place a path leads to, whether something stands there or not. -/
def locate (t : FileTree) (path : String) : Except IoFault Place :=
  if path.isEmpty then .error .notFound
  else if path.toList.contains (Char.ofNat 0) then .error .invalidInput
  else t.walk (if Path.isAbsolute path then [] else t.home) (Path.components path)

def find (t : FileTree) (path : String) : Except IoFault (Place × FileNode) := do
  let p ← t.locate path
  match t.node? p with
  | none => .error .notFound
  | some .folder => .ok (p, .folder)
  | some (.file content) =>
    if Path.endsInFolder path then .error .notADirectory else .ok (p, .file content)

def exists? (t : FileTree) (path : String) : Bool := (t.find path).toOption.isSome

def isFolder (t : FileTree) (path : String) : Bool :=
  match t.find path with
  | .ok (_, .folder) => true
  | _ => false

def read (t : FileTree) (path : String) (disk : Disk := {}) : Except IoFault (List UInt8) := do
  match ← t.find path with
  | (_, .folder) => .error .isADirectory
  | (_, .file content) =>
    match disk.read with
    | some e => .error e
    | none => .ok content

def readText (t : FileTree) (path : String) : Except IoFault String := do
  match Text.decodeUtf8 (← t.read path) with
  | .ok cs => .ok (String.ofList cs)
  | .error _ => .error .invalidData

def createFolder (t : FileTree) (path : String) (disk : Disk := {}) : Except IoFault FileTree := do
  let p ← t.locate path
  match t.node? p with
  | some _ => .error .alreadyExists
  | none =>
    match t.node? p.dropLast with
    | some .folder =>
      match disk.folder p with
      | some e => .error e
      | none => .ok (t.put p .folder)
    | some (.file _) => .error .notADirectory
    | none => .error .notFound

def ensureFolder (t : FileTree) (path : String) (disk : Disk := {}) :
    Except (IoFault × FileTree) FileTree :=
  match t.createFolder path disk with
  | .ok t => .ok t
  | .error e => if t.isFolder path then .ok t else .error (e, t)

/-- Creates a folder and the folders above it. A failure leaves those that have been created. Each
call to itself goes to a shorter path, so as many levels as the path has characters suffice. -/
def createFoldersWithin : (levels : Nat) → FileTree → (path : String) → (disk : Disk := {}) →
    Except (IoFault × FileTree) FileTree
  | 0, t, _, _ => .error (.notFound, t)
  | levels + 1, t, path, disk =>
    if path.isEmpty then .ok t
    else
      match t.createFolder path disk, Path.parent? path with
      | .error .notFound, some above => do
        let t ← createFoldersWithin levels t above disk
        t.ensureFolder path disk
      | _, _ => t.ensureFolder path disk

def createFolders (t : FileTree) (path : String) (disk : Disk := {}) :
    Except (IoFault × FileTree) FileTree :=
  createFoldersWithin (path.length + 1) t path disk

/-- Where a file that is created or replaced at a path would stand. -/
def target (t : FileTree) (path : String) : Except IoFault Place := do
  let p ← t.locate path
  match t.node? p with
  | some .folder => .error .isADirectory
  | some (.file _) => if Path.endsInFolder path then .error .notADirectory else .ok p
  | none =>
    if Path.endsInFolder path then .error .notADirectory
    else
      match t.node? p.dropLast with
      | some .folder => .ok p
      | some (.file _) => .error .notADirectory
      | none => .error .notFound

/-- Opens a file for writing without touching what it holds, and creates it when it is missing. -/
def touch (t : FileTree) (path : String) (disk : Disk := {}) : Except IoFault FileTree := do
  let p ← t.target path
  match disk.opening with
  | some e => .error e
  | none =>
    match t.node? p with
    | none => .ok (t.put p (.file []))
    | some _ => .ok t

def createTemporary (t : FileTree) (folder : String) (disk : Disk) : Except IoFault FileTree := do
  match ← t.find folder with
  | (_, .file _) => .error .notADirectory
  | (p, .folder) =>
    match disk.temporary with
    | some e => .error e
    | none => .ok { t with temporaries := (p, []) :: t.temporaries }

/-- Adds to the latest temporary file. When that fails, some bytes may have got there. -/
def fillTemporary (t : FileTree) (content : List UInt8) (disk : Disk) :
    Except IoFault Unit × FileTree :=
  let holding (written : List UInt8) : FileTree :=
    { t with temporaries := t.temporaries.modifyHead fun file => (file.1, file.2 ++ written) }
  match disk.write with
  | some (count, e) => (.error e, holding (content.take count))
  | none => (.ok (), holding content)

/-- Moves the latest temporary file to where a path leads, over the file that stands there. -/
def persistTemporary (t : FileTree) (path : String) (disk : Disk) : Except IoFault FileTree := do
  let p ← t.target path
  match disk.rename, t.temporaries with
  | some e, _ => .error e
  | none, [] => .error .notFound
  | none, (_, content) :: others => .ok ({ t with temporaries := others }.put p (.file content))

/-- Removes the latest temporary file, or leaves it behind. -/
def dropTemporary (t : FileTree) (disk : Disk) : FileTree :=
  if disk.removal.isSome then t else { t with temporaries := t.temporaries.tail }

/-- Puts a complete new file in the place of the old one: its folder is created, and the content
goes into a temporary file there, which is moved to the place when it is complete. -/
def replace (t : FileTree) (path : String) (content : List UInt8) (disk : Disk := {}) :
    Except IoFault Unit × FileTree :=
  match t.createFolders (Path.folder path) disk with
  | .error (e, t) => (.error e, t)
  | .ok t =>
    match t.createTemporary (Path.folder path) disk with
    | .error e => (.error e, t)
    | .ok t =>
      match t.fillTemporary content disk with
      | (.error e, t) => (.error e, t.dropTemporary disk)
      | (.ok (), t) =>
        match t.persistTemporary path disk with
        | .error e => (.error e, t.dropTemporary disk)
        | .ok t => (.ok (), t)

end FileTree

end ClusterDeploy
