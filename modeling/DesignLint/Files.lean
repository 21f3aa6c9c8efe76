import DesignLint.Fault

/-!
# Files

The files that are there, by path. They lie in one directory; that and the directories above it are
the only ones, there are no links, and a process always has its directory.
-/

namespace DesignLint

structure Files where
  /-- The steps to the directory of the files. -/
  root : List String
  /-- The bytes of each file, by its full path. -/
  contents : Keyed (List Nat)

namespace Files

/-! ## Paths -/

def parts (path : String) : List String := (path.toList.splitOn '/').map String.ofList

def stays (part : String) : Bool := part.isEmpty || part = "."

/-- The steps of a path, without those that stay or go back. -/
def steps (path : String) : List String := (parts path).foldl step []
where
  step (before : List String) (part : String) : List String :=
    if stays part then before
    else if part = ".." then before.dropLast
    else before ++ [part]

def fullPath (steps : List String) : String := "/" ++ "/".intercalate steps

def resolve (path : String) : String := fullPath (steps path)

/-- The most bytes of a step. -/
def nameLimit : Nat := 255

/-- A path has fewer bytes than this. -/
def pathLimit : Nat := 4096

/-- Whether a text holds the character that ends texts outside. -/
def holdsNull (s : String) : Bool := s.toList.contains '\x00'

/-! ## Looking up -/

inductive Entry
  | directory
  | file (bytes : List Nat)
  | nothing

def entry (f : Files) (steps : List String) : Entry :=
  match f.contents.get? (fullPath steps) with
  | some bytes => .file bytes
  | none => if steps.isPrefixOf f.root then .directory else .nothing

def lookUp (f : Files) (directory : List String) (name : String) : Except Obstacle Entry :=
  if nameLimit < name.utf8ByteSize then .error .longName else .ok (f.entry (directory ++ [name]))

/-- The directory that parts of a path lead to from another one. -/
def enter (f : Files) (directory : List String) : List String → Except Obstacle (List String)
  | [] => .ok directory
  | part :: rest =>
    if stays part then enter f directory rest
    else if part = ".." then enter f directory.dropLast rest
    else match f.lookUp directory part with
      | .ok .directory => enter f (directory ++ [part]) rest
      | .ok (.file _) => .error .underFile
      | .ok .nothing => .error .absent
      | .error cause => .error cause

/-! ## Reading and writing -/

def read (f : Files) (steps : List String) : Except Obstacle (List Nat) :=
  if pathLimit ≤ (fullPath steps).utf8ByteSize then .error .longName
  else match steps.getLast? with
    | none => .error .directory
    | some name => do
      match ← f.lookUp (← f.enter [] steps.dropLast) name with
      | .file bytes => .ok bytes
      | .directory => .error .directory
      | .nothing => .error .absent

/-- The steps to the file that a path names for writing. A path that ends in a slash names none, nor
does one whose last step stays or goes back. -/
def destination (f : Files) (path : String) : Except Obstacle (List String) :=
  let all := parts path
  let named := (all.reverse.dropWhile String.isEmpty).reverse
  if pathLimit ≤ path.utf8ByteSize then .error .longName
  else do
    let directory ← f.enter [] named.dropLast
    match named.getLast? with
    | none => .error .directory
    | some name =>
      if named.length < all.length || name = "." || name = ".." then .error .directory
      else match ← f.lookUp directory name with
        | .directory => .error .directory
        | _ => .ok (directory ++ [name])

def write (f : Files) (path : String) (bytes : List Nat) : Except Fault Files :=
  if holdsNull path then .error .innerNull
  else match f.destination path with
    | .ok steps => .ok { f with contents := f.contents.put (fullPath steps) bytes }
    | .error cause => .error (.file ⟨cause, path⟩)

end Files

end DesignLint
