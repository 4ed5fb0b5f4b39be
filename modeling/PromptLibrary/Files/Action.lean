import PromptLibrary.Files.Tree
import PromptLibrary.Text.Quoted
/-!
# File operations

Looking up, reading, making directories and replacing a file. A file is replaced by way of a
temporary file beside it, so that it has its old or its new content and never a part.
-/

namespace PromptLibrary

/-- Why a file operation failed. -/
inductive FileCause where
  | notFound
  | busy
  | alreadyThere
  | notDirectory
  | isDirectory
  /-- The path or one of its components is too long. -/
  | nameTooLong
  /-- The path holds a null character, so that there is nothing to ask the operating system. -/
  | nullCharacter
  /-- No name is free for a temporary file. -/
  | noTemporaryName
  /-- A cause of the operating system by number and text. -/
  | other (number : Nat) (text : String)
  deriving DecidableEq, Repr

namespace FileCause

/-- The number by which the operating system tells of a cause. -/
def number? : FileCause → Option Nat
  | notFound => some 2
  | busy => some 16
  | alreadyThere => some 17
  | notDirectory => some 20
  | isDirectory => some 21
  | nameTooLong => some 36
  | nullCharacter => none
  | noTemporaryName => some 17
  | other n _ => some n

def text : FileCause → String
  | notFound => "No such file or directory"
  | busy => "Device or resource busy"
  | alreadyThere => "File exists"
  | notDirectory => "Not a directory"
  | isDirectory => "Is a directory"
  | nameTooLong => "File name too long"
  | nullCharacter => "embedded null byte"
  | noTemporaryName => "No usable temporary file name found"
  | other _ t => t

/-- The name under which a cause is reported. -/
def reportName : FileCause → String
  | notFound => "FileNotFoundError"
  | busy => "OSError"
  | alreadyThere => "FileExistsError"
  | notDirectory => "NotADirectoryError"
  | isDirectory => "IsADirectoryError"
  | nameTooLong => "OSError"
  | nullCharacter => "ValueError"
  | noTemporaryName => "FileExistsError"
  | other _ _ => "OSError"

end FileCause

/-- A failed file operation, with the one or two paths that it was about. -/
structure FileError where
  cause : FileCause
  paths : List String
  deriving DecidableEq, Repr

def FileError.message (e : FileError) : String :=
  match e.cause.number? with
  | none => e.cause.text
  | some number =>
    let quoted := e.paths.map fun p => Text.quotedString p.toList
    let about := if quoted = [] then "" else ": " ++ " -> ".intercalate quoted
    s!"[Errno {number}] {e.cause.text}" ++ about

/-- The most bytes that a component of a path may have. -/
def nameLimit : Nat := 255

/-- The most bytes that a path may have. -/
def pathLimit : Nat := 4095

/-- What keeps a path from leading anywhere, whatever files there are. -/
def Path.fault? (p : Path) : Option FileCause :=
  if '\x00' ∈ p.text.toList then some .nullCharacter
  else if pathLimit < p.text.utf8ByteSize then some .nameTooLong
  else none

namespace Tree

/-- The place that two dots lead to. Above the root there is the root itself. -/
def above (place : Place) : Place :=
  if place = ["/"] then place
  else if place = [] ∨ place.getLast? = some ".." then place ++ [".."]
  else place.dropLast

/-- The way along some components; each has to be looked up in a directory. -/
def walk (t : Tree) : Place → List String → Except FileCause Place
  | place, [] => .ok place
  | place, part :: rest =>
    match t.get? place with
    | none => .error .notFound
    | some (.file _) => .error .notDirectory
    | some .directory =>
      if nameLimit < part.utf8ByteSize then .error .nameTooLong
      else walk t (if part = ".." then above place else place ++ [part]) rest

/-- The place that a path leads to. Something has to be there on the way, but not at its end. -/
def place (t : Tree) (p : Path) : Except FileCause Place :=
  match p.fault? with
  | some c => .error c
  | none => t.walk (if p.root = "" then [] else ["/"]) p.parts

/-- What a path leads to. -/
def find (t : Tree) (p : Path) : Except FileCause Entry :=
  match t.place p with
  | .error c => .error c
  | .ok place =>
    match t.get? place with
    | none => .error .notFound
    | some e => .ok e

/-- Whether something is there. That a name is too long is a failure and no answer. -/
def isThere (t : Tree) (p : Path) : Except FileError Bool :=
  match t.find p with
  | .ok _ => .ok true
  | .error .nameTooLong => .error ⟨.nameTooLong, [p.text]⟩
  | .error _ => .ok false

def isDirectory (t : Tree) (p : Path) : Bool :=
  (t.find p).toOption = some .directory

/-- The content of a file. -/
def read (t : Tree) (p : Path) : Except FileError (List UInt8) :=
  match t.find p with
  | .ok (.file content) => .ok content
  | .ok .directory => .error ⟨.isDirectory, [p.text]⟩
  | .error c => .error ⟨c, [p.text]⟩

end Tree

/-- The steps that change files. -/
inductive FileStep where
  | makeDirectory (path : Path)
  | createTemporary
  | writeTemporary
  | replace
  deriving DecidableEq, Repr

/-- How changes to files go: which steps the system refuses, and how temporary files are called. -/
structure FileSystem where
  refuses : FileStep → Option FileCause := fun _ => none
  /-- The part of a temporary file's name that makes it new. -/
  token : String

/-- A change of files: a result or an error, and the tree afterwards in both cases. -/
abbrev FileAction (α : Type) := ExceptT FileError (StateM Tree) α

namespace FileSystem

/-- Fails if the system refuses a step. -/
def allow (fs : FileSystem) (step : FileStep) (paths : List String) : FileAction Unit :=
  match fs.refuses step with
  | none => pure ()
  | some c => throw ⟨c, paths⟩

/-- Makes one directory, of which the parent has to be there. -/
def makeDirectory (fs : FileSystem) (p : Path) : FileAction Unit := do
  fs.allow (.makeDirectory p) [p.text]
  let t ← get
  match t.place p with
  | .error c => throw ⟨c, [p.text]⟩
  | .ok place =>
    match t.get? place with
    | some _ => throw ⟨.alreadyThere, [p.text]⟩
    | none => set (t.set place .directory)

/-- Makes one directory, unless it is there. -/
def ensureDirectory (fs : FileSystem) (p : Path) : FileAction Unit := do
  try fs.makeDirectory p
  catch e =>
    let t ← get
    if e.cause ≠ .notFound ∧ t.isDirectory p then pure () else throw e

/-- Makes a directory and what is missing on the way to it. -/
def ensureDirectories (fs : FileSystem) (p : Path) : FileAction Unit :=
  if _h : p.parts = [] then fs.ensureDirectory p
  else do
    try fs.ensureDirectory p
    catch e =>
      if e.cause = .notFound then
        fs.ensureDirectories p.parent
        fs.ensureDirectory p
      else throw e
termination_by p.parts.length
decreasing_by
  have := List.length_pos_iff.2 ‹p.parts ≠ []›
  simp [Path.parent]; omega

/-- The temporary file beside a file. -/
def temporary (fs : FileSystem) (p : Path) : Path :=
  p.parent.child s!".{p.name}.{fs.token}.tmp"

/-- Moves a file to the path of another one, which it replaces. -/
def replace (fs : FileSystem) (source : Place) (p : Path) (content : List UInt8) :
    FileAction Unit := do
  let paths := [(fs.temporary p).normal.text, p.text]
  fs.allow .replace paths
  let t ← get
  if p.name = "" ∨ p.name = ".." then throw ⟨.busy, paths⟩
  match t.place p with
  | .error c => throw ⟨c, paths⟩
  | .ok place =>
    match t.get? place with
    | some .directory => throw ⟨.isDirectory, paths⟩
    | _ => set ((t.erase source).set place (.file content))

/-- Writes a whole file by way of a temporary one, which is gone afterwards. -/
def writeFile (fs : FileSystem) (p : Path) (content : List UInt8) : FileAction Unit := do
  fs.ensureDirectories p.parent
  let paths := [(fs.temporary p).normal.text]
  fs.allow .createTemporary paths
  match (← get).place (fs.temporary p) with
  | .error c => throw ⟨c, paths⟩
  | .ok source =>
    if ((← get).get? source).isSome then throw ⟨.noTemporaryName, []⟩
    modify fun t => t.set source (.file [])
    try
      fs.allow .writeTemporary []
      modify fun t => t.set source (.file content)
      fs.replace source p content
    catch e =>
      modify fun t => t.erase source
      throw e

end FileSystem

end PromptLibrary
