import CrashReport.Console

/-!
# A model of the system

A system as the command sees it: a tree of files, what has been written to standard
output and standard error, and the commands that can be run. `World.platform` carries
out the operations of a platform on it.

* **`System`** — what the command cannot change. Any effect may be refused, be it for what the files
  are or for reasons of the system, such as a lack of rights or of room (`System.fault`);
* **`World`** — a system with what the command can change;
* **`Fault`** — a write that is refused may have been carried out in part. All other effects
  take place as a whole or not at all.
-/

namespace CrashReport

/-- A tree of files. A path that is listed, by its components, is a file with its text or a
directory; the root is a directory. -/
structure FileTree where
  entries : List (List String × Option String) := []
  deriving DecidableEq, Repr

namespace FileTree

/-- What stands at a path: nothing, a directory (`some none`), or a file with its text. -/
def node? (t : FileTree) (path : List String) : Option (Option String) :=
  if path = [] then some none
  else (t.entries.find? fun entry => entry.1 = path).map (·.2)

/-- The components of a path. -/
def components (path : String) : List String :=
  (path.toList.splitOn '/').map String.ofList

/-- A name of a file or directory has at most 255 octets. -/
def checkName (name : String) : Except FileError Unit := do
  if 255 < name.utf8ByteSize then throw .nameTooLong

/-- A path has something in it, and at most 4095 octets. -/
def checkPath (path : String) : Except FileError Unit := do
  if path.isEmpty then throw .missing
  if 4095 < path.utf8ByteSize then throw .nameTooLong

/-- There is a directory at a path. -/
def checkDirectory (t : FileTree) (path : List String) : Except FileError Unit :=
  match t.node? path with
  | none => throw .missing
  | some (some _) => throw .notDirectory
  | some none => return

/-- The path to which components lead from `done` on. All that stands before a component
must be a directory. -/
def follow (t : FileTree) : (done : List String) → List String → Except FileError (List String)
  | done, [] => return done
  | done, component :: rest => do
    t.checkDirectory done
    if component = "" ∨ component = "." then t.follow done rest
    else if component = ".." then t.follow done.dropLast rest
    else
      checkName component
      t.follow (done ++ [component]) rest

/-- The place of a path in the tree. -/
def resolve (t : FileTree) (path : String) : Except FileError (List String) := do
  checkPath path
  t.follow [] (components path)

/-- A name in a directory. A slash after it asks for a directory of the name. -/
structure Entry where
  directory : List String
  name : String
  slashed : Bool
  deriving DecidableEq, Repr

/-- The place of an entry. -/
def Entry.place (e : Entry) : List String := e.directory ++ [e.name]

/-- The entry to which a path leads. There is none for the root and for a path that ends in a
component that leads to a directory in any case. -/
def entry? (t : FileTree) (path : String) : Except FileError (Option Entry) := do
  checkPath path
  let bare := components (String.ofList (path.toList.reverse.dropWhile (· = '/')).reverse)
  let directory ← t.follow [] bare.dropLast
  t.checkDirectory directory
  match bare.getLastD "" with
  | "" => return none
  | "." => return none
  | ".." => return none
  | name => return some { directory, name, slashed := decide (path.toList.getLast? = some '/') }

/-- The place at which a file is made. -/
def placeToMake (t : FileTree) (path : String) : Except FileError (List String) := do
  match ← t.entry? path with
  | none => throw .isDirectory
  | some entry =>
    if entry.slashed then throw .isDirectory
    checkName entry.name
    if t.node? entry.place = some none then throw .isDirectory
    return entry.place

/-- The place at which a file is put that had another path. -/
def placeToPut (t : FileTree) (path : String) : Except FileError (List String) := do
  match ← t.entry? path with
  | none => throw .busy
  | some entry =>
    checkName entry.name
    if entry.slashed then throw .notDirectory
    if t.node? entry.place = some none then throw .isDirectory
    return entry.place

/-- The tree without what stands at a path. -/
def remove (t : FileTree) (path : List String) : FileTree :=
  ⟨t.entries.filter fun entry => entry.1 ≠ path⟩

/-- The tree with a file at a path. -/
def put (t : FileTree) (path : List String) (text : String) : FileTree :=
  match t.node? path with
  | none => ⟨t.entries ++ [(path, some text)]⟩
  | some _ => ⟨t.entries.map fun entry => if entry.1 = path then (path, some text) else entry⟩

/-- The text of a file. -/
def read (t : FileTree) (path : String) : Except OpenError String := do
  let place ← (t.resolve path).mapError OpenError.opening
  match t.node? place with
  | none => throw (.opening .missing)
  | some none => throw (.reading .isDirectory)
  | some (some text) => return text

end FileTree

/-- What a system is asked to do. A file is read, made, renamed or removed; a text is written at the
end of a file or of standard output, after what was written before, or to standard error. -/
inductive Effect where
  | load (path : String)
  | make (path : String)
  | move (source target : String)
  | remove (path : String)
  | add (path written text : String)
  | print (written text : String)
  | complain (text : String)
  deriving DecidableEq, Repr

/-- The refusal of an effect. Of a text to be written, the first `taken` characters have been
written all the same. -/
structure Fault where
  error : FileError
  taken : Nat := 0
  deriving DecidableEq, Repr

/-- What the command cannot change: what the tools do that can be run, the home directory of the
user, a name that no file has, where paths lead, the circumstances, and which effects are refused
that the files would allow. -/
structure System where
  tool : List String → Option ToolRun := fun _ => none
  home : Option String := none
  freshName : String := ".tmp"
  canonical : String → String := id
  fault : Effect → Option Fault := fun _ => none
  circumstances : HostFacts → Circumstances

/-- A system, with its files, what was written to standard output and standard error, and the
commands that were run. -/
structure World extends System where
  files : FileTree := {}
  out : String := ""
  err : String := ""
  ran : List (List String) := []

namespace Fault

/-- What has been written of a text. -/
def part (text : String) : Option Fault → String
  | none => text
  | some fault => String.ofList (text.toList.take fault.taken)

/-- What is said about an effect. -/
def answer : Option Fault → Except FileError Unit
  | none => .ok ()
  | some fault => .error fault.error

end Fault

namespace World

/-- Carries out work that answers for itself, unless the system refuses it. -/
def carryOut {α : Type} (w : World) (effect : Effect)
    (refused : FileError → α) (work : α × World) : α × World :=
  match w.fault effect with
  | some fault => (refused fault.error, w)
  | none => work

/-- Makes a file empty, or makes it. -/
def make (w : World) (path : String) : Except FileError Unit × World :=
  match w.files.placeToMake path with
  | .error e => (.error e, w)
  | .ok place => (.ok (), { w with files := w.files.put place "" })

/-- Writes a text at the end of a file, as far as the system takes it. -/
def append (w : World) (path text : String) : Except FileError Unit × World :=
  match w.files.placeToMake path with
  | .error e => (.error e, w)
  | .ok place =>
    let written := ((w.files.node? place).join).getD ""
    let fault := w.fault (.add path written text)
    (Fault.answer fault, { w with files := w.files.put place (written ++ Fault.part text fault) })

/-- Writes a text to standard output, as far as the system takes it. -/
def print (w : World) (text : String) : Except FileError Unit × World :=
  let fault := w.fault (.print w.out text)
  (Fault.answer fault, { w with out := w.out ++ Fault.part text fault })

/-- Writes a text to standard error, as far as the system takes it. -/
def complain (w : World) (text : String) : Except FileError Unit × World :=
  let fault := w.fault (.complain text)
  (Fault.answer fault, { w with err := w.err ++ Fault.part text fault })

/-- Gives a file another path. -/
def rename (w : World) (source target : String) : Except FileError Unit × World :=
  match w.files.resolve source, w.files.placeToPut target with
  | .error e, _ => (.error e, w)
  | .ok _, .error e => (.error e, w)
  | .ok source, .ok target =>
    match w.files.node? source with
    | some (some text) => (.ok (), { w with files := (w.files.remove source).put target text })
    | _ => (.error .missing, w)

/-- Removes a file. -/
def delete (w : World) (path : String) : Except FileError Unit × World :=
  match w.files.placeToMake path with
  | .error e => (.error e, w)
  | .ok place =>
    match w.files.node? place with
    | none => (.error .missing, w)
    | some _ => (.ok (), { w with files := w.files.remove place })

/-- The operations of the system. -/
def platform : Platform (StateM World) where
  home := fun w => (w.home, w)
  readFile := fun path w =>
    w.carryOut (.load path) (fun e => .error (.opening e)) (w.files.read path, w)
  createFile := fun path w => w.carryOut (.make path) .error (w.make path)
  appendFile := fun path text w => w.append path text
  freshName := fun w => (w.freshName, w)
  renameFile := fun source target w =>
    w.carryOut (.move source target) .error (w.rename source target)
  removeFile := fun path w => w.carryOut (.remove path) .error (w.delete path)
  writeOut := fun text w => w.print text
  writeError := fun text w => w.complain text
  runTool := fun words w =>
    match w.tool words with
    | some run => (some run, { w with ran := w.ran ++ [words] })
    | none => (none, w)
  canonical := fun path w => (w.canonical path, w)
  circumstances := fun facts w => (w.circumstances facts, w)

/-- The exit code of the command, and the system after it. -/
def runCommand (w : World) (arguments : List String) : Nat × World :=
  Console.run platform arguments w

end World

end CrashReport
