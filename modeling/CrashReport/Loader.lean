import CrashReport.Debugger
import CrashReport.Roster
import CrashReport.Text.Printable

/-!
# Loading images

Outside the most spacious tier, the images of a thread are loaded just before the
thread is looked at: those to which the program counters of its frames belong, each at
most once in a session, whether or not the load succeeds. What was loaded must carry
the build id that the roster expects. Images go by the canonical paths of their files
(`Roster.locate`).

* **`Failure`** — why no report is made of a session, with what is said about each cause to
  the caller and what is logged where it is found;
* **`Loader`** — the tier and what has been attempted and loaded so far;
* **`Loader.loadThread`** — loads what the frames of a thread need. The thread stays
  selected, at its newest frame.
-/

namespace CrashReport

/-- Why no report is made: a file was loaded that is not the one that is mapped, an image has no
build id that can be used, no thread is selected, or the debugger refused a request. -/
inductive Failure where
  | unexpectedImage (file expected : String) (found : Option String)
  | noBuildId (file : String) (buildId : Option String)
  | noCrashedThread
  | debugger (reason : DebuggerError)
  deriving DecidableEq, Repr

/-- What is said about a failure. -/
def Failure.message : Failure → String
  | .unexpectedImage file expected found =>
    "loading " ++ file ++ " mapped build id " ++ Text.quoteOption found ++
      ", expected " ++ expected
  | .noBuildId file _ => "module " ++ file ++ " has no usable build id"
  | .noCrashedThread => "no thread is selected, cannot tell which thread crashed"
  | .debugger reason => reason.message

/-- The name of a kind of failure, for a log. -/
def Failure.name : Failure → String
  | .unexpectedImage _ _ _ => "UnexpectedMapping"
  | .noBuildId _ _ => "MissingBuildId"
  | .noCrashedThread => "NoCrashedThread"
  | .debugger _ => "Inferior"

/-- What is logged where a failure is found. -/
def Failure.log : Failure → List String
  | .unexpectedImage file expected found =>
    ["resolver: " ++ file ++ " mapped " ++ Text.quoteOption found ++ ", expected " ++ expected]
  | .noBuildId file buildId =>
    ["processor: " ++ file ++ " has no usable build id (" ++ Text.quoteOption buildId ++ ")"]
  | .noCrashedThread => []
  | .debugger _ => []

/-- No more frames of a thread than this are looked at; a damaged stack can go on for
ever. -/
def frameLimit : Nat := 1024

/-- What has been loaded in a session: the files for which a load was asked, and those of them that
were loaded, the last one first. -/
structure Loader where
  tier : Tier
  attempted : List String := []
  loaded : List String := []
  deriving DecidableEq, Repr

namespace Loader

variable {σ : Type}

/-- A loader that has loaded nothing. Where the tier asks for it, the debugger is told not
to use the network. -/
def start (tier : Tier) (d : Debugger σ) (s : σ) : Loader × σ :=
  ({ tier }, if tier.downloads then s else d.allowDownloads false s)

/-- Two build ids are the same, whatever the case of their letters. -/
def sameBuildId (a b : String) : Bool :=
  a.toList.map Char.toLower = b.toList.map Char.toLower

/-- What was loaded is what the image should be. -/
def accepts (image : Image) (found : Option String) : Bool :=
  match image.buildId with
  | none => true
  | some expected => found.any fun found => sameBuildId found expected

/-- Loads an image unless that has been attempted. The answer says whether it was loaded,
and fails if it is not the expected one. -/
def loadImage (l : Loader) (d : Debugger σ) (image : Image) (s : σ) :
    Except Failure Bool × Loader × σ :=
  if image.file ∈ l.attempted then (.ok false, l, s)
  else
    let l := { l with attempted := image.file :: l.attempted }
    match d.perform (.load image.file image.base l.tier.detail) s with
    | (.error _, s) => (.ok false, l, s)
    | (.ok found, s) =>
      let l := { l with loaded := image.file :: l.loaded }
      if accepts image found then (.ok true, l, s)
      else
        (.error (.unexpectedImage image.file (image.buildId.getD "") found), l, s)

/-- Loads the images of the frames from a level on, at most `fuel` of them, and counts the
images that were loaded. It ends at the first frame that cannot be read. -/
def loadFrames (d : Debugger σ) (roster : Roster) :
    (fuel level : Nat) → Loader → σ → Except Failure Nat × Loader × σ
  | 0, _, l, s => (.ok 0, l, s)
  | fuel + 1, level, l, s =>
    match d.perform (.selectFrame level) s with
    | (.error _, s) => (.ok 0, l, s)
    | (.ok _, s) =>
      match d.perform .pc s with
      | (.error _, s) => (.ok 0, l, s)
      | (.ok pc, s) =>
        match roster.locate d pc s with
        | none => loadFrames d roster fuel (level + 1) l s
        | some image =>
          match l.loadImage d image s with
          | (.error failure, l, s) => (.error failure, l, s)
          | (.ok loaded, l, s) =>
            let (count, l, s) := loadFrames d roster fuel (level + 1) l s
            (count.map fun n => n + loaded.toNat, l, s)

/-- Loads the images that the frames of a thread belong to, and counts them. -/
def loadThread (l : Loader) (d : Debugger σ) (roster : Roster) (thread : Thread)
    (crashed : Bool) (s : σ) : Except Failure Nat × Loader × σ :=
  if l.tier.loads crashed then
    match d.perform (.switchThread thread.number) s with
    | (.error reason, s) => (.error (.debugger reason), l, s)
    | (.ok _, s) =>
      let ((count, l), s) := d.atNewestFrame
        (fun s =>
          let (count, l, s) := loadFrames d roster frameLimit 0 l s
          ((count, l), s)) s
      (count, l, s)
  else (.ok 0, l, s)

end Loader

end CrashReport
