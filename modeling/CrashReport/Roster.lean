import CrashReport.Debugger
import CrashReport.Image
import CrashReport.Listing
import CrashReport.Path
import CrashReport.Region

/-!
# The images of a session

A roster says which images a session has and which of them an address belongs to.
There are two kinds:

* that of a running process is made from its mappings, reading the build id at the
  start of each region (`Roster.ofProcess`). A file without one is left out if it is
  neither the program nor a library; one of those is kept, so that the report fails
  rather than lacks it. The debugger is asked first which library holds an address;
* that of a core image is what the listing tool says (`Roster.ofListing`).

An image is loaded and reported under the canonical path of its file (`Roster.locate`), which is
where its path leads when links are followed. Where paths lead is for the machine to say.
-/

namespace CrashReport

/-- The images of a session. Those of a running process are looked up by way of the debugger's
libraries. `canonical` gives the canonical path for each path. -/
structure Roster where
  images : ImageList := .empty
  live : Bool := false
  canonical : String → String := id

namespace Roster

/-- The images that the listing tool gives for a core image. -/
def ofListing (canonical : String → String) (text : String) : Roster :=
  { images := Listing.images text, canonical }

/-- The region is the program's, or a library. -/
def isCode (program : Option String) (path : String) : Bool :=
  program = some path || Path.isLibrary path

/-- The image of a region, or none if the region is a data file. -/
def imageOf? (program : Option String) (region : Region) (buildId : Option String) :
    Option Image :=
  if buildId.isNone && !isCode program region.path then none
  else some {
    file := region.path
    base := region.start
    limit := region.stop
    buildId := buildId
    hasDebugInfo := false }

variable {σ : Type}

/-- The images of the regions, a build id that cannot be read counting as none. -/
def readImages (d : Debugger σ) (program : Option String) :
    List Region → σ → List Image × σ
  | [], s => ([], s)
  | region :: rest, s =>
    let (buildId, s) := d.perform (.buildIdAt region.start) s
    let (images, s) := readImages d program rest s
    ((imageOf? program region (buildId.toOption.join)).toList ++ images, s)

/-- The roster of a running process; it is empty if the mappings cannot be read. -/
def ofProcess (d : Debugger σ) (canonical : String → String) (s : σ) : Roster × σ :=
  match d.perform .mappings s with
  | (.error _, s) => ({ live := true, canonical }, s)
  | (.ok report, s) =>
    let (images, s) := readImages d (d.programPath s) (Region.ofReport report) s
    ({ images := ImageList.ofList images, live := true, canonical }, s)

/-- The first image of a library, by its canonical path or else by the name that the debugger
has for it. -/
def library? (r : Roster) (name : String) : Option Image :=
  (r.images.named? (r.canonical name)).or (r.images.named? name)

/-- The image to which an address belongs. -/
def owner (r : Roster) (d : Debugger σ) (address : UInt64) (s : σ) : Option Image :=
  if r.live then ((d.libraryAt address s).bind r.library?).or (r.images.holding? address)
  else r.images.holding? address

/-- The image to which an address belongs, under the canonical path of its file. -/
def locate (r : Roster) (d : Debugger σ) (address : UInt64) (s : σ) : Option Image :=
  (r.owner d address s).map fun image => { image with file := r.canonical image.file }

end Roster

end CrashReport
