import CrashReport.Text.Printable

/-!
# Memory tiers

A machine that has just lost a program may have little memory left, and reading the
debug information of every image takes much of it. The tier says how much may be
used: whether frame data is captured, for which threads images are loaded, how
completely, and whether the network may be asked for what is missing.
-/

namespace CrashReport

/-- How completely an image is loaded: with symbols and debug information, or only so that addresses
map to it. -/
inductive Detail where
  | full
  | presenceOnly
  deriving DecidableEq, Repr

/-- How much memory the making of a report may take. If there is much, everything has been loaded
already; with `some`, images are loaded for every thread, and with `little`, for the crashed one. If
it is `cramped`, the images of the crashed thread are made known, but not read. -/
inductive Tier where
  | spacious
  | some
  | little
  | cramped
  deriving DecidableEq, Repr

/-- A name that is no tier. -/
structure UnknownTier where
  name : String
  deriving DecidableEq, Repr

/-- What is said about a name that is no tier. -/
def UnknownTier.message (e : UnknownTier) : String :=
  "unknown memory tier " ++ Text.quote e.name

namespace Tier

/-- The name of a tier. -/
def name : Tier → String
  | .spacious => "spacious"
  | .some => "some"
  | .little => "little"
  | .cramped => "cramped"

/-- The tiers from the most to the least memory. -/
def all : List Tier := [.spacious, .some, .little, .cramped]

/-- The tier of a name, whatever the case of its ASCII letters. -/
def ofName (name : String) : Except UnknownTier Tier :=
  match all.find? fun tier => tier.name.toList = name.toList.map Char.toLower with
  | Option.some tier => .ok tier
  | none => .error ⟨name⟩

/-- Variables and registers are captured. -/
def captures : Tier → Bool
  | .spacious | .some => true
  | .little | .cramped => false

/-- Images are loaded for a thread, which may be the crashed one. -/
def loads (crashed : Bool) : Tier → Bool
  | .spacious => false
  | .some => true
  | .little | .cramped => crashed

/-- How completely images are loaded. -/
def detail : Tier → Detail
  | .cramped => .presenceOnly
  | _ => .full

/-- Debug information may be fetched over the network. -/
def downloads (tier : Tier) : Bool := tier ≠ .cramped

end Tier

end CrashReport
