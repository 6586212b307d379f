import CrashReport.Text.Hex

/-!
# Build ids

The linker marks every image with a build id, written in hexadecimal. Symbol servers
know an image by two names made from it: the code id, which is the build id in lower
case, and the debug id, which is its first sixteen octets in the form of a GUID.

* **`DebugId.ofBuildId?`** takes the octets, filling up a short build id with zeros;
* **`DebugId.text`** writes them with the first three groups in reverse order, because
  a GUID holds its leading fields as little-endian numbers.
-/

namespace CrashReport

/-- The sixteen octets by which an image's debug information is found, in the order of the build id.
-/
structure DebugId where
  octets : List UInt8
  length_octets : octets.length = 16

namespace DebugId

instance : DecidableEq DebugId := fun a b =>
  decidable_of_iff (a.octets = b.octets) (by cases a; cases b; simp)

/-- The first sixteen octets, zeros standing for those that are missing. -/
def ofOctets (octets : List UInt8) : DebugId :=
  ⟨(octets ++ List.replicate 16 0).take 16, by simp⟩

/-- The debug id of a build id, unless it is empty or no string of octets. -/
def ofBuildId? (buildId : String) : Option DebugId :=
  match Hex.bytes? buildId.toList with
  | some [] => none
  | some octets => some (ofOctets octets)
  | none => none

/-- The octets in the five groups in which they are written. -/
def groups (d : DebugId) : List (List UInt8) :=
  let o := d.octets
  [(o.take 4).reverse, ((o.drop 4).take 2).reverse, ((o.drop 6).take 2).reverse,
    (o.drop 8).take 2, o.drop 10]

/-- The groups in lowercase hexadecimal, joined by hyphens. -/
def text (d : DebugId) : String :=
  String.ofList (['-'].intercalate (d.groups.map Hex.ofBytes))

end DebugId

/-- The name of an image on symbol servers: the digits of its build id in lower case.
Whatever is no hexadecimal digit is left out. -/
def codeId (buildId : String) : String :=
  String.ofList ((buildId.toList.filter Hex.isDigit).map Char.toLower)

end CrashReport
