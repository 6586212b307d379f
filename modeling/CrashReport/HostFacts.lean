import CrashReport.Json.Decode

/-!
# Facts about the host

What is known of the machine on which a process crashed. The facts about the host come
from a command that prints a flat JSON object; every one of them may be missing.
`HostFacts.ofOutput` takes what it prints for no facts at all if it is malformed.
-/

namespace CrashReport

/-- The facts that a command prints about the host. The `chassis` is the kind of machine, such as
`desktop`, and `osBuildId` tells the builds of a system apart that has no versions. -/
structure HostFacts where
  hostname : Option String := none
  chassis : Option String := none
  virtualization : Option String := none
  timezone : Option String := none
  osName : Option String := none
  osVersion : Option String := none
  osBuildId : Option String := none
  osVariantId : Option String := none
  deriving DecidableEq, Repr

namespace HostFacts

/-- The fields of the object in their order. -/
def fields : List (Json.RecordField HostFacts) :=
  [.defaulted "Hostname" (Json.optional? Json.string) fun v f => { f with hostname := v },
   .defaulted "Chassis" (Json.optional? Json.string) fun v f => { f with chassis := v },
   .defaulted "Virtualization" (Json.optional? Json.string) fun v f =>
     { f with virtualization := v },
   .defaulted "Timezone" (Json.optional? Json.string) fun v f => { f with timezone := v },
   .defaulted "OS_NAME" (Json.optional? Json.string) fun v f => { f with osName := v },
   .defaulted "OS_VERSION_ID" (Json.optional? Json.string) fun v f => { f with osVersion := v },
   .defaulted "OS_BUILD_ID" (Json.optional? Json.string) fun v f => { f with osBuildId := v },
   .defaulted "OS_VARIANT_ID" (Json.optional? Json.string) fun v f => { f with osVariantId := v }]

/-- The facts that a text holds. -/
def ofText (text : String) : Except Json.Flaw HostFacts :=
  Json.ofText (Json.record {} fields) text

/-- The facts in the output of the command, if it could be run. -/
def ofOutput (output : Option String) : HostFacts :=
  match output.map ofText with
  | some (.ok facts) => facts
  | _ => {}

/-- The build of the system; where it is missing or empty, the variant. -/
def osBuild (f : HostFacts) : Option String :=
  match f.osBuildId with
  | some build => if build.isEmpty then f.osVariantId else some build
  | none => f.osVariantId

end HostFacts

end CrashReport
