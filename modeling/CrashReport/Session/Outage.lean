import CrashReport.Session

/-!
# Debuggers that fail

A real debugger may refuse any request. An `Outage` says which kind of request is
refused, and of which thread and frame; what it does not say matches anything.
`Session.debuggerWith` is the recorded session under a list of outages, by which the
making of a report is tried against failing reads.
-/

namespace CrashReport

namespace Request

/-- The name by which the kind of a request is known. -/
def kindName {α : Type} : Request α → String
  | .switchThread _ => "switch_thread"
  | .selectNewest => "select_newest_frame"
  | .selectOlder => "select_older_frame"
  | .selectFrame _ => "select_frame"
  | .pc => "frame_pc"
  | .frameKind => "frame_type"
  | .symbols => "frame_symbols"
  | .registers => "frame_registers"
  | .evaluate _ => "evaluate"
  | .staticText _ => "lookup_static_symbol"
  | .mappings => "proc_mappings"
  | .buildIdAt _ => "read_build_id"
  | .load _ _ _ => "load_module"

/-- The thread and the level that a request is about: those it names, or the selected
ones. -/
def subject {α : Type} (s : Session) : Request α → Option UInt32 × Nat
  | .switchThread number => (some number, 0)
  | .selectFrame level => (s.selected, level)
  | _ => (s.selected, s.level)

end Request

/-- Requests that are refused: those of a kind, or only those about the thread of a number or about
the frame of a level. No thread has a number that takes more than 32 bits. -/
structure Outage where
  kindName : String
  thread : Option Nat := none
  level : Option Nat := none
  deriving DecidableEq, Repr

namespace Outage

/-- The outage refuses a request made in a session. -/
def covers {α : Type} (o : Outage) (request : Request α) (s : Session) : Bool :=
  let (thread, level) := request.subject s
  o.kindName = request.kindName && (o.thread.isNone || o.thread = thread.map UInt32.toNat) &&
    (o.level.isNone || o.level = some level)

/-- The reason for refusing a request, if one of the outages covers it. -/
def refusal (outages : List Outage) {α : Type} (request : Request α) (s : Session) :
    Option DebuggerError :=
  if outages.any fun o => o.covers request s then
    some (.command (request.kindName ++ " failed"))
  else none

end Outage

/-- A recorded session under outages. -/
def Session.debuggerWith (outages : List Outage) : Debugger Session :=
  Session.debugger.refusing (Outage.refusal outages)

/-- Without outages nothing is refused. -/
theorem Session.debuggerWith_nil : Session.debuggerWith [] = Session.debugger := rfl

end CrashReport
