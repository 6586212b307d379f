import CrashReport.Debugger
import CrashReport.Json
import CrashReport.Text.Scan

/-!
# What threads block in

A thread does not say what it waits for, but the functions in which its stack ends
do: they are a handful of well-known primitives. Each such frame gives a record, and
the first record decides the state of the thread.

* **`Primitive.all`** — the primitives, and **`Primitive.of?`** that of a function;
* **`Records.observe`** — one more record, under the next of the addresses 1, 2, 3, …;
* **`state?`** — the state of a thread.
-/

namespace CrashReport.Blocking

/-- What a thread does with a lock: it holds the lock, waits to be woken, sleeps for some time, or
waits to get the lock. -/
inductive Kind where
  | locked
  | waiting
  | sleeping
  | blocked
  deriving DecidableEq, Repr

/-- What a thread is about. One that is `waiting` waits to be woken, and one that is `blocked` waits
for a lock. -/
inductive State where
  | runnable
  | waiting
  | blocked
  | terminated
  deriving DecidableEq, Repr

/-- The number of a kind in reports. -/
def Kind.code : Kind → Nat
  | .locked => 1
  | .waiting => 2
  | .sleeping => 4
  | .blocked => 8

/-- The state that a kind implies, if it implies one. -/
def Kind.state? : Kind → Option State
  | .locked => none
  | .waiting => some .waiting
  | .sleeping => some .runnable
  | .blocked => some .blocked

/-- The name of a state in reports. -/
def State.name : State → String
  | .runnable => "Runnable"
  | .waiting => "Waiting"
  | .blocked => "Blocked"
  | .terminated => "Terminated"

/-- The functions that a name stands for: the one of this name, or every one whose name starts so.
-/
inductive Pattern where
  | named (name : String)
  | starting (start : String)
  deriving DecidableEq, Repr

/-- The pattern stands for the function. -/
def Pattern.covers (function : String) : Pattern → Bool
  | named name => function = name
  | starting start => (Text.after? start.toList function.toList).isSome

/-- A primitive in which threads block: its functions, what a thread does in them, and the class of
its locks. -/
structure Primitive where
  pattern : Pattern
  kind : Kind
  className : String
  deriving DecidableEq, Repr

namespace Primitive

/-- The primitives; the first that fits a function counts. -/
def all : List Primitive :=
  [⟨.starting "__futex_abstimed_wait_common", .waiting, "futex"⟩,
   ⟨.starting "futex_wait", .waiting, "futex"⟩,
   ⟨.starting "__lll_lock_wait", .locked, "lll_lock"⟩,
   ⟨.named "pthread_mutex_lock", .blocked, "pthread_mutex"⟩,
   ⟨.starting "__pthread_mutex_lock", .blocked, "pthread_mutex"⟩,
   ⟨.starting "___pthread_mutex_lock", .blocked, "pthread_mutex"⟩,
   ⟨.named "pthread_cond_wait", .waiting, "pthread_cond"⟩,
   ⟨.named "pthread_cond_timedwait", .waiting, "pthread_cond"⟩,
   ⟨.starting "__pthread_cond_wait", .waiting, "pthread_cond"⟩,
   ⟨.starting "___pthread_cond_wait", .waiting, "pthread_cond"⟩,
   ⟨.starting "__pthread_cond_timedwait", .waiting, "pthread_cond"⟩,
   ⟨.starting "___pthread_cond_timedwait", .waiting, "pthread_cond"⟩,
   ⟨.starting "__pthread_cond_clockwait", .waiting, "pthread_cond"⟩,
   ⟨.starting "std::condition_variable::wait", .waiting, "std::condition_variable"⟩,
   ⟨.starting "QWaitCondition::wait", .waiting, "QWaitCondition"⟩,
   ⟨.starting "QMutex::lock", .blocked, "QMutex"⟩,
   ⟨.starting "QBasicMutex::lockInternal", .blocked, "QMutex"⟩,
   ⟨.named "nanosleep", .sleeping, "sleep"⟩,
   ⟨.named "clock_nanosleep", .sleeping, "sleep"⟩,
   ⟨.starting "__GI___nanosleep", .sleeping, "sleep"⟩,
   ⟨.starting "__GI___clock_nanosleep", .sleeping, "sleep"⟩,
   ⟨.starting "__clock_nanosleep", .sleeping, "sleep"⟩,
   ⟨.starting "QThread::sleep", .sleeping, "QThread"⟩,
   ⟨.starting "QThread::msleep", .sleeping, "QThread"⟩,
   ⟨.starting "QThread::usleep", .sleeping, "QThread"⟩,
   ⟨.named "poll", .sleeping, "poll"⟩,
   ⟨.named "ppoll", .sleeping, "poll"⟩,
   ⟨.starting "__GI___poll", .sleeping, "poll"⟩,
   ⟨.starting "__poll", .sleeping, "poll"⟩,
   ⟨.starting "__GI_ppoll", .sleeping, "poll"⟩]

/-- The primitive to which a function belongs. -/
def of? (function : String) : Option Primitive :=
  all.find? fun primitive => primitive.pattern.covers function

end Primitive

/-- A frame that blocks. The address of the lock is not known, and `address` is a number in its
place. -/
structure Record where
  kind : Kind
  className : String
  threadId : UInt64
  address : UInt64
  deriving DecidableEq, Repr

/-- The records of a stack in the order of its frames. -/
structure Records where
  toList : List Record := []
  deriving DecidableEq, Repr

namespace Records

/-- The records with one more, if the function blocks. -/
def observe (r : Records) (function : String) (threadId : UInt64) : Records :=
  match Primitive.of? function with
  | some primitive =>
    ⟨r.toList ++ [{
      kind := primitive.kind
      className := primitive.className
      threadId := threadId
      address := UInt64.ofNat (r.toList.length + 1) }]⟩
  | none => r

/-- The records that a thread's functions give, in order. -/
def ofFunctions (threadId : UInt64) (functions : List String) : Records :=
  functions.foldl (fun r function => r.observe function threadId) {}

/-- The records as they stand in a report, each under its address. -/
def toJson (r : Records) : Json :=
  .ofFields (r.toList.map fun record =>
    let address := Hex.address record.address
    (address, .ofFields [
      ("type", .number record.kind.code),
      ("address", .text address),
      ("class_name", .text record.className),
      ("thread_id", .number record.threadId.toNat)]))

end Records

/-- The state of a thread. It is decided by the first record, even if that implies none. -/
def state? (exited : Bool) (r : Records) : Option State :=
  if exited then some .terminated else r.toList.head?.bind fun record => record.kind.state?

end CrashReport.Blocking
