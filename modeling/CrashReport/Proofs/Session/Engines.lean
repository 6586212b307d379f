import CrashReport.Proofs.Session.Search

/-!
# Which engine the search comes upon

Several frames may have pointers to QML engines, and each engine is asked in three ways. The
search takes the first answer that has records in it, in the order in which it looks, and only then
reads the records. So an engine that has nothing to tell is taken for one that has no stack, and
hides all those that would be asked after it.

* **`Session.Offers`** — the records that an engine in one of the threads has to offer;
* **`Session.offers`** — all of them in the order of the search, of which the first one is taken
  (`search_eq_head?_offers`);
* **`QmlStack.search_isSome_iff`** — where some engine has a stack, the search gives one if and
  only if the first records are a stack;
* **`QmlStack.search_idle`** — an engine that is idle, and hides one that is not.
-/

namespace CrashReport

open QmlStack (payload? engineAddress? expressions ofPayload?)

namespace Session

/-- The symbol is a variable or an argument, and points to the engine at the address. -/
def PointsToEngine (symbol : FrameSymbol) (address : UInt64) : Prop :=
  (symbol.kind = .localVariable ∨ symbol.kind = .argument) ∧
    ∃ reading, symbol.reading = some reading ∧ reading.optimizedOut = false ∧
      reading.pointee = some "QV4::ExecutionEngine" ∧ reading.address = some address

/-- The records can be had of an engine in one of the threads: the thread is valid and can be
selected, one of its frames has a pointer to the engine, and one of the expressions for the address
has a value with these records in it. -/
def Offers (s : Session) (threads : List Thread) (payload : String) : Prop :=
  ∃ thread ∈ threads, thread.valid = true ∧
    ∃ record, s.thread? thread.number = some record ∧ record.thread.valid = true ∧
      ∃ frame ∈ record.frames, ∃ symbol ∈ frame.symbols, ∃ address,
        PointsToEngine symbol address ∧ ∃ expression ∈ expressions address, ∃ printed,
          s.evaluations.find? expression = some printed ∧ payload? printed = some payload

/-- The records that engines in a frame have to offer, in the order in which they are asked. -/
def offersIn (s : Session) (frame : Frame) : List String :=
  ((frame.symbols.filterMap engineAddress?).flatMap expressions).filterMap s.payloadAt

/-- The records that engines in a thread have to offer, from its newest frame on. -/
def offersOf (s : Session) (thread : Thread) : List String :=
  if thread.valid then
    (((s.thread? thread.number).filter fun record => record.thread.valid).elim []
      ThreadRecord.frames).flatMap s.offersIn
  else []

/-- The records that engines in the threads have to offer, thread by thread. -/
def offers (s : Session) (threads : List Thread) : List String := threads.flatMap s.offersOf

variable {s : Session}

theorem engineAddress?_eq_some_iff {symbol : FrameSymbol} {address : UInt64} :
    engineAddress? symbol = some address ↔ PointsToEngine symbol address := by
  unfold engineAddress? PointsToEngine FrameSymbol.holdsValue QmlStack.engineType
  cases hreading : symbol.reading with
  | none => simp
  | some reading =>
      simp only [Bool.or_eq_true, decide_eq_true_eq, Option.bind_some, Option.some.injEq,
        exists_eq_left', Option.ite_none_right_eq_some]
      refine and_congr_right fun _ => ?_
      rw [Option.ite_none_left_eq_some]
      simp [and_assoc]

theorem mem_offersIn_iff {frame : Frame} {payload : String} :
    payload ∈ s.offersIn frame ↔ ∃ symbol ∈ frame.symbols, ∃ address,
      PointsToEngine symbol address ∧ ∃ expression ∈ expressions address, ∃ printed,
        s.evaluations.find? expression = some printed ∧ payload? printed = some payload := by
  unfold offersIn payloadAt
  simp only [List.mem_filterMap, List.mem_flatMap, Option.bind_eq_some_iff,
    engineAddress?_eq_some_iff]
  constructor
  · rintro ⟨expression, ⟨address, ⟨symbol, hsymbol, haddress⟩, hexpression⟩, hprinted⟩
    exact ⟨symbol, hsymbol, address, haddress, expression, hexpression, hprinted⟩
  · rintro ⟨symbol, hsymbol, address, haddress, expression, hexpression, hprinted⟩
    exact ⟨expression, ⟨address, ⟨symbol, hsymbol, haddress⟩, hexpression⟩, hprinted⟩

theorem mem_offers_iff {threads : List Thread} {payload : String} :
    payload ∈ s.offers threads ↔ s.Offers threads payload := by
  unfold offers Offers
  rw [List.mem_flatMap]
  refine exists_congr fun thread => and_congr_right fun _ => ?_
  unfold offersOf
  cases thread.valid with
  | false => simp
  | true =>
      rw [if_pos rfl]
      cases hrecord : s.thread? thread.number with
      | none => simp
      | some record =>
          cases hvalid : record.thread.valid with
          | false => simp [Option.filter_some, hvalid]
          | true => simp [Option.filter_some, hvalid, mem_offersIn_iff]

theorem head?_offersIn (s : Session) (frame : Frame) :
    (s.offersIn frame).head? = s.payloadIn frame := List.head?_filterMap

theorem head?_offersOf (s : Session) (thread : Thread) :
    (s.offersOf thread).head? = s.payloadOf thread := by
  unfold offersOf payloadOf
  cases thread.valid with
  | false => rfl
  | true =>
      rw [if_pos rfl, if_pos rfl, List.head?_flatMap]
      simp only [head?_offersIn]
      cases (s.thread? thread.number).filter fun record => record.thread.valid <;> rfl

end Session

namespace QmlStack

open Session (debugger)

variable {s : Session} {threads : List Thread}

/-- The first records on offer are the ones that are read. -/
theorem search_eq_head?_offers (threads : List Thread) (home : Option String) (s : Session) :
    (search debugger threads home s).1 = (s.offers threads).head?.bind (ofPayload? home) := by
  unfold Session.offers
  rw [search_eq, List.head?_flatMap]
  simp only [Session.head?_offersOf]

/-- The search gives a stack if and only if an engine in one of the threads offers records that are
one, and the first records on offer are one too. Records without frames, or that are not well
formed, hide all that come after them. -/
theorem search_isSome_iff (threads : List Thread) (home : Option String) (s : Session) :
    (search debugger threads home s).1.isSome = true ↔
      (∃ payload, s.Offers threads payload ∧ (ofPayload? home payload).isSome = true) ∧
        ∀ first, (s.offers threads).head? = some first →
          (ofPayload? home first).isSome = true := by
  rw [search_eq_head?_offers]
  cases hoffers : s.offers threads with
  | nil =>
      constructor
      · intro h
        cases h
      · rintro ⟨⟨payload, hoffer, -⟩, -⟩
        have hmem := Session.mem_offers_iff.2 hoffer
        rw [hoffers] at hmem
        cases hmem
  | cons first later =>
      have hoffer : s.Offers threads first := by
        rw [← Session.mem_offers_iff, hoffers]
        exact List.mem_cons_self
      constructor
      · intro h
        refine ⟨⟨first, hoffer, h⟩, ?_⟩
        rintro _ ⟨⟩
        exact h
      · rintro ⟨-, hfirst⟩
        exact hfirst first rfl

/-- A session with an engine in each of two threads, of which the first has nothing to tell. -/
def idle : Session :=
  let engine (address : UInt64) : FrameSymbol :=
    { name := "engine", kind := .argument,
      reading := some { pointee := some "QV4::ExecutionEngine", address := some address } }
  { live := true
    selected := some 1
    threads := [
      { thread := { number := 1, id := 10 }, frames := [{ pc := 16, symbols := [engine 4096] }] },
      { thread := { number := 2, id := 20 }, frames := [{ pc := 32, symbols := [engine 8192] }] }]
    evaluations := .ofList [
      ("qt_v4StackTraceForEngine((void*)0x1000)", "$1 = \"stack=[]\""),
      ("qt_v4StackTraceForEngine((void*)0x2000)",
        "$2 = \"stack=[frame=\x7bfunc=\\\"onClicked\\\"\x7d]\"")] }

/-- The second engine has a stack, and the search does not find it. -/
theorem search_idle :
    (∃ payload, idle.Offers (debugger.threads idle) payload ∧
      ofPayload? none payload = some ⟨[{ function := some "onClicked" }]⟩) ∧
    (search debugger (debugger.threads idle) none idle).1 = none := by
  have hoffers : idle.offers (debugger.threads idle) =
      ["", "frame=\x7bfunc=\"onClicked\"\x7d"] := by decide +kernel
  refine ⟨⟨"frame=\x7bfunc=\"onClicked\"\x7d", ?_, by decide +kernel⟩, ?_⟩
  · rw [← Session.mem_offers_iff, hoffers]
    simp
  · rw [search_eq_head?_offers, hoffers]
    decide +kernel

end QmlStack

end CrashReport
