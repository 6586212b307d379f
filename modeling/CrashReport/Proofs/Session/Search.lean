import CrashReport.Proofs.Session.Requests
import CrashReport.QmlStack

/-!
# The search for a QML engine on a session

On a recorded session every expression has the same value wherever it is evaluated, so the search
for the stack of an engine is a search of what was recorded: the first payload thread by thread,
frame by frame, symbol by symbol and expression by expression.

* **`Session.payloadIn`**, **`Session.payloadOf`** — the first payload in a frame and in a thread;
* **`QmlStack.search_eq`** — the search gives the first payload of the threads in turn;
* **`QmlStack.search_eq_of_recording_eq`** — its answer is a matter of the recording.
-/

namespace CrashReport

open QmlStack (payload? engineAddress? expressions)

namespace Session

variable {s t : Session}

/-- The payload in the value of an expression. -/
def payloadAt (s : Session) (expression : String) : Option String :=
  (s.evaluations.find? expression).bind payload?

/-- The first payload that the engines in a frame give. -/
def payloadIn (s : Session) (frame : Frame) : Option String :=
  ((frame.symbols.filterMap engineAddress?).flatMap expressions).findSome? s.payloadAt

/-- The first payload in the frames of a thread, if the thread can be selected. -/
def payloadOf (s : Session) (thread : Thread) : Option String :=
  if thread.valid then
    ((s.thread? thread.number).filter fun record => record.thread.valid).bind fun record =>
      record.frames.findSome? s.payloadIn
  else none

theorem payloadIn_eq_of_recording_eq (h : s.recording = t.recording) :
    s.payloadIn = t.payloadIn :=
  eq_of_recording_eq (fun _ => rfl) h

theorem payloadOf_eq_of_recording_eq (h : s.recording = t.recording) :
    s.payloadOf = t.payloadOf :=
  eq_of_recording_eq (fun _ => rfl) h

end Session

namespace QmlStack

open Session (debugger)

variable {s t : Session}

theorem ask_eq (questions : List String) (s : Session) :
    ask debugger questions s = (questions.findSome? s.payloadAt, s) := by
  induction questions with
  | nil => rfl
  | cons expression rest ih =>
      rw [List.findSome?_cons]
      unfold ask Session.payloadAt
      simp only [debugger, Session.perform]
      cases s.evaluations.find? expression with
      | none => exact ih
      | some printed =>
          dsimp only [Option.bind_some]
          cases payload? printed with
          | none => exact ih
          | some payload => rfl

theorem askFrame_eq {frame : Session.Frame} (h : s.frame? = some frame) :
    askFrame debugger s = (s.payloadIn frame, s) := by
  have hsymbols : debugger.perform .symbols s = (.ok frame.symbols, s) :=
    Session.read_of_frame?_eq_some h _
  unfold askFrame
  rw [hsymbols]
  exact ask_eq _ s

/-- The frames from the selected one on are asked, and some frame is selected afterwards. -/
theorem exists_askFrames_eq (fuel : Nat) (s : Session) :
    ∃ level, askFrames debugger fuel s =
      (((s.frames.drop s.level).take fuel).findSome? s.payloadIn, s.atLevel level) := by
  induction fuel generalizing s with
  | zero => exact ⟨s.level, rfl⟩
  | succ fuel ih =>
      unfold askFrames
      by_cases hlevel : s.level < s.frames.length
      · have hframe : s.frame? = some s.frames[s.level] := List.getElem?_eq_getElem hlevel
        rw [askFrame_eq hframe, List.drop_eq_getElem_cons hlevel, List.take_succ_cons,
          List.findSome?_cons]
        cases s.payloadIn s.frames[s.level] with
        | some payload => exact ⟨s.level, rfl⟩
        | none =>
            dsimp only
            by_cases holder : s.level + 1 < s.frames.length
            · have hselect : debugger.perform .selectOlder s =
                  (.ok (), s.atLevel (s.level + 1)) := Session.perform_selectOlder holder
              rw [hselect]
              exact ih (s.atLevel (s.level + 1))
            · -- the outermost frame is selected
              have hselect : debugger.perform .selectOlder s = (.error .noOlderFrame, s) :=
                Session.perform_selectOlder_of_le (Nat.le_of_not_lt holder)
              rw [hselect, List.drop_eq_nil_of_le (Nat.le_of_not_lt holder), List.take_nil]
              exact ⟨s.level, rfl⟩
      · -- no frame is selected, because the thread has none
        have hsymbols : debugger.perform .symbols s = (.error .noFrame, s) :=
          Session.read_of_length_le (Nat.le_of_not_lt hlevel) _
        have holder : debugger.perform .selectOlder s = (.error .noOlderFrame, s) :=
          Session.perform_selectOlder_of_le (by omega)
        unfold askFrame
        rw [hsymbols]
        dsimp only
        rw [holder, List.drop_eq_nil_of_le (Nat.le_of_not_lt hlevel), List.take_nil]
        exact ⟨s.level, rfl⟩

/-- All frames of a thread are asked, if it can be selected. -/
theorem askThreads_eq (threads : List Thread) (s : Session) :
    (askThreads debugger threads s).1 = threads.findSome? s.payloadOf := by
  induction threads generalizing s with
  | nil => rfl
  | cons thread rest ih =>
      -- the search goes on with another selection, on which payloads do not depend
      have hrest : ∀ t : Session, t.aside = s.aside →
          (askThreads debugger rest t).1 = rest.findSome? s.payloadOf := by
        intro t ht
        rw [ih, Session.payloadOf_eq_of_recording_eq (Session.recording_eq_of_aside_eq ht)]
      rw [List.findSome?_cons]
      unfold askThreads Session.payloadOf
      cases thread.valid with
      | false => exact hrest s rfl
      | true =>
          rw [if_pos rfl, if_pos rfl]
          cases hselect : (s.thread? thread.number).filter fun record => record.thread.valid with
          | none =>
              have hinvalid : ∀ record, s.thread? thread.number = some record →
                  record.thread.valid = false := by
                intro record hrecord
                rw [hrecord, Option.filter_eq_none_iff] at hselect
                exact Bool.eq_false_iff.2 (hselect record rfl)
              have hswitch : debugger.perform (.switchThread thread.number) s =
                  (.error (.invalidThread thread.number), s) :=
                Session.perform_switchThread_of_refused hinvalid
              rw [hswitch]
              exact hrest s rfl
          | some record =>
              obtain ⟨hrecord, hvalid⟩ := Option.filter_eq_some_iff.1 hselect
              let s₁ := s.select thread.number
              have hswitch : debugger.perform (.switchThread thread.number) s = (.ok (), s₁) :=
                Session.perform_switchThread hrecord hvalid
              have hframes : s₁.frames = record.frames := Session.frames_select hrecord
              rw [hswitch, Option.bind_some]
              dsimp only
              by_cases hnil : s₁.frames = []
              · have hnewest : debugger.perform .selectNewest s₁ = (.error (.invalidFrame 0), s₁) :=
                  Session.perform_selectNewest_of_nil hnil
                rw [hnewest, ← hframes, hnil]
                exact hrest s₁ rfl
              · have hnewest : debugger.perform .selectNewest s₁ = (.ok (), s₁) :=
                  Session.perform_selectNewest hnil
                obtain ⟨level, hasked⟩ := exists_askFrames_eq (debugger.depth s₁) s₁
                have hall : (s₁.frames.drop s₁.level).take (debugger.depth s₁) = record.frames := by
                  rw [← hframes]
                  exact List.take_length
                have hpayload : s₁.payloadIn = s.payloadIn :=
                  Session.payloadIn_eq_of_recording_eq (Session.recording_eq_of_aside_eq rfl)
                rw [hnewest]
                dsimp only
                rw [hasked, hall, hpayload]
                cases record.frames.findSome? s.payloadIn with
                | some payload => rfl
                | none => exact hrest (s₁.atLevel level) rfl

/-- The first payload of the threads in turn is the one that counts. -/
theorem search_eq (threads : List Thread) (home : Option String) (s : Session) :
    (search debugger threads home s).1 =
      (threads.findSome? s.payloadOf).bind (ofPayload? home) := by
  unfold search
  rw [Debugger.keepingThread_fst]
  dsimp only
  rw [askThreads_eq]

theorem search_eq_of_recording_eq (threads : List Thread) (home : Option String)
    (h : s.recording = t.recording) :
    (search debugger threads home s).1 = (search debugger threads home t).1 := by
  rw [search_eq, search_eq, Session.payloadOf_eq_of_recording_eq h]

end QmlStack

end CrashReport
