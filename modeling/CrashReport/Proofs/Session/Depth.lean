import CrashReport.Loader
import CrashReport.Proofs.Debugger.Rounds
import CrashReport.Proofs.Session.Positions

/-!
# How deep the search for a QML engine goes

Loading and unwinding give up after `frameLimit` frames of a thread, since a corrupted stack can
lead on forever. The search for an engine has no such limit: it asks every frame of every thread
until one gives records.

* **`Session.cutTo`** — a session of which only the newest frames of each thread are left. What can
  be had there are the records at the levels that are left (`Session.gives_cutTo_iff`);
* **`QmlStack.search_cutTo_eq_iff`** — when such a session gives the same stack;
* **`QmlStack.askedFrames_iff`** — on a session the search through the frames of a thread ends;
* **`QmlStack.search_unlimited`** — how far the search goes, on sessions and on any debugger;
* **`QmlStack.search_deep`** — an engine that is found beyond the limit.
-/

namespace CrashReport

open QmlStack (payload? engineAddress? expressions ofPayload?)
open Sequence (FirstAt Answers)

namespace Session

/-- The thread with no more than its `limit` newest frames. -/
def ThreadRecord.cutTo (limit : Nat) (record : ThreadRecord) : ThreadRecord :=
  { record with frames := record.frames.take limit }

/-- The session with no more than the `limit` newest frames of each thread. -/
def cutTo (s : Session) (limit : Nat) : Session :=
  { s with threads := s.threads.map (ThreadRecord.cutTo limit) }

variable {s : Session} {threads : List Thread}

theorem thread?_cutTo (s : Session) (limit : Nat) (number : UInt32) :
    (s.cutTo limit).thread? number = (s.thread? number).map (ThreadRecord.cutTo limit) := by
  unfold thread? cutTo
  rw [List.find?_map]
  rfl

/-- A cut leaves the records at the levels below it, and no others. -/
theorem gives_cutTo_iff {limit : Nat} {p : Position} {payload : String} :
    (s.cutTo limit).Gives threads p payload ↔ p.level < limit ∧ s.Gives threads p payload := by
  obtain ⟨i, level, j, k⟩ := p
  show _ ↔ level < limit ∧ _
  constructor
  · rintro ⟨thread, hthread, hvalid, record, hrecord, hselectable, frame, hframe, hgives⟩
    rw [thread?_cutTo] at hrecord
    obtain ⟨whole, hwhole, rfl⟩ := Option.map_eq_some_iff.1 hrecord
    replace hframe : (whole.frames.take limit)[level]? = some frame := hframe
    rw [List.getElem?_take] at hframe
    obtain ⟨hlevel, hframe⟩ := Option.ite_none_right_eq_some.1 hframe
    exact ⟨hlevel, thread, hthread, hvalid, whole, hwhole, hselectable, frame, hframe, hgives⟩
  · rintro ⟨hlevel, thread, hthread, hvalid, record, hrecord, hselectable, frame, hframe, hgives⟩
    have hcut : (s.cutTo limit).thread? thread.number = some (record.cutTo limit) := by
      rw [thread?_cutTo, hrecord, Option.map_some]
    have hleft : (record.frames.take limit)[level]? = some frame := by
      rw [List.getElem?_take, if_pos hlevel, hframe]
    exact ⟨thread, hthread, hvalid, record.cutTo limit, hcut, hselectable, frame, hleft, hgives⟩

/-- The first payload of a session that was cut is the first one above the cut. -/
theorem answers_cutTo (s : Session) (threads : List Thread) (limit : Nat) :
    Answers Position.Precedes (fun p payload => p.level < limit ∧ s.Gives threads p payload)
      (threads.findSome? (s.cutTo limit).payloadOf) :=
  ((s.cutTo limit).answers_findSome?_payloadOf threads).congr fun _ _ => gives_cutTo_iff

end Session

namespace QmlStack

open Session (debugger Position)

variable {s : Session}

/-- The newest frames are enough if and only if the first records are found among them, or what is
found among them instead reads the same: the stack that the first records describe, or none. -/
theorem search_cutTo_eq_iff (limit : Nat) (threads : List Thread) (home : Option String)
    (s : Session) :
    (search debugger threads home (s.cutTo limit)).1 = (search debugger threads home s).1 ↔
      ∀ p payload, FirstAt Position.Precedes (s.Gives threads) p payload → limit ≤ p.level →
        ∀ answer, Answers Position.Precedes
            (fun q other => q.level < limit ∧ s.Gives threads q other) answer →
          answer.bind (ofPayload? home) = ofPayload? home payload := by
  have hcut := s.answers_cutTo threads limit
  have hwhole := s.answers_findSome?_payloadOf threads
  have hone : ∀ answer, Answers Position.Precedes
      (fun q other => q.level < limit ∧ s.Gives threads q other) answer →
      answer = threads.findSome? (s.cutTo limit).payloadOf := fun answer hanswer =>
    hanswer.unique hcut (fun _ _ => Position.not_precedes_of_precedes)
      fun _ _ _ h h' => h.2.unique h'.2
  rw [search_eq, search_eq]
  constructor
  · intro heq p payload hfirst _ answer hanswer
    have hfound : threads.findSome? s.payloadOf = some payload :=
      hwhole.unique (y := some payload) ⟨p, hfirst⟩
        (fun _ _ => Position.not_precedes_of_precedes) fun _ _ _ h h' => h.unique h'
    rw [hone answer hanswer, heq, hfound, Option.bind_some]
  · intro hsame
    cases hfound : threads.findSome? s.payloadOf with
    | none =>
        -- nothing can be had at any level
        rw [hfound] at hwhole
        rw [← hone none fun p payload hgives => hwhole p payload hgives.2]
    | some payload =>
        rw [hfound] at hwhole
        obtain ⟨p, hfirst⟩ := hwhole
        rcases Nat.lt_or_ge p.level limit with hlevel | hlevel
        · rw [← hone (some payload) ⟨p, ⟨hlevel, hfirst.here⟩, fun q other hgives =>
            hfirst.first q other hgives.2⟩]
        · exact hsame p payload hfirst hlevel _ hcut

/-- Asking the engines in a frame leaves the session as it is. -/
theorem askFrame_snd (s : Session) : (askFrame debugger s).2 = s := by
  unfold askFrame
  split
  · rename_i heq
    exact (congrArg Prod.snd heq).symm
  · rename_i heq
    rw [ask_eq]
    exact (congrArg Prod.snd heq).symm

theorem perform_selectOlder_cases (s : Session) :
    s.level + 1 < s.frames.length ∧
        debugger.perform .selectOlder s = (.ok (), s.atLevel (s.level + 1)) ∨
      s.frames.length ≤ s.level + 1 ∧
        debugger.perform .selectOlder s = (.error .noOlderFrame, s) := by
  rcases Nat.lt_or_ge (s.level + 1) s.frames.length with hlt | hle
  · exact .inl ⟨hlt, Session.perform_selectOlder hlt⟩
  · exact .inr ⟨hle, Session.perform_selectOlder_of_le hle⟩

/-- As many rounds as there are frames from the selected one on are enough. -/
theorem askedFrames_askFrames (fuel : Nat) (h : s.frames.length - s.level ≤ fuel) :
    AskedFrames debugger s (askFrames debugger fuel s) := by
  induction fuel generalizing s with
  | zero =>
      -- no frame is selected, so that there is none to read and none to go to
      have hlevel : s.frames.length ≤ s.level := by omega
      have hsymbols : debugger.perform .symbols s = (.error .noFrame, s) :=
        Session.read_of_length_le hlevel _
      have hask : askFrame debugger s = (none, s) := by
        unfold askFrame
        rw [hsymbols]
      rcases perform_selectOlder_cases s with ⟨hlt, -⟩ | ⟨-, holder⟩
      · omega
      · exact .outermost hask holder
  | succ fuel ih =>
      unfold askFrames
      cases hask : askFrame debugger s with
      | mk answer t =>
          obtain rfl : t = s := by
            rw [← askFrame_snd s, hask]
          cases answer with
          | some payload => exact .found hask
          | none =>
              dsimp only
              rcases perform_selectOlder_cases t with ⟨hlt, holder⟩ | ⟨-, holder⟩
              · rw [holder]
                refine .older hask holder (ih ?_)
                show t.frames.length - (t.level + 1) ≤ fuel
                omega
              · rw [holder]
                exact .outermost hask holder

/-- On a session the search through the frames of the selected thread comes to one end. -/
theorem askedFrames_iff (s : Session) (result : Option String × Session) :
    AskedFrames debugger s result ↔ result = askFrames debugger (debugger.depth s) s := by
  have hasked : AskedFrames debugger s (askFrames debugger (debugger.depth s) s) :=
    askedFrames_askFrames _ (Nat.sub_le _ _)
  constructor
  · intro h
    exact h.unique hasked
  · rintro rfl
    exact hasked

/-- How far the search for an engine goes. It is not limited to the newest frames of each thread:
cutting the threads leaves its answer as it is only where the first records are not beyond the cut,
or what is left reads the same. On a session, the search through the frames of a thread comes to
one end, after as many rounds as it takes. On any debugger it ends if and only if some round gives
records or is refused the caller, so not at all on one that never refuses it and has no engine. -/
theorem search_unlimited {σ : Type} (d : Debugger σ) (t : σ) (limit : Nat) (threads : List Thread)
    (home : Option String) (s : Session) :
    ((search debugger threads home (s.cutTo limit)).1 = (search debugger threads home s).1 ↔
      ∀ p payload, FirstAt Position.Precedes (s.Gives threads) p payload → limit ≤ p.level →
        ∀ answer, Answers Position.Precedes
            (fun q other => q.level < limit ∧ s.Gives threads q other) answer →
          answer.bind (ofPayload? home) = ofPayload? home payload) ∧
    (∀ result, AskedFrames debugger s result ↔
      result = askFrames debugger (debugger.depth s) s) ∧
    ((∃ result, AskedFrames d t result) ↔ ∃ n, StopsAt d ((nextFrame d)^[n] t)) :=
  ⟨search_cutTo_eq_iff limit threads home s, askedFrames_iff s, exists_askedFrames_iff d t⟩

/-- A frame with an engine. -/
def engineFrame : Session.Frame :=
  { symbols := [{
      name := "engine", kind := .argument,
      reading := some { pointee := some "QV4::ExecutionEngine", address := some 4096 } }] }

/-- A session of one thread, in which an engine comes after `limit` other frames. -/
def beyond (limit : Nat) : Session where
  live := true
  selected := some 1
  threads := [
    { thread := { number := 1, id := 10 }, frames := List.replicate limit {} ++ [engineFrame] }]
  evaluations := .ofList [
    ("qt_v4StackTraceForEngine((void*)0x1000)",
      "$1 = \"stack=[frame=\x7bfunc=\\\"onClicked\\\"\x7d]\"")]

theorem findSome?_payloadIn_replicate (s : Session) (n : Nat) :
    (List.replicate n ({} : Session.Frame)).findSome? s.payloadIn = none := by
  rw [List.findSome?_eq_none_iff]
  intro frame hframe
  rw [List.eq_of_mem_replicate hframe]
  rfl

theorem search_beyond (limit : Nat) :
    (search debugger (debugger.threads (beyond limit)) none (beyond limit)).1 =
      some ⟨[{ function := some "onClicked" }]⟩ := by
  have hfound : (beyond limit).payloadOf { number := 1, id := 10 } =
      (List.replicate limit ({} : Session.Frame) ++ [engineFrame]).findSome?
        (beyond limit).payloadIn := rfl
  have hengine : (beyond 0).payloadIn engineFrame =
      some "frame=\x7bfunc=\"onClicked\"\x7d" := by decide +kernel
  have hsame : (beyond limit).payloadIn = (beyond 0).payloadIn := rfl
  rw [search_eq]
  show (List.findSome? _ [({ number := 1, id := 10 } : Thread)]).bind _ = _
  rw [List.findSome?_singleton, hfound, List.findSome?_append, findSome?_payloadIn_replicate,
    Option.none_or, List.findSome?_singleton, hsame, hengine]
  decide +kernel

theorem search_beyond_cutTo (limit : Nat) :
    (search debugger (debugger.threads (beyond limit)) none ((beyond limit).cutTo limit)).1 =
      none := by
  have hleft : ((beyond limit).cutTo limit).payloadOf { number := 1, id := 10 } =
      ((List.replicate limit ({} : Session.Frame) ++ [engineFrame]).take limit).findSome?
        ((beyond limit).cutTo limit).payloadIn := rfl
  rw [search_eq]
  show (List.findSome? _ [({ number := 1, id := 10 } : Thread)]).bind _ = _
  rw [List.findSome?_singleton, hleft, List.take_left' List.length_replicate,
    findSome?_payloadIn_replicate]
  rfl

/-- An engine after the first `frameLimit` frames of a thread is found, and not in what the limit
would leave of the thread. A debugger that never refuses a caller keeps the search going for
good. -/
theorem search_deep :
    (search debugger (debugger.threads (beyond frameLimit)) none
        ((beyond frameLimit).cutTo frameLimit)).1 = none ∧
    (search debugger (debugger.threads (beyond frameLimit)) none (beyond frameLimit)).1 =
      some ⟨[{ function := some "onClicked" }]⟩ ∧
    (∀ level, (endless.perform .selectOlder level).1 = .ok ()) ∧
    ¬ ∃ result, AskedFrames endless 0 result := by
  refine ⟨search_beyond_cutTo frameLimit, search_beyond frameLimit, fun _ => rfl, ?_⟩
  rw [exists_askedFrames_iff]
  rintro ⟨n, hstops⟩
  exact not_stopsAt_endless _ hstops

end QmlStack

end CrashReport
