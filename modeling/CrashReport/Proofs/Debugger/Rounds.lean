import CrashReport.QmlStack
import Mathlib.Logic.Function.Iterate

/-!
# Where the search for a QML engine ends

The search goes from frame to frame towards the callers. It counts no frames: a round asks the
selected frame and selects its caller, and the rounds end with records or with a refusal. A
debugger can refuse nothing, where a corrupted stack leads on and on.

* **`QmlStack.AskedFrames`** — the rounds and what they come to, as a relation, since they need not
  come to an end;
* **`QmlStack.exists_askedFrames_iff`** — they end if and only if some round gives records or is
  refused the caller;
* **`QmlStack.endless`** — a debugger on which they do not end.
-/

namespace CrashReport.QmlStack

variable {σ : Type}

/-- The frames from the selected one on are asked until one gives records, or has no caller. The
answer is the records, and the state after that. -/
inductive AskedFrames (d : Debugger σ) : σ → Option String × σ → Prop
  | found {s t : σ} {payload : String} (hask : askFrame d s = (some payload, t)) :
      AskedFrames d s (some payload, t)
  | outermost {s t u : σ} {reason : DebuggerError} (hask : askFrame d s = (none, t))
      (holder : d.perform .selectOlder t = (.error reason, u)) : AskedFrames d s (none, u)
  | older {s t u : σ} {result : Option String × σ} (hask : askFrame d s = (none, t))
      (holder : d.perform .selectOlder t = (.ok (), u)) (hrest : AskedFrames d u result) :
      AskedFrames d s result

/-- The state after one round. -/
def nextFrame (d : Debugger σ) (s : σ) : σ := (d.perform .selectOlder (askFrame d s).2).2

/-- The search through the frames ends with the selected one. -/
def StopsAt (d : Debugger σ) (s : σ) : Prop :=
  (askFrame d s).1.isSome = true ∨
    ∃ reason, (d.perform .selectOlder (askFrame d s).2).1 = .error reason

variable {d : Debugger σ} {s t u : σ}

theorem AskedFrames.unique {result other : Option String × σ} (h : AskedFrames d s result)
    (h' : AskedFrames d s other) : result = other := by
  induction h with
  | found hask =>
      cases h' with
      | found hask' => exact hask.symm.trans hask'
      | outermost hask' => exact absurd (hask.symm.trans hask') (by simp)
      | older hask' => exact absurd (hask.symm.trans hask') (by simp)
  | outermost hask holder =>
      cases h' with
      | found hask' => exact absurd (hask.symm.trans hask') (by simp)
      | outermost hask' holder' =>
          obtain rfl := (Prod.mk.inj (hask.symm.trans hask')).2
          rw [(Prod.mk.inj (holder.symm.trans holder')).2]
      | older hask' holder' =>
          obtain rfl := (Prod.mk.inj (hask.symm.trans hask')).2
          exact absurd (holder.symm.trans holder') (by simp)
  | older hask holder _ ih =>
      cases h' with
      | found hask' => exact absurd (hask.symm.trans hask') (by simp)
      | outermost hask' holder' =>
          obtain rfl := (Prod.mk.inj (hask.symm.trans hask')).2
          exact absurd (holder.symm.trans holder') (by simp)
      | older hask' holder' hrest' =>
          obtain rfl := (Prod.mk.inj (hask.symm.trans hask')).2
          obtain rfl := (Prod.mk.inj (holder.symm.trans holder')).2
          exact ih hrest'

/-- A round ends the search, or the search goes on after it. -/
theorem exists_askedFrames_of_stopsAt (h : StopsAt d s) : ∃ result, AskedFrames d s result := by
  cases hask : askFrame d s with
  | mk answer t =>
      cases answer with
      | some payload => exact ⟨_, .found hask⟩
      | none =>
          unfold StopsAt at h
          rw [hask] at h
          obtain ⟨reason, hreason⟩ := h.resolve_left (by simp)
          exact ⟨_, .outermost hask (Prod.ext hreason rfl)⟩

theorem exists_askedFrames_of_nextFrame (h : ¬ StopsAt d s)
    (hnext : ∃ result, AskedFrames d (nextFrame d s) result) :
    ∃ result, AskedFrames d s result := by
  unfold StopsAt at h
  rw [not_or] at h
  obtain ⟨hnone, hgranted⟩ := h
  obtain ⟨result, hresult⟩ := hnext
  have hask : askFrame d s = (none, (askFrame d s).2) :=
    Prod.ext (Option.not_isSome_iff_eq_none.1 hnone) rfl
  have holder : d.perform .selectOlder (askFrame d s).2 = (.ok (), nextFrame d s) := by
    refine Prod.ext ?_ rfl
    cases hanswer : (d.perform .selectOlder (askFrame d s).2).1 with
    | ok => rfl
    | error reason => exact absurd ⟨reason, hanswer⟩ hgranted
  exact ⟨result, .older hask holder hresult⟩

/-- The search through the frames ends if and only if one of its rounds ends it. No number of
rounds is too great, and no number is enough. -/
theorem exists_askedFrames_iff (d : Debugger σ) (s : σ) :
    (∃ result, AskedFrames d s result) ↔ ∃ n, StopsAt d ((nextFrame d)^[n] s) := by
  constructor
  · rintro ⟨result, h⟩
    induction h with
    | found hask => exact ⟨0, .inl (by rw [Function.iterate_zero_apply, hask]; rfl)⟩
    | @outermost s t u reason hask holder =>
        exact ⟨0, .inr ⟨reason, by rw [Function.iterate_zero_apply, hask, holder]⟩⟩
    | @older s t u result hask holder _ ih =>
        obtain ⟨n, hn⟩ := ih
        have hnext : nextFrame d s = u := by
          unfold nextFrame
          rw [hask, holder]
        refine ⟨n + 1, ?_⟩
        rwa [Function.iterate_succ_apply, hnext]
  · rintro ⟨n, hn⟩
    induction n generalizing s with
    | zero => exact exists_askedFrames_of_stopsAt hn
    | succ n ih =>
        by_cases hstops : StopsAt d s
        · exact exists_askedFrames_of_stopsAt hstops
        · rw [Function.iterate_succ_apply] at hn
          exact exists_askedFrames_of_nextFrame hstops (ih (nextFrame d s) hn)

/-- A debugger that has unwound into nothing: each frame has a caller, and none has symbols. The
states are the levels. -/
def endless : Debugger Nat where
  isLive := fun _ => true
  coreFile := fun _ => none
  programPath := fun _ => none
  programBuildId := fun _ => none
  threads := fun _ => [{ number := 1, id := 10 }]
  selectedThread := fun _ => some 1
  depth := fun level => level
  functionName := fun _ => none
  location := fun _ => none
  libraryAt := fun _ _ => none
  allowDownloads := fun _ level => level
  perform := fun request level =>
    match request with
    | .switchThread _ => (.ok (), 0)
    | .selectNewest => (.ok (), 0)
    | .selectOlder => (.ok (), level + 1)
    | .selectFrame wanted => (.ok (), wanted)
    | .pc => (.ok 0, level)
    | .frameKind => (.ok .normal, level)
    | .symbols => (.ok [], level)
    | .registers => (.error (.unsupported "frame registers"), level)
    | .evaluate expression => (.error (.evaluation expression), level)
    | .staticText _ => (.ok none, level)
    | .mappings => (.ok "", level)
    | .buildIdAt address => (.error (.memory address), level)
    | .load file _ _ => (.error (.command file), level)

theorem not_stopsAt_endless (level : Nat) : ¬ StopsAt endless level := by
  rintro (hfound | ⟨reason, hrefused⟩)
  · cases hfound
  · cases hrefused

end CrashReport.QmlStack
