import CrashReport.Proofs.Investigation.Keeping
import CrashReport.Proofs.Session.Requests

/-!
# The states of a session

A session begins at the newest frame of the thread that is selected. From there requests move its
selection, and until a recording is complete threads and other facts are added to it. Threads
may have no frames, and the selected one may not even be listed, so the selection need not stand
at a frame; but then its level is that of a newest frame.

* **`Session.Reachable`** — the states that come about in this way;
* **`Session.Placed`** — the selection stands at a frame, or at level 0. No request loses that
  (`placed_perform`), so every reachable state has it (`Reachable.placed`);
* **`Session.toNewestFrame_eq`** — where the selection is placed, it is put back to level 0.
-/

namespace CrashReport.Session

variable {s t : Session} {record : ThreadRecord}

/-- The selection stands at a frame of the selected thread, or where its newest one would be. -/
def Placed (s : Session) : Prop := s.level = 0 ∨ s.level < s.frames.length

/-- The states in which a session can be. It is read, or made by hand, with the newest frame
selected. It answers requests, threads are added to it, and anything but the threads and the
selection may be set. -/
inductive Reachable : Session → Prop
  | begin {s : Session} (h : s.level = 0) : Reachable s
  | perform {α : Type} (request : Request α) {s : Session} (h : Reachable s) :
      Reachable (perform request s).2
  | addThread (record : ThreadRecord) {s : Session} (h : Reachable s) :
      Reachable (s.addThread record)
  | amend {s t : Session} (h : Reachable s) (hselected : t.selected = s.selected)
      (hlevel : t.level = s.level) (hthreads : t.threads = s.threads) : Reachable t

theorem frames_eq_of_eq (hselected : t.selected = s.selected) (hthreads : t.threads = s.threads) :
    t.frames = s.frames := by
  unfold frames current? thread?
  rw [hselected, hthreads]

theorem Placed.of_eq (h : s.Placed) (hselected : t.selected = s.selected)
    (hlevel : t.level = s.level) (hthreads : t.threads = s.threads) : t.Placed := by
  unfold Placed
  rw [hlevel, frames_eq_of_eq hselected hthreads]
  exact h

theorem Placed.level_eq_zero (h : s.Placed) (hframes : s.frames = []) : s.level = 0 := by
  rcases h with hzero | hlt
  · exact hzero
  · rw [hframes] at hlt
    exact absurd hlt (Nat.not_lt_zero _)

/-- Wherever a request leads the selection, there is a frame, or it is at level 0. -/
theorem placed_perform {α : Type} (request : Request α) (h : s.Placed) :
    (perform request s).2.Placed := by
  cases request with
  | switchThread number =>
      -- a selection starts at the newest frame, and a refusal leaves everything as it was
      rcases switchThread_cases number s with ⟨_, -, -, hswitch⟩ | hswitch
      · have hperform : perform (.switchThread number) s = _ := hswitch
        rw [hperform]
        exact .inl rfl
      · have hperform : perform (.switchThread number) s = _ := hswitch
        rwa [hperform]
  | selectNewest =>
      by_cases hframes : s.frames = []
      · rwa [perform_selectNewest_of_nil hframes]
      · rw [perform_selectNewest hframes]
        exact .inl rfl
  | selectOlder =>
      rcases Nat.lt_or_ge (s.level + 1) s.frames.length with hlt | hle
      · rw [perform_selectOlder hlt]
        exact .inr hlt
      · rwa [perform_selectOlder_of_le hle]
  | selectFrame level =>
      rcases Nat.lt_or_ge level s.frames.length with hlt | hle
      · rw [perform_selectFrame hlt]
        exact .inr hlt
      · rwa [perform_selectFrame_of_le hle]
  | load file address detail =>
      rw [perform_load]
      exact h.of_eq rfl rfl rfl
  | evaluate | mappings | buildIdAt =>
      simp only [perform]
      split <;> exact h
  | pc | frameKind | symbols | registers | staticText => exact h

/-- A thread that is added does not take the place of one that is found already. -/
theorem placed_addThread (record : ThreadRecord) (h : s.Placed) : (s.addThread record).Placed := by
  cases hcurrent : s.current? with
  | none =>
      have hframes : s.frames = [] := by
        unfold frames
        rw [hcurrent]
        rfl
      exact .inl (h.level_eq_zero hframes)
  | some current =>
      obtain ⟨number, hselected, hthread⟩ := Option.bind_eq_some_iff.1 hcurrent
      have hfirst : s.threads.find? (fun other => other.thread.number = number) = some current :=
        hthread
      have hfound : (s.addThread record).thread? number = some current := by
        unfold addThread thread?
        rw [List.find?_append, hfirst, Option.some_or]
      have hkept : (s.addThread record).selected = some number := by
        unfold addThread
        rw [hselected, Option.some_or]
      have hframes : (s.addThread record).frames = s.frames := by
        unfold frames current?
        rw [hkept, hselected, Option.bind_some, Option.bind_some, hfound, hthread]
      unfold Placed
      rw [hframes]
      exact h

theorem Reachable.placed (h : s.Reachable) : s.Placed := by
  induction h with
  | begin hlevel => exact .inl hlevel
  | perform request _ ih => exact placed_perform request ih
  | addThread record _ ih => exact placed_addThread record ih
  | amend _ hselected hlevel hthreads ih => exact ih.of_eq hselected hlevel hthreads

theorem keepsAll_recording (s : Session) :
    debugger.KeepsAll fun t => t.recording = s.recording where
  perform := fun request t h => (recording_perform request t).trans h
  allowDownloads := fun _ _ h => h

theorem keepsAll_reachable : debugger.KeepsAll Reachable where
  perform := fun request _ h => h.perform request
  allowDownloads := fun _ _ h => h.amend rfl rfl rfl

/-- The newest frame is selected; where the thread has none, the selection is at its level. -/
theorem toNewestFrame_eq (h : s.Placed) : debugger.toNewestFrame s = s.atLevel 0 := by
  unfold Debugger.toNewestFrame
  by_cases hframes : s.frames = []
  · have hnewest : debugger.perform .selectNewest s = _ := perform_selectNewest_of_nil hframes
    rw [hnewest]
    have hlevel := h.level_eq_zero hframes
    cases s
    subst hlevel
    rfl
  · have hnewest : debugger.perform .selectNewest s = _ := perform_selectNewest hframes
    rw [hnewest]

end CrashReport.Session
