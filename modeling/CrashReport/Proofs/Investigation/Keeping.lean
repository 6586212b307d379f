import CrashReport.Investigation
import CrashReport.Proofs.Debugger.Following
import CrashReport.Proofs.Debugger.Keeping

/-!
# What investigating keeps

An investigation does more than read: it loads images, and it may forbid the use of the network.
A property of states that survives these as well (`Debugger.KeepsAll`) survives every step of an
investigation, on any debugger, whichever requests it refuses and however the step ends.

* **`Loader.invariant_loadFrames`**, **`invariant_loadThread`** — loading, where what holds of the
  debugger depends on what the loader has attempted;
* **`Investigation.keeps_trace`**, **`keeps_traceOthers`** — the tracing of one thread and of the
  others;
* **`Investigation.opening`** — where the tracing of the threads begins;
* **`Investigation.keeps_investigate`** — a whole investigation.
-/

namespace CrashReport

variable {σ : Type} {d : Debugger σ} {I : σ → Prop} {s : σ}

namespace Debugger

/-- Nothing that a debugger can be told to do takes it out of the states with a property. -/
structure KeepsAll (d : Debugger σ) (I : σ → Prop) : Prop where
  perform : ∀ {α : Type} (request : Request α) (s : σ), I s → I (d.perform request s).2
  allowDownloads : ∀ (allowed : Bool) (s : σ), I s → I (d.allowDownloads allowed s)

theorem KeepsAll.keeps (hd : d.KeepsAll I) : d.Keeps I :=
  fun request s _ hs => hd.perform request s hs

/-- No request that stays with the selected thread takes the debugger out of the states with a
property. -/
def KeepsWithin (d : Debugger σ) (I : σ → Prop) : Prop :=
  ∀ {α : Type} (request : Request α) (s : σ), request.isSwitch = false → I s →
    I (d.perform request s).2

theorem KeepsAll.within (hd : d.KeepsAll I) : d.KeepsWithin I :=
  fun request s _ hs => hd.perform request s hs

end Debugger

namespace Loader

theorem keeps_start (hd : d.KeepsAll I) (tier : Tier) (hs : I s) : I (start tier d s).2 := by
  unfold start
  dsimp only
  split
  · exact hs
  · exact hd.allowDownloads false s hs

theorem keeps_loadImage (hd : d.KeepsWithin I) (l : Loader) (image : Image) (hs : I s) :
    I (l.loadImage d image s).2.2 := by
  have hload := hd (.load image.file image.base l.tier.detail) s rfl hs
  unfold loadImage
  split
  · exact hs
  · dsimp only
    split
    · rename_i heq
      rwa [heq] at hload
    · rename_i heq
      rw [heq] at hload
      split <;> exact hload

/-- What every other request keeps, and the attempt at an image, holds of the loader and the
debugger after the images of frames have been loaded. -/
theorem invariant_loadFrames {J : Loader → σ → Prop}
    (hrequest : ∀ {α : Type} (request : Request α) (l : Loader) (s : σ), request.isLoad = false →
      request.isSwitch = false → J l s → J l (d.perform request s).2)
    (himage : ∀ (l : Loader) (image : Image) (s : σ), J l s →
      J (l.loadImage d image s).2.1 (l.loadImage d image s).2.2)
    (roster : Roster) (fuel level : Nat) (l : Loader) (h : J l s) :
    J (loadFrames d roster fuel level l s).2.1 (loadFrames d roster fuel level l s).2.2 := by
  induction fuel generalizing level l s with
  | zero => exact h
  | succ fuel ih =>
      have hselect := hrequest (.selectFrame level) l s rfl rfl h
      unfold loadFrames
      split
      · rename_i heq
        rwa [heq] at hselect
      · rename_i selected heq
        rw [heq] at hselect
        have hpc := hrequest .pc l selected rfl rfl hselect
        split
        · rename_i heq
          rwa [heq] at hpc
        · rename_i pc after heq
          rw [heq] at hpc
          split
          · exact ih (level + 1) l hpc
          · rename_i image _
            have hloaded := himage l image after hpc
            split
            · rename_i heq
              rwa [heq] at hloaded
            · rename_i heq
              rw [heq] at hloaded
              exact ih (level + 1) _ hloaded

theorem invariant_loadThread {J : Loader → σ → Prop}
    (hrequest : ∀ {α : Type} (request : Request α) (l : Loader) (s : σ), request.isLoad = false →
      J l s → J l (d.perform request s).2)
    (himage : ∀ (l : Loader) (image : Image) (s : σ), J l s →
      J (l.loadImage d image s).2.1 (l.loadImage d image s).2.2)
    (l : Loader) (roster : Roster) (thread : Thread) (crashed : Bool) (h : J l s) :
    J (l.loadThread d roster thread crashed s).2.1 (l.loadThread d roster thread crashed s).2.2 := by
  have hswitch := hrequest (.switchThread thread.number) l s rfl h
  unfold loadThread
  split
  · split
    · rename_i heq
      rwa [heq] at hswitch
    · rename_i heq
      rw [heq] at hswitch
      have hframes := invariant_loadFrames (fun request l s hread _ => hrequest request l s hread)
        himage roster frameLimit 0 l hswitch
      exact hrequest .selectNewest _ _ rfl hframes
  · exact h

theorem keeps_loadFrames (hd : d.KeepsWithin I) (roster : Roster) (fuel level : Nat) (l : Loader)
    (hs : I s) : I (loadFrames d roster fuel level l s).2.2 :=
  invariant_loadFrames (J := fun _ => I) (fun request _ s _ hwithin => hd request s hwithin)
    (fun l image _ => keeps_loadImage hd l image) roster fuel level l hs

theorem keeps_loadThread (hd : d.KeepsAll I) (l : Loader) (roster : Roster) (thread : Thread)
    (crashed : Bool) (hs : I s) : I (l.loadThread d roster thread crashed s).2.2 :=
  invariant_loadThread (J := fun _ => I) (fun request _ s _ => hd.perform request s)
    (fun l image _ => keeps_loadImage hd.within l image) l roster thread crashed hs

/-- What holds once the thread is selected holds after its images have been loaded. -/
theorem keeps_loadThread_of_select (hd : d.KeepsWithin I) (l : Loader) (roster : Roster)
    {thread : Thread} {crashed : Bool} {selected : σ} (hloads : l.tier.loads crashed = true)
    (hswitch : d.perform (.switchThread thread.number) s = (.ok (), selected))
    (hs : I selected) : I (l.loadThread d roster thread crashed s).2.2 := by
  unfold loadThread
  rw [if_pos hloads, hswitch]
  exact hd .selectNewest _ rfl (keeps_loadFrames hd roster frameLimit 0 l hs)

end Loader

/-- What holds once the thread is selected holds after its stack has been read. -/
theorem Unwind.keeps_unwind_of_select (hd : d.Keeps I) (roster : Roster) {thread : Thread}
    (o : Unwind.Options) {selected : σ}
    (hswitch : d.perform (.switchThread thread.number) s = (.ok (), selected))
    (hs : I selected) : I (unwind d roster thread o s).2 := by
  unfold unwind
  rw [hswitch]
  exact hd.atNewestFrame (keeps_visit hd roster o hs)

namespace Investigation

variable {o : Options} {r : Roster} {crashed : UInt32}

theorem keeps_handlerMessage (hd : d.KeepsAll I) (hs : I s) : I (handlerMessage d s).2 :=
  hd.perform (.staticText messageVariable) s hs

theorem keeps_roster (hd : d.KeepsAll I) (o : Options) (hs : I s) : I (roster d o s).2 := by
  unfold roster
  split
  · exact Roster.keeps_ofProcess hd.keeps _ hs
  · split <;> exact hs

theorem keeps_trace (hd : d.KeepsAll I) (p : Progress) (thread : Thread) (hs : I s) :
    I (p.trace d o r crashed thread s).2.2 := by
  unfold Progress.trace
  split
  · exact hs
  · have hload := Loader.keeps_loadThread hd p.loader r thread (thread.number = crashed) hs
    dsimp only
    split
    · rename_i heq
      rwa [heq] at hload
    · rename_i count l after heq
      rw [heq] at hload
      have hunwind := Unwind.keeps_unwind hd.keeps r thread
        (unwindOptions o (thread.number = crashed)) hload
      split
      · rename_i heq
        rwa [heq] at hunwind
      · rename_i heq
        rwa [heq] at hunwind

theorem keeps_traceOthers (hd : d.KeepsAll I) (threads : List Thread) (p : Progress) (hs : I s) :
    I (traceOthers d o r crashed threads p s).2.2 := by
  induction threads generalizing p s with
  | nil => exact hs
  | cons thread rest ih =>
      unfold traceOthers
      split
      · exact ih p hs
      · have htrace : I (p.trace d o r crashed thread s).2.2 := keeps_trace hd p thread hs
        split
        · rename_i heq
          rw [heq] at htrace
          exact ih _ htrace
        · rename_i heq
          rw [heq] at htrace
          exact ih _ htrace
        · rename_i heq
          rwa [heq] at htrace

theorem keeps_traceAll (hd : d.KeepsAll I) (thread : Thread) (threads : List Thread)
    (p : Progress) (hs : I s) : I (traceAll d o r thread threads p s).2.2 := by
  unfold traceAll
  split
  · have htrace : I (p.trace d o r thread.number thread s).2.2 := keeps_trace hd p thread hs
    split
    · rename_i heq
      rw [heq] at htrace
      exact keeps_traceOthers hd threads _ htrace
    · rename_i heq
      rwa [heq] at htrace
  · exact keeps_traceOthers hd threads p hs

theorem keeps_qmlStack (hd : d.KeepsAll I) (threads : List Thread) (hs : I s) :
    I (qmlStack d o threads s).2 := by
  unfold qmlStack
  split
  · exact QmlStack.keeps_search hd.keeps threads o.home hs
  · exact hs

/-- The images of a session, and the state in which the tracing of its threads begins. -/
def opening (d : Debugger σ) (o : Options) (s : σ) : Roster × σ :=
  let read := roster d o (handlerMessage d s).2
  (read.1, (Loader.start o.tier d read.2).2)

/-- An investigation after its opening. -/
theorem investigateThread_eq_opening (d : Debugger σ) (o : Options) (crashed : Thread) (s : σ) :
    investigateThread d o crashed s =
      match traceAll d o (opening d o s).1 crashed (d.threads s) { loader := { tier := o.tier } }
        (opening d o s).2 with
      | (.error failure, _, t) => (.error failure, t)
      | (.ok _, p, t) =>
        let (qml, u) := qmlStack d o (d.threads s) t
        match missingBuildId? (opening d o s).1.images with
        | some failure => (.error failure, u)
        | none =>
          (.ok (report o (d.programPath u) (d.programBuildId u) crashed (d.threads s)
            (opening d o s).1.images (handlerMessage d s).1 qml p), u) := rfl

theorem keeps_opening (hd : d.KeepsAll I) (o : Options) (hs : I s) : I (opening d o s).2 :=
  Loader.keeps_start hd o.tier (keeps_roster hd o (keeps_handlerMessage hd hs))

/-- What comes after the tracing of the threads keeps the property. -/
theorem keeps_investigateThread_of_traceAll (hd : d.KeepsAll I) (thread : Thread)
    (htrace : I (traceAll d o (opening d o s).1 thread (d.threads s)
      { loader := { tier := o.tier } } (opening d o s).2).2.2) :
    I (investigateThread d o thread s).2 := by
  rw [investigateThread_eq_opening]
  split
  · rename_i heq
    rwa [heq] at htrace
  · rename_i p after heq
    rw [heq] at htrace
    have hqml : I (qmlStack d o (d.threads s) after).2 := keeps_qmlStack hd (d.threads s) htrace
    dsimp only
    split <;> exact hqml

theorem keeps_investigateThread (hd : d.KeepsAll I) (thread : Thread) (hs : I s) :
    I (investigateThread d o thread s).2 := by
  apply keeps_investigateThread_of_traceAll hd
  exact keeps_traceAll hd thread _ _ (keeps_opening hd o hs)

theorem keeps_investigate (hd : d.KeepsAll I) (hs : I s) : I (investigate d o s).2 := by
  apply Debugger.Keeps.keepingThread hd.keeps
  split
  · exact hs
  · exact keeps_investigateThread hd _ hs

end Investigation

end CrashReport
