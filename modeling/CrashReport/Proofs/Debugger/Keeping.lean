import CrashReport.QmlStack
import CrashReport.Roster
import CrashReport.Unwind

/-!
# What reading keeps

Reading a process moves the selection and asks for many things, but it loads nothing. So a
property of states that survives every request but a load (`Debugger.Keeps`) survives the
making of a roster, the unwinding of a thread and the search for a QML engine, on any debugger and
whichever requests it refuses.
-/

namespace CrashReport

/-- The request is one to load an image. -/
def Request.isLoad {α : Type} : Request α → Bool
  | .load _ _ _ => true
  | _ => false

variable {σ α : Type} {d : Debugger σ} {I : σ → Prop} {s : σ}

namespace Debugger

/-- No request but a load takes the debugger out of the states with a property. -/
def Keeps (d : Debugger σ) (I : σ → Prop) : Prop :=
  ∀ {α : Type} (request : Request α) (s : σ), request.isLoad = false → I s →
    I (d.perform request s).2

theorem Keeps.toNewestFrame (hd : d.Keeps I) (hs : I s) : I (d.toNewestFrame s) :=
  hd .selectNewest s rfl hs

theorem Keeps.atNewestFrame (hd : d.Keeps I) {work : σ → α × σ} (hwork : I (work s).2) :
    I (d.atNewestFrame work s).2 := hd.toNewestFrame hwork

theorem Keeps.toThread (hd : d.Keeps I) (number : Option UInt32) (hs : I s) :
    I (d.toThread number s) := by
  cases number with
  | none => exact hd.toNewestFrame hs
  | some number => exact hd.toNewestFrame (hd (.switchThread number) s rfl hs)

theorem Keeps.refusing (hd : d.Keeps I)
    (refusal : {α : Type} → Request α → σ → Option DebuggerError) :
    (d.refusing refusal).Keeps I := by
  intro α request s hread hs
  unfold Debugger.refusing
  dsimp only
  split
  · exact hs
  · exact hd request s hread hs

theorem Keeps.keepingThread (hd : d.Keeps I) {work : σ → α × σ} (hwork : I (work s).2) :
    I (d.keepingThread work s).2 := hd.toThread _ hwork

end Debugger

namespace Roster

theorem keeps_readImages (hd : d.Keeps I) (program : Option String) (regions : List Region)
    (hs : I s) : I (readImages d program regions s).2 := by
  induction regions generalizing s with
  | nil => exact hs
  | cons region rest ih => exact ih (hd (.buildIdAt region.start) s rfl hs)

theorem keeps_ofProcess (hd : d.Keeps I) (canonical : String → String) (hs : I s) :
    I (ofProcess d canonical s).2 := by
  have hmappings := hd .mappings s rfl hs
  unfold ofProcess
  split
  · rename_i heq
    rwa [heq] at hmappings
  · rename_i heq
    rw [heq] at hmappings
    exact keeps_readImages hd _ _ hmappings

end Roster

namespace Unwind

theorem keeps_readFrame (hd : d.Keeps I) (roster : Roster) (o : Options) (hs : I s) :
    I (readFrame d roster o s).2 := by
  have hpc := hd .pc s rfl hs
  unfold readFrame
  split
  · rename_i heq
    rwa [heq] at hpc
  · rename_i after heq
    rw [heq] at hpc
    have hkind := hd .frameKind after rfl hpc
    dsimp only
    split
    · exact hd .symbols _ rfl hkind
    · exact hkind

theorem keeps_frames (hd : d.Keeps I) (roster : Roster) (o : Options) (fuel : Nat)
    (hs : I s) : I (frames d roster o fuel s).2 := by
  induction fuel generalizing s with
  | zero => exact hs
  | succ fuel ih =>
      have hframe := keeps_readFrame hd roster o hs
      unfold frames
      split
      · rename_i heq
        rwa [heq] at hframe
      · rename_i frame after heq
        rw [heq] at hframe
        have holder := hd .selectOlder after rfl hframe
        split
        · exact hframe
        · split
          · rename_i heq
            rwa [heq] at holder
          · rename_i heq
            rw [heq] at holder
            exact ih holder

theorem keeps_visit (hd : d.Keeps I) (roster : Roster) (o : Options) (hs : I s) :
    I (visit d roster o s).2 := by
  have hnewest := hd .selectNewest s rfl hs
  unfold visit
  split
  · rename_i heq
    rwa [heq] at hnewest
  · rename_i after heq
    rw [heq] at hnewest
    have hregisters : I (readRegisters d o after).2 := by
      unfold readRegisters
      split
      · exact hd .registers after rfl hnewest
      · exact hnewest
    exact keeps_frames hd roster o frameLimit hregisters

theorem keeps_unwind (hd : d.Keeps I) (roster : Roster) (thread : Thread) (o : Options)
    (hs : I s) : I (unwind d roster thread o s).2 := by
  have hswitch := hd (.switchThread thread.number) s rfl hs
  unfold unwind
  split
  · rename_i heq
    rwa [heq] at hswitch
  · rename_i heq
    rw [heq] at hswitch
    exact hd.atNewestFrame (keeps_visit hd roster o hswitch)

/-- The stack is that of the thread that was asked for. -/
theorem thread_of_unwind_eq_ok {roster : Roster} {thread : Thread} {o : Options} {stack : Stack}
    (h : (unwind d roster thread o s).1 = .ok stack) : stack.thread = thread := by
  unfold unwind at h
  split at h
  · cases h
  · cases h
    rfl

end Unwind

namespace QmlStack

theorem keeps_ask (hd : d.Keeps I) (questions : List String) (hs : I s) :
    I (ask d questions s).2 := by
  induction questions generalizing s with
  | nil => exact hs
  | cons expression rest ih =>
      have hevaluate := hd (.evaluate expression) s rfl hs
      unfold ask
      split
      · rename_i heq
        rw [heq] at hevaluate
        exact ih hevaluate
      · rename_i heq
        rw [heq] at hevaluate
        split
        · exact hevaluate
        · exact ih hevaluate

theorem keeps_askFrame (hd : d.Keeps I) (hs : I s) : I (askFrame d s).2 := by
  have hsymbols := hd .symbols s rfl hs
  unfold askFrame
  split
  · rename_i heq
    rwa [heq] at hsymbols
  · rename_i heq
    rw [heq] at hsymbols
    exact keeps_ask hd _ hsymbols

theorem keeps_askFrames (hd : d.Keeps I) (fuel : Nat) (hs : I s) : I (askFrames d fuel s).2 := by
  induction fuel generalizing s with
  | zero => exact hs
  | succ fuel ih =>
      have hframe := keeps_askFrame hd hs
      unfold askFrames
      split
      · rename_i heq
        rwa [heq] at hframe
      · rename_i after heq
        rw [heq] at hframe
        have holder := hd .selectOlder after rfl hframe
        split
        · rename_i heq
          rwa [heq] at holder
        · rename_i heq
          rw [heq] at holder
          exact ih holder

theorem keeps_askThreads (hd : d.Keeps I) (threads : List Thread) (hs : I s) :
    I (askThreads d threads s).2 := by
  induction threads generalizing s with
  | nil => exact hs
  | cons thread rest ih =>
      have hswitch := hd (.switchThread thread.number) s rfl hs
      unfold askThreads
      split
      · split
        · rename_i heq
          rw [heq] at hswitch
          exact ih hswitch
        · rename_i switched heq
          rw [heq] at hswitch
          have hnewest := hd .selectNewest switched rfl hswitch
          split
          · rename_i heq
            rw [heq] at hnewest
            exact ih hnewest
          · rename_i newest heq
            rw [heq] at hnewest
            have hframes := keeps_askFrames hd (d.depth newest) hnewest
            split
            · rename_i heq
              rwa [heq] at hframes
            · rename_i heq
              rw [heq] at hframes
              exact ih hframes
      · exact ih hs

theorem keeps_search (hd : d.Keeps I) (threads : List Thread) (home : Option String) (hs : I s) :
    I (search d threads home s).2 :=
  hd.keepingThread (keeps_askThreads hd threads hs)

end QmlStack

end CrashReport
