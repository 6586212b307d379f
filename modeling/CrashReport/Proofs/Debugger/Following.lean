import CrashReport.QmlStack
import CrashReport.Roster
import CrashReport.Unwind
import Mathlib.Data.List.Forall2

/-!
# Debuggers that answer alike

Work on a debugger is decided by the answers that it gets. So if a map of states carries the
answers of one debugger over to those of another (`Debugger.Follows`), it carries over the work
that is done on it: what is loaded, what is read of a stack, and what is found in the search for
a QML engine.

Two kinds of requests are left open, because debuggers that fail are told apart by them:

* which threads can be selected. A thread that the first debugger always refuses may be listed as
  one that is not valid by the second (`Debugger.Counterpart`);
* reads that a report can do without (`Request.isOptional`). Loads do not depend on them.
-/

namespace CrashReport

/-- A report is made without the answer to the request, if need be. -/
def Request.isOptional {α : Type} : Request α → Bool
  | .symbols | .registers | .evaluate _ | .staticText _ => true
  | _ => false

/-- The request is one to select a thread. -/
def Request.isSwitch {α : Type} : Request α → Bool
  | .switchThread _ => true
  | _ => false

variable {σ τ α : Type} {d : Debugger σ} {e : Debugger τ} {f : σ → τ}

namespace Debugger

/-- A request has the same answer in a state and in its image, and leads to states of which one
is the image of the other. -/
def Alike (d : Debugger σ) (e : Debugger τ) (f : σ → τ) (request : Request α) : Prop :=
  ∀ s, e.perform request (f s) = Prod.map id f (d.perform request s)

/-- The second debugger says in the image of a state what the first one says in the state. -/
structure Follows (d : Debugger σ) (e : Debugger τ) (f : σ → τ) : Prop where
  isLive : ∀ s, e.isLive (f s) = d.isLive s
  coreFile : ∀ s, e.coreFile (f s) = d.coreFile s
  programPath : ∀ s, e.programPath (f s) = d.programPath s
  programBuildId : ∀ s, e.programBuildId (f s) = d.programBuildId s
  selectedThread : ∀ s, e.selectedThread (f s) = d.selectedThread s
  depth : ∀ s, e.depth (f s) = d.depth s
  functionName : ∀ s, e.functionName (f s) = d.functionName s
  location : ∀ s, e.location (f s) = d.location s
  libraryAt : ∀ address s, e.libraryAt address (f s) = d.libraryAt address s
  allowDownloads : ∀ allowed s, e.allowDownloads allowed (f s) = f (d.allowDownloads allowed s)
  state : ∀ {α : Type} (request : Request α) s,
    (e.perform request (f s)).2 = f (d.perform request s).2
  alike : ∀ {α : Type} (request : Request α), request.isSwitch = false →
    request.isOptional = false → d.Alike e f request

namespace Follows

theorem toNewestFrame (h : d.Follows e f) (s : σ) :
    e.toNewestFrame (f s) = f (d.toNewestFrame s) := h.state .selectNewest s

theorem toThread (h : d.Follows e f) (number : Option UInt32) (s : σ) :
    e.toThread number (f s) = f (d.toThread number s) := by
  cases number with
  | none => exact h.toNewestFrame s
  | some number =>
      show e.toNewestFrame (e.perform (.switchThread number) (f s)).2 = _
      rw [h.state, h.toNewestFrame]
      rfl

theorem atNewestFrame (h : d.Follows e f) (work : σ → α × σ) {work' : τ → α × τ} {s : σ}
    (hwork : work' (f s) = Prod.map id f (work s)) :
    e.atNewestFrame work' (f s) = Prod.map id f (d.atNewestFrame work s) := by
  unfold Debugger.atNewestFrame
  rw [hwork]
  exact Prod.ext rfl (h.toNewestFrame (work s).2)

theorem keepingThread (h : d.Follows e f) {work : σ → α × σ} {work' : τ → α × τ} {s : σ}
    (hwork : work' (f s) = Prod.map id f (work s)) :
    e.keepingThread work' (f s) = Prod.map id f (d.keepingThread work s) := by
  unfold Debugger.keepingThread
  rw [hwork, h.selectedThread]
  exact Prod.ext rfl (h.toThread (d.selectedThread s) (work s).2)

end Follows

/-- What the second debugger lists in the place of a thread: the thread itself, if both select it or
refuse it alike, or one that is not valid, if the first debugger refuses it. -/
inductive Counterpart (d : Debugger σ) (e : Debugger τ) (f : σ → τ) : Thread → Thread → Prop where
  | same {thread : Thread} (hswitch : d.Alike e f (.switchThread thread.number)) :
      Counterpart d e f thread thread
  | refused {thread other : Thread} (hnumber : other.number = thread.number)
      (hvalid : other.valid = false)
      (hrefused : ∀ s, ∃ reason, d.perform (.switchThread thread.number) s = (.error reason, s)) :
      Counterpart d e f thread other

end Debugger

/-! ### Images -/

namespace Roster

theorem owner_follows (h : d.Follows e f) (r : Roster) (address : UInt64) (s : σ) :
    r.owner e address (f s) = r.owner d address s := by
  unfold owner
  rw [h.libraryAt]

theorem locate_follows (h : d.Follows e f) (r : Roster) (address : UInt64) (s : σ) :
    r.locate e address (f s) = r.locate d address s := by
  unfold locate
  rw [owner_follows h]

theorem readImages_follows (h : d.Follows e f) (program : Option String)
    (regions : List Region) (s : σ) :
    readImages e program regions (f s) = Prod.map id f (readImages d program regions s) := by
  induction regions generalizing s with
  | nil => rfl
  | cons region rest ih =>
      unfold readImages
      rw [h.alike (.buildIdAt region.start) rfl rfl]
      dsimp only [Prod.map]
      rw [ih]
      rfl

theorem ofProcess_follows (h : d.Follows e f) (canonical : String → String) (s : σ) :
    ofProcess e canonical (f s) = Prod.map id f (ofProcess d canonical s) := by
  unfold ofProcess
  rw [h.alike .mappings rfl rfl]
  obtain ⟨_ | report, t⟩ := d.perform .mappings s
  · rfl
  · dsimp only [Prod.map, id]
    rw [h.programPath, readImages_follows h]
    rfl

end Roster

/-! ### Loads -/

namespace Loader

theorem start_follows (h : d.Follows e f) (tier : Tier) (s : σ) :
    start tier e (f s) = Prod.map id f (start tier d s) := by
  unfold start
  split
  · rfl
  · rw [h.allowDownloads]
    rfl

theorem loadImage_follows (h : d.Follows e f) (l : Loader) (image : Image) (s : σ) :
    l.loadImage e image (f s) = Prod.map id (Prod.map id f) (l.loadImage d image s) := by
  unfold loadImage
  split
  · rfl
  · dsimp only
    rw [h.alike (.load image.file image.base l.tier.detail) rfl rfl]
    obtain ⟨_ | found, t⟩ := d.perform (.load image.file image.base l.tier.detail) s
    · rfl
    · dsimp only [Prod.map, id]
      split <;> rfl

theorem loadFrames_follows (h : d.Follows e f) (roster : Roster) (fuel level : Nat) (l : Loader)
    (s : σ) : loadFrames e roster fuel level l (f s) =
      Prod.map id (Prod.map id f) (loadFrames d roster fuel level l s) := by
  induction fuel generalizing level l s with
  | zero => rfl
  | succ fuel ih =>
      unfold loadFrames
      rw [h.alike (.selectFrame level) rfl rfl]
      obtain ⟨_ | _, selected⟩ := d.perform (.selectFrame level) s
      · rfl
      · dsimp only [Prod.map, id]
        rw [h.alike .pc rfl rfl]
        obtain ⟨_ | pc, read⟩ := d.perform .pc selected
        · rfl
        · dsimp only [Prod.map, id]
          rw [Roster.locate_follows h]
          cases roster.locate d pc read with
          | none => exact ih (level + 1) l read
          | some image =>
              dsimp only
              rw [loadImage_follows h]
              obtain ⟨_ | loaded, l', after⟩ := l.loadImage d image read
              · rfl
              · dsimp only [Prod.map, id]
                rw [ih]
                rfl

theorem loadThread_follows (h : d.Follows e f) (l : Loader) (roster : Roster) {thread : Thread}
    (hswitch : d.Alike e f (.switchThread thread.number)) (crashed : Bool) (s : σ) :
    l.loadThread e roster thread crashed (f s) =
      Prod.map id (Prod.map id f) (l.loadThread d roster thread crashed s) := by
  unfold loadThread
  split
  · rw [hswitch]
    obtain ⟨_ | _, selected⟩ := d.perform (.switchThread thread.number) s
    · rfl
    · dsimp only [Prod.map, id]
      rw [h.atNewestFrame fun s =>
        let run := loadFrames d roster frameLimit 0 l s
        ((run.1, run.2.1), run.2.2)]
      · rfl
      · rw [loadFrames_follows h]
        rfl
  · rfl

end Loader

/-! ### Stacks -/

namespace Unwind

/-- The symbols of the selected frame, if they are wanted and can be read. -/
def readVars (d : Debugger σ) (o : Options) (s : σ) : Option (Table String) × σ :=
  if o.capture then
    let (symbols, s) := d.perform .symbols s
    (symbols.toOption.map varTable, s)
  else (none, s)

/-- What is read of the selected frame once its program counter is known. -/
def readAt (d : Debugger σ) (roster : Roster) (o : Options) (pc : UInt64) (s : σ) :
    Stack.Frame × σ :=
  let (kind, s) := d.perform .frameKind s
  let location := d.location s
  let (vars, after) := readVars d o s
  ({ pc := pc
     kind := kind.toOption.getD .normal
     function := d.functionName s
     file := (location.bind Location.file).map (Path.hideHome o.home)
     line := location.bind Location.line
     image := (roster.locate d pc s).map Image.file
     vars := vars }, after)

theorem readFrame_eq_readAt (d : Debugger σ) (roster : Roster) (o : Options) (s : σ) :
    readFrame d roster o s =
      match d.perform .pc s with
      | (.error reason, s) => (.error reason, s)
      | (.ok pc, s) => Prod.map .ok id (readAt d roster o pc s) := by
  unfold readFrame
  obtain ⟨_ | pc, read⟩ := d.perform .pc s
  · rfl
  · unfold readAt readVars
    cases o.capture <;> rfl

theorem readVars_follows (hsymbols : d.Alike e f .symbols) (o : Options)
    (s : σ) : readVars e o (f s) = Prod.map id f (readVars d o s) := by
  unfold readVars
  rw [hsymbols]
  split <;> rfl

theorem readAt_follows (h : d.Follows e f) (hsymbols : d.Alike e f .symbols) (r : Roster)
    (o : Options) (pc : UInt64) (s : σ) :
    readAt e r o pc (f s) = Prod.map id f (readAt d r o pc s) := by
  unfold readAt
  rw [h.alike .frameKind rfl rfl]
  obtain ⟨kind, read⟩ := d.perform .frameKind s
  dsimp only [Prod.map, id]
  rw [h.functionName, h.location, Roster.locate_follows h, readVars_follows hsymbols]
  rfl

theorem readFrame_follows (h : d.Follows e f) (hsymbols : d.Alike e f .symbols) (r : Roster)
    (o : Options) (s : σ) : readFrame e r o (f s) = Prod.map id f (readFrame d r o s) := by
  rw [readFrame_eq_readAt, readFrame_eq_readAt, h.alike .pc rfl rfl]
  obtain ⟨_ | pc, read⟩ := d.perform .pc s
  · rfl
  · dsimp only [Prod.map, id]
    rw [readAt_follows h hsymbols]
    rfl

theorem frames_follows (h : d.Follows e f) (hsymbols : d.Alike e f .symbols) (r : Roster)
    (o : Options) (fuel : Nat) (s : σ) :
    frames e r o fuel (f s) = Prod.map id f (frames d r o fuel s) := by
  induction fuel generalizing s with
  | zero => rfl
  | succ fuel ih =>
      unfold frames
      rw [readFrame_follows h hsymbols]
      obtain ⟨_ | frame, read⟩ := readFrame d r o s
      · rfl
      · dsimp only [Prod.map, id]
        split
        · rfl
        · rw [h.alike .selectOlder rfl rfl]
          obtain ⟨_ | _, older⟩ := d.perform .selectOlder read
          · rfl
          · dsimp only [Prod.map, id]
            rw [ih]
            rfl

theorem visit_follows (h : d.Follows e f) (hsymbols : d.Alike e f .symbols)
    (hregisters : d.Alike e f .registers) (r : Roster) (o : Options) (s : σ) :
    visit e r o (f s) = Prod.map id f (visit d r o s) := by
  have hread : ∀ s, readRegisters e o (f s) = Prod.map id f (readRegisters d o s) := by
    intro s
    unfold readRegisters
    split
    · rw [hregisters]
      rfl
    · rfl
  unfold visit
  rw [h.alike .selectNewest rfl rfl]
  obtain ⟨_ | _, newest⟩ := d.perform .selectNewest s
  · rfl
  · dsimp only [Prod.map, id]
    rw [hread]
    dsimp only [Prod.map, id]
    rw [frames_follows h hsymbols]
    rfl

theorem unwind_follows (h : d.Follows e f) (hsymbols : d.Alike e f .symbols)
    (hregisters : d.Alike e f .registers) (r : Roster) {thread : Thread}
    (hswitch : d.Alike e f (.switchThread thread.number)) (o : Options) (s : σ) :
    unwind e r thread o (f s) = Prod.map id f (unwind d r thread o s) := by
  unfold unwind
  rw [hswitch]
  obtain ⟨_ | _, selected⟩ := d.perform (.switchThread thread.number) s
  · rfl
  · dsimp only [Prod.map, id]
    rw [h.atNewestFrame _ (visit_follows h hsymbols hregisters r o selected)]
    rfl

end Unwind

/-! ### The search for a QML engine -/

namespace QmlStack

theorem ask_follows (hevaluate : ∀ expression, d.Alike e f (.evaluate expression))
    (questions : List String) (s : σ) :
    ask e questions (f s) = Prod.map id f (ask d questions s) := by
  induction questions generalizing s with
  | nil => rfl
  | cons expression rest ih =>
      unfold ask
      rw [hevaluate]
      obtain ⟨_ | printed, read⟩ := d.perform (.evaluate expression) s
      · exact ih read
      · dsimp only [Prod.map, id]
        split
        · rfl
        · exact ih read

theorem askFrames_follows (h : d.Follows e f) (hsymbols : d.Alike e f .symbols)
    (hevaluate : ∀ expression, d.Alike e f (.evaluate expression)) (fuel : Nat) (s : σ) :
    askFrames e fuel (f s) = Prod.map id f (askFrames d fuel s) := by
  have hframe : ∀ s, askFrame e (f s) = Prod.map id f (askFrame d s) := by
    intro s
    unfold askFrame
    rw [hsymbols]
    obtain ⟨_ | symbols, read⟩ := d.perform .symbols s
    · rfl
    · exact ask_follows hevaluate _ read
  induction fuel generalizing s with
  | zero => rfl
  | succ fuel ih =>
      unfold askFrames
      rw [hframe]
      obtain ⟨_ | payload, read⟩ := askFrame d s
      · dsimp only [Prod.map, id]
        rw [h.alike .selectOlder rfl rfl]
        obtain ⟨_ | _, older⟩ := d.perform .selectOlder read
        · rfl
        · exact ih older
      · rfl

/-- A thread that is refused is passed over, as is one that is not valid. -/
theorem askThreads_follows (h : d.Follows e f) (hsymbols : d.Alike e f .symbols)
    (hevaluate : ∀ expression, d.Alike e f (.evaluate expression)) {threads others : List Thread}
    (hthreads : List.Forall₂ (d.Counterpart e f) threads others) (s : σ) :
    askThreads e others (f s) = Prod.map id f (askThreads d threads s) := by
  induction hthreads generalizing s with
  | nil => rfl
  | @cons thread other _ _ hthread _ ih =>
      unfold askThreads
      cases hthread with
      | refused _ hvalid hrefused =>
          -- both pass the thread over, one since it is refused and one since it is not valid
          obtain ⟨reason, hswitch⟩ := hrefused s
          rw [if_neg (Bool.eq_false_iff.1 hvalid), hswitch, ih]
          split <;> rfl
      | same hswitch =>
          split
          · rw [hswitch]
            obtain ⟨_ | _, selected⟩ := d.perform (.switchThread thread.number) s
            · exact ih selected
            · dsimp only [Prod.map, id]
              rw [h.alike .selectNewest rfl rfl]
              obtain ⟨_ | _, newest⟩ := d.perform .selectNewest selected
              · exact ih newest
              · dsimp only [Prod.map, id]
                rw [h.depth, askFrames_follows h hsymbols hevaluate]
                obtain ⟨_ | payload, asked⟩ := askFrames d (d.depth newest) newest
                · exact ih asked
                · rfl
          · exact ih s

theorem search_follows (h : d.Follows e f) (hsymbols : d.Alike e f .symbols)
    (hevaluate : ∀ expression, d.Alike e f (.evaluate expression)) {threads others : List Thread}
    (hthreads : List.Forall₂ (d.Counterpart e f) threads others) (home : Option String) (s : σ) :
    search e others home (f s) = Prod.map id f (search d threads home s) := by
  unfold search
  apply h.keepingThread
  dsimp only
  rw [askThreads_follows h hsymbols hevaluate hthreads]
  rfl

end QmlStack

end CrashReport
