import CrashReport.Proofs.Json.Records
import CrashReport.Proofs.Session.Reachable
import CrashReport.Session.Builder
import CrashReport.Session.Reader

/-!
# The coherence of a session

A session is read from a recording, or put together by hand. Whatever is asked of it then, in
whichever order and with whatever success, the state that it is in makes sense: its selection
stands at a frame if there is one to stand at, a refusal has no effect, and the recording stays
as it was made.

* **`Session.Made`** — the sessions that are read or put together. All of them begin at level 0
  (`level_of_ofText`), so they are reachable (`Made.reachable`);
* **`Operation`**, **`Debugger.carryOut`** — what may change a debugger, and a run of it;
* **`Session.perform_snd_of_error`**, **`Session.perform_eq_noFrame_iff`** — what a refused
  request leaves, and when there is no frame to be read;
* **`Session.Grown`** — nothing has changed of what was recorded, except that symbols have been
  loaded. One request keeps it so (`keepsAll_grown`);
* **`Session.coherent_carryOut`** — all of that, in every state of every run.
-/

namespace CrashReport

/-- The request is one to read something of the selected frame. -/
def Request.readsFrame {α : Type} : Request α → Bool
  | .pc | .frameKind | .symbols | .registers => true
  | _ => false

/-- What may change a debugger: a request, or leave to use the network. What else a debugger
tells, it tells without a change. -/
inductive Operation : Type 1 where
  | ask {α : Type} (request : Request α)
  | allowDownloads (allowed : Bool)

namespace Debugger

variable {σ : Type}

/-- The state after an operation, whether it succeeds or is refused. -/
def apply (d : Debugger σ) (s : σ) : Operation → σ
  | .ask request => (d.perform request s).2
  | .allowDownloads allowed => d.allowDownloads allowed s

/-- The state after operations, one after the other. -/
def carryOut (d : Debugger σ) (operations : List Operation) (s : σ) : σ :=
  operations.foldl d.apply s

theorem KeepsAll.apply {d : Debugger σ} {I : σ → Prop} (hd : d.KeepsAll I) (operation : Operation)
    {s : σ} (hs : I s) : I (d.apply s operation) := by
  cases operation with
  | ask request => exact hd.perform request s hs
  | allowDownloads allowed => exact hd.allowDownloads allowed s hs

theorem KeepsAll.carryOut {d : Debugger σ} {I : σ → Prop} (hd : d.KeepsAll I)
    (operations : List Operation) {s : σ} (hs : I s) : I (d.carryOut operations s) := by
  induction operations generalizing s with
  | nil => exact hs
  | cons operation rest ih => exact ih (hd.apply operation hs)

end Debugger

namespace Session

variable {s t : Session}

/-! ### How sessions begin -/

/-- No field of a recording is about the selected frame. -/
theorem level_of_ofText {text : String} (h : ofText text = .ok s) : s.level = 0 := by
  have hfields : ∀ field ∈ fields, field.Keeps fun s => s.level = 0 := by
    unfold fields
    simp only [List.forall_mem_cons, List.not_mem_nil, false_imp_iff, implies_true, and_true]
    refine ⟨?_, ?_, ?_, ?_, ?_, ?_, ?_, ?_, ?_, ?_⟩ <;>
      exact Json.RecordField.keeps_defaulted _ _ fun _ _ hlevel => hlevel
  exact Json.of_ofText (P := fun s => s.level = 0) (Json.yields_record hfields rfl) h

/-- The sessions that are read from a recording, or put together step by step. -/
inductive Made : Session → Prop
  | recorded {text : String} {s : Session} (h : ofText text = .ok s) : Made s
  | blank : Made {}
  | live (live : Bool) {s : Session} (h : Made s) : Made { s with live }
  | coreFile (path : String) {s : Session} (h : Made s) : Made { s with coreFile := some path }
  | ofProgram (path buildId : String) {s : Session} (h : Made s) : Made (s.ofProgram path buildId)
  | addThread (record : ThreadRecord) {s : Session} (h : Made s) : Made (s.addThread record)
  | select (number : UInt32) {s : Session} (h : Made s) : Made (s.select number)
  | addImage (image : MappedFile) {s : Session} (h : Made s) : Made (s.addImage image)
  | mappings (text : String) {s : Session} (h : Made s) : Made { s with mappings := some text }
  | setStatic (name text : String) {s : Session} (h : Made s) : Made (s.setStatic name text)
  | setEvaluation (expression value : String) {s : Session} (h : Made s) :
      Made (s.setEvaluation expression value)

theorem Made.level_eq_zero (h : s.Made) : s.level = 0 := by
  induction h with
  | recorded h => exact level_of_ofText h
  | blank | select => rfl
  | live _ _ ih | coreFile _ _ ih | ofProgram _ _ _ ih | addThread _ _ ih | addImage _ _ ih
  | mappings _ _ ih | setStatic _ _ _ ih | setEvaluation _ _ _ ih => exact ih

theorem Made.reachable (h : s.Made) : s.Reachable := .begin h.level_eq_zero

/-! ### Refusals -/

/-- A refused request has no effect, unless it was one to load an image. -/
theorem perform_snd_of_error {α : Type} {request : Request α} {reason : DebuggerError}
    (hload : request.isLoad = false) (h : (perform request s).1 = .error reason) :
    (perform request s).2 = s := by
  cases request with
  | load => cases hload
  | switchThread number =>
      rcases switchThread_cases number s with ⟨_, -, -, hswitch⟩ | hswitch
      · have hperform : perform (.switchThread number) s = _ := hswitch
        rw [hperform] at h
        cases h
      · exact congrArg Prod.snd hswitch
  | selectNewest | selectOlder | selectFrame =>
      simp only [perform] at h ⊢
      split at h
      · cases h
      · rename_i hnot
        rw [if_neg hnot]
  | evaluate | mappings | buildIdAt =>
      simp only [perform]
      split <;> rfl
  | pc | frameKind | symbols | registers | staticText => rfl

/-- A load that finds no file is logged, and has no other effect. -/
theorem perform_load_of_error {file : String} {address : UInt64} {detail : Detail}
    {reason : DebuggerError} (h : (perform (.load file address detail) s).1 = .error reason) :
    (perform (.load file address detail) s).2 = s.logLoad ⟨file, detail⟩ := by
  simp only [perform] at h ⊢
  split at h
  · cases h
  · rfl

/-- Something read of the selected frame fails for want of a frame only if there is none. -/
theorem read_eq_noFrame_iff {α : Type} {what : Frame → Except DebuggerError α}
    (hwhat : ∀ frame, what frame ≠ .error .noFrame) :
    s.read what = .error .noFrame ↔ s.frame? = none := by
  unfold read
  cases s.frame? with
  | none => simp
  | some frame => simpa using hwhat frame

/-- No frame is selected if and only if the selected thread is not listed or has no frames. -/
theorem Placed.frame?_eq_none_iff (h : s.Placed) :
    s.frame? = none ↔ ∀ record, s.current? = some record → record.frames = [] := by
  have hframes : s.frame? = none ↔ s.frames = [] := by
    rw [frame?, List.getElem?_eq_none_iff]
    constructor
    · intro hle
      rcases h with hzero | hlt
      · exact List.eq_nil_of_length_eq_zero (by omega)
      · omega
    · intro hnil
      simp [hnil]
  rw [hframes]
  unfold frames
  cases s.current? with
  | none => simp
  | some record => simp

/-- The requests that fail for want of a frame, and when they do so. -/
theorem perform_eq_noFrame_iff (h : s.Placed) {α : Type} (request : Request α) :
    (perform request s).1 = .error .noFrame ↔ request.readsFrame = true ∧
      ∀ record, s.current? = some record → record.frames = [] := by
  rw [← h.frame?_eq_none_iff]
  cases request with
  | pc | frameKind | symbols =>
      show s.read _ = .error .noFrame ↔ true = true ∧ s.frame? = none
      rw [read_eq_noFrame_iff fun frame => by simp]
      simp
  | registers =>
      show s.read _ = .error .noFrame ↔ true = true ∧ s.frame? = none
      rw [read_eq_noFrame_iff fun frame => by cases frame.registers <;> simp]
      simp
  | switchThread number =>
      simp only [perform, Request.readsFrame]
      split
      · split <;> simp
      · simp
  | selectNewest | selectOlder | selectFrame | evaluate | mappings | buildIdAt | load =>
      simp only [perform, Request.readsFrame]
      split <;> simp
  | staticText => simp [perform, Request.readsFrame]

/-! ### What never changes -/

/-- An image later on: the same image, whose symbols may have been loaded. -/
def MappedFile.Grown (before after : MappedFile) : Prop :=
  after = before ∨ after = { before with loaded := true }

/-- A session later on: all that was recorded is the same, except that symbols of images may have
been loaded. -/
structure Grown (s t : Session) : Prop where
  live : t.live = s.live
  coreFile : t.coreFile = s.coreFile
  programPath : t.programPath = s.programPath
  programBuildId : t.programBuildId = s.programBuildId
  threads : t.threads = s.threads
  images : List.Forall₂ MappedFile.Grown s.images t.images
  mappings : t.mappings = s.mappings
  statics : t.statics = s.statics
  evaluations : t.evaluations = s.evaluations

theorem grown_refl (s : Session) : s.Grown s where
  live := rfl
  coreFile := rfl
  programPath := rfl
  programBuildId := rfl
  threads := rfl
  images := List.forall₂_same.2 fun _ _ => .inl rfl
  mappings := rfl
  statics := rfl
  evaluations := rfl

theorem forall₂_markLoaded {before after : List MappedFile}
    (h : List.Forall₂ MappedFile.Grown before after) (file : String) :
    List.Forall₂ MappedFile.Grown before (markLoaded file after) := by
  induction h with
  | nil => exact .nil
  | @cons earlier later _ _ hgrown hrest ih =>
      unfold markLoaded
      split
      · refine .cons (.inr ?_) hrest
        rcases hgrown with rfl | rfl <;> rfl
      · exact .cons hgrown ih

theorem images_perform {α : Type} (request : Request α) (s : Session) :
    (perform request s).2.images = s.images ∨
      ∃ file, (perform request s).2.images = markLoaded file s.images := by
  cases h : request.isLoad with
  | false =>
      have himages : (perform request s).2.aside.images = s.aside.images := by
        rw [aside_perform request s h]
      exact .inl himages
  | true =>
      cases request with
      | load file address detail =>
          rw [perform_load]
          exact .inr ⟨file, rfl⟩
      | _ => cases h

theorem keepsAll_grown (s : Session) : debugger.KeepsAll s.Grown where
  perform := by
    intro α request t h
    have hrecording := recording_perform request t
    have hsame : ∀ {β : Type} (f : Session → β), (∀ u : Session, f u.recording = f u) →
        f (perform request t).2 = f t := fun f hf => eq_of_recording_eq hf hrecording
    refine {
      live := (hsame Session.live fun _ => rfl).trans h.live
      coreFile := (hsame Session.coreFile fun _ => rfl).trans h.coreFile
      programPath := (hsame Session.programPath fun _ => rfl).trans h.programPath
      programBuildId := (hsame Session.programBuildId fun _ => rfl).trans h.programBuildId
      threads := (hsame Session.threads fun _ => rfl).trans h.threads
      mappings := (hsame Session.mappings fun _ => rfl).trans h.mappings
      statics := (hsame Session.statics fun _ => rfl).trans h.statics
      evaluations := (hsame Session.evaluations fun _ => rfl).trans h.evaluations
      images := ?_ }
    show List.Forall₂ MappedFile.Grown s.images (perform request t).2.images
    rcases images_perform request t with himages | ⟨file, himages⟩
    · rw [himages]
      exact h.images
    · rw [himages]
      exact forall₂_markLoaded h.images file
  allowDownloads := fun _ _ h => { h with }

/-- Every state of every run of a session, after the operations `earlier`, is coherent.

The selected level is 0, or that of a frame of the first thread with the selected number. Of the
requests exactly those that read the selected frame fail for want of one, and they do so if and
only if this thread is not listed or has no frames. A request that is refused has no effect,
except that a load is logged all the same. And whatever is done later on, nothing of what was
recorded changes, except that symbols of images are loaded. -/
theorem coherent_carryOut (hs : s.Made) (earlier : List Operation) :
    let t := debugger.carryOut earlier s
    (t.level = 0 ∨ ∃ record, t.current? = some record ∧ t.level < record.frames.length) ∧
    (∀ {α : Type} (request : Request α),
      (debugger.perform request t).1 = .error .noFrame ↔ request.readsFrame = true ∧
        ∀ record, t.current? = some record → record.frames = []) ∧
    (∀ {α : Type} (request : Request α) (reason : DebuggerError),
      request.isLoad = false → (debugger.perform request t).1 = .error reason →
        (debugger.perform request t).2 = t) ∧
    (∀ (file : String) (address : UInt64) (detail : Detail) (reason : DebuggerError),
      (debugger.perform (.load file address detail) t).1 = .error reason →
        (debugger.perform (.load file address detail) t).2 = t.logLoad ⟨file, detail⟩) ∧
    ∀ later : List Operation, t.Grown (debugger.carryOut later t) := by
  intro t
  have hplaced : t.Placed := (keepsAll_reachable.carryOut earlier hs.reachable).placed
  refine ⟨?_, fun request => perform_eq_noFrame_iff hplaced request,
    fun _ _ hload h => perform_snd_of_error hload h,
    fun _ _ _ _ h => perform_load_of_error h,
    fun later => (keepsAll_grown t).carryOut later (grown_refl t)⟩
  rcases hplaced with hzero | hlt
  · exact .inl hzero
  · -- a level above zero is that of a frame, so there is a thread to have it
    cases hcurrent : t.current? with
    | none =>
        rw [frames, hcurrent] at hlt
        exact absurd hlt (Nat.not_lt_zero _)
    | some record =>
        rw [frames, hcurrent] at hlt
        exact .inr ⟨record, rfl, hlt⟩

/-- Two threads with one number, of which the first has no frames, and an image. -/
def namesakes : Session :=
  ((({} : Session).addThread { thread := { number := 1, id := 10 } }).addThread
    { thread := { number := 1, id := 20 }, frames := [{ pc := 16 }, { pc := 32 }] }).addImage
    { file := "/usr/lib/libfoo.so", start := 4096, stop := 8192 }

/-- The same session with the symbols of its image loaded. -/
def acquainted : Session :=
  debugger.carryOut [.ask (.load "/usr/lib/libfoo.so" 4096 .full)] namesakes

theorem coherent_carryOut_namesakes :
    namesakes.Made ∧ (debugger.perform .pc acquainted).1 = .error .noFrame ∧
      (debugger.perform .selectOlder acquainted).2 = acquainted ∧
      acquainted.Grown
        (debugger.carryOut [.ask (.load "/usr/lib/libbar.so" 0 .full)] acquainted) := by
  have hmade : namesakes.Made := .addImage _ (.addThread _ (.addThread _ .blank))
  obtain ⟨-, hread, hrefused, -, hgrown⟩ :=
    coherent_carryOut hmade [.ask (.load "/usr/lib/libfoo.so" 4096 .full)]
  refine ⟨hmade, (hread .pc).2 ⟨rfl, ?_⟩, hrefused .selectOlder .noOlderFrame rfl rfl, hgrown _⟩
  intro record hrecord
  cases hrecord
  rfl

end Session

end CrashReport
