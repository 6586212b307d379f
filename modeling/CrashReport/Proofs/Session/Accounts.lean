import CrashReport.Proofs.Session.Reachable
import CrashReport.Proofs.Session.Symbols
import Mathlib.Algebra.GroupWithZero.Nat

/-!
# The account of the loads

One loader serves many calls: for threads that can be selected and others that cannot, with
images that are missing or not the expected ones. What it has attempted, what it has loaded, how
many images it has counted, and what the session has logged are four accounts of the same loads.

* **`Loader.Booked`** — the accounts agree. An attempt at an image keeps them so
  (`Booked.loadImage`), and with it any number of calls (`Booked.serve`);
* **`Loader.length_loaded_serve`** — calls that succeed have counted what has been loaded, on any
  debugger;
* **`Loader.Call.images`** — the images for which a call asks; `serve_outcome` says what comes
  of them;
* **`loads_booked`** — no file is loaded twice, whatever becomes of its load, and what calls
  that succeed have loaded is what was expected.
-/

namespace CrashReport

open Sequence (firsts)
open Session (debugger)

namespace Loader

/-- A call to load the images of a thread. -/
structure Call where
  roster : Roster
  thread : Thread
  crashed : Bool

variable {σ : Type}

/-- Answers calls one after the other; a failure does not keep later calls from being answered. -/
def serve (d : Debugger σ) : List Call → Loader → σ → List (Except Failure Nat) × Loader × σ
  | [], l, s => ([], l, s)
  | call :: rest, l, s =>
    let (answer, l, s) := l.loadThread d call.roster call.thread call.crashed s
    let (answers, l, s) := serve d rest l s
    (answer :: answers, l, s)

section AnyDebugger

variable {d : Debugger σ} {s : σ} {l : Loader}

theorem serve_cons (call : Call) (rest : List Call) (l : Loader) (s : σ) :
    serve d (call :: rest) l s =
      ((l.loadThread d call.roster call.thread call.crashed s).1 ::
        (serve d rest (l.loadThread d call.roster call.thread call.crashed s).2.1
          (l.loadThread d call.roster call.thread call.crashed s).2.2).1,
      (serve d rest (l.loadThread d call.roster call.thread call.crashed s).2.1
        (l.loadThread d call.roster call.thread call.crashed s).2.2).2) := rfl

theorem invariant_serve {J : Loader → σ → Prop}
    (hcall : ∀ (l : Loader) (call : Call) (s : σ), J l s →
      J (l.loadThread d call.roster call.thread call.crashed s).2.1
        (l.loadThread d call.roster call.thread call.crashed s).2.2)
    (calls : List Call) (h : J l s) : J (serve d calls l s).2.1 (serve d calls l s).2.2 := by
  induction calls generalizing l s with
  | nil => exact h
  | cons call rest ih => exact ih (hcall l call s h)

theorem keeps_serve {I : σ → Prop} (hd : d.KeepsAll I) (calls : List Call) (l : Loader)
    (hs : I s) : I (serve d calls l s).2.2 :=
  invariant_serve (J := fun _ => I)
    (fun l call _ => keeps_loadThread hd l call.roster call.thread call.crashed) calls hs

/-! ### What is counted -/

theorem length_loaded_loadImage {image : Image} {loaded : Bool}
    (h : (l.loadImage d image s).1 = .ok loaded) :
    (l.loadImage d image s).2.1.loaded.length = l.loaded.length + loaded.toNat := by
  unfold loadImage at h ⊢
  split at h
  · rename_i hmem
    cases h
    rw [if_pos hmem]
    rfl
  · rename_i hnew
    rw [if_neg hnew]
    dsimp only at h ⊢
    split at h
    · cases h
      rfl
    · split at h
      · rename_i haccepts
        cases h
        rw [if_pos haccepts]
        rfl
      · cases h

theorem length_loaded_loadFrames {roster : Roster} {fuel level count : Nat}
    (h : (loadFrames d roster fuel level l s).1 = .ok count) :
    (loadFrames d roster fuel level l s).2.1.loaded.length = l.loaded.length + count := by
  induction fuel generalizing level l s count with
  | zero =>
      cases h
      rfl
  | succ fuel ih =>
      unfold loadFrames at h ⊢
      split at h
      · cases h
        rfl
      · split at h
        · cases h
          rfl
        · split at h
          · exact ih h
          · rename_i image _
            split at h
            · cases h
            · -- the count is that of the other frames and one more if this image was loaded
              rename_i loaded l₂ s₂ heq
              have himage := length_loaded_loadImage (congrArg Prod.fst heq)
              rw [heq] at himage
              dsimp only at h himage ⊢
              cases hrest : (loadFrames d roster fuel (level + 1) l₂ s₂).1 with
              | error failure =>
                  rw [hrest] at h
                  cases h
              | ok others =>
                  rw [hrest] at h
                  have hcount : others + loaded.toNat = count := Except.ok.inj h
                  rw [ih hrest]
                  omega

theorem length_loaded_loadThread {roster : Roster} {thread : Thread} {crashed : Bool} {count : Nat}
    (h : (l.loadThread d roster thread crashed s).1 = .ok count) :
    (l.loadThread d roster thread crashed s).2.1.loaded.length = l.loaded.length + count := by
  unfold loadThread at h ⊢
  split at h
  · rename_i hloads
    rw [if_pos hloads]
    split at h
    · cases h
    · rename_i selected _
      have hframes : (loadFrames d roster frameLimit 0 l selected).1 = .ok count := h
      exact length_loaded_loadFrames hframes
  · rename_i hloads
    rw [if_neg hloads]
    cases h
    rfl

/-- What calls have counted, if all of them succeed, has been loaded. -/
theorem length_loaded_serve {calls : List Call} {counts : List Nat}
    (h : (serve d calls l s).1 = counts.map .ok) :
    (serve d calls l s).2.1.loaded.length = l.loaded.length + counts.sum := by
  induction calls generalizing l s counts with
  | nil =>
      cases counts with
      | nil => rfl
      | cons => cases h
  | cons call rest ih =>
      cases counts with
      | nil => cases h
      | cons count counts =>
          rw [serve_cons, List.map_cons] at h
          obtain ⟨hcount, hcounts⟩ := List.cons_eq_cons.1 h
          rw [serve_cons, List.sum_cons, ← Nat.add_assoc, ← length_loaded_loadThread hcount]
          exact ih hcounts

end AnyDebugger

/-! ### What is booked -/

variable {l : Loader} {s t : Session}

/-- The files that were attempted are those of the log, each of them once, and the files that were
loaded are those of them that were found. -/
structure Booked (l : Loader) (s : Session) : Prop where
  attempted : l.attempted.reverse = s.loads.map Session.Load.file
  nodup : l.attempted.Nodup
  loaded : l.loaded = l.attempted.filter fun file => (s.found? file).isSome

theorem Booked.of_aside_eq (h : Booked l s) (haside : t.aside = s.aside) : Booked l t where
  attempted := by
    have hloads : t.aside.loads = s.aside.loads := congrArg Session.loads haside
    rw [show t.loads = s.loads from hloads]
    exact h.attempted
  nodup := h.nodup
  loaded := by
    rw [funext (Session.found?_eq_of_recording_eq (Session.recording_eq_of_aside_eq haside))]
    exact h.loaded

theorem Booked.nodup_files (h : Booked l s) : (s.loads.map Session.Load.file).Nodup := by
  rw [← h.attempted, (List.reverse_perm _).nodup_iff]
  exact h.nodup

theorem booked_start (tier : Tier) (h : s.loads = []) :
    Booked (start tier debugger s).1 (start tier debugger s).2 where
  attempted := by
    unfold start
    dsimp only
    split <;> exact (congrArg (List.map Session.Load.file) h).symm
  nodup := List.nodup_nil
  loaded := rfl

theorem Booked.load (h : Booked l s) {file : String} (hnew : file ∉ l.attempted) (detail : Detail)
    {loaded : List String}
    (hloaded : loaded = if (s.found? file).isSome then file :: l.loaded else l.loaded) :
    Booked { l with attempted := file :: l.attempted, loaded } (s.load ⟨file, detail⟩) where
  attempted := by
    show _ = (s.loads ++ [_]).map Session.Load.file
    rw [List.reverse_cons, List.map_append, h.attempted]
    rfl
  nodup := List.nodup_cons.2 ⟨hnew, h.nodup⟩
  loaded := by
    rw [funext (Session.found?_eq_of_recording_eq (Session.recording_load_eq s ⟨file, detail⟩)),
      List.filter_cons, ← h.loaded]
    exact hloaded

theorem Booked.loadImage (h : Booked l s) (image : Image) :
    Booked (l.loadImage debugger image s).2.1 (l.loadImage debugger image s).2.2 := by
  unfold Loader.loadImage
  split
  · exact h
  · rename_i hnew
    simp only [debugger, Session.perform_load]
    cases hfound : s.found? image.file with
    | none => exact h.load hnew _ (by rw [hfound]; rfl)
    | some found =>
        dsimp only
        split <;> exact h.load hnew _ (by rw [hfound]; rfl)

theorem Booked.serve (h : Booked l s) (calls : List Call) :
    Booked (serve debugger calls l s).2.1 (serve debugger calls l s).2.2 :=
  invariant_serve
    (fun l call _ hl => invariant_loadThread
      (fun request _ s hread hs => hs.of_aside_eq (Session.aside_perform request s hread))
      (fun _ image _ hs => hs.loadImage image) l call.roster call.thread call.crashed hl)
    calls h

/-! ### Calls that succeed -/

/-- The images for which a call asks. There are none if the thread cannot be selected, or if no
images are loaded for it. -/
def Call.images (tier : Tier) (s : Session) (call : Call) : List Image :=
  match s.thread? call.thread.number with
  | none => []
  | some record =>
    if record.thread.valid then needs tier call.roster s call.crashed record else []

theorem Call.images_eq_of_recording_eq (h : s.recording = t.recording) (tier : Tier) :
    Call.images tier s = Call.images tier t := by
  funext call
  unfold Call.images
  simp only [Session.thread?_eq_of_recording_eq h, needs_eq_of_recording_eq h]

theorem Call.images_of_refused {call : Call} (tier : Tier)
    (h : ∀ record, s.thread? call.thread.number = some record → record.thread.valid = false) :
    call.images tier s = [] := by
  unfold Call.images
  split
  · rfl
  · rename_i record hrecord
    exact if_neg (Bool.eq_false_iff.1 (h record hrecord))

/-- What comes of a call that succeeds. -/
theorem loadThread_outcome_of_ok {call : Call} {count : Nat}
    (h : (l.loadThread debugger call.roster call.thread call.crashed s).1 = .ok count) :
    Outcome (call.images l.tier s) l s
      (l.loadThread debugger call.roster call.thread call.crashed s) := by
  rcases Session.selectable_or_refused call.thread.number s with
    ⟨record, hrecord, hvalid⟩ | hrefused
  · have himages : call.images l.tier s = needs l.tier call.roster s call.crashed record := by
      unfold Call.images
      rw [hrecord]
      exact if_pos hvalid
    rw [himages]
    exact loadThread_outcome l call.roster call.crashed hvalid hrecord
  · have hrun := loadThread_of_refused l call.roster call.crashed hrefused
    rw [Call.images_of_refused l.tier hrefused]
    exact outcome_nil ⟨count, h⟩ (by rw [hrun]) (by rw [hrun])

/-- What comes of calls that all succeed is what comes of their images, one call after the
other. -/
theorem serve_outcome {calls : List Call} {counts : List Nat}
    (h : (serve debugger calls l s).1 = counts.map .ok) :
    Outcome (calls.flatMap (Call.images l.tier s)) l s
      ((.ok counts.sum : Except Failure Nat), (serve debugger calls l s).2) := by
  induction calls generalizing l s counts with
  | nil => exact outcome_nil ⟨counts.sum, rfl⟩ rfl rfl
  | cons call rest ih =>
      cases counts with
      | nil => cases h
      | cons count counts =>
          rw [serve_cons, List.map_cons] at h
          obtain ⟨hcount, hcounts⟩ := List.cons_eq_cons.1 h
          have hcall := loadThread_outcome_of_ok hcount
          rw [List.flatMap_cons]
          refine hcall.append (fun _ herror => ?_) fun _ _ hrecording => ?_
          · rw [hcount] at herror
            cases herror
          · -- the later calls ask for the same images in the session that this one leaves
            have hrest := ih hcounts
            rw [(hcall.attempts hcount).tier, Call.images_eq_of_recording_eq hrecording] at hrest
            exact hrest.map fun _ => (count :: counts).sum

end Loader

theorem Session.keepsAll_loads (s : Session) :
    debugger.KeepsAll fun t => s.loads <+: t.loads where
  perform := by
    intro α request t h
    cases hload : request.isLoad with
    | false =>
        have hloads : (debugger.perform request t).2.aside.loads = t.aside.loads :=
          congrArg Session.loads (aside_perform request t hload)
        rwa [show (debugger.perform request t).2.loads = t.loads from hloads]
    | true =>
        cases request with
        | load file address detail =>
            have hloads : (debugger.perform (.load file address detail) t).2.loads =
                t.loads ++ [⟨file, detail⟩] := by
              rw [show debugger.perform (.load file address detail) t = _ from
                perform_load t file address detail]
              rfl
            rw [hloads]
            exact h.trans (List.prefix_append _ _)
        | _ => cases hload
  allowDownloads := fun _ _ h => h

variable {s t : Session} {l : Loader} {calls : List Loader.Call}

/-- What is loaded by calls that all succeed. The image for which a file is loaded is the first
one of that file for which they ask. -/
theorem Loader.loaded_of_ok {tier : Tier} {counts : List Nat}
    (hrun : Loader.serve debugger calls (Loader.start tier debugger s).1
      (Loader.start tier debugger s).2 = (counts.map .ok, l, t)) :
    t.loads = s.loads ++ (firsts Image.file [] (calls.flatMap (Call.images tier s))).map
        (fun image => ⟨image.file, tier.detail⟩) ∧
      ∀ image ∈ firsts Image.file [] (calls.flatMap (Call.images tier s)),
        ∀ expected found, ¬ s.Mismatch image expected found := by
  let s₁ := (Loader.start tier debugger s).2
  have hrecording : s₁.recording = s.recording :=
    Loader.keeps_start (Session.keepsAll_recording s) tier rfl
  have hloads : s₁.loads = s.loads := by
    show (Loader.start tier debugger s).2.loads = s.loads
    unfold Loader.start
    dsimp only
    split <;> rfl
  have houtcome := Loader.serve_outcome (congrArg Prod.fst hrun)
  rw [hrun] at houtcome
  have hattempts := houtcome.attempts rfl
  have hobjection := houtcome.objection_eq_none rfl
  constructor
  · have hlog : t.aside.loads = (s₁.aside.after _).loads := congrArg Session.loads hattempts.aside
    rw [Session.loads_after] at hlog
    show t.aside.loads = _
    rw [hlog, ← hloads, ← Loader.Call.images_eq_of_recording_eq hrecording]
    rfl
  · rw [Session.objection_eq_of_recording_eq hrecording,
      Loader.Call.images_eq_of_recording_eq hrecording] at hobjection
    exact Session.objection_eq_none_iff.1 hobjection

/-- Calls on one loader, in a session that has logged no loads.

However the calls end, no file is logged twice, and the files that have been loaded are those of the
log of which the session has an image. Whatever is called for later, a file of the log is not
loaded again, even if its load failed or found another build. If all calls succeed, the images
they have counted are those that have been loaded. Then each load was issued for the first image
of its file for which the calls asked, and if that one was expected to have a build id, the load
answered with it, whatever the case of its ASCII letters. -/
theorem loads_booked {tier : Tier} {answers : List (Except Failure Nat)} (hs : s.loads = [])
    (hrun : Loader.serve debugger calls (Loader.start tier debugger s).1
      (Loader.start tier debugger s).2 = (answers, l, t)) :
    (t.loads.map Session.Load.file).Nodup ∧
    (l.loaded.Nodup ∧ ∀ file, file ∈ l.loaded ↔
      file ∈ t.loads.map Session.Load.file ∧ ∃ image ∈ s.images, image.file = file) ∧
    (∀ later, ∃ more, (Loader.serve debugger later l t).2.2.loads = t.loads ++ more ∧
      ∀ load ∈ more, load.file ∉ t.loads.map Session.Load.file) ∧
    ∀ counts : List Nat, answers = counts.map .ok →
      counts.sum = l.loaded.length ∧
      t.loads = (firsts Image.file [] (calls.flatMap (Loader.Call.images tier s))).map
        (fun image => ⟨image.file, tier.detail⟩) ∧
      ∀ image ∈ firsts Image.file [] (calls.flatMap (Loader.Call.images tier s)),
        image.file ∈ l.loaded → ∀ expected, image.buildId = some expected →
          ∃ id, (debugger.perform (.load image.file image.base tier.detail) s).1 =
              .ok (some id) ∧
            id.toList.map Char.toLower = expected.toList.map Char.toLower := by
  have hbooked := (Loader.booked_start tier hs).serve calls
  rw [hrun] at hbooked
  have hrecording : t.recording = s.recording := by
    have hkept := Loader.keeps_serve (Session.keepsAll_recording s) calls
      (Loader.start tier debugger s).1
      (Loader.keeps_start (Session.keepsAll_recording s) tier rfl)
    rwa [hrun] at hkept
  -- which files a load finds is recorded, so it can be asked of the session before the calls
  have hmem : ∀ file, file ∈ l.loaded ↔
      file ∈ t.loads.map Session.Load.file ∧ (s.found? file).isSome := by
    intro file
    rw [hbooked.loaded, List.mem_filter, ← hbooked.attempted, List.mem_reverse,
      Session.found?_eq_of_recording_eq hrecording]
  refine ⟨hbooked.nodup_files, ⟨?_, ?_⟩, ?_, ?_⟩
  · rw [hbooked.loaded]
    exact hbooked.nodup.filter _
  · intro file
    rw [hmem, Session.isSome_found?, List.any_eq_true]
    simp only [decide_eq_true_eq]
  · intro later
    have hgrown : t.loads <+: (Loader.serve debugger later l t).2.2.loads :=
      Loader.keeps_serve (Session.keepsAll_loads t) later l (List.prefix_refl _)
    obtain ⟨more, hmore⟩ := hgrown
    refine ⟨more, hmore.symm, ?_⟩
    -- the books of the later calls list every file once, before and after `t`
    have hnodup := (hbooked.serve later).nodup_files
    rw [← hmore, List.map_append, List.nodup_append] at hnodup
    intro load hload hlogged
    exact hnodup.2.2 _ hlogged _ (List.mem_map_of_mem hload) rfl
  · rintro counts rfl
    obtain ⟨hlog, hagreed⟩ := Loader.loaded_of_ok hrun
    have hcount := Loader.length_loaded_serve (congrArg Prod.fst hrun)
    rw [hrun] at hcount
    refine ⟨?_, ?_, ?_⟩
    · rw [hcount]
      exact (Nat.zero_add _).symm
    · rw [hlog, hs, List.nil_append]
    · intro image himage hloaded expected hexpected
      obtain ⟨found, hfound⟩ := Option.isSome_iff_exists.1 ((hmem image.file).1 hloaded).2
      have hload : debugger.perform (.load image.file image.base tier.detail) s = _ :=
        Session.perform_load s image.file image.base tier.detail
      rw [hload, hfound]
      by_contra hother
      refine hagreed image himage expected found ⟨hexpected, hfound, ?_⟩
      intro id hid hsame
      exact hother ⟨id, by rw [hid], hsame⟩

/-- A session in which two threads share libraries, one of which cannot be found. -/
def sharing : Session where
  threads := [
    { thread := { number := 1, id := 10 }, frames := [{ pc := 0x1100 }, { pc := 0x3100 }] },
    { thread := { number := 2, id := 20 }
      frames := [{ pc := 0x1200 }, { pc := 0x2100 }, { pc := 0x3200 }] }]
  images := [
    { file := "/lib/a.so", start := 0x1000, stop := 0x2000, buildId := some "AB" },
    { file := "/lib/b.so", start := 0x2000, stop := 0x3000 }]

def sharingCalls : List Loader.Call :=
  let images := ⟨#[⟨"/lib/a.so", 0x1000, 0x2000, some "ab", true⟩,
    ⟨"/lib/b.so", 0x2000, 0x3000, none, true⟩,
    ⟨"/lib/c.so", 0x3000, 0x4000, some "cd", true⟩], by decide⟩
  [⟨{ images }, { number := 1, id := 10 }, true⟩, ⟨{ images }, { number := 2, id := 20 }, false⟩]

theorem loads_booked_sharing : sharing.loads = [] ∧ ∃ answers l t,
    Loader.serve debugger sharingCalls (Loader.start .some debugger sharing).1
      (Loader.start .some debugger sharing).2 = (answers, l, t) ∧
    answers = [1, 1].map .ok ∧ l.loaded.length = 2 ∧
    t.loads.map Session.Load.file = ["/lib/a.so", "/lib/c.so", "/lib/b.so"] := by
  obtain ⟨answers, l, t, hrun⟩ : ∃ answers l t,
      Loader.serve debugger sharingCalls (Loader.start .some debugger sharing).1
        (Loader.start .some debugger sharing).2 = (answers, l, t) := ⟨_, _, _, rfl⟩
  have hanswers : answers = [1, 1].map .ok := by
    rw [show answers = _ from congrArg Prod.fst hrun.symm]
    decide +kernel
  obtain ⟨-, -, -, hok⟩ := loads_booked rfl hrun
  obtain ⟨hcount, hlog, -⟩ := hok [1, 1] hanswers
  refine ⟨rfl, answers, l, t, hrun, hanswers, hcount.symm, ?_⟩
  rw [hlog]
  decide +kernel

end CrashReport
