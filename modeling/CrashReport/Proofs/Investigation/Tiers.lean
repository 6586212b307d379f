import CrashReport.Proofs.Investigation.Loads
import CrashReport.Proofs.Investigation.Reported
import Mathlib.Data.List.TakeWhile

/-!
# What the memory tier changes

A tier decides for which threads images are loaded, and loads only make names known. So the
reports of one session under two tiers have the same stacks, and these differ only in the names
of functions and in what was captured. The crashed thread's stack may lose more of its newest
frames where more names are known, because the frames of the crash handler are known by name.

* **`Tier.reach`** — the tiers by the threads for which they load images;
* **`SameCall`** — frames that differ at most in the name of the function and the variables;
* **`clip_suffix`** — where more frames are known to handle a signal, fewer are kept;
* **`investigate_tiers`** — the reports of a session under two tiers.
-/

namespace CrashReport

/-- How far the loads of a tier reach: nowhere, to the crashed thread, or to all threads. -/
def Tier.reach : Tier → Nat
  | .spacious => 0
  | .little | .cramped => 1
  | .some => 2

theorem Tier.loads_of_reach_le {tier tier' : Tier} (h : tier.reach ≤ tier'.reach)
    {crashed : Bool} (hloads : tier.loads crashed = true) : tier'.loads crashed = true := by
  cases tier <;> cases tier' <;> simp_all [reach, loads]

theorem Tier.loads_crashed {tier : Tier} (h : tier ≠ .spacious) : tier.loads true = true := by
  cases tier <;> simp_all [loads]

namespace Stack.Frame

/-- The frame without what was captured of it. -/
def withoutVars (frame : Stack.Frame) : Stack.Frame := { frame with vars := none }

/-- The frames show the same call, whatever is known of its function and of its variables. -/
structure SameCall (f g : Stack.Frame) : Prop where
  pc : f.pc = g.pc
  kind : f.kind = g.kind
  file : f.file = g.file
  line : f.line = g.line
  image : f.image = g.image

theorem SameCall.withoutVars_eq {f g : Stack.Frame} (h : SameCall f g)
    (hfunction : f.function = g.function) : f.withoutVars = g.withoutVars := by
  obtain ⟨hpc, hkind, hfile, hline, himage⟩ := h
  unfold withoutVars
  rw [hpc, hkind, hfunction, hfile, hline, himage]

end Stack.Frame

namespace Unwind

open Stack.Frame (SameCall withoutVars)
open Session (debugger)

/-! ### Clipping -/

section Clip

variable {α : Type} {f g : α → Stack.Frame}

/-- Where more frames are known to handle a signal, fewer are kept: the older ones of them. -/
theorem clip_suffix (hpc : ∀ x, (f x).pc = (g x).pc)
    (hhandles : ∀ x, handlesSignal (f x) = true → handlesSignal (g x) = true) (l : List α) :
    (clip (l.map g)).map Stack.Frame.pc <:+ (clip (l.map f)).map Stack.Frame.pc := by
  -- what `g` keeps is what it keeps of the frames that `f` keeps
  have hboth : (fun x => !handlesSignal (g x)) =
      fun x => decide ((!handlesSignal (g x)) = true ∧ (!handlesSignal (f x)) = true) := by
    funext x
    cases hf : handlesSignal (f x) with
    | false => simp
    | true => simp [hhandles x hf]
  have hprefix : (l.reverse.takeWhile fun x => !handlesSignal (g x)) <+:
      l.reverse.takeWhile fun x => !handlesSignal (f x) := by
    rw [hboth, ← List.takeWhile_takeWhile]
    exact List.takeWhile_prefix _
  have hpcs : Stack.Frame.pc ∘ g = Stack.Frame.pc ∘ f := funext fun x => (hpc x).symm
  rw [clip_map, clip_map, List.map_map, List.map_map, hpcs]
  exact (List.reverse_suffix.2 hprefix).map _

/-- Frames that are known alike are clipped alike. -/
theorem clip_withoutVars (h : ∀ x, (f x).withoutVars = (g x).withoutVars) (l : List α) :
    (clip (l.map f)).map withoutVars = (clip (l.map g)).map withoutVars := by
  have hhandles : ∀ x, handlesSignal (f x) = handlesSignal (g x) := by
    intro x
    show handlesSignal (f x).withoutVars = handlesSignal (g x).withoutVars
    rw [h]
  rw [clip_map, clip_map, List.map_map, List.map_map]
  simp only [hhandles]
  exact List.map_congr_left fun x _ => h x

end Clip

/-- A frame is reported as the same call, whatever has been loaded and whatever is captured. -/
theorem sameCall_reported (r : Roster) {uo uo' : Options} {u v : Session}
    (hhome : uo.home = uo'.home) (hrecording : u.recording = v.recording)
    (frame : Session.Frame) : SameCall (reported r uo u frame) (reported r uo' v frame) where
  pc := rfl
  kind := rfl
  file := by
    unfold reported
    rw [hhome]
  line := rfl
  image := by
    unfold reported
    rw [Session.locate_eq_of_recording_eq r _ hrecording]

/-- A frame that is known to handle a signal is still known to, where its name stays known. -/
theorem handlesSignal_of_sameCall {f g : Stack.Frame} (h : SameCall f g)
    (hfunction : f.function = none ∨ g.function = f.function) (hf : handlesSignal f = true) :
    handlesSignal g = true := by
  unfold handlesSignal inHandler at hf ⊢
  rw [← h.kind]
  rcases hfunction with hnone | hsame
  · rw [hnone] at hf
    rw [Bool.or_eq_true]
    exact .inr hf
  · rwa [hsame]

end Unwind

namespace Investigation

open Sequence (through)
open Session (ThreadRecord debugger)
open Stack.Frame (SameCall withoutVars)

variable {o o' : Options} {r : Roster} {s : Session} {crashed record : ThreadRecord}

/-! ### The names -/

theorem mem_need_iff {number : UInt32} {records : List ThreadRecord} {image : Image} :
    image ∈ need o r s number records ↔ ∃ record ∈ records,
      o.tier.loads (record.number = number) = true ∧
        image ∈ r.owners s (record.frames.take frameLimit) := by
  unfold need Loader.needs
  rw [List.mem_flatMap]
  refine exists_congr fun record => and_congr_right fun _ => ?_
  split
  · rename_i hloads
    exact (and_iff_right hloads).symm
  · rename_i hloads
    simp [hloads]

theorem need_subset (h : o.tier.reach ≤ o'.tier.reach) (number : UInt32)
    (records : List ThreadRecord) : need o r s number records ⊆ need o' r s number records := by
  intro image himage
  obtain ⟨record, hrecord, hloads, howner⟩ := mem_need_iff.1 himage
  exact mem_need_iff.2 ⟨record, hrecord, Tier.loads_of_reach_le h hloads, howner⟩

/-- Where loads reach as far, a name that is known when a stack is read is the same. -/
theorem functionOf_of_reach_le {tier tier' : Tier} (h : tier.reach ≤ tier'.reach)
    (frame : Session.Frame) :
    (s.after (loadsBefore { o with tier := tier } s crashed record)).functionOf frame = none ∨
      (s.after (loadsBefore { o with tier := tier' } s crashed record)).functionOf frame =
        (s.after (loadsBefore { o with tier := tier } s crashed record)).functionOf frame := by
  apply Session.functionOf_after_mono
  intro file hasks
  have hmem := (Session.asks_requests rfl).1 hasks
  exact (Session.asks_requests rfl).2 (List.map_subset _ (need_subset h _ _) hmem)

theorem functionOf_of_reach_eq {tier tier' : Tier} (h : tier.reach = tier'.reach) :
    (s.after (loadsBefore { o with tier := tier } s crashed record)).functionOf =
      (s.after (loadsBefore { o with tier := tier' } s crashed record)).functionOf := by
  apply Session.functionOf_after_eq_of_asks_eq
  funext file
  refine Bool.eq_iff_iff.2 ((Session.asks_requests rfl).trans ?_)
  refine Iff.trans ?_ (Session.asks_requests rfl).symm
  exact ⟨fun hmem => List.map_subset _ (need_subset h.le _ _) hmem,
    fun hmem => List.map_subset _ (need_subset h.ge _ _) hmem⟩

/-- The crashed thread is visited before all others. -/
theorem through_visits_crashed (hcrashed : s.thread? crashed.number = some crashed)
    (hvalid : crashed.thread.valid = true) :
    through (fun visited => visited.number = crashed.number) (visits s crashed.number) =
      [crashed] := by
  unfold visits
  rw [hcrashed, Option.toList_some, List.filter_cons, if_pos hvalid]
  exact Sequence.through_cons_of_pos _ (decide_eq_true rfl)

/-- So all tiers that load images at all have loaded the same ones for its stack. -/
theorem need_crashed (htier : o.tier ≠ .spacious) :
    need o r s crashed.number [crashed] = r.owners s (crashed.frames.take frameLimit) := by
  unfold need Loader.needs
  rw [List.flatMap_cons, List.flatMap_nil, List.append_nil, decide_eq_true rfl,
    if_pos (Tier.loads_crashed htier)]

theorem functionOf_crashed {tier tier' : Tier} (htier : tier ≠ .spacious)
    (htier' : tier' ≠ .spacious) (hcrashed : s.thread? crashed.number = some crashed)
    (hvalid : crashed.thread.valid = true) :
    (s.after (loadsBefore { o with tier := tier } s crashed crashed)).functionOf =
      (s.after (loadsBefore { o with tier := tier' } s crashed crashed)).functionOf := by
  apply Session.functionOf_after_eq_of_asks_eq
  funext file
  unfold loadsBefore
  rw [through_visits_crashed hcrashed hvalid, need_crashed htier, need_crashed htier']
  exact Bool.eq_iff_iff.2 ((Session.asks_requests rfl).trans (Session.asks_requests rfl).symm)

/-! ### The stacks -/

theorem frames_stackFor_crashed (o : Options) (s : Session) (crashed : ThreadRecord) :
    (stackFor o s crashed crashed).frames =
      Unwind.clip (Unwind.recordedFrames (roster debugger o s).1 (unwindOptions o true)
        (s.after (loadsBefore o s crashed crashed)) crashed) := by
  unfold stackFor
  rw [decide_eq_true rfl]
  rfl

theorem frames_stackFor_other (o : Options) (s : Session) (h : record.number ≠ crashed.number) :
    (stackFor o s crashed record).frames =
      Unwind.recordedFrames (roster debugger o s).1 (unwindOptions o false)
        (s.after (loadsBefore o s crashed record)) record := by
  unfold stackFor
  rw [decide_eq_false h]
  rfl

/-- The reports of a session under two tiers, whenever there are both.

They have the same images, the same QML stack, the same message and the same threads, and the
place of the crashed thread is the same. The frames of the other threads are the same calls; where
the loads of the second tier reach as far as those of the first, a function that had a name has
the same one, and where they reach equally far all names are the same. The crashed thread's stack
is the same under all tiers that load images, apart from the variables, and without loads it is
the same or has more of the newest frames. -/
theorem investigate_tiers {o : Options} {s : Session} {tier tier' : Tier} {a b : Report}
    (ha : (investigate debugger { o with tier := tier } s).1 = .ok a)
    (hb : (investigate debugger { o with tier := tier' } s).1 = .ok b) :
    a.images = b.images ∧ a.qml = b.qml ∧ a.handlerMessage = b.handlerMessage ∧
    a.crashed = b.crashed ∧
    a.threadStacks.map Stack.thread = b.threadStacks.map Stack.thread ∧
    (∀ (place : Nat) (stack stack' : Stack), a.crashed ≠ some place →
      a.threadStacks[place]? = some stack → b.threadStacks[place]? = some stack' →
      List.Forall₂ (fun f g => SameCall f g ∧
        (tier.reach = tier'.reach → f.function = g.function) ∧
        (tier.reach ≤ tier'.reach → f.function = none ∨ g.function = f.function))
        stack.frames stack'.frames) ∧
    ∀ stack stack', a.crashing = some stack → b.crashing = some stack' →
      (tier ≠ .spacious → tier' ≠ .spacious →
        stack.frames.map withoutVars = stack'.frames.map withoutVars) ∧
      (tier = .spacious →
        stack'.frames.map Stack.Frame.pc <:+ stack.frames.map Stack.Frame.pc) := by
  obtain ⟨crashed, hcrashed, rfl⟩ := eq_reportOf_of_investigate_eq_ok ha
  obtain ⟨_, hsame, rfl⟩ := eq_reportOf_of_investigate_eq_ok hb
  obtain rfl := Option.some.inj (hcrashed.symm.trans hsame)
  have hfirst := Session.thread?_of_current?_eq_some hcrashed
  -- one frame under both tiers, in sessions of which only the loads differ
  have hsame : ∀ isCrashed loads loads' frame,
      SameCall
        (Unwind.reported (roster debugger o s).1 (unwindOptions { o with tier := tier } isCrashed)
          (s.after loads) frame)
        (Unwind.reported (roster debugger o s).1 (unwindOptions { o with tier := tier' } isCrashed)
          (s.after loads') frame) := by
    intro isCrashed loads loads' frame
    apply Unwind.sameCall_reported
    · rfl
    · rw [Session.recording_after, Session.recording_after]
  refine ⟨rfl, rfl, rfl, rfl, ?_, ?_, ?_⟩
  · show (s.leading.map _).map Stack.thread = (s.leading.map _).map Stack.thread
    rw [List.map_map, List.map_map]
    rfl
  · intro place stack stack' hplace hstack hstack'
    obtain ⟨record, hrecord, rfl⟩ := Option.map_eq_some_iff.1 (List.getElem?_map ▸ hstack)
    obtain ⟨_, hother, rfl⟩ := Option.map_eq_some_iff.1 (List.getElem?_map ▸ hstack')
    obtain rfl := Option.some.inj (hrecord.symm.trans hother)
    -- both stacks are those of one record, and it is not the crashed thread's
    have hnumber := number_ne_of_crashed_ne hrecord hplace
    rw [frames_stackFor_other _ s hnumber, frames_stackFor_other _ s hnumber]
    unfold Unwind.recordedFrames
    rw [List.forall₂_map_left_iff, List.forall₂_map_right_iff, List.forall₂_same]
    intro frame _
    exact ⟨hsame false _ _ frame, fun h => congrFun (functionOf_of_reach_eq h) frame,
      fun h => functionOf_of_reach_le h frame⟩
  · intro stack stack' hstack hstack'
    rw [crashing_reportOf hfirst] at hstack hstack'
    cases hvalid : crashed.thread.valid with
    | false =>
        rw [hvalid] at hstack
        cases hstack
    | true =>
      rw [if_pos hvalid] at hstack hstack'
      obtain rfl := Option.some.inj hstack
      obtain rfl := Option.some.inj hstack'
      rw [frames_stackFor_crashed, frames_stackFor_crashed]
      refine ⟨?_, ?_⟩
      · intro htier htier'
        apply Unwind.clip_withoutVars
        intro frame
        apply (hsame true _ _ frame).withoutVars_eq
        exact congrFun (functionOf_crashed htier htier' hfirst hvalid) frame
      · -- without loads the fewest names are known, so the fewest frames are clipped
        rintro rfl
        apply Unwind.clip_suffix
        · intro frame
          exact (hsame true _ _ frame).pc
        · intro frame
          apply Unwind.handlesSignal_of_sameCall (hsame true _ _ frame)
          exact functionOf_of_reach_le (Nat.zero_le _) frame

/-- Where the first library is loaded, the crash handler is known and clipped. -/
theorem exists_crashing_libraries {tier : Tier} {report : Report}
    (h : (investigate debugger { tier := tier } libraries).1 = .ok report) :
    ∃ stack, report.crashing = some stack ∧ stack.frames.map Stack.Frame.pc =
      if tier = .spacious then [0x1100, 0x3100, 0x1200] else [0x3100, 0x1200] := by
  obtain ⟨crashed, hcrashed, rfl⟩ := eq_reportOf_of_investigate_eq_ok h
  have hfirst := Session.thread?_of_current?_eq_some hcrashed
  obtain rfl : _ = crashed := Option.some.inj hcrashed
  refine ⟨_, crashing_reportOf hfirst, ?_⟩
  simp only [stackFor, loadsBefore, roster_libraries]
  cases tier <;> decide +kernel

theorem investigate_tiers_libraries : ∃ a b stack stack',
    (investigate debugger { tier := .spacious } libraries).1 = .ok a ∧
    (investigate debugger { tier := .some } libraries).1 = .ok b ∧
    a.crashing = some stack ∧ stack.frames.map Stack.Frame.pc = [0x1100, 0x3100, 0x1200] ∧
    b.crashing = some stack' ∧ stack'.frames.map Stack.Frame.pc = [0x3100, 0x1200] ∧
    a.threadStacks.map Stack.thread = b.threadStacks.map Stack.thread ∧
    stack'.frames.map Stack.Frame.pc <:+ stack.frames.map Stack.Frame.pc := by
  obtain ⟨a, ha⟩ := exists_report_libraries .spacious
  obtain ⟨b, hb⟩ := exists_report_libraries .some
  obtain ⟨stack, hstack, hpcs⟩ := exists_crashing_libraries ha
  obtain ⟨stack', hstack', hpcs'⟩ := exists_crashing_libraries hb
  obtain ⟨-, -, -, -, hthreads, -, hcrashing⟩ := investigate_tiers (o := {}) ha hb
  exact ⟨a, b, stack, stack', ha, hb, hstack, hpcs, hstack', hpcs', hthreads,
    (hcrashing stack stack' hstack hstack').2 rfl⟩

end Investigation

end CrashReport
