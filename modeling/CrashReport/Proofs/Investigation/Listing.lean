import CrashReport.Proofs.Investigation.Course

/-!
# Which core image is listed

An investigation may need a listing of the images of a core image, which a tool has to make. Which
core image that is can be told beforehand (`coreToList`), so the tool is run at most once, and
before the investigation.

* **`traceAll_congr`** — of the options, tracing reads the tier and the home directory alone;
* **`investigate_congr`** — an investigation reads no listing but that of `coreToList`.
-/

namespace CrashReport.Investigation

open Session (debugger)

variable {σ : Type} {o o' : Options} {d : Debugger σ} {listing other : String → Option String}
  {s : Session}

theorem trace_congr (htier : o.tier = o'.tier) (hhome : o.home = o'.home)
    (p : Progress) (roster : Roster) (crashed : UInt32) (thread : Thread) (s : σ) :
    p.trace d o roster crashed thread s = p.trace d o' roster crashed thread s := by
  have hunwind : unwindOptions o = unwindOptions o' := by
    funext crashed
    unfold unwindOptions
    rw [htier, hhome]
  unfold Progress.trace
  rw [hunwind]

theorem traceOthers_congr (htier : o.tier = o'.tier) (hhome : o.home = o'.home)
    (roster : Roster) (crashed : UInt32) (threads : List Thread) (p : Progress) (s : σ) :
    traceOthers d o roster crashed threads p s = traceOthers d o' roster crashed threads p s := by
  induction threads generalizing p s with
  | nil => rfl
  | cons thread rest ih =>
      unfold traceOthers
      rw [trace_congr htier hhome, ih]
      split
      · rfl
      · split
        · exact ih _ _
        · exact ih _ _
        · rfl

theorem traceAll_congr (htier : o.tier = o'.tier) (hhome : o.home = o'.home)
    (roster : Roster) (crashed : Thread) (threads : List Thread) (p : Progress) (s : σ) :
    traceAll d o roster crashed threads p s = traceAll d o' roster crashed threads p s := by
  unfold traceAll
  rw [trace_congr htier hhome, traceOthers_congr htier hhome]
  split
  · split
    · exact traceOthers_congr htier hhome _ _ _ _ _
    · rfl
  · rfl

theorem roster_congr {crashed : Thread} (hcrashed : crashedThread? debugger s = some crashed)
    (h : ∀ core, coreToList debugger o s = some core → listing core = other core) :
    roster debugger { o with listing := listing } s =
      roster debugger { o with listing := other } s := by
  have hcore : (coreFile debugger o s).bind listing = (coreFile debugger o s).bind other := by
    cases hfile : coreFile debugger o s with
    | none => rfl
    | some core =>
        refine h core ?_
        rw [coreToList, hcrashed]
        exact hfile
  have hsame : ∀ asked, coreFile debugger { o with listing := asked } s = coreFile debugger o s :=
    fun _ => rfl
  unfold roster
  simp only [hsame, hcore]

/-- An investigation reads no listing but that of the core image that must be listed. -/
theorem investigate_congr
    (h : ∀ core, coreToList debugger o s = some core → listing core = other core) :
    investigate debugger { o with listing := listing } s =
      investigate debugger { o with listing := other } s := by
  unfold investigate Debugger.keepingThread
  cases hcrashed : crashedThread? debugger s with
  | none => simp only [hcrashed]
  | some crashed =>
      have hthread : investigateThread debugger { o with listing := listing } crashed s =
          investigateThread debugger { o with listing := other } crashed s := by
        have hmessage : handlerMessage debugger s = ((handlerMessage debugger s).1, s) := rfl
        have htrace : ∀ roster threads p s,
            traceAll debugger { o with listing := listing } roster crashed threads p s =
              traceAll debugger { o with listing := other } roster crashed threads p s := by
          intro roster threads p s
          apply traceAll_congr
          · rfl
          · rfl
        unfold investigateThread
        rw [hmessage]
        simp only [roster_congr hcrashed h]
        rw [htrace]
        rfl
      simp only [hcrashed, hthread]

end CrashReport.Investigation
