import CrashReport.Proofs.Console.Replacing

/-!
# Gates and ends

The command has a number of gates to pass: its log, its settings, the session, the investigation,
and the output. It ends with the whole report at the one place where it is asked for, or with that
place as it was, unless that is standard output and the report was begun there.

* **`World.Due`** — all gates but the output can be passed, and the pieces of the report are given;
  **`World.Ready`** — the output takes them too. There is but one such report (`World.Ready.eq`);
* **`World.Fresh`**, **`World.LogsApart`** — the files that the command makes do not get in each
  other's way;
* **`World.Delivered`**, **`World.Stopped`** — the two ways in which the command can end.
-/

namespace CrashReport

open CommandLine (Settings)

/-! ### What must hold -/

/-- The forms in which a report is written, in pieces. -/
inductive Rendering (settings : Settings) (report : Report) (c : Circumstances) :
    List String → Prop
  | brief (hhuman : settings.human = true) (hbrief : settings.brief = true) :
      Rendering settings report c (report.lines c true)
  | full (hhuman : settings.human = true) (hbrief : settings.brief = false) :
      Rendering settings report c (report.lines c false)
  | pretty (hhuman : settings.human = false) (hpretty : settings.pretty = true) :
      Rendering settings report c [(report.toJson c).pretty, "\n"]
  | compact (hhuman : settings.human = false) (hpretty : settings.pretty = false) :
      Rendering settings report c [(report.toJson c).compact, "\n"]

theorem rendering_iff {settings : Settings} {report : Report} {c : Circumstances}
    {pieces : List String} :
    Rendering settings report c pieces ↔ pieces = Console.pieces settings report c := by
  unfold Console.pieces
  constructor
  · rintro (⟨hhuman, hform⟩ | ⟨hhuman, hform⟩ | ⟨hhuman, hform⟩ | ⟨hhuman, hform⟩) <;>
      simp [hhuman, hform]
  · rintro rfl
    cases hhuman : settings.human with
    | true =>
        cases hbrief : settings.brief with
        | true => exact .brief hhuman hbrief
        | false => exact .full hhuman hbrief
    | false =>
        cases hpretty : settings.pretty with
        | true => exact .pretty hhuman hpretty
        | false => exact .compact hhuman hpretty

theorem Rendering.eq {settings : Settings} {report : Report} {c : Circumstances}
    {pieces other : List String} (h : Rendering settings report c pieces)
    (hother : Rendering settings report c other) : pieces = other := by
  rw [rendering_iff.1 h, rendering_iff.1 hother]

namespace World

/-- What a command prints, if it can be run and succeeds. -/
def printed (w : World) (command : String) (arguments : List String) : Option String :=
  match splitCommand command with
  | [] => none
  | words => (w.tool (words ++ arguments)).bind ToolRun.text?

/-- The world in which these commands were run. -/
def having (w : World) (ran : List (List String)) : World := { w with ran := ran }

/-- The circumstances that a report is made in. -/
def reportedIn (w : World) (settings : Settings) : Circumstances :=
  w.circumstances (HostFacts.ofOutput (settings.hostFacts.bind fun command => w.printed command []))

/-- The options of an investigation with what the world has to say: the listing tool is there to be
run, and paths lead where they do. -/
def optionsIn (w : World) (settings : Settings) (o : Investigation.Options) :
    Investigation.Options :=
  { o with
    listing := fun core => w.printed settings.lister [coreArgument core]
    canonical := w.canonical }

/-- The world in which the file of the log has been made, if there is to be one. -/
inductive Logs (w : World) (settings : Settings) : World → Prop
  | nowhere (hlog : settings.logFile = none) : w.Logs settings w
  | made {path : String} {place : List String} (hlog : settings.logFile = some path)
      (hmakes : w.Makes path place) : w.Logs settings (w.put place "")

/-- The pieces can be written to where the settings say. -/
inductive Accepts (w : World) (settings : Settings) (pieces : List String) : Prop
  | out (houtput : settings.outputFile = none)
      (htakes : Takes (fun written text => w.fault (.print written text)) w.out pieces)
  | file {path : String} {place : List String} (houtput : settings.outputFile = some path)
      (hreplaces : w.Replaces path pieces place)

/-- A session is recorded in a file that can be read. -/
structure Reads (w : World) (path : String) (session : Session) : Prop where
  granted : w.fault (.load path) = none
  recorded : ∃ content, w.files.read path = .ok content ∧ Session.ofText content = .ok session

/-- The pieces are the report of the session that the settings name. -/
structure Reports (w : World) (settings : Settings) (o : Investigation.Options)
    (session : Session) (report : Report) (pieces : List String) : Prop where
  read : w.Reads settings.session session
  investigated : (Investigation.investigate Session.debugger o session).1 = .ok report
  rendered : Rendering settings report (w.reportedIn settings) pieces

/-- A report of the session is to be had. -/
def Composes (w : World) (settings : Settings) (o : Investigation.Options)
    (pieces : List String) : Prop :=
  ∃ session report, w.Reports settings (w.optionsIn settings o) session report pieces

/-- Every gate but the output is passed, and the report is in the pieces. The session is read once
the file of the log has been made. -/
structure Passes (w : World) (settings : Settings) (signal : UInt32) (logged : World) (tier : Tier)
    (pieces : List String) : Prop where
  logs : w.Logs settings logged
  plain : ¬ (settings.pretty = true ∧ settings.human = true)
  human : settings.brief = true → settings.human = true
  tier_eq : Tier.ofName settings.tier = .ok tier
  composes : logged.Composes settings
    (Console.investigationOptions settings tier signal logged.home) pieces

/-- Every gate can be passed, and the pieces are the report that comes of it. -/
def Ready (w : World) (settings : Settings) (signal : UInt32) (pieces : List String) : Prop :=
  ∃ logged tier, w.Passes settings signal logged tier pieces ∧ logged.Accepts settings pieces

/-- The whole text has been written to the one place where it is asked for, and all other files are
as they were, but for those at the places that are left out. -/
inductive Delivered (settings : Settings) (text : String) (changed : List String → Prop)
    (w w' : World) : Prop
  | out (houtput : settings.outputFile = none) (hout : w'.out = w.out ++ text)
      (hfiles : ∀ place, ¬ changed place → w'.files.node? place = w.files.node? place)
  | file {path : String} {place : List String} (houtput : settings.outputFile = some path)
      (hplace : w.files.placeToMake path = .ok place) (hout : w'.out = w.out)
      (hread : w'.files.read path = .ok text)
      (hfiles : ∀ other, other ≠ place → ¬ changed other →
        w'.files.node? other = w.files.node? other)

/-- Nothing was written to standard output, or it is where a report is due of which a beginning was
written. -/
def Begun (settings : Settings) (due : List String → Prop) (w w' : World) : Prop :=
  w'.out = w.out ∨ settings.outputFile = none ∧ ∃ pieces part, due pieces ∧
    part.toList <+: (String.join pieces).toList ∧ w'.out = w.out ++ part

variable {w w' w'' logged : World} {settings : Settings} {text : String}
  {pieces : List String} {due : List String → Prop} {changed : List String → Prop} {place : List String}

theorem Logs.eq {other : World} (h : w.Logs settings logged) (hother : w.Logs settings other) :
    logged = other := by
  cases h with
  | nowhere hlog =>
      cases hother with
      | nowhere => rfl
      | made hother => cases hlog.symm.trans hother
  | made hlog hmakes =>
      cases hother with
      | nowhere hother => cases hlog.symm.trans hother
      | made hother hmakes' =>
          cases hlog.symm.trans hother
          cases hmakes.placed.symm.trans hmakes'.placed
          rfl

theorem Logs.out (h : w.Logs settings logged) : logged.out = w.out := by
  cases h <;> rfl

theorem Reads.eq {path : String} {session other : Session} (h : w.Reads path session)
    (hother : w.Reads path other) : session = other := by
  obtain ⟨-, content, hread, hsession⟩ := h
  obtain ⟨-, again, hread', hother⟩ := hother
  cases hread.symm.trans hread'
  exact Except.ok.inj (hsession.symm.trans hother)

theorem Delivered.after (hdelivered : w'.Delivered settings text (fun _ => False) w'')
    (h : w.KeptBut changed w') (hout : w'.out = w.out) :
    w.Delivered settings text changed w'' := by
  cases hdelivered with
  | out houtput hmore hfiles =>
      refine .out houtput (by rw [hmore, hout]) fun place hplace => ?_
      exact (hfiles place id).trans (h.files place hplace)
  | file houtput hplace hsame hread hfiles =>
      refine .file houtput (h.placeToMake_iff.1 hplace) (hsame.trans hout) hread ?_
      intro other hother hchanged
      exact (hfiles other hother id).trans (h.files other hchanged)

theorem Begun.mono {more : List String → Prop} (h : Begun settings due w w')
    (hmore : ∀ pieces, due pieces → more pieces) : Begun settings more w w' := by
  obtain hsame | ⟨houtput, pieces, part, hdue, hpart, hout⟩ := h
  · exact .inl hsame
  · exact .inr ⟨houtput, pieces, part, hmore pieces hdue, hpart, hout⟩

/-- What was written before and after does not count. -/
theorem Begun.between (h : Begun settings due w w') {start stop : World}
    (hstart : w.out = start.out) (hstop : stop.out = w'.out) : Begun settings due start stop := by
  unfold Begun
  rw [hstop, ← hstart]
  exact h

theorem Composes.eq {o : Investigation.Options} {other : List String}
    (h : w.Composes settings o pieces) (hother : w.Composes settings o other) :
    pieces = other := by
  obtain ⟨session, report, hreports⟩ := h
  obtain ⟨session', report', hreports'⟩ := hother
  cases hreports.read.eq hreports'.read
  cases hreports.investigated.symm.trans hreports'.investigated
  exact hreports.rendered.eq hreports'.rendered

theorem Ready.eq {signal : UInt32} {other : List String} (h : w.Ready settings signal pieces)
    (hother : w.Ready settings signal other) : pieces = other := by
  obtain ⟨logged, tier, hpasses, -⟩ := h
  obtain ⟨logged', tier', hpasses', -⟩ := hother
  cases hpasses.logs.eq hpasses'.logs
  cases hpasses.tier_eq.symm.trans hpasses'.tier_eq
  exact hpasses.composes.eq hpasses'.composes

end World

end CrashReport
