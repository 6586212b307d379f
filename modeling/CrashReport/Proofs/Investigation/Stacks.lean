import CrashReport.Proofs.Investigation.Course
import Mathlib.Data.List.Forall2

/-!
# Which stacks a report has

The stacks are traced with the crashed thread first, and kept under the numbers of their
threads. The report lists them in the order of the session: one for every thread that can be
selected (`Session.leading`), whatever the numbers of the others are.

* **`inOrder_eq_filterMap`** — the stacks in order are those found for the first threads of
  their numbers;
* **`investigate_stacks`** — the stacks of a report and the place of the crashed thread's.
-/

namespace CrashReport

open Sequence (firsts)

namespace Investigation

open Session (ThreadRecord debugger)

/-! ### The order of the stacks -/

/-- Stacks of numbers that have been met have been taken out, and the others are still to be
listed. -/
theorem inOrder_filter (ahead : List ThreadRecord) (met : List UInt32)
    (traced : List (UInt32 × Stack)) :
    inOrder (ahead.map ThreadRecord.thread) (traced.filter fun entry => entry.1 ∉ met) =
      (firsts ThreadRecord.number met ahead).filterMap fun record =>
        traced.find? fun entry => entry.1 = record.number := by
  induction ahead generalizing met with
  | nil => rfl
  | cons record ahead ih =>
      rw [List.map_cons]
      unfold inOrder
      by_cases hmet : record.number ∈ met
      · -- the stack of this number has been taken out
        have hnone : ((traced.filter fun entry => entry.1 ∉ met).find? fun entry =>
            entry.1 = record.thread.number) = none := by
          rw [List.find?_eq_none]
          intro entry hentry heq
          have hnot : entry.1 ∉ met := of_decide_eq_true (List.mem_filter.1 hentry).2
          rw [of_decide_eq_true heq] at hnot
          exact hnot hmet
        rw [hnone, Sequence.firsts_cons_of_mem _ hmet]
        exact ih met
      · have hfind : ((traced.filter fun entry => entry.1 ∉ met).find? fun entry =>
            entry.1 = record.thread.number) =
              traced.find? fun entry => entry.1 = record.number := by
          rw [List.find?_filter]
          congr 1
          funext entry
          by_cases heq : entry.1 = record.number
          · simp [heq, hmet]
          · simp [heq]
        have hrest := ih (record.number :: met)
        rw [hfind, Sequence.firsts_cons_of_notMem _ hmet, List.filterMap_cons]
        cases hlookup : traced.find? fun entry => entry.1 = record.number with
        | some entry =>
            have hfilter : (traced.filter fun entry => entry.1 ∉ met).filter
                (fun other => other.1 ≠ record.thread.number) =
                  traced.filter fun entry => entry.1 ∉ record.number :: met := by
              rw [List.filter_filter]
              congr 1
              funext other
              simp [not_or]
            dsimp only
            rw [hfilter, hrest]
        | none =>
            have hfilter : (traced.filter fun entry => entry.1 ∉ met) =
                traced.filter fun entry => entry.1 ∉ record.number :: met := by
              apply List.filter_congr
              intro entry hentry
              have hne := List.find?_eq_none.1 hlookup entry hentry
              rw [decide_eq_true_eq] at hne
              simp [hne]
            dsimp only
            rw [hfilter, hrest]

theorem inOrder_eq_filterMap (s : Session) (traced : List (UInt32 × Stack)) :
    inOrder (s.threads.map ThreadRecord.thread) traced =
      (firsts ThreadRecord.number [] s.threads).filterMap fun record =>
        traced.find? fun entry => entry.1 = record.number := by
  have h := inOrder_filter s.threads [] traced
  rwa [List.filter_eq_self.2 fun _ _ => by simp] at h

/-! ### The stacks of the threads that can be selected -/

section Lists

variable {α β : Type} {R : β → α → Prop}

theorem exists_mem_of_forall₂ {l : List β} {m : List α} (h : List.Forall₂ R l m) {b : β}
    (hb : b ∈ l) : ∃ a ∈ m, R b a := by
  induction h with
  | nil => cases hb
  | cons hhead _ ih =>
      rcases List.mem_cons.1 hb with rfl | hb
      · exact ⟨_, List.mem_cons_self, hhead⟩
      · obtain ⟨a, ha, hrel⟩ := ih hb
        exact ⟨a, List.mem_cons_of_mem _ ha, hrel⟩

theorem getElem?_of_forall₂ {l : List β} {m : List α} (h : List.Forall₂ R l m) {place : Nat}
    {b : β} (hb : l[place]? = some b) : ∃ a, m[place]? = some a ∧ R b a := by
  obtain ⟨hplace, rfl⟩ := List.getElem?_eq_some_iff.1 hb
  have hlength : place < m.length := h.length_eq ▸ hplace
  exact ⟨m[place], List.getElem?_eq_getElem hlength, h.get hplace hlength⟩

theorem map_eq_map_of_forall₂ {γ : Type} {f : β → γ} {g : α → γ} {l : List β} {m : List α}
    (h : List.Forall₂ R l m) (hfg : ∀ b a, R b a → f b = g a) :
    l.map f = m.map g := by
  induction h with
  | nil => rfl
  | cons hhead _ ih => rw [List.map_cons, List.map_cons, hfg _ _ hhead, ih]

theorem forall₂_filterMap_filter {f : α → Option β} {p : α → Bool} {l : List α}
    (hsome : ∀ a ∈ l, p a = true → ∃ b, f a = some b ∧ R b a)
    (hnone : ∀ a ∈ l, p a = false → f a = none) :
    List.Forall₂ R (l.filterMap f) (l.filter p) := by
  induction l with
  | nil => exact .nil
  | cons a rest ih =>
      have hrest := ih (fun x hx => hsome x (List.mem_cons_of_mem a hx))
        (fun x hx => hnone x (List.mem_cons_of_mem a hx))
      rw [List.filterMap_cons, List.filter_cons]
      cases hp : p a with
      | true =>
          obtain ⟨b, hb, hrel⟩ := hsome a List.mem_cons_self hp
          rw [hb, if_pos rfl]
          exact .cons hrel hrest
      | false =>
          rw [hnone a List.mem_cons_self hp, if_neg Bool.false_ne_true]
          exact hrest

end Lists

variable {Q : ThreadRecord → Stack → Prop} {s : Session} {crashed : UInt32}
  {entries : List (UInt32 × Stack)}

theorem eq_of_mem_leading {record other : ThreadRecord} (hother : other ∈ s.leading)
    (hfirst : s.thread? record.number = some record) (hnumber : other.number = record.number) :
    other = record := by
  have hsame := (Session.mem_leading_iff.1 hother).2
  rw [hnumber, hfirst] at hsame
  exact (Option.some.inj hsame).symm

/-- A stack that is found under the number of a thread is that of the thread, if this one is
the first with its number. -/
theorem leading_of_find?_eq_some {record : ThreadRecord} {entry : UInt32 × Stack}
    (hvisits : List.Forall₂ (fun entry record => entry.1 = record.number ∧ Q record entry.2)
      entries (visits s crashed))
    (hfirst : s.thread? record.number = some record)
    (hfind : (entries.reverse.find? fun entry => entry.1 = record.number) = some entry) :
    record ∈ s.leading ∧ entry.1 = record.number ∧ Q record entry.2 := by
  have hfound := List.find?_some hfind
  have hmem := List.mem_reverse.1 (List.mem_of_find?_eq_some hfind)
  obtain ⟨visited, hvisited, hnumber, hstack⟩ := exists_mem_of_forall₂ hvisits hmem
  have hleading := mem_visits_iff.1 hvisited
  have hsame := eq_of_mem_leading hleading hfirst (hnumber.symm.trans (of_decide_eq_true hfound))
  subst hsame
  exact ⟨hleading, hnumber, hstack⟩

/-- The stacks of the visited threads, put in order, are those of the threads that can be
selected. -/
theorem forall₂_inOrder
    (hvisits : List.Forall₂ (fun entry record => entry.1 = record.number ∧ Q record entry.2)
      entries (visits s crashed)) :
    List.Forall₂ (fun entry record => entry.1 = record.number ∧ Q record entry.2)
      (inOrder (s.threads.map ThreadRecord.thread) entries.reverse) s.leading := by
  rw [inOrder_eq_filterMap]
  apply forall₂_filterMap_filter
  · intro record hrecord hvalid
    have hfirst : s.thread? record.number = some record := (Sequence.mem_firsts_iff.1 hrecord).2
    have hvisited : record ∈ visits s crashed :=
      mem_visits_iff.2 (Session.mem_leading_iff.2 ⟨hvalid, hfirst⟩)
    obtain ⟨entry, hentry, hnumber, -⟩ := exists_mem_of_forall₂ hvisits.flip hvisited
    cases hfind : entries.reverse.find? fun entry => entry.1 = record.number with
    | some found => exact ⟨found, rfl, (leading_of_find?_eq_some hvisits hfirst hfind).2⟩
    | none =>
        have hne := List.find?_eq_none.1 hfind entry (List.mem_reverse.2 hentry)
        exact absurd (decide_eq_true hnumber) hne
  · intro record hrecord hinvalid
    have hfirst : s.thread? record.number = some record := (Sequence.mem_firsts_iff.1 hrecord).2
    cases hfind : entries.reverse.find? fun entry => entry.1 = record.number with
    | none => rfl
    | some found =>
        have hleading := (leading_of_find?_eq_some hvisits hfirst hfind).1
        rw [(Session.mem_leading_iff.1 hleading).1] at hinvalid
        cases hinvalid

/-- The stack of the crashed thread is found in the place of this thread. -/
theorem findIdx?_eq_some_iff {l : List (UInt32 × Stack)} {record : ThreadRecord} {place : Nat}
    (hl : List.Forall₂ (fun entry record => entry.1 = record.number ∧ Q record entry.2)
      l s.leading)
    (hfirst : s.thread? record.number = some record) :
    (l.findIdx? fun entry => entry.1 = record.thread.number) = some place ↔
      s.leading[place]? = some record := by
  have hnumbers : l.map Prod.fst = s.leading.map ThreadRecord.number :=
    map_eq_map_of_forall₂ hl fun _ _ h => h.1
  have hnodup : (l.map Prod.fst).Nodup := by
    rw [hnumbers]
    exact Session.nodup_numbers_leading s
  rw [Sequence.findIdx?_eq_some_iff_of_nodup hnodup, ← List.getElem?_map, hnumbers,
    List.getElem?_map, Option.map_eq_some_iff]
  constructor
  · rintro ⟨other, hother, hnumber⟩
    rwa [eq_of_mem_leading (List.mem_of_getElem? hother) hfirst hnumber] at hother
  · intro hrecord
    exact ⟨record, hrecord, rfl⟩

/-- The stacks of a report, for every session and all options for which there is one.

There is one stack for every thread that can be selected, in the order of the session, and it
carries what the debugger lists of the thread. The place of the crashed thread's stack is
known exactly if the first thread of the selected number is valid; it is then a place in the list,
it holds that thread's stack, and only this stack was walked as that of a crashed thread. -/
theorem investigate_stacks {o : Options} {s : Session} {report : Report}
    (h : (investigate debugger o s).1 = .ok report) :
    report.threadStacks.map Stack.thread = s.leading.map ThreadRecord.thread ∧
    (∀ place stack, report.threadStacks[place]? = some stack →
      ∃ record, s.leading[place]? = some record ∧
        Walked o (roster debugger o s).1 s (report.crashed = some place) record stack) ∧
    ∃ crashed, s.current? = some crashed ∧
      (report.crashed.isSome ↔ crashed.thread.valid = true) ∧
      ∀ place, report.crashed = some place →
        s.leading[place]? = some crashed ∧
        ∃ stack, report.threadStacks[place]? = some stack ∧ report.crashing = some stack := by
  cases hcurrent : s.current? with
  | none =>
      rw [investigate_of_current?_eq_none o hcurrent] at h
      cases h
  | some crashed =>
      obtain ⟨t, run, path, buildId, message, qml, -, hvisit, hanswer⟩ := exists_visit o hcurrent
      rw [hanswer] at h
      split at h
      · cases h
      · cases h
      · rename_i hok _
        cases h
        obtain ⟨entries, htraced, hentries⟩ := hvisit.tracing hok
        have hinOrder := forall₂_inOrder hentries
        rw [List.append_nil] at htraced
        rw [← htraced] at hinOrder
        have hfirst := Session.thread?_of_current?_eq_some hcurrent
        let listed := inOrder (s.threads.map ThreadRecord.thread) run.2.1.traced
        have hplace : ∀ place, (listed.findIdx? fun entry => entry.1 = crashed.thread.number) =
            some place ↔ s.leading[place]? = some crashed :=
          fun _ => findIdx?_eq_some_iff hinOrder hfirst
        refine ⟨?_, ?_, crashed, rfl, ?_, ?_⟩
        · show (listed.map Prod.snd).map Stack.thread = _
          rw [List.map_map]
          apply map_eq_map_of_forall₂ hinOrder
          rintro entry record ⟨-, u, -, hstack⟩
          exact Unwind.thread_of_unwind_eq_ok hstack
        · intro place stack hstack
          obtain ⟨entry, hentry, rfl⟩ := Option.map_eq_some_iff.1 (List.getElem?_map ▸ hstack)
          obtain ⟨record, hrecord, -, hwalked⟩ := getElem?_of_forall₂ hinOrder hentry
          refine ⟨record, hrecord, ?_⟩
          -- numbers are distinct among the threads that can be selected
          have hiff : record.number = crashed.number ↔
              (listed.findIdx? fun entry => entry.1 = crashed.thread.number) = some place := by
            rw [hplace, hrecord, Option.some.injEq]
            exact ⟨eq_of_mem_leading (List.mem_of_getElem? hrecord) hfirst, congrArg _⟩
          rwa [decide_eq_decide.2 hiff] at hwalked
        · show (listed.findIdx? _).isSome ↔ _
          rw [Option.isSome_iff_exists]
          simp only [hplace]
          constructor
          · rintro ⟨place, hcrashed⟩
            exact (Session.mem_leading_iff.1 (List.mem_of_getElem? hcrashed)).1
          · intro hvalid
            exact List.mem_iff_getElem?.1 (Session.mem_leading_iff.2 ⟨hvalid, hfirst⟩)
        · intro place hcrashed
          have hleading := (hplace place).1 hcrashed
          obtain ⟨entry, hentry, -⟩ := getElem?_of_forall₂ hinOrder.flip hleading
          have hstack : (listed.map Prod.snd)[place]? = some entry.2 := by
            rw [List.getElem?_map, hentry, Option.map_some]
          refine ⟨hleading, entry.2, hstack, ?_⟩
          unfold Report.crashing
          rw [hcrashed]
          exact hstack

/-- A session in which two threads have the crashed one's number, and the first of two others
that share a number is not valid. -/
def twins : Session where
  selected := some 1
  threads := [
    { thread := { number := 3, id := 30 } },
    { thread := { number := 2, id := 20, valid := false } },
    { thread := { number := 1, id := 10 }, frames := [{ pc := 4096 }] },
    { thread := { number := 2, id := 21 } },
    { thread := { number := 1, id := 11 } }]

theorem investigate_stacks_twins : ∃ report, (investigate debugger {} twins).1 = .ok report ∧
    report.threadStacks.map (fun stack => stack.thread.id) = [30, 10] ∧
    report.crashed.isSome := by
  obtain ⟨report, hreport⟩ : ∃ report, (investigate debugger {} twins).1 = .ok report :=
    ⟨_, rfl⟩
  obtain ⟨hthreads, -, crashed, hcurrent, hcrashed, -⟩ := investigate_stacks hreport
  refine ⟨report, hreport, ?_, ?_⟩
  · calc report.threadStacks.map (fun stack => stack.thread.id)
        = (report.threadStacks.map Stack.thread).map Thread.id := List.map_map.symm
      _ = (twins.leading.map ThreadRecord.thread).map Thread.id := by rw [hthreads]
      _ = [30, 10] := rfl
  · cases hcurrent
    exact hcrashed.2 rfl

end Investigation

end CrashReport
