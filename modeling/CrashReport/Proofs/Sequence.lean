/-!
# First elements

Work that is done once for each key is done for the first element of that key.

* **`firsts`** — the elements that are the first ones of their keys (`mem_firsts_iff`), each
  key once (`nodup_keys_firsts`), in the order of the list (`firsts_sublist`);
* **`marks`** — the keys that have been seen after a list, so that the first elements of two
  lists in turn are known (`firsts_append`);
* **`through`** — the elements up to one at which the work ends.
-/

namespace CrashReport.Sequence

variable {α β : Type} [DecidableEq β]

/-- The elements whose key is none of `seen` and not the key of an earlier element. -/
def firsts (key : α → β) : (seen : List β) → List α → List α
  | _, [] => []
  | seen, x :: rest =>
    if key x ∈ seen then firsts key seen rest else x :: firsts key (key x :: seen) rest

/-- The keys seen after an element. -/
def mark (key : α → β) (seen : List β) (x : α) : List β :=
  if key x ∈ seen then seen else key x :: seen

/-- The keys seen after several elements. -/
def marks (key : α → β) (seen : List β) (l : List α) : List β := l.foldl (mark key) seen

variable {key : α → β}

theorem mem_mark_iff {seen : List β} {x : α} {k : β} :
    k ∈ mark key seen x ↔ k ∈ seen ∨ k = key x := by
  unfold mark
  split
  · rename_i hx
    constructor
    · exact .inl
    · rintro (hk | rfl)
      · exact hk
      · exact hx
  · rw [List.mem_cons, or_comm]

theorem marks_cons (seen : List β) (x : α) (rest : List α) :
    marks key seen (x :: rest) = marks key (mark key seen x) rest := rfl

theorem marks_append (seen : List β) (l m : List α) :
    marks key seen (l ++ m) = marks key (marks key seen l) m := List.foldl_append

theorem firsts_cons_of_mem {seen : List β} {x : α} (rest : List α) (h : key x ∈ seen) :
    firsts key seen (x :: rest) = firsts key seen rest := if_pos h

theorem firsts_cons_of_notMem {seen : List β} {x : α} (rest : List α) (h : key x ∉ seen) :
    firsts key seen (x :: rest) = x :: firsts key (key x :: seen) rest := if_neg h

theorem firsts_sublist (seen : List β) (l : List α) : (firsts key seen l).Sublist l := by
  induction l generalizing seen with
  | nil => exact .slnil
  | cons x rest ih =>
      unfold firsts
      split
      · exact (ih seen).cons x
      · exact (ih (key x :: seen)).cons_cons x

theorem firsts_append (seen : List β) (l m : List α) :
    firsts key seen (l ++ m) = firsts key seen l ++ firsts key (marks key seen l) m := by
  induction l generalizing seen with
  | nil => rfl
  | cons x rest ih =>
      rw [List.cons_append, marks_cons]
      unfold mark
      by_cases hx : key x ∈ seen
      · rw [firsts_cons_of_mem _ hx, firsts_cons_of_mem _ hx, ih, if_pos hx]
      · rw [firsts_cons_of_notMem _ hx, firsts_cons_of_notMem _ hx, ih, if_neg hx]
        rfl

/-- The keys of the first elements are the keys without repetition. -/
theorem map_firsts (seen : List β) (l : List α) :
    (firsts key seen l).map key = firsts id seen (l.map key) := by
  induction l generalizing seen with
  | nil => rfl
  | cons x rest ih =>
      rw [List.map_cons]
      unfold firsts
      split
      · rename_i hx
        rw [if_pos (show id (key x) ∈ seen from hx), ih]
      · rename_i hx
        rw [if_neg (show ¬ id (key x) ∈ seen from hx), List.map_cons, ih]
        rfl

theorem mem_firsts_iff {seen : List β} {l : List α} {x : α} :
    x ∈ firsts key seen l ↔ key x ∉ seen ∧ l.find? (key · = key x) = some x := by
  induction l generalizing seen with
  | nil => simp [firsts]
  | cons y rest ih =>
      by_cases hkey : key y = key x
      · -- `y` has the key, so no later element is the first one of it
        rw [List.find?_cons_of_pos (by simp [hkey])]
        unfold firsts
        split
        · rename_i hy
          rw [ih, hkey.symm]
          simp [hy]
        · rename_i hy
          rw [List.mem_cons, ih, ← hkey]
          simp [hy, eq_comm]
      · rw [List.find?_cons_of_neg (by simp [hkey])]
        have hne : x ≠ y := fun h => hkey (by rw [h])
        unfold firsts
        split
        · exact ih
        · rw [List.mem_cons, ih, List.mem_cons]
          simp [hne, Ne.symm hkey]

/-- Without repetition, a list still has all of its elements. -/
theorem mem_firsts_id_iff {l : List β} {x : β} : x ∈ firsts id [] l ↔ x ∈ l := by
  refine ⟨fun h => (firsts_sublist [] l).subset h, fun h => ?_⟩
  refine mem_firsts_iff.2 ⟨List.not_mem_nil, ?_⟩
  cases hfind : l.find? (id · = id x) with
  | none => exact absurd (decide_eq_true rfl) (List.find?_eq_none.1 hfind x h)
  | some y =>
      have hy := List.find?_some hfind
      exact congrArg some (of_decide_eq_true hy)

theorem nodup_keys_firsts (seen : List β) (l : List α) :
    ((firsts key seen l).map key).Nodup := by
  induction l generalizing seen with
  | nil => exact List.Pairwise.nil
  | cons x rest ih =>
      unfold firsts
      split
      · exact ih seen
      · rw [List.map_cons, List.nodup_cons]
        refine ⟨?_, ih _⟩
        intro hmem
        obtain ⟨y, hy, hkey⟩ := List.mem_map.1 hmem
        exact (mem_firsts_iff.1 hy).1 (hkey ▸ List.mem_cons_self)

/-- Where no key is repeated or has been seen, every element is the first one of its key. -/
theorem firsts_eq_self {seen : List β} {l : List α} (hnodup : (l.map key).Nodup)
    (hnew : ∀ x ∈ l, key x ∉ seen) : firsts key seen l = l := by
  induction l generalizing seen with
  | nil => rfl
  | cons x rest ih =>
      rw [List.map_cons, List.nodup_cons] at hnodup
      rw [firsts_cons_of_notMem _ (hnew x List.mem_cons_self), ih hnodup.2]
      intro y hy hseen
      rcases List.mem_cons.1 hseen with hkey | hseen
      · exact hnodup.1 (hkey ▸ List.mem_map_of_mem hy)
      · exact hnew y (List.mem_cons_of_mem x hy) hseen

/-- The elements up to the first one with a property, this one included. -/
def through (p : α → Bool) : List α → List α
  | [] => []
  | x :: rest => if p x then [x] else x :: through p rest

theorem through_cons_of_pos {p : α → Bool} {x : α} (rest : List α) (h : p x = true) :
    through p (x :: rest) = [x] := if_pos h

theorem through_cons_of_neg {p : α → Bool} {x : α} (rest : List α) (h : p x = false) :
    through p (x :: rest) = x :: through p rest := if_neg (Bool.eq_false_iff.1 h)

theorem through_singleton (p : α → Bool) (x : α) : through p [x] = [x] := ite_self _

theorem through_sublist (p : α → Bool) (l : List α) : (through p l).Sublist l := by
  induction l with
  | nil => exact .slnil
  | cons x rest ih =>
      unfold through
      split
      · exact (List.nil_sublist rest).cons_cons x
      · exact ih.cons_cons x

theorem through_append_of_any {p : α → Bool} {l : List α} (m : List α) (h : l.any p = true) :
    through p (l ++ m) = through p l := by
  induction l with
  | nil => cases h
  | cons x rest ih =>
      rw [List.cons_append]
      cases hx : p x with
      | true => rw [through_cons_of_pos _ hx, through_cons_of_pos _ hx]
      | false =>
          rw [List.any_cons, hx, Bool.false_or] at h
          rw [through_cons_of_neg _ hx, through_cons_of_neg _ hx, ih h]

theorem through_append_of_not_any {p : α → Bool} {l : List α} (m : List α)
    (h : l.any p = false) : through p (l ++ m) = l ++ through p m := by
  induction l with
  | nil => rfl
  | cons x rest ih =>
      rw [List.any_cons, Bool.or_eq_false_iff] at h
      rw [List.cons_append, through_cons_of_neg _ h.1, ih h.2]
      rfl

theorem through_eq_self {p : α → Bool} {l : List α} (h : l.any p = false) :
    through p l = l := by
  have happend := through_append_of_not_any [] h
  rwa [List.append_nil, show through p [] = [] from rfl, List.append_nil] at happend

/-- Where the keys are distinct, each key has one place. -/
theorem findIdx?_eq_some_iff_of_nodup {l : List α} (h : (l.map key).Nodup) {k : β} {i : Nat} :
    (l.findIdx? fun x => key x = k) = some i ↔ (l[i]?).map key = some k := by
  rw [List.findIdx?_eq_some_iff_getElem]
  constructor
  · rintro ⟨hi, hkey, -⟩
    rw [List.getElem?_eq_getElem hi, Option.map_some, of_decide_eq_true hkey]
  · intro hmap
    obtain ⟨x, hx, hkey⟩ := Option.map_eq_some_iff.1 hmap
    obtain ⟨hi, rfl⟩ := List.getElem?_eq_some_iff.1 hx
    refine ⟨hi, decide_eq_true hkey, ?_⟩
    intro j hj heq
    have hne := List.pairwise_iff_getElem.1 h j i (by simp; omega) (by simpa using hi) hj
    rw [List.getElem_map, List.getElem_map, hkey] at hne
    exact hne (of_decide_eq_true heq)

end CrashReport.Sequence
