import CrashReport.Text.Order

/-!
# Tables in the order of their keys

A `Table α` gives a value to each of finitely many texts and lists them in the
order of their code points. Putting a value under a key that has one already
replaces it, so the last of several values under one key counts.

Main facts: **`find?_insert`** says what every key denotes after an insertion,
**`find?_ofList`** what it denotes in a table of pairs, and **`ascending_insert`** that the
order is kept.
-/

namespace CrashReport

/-- Values under distinct texts, listed in ascending order of the texts. -/
structure Table (α : Type) where
  entries : List (String × α) := []

namespace Table

variable {α β : Type}

instance [DecidableEq α] : DecidableEq (Table α) := fun s t =>
  decidable_of_iff (s.entries = t.entries) (by cases s; cases t; simp)

/-- The entry put in its place; an entry of the same key is replaced. -/
def place (key : String) (value : α) : List (String × α) → List (String × α)
  | [] => [(key, value)]
  | (k, v) :: rest =>
    if key = k then (key, value) :: rest
    else if Text.precedes key.toList k.toList then (key, value) :: (k, v) :: rest
    else (k, v) :: place key value rest

/-- The table with `value` under `key`. -/
def insert (t : Table α) (key : String) (value : α) : Table α :=
  ⟨place key value t.entries⟩

/-- The value under a key. -/
def find? (t : Table α) (key : String) : Option α :=
  (t.entries.find? (·.1 = key)).map (·.2)

/-- The table of all the pairs; of several pairs with one key the last counts. -/
def ofList (pairs : List (String × α)) : Table α :=
  pairs.foldl (fun t p => t.insert p.1 p.2) {}

/-- How many keys have a value. -/
def size (t : Table α) : Nat := t.entries.length

/-- No key has a value. -/
def isEmpty (t : Table α) : Bool := t.entries.isEmpty

/-- The values changed one by one, the keys kept. -/
def map (f : α → β) (t : Table α) : Table β :=
  ⟨t.entries.map fun p => (p.1, f p.2)⟩

/-- Every key stands before the next. -/
def Ascending (t : Table α) : Prop :=
  t.entries.Pairwise fun p q => Text.precedes p.1.toList q.1.toList = true

theorem find?_insert (t : Table α) (key other : String) (value : α) :
    (t.insert key value).find? other = if other = key then some value else t.find? other := by
  obtain ⟨entries⟩ := t
  simp only [insert, find?]
  induction entries with
  | nil => by_cases h : key = other <;> simp [place, h, eq_comm]
  | cons p rest ih =>
    obtain ⟨k, v⟩ := p
    simp only [place]
    by_cases hk : key = k
    · subst hk
      by_cases ho : key = other <;> simp [ho, eq_comm]
    · by_cases hlt : Text.precedes key.toList k.toList
      · by_cases ho : key = other
        · subst ho
          simp [hk, hlt]
        · simp [hk, hlt, ho, Ne.symm ho]
      · simp only [hk, hlt, if_false, Bool.false_eq_true, List.find?_cons]
        by_cases hko : k = other
        · subst hko
          simp [Ne.symm hk]
        · simp only [hko, decide_false, ih]

theorem mem_place {key : String} {value : α} {entries : List (String × α)} {p : String × α}
    (h : p ∈ place key value entries) : p = (key, value) ∨ p ∈ entries := by
  induction entries with
  | nil => simpa [place] using h
  | cons q rest ih =>
    simp only [place] at h
    grind

theorem ascending_insert {t : Table α} (h : t.Ascending) (key : String) (value : α) :
    (t.insert key value).Ascending := by
  obtain ⟨entries⟩ := t
  simp only [Ascending, insert] at h ⊢
  induction entries with
  | nil => simp [place]
  | cons p rest ih =>
    obtain ⟨k, v⟩ := p
    obtain ⟨hhead, hrest⟩ := List.pairwise_cons.1 h
    simp only [place]
    by_cases hk : key = k
    · -- the key has its place already
      subst hk
      simpa using ⟨by simpa using hhead, hrest⟩
    · by_cases hlt : Text.precedes key.toList k.toList
      · -- its place is before all others
        simp only [hk, hlt, if_true, if_false]
        refine List.pairwise_cons.2 ⟨?_, h⟩
        intro q hq
        rcases List.mem_cons.1 hq with rfl | hq
        · exact hlt
        · exact Text.precedes_trans hlt (hhead q hq)
      · -- its place is further on
        simp only [hk, hlt, if_false, Bool.false_eq_true]
        refine List.pairwise_cons.2 ⟨?_, ih hrest⟩
        intro q hq
        rcases mem_place hq with rfl | hq
        · rcases Text.precedes_or_eq (Bool.eq_false_iff.2 hlt) with hkey | heq
          · exact hkey
          · exact absurd (String.toList_inj.1 heq) hk
        · exact hhead q hq

/-- Of several values under one key the last is found. -/
theorem find?_ofList (pairs : List (String × α)) (key : String) :
    (ofList pairs).find? key = (pairs.reverse.find? (·.1 = key)).map (·.2) := by
  suffices ∀ t : Table α, (pairs.foldl (fun t p => t.insert p.1 p.2) t).find? key =
      ((pairs.reverse.find? (·.1 = key)).map (·.2)).or (t.find? key) by
    simpa [find?, ofList] using this {}
  induction pairs with
  | nil => simp
  | cons p pairs ih =>
    intro t
    rw [List.foldl_cons, ih, find?_insert, List.reverse_cons, List.find?_append]
    cases h : pairs.reverse.find? (·.1 = key) with
    | some q => simp
    | none =>
      by_cases hp : p.1 = key
      · simp [hp]
      · simp [hp, Ne.symm hp]

/-- A value put under a key that has none is one more entry. -/
theorem perm_place {key : String} {value : α} {entries : List (String × α)}
    (h : key ∉ entries.map Prod.fst) :
    (place key value entries).Perm ((key, value) :: entries) := by
  induction entries with
  | nil => exact .refl _
  | cons p rest ih =>
    obtain ⟨k, v⟩ := p
    rw [List.map_cons, List.mem_cons, not_or] at h
    simp only [place]
    rw [if_neg h.1]
    split
    · exact .refl _
    · exact ((ih h.2).cons _).trans (.swap _ _ _)

/-- Pairs with distinct keys are all entries of their table. -/
theorem perm_ofList {pairs : List (String × α)} (h : (pairs.map Prod.fst).Nodup) :
    (ofList pairs).entries.Perm pairs := by
  suffices ∀ t : Table α, ((t.entries ++ pairs).map Prod.fst).Nodup →
      (pairs.foldl (fun t p => t.insert p.1 p.2) t).entries.Perm (t.entries ++ pairs) from
    this {} h
  clear h
  induction pairs with
  | nil =>
    intro t _
    rw [List.append_nil]
    exact .refl _
  | cons p pairs ih =>
    intro t hnodup
    have hmiddle : (t.entries ++ p :: pairs).Perm (p :: t.entries ++ pairs) := List.perm_middle
    have hnew : p.1 ∉ t.entries.map Prod.fst := by
      rw [(hmiddle.map Prod.fst).nodup_iff, List.cons_append, List.map_cons,
        List.nodup_cons, List.map_append, List.mem_append, not_or] at hnodup
      exact hnodup.1.1
    have hplaced : ((t.insert p.1 p.2).entries ++ pairs).Perm (t.entries ++ p :: pairs) :=
      ((perm_place hnew).append_right pairs).trans hmiddle.symm
    exact (ih _ ((hplaced.map Prod.fst).nodup_iff.2 hnodup)).trans hplaced

theorem ascending_ofList (pairs : List (String × α)) : (ofList pairs).Ascending := by
  suffices ∀ t : Table α, t.Ascending →
      (pairs.foldl (fun t p => t.insert p.1 p.2) t).Ascending from this {} List.Pairwise.nil
  induction pairs with
  | nil => exact fun t h => h
  | cons p pairs ih => exact fun t h => ih _ (ascending_insert h p.1 p.2)

end Table

end CrashReport
