/-!
# First places

A search goes through a list, and for each element through all that belongs to the element. It
finds what stands at the first of all places. A place is that of the element in the list and one
among what belongs to the element; the place in the list counts first.

* **`FirstAt`** — something stands at a place, and nothing stands before it;
* **`Answers`** — the answer is what stands at the first place, and there is none only if nothing
  stands anywhere. There is one such answer (`Answers.unique`);
* **`answers_findSome?`**, **`answers_findSome?_lex`** — a search through a list gives it, and so
  does a search through a list of searches.
-/

namespace CrashReport.Sequence

variable {α β κ : Type}

/-- Of all that stands somewhere, `b` stands first, and its place is `k`. -/
structure FirstAt (before : κ → κ → Prop) (stands : κ → β → Prop) (k : κ) (b : β) : Prop where
  here : stands k b
  first : ∀ other c, stands other c → other = k ∨ before k other

/-- The answer to a search for what stands first. -/
def Answers (before : κ → κ → Prop) (stands : κ → β → Prop) : Option β → Prop
  | some b => ∃ k, FirstAt before stands k b
  | none => ∀ k b, ¬ stands k b

variable {before : κ → κ → Prop} {stands : κ → β → Prop} {f : α → Option β}

theorem FirstAt.unique {j k : κ} {b c : β} (hj : FirstAt before stands j b)
    (hk : FirstAt before stands k c) (hasymm : ∀ j k, before j k → ¬ before k j) : j = k := by
  rcases hj.first k c hk.here with heq | hbefore
  · exact heq.symm
  · rcases hk.first j b hj.here with heq | hafter
    · exact heq
    · exact absurd hafter (hasymm j k hbefore)

/-- Where no two things stand at one place, there is one answer. -/
theorem Answers.unique {x y : Option β} (hx : Answers before stands x)
    (hy : Answers before stands y) (hasymm : ∀ j k, before j k → ¬ before k j)
    (hone : ∀ k b c, stands k b → stands k c → b = c) : x = y := by
  cases x with
  | none =>
      cases y with
      | none => rfl
      | some c =>
          obtain ⟨k, hk⟩ := hy
          exact absurd hk.here (hx k c)
  | some b =>
      obtain ⟨j, hj⟩ := hx
      cases y with
      | none => exact absurd hj.here (hy j b)
      | some c =>
          obtain ⟨k, hk⟩ := hy
          obtain rfl := hj.unique hk hasymm
          rw [hone j b c hj.here hk.here]

/-- The answer depends only on what stands where. -/
theorem Answers.congr {other : κ → β → Prop} {x : Option β} (hx : Answers before stands x)
    (h : ∀ k b, stands k b ↔ other k b) : Answers before other x := by
  have heq : stands = other := funext fun k => funext fun b => propext (h k b)
  exact heq ▸ hx

/-- What a search through a list finds, it has not found at any earlier place. -/
theorem exists_getElem?_of_findSome? {l : List α} {b : β} (h : l.findSome? f = some b) :
    ∃ (i : Nat) (a : α), l[i]? = some a ∧ f a = some b ∧ ∀ j < i, ∀ x, l[j]? = some x → f x = none := by
  obtain ⟨passed, a, rest, rfl, ha, hnone⟩ := List.findSome?_eq_some_iff.1 h
  have hplace : (passed ++ a :: rest)[passed.length]? = some a := by
    rw [List.getElem?_append_right (Nat.le_refl _), Nat.sub_self, List.getElem?_cons_zero]
  refine ⟨passed.length, a, hplace, ha, ?_⟩
  intro j hj x hx
  rw [List.getElem?_append_left hj] at hx
  exact hnone x (List.mem_of_getElem? hx)

theorem answers_findSome? (f : α → Option β) (l : List α) :
    Answers (· < ·) (fun (i : Nat) b => ∃ a, l[i]? = some a ∧ f a = some b)
      (l.findSome? f) := by
  cases hfound : l.findSome? f with
  | none =>
      rintro i b ⟨a, ha, hb⟩
      rw [List.findSome?_eq_none_iff.1 hfound a (List.mem_of_getElem? ha)] at hb
      cases hb
  | some b =>
      obtain ⟨i, a, ha, hb, hnone⟩ := exists_getElem?_of_findSome? hfound
      refine ⟨i, ⟨a, ha, hb⟩, ?_⟩
      rintro j c ⟨x, hx, hc⟩
      rcases Nat.lt_trichotomy i j with hlt | heq | hgt
      · exact .inr hlt
      · exact .inl heq.symm
      · rw [hnone j hgt x hx] at hc
        cases hc

/-- If for each element something stands first, then it does for the whole list, and it is found
with the first element for which anything stands. -/
theorem answers_findSome?_lex {stands : α → κ → β → Prop}
    (h : ∀ a, Answers before (stands a) (f a)) (l : List α) :
    Answers (Prod.Lex (· < ·) before)
      (fun (p : Nat × κ) b => ∃ a, l[p.1]? = some a ∧ stands a p.2 b) (l.findSome? f) := by
  have hnothing : ∀ a, f a = none → ∀ k b, ¬ stands a k b := by
    intro a ha
    have hanswer := h a
    rwa [ha] at hanswer
  cases hfound : l.findSome? f with
  | none =>
      rintro p b ⟨a, ha, hb⟩
      exact hnothing a (List.findSome?_eq_none_iff.1 hfound a (List.mem_of_getElem? ha)) p.2 b hb
  | some b =>
      obtain ⟨i, a, ha, hb, hnone⟩ := exists_getElem?_of_findSome? hfound
      have hanswer := h a
      rw [hb] at hanswer
      obtain ⟨k, hk⟩ := hanswer
      refine ⟨(i, k), ⟨a, ha, hk.here⟩, ?_⟩
      rintro ⟨j, m⟩ c ⟨x, hx, hc⟩
      rcases Nat.lt_trichotomy i j with hlt | rfl | hgt
      · exact .inr (Prod.Lex.left _ _ hlt)
      · obtain rfl : x = a := Option.some.inj (hx.symm.trans ha)
        rcases hk.first m c hc with rfl | hbefore
        · exact .inl rfl
        · exact .inr (Prod.Lex.right _ hbefore)
      · exact absurd hc (hnothing x (hnone j hgt x hx) m c)

end CrashReport.Sequence
