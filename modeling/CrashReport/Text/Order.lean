/-!
# The order of texts

Texts are put in the order of their code points: the first place where two texts differ
decides, and a text stands before every longer one that begins with it.

Main facts: **`not_precedes_self`**, **`precedes_trans`** and **`precedes_or_eq`** say that
this is a strict order in which any two texts can be compared.
-/

namespace CrashReport.Text

/-- The first text stands before the second. -/
def precedes : List Char → List Char → Bool
  | _, [] => false
  | [], _ :: _ => true
  | a :: s, b :: t => a.toNat < b.toNat || (a = b && precedes s t)

theorem not_precedes_self (s : List Char) : precedes s s = false := by
  induction s with
  | nil => rfl
  | cons a s ih => simp [precedes, ih]

theorem precedes_trans {r s t : List Char} (hrs : precedes r s = true)
    (hst : precedes s t = true) : precedes r t = true := by
  induction r generalizing s t with
  | nil =>
    cases t with
    | nil => cases s <;> simp [precedes] at hst
    | cons c t => rfl
  | cons a r ih =>
    cases s with
    | nil => simp [precedes] at hrs
    | cons b s =>
      cases t with
      | nil => simp [precedes] at hst
      | cons c t =>
        simp only [precedes, Bool.or_eq_true, Bool.and_eq_true, decide_eq_true_eq]
          at hrs hst ⊢
        rcases hrs with hab | ⟨rfl, hrs⟩ <;> rcases hst with hbc | ⟨rfl, hst⟩
        · exact .inl (Nat.lt_trans hab hbc)
        · exact .inl hab
        · exact .inl hbc
        · exact .inr ⟨rfl, ih hrs hst⟩

/-- A text that does not stand before another is the same or stands after it. -/
theorem precedes_or_eq {s t : List Char} (h : precedes s t = false) :
    precedes t s = true ∨ s = t := by
  induction s generalizing t with
  | nil =>
    cases t with
    | nil => exact .inr rfl
    | cons b t => simp [precedes] at h
  | cons a s ih =>
    cases t with
    | nil => exact .inl rfl
    | cons b t =>
      simp only [precedes, Bool.or_eq_false_iff, Bool.and_eq_false_iff,
        decide_eq_false_iff_not, Nat.not_lt] at h
      rcases Nat.lt_or_ge b.toNat a.toNat with hba | hab
      · exact .inl (by simp [precedes, hba])
      · have hnat : a.toNat = b.toNat := Nat.le_antisymm hab h.1
        have heq : a = b := Char.toNat_inj.1 hnat
        subst heq
        have hst := h.2.resolve_left (fun hne => hne rfl)
        rcases ih hst with hts | rfl
        · exact .inl (by simp [precedes, hts])
        · exact .inr rfl

end CrashReport.Text
