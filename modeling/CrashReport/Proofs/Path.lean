import CrashReport.Path
import CrashReport.Proofs.Text.Scanning

/-!
# What hiding the home directory hides

The home directory is replaced where it stands first. A text in which it stands a second time
still has it, and so may a text in which the placeholder spells it together with what stands
around it. There is no third case.

* **`Text.cut_eq_none_iff`**, **`Text.length_le_of_cut`** — a cut is made at the first place of the
  word, wherever it stands at all;
* **`Path.Reveals`** — the texts in which the home directory is not hidden;
* **`Path.infix_hideHome_iff`** — the home directory stands in what becomes of such texts, and of
  no others.
-/

namespace CrashReport

namespace Text

variable {word text front rest : List Char}

theorem cut_eq_none_iff : cut word text = none ↔ ¬ word <:+: text := by
  induction text with
  | nil =>
      rw [List.infix_nil]
      unfold cut
      split <;> simp_all
  | cons c text ih =>
      rw [List.infix_cons_iff, not_or, ← ih, ← after?_eq_none_iff, cut]
      cases after? word (c :: text) with
      | some rest => simp
      | none => simp

/-- A word stands nowhere before the place of the cut. -/
theorem length_le_of_cut (h : cut word text = some (front, rest)) {before after : List Char}
    (htext : text = before ++ word ++ after) : front.length ≤ before.length := by
  induction text generalizing front before with
  | nil =>
      have hfront : [] = front ++ word ++ rest := eq_of_cut h
      have hnil : front = [] := by simp_all
      rw [hnil]
      exact Nat.zero_le _
  | cons c text ih =>
      unfold cut at h
      split at h
      · cases h
        exact Nat.zero_le _
      · rename_i hnone
        obtain ⟨⟨front, rest⟩, hcut, hpair⟩ := Option.map_eq_some_iff.1 h
        cases hpair
        cases before with
        | nil => exact absurd ⟨after, htext.symm⟩ (after?_eq_none_iff.1 hnone)
        | cons b before =>
            obtain ⟨-, htail⟩ := List.cons.inj htext
            exact Nat.succ_le_succ (ih hcut htail)

/-- A word does not stand before its first place. -/
theorem not_infix_of_cut (hword : word ≠ []) (h : cut word text = some (front, rest)) :
    ¬ word <:+: front := by
  rintro ⟨before, after, hfront⟩
  have hlength : front.length ≤ before.length := by
    apply length_le_of_cut h
    rw [eq_of_cut h, ← hfront, List.append_assoc, List.append_assoc]
  have hpos := List.length_pos_iff.2 hword
  rw [← hfront] at hlength
  simp only [List.length_append] at hlength
  omega

/-- A word stands after its first place if it stands in the text twice. -/
theorem infix_rest_iff (h : cut word text = some (front, rest)) :
    word <:+: rest ↔ ∃ a b c, text = a ++ word ++ b ++ word ++ c := by
  constructor
  · rintro ⟨b, c, hrest⟩
    refine ⟨front, b, c, ?_⟩
    rw [eq_of_cut h, ← hrest]
    simp only [List.append_assoc]
  · rintro ⟨a, b, c, htext⟩
    have hplaced : text = a ++ word ++ (b ++ word ++ c) := by
      rw [htext]
      simp only [List.append_assoc]
    have hlength := length_le_of_cut h hplaced
    -- the text up to the first place begins the text up to the other one
    have hfirst : front ++ word <+: text := ⟨rest, (eq_of_cut h).symm⟩
    have hother : a ++ word <+: text := ⟨_, hplaced.symm⟩
    have hprefix : front ++ word <+: a ++ word := by
      apply List.prefix_of_prefix_length_le hfirst hother
      simp only [List.length_append]
      omega
    obtain ⟨more, hmore⟩ := hprefix
    refine ⟨more ++ b, c, ?_⟩
    have hboth : front ++ word ++ (more ++ (b ++ word ++ c)) = front ++ word ++ rest := by
      rw [← eq_of_cut h, hplaced, ← hmore]
      exact (List.append_assoc _ _ _).symm
    rw [← List.append_cancel_left hboth]
    simp only [List.append_assoc]

end Text

namespace Path

/-- The home directory is not hidden in a text: it stands there twice, or the placeholder spells it
together with what stands before its first place and with what stands after it. -/
inductive Reveals (home text : List Char) : Prop
  | again {a b c : List Char} (h : text = a ++ home ++ b ++ home ++ c)
  | respelled {front rest before after : List Char}
      (hfirst : Text.cut home text = some (front, rest)) (hbefore : before ≠ [])
      (hafter : after ≠ []) (hhome : home = before ++ after) (hfront : before <:+ front)
      (hrest : after <+: "$HOME".toList ++ rest)

variable {home front rest : List Char}

/-- A word that begins with a slash stands in a text around the placeholder only where the
placeholder helps to spell it, or after it. -/
theorem infix_placeholder_iff {tail : List Char} (hfront : ¬ '/' :: tail <:+: front) :
    '/' :: tail <:+: front ++ "$HOME".toList ++ rest ↔
      '/' :: tail <:+: rest ∨ ∃ before after, before ≠ [] ∧ after ≠ [] ∧
        '/' :: tail = before ++ after ∧ before <:+ front ∧ after <+: "$HOME".toList ++ rest := by
  constructor
  · rintro ⟨p, q, hplace⟩
    rw [List.append_assoc, List.append_assoc] at hplace
    rcases List.append_eq_append_iff.1 hplace with ⟨x, hx, htail⟩ | ⟨x, hx, htail⟩
    · -- the word begins in what stands before the placeholder, and does not end there
      rcases List.append_eq_append_iff.1 htail with ⟨y, hy, hrest⟩ | ⟨y, hy, hrest⟩
      · exact absurd ⟨p, y, by rw [hx, hy, List.append_assoc]⟩ hfront
      · refine .inr ⟨x, y, ?_, ?_, hy, ⟨p, hx.symm⟩, ⟨q, hrest.symm⟩⟩
        · rintro rfl
          rw [List.nil_append] at hy
          rw [← hy] at hrest
          cases (List.cons.inj hrest).1
        · rintro rfl
          rw [List.append_nil] at hy
          exact hfront ⟨p, [], by rw [hx, hy, List.append_nil]⟩
    · -- the word begins in the placeholder or after it, but the placeholder has no slash
      rcases List.append_eq_append_iff.1 htail with ⟨y, hy, hrest⟩ | ⟨y, hy, hrest⟩
      · exact .inl ⟨y, q, by rw [hrest, List.append_assoc]⟩
      · cases y with
        | nil => exact .inl ⟨[], q, hrest⟩
        | cons c y =>
            obtain ⟨rfl, -⟩ := List.cons.inj hrest
            have hslash : '/' ∈ "$HOME".toList := by
              rw [hy]
              exact List.mem_append_right _ List.mem_cons_self
            exact absurd hslash (by decide)
  · rintro (hrest | ⟨before, after, -, -, hhome, ⟨p, hp⟩, ⟨q, hq⟩⟩)
    · exact hrest.trans (List.suffix_append _ rest).isInfix
    · refine ⟨p, q, ?_⟩
      rw [hhome, ← hp, List.append_assoc _ "$HOME".toList rest, ← hq]
      simp only [List.append_assoc]

theorem toList_hideHome {home path : String} (hhome : home.toList ≠ [])
    (h : Text.cut home.toList path.toList = some (front, rest)) :
    (hideHome (some home) path).toList = front ++ "$HOME".toList ++ rest := by
  have hempty : home.isEmpty = false := by
    rw [Bool.eq_false_iff, ne_eq, String.isEmpty_iff]
    rintro rfl
    exact hhome rfl
  unfold hideHome
  dsimp only
  rw [hempty, h]
  exact String.toList_ofList

/-- The home directory is hidden in all texts but those that reveal it. -/
theorem infix_hideHome_iff {home path : String} {tail : List Char}
    (hslash : home.toList = '/' :: tail) :
    home.toList <:+: (hideHome (some home) path).toList ↔ Reveals home.toList path.toList := by
  have hne : home.toList ≠ [] := by
    rw [hslash]
    exact List.cons_ne_nil _ _
  cases hcut : Text.cut home.toList path.toList with
  | none =>
      -- the home directory is not in the path, which stays as it is
      rw [hideHome_of_cut_eq_none hcut]
      have hnone := Text.cut_eq_none_iff.1 hcut
      refine ⟨fun h => absurd h hnone, ?_⟩
      rintro (⟨htwice⟩ | ⟨hfirst, -, -, -, -, -⟩)
      · rename_i a b c
        refine absurd ⟨a, b ++ home.toList ++ c, ?_⟩ hnone
        rw [htwice]
        simp only [List.append_assoc]
      · rw [hcut] at hfirst
        cases hfirst
  | some pair =>
      -- its first place is taken, so it stands behind it or around the placeholder
      obtain ⟨front, rest⟩ := pair
      have hfront := Text.not_infix_of_cut hne hcut
      rw [toList_hideHome hne hcut]
      constructor
      · intro h
        rw [hslash] at h hfront
        rcases (infix_placeholder_iff hfront).1 h with
          hrest | ⟨before, after, hbefore, hafter, hhome, hleft, hright⟩
        · rw [← hslash] at hrest
          obtain ⟨a, b, c, htwice⟩ := (Text.infix_rest_iff hcut).1 hrest
          exact .again htwice
        · exact .respelled hcut hbefore hafter (hslash.trans hhome) hleft hright
      · rintro (⟨htwice⟩ | ⟨hfirst, hbefore, hafter, hhome, hleft, hright⟩)
        · exact ((Text.infix_rest_iff hcut).2 ⟨_, _, _, htwice⟩).trans
            (List.suffix_append _ rest).isInfix
        · cases hcut.symm.trans hfirst
          rw [hslash] at hfront ⊢
          exact (infix_placeholder_iff hfront).2
            (.inr ⟨_, _, hbefore, hafter, hslash.symm.trans hhome, hleft, hright⟩)

/-- Without a dollar sign the home directory cannot be spelled by the placeholder. -/
theorem reveals_iff_of_no_dollar {home text : List Char} (hdollar : '$' ∉ home) :
    Reveals home text ↔ ∃ a b c, text = a ++ home ++ b ++ home ++ c := by
  constructor
  · rintro (⟨htwice⟩ | ⟨-, -, hafter, hhome, -, ⟨q, hq⟩⟩)
    · exact ⟨_, _, _, htwice⟩
    · rename_i after
      cases after with
      | nil => exact absurd rfl hafter
      | cons c after =>
          obtain ⟨rfl, -⟩ := List.cons.inj hq
          rw [hhome] at hdollar
          exact absurd (List.mem_append_right _ List.mem_cons_self) hdollar
  · rintro ⟨a, b, c, htwice⟩
    exact .again htwice

end Path

end CrashReport
