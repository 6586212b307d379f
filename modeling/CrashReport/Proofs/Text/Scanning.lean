import CrashReport.Text.Blank
import CrashReport.Text.Scan

/-!
# Scans of texts that were put together

What a scan finds in a text whose parts are known:

* **`Text.cut_append`** — a word is found where it was put, unless it stands earlier;
* **`Text.trim_between`**, **`Text.trim_of_no_blank`** — only the white space is taken off;
* **`Decimal.int64?_toString`** — a decimal numeral reads back.
-/

namespace CrashReport

theorem takeWhile_append_of_head? {p : Char → Bool} {front rest : List Char}
    (hfront : ∀ c ∈ front, p c = true) (hrest : ∀ c ∈ rest.head?, p c = false) :
    (front ++ rest).takeWhile p = front := by
  rw [List.takeWhile_append_of_pos hfront]
  cases rest with
  | nil => exact List.append_nil front
  | cons c rest => rw [List.takeWhile_cons_of_neg (by simp [hrest c rfl]), List.append_nil]

theorem dropWhile_append_of_head? {p : Char → Bool} {front rest : List Char}
    (hfront : ∀ c ∈ front, p c = true) (hrest : ∀ c ∈ rest.head?, p c = false) :
    (front ++ rest).dropWhile p = rest := by
  rw [List.dropWhile_append_of_pos hfront]
  cases rest with
  | nil => rfl
  | cons c rest => exact List.dropWhile_cons_of_neg (by simp [hrest c rfl])

namespace Text

theorem after?_append (word rest : List Char) : after? word (word ++ rest) = some rest :=
  after?_eq_some.2 rfl

theorem isSome_after?_iff {word text : List Char} :
    (after? word text).isSome = true ↔ word <+: text := by
  constructor
  · intro h
    obtain ⟨rest, hrest⟩ := Option.isSome_iff_exists.1 h
    exact ⟨rest, (after?_eq_some.1 hrest).symm⟩
  · rintro ⟨rest, rfl⟩
    rw [after?_append]
    rfl

theorem after?_eq_none_iff {word text : List Char} :
    after? word text = none ↔ ¬ word <+: text := by
  rw [← Option.not_isSome_iff_eq_none, isSome_after?_iff]

/-- A word whose first character stands in it only once does not overlap with itself. So if
it does not stand in `front`, its first place in `front ++ word ++ rest` is after `front`. -/
theorem not_isPrefix_of_head_notMem {w : Char} {word front : List Char} (hw : w ∉ word)
    (hne : front ≠ []) (hfront : ¬ (w :: word) <:+: front) (rest : List Char) :
    ¬ (w :: word) <+: front ++ (w :: word) ++ rest := by
  rintro ⟨after, hafter⟩
  rw [List.append_assoc] at hafter
  rcases List.append_eq_append_iff.1 hafter with ⟨more, hmore, _⟩ | ⟨overlap, hword, hoverlap⟩
  · exact hfront ⟨[], more, by rw [hmore]; rfl⟩
  · cases front with
    | nil => exact hne rfl
    | cons c front =>
        cases overlap with
        | nil =>
            rw [List.append_nil] at hword
            exact hfront (hword ▸ List.infix_rfl)
        | cons d overlap =>
            have hd : w = d := (List.cons.inj hoverlap).1
            have htail : word = front ++ d :: overlap := (List.cons.inj hword).2
            exact hw (by rw [htail, hd]; simp)

theorem cut_append {w : Char} {word front : List Char} (hw : w ∉ word)
    (hfront : ¬ (w :: word) <:+: front) (rest : List Char) :
    cut (w :: word) (front ++ (w :: word) ++ rest) = some (front, rest) := by
  induction front with
  | nil =>
      show cut (w :: word) (w :: (word ++ rest)) = _
      rw [cut, ← List.cons_append, after?_append]
  | cons c front ih =>
      have hnone := after?_eq_none_iff.2
        (not_isPrefix_of_head_notMem hw (List.cons_ne_nil c front) hfront rest)
      have htail : ¬ (w :: word) <:+: front := fun h => hfront (List.infix_cons h)
      show cut (w :: word) (c :: (front ++ (w :: word) ++ rest)) = _
      rw [cut, show c :: (front ++ (w :: word) ++ rest) = (c :: front) ++ (w :: word) ++ rest
        from rfl, hnone, ih htail]
      rfl

/-! ## White space -/

theorem trimEnd_append (text : List Char) {blanks : List Char} {c : Char}
    (hc : isBlank c = false) (hblanks : ∀ b ∈ blanks, isBlank b = true) :
    trimEnd (text ++ c :: blanks) = text ++ [c] := by
  have hrev : ∀ b ∈ blanks.reverse, isBlank b = true :=
    fun b hb => hblanks b (List.mem_reverse.1 hb)
  unfold trimEnd
  rw [List.reverse_append, List.reverse_cons, List.append_assoc,
    List.dropWhile_append_of_pos hrev, List.singleton_append,
    List.dropWhile_cons_of_neg (by simp [hc])]
  simp

theorem dropWhile_of_no_blank {text : List Char} (h : ∀ c ∈ text, isBlank c = false) :
    text.dropWhile isBlank = text := by
  cases text with
  | nil => rfl
  | cons c text => exact List.dropWhile_cons_of_neg (by simp [h c List.mem_cons_self])

theorem trim_of_no_blank {text : List Char} (h : ∀ c ∈ text, isBlank c = false) :
    trim text = text := by
  unfold trim trimEnd
  rw [dropWhile_of_no_blank h,
    dropWhile_of_no_blank (fun c hc => h c (List.mem_reverse.1 hc)), List.reverse_reverse]

/-- What has no white space at its ends is left between white space. -/
theorem trim_between {before middle after : List Char}
    (hbefore : ∀ c ∈ before, isBlank c = true) (hfirst : ∀ c ∈ middle.head?, isBlank c = false)
    (hlast : ∀ c ∈ middle.getLast?, isBlank c = false) (hafter : ∀ c ∈ after, isBlank c = true) :
    trim (before ++ (middle ++ after)) = middle := by
  unfold trim
  rcases List.eq_nil_or_concat middle with rfl | ⟨front, c, rfl⟩
  · have hall : ∀ c ∈ before ++ after, isBlank c = true := fun c hc =>
      (List.mem_append.1 hc).elim (hbefore c) (hafter c)
    rw [List.nil_append, ← List.append_nil (before ++ after),
      dropWhile_append_of_head? hall (by simp)]
    rfl
  · rw [List.concat_eq_append] at hfirst hlast ⊢
    have hc : isBlank c = false := hlast c List.getLast?_concat
    have hhead : ∀ d ∈ (front ++ [c] ++ after).head?, isBlank d = false := by
      cases front with
      | nil => exact hfirst
      | cons d front => exact hfirst
    rw [dropWhile_append_of_head? hbefore hhead, List.append_assoc, List.singleton_append,
      trimEnd_append front hc hafter]

/-- A digit is no white space. -/
theorem isBlank_of_isDigit {c : Char} (h : c.isDigit = true) : isBlank c = false := by
  have hrange : 48 ≤ c.toNat ∧ c.toNat ≤ 57 := by
    simpa [Char.isDigit, UInt32.le_iff_toNat_le] using h
  simp only [isBlank, Bool.or_eq_false_iff, Bool.and_eq_false_iff, decide_eq_false_iff_not,
    beq_eq_false_iff_ne]
  omega

end Text

/-! ## Numerals -/

namespace Decimal

theorem natural?_toDigits (n : Nat) : natural? (Nat.toDigits 10 n) = some n := by
  have hdigits : (Nat.toDigits 10 n).all Char.isDigit = true :=
    List.all_eq_true.2 fun c hc => Nat.isDigit_of_mem_toDigits (by decide) (by decide) hc
  unfold natural?
  rw [if_pos ⟨Nat.toDigits_ne_nil, hdigits⟩]
  exact congrArg some Nat.ofDigitChars_ten_toDigits

/-- Digits have no sign before them. -/
theorem whole?_toDigits (n : Nat) : whole? (Nat.toDigits 10 n) = some (Int.ofNat n) := by
  have hsign : ∀ c ∈ Nat.toDigits 10 n, c ≠ '+' ∧ c ≠ '-' := by
    intro c hc
    have hdigit := Nat.isDigit_of_mem_toDigits (by decide) (by decide) hc
    constructor <;> rintro rfl <;> exact absurd hdigit (by decide)
  unfold whole?
  split
  · rename_i digits heq
    exact absurd rfl (hsign '+' (heq ▸ List.mem_cons_self)).1
  · rename_i digits heq
    exact absurd rfl (hsign '-' (heq ▸ List.mem_cons_self)).2
  · rw [natural?_toDigits]
    rfl

/-- The decimal numeral of a whole number. -/
theorem toList_toString (n : Int) :
    (toString n).toList = if n < 0 then '-' :: Nat.toDigits 10 n.natAbs
      else Nat.toDigits 10 n.natAbs := by
  cases n with
  | ofNat m =>
      rw [if_neg (by simp)]
      exact Nat.toList_repr
  | negSucc m =>
      rw [if_pos (Int.negSucc_lt_zero m)]
      show ("-" ++ Nat.repr (m + 1)).toList = _
      rw [String.toList_append, Nat.toList_repr]
      rfl

theorem whole?_toString (n : Int) : whole? (toString n).toList = some n := by
  rw [toList_toString]
  split
  · rename_i hneg
    show (natural? (Nat.toDigits 10 n.natAbs)).map _ = _
    rw [natural?_toDigits]
    refine congrArg some ?_
    show -(n.natAbs : Int) = n
    omega
  · rw [whole?_toDigits]
    refine congrArg some ?_
    show (n.natAbs : Int) = n
    omega

theorem no_blank_toString (n : Int) : ∀ c ∈ (toString n).toList, Text.isBlank c = false := by
  have hdigits : ∀ c ∈ Nat.toDigits 10 n.natAbs, Text.isBlank c = false := fun c hc =>
    Text.isBlank_of_isDigit (Nat.isDigit_of_mem_toDigits (by decide) (by decide) hc)
  intro c hc
  rw [toList_toString] at hc
  split at hc
  · rcases List.mem_cons.1 hc with rfl | hc
    · decide
    · exact hdigits c hc
  · exact hdigits c hc

theorem int64?_toString {n : Int} (h : Int64.minValue.toInt ≤ n ∧ n ≤ Int64.maxValue.toInt) :
    int64? (toString n).toList = some n := by
  unfold int64?
  rw [whole?_toString, Option.filter_some, if_pos (decide_eq_true h)]

end Decimal

end CrashReport
