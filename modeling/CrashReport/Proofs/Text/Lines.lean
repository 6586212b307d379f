import CrashReport.Text.Scan

/-!
# Texts by their lines

A tool prints one line after the other, and some of them are the rows of a table.

* **`Text.Laid`** — a text is laid out as certain lines, and these are the lines that are read
  (`lines_of_laid`);
* **`Text.Tabulated`** — lines of which some are the rows of a table, and what stands in these.
  What is read of the lines is what stands in the rows (`filterMap_of_tabulated`).
-/

namespace CrashReport.Text

/-- The text consists of these lines, each with a line break after it, which the last one may lack.
A carriage return before the line feed would belong to the line break. -/
inductive Laid : List (List Char) → List Char → Prop
  | nil : Laid [] []
  | last {line : List Char} (hne : line ≠ []) (hline : '\n' ∉ line) : Laid [line] line
  | feed {line text : List Char} {rest : List (List Char)} (hline : '\n' ∉ line)
      (hreturn : line.getLast? ≠ some '\r') (h : Laid rest text) :
      Laid (line :: rest) (line ++ '\n' :: text)
  | returnFeed {line text : List Char} {rest : List (List Char)} (hline : '\n' ∉ line)
      (h : Laid rest text) : Laid (line :: rest) (line ++ '\r' :: '\n' :: text)

/-- A character that is not part of a line break belongs to the first line. -/
theorem lines_cons {c : Char} {text : List Char} (hfeed : c ≠ '\n')
    (hreturn : c = '\r' → text.head? ≠ some '\n') :
    lines (c :: text) =
      match lines text with
      | [] => [[c]]
      | line :: rest => (c :: line) :: rest := by
  have hfollow : ∀ more, c = '\r' → text = '\n' :: more → False := by
    rintro more hc rfl
    exact hreturn hc rfl
  exact lines.eq_4 c text hfeed hfollow

/-- Characters without a line break stand at the beginning of the first line. -/
theorem lines_append {front text line : List Char} {rest : List (List Char)}
    (hfront : '\n' ∉ front) (hreturn : front.getLast? = some '\r' → text.head? ≠ some '\n')
    (h : lines text = line :: rest) : lines (front ++ text) = (front ++ line) :: rest := by
  induction front with
  | nil => exact h
  | cons c front ih =>
      rw [List.mem_cons, not_or] at hfront
      have hnext : c = '\r' → (front ++ text).head? ≠ some '\n' := by
        rintro rfl
        cases front with
        | nil => exact hreturn rfl
        | cons d front =>
            rintro hd
            exact hfront.2 (Option.some.inj hd ▸ List.mem_cons_self)
      have hrest : front.getLast? = some '\r' → text.head? ≠ some '\n' := by
        intro hlast
        refine hreturn ?_
        rw [List.getLast?_cons, hlast]
        rfl
      rw [List.cons_append, lines_cons (Ne.symm hfront.1) hnext, ih hfront.2 hrest]
      rfl

theorem lines_of_laid {ls : List (List Char)} {text : List Char} (h : Laid ls text) :
    lines text = ls := by
  induction h with
  | nil => rfl
  | @last line hne hline =>
      obtain ⟨front, c, rfl⟩ := (List.eq_nil_or_concat line).resolve_left hne
      rw [List.concat_eq_append, List.mem_append, List.mem_singleton, not_or] at hline
      have hc : lines [c] = [[c]] := by
        rw [lines_cons (Ne.symm hline.2) (by simp)]
        rfl
      rw [List.concat_eq_append]
      exact lines_append hline.1 (by simpa using fun _ => Ne.symm hline.2) hc
  | @feed line text rest hline hreturn _ ih =>
      have hbreak : lines ('\n' :: text) = [] :: rest := congrArg (List.cons []) ih
      rw [lines_append hline (fun h => absurd h hreturn) hbreak, List.append_nil]
  | @returnFeed line text rest hline _ ih =>
      have hbreak : lines ('\r' :: '\n' :: text) = [] :: rest := congrArg (List.cons []) ih
      rw [lines_append hline (by simp) hbreak, List.append_nil]

/-- Of the lines, some are rows, each of which stands for something, and the others stand for
nothing. -/
inductive Tabulated {α : Type} (IsRow : List Char → α → Prop) (IsOther : List Char → Prop) :
    List (List Char) → List α → Prop
  | nil : Tabulated IsRow IsOther [] []
  | row {line : List Char} {a : α} {ls : List (List Char)} {as : List α} (hrow : IsRow line a)
      (h : Tabulated IsRow IsOther ls as) : Tabulated IsRow IsOther (line :: ls) (a :: as)
  | other {line : List Char} {ls : List (List Char)} {as : List α} (hother : IsOther line)
      (h : Tabulated IsRow IsOther ls as) : Tabulated IsRow IsOther (line :: ls) as

theorem filterMap_of_tabulated {α β : Type} {IsRow : List Char → α → Prop}
    {IsOther : List Char → Prop} {ls : List (List Char)} {as : List α} {f : List Char → Option β}
    {g : α → Option β} (hrow : ∀ line a, IsRow line a → f line = g a)
    (hother : ∀ line, IsOther line → f line = none) (h : Tabulated IsRow IsOther ls as) :
    ls.filterMap f = as.filterMap g := by
  induction h with
  | nil => rfl
  | row hline _ ih => rw [List.filterMap_cons, List.filterMap_cons, hrow _ _ hline, ih]
  | other hline _ ih => rw [List.filterMap_cons, hother _ hline, ih]

end CrashReport.Text
