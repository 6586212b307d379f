import CrashReport.Text.Scan

/-!
# Paths

What a report needs to know of a path without looking at any file: its last
component, whether it names a library, and its form without the home directory.

* **`lastComponent`** takes both kinds of slash as separators;
* **`hideHome`** replaces the first place where the home directory stands;
* **`isLibrary`** accepts any ending after the extension, as in `libx.so.5`.
-/

namespace CrashReport.Path

/-- The character separates components. -/
def isSeparator (c : Char) : Bool := c = '/' || c = '\\'

/-- What stands after the last separator, or the whole path if there is none. -/
def lastComponent (path : String) : String :=
  String.ofList (path.toList.reverse.takeWhile (!isSeparator ·)).reverse

/-- The path with the first occurrence of `home` written as `$HOME`. Without a home
directory, or with an empty one, the path stays as it is. -/
def hideHome (home : Option String) (path : String) : String :=
  match home with
  | none => path
  | some home =>
    if home.isEmpty then path
    else
      match Text.cut home.toList path.toList with
      | some (front, rest) => String.ofList (front ++ "$HOME".toList ++ rest)
      | none => path

/-- The extension stands in the text, with no slash after it. -/
def endsInComponent (extension : List Char) : List Char → Bool
  | [] => false
  | c :: text =>
    ((Text.after? extension (c :: text)).isSome && !(c :: text).contains '/') ||
      endsInComponent extension text

/-- The path names a shared object or a Python module: one of the extensions stands in
its last component, though not at the very start of the path. -/
def isLibrary (path : String) : Bool :=
  [".so", ".py"].any fun extension => endsInComponent extension.toList (path.toList.drop 1)

theorem hideHome_none (path : String) : hideHome none path = path := rfl

/-- A path in which the home directory does not stand is not changed. -/
theorem hideHome_of_cut_eq_none {home path : String}
    (h : Text.cut home.toList path.toList = none) : hideHome (some home) path = path := by
  simp [hideHome, h]

end CrashReport.Path
