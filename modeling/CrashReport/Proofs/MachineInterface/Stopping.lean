import CrashReport.Proofs.MachineInterface.Grammar

/-!
# Where reading stops

A text that is no list of results is refused with a place in it and with what should stand there.
The place tells how far the text was right: if the text begins with lists of results, it is the end
of the longest of them.

* **`LongestAccepted`** — the longest front of a text that is a list of results;
* **`StopsInside`** — a reader stops at a place of the text, where it expects a character. Values
  are read so (`stopsInside_readValue`), and results start with a name (`stop_of_readResult`);
* **`TakesAll.readMore_suffix`** — the reader takes every front that is a list of results, and
  maybe more. So no such front is longer than the one at which the reader stops;
* **`offset_of_read_eq_error`** — the place at which reading stops, and what is expected there.
-/

namespace CrashReport.MachineInterface

/-- The text is a list of results. -/
def Accepted (text : String) : Prop := ∃ results, read text = .ok results

/-- The front is the longest one of the text that is a list of results. -/
structure LongestAccepted (text front : String) : Prop where
  begins : ∃ rest, text = front ++ rest
  accepted : Accepted front
  longest : ∀ other rest, text = other ++ rest → Accepted other →
    other.utf8ByteSize ≤ front.utf8ByteSize

/-- The text starts with a character of names. -/
def StartsName (text : List Char) : Prop := ∃ c rest, text = c :: rest ∧ NameChar c

/-! ## The places where readers stop -/

/-- A reader that stops does so at a place of the text, and it expects a character there. -/
def StopsInside {α : Type} (element : Reader α) : Prop :=
  ∀ (text : List Char) (stop : Stop), element text = .error stop →
    stop.rest <:+ text ∧ stop.expected = .character

theorem TakesOnly.readMore_suffix {α : Type} {element : Reader α} {P : List Char → α → Prop}
    (h : TakesOnly element P) (fuel : Nat) (text : List Char) :
    (MachineInterface.readMore element fuel text).2 <:+ text := by
  generalize hread : MachineInterface.readMore element fuel text = read
  obtain ⟨xs, rest⟩ := read
  rcases h.readMore hread with ⟨-, rfl⟩ | ⟨front, rfl, -⟩
  · exact List.suffix_rfl
  · exact ⟨',' :: front, rfl⟩

theorem TakesOnly.readMany_suffix {α : Type} {element : Reader α} {P : List Char → α → Prop}
    (h : TakesOnly element P) (text : List Char) :
    (MachineInterface.readMany element text).2 <:+ text := by
  generalize hread : MachineInterface.readMany element text = read
  obtain ⟨xs, rest⟩ := read
  rcases h.readMany hread with ⟨-, rfl⟩ | ⟨front, rfl, -⟩
  · exact List.suffix_rfl
  · exact List.suffix_append front rest

theorem stopsInside_readValue (depth : Nat) : StopsInside (readValue depth) := by
  intro text stop h
  cases depth with
  | zero =>
      cases h
      exact ⟨List.suffix_rfl, rfl⟩
  | succ depth =>
      have hvalues := denotes_of_readValue depth
      unfold readValue at h
      split at h
      · -- a constant
        split at h
        · cases h
        · cases h
          exact ⟨List.suffix_rfl, rfl⟩
      · -- a tuple
        split at h
        · cases h
        · cases h
          exact ⟨List.suffix_rfl, rfl⟩
      · -- a list, at the end of which the bracket is missing
        rename_i body
        split at h
        · have hsuffix := hvalues.readMany_suffix body
          split at h
          · cases h
          · rename_i hmany
            cases h
            rw [hmany] at hsuffix
            exact ⟨hsuffix.trans (List.suffix_cons _ _), rfl⟩
        · cases h
        · rename_i hmany
          have hsuffix := hvalues.readResult.readMany_suffix body
          cases h
          rw [hmany] at hsuffix
          exact ⟨hsuffix.trans (List.suffix_cons _ _), rfl⟩
      · cases h
        exact ⟨List.suffix_rfl, rfl⟩

theorem startsName_iff (text : List Char) : StartsName text ↔ text.takeWhile isNameChar ≠ [] := by
  unfold StartsName
  cases text with
  | nil => simp
  | cons c rest => simp [← isNameChar_iff, List.takeWhile_cons]

/-- A result that cannot be read has no name, or something is wrong behind its name. -/
theorem stop_of_readResult {value : Reader Value} (hvalue : StopsInside value)
    {text : List Char} {stop : Stop} (h : readResult value text = .error stop) :
    stop.rest <:+ text ∧
      (stop.expected = .name ∧ stop.rest = text ∧ ¬ StartsName text ∨
        stop.expected = .character ∧ StartsName text) := by
  have hdrop : text.dropWhile isNameChar <:+ text := List.dropWhile_suffix _
  rw [startsName_iff]
  unfold readResult at h
  split at h
  · rename_i hname
    cases h
    exact ⟨List.suffix_rfl, .inl ⟨rfl, rfl, by simpa using hname⟩⟩
  · rename_i after hafter hname
    cases hread : value after with
    | error inner =>
        rw [hread] at h
        cases h
        obtain ⟨hsuffix, hexpected⟩ := hvalue after stop hread
        rw [hafter] at hdrop
        exact ⟨(hsuffix.trans (List.suffix_cons _ _)).trans hdrop, .inr ⟨hexpected, hname⟩⟩
    | ok read =>
        rw [hread] at h
        cases h
  · rename_i hname _
    cases h
    exact ⟨hdrop, .inr ⟨rfl, fun hnil => hname hnil⟩⟩

/-! ## Fronts that are lists of results -/

/-- All elements that stand behind a comma are read, and maybe more. -/
theorem TakesAll.readMore_suffix {α : Type} {limit : Nat} {element : Reader α}
    {P Q : List Char → α → Prop} (h : TakesAll limit element P) (honly : TakesOnly element Q)
    {text : List Char} {xs : List α} (hsep : Separated P text xs) (rest : List Char) :
    ∀ fuel, text.length < fuel → text.length ≤ limit →
      (MachineInterface.readMore element fuel (',' :: (text ++ rest))).2 <:+ rest := by
  induction hsep with
  | @one t x hx =>
      intro fuel hfuel hlimit
      obtain ⟨fuel, rfl⟩ : ∃ n, fuel = n + 1 := ⟨fuel - 1, by omega⟩
      unfold MachineInterface.readMore
      simp only [h t x hlimit hx rest]
      exact honly.readMore_suffix fuel rest
  | @more t text x xs hx _ ih =>
      intro fuel hfuel hlimit
      rw [List.length_append, List.length_cons] at hfuel hlimit
      obtain ⟨fuel, rfl⟩ : ∃ n, fuel = n + 1 := ⟨fuel - 1, by omega⟩
      unfold MachineInterface.readMore
      simp only [List.append_assoc, List.cons_append]
      simp only [h t x (by omega) hx]
      exact ih fuel (by omega) (by omega)

/-- Of every list of results with which a text begins the first result is read, and then all others
are, and maybe more. -/
theorem exists_readResult_of_denotesResults {front rest : List Char} {results : List Result}
    {depth : Nat} (hdepth : front.length ≤ depth) (h : DenotesResults front results) :
    ∃ first after, readResult (readValue depth) (front ++ rest) = .ok (first, after) ∧
      (readMore (readResult (readValue depth)) after.length after).2 <:+ rest := by
  have hall := (readValue_append depth).readResult
  have honly := (denotes_of_readValue depth).readResult
  cases h with
  | one hx => exact ⟨_, rest, hall _ _ hdepth hx rest, honly.readMore_suffix _ _⟩
  | @more t text x xs hx hsep =>
      rw [List.length_append, List.length_cons] at hdepth
      refine ⟨x, ',' :: (text ++ rest), ?_, ?_⟩
      · rw [List.append_assoc, List.cons_append]
        exact hall t x (by omega) hx _
      · refine hall.readMore_suffix honly hsep rest _ ?_ (by omega)
        rw [List.length_cons, List.length_append]
        omega

/-- A place at which the reader of a whole text stops. If the text begins with a list of results
the place is behind one of them that no other exceeds, and nothing should stand there. -/
theorem stop_of_readAll {text : List Char} {stop : Stop} (h : readAll text = .error stop) :
    (stop.expected = .nothing ∧ ∃ front, text = front ++ stop.rest ∧
      (∃ results, DenotesResults front results) ∧
      ∀ other rest results, text = other ++ rest → DenotesResults other results →
        other <+: front) ∨
    ((∀ other rest results, text = other ++ rest → ¬ DenotesResults other results) ∧
      stop.rest <:+ text ∧
      (stop.expected = .name ∧ stop.rest = text ∧ ¬ StartsName text ∨
        stop.expected = .character ∧ StartsName text)) := by
  have honly := (denotes_of_readValue text.length).readResult
  unfold readAll at h
  dsimp only at h
  split at h
  · rename_i inner hfirst
    cases h
    refine .inr ⟨?_, stop_of_readResult (stopsInside_readValue _) hfirst⟩
    rintro other rest results rfl hother
    have hlength : other.length ≤ (other ++ rest).length := by simp
    obtain ⟨first, after, hread, -⟩ := exists_readResult_of_denotesResults hlength hother
    rw [hread] at hfirst
    cases hfirst
  · rename_i first after hfirst
    split at h
    · cases h
    · rename_i more rest hmore
      cases h
      obtain ⟨front, hfront, hsep⟩ := honly.separated hfirst hmore
      refine .inl ⟨rfl, front, hfront, ⟨_, hsep⟩, ?_⟩
      rintro other tail results rfl hother
      -- what is left is at most what stands behind the other list
      have hlength : other.length ≤ (other ++ tail).length := by simp
      obtain ⟨first', after', hread, hleft⟩ := exists_readResult_of_denotesResults hlength hother
      rw [hread] at hfirst
      cases hfirst
      rw [hmore] at hleft
      obtain ⟨between, rfl⟩ := hleft
      rw [← List.append_assoc] at hfront
      rw [← List.append_cancel_right hfront]
      exact List.prefix_append _ _

/-! ## The place in octets -/

theorem accepted_iff (text : String) :
    Accepted text ↔ ∃ results, DenotesResults text.toList results :=
  exists_congr fun results => read_eq_ok_iff text results

/-- A list of results starts with a name. -/
theorem startsName_of_denotesResults {front : List Char} {results : List Result}
    (h : DenotesResults front results) (rest : List Char) : StartsName (front ++ rest) := by
  have hnamed : ∀ {t : List Char} {result : Result} (rest : List Char), Named Denotes t result →
      StartsName (t ++ rest) := by
    rintro t result rest ⟨hne, hname, -⟩
    obtain ⟨c, name, rfl⟩ := List.exists_cons_of_ne_nil hne
    exact ⟨c, _, rfl, hname c List.mem_cons_self⟩
  cases h with
  | one hx => exact hnamed rest hx
  | more hx _ =>
      rw [List.append_assoc]
      exact hnamed _ hx

theorem Accepted.ne_empty {text : String} (h : Accepted text) : text ≠ "" := by
  rintro rfl
  obtain ⟨results, hresults⟩ := (accepted_iff "").1 h
  obtain ⟨c, rest, hstart, -⟩ := startsName_of_denotesResults hresults []
  cases hstart

theorem utf8ByteSize_le_of_isPrefix {front text : String} (h : front.toList <+: text.toList) :
    front.utf8ByteSize ≤ text.utf8ByteSize := by
  obtain ⟨rest, hrest⟩ := h
  have htext : text = front ++ String.ofList rest := by
    rw [← String.toList_inj, String.toList_append, String.toList_ofList, hrest]
  rw [htext, String.utf8ByteSize_append]
  omega

/-- The reader of a text stops at a place of it. -/
theorem exists_readAll_of_read_eq_error {text : String} {e : ReadError}
    (h : read text = .error e) :
    ∃ front rest, text = front ++ rest ∧ e.offset = front.utf8ByteSize ∧
      readAll text.toList = .error ⟨rest.toList, e.expected⟩ := by
  unfold read at h
  cases hread : readAll text.toList with
  | ok results =>
      rw [hread] at h
      cases h
  | error stop =>
      rw [hread] at h
      cases h
      obtain ⟨front, hfront⟩ : stop.rest <:+ text.toList := by
        rcases stop_of_readAll hread with ⟨-, front, hfront, -⟩ | ⟨-, hrest, -⟩
        · exact ⟨front, hfront.symm⟩
        · exact hrest
      have htext : text = String.ofList front ++ String.ofList stop.rest := by
        rw [← String.ofList_append, hfront, String.ofList_toList]
      refine ⟨_, _, htext, ?_, by rw [String.toList_ofList]; rfl⟩
      show Utf8.size text.toList - Utf8.size stop.rest = _
      have hrest : (String.ofList stop.rest).utf8ByteSize = Utf8.size stop.rest := by
        rw [← Utf8.size_toList, String.toList_ofList]
      rw [Utf8.size_toList, htext, String.utf8ByteSize_append, hrest, Nat.add_sub_cancel]

/-- Either the place is the end of the longest front that is a list of results, or there is no such
front, and then it matters whether the text starts with a name. -/
theorem place_of_read_eq_error {text : String} {e : ReadError} (h : read text = .error e) :
    ∃ front rest, text = front ++ rest ∧ e.offset = front.utf8ByteSize ∧
      (e.expected = .nothing ∧ LongestAccepted text front ∧ StartsName text.toList ∨
        (∀ other tail, text = other ++ tail → ¬ Accepted other) ∧
          (e.expected = .name ∧ front = "" ∧ ¬ StartsName text.toList ∨
            e.expected = .character ∧ StartsName text.toList)) := by
  obtain ⟨front, rest, htext, hoffset, hread⟩ := exists_readAll_of_read_eq_error h
  have hlist : text.toList = front.toList ++ rest.toList := by rw [htext, String.toList_append]
  have hdenoted : ∀ {other tail : String}, text = other ++ tail → Accepted other →
      ∃ results, text.toList = other.toList ++ tail.toList ∧
        DenotesResults other.toList results := by
    intro other tail heq haccepted
    obtain ⟨results, hresults⟩ := (accepted_iff other).1 haccepted
    exact ⟨results, by rw [heq, String.toList_append], hresults⟩
  refine ⟨front, rest, htext, hoffset, ?_⟩
  rcases stop_of_readAll hread with ⟨hexpected, longest, hfront, ⟨results, hresults⟩, hlongest⟩ |
    ⟨hnone, -, hstop⟩
  · -- reading stopped behind the longest list of results
    obtain rfl : front.toList = longest := List.append_cancel_right (hlist.symm.trans hfront)
    refine .inl ⟨hexpected, ⟨⟨rest, htext⟩, (accepted_iff front).2 ⟨results, hresults⟩, ?_⟩, ?_⟩
    · intro other tail heq haccepted
      obtain ⟨results', hother, hresults'⟩ := hdenoted heq haccepted
      exact utf8ByteSize_le_of_isPrefix (hlongest _ _ results' hother hresults')
    · rw [hlist]
      exact startsName_of_denotesResults hresults _
  · -- it stopped inside the first result, or before it
    refine .inr ⟨?_, hstop.imp_left ?_⟩
    · intro other tail heq haccepted
      obtain ⟨results, hother, hresults⟩ := hdenoted heq haccepted
      exact hnone _ _ results hother hresults
    · rintro ⟨hexpected, hwhole, hstarts⟩
      have hnil : front.toList = [] := List.append_left_eq_self.1 (hlist.symm.trans hwhole.symm)
      exact ⟨hexpected, String.toList_eq_nil_iff.1 hnil, hstarts⟩

/-- Where a text is refused that is no list of results, and what should stand there.

The place is one between characters, told by the octets before it. Nothing is expected exactly if
some front of the text is a list of results, and then the place is the end of the longest such
front. Otherwise no front is one, and a name is expected, or a certain character. It is a name
exactly if the text does not start with a character of names, and then the place is the start. -/
theorem offset_of_read_eq_error {text : String} {e : ReadError} (h : read text = .error e) :
    (∃ front rest, text = front ++ rest ∧ e.offset = front.utf8ByteSize) ∧
    e.offset ≤ text.utf8ByteSize ∧
    (e.expected = .nothing ↔ ∃ front rest, text = front ++ rest ∧ front ≠ "" ∧ Accepted front) ∧
    (e.expected = .nothing → ∃ front, LongestAccepted text front ∧
      e.offset = front.utf8ByteSize) ∧
    (e.expected ≠ .nothing → (∀ front rest, text = front ++ rest → ¬ Accepted front) ∧
      (e.expected = .name ∨ e.expected = .character)) ∧
    (e.expected = .name ↔ ¬ StartsName text.toList) ∧
    (e.expected = .name → e.offset = 0) := by
  obtain ⟨front, rest, htext, hoffset, hplace⟩ := place_of_read_eq_error h
  have hbound : e.offset ≤ text.utf8ByteSize := by
    rw [hoffset, htext, String.utf8ByteSize_append]
    omega
  refine ⟨⟨front, rest, htext, hoffset⟩, hbound, ?_⟩
  rcases hplace with ⟨hexpected, hlongest, hstarts⟩ | ⟨hnone, hstop⟩
  · -- a list of results has been read, and something is left
    have hfront := hlongest.accepted
    rw [hexpected]
    refine ⟨?_, fun _ => ⟨front, hlongest, hoffset⟩, fun hne => absurd rfl hne, ?_, ?_⟩
    · exact ⟨fun _ => ⟨front, rest, htext, hfront.ne_empty, hfront⟩, fun _ => rfl⟩
    · simp [hstarts]
    · simp
  · -- no beginning of the text is a list of results
    have hother : e.expected = .name ∨ e.expected = .character := by
      rcases hstop with ⟨hname, -⟩ | ⟨hcharacter, -⟩
      · exact .inl hname
      · exact .inr hcharacter
    have hsome : e.expected ≠ .nothing := by
      rcases hother with heq | heq <;> simp [heq]
    refine ⟨?_, fun heq => absurd heq hsome, fun _ => ⟨hnone, hother⟩, ?_⟩
    · constructor
      · intro heq
        exact absurd heq hsome
      · rintro ⟨front', rest', heq, -, haccepted⟩
        exact absurd haccepted (hnone front' rest' heq)
    · rcases hstop with ⟨hname, rfl, hstarts⟩ | ⟨hcharacter, hstarts⟩
      · simp [hname, hstarts, hoffset]
      · simp [hcharacter, hstarts]

/-- The third result is not finished, so the place is the end of the second one. In the other text
the first result is wrong. -/
theorem offset_of_read_eq_error_unclosed :
    read "a=\"é\",b=[c=\"d\"],e=\x7bf=\"g\"" = .error ⟨16, .nothing⟩ ∧
    (∃ front, LongestAccepted "a=\"é\",b=[c=\"d\"],e=\x7bf=\"g\"" front ∧
      front.utf8ByteSize = 16) ∧
    read "a=[\"b\",c=\"d\"]" = .error ⟨6, .character⟩ ∧
    ∀ front rest, "a=[\"b\",c=\"d\"]" = front ++ rest → ¬ Accepted front := by
  have hunclosed : read "a=\"é\",b=[c=\"d\"],e=\x7bf=\"g\"" = .error ⟨16, .nothing⟩ := rfl
  have hmixed : read "a=[\"b\",c=\"d\"]" = .error ⟨6, .character⟩ := rfl
  obtain ⟨-, -, -, hlongest, -⟩ := offset_of_read_eq_error hunclosed
  obtain ⟨-, -, -, -, hnone, -⟩ := offset_of_read_eq_error hmixed
  obtain ⟨front, hfront, hsize⟩ := hlongest rfl
  exact ⟨hunclosed, ⟨front, hfront, hsize.symm⟩, hmixed, (hnone (by decide)).1⟩

end CrashReport.MachineInterface
