import CrashReport.MachineInterface.Reader

/-!
# The grammar of result records

Which texts are lists of results, and what they denote, said without the reader:

* **`Quoted`** — what stands between the quotes of a constant, and the text it denotes;
* **`Separated`** — one or more texts of one kind with commas between them;
* **`Named`** — a name, an equals sign and a value;
* **`Denotes`** — the texts of values, **`DenotesResults`** those of lists of results.

`read_eq_ok_iff` says that the reader accepts exactly these texts and gives what they
denote. One half is proved along the reader (`denotes_of_readValue`), the other along the
grammar (`readValue_append`). A text of the grammar ends with a delimiter of its own, so the
second half holds whatever follows the text.
-/

namespace CrashReport.MachineInterface

/-! ## The texts -/

/-- The characters of names. -/
def NameChar (c : Char) : Prop :=
  ('A' ≤ c ∧ c ≤ 'Z') ∨ ('a' ≤ c ∧ c ≤ 'z') ∨ ('0' ≤ c ∧ c ≤ '9') ∨ c = '_' ∨ c = '-'

/-- What a character after a backslash stands for. -/
inductive Escape : Char → Char → Prop
  | lineFeed : Escape 'n' '\n'
  | tab : Escape 't' '\t'
  | carriageReturn : Escape 'r' '\r'
  | itself {c : Char} : c ≠ 'n' → c ≠ 't' → c ≠ 'r' → Escape c c

/-- What stands between the quotes of a constant, and the text that it denotes. -/
inductive Quoted : List Char → List Char → Prop
  | nil : Quoted [] []
  | plain {c : Char} {text s : List Char} : c ≠ '"' → c ≠ '\\' → Quoted text s →
      Quoted (c :: text) (c :: s)
  | escaped {c d : Char} {text s : List Char} : Escape c d → Quoted text s →
      Quoted ('\\' :: c :: text) (d :: s)

/-- One or more texts of the kind `P`, with commas between them. -/
inductive Separated {α : Type} (P : List Char → α → Prop) : List Char → List α → Prop
  | one {t : List Char} {x : α} : P t x → Separated P t [x]
  | more {t text : List Char} {x : α} {xs : List α} : P t x → Separated P text xs →
      Separated P (t ++ ',' :: text) (x :: xs)

/-- A name, an equals sign, and a text of the kind `P`. -/
inductive Named (P : List Char → Value → Prop) : List Char → Result → Prop
  | mk {name text : List Char} {v : Value} : name ≠ [] → (∀ c ∈ name, NameChar c) →
      P text v → Named P (name ++ '=' :: text) (String.ofList name, v)

/-- The texts of values, with the values that they denote. -/
inductive Denotes : List Char → Value → Prop
  | constant {body s : List Char} : Quoted body s →
      Denotes ('"' :: (body ++ ['"'])) (.constant (String.ofList s))
  | emptyTuple : Denotes ['\x7b', '\x7d'] (.tuple [])
  | tuple {body : List Char} {results : List Result} : Separated (Named Denotes) body results →
      Denotes ('\x7b' :: (body ++ ['\x7d'])) (.tuple results)
  | emptyList : Denotes ['[', ']'] (.list [])
  | list {body : List Char} {values : List Value} : Separated Denotes body values →
      Denotes ('[' :: (body ++ [']'])) (.list values)
  | named {body : List Char} {results : List Result} : Separated (Named Denotes) body results →
      Denotes ('[' :: (body ++ [']'])) (.named results)

/-- The texts of lists of results, with the results that they denote. -/
def DenotesResults : List Char → List Result → Prop := Separated (Named Denotes)

/-! ## Characters and constants -/

theorem isNameChar_iff (c : Char) : isNameChar c = true ↔ NameChar c := by
  show ((decide ('A'.val ≤ c.val ∧ c.val ≤ 'Z'.val) || ('a'.val ≤ c.val && c.val ≤ 'z'.val) ||
    ('0'.val ≤ c.val && c.val ≤ '9'.val)) || c = '_' || c = '-') = true ↔ NameChar c
  simp only [NameChar, Bool.or_eq_true, Bool.and_eq_true, decide_eq_true_eq]
  simp only [Char.le_def, UInt32.le_iff_toNat_le]
  grind

theorem escape_iff {c d : Char} : Escape c d ↔ d = unescape c := by
  constructor
  · intro h
    cases h with
    | lineFeed => rfl
    | tab => rfl
    | carriageReturn => rfl
    | itself hn ht hr =>
        unfold unescape
        split
        · exact absurd rfl hn
        · exact absurd rfl ht
        · exact absurd rfl hr
        · rfl
  · rintro rfl
    unfold unescape
    split
    · exact .lineFeed
    · exact .tab
    · exact .carriageReturn
    · rename_i hn ht hr
      exact .itself hn ht hr

/-- A constant is read to the first quote that no backslash escapes. -/
theorem constant?_append {body s : List Char} (h : Quoted body s) (rest : List Char) :
    constant? (body ++ '"' :: rest) = some (s, rest) := by
  induction h with
  | nil => rfl
  | plain hq hb _ ih =>
      rw [List.cons_append, constant?]
      · rw [ih]
        rfl
      all_goals grind
  | escaped he _ ih =>
      rw [escape_iff.1 he, List.cons_append, List.cons_append, constant?, ih]
      rfl

theorem quoted_of_constant? {text s rest : List Char} (h : constant? text = some (s, rest)) :
    ∃ body, text = body ++ '"' :: rest ∧ Quoted body s := by
  fun_induction constant? text generalizing s with
  | case1 rest =>
      cases h
      exact ⟨[], rfl, .nil⟩
  | case2 c text ih =>
      obtain ⟨⟨s', rest'⟩, hs, he⟩ := Option.map_eq_some_iff.1 h
      cases he
      obtain ⟨body, rfl, hbody⟩ := ih hs
      exact ⟨'\\' :: c :: body, rfl, .escaped (escape_iff.2 rfl) hbody⟩
  | case3 => cases h
  | case4 c text hq hb hb' ih =>
      obtain ⟨⟨s', rest'⟩, hs, he⟩ := Option.map_eq_some_iff.1 h
      cases he
      obtain ⟨body, rfl, hbody⟩ := ih hs
      refine ⟨c :: body, rfl, .plain ?_ ?_ hbody⟩
      · exact fun hc => hq hc
      · intro hc
        cases body <;> grind
  | case5 => cases h

/-! ## From the reader to the grammar -/

/-- Whatever the reader takes off the front of a text is of the kind `P`. -/
def TakesOnly {α : Type} (element : Reader α) (P : List Char → α → Prop) : Prop :=
  ∀ (text : List Char) (x : α) (rest : List Char), element text = .ok (x, rest) →
    ∃ front, text = front ++ rest ∧ P front x

theorem TakesOnly.readResult {value : Reader Value} {P : List Char → Value → Prop}
    (h : TakesOnly value P) : TakesOnly (readResult value) (Named P) := by
  intro text x rest hr
  have hsplit : text.takeWhile isNameChar ++ text.dropWhile isNameChar = text :=
    List.takeWhile_append_dropWhile
  unfold MachineInterface.readResult at hr
  split at hr
  · cases hr
  · rename_i after hdrop hne
    obtain ⟨⟨v, rest'⟩, hv, he⟩ : ∃ p, value after = .ok p ∧ _ := by
      cases hval : value after with
      | error e => rw [hval] at hr; cases hr
      | ok p => rw [hval] at hr; exact ⟨p, rfl, hr⟩
    cases he
    obtain ⟨front, rfl, hfront⟩ := h _ _ _ hv
    refine ⟨text.takeWhile isNameChar ++ '=' :: front, ?_, .mk hne ?_ hfront⟩
    · rw [List.append_assoc, List.cons_append, ← hdrop, hsplit]
    · intro c hc
      exact (isNameChar_iff c).1 (List.all_eq_true.1 List.all_takeWhile c hc)
  · cases hr

theorem TakesOnly.readMore {α : Type} {element : Reader α} {P : List Char → α → Prop}
    (h : TakesOnly element P) {fuel : Nat} {text rest : List Char} {xs : List α}
    (hr : readMore element fuel text = (xs, rest)) :
    (xs = [] ∧ rest = text) ∨ ∃ front, text = ',' :: (front ++ rest) ∧ Separated P front xs := by
  fun_induction MachineInterface.readMore element fuel text generalizing xs with
  | case1 fuel text x after hx more rest' hmore ih =>
      cases hr
      obtain ⟨front, rfl, hfront⟩ := h _ _ _ hx
      rcases ih hmore with ⟨rfl, rfl⟩ | ⟨tail, rfl, hsep⟩
      · exact .inr ⟨front, rfl, .one hfront⟩
      · exact .inr ⟨front ++ ',' :: tail, by simp, .more hfront hsep⟩
  | case2 =>
      cases hr
      exact .inl ⟨rfl, rfl⟩
  | case3 =>
      cases hr
      exact .inl ⟨rfl, rfl⟩

/-- One element and those that follow it are a separated list. -/
theorem TakesOnly.separated {α : Type} {element : Reader α} {P : List Char → α → Prop}
    (h : TakesOnly element P) {fuel : Nat} {text after rest : List Char} {x : α} {xs : List α}
    (hx : element text = .ok (x, after))
    (hr : MachineInterface.readMore element fuel after = (xs, rest)) :
    ∃ front, text = front ++ rest ∧ Separated P front (x :: xs) := by
  obtain ⟨front, rfl, hfront⟩ := h _ _ _ hx
  rcases h.readMore hr with ⟨rfl, rfl⟩ | ⟨more, rfl, hsep⟩
  · exact ⟨front, rfl, .one hfront⟩
  · exact ⟨front ++ ',' :: more, by simp, .more hfront hsep⟩

theorem TakesOnly.readMany {α : Type} {element : Reader α} {P : List Char → α → Prop}
    (h : TakesOnly element P) {text rest : List Char} {xs : List α}
    (hr : readMany element text = (xs, rest)) :
    (xs = [] ∧ rest = text) ∨ ∃ front, text = front ++ rest ∧ Separated P front xs := by
  unfold MachineInterface.readMany at hr
  split at hr
  · rename_i x after hx
    obtain ⟨hxs, hrest⟩ := Prod.mk.inj hr
    subst hxs
    exact .inr (h.separated hx (Prod.ext rfl hrest))
  · cases hr
    exact .inl ⟨rfl, rfl⟩

/-- The reader of values takes values, however deep it may go. -/
theorem denotes_of_readValue (depth : Nat) : TakesOnly (readValue depth) Denotes := by
  induction depth with
  | zero =>
      intro text v rest h
      cases h
  | succ depth ih =>
      intro text v rest h
      unfold readValue at h
      split at h
      · -- a constant
        rename_i body
        split at h
        · rename_i s rest' hs
          cases h
          obtain ⟨inner, rfl, hq⟩ := quoted_of_constant? hs
          exact ⟨'"' :: (inner ++ ['"']), by simp, .constant hq⟩
        · cases h
      · -- a tuple, which may be empty
        split at h
        · rename_i results rest' hm
          cases h
          rcases ih.readResult.readMany hm with ⟨rfl, hrest⟩ | ⟨front, rfl, hsep⟩
          · exact ⟨['\x7b', '\x7d'], by simp [← hrest], .emptyTuple⟩
          · exact ⟨'\x7b' :: (front ++ ['\x7d']), by simp, .tuple hsep⟩
        · cases h
      · -- a list, of results if any result can be read
        split at h
        · split at h
          · rename_i values rest' hm
            cases h
            rcases ih.readMany hm with ⟨rfl, hrest⟩ | ⟨front, rfl, hsep⟩
            · exact ⟨['[', ']'], by simp [← hrest], .emptyList⟩
            · exact ⟨'[' :: (front ++ [']']), by simp, .list hsep⟩
          · cases h
        · rename_i results rest' hne hm
          cases h
          rcases ih.readResult.readMany hm with ⟨rfl, _⟩ | ⟨front, rfl, hsep⟩
          · exact (hne rfl).elim
          · exact ⟨'[' :: (front ++ [']']), by simp, .named hsep⟩
        · cases h
      · cases h

/-! ## From the grammar to the reader -/

/-- A text of the kind `P` that is no longer than `limit` is read to its end, whatever
follows it. -/
def TakesAll {α : Type} (limit : Nat) (element : Reader α) (P : List Char → α → Prop) : Prop :=
  ∀ (t : List Char) (x : α), t.length ≤ limit → P t x →
    ∀ rest, element (t ++ rest) = .ok (x, rest)

theorem takeWhile_name {name : List Char} (h : ∀ c ∈ name, NameChar c) (rest : List Char) :
    (name ++ '=' :: rest).takeWhile isNameChar = name ∧
      (name ++ '=' :: rest).dropWhile isNameChar = '=' :: rest := by
  have hname : ∀ c ∈ name, isNameChar c = true := fun c hc => (isNameChar_iff c).2 (h c hc)
  have heq : isNameChar '=' = false := by decide
  constructor
  · rw [List.takeWhile_append_of_pos hname, List.takeWhile_cons_of_neg (by simp [heq]),
      List.append_nil]
  · rw [List.dropWhile_append_of_pos hname, List.dropWhile_cons_of_neg (by simp [heq])]

theorem TakesAll.readResult {limit : Nat} {value : Reader Value} {P : List Char → Value → Prop}
    (h : TakesAll limit value P) : TakesAll limit (readResult value) (Named P) := by
  intro t x hlen ht rest
  cases ht with
  | @mk name text v hne hname hv =>
      rw [List.length_append, List.length_cons] at hlen
      obtain ⟨htake, hdrop⟩ := takeWhile_name hname (text ++ rest)
      rw [List.append_assoc, List.cons_append]
      unfold MachineInterface.readResult
      rw [htake, hdrop]
      cases name with
      | nil => exact absurd rfl hne
      | cons c name =>
          simp only [h _ _ (by omega) hv rest]
          rfl

/-- No result starts with a character that stands in no name. -/
theorem readResult_eq_error (value : Reader Value) {c : Char} (text : List Char)
    (h : isNameChar c = false) : readResult value (c :: text) = .error ⟨c :: text, .name⟩ := by
  unfold MachineInterface.readResult
  rw [List.takeWhile_cons_of_neg (by simp [h])]

/-- A text that does not go on with a comma ends a list. -/
def EndsList (text : List Char) : Prop := ∀ after, text ≠ ',' :: after

theorem readMore_of_endsList {α : Type} (element : Reader α) (fuel : Nat) {text : List Char}
    (h : EndsList text) : readMore element fuel text = ([], text) := by
  unfold readMore
  split
  · exact absurd rfl (h _)
  · rfl

theorem TakesAll.readMore {α : Type} {limit : Nat} {element : Reader α}
    {P : List Char → α → Prop} (h : TakesAll limit element P) {text : List Char} {xs : List α}
    (hsep : Separated P text xs) {rest : List Char} (hrest : EndsList rest) :
    ∀ fuel, text.length < fuel → text.length ≤ limit →
      readMore element fuel (',' :: (text ++ rest)) = (xs, rest) := by
  induction hsep with
  | @one t x hx =>
      intro fuel hfuel hlimit
      obtain ⟨fuel, rfl⟩ : ∃ n, fuel = n + 1 := ⟨fuel - 1, by omega⟩
      unfold MachineInterface.readMore
      simp only [h _ _ hlimit hx rest, readMore_of_endsList element fuel hrest]
  | @more t text x xs hx _ ih =>
      intro fuel hfuel hlimit
      rw [List.length_append, List.length_cons] at hfuel hlimit
      obtain ⟨fuel, rfl⟩ : ∃ n, fuel = n + 1 := ⟨fuel - 1, by omega⟩
      unfold MachineInterface.readMore
      simp only [List.append_assoc, List.cons_append]
      simp only [h t x (by omega) hx, ih fuel (by omega) (by omega)]

theorem TakesAll.readMany {α : Type} {limit : Nat} {element : Reader α}
    {P : List Char → α → Prop} (h : TakesAll limit element P) {text : List Char} {xs : List α}
    (hsep : Separated P text xs) (hlimit : text.length ≤ limit) {rest : List Char}
    (hrest : EndsList rest) : readMany element (text ++ rest) = (xs, rest) := by
  unfold MachineInterface.readMany
  cases hsep with
  | one hx => simp only [h _ _ hlimit hx rest, readMore_of_endsList element _ hrest]
  | @more t text x xs hx hsep =>
      rw [List.length_append, List.length_cons] at hlimit
      simp only [List.append_assoc, List.cons_append]
      simp only [h t x (by omega) hx]
      have hfuel : text.length < (',' :: (text ++ rest)).length := by
        rw [List.length_cons, List.length_append]
        omega
      rw [h.readMore hsep hrest _ hfuel (by omega)]

/-- If no element can be read there are none. -/
theorem readMany_of_error {α : Type} {element : Reader α} {text : List Char} {stop : Stop}
    (h : element text = .error stop) : readMany element text = ([], text) := by
  unfold readMany
  rw [h]

/-- A value starts with a quote, a brace or a bracket, and with nothing that stands in a
name. -/
theorem Denotes.head {t : List Char} {v : Value} (h : Denotes t v) :
    ∃ c text, t = c :: text ∧ isNameChar c = false := by
  cases h <;> exact ⟨_, _, rfl, by decide⟩

theorem Separated.ne_nil {α : Type} {P : List Char → α → Prop} {text : List Char} {xs : List α}
    (h : Separated P text xs) : xs ≠ [] := by
  cases h <;> simp

/-- Values are not taken for results. -/
theorem readResult_values (value : Reader Value) {body : List Char} {values : List Value}
    (h : Separated Denotes body values) (rest : List Char) :
    ∃ stop, readResult value (body ++ rest) = .error stop := by
  cases h with
  | one hv =>
      obtain ⟨c, text, rfl, hc⟩ := hv.head
      exact ⟨_, readResult_eq_error value _ hc⟩
  | more hv _ =>
      obtain ⟨c, text, rfl, hc⟩ := hv.head
      exact ⟨_, readResult_eq_error value _ hc⟩

theorem readValue_bracket (depth : Nat) (rest : List Char) :
    ∃ stop, readValue depth (']' :: rest) = .error stop := by
  cases depth with
  | zero => exact ⟨_, rfl⟩
  | succ depth => exact ⟨_, rfl⟩

/-- A value whose text is no longer than the depth is read, whatever follows it. -/
theorem readValue_append (depth : Nat) : TakesAll depth (readValue depth) Denotes := by
  induction depth with
  | zero =>
      -- every value has a first character
      intro t v hlen h
      obtain ⟨c, text, rfl, _⟩ := h.head
      simp at hlen
  | succ depth ih =>
      intro t v hlen h rest
      have hends : ∀ c, c ≠ ',' → EndsList (c :: rest) := by
        intro c hc after he
        exact hc (List.cons.inj he).1
      cases h with
      | @constant body s hq =>
          rw [List.cons_append, List.append_assoc, List.singleton_append]
          unfold readValue
          simp only [constant?_append hq rest]
      | emptyTuple =>
          show readValue (depth + 1) ('\x7b' :: '\x7d' :: rest) = _
          unfold readValue
          simp only [readMany_of_error (readResult_eq_error (readValue depth) rest
            (show isNameChar '\x7d' = false by decide))]
      | @tuple body results hsep =>
          simp only [List.length_cons, List.length_append, List.length_nil] at hlen
          rw [List.cons_append, List.append_assoc, List.singleton_append]
          unfold readValue
          simp only [ih.readResult.readMany hsep (by omega) (hends '\x7d' (by decide))]
      | emptyList =>
          -- the bracket is tried as a value and as a name, and is neither
          obtain ⟨stop, hstop⟩ := readValue_bracket depth rest
          show readValue (depth + 1) ('[' :: ']' :: rest) = _
          unfold readValue
          simp only [readMany_of_error hstop, readMany_of_error (readResult_eq_error
            (readValue depth) rest (show isNameChar ']' = false by decide))]
      | @list body values hsep =>
          obtain ⟨stop, hstop⟩ := readResult_values (readValue depth) hsep (']' :: rest)
          simp only [List.length_cons, List.length_append, List.length_nil] at hlen
          rw [List.cons_append, List.append_assoc, List.singleton_append]
          unfold readValue
          simp only [readMany_of_error hstop]
          simp only [ih.readMany hsep (by omega) (hends ']' (by decide))]
      | @named body results hsep =>
          -- results are tried before values
          simp only [List.length_cons, List.length_append, List.length_nil] at hlen
          rw [List.cons_append, List.append_assoc, List.singleton_append]
          unfold readValue
          simp only [ih.readResult.readMany hsep (by omega) (hends ']' (by decide))]
          cases results with
          | nil => exact absurd rfl hsep.ne_nil
          | cons first more => rfl

/-! ## The whole text -/

theorem readAll_eq_ok_iff (text : List Char) (results : List Result) :
    readAll text = .ok results ↔ DenotesResults text results := by
  constructor
  · intro h
    unfold readAll at h
    simp only at h
    split at h
    · cases h
    · rename_i first after hfirst
      split at h
      · rename_i more hmore
        cases h
        obtain ⟨front, rfl, hsep⟩ :=
          (denotes_of_readValue text.length).readResult.separated hfirst hmore
        rwa [List.append_nil]
      · cases h
  · -- after the last result the text ends, so no comma can lead on
    intro h
    have hend : EndsList ([] : List Char) := fun after he => by cases he
    have hread := (readValue_append text.length).readResult
    unfold readAll
    cases h with
    | one hx =>
        have hone := hread _ _ (Nat.le_refl _) hx []
        rw [List.append_nil] at hone
        simp only [hone, readMore_of_endsList _ _ hend]
    | @more t rest x xs hx hsep =>
        have hlen : (t ++ ',' :: rest).length = t.length + rest.length + 1 := by
          simp
          omega
        have hmore := hread.readMore hsep hend (',' :: rest).length (by simp) (by omega)
        rw [List.append_nil] at hmore
        simp only [hread t x (by omega) hx, hmore]

/-- **Reading accepts exactly the texts of the grammar**, and gives the results that they
denote. -/
theorem read_eq_ok_iff (text : String) (results : List Result) :
    read text = .ok results ↔ DenotesResults text.toList results := by
  rw [← readAll_eq_ok_iff]
  unfold read
  cases readAll text.toList with
  | error stop =>
      constructor
      · intro h
        cases h
      · intro h
        cases h
  | ok read =>
      constructor
      · intro h
        cases h
        rfl
      · intro h
        cases h
        rfl

end CrashReport.MachineInterface
