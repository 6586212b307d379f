import CrashReport.Json.Decode

/-!
# What reading a record keeps

A record is read by changing a blank one field by field, in the order in which the fields stand
in the text. So a property that no field takes away holds of every record that is read from a
blank one with the property, whatever the text is.

* **`Json.Yields`** — whatever a reader reads has a property;
* **`Json.RecordField.Keeps`** — a field leaves a property of records alone;
* **`Json.yields_record`**, **`Json.of_ofText`** — records, and whole texts.
-/

namespace CrashReport.Json

variable {α β ρ : Type} {I : ρ → Prop}

/-- Whatever the reader reads, from any text, has the property. -/
def Yields (scan : Scan α) (P : α → Prop) : Prop :=
  ∀ text x rest, scan text = .ok (x, rest) → P x

theorem yields_pure {P : α → Prop} {x : α} (h : P x) : Yields (pure x) P := by
  intro text y rest hread
  cases hread
  exact h

theorem yields_throw {P : α → Prop} (flaw : Flaw) : Yields (throw flaw) P := by
  intro text x rest hread
  cases hread

/-- What is read after something that has a property. -/
theorem yields_bind {P : α → Prop} {Q : β → Prop} {scan : Scan α} {next : α → Scan β}
    (hscan : Yields scan P) (hnext : ∀ x, P x → Yields (next x) Q) : Yields (scan >>= next) Q := by
  intro text y rest hread
  show Q y
  cases hfirst : scan text with
  | error flaw =>
      have hfail : (scan >>= next) text = .error flaw := by
        show (scan text).bind _ = _
        rw [hfirst]
        rfl
      rw [hfail] at hread
      cases hread
  | ok read =>
      obtain ⟨x, mid⟩ := read
      have hgo : (scan >>= next) text = next x mid := by
        show (scan text).bind _ = _
        rw [hfirst]
        rfl
      rw [hgo] at hread
      exact hnext x (hscan text x mid hfirst) mid y rest hread

theorem yields_then {Q : β → Prop} {scan : Scan α} {next : α → Scan β}
    (hnext : ∀ x, Yields (next x) Q) : Yields (scan >>= next) Q :=
  yields_bind (P := fun _ => True) (fun _ _ _ _ => trivial) fun x _ => hnext x

/-- A value of the wrong shape is not read at all. -/
theorem yields_mismatch {P : α → Prop} : Yields mismatch P := by
  unfold mismatch
  refine yields_then fun next => ?_
  split
  · exact yields_throw _
  · exact yields_then fun _ => yields_then fun _ => yields_throw _
  · exact yields_then fun _ => yields_then fun _ => yields_throw _
  · exact yields_then fun _ => yields_then fun _ => yields_throw _
  · exact yields_then fun _ => yields_then fun _ => yields_throw _
  · exact yields_throw _
  · exact yields_throw _
  · split
    · refine yields_then fun numeral => ?_
      split <;> exact yields_throw _
    · exact yields_throw _

/-- However the value of the field reads, the record that it changes keeps the property. -/
def RecordField.Keeps (field : RecordField ρ) (I : ρ → Prop) : Prop :=
  Yields field.value fun change => ∀ r, I r → I (change r)

theorem RecordField.keeps_defaulted (name : String) (value : Scan α) {set : α → ρ → ρ}
    (hset : ∀ v r, I r → I (set v r)) : (RecordField.defaulted name value set).Keeps I :=
  yields_then fun v => yields_pure (hset v)

theorem yields_placedFields {fields : List (RecordField ρ)}
    (hfields : ∀ field ∈ fields, field.Keeps I) (first : Bool) {r : ρ} (hr : I r) :
    Yields (placedFields fields first r) I := by
  induction fields generalizing first r with
  | nil => exact yields_pure hr
  | cons field rest ih =>
      have hrest : ∀ other ∈ rest, other.Keeps I :=
        fun other hother => hfields other (List.mem_cons_of_mem _ hother)
      unfold placedFields
      refine yields_then fun more => ?_
      split
      · exact yields_bind (hfields field List.mem_cons_self) fun change hchange =>
          ih hrest false (hchange r hr)
      · split
        · exact ih hrest first hr
        · exact yields_throw _

theorem yields_namedFields {fields : List (RecordField ρ)}
    (hfields : ∀ field ∈ fields, field.Keeps I) (fuel : Nat) (seen : List String) {r : ρ}
    (hr : I r) : Yields (namedFields fields fuel seen r) I := by
  induction fuel generalizing seen r with
  | zero => exact yields_throw _
  | succ fuel ih =>
      unfold namedFields
      refine yields_then fun name? => ?_
      split
      · split
        · exact yields_throw _
        · exact yields_pure hr
      · split
        · exact yields_then fun _ => yields_then fun _ => ih _ hr
        · rename_i field hfound
          split
          · exact yields_throw _
          · refine yields_then fun _ => ?_
            exact yields_bind (hfields field (List.mem_of_find?_eq_some hfound))
              fun change hchange => ih _ (hchange r hr)

theorem yields_record {blank : ρ} {fields : List (RecordField ρ)}
    (hfields : ∀ field ∈ fields, field.Keeps I) (hblank : I blank) :
    Yields (record blank fields) I := by
  unfold record
  refine yields_then fun next => ?_
  split
  · exact yields_then fun _ => yields_bind (yields_placedFields hfields true hblank)
      fun _ hr => yields_then fun _ => yields_pure hr
  · exact yields_then fun _ => yields_then fun _ =>
      yields_bind (yields_namedFields hfields _ [] hblank)
        fun _ hr => yields_then fun _ => yields_pure hr
  · exact yields_mismatch

/-- What is read from a whole text is what the reader reads from its front. -/
theorem of_ofText {P : α → Prop} {scan : Scan α} {text : String} {x : α} (hscan : Yields scan P)
    (h : ofText scan text = .ok x) : P x := by
  unfold ofText at h
  cases hread : scan text.toList with
  | error flaw =>
      rw [hread] at h
      cases h
  | ok read =>
      obtain ⟨y, rest⟩ := read
      rw [hread] at h
      have hy : P y := hscan _ _ _ hread
      simp only [bind, Except.bind] at h
      split at h
      · cases h
        exact hy
      · cases h

end CrashReport.Json
