import CrashReport.Proofs.Text.Hex
import Mathlib.Algebra.Group.Nat.Even

/-!
# Octets in hexadecimal

Octets are written as pairs of digits. Which octets a text spells is said here without the reader.

* **`Hex.isDigit_iff`** — the digits, in both cases;
* **`Hex.Spells`** — the text has the two digits of every octet, in either case;
* **`Hex.bytes?_eq_some_iff`** — what is read is what the text spells;
* **`Hex.isSome_bytes?_iff`** — an even number of digits can be read, and nothing else.
-/

namespace CrashReport.Hex

/-! ## Digits -/

theorem isDigit_iff {c : Char} : isDigit c = true ↔
    ('0' ≤ c ∧ c ≤ '9') ∨ ('a' ≤ c ∧ c ≤ 'f') ∨ ('A' ≤ c ∧ c ≤ 'F') := by
  unfold isDigit digit?
  split_ifs with hdecimal hsmall hcapital
  · exact ⟨fun _ => .inl hdecimal, fun _ => rfl⟩
  · exact ⟨fun _ => .inr (.inl hsmall), fun _ => rfl⟩
  · exact ⟨fun _ => .inr (.inr hcapital), fun _ => rfl⟩
  · simp [hdecimal, hsmall, hcapital]

theorem lt_of_digit?_eq_some {c : Char} {d : Nat} (h : digit? c = some d) : d < 16 := by
  unfold digit? at h
  split_ifs at h with hdecimal hsmall hcapital
  · have hle : c.toNat ≤ 57 := hdecimal.2
    have hd := Option.some.inj h
    omega
  · have hle : c.toNat ≤ 102 := hsmall.2
    have hd := Option.some.inj h
    omega
  · have hle : c.toNat ≤ 70 := hcapital.2
    have hd := Option.some.inj h
    omega

/-! ## Octets as they are written -/

theorem notMem_ofBytes {c : Char} (hc : isDigit c = false) (octets : List UInt8) :
    c ∉ ofBytes octets := by
  intro hmem
  obtain ⟨octet, -, hmem⟩ := List.mem_flatMap.1 hmem
  have hb : octet.toNat < 256 := octet.toNat_lt
  have hdigit : ∀ d < 16, c ≠ Nat.digitChar d := by
    rintro d hd rfl
    simp [isDigit, digit?_digitChar hd] at hc
  rcases List.mem_cons.1 hmem with h | hmem
  · exact hdigit _ (by omega) h
  · exact hdigit _ (by omega) (List.mem_singleton.1 hmem)

theorem length_ofBytes (octets : List UInt8) : (ofBytes octets).length = 2 * octets.length := by
  induction octets with
  | nil => rfl
  | cons octet octets ih =>
      show (ofBytes octets).length + 2 = _
      rw [ih, List.length_cons]
      omega

/-! ## Octets as they are read -/

/-- The text spells the octets: for each of them the digit of its high half and that of its low
half, in either case. -/
inductive Spells : List Char → List UInt8 → Prop
  | nil : Spells [] []
  | cons {high low : Char} {octet : UInt8} {text : List Char} {octets : List UInt8}
      (high_eq : digit? high = some (octet.toNat / 16))
      (low_eq : digit? low = some (octet.toNat % 16)) (rest : Spells text octets) :
      Spells (high :: low :: text) (octet :: octets)

variable {text : List Char} {octets others : List UInt8}

theorem bytes?_eq_some_iff : bytes? text = some octets ↔ Spells text octets := by
  constructor
  · intro h
    -- two digits make no more than an octet, so its halves are the digits again
    fun_induction bytes? text generalizing octets with
    | case1 =>
        cases h
        exact .nil
    | case2 => cases h
    | case3 high low text upper lower rest hrest hlow hhigh ih =>
        obtain rfl := Option.some.inj h
        have hupper := lt_of_digit?_eq_some hhigh
        have hlower := lt_of_digit?_eq_some hlow
        have hoctet : (UInt8.ofNat (16 * upper + lower)).toNat = 16 * upper + lower :=
          UInt8.toNat_ofNat_of_lt' (show 16 * upper + lower < 256 by omega)
        refine .cons ?_ ?_ (ih hrest)
        · rw [hhigh, hoctet, show (16 * upper + lower) / 16 = upper by omega]
        · rw [hlow, hoctet, show (16 * upper + lower) % 16 = lower by omega]
    | case4 => cases h
  · intro h
    induction h with
    | nil => rfl
    | @cons high low octet text octets hhigh hlow _ ih =>
        have hoctet : 16 * (octet.toNat / 16) + octet.toNat % 16 = octet.toNat := by omega
        unfold bytes?
        rw [hhigh, hlow, ih]
        show some (UInt8.ofNat _ :: octets) = _
        rw [hoctet, UInt8.ofNat_toNat]

instance (text : List Char) (octets : List UInt8) : Decidable (Spells text octets) :=
  decidable_of_iff (bytes? text = some octets) bytes?_eq_some_iff

/-- A text spells the octets of which it is the digits, and no others. -/
theorem spells_ofBytes_iff : Spells (ofBytes octets) others ↔ octets = others := by
  rw [← bytes?_eq_some_iff, bytes?_ofBytes, Option.some_inj]

theorem Spells.unique (h : Spells text octets) (h' : Spells text others) : octets = others := by
  rw [← bytes?_eq_some_iff] at h h'
  exact Option.some.inj (h.symm.trans h')

theorem Spells.eq_nil_iff (h : Spells text octets) : octets = [] ↔ text = [] := by
  cases h <;> simp

theorem bytes?_map_toLower : (text : List Char) → bytes? (text.map Char.toLower) = bytes? text
  | [] => rfl
  | [_] => rfl
  | high :: low :: text => by
      rw [List.map_cons, List.map_cons, bytes?, bytes?, digit?_toLower, digit?_toLower,
        bytes?_map_toLower text]

theorem isSome_bytes?_cons (high low : Char) (text : List Char) :
    (bytes? (high :: low :: text)).isSome =
      (isDigit high && isDigit low && (bytes? text).isSome) := by
  unfold isDigit
  rw [bytes?]
  cases digit? high <;> cases digit? low <;> cases bytes? text <;> rfl

theorem isSome_bytes?_iff : {text : List Char} →
    ((bytes? text).isSome = true ↔ Even text.length ∧ ∀ c ∈ text, isDigit c = true)
  | [] => by simp [bytes?]
  | [_] => by simp [bytes?]
  | high :: low :: text => by
      have heven : Even (high :: low :: text).length ↔ Even text.length := by
        simp only [List.length_cons, Nat.even_add_one, not_not]
      rw [isSome_bytes?_cons, Bool.and_eq_true, Bool.and_eq_true, isSome_bytes?_iff, heven,
        List.forall_mem_cons, List.forall_mem_cons, and_left_comm, and_assoc]

end CrashReport.Hex
