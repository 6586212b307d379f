import CrashReport.BuildId
import CrashReport.Proofs.Text.Octets

/-!
# Debug ids of build ids

Debug information is looked up by the debug id as it is written, so it matters which build ids have
debug ids that are written alike: those whose first sixteen octets are the same.

* **`DebugId.IsBuildId`** — the texts that have a debug id;
* **`DebugId.leading`** — the octets of a build id for which its debug id stands;
* **`DebugId.IsGuid`** — how sixteen octets are written as a GUID. A debug id is written as the
  GUID of its octets, and of no others (`DebugId.isGuid_text_iff`);
* **`DebugId.ofBuildId?_faithful`** — the debug id of a build id is written as the GUID of the
  leading octets.
-/

namespace CrashReport.DebugId

/-- The text is a build id: pairs of hexadecimal digits, at least one, in either case. -/
structure IsBuildId (text : String) : Prop where
  nonempty : text ≠ ""
  even : Even text.length
  digits : ∀ c ∈ text.toList,
    ('0' ≤ c ∧ c ≤ '9') ∨ ('a' ≤ c ∧ c ≤ 'f') ∨ ('A' ≤ c ∧ c ≤ 'F')

/-- The first sixteen octets, with zeros behind them if they are fewer. -/
def leading (octets : List UInt8) : List UInt8 := (octets.take 16).rightpad 16 0

/-- The pairs of characters in reverse order. -/
def pairsReversed : List Char → List Char
  | high :: low :: text => pairsReversed text ++ [high, low]
  | text => text

/-- The parts of a text between hyphens. -/
def parts (text : String) : List (List Char) := text.toList.splitOn '-'

/-- The digits of a GUID in the order of its octets: without the hyphens, and with the pairs of the
first three groups in reverse order. -/
def digitsInOrder (text : String) : List Char :=
  (((parts text).take 3).map pairsReversed ++ (parts text).drop 3).flatten

/-- The text is the GUID of the octets. -/
structure IsGuid (text : String) (octets : List UInt8) : Prop where
  lengths : (parts text).map List.length = [8, 4, 4, 4, 12]
  spells : Hex.Spells (digitsInOrder text) octets

/-! ## GUIDs -/

theorem pairsReversed_ofBytes (octets : List UInt8) :
    pairsReversed (Hex.ofBytes octets) = Hex.ofBytes octets.reverse := by
  induction octets with
  | nil => rfl
  | cons octet octets ih =>
      show pairsReversed (Hex.ofBytes octets) ++ Hex.ofByte octet = _
      rw [ih, List.reverse_cons]
      unfold Hex.ofBytes
      rw [List.flatMap_append, List.flatMap_singleton]

variable {d : DebugId} {octets : List UInt8}

theorem parts_text (d : DebugId) : parts d.text = d.groups.map Hex.ofBytes := by
  unfold parts text
  rw [String.toList_ofList]
  refine List.splitOn_intercalate '-' ?_ (by simp [groups])
  intro group hgroup
  obtain ⟨octets, -, rfl⟩ := List.mem_map.1 hgroup
  exact Hex.notMem_ofBytes rfl octets

/-- The octets of the first three groups are written in reverse order, so reversing the pairs of
their digits puts them in order again. -/
theorem digitsInOrder_text (d : DebugId) : digitsInOrder d.text = Hex.ofBytes d.octets := by
  have hnext : ∀ place count, (d.octets.drop place).take count ++ d.octets.drop (place + count) =
      d.octets.drop place := by
    intro place count
    rw [← List.drop_drop, List.take_append_drop]
  -- each group starts where the one before it ends
  have hall : d.octets = d.octets.take 4 ++ ((d.octets.drop 4).take 2 ++
      ((d.octets.drop 6).take 2 ++ ((d.octets.drop 8).take 2 ++ d.octets.drop 10))) := by
    rw [hnext 8 2, hnext 6 2, hnext 4 2, List.take_append_drop]
  unfold digitsInOrder
  rw [parts_text]
  simp only [groups, List.map_cons, List.map_nil, List.take_succ_cons, List.take_zero,
    List.drop_succ_cons, List.drop_zero, List.cons_append, List.nil_append, List.flatten_cons,
    List.flatten_nil, pairsReversed_ofBytes, List.reverse_reverse, List.append_nil]
  unfold Hex.ofBytes
  rw [← List.flatMap_append, ← List.flatMap_append, ← List.flatMap_append, ← List.flatMap_append,
    ← hall]

theorem lengths_text (d : DebugId) : (parts d.text).map List.length = [8, 4, 4, 4, 12] := by
  rw [parts_text, List.map_map]
  simp [groups, Hex.length_ofBytes, d.length_octets]

theorem isGuid_text_iff : IsGuid d.text octets ↔ d.octets = octets := by
  rw [← Hex.spells_ofBytes_iff, ← digitsInOrder_text]
  exact ⟨fun h => h.spells, fun h => ⟨lengths_text d, h⟩⟩

/-! ## Build ids -/

variable {buildId : String}

theorem isBuildId_iff :
    IsBuildId buildId ↔ buildId ≠ "" ∧ (Hex.bytes? buildId.toList).isSome = true := by
  rw [Hex.isSome_bytes?_iff, String.length_toList]
  simp only [Hex.isDigit_iff]
  exact ⟨fun h => ⟨h.nonempty, h.even, h.digits⟩, fun h => ⟨h.1, h.2.1, h.2.2⟩⟩

instance (buildId : String) : Decidable (IsBuildId buildId) :=
  decidable_of_iff (buildId ≠ "" ∧ (Hex.bytes? buildId.toList).isSome = true) isBuildId_iff.symm

theorem isBuildId_iff_exists_spells :
    IsBuildId buildId ↔ ∃ octets, octets ≠ [] ∧ Hex.Spells buildId.toList octets := by
  rw [isBuildId_iff, Option.isSome_iff_exists]
  simp only [Hex.bytes?_eq_some_iff]
  constructor
  · rintro ⟨hne, octets, hspells⟩
    refine ⟨octets, fun hnil => hne ?_, hspells⟩
    exact String.toList_eq_nil_iff.1 (hspells.eq_nil_iff.1 hnil)
  · rintro ⟨octets, hne, hspells⟩
    refine ⟨fun hempty => hne ?_, octets, hspells⟩
    exact hspells.eq_nil_iff.2 (String.toList_eq_nil_iff.2 hempty)

/-! ## Debug ids -/

theorem octets_inj {d e : DebugId} : d.octets = e.octets ↔ d = e := by
  cases d
  cases e
  simp

theorem octets_ofOctets (octets : List UInt8) : (ofOctets octets).octets = leading octets := by
  show (octets ++ List.replicate 16 0).take 16 =
    octets.take 16 ++ List.replicate (16 - (octets.take 16).length) 0
  rw [List.take_append, List.take_replicate, List.length_take]
  congr 2
  omega

theorem ofBuildId?_of_spells (hne : octets ≠ []) (h : Hex.Spells buildId.toList octets) :
    ofBuildId? buildId = some (ofOctets octets) := by
  unfold ofBuildId?
  rw [Hex.bytes?_eq_some_iff.2 h]
  cases octets with
  | nil => exact absurd rfl hne
  | cons => rfl

theorem isSome_ofBuildId?_iff : (ofBuildId? buildId).isSome = true ↔ IsBuildId buildId := by
  rw [isBuildId_iff_exists_spells]
  constructor
  · intro h
    unfold ofBuildId? at h
    split at h
    · cases h
    · rename_i octets hne hbytes
      exact ⟨octets, hne, Hex.bytes?_eq_some_iff.1 hbytes⟩
    · cases h
  · rintro ⟨octets, hne, hspells⟩
    rw [ofBuildId?_of_spells hne hspells]
    rfl

theorem ofBuildId?_eq_some_iff : ofBuildId? buildId = some d ↔
    ∃ octets, octets ≠ [] ∧ Hex.Spells buildId.toList octets ∧ d.octets = leading octets := by
  constructor
  · intro h
    have hid := isSome_ofBuildId?_iff.1 (Option.isSome_of_eq_some h)
    obtain ⟨octets, hne, hspells⟩ := isBuildId_iff_exists_spells.1 hid
    rw [ofBuildId?_of_spells hne hspells, Option.some_inj] at h
    refine ⟨octets, hne, hspells, ?_⟩
    rw [← h, octets_ofOctets]
  · rintro ⟨octets, hne, hspells, hd⟩
    rw [ofBuildId?_of_spells hne hspells, Option.some_inj, ← octets_inj, octets_ofOctets, hd]

theorem ofBuildId?_eq_of_toLower_eq {other : String} (h : buildId.toLower = other.toLower) :
    ofBuildId? buildId = ofBuildId? other := by
  have hlower : buildId.toList.map Char.toLower = other.toList.map Char.toLower := by
    have hchars := congrArg String.toList h
    unfold String.toLower at hchars
    rwa [String.toList_map, String.toList_map] at hchars
  unfold ofBuildId?
  rw [← Hex.bytes?_map_toLower buildId.toList, hlower, Hex.bytes?_map_toLower]

/-- A text has a debug id exactly if it is made of pairs of digits, and this is the one that is
written as the GUID of its leading octets. So two build ids have the same debug id exactly if their
leading octets are the same. The case of the letters does not count. -/
theorem ofBuildId?_faithful (buildId other : String) :
    ((ofBuildId? buildId).isSome = true ↔ IsBuildId buildId) ∧
    (∀ d, ofBuildId? buildId = some d ↔ ∃ octets, octets ≠ [] ∧
      Hex.Spells buildId.toList octets ∧ IsGuid d.text (leading octets)) ∧
    (IsBuildId buildId → IsBuildId other → (ofBuildId? buildId = ofBuildId? other ↔
      ∃ octets others, Hex.Spells buildId.toList octets ∧ Hex.Spells other.toList others ∧
        leading octets = leading others)) ∧
    (buildId.toLower = other.toLower → ofBuildId? buildId = ofBuildId? other) := by
  refine ⟨isSome_ofBuildId?_iff, fun d => ?_, fun hid hother => ?_, ofBuildId?_eq_of_toLower_eq⟩
  · simp only [isGuid_text_iff]
    exact ofBuildId?_eq_some_iff
  · obtain ⟨octets, hne, hspells⟩ := isBuildId_iff_exists_spells.1 hid
    obtain ⟨others, hne', hspells'⟩ := isBuildId_iff_exists_spells.1 hother
    rw [ofBuildId?_of_spells hne hspells, ofBuildId?_of_spells hne' hspells', Option.some_inj,
      ← octets_inj, octets_ofOctets, octets_ofOctets]
    constructor
    · intro h
      exact ⟨octets, others, hspells, hspells', h⟩
    · rintro ⟨_, _, h, h', hleading⟩
      rwa [hspells.unique h, hspells'.unique h']

/-- A build id of twenty octets has the debug id of its first sixteen, in whatever case these are
written, and one of five octets has that of the same octets with two zeros behind them. The two
debug ids differ. An odd number of digits has none. -/
theorem ofBuildId?_faithful_mixed :
    let long := "272ee025ad435f0e873aafd55dc65d8a4cb1d93f"
    let cut := "272EE025AD435f0e873AAFD55DC65D8A"
    let short := "01020304aB"
    let filled := "01020304Ab0000"
    (IsBuildId long ∧ IsBuildId cut ∧ IsBuildId short ∧ IsBuildId filled) ∧
    ofBuildId? long = ofBuildId? cut ∧ ofBuildId? short = ofBuildId? filled ∧
    ofBuildId? short ≠ ofBuildId? long ∧ (ofBuildId? "01020304a").isSome = false := by
  intro long cut short filled
  have hids : IsBuildId long ∧ IsBuildId cut ∧ IsBuildId short ∧ IsBuildId filled := by decide
  obtain ⟨hlong, hcut, hshort, hfilled⟩ := hids
  have hspellsShort : Hex.Spells short.toList [1, 2, 3, 4, 0xab] := by decide
  have hspellsCut : Hex.Spells cut.toList [0x27, 0x2e, 0xe0, 0x25, 0xad, 0x43, 0x5f, 0x0e, 0x87,
      0x3a, 0xaf, 0xd5, 0x5d, 0xc6, 0x5d, 0x8a] := by decide
  have hspellsLong : Hex.Spells long.toList [0x27, 0x2e, 0xe0, 0x25, 0xad, 0x43, 0x5f, 0x0e, 0x87,
      0x3a, 0xaf, 0xd5, 0x5d, 0xc6, 0x5d, 0x8a, 0x4c, 0xb1, 0xd9, 0x3f] := by decide
  refine ⟨⟨hlong, hcut, hshort, hfilled⟩, ?_, ?_, ?_, ?_⟩
  · obtain ⟨-, -, hsame, -⟩ := ofBuildId?_faithful long cut
    exact (hsame hlong hcut).2 ⟨_, _, hspellsLong, hspellsCut, by decide⟩
  · obtain ⟨-, -, hsame, -⟩ := ofBuildId?_faithful short filled
    exact (hsame hshort hfilled).2
      ⟨_, [1, 2, 3, 4, 0xab, 0, 0], hspellsShort, by decide, by decide⟩
  · intro h
    obtain ⟨-, -, hsame, -⟩ := ofBuildId?_faithful short long
    obtain ⟨_, _, hspells, hspells', hleading⟩ := (hsame hshort hlong).1 h
    rw [hspells.unique hspellsShort, hspells'.unique hspellsLong] at hleading
    exact absurd hleading (by decide)
  · obtain ⟨hsome, -⟩ := ofBuildId?_faithful "01020304a" long
    rw [Bool.eq_false_iff, Ne, hsome]
    decide

/-- The first three groups are written in reverse order. -/
example : (ofBuildId? "272ee025ad435f0e873aafd55dc65d8a4cb1d93f").map text =
    some "25e02e27-43ad-0e5f-873a-afd55dc65d8a" := by
  cbv

end CrashReport.DebugId
