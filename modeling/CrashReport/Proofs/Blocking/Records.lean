import CrashReport.Proofs.Text.Hex
import CrashReport.Proofs.Text.Scanning
import CrashReport.Stack
import Mathlib.Data.List.Forall2
import Mathlib.Data.List.Nodup

/-!
# Records of blocking frames

The records of a stack, told by its frames. There is one for each frame whose function is known to
block, and it has the number of the frame among these in place of an address. A report has the
records under their addresses, so it would lose one if two addresses were written alike.

* **`Blocking.Primitive.Fits`** — the primitive to which a function belongs;
* **`Stack.Frame.BlocksIn`**, **`Stack.Frame.Blocks`** — frames that block;
* **`Blocking.forall₂_ofFunctions`** — one record for each frame that blocks, and
  **`Blocking.addresses_ofFunctions`** — their addresses;
* **`Blocking.Record.WrittenUnder`** — the entry of a record in a report. There is one for each
  record (`Blocking.exists_toJson_eq`);
* **`Blocking.state?_ofFunctions`** — the newest frame that blocks decides the state.
-/

namespace CrashReport

namespace Blocking

/-- The pattern is the name of the function, or its name starts so. -/
def Pattern.Covers (function : String) : Pattern → Prop
  | named name => function = name
  | starting start => start.toList <+: function.toList

/-- The primitive is the first of the table whose pattern stands for the function. -/
def Primitive.Fits (primitive : Primitive) (function : String) : Prop :=
  ∃ before after, Primitive.all = before ++ primitive :: after ∧
    primitive.pattern.Covers function ∧ ∀ other ∈ before, ¬ other.pattern.Covers function

theorem Pattern.covers_iff {pattern : Pattern} {function : String} :
    pattern.covers function = true ↔ pattern.Covers function := by
  cases pattern with
  | named name => simp [covers, Covers]
  | starting start => simp [covers, Covers, Text.isSome_after?_iff]

theorem Primitive.of?_eq_some_iff {primitive : Primitive} {function : String} :
    Primitive.of? function = some primitive ↔ primitive.Fits function := by
  unfold of? Fits
  rw [List.find?_eq_some_iff_append]
  simp only [Bool.not_eq_true', Bool.eq_false_iff, ne_eq, Pattern.covers_iff]
  constructor
  · rintro ⟨hcovers, before, after, hall, hnone⟩
    exact ⟨before, after, hall, hcovers, hnone⟩
  · rintro ⟨before, after, hall, hcovers, hnone⟩
    exact ⟨hcovers, before, after, hall, hnone⟩

end Blocking

/-! ## Frames that block -/

namespace Stack.Frame

open Blocking

/-- The function of the frame is known, and it belongs to the primitive. -/
def BlocksIn (frame : Frame) (primitive : Primitive) : Prop :=
  ∃ function, frame.function = some function ∧ primitive.Fits function

/-- The function of the frame is known to block. -/
def Blocks (frame : Frame) : Prop := ∃ primitive, frame.BlocksIn primitive

/-- The primitive in which the frame blocks. -/
def primitive? (frame : Frame) : Option Primitive := frame.function.bind Primitive.of?

theorem primitive?_eq_some_iff {frame : Frame} {primitive : Primitive} :
    frame.primitive? = some primitive ↔ frame.BlocksIn primitive := by
  unfold primitive? BlocksIn
  simp only [Option.bind_eq_some_iff, Primitive.of?_eq_some_iff]

theorem isSome_primitive?_iff (frame : Frame) : frame.primitive?.isSome = true ↔ frame.Blocks := by
  rw [Option.isSome_iff_exists]
  exact exists_congr fun _ => primitive?_eq_some_iff

theorem primitive?_eq_none_iff {frame : Frame} : frame.primitive? = none ↔ ¬ frame.Blocks := by
  rw [← isSome_primitive?_iff, Option.not_isSome_iff_eq_none]

theorem findSome?_primitive?_eq_none_iff {frames : List Frame} :
    frames.findSome? primitive? = none ↔ ∀ frame ∈ frames, ¬ frame.Blocks := by
  rw [List.findSome?_eq_none_iff]
  exact forall₂_congr fun _ _ => primitive?_eq_none_iff

instance (frame : Frame) : Decidable frame.Blocks :=
  decidable_of_iff _ frame.isSome_primitive?_iff

end Stack.Frame

namespace Blocking

variable {frames : List Stack.Frame}

/-! ## The records -/

/-- The record of a frame that blocks, with the number of the record. -/
def Record.of (threadId : UInt64) (primitive : Primitive) (number : Nat) : Record where
  kind := primitive.kind
  className := primitive.className
  threadId := threadId
  address := UInt64.ofNat number

/-- The record tells of a primitive and of the thread. -/
structure Record.TellsOf (record : Record) (threadId : UInt64) (primitive : Primitive) : Prop where
  kind : record.kind = primitive.kind
  className : record.className = primitive.className
  threadId : record.threadId = threadId

/-- The records go on from the number of those that are there already. -/
theorem toList_foldl_observe (threadId : UInt64) (functions : List String) (r : Records) :
    (functions.foldl (fun r function => r.observe function threadId) r).toList =
      r.toList ++ ((functions.filterMap Primitive.of?).zipIdx (r.toList.length + 1)).map
        fun p => Record.of threadId p.1 p.2 := by
  induction functions generalizing r with
  | nil => simp
  | cons function rest ih =>
      rw [List.foldl_cons, ih]
      unfold Records.observe
      cases hfits : Primitive.of? function with
      | none => simp [hfits]
      | some primitive => simp [hfits, Record.of]

theorem toList_ofFunctions (threadId : UInt64) (frames : List Stack.Frame) :
    (Records.ofFunctions threadId (frames.filterMap Stack.Frame.function)).toList =
      ((frames.filterMap Stack.Frame.primitive?).zipIdx 1).map
        fun p => Record.of threadId p.1 p.2 := by
  have hprimitives : (frames.filterMap Stack.Frame.function).filterMap Primitive.of? =
      frames.filterMap Stack.Frame.primitive? := List.filterMap_filterMap
  unfold Records.ofFunctions
  rw [toList_foldl_observe, hprimitives]
  rfl

/-- There is one record for each frame that blocks, in the order of the frames. -/
theorem forall₂_ofFunctions (threadId : UInt64) (frames : List Stack.Frame) :
    List.Forall₂ (fun frame record =>
        ∃ primitive, frame.BlocksIn primitive ∧ record.TellsOf threadId primitive)
      (frames.filter fun frame => frame.Blocks)
      (Records.ofFunctions threadId (frames.filterMap Stack.Frame.function)).toList := by
  rw [toList_ofFunctions]
  generalize 1 = number
  induction frames generalizing number with
  | nil => exact .nil
  | cons frame rest ih =>
      cases hblocks : frame.primitive? with
      | none =>
          have hnot : ¬ frame.Blocks := Stack.Frame.primitive?_eq_none_iff.1 hblocks
          simpa [hblocks, hnot] using ih number
      | some primitive =>
          have hin : frame.BlocksIn primitive := Stack.Frame.primitive?_eq_some_iff.1 hblocks
          have hdoes : frame.Blocks := ⟨primitive, hin⟩
          simp only [List.filterMap_cons, hblocks, List.zipIdx_cons, List.map_cons,
            List.filter_cons, hdoes, decide_true, if_true]
          exact .cons ⟨primitive, hin, rfl, rfl, rfl⟩ (ih (number + 1))

/-- The addresses are the numbers of the records, as long as these can be told apart. -/
theorem addresses_ofFunctions (threadId : UInt64) (hlength : frames.length < UInt64.size) :
    let records := (Records.ofFunctions threadId (frames.filterMap Stack.Frame.function)).toList
    records.map (fun record => record.address.toNat) = List.range' 1 records.length := by
  intro records
  have hrecords : records = _ := toList_ofFunctions threadId frames
  have hbound : (frames.filterMap Stack.Frame.primitive?).length ≤ frames.length :=
    List.length_filterMap_le _ _
  rw [hrecords, List.map_map, List.length_map, List.length_zipIdx, ← List.zipIdx_map_snd]
  refine List.map_congr_left ?_
  rintro ⟨primitive, number⟩ hmem
  have hnumber := List.snd_lt_of_mem_zipIdx hmem
  exact UInt64.toNat_ofNat_of_lt' (by omega)

/-! ## The entries of a report -/

/-- The entry of a record in a report stands under its address in lowercase hexadecimal, and has
this address in it. -/
structure Record.WrittenUnder (record : Record) (key : String) (entry : Json) : Prop where
  under : key = "0x" ++ String.ofList (Nat.toDigits 16 record.address.toNat)
  address : entry.field? "address" = some (.text key)
  kind : entry.field? "type" = some (.number record.kind.code)
  className : entry.field? "class_name" = some (.text record.className)
  threadId : entry.field? "thread_id" = some (.number record.threadId.toNat)

/-- Records of distinct addresses all have their entries, each under its own key. -/
theorem exists_toJson_eq (r : Records) (hnodup : (r.toList.map Record.address).Nodup) :
    ∃ fields entries, r.toJson = .object fields ∧ (fields.map Prod.fst).Nodup ∧
      fields.Perm entries ∧
      List.Forall₂ (fun record entry => record.WrittenUnder entry.1 entry.2) r.toList entries := by
  let entry := fun record : Record => (Hex.address record.address, Json.ofFields [
      ("type", .number record.kind.code),
      ("address", .text (Hex.address record.address)),
      ("class_name", .text record.className),
      ("thread_id", .number record.threadId.toNat)])
  have hkeys : ((r.toList.map entry).map Prod.fst).Nodup := by
    rw [List.map_map]
    have hinjective : Function.Injective Hex.address := fun _ _ h => Hex.address_inj.1 h
    have hwritten := List.Nodup.map hinjective hnodup
    rwa [List.map_map] at hwritten
  have hperm : (Table.ofList (r.toList.map entry)).entries.Perm (r.toList.map entry) :=
    Table.perm_ofList hkeys
  refine ⟨_, r.toList.map entry, rfl, (hperm.map Prod.fst).nodup_iff.2 hkeys, hperm, ?_⟩
  rw [List.forall₂_map_right_iff, List.forall₂_same]
  intro record _
  refine ⟨?_, ?_, ?_, ?_, ?_⟩
  · rw [← String.toList_inj]
    simp [entry, Hex.address, Hex.ofNat]
  all_goals
    rw [Json.field?_ofFields]
    rfl

/-! ## The state -/

theorem state?_eq_terminated_iff (exited : Bool) (r : Records) :
    state? exited r = some .terminated ↔ exited = true := by
  unfold state?
  cases exited with
  | true => simp
  | false =>
      have hnever : ∀ kind : Kind, kind.state? ≠ some .terminated := by
        intro kind
        cases kind <;> decide
      simp [Option.bind_eq_some_iff, hnever]

/-- The newest frame that blocks decides the state, whatever the older ones are. -/
theorem state?_ofFunctions (threadId : UInt64) (frames : List Stack.Frame) :
    state? false (Records.ofFunctions threadId (frames.filterMap Stack.Frame.function)) =
      (frames.findSome? Stack.Frame.primitive?).bind fun primitive => primitive.kind.state? := by
  unfold state?
  rw [toList_ofFunctions, List.head?_map, List.head?_zipIdx, List.head?_filterMap]
  cases frames.findSome? Stack.Frame.primitive? <;> rfl

end Blocking

end CrashReport
