import CrashReport.Image
import Mathlib.Data.List.Chain
import Mathlib.Data.List.Permutation

/-!
# Looking up addresses

The image that holds an address is found by halving. That is the image which a search through all
images would find, as long as no image reaches into the next one. An image may then be empty, and
it may start where the one before it ends.

* **`ImageList.Apart`** — images that do not reach into one another;
* **`ImageList.LastStarting`** — the last of some images that starts at or before an address.
  Halving ends there (`lastStarting_search`);
* **`ImageList.holding?_eq_some_iff`** — the image that is found is the one that holds the address;
* **`ImageList.holding?_ofList`** — so it is for images given in any order.
-/

namespace CrashReport.ImageList

/-- No image ends before it starts, and each ends at or before the start of the next one. -/
structure Apart (images : List Image) : Prop where
  ends : ∀ image ∈ images, image.base ≤ image.limit
  next : images.IsChain fun i j => i.limit ≤ j.base

instance (images : List Image) : Decidable (Apart images) :=
  decidable_of_iff ((∀ image ∈ images, image.base ≤ image.limit) ∧
    images.IsChain fun i j => i.limit ≤ j.base)
    ⟨fun h => ⟨h.1, h.2⟩, fun h => ⟨h.ends, h.next⟩⟩

theorem Apart.tail {image : Image} {rest : List Image} (h : Apart (image :: rest)) : Apart rest :=
  ⟨fun other hother => h.ends other (List.mem_cons_of_mem image hother), h.next.tail⟩

/-- An image ends at or before the start of every later one. -/
theorem Apart.pairwise {images : List Image} (h : Apart images) :
    images.Pairwise fun i j => i.limit ≤ j.base := by
  induction images with
  | nil => exact .nil
  | cons i rest ih =>
      refine List.pairwise_cons.2 ⟨?_, ih h.tail⟩
      cases rest with
      | nil =>
          intro j hj
          cases hj
      | cons k rest =>
          have hik : i.limit ≤ k.base := (List.isChain_cons_cons.1 h.next).1
          intro j hj
          rcases List.mem_cons.1 hj with rfl | hj
          · exact hik
          · -- the image between them may be empty, but it does not end before it starts
            have hk : k.base ≤ k.limit := h.tail.ends k List.mem_cons_self
            have hkj : k.limit ≤ j.base := (List.pairwise_cons.1 (ih h.tail)).1 j hj
            exact UInt64.le_trans hik (UInt64.le_trans hk hkj)

/-! ## Halving -/

variable {l : ImageList} {address : UInt64}

theorem base_le_of_le (l : ImageList) {i j : Nat} (hij : i ≤ j) (hj : j < l.images.size) :
    l.images[i].base ≤ l.images[j].base := by
  rcases Nat.eq_or_lt_of_le hij with rfl | hlt
  · exact UInt64.le_refl _
  · exact List.pairwise_iff_getElem.1 l.ascending i j (by rw [Array.length_toList]; omega) hj hlt

theorem Apart.limit_le_base (h : Apart l.toList) {i j : Nat} (hij : i < j)
    (hj : j < l.images.size) : l.images[i].limit ≤ l.images[j].base :=
  List.pairwise_iff_getElem.1 h.pairwise i j (Nat.lt_trans hij hj) hj hij

/-- Of the images from `low` to before `stop`, the one at `place` is the last that starts at or
before the address. If there is none `place` is `low`. -/
structure LastStarting (images : Array Image) (address : UInt64) (low stop place : Nat) :
    Prop where
  low_le : low ≤ place
  lt_stop : place < stop
  starts : low < place → ∀ h : place < images.size, images[place].base ≤ address
  later : ∀ other (h : other < images.size), place < other → other < stop →
    address < images[other].base

theorem lastStarting_search (l : ImageList) (address : UInt64) {low count : Nat}
    (bound : low + count ≤ l.images.size) (hcount : 0 < count) :
    LastStarting l.images address low (low + count)
      (search l.images address low count bound) := by
  fun_induction search l.images address low count bound with
  | case1 low count bound hsingle =>
      refine ⟨Nat.le_refl _, by omega, fun h => by omega, ?_⟩
      intro other _ hlow hstop
      omega
  | case2 low count bound hmany half hbefore ih =>
      obtain ⟨hlow, hstop, hstarts, hlater⟩ := ih (by omega)
      refine ⟨hlow, by omega, hstarts, ?_⟩
      intro other hother hplace hend
      rcases Nat.lt_or_ge other (low + (count - half)) with hnear | hfar
      · exact hlater other hother hplace hnear
      · -- what was left out starts behind the image in the middle
        exact UInt64.lt_of_lt_of_le hbefore (l.base_le_of_le (by omega) hother)
  | case3 low count bound hmany half hnot ih =>
      have hend : low + half + (count - half) = low + count := by omega
      obtain ⟨hlow, hstop, hstarts, hlater⟩ := ih (by omega)
      rw [hend] at hstop hlater
      refine ⟨by omega, hstop, ?_, hlater⟩
      intro _ hplace
      rcases Nat.eq_or_lt_of_le hlow with heq | hlt
      · simpa [← heq] using UInt64.not_lt.1 hnot
      · exact hstarts hlt hplace

/-! ## The image that holds an address -/

/-- An image that holds the address is the last that starts at or before it. -/
theorem search_eq_of_holds (h : Apart l.toList) {place : Nat} (hplace : place < l.images.size)
    (hholds : l.images[place].Holds address) :
    search l.images address 0 l.images.size (by omega) = place := by
  have hlast : LastStarting l.images address 0 l.images.size
      (search l.images address 0 l.images.size (by omega)) := by
    simpa using lastStarting_search l address
      (show 0 + l.images.size ≤ l.images.size by omega) (by omega)
  rcases Nat.lt_trichotomy (search l.images address 0 l.images.size (by omega)) place
    with hlt | heq | hgt
  · have hbehind := hlast.later place hplace hlt hplace
    exact absurd hholds.1 (UInt64.not_le.2 hbehind)
  · exact heq
  · -- the image that is found starts at or before the address, so the other one ends before it
    have hends := h.limit_le_base hgt hlast.lt_stop
    have hstarts := hlast.starts (by omega) hlast.lt_stop
    exact absurd hholds.2 (UInt64.not_lt.2 (UInt64.le_trans hends hstarts))

theorem holding?_eq_some_iff (h : Apart l.toList) {image : Image} :
    l.holding? address = some image ↔ image ∈ l.toList ∧ image.Holds address := by
  constructor
  · intro hfound
    have hmem := Array.mem_of_getElem? (Option.filter_eq_some_iff.1 hfound).1
    exact ⟨Array.mem_toList_iff.2 hmem, holds_of_holding?_eq_some hfound⟩
  · rintro ⟨hmem, hholds⟩
    obtain ⟨place, hplace, rfl⟩ := Array.getElem_of_mem (Array.mem_toList_iff.1 hmem)
    unfold holding?
    rw [search_eq_of_holds h hplace hholds, Array.getElem?_eq_getElem hplace]
    simpa using hholds

/-- No address is in two of the images. -/
theorem Apart.countP_holds_le_one {images : List Image} (h : Apart images) (address : UInt64) :
    images.countP (fun image => image.Holds address) ≤ 1 := by
  induction images with
  | nil => simp
  | cons image rest ih =>
      by_cases hholds : image.Holds address
      · have hnone : rest.countP (fun image => image.Holds address) = 0 := by
          rw [List.countP_eq_zero]
          intro other hother hboth
          have hends := (List.pairwise_cons.1 h.pairwise).1 other hother
          have hstarts : other.base ≤ address := (of_decide_eq_true hboth).1
          exact UInt64.not_lt.2 (UInt64.le_trans hends hstarts) hholds.2
        simp [hholds, hnone]
      · simpa [hholds] using ih h.tail

/-- For all images that do not reach into one another once they have been put in order, and for
every address: the image found by halving is the one that a search through the images as they were
given finds. No address is in two of them, and the list has every image as often as it was given.

Images that start at one address keep the order in which they were given, so all of them but the
last must be empty. -/
theorem holding?_ofList {images : List Image} (h : Apart (ofList images).toList)
    (address : UInt64) :
    (ofList images).holding? address = images.find? (fun image => image.Holds address) ∧
    (∀ image, (ofList images).holding? address = some image ↔
      image ∈ images ∧ image.Holds address) ∧
    images.countP (fun image => image.Holds address) ≤ 1 ∧
    (ofList images).toList.Perm images := by
  have hperm := perm_toList_ofList images
  have hfound : ∀ image, (ofList images).holding? address = some image ↔
      image ∈ images ∧ image.Holds address := by
    intro image
    rw [holding?_eq_some_iff h, hperm.mem_iff]
  refine ⟨?_, hfound, ?_, hperm⟩
  · cases hsearch : images.find? fun image => image.Holds address with
    | some image =>
        have hholds := List.find?_some hsearch
        exact (hfound image).2 ⟨List.mem_of_find?_eq_some hsearch, of_decide_eq_true hholds⟩
    | none =>
        rw [Option.eq_none_iff_forall_ne_some]
        intro image hsome
        obtain ⟨hmem, hholds⟩ := (hfound image).1 hsome
        exact List.find?_eq_none.1 hsearch image hmem (decide_eq_true hholds)
  · rw [← hperm.countP_eq]
    exact h.countP_holds_le_one address

/-- Images that touch, two of them empty, in some order. -/
def touching : List Image :=
  [{ file := "last", base := 300, limit := 0xffffffffffffffff, buildId := none,
     hasDebugInfo := false },
   { file := "empty", base := 200, limit := 200, buildId := none, hasDebugInfo := false },
   { file := "second", base := 200, limit := 300, buildId := none, hasDebugInfo := false },
   { file := "apart", base := 50, limit := 50, buildId := none, hasDebugInfo := false },
   { file := "first", base := 100, limit := 200, buildId := none, hasDebugInfo := false }]

/-- The last address of all is in no image, since images end before it. -/
theorem holding?_ofList_touching : Apart (ofList touching).toList ∧
    ([0, 50, 99, 100, 199, 200, 299, 300, 0xfffffffffffffffe, 0xffffffffffffffff].map
      fun address => ((ofList touching).holding? address).map Image.file) =
    [none, none, none, some "first", some "first", some "second", some "second", some "last",
      some "last", none] := by
  have hapart : Apart (ofList touching).toList := by
    cbv
    decide
  refine ⟨hapart, ?_⟩
  simp only [fun address => (holding?_ofList hapart address).1]
  decide

/-- The order of images that start at one address counts: here the first one is not empty. -/
example : (ofList [⟨"a", 5, 10, none, false⟩, ⟨"b", 5, 5, none, false⟩]).holding? 7 = none := by
  cbv

end CrashReport.ImageList
