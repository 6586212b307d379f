import CrashReport.BuildId

/-!
# Images

An image is a file that has been mapped into a process: the program itself, a
library, or data. The images of a process are kept in the order of their addresses,
so the image that holds an address is found by halving the range to be searched.

Main definitions:

* **`Image`**, **`Image.Holds`** — an image and the addresses in it;
* **`ImageList`** — images in ascending order, each of those given exactly once;
* **`ImageList.holding?`** — the image that holds an address;
* **`ImageList.named?`** — the first image of a file.
-/

namespace CrashReport

/-- A file mapped into a process, from `base` on and before `limit`. Debug information may have been
found beside the image. -/
structure Image where
  file : String
  base : UInt64
  limit : UInt64
  buildId : Option String
  hasDebugInfo : Bool
  deriving DecidableEq, Repr

namespace Image

/-- The number of addresses, zero if the limit stands before the base. -/
def size (i : Image) : UInt64 := if i.limit < i.base then 0 else i.limit - i.base

/-- The address lies in the image. -/
def Holds (i : Image) (address : UInt64) : Prop := i.base ≤ address ∧ address < i.limit

instance (i : Image) (address : UInt64) : Decidable (i.Holds address) :=
  inferInstanceAs (Decidable (_ ∧ _))

/-- The id by which debug information is found. -/
def debugId? (i : Image) : Option DebugId := i.buildId.bind DebugId.ofBuildId?

/-- The id by which the code is found. -/
def codeId? (i : Image) : Option String := i.buildId.map codeId

/-- The order of images by their first addresses. -/
def startsBefore (i j : Image) : Bool := i.base ≤ j.base

theorem startsBefore_trans (i j k : Image) :
    i.startsBefore j → j.startsBefore k → i.startsBefore k := by
  simpa [startsBefore] using UInt64.le_trans

theorem startsBefore_total (i j : Image) : i.startsBefore j || j.startsBefore i := by
  simpa [startsBefore] using UInt64.le_total i.base j.base

end Image

/-- Images in ascending order of their first addresses. -/
structure ImageList where
  images : Array Image
  ascending : images.toList.Pairwise fun i j => i.base ≤ j.base

namespace ImageList

instance : DecidableEq ImageList := fun a b =>
  decidable_of_iff (a.images = b.images) (by cases a; cases b; simp)

/-- No images. -/
def empty : ImageList := ⟨#[], .nil⟩

instance : Inhabited ImageList := ⟨empty⟩

/-- The images put in order; images that start at one address keep the order given. -/
def ofList (images : List Image) : ImageList where
  images := (images.mergeSort Image.startsBefore).toArray
  ascending := by
    have h := @List.pairwise_mergeSort _ Image.startsBefore Image.startsBefore_trans
      Image.startsBefore_total images
    simpa [Image.startsBefore] using h

/-- The images in order. -/
def toList (l : ImageList) : List Image := l.images.toList

/-- How many images there are. -/
def size (l : ImageList) : Nat := l.images.size

/-- There is no image. -/
def isEmpty (l : ImageList) : Bool := l.images.isEmpty

/-- The place of the last of `count` images from `low` on that starts at or before the
address; `low` if none does. -/
def search (images : Array Image) (address : UInt64) (low count : Nat)
    (bound : low + count ≤ images.size) : Nat :=
  if single : count ≤ 1 then low
  else
    let half := count / 2
    if address < images[low + half].base then
      search images address low (count - half) (by omega)
    else
      search images address (low + half) (count - half) (by omega)
termination_by count

/-- The image that holds an address, found by halving. -/
def holding? (l : ImageList) (address : UInt64) : Option Image :=
  (l.images[search l.images address 0 l.images.size (by omega)]?).filter fun image =>
    image.Holds address

/-- The first image of a file. -/
def named? (l : ImageList) (file : String) : Option Image :=
  l.toList.find? fun image => image.file = file

theorem perm_toList_ofList (images : List Image) : (ofList images).toList.Perm images := by
  simpa [ofList, toList] using List.mergeSort_perm images Image.startsBefore

theorem holds_of_holding?_eq_some {l : ImageList} {address : UInt64} {image : Image}
    (h : l.holding? address = some image) : image.Holds address := by
  simpa using (Option.filter_eq_some_iff.1 h).2

end ImageList

end CrashReport
