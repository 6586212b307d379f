import CrashReport.Image

/-!
# The order of images

Images are put in the order of their first addresses, and those that start at one address keep the
order in which they were given.

* **`ImageList.InOrder`** — images in this order. There is one such order of given images
  (`InOrder.unique`), and they are put in it (`ImageList.inOrder_ofList`).
-/

namespace CrashReport.ImageList

/-- These are the images given, in ascending order, and those that start at one address stand as
they were given. -/
structure InOrder (given images : List Image) : Prop where
  perm : images.Perm given
  ascending : images.Pairwise fun i j => i.base ≤ j.base
  ties : ∀ base, images.filter (·.base = base) = given.filter (·.base = base)

variable {given images others : List Image}

theorem mem_iff_of_ties
    (hties : ∀ base : UInt64, images.filter (·.base = base) = others.filter (·.base = base))
    (image : Image) : image ∈ images ↔ image ∈ others := by
  have hsame : image ∈ images.filter (·.base = image.base) ↔
      image ∈ others.filter (·.base = image.base) := by rw [hties]
  simpa using hsame

/-- The first of ascending images starts at or before each of them. -/
theorem base_le_of_mem {i j : Image} (h : (i :: images).Pairwise fun i j => i.base ≤ j.base)
    (hj : j ∈ i :: images) : i.base ≤ j.base := by
  rcases List.mem_cons.1 hj with rfl | hj
  · exact UInt64.le_refl _
  · exact (List.pairwise_cons.1 h).1 j hj

/-- Ascending images are known from those that start at each address. -/
theorem eq_of_ties (h : images.Pairwise fun i j => i.base ≤ j.base)
    (h' : others.Pairwise fun i j => i.base ≤ j.base)
    (hties : ∀ base : UInt64, images.filter (·.base = base) = others.filter (·.base = base)) :
    images = others := by
  have hmem := mem_iff_of_ties hties
  induction images generalizing others with
  | nil =>
      cases others with
      | nil => rfl
      | cons j others => exact absurd ((hmem j).2 List.mem_cons_self) List.not_mem_nil
  | cons i images ih =>
      cases others with
      | nil => exact absurd ((hmem i).1 List.mem_cons_self) List.not_mem_nil
      | cons j others =>
          -- both start at the least address, and there they agree
          have hbase : j.base = i.base := UInt64.le_antisymm
            (base_le_of_mem h' ((hmem i).1 List.mem_cons_self))
            (base_le_of_mem h ((hmem j).2 List.mem_cons_self))
          have hfirst := hties i.base
          rw [List.filter_cons_of_pos (by simp), List.filter_cons_of_pos (by simp [hbase])] at hfirst
          obtain rfl : i = j := (List.cons.inj hfirst).1
          have hrest : ∀ base : UInt64,
              images.filter (·.base = base) = others.filter (·.base = base) := by
            intro base
            have hboth := hties base
            rw [List.filter_cons, List.filter_cons] at hboth
            split at hboth
            · exact (List.cons.inj hboth).2
            · exact hboth
          rw [ih h.of_cons h'.of_cons hrest (mem_iff_of_ties hrest)]

theorem InOrder.unique (h : InOrder given images) (h' : InOrder given others) : images = others :=
  eq_of_ties h.ascending h'.ascending fun base => (h.ties base).trans (h'.ties base).symm

/-- Images that start at one address keep their order. -/
theorem filter_toList_ofList (images : List Image) (base : UInt64) :
    (ofList images).toList.filter (·.base = base) = images.filter (·.base = base) := by
  have hsame : (images.filter (·.base = base)).Pairwise fun i j => i.startsBefore j := by
    refine List.pairwise_of_forall_mem_list fun i hi j hj => ?_
    have hibase : i.base = base := of_decide_eq_true (List.mem_filter.1 hi).2
    have hjbase : j.base = base := of_decide_eq_true (List.mem_filter.1 hj).2
    simp [Image.startsBefore, hibase, hjbase]
  have hsublist : (images.filter (·.base = base)).Sublist
      ((ofList images).toList.filter (·.base = base)) := by
    have hsorted := (List.sublist_mergeSort Image.startsBefore_trans Image.startsBefore_total
      hsame List.filter_sublist).filter (·.base = base)
    simpa [ofList, toList] using hsorted
  exact (hsublist.eq_of_length ((perm_toList_ofList images).filter _).length_eq.symm).symm

theorem inOrder_ofList (images : List Image) : InOrder images (ofList images).toList :=
  ⟨perm_toList_ofList images, (ofList images).ascending, filter_toList_ofList images⟩

end CrashReport.ImageList
