import ComicCatalogue.Selection.Depth

/-!
# How deep rows of conditions are

In a row of conditions all of which have to hold, each adds one level to the depth, as long as none
is deeper than the first.
-/

namespace ComicCatalogue

/-- Operands that are no deeper than the first add one level each. -/
theorem Depth.foldl_operator_of_le {depths : List Nat} {first : Nat}
    (below : ∀ depth ∈ depths, depth ≤ first) :
    depths.foldl operator first = first + depths.length := by
  induction depths generalizing first with
  | nil => rfl
  | cons depth rest ih =>
    obtain ⟨next, later⟩ := List.forall_mem_cons.mp below
    have grown : operator first depth = first + 1 := by rw [operator, Nat.max_eq_left next]
    rw [List.foldl_cons, grown, ih fun other member => Nat.le_succ_of_le (later other member),
      List.length_cons]
    omega

theorem Depth.foldl_max_of_le {values : List Nat} {first : Nat}
    (below : ∀ value ∈ values, value ≤ first) :
    values.foldl max first = first := by
  induction values with
  | nil => rfl
  | cons value rest ih =>
    obtain ⟨next, later⟩ := List.forall_mem_cons.mp below
    rw [List.foldl_cons, Nat.max_eq_left next, ih later]

namespace Condition

/-- Among look-ups of slugs all of which have to succeed, each adds a level to the depth. -/
theorem depth_linked (which : Taxonomy) {slugs : List String} (some : slugs ≠ []) :
    depth (slugs.map (fun slug => linked which (.equals slug)) ++ [visible]) =
      slugs.length + 11 := by
  obtain ⟨slug, rest, rfl⟩ := List.exists_cons_of_ne_nil some
  have parts : ((slug :: rest).map (fun slug => linked which (.equals slug)) ++
      [visible]).flatMap depths = 5 :: (rest.map (fun _ => 5) ++ [3, 3]) := by
    simp only [List.map_cons, List.cons_append, List.flatMap_cons, List.flatMap_append,
      List.flatMap_map]
    rw [List.map_eq_flatMap]
    rfl
  have tests : ((slug :: rest).map (fun slug => linked which (.equals slug)) ++
      [visible]).flatMap lookups = (slug :: rest).map .equals := by
    simp [lookups, List.flatMap_map, ← List.map_eq_flatMap]
  have outer : Depth.chain (5 :: (rest.map (fun _ => 5) ++ [3, 3])) = rest.length + 7 := by
    have below : ∀ depth ∈ rest.map (fun _ => 5) ++ [3, 3], depth ≤ 5 := by
      intro depth member
      simp at member
      omega
    rw [Depth.chain, Depth.foldl_operator_of_le below]
    simp
    omega
  have inner : (((slug :: rest).map .equals).map SlugTest.innerDepth).foldl max 0 = 5 := by
    rw [List.map_cons, List.map_cons, List.foldl_cons]
    refine Depth.foldl_max_of_le fun depth member => ?_
    simp only [List.map_map, List.mem_map] at member
    obtain ⟨_, _, rfl⟩ := member
    exact Nat.le_refl 5
  rw [depth, parts, tests, outer, inner]
  simp

/-- A condition with a single test is never too deep. -/
theorem depth_single_le (which : Taxonomy) (test : SlugTest) :
    depth [linkedAny which [test], visible] ≤ Depth.maximum ∧
      depth [unlinked which test, visible] ≤ Depth.maximum ∧
      depth [title test, visible] ≤ Depth.maximum := by
  cases test <;>
    simp [depth, depths, lookups, SlugTest.lookupDepth, SlugTest.innerDepth, SlugTest.depth,
      SlugTest.linkDepth, Depth.chain, Depth.operator, Depth.column, Depth.pattern, Depth.value,
      Depth.maximum]

end Condition

end ComicCatalogue
