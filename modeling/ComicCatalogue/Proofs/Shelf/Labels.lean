import ComicCatalogue.Proofs.Shelf.Latest
import ComicCatalogue.Proofs.Slug.Edges

/-!
# Labels and links

The labels of a taxonomy are told apart by number and by slug, their slugs are those of their names,
and links lead from archives to labels. Labelling an archive keeps it so: it makes the labels that
are missing, and changes the links of this archive and no others.
-/

namespace ComicCatalogue

namespace Labelling

/-- Labels have different numbers and the slugs of their names, no two the same and none empty, and
every link, of which there are no two, leads from one of the given archives to a label. -/
structure IsConsistent (labelling : Labelling) (volumes : List Int) : Prop where
  idsNodup : (labelling.labels.map (·.id)).Nodup
  slugsNodup : (labelling.labels.map (·.slug)).Nodup
  slugs : ∀ label ∈ labelling.labels, label.slug = Slug.ofText label.name ∧ label.slug ≠ ""
  linksNodup : labelling.links.Nodup
  links : ∀ link ∈ labelling.links, link.1 ∈ volumes ∧ link.2 ∈ labelling.labels.map (·.id)

/-- The slugs of the labels of an archive. -/
def slugsOf (volume : Int) (labelling : Labelling) : List String :=
  (labelling.labelsOf volume).map (·.slug)

/-- Links a label with an archive, unless it is. -/
def link (volume id : Int) (labelling : Labelling) : Labelling :=
  if labelling.links.contains (volume, id) then labelling
  else { labelling with links := labelling.links ++ [(volume, id)] }

variable {labelling : Labelling} {volumes : List Int} {volume id : Int} {name slug : String}

theorem attach_of_empty (empty : Slug.ofText name = "") :
    labelling.attach volume name = labelling := by
  simp [attach, empty]

/-- To label an archive with a name is to find or make the label and then to link it. -/
theorem attach_of_named (named : Slug.ofText name ≠ "") :
    labelling.attach volume name =
      (labelling.label name (Slug.ofText name)).2.link volume
        (labelling.label name (Slug.ofText name)).1 := by
  simp only [attach, String.isEmpty_iff, named, if_false, link, List.contains_iff_mem]

/-- The label of a slug is found, or it is made under the next number. -/
theorem label_cases (name slug : String) (labelling : Labelling) :
    (∃ label ∈ labelling.labels, label.slug = slug ∧
        labelling.label name slug = (label.id, labelling)) ∨
      slug ∉ labelling.labels.map (·.slug) ∧
        labelling.label name slug = (nextId (labelling.labels.map (·.id)),
          { labelling with labels := labelling.labels ++
              [⟨nextId (labelling.labels.map (·.id)), Text.trim name, slug⟩] }) := by
  unfold Labelling.label
  cases found : labelling.labels.find? (·.slug = slug) with
  | some label =>
    exact .inl ⟨label, List.mem_of_find?_eq_some found, by simpa using List.find?_some found, rfl⟩
  | none =>
    refine .inr ⟨fun member => ?_, rfl⟩
    obtain ⟨label, inLabels, same⟩ := List.mem_map.mp member
    simpa [same] using List.find?_eq_none.mp found label inLabels

theorem IsConsistent.mono (consistent : labelling.IsConsistent volumes) {more : List Int}
    (among : volumes ⊆ more) : labelling.IsConsistent more :=
  { consistent with
    links := fun link member =>
      ⟨among (consistent.links link member).1, (consistent.links link member).2⟩ }

theorem IsConsistent.clear (consistent : labelling.IsConsistent volumes) (volume : Int) :
    (labelling.clear volume).IsConsistent volumes :=
  { consistent with
    linksNodup := consistent.linksNodup.filter _
    links := fun link member => consistent.links link (List.mem_of_mem_filter member) }

theorem IsConsistent.label (consistent : labelling.IsConsistent volumes)
    (named : Slug.ofText name ≠ "") :
    (labelling.label name (Slug.ofText name)).2.IsConsistent volumes := by
  rcases label_cases name (Slug.ofText name) labelling with ⟨_, _, _, found⟩ | ⟨fresh, made⟩
  · rw [found]
    exact consistent
  · rw [made]
    constructor
    · rw [List.map_append, List.nodup_append']
      refine ⟨consistent.idsNodup, List.nodup_singleton _, ?_⟩
      rw [List.map_singleton, List.disjoint_singleton]
      exact Shelf.nextId_notMem _
    · rw [List.map_append, List.nodup_append']
      refine ⟨consistent.slugsNodup, List.nodup_singleton _, ?_⟩
      rw [List.map_singleton, List.disjoint_singleton]
      exact fresh
    · intro label member
      rcases List.mem_append.mp member with old | new
      · exact consistent.slugs label old
      · rw [List.mem_singleton.mp new]
        exact ⟨(Slug.ofText_trim name).symm, named⟩
    · exact consistent.linksNodup
    · intro link member
      obtain ⟨onVolume, toLabel⟩ := consistent.links link member
      exact ⟨onVolume, by rw [List.map_append]; exact List.mem_append_left _ toLabel⟩

theorem IsConsistent.link (consistent : labelling.IsConsistent volumes)
    (onVolume : volume ∈ volumes) (toLabel : id ∈ labelling.labels.map (·.id)) :
    (labelling.link volume id).IsConsistent volumes := by
  unfold Labelling.link
  split
  · exact consistent
  · rename_i unlinked
    rw [List.contains_iff_mem] at unlinked
    refine { consistent with linksNodup := ?_, links := fun link member => ?_ }
    · rw [List.nodup_append']
      exact ⟨consistent.linksNodup, List.nodup_singleton _, List.disjoint_singleton.mpr unlinked⟩
    · rcases List.mem_append.mp member with old | new
      · exact consistent.links link old
      · rw [List.mem_singleton.mp new]
        exact ⟨onVolume, toLabel⟩

theorem IsConsistent.attach (consistent : labelling.IsConsistent volumes)
    (onVolume : volume ∈ volumes) (name : String) :
    (labelling.attach volume name).IsConsistent volumes := by
  by_cases named : Slug.ofText name = ""
  · rwa [attach_of_empty named]
  · rw [attach_of_named named]
    have labelled := consistent.label named
    obtain ⟨_, _, label, inLabels, sameId, _⟩ := label_spec name (Slug.ofText name) labelling
    generalize labelling.label name (Slug.ofText name) = made at labelled inLabels sameId ⊢
    exact labelled.link onVolume (sameId ▸ List.mem_map_of_mem inLabels)

theorem IsConsistent.foldl_attach (consistent : labelling.IsConsistent volumes)
    (onVolume : volume ∈ volumes) (names : List String) :
    (names.foldl (Labelling.attach volume) labelling).IsConsistent volumes := by
  induction names generalizing labelling with
  | nil => exact consistent
  | cons name rest ih =>
    rw [List.foldl_cons]
    exact ih (consistent.attach onVolume name)

theorem IsConsistent.relabel (consistent : labelling.IsConsistent volumes)
    (onVolume : volume ∈ volumes) (names : List String) :
    (labelling.relabel volume names).IsConsistent volumes :=
  (consistent.clear volume).foldl_attach onVolume names

/-! ## What labelling changes -/

/-- Labelling an archive with some names leads from the one labelling to the other. -/
structure Attaches (volume : Int) (names : List String) (before after : Labelling) : Prop where
  /-- Labels are added for slugs that had none, each under the first of the names with its slug. -/
  labels : ∃ added, after.labels = before.labels ++ added ∧ ∀ label ∈ added,
    label.slug ≠ "" ∧ label.slug ∉ before.labels.map (·.slug) ∧
      ∃ name, names.find? (Slug.ofText · = label.slug) = some name ∧ label.name = Text.trim name
  /-- Every name but those without letters and digits has a label. -/
  known : ∀ name ∈ names, Slug.ofText name ≠ "" → Slug.ofText name ∈ after.labels.map (·.slug)
  /-- The links of other archives stay. -/
  others : after.links.filter (·.1 ≠ volume) = before.links.filter (·.1 ≠ volume)
  /-- The archive has the labels of the names besides those that it had. -/
  slugs : ∀ slug, slug ∈ after.slugsOf volume ↔
    slug ∈ before.slugsOf volume ∨ slug ≠ "" ∧ ∃ name ∈ names, Slug.ofText name = slug

theorem Attaches.refl (volume : Int) (labelling : Labelling) :
    Attaches volume [] labelling labelling where
  labels := ⟨[], (List.append_nil _).symm, fun _ member => absurd member List.not_mem_nil⟩
  known _ member := absurd member List.not_mem_nil
  others := rfl
  slugs slug := by simp

theorem Attaches.trans {names more : List String} {before middle after : Labelling}
    (first : Attaches volume names before middle) (second : Attaches volume more middle after) :
    Attaches volume (names ++ more) before after where
  labels := by
    obtain ⟨added, grown, fresh⟩ := first.labels
    obtain ⟨later, grownLater, freshLater⟩ := second.labels
    refine ⟨added ++ later, by rw [grownLater, grown, List.append_assoc], fun label member => ?_⟩
    rcases List.mem_append.mp member with early | late
    · obtain ⟨named, unknown, name, found, same⟩ := fresh label early
      exact ⟨named, unknown, name, by rw [List.find?_append, found, Option.some_or], same⟩
    · obtain ⟨named, unknown, name, found, same⟩ := freshLater label late
      refine ⟨named, fun member => unknown ?_, name, ?_, same⟩
      · rw [grown, List.map_append]
        exact List.mem_append_left _ member
      · -- A name with this slug among the first ones would have made the label.
        have none : names.find? (Slug.ofText · = label.slug) = none := by
          rw [List.find?_eq_none]
          intro other isName same
          have known := first.known other isName
          rw [of_decide_eq_true same] at known
          exact unknown (known named)
        rw [List.find?_append, none, found, Option.none_or]
  known name member named := by
    rcases List.mem_append.mp member with early | late
    · obtain ⟨later, grownLater, _⟩ := second.labels
      rw [grownLater, List.map_append]
      exact List.mem_append_left _ (first.known name early named)
    · exact second.known name late named
  others := second.others.trans first.others
  slugs slug := by
    rw [second.slugs, first.slugs, or_assoc, ← and_or_left]
    simp only [List.mem_append, or_and_right, exists_or]

theorem labels_link (volume id : Int) (labelling : Labelling) :
    (labelling.link volume id).labels = labelling.labels := by
  unfold link
  split <;> rfl

theorem links_link_of_ne (volume id : Int) (labelling : Labelling) :
    (labelling.link volume id).links.filter (·.1 ≠ volume) =
      labelling.links.filter (·.1 ≠ volume) := by
  unfold link
  split
  · rfl
  · simp [List.filter_append]

/-- A link gives an archive the slug of the label that it leads to. -/
theorem mem_slugsOf_link (consistent : labelling.IsConsistent volumes) {label : Label}
    (member : label ∈ labelling.labels) :
    slug ∈ (labelling.link volume label.id).slugsOf volume ↔
      slug ∈ labelling.slugsOf volume ∨ label.slug = slug := by
  have same (other : Label) : other ∈ labelling.labels ∧ other.id = label.id ↔ other = label := by
    constructor
    · rintro ⟨inLabels, same⟩
      exact List.inj_on_of_nodup_map consistent.idsNodup inLabels member same
    · rintro rfl
      exact ⟨member, rfl⟩
  have linked (other : Label) : other ∈ (labelling.link volume label.id).labelsOf volume ↔
      other ∈ labelling.labelsOf volume ∨ other = label := by
    rw [← same]
    unfold Labelling.link
    split
    · rename_i linked
      rw [List.contains_iff_mem] at linked
      simp only [labelsOf, List.mem_filter, decide_eq_true_eq]
      constructor
      · exact .inl
      · rintro (linkedBefore | ⟨inLabels, same⟩)
        · exact linkedBefore
        · exact ⟨inLabels, same ▸ linked⟩
    · simp only [labelsOf, List.mem_filter, decide_eq_true_eq, List.mem_append, List.mem_singleton,
        Prod.mk.injEq, true_and, and_or_left]
  simp only [slugsOf, List.mem_map, linked, or_and_right, exists_or, exists_eq_left]

/-- Linking the label of a name, found or just made, labels an archive with the name. -/
theorem attaches_link {grown : Labelling} (consistent : grown.IsConsistent volumes)
    {label : Label} (member : label ∈ grown.labels) (named : label.slug ≠ "")
    (ofName : Slug.ofText name = label.slug) (links : grown.links = labelling.links)
    (slugs : grown.slugsOf volume = labelling.slugsOf volume)
    (labels : grown.labels = labelling.labels ∨ grown.labels = labelling.labels ++ [label] ∧
      label.slug ∉ labelling.labels.map (·.slug) ∧ label.name = Text.trim name) :
    Attaches volume [name] labelling (grown.link volume label.id) where
  labels := by
    rw [labels_link]
    rcases labels with same | ⟨same, fresh, sameName⟩
    · exact ⟨[], by rw [same, List.append_nil], fun _ member => absurd member List.not_mem_nil⟩
    · refine ⟨[label], same, List.forall_mem_singleton.mpr ⟨named, fresh, name, ?_, sameName⟩⟩
      rw [List.find?_singleton, ofName]
      simp
  known other isName _ := by
    rw [List.mem_singleton.mp isName, ofName, labels_link]
    exact List.mem_map_of_mem member
  others := by rw [links_link_of_ne, links]
  slugs slug := by
    rw [mem_slugsOf_link consistent member, slugs]
    refine or_congr_right ⟨?_, ?_⟩
    · rintro rfl
      exact ⟨named, name, List.mem_singleton_self name, ofName⟩
    · rintro ⟨_, other, isName, same⟩
      rw [List.mem_singleton.mp isName] at same
      exact ofName.symm.trans same

theorem attaches_attach (consistent : labelling.IsConsistent volumes) (volume : Int)
    (name : String) : Attaches volume [name] labelling (labelling.attach volume name) := by
  by_cases named : Slug.ofText name = ""
  · rw [attach_of_empty named]
    have none : ∀ other ∈ [name], Slug.ofText other = "" := List.forall_mem_singleton.mpr named
    refine ⟨⟨[], (List.append_nil _).symm, fun _ member => absurd member List.not_mem_nil⟩,
      fun other isName some => absurd (none other isName) some, rfl, fun slug => ?_⟩
    rw [iff_self_or]
    rintro ⟨some, other, isName, same⟩
    exact absurd (same.symm.trans (none other isName)) some
  · have labelled := consistent.label named
    rw [attach_of_named named]
    rcases label_cases name (Slug.ofText name) labelling with
      ⟨label, member, same, found⟩ | ⟨fresh, made⟩
    · rw [found]
      exact attaches_link consistent member (same ▸ named) same.symm rfl rfl (.inl rfl)
    · -- No link leads to the new label yet.
      have unlinked : (volume, nextId (labelling.labels.map (·.id))) ∉ labelling.links :=
        fun member => Shelf.nextId_notMem _ (consistent.links _ member).2
      rw [made] at labelled ⊢
      generalize nextId (labelling.labels.map (·.id)) = id at labelled unlinked ⊢
      have member : (⟨id, Text.trim name, Slug.ofText name⟩ : Label) ∈
          labelling.labels ++ [⟨id, Text.trim name, Slug.ofText name⟩] :=
        List.mem_append_right _ List.mem_cons_self
      refine attaches_link labelled member named rfl rfl ?_ (.inr ⟨rfl, fresh, rfl⟩)
      simp [slugsOf, labelsOf, List.filter_append, unlinked]

theorem attaches_foldl_attach (consistent : labelling.IsConsistent volumes)
    (onVolume : volume ∈ volumes) (names : List String) :
    Attaches volume names labelling (names.foldl (attach volume) labelling) := by
  induction names generalizing labelling with
  | nil => exact Attaches.refl volume labelling
  | cons name rest ih =>
    rw [List.foldl_cons, ← List.singleton_append]
    exact (attaches_attach consistent volume name).trans (ih (consistent.attach onVolume name))

/-- The labels of an archive are replaced by those of some names. -/
structure Relabels (volume : Int) (names : List String) (before after : Labelling) : Prop where
  /-- Labels are added for the slugs of names that had none, one for each of them and under the
  first of the names with this slug. -/
  labels : ∃ added, after.labels = before.labels ++ added ∧
    (added.map (·.slug)).Nodup ∧
    (∀ slug, slug ∈ added.map (·.slug) ↔ slug ∉ before.labels.map (·.slug) ∧ slug ≠ "" ∧
      ∃ name ∈ names, Slug.ofText name = slug) ∧
    ∀ label ∈ added, ∃ name, names.find? (Slug.ofText · = label.slug) = some name ∧
      label.name = Text.trim name
  /-- The links of other archives stay. -/
  others : after.links.filter (·.1 ≠ volume) = before.links.filter (·.1 ≠ volume)
  /-- The archive has the labels of the names and no others. -/
  slugs : ∀ slug, slug ∈ after.slugsOf volume ↔ slug ≠ "" ∧ ∃ name ∈ names, Slug.ofText name = slug

theorem relabels_relabel (consistent : labelling.IsConsistent volumes) (onVolume : volume ∈ volumes)
    (names : List String) :
    Relabels volume names labelling (labelling.relabel volume names) := by
  have attaches := attaches_foldl_attach (consistent.clear volume) onVolume names
  have after := consistent.relabel onVolume names
  rw [relabel] at after ⊢
  generalize names.foldl (attach volume) (labelling.clear volume) = relabelled at attaches after ⊢
  constructor
  · obtain ⟨added, grown, fresh⟩ := attaches.labels
    have slugsNodup := after.slugsNodup
    rw [grown, List.map_append, List.nodup_append'] at slugsNodup
    refine ⟨added, grown, slugsNodup.2.1, fun slug => ⟨fun member => ?_, ?_⟩, fun label member =>
      (fresh label member).2.2⟩
    · obtain ⟨label, isAdded, rfl⟩ := List.mem_map.mp member
      obtain ⟨named, unknown, name, found, _⟩ := fresh label isAdded
      have same := List.find?_some found
      exact ⟨unknown, named, name, List.mem_of_find?_eq_some found, of_decide_eq_true same⟩
    · rintro ⟨unknown, named, name, isName, rfl⟩
      have known := attaches.known name isName named
      rw [grown, List.map_append, List.mem_append] at known
      exact known.resolve_left unknown
  · rw [attaches.others, clear, List.filter_filter]
    simp
  · intro slug
    have none : slug ∉ (labelling.clear volume).slugsOf volume := by
      simp [slugsOf, labelsOf, clear]
    rw [attaches.slugs, or_iff_right none]

end Labelling

end ComicCatalogue
