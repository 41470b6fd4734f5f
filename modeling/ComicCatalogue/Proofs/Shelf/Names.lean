import ComicCatalogue.Proofs.Catalogue.Limits
import ComicCatalogue.Proofs.Search.Phrases
import ComicCatalogue.Proofs.Selection.Depth
import ComicCatalogue.Proofs.Shelf.Latest
import ComicCatalogue.Proofs.Shelf.Lines

/-!
# Searching by name

What was put on the shelf under a name is found by the name: in quotes, behind the name of the
taxonomy. The names of an archive and those of a search go different ways, the ones through labels
and the others through directives and queries, and both end in the same slugs.
-/

namespace ComicCatalogue

open Search (IsPhrase Reading phraseLine slotHeading)

/-- A name that can be searched for: it has letters or digits, and it can stand in quotes. -/
structure IsSearchable (name : String) : Prop where
  closed : '"' ∉ name.toList
  named : Slug.ofText name ≠ ""

theorem IsSearchable.isPhrase {name : String} (searchable : IsSearchable name) : IsPhrase name where
  closed := searchable.closed
  notBlank blank := by
    have named := searchable.named
    rw [← Slug.ofText_trim, blank] at named
    exact named Slug.ofText_empty

/-- A name that has the slug of a part in its own has a slug. -/
theorem IsSearchable.named_of_isInfix {part name : String} (searchable : IsSearchable part)
    (inside : (Slug.ofText part).toList <:+: (Slug.ofText name).toList) :
    Slug.ofText name ≠ "" := by
  intro empty
  rw [empty, String.toList_empty, List.infix_nil, String.toList_eq_nil_iff] at inside
  exact searchable.named inside

namespace Selection

variable {names : List String} (seen : List String)

/-- The conditions of a line that constrains one taxonomy by names. -/
theorem conditions_ofLine_slot (which : Taxonomy) (slot : Slot) (some : names ≠ [])
    (searchable : ∀ name ∈ names, IsSearchable name) :
    (ofLine seen (phraseLine (slotHeading which slot) names)).conditions =
      Condition.ofFilter which (({} : TaxonomyFilter).add slot (Draft.canonicalValues names)) ++
        [.visible] := by
  have arePhrases : ∀ name ∈ names, IsPhrase name := fun name member =>
    (searchable name member).isPhrase
  have query : (ofLine seen (phraseLine (slotHeading which slot) names)).conditions =
      Condition.ofQuery (.ofLine seen (phraseLine (slotHeading which slot) names)) := rfl
  rw [query, Query.ofLine_eq_settled, Reading.directives_slotHeading arePhrases which slot some,
    Condition.ofQuery_of_slot, Draft.canonicalValues_map_trim]

/-- The conditions of a line that constrains one taxonomy by one name. -/
theorem conditions_ofLine_single (which : Taxonomy) (slot : Slot) {name : String}
    (searchable : IsSearchable name) :
    (ofLine seen (phraseLine (slotHeading which slot) [name])).conditions =
      Condition.ofFilter which (({} : TaxonomyFilter).add slot [Slug.ofText name]) ++
        [.visible] := by
  rw [← Draft.canonicalValues_singleton searchable.named]
  exact conditions_ofLine_slot seen which slot (List.cons_ne_nil name [])
    (List.forall_mem_singleton.mpr searchable)

/-- The conditions of a line that asks for all of some names. -/
theorem conditions_ofLine_all (which : Taxonomy) (some : names ≠ [])
    (searchable : ∀ name ∈ names, IsSearchable name) :
    (ofLine seen (phraseLine (which.name ++ "&") names)).conditions =
      (Draft.canonicalValues names).map (fun slug => .linked which (.equals slug)) ++
        [.visible] := by
  have same := conditions_ofLine_slot seen which ⟨.allOf, false⟩ some searchable
  have filter (slugs : List String) :
      Condition.ofFilter which (({} : TaxonomyFilter).add ⟨.allOf, false⟩ slugs) =
        slugs.map fun slug => .linked which (.equals slug) := by
    simp [Condition.ofFilter, TaxonomyFilter.add]
  rw [filter] at same
  exact same

/-- The conditions of a line that constrains the title. -/
theorem conditions_ofLine_title {title : String} (searchable : IsSearchable title) :
    (ofLine seen (phraseLine "title" [title])).conditions =
      [.title (.equals (Slug.ofText title)), .visible] := by
  have arePhrases : ∀ phrase ∈ [title], IsPhrase phrase :=
    List.forall_mem_singleton.mpr searchable.isPhrase
  have named : Slug.ofText (Text.trim title) ≠ "" := by
    rw [Slug.ofText_trim]
    exact searchable.named
  have query : (ofLine seen (phraseLine "title" [title])).conditions =
      Condition.ofQuery (.ofLine seen (phraseLine "title" [title])) := rfl
  rw [query, Query.ofLine_eq_settled, Reading.directives_title arePhrases (List.cons_ne_nil _ _),
    List.map_singleton, Condition.ofQuery_of_title named, Slug.ofText_trim]

end Selection

namespace Shelf

/-- A search line selects an archive. -/
def Finds (shelf : Shelf) (seen : List String) (line : String) (volume : Volume) : Prop :=
  ∃ ids, shelf.found seen line = .ok ids ∧ volume.id ∈ ids

/-- A search line is answered and does not select an archive. -/
def LeavesOut (shelf : Shelf) (seen : List String) (line : String) (volume : Volume) : Prop :=
  ∃ ids, shelf.found seen line = .ok ids ∧ volume.id ∉ ids

/-- An archive has the title that it was put with, and is found by it and by the names. -/
structure FindsByNames (shelf : Shelf) (seen : List String) (volume : Volume) (new : NewArchive) :
    Prop where
  title : volume.title = new.title
  /-- Each name selects the archive. -/
  byName : ∀ taxonomy, ∀ name ∈ new.names.get taxonomy, IsSearchable name →
    shelf.Finds seen (phraseLine taxonomy.name [name]) volume
  /-- Behind a hyphen no name does. -/
  exceptName : ∀ taxonomy, ∀ name ∈ new.names.get taxonomy, IsSearchable name →
    shelf.LeavesOut seen (phraseLine ("-" ++ taxonomy.name) [name]) volume
  /-- Any of the names together select the archive, up to 989 different slugs. -/
  byAll : ∀ taxonomy, ∀ names ⊆ new.names.get taxonomy, names ≠ [] →
    (∀ name ∈ names, IsSearchable name) → (names.map Slug.ofText).dedup.length ≤ 989 →
      shelf.Finds seen (phraseLine (taxonomy.name ++ "&") names) volume
  /-- More slugs are refused. -/
  tooMany : ∀ (taxonomy : Taxonomy) (names : List String), (∀ name ∈ names, IsSearchable name) →
    989 < (names.map Slug.ofText).dedup.length →
      shelf.found seen (phraseLine (taxonomy.name ++ "&") names) =
        .error (.database .conditionsTooDeep)
  /-- A name whose slug is part of the slug of one of the names selects the archive as a wildcard,
  up to the largest pattern. -/
  byPart : ∀ taxonomy, ∀ name ∈ new.names.get taxonomy, ∀ part, IsSearchable part →
    (Slug.ofText part).toList <:+: (Slug.ofText name).toList →
      Like.patternBytes (Like.within (Slug.ofText part).toList) ≤ Like.maxPatternBytes →
        shelf.Finds seen (phraseLine (taxonomy.name ++ "*") [part]) volume
  /-- A longer one is refused. -/
  tooLong : ∀ taxonomy, ∀ name ∈ new.names.get taxonomy, ∀ part, IsSearchable part →
    (Slug.ofText part).toList <:+: (Slug.ofText name).toList →
      Like.maxPatternBytes < Like.patternBytes (Like.within (Slug.ofText part).toList) →
        shelf.found seen (phraseLine (taxonomy.name ++ "*") [part]) =
          .error (.database .patternTooComplex)
  /-- The title selects the archive. -/
  byTitle : IsSearchable new.title → shelf.Finds seen (phraseLine "title" [new.title]) volume

section

variable {shelf : Shelf} {seen : List String} {volume : Volume} {new : NewArchive}
  {line : String} {conditions : List Condition} {taxonomy : Taxonomy}

theorem finds_of_holds (sound : shelf.Sound) (member : volume ∈ shelf.volumes)
    (same : (Selection.ofLine seen line).conditions = conditions)
    (shallow : Condition.depth conditions ≤ Depth.maximum)
    (short : ¬Condition.HasOverlong (conditions.flatMap Condition.patterns))
    (holds : ∀ condition ∈ conditions, condition.holds shelf volume) :
    shelf.Finds seen line volume := by
  obtain ⟨ids, answered, selects_iff⟩ := found_of_accepted sound same shallow short
  exact ⟨ids, answered, (selects_iff volume member).mpr holds⟩

theorem leavesOut_of_not_holds (sound : shelf.Sound) (member : volume ∈ shelf.volumes)
    (same : (Selection.ofLine seen line).conditions = conditions)
    (shallow : Condition.depth conditions ≤ Depth.maximum)
    (short : ¬Condition.HasOverlong (conditions.flatMap Condition.patterns))
    {condition : Condition} (asked : condition ∈ conditions)
    (fails : ¬condition.holds shelf volume) : shelf.LeavesOut seen line volume := by
  obtain ⟨ids, answered, selects_iff⟩ := found_of_accepted sound same shallow short
  exact ⟨ids, answered, fun selected =>
    fails ((selects_iff volume member).mp selected condition asked)⟩

theorem finds_title (sound : shelf.Sound) (member : volume ∈ shelf.volumes)
    (visible : volume.isVisible) (searchable : IsSearchable volume.title) :
    shelf.Finds seen (phraseLine "title" [volume.title]) volume := by
  have same := Selection.conditions_ofLine_title seen searchable
  have slug := sound.slugs volume member
  generalize Slug.ofText volume.title = wanted at same slug
  refine finds_of_holds sound member same (Condition.depth_single_le .tag _).2.2
    not_hasOverlong_nil ?_
  refine List.forall_mem_cons.mpr ⟨?_, List.forall_mem_singleton.mpr visible⟩
  simp [Condition.holds, SlugTest.passes, slug]

theorem found_of_too_many {names : List String} (searchable : ∀ name ∈ names, IsSearchable name)
    (many : 989 < (names.map Slug.ofText).dedup.length) :
    shelf.found seen (phraseLine (taxonomy.name ++ "&") names) =
      .error (.database .conditionsTooDeep) := by
  have some : names ≠ [] := by
    rintro rfl
    cases many
  have same := Selection.conditions_ofLine_all seen taxonomy some searchable
  rw [← Draft.length_canonicalValues fun name isName => (searchable name isName).named] at many
  refine found_of_deep same ?_
  have nonempty : Draft.canonicalValues names ≠ [] := List.ne_nil_of_length_pos (by omega)
  rw [Condition.depth_linked taxonomy nonempty, Depth.maximum]
  omega

end

section

variable {shelf : Shelf} {seen : List String} {volume : Volume} {new : NewArchive}
  {taxonomy : Taxonomy} (carries : shelf.Carries volume new)
include carries

/-- The slugs of its names are among those that the labels of an archive have. -/
theorem Carries.mem_slugs {name : String} (isName : name ∈ new.names.get taxonomy)
    (named : Slug.ofText name ≠ "") :
    Slug.ofText name ∈ (shelf.labelsOf taxonomy volume).map (·.slug) := by
  obtain ⟨label, onVolume, same⟩ := carries.labels taxonomy name isName named
  exact List.mem_map.mpr ⟨label, onVolume, same⟩

theorem Carries.finds_all (sound : shelf.Sound) (member : volume ∈ shelf.volumes)
    (visible : volume.isVisible) {names : List String} (areNames : names ⊆ new.names.get taxonomy)
    (some : names ≠ []) (searchable : ∀ name ∈ names, IsSearchable name)
    (few : (names.map Slug.ofText).dedup.length ≤ 989) :
    shelf.Finds seen (phraseLine (taxonomy.name ++ "&") names) volume := by
  have same := Selection.conditions_ofLine_all seen taxonomy some searchable
  rw [← Draft.length_canonicalValues fun name isName => (searchable name isName).named] at few
  have linked : ∀ slug ∈ Draft.canonicalValues names,
      slug ∈ (shelf.labelsOf taxonomy volume).map (·.slug) := by
    intro slug asked
    obtain ⟨notEmpty, name, isName, rfl⟩ := Draft.mem_canonicalValues.mp asked
    exact carries.mem_slugs (areNames isName) notEmpty
  have nonempty : Draft.canonicalValues names ≠ [] := by
    obtain ⟨name, more, rfl⟩ := List.exists_cons_of_ne_nil some
    refine List.ne_nil_of_mem (Draft.mem_canonicalValues.mpr ⟨?_, name, List.mem_cons_self, rfl⟩)
    exact (searchable name List.mem_cons_self).named
  generalize Draft.canonicalValues names = slugs at same few linked nonempty
  refine finds_of_holds sound member same ?_ ?_ ?_
  · rw [Condition.depth_linked taxonomy nonempty, Depth.maximum]
    omega
  · rintro ⟨pattern, isPattern, _⟩
    simp [List.flatMap_map, Condition.patterns, SlugTest.patterns] at isPattern
  · intro condition asked
    rcases List.mem_append.mp asked with isLookup | isVisible
    · obtain ⟨slug, isSlug, rfl⟩ := List.mem_map.mp isLookup
      exact Condition.holds_linked_equals_iff.mpr (linked slug isSlug)
    · rw [List.mem_singleton.mp isVisible]
      exact visible

variable {name : String} (isName : name ∈ new.names.get taxonomy)
include isName

theorem Carries.finds_name (sound : shelf.Sound) (member : volume ∈ shelf.volumes)
    (visible : volume.isVisible) (searchable : IsSearchable name) :
    shelf.Finds seen (phraseLine taxonomy.name [name]) volume := by
  have same : (Selection.ofLine seen _).conditions =
      [.linkedAny taxonomy [.equals (Slug.ofText name)], .visible] :=
    Selection.conditions_ofLine_single seen taxonomy ⟨.anyOf, false⟩ searchable
  have linked := carries.mem_slugs isName searchable.named
  generalize Slug.ofText name = slug at same linked
  refine finds_of_holds sound member same (Condition.depth_single_le _ _).1 not_hasOverlong_nil ?_
  refine List.forall_mem_cons.mpr ⟨?_, List.forall_mem_singleton.mpr visible⟩
  exact Condition.holds_linkedAny_iff.mpr
    ⟨_, List.mem_singleton_self _, Condition.holds_linked_equals_iff.mpr linked⟩

theorem Carries.leavesOut_name (sound : shelf.Sound) (member : volume ∈ shelf.volumes)
    (searchable : IsSearchable name) :
    shelf.LeavesOut seen (phraseLine ("-" ++ taxonomy.name) [name]) volume := by
  have same : (Selection.ofLine seen _).conditions =
      [.unlinked taxonomy (.equals (Slug.ofText name)), .visible] :=
    Selection.conditions_ofLine_single seen taxonomy ⟨.noneOf, false⟩ searchable
  have linked := carries.mem_slugs isName searchable.named
  generalize Slug.ofText name = slug at same linked
  refine leavesOut_of_not_holds sound member same (Condition.depth_single_le _ _).2.1
    not_hasOverlong_nil List.mem_cons_self ?_
  exact fun unlinked =>
    Condition.holds_unlinked_iff.mp unlinked (Condition.holds_linked_equals_iff.mpr linked)

variable {part : String} (searchable : IsSearchable part)
  (inside : (Slug.ofText part).toList <:+: (Slug.ofText name).toList)
include searchable inside

theorem Carries.holds_contains (sound : shelf.Sound) :
    (Condition.linked taxonomy (.contains (Slug.ofText part))).holds shelf volume := by
  refine (Condition.holds_linked_contains_iff sound ⟨part, rfl⟩).mpr ⟨_, ?_, inside⟩
  exact carries.mem_slugs isName (searchable.named_of_isInfix inside)

theorem Carries.finds_part (sound : shelf.Sound) (member : volume ∈ shelf.volumes)
    (visible : volume.isVisible)
    (short : Like.patternBytes (Like.within (Slug.ofText part).toList) ≤ Like.maxPatternBytes) :
    shelf.Finds seen (phraseLine (taxonomy.name ++ "*") [part]) volume := by
  have same : (Selection.ofLine seen _).conditions =
      [.linkedAny taxonomy [.contains (Slug.ofText part)], .visible] :=
    Selection.conditions_ofLine_single seen taxonomy ⟨.anyOf, true⟩ searchable
  have contains := carries.holds_contains isName searchable inside sound
  generalize Slug.ofText part = slug at same contains short
  refine finds_of_holds sound member same (Condition.depth_single_le _ _).1 ?_ ?_
  · rintro ⟨pattern, isPattern, long⟩
    rw [List.mem_singleton.mp isPattern] at long
    omega
  · refine List.forall_mem_cons.mpr ⟨?_, List.forall_mem_singleton.mpr visible⟩
    exact Condition.holds_linkedAny_iff.mpr ⟨_, List.mem_singleton_self _, contains⟩

theorem Carries.found_overlong_part (member : volume ∈ shelf.volumes) (visible : volume.isVisible)
    (long : Like.maxPatternBytes < Like.patternBytes (Like.within (Slug.ofText part).toList)) :
    shelf.found seen (phraseLine (taxonomy.name ++ "*") [part]) =
      .error (.database .patternTooComplex) := by
  have same : (Selection.ofLine seen _).conditions =
      [.linkedAny taxonomy [.contains (Slug.ofText part)], .visible] :=
    Selection.conditions_ofLine_single seen taxonomy ⟨.anyOf, true⟩ searchable
  obtain ⟨label, onVolume, _⟩ := carries.labels taxonomy name isName
    (searchable.named_of_isInfix inside)
  generalize Slug.ofText part = slug at same long
  refine found_of_someFails same (Condition.depth_single_le _ _).1 member ?_
  -- A visible archive gets as far as the look-up, and there a label is met.
  change Condition.someFails shelf volume [.visible, .linkedAny taxonomy [.contains slug]]
  have holds : Condition.visible.holds shelf volume := visible
  have fails : Condition.labelTestFails shelf volume taxonomy (.contains slug) := by
    simp [Condition.labelTestFails, SlugTest.isOverlong, long, List.ne_nil_of_mem onVolume]
  simp [Condition.someFails, Condition.fails, Condition.anyTestFails, holds, fails]

end

/-- On every shelf that comes about, a visible archive is found by the names that it was put with
last, and by its title. -/
theorem findsByNames_latest (changes : List ShelfChange) (seen : List String) {volume : Volume}
    (member : volume ∈ (ofChanges changes).volumes) (visible : volume.isVisible) :
    ∃ new, latestPut? volume.path changes = some new ∧
      (ofChanges changes).FindsByNames seen volume new := by
  have sound : (ofChanges changes).Sound := sound_ofChanges changes
  obtain ⟨new, isLatest, carries⟩ := (isLatest_ofChanges changes).carries volume member
  refine ⟨new, isLatest, ?_⟩
  constructor
  · exact carries.title
  · exact fun taxonomy name isName => carries.finds_name isName sound member visible
  · exact fun taxonomy name isName => carries.leavesOut_name isName sound member
  · exact fun taxonomy names => carries.finds_all sound member visible
  · exact fun taxonomy names => found_of_too_many
  · exact fun taxonomy name isName part searchable inside =>
      carries.finds_part isName searchable inside sound member visible
  · exact fun taxonomy name isName part searchable inside =>
      carries.found_overlong_part isName searchable inside member visible
  · rw [← carries.title]
    exact finds_title sound member visible

/-- An archive that is put again, with another title and a tag, is found by these. -/
theorem findsByNames_latest_renamed :
    let shelf := ofChanges [
      .put 1 { title := "First", path := "/a" },
      .put 2 { title := "Ä Title", path := "/a", published := false
               names := { PerTaxonomy.const [] with tags := ["Big  CAT, at last"] } },
      .publish 3 1 true]
    ∃ volume ∈ shelf.volumes, volume.isVisible ∧
      shelf.Finds ["big"] (phraseLine "tag" ["Big  CAT, at last"]) volume ∧
      shelf.LeavesOut ["big"] (phraseLine "-tag" ["Big  CAT, at last"]) volume ∧
      shelf.Finds ["big"] (phraseLine "title" ["Ä Title"]) volume := by
  intro shelf
  obtain ⟨volume, member, visible, path⟩ : ∃ volume ∈ shelf.volumes,
      volume.isVisible ∧ volume.path = "/a" := by decide +kernel
  obtain ⟨new, isLatest, finds⟩ := findsByNames_latest _ ["big"] member visible
  rw [path] at isLatest
  cases isLatest
  have searchable : IsSearchable "Big  CAT, at last" := ⟨by decide, by decide +kernel⟩
  refine ⟨volume, member, visible, ?_, ?_, ?_⟩
  · exact finds.byName .tag _ (List.mem_singleton_self _) searchable
  · exact finds.exceptName .tag _ (List.mem_singleton_self _) searchable
  · exact finds.byTitle ⟨by decide, by decide +kernel⟩

/-- An archive with these tags. -/
def tagged (tags : List String) : NewArchive where
  title := "A"
  path := "/a"
  names := { PerTaxonomy.const [] with tags := tags }

theorem mem_tagged (tags : List String) :
    volumeOf 1 1 (tagged tags) ∈ (ofChanges [.put 1 (tagged tags)]).volumes := by
  have named : (Text.trim "/a").isEmpty = false := by decide +kernel
  rw [ofChanges, List.foldl_cons, List.foldl_nil, volumes_apply_put 1 (tagged tags) named
    fun volume (member : volume ∈ ({} : Shelf).volumes) => absurd member List.not_mem_nil]
  exact List.mem_singleton_self _

theorem latestPut?_singleton (now : Nat) (new : NewArchive) :
    latestPut? new.path [.put now new] = some new := by
  simp [latestPut?, ShelfChange.putAt?]

theorem carries_tagged (tags : List String) :
    (ofChanges [.put 1 (tagged tags)]).Carries (volumeOf 1 1 (tagged tags)) (tagged tags) := by
  obtain ⟨new, isLatest, carries⟩ := (isLatest_ofChanges [.put 1 (tagged tags)]).carries
    (volumeOf 1 1 (tagged tags)) (mem_tagged tags)
  have same : tagged tags = new :=
    Option.some.inj ((latestPut?_singleton 1 (tagged tags)).symm.trans isLatest)
  rwa [← same] at carries

theorem isSearchable_wordOf {count : Nat} (positive : 0 < count) :
    IsSearchable (String.ofList (Catalogue.wordOf count)) where
  closed quoted := by
    rw [String.toList_ofList] at quoted
    exact (Catalogue.isToken_of_mem_wordOf _ quoted).2.2 rfl
  named := by
    rw [Catalogue.ofText_wordOf positive]
    simpa using Catalogue.wordOf_ne_nil positive

/-- The words of one letter, up to a length. -/
def wordsUpTo (count : Nat) : List String :=
  (List.range count).map fun index => String.ofList (Catalogue.wordOf (index + 1))

theorem isSearchable_of_mem_wordsUpTo {count : Nat} :
    ∀ name ∈ wordsUpTo count, IsSearchable name :=
  List.forall_mem_map.mpr fun index _ => isSearchable_wordOf (Nat.succ_pos index)

theorem length_dedup_wordsUpTo (count : Nat) :
    ((wordsUpTo count).map Slug.ofText).dedup.length = count := by
  have slugs : (wordsUpTo count).map Slug.ofText = wordsUpTo count := by
    rw [wordsUpTo, List.map_map]
    exact List.map_congr_left fun index _ => Catalogue.ofText_wordOf (Nat.succ_pos index)
  have nodup : (wordsUpTo count).Nodup := by
    refine List.nodup_range.map fun first second same => ?_
    have length := congrArg List.length (String.ofList_injective same)
    simpa [Catalogue.wordOf] using length
  rw [slugs, nodup.dedup, wordsUpTo, List.length_map, List.length_range]

theorem not_finds_long {tag : String} (searchable : IsSearchable tag)
    (long : Like.maxPatternBytes < Like.patternBytes (Like.within (Slug.ofText tag).toList)) :
    ¬(ofChanges [.put 1 (tagged [tag])]).Finds [] (phraseLine "tag*" [tag])
      (volumeOf 1 1 (tagged [tag])) := by
  rintro ⟨ids, answered, _⟩
  have isName : tag ∈ (tagged [tag]).names.get .tag := List.mem_singleton_self tag
  have heading : Taxonomy.tag.name ++ "*" = "tag*" := by decide
  rw [← heading, (carries_tagged [tag]).found_overlong_part isName searchable (List.infix_refl _)
    (mem_tagged [tag]) rfl long] at answered
  cases answered

theorem not_finds_many {tags : List String} (searchable : ∀ tag ∈ tags, IsSearchable tag)
    (many : 989 < (tags.map Slug.ofText).dedup.length) :
    ¬(ofChanges [.put 1 (tagged tags)]).Finds [] (phraseLine "tag&" tags)
      (volumeOf 1 1 (tagged tags)) := by
  rintro ⟨ids, answered, _⟩
  have heading : Taxonomy.tag.name ++ "&" = "tag&" := by decide
  rw [← heading, found_of_too_many searchable many] at answered
  cases answered

/-- A tag of 49999 letters is too long to be sought as a wildcard, and 990 tags are too many to be
sought together. -/
theorem not_finds_tagged :
    let long := String.ofList (Catalogue.wordOf 49999)
    let many := wordsUpTo 990
    (∀ name ∈ long :: many, IsSearchable name) ∧
      (∃ volume ∈ (ofChanges [.put 1 (tagged [long])]).volumes, volume.isVisible ∧
        ¬(ofChanges [.put 1 (tagged [long])]).Finds [] (phraseLine "tag*" [long]) volume) ∧
      ∃ volume ∈ (ofChanges [.put 1 (tagged many)]).volumes, volume.isVisible ∧
        ¬(ofChanges [.put 1 (tagged many)]).Finds [] (phraseLine "tag&" many) volume := by
  have searchable : IsSearchable (String.ofList (Catalogue.wordOf 49999)) :=
    isSearchable_wordOf (by decide)
  refine ⟨List.forall_mem_cons.mpr ⟨searchable, isSearchable_of_mem_wordsUpTo⟩,
    ⟨_, mem_tagged _, rfl, not_finds_long searchable ?_⟩,
    ⟨_, mem_tagged _, rfl, not_finds_many isSearchable_of_mem_wordsUpTo ?_⟩⟩
  · rw [Catalogue.ofText_wordOf (by decide), String.toList_ofList, Catalogue.wordOf,
      Like.patternBytes_within_replicate, Like.maxPatternBytes]
    omega
  · rw [length_dedup_wordsUpTo]
    omega

end Shelf

end ComicCatalogue
