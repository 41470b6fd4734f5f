import ComicCatalogue.Proofs.Catalogue.Looks
import ComicCatalogue.Proofs.Catalogue.Paths
import ComicCatalogue.Proofs.Catalogue.Verdicts
import ComicCatalogue.Proofs.Shelf.Lines

/-!
# What plain text resolves to

A plain text is taken for a name in the first taxonomy that lists its slug, or else its words for
tags, as far as they are listed, or else it is looked for in the paths. The query that comes of it
asks for this and for nothing else, whatever the directory was asked before.
-/

namespace ComicCatalogue

namespace Query

/-- The query that asks for nothing in particular. -/
def plain : Query where
  path := none
  title := none
  filters := .const {}
  pages := none
  sort := .createdAt
  order := .descending
  limit := 25
  offset := 0
  unbounded := false
  preloads := []

/-- The query for archives with one of these slugs in a taxonomy. -/
def ofSlugs (taxonomy : Taxonomy) (slugs : List String) : Query :=
  { plain with filters := .ofFn fun other => if other = taxonomy then { anyOf := slugs } else {} }

/-- The query for archives with a part of the path. -/
def ofPath (path : String) : Query :=
  { plain with path := some path }

end Query

namespace Draft

/-- Asking for entries one by one is asking for all of them. -/
theorem foldl_addEntry (taxonomy : Taxonomy) (texts : List String) (draft : Draft) :
    texts.foldl (fun draft text => draft.addEntry taxonomy text) draft =
      { draft with
        filters := draft.filters.modify taxonomy (·.add ⟨.anyOf, false⟩ texts) } := by
  induction texts generalizing draft with
  | nil =>
    have same : draft.filters.modify taxonomy (·.add ⟨.anyOf, false⟩ []) = draft.filters := by
      apply PerTaxonomy.eq_of_get
      intro other
      rw [PerTaxonomy.get_modify]
      split
      · simp [TaxonomyFilter.add]
      · rfl
    rw [same]
    rfl
  | cons text rest ih =>
    have same : (draft.addEntry taxonomy text).filters.modify taxonomy
        (·.add ⟨.anyOf, false⟩ rest) =
          draft.filters.modify taxonomy (·.add ⟨.anyOf, false⟩ (text :: rest)) := by
      apply PerTaxonomy.eq_of_get
      intro other
      rw [addEntry, PerTaxonomy.get_modify, PerTaxonomy.get_modify, PerTaxonomy.get_modify]
      split
      · simp [TaxonomyFilter.add]
      · rfl
    rw [List.foldl_cons, ih, same]
    rfl

theorem settled_new : ({} : Draft).settled = .plain := by
  decide +kernel

theorem settled_of_filters (filters : PerTaxonomy TaxonomyFilter) :
    ({ filters := filters } : Draft).settled = { Query.plain with
      filters := .ofFn fun taxonomy => canonicalFilter (filters.get taxonomy) } := by
  rw [← settled_new]
  simp only [settled, canonicalTitle]

theorem settled_of_path (path : String) :
    ({ path := some path } : Draft).settled = { Query.plain with
      path := settlePath (some path) } := by
  rw [← settled_new]
  simp only [settled, canonicalTitle]

/-- A new draft with entries settles into the query for their slugs. -/
theorem settled_foldl_addEntry (taxonomy : Taxonomy) (texts : List String) :
    (texts.foldl (fun draft text => draft.addEntry taxonomy text) ({} : Draft)).settled =
      .ofSlugs taxonomy (canonicalValues texts) := by
  have filters : (PerTaxonomy.ofFn fun other => canonicalFilter
      (((PerTaxonomy.const {}).modify taxonomy (·.add ⟨.anyOf, false⟩ texts)).get other)) =
        .ofFn fun other => if other = taxonomy then { anyOf := canonicalValues texts } else {} := by
    apply PerTaxonomy.eq_of_get
    intro other
    rw [PerTaxonomy.get_ofFn, PerTaxonomy.get_ofFn, PerTaxonomy.get_modify, PerTaxonomy.const,
      PerTaxonomy.get_ofFn]
    split
    · rw [canonicalFilter_add]
      rfl
    · rfl
  rw [foldl_addEntry, settled_of_filters, Query.ofSlugs, ← filters]

/-- A new draft with a trimmed path settles into the query for its lower case. -/
theorem settled_path_trim {text : String} (some : (Text.trim text).isEmpty = false) :
    ({ path := .some (Text.trim text) } : Draft).settled =
      .ofPath (Text.lowercase (Text.trim text)) := by
  rw [settled_of_path, settlePath_trim some, Query.ofPath]

end Draft

namespace Source

variable (source : Source)

/-- A text is a name in a taxonomy: it has a slug, and the source lists an entry with this slug. -/
def Names (taxonomy : Taxonomy) (text : String) : Prop :=
  Slug.ofText text ≠ "" ∧ ∃ page, source.entries taxonomy none 0 = .ok page ∧
    ∃ entry ∈ page.entries, entry.slug = Slug.ofText text

variable {source}

theorem knows_iff {taxonomy : Taxonomy} {text : String} :
    source.knows taxonomy text ↔ source.Names taxonomy text := by
  unfold knows Names
  cases source.entries taxonomy none 0 with
  | ok page => simp [EntryListing.ofAnswer]
  | error error => simp [EntryListing.ofAnswer]

instance (taxonomy : Taxonomy) (text : String) : Decidable (source.Names taxonomy text) :=
  decidable_of_iff _ knows_iff

/-- A name is not empty. -/
theorem Names.isEmpty_eq_false {taxonomy : Taxonomy} {text : String}
    (named : source.Names taxonomy text) : text.isEmpty = false := by
  by_contra empty
  rw [Bool.not_eq_false, String.isEmpty_iff] at empty
  exact named.1 (by rw [empty, Slug.ofText_empty])

variable (source)

/-- What a trimmed text is understood as, and the query that comes of it. -/
structure Resolves (text : String) (outcome : Understanding) (query : Query) : Prop where
  nothing : text = "" → outcome = .nothing ∧ query = .plain
  /-- The first taxonomy in which the text is a name counts. -/
  entry : ∀ before taxonomy behind, Directory.lookedUp = before ++ taxonomy :: behind →
    source.Names taxonomy text → (∀ other ∈ before, ¬source.Names other text) →
      outcome = .entry taxonomy ∧ query = .ofSlugs taxonomy [Slug.ofText text]
  /-- Of a text that is no name itself, the words that are tags count, each of them. -/
  tags : (∀ taxonomy ∈ Directory.lookedUp, ¬source.Names taxonomy text) →
    1 < (Text.words text).length → (∃ word ∈ Text.words text, source.Names .tag word) →
      outcome = .tags ((Text.words text).countP fun word => source.Names .tag word) ∧
        ∃ slugs, query = .ofSlugs .tag slugs ∧ slugs.Pairwise (· < ·) ∧ ∀ slug, slug ∈ slugs ↔
          ∃ word ∈ Text.words text, source.Names .tag word ∧ Slug.ofText word = slug
  /-- Any other text is a part of the path. -/
  path : text ≠ "" → (∀ taxonomy ∈ Directory.lookedUp, ¬source.Names taxonomy text) →
    (1 < (Text.words text).length → ∀ word ∈ Text.words text, ¬source.Names .tag word) →
      outcome = .path ∧ query = .ofPath (Text.lowercase text)

variable {source}

theorem tags_eq_filter (text : String) (several : 1 < (Text.words text).length) :
    source.tags text = (Text.words text).filter fun word => source.Names .tag word := by
  rw [tags, if_pos several]
  apply List.filter_congr
  intro word _
  rw [Bool.eq_iff_iff, knows_iff, decide_eq_true_iff]

/-- The words of a text that are tags are asked for by their slugs, in order and each once. -/
theorem settled_tags (text : String) (several : 1 < (Text.words text).length) :
    ∃ slugs, ((source.tags text).foldl (fun draft tag => draft.addEntry .tag tag)
        ({} : Draft)).settled = .ofSlugs .tag slugs ∧ slugs.Pairwise (· < ·) ∧
      ∀ slug, slug ∈ slugs ↔
        ∃ word ∈ Text.words text, source.Names .tag word ∧ Slug.ofText word = slug := by
  refine ⟨_, Draft.settled_foldl_addEntry .tag (source.tags text), Ascending.pairwise_ofList _, ?_⟩
  intro slug
  rw [Draft.mem_canonicalValues, tags_eq_filter text several]
  constructor
  · rintro ⟨_, word, member, same⟩
    obtain ⟨isWord, isTag⟩ := List.mem_filter.mp member
    exact ⟨word, isWord, of_decide_eq_true isTag, same⟩
  · rintro ⟨word, isWord, isTag, rfl⟩
    exact ⟨isTag.1, word, List.mem_filter.mpr ⟨isWord, decide_eq_true isTag⟩, rfl⟩

theorem find?_knows_eq_none_iff {text : String} :
    Directory.lookedUp.find? (source.knows · text) = none ↔
      ∀ taxonomy ∈ Directory.lookedUp, ¬source.Names taxonomy text := by
  simp only [List.find?_eq_none, knows_iff]

theorem understand_of_found {text : String} {taxonomy : Taxonomy} {draft : Draft}
    (notEmpty : (Text.trim text).isEmpty = false)
    (found : Directory.lookedUp.find? (source.knows · (Text.trim text)) = some taxonomy) :
    source.understand text draft = (.entry taxonomy, draft.addEntry taxonomy (Text.trim text)) := by
  rw [understand]
  simp only [notEmpty, found, Bool.false_eq_true, if_false]

theorem understand_of_nameless {text : String} {draft : Draft}
    (notEmpty : (Text.trim text).isEmpty = false)
    (nameless : ∀ taxonomy ∈ Directory.lookedUp, ¬source.Names taxonomy (Text.trim text)) :
    source.understand text draft =
      Understanding.ofTags (Text.trim text) draft (source.tags (Text.trim text)) := by
  have notFound : Directory.lookedUp.find? (source.knows · (Text.trim text)) = none :=
    find?_knows_eq_none_iff.mpr nameless
  rw [understand]
  simp only [notEmpty, notFound, Bool.false_eq_true, if_false]

/-- A source resolves every text as it understands it. -/
theorem resolves_understand (text : String) :
    source.Resolves (Text.trim text) (source.understand text {}).1
      (source.understand text {}).2.settled := by
  constructor
  · intro empty
    rw [understand, empty]
    exact ⟨rfl, Draft.settled_new⟩
  · intro before taxonomy behind split named first
    have found : Directory.lookedUp.find? (source.knows · (Text.trim text)) = some taxonomy := by
      rw [List.find?_eq_some_iff_append]
      refine ⟨knows_iff.mpr named, before, behind, split, ?_⟩
      intro other member
      simpa [← knows_iff] using first other member
    rw [understand_of_found named.isEmpty_eq_false found]
    refine ⟨rfl, ?_⟩
    have settled := Draft.settled_foldl_addEntry taxonomy [Text.trim text]
    rwa [Draft.canonicalValues_singleton named.1] at settled
  · rintro nameless several ⟨tag, isWord, isTag⟩
    have notEmpty : (Text.trim text).isEmpty = false := by
      by_contra empty
      rw [Bool.not_eq_false, String.isEmpty_iff] at empty
      rw [empty] at several
      exact absurd several (by decide)
    have tags := @tags_eq_filter source (Text.trim text) several
    have some : (source.tags (Text.trim text)).isEmpty = false := by
      rw [tags, List.isEmpty_eq_false_iff_exists_mem]
      exact ⟨tag, List.mem_filter.mpr ⟨isWord, decide_eq_true isTag⟩⟩
    rw [understand_of_nameless notEmpty nameless, Understanding.ofTags, some,
      if_neg Bool.false_ne_true]
    dsimp only
    refine ⟨?_, settled_tags (Text.trim text) several⟩
    rw [tags, List.countP_eq_length_filter]
  · intro notEmpty nameless wordless
    have notEmpty : (Text.trim text).isEmpty = false := by
      rwa [Bool.eq_false_iff, ne_eq, String.isEmpty_iff]
    have none : source.tags (Text.trim text) = [] := by
      by_cases several : 1 < (Text.words (Text.trim text)).length
      · rw [tags_eq_filter _ several, List.filter_eq_nil_iff]
        intro word isWord
        simpa using wordless several word isWord
      · rw [tags, if_neg several]
    rw [understand_of_nameless notEmpty nameless, Understanding.ofTags, none]
    exact ⟨rfl, Draft.settled_path_trim notEmpty⟩

end Source

open Catalogue (Act Caches Runs)

namespace Service.Accounts

variable {σ α : Type} {view : σ → Caches} {step : Service σ α} {acts : Acts σ}

/-- The acts of a step that is run lead to the caches after it. -/
theorem runs_run (accounts : Service.Accounts view step acts) (source : Source) (now : Nat)
    (state : σ) :
    Runs (view state) (acts ⟨source, now⟩ ⟨state, []⟩) (view (step.run source now state).2.1) :=
  accounts.runs ⟨source, now⟩ ⟨state, []⟩

/-- The inquiries of a step that is run are those of its acts. -/
theorem inquiries_run (accounts : Service.Accounts view step acts) (source : Source) (now : Nat)
    (state : σ) :
    (step.run source now state).2.2 = (acts ⟨source, now⟩ ⟨state, []⟩).flatMap Act.made :=
  accounts.inquiries ⟨source, now⟩ ⟨state, []⟩

end Service.Accounts

/-- Everything was asked of one source. -/
def Askings.ofSource (source : Source) : Askings :=
  fun _ other _ => other = source

namespace Directory

/-- Settles a draft with the slugs that the directory remembers. -/
def settle (draft : Draft) : Service Directory Query :=
  Service.update fun directory =>
    let (query, memo) := draft.settle.run directory.memo
    (query, { directory with memo := memo })

/-- What a plain text is understood as, and the query that comes of it. -/
def resolve (text : String) : Service Directory (Understanding × Query) := do
  let (outcome, draft) ← understand text {}
  return (outcome, ← settle draft)

/-- What can be done with a directory. -/
inductive Step where
  | ask (request : Request)
  | settle (draft : Draft)
  | forget
  | purge (space : Option String)

/-- The texts whose hashes are needed for a step. -/
def Step.texts : Step → List String
  | ask request => request.texts
  | _ => []

/-- Takes a step, whatever the answer is. -/
def take : Step → Service Directory Unit
  | .ask request => perform request
  | .settle draft => (fun _ => ()) <$> settle draft
  | .forget => (fun _ => ()) <$> Service.update forget
  | .purge space => Service.update fun directory =>
      ((), { directory with listings := (directory.listings.purge space).2 })

/-- The directory after steps in turn, each with its moment, over one source. -/
def afterSteps (source : Source) (directory : Directory) (steps : List (Nat × Step)) :
    Directory :=
  steps.foldl (fun directory step => ((take step.2).run source step.1 directory).2.1) directory

variable {texts : List String} {lifetime : Nat} {asked : Askings} {context : Context}

theorem tells_settle (draft : Draft) :
    Service.Tells (Backed texts lifetime) asked context (settle draft) draft.settled := by
  refine Service.Ensures.update fun asked directory backed => ?_
  obtain ⟨same, sound⟩ := draft.yields_settle directory.memo backed.memo
  exact ⟨{ backed with memo := sound }, fun _ _ => same⟩

/-- A purge keeps the directory backed. -/
theorem Backed.purge {directory : Directory} (backed : Backed texts lifetime asked directory)
    (space : Option String) :
    Backed texts lifetime asked
      { directory with listings := (directory.listings.purge space).2 } where
  lifetime := backed.lifetime
  listings entry member := backed.listings entry (Cache.mem_purge_iff.mp member).1
  verdicts := backed.verdicts
  memo := backed.memo

/-- Without verdicts, the directory stays backed. -/
theorem Backed.forget {directory : Directory} (backed : Backed texts lifetime asked directory) :
    Backed texts lifetime asked directory.forget.2 where
  lifetime := backed.lifetime
  listings := backed.listings
  verdicts _ member := absurd member List.not_mem_nil
  memo := backed.memo

/-- Where all that is kept is from one source, a step gives the value that it tells. -/
theorem Backed.run_of_tells {α : Type} {step : Service Directory α} {value : α} {source : Source}
    {now : Nat} {directory : Directory}
    (backed : Backed texts lifetime (.ofSource source) directory)
    (tells : Service.Tells (Backed texts lifetime) (.ofSource source) ⟨source, now⟩ step value) :
    (step.run source now directory).1 = value := by
  have start : Backed texts lifetime ((Askings.ofSource source).during ⟨source, now⟩ [])
      directory := by
    rwa [Askings.during_nil]
  exact (tells ⟨directory, []⟩ start).2.2 fun _ _ _ same => same

section

variable (noCollision : NoCollision texts)
include noCollision

/-- Every step keeps the directory backed. -/
theorem ensures_take (step : Step) (known : step.texts ⊆ texts) :
    Service.Ensures (Backed texts lifetime) asked context (take step) fun _ _ => True := by
  cases step with
  | ask request => exact ensures_perform noCollision request known
  | settle draft =>
    have told : Service.Tells (Backed texts lifetime) asked context (settle draft) _ :=
      tells_settle draft
    exact told.map fun _ _ _ => trivial
  | forget =>
    have forgotten : Service.Ensures (Backed texts lifetime) asked context
        (Service.update Directory.forget) fun _ _ => True :=
      .update fun _ _ backed => ⟨backed.forget, fun _ => trivial⟩
    exact forgotten.map fun _ _ _ => trivial
  | purge space =>
    rw [take]
    exact .update fun _ _ backed => ⟨backed.purge space, fun _ => trivial⟩

/-- Steps over one source keep the directory backed by it. -/
theorem backed_afterSteps {source : Source} {steps : List (Nat × Step)} {directory : Directory}
    (backed : Backed texts lifetime (.ofSource source) directory)
    (known : steps.flatMap (·.2.texts) ⊆ texts) :
    Backed texts lifetime (.ofSource source) (directory.afterSteps source steps) := by
  induction steps generalizing directory with
  | nil => exact backed
  | cons step rest ih =>
    rw [List.flatMap_cons, List.append_subset] at known
    have start : Backed texts lifetime
        ((Askings.ofSource source).during ⟨source, step.1⟩ []) directory := by
      rwa [Askings.during_nil]
    have kept := (ensures_take noCollision step.2 known.1 ⟨directory, []⟩ start).1
    refine ih (kept.mono ?_) known.2
    rintro _ other _ (before | ⟨_, same, _⟩)
    · exact before
    · exact same

/-- Resolving a text tells what the source makes of it. -/
theorem tells_resolve (known : (EntryRequest.all .tag).text ∈ texts) (text : String) :
    Service.Tells (Backed texts lifetime) asked context (resolve text)
      ((context.source.understand text {}).1, (context.source.understand text {}).2.settled) := by
  refine (tells_understand noCollision known text {}).bind
    (f := fun read => (read.1, read.2.settled)) (fun (outcome, draft) => ?_) rfl
  exact (tells_settle draft).bind (f := fun query => (outcome, query))
    (fun query => .pure (outcome, query)) rfl

end

/-- Apart from understanding the text, resolving it looks nothing up. -/
theorem accounts_resolve {archives : Cache ArchiveListing} {lookups : Cache ArchiveLookup}
    (text : String) :
    Service.Accounts (caches archives lookups) (resolve text) (understandActs text) := by
  apply (accounts_understand text {}).bind_none
  rintro ⟨outcome, draft⟩
  apply Service.Accounts.bind_none
  · exact .update fun _ => rfl
  · exact fun query => .pure (outcome, query)

/-- Whatever a new directory did before over one source, it resolves every text as the source has
it: as a name in the first taxonomy that lists it, or else as those of its words that are tags, or
else as a part of the path. Other slugs that are remembered make no other query of it. Nothing is
looked up for it but all entries of a taxonomy that plain texts are looked up in, and nothing else
is asked of the source. -/
theorem resolve_afterSteps (name : String) (capacity lifetime : Nat) (source : Source)
    (steps : List (Nat × Step)) (now : Nat) (text : String)
    (noCollision : NoCollision ((EntryRequest.all .tag).text :: steps.flatMap (·.2.texts))) :
    let directory := afterSteps source { listings := .empty name capacity lifetime } steps
    let draft := ((understand text {}).run source now directory).1.2
    let resolved := (resolve text).run source now directory
    let acts := understandActs text ⟨source, now⟩ ⟨directory, []⟩
    source.Resolves (Text.trim text) resolved.1.1 resolved.1.2 ∧
      (∀ seen, (draft.settle.run (Slug.Memo.ofTexts seen)).1 = resolved.1.2) ∧
      (∀ archives lookups, Runs (caches archives lookups directory) acts
        (caches archives lookups resolved.2.1)) ∧
      resolved.2.2 = acts.flatMap Act.made ∧
      ∀ act ∈ acts, ∃ taxonomy ∈ lookedUp,
        act.look? = some (.entries (.all taxonomy)) ∧ act.made ⊆ [.entries taxonomy none 0] := by
  intro directory draft resolved acts
  have backed : Backed ((EntryRequest.all .tag).text :: steps.flatMap (·.2.texts)) lifetime
      (.ofSource source) directory :=
    backed_afterSteps noCollision (backed_new name capacity) (List.subset_cons_self _ _)
  have understood : draft = (source.understand text {}).2 :=
    congrArg Prod.snd
      (backed.run_of_tells (tells_understand noCollision List.mem_cons_self text {}))
  have told : resolved.1 = ((source.understand text {}).1,
      (source.understand text {}).2.settled) :=
    backed.run_of_tells (tells_resolve noCollision List.mem_cons_self text)
  have accounts (archives : Cache ArchiveListing) (lookups : Cache ArchiveLookup) :=
    @accounts_resolve archives lookups text
  -- Projections of the local definition are compared by running the step, unless it is unfolded.
  have isResolved : resolved = (resolve text).run source now directory := rfl
  have runs (archives : Cache ArchiveListing) (lookups : Cache ArchiveLookup) :
      Runs (caches archives lookups directory) acts (caches archives lookups resolved.2.1) := by
    rw [isResolved]
    exact (accounts archives lookups).runs_run source now directory
  have made : resolved.2.2 = acts.flatMap Act.made := by
    rw [isResolved]
    exact (accounts (.empty "" 0 0) (.empty "" 0 0)).inquiries_run source now directory
  refine ⟨?_, fun seen => ?_, runs, made, fun act member => ?_⟩
  · rw [told]
    exact Source.resolves_understand text
  · rw [told, understood]
    exact (Draft.yields_settle _ _ (Slug.Memo.sound_ofTexts seen)).1
  · obtain ⟨taxonomy, isLookedUp, looked⟩ := isCheck_of_mem_understandActs member
    have own := (runs (.empty "" 0 0) (.empty "" 0 0)).made_subset member looked
    exact ⟨taxonomy, isLookedUp, looked, own⟩

/-- A text that is an artist and a tag is understood as the artist, also after it was asked for as a
tag. -/
theorem resolve_afterSteps_artist :
    let source : Source := {
      select := fun _ => .ok ⟨[], 0⟩
      archive := fun _ _ => .ok none
      entries := fun taxonomy _ _ => .ok <| match taxonomy with
        | .artist => ⟨[{ id := 1, name := "Solo", slug := "solo" }], 1⟩
        | .tag => ⟨[{ id := 1, name := "Color", slug := "color" },
            { id := 2, name := "Solo", slug := "solo" }], 2⟩
        | _ => ⟨[], 0⟩ }
    let steps := [(0, .ask (.knows .tag "SOLO")), (1, .ask (.understand "color solo" {})),
      (1, .settle { titleEquals := some "Solo" }), (2, .forget), (3, .purge (some "tags"))]
    let directory := afterSteps source { listings := .empty "taxonomies" 4 5 } steps
    let resolved := (resolve " Solo ").run source 4 directory
    NoCollision ((EntryRequest.all .tag).text :: steps.flatMap (·.2.texts)) ∧
      resolved.1.1 = .entry .artist ∧ resolved.1.2 = .ofSlugs .artist [Slug.ofText "Solo"] := by
  intro source steps
  have noCollision : NoCollision ((EntryRequest.all .tag).text :: steps.flatMap (·.2.texts)) :=
    Catalogue.noCollision_all_none.mono (by decide +kernel)
  have resolves := (resolve_afterSteps "taxonomies" 4 5 source steps 4 " Solo " noCollision).1
  have trimmed : Text.trim " Solo " = "Solo" := by decide +kernel
  rw [trimmed] at resolves
  have isArtist : source.Names .artist "Solo" := by decide +kernel
  have answer := resolves.entry [] .artist [.circle, .parody, .tag] rfl isArtist (by simp)
  exact ⟨noCollision, answer⟩

/-- A tag without a slug is listed, and a word without one counts for no tag all the same. -/
theorem resolve_slugless :
    let tags : List Entry := [{ id := 1, name := "!!!", slug := "" }]
    let source : Source := {
      select := fun _ => .ok ⟨[], 0⟩
      archive := fun _ _ => .ok none
      entries := fun taxonomy _ _ => .ok (if taxonomy = .tag then ⟨tags, 1⟩ else ⟨[], 0⟩) }
    let words := Text.words "!!! foo"
    let resolved := (resolve "!!! foo").run source 0 { listings := .empty "taxonomies" 16 5 }
    (∀ taxonomy ∈ lookedUp, source.knows taxonomy "!!! foo" = false) ∧ 1 < words.length ∧
      (∃ word ∈ words, ∃ tag ∈ tags, tag.slug = Slug.ofText word) ∧
      resolved.1 = (.path, .ofPath "!!! foo") := by
  decide +kernel

end Directory

end ComicCatalogue
