import ComicCatalogue.Proofs.Catalogue.Directory
import ComicCatalogue.Proofs.Catalogue.Purge
import ComicCatalogue.Proofs.Query.Canonical

/-!
# The steps of a session

A catalogue is backed if everything that it keeps rests on what sources answered. Answering a
request keeps it backed, and what is given as the answer of a source is recent. As long as there was
only one source, the answer is what this source says.
-/

namespace ComicCatalogue

variable {settings : Settings} {texts : List String} {asked : Askings} {context : Context}

/-- A listing tells what a source replied: the archives and their number, or else only the error. -/
def ArchiveListing.Tells (listing : ArchiveListing) : Except CatalogueError ArchivePage → Prop
  | .ok page => listing.archives = page.archives ∧ listing.total = page.total ∧ listing.error = none
  | .error error => listing.archives = [] ∧ listing.total = 0 ∧ listing.error = some error

/-- A look-up tells what a source replied: the archive, that there is none of this number, or else
only the error. -/
def ArchiveLookup.Tells (lookup : ArchiveLookup) (id : Int) :
    Except CatalogueError (Option Archive) → Prop
  | .ok (some archive) => lookup.archive = some archive ∧ lookup.error = none
  | .ok none => lookup.archive = none ∧ lookup.error = some (.archiveNotFound id)
  | .error error => lookup.archive = none ∧ lookup.error = some error

/-- A listing tells what a source replied: the entries and their number, or else only the error. -/
def EntryListing.Tells (listing : EntryListing) : Except CatalogueError EntryPage → Prop
  | .ok page => listing.entries = page.entries ∧ listing.total = page.total ∧ listing.error = none
  | .error error => listing.entries = [] ∧ listing.total = 0 ∧ listing.error = some error

theorem ArchiveListing.tells_ofAnswer (reply : Except CatalogueError ArchivePage) :
    (ofAnswer reply).Tells reply := by
  cases reply <;> exact ⟨rfl, rfl, rfl⟩

theorem ArchiveLookup.tells_ofAnswer (id : Int) (reply : Except CatalogueError (Option Archive)) :
    (ofAnswer id reply).Tells id reply := by
  rcases reply with error | (_ | archive) <;> exact ⟨rfl, rfl⟩

theorem EntryListing.tells_ofAnswer (reply : Except CatalogueError EntryPage) :
    (ofAnswer reply).Tells reply := by
  cases reply <;> exact ⟨rfl, rfl, rfl⟩

/-- As long as there was only one source, what is recent is the answer of this source. -/
theorem Scheme.IsRecent.eq_of_only {ι α : Type} {scheme : Scheme ι α} {inquiries : List Inquiry}
    {lifetime : Nat} {request : ι} {value : α}
    (recent : scheme.IsRecent asked context inquiries lifetime request value)
    (only : asked.Only context.source) : value = scheme.answer request context.source := by
  rcases recent with ⟨_, same⟩ | ⟨source, since, wasAsked, same, _⟩
  · exact same
  · rw [same, only _ _ _ wasAsked]

namespace Catalogue

/-- Everything that the catalogue keeps rests on what sources answered. -/
structure Backed (settings : Settings) (texts : List String) (asked : Askings)
    (catalogue : Catalogue) : Prop where
  pageSize : catalogue.pageSize = settings.pageSize
  directory : catalogue.directory.Backed texts (settings.lifetime .taxonomies) asked
  archives : Scheme.listings.Backs texts asked catalogue.archives
  archivesLifetime : catalogue.archives.lifetime = settings.lifetime .archives
  lookups : Scheme.lookups.Backs texts asked catalogue.lookups
  lookupsLifetime : catalogue.lookups.lifetime = settings.lifetime .archive

theorem Backed.mono {others : Askings} {catalogue : Catalogue}
    (backed : Backed settings texts asked catalogue)
    (more : ∀ inquiry source moment, asked inquiry source moment → others inquiry source moment) :
    Backed settings texts others catalogue :=
  { backed with
    directory := backed.directory.mono more
    archives := backed.archives.mono more
    lookups := backed.lookups.mono more }

/-- After the step of a record that purges nothing, everything rests on the inquiries until then. -/
theorem Backed.after {record : Record} {catalogue : Catalogue}
    (backed : Backed settings texts (asked.during record.context record.inquiries) catalogue)
    (purgesNone : ∀ inquiry, ¬ record.request.Purges inquiry) :
    Backed settings texts (asked.after record) catalogue :=
  backed.mono fun _ _ _ wasAsked => wasAsked.imp_left fun before => ⟨before, purgesNone _⟩

/-- What a source replied to an inquiry counts for a record: the source of the record, if the
inquiry was made for it, or another source that was asked less than the lifetime of the cache
ago. -/
def Record.Rests (settings : Settings) (asked : Askings) (record : Record) (inquiry : Inquiry)
    (told : Source → Prop) : Prop :=
  inquiry ∈ record.inquiries ∧ told record.source ∨
    ∃ source since, asked inquiry source since ∧
      record.now - since < settings.lifetime inquiry.cache ∧ told source

/-- What a record gives as the answer of a source was told by a source that counts, asked for just
this: the selection of the query, the archive with the relations that are named, or the part of the
entries that the numbers mean. The key of a query is its own. -/
def Record.IsRecent (settings : Settings) (asked : Askings) (record : Record) : Prop :=
  match record.request, record.answer with
  | .search _, .page answer =>
    answer.key = answer.query.key ∧
      record.Rests settings asked (.select (.ofQuery answer.query)) fun source =>
        answer.listing.Tells (source.select (.ofQuery answer.query))
  | .parse _, .draft _ => True
  | .list query, .listing key listing =>
    key = query.key ∧
      record.Rests settings asked (.select (.ofQuery query)) fun source =>
        listing.Tells (source.select (.ofQuery query))
  | .archive id preloads, .lookup lookup =>
    ∃ relations : List Taxonomy, relations.Pairwise (· < ·) ∧
      (∀ taxonomy, taxonomy ∈ relations ↔
        ∃ name ∈ preloads, Text.equalIgnoringCase taxonomy.plural (Text.trim name)) ∧
      record.Rests settings asked (.archive id relations) fun source =>
        lookup.Tells id (source.archive id relations)
  | .entries taxonomy limit offset, .entries listing =>
    let most := if limit ≤ 0 then none else some (min limit.toNat 0xFFFFFFFF)
    record.Rests settings asked (.entries taxonomy most offset.toNat) fun source =>
      listing.Tells (source.entries taxonomy most offset.toNat)
  | .purge _ _, .purged _ => True
  | _, _ => False

section

variable {record : Record}

/-- What is recent by a scheme was told by a source that counts. -/
theorem Record.rests_of_isRecent {ι α : Type} {scheme : Scheme ι α} {request : ι} {value : α}
    {told : Source → Prop}
    (recent : scheme.IsRecent asked record.context record.inquiries
      (settings.lifetime (scheme.inquiry request).cache) request value)
    (tells : ∀ source, value = scheme.answer request source → told source) :
    record.Rests settings asked (scheme.inquiry request) told := by
  rcases recent with ⟨made, same⟩ | ⟨source, since, wasAsked, same, lately⟩
  · exact .inl ⟨made, tells _ same⟩
  · exact .inr ⟨source, since, wasAsked, lately, tells _ same⟩

theorem Record.rests_listing {query : Query} {listing : ArchiveListing}
    (recent : Scheme.listings.IsRecent asked record.context record.inquiries
      (settings.lifetime .archives) query listing) :
    record.Rests settings asked (.select (.ofQuery query)) fun source =>
      listing.Tells (source.select (.ofQuery query)) :=
  rests_of_isRecent recent fun _ same => same ▸ ArchiveListing.tells_ofAnswer _

theorem Record.rests_lookup {id : Int} {preloads : List String} {lookup : ArchiveLookup}
    (recent : Scheme.lookups.IsRecent asked record.context record.inquiries
      (settings.lifetime .archive) (.ofNames id preloads) lookup) :
    ∃ relations : List Taxonomy, relations.Pairwise (· < ·) ∧
      (∀ taxonomy, taxonomy ∈ relations ↔
        ∃ name ∈ preloads, Text.equalIgnoringCase taxonomy.plural (Text.trim name)) ∧
      record.Rests settings asked (.archive id relations) fun source =>
        lookup.Tells id (source.archive id relations) :=
  ⟨Draft.settlePreloads preloads, Ascending.pairwise_ofList _,
    fun _ => Draft.mem_settlePreloads_iff,
    rests_of_isRecent recent fun _ same => same ▸ ArchiveLookup.tells_ofAnswer _ _⟩

theorem Record.rests_entries {taxonomy : Taxonomy} {limit offset : Int} {listing : EntryListing}
    (recent : Scheme.entries.IsRecent asked record.context record.inquiries
      (settings.lifetime .taxonomies) (.ofNumbers taxonomy limit offset) listing) :
    let most := if limit ≤ 0 then none else some (min limit.toNat 0xFFFFFFFF)
    record.Rests settings asked (.entries taxonomy most offset.toNat) fun source =>
      listing.Tells (source.entries taxonomy most offset.toNat) := by
  have most : _ = if limit ≤ 0 then none else some (min limit.toNat 0xFFFFFFFF) :=
    EntryRequest.most_ofNumbers taxonomy limit offset
  rw [← most]
  exact rests_of_isRecent recent fun _ same => same ▸ EntryListing.tells_ofAnswer _

end

/-- A new catalogue keeps nothing. -/
theorem backed_ofSettings (asked : Askings) :
    Backed settings texts asked (ofSettings settings) where
  pageSize := rfl
  directory := {
    lifetime := rfl
    listings := fun _ member => absurd member List.not_mem_nil
    verdicts := fun _ member => absurd member List.not_mem_nil
    memo := Slug.Memo.sound_empty }
  archives := fun _ member => absurd member List.not_mem_nil
  archivesLifetime := rfl
  lookups := fun _ member => absurd member List.not_mem_nil
  lookupsLifetime := rfl

/-- What a purge leaves of the catalogue rests on the inquiries that it does not cover. -/
theorem Backed.left {catalogue : Catalogue} (text : String) (space : Option String)
    (backed : Backed settings texts asked catalogue) :
    Backed settings texts (asked.without (.purge text space)) (catalogue.left text space) where
  pageSize := backed.pageSize
  directory := {
    lifetime := by
      rw [← backed.directory.lifetime]
      exact CacheName.lifetime_left
    listings := backed.directory.listings.left text space (fun _ => rfl) (fun _ => rfl)
    verdicts := fun known member => by
      by_cases isMeant : CacheName.taxonomies.IsMeant text
      · simp [Catalogue.left, if_pos isMeant] at member
      · simp only [Catalogue.left, if_neg isMeant] at member
        obtain ⟨source, moment, wasAsked, same⟩ := backed.directory.verdicts known member
        exact ⟨source, moment, ⟨wasAsked, fun purges => isMeant purges.1⟩, same⟩
    memo := backed.directory.memo }
  archives := backed.archives.left text space (fun _ => rfl) (fun _ => rfl)
  archivesLifetime := by
    rw [← backed.archivesLifetime]
    exact CacheName.lifetime_left
  lookups := backed.lookups.left text space (fun _ => rfl) (fun _ => rfl)
  lookupsLifetime := by
    rw [← backed.lookupsLifetime]
    exact CacheName.lifetime_left

/-- A step of the directory is one of the catalogue. -/
theorem ensures_inDirectory {α : Type} {step : Service Directory α}
    {condition : List Inquiry → α → Prop}
    (ensures : Service.Ensures (Directory.Backed texts (settings.lifetime .taxonomies)) asked
      context step condition) :
    Service.Ensures (Backed settings texts) asked context (inDirectory step) condition :=
  ensures.part (fun _ _ backed => backed.directory)
    fun _ _ backed _ _ directory more => { backed.mono more with directory := directory }

theorem tells_settle (draft : Draft) :
    Service.Tells (Backed settings texts) asked context (settle draft) draft.settled := by
  refine Service.Ensures.update fun asked catalogue backed => ?_
  obtain ⟨same, sound⟩ := Draft.yields_settle draft catalogue.directory.memo backed.directory.memo
  simp only
  generalize draft.settle.run catalogue.directory.memo = result at same sound
  exact ⟨{ backed with directory := { backed.directory with memo := sound } }, fun _ _ => same⟩

/-- A search reads its line, settles a draft, and lists what the query asks for. -/
theorem search_apply (request : SearchRequest) (traced : Traced Catalogue) :
    search request context traced =
      let parsed := parse request.line context traced
      let page := max request.page 1
      let pageSize := parsed.2.state.pageSize
      let settled := settle (pageDraft request page pageSize parsed.1) context parsed.2
      let listed := list settled.1 context settled.2
      (⟨listed.1.2, listed.1.1, .ofTotal page listed.1.2.total pageSize, settled.1⟩, listed.2) := by
  unfold search
  simp only [Service.bind_apply, Service.state_apply, Service.pure_apply]

theorem step_search (source : Source) (now : Nat) (request : SearchRequest)
    (catalogue : Catalogue) :
    catalogue.step ⟨source, now, .search request⟩ =
      let answered := search request ⟨source, now⟩ ⟨catalogue, []⟩
      (⟨⟨source, now, .search request⟩, .page answered.1, answered.2.inquiries⟩,
        answered.2.state) := by
  simp only [step, answer, Service.run, Service.map_apply]

section

variable (noCollision : NoCollision texts)
include noCollision

theorem tells_parse (line : String) (known : lineTexts line ⊆ texts) :
    Service.Tells (Backed settings texts) asked context (parse line)
      (context.source.parse line) := by
  unfold parse Source.parse
  unfold lineTexts at known
  simp only
  split
  · exact Service.Tells.pure _
  · rename_i isPlain
    rw [if_neg isPlain] at known
    have understood : Service.Tells (Directory.Backed texts (settings.lifetime .taxonomies)) asked
        context (Directory.understand line {}) (context.source.understand line {}) :=
      Directory.tells_understand noCollision (known List.mem_cons_self) line {}
    exact (ensures_inDirectory understood).map fun _ _ told only => congrArg Prod.snd (told only)

/-- The listing of a query is recent, and it is given with the key of the query. -/
theorem ensures_list (query : Query) (known : query.canonicalText ∈ texts) :
    Service.Ensures (Backed settings texts) asked context (list query)
      fun inquiries (key, listing) => key = query.key ∧
        Scheme.listings.IsRecent asked context inquiries (settings.lifetime .archives) query
          listing :=
  ((isFetch_list query).ensures noCollision known
    (fun _ _ backed => ⟨backed.archives, backed.archivesLifetime⟩)
    fun _ _ backed _ _ more archives lifetime =>
      { backed.mono more with archives := archives, archivesLifetime := lifetime }).mono
    fun _ _ ⟨_, same, recent⟩ => by rw [same]; exact ⟨rfl, recent⟩

theorem ensures_archive (id : Int) (preloads : List String)
    (known : (LookupRequest.ofNames id preloads).text ∈ texts) :
    Service.Ensures (Backed settings texts) asked context (archive id preloads)
      fun inquiries lookup => Scheme.lookups.IsRecent asked context inquiries
        (settings.lifetime .archive) (.ofNames id preloads) lookup :=
  ((isFetch_archive id preloads).ensures noCollision known
    (fun _ _ backed => ⟨backed.lookups, backed.lookupsLifetime⟩)
    fun _ _ backed _ _ more lookups lifetime =>
      { backed.mono more with lookups := lookups, lookupsLifetime := lifetime }).mono
    fun _ _ ⟨_, same, recent⟩ => same ▸ recent

theorem ensures_entries (taxonomy : Taxonomy) (limit offset : Int)
    (known : (EntryRequest.ofNumbers taxonomy limit offset).text ∈ texts) :
    Service.Ensures (Backed settings texts) asked context (entries taxonomy limit offset)
      fun inquiries listing => Scheme.entries.IsRecent asked context inquiries
        (settings.lifetime .taxonomies) (.ofNumbers taxonomy limit offset) listing :=
  ensures_inDirectory (Directory.ensures_list noCollision taxonomy limit offset known)

/-- The listing of a search is recent, and as long as there was only one source, the search is
answered as this source would. -/
theorem backed_search (request : SearchRequest) (traced : Traced Catalogue)
    (backed : Backed settings texts (asked.during context traced.inquiries) traced.state)
    (lineKnown : lineTexts request.line ⊆ texts)
    (queryKnown : (search request context traced).1.query.canonicalText ∈ texts) :
    Backed settings texts (asked.during context (search request context traced).2.inquiries)
        (search request context traced).2.state ∧
      (search request context traced).1.key = (search request context traced).1.query.key ∧
      Scheme.listings.IsRecent asked context (search request context traced).2.inquiries
        (settings.lifetime .archives) (search request context traced).1.query
        (search request context traced).1.listing ∧
      (asked.Only context.source →
        (search request context traced).1 = context.source.search settings.pageSize request) := by
  obtain ⟨backedParsed, _, sameDraft⟩ :=
    tells_parse noCollision request.line lineKnown traced backed
  -- The parts of the search are made variables, so that no step unfolds them.
  rw [search_apply] at queryKnown ⊢
  rw [Source.search]
  generalize parse request.line context traced = parsed at *
  generalize max request.page 1 = page at *
  simp only [backedParsed.pageSize] at queryKnown ⊢
  obtain ⟨backedSettled, _, sameQuery⟩ :=
    tells_settle (pageDraft request page settings.pageSize parsed.1) parsed.2 backedParsed
  generalize settle _ context parsed.2 = settled at *
  obtain ⟨backedListed, _, sameKey, recent⟩ :=
    ensures_list noCollision settled.1 queryKnown settled.2 backedSettled
  generalize list settled.1 context settled.2 = listed at *
  refine ⟨backedListed, sameKey, recent, fun only => ?_⟩
  rw [sameKey, recent.eq_of_only only, sameQuery only, sameDraft only]
  rfl

/-- Answering an event keeps the catalogue backed, and what is given as the answer of a source is
recent. As long as there was only one source, the answer is what this source says. -/
theorem backed_step {catalogue : Catalogue} (event : Event)
    (backed : Backed settings texts asked catalogue)
    (known : (catalogue.step event).1.texts ⊆ texts) :
    Backed settings texts (asked.after (catalogue.step event).1) (catalogue.step event).2 ∧
      (catalogue.step event).1.IsRecent settings asked ∧
      (asked.Only event.source →
        (catalogue.step event).1.answer.withoutCount =
          event.source.answer settings event.request) := by
  obtain ⟨source, now, request⟩ := event
  have start : Backed settings texts (asked.during ⟨source, now⟩ []) catalogue := by
    rwa [Askings.during_nil]
  cases request with
  | search request =>
    rw [step_search] at known ⊢
    obtain ⟨backedAfter, sameKey, recent, same⟩ := backed_search noCollision request
      ⟨catalogue, []⟩ start (fun _ member => known (List.mem_append_left _ member))
      (known (List.mem_append_right _ List.mem_cons_self))
    generalize search request ⟨source, now⟩ ⟨catalogue, []⟩ = answered at *
    exact ⟨backedAfter.after fun _ => id, ⟨sameKey, Record.rests_listing recent⟩, fun only =>
      congrArg Answer.page (same only)⟩
  | parse line =>
    obtain ⟨backedAfter, _, same⟩ :=
      tells_parse noCollision line (fun _ member => known member) ⟨catalogue, []⟩ start
    exact ⟨backedAfter.after fun _ => id, trivial, fun only => congrArg Answer.draft (same only)⟩
  | list query =>
    obtain ⟨backedAfter, _, sameKey, recent⟩ :=
      ensures_list noCollision query (known List.mem_cons_self) ⟨catalogue, []⟩ start
    refine ⟨backedAfter.after fun _ => id, ⟨sameKey, Record.rests_listing recent⟩,
      fun only => ?_⟩
    exact congrArg₂ Answer.listing sameKey (recent.eq_of_only only)
  | archive id preloads =>
    obtain ⟨backedAfter, _, recent⟩ :=
      ensures_archive noCollision id preloads (known List.mem_cons_self) ⟨catalogue, []⟩ start
    exact ⟨backedAfter.after fun _ purges => purges, Record.rests_lookup recent, fun only =>
      congrArg Answer.lookup (recent.eq_of_only only)⟩
  | entries taxonomy limit offset =>
    obtain ⟨backedAfter, _, recent⟩ := ensures_entries noCollision taxonomy limit offset
      (known List.mem_cons_self) ⟨catalogue, []⟩ start
    exact ⟨backedAfter.after fun _ => id, Record.rests_entries recent, fun only =>
      congrArg Answer.entries (recent.eq_of_only only)⟩
  | purge cache space =>
    by_cases isKnown : cache = everyCache ∨ cache ∈ registry.names
    · obtain ⟨count, stepped⟩ := step_purge_of_known source now space catalogue isKnown
      rw [stepped]
      refine ⟨(backed.left cache space).mono fun _ _ _ => .inl, trivial, fun _ => ?_⟩
      rw [Source.answer, if_pos isKnown]
      rfl
    · rw [step_purge_of_unknown source now space catalogue isKnown]
      refine ⟨backed.mono fun _ _ _ before => .inl ⟨before, fun purges => ?_⟩, trivial, fun _ => ?_⟩
      · exact isKnown purges.1.isKnown
      · rw [Source.answer, if_neg isKnown]
        rfl

end

end Catalogue

end ComicCatalogue
