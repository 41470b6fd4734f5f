import ComicCatalogue.Proofs.Cache.Uses
import ComicCatalogue.Proofs.Catalogue.Slots
import ComicCatalogue.Proofs.Catalogue.Steps

/-!
# What is looked up

To answer a request, the catalogue looks things up in its caches: one listing or archive, and before
that, if a line is plain text, the entries of some taxonomies. An act is such a look, or a purge.
The acts of a step account for everything that it does to the caches and for all its inquiries.
-/

namespace ComicCatalogue

namespace Catalogue

/-- What can be looked up. -/
inductive Look where
  | listing (query : Query)
  | archive (request : LookupRequest)
  | entries (request : EntryRequest)
  deriving DecidableEq, Repr

/-- What the source is asked if the look finds nothing. -/
def Look.inquiry : Look → Inquiry
  | listing query => Scheme.listings.inquiry query
  | archive request => Scheme.lookups.inquiry request
  | entries request => Scheme.entries.inquiry request

/-- What is looked up for a request. -/
def KeptRequest.look : KeptRequest → Look
  | list query => .listing query
  | archive id preloads => .archive (.ofNames id preloads)
  | entries taxonomy limit offset => .entries (.ofNumbers taxonomy limit offset)

/-- Requests look the same thing up if and only if they ask for the same. -/
theorem KeptRequest.look_eq_iff_isSame {a b : KeptRequest} : a.look = b.look ↔ a.IsSame b := by
  cases a with
  | list query => cases b <;> simp [look, IsSame]
  | archive id preloads =>
    cases b with
    | archive other others =>
      simp [look, IsSame, LookupRequest.ofNames, Draft.settlePreloads_eq_iff]
    | _ => simp [look, IsSame]
  | entries taxonomy limit offset =>
    cases b with
    | entries other limitOther offsetOther =>
      rw [look, look, Look.entries.injEq]
      exact EntryRequest.ofNumbers_eq_iff
    | _ => simp [look, IsSame]

/-- What a step does with the caches. -/
inductive Act where
  /-- A look at a moment, with the inquiries that are made because nothing is found. -/
  | look (sought : Look) (context : Context) (made : List Inquiry)
  | purge (cache : String) (space : Option String) (now : Nat)

namespace Act

/-- What is looked up. -/
def look? : Act → Option Look
  | look sought _ _ => some sought
  | purge _ _ _ => none

/-- The inquiries that are made. -/
def made : Act → List Inquiry
  | look _ _ made => made
  | purge _ _ _ => []

/-- The moment of the act. -/
def now : Act → Nat
  | look _ context _ => context.now
  | purge _ _ now => now

/-- An act looks all entries up of a taxonomy that plain texts are looked up in. -/
def IsCheck (act : Act) : Prop :=
  ∃ taxonomy ∈ Directory.lookedUp, act.look? = some (.entries (.all taxonomy))

/-- An act purges what is kept for a look. -/
def Purges (sought : Look) : Act → Prop
  | look _ _ _ => False
  | purge cache space _ => (Request.purge cache space).Purges sought.inquiry

end Act

end Catalogue

open Catalogue (Act Look)

/-- The acts of a step, by the state that it starts from. -/
abbrev Acts (σ : Type) := Context → Traced σ → List Act

namespace Acts

variable {σ α : Type}

/-- Nothing is done with the caches. -/
def none : Acts σ :=
  fun _ _ => []

/-- The acts of a step and of the one that follows it. -/
def andThen (acts : Acts σ) (step : Service σ α) (next : α → Acts σ) : Acts σ :=
  fun context traced =>
    acts context traced ++ next (step context traced).1 context (step context traced).2

/-- The acts after a look at the state. -/
def observe (next : σ → Acts σ) : Acts σ :=
  fun context traced => next traced.state context traced

/-- The only act of a step that looks something up. -/
def ofStep (sought : Look) (step : Service σ α) : Acts σ :=
  fun context traced =>
    [.look sought context (step.run context.source context.now traced.state).2.2]

end Acts

namespace Directory

/-- The acts of listing entries. -/
def listActs (taxonomy : Taxonomy) (limit offset : Int) : Acts Directory :=
  .ofStep (.entries (.ofNumbers taxonomy limit offset)) (list taxonomy limit offset)

/-- All entries are looked up if there is a slug and no verdict on it is kept. -/
def knowsSlugActs (taxonomy : Taxonomy) (slug : String) : Acts Directory :=
  if slug.isEmpty then .none
  else .observe fun directory =>
    match directory.verdicts.lookup (taxonomy, slug) with
    | some _ => .none
    | none => listActs taxonomy 0 0

/-- The acts of telling whether a text is a name. -/
def knowsActs (taxonomy : Taxonomy) (text : String) : Acts Directory :=
  Acts.none.andThen (slug text) (knowsSlugActs taxonomy)

/-- The taxonomies are gone through until one of them knows the text. -/
def firstKnowingActs (text : String) : List Taxonomy → Acts Directory
  | [] => .none
  | taxonomy :: rest =>
    (knowsActs taxonomy text).andThen (knows taxonomy text) fun isKnown =>
      if isKnown then .none else firstKnowingActs text rest

/-- The words are gone through to the end. -/
def knownTagsActs : List String → Acts Directory
  | [] => .none
  | word :: rest => (knowsActs .tag word).andThen (knows .tag word) fun _ => knownTagsActs rest

/-- The words of a text are gone through if it has several of them and is no name itself. -/
def understandActs (text : String) : Acts Directory :=
  if (Text.trim text).isEmpty then .none
  else
    (firstKnowingActs (Text.trim text) lookedUp).andThen (firstKnowing (Text.trim text) lookedUp)
      fun
      | some _ => .none
      | none =>
        if 1 < (Text.words (Text.trim text)).length then
          knownTagsActs (Text.words (Text.trim text))
        else .none

end Directory

namespace Catalogue

/-- The acts of a step of the directory. -/
def inDirectoryActs (acts : Acts Directory) : Acts Catalogue :=
  fun context traced => acts context ⟨traced.state.directory, traced.inquiries⟩

/-- The acts of reading a line. -/
def parseActs (line : String) : Acts Catalogue :=
  if (Search.Reading.ofLine line).isStructured then .none
  else inDirectoryActs (Directory.understandActs line)

/-- The acts of listing what a query asks for. -/
def listActs (query : Query) : Acts Catalogue :=
  .ofStep (.listing query) (list query)

/-- The acts of a search: those of reading its line, and of listing what its query asks for. -/
def searchActs (request : SearchRequest) : Acts Catalogue :=
  (parseActs request.line).andThen (parse request.line) fun draft =>
    .observe fun catalogue =>
      let draft := pageDraft request (max request.page 1) catalogue.pageSize draft
      Acts.none.andThen (settle draft) listActs

/-- The acts of answering a request. -/
def answerActs : Request → Acts Catalogue
  | .search request => searchActs request
  | .parse line => parseActs line
  | .list query => listActs query
  | .archive id preloads => .ofStep (.archive (.ofNames id preloads)) (archive id preloads)
  | .entries taxonomy limit offset => inDirectoryActs (Directory.listActs taxonomy limit offset)
  | .purge cache space => fun context _ => [.purge cache space context.now]

/-- The acts of each of the events in turn. -/
def chronicle (catalogue : Catalogue) : List Event → List (List Act)
  | [] => []
  | event :: rest =>
    answerActs event.request event.context ⟨catalogue, []⟩ ::
      (catalogue.step event).2.chronicle rest

/-! ### What acts do to the caches -/

/-- The three caches. -/
structure Caches where
  archives : Cache ArchiveListing
  lookups : Cache ArchiveLookup
  listings : Cache EntryListing

/-- The caches of a catalogue. -/
def caches (catalogue : Catalogue) : Caches where
  archives := catalogue.archives
  lookups := catalogue.lookups
  listings := catalogue.directory.listings

namespace Act

/-- The caches after an act. -/
def after (caches : Caches) : Act → Caches
  | look (.listing query) context _ =>
    { caches with archives := (Scheme.listings.fetch context query caches.archives).cache }
  | look (.archive request) context _ =>
    { caches with lookups := (Scheme.lookups.fetch context request caches.lookups).cache }
  | look (.entries request) context _ =>
    { caches with listings := (Scheme.entries.fetch context request caches.listings).cache }
  | purge cache space _ => {
      archives := CacheName.archives.left cache space caches.archives
      lookups := CacheName.archive.left cache space caches.lookups
      listings := CacheName.taxonomies.left cache space caches.listings }

/-- An act makes the inquiries that these caches call for. -/
def Fits (caches : Caches) : Act → Prop
  | look (.listing query) context made =>
    made = (Scheme.listings.fetch context query caches.archives).made
  | look (.archive request) context made =>
    made = (Scheme.lookups.fetch context request caches.lookups).made
  | look (.entries request) context made =>
    made = (Scheme.entries.fetch context request caches.listings).made
  | purge _ _ _ => True

end Act

/-- Acts in turn lead from caches to others, and each of them makes the inquiries that are called
for. -/
inductive Runs : Caches → List Act → Caches → Prop where
  | nil (caches : Caches) : Runs caches [] caches
  | cons {caches last : Caches} {act : Act} {rest : List Act} (fits : act.Fits caches)
    (runs : Runs (act.after caches) rest last) : Runs caches (act :: rest) last

theorem Runs.append {first second last : Caches} {acts others : List Act}
    (runs : Runs first acts second) (runsOther : Runs second others last) :
    Runs first (acts ++ others) last := by
  induction runs with
  | nil => exact runsOther
  | cons fits _ ih => exact .cons fits (ih runsOther)

/-- A look makes its own inquiry, if any. -/
theorem Act.Fits.made_subset {caches : Caches} {act : Act} {sought : Look} (fits : act.Fits caches)
    (looked : act.look? = some sought) : act.made ⊆ [sought.inquiry] := by
  cases act with
  | purge cache space now => cases looked
  | look other context made =>
    obtain rfl : other = sought := Option.some.inj looked
    have own : made = [] ∨ made = [other.inquiry] := by
      cases other <;>
        · rw [Act.Fits, Scheme.made_fetch] at fits
          split at fits
          · exact .inl fits
          · exact .inr fits
    rcases own with rfl | rfl
    · exact List.nil_subset _
    · exact List.Subset.refl _

theorem Runs.made_subset {first last : Caches} {acts : List Act} (runs : Runs first acts last)
    {act : Act} (member : act ∈ acts) {sought : Look} (looked : act.look? = some sought) :
    act.made ⊆ [sought.inquiry] := by
  induction runs with
  | nil => cases member
  | cons fits _ ih =>
    rcases List.mem_cons.mp member with rfl | later
    · exact fits.made_subset looked
    · exact ih later

end Catalogue

open Catalogue (Caches Runs)

/-- The acts of a step account for it: they are made at its moment, they lead to the caches after
it, and the inquiries that it makes are theirs. -/
structure Service.Accounts {σ α : Type} (view : σ → Caches) (step : Service σ α) (acts : Acts σ) :
    Prop where
  moment : ∀ context traced, ∀ act ∈ acts context traced, act.now = context.now
  runs : ∀ context traced,
    Runs (view traced.state) (acts context traced) (view (step context traced).2.state)
  inquiries : ∀ context traced, (step context traced).2.inquiries =
    traced.inquiries ++ (acts context traced).flatMap Act.made

namespace Service.Accounts

variable {σ α β : Type} {view : σ → Caches} {step : Service σ α} {acts : Acts σ}

protected theorem pure (a : α) : Accounts view (pure a) .none where
  moment _ _ _ member := absurd member List.not_mem_nil
  runs _ traced := .nil (view traced.state)
  inquiries _ traced := (List.append_nil traced.inquiries).symm

protected theorem update {f : σ → α × σ} (same : ∀ state, view (f state).2 = view state) :
    Accounts view (update f) .none where
  moment _ _ _ member := absurd member List.not_mem_nil
  runs _ traced := by
    rw [update_apply, same]
    exact .nil (view traced.state)
  inquiries _ traced := (List.append_nil traced.inquiries).symm

protected theorem observe {next : σ → Service σ α} {nextActs : σ → Acts σ}
    (rest : ∀ seen, Accounts view (next seen) (nextActs seen)) :
    Accounts view (state >>= next) (.observe nextActs) where
  moment context traced := (rest traced.state).moment context traced
  runs context traced := (rest traced.state).runs context traced
  inquiries context traced := (rest traced.state).inquiries context traced

protected theorem bind {next : α → Service σ β} {nextActs : α → Acts σ}
    (first : Accounts view step acts) (second : ∀ a, Accounts view (next a) (nextActs a)) :
    Accounts view (step >>= next) (acts.andThen step nextActs) where
  moment context traced act member := by
    rcases List.mem_append.mp member with early | late
    · exact first.moment context traced act early
    · exact (second _).moment context _ act late
  runs context traced := (first.runs context traced).append ((second _).runs context _)
  inquiries context traced := by
    rw [bind_apply, (second _).inquiries, first.inquiries, List.append_assoc, ← List.flatMap_append]
    rfl

/-- A step without acts of its own follows. -/
protected theorem bind_none {next : α → Service σ β} (first : Accounts view step acts)
    (second : ∀ a, Accounts view (next a) .none) : Accounts view (step >>= next) acts := by
  have both := first.bind second
  have same : acts.andThen step (fun _ => .none) = acts := by
    funext context traced
    exact List.append_nil _
  rwa [same] at both

protected theorem map (f : α → β) (accounts : Accounts view step acts) :
    Accounts view (f <$> step) acts where
  moment := accounts.moment
  runs := accounts.runs
  inquiries := accounts.inquiries

/-- A fetch is a look. -/
theorem of_isFetch {ι γ : Type} {scheme : Scheme ι γ} {request : ι} {get : σ → Cache γ}
    {put : Cache γ → σ → σ} {present : γ → α} {sought : Look}
    (isFetch : scheme.IsFetch request get put present step)
    (fits : ∀ context state, (Act.look sought context
      (scheme.fetch context request (get state)).made).Fits (view state))
    (after : ∀ context state made, (Act.look sought context made).after (view state) =
      view (put (scheme.fetch context request (get state)).cache state)) :
    Accounts view step (.ofStep sought step) := by
  have made : ∀ (context : Context) state,
      (step.run context.source context.now state).2.2 =
        (scheme.fetch context request (get state)).made := by
    intro context state
    rw [Service.run, isFetch]
    rfl
  constructor
  · intro context traced act member
    rw [List.mem_singleton.mp member]
    rfl
  · intro context traced
    rw [Acts.ofStep, made, isFetch]
    refine .cons (fits context traced.state) ?_
    rw [after]
    exact .nil _
  · intro context traced
    rw [Acts.ofStep, made, isFetch, List.flatMap_singleton]
    rfl

end Service.Accounts

open Service (Accounts)

namespace Directory

variable {archives : Cache ArchiveListing} {lookups : Cache ArchiveLookup}

/-- The cache of a directory, next to two others. -/
def caches (archives : Cache ArchiveListing) (lookups : Cache ArchiveLookup)
    (directory : Directory) : Caches where
  archives := archives
  lookups := lookups
  listings := directory.listings

theorem accounts_list (taxonomy : Taxonomy) (limit offset : Int) :
    Accounts (caches archives lookups) (list taxonomy limit offset)
      (listActs taxonomy limit offset) :=
  .of_isFetch (isFetch_list taxonomy limit offset) (fun _ _ => rfl) fun _ _ _ => rfl

theorem accounts_judge (taxonomy : Taxonomy) (slug : String) (listing : EntryListing) :
    Accounts (caches archives lookups) (judge taxonomy slug listing) .none := by
  rw [judge]
  split
  · exact .pure false
  · exact Accounts.bind_none (.update fun _ => rfl) fun _ => .pure _

theorem accounts_knowsSlug (taxonomy : Taxonomy) (slug : String) :
    Accounts (caches archives lookups) (knowsSlug taxonomy slug) (knowsSlugActs taxonomy slug) := by
  by_cases empty : slug.isEmpty
  · rw [knowsSlug, if_pos empty, knowsSlugActs, if_pos empty]
    exact .pure false
  · rw [knowsSlug, if_neg empty, knowsSlugActs, if_neg empty]
    apply Accounts.observe
    intro directory
    cases directory.verdicts.lookup (taxonomy, slug) with
    | some verdict => exact .pure verdict
    | none => exact (accounts_list taxonomy 0 0).bind_none (accounts_judge taxonomy slug)

theorem accounts_knows (taxonomy : Taxonomy) (text : String) :
    Accounts (caches archives lookups) (knows taxonomy text) (knowsActs taxonomy text) := by
  rw [knows_eq_bind]
  apply Accounts.bind
  · exact .update fun _ => rfl
  · exact accounts_knowsSlug taxonomy

theorem accounts_firstKnowing (text : String) (taxonomies : List Taxonomy) :
    Accounts (caches archives lookups) (firstKnowing text taxonomies)
      (firstKnowingActs text taxonomies) := by
  induction taxonomies with
  | nil => exact .pure none
  | cons taxonomy rest ih =>
    rw [firstKnowing, firstKnowingActs]
    apply Accounts.bind (accounts_knows taxonomy text)
    intro isKnown
    cases isKnown with
    | true => exact .pure _
    | false => exact ih

theorem accounts_knownTags (words : List String) :
    Accounts (caches archives lookups) (knownTags words) (knownTagsActs words) := by
  induction words with
  | nil => exact .pure []
  | cons word rest ih =>
    rw [knownTags, knownTagsActs]
    apply Accounts.bind (accounts_knows .tag word)
    intro isKnown
    exact ih.bind_none fun tags => .pure _

theorem accounts_understand (text : String) (draft : Draft) :
    Accounts (caches archives lookups) (understand text draft) (understandActs text) := by
  unfold understand understandActs
  simp only
  generalize Text.trim text = text
  have rest (tags : List String) : Accounts (caches archives lookups)
      (if tags.isEmpty then pure (Understanding.path, { draft with path := some text })
        else pure (Understanding.tags tags.length,
          tags.foldl (fun draft tag => draft.addEntry .tag tag) draft)) .none := by
    split <;> exact .pure _
  by_cases empty : text.isEmpty
  · rw [if_pos empty, if_pos empty]
    exact .pure _
  · rw [if_neg empty, if_neg empty]
    apply Accounts.bind (accounts_firstKnowing text lookedUp)
    intro first
    cases first with
    | some taxonomy => exact .pure _
    | none =>
      dsimp only
      by_cases several : 1 < (Text.words text).length
      · rw [if_pos several, if_pos several]
        exact (accounts_knownTags _).bind_none rest
      · rw [if_neg several, if_neg several]
        exact (Accounts.pure []).bind_none rest

section

variable {context : Context} {traced : Traced Directory} {act : Act}

theorem look?_of_mem_knowsActs {taxonomy : Taxonomy} {text : String}
    (member : act ∈ knowsActs taxonomy text context traced) :
    act.look? = some (.entries (.all taxonomy)) := by
  rw [knowsActs, Acts.andThen, Acts.none, List.nil_append, knowsSlugActs] at member
  split at member
  · cases member
  · rw [Acts.observe] at member
    generalize (slug text context traced).2.state.verdicts.lookup _ = kept at member
    cases kept with
    | some verdict => cases member
    | none =>
      rw [List.mem_singleton.mp member]
      rfl

theorem look?_of_mem_firstKnowingActs {text : String} {taxonomies : List Taxonomy}
    (member : act ∈ firstKnowingActs text taxonomies context traced) :
    ∃ taxonomy ∈ taxonomies, act.look? = some (.entries (.all taxonomy)) := by
  induction taxonomies generalizing traced with
  | nil => cases member
  | cons taxonomy rest ih =>
    rw [firstKnowingActs, Acts.andThen] at member
    rcases List.mem_append.mp member with own | later
    · exact ⟨taxonomy, List.mem_cons_self, look?_of_mem_knowsActs own⟩
    · split at later
      · cases later
      · obtain ⟨other, isIn, looked⟩ := ih later
        exact ⟨other, List.mem_cons_of_mem _ isIn, looked⟩

theorem look?_of_mem_knownTagsActs {words : List String}
    (member : act ∈ knownTagsActs words context traced) :
    act.look? = some (.entries (.all .tag)) := by
  induction words generalizing traced with
  | nil => cases member
  | cons word rest ih =>
    rw [knownTagsActs, Acts.andThen] at member
    rcases List.mem_append.mp member with own | later
    · exact look?_of_mem_knowsActs own
    · exact ih later

/-- To understand a text, nothing is looked up but entries of the taxonomies for plain texts. -/
theorem isCheck_of_mem_understandActs {text : String}
    (member : act ∈ understandActs text context traced) : act.IsCheck := by
  rw [understandActs] at member
  split at member
  · cases member
  · rw [Acts.andThen] at member
    rcases List.mem_append.mp member with own | later
    · exact look?_of_mem_firstKnowingActs own
    · generalize (firstKnowing (Text.trim text) lookedUp context traced).1 = first at later
      cases first with
      | some taxonomy => cases later
      | none =>
        dsimp only at later
        split at later
        · exact ⟨.tag, by decide, look?_of_mem_knownTagsActs later⟩
        · cases later

end

end Directory

namespace Catalogue

/-- A step of the directory leaves the other caches as they are. -/
theorem accounts_inDirectory {α : Type} {step : Service Directory α} {acts : Acts Directory}
    (accounts : ∀ archives lookups, Accounts (Directory.caches archives lookups) step acts) :
    Accounts caches (inDirectory step) (inDirectoryActs acts) where
  moment context traced :=
    (accounts traced.state.archives traced.state.lookups).moment context _
  runs context traced :=
    (accounts traced.state.archives traced.state.lookups).runs context
      ⟨traced.state.directory, traced.inquiries⟩
  inquiries context traced :=
    (accounts traced.state.archives traced.state.lookups).inquiries context
      ⟨traced.state.directory, traced.inquiries⟩

theorem accounts_parse (line : String) : Accounts caches (parse line) (parseActs line) := by
  unfold parse parseActs
  simp only
  split
  · exact .pure _
  · exact (accounts_inDirectory fun _ _ => Directory.accounts_understand line {}).map _

theorem accounts_list (query : Query) : Accounts caches (list query) (listActs query) :=
  .of_isFetch (isFetch_list query) (fun _ _ => rfl) fun _ _ _ => rfl

theorem accounts_archive (id : Int) (preloads : List String) :
    Accounts caches (archive id preloads)
      (.ofStep (.archive (.ofNames id preloads)) (archive id preloads)) :=
  .of_isFetch (isFetch_archive id preloads) (fun _ _ => rfl) fun _ _ _ => rfl

theorem accounts_search (request : SearchRequest) :
    Accounts caches (search request) (searchActs request) := by
  unfold search searchActs
  apply Accounts.bind (accounts_parse request.line)
  intro draft
  apply Accounts.observe
  intro catalogue
  dsimp only
  apply Accounts.bind
  · exact .update fun _ => rfl
  · intro query
    exact (accounts_list query).bind_none fun _ => .pure _

/-- A purge of a name that no cache has leaves the caches as they are. -/
theorem Act.after_purge_of_unknown {cache : String} (space : Option String) (now : Nat)
    (caches : Caches) (unknown : ¬(cache = everyCache ∨ cache ∈ registry.names)) :
    (Act.purge cache space now).after caches = caches := by
  have notMeant : ∀ name : CacheName, ¬name.IsMeant cache :=
    fun name isMeant => unknown isMeant.isKnown
  simp only [Act.after, CacheName.left, if_neg (notMeant _)]

theorem accounts_answer (request : Request) :
    Accounts caches (answer request) (answerActs request) := by
  cases request with
  | search request => exact (accounts_search request).map _
  | parse line => exact (accounts_parse line).map _
  | list query => exact (accounts_list query).map _
  | archive id preloads => exact (accounts_archive id preloads).map _
  | entries taxonomy limit offset =>
    exact (accounts_inDirectory fun _ _ =>
      Directory.accounts_list taxonomy limit offset).map _
  | purge cache space =>
    constructor
    · intro context traced act member
      rw [List.mem_singleton.mp member]
      rfl
    · intro context traced
      have after : caches (answer (.purge cache space) context traced).2.state =
          (Act.purge cache space context.now).after (caches traced.state) := by
        by_cases isKnown : cache = everyCache ∨ cache ∈ registry.names
        · simp only [answer, Service.update_apply, purge_of_known space traced.state isKnown]
          rfl
        · simp only [answer, Service.update_apply, purge_of_unknown space traced.state isKnown]
          rw [Act.after_purge_of_unknown space context.now _ isKnown]
      rw [after]
      exact .cons trivial (.nil _)
    · intro context traced
      exact (List.append_nil _).symm

/-! ### The acts of a session -/

theorem isCheck_of_mem_parseActs {line : String} {context : Context} {traced : Traced Catalogue}
    {act : Act} (member : act ∈ parseActs line context traced) : act.IsCheck := by
  rw [parseActs] at member
  split at member
  · cases member
  · rw [inDirectoryActs] at member
    exact Directory.isCheck_of_mem_understandActs member

/-- The acts by which a record came about: they are made at its moment, its inquiries are theirs,
and they look up what was asked for. -/
structure Record.IsDoneBy (record : Record) (acts : List Act) : Prop where
  moment : ∀ act ∈ acts, act.now = record.now
  inquiries : record.inquiries = acts.flatMap Act.made
  /-- A listing, an archive and entries are looked up without anything else. -/
  kept : ∀ asked : KeptRequest, record.request = asked.request →
    acts.map Act.look? = [some asked.look]
  /-- A search looks the listing of its query up, after reading its line. -/
  search : ∀ request, record.request = .search request → ∃ answer checks last,
    record.answer = .page answer ∧ acts = checks ++ [last] ∧
      last.look? = some (KeptRequest.list answer.query).look ∧ ∀ check ∈ checks, check.IsCheck
  parse : ∀ line, record.request = .parse line → ∀ check ∈ acts, check.IsCheck
  purge : ∀ cache space, record.request = .purge cache space →
    acts = [.purge cache space record.now]

/-- The record of an event came about by the acts of its request. -/
theorem isDoneBy_step (catalogue : Catalogue) (event : Event) :
    (catalogue.step event).1.IsDoneBy
      (answerActs event.request event.context ⟨catalogue, []⟩) := by
  have accounts := accounts_answer event.request
  obtain ⟨source, now, request⟩ := event
  constructor
  · exact accounts.moment _ _
  · exact accounts.inquiries ⟨source, now⟩ ⟨catalogue, []⟩
  · rintro asked same
    obtain rfl : request = asked.request := same
    cases asked <;> rfl
  · rintro asked same
    obtain rfl : request = .search asked := same
    rw [step_search, search_apply]
    refine ⟨_, parseActs asked.line ⟨source, now⟩ ⟨catalogue, []⟩, _, rfl, rfl, rfl, ?_⟩
    intro check member
    exact isCheck_of_mem_parseActs member
  · rintro line same check member
    obtain rfl : request = .parse line := same
    exact isCheck_of_mem_parseActs member
  · rintro cache space same
    obtain rfl : request = .purge cache space := same
    by_cases isKnown : cache = everyCache ∨ cache ∈ registry.names
    · obtain ⟨count, stepped⟩ := step_purge_of_known source now space catalogue isKnown
      rw [stepped]
      rfl
    · rw [step_purge_of_unknown source now space catalogue isKnown]
      rfl

theorem isDoneBy_session (events : List Event) (catalogue : Catalogue) :
    List.Forall₂ Record.IsDoneBy (catalogue.session events) (catalogue.chronicle events) := by
  induction events generalizing catalogue with
  | nil => exact .nil
  | cons event rest ih => exact .cons (isDoneBy_step catalogue event) (ih _)

/-- The acts of a session lead to the caches after it. -/
theorem runs_chronicle (events : List Event) (catalogue : Catalogue) :
    ∃ last, Runs catalogue.caches (catalogue.chronicle events).flatten last := by
  induction events generalizing catalogue with
  | nil => exact ⟨_, .nil _⟩
  | cons event rest ih =>
    obtain ⟨last, runs⟩ := ih (catalogue.step event).2
    have first := (accounts_answer event.request).runs event.context ⟨catalogue, []⟩
    exact ⟨last, first.append runs⟩

/-- Every act of a session is made at the moment of an event. -/
theorem exists_now_eq_of_mem_chronicle {events : List Event} {catalogue : Catalogue} {act : Act}
    (member : act ∈ (catalogue.chronicle events).flatten) :
    ∃ event ∈ events, act.now = event.now := by
  induction events generalizing catalogue with
  | nil => cases member
  | cons event rest ih =>
    rw [chronicle, List.flatten_cons] at member
    rcases List.mem_append.mp member with own | later
    · have moment := (accounts_answer event.request).moment event.context _ act own
      exact ⟨event, List.mem_cons_self, moment⟩
    · obtain ⟨other, isEvent, same⟩ := ih later
      exact ⟨other, List.mem_cons_of_mem _ isEvent, same⟩

/-- The acts of a session are made in the order of its moments. -/
theorem pairwise_chronicle {events : List Event}
    (clock : events.Pairwise fun a b => a.now ≤ b.now) (catalogue : Catalogue) :
    (catalogue.chronicle events).flatten.Pairwise fun a b => a.now ≤ b.now := by
  induction events generalizing catalogue with
  | nil => exact .nil
  | cons event rest ih =>
    rw [List.pairwise_cons] at clock
    have moments := (accounts_answer event.request).moment event.context ⟨catalogue, []⟩
    rw [chronicle, List.flatten_cons, List.pairwise_append]
    refine ⟨?_, ih clock.2 _, ?_⟩
    · apply List.pairwise_of_forall_mem_list
      intro a memberA b memberB
      rw [moments a memberA, moments b memberB]
    · intro a memberA b memberB
      obtain ⟨other, isEvent, same⟩ := exists_now_eq_of_mem_chronicle memberB
      rw [moments a memberA, same]
      exact clock.1 other isEvent

end Catalogue

end ComicCatalogue
