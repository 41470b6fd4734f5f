import ComicCatalogue.Proofs.Catalogue.Looks

/-!
# Nothing is asked for twice

Each cache is used by the looks of one kind and by purges. A look that was made before makes no
inquiry as long as what is kept for it is fresh, nothing has purged it, and fewer other looks than
the cache has room for were made since. It does not matter what the source answered.
-/

namespace ComicCatalogue

/-- For how many answers a cache has room; it has room for one in any case. -/
def Settings.capacity (settings : Settings) : Catalogue.CacheName → Nat
  | .archives => settings.caches.archives.capacity
  | .archive => settings.caches.archive.capacity
  | .taxonomies => settings.caches.taxonomies.capacity

namespace Catalogue

/-- The looks among acts that use the same cache as a look and are not the same. -/
def Look.others (sought : Look) (acts : List Act) : Finset Look :=
  ((acts.filterMap Act.look?).filter fun other =>
    other.inquiry.cache = sought.inquiry.cache ∧ other ≠ sought).toFinset

theorem Look.mem_others_iff {sought other : Look} {acts : List Act} :
    other ∈ sought.others acts ↔
      (∃ act ∈ acts, act.look? = some other) ∧
        other.inquiry.cache = sought.inquiry.cache ∧ other ≠ sought := by
  rw [others, List.mem_toFinset, List.mem_filter, List.mem_filterMap, decide_eq_true_eq]

/-- Acts can be divided where they run. -/
theorem Runs.of_append {first last : Caches} {acts others : List Act}
    (runs : Runs first (acts ++ others) last) :
    ∃ middle, Runs first acts middle ∧ Runs middle others last := by
  induction acts generalizing first with
  | nil => exact ⟨first, .nil first, runs⟩
  | cons act rest ih =>
    rw [List.cons_append] at runs
    cases runs with
    | cons fits runs =>
      obtain ⟨middle, runsFirst, runsOther⟩ := ih runs
      exact ⟨middle, .cons fits runsFirst, runsOther⟩

variable {ι α : Type}

/-- What an act does with the cache of a name, in which the picked looks are kept. -/
def Act.use? (pick : Look → Option ι) (name : CacheName) : Act → Option (Use ι)
  | look sought context _ => (pick sought).map (.fetch context)
  | purge cache space now => if name.IsMeant cache then some (.purge space now) else none

/-- The cache of a name is used by the looks of one kind, which are the requests of a scheme. -/
structure Keeps (scheme : Scheme ι α) (name : CacheName) (sought : ι → Look)
    (pick : Look → Option ι) (get : Caches → Cache α) : Prop where
  pick_iff : ∀ look request, pick look = some request ↔ sought request = look
  cache : ∀ request, (sought request).inquiry.cache = name
  space : ∀ request, (sought request).inquiry.space = scheme.space request
  fits : ∀ (caches : Caches) context request made,
    (Act.look (sought request) context made).Fits caches →
      made = (scheme.fetch context request (get caches)).made
  after : ∀ (caches : Caches) (act : Act), get (act.after caches) =
    (act.use? pick name).toList.foldl scheme.use (get caches)

/-- The query of a look at a listing. -/
def Look.listing? : Look → Option Query
  | listing query => some query
  | _ => none

/-- The request of a look at an archive. -/
def Look.archive? : Look → Option LookupRequest
  | archive request => some request
  | _ => none

/-- The request of a look at entries. -/
def Look.entries? : Look → Option EntryRequest
  | entries request => some request
  | _ => none

theorem keeps_archives :
    Keeps Scheme.listings .archives Look.listing Look.listing? Caches.archives where
  pick_iff look request := by cases look <;> simp [Look.listing?, eq_comm]
  cache _ := rfl
  space _ := rfl
  fits _ _ _ _ := id
  after caches act := by
    cases act with
    | look sought context made => cases sought <;> rfl
    | purge cache space now =>
      simp only [Act.use?, Act.after, CacheName.left]
      split <;> rfl

theorem keeps_archive :
    Keeps Scheme.lookups .archive Look.archive Look.archive? Caches.lookups where
  pick_iff look request := by cases look <;> simp [Look.archive?, eq_comm]
  cache _ := rfl
  space _ := rfl
  fits _ _ _ _ := id
  after caches act := by
    cases act with
    | look sought context made => cases sought <;> rfl
    | purge cache space now =>
      simp only [Act.use?, Act.after, CacheName.left]
      split <;> rfl

theorem keeps_taxonomies :
    Keeps Scheme.entries .taxonomies Look.entries Look.entries? Caches.listings where
  pick_iff look request := by cases look <;> simp [Look.entries?, eq_comm]
  cache _ := rfl
  space _ := rfl
  fits _ _ _ _ := id
  after caches act := by
    cases act with
    | look sought context made => cases sought <;> rfl
    | purge cache space now =>
      simp only [Act.use?, Act.after, CacheName.left]
      split <;> rfl

/-- A use of a cache is made at the moment of the act. -/
theorem Act.now_of_use? {pick : Look → Option ι} {name : CacheName} {act : Act} {use : Use ι}
    (used : act.use? pick name = some use) : use.now = act.now := by
  cases act with
  | look sought context made =>
    obtain ⟨request, _, rfl⟩ := Option.map_eq_some_iff.mp used
    rfl
  | purge cache space now =>
    rw [use?] at used
    split at used
    · cases used
      rfl
    · cases used

namespace Keeps

variable {scheme : Scheme ι α} {name : CacheName} {sought : ι → Look} {pick : Look → Option ι}
  {get : Caches → Cache α} (keeps : Keeps scheme name sought pick get)
include keeps

theorem use?_look (request : ι) (context : Context) (made : List Inquiry) :
    (Act.look (sought request) context made).use? pick name = some (.fetch context request) := by
  rw [Act.use?, (keeps.pick_iff _ request).mpr rfl]
  rfl

/-- Acts lead to the cache after their uses of it. -/
theorem get_of_runs {first last : Caches} {acts : List Act} (runs : Runs first acts last) :
    get last = (acts.filterMap (Act.use? pick name)).foldl scheme.use (get first) := by
  induction runs with
  | nil => rfl
  | @cons caches last act rest fits runs ih =>
    rw [ih, keeps.after]
    cases used : act.use? pick name with
    | none =>
      rw [List.filterMap_cons_none used]
      rfl
    | some use =>
      rw [List.filterMap_cons_some used]
      rfl

/-- A use purges the answer to a request only if the act purges what is kept for the look. -/
theorem purges_of_isPurgeOf {act : Act} {use : Use ι} {request : ι}
    (used : act.use? pick name = some use) (isPurge : scheme.IsPurgeOf request use) :
    act.Purges (sought request) := by
  cases act with
  | look other context made =>
    obtain ⟨own, _, rfl⟩ := Option.map_eq_some_iff.mp used
    exact isPurge.elim
  | purge cache space now =>
    rw [Act.use?] at used
    split at used
    · rename_i isMeant
      cases used
      refine ⟨?_, ?_⟩
      · rwa [keeps.cache]
      · rwa [keeps.space]
    · cases used

/-- Different requests are looked up by different looks. -/
theorem sought_inj {request other : ι} (same : sought request = sought other) :
    request = other := by
  have picked := (keeps.pick_iff (sought other) request).mpr same
  rw [(keeps.pick_iff _ other).mpr rfl] at picked
  exact (Option.some.inj picked).symm

/-- A key is touched by a look only. -/
theorem exists_of_mem_touched {acts : List Act} {touched : Cache.Key}
    (member : touched ∈ (acts.filterMap (Act.use? pick name)).filterMap scheme.touched?) :
    ∃ request, scheme.key request = touched ∧ ∃ act ∈ acts, act.look? = some (sought request) := by
  obtain ⟨use, isUse, touches⟩ := List.mem_filterMap.mp member
  obtain ⟨act, isAct, used⟩ := List.mem_filterMap.mp isUse
  cases act with
  | purge cache space now =>
    rw [Act.use?] at used
    split at used
    · cases used
      cases touches
    · cases used
  | look other context made =>
    obtain ⟨request, picked, rfl⟩ := Option.map_eq_some_iff.mp used
    obtain rfl := (keeps.pick_iff other request).mp picked
    exact ⟨request, Option.some.inj touches, _, isAct, rfl⟩

/-- At most as many other keys are touched as there are other looks. -/
theorem card_touched_le (request : ι) (acts : List Act) :
    (((acts.filterMap (Act.use? pick name)).filterMap scheme.touched?).toFinset.erase
      (scheme.key request)).card ≤ ((sought request).others acts).card := by
  let key : Look → Cache.Key := fun look => ((pick look).map scheme.key).getD (scheme.key request)
  have covered : ((acts.filterMap (Act.use? pick name)).filterMap scheme.touched?).toFinset.erase
      (scheme.key request) ⊆ ((sought request).others acts).image key := by
    intro touched member
    obtain ⟨different, isTouched⟩ := Finset.mem_erase.mp member
    obtain ⟨other, rfl, looked⟩ := keeps.exists_of_mem_touched (List.mem_toFinset.mp isTouched)
    refine Finset.mem_image.mpr ⟨sought other, ?_, ?_⟩
    · rw [Look.mem_others_iff, keeps.cache, keeps.cache]
      refine ⟨looked, rfl, fun same => different ?_⟩
      rw [keeps.sought_inj same]
    · simp only [key, (keeps.pick_iff _ other).mpr rfl, Option.map_some, Option.getD_some]
  exact (Finset.card_le_card covered).trans Finset.card_image_le

/-- An act that asked the source is a use that did. -/
theorem asks_of_fits {caches : Caches} {act : Act} {request : ι} (fits : act.Fits caches)
    (looked : act.look? = some (sought request)) (asked : act.made ≠ []) :
    ∃ use, act.use? pick name = some use ∧ scheme.Asks request (get caches) use := by
  cases act with
  | purge cache space now => cases looked
  | look other context made =>
    obtain rfl : other = sought request := Option.some.inj looked
    refine ⟨_, keeps.use?_look request context made, rfl, ?_⟩
    rw [← keeps.fits caches context request made fits]
    exact asked

/-- If one of the acts asked the source, then so did one of the uses, with the cache as the uses
before it had left it. -/
theorem exists_asks_of_runs {start last : Caches} {acts others : List Act} {request : ι}
    {lifetime now : Nat} (runs : Runs start (acts ++ others) last)
    (asked : ∃ asking ∈ acts, asking.look? = some (sought request) ∧ asking.made ≠ [] ∧
      now - asking.now < lifetime) :
    ∃ before use since, acts.filterMap (Act.use? pick name) = before ++ use :: since ∧
      scheme.Asks request (before.foldl scheme.use (get start)) use ∧
      now - use.now < lifetime := by
  obtain ⟨asking, member, sameLook, made, fresh⟩ := asked
  obtain ⟨before, since, rfl⟩ := List.append_of_mem member
  rw [List.append_assoc] at runs
  obtain ⟨middle, runsBefore, runsAfter⟩ := runs.of_append
  obtain ⟨use, used, asks⟩ : ∃ use, asking.use? pick name = some use ∧
      scheme.Asks request (get middle) use := by
    cases runsAfter with
    | cons fits _ => exact keeps.asks_of_fits fits sameLook made
  refine ⟨before.filterMap (Act.use? pick name), use, since.filterMap (Act.use? pick name),
    ?_, ?_, ?_⟩
  · rw [List.filterMap_append, List.filterMap_cons_some used]
  · rw [← keeps.get_of_runs runsBefore]
    exact asks
  · rw [Act.now_of_use? used]
    exact fresh

/-- What was looked up before is found if the source was asked for it less than the lifetime of the
cache ago, no purge has covered it since, and fewer others than the cache has room for were looked
up since. -/
theorem contains_of_runs {start last : Caches} {earlier between : List Act} {first : Act}
    {request : ι} {now : Nat} (runs : Runs start (earlier ++ first :: between) last)
    (empty : (get start).entries = [])
    (clock : (earlier ++ first :: between).Pairwise fun a b => a.now ≤ b.now)
    (past : ∀ act ∈ earlier ++ first :: between, act.now ≤ now)
    (isFirst : first.look? = some (sought request))
    (asked : ∃ asking ∈ earlier ++ [first], asking.look? = some (sought request) ∧
      asking.made ≠ [] ∧ now - asking.now < (get start).lifetime)
    (kept : ∀ act ∈ between, ¬act.Purges (sought request))
    (few : ((sought request).others between).card < (get start).capacity) :
    (get last).contains now (scheme.key request) := by
  cases first with
  | purge cache space now => cases isFirst
  | look looked context made =>
  obtain rfl : looked = sought request := Option.some.inj isFirst
  have isFetch := keeps.use?_look request context made
  have whole : (earlier ++ Act.look (sought request) context made :: between).filterMap
      (Act.use? pick name) = earlier.filterMap (Act.use? pick name) ++
        .fetch context request :: between.filterMap (Act.use? pick name) := by
    rw [List.filterMap_append, List.filterMap_cons_some isFetch]
  rw [keeps.get_of_runs runs, whole]
  rw [List.append_cons] at runs
  obtain ⟨before, use, since, split, asks, fresh⟩ := keeps.exists_asks_of_runs runs asked
  rw [List.filterMap_append, List.filterMap_cons_some isFetch, List.filterMap_nil] at split
  apply Scheme.contains_of_repeat empty split asks
  · rw [← whole]
    apply clock.filterMap
    intro a b inOrder useA usedA useB usedB
    rw [Act.now_of_use? usedA, Act.now_of_use? usedB]
    exact inOrder
  · rw [← whole, List.forall_mem_filterMap]
    intro act member use used
    rw [Act.now_of_use? used]
    exact past act member
  · exact fresh
  · rw [List.forall_mem_filterMap]
    intro act member use used isPurge
    exact kept act member (keeps.purges_of_isPurgeOf used isPurge)
  · exact (keeps.card_touched_le request between).trans_lt few

/-- A look that was made before then makes no inquiry. -/
theorem made_eq_nil {start last : Caches} {earlier between later : List Act} {first second : Act}
    {request : ι} (runs : Runs start (earlier ++ first :: between ++ second :: later) last)
    (empty : (get start).entries = [])
    (clock : (earlier ++ first :: between ++ second :: later).Pairwise fun a b => a.now ≤ b.now)
    (isFirst : first.look? = some (sought request))
    (isSecond : second.look? = some (sought request))
    (asked : ∃ asking ∈ earlier ++ [first], asking.look? = some (sought request) ∧
      asking.made ≠ [] ∧ second.now - asking.now < (get start).lifetime)
    (kept : ∀ act ∈ between, ¬act.Purges (sought request))
    (few : ((sought request).others between).card < (get start).capacity) : second.made = [] := by
  obtain ⟨middle, runsBefore, runsSecond⟩ := runs.of_append
  rw [List.pairwise_append] at clock
  have past : ∀ act ∈ earlier ++ first :: between, act.now ≤ second.now :=
    fun act member => clock.2.2 act member second List.mem_cons_self
  have found := keeps.contains_of_runs runsBefore empty clock.1 past isFirst asked kept few
  cases second with
  | purge cache space now => cases isSecond
  | look looked context made =>
    obtain rfl : looked = sought request := Option.some.inj isSecond
    cases runsSecond with
    | cons fits _ =>
      have same := keeps.fits middle context request made fits
      rw [Scheme.made_fetch] at same
      exact same.trans (if_pos found)

end Keeps

/-- In every session whose moments are in order, nothing is asked for twice: a look that was made
before makes no inquiry if the source was asked for it less than the lifetime of the cache ago, no
purge in between covered it, and fewer other looks than the cache has room for were made in between.
The looks are those of the requests, and of the checks by which plain text is understood; requests
look the same thing up if they ask for the same, however they are spelled; and all inquiries are
made by looks. Whether the source gave something, nothing or an error does not matter. -/
theorem session_asksOnce (settings : Settings) (events : List Event)
    (clock : events.Pairwise fun a b => a.now ≤ b.now) :
    let chronicle := (ofSettings settings).chronicle events
    (∀ a b : KeptRequest, a.look = b.look ↔ a.IsSame b) ∧
    List.Forall₂ Record.IsDoneBy ((ofSettings settings).session events) chronicle ∧
    ∀ (earlier between later : List Act) (first second : Act) (sought : Look),
      chronicle.flatten = earlier ++ first :: between ++ second :: later →
      first.look? = some sought → second.look? = some sought →
      (∃ asking ∈ earlier ++ [first], asking.look? = some sought ∧ asking.made ≠ [] ∧
        second.now - asking.now < settings.lifetime sought.inquiry.cache) →
      (∀ act ∈ between, ¬act.Purges sought) →
      (sought.others between).card < max (settings.capacity sought.inquiry.cache) 1 →
      second.made = [] := by
  intro chronicle
  refine ⟨fun a b => KeptRequest.look_eq_iff_isSame, isDoneBy_session events _, ?_⟩
  intro earlier between later first second sought split isFirst isSecond asked kept few
  obtain ⟨last, runs⟩ := runs_chronicle events (ofSettings settings)
  have inOrder := pairwise_chronicle clock (ofSettings settings)
  rw [split] at runs inOrder
  cases sought with
  | listing query =>
    exact keeps_archives.made_eq_nil runs rfl inOrder isFirst isSecond asked kept few
  | archive request =>
    exact keeps_archive.made_eq_nil runs rfl inOrder isFirst isSecond asked kept few
  | entries request =>
    exact keeps_taxonomies.made_eq_nil runs rfl inOrder isFirst isSecond asked kept few

/-- An archive is looked up twice, with its relations in another spelling the second time. The
source fails, and it is asked once. -/
theorem session_asksOnce_failing :
    let busy : Source := {
      select := fun _ => .error (.persistence "busy")
      archive := fun _ _ => .error (.persistence "busy")
      entries := fun _ _ _ => .error (.persistence "busy") }
    let events : List Event := [⟨busy, 0, .archive 7 ["tags", "artists"]⟩,
      ⟨busy, 3, .entries .tag 0 0⟩, ⟨busy, 5, .archive 7 [" ARTISTS ", "Tags"]⟩]
    events.Pairwise (fun a b => a.now ≤ b.now) ∧ ∃ first check second : Act,
      ((ofSettings {}).chronicle events).flatten = [first, check, second] ∧
        first.made = [.archive 7 [.artist, .tag]] ∧ second.made = [] := by
  intro busy events
  have clock : events.Pairwise fun a b => a.now ≤ b.now := by
    simp [events]
  have asksOnce := (session_asksOnce {} events clock).2.2
  refine ⟨clock, _, _, _, rfl, ?_, ?_⟩
  · decide +kernel
  · apply asksOnce [] [_] [] _ _ (.archive (.ofNames 7 ["tags", "artists"])) rfl rfl
    · decide +kernel
    · exact ⟨_, List.mem_cons_self, rfl, by decide +kernel, by decide +kernel⟩
    · intro act member purges
      rw [List.mem_singleton.mp member] at purges
      exact purges
    · decide +kernel

end Catalogue

end ComicCatalogue
