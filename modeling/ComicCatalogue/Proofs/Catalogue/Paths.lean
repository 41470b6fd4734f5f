import ComicCatalogue.Proofs.Catalogue.Steps
import ComicCatalogue.Proofs.Shelf.Selected
import ComicCatalogue.Proofs.Unicode.Edges

/-!
# Searching for a part of the path

A plain line that is no name is looked for in the paths, and both are put in lower case for that,
each on its own. A line that occurs in a path is found in it unless a capital sigma ends a word in
the one and not in the other.
-/

namespace ComicCatalogue

/-- What a plain text adds to a draft when it is understood as a part of the path. -/
theorem Directory.understand_of_path {text : String} {draft : Draft} {context : Context}
    {traced : Traced Directory}
    (resolves : (understand text draft context traced).1.1 = .path) :
    (understand text draft context traced).1.2 = { draft with path := some (Text.trim text) } ∧
      (Text.trim text).isEmpty = false := by
  unfold understand at resolves ⊢
  simp only at resolves ⊢
  generalize Text.trim text = trimmed at resolves ⊢
  by_cases empty : trimmed.isEmpty
  · rw [if_pos empty] at resolves
    cases resolves
  · refine ⟨?_, by simpa using empty⟩
    rw [if_neg empty, Service.bind_apply] at resolves ⊢
    generalize firstKnowing trimmed lookedUp context traced = first at resolves ⊢
    obtain ⟨first, after⟩ := first
    cases first with
    | some taxonomy => cases resolves
    | none =>
      -- What follows the words stands in both branches.
      by_cases many : 1 < (Text.words trimmed).length
      · simp only [if_pos many, Service.bind_apply] at resolves ⊢
        split at resolves
        · rename_i noTags
          rw [if_pos noTags]
          rfl
        · cases resolves
      · simp only [if_neg many, Service.bind_apply, Service.pure_apply] at resolves ⊢
        rfl

/-- A trimmed text that is not blank settles as a path into its lower case. -/
theorem Draft.settlePath_trim {text : String} (some : (Text.trim text).isEmpty = false) :
    settlePath (.some (Text.trim text)) = .some (Text.lowercase (Text.trim text)) := by
  have trimmed : Text.trim (Text.trim text) = Text.trim text := by
    rw [Text.trim, Text.trim, String.toList_ofList, Unicode.trim_trim]
  have lower : (Text.lowercase (Text.trim text)).isEmpty = false := by
    have notNil : (Text.trim text).toList ≠ [] := by simpa using some
    simpa [Text.lowercase] using Unicode.lowercase_ne_nil notNil
  rw [settlePath, Option.map_some, trimmed, Option.filter_some, lower]
  rfl

/-- A draft without names, titles and bounds on pages settles into a query without them. -/
theorem Draft.settled_of_nameless {draft : Draft} (noTitle : draft.titleEquals = none)
    (noPart : draft.titleContains = none) (noNames : draft.filters = .const {})
    (noPages : draft.pages = []) :
    draft.settled.title = none ∧ draft.settled.filters = .const {} ∧
      draft.settled.pages = none := by
  rw [settled_title, settled_filters, settled_pages, canonicalTitle, noTitle, noPart, noNames,
    noPages]
  exact ⟨rfl, rfl, rfl⟩

/-- It asks for visible archives by their path. -/
theorem Draft.conditions_of_nameless {draft : Draft} (noTitle : draft.titleEquals = none)
    (noPart : draft.titleContains = none) (noNames : draft.filters = .const {})
    (noPages : draft.pages = []) :
    Condition.ofQuery draft.settled =
      ((settlePath draft.path).map Condition.path).toList ++ [.visible] := by
  obtain ⟨title, filters, pages⟩ := settled_of_nameless noTitle noPart noNames noPages
  rw [Condition.ofQuery, settled_path, title, filters, pages]
  simp [Taxonomy.all, Condition.ofFilter, PerTaxonomy.const]

namespace Catalogue

variable {context : Context} {traced : Traced Catalogue} {request : SearchRequest}

/-- A draft without names and titles settles into the same query whatever slugs are remembered. -/
theorem settle_of_nameless {draft : Draft} (noTitle : draft.titleEquals = none)
    (noPart : draft.titleContains = none) (noNames : draft.filters = .const {}) :
    (settle draft context traced).1 = draft.settled := by
  rw [settle, Service.update_apply, Draft.settle_of_nameless noTitle noPart noNames]
  rfl

/-- A plain line that is understood as a part of the path is looked for in the paths only. -/
theorem conditions_search_of_path
    (plain : (Search.Reading.ofLine request.line).isStructured = false)
    (resolves : (Directory.understand request.line {} context
      ⟨traced.state.directory, traced.inquiries⟩).1.1 = .path) :
    Condition.ofQuery (search request context traced).1.query =
      [.path (Text.lowercase (Text.trim request.line)), .visible] := by
  obtain ⟨understood, some⟩ := Directory.understand_of_path resolves
  have parsed : (parse request.line context traced).1 =
      { path := .some (Text.trim request.line) } := by
    rw [← understood, parse, plain, if_neg Bool.false_ne_true, Service.bind_apply, inDirectory,
      Service.part_apply, Service.pure_apply]
  rw [search_apply]
  simp only [parsed]
  rw [settle_of_nameless rfl rfl rfl, Draft.conditions_of_nameless rfl rfl rfl rfl, pageDraft,
    Draft.settlePath_trim some]
  rfl

/-- On every shelf that came about by changes, a search whose line is understood as a part of the
path asks for the visible archives with the lower case of the trimmed line in their folded path. The
condition holds of each archive in whose path the trimmed line occurs, if every capital sigma of the
line ends a word there if and only if it does so in the line alone. Neither the path may have a null
character nor the pattern be too long. -/
theorem holds_path_of_occurs (changes : List ShelfChange) (volume : Volume) (context : Context)
    (traced : Traced Catalogue) (request : SearchRequest) (front back : List Char)
    (member : volume ∈ (Shelf.ofChanges changes).volumes)
    (notNull : ∀ c ∈ volume.path.toList, c.toNat ≠ 0)
    (plain : (Search.Reading.ofLine request.line).isStructured = false)
    (resolves : (Directory.understand request.line {} context
      ⟨traced.state.directory, traced.inquiries⟩).1.1 = .path)
    (occurs : volume.path.toList = front ++ (Text.trim request.line).toList ++ back)
    (agree : Unicode.SigmasAgree (Text.trim request.line).toList front back [] [])
    (short : Like.patternBytes (Like.within (Like.escape
      (Text.lowercase (Text.trim request.line)).toList)) ≤ Like.maxPatternBytes) :
    let condition : Condition := .path (Text.lowercase (Text.trim request.line))
    Condition.ofQuery (search request context traced).1.query = [condition, .visible] ∧
      condition.holds (Shelf.ofChanges changes) volume ∧
      condition.fails (Shelf.ofChanges changes) volume = false := by
  have sound : (Shelf.ofChanges changes).Sound := Shelf.sound_ofChanges changes
  intro condition
  refine ⟨conditions_search_of_path plain resolves, ?_, ?_⟩
  · have folded : Like.IsFolded (Text.lowercase (Text.trim request.line)).toList := by
      rw [Text.lowercase, String.toList_ofList]
      exact fun _ => Unicode.toLower_of_mem_lowercase
    rw [Condition.holds_path_iff sound member folded, sound.foldedPaths volume member,
      Text.lowercase, Text.lowercase, String.toList_ofList, String.toList_ofList]
    -- The texts are made variables, so that no step unfolds them.
    generalize volume.path.toList = path at notNull occurs ⊢
    generalize (Text.trim request.line).toList = text at occurs agree ⊢
    subst occurs
    exact Like.finds_of_isInfix (fun _ => Unicode.toNat_ne_zero_of_mem_lowercase notNull)
      (Unicode.lowercase_isInfix agree)
  · rw [Condition.fails, Condition.pathPattern, String.toList_ofList]
    exact decide_eq_false (Nat.not_lt.mpr short)

/-- The sigma at the end of the line ends the word in the path too, and the one before it does not
matter. -/
theorem holds_path_of_occurs_final :
    let shelf := Shelf.ofChanges [.put 0 { title := "X", path := "/Σ/ΑΣ" }]
    let request : SearchRequest := { line := " ΑΣ " }
    ∃ volume ∈ shelf.volumes, volume.path = "/Σ/ΑΣ" ∧
      Condition.ofQuery (search request ⟨shelf.source, 1⟩ ⟨ofSettings {}, []⟩).1.query =
        [.path (Text.lowercase (Text.trim " ΑΣ ")), .visible] ∧
      (Condition.path (Text.lowercase (Text.trim " ΑΣ "))).holds shelf volume := by
  intro shelf request
  have member : Shelf.volumeOf 0 1 { title := "X", path := "/Σ/ΑΣ" } ∈ shelf.volumes := by
    decide +kernel
  have notNull : "/Σ/ΑΣ".toList.all (·.toNat ≠ 0) := by decide +kernel
  obtain ⟨conditions, holds, _⟩ := holds_path_of_occurs [.put 0 { title := "X", path := "/Σ/ΑΣ" }] _
    ⟨shelf.source, 1⟩ ⟨ofSettings {}, []⟩ request ['/', 'Σ', '/'] [] member
    (fun c inPath => of_decide_eq_true (List.all_eq_true.mp notNull c inPath))
    (by decide +kernel) (by decide +kernel) (by decide +kernel) (by decide +kernel)
    (by decide +kernel)
  exact ⟨_, member, rfl, conditions, holds⟩

/-- The line occurs in the path, but its sigma ends the word in the line only, so the archive is not
found. -/
theorem not_holds_path_of_sigma :
    let shelf := Shelf.ofChanges [.put 0 { title := "X", path := "/ΑΣΑ" }]
    let request : SearchRequest := { line := "ΑΣ" }
    (Search.Reading.ofLine request.line).isStructured = false ∧
      (Directory.understand request.line {} ⟨shelf.source, 1⟩
        ⟨(ofSettings {}).directory, []⟩).1.1 = .path ∧
      shelf.volumes.map (fun volume => (volume.path, volume.foldedPath)) = [("/ΑΣΑ", "/ασα")] ∧
      (Text.trim request.line).toList <:+: "/ΑΣΑ".toList ∧
      Condition.ofQuery (search request ⟨shelf.source, 1⟩ ⟨ofSettings {}, []⟩).1.query =
        [.path "ας", .visible] ∧
      shelf.volumes.map ((Condition.path "ας").holds shelf) = [false] := by
  decide +kernel

end Catalogue

end ComicCatalogue
