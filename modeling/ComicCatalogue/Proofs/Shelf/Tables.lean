import ComicCatalogue.Proofs.Clause.Condition
import ComicCatalogue.Shelf.Tables

/-!
# Conditions on tables

On the tables of a shelf the clauses of a condition say of an archive whether the condition holds of
it. So the archives that the database finds by the fragments of conditions, joined into one, are the
archives that satisfy all of them.
-/

namespace ComicCatalogue

namespace Truth

variable (a b : Bool)

theorem not_ofBool : (ofBool a).not = ofBool !a := by
  cases a <;> rfl

theorem and_ofBool : (ofBool a).and (ofBool b) = ofBool (a && b) := by
  cases a <;> cases b <;> rfl

theorem or_ofBool : (ofBool a).or (ofBool b) = ofBool (a || b) := by
  cases a <;> cases b <;> rfl

theorem foldl_and (answers : List Bool) : answers.foldl (· && ·) a = (a && answers.all id) := by
  induction answers generalizing a with
  | nil => exact (Bool.and_true a).symm
  | cons b answers ih => rw [List.foldl_cons, ih, List.all_cons, Bool.and_assoc, id]

theorem foldl_or (answers : List Bool) : answers.foldl (· || ·) a = (a || answers.any id) := by
  induction answers generalizing a with
  | nil => exact (Bool.or_false a).symm
  | cons b answers ih => rw [List.foldl_cons, ih, List.any_cons, Bool.or_assoc, id]

theorem ofBool_eq_yes_iff : ofBool a = yes ↔ a := by
  cases a <;> decide

end Truth

namespace Value

theorem sign_eq_zero_iff {a b : String} : sign a b = 0 ↔ a = b := by
  unfold sign
  constructor
  · intro none
    split at none
    · cases none
    · split at none
      · assumption
      · cases none
  · rintro rfl
    rw [if_neg (String.lt_irrefl a), if_pos rfl]

theorem compare?_text (a b : String) :
    compare? .equal (text a) (text b) = some (.ofBool (a == b)) := by
  have same : (sign a b == 0) = (a == b) := by
    rw [Bool.eq_iff_iff, beq_iff_eq, beq_iff_eq]
    exact sign_eq_zero_iff
  rw [compare?, Comparison.holds, same]

end Value

theorem Term.value?_containing (scope : Scope) (part : String) :
    (Term.containing part).value? scope = some (.text ("%" ++ part ++ "%")) := rfl

theorem toList_containing (part : String) :
    ("%" ++ part ++ "%").toList = Like.within part.toList := by
  rw [String.toList_append, String.toList_append]
  rfl

namespace Clause

variable {tables : Tables} {scope : Scope}

/-- The clause is answered by yes or no. -/
def Answers (tables : Tables) (scope : Scope) (clause : Clause) (holds : Bool) : Prop :=
  clause.truth? tables scope = some (.ofBool holds)

section

variable {left right : Clause} {a b : Bool}

theorem Answers.not (isAnswer : left.Answers tables scope a) :
    left.not.Answers tables scope !a := by
  rw [Answers, truth?, isAnswer, ← Truth.not_ofBool]
  rfl

theorem Answers.and (isAnswer : left.Answers tables scope a)
    (isAnswerRight : right.Answers tables scope b) :
    (left.and right).Answers tables scope (a && b) := by
  rw [Answers, truth?, isAnswer, isAnswerRight, ← Truth.and_ofBool]
  rfl

theorem Answers.or (isAnswer : left.Answers tables scope a)
    (isAnswerRight : right.Answers tables scope b) :
    (left.or right).Answers tables scope (a || b) := by
  rw [Answers, truth?, isAnswer, isAnswerRight, ← Truth.or_ofBool]
  rfl

/-- Clauses one after the other are answered one after the other. -/
theorem Answers.foldl (isAnswer : left.Answers tables scope a)
    {word : Clause → Clause → Clause} {combine : Bool → Bool → Bool}
    (step : ∀ {left right a b}, left.Answers tables scope a → right.Answers tables scope b →
      (word left right).Answers tables scope (combine a b))
    {clauses : List Clause} {answers : List Bool}
    (areAnswers : List.Forall₂ (Answers tables scope) clauses answers) :
    (clauses.foldl word left).Answers tables scope (answers.foldl combine a) := by
  induction areAnswers generalizing left a with
  | nil => exact isAnswer
  | cons first _ ih => exact ih (step isAnswer first)

end

/-- The test of a slug says of the slug in the row whether it passes. -/
theorem answers_test {table slug : String} (test : SlugTest)
    (found : (Term.column table "slug").value? scope = some (.text slug)) :
    (test.clause table).Answers tables scope (test.passes slug) := by
  rw [Answers]
  cases test with
  | equals expected =>
    have value : (Term.value (.text expected)).value? scope = some (.text expected) := rfl
    simp only [SlugTest.clause, truth?, found, value, Option.bind_eq_bind, Option.bind_some]
    exact Value.compare?_text slug expected
  | contains part =>
    simp only [SlugTest.clause, truth?, found, Term.value?_containing, Option.bind_eq_bind,
      Option.bind_some, Value.like?, toList_containing, SlugTest.passes]

/-- Of every pair of rows it is asked whether they are linked and satisfy the condition. -/
theorem answers_exist {first second : String} {link condition : Clause} {α β : Type}
    {row : α → Row} {other : β → Row} {members : List α} {others : List β}
    {areLinked holds : α → β → Bool}
    (isFirst : tables.lookup first = some (members.map row))
    (isSecond : tables.lookup second = some (others.map other))
    (linked : ∀ a b,
      link.Answers tables ((first, row a) :: (second, other b) :: scope) (areLinked a b))
    (satisfied : ∀ a b,
      condition.Answers tables ((first, row a) :: (second, other b) :: scope) (holds a b)) :
    (exist first second link condition).Answers tables scope
      (members.any fun a => others.any fun b => areLinked a b && holds a b) := by
  let pairs := members.flatMap fun a => others.map fun b => (a, b)
  let answer (pair : α × β) : Truth := .ofBool (areLinked pair.1 pair.2 && holds pair.1 pair.2)
  have rows : (members.map row).flatMap (fun r => (others.map other).map fun o => (r, o)) =
      pairs.map fun pair => (row pair.1, other pair.2) := by
    simp [pairs, List.flatMap_map, List.map_flatMap, Function.comp_def]
  have answers : (pairs.map fun pair => (row pair.1, other pair.2)).mapM (fun pair => do
      let scope := (first, pair.1) :: (second, pair.2) :: scope
      return (← link.truth? tables scope).and (← condition.truth? tables scope)) =
        some (pairs.map answer) := by
    rw [mapM_eq_some_iff, List.forall₂_map_left_iff, List.forall₂_map_right_iff, List.forall₂_same]
    intro pair _
    have isLinked := linked pair.1 pair.2
    have isSatisfied := satisfied pair.1 pair.2
    rw [Answers] at isLinked isSatisfied
    simp [isLinked, isSatisfied, Truth.and_ofBool, answer]
  have found : (pairs.map answer).contains .yes =
      members.any fun a => others.any fun b => areLinked a b && holds a b := by
    rw [Bool.eq_iff_iff]
    simp [pairs, answer, Truth.ofBool_eq_yes_iff]
  rw [← found]
  simp only [Answers, truth?, isFirst, isSecond, Option.bind_eq_bind, Option.bind_some, rows]
    at answers ⊢
  rw [answers]
  rfl

end Clause

namespace Shelf

theorem lookup_tables_name (shelf : Shelf) (taxonomy : Taxonomy) :
    shelf.tables.lookup taxonomy.name =
      some ((shelf.labellings.get taxonomy).labels.map Label.row) := by
  cases taxonomy <;> rfl

theorem lookup_tables_linkTable (shelf : Shelf) (taxonomy : Taxonomy) :
    shelf.tables.lookup taxonomy.linkTable =
      some ((shelf.labellings.get taxonomy).links.map taxonomy.linkRow) := by
  cases taxonomy <;> rfl

end Shelf

namespace Condition

variable (shelf : Shelf) (volume : Volume)

/-- An entry is looked up among the labels of the archive. -/
theorem any_links_eq (taxonomy : Taxonomy) (test : SlugTest) :
    ((shelf.labellings.get taxonomy).links.any fun link =>
      (shelf.labellings.get taxonomy).labels.any fun label =>
        label.id == link.2 && (link.1 == volume.id && test.passes label.slug)) =
      (linked taxonomy test).holds shelf volume := by
  rw [Bool.eq_iff_iff, holds, Shelf.labelsOf, Labelling.labelsOf]
  simp only [List.any_eq_true, List.mem_filter, Bool.and_eq_true, beq_iff_eq, decide_eq_true_eq]
  constructor
  · rintro ⟨link, isLink, label, isLabel, same, isVolume, passes⟩
    refine ⟨label, ⟨isLabel, ?_⟩, passes⟩
    rw [← isVolume, same]
    exact isLink
  · rintro ⟨label, ⟨isLabel, isLink⟩, passes⟩
    exact ⟨_, isLink, label, isLabel, rfl, rfl, passes⟩

/-- The clause of a look-up says whether an entry of the archive passes the test. -/
theorem answers_lookup (taxonomy : Taxonomy) (test : SlugTest) :
    (lookupClause taxonomy test).Answers shelf.tables [("archive", volume.row)]
      ((linked taxonomy test).holds shelf volume) := by
  rw [← any_links_eq]
  refine Clause.answers_exist (shelf.lookup_tables_linkTable taxonomy)
    (shelf.lookup_tables_name taxonomy) (fun link label => ?_) fun link label => ?_
  · cases taxonomy <;> rfl
  · refine Clause.Answers.and ?_ (Clause.answers_test test ?_)
    · cases taxonomy <;> rfl
    · cases taxonomy <;> rfl

theorem answers_path (part : String) :
    (Clause.like (.column "archive" "path_folded") (.containing (pathPattern part)) '\\').Answers
      shelf.tables [("archive", volume.row)] ((path part).holds shelf volume) := by
  have subject : (Term.column "archive" "path_folded").value? [("archive", volume.row)] =
      some (.text volume.foldedPath) := rfl
  simp only [Clause.Answers, Clause.truth?, subject, Term.value?_containing, Option.bind_eq_bind,
    Option.bind_some, Value.like?, toList_containing, holds]

theorem answers_pages (bound : PageBound) :
    (Clause.compare bound.comparison (.column "archive" "pages")
      (.value (.integer bound.count))).Answers shelf.tables [("archive", volume.row)]
        ((pages bound).holds shelf volume) := rfl

theorem answers_published : (Clause.present (.column "archive" "published_at")).Answers shelf.tables
    [("archive", volume.row)] volume.publishedAt.isSome := by
  obtain ⟨_, _, _, _, _, _, _, _, _, publishedAt, _⟩ := volume
  cases publishedAt <;> rfl

theorem answers_kept : (Clause.compare .equal (.column "archive" "expunged")
    (.value (.integer 0))).Answers shelf.tables [("archive", volume.row)] !volume.withdrawn := by
  obtain ⟨_, _, _, _, _, _, _, _, _, _, withdrawn⟩ := volume
  cases withdrawn <;> rfl

/-- The clauses of a condition are right for an archive together if the condition holds of it. -/
theorem exists_answers (condition : Condition) (proper : condition.IsProper) :
    ∃ answers, List.Forall₂ (Clause.Answers shelf.tables [("archive", volume.row)])
        condition.clauses answers ∧ answers.all id = condition.holds shelf volume := by
  have one {clause : Clause} (isAnswer : clause.Answers shelf.tables [("archive", volume.row)]
      (condition.holds shelf volume)) : ∃ answers, List.Forall₂
        (Clause.Answers shelf.tables [("archive", volume.row)]) [clause] answers ∧
          answers.all id = condition.holds shelf volume :=
    ⟨[_], .cons isAnswer .nil, Bool.and_true _⟩
  cases condition with
  | path part => exact one (answers_path shelf volume part)
  | title test => exact one (Clause.answers_test test rfl)
  | linked taxonomy test => exact one (answers_lookup shelf volume taxonomy test)
  | linkedAny taxonomy tests =>
    obtain ⟨test, rest, rfl⟩ := List.exists_cons_of_ne_nil proper
    refine one ?_
    have lookups := List.forall₂_map_left_iff.mpr (List.forall₂_map_right_iff.mpr
      (List.forall₂_same.mpr fun next (_ : next ∈ rest) =>
        answers_lookup shelf volume taxonomy next))
    have found := (answers_lookup shelf volume taxonomy test).foldl Clause.Answers.or lookups
    rw [Truth.foldl_or, List.any_map] at found
    exact found
  | unlinked taxonomy test => exact one (answers_lookup shelf volume taxonomy test).not
  | pages bound => exact one (answers_pages shelf volume bound)
  | visible =>
    refine ⟨[_, _],
      .cons (answers_published shelf volume) (.cons (answers_kept shelf volume) .nil), ?_⟩
    simp [holds, Volume.isVisible]

/-- The clauses of several conditions are right for an archive together if all conditions hold of
it. -/
theorem exists_answers_flatMap {conditions : List Condition}
    (proper : ∀ condition ∈ conditions, condition.IsProper) :
    ∃ answers, List.Forall₂ (Clause.Answers shelf.tables [("archive", volume.row)])
        (conditions.flatMap clauses) answers ∧
      answers.all id = conditions.all (·.holds shelf volume) := by
  induction conditions with
  | nil => exact ⟨[], .nil, rfl⟩
  | cons first rest ih =>
    obtain ⟨properFirst, properRest⟩ := List.forall_mem_cons.mp proper
    obtain ⟨answers, areAnswers, same⟩ := exists_answers shelf volume first properFirst
    obtain ⟨later, areAnswersRest, sameRest⟩ := ih properRest
    refine ⟨answers ++ later, List.rel_append areAnswers areAnswersRest, ?_⟩
    rw [List.all_append, List.all_cons, same, sameRest]

end Condition

namespace Shelf

/-- The archives that the database finds by a clause are those that it is right for. -/
theorem foundBy?_of_answers {shelf : Shelf} {clause : Clause} {holds : Volume → Bool}
    (isAnswer : ∀ volume, clause.Answers shelf.tables [("archive", volume.row)] (holds volume)) :
    shelf.foundBy? clause = some (shelf.volumes.filter holds) := by
  have answers : shelf.volumes.mapM (fun volume =>
      clause.truth? shelf.tables [("archive", volume.row)]) =
        some (shelf.volumes.map fun volume => .ofBool (holds volume)) := by
    rw [Clause.mapM_eq_some_iff, List.forall₂_map_right_iff, List.forall₂_same]
    exact fun volume _ => isAnswer volume
  simp only [foundBy?, answers, Option.bind_eq_bind, Option.bind_some, Option.pure_def,
    Option.some.injEq]
  induction shelf.volumes with
  | nil => rfl
  | cons volume volumes ih =>
    rw [List.map_cons, List.zip_cons_cons, List.filterMap_cons, List.filter_cons, ih]
    cases holds volume <;> rfl

/-- By the fragments of conditions, joined into one, the database finds the archives that satisfy
all of them. -/
theorem found?_allOf (shelf : Shelf) {conditions : List Condition}
    (someConditions : conditions ≠ []) (proper : ∀ condition ∈ conditions, condition.IsProper) :
    shelf.found? (Fragment.allOf (conditions.map Condition.fragment)) =
      some (shelf.matching conditions) := by
  have someClauses := Condition.flatMap_clauses_ne_nil someConditions proper
  obtain ⟨first, rest, same⟩ := List.exists_cons_of_ne_nil someClauses
  have isRead := Condition.clause?_allOf someConditions proper
  rw [same, Clause.chain] at isRead
  rw [found?, isRead, Option.bind_eq_bind, Option.bind_some]
  refine foundBy?_of_answers fun volume => ?_
  obtain ⟨answers, areAnswers, sameAnswers⟩ :=
    Condition.exists_answers_flatMap shelf volume proper
  rw [same] at areAnswers
  cases areAnswers with
  | cons isAnswer areAnswersRest =>
    rw [← sameAnswers, List.all_cons, id, ← Truth.foldl_and]
    exact isAnswer.foldl Clause.Answers.and areAnswersRest

/-- So it does for the conditions of a query. -/
theorem found?_ofQuery (shelf : Shelf) (query : Query) :
    shelf.found? (Fragment.allOf (Selection.ofQuery query).fragments) =
        some (shelf.matching (Condition.ofQuery query)) ∧
      shelf.found? (Fragment.allOf (Selection.ofQuery query).countedFragments) =
        some (shelf.matching (Condition.ofQuery query)) := by
  have someConditions : Condition.ofQuery query ≠ [] := by simp [Condition.ofQuery]
  have found := shelf.found?_allOf someConditions fun _ => Condition.isProper_of_mem_ofQuery
  exact ⟨found, found⟩

end Shelf

end ComicCatalogue
