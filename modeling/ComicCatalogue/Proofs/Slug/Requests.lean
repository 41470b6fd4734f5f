import Mathlib.Data.Finset.Card
import ComicCatalogue.Proofs.Slug.Memo

/-!
# What a memo answers over time

A memo is asked for slugs again and again. Its answers are those of slugs that are computed afresh,
and it remembers exactly one slug for each spelling, up to case, of the texts that it was asked for.
-/

namespace ComicCatalogue.Slug.Memo

/-- What a memo is asked for: the slug of a text, or the slugs of several texts at once. -/
inductive Request where
  | one (text : String)
  | several (texts : List String)
  deriving DecidableEq, Repr

/-- The answer to a request: a slug, or the slugs that are not empty. -/
inductive Answer where
  | one (slug : String)
  | several (slugs : List String)
  deriving DecidableEq, Repr

namespace Request

/-- The texts that a request names. -/
def texts : Request → List String
  | one text => [text]
  | several texts => texts

/-- The answer that a memo gives. -/
def perform : Request → StateM Memo Answer
  | one text => return .one (← slug text)
  | several texts => return .several (← slugs texts)

/-- The answer when every slug is computed afresh. -/
def answer : Request → Answer
  | one text => .one (ofText text)
  | several texts => .several ((texts.map ofText).filter (!·.isEmpty))

end Request

/-- The answers to requests in turn, each with the size of the memo behind it. -/
def observe (requests : List Request) : StateM Memo (List (Answer × Nat)) :=
  requests.mapM fun request => do
    let answer ← request.perform
    return (answer, (← get).size)

/-- The spellings in lower case of the texts that are not empty. -/
def spellings (texts : List String) : Finset String :=
  ((texts.filter (!·.isEmpty)).map Text.lowercase).toFinset

theorem mem_spellings {key : String} {texts : List String} :
    key ∈ spellings texts ↔ ∃ text ∈ texts, text ≠ "" ∧ Text.lowercase text = key := by
  simp [spellings, and_assoc]

/-- A memo has seen some texts if it is sound and each of their spellings has one entry. -/
structure HasSeen (memo : Memo) (texts : List String) : Prop where
  sound : memo.Sound
  nodup : (memo.known.map Prod.fst).Nodup
  keys : ∀ key, key ∈ memo.known.map Prod.fst ↔ key ∈ spellings texts

variable {memo : Memo} {texts : List String}

theorem hasSeen_nil : HasSeen {} [] where
  sound := sound_empty
  nodup := List.nodup_nil
  keys key := by simp [spellings]

theorem HasSeen.size_eq (seen : memo.HasSeen texts) : memo.size = (spellings texts).card := by
  have same : spellings texts = (memo.known.map Prod.fst).toFinset := by
    ext key
    rw [List.mem_toFinset]
    exact (seen.keys key).symm
  rw [same, List.toFinset_card_of_nodup seen.nodup, List.length_map, size]

/-- A slug is noted down if its text is not empty and has not been met in any case before, and
otherwise the memo stays as it is. -/
theorem slug_cases (text : String) (memo : Memo) :
    ((text = "" ∨ Text.lowercase text ∈ memo.known.map Prod.fst) ∧
        ((slug text).run memo).2 = memo) ∨
      (text ≠ "" ∧ Text.lowercase text ∉ memo.known.map Prod.fst ∧
        ((slug text).run memo).2 =
          ⟨(Text.lowercase text, ofText (Text.lowercase text)) :: memo.known⟩) := by
  unfold slug
  by_cases empty : text = ""
  · left
    subst empty
    exact ⟨.inl rfl, rfl⟩
  · cases found : memo.known.lookup (Text.lowercase text) with
    | some known =>
      left
      obtain ⟨before, after, same, _⟩ := List.lookup_eq_some_iff.mp found
      refine ⟨.inr ?_, by simp [empty, found]; rfl⟩
      simp [same]
    | none =>
      right
      refine ⟨empty, ?_, by simp [empty, found]; rfl⟩
      intro member
      obtain ⟨entry, inside, same⟩ := List.mem_map.mp member
      have apart := List.lookup_eq_none_iff.mp found entry inside
      simp [same] at apart

/-- A memo that is asked for a slug has then seen its text too. -/
theorem HasSeen.slug (seen : memo.HasSeen texts) (text : String) :
    HasSeen ((slug text).run memo).2 (texts ++ [text]) := by
  have sound := (yields_slug text memo seen.sound).2
  have known := seen.keys
  simp only [mem_spellings] at known
  rcases slug_cases text memo with ⟨old, same⟩ | ⟨some, fresh, same⟩
  · rw [same] at sound ⊢
    refine ⟨sound, seen.nodup, fun key => ?_⟩
    rw [known, mem_spellings]
    rw [known] at old
    grind
  · rw [same] at sound ⊢
    refine ⟨sound, List.nodup_cons.mpr ⟨fresh, seen.nodup⟩, fun key => ?_⟩
    rw [List.map_cons, List.mem_cons, known, mem_spellings]
    grind

/-- A memo that is asked for the slugs of texts in turn has then seen them all. -/
theorem HasSeen.mapM_slug (seen : memo.HasSeen texts) (more : List String) :
    HasSeen ((more.mapM Memo.slug).run memo).2 (texts ++ more) := by
  induction more generalizing memo texts with
  | nil =>
    rw [List.append_nil]
    exact seen
  | cons text rest ih =>
    have later := ih (seen.slug text)
    rw [List.append_assoc, List.singleton_append] at later
    rw [List.mapM_cons]
    exact later

/-- A memo gives the answer of slugs that are computed afresh. -/
theorem yields_perform (request : Request) : Yields request.perform request.answer := by
  cases request with
  | one text => exact (yields_slug text).bind (Yields.pure _)
  | several texts => exact (yields_slugs texts).bind (Yields.pure _)

/-- After a request a memo has seen the texts that it names. -/
theorem HasSeen.perform (seen : memo.HasSeen texts) (request : Request) :
    HasSeen (request.perform.run memo).2 (texts ++ request.texts) := by
  cases request with
  | one text => exact seen.slug text
  | several more => exact seen.mapM_slug more

/-- From a memo that has seen some texts, the requests are answered in turn, and the memo has seen
their texts too. -/
theorem getElem?_observe (seen : memo.HasSeen texts) (requests : List Request) (n : Nat) :
    ((observe requests).run memo).1[n]? = requests[n]?.map fun request =>
      (request.answer,
        (spellings (texts ++ (requests.take (n + 1)).flatMap Request.texts)).card) := by
  induction requests generalizing memo texts n with
  | nil => rfl
  | cons request rest ih =>
    have right := (yields_perform request memo seen.sound).1
    have after := seen.perform request
    have split : ((observe (request :: rest)).run memo).1 =
        ((request.perform.run memo).1, (request.perform.run memo).2.size) ::
          ((observe rest).run (request.perform.run memo).2).1 := by
      rw [observe, List.mapM_cons]
      rfl
    rw [split, right]
    cases n with
    | zero =>
      simp [after.size_eq]
    | succ n =>
      simp [ih after, List.append_assoc]

/-- The memo cannot be seen in its answers: however requests follow one another, each is answered as
if its slugs were computed afresh. After each of them the memo is as large as there are spellings in
lower case of the texts so far that are not empty. For a text and its lower case have one slug. -/
theorem observe_answers (requests : List Request) (n : Nat) :
    ((observe requests).run {}).1[n]? = requests[n]?.map (fun request =>
        (request.answer, (spellings ((requests.take (n + 1)).flatMap Request.texts)).card)) ∧
      ∀ text, ofText (Text.lowercase text) = ofText text := by
  refine ⟨?_, ofText_lowercase⟩
  have observed := getElem?_observe hasSeen_nil requests n
  rwa [List.nil_append] at observed

/-- The second text is a spelling of the first one, and the third has no slug. -/
example : ((observe [.one "Hello World", .several ["HELLO WORLD", "!", ""]]).run {}).1 =
    [(.one "hello-world", 1), (.several ["hello-world"], 2)] := by
  decide +kernel

end ComicCatalogue.Slug.Memo
