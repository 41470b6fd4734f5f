import ComicCatalogue.Clause.Token
import ComicCatalogue.Proofs.Selection.Fragment

/-!
# The tokens of joined texts

A token ends where a blank or a closing parenthesis follows it. So a text that is joined from others
with words between them has the tokens of the others, with the words between them, and each value
that is given along with the text stays in the part that it was given with.
-/

namespace ComicCatalogue

namespace Token

variable {c : Char} {pending : Pending} {tokens done : List Token}

/-- A character that is complete by itself completes what stands in front of it. -/
theorem Pending.step_of_finish (begins : begin c = some (tokens, .nothing))
    (finished : pending.finish = some done) :
    pending.step c = some (done ++ tokens, .nothing) := by
  have apart : isWordChar c = false := by
    unfold begin at begins
    split at begins
    · cases begins
    · rename_i apart
      exact Bool.eq_false_iff.mpr apart
  cases pending with
  | nothing =>
    cases finished
    exact begins
  | word letters =>
    cases finished
    rw [step, apart, begins]
    rfl
  | _ => cases finished

theorem Pending.read_cons {next : Pending} (isStep : pending.step c = some (tokens, next))
    (rest : List Char) : pending.read (c :: rest) = (next.read rest).map (tokens ++ ·) := by
  rw [read, isStep, Option.bind_some]

/-- So a text that goes on with such a character is read in two parts. -/
theorem Pending.read_append (begins : begin c = some (tokens, .nothing)) {front : List Char}
    (isRead : pending.read front = some done) (rest : List Char) :
    pending.read (front ++ c :: rest) =
      (Pending.nothing.read rest).map (done ++ tokens ++ ·) := by
  induction front generalizing pending done with
  | nil => exact read_cons (step_of_finish begins isRead) rest
  | cons d front ih =>
    obtain ⟨⟨first, next⟩, isStep, isReadLater⟩ := Option.bind_eq_some_iff.mp isRead
    obtain ⟨later, isReadFront, rfl⟩ := Option.map_eq_some_iff.mp isReadLater
    rw [List.cons_append, read_cons isStep, ih isReadFront, Option.map_map]
    refine congrArg (Option.map · _) (funext fun others => ?_)
    rw [Function.comp_apply, List.append_assoc, List.append_assoc, List.append_assoc]

/-- Between two blanks there is a word of meaning. -/
def Divides (text : String) (word : Keyword) : Prop :=
  ∃ letters, text.toList = ' ' :: (letters ++ [' ']) ∧
    Pending.nothing.read letters = some [.keyword word]

theorem divides_and : Divides " AND " .and :=
  ⟨"AND".toList, by decide +kernel⟩

theorem divides_or : Divides " OR " .or :=
  ⟨"OR".toList, by decide +kernel⟩

/-- Texts with such a word between them are read one by one. -/
theorem Divides.ofText?_append {text : String} {word : Keyword} (divides : Divides text word)
    {first second : String} (isRead : ofText? first = some done)
    (isReadSecond : ofText? second = some tokens) :
    ofText? (first ++ text ++ second) = some (done ++ .keyword word :: tokens) := by
  obtain ⟨letters, same, isWord⟩ := divides
  have blank : begin ' ' = some ([], .nothing) := rfl
  rw [ofText?, String.toList_append, String.toList_append, same, List.append_assoc,
    List.cons_append, List.append_assoc, List.singleton_append, Pending.read_append blank isRead,
    Pending.read_append blank isWord]
  rw [ofText?] at isReadSecond
  rw [isReadSecond]
  simp

theorem ofText?_enclosed {text : String} (isRead : ofText? text = some done) :
    ofText? ("(" ++ text ++ ")") = some (.opening :: (done ++ [.closing])) := by
  have closing : begin ')' = some ([.closing], .nothing) := rfl
  have opening : begin '(' = some ([.opening], .nothing) := rfl
  have front : Pending.nothing.read [] = some [] := rfl
  have letters : ("(" ++ text ++ ")").toList = [] ++ '(' :: (text.toList ++ ')' :: []) := by
    simp [String.toList_append]
  rw [ofText?, letters, Pending.read_append opening front, Pending.read_append closing isRead,
    front]
  simp

/-- Values that fill a row of tokens leave the others to the row behind it. -/
theorem bind_append {first second bound more : List Token} {values others : List Argument}
    (isBound : bind first values = some bound) (isBoundSecond : bind second others = some more) :
    bind (first ++ second) (values ++ others) = some (bound ++ more) := by
  induction first generalizing values bound with
  | nil =>
    cases values with
    | nil =>
      cases isBound
      exact isBoundSecond
    | cons value values => cases isBound
  | cons token first ih =>
    rw [bind] at isBound
    rw [List.cons_append, bind]
    split at isBound
    · rename_i isParameter
      rw [if_pos isParameter]
      obtain ⟨value, isFirst, isBoundRest⟩ := Option.bind_eq_some_iff.mp isBound
      obtain ⟨values, rfl⟩ := List.head?_eq_some_iff.mp isFirst
      obtain ⟨later, isBoundLater, rfl⟩ := Option.map_eq_some_iff.mp isBoundRest
      exact Option.map_eq_some_iff.mpr ⟨_, ih isBoundLater, rfl⟩
    · rename_i isOther
      obtain ⟨later, isBoundLater, rfl⟩ := Option.map_eq_some_iff.mp isBound
      rw [if_neg isOther]
      exact Option.map_eq_some_iff.mpr ⟨_, ih isBoundLater, rfl⟩

theorem bind_of_ne {token : Token} (isOther : token ≠ parameter) {values : List Argument}
    (isBound : bind tokens values = some done) :
    bind (token :: tokens) values = some (token :: done) := by
  rw [bind, if_neg isOther, isBound, Option.map_some]

end Token

namespace Fragment

open Token (Divides)

variable {fragment first second : Fragment} {tokens others : List Token}

theorem tokens?_eq_some_iff : fragment.tokens? = some tokens ↔
    ∃ read, Token.ofText? fragment.condition = some read ∧
      Token.bind read fragment.arguments = some tokens :=
  Option.bind_eq_some_iff

/-- The tokens of two fragments stand one after the other. -/
theorem tokens?_beside {text : String} {word : Keyword} (divides : Divides text word)
    (isRead : first.tokens? = some tokens) (isReadSecond : second.tokens? = some others) :
    (first.beside text second).tokens? = some (tokens ++ .keyword word :: others) := by
  obtain ⟨front, ofText, bound⟩ := tokens?_eq_some_iff.mp isRead
  obtain ⟨back, ofTextSecond, boundSecond⟩ := tokens?_eq_some_iff.mp isReadSecond
  have boundBehind : Token.bind (.keyword word :: back) second.arguments =
      some (.keyword word :: others) := Token.bind_of_ne Token.noConfusion boundSecond
  exact tokens?_eq_some_iff.mpr
    ⟨_, divides.ofText?_append ofText ofTextSecond, Token.bind_append bound boundBehind⟩

theorem tokens?_enclosed (isRead : fragment.tokens? = some tokens) :
    tokens? { fragment with condition := "(" ++ fragment.condition ++ ")" } =
      some (.opening :: (tokens ++ [.closing])) := by
  obtain ⟨front, ofText, bound⟩ := tokens?_eq_some_iff.mp isRead
  have closed : Token.bind (front ++ [.closing]) (fragment.arguments ++ []) =
      some (tokens ++ [.closing]) := Token.bind_append bound rfl
  rw [List.append_nil] at closed
  exact tokens?_eq_some_iff.mpr
    ⟨_, Token.ofText?_enclosed ofText, Token.bind_of_ne Token.noConfusion closed⟩

/-- The tokens of joined fragments stand one after the other. -/
theorem tokens?_joined {text : String} {word : Keyword} (divides : Divides text word)
    {α : Type} {make : α → Fragment} {read : α → List Token} {parts : List α}
    (someParts : parts ≠ [])
    (isRead : ∀ part ∈ parts, (make part).tokens? = some (read part)) :
    (joined text (parts.map make)).tokens? =
      some ([.keyword word].intercalate (parts.map read)) := by
  induction parts with
  | nil => exact absurd rfl someParts
  | cons first rest ih =>
    obtain ⟨isReadFirst, isReadRest⟩ := List.forall_mem_cons.mp isRead
    cases rest with
    | nil =>
      rw [List.map_singleton, List.map_singleton, joined_singleton, List.intercalate_singleton]
      exact isReadFirst
    | cons second rest =>
      have later := ih (List.cons_ne_nil _ _) isReadRest
      rw [List.map_cons, List.map_cons] at later
      rw [List.map_cons, List.map_cons, joined_cons_cons, tokens?_beside divides isReadFirst later,
        List.map_cons, List.map_cons, List.intercalate_cons_cons, List.append_assoc,
        List.singleton_append]

end Fragment

end ComicCatalogue
