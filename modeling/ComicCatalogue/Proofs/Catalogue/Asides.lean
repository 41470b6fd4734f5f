import ComicCatalogue.Catalogue
import ComicCatalogue.Proofs.Search.Append

/-!
# Plain words beside directives

A line with directives asks for what these say. Its other words are not looked at, so it makes no
difference if plain words are written behind such a line or in front of it.
-/

namespace ComicCatalogue.Catalogue

open Search (Gap Reading ArePlainWords)

theorem parse_of_isStructured {line : String} (structured : (Reading.ofLine line).isStructured) :
    parse line = pure (Draft.addDirectives {} (Reading.ofLine line).directives) := by
  rw [parse, if_pos structured]

/-- Plain words in front of a structured line, or behind it, change nothing of what it asks for. -/
theorem parse_append_of_arePlainWords {line words : String} (gap : Gap)
    (structured : (Reading.ofLine line).isStructured) (plain : ArePlainWords words) :
    parse (line ++ String.ofList gap.text ++ words) = parse line ∧
      parse (words ++ String.ofList gap.text ++ line) = parse line := by
  have behind : (Reading.ofLine (line ++ String.ofList gap.text ++ words)).isStructured := by
    rw [Reading.isStructured_append gap (.inr plain.quoteless), structured, Bool.true_or]
  have inFront : (Reading.ofLine (words ++ String.ofList gap.text ++ line)).isStructured := by
    rw [Reading.isStructured_append gap (.inl plain.quoteless), structured, Bool.or_true]
  obtain ⟨sameBehind, sameInFront⟩ := plain.directives_append line gap
  rw [parse_of_isStructured behind, parse_of_isStructured inFront, parse_of_isStructured structured,
    sameBehind, sameInFront]
  exact ⟨rfl, rfl⟩

/-- Two lines with white space between them are read one after the other, unless both have quotes,
and plain words change nothing of what a structured line asks for. -/
theorem ofLine_append_and_parse_append (first second : String) (gap : Gap) :
    ('"' ∉ first.toList ∨ '"' ∉ second.toList →
      Reading.ofLine (first ++ String.ofList gap.text ++ second) =
        Reading.ofLine first ++ Reading.ofLine second) ∧
      ((Reading.ofLine first).isStructured → ArePlainWords second →
        parse (first ++ String.ofList gap.text ++ second) = parse first) ∧
      ((Reading.ofLine second).isStructured → ArePlainWords first →
        parse (first ++ String.ofList gap.text ++ second) = parse second) :=
  ⟨Reading.ofLine_append gap,
    fun structured plain => (parse_append_of_arePlainWords gap structured plain).1,
    fun structured plain => (parse_append_of_arePlainWords gap structured plain).2⟩

/-- A tab. -/
def tab : Gap := ⟨['\t'], List.cons_ne_nil _ _, List.forall_mem_singleton.mpr (by decide)⟩

/-- A quote that is not closed reaches no further than the line it is in. -/
theorem ofLine_append_and_parse_append_open_quote :
    Reading.ofLine "tag:\"big eyes\tpages:>=20" =
        Reading.ofLine "tag:\"big eyes" ++ Reading.ofLine "pages:>=20" ∧
      parse "tag:\"big eyes\told paper" = parse "tag:\"big eyes" ∧
      parse "old paper\ttag:\"big eyes" = parse "tag:\"big eyes" := by
  have structured : (Reading.ofLine "tag:\"big eyes").isStructured := by decide +kernel
  have plain : ArePlainWords "old paper" :=
    ⟨by decide, Reading.isStructured_eq_false_iff_words.mp (by decide +kernel)⟩
  exact ⟨(ofLine_append_and_parse_append "tag:\"big eyes" "pages:>=20" tab).1 (.inr (by decide)),
    (ofLine_append_and_parse_append "tag:\"big eyes" "old paper" tab).2.1 structured plain,
    (ofLine_append_and_parse_append "old paper" "tag:\"big eyes" tab).2.2 structured plain⟩

end ComicCatalogue.Catalogue
