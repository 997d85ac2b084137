import Locator.Path.Html
import Locator.Proofs.Path.Compilation
import Locator.Proofs.Path.WellFormed

/-!
# The text of a path

What can be said of the text alone: it is an expression of XPath 1.0 that holds strings only where they can do
no harm, and read as such an expression it selects the nodes that the path describes.
-/

namespace Locator

open Locator.XPath

set_option autoImplicit false

/-- The text is cut into the tokens, with every string closed and every bracket balanced. The strings and
names of the expression are among those allowed, and the tokens hold them, spelled out, and no others. -/
structure Prints (text : String) (expression : Expr) (allowed : List Leaf) (tokens : List Token) :
    Prop where
  lexes : Lexes none text.toList tokens
  balanced : Balanced tokens
  leaves : expression.leaves ⊆ allowed
  holds : tokens.filterMap Token.leaf? = expression.leaves.flatMap Leaf.spelled

theorem XPath.Expr.Draws.prints {allowed : List Leaf} {level : Level} {expression : Expr}
    (draws : expression.Draws allowed level) :
    ∃ tokens, Prints expression.print expression allowed tokens ∧
      expression.form.Shows expression.spelled tokens := by
  obtain ⟨tokens, text, shows⟩ := expression.written draws.fits
  have reading := shows.whole
  have holds := reading.holds
  simp only [Phrase.Holds, Expr.leaves_spelled] at holds
  exact ⟨tokens, ⟨text.whole, reading.balanced, draws.leaves, holds.symm⟩, shows⟩

/-- Without fragments of text, a path prints a path expression: a location path, or a filter expression, alone or
with steps after it. It is a filter expression alone when the kind of the path is a set, and a location path when no
set stands at its start. A property prints one operand of `and`. -/
theorem printed_wellFormed :
    (∀ path : Path, path.fragmentFree = true → ∃ tokens,
      Prints path.toXPath path.query (fixedLeaves ++ path.leaves) tokens ∧
        Derives (.expression .path path.query.spelled) tokens ∧
        (path.node.isSet = true → Derives (.filter path.query.spelled) tokens) ∧
        (path.opensWithSet = false → Derives (.location path.query.spelled) tokens)) ∧
    ∀ property : Property, property.uses (fun _ => true) = true → ∃ tokens,
      Prints property.toXPath property.condition (fixedLeaves ++ property.leaves) tokens ∧
        Derives (.expression .equality property.condition.spelled) tokens := by
  constructor
  · intro path free
    obtain ⟨draws, isFilter, isLocation⟩ := Path.query_draws path free
      (List.subset_append_left fixedLeaves path.leaves) (List.subset_append_right fixedLeaves path.leaves)
    rcases draws.prints with ⟨tokens, prints, shows⟩
    refine ⟨tokens, prints, shows.path draws.isPath, ?_, ?_⟩
    · intro isSet
      exact shows.filter (isFilter isSet)
    · intro located
      rw [isLocation located] at shows
      exact Extends.derives shows
  · intro property free
    have draws := Property.condition_draws property free
      (List.subset_append_left fixedLeaves property.leaves)
      (List.subset_append_right fixedLeaves property.leaves)
    rcases draws.prints with ⟨tokens, prints, shows⟩
    exact ⟨tokens, prints, shows.operand draws.binds⟩

/-- With a step after a filter expression, the text is neither a location path nor a filter expression. -/
theorem printed_neither_location_nor_filter :
    let path := Html.input.inside Html.form.first
    path.fragmentFree = true ∧ path.toXPath = "(//form)[1]//input" ∧
      ∀ tokens expression, Lexes none path.toXPath.toList tokens →
        ¬Derives (.location expression) tokens ∧ ¬Derives (.filter expression) tokens := by
  intro path
  have text : path.toXPath = "(//form)[1]//input" := by decide +kernel
  have cut : Lexes none "(//form)[1]//input".toList
      [.opening, .slashes, .name "form", .closing, .openingBracket, .number 1, .closingBracket, .slashes,
        .name "input"] := by
    iterate 9 refine .token rfl ?_
    exact .done _
  refine ⟨by decide, text, fun tokens expression lexes => ?_⟩
  rw [text] at lexes
  obtain rfl := lexes.unique cut
  exact ⟨fun location => location.location_start rfl, fun filter => filter.filter_end "input" rfl⟩

/-- Neither kind of quote closes a string early, in a name or in a text. -/
theorem printed_wellFormed_quotes :
    (Path.tag "it's \"odd\"").fragmentFree = true ∧
    (Property.hasText "'] | //\"").uses (fun _ => true) = true ∧
    (∃ tokens, Derives (.location (Path.tag "it's \"odd\"").query.spelled) tokens ∧
      tokens.filterMap Token.leaf? =
        (Path.tag "it's \"odd\"").query.leaves.flatMap Leaf.spelled) ∧
    ∃ tokens, Derives (.expression .equality (Property.hasText "'] | //\"").condition.spelled) tokens ∧
      Balanced tokens := by
  have pathFree : (Path.tag "it's \"odd\"").fragmentFree = true := by decide
  have propertyFree : (Property.hasText "'] | //\"").uses (fun _ => true) = true := by decide
  obtain ⟨tokens, prints, -, -, isLocation⟩ := printed_wellFormed.1 _ pathFree
  obtain ⟨tokens', prints', operand⟩ := printed_wellFormed.2 _ propertyFree
  exact ⟨pathFree, propertyFree, ⟨tokens, isLocation (by decide), prints.holds⟩, tokens', operand,
    prints'.balanced⟩

/-- Read by the grammar, the text of a path without fragments of text and without adjacency selects the
nodes that the path describes, in every document. -/
theorem Path.toXPath_selects_described {path : Path} (plain : path.isPlain = true) (document : Document) :
    ∃ tokens expression, Lexes none path.toXPath.toList tokens ∧
      Derives (.expression .or expression) tokens ∧
      expression.select document =
        some ((document.addresses.filter (path.describes document)).map .node) := by
  obtain ⟨draws, -, -⟩ := Path.query_draws path plain
    (List.subset_append_left fixedLeaves path.leaves) (List.subset_append_right fixedLeaves path.leaves)
  rcases draws.prints with ⟨tokens, prints, shows⟩
  refine ⟨tokens, path.query.spelled, prints.lexes, shows.whole, ?_⟩
  have selects : path.query.select document = _ := (Path.query_selects_described plain).select
  rwa [Expr.select, ← Expr.eval_spelled] at selects

/-- The last of the inputs and selections within a label, where one input stands outside. -/
theorem Path.toXPath_selects_labelled :
    ((Html.input.or Html.select).inside Html.label |>.occurrence .last).isPlain = true ∧
    ∃ tokens expression,
      Lexes none ((Html.input.or Html.select).inside Html.label |>.occurrence .last).toXPath.toList
        tokens ∧
      Derives (.expression .or expression) tokens ∧
      expression.select ⟨[.element "form" []
        [.element "label" [] [.element "input" [] [], .element "b" [] [.element "select" [] []]],
          .element "input" [] []]]⟩ = some [.node [0, 0, 1, 0]] := by
  have plain : ((Html.input.or Html.select).inside Html.label |>.occurrence .last).isPlain = true := by
    decide
  obtain ⟨tokens, expression, lexes, derives, selects⟩ := Path.toXPath_selects_described plain
    ⟨[.element "form" []
      [.element "label" [] [.element "input" [] [], .element "b" [] [.element "select" [] []]],
        .element "input" [] []]]⟩
  exact ⟨plain, tokens, expression, lexes, derives, selects.trans (by decide)⟩

end Locator
