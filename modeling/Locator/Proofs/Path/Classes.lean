import Locator.Path.Properties
import Locator.Proofs.Path.Tests
import Locator.Proofs.Path.WellFormed
import Locator.Proofs.XPath.Membership
import Locator.Proofs.XPath.Patterns

/-!
# Words and classes

The tests on the words of an attribute say which words the attribute has, wherever white space stands between them
and around them. A class is a word of the class attribute.
-/

namespace Locator

open Locator.XPath

set_option autoImplicit false

/-- A word as classes are: not empty, and without white space. -/
def IsToken (word : String) : Prop :=
  word.toList ≠ [] ∧ Unbroken word.toList

theorem Test.readsAsTruth {document : Document} {context : Context} {test : Test} {truth : Bool}
    {condition : Prop} (evaluated : test.condition.eval document context = some (.truth truth))
    (holds : truth = true ↔ condition) :
    ReadsAsTruth document context (Property.test test).toXPath condition := by
  have draws := test.condition_draws (List.subset_append_left fixedLeaves test.leaves)
    (List.subset_append_right fixedLeaves test.leaves)
  exact draws.readsAsTruth evaluated holds

section Attributes

variable {document : Document} {address : Address} (member : address ∈ document.addresses)
  (position size : Nat)
include member

theorem eval_attributeWord (name word : String) :
    (hasWord (attributeNamed name) word).eval document ⟨.node address, position, size⟩ =
      some (.truth (wordsHave (document.attributeText address name) word)) := by
  obtain ⟨found, evaluated, string⟩ := readAs_attributeNamed name address member position size
  rw [eval_hasWord evaluated, string]

theorem evalAll_attributeWords (name : String) (words : List String) :
    evalAll document (words.map (hasWord (attributeNamed name))) ⟨.node address, position, size⟩ =
      some ((words.map (wordsHave (document.attributeText address name))).map .truth) := by
  induction words with
  | nil => rfl
  | cons word others ih => exact evalAll_cons (eval_attributeWord member position size name word) ih

/-- For a node of a document, the test for a word of an attribute is true when the word is one of the words
that white space separates in the value; without the attribute there are none. Tests for classes are about the
words of the class attribute in the same way, and a text without white space is looked for in single classes. -/
theorem attribute_words_are_separated :
    (∀ name word : String, IsToken word →
      ReadsAsTruth document ⟨.node address, position, size⟩ (Property.hasAttributeWord name word).toXPath
        (IsWordOf word.toList (document.attributeText address name))) ∧
    (∀ name : String, IsToken name →
      ReadsAsTruth document ⟨.node address, position, size⟩ (Property.hasClass name).toXPath
        (IsWordOf name.toList (document.attributeText address "class"))) ∧
    (∀ names : List String, (∀ name ∈ names, IsToken name) →
      ReadsAsTruth document ⟨.node address, position, size⟩ (Property.hasAnyClass names).toXPath
        (∃ name ∈ names, IsWordOf name.toList (document.attributeText address "class")) ∧
      ReadsAsTruth document ⟨.node address, position, size⟩ (Property.hasAllClasses names).toXPath
        (∀ name ∈ names, IsWordOf name.toList (document.attributeText address "class"))) ∧
    ∀ fragment : String, IsToken fragment →
      ReadsAsTruth document ⟨.node address, position, size⟩ (Property.hasClassContaining fragment).toXPath
        (∃ word, IsWordOf word (document.attributeText address "class") ∧ fragment.toList <:+: word) := by
  have meaning (name word : String) (token : IsToken word) :
      wordsHave (document.attributeText address name) word = true ↔
        IsWordOf word.toList (document.attributeText address name) :=
    wordsHave_iff token.1 token.2 (document.attributeText address name)
  refine ⟨?_, ?_, ?_, ?_⟩
  · intro name word token
    exact Test.readsAsTruth (eval_attributeWord member position size name word) (meaning name word token)
  · intro name token
    exact Test.readsAsTruth (eval_attributeWord member position size "class" name) (meaning "class" name token)
  · intro names tokens
    have values := evalAll_attributeWords member position size "class" names
    constructor
    · refine Test.readsAsTruth (eval_joined_or values) ?_
      simp only [List.any_map, List.any_eq_true, Function.comp_apply, id]
      exact exists_congr fun name => and_congr_right fun inside => meaning "class" name (tokens name inside)
    · refine Test.readsAsTruth (eval_joined_and values) ?_
      simp only [List.all_map, List.all_eq_true, Function.comp_apply, id]
      exact forall₂_congr fun name inside => meaning "class" name (tokens name inside)
  · intro fragment token
    obtain ⟨found, evaluated, string⟩ := readAs_attributeNamed "class" address member position size
    have contains := eval_contains evaluated fragment
    rw [string] at contains
    exact Test.readsAsTruth contains (hasPart_iff_word token.1 token.2 _)

end Attributes

/-- An element of two classes, with white space of several kinds around them. -/
def menuDocument : Document :=
  ⟨[.element "ul" [("class", "\tmain\n menu  ")] []]⟩

theorem attribute_words_are_separated_menu :
    [0] ∈ menuDocument.addresses ∧ (∀ name ∈ ["nav", "menu"], IsToken name) ∧
    ReadsAsTruth menuDocument ⟨.node [0], 1, 1⟩ (Property.hasAnyClass ["nav", "menu"]).toXPath
      (∃ name ∈ ["nav", "menu"], IsWordOf name.toList (menuDocument.attributeText [0] "class")) ∧
    IsWordOf "menu".toList (menuDocument.attributeText [0] "class") ∧
    ReadsAsTruth menuDocument ⟨.node [0], 1, 1⟩ (Property.hasAllClasses ["nav", "menu"]).toXPath
      (∀ name ∈ ["nav", "menu"], IsWordOf name.toList (menuDocument.attributeText [0] "class")) ∧
    ¬ IsWordOf "nav".toList (menuDocument.attributeText [0] "class") := by
  have member : [0] ∈ menuDocument.addresses := by decide
  have tokens : ∀ name ∈ ["nav", "menu"], IsToken name := by
    simp [IsToken, Unbroken, isSpace]
  obtain ⟨-, -, classes, -⟩ := attribute_words_are_separated member 1 1
  obtain ⟨any, all⟩ := classes ["nav", "menu"] tokens
  refine ⟨member, tokens, any, ?_, all, ?_⟩
  · rw [← mem_splitWords_iff]
    decide
  · rw [← mem_splitWords_iff]
    decide

end Locator
