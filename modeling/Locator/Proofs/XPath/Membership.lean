import Mathlib.Data.List.DropRight
import Locator.Proofs.XPath.Wildcard

/-!
# The words of a text

A word of a text is a run of characters without white space that white space or an end of the text bounds on either
side. To put one blank between the words of a text and one at either end, and to look for a word with its two
blanks there, is to ask whether the text has the word: no occurrence lies across two words.
-/

namespace Locator.XPath

open Locator.Text

set_option autoImplicit false

def Unbroken (text : List Char) : Prop :=
  ∀ character ∈ text, isSpace character = false

structure IsWordOf (word text : List Char) : Prop where
  nonempty : word ≠ []
  unbroken : Unbroken word
  bounded : ∃ before after, text = before ++ word ++ after ∧
    (∀ last ∈ before.getLast?, isSpace last = true) ∧ ∀ next ∈ after.head?, isSpace next = true

/-- Induction on a text cut at its first white space. -/
theorem words_induction {motive : List Char → Prop} (alone : ∀ word, Unbroken word → motive word)
    (further : ∀ word space back, Unbroken word → isSpace space = true → motive back →
      motive (word ++ space :: back)) (text : List Char) : motive text := by
  -- The front holds the characters of the first word that have been read already.
  have reading (front : List Char) (unbroken : Unbroken front) : motive (front ++ text) := by
    induction text generalizing front with
    | nil => simpa using alone front unbroken
    | cons character rest ih =>
        cases blank : isSpace character with
        | true => exact further front character rest unbroken blank (ih [] (by simp [Unbroken]))
        | false =>
            have longer : Unbroken (front ++ [character]) :=
              List.forall_mem_append.mpr ⟨unbroken, List.forall_mem_singleton.mpr blank⟩
            simpa using ih (front ++ [character]) longer
  exact reading [] (by simp [Unbroken])

/-! ## The list of words -/

theorem splitWords_append {space : Char} (isBlank : isSpace space = true) (front back : List Char) :
    splitWords (front ++ space :: back) = splitWords front ++ splitWords back := by
  simp only [splitWords, List.map_append, List.map_cons, isBlank, if_true, cut_append, List.filter_append]

theorem splitWords_unbroken {word : List Char} (nonempty : word ≠ []) (unbroken : Unbroken word) :
    splitWords word = [word] := by
  have same : (word.map fun character => if isSpace character then ' ' else character) = word := by
    have each : ∀ character ∈ word, (if isSpace character then ' ' else character) = id character := by
      intro character member
      simp [unbroken character member]
    rw [List.map_congr_left each, List.map_id]
  have clean : ' ' ∉ word := fun member => absurd (unbroken ' ' member) (by decide)
  rw [splitWords, same, cut_of_not_mem clean]
  simp [nonempty]

theorem IsWordOf.alone {word : List Char} (nonempty : word ≠ []) (unbroken : Unbroken word) :
    IsWordOf word word :=
  ⟨nonempty, unbroken, [], [], by simp, by simp, by simp⟩

/-- A text before a white space leaves the words behind it as they are. -/
theorem IsWordOf.behind {word back : List Char} (isWord : IsWordOf word back) {space : Char}
    (isBlank : isSpace space = true) (front : List Char) : IsWordOf word (front ++ space :: back) := by
  obtain ⟨before, after, rfl, last, next⟩ := isWord.bounded
  refine ⟨isWord.nonempty, isWord.unbroken, front ++ space :: before, after, by simp, ?_, next⟩
  cases before with
  | nil => simpa using isBlank
  | cons character before => simpa [List.getLast?_append, List.getLast?_cons] using last

theorem mem_splitWords_unbroken {word single : List Char} (unbroken : Unbroken single) :
    word ∈ splitWords single ↔ word = single ∧ single ≠ [] := by
  by_cases empty : single = []
  · subst empty
    simp [splitWords, cut]
  · simp [splitWords_unbroken empty unbroken, empty]

theorem mem_splitWords_iff {word text : List Char} : word ∈ splitWords text ↔ IsWordOf word text := by
  constructor
  · intro member
    induction text using words_induction with
    | alone single unbroken =>
        obtain ⟨rfl, nonempty⟩ := (mem_splitWords_unbroken unbroken).mp member
        exact .alone nonempty unbroken
    | further first space back unbroken isBlank ih =>
        rw [splitWords_append isBlank, List.mem_append] at member
        rcases member with here | later
        · obtain ⟨rfl, nonempty⟩ := (mem_splitWords_unbroken unbroken).mp here
          exact ⟨nonempty, unbroken, [], space :: back, by simp, by simp, by simpa using isBlank⟩
        · exact (ih later).behind isBlank first
  · intro isWord
    obtain ⟨before, after, rfl, last, next⟩ := isWord.bounded
    have single := splitWords_unbroken isWord.nonempty isWord.unbroken
    have behind : word ∈ splitWords (word ++ after) := by
      cases after with
      | nil => simp [single]
      | cons space after =>
          have isBlank : isSpace space = true := next space rfl
          simp [splitWords_append isBlank, single]
    rcases List.eq_nil_or_concat before with rfl | ⟨front, space, rfl⟩
    · exact behind
    · have isBlank : isSpace space = true := last space (by simp)
      have cutting : front.concat space ++ word ++ after = front ++ space :: (word ++ after) := by simp
      rw [cutting, splitWords_append isBlank]
      exact List.mem_append_right _ behind

theorem splitWords_intercalate {words : List (List Char)}
    (tokens : ∀ word ∈ words, word ≠ [] ∧ Unbroken word) :
    splitWords ([' '].intercalate words) = words := by
  induction words with
  | nil => rfl
  | cons word others ih =>
      obtain ⟨⟨nonempty, unbroken⟩, rest⟩ := List.forall_mem_cons.mp tokens
      have single := splitWords_unbroken nonempty unbroken
      by_cases last : others = []
      · subst last
        simpa [List.intercalate] using single
      · rw [intercalate_cons last, List.singleton_append, splitWords_append (by decide), single, ih rest]
        rfl

theorem splitWords_normalizeSpace (text : List Char) : splitWords (normalizeSpace text) = splitWords text := by
  apply splitWords_intercalate
  intro word member
  have isWord := mem_splitWords_iff.mp member
  exact ⟨isWord.nonempty, isWord.unbroken⟩

/-! ## Words between blanks -/

theorem blanks_around {word : List Char} {words : List (List Char)} (member : word ∈ words) :
    ∃ front rest, ' ' :: [' '].intercalate words ++ [' '] = front ++ (' ' :: word ++ [' ']) ++ rest := by
  induction words with
  | nil => exact absurd member (by simp)
  | cons first others ih =>
      by_cases last : others = []
      · subst last
        rw [List.mem_singleton] at member
        subst member
        exact ⟨[], [], by simp [List.intercalate]⟩
      · rw [intercalate_cons last]
        rcases List.mem_cons.mp member with here | later
        · subst here
          exact ⟨[], [' '].intercalate others ++ [' '], by simp⟩
        · obtain ⟨front, rest, same⟩ := ih later
          refine ⟨' ' :: first ++ front, rest, ?_⟩
          simpa using same

theorem wordsHave_iff {word : String} (nonempty : word.toList ≠ []) (unbroken : Unbroken word.toList)
    (text : List Char) : wordsHave text word = true ↔ IsWordOf word.toList text := by
  rw [wordsHave, hasPart_iff, ← mem_splitWords_iff]
  constructor
  · intro given
    rcases given with ⟨front, rest, same⟩
    -- The blanks bound the word also among the words of the other side.
    have opened : splitWords (' ' :: (normalizeSpace text ++ [' '])) =
        splitWords (normalizeSpace text ++ [' ']) := splitWords_append (by decide) [] _
    have closed : splitWords (normalizeSpace text ++ [' ']) = splitWords (normalizeSpace text) ++ [] :=
      splitWords_append (by decide) _ []
    have words : splitWords (front ++ ' ' :: (word.toList ++ ' ' :: rest)) =
        splitWords front ++ (splitWords word.toList ++ splitWords rest) := by
      rw [splitWords_append (by decide), splitWords_append (by decide)]
    have both : ' ' :: (normalizeSpace text ++ [' ']) = front ++ ' ' :: (word.toList ++ ' ' :: rest) := by
      simpa using same
    rw [both, words] at opened
    rw [closed, splitWords_normalizeSpace, List.append_nil] at opened
    rw [← opened, splitWords_unbroken nonempty unbroken]
    simp
  · exact blanks_around

/-! ## Fragments of words -/

/-- The word around an occurrence goes as far as there is no white space on either side. -/
theorem isWordOf_around {fragment : List Char} (nonempty : fragment ≠ []) (unbroken : Unbroken fragment)
    (front rest : List Char) :
    IsWordOf (front.rtakeWhile (!isSpace ·) ++ fragment ++ rest.takeWhile (!isSpace ·))
      (front ++ fragment ++ rest) where
  nonempty := by simp [nonempty]
  unbroken := by
    intro character member
    simp only [List.mem_append] at member
    rcases member with (left | inside) | right
    · have taken := List.mem_rtakeWhile_imp left
      simpa using taken
    · exact unbroken character inside
    · have taken := List.mem_takeWhile_imp right
      simpa using taken
  bounded := by
    refine ⟨front.rdropWhile (!isSpace ·), rest.dropWhile (!isSpace ·), ?_, ?_, ?_⟩
    · have left : front.rdropWhile (!isSpace ·) ++ front.rtakeWhile (!isSpace ·) = front :=
        List.rdropWhile_append_rtakeWhile
      have right : rest.takeWhile (!isSpace ·) ++ rest.dropWhile (!isSpace ·) = rest :=
        List.takeWhile_append_dropWhile
      conv => lhs; rw [← left, ← right]
      simp only [List.append_assoc]
    · intro last member
      obtain ⟨some, rfl⟩ := List.mem_getLast?_eq_getLast member
      simpa using List.rdropWhile_last_not (!isSpace ·) front some
    · intro next member
      obtain ⟨others, same⟩ := List.head?_eq_some_iff.mp member
      have some : rest.dropWhile (!isSpace ·) ≠ [] := by simp [same]
      have stopped := List.head_dropWhile_not (!isSpace ·) some
      simpa [same] using stopped

theorem hasPart_iff_word {fragment : List Char} (nonempty : fragment ≠ []) (unbroken : Unbroken fragment)
    (text : List Char) :
    hasPart text fragment = true ↔ ∃ word, IsWordOf word text ∧ fragment <:+: word := by
  rw [hasPart_iff]
  constructor
  · intro given
    rcases given with ⟨front, rest, rfl⟩
    exact ⟨_, isWordOf_around nonempty unbroken front rest, _, _, rfl⟩
  · intro given
    rcases given with ⟨word, isWord, left, right, rfl⟩
    obtain ⟨before, after, rfl, -, -⟩ := isWord.bounded
    exact ⟨before ++ left, right ++ after, by simp⟩

end Locator.XPath
