import Locator.Proofs.XPath.Connectives
import Locator.Proofs.XPath.Writing

/-!
# Printed expressions as words

The words of a printed expression are put together from those of its parts, also where a part is a fragment of
text of which no more is known than that it is cut on its own.
-/

namespace Locator.XPath

open Locator.Text

set_option autoImplicit false

/-- The text is cut into words that end with an operand and have their brackets closed, with none of the barred
operators outside of them. -/
structure Stands (barred : List String) (text : List Char) (words : List Word) : Prop where
  cuts : Cuts none text words
  nonempty : words ≠ []
  ends : ∀ last ∈ words.getLast?, Word.awaitsOperand (some last) = false
  paired : Paired barred words
  avoids : Avoids '=' text

/-- The same for a text that comes after an operand and makes a larger one of it. -/
structure Follows (barred : List String) (text : List Char) (words : List Word) : Prop where
  severs : severs text = true
  cuts : CutsAfter text words
  ends : ∀ last ∈ words.getLast?, Word.awaitsOperand (some last) = false
  paired : Paired barred words

variable {barred : List String}

/-! ## Putting texts together -/

theorem Stands.before {text rest : List Char} {words others : List Word} (stands : Stands barred text words)
    (severed : severs rest = true) (continued : CutsAfter rest others) {previous : Option Word}
    (awaits : Word.awaitsOperand previous = true) : Cuts previous (text ++ rest) (words ++ others) := by
  have cuts := stands.cuts.append severed continued (by simpa using stands.ends) (by simpa using stands.nonempty)
  exact cuts.after awaits.symm

theorem Stands.alone {text : List Char} {words : List Word} (stands : Stands barred text words)
    {previous : Option Word} (awaits : Word.awaitsOperand previous = true) : Cuts previous text words :=
  stands.cuts.after awaits.symm

theorem Stands.append {before after : List Char} {first second : List Word}
    (stands : Stands barred before first) (follows : Follows barred after second) :
    Stands barred (before ++ after) (first ++ second) where
  cuts := stands.before follows.severs follows.cuts rfl
  nonempty := by simp [stands.nonempty]
  ends := by
    intro last mem
    rw [List.getLast?_append] at mem
    cases found : second.getLast? with
    | none => exact stands.ends last (by simpa [found] using mem)
    | some word => exact follows.ends last (by simpa [found] using mem)
  paired := stands.paired.append follows.paired
  avoids := stands.avoids.append after

theorem Follows.nil : Follows barred [] [] where
  severs := rfl
  cuts := fun previous _ => .done (some previous)
  ends := by simp
  paired := .nil

theorem Follows.append {before after : List Char} {first second : List Word}
    (front : Follows barred before first) (back : Follows barred after second) :
    Follows barred (before ++ after) (first ++ second) where
  severs := by
    cases before with
    | nil => exact back.severs
    | cons character rest => exact front.severs
  cuts := by
    intro previous ended
    refine (front.cuts previous ended).append back.severs back.cuts ?_ (by simp)
    intro last mem
    -- A text without words leaves the word before it as the last one.
    cases found : first.getLast? with
    | none =>
        obtain rfl : previous = last := by simpa [List.getLast?_cons, found] using mem
        exact ended
    | some word => exact front.ends last (by simpa [List.getLast?_cons, found] using mem)
  ends := by
    intro last mem
    rw [List.getLast?_append] at mem
    cases found : second.getLast? with
    | none => exact front.ends last (by simpa [found] using mem)
    | some word => exact back.ends last (by simpa [found] using mem)
  paired := front.paired.append back.paired

/-- It is enough to cut a text after one operand. -/
theorem cutsAfter_operand {text : List Char} {words : List Word}
    (cuts : Cuts (some (.operand "")) text words) : CutsAfter text words :=
  fun _ ended => cuts.after ended.symm

theorem Stands.ends_append {text : List Char} {words : List Word} (stands : Stands barred text words)
    (front : List Word) :
    ∀ last ∈ (front ++ words).getLast?, Word.awaitsOperand (some last) = false := by
  have same : (front ++ words).getLast? = words.getLast? := by
    rw [List.getLast?_append]
    cases found : words.getLast? with
    | none => exact absurd (List.getLast?_eq_none_iff.mp found) stands.nonempty
    | some last => rfl
  exact same ▸ stands.ends

/-- Words in front of an operand that make a larger one of it. -/
theorem Stands.behind {text written : List Char} {words front : List Word} (stands : Stands barred text words)
    (cuts : Cuts none (written ++ text) (front ++ words)) (paired : Paired barred (front ++ words))
    (avoids : Avoids '=' (written ++ text)) : Stands barred (written ++ text) (front ++ words) where
  cuts := cuts
  nonempty := by simp [stands.nonempty]
  ends := stands.ends_append front
  paired := paired
  avoids := avoids

/-! ## Signs -/

theorem follows_brackets {text : List Char} {words : List Word} (inside : Stands [] text words) :
    Follows barred ('[' :: (text ++ [']'])) (.openingBracket :: (words ++ [.closingBracket])) where
  severs := rfl
  cuts := cutsAfter_operand (.word rfl (inside.before rfl (fun _ _ => .word rfl (.done _)) rfl))
  ends := by simp [List.getLast?_cons, Word.awaitsOperand]
  paired := .brackets inside.paired .nil

theorem stands_parentheses {text : List Char} {words : List Word} (inside : Stands [] text words) :
    Stands barred ('(' :: (text ++ [')'])) (.opening :: (words ++ [.closing])) where
  cuts := .word rfl (inside.before rfl (fun _ _ => .word rfl (.done _)) rfl)
  nonempty := by simp
  ends := by simp [List.getLast?_cons, Word.awaitsOperand]
  paired := .parentheses inside.paired .nil
  avoids := ⟨'(', _, rfl, by decide⟩

theorem follows_parentheses {text : List Char} {words : List Word} (inside : Stands [] text words) :
    Follows barred ('(' :: (text ++ [')'])) (.opening :: (words ++ [.closing])) where
  severs := rfl
  cuts := cutsAfter_operand (.word rfl (inside.before rfl (fun _ _ => .word rfl (.done _)) rfl))
  ends := by simp [List.getLast?_cons, Word.awaitsOperand]
  paired := .parentheses inside.paired .nil

theorem follows_noArguments : Follows barred ['(', ')'] [.opening, .closing] where
  severs := rfl
  cuts := cutsAfter_operand (.word rfl (.word rfl (.done _)))
  ends := by simp [Word.awaitsOperand]
  paired := .parentheses .nil .nil

/-- What goes on with a word that needs an operand after it, and then has one. -/
theorem Stands.follows {text written : List Char} {words : List Word} (next : Stands barred text words)
    {word : Word} (severed : severs written = true) (awaits : Word.awaitsOperand (some word) = true)
    (cuts : Cuts (some word) text words → Cuts (some (.operand "")) (written ++ text) (word :: words))
    (nonempty : written ≠ []) (allowed : Paired barred words → Paired barred (word :: words)) :
    Follows barred (written ++ text) (word :: words) where
  severs := by
    cases written with
    | nil => exact absurd rfl nonempty
    | cons first rest => exact severed
  cuts := cutsAfter_operand (cuts (next.alone awaits))
  ends := next.ends_append [word]
  paired := allowed next.paired

theorem follows_comma {text : List Char} {words : List Word} (next : Stands barred text words) :
    Follows barred ([',', ' '] ++ text) (.mark "," :: words) :=
  next.follows rfl rfl (fun cuts => .word rfl (.blank rfl cuts)) (by simp) .mark

theorem Word.next_slash {previous : Option Word} {text : List Char} (single : Avoids '/' text) :
    Word.next previous ('/' :: text) = some (.operator "/", text) := by
  rcases single with ⟨first, others, rfl, different⟩
  change Word.sign previous ('/' :: first :: others) = some (.operator "/", first :: others)
  simp [Word.sign, Word.signs, List.isPrefixOf, different.symm]

theorem follows_slash {text : List Char} {words : List Word} (next : Stands barred text words)
    (single : Avoids '/' text) (allowed : "/" ∉ barred) :
    Follows barred (['/'] ++ text) (.operator "/" :: words) :=
  next.follows rfl rfl (fun cuts => .word (Word.next_slash single) cuts) (by simp) (.operator allowed)

theorem follows_slashes {text : List Char} {words : List Word} (next : Stands barred text words)
    (allowed : "//" ∉ barred) : Follows barred (['/', '/'] ++ text) (.operator "//" :: words) :=
  next.follows rfl rfl (fun cuts => .word rfl cuts) (by simp) (.operator allowed)

theorem stands_slashes {text : List Char} {words : List Word} (next : Stands barred text words)
    (allowed : "//" ∉ barred) : Stands barred (['/', '/'] ++ text) ([.operator "//"] ++ words) :=
  next.behind (.word rfl (next.alone rfl)) (.operator allowed next.paired) ⟨'/', _, rfl, by decide⟩

/-- An operator without the blanks around it. -/
def Operator.sign : Operator → String
  | .or => "or"
  | .and => "and"
  | .equal => "="
  | .atLeast => ">="
  | .atMost => "<="
  | .greater => ">"
  | .plus => "+"
  | .minus => "-"
  | .union => "|"

theorem Word.next_greater {previous : Option Word} {text : List Char} (single : Avoids '=' text) :
    Word.next previous ('>' :: text) = some (.operator ">", text) := by
  rcases single with ⟨first, others, rfl, different⟩
  change Word.sign previous ('>' :: first :: others) = some (.operator ">", first :: others)
  simp [Word.sign, Word.signs, List.isPrefixOf, different.symm]

theorem follows_operator (operator : Operator) {text : List Char} {words : List Word}
    (next : Stands barred text words) (allowed : operator.sign ∉ barred) :
    Follows barred (operator.print.toList ++ text) (.operator operator.sign :: words) := by
  refine next.follows ?_ rfl ?_ ?_ (.operator allowed)
  · cases operator <;> rfl
  · intro cuts
    cases operator with
    | or => exact .blank rfl (.word rfl (.blank rfl cuts))
    | and => exact .blank rfl (.word rfl (.blank rfl cuts))
    | equal => exact .word rfl cuts
    | atLeast => exact .word rfl cuts
    | atMost => exact .word rfl cuts
    | greater => exact .word (Word.next_greater next.avoids) cuts
    | plus => exact .blank rfl (.word rfl (.blank rfl cuts))
    | minus => exact .blank rfl (.word rfl (.blank rfl cuts))
    | union => exact .blank rfl (.word rfl (.blank rfl cuts))
  · cases operator <;> decide

theorem follows_printAfter (operator : Operator) (left : Expr) {text : List Char} {words : List Word}
    (next : Stands barred text words) (allowed : operator.sign ∉ barred) :
    Follows barred ((operator.printAfter left).toList ++ text) (.operator operator.sign :: words) := by
  unfold Operator.printAfter
  split
  · exact next.follows rfl rfl (fun cuts => .word rfl cuts) (by simp) (.operator allowed)
  · exact follows_operator operator next allowed

/-! ## Leaves -/

theorem stands_operand {text : List Char} {operand : String}
    (next : Word.next none text = some (.operand operand, [])) (avoids : Avoids '=' text) :
    Stands barred text [.operand operand] where
  cuts := .word next (.done _)
  nonempty := by simp
  ends := by simp [Word.awaitsOperand]
  paired := .operand operand
  avoids := avoids

theorem Word.next_name {previous : Option Word} (awaits : awaitsOperand previous = true) {name : String}
    (isWord : isWord name.toList = true) {rest : List Char}
    (stop : rest.head?.all (fun character => !extendsName character) = true)
    (unprefixed : localPart rest = ([], rest)) :
    Word.next previous (name.toList ++ rest) = some (.operand name, rest) := by
  cases characters : name.toList with
  | nil => simp [characters, XPath.isWord] at isWord
  | cons first others =>
      simp only [characters, XPath.isWord, Bool.and_eq_true, List.all_eq_true] at isWord
      have all : ∀ character ∈ first :: others, extendsName character = true := by
        intro character member
        rcases List.mem_cons.mp member with rfl | later
        · exact extendsName_of_opensName isWord.1
        · exact isWord.2 character later
      have noQuote : ¬ (first = apostrophe ∨ first = quotation) := by
        rintro (rfl | rfl) <;> exact absurd isWord.1 (by decide)
      have noDot : first ≠ '.' := by
        rintro rfl
        exact absurd isWord.1 (by decide)
      have whole : Word.name (first :: others ++ rest) = (first :: others, rest) := by
        simp only [Word.name, takeWhile_append_stop all stop, dropWhile_append_stop all stop, unprefixed,
          List.append_nil]
      have same : String.ofList (first :: others) = name := by
        rw [← characters, String.ofList_toList]
      rw [List.cons_append] at whole ⊢
      simp [Word.next, noQuote, isDigit_eq_false_of_opensName isWord.1, noDot, isWord.1, awaits, whole, same]

theorem stands_name {name : String} (isWord : isWord name.toList = true) :
    Stands barred name.toList [.operand name] := by
  have next := @Word.next_name none rfl name isWord [] rfl rfl
  rw [List.append_nil] at next
  exact stands_operand next (avoids_of_isWord isWord (by decide))

theorem stands_number (value : Nat) : Stands barred (toString value).toList [.operand (toString value)] := by
  have characters : (toString value).toList = Nat.toDigits 10 value := Nat.toList_repr
  have allDigits : ∀ character ∈ (toString value).toList, character.isDigit = true := by
    intro character member
    rw [characters] at member
    exact Nat.isDigit_of_mem_toDigits (by decide) (by decide) member
  have same : String.ofList (toString value).toList = toString value := String.ofList_toList
  cases written : (toString value).toList with
  | nil => exact absurd (characters.symm.trans written) Nat.toDigits_ne_nil
  | cons first others =>
      rw [written] at allDigits same
      have firstDigit : first.isDigit = true := allDigits first (by simp)
      have noQuote : ¬ (first = apostrophe ∨ first = quotation) := by
        rintro (rfl | rfl) <;> exact absurd firstDigit (by decide)
      have whole : Word.number (first :: others) = (first :: others, []) := by
        have taken := @takeWhile_append_stop Char.isDigit (first :: others) [] allDigits rfl
        have dropped := @dropWhile_append_stop Char.isDigit (first :: others) [] allDigits rfl
        rw [List.append_nil] at taken dropped
        simp only [Word.number, taken, dropped, Word.fraction, List.append_nil]
      refine stands_operand ?_ ⟨first, others, rfl, ?_⟩
      · simp [Word.next, noQuote, firstDigit, whole, same]
      · rintro rfl
        exact absurd firstDigit (by decide)

theorem stands_quoted {quote : Char} (isQuote : quote = apostrophe ∨ quote = quotation) {value : List Char}
    (inside : quote ∉ value) : ∃ words, Stands barred (quote :: (value ++ [quote])) words := by
  have all : ∀ character ∈ value, (character != quote) = true := by
    intro character member
    rw [bne_iff_ne]
    rintro rfl
    exact inside member
  have stop : [quote].head?.all (fun character => !(character != quote)) = true := by simp
  have whole : Word.next none (quote :: (value ++ [quote])) =
      some (.operand (String.ofList (quote :: (value ++ [quote]))), []) := by
    simp only [Word.next, if_pos isQuote, Word.string]
    rw [takeWhile_append_stop all stop, dropWhile_append_stop all stop]
  refine ⟨_, stands_operand whole ⟨quote, _, rfl, ?_⟩⟩
  rcases isQuote with rfl | rfl <;> decide

theorem stands_concatArguments (pieces : List (List Char)) (nonempty : pieces ≠ [])
    (clean : ∀ piece ∈ pieces, apostrophe ∉ piece) :
    ∃ words, Stands barred
      (join ", \"'\", " (pieces.map fun piece => singleQuoted (String.ofList piece))).toList words := by
  induction pieces with
  | nil => exact absurd rfl nonempty
  | cons piece pieces ih =>
      have here : apostrophe ∉ piece := clean piece (by simp)
      obtain ⟨words, first⟩ := @stands_quoted barred apostrophe (.inl rfl) piece here
      cases pieces with
      | nil => exact ⟨words, by simpa [join, singleQuoted, apostrophe] using first⟩
      | cons next pieces =>
          obtain ⟨others, rest⟩ := ih (by simp) fun other member => clean other (List.mem_cons_of_mem piece member)
          obtain ⟨quote, between⟩ := @stands_quoted barred quotation (.inr rfl) [apostrophe] (by decide)
          have all := first.append ((follows_comma between).append (follows_comma rest))
          exact ⟨_, by simpa [join, singleQuoted, apostrophe, quotation] using all⟩

theorem stands_literal (value : String) : ∃ words, Stands barred (literal value).toList words := by
  unfold literal
  by_cases single : apostrophe ∈ value.toList
  · by_cases double : quotation ∈ value.toList
    · obtain ⟨words, inside⟩ := @stands_concatArguments [] (cut apostrophe value.toList)
        (cut_ne_nil _ _) fun piece member => separator_not_mem_of_mem_cut member
      have name : Stands barred "concat".toList [.operand "concat"] := stands_name (by decide)
      rw [if_neg (not_not_intro single), if_neg (not_not_intro double)]
      exact ⟨_, by simpa using name.append (follows_parentheses inside)⟩
    · rw [if_neg (not_not_intro single), if_pos double]
      simpa [doubleQuoted, quotation] using @stands_quoted barred quotation (.inr rfl) value.toList double
  · rw [if_pos single]
    simpa [singleQuoted, apostrophe] using @stands_quoted barred apostrophe (.inl rfl) value.toList single

/-! ## Steps -/

theorem Word.next_colons (text : List Char) (name : String) :
    Word.next (some (.operand name)) (':' :: ':' :: text) = some (.mark "::", text) := rfl

theorem Stands.along {text : List Char} {words : List Word} (stands : Stands barred text words)
    (axis : Option Axis) :
    ∃ words, Stands barred (((axis.map Axis.print).getD "").toList ++ text) words := by
  have avoids := avoids_axis (by decide) (by decide) axis stands.avoids
  cases axis with
  | none => exact ⟨words, stands⟩
  | some axis =>
      by_cases attributes : axis = .attributes
      · subst attributes
        have front : Cuts none (['@'] ++ text) ([.mark "@"] ++ words) := .word rfl (stands.alone rfl)
        exact ⟨_, stands.behind front (.mark stands.paired) avoids⟩
      · obtain ⟨name, word, printed, -⟩ := axis_word attributes
        have head : Word.next none (name.toList ++ ':' :: ':' :: text) =
            some (.operand name, ':' :: ':' :: text) := Word.next_name rfl word rfl rfl
        have front : Cuts none (axis.print.toList ++ text) ([.operand name, .mark "::"] ++ words) := by
          rw [printed, String.toList_append, List.append_assoc]
          exact .word head (.word (Word.next_colons text name) (stands.alone rfl))
        have paired : Paired barred ([.operand name, .mark "::"] ++ words) :=
          (Paired.operand name).append (.mark stands.paired)
        exact ⟨_, stands.behind front paired avoids⟩

theorem NodeTest.stands {test : NodeTest} (fits : test.fits = true) :
    ∃ words, Stands barred test.print.toList words := by
  have typed (name : String) (isWord : isWord name.toList = true) :
      ∃ words, Stands barred (name.toList ++ ['(', ')']) words :=
    ⟨_, (stands_name isWord).append follows_noArguments⟩
  cases test with
  | name label => exact ⟨_, stands_name (isWord_of_isPlainName fits)⟩
  | principal => exact ⟨_, @stands_operand barred ['*'] "*" rfl ⟨'*', _, rfl, by decide⟩⟩
  | text => exact typed "text" (by decide)
  | node => exact typed "node" (by decide)

end Locator.XPath
