import Locator.Proofs.Path.Nesting

/-!
# The words for what is added

A description is made of some opening words and of the words for the constraints that no override stands in for,
one after the other. What is added to a path comes after the override, so its words go to the end, unless it is an
ancestor that goes into an `inside`: its words stand where those of that `inside` are, or end an override that
stands in for them.
-/

namespace Locator

set_option autoImplicit false

def Constraint.isProperty : Constraint → Bool
  | .property _ => true
  | .relation _ _ => false

/-- The part is somewhere in the text. -/
def Mentions (text part : String) : Prop :=
  ∃ front back, text = front ++ part ++ back

namespace Path

/-- The constraints that no override stands in for. -/
def described (path : Path) : List Constraint :=
  path.constraints.drop path.describedUpto

/-- Whether the last of the constraints that no override stands in for is a property. -/
def endsWithProperty (path : Path) : Bool :=
  (path.described.getLast?.map Constraint.isProperty).getD false

/-- The words of the override, or for the kind of node if there is none. -/
def opening (path : Path) : String :=
  match path.override with
  | none => path.node.describe
  | some override => override.text

end Path

/-! ## The words for a list of constraints -/

theorem describeFrom_skipped (skipped : Nat) (constraints : List Constraint) :
    describeFrom skipped false constraints = describeFrom 0 false (constraints.drop skipped) := by
  induction skipped generalizing constraints with
  | zero => rfl
  | succ skipped ih =>
      cases constraints with
      | nil => rfl
      | cons first others => cases first <;> simp only [describeFrom, List.drop_succ_cons, ih]

theorem describeFrom_append (afterProperty : Bool) (front back : List Constraint) :
    describeFrom 0 afterProperty (front ++ back) =
      describeFrom 0 afterProperty front ++
        describeFrom 0 ((front.getLast?.map Constraint.isProperty).getD afterProperty) back := by
  induction front generalizing afterProperty with
  | nil => simp [describeFrom]
  | cons first others ih =>
      -- The flag after the first constraint tells what that one is.
      have last (flag : Bool) : ((first :: others).getLast?.map Constraint.isProperty).getD flag =
          (others.getLast?.map Constraint.isProperty).getD first.isProperty := by
        cases others <;> simp [List.getLast?_cons]
      rw [last]
      cases first <;> simp only [List.cons_append, describeFrom, ih, Constraint.isProperty, String.append_assoc]

namespace Path

theorem describe_eq (path : Path) :
    path.describe = path.opening ++ describeFrom 0 false path.described := by
  rcases path with ⟨node, constraints, override⟩
  cases override with
  | none => rfl
  | some override => rw [describe, describeFrom_skipped]; rfl

theorem described_constrain {path : Path} (short : path.describedUpto ≤ path.constraints.length)
    (constraint : Constraint) :
    (path.constrain constraint).described = path.described ++ [constraint] :=
  List.drop_append_of_le_length short

theorem describe_constrain {path : Path} (short : path.describedUpto ≤ path.constraints.length)
    (constraint : Constraint) :
    (path.constrain constraint).describe =
      path.describe ++ describeFrom 0 path.endsWithProperty [constraint] := by
  rw [describe_eq, described_constrain short, describeFrom_append, ← String.append_assoc, describe_eq]
  rfl

theorem describe_and {path : Path} (short : path.describedUpto ≤ path.constraints.length)
    (property : Property) :
    (path.and property).describe =
      path.describe ++ (if path.endsWithProperty then ", and " else ", that ") ++ property.describe := by
  have words := describe_constrain short (.property property)
  rw [describeFrom, describeFrom, String.append_empty, ← String.append_assoc] at words
  exact words

theorem describe_relate {path : Path} (short : path.describedUpto ≤ path.constraints.length)
    (relation : Relation) (target : Path) :
    (path.relate relation target).describe =
      path.describe ++ ", " ++ relation.phrase ++ " " ++ target.describeTarget := by
  have words := describe_constrain short (.relation relation target)
  rw [describeFrom, describeFrom, String.append_empty] at words
  simp only [← String.append_assoc] at words
  exact words

theorem describe_describedBy (path : Path) (text : String) : (path.describedBy text).describe = text := by
  have nothing : (path.describedBy text).described = [] := List.drop_length
  rw [describe_eq, nothing]
  exact String.append_empty

end Path

/-! ## Ancestors that go into an earlier one -/

theorem Mentions.within {text part : String} (mentions : Mentions text part) (before after : String) :
    Mentions (before ++ text ++ after) part := by
  rcases mentions with ⟨front, back, rfl⟩
  exact ⟨before ++ front, back ++ after, by simp only [String.append_assoc]⟩

theorem Mentions.asTarget {path : Path} {part : String} (mentions : Mentions path.describe part) :
    Mentions path.describeTarget part := by
  unfold Path.describeTarget Path.asTarget
  split
  · exact mentions.within "(" ")"
  · exact mentions

/-- The words for a target are in those for a list of constraints that has a relation to it. -/
theorem mentions_described {target : Path} {part : String} (mentions : Mentions target.describeTarget part)
    (relation : Relation) (afterProperty : Bool) (front back : List Constraint) :
    Mentions (describeFrom 0 afterProperty (front ++ .relation relation target :: back)) part := by
  rw [describeFrom_append, describeFrom]
  have placed := mentions.within (", " ++ relation.phrase ++ " ") (describeFrom 0 false back)
  have behind := placed.within (describeFrom 0 afterProperty front) ""
  rwa [String.append_empty] at behind

theorem Path.mentions_inside {path : Path} (fits : path.MarksFit) (ancestor : Path) :
    Mentions (path.inside ancestor).describe (", inside " ++ ancestor.describeTarget) := by
  -- Along the chain: either the ancestor is new here, or the words for the target below have it already.
  induction path using chain_induction with
  | last node constraints override insideless =>
      have words := describe_relate fits.describedUpto_le .inside ancestor
      have phrase : ", inside " = ", " ++ Relation.inside.phrase ++ " " := by decide
      have added : inside ⟨node, constraints, override⟩ ancestor =
          relate ⟨node, constraints, override⟩ .inside ancestor := inside_last insideless node override ancestor
      rw [added]
      refine ⟨describe ⟨node, constraints, override⟩, "", ?_⟩
      rw [phrase, String.append_empty]
      simpa only [String.append_assoc] using words
  | further node front target back override insideless ih =>
      have below := (marksFit_iff.mp fits).2
      rw [chainBelow_append insideless] at below
      have words := (ih below).asTarget
      rw [inside_further insideless, describe_eq]
      cases override with
      | none =>
          have mentioned := (mentions_described words .inside false front back).within node.describe ""
          rwa [String.append_empty] at mentioned
      | some override =>
          by_cases covered : front.length < override.covers
          · have text : extendOverride ancestor front.length override =
                { override with text := override.text ++ ", inside " ++ ancestor.describeTarget } :=
              if_pos covered
            rw [Option.map_some, text]
            exact ⟨override.text, _, congrArg (· ++ _) String.append_assoc⟩
          · have same : extendOverride ancestor front.length override = override := if_neg covered
            rw [Option.map_some, same, described, describedUpto,
              List.drop_append_of_le_length (Nat.le_of_not_lt covered)]
            have mentioned :=
              (mentions_described words .inside false (front.drop override.covers) back).within override.text ""
            rwa [String.append_empty] at mentioned

/-- Whatever overrides a path has, a new override is its whole description, and what is added later is described
after it: a property or a relation puts its separator and its words at the end, and an ancestor that goes into
an earlier one is still mentioned. -/
theorem additions_are_described {path : Path} (built : path.Built) :
    (∀ text : String, (path.describedBy text).describe = text) ∧
    (∀ property : Property, (path.and property).describe =
      path.describe ++ (if path.endsWithProperty then ", and " else ", that ") ++ property.describe) ∧
    ∀ target : Path,
      (∀ relation : Relation, (relation = .inside → Insideless path.constraints) →
        (relation.combine path target).describe =
          path.describe ++ ", " ++ relation.phrase ++ " " ++ target.describeTarget) ∧
      Mentions (path.inside target).describe (", inside " ++ target.describeTarget) := by
  obtain ⟨term, rfl⟩ := built
  have fits := term.marksFit
  have short := fits.describedUpto_le
  refine ⟨term.build.describe_describedBy, Path.describe_and short, ?_⟩
  intro target
  refine ⟨?_, Path.mentions_inside fits target⟩
  intro relation fresh
  rw [Relation.combine_eq_relate fresh]
  exact Path.describe_relate short relation target

/-- The override of the label stands in for `inside` of the paragraph, and the form goes into that one. -/
theorem additions_are_described_label :
    ((Path.tag "input").inside (((Path.tag "label").inside (.tag "p")).describedBy "its label")).Built ∧
    (((Path.tag "input").inside (((Path.tag "label").inside (.tag "p")).describedBy "its label")).describedBy
      "the field").describe = "the field" ∧
    Mentions (((Path.tag "input").inside (((Path.tag "label").inside (.tag "p")).describedBy "its label")).inside
      (.tag "form")).describe ", inside form" ∧
    (((Path.tag "input").inside (((Path.tag "label").inside (.tag "p")).describedBy "its label")).inside
      (.tag "form")).describe = "input, inside its label, inside form" := by
  have built :
      ((Path.tag "input").inside (((Path.tag "label").inside (.tag "p")).describedBy "its label")).Built :=
    ⟨.relate (.tag "input") .inside (.describedBy (.relate (.tag "label") .inside (.tag "p")) "its label"), rfl⟩
  obtain ⟨described, -, related⟩ := additions_are_described built
  exact ⟨built, described "the field", (related (.tag "form")).2, by decide⟩

end Locator
