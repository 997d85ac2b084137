import Locator.Proofs.Path.Nesting

/-!
# What is true of built paths at every depth

Paths are embedded in each other as targets of relations, as branches of unions, as operands of occurrences and
within properties. At each of these places a path that was built has one `inside` at most, an override that does
not reach beyond its constraints, and matches that are counted from one. Every combinator keeps this; only `inside`
changes a path that is embedded already.
-/

namespace Locator

set_option autoImplicit false

mutual

/-- The path and all paths that are embedded in it, at any depth. -/
def Path.subpaths : Path → List Path
  | ⟨node, constraints, override⟩ => ⟨node, constraints, override⟩ :: (node.subpaths ++ subpathsOfAll constraints)

def Node.subpaths : Node → List Path
  | .element _ | .any | .text _ => []
  | .union left right => left.subpaths ++ right.subpaths
  | .occurrence path _ => path.subpaths

def Constraint.subpaths : Constraint → List Path
  | .property property => property.subpaths
  | .relation _ target => target.subpaths

def subpathsOfAll : List Constraint → List Path
  | [] => []
  | first :: others => first.subpaths ++ subpathsOfAll others

def Property.subpaths : Property → List Path
  | .test _ | .custom _ _ => []
  | .related _ target | .siblingOf target | .occurrences _ _ target => target.subpaths
  | .and left right | .or left right => left.subpaths ++ right.subpaths
  | .not inner => inner.subpaths

end

theorem subpathsOfAll_eq_flatMap (constraints : List Constraint) :
    subpathsOfAll constraints = constraints.flatMap Constraint.subpaths := by
  induction constraints with
  | nil => rfl
  | cons first others ih => rw [subpathsOfAll, ih, List.flatMap_cons]

/-- The paths that a property itself looks at. -/
def Property.targets : Property → List Path
  | .test _ | .custom _ _ => []
  | .related _ target | .siblingOf target | .occurrences _ _ target => [target]
  | .and left right | .or left right => left.targets ++ right.targets
  | .not inner => inner.targets

theorem Property.subpaths_eq_flatMap (property : Property) :
    property.subpaths = property.targets.flatMap Path.subpaths := by
  fun_induction targets property with
  | case1 | case2 => rfl
  | case3 | case4 | case5 => rw [subpaths, List.flatMap_singleton]
  | case6 left right ihLeft ihRight | case7 left right ihLeft ihRight =>
      rw [subpaths, List.flatMap_append, ihLeft, ihRight]
  | case8 inner ih => rw [subpaths, ih]

/-! ## Parts of parts -/

mutual

theorem Path.subpaths_of_mem {part : Path} : (path : Path) → part ∈ path.subpaths → part.subpaths ⊆ path.subpaths
  | ⟨node, constraints, override⟩, member => by
      rw [Path.subpaths, List.mem_cons, List.mem_append] at member
      rcases member with rfl | inNode | inConstraints
      · exact List.Subset.refl _
      · have within := Node.subpaths_of_mem node inNode
        rw [Path.subpaths]
        exact fun other mem => List.mem_cons_of_mem _ (List.mem_append_left _ (within mem))
      · have within := subpathsOfAll_of_mem constraints inConstraints
        rw [Path.subpaths]
        exact fun other mem => List.mem_cons_of_mem _ (List.mem_append_right _ (within mem))

theorem Node.subpaths_of_mem {part : Path} : (node : Node) → part ∈ node.subpaths → part.subpaths ⊆ node.subpaths
  | .element _, member | .any, member | .text _, member => by simp [Node.subpaths] at member
  | .union left right, member => by
      rw [Node.subpaths, List.mem_append] at member
      rw [Node.subpaths]
      rcases member with inLeft | inRight
      · exact List.subset_append_of_subset_left _ (Path.subpaths_of_mem left inLeft)
      · exact List.subset_append_of_subset_right _ (Path.subpaths_of_mem right inRight)
  | .occurrence path _, member => Path.subpaths_of_mem path member

theorem Constraint.subpaths_of_mem {part : Path} :
    (constraint : Constraint) → part ∈ constraint.subpaths → part.subpaths ⊆ constraint.subpaths
  | .property property, member => Property.subpaths_of_mem property member
  | .relation _ target, member => Path.subpaths_of_mem target member

theorem subpathsOfAll_of_mem {part : Path} :
    (constraints : List Constraint) → part ∈ subpathsOfAll constraints → part.subpaths ⊆ subpathsOfAll constraints
  | [], member => by simp [subpathsOfAll] at member
  | first :: others, member => by
      rw [subpathsOfAll, List.mem_append] at member
      rw [subpathsOfAll]
      rcases member with inFirst | inOthers
      · exact List.subset_append_of_subset_left _ (Constraint.subpaths_of_mem first inFirst)
      · exact List.subset_append_of_subset_right _ (subpathsOfAll_of_mem others inOthers)

theorem Property.subpaths_of_mem {part : Path} :
    (property : Property) → part ∈ property.subpaths → part.subpaths ⊆ property.subpaths
  | .test _, member | .custom _ _, member => by simp [Property.subpaths] at member
  | .related _ target, member | .siblingOf target, member | .occurrences _ _ target, member =>
      Path.subpaths_of_mem target member
  | .and left right, member | .or left right, member => by
      rw [Property.subpaths, List.mem_append] at member
      rw [Property.subpaths]
      rcases member with inLeft | inRight
      · exact List.subset_append_of_subset_left _ (Property.subpaths_of_mem left inLeft)
      · exact List.subset_append_of_subset_right _ (Property.subpaths_of_mem right inRight)
  | .not inner, member => Property.subpaths_of_mem inner member

end

namespace Path

/-- What is true of a built path, its embedded paths aside. How far the description reaches is kept within the
override, so a path without one has its mark at zero by type. -/
structure Regular (path : Path) : Prop where
  oneInside : path.constraints.countP Constraint.isInside ≤ 1
  /-- The override covers constraints that are there. -/
  covered : path.describedUpto ≤ path.constraints.length
  /-- Matches are counted from one. -/
  numbered : ∀ operand index, path.node = .occurrence operand (.nth index) → 1 ≤ index

/-- All parts of the path are regular. -/
def Sound (path : Path) : Prop :=
  ∀ part ∈ path.subpaths, part.Regular

theorem sound_iff {node : Node} {constraints : List Constraint} {override : Option Override} :
    Sound ⟨node, constraints, override⟩ ↔
      Regular ⟨node, constraints, override⟩ ∧ (∀ part ∈ node.subpaths, part.Regular) ∧
        ∀ constraint ∈ constraints, ∀ part ∈ constraint.subpaths, part.Regular := by
  simp only [Sound, subpaths, subpathsOfAll_eq_flatMap, List.forall_mem_cons, List.forall_mem_append,
    List.forall_mem_flatMap]

theorem Sound.part {path part : Path} (sound : path.Sound) (member : part ∈ path.subpaths) : part.Sound :=
  fun other inPart => sound other (subpaths_of_mem path member inPart)

/-! ## The combinators -/

theorem countP_isInside {constraints : List Constraint} (insideless : Insideless constraints) :
    constraints.countP Constraint.isInside = 0 := by
  rw [List.countP_eq_zero]
  intro constraint member
  simp [insideless constraint member]

theorem sound_ofNode {node : Node} (embedded : ∀ part ∈ node.subpaths, part.Regular)
    (numbered : ∀ operand index, node = .occurrence operand (.nth index) → 1 ≤ index) : (ofNode node).Sound :=
  sound_iff.mpr ⟨⟨Nat.zero_le _, Nat.zero_le _, numbered⟩, embedded, by simp⟩

theorem sound_tag (name : String) : (tag name).Sound :=
  sound_ofNode (List.forall_mem_nil _) nofun

theorem sound_any : any.Sound :=
  sound_ofNode (List.forall_mem_nil _) nofun

theorem sound_textNode (content : String) : (textNode content).Sound :=
  sound_ofNode (List.forall_mem_nil _) nofun

theorem Sound.or {left right : Path} (leftSound : left.Sound) (rightSound : right.Sound) : (left.or right).Sound := by
  apply sound_ofNode
  · rw [Node.subpaths, List.forall_mem_append]
    exact ⟨leftSound, rightSound⟩
  · nofun

theorem Sound.occurrence {path : Path} {position : Position} (sound : path.Sound)
    (numbered : ∀ index, position = .nth index → 1 ≤ index) : (path.occurrence position).Sound := by
  apply sound_ofNode
  · exact sound
  · rintro operand index ⟨⟩
    exact numbered index rfl

theorem Sound.first {path : Path} (sound : path.Sound) : path.first.Sound := by
  apply sound.occurrence
  rintro index ⟨⟩
  exact Nat.le_refl 1

theorem Sound.last {path : Path} (sound : path.Sound) : path.last.Sound :=
  sound.occurrence nofun

theorem Sound.nth? {path result : Path} {index : Nat} (sound : path.Sound) (counted : path.nth? index = .ok result) :
    result.Sound := by
  unfold Path.nth? at counted
  split at counted
  case isTrue => cases counted
  case isFalse positive =>
      cases counted
      apply sound.occurrence
      rintro other ⟨⟩
      exact Nat.one_le_iff_ne_zero.mpr positive

theorem Sound.describedBy {path : Path} (sound : path.Sound) (text : String) : (path.describedBy text).Sound := by
  rcases path with ⟨node, constraints, override⟩
  obtain ⟨regular, embedded⟩ := sound_iff.mp sound
  exact sound_iff.mpr ⟨⟨regular.oneInside, Nat.le_refl _, regular.numbered⟩, embedded⟩

/-- More constraints at the end, none of them an `inside`. -/
theorem Sound.extend {path : Path} {back : List Constraint} (sound : path.Sound) (insideless : Insideless back)
    (embedded : ∀ constraint ∈ back, ∀ part ∈ constraint.subpaths, part.Regular) :
    Sound { path with constraints := path.constraints ++ back } := by
  rcases path with ⟨node, constraints, override⟩
  obtain ⟨regular, inNode, inConstraints⟩ := sound_iff.mp sound
  refine sound_iff.mpr ⟨⟨?_, ?_, regular.numbered⟩, inNode, ?_⟩
  · rw [List.countP_append, countP_isInside insideless]
    exact regular.oneInside
  · rw [List.length_append]
    exact Nat.le_add_right_of_le regular.covered
  · exact List.forall_mem_append.mpr ⟨inConstraints, embedded⟩

theorem Sound.that {path : Path} {properties : List Property} (sound : path.Sound)
    (targets : ∀ property ∈ properties, ∀ target ∈ property.targets, target.Sound) :
    (path.that properties).Sound := by
  apply sound.extend
  · intro constraint member
    obtain ⟨property, _, rfl⟩ := List.mem_map.mp member
    rfl
  · intro constraint member
    obtain ⟨property, given, rfl⟩ := List.mem_map.mp member
    rw [Constraint.subpaths, Property.subpaths_eq_flatMap, List.forall_mem_flatMap]
    exact targets property given

theorem Sound.and {path : Path} {property : Property} (sound : path.Sound)
    (targets : ∀ target ∈ property.targets, target.Sound) : (path.and property).Sound :=
  sound.that (List.forall_mem_singleton.mpr targets)

theorem Sound.relate {path target : Path} {relation : Relation} (sound : path.Sound) (targetSound : target.Sound)
    (other : relation ≠ .inside) : (path.relate relation target).Sound := by
  apply sound.extend
  · rw [Insideless, List.forall_mem_singleton]
    cases relation <;> first | rfl | contradiction
  · rw [List.forall_mem_singleton]
    exact targetSound

theorem Sound.inside {path ancestor : Path} (sound : path.Sound) (ancestorSound : ancestor.Sound) :
    (path.inside ancestor).Sound := by
  -- Along the chain: only its last path gets an `inside`, and on the way there targets are exchanged for others.
  induction path using chain_induction with
  | last node constraints override insideless =>
      obtain ⟨regular, inNode, inConstraints⟩ := sound_iff.mp sound
      rw [inside_last insideless]
      refine sound_iff.mpr ⟨⟨?_, ?_, regular.numbered⟩, inNode, ?_⟩
      · rw [List.countP_append, countP_isInside insideless, Nat.zero_add]
        exact List.countP_le_length
      · rw [List.length_append]
        exact Nat.le_add_right_of_le regular.covered
      · rw [List.forall_mem_append, List.forall_mem_singleton]
        exact ⟨inConstraints, ancestorSound⟩
  | further node front target back override insideless ih =>
      obtain ⟨regular, inNode, inConstraints⟩ := sound_iff.mp sound
      rw [List.forall_mem_append, List.forall_mem_cons] at inConstraints
      obtain ⟨inFront, inTarget, inBack⟩ := inConstraints
      have marks := describedUpto_extendOverride node (front ++ .relation .inside target :: back)
        (front ++ .relation .inside (target.inside ancestor) :: back) override ancestor front.length
      rw [inside_further insideless]
      refine sound_iff.mpr ⟨⟨?_, ?_, regular.numbered⟩, inNode, ?_⟩
      · simpa [List.countP_append, List.countP_cons, Constraint.isInside] using regular.oneInside
      · rw [marks]
        simpa using regular.covered
      · rw [List.forall_mem_append, List.forall_mem_cons]
        exact ⟨inFront, ih inTarget, inBack⟩

theorem Sound.combine {path target : Path} (sound : path.Sound) (targetSound : target.Sound) (relation : Relation) :
    (relation.combine path target).Sound := by
  cases relation with
  | inside => exact sound.inside targetSound
  | _ => exact sound.relate targetSound (by simp)

end Path

end Locator
