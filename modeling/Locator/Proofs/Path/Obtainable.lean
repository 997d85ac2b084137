import Locator.Interaction.Choice
import Locator.Proofs.Grid.PathAnswers
import Locator.Proofs.Path.Representation

/-!
# Every path that can be obtained is sound

Paths come from the combinators, from functions that combine these, from parts of other paths, and from operations
that answer with a path. Whatever way a path was obtained, it is regular at every depth.
-/

namespace Locator

open Locator.Action

set_option autoImplicit false

variable {State : Type} {browser : Browser State} {state : State} {path : Path}

/-! ## Operations that answer with a path -/

theorem Browser.answer_inputForLabel {text : String}
    (ended : ((browser.inputForLabel text).outcome state).1 = .ok path) :
    (∃ id, path = Html.input.and (.hasId id)) ∨
      path = Html.input.inside (Html.label.and (.hasAggregatedText (Text.trim text))) := by
  have confined := browser.confined_trivially
  have answers : Keeps (fun _ => True) (browser.inputForLabel text)
      (fun path => (∃ id, path = Html.input.and (.hasId id)) ∨
        path = Html.input.inside (Html.label.and (.hasAggregatedText (Text.trim text)))) fun _ => True := by
    apply Keeps.bind (confined.find _)
    intro label _
    apply Keeps.bind (confined.attribute? label "for")
    intro reference _
    cases reference.filter (!·.isEmpty) with
    | some id => exact .pure (.inl ⟨id, rfl⟩)
    | none => exact .pure (.inr rfl)
  exact answers.answer _ trivial ended

theorem Browser.answer_selectInLabelled {text choice : String}
    (ended : ((browser.selectInLabelled text choice).outcome state).1 = .ok path) :
    path = Html.select.after (Html.label.and (.hasText text)) := by
  have confined := browser.confined_trivially
  have answers : Keeps (fun _ => True) (browser.selectInLabelled text choice)
      (fun path => path = Html.select.after (Html.label.and (.hasText text))) fun _ => True := by
    apply Keeps.bind (confined.clickOn _)
    intro _ _
    exact Keeps.bind (confined.clickOn _) fun _ _ => .pure rfl
  exact answers.answer (fun path => path = _) trivial ended

/-! ## Ways to a path -/

/-- The paths that can be obtained. Properties are put together at will, from any paths that can be obtained; a
path with one more property, class or text is `that` with one property, and a path for an HTML tag is a `tag`. -/
inductive Path.Obtainable : Path → Prop where
  | tag (name : String) : Obtainable (.tag name)
  | any : Obtainable .any
  | textNode (content : String) : Obtainable (.textNode content)
  | that {path : Path} {properties : List Property} (start : Obtainable path)
      (targets : ∀ property ∈ properties, ∀ target ∈ property.targets, Obtainable target) :
      Obtainable (path.that properties)
  | combine {path target : Path} (start : Obtainable path) (other : Obtainable target) (relation : Relation) :
      Obtainable (relation.combine path target)
  | or {left right : Path} (first : Obtainable left) (second : Obtainable right) : Obtainable (left.or right)
  | describedBy {path : Path} (start : Obtainable path) (text : String) : Obtainable (path.describedBy text)
  | nth? {path result : Path} {index : Nat} (operand : Obtainable path) (counted : path.nth? index = .ok result) :
      Obtainable result
  | first {path : Path} (operand : Obtainable path) : Obtainable path.first
  | last {path : Path} (operand : Obtainable path) : Obtainable path.last
  /-- Paths can be taken out of each other again. -/
  | part {path part : Path} (whole : Obtainable path) (embedded : part ∈ path.subpaths) : Obtainable part
  | parentOf {path : Path} (other : Obtainable path) : Obtainable (Html.parentOf path)
  | childOf {path : Path} (other : Obtainable path) : Obtainable (Html.childOf path)
  | ancestorOf {path : Path} (other : Obtainable path) : Obtainable (Html.ancestorOf path)
  | siblingOf {path : Path} (other : Obtainable path) : Obtainable (Html.siblingOf path)
  | asCheckbox {field : Path} (start : Obtainable field) : Obtainable (FormField.asCheckbox field)
  | asRadio {field : Path} (start : Obtainable field) : Obtainable (FormField.asRadio field)
  | checkbox : Obtainable FormField.checkbox
  | inputAfter (name : String) : Obtainable (FormField.inputAfter name)
  | inputBefore (name : String) : Obtainable (FormField.inputBefore name)
  | inputBeforeText (content : String) : Obtainable (FormField.inputBeforeText content)
  | inputForLabel {State : Type} {browser : Browser State} {state : State} {text : String} {path : Path}
      (ended : ((browser.inputForLabel text).outcome state).1 = .ok path) : Obtainable path
  | selectInLabelled {State : Type} {browser : Browser State} {state : State} {text choice : String} {path : Path}
      (ended : ((browser.selectInLabelled text choice).outcome state).1 = .ok path) : Obtainable path
  | gridHeaders {container : Path} (around : Obtainable container) : Obtainable (GridRegions.inside container).headers
  | gridContent {container : Path} (around : Obtainable container) : Obtainable (GridRegions.inside container).content
  | gridViewport {container : Path} (around : Obtainable container) :
      Obtainable (GridRegions.inside container).viewport
  | gridCenterViewport {container : Path} (around : Obtainable container) :
      Obtainable (GridRegions.inside container).centerViewport
  | headerCell : Obtainable Grid.headerCell
  | headerText : Obtainable Grid.headerText
  | row : Obtainable Grid.row
  | cell : Obtainable Grid.cell
  | headerPath {grid : Grid} (headers : Obtainable grid.regions.headers) (title : String) :
      Obtainable (grid.headerPath title)
  | rowPath {grid : Grid} (content : Obtainable grid.regions.content) (index : Nat) : Obtainable (grid.rowPath index)
  | cellPath {row : Path} (inRow : Obtainable row) (columnId : String) : Obtainable (Grid.cellPath row columnId)
  | expectedRowPath {grid : Grid} {index : Option Nat} {expected : RowSpec} {path : Path}
      (content : Obtainable grid.regions.content)
      (targets : ∀ cell ∈ expected.cells, ∀ target ∈ cell.2.targets, Obtainable target)
      (known : grid.expectedRowPath index expected = .ok path) : Obtainable path
  | revealRow {State : Type} {browser : Browser State} {grid : Grid} {state : State} {index : Nat} {path : Path}
      (content : Obtainable grid.regions.content)
      (ended : ((browser.revealRow index).outcome (grid, state)).1 = .ok path) : Obtainable path
  | revealCell {State : Type} {browser : Browser State} {grid : Grid} {state : State} {index : Nat} {title : String}
      {path : Path} (content : Obtainable grid.regions.content)
      (ended : ((browser.revealCell index title).outcome (grid, state)).1 = .ok path) : Obtainable path
  | revealHeader {State : Type} {browser : Browser State} {grid : Grid} {state : State} {title : String} {path : Path}
      (headers : Obtainable grid.regions.headers)
      (ended : ((browser.revealHeader title).outcome (grid, state)).1 = .ok path) : Obtainable path

namespace Path

/-! ## What the functions make of sound paths -/

theorem Sound.asCheckbox {field : Path} (sound : field.Sound) : (FormField.asCheckbox field).Sound :=
  sound.and (List.forall_mem_nil _)

theorem Sound.asRadio {field : Path} (sound : field.Sound) : (FormField.asRadio field).Sound :=
  sound.and (List.forall_mem_nil _)

/-- An element that holds exactly one input. -/
theorem Sound.andOneInput {holder : Path} (sound : holder.Sound) : (holder.and FormField.hasOneInput).Sound :=
  sound.and (List.forall_mem_singleton.mpr (sound_tag "input"))

theorem sound_inputAfter (name : String) : (FormField.inputAfter name).Sound := by
  have input : Html.input.Sound := sound_tag "input"
  have named : (Html.element.and (.hasAggregatedText name)).Sound := sound_any.and (List.forall_mem_nil _)
  have field : ((Html.element.and (.hasAggregatedText name)).and (.not (.contains Html.input))).Sound :=
    named.and (List.forall_mem_singleton.mpr input)
  have holder := (sound_any.combine field .afterSibling).andOneInput
  exact ((input.inside holder).or (input.combine field .afterSibling)).describedBy _

theorem sound_inputBefore (name : String) : (FormField.inputBefore name).Sound := by
  have input : Html.input.Sound := sound_tag "input"
  have field : (Html.element.and (.hasAggregatedText name)).Sound := sound_any.and (List.forall_mem_nil _)
  have holder := (sound_any.combine field .immediatelyBeforeSibling).andOneInput
  have either := (input.inside holder).or (input.combine field .immediatelyBeforeSibling)
  exact either.last.describedBy _

theorem Sound.headerPath {grid : Grid} (sound : grid.regions.headers.Sound) (title : String) :
    (grid.headerPath title).Sound := by
  have headerCell : Grid.headerCell.Sound := (sound_tag "div").and (List.forall_mem_nil _)
  have headerText : Grid.headerText.Sound := (sound_tag "span").and (List.forall_mem_nil _)
  have titled : (Grid.headerText.and (.hasAggregatedText title)).Sound := headerText.and (List.forall_mem_nil _)
  exact ((headerCell.inside sound).combine titled .containing).describedBy _

theorem sound_row : Grid.row.Sound :=
  (sound_tag "div").and (List.forall_mem_nil _)

theorem sound_cell : Grid.cell.Sound :=
  (sound_tag "div").and (List.forall_mem_nil _)

theorem Sound.rowPath {grid : Grid} (sound : grid.regions.content.Sound) (index : Nat) :
    (grid.rowPath index).Sound := by
  have numbered : (Grid.row.and (Grid.hasRowIndex index)).Sound := sound_row.and (List.forall_mem_nil _)
  exact (numbered.inside sound).describedBy _

theorem Sound.cellPath {row : Path} (sound : row.Sound) (columnId : String) : (Grid.cellPath row columnId).Sound :=
  ((sound_cell.inside sound).describedBy _).and (List.forall_mem_nil _)

theorem Sound.withCells {grid : Grid} {cells : List (String × Property)} {row path : Path} (sound : row.Sound)
    (targets : ∀ cell ∈ cells, ∀ target ∈ cell.2.targets, target.Sound)
    (known : grid.withCells row cells = .ok path) : path.Sound := by
  induction cells generalizing row with
  | nil =>
      cases known
      exact sound
  | cons first cells ih =>
      obtain ⟨title, expected⟩ := first
      obtain ⟨here, later⟩ := List.forall_mem_cons.mp targets
      unfold Grid.withCells at known
      cases found : grid.columnId? title with
      | error error => simp [found] at known
      | ok id =>
          simp only [found] at known
          have cell : (Grid.cell.that [Grid.hasColumnId id, expected]).Sound := by
            apply sound_cell.that
            rw [List.forall_mem_cons, List.forall_mem_singleton]
            exact ⟨List.forall_mem_nil _, here⟩
          have extended : (row.and (.contains (Grid.cell.that [Grid.hasColumnId id, expected]))).Sound :=
            sound.and (List.forall_mem_singleton.mpr cell)
          exact ih extended later known

theorem Sound.expectedRowPath {grid : Grid} {index : Option Nat} {expected : RowSpec} {path : Path}
    (sound : grid.regions.content.Sound) (targets : ∀ cell ∈ expected.cells, ∀ target ∈ cell.2.targets, target.Sound)
    (known : grid.expectedRowPath index expected = .ok path) : path.Sound := by
  cases index with
  | none => exact ((sound_row.inside sound).describedBy "row").withCells targets known
  | some index => exact (sound.rowPath index).withCells targets known

theorem Obtainable.sound {path : Path} (obtainable : path.Obtainable) : path.Sound := by
  induction obtainable with
  | tag name => exact sound_tag name
  | any => exact sound_any
  | textNode content => exact sound_textNode content
  | that _ _ start targets => exact start.that targets
  | combine _ _ relation start other => exact start.combine other relation
  | or _ _ first second => exact first.or second
  | describedBy _ text start => exact start.describedBy text
  | nth? _ counted operand => exact operand.nth? counted
  | first _ operand => exact operand.first
  | last _ operand => exact operand.last
  | part _ embedded whole => exact whole.part embedded
  | parentOf _ other => exact sound_any.combine other .parentOf
  | childOf _ other => exact sound_any.combine other .childOf
  | ancestorOf _ other => exact sound_any.combine other .containing
  | siblingOf _ other => exact sound_any.and (List.forall_mem_singleton.mpr other)
  | asCheckbox _ start => exact start.asCheckbox
  | asRadio _ start => exact start.asRadio
  | checkbox => exact (sound_tag "input").asCheckbox
  | inputAfter name => exact sound_inputAfter name
  | inputBefore name => exact sound_inputBefore name
  | inputBeforeText content => exact (sound_tag "input").combine (sound_textNode content) .immediatelyBeforeSibling
  | inputForLabel ended =>
      have input : Html.input.Sound := sound_tag "input"
      obtain ⟨id, rfl⟩ | rfl := Browser.answer_inputForLabel ended
      · exact input.and (List.forall_mem_nil _)
      · exact input.inside ((sound_tag "label").and (List.forall_mem_nil _))
  | selectInLabelled ended =>
      obtain rfl := Browser.answer_selectInLabelled ended
      exact (sound_tag "select").combine ((sound_tag "label").and (List.forall_mem_nil _)) .after
  | gridHeaders _ around | gridContent _ around | gridViewport _ around | gridCenterViewport _ around =>
      exact ((sound_tag "div").and (List.forall_mem_nil _)).inside around
  | headerCell => exact (sound_tag "div").and (List.forall_mem_nil _)
  | headerText => exact (sound_tag "span").and (List.forall_mem_nil _)
  | row => exact sound_row
  | cell => exact sound_cell
  | headerPath _ title headers => exact headers.headerPath title
  | rowPath _ index content => exact content.rowPath index
  | cellPath _ columnId inRow => exact inRow.cellPath columnId
  | expectedRowPath _ _ known content targets => exact content.expectedRowPath targets known
  | revealRow _ ended content =>
      obtain rfl := Grid.answer_revealRow ended
      exact content.rowPath _
  | revealCell _ ended content =>
      obtain ⟨id, rfl⟩ := Grid.answer_revealCell ended
      exact (content.rowPath _).cellPath id
  | revealHeader _ ended headers =>
      obtain rfl := Grid.answer_revealHeader ended
      exact headers.headerPath _

/-- Whatever way a path was obtained, it and all paths embedded in it, at any depth, are regular: each has one
`inside` at most, an override that covers constraints that are there, no mark without an override, and matches that
are counted from one. -/
theorem obtainable_regular {path part : Path} (obtainable : path.Obtainable) (embedded : part ∈ path.subpaths) :
    part.Regular :=
  obtainable.sound part embedded

/-- The path is a branch of a union, within a property, within the operand of an occurrence. -/
theorem obtainable_regular_nested :
    let field := (((tag "input").inside (.tag "label")).describedBy "the field").inside (.tag "form")
    let whole := ((tag "div").and (.contains (field.or .any))).last
    whole.Obtainable ∧ field ∈ whole.subpaths ∧ field.constraints.length = 1 ∧ field.Regular := by
  intro field whole
  have label : ((tag "input").inside (.tag "label")).Obtainable :=
    .combine (.tag "input") (.tag "label") .inside
  have obtained : field.Obtainable := .combine (label.describedBy "the field") (.tag "form") .inside
  have obtainable : whole.Obtainable := by
    apply Obtainable.last
    apply Obtainable.that (.tag "div")
    rw [List.forall_mem_singleton]
    exact List.forall_mem_singleton.mpr (obtained.or .any)
  have embedded : field ∈ whole.subpaths := .tail _ (.tail _ (.tail _ (.head _)))
  exact ⟨obtainable, embedded, rfl, obtainable_regular obtainable embedded⟩

end Path

end Locator
