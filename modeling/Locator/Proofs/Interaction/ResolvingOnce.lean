import Locator.Proofs.Interaction.Clearing
import Locator.Proofs.Page.Clicks

/-!
# Resolving a field once

A value is changed alike through the element that was clicked and through a path that is looked up again for every
step: nothing that is done to a field changes which element the path finds. The recorded lookups are all that
differs.
-/

namespace Locator

set_option autoImplicit false

/-- The calls are the same but for lookups of a first match. The second list has one of these, for the path. -/
structure DifferInFinds (path : Path) (calls calls' : List Call) : Prop where
  others : calls.filter (·.method != "find") = calls'.filter (·.method != "find")
  once : calls'.filter (·.method == "find") = [.find path.toXPath]

theorem DifferInFinds.cons {path : Path} {calls calls' : List Call} (differ : DifferInFinds path calls calls')
    {call : Call} (other : call.method ≠ "find") : DifferInFinds path (call :: calls) (call :: calls') := by
  constructor
  · simp [other, differ.others]
  · simp [other, differ.once]

theorem DifferInFinds.find {path : Path} {calls calls' : List Call} (differ : DifferInFinds path calls calls')
    (xpath : String) : DifferInFinds path (.find xpath :: calls) calls' := by
  have lookup : (Call.find xpath).method = "find" := rfl
  constructor
  · simp [lookup, differ.others]
  · exact differ.once

namespace Page

open Locator.Action

/-- What two runs from `start` have come to, of which only the first looks the path up again: the same page but for
the log, on which the path still finds the element. -/
structure InStep (start : Page) (path : Path) (handle : Handle) (page page' : Page) : Prop where
  same : page'.clearHistory = page.clearHistory
  found : page.first? path = some handle
  calls : ∃ calls calls', page.log = calls ++ start.log ∧ page'.log = calls' ++ start.log ∧
    DifferInFinds path calls calls'

variable {start page page' : Page} {path : Path} {handle : Handle}

theorem InStep.element?_eq (inStep : start.InStep path handle page page') (other : Handle) :
    page'.element? other = page.element? other :=
  congrArg (·.element? other) inStep.same

theorem InStep.record (inStep : start.InStep path handle page page') {call : Call} (other : call.method ≠ "find") :
    start.InStep path handle (page.record call) (page'.record call) := by
  obtain ⟨calls, calls', log, log', differ⟩ := inStep.calls
  refine ⟨inStep.same, inStep.found, call :: calls, call :: calls', ?_, ?_, differ.cons other⟩
  · exact congrArg (call :: ·) log
  · exact congrArg (call :: ·) log'

theorem InStep.add (inStep : start.InStep path handle page page') (other : Handle) (element : Element) :
    start.InStep path handle (page.add other element) (page'.add other element) :=
  ⟨congrArg (·.add other element) inStep.same, inStep.found, inStep.calls⟩

/-! ## Steps -/

theorem locate_inStep :
    Alike (start.InStep path handle) (browser.locate (.path path)) (browser.locate (.handle handle)) := by
  intro page page' inStep
  obtain ⟨calls, calls', log, log', differ⟩ := inStep.calls
  rw [outcome_locate_of_first? inStep.found]
  refine ⟨rfl, inStep.same, inStep.found, _, calls', ?_, log', differ.find path.toXPath⟩
  exact congrArg (Call.find path.toXPath :: ·) log

theorem modify_inStep (call : Call) (other : call.method ≠ "find") (target : Handle) (change : Element → Element) :
    Alike (start.InStep path handle) (recorded call fun page => page.modify target change)
      (recorded call fun page => page.modify target change) := by
  intro page page' inStep
  have after := inStep.record other
  have same := after.element?_eq target
  unfold recorded Action.outcome modify
  cases found : (page.record call).element? target with
  | error error =>
      simp only [ExceptT.run, StateT.run, same.trans found, found]
      exact ⟨trivial, after⟩
  | ok element =>
      simp only [ExceptT.run, StateT.run, same.trans found, found]
      exact ⟨trivial, after.add target (change element)⟩

theorem value_inStep (target : Handle) :
    Alike (start.InStep path handle) (browser.attribute? target "value") (browser.attribute? target "value") := by
  intro page page' inStep
  have read (page : Page) : (browser.attribute? target "value").outcome page =
      ((page.element? target).map (·.attribute? "value"), page) := outcome_onElement_map page target _
  rw [read, read, inStep.element?_eq]
  exact ⟨rfl, inStep⟩

theorem fields_inStep :
    browser.FieldsAlike (start.InStep path handle) (.path path) browser (.handle handle) where
  locate := locate_inStep
  value := value_inStep
  sendKeys target keys := modify_inStep (.sendKeys target keys) (by simp [Call.method]) target (·.receive keys)
  clear target := modify_inStep (.clear target) (by simp [Call.method]) target Element.cleared

theorem InStep.clicked (found : start.first? path = some handle) :
    let clicked := (start.record (.find path.toXPath)).record (.click handle)
    start.InStep path handle clicked clicked := by
  refine ⟨rfl, found, [.click handle, .find path.toXPath], [.click handle, .find path.toXPath], rfl, rfl, rfl, ?_⟩
  simp [Call.method]

/-! ## The whole change -/

/-- On any page, whatever the field does with keys, whether it can be cleared, and whether it is there at all:
resolving the path once and using that element ends alike and leaves the same page. What is recorded differs in
lookups of a first match, of which there is just one then. -/
theorem changeValue_resolving_once (page : Page) (path : Path) (text : String) :
    let anew := (browser.changeValue .strict path text).outcome page
    let once := (browser.changeValue .strictOnce path text).outcome page
    anew.1 = once.1 ∧ anew.2.clearHistory = once.2.clearHistory ∧
      ∃ calls calls', anew.2.log = calls ++ page.log ∧ once.2.log = calls' ++ page.log ∧
        DifferInFinds path calls calls' := by
  intro anew once
  rcases clickOn_ends page path with ⟨error, failed⟩ | ⟨handle, found, clicked⟩
  · have ended : anew = (.error error, page.record (.find path.toXPath)) := outcome_bind_of_error failed
    have ended' : once = (.error error, page.record (.find path.toXPath)) := outcome_bind_of_error failed
    rw [ended, ended']
    refine ⟨rfl, rfl, [.find path.toXPath], [.find path.toXPath], rfl, rfl, rfl, ?_⟩
    simp [Call.method]
  · -- From the click on, the two runs are in step.
    have fields : browser.FieldsAlike (page.InStep path handle) (.path path) browser (.handle handle) := fields_inStep
    have changed := (fields.clearInput .strict {}).bind fun _ => (fields.sendKeysTo text).bind fun _ => .pure ()
    obtain ⟨result, inStep⟩ := changed _ _ (InStep.clicked found)
    have later : anew = _ := outcome_bind_of_ok clicked
    have later' : once = _ := outcome_bind_of_ok clicked
    rw [later, later']
    exact ⟨result, inStep.same.symm, inStep.calls⟩

end Page

end Locator
