import Locator.Browser.Basic
import Locator.Settings.Basic

/-!
# Clearing inputs

Custom inputs often ignore the platform's own clearing, so clearing goes through three tiers: clear, then
as many deletion keys of both kinds as the value has characters in one go, then key by key for a limited
number of attempts. The value is read again after every tier, and a path is resolved again for every
read, so an input that is replaced while keys arrive is followed.
-/

namespace Locator

set_option autoImplicit false

/-- Whether clearing must leave the input empty. -/
inductive ClearMode where
  | strict
  | lenient
  deriving DecidableEq

/-- How many attempts the key-by-key loop has. -/
def ClearMode.tries (settings : ClearSettings) : ClearMode → Nat
  | .strict => settings.strictTries
  | .lenient => settings.lenientTries

/-- The error of an input that does not become empty. -/
def clearFailed : Error :=
  ⟨.operationFailed,
    "clearing input does not work; is this an autocomplete or another custom input?"⟩

/-- `length` backspace keys, then as many delete keys. -/
def deletionKeys (length : Nat) : String :=
  String.ofList (List.replicate length Key.backspace ++ List.replicate length Key.delete)

namespace Browser

variable {State : Type}

/-- The number of characters in the value of an input. -/
def valueLength (browser : Browser State) (field : Target) : Action State Nat := do
  let value ← browser.valueOf field
  return value.toList.length

/-- Sends the same key `count` times, each on its own. -/
def repeatKey (browser : Browser State) (field : Target) (key : Char) : Nat → Action State Unit
  | 0 => pure ()
  | count + 1 => do
      let _ ← browser.sendKeysTo (String.singleton key) field
      browser.repeatKey field key count

/-- The key-by-key loop with `left` attempts left. `previous` is the length of the value at the attempt
before, if there was one. A strict loop gives up when the value has grown and at its last attempt; that
there was no attempt at all makes it look at the value once more. -/
def clearByKey (browser : Browser State) (field : Target) (mode : ClearMode) :
    (left : Nat) → (previous : Option Nat) → Action State Unit
  | 0, _ => do
      match mode with
      | .lenient => return ()
      | .strict =>
          let value ← browser.valueOf field
          if !value.isEmpty then throw clearFailed
  | left + 1, previous => do
      let length ← browser.valueLength field
      if length = 0 then return ()
      let grown := previous.any (· < length)
      if mode = .strict ∧ (grown ∨ left = 0) then throw clearFailed
      browser.repeatKey field Key.backspace length
      browser.repeatKey field Key.delete length
      browser.clearByKey field mode left (some length)

/-- Clears an input. In strict mode it succeeds only when the value was read as empty at the end. -/
def clearInput (browser : Browser State) (field : Target) (mode : ClearMode)
    (settings : ClearSettings) : Action State Unit := do
  let initial ← browser.valueOf field
  if initial.isEmpty then return ()
  let element ← browser.locate field
  browser.clear element
  let value ← browser.valueOf field
  if value.isEmpty then return ()
  let _ ← browser.sendKeysTo (deletionKeys value.toList.length) field
  let left ← browser.valueOf field
  if left.isEmpty then return ()
  browser.clearByKey field mode (mode.tries settings) none

/-- Sends a fixed number of deletion keys and does not look at what they did. -/
def quickClear (browser : Browser State) (field : Target) (settings : ClearSettings) :
    Action State Unit := do
  let _ ← browser.sendKeysTo (deletionKeys settings.quickLength) field

end Browser

/-- The ways to change the value of an input. -/
inductive ChangeMethod where
  /-- Clear strictly. -/
  | strict
  /-- Clear strictly, resolving the path once and keeping the element. -/
  | strictOnce
  /-- Clear leniently. -/
  | lenient
  /-- Clear quickly. -/
  | quick
  deriving DecidableEq

namespace Browser

variable {State : Type}

/-- Clicks the input, clears it, and types the text. -/
def changeValue (browser : Browser State) (method : ChangeMethod) (field : Path) (text : String) :
    Action State Unit := do
  let element ← browser.clickOn (.path field)
  let target : Target := if method = .strictOnce then .handle element else .path field
  match method with
  | .strict | .strictOnce => browser.clearInput target .strict {}
  | .lenient => browser.clearInput target .lenient {}
  | .quick => browser.quickClear target {}
  let _ ← browser.sendKeysTo text target

/-- `changeValue`, then the enter key. -/
def changeValueAndEnter (browser : Browser State) (method : ChangeMethod) (field : Path)
    (text : String) : Action State Unit := do
  browser.changeValue method field text
  let _ ← browser.sendKeysTo (String.singleton Key.enter) (.path field)

end Browser

end Locator
