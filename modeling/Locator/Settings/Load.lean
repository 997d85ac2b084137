import Locator.Data.Json.Record
import Locator.Data.Yaml.Reader
import Locator.Error
import Locator.Settings.Shapes

/-!
# Loading and saving settings

Settings are read from a JSON or YAML text over the defaults. A file is JSON when its name says so and
YAML otherwise.
-/

namespace Locator

open Locator.Data

set_option autoImplicit false

/-- YAML wants records written as such and nests up to 128 levels where values are set aside. -/
def yamlFormat : Format := ⟨false, 128⟩

namespace Settings

/-- Reads settings from a JSON text. -/
def ofJson (text : String) : Except Error Settings :=
  match shape.ofJson? {} text with
  | none => .error ⟨.settings, "no settings in this JSON text"⟩
  | some settings => .ok settings

/-- Reads settings from a YAML text. -/
def ofYaml (text : String) : Except Error Settings :=
  match (Yaml.parse text).bind (shape.read yamlFormat {}) with
  | none => .error ⟨.settings, "no settings in this YAML text"⟩
  | some settings => .ok settings

/-- The characters of a file name after its last dot; a dot in front of the whole name does not
count. -/
def extension? (name : String) : Option (List Char) :=
  let reversed := name.toList.reverse
  match reversed.dropWhile (· != '.') with
  | _ :: _ :: _ => if name = ".." then none else some (reversed.takeWhile (· != '.')).reverse
  | _ => none

/-- The file name ends in `.json`, in letters of either case. -/
def namesJson (name : String) : Bool :=
  (extension? name).map (List.map Char.toLower) == some ['j', 's', 'o', 'n']

/-- Reads settings from a file with the given name, whose bytes are given if there is such a file. -/
def ofFile (name : String) (bytes : Option ByteArray) : Except Error Settings :=
  match bytes with
  | none => .error ⟨.io, "No such file or directory (os error 2)"⟩
  | some bytes =>
      match String.fromUTF8? bytes with
      | none => .error ⟨.io, "stream did not contain valid UTF-8"⟩
      | some text => if namesJson name then ofJson text else ofYaml text

end Settings

end Locator
