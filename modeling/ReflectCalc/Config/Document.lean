import ReflectCalc.Config.Basic
import ReflectCalc.Toml.Document

/-!
# Configuration documents

A configuration document has a table for each group of settings. What it leaves out keeps its
default, and what it says beyond the settings has no meaning.

* `Config.node` is the value of a setting as a document gives it, and `Config.set?` reads it back;
* `Config.read?` reads a document.
-/

namespace ReflectCalc

namespace Toml.Node

/-- A text. -/
def text? : Node → Option Text
  | .text t => some t
  | _ => none

/-- A count: an integer that 64 bits hold without a sign. -/
def count? : Node → Option UInt64
  | .int n => if 0 ≤ n ∧ n < twoTo 64 then some (UInt64.ofNat n.toNat) else none
  | _ => none

/-- A list of texts. -/
def texts? : Node → Option (List Text)
  | .list items => items.mapM text?
  | _ => none

end Toml.Node

namespace Config

open Toml (Node Members)

/-- The value of a setting as a document gives it. -/
def node (c : Config) : Setting → Node
  | .backendAddress => .text c.backendAddress
  | .backendLimit => .int c.backendLimit.toNat
  | .facadeAddress => .text c.facadeAddress
  | .backendUrl => .text c.backendUrl
  | .facadeLimit => .int c.facadeLimit.toNat
  | .allowedTypes => .list (c.allowedTypes.map .text)
  | .readSecs => .int c.readSecs.toNat
  | .exchangeSecs => .int c.exchangeSecs.toNat
  | .drainSecs => .int c.drainSecs.toNat
  | .maxHeaderBytes => .int c.maxHeaderBytes.toNat
  | .logLevel => .text c.logLevel

/-- The configuration with another value for a setting, if it is a value of the right kind. -/
def set? (c : Config) (s : Setting) (value : Node) : Option Config :=
  match s with
  | .backendAddress => return { c with backendAddress := ← value.text? }
  | .backendLimit => return { c with backendLimit := ← value.count? }
  | .facadeAddress => return { c with facadeAddress := ← value.text? }
  | .backendUrl => return { c with backendUrl := ← value.text? }
  | .facadeLimit => return { c with facadeLimit := ← value.count? }
  | .allowedTypes => return { c with allowedTypes := ← value.texts? }
  | .readSecs => return { c with readSecs := ← value.count? }
  | .exchangeSecs => return { c with exchangeSecs := ← value.count? }
  | .drainSecs => return { c with drainSecs := ← value.count? }
  | .maxHeaderBytes => return { c with maxHeaderBytes := ← value.count? }
  | .logLevel => return { c with logLevel := ← value.text? }

/-- Sets those of the settings that a table holds. -/
def setMembers? (members : Members) (c : Config) : List Setting → Option Config
  | [] => some c
  | s :: rest =>
    match members.find? s.key with
    | some value => do setMembers? members (← c.set? s value) rest
    | none => setMembers? members c rest

/-- Sets the settings one after the other, as long as there are values. -/
def setItems? (c : Config) : List Setting → List Node → Option Config
  | s :: rest, value :: values => do setItems? (← c.set? s value) rest values
  | _, _ => some c

/-- Sets the settings of a table. A list stands for a table whose values it gives in order, and a
moment for an empty one. -/
def setTable? (c : Config) (settings : List Setting) : Node → Option Config
  | .table _ members => setMembers? members c settings
  | .list items => c.setItems? settings items
  | .moment _ => some c
  | _ => none

/-- The configuration that the members of a document give. -/
def ofMembers? (members : Members) : Option Config :=
  Setting.tables.foldlM
    (fun c name =>
      match members.find? name with
      | some value => c.setTable? (Setting.ofTable name) value
      | none => some c)
    standard

/-- Reads a configuration document. -/
def read? (t : Text) : Option Config := do ofMembers? (← Toml.read? t)

end Config

end ReflectCalc
