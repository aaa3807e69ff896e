import Flowplan.Block.Value
import Flowplan.Registry.Basic

namespace Flowplan.Registry

structure Listing where
  entries : List (Block.Scalar × Binding)

def Listing.registry (listing : Listing) : Registry where
  entries := listing.entries.filterMap fun (name, binding) =>
    match name with
    | .text kind => some (kind, binding)
    | _ => none

inductive FileError
  | unreadable (error : Block.ScalarError)
  | notMapping (file : String)
  | notTypes (kind : String)
  | badEntry (error : RegistryError)
deriving DecidableEq

def FileError.message : FileError → String
  | .unreadable error => error.message
  | .notMapping file => s!"Registry file {file} must contain a mapping"
  | .notTypes kind => s!"'{kind}' object has no attribute 'items'"
  | .badEntry error => error.message

def bindingOf (name : Block.Scalar) (value : Block.Value) : Except RegistryError Binding :=
  match value with
  | .scalar .null => .ok .native
  | .scalar (.text path) =>
    if path == "" then .error ⟨name.display, value.inspect⟩ else .ok (.executable path)
  | value => .error ⟨name.display, value.inspect⟩

def ofDocument (file : String) (document : Block.Value) : Except FileError Listing :=
  match if document.truthy then document else .mapping [] with
  | .mapping fields =>
    match (Block.Value.field? (.text "node_types") fields).getD (.mapping fields) with
    | .mapping types => do
      let entries ←
        (types.mapM fun (name, value) => return (name, ← bindingOf name value)).mapError .badEntry
      return ⟨entries⟩
    | value => .error (.notTypes value.kindName)
  | _ => .error (.notMapping file)

def ofFile (file text : String) : Except FileError Listing := do
  ofDocument file (← (Block.Value.ofText text).mapError .unreadable)

end Flowplan.Registry
