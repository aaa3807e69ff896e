import Flowplan.Intake.Reading

namespace Flowplan

open Intake

structure Hints where
  services : List String
  stepTypes : List String
  expectedInputs : List String
deriving DecidableEq

namespace Hints

def read : Json → Reading Hints :=
  record "GenerationHints" fun fields =>
    Hints.mk
      <$> defaulted fields "services" [] (list text)
      <*> defaulted fields "node_types" [] (list text)
      <*> defaulted fields "expected_inputs" [] (list text)

def line (lead : String) (values : List String) : String :=
  if values.isEmpty then "" else lead ++ ", ".intercalate values

end Hints

def requestMessage (description : String) (hints : Option Hints) : String :=
  match hints with
  | none => description
  | some hints =>
    description
      ++ Hints.line "\n\nRelevant services: " hints.services
      ++ Hints.line "\nPreferred node types: " hints.stepTypes
      ++ Hints.line "\nExpected flow_input fields: " hints.expectedInputs

inductive Voice
  | human
  | brand
deriving DecidableEq

namespace Voice

def all : List (String × Voice) := [("human", .human), ("brand", .brand)]

def name : Voice → String
  | .human => "human"
  | .brand => "brand"

end Voice

structure Style where
  voice : Voice
  name : String
  humanId : Option String
  brandId : Option String
deriving DecidableEq

namespace Style

def identity (style : Style) : Option String :=
  (match style.voice with
    | .human => style.humanId
    | .brand => style.brandId).filter (· != "")

def missingIdentity : Voice → String
  | .human => "human_id is required for a human style"
  | .brand => "brand_id is required for a brand style"

def fields (value : Entries Json) : Reading Style :=
  Style.mk
    <$> required value "type" (choice Voice.all)
    <*> required value "name" text
    <*> defaulted value "human_id" none (optional text)
    <*> defaulted value "brand_id" none (optional text)

def read : Json → Reading Style :=
  record "GenerationStyle" fun value =>
    (fields value).andThen fun style =>
      if style.identity.isSome then .good style
      else refuse (.refused (missingIdentity style.voice)) (.obj value)

def directive (style : Style) : String :=
  let id := style.identity.getD ""
  match style.voice with
  | .human =>
    s!"Write this workflow in the personal voice of {style.name} (humanId: {id}). "
      ++ s!"Content-generation steps should pass \"body.humanId\": \"{id}\" so generated "
      ++ "copy matches this person's tone."
  | .brand =>
    s!"Write this workflow in the voice of the brand {style.name} (brandId: {id}). "
      ++ s!"Content-generation steps should pass \"body.brandId\": \"{id}\" so generated "
      ++ "copy matches the brand's tone."

def write (style : Style) : Json :=
  .obj [("type", .str style.voice.name), ("name", .str style.name),
    ("human_id", .ofText? style.humanId), ("brand_id", .ofText? style.brandId)]

end Style

end Flowplan
