import Flowplan.Graph.Document

namespace Flowplan

open Intake

inductive Category
  | sales
  | pr
deriving DecidableEq

inductive Channel
  | email
deriving DecidableEq

inductive Audience
  | coldOutreach
deriving DecidableEq

namespace Category

def all : List (String × Category) := [("sales", .sales), ("pr", .pr)]

def name : Category → String
  | .sales => "sales"
  | .pr => "pr"

end Category

namespace Channel

def all : List (String × Channel) := [("email", .email)]

def name : Channel → String
  | .email => "email"

end Channel

namespace Audience

def all : List (String × Audience) := [("cold-outreach", .coldOutreach)]

def name : Audience → String
  | .coldOutreach => "cold-outreach"

end Audience

structure Candidate where
  graph : Graph
  category : Category
  channel : Channel
  audience : Audience
  description : String
deriving DecidableEq

namespace Candidate

def read : Json → Reading Candidate :=
  record "GeneratedWorkflow" fun fields =>
    Candidate.mk
      <$> required fields "dag" Graph.read
      <*> required fields "category" (choice Category.all)
      <*> required fields "channel" (choice Channel.all)
      <*> required fields "audienceType" (choice Audience.all) (some "audience_type")
      <*> required fields "description" text

def write (candidate : Candidate) : Json :=
  .obj [("dag", candidate.graph.write), ("category", .str candidate.category.name),
    ("channel", .str candidate.channel.name), ("audienceType", .str candidate.audience.name),
    ("description", .str candidate.description)]

end Candidate

end Flowplan
