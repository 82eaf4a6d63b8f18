import SchemaBeans.Model.Member
import SchemaBeans.Names.Naming
import SchemaBeans.Settings.Basic

/-!
# What rules share

The rules of a run share its settings, one way of naming members and one format of metadata. The
rule that creates members and the rule that looks them up agree because they share the naming.

Fields may carry metadata of their properties for a description format. In the format of Swagger 2
a field has one annotation for all of it, which every rule extends.
-/
namespace SchemaBeans

/-- The format of metadata. -/
inductive Metadata where
  /-- No metadata is recorded. -/
  | none
  /-- Metadata is recorded in an annotation of Swagger 2. -/
  | swagger2
deriving DecidableEq, Repr

namespace Metadata

/-- The annotation of Swagger 2 for fields. -/
def apiModelProperty : String := "io.swagger.annotations.ApiModelProperty"

/-- Record the description of a property, if it is not empty. -/
def describe (metadata : Metadata) (description : String) (field : FieldModel) : FieldModel :=
  match metadata with
  | none => field
  | swagger2 =>
    if description = "" then field
    else field.mapMember (·.annotate apiModelProperty [("value", .text description)])

/-- Record whether a property is required. -/
def markRequired (metadata : Metadata) (required : Bool) (field : FieldModel) : FieldModel :=
  match metadata with
  | none => field
  | swagger2 => field.mapMember (·.annotate apiModelProperty [("required", .bool required)])

end Metadata

/-- What the rules of a run share. -/
structure RuleContext where
  /-- The settings of the run. -/
  settings : Settings
  /-- How names of properties become names of members. -/
  naming : Naming
  /-- The format of metadata. -/
  metadata : Metadata
deriving DecidableEq, Repr

namespace RuleContext

/-- The format of metadata that settings ask for. -/
def metadataOf (settings : Settings) : Metadata := if settings.swagger2 then .swagger2 else .none

/-- What rules share under the given settings; naming and metadata follow the settings unless they
are given. -/
def ofSettings (settings : Settings := {}) (naming : Option Naming := none)
    (metadata : Option Metadata := none) : RuleContext where
  settings
  naming := naming.getD ⟨settings.wordDelimiters⟩
  metadata := metadata.getD (metadataOf settings)

end RuleContext

end SchemaBeans
