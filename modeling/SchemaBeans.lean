import SchemaBeans.Edit
import SchemaBeans.Main
import SchemaBeans.Proofs.Batch.Scheduling
import SchemaBeans.Proofs.CommandLine.ClassName
import SchemaBeans.Proofs.CommandLine.ErrorSources
import SchemaBeans.Proofs.CommandLine.Moving
import SchemaBeans.Proofs.CommandLine.TextReport
import SchemaBeans.Proofs.Generation.DeclarationOrder
import SchemaBeans.Proofs.Generation.FieldNames
import SchemaBeans.Proofs.Generation.LegalNames
import SchemaBeans.Proofs.Generation.Primitives
import SchemaBeans.Proofs.Java.Unambiguous
import SchemaBeans.Proofs.Json.RoundTrip
import SchemaBeans.Proofs.Json.Surrogates
import SchemaBeans.Proofs.Model.History
import SchemaBeans.Proofs.Names.Resolving
import SchemaBeans.Proofs.Report.ReadBack
import SchemaBeans.Proofs.Required.Order
import SchemaBeans.Proofs.Rule.Defects
import SchemaBeans.Proofs.Rule.Records
import SchemaBeans.Proofs.Rule.Repetition
import SchemaBeans.Rule.Pipeline
