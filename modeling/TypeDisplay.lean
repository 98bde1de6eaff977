import TypeDisplay.CommandLine
import TypeDisplay.Descriptor.Builder
import TypeDisplay.Descriptor.Document
import TypeDisplay.Descriptor.Name
import TypeDisplay.Descriptor.Subject
import TypeDisplay.Json
import TypeDisplay.Main
import TypeDisplay.Options
import TypeDisplay.Proofs.Acceptance
import TypeDisplay.Proofs.Canonical
import TypeDisplay.Proofs.Construction
import TypeDisplay.Proofs.Context
import TypeDisplay.Proofs.DetailPlaces
import TypeDisplay.Proofs.DottedNamespace
import TypeDisplay.Proofs.Expression
import TypeDisplay.Proofs.Failure
import TypeDisplay.Proofs.FieldOrder
import TypeDisplay.Proofs.OptionFormat
import TypeDisplay.Proofs.Renaming
import TypeDisplay.Proofs.RoundTrip
import TypeDisplay.Proofs.Shorthand
import TypeDisplay.Proofs.ShownKeywords
import TypeDisplay.Proofs.TabIndentation
import TypeDisplay.Proofs.UniqueReading
import TypeDisplay.Proofs.Unreported
import TypeDisplay.Source
import TypeDisplay.Validation
