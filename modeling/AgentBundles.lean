import AgentBundles.Catalog.Describe
import AgentBundles.Main
import AgentBundles.Proofs.Catalog.Built
import AgentBundles.Proofs.Catalog.References
import AgentBundles.Record.Describe
import AgentBundles.Rule.Beside
import AgentBundles.Selection.Lookup
import AgentBundles.Proofs.Selection.Acceptance
import AgentBundles.Proofs.Selection.Availability
import AgentBundles.Proofs.Compile.Bundle
import AgentBundles.Proofs.Yaml.Cursor
import AgentBundles.Proofs.Yaml.Quoted
import AgentBundles.Proofs.Yaml.SingleQuoted
import AgentBundles.Proofs.Yaml.DoubleQuoted
import AgentBundles.Proofs.Yaml.Plain
import AgentBundles.Proofs.Yaml.Scalars
import AgentBundles.Proofs.Yaml.Keys
import AgentBundles.Proofs.Yaml.Tokens
import AgentBundles.Proofs.Yaml.Lines
import AgentBundles.Proofs.Data.Entries
import AgentBundles.Proofs.Yaml.Nodes
import AgentBundles.Proofs.Yaml.Mapping
import AgentBundles.Proofs.Header
import AgentBundles.Proofs.Header.Lines
import AgentBundles.Proofs.Json.Strings
import AgentBundles.Proofs.Number.Digits
import AgentBundles.Proofs.Number.Layout
import AgentBundles.Proofs.Json.Numbers
import AgentBundles.Proofs.Json.Values
import AgentBundles.Proofs.Json.Reread
import AgentBundles.Proofs.Schema.Fits
import AgentBundles.Proofs.Schema.Reread
import AgentBundles.Proofs.Text.Paths
import AgentBundles.Proofs.Validation.Headers
import AgentBundles.Proofs.Compile.Paths
import AgentBundles.Proofs.Validation.Manifests
import AgentBundles.Proofs.Validation.Compiled
import AgentBundles.Proofs.Build.Runs
import AgentBundles.Proofs.Build.History
import AgentBundles.Proofs.Compile.Closed
import AgentBundles.Proofs.Record.Fits
import AgentBundles.Proofs.Publish.Index
import AgentBundles.Proofs.Publish.Marketplace
import AgentBundles.Proofs.Yaml.TokenFaults
import AgentBundles.Proofs.Yaml.NodeFaults
import AgentBundles.Proofs.Validation.Ending
import AgentBundles.Proofs.Build.Faults
import AgentBundles.Proofs.Build.Reported
import AgentBundles.Proofs.Command.Ends
import AgentBundles.Proofs.Compile.Opaque
import AgentBundles.Proofs.Bundle.Manifest
import AgentBundles.Proofs.Selection.Order
import AgentBundles.Proofs.Selection.Suggestions
import AgentBundles.Proofs.Build.Roots
import AgentBundles.Proofs.Validation.WellFormed
import AgentBundles.Proofs.Bundle.Raised
import AgentBundles.Proofs.Catalog.Lineage
import AgentBundles.Proofs.Compile.Division
import AgentBundles.Proofs.Validation.Frame
import AgentBundles.Proofs.Files.Making
import AgentBundles.Proofs.Bundle.Replaced
import AgentBundles.Proofs.Catalog.ShortNames
import AgentBundles.Proofs.Compile.Digest
import AgentBundles.Proofs.Bundle.Listed
import AgentBundles.Proofs.Source.Owners
import AgentBundles.Proofs.Compile.Routes
import AgentBundles.Proofs.Build.Placeholders
import AgentBundles.Proofs.Template.Directory
import AgentBundles.Proofs.Template.Identifiers
import AgentBundles.Proofs.Catalog.Slugs
