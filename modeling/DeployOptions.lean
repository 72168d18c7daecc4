import DeployOptions.Alert.Bundle
import DeployOptions.Alert.Component
import DeployOptions.Alert.Factory
import DeployOptions.Alert.Registry
import DeployOptions.Assoc
import DeployOptions.Calendar
import DeployOptions.Cluster
import DeployOptions.CommandLine.Arguments
import DeployOptions.CommandLine.Command
import DeployOptions.CommandLine.Help
import DeployOptions.CommandLine.Outcome
import DeployOptions.Console.Action.Expression
import DeployOptions.Console.Action.Fault
import DeployOptions.Console.Action.Token
import DeployOptions.Console.Cell
import DeployOptions.Console.Cell.Table
import DeployOptions.Console.Fault
import DeployOptions.Console.Highlight
import DeployOptions.Console.Line
import DeployOptions.Console.Markup
import DeployOptions.Console.Panel
import DeployOptions.Console.Picture
import DeployOptions.Console.Picture.Table
import DeployOptions.Console.Row
import DeployOptions.Console.Style
import DeployOptions.Console.Styled
import DeployOptions.Console.Wrap
import DeployOptions.Credential
import DeployOptions.Error
import DeployOptions.Folder
import DeployOptions.Image
import DeployOptions.Label
import DeployOptions.Main
import DeployOptions.Manager
import DeployOptions.Number.Binary64
import DeployOptions.Number.Literal
import DeployOptions.Number.Shortest
import DeployOptions.Options.Apicast
import DeployOptions.Options.Images
import DeployOptions.Options.Record
import DeployOptions.Options.Setting
import DeployOptions.Options.Workloads
import DeployOptions.Options.Zync
import DeployOptions.Proofs.Alert.Binding
import DeployOptions.Proofs.Alert.Manifest
import DeployOptions.Proofs.Alert.Placeholder
import DeployOptions.Proofs.Alert.Registry
import DeployOptions.Proofs.Cluster
import DeployOptions.Proofs.CommandLine.Access
import DeployOptions.Proofs.CommandLine.Call
import DeployOptions.Proofs.CommandLine.Secrecy
import DeployOptions.Proofs.CommandLine.Shown
import DeployOptions.Proofs.CommandLine.Summary
import DeployOptions.Proofs.Console.Layout
import DeployOptions.Proofs.Console.Line
import DeployOptions.Proofs.Console.Markup
import DeployOptions.Proofs.Console.Panel
import DeployOptions.Proofs.Document.Acceptance
import DeployOptions.Proofs.Document.Place
import DeployOptions.Proofs.Document.Reading
import DeployOptions.Proofs.Image
import DeployOptions.Proofs.Label
import DeployOptions.Proofs.Label.Layer
import DeployOptions.Proofs.Resolve.Checks
import DeployOptions.Proofs.Resolve.Embedding
import DeployOptions.Proofs.Resolve.External
import DeployOptions.Proofs.Resolve.Failure
import DeployOptions.Proofs.Resolve.Handled
import DeployOptions.Proofs.Resolve.History
import DeployOptions.Proofs.Resolve.Locality
import DeployOptions.Proofs.Resolve.Precedence
import DeployOptions.Proofs.Resolve.Secrecy
import DeployOptions.Proofs.Resolve.Stage
import DeployOptions.Proofs.Resolve.Success
import DeployOptions.Proofs.Resolve.Summary
import DeployOptions.Proofs.Resolve.Tier
import DeployOptions.Proofs.Resolve.Validation
import DeployOptions.Proofs.Resolve.Zync
import DeployOptions.Proofs.Run
import DeployOptions.Proofs.Run.Fails
import DeployOptions.Proofs.Run.Handled
import DeployOptions.Proofs.Run.Paired
import DeployOptions.Proofs.Secret.Access
import DeployOptions.Proofs.Secret.Agreement
import DeployOptions.Proofs.Secret.Calls
import DeployOptions.Proofs.Secret.Causes
import DeployOptions.Proofs.Secret.Check
import DeployOptions.Proofs.Secret.Disclosure
import DeployOptions.Proofs.Secret.Handled
import DeployOptions.Proofs.Secret.Locality
import DeployOptions.Proofs.Secret.Log
import DeployOptions.Proofs.Secret.PlainMap
import DeployOptions.Proofs.Secret.Presence
import DeployOptions.Proofs.Secret.Required
import DeployOptions.Proofs.Secret.Store
import DeployOptions.Proofs.Secret.Table
import DeployOptions.Proofs.Secret.TableRun
import DeployOptions.Proofs.Secret.TableValue
import DeployOptions.Proofs.Template
import DeployOptions.Proofs.Template.Written
import DeployOptions.Proofs.Text.Base64
import DeployOptions.Proofs.Text.Lenient
import DeployOptions.Proofs.Text.Percent
import DeployOptions.Proofs.Text.Replace
import DeployOptions.Proofs.Text.Split
import DeployOptions.Proofs.Text.Utf8
import DeployOptions.Proofs.Url.Connection
import DeployOptions.Proofs.Url.Embedding
import DeployOptions.Proofs.Url.Parts
import DeployOptions.Proofs.Url.Quoting
import DeployOptions.Proofs.Value.Alike
import DeployOptions.Proofs.Value.Order
import DeployOptions.Resolve
import DeployOptions.Secret.Consistency
import DeployOptions.Secret.Policy
import DeployOptions.Secret.Source
import DeployOptions.Secret.Store
import DeployOptions.Template
import DeployOptions.Text.Base64
import DeployOptions.Text.Blank
import DeployOptions.Text.Case
import DeployOptions.Text.Digit
import DeployOptions.Text.Half
import DeployOptions.Text.Letter
import DeployOptions.Text.Pattern
import DeployOptions.Text.Percent
import DeployOptions.Text.Printable
import DeployOptions.Text.Quoted
import DeployOptions.Text.Similar
import DeployOptions.Text.Split
import DeployOptions.Text.Utf8
import DeployOptions.Url.Address
import DeployOptions.Url.Authority
import DeployOptions.Value.Basic
import DeployOptions.Value.Shown
import DeployOptions.World
import DeployOptions.Yaml.Cursor
import DeployOptions.Yaml.Document
import DeployOptions.Yaml.Fault
import DeployOptions.Yaml.Node
import DeployOptions.Yaml.Node.Value
import DeployOptions.Yaml.Scalar
import DeployOptions.Yaml.Token
import DeployOptions.Yaml.Token.Block
import DeployOptions.Yaml.Token.Plain
import DeployOptions.Yaml.Token.Property
import DeployOptions.Yaml.Token.Quoted
import DeployOptions.Yaml.Token.Stream
import DeployOptions.Yaml.Written
