import ProjectPicker.Attempt
import ProjectPicker.Board
import ProjectPicker.Catalogue
import ProjectPicker.Catalogue.Origin
import ProjectPicker.Catalogue.Reply
import ProjectPicker.Channel
import ProjectPicker.Channel.Hub
import ProjectPicker.Channel.Listener
import ProjectPicker.Command
import ProjectPicker.Command.Decoder
import ProjectPicker.Command.Written
import ProjectPicker.CommandLine
import ProjectPicker.Decimal
import ProjectPicker.DecodeError
import ProjectPicker.Editor
import ProjectPicker.Environment
import ProjectPicker.Environment.Block
import ProjectPicker.Environment.File
import ProjectPicker.Failure
import ProjectPicker.FileError
import ProjectPicker.Files
import ProjectPicker.Form
import ProjectPicker.Form.Json
import ProjectPicker.Form.Yaml
import ProjectPicker.GitField
import ProjectPicker.Json
import ProjectPicker.Json.Reader
import ProjectPicker.Loading
import ProjectPicker.Location
import ProjectPicker.LogFilter
import ProjectPicker.Main
import ProjectPicker.Outline
import ProjectPicker.Program
import ProjectPicker.Proofs.Attempt
import ProjectPicker.Proofs.Board
import ProjectPicker.Proofs.Channel
import ProjectPicker.Proofs.Delivery
import ProjectPicker.Proofs.Hub
import ProjectPicker.Proofs.Location
import ProjectPicker.Proofs.Publication
import ProjectPicker.Proofs.ReadyList
import ProjectPicker.Proofs.Selector
import ProjectPicker.Proofs.Session.Announcements
import ProjectPicker.Proofs.Session.Clicks
import ProjectPicker.Proofs.Session.Consumption
import ProjectPicker.Proofs.Session.Count
import ProjectPicker.Proofs.Session.Deselection
import ProjectPicker.Proofs.Session.Effects
import ProjectPicker.Proofs.Session.Listing
import ProjectPicker.Proofs.Session.Mirrors
import ProjectPicker.Proofs.Session.Novelty
import ProjectPicker.Proofs.Session.Operations
import ProjectPicker.Proofs.Session.Runs
import ProjectPicker.Proofs.Template
import ProjectPicker.Proofs.Views
import ProjectPicker.Proofs.Workbench.DistinctNames
import ProjectPicker.Proofs.Workbench.Frame
import ProjectPicker.Proofs.Workbench.Imports
import ProjectPicker.Proofs.Workbench.Onlookers
import ProjectPicker.Proofs.Workbench.Stable
import ProjectPicker.ReadyList
import ProjectPicker.Refusal
import ProjectPicker.Samples
import ProjectPicker.Selector
import ProjectPicker.Session
import ProjectPicker.Session.Summary
import ProjectPicker.Settings
import ProjectPicker.Source
import ProjectPicker.Stack
import ProjectPicker.Template
import ProjectPicker.Template.Decoder
import ProjectPicker.Template.Written
import ProjectPicker.Text.Alphanumeric
import ProjectPicker.Text.Blank
import ProjectPicker.Text.CodePoints
import ProjectPicker.Text.Count
import ProjectPicker.Text.Digit
import ProjectPicker.Text.LowerCase
import ProjectPicker.Text.LowerCase.Context
import ProjectPicker.Text.LowerCase.Runs
import ProjectPicker.Text.Quoted
import ProjectPicker.Text.Quoted.Invisible
import ProjectPicker.Text.Split
import ProjectPicker.Text.Utf8
import ProjectPicker.Url
import ProjectPicker.Url.Host
import ProjectPicker.Workbench
import ProjectPicker.Workbench.Action
import ProjectPicker.Workbench.Step
import ProjectPicker.Yaml.Cursor
import ProjectPicker.Yaml.Document
import ProjectPicker.Yaml.Node
import ProjectPicker.Yaml.Node.Reader
import ProjectPicker.Yaml.Scalar
import ProjectPicker.Yaml.Token
import ProjectPicker.Yaml.Token.Scalar
import ProjectPicker.Yaml.Token.Stream
import ProjectPicker.Yaml.Token.Tag
import ProjectPicker.ZipField
import ProjectPicker.Proofs.Hub.Held
import ProjectPicker.Proofs.Hub.Snapshot
import ProjectPicker.Proofs.Hub.Termination
import ProjectPicker.Proofs.Workbench.StackTags
import ProjectPicker.Proofs.Session.Editing
import ProjectPicker.Proofs.Session.Ledger
import ProjectPicker.Proofs.Subscriptions
import ProjectPicker.Proofs.Command.Keys
import ProjectPicker.Proofs.Script
import ProjectPicker.Proofs.Form
import ProjectPicker.Proofs.Json.Reading
import ProjectPicker.Proofs.Json.Reordered
import ProjectPicker.Proofs.Command.Shown
import ProjectPicker.Proofs.RoundTrip
import ProjectPicker.Proofs.Yaml.Cursor
import ProjectPicker.Proofs.Yaml.Quoted
import ProjectPicker.Proofs.Yaml.Settling
import ProjectPicker.Proofs.Yaml.Marks
import ProjectPicker.Proofs.Yaml.Flow
import ProjectPicker.Proofs.Yaml.Values
import ProjectPicker.Proofs.Yaml.Document
import ProjectPicker.Proofs.Yaml.Legible
import ProjectPicker.Proofs.Yaml.Templates
import ProjectPicker.Proofs.Catalogue
import ProjectPicker.Proofs.Session.Confluence
import ProjectPicker.Proofs.Session.Importable
import ProjectPicker.Proofs.Session.Stacks
import ProjectPicker.Proofs.Program
import ProjectPicker.Proofs.Text.LowerCase
import ProjectPicker.Proofs.Text.Trim
import ProjectPicker.Proofs.Location.Grammar
import ProjectPicker.Proofs.ProjectName
import ProjectPicker.Proofs.Demands
import ProjectPicker.Proofs.Editor
import ProjectPicker.Proofs.Session.Renaming
import ProjectPicker.Proofs.Workbench.Saving
import ProjectPicker.Proofs.Session.LastClicks
import ProjectPicker.Proofs.Session.Sorted
import ProjectPicker.Proofs.Settings
import ProjectPicker.Proofs.Json.Templates
import ProjectPicker.Proofs.Tags
