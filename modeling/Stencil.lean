import Stencil.Calendar.Clock
import Stencil.Calendar.Moment
import Stencil.Calendar.Pattern
import Stencil.Calendar.Zone
import Stencil.Document.Anchored
import Stencil.Document.Basic
import Stencil.Document.Folder
import Stencil.Document.Notation
import Stencil.Fault
import Stencil.Format.Context
import Stencil.Format.Provider
import Stencil.Log
import Stencil.Lookup.Event
import Stencil.Lookup.Handler
import Stencil.Lookup.Notify
import Stencil.Lookup.Session
import Stencil.Node.Basic
import Stencil.Node.Build
import Stencil.Node.Written
import Stencil.Number.Binary64
import Stencil.Number.Decimal
import Stencil.Number.DecimalLayout
import Stencil.Number.Layout
import Stencil.Number.Rounding
import Stencil.Number.Shortest
import Stencil.Render.Engine
import Stencil.Render.Generate
import Stencil.Render.Generator
import Stencil.Resolve.Member
import Stencil.Resolve.Path
import Stencil.Resolve.Registry
import Stencil.Scope.Basic
import Stencil.Scope.Forest
import Stencil.Settings.Cache
import Stencil.Settings.Defaults
import Stencil.Settings.Load
import Stencil.Settings.Merge
import Stencil.Settings.Override
import Stencil.Settings.Path
import Stencil.Settings.Rendering
import Stencil.Settings.Schema
import Stencil.Settings.Standard
import Stencil.Settings.Tree
import Stencil.Settings.Validator
import Stencil.Sorting
import Stencil.Text.Blank
import Stencil.Text.Digit
import Stencil.Text.Identifier
import Stencil.Text.Letter
import Stencil.Text.Markup
import Stencil.Text.Printable
import Stencil.Text.Quoted
import Stencil.Text.Ranges
import Stencil.Text.Split
import Stencil.Value.Basic
import Stencil.Value.Canonical
import Stencil.Value.Elements
import Stencil.Value.Kind
import Stencil.Value.Layout
import Stencil.Value.Order
import Stencil.Value.Text
import Stencil.Proofs.Document.Layers
import Stencil.Proofs.Document.Reading
import Stencil.Proofs.Fault.Family
import Stencil.Proofs.Lookup.Addition
import Stencil.Proofs.Lookup.Calls
import Stencil.Proofs.Lookup.Circle
import Stencil.Proofs.Lookup.Course
import Stencil.Proofs.Lookup.Effect
import Stencil.Proofs.Lookup.Execution
import Stencil.Proofs.Lookup.Inquiry
import Stencil.Proofs.Lookup.Isolation
import Stencil.Proofs.Lookup.Lawfulness
import Stencil.Proofs.Lookup.Matching
import Stencil.Proofs.Lookup.Nesting
import Stencil.Proofs.Lookup.Notification
import Stencil.Proofs.Lookup.Observation
import Stencil.Proofs.Lookup.Plain
import Stencil.Proofs.Lookup.Simulation
import Stencil.Proofs.Lookup.Streamless
import Stencil.Proofs.Lookup.Tally
import Stencil.Proofs.Lookup.Trace
import Stencil.Proofs.Node.Acceptance
import Stencil.Proofs.Node.Grammar
import Stencil.Proofs.Node.Position
import Stencil.Proofs.Node.RoundTrip
import Stencil.Proofs.Node.Usage
import Stencil.Proofs.Render.Account
import Stencil.Proofs.Render.Attribution
import Stencil.Proofs.Render.Blocks
import Stencil.Proofs.Render.Concatenation
import Stencil.Proofs.Render.Counterpart
import Stencil.Proofs.Render.Entrance
import Stencil.Proofs.Render.Escaping
import Stencil.Proofs.Render.Exposure
import Stencil.Proofs.Render.Grouping
import Stencil.Proofs.Render.Inquiries
import Stencil.Proofs.Render.Insertion
import Stencil.Proofs.Render.Inversion
import Stencil.Proofs.Render.Isolation
import Stencil.Proofs.Render.Keeping
import Stencil.Proofs.Render.Matching
import Stencil.Proofs.Render.Observation
import Stencil.Proofs.Render.Place
import Stencil.Proofs.Render.Probe
import Stencil.Proofs.Render.Readiness
import Stencil.Proofs.Render.Reordering
import Stencil.Proofs.Render.Room
import Stencil.Proofs.Render.Series
import Stencil.Proofs.Render.Shadow
import Stencil.Proofs.Render.Simulation
import Stencil.Proofs.Render.Streamless
import Stencil.Proofs.Render.Strictness
import Stencil.Proofs.Render.Tally
import Stencil.Proofs.Render.Trace
import Stencil.Proofs.Render.Writing
import Stencil.Proofs.Resolve.Agreement
import Stencil.Proofs.Resolve.Enumeration
import Stencil.Proofs.Resolve.Position
import Stencil.Proofs.Resolve.Trail
import Stencil.Proofs.Scope.Composition
import Stencil.Proofs.Scope.Delegation
import Stencil.Proofs.Scope.Forest
import Stencil.Proofs.Scope.Insertion
import Stencil.Proofs.Scope.Resemblance
import Stencil.Proofs.Scope.Totality
import Stencil.Proofs.Settings.Acceptance
import Stencil.Proofs.Settings.Alteration
import Stencil.Proofs.Settings.Arrangement
import Stencil.Proofs.Settings.Assignment
import Stencil.Proofs.Settings.Coercion
import Stencil.Proofs.Settings.Conformance
import Stencil.Proofs.Settings.Failure
import Stencil.Proofs.Settings.Grounding
import Stencil.Proofs.Settings.Independence
import Stencil.Proofs.Settings.Keywords
import Stencil.Proofs.Settings.Layering
import Stencil.Proofs.Settings.Leniency
import Stencil.Proofs.Settings.Marking
import Stencil.Proofs.Settings.Naming
import Stencil.Proofs.Settings.Notation
import Stencil.Proofs.Settings.Origin
import Stencil.Proofs.Settings.Overriding
import Stencil.Proofs.Settings.Placement
import Stencil.Proofs.Settings.Precedence
import Stencil.Proofs.Settings.Projects
import Stencil.Proofs.Settings.Readiness
import Stencil.Proofs.Settings.Relevance
import Stencil.Proofs.Settings.Separation
import Stencil.Proofs.Settings.Sharing
import Stencil.Proofs.Settings.Transparency
import Stencil.Proofs.Settings.Tree
import Stencil.Proofs.Text.Letter
import Stencil.Proofs.Text.Markup
import Stencil.Proofs.Text.Numeral
import Stencil.Proofs.Text.Split
import Stencil.Proofs.Text.Table
import Stencil.Proofs.Value.Classification
import Stencil.Proofs.Value.Entries
import Stencil.Proofs.Value.Exposure
import Stencil.Proofs.Value.Keys
import Stencil.Proofs.Value.Ordering
import Stencil.Proofs.Value.Resemblance
import Stencil.Proofs.Value.Sorting
import Stencil.Proofs.Value.Streamless
