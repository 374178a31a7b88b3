import EarlyBreak.Binder.Loop
import EarlyBreak.Debugger.Simulation
import EarlyBreak.LogFilter
import EarlyBreak.Main
import EarlyBreak.Proofs.Entry.Coherence
import EarlyBreak.Proofs.Debugger.Recorded
import EarlyBreak.Proofs.Entry.Release
import EarlyBreak.Proofs.Entry.Observation
import EarlyBreak.Proofs.Binder.GuardSteps
import EarlyBreak.Proofs.Binder.HiddenHits
import EarlyBreak.Proofs.Binder.Session
import EarlyBreak.Proofs.Binder.Soundness
import EarlyBreak.Proofs.Binder.Resumption
import EarlyBreak.Proofs.Binder.Consumption
import EarlyBreak.Proofs.Binder.Deferral
import EarlyBreak.Proofs.Entry.Operation
import EarlyBreak.Proofs.Entry.Indices
import EarlyBreak.Proofs.Debugger.Simulated
import EarlyBreak.Proofs.Entry.Installation
import EarlyBreak.Proofs.SourceMap.Search
import EarlyBreak.Proofs.SourceMap.Reach
import EarlyBreak.Proofs.SourceMap.Encoding
import EarlyBreak.Proofs.Entry.Matching
import EarlyBreak.Proofs.Prediction.Transparency
import EarlyBreak.Proofs.Binder.States
import EarlyBreak.Proofs.Binder.Stops
import EarlyBreak.Proofs.Binder.Binding
import EarlyBreak.Proofs.Prediction.Loading
import EarlyBreak.Proofs.Prediction.Requests
import EarlyBreak.Proofs.Prediction.Translation
import EarlyBreak.Proofs.Entry.Standing
import EarlyBreak.Proofs.Binder.OwnStops
import EarlyBreak.Proofs.Cache.Format
import EarlyBreak.Proofs.Glob.Folders
import EarlyBreak.Proofs.Glob.Language
import EarlyBreak.Proofs.Glob.Opened
import EarlyBreak.Proofs.Glob.Slashes
import EarlyBreak.Proofs.OutFiles.Pieces
import EarlyBreak.Proofs.OutFiles.Compilation
import EarlyBreak.Proofs.OutFiles.Pruning
import EarlyBreak.Proofs.OutFiles.Reading
import EarlyBreak.Proofs.OutFiles.Rebasing
import EarlyBreak.Proofs.OutFiles.RootVariable
import EarlyBreak.Proofs.Path.Order
import EarlyBreak.Proofs.Prediction.Catalogue
import EarlyBreak.Proofs.Prediction.Arrival
import EarlyBreak.Proofs.Regex.Covering
import EarlyBreak.Proofs.Entry.Names
import EarlyBreak.Proofs.Entry.Failures
import EarlyBreak.Proofs.Entry.Records
import EarlyBreak.Proofs.Entry.Guards
import EarlyBreak.Proofs.Binder.Classification
import EarlyBreak.Proofs.SourceMap.Grammar
import EarlyBreak.Proofs.SourceMap.Origins
import EarlyBreak.Proofs.SourceMap.Acceptance
import EarlyBreak.Proofs.Cache.Sparing
import EarlyBreak.Proofs.Path.Naming
import EarlyBreak.Proofs.Url.FileNames
import EarlyBreak.Proofs.Entry.Compiled
import EarlyBreak.Proofs.Path.Folding
import EarlyBreak.Proofs.Text.Letters
import EarlyBreak.Proofs.Text.Cuts
import EarlyBreak.Proofs.Text.Lossy
import EarlyBreak.Proofs.Path.SourceKeys
import EarlyBreak.Proofs.Url.FilePaths
import EarlyBreak.Proofs.Entry.Spellings
import EarlyBreak.Proofs.Cache.Eviction
import EarlyBreak.Proofs.Overrides.Matching
import EarlyBreak.Proofs.Url.Slashes
import EarlyBreak.Proofs.Overrides.Selection
import EarlyBreak.Proofs.Binder.Lookups
import EarlyBreak.Proofs.Overrides.Expansion
import EarlyBreak.Proofs.SourceMap.Inline
import EarlyBreak.Proofs.SourceMap.Roots
import EarlyBreak.Proofs.CommandLine.Positions
import EarlyBreak.Proofs.Debugger.Notifications
import EarlyBreak.Proofs.CommandLine.Independence
import EarlyBreak.Proofs.Debugger.Reasons
import EarlyBreak.Proofs.OutFiles.Declarations
import EarlyBreak.Proofs.SourceMap.Words
