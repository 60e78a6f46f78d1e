import Ambient.Emission.Document
import Ambient.Emission.Log
import Ambient.Main
import Ambient.Proofs.Layout
import Ambient.Proofs.Results
import Ambient.Proofs.Step
import Ambient.Proofs.Walk
import Ambient.Proofs.Run
import Ambient.Proofs.Names
import Ambient.Proofs.Tables
import Ambient.Proofs.Blocks
import Ambient.Proofs.Declared
import Ambient.Proofs.Outcome
import Ambient.Proofs.Settings
import Ambient.Proofs.Balance
import Ambient.Proofs.Reads
import Ambient.Proofs.Sections
import Ambient.Proofs.Agreement
import Ambient.Proofs.Problems
import Ambient.Proofs.Reordering
import Ambient.Proofs.Listing
import Ambient.Proofs.Loadable
import Ambient.Proofs.Loaded
import Ambient.Proofs.Members
import Ambient.Proofs.Paths
import Ambient.Proofs.Repeats
import Ambient.Proofs.Lines
import Ambient.Proofs.Comparison
import Ambient.Proofs.Views
import Ambient.Proofs.Forms
import Ambient.Proofs.Breaks
import Ambient.Proofs.Events
import Ambient.Proofs.Survivors
import Ambient.Proofs.Arrows
import Ambient.Proofs.ParameterNames
import Ambient.Proofs.RestParameters
import Ambient.Proofs.Nullability
import Ambient.Proofs.Heritage
import Ambient.Proofs.Comments
import Ambient.Proofs.Building
import Ambient.Proofs.History
import Ambient.Proofs.IgnoredParts
import Ambient.Proofs.References
import Ambient.Proofs.Renaming
import Ambient.Proofs.Pages
import Ambient.Proofs.Categories
import Ambient.Proofs.Keys
import Ambient.Proofs.Parents
import Ambient.Proofs.Identifiers
import Ambient.Proofs.Decoding
import Ambient.Proofs.Places
import Ambient.Proofs.Reader
import Ambient.Proofs.Respelling
import Ambient.Proofs.Positions
import Ambient.Proofs.Parsing
import Ambient.Proofs.Arguments
