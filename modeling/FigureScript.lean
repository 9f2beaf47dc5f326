import FigureScript.Figure.Save
import FigureScript.Main
import FigureScript.Proofs.Figure.Legends
import FigureScript.Proofs.Figure.Names
import FigureScript.Proofs.Figure.OwnAxes
import FigureScript.Series.Value
import FigureScript.Proofs.Figure.Isolation
import FigureScript.Proofs.Script.Brackets
import FigureScript.Proofs.Script.Lines
import FigureScript.Proofs.Script.Rendering
import FigureScript.Proofs.Figure.WellFormed
import FigureScript.Proofs.Figure.Warnings
import FigureScript.Proofs.Figure.Admission
import FigureScript.Proofs.Number.Finite
import FigureScript.Proofs.Figure.Reading
import FigureScript.Proofs.Json.Yields
import FigureScript.Proofs.Figure.RoundTrip
import FigureScript.Proofs.Figure.Faults
import FigureScript.Proofs.Figure.Agreement
import FigureScript.Proofs.Figure.Labels
import FigureScript.Proofs.Figure.LegendEntries
import FigureScript.Proofs.Files.Paths
import FigureScript.Proofs.Machine
import FigureScript.Proofs.Runner.Script
import FigureScript.Proofs.Figure.Reordering
import FigureScript.Proofs.Figure.Addition
import FigureScript.Proofs.Figure.Settings
import FigureScript.Proofs.Figure.Phases
import FigureScript.Proofs.Figure.Emptiness
import FigureScript.Proofs.Figure.IdleSettings
import FigureScript.Proofs.CommandLine.Refusals
import FigureScript.Proofs.Grid.Selection
import FigureScript.Proofs.Series.Writing
import FigureScript.Proofs.Series.Encoding
import FigureScript.Proofs.Series.DataLists
import FigureScript.Proofs.Number.Nearest
import FigureScript.Proofs.Number.ReadBack
import FigureScript.Proofs.Script.Literals
import FigureScript.Proofs.Series.Index
import FigureScript.Proofs.Script.PaletteCalls
import FigureScript.Proofs.Series.Painting
import FigureScript.Proofs.Figure.Painting
import FigureScript.Proofs.Figure.Quick
import FigureScript.Proofs.Script.Entries
import FigureScript.Proofs.Json.Omission
import FigureScript.Proofs.Figure.Fields
import FigureScript.Proofs.Figure.Omissions
import FigureScript.Proofs.Figure.Abridged
