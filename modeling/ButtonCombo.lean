import ButtonCombo.Text.CharRange
import ButtonCombo.Text.Blank
import ButtonCombo.Text.Lines
import ButtonCombo.Text.Position
import ButtonCombo.Button
import ButtonCombo.Mask
import ButtonCombo.Text.Hexadecimal
import ButtonCombo.Mask.Text
import ButtonCombo.GamePad
import ButtonCombo.Source
import ButtonCombo.Log
import ButtonCombo.Recognizer
import ButtonCombo.Recognizer.Report
import ButtonCombo.Text.Hidden
import ButtonCombo.Text.Literal
import ButtonCombo.Decimal.Shortest
import ButtonCombo.Decimal.Reader
import ButtonCombo.Code
import ButtonCombo.Session
import ButtonCombo.DebugMode
import ButtonCombo.Indicator
import ButtonCombo.Script
import ButtonCombo.Replay
import ButtonCombo.Replay.Print
import ButtonCombo.NameMap
import ButtonCombo.Key
import ButtonCombo.KeyMap
import ButtonCombo.Datum
import ButtonCombo.Toml.Blank
import ButtonCombo.Toml.Quoted
import ButtonCombo.Toml.Number
import ButtonCombo.Toml.Instant
import ButtonCombo.Toml.Table
import ButtonCombo.Toml.Value
import ButtonCombo.Toml.Document
import ButtonCombo.Config
import ButtonCombo.Directory
import ButtonCombo.CommandLine
import ButtonCombo.StopSignal
import ButtonCombo.Watch
import ButtonCombo.Watch.Print
import ButtonCombo.KeyMap.Listing
import ButtonCombo.Program
import ButtonCombo.Main
import ButtonCombo.Proofs.Tick
import ButtonCombo.Proofs.SessionTick
import ButtonCombo.Proofs.Blocks
import ButtonCombo.Proofs.Language
import ButtonCombo.Proofs.Leftover
import ButtonCombo.Proofs.FailingCallback
import ButtonCombo.Proofs.Coherence
import ButtonCombo.Proofs.Lifecycle
import ButtonCombo.Proofs.ReplayTick
import ButtonCombo.Proofs.WatchTick
import ButtonCombo.Proofs.WatchReplay
import ButtonCombo.Proofs.ReplayProgress
import ButtonCombo.Proofs.ReplayMemory
import ButtonCombo.Proofs.ReplayIdle
import ButtonCombo.Proofs.NameEntries
import ButtonCombo.Proofs.KeyOverrides
import ButtonCombo.Proofs.ReadsAndCalls
import ButtonCombo.Proofs.SourceWrites
import ButtonCombo.Proofs.SessionEffects
import ButtonCombo.Proofs.Pieces
import ButtonCombo.Proofs.MaskParts
import ButtonCombo.Proofs.MaskPrint
import ButtonCombo.Proofs.MaskGrammar
import ButtonCombo.Proofs.ScriptLines
import ButtonCombo.Proofs.ScriptRendering
import ButtonCombo.Proofs.ScriptErrors
import ButtonCombo.Proofs.ReplayEntry
import ButtonCombo.Proofs.SequenceOverride
import ButtonCombo.Proofs.PrintedSequence
import ButtonCombo.Proofs.StatusText
import ButtonCombo.Proofs.WatchTranscript
import ButtonCombo.Proofs.StatusReading
import ButtonCombo.Proofs.OverrideSeries
import ButtonCombo.Proofs.KeyListing
import ButtonCombo.Proofs.PadEdges
import ButtonCombo.Proofs.PadDriving
