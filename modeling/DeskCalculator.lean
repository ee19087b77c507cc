import DeskCalculator.Main
import DeskCalculator.Proofs.EditableLeaf
import DeskCalculator.Proofs.EntryLimit
import DeskCalculator.Proofs.FiniteValues
import DeskCalculator.Proofs.JsonText
import DeskCalculator.Proofs.KeyComments
import DeskCalculator.Proofs.KeypadRuns
import DeskCalculator.Proofs.MainLoop
import DeskCalculator.Proofs.MemoryAsides
import DeskCalculator.Proofs.MemoryHistory
import DeskCalculator.Proofs.MemoryMode
import DeskCalculator.Proofs.NearestDouble
import DeskCalculator.Proofs.NodeSession
import DeskCalculator.Proofs.NodeTree
import DeskCalculator.Proofs.NodeValues
import DeskCalculator.Proofs.NumberDraft
import DeskCalculator.Proofs.NumberEntry
import DeskCalculator.Proofs.NumberText
import DeskCalculator.Proofs.OperatorChain
import DeskCalculator.Proofs.PrintedText
import DeskCalculator.Proofs.Readability
import DeskCalculator.Proofs.RefusedKeys
import DeskCalculator.Proofs.Rounding
import DeskCalculator.Proofs.SafeRuns
import DeskCalculator.Proofs.SessionInvariant
import DeskCalculator.Proofs.SessionRuns
import DeskCalculator.Proofs.SettingsFields
import DeskCalculator.Proofs.SettingsFile
import DeskCalculator.Proofs.SettingsLoading
import DeskCalculator.Proofs.SpeechAvailability
import DeskCalculator.Proofs.SpeechQueue
import DeskCalculator.Proofs.TextFile
import DeskCalculator.Proofs.TreeContents
import DeskCalculator.Proofs.TreeShape
import DeskCalculator.Proofs.VoiceIndependence
import DeskCalculator.Proofs.SignToggle
import DeskCalculator.Proofs.NumbersReadBack
import DeskCalculator.Proofs.SettingsMembers
import DeskCalculator.Proofs.SwitchesAndFile
import DeskCalculator.Proofs.Evaluability
import DeskCalculator.Proofs.OperatorNames
import DeskCalculator.Proofs.Damping
import DeskCalculator.Proofs.MessageLifetime
