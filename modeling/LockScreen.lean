import LockScreen.Color
import LockScreen.Graphics.Library
import LockScreen.Graphics.Script
import LockScreen.Handoff.Exchange
import LockScreen.Image.Png
import LockScreen.Keyboard.Table
import LockScreen.Main
import LockScreen.Pattern
import LockScreen.Proofs.BufferOwnership
import LockScreen.Proofs.ColorGrammar
import LockScreen.Proofs.CommandLine
import LockScreen.Proofs.FailedPublish
import LockScreen.Proofs.FirstOutcome
import LockScreen.Proofs.FrameLedger
import LockScreen.Proofs.FrameReadback
import LockScreen.Proofs.GraphicsLeases
import LockScreen.Proofs.HandedEvents
import LockScreen.Proofs.HandleLifecycle
import LockScreen.Proofs.HandleProgress
import LockScreen.Proofs.HandleRuns
import LockScreen.Proofs.HandleStates
import LockScreen.Proofs.InputDelivery
import LockScreen.Proofs.InputDraining
import LockScreen.Proofs.InputLoss
import LockScreen.Proofs.InputRuns
import LockScreen.Proofs.KeyText
import LockScreen.Proofs.KeyboardHistory
import LockScreen.Proofs.KeymapObjects
import LockScreen.Proofs.KeymapText
import LockScreen.Proofs.LifeTurns
import LockScreen.Proofs.OffscreenObjects
import LockScreen.Proofs.PipeTraffic
import LockScreen.Proofs.PointerHistory
import LockScreen.Proofs.PortableKeys
import LockScreen.Proofs.PromptPicture
import LockScreen.Proofs.PromptShown
import LockScreen.Proofs.PromptTyping
import LockScreen.Proofs.PublishedFrames
import LockScreen.Proofs.QuietSteps
import LockScreen.Proofs.RepeatTimeline
import LockScreen.Proofs.ScheduleIndependence
import LockScreen.Proofs.ScreenRelease
import LockScreen.Proofs.StreamSeparation
import LockScreen.Proofs.WaitRounding
import LockScreen.Proofs.WireCodec
import LockScreen.Session
import LockScreen.Toml.Document
