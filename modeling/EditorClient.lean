import EditorClient.Main
import EditorClient.Proofs.Lines
import EditorClient.Proofs.Lockstep
import EditorClient.Proofs.Reply.Chunks
import EditorClient.Proofs.Reply.Invariants
import EditorClient.Proofs.SendBuffer.Stream
import EditorClient.Proofs.SendBuffer.Reliable
import EditorClient.Proofs.SendBuffer.Flushes
import EditorClient.Proofs.SendBuffer.WholeLines
import EditorClient.Proofs.Session.Bridge
import EditorClient.Proofs.Session.Effects
import EditorClient.Proofs.Text.Lossless
import EditorClient.Proofs.Text.Numeral
import EditorClient.Proofs.Reply.ProcessNumber
import EditorClient.Proofs.Session.Handler
import EditorClient.Proofs.Session.Chunks
import EditorClient.Proofs.Session.WaitingMessage
import EditorClient.Proofs.Request.RoundTrip
import EditorClient.Proofs.Text.Decimal
import EditorClient.Proofs.Reply.RoundTrip
import EditorClient.Proofs.Reply.Repeats
import EditorClient.Proofs.Session.Messages
import EditorClient.Proofs.Session.Sent
import EditorClient.Proofs.Reply.Handover
import EditorClient.Proofs.Server.Course
import EditorClient.Proofs.Reply.LineEnds
import EditorClient.Proofs.Reply.Errors
import EditorClient.Proofs.Session.Deeds
import EditorClient.Proofs.Session.Verdict
import EditorClient.Proofs.Options.Implied
import EditorClient.Proofs.Request.Contents
import EditorClient.Proofs.Request.Frames
import EditorClient.Proofs.Session.Announced
import EditorClient.Proofs.Session.Interleaving
import EditorClient.Proofs.Options.RoundTrip
import EditorClient.Proofs.Session.Stages
import EditorClient.Proofs.Session.Ahead
import EditorClient.Proofs.Session.Passing
import EditorClient.Proofs.Session.HeldBack
import EditorClient.Proofs.CommandLine.Messages
import EditorClient.Proofs.Session.BridgeStarts
import EditorClient.Proofs.CommandLine.Ending
import EditorClient.Proofs.Wire.WellFormed
import EditorClient.Proofs.Server.Address
import EditorClient.Proofs.Server.File
import EditorClient.Proofs.Server.Trials
import EditorClient.Proofs.Server.Announcements
import EditorClient.Proofs.Options.Composition
import EditorClient.Proofs.Server.SocketPath
import EditorClient.Proofs.Options.Spellings
import EditorClient.Proofs.AlternateEditor.Rounds
import EditorClient.Proofs.AlternateEditor.Quoted
import EditorClient.Proofs.Reply.Suppressed
import EditorClient.Proofs.Number.Nearest
import EditorClient.Proofs.Session.Timeout
import EditorClient.Proofs.Request.Expressions
import EditorClient.Proofs.Session.Fallback
import EditorClient.Proofs.SendBuffer.Rounds
import EditorClient.Proofs.Reply.FullSinks
import EditorClient.Proofs.Request.Positions
