import Adventure.Actor.Basic
import Adventure.Actor.Crossing
import Adventure.Actor.Facing
import Adventure.Actor.Leg
import Adventure.Actor.Record
import Adventure.Actor.Walk
import Adventure.Command.Arguments
import Adventure.Command.Dump
import Adventure.Command.Play
import Adventure.Command.Session
import Adventure.Data.Bank
import Adventure.Data.Bytes
import Adventure.Data.Checked
import Adventure.Data.Digits
import Adventure.Data.Double
import Adventure.Datum.Basic
import Adventure.Datum.Json.Number
import Adventure.Datum.Json.Printer
import Adventure.Datum.Json.Quoted
import Adventure.Datum.Json.Reader
import Adventure.Datum.Packed
import Adventure.Datum.Pointer
import Adventure.Datum.Record
import Adventure.Files.Path
import Adventure.Files.Tree
import Adventure.Geometry.Point
import Adventure.Geometry.Segment
import Adventure.Geometry.Span
import Adventure.Machine.Basic
import Adventure.Machine.Execute
import Adventure.Machine.Schedule
import Adventure.Machine.Snapshot
import Adventure.Machine.SnapshotRecord
import Adventure.Machine.Tick
import Adventure.Machine.Trace
import Adventure.Main
import Adventure.Room.Adjacency
import Adventure.Room.Basic
import Adventure.Room.Snap
import Adventure.Routing.Block
import Adventure.Routing.Matrix
import Adventure.Routing.Rebuild
import Adventure.Rules
import Adventure.Save.Envelope
import Adventure.Save.Header
import Adventure.Scale.Block
import Adventure.Scale.Ramp
import Adventure.Scenario.Basic
import Adventure.Scenario.Build
import Adventure.Scenario.Reader
import Adventure.Script.Assembler
import Adventure.Script.CallStack
import Adventure.Script.Cutscene
import Adventure.Script.Error
import Adventure.Script.Instruction
import Adventure.Script.Library
import Adventure.Script.Record
import Adventure.Script.Slot
import Adventure.Text.Blank
import Adventure.WalkBox.Basic
import Adventure.WalkBox.Block
import Adventure.WalkBox.Outline
import Adventure.Proofs.Routing.Block
import Adventure.Proofs.Routing.ShortestRoute
import Adventure.Proofs.Machine.Running
import Adventure.Proofs.Machine.Handlers
import Adventure.Proofs.Machine.Effect
import Adventure.Proofs.Machine.Passage
import Adventure.Proofs.Machine.Orders
import Adventure.Proofs.Machine.Resume
import Adventure.Proofs.Script.Assembly
import Adventure.Proofs.Machine.Failure
import Adventure.Proofs.Machine.InStep
import Adventure.Proofs.Machine.Likeness
import Adventure.Proofs.Machine.Lodged
import Adventure.Proofs.Machine.Unison
import Adventure.Proofs.Room.Restored
import Adventure.Proofs.Machine.Continuation
import Adventure.Proofs.Machine.Restoring
import Adventure.Proofs.Machine.Runnable
import Adventure.Proofs.Machine.Override
import Adventure.Proofs.Machine.Deeds
import Adventure.Proofs.Machine.SlotTable
import Adventure.Proofs.Machine.Steady
import Adventure.Proofs.Machine.Balance
import Adventure.Proofs.Machine.Course
import Adventure.Proofs.Machine.Turns
import Adventure.Proofs.Machine.Singles
import Adventure.Proofs.Actor.Rounds
import Adventure.Proofs.Actor.Pace
import Adventure.Proofs.Actor.LegEnds
import Adventure.Proofs.Actor.Track
import Adventure.Proofs.Machine.Offstage
import Adventure.Proofs.Machine.Journal
import Adventure.Proofs.Machine.Opener
import Adventure.Proofs.Machine.Holds
import Adventure.Proofs.Scenario.Resumable
import Adventure.Proofs.Data.Bytes
import Adventure.Proofs.Datum.Packed
import Adventure.Proofs.Datum.Record
import Adventure.Proofs.Machine.SnapshotRecord
import Adventure.Proofs.Save.Header
import Adventure.Proofs.Save.Envelope
import Adventure.Proofs.WalkBox.Block
import Adventure.Proofs.Actor.Borders
import Adventure.Proofs.Geometry.Nearest
import Adventure.Proofs.Room.NearestBox
import Adventure.Proofs.Actor.Progress
import Adventure.Proofs.Actor.Lane
import Adventure.Proofs.Actor.Navigation
import Adventure.Proofs.Machine.Navigable
import Adventure.Proofs.Machine.Navigation
import Adventure.Proofs.Actor.Heeding
import Adventure.Proofs.Actor.Turning
import Adventure.Proofs.Actor.Stranded
import Adventure.Proofs.Geometry.Reprojection
import Adventure.Proofs.Room.SnapAgain
import Adventure.Proofs.Script.Numerals
import Adventure.Proofs.Script.Listing
import Adventure.Proofs.Text.Pieces
import Adventure.Proofs.Script.Spelling
import Adventure.Proofs.Script.Refusal
import Adventure.Proofs.Actor.TurnCourse
import Adventure.Proofs.Geometry.Convex
import Adventure.Proofs.Actor.SharedBorder
import Adventure.Proofs.Geometry.Enclosed
import Adventure.Proofs.Room.Neighbours
import Adventure.Proofs.Machine.Freezes
import Adventure.Proofs.Machine.Nested
import Adventure.Proofs.Machine.Delay
import Adventure.Proofs.Geometry.Projection
import Adventure.Proofs.Scale.Ramp
import Adventure.Proofs.Scale.Block
import Adventure.Proofs.Room.NamedBox
