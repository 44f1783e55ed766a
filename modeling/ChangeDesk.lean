import ChangeDesk.Main
import ChangeDesk.Rehearsal
import ChangeDesk.Screen.View
import ChangeDesk.Session.Typed
import ChangeDesk.Proofs.Diff.Compaction
import ChangeDesk.Proofs.Diff.Lines
import ChangeDesk.Proofs.Diff.Unified
import ChangeDesk.Proofs.Diff.Common
import ChangeDesk.Proofs.Diff.Frontier
import ChangeDesk.Proofs.Diff.Middle
import ChangeDesk.Proofs.Diff.Shortest
import ChangeDesk.Proofs.Desk.Effect
import ChangeDesk.Proofs.Desk.Office
import ChangeDesk.Proofs.Desk.Tokens
import ChangeDesk.Proofs.Draft.Sound
import ChangeDesk.Proofs.Desk.Submission
import ChangeDesk.Proofs.Desk.Jobs
import ChangeDesk.Proofs.Desk.Files
import ChangeDesk.Proofs.Desk.Complete
import ChangeDesk.Proofs.Desk.UnderWay
import ChangeDesk.Proofs.Draft.Slots
import ChangeDesk.Proofs.Desk.Viewing
import ChangeDesk.Proofs.Draft.History
import ChangeDesk.Proofs.Desk.Onward
import ChangeDesk.Proofs.Editor.Cursor
import ChangeDesk.Proofs.Editor.TwoLists
import ChangeDesk.Proofs.Editor.Offsets
import ChangeDesk.Proofs.Editor.Position
import ChangeDesk.Proofs.Draft.Dependents
import ChangeDesk.Proofs.Draft.Gate
import ChangeDesk.Proofs.Desk.Editing
import ChangeDesk.Proofs.Desk.Lookups
import ChangeDesk.Proofs.Desk.Waiting
import ChangeDesk.Proofs.Desk.Previewing
import ChangeDesk.Proofs.Desk.Commuting
import ChangeDesk.Proofs.Desk.Pending
import ChangeDesk.Proofs.Desk.Leaving
import ChangeDesk.Proofs.Desk.Loading
import ChangeDesk.Proofs.Draft.Fingerprint
import ChangeDesk.Proofs.Desk.Typing
import ChangeDesk.Proofs.Desk.Returning
import ChangeDesk.Proofs.Json.Literals
import ChangeDesk.Proofs.Binary64.Interval
import ChangeDesk.Proofs.Binary64.Shortest
import ChangeDesk.Proofs.Binary64.Rounding
import ChangeDesk.Proofs.Json.Numbers
import ChangeDesk.Proofs.Json.Floats
import ChangeDesk.Proofs.Json.Injective
import ChangeDesk.Proofs.Json.Reading
import ChangeDesk.Proofs.SortedMap
import ChangeDesk.Proofs.Session.Values
import ChangeDesk.Proofs.Session.History
import ChangeDesk.Proofs.Api.Requests
import ChangeDesk.Proofs.Api.Message
import ChangeDesk.Proofs.Api.Response
import ChangeDesk.Proofs.Desk.Attempts
import ChangeDesk.Proofs.Draft.Stages
import ChangeDesk.Proofs.Desk.Completing
import ChangeDesk.Proofs.Desk.Cursors
import ChangeDesk.Proofs.Desk.Rechoosing
import ChangeDesk.Proofs.Debounce
import ChangeDesk.Proofs.Draft.Refusals
import ChangeDesk.Proofs.Editor.Confirming
import ChangeDesk.Proofs.Text.Utf8
import ChangeDesk.Proofs.Text.Basic
import ChangeDesk.Proofs.Http.Form
import ChangeDesk.Proofs.Http.Url
import ChangeDesk.Proofs.Api.Parameters
import ChangeDesk.Proofs.Picker
import ChangeDesk.Proofs.Json.Record
import ChangeDesk.Proofs.Model
import ChangeDesk.Proofs.Settings
import ChangeDesk.Proofs.Disk
import ChangeDesk.Proofs.Program.Run
import ChangeDesk.Proofs.Program.Config
import ChangeDesk.Proofs.Screen.Area
import ChangeDesk.Proofs.Screen.Canvas
import ChangeDesk.Proofs.Screen.Edited
