import AccountAdmin.Diagnostic
import AccountAdmin.Main
import AccountAdmin.Proofs.Config.OwnedSlot
import AccountAdmin.Proofs.Console.Diagnostics
import AccountAdmin.Proofs.Console.ErrorContract
import AccountAdmin.Proofs.Console.SessionLifecycle
import AccountAdmin.Proofs.Program.RecordTarget
import AccountAdmin.Proofs.Program.SavedStatus
import AccountAdmin.Proofs.Program.TokenConfinement
import AccountAdmin.Proofs.Program.TokenOpacity
import AccountAdmin.Proofs.Service.CallReader
import AccountAdmin.Proofs.Service.Triage
import AccountAdmin.Proofs.Display.Rendering
import AccountAdmin.Proofs.Json.Indented
import AccountAdmin.Proofs.Program.FailureShown
import AccountAdmin.Proofs.Console.Drawing
import AccountAdmin.Proofs.Program.JsonOutput
import AccountAdmin.Proofs.Program.ShellLines
import AccountAdmin.Proofs.Program.ConfigEffect
import AccountAdmin.Proofs.Console.Epochs
import AccountAdmin.Proofs.Service.RecordWire
import AccountAdmin.Proofs.Console.BaseUrl
import AccountAdmin.Proofs.CommandLine.LineReading
import AccountAdmin.Proofs.CommandLine.QuotedWords
import AccountAdmin.Proofs.Account.RecordFormat
import AccountAdmin.Proofs.Console.NullTolerance
import AccountAdmin.Proofs.Service.CallUrl
import AccountAdmin.Proofs.Program.UserTable
