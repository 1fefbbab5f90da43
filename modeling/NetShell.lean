import NetShell.Connection.Socket
import NetShell.Main
import NetShell.Proofs.LineDelivery
import NetShell.Proofs.FramedPhase
import NetShell.Proofs.ReadSchedule
import NetShell.Proofs.Teardown
import NetShell.Proofs.Writing
import NetShell.Proofs.Approach
import NetShell.Proofs.Callbacks
import NetShell.Proofs.Fragments
import NetShell.Proofs.ShellFrames
import NetShell.Proofs.StatusShown
import NetShell.Proofs.Outbound
import NetShell.Proofs.HttpPhase
import NetShell.Proofs.Membership
import NetShell.Proofs.StopSweep
import NetShell.Proofs.Bounds
import NetShell.Proofs.Precedence
import NetShell.Proofs.Silence
import NetShell.Proofs.Unfailing
import NetShell.Proofs.RoundTrip
import NetShell.Proofs.Commands
import NetShell.Proofs.Exchange
import NetShell.Proofs.Keys
import NetShell.Proofs.Retries
import NetShell.Proofs.EndOfTransmission
import NetShell.Proofs.Draining
import NetShell.Proofs.Lined
import NetShell.Proofs.Report
import NetShell.Proofs.Settling
import NetShell.Proofs.Base64
import NetShell.Proofs.UpgradeReply
