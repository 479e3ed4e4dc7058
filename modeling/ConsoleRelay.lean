import ConsoleRelay.Session
import ConsoleRelay.Host.Machine
import ConsoleRelay.Main
import ConsoleRelay.Proofs.Message.Truncation
import ConsoleRelay.Proofs.Session.Registry
import ConsoleRelay.Proofs.Session.Delivery
import ConsoleRelay.Proofs.Session.Omission
import ConsoleRelay.Proofs.Session.Verbosity
import ConsoleRelay.Proofs.Session.Containment
import ConsoleRelay.Proofs.Launch.Course
import ConsoleRelay.Proofs.Message.Agreement
import ConsoleRelay.Proofs.Message.Representation
import ConsoleRelay.Proofs.Handler.Trimming
import ConsoleRelay.Proofs.Session.Dispatch
import ConsoleRelay.Proofs.Format.Concatenation
import ConsoleRelay.Proofs.Launch.Search
import ConsoleRelay.Proofs.Handler.Reports
import ConsoleRelay.Proofs.Launch.Plan
import ConsoleRelay.Proofs.Session.Destruction
