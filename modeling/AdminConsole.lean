import AdminConsole.Console.Tab
import AdminConsole.Environment
import AdminConsole.Startup
import AdminConsole.Proofs.BaseUrl
import AdminConsole.Proofs.Cookie
import AdminConsole.Proofs.Session.Admission
import AdminConsole.Proofs.Session.Arrival
import AdminConsole.Proofs.Session.Report
import AdminConsole.Proofs.Session.Ended
import AdminConsole.Proofs.Session.Migration
import AdminConsole.Proofs.Session.Retry
import AdminConsole.Proofs.Session.Writes
import AdminConsole.Proofs.Client.Check
import AdminConsole.Proofs.Client.Forwarding
import AdminConsole.Proofs.Client.Relay
import AdminConsole.Proofs.Wire.RoundTrip
import AdminConsole.Proofs.Wire.Lenient
import AdminConsole.Proofs.Route
import AdminConsole.Proofs.ProviderId
import AdminConsole.Proofs.Query
import AdminConsole.Proofs.Url.Authority
import AdminConsole.Proofs.Client.Origin
import AdminConsole.Proofs.LoginForm
import AdminConsole.Proofs.Upgrade
import AdminConsole.Proofs.Environment
