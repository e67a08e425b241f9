import ModSettings.Bridge.Install
import ModSettings.Event.Script
import ModSettings.Host.Plugin
import ModSettings.Proofs.Bridge.EarlyCalls
import ModSettings.Proofs.Bridge.Promotion
import ModSettings.Proofs.Bridge.Soundness
import ModSettings.Proofs.Exec.Confinement
import ModSettings.Proofs.Session.Menu
import ModSettings.Proofs.Session.Receiver
import ModSettings.Proofs.Settings.History
import ModSettings.Text.SignedZero
import ModSettings.Proofs.Bridge.Greedy
import ModSettings.Proofs.Session.Steady
import ModSettings.Proofs.Session.Refusal
import ModSettings.Proofs.Event.Alike
import ModSettings.Proofs.Session.Shutdown
import ModSettings.Proofs.Session.Isolation
import ModSettings.Proofs.Bridge.Positions
import ModSettings.Proofs.Bridge.Adaptable
import ModSettings.Proofs.Bridge.Choice
import ModSettings.Proofs.Bridge.Sites
import ModSettings.Proofs.Bridge.Account
import ModSettings.Proofs.Exec.Depth
import ModSettings.Proofs.Exec.Frames
import ModSettings.Proofs.Event.Gate
import ModSettings.Proofs.Session.Origin
import ModSettings.Proofs.Event.Entry
import ModSettings.Proofs.Session.Relay
import ModSettings.Proofs.Event.Minding
import ModSettings.Proofs.Session.Past
import ModSettings.Proofs.Session.Residue
import ModSettings.Proofs.Program.LateBinding
import ModSettings.Proofs.Program.Table
