import TmuxPlan.Main
import TmuxPlan.Proofs.Emit.Construction
import TmuxPlan.Proofs.Emit.History
import TmuxPlan.Proofs.Description.Parts
import TmuxPlan.Proofs.Description.Respelling
import TmuxPlan.Proofs.Description.Migration
import TmuxPlan.Proofs.Normalize.Acceptance
import TmuxPlan.Proofs.Normalize.Correspondence
import TmuxPlan.Proofs.Emit.Flattening
import TmuxPlan.Proofs.Normalize.Sugar
import TmuxPlan.Proofs.Replay.Listing
import TmuxPlan.Proofs.Replay.Consent
import TmuxPlan.Proofs.Run.Gates
import TmuxPlan.Proofs.Text.Pieces
import TmuxPlan.Proofs.Emit.Typing
import TmuxPlan.Proofs.Shell.Verbatim
import TmuxPlan.Proofs.Emit.Login
import TmuxPlan.Proofs.Emit.Offline
import TmuxPlan.Proofs.Emit.Comments
import TmuxPlan.Proofs.Ssh.Requests
import TmuxPlan.Proofs.Emit.Retry
import TmuxPlan.Proofs.Ssh.Overlay
import TmuxPlan.Proofs.Description.Conservation
import TmuxPlan.Proofs.Description.Writing
import TmuxPlan.Proofs.Description.Damage
import TmuxPlan.Proofs.Normalize.Damage
import TmuxPlan.Proofs.Description.Rows
import TmuxPlan.Proofs.Emit.Openings
import TmuxPlan.Proofs.Normalize.Naming
import TmuxPlan.Proofs.Session.Focus
import TmuxPlan.Proofs.Path.Home
import TmuxPlan.Proofs.Session.Coordinates
