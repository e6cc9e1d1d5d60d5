import Porthook.Gateway.ResponseOrder
import Porthook.Gateway.StreamSlots
import Porthook.Gateway.Drain
import Porthook.Gateway.DomainCache
import Porthook.Gateway.Cancellation
import Porthook.Gateway.Guessing
import Porthook.Gateway.Throttle
import Porthook.Gateway.RequestID
import Porthook.ControlPlane.Passwords
import Porthook.ControlPlane.TokenRuns
import Porthook.ControlPlane.AccessRuns
import Porthook.ControlPlane.AccessChecks
import Porthook.ControlPlane.MemoryStores
import Porthook.ControlPlane.References
import Porthook.ControlPlane.Escalation
import Porthook.Agent.Output
import Porthook.Agent.RequestBody
import Porthook.Agent.Forward
import Porthook.Agent.ReadLoop
import Porthook.Agent.Backoff
import Porthook.Tunnel.Keepalive
import Porthook.Tunnel.CircularWait
import Porthook.Tunnel.Ownership
import Porthook.Tunnel.Passage
import Porthook.Tunnel.StreamTimers
import Porthook.Tunnel.BodyLimits
import Porthook.Tunnel.Allowlists
import Porthook.Tunnel.Credentials
import Porthook.Tunnel.Announcement
import Porthook.WebSocket.Orphans
import Porthook.WebSocket.Fidelity
import Porthook.WebSocket.SessionEnd
import Porthook.WebSocket.CloseFrames
import Porthook.History.Refinement
import Porthook.History.AuditAgreement
